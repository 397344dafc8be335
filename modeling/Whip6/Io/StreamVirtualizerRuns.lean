import Whip6.Io.StreamVirtualizer
import Whip6.Lib.History
import Whip6.Lib.Ledger

/-!
# Runs of the stream virtualizer

What the clients and the writer below see of the virtualizer in any run: at most one write in flight,
every write finished once at its client, each client in its turn, and the end of all writes before a
stop completes, after a bounded number of steps.  While it is being stopped, the virtualizer counts the
clients down but looks at them upwards, so that it finishes the right one only in the middle; the
results are about the runs in which no other client has a write left then.
-/

namespace Whip6

open Lib

namespace DiscreteStreamVirtualizer

/-! ## What the clients and the writer below see -/

/-- The vectors that the writer below has taken and not finished. -/
def flight : DiscreteStreamAct → LedgerEntry ℕ
  | .initiated _ write status => if status = SUCCESS then .opens write.iov else .other
  | .doneBelow iov _ => .closes iov
  | _ => .other

def acceptedFrom (clientId : ℕ) (acts : List DiscreteStreamAct) : List (Option DiscreteStreamWrite) :=
  acts.filterMap fun
    | .accepted c write => if c = clientId then some (some write) else none
    | _ => none

def finishedAt (clientId : ℕ) (acts : List DiscreteStreamAct) : List (Option DiscreteStreamWrite) :=
  acts.filterMap fun
    | .finished c write _ => if c = clientId then some write else none
    | _ => none

/-- The client whose write is in flight, and the clients whose writes were in flight or handed down
since the last write of `clientId` was accepted. -/
def seeServed (clientId : ℕ) : List ℕ × List ℕ → DiscreteStreamAct → List ℕ × List ℕ
  | (flight, since), .accepted c _ => (flight, if c = clientId then flight else since)
  | (flight, since), .initiated c _ status =>
    (if status = SUCCESS then [c] else flight, since ++ [c])
  | (_, since), .doneBelow _ _ => ([], since)
  | view, _ => view

def served (clientId : ℕ) (acts : List DiscreteStreamAct) : List ℕ × List ℕ :=
  acts.foldl (seeServed clientId) ([], [])

/-- Whether the virtualizer is being stopped. -/
def isStopping (acts : List DiscreteStreamAct) : Bool :=
  acts.foldl (fun stopping => fun
    | .stopping => true
    | .stopped => false
    | _ => stopping) false

/-- Whether the write in flight was canceled. -/
def isCanceled (acts : List DiscreteStreamAct) : Bool :=
  acts.foldl (fun canceled => fun
    | .canceledBelow _ => true
    | .initiated _ _ _ => false
    | .stopped => false
    | _ => canceled) false

/-- While the virtualizer is being stopped, no write is accepted or handed down, and all end with
`ECANCEL`, except the one in flight when the writer below has finished it before it was canceled.
When the stop completes, no write is left. -/
def StopsWell (pre : List DiscreteStreamAct) : DiscreteStreamAct → Prop
  | .accepted _ _ => isStopping pre = false
  | .initiated _ _ _ => isStopping pre = false
  | .finished _ write status => isStopping pre = true → status = ECANCEL ∨
      ∃ pre' w, pre = pre' ++ [.doneBelow w.iov status] ∧ write = some w ∧ isCanceled pre' = false
  | .stopped => ∀ c, acceptedFrom c pre = finishedAt c pre
  | _ => True

/-- Tasks run when they are posted, and between them the layers below do what they have to: the writer
finishes what it has, with `ECANCEL` when it was canceled, and the reader reads one data unit at a
time. -/
def Allowed (numClients : ℕ) (w : Watched DiscreteStreamVirtualizer DiscreteStreamAct) :
    DiscreteStreamEvent → Prop
  | .start _ => True
  | .stop _ => True
  | .startReadingDataUnit _ clientId _ => clientId < numClients
  | .startWritingDataUnit _ clientId _ _ => clientId < numClients
  | .readyToRead _ _ => w.state.phase = .idle ∧ w.state.rdClientIdx = numClients
  | .provided _ => ∃ clientId size channel, w.state.phase = .asked clientId size channel
  | .doneReading _ _ _ => w.state.phase = .idle ∧ w.state.rdClientIdx ≠ numClients
  | .handleClientsTask _ => w.state.phase = .idle ∧ w.state.handleClientsTaskPosted = true
  | .doneWriting iov status => w.state.phase = .idle ∧
      (∃ l ∈ ledger flight [] w.history, iov ∈ l) ∧
      (isCanceled w.history = true → status = ECANCEL)
  | .returned => ∃ wrClientIdx, w.state.phase = .told wrClientIdx

/-- When the task finishes a write that is left at a stop, its client is the one in the middle. -/
def Spares (numClients : ℕ) (w : Watched DiscreteStreamVirtualizer DiscreteStreamAct) :
    DiscreteStreamEvent → Prop
  | .handleClientsTask _ => w.state.changingState = true → w.state.writingActive = false →
      w.state.rdClientIdx = numClients →
        ∀ i, ((List.range numClients).find? fun i => (w.state.clientData i).iovWrPtr.isSome) =
          some i → numClients - i = i
  | _ => True

/-- A client has a write that is not in flight. -/
def Waits (s : DiscreteStreamVirtualizer) (clientId : ℕ) : Prop :=
  (s.clientData clientId).write.isSome ∧ ¬ (s.writingActive = true ∧ clientId = s.wrClientIdx)

/-- The events that bring a stop forward. -/
def IsProgress : DiscreteStreamEvent → Bool
  | .handleClientsTask _ => true
  | .doneWriting _ _ => true
  | .doneReading _ _ _ => true
  | .returned => true
  | _ => false

/-- A bound on the events up to the end of a stop. -/
def stopBound (numClients : ℕ) (s : DiscreteStreamVirtualizer) : ℕ :=
  4 * (List.range numClients).countP (fun i => (s.clientData i).write.isSome) +
    (if s.rdClientIdx = numClients then 0 else 2) + (if s.handleClientsTaskPosted then 1 else 0) +
    (if s.phase = .idle then 0 else 1) + (if s.writingActive && !s.writingCanceled then 1 else 0)

/-- What the virtualizer promises, but for the length of a stop. -/
structure Correct (numClients : ℕ) (s : DiscreteStreamVirtualizer) (acts : List DiscreteStreamAct) :
    Prop where
  /-- At most one write is in flight. -/
  oneInFlight : ∃ l, ledger flight [] acts = some l ∧ l.length ≤ 1
  /-- Each write that was accepted from a client was finished there, with its vector, or is still
  to be finished. -/
  finishedOnce : ∀ c, acceptedFrom c acts =
    finishedAt c acts ++ (s.clientData c).write.toList.map some
  /-- While a client waits, no other has more than one write served. -/
  fair : ∀ c, s.Waits c → (served c acts).2.Nodup ∧ c ∉ (served c acts).2
  /-- Where a write is left, the task is to run, or the writer or the reader below is at work. -/
  served : ∀ c, (s.clientData c).write.isSome → s.handleClientsTaskPosted = true ∨
    (∃ l ∈ ledger flight [] acts, l ≠ []) ∨ s.rdClientIdx ≠ numClients
  stops : Justified StopsWell acts
  /-- While the virtualizer is being stopped, the task is to run, or the writer below has to finish
  a write that was canceled, or the reader below a data unit. -/
  stopsOn : isStopping acts = true → s.handleClientsTaskPosted = true ∨
    ((∃ l ∈ ledger flight [] acts, l ≠ []) ∧ isCanceled acts = true) ∨ s.rdClientIdx ≠ numClients

/-! ## The invariant -/

/-- The index from which the next client is looked for. -/
def turn (numClients : ℕ) (s : DiscreteStreamVirtualizer) : ℕ :=
  match s.phase with
  | .told i => i
  | _ => if s.writingActive then nextIdx numClients s.wrClientIdx else s.wrClientIdx

/-- The state of the writes, of the task and of a stop. -/
structure StateInv (numClients : ℕ) (s : DiscreteStreamVirtualizer) : Prop where
  wrClientIdx_lt : s.wrClientIdx < numClients
  outside : ∀ c, numClients ≤ c → (s.clientData c).write = none
  told : ∀ i, s.phase = .told i →
    i < numClients ∧ s.writingActive = false ∧ s.handleClientsTaskPosted = true
  off : s.isActive = false → s.changingState = false ∧ s.writingActive = false ∧
    ∀ c, (s.clientData c).write = none
  canceled : s.changingState = false → s.writingCanceled = false
  work : s.changingState = false → ∀ c, (s.clientData c).write.isSome →
    s.handleClientsTaskPosted = true ∨ s.writingActive = true
  stopping : s.changingState = true → s.handleClientsTaskPosted = true ∨
    (s.writingActive = true ∧ s.writingCanceled = true) ∨ s.rdClientIdx ≠ numClients

/-- What the history says of the state. -/
structure HistoryInv (numClients : ℕ) (s : DiscreteStreamVirtualizer)
    (acts : List DiscreteStreamAct) : Prop where
  inFlight : ledger flight [] acts =
    some (if s.writingActive then ((s.clientData s.wrClientIdx).write.map (·.iov)).toList else [])
  active : s.writingActive = true → (s.clientData s.wrClientIdx).write.isSome
  finishedOnce : ∀ c, acceptedFrom c acts =
    finishedAt c acts ++ (s.clientData c).write.toList.map some
  flightOf : ∀ c, (served c acts).1 = if s.writingActive then [s.wrClientIdx] else []
  fair : ∀ c, s.Waits c → (served c acts).2.Nodup ∧ ∀ i ∈ (served c acts).2,
    i < numClients ∧ ahead numClients (s.turn numClients) c < ahead numClients (s.turn numClients) i
  isStopping : isStopping acts = s.changingState
  isCanceled : isCanceled acts = s.writingCanceled
  stops : Justified StopsWell acts

structure Inv (numClients : ℕ) (s : DiscreteStreamVirtualizer)
    (acts : List DiscreteStreamAct) : Prop where
  state : StateInv numClients s
  history : HistoryInv numClients s acts

section Views

variable {acts : List DiscreteStreamAct} {c : ℕ}

theorem acceptedFrom_append (acts' : List DiscreteStreamAct) :
    acceptedFrom c (acts ++ acts') = acceptedFrom c acts ++ acceptedFrom c acts' :=
  List.filterMap_append

theorem finishedAt_append (acts' : List DiscreteStreamAct) :
    finishedAt c (acts ++ acts') = finishedAt c acts ++ finishedAt c acts' :=
  List.filterMap_append

theorem served_concat (act : DiscreteStreamAct) :
    served c (acts ++ [act]) = seeServed c (served c acts) act := by
  rw [served, List.foldl_append]
  rfl

end Views

section Invariant

variable {numClients : ℕ} {s s' : DiscreteStreamVirtualizer} {acts : List DiscreteStreamAct}
  {c : ℕ} {status answer : ErrorT}

/-- What the history says of the writes depends on the writes alone. -/
theorem HistoryInv.congr (h : HistoryInv numClients s acts)
    (hwrite : ∀ c, (s'.clientData c).write = (s.clientData c).write)
    (hidx : s'.wrClientIdx = s.wrClientIdx) (hactive : s'.writingActive = s.writingActive)
    (hturn : s'.turn numClients = s.turn numClients)
    (hchanging : s'.changingState = s.changingState)
    (hcanceled : s'.writingCanceled = s.writingCanceled) : HistoryInv numClients s' acts where
  inFlight := by rw [hactive, hidx, hwrite]; exact h.inFlight
  active hactive' := by rw [hidx, hwrite]; exact h.active (hactive ▸ hactive')
  finishedOnce c := by rw [hwrite]; exact h.finishedOnce c
  flightOf c := by rw [hactive, hidx]; exact h.flightOf c
  fair c hwaits := by
    rw [hturn]
    refine h.fair c ?_
    rw [Waits, hwrite, hactive, hidx] at hwaits
    exact hwaits
  isStopping := h.isStopping.trans hchanging.symm
  isCanceled := h.isCanceled.trans hcanceled.symm
  stops := h.stops

/-- Acts that say nothing of writes. -/
def IsQuiet : DiscreteStreamAct → Prop
  | .canceledBelow _ => True
  | .finishedReading _ _ _ _ => True
  | .stopping => True
  | .stopped => True
  | _ => False

/-- An act that says nothing of writes, and a step that leaves the writes alone. -/
theorem HistoryInv.quiet {act : DiscreteStreamAct} (h : HistoryInv numClients s acts)
    (hquiet : IsQuiet act) (hok : StopsWell acts act)
    (hwrite : ∀ c, (s'.clientData c).write = (s.clientData c).write)
    (hidx : s'.wrClientIdx = s.wrClientIdx) (hactive : s'.writingActive = s.writingActive)
    (hturn : s'.turn numClients = s.turn numClients)
    (hstopping : DiscreteStreamVirtualizer.isStopping (acts ++ [act]) = s'.changingState)
    (hcanceled : DiscreteStreamVirtualizer.isCanceled (acts ++ [act]) = s'.writingCanceled) :
    HistoryInv numClients s' (acts ++ [act]) := by
  have hflight : flight act = .other := by cases act <;> first | rfl | exact hquiet.elim
  have haccepted : ∀ c, acceptedFrom c [act] = [] := by
    intro c
    cases act <;> first | rfl | exact hquiet.elim
  have hfinished : ∀ c, finishedAt c [act] = [] := by
    intro c
    cases act <;> first | rfl | exact hquiet.elim
  have hserved : ∀ c, served c (acts ++ [act]) = served c acts := by
    intro c
    rw [served_concat]
    cases act <;> first | rfl | exact hquiet.elim
  refine ⟨?_, fun hactive' => ?_, fun c => ?_, fun c => ?_, fun c hwaits => ?_, hstopping, hcanceled,
    h.stops.concat hok⟩
  · rw [ledger_append, h.inFlight, hactive, hidx, hwrite]
    simp [ledger, hflight]
  · rw [hidx, hwrite]
    exact h.active (hactive ▸ hactive')
  · rw [acceptedFrom_append, finishedAt_append, haccepted, hfinished, List.append_nil,
      List.append_nil, hwrite]
    exact h.finishedOnce c
  · rw [hserved, hactive, hidx]
    exact h.flightOf c
  · rw [hturn, hserved]
    refine h.fair c ?_
    rw [Waits, hwrite, hactive, hidx] at hwaits
    exact hwaits

/-- A client is told of the end of its write, when none is in flight. -/
theorem HistoryInv.finish {i next : ℕ} {write : DiscreteStreamWrite}
    (hactive : s.writingActive = false) (hwrite : (s.clientData i).write = some write)
    (hflight : ledger flight [] acts = some [])
    (honce : ∀ c, acceptedFrom c acts =
      finishedAt c acts ++ (s.clientData c).write.toList.map some)
    (hflightOf : ∀ c, (served c acts).1 = [])
    (hfair : ∀ c, c ≠ i → (s.clientData c).write.isSome → (served c acts).2.Nodup ∧
      ∀ j ∈ (served c acts).2, j < numClients ∧ ahead numClients next c < ahead numClients next j)
    (hstopping : DiscreteStreamVirtualizer.isStopping acts = s.changingState)
    (hcanceled : DiscreteStreamVirtualizer.isCanceled acts = s.writingCanceled)
    (hstops : Justified StopsWell acts) (hok : StopsWell acts (.finished i (some write) status)) :
    HistoryInv numClients (s.finishHandlingWriteClient i status next).1
      (acts ++ (s.finishHandlingWriteClient i status next).2) := by
  have hself : ((s.finishHandlingWriteClient i status next).1.clientData i).write = none := by
    rw [finishHandlingWriteClient, setClient]
    dsimp only
    rw [Function.update_self]
    rfl
  have hother : ∀ c, c ≠ i → ((s.finishHandlingWriteClient i status next).1.clientData c).write =
      (s.clientData c).write := by
    intro c hc
    rw [finishHandlingWriteClient, setClient]
    dsimp only
    rw [Function.update_of_ne hc]
  have hact : (s.finishHandlingWriteClient i status next).2 =
      [.finished i (some write) status] := by
    rw [← hwrite]
    rfl
  have hserved : ∀ c, served c (acts ++ [.finished i (some write) status]) = served c acts :=
    fun c => served_concat _
  rw [hact]
  refine ⟨?_, fun hactive' => ?_, fun c => ?_, fun c => ?_, fun c hwaits => ?_, ?_, ?_,
    hstops.concat hok⟩
  · have hnone : (s.finishHandlingWriteClient i status next).1.writingActive = false := hactive
    rw [ledger_append, hflight, hnone]
    rfl
  · exact absurd (hactive'.symm.trans hactive) Bool.noConfusion
  · have haccepted : acceptedFrom c [.finished i (some write) status] = [] := rfl
    rw [acceptedFrom_append, finishedAt_append, haccepted, List.append_nil, honce c]
    by_cases hc : c = i
    · subst hc
      have hfinished : finishedAt c [.finished c (some write) status] = [some write] := by
        simp [finishedAt]
      rw [hself, hwrite, hfinished, Option.toList_none, List.map_nil, List.append_nil]
      rfl
    · have hfinished : finishedAt c [.finished i (some write) status] = [] := by
        simp [finishedAt, Ne.symm hc]
      rw [hother c hc, hfinished, List.append_nil]
  · have hnone : (s.finishHandlingWriteClient i status next).1.writingActive = false := hactive
    rw [hserved, hflightOf c, hnone]
    rfl
  · have hc : c ≠ i := by
      rintro rfl
      rw [Waits, hself] at hwaits
      exact absurd hwaits.1 Bool.false_ne_true
    rw [hserved]
    refine hfair c hc ?_
    rw [← hother c hc]
    exact hwaits.1
  · rw [DiscreteStreamVirtualizer.isStopping, List.foldl_append]
    exact hstopping
  · rw [DiscreteStreamVirtualizer.isCanceled, List.foldl_append]
    exact hcanceled

/-- The turn depends on the indices alone. -/
theorem turn_congr (hphase : ∀ i, s'.phase = .told i ↔ s.phase = .told i)
    (hactive : s'.writingActive = s.writingActive) (hidx : s'.wrClientIdx = s.wrClientIdx) :
    s'.turn numClients = s.turn numClients := by
  rw [turn, turn, hactive, hidx]
  rcases hs : s.phase with _ | i | _
  · split
    next i hi => exact absurd ((hphase i).mp hi) (by rw [hs]; exact DiscreteStreamPhase.noConfusion)
    · rfl
  · rw [(hphase i).mpr hs]
  · split
    next i hi => exact absurd ((hphase i).mp hi) (by rw [hs]; exact DiscreteStreamPhase.noConfusion)
    · rfl

theorem turn_of_idle (hphase : s.phase = .idle) : s.turn numClients =
    if s.writingActive then nextIdx numClients s.wrClientIdx else s.wrClientIdx := by
  rw [turn, hphase]

theorem write_setClient {client : DiscreteStreamClientState} (hwrite :
    client.write = (s.clientData c).write) (i : ℕ) :
    ((s.setClient c client).clientData i).write = (s.clientData i).write := by
  rw [setClient]
  by_cases hi : i = c
  · subst hi
    dsimp only
    rw [Function.update_self, hwrite]
  · dsimp only
    rw [Function.update_of_ne hi]

/-! ## Requests of the clients -/

theorem Inv.start (h : Inv numClients s acts) : Inv numClients (s.start answer).2 acts := by
  rw [DiscreteStreamVirtualizer.start]
  split
  · exact h
  split
  · exact h
  split
  · exact h
  next hchanging hoff _ =>
    obtain ⟨-, hactive, hnone⟩ := h.state.off (Bool.eq_false_of_not_eq_true hoff)
    have hchanging := Bool.eq_false_of_not_eq_true hchanging
    have hcanceled := h.state.canceled hchanging
    refine ⟨⟨h.state.wrClientIdx_lt, h.state.outside, fun i hi => ?_, fun hoff => ?_, fun _ => rfl,
      fun _ c hc => ?_, fun hchanging' => ?_⟩, ?_⟩
    · obtain ⟨hlt, -, hposted⟩ := h.state.told i hi
      exact ⟨hlt, rfl, hposted⟩
    · cases hoff
    · rw [hnone c] at hc
      cases hc
    · exact absurd (hchanging'.symm.trans hchanging) Bool.noConfusion
    · refine h.history.congr (fun _ => rfl) rfl hactive.symm ?_ rfl hcanceled.symm
      exact turn_congr (fun _ => Iff.rfl) hactive.symm rfl

theorem Inv.stop (h : Inv numClients s acts) :
    Inv numClients (s.stop answer).2.1 (acts ++ (s.stop answer).2.2) := by
  rw [DiscreteStreamVirtualizer.stop]
  split
  · rw [List.append_nil]
    exact h
  split
  · rw [List.append_nil]
    exact h
  split
  · rw [List.append_nil]
    exact h
  next hchanging hon _ =>
    have hon : s.isActive = true := by simpa using hon
    have hchanging := Bool.eq_false_of_not_eq_true hchanging
    refine ⟨⟨h.state.wrClientIdx_lt, h.state.outside, fun i hi => ?_, fun hoff => ?_,
      fun hchanging' => ?_, fun hchanging' => ?_, fun _ => Or.inl rfl⟩, ?_⟩
    · obtain ⟨hlt, hactive, -⟩ := h.state.told i hi
      exact ⟨hlt, hactive, rfl⟩
    · exact absurd (hon.symm.trans hoff) Bool.noConfusion
    · cases hchanging'
    · cases hchanging'
    · refine h.history.quiet trivial trivial (fun _ => rfl) rfl rfl
        (turn_congr (fun _ => Iff.rfl) rfl rfl) ?_ ?_
      · rw [DiscreteStreamVirtualizer.isStopping, List.foldl_append]
        rfl
      · rw [DiscreteStreamVirtualizer.isCanceled, List.foldl_append]
        exact h.history.isCanceled

/-- A step that leaves the writes, the task and the stop alone. -/
theorem Inv.congr (h : Inv numClients s acts)
    (hwrite : ∀ c, (s'.clientData c).write = (s.clientData c).write)
    (hidx : s'.wrClientIdx = s.wrClientIdx) (hactive : s'.writingActive = s.writingActive)
    (hphase : ∀ i, s'.phase = .told i ↔ s.phase = .told i) (hon : s'.isActive = s.isActive)
    (hchanging : s'.changingState = s.changingState)
    (hcanceled : s'.writingCanceled = s.writingCanceled)
    (hposted : s.handleClientsTaskPosted = true → s'.handleClientsTaskPosted = true)
    (hreading : s'.changingState = true → s.rdClientIdx ≠ numClients →
      s'.handleClientsTaskPosted = true ∨ s'.rdClientIdx ≠ numClients) :
    Inv numClients s' acts := by
  refine ⟨⟨?_, fun c hc => ?_, fun i hi => ?_, fun hoff => ?_, fun hchanging' => ?_,
    fun hchanging' c hc => ?_, fun hchanging' => ?_⟩, h.history.congr hwrite hidx hactive
      (turn_congr hphase hactive hidx) hchanging hcanceled⟩
  · rw [hidx]
    exact h.state.wrClientIdx_lt
  · rw [hwrite]
    exact h.state.outside c hc
  · obtain ⟨hlt, hnone, htask⟩ := h.state.told i ((hphase i).mp hi)
    exact ⟨hlt, hactive.trans hnone, hposted htask⟩
  · obtain ⟨hstays, hnone, hall⟩ := h.state.off (hon ▸ hoff)
    exact ⟨hchanging.trans hstays, hactive.trans hnone, fun c => (hwrite c).trans (hall c)⟩
  · exact hcanceled.trans (h.state.canceled (hchanging ▸ hchanging'))
  · rw [hwrite] at hc
    rw [hactive]
    exact (h.state.work (hchanging ▸ hchanging') c hc).imp_left hposted
  · rw [hactive, hcanceled]
    rcases h.state.stopping (hchanging ▸ hchanging') with htask | hflight | hread
    · exact Or.inl (hposted htask)
    · exact Or.inr (Or.inl hflight)
    · exact (hreading hchanging' hread).imp_right Or.inr

theorem Inv.startReadingDataUnit (h : Inv numClients s acts) (channel clientId maxSize : ℕ) :
    Inv numClients (s.startReadingDataUnit channel clientId maxSize).2 acts := by
  rw [DiscreteStreamVirtualizer.startReadingDataUnit]
  split
  · exact h
  split
  · exact h
  split
  · exact h
  · exact h.congr (write_setClient rfl) rfl rfl (fun _ => Iff.rfl) rfl rfl rfl id fun _ => Or.inr

theorem idle_not_told {phase : DiscreteStreamPhase} (hphase : s.phase = .idle)
    (hphase' : ∀ i, phase ≠ .told i) (i : ℕ) : phase = .told i ↔ s.phase = .told i := by
  rw [hphase]
  exact iff_of_false (hphase' i) DiscreteStreamPhase.noConfusion

theorem asked_not_told {phase : DiscreteStreamPhase} {clientId size channel : ℕ}
    (hphase : s.phase = .asked clientId size channel) (hphase' : ∀ i, phase ≠ .told i) (i : ℕ) :
    phase = .told i ↔ s.phase = .told i := by
  rw [hphase]
  exact iff_of_false (hphase' i) DiscreteStreamPhase.noConfusion

/-- A client is told of the end of a read. -/
theorem Inv.finishedReading (h : Inv numClients s acts) (clientId iov size : ℕ) :
    Inv numClients s (acts ++ [.finishedReading clientId iov size status]) := by
  refine ⟨h.state, h.history.quiet trivial trivial (fun _ => rfl) rfl rfl rfl ?_ ?_⟩
  · rw [DiscreteStreamVirtualizer.isStopping, List.foldl_append]
    exact h.history.isStopping
  · rw [DiscreteStreamVirtualizer.isCanceled, List.foldl_append]
    exact h.history.isCanceled

theorem Inv.readyToRead (h : Inv numClients s acts) (hphase : s.phase = .idle)
    (size channel : ℕ) : Inv numClients (s.readyToRead numClients size channel) acts := by
  rw [DiscreteStreamVirtualizer.readyToRead]
  split
  · exact h
  split
  · exact h
  · exact h.congr (fun _ => rfl) rfl rfl
      (idle_not_told hphase fun _ => DiscreteStreamPhase.noConfusion) rfl rfl rfl id fun _ => Or.inr

theorem Inv.provided (h : Inv numClients s acts) (iov : Option ℕ) :
    Inv numClients (s.provided iov).1 (acts ++ (s.provided iov).2) := by
  unfold DiscreteStreamVirtualizer.provided
  split
  next clientId size channel iov hphase =>
    have hnot : ∀ i, DiscreteStreamPhase.idle = .told i ↔ s.phase = .told i :=
      asked_not_told hphase fun _ => DiscreteStreamPhase.noConfusion
    dsimp only
    split
    · apply Inv.finishedReading
      exact h.congr (write_setClient rfl) rfl rfl hnot rfl rfl rfl id fun _ => Or.inr
    · rw [List.append_nil]
      next hchanging =>
        exact h.congr (fun _ => rfl) rfl rfl hnot rfl rfl rfl id fun hon => absurd hon hchanging
  next clientId size channel hphase =>
    rw [List.append_nil]
    exact h.congr (fun _ => rfl) rfl rfl
      (asked_not_told hphase fun _ => DiscreteStreamPhase.noConfusion) rfl rfl rfl id fun _ => Or.inr
  · rw [List.append_nil]
    exact h

theorem Inv.doneReading (h : Inv numClients s acts) (iov size : ℕ) :
    Inv numClients (s.doneReading numClients iov size status).1
      (acts ++ (s.doneReading numClients iov size status).2) := by
  apply Inv.finishedReading
  refine h.congr (write_setClient rfl) rfl rfl (fun _ => Iff.rfl) rfl rfl rfl (fun hposted => ?_)
    fun hchanging _ => Or.inl ?_
  · show (s.handleClientsTaskPosted || s.changingState) = true
    rw [hposted, Bool.true_or]
  · have hon : s.changingState = true := hchanging
    show (s.handleClientsTaskPosted || s.changingState) = true
    rw [hon, Bool.or_true]

/-- A client starts a write. -/
theorem Inv.accept {client : DiscreteStreamClientState} {write : DiscreteStreamWrite}
    (h : Inv numClients s acts) (hc : c < numClients) (hon : s.isActive = true)
    (hchanging : s.changingState = false) (hnone : (s.clientData c).write = none)
    (hwrite : client.write = some write) :
    Inv numClients { s.setClient c client with handleClientsTaskPosted := true }
      (acts ++ [.accepted c write]) := by
  have hself : ((s.setClient c client).clientData c).write = some write := by
    rw [setClient]
    dsimp only
    rw [Function.update_self, hwrite]
  have hother : ∀ i, i ≠ c → ((s.setClient c client).clientData i).write =
      (s.clientData i).write := by
    intro i hi
    rw [setClient]
    dsimp only
    rw [Function.update_of_ne hi]
  have hidx : s.writingActive = true → s.wrClientIdx ≠ c := by
    rintro hactive rfl
    have hsome := h.history.active hactive
    rw [hnone] at hsome
    cases hsome
  have hserved : ∀ i, served i (acts ++ [.accepted c write]) =
      ((served i acts).1, if c = i then (served i acts).1 else (served i acts).2) :=
    fun i => served_concat _
  refine ⟨⟨h.state.wrClientIdx_lt, fun i hi => ?_, fun i hi => ?_, fun hoff => ?_,
    fun _ => h.state.canceled hchanging, fun _ _ _ => Or.inl rfl, fun _ => Or.inl rfl⟩,
    ⟨?_, fun hactive => ?_, fun i => ?_, fun i => ?_, fun i hwaits => ?_, ?_, ?_,
      h.history.stops.concat ?_⟩⟩
  · exact (hother i (by omega)).trans (h.state.outside i hi)
  · obtain ⟨hlt, hactive, -⟩ := h.state.told i hi
    exact ⟨hlt, hactive, rfl⟩
  · exact absurd (hon.symm.trans hoff) Bool.noConfusion
  · have hactive : (s.setClient c client).writingActive = s.writingActive := rfl
    have hwr : (s.setClient c client).wrClientIdx = s.wrClientIdx := rfl
    rw [ledger_append, h.history.inFlight]
    dsimp only
    rw [hactive, hwr]
    rcases hflying : s.writingActive with _ | _
    · rfl
    · rw [hother _ (hidx hflying)]
      rfl
  · have hwr : (s.setClient c client).wrClientIdx = s.wrClientIdx := rfl
    dsimp only
    rw [hwr, hother _ (hidx hactive)]
    exact h.history.active hactive
  · have hfinished : finishedAt i [.accepted c write] = [] := rfl
    rw [acceptedFrom_append, finishedAt_append, hfinished, List.append_nil, h.history.finishedOnce i]
    dsimp only
    by_cases hi : i = c
    · subst hi
      have haccepted : acceptedFrom i [.accepted i write] = [some write] := by
        simp [acceptedFrom]
      rw [hself, hnone, haccepted, Option.toList_none, List.map_nil, List.append_nil]
      rfl
    · have haccepted : acceptedFrom i [.accepted c write] = [] := by
        simp [acceptedFrom, Ne.symm hi]
      rw [hother i hi, haccepted, List.append_nil]
  · rw [hserved]
    exact h.history.flightOf i
  · have hturn : turn numClients { s.setClient c client with handleClientsTaskPosted := true } =
        s.turn numClients := turn_congr (fun _ => Iff.rfl) rfl rfl
    rw [hturn, hserved]
    by_cases hi : i = c
    · subst hi
      dsimp only
      rw [if_pos rfl, h.history.flightOf i]
      split
      next hactive =>
        refine ⟨List.nodup_singleton _, fun j hj => ?_⟩
        rw [List.mem_singleton.mp hj]
        have hlt := h.state.wrClientIdx_lt
        have hnext := nextIdx_lt hlt
        have hturn' : s.turn numClients = nextIdx numClients s.wrClientIdx := by
          rw [turn]
          split
          next k hk => exact absurd ((h.state.told k hk).2.1.symm.trans hactive) Bool.noConfusion
          · rw [if_pos hactive]
        rw [hturn', ahead_nextIdx_self hlt]
        refine ⟨hlt, lt_of_le_of_ne (Nat.le_sub_one_of_lt (ahead_lt hnext hc)) fun heq => ?_⟩
        rw [← ahead_nextIdx_self hlt] at heq
        exact hidx hactive (eq_of_ahead_eq hnext hlt hc heq.symm)
      · exact ⟨List.nodup_nil, fun j hj => absurd hj (List.not_mem_nil)⟩
    · dsimp only
      rw [if_neg (Ne.symm hi)]
      refine h.history.fair i ?_
      rw [Waits] at hwaits ⊢
      dsimp only at hwaits
      rw [hother i hi] at hwaits
      exact hwaits
  · rw [DiscreteStreamVirtualizer.isStopping, List.foldl_append]
    exact h.history.isStopping
  · rw [DiscreteStreamVirtualizer.isCanceled, List.foldl_append]
    exact h.history.isCanceled
  · exact h.history.isStopping.trans hchanging

theorem Inv.startWritingDataUnit (h : Inv numClients s acts) (hc : c < numClients)
    (channel iov size : ℕ) :
    Inv numClients (s.startWritingDataUnit channel c iov size).2.1
      (acts ++ (s.startWritingDataUnit channel c iov size).2.2) := by
  rw [DiscreteStreamVirtualizer.startWritingDataUnit]
  split
  · rw [List.append_nil]
    exact h
  split
  · rw [List.append_nil]
    exact h
  split
  · rw [List.append_nil]
    exact h
  split
  · rw [List.append_nil]
    exact h
  next hon _ _ hnone =>
    have hon : s.isActive = true ∧ s.changingState = false := by simpa using hon
    have hnone : (s.clientData c).write = none := by
      rw [DiscreteStreamClientState.write, not_not.mp hnone]
      rfl
    exact h.accept hc hon.1 hon.2 hnone rfl

/-! ## The end of a write -/

/-- A client is told of the end of its write, when the virtualizer is active. -/
theorem StateInv.finish {i next : ℕ} (hidx : s.wrClientIdx < numClients) (hnext : next < numClients)
    (hon : s.isActive = true) (hactive : s.writingActive = false)
    (houtside : ∀ c, numClients ≤ c → (s.clientData c).write = none)
    (hcanceled : s.changingState = false → s.writingCanceled = false) :
    StateInv numClients (s.finishHandlingWriteClient i status next).1 where
  wrClientIdx_lt := hidx
  outside c hc := by
    rw [finishHandlingWriteClient, setClient]
    dsimp only
    by_cases hci : c = i
    · subst hci
      rw [Function.update_self]
      rfl
    · rw [Function.update_of_ne hci]
      exact houtside c hc
  told j hj := by
    obtain rfl := DiscreteStreamPhase.told.inj hj
    exact ⟨hnext, hactive, rfl⟩
  off hoff := absurd (hon.symm.trans hoff) Bool.noConfusion
  canceled := hcanceled
  work _ _ _ := Or.inl rfl
  stopping _ := Or.inl rfl

theorem Inv.doneWriting (h : Inv numClients s acts) (hphase : s.phase = .idle) {iov : ℕ}
    (hflying : ∃ l ∈ ledger flight [] acts, iov ∈ l)
    (hcanceled : DiscreteStreamVirtualizer.isCanceled acts = true → status = ECANCEL) :
    Inv numClients (s.doneWriting numClients iov status).1
      (acts ++ (s.doneWriting numClients iov status).2) := by
  obtain ⟨l, hl, hiov⟩ := hflying
  rw [h.history.inFlight] at hl
  obtain rfl := Option.some.inj hl
  have hactive : s.writingActive = true := by
    by_contra hnot
    rw [if_neg hnot] at hiov
    cases hiov
  rw [if_pos hactive] at hiov
  obtain ⟨write, hwrite, rfl⟩ : ∃ write, (s.clientData s.wrClientIdx).write = some write ∧
      write.iov = iov := by
    simpa using hiov
  have hptr : (s.clientData s.wrClientIdx).iovWrPtr = some write.iov := by
    obtain ⟨iov, hiovWr, rfl⟩ := Option.map_eq_some_iff.mp hwrite
    exact hiovWr
  rw [DiscreteStreamVirtualizer.doneWriting, hactive, hptr, if_neg (by simp)]
  dsimp only
  have hlt := h.state.wrClientIdx_lt
  have hnext := nextIdx_lt hlt
  have hon : s.isActive = true := by
    by_contra hoff
    have hnone := (h.state.off (Bool.eq_false_of_not_eq_true hoff)).2.1
    exact absurd (hactive.symm.trans hnone) Bool.noConfusion
  have hserved : ∀ c, served c (acts ++ [.doneBelow write.iov status]) = ([], (served c acts).2) :=
    fun c => served_concat _
  rw [← List.singleton_append, ← List.append_assoc]
  refine ⟨StateInv.finish hlt hnext hon rfl h.state.outside h.state.canceled,
    HistoryInv.finish rfl hwrite ?_ (fun c => ?_) (fun c => ?_)
      (fun c hc hsome => ?_) ?_ ?_ (h.history.stops.concat trivial) fun hstopping => ?_⟩
  · rw [ledger_append, h.history.inFlight, if_pos hactive, hwrite]
    simp [ledger, flight]
  · rw [acceptedFrom_append, finishedAt_append]
    have haccepted : acceptedFrom c [.doneBelow write.iov status] = [] := rfl
    have hfinished : finishedAt c [.doneBelow write.iov status] = [] := rfl
    rw [haccepted, hfinished, List.append_nil, List.append_nil]
    exact h.history.finishedOnce c
  · rw [hserved]
  · rw [hserved]
    have hturn : s.turn numClients = nextIdx numClients s.wrClientIdx := by
      rw [turn_of_idle hphase, if_pos hactive]
    rw [← hturn]
    exact h.history.fair c ⟨hsome, fun hself => hc hself.2⟩
  · rw [DiscreteStreamVirtualizer.isStopping, List.foldl_append]
    exact h.history.isStopping
  · rw [DiscreteStreamVirtualizer.isCanceled, List.foldl_append]
    exact h.history.isCanceled
  · rcases hnot : DiscreteStreamVirtualizer.isCanceled acts with _ | _
    · exact Or.inr ⟨acts, write, rfl, rfl, hnot⟩
    · exact Or.inl (hcanceled hnot)

/-! ## The task -/

/-- The client that is found first is behind none that waits. -/
theorem Inv.fair_next {i : ℕ} (h : Inv numClients s acts) (hphase : s.phase = .idle)
    (hactive : s.writingActive = false) (hi : i < numClients)
    (hfirst : ∀ j < numClients, (s.clientData j).iovWrPtr.isSome = true →
      ahead numClients s.wrClientIdx i ≤ ahead numClients s.wrClientIdx j)
    (hc : c ≠ i) (hsome : (s.clientData c).write.isSome) :
    ((served c acts).2 ++ [i]).Nodup ∧ ∀ j ∈ (served c acts).2 ++ [i], j < numClients ∧
      ahead numClients (nextIdx numClients i) c < ahead numClients (nextIdx numClients i) j := by
  have hlt := h.state.wrClientIdx_lt
  have hcn : c < numClients := by
    by_contra hge
    rw [h.state.outside c (not_lt.mp hge)] at hsome
    cases hsome
  have hptr : (s.clientData c).iovWrPtr.isSome = true := by
    rwa [DiscreteStreamClientState.write, Option.isSome_map] at hsome
  have hahead : ahead numClients s.wrClientIdx i < ahead numClients s.wrClientIdx c :=
    lt_of_le_of_ne (hfirst c hcn hptr) fun heq => hc (eq_of_ahead_eq hlt hi hcn heq).symm
  have hnextc := ahead_nextIdx hlt hi hcn hahead
  have hbound := ahead_lt hlt hcn
  obtain ⟨hnodup, hsince⟩ := h.history.fair c ⟨hsome, fun hself =>
    absurd (hactive.symm.trans hself.1) Bool.noConfusion⟩
  have hturn : s.turn numClients = s.wrClientIdx := by
    rw [turn_of_idle hphase, hactive]
    rfl
  rw [hturn] at hsince
  have hbehind : ∀ j ∈ (served c acts).2,
      ahead numClients s.wrClientIdx i < ahead numClients s.wrClientIdx j :=
    fun j hj => hahead.trans (hsince j hj).2
  refine ⟨?_, fun j hj => ?_⟩
  · rw [List.nodup_append]
    refine ⟨hnodup, List.nodup_singleton _, fun j hj k hk => ?_⟩
    rw [List.mem_singleton.mp hk]
    rintro rfl
    exact absurd (hbehind j hj) (lt_irrefl _)
  · rcases List.mem_append.mp hj with hold | hnew
    · obtain ⟨hjn, hjc⟩ := hsince j hold
      have hnextj := ahead_nextIdx hlt hi hjn (hbehind j hold)
      exact ⟨hjn, by omega⟩
    · rw [List.mem_singleton.mp hnew]
      refine ⟨hi, ?_⟩
      rw [ahead_nextIdx_self hi]
      omega

theorem Inv.serveClients (h : Inv numClients s acts) (hphase : s.phase = .idle)
    (hon : s.isActive = true) (hchanging : s.changingState = false) :
    Inv numClients
      ({ s with handleClientsTaskPosted := false }.serveClients numClients answer).1
      (acts ++ ({ s with handleClientsTaskPosted := false }.serveClients numClients answer).2) := by
  have hnot : s.changingState = true → False := fun hstop =>
    absurd (hchanging.symm.trans hstop) Bool.noConfusion
  have htold : ∀ i, s.phase = .told i → False := by
    intro i hi
    exact absurd (hphase.symm.trans hi) DiscreteStreamPhase.noConfusion
  have hoff : s.isActive = false → False := fun hoff =>
    absurd (hon.symm.trans hoff) Bool.noConfusion
  have hlt := h.state.wrClientIdx_lt
  unfold DiscreteStreamVirtualizer.serveClients
  split
  next hactive =>
    rw [List.append_nil]
    refine ⟨⟨hlt, h.state.outside, fun i hi => (htold i hi).elim, fun hoff' => (hoff hoff').elim,
      h.state.canceled, fun _ _ _ => Or.inr hactive, fun hstop => (hnot hstop).elim⟩, ?_⟩
    exact h.history.congr (fun _ => rfl) rfl rfl (turn_congr (fun _ => Iff.rfl) rfl rfl) rfl rfl
  next hidle =>
    have hactive : s.writingActive = false := Bool.eq_false_of_not_eq_true hidle
    split
    next hfind =>
      rw [List.append_nil]
      have hnone : ∀ c, (s.clientData c).write = none := by
        intro c
        rcases lt_or_ge c numClients with hc | hc
        · have hptr := find?_circle_none hlt hfind c hc
          rw [DiscreteStreamClientState.write, Option.map_eq_none_iff]
          simpa using hptr
        · exact h.state.outside c hc
      refine ⟨⟨hlt, h.state.outside, fun i hi => (htold i hi).elim, fun hoff' => (hoff hoff').elim,
        h.state.canceled, fun _ c hc => ?_, fun hstop => (hnot hstop).elim⟩, ?_⟩
      · have hnone' := hnone c
        rw [show (s.clientData c).write = none from hnone'] at hc
        cases hc
      · exact h.history.congr (fun _ => rfl) rfl rfl (turn_congr (fun _ => Iff.rfl) rfl rfl) rfl rfl
    next i hfind =>
      obtain ⟨-, hi, hfirst⟩ := find?_circle_some hlt hfind
      split
      next hnone =>
        exfalso
        have hsome := List.find?_some hfind
        rw [DiscreteStreamClientState.write, Option.map_eq_none_iff] at hnone
        rw [hnone] at hsome
        cases hsome
      next write hwrite =>
        have hwrite : (s.clientData i).write = some write := hwrite
        have hfair := fun c (hc : c ≠ i) => h.fair_next hphase hactive hi hfirst hc
        have hserved : ∀ c, served c (acts ++ [.initiated i write answer]) =
            (if answer = SUCCESS then [i] else (served c acts).1, (served c acts).2 ++ [i]) :=
          fun c => served_concat _
        have haccepted : ∀ c, acceptedFrom c [.initiated i write answer] = [] := fun _ => rfl
        have hfinished : ∀ c, finishedAt c [.initiated i write answer] = [] := fun _ => rfl
        have honce : ∀ c, acceptedFrom c (acts ++ [.initiated i write answer]) =
            finishedAt c (acts ++ [.initiated i write answer]) ++
              (s.clientData c).write.toList.map some := by
          intro c
          rw [acceptedFrom_append, finishedAt_append, haccepted, hfinished, List.append_nil,
            List.append_nil]
          exact h.history.finishedOnce c
        have hstopping : DiscreteStreamVirtualizer.isStopping
            (acts ++ [.initiated i write answer]) = s.changingState := by
          rw [DiscreteStreamVirtualizer.isStopping, List.foldl_append]
          exact h.history.isStopping
        have hcanceled : DiscreteStreamVirtualizer.isCanceled
            (acts ++ [.initiated i write answer]) = s.writingCanceled := by
          rw [DiscreteStreamVirtualizer.isCanceled, List.foldl_append]
          exact (h.state.canceled hchanging).symm
        have hstops : Justified StopsWell (acts ++ [.initiated i write answer]) :=
          h.history.stops.concat (h.history.isStopping.trans hchanging)
        split
        next hok =>
          refine ⟨⟨hi, h.state.outside, fun i hi => (htold i hi).elim,
            fun hoff' => (hoff hoff').elim, h.state.canceled, fun _ _ _ => Or.inr rfl,
            fun hstop => (hnot hstop).elim⟩,
            ⟨?_, fun _ => ?_, honce, fun c => ?_, fun c hwaits => ?_, hstopping, hcanceled, hstops⟩⟩
          · rw [ledger_append, h.history.inFlight, hactive]
            dsimp only
            rw [hwrite]
            simp [ledger, flight, hok]
          · show ((s.clientData i).write).isSome
            rw [hwrite]
            rfl
          · rw [hserved, if_pos hok]
            rfl
          · obtain ⟨hsome, hother⟩ := hwaits
            rw [hserved, turn_of_idle (by exact hphase)]
            exact hfair c (fun hc => hother ⟨rfl, hc⟩) hsome
        next hfail =>
          dsimp only
          rw [← List.singleton_append, ← List.append_assoc]
          refine ⟨StateInv.finish hlt (nextIdx_lt hi) hon hactive h.state.outside h.state.canceled,
            HistoryInv.finish hactive hwrite ?_ honce (fun c => ?_) (fun c hc hsome => ?_) hstopping
              hcanceled hstops fun hstop => ?_⟩
          · rw [ledger_append, h.history.inFlight, hactive]
            simp [ledger, flight, hfail]
          · rw [hserved, if_neg hfail, h.history.flightOf c, hactive]
            rfl
          · rw [hserved]
            exact hfair c hc hsome
          · rw [hstopping, hchanging] at hstop
            cases hstop

theorem Inv.stopClients (h : Inv numClients s acts) (hphase : s.phase = .idle)
    (hon : s.isActive = true) (hchanging : s.changingState = true)
    (hspares : s.writingActive = false → s.rdClientIdx = numClients →
      ∀ i, ((List.range numClients).find? fun i => (s.clientData i).iovWrPtr.isSome) = some i →
        numClients - i = i) :
    Inv numClients ({ s with handleClientsTaskPosted := false }.stopClients numClients).1
      (acts ++ ({ s with handleClientsTaskPosted := false }.stopClients numClients).2) := by
  have hnot : s.changingState = false → False := fun hgoes =>
    absurd (hchanging.symm.trans hgoes) Bool.noConfusion
  have htold : ∀ i, s.phase = .told i → False := by
    intro i hi
    exact absurd (hphase.symm.trans hi) DiscreteStreamPhase.noConfusion
  have hoff : s.isActive = false → False := fun hoff =>
    absurd (hon.symm.trans hoff) Bool.noConfusion
  have hlt := h.state.wrClientIdx_lt
  have hturn : ∀ {s' : DiscreteStreamVirtualizer}, s'.phase = s.phase →
      s'.writingActive = s.writingActive → s'.wrClientIdx = s.wrClientIdx →
        s'.turn numClients = s.turn numClients := by
    intro s' hp ha hi
    exact turn_congr (fun _ => by rw [hp]) ha hi
  unfold DiscreteStreamVirtualizer.stopClients
  split
  next hactive =>
    split
    · refine ⟨⟨hlt, h.state.outside, fun i hi => (htold i hi).elim, fun hoff' => (hoff hoff').elim,
        fun hgoes => (hnot hgoes).elim, fun hgoes => (hnot hgoes).elim,
        fun _ => Or.inr (Or.inl ⟨hactive, rfl⟩)⟩, ?_⟩
      refine h.history.quiet trivial trivial (fun _ => rfl) rfl rfl (hturn rfl rfl rfl) ?_ ?_
      · rw [DiscreteStreamVirtualizer.isStopping, List.foldl_append]
        exact h.history.isStopping
      · rw [DiscreteStreamVirtualizer.isCanceled, List.foldl_append]
        rfl
    next hcanceled =>
      rw [List.append_nil]
      have hcanceled : s.writingCanceled = true := by simpa using hcanceled
      refine ⟨⟨hlt, h.state.outside, fun i hi => (htold i hi).elim, fun hoff' => (hoff hoff').elim,
        fun hgoes => (hnot hgoes).elim, fun hgoes => (hnot hgoes).elim,
        fun _ => Or.inr (Or.inl ⟨hactive, hcanceled⟩)⟩, ?_⟩
      exact h.history.congr (fun _ => rfl) rfl rfl (hturn rfl rfl rfl) rfl rfl
  next hidle =>
    have hactive : s.writingActive = false := Bool.eq_false_of_not_eq_true hidle
    split
    next hread =>
      have hflight : ledger flight [] acts = some [] := by
        rw [h.history.inFlight, hactive]
        rfl
      split
      next i hfind =>
        have hsome := List.find?_some hfind
        obtain ⟨write, hwrite⟩ : ∃ write, (s.clientData i).write = some write := by
          obtain ⟨iov, hiov⟩ := Option.isSome_iff_exists.mp hsome
          exact ⟨_, Option.map_eq_some_iff.mpr ⟨iov, hiov, rfl⟩⟩
        rw [hspares hactive hread i hfind]
        refine ⟨StateInv.finish hlt hlt hon hactive h.state.outside h.state.canceled,
          HistoryInv.finish hactive hwrite hflight h.history.finishedOnce (fun c => ?_)
            (fun c _ hsome => ?_) h.history.isStopping h.history.isCanceled h.history.stops
            fun _ => Or.inl rfl⟩
        · rw [h.history.flightOf c, hactive]
          rfl
        · have hturn' : s.turn numClients = s.wrClientIdx := by
            rw [turn_of_idle hphase, hactive]
            rfl
          dsimp only
          rw [← hturn']
          exact h.history.fair c ⟨hsome, fun hself =>
            absurd (hactive.symm.trans hself.1) Bool.noConfusion⟩
      next hfind =>
        have hnone : ∀ c, (s.clientData c).write = none := by
          intro c
          rcases lt_or_ge c numClients with hc | hc
          · have hptr := List.find?_eq_none.mp hfind c (List.mem_range.mpr hc)
            rw [DiscreteStreamClientState.write, Option.map_eq_none_iff]
            simpa using hptr
          · exact h.state.outside c hc
        refine ⟨⟨hlt, h.state.outside, fun i hi => (htold i hi).elim,
          fun _ => ⟨rfl, hactive, hnone⟩, fun _ => rfl, fun _ c hc => ?_, fun hstop => ?_⟩, ?_⟩
        · have hnone' := hnone c
          rw [show (s.clientData c).write = none from hnone'] at hc
          cases hc
        · cases hstop
        · refine h.history.quiet trivial (fun c => ?_) (fun _ => rfl) rfl rfl (hturn rfl rfl rfl)
            ?_ ?_
          · rw [h.history.finishedOnce c, hnone c, Option.toList_none, List.map_nil,
              List.append_nil]
          · rw [DiscreteStreamVirtualizer.isStopping, List.foldl_append]
            rfl
          · rw [DiscreteStreamVirtualizer.isCanceled, List.foldl_append]
            rfl
    next hread =>
      rw [List.append_nil]
      refine ⟨⟨hlt, h.state.outside, fun i hi => (htold i hi).elim, fun hoff' => (hoff hoff').elim,
        fun hgoes => (hnot hgoes).elim, fun hgoes => (hnot hgoes).elim,
        fun _ => Or.inr (Or.inr hread)⟩, ?_⟩
      exact h.history.congr (fun _ => rfl) rfl rfl (hturn rfl rfl rfl) rfl rfl

/-! ## The length of a stop -/

/-- A predicate that holds of one index more. -/
theorem countP_range_succ {p q : ℕ → Bool} {i : ℕ} (hp : p i = true) (hq : q i = false)
    (hsame : ∀ j, j ≠ i → q j = p j) :
    ∀ n, i < n → (List.range n).countP q + 1 = (List.range n).countP p := by
  intro n hi
  induction n with
  | zero => exact absurd hi (Nat.not_lt_zero i)
  | succ n ih =>
    rw [List.range_succ, List.countP_append, List.countP_append, List.countP_singleton,
      List.countP_singleton]
    rcases Nat.lt_succ_iff_lt_or_eq.mp hi with hlt | rfl
    · rw [hsame n (Ne.symm hlt.ne), ← ih hlt]
      omega
    · have hrest : (List.range i).countP q = (List.range i).countP p := by
        apply List.countP_congr
        intro j hj
        rw [hsame j (List.mem_range.mp hj).ne]
      rw [hrest, hp, hq]
      rfl

theorem stopBound_finish {i : ℕ} (status : ErrorT) (next : ℕ) (hi : i < numClients)
    (hsome : (s.clientData i).write.isSome = true) (hidle : s.phase = .idle)
    (hactive : s.writingActive = false) :
    stopBound numClients (s.finishHandlingWriteClient i status next).1 + 2 +
      (if s.handleClientsTaskPosted then 1 else 0) ≤ stopBound numClients s := by
  have hcount := countP_range_succ
    (p := fun j => (s.clientData j).write.isSome)
    (q := fun j => ((s.finishHandlingWriteClient i status next).1.clientData j).write.isSome)
    (i := i) hsome (by
      rw [finishHandlingWriteClient, setClient]
      dsimp only
      rw [Function.update_self]
      rfl) (fun j hj => by
      rw [finishHandlingWriteClient, setClient]
      dsimp only
      rw [Function.update_of_ne hj]) numClients hi
  have hposted : (s.finishHandlingWriteClient i status next).1.handleClientsTaskPosted = true := rfl
  have hphase : (s.finishHandlingWriteClient i status next).1.phase = .told next := rfl
  have hread : (s.finishHandlingWriteClient i status next).1.rdClientIdx = s.rdClientIdx := rfl
  have hnone : (s.finishHandlingWriteClient i status next).1.writingActive = false := hactive
  rw [stopBound, stopBound, hposted, hphase, hread, hnone, hactive, hidle, ← hcount]
  simp only [Bool.false_and, if_true, reduceCtorEq, if_false, Bool.false_eq_true]
  split <;> omega

theorem stopBound_le (hwrite : ∀ c, (s'.clientData c).write = (s.clientData c).write)
    (hread : s'.rdClientIdx = s.rdClientIdx)
    (hposted : s'.handleClientsTaskPosted = s.handleClientsTaskPosted)
    (hactive : s'.writingActive = s.writingActive)
    (hcanceled : s'.writingCanceled = s.writingCanceled) (hphase : s'.phase = .idle) :
    stopBound numClients s' ≤ stopBound numClients s := by
  simp only [stopBound, hwrite, hread, hposted, hactive, hcanceled, hphase, if_true]
  omega

theorem handleClientsTask_of_changing (hon : s.isActive = true) (hchanging : s.changingState = true) :
    s.handleClientsTask numClients answer =
      { s with handleClientsTaskPosted := false }.stopClients numClients := by
  rw [handleClientsTask]
  dsimp only
  rw [if_neg (by simp [hon]), if_pos hchanging]

/-- While the virtualizer is being stopped, the events that bring the stop forward take from the
bound, and no other event adds to it. -/
theorem Inv.progress (h : Inv numClients s acts) (hchanging : s.changingState = true)
    {event : DiscreteStreamEvent} (hallowed : Allowed numClients ⟨s, acts⟩ event)
    (hspares : Spares numClients ⟨s, acts⟩ event) (hgoes : .stopped ∉ (s.step numClients event).2) :
    (s.step numClients event).1.changingState = true ∧
      stopBound numClients (s.step numClients event).1 + (if IsProgress event then 1 else 0) ≤
        stopBound numClients s := by
  cases event with
  | start answer =>
    rw [step, DiscreteStreamVirtualizer.start, if_pos hchanging]
    exact ⟨hchanging, le_rfl⟩
  | stop answer =>
    rw [step, DiscreteStreamVirtualizer.stop, if_pos hchanging]
    exact ⟨hchanging, le_rfl⟩
  | startReadingDataUnit channel clientId maxSize =>
    rw [step, DiscreteStreamVirtualizer.startReadingDataUnit, if_pos (by rw [hchanging, Bool.or_true])]
    exact ⟨hchanging, le_rfl⟩
  | startWritingDataUnit channel clientId iov size =>
    rw [step, DiscreteStreamVirtualizer.startWritingDataUnit, if_pos (by rw [hchanging, Bool.or_true])]
    exact ⟨hchanging, le_rfl⟩
  | readyToRead size channel =>
    rw [step, DiscreteStreamVirtualizer.readyToRead, if_pos (by rw [hchanging, Bool.or_true])]
    exact ⟨hchanging, le_rfl⟩
  | provided iov =>
    obtain ⟨clientId, size, channel, hphase⟩ := hallowed
    rw [step]
    unfold DiscreteStreamVirtualizer.provided
    have hphase : s.phase = .asked clientId size channel := hphase
    rw [hphase]
    rcases iov with _ | iov
    · exact ⟨hchanging, stopBound_le (fun _ => rfl) rfl rfl rfl rfl rfl⟩
    · dsimp only
      rw [if_pos hchanging]
      exact ⟨hchanging, stopBound_le (write_setClient rfl) rfl rfl rfl rfl rfl⟩
  | doneReading iov size status =>
    have hread : s.rdClientIdx ≠ numClients := hallowed.2
    rw [step, DiscreteStreamVirtualizer.doneReading]
    refine ⟨hchanging, ?_⟩
    have hwrite : ∀ c, ((s.setClient s.rdClientIdx
        { s.clientData s.rdClientIdx with iovRdMaxLen := 0 }).clientData c).write =
        (s.clientData c).write := write_setClient rfl
    simp only [stopBound, hwrite]
    simp only [setClient, if_neg hread, if_true, hchanging, Bool.or_true, IsProgress]
    omega
  | handleClientsTask answer =>
    have hphase : s.phase = .idle := hallowed.1
    have hposted : s.handleClientsTaskPosted = true := hallowed.2
    have hon : s.isActive = true := by
      by_contra hoff
      have hnot := (h.state.off (Bool.eq_false_of_not_eq_true hoff)).1
      exact absurd (hchanging.symm.trans hnot) Bool.noConfusion
    rw [step, handleClientsTask_of_changing hon hchanging] at hgoes ⊢
    have hless : stopBound numClients { s with handleClientsTaskPosted := false } + 1 =
        stopBound numClients s := by
      simp only [stopBound, hposted, if_true, Bool.false_eq_true, if_false]
      omega
    unfold DiscreteStreamVirtualizer.stopClients at hgoes ⊢
    split
    next hactive =>
      have hactive : s.writingActive = true := hactive
      split
      · refine ⟨hchanging, ?_⟩
        simp only [stopBound, hposted, IsProgress, Bool.not_true, Bool.and_false,
          Bool.false_eq_true, if_false, if_true]
        omega
      · exact ⟨hchanging, hless.le⟩
    next hidle =>
      have hactive : s.writingActive = false := Bool.eq_false_of_not_eq_true hidle
      rw [if_neg hidle] at hgoes
      split
      next hread =>
        rw [if_pos hread] at hgoes
        split
        next i hfind =>
          rw [hspares hchanging hactive hread i hfind]
          have hi := List.mem_range.mp (List.mem_of_find?_eq_some hfind)
          have hsome := List.find?_some hfind
          have hbound := stopBound_finish ECANCEL s.wrClientIdx
            (s := { s with handleClientsTaskPosted := false }) hi
            (by rw [DiscreteStreamClientState.write, Option.isSome_map]; exact hsome) hphase hactive
          refine ⟨hchanging, ?_⟩
          simp only [IsProgress, if_true]
          dsimp only at hbound ⊢
          omega
        next hfind =>
          rw [hfind] at hgoes
          exact absurd List.mem_cons_self hgoes
      · exact ⟨hchanging, hless.le⟩
  | doneWriting iov status =>
    obtain ⟨hphase, ⟨l, hl, hiov⟩, -⟩ := hallowed
    have hphase : s.phase = .idle := hphase
    have hl : ledger flight [] acts = some l := hl
    rw [h.history.inFlight] at hl
    obtain rfl := Option.some.inj hl
    have hactive : s.writingActive = true := by
      by_contra hnot
      rw [if_neg hnot] at hiov
      cases hiov
    rw [if_pos hactive] at hiov
    obtain ⟨write, hwrite, rfl⟩ : ∃ write, (s.clientData s.wrClientIdx).write = some write ∧
        write.iov = iov := by
      simpa using hiov
    have hptr : (s.clientData s.wrClientIdx).iovWrPtr = some write.iov := by
      obtain ⟨iov, hiovWr, rfl⟩ := Option.map_eq_some_iff.mp hwrite
      exact hiovWr
    rw [step, DiscreteStreamVirtualizer.doneWriting, hactive, hptr, if_neg (by simp)]
    have hbound := stopBound_finish status (nextIdx numClients s.wrClientIdx)
      (s := { s with writingActive := false })
      h.state.wrClientIdx_lt (h.history.active hactive) hphase rfl
    have hless : stopBound numClients { s with writingActive := false } ≤
        stopBound numClients s := by
      simp only [stopBound, Bool.false_and, Bool.false_eq_true, if_false]
      omega
    refine ⟨hchanging, ?_⟩
    simp only [IsProgress, if_true]
    dsimp only at hbound ⊢
    omega
  | returned =>
    obtain ⟨i, hphase⟩ := hallowed
    have hphase : s.phase = .told i := hphase
    rw [step, hphase]
    refine ⟨hchanging, ?_⟩
    simp only [stopBound, hphase, IsProgress, reduceCtorEq, if_false, if_true]
    omega

end Invariant

section Results

variable {numClients : ℕ} {s : DiscreteStreamVirtualizer} {acts : List DiscreteStreamAct}

theorem inv_initial (hclients : 0 < numClients) : Inv numClients (initial numClients) [] where
  state := ⟨hclients, fun _ _ => rfl, (fun _ hi => by cases hi), fun _ => ⟨rfl, rfl, fun _ => rfl⟩,
    fun _ => rfl, (fun _ _ hc => by cases hc), fun hchanging => by cases hchanging⟩
  history := ⟨rfl, (fun hactive => by cases hactive), fun _ => rfl, fun _ => rfl,
    (fun _ hwaits => by cases hwaits.1), rfl, rfl, justified_nil⟩

theorem Inv.step (h : Inv numClients s acts) {event : DiscreteStreamEvent}
    (hallowed : Allowed numClients ⟨s, acts⟩ event)
    (hspares : Spares numClients ⟨s, acts⟩ event) :
    Inv numClients (s.step numClients event).1 (acts ++ (s.step numClients event).2) := by
  cases event with
  | start answer =>
    rw [DiscreteStreamVirtualizer.step, List.append_nil]
    exact h.start
  | stop answer => exact h.stop
  | startReadingDataUnit channel clientId maxSize =>
    rw [DiscreteStreamVirtualizer.step, List.append_nil]
    exact h.startReadingDataUnit channel clientId maxSize
  | startWritingDataUnit channel clientId iov size =>
    exact h.startWritingDataUnit hallowed channel iov size
  | readyToRead size channel =>
    rw [DiscreteStreamVirtualizer.step, List.append_nil]
    exact h.readyToRead hallowed.1 size channel
  | provided iov => exact h.provided iov
  | doneReading iov size status => exact h.doneReading iov size
  | handleClientsTask answer =>
    have hphase : s.phase = .idle := hallowed.1
    rw [DiscreteStreamVirtualizer.step]
    rcases hon : s.isActive with _ | _
    · obtain ⟨hchanging, -, hnone⟩ := h.state.off hon
      rw [handleClientsTask]
      dsimp only
      rw [if_pos (by simp [hon]), List.append_nil]
      refine ⟨⟨h.state.wrClientIdx_lt, h.state.outside, fun i hi => ?_, h.state.off,
        h.state.canceled, fun _ c hc => ?_, fun hstop => ?_⟩, ?_⟩
      · exact absurd (hphase.symm.trans hi) DiscreteStreamPhase.noConfusion
      · have hnone' := hnone c
        rw [show (s.clientData c).write = none from hnone'] at hc
        cases hc
      · exact absurd (hchanging.symm.trans hstop) Bool.noConfusion
      · exact h.history.congr (fun _ => rfl) rfl rfl (turn_congr (fun _ => Iff.rfl) rfl rfl) rfl rfl
    · rcases hchanging : s.changingState with _ | _
      · rw [handleClientsTask]
        dsimp only
        rw [if_neg (by simp [hon]), if_neg (by simp [hchanging])]
        exact h.serveClients hphase hon hchanging
      · rw [handleClientsTask_of_changing hon hchanging]
        exact h.stopClients hphase hon hchanging (hspares hchanging)
  | doneWriting iov status => exact h.doneWriting hallowed.1 hallowed.2.1 hallowed.2.2
  | returned =>
    obtain ⟨i, hphase⟩ := hallowed
    have hphase : s.phase = .told i := hphase
    obtain ⟨hi, hactive, hposted⟩ := h.state.told i hphase
    rw [DiscreteStreamVirtualizer.step, hphase]
    dsimp only
    rw [List.append_nil]
    have hturn : turn numClients { s with wrClientIdx := i, phase := .idle } =
        s.turn numClients := by
      rw [turn_of_idle rfl, turn, hphase]
      exact if_neg (by simp [hactive])
    refine ⟨⟨hi, h.state.outside, fun j hj => ?_, h.state.off, h.state.canceled, h.state.work,
      h.state.stopping⟩, ⟨?_, fun hactive' => ?_, h.history.finishedOnce, fun c => ?_,
      fun c hwaits => ?_, h.history.isStopping, h.history.isCanceled, h.history.stops⟩⟩
    · cases hj
    · rw [h.history.inFlight, hactive]
      rfl
    · exact absurd (hactive'.symm.trans hactive) Bool.noConfusion
    · rw [h.history.flightOf c, hactive]
      rfl
    · rw [hturn]
      exact h.history.fair c ⟨hwaits.1, fun hself =>
        absurd (hactive.symm.trans hself.1) Bool.noConfusion⟩

theorem Inv.flying (h : Inv numClients s acts) (hactive : s.writingActive = true) :
    ∃ l ∈ ledger flight [] acts, l ≠ [] := by
  obtain ⟨write, hwrite⟩ := Option.isSome_iff_exists.mp (h.history.active hactive)
  refine ⟨_, h.history.inFlight, ?_⟩
  rw [if_pos hactive, hwrite]
  exact List.cons_ne_nil _ _

theorem Inv.correct (h : Inv numClients s acts) : Correct numClients s acts where
  oneInFlight := by
    refine ⟨_, h.history.inFlight, ?_⟩
    split
    · exact Option.length_toList_le
    · exact Nat.zero_le 1
  finishedOnce := h.history.finishedOnce
  fair c hwaits := by
    obtain ⟨hnodup, hsince⟩ := h.history.fair c hwaits
    exact ⟨hnodup, fun hc => lt_irrefl _ (hsince c hc).2⟩
  served c hsome := by
    rcases hchanging : s.changingState with _ | _
    · exact (h.state.work hchanging c hsome).imp_right fun hactive => Or.inl (h.flying hactive)
    · exact (h.state.stopping hchanging).imp_right fun hrest =>
        hrest.imp_left fun hcanceled => h.flying hcanceled.1
  stops := h.history.stops
  stopsOn hstopping := by
    rw [h.history.isStopping] at hstopping
    rw [h.history.isCanceled]
    exact (h.state.stopping hstopping).imp_right fun hrest =>
      hrest.imp_left fun hcanceled => ⟨h.flying hcanceled.1, hcanceled.2⟩

end Results

end DiscreteStreamVirtualizer

end Whip6
