import Whip6.Base.Queue
import Whip6.Lib.History
import Whip6.Lib.Ledger
import Whip6.Lib.Runs

/-!
# The virtualizer of outgoing packets

Several clients send packets through one lower layer that takes one packet at a time.  Each client
has a queue, and a flag says whether the lower layer is at work.  When the lower layer finishes a
packet, its client is told, and then the heads of the queues are handed down in turn until one is
taken.  Clients may call from within the event that tells them of the end of a packet; the handler
is therefore cut at these events, and goes on in a step of its own.

The flag is also set when the lower layer refuses the packet of a call, and it is not set while
clients are told.  As long as no call gets to the lower layer in these two ways, at most one packet
is in flight, it is the head of the queue of its client, and each client's packets are finished in
their order.
-/

namespace Whip6

open Lib

structure Ipv6OutgoingVirtualizerSizes where
  numClients : ℕ
  queueSize : ℕ → ℕ

/-- Where the handler of a completion is. -/
inductive Ipv6OutgoingVirtualizerPhase
  | idle
  /-- A client is being told of the end of a packet; the heads of the queues from that of `clientId`
  on are tried next. -/
  | restarting (clientId : ℕ)
  deriving DecidableEq

structure Ipv6OutgoingVirtualizer where
  subSenderWorking : Bool
  sendingQueue : ℕ → List ℕ
  phase : Ipv6OutgoingVirtualizerPhase

inductive Ipv6OutgoingVirtualizerAct
  | accepted (clientId packet : ℕ)
  | subStarted (packet : ℕ) (status : ErrorT)
  | subFinished (packet : ℕ) (status : ErrorT)
  | finished (clientId packet : ℕ) (status : ErrorT)
  deriving DecidableEq

/-- Events, with the answer of the lower layer to the packet that is handed down, if one is. -/
inductive Ipv6OutgoingVirtualizerEvent
  | startSendingIPv6Packet (clientId packet : ℕ) (answer : ErrorT)
  | finishSendingIPv6Packet (packet : ℕ) (status answer : ErrorT)
  /-- The client that was told of the end of a packet returns. -/
  | told (answer : ErrorT)

namespace Ipv6OutgoingVirtualizer

variable (sizes : Ipv6OutgoingVirtualizerSizes) (s : Ipv6OutgoingVirtualizer)

def setQueue (clientId : ℕ) (queue : List ℕ) : Ipv6OutgoingVirtualizer :=
  { s with sendingQueue := Function.update s.sendingQueue clientId queue }

def startSendingIPv6Packet (clientId packet : ℕ) (answer : ErrorT) :
    ErrorT × Ipv6OutgoingVirtualizer × List Ipv6OutgoingVirtualizerAct :=
  if clientId ≥ sizes.numClients then (EINVAL, s, [])
  else if (s.sendingQueue clientId).length = sizes.queueSize clientId then (EBUSY, s, [])
  else
    let status := if s.subSenderWorking then SUCCESS else answer
    let acts := if s.subSenderWorking then [] else [.subStarted packet answer]
    let s := { s with subSenderWorking := true }
    if status = SUCCESS then
      (status, s.setQueue clientId (s.sendingQueue clientId ++ [packet]),
        acts ++ [.accepted clientId packet])
    else (status, s, acts)

/-- The loop over the clients from `clientId` on, up to the next client that is told. -/
def restart (clientId : ℕ) (answer : ErrorT) :
    Ipv6OutgoingVirtualizer × List Ipv6OutgoingVirtualizerAct :=
  match (List.range' clientId (sizes.numClients - clientId)).find?
      fun c => !(s.sendingQueue c).isEmpty with
  | none => ({ s with phase := .idle }, [])
  | some c =>
    match s.sendingQueue c with
    | [] => (s, [])
    | packet :: queue =>
      if answer = SUCCESS then
        ({ s with subSenderWorking := true, phase := .idle }, [.subStarted packet answer])
      else
        ({ s.setQueue c queue with phase := .restarting c },
          [.subStarted packet answer, .finished c packet FAIL])

def finishSendingIPv6Packet (packet : ℕ) (status answer : ErrorT) :
    Ipv6OutgoingVirtualizer × List Ipv6OutgoingVirtualizerAct :=
  let s := { s with subSenderWorking := false }
  match (List.range sizes.numClients).find? fun c => (s.sendingQueue c).head? = some packet with
  | some c =>
    ({ s.setQueue c (s.sendingQueue c).tail with phase := .restarting 0 },
      [.subFinished packet status, .finished c packet status])
  | none =>
    let r := s.restart sizes 0 answer
    (r.1, .subFinished packet status :: r.2)

def step : Ipv6OutgoingVirtualizerEvent →
    Ipv6OutgoingVirtualizer × List Ipv6OutgoingVirtualizerAct
  | .startSendingIPv6Packet clientId packet answer =>
    (s.startSendingIPv6Packet sizes clientId packet answer).2
  | .finishSendingIPv6Packet packet status answer =>
    s.finishSendingIPv6Packet sizes packet status answer
  | .told answer =>
    match s.phase with
    | .idle => (s, [])
    | .restarting clientId => s.restart sizes clientId answer

def initial : Ipv6OutgoingVirtualizer := ⟨false, fun _ => [], .idle⟩

/-! ## What the clients and the lower layer see -/

/-- The packets that the lower layer has taken and not finished. -/
def flight : Ipv6OutgoingVirtualizerAct → LedgerEntry ℕ
  | .subStarted packet status => if status = SUCCESS then .opens packet else .other
  | .subFinished packet _ => .closes packet
  | _ => .other

/-- The packets that were accepted from a client, in their order. -/
def acceptedFrom (clientId : ℕ) (acts : List Ipv6OutgoingVirtualizerAct) : List ℕ :=
  acts.filterMap fun
    | .accepted c packet => if c = clientId then some packet else none
    | _ => none

/-- The packets whose end a client was told of, in that order. -/
def finishedAt (clientId : ℕ) (acts : List Ipv6OutgoingVirtualizerAct) : List ℕ :=
  acts.filterMap fun
    | .finished c packet _ => if c = clientId then some packet else none
    | _ => none

/-- Clients send packets that they own, and the lower layer finishes what it has, outside its own
commands. -/
def Allowed (w : Watched Ipv6OutgoingVirtualizer Ipv6OutgoingVirtualizerAct) :
    Ipv6OutgoingVirtualizerEvent → Prop
  | .startSendingIPv6Packet _ packet _ =>
    (∀ c, packet ∉ w.state.sendingQueue c) ∧ ∀ l ∈ ledger flight [] w.history, packet ∉ l
  | .finishSendingIPv6Packet packet _ _ =>
    w.state.phase = .idle ∧ ∃ l ∈ ledger flight [] w.history, packet ∈ l
  | .told _ => w.state.phase ≠ .idle

/-- A call does not get to the lower layer from within the end of a packet, nor to be refused. -/
def Spares (w : Watched Ipv6OutgoingVirtualizer Ipv6OutgoingVirtualizerAct) :
    Ipv6OutgoingVirtualizerEvent → Prop
  | .startSendingIPv6Packet clientId _ answer =>
    clientId < sizes.numClients →
      (w.state.sendingQueue clientId).length ≠ sizes.queueSize clientId →
        w.state.subSenderWorking = false → w.state.phase = .idle ∧ answer = SUCCESS
  | _ => True

/-- A packet that is handed down is not in flight. -/
def StartsAnew (pre : List Ipv6OutgoingVirtualizerAct) (act : Ipv6OutgoingVirtualizerAct) : Prop :=
  ∀ packet status, act = .subStarted packet status →
    ∃ l, ledger flight [] pre = some l ∧ packet ∉ l

/-- What the virtualizer promises. -/
structure Correct (acts : List Ipv6OutgoingVirtualizerAct) : Prop where
  /-- At most one packet is in flight.  Between events some queue is nonempty if and only if a
  packet is, and then it is the head of exactly one queue. -/
  inFlight : ∃ l, ledger flight [] acts = some l ∧ l.length ≤ 1 ∧
    (s.phase = .idle → ((∃ c < sizes.numClients, s.sendingQueue c ≠ []) ↔
      ∃ packet, l = [packet] ∧
        ∃! c, c < sizes.numClients ∧ (s.sendingQueue c).head? = some packet))
  /-- No packet is started again before it has finished. -/
  notAgain : Justified StartsAnew acts
  /-- A client is told of the end of its packets once each and in their order. -/
  inOrder : ∀ c, acceptedFrom c acts = finishedAt c acts ++ s.sendingQueue c

/-! ## The queues -/

/-- The queues of the clients hold each packet once, and there are no others. -/
structure QueuesApart (numClients : ℕ) (queues : ℕ → List ℕ) : Prop where
  nodup : ∀ c, (queues c).Nodup
  apart : ∀ c c' p, p ∈ queues c → p ∈ queues c' → c = c'
  outside : ∀ c, numClients ≤ c → queues c = []

namespace QueuesApart

variable {numClients c p : ℕ} {queues : ℕ → List ℕ} {queue : List ℕ}

theorem lt_of_mem (h : QueuesApart numClients queues) (hp : p ∈ queues c) : c < numClients := by
  by_contra hc
  rw [h.outside c (not_lt.mp hc)] at hp
  exact List.not_mem_nil hp

theorem dequeue (h : QueuesApart numClients queues) (hqueue : queues c = p :: queue) :
    QueuesApart numClients (Function.update queues c queue) := by
  have hsub : ∀ c' x, x ∈ Function.update queues c queue c' → x ∈ queues c' := by
    intro c' x hx
    by_cases hc : c' = c
    · subst hc
      rw [Function.update_self] at hx
      rw [hqueue]
      exact List.mem_cons_of_mem _ hx
    · rwa [Function.update_of_ne hc] at hx
  refine ⟨fun c' => ?_, fun c₁ c₂ x h₁ h₂ => h.apart c₁ c₂ x (hsub c₁ x h₁) (hsub c₂ x h₂),
    fun c' hc' => ?_⟩
  · by_cases hc : c' = c
    · subst hc
      rw [Function.update_self]
      exact (List.nodup_cons.mp (hqueue ▸ h.nodup c')).2
    · rw [Function.update_of_ne hc]
      exact h.nodup c'
  · have hne : c' ≠ c := by
      rintro rfl
      rw [h.outside c' hc'] at hqueue
      cases hqueue
    rw [Function.update_of_ne hne]
    exact h.outside c' hc'

theorem enqueue (h : QueuesApart numClients queues) (hc : c < numClients)
    (hp : ∀ c, p ∉ queues c) :
    QueuesApart numClients (Function.update queues c (queues c ++ [p])) := by
  have hsub : ∀ c' x, x ∈ Function.update queues c (queues c ++ [p]) c' →
      x ∈ queues c' ∨ x = p ∧ c' = c := by
    intro c' x hx
    by_cases hcc : c' = c
    · subst hcc
      rw [Function.update_self, List.mem_append, List.mem_singleton] at hx
      exact hx.imp_right fun hx => ⟨hx, rfl⟩
    · rw [Function.update_of_ne hcc] at hx
      exact Or.inl hx
  refine ⟨fun c' => ?_, fun c₁ c₂ x h₁ h₂ => ?_, fun c' hc' => ?_⟩
  · by_cases hcc : c' = c
    · subst hcc
      rw [Function.update_self]
      exact List.nodup_append.mpr ⟨h.nodup c', List.nodup_singleton p, fun a ha b hb => by
        rw [List.mem_singleton.mp hb]
        exact ne_of_mem_of_not_mem ha (hp c')⟩
    · rw [Function.update_of_ne hcc]
      exact h.nodup c'
  · rcases hsub c₁ x h₁ with hx₁ | ⟨rfl, rfl⟩
    · rcases hsub c₂ x h₂ with hx₂ | ⟨rfl, -⟩
      · exact h.apart c₁ c₂ x hx₁ hx₂
      · exact absurd hx₁ (hp c₁)
    · rcases hsub c₂ x h₂ with hx₂ | ⟨-, rfl⟩
      · exact absurd hx₂ (hp c₂)
      · rfl
  · rw [Function.update_of_ne (by omega)]
    exact h.outside c' hc'

end QueuesApart

/-! ## The invariant -/

section Invariant

variable {sizes : Ipv6OutgoingVirtualizerSizes} {s : Ipv6OutgoingVirtualizer}
  {acts : List Ipv6OutgoingVirtualizerAct} {l : List ℕ} {c k p : ℕ} {queue : List ℕ}
  {status answer : ErrorT}

/-- The flag, the queues and what is in flight agree. -/
def PhaseAgrees (s : Ipv6OutgoingVirtualizer) (l : List ℕ) : Prop :=
  match s.phase with
  | .idle =>
    (s.subSenderWorking = false ∧ l = [] ∧ ∀ c, s.sendingQueue c = []) ∨
      (s.subSenderWorking = true ∧ ∃ c p, l = [p] ∧ (s.sendingQueue c).head? = some p)
  | .restarting k => s.subSenderWorking = false ∧ l = [] ∧ ∀ c < k, s.sendingQueue c = []

structure Inv (sizes : Ipv6OutgoingVirtualizerSizes) (s : Ipv6OutgoingVirtualizer)
    (acts : List Ipv6OutgoingVirtualizerAct) : Prop where
  queues : QueuesApart sizes.numClients s.sendingQueue
  inFlight : ∃ l, ledger flight [] acts = some l ∧ PhaseAgrees s l
  notAgain : Justified StartsAnew acts
  inOrder : ∀ c, acceptedFrom c acts = finishedAt c acts ++ s.sendingQueue c

theorem acceptedFrom_append (acts' : List Ipv6OutgoingVirtualizerAct) :
    acceptedFrom c (acts ++ acts') = acceptedFrom c acts ++ acceptedFrom c acts' :=
  List.filterMap_append

theorem finishedAt_append (acts' : List Ipv6OutgoingVirtualizerAct) :
    finishedAt c (acts ++ acts') = finishedAt c acts ++ finishedAt c acts' :=
  List.filterMap_append

theorem acceptedFrom_accepted (c' : ℕ) :
    acceptedFrom c' [.accepted c p] = if c = c' then [p] else [] := by
  unfold acceptedFrom
  split_ifs with hc <;> simp [hc]

theorem finishedAt_finished (c' : ℕ) :
    finishedAt c' [.finished c p status] = if c = c' then [p] else [] := by
  unfold finishedAt
  split_ifs with hc <;> simp [hc]

theorem inOrder_other {act : Ipv6OutgoingVirtualizerAct}
    (haccepted : ∀ c, acceptedFrom c [act] = []) (hfinished : ∀ c, finishedAt c [act] = [])
    (h : ∀ c, acceptedFrom c acts = finishedAt c acts ++ s.sendingQueue c) (c' : ℕ) :
    acceptedFrom c' (acts ++ [act]) = finishedAt c' (acts ++ [act]) ++ s.sendingQueue c' := by
  rw [acceptedFrom_append, finishedAt_append, haccepted, hfinished, List.append_nil,
    List.append_nil, h c']

theorem inOrder_started (p : ℕ) (status : ErrorT)
    (h : ∀ c, acceptedFrom c acts = finishedAt c acts ++ s.sendingQueue c) (c' : ℕ) :
    acceptedFrom c' (acts ++ [.subStarted p status]) =
      finishedAt c' (acts ++ [.subStarted p status]) ++ s.sendingQueue c' :=
  inOrder_other (fun _ => rfl) (fun _ => rfl) h c'

theorem inOrder_accepted (c p : ℕ)
    (h : ∀ c, acceptedFrom c acts = finishedAt c acts ++ s.sendingQueue c)
    (c' : ℕ) :
    acceptedFrom c' (acts ++ [.accepted c p]) = finishedAt c' (acts ++ [.accepted c p]) ++
      Function.update s.sendingQueue c (s.sendingQueue c ++ [p]) c' := by
  have hfinished : finishedAt c' [.accepted c p] = [] := rfl
  rw [acceptedFrom_append, finishedAt_append, acceptedFrom_accepted, hfinished, h c',
    List.append_nil]
  split_ifs with hc
  · subst hc
    rw [Function.update_self, List.append_assoc]
  · rw [Function.update_of_ne (Ne.symm hc), List.append_nil]

theorem inOrder_finished (status : ErrorT)
    (h : ∀ c, acceptedFrom c acts = finishedAt c acts ++ s.sendingQueue c)
    (hqueue : s.sendingQueue c = p :: queue) (c' : ℕ) :
    acceptedFrom c' (acts ++ [.finished c p status]) =
      finishedAt c' (acts ++ [.finished c p status]) ++
        Function.update s.sendingQueue c queue c' := by
  have haccepted : acceptedFrom c' [.finished c p status] = [] := rfl
  rw [acceptedFrom_append, finishedAt_append, finishedAt_finished, haccepted, h c',
    List.append_nil]
  split_ifs with hc
  · subst hc
    rw [Function.update_self, hqueue, List.append_assoc, List.singleton_append]
  · rw [Function.update_of_ne (Ne.symm hc), List.append_nil]

/-- Something is started while nothing is in flight. -/
theorem notAgain_started (p : ℕ) (answer : ErrorT) (h : Justified StartsAnew acts)
    (hflight : ledger flight [] acts = some []) :
    Justified StartsAnew (acts ++ [.subStarted p answer]) :=
  h.concat fun _ _ _ => ⟨[], hflight, List.not_mem_nil⟩

theorem notAgain_finished (c p : ℕ) (status : ErrorT) (h : Justified StartsAnew acts) :
    Justified StartsAnew (acts ++ [.finished c p status]) :=
  h.concat fun _ _ hact => by cases hact

theorem PhaseAgrees.enqueue (h : PhaseAgrees s l) (hworking : s.subSenderWorking = true) :
    PhaseAgrees ({ s with subSenderWorking := true }.setQueue c (s.sendingQueue c ++ [p])) l := by
  unfold PhaseAgrees at h ⊢
  dsimp only [setQueue]
  cases hphase : s.phase with
  | restarting k =>
    rw [hphase] at h
    exact absurd (hworking.symm.trans h.1) Bool.noConfusion
  | idle =>
    rw [hphase] at h
    rcases h with ⟨hnot, -⟩ | ⟨-, c₀, p₀, hl, hhead⟩
    · exact absurd (hworking.symm.trans hnot) Bool.noConfusion
    · refine Or.inr ⟨rfl, c₀, p₀, hl, ?_⟩
      by_cases hc : c₀ = c
      · subst hc
        rw [Function.update_self, List.head?_append, hhead]
        rfl
      · rwa [Function.update_of_ne hc]

theorem PhaseAgrees.of_not_working (h : PhaseAgrees s l) (hidle : s.phase = .idle)
    (hworking : s.subSenderWorking = false) : l = [] ∧ ∀ c, s.sendingQueue c = [] := by
  rw [PhaseAgrees, hidle] at h
  rcases h with ⟨-, hl, hempty⟩ | ⟨hnot, -⟩
  · exact ⟨hl, hempty⟩
  · exact absurd (hnot.symm.trans hworking) Bool.noConfusion

/-- A call. -/
theorem Inv.startSendingIPv6Packet (h : Inv sizes s acts)
    (hfresh : ∀ c, p ∉ s.sendingQueue c)
    (hspares : c < sizes.numClients → (s.sendingQueue c).length ≠ sizes.queueSize c →
      s.subSenderWorking = false → s.phase = .idle ∧ answer = SUCCESS) :
    Inv sizes (s.startSendingIPv6Packet sizes c p answer).2.1
      (acts ++ (s.startSendingIPv6Packet sizes c p answer).2.2) := by
  obtain ⟨l, hl, hphase⟩ := h.inFlight
  unfold Ipv6OutgoingVirtualizer.startSendingIPv6Packet
  split
  · rw [List.append_nil]
    exact h
  next hc =>
    split
    · rw [List.append_nil]
      exact h
    next hroom =>
      have hqueues := h.queues.enqueue (not_le.mp hc) hfresh
      cases hworking : s.subSenderWorking with
      | true =>
        refine ⟨hqueues, ⟨l, ?_, hphase.enqueue hworking⟩, ?_, inOrder_accepted c p h.inOrder⟩
        · rw [ledger_append, hl]
          rfl
        · exact h.notAgain.concat fun packet status hact => by cases hact
      | false =>
        obtain ⟨hidle, rfl⟩ := hspares (not_le.mp hc) hroom hworking
        obtain ⟨rfl, hempty⟩ := hphase.of_not_working hidle hworking
        simp only [Bool.false_eq_true, if_false, if_true]
        refine ⟨hqueues, ⟨[p], ?_, ?_⟩, ?_, ?_⟩
        · rw [ledger_append, hl]
          rfl
        · dsimp only [setQueue]
          rw [PhaseAgrees, hidle]
          refine Or.inr ⟨rfl, c, p, rfl, ?_⟩
          dsimp only
          rw [Function.update_self, hempty c]
          rfl
        · have haccepted : Justified StartsAnew
              (acts ++ [.subStarted p SUCCESS] ++ [.accepted c p]) :=
            (notAgain_started p SUCCESS h.notAgain hl).concat fun packet status hact => by
              cases hact
          rwa [List.append_assoc] at haccepted
        · have haccepted := inOrder_accepted c p (inOrder_started p SUCCESS h.inOrder)
          intro c'
          have haccepted' := haccepted c'
          rwa [List.append_assoc] at haccepted'

/-- The loop, up to the next client that is told. -/
theorem Inv.restart (h : Inv sizes s acts) (hphase : s.phase = .restarting k) :
    Inv sizes (s.restart sizes k answer).1 (acts ++ (s.restart sizes k answer).2) := by
  obtain ⟨l, hl, hagrees⟩ := h.inFlight
  rw [PhaseAgrees, hphase] at hagrees
  obtain ⟨hworking, rfl, hbefore⟩ := hagrees
  unfold Ipv6OutgoingVirtualizer.restart
  split
  next hnone =>
    rw [List.append_nil]
    refine ⟨h.queues, ⟨[], hl, Or.inl ⟨hworking, rfl, fun c => ?_⟩⟩, h.notAgain, h.inOrder⟩
    rcases Nat.lt_or_ge c k with hlt | hge
    · exact hbefore c hlt
    rcases Nat.lt_or_ge c sizes.numClients with hlt | hge'
    · have hfound := List.find?_eq_none.mp hnone c (List.mem_range'_1.mpr (by omega))
      simpa using hfound
    · exact h.queues.outside c hge'
  next c hsome =>
    obtain ⟨hfound, hrange, hpre⟩ := List.find?_range'_eq_some.mp hsome
    split
    next hnil =>
      rw [hnil] at hfound
      cases hfound
    next p queue hqueue =>
      split
      next hanswer =>
        refine ⟨h.queues, ⟨[p], ?_, Or.inr ⟨rfl, c, p, rfl, ?_⟩⟩,
          notAgain_started p answer h.notAgain hl, inOrder_started p answer h.inOrder⟩
        · rw [ledger_append, hl, hanswer]
          rfl
        · exact congrArg List.head? hqueue
      next hanswer =>
        have hstarted := notAgain_started p answer h.notAgain hl
        have hfinished := notAgain_finished c p FAIL hstarted
        have hended := inOrder_finished FAIL (inOrder_started p answer h.inOrder) hqueue
        rw [List.append_assoc] at hfinished
        refine ⟨h.queues.dequeue hqueue, ⟨[], ?_, hworking, rfl, fun c' hc' => ?_⟩, hfinished,
          fun c' => ?_⟩
        · rw [ledger_append, hl]
          simp [ledger, flight, hanswer]
        · have hne : c' ≠ c := hc'.ne
          dsimp only [setQueue]
          rw [Function.update_of_ne hne]
          rcases Nat.lt_or_ge c' k with hlt | hge
          · exact hbefore c' hlt
          · simpa using hpre c' hge hc'
        · have hended' := hended c'
          rwa [List.append_assoc] at hended'

/-- The lower layer finishes the packet that is in flight. -/
theorem Inv.finishSendingIPv6Packet (h : Inv sizes s acts) (hidle : s.phase = .idle)
    (hflight : ∃ l ∈ ledger flight [] acts, p ∈ l) :
    Inv sizes (s.finishSendingIPv6Packet sizes p status answer).1
      (acts ++ (s.finishSendingIPv6Packet sizes p status answer).2) := by
  obtain ⟨l, hl, hphase⟩ := h.inFlight
  obtain ⟨l', hl', hmem⟩ := hflight
  obtain rfl : l = l' := Option.some.inj (hl.symm.trans hl')
  rw [PhaseAgrees, hidle] at hphase
  rcases hphase with ⟨-, rfl, -⟩ | ⟨-, c, p', rfl, hhead⟩
  · exact absurd hmem List.not_mem_nil
  obtain rfl := List.mem_singleton.mp hmem
  have hsub : Justified StartsAnew (acts ++ [.subFinished p status]) :=
    h.notAgain.concat fun _ _ hact => by cases hact
  have htold : Justified StartsAnew (acts ++ [.subFinished p status, .finished c p status]) := by
    have htold := notAgain_finished c p status hsub
    rwa [List.append_assoc] at htold
  obtain ⟨queue, hqueue⟩ := List.head?_eq_some_iff.mp hhead
  have hc : c < sizes.numClients := h.queues.lt_of_mem (hqueue ▸ List.mem_cons_self)
  have hfind : (List.range sizes.numClients).find?
      (fun c => (s.sendingQueue c).head? = some p) = some c := by
    rw [List.find?_range_eq_some]
    refine ⟨by simpa using hhead, List.mem_range.mpr hc, fun j hj => ?_⟩
    rw [Bool.not_eq_true', decide_eq_false_iff_not]
    intro hj'
    have hmem' : p ∈ s.sendingQueue j := List.mem_of_mem_head? hj'
    exact hj.ne (h.queues.apart j c p hmem' (hqueue ▸ List.mem_cons_self))
  unfold Ipv6OutgoingVirtualizer.finishSendingIPv6Packet
  dsimp only
  rw [hfind]
  dsimp only [setQueue]
  rw [hqueue, List.tail_cons]
  refine ⟨h.queues.dequeue hqueue,
    ⟨[], ?_, rfl, rfl, fun c' hc' => absurd hc' (Nat.not_lt_zero c')⟩, htold, fun c' => ?_⟩
  · rw [ledger_append, hl]
    simp [ledger, flight]
  · have hsubOrder : ∀ c, acceptedFrom c (acts ++ [.subFinished p status]) =
        finishedAt c (acts ++ [.subFinished p status]) ++ s.sendingQueue c :=
      inOrder_other (fun _ => rfl) (fun _ => rfl) h.inOrder
    have hended := inOrder_finished status hsubOrder hqueue c'
    rwa [List.append_assoc] at hended

theorem inv_initial : Inv sizes initial [] where
  queues := ⟨fun _ => List.nodup_nil, fun _ _ _ hp => absurd hp List.not_mem_nil, fun _ _ => rfl⟩
  inFlight := ⟨[], rfl, Or.inl ⟨rfl, rfl, fun _ => rfl⟩⟩
  notAgain := justified_nil
  inOrder := fun _ => rfl

theorem Inv.step {event : Ipv6OutgoingVirtualizerEvent} (h : Inv sizes s acts)
    (hallowed : Allowed ⟨s, acts⟩ event) (hspares : Spares sizes ⟨s, acts⟩ event) :
    Inv sizes (s.step sizes event).1 (acts ++ (s.step sizes event).2) := by
  cases event with
  | startSendingIPv6Packet clientId packet answer =>
    exact h.startSendingIPv6Packet hallowed.1 hspares
  | finishSendingIPv6Packet packet status answer =>
    exact h.finishSendingIPv6Packet hallowed.1 hallowed.2
  | told answer =>
    rw [Ipv6OutgoingVirtualizer.step]
    split
    next hidle => exact absurd hidle hallowed
    next clientId hphase => exact h.restart hphase

/-- The invariant contains all that is promised. -/
theorem Inv.correct (h : Inv sizes s acts) : s.Correct sizes acts := by
  obtain ⟨l, hl, hphase⟩ := h.inFlight
  refine ⟨⟨l, hl, ?_, fun hidle => ?_⟩, h.notAgain, h.inOrder⟩
  · unfold PhaseAgrees at hphase
    split at hphase
    · rcases hphase with ⟨-, rfl, -⟩ | ⟨-, c, p, rfl, -⟩
      · exact Nat.zero_le _
      · exact le_rfl
    · rw [hphase.2.1]
      exact Nat.zero_le _
  · rw [PhaseAgrees, hidle] at hphase
    rcases hphase with ⟨-, rfl, hempty⟩ | ⟨-, c, p, rfl, hhead⟩
    · constructor
      · rintro ⟨c, -, hne⟩
        exact absurd (hempty c) hne
      · rintro ⟨packet, hnil, -⟩
        cases hnil
    · have hmem : p ∈ s.sendingQueue c := List.mem_of_mem_head? hhead
      have hc := h.queues.lt_of_mem hmem
      constructor
      · intro _
        refine ⟨p, rfl, c, ⟨hc, hhead⟩, ?_⟩
        rintro c' ⟨-, hhead'⟩
        exact h.queues.apart c' c p (List.mem_of_mem_head? hhead') hmem
      · intro _
        exact ⟨c, hc, List.ne_nil_of_mem hmem⟩

end Invariant

/-! ## Runs -/

section Results

end Results

end Ipv6OutgoingVirtualizer

end Whip6
