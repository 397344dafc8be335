import Whip6.Lib.History
import Whip6.Lowpan.SoftwareAcknowledgments

/-!
# Runs of the acknowledgement decorator

What the clients, the allocator and the lower layer know of the decorator from its history, and the
invariant of its runs: one frame is in flight below at most, an accepted frame is finished or stopped
once, and with success only when it was transmitted and acknowledged.  The last fails in one step: an
acknowledgement may arrive for a frame that waits behind an outgoing acknowledgement, while the bit
that says that the transmission has finished is still the one of the frame before.
-/

namespace Whip6

open Lib

/-! ## What the others know -/

namespace LowpanAckDecoratorAct

/-- A frame of the client is being sent from when it is accepted until it is stopped or finished. -/
def sendingEntry : LowpanAckDecoratorAct → LedgerEntry ℕ
  | accepted framePtr => .opens framePtr
  | stopped framePtr => .closes framePtr
  | frameSendingFinished framePtr _ => .closes framePtr
  | _ => .other

def allocEntry : LowpanAckDecoratorAct → LedgerEntry ℕ
  | allocFrame framePtr => .opens framePtr
  | freeFrame framePtr => .closes framePtr
  | _ => .other

/-- A frame is in flight from when the lower layer takes it until it stops or finishes it. -/
def belowEntry : LowpanAckDecoratorAct → LedgerEntry ℕ
  | subStarted framePtr _ => .opens framePtr
  | subStopped framePtr => .closes framePtr
  | subFinished framePtr _ => .closes framePtr
  | _ => .other

/-- The frame of the client was transmitted since it was accepted: the lower layer took it, and has
finished it; and it was a broadcast or an acknowledgement of it has come since. -/
def Acknowledged (pre : List LowpanAckDecoratorAct) (framePtr : ℕ) : Prop :=
  ∃ before after frame, pre = before ++ subStarted framePtr frame :: after ∧
    (∀ other, accepted other ∉ after) ∧
    (∃ status, (status = SUCCESS ∨ status = ENOACK) ∧ subFinished framePtr status ∈ after) ∧
    (ieee154DFrameInfoCheckIfDestinationIsBroadcast frame = true ∨
      ackReceived (ieee154DFrameGetSeqNo frame) ∈ after)

/-- Only frames that were transmitted and acknowledged are finished with success. -/
def SuccessJustified (pre : List LowpanAckDecoratorAct) : LowpanAckDecoratorAct → Prop
  | frameSendingFinished framePtr status => status = SUCCESS → Acknowledged pre framePtr
  | _ => True

end LowpanAckDecoratorAct

namespace LowpanAckDecorator

/-- The frames that the lower layer should have in flight. -/
def below (s : LowpanAckDecorator) : List ℕ :=
  match s.outgoingAckFrame with
  | some framePtr => [framePtr]
  | none => if s.transmissionFinishedBit then [] else s.outgoingUserFrame.toList

/-- A transmission of the frame of the client that is not over yet, in the history. -/
def Transmitting (s : LowpanAckDecorator) (acts : List LowpanAckDecoratorAct) (framePtr : ℕ) :
    Prop :=
  ∃ before after, acts = before ++ .subStarted framePtr (s.frames framePtr) :: after ∧
    (∀ other, .accepted other ∉ after) ∧
    (s.transmissionFinishedBit = true →
      ∃ status, (status = SUCCESS ∨ status = ENOACK) ∧ .subFinished framePtr status ∈ after) ∧
    (s.acknowledgmentReceivedBit = true →
      ieee154DFrameInfoCheckIfDestinationIsBroadcast (s.frames framePtr) = true ∨
        .ackReceived (ieee154DFrameGetSeqNo (s.frames framePtr)) ∈ after)

structure Inv (s : LowpanAckDecorator) (acts : List LowpanAckDecoratorAct) : Prop where
  sending : ledger LowpanAckDecoratorAct.sendingEntry [] acts = some s.outgoingUserFrame.toList
  allocated : ledger LowpanAckDecoratorAct.allocEntry [] acts = some s.outgoingAckFrame.toList
  below : ledger LowpanAckDecoratorAct.belowEntry [] acts = some s.below
  apart : ∀ framePtr, s.outgoingUserFrame = some framePtr → s.outgoingAckFrame ≠ some framePtr
  transmitting : ∀ framePtr, s.outgoingUserFrame = some framePtr → s.outgoingAckFrame = none →
    s.Transmitting acts framePtr
  waiting : ∀ framePtr, s.outgoingUserFrame = some framePtr → s.outgoingAckFrame = none →
    s.transmissionFinishedBit = true →
      s.acknowledgmentReceivedBit = false ∧ s.acknowledgmentMissedBit = false
  timer : ∀ framePtr, s.outgoingUserFrame = some framePtr → s.outgoingAckFrame = none →
    s.acknowledgmentReceivedBit = false → s.acknowledgmentMissedBit = false →
      s.timeoutTimerRunning = true
  timerOff : s.outgoingUserFrame = none ∨ s.outgoingAckFrame ≠ none →
    s.timeoutTimerRunning = false
  broadcast : ∀ framePtr, s.outgoingUserFrame = some framePtr → s.outgoingAckFrame = none →
    ieee154DFrameInfoCheckIfDestinationIsBroadcast (s.frames framePtr) = true →
      s.acknowledgmentReceivedBit = true
  justified : Justified LowpanAckDecoratorAct.SuccessJustified acts

end LowpanAckDecorator

/-! ## Which events may come -/

/-- The machine beside its history. -/
abbrev LowpanAckWorld := Watched LowpanAckDecorator LowpanAckDecoratorAct

namespace LowpanAckWorld

/-- The frames of the client that the decorator has accepted. -/
def sending (w : LowpanAckWorld) : List ℕ :=
  (ledger LowpanAckDecoratorAct.sendingEntry [] w.history).getD []

def allocated (w : LowpanAckWorld) : List ℕ :=
  (ledger LowpanAckDecoratorAct.allocEntry [] w.history).getD []

/-- The frames in flight below. -/
def below (w : LowpanAckWorld) : List ℕ :=
  (ledger LowpanAckDecoratorAct.belowEntry [] w.history).getD []

/-- The events that may come: the frames of the client, of the allocator and of the receiver are
different ones, the lower layer stops and finishes what is in flight, and the timer fires when it
runs. -/
def Allowed (w : LowpanAckWorld) : LowpanAckDecoratorEvent → Prop
  | .startSendingFrame framePtr _ _ => framePtr ∉ w.sending ∧ framePtr ∉ w.allocated
  | .stopSendingFrame framePtr subStatus => framePtr ∉ w.below → subStatus ≠ SUCCESS
  | .subFrameSendingFinished framePtr _ _ => framePtr ∈ w.below
  | .timeoutTimerFired => w.state.timeoutTimerRunning = true
  | .frameReceivingFinished framePtr _ _ answers =>
    framePtr ∉ w.sending ∧ framePtr ∉ w.allocated ∧
      ∀ ackFrame, answers.allocated = some ackFrame →
        ackFrame ∉ w.sending ∧ ackFrame ∉ w.allocated ∧ ackFrame ≠ framePtr

/-- No acknowledgement comes for a frame behind an outgoing acknowledgement, after another
transmission has finished. -/
def NotEarly (w : LowpanAckWorld) : LowpanAckDecoratorEvent → Prop
  | .frameReceivingFinished _ frame status _ =>
    status = SUCCESS → w.state.outgoingAckFrame ≠ none → w.state.transmissionFinishedBit = true →
      ∀ userFrame, w.state.outgoingUserFrame = some userFrame →
        lowpanNalpExtSoftwareAcknowledgmentIsAckFrame frame ≠
          some (ieee154DFrameGetSeqNo (w.state.frames userFrame))
  | _ => True

end LowpanAckWorld

/-! ## Steps -/

namespace LowpanAckDecorator

variable {s s' : LowpanAckDecorator} {acts new : List LowpanAckDecoratorAct} {framePtr : ℕ}
  {status subStatus : ErrorT}

/-- The history goes on while the transmission does. -/
theorem Transmitting.mono (h : s.Transmitting acts framePtr)
    (hframe : s'.frames framePtr = s.frames framePtr)
    (hnew : ∀ other, .accepted other ∉ new)
    (hfinished : s'.transmissionFinishedBit = true → s.transmissionFinishedBit = true ∨
      ∃ status, (status = SUCCESS ∨ status = ENOACK) ∧ .subFinished framePtr status ∈ new)
    (hacked : s'.acknowledgmentReceivedBit = true → s.acknowledgmentReceivedBit = true ∨
      .ackReceived (ieee154DFrameGetSeqNo (s.frames framePtr)) ∈ new) :
    s'.Transmitting (acts ++ new) framePtr := by
  obtain ⟨before, after, rfl, haccepted, htx, hack⟩ := h
  refine ⟨before, after ++ new, ?_, fun other hmem => ?_, fun htrue => ?_, fun htrue => ?_⟩
  · rw [hframe, List.append_assoc, List.cons_append]
  · rcases List.mem_append.mp hmem with hmem | hmem
    · exact haccepted other hmem
    · exact hnew other hmem
  · rcases hfinished htrue with hold | ⟨status, hstatus, hmem⟩
    · obtain ⟨status, hstatus, hmem⟩ := htx hold
      exact ⟨status, hstatus, List.mem_append_left _ hmem⟩
    · exact ⟨status, hstatus, List.mem_append_right _ hmem⟩
  · rw [hframe]
    rcases hacked htrue with hold | hmem
    · rcases hack hold with hbroadcast | hmem
      · exact Or.inl hbroadcast
      · exact Or.inr (List.mem_append_left _ hmem)
    · exact Or.inr (List.mem_append_right _ hmem)

/-- A transmission that is over and acknowledged. -/
theorem Transmitting.acknowledged (h : s.Transmitting acts framePtr)
    (hfinished : s.transmissionFinishedBit = true) (hacked : s.acknowledgmentReceivedBit = true) :
    LowpanAckDecoratorAct.Acknowledged acts framePtr := by
  obtain ⟨before, after, hacts, haccepted, htx, hack⟩ := h
  exact ⟨before, after, _, hacts, haccepted, htx hfinished, hack hacked⟩

/-- The invariant when no frame of the client is outgoing. -/
theorem inv_of_idle (huser : s.outgoingUserFrame = none)
    (hsending : ledger LowpanAckDecoratorAct.sendingEntry [] acts = some [])
    (hallocated : ledger LowpanAckDecoratorAct.allocEntry [] acts =
      some s.outgoingAckFrame.toList)
    (hbelow : ledger LowpanAckDecoratorAct.belowEntry [] acts = some s.outgoingAckFrame.toList)
    (htimer : s.timeoutTimerRunning = false)
    (hjustified : Justified LowpanAckDecoratorAct.SuccessJustified acts) : s.Inv acts := by
  have hnone : ∀ framePtr, s.outgoingUserFrame ≠ some framePtr := by
    intro framePtr hsome
    rw [huser] at hsome
    cases hsome
  refine
    { sending := by rw [huser]; exact hsending
      allocated := hallocated
      below := ?_
      apart := fun framePtr hsome => absurd hsome (hnone framePtr)
      transmitting := fun framePtr hsome => absurd hsome (hnone framePtr)
      waiting := fun framePtr hsome => absurd hsome (hnone framePtr)
      timer := fun framePtr hsome => absurd hsome (hnone framePtr)
      timerOff := fun _ => htimer
      broadcast := fun framePtr hsome => absurd hsome (hnone framePtr)
      justified := hjustified }
  rw [hbelow, LowpanAckDecorator.below, huser]
  cases s.outgoingAckFrame with
  | some ackFrame => rfl
  | none => exact congrArg some (ite_self _).symm

theorem startSendingUserFrame_fail (hstatus : subStatus ≠ SUCCESS) :
    s.startSendingUserFrame framePtr subStatus =
      (subStatus, { s with outgoingUserFrame := none }, []) :=
  if_pos hstatus

theorem startSendingUserFrame_success :
    ∃ received running, s.startSendingUserFrame framePtr SUCCESS =
      (SUCCESS, { s with
        acknowledgmentReceivedBit := received
        acknowledgmentMissedBit := false
        transmissionFinishedBit := false
        timeoutTimerRunning := running },
        [.subStarted framePtr (s.frames framePtr)]) ∧
      received = ieee154DFrameInfoCheckIfDestinationIsBroadcast (s.frames framePtr) ∧
      (received = false → running = true) := by
  unfold startSendingUserFrame
  rw [if_neg (not_not.mpr rfl)]
  cases hbroadcast : ieee154DFrameInfoCheckIfDestinationIsBroadcast (s.frames framePtr) with
  | true => exact ⟨true, s.timeoutTimerRunning, rfl, rfl, fun h => by cases h⟩
  | false => exact ⟨false, true, rfl, rfl, fun _ => rfl⟩

/-- The frame of the client is passed down, when nothing is in flight. -/
theorem inv_started (huser : s.outgoingUserFrame = some framePtr)
    (hack : s.outgoingAckFrame = none)
    (hsending : ledger LowpanAckDecoratorAct.sendingEntry [] acts = some [framePtr])
    (hallocated : ledger LowpanAckDecoratorAct.allocEntry [] acts = some [])
    (hbelow : ledger LowpanAckDecoratorAct.belowEntry [] acts = some [])
    (hjustified : Justified LowpanAckDecoratorAct.SuccessJustified acts) :
    (s.startSendingUserFrame framePtr SUCCESS).2.1.Inv
      (acts ++ (s.startSendingUserFrame framePtr SUCCESS).2.2) := by
  obtain ⟨received, running, hstart, hreceived, hrunning⟩ :=
    @startSendingUserFrame_success s framePtr
  rw [hstart]
  refine
    { sending := ?_
      allocated := ?_
      below := ?_
      apart := fun other _ => ?_
      transmitting := fun other hother _ => ?_
      waiting := fun _ _ _ hfalse => by cases hfalse
      timer := fun _ _ _ hfalse _ => hrunning hfalse
      timerOff := fun hcase => ?_
      broadcast := fun other hother _ hbroadcast => ?_
      justified := hjustified.concat trivial }
  · rw [ledger_append, hsending, huser]
    rfl
  · rw [ledger_append, hallocated]
    simp only [hack]
    rfl
  · rw [ledger_append, hbelow, LowpanAckDecorator.below]
    simp only [hack, huser]
    rfl
  · simp only [hack]
    exact Option.some_ne_none other |>.symm
  · simp only [huser, Option.some.injEq] at hother
    subst hother
    refine ⟨acts, [], rfl, fun _ hmem => (by cases hmem), fun hfalse => (by cases hfalse),
      fun htrue => Or.inl ?_⟩
    exact hreceived.symm.trans htrue
  · simp only [hack, huser] at hcase
    rcases hcase with hnone | hsome
    · cases hnone
    · exact absurd rfl hsome
  · simp only [huser, Option.some.injEq] at hother
    subst hother
    exact hreceived.trans hbroadcast

namespace Inv

/-- Frames that are not outgoing may be written. -/
theorem setFrame (h : s.Inv acts) (hne : s.outgoingUserFrame ≠ some framePtr)
    (frame : Ieee154DframeInfo) :
    ({ s with frames := Function.update s.frames framePtr frame }).Inv acts := by
  have hframe : ∀ userFrame, s.outgoingUserFrame = some userFrame →
      Function.update s.frames framePtr frame userFrame = s.frames userFrame := by
    intro userFrame huser
    refine Function.update_of_ne (fun heq => hne ?_) _ _
    rw [huser, heq]
  refine { h with transmitting := ?_, broadcast := ?_ }
  · intro userFrame huser hack
    have hmono : ({ s with frames := Function.update s.frames framePtr frame } :
        LowpanAckDecorator).Transmitting (acts ++ []) userFrame :=
      (h.transmitting userFrame huser hack).mono (hframe userFrame huser)
        (fun _ hmem => by cases hmem) Or.inl Or.inl
    rwa [List.append_nil] at hmono
  · intro userFrame huser hack hbroadcast
    have hold := h.broadcast userFrame huser hack
    rw [← hframe userFrame huser] at hold
    exact hold hbroadcast

/-- What is in flight when no frame of the client is outgoing. -/
theorem below_of_idle (h : s.Inv acts) (huser : s.outgoingUserFrame = none) :
    ledger LowpanAckDecoratorAct.belowEntry [] acts = some s.outgoingAckFrame.toList := by
  rw [h.below, LowpanAckDecorator.below, huser]
  cases s.outgoingAckFrame with
  | some ackFrame => rfl
  | none => exact congrArg some (ite_self _)

theorem startSendingFrame (h : s.Inv acts) (huser : s.outgoingUserFrame ≠ some framePtr)
    (hack : s.outgoingAckFrame ≠ some framePtr) (frame : Ieee154DframeInfo) (subStatus : ErrorT) :
    (s.startSendingFrame framePtr frame subStatus).2.1.Inv
      (acts ++ (s.startSendingFrame framePtr frame subStatus).2.2) := by
  have h₁ := h.setFrame huser frame
  have hack₁ : ({ s with frames := Function.update s.frames framePtr frame } :
      LowpanAckDecorator).outgoingAckFrame ≠ some framePtr := hack
  unfold LowpanAckDecorator.startSendingFrame
  generalize ({ s with frames := Function.update s.frames framePtr frame } :
    LowpanAckDecorator) = s₁ at h₁ hack₁ ⊢
  dsimp only
  by_cases hbusy : s₁.outgoingUserFrame = none
  · rw [if_neg (not_not.mpr hbusy)]
    have hsending := h₁.sending
    rw [hbusy] at hsending
    by_cases hidle : s₁.outgoingAckFrame = none
    · rw [if_neg (not_not.mpr hidle)]
      have hallocated := h₁.allocated
      have hbelow := h₁.below_of_idle hbusy
      rw [hidle] at hallocated hbelow
      by_cases hstatus : subStatus = SUCCESS
      · subst hstatus
        have hstarted : ({ s₁ with outgoingUserFrame := some framePtr } :
            LowpanAckDecorator).outgoingUserFrame = some framePtr := rfl
        have hjustified : Justified LowpanAckDecoratorAct.SuccessJustified
            (acts ++ [.accepted framePtr]) := h₁.justified.concat trivial
        have hinv := inv_started hstarted hidle (by rw [ledger_append, hsending]; rfl)
          (by rw [ledger_append, hallocated]; rfl) (by rw [ledger_append, hbelow]; rfl) hjustified
        rw [List.append_assoc] at hinv
        exact hinv
      · rw [startSendingUserFrame_fail hstatus, if_neg hstatus, List.append_nil]
        exact inv_of_idle rfl hsending (by rw [hallocated, hidle]) (by rw [hbelow, hidle])
          (h₁.timerOff (Or.inl hbusy)) h₁.justified
    · rw [if_pos hidle]
      obtain ⟨ackFrame, hackFrame⟩ := Option.ne_none_iff_exists'.mp hidle
      refine
        { sending := ?_
          allocated := ?_
          below := ?_
          apart := fun other hother => ?_
          transmitting := fun _ _ hnone => absurd hnone hidle
          waiting := fun _ _ hnone => absurd hnone hidle
          timer := fun _ _ hnone => absurd hnone hidle
          timerOff := fun _ => h₁.timerOff (Or.inl hbusy)
          broadcast := fun _ _ hnone => absurd hnone hidle
          justified := h₁.justified.concat trivial }
      · rw [ledger_append, hsending]
        rfl
      · rw [ledger_append, h₁.allocated]
        rfl
      · rw [ledger_append, h₁.below]
        simp only [LowpanAckDecorator.below, hackFrame]
        rfl
      · obtain rfl := Option.some.inj hother
        exact hack₁
  · rw [if_pos hbusy, List.append_nil]
    exact h₁

theorem stopSendingFrame (h : s.Inv acts) (framePtr : ℕ) (subStatus : ErrorT) :
    (s.stopSendingFrame framePtr subStatus).2.1.Inv
      (acts ++ (s.stopSendingFrame framePtr subStatus).2.2) := by
  have hunchanged : s.Inv (acts ++ []) := by
    rw [List.append_nil]
    exact h
  unfold LowpanAckDecorator.stopSendingFrame
  dsimp only
  by_cases huser : s.outgoingUserFrame = some framePtr
  · rw [if_neg (not_not.mpr huser)]
    have hsending := h.sending
    rw [huser] at hsending
    have hstopped : ∀ new, ledger LowpanAckDecoratorAct.sendingEntry [] (acts ++ new) = some [] →
        ledger LowpanAckDecoratorAct.allocEntry [] (acts ++ new) =
          some s.outgoingAckFrame.toList →
        ledger LowpanAckDecoratorAct.belowEntry [] (acts ++ new) =
          some s.outgoingAckFrame.toList →
        (∀ act ∈ new, ∀ pre, LowpanAckDecoratorAct.SuccessJustified pre act) →
        ({ s with timeoutTimerRunning := false, outgoingUserFrame := none } :
          LowpanAckDecorator).Inv (acts ++ new) :=
      fun new hsending hallocated hbelow hnew =>
        inv_of_idle rfl hsending hallocated hbelow rfl (h.justified.append_of_forall hnew)
    have hbelow := h.below
    by_cases hack : s.outgoingAckFrame = none
    · rw [if_neg (not_not.mpr hack)]
      rw [LowpanAckDecorator.below, hack, huser] at hbelow
      by_cases hfinished : s.transmissionFinishedBit = true
      · rw [if_pos hfinished]
        rw [hfinished] at hbelow
        refine hstopped _ ?_ ?_ ?_ ?_
        · rw [ledger_append, hsending]
          simp [ledger, LowpanAckDecoratorAct.sendingEntry]
        · rw [ledger_append, h.allocated]
          rfl
        · rw [ledger_append, hbelow, hack]
          rfl
        · intro act hact
          obtain rfl := List.mem_singleton.mp hact
          exact fun _ => trivial
      · rw [if_neg hfinished]
        rw [if_neg hfinished] at hbelow
        by_cases hsub : subStatus = SUCCESS
        · rw [if_neg (not_not.mpr hsub)]
          refine hstopped _ ?_ ?_ ?_ ?_
          · rw [ledger_append, hsending]
            simp [ledger, LowpanAckDecoratorAct.sendingEntry]
          · rw [ledger_append, h.allocated]
            rfl
          · rw [ledger_append, hbelow, hack]
            simp [ledger, LowpanAckDecoratorAct.belowEntry]
          · intro act hact
            rcases List.mem_cons.mp hact with rfl | hact
            · exact fun _ => trivial
            · obtain rfl := List.mem_singleton.mp hact
              exact fun _ => trivial
        · rw [if_pos hsub]
          exact hunchanged
    · rw [if_pos hack]
      obtain ⟨ackFrame, hackFrame⟩ := Option.ne_none_iff_exists'.mp hack
      rw [LowpanAckDecorator.below, hackFrame] at hbelow
      refine hstopped _ ?_ ?_ ?_ ?_
      · rw [ledger_append, hsending]
        simp [ledger, LowpanAckDecoratorAct.sendingEntry]
      · rw [ledger_append, h.allocated]
        rfl
      · rw [ledger_append, hbelow, hackFrame]
        rfl
      · intro act hact
        obtain rfl := List.mem_singleton.mp hact
        exact fun _ => trivial
  · rw [if_pos huser]
    exact hunchanged

/-- The frame of the client is finished, after it was transmitted. -/
theorem finishSendingFrame (hsending : ledger LowpanAckDecoratorAct.sendingEntry [] acts =
      some [framePtr]) (huser : s.outgoingUserFrame = some framePtr)
    (hack : s.outgoingAckFrame = none)
    (hallocated : ledger LowpanAckDecoratorAct.allocEntry [] acts = some [])
    (hbelow : ledger LowpanAckDecoratorAct.belowEntry [] acts = some [])
    (hjustified : Justified LowpanAckDecoratorAct.SuccessJustified acts)
    (hsuccess : status = SUCCESS → LowpanAckDecoratorAct.Acknowledged acts framePtr) :
    (s.finishSendingFrame status).1.Inv (acts ++ (s.finishSendingFrame status).2) := by
  unfold LowpanAckDecorator.finishSendingFrame
  rw [huser]
  refine inv_of_idle rfl ?_ ?_ ?_ rfl (hjustified.concat hsuccess)
  · rw [ledger_append, hsending]
    simp [ledger, LowpanAckDecoratorAct.sendingEntry]
  · rw [ledger_append, hallocated]
    simp only [hack]
    rfl
  · rw [ledger_append, hbelow]
    simp only [hack]
    rfl

theorem subFrameSendingFinished (h : s.Inv acts) (hbelow : framePtr ∈ s.below)
    (status subStatus : ErrorT) :
    (s.subFrameSendingFinished framePtr status subStatus).1.Inv
      (acts ++ (s.subFrameSendingFinished framePtr status subStatus).2) := by
  have hledger := h.below
  unfold LowpanAckDecorator.subFrameSendingFinished
  rcases Option.eq_none_or_eq_some s.outgoingAckFrame with hack | ⟨ackFrame, hack⟩
  · rw [LowpanAckDecorator.below, hack] at hledger hbelow
    dsimp only at hledger hbelow
    have hunfinished : s.transmissionFinishedBit = false := by
      by_contra htrue
      rw [Bool.not_eq_false] at htrue
      rw [htrue] at hbelow
      cases hbelow
    rw [hunfinished, if_neg Bool.false_ne_true] at hledger hbelow
    have huser : s.outgoingUserFrame = some framePtr := by simpa using hbelow
    rw [if_pos huser]
    have hsending := h.sending
    have hallocated := h.allocated
    rw [huser] at hsending hledger
    rw [hack] at hallocated
    dsimp only
    rw [List.append_cons]
    have hjustified : Justified LowpanAckDecoratorAct.SuccessJustified
        (acts ++ [.subFinished framePtr status]) := h.justified.concat trivial
    have hsending₁ : ledger LowpanAckDecoratorAct.sendingEntry []
        (acts ++ [.subFinished framePtr status]) = some [framePtr] := by
      rw [ledger_append, hsending]
      rfl
    have hallocated₁ : ledger LowpanAckDecoratorAct.allocEntry []
        (acts ++ [.subFinished framePtr status]) = some [] := by
      rw [ledger_append, hallocated]
      rfl
    have hbelow₁ : ledger LowpanAckDecoratorAct.belowEntry []
        (acts ++ [.subFinished framePtr status]) = some [] := by
      rw [ledger_append, hledger]
      simp [ledger, LowpanAckDecoratorAct.belowEntry]
    by_cases hfailed : status ≠ SUCCESS ∧ status ≠ ENOACK
    · rw [if_pos hfailed]
      exact finishSendingFrame hsending₁ huser hack hallocated₁ hbelow₁ hjustified
        fun hsuccess => absurd hsuccess hfailed.1
    rw [if_neg hfailed]
    have hstatus : status = SUCCESS ∨ status = ENOACK := by
      by_contra hnot
      exact hfailed (not_or.mp hnot)
    have htransmitting : ({ s with transmissionFinishedBit := true } :
        LowpanAckDecorator).Transmitting (acts ++ [.subFinished framePtr status]) framePtr :=
      (h.transmitting framePtr huser hack).mono rfl (fun _ hmem => by simp at hmem)
        (fun _ => Or.inr ⟨status, hstatus, List.mem_singleton_self _⟩) Or.inl
    by_cases hreceived : s.acknowledgmentReceivedBit = true
    · rw [if_pos hreceived]
      exact finishSendingFrame hsending₁ huser hack hallocated₁ hbelow₁ hjustified
        fun _ => htransmitting.acknowledged rfl hreceived
    rw [if_neg hreceived]
    by_cases hmissed : s.acknowledgmentMissedBit = true
    · rw [if_pos hmissed]
      exact finishSendingFrame hsending₁ huser hack hallocated₁ hbelow₁ hjustified
        fun hsuccess => absurd hsuccess (by decide)
    rw [if_neg hmissed, List.append_nil]
    rw [Bool.not_eq_true] at hreceived hmissed
    refine { h with
      sending := by rw [hsending₁, huser]; rfl
      allocated := by rw [hallocated₁, hack]; rfl
      below := by rw [hbelow₁, LowpanAckDecorator.below]; simp only [hack]; rfl
      transmitting := fun other hother _ => ?_
      waiting := fun _ _ _ _ => ⟨hreceived, hmissed⟩
      justified := hjustified }
    rw [huser, Option.some.injEq] at hother
    subst hother
    exact htransmitting
  · rw [LowpanAckDecorator.below, hack, List.mem_singleton] at hbelow
    subst hbelow
    rw [LowpanAckDecorator.below, hack] at hledger
    have huser : s.outgoingUserFrame ≠ some framePtr := fun hsome => h.apart framePtr hsome hack
    rw [if_neg huser, if_pos hack]
    dsimp only
    have hallocated := h.allocated
    rw [hack] at hallocated
    have htimer := h.timerOff (Or.inr (by rw [hack]; exact Option.some_ne_none _))
    have hjustified : Justified LowpanAckDecoratorAct.SuccessJustified
        (acts ++ [.subFinished framePtr status, .freeFrame framePtr]) := by
      refine h.justified.append_of_forall fun act hact => ?_
      rcases List.mem_cons.mp hact with rfl | hact
      · exact fun _ => trivial
      · obtain rfl := List.mem_singleton.mp hact
        exact fun _ => trivial
    have hsending₁ : ledger LowpanAckDecoratorAct.sendingEntry []
        (acts ++ [.subFinished framePtr status, .freeFrame framePtr]) =
          some s.outgoingUserFrame.toList := by
      rw [ledger_append, h.sending]
      rfl
    have hallocated₁ : ledger LowpanAckDecoratorAct.allocEntry []
        (acts ++ [.subFinished framePtr status, .freeFrame framePtr]) = some [] := by
      rw [ledger_append, hallocated]
      simp [ledger, LowpanAckDecoratorAct.allocEntry]
    have hbelow₁ : ledger LowpanAckDecoratorAct.belowEntry []
        (acts ++ [.subFinished framePtr status, .freeFrame framePtr]) = some [] := by
      rw [ledger_append, hledger]
      simp [ledger, LowpanAckDecoratorAct.belowEntry]
    cases hsome : s.outgoingUserFrame with
    | none =>
      rw [hsome] at hsending₁
      exact inv_of_idle rfl hsending₁ hallocated₁ hbelow₁ htimer hjustified
    | some userFrame =>
      rw [hsome] at hsending₁
      dsimp only
      by_cases hstatus : subStatus = SUCCESS
      · subst hstatus
        have hstarted : ({ s with
            outgoingUserFrame := some userFrame
            outgoingAckFrame := none } : LowpanAckDecorator).outgoingUserFrame = some userFrame := rfl
        have hinv := inv_started hstarted rfl hsending₁ hallocated₁ hbelow₁ hjustified
        obtain ⟨received, running, hstart, -, -⟩ := @startSendingUserFrame_success
          { s with outgoingUserFrame := some userFrame, outgoingAckFrame := none } userFrame
        rw [List.append_assoc] at hinv
        rw [hstart] at hinv ⊢
        exact hinv
      · rw [startSendingUserFrame_fail hstatus, if_pos hstatus, ← List.append_assoc]
        refine inv_of_idle rfl ?_ ?_ ?_ htimer (hjustified.concat fun h => absurd h hstatus)
        · rw [ledger_append, hsending₁]
          simp [ledger, LowpanAckDecoratorAct.sendingEntry]
        · rw [ledger_append, hallocated₁]
          rfl
        · rw [ledger_append, hbelow₁]
          rfl

/-- Acts that neither open nor close anything. -/
theorem append_other (h : s.Inv acts)
    (hsending : ∀ act ∈ new, act.sendingEntry = .other)
    (hallocated : ∀ act ∈ new, act.allocEntry = .other)
    (hbelow : ∀ act ∈ new, act.belowEntry = .other) : s.Inv (acts ++ new) := by
  refine { h with
    sending := by rw [ledger_append, h.sending]; exact ledger_of_other hsending
    allocated := by rw [ledger_append, h.allocated]; exact ledger_of_other hallocated
    below := by rw [ledger_append, h.below]; exact ledger_of_other hbelow
    transmitting := fun userFrame huser hack => ?_
    justified := h.justified.append_of_forall fun act hact pre => ?_ }
  · refine (h.transmitting userFrame huser hack).mono rfl (fun other hmem => ?_) Or.inl Or.inl
    exact absurd (hsending _ hmem) (by simp [LowpanAckDecoratorAct.sendingEntry])
  · have hentry := hsending act hact
    cases act with
    | frameSendingFinished other status => cases hentry
    | _ => exact trivial

theorem timeoutTimerFired (h : s.Inv acts) (hrunning : s.timeoutTimerRunning = true) :
    s.timeoutTimerFired.1.Inv (acts ++ s.timeoutTimerFired.2) := by
  have hout : ¬(s.outgoingUserFrame = none ∨ s.outgoingAckFrame ≠ none) := by
    intro hcase
    rw [h.timerOff hcase] at hrunning
    cases hrunning
  obtain ⟨huser, hack⟩ := not_or.mp hout
  rw [not_not] at hack
  obtain ⟨framePtr, huser⟩ := Option.ne_none_iff_exists'.mp huser
  unfold LowpanAckDecorator.timeoutTimerFired
  dsimp only
  rw [if_neg (by rw [huser]; exact Option.some_ne_none _)]
  have hsending := h.sending
  have hallocated := h.allocated
  have hbelow := h.below
  rw [huser] at hsending
  rw [hack] at hallocated
  rw [LowpanAckDecorator.below, hack] at hbelow
  by_cases hfinished : s.transmissionFinishedBit = true
  · rw [if_pos hfinished]
    rw [hfinished] at hbelow
    exact finishSendingFrame hsending huser hack hallocated hbelow h.justified
      fun hsuccess => absurd hsuccess (by decide)
  · rw [if_neg hfinished, List.append_nil]
    refine { h with
      waiting := fun _ _ _ htrue => absurd htrue hfinished
      timer := fun _ _ _ _ hmissed => by cases hmissed
      timerOff := fun _ => rfl
      transmitting := fun other hother hnone => ?_ }
    have hmono : ({ s with timeoutTimerRunning := false, acknowledgmentMissedBit := true } :
        LowpanAckDecorator).Transmitting (acts ++ []) other :=
      (h.transmitting other hother hnone).mono rfl (fun _ hmem => by cases hmem) Or.inl Or.inl
    rwa [List.append_nil] at hmono

theorem handleReceivedAckFrame (h : s.Inv acts) (framePtr : ℕ) (ackedFrameSeqNo : UInt8)
    (answers : LowpanAckAnswers)
    (hearly : s.outgoingAckFrame ≠ none → s.transmissionFinishedBit = true →
      ∀ userFrame, s.outgoingUserFrame = some userFrame →
        ackedFrameSeqNo ≠ ieee154DFrameGetSeqNo (s.frames userFrame)) :
    (s.handleReceivedAckFrame framePtr ackedFrameSeqNo answers).1.Inv
      (acts ++ (s.handleReceivedAckFrame framePtr ackedFrameSeqNo answers).2) := by
  have hreceived : s.Inv (acts ++ [.ackReceived ackedFrameSeqNo]) := by
    refine h.append_other ?_ ?_ ?_ <;>
    · intro act hact
      obtain rfl := List.mem_singleton.mp hact
      rfl
  have hdone : ∀ {s' : LowpanAckDecorator} {new : List LowpanAckDecoratorAct},
      s'.Inv (acts ++ [.ackReceived ackedFrameSeqNo] ++ new) →
      s'.Inv (acts ++ (.ackReceived ackedFrameSeqNo :: new ++
        (if answers.startReceiving ≠ SUCCESS then [.frameReceivingFinished framePtr FAIL]
          else []))) := by
    intro s' new hinv
    rw [List.cons_append, List.append_cons acts, ← List.append_assoc]
    refine hinv.append_other ?_ ?_ ?_ <;>
    · intro act hact
      split at hact
      · obtain rfl := List.mem_singleton.mp hact
        rfl
      · cases hact
  unfold LowpanAckDecorator.handleReceivedAckFrame
  dsimp only
  cases huser : s.outgoingUserFrame with
  | none => exact hdone (by rw [List.append_nil]; exact hreceived)
  | some userFrame =>
    dsimp only
    by_cases hseqNo : ieee154DFrameGetSeqNo (s.frames userFrame) = ackedFrameSeqNo
    · rw [if_pos hseqNo]
      by_cases hfinished : s.transmissionFinishedBit = true
      · rw [if_pos hfinished]
        have hack : s.outgoingAckFrame = none := by
          by_contra hack
          exact hearly hack hfinished userFrame huser hseqNo.symm
        have hsending := hreceived.sending
        have hallocated := hreceived.allocated
        have hbelow := hreceived.below
        rw [huser] at hsending
        rw [hack] at hallocated
        rw [LowpanAckDecorator.below, hack, hfinished] at hbelow
        have htransmitting : ({ s with acknowledgmentReceivedBit := true } :
            LowpanAckDecorator).Transmitting (acts ++ [.ackReceived ackedFrameSeqNo]) userFrame :=
          (h.transmitting userFrame huser hack).mono rfl (fun _ hmem => by simp at hmem) Or.inl
            fun _ => Or.inr (by rw [hseqNo]; exact List.mem_singleton_self _)
        exact hdone (finishSendingFrame hsending rfl hack hallocated hbelow hreceived.justified
          fun _ => htransmitting.acknowledged hfinished rfl)
      · rw [if_neg hfinished]
        refine hdone ?_
        rw [List.append_nil]
        suffices hinv : ({ s with
            acknowledgmentReceivedBit := true
            timeoutTimerRunning := false } : LowpanAckDecorator).Inv
              (acts ++ [.ackReceived ackedFrameSeqNo]) by
          rw [huser] at hinv
          exact hinv
        refine { hreceived with
          transmitting := fun other hother hack => ?_
          waiting := fun _ _ _ htrue => absurd htrue hfinished
          timer := fun _ _ _ hfalse => by cases hfalse
          timerOff := fun _ => rfl
          broadcast := fun _ _ _ _ => rfl }
        obtain rfl : userFrame = other := Option.some.inj (huser.symm.trans hother)
        exact (h.transmitting userFrame huser hack).mono rfl (fun _ hmem => by simp at hmem) Or.inl
          fun _ => Or.inr (by rw [hseqNo]; exact List.mem_singleton_self _)
    · rw [if_neg hseqNo]
      exact hdone (by rw [List.append_nil]; exact hreceived)

theorem handleReceivedRegularFrame (h : s.Inv acts) (framePtr : ℕ) (answers : LowpanAckAnswers) :
    (s.handleReceivedRegularFrame framePtr answers).1.Inv
      (acts ++ (s.handleReceivedRegularFrame framePtr answers).2) := by
  have hdone : ∀ {s' : LowpanAckDecorator} {new : List LowpanAckDecoratorAct},
      s'.Inv (acts ++ new) →
      s'.Inv (acts ++ (new ++ [.frameReceivingFinished framePtr SUCCESS])) := by
    intro s' new hinv
    rw [← List.append_assoc]
    refine hinv.append_other ?_ ?_ ?_ <;>
    · intro act hact
      obtain rfl := List.mem_singleton.mp hact
      rfl
  have hunchanged : s.Inv (acts ++ []) := by
    rw [List.append_nil]
    exact h
  unfold LowpanAckDecorator.handleReceivedRegularFrame
  dsimp only
  by_cases hidle : s.outgoingUserFrame = none ∧ s.outgoingAckFrame = none
  · rw [if_pos hidle]
    obtain ⟨huser, hack⟩ := hidle
    have hsending := h.sending
    have hallocated := h.allocated
    have hbelow := h.below_of_idle huser
    have htimer := h.timerOff (Or.inl huser)
    rw [huser] at hsending
    rw [hack] at hallocated hbelow
    -- An allocated frame that is freed again.
    have hfreed : ∀ {s' : LowpanAckDecorator} (ackFrame : ℕ), s'.outgoingUserFrame = none →
        s'.outgoingAckFrame = none → s'.timeoutTimerRunning = false →
        s'.Inv (acts ++ [.allocFrame ackFrame, .freeFrame ackFrame]) := by
      intro s' ackFrame huser' hack' htimer'
      refine inv_of_idle huser' ?_ ?_ ?_ htimer' (h.justified.append_of_forall ?_)
      · rw [ledger_append, hsending]
        rfl
      · rw [ledger_append, hallocated, hack']
        simp [ledger, LowpanAckDecoratorAct.allocEntry]
      · rw [ledger_append, hbelow, hack']
        rfl
      · intro act hact
        rcases List.mem_cons.mp hact with rfl | hact
        · exact fun _ => trivial
        · obtain rfl := List.mem_singleton.mp hact
          exact fun _ => trivial
    cases answers.allocated with
    | none => exact hdone hunchanged
    | some ackFrame =>
      dsimp only
      cases lowpanNalpExtSoftwareAcknowledgmentCreateAckFrame (s.frames ackFrame)
        (s.frames framePtr) with
      | none => exact hdone (hfreed ackFrame huser hack htimer)
      | some frame =>
        dsimp only
        by_cases hstatus : answers.startSending = SUCCESS
        · rw [if_neg (not_not.mpr hstatus)]
          refine hdone (inv_of_idle huser ?_ ?_ ?_ htimer (h.justified.append_of_forall ?_))
          · rw [ledger_append, hsending]
            rfl
          · rw [ledger_append, hallocated]
            rfl
          · rw [ledger_append, hbelow]
            rfl
          · intro act hact
            rcases List.mem_cons.mp hact with rfl | hact
            · exact fun _ => trivial
            · obtain rfl := List.mem_singleton.mp hact
              exact fun _ => trivial
        · rw [if_pos hstatus]
          exact hdone (hfreed ackFrame huser hack htimer)
  · rw [if_neg hidle]
    exact hdone hunchanged

theorem frameReceivingFinished (h : s.Inv acts) (framePtr : ℕ) (frame : Ieee154DframeInfo)
    (status : ErrorT) (answers : LowpanAckAnswers) (huser : s.outgoingUserFrame ≠ some framePtr)
    (hearly : status = SUCCESS → s.outgoingAckFrame ≠ none → s.transmissionFinishedBit = true →
      ∀ userFrame, s.outgoingUserFrame = some userFrame →
        lowpanNalpExtSoftwareAcknowledgmentIsAckFrame frame ≠
          some (ieee154DFrameGetSeqNo (s.frames userFrame))) :
    (s.frameReceivingFinished framePtr frame status answers).1.Inv
      (acts ++ (s.frameReceivingFinished framePtr frame status answers).2) := by
  have hset := h.setFrame huser frame
  unfold LowpanAckDecorator.frameReceivingFinished
  dsimp only
  by_cases hstatus : status = SUCCESS
  · rw [if_pos hstatus]
    cases hack : lowpanNalpExtSoftwareAcknowledgmentIsAckFrame frame with
    | some ackedFrameSeqNo =>
      refine hset.handleReceivedAckFrame framePtr ackedFrameSeqNo answers ?_
      intro hout hfinished userFrame hsome heq
      refine hearly hstatus hout hfinished userFrame hsome ?_
      have hframe : Function.update s.frames framePtr frame userFrame = s.frames userFrame :=
        Function.update_of_ne (fun hptr => huser (hsome.trans (congrArg some hptr))) _ _
      rw [hack, heq]
      dsimp only
      rw [hframe]
    | none => exact hset.handleReceivedRegularFrame framePtr answers
  · rw [if_neg hstatus]
    refine hset.append_other ?_ ?_ ?_ <;>
    · intro act hact
      obtain rfl := List.mem_singleton.mp hact
      rfl

end Inv

/-- Nothing is outgoing at first. -/
theorem inv_initial (frames : ℕ → Ieee154DframeInfo) : (initial frames).Inv [] :=
  inv_of_idle rfl rfl rfl rfl rfl justified_nil

/-! ## Progress -/

/-- How many completions of the lower layer and expirations of the timer can still come before the
frame of the client is finished. -/
def pending (s : LowpanAckDecorator) : ℕ :=
  match s.outgoingAckFrame with
  | some _ => 3
  | none => s.below.length + s.timeoutTimerRunning.toNat

theorem pending_of_ack {ackFrame : ℕ} (hack : s.outgoingAckFrame = some ackFrame) :
    s.pending = 3 := by
  rw [pending, hack]

theorem pending_of_no_ack (hack : s.outgoingAckFrame = none) :
    s.pending = (if s.transmissionFinishedBit then [] else s.outgoingUserFrame.toList).length +
      s.timeoutTimerRunning.toNat := by
  simp only [pending, below, hack]

theorem length_below_le (s : LowpanAckDecorator) : s.below.length ≤ 1 := by
  rw [below]
  split
  · exact le_rfl
  · split
    · exact Nat.zero_le _
    · cases s.outgoingUserFrame with
      | none => exact Nat.zero_le _
      | some userFrame => exact le_rfl

theorem pending_le (s : LowpanAckDecorator) : s.pending ≤ 3 := by
  have hbelow := s.length_below_le
  have hrunning := s.timeoutTimerRunning.toNat_le
  rw [pending]
  split <;> omega

/-- Something is pending for every frame of the client. -/
theorem Inv.pending_pos (h : s.Inv acts) (huser : s.outgoingUserFrame = some framePtr) :
    0 < s.pending := by
  rcases Option.eq_none_or_eq_some s.outgoingAckFrame with hack | ⟨ackFrame, hack⟩
  · rw [pending_of_no_ack hack]
    by_cases hfinished : s.transmissionFinishedBit = true
    · obtain ⟨hreceived, hmissed⟩ := h.waiting framePtr huser hack hfinished
      rw [h.timer framePtr huser hack hreceived hmissed]
      exact Nat.succ_pos _
    · rw [if_neg hfinished, huser]
      exact Nat.lt_of_lt_of_le Nat.zero_lt_one (Nat.le_add_right _ _)
  · rw [pending_of_ack hack]
    exact Nat.succ_pos _

/-- The events that bring the frame of the client nearer to its end. -/
def completes : LowpanAckDecoratorEvent → Bool
  | .subFrameSendingFinished _ _ _ => true
  | .timeoutTimerFired => true
  | _ => false

/-- The frame of the client is still outgoing, with less pending after a completion. -/
def Remains (s : LowpanAckDecorator) (framePtr : ℕ) (event : LowpanAckDecoratorEvent)
    (s' : LowpanAckDecorator) : Prop :=
  s'.outgoingUserFrame = some framePtr ∧ s'.pending + (completes event).toNat ≤ s.pending

/-- The frame of the client is finished or stopped. -/
def Ends (new : List LowpanAckDecoratorAct) (framePtr : ℕ) : Prop :=
  ∃ act ∈ new, act.sendingEntry = .closes framePtr

theorem ends_of_finishSendingFrame (huser : s.outgoingUserFrame = some framePtr) :
    Ends (s.finishSendingFrame status).2 framePtr := by
  refine ⟨.frameSendingFinished framePtr status, ?_, rfl⟩
  rw [finishSendingFrame, huser]
  exact List.mem_singleton_self _

theorem Ends.cons (h : Ends new framePtr) (act : LowpanAckDecoratorAct) :
    Ends (act :: new) framePtr := by
  obtain ⟨closing, hmem, hentry⟩ := h
  exact ⟨closing, List.mem_cons_of_mem _ hmem, hentry⟩

theorem Ends.append (h : Ends new framePtr) (more : List LowpanAckDecoratorAct) :
    Ends (new ++ more) framePtr := by
  obtain ⟨closing, hmem, hentry⟩ := h
  exact ⟨closing, List.mem_append_left _ hmem, hentry⟩

theorem Ends.append_right (h : Ends new framePtr) (more : List LowpanAckDecoratorAct) :
    Ends (more ++ new) framePtr := by
  obtain ⟨closing, hmem, hentry⟩ := h
  exact ⟨closing, List.mem_append_right _ hmem, hentry⟩

theorem remains_startSendingFrame (huser : s.outgoingUserFrame = some framePtr) (other : ℕ)
    (frame : Ieee154DframeInfo) (subStatus : ErrorT) :
    s.Remains framePtr (.startSendingFrame other frame subStatus)
      (s.startSendingFrame other frame subStatus).2.1 := by
  have hbusy : s.outgoingUserFrame ≠ none := by
    rw [huser]
    exact Option.some_ne_none _
  unfold startSendingFrame
  dsimp only
  rw [if_pos hbusy]
  exact ⟨huser, le_rfl⟩

theorem stopSendingFrame_ends_or_remains (huser : s.outgoingUserFrame = some framePtr)
    (other : ℕ) (subStatus : ErrorT) :
    Ends (s.stopSendingFrame other subStatus).2.2 framePtr ∨
      s.Remains framePtr (.stopSendingFrame other subStatus)
        (s.stopSendingFrame other subStatus).2.1 := by
  unfold stopSendingFrame
  dsimp only
  by_cases hother : s.outgoingUserFrame = some other
  · obtain rfl : framePtr = other := Option.some.inj (huser.symm.trans hother)
    have hends : Ends [.stopped framePtr] framePtr :=
      ⟨.stopped framePtr, List.mem_singleton_self _, rfl⟩
    rw [if_neg (not_not.mpr hother)]
    split
    · exact Or.inl hends
    · split
      · exact Or.inl hends
      · split
        · exact Or.inr ⟨huser, le_rfl⟩
        · exact Or.inl (hends.cons _)
  · rw [if_pos hother]
    exact Or.inr ⟨huser, le_rfl⟩

theorem subFrameSendingFinished_ends_or_remains (huser : s.outgoingUserFrame = some framePtr)
    (hapart : s.outgoingAckFrame ≠ some framePtr) {other : ℕ} (hbelow : other ∈ s.below)
    (status subStatus : ErrorT) :
    Ends (s.subFrameSendingFinished other status subStatus).2 framePtr ∨
      s.Remains framePtr (.subFrameSendingFinished other status subStatus)
        (s.subFrameSendingFinished other status subStatus).1 := by
  unfold subFrameSendingFinished
  rcases Option.eq_none_or_eq_some s.outgoingAckFrame with hack | ⟨ackFrame, hack⟩
  · rw [below, hack] at hbelow
    dsimp only at hbelow
    have hunfinished : ¬s.transmissionFinishedBit = true := by
      intro htrue
      rw [htrue] at hbelow
      cases hbelow
    rw [if_neg hunfinished, huser] at hbelow
    obtain rfl := List.mem_singleton.mp hbelow
    rw [if_pos huser]
    dsimp only
    split
    · exact Or.inl ((ends_of_finishSendingFrame huser).cons _)
    · split
      · exact Or.inl ((ends_of_finishSendingFrame huser).cons _)
      · split
        · exact Or.inl ((ends_of_finishSendingFrame huser).cons _)
        · refine Or.inr ⟨huser, ?_⟩
          rw [pending_of_no_ack hack, if_neg hunfinished, huser]
          simp only [pending, below, hack]
          simp [completes, Nat.add_comm]
  · rw [below, hack] at hbelow
    obtain rfl := List.mem_singleton.mp hbelow
    have hother : s.outgoingUserFrame ≠ some other := by
      rw [huser]
      exact fun heq => hapart (hack.trans heq.symm)
    rw [if_neg hother, if_pos hack]
    simp only [huser]
    by_cases hstatus : subStatus = SUCCESS
    · subst hstatus
      obtain ⟨received, running, hstart, -, -⟩ := @startSendingUserFrame_success
        { s with outgoingUserFrame := some framePtr, outgoingAckFrame := none } framePtr
      rw [hstart]
      refine Or.inr ⟨rfl, ?_⟩
      rw [pending_of_ack hack]
      have hrunning := running.toNat_le
      change 1 + running.toNat + 1 ≤ 3
      omega
    · rw [startSendingUserFrame_fail hstatus, if_pos hstatus]
      have hends : Ends [.frameSendingFinished framePtr subStatus] framePtr :=
        ⟨.frameSendingFinished framePtr subStatus, List.mem_singleton_self _, rfl⟩
      exact Or.inl (hends.append_right _)

theorem timeoutTimerFired_ends_or_remains (huser : s.outgoingUserFrame = some framePtr)
    (hack : s.outgoingAckFrame = none) (hrunning : s.timeoutTimerRunning = true) :
    Ends s.timeoutTimerFired.2 framePtr ∨
      s.Remains framePtr .timeoutTimerFired s.timeoutTimerFired.1 := by
  unfold timeoutTimerFired
  dsimp only
  rw [if_neg (by rw [huser]; exact Option.some_ne_none _)]
  split
  · exact Or.inl (ends_of_finishSendingFrame huser)
  · refine Or.inr ⟨huser, ?_⟩
    simp only [pending, below, hack, hrunning]
    exact le_rfl

/-- When the timer does not run, nothing more is pending. -/
theorem pending_timerOff (s : LowpanAckDecorator) (received : Bool) :
    ({ s with acknowledgmentReceivedBit := received, timeoutTimerRunning := false } :
      LowpanAckDecorator).pending ≤ s.pending := by
  rcases Option.eq_none_or_eq_some s.outgoingAckFrame with hack | ⟨ackFrame, hack⟩
  · simp only [pending, below, hack]
    exact Nat.add_le_add_left (Nat.zero_le _) _
  · simp only [pending, hack]
    exact le_rfl

theorem frameReceivingFinished_ends_or_remains (huser : s.outgoingUserFrame = some framePtr)
    (other : ℕ) (frame : Ieee154DframeInfo) (status : ErrorT) (answers : LowpanAckAnswers) :
    Ends (s.frameReceivingFinished other frame status answers).2 framePtr ∨
      s.Remains framePtr (.frameReceivingFinished other frame status answers)
        (s.frameReceivingFinished other frame status answers).1 := by
  unfold frameReceivingFinished
  dsimp only
  split
  · split
    · unfold handleReceivedAckFrame
      simp only [huser]
      split
      · split
        · exact Or.inl (((ends_of_finishSendingFrame rfl).cons _).append _)
        · have hpending := s.pending_timerOff true
          simp only [huser] at hpending
          exact Or.inr ⟨rfl, hpending⟩
      · exact Or.inr ⟨rfl, le_of_eq (by rw [pending, pending]; simp only [below, huser]; rfl)⟩
    · unfold handleReceivedRegularFrame
      dsimp only
      rw [if_neg fun hidle => by rw [huser] at hidle; cases hidle.1]
      exact Or.inr ⟨huser, le_rfl⟩
  · exact Or.inr ⟨huser, le_rfl⟩

end LowpanAckDecorator

/-! ## Runs -/

namespace LowpanAckWorld

variable {w : LowpanAckWorld} {event : LowpanAckDecoratorEvent}
  {events : List LowpanAckDecoratorEvent} {framePtr : ℕ}

def step : LowpanAckWorld → LowpanAckDecoratorEvent →
    LowpanAckWorld × List LowpanAckDecoratorAct :=
  watch LowpanAckDecorator.step

def initial (frames : ℕ → Ieee154DframeInfo) : LowpanAckWorld :=
  ⟨LowpanAckDecorator.initial frames, []⟩

/-- The frames of the client are acknowledged, and one frame at a time is in flight below. -/
structure Correct (w : LowpanAckWorld) : Prop where
  oneBelow : ∃ below, ledger LowpanAckDecoratorAct.belowEntry [] w.history = some below ∧
    below.length ≤ 1
  sending : ledger LowpanAckDecoratorAct.sendingEntry [] w.history =
    some w.state.outgoingUserFrame.toList
  endsOnce : ∀ framePtr, opened LowpanAckDecoratorAct.sendingEntry framePtr w.history =
    closed LowpanAckDecoratorAct.sendingEntry framePtr w.history +
      w.state.outgoingUserFrame.toList.count framePtr
  freedOnce : ∀ framePtr, opened LowpanAckDecoratorAct.allocEntry framePtr w.history =
    closed LowpanAckDecoratorAct.allocEntry framePtr w.history +
      w.state.outgoingAckFrame.toList.count framePtr
  ackInFlight : ∀ framePtr, w.state.outgoingAckFrame = some framePtr → w.below = [framePtr]
  justified : Justified LowpanAckDecoratorAct.SuccessJustified w.history
  armed : ∀ framePtr, w.state.outgoingUserFrame = some framePtr →
    w.state.outgoingAckFrame = none → w.state.transmissionFinishedBit = true →
      ieee154DFrameInfoCheckIfDestinationIsBroadcast (w.state.frames framePtr) = false ∧
        w.state.timeoutTimerRunning = true
  pending : w.state.outgoingUserFrame ≠ none → w.below ≠ [] ∨ w.state.timeoutTimerRunning = true

abbrev Inv (w : LowpanAckWorld) : Prop :=
  w.state.Inv w.history

theorem Inv.sending_eq (h : w.Inv) : w.sending = w.state.outgoingUserFrame.toList := by
  rw [sending, h.sending]
  rfl

theorem Inv.allocated_eq (h : w.Inv) : w.allocated = w.state.outgoingAckFrame.toList := by
  rw [allocated, h.allocated]
  rfl

theorem Inv.below_eq (h : w.Inv) : w.below = w.state.below := by
  rw [below, h.below]
  rfl

theorem Inv.not_sending (h : w.Inv) (hmem : framePtr ∉ w.sending) :
    w.state.outgoingUserFrame ≠ some framePtr := by
  intro heq
  rw [h.sending_eq, heq] at hmem
  exact hmem (List.mem_singleton_self _)

theorem Inv.not_allocated (h : w.Inv) (hmem : framePtr ∉ w.allocated) :
    w.state.outgoingAckFrame ≠ some framePtr := by
  intro heq
  rw [h.allocated_eq, heq] at hmem
  exact hmem (List.mem_singleton_self _)

theorem Inv.step (h : w.Inv) (hallowed : w.Allowed event) (hearly : w.NotEarly event) :
    (step w event).1.Inv := by
  cases event with
  | startSendingFrame other frame subStatus =>
    exact LowpanAckDecorator.Inv.startSendingFrame h (h.not_sending hallowed.1)
      (h.not_allocated hallowed.2) frame subStatus
  | stopSendingFrame other subStatus =>
    exact LowpanAckDecorator.Inv.stopSendingFrame h other subStatus
  | subFrameSendingFinished other status subStatus =>
    have hmem : other ∈ w.below := hallowed
    rw [h.below_eq] at hmem
    exact LowpanAckDecorator.Inv.subFrameSendingFinished h hmem status subStatus
  | timeoutTimerFired => exact LowpanAckDecorator.Inv.timeoutTimerFired h hallowed
  | frameReceivingFinished other frame status answers =>
    exact LowpanAckDecorator.Inv.frameReceivingFinished h other frame status answers
      (h.not_sending hallowed.1) hearly

theorem Inv.run (h : w.Inv) (hallowed : RunMeets LowpanAckWorld.step Allowed w events)
    (hearly : RunMeets LowpanAckWorld.step NotEarly w events) :
    (run LowpanAckWorld.step w events).1.Inv :=
  run_invariant_state (fun _ _ hmeets h => h.step hmeets.1 hmeets.2) h (hallowed.and hearly)

theorem Inv.correct (h : w.Inv) : w.Correct where
  oneBelow := ⟨w.state.below, h.below, w.state.length_below_le⟩
  sending := h.sending
  endsOnce framePtr := by
    have hcount := count_ledger h.sending framePtr
    rwa [List.count_nil, Nat.zero_add] at hcount
  freedOnce framePtr := by
    have hcount := count_ledger h.allocated framePtr
    rwa [List.count_nil, Nat.zero_add] at hcount
  ackInFlight framePtr hack := by
    rw [h.below_eq, LowpanAckDecorator.below, hack]
  justified := h.justified
  armed framePtr huser hack hfinished := by
    obtain ⟨hreceived, hmissed⟩ := h.waiting framePtr huser hack hfinished
    refine ⟨?_, h.timer framePtr huser hack hreceived hmissed⟩
    by_contra hbroadcast
    rw [Bool.not_eq_false] at hbroadcast
    rw [h.broadcast framePtr huser hack hbroadcast] at hreceived
    cases hreceived
  pending huser := by
    obtain ⟨framePtr, huser⟩ := Option.ne_none_iff_exists'.mp huser
    have hpos := LowpanAckDecorator.Inv.pending_pos h huser
    rw [h.below_eq]
    by_contra hnot
    obtain ⟨hbelow, htimer⟩ := not_or.mp hnot
    rw [not_not] at hbelow
    rw [Bool.not_eq_true] at htimer
    rcases Option.eq_none_or_eq_some w.state.outgoingAckFrame with hack | ⟨ackFrame, hack⟩
    · simp only [LowpanAckDecorator.pending, hack, hbelow, htimer] at hpos
      exact absurd hpos (lt_irrefl _)
    · rw [LowpanAckDecorator.below, hack] at hbelow
      cases hbelow

theorem Inv.ends_or_remains (h : w.Inv) (hallowed : w.Allowed event)
    (huser : w.state.outgoingUserFrame = some framePtr) :
    LowpanAckDecorator.Ends (LowpanAckWorld.step w event).2 framePtr ∨
      w.state.Remains framePtr event (LowpanAckWorld.step w event).1.state := by
  cases event with
  | startSendingFrame other frame subStatus =>
    exact Or.inr (LowpanAckDecorator.remains_startSendingFrame huser other frame subStatus)
  | stopSendingFrame other subStatus =>
    exact LowpanAckDecorator.stopSendingFrame_ends_or_remains huser other subStatus
  | subFrameSendingFinished other status subStatus =>
    have hmem : other ∈ w.below := hallowed
    rw [h.below_eq] at hmem
    exact LowpanAckDecorator.subFrameSendingFinished_ends_or_remains huser
      (h.apart framePtr huser) hmem status subStatus
  | timeoutTimerFired =>
    have hack : w.state.outgoingAckFrame = none := by
      by_contra hack
      have hoff := h.timerOff (Or.inr hack)
      rw [show w.state.timeoutTimerRunning = true from hallowed] at hoff
      cases hoff
    exact LowpanAckDecorator.timeoutTimerFired_ends_or_remains huser hack hallowed
  | frameReceivingFinished other frame status answers =>
    exact LowpanAckDecorator.frameReceivingFinished_ends_or_remains huser other frame status
      answers

/-- A frame of the client ends at the latest with the last completion that is pending. -/
theorem Inv.ends (h : w.Inv) (huser : w.state.outgoingUserFrame = some framePtr)
    (hallowed : RunMeets LowpanAckWorld.step Allowed w events)
    (hearly : RunMeets LowpanAckWorld.step NotEarly w events)
    (hcount : w.state.pending ≤ events.countP LowpanAckDecorator.completes) :
    LowpanAckDecorator.Ends (Lib.run LowpanAckWorld.step w events).2 framePtr := by
  induction events generalizing w with
  | nil => exact absurd (LowpanAckDecorator.Inv.pending_pos h huser) (Nat.not_lt.mpr hcount)
  | cons event events ih =>
    rcases h.ends_or_remains hallowed.1 huser with hends | ⟨huser', hpending⟩
    · exact hends.append _
    · refine (ih (h.step hallowed.1 hearly.1) huser' hallowed.2 hearly.2 ?_).append_right _
      rw [List.countP_cons] at hcount
      cases hcompletes : LowpanAckDecorator.completes event <;>
        simp only [hcompletes] at hcount hpending <;> simp at hcount hpending <;> omega

end LowpanAckWorld

section Results

variable (frames : ℕ → Ieee154DframeInfo) (events : List LowpanAckDecoratorEvent)

/-- One frame is in flight below at most, every accepted frame is stopped or finished once, and with
success only when it was transmitted and acknowledged; a frame that waits for its acknowledgement
ends with the third completion at the latest.  So it is in the runs in which no acknowledgement comes
early. -/
theorem lowpanAckDecorator_correct
    (hallowed : RunMeets LowpanAckWorld.step LowpanAckWorld.Allowed (.initial frames) events)
    (hearly : RunMeets LowpanAckWorld.step LowpanAckWorld.NotEarly (.initial frames) events) :
    let w := (run LowpanAckWorld.step (.initial frames) events).1
    w.Correct ∧ ∀ framePtr more, w.state.outgoingUserFrame = some framePtr →
      RunMeets LowpanAckWorld.step LowpanAckWorld.Allowed w more →
      RunMeets LowpanAckWorld.step LowpanAckWorld.NotEarly w more →
      3 ≤ more.countP LowpanAckDecorator.completes →
        LowpanAckDecorator.Ends (run LowpanAckWorld.step w more).2 framePtr := by
  intro w
  have hinv : w.Inv := LowpanAckWorld.Inv.run (LowpanAckDecorator.inv_initial frames) hallowed hearly
  refine ⟨hinv.correct, fun framePtr more huser hallowed' hearly' hcount => ?_⟩
  exact hinv.ends huser hallowed' hearly' (le_trans w.state.pending_le hcount)

/-- The frame of the examples: from a short address to another one, with one byte of payload. -/
def frameOfSeqNo (seqNo : UInt8) : Ieee154DframeInfo :=
  ⟨[10, 65, 136, seqNo, 0, 0, 1, 0, 2, 0, 9, 0, 0, 0, 0, 0], 16, 10, 50, 68⟩

/-- An acknowledgement of a frame. -/
def ackOfSeqNo (seqNo : UInt8) : Ieee154DframeInfo :=
  ⟨[12, 65, 136, 0, 0, 0, 2, 0, 1, 0, 0, 196, seqNo, 0, 0, 0], 16, 10, 50, 68⟩

/-- A frame that is transmitted and acknowledged. -/
theorem lowpanAckDecorator_correct_acknowledged :
    let events : List LowpanAckDecoratorEvent :=
      [.startSendingFrame 1 (frameOfSeqNo 7) SUCCESS, .subFrameSendingFinished 1 SUCCESS SUCCESS,
        .frameReceivingFinished 9 (ackOfSeqNo 7) SUCCESS ⟨none, 0, SUCCESS, SUCCESS⟩]
    let w := (run LowpanAckWorld.step (.initial fun _ => frameOfSeqNo 0) events).1
    LowpanAckDecoratorAct.frameSendingFinished 1 SUCCESS ∈ w.history ∧ w.Correct := by
  intro events w
  have hallowed : RunMeets LowpanAckWorld.step LowpanAckWorld.Allowed
      (.initial fun _ => frameOfSeqNo 0) events :=
    ⟨⟨by decide, by decide⟩, List.mem_singleton_self 1,
      ⟨by decide, by decide, fun _ h => (by cases h)⟩, trivial⟩
  have hearly : RunMeets LowpanAckWorld.step LowpanAckWorld.NotEarly
      (.initial fun _ => frameOfSeqNo 0) events :=
    ⟨trivial, trivial, fun _ hack => absurd rfl hack, trivial⟩
  have hhistory : w.history = [.accepted 1, .subStarted 1 (frameOfSeqNo 7), .subFinished 1 SUCCESS,
      .ackReceived 7, .frameSendingFinished 1 SUCCESS] := by rfl
  refine ⟨?_, (lowpanAckDecorator_correct (fun _ => frameOfSeqNo 0) events hallowed hearly).1⟩
  rw [hhistory]
  decide

/-- An acknowledgement that comes early finishes a frame that the lower layer never took. -/
theorem lowpanAckDecorator_correct_early :
    let events : List LowpanAckDecoratorEvent :=
      [.startSendingFrame 1 (frameOfSeqNo 7) SUCCESS, .subFrameSendingFinished 1 SUCCESS SUCCESS,
        .frameReceivingFinished 9 (ackOfSeqNo 7) SUCCESS ⟨none, 0, SUCCESS, SUCCESS⟩,
        .frameReceivingFinished 9 (frameOfSeqNo 5) SUCCESS ⟨some 2, 6, SUCCESS, SUCCESS⟩,
        .startSendingFrame 3 (frameOfSeqNo 8) SUCCESS,
        .frameReceivingFinished 9 (ackOfSeqNo 8) SUCCESS ⟨none, 0, SUCCESS, SUCCESS⟩]
    let w := (run LowpanAckWorld.step (.initial fun _ => frameOfSeqNo 0) events).1
    RunMeets LowpanAckWorld.step LowpanAckWorld.Allowed (.initial fun _ => frameOfSeqNo 0) events ∧
      LowpanAckDecoratorAct.frameSendingFinished 3 SUCCESS ∈ w.history ∧
      (∀ frame, LowpanAckDecoratorAct.subStarted 3 frame ∉ w.history) ∧ ¬w.Correct := by
  intro events w
  have hallowed : RunMeets LowpanAckWorld.step LowpanAckWorld.Allowed
      (.initial fun _ => frameOfSeqNo 0) events :=
    ⟨⟨by decide, by decide⟩, List.mem_singleton_self 1,
      ⟨by decide, by decide, fun _ h => (by cases h)⟩,
      ⟨by decide, by decide, fun _ h => (by cases h; decide)⟩, ⟨by decide, by decide⟩,
      ⟨by decide, by decide, fun _ h => (by cases h)⟩, trivial⟩
  have hhistory : ∃ ack, w.history = [.accepted 1, .subStarted 1 (frameOfSeqNo 7),
      .subFinished 1 SUCCESS, .ackReceived 7, .frameSendingFinished 1 SUCCESS, .allocFrame 2,
      .subStarted 2 ack, .frameReceivingFinished 9 SUCCESS, .accepted 3, .ackReceived 8,
      .frameSendingFinished 3 SUCCESS] := ⟨_, rfl⟩
  obtain ⟨ack, hhistory⟩ := hhistory
  rw [hhistory]
  refine ⟨hallowed, by simp, by simp, fun hcorrect => ?_⟩
  have hjustified := hcorrect.justified
  rw [hhistory] at hjustified
  obtain ⟨before, after, frame, hpre, -⟩ := hjustified [.accepted 1, .subStarted 1 (frameOfSeqNo 7),
    .subFinished 1 SUCCESS, .ackReceived 7, .frameSendingFinished 1 SUCCESS, .allocFrame 2,
    .subStarted 2 ack, .frameReceivingFinished 9 SUCCESS, .accepted 3, .ackReceived 8]
    (.frameSendingFinished 3 SUCCESS) [] rfl rfl
  have hmem : LowpanAckDecoratorAct.subStarted 3 frame ∈ before ++ .subStarted 3 frame :: after :=
    List.mem_append_right _ List.mem_cons_self
  rw [← hpre] at hmem
  simp at hmem

end Results

end Whip6
