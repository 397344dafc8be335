import Whip6.Lowpan.FragmenterInvariant

/-!
# The frames that the fragmenter sends

A frame that the fragmenter is provided with gets ready, and is passed for sending once: when it is
accepted, it is not ready any more (`LowpanFragmenterMain.fragmentationTask_ready`).
-/

namespace Whip6

open Lib

namespace LowpanFragmenterMain

variable (s : LowpanFragmenterMain) (token : ℕ)

@[simp] theorem tokenReadyFrames_post :
    (s.postFragmentationTaskForTokenIfNecessary token).tokenReadyFrames = s.tokenReadyFrames := by
  unfold postFragmentationTaskForTokenIfNecessary
  split_ifs <;> rfl

@[simp] theorem tokenReadyFrames_obtain :
    (s.obtainNextFragment token).tokenReadyFrames = s.tokenReadyFrames := by
  unfold obtainNextFragment
  split
  · rw [tokenReadyFrames_post]
    split_ifs <;> rfl
  · rfl

/-- What is passed for sending is a frame that is ready, which it is no more if it is accepted; and
a frame gets ready only by being provided. -/
def SendsReady (r : LowpanFragmenterMain × List LowpanFragmenterCall) : Prop :=
  (∀ f status, .startSendingFrame f status ∈ r.2 → ∃ t, s.tokenReadyFrames t = some f ∧
    (status = SUCCESS → r.1.tokenReadyFrames t = none)) ∧
  ∀ t f, r.1.tokenReadyFrames t = some f → s.tokenReadyFrames t = some f ∨
    .frameForFragmentedPacketRequested (t + 1) (some f) ∈ r.2

variable {s}

/-- Steps that have nothing sent, and give back frames at most. -/
theorem sendsReady_of_le {r : LowpanFragmenterMain × List LowpanFragmenterCall}
    (hcalls : ∀ f status, .startSendingFrame f status ∉ r.2)
    (hready : ∀ t f, r.1.tokenReadyFrames t = some f → s.tokenReadyFrames t = some f) :
    s.SendsReady r :=
  ⟨fun f status hmem => absurd hmem (hcalls f status), fun t f hf => Or.inl (hready t f hf)⟩

variable (s)

theorem finishFragmentingPacket_sendsReady (status : ErrorT) :
    s.SendsReady (s.finishFragmentingPacket token status) := by
  refine sendsReady_of_le (fun f status hmem => ?_) fun t f hf => hf
  cases List.mem_singleton.mp hmem

theorem attemptToReserveFrame_sendsReady (answers : LowpanFragmenterAnswers) :
    s.SendsReady (s.attemptToReserveFrame token answers).2 := by
  have hready : (s.attemptToReserveFrame token answers).2.1.tokenReadyFrames =
      Function.update s.tokenReadyFrames token answers.frame := by
    unfold attemptToReserveFrame
    dsimp only
    cases answers.frame with
    | some frame => rfl
    | none =>
      dsimp only
      split_ifs
      · rw [tokenReadyFrames_post]
        rfl
      · rfl
  have hcalls : (s.attemptToReserveFrame token answers).2.2 =
      [.frameForFragmentedPacketRequested (token + 1) answers.frame] := by
    unfold attemptToReserveFrame
    dsimp only
    cases answers.frame with
    | some frame => rfl
    | none =>
      dsimp only
      split_ifs <;> rfl
  constructor
  · intro f status hmem
    rw [hcalls] at hmem
    cases List.mem_singleton.mp hmem
  · intro t f hf
    rw [hready] at hf
    by_cases ht : t = token
    · subst ht
      rw [Function.update_self] at hf
      rw [hcalls, hf]
      exact Or.inr List.mem_cons_self
    · rw [Function.update_of_ne ht] at hf
      exact Or.inl hf

theorem sendFrameWithFragment_sendsReady (answers : LowpanFragmenterAnswers) :
    s.SendsReady (s.sendFrameWithFragment token answers) := by
  unfold sendFrameWithFragment
  cases hframe : s.tokenReadyFrames token with
  | none => exact sendsReady_of_le (fun f status hmem => by cases hmem) fun t f hf => hf
  | some frame =>
    dsimp only
    constructor
    · intro f status hmem
      obtain ⟨rfl, rfl⟩ := LowpanFragmenterCall.startSendingFrame.inj (List.mem_singleton.mp hmem)
      refine ⟨token, hframe, fun hstatus => ?_⟩
      rw [if_pos hstatus, tokenReadyFrames_post]
      exact Function.update_self _ _ _
    · intro t f hf
      rw [tokenReadyFrames_post] at hf
      split_ifs at hf
      · by_cases ht : t = token
        · rw [ht] at hf
          rw [setReadyFrame_tokenReadyFrames, Function.update_self] at hf
          cases hf
        · rw [setReadyFrame_tokenReadyFrames, Function.update_of_ne ht] at hf
          exact Or.inl hf
      · exact Or.inl hf

theorem giveUpFragmentingPacket_sendsReady (answers : LowpanFragmenterAnswers) :
    s.SendsReady (s.giveUpFragmentingPacket token answers) := by
  have hrelease : ∀ f status, .startSendingFrame f status ∉ Inv.releaseReady s token := by
    intro f status hmem
    unfold Inv.releaseReady at hmem
    split at hmem
    · cases hmem
    · cases List.mem_singleton.mp hmem
  have hstop : (Inv.stopSent (s.setReadyFrame token none) token answers).1.tokenReadyFrames =
        Function.update s.tokenReadyFrames token none ∧
      ∀ f status, .startSendingFrame f status ∉
        (Inv.stopSent (s.setReadyFrame token none) token answers).2 := by
    unfold Inv.stopSent
    split
    · exact ⟨rfl, fun f status => List.not_mem_nil⟩
    · split_ifs
      · refine ⟨rfl, fun f status hmem => ?_⟩
        rcases List.mem_cons.mp hmem with hmem | hmem
        · cases hmem
        · cases List.mem_singleton.mp hmem
      · refine ⟨rfl, fun f status hmem => ?_⟩
        cases List.mem_singleton.mp hmem
  obtain ⟨hready, hstop⟩ := hstop
  have hcleared : ∀ t f, Function.update s.tokenReadyFrames token none t = some f →
      s.tokenReadyFrames t = some f := by
    intro t f hf
    by_cases ht : t = token
    · rw [ht, Function.update_self] at hf
      cases hf
    · rwa [Function.update_of_ne ht] at hf
  rw [Inv.giveUpFragmentingPacket_eq]
  dsimp only
  split
  · refine sendsReady_of_le (fun f status hmem => ?_) fun t f hf => hcleared t f (hready ▸ hf)
    rw [List.mem_append, List.mem_append] at hmem
    rcases hmem with (hmem | hmem) | hmem
    · exact hrelease f status hmem
    · exact hstop f status hmem
    · cases List.mem_singleton.mp hmem
  · refine sendsReady_of_le (fun f status hmem => ?_) fun t f hf => hcleared t f (hready ▸ hf)
    rcases List.mem_append.mp hmem with hmem | hmem
    · exact hrelease f status hmem
    · exact hstop f status hmem

theorem processToken_sendsReady (answers : LowpanFragmenterAnswers) :
    s.SendsReady (s.processToken token answers) := by
  have hnothing : ∀ s' : LowpanFragmenterMain, s'.SendsReady (s', []) := fun s' =>
    sendsReady_of_le (fun f status => List.not_mem_nil) fun t f hf => hf
  have hprocess : ∀ s' : LowpanFragmenterMain, s'.tokenReadyFrames = s.tokenReadyFrames →
      ∀ r, s'.SendsReady r → s.SendsReady r := by
    intro s' hs' r hr
    rw [SendsReady, hs'] at hr
    exact hr
  unfold processToken
  refine hprocess (s.setFlags token (s.tokenFlags token &&& ~~~TOKEN_FLAG_PROCESSED)) rfl _ ?_
  generalize s.setFlags token (s.tokenFlags token &&& ~~~TOKEN_FLAG_PROCESSED) = s'
  dsimp only
  by_cases hgiveUp : s'.tokenFlags token &&& (TOKEN_FLAG_CANCELED ||| TOKEN_FLAG_FAILED) ≠ 0
  · rw [if_pos hgiveUp]
    exact s'.giveUpFragmentingPacket_sendsReady token answers
  rw [if_neg hgiveUp]
  cases s'.tokenPtrs token with
  | none => exact hnothing s'
  | some ptr =>
    dsimp only
    split_ifs
    · have hattempt := s'.attemptToReserveFrame_sendsReady token answers
      generalize s'.attemptToReserveFrame token answers = r at hattempt ⊢
      obtain ⟨reserved, s'', calls⟩ := r
      cases reserved with
      | false => exact hattempt
      | true =>
        rw [SendsReady] at hattempt ⊢
        dsimp only at hattempt ⊢
        rw [tokenReadyFrames_obtain]
        exact hattempt
    · exact s'.sendFrameWithFragment_sendsReady token answers
    · exact hnothing s'
    · exact s'.finishFragmentingPacket_sendsReady token SUCCESS
    · exact hnothing s'
    · exact s'.sendFrameWithFragment_sendsReady token answers
    · exact hnothing s'

theorem fragmentationTask_ready (answers : LowpanFragmenterAnswers) :
    s.SendsReady (s.fragmentationTask answers) := by
  unfold fragmentationTask
  dsimp only
  split_ifs
  · exact sendsReady_of_le (fun f status hmem => by cases hmem) fun t f hf => hf
  · exact processToken_sendsReady { s with
      taskPosted := false, jobQueue := s.jobQueue.dequeueFirst } s.jobQueue.peekFirst answers

end LowpanFragmenterMain

end Whip6
