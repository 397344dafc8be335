import Whip6.Lowpan.FragmenterMain

/-!
# The jobs of the fragmenter

What the component of the fragmenter is for, seen from outside: a token is bound to a packet when
fragmenting that is started, holds the frames that it was given and did not give back yet, and is
released when the packet is finished, which it may be only when it holds no frame.  `FragmenterJobs`
accepts the calls of which this is true.
-/

namespace Whip6

open Lib

/-! ## Jobs seen from outside -/

/-- The packet of a token and the frames that it holds. -/
structure FragmenterJob where
  packet : ℕ
  held : Multiset ℕ
  deriving DecidableEq

/-- The jobs of the tokens. -/
abbrev FragmenterJobs := ℕ → Option FragmenterJob

/-- What is seen from outside: that a packet was accepted with a token, and the calls. -/
inductive FragmenterAct
  | started (token packet : ℕ)
  | called (call : LowpanFragmenterCall)

namespace FragmenterJobs

/-- The jobs after an act, if it is one that may happen. -/
def step (jobs : FragmenterJobs) : FragmenterAct → Option FragmenterJobs
  | .started token packet =>
    match jobs token with
    | none => some (Function.update jobs token (some ⟨packet, 0⟩))
    | some _ => none
  | .called (.frameForFragmentedPacketRequested token (some frame)) =>
    match jobs token with
    | none => none
    | some job =>
      some (Function.update jobs token (some { job with held := frame ::ₘ job.held }))
  | .called (.frameForFragmentedPacketReleased token frame) =>
    match jobs token with
    | none => none
    | some job =>
      if frame ∈ job.held then
        some (Function.update jobs token (some { job with held := job.held.erase frame }))
      else none
  | .called (.fragmentingIpv6PacketFinished packet token _) =>
    match jobs token with
    | none => none
    | some job =>
      if packet = some job.packet ∧ job.held = 0 then some (Function.update jobs token none)
      else none
  | .called _ => some jobs

/-- The jobs after a sequence of acts, if all of them may happen. -/
def run (jobs : FragmenterJobs) : List FragmenterAct → Option FragmenterJobs
  | [] => some jobs
  | act :: acts => (jobs.step act).bind fun jobs => jobs.run acts

variable {jobs jobs' : FragmenterJobs} {acts acts' : List FragmenterAct}

theorem run_append : jobs.run (acts ++ acts') = (jobs.run acts).bind fun jobs => jobs.run acts' := by
  induction acts generalizing jobs with
  | nil => rfl
  | cons act acts ih =>
    rw [List.cons_append, run, run]
    cases jobs.step act with
    | none => rfl
    | some jobs => exact ih

/-- Whether fragmenting a packet is started with a token. -/
def startsToken (token : ℕ) : FragmenterAct → Bool
  | .started t _ => t == token
  | _ => false

/-- Whether a packet is finished with a token. -/
def finishesToken (token : ℕ) : FragmenterAct → Bool
  | .called (.fragmentingIpv6PacketFinished _ t _) => t == token
  | _ => false

theorem isSome_update (jobs : FragmenterJobs) (t token : ℕ) (job : Option FragmenterJob) :
    (Function.update jobs t job token).isSome =
      if t = token then job.isSome else (jobs token).isSome := by
  by_cases h : t = token
  · subst h
    simp
  · rw [Function.update_of_ne (Ne.symm h), if_neg h]

theorem step_count {act : FragmenterAct} (h : jobs.step act = some jobs') (token : ℕ) :
    (jobs token).isSome.toNat + (startsToken token act).toNat =
      (finishesToken token act).toNat + (jobs' token).isSome.toNat := by
  cases act with
  | started t packet =>
    cases hjob : jobs t with
    | some job => simp [step, hjob] at h
    | none =>
      simp only [step, hjob, Option.some.injEq] at h
      subst h
      rw [isSome_update]
      by_cases ht : t = token
      · subst ht
        simp [startsToken, finishesToken, hjob]
      · simp [startsToken, finishesToken, ht]
  | called call =>
    cases call with
    | frameForFragmentedPacketRequested t frame =>
      cases frame with
      | none =>
        obtain rfl : jobs = jobs' := Option.some.inj h
        simp [startsToken, finishesToken]
      | some frame =>
        cases hjob : jobs t with
        | none => simp [step, hjob] at h
        | some job =>
          simp only [step, hjob, Option.some.injEq] at h
          subst h
          rw [isSome_update]
          by_cases ht : t = token
          · subst ht
            simp [startsToken, finishesToken, hjob]
          · simp [startsToken, finishesToken, ht]
    | frameForFragmentedPacketReleased t frame =>
      cases hjob : jobs t with
      | none => simp [step, hjob] at h
      | some job =>
        simp only [step, hjob, Option.ite_none_right_eq_some, Option.some.injEq] at h
        obtain ⟨-, rfl⟩ := h
        rw [isSome_update]
        by_cases ht : t = token
        · subst ht
          simp [startsToken, finishesToken, hjob]
        · simp [startsToken, finishesToken, ht]
    | fragmentingIpv6PacketFinished packet t status =>
      cases hjob : jobs t with
      | none => simp [step, hjob] at h
      | some job =>
        simp only [step, hjob, Option.ite_none_right_eq_some, Option.some.injEq] at h
        obtain ⟨-, rfl⟩ := h
        rw [isSome_update]
        by_cases ht : t = token
        · subst ht
          simp [startsToken, finishesToken, hjob]
        · simp [startsToken, finishesToken, ht]
    | startSendingFrame frame status =>
      obtain rfl : jobs = jobs' := Option.some.inj h
      simp [startsToken, finishesToken]
    | stopSendingFrame frame status =>
      obtain rfl : jobs = jobs' := Option.some.inj h
      simp [startsToken, finishesToken]

/-- What is accepted finishes each packet once that was started, unless it is still a job. -/
theorem count_run (h : jobs.run acts = some jobs') (token : ℕ) :
    (jobs token).isSome.toNat + acts.countP (startsToken token) =
      acts.countP (finishesToken token) + (jobs' token).isSome.toNat := by
  induction acts generalizing jobs with
  | nil =>
    obtain rfl : jobs = jobs' := Option.some.inj h
    simp
  | cons act acts ih =>
    rw [run] at h
    obtain ⟨jobs₁, hstep, hrun⟩ := Option.bind_eq_some_iff.mp h
    have hrest := ih hrun
    have hact := step_count hstep token
    rw [List.countP_cons, List.countP_cons]
    have hite : ∀ b : Bool, (if b = true then 1 else 0) = b.toNat := fun b => by cases b <;> rfl
    rw [hite, hite]
    omega

end FragmenterJobs

end Whip6
