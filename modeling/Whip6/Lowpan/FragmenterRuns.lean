import Whip6.Lib.Runs
import Whip6.Lowpan.FragmenterInvariant

/-!
# Runs of the component of the fragmenter

The component receives packets and cancellations from above, runs its task, and is told from below
that frames were sent.  In every run in which the index of a new job can be computed in eight bits
whenever a token is enqueued, the queue of jobs holds exactly the tokens that are flagged as
processed, and what is seen from outside is what `FragmenterJobs` accepts: every frame is given back
before its packet is finished, and every packet that was started is finished once.  With up to 128
tokens every run is one of these; with 255 not every run is.
-/

namespace Whip6

open Lib

inductive LowpanFragmenterEvent
  | start
  | startFragmentingIpv6Packet (packet : ℕ) (loWPANHdrs : Option ℕ)
  | stopFragmentingIpv6Packet (token : ℕ)
  | fragmentationTask (answers : LowpanFragmenterAnswers)
  | frameSendingFinished (framePtr : ℕ) (status : ErrorT)
  /-- Others write to packets, headers and frames. -/
  | memoryChanged (memory : LowpanFragmenterMemory)

namespace LowpanFragmenterMain

/-- The component before it is started: all of its variables are zero. -/
def initial (poolSize : UInt8) (memory : LowpanFragmenterMemory) : LowpanFragmenterMain where
  isOn := false
  state := ⟨none, none, 0, 0, fun _ => ⟨none, none, none, 0, 0⟩, 0⟩
  tokenPtrs := fun _ => none
  tokenReadyFrames := fun _ => none
  tokenSentFrames := fun _ => none
  tokenFlags := fun _ => 0
  jobQueue := ⟨fun _ => 0, 0, 0, poolSize.toNat⟩
  taskPosted := false
  poolSize := poolSize.toNat
  memory := memory

def step (s : LowpanFragmenterMain) : LowpanFragmenterEvent → LowpanFragmenterMain × List FragmenterAct
  | .start => (s.start.2, [])
  | .startFragmentingIpv6Packet packet loWPANHdrs =>
    let r := s.startFragmentingIpv6Packet packet loWPANHdrs
    (r.2, if r.1 = 0 then [] else [.started r.1 packet])
  | .stopFragmentingIpv6Packet token => ((s.stopFragmentingIpv6Packet token).2, [])
  | .fragmentationTask answers =>
    let r := s.fragmentationTask answers
    (r.1, r.2.map .called)
  | .frameSendingFinished framePtr status =>
    let r := s.frameSendingFinished framePtr status
    (r.1, r.2.map .called)
  | .memoryChanged memory => ({ s with memory := memory }, [])

/-- The guards under which a step enqueues a token. -/
def Enqueues (s : LowpanFragmenterMain) : LowpanFragmenterEvent → Prop
  | .start => False
  | .startFragmentingIpv6Packet packet _ =>
    s.isOn = true ∧ s.state.Accepts (s.memory.packets packet)
  | .stopFragmentingIpv6Packet token =>
    token ≠ 0 ∧ token ≤ s.poolSize ∧ s.tokenPtrs (token - 1) ≠ none ∧
      s.tokenFlags (token - 1) &&& TOKEN_FLAG_CANCELED = 0 ∧
      s.tokenFlags (token - 1) &&& TOKEN_FLAG_PROCESSED = 0
  | .fragmentationTask answers =>
    s.jobQueue.isEmpty = false ∧ s.Continues s.jobQueue.peekFirst answers
  | .frameSendingFinished framePtr _ =>
    ∃ token,
      (List.range s.poolSize).find? (fun token => s.tokenSentFrames token == some framePtr) =
        some token ∧ s.tokenFlags token &&& TOKEN_FLAG_PROCESSED = 0
  | .memoryChanged _ => False

/-- The queue to which a step adds its token. -/
def queueBefore (s : LowpanFragmenterMain) : LowpanFragmenterEvent → QueuePub ℕ
  | .fragmentationTask _ => s.jobQueue.dequeueFirst
  | _ => s.jobQueue

/-- If a step enqueues a token, then at an index that can be computed in eight bits. -/
def Fits (s : LowpanFragmenterMain) (event : LowpanFragmenterEvent) : Prop :=
  s.Enqueues event → (s.queueBefore event).NoWrap

/-- What holds of the jobs in a state. -/
structure JobsHold (s : LowpanFragmenterMain) (queue : List ℕ) : Prop where
  holds : s.jobQueue.Holds queue
  nodup : queue.Nodup
  processed : ∀ t < s.poolSize, t ∈ queue ↔ s.tokenFlags t &&& TOKEN_FLAG_PROCESSED ≠ 0
  allocated : ∀ t ∈ queue, t < s.poolSize ∧ s.tokenPtrs t ≠ none
  posted : queue ≠ [] → s.taskPosted = true
  pending : ∀ t, s.tokenPtrs t ≠ none → t ∈ queue ∨ s.tokenSentFrames t ≠ none

/-- The component was not started. -/
structure Off (s : LowpanFragmenterMain) : Prop where
  isOn : s.isOn = false
  poolSize_lt : s.poolSize < 256
  tokenPtrs : s.tokenPtrs = fun _ => none
  tokenSentFrames : s.tokenSentFrames = fun _ => none
  tokenFlags : s.tokenFlags = fun _ => 0
  capacity : s.jobQueue.numElements = s.poolSize
  holds : s.jobQueue.Holds []

/-- Off, or on with the invariant, the task posted if there are jobs, and the acts accepted. -/
def RunInv (s : LowpanFragmenterMain) (acts : List FragmenterAct) : Prop :=
  (s.Off ∨ ∃ current free queue, s.Inv current free queue none ∧
    (queue ≠ [] → s.taskPosted = true)) ∧
  FragmenterJobs.run (fun _ => none) acts = some s.jobs

variable {s : LowpanFragmenterMain} {acts : List FragmenterAct}

theorem initial_runInv (poolSize : UInt8) (memory : LowpanFragmenterMemory) :
    (initial poolSize memory).RunInv [] := by
  refine ⟨Or.inl ⟨rfl, poolSize.toNat_lt, rfl, rfl, rfl, rfl, ?_⟩, ?_⟩
  · exact QueuePub.holds_clear ⟨fun _ => 0, 0, 0, poolSize.toNat⟩
  · refine congrArg some (funext fun k => ?_)
    cases k <;> rfl

namespace Off

theorem jobs_eq (h : s.Off) : s.jobs = fun _ => none := by
  funext k
  cases k with
  | zero => rfl
  | succ t => rw [jobs, h.tokenPtrs, Option.map_none]

/-- Starting gives the invariant. -/
theorem start (h : s.Off) :
    s.start.2.Inv [] (List.range s.poolSize) [] none ∧ s.start.2.jobs = fun _ => none := by
  unfold LowpanFragmenterMain.start
  rw [if_neg (by rw [h.isOn]; decide)]
  have hsize : (UInt8.ofNat s.poolSize).toNat = s.poolSize :=
    UInt8.toNat_ofNat_of_lt' h.poolSize_lt
  have hlists := LowpanFragGlobalState.init_represents s.state.packets (UInt8.ofNat s.poolSize)
  rw [hsize] at hlists
  refine ⟨?_, ?_⟩
  · exact
      { isOn := rfl
        lists := hlists
        numPackets := hsize
        poolSize_lt := h.poolSize_lt
        tokens := by simp
        outside := fun _ _ => rfl
        holds := QueuePub.holds_clear s.jobQueue
        capacity := h.capacity
        firstIdx := fun hpos => hpos
        nodup := List.nodup_nil
        allocated := fun t ht => absurd ht List.not_mem_nil
        processed := fun t _ => by simp
        idle := fun _ _ => ⟨rfl, rfl⟩
        pending := fun t ht _ => absurd rfl ht }
  · funext k
    cases k <;> rfl

theorem setMemory (h : s.Off) (memory : LowpanFragmenterMemory) :
    ({ s with memory := memory } : LowpanFragmenterMain).Off := { h with }

/-- Before the component is started nothing but starting it changes anything. -/
theorem step (h : s.Off) (event : LowpanFragmenterEvent) (hacts :
    FragmenterJobs.run (fun _ => none) acts = some s.jobs) :
    (s.step event).1.RunInv (acts ++ (s.step event).2) := by
  cases event with
  | start =>
    obtain ⟨hinv, hjobs⟩ := h.start
    refine ⟨Or.inr ⟨_, _, _, hinv, fun hne => absurd rfl hne⟩, ?_⟩
    rw [LowpanFragmenterMain.step, List.append_nil, hacts, hjobs, h.jobs_eq]
  | startFragmentingIpv6Packet packet loWPANHdrs =>
    have hsame : s.startFragmentingIpv6Packet packet loWPANHdrs = (0, s) :=
      if_pos (by rw [h.isOn]; rfl)
    simp only [LowpanFragmenterMain.step, hsame, if_true, List.append_nil]
    exact ⟨Or.inl h, hacts⟩
  | stopFragmentingIpv6Packet token =>
    have hsame : (s.stopFragmentingIpv6Packet token).2 = s := by
      unfold LowpanFragmenterMain.stopFragmentingIpv6Packet
      dsimp only
      rw [h.tokenPtrs, if_pos rfl, ite_self]
    simp only [LowpanFragmenterMain.step, hsame, List.append_nil]
    exact ⟨Or.inl h, hacts⟩
  | fragmentationTask answers =>
    have hsame : s.fragmentationTask answers = ({ s with taskPosted := false }, []) :=
      if_pos (h.holds.isEmpty_iff.mpr rfl)
    simp only [LowpanFragmenterMain.step, hsame, List.map_nil, List.append_nil]
    exact ⟨Or.inl { h with }, hacts⟩
  | frameSendingFinished framePtr status =>
    have hsame : s.frameSendingFinished framePtr status = (s, []) := by
      have hfind : (List.range s.poolSize).find?
          (fun token => s.tokenSentFrames token == some framePtr) = none := by
        rw [List.find?_eq_none, h.tokenSentFrames]
        intro token _
        simp
      unfold LowpanFragmenterMain.frameSendingFinished
      rw [hfind]
    simp only [LowpanFragmenterMain.step, hsame, List.map_nil, List.append_nil]
    exact ⟨Or.inl h, hacts⟩
  | memoryChanged memory =>
    simp only [LowpanFragmenterMain.step, List.append_nil]
    exact ⟨Or.inl (h.setMemory memory), hacts⟩

end Off

/-- Every step whose token fits into the queue keeps the invariant. -/
theorem step_runInv (s : LowpanFragmenterMain) (acts : List FragmenterAct)
    (event : LowpanFragmenterEvent) (hfits : s.Fits event) (h : s.RunInv acts) :
    (s.step event).1.RunInv (acts ++ (s.step event).2) := by
  obtain ⟨hoff | ⟨current, free, queue, hinv, hposted⟩, hacts⟩ := h
  · exact hoff.step event hacts
  -- A queue that is new only when the task is posted keeps it posted.
  have hkeep : ∀ {queue' : List ℕ} {posted : Bool},
      (queue' = queue ∧ posted = s.taskPosted ∨ posted = true) → queue' ≠ [] → posted = true := by
    rintro queue' posted (⟨rfl, rfl⟩ | rfl) hne
    · exact hposted hne
    · rfl
  have hrun : ∀ {acts' : List FragmenterAct} {jobs : FragmenterJobs},
      s.jobs.run acts' = some jobs →
        FragmenterJobs.run (fun _ => none) (acts ++ acts') = some jobs := by
    intro acts' jobs hjobs
    rw [FragmenterJobs.run_append, hacts, Option.bind_some, hjobs]
  cases event with
  | start =>
    have hsame : s.start.2 = s := congrArg Prod.snd (if_pos hinv.isOn)
    simp only [LowpanFragmenterMain.step, hsame]
    exact ⟨Or.inr ⟨current, free, queue, hinv, hposted⟩, hrun rfl⟩
  | startFragmentingIpv6Packet packet loWPANHdrs =>
    rcases hinv.startFragmentingIpv6Packet packet loWPANHdrs fun haccepts =>
      hfits ⟨hinv.isOn, haccepts⟩ with
      hsame | ⟨token, s', current', free', queue', hstart, hinv', hposted', hfree, hjobs⟩
    · simp only [LowpanFragmenterMain.step, hsame, if_true]
      exact ⟨Or.inr ⟨current, free, queue, hinv, hposted⟩, hrun rfl⟩
    · simp only [LowpanFragmenterMain.step, hstart, Nat.succ_ne_zero, if_false]
      refine ⟨Or.inr ⟨current', free', queue', hinv', hkeep hposted'⟩, hrun ?_⟩
      rw [FragmenterJobs.run, FragmenterJobs.step, hfree, hjobs]
      rfl
  | stopFragmentingIpv6Packet token =>
    obtain ⟨queue', hinv', hposted', hjobs⟩ := hinv.stopFragmentingIpv6Packet token
      fun hpos hle hptr hcanceled hprocessed => hfits ⟨hpos, hle, hptr, hcanceled, hprocessed⟩
    exact ⟨Or.inr ⟨current, free, queue', hinv', hkeep hposted'⟩, hrun (congrArg some hjobs.symm)⟩
  | fragmentationTask answers =>
    obtain ⟨⟨current', free', queue', hinv', hposted'⟩, hcalls⟩ :=
      hinv.fragmentationTask answers fun hempty hcontinues => hfits ⟨hempty, hcontinues⟩
    exact ⟨Or.inr ⟨current', free', queue', hinv', hposted'⟩, hrun hcalls⟩
  | frameSendingFinished framePtr status =>
    obtain ⟨⟨queue', hinv', hposted'⟩, hcalls⟩ := hinv.frameSendingFinished framePtr status
      fun token hfind hprocessed => hfits ⟨token, hfind, hprocessed⟩
    exact ⟨Or.inr ⟨current, free, queue', hinv', hkeep hposted'⟩, hrun hcalls⟩
  | memoryChanged memory =>
    exact ⟨Or.inr ⟨current, free, queue, hinv.setMemory memory, hposted⟩, hrun rfl⟩

/-- What the component is for, in a state that was reached with some acts. -/
structure JobsInvariant (s : LowpanFragmenterMain) (acts : List FragmenterAct) : Prop where
  jobs : ∃ queue, s.JobsHold queue
  accepted : FragmenterJobs.run (fun _ => none) acts = some s.jobs
  /-- What was started was finished once, or its token is still allocated. -/
  count : ∀ token, acts.countP (FragmenterJobs.startsToken token) =
    acts.countP (FragmenterJobs.finishesToken token) + (s.jobs token).isSome.toNat
  /-- When nothing is left to do, everything was finished. -/
  quiescent : s.taskPosted = false → (∀ t, s.tokenSentFrames t = none) →
    ∀ token, acts.countP (FragmenterJobs.startsToken token) =
      acts.countP (FragmenterJobs.finishesToken token)

theorem RunInv.jobsInvariant (h : s.RunInv acts) : s.JobsInvariant acts := by
  have hjobs : ∃ queue, s.JobsHold queue := by
    rcases h.1 with hoff | ⟨current, free, queue, hinv, hposted⟩
    · refine ⟨[], hoff.holds, List.nodup_nil, fun t _ => ?_, fun t ht => ?_, fun hne => ?_,
        fun t ht => ?_⟩
      · rw [hoff.tokenFlags]
        simp
      · exact absurd ht List.not_mem_nil
      · exact absurd rfl hne
      · exact absurd (congrFun hoff.tokenPtrs t) ht
    · exact ⟨queue, hinv.holds, hinv.nodup, hinv.processed,
        fun t ht => ⟨hinv.lt_of_mem ht, hinv.allocated t ht⟩, hposted,
        fun t ht => hinv.pending t ht (Option.some_ne_none t).symm⟩
  have hcount : ∀ token, acts.countP (FragmenterJobs.startsToken token) =
      acts.countP (FragmenterJobs.finishesToken token) + (s.jobs token).isSome.toNat := by
    intro token
    have hrun := FragmenterJobs.count_run h.2 token
    rwa [Option.isSome_none, Bool.toNat_false, Nat.zero_add] at hrun
  refine ⟨hjobs, h.2, hcount, fun hposted hsent token => ?_⟩
  obtain ⟨queue, hqueue⟩ := hjobs
  have hnil : queue = [] := by
    by_contra hne
    exact absurd (hqueue.posted hne) (by rw [hposted]; exact Bool.false_ne_true)
  have hnone : s.jobs token = none := by
    cases token with
    | zero => rfl
    | succ t =>
      have hfree : s.tokenPtrs t = none := by
        by_contra hptr
        rcases hqueue.pending t hptr with hmem | hne
        · exact List.not_mem_nil (hnil ▸ hmem)
        · exact hne (hsent t)
      rw [LowpanFragmenterMain.jobs, hfree, Option.map_none]
  rw [hcount token, hnone, Option.isSome_none, Bool.toNat_false, Nat.add_zero]

/-- Empty packets everywhere. -/
def emptyMemory : LowpanFragmenterMemory where
  packets := fun _ => ⟨.zero, []⟩
  lowpanHdrs := fun _ => ⟨.empty, 0, ⟨0, 0, 0⟩, ⟨0, .none, .none⟩, ⟨0⟩⟩
  frames := fun _ => ⟨[], 0, 0, 0, 0⟩

/-- The layer above has no frame. -/
def noFrame : LowpanFragmenterAnswers := ⟨none, emptyMemory, SUCCESS, SUCCESS⟩

end LowpanFragmenterMain

namespace LowpanFragmenterMain

/-! ## Up to 128 tokens -/

variable {s : LowpanFragmenterMain} {acts : List FragmenterAct}

theorem poolSize_post (s : LowpanFragmenterMain) (t : ℕ) :
    (s.postFragmentationTaskForTokenIfNecessary t).poolSize = s.poolSize := by
  unfold postFragmentationTaskForTokenIfNecessary
  split_ifs <;> rfl

theorem poolSize_giveUp (s : LowpanFragmenterMain) (t : ℕ) (answers : LowpanFragmenterAnswers) :
    (s.giveUpFragmentingPacket t answers).1.poolSize = s.poolSize := by
  have hstop : ∀ s : LowpanFragmenterMain, (Inv.stopSent s t answers).1.poolSize = s.poolSize := by
    intro s
    unfold Inv.stopSent
    cases s.tokenSentFrames t with
    | none => rfl
    | some frame =>
      dsimp only
      split_ifs <;> rfl
  rw [Inv.giveUpFragmentingPacket_eq]
  dsimp only
  split_ifs <;> exact hstop (s.setReadyFrame t none)

theorem poolSize_sendFrame (s : LowpanFragmenterMain) (t : ℕ) (answers : LowpanFragmenterAnswers) :
    (s.sendFrameWithFragment t answers).1.poolSize = s.poolSize := by
  unfold sendFrameWithFragment
  cases s.tokenReadyFrames t with
  | none => rfl
  | some frame =>
    dsimp only
    rw [poolSize_post]
    split_ifs <;> rfl

theorem poolSize_obtainNextFragment (s : LowpanFragmenterMain) (t : ℕ) :
    (s.obtainNextFragment t).poolSize = s.poolSize := by
  unfold obtainNextFragment
  split
  · dsimp only
    rw [poolSize_post]
    split_ifs <;> rfl
  · rfl

theorem poolSize_attempt (s : LowpanFragmenterMain) (t : ℕ) (answers : LowpanFragmenterAnswers) :
    (s.attemptToReserveFrame t answers).2.1.poolSize = s.poolSize := by
  unfold attemptToReserveFrame
  cases answers.frame with
  | some frame => rfl
  | none =>
    dsimp only
    split_ifs
    · exact poolSize_post _ t
    · rfl

theorem poolSize_processToken (s : LowpanFragmenterMain) (t : ℕ)
    (answers : LowpanFragmenterAnswers) :
    (s.processToken t answers).1.poolSize = s.poolSize := by
  unfold processToken
  dsimp only
  generalize hs' : s.setFlags t (s.tokenFlags t &&& ~~~TOKEN_FLAG_PROCESSED) = s'
  have hsize : s'.poolSize = s.poolSize := by
    subst hs'
    rfl
  rw [← hsize]
  by_cases hgiveUp : s'.tokenFlags t &&& (TOKEN_FLAG_CANCELED ||| TOKEN_FLAG_FAILED) = 0
  · rw [if_neg (not_not.mpr hgiveUp)]
    cases s'.tokenPtrs t with
    | none => rfl
    | some ptr =>
      dsimp only
      split_ifs
      · have hattempt := poolSize_attempt s' t answers
        revert hattempt
        rcases s'.attemptToReserveFrame t answers with ⟨reserved, s₁, calls⟩
        intro hattempt
        cases reserved with
        | true => exact (poolSize_obtainNextFragment s₁ t).trans hattempt
        | false => exact hattempt
      · exact poolSize_sendFrame s' t answers
      · rfl
      · rfl
      · rfl
      · exact poolSize_sendFrame s' t answers
      · rfl
  · rw [if_pos hgiveUp]
    exact poolSize_giveUp s' t answers

theorem poolSize_step (s : LowpanFragmenterMain) (event : LowpanFragmenterEvent) :
    (s.step event).1.poolSize = s.poolSize := by
  cases event with
  | start =>
    simp only [step, LowpanFragmenterMain.start]
    split_ifs <;> rfl
  | startFragmentingIpv6Packet packet loWPANHdrs =>
    simp only [step, startFragmentingIpv6Packet]
    split
    · rfl
    · split
      · rfl
      · split
        · rfl
        · exact poolSize_post _ _
  | stopFragmentingIpv6Packet token =>
    simp only [step, stopFragmentingIpv6Packet]
    split_ifs
    · rfl
    · rfl
    · rfl
    · exact poolSize_post _ _
  | fragmentationTask answers =>
    simp only [step, fragmentationTask]
    split_ifs
    · rfl
    · exact poolSize_processToken _ _ answers
  | frameSendingFinished framePtr status =>
    simp only [step, frameSendingFinished]
    split
    · rfl
    · dsimp only
      rw [poolSize_post]
      split_ifs <;> rfl
  | memoryChanged memory => rfl

/-- With up to 128 tokens every enqueued token fits. -/
theorem fits_of_runInv (h : s.RunInv acts) (hsize : s.poolSize ≤ 128)
    (event : LowpanFragmenterEvent) : s.Fits event := by
  intro henqueues
  rcases h.1 with hoff | ⟨current, free, queue, hinv, -⟩
  · cases event with
    | start => exact henqueues.elim
    | startFragmentingIpv6Packet packet loWPANHdrs =>
      exact absurd henqueues.1 (by rw [hoff.isOn]; exact Bool.false_ne_true)
    | stopFragmentingIpv6Packet token =>
      exact absurd (congrFun hoff.tokenPtrs (token - 1)) henqueues.2.2.1
    | fragmentationTask answers =>
      exact absurd (hoff.holds.isEmpty_iff.mpr rfl) (by rw [henqueues.1]; exact Bool.false_ne_true)
    | frameSendingFinished framePtr status =>
      obtain ⟨token, hfind, -⟩ := henqueues
      have hsent := List.find?_some hfind
      rw [hoff.tokenSentFrames] at hsent
      exact absurd hsent (by simp)
    | memoryChanged memory => exact henqueues.elim
  -- The queue before the step has room for one more token.
  have hnoWrap : ∀ t < s.poolSize, t ∉ queue → s.jobQueue.NoWrap := fun t ht hmem =>
    hinv.holds.noWrap (hinv.capacity ▸ hinv.length_lt ht hmem)
      (hinv.capacity ▸ hinv.firstIdx (by omega)) (hinv.capacity ▸ hsize)
  have hnotMem : ∀ t < s.poolSize, s.tokenFlags t &&& TOKEN_FLAG_PROCESSED = 0 → t ∉ queue :=
    fun t ht hflags hmem => (hinv.processed t ht).mp hmem hflags
  cases event with
  | start => exact henqueues.elim
  | startFragmentingIpv6Packet packet loWPANHdrs =>
    rcases hinv.startFragmentingIpv6Packet_cases packet loWPANHdrs with
      ⟨-, hrefused⟩ | ⟨token, i, rest, state, -, -, hlt, hfree, -⟩
    · exact absurd henqueues.2 hrefused
    · exact hnoWrap token hlt fun hmem => hinv.allocated token hmem hfree
  | stopFragmentingIpv6Packet token =>
    obtain ⟨hpos, hle, -, -, hflags⟩ := henqueues
    have hlt : token - 1 < s.poolSize := by omega
    exact hnoWrap _ hlt (hnotMem _ hlt hflags)
  | fragmentationTask answers =>
    cases queue with
    | nil =>
      exact absurd (hinv.holds.isEmpty_iff.mpr rfl) (by rw [henqueues.1]; exact Bool.false_ne_true)
    | cons t queue =>
      have hpos : 0 < s.poolSize := Nat.zero_lt_of_lt (hinv.lt_of_mem List.mem_cons_self)
      have hcap := hinv.capacity
      have hrest := hinv.holds.dequeueFirst (hcap ▸ hinv.poolSize_lt)
      have hlen := hinv.holds.length_le
      rw [List.length_cons] at hlen
      have hfirst := s.jobQueue.firstIdx_dequeueFirst_lt (hcap ▸ hpos)
      exact hrest.noWrap hlen hfirst (hcap.trans_le hsize)
  | frameSendingFinished framePtr status =>
    obtain ⟨token, hfind, hflags⟩ := henqueues
    have hlt : token < s.poolSize := List.mem_range.mp (List.mem_of_find?_eq_some hfind)
    exact hnoWrap token hlt (hnotMem token hlt hflags)
  | memoryChanged memory => exact henqueues.elim

/-- With up to 128 tokens the jobs keep their invariant in every run. -/
theorem jobsInvariant_of_le (poolSize : UInt8) (hsize : poolSize ≤ 128)
    (memory : LowpanFragmenterMemory) (events : List LowpanFragmenterEvent) :
    (run step (initial poolSize memory) events).1.JobsInvariant
      (run step (initial poolSize memory) events).2 := by
  have hcond : ∀ (s : LowpanFragmenterMain) (event : LowpanFragmenterEvent),
      (∃ acts, s.RunInv acts) ∧ s.poolSize ≤ 128 → s.Fits event := by
    rintro s event ⟨⟨acts, hinv⟩, hsize⟩
    exact fits_of_runInv hinv hsize event
  have hstep : ∀ (s : LowpanFragmenterMain) (event : LowpanFragmenterEvent), s.Fits event →
      (∃ acts, s.RunInv acts) ∧ s.poolSize ≤ 128 →
        (∃ acts, (s.step event).1.RunInv acts) ∧ (s.step event).1.poolSize ≤ 128 := by
    rintro s event hfits ⟨⟨acts, hinv⟩, hsize⟩
    exact ⟨⟨_, step_runInv s acts event hfits hinv⟩, (poolSize_step s event).trans_le hsize⟩
  have hmeets : RunMeets step Fits (initial poolSize memory) events :=
    runMeets_of_invariant hcond hstep
      ⟨⟨[], initial_runInv poolSize memory⟩, UInt8.le_iff_toNat_le.mp hsize⟩
  have hinv := run_invariant step_runInv (initial_runInv poolSize memory) hmeets
  rw [List.nil_append] at hinv
  exact hinv.jobsInvariant

/-! ## 255 tokens -/

/-- A state in which `n` packets were started and nothing else was done. -/
structure Started (s : LowpanFragmenterMain) (n : ℕ) : Prop where
  inv : ∃ current free queue, s.Inv current free queue none ∧ current.length = n
  poolSize : s.poolSize = 255
  memory : s.memory = emptyMemory
  firstIdx : s.jobQueue.firstIdx = 0
  numElems : s.jobQueue.numElems.toNat = n
  flags : ∀ t, s.tokenPtrs t ≠ none →
    s.tokenFlags t &&& (TOKEN_FLAG_CANCELED ||| TOKEN_FLAG_FAILED) = 0
  ready : ∀ t, s.tokenReadyFrames t = none
  sent : ∀ t, s.tokenSentFrames t = none
  offset : ∀ t i, s.tokenPtrs t = some i → (s.state.packets i).fragOffset = 0

theorem Started.start {n : ℕ} (h : s.Started n) (hn : n < 255) :
    (s.step (.startFragmentingIpv6Packet 0 none)).1.Started (n + 1) := by
  obtain ⟨current, free, queue, hinv, hlen⟩ := h.inv
  have hpool := hinv.lists.partition.length_eq
  rw [List.length_append, List.length_range, hinv.numPackets, h.poolSize, hlen] at hpool
  rcases hinv.startFragmentingIpv6Packet_cases 0 none with
    ⟨-, hrefused⟩ | ⟨token, i, rest, state, rfl, -, hlt, hfree, hstart, hstate, hnum, -, hoffset,
      hother⟩
  · refine absurd ⟨?_, ?_, ?_⟩ hrefused
    · intro hnone
      rw [hinv.lists.freeSeg.eq_head?, List.head?_eq_none_iff] at hnone
      subst hnone
      rw [List.length_nil] at hpool
      omega
    · rw [h.memory]
      decide
    · rw [h.memory]
      decide
  · have hbound := hinv.bindToken hlt hfree hstate hnum
    have hself : (s.bindToken state token i).tokenPtrs token = some i := Function.update_self _ _ _
    have hother' : ∀ u, u ≠ token → (s.bindToken state token i).tokenPtrs u = s.tokenPtrs u :=
      fun u hu => Function.update_of_ne hu _ _
    have hnoWrap : s.jobQueue.NoWrap := by
      unfold QueuePub.NoWrap
      rw [h.firstIdx, h.numElems, UInt8.toNat_zero]
      omega
    obtain ⟨queue', hinv', -, -⟩ := hbound.post (fun u hu => (Option.some.inj hu).symm)
      (ne_of_eq_of_ne hself (Option.some_ne_none i)) (fun _ => hnoWrap)
    have hflag : (s.bindToken state token i).tokenFlags token &&& TOKEN_FLAG_PROCESSED = 0 := by
      simp [bindToken]
    simp only [step, hstart]
    refine ⟨⟨_, _, _, hinv', by rw [List.length_cons, hlen]⟩, ?_, ?_, ?_, ?_, ?_, ?_, ?_, ?_⟩
    all_goals
      unfold postFragmentationTaskForTokenIfNecessary
      rw [if_pos hflag]
    · exact h.poolSize
    · exact h.memory
    · exact h.firstIdx
    · change (s.jobQueue.numElems + 1).toNat = n + 1
      rw [UInt8.toNat_add, h.numElems, UInt8.toNat_one, Nat.mod_eq_of_lt (by omega)]
    · intro u hu
      by_cases hut : u = token
      · subst hut
        simp [bindToken]
        decide
      · have hptr : s.tokenPtrs u ≠ none := hother' u hut ▸ hu
        simpa [bindToken, hut] using h.flags u hptr
    · intro u
      by_cases hut : u = token
      · subst hut
        simp [bindToken]
      · simpa [bindToken, hut] using h.ready u
    · intro u
      by_cases hut : u = token
      · subst hut
        simp [bindToken]
      · simpa [bindToken, hut] using h.sent u
    · intro u k hk
      by_cases hut : u = token
      · subst hut
        obtain rfl : i = k := Option.some.inj (hself.symm.trans hk)
        exact hoffset
      · have hk' : s.tokenPtrs u = some k := (hother' u hut).symm.trans hk
        have happart := (List.nodup_append.mp hinv.lists.nodup).2.2
        have hki : k ≠ i := happart k (hinv.ptr_mem hk') i List.mem_cons_self
        exact (congrArg LowpanFragPacketState.fragOffset (hother k hki)).trans (h.offset u k hk')

/-- A token whose packet waits for its first frame and gets none is enqueued again. -/
theorem fragmentationTask_noFrame {token i : ℕ} (hempty : s.jobQueue.isEmpty = false)
    (hfirst : s.jobQueue.peekFirst = token) (hmemory : s.memory = emptyMemory)
    (hptr : s.tokenPtrs token = some i) (hoffset : (s.state.packets i).fragOffset = 0)
    (hflags : s.tokenFlags token &&& (TOKEN_FLAG_CANCELED ||| TOKEN_FLAG_FAILED) = 0)
    (hready : s.tokenReadyFrames token = none) (hsent : s.tokenSentFrames token = none) :
    let s' := (s.step (.fragmentationTask noFrame)).1
    s'.jobQueue = s.jobQueue.dequeueFirst.enqueueLast token ∧
      (∀ u, s'.tokenPtrs u = s.tokenPtrs u) ∧ s'.state = s.state ∧ s'.memory = emptyMemory ∧
      ∀ u, u ≠ token → s'.tokenFlags u = s.tokenFlags u ∧
        s'.tokenReadyFrames u = s.tokenReadyFrames u ∧
        s'.tokenSentFrames u = s.tokenSentFrames u := by
  have hexists : lowpanFragmenterDoesNextFragmentOfIpv6PacketExist (s.state.packets i)
      (s.content (s.state.packets i)) = true := by
    unfold lowpanFragmenterDoesNextFragmentOfIpv6PacketExist content
    rw [hmemory, hoffset]
    rfl
  have hcleared : (s.tokenFlags token &&& ~~~TOKEN_FLAG_PROCESSED) &&&
      (TOKEN_FLAG_CANCELED ||| TOKEN_FLAG_FAILED) = 0 := by
    rw [keep_canceled_failed, hflags]
  have hposted : ((s.tokenFlags token &&& ~~~TOKEN_FLAG_PROCESSED) ||| TOKEN_FLAG_FAILED) &&&
      TOKEN_FLAG_PROCESSED = 0 := by
    rw [(processed_or _).1, (processed_or _).2.2.2]
  have hcontent : ∀ jobQueue : QueuePub ℕ, (({ s with taskPosted := false, jobQueue := jobQueue } :
      LowpanFragmenterMain).setFlags token (s.tokenFlags token &&& ~~~TOKEN_FLAG_PROCESSED)).content
        (s.state.packets i) = s.content (s.state.packets i) := fun _ => rfl
  dsimp only
  refine ⟨?_, fun u => ?_, ?_, ?_, fun u hu => ?_⟩
  on_goal 5 =>
    simp [step, fragmentationTask, hempty, hfirst, processToken, attemptToReserveFrame, noFrame,
      hcleared, hptr, hexists, hready, hsent, postFragmentationTaskForTokenIfNecessary, hposted,
      hcontent, hu]
  all_goals
    simp [step, fragmentationTask, hempty, hfirst, processToken, attemptToReserveFrame, noFrame,
      hcleared, hptr, hexists, hready, hsent, postFragmentationTaskForTokenIfNecessary, hposted,
      hcontent]

/-- The token of the second job is enqueued over the token of the first. -/
theorem Started.overwrite (h : s.Started 255) :
    let s' := (((s.step (.fragmentationTask noFrame)).1).step (.fragmentationTask noFrame)).1
    s'.jobQueue.numElements = 255 ∧ s'.jobQueue.firstIdx = 2 ∧ s'.jobQueue.numElems = 255 ∧
      s'.jobQueue.elems 0 = s'.jobQueue.elems 1 := by
  obtain ⟨current, free, queue, hinv, -⟩ := h.inv
  have hlen := hinv.holds.length
  rw [h.numElems] at hlen
  obtain ⟨a, b, rest, rfl⟩ : ∃ a b rest, queue = a :: b :: rest := by
    match queue, hlen with
    | a :: b :: rest, _ => exact ⟨a, b, rest, rfl⟩
  have hab : b ≠ a := fun heq => (List.nodup_cons.mp hinv.nodup).1 (heq ▸ List.mem_cons_self)
  have hcap : s.jobQueue.numElements = 255 := hinv.capacity.trans h.poolSize
  have hnum : s.jobQueue.numElems = 255 := UInt8.toNat_inj.mp h.numElems
  have hfirst := h.firstIdx
  have ha : s.jobQueue.elems 0 = a := by
    have hpeek := hinv.holds.peekFirst_eq
    rwa [QueuePub.peekFirst, hfirst] at hpeek
  have hb : s.jobQueue.elems 1 = b := by
    have helem := hinv.holds.elem 1 (by simp)
    rwa [QueuePub.cell, hfirst, hcap] at helem
  obtain ⟨i, hptra⟩ := Option.ne_none_iff_exists'.mp (hinv.allocated a List.mem_cons_self)
  obtain ⟨k, hptrb⟩ := Option.ne_none_iff_exists'.mp
    (hinv.allocated b (List.mem_cons_of_mem a List.mem_cons_self))
  have hflagsa := h.flags a (ne_of_eq_of_ne hptra (Option.some_ne_none i))
  have hflagsb := h.flags b (ne_of_eq_of_ne hptrb (Option.some_ne_none k))
  obtain ⟨hqueue, hptr, hstate, hmemory, hother⟩ := fragmentationTask_noFrame
    (by rw [QueuePub.isEmpty, hnum]; rfl) (by rw [QueuePub.peekFirst, hfirst]; exact ha)
    h.memory hptra (h.offset a i hptra) hflagsa (h.ready a) (h.sent a)
  have hb₀ := hother b hab
  clear hother
  generalize (s.step (.fragmentationTask noFrame)).1 = s₁ at hqueue hptr hstate hmemory hb₀ ⊢
  obtain ⟨hflags, hready, hsent⟩ := hb₀
  have hcap₁ : s₁.jobQueue.numElements = 255 := by rw [hqueue]; exact hcap
  have hnum₁ : s₁.jobQueue.numElems = 255 := by
    rw [hqueue]
    simp only [QueuePub.enqueueLast, QueuePub.dequeueFirst, hnum]
    decide
  have hfirst₁ : s₁.jobQueue.firstIdx = 1 := by
    rw [hqueue]
    simp only [QueuePub.enqueueLast, QueuePub.dequeueFirst, hfirst, hcap]
    decide
  have helems₁ : s₁.jobQueue.elems = Function.update s.jobQueue.elems 0 a := by
    rw [hqueue]
    simp only [QueuePub.enqueueLast, QueuePub.dequeueFirst, hfirst, hcap, hnum]
    congr 1
  have hb₁ : s₁.jobQueue.elems 1 = b := by
    rw [helems₁, Function.update_of_ne (by decide), hb]
  obtain ⟨hqueue₂, -⟩ := fragmentationTask_noFrame (by rw [QueuePub.isEmpty, hnum₁]; rfl)
    (by rw [QueuePub.peekFirst, hfirst₁]; exact hb₁) hmemory ((hptr b).trans hptrb)
    (by rw [hstate]; exact h.offset b k hptrb) (by rw [hflags]; exact hflagsb)
    (hready.trans (h.ready b)) (hsent.trans (h.sent b))
  dsimp only
  rw [hqueue₂]
  refine ⟨hcap₁, ?_, ?_, ?_⟩
  · simp only [QueuePub.enqueueLast, QueuePub.dequeueFirst, hfirst₁, hcap₁]
    decide
  · simp only [QueuePub.enqueueLast, QueuePub.dequeueFirst, hnum₁]
    decide
  · simp only [QueuePub.enqueueLast, QueuePub.dequeueFirst, hfirst₁, hcap₁, hnum₁]
    have hlast : ∀ x, Function.update s₁.jobQueue.elems 0 b x =
        if x = 0 then b else s₁.jobQueue.elems x := fun x => Function.update_apply _ _ _ x
    have hidx : (if UInt8.toNat ((if UInt8.toNat (1 + 1) ≥ 255 then 0 else 1 + 1) + (255 - 1)) ≥ 255
        then (if UInt8.toNat (1 + 1) ≥ 255 then 0 else 1 + 1) + (255 - 1) - UInt8.ofNat 255
        else (if UInt8.toNat (1 + 1) ≥ 255 then 0 else 1 + 1) + (255 - 1)).toNat = 0 := by decide
    rw [hidx, hlast, hlast, if_pos rfl, if_neg (by decide), hb₁]

end LowpanFragmenterMain

end Whip6
