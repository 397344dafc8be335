import Whip6.Lowpan.FragmenterJobs

/-!
# The invariant of the component of the fragmenter

A token waits in the job queue exactly if it is flagged as processed, at most once and only if it is
allocated; a token that does not wait has a frame that is being sent.  Every call keeps this and is
one that the jobs seen from outside accept, as long as no index of the job queue leaves its eight
bits.
-/

namespace Whip6

open Lib

namespace LowpanFragmenterMain

/-- The frames that a token holds. -/
def held (s : LowpanFragmenterMain) (token : ℕ) : Multiset ℕ :=
  ((s.tokenReadyFrames token).toList ++ (s.tokenSentFrames token).toList : List ℕ)

/-- The jobs of the component, seen from outside. -/
def jobs (s : LowpanFragmenterMain) : FragmenterJobs
  | 0 => none
  | token + 1 =>
    (s.tokenPtrs token).map fun ptr => ⟨(s.state.packets ptr).packet.getD 0, s.held token⟩

/-- The state in which a token was just given to a packet state. -/
def bindToken (s : LowpanFragmenterMain) (state : LowpanFragGlobalState) (token fragPacket : ℕ) :
    LowpanFragmenterMain :=
  ((({ s with
    state := state
    tokenPtrs := Function.update s.tokenPtrs token (some fragPacket) }).setReadyFrame
      token none).setSentFrame token none).setFlags token 0

/-- The invariant; `hand` is a token that is being worked on. -/
structure Inv (s : LowpanFragmenterMain) (current free queue : List ℕ) (hand : Option ℕ) :
    Prop where
  isOn : s.isOn = true
  lists : s.state.Represents current free
  numPackets : s.state.numPackets = s.poolSize
  poolSize_lt : s.poolSize < 256
  tokens : ((List.range s.poolSize).filterMap s.tokenPtrs).Perm current
  outside : ∀ t, s.poolSize ≤ t → s.tokenPtrs t = none
  holds : s.jobQueue.Holds queue
  capacity : s.jobQueue.numElements = s.poolSize
  firstIdx : 0 < s.poolSize → s.jobQueue.firstIdx.toNat < s.poolSize
  nodup : queue.Nodup
  allocated : ∀ t ∈ queue, s.tokenPtrs t ≠ none
  processed : ∀ t < s.poolSize, t ∈ queue ↔ s.tokenFlags t &&& TOKEN_FLAG_PROCESSED ≠ 0
  idle : ∀ t, s.tokenPtrs t = none → s.tokenReadyFrames t = none ∧ s.tokenSentFrames t = none
  pending : ∀ t, s.tokenPtrs t ≠ none → hand ≠ some t → t ∈ queue ∨ s.tokenSentFrames t ≠ none

/-! ## Flags -/

theorem processed_or (flags : UInt8) :
    (flags ||| TOKEN_FLAG_FAILED) &&& TOKEN_FLAG_PROCESSED = flags &&& TOKEN_FLAG_PROCESSED ∧
      (flags ||| TOKEN_FLAG_CANCELED) &&& TOKEN_FLAG_PROCESSED = flags &&& TOKEN_FLAG_PROCESSED ∧
      (flags ||| TOKEN_FLAG_PROCESSED) &&& TOKEN_FLAG_PROCESSED ≠ 0 ∧
      (flags &&& ~~~TOKEN_FLAG_PROCESSED) &&& TOKEN_FLAG_PROCESSED = 0 := by
  revert flags
  decide +kernel

theorem keep_canceled_failed (flags : UInt8) :
    (flags &&& ~~~TOKEN_FLAG_PROCESSED) &&& (TOKEN_FLAG_CANCELED ||| TOKEN_FLAG_FAILED) =
      flags &&& (TOKEN_FLAG_CANCELED ||| TOKEN_FLAG_FAILED) := by
  revert flags
  decide +kernel

/-! ## Tokens -/

variable {s : LowpanFragmenterMain} {current free queue : List ℕ} {hand : Option ℕ} {t i : ℕ}

theorem filterMap_update {n : ℕ} (f : ℕ → Option ℕ) (ht : t < n) (v : Option ℕ) :
    ∃ l₁ l₂ : List ℕ, (List.range n).filterMap f = l₁ ++ (f t).toList ++ l₂ ∧
      (List.range n).filterMap (Function.update f t v) = l₁ ++ v.toList ++ l₂ := by
  obtain ⟨m₁, m₂, hsplit⟩ := List.append_of_mem (List.mem_range.mpr ht)
  have hnodup : (m₁ ++ t :: m₂).Nodup := hsplit ▸ List.nodup_range
  obtain ⟨-, hcons, hapart⟩ := List.nodup_append.mp hnodup
  have hm₁ : t ∉ m₁ := fun hmem => hapart t hmem t List.mem_cons_self rfl
  have hm₂ : t ∉ m₂ := (List.nodup_cons.mp hcons).1
  have hkeep : ∀ m : List ℕ, t ∉ m → m.filterMap (Function.update f t v) = m.filterMap f :=
    fun m hm => List.filterMap_congr fun u hu => Function.update_of_ne (ne_of_mem_of_not_mem hu hm) _ _
  refine ⟨m₁.filterMap f, m₂.filterMap f, ?_, ?_⟩
  · rw [hsplit, List.filterMap_append, List.filterMap_cons]
    cases f t <;> simp
  · rw [hsplit, List.filterMap_append, List.filterMap_cons, hkeep m₁ hm₁, hkeep m₂ hm₂,
      Function.update_self]
    cases v <;> simp

namespace Inv

theorem lt_of_ptr (h : s.Inv current free queue hand) (ht : s.tokenPtrs t ≠ none) :
    t < s.poolSize := by
  by_contra hlt
  exact ht (h.outside t (Nat.not_lt.mp hlt))

theorem lt_of_mem (h : s.Inv current free queue hand) (ht : t ∈ queue) : t < s.poolSize :=
  h.lt_of_ptr (h.allocated t ht)

theorem ptr_mem (h : s.Inv current free queue hand) (ht : s.tokenPtrs t = some i) : i ∈ current :=
  h.tokens.subset (List.mem_filterMap.mpr
    ⟨t, List.mem_range.mpr (h.lt_of_ptr (by rw [ht]; exact Option.some_ne_none i)), ht⟩)

theorem length_lt (h : s.Inv current free queue hand) (ht : t < s.poolSize) (hq : t ∉ queue) :
    queue.length < s.poolSize := by
  have hsub : (t :: queue).Subperm (List.range s.poolSize) := by
    refine List.subperm_of_subset (List.nodup_cons.mpr ⟨hq, h.nodup⟩) fun u hu => ?_
    rcases List.mem_cons.mp hu with rfl | hu
    · exact List.mem_range.mpr ht
    · exact List.mem_range.mpr (h.lt_of_mem hu)
  have hlen := hsub.length_le
  rw [List.length_cons, List.length_range] at hlen
  exact hlen

/-- Flags that keep the processed bit do not matter. -/
theorem setFlags (h : s.Inv current free queue hand) {flags : UInt8}
    (hflags : flags &&& TOKEN_FLAG_PROCESSED = s.tokenFlags t &&& TOKEN_FLAG_PROCESSED) :
    (s.setFlags t flags).Inv current free queue hand := by
  refine { h with processed := fun u hu => ?_ }
  rw [h.processed u hu]
  by_cases hut : u = t
  · subst hut
    simp [hflags]
  · simp [hut]

/-- Having a job for a token that is allocated. -/
theorem post (h : s.Inv current free queue hand) (hhand : ∀ u, hand = some u → u = t)
    (ht : s.tokenPtrs t ≠ none)
    (hwrap : s.tokenFlags t &&& TOKEN_FLAG_PROCESSED = 0 → s.jobQueue.NoWrap) :
    ∃ queue', (s.postFragmentationTaskForTokenIfNecessary t).Inv current free queue' none ∧
      (queue' = queue ∧ (s.postFragmentationTaskForTokenIfNecessary t).taskPosted = s.taskPosted ∨
        (s.postFragmentationTaskForTokenIfNecessary t).taskPosted = true) ∧
      (s.postFragmentationTaskForTokenIfNecessary t).jobs = s.jobs := by
  have hlt := h.lt_of_ptr ht
  have hiff := h.processed t hlt
  unfold postFragmentationTaskForTokenIfNecessary
  by_cases hflag : s.tokenFlags t &&& TOKEN_FLAG_PROCESSED = 0
  · rw [if_pos hflag]
    have hq : t ∉ queue := fun hmem => hiff.mp hmem hflag
    have hlen := h.length_lt hlt hq
    refine ⟨queue ++ [t], { h with
      holds := ?_, nodup := ?_, allocated := ?_, processed := ?_, pending := ?_ }, Or.inr rfl, rfl⟩
    · exact h.holds.enqueueLast (h.capacity ▸ hlen) (h.capacity ▸ h.poolSize_lt)
        (h.capacity ▸ h.firstIdx (by omega)) (hwrap hflag) t
    · rw [List.nodup_append]
      refine ⟨h.nodup, List.nodup_singleton t, fun u hu v hv => ?_⟩
      rw [List.mem_singleton.mp hv]
      exact ne_of_mem_of_not_mem hu hq
    · intro u hu
      rcases List.mem_append.mp hu with hu | hu
      · exact h.allocated u hu
      · rw [List.mem_singleton.mp hu]
        exact ht
    · intro u hu
      rw [List.mem_append, List.mem_singleton, h.processed u hu]
      by_cases hut : u = t
      · subst hut
        simpa using (processed_or (s.tokenFlags u)).2.2.1
      · simp [hut]
    · intro u hu _
      by_cases hut : u = t
      · exact Or.inl (List.mem_append.mpr (Or.inr (List.mem_singleton.mpr hut)))
      · exact (h.pending u hu fun heq => hut (hhand u heq)).imp_left (List.mem_append_left _)
  · rw [if_neg hflag]
    refine ⟨queue, { h with pending := fun u hu _ => ?_ }, Or.inl ⟨rfl, rfl⟩, rfl⟩
    by_cases hut : u = t
    · exact Or.inl (hut ▸ hiff.mpr hflag)
    · exact h.pending u hu fun heq => hut (hhand u heq)

/-- Two tokens have different packet states. -/
theorem ptr_inj (h : s.Inv current free queue hand) {u : ℕ} (ht : s.tokenPtrs t = some i)
    (hu : s.tokenPtrs u = some i) : t = u := by
  by_contra htu
  have hlt : t < s.poolSize := h.lt_of_ptr (by rw [ht]; exact Option.some_ne_none i)
  have hult : u < s.poolSize := h.lt_of_ptr (by rw [hu]; exact Option.some_ne_none i)
  obtain ⟨l₁, l₂, hold, hnew⟩ := filterMap_update s.tokenPtrs hlt none
  have hmem : i ∈ l₁ ++ l₂ := by
    rw [Option.toList_none, List.append_nil] at hnew
    rw [← hnew]
    refine List.mem_filterMap.mpr ⟨u, List.mem_range.mpr hult, ?_⟩
    rw [Function.update_of_ne (Ne.symm htu), hu]
  have hnodup : ((List.range s.poolSize).filterMap s.tokenPtrs).Nodup :=
    h.tokens.nodup_iff.mpr (List.nodup_append.mp h.lists.nodup).1
  rw [hold, ht, Option.toList_some, List.append_assoc, List.singleton_append] at hnodup
  exact (List.nodup_cons.mp (List.nodup_middle.mp hnodup)).1 hmem

/-- A packet state is free if and only if a token is. -/
theorem exists_free_token (h : s.Inv current (i :: free) queue hand) :
    ∃ token, (List.range s.poolSize).find? (fun token => (s.tokenPtrs token).isNone) =
      some token ∧ token < s.poolSize ∧ s.tokenPtrs token = none := by
  cases hfind : (List.range s.poolSize).find? fun token => (s.tokenPtrs token).isNone with
  | some token =>
    refine ⟨token, rfl, List.mem_range.mp (List.mem_of_find?_eq_some hfind), ?_⟩
    have hnone := List.find?_some hfind
    exact Option.isNone_iff_eq_none.mp hnone
  | none =>
    rw [List.find?_eq_none] at hfind
    have hlen := h.tokens.length_eq
    have hall : ∀ l : List ℕ, (∀ token ∈ l, ¬ (s.tokenPtrs token).isNone = true) →
        (l.filterMap s.tokenPtrs).length = l.length := by
      intro l hl
      rw [List.length_filterMap_eq_countP, List.countP_eq_length]
      intro token htoken
      exact Option.isSome_iff_ne_none.mpr fun heq => hl token htoken (by rw [heq]; rfl)
    rw [hall _ hfind, List.length_range] at hlen
    have hpool := h.lists.partition.length_eq
    rw [List.length_append, List.length_cons, List.length_range, h.numPackets] at hpool
    omega

end Inv

/-! ## Jobs -/

/-- A change of one token. -/
theorem jobs_update {s' : LowpanFragmenterMain} {job : Option FragmenterJob}
    (hptr : ∀ u, u ≠ t → s'.tokenPtrs u = s.tokenPtrs u)
    (hpacket : ∀ u i, u ≠ t → s.tokenPtrs u = some i →
      (s'.state.packets i).packet = (s.state.packets i).packet)
    (hready : ∀ u, u ≠ t → s'.tokenReadyFrames u = s.tokenReadyFrames u)
    (hsent : ∀ u, u ≠ t → s'.tokenSentFrames u = s.tokenSentFrames u)
    (hjob : s'.jobs (t + 1) = job) : s'.jobs = Function.update s.jobs (t + 1) job := by
  funext k
  by_cases hk : k = t + 1
  · rw [hk, Function.update_self, hjob]
  · rw [Function.update_of_ne hk]
    cases k with
    | zero => rfl
    | succ u =>
      have hut : u ≠ t := fun heq => hk (congrArg (· + 1) heq)
      simp only [jobs, held, hptr u hut, hready u hut, hsent u hut]
      cases hu : s.tokenPtrs u with
      | none => rfl
      | some i => rw [Option.map_some, Option.map_some, hpacket u i hut hu]

theorem jobs_congr {s' : LowpanFragmenterMain} (hptr : s'.tokenPtrs = s.tokenPtrs)
    (hready : s'.tokenReadyFrames = s.tokenReadyFrames)
    (hsent : s'.tokenSentFrames = s.tokenSentFrames)
    (hpacket : ∀ i, (s'.state.packets i).packet = (s.state.packets i).packet) :
    s'.jobs = s.jobs := by
  funext k
  cases k with
  | zero => rfl
  | succ u => simp only [jobs, held, hptr, hready, hsent, hpacket]

theorem jobs_of_ptr (ht : s.tokenPtrs t = some i) :
    s.jobs (t + 1) = some ⟨(s.state.packets i).packet.getD 0, s.held t⟩ := by
  rw [jobs, ht, Option.map_some]

/-- A change of the frames of one token. -/
theorem jobs_setReadyFrame (ht : s.tokenPtrs t = some i) (frame : Option ℕ) :
    (s.setReadyFrame t frame).jobs = Function.update s.jobs (t + 1)
      (some ⟨(s.state.packets i).packet.getD 0, (s.setReadyFrame t frame).held t⟩) :=
  jobs_update (fun _ _ => rfl) (fun _ _ _ _ => rfl) (fun _ hu => Function.update_of_ne hu _ _)
    (fun _ _ => rfl) (jobs_of_ptr (s := s.setReadyFrame t frame) ht)

theorem jobs_setSentFrame (ht : s.tokenPtrs t = some i) (frame : Option ℕ) :
    (s.setSentFrame t frame).jobs = Function.update s.jobs (t + 1)
      (some ⟨(s.state.packets i).packet.getD 0, (s.setSentFrame t frame).held t⟩) :=
  jobs_update (fun _ _ => rfl) (fun _ _ _ _ => rfl) (fun _ _ => rfl)
    (fun _ hu => Function.update_of_ne hu _ _) (jobs_of_ptr (s := s.setSentFrame t frame) ht)

theorem held_of_ready {frame : ℕ} (hready : s.tokenReadyFrames t = some frame) :
    s.held t = frame ::ₘ (s.setReadyFrame t none).held t := by
  simp [held, hready]

theorem held_of_sent {frame : ℕ} (hsent : s.tokenSentFrames t = some frame) :
    s.held t = frame ::ₘ (s.setSentFrame t none).held t := by
  simp only [held, hsent, setSentFrame_tokenReadyFrames, setSentFrame_tokenSentFrames,
    Function.update_self, Option.toList_some, Option.toList_none, List.append_nil,
    Multiset.cons_coe, Multiset.coe_eq_coe]
  exact List.perm_append_singleton frame _

theorem step_released_ready {frame : ℕ} (ht : s.tokenPtrs t = some i)
    (hready : s.tokenReadyFrames t = some frame) :
    s.jobs.step (.called (.frameForFragmentedPacketReleased (t + 1) frame)) =
      some (s.setReadyFrame t none).jobs := by
  rw [FragmenterJobs.step, jobs_of_ptr ht, jobs_setReadyFrame ht, held_of_ready hready]
  dsimp only
  rw [if_pos (Multiset.mem_cons_self _ _), Multiset.erase_cons_head]

theorem step_released_sent {frame : ℕ} (ht : s.tokenPtrs t = some i)
    (hsent : s.tokenSentFrames t = some frame) :
    s.jobs.step (.called (.frameForFragmentedPacketReleased (t + 1) frame)) =
      some (s.setSentFrame t none).jobs := by
  rw [FragmenterJobs.step, jobs_of_ptr ht, jobs_setSentFrame ht, held_of_sent hsent]
  dsimp only
  rw [if_pos (Multiset.mem_cons_self _ _), Multiset.erase_cons_head]

theorem step_requested (ht : s.tokenPtrs t = some i) (hready : s.tokenReadyFrames t = none)
    (frame : ℕ) :
    s.jobs.step (.called (.frameForFragmentedPacketRequested (t + 1) (some frame))) =
      some (s.setReadyFrame t (some frame)).jobs := by
  rw [FragmenterJobs.step, jobs_of_ptr ht, jobs_setReadyFrame ht]
  simp [held, hready]

/-- Starting to send moves a frame. -/
theorem jobs_send {frame : ℕ} (ht : s.tokenPtrs t = some i)
    (hready : s.tokenReadyFrames t = some frame) (hsent : s.tokenSentFrames t = none) :
    ((s.setSentFrame t (some frame)).setReadyFrame t none).jobs = s.jobs := by
  rw [jobs_setReadyFrame (s := s.setSentFrame t (some frame)) ht, jobs_setSentFrame ht,
    Function.update_idem]
  refine (congrArg _ ?_).trans (Function.update_eq_self (t + 1) s.jobs)
  rw [jobs_of_ptr ht]
  simp [held, hready, hsent]

namespace Inv

/-! ## Calls from above -/

/-- A token for a packet state. -/
theorem bindToken (h : s.Inv current free queue none) (hlt : t < s.poolSize)
    (hfree : s.tokenPtrs t = none) {state : LowpanFragGlobalState} {rest : List ℕ}
    (hstate : state.Represents (i :: current) rest) (hnum : state.numPackets = s.state.numPackets) :
    (s.bindToken state t i).Inv (i :: current) rest queue (some t) := by
  have hq : t ∉ queue := fun hmem => h.allocated t hmem hfree
  have hptr : ∀ u, u ≠ t → (s.bindToken state t i).tokenPtrs u = s.tokenPtrs u := fun u hu =>
    Function.update_of_ne hu _ _
  refine { h with
    lists := hstate
    numPackets := hnum.trans h.numPackets
    tokens := ?_
    outside := fun u hu => (hptr u (Nat.lt_of_lt_of_le hlt hu).ne').trans (h.outside u hu)
    allocated := fun u hu => hptr u (ne_of_mem_of_not_mem hu hq) ▸ h.allocated u hu
    processed := fun u hu => ?_
    idle := fun u hu => ?_
    pending := fun u hu hhand => ?_ }
  · obtain ⟨l₁, l₂, hold, hnew⟩ := filterMap_update s.tokenPtrs hlt (some i)
    rw [hfree, Option.toList_none, List.append_nil] at hold
    rw [Option.toList_some, List.append_assoc] at hnew
    refine (List.Perm.of_eq hnew).trans (List.perm_middle.trans (List.Perm.cons i ?_))
    exact (List.Perm.of_eq hold.symm).trans h.tokens
  · by_cases hut : u = t
    · subst hut
      simp [LowpanFragmenterMain.bindToken, hq]
    · rw [h.processed u hu]
      simp [LowpanFragmenterMain.bindToken, hut]
  · by_cases hut : u = t
    · subst hut
      simp [LowpanFragmenterMain.bindToken]
    · rw [hptr u hut] at hu
      simpa [LowpanFragmenterMain.bindToken, hut] using
        h.idle u hu
  · have hut : u ≠ t := fun heq => hhand (congrArg some heq.symm)
    rw [hptr u hut] at hu
    simpa [LowpanFragmenterMain.bindToken, hut] using
      h.pending u hu (Option.some_ne_none u).symm

/-- What fragmenting a packet starts with. -/
theorem startFragmentingIpv6Packet_cases (h : s.Inv current free queue none) (packet : ℕ)
    (loWPANHdrs : Option ℕ) :
    (s.startFragmentingIpv6Packet packet loWPANHdrs = (0, s) ∧
        ¬ s.state.Accepts (s.memory.packets packet)) ∨
      ∃ token i rest state, free = i :: rest ∧ s.state.Accepts (s.memory.packets packet) ∧
        token < s.poolSize ∧ s.tokenPtrs token = none ∧
        s.startFragmentingIpv6Packet packet loWPANHdrs = (token + 1,
          (s.bindToken state token i).postFragmentationTaskForTokenIfNecessary token) ∧
        state.Represents (i :: current) rest ∧ state.numPackets = s.state.numPackets ∧
        (state.packets i).packet = some packet ∧ (state.packets i).fragOffset = 0 ∧
        ∀ k, k ≠ i → state.packets k = s.state.packets k := by
  unfold LowpanFragmenterMain.startFragmentingIpv6Packet
  rw [if_neg (by simp [h.isOn])]
  rcases h.lists.start packet (s.memory.packets packet) with
    ⟨hnone, hrefused⟩ |
      ⟨i, rest, state, rfl, haccepts, hstart, hstate, hpacket, hoffset, hother, hnum⟩
  · rw [hnone]
    exact Or.inl ⟨rfl, hrefused⟩
  · obtain ⟨token, hfind, hlt, hfree⟩ := h.exists_free_token
    rw [hstart]
    dsimp only
    rw [hfind]
    refine Or.inr ⟨token, i, rest, _, rfl, haccepts, hlt, hfree, rfl, hstate.setPacket rfl rfl,
      hnum, ?_, ?_, fun k hk => ?_⟩
    · simpa [lowpanFragmenterProvideAdditional6LoWPANHeadersForIpv6Packet,
        LowpanFragGlobalState.setPacket] using hpacket
    · simpa [lowpanFragmenterProvideAdditional6LoWPANHeadersForIpv6Packet,
        LowpanFragGlobalState.setPacket] using hoffset
    · exact (LowpanFragGlobalState.packets_setPacket_of_ne hk).trans (hother k hk)

/-- An accepted packet gets a token that had no job. -/
theorem startFragmentingIpv6Packet (h : s.Inv current free queue none) (packet : ℕ)
    (loWPANHdrs : Option ℕ)
    (hwrap : s.state.Accepts (s.memory.packets packet) → s.jobQueue.NoWrap) :
    s.startFragmentingIpv6Packet packet loWPANHdrs = (0, s) ∨
      ∃ token s' current' free' queue',
        s.startFragmentingIpv6Packet packet loWPANHdrs = (token + 1, s') ∧
          s'.Inv current' free' queue' none ∧
          (queue' = queue ∧ s'.taskPosted = s.taskPosted ∨ s'.taskPosted = true) ∧
          s.jobs (token + 1) = none ∧
          s'.jobs = Function.update s.jobs (token + 1) (some ⟨packet, 0⟩) := by
  rcases h.startFragmentingIpv6Packet_cases packet loWPANHdrs with
    ⟨hsame, -⟩ | ⟨token, i, rest, state, rfl, haccepts, hlt, hfree, hstart, hstate, hnum, hpacket, -,
      hother⟩
  · exact Or.inl hsame
  · have hbound := h.bindToken hlt hfree hstate hnum
    have hself : (s.bindToken state token i).tokenPtrs token = some i := Function.update_self _ _ _
    obtain ⟨queue', hinv, hposted, hjobs⟩ := hbound.post (fun u hu => (Option.some.inj hu).symm)
      (ne_of_eq_of_ne hself (Option.some_ne_none i)) (fun _ => hwrap haccepts)
    refine Or.inr ⟨token, _, i :: current, rest, queue', hstart, hinv, hposted, ?_,
      hjobs.trans ?_⟩
    · rw [jobs, hfree, Option.map_none]
    · refine jobs_update (fun u hu => Function.update_of_ne hu _ _) (fun u k hu hk => ?_)
        (fun u hu => Function.update_of_ne hu _ _) (fun u hu => Function.update_of_ne hu _ _) ?_
      · refine congrArg LowpanFragPacketState.packet (hother k ?_)
        have happart := (List.nodup_append.mp h.lists.nodup).2.2
        exact happart k (h.ptr_mem hk) i List.mem_cons_self
      · have hheld : (s.bindToken state token i).held token = 0 := by
          simp [held, LowpanFragmenterMain.bindToken]
        rw [jobs_of_ptr hself, hheld]
        exact congrArg (fun p : Option ℕ => some (FragmenterJob.mk (p.getD 0) 0)) hpacket

/-- Canceling keeps the jobs. -/
theorem stopFragmentingIpv6Packet (h : s.Inv current free queue none) (token : ℕ)
    (hwrap : token ≠ 0 → token ≤ s.poolSize → s.tokenPtrs (token - 1) ≠ none →
      s.tokenFlags (token - 1) &&& TOKEN_FLAG_CANCELED = 0 →
      s.tokenFlags (token - 1) &&& TOKEN_FLAG_PROCESSED = 0 → s.jobQueue.NoWrap) :
    ∃ queue', (s.stopFragmentingIpv6Packet token).2.Inv current free queue' none ∧
      (queue' = queue ∧ (s.stopFragmentingIpv6Packet token).2.taskPosted = s.taskPosted ∨
        (s.stopFragmentingIpv6Packet token).2.taskPosted = true) ∧
      (s.stopFragmentingIpv6Packet token).2.jobs = s.jobs := by
  unfold LowpanFragmenterMain.stopFragmentingIpv6Packet
  dsimp only
  split_ifs with hrange hptr hcanceled
  · exact ⟨queue, h, Or.inl ⟨rfl, rfl⟩, rfl⟩
  · exact ⟨queue, h, Or.inl ⟨rfl, rfl⟩, rfl⟩
  · exact ⟨queue, h, Or.inl ⟨rfl, rfl⟩, rfl⟩
  · rw [not_or] at hrange
    have hkeep := (processed_or (s.tokenFlags (token - 1))).2.1
    refine (h.setFlags hkeep).post (fun u hu => absurd hu (Option.some_ne_none u).symm) hptr
      fun hflag => ?_
    rw [setFlags_tokenFlags, Function.update_self, hkeep] at hflag
    exact hwrap hrange.1 (Nat.not_lt.mp hrange.2) hptr (not_not.mp hcanceled) hflag

/-! ## Frames -/

theorem setReadyFrame (h : s.Inv current free queue hand) (ht : s.tokenPtrs t ≠ none)
    (frame : Option ℕ) : (s.setReadyFrame t frame).Inv current free queue hand := by
  refine { h with idle := fun u hu => ?_ }
  have hut : u ≠ t := fun heq => ht (heq ▸ hu)
  simpa [hut] using h.idle u hu

theorem setSentFrame (h : s.Inv current free queue hand) (ht : s.tokenPtrs t ≠ none)
    (hhand : ∀ u, hand = some u → u = t) (frame : Option ℕ) :
    (s.setSentFrame t frame).Inv current free queue (some t) := by
  refine { h with idle := fun u hu => ?_, pending := fun u hu htu => ?_ }
  · have hut : u ≠ t := fun heq => ht (heq ▸ hu)
    simpa [hut] using h.idle u hu
  · have hut : u ≠ t := fun heq => htu (congrArg some heq.symm)
    simpa [hut] using h.pending u hu fun heq => hut (hhand u heq)

theorem setMemory (h : s.Inv current free queue hand) (memory : LowpanFragmenterMemory) :
    ({ s with memory := memory } : LowpanFragmenterMain).Inv current free queue hand :=
  { h with }

/-- Nothing is left to do for a token whose frame is being sent. -/
theorem leave (h : s.Inv current free queue (some t)) (hsent : s.tokenSentFrames t ≠ none) :
    s.Inv current free queue none := by
  refine { h with pending := fun u hu _ => ?_ }
  by_cases hut : u = t
  · exact Or.inr (hut ▸ hsent)
  · exact h.pending u hu fun heq => hut (Option.some.inj heq).symm

/-! ## The task -/

/-- The token that is being worked on has no frames and is finished. -/
theorem finishFragmentingPacket (h : s.Inv current free queue (some t))
    (ht : s.tokenPtrs t = some i) (hq : t ∉ queue) (hready : s.tokenReadyFrames t = none)
    (hsent : s.tokenSentFrames t = none) (status : ErrorT) :
    ∃ current' free', (s.finishFragmentingPacket t status).1.Inv current' free' queue none ∧
      s.jobs.run ((s.finishFragmentingPacket t status).2.map .called) =
        some (s.finishFragmentingPacket t status).1.jobs := by
  have hlt : t < s.poolSize := h.lt_of_ptr (by rw [ht]; exact Option.some_ne_none i)
  obtain ⟨l₁, l₂, rfl⟩ := List.append_of_mem (h.ptr_mem ht)
  obtain ⟨state, hfinish, hstate, hother, hnum⟩ := h.lists.finish
  have hpacket : (s.state.packets i).packet = some ((s.state.packets i).packet.getD 0) := by
    obtain ⟨packet, hpacket⟩ := Option.isSome_iff_exists.mp (h.lists.packet i (by simp))
    rw [hpacket, Option.getD_some]
  unfold LowpanFragmenterMain.finishFragmentingPacket
  rw [ht, hfinish]
  dsimp only
  generalize hs' : ({ s.setFlags t 0 with
    state := state, tokenPtrs := Function.update s.tokenPtrs t none } : LowpanFragmenterMain) = s'
  have hptr : ∀ u, u ≠ t → s'.tokenPtrs u = s.tokenPtrs u := fun u hu =>
    hs' ▸ Function.update_of_ne hu _ _
  have hself : s'.tokenPtrs t = none := hs' ▸ Function.update_self _ _ _
  have hjob := jobs_of_ptr ht
  have hheld : s.held t = 0 := by simp [held, hready, hsent]
  rw [hheld] at hjob
  refine ⟨l₁ ++ l₂, i :: free, ?_, ?_⟩
  · subst hs'
    refine { h with
      lists := hstate
      numPackets := hnum.trans h.numPackets
      tokens := ?_
      outside := fun u hu => (hptr u (Nat.lt_of_lt_of_le hlt hu).ne').trans (h.outside u hu)
      allocated := fun u hu => hptr u (ne_of_mem_of_not_mem hu hq) ▸ h.allocated u hu
      processed := fun u hu => ?_
      idle := fun u hu => ?_
      pending := fun u hu _ => ?_ }
    · obtain ⟨m₁, m₂, hold, hnew⟩ := filterMap_update s.tokenPtrs hlt none
      rw [ht, Option.toList_some, List.append_assoc, List.singleton_append] at hold
      rw [Option.toList_none, List.append_nil] at hnew
      refine (List.Perm.of_eq hnew).trans (List.Perm.cons_inv (a := i) ?_)
      have htokens : (m₁ ++ i :: m₂).Perm (l₁ ++ i :: l₂) :=
        (List.Perm.of_eq hold.symm).trans h.tokens
      exact (List.perm_middle.symm.trans htokens).trans List.perm_middle
    · by_cases hut : u = t
      · subst hut
        simp [hq]
      · rw [h.processed u hu]
        simp [hut]
    · by_cases hut : u = t
      · subst hut
        exact ⟨hready, hsent⟩
      · rw [hptr u hut] at hu
        exact h.idle u hu
    · have hut : u ≠ t := fun heq => hu (heq ▸ hself)
      rw [hptr u hut] at hu
      exact h.pending u hu fun heq => hut (Option.some.inj heq).symm
  · have hjobs : s'.jobs = Function.update s.jobs (t + 1) none := by
      refine jobs_update hptr (fun u k hu hk => ?_) (fun u _ => hs' ▸ rfl) (fun u _ => hs' ▸ rfl)
        ?_
      · subst hs'
        exact hother k fun hki => hu (h.ptr_inj (hki ▸ hk) ht)
      · rw [jobs, hself, Option.map_none]
    rw [hjobs, List.map_singleton, FragmenterJobs.run, FragmenterJobs.step, hjob]
    dsimp only
    rw [if_pos ⟨hpacket, rfl⟩]
    rfl

/-- What working on a token keeps. -/
def Kept (s : LowpanFragmenterMain) (r : LowpanFragmenterMain × List LowpanFragmenterCall) : Prop :=
  (∃ current free queue, r.1.Inv current free queue none) ∧
    s.jobs.run (r.2.map .called) = some r.1.jobs

theorem kept_post {s' : LowpanFragmenterMain} (h : s'.Inv current free queue (some t))
    (ht : s'.tokenPtrs t ≠ none) {calls : List LowpanFragmenterCall}
    (hrun : s.jobs.run (calls.map .called) = some s'.jobs)
    (hwrap : s'.tokenFlags t &&& TOKEN_FLAG_PROCESSED = 0 → s'.jobQueue.NoWrap) :
    Kept s (s'.postFragmentationTaskForTokenIfNecessary t, calls) := by
  obtain ⟨queue', hinv, -, hjobs⟩ := h.post (fun u hu => (Option.some.inj hu).symm) ht hwrap
  exact ⟨⟨current, free, queue', hinv⟩, hrun.trans (congrArg some hjobs.symm)⟩

/-- Failing, or not, and then posting. -/
theorem kept_post_ite {s' : LowpanFragmenterMain} (h : s'.Inv current free queue (some t))
    (ht : s'.tokenPtrs t ≠ none) {calls : List LowpanFragmenterCall}
    (hrun : s.jobs.run (calls.map .called) = some s'.jobs)
    (hwrap : s'.tokenFlags t &&& TOKEN_FLAG_PROCESSED = 0 → s'.jobQueue.NoWrap)
    (failed : Prop) [Decidable failed] :
    Kept s ((if failed then s'.setFlags t (s'.tokenFlags t ||| TOKEN_FLAG_FAILED)
      else s').postFragmentationTaskForTokenIfNecessary t, calls) := by
  split_ifs
  · have hkeep := (processed_or (s'.tokenFlags t)).1
    refine kept_post (h.setFlags hkeep) ht hrun fun hflag => ?_
    rw [setFlags_tokenFlags, Function.update_self, hkeep] at hflag
    exact hwrap hflag
  · exact kept_post h ht hrun hwrap

/-- The next fragment leaves the jobs as they are. -/
theorem obtainNextFragment {s' : LowpanFragmenterMain}
    (h : s'.Inv current free queue (some t)) (ht : s'.tokenPtrs t = some i)
    {calls : List LowpanFragmenterCall} (hrun : s.jobs.run (calls.map .called) = some s'.jobs)
    {frame : ℕ} (hready : s'.tokenReadyFrames t = some frame)
    (hwrap : s'.tokenFlags t &&& TOKEN_FLAG_PROCESSED = 0 → s'.jobQueue.NoWrap) :
    Kept s (s'.obtainNextFragment t, calls) := by
  unfold LowpanFragmenterMain.obtainNextFragment
  rw [ht, hready]
  dsimp only
  have hkeeps := lowpanFragmenterRequestNextFragmentOfIpv6Packet_keeps s'.state.fragFlags
    (s'.state.packets i) (s'.content (s'.state.packets i))
    ((s'.state.packets i).lowpanHdrs.map s'.memory.lowpanHdrs) (s'.memory.frames frame)
  have hpacket : ∀ memory : LowpanFragmenterMemory,
      ({ s' with state := s'.state.setPacket i _, memory := memory } : LowpanFragmenterMain).Inv
        current free queue (some t) := fun memory =>
    { h with lists := h.lists.setPacket hkeeps.1 hkeeps.2 }
  refine kept_post_ite (hpacket _) ?_ (hrun.trans (congrArg some ?_)) hwrap _
  · exact ne_of_eq_of_ne ht (Option.some_ne_none i)
  · symm
    refine jobs_congr rfl rfl rfl fun k => ?_
    by_cases hk : k = i
    · subst hk
      exact (congrArg LowpanFragPacketState.packet (Function.update_self _ _ _)).trans hkeeps.2
    · exact congrArg LowpanFragPacketState.packet
        (LowpanFragGlobalState.packets_setPacket_of_ne hk)

/-- What is left to do after a frame was asked for. -/
theorem attemptToReserveFrame (h : s.Inv current free queue (some t)) (ht : s.tokenPtrs t = some i)
    (hready : s.tokenReadyFrames t = none) (answers : LowpanFragmenterAnswers)
    (hwrap : answers.frame ≠ none ∨ s.tokenSentFrames t = none →
      s.tokenFlags t &&& TOKEN_FLAG_PROCESSED = 0 → s.jobQueue.NoWrap) :
    Kept s (match s.attemptToReserveFrame t answers with
      | (true, s, calls) => (s.obtainNextFragment t, calls)
      | (false, s, calls) => (s, calls)) := by
  have hptr : s.tokenPtrs t ≠ none := ne_of_eq_of_ne ht (Option.some_ne_none i)
  unfold LowpanFragmenterMain.attemptToReserveFrame
  cases hframe : answers.frame with
  | some frame =>
    dsimp only
    refine ((h.setReadyFrame hptr (some frame)).setMemory answers.memory).obtainNextFragment
      ht ?_ (Function.update_self _ _ _) ?_
    · rw [List.map_singleton, FragmenterJobs.run, step_requested ht hready]
      rfl
    · exact hwrap (Or.inl (ne_of_eq_of_ne hframe (Option.some_ne_none frame)))
  | none =>
    have hinv := (h.setReadyFrame hptr none).setMemory answers.memory
    have hjobs : s.jobs = (s.setReadyFrame t none).jobs := by
      symm
      refine jobs_congr rfl ?_ rfl fun _ => rfl
      exact (congrArg (Function.update s.tokenReadyFrames t) hready.symm).trans
        (Function.update_eq_self t _)
    dsimp only
    by_cases hsent : s.tokenSentFrames t = none
    · have hkeep := (processed_or (s.tokenFlags t)).1
      rw [if_pos (show (s.setReadyFrame t none).tokenSentFrames t = none from hsent)]
      refine kept_post (hinv.setFlags hkeep) hptr (congrArg some hjobs) fun hflag => ?_
      rw [setFlags_tokenFlags, Function.update_self] at hflag
      exact hwrap (Or.inr hsent) (hkeep.symm.trans hflag)
    · rw [if_neg (show (s.setReadyFrame t none).tokenSentFrames t ≠ none from hsent)]
      exact ⟨⟨current, free, queue, hinv.leave hsent⟩, congrArg some hjobs⟩

/-- Sending a frame that is ready. -/
theorem sendFrameWithFragment (h : s.Inv current free queue (some t)) (ht : s.tokenPtrs t = some i)
    (hready : s.tokenReadyFrames t ≠ none) (hsent : s.tokenSentFrames t = none)
    (answers : LowpanFragmenterAnswers)
    (hwrap : s.tokenFlags t &&& TOKEN_FLAG_PROCESSED = 0 → s.jobQueue.NoWrap) :
    Kept s (s.sendFrameWithFragment t answers) := by
  have hptr : s.tokenPtrs t ≠ none := ne_of_eq_of_ne ht (Option.some_ne_none i)
  obtain ⟨frame, hframe⟩ := Option.ne_none_iff_exists'.mp hready
  unfold LowpanFragmenterMain.sendFrameWithFragment
  rw [hframe]
  dsimp only
  split_ifs
  · have hinv := (h.setSentFrame hptr (fun u hu => (Option.some.inj hu).symm)
      (some frame)).setReadyFrame hptr none
    exact kept_post hinv hptr (congrArg some (jobs_send ht hframe hsent).symm) hwrap
  · have hkeep := (processed_or (s.tokenFlags t)).1
    refine kept_post (h.setFlags hkeep) hptr rfl fun hflag => ?_
    rw [setFlags_tokenFlags, Function.update_self, hkeep] at hflag
    exact hwrap hflag

/-- Releasing the frame that is ready. -/
def releaseReady (s : LowpanFragmenterMain) (token : ℕ) : List LowpanFragmenterCall :=
  match s.tokenReadyFrames token with
  | none => []
  | some frame => [.frameForFragmentedPacketReleased (token + 1) frame]

/-- Stopping to send the frame that is being sent. -/
def stopSent (s : LowpanFragmenterMain) (token : ℕ) (answers : LowpanFragmenterAnswers) :
    LowpanFragmenterMain × List LowpanFragmenterCall :=
  match s.tokenSentFrames token with
  | none => (s, [])
  | some frame =>
    if answers.stopStatus = SUCCESS then
      (s.setSentFrame token none,
        [.stopSendingFrame frame answers.stopStatus,
          .frameForFragmentedPacketReleased (token + 1) frame])
    else (s, [.stopSendingFrame frame answers.stopStatus])

theorem giveUpFragmentingPacket_eq (answers : LowpanFragmenterAnswers) :
    s.giveUpFragmentingPacket t answers =
      (let r := stopSent (s.setReadyFrame t none) t answers
      if r.1.tokenSentFrames t = none then
        let finished := r.1.finishFragmentingPacket t
          (if r.1.tokenFlags t &&& TOKEN_FLAG_CANCELED ≠ 0 then ECANCEL else FAIL)
        (finished.1, releaseReady s t ++ r.2 ++ finished.2)
      else (r.1, releaseReady s t ++ r.2)) := rfl

theorem run_releaseReady (ht : s.tokenPtrs t = some i) :
    s.jobs.run ((releaseReady s t).map .called) = some (s.setReadyFrame t none).jobs := by
  unfold releaseReady
  cases hready : s.tokenReadyFrames t with
  | none =>
    refine congrArg some (Eq.symm ?_)
    refine jobs_congr rfl ?_ rfl fun _ => rfl
    exact (congrArg (Function.update s.tokenReadyFrames t) hready.symm).trans
      (Function.update_eq_self t _)
  | some frame =>
    dsimp only
    rw [List.map_singleton, FragmenterJobs.run, step_released_ready ht hready]
    rfl

theorem stopSent_keeps (h : s.Inv current free queue (some t)) (ht : s.tokenPtrs t = some i)
    (answers : LowpanFragmenterAnswers) :
    (stopSent s t answers).1.Inv current free queue (some t) ∧
      (stopSent s t answers).1.tokenPtrs t = some i ∧
      (stopSent s t answers).1.tokenReadyFrames t = s.tokenReadyFrames t ∧
      s.jobs.run ((stopSent s t answers).2.map .called) = some (stopSent s t answers).1.jobs := by
  unfold stopSent
  cases hsent : s.tokenSentFrames t with
  | none => exact ⟨h, ht, rfl, rfl⟩
  | some frame =>
    dsimp only
    split_ifs
    · refine ⟨h.setSentFrame (ne_of_eq_of_ne ht (Option.some_ne_none i))
        (fun u hu => (Option.some.inj hu).symm) none, ht, rfl, ?_⟩
      have hstop : s.jobs.step (.called (.stopSendingFrame frame answers.stopStatus)) =
        some s.jobs := rfl
      simp only [List.map_cons, List.map_nil, FragmenterJobs.run]
      rw [hstop, Option.bind_some, step_released_sent ht hsent]
      rfl
    · exact ⟨h, ht, rfl, rfl⟩

/-- Giving up gives every frame back before the packet is finished. -/
theorem giveUpFragmentingPacket (h : s.Inv current free queue (some t))
    (ht : s.tokenPtrs t = some i) (hq : t ∉ queue) (answers : LowpanFragmenterAnswers) :
    Kept s (s.giveUpFragmentingPacket t answers) := by
  have hptr : s.tokenPtrs t ≠ none := ne_of_eq_of_ne ht (Option.some_ne_none i)
  obtain ⟨hinv, hptr', hready, hstop⟩ := stopSent_keeps (h.setReadyFrame hptr none) ht answers
  rw [setReadyFrame_tokenReadyFrames, Function.update_self] at hready
  rw [giveUpFragmentingPacket_eq]
  dsimp only
  have hrun : s.jobs.run ((releaseReady s t ++
      (stopSent (s.setReadyFrame t none) t answers).2).map .called) =
        some (stopSent (s.setReadyFrame t none) t answers).1.jobs := by
    rw [List.map_append, FragmenterJobs.run_append, run_releaseReady ht, Option.bind_some, hstop]
  split_ifs with hsent
  · obtain ⟨current', free', hfinished, hfinish⟩ :=
      hinv.finishFragmentingPacket hptr' hq hready hsent ECANCEL
    refine ⟨⟨current', free', queue, hfinished⟩, ?_⟩
    rw [List.map_append, FragmenterJobs.run_append, hrun, Option.bind_some, hfinish]
  · obtain ⟨current', free', hfinished, hfinish⟩ :=
      hinv.finishFragmentingPacket hptr' hq hready hsent FAIL
    refine ⟨⟨current', free', queue, hfinished⟩, ?_⟩
    rw [List.map_append, FragmenterJobs.run_append, hrun, Option.bind_some, hfinish]
  · exact ⟨⟨current, free, queue, hinv.leave hsent⟩, hrun⟩

/-- The token of the first job, taken out of the queue. -/
theorem take (h : s.Inv current free (t :: queue) none) :
    (({ s with taskPosted := false, jobQueue := s.jobQueue.dequeueFirst } :
      LowpanFragmenterMain).setFlags t (s.tokenFlags t &&& ~~~TOKEN_FLAG_PROCESSED)).Inv
        current free queue (some t) := by
  obtain ⟨hq, hnodup⟩ := List.nodup_cons.mp h.nodup
  have hlt := h.lt_of_mem List.mem_cons_self
  refine { h with
    holds := h.holds.dequeueFirst (h.capacity ▸ h.poolSize_lt)
    firstIdx := fun hpos => ?_
    nodup := hnodup
    allocated := fun u hu => h.allocated u (List.mem_cons_of_mem t hu)
    processed := fun u hu => ?_
    pending := fun u hu hhand => ?_ }
  · have hfirst := s.jobQueue.firstIdx_dequeueFirst_lt (by rw [h.capacity]; exact hpos)
    exact h.capacity ▸ hfirst
  · by_cases hut : u = t
    · subst hut
      simp [hq, (processed_or (s.tokenFlags u)).2.2.2]
    · have hiff := h.processed u hu
      rw [List.mem_cons, or_iff_right hut] at hiff
      rw [hiff]
      simp [hut]
  · have hut : u ≠ t := fun heq => hhand (congrArg some heq.symm)
    exact (h.pending u hu (Option.some_ne_none u).symm).imp_left fun hmem =>
      (List.mem_cons.mp hmem).resolve_left hut

end Inv

/-- The guards under which working on a token has one more job for it. -/
def Continues (s : LowpanFragmenterMain) (token : ℕ) (answers : LowpanFragmenterAnswers) : Prop :=
  s.tokenFlags token &&& (TOKEN_FLAG_CANCELED ||| TOKEN_FLAG_FAILED) = 0 ∧
    if s.tokenReadyFrames token = none then
      (∃ ptr, s.tokenPtrs token = some ptr ∧
        lowpanFragmenterDoesNextFragmentOfIpv6PacketExist (s.state.packets ptr)
          (s.content (s.state.packets ptr)) = true) ∧
        (answers.frame ≠ none ∨ s.tokenSentFrames token = none)
    else s.tokenSentFrames token = none

namespace Inv

/-- Working on the token of the first job. -/
theorem processToken (h : s.Inv current free (t :: queue) none) (answers : LowpanFragmenterAnswers)
    (hwrap : s.Continues t answers → s.jobQueue.dequeueFirst.NoWrap) :
    Kept s (({ s with taskPosted := false, jobQueue := s.jobQueue.dequeueFirst } :
      LowpanFragmenterMain).processToken t answers) := by
  have hq := (List.nodup_cons.mp h.nodup).1
  obtain ⟨i, ht⟩ := Option.ne_none_iff_exists'.mp (h.allocated t List.mem_cons_self)
  have hinv := h.take
  unfold LowpanFragmenterMain.processToken
  dsimp only
  generalize hs' : ({ s with taskPosted := false, jobQueue := s.jobQueue.dequeueFirst } :
    LowpanFragmenterMain).setFlags t (s.tokenFlags t &&& ~~~TOKEN_FLAG_PROCESSED) = s'
  have hjobs : s.jobs = s'.jobs := by
    subst hs'
    rfl
  have hkept : ∀ r, Kept s' r → Kept s r := fun r hr => ⟨hr.1, hjobs ▸ hr.2⟩
  apply hkept
  rw [hs'] at hinv
  have ht' : s'.tokenPtrs t = some i := hs' ▸ ht
  have hwrap' : s'.Continues t answers → s'.tokenFlags t &&& TOKEN_FLAG_PROCESSED = 0 →
      s'.jobQueue.NoWrap := by
    subst hs'
    intro hcontinues _
    refine hwrap ⟨?_, hcontinues.2⟩
    have hflags := hcontinues.1
    rw [setFlags_tokenFlags, Function.update_self, keep_canceled_failed] at hflags
    exact hflags
  have hleave : s'.tokenSentFrames t ≠ none → Kept s' (s', []) := fun hsent =>
    ⟨⟨current, free, queue, hinv.leave hsent⟩, rfl⟩
  by_cases hgiveUp : s'.tokenFlags t &&& (TOKEN_FLAG_CANCELED ||| TOKEN_FLAG_FAILED) = 0
  · rw [if_neg (not_not.mpr hgiveUp), ht']
    dsimp only
    by_cases hready : s'.tokenReadyFrames t = none
    · rw [if_pos hready, if_pos hready]
      split_ifs with hexists hsent
      · refine hinv.attemptToReserveFrame ht' hready answers fun hcase => hwrap' ⟨hgiveUp, ?_⟩
        rw [if_pos hready]
        exact ⟨⟨i, ht', hexists⟩, hcase⟩
      · obtain ⟨current', free', hfinished, hfinish⟩ :=
          hinv.finishFragmentingPacket ht' hq hready hsent SUCCESS
        exact ⟨⟨current', free', queue, hfinished⟩, hfinish⟩
      · exact hleave hsent
    · rw [if_neg hready, if_neg hready, ite_self]
      split_ifs with hsent
      · refine hinv.sendFrameWithFragment ht' hready hsent answers (hwrap' ⟨hgiveUp, ?_⟩)
        rwa [if_neg hready]
      · exact hleave hsent
  · rw [if_pos hgiveUp]
    exact hinv.giveUpFragmentingPacket ht' hq answers

/-- The task. -/
theorem fragmentationTask (h : s.Inv current free queue none) (answers : LowpanFragmenterAnswers)
    (hwrap : s.jobQueue.isEmpty = false → s.Continues s.jobQueue.peekFirst answers →
      s.jobQueue.dequeueFirst.NoWrap) :
    (∃ current' free' queue', (s.fragmentationTask answers).1.Inv current' free' queue' none ∧
      (queue' ≠ [] → (s.fragmentationTask answers).1.taskPosted = true)) ∧
      s.jobs.run ((s.fragmentationTask answers).2.map .called) =
        some (s.fragmentationTask answers).1.jobs := by
  unfold LowpanFragmenterMain.fragmentationTask
  dsimp only
  cases queue with
  | nil =>
    rw [if_pos (h.holds.isEmpty_iff.mpr rfl)]
    exact ⟨⟨current, free, [], { h with }, fun hne => absurd rfl hne⟩, rfl⟩
  | cons t queue =>
    have hempty : ¬ s.jobQueue.isEmpty = true := fun hempty =>
      List.cons_ne_nil t queue (h.holds.isEmpty_iff.mp hempty)
    rw [if_neg hempty]
    have hfirst : s.jobQueue.peekFirst = t := h.holds.peekFirst_eq
    rw [hfirst] at hwrap ⊢
    obtain ⟨⟨current', free', queue', hinv⟩, hrun⟩ :=
      h.processToken answers (hwrap (Bool.not_eq_true _ ▸ hempty))
    refine ⟨⟨current', free', queue', { hinv with }, fun hne => ?_⟩, hrun⟩
    have hnot : ¬ _ := mt hinv.holds.isEmpty_iff.mp hne
    rw [Bool.not_eq_true] at hnot
    dsimp only
    rw [hnot, Bool.not_false, Bool.or_true]

/-- A frame that was sent is given back. -/
theorem frameSendingFinished (h : s.Inv current free queue none) (framePtr : ℕ) (status : ErrorT)
    (hwrap : ∀ token,
      (List.range s.poolSize).find? (fun token => s.tokenSentFrames token == some framePtr) =
        some token → s.tokenFlags token &&& TOKEN_FLAG_PROCESSED = 0 → s.jobQueue.NoWrap) :
    (∃ queue', (s.frameSendingFinished framePtr status).1.Inv current free queue' none ∧
      (queue' = queue ∧ (s.frameSendingFinished framePtr status).1.taskPosted = s.taskPosted ∨
        (s.frameSendingFinished framePtr status).1.taskPosted = true)) ∧
      s.jobs.run ((s.frameSendingFinished framePtr status).2.map .called) =
        some (s.frameSendingFinished framePtr status).1.jobs := by
  unfold LowpanFragmenterMain.frameSendingFinished
  cases hfind : (List.range s.poolSize).find?
    fun token => s.tokenSentFrames token == some framePtr with
  | none => exact ⟨⟨queue, h, Or.inl ⟨rfl, rfl⟩⟩, rfl⟩
  | some token =>
    have hsent := List.find?_some hfind
    rw [beq_iff_eq] at hsent
    have hptr : s.tokenPtrs token ≠ none := by
      intro hnone
      rw [(h.idle token hnone).2] at hsent
      exact absurd hsent (Option.some_ne_none framePtr).symm
    obtain ⟨i, ht⟩ := Option.ne_none_iff_exists'.mp hptr
    have hinv := h.setSentFrame hptr (fun u hu => absurd hu (Option.some_ne_none u).symm) none
    dsimp only
    have hrun : s.jobs.run ([LowpanFragmenterCall.frameForFragmentedPacketReleased (token + 1)
        framePtr].map .called) = some (s.setSentFrame token none).jobs := by
      rw [List.map_singleton, FragmenterJobs.run, step_released_sent ht hsent]
      rfl
    have hwrap' := hwrap token hfind
    split_ifs
    · have hkeep := (processed_or (s.tokenFlags token)).1
      obtain ⟨queue', hpost, hposted, hjobs⟩ := (hinv.setFlags (t := token) hkeep).post
        (fun u hu => (Option.some.inj hu).symm) hptr fun hflag => by
          rw [setFlags_tokenFlags, Function.update_self] at hflag
          exact hwrap' (hkeep.symm.trans hflag)
      exact ⟨⟨queue', hpost, hposted⟩, hrun.trans (congrArg some hjobs.symm)⟩
    · obtain ⟨queue', hpost, hposted, hjobs⟩ :=
        hinv.post (fun u hu => (Option.some.inj hu).symm) hptr hwrap'
      exact ⟨⟨queue', hpost, hposted⟩, hrun.trans (congrArg some hjobs.symm)⟩

end Inv

end LowpanFragmenterMain

end Whip6
