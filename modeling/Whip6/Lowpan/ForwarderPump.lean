import Whip6.Lowpan.ForwarderProgress

/-!
# The frames that the packet forwarder sends

The ring of frames holds the frames that were accepted for sending and neither finished nor stopped,
in their order; the bit says that the first of them is in flight below; and when the bit is clear and
the ring is not empty, the timer runs or its task is posted (`LowpanForwarderMain.Pump`).  Every step
keeps this but one: stopping the frame in flight removes it from the ring and leaves the bit set, so
that no frame is sent any more.
-/

namespace Whip6

open Lib

namespace LowpanForwarderMain

/-- The frames of the ring, from the first one on. -/
def queuedFrames (s : LowpanForwarderMain) : List ℕ :=
  s.frameQueue.toList.filterMap fun idx => (s.fragmentedPackets idx.toNat).usedFrame

/-- The first frame of the ring. -/
def headFrame (s : LowpanForwarderMain) : Option ℕ :=
  s.frameQueue.toList.head?.bind fun idx => (s.fragmentedPackets idx.toNat).usedFrame

structure Pump (s : LowpanForwarderMain) (sending below : List ℕ) : Prop where
  valid : s.frameQueue.Valid
  max : s.frameQueue.maxFrameQueueSize = s.maxNumFragmentedPackets
  nodup : s.frameQueue.toList.Nodup
  entry : ∀ idx ∈ s.frameQueue.toList, idx.toNat < s.maxNumFragmentedPackets.toNat ∧
    ∃ frame, (s.fragmentedPackets idx.toNat).usedFrame = some frame
  sending_perm : sending.Perm s.queuedFrames
  below_eq : below = if s.txBit then s.headFrame.toList else []
  bit : s.txBit = true → s.frameQueue.toList ≠ []
  timer : s.frameQueue.toList ≠ [] → s.txBit = false →
    s.txTimerRunning = true ∨ s.processEnqueuedFramesTaskPosted = true

variable {s s' : LowpanForwarderMain} {packets allocated sending below : List ℕ}
  {jobs : FragmenterJobs} {t : StagingQueueLists} {active : ℕ → Option StagedPacket} {i j : ℕ}
  {frame : ℕ} {idx : UInt8} {rest : List UInt8}

/-! ## Used frames -/

/-- No frame is in two entries. -/
theorem Inv.frames_inj (h : s.Inv packets allocated jobs t active)
    (hi : i < s.maxNumFragmentedPackets.toNat) (hj : j < s.maxNumFragmentedPackets.toNat)
    (hframe : frame ∈ (s.fragmentedPackets i).frames)
    (hframe' : frame ∈ (s.fragmentedPackets j).frames) : i = j := by
  have hnodup := h.held_nodup
  rw [heldFrames, List.nodup_append] at hnodup
  have hpairwise := (List.nodup_flatMap.mp hnodup.2.1).2
  rw [List.pairwise_iff_getElem] at hpairwise
  have hdisjoint : ∀ k l, k < l → l < s.maxNumFragmentedPackets.toNat →
      frame ∈ (s.fragmentedPackets k).frames → frame ∉ (s.fragmentedPackets l).frames := by
    intro k l hkl hl hk hl'
    have hlen : (List.range s.maxNumFragmentedPackets.toNat).length =
        s.maxNumFragmentedPackets.toNat := List.length_range
    have hpair := hpairwise k l (by omega) (by omega) hkl
    simp only [List.getElem_range] at hpair
    exact hpair hk hl'
  rcases Nat.lt_trichotomy i j with hlt | heq | hgt
  · exact absurd hframe' (hdisjoint i j hlt hj hframe)
  · exact heq
  · exact absurd hframe (hdisjoint j i hgt hi hframe')

theorem mem_frames_of_usedFrame (hframe : (s.fragmentedPackets i).usedFrame = some frame) :
    frame ∈ (s.fragmentedPackets i).frames := by
  rw [LowpanIpv6PacketBeingForwarded.frames, hframe]
  exact List.mem_append_right _ List.mem_cons_self

/-- No frame is used by two entries. -/
theorem Inv.usedFrame_inj (h : s.Inv packets allocated jobs t active)
    (hi : i < s.maxNumFragmentedPackets.toNat) (hj : j < s.maxNumFragmentedPackets.toNat)
    (hframe : (s.fragmentedPackets i).usedFrame = some frame)
    (hframe' : (s.fragmentedPackets j).usedFrame = some frame) : i = j :=
  h.frames_inj hi hj (mem_frames_of_usedFrame hframe) (mem_frames_of_usedFrame hframe')

/-- The entry with a used frame is active. -/
theorem Inv.active_of_usedFrame (h : s.Inv packets allocated jobs t active)
    (hframe : (s.fragmentedPackets i).usedFrame = some frame) : ∃ p, active i = some p := by
  have hlen := h.oneFrame i
  cases hactive : active i with
  | some p => exact ⟨p, rfl⟩
  | none =>
    rw [hactive, LowpanIpv6PacketBeingForwarded.frames, hframe] at hlen
    simp at hlen

/-- The search for the entry of a frame. -/
theorem Inv.findIndex (h : s.Inv packets allocated jobs t active) (frame : ℕ) :
    (∃ i < s.maxNumFragmentedPackets.toNat, (s.fragmentedPackets i).usedFrame = some frame ∧
        s.findIndexOfFragmentedPacketWithGivenUsedFrame frame = UInt8.ofNat i ∧
        (UInt8.ofNat i).toNat = i) ∨
      s.findIndexOfFragmentedPacketWithGivenUsedFrame frame = s.maxNumFragmentedPackets ∧
        ∀ i < s.maxNumFragmentedPackets.toNat,
          (s.fragmentedPackets i).usedFrame ≠ some frame := by
  unfold findIndexOfFragmentedPacketWithGivenUsedFrame
  cases hfind : (List.range s.maxNumFragmentedPackets.toNat).find? fun i =>
      (s.fragmentedPackets i).stagingQueueElem.isSome &&
        (s.fragmentedPackets i).usedFrame == some frame with
  | some i =>
    have hi := List.mem_range.mp (List.mem_of_find?_eq_some hfind)
    have hprop := List.find?_some hfind
    rw [Bool.and_eq_true, beq_iff_eq] at hprop
    have hlt := s.maxNumFragmentedPackets.toNat_lt
    exact Or.inl ⟨i, hi, hprop.2, rfl, by rw [UInt8.toNat_ofNat', Nat.mod_eq_of_lt (by omega)]⟩
  | none =>
    rw [List.find?_eq_none] at hfind
    refine Or.inr ⟨rfl, fun i hi hframe => ?_⟩
    obtain ⟨p, hp⟩ := h.active_of_usedFrame hframe
    refine hfind i (List.mem_range.mpr hi) ?_
    rw [h.elem i, hp, hframe, Bool.and_eq_true, beq_iff_eq]
    exact ⟨rfl, rfl⟩

/-! ## Steps -/

/-- What comes out of a step keeps the pump, for the frames that the peers know of then. -/
def KeepsPump (r : LowpanForwarderMain × List LowpanForwarderAct) (sending below : List ℕ) : Prop :=
  ∃ sending' below',
    ledger LowpanForwarderAct.sendingEntry sending r.2 = some sending' ∧
    ledger LowpanForwarderAct.belowEntry below r.2 = some below' ∧ r.1.Pump sending' below'

namespace Pump

/-- The steps of packets leave the ring, and the entries whose frames are in it, as they are. -/
theorem congr (h : s.Pump sending below) (hqueue : s'.frameQueue = s.frameQueue)
    (hmax : s'.maxNumFragmentedPackets = s.maxNumFragmentedPackets) (hbit : s'.txBit = s.txBit)
    (htimer : s'.txTimerRunning = s.txTimerRunning)
    (hposted : s'.processEnqueuedFramesTaskPosted = s.processEnqueuedFramesTaskPosted)
    (hused : ∀ idx ∈ s.frameQueue.toList, (s'.fragmentedPackets idx.toNat).usedFrame =
      (s.fragmentedPackets idx.toNat).usedFrame) : s'.Pump sending below := by
  have hframes : s'.queuedFrames = s.queuedFrames := by
    rw [queuedFrames, hqueue]
    exact List.filterMap_congr hused
  have hhead : s'.headFrame = s.headFrame := by
    rw [headFrame, headFrame, hqueue]
    cases hlist : s.frameQueue.toList with
    | nil => rfl
    | cons idx rest => exact hused idx (by rw [hlist]; exact List.mem_cons_self)
  exact
    { valid := hqueue ▸ h.valid
      max := by rw [hqueue, hmax]; exact h.max
      nodup := hqueue ▸ h.nodup
      entry := by
        intro idx hidx
        rw [hqueue] at hidx
        rw [hmax, hused idx hidx]
        exact h.entry idx hidx
      sending_perm := hframes ▸ h.sending_perm
      below_eq := by rw [hbit, hhead]; exact h.below_eq
      bit := by rw [hbit, hqueue]; exact h.bit
      timer := by rw [hqueue, hbit, htimer, hposted]; exact h.timer }

/-- Acts that are not about the sending of frames. -/
theorem keeps {r : LowpanForwarderMain × List LowpanForwarderAct} (h : r.1.Pump sending below)
    (hacts : ∀ act ∈ r.2, act.sendingEntry = .other ∧ act.belowEntry = .other) :
    KeepsPump r sending below :=
  ⟨sending, below, ledger_of_other fun act hact => (hacts act hact).1,
    ledger_of_other fun act hact => (hacts act hact).2, h⟩

theorem mem_sending (h : s.Pump sending below) (hidx : idx ∈ s.frameQueue.toList)
    (hframe : (s.fragmentedPackets idx.toNat).usedFrame = some frame) : frame ∈ sending := by
  rw [h.sending_perm.mem_iff]
  exact List.mem_filterMap.mpr ⟨idx, hidx, hframe⟩

/-- There is room in the ring for an index that is not in it. -/
theorem room (h : s.Pump sending below) (hlt : idx.toNat < s.maxNumFragmentedPackets.toNat)
    (hidx : idx ∉ s.frameQueue.toList) :
    s.frameQueue.toList.length < s.frameQueue.maxFrameQueueSize.toNat := by
  have hnodup : ((idx :: s.frameQueue.toList).map UInt8.toNat).Nodup :=
    (List.nodup_cons.mpr ⟨hidx, h.nodup⟩).map fun x y => UInt8.toNat.inj
  have hsub : (idx :: s.frameQueue.toList).map UInt8.toNat ⊆
      List.range s.maxNumFragmentedPackets.toNat := by
    intro x hx
    obtain ⟨y, hy, rfl⟩ := List.mem_map.mp hx
    rcases List.mem_cons.mp hy with rfl | hy
    · exact List.mem_range.mpr hlt
    · exact List.mem_range.mpr (h.entry y hy).1
  have hlen := (List.subperm_of_subset hnodup hsub).length_le
  rw [List.length_map, List.length_cons, List.length_range] at hlen
  rw [h.max]
  omega

/-- The first index of the ring. -/
theorem head_eq (h : s.Pump sending below) (hlist : s.frameQueue.toList = idx :: rest) :
    s.frameQueue.frameQueueArray s.frameQueue.frameQueueFirstIdx.toNat = idx := by
  have hlen := s.frameQueue.length_toList
  rw [hlist, List.length_cons] at hlen
  have hget := s.frameQueue.getElem?_toList (k := 0) (by omega)
  rw [hlist, List.getElem?_cons_zero, Option.some.injEq] at hget
  have hmax := h.valid.lt_max (k := 0) (by omega)
  rw [hget, FrameQueue.cell, Nat.add_zero, Nat.mod_eq_of_lt (h.valid.first_lt hmax)]

theorem headFrame_cons (hlist : s.frameQueue.toList = idx :: rest) :
    s.headFrame = (s.fragmentedPackets idx.toNat).usedFrame := by
  rw [headFrame, hlist]
  rfl

/-- No frame stands twice in the ring. -/
theorem queuedFrames_nodup (h : s.Pump sending below)
    (hinv : s.Inv packets allocated jobs t active) : s.queuedFrames.Nodup := by
  have hpair : s.frameQueue.toList.Pairwise fun x y =>
      x ≠ y ∧ x ∈ s.frameQueue.toList ∧ y ∈ s.frameQueue.toList :=
    h.nodup.imp_of_mem fun hx hy hne => ⟨hne, hx, hy⟩
  refine hpair.filterMap _ ?_
  rintro x y ⟨hne, hx, hy⟩ f hf g hg rfl
  refine hne (UInt8.toNat.inj ?_)
  exact hinv.usedFrame_inj (h.entry x hx).1 (h.entry y hy).1 hf hg

/-- A frame is accepted. -/
theorem startSendingFrame (h : s.Pump sending below) (hinv : s.Inv packets allocated jobs t active)
    {token : ℕ} {job : FragmenterJob} (hjob : jobs token = some job) (hframe : frame ∈ job.held)
    (hsending : frame ∉ sending) : KeepsPump (s.startSendingFrame frame).2 sending below := by
  obtain ⟨i, p, rfl, hp, rfl⟩ := hinv.of_job hjob
  have hused : (s.fragmentedPackets i).usedFrame = some frame := by
    simpa using hframe
  have hilt := (hinv.staged i p hp).2
  obtain ⟨hfind, hidx⟩ : s.findIndexOfFragmentedPacketWithGivenUsedFrame frame = UInt8.ofNat i ∧
      (UInt8.ofNat i).toNat = i := by
    rcases hinv.findIndex frame with ⟨j, hj, hused', hfind, hidx⟩ | ⟨-, hnone⟩
    · obtain rfl := hinv.usedFrame_inj hilt hj hused hused'
      exact ⟨hfind, hidx⟩
    · exact absurd hused (hnone i hilt)
  have hnew : UInt8.ofNat i ∉ s.frameQueue.toList := fun hmem =>
    hsending (h.mem_sending hmem (by rw [hidx]; exact hused))
  obtain ⟨q, hadd, hvalid, hmax, hlist⟩ :=
    h.valid.add (x := UInt8.ofNat i) (h.room (by rw [hidx]; exact hilt) hnew)
  have hstart : s.startSendingFrame frame = (SUCCESS,
      { s with
        frameQueue := q
        txTimerRunning := s.txTimerRunning || ! s.txBit },
      [.frameAccepted frame]) := by
    rw [LowpanForwarderMain.startSendingFrame, hfind, hadd]
    cases htimer : s.txTimerRunning <;> cases hbit : s.txBit <;> rfl
  rw [hstart]
  have hframes : ({ s with
      frameQueue := q, txTimerRunning := s.txTimerRunning || ! s.txBit } :
        LowpanForwarderMain).queuedFrames = s.queuedFrames ++ [frame] := by
    rw [queuedFrames, hlist, List.filterMap_append, List.filterMap_cons, hidx, hused]
    rfl
  refine ⟨frame :: sending, below, rfl, rfl,
    { valid := hvalid
      max := hmax.trans h.max
      nodup := ?_
      entry := ?_
      sending_perm := ?_
      below_eq := ?_
      bit := fun _ => by rw [hlist]; simp
      timer := fun _ hbit => Or.inl ?_ }⟩
  · rw [hlist]
    exact h.nodup.append (List.nodup_singleton _) (List.disjoint_singleton.mpr hnew)
  · intro idx hmem
    rw [hlist] at hmem
    rcases List.mem_append.mp hmem with hmem | hmem
    · exact h.entry idx hmem
    · obtain rfl := List.mem_singleton.mp hmem
      rw [hidx]
      exact ⟨hilt, frame, hused⟩
  · rw [hframes]
    exact (h.sending_perm.cons frame).trans (List.perm_append_singleton _ _).symm
  · rw [h.below_eq, headFrame, headFrame, hlist]
    by_cases hbit : s.txBit = true
    · rw [List.head?_append_of_ne_nil _ (h.bit hbit)]
    · simp only [if_neg hbit]
  · rw [show s.txBit = false from hbit]
    exact Bool.or_true _

/-- A frame behind the first one is stopped, or nothing happens. -/
theorem stopSendingFrame (h : s.Pump sending below) (hinv : s.Inv packets allocated jobs t active)
    (frame : ℕ) {subStatus : ErrorT} (hstatus : subStatus ≠ SUCCESS) :
    KeepsPump (s.stopSendingFrame frame subStatus).2 sending below := by
  have hunchanged : KeepsPump (s, []) sending below := h.keeps fun act hact => by cases hact
  unfold LowpanForwarderMain.stopSendingFrame
  dsimp only
  rcases hinv.findIndex frame with ⟨i, hi, hused, hfind, hidx⟩ | ⟨hfind, -⟩
  · have hne : UInt8.ofNat i ≠ s.maxNumFragmentedPackets := by
      intro heq
      rw [heq] at hidx
      omega
    rw [hfind, if_neg hne]
    have hplace := FrameQueue.Valid.find s.frameQueue h.valid (UInt8.ofNat i)
    generalize hk : s.frameQueue.findForwardedFrameWithGivenPacketIndex (UInt8.ofNat i) = k at hplace ⊢
    by_cases hmaxk : k = s.frameQueue.maxFrameQueueSize
    · rw [if_pos hmaxk]
      exact hunchanged
    rw [if_neg hmaxk]
    have hmem : UInt8.ofNat i ∈ s.frameQueue.toList := by
      by_contra hnot
      rw [if_neg hnot] at hplace
      exact hmaxk (UInt8.toNat.inj hplace)
    rw [if_pos hmem] at hplace
    by_cases hzero : k = 0
    · rw [if_pos ⟨hzero, hstatus⟩]
      exact hunchanged
    rw [if_neg (fun hand => hzero hand.1), if_neg hzero, List.nil_append]
    have hpos : 0 < k.toNat := by
      rcases Nat.eq_zero_or_pos k.toNat with h0 | hpos
      · exact absurd (UInt8.toNat.inj h0) hzero
      · exact hpos
    have hlt : k.toNat < s.frameQueue.frameQueueCount.toNat := by
      rw [hplace, ← s.frameQueue.length_toList]
      exact List.idxOf_lt_length_of_mem hmem
    obtain ⟨hvalid, hlist⟩ := h.valid.removeIth hpos hlt
    rw [hplace, List.eraseIdx_idxOf_eq_erase] at hlist
    have hperm : s.queuedFrames.Perm (frame ::
        ((s.frameQueue.toList.erase (UInt8.ofNat i)).filterMap fun idx =>
          (s.fragmentedPackets idx.toNat).usedFrame)) := by
      have hcons := (List.perm_cons_erase hmem).filterMap fun idx : UInt8 =>
        (s.fragmentedPackets idx.toNat).usedFrame
      rwa [List.filterMap_cons, hidx, hused] at hcons
    have hsending : frame ∈ sending := h.mem_sending hmem (by rw [hidx]; exact hused)
    have hhead : s.frameQueue.toList.head? =
        (s.frameQueue.toList.erase (UInt8.ofNat i)).head? := by
      cases hcons : s.frameQueue.toList with
      | nil => rfl
      | cons x rest =>
        have hx : x ≠ UInt8.ofNat i := by
          intro heq
          rw [hcons, heq, List.idxOf_cons_self] at hplace
          omega
        rw [List.erase_cons_tail (by simpa using hx)]
        rfl
    have hmax : (s.frameQueue.removeIthFwdPacketIndxFromFrameQueue k).maxFrameQueueSize =
        s.frameQueue.maxFrameQueueSize := by
      unfold FrameQueue.removeIthFwdPacketIndxFromFrameQueue
      dsimp only
      split_ifs
      all_goals rfl
    have hmemErase : ∀ {idx}, idx ∈ s.frameQueue.toList.erase (UInt8.ofNat i) →
        idx ∈ s.frameQueue.toList := List.mem_of_mem_erase
    refine ⟨sending.erase frame, below, ?_, rfl,
      { valid := hvalid
        max := hmax.trans h.max
        nodup := ?_
        entry := ?_
        sending_perm := ?_
        below_eq := ?_
        bit := ?_
        timer := ?_ }⟩
    · change (LedgerEntry.record sending (.closes frame)).bind _ = _
      rw [LedgerEntry.record, if_pos hsending]
      rfl
    · rw [hlist]
      exact h.nodup.erase _
    · intro idx hidx'
      rw [hlist] at hidx'
      exact h.entry idx (hmemErase hidx')
    · rw [queuedFrames, hlist]
      have hcons := (h.sending_perm.trans hperm).erase frame
      rwa [List.erase_cons_head] at hcons
    · rw [h.below_eq, headFrame, headFrame, hlist, hhead]
    · intro hbit
      rw [hlist]
      intro hnil
      rw [hnil] at hhead
      exact h.bit hbit (List.head?_eq_none_iff.mp hhead)
    · rw [hlist]
      intro hne hbit
      refine h.timer (fun hnil => hne ?_) hbit
      rw [hnil]
      rfl
  · rw [hfind, if_pos rfl]
    exact hunchanged

theorem txTimerFired (h : s.Pump sending below) : KeepsPump (s.txTimerFired, []) sending below := by
  refine keeps ?_ fun act hact => by cases hact
  exact
    { valid := h.valid
      max := h.max
      nodup := h.nodup
      entry := h.entry
      sending_perm := h.sending_perm
      below_eq := h.below_eq
      bit := h.bit
      timer := fun _ _ => Or.inr rfl }

/-- The first index leaves the ring, and the timer is started. -/
theorem removed (h : s.Pump sending below) (hlist : s.frameQueue.toList = idx :: rest)
    (hframe : (s.fragmentedPackets idx.toNat).usedFrame = some frame)
    (hqueue : s'.frameQueue = s.frameQueue.removeFirstFwdPacketIndxFromFrameQueue)
    (hmax : s'.maxNumFragmentedPackets = s.maxNumFragmentedPackets) (hbit : s'.txBit = false)
    (htimer : s'.txTimerRunning = true)
    (hused : ∀ i, (s'.fragmentedPackets i).usedFrame = (s.fragmentedPackets i).usedFrame) :
    frame ∈ sending ∧ s'.Pump (sending.erase frame) [] := by
  obtain ⟨hvalid, hrest⟩ := h.valid.removeFirst hlist
  have hmem : frame ∈ sending :=
    h.mem_sending (by rw [hlist]; exact List.mem_cons_self) hframe
  have hnodup := h.nodup
  rw [hlist, List.nodup_cons] at hnodup
  refine ⟨hmem,
    { valid := hqueue ▸ hvalid
      max := by rw [hqueue, hmax]; exact h.max
      nodup := by rw [hqueue, hrest]; exact hnodup.2
      entry := ?_
      sending_perm := ?_
      below_eq := by rw [hbit]; rfl
      bit := fun htrue => absurd (hbit.symm.trans htrue) Bool.false_ne_true
      timer := fun _ _ => Or.inl htimer }⟩
  · intro x hx
    rw [hqueue, hrest] at hx
    rw [hmax, hused]
    exact h.entry x (by rw [hlist]; exact List.mem_cons_of_mem _ hx)
  · have hperm := h.sending_perm
    rw [queuedFrames, hlist, List.filterMap_cons, hframe] at hperm
    have herase := hperm.erase frame
    rw [List.erase_cons_head] at herase
    rw [queuedFrames, hqueue, hrest]
    simp only [hused]
    exact herase

/-- The first index goes to the end of the ring, and the timer is started. -/
theorem requeued (h : s.Pump sending below) (hlist : s.frameQueue.toList = idx :: rest)
    (hqueue : s'.frameQueue = (s.frameQueue.removeFirstFwdPacketIndxFromFrameQueue
      |>.addFwdPacketIdxAsLastInFrameQueue idx).2)
    (hmax : s'.maxNumFragmentedPackets = s.maxNumFragmentedPackets) (hbit : s'.txBit = false)
    (htimer : s'.txTimerRunning = true)
    (hused : ∀ i, (s'.fragmentedPackets i).usedFrame = (s.fragmentedPackets i).usedFrame) :
    s'.Pump sending [] := by
  obtain ⟨hvalid, hrest⟩ := h.valid.removeFirst hlist
  have hcount : rest.length < s.frameQueue.maxFrameQueueSize.toNat := by
    have hlen := s.frameQueue.length_toList
    rw [hlist, List.length_cons] at hlen
    have hle := h.valid.count_le
    omega
  obtain ⟨q, hadd, hqvalid, hqmax, hqlist⟩ := hvalid.add (x := idx) (by rw [hrest]; exact hcount)
  rw [hadd] at hqueue
  rw [hrest] at hqlist
  have hnodup := h.nodup
  rw [hlist, List.nodup_cons] at hnodup
  exact
    { valid := hqueue ▸ hqvalid
      max := by rw [hqueue, hqmax, hmax]; exact h.max
      nodup := by
        rw [hqueue, hqlist]
        exact hnodup.2.append (List.nodup_singleton _) (List.disjoint_singleton.mpr hnodup.1)
      entry := by
        intro x hx
        rw [hqueue, hqlist, List.mem_append, List.mem_singleton, or_comm, ← List.mem_cons,
          ← hlist] at hx
        rw [hmax, hused]
        exact h.entry x hx
      sending_perm := by
        rw [queuedFrames, hqueue, hqlist]
        simp only [hused]
        refine h.sending_perm.trans ?_
        rw [queuedFrames, hlist]
        exact (List.perm_append_singleton idx rest).symm.filterMap _
      below_eq := by rw [hbit]; rfl
      bit := fun htrue => absurd (hbit.symm.trans htrue) Bool.false_ne_true
      timer := fun _ _ => Or.inl htimer }

/-- The number of retransmissions is not part of what is sent. -/
theorem usedFrame_setRetransmissions (s : LowpanForwarderMain) (i : ℕ) (n : UInt8) (j : ℕ) :
    (Function.update s.fragmentedPackets i
      { s.fragmentedPackets i with numRetransmissionsRemaining := n } j).usedFrame =
        (s.fragmentedPackets j).usedFrame := by
  by_cases hj : j = i
  · subst hj
    rw [Function.update_self]
  · rw [Function.update_of_ne hj]

theorem processEnqueuedFramesTask (h : s.Pump sending below) (subStatus : ErrorT) :
    KeepsPump (s.processEnqueuedFramesTask subStatus) sending below := by
  have hlen := s.frameQueue.length_toList
  rcases s.processEnqueuedFramesTask_cases subStatus with ⟨hidle, heq⟩ | ⟨hbusy, hcase⟩
  · rw [heq]
    refine keeps ?_ fun act hact => by cases hact
    refine { h with timer := fun hne hbit => ?_ }
    rcases hidle with htx | hcount
    · exact absurd (htx.symm.trans hbit) (by decide)
    · rw [hcount] at hlen
      exact absurd (List.eq_nil_of_length_eq_zero hlen) hne
  · rw [not_or, Bool.not_eq_true] at hbusy
    obtain ⟨hbit, hcount⟩ := hbusy
    cases hlist : s.frameQueue.toList with
    | nil =>
      rw [hlist] at hlen
      exact absurd (UInt8.toNat.inj hlen.symm) hcount
    | cons idx rest =>
      obtain ⟨-, frame, hframe⟩ := h.entry idx (by rw [hlist]; exact List.mem_cons_self)
      have hbelow : below = [] := by rw [h.below_eq, hbit]; rfl
      simp only [h.head_eq hlist, hframe] at hcase
      rcases hcase with ⟨-, -, heq⟩ | ⟨-, -, heq⟩ | ⟨-, heq⟩
      · rw [heq]
        refine ⟨sending, below, rfl, rfl, ?_⟩
        rw [hbelow]
        refine h.requeued hlist rfl rfl hbit rfl fun i => ?_
        rw [← hframe]
        exact usedFrame_setRetransmissions s idx.toNat _ i
      · rw [heq]
        obtain ⟨hmem, hpump⟩ : frame ∈ sending ∧ ({ s with
            processEnqueuedFramesTaskPosted := false
            frameQueue := s.frameQueue.removeFirstFwdPacketIndxFromFrameQueue
            txTimerRunning := true } : LowpanForwarderMain).Pump (sending.erase frame) [] :=
          h.removed hlist hframe rfl rfl hbit rfl fun _ => rfl
        refine ⟨sending.erase frame, [], ?_, ?_, hpump⟩
        · change (LedgerEntry.record sending (.closes frame)).bind _ = _
          rw [LedgerEntry.record, if_pos hmem]
          rfl
        · rw [hbelow]
          rfl
      · rw [heq]
        refine ⟨sending, [frame], rfl, ?_, { h with
          below_eq := ?_
          bit := fun _ => by rw [hlist]; exact List.cons_ne_nil _ _
          timer := fun _ hfalse => absurd hfalse.symm Bool.false_ne_true }⟩
        · rw [hbelow]
          rfl
        · rw [if_pos rfl]
          change _ = s.headFrame.toList
          rw [headFrame_cons hlist, hframe]
          rfl

/-- The frame in flight is the first one of the ring. -/
theorem below_cases (h : s.Pump sending below) (hbelow : frame ∈ below) :
    ∃ idx rest, s.frameQueue.toList = idx :: rest ∧
      (s.fragmentedPackets idx.toNat).usedFrame = some frame ∧ below = [frame] := by
  rw [h.below_eq] at hbelow
  cases hbit : s.txBit with
  | false =>
    rw [hbit, if_neg Bool.false_ne_true] at hbelow
    cases hbelow
  | true =>
    obtain ⟨idx, rest, hlist⟩ := List.exists_cons_of_ne_nil (h.bit hbit)
    obtain ⟨-, f, hf⟩ := h.entry idx (by rw [hlist]; exact List.mem_cons_self)
    rw [hbit, if_pos rfl, headFrame_cons hlist, hf] at hbelow
    obtain rfl : frame = f := by simpa using hbelow
    exact ⟨idx, rest, hlist, hf, by rw [h.below_eq, hbit, if_pos rfl, headFrame_cons hlist, hf]; rfl⟩

theorem frameSendingFinished (h : s.Pump sending below) (hbelow : frame ∈ below) (status : ErrorT)
    (linkIdx : UInt8) : KeepsPump (s.frameSendingFinished frame status linkIdx) sending below := by
  obtain ⟨idx, rest, hlist, hframe, rfl⟩ := h.below_cases hbelow
  obtain ⟨seqNo, reports, hreports, hcase⟩ := s.frameSendingFinished_cases frame status linkIdx
  have hother : ∀ act ∈ reports, act.sendingEntry = .other ∧ act.belowEntry = .other := by
    intro act hact
    obtain ⟨idx, ack, rfl⟩ := hreports act hact
    exact ⟨rfl, rfl⟩
  have hsent : ∀ l, ledger LowpanForwarderAct.sendingEntry l reports = some l :=
    fun l => ledger_of_other fun act hact => (hother act hact).1
  have hfinished : ∀ acts, ledger LowpanForwarderAct.belowEntry [frame]
      (.subFrameFinished frame :: reports ++ acts) =
        ledger LowpanForwarderAct.belowEntry [] acts := by
    intro acts
    change (LedgerEntry.record [frame] (.closes frame)).bind
      (fun l => ledger _ l (reports ++ acts)) = _
    rw [LedgerEntry.record, if_pos List.mem_cons_self, Option.bind_some, List.erase_cons_head,
      ledger_append, ledger_of_other fun act hact => (hother act hact).2, Option.bind_some]
  simp only [h.head_eq hlist] at hcase
  rcases hcase with heq | ⟨-, -, heq⟩
  · obtain ⟨hmem, hpump⟩ : frame ∈ sending ∧ ({ s with
        txBit := false
        bcastSeqNoGenerator := seqNo
        frameQueue := s.frameQueue.removeFirstFwdPacketIndxFromFrameQueue
        txTimerRunning := true } : LowpanForwarderMain).Pump (sending.erase frame) [] :=
      h.removed hlist hframe rfl rfl rfl rfl fun _ => rfl
    rw [heq]
    refine ⟨sending.erase frame, [], ?_, hfinished _, hpump⟩
    change ledger _ sending (reports ++ _) = _
    rw [ledger_append, hsent]
    change (LedgerEntry.record sending (.closes frame)).bind _ = _
    rw [LedgerEntry.record, if_pos hmem]
    rfl
  · rw [heq]
    refine ⟨sending, [], hsent sending, ?_, h.requeued hlist rfl rfl rfl rfl fun i => ?_⟩
    · have hnil := hfinished []
      rwa [List.append_nil] at hnil
    · exact usedFrame_setRetransmissions s idx.toNat _ i

/-! ### Packets -/

theorem start (h : s.Pump sending below) (hinv : s.Inv packets allocated jobs t active)
    (frame : Option ℕ) (rand : UInt16) : KeepsPump (s.start frame rand).2 sending below := by
  by_cases hon : s.isOn = true
  · rw [LowpanForwarderMain.start, if_pos hon]
    exact h.keeps fun act hact => by cases hact
  have hframes := (hinv.off_empty (Bool.not_eq_true _ ▸ hon)).2.2.2.2
  have hnil : s.frameQueue.toList = [] := by
    rw [List.eq_nil_iff_forall_not_mem]
    intro idx hidx
    obtain ⟨-, f, hf⟩ := h.entry idx hidx
    have hnone := hframes idx.toNat
    rw [LowpanIpv6PacketBeingForwarded.frames, hf] at hnone
    simp at hnone
  have hbit : s.txBit = false := by
    by_contra htrue
    exact h.bit (Bool.not_eq_false _ ▸ htrue) hnil
  rw [LowpanForwarderMain.start, if_neg hon]
  cases frame with
  | none =>
    refine keeps (h.congr rfl rfl rfl rfl rfl fun _ _ => rfl) fun act hact => by cases hact
  | some f =>
    have hsending : sending = [] := by
      have hperm := h.sending_perm
      rw [queuedFrames, hnil] at hperm
      exact List.perm_nil.mp hperm
    refine keeps ?_ fun act hact => ?_
    · have hnew : ∀ q : FrameQueue, q.frameQueueCount = 0 → q.toList = [] := by
        intro q hq
        rw [FrameQueue.toList, hq]
        rfl
      refine
        { valid := ⟨Nat.zero_le _, fun hpos => hpos⟩
          max := h.max
          nodup := by rw [hnew _ rfl]; exact List.nodup_nil
          entry := fun idx hidx => ?_
          sending_perm := ?_
          below_eq := ?_
          bit := fun htrue => absurd htrue Bool.false_ne_true
          timer := fun hne => absurd (hnew _ rfl) hne }
      · rw [hnew _ rfl] at hidx
        cases hidx
      · rw [hsending, queuedFrames, hnew _ rfl]
        exact List.Perm.refl _
      · rw [h.below_eq, hbit]
        rfl
    · obtain rfl := List.mem_singleton.mp hact
      exact ⟨rfl, rfl⟩

theorem startForwardingIpv6Packet (h : s.Pump sending below) (packet : ℕ) (llAddr : Ieee154Addr) :
    KeepsPump (s.startForwardingIpv6Packet packet llAddr).2 sending below := by
  unfold LowpanForwarderMain.startForwardingIpv6Packet
  split_ifs
  · exact h.keeps fun act hact => by cases hact
  · split
    · exact h.keeps fun act hact => by cases hact
    · refine keeps (h.congr rfl rfl rfl rfl rfl fun _ _ => rfl) fun act hact => ?_
      obtain rfl := List.mem_singleton.mp hact
      exact ⟨rfl, rfl⟩

theorem stopForwardingIpv6Packet (h : s.Pump sending below) (packet : ℕ) (fragStatus : ErrorT) :
    KeepsPump ((s.stopForwardingIpv6Packet packet fragStatus).2, []) sending below := by
  refine keeps ?_ fun act hact => by cases hact
  unfold LowpanForwarderMain.stopForwardingIpv6Packet
  split
  · exact h
  · obtain ⟨queue, posted, heq⟩ := Inv.stopForwardingNonfragmentedPacket_eq s packet ECANCEL
    rw [heq]
    exact h.congr rfl rfl rfl rfl rfl fun _ _ => rfl

/-- An entry of the ring has its frame in use. -/
theorem ne_of_mem (h : s.Pump sending below) (hused : (s.fragmentedPackets i).usedFrame = none)
    (hidx : idx ∈ s.frameQueue.toList) : idx.toNat ≠ i := by
  intro heq
  obtain ⟨-, f, hf⟩ := h.entry idx hidx
  rw [heq, hused] at hf
  cases hf

theorem processStagedPacketsTask (h : s.Pump sending below)
    (hinv : s.Inv packets allocated jobs t active) (frame : Option ℕ) {fragToken : ℕ}
    (htoken : fragToken ≠ 0 → jobs fragToken = none) :
    KeepsPump (s.processStagedPacketsTask frame fragToken) sending below := by
  have halloc : ∀ act ∈ s.allocActs frame, act.sendingEntry = .other ∧ act.belowEntry = .other := by
    intro act hact
    rw [allocActs] at hact
    split_ifs at hact
    · obtain ⟨f, -, rfl⟩ := List.mem_map.mp hact
      exact ⟨rfl, rfl⟩
    · cases hact
  rcases hinv.processStagedPacketsTask_cases frame fragToken with ⟨-, heq⟩ | ⟨p, -, -, hcase⟩
  · rw [heq]
    exact keeps (h.congr rfl rfl rfl rfl rfl fun _ _ => rfl) fun act hact => by cases hact
  rcases hcase with ⟨-, heq⟩ | ⟨f, -, hne, heq⟩
  · rw [heq]
    exact keeps (h.congr rfl rfl rfl rfl rfl fun _ _ => rfl) halloc
  · obtain ⟨i, rfl⟩ := Nat.exists_eq_add_one_of_ne_zero hne
    have hjob := hinv.jobs_succ i
    rw [htoken hne] at hjob
    have hinactive : active i = none := Option.map_eq_none_iff.mp hjob.symm
    have hused : (s.fragmentedPackets i).usedFrame = none := by
      rw [Option.eq_none_iff_forall_not_mem]
      intro f hf
      obtain ⟨q, hq⟩ := hinv.active_of_usedFrame hf
      rw [hinactive] at hq
      cases hq
    rw [heq]
    refine keeps (h.congr rfl rfl rfl rfl rfl fun idx hidx => ?_) fun act hact => ?_
    · change (Function.update s.fragmentedPackets i _ idx.toNat).usedFrame = _
      rw [Function.update_of_ne (h.ne_of_mem hused hidx)]
    · rcases List.mem_append.mp hact with hact | hact
      · exact halloc act hact
      · obtain rfl := List.mem_singleton.mp hact
        exact ⟨rfl, rfl⟩

theorem frameForFragmentedPacketRequested (h : s.Pump sending below)
    (hinv : s.Inv packets allocated jobs t active) {token : ℕ} (htoken : jobs token ≠ none)
    (answers : FrameRequestAnswers) :
    KeepsPump (s.frameForFragmentedPacketRequested token answers).2 sending below := by
  obtain ⟨job, hjob⟩ := Option.ne_none_iff_exists'.mp htoken
  obtain ⟨i, p, rfl, hp, rfl⟩ := hinv.of_job hjob
  obtain ⟨_, -, hcase⟩ := hinv.frameForFragmentedPacketRequested htoken answers
  refine keeps ?_ fun act hact => ?_
  · unfold LowpanForwarderMain.frameForFragmentedPacketRequested
    simp only [Nat.add_sub_cancel, hinv.elem i, hp, Option.map_some]
    rcases hinv.frames_cases hp with ⟨frame, hfree, hused⟩ | ⟨frame, hfree, -⟩
    · rw [hfree]
      dsimp only
      split_ifs
      · exact h.congr rfl rfl rfl rfl rfl fun _ _ => rfl
      all_goals
        refine h.congr rfl rfl rfl rfl rfl fun idx hidx => ?_
        change (Function.update s.fragmentedPackets i _ idx.toNat).usedFrame = _
        rw [Function.update_of_ne (h.ne_of_mem hused hidx)]
    · rw [hfree]
      exact h
  · rcases hcase with ⟨hacts, -⟩ | ⟨frame, hacts, -⟩ <;> rw [hacts] at hact
    · cases hact
    · obtain rfl := List.mem_singleton.mp hact
      exact ⟨rfl, rfl⟩

theorem frameForFragmentedPacketReleased (h : s.Pump sending below)
    (hinv : s.Inv packets allocated jobs t active) {token : ℕ} {job : FragmenterJob}
    (hjob : jobs token = some job) (hframe : frame ∈ job.held) (hsending : frame ∉ sending) :
    KeepsPump (s.frameForFragmentedPacketReleased token frame) sending below := by
  obtain ⟨_, -, hacts, -⟩ := hinv.frameForFragmentedPacketReleased hjob hframe
  obtain ⟨i, p, rfl, hp, rfl⟩ := hinv.of_job hjob
  have hused : (s.fragmentedPackets i).usedFrame = some frame := by
    simpa using hframe
  have hne : ∀ idx ∈ s.frameQueue.toList, idx.toNat ≠ i := by
    intro idx hidx heq
    exact hsending (h.mem_sending hidx (heq ▸ hused))
  refine keeps ?_ fun act hact => ?_
  · unfold LowpanForwarderMain.frameForFragmentedPacketReleased
    dsimp only
    split
    all_goals
      refine h.congr rfl rfl rfl rfl rfl fun idx hidx => ?_
      rw [setFragmentedPacket_fragmentedPackets, Nat.add_sub_cancel,
        Function.update_of_ne (hne idx hidx)]
  · rw [hacts] at hact
    obtain rfl := List.mem_singleton.mp hact
    exact ⟨rfl, rfl⟩

theorem fragmentingIpv6PacketFinished (h : s.Pump sending below)
    (hinv : s.Inv packets allocated jobs t active) {packet token : ℕ}
    (hjob : jobs token = some ⟨packet, 0⟩) (status : ErrorT) :
    KeepsPump (s.fragmentingIpv6PacketFinished packet token status) sending below := by
  obtain ⟨i, _, _, _, rfl, -, -, -, hcase, -⟩ := hinv.fragmentingIpv6PacketFinished hjob status
  have hstop : ∀ s₁ : LowpanForwarderMain, s₁.Pump sending below →
      (s₁.stopForwardingNonfragmentedPacket packet status).2.Pump sending below := by
    intro s₁ h₁
    obtain ⟨queue, posted, heq⟩ := Inv.stopForwardingNonfragmentedPacket_eq s₁ packet status
    rw [heq]
    exact h₁.congr rfl rfl rfl rfl rfl fun _ _ => rfl
  have hentry : ∀ j, (Function.update s.fragmentedPackets i { s.fragmentedPackets i with
      freeFrame := none, stagingQueueElem := none } j).usedFrame =
        (s.fragmentedPackets j).usedFrame := by
    intro j
    by_cases hj : j = i
    · subst hj
      rw [Function.update_self]
    · rw [Function.update_of_ne hj]
  refine keeps ?_ fun act hact => ?_
  · unfold LowpanForwarderMain.fragmentingIpv6PacketFinished
    refine hstop _ ?_
    simp only [Nat.add_sub_cancel]
    split
    all_goals exact h.congr rfl rfl rfl rfl rfl fun idx _ => hentry idx.toNat
  · rcases hcase with ⟨hacts, -⟩ | ⟨f, -, hacts, -⟩ <;> rw [hacts] at hact
    · obtain rfl := List.mem_singleton.mp hact
      exact ⟨rfl, rfl⟩
    · rcases List.mem_cons.mp hact with rfl | hact
      · exact ⟨rfl, rfl⟩
      · obtain rfl := List.mem_singleton.mp hact
        exact ⟨rfl, rfl⟩

theorem processCompletedPacketsTask (h : s.Pump sending below) :
    KeepsPump s.processCompletedPacketsTask sending below := by
  unfold LowpanForwarderMain.processCompletedPacketsTask
  dsimp only
  split
  · exact keeps (h.congr rfl rfl rfl rfl rfl fun _ _ => rfl) fun act hact => by cases hact
  · refine keeps (h.congr rfl rfl rfl rfl rfl fun _ _ => rfl) fun act hact => ?_
    obtain rfl := List.mem_singleton.mp hact
    exact ⟨rfl, rfl⟩

theorem processCompletedPacketsTaskReturn (h : s.Pump sending below) :
    KeepsPump (s.processCompletedPacketsTaskReturn, []) sending below :=
  keeps (h.congr rfl rfl rfl rfl rfl fun _ _ => rfl) fun act hact => by cases hact

end Pump

end LowpanForwarderMain

/-! ## Runs -/

namespace LowpanForwarderWorld

variable {w : LowpanForwarderWorld} {event : LowpanForwarderEvent}
  {acts : List LowpanForwarderAct} {t : StagingQueueLists} {active : ℕ → Option StagedPacket}

/-- The frame in flight is not stopped. -/
def KeepsFlying (w : LowpanForwarderWorld) : LowpanForwarderEvent → Prop
  | .stopSendingFrame frame subStatus => frame ∈ w.peers.below → subStatus ≠ SUCCESS
  | _ => True

/-- The pump and what the peers know of its frames, after a history. -/
structure Sends (w : LowpanForwarderWorld) (acts : List LowpanForwarderAct) : Prop where
  pump : w.forwarder.Pump w.peers.sending w.peers.below
  sending : ledger LowpanForwarderAct.sendingEntry [] acts = some w.peers.sending
  below : ledger LowpanForwarderAct.belowEntry [] acts = some w.peers.below

theorem forwarder_keepsPump (h : w.forwarder.Pump w.peers.sending w.peers.below)
    (hinv : w.forwarder.Inv w.peers.packets w.peers.allocated w.peers.jobs t active)
    (hallowed : w.Allowed event) (hflying : w.KeepsFlying event) :
    LowpanForwarderMain.KeepsPump (w.forwarder.step event) w.peers.sending w.peers.below := by
  cases event with
  | start frame rand => exact h.start hinv frame rand
  | startForwardingIpv6Packet packet llAddr => exact h.startForwardingIpv6Packet packet llAddr
  | stopForwardingIpv6Packet packet fragStatus => exact h.stopForwardingIpv6Packet packet fragStatus
  | processStagedPacketsTask frame fragToken =>
    exact h.processStagedPacketsTask hinv frame fun hne => (hallowed.2.2.2 hne).2
  | frameForFragmentedPacketRequested token answers =>
    exact h.frameForFragmentedPacketRequested hinv hallowed answers
  | frameForFragmentedPacketReleased token frame =>
    obtain ⟨⟨job, hjob, hframe⟩, hsending⟩ := hallowed
    exact h.frameForFragmentedPacketReleased hinv hjob hframe hsending
  | fragmentingIpv6PacketFinished packet token status =>
    exact h.fragmentingIpv6PacketFinished hinv hallowed status
  | processCompletedPacketsTask => exact h.processCompletedPacketsTask
  | processCompletedPacketsTaskReturn => exact h.processCompletedPacketsTaskReturn
  | startSendingFrame frame =>
    obtain ⟨⟨token, job, hjob, hframe⟩, hsending⟩ := hallowed
    exact h.startSendingFrame hinv hjob hframe hsending
  | stopSendingFrame frame subStatus =>
    refine h.stopSendingFrame hinv frame ?_
    by_cases hbelow : frame ∈ w.peers.below
    · exact hflying hbelow
    · exact hallowed hbelow
  | txTimerFired => exact h.txTimerFired
  | processEnqueuedFramesTask subStatus => exact h.processEnqueuedFramesTask subStatus
  | frameSendingFinished frame status linkIdx =>
    exact h.frameSendingFinished hallowed status linkIdx

theorem Sends.step (h : w.Sends acts) (hinv : w.Inv acts t active) (hallowed : w.Allowed event)
    (hflying : w.KeepsFlying event) : (w.step event).1.Sends (acts ++ (w.step event).2) := by
  obtain ⟨sending', below', hsending, hbelow, hpump⟩ :=
    forwarder_keepsPump h.pump hinv.forwarder hallowed hflying
  refine ⟨?_, ?_, ?_⟩
  · simp only [LowpanForwarderWorld.step, LowpanForwarderPeers.observe, hsending, hbelow,
      Option.getD_some]
    exact hpump
  · simp only [LowpanForwarderWorld.step, LowpanForwarderPeers.observe, ledger_append, h.sending,
      Option.bind_some, hsending, Option.getD_some]
  · simp only [LowpanForwarderWorld.step, LowpanForwarderPeers.observe, ledger_append, h.below,
      Option.bind_some, hbelow, Option.getD_some]

theorem sends_initial (maxNumStagedPackets maxNumFragmentedPackets : UInt8)
    (elems : ℕ → LowpanIpv6PacketReadyForForwarding) (hdrs : LowpanUnpackedFrameHeaders)
    (frames : ℕ → Ieee154DframeInfo) :
    (initial maxNumStagedPackets maxNumFragmentedPackets elems hdrs frames).Sends [] where
  pump :=
    { valid := ⟨Nat.zero_le _, fun hpos => hpos⟩
      max := rfl
      nodup := List.nodup_nil
      entry := fun idx hidx => by cases hidx
      sending_perm := List.Perm.refl _
      below_eq := rfl
      bit := fun hbit => by cases hbit
      timer := fun hne => absurd rfl hne }
  sending := rfl
  below := rfl

variable {maxNumStagedPackets maxNumFragmentedPackets : UInt8}
  {elems : ℕ → LowpanIpv6PacketReadyForForwarding} {hdrs : LowpanUnpackedFrameHeaders}
  {frames : ℕ → Ieee154DframeInfo} {events : List LowpanForwarderEvent}

/-- Nothing is going to happen by itself: no task is posted, the timer is off, nothing is in flight,
and the fragmenter waits for frames that it has given to the forwarder. -/
structure AtRest (w : LowpanForwarderWorld) : Prop where
  staged : w.forwarder.processStagedPacketsTaskPosted = false
  completed : w.forwarder.processCompletedPacketsTaskPosted = false
  enqueued : w.forwarder.processEnqueuedFramesTaskPosted = false
  timer : w.forwarder.txTimerRunning = false
  below : w.peers.below = []
  jobs : ∀ token job, w.peers.jobs token = some job →
    ∃ frame ∈ job.held, frame ∈ w.peers.sending

end LowpanForwarderWorld

section Results

variable (maxNumStagedPackets maxNumFragmentedPackets : UInt8)
  (elems : ℕ → LowpanIpv6PacketReadyForForwarding) (hdrs : LowpanUnpackedFrameHeaders)
  (frames : ℕ → Ieee154DframeInfo) (events : List LowpanForwarderEvent)

end Results

end Whip6
