import Whip6.Lowpan.ForwarderWorld

/-!
# The packets and the frames of the packet forwarder

The invariant of the forwarder (`LowpanForwarderMain.Inv`): the staging queue represents three
lists; each entry of the array of fragmented packets stands for a job of the fragmenter, has an
element of its own in the queue, a link-layer address that no other entry has, and one frame; and
the frames that are allocated are those in the entries and the free one.  One lemma for each
operation says that it keeps the invariant and what its acts are.
-/

namespace Whip6

open Lib

/-- The frames that an entry holds. -/
def LowpanIpv6PacketBeingForwarded.frames (fragPkt : LowpanIpv6PacketBeingForwarded) : List ℕ :=
  fragPkt.freeFrame.toList ++ fragPkt.usedFrame.toList

namespace LowpanIpv6PacketReadyForForwardingQueue

/-- The staged elements, in the order in which they were enqueued. -/
def stagedElems (queue : LowpanIpv6PacketReadyForForwardingQueue) : List ℕ :=
  walk queue.next queue.poolLen queue.stagedQueueFirst

end LowpanIpv6PacketReadyForForwardingQueue

namespace LowpanForwarderMain

/-- The frames that the forwarder holds: the free one, and those of the entries. -/
def heldFrames (s : LowpanForwarderMain) : List ℕ :=
  s.freeFrame.toList ++
    (List.range s.maxNumFragmentedPackets.toNat).flatMap fun i => (s.fragmentedPackets i).frames

/-- The packets of the lists that were not signaled yet. -/
def pendingOf (s : LowpanForwarderMain) (t : StagingQueueLists) : List ℕ :=
  (t.staged ++ t.completed.drop s.signaling.toNat).map StagedPacket.packet

structure Inv (s : LowpanForwarderMain) (packets allocated : List ℕ) (jobs : FragmenterJobs)
    (t : StagingQueueLists) (active : ℕ → Option StagedPacket) : Prop where
  represents : ∃ poolLen, s.stagedPacketQueue.Represents t poolLen
  completedPosted : t.completed ≠ [] → s.processCompletedPacketsTaskPosted = true
  signaling : s.signaling = true → t.completed ≠ []
  packets_perm : packets.Perm (s.pendingOf t)
  packets_nodup : packets.Nodup
  elem : ∀ i, (s.fragmentedPackets i).stagingQueueElem = (active i).map StagedPacket.elem
  staged : ∀ i p, active i = some p → p ∈ t.staged ∧ i < s.maxNumFragmentedPackets.toNat
  addr : ∀ i j p q, active i = some p → active j = some q → p.addr = q.addr → i = j
  jobs_zero : jobs 0 = none
  jobs_succ : ∀ i, jobs (i + 1) = (active i).map fun p =>
    ⟨p.packet, (s.fragmentedPackets i).usedFrame.toList⟩
  oneFrame : ∀ i, (s.fragmentedPackets i).frames.length = (active i).isSome.toNat
  allocated_perm : allocated.Perm s.heldFrames
  allocated_nodup : allocated.Nodup
  off : s.isOn = false → s.freeFrame = none ∧ packets = [] ∧ s.signaling = false

/-- What the forwarder does when it may need a frame and is answered one. -/
def allocActs (s : LowpanForwarderMain) (frame : Option ℕ) : List LowpanForwarderAct :=
  if s.freeFrame = none then frame.toList.map .allocFrame else []

variable {s : LowpanForwarderMain} {packets allocated : List ℕ} {jobs : FragmenterJobs}
  {t : StagingQueueLists} {active : ℕ → Option StagedPacket}

theorem pendingOf_nil (s : LowpanForwarderMain) (pool : List ℕ) :
    s.pendingOf ⟨pool, [], []⟩ = [] := by
  rw [pendingOf, List.drop_nil]
  rfl

/-! ## Lists of frames -/

theorem sum_update {n i : ℕ} (hi : i < n) (f : ℕ → ℕ) (v : ℕ) :
    ∑ j ∈ Finset.range n, Function.update f i v j + f i = ∑ j ∈ Finset.range n, f j + v := by
  have hmem : i ∈ Finset.range n := Finset.mem_range.mpr hi
  rw [Finset.sum_update_of_mem hmem, ← Finset.add_sum_erase _ f hmem,
    Finset.sdiff_singleton_eq_erase]
  omega

theorem count_heldFrames (s : LowpanForwarderMain) (frame : ℕ) :
    s.heldFrames.count frame = s.freeFrame.toList.count frame +
      ∑ i ∈ Finset.range s.maxNumFragmentedPackets.toNat,
        (s.fragmentedPackets i).frames.count frame := by
  rw [heldFrames, List.count_append, List.count_flatMap]
  exact congrArg _ (Multiset.sum_coe _).symm

theorem count_heldFrames_set {i : ℕ} (hi : i < s.maxNumFragmentedPackets.toNat)
    (fragPkt : LowpanIpv6PacketBeingForwarded) (frame : ℕ) :
    (s.setFragmentedPacket i fragPkt).heldFrames.count frame +
        (s.fragmentedPackets i).frames.count frame =
      s.heldFrames.count frame + fragPkt.frames.count frame := by
  have hcomp : ∀ j, (Function.update s.fragmentedPackets i fragPkt j).frames.count frame =
      Function.update (fun j => (s.fragmentedPackets j).frames.count frame) i
        (fragPkt.frames.count frame) j := by
    intro j
    exact Function.apply_update (fun _ e => e.frames.count frame) s.fragmentedPackets i fragPkt j
  have hsum := sum_update hi (fun j => (s.fragmentedPackets j).frames.count frame)
    (fragPkt.frames.count frame)
  rw [count_heldFrames, count_heldFrames]
  simp only [setFragmentedPacket_fragmentedPackets, setFragmentedPacket_freeFrame,
    setFragmentedPacket_maxNumFragmentedPackets, hcomp]
  omega

namespace Inv

/-! ## What the invariant says of the memory -/

theorem holds (h : s.Inv packets allocated jobs t active) {p : StagedPacket}
    (hp : p ∈ t.staged ++ t.completed) : s.packetOf p.elem = p.packet ∧ s.addrOf p.elem = p.addr := by
  obtain ⟨poolLen, hrep⟩ := h.represents
  obtain ⟨hpacket, -, haddr⟩ := hrep.holds p hp
  exact ⟨hpacket, haddr⟩

theorem holds_active (h : s.Inv packets allocated jobs t active) {i : ℕ} {p : StagedPacket}
    (hp : active i = some p) : s.packetOf p.elem = p.packet ∧ s.addrOf p.elem = p.addr :=
  h.holds (List.mem_append_left _ (h.staged i p hp).1)

/-- The job of a token, and the entry that it has. -/
theorem of_job (h : s.Inv packets allocated jobs t active) {token : ℕ} {job : FragmenterJob}
    (hjob : jobs token = some job) :
    ∃ i p, token = i + 1 ∧ active i = some p ∧
      job = ⟨p.packet, (s.fragmentedPackets i).usedFrame.toList⟩ := by
  cases token with
  | zero => rw [h.jobs_zero] at hjob; cases hjob
  | succ i =>
    rw [h.jobs_succ, Option.map_eq_some_iff] at hjob
    obtain ⟨p, hp, rfl⟩ := hjob
    exact ⟨i, p, rfl, hp, rfl⟩

theorem stagedElems_eq (h : s.Inv packets allocated jobs t active) :
    s.stagedPacketQueue.stagedElems = t.staged.map StagedPacket.elem := by
  obtain ⟨poolLen, hrep⟩ := h.represents
  have hlen := hrep.length_elems
  exact hrep.staged.walk_eq (by rw [List.length_map, hrep.poolLen_eq]; omega)

/-- No packet stands twice among those that were not signaled. -/
theorem pending_nodup (h : s.Inv packets allocated jobs t active) : (s.pendingOf t).Nodup :=
  h.packets_perm.nodup_iff.mp h.packets_nodup

theorem held_nodup (h : s.Inv packets allocated jobs t active) : s.heldFrames.Nodup :=
  h.allocated_perm.nodup_iff.mp h.allocated_nodup

/-- Two staged packets are not the same packet. -/
theorem staged_inj (h : s.Inv packets allocated jobs t active) {p q : StagedPacket}
    (hp : p ∈ t.staged) (hq : q ∈ t.staged) (heq : p.packet = q.packet) : p = q := by
  have hnodup := h.pending_nodup
  rw [pendingOf, List.map_append] at hnodup
  exact List.inj_on_of_nodup_map (List.nodup_append.mp hnodup).1 hp hq heq

/-- The entries are told apart by their packets. -/
theorem active_inj (h : s.Inv packets allocated jobs t active) {i j : ℕ} {p q : StagedPacket}
    (hp : active i = some p) (hq : active j = some q) (heq : p.packet = q.packet) : i = j := by
  obtain rfl := h.staged_inj (h.staged i p hp).1 (h.staged j q hq).1 heq
  exact h.addr i j p p hp hq rfl

/-! ## Operations on frames only -/

/-- The invariant does not speak of the queue of frames, of the timer, or of the contents of the
frames. -/
theorem congr (h : s.Inv packets allocated jobs t active) {s' : LowpanForwarderMain}
    (hqueue : s'.stagedPacketQueue = s.stagedPacketQueue) (hfree : s'.freeFrame = s.freeFrame)
    (helem : ∀ i, (s'.fragmentedPackets i).stagingQueueElem =
      (s.fragmentedPackets i).stagingQueueElem)
    (hfreeFrame : ∀ i, (s'.fragmentedPackets i).freeFrame = (s.fragmentedPackets i).freeFrame)
    (husedFrame : ∀ i, (s'.fragmentedPackets i).usedFrame = (s.fragmentedPackets i).usedFrame)
    (hposted : s'.processCompletedPacketsTaskPosted = s.processCompletedPacketsTaskPosted)
    (hsignaling : s'.signaling = s.signaling) (hon : s'.isOn = s.isOn)
    (hmax : s'.maxNumFragmentedPackets = s.maxNumFragmentedPackets) :
    s'.Inv packets allocated jobs t active := by
  have hframes : ∀ i, (s'.fragmentedPackets i).frames = (s.fragmentedPackets i).frames := by
    intro i
    rw [LowpanIpv6PacketBeingForwarded.frames, hfreeFrame, husedFrame]
    rfl
  have hheld : s'.heldFrames = s.heldFrames := by
    simp only [heldFrames, hfree, hmax, hframes]
  have hpending : s'.pendingOf t = s.pendingOf t := by rw [pendingOf, hsignaling]; rfl
  exact
    { represents := hqueue ▸ h.represents
      completedPosted := hposted ▸ h.completedPosted
      signaling := hsignaling ▸ h.signaling
      packets_perm := hpending ▸ h.packets_perm
      packets_nodup := h.packets_nodup
      elem := fun i => (helem i).trans (h.elem i)
      staged := hmax ▸ h.staged
      addr := h.addr
      jobs_zero := h.jobs_zero
      jobs_succ := fun i => by rw [husedFrame]; exact h.jobs_succ i
      oneFrame := fun i => by rw [hframes]; exact h.oneFrame i
      allocated_perm := hheld ▸ h.allocated_perm
      allocated_nodup := h.allocated_nodup
      off := by rw [hon, hfree, hsignaling]; exact h.off }

/-- The number of retransmissions is not part of the invariant. -/
theorem setRetransmissions (h : s.Inv packets allocated jobs t active) (i : ℕ) (n : UInt8) :
    (s.setFragmentedPacket i { s.fragmentedPackets i with numRetransmissionsRemaining := n }).Inv
      packets allocated jobs t active := by
  have hentry : ∀ j, Function.update s.fragmentedPackets i
      { s.fragmentedPackets i with numRetransmissionsRemaining := n } j =
        { s.fragmentedPackets j with
          numRetransmissionsRemaining := if j = i then n
            else (s.fragmentedPackets j).numRetransmissionsRemaining } := by
    intro j
    by_cases hj : j = i
    · subst hj
      rw [Function.update_self, if_pos rfl]
    · rw [Function.update_of_ne hj, if_neg hj]
  refine h.congr rfl rfl ?_ ?_ ?_ rfl rfl rfl rfl
  all_goals
    intro j
    rw [setFragmentedPacket_fragmentedPackets, hentry]

theorem startSendingFrame (h : s.Inv packets allocated jobs t active) (frame : ℕ) :
    (s.startSendingFrame frame).2.1.Inv packets allocated jobs t active := by
  unfold LowpanForwarderMain.startSendingFrame
  split
  · exact h
  · dsimp only
    split_ifs
    all_goals exact h.congr rfl rfl (fun _ => rfl) (fun _ => rfl) (fun _ => rfl) rfl rfl rfl rfl

theorem stopSendingFrame (h : s.Inv packets allocated jobs t active) (frame : ℕ)
    (subStatus : ErrorT) :
    (s.stopSendingFrame frame subStatus).2.1.Inv packets allocated jobs t active := by
  unfold LowpanForwarderMain.stopSendingFrame
  dsimp only
  split_ifs
  all_goals
    first
    | exact h
    | exact h.congr rfl rfl (fun _ => rfl) (fun _ => rfl) (fun _ => rfl) rfl rfl rfl rfl

theorem processEnqueuedFramesTask (h : s.Inv packets allocated jobs t active)
    (subStatus : ErrorT) :
    (s.processEnqueuedFramesTask subStatus).1.Inv packets allocated jobs t active := by
  unfold LowpanForwarderMain.processEnqueuedFramesTask
  dsimp only
  split_ifs
  · exact h.congr rfl rfl (fun _ => rfl) (fun _ => rfl) (fun _ => rfl) rfl rfl rfl rfl
  · exact (h.setRetransmissions _ _).congr rfl rfl (fun _ => rfl) (fun _ => rfl) (fun _ => rfl)
      rfl rfl rfl rfl
  · exact h.congr rfl rfl (fun _ => rfl) (fun _ => rfl) (fun _ => rfl) rfl rfl rfl rfl
  · exact h.congr rfl rfl (fun _ => rfl) (fun _ => rfl) (fun _ => rfl) rfl rfl rfl rfl

theorem frameSendingFinished (h : s.Inv packets allocated jobs t active) (frame : ℕ)
    (status : ErrorT) (linkIdx : UInt8) :
    (s.frameSendingFinished frame status linkIdx).1.Inv packets allocated jobs t active := by
  unfold LowpanForwarderMain.frameSendingFinished
  dsimp only
  split_ifs
  all_goals
    first
    | exact h.congr rfl rfl (fun _ => rfl) (fun _ => rfl) (fun _ => rfl) rfl rfl rfl rfl
    | exact (h.setRetransmissions _ _).congr rfl rfl (fun _ => rfl) (fun _ => rfl) (fun _ => rfl)
        rfl rfl rfl rfl

/-! ## Operations on packets -/

theorem enqueue (h : s.Inv packets allocated jobs t active) {packet e : ℕ} {llAddr : Ieee154Addr}
    {queue : LowpanIpv6PacketReadyForForwardingQueue} (hpacket : packet ∉ packets)
    (hon : s.isOn = true)
    (henqueue : lowpanPacketForwardingStagingQueueEnqueuePacket s.stagedPacketQueue packet llAddr =
      (some e, queue)) :
    ({ s with stagedPacketQueue := queue, processStagedPacketsTaskPosted := true }).Inv
      (packet :: packets) allocated jobs
      { t with pool := t.pool.tail, staged := t.staged ++ [StagedPacket.mk e packet 0 llAddr] } active := by
  obtain ⟨poolLen, hrep⟩ := h.represents
  obtain ⟨helem, hrep'⟩ := hrep.enqueue packet llAddr
  rw [henqueue] at helem hrep'
  have ht : t.enqueue packet llAddr = (some e, { t with
      pool := t.pool.tail, staged := t.staged ++ [StagedPacket.mk e packet 0 llAddr] }) := by
    unfold StagingQueueLists.enqueue at helem ⊢
    cases hpool : t.pool with
    | nil => rw [hpool] at helem; cases helem
    | cons e' pool =>
      rw [hpool] at helem
      obtain rfl := Option.some.inj helem
      rfl
  rw [ht] at hrep'
  refine { h with
    represents := ⟨poolLen, hrep'⟩
    packets_perm := ?_
    packets_nodup := List.nodup_cons.mpr ⟨hpacket, h.packets_nodup⟩
    staged := fun i p hp => (h.staged i p hp).imp_left fun hmem => List.mem_append_left _ hmem
    off := fun hoff => absurd (hon.symm.trans hoff) (by decide) }
  have hperm := h.packets_perm
  rw [List.perm_iff_count] at hperm ⊢
  intro x
  have hx := hperm x
  simp only [pendingOf, List.map_append, List.map_cons, List.map_nil, List.count_append,
    List.count_cons, List.count_nil] at hx ⊢
  omega

/-- Completing a packet that has no entry. -/
theorem complete (h : s.Inv packets allocated jobs t active) (packet : ℕ) (status : ErrorT)
    (hnot : ∀ i p, active i = some p → p.packet ≠ packet) :
    (s.stopForwardingNonfragmentedPacket packet status).2.Inv packets allocated jobs
      (t.complete packet status) active := by
  obtain ⟨poolLen, hrep⟩ := h.represents
  have hcomplete := hrep.complete packet status
  cases hfind : t.staged.find? (·.packet == packet) with
  | none =>
    have hnone := hrep.find_none hfind
    have hs : (s.stopForwardingNonfragmentedPacket packet status).2 = s := by
      unfold stopForwardingNonfragmentedPacket
      split
      · rename_i heq
        rw [heq] at hnone
        cases hnone
      · split <;> rfl
    rw [hs, StagingQueueLists.complete, hfind]
    exact h
  | some p₀ =>
    obtain ⟨l₁, l₂, hsplit, herase, hp₀, hl₁⟩ := exists_split_of_find? hfind
    obtain rfl : p₀.packet = packet := by simpa using hp₀
    rw [hrep.find_some hsplit hl₁] at hcomplete
    have ht : t.complete p₀.packet status = { t with
        staged := l₁ ++ l₂, completed := t.completed ++ [{ p₀ with status := status }] } := by
      rw [StagingQueueLists.complete, hfind, herase]
    rw [stopForwardingNonfragmentedPacket, hrep.find_some hsplit hl₁, ht]
    rw [ht] at hcomplete
    refine { h with
      represents := ⟨poolLen, hcomplete⟩
      completedPosted := fun _ => rfl
      signaling := fun _ => by simp
      packets_perm := ?_
      staged := ?_ }
    · have hdrop : (t.completed ++ [{ p₀ with status := status }]).drop s.signaling.toNat =
          t.completed.drop s.signaling.toNat ++ [{ p₀ with status := status }] := by
        refine List.drop_append_of_le_length ?_
        cases hsig : s.signaling with
        | false => exact Nat.zero_le _
        | true => exact List.length_pos_iff.mpr (h.signaling hsig)
      have hperm := h.packets_perm
      rw [List.perm_iff_count] at hperm ⊢
      intro x
      have hx := hperm x
      simp only [pendingOf, hsplit, hdrop, List.map_append, List.map_cons, List.map_nil,
        List.count_append, List.count_cons, List.count_nil] at hx ⊢
      omega
    · intro i p hp
      obtain ⟨hmem, hlt⟩ := h.staged i p hp
      refine ⟨?_, hlt⟩
      rw [hsplit] at hmem
      rcases List.mem_append.mp hmem with hmem | hmem
      · exact List.mem_append_left _ hmem
      · rcases List.mem_cons.mp hmem with rfl | hmem
        · exact absurd rfl (hnot i p hp)
        · exact List.mem_append_right _ hmem

theorem completed_first (h : s.Inv packets allocated jobs t active) :
    s.stagedPacketQueue.completedQueueFirst = t.completed.head?.map StagedPacket.elem := by
  obtain ⟨poolLen, hrep⟩ := h.represents
  have hseg := hrep.completed
  cases hcompleted : t.completed with
  | nil => rw [hcompleted] at hseg; exact hseg
  | cons p rest => rw [hcompleted] at hseg; exact hseg.1

/-- The packet at the front of the completed ones is signaled. -/
theorem signal (h : s.Inv packets allocated jobs t active) {p : StagedPacket}
    {rest : List StagedPacket} (hcompleted : t.completed = p :: rest) (hsig : s.signaling = false) :
    p.packet ∈ packets ∧
      ({ s with processCompletedPacketsTaskPosted := true, signaling := true }).Inv
        (packets.erase p.packet) allocated jobs t active := by
  have hperm := h.packets_perm
  have hpending : s.pendingOf t = (t.staged ++ p :: rest).map StagedPacket.packet := by
    rw [pendingOf, hsig, hcompleted]
    rfl
  rw [hpending] at hperm
  have hmem : p.packet ∈ packets := hperm.mem_iff.mpr (by simp)
  refine ⟨hmem, { h with
    completedPosted := fun _ => rfl
    signaling := fun _ => by rw [hcompleted]; exact List.cons_ne_nil _ _
    packets_perm := ?_
    packets_nodup := h.packets_nodup.erase _
    off := fun hoff => ?_ }⟩
  · rw [pendingOf, hcompleted]
    refine (hperm.erase p.packet).trans ?_
    rw [List.perm_iff_count]
    intro x
    have hpos : 0 < ((t.staged ++ p :: rest).map StagedPacket.packet).count p.packet :=
      List.count_pos_iff.mpr (by simp)
    rw [List.count_erase]
    simp only [Bool.toNat_true, List.drop_succ_cons, List.drop_zero, List.map_append,
      List.map_cons, List.count_append, List.count_cons]
    simp only [beq_iff_eq]
    split_ifs <;> omega
  · rw [(h.off hoff).2.1] at hmem
    cases hmem

theorem processCompletedPacketsTaskReturn (h : s.Inv packets allocated jobs t active)
    (hsig : s.signaling = true) :
    s.processCompletedPacketsTaskReturn.Inv packets allocated jobs t.removeFirst active := by
  obtain ⟨poolLen, hrep⟩ := h.represents
  obtain ⟨p, rest, hcompleted⟩ := List.exists_cons_of_ne_nil (h.signaling hsig)
  have hremove := hrep.removeFirst
  have ht : t.removeFirst = { t with pool := p.elem :: t.pool, completed := rest } := by
    rw [StagingQueueLists.removeFirst, hcompleted]
  rw [ht] at hremove ⊢
  refine { h with
    represents := ⟨poolLen, hremove⟩
    completedPosted := fun _ => h.completedPosted (h.signaling hsig)
    signaling := fun hfalse => absurd hfalse Bool.false_ne_true
    packets_perm := ?_
    off := fun hoff => ?_ }
  · have hperm := h.packets_perm
    rw [pendingOf, hsig, hcompleted] at hperm
    exact hperm
  · exact absurd (h.off hoff).2.2 (by rw [hsig]; decide)

/-- Before it is started, the forwarder has nothing. -/
theorem off_empty (h : s.Inv packets allocated jobs t active) (hoff : s.isOn = false) :
    t.staged = [] ∧ t.completed = [] ∧ active = (fun _ => none) ∧ allocated = [] ∧
      ∀ i, (s.fragmentedPackets i).frames = [] := by
  obtain ⟨hfree, hpackets, hsig⟩ := h.off hoff
  have hperm := h.packets_perm
  rw [hpackets, List.nil_perm, pendingOf, hsig, Bool.toNat_false, List.drop_zero,
    List.map_eq_nil_iff, List.append_eq_nil_iff] at hperm
  have hactive : active = fun _ => none := by
    funext i
    refine Option.eq_none_iff_forall_not_mem.mpr fun p hp => ?_
    have hmem := (h.staged i p hp).1
    rw [hperm.1] at hmem
    cases hmem
  have hframes : ∀ i, (s.fragmentedPackets i).frames = [] := by
    intro i
    have hlen := h.oneFrame i
    rw [hactive] at hlen
    exact List.eq_nil_of_length_eq_zero hlen
  have hheld : s.heldFrames = [] := by
    rw [heldFrames, hfree]
    simp only [hframes]
    simp
  have hallocated := h.allocated_perm
  rw [hheld, List.perm_nil] at hallocated
  exact ⟨hperm.1, hperm.2, hactive, hallocated, hframes⟩

/-! ## Operations on entries -/

/-- Writing an entry: what has to be said of its job and of its frames. -/
theorem setEntry (h : s.Inv packets allocated jobs t active) (i : ℕ)
    (fragPkt : LowpanIpv6PacketBeingForwarded) (freeFrame : Option ℕ) (p : Option StagedPacket)
    (allocated' : List ℕ) (hi : i < s.maxNumFragmentedPackets.toNat)
    (helem : fragPkt.stagingQueueElem = p.map StagedPacket.elem)
    (hstaged : ∀ q, p = some q → q ∈ t.staged)
    (haddr : ∀ q, p = some q → ∀ j r, j ≠ i → active j = some r → r.addr ≠ q.addr)
    (hframes : fragPkt.frames.length = p.isSome.toNat)
    (hcount : ∀ frame, allocated'.count frame + (s.fragmentedPackets i).frames.count frame +
      s.freeFrame.toList.count frame = allocated.count frame + fragPkt.frames.count frame +
        freeFrame.toList.count frame)
    (hnodup : allocated'.Nodup) (hoff : s.isOn = false → freeFrame = none) :
    ({ s.setFragmentedPacket i fragPkt with freeFrame := freeFrame }).Inv packets allocated'
      (Function.update jobs (i + 1) (p.map fun q : StagedPacket => ⟨q.packet, fragPkt.usedFrame.toList⟩))
      t (Function.update active i p) := by
  have hentry : ∀ j, j ≠ i → Function.update s.fragmentedPackets i fragPkt j =
      s.fragmentedPackets j := fun j hj => Function.update_of_ne hj _ _
  have hactive : ∀ j, j ≠ i → Function.update active i p j = active j :=
    fun j hj => Function.update_of_ne hj _ _
  refine { h with
    elem := fun j => ?_
    staged := fun j q hq => ?_
    addr := fun j k q r hq hr heq => ?_
    jobs_zero := ?_
    jobs_succ := fun j => ?_
    oneFrame := fun j => ?_
    allocated_perm := ?_
    allocated_nodup := hnodup
    off := fun hs => ⟨hoff hs, (h.off hs).2⟩ }
  · by_cases hj : j = i
    · subst hj
      simp only [setFragmentedPacket_fragmentedPackets, Function.update_self, helem]
    · simp only [setFragmentedPacket_fragmentedPackets, hentry j hj, hactive j hj, h.elem j]
  · by_cases hj : j = i
    · subst hj
      rw [Function.update_self] at hq
      exact ⟨hstaged q hq, hi⟩
    · rw [hactive j hj] at hq
      exact h.staged j q hq
  · by_cases hj : j = i <;> by_cases hk : k = i
    · rw [hj, hk]
    · subst hj
      rw [Function.update_self] at hq
      rw [hactive k hk] at hr
      exact absurd heq.symm (haddr q hq k r hk hr)
    · subst hk
      rw [Function.update_self] at hr
      rw [hactive j hj] at hq
      exact absurd heq (haddr r hr j q hj hq)
    · rw [hactive j hj] at hq
      rw [hactive k hk] at hr
      exact h.addr j k q r hq hr heq
  · rw [Function.update_of_ne (by omega), h.jobs_zero]
  · by_cases hj : j = i
    · subst hj
      simp only [setFragmentedPacket_fragmentedPackets, Function.update_self]
    · rw [Function.update_of_ne (by omega), h.jobs_succ]
      simp only [setFragmentedPacket_fragmentedPackets, hentry j hj, hactive j hj]
  · by_cases hj : j = i
    · subst hj
      simp only [setFragmentedPacket_fragmentedPackets, Function.update_self, hframes]
    · simp only [setFragmentedPacket_fragmentedPackets, hentry j hj, hactive j hj, h.oneFrame j]
  · rw [List.perm_iff_count]
    intro frame
    have hheld := count_heldFrames_set hi fragPkt frame
    have hperm := List.perm_iff_count.mp h.allocated_perm frame
    have hc := hcount frame
    rw [count_heldFrames] at hheld hperm ⊢
    dsimp only at hheld ⊢
    rw [setFragmentedPacket_freeFrame] at hheld
    rw [count_heldFrames] at hheld
    omega

/-- An entry with a used frame has no free one, and the other way round. -/
theorem frames_cases (h : s.Inv packets allocated jobs t active) {i : ℕ} {p : StagedPacket}
    (hp : active i = some p) :
    (∃ f, (s.fragmentedPackets i).freeFrame = some f ∧ (s.fragmentedPackets i).usedFrame = none) ∨
      ∃ f, (s.fragmentedPackets i).freeFrame = none ∧
        (s.fragmentedPackets i).usedFrame = some f := by
  have hlen := h.oneFrame i
  rw [hp, LowpanIpv6PacketBeingForwarded.frames, List.length_append] at hlen
  cases hfree : (s.fragmentedPackets i).freeFrame with
  | none =>
    cases hused : (s.fragmentedPackets i).usedFrame with
    | none => rw [hfree, hused] at hlen; simp at hlen
    | some f => exact Or.inr ⟨f, rfl, rfl⟩
  | some f =>
    cases hused : (s.fragmentedPackets i).usedFrame with
    | none => exact Or.inl ⟨f, rfl, rfl⟩
    | some g => rw [hfree, hused] at hlen; simp at hlen

/-- The entry of a packet that stays active gets other frames. -/
theorem setFrames (h : s.Inv packets allocated jobs t active) {i : ℕ} {p : StagedPacket}
    (hp : active i = some p) (freeFrame usedFrame : Option ℕ) (n : UInt8)
    (hlen : (freeFrame.toList ++ usedFrame.toList).length = 1)
    (hcount : ∀ frame, (s.fragmentedPackets i).frames.count frame =
      (freeFrame.toList ++ usedFrame.toList).count frame) :
    (s.setFragmentedPacket i { s.fragmentedPackets i with
      freeFrame := freeFrame, usedFrame := usedFrame, numRetransmissionsRemaining := n }).Inv
      packets allocated (Function.update jobs (i + 1) (some ⟨p.packet, usedFrame.toList⟩)) t
      active := by
  have hset := h.setEntry i { s.fragmentedPackets i with
      freeFrame := freeFrame, usedFrame := usedFrame, numRetransmissionsRemaining := n }
    s.freeFrame (some p) allocated (h.staged i p hp).2 ((h.elem i).trans (congrArg _ hp))
    (fun q hq => Option.some.inj hq ▸ (h.staged i p hp).1)
    (fun q hq j r hj hr heq => hj (h.addr j i r p hr hp (Option.some.inj hq ▸ heq)))
    hlen (fun frame => by rw [hcount]; rfl) h.allocated_nodup fun hoff => (h.off hoff).1
  have hactive : Function.update active i (some p) = active := by
    rw [← hp, Function.update_eq_self]
  rw [hactive] at hset
  exact hset

/-- The fragmenter asks for a frame. -/
theorem frameForFragmentedPacketRequested (h : s.Inv packets allocated jobs t active) {token : ℕ}
    (htoken : jobs token ≠ none) (answers : FrameRequestAnswers) :
    let r := (s.frameForFragmentedPacketRequested token answers).2
    ∃ jobs', r.1.Inv packets allocated jobs' t active ∧
      (r.2 = [] ∧ jobs' = jobs ∨ ∃ frame, r.2 = [.frameProvided token frame] ∧
        jobs.step (.called (.frameForFragmentedPacketRequested token (some frame))) = some jobs') := by
  obtain ⟨job, hjob⟩ := Option.ne_none_iff_exists'.mp htoken
  obtain ⟨i, p, rfl, hp, rfl⟩ := h.of_job hjob
  have helem : (s.fragmentedPackets i).stagingQueueElem = some p.elem :=
    (h.elem i).trans (congrArg _ hp)
  unfold LowpanForwarderMain.frameForFragmentedPacketRequested
  simp only [Nat.add_sub_cancel, helem]
  rcases h.frames_cases hp with ⟨frame, hfree, hused⟩ | ⟨frame, hfree, -⟩
  · have hcount : ∀ f, (s.fragmentedPackets i).frames.count f = [frame].count f := by
      intro f
      rw [LowpanIpv6PacketBeingForwarded.frames, hfree, hused]
      rfl
    have hstep : jobs.step (.called (.frameForFragmentedPacketRequested (i + 1) (some frame))) =
        some (Function.update jobs (i + 1) (some ⟨p.packet, [frame]⟩)) := by
      rw [FragmenterJobs.step, hjob, hused]
      rfl
    rw [hfree]
    dsimp only
    split_ifs
    · exact ⟨jobs, h.congr rfl rfl (fun _ => rfl) (fun _ => rfl) (fun _ => rfl) rfl rfl rfl rfl,
        Or.inl ⟨rfl, rfl⟩⟩
    · have hset := h.setFrames hp none (some frame) 0 rfl hcount
      dsimp only at hset
      rw [helem] at hset
      exact ⟨_, hset.congr rfl rfl (fun _ => rfl) (fun _ => rfl) (fun _ => rfl) rfl rfl rfl rfl,
        Or.inr ⟨frame, rfl, hstep⟩⟩
    · have hset := h.setFrames hp none (some frame) answers.maxFrameRetransmissionAttempts rfl
        hcount
      dsimp only at hset
      rw [helem] at hset
      exact ⟨_, hset.congr rfl rfl (fun _ => rfl) (fun _ => rfl) (fun _ => rfl) rfl rfl rfl rfl,
        Or.inr ⟨frame, rfl, hstep⟩⟩
  · rw [hfree]
    exact ⟨jobs, h, Or.inl ⟨rfl, rfl⟩⟩

/-- The fragmenter gives a frame back. -/
theorem frameForFragmentedPacketReleased (h : s.Inv packets allocated jobs t active) {token : ℕ}
    {job : FragmenterJob} {frame : ℕ} (hjob : jobs token = some job) (hframe : frame ∈ job.held) :
    let r := s.frameForFragmentedPacketReleased token frame
    ∃ jobs', r.1.Inv packets allocated jobs' t active ∧ r.2 = [.frameReleased token frame] ∧
      jobs.step (.called (.frameForFragmentedPacketReleased token frame)) = some jobs' := by
  obtain ⟨i, p, rfl, hp, rfl⟩ := h.of_job hjob
  rcases h.frames_cases hp with ⟨f, hfree, hused⟩ | ⟨f, hfree, hused⟩
  · rw [hused] at hframe
    cases hframe
  · rw [hused] at hframe hjob
    obtain rfl : frame = f := by simpa using hframe
    have hcount : ∀ g, (s.fragmentedPackets i).frames.count g = [frame].count g := by
      intro g
      rw [LowpanIpv6PacketBeingForwarded.frames, hfree, hused]
      rfl
    have hstep : jobs.step (.called (.frameForFragmentedPacketReleased (i + 1) frame)) =
        some (Function.update jobs (i + 1) (some ⟨p.packet, ([] : List ℕ)⟩)) := by
      rw [FragmenterJobs.step, hjob]
      simp
    unfold LowpanForwarderMain.frameForFragmentedPacketReleased
    simp only [Nat.add_sub_cancel, hfree]
    exact ⟨_, h.setFrames hp (some frame) none _ rfl hcount, trivial, hstep⟩

/-- The fragmenter has finished a packet. -/
theorem fragmentingIpv6PacketFinished (h : s.Inv packets allocated jobs t active)
    {packet token : ℕ} (hjob : jobs token = some ⟨packet, 0⟩) (status : ErrorT) :
    let r := s.fragmentingIpv6PacketFinished packet token status
    ∃ i p allocated' jobs', token = i + 1 ∧ active i = some p ∧ p.packet = packet ∧
      r.1.Inv packets allocated' jobs' (t.complete packet status) (Function.update active i none) ∧
      (r.2 = [.fragmentingFinished token packet] ∧ allocated' = allocated ∨
        ∃ f, f ∈ allocated ∧ r.2 = [.fragmentingFinished token packet, .freeFrame f] ∧
          allocated' = allocated.erase f) ∧
      jobs.step (.called (.fragmentingIpv6PacketFinished (some packet) token SUCCESS)) =
        some jobs' := by
  obtain ⟨i, p, rfl, hp, heq⟩ := h.of_job hjob
  obtain ⟨rfl, hheld⟩ := FragmenterJob.mk.inj heq
  have hlt := (h.staged i p hp).2
  obtain ⟨f, hfree, hused⟩ : ∃ f, (s.fragmentedPackets i).freeFrame = some f ∧
      (s.fragmentedPackets i).usedFrame = none := by
    rcases h.frames_cases hp with hcase | ⟨f, -, hused⟩
    · exact hcase
    · rw [hused] at hheld
      exact absurd hheld.symm (by simp)
  have hframes : (s.fragmentedPackets i).frames = [f] := by
    rw [LowpanIpv6PacketBeingForwarded.frames, hfree, hused]
    rfl
  have hstep : jobs.step (.called (.fragmentingIpv6PacketFinished (some p.packet) (i + 1)
      SUCCESS)) = some (Function.update jobs (i + 1) none) := by
    rw [FragmenterJobs.step, hjob]
    simp
  have hcleared : (({ s.fragmentedPackets i with freeFrame := none, stagingQueueElem := none } :
      LowpanIpv6PacketBeingForwarded).frames) = [] := by
    rw [LowpanIpv6PacketBeingForwarded.frames, hused]
    rfl
  have hnot : ∀ j q, Function.update active i none j = some q → q.packet ≠ p.packet := by
    intro j q hq heq
    by_cases hj : j = i
    · subst hj
      rw [Function.update_self] at hq
      cases hq
    · rw [Function.update_of_ne hj] at hq
      exact hj (h.active_inj hq hp heq)
  unfold LowpanForwarderMain.fragmentingIpv6PacketFinished
  simp only [Nat.add_sub_cancel, hfree]
  cases hmain : s.freeFrame with
  | none =>
    have hset := h.setEntry i { s.fragmentedPackets i with
        freeFrame := none, stagingQueueElem := none } (some f) none allocated hlt rfl
      (fun q hq => by cases hq) (fun q hq => by cases hq) (by rw [hcleared]; rfl)
      (fun frame => by rw [hframes, hcleared, hmain]; simp) h.allocated_nodup
      (fun hoff => by
        have hmem := (h.off_empty hoff).2.2.1
        rw [hmem] at hp
        cases hp)
    exact ⟨i, p, allocated, _, rfl, hp, rfl, hset.complete p.packet status hnot,
      Or.inl ⟨rfl, rfl⟩, hstep⟩
  | some g =>
    have hmem : f ∈ allocated := by
      rw [h.allocated_perm.mem_iff, heldFrames, List.mem_append, List.mem_flatMap]
      exact Or.inr ⟨i, List.mem_range.mpr hlt, by rw [hframes]; exact List.mem_singleton_self f⟩
    have hset := h.setEntry i { s.fragmentedPackets i with
        freeFrame := none, stagingQueueElem := none } s.freeFrame none (allocated.erase f) hlt rfl
      (fun q hq => by cases hq) (fun q hq => by cases hq) (by rw [hcleared]; rfl)
      (fun frame => by
        have hpos := List.count_pos_iff.mpr hmem
        rw [hframes, hcleared, List.count_erase, List.count_singleton, List.count_nil]
        simp only [beq_iff_eq]
        by_cases hf : f = frame
        · subst hf
          simp only [if_true]
          omega
        · simp only [if_neg hf]
          omega) (h.allocated_nodup.erase f)
      (fun hoff => (h.off hoff).1)
    exact ⟨i, p, allocated.erase f, _, rfl, hp, rfl, hset.complete p.packet status hnot,
      Or.inr ⟨f, hmem, rfl, rfl⟩, hstep⟩

/-! ## Starting to fragment a packet -/

/-- The search finds an entry exactly when one has the address. -/
theorem findFragmented_isNone_iff (h : s.Inv packets allocated jobs t active) {p : StagedPacket}
    (hp : p ∈ t.staged) :
    (s.findFragmentedPacketWithSameLinkLayerAddrAsStagedPacket p.elem).isNone = true ↔
      ∀ i q, active i = some q → q.addr ≠ p.addr := by
  have haddr := (h.holds (List.mem_append_left t.completed hp)).2
  rw [findFragmentedPacketWithSameLinkLayerAddrAsStagedPacket, Option.isNone_iff_eq_none,
    List.find?_eq_none]
  constructor
  · intro hnone i q hq heq
    have hi := hnone i (List.mem_range.mpr (h.staged i q hq).2)
    rw [h.elem i, hq, Option.map_some] at hi
    refine hi (Bool.or_eq_true_iff.mpr (Or.inr ?_))
    rw [beq_iff_eq, ieee154AddrAnyCmp_eq_zero_iff, haddr, (h.holds_active hq).2, heq]
  · intro hnot i _
    rw [h.elem i]
    cases hq : active i with
    | none => exact Bool.false_ne_true
    | some q =>
      rw [Option.map_some, Bool.not_eq_true, Bool.or_eq_false_iff, beq_eq_false_iff_ne,
        beq_eq_false_iff_ne]
      refine ⟨fun helem => hnot i q hq ?_, fun hcmp => hnot i q hq ?_⟩
      · rw [← (h.holds_active hq).2, ← haddr, helem]
      · rw [ieee154AddrAnyCmp_eq_zero_iff, haddr, (h.holds_active hq).2] at hcmp
        exact hcmp.symm

/-- The loop over the staged packets stops at the first one without an entry for its address. -/
theorem stagedElemToStart_eq (h : s.Inv packets allocated jobs t active) :
    s.stagedElemToStart = (t.staged.find? fun p =>
      (s.findFragmentedPacketWithSameLinkLayerAddrAsStagedPacket p.elem).isNone).map
        StagedPacket.elem := by
  obtain ⟨poolLen, hrep⟩ := h.represents
  have hlen := hrep.length_elems
  have hstaged := hrep.staged
  cases hfind : t.staged.find? fun p =>
      (s.findFragmentedPacketWithSameLinkLayerAddrAsStagedPacket p.elem).isNone with
  | none =>
    refine findFrom_of_forall hstaged (by rw [List.length_map, hrep.poolLen_eq]; omega) ?_
    intro e he
    obtain ⟨p, hp, rfl⟩ := List.mem_map.mp he
    exact Bool.not_eq_true _ ▸ List.find?_eq_none.mp hfind p hp
  | some p =>
    obtain ⟨l₁, l₂, hsplit, -, hp, hl₁⟩ := exists_split_of_find? hfind
    rw [hsplit] at hlen hstaged
    rw [List.length_append, List.length_cons] at hlen
    rw [List.map_append, List.map_cons] at hstaged
    rw [stagedElemToStart, findFrom_of_split hstaged
      (by rw [List.length_map, hrep.poolLen_eq]; omega) ?_ hp]
    · rfl
    · intro e he
      obtain ⟨q, hq, rfl⟩ := List.mem_map.mp he
      exact hl₁ q hq

/-- A frame is allocated when the forwarder has no free one. -/
theorem allocate (h : s.Inv packets allocated jobs t active) (hon : s.isOn = true)
    {frame : Option ℕ} (hframe : ∀ f, frame = some f → f ∉ allocated) :
    ∃ allocated', ledger LowpanForwarderAct.frameEntry allocated (s.allocActs frame) =
        some allocated' ∧
      ({ s with freeFrame := s.freeFrame.or frame }).Inv packets allocated' jobs t active := by
  cases hfree : s.freeFrame with
  | some f =>
    refine ⟨allocated, by rw [allocActs, hfree]; rfl, ?_⟩
    exact h.congr rfl hfree.symm (fun _ => rfl) (fun _ => rfl) (fun _ => rfl) rfl rfl rfl rfl
  | none =>
    cases frame with
    | none =>
      refine ⟨allocated, by rw [allocActs, hfree]; rfl, ?_⟩
      exact h.congr rfl hfree.symm (fun _ => rfl) (fun _ => rfl) (fun _ => rfl) rfl rfl rfl rfl
    | some f =>
      refine ⟨f :: allocated, by rw [allocActs, hfree]; rfl, { h with
        allocated_perm := ?_
        allocated_nodup := List.nodup_cons.mpr ⟨hframe f rfl, h.allocated_nodup⟩
        off := fun hoff => absurd (hon.symm.trans hoff) (by decide) }⟩
      have hperm := h.allocated_perm
      rw [heldFrames, hfree] at hperm
      exact hperm.cons f

/-- A packet gets the entry of its token, with the free frame. -/
theorem begin (h : s.Inv packets allocated jobs t active) {p : StagedPacket} {frame i : ℕ}
    (hp : p ∈ t.staged) (haddr : ∀ j q, active j = some q → q.addr ≠ p.addr)
    (hfree : s.freeFrame = some frame) (hi : i < s.maxNumFragmentedPackets.toNat)
    (hjob : jobs (i + 1) = none) (flags : UInt8) :
    ({ s.setFragmentedPacket i ⟨some p.elem, some frame, none, flags, 0⟩ with
      freeFrame := none }).Inv packets allocated
      (Function.update jobs (i + 1) (some ⟨p.packet, ([] : List ℕ)⟩)) t
      (Function.update active i (some p)) := by
  have hinactive : active i = none := by
    have hsucc := h.jobs_succ i
    rw [hjob] at hsucc
    exact Option.map_eq_none_iff.mp hsucc.symm
  have hframes : (s.fragmentedPackets i).frames = [] := by
    have hlen := h.oneFrame i
    rw [hinactive] at hlen
    exact List.eq_nil_of_length_eq_zero hlen
  refine h.setEntry i ⟨some p.elem, some frame, none, flags, 0⟩ none (some p) allocated hi rfl
    (fun q hq => Option.some.inj hq ▸ hp)
    (fun q hq j r _ hr => Option.some.inj hq ▸ haddr j r hr) rfl (fun f => ?_) h.allocated_nodup
    fun _ => rfl
  rw [hframes, hfree, LowpanIpv6PacketBeingForwarded.frames]
  simp

theorem tryToStart_eq (s : LowpanForwarderMain) (elem : ℕ) (frame : Option ℕ) (fragToken : ℕ) :
    s.tryToStartForwardingStagedPacket elem frame fragToken =
      match s.freeFrame.or frame with
      | none => (false, { s with freeFrame := none }, s.allocActs frame)
      | some f =>
        if fragToken = 0 then (false, { s with freeFrame := some f }, s.allocActs frame)
        else
          (true,
            { s.setFragmentedPacket (fragToken - 1) ⟨some elem, some f, none,
                if ieee154AddrAnyIsBroadcast (s.addrOf elem) then FRAGMENTED_PACKET_FLAG_BROADCAST
                else 0, 0⟩ with freeFrame := none },
            s.allocActs frame ++ [.fragmenting fragToken (s.packetOf elem)]) := by
  unfold tryToStartForwardingStagedPacket allocActs
  rcases s with ⟨_, _, _, freeFrame⟩
  cases freeFrame with
  | some f => cases fragToken <;> rfl
  | none =>
    cases frame with
    | none => rfl
    | some f => cases fragToken <;> rfl

/-- What the task does: nothing, when no packet can be started, or when there is no frame or no
token for the first one that can; else it starts that packet. -/
theorem processStagedPacketsTask_cases (h : s.Inv packets allocated jobs t active)
    (frame : Option ℕ) (fragToken : ℕ) :
    let s₀ := { s with processStagedPacketsTaskPosted := false }
    let s₁ := { s₀ with freeFrame := s.freeFrame.or frame }
    (∀ p ∈ t.staged, ∃ i q, active i = some q ∧ q.addr = p.addr) ∧
        s.processStagedPacketsTask frame fragToken = (s₀, []) ∨
      ∃ p ∈ t.staged, (∀ i q, active i = some q → q.addr ≠ p.addr) ∧
        ((s₁.freeFrame = none ∨ fragToken = 0) ∧
            s.processStagedPacketsTask frame fragToken = (s₁, s.allocActs frame) ∨
          ∃ f, s₁.freeFrame = some f ∧ fragToken ≠ 0 ∧
            s.processStagedPacketsTask frame fragToken =
              ({ s₁.setFragmentedPacket (fragToken - 1) ⟨some p.elem, some f, none,
                  if ieee154AddrAnyIsBroadcast p.addr then FRAGMENTED_PACKET_FLAG_BROADCAST else 0,
                  0⟩ with
                  freeFrame := none, processStagedPacketsTaskPosted := true },
                s.allocActs frame ++ [.fragmenting fragToken p.packet])) := by
  intro s₀ s₁
  have hidle (hnone : s.stagedElemToStart = none) :
      s.processStagedPacketsTask frame fragToken = (s₀, []) := by
    rw [processStagedPacketsTask, show s₀.stagedElemToStart = none from hnone]
  have hstart {elem : ℕ} {r : Bool × LowpanForwarderMain × List LowpanForwarderAct}
      (hsome : s.stagedElemToStart = some elem)
      (htry : s₀.tryToStartForwardingStagedPacket elem frame fragToken = r) :
      s.processStagedPacketsTask frame fragToken =
        ({ r.2.1 with
            processStagedPacketsTaskPosted := r.1 || r.2.1.processStagedPacketsTaskPosted },
          r.2.2) := by
    obtain ⟨started, s', acts⟩ := r
    rw [processStagedPacketsTask, show s₀.stagedElemToStart = some elem from hsome]
    dsimp only
    rw [htry]
    cases started <;> rfl
  rw [h.stagedElemToStart_eq] at hidle hstart
  cases hfind : t.staged.find? fun p =>
      (s.findFragmentedPacketWithSameLinkLayerAddrAsStagedPacket p.elem).isNone with
  | none =>
    rw [hfind] at hidle
    refine Or.inl ⟨fun p hp => ?_, hidle rfl⟩
    have hsome := List.find?_eq_none.mp hfind p hp
    rw [h.findFragmented_isNone_iff hp] at hsome
    push Not at hsome
    exact hsome
  | some p =>
    rw [hfind] at hstart
    have hp := List.mem_of_find?_eq_some hfind
    have hnone := List.find?_some hfind
    have haddr := (h.findFragmented_isNone_iff hp).mp hnone
    refine Or.inr ⟨p, hp, haddr, ?_⟩
    obtain ⟨hpacket, haddrOf⟩ := h.holds (List.mem_append_left t.completed hp)
    have hs₁ : s₁ = { s₀ with freeFrame := s.freeFrame.or frame } := rfl
    have htry := tryToStart_eq s₀ p.elem frame fragToken
    rw [hstart rfl htry]
    change (s.freeFrame.or frame = none ∨ _) ∧ _ ∨ ∃ f, s.freeFrame.or frame = some f ∧ _
    rw [hs₁]
    cases hfree : s.freeFrame.or frame with
    | none =>
      rw [hfree] at htry
      exact Or.inl ⟨Or.inl rfl, rfl⟩
    | some f =>
      rw [hfree] at htry
      by_cases htoken : fragToken = 0
      · refine Or.inl ⟨Or.inr htoken, ?_⟩
        simp only [if_pos htoken]
        rfl
      · refine Or.inr ⟨f, rfl, htoken, ?_⟩
        simp only [if_neg htoken]
        rw [← hpacket, ← haddrOf]
        rfl

/-- Starting the forwarder. -/
theorem start (h : s.Inv packets allocated jobs t active) {frame : Option ℕ}
    (hframe : ∀ f, frame = some f → f ∉ allocated) (rand : UInt16) :
    ∃ allocated' t', (s.start frame rand).2.1.Inv packets allocated' jobs t' active ∧
      ledger LowpanForwarderAct.frameEntry allocated (s.start frame rand).2.2 = some allocated' ∧
      (∀ p ∈ t'.staged, p ∈ t.staged) ∧
      ∀ act ∈ (s.start frame rand).2.2, act.packetEntry = .other ∧ act.fragmenterAct = none := by
  by_cases hon : s.isOn = true
  · rw [LowpanForwarderMain.start, if_pos hon]
    exact ⟨allocated, t, h, rfl, fun p hp => hp, fun act hact => by cases hact⟩
  have hoff : s.isOn = false := Bool.not_eq_true _ ▸ hon
  obtain ⟨hstaged, hcompleted, rfl, rfl, hframes⟩ := h.off_empty hoff
  obtain ⟨hfree, rfl, hsig⟩ := h.off hoff
  have hqueue := LowpanIpv6PacketReadyForForwardingQueue.init_represents s.stagedPacketQueue.elems
    s.maxNumStagedPackets
  have hheld : ∀ i, (s.fragmentedPackets i).freeFrame = none ∧
      (s.fragmentedPackets i).usedFrame = none := by
    intro i
    have hi := hframes i
    rwa [LowpanIpv6PacketBeingForwarded.frames, List.append_eq_nil_iff, Option.toList_eq_nil_iff,
      Option.toList_eq_nil_iff] at hi
  have hflat : ∀ f : ℕ → LowpanIpv6PacketBeingForwarded, (∀ i, (f i).frames = []) →
      ((List.range s.maxNumFragmentedPackets.toNat).flatMap fun i => (f i).frames) = [] := by
    intro f hf
    simp only [hf]
    simp
  rw [LowpanForwarderMain.start, if_neg hon]
  dsimp only
  cases frame with
  | none =>
    refine ⟨[], ⟨(List.range s.maxNumStagedPackets.toNat).reverse, [], []⟩, { h with
      represents := ⟨_, hqueue⟩
      completedPosted := fun hne => absurd rfl hne
      signaling := fun hs => absurd (hsig.symm.trans hs) Bool.false_ne_true
      packets_perm := by rw [pendingOf_nil]
      allocated_perm := ?_
      off := fun _ => ⟨rfl, rfl, hsig⟩
      staged := fun i p hp => by cases hp
      elem := h.elem
      addr := h.addr
      jobs_succ := h.jobs_succ
      oneFrame := h.oneFrame }, rfl, fun p hp => (by cases hp), fun act hact => by cases hact⟩
    simp only [heldFrames]
    rw [hflat _ hframes]
    exact List.Perm.refl _
  | some f =>
    have hentry : ∀ i, (if i < s.maxNumFragmentedPackets.toNat then
        { s.fragmentedPackets i with stagingQueueElem := none } else s.fragmentedPackets i) =
          s.fragmentedPackets i := by
      intro i
      have helem := h.elem i
      rw [Option.map_none] at helem
      split_ifs
      · rw [← helem]
      · rfl
    simp only [hentry]
    refine ⟨[f], ⟨(List.range s.maxNumStagedPackets.toNat).reverse, [], []⟩, { h with
      represents := ⟨_, hqueue⟩
      completedPosted := fun hne => absurd rfl hne
      signaling := fun hs => absurd (hsig.symm.trans hs) Bool.false_ne_true
      packets_perm := by rw [pendingOf_nil]
      allocated_perm := ?_
      allocated_nodup := List.nodup_singleton f
      off := fun hs => absurd hs.symm Bool.false_ne_true
      staged := fun i p hp => by cases hp
      elem := h.elem
      addr := h.addr
      jobs_succ := h.jobs_succ
      oneFrame := h.oneFrame }, rfl, fun p hp => (by cases hp), fun act hact => ?_⟩
    · simp only [heldFrames]
      rw [hflat _ hframes]
      exact List.Perm.refl _
    · obtain rfl := List.mem_singleton.mp hact
      exact ⟨rfl, rfl⟩

end Inv

end LowpanForwarderMain

end Whip6
