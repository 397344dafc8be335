import Whip6.Lowpan.FragSpecMemory

/-!
# The defragmenter refines its lists

The memory of the defragmenter represents lists of packet states and of fragment specifications
(`Represents`), and each operation on the memory does what the operation on the lists says.  The
loops reach the ends of the lists with the fuel that they have.
-/

namespace Whip6

open Lib

/-! ## What the partition keeps apart -/

namespace DefragLists.Partition

variable {t : DefragLists} {hand : List Reassembly} {handed : List ℕ} {r : Reassembly}
  {numPackets numFragSpecs : ℕ}

theorem nodup_ids (h : t.Partition hand handed numPackets numFragSpecs) :
    ((t.live hand).map Reassembly.id ++ t.free).Nodup :=
  h.packets.nodup_iff.mpr List.nodup_range

theorem length_ids (h : t.Partition hand handed numPackets numFragSpecs) :
    t.current.length + t.locked.length + hand.length + t.free.length = numPackets := by
  have hlen := h.packets.length_eq
  simpa [live, Nat.add_assoc] using hlen

theorem ptrs_eq (h : t.Partition hand handed numPackets numFragSpecs) (hr : r ∈ t.live hand) :
    r.ptrs = .first r.id :: r.additionalPtrs := by
  have hfirst := h.first r hr
  rw [Reassembly.additionalPtrs]
  cases hp : r.ptrs with
  | nil => simp [hp] at hfirst
  | cons f ptrs =>
    rw [hp, List.head?_cons] at hfirst
    rw [Option.some.inj hfirst, List.tail_cons]

theorem mem_additional (h : t.Partition hand handed numPackets numFragSpecs) {f : FragSpecPtr}
    (hf : f ∈ (t.live hand).flatMap Reassembly.additionalPtrs ++ t.freeFragSpecs) :
    ∃ i, f = .additional i := by
  obtain ⟨i, -, hi⟩ := List.mem_map.mp (h.fragSpecs.subset hf)
  exact ⟨i, hi.symm⟩

/-- All specifications that are in use or free have different addresses. -/
theorem nodup_ptrs (h : t.Partition hand handed numPackets numFragSpecs) :
    ((t.live hand).flatMap Reassembly.ptrs ++ t.freeFragSpecs).Nodup := by
  have hperm : ((t.live hand).flatMap Reassembly.ptrs ++ t.freeFragSpecs).Perm
      (((t.live hand).map Reassembly.id).map FragSpecPtr.first ++
        ((t.live hand).flatMap Reassembly.additionalPtrs ++ t.freeFragSpecs)) := by
    rw [← List.append_assoc]
    refine List.Perm.append_right _ ?_
    have hptrs : ∀ r ∈ t.live hand, r.ptrs = .first r.id :: r.additionalPtrs :=
      fun r hr => h.ptrs_eq hr
    generalize t.live hand = rs at hptrs
    induction rs with
    | nil => exact List.Perm.refl _
    | cons r rs ih =>
      have hrs := ih fun q hq => hptrs q (List.mem_cons_of_mem _ hq)
      rw [List.flatMap_cons, hptrs r List.mem_cons_self]
      rw [List.perm_iff_count] at hrs ⊢
      intro x
      have hx := hrs x
      simp only [List.map_cons, List.flatMap_cons, List.count_append, List.count_cons] at hx ⊢
      omega
  rw [hperm.nodup_iff, List.nodup_append]
  refine ⟨?_, ?_, ?_⟩
  · refine List.Nodup.map (fun a b hab => FragSpecPtr.first.inj hab) ?_
    exact (List.nodup_append.mp h.nodup_ids).1
  · refine h.fragSpecs.nodup_iff.mpr (List.Nodup.map ?_ List.nodup_range)
    exact fun a b hab => FragSpecPtr.additional.inj hab
  · rintro f hf g hg rfl
    obtain ⟨i, -, rfl⟩ := List.mem_map.mp hf
    obtain ⟨j, hj⟩ := h.mem_additional hg
    cases hj

/-- The specifications that an operation on a packet may touch: its own, and the free ones. -/
theorem touched_nodup (h : t.Partition (r :: hand) handed numPackets numFragSpecs) :
    (r.ptrs ++ t.freeFragSpecs).Nodup := by
  have hnodup := h.nodup_ptrs
  simp only [live, List.flatMap_append, List.flatMap_cons, List.append_assoc] at hnodup
  have hsub : (r.ptrs ++ t.freeFragSpecs).Sublist
      (r.ptrs ++ (hand.flatMap Reassembly.ptrs ++ t.freeFragSpecs)) :=
    (List.sublist_append_right _ _).append_left _
  exact hsub.nodup ((List.nodup_append.mp (List.nodup_append.mp hnodup).2.1).2.1)

theorem touched_length (h : t.Partition (r :: hand) handed numPackets numFragSpecs) :
    (r.ptrs ++ t.freeFragSpecs).length ≤ numFragSpecs + 1 := by
  have hlen := h.fragSpecs.length_eq
  have hr := congrArg List.length (h.ptrs_eq (r := r) (by simp [live]))
  simp only [live, List.flatMap_append, List.flatMap_cons, List.length_append, List.length_map,
    List.length_range, List.length_cons] at hlen hr ⊢
  omega

theorem notMem_touched (h : t.Partition (r :: hand) handed numPackets numFragSpecs)
    {q : Reassembly} (hq : q ∈ t.live hand) {f : FragSpecPtr} (hf : f ∈ q.ptrs) :
    f ∉ r.ptrs ++ t.freeFragSpecs := by
  have hperm : ((t.live (r :: hand)).flatMap Reassembly.ptrs ++ t.freeFragSpecs).Perm
      ((t.live hand).flatMap Reassembly.ptrs ++ (r.ptrs ++ t.freeFragSpecs)) := by
    rw [List.perm_iff_count]
    intro x
    simp only [live, List.flatMap_append, List.flatMap_cons, List.count_append]
    omega
  intro hmem
  exact (List.nodup_append.mp (hperm.nodup_iff.mp h.nodup_ptrs)).2.2 f
    (List.mem_flatMap.mpr ⟨q, hq, hf⟩) f hmem rfl

/-- A packet state that an operation holds is nowhere else. -/
theorem hand_apart (h : t.Partition (r :: hand) handed numPackets numFragSpecs) :
    r.id ∉ t.current.map Reassembly.id ∧ r.id ∉ t.locked.map Reassembly.id ∧ r.id ∉ t.free ∧
      ∀ q ∈ t.live hand, q.id ≠ r.id := by
  have hperm : ((t.live (r :: hand)).map Reassembly.id ++ t.free).Perm
      (r.id :: ((t.live hand).map Reassembly.id ++ t.free)) := by
    rw [List.perm_iff_count]
    intro x
    simp only [live, List.map_append, List.map_cons, List.count_append, List.count_cons]
    omega
  have hnot := (List.nodup_cons.mp (hperm.nodup_iff.mp h.nodup_ids)).1
  simp only [live, List.map_append, List.mem_append, not_or] at hnot
  refine ⟨hnot.1.1.1, hnot.1.1.2, hnot.2, fun q hq heq => ?_⟩
  have hmem : r.id ∈ (t.live hand).map Reassembly.id := heq ▸ List.mem_map_of_mem hq
  simp only [live, List.map_append, List.mem_append] at hmem
  tauto

end DefragLists.Partition

/-! ## Representation -/

namespace LowpanDefragGlobalState

@[simp] theorem nextPacket_setPacket (state : LowpanDefragGlobalState) (p : ℕ)
    (packet : LowpanDefragPacketState) :
    (state.setPacket p packet).nextPacket = Function.update state.nextPacket p packet.next := by
  funext q
  simp only [nextPacket, setPacket, Function.update_apply]
  split_ifs <;> rfl

@[simp] theorem nextPacket_setNextPacket (state : LowpanDefragGlobalState) (p : ℕ)
    (next : Option ℕ) :
    (state.setNextPacket p next).nextPacket = Function.update state.nextPacket p next :=
  state.nextPacket_setPacket p _

/-- A packet state holds a reassembly. -/
structure HoldsReassembly (state : LowpanDefragGlobalState) (r : Reassembly) : Prop where
  packet : state.packets r.id =
    ⟨state.nextPacket r.id, some r.packet, r.key, r.totalSize, r.defragStartTime⟩
  chain : Seg state.nextFragSpec (some (.first r.id)) r.ptrs none
  frags : ∀ e ∈ r.frags, state.Holds e

theorem HoldsReassembly.congr {state state' : LowpanDefragGlobalState} {r : Reassembly}
    (h : state.HoldsReassembly r) (hpacket : state'.packets r.id = state.packets r.id)
    (hspecs : ∀ f ∈ r.ptrs, state'.fragSpecs f = state.fragSpecs f) :
    state'.HoldsReassembly r where
  packet := by rw [nextPacket, hpacket]; exact h.packet
  chain := h.chain.congr fun f hf => congrArg LowpanDefragFragSpec.next (hspecs f hf)
  frags := fun e he => by
    rw [Holds, hspecs e.ptr (List.mem_map_of_mem he)]
    exact h.frags e he

theorem HoldsReassembly.first {state : LowpanDefragGlobalState} {r : Reassembly}
    (h : state.HoldsReassembly r) :
    ∃ f rest, r.frags = f :: rest ∧ f.ptr = .first r.id ∧ state.Holds f := by
  obtain ⟨-, hchain, hfrags⟩ := h
  rw [Reassembly.ptrs] at hchain
  cases hf : r.frags with
  | nil => exact absurd (hf ▸ hchain) (by simp)
  | cons f rest =>
    rw [hf] at hchain hfrags
    exact ⟨f, rest, rfl, (Option.some.inj hchain.1).symm, hfrags f List.mem_cons_self⟩

theorem HoldsReassembly.isComplete_iff {state : LowpanDefragGlobalState} {r : Reassembly}
    (h : state.HoldsReassembly r) (size : UInt16) :
    DefragLists.isComplete r.frags size = true ↔
      (state.fragSpecs (.first r.id)).offset = 0 ∧ (state.fragSpecs (.first r.id)).size = size := by
  obtain ⟨f, rest, hfrags, hptr, hoff, hsize⟩ := h.first
  rw [← hptr, hoff, hsize, hfrags]
  simp [DefragLists.isComplete]

theorem HoldsReassembly.first_size {state : LowpanDefragGlobalState} {r : Reassembly}
    (h : state.HoldsReassembly r) :
    (state.fragSpecs (.first r.id)).size = DefragLists.firstFragSize r := by
  obtain ⟨f, rest, hfrags, hptr, -, hsize⟩ := h.first
  rw [← hptr, hsize, DefragLists.firstFragSize, hfrags]
  rfl

/-- Links between packet states do not matter for what a packet state holds. -/
theorem HoldsReassembly.setNextPacket {state : LowpanDefragGlobalState} {r : Reassembly}
    (h : state.HoldsReassembly r) (p : ℕ) (next : Option ℕ) :
    (state.setNextPacket p next).HoldsReassembly r where
  packet := by
    by_cases hp : r.id = p
    · subst hp
      have hpacket := h.packet
      simp only [LowpanDefragGlobalState.setNextPacket, setPacket, nextPacket,
        Function.update_self] at hpacket ⊢
      rw [hpacket]
    · have hpacket : (state.setNextPacket p next).packets r.id = state.packets r.id :=
        Function.update_of_ne hp _ _
      rw [nextPacket, hpacket]
      exact h.packet
  chain := h.chain
  frags := h.frags

/-- The memory of the defragmenter represents its lists. -/
structure Represents (state : LowpanDefragGlobalState) (t : DefragLists) (hand : List Reassembly)
    (numPackets numFragSpecs : ℕ) : Prop where
  current : Seg state.nextPacket state.currentPackets (t.current.map Reassembly.id) none
  locked : Seg state.nextPacket state.lockedPackets (t.locked.map Reassembly.id) none
  free : Seg state.nextPacket state.freePackets t.free none
  freeFragSpecs : Seg state.nextFragSpec state.freeAdditionalFragSpecs t.freeFragSpecs none
  live : ∀ r ∈ t.live hand, state.HoldsReassembly r
  ipv6 : state.ipv6 = t.ipv6
  numPackets : state.numPackets = numPackets
  numFragSpecs : state.numFragSpecs = numFragSpecs

namespace Represents

variable {state : LowpanDefragGlobalState} {t : DefragLists} {hand : List Reassembly}
  {handed : List ℕ} {r : Reassembly} {numPackets numFragSpecs : ℕ} {l₁ l₂ : List Reassembly}

/-- What an operation holds may be forgotten. -/
theorem tail (h : state.Represents t (r :: hand) numPackets numFragSpecs) :
    state.Represents t hand numPackets numFragSpecs :=
  { h with
    live := fun q hq => h.live q (by
      simp only [DefragLists.live, List.mem_append, List.mem_cons] at hq ⊢
      tauto) }

/-- Setting the link of a packet state that is on no list. -/
theorem setLink (h : state.Represents t hand numPackets numFragSpecs) {p : ℕ}
    (hcurrent : p ∉ t.current.map Reassembly.id) (hlocked : p ∉ t.locked.map Reassembly.id)
    (hfree : p ∉ t.free) (next : Option ℕ) :
    (state.setNextPacket p next).Represents t hand numPackets numFragSpecs :=
  { h with
    current := by
      rw [nextPacket_setNextPacket]; exact h.current.update_of_notMem hcurrent next
    locked := by
      rw [nextPacket_setNextPacket]; exact h.locked.update_of_notMem hlocked next
    free := by
      rw [nextPacket_setNextPacket]; exact h.free.update_of_notMem hfree next
    live := fun q hq => (h.live q hq).setNextPacket p next }

theorem pushCurrent (h : state.Represents t (r :: hand) numPackets numFragSpecs)
    (hp : t.Partition (r :: hand) handed numPackets numFragSpecs) :
    { state.setNextPacket r.id state.currentPackets with currentPackets := some r.id }.Represents
      { t with current := r :: t.current } hand numPackets numFragSpecs := by
  obtain ⟨hcurrent, hlocked, hfree, -⟩ := hp.hand_apart
  have h' := h.setLink hcurrent hlocked hfree state.currentPackets
  refine { h' with current := ?_, live := fun q hq => ?_ }
  · have hseg := h.current.push hcurrent
    rwa [← nextPacket_setNextPacket] at hseg
  · have hq' : q ∈ t.live (r :: hand) := by
      simp only [DefragLists.live, List.mem_append, List.mem_cons] at hq ⊢
      tauto
    exact (h'.live q hq').congr rfl fun _ _ => rfl

theorem pushLocked (h : state.Represents t (r :: hand) numPackets numFragSpecs)
    (hp : t.Partition (r :: hand) handed numPackets numFragSpecs) :
    { state.setNextPacket r.id state.lockedPackets with lockedPackets := some r.id }.Represents
      { t with locked := r :: t.locked } hand numPackets numFragSpecs := by
  obtain ⟨hcurrent, hlocked, hfree, -⟩ := hp.hand_apart
  have h' := h.setLink hcurrent hlocked hfree state.lockedPackets
  refine { h' with locked := ?_, live := fun q hq => ?_ }
  · have hseg := h.locked.push hlocked
    rwa [← nextPacket_setNextPacket] at hseg
  · have hq' : q ∈ t.live (r :: hand) := by
      simp only [DefragLists.live, List.mem_append, List.mem_cons] at hq ⊢
      tauto
    exact (h'.live q hq').congr rfl fun _ _ => rfl

/-- A packet is taken off the current list. -/
theorem takeCurrent (h : state.Represents t hand numPackets numFragSpecs)
    (hp : t.Partition hand handed numPackets numFragSpecs) (hcurrent : t.current = l₁ ++ r :: l₂) :
    (match (l₁.map Reassembly.id).getLast? with
      | none => { state with currentPackets := state.nextPacket r.id }
      | some prev => state.setNextPacket prev (state.nextPacket r.id)).Represents
      { t with current := l₁ ++ l₂ } (r :: hand) numPackets numFragSpecs := by
  have hseg := h.current
  have hlive : ∀ q ∈ ({ t with current := l₁ ++ l₂ } : DefragLists).live (r :: hand),
      state.HoldsReassembly q := by
    intro q hq
    refine h.live q ?_
    simp only [DefragLists.live, hcurrent, List.mem_append, List.mem_cons] at hq ⊢
    tauto
  rw [hcurrent, List.map_append, List.map_cons] at hseg
  rcases List.eq_nil_or_concat' l₁ with rfl | ⟨front, prev, rfl⟩
  · exact { h with current := hseg.2, live := fun q hq => (hlive q hq).congr rfl fun _ _ => rfl }
  · have hnodup := (List.nodup_append.mp hp.nodup_ids).1
    have hfree := (List.nodup_append.mp hp.nodup_ids).2.2
    simp only [DefragLists.live, List.map_append] at hnodup hfree
    obtain ⟨hnodup, -, hdisj⟩ := List.nodup_append.mp (List.nodup_append.mp hnodup).1
    have hprev : prev.id ∈ t.current.map Reassembly.id := by simp [hcurrent]
    have hlast : ((front ++ [prev]).map Reassembly.id).getLast? = some prev.id := by simp
    simp only [hlast]
    refine
      { h with
        current := ?_
        locked := ?_
        free := ?_
        live := fun q hq => (hlive q hq).setNextPacket prev.id _ }
    · simp only [hcurrent, List.map_append, List.map_cons, List.map_nil, List.append_assoc,
        List.singleton_append] at hseg hnodup ⊢
      rw [nextPacket_setNextPacket]
      exact hseg.unlink hnodup
    · rw [nextPacket_setNextPacket]
      exact h.locked.update_of_notMem (fun hmem => hdisj _ hprev _ hmem rfl) _
    · rw [nextPacket_setNextPacket]
      refine h.free.update_of_notMem (fun hmem => hfree _ ?_ _ hmem rfl) _
      simp only [List.mem_append]
      exact Or.inl (Or.inl hprev)

/-- A packet is taken off the locked list. -/
theorem takeLocked (h : state.Represents t hand numPackets numFragSpecs)
    (hp : t.Partition hand handed numPackets numFragSpecs) (hlocked : t.locked = l₁ ++ r :: l₂) :
    (match (l₁.map Reassembly.id).getLast? with
      | none => { state with lockedPackets := state.nextPacket r.id }
      | some prev => state.setNextPacket prev (state.nextPacket r.id)).Represents
      { t with locked := l₁ ++ l₂ } (r :: hand) numPackets numFragSpecs := by
  have hseg := h.locked
  have hlive : ∀ q ∈ ({ t with locked := l₁ ++ l₂ } : DefragLists).live (r :: hand),
      state.HoldsReassembly q := by
    intro q hq
    refine h.live q ?_
    simp only [DefragLists.live, hlocked, List.mem_append, List.mem_cons] at hq ⊢
    tauto
  rw [hlocked, List.map_append, List.map_cons] at hseg
  rcases List.eq_nil_or_concat' l₁ with rfl | ⟨front, prev, rfl⟩
  · exact { h with locked := hseg.2, live := fun q hq => (hlive q hq).congr rfl fun _ _ => rfl }
  · have hnodup := (List.nodup_append.mp hp.nodup_ids).1
    have hfree := (List.nodup_append.mp hp.nodup_ids).2.2
    simp only [DefragLists.live, List.map_append] at hnodup hfree
    obtain ⟨-, hnodup, hdisj⟩ := List.nodup_append.mp (List.nodup_append.mp hnodup).1
    have hprev : prev.id ∈ t.locked.map Reassembly.id := by simp [hlocked]
    have hlast : ((front ++ [prev]).map Reassembly.id).getLast? = some prev.id := by simp
    simp only [hlast]
    refine
      { h with
        current := ?_
        locked := ?_
        free := ?_
        live := fun q hq => (hlive q hq).setNextPacket prev.id _ }
    · rw [nextPacket_setNextPacket]
      exact h.current.update_of_notMem (fun hmem => hdisj _ hmem _ hprev rfl) _
    · simp only [hlocked, List.map_append, List.map_cons, List.map_nil, List.append_assoc,
        List.singleton_append] at hseg hnodup ⊢
      rw [nextPacket_setNextPacket]
      exact hseg.unlink hnodup
    · rw [nextPacket_setNextPacket]
      refine h.free.update_of_notMem (fun hmem => hfree _ ?_ _ hmem rfl) _
      simp only [List.mem_append]
      exact Or.inl (Or.inr hprev)

/-- What the memory holds of a packet on which an operation works. -/
theorem fragMem (h : state.Represents t (r :: hand) numPackets numFragSpecs)
    (hp : t.Partition (r :: hand) handed numPackets numFragSpecs) :
    FragMem state state r.id (r.ptrs ++ t.freeFragSpecs) r.frags t.freeFragSpecs where
  chain := (h.live r (by simp [DefragLists.live])).chain
  holds := (h.live r (by simp [DefragLists.live])).frags
  freeList := h.freeFragSpecs
  perm := List.Perm.refl _
  nodup := hp.touched_nodup
  fuel := by rw [h.numFragSpecs]; exact hp.touched_length
  only := OnlyFragSpecs.refl state _

/-- An operation on specifications leaves the packets alone that do not use them. -/
theorem frame (h : state.Represents t hand numPackets numFragSpecs)
    {state' : LowpanDefragGlobalState} {ptrs free : List FragSpecPtr}
    (honly : state.OnlyFragSpecs state' ptrs)
    (hother : ∀ q ∈ t.live hand, ∀ f ∈ q.ptrs, f ∉ ptrs)
    (hfree : Seg state'.nextFragSpec state'.freeAdditionalFragSpecs free none) :
    state'.Represents { t with freeFragSpecs := free } hand numPackets numFragSpecs := by
  have hnext : state'.nextPacket = state.nextPacket := by
    funext p
    rw [nextPacket, honly.packets]
    rfl
  exact
    { current := by rw [hnext, honly.currentPackets]; exact h.current
      locked := by rw [hnext, honly.lockedPackets]; exact h.locked
      free := by rw [hnext, honly.freePackets]; exact h.free
      freeFragSpecs := hfree
      live := fun q hq => (h.live q hq).congr (congrFun honly.packets q.id) fun f hf =>
        honly.fragSpecs f (hother q hq f hf)
      ipv6 := honly.ipv6.trans h.ipv6
      numPackets := honly.numPackets.trans h.numPackets
      numFragSpecs := honly.numFragSpecs.trans h.numFragSpecs }

/-- An operation on the specifications of one packet. -/
theorem withFrags (h : state.Represents t (r :: hand) numPackets numFragSpecs)
    (hp : t.Partition (r :: hand) handed numPackets numFragSpecs)
    {state' : LowpanDefragGlobalState} {frags : List FragEntry} {free : List FragSpecPtr}
    (hm : FragMem state state' r.id (r.ptrs ++ t.freeFragSpecs) frags free) :
    state'.Represents { t with freeFragSpecs := free } ({ r with frags := frags } :: hand) numPackets
      numFragSpecs := by
  have hrest := h.tail.frame hm.only (fun q hq f hf => hp.notMem_touched hq hf) hm.freeList
  refine { hrest with live := fun q hq => ?_ }
  have hq' : q = { r with frags := frags } ∨ q ∈ t.live hand := by
    simp only [DefragLists.live, List.mem_append, List.mem_cons] at hq ⊢
    tauto
  rcases hq' with rfl | hq'
  · refine ⟨?_, hm.chain, hm.holds⟩
    rw [nextPacket, hm.only.packets]
    exact (h.live r (by simp [DefragLists.live])).packet
  · exact hrest.live q hq'

/-- A packet state without an IPv6 packet is destroyed. -/
theorem release {ipv6 : Ipv6PacketHeap}
    (h : state.Represents { t with ipv6 := ipv6 } hand numPackets numFragSpecs)
    (hp : t.Partition (r :: hand) handed numPackets numFragSpecs)
    (hm : FragMem state state r.id (r.ptrs ++ t.freeFragSpecs) r.frags t.freeFragSpecs)
    (hnone : (state.packets r.id).packet = none) :
    (lowpanDefragmenterDestroyDefragPacket state r.id).Represents
      ({ t with ipv6 := ipv6 }.release r) hand numPackets numFragSpecs := by
  obtain ⟨f, behind, hfrags⟩ : ∃ f behind, r.frags = f :: behind := by
    cases hf : r.frags with
    | nil => exact absurd (hf ▸ hm.chain) (by simp)
    | cons f behind => exact ⟨f, behind, rfl⟩
  rw [hfrags] at hm
  have hdestroy := hm.destroyFragSpecs
  have hbehind : behind.map FragEntry.ptr = r.additionalPtrs := by
    rw [Reassembly.additionalPtrs, Reassembly.ptrs, hfrags, List.map_cons, List.tail_cons]
  rw [hbehind] at hdestroy
  have hframe := h.frame hdestroy.only (fun q hq f hf => hp.notMem_touched hq hf)
    hdestroy.freeList
  obtain ⟨hcurrent, hlocked, hfree, -⟩ := hp.hand_apart
  have hlink := hframe.setLink hcurrent hlocked hfree
    (lowpanDefragmenterDestroyFragSpecsOfPacket state r.id).freePackets
  have hpush := hframe.free.push hfree
  rw [← nextPacket_setNextPacket] at hpush
  simp only [lowpanDefragmenterDestroyDefragPacket, hnone]
  exact
    { hlink with
      free := hpush
      live := fun q hq => (hlink.live q hq).congr rfl fun _ _ => rfl }

/-- The IPv6 packet of a packet state that an operation holds is taken away. -/
theorem clear (h : state.Represents t (r :: hand) numPackets numFragSpecs)
    (hp : t.Partition (r :: hand) handed numPackets numFragSpecs) (ipv6 : Ipv6PacketHeap) :
    ({ state with ipv6 := ipv6 }.setPacket r.id
      { state.packets r.id with packet := none }).Represents { t with ipv6 := ipv6 } hand numPackets
      numFragSpecs := by
  have hnext : ({ state with ipv6 := ipv6 }.setPacket r.id
      { state.packets r.id with packet := none }).nextPacket = state.nextPacket := by
    rw [nextPacket_setPacket]
    exact Function.update_eq_self r.id state.nextPacket
  exact
    { current := hnext ▸ h.current
      locked := hnext ▸ h.locked
      free := hnext ▸ h.free
      freeFragSpecs := h.freeFragSpecs
      live := fun q hq => (h.tail.live q hq).congr
        (Function.update_of_ne (hp.hand_apart.2.2.2 q hq) _ _) fun _ _ => rfl
      ipv6 := rfl
      numPackets := h.numPackets
      numFragSpecs := h.numFragSpecs }

theorem handUp (h : state.Represents t (r :: hand) numPackets numFragSpecs)
    (hp : t.Partition (r :: hand) handed numPackets numFragSpecs) :
    (lowpanDefragmenterDestroyDefragPacket
      (state.setPacket r.id { state.packets r.id with packet := none }) r.id).Represents
      (t.release r) hand numPackets numFragSpecs := by
  have hm := h.fragMem hp
  have hclear := h.clear hp t.ipv6
  have hrelease := hclear.release hp ⟨hm.chain, hm.holds, hm.freeList, hm.perm, hm.nodup, hm.fuel,
    OnlyFragSpecs.refl _ _⟩ (congrArg _ (Function.update_self r.id _ _))
  have hstate : { state with ipv6 := t.ipv6 } = state := by rw [← h.ipv6]
  rw [hstate] at hrelease
  exact hrelease

theorem destroy (h : state.Represents t (r :: hand) numPackets numFragSpecs)
    (hp : t.Partition (r :: hand) handed numPackets numFragSpecs) :
    (lowpanDefragmenterDestroyDefragPacket state r.id).Represents (t.destroy r) hand numPackets
      numFragSpecs := by
  have hm := h.fragMem hp
  have hclear := h.clear hp (t.ipv6.free r.packet)
  have hrelease := hclear.release hp ⟨hm.chain, hm.holds, hm.freeList, hm.perm, hm.nodup, hm.fuel,
    OnlyFragSpecs.refl _ _⟩ (congrArg _ (Function.update_self r.id _ _))
  have hpacket := congrArg LowpanDefragPacketState.packet
    (h.live r (by simp [DefragLists.live])).packet
  have hstate : lowpanDefragmenterDestroyDefragPacket state r.id =
      lowpanDefragmenterDestroyDefragPacket ({ state with ipv6 := t.ipv6.free r.packet }.setPacket
        r.id { state.packets r.id with packet := none }) r.id := by
    simp only [lowpanDefragmenterDestroyDefragPacket, hpacket, h.ipv6]
    simp only [setPacket, Function.update_self]
  rw [hstate]
  exact hrelease

/-- Writing to an IPv6 packet. -/
theorem write (h : state.Represents t hand numPackets numFragSpecs) (packet : ℕ)
    (content : Ipv6Packet) :
    { state with ipv6 := state.ipv6.write packet content }.Represents
      { t with ipv6 := t.ipv6.write packet content } hand numPackets numFragSpecs :=
  { h with
    live := fun q hq => (h.live q hq).congr rfl fun _ _ => rfl
    ipv6 := by rw [h.ipv6] }

end Represents

/-! ## The operations -/

section Operations

variable {state : LowpanDefragGlobalState} {t : DefragLists} {handed : List ℕ}
  {numPackets numFragSpecs : ℕ}

/-- A search on a list of packets that finds nothing. -/
theorem findFrom_packets_none {o : Option ℕ} {rs : List Reassembly} {p : Reassembly → Bool}
    {q : ℕ → Bool} {fuel : ℕ} (hseg : Seg state.nextPacket o (rs.map Reassembly.id) none)
    (hfuel : rs.length ≤ fuel) (hq : ∀ r ∈ rs, q r.id = p r) (hfind : rs.find? p = none) :
    (findFrom state.nextPacket q fuel none o).2 = none := by
  refine findFrom_of_forall hseg (by simpa using hfuel) fun i hi => ?_
  obtain ⟨r, hr, rfl⟩ := List.mem_map.mp hi
  rw [hq r hr]
  simpa using List.find?_eq_none.mp hfind r hr

/-- A search on a list of packets finds the first one with the property, and the one before it. -/
theorem findFrom_packets_some {o : Option ℕ} {l₁ l₂ : List Reassembly} {r : Reassembly}
    {p : Reassembly → Bool} {q : ℕ → Bool} {fuel : ℕ}
    (hseg : Seg state.nextPacket o ((l₁ ++ r :: l₂).map Reassembly.id) none)
    (hfuel : (l₁ ++ r :: l₂).length ≤ fuel) (hq : ∀ r' ∈ l₁ ++ r :: l₂, q r'.id = p r')
    (hr : p r = true) (hl₁ : ∀ r' ∈ l₁, p r' = false) :
    findFrom state.nextPacket q fuel none o = ((l₁.map Reassembly.id).getLast?, some r.id) := by
  rw [List.map_append, List.map_cons] at hseg
  rw [findFrom_of_split hseg ?_ ?_ ?_, Option.or_none]
  · simp only [List.length_map, List.length_append, List.length_cons] at hfuel ⊢
    omega
  · intro i hi
    obtain ⟨r', hr', rfl⟩ := List.mem_map.mp hi
    rw [hq r' (List.mem_append_left _ hr'), hl₁ r' hr']
  · rw [hq r (by simp), hr]

theorem Represents.unlock_none (h : state.Represents t [] numPackets numFragSpecs)
    (hp : t.Partition [] handed numPackets numFragSpecs) {locked : Option ℕ}
    (hu : t.unlock locked = none) :
    lowpanDefragmenterUnlockDefragPacket state locked = none := by
  have hlen := hp.length_ids
  rw [DefragLists.unlock, Option.map_eq_none_iff] at hu
  have hfind : (findFrom state.nextPacket (fun p => some p == locked) state.numPackets none
      state.lockedPackets).2 = none :=
    findFrom_packets_none h.locked (by rw [h.numPackets]; omega) (fun _ _ => rfl) hu
  rw [lowpanDefragmenterUnlockDefragPacket]
  split
  · rfl
  · rename_i heq
    rw [heq] at hfind
    cases hfind
  · rename_i heq
    rw [heq] at hfind
    cases hfind

theorem Represents.unlock_some (h : state.Represents t [] numPackets numFragSpecs)
    (hp : t.Partition [] handed numPackets numFragSpecs) {locked : Option ℕ} {r : Reassembly}
    {t' : DefragLists} (hu : t.unlock locked = some (r, t')) :
    ∃ state', lowpanDefragmenterUnlockDefragPacket state locked = some (r.id, state') ∧
      state'.Represents t' [r] numPackets numFragSpecs := by
  have hlen := hp.length_ids
  have hp' := hp.unlock hu
  rw [DefragLists.unlock, Option.map_eq_some_iff] at hu
  obtain ⟨r', hfind, heq⟩ := hu
  obtain ⟨rfl, rfl⟩ := Prod.mk.inj heq
  obtain ⟨l₁, l₂, hsplit, herase, hr, hl₁⟩ := exists_split_of_find? hfind
  have hloop : findFrom state.nextPacket (fun p => some p == locked) state.numPackets none
      state.lockedPackets = ((l₁.map Reassembly.id).getLast?, some r'.id) := by
    have hseg := h.locked
    rw [hsplit] at hseg hlen
    exact findFrom_packets_some hseg (by rw [h.numPackets]; omega) (fun _ _ => rfl) hr hl₁
  rw [herase] at hp' ⊢
  have htake := h.takeLocked hp hsplit
  obtain ⟨hcurrent, hlocked, hfree, -⟩ := hp'.hand_apart
  have hlink := htake.setLink hcurrent hlocked hfree none
  rw [lowpanDefragmenterUnlockDefragPacket, hloop]
  cases hlast : (l₁.map Reassembly.id).getLast? with
  | none =>
    rw [hlast] at hlink
    exact ⟨_, rfl, hlink⟩
  | some prev =>
    rw [hlast] at hlink
    exact ⟨_, rfl, hlink⟩

theorem unlockPacket_refines (h : state.Represents t [] numPackets numFragSpecs)
    (hp : t.Partition [] handed numPackets numFragSpecs) (locked : Option ℕ) :
    let r := lowpanDefragmenterUnlockPacket state locked
    let m := t.unlockPacket locked
    r.1 = m.1 ∧ r.2.Represents m.2 [] numPackets numFragSpecs := by
  rw [lowpanDefragmenterUnlockPacket, DefragLists.unlockPacket]
  cases hu : t.unlock locked with
  | none =>
    rw [h.unlock_none hp hu]
    exact ⟨rfl, h⟩
  | some u =>
    obtain ⟨state', hstate, h'⟩ := h.unlock_some hp hu
    rw [hstate]
    exact ⟨rfl, h'.pushCurrent (hp.unlock hu)⟩

theorem allocateAndLock_refines (h : state.Represents t [] numPackets numFragSpecs)
    (hp : t.Partition [] handed numPackets numFragSpecs) (frame : Ieee154DframeInfo)
    (hdrs : LowpanUnpackedFrameHeaders) (time : UInt32) (answers : Ipv6AllocAnswers) :
    let r := lowpanDefragmenterAllocatePacketAndLockIt state frame hdrs time answers
    let m := t.allocateAndLock frame hdrs time answers
    r.1 = m.1 ∧ r.2.Represents m.2 [] numPackets numFragSpecs := by
  rw [lowpanDefragmenterAllocatePacketAndLockIt, DefragLists.allocateAndLock]
  have hfree := h.free
  cases hcase : t.free with
  | nil =>
    rw [hcase] at hfree
    have hhead : state.freePackets = none := hfree
    rw [hhead]
    exact ⟨rfl, h⟩
  | cons p free =>
    rw [hcase] at hfree
    obtain ⟨hhead, hrest⟩ := hfree
    rw [hhead]
    have hnodup := hp.nodup_ids
    rw [hcase] at hnodup
    obtain ⟨-, hfreeNodup, hdisj⟩ := List.nodup_append.mp hnodup
    have hlive : ∀ q ∈ t.live [], q.id ≠ p := fun q hq heq =>
      hdisj _ (List.mem_map_of_mem hq) _ List.mem_cons_self heq
    have hcurrent : p ∉ t.current.map Reassembly.id := fun hmem => by
      obtain ⟨q, hq, heq⟩ := List.mem_map.mp hmem
      exact hlive q (by simp [DefragLists.live, hq]) heq
    have hlocked : p ∉ t.locked.map Reassembly.id := fun hmem => by
      obtain ⟨q, hq, heq⟩ := List.mem_map.mp hmem
      exact hlive q (by simp [DefragLists.live, hq]) heq
    cases halloc : ipv6AllocatePacket answers (hdrs.frag.size.toNat - 40) with
    | none =>
      have hnext : (state.setPacket p { state.packets p with
          totalSize := hdrs.frag.size, packet := none }).nextPacket = state.nextPacket := by
        rw [nextPacket_setPacket]
        exact Function.update_eq_self p state.nextPacket
      simp only [halloc, true_and]
      exact
        { h with
          current := hnext ▸ h.current
          locked := hnext ▸ h.locked
          free := hnext ▸ h.free
          live := fun q hq => (h.live q hq).congr (Function.update_of_ne (hlive q hq) _ _)
            fun _ _ => rfl }
    | some packet =>
      have hptr : ∀ q ∈ t.live [], .first p ∉ q.ptrs := fun q hq hmem => by
        rw [hp.ptrs_eq hq] at hmem
        rcases List.mem_cons.mp hmem with heq | hmem
        · exact hlive q hq (FragSpecPtr.first.inj heq).symm
        · obtain ⟨i, hi⟩ := hp.mem_additional
            (List.mem_append_left _ (List.mem_flatMap.mpr ⟨q, hq, hmem⟩))
          cases hi
      have hfirst : .first p ∉ t.freeFragSpecs := fun hmem => by
        obtain ⟨i, hi⟩ := hp.mem_additional (List.mem_append_right _ hmem)
        cases hi
      have hnext : (state.setPacket p ⟨state.lockedPackets, some state.ipv6.numAllocated,
          lowpanFragSetKeyOfFrame frame hdrs, hdrs.frag.size, time⟩).nextPacket =
          Function.update state.nextPacket p state.lockedPackets :=
        nextPacket_setPacket state p _
      simp only [halloc, true_and]
      refine
        { current := ?_
          locked := ?_
          free := ?_
          freeFragSpecs := ?_
          live := fun q hq => ?_
          ipv6 := by rw [← h.ipv6]; rfl
          numPackets := h.numPackets
          numFragSpecs := h.numFragSpecs }
      · have hseg := h.current.update_of_notMem hcurrent state.lockedPackets
        rw [← hnext] at hseg
        exact hseg
      · have hseg := h.locked.push hlocked
        rw [← hnext] at hseg
        exact hseg
      · have hseg := hrest.update_of_notMem (List.nodup_cons.mp hfreeNodup).1 state.lockedPackets
        rw [← hnext] at hseg
        exact hseg
      · have hseg := h.freeFragSpecs.update_of_notMem hfirst none
        rw [← nextFragSpec_setFragSpec state (.first p) ⟨0, 0, none⟩] at hseg
        exact hseg
      · have hq' : q ∈ t.live [] ∨ q = ⟨p, t.ipv6.numAllocated, lowpanFragSetKeyOfFrame frame hdrs,
            hdrs.frag.size, time, [⟨.first p, 0, 0⟩]⟩ := by
          simp only [DefragLists.live, List.append_nil, List.mem_append, List.mem_cons] at hq ⊢
          tauto
        rcases hq' with hq' | rfl
        · exact (h.live q hq').congr (Function.update_of_ne (hlive q hq') _ _) fun f hf =>
            Function.update_of_ne (ne_of_mem_of_not_mem hf (hptr q hq')) _ _
        · have hchain : Seg (Function.update state.nextFragSpec (.first p) none)
              (some (.first p)) [.first p] none :=
            ⟨rfl, Function.update_self _ _ _⟩
          rw [← nextFragSpec_setFragSpec state (.first p) ⟨0, 0, none⟩] at hchain
          refine ⟨?_, hchain, ?_⟩
          · refine (Function.update_self p _ _).trans ?_
            rw [← h.ipv6]
            have hlink := congrFun hnext p
            rw [Function.update_self] at hlink
            exact congrArg (LowpanDefragPacketState.mk · _ _ _ _) hlink.symm
          · intro e he
            rw [List.mem_singleton.mp he]
            exact holds_setFragSpec_self

theorem findAndLock_refines (h : state.Represents t [] numPackets numFragSpecs)
    (hp : t.Partition [] handed numPackets numFragSpecs) (frame : Ieee154DframeInfo)
    (hdrs : LowpanUnpackedFrameHeaders) (time : UInt32) (answers : Ipv6AllocAnswers) :
    let r := lowpanDefragmenterFindExistingOrAllocateNewPacketAndLockIt state frame hdrs time answers
    let m := t.findAndLock frame hdrs time answers
    r.1 = m.1 ∧ r.2.Represents m.2 [] numPackets numFragSpecs := by
  rw [lowpanDefragmenterFindExistingOrAllocateNewPacketAndLockIt, DefragLists.findAndLock]
  by_cases hpan : ieee154DFrameIsInterPan frame = true
  · rw [if_pos hpan, if_pos (Or.inl hpan)]
    exact ⟨rfl, h⟩
  by_cases hfrag : ¬ hdrs.bitmap.frag = true
  · rw [if_neg hpan, if_pos hfrag, if_pos (Or.inr (Or.inl hfrag))]
    exact ⟨rfl, h⟩
  by_cases hsize : hdrs.frag.size.toNat < 40
  · rw [if_neg hpan, if_neg hfrag, if_pos hsize, if_pos (Or.inr (Or.inr hsize))]
    exact ⟨rfl, h⟩
  rw [if_neg hpan, if_neg hfrag, if_neg hsize, if_neg (by tauto)]
  have hlen := hp.length_ids
  have hkey : ∀ r ∈ t.current, lowpanFragSetKeyMatches (state.packets r.id).key frame hdrs =
      lowpanFragSetKeyMatches r.key frame hdrs := fun r hr => by
    rw [(h.live r (by simp [DefragLists.live, hr])).packet]
  cases hfind : t.current.find? fun r => lowpanFragSetKeyMatches r.key frame hdrs with
  | none =>
    have hloop : (findFrom state.nextPacket
        (fun p => lowpanFragSetKeyMatches (state.packets p).key frame hdrs) state.numPackets none
        state.currentPackets).2 = none :=
      findFrom_packets_none h.current (by rw [h.numPackets]; omega) hkey hfind
    have halloc := allocateAndLock_refines h hp frame hdrs time answers
    split
    · exact halloc
    · rename_i heq
      rw [heq] at hloop
      cases hloop
  | some r =>
    have hp' := hp.takeCurrent hfind
    obtain ⟨l₁, l₂, hsplit, herase, hr, hl₁⟩ := exists_split_of_find? hfind
    have hloop : findFrom state.nextPacket
        (fun p => lowpanFragSetKeyMatches (state.packets p).key frame hdrs) state.numPackets none
        state.currentPackets = ((l₁.map Reassembly.id).getLast?, some r.id) := by
      have hseg := h.current
      rw [hsplit] at hseg hlen hkey
      exact findFrom_packets_some hseg (by rw [h.numPackets]; omega) hkey hr hl₁
    have htake := h.takeCurrent hp hsplit
    rw [herase] at hp'
    have hfound : ∀ state', state'.Represents { t with current := l₁ ++ l₂ } [r] numPackets
        numFragSpecs →
        let r' :=
          if (state'.packets r.id).totalSize ≠ hdrs.frag.size then
            lowpanDefragmenterAllocatePacketAndLockIt
              (lowpanDefragmenterDestroyDefragPacket state' r.id) frame hdrs time answers
          else
            (some r.id, { state'.setNextPacket r.id state'.lockedPackets with
              lockedPackets := some r.id })
        let m :=
          if r.totalSize ≠ hdrs.frag.size then
            (({ t with current := l₁ ++ l₂ } : DefragLists).destroy r).allocateAndLock frame hdrs time
              answers
          else (some r.id, { t with current := l₁ ++ l₂, locked := r :: t.locked })
        r'.1 = m.1 ∧ r'.2.Represents m.2 [] numPackets numFragSpecs := by
      intro state' h'
      rw [(h'.live r (by simp [DefragLists.live])).packet]
      by_cases htotal : r.totalSize ≠ hdrs.frag.size
      · simp only [if_pos htotal]
        exact allocateAndLock_refines (h'.destroy hp') hp'.destroy frame hdrs time answers
      · simp only [if_neg htotal, true_and]
        exact h'.pushLocked hp'
    rw [hloop]
    simp only [herase]
    cases hlast : (l₁.map Reassembly.id).getLast? with
    | none =>
      rw [hlast] at htake
      exact hfound _ htake
    | some prev =>
      rw [hlast] at htake
      exact hfound _ htake

theorem passFrame_refines (h : state.Represents t [] numPackets numFragSpecs)
    (hp : t.Partition [] handed numPackets numFragSpecs) (frame : Ieee154DframeInfo)
    (hdrs : LowpanUnpackedFrameHeaders) (locked : Option ℕ) :
    let r := lowpanDefragmenterPassFrameWithIpv6PacketFragment state frame hdrs locked
    let m := t.passFrame frame hdrs locked
    r.1 = m.1 ∧ r.2.Represents m.2 [] numPackets numFragSpecs := by
  rw [lowpanDefragmenterPassFrameWithIpv6PacketFragment, DefragLists.passFrame]
  cases hu : t.unlock locked with
  | none =>
    rw [h.unlock_none hp hu]
    exact ⟨rfl, h⟩
  | some u =>
    obtain ⟨r, t'⟩ := u
    obtain ⟨state', hstate, h'⟩ := h.unlock_some hp hu
    have hp' := hp.unlock hu
    have hr := h'.live r (by simp [DefragLists.live])
    have hsize := hr.first_size
    rw [hstate]
    simp only [hr.packet, h'.ipv6, hsize]
    generalize lowpanDefragmenterCopyFragment frame hdrs (t'.ipv6.packets r.packet)
      (DefragLists.firstFragSize r) = copied
    obtain ⟨res, content⟩ := copied
    have hw := h'.write r.packet content
    have hpw := hp'.write r.packet content
    rw [h'.ipv6] at hw
    cases res with
    | none => exact ⟨rfl, hw.destroy hpw⟩
    | some res =>
      obtain ⟨len, identical⟩ := res
      obtain ⟨hans, hm⟩ := (hw.fragMem hpw).merge hdrs.frag.offset (UInt16.ofNat len) identical
      have hmerged := hw.withFrags hpw hm
      have hpm := hpw.merge hdrs.frag.offset (UInt16.ofNat len) identical
      dsimp only at hans hmerged hpm ⊢
      revert hans hmerged hpm
      generalize mergeFragEntries r.frags t'.freeFragSpecs hdrs.frag.offset (UInt16.ofNat len)
        identical = m
      generalize lowpanDefragmenterMergeFragment _ r.id hdrs.frag.offset (UInt16.ofNat len)
        identical = s
      obtain ⟨ok, frags, free⟩ := m
      obtain ⟨ok', state''⟩ := s
      rintro (rfl : ok' = ok) hmerged hpm
      cases ok' with
      | false => exact ⟨rfl, hmerged.destroy hpm⟩
      | true =>
        have hcomplete := (hmerged.live { r with frags := frags }
          (by simp [DefragLists.live])).isComplete_iff hdrs.frag.size
        simp only [Bool.true_eq_false, if_false]
        by_cases hdone : DefragLists.isComplete frags hdrs.frag.size = true
        · rw [if_pos hdone, if_pos (hcomplete.mp hdone)]
          exact ⟨rfl, hmerged.handUp hpm⟩
        · rw [if_neg hdone, if_neg fun hc => hdone (hcomplete.mpr hc)]
          exact ⟨rfl, hmerged.pushCurrent hpm⟩


/-- The packets before the current one are kept, and the ones that took too long are destroyed. -/
theorem timeoutLoop_refines (time timeout : UInt32) (kept rest : List Reassembly) {fuel : ℕ}
    (hfuel : rest.length ≤ fuel)
    (h : state.Represents { t with current := kept ++ rest } [] numPackets numFragSpecs)
    (hp : ({ t with current := kept ++ rest } : DefragLists).Partition [] handed numPackets
      numFragSpecs) :
    (lowpanTimeoutLoop time timeout fuel state (kept.map Reassembly.id).getLast?
      (rest.map Reassembly.id).head?).Represents
      { (rest.filter fun r => !decide (time - r.defragStartTime < timeout)).foldl
          DefragLists.destroy t with
        current := kept ++ rest.filter fun r => decide (time - r.defragStartTime < timeout) } []
      numPackets numFragSpecs := by
  induction rest generalizing state t kept fuel with
  | nil =>
    rw [List.map_nil, List.head?_nil, lowpanTimeoutLoop]
    · exact h
    · simp
  | cons r rest ih =>
    obtain ⟨fuel, rfl⟩ : ∃ n, fuel = n + 1 :=
      ⟨fuel - 1, by rw [List.length_cons] at hfuel; omega⟩
    have hseg := h.current
    rw [List.map_append, List.map_cons] at hseg
    have hnext : state.nextPacket r.id = (rest.map Reassembly.id).head? := hseg.behind.eq_head?
    have hr := h.live r (by simp [DefragLists.live])
    simp only [List.map_cons, List.head?_cons, lowpanTimeoutLoop, hr.packet]
    by_cases hfresh : time - r.defragStartTime < timeout
    · have hkept : (kept ++ [r]) ++ rest = kept ++ r :: rest := by simp
      have hrest := ih (kept ++ [r]) (by simpa using hfuel) (hkept ▸ h) (hkept ▸ hp)
      simp only [hnext, if_pos hfresh]
      simpa [hfresh] using hrest
    · have htake := h.takeCurrent hp rfl
      have hpt : ({ t with current := kept ++ rest } : DefragLists).Partition [r] handed numPackets
          numFragSpecs := by
        refine hp.of_perm ?_ rfl rfl rfl rfl
        rw [List.perm_iff_count]
        intro x
        simp only [DefragLists.live, List.count_append, List.count_cons, List.count_nil]
        omega
      have hrest := @ih _ (t.destroy r) kept fuel (by simpa using hfuel) (htake.destroy hpt)
        hpt.destroy
      rw [hnext] at hrest
      rw [List.filter_cons_of_neg (by simp [hfresh]), List.filter_cons_of_pos (by simp [hfresh])]
      simp only [hnext, if_neg hfresh, List.foldl_cons]
      cases hlast : (kept.map Reassembly.id).getLast? with
      | none =>
        rw [hlast] at hrest
        exact hrest
      | some prev =>
        rw [hlast] at hrest
        exact hrest

theorem periodicTimeout_refines (h : state.Represents t [] numPackets numFragSpecs)
    (hp : t.Partition [] handed numPackets numFragSpecs) (time timeout : UInt32) :
    let r := lowpanDefragmenterPeriodicTimeout state time timeout
    let m := t.periodicTimeout time timeout
    r.1 = m.1 ∧ r.2.Represents m.2 [] numPackets numFragSpecs := by
  have hlen := hp.length_ids
  rw [lowpanDefragmenterPeriodicTimeout, DefragLists.periodicTimeout, h.locked.eq_head?,
    h.current.eq_head?]
  cases hlocked : t.locked with
  | cons r rest => exact ⟨rfl, h⟩
  | nil =>
    simp only [List.map_nil, List.head?_nil, Option.isSome_none, Bool.false_eq_true, if_false,
      ne_eq, not_true, true_and]
    exact timeoutLoop_refines time timeout [] t.current (by rw [h.numPackets]; omega) h hp

theorem destroyFragSpecs_setCurrent (state : LowpanDefragGlobalState) (p : ℕ) (c : Option ℕ) :
    lowpanDefragmenterDestroyFragSpecsOfPacket { state with currentPackets := c } p =
      { lowpanDefragmenterDestroyFragSpecsOfPacket state p with currentPackets := c } := by
  have hnext : ({ state with currentPackets := c } : LowpanDefragGlobalState).nextFragSpec =
      state.nextFragSpec := rfl
  rw [lowpanDefragmenterDestroyFragSpecsOfPacket, lowpanDefragmenterDestroyFragSpecsOfPacket, hnext]
  cases state.nextFragSpec (.first p) <;> rfl

/-- Destroying a packet does not touch the list of current packets. -/
theorem destroyDefragPacket_setCurrent (state : LowpanDefragGlobalState) (p : ℕ) (c : Option ℕ) :
    lowpanDefragmenterDestroyDefragPacket { state with currentPackets := c } p =
      { lowpanDefragmenterDestroyDefragPacket state p with currentPackets := c } := by
  rw [lowpanDefragmenterDestroyDefragPacket, lowpanDefragmenterDestroyDefragPacket]
  dsimp only
  cases (state.packets p).packet with
  | none =>
    dsimp only
    rw [destroyFragSpecs_setCurrent]
    rfl
  | some packet =>
    dsimp only
    have h := destroyFragSpecs_setCurrent ({ state with ipv6 := state.ipv6.free packet }.setPacket p
      { state.packets p with packet := none }) p c
    exact congrArg (fun s : LowpanDefragGlobalState =>
      { s.setNextPacket p s.freePackets with freePackets := some p }) h

/-- The loop destroys the packets of the list, whose head it leaves behind. -/
theorem terminateLoop_refines (rest : List Reassembly) {fuel : ℕ} (hfuel : rest.length ≤ fuel)
    (h : { state with currentPackets := (rest.map Reassembly.id).head? }.Represents
      { t with current := rest } [] numPackets numFragSpecs)
    (hp : ({ t with current := rest } : DefragLists).Partition [] handed numPackets numFragSpecs) :
    { lowpanTerminateLoop fuel state (rest.map Reassembly.id).head? with
      currentPackets := none }.Represents
      { rest.foldl DefragLists.destroy t with current := [] } [] numPackets numFragSpecs := by
  induction rest generalizing state t fuel with
  | nil =>
    rw [List.map_nil, List.head?_nil, lowpanTerminateLoop]
    · exact h
    · simp
  | cons r rest ih =>
    obtain ⟨fuel, rfl⟩ : ∃ n, fuel = n + 1 :=
      ⟨fuel - 1, by rw [List.length_cons] at hfuel; omega⟩
    have hnext : state.nextPacket r.id = (rest.map Reassembly.id).head? :=
      h.current.2.eq_head?
    have hsplit : r :: rest = [] ++ r :: rest := rfl
    have htake := h.takeCurrent hp hsplit
    have hpt : ({ t with current := rest } : DefragLists).Partition [r] handed numPackets
        numFragSpecs := by
      refine hp.of_perm ?_ rfl rfl rfl rfl
      rw [List.perm_iff_count]
      intro x
      simp only [DefragLists.live, List.count_append, List.count_cons, List.count_nil]
      omega
    have hdestroy := htake.destroy hpt
    simp only [List.map_cons, List.head?_cons, lowpanTerminateLoop, List.foldl_cons, hnext]
    refine @ih _ (t.destroy r) fuel (by simpa using hfuel) ?_ hpt.destroy
    rw [← destroyDefragPacket_setCurrent, ← hnext]
    exact hdestroy

theorem terminateAll_refines (h : state.Represents t [] numPackets numFragSpecs)
    (hp : t.Partition [] handed numPackets numFragSpecs) :
    let r := lowpanDefragmenterTerminateAllReassemblies state
    let m := t.terminateAll
    r.1 = m.1 ∧ r.2.Represents m.2 [] numPackets numFragSpecs := by
  have hlen := hp.length_ids
  have hcurrent := h.current.eq_head?
  rw [lowpanDefragmenterTerminateAllReassemblies, DefragLists.terminateAll, h.locked.eq_head?,
    hcurrent]
  cases hlocked : t.locked with
  | cons r rest => exact ⟨rfl, h⟩
  | nil =>
    simp only [List.map_nil, List.head?_nil, Option.isSome_none, Bool.false_eq_true, if_false,
      ne_eq, not_true, true_and]
    refine terminateLoop_refines t.current (by rw [h.numPackets]; omega) ?_ hp
    rw [← hcurrent]
    exact h

end Operations

end LowpanDefragGlobalState

end Whip6
