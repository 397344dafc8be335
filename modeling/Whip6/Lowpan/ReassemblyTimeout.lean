import Whip6.Lowpan.Session

/-!
# The timeout of reassemblies

`lowpanDefragmenterPeriodicTimeout` in the memory of the defragmenter: which packet states leave
the current list, what is released with them, and that nothing else changes
(`lowpanDefragmenter_periodicTimeout`).
-/

namespace Whip6

open Lib

namespace LowpanDefragGlobalState

/-! ## The lists in memory -/

/-- The packet states on the free list. -/
def freeList (state : LowpanDefragGlobalState) : List ℕ :=
  walk state.nextPacket state.numPackets state.freePackets

/-- The additional fragment specifications of a packet state. -/
def additionalSpecs (state : LowpanDefragGlobalState) (p : ℕ) : List FragSpecPtr :=
  walk state.nextFragSpec state.numFragSpecs (state.nextFragSpec (.first p))

/-- The additional fragment specifications on the free list. -/
def freeSpecList (state : LowpanDefragGlobalState) : List FragSpecPtr :=
  walk state.nextFragSpec state.numFragSpecs state.freeAdditionalFragSpecs

/-- The reassembly of a packet state takes too long. -/
def isExpired (state : LowpanDefragGlobalState) (currTimeInMs reassemblyTimeoutInMs : UInt32)
    (p : ℕ) : Bool :=
  decide (reassemblyTimeoutInMs ≤ currTimeInMs - (state.packets p).defragStartTime)

/-- `state'` is `state` without the current packet states for which `expired` holds: these, their
additional specifications and their IPv6 packets are released, and the other ones are left as they
were, apart from the links between them. -/
structure Without (state state' : LowpanDefragGlobalState) (expired : ℕ → Bool) : Prop where
  current : state'.currentList = state.currentList.filter fun p => !expired p
  locked : state'.lockedList = state.lockedList
  free : state'.freeList = (state.currentList.filter expired).reverse ++ state.freeList
  freeSpecs : state'.freeSpecList =
    (state.currentList.filter expired).reverse.flatMap state.additionalSpecs ++ state.freeSpecList
  freed : state'.ipv6.freed.map some =
    (state.currentList.filter expired).reverse.map (fun p => (state.packets p).packet) ++
      state.ipv6.freed.map some
  ipv6 : state'.ipv6.packets = state.ipv6.packets ∧
    state'.ipv6.numAllocated = state.ipv6.numAllocated
  packet : ∀ p ∈ state'.currentList,
    state'.packets p = { state.packets p with next := state'.nextPacket p }
  additional : ∀ p ∈ state'.currentList, state'.additionalSpecs p = state.additionalSpecs p
  fragSpec : ∀ p ∈ state'.currentList, ∀ f ∈ FragSpecPtr.first p :: state.additionalSpecs p,
    state'.fragSpecs f = state.fragSpecs f

namespace Represents

variable {state state' : LowpanDefragGlobalState} {t : DefragLists} {handed : List ℕ}
  {numPackets numFragSpecs : ℕ} {r : Reassembly}

theorem freeList_eq (h : state.Represents t [] numPackets numFragSpecs)
    (hp : t.Partition [] handed numPackets numFragSpecs) : state.freeList = t.free := by
  have hlen := hp.length_ids
  apply h.free.walk_eq
  rw [h.numPackets]
  omega

theorem freeSpecList_eq (h : state.Represents t [] numPackets numFragSpecs)
    (hp : t.Partition [] handed numPackets numFragSpecs) :
    state.freeSpecList = t.freeFragSpecs := by
  have hlen := hp.fragSpecs.length_eq
  rw [List.length_append, List.length_map, List.length_range] at hlen
  apply h.freeFragSpecs.walk_eq
  rw [h.numFragSpecs]
  omega

theorem additionalSpecs_eq (h : state.Represents t [] numPackets numFragSpecs)
    (hp : t.Partition [] handed numPackets numFragSpecs) (hr : r ∈ t.live []) :
    state.additionalSpecs r.id = r.additionalPtrs := by
  have hchain := (h.live r hr).chain
  rw [hp.ptrs_eq hr] at hchain
  have hlen := hp.fragSpecs.length_eq
  have hle : r.additionalPtrs.length ≤
      ((t.live []).flatMap Reassembly.additionalPtrs).length :=
    (List.sublist_flatten_of_mem (List.mem_map_of_mem hr)).length_le
  rw [List.length_append, List.length_map, List.length_range] at hlen
  apply hchain.2.walk_eq
  rw [h.numFragSpecs]
  omega

end Represents

/-- A reassembly that two memories hold looks alike in both, apart from its link. -/
theorem HoldsReassembly.packet_eq {state state' : LowpanDefragGlobalState} {r : Reassembly}
    (h : state.HoldsReassembly r) (h' : state'.HoldsReassembly r) :
    state'.packets r.id = { state.packets r.id with next := state'.nextPacket r.id } := by
  rw [h.packet]
  exact h'.packet

theorem HoldsReassembly.fragSpec_eq {state state' : LowpanDefragGlobalState} {r : Reassembly}
    (h : state.HoldsReassembly r) (h' : state'.HoldsReassembly r) {f : FragSpecPtr}
    (hf : f ∈ r.ptrs) : state'.fragSpecs f = state.fragSpecs f := by
  have hnext : state'.nextFragSpec f = state.nextFragSpec f := h.chain.next_eq h'.chain hf
  obtain ⟨e, he, rfl⟩ := List.mem_map.mp hf
  obtain ⟨hoff, hsize⟩ := h.frags e he
  obtain ⟨hoff', hsize'⟩ := h'.frags e he
  rw [LowpanDefragFragSpec.mk.injEq]
  exact ⟨hoff'.trans hoff.symm, hsize'.trans hsize.symm, hnext⟩

end LowpanDefragGlobalState

/-! ## Destroying several packets -/

theorem DefragLists.foldl_destroy (rs : List Reassembly) (t : DefragLists) :
    rs.foldl DefragLists.destroy t =
      { t with
        free := rs.reverse.map Reassembly.id ++ t.free
        freeFragSpecs := rs.reverse.flatMap Reassembly.additionalPtrs ++ t.freeFragSpecs
        ipv6 := { t.ipv6 with freed := rs.reverse.map Reassembly.packet ++ t.ipv6.freed } } := by
  induction rs generalizing t with
  | nil => rfl
  | cons r rs ih =>
    rw [List.foldl_cons, ih]
    simp [DefragLists.destroy, DefragLists.release, Ipv6PacketHeap.free]

variable {state : LowpanDefragGlobalState} {t : DefragLists} {handed : List ℕ}
  {numPackets numFragSpecs : ℕ}

theorem isExpired_eq {r : Reassembly} (h : state.HoldsReassembly r) (now timeout : UInt32) :
    state.isExpired now timeout r.id = !decide (now - r.defragStartTime < timeout) := by
  rw [LowpanDefragGlobalState.isExpired, h.packet, ← decide_not]
  simp only [UInt32.not_lt]

/-- The two halves of the current list, in memory. -/
theorem filter_isExpired (h : state.Represents t [] numPackets numFragSpecs)
    (hp : t.Partition [] handed numPackets numFragSpecs) (now timeout : UInt32) :
    (state.currentList.filter (state.isExpired now timeout) =
        (t.current.filter fun r => !decide (now - r.defragStartTime < timeout)).map Reassembly.id) ∧
      (state.currentList.filter fun p => !state.isExpired now timeout p) =
        (t.current.filter fun r => decide (now - r.defragStartTime < timeout)).map
          Reassembly.id := by
  have heq : ∀ r ∈ t.current, state.isExpired now timeout r.id =
      !decide (now - r.defragStartTime < timeout) :=
    fun r hr => isExpired_eq (h.live r (by simp [DefragLists.live, hr])) now timeout
  rw [h.currentList_eq hp, List.filter_map, List.filter_map]
  constructor
  · congr 1
    exact List.filter_congr heq
  · congr 1
    refine List.filter_congr fun r hr => ?_
    simp only [Function.comp_apply, heq r hr, Bool.not_not]

/-- The timeout of a state whose lists are known. -/
theorem periodicTimeout_without {state : LowpanDefragGlobalState}
    (h : state.Represents t [] numPackets numFragSpecs)
    (hp : t.Partition [] handed numPackets numFragSpecs) (hlocked : t.locked = [])
    (now timeout : UInt32) :
    (lowpanDefragmenterPeriodicTimeout state now timeout).1 = .noError ∧
      state.Without (lowpanDefragmenterPeriodicTimeout state now timeout).2
        (state.isExpired now timeout) := by
  obtain ⟨hres, h'⟩ := LowpanDefragGlobalState.periodicTimeout_refines h hp now timeout
  have hp' := DefragLists.partition_periodicTimeout hp now timeout
  obtain ⟨hexp, hkept⟩ := filter_isExpired h hp now timeout
  generalize hs' : (lowpanDefragmenterPeriodicTimeout state now timeout).2 = state' at *
  have hm : t.periodicTimeout now timeout = (.noError,
      { (t.current.filter fun r => !decide (now - r.defragStartTime < timeout)).foldl
          DefragLists.destroy t with
        current := t.current.filter fun r => decide (now - r.defragStartTime < timeout) }) := by
    rw [DefragLists.periodicTimeout, if_neg (not_not.mpr hlocked)]
  rw [hm, DefragLists.foldl_destroy] at h' hp'
  rw [hm] at hres
  generalize hx : (t.current.filter fun r => !decide (now - r.defragStartTime < timeout)) =
    expired at *
  have hcur' := h'.currentList_eq hp'
  -- A packet state that stays on the list holds the same reassembly before and after.
  have hsurvivor : ∀ p ∈ state'.currentList, ∃ r, r.id = p ∧ r ∈ t.live [] ∧
      state.HoldsReassembly r ∧ state'.HoldsReassembly r ∧
      state'.additionalSpecs r.id = r.additionalPtrs := by
    intro p hpc
    rw [hcur'] at hpc
    obtain ⟨r, hr, rfl⟩ := List.mem_map.mp hpc
    have hr' : r ∈ t.current := List.mem_of_mem_filter hr
    have hlive : r ∈ t.live [] := by simp [DefragLists.live, hr']
    have hlive' : r ∈ DefragLists.live { t with
        current := t.current.filter fun r => decide (now - r.defragStartTime < timeout) } [] := by
      simp only [DefragLists.live, List.append_nil, List.mem_append]
      exact Or.inl hr
    exact ⟨r, rfl, hlive, h.live r hlive, h'.live r hlive', h'.additionalSpecs_eq hp' hlive'⟩
  have hlive : ∀ r ∈ expired, r ∈ t.live [] := by
    intro r hr
    rw [← hx] at hr
    simp [DefragLists.live, List.mem_of_mem_filter hr]
  refine ⟨hres, ?_⟩
  refine
    { current := ?_
      locked := ?_
      free := ?_
      freeSpecs := ?_
      freed := ?_
      ipv6 := ?_
      packet := ?_
      additional := ?_
      fragSpec := ?_ }
  · rw [hcur', hkept]
  · rw [h'.lockedList_eq hp', h.lockedList_eq hp]
  · rw [h'.freeList_eq hp', h.freeList_eq hp, hexp, List.map_reverse]
  · rw [h'.freeSpecList_eq hp', h.freeSpecList_eq hp, hexp, ← List.map_reverse, List.flatMap_map]
    exact congrArg (· ++ t.freeFragSpecs) (List.flatMap_congr fun r hr =>
      h.additionalSpecs_eq hp (hlive r (List.mem_reverse.mp hr))).symm
  · rw [h'.ipv6, h.ipv6, hexp, ← List.map_reverse, List.map_map, List.map_append, List.map_map]
    congr 1
    refine List.map_congr_left fun r hr => ?_
    simp only [Function.comp_apply, (h.live r (hlive r (List.mem_reverse.mp hr))).packet]
  · rw [h'.ipv6, h.ipv6]
    exact ⟨rfl, rfl⟩
  · intro p hpc
    obtain ⟨r, rfl, -, hold, hold', -⟩ := hsurvivor p hpc
    exact hold.packet_eq hold'
  · intro p hpc
    obtain ⟨r, rfl, hlive, -, -, hspecs⟩ := hsurvivor p hpc
    rw [hspecs, h.additionalSpecs_eq hp hlive]
  · intro p hpc f hf
    obtain ⟨r, rfl, hlive, hold, hold', -⟩ := hsurvivor p hpc
    rw [h.additionalSpecs_eq hp hlive, ← hp.ptrs_eq hlive] at hf
    exact hold.fragSpec_eq hold' hf

/-- In every state that any calls reach: with a packet locked the timeout is refused and changes
nothing; otherwise it takes exactly the current packets away whose reassembly takes too long, with
all that they hold. -/
theorem lowpanDefragmenter_periodicTimeout (memory : LowpanDefragGlobalState)
    (pktsArrLen fragSpecArrLen : ℕ) (calls : List LowpanDefragCall)
    (currTimeInMs reassemblyTimeoutInMs : UInt32) :
    let s := (lowpanDefragmenterRun memory pktsArrLen fragSpecArrLen calls).1
    let r := lowpanDefragmenterPeriodicTimeout s currTimeInMs reassemblyTimeoutInMs
    if s.lockedList ≠ [] then r = (.stateError, s)
    else r.1 = .noError ∧ s.Without r.2 (s.isExpired currTimeInMs reassemblyTimeoutInMs) := by
  obtain ⟨h, hp⟩ := @lowpanDefragmenterRun_refines memory pktsArrLen fragSpecArrLen calls
  dsimp only
  rw [h.lockedList_eq hp]
  generalize calls.foldl LowpanDefragCall.runLists
    (DefragLists.start memory pktsArrLen fragSpecArrLen) = t at *
  by_cases hlocked : t.locked = []
  · rw [if_neg (by simp [hlocked])]
    exact periodicTimeout_without h hp hlocked currTimeInMs reassemblyTimeoutInMs
  · rw [if_pos (by simpa using hlocked), lowpanDefragmenterPeriodicTimeout, h.locked.eq_head?,
      if_pos]
    cases ht : t.locked with
    | nil => exact absurd ht hlocked
    | cons r rest => rfl

end Whip6
