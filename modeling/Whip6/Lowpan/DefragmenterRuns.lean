import Whip6.Lowpan.DefragmenterRefinement

/-!
# Runs of the defragmenter

Any sequence of calls after the initialisation, with any frames, tokens and answers of the
allocators, keeps every packet state, every fragment specification and every IPv6 packet at exactly
one place (`lowpanDefragmenter_partition`).
-/

namespace Whip6

open Lib

/-! ## The initial state -/

theorem lowpanInitPacketsLoop_of_lt (left : ℕ) {ptr q : ℕ} (packets : ℕ → LowpanDefragPacketState)
    (hq : q < ptr) : lowpanInitPacketsLoop left ptr packets q = packets q := by
  induction left generalizing ptr packets with
  | zero => exact Function.update_of_ne (by omega) _ _
  | succ left ih =>
    rw [lowpanInitPacketsLoop, ih _ (by omega)]
    exact Function.update_of_ne (by omega) _ _

theorem seg_initPackets (left ptr : ℕ) (packets : ℕ → LowpanDefragPacketState) :
    Seg (fun p => (lowpanInitPacketsLoop left ptr packets p).next) (some ptr)
      (List.range' ptr (left + 1)) none := by
  induction left generalizing ptr packets with
  | zero =>
    refine ⟨rfl, ?_⟩
    simp [lowpanInitPacketsLoop]
  | succ left ih =>
    rw [List.range'_succ]
    refine ⟨rfl, ?_⟩
    have hptr : (lowpanInitPacketsLoop (left + 1) ptr packets ptr).next = some (ptr + 1) := by
      rw [lowpanInitPacketsLoop, lowpanInitPacketsLoop_of_lt left _ (by omega),
        Function.update_self]
    dsimp only
    rw [hptr]
    exact ih (ptr + 1) _

theorem lowpanInitFragSpecsLoop_of_lt (left : ℕ) {ptr q : ℕ}
    (fragSpecs : FragSpecPtr → LowpanDefragFragSpec) (hq : q < ptr) :
    lowpanInitFragSpecsLoop left ptr fragSpecs (.additional q) = fragSpecs (.additional q) := by
  have hne : ∀ i, q < i → FragSpecPtr.additional q ≠ .additional i := fun i hi heq =>
    absurd (FragSpecPtr.additional.inj heq) (by omega)
  induction left generalizing ptr fragSpecs with
  | zero => exact Function.update_of_ne (hne ptr hq) _ _
  | succ left ih =>
    rw [lowpanInitFragSpecsLoop, ih _ (by omega)]
    exact Function.update_of_ne (hne ptr hq) _ _

theorem seg_initFragSpecs (left ptr : ℕ) (fragSpecs : FragSpecPtr → LowpanDefragFragSpec) :
    Seg (fun f => (lowpanInitFragSpecsLoop left ptr fragSpecs f).next) (some (.additional ptr))
      ((List.range' ptr (left + 1)).map FragSpecPtr.additional) none := by
  induction left generalizing ptr fragSpecs with
  | zero =>
    refine ⟨rfl, ?_⟩
    simp [lowpanInitFragSpecsLoop]
  | succ left ih =>
    rw [List.range'_succ, List.map_cons]
    refine ⟨rfl, ?_⟩
    have hptr : (lowpanInitFragSpecsLoop (left + 1) ptr fragSpecs (.additional ptr)).next =
        some (.additional (ptr + 1)) := by
      rw [lowpanInitFragSpecsLoop, lowpanInitFragSpecsLoop_of_lt left _ (by omega),
        Function.update_self]
    dsimp only
    rw [hptr]
    exact ih (ptr + 1) _

/-- The state after the initialisation over a memory, with the IPv6 packets numbered from there
on. -/
def lowpanDefragmenterStart (memory : LowpanDefragGlobalState) (pktsArrLen fragSpecArrLen : ℕ) :
    LowpanDefragGlobalState :=
  lowpanDefragmenterInit
    { memory with ipv6 := { memory.ipv6 with numAllocated := 0, freed := [] } } pktsArrLen
    fragSpecArrLen

/-- The lists after the initialisation. -/
def DefragLists.start (memory : LowpanDefragGlobalState) (pktsArrLen fragSpecArrLen : ℕ) :
    DefragLists where
  current := []
  locked := []
  free := List.range pktsArrLen
  freeFragSpecs := (List.range fragSpecArrLen).map FragSpecPtr.additional
  ipv6 := { memory.ipv6 with numAllocated := 0, freed := [] }

variable (memory : LowpanDefragGlobalState) (pktsArrLen fragSpecArrLen : ℕ)

theorem partition_start :
    (DefragLists.start memory pktsArrLen fragSpecArrLen).Partition [] [] pktsArrLen
      fragSpecArrLen :=
  ⟨List.Perm.refl _, List.Perm.refl _, List.Perm.refl _, fun _ hr => absurd hr (by simp
    [DefragLists.live, DefragLists.start])⟩

theorem start_represents :
    (lowpanDefragmenterStart memory pktsArrLen fragSpecArrLen).Represents
      (DefragLists.start memory pktsArrLen fragSpecArrLen) [] pktsArrLen fragSpecArrLen where
  current := rfl
  locked := rfl
  free := by
    cases pktsArrLen with
    | zero => exact rfl
    | succ n =>
      have hseg := seg_initPackets n 0 memory.packets
      rw [← List.range_eq_range'] at hseg
      exact hseg
  freeFragSpecs := by
    cases fragSpecArrLen with
    | zero => exact rfl
    | succ n =>
      have hseg := seg_initFragSpecs n 0 memory.fragSpecs
      rw [← List.range_eq_range'] at hseg
      exact hseg
  live := fun _ hr => absurd hr (by simp [DefragLists.live, DefragLists.start])
  ipv6 := rfl
  numPackets := rfl
  numFragSpecs := rfl

/-! ## Calls -/

/-- A call of the defragmenter, with what it is given from outside. -/
inductive LowpanDefragCall
  | find (frame : Ieee154DframeInfo) (hdrs : LowpanUnpackedFrameHeaders) (time : UInt32)
      (answers : Ipv6AllocAnswers)
  | pass (frame : Ieee154DframeInfo) (hdrs : LowpanUnpackedFrameHeaders) (locked : Option ℕ)
  | unlock (locked : Option ℕ)
  | timeout (time limit : UInt32)
  | terminate

/-- One call: the state after it, and the IPv6 packets handed up so far. -/
def LowpanDefragCall.run (s : LowpanDefragGlobalState × List ℕ) :
    LowpanDefragCall → LowpanDefragGlobalState × List ℕ
  | .find frame hdrs time answers =>
    ((lowpanDefragmenterFindExistingOrAllocateNewPacketAndLockIt s.1 frame hdrs time answers).2, s.2)
  | .pass frame hdrs locked =>
    let r := lowpanDefragmenterPassFrameWithIpv6PacketFragment s.1 frame hdrs locked
    (r.2, r.1.toList ++ s.2)
  | .unlock locked => ((lowpanDefragmenterUnlockPacket s.1 locked).2, s.2)
  | .timeout time limit => ((lowpanDefragmenterPeriodicTimeout s.1 time limit).2, s.2)
  | .terminate => ((lowpanDefragmenterTerminateAllReassemblies s.1).2, s.2)

/-- The same call on the lists. -/
def LowpanDefragCall.runLists (t : DefragLists) : LowpanDefragCall → DefragLists
  | .find frame hdrs time answers => (t.findAndLock frame hdrs time answers).2
  | .pass frame hdrs locked => (t.passFrame frame hdrs locked).2
  | .unlock locked => (t.unlockPacket locked).2
  | .timeout time limit => (t.periodicTimeout time limit).2
  | .terminate => t.terminateAll.2

/-- A sequence of calls after the initialisation. -/
def lowpanDefragmenterRun (calls : List LowpanDefragCall) : LowpanDefragGlobalState × List ℕ :=
  calls.foldl LowpanDefragCall.run (lowpanDefragmenterStart memory pktsArrLen fragSpecArrLen, [])

variable {memory pktsArrLen fragSpecArrLen}

/-- One call refines the call on the lists, and keeps the partition. -/
theorem LowpanDefragCall.run_refines (call : LowpanDefragCall)
    {s : LowpanDefragGlobalState × List ℕ} {t : DefragLists}
    (h : s.1.Represents t [] pktsArrLen fragSpecArrLen)
    (hp : t.Partition [] s.2 pktsArrLen fragSpecArrLen) :
    (call.run s).1.Represents (call.runLists t) [] pktsArrLen fragSpecArrLen ∧
      (call.runLists t).Partition [] (call.run s).2 pktsArrLen fragSpecArrLen := by
  cases call with
  | find frame hdrs time answers =>
    exact ⟨(LowpanDefragGlobalState.findAndLock_refines h hp frame hdrs time answers).2,
      DefragLists.partition_findAndLock hp frame hdrs time answers⟩
  | pass frame hdrs locked =>
    obtain ⟨hans, hrefines⟩ := LowpanDefragGlobalState.passFrame_refines h hp frame hdrs locked
    refine ⟨hrefines, ?_⟩
    rw [LowpanDefragCall.run, hans]
    exact DefragLists.partition_passFrame hp frame hdrs locked
  | unlock locked =>
    exact ⟨(LowpanDefragGlobalState.unlockPacket_refines h hp locked).2,
      DefragLists.partition_unlockPacket hp locked⟩
  | timeout time limit =>
    exact ⟨(LowpanDefragGlobalState.periodicTimeout_refines h hp time limit).2,
      DefragLists.partition_periodicTimeout hp time limit⟩
  | terminate =>
    exact ⟨(LowpanDefragGlobalState.terminateAll_refines h hp).2,
      DefragLists.partition_terminateAll hp⟩

/-- The lists stay a partition over a whole run, and the memory represents them. -/
theorem lowpanDefragmenterRun_refines (calls : List LowpanDefragCall) :
    let s := lowpanDefragmenterRun memory pktsArrLen fragSpecArrLen calls
    let t := calls.foldl LowpanDefragCall.runLists
      (DefragLists.start memory pktsArrLen fragSpecArrLen)
    s.1.Represents t [] pktsArrLen fragSpecArrLen ∧
      t.Partition [] s.2 pktsArrLen fragSpecArrLen := by
  induction calls using List.reverseRecOn with
  | nil =>
    exact ⟨start_represents memory pktsArrLen fragSpecArrLen,
      partition_start memory pktsArrLen fragSpecArrLen⟩
  | append_singleton calls call ih =>
    simp only [lowpanDefragmenterRun, List.foldl_append, List.foldl_cons, List.foldl_nil]
    exact call.run_refines ih.1 ih.2

/-! ## The partition in memory -/

/-- Every packet state is on exactly one of the three lists, every additional fragment specification
on the free list or on the list of one live packet, and every IPv6 packet allocated so far belongs
to one live packet, was freed, or was handed up.  `specs` are the lists of the live packets. -/
structure LowpanDefragGlobalState.ResourcePartition (state : LowpanDefragGlobalState)
    (handed current locked free : List ℕ) (specs : List (List FragSpecPtr))
    (freeFragSpecs : List FragSpecPtr) : Prop where
  seg_current : Seg state.nextPacket state.currentPackets current none
  seg_locked : Seg state.nextPacket state.lockedPackets locked none
  seg_free : Seg state.nextPacket state.freePackets free none
  packets_perm : (current ++ locked ++ free).Perm (List.range state.numPackets)
  seg_specs : List.Forall₂
    (fun p ptrs => Seg state.nextFragSpec (state.nextFragSpec (.first p)) ptrs none)
    (current ++ locked) specs
  seg_freeFragSpecs : Seg state.nextFragSpec state.freeAdditionalFragSpecs freeFragSpecs none
  fragSpecs_perm : (specs.flatten ++ freeFragSpecs).Perm
    ((List.range state.numFragSpecs).map FragSpecPtr.additional)
  ipv6_perm : ((current ++ locked).map (fun p => (state.packets p).packet) ++
      (state.ipv6.freed ++ handed).map some).Perm ((List.range state.ipv6.numAllocated).map some)
  numAllocated_eq : state.ipv6.numAllocated =
    (current ++ locked).length + state.ipv6.freed.length + handed.length

theorem resourcePartition_of_represents {state : LowpanDefragGlobalState} {t : DefragLists}
    {handed : List ℕ} (h : state.Represents t [] pktsArrLen fragSpecArrLen)
    (hp : t.Partition [] handed pktsArrLen fragSpecArrLen) :
    state.ResourcePartition handed (t.current.map Reassembly.id) (t.locked.map Reassembly.id) t.free
      ((t.current ++ t.locked).map Reassembly.additionalPtrs) t.freeFragSpecs := by
  have hlive : t.live [] = t.current ++ t.locked := List.append_nil _
  have hpackets := hp.packets
  have hfragSpecs := hp.fragSpecs
  have hipv6 := hp.ipv6
  rw [hlive] at hpackets hfragSpecs hipv6
  have hids : t.current.map Reassembly.id ++ t.locked.map Reassembly.id =
      (t.current ++ t.locked).map Reassembly.id := List.map_append.symm
  refine
    { seg_current := h.current
      seg_locked := h.locked
      seg_free := h.free
      packets_perm := ?_
      seg_specs := ?_
      seg_freeFragSpecs := h.freeFragSpecs
      fragSpecs_perm := ?_
      ipv6_perm := ?_
      numAllocated_eq := ?_ }
  · rw [hids, h.numPackets]
    exact hpackets
  · rw [hids, List.forall₂_map_left_iff, List.forall₂_map_right_iff, List.forall₂_same]
    intro r hr
    have hr' := hlive ▸ hr
    have hchain := (h.live r hr').chain
    rw [hp.ptrs_eq hr'] at hchain
    exact hchain.2
  · rw [h.numFragSpecs, ← List.flatMap_def]
    exact hfragSpecs
  · have hpacket : (t.current ++ t.locked).map (fun r => (state.packets r.id).packet) =
        ((t.current ++ t.locked).map Reassembly.packet).map some := by
      rw [List.map_map]
      exact List.map_congr_left fun r hr => by
        rw [(h.live r (hlive ▸ hr)).packet]
        rfl
    rw [hids, List.map_map, h.ipv6, Function.comp_def, hpacket, ← List.map_append,
      ← List.append_assoc]
    exact hipv6.map some
  · have hlen := hipv6.length_eq
    simp only [List.length_append, List.length_map, List.length_range] at hlen ⊢
    rw [h.ipv6]
    omega

/-- A token that is not locked changes nothing. -/
theorem notLocked_eq {state : LowpanDefragGlobalState} {t : DefragLists} {handed : List ℕ}
    (h : state.Represents t [] pktsArrLen fragSpecArrLen)
    (hp : t.Partition [] handed pktsArrLen fragSpecArrLen) {token : Option ℕ}
    (htoken : token ∉ (t.locked.map Reassembly.id).map some) :
    (∀ frame hdrs,
      lowpanDefragmenterPassFrameWithIpv6PacketFragment state frame hdrs token = (none, state)) ∧
      lowpanDefragmenterUnlockPacket state token = (.argumentError, state) := by
  have hu : t.unlock token = none := by
    rw [DefragLists.unlock, Option.map_eq_none_iff, List.find?_eq_none]
    intro r hr heq
    refine htoken (List.mem_map.mpr ⟨r.id, List.mem_map_of_mem hr, ?_⟩)
    simpa using heq
  have hunlock := h.unlock_none hp hu
  refine ⟨fun frame hdrs => ?_, ?_⟩
  · rw [lowpanDefragmenterPassFrameWithIpv6PacketFragment, hunlock]
  · rw [lowpanDefragmenterUnlockPacket, hunlock]

/-- In every state that any calls reach, every packet state, every fragment specification and every
IPv6 packet is at exactly one place, and a token that is not locked changes nothing. -/
theorem lowpanDefragmenter_partition (memory : LowpanDefragGlobalState)
    (pktsArrLen fragSpecArrLen : ℕ) (calls : List LowpanDefragCall) :
    let s := lowpanDefragmenterRun memory pktsArrLen fragSpecArrLen calls
    s.1.numPackets = pktsArrLen ∧ s.1.numFragSpecs = fragSpecArrLen ∧
    ∃ current locked free specs freeFragSpecs,
      s.1.ResourcePartition s.2 current locked free specs freeFragSpecs ∧
      ∀ token, token ∉ locked.map some →
        (∀ frame hdrs,
          lowpanDefragmenterPassFrameWithIpv6PacketFragment s.1 frame hdrs token = (none, s.1)) ∧
        lowpanDefragmenterUnlockPacket s.1 token = (.argumentError, s.1) := by
  obtain ⟨h, hp⟩ := @lowpanDefragmenterRun_refines memory pktsArrLen fragSpecArrLen calls
  exact ⟨h.numPackets, h.numFragSpecs, _, _, _, _, _, resourcePartition_of_represents h hp,
    fun token htoken => notLocked_eq h hp htoken⟩

end Whip6
