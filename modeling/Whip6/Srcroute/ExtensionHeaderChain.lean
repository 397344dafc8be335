import Whip6.Ipv6.ExtensionHeader
import Whip6.Srcroute.ForwardingLaw

/-!
# Chains of extension headers

A processor of incoming packets keeps its place in three ways: the iterator over the payload, the
offset in the packet, and the pointer to the field that names the next header.  Generic headers are
skipped, a source routing header is fetched first and then processed.
-/

namespace Whip6

open Lib Ipv6PacketProcessingState

/-! ## Generic headers -/

/-- `ipv6ExtensionHeaderGenericFetchAndSkipHeaderIncoming` -/
def ipv6ExtensionHeaderGenericFetchAndSkipHeaderIncoming (state : Ipv6PacketProcessingState) :
    Ipv6PacketProcessingState :=
  let state := state.clearAction
  let r := iovIteratorReadAndMoveForward state.payload state.iter (some [0, 0]) 2
  let genericHdr := r.2.2.getD []
  let state := { state with iter := r.2.1 }
  if r.1 ≠ 2 ∨ iovIteratorIsValid state.iter = false then state.drop
  else
    let hdrLen := extensionHeaderGenericLength (genericHdr.getD 1 0)
    let numBytes := hdrLen.toNat - 2
    let moved := iovIteratorMoveForward state.payload state.iter numBytes
    let state := { state with iter := moved.2 }
    if numBytes ≠ moved.1 then state.drop
    else
      let state := state.designate ACTION_CONTINUE_PROCESSING_PACKET (genericHdr.getD 0 0)
      { state with
        icmpv6 := { state.icmpv6 with nextHdrFieldPointer := state.offset.toUInt32 }
        offset := state.offset + hdrLen }

/-! ## Passing a header -/

namespace Ipv6PacketProcessingState

variable (state : Ipv6PacketProcessingState)

/-- The place in the payload that the iterator has got to. -/
def place : ℕ := iovIterPos (iovLens state.payload) state.iter

/-- The iterator stands within the payload. -/
def IterWithin : Prop := IovIterWithin (iovLens state.payload) state.iter

/-- Where the extension header at the iterator ends. -/
def headerEnd : ℕ := extensionHeaderEnd state.payload.flatten state.place

theorem payload_iter (it : IovBlistIter) :
    ({ state with iter := it } : Ipv6PacketProcessingState).payload = state.payload := rfl

theorem action_designate (h : state.action = 0) {action : UInt8}
    (haction : action &&& ACTION_MASK = action) (nextHeader : UInt8) :
    (state.designate action nextHeader).action = action := by
  have hdist : (state.flagsAndAction ||| action) &&& ACTION_MASK =
      state.flagsAndAction &&& ACTION_MASK ||| action &&& ACTION_MASK := by
    rw [← UInt8.toBitVec_inj]
    exact BitVec.and_or_distrib_right
  rw [Ipv6PacketProcessingState.action, designate, hdist,
    show state.flagsAndAction &&& ACTION_MASK = 0 from h, haction]
  exact UInt8.zero_or

end Ipv6PacketProcessingState

/-- The header at the iterator is whole, and the processor has got past it: the next header is the
one that is stored in its first byte, and the pointer is the offset of this byte. -/
structure HeaderPassed (state state' : Ipv6PacketProcessingState) : Prop where
  payload : state'.payload = state.payload
  within : state'.IterWithin
  fits : state.headerEnd ≤ state.payload.flatten.length
  place : state'.place = state.headerEnd
  nextHeader : state'.nextHeader = state.payload.flatten.getD state.place 0
  offset : OffsetInStep state.offset state.place state'.offset state.headerEnd
  pointer : state'.icmpv6.nextHdrFieldPointer.toUInt16 = state.offset
  pointer_exact : state.offset.toNat + 8 < 2 ^ 16 →
    state'.icmpv6.nextHdrFieldPointer = state.offset.toUInt32

/-- A generic header is passed when it is whole; otherwise the packet is dropped. -/
theorem genericFetchAndSkip_spec {state : Ipv6PacketProcessingState} (h : state.IterWithin) :
    let r := ipv6ExtensionHeaderGenericFetchAndSkipHeaderIncoming state
    if state.headerEnd ≤ state.payload.flatten.length then
      HeaderPassed state r ∧ r.action = ACTION_CONTINUE_PROCESSING_PACKET
    else r.action = ACTION_DROP_PACKET := by
  intro r
  have hclear := action_clearAction state
  have hpayload : state.clearAction.payload = state.payload := rfl
  have hiter : state.clearAction.iter = state.iter := rfl
  split_ifs with hfits
  · obtain ⟨it₁, genericHdr, it₂, hread, hvalid, hmove, hnext, hend, hwithin, hplace⟩ :=
      skip_of_fits h hfits
    have hr : r = { state.clearAction.designate ACTION_CONTINUE_PROCESSING_PACKET
          (genericHdr.getD 0 0) with
        iter := it₂
        icmpv6 := { state.icmpv6 with
          packet := none, nextHdrFieldPointer := state.offset.toUInt32 }
        offset := state.offset + extensionHeaderGenericLength (genericHdr.getD 1 0) } := by
      change ipv6ExtensionHeaderGenericFetchAndSkipHeaderIncoming state = _
      unfold ipv6ExtensionHeaderGenericFetchAndSkipHeaderIncoming
      simp only [hpayload, hiter, hread, hvalid, Option.getD_some, ne_eq, not_true_eq_false,
        Bool.true_eq_false, or_self, if_false, payload_iter, hmove]
      rfl
    have hpointer : r.icmpv6.nextHdrFieldPointer = state.offset.toUInt32 := by rw [hr]
    refine ⟨⟨by rw [hr]; rfl, by rw [hr]; exact hwithin, hfits, by rw [hr]; exact hplace,
      by rw [hr]; exact hnext, ?_, by rw [hpointer]; exact UInt16.toUInt16_toUInt32 _,
      fun _ => hpointer⟩, ?_⟩
    · have hplace' : state.headerEnd = state.place +
          (extensionHeaderGenericLength (genericHdr.getD 1 0)).toNat := hend
      rw [hr, hplace']
      exact (OffsetInStep.refl state.offset state.place).add _
    · rw [hr]
      exact action_designate state.clearAction hclear (by decide) (genericHdr.getD 0 0)
  · have hcut := skip_of_truncated h (not_le.mp hfits)
    change (ipv6ExtensionHeaderGenericFetchAndSkipHeaderIncoming state).action = _
    unfold ipv6ExtensionHeaderGenericFetchAndSkipHeaderIncoming
    dsimp only
    split_ifs with hread hmoved
    · exact action_drop _ hclear
    · exact action_drop _ hclear
    · exact absurd hcut (not_or.mpr ⟨hread, hmoved⟩)

/-! ## Source routing headers -/

/-- The source routing header at a place of the payload. -/
def sourceRouteHdrAt (bytes : List UInt8) (p : ℕ) : SourceRouteHdr :=
  SourceRouteHdr.ofBytes ((bytes.drop p).take sourceRouteHdrSize)

/-- The header at the iterator of `state` is in the scratchpad of `state'`, and the iterator is
behind it. -/
structure HeaderInScratchpad (state state' : Ipv6PacketProcessingState) : Prop where
  payload : state'.payload = state.payload
  within : state'.IterWithin
  room : state.place + sourceRouteHdrSize ≤ state.payload.flatten.length
  place : state'.place = state.place + sourceRouteHdrSize
  hdr : state'.sourceRouteHdr = sourceRouteHdrAt state.payload.flatten state.place
  reserved : ipv6ExtensionHeaderSourceRouteCheckReserved
    (sourceRouteHdrAt state.payload.flatten state.place) = false
  offset : state'.offset = state.offset + sourceRouteHdrSize.toUInt16
  flags : state'.flagsAndAction = state.clearAction.flagsAndAction

/-- A source routing header is fetched, or the packet is dropped. -/
theorem fetchHeader_spec {state : Ipv6PacketProcessingState} (h : state.IterWithin) :
    let r := ipv6ExtensionHeaderSourceRouteFetchHeaderIncoming state
    r.action = ACTION_DROP_PACKET ∨ HeaderInScratchpad state r ∧ r.action = 0 := by
  intro r
  obtain ⟨hcount, hpos, -, hbuf⟩ := iovIteratorRead_within h state.sourceRouteHdr.toBytes
    sourceRouteHdrSize
  have hwithin := iovIteratorRead_stays h state.sourceRouteHdr.toBytes sourceRouteHdrSize
  change (ipv6ExtensionHeaderSourceRouteFetchHeaderIncoming state).action = _ ∨
    HeaderInScratchpad state (ipv6ExtensionHeaderSourceRouteFetchHeaderIncoming state) ∧
      (ipv6ExtensionHeaderSourceRouteFetchHeaderIncoming state).action = 0
  unfold ipv6ExtensionHeaderSourceRouteFetchHeaderIncoming
  dsimp only
  split_ifs with hfail
  · exact Or.inl (action_drop _ (action_clearAction state))
  · right
    simp only [ne_eq, not_or, not_not] at hfail
    obtain ⟨hread, -, hreserved⟩ := hfail
    have hread' : (iovIteratorReadAndMoveForward state.payload state.iter
        (some state.sourceRouteHdr.toBytes) sourceRouteHdrSize).1 = sourceRouteHdrSize := hread
    have hsize : sourceRouteHdrSize = 8 := rfl
    have hroom : state.place + sourceRouteHdrSize ≤ state.payload.flatten.length := by
      unfold place
      omega
    have hbytes : splice state.sourceRouteHdr.toBytes 0 ((state.payload.flatten.drop
        state.place).take sourceRouteHdrSize) =
        (state.payload.flatten.drop state.place).take sourceRouteHdrSize := by
      apply splice_all
      simp only [SourceRouteHdr.toBytes, List.length_append, List.length_cons, List.length_nil,
        Vector.length_toList, List.length_take, List.length_drop]
      omega
    have hhdr : SourceRouteHdr.ofBytes ((iovIteratorReadAndMoveForward state.payload state.iter
        (some state.sourceRouteHdr.toBytes) sourceRouteHdrSize).2.2.getD []) =
        sourceRouteHdrAt state.payload.flatten state.place := by
      rw [hbuf, Option.getD_some, sourceRouteHdrAt, ← hbytes]
      rfl
    refine ⟨⟨rfl, hwithin, hroom, hpos.trans (congrArg _ hread'), hhdr, ?_, rfl, rfl⟩,
      action_clearAction state⟩
    rw [← hhdr]
    exact Bool.eq_false_iff.mpr hreserved

/-- The segments of a fetched header are skipped when they are there; otherwise the packet is
dropped. -/
theorem skipAllSegments_spec {state : Ipv6PacketProcessingState} (h : state.IterWithin)
    (haction : state.action = 0) (headerLen : UInt16) :
    let r := (skipAllSegmentsAndDesignatePacketForFurtherProcessing state headerLen).2
    r.action = ACTION_DROP_PACKET ∨
      r.action = ACTION_CONTINUE_PROCESSING_PACKET ∧ r.payload = state.payload ∧ r.IterWithin ∧
      r.place = state.place + headerLen.toNat ∧ r.place ≤ state.payload.flatten.length ∧
      r.nextHeader = state.sourceRouteHdr.nextHdr ∧ r.offset = state.offset + headerLen ∧
      r.icmpv6.nextHdrFieldPointer = state.offset.toUInt32 - sourceRouteHdrSize.toUInt32 := by
  intro r
  obtain ⟨-, hnormal, hpos⟩ := iovIteratorMoveForward_spec h headerLen.toNat
  change (skipAllSegmentsAndDesignatePacketForFurtherProcessing state headerLen).2.action = _ ∨ _
  unfold r skipAllSegmentsAndDesignatePacketForFurtherProcessing
  dsimp only
  split_ifs with hmove
  · exact Or.inl (action_drop _ haction)
  · right
    have hplace := hpos.trans (congrArg _ (not_not.mp hmove))
    refine ⟨action_designate state haction (by decide) state.sourceRouteHdr.nextHdr, rfl,
      hnormal.within, hplace, hnormal.within.pos_le, rfl, rfl, rfl⟩

theorem toNat_le_of_sub_sub (a b c : UInt16) :
    a.toNat ≤ b.toNat + c.toNat + (a - b - c).toNat := by
  have ha := a.toNat_lt
  have hb := b.toNat_lt
  have hc := c.toNat_lt
  rw [UInt16.toNat_sub, UInt16.toNat_sub]
  omega

/-- A packet that is forwarded along its source route has a whole header: the octets of a segment
and the moves before and behind it add up to its length, or to that and `2 ^ 16`. -/
theorem setSegmentAddr_action {state : Ipv6PacketProcessingState} (h : state.IterWithin)
    (haction : state.action = 0) (segmentIndex numSegments : UInt8) (headerLen : UInt16) :
    let r := (setSegmentAddrAsDstAddrAndDesignatePacketForForwarding state segmentIndex
      numSegments headerLen).2
    r.action = ACTION_DROP_PACKET ∨
      r.action = ACTION_FINISH_PROCESSING_AND_FORWARD_PACKET ∧
        state.place + headerLen.toNat ≤ state.payload.flatten.length ∧
        ipv6AddrIsMulticast r.dstAddr = false := by
  intro r
  unfold r setSegmentAddrAsDstAddrAndDesignatePacketForForwarding
  dsimp only
  obtain ⟨hcount₁, hnormal₁, hpos₁⟩ := iovIteratorMoveForward_spec h
    (segmentOffset state.sourceRouteHdr segmentIndex).toNat
  generalize segmentOffset state.sourceRouteHdr segmentIndex = segOffset at *
  generalize numOctetsToElide state.sourceRouteHdr segmentIndex numSegments = elided at *
  split_ifs with hmulti hmove hread hmulti' hmove'
  · exact Or.inl (action_drop _ haction)
  · exact Or.inl (action_drop _ haction)
  · exact Or.inl (action_drop _ haction)
  · exact Or.inl (action_drop _ haction)
  · exact Or.inl (action_drop _ haction)
  · right
    rw [not_not] at hmove hread hmove'
    obtain ⟨-, hpos₂, -⟩ := iovIteratorRead_within hnormal₁.within (state.dstAddr.drop elided.toNat)
      (16 - elided).toNat
    have hwithin₂ := iovIteratorRead_stays hnormal₁.within (state.dstAddr.drop elided.toNat)
      (16 - elided).toNat
    obtain ⟨-, hnormal₃, hpos₃⟩ := iovIteratorMoveForward_spec hwithin₂
      (headerLen - segOffset - (16 - elided).toUInt16).toNat
    -- the three lengths add up to that of the header, modulo the word
    have hsum := toNat_le_of_sub_sub headerLen segOffset (16 - elided).toUInt16
    rw [UInt8.toNat_toUInt16] at hsum
    have hplace₂ := hpos₂.trans (congrArg _ hread)
    have hplace₃ := hpos₃.trans (congrArg _ hmove')
    have hle := le_of_eq_of_le hplace₃.symm hnormal₃.within.pos_le
    rw [hplace₂, hpos₁, hmove] at hle
    refine ⟨action_designate _ haction (by decide) WHIP6_IANA_IPV6_NO_NEXT_HEADER, ?_,
      Bool.eq_false_iff.mpr hmulti'⟩
    unfold place
    omega

theorem iovLens_setByte (l : IovBlist) (i o : ℕ) (b : UInt8) :
    iovLens (iovSetByte l i o b) = iovLens l := by
  apply List.ext_getElem?
  intro j
  simp only [iovLens, iovSetByte, List.getElem?_map, List.getElem?_modify]
  cases l[j]? with
  | none => rfl
  | some e => split_ifs <;> simp

/-- Storing the count of the segments left does not change how the payload is laid out. -/
theorem updateSegmentsLeft_frame {state : Ipv6PacketProcessingState} (haction : state.action = 0)
    (segmentsLeft : UInt8) :
    let r := updateSegmentsLeftOrDesignatePacketForDropping state segmentsLeft
    if r.1 ≠ 0 then r.2.action = ACTION_DROP_PACKET
    else r.2.action = 0 ∧ r.2.iter = state.iter ∧ iovLens r.2.payload = iovLens state.payload := by
  unfold updateSegmentsLeftOrDesignatePacketForDropping
  dsimp only
  by_cases hmove : (iovIteratorMoveBackward state.payload state.iter (sourceRouteHdrSize - 3)).1 =
      sourceRouteHdrSize - 3
  · rw [if_neg (not_not_intro hmove)]
    generalize (iovIteratorMoveBackward state.payload state.iter
      (sourceRouteHdrSize - 3)).2.currElem = currElem?
    cases currElem? with
    | none => exact ⟨haction, rfl, rfl⟩
    | some currElem => exact ⟨haction, rfl, iovLens_setByte state.payload currElem 0 segmentsLeft⟩
  · rw [if_pos hmove]
    exact action_drop state haction

/-- What the processing of a fetched header of a packet for the present node comes to. -/
theorem processHeader_spec (createPacketProto : ParameterProblemCreator)
    {state : Ipv6PacketProcessingState} (h : state.IterWithin)
    (hlocal : state.flagsAndAction &&& PRESENT_NODE_IS_DESTINATION ≠ 0) :
    let hdr := state.sourceRouteHdr
    let len := (ipv6ExtensionHeaderSourceRouteGetHeaderLength hdr).toNat
    let r := ipv6ExtensionHeaderSourceRouteProcessHeaderIncoming createPacketProto state
    r.action = ACTION_DROP_PACKET ∨
      state.place + len ≤ state.payload.flatten.length ∧
        (hdr.segmentsLeft = 0 ∧ r.action = ACTION_CONTINUE_PROCESSING_PACKET ∧
            r.payload = state.payload ∧ r.IterWithin ∧ r.place = state.place + len ∧
            r.nextHeader = hdr.nextHdr ∧
            r.offset = state.offset + ipv6ExtensionHeaderSourceRouteGetHeaderLength hdr ∧
            r.icmpv6.nextHdrFieldPointer = state.offset.toUInt32 - sourceRouteHdrSize.toUInt32 ∨
          hdr.segmentsLeft ≠ 0 ∧ r.action = ACTION_FINISH_PROCESSING_AND_FORWARD_PACKET ∧
            hdr.routingType = WHIP6_IPV6_EXTENSION_HEADER_SOURCE_ROUTE_SUPPORTED_ROUTING_TYPE ∧
            hdr.segmentsLeft ≤ ipv6ExtensionHeaderSourceRouteNumSegments hdr ∧
            ipv6AddrIsMulticast r.dstAddr = false) := by
  intro hdr len r
  have hclear := action_clearAction state
  have hlocal' : state.clearAction.flagsAndAction &&& PRESENT_NODE_IS_DESTINATION ≠ 0 := by
    rw [clearAction, clearAction_flag]
    exact hlocal
  have hone : ¬ (1 : UInt8) = 0 := by decide
  by_cases hleft : hdr.segmentsLeft = 0
  · have hr : r = (skipAllSegmentsAndDesignatePacketForFurtherProcessing state.clearAction
        (ipv6ExtensionHeaderSourceRouteGetHeaderLength hdr)).2 := by
      unfold r ipv6ExtensionHeaderSourceRouteProcessHeaderIncoming
      simp only [checkIfPacketShouldBeProcessedLocallyOrDesignateItForForwarding, if_pos hlocal',
        ne_eq, not_true_eq_false, if_false]
      exact if_pos hleft
    have hskip := @skipAllSegments_spec state.clearAction h hclear
      (ipv6ExtensionHeaderSourceRouteGetHeaderLength hdr)
    rw [← hr] at hskip
    rcases hskip with hdrop | ⟨haction, hpayload, hwithin, hplace, hle, hnext, hoffset, hpointer⟩
    · exact Or.inl hdrop
    · have hroom : state.place + len ≤ state.payload.flatten.length :=
        le_of_eq_of_le hplace.symm hle
      exact Or.inr ⟨hroom, Or.inl ⟨hleft, haction, hpayload, hwithin, hplace, hnext, hoffset,
        hpointer⟩⟩
  · by_cases htype : hdr.routingType =
        WHIP6_IPV6_EXTENSION_HEADER_SOURCE_ROUTE_SUPPORTED_ROUTING_TYPE
    · have hr : r = _ := process_of_reaches createPacketProto state ⟨hlocal, hleft, htype⟩
      by_cases hnum : hdr.segmentsLeft ≤ ipv6ExtensionHeaderSourceRouteNumSegments hdr
      · replace hr := hr.trans (if_pos hnum)
        have hframe := updateSegmentsLeft_frame hclear (state.sourceRouteHdr.segmentsLeft - 1)
        dsimp only at hr hframe
        split_ifs at hr hframe with hupdate
        · exact Or.inl (hr ▸ hframe)
        · obtain ⟨haction, hiter, hlens⟩ := hframe
          have hwithin : IterWithin (updateSegmentsLeftOrDesignatePacketForDropping
              state.clearAction (state.sourceRouteHdr.segmentsLeft - 1)).2 := by
            rw [IterWithin, hiter, hlens]
            exact h
          have hset := setSegmentAddr_action hwithin haction
            (ipv6ExtensionHeaderSourceRouteNumSegments state.sourceRouteHdr -
              state.sourceRouteHdr.segmentsLeft)
            (ipv6ExtensionHeaderSourceRouteNumSegments state.sourceRouteHdr)
            (ipv6ExtensionHeaderSourceRouteGetHeaderLength state.sourceRouteHdr)
          dsimp only at hset
          rw [← hr, Ipv6PacketProcessingState.place, hiter, ← sum_iovLens, hlens, sum_iovLens]
            at hset
          rcases hset with hdrop | ⟨hforward, hroom, hunicast⟩
          · exact Or.inl hdrop
          · exact Or.inr ⟨hroom, Or.inr ⟨hleft, hforward, htype, hnum, hunicast⟩⟩
      · rw [hr.trans (if_neg hnum)]
        exact Or.inl (dropWithParameterProblem_spec createPacketProto _ 3 hclear).1
    · left
      have hleft' : ¬ state.clearAction.sourceRouteHdr.segmentsLeft = 0 := hleft
      have htype' : ¬ state.clearAction.sourceRouteHdr.routingType =
        WHIP6_IPV6_EXTENSION_HEADER_SOURCE_ROUTE_SUPPORTED_ROUTING_TYPE := htype
      unfold r ipv6ExtensionHeaderSourceRouteProcessHeaderIncoming
      simp only [checkIfPacketShouldBeProcessedLocallyOrDesignateItForForwarding, if_pos hlocal',
        checkIfRoutingMethodIsCorrectOrDesignatePacketForDropping, if_neg hleft', if_neg htype',
        if_pos hone, ne_eq, not_true_eq_false, if_false]
      exact (dropWithParameterProblem_spec createPacketProto _ 2 hclear).1

/-- The pointer is counted back over the fetched header, in 32 bits. -/
theorem pointer_toUInt16 (offset : UInt16) :
    ((offset + sourceRouteHdrSize.toUInt16).toUInt32 - sourceRouteHdrSize.toUInt32).toUInt16 =
      offset := by
  have hlt := offset.toNat_lt
  have h16 : sourceRouteHdrSize.toUInt16.toNat = 8 := rfl
  have h32 : sourceRouteHdrSize.toUInt32.toNat = 8 := rfl
  apply UInt16.toNat_inj.mp
  rw [UInt32.toNat_toUInt16, UInt32.toNat_sub, UInt16.toNat_toUInt32, UInt16.toNat_add, h16, h32]
  omega

theorem pointer_exact {offset : UInt16} (h : offset.toNat + 8 < 2 ^ 16) :
    (offset + sourceRouteHdrSize.toUInt16).toUInt32 - sourceRouteHdrSize.toUInt32 =
      offset.toUInt32 := by
  have h16 : sourceRouteHdrSize.toUInt16.toNat = 8 := rfl
  have h32 : sourceRouteHdrSize.toUInt32.toNat = 8 := rfl
  apply UInt32.toNat_inj.mp
  rw [UInt32.toNat_sub, UInt16.toNat_toUInt32, UInt16.toNat_toUInt32, UInt16.toNat_add, h16, h32]
  omega

/-! ## Steps along a chain -/

inductive ExtensionHeaderProcessing
  | generic
  | sourceRoute

/-- One header of a chain: a source routing header is processed once it has been fetched. -/
def processExtensionHeader (createPacketProto : ParameterProblemCreator)
    (state : Ipv6PacketProcessingState) : ExtensionHeaderProcessing → Ipv6PacketProcessingState
  | .generic => ipv6ExtensionHeaderGenericFetchAndSkipHeaderIncoming state
  | .sourceRoute =>
    let fetched := ipv6ExtensionHeaderSourceRouteFetchHeaderIncoming state
    if fetched.action = ACTION_DROP_PACKET then fetched
    else ipv6ExtensionHeaderSourceRouteProcessHeaderIncoming createPacketProto fetched

/-- The headers that were processed one after another, each of them with the result to continue. -/
inductive Continues (createPacketProto : ParameterProblemCreator)
    (state : Ipv6PacketProcessingState) : Ipv6PacketProcessingState → Prop
  | nil : Continues createPacketProto state state
  | snoc {s : Ipv6PacketProcessingState} (run : Continues createPacketProto state s)
    (processing : ExtensionHeaderProcessing)
    (continues : (processExtensionHeader createPacketProto s processing).action =
      ACTION_CONTINUE_PROCESSING_PACKET) :
    Continues createPacketProto state (processExtensionHeader createPacketProto s processing)

/-- A source routing header is well formed: it is there, its reserved bits are clear, and where the
packet is for the present node, it is whole, and its segments left are of the supported kind and not
more than the code counts. -/
structure SourceRouteSound (state : Ipv6PacketProcessingState) : Prop where
  fetched : state.place + sourceRouteHdrSize ≤ state.payload.flatten.length
  reserved : ipv6ExtensionHeaderSourceRouteCheckReserved
    (sourceRouteHdrAt state.payload.flatten state.place) = false
  whole : state.flagsAndAction &&& PRESENT_NODE_IS_DESTINATION ≠ 0 →
    state.headerEnd ≤ state.payload.flatten.length
  segments : state.flagsAndAction &&& PRESENT_NODE_IS_DESTINATION ≠ 0 →
    let hdr := sourceRouteHdrAt state.payload.flatten state.place
    hdr.segmentsLeft ≠ 0 →
      hdr.routingType = WHIP6_IPV6_EXTENSION_HEADER_SOURCE_ROUTE_SUPPORTED_ROUTING_TYPE ∧
        hdr.segmentsLeft ≤ ipv6ExtensionHeaderSourceRouteNumSegments hdr

/-- The header at the iterator is as its processing needs it. -/
def HeaderSound (state : Ipv6PacketProcessingState) : ExtensionHeaderProcessing → Prop
  | .generic => state.headerEnd ≤ state.payload.flatten.length
  | .sourceRoute => SourceRouteSound state

theorem sourceRouteHdrAt_hdrExtLen {bytes : List UInt8} {p : ℕ} :
    (sourceRouteHdrAt bytes p).hdrExtLen = bytes.getD (p + 1) 0 := by
  rw [sourceRouteHdrAt, SourceRouteHdr.ofBytes]
  dsimp only
  rw [List.getD_eq_getElem?_getD, List.getElem?_take, if_pos (by decide), List.getElem?_drop,
    List.getD_eq_getElem?_getD]

theorem sourceRouteHdrAt_nextHdr {bytes : List UInt8} {p : ℕ} :
    (sourceRouteHdrAt bytes p).nextHdr = bytes.getD p 0 := by
  rw [sourceRouteHdrAt, SourceRouteHdr.ofBytes]
  dsimp only
  rw [List.getD_eq_getElem?_getD, List.getElem?_take, if_pos (by decide), List.getElem?_drop,
    List.getD_eq_getElem?_getD]
  rfl

/-- A header that is not dropped is well formed, and is passed or has the packet forwarded. -/
theorem processExtensionHeader_spec (createPacketProto : ParameterProblemCreator)
    {state : Ipv6PacketProcessingState} (h : state.IterWithin)
    (processing : ExtensionHeaderProcessing) :
    let r := processExtensionHeader createPacketProto state processing
    r.action = ACTION_DROP_PACKET ∨ HeaderSound state processing ∧
      (r.action = ACTION_CONTINUE_PROCESSING_PACKET ∧ HeaderPassed state r ∨
        r.action = ACTION_FINISH_PROCESSING_AND_FORWARD_PACKET) := by
  intro r
  cases processing with
  | generic =>
    have hspec := genericFetchAndSkip_spec h
    dsimp only at hspec
    split_ifs at hspec with hfits
    · exact Or.inr ⟨hfits, Or.inl ⟨hspec.2, hspec.1⟩⟩
    · exact Or.inl hspec
  | sourceRoute =>
    rcases fetchHeader_spec h with hdrop | ⟨hfetched, haction⟩
    · left
      have hr : r = ipv6ExtensionHeaderSourceRouteFetchHeaderIncoming state := if_pos hdrop
      rw [hr, hdrop]
    · have hr : r = ipv6ExtensionHeaderSourceRouteProcessHeaderIncoming createPacketProto
          (ipv6ExtensionHeaderSourceRouteFetchHeaderIncoming state) :=
        if_neg (by rw [haction]; decide)
      have hflags : (ipv6ExtensionHeaderSourceRouteFetchHeaderIncoming state).flagsAndAction &&&
          PRESENT_NODE_IS_DESTINATION = state.flagsAndAction &&& PRESENT_NODE_IS_DESTINATION := by
        rw [hfetched.flags]
        exact clearAction_flag state.flagsAndAction
      by_cases hlocal : state.flagsAndAction &&& PRESENT_NODE_IS_DESTINATION ≠ 0
      · have hspec := processHeader_spec createPacketProto hfetched.within (by rwa [hflags])
        dsimp only at hspec
        rw [← hr, hfetched.hdr, hfetched.payload, hfetched.place, headerLength_toNat,
          sourceRouteHdrAt_hdrExtLen] at hspec
        have hend : state.headerEnd = state.place + sourceRouteHdrSize +
            (state.payload.flatten.getD (state.place + 1) 0).toNat * 8 := rfl
        rw [← hend] at hspec
        rcases hspec with hdrop | ⟨hwhole, hcontinue | hforward⟩
        · exact Or.inl hdrop
        · obtain ⟨hleft, hcontinue, hpayload, hwithin, hplace, hnext, hoffset, hpointer⟩ :=
            hcontinue
          have hsound : SourceRouteSound state :=
            ⟨hfetched.room, hfetched.reserved, fun _ => hwhole, fun _ hne => absurd hleft hne⟩
          rw [hfetched.offset] at hoffset hpointer
          refine Or.inr ⟨hsound, Or.inl ⟨hcontinue, hpayload, hwithin, hwhole, hplace, ?_, ?_, ?_,
            fun hfits => ?_⟩⟩
          · rw [hnext, sourceRouteHdrAt_nextHdr]
          · have hstep := ((OffsetInStep.refl state.offset state.place).add
              sourceRouteHdrSize.toUInt16).add (ipv6ExtensionHeaderSourceRouteGetHeaderLength
                (sourceRouteHdrAt state.payload.flatten state.place))
            rw [headerLength_toNat, sourceRouteHdrAt_hdrExtLen] at hstep
            rw [hoffset]
            exact hstep
          · rw [hpointer]
            exact pointer_toUInt16 state.offset
          · rw [hpointer]
            exact pointer_exact hfits
        · obtain ⟨-, hforward, htype, hnum, -⟩ := hforward
          exact Or.inr ⟨⟨hfetched.room, hfetched.reserved, fun _ => hwhole,
            fun _ _ => ⟨htype, hnum⟩⟩, Or.inr hforward⟩
      · rw [process_of_not_local createPacketProto (by rwa [hflags])] at hr
        refine Or.inr ⟨⟨hfetched.room, hfetched.reserved, fun h => absurd h hlocal,
          fun h => absurd h hlocal⟩, Or.inr ?_⟩
        rw [hr]
        exact action_designate _ (action_clearAction _) (by decide) WHIP6_IANA_IPV6_NO_NEXT_HEADER

/-- After a run that said to continue all the time, the iterator is behind whole headers and the
offset has been counted along. -/
theorem Continues.tracked {createPacketProto : ParameterProblemCreator}
    {start s : Ipv6PacketProcessingState} (h : start.IterWithin)
    (hrun : Continues createPacketProto start s) :
    s.payload = start.payload ∧ s.IterWithin ∧
      PlaceTracked start.payload.flatten start.offset start.place s.offset s.place := by
  induction hrun with
  | nil => exact ⟨rfl, h, .nil, OffsetInStep.refl start.offset start.place⟩
  | @snoc s run processing hcontinue ih =>
    obtain ⟨hpayload, hwithin, htracked⟩ := ih
    rcases processExtensionHeader_spec createPacketProto hwithin processing with
      hdrop | ⟨-, ⟨-, hpassed⟩ | hforward⟩
    · rw [hdrop] at hcontinue
      exact absurd hcontinue (by decide)
    · have hend : s.headerEnd = extensionHeaderEnd start.payload.flatten s.place := by
        rw [headerEnd, hpayload]
      have hfits := hpassed.fits
      have hstep := hpassed.offset
      rw [hend] at hfits hstep
      rw [hpayload] at hfits
      refine ⟨hpassed.payload.trans hpayload, hpassed.within, ?_⟩
      rw [hpassed.place, hend]
      exact htracked.snoc hstep hfits
    · rw [hforward] at hcontinue
      exact absurd hcontinue (by decide)

/-- What a processor has to show after it has passed one more header: its offset has been counted
along with the iterator over whole headers, and the next header is the byte that the pointer
tells. -/
structure HeaderTracked (start s s' : Ipv6PacketProcessingState) : Prop where
  payload : s'.payload = start.payload
  place : PlaceTracked start.payload.flatten start.offset start.place s'.offset s'.place
  nextHeader : start.payload.flatten[s.place]? = some s'.nextHeader
  pointer : OffsetInStep start.offset start.place s'.icmpv6.nextHdrFieldPointer.toUInt16 s.place
  exact : start.offset.toNat + (s'.place - start.place) < 2 ^ 16 →
    s'.offset.toNat = start.offset.toNat + (s'.place - start.place) ∧
      s'.icmpv6.nextHdrFieldPointer.toNat = start.offset.toNat + (s.place - start.place)

theorem Continues.headerTracked {createPacketProto : ParameterProblemCreator}
    {start s s' : Ipv6PacketProcessingState} (h : start.IterWithin)
    (hrun : Continues createPacketProto start s) (hpassed : HeaderPassed s s') :
    HeaderTracked start s s' := by
  obtain ⟨hpayload, hwithin, htracked⟩ := hrun.tracked h
  obtain ⟨hpayload', -, hfits, hplace, hnext, hstep, hpointer, hexact⟩ := hpassed
  rw [headerEnd, hpayload] at hplace hstep hfits
  rw [hpayload] at hpayload' hnext
  have htracked' := htracked.snoc hstep hfits
  rw [← hplace] at htracked'
  refine ⟨hpayload', htracked', ?_, ?_, fun hsum => ⟨htracked'.offset.toNat hsum, ?_⟩⟩
  · rw [hnext]
    exact getElem?_of_fits hfits
  · rw [hpointer]
    exact htracked.offset
  · have hle := htracked.offset.le
    have hnear : s.place + 8 ≤ s'.place := by
      rw [hplace]
      exact Nat.le_add_right _ _
    have hoffset := htracked.offset.toNat (by omega)
    rw [hexact (by omega), UInt16.toNat_toUInt32, hoffset]

/-- The three parts of the place stay in step over every chain that is processed by the generic and
the source routing functions, and so do the two parts over every chain that the skipper skips; a
packet whose header is not as its processing needs it is dropped. -/
theorem extensionHeaderChain_inStep (createPacketProto : ParameterProblemCreator) :
    (∀ start s : Ipv6PacketProcessingState, start.IterWithin →
      Continues createPacketProto start s → ∀ processing,
        let s' := processExtensionHeader createPacketProto s processing
        (s'.action = ACTION_CONTINUE_PROCESSING_PACKET → HeaderTracked start s s') ∧
          (¬ HeaderSound s processing → s'.action = ACTION_DROP_PACKET)) ∧
      ∀ (path : Ipv6IncomingPath) (p : ℕ) (start : Ipv6InPacket),
        path.inPacketPtr = some p → p ∈ path.processedPacketQueue →
        IovIterWithin (iovLens (path.payload (path.inPacket p).packet)) start.payloadIter →
        Skips (path.payload (path.inPacket p).packet) start (path.inPacket p) →
        SkipperTracked path p start := by
  refine ⟨fun start s h hrun processing => ?_, fun path p start => skipperTracked⟩
  obtain ⟨-, hwithin, -⟩ := hrun.tracked h
  rcases processExtensionHeader_spec createPacketProto hwithin processing with
    hdrop | ⟨hsound, hrest⟩
  · refine ⟨fun hcontinue => ?_, fun _ => hdrop⟩
    rw [hdrop] at hcontinue
    exact absurd hcontinue (by decide)
  · refine ⟨fun hcontinue => ?_, fun hbad => absurd hsound hbad⟩
    rcases hrest with ⟨-, hpassed⟩ | hforward
    · exact hrun.headerTracked h hpassed
    · rw [hforward] at hcontinue
      exact absurd hcontinue (by decide)

/-- A packet at its payload, with or without the present node for its destination. -/
def packetWithHeaders (payload : IovBlist) (flags : UInt8) : Ipv6PacketProcessingState where
  iter := iovIteratorInitToBeginning payload
  processedPacket := ⟨.zero, payload⟩
  offset := 40
  flagsAndAction := flags
  nextHeader := 0
  sourceRouteHdr := ⟨0, 0, 0, 0, 0, Vector.replicate 3 0⟩
  icmpv6 := ⟨⟨none, 0⟩, none, 0⟩

/-- A packet that the skipper has before it. -/
def pathWithHeaders (payload : IovBlist) : Ipv6IncomingPath :=
  { Ipv6IncomingPath.initial
      (fun _ => ⟨0, iovIteratorInitToBeginning payload, 0, false, true, true, 0, 0⟩)
      (fun _ => .zero) (fun _ => payload) with
    inPacketPtr := some 0
    processedPacketQueue := [0] }

/-- A generic header and a source routing header without segments, in three elements. -/
theorem extensionHeaderChain_inStep_two :
    let payload := [[43, 0, 0], [0, 0, 0, 0, 0, 6, 0, 0, 0, 0, 0, 0, 0], [1]]
    let start := packetWithHeaders payload PRESENT_NODE_IS_DESTINATION
    let s := ipv6ExtensionHeaderGenericFetchAndSkipHeaderIncoming start
    HeaderTracked start s
        (processExtensionHeader (fun _ _ _ _ _ => (none, ⟨none, 0⟩)) s .sourceRoute) ∧
      SkipperTracked (pathWithHeaders payload) 0 ((pathWithHeaders payload).inPacket 0) := by
  intro payload start s
  have hlaw := extensionHeaderChain_inStep fun _ _ _ _ _ => (none, ⟨none, 0⟩)
  refine ⟨((hlaw.1 start s ?_ (.snoc .nil .generic (by decide +kernel))) .sourceRoute).1
    (by decide +kernel), hlaw.2 _ 0 _ rfl List.mem_cons_self ?_ .nil⟩
  · exact iovIteratorInitToBeginning_within payload
  · exact iovIteratorInitToBeginning_within payload

/-- A source routing header that is cut off behind its first bytes: the packet is not for the
present node, which forwards it. -/
theorem extensionHeaderChain_not_dropped :
    ∃ (createPacketProto : ParameterProblemCreator) (state : Ipv6PacketProcessingState),
      state.IterWithin ∧ Continues createPacketProto state state ∧
        state.payload.flatten.length < state.headerEnd ∧
        (processExtensionHeader createPacketProto state .sourceRoute).action =
          ACTION_FINISH_PROCESSING_AND_FORWARD_PACKET := by
  refine ⟨fun _ _ _ _ _ => (none, ⟨none, 0⟩),
    packetWithHeaders [[59, 2, 3, 1, 0x88, 0, 0, 0, 1]] 0, ?_, .nil, by decide, by decide +kernel⟩
  exact iovIteratorInitToBeginning_within [[59, 2, 3, 1, 0x88, 0, 0, 0, 1]]

end Whip6
