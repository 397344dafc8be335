import Whip6.Srcroute.SegmentIndex

/-!
# Forwarding along a source route

A packet that is forwarded along its source route should differ from the one that came in the
destination, which is taken from the addressed segment, and in the count of the segments left.  The
count is stored in the first byte of the element that has its field in it, and the segment is
counted from the number of segments modulo 256.
-/

namespace Whip6

open Lib Ipv6PacketProcessingState

variable (createPacketProto : ParameterProblemCreator) (state : Ipv6PacketProcessingState)

/-- The place of the count of the segments left in the payload. -/
def segmentsLeftPos : ℕ := iovIterPos (iovLens state.payload) state.iter - 5

/-- The scratchpad holds the header that stands before the iterator. -/
structure HeaderFetched : Prop extends AtSegments state where
  segmentsLeft : state.payload.flatten[segmentsLeftPos state]? =
    some state.sourceRouteHdr.segmentsLeft

/-- An element of the payload begins with the count of the segments left. -/
def FieldBeginsElement : Prop :=
  ∃ pre e post, state.payload = pre ++ e :: post ∧ e ≠ [] ∧
    pre.flatten.length = segmentsLeftPos state

/-- The destination with the octets of the segment that is addressed when there are `count` ones. -/
def segmentAddr (count : ℤ) : List UInt8 :=
  let t := segmentTable state.sourceRouteHdr
  let i := count - state.sourceRouteHdr.segmentsLeft.toNat
  let size := if i = count - 1 then t.last else t.stride
  splice state.dstAddr (16 - size).toNat
    ((state.payload.flatten.drop (iovIterPos (iovLens state.payload) state.iter +
      (t.start i).toNat)).take size.toNat)

/-- The payload that is left differs in the count of the segments left only, which is one less, and
the destination is the one of the addressed segment. -/
structure ForwardingLaw : Prop where
  payload : (ipv6ExtensionHeaderSourceRouteProcessHeaderIncoming createPacketProto
      state).payload.flatten =
    splice state.payload.flatten (segmentsLeftPos state) [state.sourceRouteHdr.segmentsLeft - 1]
  addressed : state.sourceRouteHdr.segmentsLeft.toNat ≤ (segmentTable state.sourceRouteHdr).count
  dstAddr : (ipv6ExtensionHeaderSourceRouteProcessHeaderIncoming createPacketProto
      state).dstAddr = segmentAddr state (segmentTable state.sourceRouteHdr).count

/-- The packet is for the present node, the count of the segments left begins an element, and the
segment counted from the number of segments modulo 256 is the addressed one. -/
structure ForwardsRightly : Prop where
  local' : state.flagsAndAction &&& PRESENT_NODE_IS_DESTINATION ≠ 0
  field : FieldBeginsElement state
  segments : 0 < (segmentTable state.sourceRouteHdr).count
  segment : segmentAddr state ((segmentTable state.sourceRouteHdr).count % 256) =
    segmentAddr state (segmentTable state.sourceRouteHdr).count

/-- With at most 255 segments the addressed one is found. -/
theorem segmentAddr_mod (h₁ : 0 < (segmentTable state.sourceRouteHdr).count)
    (h₂ : (segmentTable state.sourceRouteHdr).count < 256) :
    segmentAddr state ((segmentTable state.sourceRouteHdr).count % 256) =
      segmentAddr state (segmentTable state.sourceRouteHdr).count := by
  rw [Int.emod_eq_of_lt h₁.le h₂]

variable {state}

/-- A header that is fetched and not dropped is the one before the iterator. -/
theorem fetchHeader_headerFetched (hfull : [] ∉ state.payload)
    (h : IovIterNormal (iovLens state.payload) state.iter)
    (hkept : (ipv6ExtensionHeaderSourceRouteFetchHeaderIncoming state).action ≠
      ACTION_DROP_PACKET) :
    HeaderFetched (ipv6ExtensionHeaderSourceRouteFetchHeaderIncoming state) := by
  have hat := fetchHeader_atSegments state hfull h hkept
  refine ⟨hat, ?_⟩
  obtain ⟨hcount, hpos, -, hbuf⟩ := iovIteratorRead_within h.within state.sourceRouteHdr.toBytes
    sourceRouteHdrSize
  unfold ipv6ExtensionHeaderSourceRouteFetchHeaderIncoming at hkept ⊢
  dsimp only at hkept ⊢
  split_ifs at hkept ⊢ with hfail
  · exact absurd (action_drop _ (action_clearAction state)) hkept
  · simp only [ne_eq, not_or, not_not] at hfail
    have hall : (iovIteratorReadAndMoveForward state.payload state.iter
        (some state.sourceRouteHdr.toBytes) sourceRouteHdrSize).1 = 8 := hfail.1
    have hsize : sourceRouteHdrSize = 8 := rfl
    have hroom : iovIterPos (iovLens state.payload) state.iter + 8 ≤
        state.payload.flatten.length := by omega
    have hbytes : splice state.sourceRouteHdr.toBytes 0 ((state.payload.flatten.drop
        (iovIterPos (iovLens state.payload) state.iter)).take sourceRouteHdrSize) =
        (state.payload.flatten.drop (iovIterPos (iovLens state.payload) state.iter)).take
          sourceRouteHdrSize := by
      apply splice_all
      simp only [SourceRouteHdr.toBytes, List.length_append, List.length_cons, List.length_nil,
        Vector.length_toList, List.length_take, List.length_drop]
      omega
    have hplace : iovIterPos (iovLens state.payload) (iovIteratorReadAndMoveForward state.payload
        state.iter (some state.sourceRouteHdr.toBytes) sourceRouteHdrSize).2.1 - 5 =
        iovIterPos (iovLens state.payload) state.iter + 3 := by omega
    change state.payload.flatten[iovIterPos (iovLens state.payload) (iovIteratorReadAndMoveForward
      state.payload state.iter (some state.sourceRouteHdr.toBytes) sourceRouteHdrSize).2.1 - 5]? =
        some (((iovIteratorReadAndMoveForward state.payload state.iter
          (some state.sourceRouteHdr.toBytes) sourceRouteHdrSize).2.2.getD []).getD 3 0)
    rw [hplace, hbuf, Option.getD_some, hbytes, List.getD_eq_getElem?_getD, List.getElem?_take,
      if_pos (by omega), List.getElem?_drop, List.getElem?_eq_getElem (by omega), Option.getD_some]

/-! ## Which packets are forwarded -/

theorem action_of_drop {r : Ipv6PacketProcessingState} (h : state.action = 0)
    (hr : r.flagsAndAction = state.flagsAndAction ||| ACTION_DROP_PACKET) :
    r.action = ACTION_DROP_PACKET := by
  rw [action, hr]
  exact action_drop state h

/-- A header without segments is skipped, or the packet is dropped. -/
theorem action_skipAllSegments (h : state.action = 0) (headerLen : UInt16) :
    (skipAllSegmentsAndDesignatePacketForFurtherProcessing state headerLen).2.action ≠
      ACTION_FINISH_PROCESSING_AND_FORWARD_PACKET := by
  unfold skipAllSegmentsAndDesignatePacketForFurtherProcessing
  dsimp only
  by_cases hmove : (iovIteratorMoveForward state.payload state.iter headerLen.toNat).1 ≠
      headerLen.toNat
  · rw [if_pos hmove, action_of_drop h rfl]
    decide
  · rw [if_neg hmove]
    have hcontinue : state.flagsAndAction ||| ACTION_CONTINUE_PROCESSING_PACKET =
        state.flagsAndAction := UInt8.or_zero
    change (state.flagsAndAction ||| ACTION_CONTINUE_PROCESSING_PACKET) &&& ACTION_MASK ≠ _
    rw [hcontinue, show state.flagsAndAction &&& ACTION_MASK = 0 from h]
    decide

/-- A packet for the present node is forwarded along its source route only. -/
theorem reaches_of_forward (hlocal : state.flagsAndAction &&& PRESENT_NODE_IS_DESTINATION ≠ 0)
    (hforward : (ipv6ExtensionHeaderSourceRouteProcessHeaderIncoming createPacketProto
      state).action = ACTION_FINISH_PROCESSING_AND_FORWARD_PACKET) : ReachesSegments state := by
  have hlocal' : state.clearAction.flagsAndAction &&& PRESENT_NODE_IS_DESTINATION ≠ 0 := by
    rw [clearAction, clearAction_flag]
    exact hlocal
  unfold ipv6ExtensionHeaderSourceRouteProcessHeaderIncoming at hforward
  simp only [checkIfPacketShouldBeProcessedLocallyOrDesignateItForForwarding, if_pos hlocal',
    ne_eq, not_true_eq_false, if_false] at hforward
  refine ⟨hlocal, fun hleft => ?_, ?_⟩
  · rw [if_pos (show state.clearAction.sourceRouteHdr.segmentsLeft = 0 from hleft)] at hforward
    exact action_skipAllSegments (action_clearAction state) _ hforward
  · by_contra htype
    have htype' : ¬ state.clearAction.sourceRouteHdr.routingType =
      WHIP6_IPV6_EXTENSION_HEADER_SOURCE_ROUTE_SUPPORTED_ROUTING_TYPE := htype
    by_cases hleft : state.clearAction.sourceRouteHdr.segmentsLeft = 0
    · rw [if_pos hleft] at hforward
      exact action_skipAllSegments (action_clearAction state) _ hforward
    · rw [if_neg hleft] at hforward
      have hone : ¬ (1 : UInt8) = 0 := by decide
      simp only [checkIfRoutingMethodIsCorrectOrDesignatePacketForDropping, if_neg htype',
        if_pos hone] at hforward
      rw [(dropWithParameterProblem_spec createPacketProto _ 2 (action_clearAction state)).1]
        at hforward
      exact absurd hforward (by decide)

/-- A packet that is not for the present node is forwarded as it is. -/
theorem process_of_not_local (hlocal : ¬ state.flagsAndAction &&& PRESENT_NODE_IS_DESTINATION ≠ 0) :
    ipv6ExtensionHeaderSourceRouteProcessHeaderIncoming createPacketProto state =
      state.clearAction.forward := by
  have hlocal' : ¬ state.clearAction.flagsAndAction &&& PRESENT_NODE_IS_DESTINATION ≠ 0 := by
    rw [clearAction, clearAction_flag]
    exact hlocal
  have hone : ¬ (1 : UInt8) = 0 := by decide
  unfold ipv6ExtensionHeaderSourceRouteProcessHeaderIncoming
  simp only [checkIfPacketShouldBeProcessedLocallyOrDesignateItForForwarding, if_neg hlocal',
    ne_eq, if_pos hone]

/-! ## What is forwarded -/

/-- The size of a segment, with the last one of `m` segments told by its index. -/
theorem numOctetsToRead_of_count (hdr : SourceRouteHdr) (segmentIndex m : UInt8) :
    (16 : ℤ) - (numOctetsToElide hdr segmentIndex m).toNat =
      if (segmentIndex.toNat : ℤ) = m.toNat - 1 then (segmentTable hdr).last
      else (segmentTable hdr).stride := by
  unfold numOctetsToElide
  split <;> rfl

/-- The number of segments is kept modulo 256, as long as there are any. -/
theorem numSegments_of_pos {hdr : SourceRouteHdr} (h : 0 < (segmentTable hdr).count) :
    ((ipv6ExtensionHeaderSourceRouteNumSegments hdr).toNat : ℤ) =
      (segmentTable hdr).count % 256 := by
  have hnum : 0 ≤ (segmentTable hdr).area - (segmentTable hdr).last := by
    by_contra hneg
    have := Int.ediv_neg_of_neg_of_pos (not_le.mp hneg) (segmentTable hdr).stride_pos
    unfold SegmentTable.count at h
    omega
  rw [numSegments_toNat, Int.tdiv_eq_ediv_of_nonneg hnum]
  rfl

/-- A packet that is forwarded along its source route: the first byte of the element with the count
of the segments left is overwritten, and the octets at the index of the code are taken over. -/
theorem process_forwarded (h : AtSegments state) (hreach : ReachesSegments state)
    (hforward : (ipv6ExtensionHeaderSourceRouteProcessHeaderIncoming createPacketProto
      state).action = ACTION_FINISH_PROCESSING_AND_FORWARD_PACKET) :
    let srHdr := state.sourceRouteHdr
    let num := ipv6ExtensionHeaderSourceRouteNumSegments srHdr
    let index := num - srHdr.segmentsLeft
    let elided := (numOctetsToElide srHdr index num).toNat
    let r := ipv6ExtensionHeaderSourceRouteProcessHeaderIncoming createPacketProto state
    srHdr.segmentsLeft ≤ num ∧
      (∃ (pre : IovBlist) (b : UInt8) (e : IovElem) (post : IovBlist),
        state.payload = pre ++ (b :: e) :: post ∧
        pre.flatten.length ≤ segmentsLeftPos state ∧
        segmentsLeftPos state < pre.flatten.length + (e.length + 1) ∧
        r.payload = pre ++ ((srHdr.segmentsLeft - 1) :: e) :: post) ∧
      r.dstAddr = splice state.dstAddr elided
        ((state.payload.flatten.drop (iovIterPos (iovLens state.payload) state.iter +
          (segmentOffset srHdr index).toNat)).take (16 - elided)) := by
  intro srHdr num index elided r
  have hr : r = _ := process_of_reaches createPacketProto state hreach
  have hforward' : r.action = ACTION_FINISH_PROCESSING_AND_FORWARD_PACKET := hforward
  have hle : srHdr.segmentsLeft ≤ num := by
    by_contra hgt
    have hdrop : r = dropWithParameterProblem createPacketProto 3 state.clearAction :=
      hr.trans (if_neg hgt)
    rw [hdrop, (dropWithParameterProblem_spec createPacketProto _ 3
      (action_clearAction state)).1] at hforward'
    exact absurd hforward' (by decide)
  obtain ⟨pre, b, e, post, hpayload, hbefore, hbehind, hupdate⟩ :=
    updateSegmentsLeft_eq state.clearAction ⟨h.valid, h.normal, h.fetched⟩
      (srHdr.segmentsLeft - 1)
  have hset : r = _ := hr.trans (if_pos hle)
  simp only [show state.sourceRouteHdr.segmentsLeft = srHdr.segmentsLeft from rfl, hupdate, ne_eq,
    not_true_eq_false, if_false] at hset
  have hpayload' : state.payload = pre ++ (b :: e) :: post := hpayload
  have hlens : iovLens (pre ++ ((srHdr.segmentsLeft - 1) :: e) :: post) =
      iovLens state.payload := by
    simp [hpayload']
  have hnormal : IovIterNormal (iovLens (pre ++ ((srHdr.segmentsLeft - 1) :: e) :: post))
      state.iter := hlens ▸ h.normal
  obtain ⟨hkept, hread⟩ := setSegmentAddr_spec { state.clearAction with
      processedPacket := { state.processedPacket with
        firstPayloadIov := pre ++ ((srHdr.segmentsLeft - 1) :: e) :: post } }
    hnormal.within index num (ipv6ExtensionHeaderSourceRouteGetHeaderLength srHdr)
  have hbefore' : pre.flatten.length + 5 ≤ iovIterPos (iovLens state.payload) state.iter := hbefore
  have hbehind' : iovIterPos (iovLens state.payload) state.iter <
    pre.flatten.length + 5 + (e.length + 1) := hbehind
  refine ⟨hle, ⟨pre, b, e, post, hpayload', by unfold segmentsLeftPos; omega,
    by unfold segmentsLeftPos; omega, by rw [hset]; exact hkept⟩, ?_⟩
  rcases hread with ⟨hdrop, -⟩ | hread
  · -- a packet for which no octets were read is dropped
    have haction : r.action = ACTION_DROP_PACKET := by
      rw [hset]
      exact action_of_drop (action_clearAction state) hdrop
    rw [haction] at hforward'
    exact absurd hforward' (by decide)
  · have hoctets : (pre ++ ((srHdr.segmentsLeft - 1) :: e) :: post).flatten.drop
        (iovIterPos (iovLens state.payload) state.iter + (segmentOffset srHdr index).toNat) =
        state.payload.flatten.drop
          (iovIterPos (iovLens state.payload) state.iter + (segmentOffset srHdr index).toNat) := by
      rw [hpayload'] at hbefore' ⊢
      simp only [List.flatten_append, List.flatten_cons, List.cons_append]
      apply drop_append_cons
      omega
    rw [hset, ← hoctets, ← hlens]
    exact hread

/-- The destination of a forwarded packet, told by the number of segments modulo 256. -/
theorem dstAddr_process (h : AtSegments state) (hreach : ReachesSegments state)
    (hsegments : 0 < (segmentTable state.sourceRouteHdr).count)
    (hforward : (ipv6ExtensionHeaderSourceRouteProcessHeaderIncoming createPacketProto
      state).action = ACTION_FINISH_PROCESSING_AND_FORWARD_PACKET) :
    (ipv6ExtensionHeaderSourceRouteProcessHeaderIncoming createPacketProto state).dstAddr =
      segmentAddr state ((segmentTable state.sourceRouteHdr).count % 256) := by
  obtain ⟨hle, -, hdst⟩ := process_forwarded createPacketProto h hreach hforward
  set num := ipv6ExtensionHeaderSourceRouteNumSegments state.sourceRouteHdr
  set index := num - state.sourceRouteHdr.segmentsLeft
  have hnum : (num.toNat : ℤ) = (segmentTable state.sourceRouteHdr).count % 256 :=
    numSegments_of_pos hsegments
  have hindex : (index.toNat : ℤ) = (segmentTable state.sourceRouteHdr).count % 256 -
      state.sourceRouteHdr.segmentsLeft.toNat := by
    have := UInt8.le_iff_toNat_le.mp hle
    rw [← hnum, UInt8.toNat_sub_of_le _ _ hle]
    omega
  have helided := numOctetsToElide_lt state.sourceRouteHdr index num
  have hsize := numOctetsToRead_of_count state.sourceRouteHdr index num
  have hoffset : ((segmentOffset state.sourceRouteHdr index).toNat : ℤ) =
      (segmentTable state.sourceRouteHdr).start index.toNat := segmentOffset_toNat index
  rw [hindex, hnum] at hsize
  rw [hindex] at hoffset
  unfold segmentAddr
  dsimp only
  rw [hdst]
  generalize hi : (segmentTable state.sourceRouteHdr).count % 256 -
    state.sourceRouteHdr.segmentsLeft.toNat = i at hsize hoffset ⊢
  generalize (if i = (segmentTable state.sourceRouteHdr).count % 256 - 1 then
    (segmentTable state.sourceRouteHdr).last else (segmentTable state.sourceRouteHdr).stride) = size
    at hsize ⊢
  have helide : (numOctetsToElide state.sourceRouteHdr index num).toNat = (16 - size).toNat := by
    omega
  have hread : 16 - (numOctetsToElide state.sourceRouteHdr index num).toNat = size.toNat := by
    omega
  have hstart : (segmentOffset state.sourceRouteHdr index).toNat =
      ((segmentTable state.sourceRouteHdr).start i).toNat := by
    omega
  rw [hread, helide, hstart]

/-! ## The law -/

/-- Overwriting the first byte of an element is a splice of the payload. -/
theorem flatten_first_byte (pre post : IovBlist) (b b' : UInt8) (e : IovElem) :
    (pre ++ (b' :: e) :: post).flatten =
      splice (pre ++ (b :: e) :: post).flatten pre.flatten.length [b'] := by
  have h := flatten_splice_elem pre (b :: e) post 0 [b'] (by simp)
  have hsplice : splice (b :: e) 0 [b'] = b' :: e := by
    simp [splice]
  rw [hsplice, Nat.add_zero] at h
  exact h

/-- There is one element at a place of a chain. -/
theorem length_flatten_unique {pre pre' post post' : IovBlist} {e e' : IovElem} {n : ℕ}
    (h : pre ++ e :: post = pre' ++ e' :: post') (hle : pre.flatten.length ≤ n)
    (hlt : n < pre.flatten.length + e.length) (hne : e' ≠ []) (hn : pre'.flatten.length = n) :
    pre.flatten.length = n := by
  have hpos := List.length_pos_iff.mpr hne
  rcases List.append_eq_append_iff.mp h with ⟨l, rfl, hl⟩ | ⟨l, rfl, hl⟩
  · cases l with
    | nil => simpa using hn
    | cons a l =>
      obtain ⟨rfl, -⟩ := List.cons.inj hl
      simp only [List.flatten_append, List.flatten_cons, List.length_append] at hn
      omega
  · cases l with
    | nil => simpa using hn
    | cons a l =>
      obtain ⟨rfl, -⟩ := List.cons.inj hl
      simp only [List.flatten_append, List.flatten_cons, List.length_append] at hle
      omega

/-- A packet that is forwarded is forwarded rightly when its count of the segments left begins an
element and the segment is the addressed one, and only then. -/
theorem sourceRoute_forwardingLaw_iff (h : HeaderFetched state)
    (hforward : (ipv6ExtensionHeaderSourceRouteProcessHeaderIncoming createPacketProto
      state).action = ACTION_FINISH_PROCESSING_AND_FORWARD_PACKET) :
    ForwardingLaw createPacketProto state ↔ ForwardsRightly state := by
  have hdiffer : state.sourceRouteHdr.segmentsLeft ≠ state.sourceRouteHdr.segmentsLeft - 1 := by
    intro heq
    have hnat := congrArg UInt8.toNat heq
    rw [UInt8.toNat_sub, show (1 : UInt8).toNat = 1 from rfl] at hnat
    have := state.sourceRouteHdr.segmentsLeft.toNat_lt
    omega
  have hpos : segmentsLeftPos state < state.payload.flatten.length :=
    (List.getElem?_eq_some_iff.mp h.segmentsLeft).1
  have hstored : (splice state.payload.flatten (segmentsLeftPos state)
      [state.sourceRouteHdr.segmentsLeft - 1])[segmentsLeftPos state]? =
        some (state.sourceRouteHdr.segmentsLeft - 1) := by
    rw [getElem?_splice_of_inside (le_refl _) (by simp) hpos, Nat.sub_self]
    rfl
  by_cases hlocal : state.flagsAndAction &&& PRESENT_NODE_IS_DESTINATION ≠ 0
  · have hreach := reaches_of_forward createPacketProto hlocal hforward
    obtain ⟨hle, ⟨pre, b, e, post, hpayload, hbefore, hbehind, hleft⟩, -⟩ :=
      process_forwarded createPacketProto h.toAtSegments hreach hforward
    have hflat := flatten_first_byte pre post b (state.sourceRouteHdr.segmentsLeft - 1) e
    rw [← hleft, ← hpayload] at hflat
    constructor
    · intro hlaw
      have hleft : 0 < state.sourceRouteHdr.segmentsLeft.toNat := by
        apply Nat.pos_of_ne_zero
        intro h0
        exact hreach.2.1 (UInt8.toNat_inj.mp h0)
      have hsegments : 0 < (segmentTable state.sourceRouteHdr).count := by
        have := hlaw.addressed
        omega
      refine ⟨hlocal, ?_, hsegments, ?_⟩
      · refine ⟨pre, b :: e, post, hpayload, List.cons_ne_nil b e, ?_⟩
        by_contra hne
        rw [← hlaw.payload, hflat, getElem?_splice_of_outside
          (Or.inr (by rw [List.length_singleton]; omega)), h.segmentsLeft,
          Option.some.injEq] at hstored
        exact hdiffer hstored
      · rw [← dstAddr_process createPacketProto h.toAtSegments hreach hsegments hforward]
        exact hlaw.dstAddr
    · intro hright
      have hnum := numSegments_of_pos hright.segments
      obtain ⟨pre', e', post', hpayload', hne, hfirst⟩ := hright.field
      have hplace : pre.flatten.length = segmentsLeftPos state :=
        length_flatten_unique (hpayload.symm.trans hpayload') hbefore
          (by rw [List.length_cons]; omega) hne hfirst
      refine ⟨?_, ?_, ?_⟩
      · rw [← hplace]
        exact hflat
      · have hpos := hright.segments
        have hleft := UInt8.le_iff_toNat_le.mp hle
        omega
      · rw [dstAddr_process createPacketProto h.toAtSegments hreach hright.segments hforward]
        exact hright.segment
  · rw [process_of_not_local createPacketProto hlocal] at hforward
    constructor
    · intro hlaw
      have hpayload := hlaw.payload
      rw [process_of_not_local createPacketProto hlocal] at hpayload
      have hsame : state.payload.flatten = splice state.payload.flatten (segmentsLeftPos state)
          [state.sourceRouteHdr.segmentsLeft - 1] := hpayload
      rw [← hsame, h.segmentsLeft, Option.some.injEq] at hstored
      exact absurd hstored hdiffer
    · intro hright
      exact absurd hright.local' hlocal

/-- A packet for the present node with two segments of eight octets, the last one of which is the
next one, in a payload that is laid out as a chain in some way. -/
def packetWithRoute (payload : IovBlist) (iter : IovBlistIter) : Ipv6PacketProcessingState where
  iter := iter
  processedPacket := ⟨.zero, payload⟩
  offset := 48
  flagsAndAction := PRESENT_NODE_IS_DESTINATION
  nextHeader := 43
  sourceRouteHdr := ⟨59, 2, 3, 1, 0x88, #v[0, 0, 0]⟩
  icmpv6 := ⟨⟨none, 0⟩, none, 0⟩

/-- The count of the segments left begins the second element. -/
theorem sourceRoute_forwardingLaw_second :
    ForwardingLaw (fun _ _ _ _ _ => (none, ⟨none, 0⟩)) (packetWithRoute
      [[59, 2, 3], [1, 0x88, 0, 0, 0, 1, 1, 1, 1, 1, 1, 1, 1, 2, 2, 2, 2, 2, 2, 2, 2]]
      ⟨some 1, 5⟩) := by
  refine (sourceRoute_forwardingLaw_iff _ ⟨⟨rfl, ?_, by decide⟩, by decide⟩
    (by decide +kernel)).mpr ⟨by decide, ?_, by decide, ?_⟩
  · exact @iovIterNormal_some [3] [] 21 5 1 rfl (by decide)
  · exact ⟨[[59, 2, 3]], _, [], rfl, by decide, rfl⟩
  · exact segmentAddr_mod _ (by decide) (by decide)

/-- The header begins an element: its first byte is overwritten, and its count of the segments left
stays as it is. -/
theorem sourceRoute_not_forwardingLaw :
    ∃ createPacketProto state, HeaderFetched state ∧
      (ipv6ExtensionHeaderSourceRouteProcessHeaderIncoming createPacketProto state).action =
        ACTION_FINISH_PROCESSING_AND_FORWARD_PACKET ∧
      (ipv6ExtensionHeaderSourceRouteProcessHeaderIncoming createPacketProto state).payload =
        [[0, 2, 3, 1, 0x88, 0, 0, 0, 1, 1, 1, 1, 1, 1, 1, 1, 2, 2, 2, 2, 2, 2, 2, 2]] ∧
      ¬ ForwardingLaw createPacketProto state := by
  refine ⟨fun _ _ _ _ _ => (none, ⟨none, 0⟩), packetWithRoute
    [[59, 2, 3, 1, 0x88, 0, 0, 0, 1, 1, 1, 1, 1, 1, 1, 1, 2, 2, 2, 2, 2, 2, 2, 2]] ⟨some 0, 8⟩,
    ⟨⟨rfl, ?_, by decide⟩, by decide⟩, by decide +kernel, by decide +kernel, fun hlaw => ?_⟩
  · exact @iovIterNormal_some [] [] 24 8 0 rfl (by decide)
  · exact absurd hlaw.payload (by decide +kernel)

end Whip6
