import Whip6.Srcroute.HeaderProcessing

/-!
# The place of a segment

The addresses of a routing header are a table: entries of one size, and a last one with a size of
its own.  The number of entries is the greatest one for which the table fits into its area.  The
code computes this number in `int` and keeps a byte of it.
-/

namespace Whip6

open Lib Ipv6PacketProcessingState

/-! ## Tables with a last entry of its own size -/

/-- An area for entries of size `stride`, and a last one of size `last`. -/
structure SegmentTable where
  area : ℤ
  stride : ℤ
  last : ℤ
  stride_pos : 0 < stride
  last_pos : 0 < last

namespace SegmentTable

variable (t : SegmentTable)

/-- The number of entries: the last one, and as many others as fit before it. -/
def count : ℤ := (t.area - t.last) / t.stride + 1

/-- Where an entry starts. -/
def start (i : ℤ) : ℤ := i * t.stride

/-- The size of an entry. -/
def size (i : ℤ) : ℤ := if i = t.count - 1 then t.last else t.stride

/-- The number of entries is the greatest one for which the table fits. -/
theorem le_count_iff (n : ℤ) : n ≤ t.count ↔ (n - 1) * t.stride + t.last ≤ t.area := by
  have h := Int.le_ediv_iff_mul_le t.stride_pos (a := n - 1) (b := t.area - t.last)
  unfold count
  constructor
  · intro hn
    have := h.mp (by omega)
    omega
  · intro hn
    have := h.mpr (by omega)
    omega

/-- An entry lies within the area. -/
theorem start_add_size_le {i : ℤ} (hi : i < t.count) : t.start i + t.size i ≤ t.area := by
  unfold start size
  by_cases h : i = t.count - 1
  · rw [if_pos h]
    have := (t.le_count_iff t.count).mp (le_refl _)
    rw [h]
    exact this
  · rw [if_neg h]
    have hfit := (t.le_count_iff (i + 2)).mp (by omega)
    have hmul : (i + 2 - 1) * t.stride = i * t.stride + t.stride := by ring
    have := t.last_pos
    omega

end SegmentTable

/-! ## The fields of the header -/

theorem shiftRight_four_toNat (b : UInt8) : (b >>> 4).toNat < 16 := by
  rw [UInt8.toNat_shiftRight, Nat.shiftRight_eq_div_pow]
  have := b.toNat_lt
  have h4 : (4 : UInt8).toNat % 8 = 4 := rfl
  rw [h4]
  omega

theorem cmprI_lt (hdr : SourceRouteHdr) :
    (ipv6ExtensionHeaderSourceRouteGetCmprI hdr).toNat < 16 := shiftRight_four_toNat _

theorem cmprE_lt (hdr : SourceRouteHdr) :
    (ipv6ExtensionHeaderSourceRouteGetCmprE hdr).toNat < 16 := by
  rw [ipv6ExtensionHeaderSourceRouteGetCmprE, UInt8.toNat_and]
  exact Nat.lt_of_le_of_lt Nat.and_le_right (by decide)

theorem headerLength_toNat (hdr : SourceRouteHdr) :
    (ipv6ExtensionHeaderSourceRouteGetHeaderLength hdr).toNat = hdr.hdrExtLen.toNat * 8 := by
  have := hdr.hdrExtLen.toNat_lt
  rw [ipv6ExtensionHeaderSourceRouteGetHeaderLength, UInt16.toNat_shiftLeft, Nat.shiftLeft_eq,
    UInt8.toNat_toUInt16]
  have h3 : (3 : UInt16).toNat % 16 = 3 := rfl
  rw [h3]
  omega

/-- The table of the addresses of a header; the padding is not a part of its area. -/
def segmentTable (hdr : SourceRouteHdr) : SegmentTable where
  area := hdr.hdrExtLen.toNat * 8 - (ipv6ExtensionHeaderSourceRouteGetPad hdr).toNat
  stride := 16 - (ipv6ExtensionHeaderSourceRouteGetCmprI hdr).toNat
  last := 16 - (ipv6ExtensionHeaderSourceRouteGetCmprE hdr).toNat
  stride_pos := by have := cmprI_lt hdr; omega
  last_pos := by have := cmprE_lt hdr; omega

theorem ofInt_toNat (z : ℤ) : ((UInt8.ofInt z).toNat : ℤ) = z % 256 := by
  simp only [UInt8.ofInt, UInt8.toNat_ofNat']
  omega

/-- The number of segments as the code has it, told by the table. -/
theorem numSegments_toNat (hdr : SourceRouteHdr) :
    ((ipv6ExtensionHeaderSourceRouteNumSegments hdr).toNat : ℤ) =
      (((segmentTable hdr).area - (segmentTable hdr).last).tdiv (segmentTable hdr).stride + 1) %
        256 := by
  rw [ipv6ExtensionHeaderSourceRouteNumSegments, ofInt_toNat, headerLength_toNat]
  rfl

/-- The space before the last address is not negative, and the number of addresses fits into a
byte; or exactly the space of one address is missing. -/
def NumSegmentsFits (hdr : SourceRouteHdr) : Prop :=
  let t := segmentTable hdr
  (t.last ≤ t.area ∧ t.area - t.last < 255 * t.stride) ∨ t.area + t.stride = t.last

/-- A quotient that rounds toward zero is not negative while the numerator is above `-d`. -/
theorem tdiv_eq_zero_of_neg {a d : ℤ} (hneg : a < 0) (h : -d < a) : a.tdiv d = 0 := by
  have hq : (-a).tdiv d = 0 := by
    rw [Int.tdiv_eq_ediv_of_nonneg (by omega)]
    exact Int.ediv_eq_zero_of_lt (by omega) (by omega)
  rw [Int.neg_tdiv] at hq
  omega

/-- The number of segments is computed exactly when it fits. -/
theorem numSegments_eq_iff (hdr : SourceRouteHdr) :
    ((ipv6ExtensionHeaderSourceRouteNumSegments hdr).toNat : ℤ) = (segmentTable hdr).count ↔
      NumSegmentsFits hdr := by
  rw [numSegments_toNat, NumSegmentsFits, SegmentTable.count]
  obtain ⟨area, d, last, hpos, -⟩ := segmentTable hdr
  simp only
  by_cases hnum : 0 ≤ area - last
  · have hq := Int.ediv_nonneg hnum hpos.le
    have hdiv := Int.ediv_lt_iff_lt_mul hpos (a := area - last) (b := 255)
    rw [Int.tdiv_eq_ediv_of_nonneg hnum]
    constructor
    · intro h
      exact Or.inl ⟨by omega, hdiv.mp (by omega)⟩
    · rintro (⟨-, h⟩ | h)
      · have := hdiv.mpr h
        omega
      · omega
  · have hq : (area - last) / d < 0 := Int.ediv_neg_of_neg_of_pos (by omega) hpos
    constructor
    · intro h
      -- a byte is not negative, so that no address at all may fit
      have hquot : (area - last) / d = -1 := by omega
      have hle : -1 * d ≤ area - last := (Int.le_ediv_iff_mul_le hpos).mp hquot.ge
      by_contra hne
      rw [tdiv_eq_zero_of_neg (d := d) (by omega) (by omega), hquot] at h
      exact absurd h (by decide)
    · rintro (⟨h, -⟩ | h)
      · omega
      · have hneg : area - last = -d := by omega
        rw [hneg, Int.neg_tdiv, Int.tdiv_self (by omega), Int.neg_ediv_self _ (by omega)]
        rfl

/-! ## The steps of the processor -/

section Steps

variable (createPacketProto : ParameterProblemCreator) (state : Ipv6PacketProcessingState)

/-- The iterator points to the first byte behind the fetched header. -/
structure AtSegments : Prop where
  valid : iovIteratorIsValid state.iter
  normal : IovIterNormal (iovLens state.payload) state.iter
  fetched : sourceRouteHdrSize ≤ iovIterPos (iovLens state.payload) state.iter

/-- The packet is for the present node, and its header has segments of the supported kind left. -/
def ReachesSegments : Prop :=
  state.flagsAndAction &&& PRESENT_NODE_IS_DESTINATION ≠ 0 ∧
    state.sourceRouteHdr.segmentsLeft ≠ 0 ∧
    state.sourceRouteHdr.routingType =
      WHIP6_IPV6_EXTENSION_HEADER_SOURCE_ROUTE_SUPPORTED_ROUTING_TYPE

theorem clearAction_flag (f : UInt8) :
    f &&& ~~~ACTION_MASK &&& PRESENT_NODE_IS_DESTINATION = f &&& PRESENT_NODE_IS_DESTINATION := by
  rw [UInt8.and_assoc]
  rfl

theorem action_drop (h : state.action = 0) : state.drop.action = ACTION_DROP_PACKET := by
  have hdist : (state.flagsAndAction ||| ACTION_DROP_PACKET) &&& ACTION_MASK =
      state.flagsAndAction &&& ACTION_MASK ||| ACTION_DROP_PACKET &&& ACTION_MASK := by
    rw [← UInt8.toBitVec_inj]
    exact BitVec.and_or_distrib_right
  rw [action, drop, designate, hdist, show state.flagsAndAction &&& ACTION_MASK = 0 from h]
  rfl

theorem action_clearAction : state.clearAction.action = 0 := by
  rw [action, clearAction, UInt8.and_assoc]
  exact UInt8.and_zero

theorem dropWithParameterProblem_spec (fieldOffset : UInt16) (h : state.action = 0) :
    (dropWithParameterProblem createPacketProto fieldOffset state).action = ACTION_DROP_PACKET ∧
      (dropWithParameterProblem createPacketProto fieldOffset state).processedPacket =
        state.processedPacket := by
  have hdrop := action_drop state h
  unfold dropWithParameterProblem
  dsimp only
  by_cases hflag : state.drop.flagsAndAction &&& DISABLE_ICMPV6_ERROR_MESSAGES = 0
  · rw [if_pos hflag]
    exact ⟨hdrop, rfl⟩
  · rw [if_neg hflag]
    exact ⟨hdrop, rfl⟩

/-- What is left of the processing once the packet has got to its segments. -/
theorem process_of_reaches (h : ReachesSegments state) :
    let srHdr := state.sourceRouteHdr
    let numSegments := ipv6ExtensionHeaderSourceRouteNumSegments srHdr
    ipv6ExtensionHeaderSourceRouteProcessHeaderIncoming createPacketProto state =
      if srHdr.segmentsLeft ≤ numSegments then
        let update := updateSegmentsLeftOrDesignatePacketForDropping state.clearAction
          (srHdr.segmentsLeft - 1)
        if update.1 ≠ 0 then update.2
        else
          (setSegmentAddrAsDstAddrAndDesignatePacketForForwarding update.2
            (numSegments - srHdr.segmentsLeft) numSegments
            (ipv6ExtensionHeaderSourceRouteGetHeaderLength srHdr)).2
      else dropWithParameterProblem createPacketProto 3 state.clearAction := by
  obtain ⟨hflag, hleft, htype⟩ := h
  have hflag' : state.clearAction.flagsAndAction &&& PRESENT_NODE_IS_DESTINATION ≠ 0 := by
    rw [clearAction, clearAction_flag]
    exact hflag
  have hhdr : state.clearAction.sourceRouteHdr = state.sourceRouteHdr := rfl
  unfold ipv6ExtensionHeaderSourceRouteProcessHeaderIncoming
  simp only [checkIfPacketShouldBeProcessedLocallyOrDesignateItForForwarding, if_pos hflag',
    checkIfRoutingMethodIsCorrectOrDesignatePacketForDropping, hhdr, if_pos htype, if_neg hleft,
    checkIfNumSegmentsIsCorrectOrDesignatePacketForDropping, ne_eq, not_true_eq_false, if_false]
  by_cases hle : state.sourceRouteHdr.segmentsLeft ≤
      ipv6ExtensionHeaderSourceRouteNumSegments state.sourceRouteHdr
  · simp only [if_pos hle, not_true_eq_false, if_false]
  · simp only [if_neg hle]
    rfl

theorem drop_append_cons {α : Type*} (xs zs : List α) (y y' : α) {n : ℕ} (h : xs.length < n) :
    (xs ++ y :: zs).drop n = (xs ++ y' :: zs).drop n := by
  obtain ⟨k, rfl⟩ := Nat.exists_eq_add_of_lt h
  have hk : xs.length + k + 1 = xs.length + (k + 1) := rfl
  rw [hk, List.drop_length_add_append, List.drop_length_add_append, List.drop_succ_cons,
    List.drop_succ_cons]

/-- The count of the segments left is stored in the first byte of the element with its field. -/
theorem updateSegmentsLeft_eq (h : AtSegments state) (segmentsLeft : UInt8) :
    ∃ (pre : IovBlist) (b : UInt8) (e : IovElem) (post : IovBlist),
      state.payload = pre ++ (b :: e) :: post ∧
      pre.flatten.length + 5 ≤ iovIterPos (iovLens state.payload) state.iter ∧
      iovIterPos (iovLens state.payload) state.iter < pre.flatten.length + 5 + (e.length + 1) ∧
      updateSegmentsLeftOrDesignatePacketForDropping state segmentsLeft =
        (0, { state with
          processedPacket := { state.processedPacket with
            firstPayloadIov := pre ++ (segmentsLeft :: e) :: post } }) := by
  have hfetched := h.fetched
  have hsize : sourceRouteHdrSize = 8 := rfl
  obtain ⟨hcount, hnormal, hvalid, hpos⟩ := iovIteratorMoveBackward_spec h.normal h.valid
    (n := sourceRouteHdrSize - 3) (by omega)
  obtain ⟨i, hi⟩ := Option.isSome_iff_exists.mp hvalid
  have hupdate : updateSegmentsLeftOrDesignatePacketForDropping state segmentsLeft =
      (0, { state with
        processedPacket := { state.processedPacket with
          firstPayloadIov := iovSetByte state.payload i 0 segmentsLeft } }) := by
    simp only [updateSegmentsLeftOrDesignatePacketForDropping, hcount, ne_eq, not_true_eq_false,
      if_false, hi]
  generalize (iovIteratorMoveBackward state.payload state.iter (sourceRouteHdrSize - 3)).2 = it
    at hnormal hi hpos
  obtain ⟨_ | j, o⟩ := it
  · cases hi
  · cases hi
    obtain ⟨pre, e, post, hpayload, rfl, ho, hp⟩ := hnormal.split
    obtain ⟨b, e, rfl⟩ := List.exists_cons_of_length_pos (Nat.zero_lt_of_lt ho)
    rw [List.length_cons] at ho
    refine ⟨pre, b, e, post, hpayload, by omega, by omega, ?_⟩
    rw [hupdate, hpayload, iovSetByte_append]
    rfl

/-- The count of the segments left is stored before the first segment. -/
theorem updateSegmentsLeft_spec (h : AtSegments state) (segmentsLeft : UInt8) :
    ∃ payload' : IovBlist,
      updateSegmentsLeftOrDesignatePacketForDropping state segmentsLeft =
        (0, { state with
          processedPacket := { state.processedPacket with firstPayloadIov := payload' } }) ∧
      iovLens payload' = iovLens state.payload ∧
      payload'.flatten.drop (iovIterPos (iovLens state.payload) state.iter) =
        state.payload.flatten.drop (iovIterPos (iovLens state.payload) state.iter) := by
  obtain ⟨pre, b, e, post, hpayload, hbefore, -, hupdate⟩ :=
    updateSegmentsLeft_eq state h segmentsLeft
  refine ⟨_, hupdate, by simp [hpayload], ?_⟩
  rw [hpayload] at hbefore ⊢
  simp only [List.flatten_append, List.flatten_cons, List.cons_append]
  apply drop_append_cons
  omega

/-- A splice behind a part of the list. -/
theorem drop_splice {α : Type*} (xs ys : List α) {n : ℕ} (hn : n ≤ xs.length) (k : ℕ) :
    (splice xs (n + k) ys).drop n = splice (xs.drop n) k ys := by
  have hpre : (xs.take n).length = n := List.length_take_of_le hn
  conv_lhs => rw [← List.take_append_drop n xs]
  rw [splice_append_of_le _ _ (by omega), List.drop_left' hpre, hpre, Nat.add_sub_cancel_left]

/-- To splice what a splice made of the rest of the list. -/
theorem splice_splice_drop {α : Type*} (xs ys : List α) {k : ℕ} (hk : k ≤ xs.length) :
    splice xs k (splice (xs.drop k) 0 ys) = splice xs k ys := by
  have hpre : (xs.take k).length = k := List.length_take_of_le hk
  have hsplit : ∀ zs : List α, splice xs k zs = xs.take k ++ splice (xs.drop k) 0 zs := by
    intro zs
    conv_lhs => rw [← List.take_append_drop k xs]
    rw [splice_append_of_le _ _ (by omega), hpre, Nat.sub_self]
  rw [hsplit, hsplit, splice_all (by simp)]

/-- The destination address after octets are read over a part of it. -/
theorem getDstAddr_overwrite (hdr : Ipv6BasicHeader) {k : ℕ} (hk : k ≤ 16) (ys : List UInt8) :
    ipv6BasicHeaderGetDstAddr
        (hdr.overwrite (24 + k) (splice ((ipv6BasicHeaderGetDstAddr hdr).drop k) 0 ys)) =
      splice (ipv6BasicHeaderGetDstAddr hdr) k ys := by
  have hlen : (hdr.bytes.drop 24).length = 16 := by simp [hdr.length_bytes]
  have hdst : ∀ hdr : Ipv6BasicHeader, ipv6BasicHeaderGetDstAddr hdr = hdr.bytes.drop 24 := by
    intro hdr
    rw [ipv6BasicHeaderGetDstAddr]
    exact List.take_of_length_le (by simp [hdr.length_bytes])
  rw [hdst, hdst, Ipv6BasicHeader.overwrite, drop_splice _ _ (by simp [hdr.length_bytes])]
  exact splice_splice_drop _ _ (by omega)

theorem length_dstAddr : state.dstAddr.length = 16 := length_getDstAddr _

theorem numOctetsToElide_lt (srHdr : SourceRouteHdr) (segmentIndex numSegments : UInt8) :
    (numOctetsToElide srHdr segmentIndex numSegments).toNat < 16 := by
  unfold numOctetsToElide
  split
  · exact cmprE_lt srHdr
  · exact cmprI_lt srHdr

/-- The octets that are taken over from a segment are read at its offset, and nothing else; a packet
for which none were read is dropped. -/
theorem setSegmentAddr_spec (h : IovIterWithin (iovLens state.payload) state.iter)
    (segmentIndex numSegments : UInt8) (headerLen : UInt16) :
    let srHdr := state.sourceRouteHdr
    let elided := (numOctetsToElide srHdr segmentIndex numSegments).toNat
    let r := (setSegmentAddrAsDstAddrAndDesignatePacketForForwarding state segmentIndex
      numSegments headerLen).2
    r.payload = state.payload ∧
      (r.flagsAndAction = state.flagsAndAction ||| ACTION_DROP_PACKET ∧
          r.dstAddr = state.dstAddr ∨
        r.dstAddr = splice state.dstAddr elided
          ((state.payload.flatten.drop (iovIterPos (iovLens state.payload) state.iter +
            (segmentOffset srHdr segmentIndex).toNat)).take (16 - elided))) := by
  intro srHdr elided
  simp only [setSegmentAddrAsDstAddrAndDesignatePacketForForwarding]
  by_cases hmulti : ipv6AddrIsMulticast state.dstAddr = true
  · rw [if_pos hmulti]
    exact ⟨rfl, Or.inl ⟨rfl, rfl⟩⟩
  rw [if_neg hmulti]
  obtain ⟨hcount, hnormal, hpos⟩ := iovIteratorMoveForward_spec h
    (segmentOffset srHdr segmentIndex).toNat
  by_cases hmove : (iovIteratorMoveForward state.payload state.iter
      (segmentOffset srHdr segmentIndex).toNat).1 = (segmentOffset srHdr segmentIndex).toNat
  · rw [if_neg (not_not_intro hmove)]
    have helided : elided < 16 := numOctetsToElide_lt srHdr segmentIndex numSegments
    have hcompl : (16 - numOctetsToElide srHdr segmentIndex numSegments).toNat = 16 - elided :=
      UInt8.toNat_sub_of_le _ _ (UInt8.le_iff_toNat_le.mpr helided.le)
    obtain ⟨-, -, -, hread⟩ := iovIteratorRead_within hnormal.within (state.dstAddr.drop elided)
      (16 - numOctetsToElide srHdr segmentIndex numSegments).toNat
    refine ⟨by split_ifs <;> rfl, Or.inr ?_⟩
    calc
      _ = ipv6BasicHeaderGetDstAddr (state.processedPacket.header.overwrite (24 + elided)
          ((iovIteratorReadAndMoveForward state.payload (iovIteratorMoveForward state.payload
            state.iter (segmentOffset srHdr segmentIndex).toNat).2
            (some (state.dstAddr.drop elided))
            (16 - numOctetsToElide srHdr segmentIndex numSegments).toNat).2.2.getD [])) := by
        -- whatever happens behind the read, the header is not written again
        split_ifs <;> rfl
      _ = _ := by
        rw [hread, Option.getD_some, hpos, hmove, hcompl]
        exact getDstAddr_overwrite state.processedPacket.header helided.le _
  · rw [if_pos hmove]
    exact ⟨rfl, Or.inl ⟨rfl, rfl⟩⟩

/-- Behind a header that is not dropped the iterator points to the segments. -/
theorem fetchHeader_atSegments (hfull : [] ∉ state.payload)
    (h : IovIterNormal (iovLens state.payload) state.iter)
    (hkept : (ipv6ExtensionHeaderSourceRouteFetchHeaderIncoming state).action ≠
      ACTION_DROP_PACKET) :
    AtSegments (ipv6ExtensionHeaderSourceRouteFetchHeaderIncoming state) := by
  obtain ⟨-, hpos, hnormal, -⟩ := iovIteratorRead_within h.within state.sourceRouteHdr.toBytes
    sourceRouteHdrSize
  unfold ipv6ExtensionHeaderSourceRouteFetchHeaderIncoming at hkept ⊢
  dsimp only at hkept ⊢
  split_ifs at hkept ⊢ with hfail
  · exact absurd (action_drop _ (action_clearAction state)) hkept
  · simp only [ne_eq, not_or, not_not] at hfail
    obtain ⟨hcount, hvalid, -⟩ := hfail
    refine ⟨by simpa using hvalid, hnormal hfull h, ?_⟩
    exact le_of_le_of_eq (Nat.le_add_left _ _) (hpos.trans (congrArg _ hcount)).symm

end Steps

/-! ## The index of a segment -/

section Index

variable {hdr : SourceRouteHdr}

/-- The index of the code is the index of the segment, as long as the count is exact. -/
theorem segmentIndex_toNat
    (hcount : ((ipv6ExtensionHeaderSourceRouteNumSegments hdr).toNat : ℤ) = (segmentTable hdr).count)
    (hle : hdr.segmentsLeft ≤ ipv6ExtensionHeaderSourceRouteNumSegments hdr) :
    ((ipv6ExtensionHeaderSourceRouteNumSegments hdr - hdr.segmentsLeft).toNat : ℤ) =
      (segmentTable hdr).count - hdr.segmentsLeft.toNat := by
  have := UInt8.le_iff_toNat_le.mp hle
  rw [UInt8.toNat_sub_of_le _ _ hle]
  omega

theorem segmentOffset_toNat (segmentIndex : UInt8) :
    ((segmentOffset hdr segmentIndex).toNat : ℤ) =
      (segmentTable hdr).start segmentIndex.toNat := by
  have hI := cmprI_lt hdr
  have hread : (16 - ipv6ExtensionHeaderSourceRouteGetCmprI hdr).toNat =
      16 - (ipv6ExtensionHeaderSourceRouteGetCmprI hdr).toNat :=
    UInt8.toNat_sub_of_le _ _ (UInt8.le_iff_toNat_le.mpr hI.le)
  have hbound : segmentIndex.toNat * (16 - (ipv6ExtensionHeaderSourceRouteGetCmprI hdr).toNat) <
      2 ^ 16 := by
    have h := Nat.mul_le_mul (Nat.le_of_lt_succ segmentIndex.toNat_lt)
      (Nat.sub_le 16 (ipv6ExtensionHeaderSourceRouteGetCmprI hdr).toNat)
    omega
  rw [segmentOffset, UInt16.toNat_mul, UInt8.toNat_toUInt16, UInt8.toNat_toUInt16, hread,
    Nat.mod_eq_of_lt hbound, Nat.cast_mul, Nat.cast_sub hI.le]
  rfl

theorem numOctetsToRead_eq (segmentIndex : UInt8)
    (hcount : ((ipv6ExtensionHeaderSourceRouteNumSegments hdr).toNat : ℤ) =
      (segmentTable hdr).count) :
    (16 : ℤ) - (numOctetsToElide hdr segmentIndex
      (ipv6ExtensionHeaderSourceRouteNumSegments hdr)).toNat =
        (segmentTable hdr).size segmentIndex.toNat := by
  unfold numOctetsToElide SegmentTable.size
  rw [hcount]
  split <;> rfl

end Index

/-! ## The claim on the index -/

variable (createPacketProto : ParameterProblemCreator) (state : Ipv6PacketProcessingState)

/-- The number of segments is exact, a packet with more segments left is dropped as it is, and the
octets that are taken over are those of the segment, within the area of the addresses. -/
structure SegmentsSafe : Prop where
  count : ((ipv6ExtensionHeaderSourceRouteNumSegments state.sourceRouteHdr).toNat : ℤ) =
    (segmentTable state.sourceRouteHdr).count
  drops : (segmentTable state.sourceRouteHdr).count < state.sourceRouteHdr.segmentsLeft.toNat →
    (ipv6ExtensionHeaderSourceRouteProcessHeaderIncoming createPacketProto state).action =
        ACTION_DROP_PACKET ∧
      (ipv6ExtensionHeaderSourceRouteProcessHeaderIncoming createPacketProto
        state).processedPacket = state.processedPacket
  octets : state.sourceRouteHdr.segmentsLeft.toNat ≤ (segmentTable state.sourceRouteHdr).count →
    let t := segmentTable state.sourceRouteHdr
    let i := t.count - state.sourceRouteHdr.segmentsLeft.toNat
    let r := ipv6ExtensionHeaderSourceRouteProcessHeaderIncoming createPacketProto state
    0 ≤ t.start i ∧ t.start i + t.size i ≤ t.area ∧
      (r.dstAddr = state.dstAddr ∨
        r.dstAddr = splice state.dstAddr (16 - t.size i).toNat
          ((state.payload.flatten.drop (iovIterPos (iovLens state.payload) state.iter +
            (t.start i).toNat)).take (t.size i).toNat))

variable {state}

theorem segmentsSafe_octets (h : AtSegments state) (hreach : ReachesSegments state)
    (hcount : ((ipv6ExtensionHeaderSourceRouteNumSegments state.sourceRouteHdr).toNat : ℤ) =
      (segmentTable state.sourceRouteHdr).count)
    (hle : state.sourceRouteHdr.segmentsLeft.toNat ≤ (segmentTable state.sourceRouteHdr).count) :
    let t := segmentTable state.sourceRouteHdr
    let i := t.count - state.sourceRouteHdr.segmentsLeft.toNat
    let r := ipv6ExtensionHeaderSourceRouteProcessHeaderIncoming createPacketProto state
    r.dstAddr = state.dstAddr ∨
      r.dstAddr = splice state.dstAddr (16 - t.size i).toNat
        ((state.payload.flatten.drop (iovIterPos (iovLens state.payload) state.iter +
          (t.start i).toNat)).take (t.size i).toNat) := by
  intro t i r
  set num := ipv6ExtensionHeaderSourceRouteNumSegments state.sourceRouteHdr
  set index := num - state.sourceRouteHdr.segmentsLeft
  have hle' : state.sourceRouteHdr.segmentsLeft ≤ num := by
    rw [UInt8.le_iff_toNat_le]
    omega
  have hindex : (index.toNat : ℤ) = i := segmentIndex_toNat hcount hle'
  obtain ⟨payload', hupdate, hlens, hdrop⟩ := updateSegmentsLeft_spec state.clearAction
    ⟨h.valid, h.normal, h.fetched⟩ (state.sourceRouteHdr.segmentsLeft - 1)
  have hr : r = _ := (process_of_reaches createPacketProto state hreach).trans (if_pos hle')
  simp only [hupdate, ne_eq, not_true_eq_false, if_false] at hr
  have hnormal : IovIterNormal (iovLens payload') state.iter := hlens ▸ h.normal
  have hset := setSegmentAddr_spec { state.clearAction with
      processedPacket := { state.processedPacket with firstPayloadIov := payload' } }
    hnormal.within index num
    (ipv6ExtensionHeaderSourceRouteGetHeaderLength state.sourceRouteHdr)
  -- the numbers of the code are those of the table
  have helided := numOctetsToElide_lt state.sourceRouteHdr index num
  have hsize : (16 : ℤ) - (numOctetsToElide state.sourceRouteHdr index num).toNat = t.size i :=
    hindex ▸ numOctetsToRead_eq index hcount
  have hoffset : ((segmentOffset state.sourceRouteHdr index).toNat : ℤ) = t.start i :=
    hindex ▸ segmentOffset_toNat index
  have hstart : (segmentOffset state.sourceRouteHdr index).toNat = (t.start i).toNat := by omega
  have helide : (numOctetsToElide state.sourceRouteHdr index num).toNat =
      (16 - t.size i).toNat := by omega
  have hread : 16 - (numOctetsToElide state.sourceRouteHdr index num).toNat =
      (t.size i).toNat := by omega
  have hbehind : payload'.flatten.drop (iovIterPos (iovLens payload') state.iter +
      (t.start i).toNat) = state.payload.flatten.drop
        (iovIterPos (iovLens state.payload) state.iter + (t.start i).toNat) := by
    rw [hlens, ← List.drop_drop, ← List.drop_drop]
    exact congrArg (List.drop _) hdrop
  rw [← hbehind, ← hstart, ← hread, ← helide, hr]
  exact hset.2.imp_left And.right

/-- The claim holds for a packet that gets to its segments exactly when their number fits. -/
theorem sourceRoute_segmentsSafe_iff (h : AtSegments state) :
    (ReachesSegments state → SegmentsSafe createPacketProto state) ↔
      (ReachesSegments state → NumSegmentsFits state.sourceRouteHdr) := by
  constructor
  · intro hsafe hreach
    exact (numSegments_eq_iff _).mp (hsafe hreach).count
  · intro hfits hreach
    have hcount := (numSegments_eq_iff _).mpr (hfits hreach)
    have hleft : 0 < state.sourceRouteHdr.segmentsLeft.toNat := by
      apply Nat.pos_of_ne_zero
      intro h0
      exact hreach.2.1 (UInt8.toNat_inj.mp h0)
    refine ⟨hcount, ?_, ?_⟩
    · intro hlt
      have hnot : ¬ state.sourceRouteHdr.segmentsLeft ≤
          ipv6ExtensionHeaderSourceRouteNumSegments state.sourceRouteHdr := by
        rw [UInt8.le_iff_toNat_le]
        omega
      rw [process_of_reaches createPacketProto state hreach, if_neg hnot]
      exact dropWithParameterProblem_spec createPacketProto state.clearAction 3
        (action_clearAction state)
    · intro hle
      refine ⟨?_, (segmentTable state.sourceRouteHdr).start_add_size_le (by omega),
        segmentsSafe_octets createPacketProto h hreach hcount hle⟩
      exact mul_nonneg (by omega) (segmentTable state.sourceRouteHdr).stride_pos.le

/-- A packet for the present node behind whose header there are 256 octets. -/
def packetAtSegments (hdr : SourceRouteHdr) : Ipv6PacketProcessingState where
  iter := ⟨some 0, 8⟩
  processedPacket := ⟨.zero, [hdr.toBytes ++ List.replicate 256 1]⟩
  offset := 48
  flagsAndAction := PRESENT_NODE_IS_DESTINATION
  nextHeader := 43
  sourceRouteHdr := hdr
  icmpv6 := ⟨⟨none, 0⟩, none, 0⟩

theorem atSegments_packet (hdr : SourceRouteHdr) : AtSegments (packetAtSegments hdr) := by
  have hbytes : hdr.toBytes.length = 8 := by simp [SourceRouteHdr.toBytes]
  have hlens : iovLens (packetAtSegments hdr).payload = [264] := by
    change [(hdr.toBytes ++ List.replicate 256 1).length] = [264]
    rw [List.length_append, List.length_replicate, hbytes]
  refine ⟨rfl, ?_, ?_⟩
  · rw [hlens]
    exact @iovIterNormal_some [] [] 264 8 0 rfl (by decide)
  · rw [hlens]
    exact Nat.le_refl 8

/-- Two segments, the first of which is the next one. -/
theorem sourceRoute_segmentsSafe_two :
    SegmentsSafe (fun _ _ _ _ _ => (none, ⟨none, 0⟩))
      (packetAtSegments ⟨59, 2, 3, 2, 0x88, #v[0, 0, 0]⟩) :=
  (sourceRoute_segmentsSafe_iff _ (atSegments_packet _)).mpr
    (fun _ => Or.inl ⟨by decide, by decide⟩) (by unfold ReachesSegments; decide)

/-- The count of 256 addresses of one octet each is kept as 0, and a header without the space of a
single address has the count 1. -/
theorem sourceRoute_not_segmentsSafe :
    (∃ state, AtSegments state ∧ ReachesSegments state ∧
      (segmentTable state.sourceRouteHdr).count = 256 ∧
      ipv6ExtensionHeaderSourceRouteNumSegments state.sourceRouteHdr = 0 ∧
      ∀ createPacketProto, ¬ SegmentsSafe createPacketProto state) ∧
    ∃ state, AtSegments state ∧ ReachesSegments state ∧
      (segmentTable state.sourceRouteHdr).count = 0 ∧
      ipv6ExtensionHeaderSourceRouteNumSegments state.sourceRouteHdr = 1 ∧
      ∀ createPacketProto, ¬ SegmentsSafe createPacketProto state := by
  constructor
  · refine ⟨packetAtSegments ⟨59, 32, 3, 1, 0xff, #v[0, 0, 0]⟩, atSegments_packet _,
      by unfold ReachesSegments; decide, by decide, by decide, ?_⟩
    intro createPacketProto h
    exact absurd h.count (by decide)
  · refine ⟨packetAtSegments ⟨59, 1, 3, 1, 0x00, #v[0, 0, 0]⟩, atSegments_packet _,
      by unfold ReachesSegments; decide, by decide, by decide, ?_⟩
    intro createPacketProto h
    exact absurd h.count (by decide)

end Whip6
