import Whip6.Lowpan.Header

/-!
# The header codec

The wire format of the headers, and the round trip: what packing writes is the wire format, and
unpacking a payload that starts with the wire format gives the headers back.  The dispatch value
behind the headers ends them, unless a fragmentation header with an offset does.
-/

namespace Whip6

open Lib

/-! ## The wire format -/

/-- The hop limit field of the mesh dispatch: `0x0f` says that the limit is in a byte of its own. -/
def lowpanMeshHopField (hopLimit : UInt8) : UInt8 := if hopLimit < 0x0f then hopLimit else 0x0f

def LowpanUnpackedHeaderMesh.wire (hdr : LowpanUnpackedHeaderMesh) : List UInt8 :=
  (LOWPAN_DISPATCH_PATTERN_MESH ||| lowpanMeshHopField hdr.hopLimit |||
      lowpanMeshDispatchBit 0x20 hdr.srcAddr ||| lowpanMeshDispatchBit 0x10 hdr.dstAddr) ::
    ((if hdr.hopLimit < 0x0f then [] else [hdr.hopLimit]) ++
      (hdr.srcAddr.bytes ++ hdr.dstAddr.bytes))

def LowpanUnpackedHeaderBc0.wire (hdr : LowpanUnpackedHeaderBc0) : List UInt8 :=
  [LOWPAN_DISPATCH_PATTERN_LOWPAN_BC0, hdr.seqNo]

/-- A fragmentation header has its offset on the wire only behind the first fragment. -/
def LowpanUnpackedHeaderFrag.wire (hdr : LowpanUnpackedHeaderFrag) : List UInt8 :=
  [((hdr.size >>> 8).toUInt8 &&& ~~~LOWPAN_DISPATCH_MASK_FRAGX_UNMASKED) |||
      (if hdr.offset > 0 then LOWPAN_DISPATCH_PATTERN_FRAGN else LOWPAN_DISPATCH_PATTERN_FRAG1),
    hdr.size.toUInt8, (hdr.tag >>> 8).toUInt8, hdr.tag.toUInt8] ++
    (if hdr.offset > 0 then [(hdr.offset >>> 3).toUInt8] else [])

/-- The headers that are present, in the order in which they are packed. -/
def LowpanUnpackedFrameHeaders.wire (hdrs : LowpanUnpackedFrameHeaders) : List UInt8 :=
  (if hdrs.bitmap.mesh then hdrs.mesh.wire else []) ++
    ((if hdrs.bitmap.bc0 then hdrs.bc0.wire else []) ++
      (if hdrs.bitmap.frag then hdrs.frag.wire else []))

/-- The mesh header has addresses. -/
structure LowpanUnpackedHeaderMesh.Admissible (hdr : LowpanUnpackedHeaderMesh) : Prop where
  srcAddr_ne : hdr.srcAddr ≠ .none
  dstAddr_ne : hdr.dstAddr ≠ .none

/-- The size fits in eleven bits, and the offset counts eight-byte units in eight bits. -/
structure LowpanUnpackedHeaderFrag.Admissible (hdr : LowpanUnpackedHeaderFrag) : Prop where
  size_lt : hdr.size.toNat < 2048
  offset_mod : hdr.offset.toNat % 8 = 0
  offset_le : hdr.offset.toNat ≤ 2040

/-- The headers that are present have values that the wire format has room for. -/
structure LowpanUnpackedFrameHeaders.Admissible (hdrs : LowpanUnpackedFrameHeaders) : Prop where
  mesh : hdrs.bitmap.mesh → hdrs.mesh.Admissible
  frag : hdrs.bitmap.frag → hdrs.frag.Admissible

/-! ## Dispatch bits -/

theorem uint8_exists_ofNat_lt {x : UInt8} {n : ℕ} (h : x.toNat < n) :
    ∃ k < n, x = UInt8.ofNat k :=
  ⟨x.toNat, h, (UInt8.ofNat_toNat).symm⟩

/-- The fields of a mesh dispatch do not disturb one another. -/
theorem meshDispatch_fields {hop src dst : UInt8} (hhop : hop.toNat < 16)
    (hsrc : src = 0 ∨ src = 0x20) (hdst : dst = 0 ∨ dst = 0x10) :
    let dispatch := LOWPAN_DISPATCH_PATTERN_MESH ||| hop ||| src ||| dst
    dispatch &&& (0x0f : UInt8) = hop ∧ dispatch &&& (0x20 : UInt8) = src ∧
      dispatch &&& (0x10 : UInt8) = dst := by
  obtain ⟨n, hn, rfl⟩ := uint8_exists_ofNat_lt hhop
  rcases hsrc with rfl | rfl <;> rcases hdst with rfl | rfl <;> interval_cases n <;> decide

/-- A mesh dispatch is not taken for one that is tested before it. -/
theorem meshDispatch_kind {hop src dst : UInt8} (hhop : hop.toNat < 16)
    (hsrc : src = 0 ∨ src = 0x20) (hdst : dst = 0 ∨ dst = 0x10) :
    let dispatch := LOWPAN_DISPATCH_PATTERN_MESH ||| hop ||| src ||| dst
    dispatch &&& LOWPAN_DISPATCH_MASK_LOWPAN_IPHC ≠ LOWPAN_DISPATCH_PATTERN_LOWPAN_IPHC ∧
      dispatch &&& LOWPAN_DISPATCH_MASK_IPV6 ≠ LOWPAN_DISPATCH_PATTERN_IPV6 ∧
      dispatch &&& LOWPAN_DISPATCH_MASK_FRAGX ≠ LOWPAN_DISPATCH_PATTERN_FRAGX ∧
      dispatch &&& LOWPAN_DISPATCH_MASK_MESH = LOWPAN_DISPATCH_PATTERN_MESH := by
  obtain ⟨n, hn, rfl⟩ := uint8_exists_ofNat_lt hhop
  rcases hsrc with rfl | rfl <;> rcases hdst with rfl | rfl <;> interval_cases n <;> decide

/-- A fragmentation dispatch is told by its kind, and the upper bits of the size are in it. -/
theorem fragDispatch_kind {hi kind : UInt8} (hhi : hi.toNat < 8)
    (hkind : kind = LOWPAN_DISPATCH_PATTERN_FRAGN ∨ kind = LOWPAN_DISPATCH_PATTERN_FRAG1) :
    let dispatch := hi ||| kind
    dispatch &&& LOWPAN_DISPATCH_MASK_LOWPAN_IPHC ≠ LOWPAN_DISPATCH_PATTERN_LOWPAN_IPHC ∧
      dispatch &&& LOWPAN_DISPATCH_MASK_IPV6 ≠ LOWPAN_DISPATCH_PATTERN_IPV6 ∧
      dispatch &&& LOWPAN_DISPATCH_MASK_FRAGX = LOWPAN_DISPATCH_PATTERN_FRAGX ∧
      dispatch &&& ~~~LOWPAN_DISPATCH_MASK_FRAGX_UNMASKED = hi ∧
      (dispatch &&& LOWPAN_DISPATCH_MASK_FRAGN = LOWPAN_DISPATCH_PATTERN_FRAGN ↔
        kind = LOWPAN_DISPATCH_PATTERN_FRAGN) := by
  obtain ⟨n, hn, rfl⟩ := uint8_exists_ofNat_lt hhi
  rcases hkind with rfl | rfl <;> interval_cases n <;> decide

/-! ## Packing writes the wire format -/

theorem lowpanPackMeshAddr_eq {addr : Ieee154Addr} (haddr : addr ≠ .none) {payload : List UInt8}
    {o payloadLen : ℕ} (hfit : o + addr.bytes.length ≤ payloadLen) :
    lowpanPackMeshAddr addr payload o payloadLen =
      some (splice payload o addr.bytes, o + addr.bytes.length) := by
  cases addr with
  | none => exact absurd rfl haddr
  | shrt a =>
    have hlen : a.toList.length = 2 := Vector.length_toList
    simp only [Ieee154Addr.bytes] at hfit ⊢
    rw [lowpanPackMeshAddr, IEEE154_SHORT_ADDR_BYTE_LENGTH, if_neg (by omega),
      shortMemCpy_eq_splice, List.take_of_length_le hlen.le, hlen]
  | ext a =>
    have hlen : a.toList.length = 8 := Vector.length_toList
    simp only [Ieee154Addr.bytes] at hfit ⊢
    rw [lowpanPackMeshAddr, IEEE154_EXT_ADDR_BYTE_LENGTH, if_neg (by omega),
      shortMemCpy_eq_splice, List.take_of_length_le hlen.le, hlen]

theorem lowpanFrameHeadersPackMeshHdr_eq {hdr : LowpanUnpackedHeaderMesh} (hadm : hdr.Admissible)
    {payload : List UInt8} {o payloadLen : ℕ} (hfit : o + hdr.wire.length ≤ payloadLen) :
    lowpanFrameHeadersPackMeshHdr hdr payload o payloadLen =
      (splice payload o hdr.wire, hdr.wire.length) := by
  simp only [LowpanUnpackedHeaderMesh.wire, lowpanMeshHopField, List.length_cons,
    List.length_append] at hfit ⊢
  unfold lowpanFrameHeadersPackMeshHdr
  by_cases hshallow : hdr.hopLimit < 0x0f
  · simp only [hshallow, if_true, List.length_nil, not_true_eq_false, false_and, if_false,
      List.nil_append] at hfit ⊢
    rw [if_neg (by omega), lowpanPackMeshAddr_eq hadm.srcAddr_ne (by omega)]
    dsimp only
    rw [lowpanPackMeshAddr_eq hadm.dstAddr_ne (by omega), splice_splice_adjacent]
    dsimp only
    rw [set_splice_before]
    exact Prod.ext rfl (by simp only; omega)
  · simp only [hshallow, if_false, List.length_singleton, not_false_eq_true, true_and,
      if_true] at hfit ⊢
    rw [if_neg (by omega), if_neg (by omega), lowpanPackMeshAddr_eq hadm.srcAddr_ne (by omega)]
    dsimp only
    rw [lowpanPackMeshAddr_eq hadm.dstAddr_ne (by omega), splice_splice_adjacent]
    dsimp only
    have hdeep := splice_splice_adjacent payload (o + 1) [hdr.hopLimit]
      (hdr.srcAddr.bytes ++ hdr.dstAddr.bytes)
    rw [List.length_singleton] at hdeep
    rw [set_eq_splice payload, hdeep, set_splice_before]
    exact Prod.ext rfl (by simp only; omega)

theorem lowpanFrameHeadersPackBc0Hdr_eq (hdr : LowpanUnpackedHeaderBc0) {payload : List UInt8}
    {o payloadLen : ℕ} (hfit : o + hdr.wire.length ≤ payloadLen) :
    lowpanFrameHeadersPackBc0Hdr hdr payload o payloadLen =
      (splice payload o hdr.wire, hdr.wire.length) := by
  simp only [LowpanUnpackedHeaderBc0.wire, List.length_cons, List.length_nil] at hfit ⊢
  rw [lowpanFrameHeadersPackBc0Hdr, if_neg (by omega), set_eq_splice payload,
    set_splice_behind payload [_] (p := o + 1) _ rfl]
  rfl

theorem uint16_and_seven_eq_zero_iff (x : UInt16) : x &&& 0x07 = 0 ↔ x.toNat % 8 = 0 := by
  rw [← UInt16.toNat_inj, UInt16.toNat_and, show UInt16.toNat 0x07 = 2 ^ 3 - 1 from rfl,
    Nat.and_two_pow_sub_one_eq_mod]
  rfl

theorem lowpanFrameHeadersPackFragxHdr_eq {hdr : LowpanUnpackedHeaderFrag} (hadm : hdr.Admissible)
    {payload : List UInt8} {o payloadLen : ℕ} (hfit : o + hdr.wire.length ≤ payloadLen) :
    lowpanFrameHeadersPackFragxHdr hdr payload o payloadLen =
      (splice payload o hdr.wire, hdr.wire.length) := by
  have hmod : ¬ hdr.offset &&& (0x07 : UInt16) ≠ 0 :=
    not_not_intro ((uint16_and_seven_eq_zero_iff _).mpr hadm.offset_mod)
  unfold lowpanFrameHeadersPackFragxHdr
  simp only [LowpanUnpackedHeaderFrag.wire, List.length_append, List.length_cons,
    List.length_nil] at hfit ⊢
  have hfields : ((payload.set (o + 1) hdr.size.toUInt8).set (o + 1 + 1)
      (hdr.tag >>> 8).toUInt8).set (o + 1 + 2) hdr.tag.toUInt8 =
      splice payload (o + 1) [hdr.size.toUInt8, (hdr.tag >>> 8).toUInt8, hdr.tag.toUInt8] := by
    rw [set_eq_splice payload, set_splice_behind payload [_] (p := o + 1 + 1) _ rfl,
      set_splice_behind payload ([_] ++ [_]) (p := o + 1 + 2) _ rfl]
    rfl
  rw [hfields]
  by_cases hoff : hdr.offset > 0
  · simp only [hoff, if_true, List.length_singleton, hmod, false_or] at hfit ⊢
    rw [if_neg (by omega), if_neg (by omega),
      set_splice_behind payload [_, _, _] (p := o + 1 + 3) _ rfl, set_splice_before]
    exact Prod.ext rfl (by simp only; omega)
  · simp only [hoff, if_false, List.length_nil] at hfit ⊢
    rw [if_neg (by omega), set_splice_before]
    exact Prod.ext rfl (by simp only; omega)

/-- Packing a header that may be absent writes its wire format, which may be empty. -/
theorem lowpanPackIfPresent_eq {present : Bool} {pack : List UInt8 → ℕ → List UInt8 × ℕ}
    {payload wire : List UInt8} {o : ℕ}
    (hpack : present → 0 < wire.length ∧ pack payload o = (splice payload o wire, wire.length)) :
    lowpanPackIfPresent present pack payload o =
      (splice payload o (if present then wire else []),
        some (o + (if present then wire else []).length)) := by
  cases present with
  | false => simp [lowpanPackIfPresent]
  | true =>
    obtain ⟨hpos, hpack⟩ := hpack rfl
    simp only [lowpanPackIfPresent, hpack, if_true]
    rw [if_neg (by omega)]

/-- Packing admissible headers into a frame that has room for them. -/
theorem lowpanFrameHeadersPack_eq {hdrs : LowpanUnpackedFrameHeaders} {frame : Ieee154DframeInfo}
    (hadm : hdrs.Admissible)
    (hcap : hdrs.wire.length ≤ (ieee154DFrameMaxPayloadLen frame).toNat) :
    lowpanFrameHeadersPack hdrs frame =
      (.noError, { hdrs with nextOffset := hdrs.wire.length },
        frame.setPayload (splice (ieee154DFrameUnsafeGetPayloadPtr frame) 0 hdrs.wire)) := by
  simp only [LowpanUnpackedFrameHeaders.wire, List.length_append] at hcap ⊢
  unfold lowpanFrameHeadersPack
  dsimp only
  rw [lowpanPackIfPresent_eq fun h => ⟨by simp [LowpanUnpackedHeaderMesh.wire],
    lowpanFrameHeadersPackMeshHdr_eq (hadm.mesh h) (by simp only [h, if_true] at hcap; omega)⟩]
  dsimp only
  rw [lowpanPackIfPresent_eq fun h => ⟨by simp [LowpanUnpackedHeaderBc0.wire],
    lowpanFrameHeadersPackBc0Hdr_eq _ (by simp only [h, if_true] at hcap; omega)⟩]
  dsimp only
  rw [lowpanPackIfPresent_eq fun h => ⟨by simp [LowpanUnpackedHeaderFrag.wire],
    lowpanFrameHeadersPackFragxHdr_eq (hadm.frag h) (by simp only [h, if_true] at hcap; omega)⟩]
  dsimp only
  rw [splice_splice_adjacent, Nat.add_assoc, ← List.length_append, splice_splice_adjacent]
  simp only [List.length_append, Nat.zero_add]

/-! ## Unpacking reads the wire format -/

theorem lowpanMeshDispatchBit_cases (bit : UInt8) (addr : Ieee154Addr) :
    lowpanMeshDispatchBit bit addr = 0 ∨ lowpanMeshDispatchBit bit addr = bit := by
  cases addr with
  | none => exact Or.inl rfl
  | shrt _ => exact Or.inl rfl
  | ext _ => exact Or.inr rfl

theorem toNat_lowpanMeshHopField_lt (hopLimit : UInt8) :
    (lowpanMeshHopField hopLimit).toNat < 16 := by
  unfold lowpanMeshHopField
  split_ifs with h
  · exact lt_trans (UInt8.lt_iff_toNat_lt.mp h) (by decide)
  · decide

theorem lowpanUnpackMeshAddr_eq {addr : Ieee154Addr} (haddr : addr ≠ .none) {bit : UInt8}
    (hbit : bit ≠ 0) {payload : List UInt8} {o payloadLen : ℕ}
    (hat : StandsAt payload o addr.bytes) (hfit : o + addr.bytes.length ≤ payloadLen) :
    lowpanUnpackMeshAddr (lowpanMeshDispatchBit bit addr ≠ 0) payload o payloadLen =
      some (addr, o + addr.bytes.length) := by
  have hat0 : StandsAt (payload.drop o) 0 addr.bytes := standsAt_drop.mpr hat
  cases addr with
  | none => exact absurd rfl haddr
  | shrt a =>
    have hlen : (Ieee154Addr.shrt a).bytes.length = 2 := Vector.length_toList
    rw [hlen] at hfit ⊢
    rw [lowpanUnpackMeshAddr, lowpanMeshDispatchBit, if_neg (not_not_intro rfl),
      IEEE154_SHORT_ADDR_BYTE_LENGTH, if_neg (by omega), readAddr_of_standsAt hat0]
    rintro _ ⟨⟩
  | ext a =>
    have hlen : (Ieee154Addr.ext a).bytes.length = 8 := Vector.length_toList
    rw [hlen] at hfit ⊢
    rw [lowpanUnpackMeshAddr, lowpanMeshDispatchBit, if_pos hbit,
      IEEE154_EXT_ADDR_BYTE_LENGTH, if_neg (by omega), readAddr_of_standsAt hat0]

theorem lowpanFrameHeadersUnpackMeshHdr_eq {hdr : LowpanUnpackedHeaderMesh}
    (hadm : hdr.Admissible) (old : LowpanUnpackedHeaderMesh) {payload : List UInt8}
    {o payloadLen : ℕ} (hat : StandsAt payload o hdr.wire)
    (hfit : o + hdr.wire.length ≤ payloadLen) :
    lowpanFrameHeadersUnpackMeshHdr old payload o payloadLen = (hdr, hdr.wire.length) := by
  obtain ⟨hhop, hsrc, hdst⟩ := meshDispatch_fields (toNat_lowpanMeshHopField_lt hdr.hopLimit)
    (lowpanMeshDispatchBit_cases 0x20 hdr.srcAddr) (lowpanMeshDispatchBit_cases 0x10 hdr.dstAddr)
  simp only [LowpanUnpackedHeaderMesh.wire, List.length_cons, List.length_append] at hat hfit ⊢
  have hdispatch := hat.getD_eq (d := 0)
  have htail := hat.tail
  unfold lowpanFrameHeadersUnpackMeshHdr
  simp only [hdispatch, hhop, hsrc, hdst]
  by_cases hshallow : hdr.hopLimit < 0x0f
  · have hne : ¬ hdr.hopLimit = 0x0f := fun h => absurd (h ▸ hshallow) (by decide)
    simp only [lowpanMeshHopField, hshallow, if_true, hne, false_and, if_false, List.nil_append,
      List.length_nil] at htail hfit ⊢
    rw [lowpanUnpackMeshAddr_eq hadm.srcAddr_ne (by decide) htail.left (by omega)]
    dsimp only
    rw [lowpanUnpackMeshAddr_eq hadm.dstAddr_ne (by decide) htail.right (by omega)]
    exact Prod.ext rfl (by simp only; omega)
  · simp only [lowpanMeshHopField, hshallow, if_false, true_and, if_true,
      List.length_singleton, List.singleton_append] at htail hfit ⊢
    have hbehind := htail.tail
    rw [if_neg (by omega), lowpanUnpackMeshAddr_eq hadm.srcAddr_ne (by decide) hbehind.left
      (by omega)]
    dsimp only
    rw [lowpanUnpackMeshAddr_eq hadm.dstAddr_ne (by decide) hbehind.right (by omega),
      htail.getD_eq]
    exact Prod.ext rfl (by simp only; omega)

theorem lowpanFrameHeadersUnpackBc0Hdr_eq (hdr old : LowpanUnpackedHeaderBc0)
    {payload : List UInt8} {o payloadLen : ℕ} (hat : StandsAt payload o hdr.wire)
    (hfit : o + hdr.wire.length ≤ payloadLen) :
    lowpanFrameHeadersUnpackBc0Hdr old payload o payloadLen = (hdr, hdr.wire.length) := by
  simp only [LowpanUnpackedHeaderBc0.wire, List.length_cons, List.length_nil] at hat hfit ⊢
  rw [lowpanFrameHeadersUnpackBc0Hdr, if_neg (by omega), hat.tail.getD_eq]

/-- An offset in eight-byte units is read back from the eight bits that count the units. -/
theorem toUInt8_shiftRight_three {x : UInt16} (hmod : x.toNat % 8 = 0) (hle : x.toNat ≤ 2040) :
    (x >>> 3).toUInt8.toUInt16 <<< 3 = x := by
  rw [← UInt16.toNat_inj, UInt16.toNat_shiftLeft, UInt8.toNat_toUInt16, UInt16.toNat_toUInt8,
    UInt16.toNat_shiftRight, show UInt16.toNat 3 % 16 = 3 from rfl, Nat.shiftRight_eq_div_pow,
    Nat.shiftLeft_eq]
  omega

/-- The upper bits of a size of eleven bits. -/
theorem toUInt8_shiftRight_eight {x : UInt16} (h : x.toNat < 2048) :
    (x >>> 8).toUInt8 &&& ~~~LOWPAN_DISPATCH_MASK_FRAGX_UNMASKED = (x >>> 8).toUInt8 ∧
      (x >>> 8).toUInt8.toNat < 8 := by
  have hlt : (x >>> 8).toUInt8.toNat < 8 := by
    rw [(toNat_networkBytes x).1]
    omega
  obtain ⟨n, hn, hx⟩ := uint8_exists_ofNat_lt hlt
  refine ⟨?_, hlt⟩
  rw [hx]
  interval_cases n <;> decide

theorem lowpanFrameHeadersUnpackFragxHdr_eq {hdr : LowpanUnpackedHeaderFrag}
    (hadm : hdr.Admissible) (old : LowpanUnpackedHeaderFrag) {payload : List UInt8}
    {o payloadLen : ℕ} (hat : StandsAt payload o hdr.wire)
    (hfit : o + hdr.wire.length ≤ payloadLen) :
    lowpanFrameHeadersUnpackFragxHdr old payload o payloadLen = (hdr, hdr.wire.length) := by
  obtain ⟨hmask, hhi⟩ := toUInt8_shiftRight_eight hadm.size_lt
  simp only [LowpanUnpackedHeaderFrag.wire, List.cons_append, List.nil_append, List.length_cons,
    hmask] at hat hfit ⊢
  have hsize := hat.tail.getD_eq (d := 0)
  have htagHi := hat.tail.tail.getD_eq (d := 0)
  have htagLo := hat.tail.tail.tail.getD_eq (d := 0)
  have hbehind := hat.tail.tail.tail.tail
  unfold lowpanFrameHeadersUnpackFragxHdr
  by_cases hoff : hdr.offset > 0
  · simp only [hoff, if_true, List.length_singleton] at hat hbehind hfit ⊢
    obtain ⟨-, -, -, hhi', hkind⟩ := fragDispatch_kind hhi (Or.inl rfl)
    rw [hat.getD_eq, if_neg (by omega), if_pos (hkind.mpr rfl), if_neg (by omega), hhi', hsize,
      htagHi, htagLo, hbehind.getD_eq, networkWord_networkBytes, networkWord_networkBytes,
      toUInt8_shiftRight_three hadm.offset_mod hadm.offset_le]
    exact Prod.ext rfl (by simp only; omega)
  · simp only [hoff, if_false, List.length_nil] at hat hfit ⊢
    obtain ⟨-, -, -, hhi', hkind⟩ := fragDispatch_kind hhi (Or.inr rfl)
    have hzero : hdr.offset = 0 := UInt16.toNat_inj.mp (Nat.le_zero.mp (not_lt.mp hoff))
    rw [hat.getD_eq, if_neg (by omega), if_neg fun h => absurd (hkind.mp h) (by decide), hhi',
      hsize, htagHi, htagLo, networkWord_networkBytes, networkWord_networkBytes, ← hzero]
    exact Prod.ext rfl (by simp only; omega)

/-! ## The loop -/

section Loop

variable {payload : List UInt8} {payloadLen fuel o : ℕ} {hdrs : LowpanUnpackedFrameHeaders}

/-- A dispatch value that ends the headers: an IPv6 header behind it, compressed or not. -/
def LowpanEndsHeaders (dispatch : UInt8) : Prop :=
  dispatch &&& LOWPAN_DISPATCH_MASK_LOWPAN_IPHC = LOWPAN_DISPATCH_PATTERN_LOWPAN_IPHC ∨
    dispatch &&& LOWPAN_DISPATCH_MASK_IPV6 = LOWPAN_DISPATCH_PATTERN_IPV6

theorem unpackLoop_done (hfuel : payloadLen < fuel + o) (ho : o < payloadLen)
    (hends : LowpanEndsHeaders (payload.getD o 0)) :
    lowpanFrameHeadersUnpackLoop payload payloadLen fuel hdrs o =
      (.noError, { hdrs with nextOffset := o }) := by
  obtain ⟨n, rfl⟩ : ∃ n, fuel = n + 1 := ⟨fuel - 1, by omega⟩
  rw [lowpanFrameHeadersUnpackLoop, if_pos ho]
  rcases hends with h | h
  · rw [if_pos h]
  · dsimp only
    rw [if_pos h, ite_self]

theorem unpackLoop_mesh {mesh : LowpanUnpackedHeaderMesh} (hadm : mesh.Admissible)
    (hnone : hdrs.bitmap = .empty) (hat : StandsAt payload o mesh.wire)
    (hfit : o + mesh.wire.length ≤ payloadLen) (hfuel : payloadLen < fuel + o) :
    ∃ fuel', payloadLen < fuel' + (o + mesh.wire.length) ∧
      lowpanFrameHeadersUnpackLoop payload payloadLen fuel hdrs o =
        lowpanFrameHeadersUnpackLoop payload payloadLen fuel'
          { hdrs with bitmap := { hdrs.bitmap with mesh := true }, mesh := mesh }
          (o + mesh.wire.length) := by
  have hpos : 0 < mesh.wire.length := by simp [LowpanUnpackedHeaderMesh.wire]
  obtain ⟨n, rfl⟩ : ∃ n, fuel = n + 1 := ⟨fuel - 1, by omega⟩
  obtain ⟨hiphc, hipv6, hfrag, hmesh⟩ := meshDispatch_kind
    (toNat_lowpanMeshHopField_lt mesh.hopLimit) (lowpanMeshDispatchBit_cases 0x20 mesh.srcAddr)
    (lowpanMeshDispatchBit_cases 0x10 mesh.dstAddr)
  refine ⟨n, by omega, ?_⟩
  rw [lowpanFrameHeadersUnpackLoop, if_pos (by omega), hat.getD_eq]
  dsimp only
  rw [if_neg hiphc, if_neg hipv6, if_neg hfrag, if_pos hmesh,
    if_neg (by simp [hnone, LowpanHeaderBitmap.empty]), lowpanFrameHeadersUnpackMeshHdr_eq hadm _ hat hfit, if_neg (by omega)]

theorem unpackLoop_bc0 {bc0 : LowpanUnpackedHeaderBc0} (hbc0 : hdrs.bitmap.bc0 = false)
    (hfrag : hdrs.bitmap.frag = false) (hat : StandsAt payload o bc0.wire)
    (hfit : o + bc0.wire.length ≤ payloadLen) (hfuel : payloadLen < fuel + o) :
    ∃ fuel', payloadLen < fuel' + (o + bc0.wire.length) ∧
      lowpanFrameHeadersUnpackLoop payload payloadLen fuel hdrs o =
        lowpanFrameHeadersUnpackLoop payload payloadLen fuel'
          { hdrs with bitmap := { hdrs.bitmap with bc0 := true }, bc0 := bc0 }
          (o + bc0.wire.length) := by
  have hpos : bc0.wire.length = 2 := rfl
  obtain ⟨n, rfl⟩ : ∃ n, fuel = n + 1 := ⟨fuel - 1, by omega⟩
  refine ⟨n, by omega, ?_⟩
  rw [lowpanFrameHeadersUnpackLoop, if_pos (by omega), hat.getD_eq]
  dsimp only
  rw [if_neg (by decide), if_neg (by decide), if_neg (by decide), if_neg (by decide),
    if_pos (by decide), if_neg (by simp [hbc0, hfrag]), lowpanFrameHeadersUnpackBc0Hdr_eq bc0 _ hat hfit,
    if_neg (by omega)]

/-- What the loop does at a fragmentation header: an offset other than zero ends the headers. -/
theorem unpackLoop_frag {frag : LowpanUnpackedHeaderFrag} (hadm : frag.Admissible)
    (hfrag : hdrs.bitmap.frag = false) (hat : StandsAt payload o frag.wire)
    (hfit : o + frag.wire.length ≤ payloadLen) (hfuel : payloadLen < fuel + o) :
    ∃ fuel', payloadLen < fuel' + (o + frag.wire.length) ∧
      lowpanFrameHeadersUnpackLoop payload payloadLen fuel hdrs o =
        let hdrs := { hdrs with bitmap := { hdrs.bitmap with frag := true }, frag := frag }
        if frag.offset > 0 then (.noError, { hdrs with nextOffset := o + frag.wire.length })
        else
          lowpanFrameHeadersUnpackLoop payload payloadLen fuel' hdrs (o + frag.wire.length) := by
  have hpos : 0 < frag.wire.length := by simp [LowpanUnpackedHeaderFrag.wire]
  obtain ⟨n, rfl⟩ : ∃ n, fuel = n + 1 := ⟨fuel - 1, by omega⟩
  obtain ⟨hmask, hhi⟩ := toUInt8_shiftRight_eight hadm.size_lt
  have hkind : ∀ p : Prop, [Decidable p] →
      (if p then LOWPAN_DISPATCH_PATTERN_FRAGN else LOWPAN_DISPATCH_PATTERN_FRAG1) =
        LOWPAN_DISPATCH_PATTERN_FRAGN ∨
      (if p then LOWPAN_DISPATCH_PATTERN_FRAGN else LOWPAN_DISPATCH_PATTERN_FRAG1) =
        LOWPAN_DISPATCH_PATTERN_FRAG1 := by
    intro p _
    split_ifs <;> simp
  obtain ⟨hiphc, hipv6, hfragx, -, -⟩ := fragDispatch_kind hhi (hkind (frag.offset > 0))
  have hdispatch := hat.getD_eq (d := 0)
  rw [hmask] at hdispatch
  refine ⟨n, by omega, ?_⟩
  rw [lowpanFrameHeadersUnpackLoop, if_pos (by omega), hdispatch]
  dsimp only
  rw [if_neg hiphc, if_neg hipv6, if_pos hfragx, if_neg (by simp [hfrag]),
    lowpanFrameHeadersUnpackFragxHdr_eq hadm _ hat hfit, if_neg (by omega)]

end Loop

/-! ## The round trip -/

/-- The headers that are present in `hdrs`, read into `old`: the rest of `old` is kept. -/
def LowpanUnpackedFrameHeaders.readInto (hdrs old : LowpanUnpackedFrameHeaders) :
    LowpanUnpackedFrameHeaders where
  bitmap := hdrs.bitmap
  nextOffset := hdrs.wire.length
  frag := if hdrs.bitmap.frag then hdrs.frag else old.frag
  mesh := if hdrs.bitmap.mesh then hdrs.mesh else old.mesh
  bc0 := if hdrs.bitmap.bc0 then hdrs.bc0 else old.bc0

theorem unpackLoop_meshIfPresent (hdrs : LowpanUnpackedFrameHeaders) {present : Bool}
    {mesh : LowpanUnpackedHeaderMesh} {payload : List UInt8} {payloadLen fuel o : ℕ}
    (hadm : present → mesh.Admissible) (hnone : hdrs.bitmap = .empty)
    (hat : StandsAt payload o (if present then mesh.wire else []))
    (hfit : o + (if present then mesh.wire else []).length ≤ payloadLen)
    (hfuel : payloadLen < fuel + o) :
    ∃ fuel', payloadLen < fuel' + (o + (if present then mesh.wire else []).length) ∧
      lowpanFrameHeadersUnpackLoop payload payloadLen fuel hdrs o =
        lowpanFrameHeadersUnpackLoop payload payloadLen fuel'
          { hdrs with
            bitmap := { hdrs.bitmap with mesh := present }
            mesh := if present then mesh else hdrs.mesh }
          (o + (if present then mesh.wire else []).length) := by
  cases present with
  | false =>
    obtain ⟨bitmap, _, _, _, _⟩ := hdrs
    obtain rfl : bitmap = .empty := hnone
    exact ⟨fuel, hfuel, rfl⟩
  | true => exact unpackLoop_mesh (hadm rfl) hnone hat hfit hfuel

theorem unpackLoop_bc0IfPresent (hdrs : LowpanUnpackedFrameHeaders) {present : Bool}
    {bc0 : LowpanUnpackedHeaderBc0} {payload : List UInt8} {payloadLen fuel o : ℕ}
    (hbc0 : hdrs.bitmap.bc0 = false) (hfrag : hdrs.bitmap.frag = false)
    (hat : StandsAt payload o (if present then bc0.wire else []))
    (hfit : o + (if present then bc0.wire else []).length ≤ payloadLen)
    (hfuel : payloadLen < fuel + o) :
    ∃ fuel', payloadLen < fuel' + (o + (if present then bc0.wire else []).length) ∧
      lowpanFrameHeadersUnpackLoop payload payloadLen fuel hdrs o =
        lowpanFrameHeadersUnpackLoop payload payloadLen fuel'
          { hdrs with
            bitmap := { hdrs.bitmap with bc0 := present }
            bc0 := if present then bc0 else hdrs.bc0 }
          (o + (if present then bc0.wire else []).length) := by
  cases present with
  | false =>
    obtain ⟨⟨_, _, bc0Bit⟩, _, _, _, _⟩ := hdrs
    obtain rfl : bc0Bit = false := hbc0
    exact ⟨fuel, hfuel, rfl⟩
  | true => exact unpackLoop_bc0 hbc0 hfrag hat hfit hfuel

/-- The end of the headers: a fragmentation header, if present, and what ends the loop. -/
theorem unpackLoop_fragIfPresent (hdrs : LowpanUnpackedFrameHeaders) {present : Bool}
    {frag : LowpanUnpackedHeaderFrag} {payload : List UInt8} {payloadLen fuel o : ℕ}
    (hadm : present → frag.Admissible) (hfrag : hdrs.bitmap.frag = false)
    (hat : StandsAt payload o (if present then frag.wire else []))
    (hfit : o + (if present then frag.wire else []).length ≤ payloadLen)
    (hfuel : payloadLen < fuel + o)
    (hnext : (present ∧ frag.offset > 0) ∨
      o + (if present then frag.wire else []).length < payloadLen ∧
        LowpanEndsHeaders (payload.getD (o + (if present then frag.wire else []).length) 0)) :
    lowpanFrameHeadersUnpackLoop payload payloadLen fuel hdrs o =
      (.noError,
        { hdrs with
          bitmap := { hdrs.bitmap with frag := present }
          nextOffset := o + (if present then frag.wire else []).length
          frag := if present then frag else hdrs.frag }) := by
  cases present with
  | false =>
    obtain ⟨hlt, hends⟩ := hnext.resolve_left fun h => Bool.false_ne_true h.1
    obtain ⟨⟨fragBit, _, _⟩, _, _, _, _⟩ := hdrs
    obtain rfl : fragBit = false := hfrag
    exact unpackLoop_done hfuel hlt hends
  | true =>
    obtain ⟨fuel', hfuel', hloop⟩ := unpackLoop_frag (hadm rfl) hfrag hat hfit hfuel
    rw [hloop]
    by_cases hoff : frag.offset > 0
    · exact if_pos hoff
    · obtain ⟨hlt, hends⟩ := hnext.resolve_left fun h => hoff h.2
      exact (if_neg hoff).trans (unpackLoop_done hfuel' hlt hends)

/-- A payload that starts with the wire format of some headers unpacks to these headers. -/
theorem lowpanFrameHeadersUnpackLoop_wire {hdrs : LowpanUnpackedFrameHeaders}
    (hadm : hdrs.Admissible) (old : LowpanUnpackedFrameHeaders) {payload : List UInt8}
    {payloadLen : ℕ} (hat : StandsAt payload 0 hdrs.wire) (hfit : hdrs.wire.length ≤ payloadLen)
    (hnext : (hdrs.bitmap.frag ∧ hdrs.frag.offset > 0) ∨
      hdrs.wire.length < payloadLen ∧ LowpanEndsHeaders (payload.getD hdrs.wire.length 0)) :
    lowpanFrameHeadersUnpackLoop payload payloadLen (payloadLen + 1)
      { old with bitmap := .empty, nextOffset := 0 } 0 = (.noError, hdrs.readInto old) := by
  rw [LowpanUnpackedFrameHeaders.wire, ← List.append_assoc] at hat
  simp only [LowpanUnpackedFrameHeaders.readInto, LowpanUnpackedFrameHeaders.wire,
    List.length_append] at hfit hnext ⊢
  obtain ⟨fuel1, hfuel1, hloop1⟩ := unpackLoop_meshIfPresent
    { old with bitmap := .empty, nextOffset := 0 } hadm.mesh rfl hat.left.left (by omega)
    (by omega : payloadLen < (payloadLen + 1) + 0)
  obtain ⟨fuel2, hfuel2, hloop2⟩ := unpackLoop_bc0IfPresent
    { old with
      bitmap := ⟨false, hdrs.bitmap.mesh, false⟩, nextOffset := 0
      mesh := if hdrs.bitmap.mesh then hdrs.mesh else old.mesh }
    rfl rfl hat.left.right (by omega) hfuel1
  have hat3 := hat.right
  rw [List.length_append, ← Nat.add_assoc] at hat3
  have hloop3 := unpackLoop_fragIfPresent
    { old with
      bitmap := ⟨false, hdrs.bitmap.mesh, hdrs.bitmap.bc0⟩, nextOffset := 0
      mesh := if hdrs.bitmap.mesh then hdrs.mesh else old.mesh
      bc0 := if hdrs.bitmap.bc0 then hdrs.bc0 else old.bc0 }
    hadm.frag rfl hat3 (by omega) hfuel2
    (by simpa only [Nat.zero_add, Nat.add_assoc] using hnext)
  refine hloop1.trans (hloop2.trans (hloop3.trans ?_))
  simp only [Nat.zero_add, Nat.add_assoc]

/-- A frame as its sender leaves it: behind the headers that were packed into it comes the rest of
the payload, and the length is set. -/
def lowpanFrameWithRest (packed : Whip6Error × LowpanUnpackedFrameHeaders × Ieee154DframeInfo)
    (rest : List UInt8) : Ieee154DframeInfo :=
  let frame := packed.2.2.setPayload
    (splice (ieee154DFrameUnsafeGetPayloadPtr packed.2.2) packed.2.1.nextOffset rest)
  ieee154DFrameSetPayloadLen frame (UInt8.ofNat (packed.2.1.nextOffset + rest.length))

theorem lowpanFrameWithRest_payload {hdrs : LowpanUnpackedFrameHeaders} {frame : Ieee154DframeInfo}
    {rest wire : List UInt8} (hframe : frame.Valid)
    {packed : Whip6Error × LowpanUnpackedFrameHeaders × Ieee154DframeInfo}
    (hpacked : packed = (.noError, { hdrs with nextOffset := wire.length },
      frame.setPayload (splice (ieee154DFrameUnsafeGetPayloadPtr frame) 0 wire)))
    (hcap : wire.length + rest.length ≤ (ieee154DFrameMaxPayloadLen frame).toNat) :
    ieee154DFrameUnsafeGetPayloadPtr (lowpanFrameWithRest packed rest) =
        splice (ieee154DFrameUnsafeGetPayloadPtr frame) 0 (wire ++ rest) ∧
      (ieee154DFrameGetPayloadLen (lowpanFrameWithRest packed rest)).toNat =
        wire.length + rest.length := by
  have hmax := (ieee154DFrameMaxPayloadLen frame).toNat_lt
  have hframe1 := hframe.setPayload
    (length_splice (ieee154DFrameUnsafeGetPayloadPtr frame) 0 wire)
  have hptr1 := hframe.payloadPtr_setPayload
    (splice (ieee154DFrameUnsafeGetPayloadPtr frame) 0 wire)
  have hframe2 := hframe1.setPayload
    (length_splice (ieee154DFrameUnsafeGetPayloadPtr _) wire.length rest)
  have hadjacent := splice_splice_adjacent (ieee154DFrameUnsafeGetPayloadPtr frame) 0 wire rest
  rw [Nat.zero_add] at hadjacent
  subst hpacked
  simp only [lowpanFrameWithRest]
  refine ⟨?_, ?_⟩
  · rw [payloadPtr_setPayloadLen, hframe1.payloadPtr_setPayload, hptr1, hadjacent]
  · rw [getPayloadLen_setPayloadLen hframe2.bufferPtr_ne_nil, UInt8.toNat_ofNat']
    omega

/-- **Round trip of the header codec.**  Admissible headers that are packed into a frame with room
for them and for what follows are unpacked from the frame again, whatever the target of the
unpacking held before. -/
theorem lowpanFrameHeaders_roundTrip (hdrs old : LowpanUnpackedFrameHeaders)
    (frame : Ieee154DframeInfo) (rest : List UInt8) (hadm : hdrs.Admissible) (hframe : frame.Valid)
    (hcap : hdrs.wire.length + rest.length ≤ (ieee154DFrameMaxPayloadLen frame).toNat)
    (hnext : (hdrs.bitmap.frag ∧ hdrs.frag.offset > 0) ∨
      ∃ dispatch ∈ rest.head?, LowpanEndsHeaders dispatch) :
    let packed := lowpanFrameHeadersPack hdrs frame
    let unpacked := lowpanFrameHeadersUnpack old (lowpanFrameWithRest packed rest)
    packed.1 = .noError ∧ unpacked.1 = .noError ∧
      unpacked.2.bitmap = hdrs.bitmap ∧ unpacked.2.nextOffset = packed.2.1.nextOffset ∧
      (hdrs.bitmap.mesh → unpacked.2.mesh = hdrs.mesh) ∧
      (hdrs.bitmap.bc0 → unpacked.2.bc0 = hdrs.bc0) ∧
      (hdrs.bitmap.frag → unpacked.2.frag = hdrs.frag) := by
  have hpack := lowpanFrameHeadersPack_eq hadm ((Nat.le_add_right _ _).trans hcap)
  have hunpack : lowpanFrameHeadersUnpack old
      (lowpanFrameWithRest (lowpanFrameHeadersPack hdrs frame) rest) =
      (.noError, hdrs.readInto old) := by
    obtain ⟨hptr, hlen⟩ := lowpanFrameWithRest_payload hframe hpack hcap
    have hroom := hframe.length_payloadPtr
    have hat : StandsAt (splice (ieee154DFrameUnsafeGetPayloadPtr frame) 0 (hdrs.wire ++ rest)) 0
        (hdrs.wire ++ rest) :=
      standsAt_splice (by rw [List.length_append]; omega)
    rw [lowpanFrameHeadersUnpack, hptr, hlen]
    refine lowpanFrameHeadersUnpackLoop_wire hadm old hat.left (Nat.le_add_right _ _)
      (hnext.imp_right ?_)
    rintro ⟨dispatch, hmem, hends⟩
    obtain ⟨tail, rfl⟩ := List.head?_eq_some_iff.mp hmem
    have hdispatch := hat.right.getD_eq (d := 0)
    rw [Nat.zero_add] at hdispatch
    exact ⟨by simp, by rwa [hdispatch]⟩
  dsimp only
  rw [hunpack, hpack]
  refine ⟨rfl, rfl, rfl, rfl, ?_, ?_, ?_⟩
  · exact fun h => if_pos h
  · exact fun h => if_pos h
  · exact fun h => if_pos h

/-- All three headers, the hop limit in a byte of its own, in a frame of 60 bytes. -/
theorem lowpanFrameHeaders_roundTrip_three :
    let hdrs : LowpanUnpackedFrameHeaders :=
      ⟨⟨true, true, true⟩, 0, ⟨0x1234, 1280, 96⟩,
        ⟨200, .ext #v[1, 2, 3, 4, 5, 6, 7, 8], .shrt #v[0xff, 0xff]⟩, ⟨7⟩⟩
    let old : LowpanUnpackedFrameHeaders :=
      ⟨⟨true, false, false⟩, 9, ⟨1, 2, 3⟩, ⟨1, .none, .none⟩, ⟨0⟩⟩
    let frame : Ieee154DframeInfo := ⟨List.replicate 60 0, 60, 10, 66, 0x44⟩
    let packed := lowpanFrameHeadersPack hdrs frame
    let unpacked := lowpanFrameHeadersUnpack old (lowpanFrameWithRest packed [10, 20, 30])
    packed.1 = .noError ∧ unpacked.1 = .noError ∧
      unpacked.2.bitmap = hdrs.bitmap ∧ unpacked.2.nextOffset = packed.2.1.nextOffset ∧
      (hdrs.bitmap.mesh → unpacked.2.mesh = hdrs.mesh) ∧
      (hdrs.bitmap.bc0 → unpacked.2.bc0 = hdrs.bc0) ∧
      (hdrs.bitmap.frag → unpacked.2.frag = hdrs.frag) :=
  lowpanFrameHeaders_roundTrip _ _ _ [10, 20, 30]
    ⟨fun _ => ⟨by decide, by decide⟩, fun _ => ⟨by decide, by decide, by decide⟩⟩
    ⟨by decide, by decide⟩ (by decide) (Or.inl ⟨rfl, by decide⟩)

end Whip6
