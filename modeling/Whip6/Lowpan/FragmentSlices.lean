import Whip6.Lib.Spans
import Whip6.Lowpan.FragmentCopy
import Whip6.Lowpan.Fragmenter
import Whip6.Lowpan.HeaderCodec

/-!
# The slices of a packet

Each fragment carries the next slice of the bytes of its packet, behind headers that say where the
slice belongs.  All slices but the last are as long as the room in their frame allows in units of
eight bytes.
-/

namespace Whip6

open Lib

/-- The bytes of a packet: the header and as much of the chain as the header says. -/
def lowpanPacketBytes (content : Ipv6Packet) : List UInt8 :=
  content.header.bytes ++
    content.firstPayloadIov.flatten.take (ipv6BasicHeaderGetPayloadLength content.header).toNat

/-- The number of bytes of a packet. -/
def lowpanPacketSize (content : Ipv6Packet) : ℕ :=
  40 + (ipv6BasicHeaderGetPayloadLength content.header).toNat

/-- A packet that the fragmenter takes: not too long, and with a chain that is long enough. -/
structure LowpanFragmentable (content : Ipv6Packet) : Prop where
  le_max : (ipv6BasicHeaderGetPayloadLength content.header).toNat ≤
    WHIP6_LOWPAN_MAX_PACKET_LENGTH - 40
  le_chain : (ipv6BasicHeaderGetPayloadLength content.header).toNat ≤
    iovGetTotalLength content.firstPayloadIov

/-! ## What packing succeeds on -/

section Pack

variable {payload : List UInt8} {o n : ℕ}

theorem lowpanPackMeshAddr_fits {addr : Ieee154Addr} {r : List UInt8 × ℕ}
    (h : lowpanPackMeshAddr addr payload o n = some r) :
    addr ≠ .none ∧ o + addr.bytes.length ≤ n ∧ r.2 = o + addr.bytes.length := by
  cases addr with
  | none => cases h
  | shrt a =>
    have hlen : a.toList.length = 2 := Vector.length_toList
    unfold lowpanPackMeshAddr IEEE154_SHORT_ADDR_BYTE_LENGTH at h
    dsimp only at h
    split_ifs at h with hfit
    obtain rfl := Option.some.inj h
    rw [Ieee154Addr.bytes, hlen]
    exact ⟨Ieee154Addr.noConfusion, not_lt.mp hfit, rfl⟩
  | ext a =>
    have hlen : a.toList.length = 8 := Vector.length_toList
    unfold lowpanPackMeshAddr IEEE154_EXT_ADDR_BYTE_LENGTH at h
    dsimp only at h
    split_ifs at h with hfit
    obtain rfl := Option.some.inj h
    rw [Ieee154Addr.bytes, hlen]
    exact ⟨Ieee154Addr.noConfusion, not_lt.mp hfit, rfl⟩

theorem lowpanFrameHeadersPackMeshHdr_fits {hdr : LowpanUnpackedHeaderMesh}
    (h : (lowpanFrameHeadersPackMeshHdr hdr payload o n).2 ≠ 0) :
    hdr.Admissible ∧ o + hdr.wire.length ≤ n := by
  unfold lowpanFrameHeadersPackMeshHdr at h
  dsimp only at h
  split_ifs at h with hstart hdeep hhop
  · exact absurd rfl h
  · exact absurd rfl h
  all_goals
    split at h
    · exact absurd rfl h
    next hsrc =>
      split at h
      · exact absurd rfl h
      next hdst =>
        obtain ⟨hsrcNe, hsrcFit, hsrcOff⟩ := lowpanPackMeshAddr_fits hsrc
        obtain ⟨hdstNe, hdstFit, -⟩ := lowpanPackMeshAddr_fits hdst
        refine ⟨⟨hsrcNe, hdstNe⟩, ?_⟩
        simp only [LowpanUnpackedHeaderMesh.wire, List.length_cons, List.length_append]
        dsimp only at hsrcOff
        first
        | rw [if_neg hhop, List.length_singleton]; omega
        | rw [if_pos hhop, List.length_nil]; omega

theorem lowpanFrameHeadersPackBc0Hdr_fits {hdr : LowpanUnpackedHeaderBc0}
    (h : (lowpanFrameHeadersPackBc0Hdr hdr payload o n).2 ≠ 0) : o + hdr.wire.length ≤ n := by
  unfold lowpanFrameHeadersPackBc0Hdr at h
  split_ifs at h with hfit
  · exact absurd rfl h
  · exact not_lt.mp hfit

theorem lowpanFrameHeadersPackFragxHdr_fits {hdr : LowpanUnpackedHeaderFrag}
    (h : (lowpanFrameHeadersPackFragxHdr hdr payload o n).2 ≠ 0) : o + hdr.wire.length ≤ n := by
  unfold lowpanFrameHeadersPackFragxHdr at h
  dsimp only at h
  unfold LowpanUnpackedHeaderFrag.wire
  by_cases hfit : o + 1 + 3 > n
  · rw [if_pos hfit] at h
    exact absurd rfl h
  rw [if_neg hfit] at h
  by_cases hoff : hdr.offset > 0
  · rw [if_pos hoff] at h
    by_cases hbad : hdr.offset &&& (0x07 : UInt16) ≠ 0 ∨ o + 1 + 3 ≥ n
    · rw [if_pos hbad] at h
      exact absurd rfl h
    · simp only [if_pos hoff, List.length_append, List.length_cons, List.length_nil]
      omega
  · simp only [if_neg hoff, List.length_append, List.length_cons, List.length_nil]
    omega

theorem lowpanPackIfPresent_fits {present : Bool} {pack : List UInt8 → ℕ → List UInt8 × ℕ}
    {payloadOff : ℕ} {payload' : List UInt8} (wire : List UInt8) (ho : o ≤ n)
    (hpack : present → (pack payload o).2 ≠ 0 →
      o + wire.length ≤ n ∧ pack payload o = (splice payload o wire, wire.length))
    (h : lowpanPackIfPresent present pack payload o = (payload', some payloadOff)) :
    payload' = splice payload o (if present then wire else []) ∧
      payloadOff = o + (if present then wire else []).length ∧ payloadOff ≤ n ∧
      (present → (pack payload o).2 ≠ 0) := by
  unfold lowpanPackIfPresent at h
  cases present with
  | false =>
    obtain ⟨rfl, hoff⟩ := Prod.mk.inj h
    obtain rfl := Option.some.inj hoff
    simp [ho]
  | true =>
    dsimp only at h
    rw [if_pos rfl] at h
    split_ifs at h with hzero
    · cases h
    obtain ⟨hfit, heq⟩ := hpack rfl hzero
    obtain ⟨rfl, hoff⟩ := Prod.mk.inj h
    obtain rfl := Option.some.inj hoff
    rw [heq] at hzero ⊢
    exact ⟨rfl, rfl, hfit, fun _ => hzero⟩

end Pack

/-- Headers that were packed are admissible and had room, and what was written is their wire format. -/
theorem lowpanFrameHeadersPack_ok {hdrs : LowpanUnpackedFrameHeaders} {frame : Ieee154DframeInfo}
    (hfrag : hdrs.bitmap.frag → hdrs.frag.Admissible)
    (hok : (lowpanFrameHeadersPack hdrs frame).1 = .noError) :
    hdrs.Admissible ∧ hdrs.wire.length ≤ (ieee154DFrameMaxPayloadLen frame).toNat := by
  have hok' := hok
  unfold lowpanFrameHeadersPack at hok'
  dsimp only at hok'
  split at hok'
  · cases hok'
  next payload₁ off₁ hmesh =>
    obtain ⟨-, hoff₁, hle₁, hpresent⟩ := lowpanPackIfPresent_fits hdrs.mesh.wire
      (Nat.zero_le _) (fun _ hne => by
        obtain ⟨hadm, hfit⟩ := lowpanFrameHeadersPackMeshHdr_fits hne
        exact ⟨hfit, lowpanFrameHeadersPackMeshHdr_eq hadm hfit⟩) hmesh
    split at hok'
    · cases hok'
    next payload₂ off₂ hbc0 =>
      obtain ⟨-, hoff₂, hle₂, -⟩ := lowpanPackIfPresent_fits hdrs.bc0.wire hle₁
        (fun _ hne => by
          have hfit := lowpanFrameHeadersPackBc0Hdr_fits hne
          exact ⟨hfit, lowpanFrameHeadersPackBc0Hdr_eq _ hfit⟩) hbc0
      split at hok'
      · cases hok'
      next payload₃ off₃ hfragPack =>
        obtain ⟨-, hoff₃, hle₃, -⟩ := lowpanPackIfPresent_fits hdrs.frag.wire hle₂
          (fun hpresent hne => by
            have hfit := lowpanFrameHeadersPackFragxHdr_fits hne
            exact ⟨hfit, lowpanFrameHeadersPackFragxHdr_eq (hfrag hpresent) hfit⟩) hfragPack
        refine ⟨⟨fun h => (lowpanFrameHeadersPackMeshHdr_fits (hpresent h)).1, hfrag⟩, ?_⟩
        simp only [LowpanUnpackedFrameHeaders.wire, List.length_append]
        omega

/-! ## What a fragment puts into its frame -/

theorem take_append_splice_drop (xs ys : List UInt8) {o : ℕ} (ho : o ≤ xs.length) :
    xs.take o ++ splice (xs.drop o) 0 ys = splice xs o ys := by
  have hlen : (xs.take o).length = o := by simp [ho]
  conv_rhs => rw [← List.take_append_drop o xs]
  rw [splice_append_of_le _ _ hlen.le, hlen, Nat.sub_self]

/-- The length of the next fragment: it fits, and it is the rest or a multiple of eight. -/
theorem lowpanFragmenterFragLen_spec (maxFragSize : UInt16) (room : ℕ) :
    let len := lowpanFragmenterFragLen maxFragSize room
    len ≤ room ∧ len ≤ maxFragSize.toNat ∧ (len % 8 = 0 ∨ len = maxFragSize.toNat) := by
  dsimp only
  unfold lowpanFragmenterFragLen
  split_ifs with hlt
  · exact ⟨hlt.le, le_rfl, Or.inr rfl⟩
  · exact ⟨by omega, by omega, Or.inl (by omega)⟩

theorem length_lowpanPacketBytes {content : Ipv6Packet} (hcontent : LowpanFragmentable content) :
    (lowpanPacketBytes content).length = lowpanPacketSize content := by
  have hchain := hcontent.le_chain
  rw [iovGetTotalLength_eq] at hchain
  rw [lowpanPacketBytes, List.length_append, content.header.length_bytes, List.length_take,
    min_eq_left hchain, lowpanPacketSize]

theorem toNat_lowpanPacketSize {content : Ipv6Packet} (hcontent : LowpanFragmentable content) :
    (ipv6BasicHeaderGetPayloadLength content.header + 40).toNat = lowpanPacketSize content := by
  have hmax := hcontent.le_max
  rw [WHIP6_LOWPAN_MAX_PACKET_LENGTH] at hmax
  rw [UInt16.toNat_add, lowpanPacketSize]
  simp only [UInt16.reduceToNat]
  omega

theorem lowpanPacketSize_le {content : Ipv6Packet} (hcontent : LowpanFragmentable content) :
    lowpanPacketSize content ≤ 1280 := by
  have hmax := hcontent.le_max
  rw [WHIP6_LOWPAN_MAX_PACKET_LENGTH] at hmax
  rw [lowpanPacketSize]
  omega

/-- The bytes of a packet up to one in the chain. -/
theorem take_lowpanPacketBytes {content : Ipv6Packet} {n : ℕ} (hle : 40 ≤ n)
    (hsize : n ≤ lowpanPacketSize content) :
    (lowpanPacketBytes content).take n =
      content.header.bytes ++ content.firstPayloadIov.flatten.take (n - 40) := by
  rw [lowpanPacketSize] at hsize
  rw [lowpanPacketBytes, List.take_append, content.header.length_bytes, List.take_take,
    List.take_of_length_le (content.header.length_bytes.trans_le hle), min_eq_left (by omega)]

/-- The bytes of a packet from one in the chain on. -/
theorem slice_lowpanPacketBytes {content : Ipv6Packet} {o n : ℕ} (hle : 40 ≤ o)
    (hsize : o + n ≤ lowpanPacketSize content) :
    ((lowpanPacketBytes content).drop o).take n =
      (content.firstPayloadIov.flatten.drop (o - 40)).take n := by
  rw [lowpanPacketSize] at hsize
  rw [lowpanPacketBytes, List.drop_append, content.header.length_bytes,
    List.drop_of_length_le (content.header.length_bytes.trans_le hle), List.nil_append,
    List.drop_take, List.take_take, min_eq_left (by omega)]

/-- The bytes of a packet that lie in its header. -/
theorem header_lowpanPacketBytes {content : Ipv6Packet} {o n : ℕ} (hle : n ≤ 40 - o) :
    ((lowpanPacketBytes content).drop o).take n = (content.header.bytes.drop o).take n := by
  rcases Nat.eq_zero_or_pos n with rfl | hpos
  · rfl
  have hlen := content.header.length_bytes
  rw [lowpanPacketBytes, List.drop_append_of_le_length (by omega),
    List.take_append_of_le_length (by rw [List.length_drop]; omega)]

/-- Copying first from the header and then from the chain copies from the packet. -/
theorem shortMemCpy_iovShortRead_eq {content : Ipv6Packet} {ptr : List UInt8} {o len dst : ℕ}
    (hsize : o + len ≤ lowpanPacketSize content) (hfit : dst + len ≤ ptr.length) :
    let tmp := if o < 40 then min len (40 - o) else 0
    let copied := shortMemCpy (content.header.bytes.drop o) ptr dst tmp
    (if len - tmp > 0 then
        copied.take (dst + tmp) ++ (iovShortRead content.firstPayloadIov (o + tmp - 40)
          (some (copied.drop (dst + tmp))) (len - tmp)).2.getD []
      else copied) =
      splice ptr dst (((lowpanPacketBytes content).drop o).take len) := by
  intro tmp copied
  have htmp : tmp ≤ 40 - o ∧ tmp ≤ len ∧ (tmp < len → 40 ≤ o + tmp) := by
    dsimp only [tmp]
    split_ifs <;> omega
  obtain ⟨hheader, htmpLen, hchain⟩ := htmp
  have hcopied : copied = splice ptr dst (((lowpanPacketBytes content).drop o).take tmp) := by
    rw [header_lowpanPacketBytes hheader]
    exact shortMemCpy_eq_splice _ _ _ _
  clear_value tmp copied
  subst hcopied
  split
  next hlt =>
    have hge := hchain (by omega)
    have hlen : (((lowpanPacketBytes content).drop o).take tmp).length = tmp := by
      have hheaderLen := content.header.length_bytes
      rw [header_lowpanPacketBytes hheader, List.length_take, List.length_drop]
      omega
    have hadjacent := splice_splice_adjacent ptr dst (((lowpanPacketBytes content).drop o).take tmp)
      (((lowpanPacketBytes content).drop (o + tmp)).take (len - tmp))
    rw [hlen, ← List.drop_drop, ← List.take_add, Nat.add_sub_cancel' htmpLen] at hadjacent
    rw [iovShortRead_spec, Option.getD_some, take_append_splice_drop _ _ (by
      rw [length_splice]; omega), ← slice_lowpanPacketBytes hge (by omega), ← List.drop_drop,
      hadjacent]
  next hge =>
    rw [show tmp = len by omega]

/-- What comes behind the headers: the dispatch of a raw IPv6 header in the first fragment, and the
bytes of the packet. -/
def lowpanFragmentRest (content : Ipv6Packet) (offset len : ℕ) : List UInt8 :=
  (if offset = 0 then [LOWPAN_DISPATCH_PATTERN_IPV6] else []) ++
    ((lowpanPacketBytes content).drop offset).take len

/-- The next `len` bytes of the packet were put into the frame behind the headers. -/
structure LowpanFragmentPut (token : LowpanFragPacketState) (content : Ipv6Packet)
    (hdrs : LowpanUnpackedFrameHeaders) (frame : Ieee154DframeInfo) (len : ℕ)
    (p : Whip6Error × LowpanFragPacketState × Ieee154DframeInfo) : Prop where
  pos : 0 < len
  le_size : token.fragOffset.toNat + len ≤ lowpanPacketSize content
  aligned : len % 8 = 0 ∨ token.fragOffset.toNat + len = lowpanPacketSize content
  fits : hdrs.nextOffset + (lowpanFragmentRest content token.fragOffset.toNat len).length ≤
    (ieee154DFrameMaxPayloadLen frame).toNat
  eq : p = (.noError,
    { token with fragOffset := UInt16.ofNat (token.fragOffset.toNat + len) },
    lowpanFrameWithRest (.noError, hdrs, frame)
      (lowpanFragmentRest content token.fragOffset.toNat len))

section Put

variable {token : LowpanFragPacketState} {content : Ipv6Packet}
  {hdrs : LowpanUnpackedFrameHeaders} {frame : Ieee154DframeInfo}

theorem length_lowpanFragmentRest (hcontent : LowpanFragmentable content) (offset len : ℕ)
    (hle : offset + len ≤ lowpanPacketSize content) :
    (lowpanFragmentRest content offset len).length = (if offset = 0 then 1 else 0) + len := by
  rw [lowpanFragmentRest, List.length_append, List.length_take, List.length_drop,
    length_lowpanPacketBytes hcontent, min_eq_left (by omega)]
  split_ifs <;> rfl

/-- The first fragment is put into the frame, or the packet state is left alone. -/
theorem lowpanFragmenterPackFirstFragment_spec (hcontent : LowpanFragmentable content)
    (hframe : frame.Valid) (hoff : token.fragOffset = 0) (fragFlags : UInt8) :
    let p := lowpanFragmenterPackFirstFragment token content hdrs.nextOffset frame fragFlags
    (p.1 ≠ .noError ∧ p.2.1 = token) ∨ ∃ len, LowpanFragmentPut token content hdrs frame len p := by
  dsimp only
  unfold lowpanFragmenterPackFirstFragment lowpanFragmenterPackFirstFragmentWithRawIpv6Header
  have hzero : token.fragOffset.toNat = 0 := by rw [hoff]; rfl
  obtain ⟨hroom, hsize, haligned⟩ := lowpanFragmenterFragLen_spec
    (ipv6BasicHeaderGetPayloadLength content.header + 40)
    ((ieee154DFrameMaxPayloadLen frame).toNat - (hdrs.nextOffset + 1))
  rw [toNat_lowpanPacketSize hcontent] at hsize haligned
  have hptr := hframe.length_payloadPtr
  dsimp only
  split_ifs with hflags hfull hempty hheader
  · exact Or.inl ⟨Whip6Error.noConfusion, rfl⟩
  · exact Or.inl ⟨Whip6Error.noConfusion, rfl⟩
  · exact Or.inl ⟨Whip6Error.noConfusion, rfl⟩
  all_goals
    right
    generalize lowpanFragmenterFragLen (ipv6BasicHeaderGetPayloadLength content.header + 40)
      ((ieee154DFrameMaxPayloadLen frame).toNat - (hdrs.nextOffset + 1)) = len at *
    have hlen := length_lowpanFragmentRest hcontent 0 len (by omega)
    rw [if_pos rfl] at hlen
    refine ⟨len, by omega, by omega, by omega, by rw [hzero, hlen]; omega, ?_⟩
    have hdispatch : splice ((ieee154DFrameUnsafeGetPayloadPtr frame).set hdrs.nextOffset
        LOWPAN_DISPATCH_PATTERN_IPV6) (hdrs.nextOffset + 1) ((lowpanPacketBytes content).take len) =
        splice (ieee154DFrameUnsafeGetPayloadPtr frame) hdrs.nextOffset
          (lowpanFragmentRest content 0 len) := by
      rw [set_eq_splice]
      exact splice_splice_adjacent _ _ [_] _
    rw [hzero, Nat.zero_add, lowpanFrameWithRest, hlen, ← hdispatch, ← Nat.add_assoc]
  · rw [shortMemCpy_eq_splice, lowpanPacketBytes,
      List.take_append_of_le_length (hheader.trans_eq content.header.length_bytes.symm)]
  · have hle : 40 ≤ len := by omega
    have hcopied := splice_splice_adjacent ((ieee154DFrameUnsafeGetPayloadPtr frame).set
      hdrs.nextOffset LOWPAN_DISPATCH_PATTERN_IPV6) (hdrs.nextOffset + 1) content.header.bytes
      (content.firstPayloadIov.flatten.take (len - 40))
    have hchain := hcontent.le_chain
    rw [iovGetTotalLength_eq] at hchain
    rw [lowpanPacketSize] at hsize
    have hread : min (len - 40) (content.firstPayloadIov.flatten.length - 0) = len - 40 := by omega
    rw [content.header.length_bytes] at hcopied
    simp only [iovShortRead_spec, hread, Option.getD_some, List.drop_zero, shortMemCpy_eq_splice,
      List.take_of_length_le content.header.length_bytes.le]
    rw [take_append_splice_drop, hcopied, take_lowpanPacketBytes hle]
    · have hsum : 40 + UInt16.ofNat (len - 40) = UInt16.ofNat len := by
        rw [show (40 : UInt16) = UInt16.ofNat 40 from rfl, ← UInt16.ofNat_add]
        congr 1
        omega
      rw [hsum, Nat.add_assoc _ 40, Nat.add_sub_cancel' hle]
    · rwa [lowpanPacketSize]
    · rw [length_splice, List.length_set]
      omega

/-- A later fragment is put into the frame, or the packet state is left alone. -/
theorem lowpanFragmenterPackSubsequentFragment_spec (hcontent : LowpanFragmentable content)
    (hframe : frame.Valid) (hoff : token.fragOffset ≠ 0)
    (hle : token.fragOffset.toNat ≤ lowpanPacketSize content) :
    let p := lowpanFragmenterPackSubsequentFragment token content hdrs.nextOffset frame
    (p.1 ≠ .noError ∧ p.2.1 = token) ∨ ∃ len, LowpanFragmentPut token content hdrs frame len p := by
  have hpos : token.fragOffset.toNat ≠ 0 := fun h => hoff (UInt16.toNat_inj.mp h)
  have hleft : (ipv6BasicHeaderGetPayloadLength content.header + 40 - token.fragOffset).toNat =
      lowpanPacketSize content - token.fragOffset.toNat := by
    rw [UInt16.toNat_sub_of_le _ _
      (UInt16.le_iff_toNat_le.mpr (hle.trans_eq (toNat_lowpanPacketSize hcontent).symm)),
      toNat_lowpanPacketSize hcontent]
  obtain ⟨hroom, hsize, haligned⟩ := lowpanFragmenterFragLen_spec
    (ipv6BasicHeaderGetPayloadLength content.header + 40 - token.fragOffset)
    ((ieee154DFrameMaxPayloadLen frame).toNat - hdrs.nextOffset)
  rw [hleft] at hsize haligned
  have hmax := lowpanPacketSize_le hcontent
  have hptr := hframe.length_payloadPtr
  dsimp only
  unfold lowpanFragmenterPackSubsequentFragment
  dsimp only
  split
  · exact Or.inl ⟨Whip6Error.noConfusion, rfl⟩
  next hfull =>
    split
    · exact Or.inl ⟨Whip6Error.noConfusion, rfl⟩
    next hempty =>
      right
      generalize lowpanFragmenterFragLen
        (ipv6BasicHeaderGetPayloadLength content.header + 40 - token.fragOffset)
        ((ieee154DFrameMaxPayloadLen frame).toNat - hdrs.nextOffset) = len at *
      have hlen := length_lowpanFragmentRest hcontent token.fragOffset.toNat len (by omega)
      rw [if_neg hpos, Nat.zero_add] at hlen
      refine ⟨len, by omega, by omega, by omega, by rw [hlen]; omega, ?_⟩
      have hrest : lowpanFragmentRest content token.fragOffset.toNat len =
          ((lowpanPacketBytes content).drop token.fragOffset.toNat).take len := by
        rw [lowpanFragmentRest, if_neg hpos, List.nil_append]
      have hsum : token.fragOffset.toNat + len ≤ lowpanPacketSize content := by omega
      have hcopy := @shortMemCpy_iovShortRead_eq content (ieee154DFrameUnsafeGetPayloadPtr frame)
        token.fragOffset.toNat len hdrs.nextOffset hsum (by omega)
      dsimp only at hcopy
      rw [lowpanFrameWithRest, hlen, hrest, ← hcopy]
      obtain ⟨tmp, htmp, htmpLen, hchain⟩ : ∃ tmp, (if token.fragOffset.toNat < 40 then
          min len (40 - token.fragOffset.toNat) else 0) = tmp ∧ tmp ≤ len ∧
          (0 < len - tmp → 40 ≤ token.fragOffset.toNat + tmp) := by
        refine ⟨_, rfl, ?_, ?_⟩ <;> split_ifs <;> omega
      have hsplit : token.fragOffset + UInt16.ofNat tmp + UInt16.ofNat (len - tmp) =
          UInt16.ofNat (token.fragOffset.toNat + len) := by
        rw [UInt16.add_assoc, ← UInt16.ofNat_add, Nat.add_sub_cancel' htmpLen, UInt16.ofNat_add,
          UInt16.ofNat_toNat]
      have hread : 0 < len - tmp → (token.fragOffset + UInt16.ofNat tmp - 40).toNat =
          token.fragOffset.toNat + tmp - 40 := by
        intro hlt
        have hge := hchain hlt
        have hadd : (token.fragOffset + UInt16.ofNat tmp).toNat = token.fragOffset.toNat + tmp := by
          rw [UInt16.toNat_add, UInt16.toNat_ofNat']
          omega
        have hword : (40 : UInt16) ≤ token.fragOffset + UInt16.ofNat tmp := by
          rw [UInt16.le_iff_toNat_le, hadd]
          exact hge
        rw [UInt16.toNat_sub_of_le _ _ hword, hadd]
        rfl
      rw [htmp, hsplit, Nat.add_assoc _ tmp, Nat.add_sub_cancel' htmpLen]
      split
      next hlt => rw [hread hlt]
      next => rfl

/-- There is no fragment behind the last one. -/
theorem lowpanFragmenterPackSubsequentFragment_done (hcontent : LowpanFragmentable content)
    (hdone : token.fragOffset.toNat = lowpanPacketSize content) :
    let p := lowpanFragmenterPackSubsequentFragment token content hdrs.nextOffset frame
    p.1 ≠ .noError ∧ p.2.1 = token := by
  have hword : ipv6BasicHeaderGetPayloadLength content.header + 40 = token.fragOffset := by
    rw [← UInt16.toNat_inj, toNat_lowpanPacketSize hcontent, hdone]
  have hlen : ∀ room, lowpanFragmenterFragLen
      (ipv6BasicHeaderGetPayloadLength content.header + 40 - token.fragOffset) room = 0 := by
    intro room
    obtain ⟨-, hle, -⟩ := lowpanFragmenterFragLen_spec
      (ipv6BasicHeaderGetPayloadLength content.header + 40 - token.fragOffset) room
    rw [hword, UInt16.sub_self] at hle ⊢
    exact Nat.le_zero.mp hle
  dsimp only
  unfold lowpanFragmenterPackSubsequentFragment
  dsimp only
  split
  · exact ⟨Whip6Error.noConfusion, rfl⟩
  · rw [if_pos (hlen _)]
    exact ⟨Whip6Error.noConfusion, rfl⟩

end Put

/-! ## What the frame of a fragment carries -/

/-- The frame carries a slice of the packet: whoever unpacks it finds a fragmentation header with the
tag, the size of the packet and the start of the slice, and the bytes of the slice. -/
def LowpanFrameCarries (tag : UInt16) (content : Ipv6Packet) (slice : Span)
    (frame : Ieee154DframeInfo) : Prop :=
  ∀ old, let unpacked := lowpanFrameHeadersUnpack old frame
    unpacked.1 = .noError ∧ unpacked.2.bitmap.frag ∧ unpacked.2.frag.tag = tag ∧
      unpacked.2.frag.size.toNat = lowpanPacketSize content ∧
      unpacked.2.frag.offset.toNat = slice.start ∧
      lowpanFragmentBytes frame unpacked.2 =
        ((lowpanPacketBytes content).drop slice.start).take (slice.stop - slice.start)

section Request

variable {token : LowpanFragPacketState} {content : Ipv6Packet}
  {hdrs : LowpanUnpackedFrameHeaders} {frame : Ieee154DframeInfo}

theorem lowpanEndsHeaders_ipv6 : LowpanEndsHeaders LOWPAN_DISPATCH_PATTERN_IPV6 :=
  Or.inr (by decide)

/-- The frame that a fragment was put into carries it. -/
theorem LowpanFragmentPut.carries (hcontent : LowpanFragmentable content) (hframe : frame.Valid)
    {len : ℕ} (hadm : hdrs.Admissible) (hfrag : hdrs.bitmap.frag)
    (hheader : hdrs.frag = ⟨token.fragTag,
      ipv6BasicHeaderGetPayloadLength content.header + 40, token.fragOffset⟩)
    (hroom : hdrs.wire.length ≤ (ieee154DFrameMaxPayloadLen frame).toNat)
    {p : Whip6Error × LowpanFragPacketState × Ieee154DframeInfo}
    (hput : LowpanFragmentPut token content (lowpanFrameHeadersPack hdrs frame).2.1
      (lowpanFrameHeadersPack hdrs frame).2.2 len p) :
    LowpanFrameCarries token.fragTag content
      ⟨token.fragOffset.toNat, token.fragOffset.toNat + len⟩ p.2.2 := by
  intro old
  have hpack := lowpanFrameHeadersPack_eq hadm hroom
  have hfits := hput.fits
  rw [hput.eq]
  have hsame : ((.noError, (lowpanFrameHeadersPack hdrs frame).2.1,
      (lowpanFrameHeadersPack hdrs frame).2.2) :
        Whip6Error × LowpanUnpackedFrameHeaders × Ieee154DframeInfo) =
      lowpanFrameHeadersPack hdrs frame := by
    rw [hpack]
  dsimp only
  rw [hsame]
  have hcap : hdrs.wire.length +
      (lowpanFragmentRest content token.fragOffset.toNat len).length ≤
        (ieee154DFrameMaxPayloadLen frame).toNat := by
    rw [hpack] at hfits
    exact hfits
  have hnext : (hdrs.bitmap.frag ∧ hdrs.frag.offset > 0) ∨
      ∃ dispatch ∈ (lowpanFragmentRest content token.fragOffset.toNat len).head?,
        LowpanEndsHeaders dispatch := by
    rw [hheader]
    rcases Nat.eq_zero_or_pos token.fragOffset.toNat with hzero | hpos
    · rw [lowpanFragmentRest, if_pos hzero]
      exact Or.inr ⟨_, rfl, lowpanEndsHeaders_ipv6⟩
    · exact Or.inl ⟨hfrag, UInt16.lt_iff_toNat_lt.mpr hpos⟩
  obtain ⟨-, hok, hbitmap, hoffset, -, -, hsameFrag⟩ :=
    lowpanFrameHeaders_roundTrip hdrs old frame _ hadm hframe hcap hnext
  rw [hbitmap, hsameFrag hfrag, hheader]
  obtain ⟨hptr, hlen⟩ := lowpanFrameWithRest_payload hframe hpack hcap
  refine ⟨hok, hfrag, rfl, toNat_lowpanPacketSize hcontent, rfl, ?_⟩
  have hrestLen := length_lowpanFragmentRest hcontent _ _ hput.le_size
  have hmax := hframe.length_payloadPtr
  rw [lowpanFragmentBytes, hptr, hlen, hsameFrag hfrag, hheader, hoffset, hpack]
  have hread := take_drop_splice (ieee154DFrameUnsafeGetPayloadPtr frame) 0
    (hdrs.wire ++ lowpanFragmentRest content token.fragOffset.toNat len)
  have hwhole : (hdrs.wire ++ lowpanFragmentRest content token.fragOffset.toNat len).take
      ((ieee154DFrameUnsafeGetPayloadPtr frame).length - 0) = _ :=
    List.take_of_length_le (by rw [List.length_append]; omega)
  rw [hwhole, List.drop_zero, List.length_append] at hread
  rw [hread, ← List.drop_drop, List.drop_left, lowpanFragmentRest]
  dsimp only
  rw [Nat.add_sub_cancel_left]
  by_cases hoff : token.fragOffset = 0
  · rw [if_pos hoff, if_pos (by rw [hoff]; rfl)]
    rfl
  · have hpos : ¬ token.fragOffset.toNat = 0 := fun h => hoff (UInt16.toNat_inj.mp h)
    rw [if_neg hoff, if_neg hpos]
    rfl

/-- A request puts the next slice of the packet into the frame, or leaves the packet state alone. -/
theorem lowpanFragmenterRequestNextFragmentOfIpv6Packet_spec (hcontent : LowpanFragmentable content)
    (hframe : frame.Valid) (hle : token.fragOffset.toNat ≤ lowpanPacketSize content)
    (haligned : token.fragOffset.toNat % 8 = 0 ∨
      token.fragOffset.toNat = lowpanPacketSize content)
    (fragFlags : UInt8) (lowpanHdrs : Option LowpanUnpackedFrameHeaders) :
    let r := lowpanFragmenterRequestNextFragmentOfIpv6Packet fragFlags token content lowpanHdrs frame
    (r.1 ≠ .noError ∧ r.2.1 = token) ∨
      ∃ len, 0 < len ∧ token.fragOffset.toNat + len ≤ lowpanPacketSize content ∧
        (len % 8 = 0 ∨ token.fragOffset.toNat + len = lowpanPacketSize content) ∧ r.1 = .noError ∧
        r.2.1 = { token with fragOffset := UInt16.ofNat (token.fragOffset.toNat + len) } ∧
        LowpanFrameCarries token.fragTag content
          ⟨token.fragOffset.toNat, token.fragOffset.toNat + len⟩ r.2.2.2 := by
  dsimp only
  unfold lowpanFragmenterRequestNextFragmentOfIpv6Packet
  cases lowpanHdrs with
  | none => exact Or.inl ⟨Whip6Error.noConfusion, rfl⟩
  | some hdrs =>
    dsimp only
    set hdrs' := lowpanFrameHeadersAddFragHeader hdrs token.fragTag
      (ipv6BasicHeaderGetPayloadLength content.header + 40) token.fragOffset with hhdrs'
    by_cases hpacked : (lowpanFrameHeadersPack hdrs' frame).1 = .noError
    · rw [if_neg (not_not_intro hpacked)]
      dsimp only
      by_cases hdone : token.fragOffset.toNat = lowpanPacketSize content
      · have hoff : token.fragOffset ≠ 0 := by
          rintro h
          rw [h, lowpanPacketSize] at hdone
          simp at hdone
          omega
        rw [if_neg hoff]
        exact Or.inl (lowpanFragmenterPackSubsequentFragment_done hcontent hdone)
      have hmax := lowpanPacketSize_le hcontent
      have hfrag : hdrs'.frag.Admissible :=
        ⟨by rw [hhdrs']; exact (toNat_lowpanPacketSize hcontent).trans_lt (by omega),
          haligned.resolve_right hdone, by rw [hhdrs']; exact hle.trans (by omega)⟩
      obtain ⟨hadm, hroom⟩ := lowpanFrameHeadersPack_ok (fun _ => hfrag) hpacked
      have hvalid : (lowpanFrameHeadersPack hdrs' frame).2.2.Valid := by
        rw [lowpanFrameHeadersPack_eq hadm hroom]
        exact hframe.setPayload (length_splice _ _ _)
      have hput : ∀ p : Whip6Error × LowpanFragPacketState × Ieee154DframeInfo,
          ((p.1 ≠ .noError ∧ p.2.1 = token) ∨ ∃ len, LowpanFragmentPut token content
            (lowpanFrameHeadersPack hdrs' frame).2.1 (lowpanFrameHeadersPack hdrs' frame).2.2 len
            p) →
          (p.1 ≠ .noError ∧ p.2.1 = token) ∨
            ∃ len, 0 < len ∧ token.fragOffset.toNat + len ≤ lowpanPacketSize content ∧
              (len % 8 = 0 ∨ token.fragOffset.toNat + len = lowpanPacketSize content) ∧
              p.1 = .noError ∧
              p.2.1 = { token with fragOffset := UInt16.ofNat (token.fragOffset.toNat + len) } ∧
              LowpanFrameCarries token.fragTag content
                ⟨token.fragOffset.toNat, token.fragOffset.toNat + len⟩ p.2.2 := by
        rintro p (hrefused | ⟨len, hput⟩)
        · exact Or.inl hrefused
        · have hcarries := hput.carries hcontent hframe hadm (by rw [hhdrs']; rfl)
            (by rw [hhdrs']; rfl) hroom
          exact Or.inr ⟨len, hput.pos, hput.le_size, hput.aligned, by rw [hput.eq],
            by rw [hput.eq], hcarries⟩
      split
      next hoff => exact hput _ (lowpanFragmenterPackFirstFragment_spec hcontent hvalid hoff _)
      next hoff =>
        exact hput _ (lowpanFragmenterPackSubsequentFragment_spec hcontent hvalid hoff hle)
    · rw [if_pos hpacked]
      exact Or.inl ⟨Whip6Error.noConfusion, rfl⟩

end Request

end Whip6
