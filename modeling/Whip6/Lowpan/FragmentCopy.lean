import Whip6.Lowpan.Defragmenter
import Whip6.Base.IoVecRefinement

/-!
# Copying fragments

A packet as one string of bytes (`Ipv6Packet.flat`), its header and then its payload.  Copying a
fragment writes the bytes that its frame carries to their place of that string, and tells whether
they stood there before (`copyFragment_some`, `copyFragment_of_fits`).
-/

namespace Whip6

open Lib

/-- The bytes of a packet: the header, and then the payload. -/
def Ipv6Packet.flat (packet : Ipv6Packet) : List UInt8 :=
  packet.header.bytes ++ packet.firstPayloadIov.flatten

theorem Ipv6Packet.length_flat (packet : Ipv6Packet) :
    packet.flat.length = 40 + packet.firstPayloadIov.flatten.length := by
  rw [flat, List.length_append, packet.header.length_bytes]

/-! ## Comparing with an I/O vector -/

theorem iovShortCompareLoop_eq_zero_iff (rest : IovBlist) (o : ℕ) (buf : List UInt8) {n : ℕ}
    (hn : n ≤ buf.length) (ho : ∀ e rest', rest = e :: rest' → o ≤ e.length) :
    iovShortCompareLoop rest o buf n = 0 ↔ StandsAt rest.flatten o (buf.take n) := by
  induction rest generalizing o buf n with
  | nil =>
    rw [iovShortCompareLoop, List.flatten_nil]
    by_cases h0 : n = 0
    · simp [h0]
    · rw [if_neg h0]
      refine iff_of_false (by decide) fun h => ?_
      have hfirst := h 0 (by rw [List.length_take]; omega)
      rw [List.getElem?_nil, List.getElem?_take, if_pos (by omega),
        List.getElem?_eq_getElem (by omega)] at hfirst
      cases hfirst
  | cons e rest ih =>
    have ho' : o ≤ e.length := ho e rest rfl
    by_cases h0 : n = 0
    · simp [iovShortCompareLoop, h0]
    · obtain ⟨m, hm⟩ : ∃ m, m = min n (e.length - o) := ⟨_, rfl⟩
      have hlen : (buf.take m).length = m := by
        rw [List.length_take]
        omega
      have hcmp : shortMemCmp (e.drop o) buf m = 0 ↔ StandsAt e o (buf.take m) := by
        rw [shortMemCmp_eq_zero_iff (by rw [List.length_drop]; omega) (by omega),
          standsAt_iff_take_drop, hlen]
      have hrec := ih 0 (buf.drop m) (n := n - m) (by rw [List.length_drop]; omega)
        (fun _ _ _ => Nat.zero_le _)
      have hsplit : buf.take n = buf.take m ++ (buf.drop m).take (n - m) := by
        rw [← List.drop_take]
        conv_lhs => rw [← List.take_append_drop m (buf.take n), List.take_take,
          Nat.min_eq_left (show m ≤ n by omega)]
      rw [hsplit, List.flatten_cons, standsAt_append, standsAt_append_of_le (by omega), ← hcmp]
      simp only [iovShortCompareLoop, if_neg h0, ← hm]
      by_cases hres : shortMemCmp (e.drop o) buf m = 0
      · rw [if_neg (by simpa using hres), hrec, hlen, and_iff_right hres]
        rcases Nat.lt_or_ge n (e.length - o) with hlt | hge
        · have hnil : n - m = 0 := by omega
          simp [hnil]
        · rw [standsAt_append_of_ge (by omega), show o + m - e.length = 0 by omega]
      · rw [if_pos hres]
        exact iff_of_false hres fun h => hres h.1

theorem iovShortCompare_eq_zero_iff (l : IovBlist) (iovOffset : ℕ) (buf : List UInt8) {n : ℕ}
    (hn : n ≤ buf.length) :
    iovShortCompare l iovOffset (some buf) n = 0 ↔
      StandsAt l.flatten iovOffset (buf.take n) := by
  obtain ⟨pre, hl, ho, hlt⟩ := iovLocate_spec l iovOffset
  rw [iovShortCompare, iovShortCompareLoop_eq_zero_iff _ _ _ hn fun e rest h => (hlt e rest h).le]
  generalize iovLocate l iovOffset = r at *
  subst hl ho
  rw [List.flatten_append, standsAt_append_of_ge (Nat.le_add_right _ _), Nat.add_sub_cancel_left]

/-! ## Copying into a packet -/

/-- How many of `n` bytes from an offset on belong to the header. -/
def headerLen (off n : ℕ) : ℕ := min (40 - off) n

section Flat

variable (packet : Ipv6Packet) (off n : ℕ) (buf : List UInt8)

/-- The packet after bytes are written to it, the header first and then the payload. -/
def Ipv6Packet.write : ℕ × Ipv6Packet :=
  let r := iovShortWrite packet.firstPayloadIov (off + headerLen off n - 40)
    (some (buf.drop (headerLen off n))) (n - headerLen off n)
  (r.1, ⟨packet.header.memCpy buf off (headerLen off n), r.2⟩)

theorem flat_write (hn : n ≤ buf.length) :
    (packet.write off n buf).2.flat = splice packet.flat off (buf.take n) := by
  obtain ⟨-, hflat, -⟩ := iovShortWrite_spec packet.firstPayloadIov (off + headerLen off n - 40)
    (buf.drop (headerLen off n)) (n - headerLen off n)
  have hhdr : (packet.header.memCpy buf off (headerLen off n)).bytes =
      splice packet.header.bytes off (buf.take (headerLen off n)) := shortMemCpy_eq_splice _ _ _ _
  have hlen := packet.header.length_bytes
  rw [Ipv6Packet.write, Ipv6Packet.flat, hflat, hhdr, Ipv6Packet.flat]
  rcases Nat.lt_or_ge off 40 with hoff | hoff
  · rw [splice_append_of_ge _ _ (by omega), hlen]
    congr 1
    · rw [← splice_take packet.header.bytes off (buf.take n) (n := 40 - off) (by omega),
        List.take_take]
      rfl
    · rcases Nat.le_total n (40 - off) with hle | hle
      · rw [headerLen, Nat.min_eq_right hle, Nat.sub_self, List.take_zero, splice_nil,
          List.drop_eq_nil_of_le (by rw [List.length_take]; omega), splice_nil]
      · rw [headerLen, Nat.min_eq_left hle, List.drop_take,
          show off + (40 - off) - 40 = 0 by omega]
  · have hzero : headerLen off n = 0 := by
      rw [headerLen]
      omega
    rw [splice_append_of_le _ _ (by omega), hlen, hzero, List.take_zero, splice_nil,
      List.drop_zero, Nat.sub_zero, Nat.add_zero]

theorem write_eq_iff (hpos : 0 < n ∨ off ≤ 40) :
    (packet.write off n buf).1 = n - headerLen off n ↔ off + n ≤ packet.flat.length := by
  obtain ⟨hcount, -, -⟩ := iovShortWrite_spec packet.firstPayloadIov (off + headerLen off n - 40)
    (buf.drop (headerLen off n)) (n - headerLen off n)
  rw [packet.length_flat, Ipv6Packet.write, hcount, headerLen]
  omega

/-- The comparison with what is written. -/
theorem compare_eq_zero_iff (hn : n ≤ buf.length) :
    (shortMemCmp buf (packet.header.bytes.drop off) (headerLen off n) = 0 ∧
      iovShortCompare packet.firstPayloadIov (off + headerLen off n - 40)
        (some (buf.drop (headerLen off n))) (n - headerLen off n) = 0) ↔
      StandsAt packet.flat off (buf.take n) := by
  have hlen := packet.header.length_bytes
  have hle : headerLen off n ≤ n := Nat.min_le_right _ _
  have htake : (buf.take (headerLen off n)).length = headerLen off n := by
    rw [List.length_take]
    omega
  have hsplit : buf.take n = buf.take (headerLen off n) ++
      (buf.drop (headerLen off n)).take (n - headerLen off n) := by
    rw [← List.drop_take]
    conv_lhs => rw [← List.take_append_drop (headerLen off n) (buf.take n), List.take_take,
      Nat.min_eq_left hle]
  rw [hsplit, standsAt_append, htake, Ipv6Packet.flat, iovShortCompare_eq_zero_iff _ _ _
    (by rw [List.length_drop]; omega)]
  refine and_congr ?_ ?_
  · rcases Nat.lt_or_ge off 40 with hoff | hoff
    · rw [standsAt_append_of_le (by rw [htake, hlen, headerLen]; omega), standsAt_iff_take_drop,
        htake, shortMemCmp_eq_zero_iff (by omega) (by rw [List.length_drop, hlen, headerLen]; omega)]
      exact eq_comm
    · have hzero : headerLen off n = 0 := by
        rw [headerLen]
        omega
      rw [hzero, List.take_zero]
      exact iff_of_true ((shortMemCmp_eq_zero_iff (Nat.zero_le _) (Nat.zero_le _)).mpr rfl)
        (standsAt_nil _ _)
  · rcases Nat.lt_or_ge n (40 - off) with hlt | hge
    · have hnil : n - headerLen off n = 0 := by
        rw [headerLen]
        omega
      simp [hnil]
    · rw [standsAt_append_of_ge (by rw [hlen, headerLen]; omega), hlen]

end Flat

/-! ## The fragment of a frame -/

/-- The bytes of the packet that a frame carries: behind the headers and, in the first fragment, the
dispatch. -/
def lowpanFragmentBytes (frame : Ieee154DframeInfo) (hdrs : LowpanUnpackedFrameHeaders) :
    List UInt8 :=
  ((ieee154DFrameUnsafeGetPayloadPtr frame).take (ieee154DFrameGetPayloadLen frame).toNat).drop
    (hdrs.nextOffset + if hdrs.frag.offset = 0 then 1 else 0)

/-- The bytes behind the dispatch of a raw IPv6 header. -/
def lowpanRawIpv6Bytes (frame : Ieee154DframeInfo) (hdrs : LowpanUnpackedFrameHeaders) :
    List UInt8 :=
  ((ieee154DFrameUnsafeGetPayloadPtr frame).take (ieee154DFrameGetPayloadLen frame).toNat).drop
    (hdrs.nextOffset + 1)

section Copy

variable {frame : Ieee154DframeInfo} {hdrs : LowpanUnpackedFrameHeaders} {packet : Ipv6Packet}
  {firstFragSize : UInt16}

/-- The frame holds all of its payload. -/
def Ieee154DframeInfo.HoldsPayload (frame : Ieee154DframeInfo) : Prop :=
  (ieee154DFrameGetPayloadLen frame).toNat ≤ (ieee154DFrameUnsafeGetPayloadPtr frame).length

instance (frame : Ieee154DframeInfo) : Decidable frame.HoldsPayload :=
  inferInstanceAs (Decidable (_ ≤ _))

theorem iovShortWrite_zero (l : IovBlist) (iovOffset : ℕ) (buf : List UInt8) :
    iovShortWrite l iovOffset (some buf) 0 = (0, l) := by
  obtain ⟨pre, hl, -, -⟩ := iovLocate_spec l iovOffset
  have hloop : ∀ (rest : IovBlist) (o : ℕ), iovShortWriteLoop rest o buf 0 = (rest, 0) := by
    intro rest o
    cases rest <;> rfl
  have htake : ∀ m, l = pre ++ m → l.take (l.length - m.length) ++ m = l := by
    rintro m rfl
    simp
  simp only [iovShortWrite, hloop, Nat.sub_self, htake _ hl]

theorem iovShortCompare_zero (l : IovBlist) (iovOffset : ℕ) (buf : List UInt8) :
    iovShortCompare l iovOffset (some buf) 0 = 0 :=
  (iovShortCompare_eq_zero_iff l iovOffset buf (Nat.zero_le _)).mpr (standsAt_nil _ _)

/-- Copying a fragment that is not the first one. -/
theorem copySubsequentFragment_eq (hframe : frame.HoldsPayload) (hoff : hdrs.frag.offset ≠ 0) :
    let data := lowpanFragmentBytes frame hdrs
    let off := hdrs.frag.offset.toNat
    let buf := (ieee154DFrameUnsafeGetPayloadPtr frame).drop hdrs.nextOffset
    lowpanDefragmenterCopySubsequentFragment frame hdrs packet =
      if data.length = 0 ∨ data.length % 8 ≠ 0 ∧ off + data.length ≠ hdrs.frag.size.toNat then
        (none, packet)
      else if off + data.length ≤ packet.flat.length then
        (some (data.length, decide (StandsAt packet.flat off data)),
          (packet.write off data.length buf).2)
      else (none, (packet.write off data.length buf).2) := by
  dsimp only
  obtain ⟨n, hn⟩ : ∃ n, n = (ieee154DFrameGetPayloadLen frame).toNat - hdrs.nextOffset := ⟨_, rfl⟩
  obtain ⟨buf, hbuf⟩ : ∃ buf, buf = (ieee154DFrameUnsafeGetPayloadPtr frame).drop hdrs.nextOffset :=
    ⟨_, rfl⟩
  have hnbuf : n ≤ buf.length := by
    rw [hbuf, List.length_drop]
    unfold Ieee154DframeInfo.HoldsPayload at hframe
    omega
  have hdata : lowpanFragmentBytes frame hdrs = buf.take n := by
    rw [lowpanFragmentBytes, if_neg hoff, hbuf, hn, Nat.add_zero, List.drop_take]
  have hlen : (buf.take n).length = n := by
    rw [List.length_take]
    omega
  have hhdr : (if hdrs.frag.offset.toNat < 40 then min (40 - hdrs.frag.offset.toNat) n else 0) =
      headerLen hdrs.frag.offset.toNat n := by
    rw [headerLen]
    split_ifs <;> omega
  simp only [lowpanDefragmenterCopySubsequentFragment, ← hn, ← hbuf, hhdr, hdata, hlen]
  by_cases hbad : n = 0 ∨ n % 8 ≠ 0 ∧ hdrs.frag.offset.toNat + n ≠ hdrs.frag.size.toNat
  · rw [if_pos hbad, if_pos hbad]
  · rw [if_neg hbad, if_neg hbad]
    have hcmp := compare_eq_zero_iff packet hdrs.frag.offset.toNat n buf hnbuf
    have hwrite := write_eq_iff packet hdrs.frag.offset.toNat n buf (Or.inl (by omega))
    have hle : headerLen hdrs.frag.offset.toNat n ≤ n := Nat.min_le_right _ _
    have hsame : (shortMemCmp buf (packet.header.bytes.drop hdrs.frag.offset.toNat)
          (headerLen hdrs.frag.offset.toNat n) == 0 &&
        iovShortCompare packet.firstPayloadIov
          (hdrs.frag.offset.toNat + headerLen hdrs.frag.offset.toNat n - 40)
          (some (buf.drop (headerLen hdrs.frag.offset.toNat n)))
          (n - headerLen hdrs.frag.offset.toNat n) == 0) =
        decide (StandsAt packet.flat hdrs.frag.offset.toNat (buf.take n)) := by
      rw [Bool.eq_iff_iff, decide_eq_true_iff, ← hcmp]
      simp
    rw [Ipv6Packet.write] at hwrite ⊢
    simp only at hwrite ⊢
    rw [← hsame]
    by_cases hrest : n - headerLen hdrs.frag.offset.toNat n > 0
    · rw [if_pos hrest]
      by_cases hfits : hdrs.frag.offset.toNat + n ≤ packet.flat.length
      · rw [if_neg (not_not.mpr (hwrite.mpr hfits)), if_pos hfits,
          show headerLen hdrs.frag.offset.toNat n + (n - headerLen hdrs.frag.offset.toNat n) = n by
            omega]
      · rw [if_pos fun h => hfits (hwrite.mp h), if_neg hfits]
    · have hzero : n - headerLen hdrs.frag.offset.toNat n = 0 := by omega
      rw [hzero, iovShortWrite_zero] at hwrite ⊢
      rw [if_neg (by omega), if_pos (hwrite.mp rfl), iovShortCompare_zero]
      simp only [beq_self_eq_true, Bool.and_true]
      rw [show headerLen hdrs.frag.offset.toNat n = n by omega]

variable (packet) in
/-- Unpacking the start of a packet. -/
theorem lowpanRawIpv6HeaderUnpack_eq (hframe : frame.HoldsPayload)
    (hsome : hdrs.nextOffset < (ieee154DFrameGetPayloadLen frame).toNat)
    (hdispatch : (ieee154DFrameUnsafeGetPayloadPtr frame).getD hdrs.nextOffset 0 &&&
      LOWPAN_DISPATCH_MASK_IPV6 = LOWPAN_DISPATCH_PATTERN_IPV6) (wantIdentical : Bool) :
    let data := lowpanRawIpv6Bytes frame hdrs
    let buf := (ieee154DFrameUnsafeGetPayloadPtr frame).drop (hdrs.nextOffset + 1)
    lowpanRawIpv6HeaderUnpack frame hdrs packet wantIdentical =
      if data.length % 8 ≠ 0 ∧ hdrs.bitmap.frag ∧ hdrs.frag.size.toNat > data.length then
        (0, packet, false)
      else if data.length ≤ packet.flat.length then
        (data.length, (packet.write 0 data.length buf).2,
          wantIdentical && decide (StandsAt packet.flat 0 data))
      else (0, (packet.write 0 data.length buf).2, false) := by
  dsimp only
  obtain ⟨n, hn⟩ : ∃ n, n = (ieee154DFrameGetPayloadLen frame).toNat - hdrs.nextOffset - 1 :=
    ⟨_, rfl⟩
  obtain ⟨buf, hbuf⟩ : ∃ buf,
      buf = (ieee154DFrameUnsafeGetPayloadPtr frame).drop (hdrs.nextOffset + 1) := ⟨_, rfl⟩
  have hnbuf : n ≤ buf.length := by
    rw [hbuf, List.length_drop]
    unfold Ieee154DframeInfo.HoldsPayload at hframe
    omega
  have hdata : lowpanRawIpv6Bytes frame hdrs = buf.take n := by
    rw [lowpanRawIpv6Bytes, hbuf, hn, List.drop_take, Nat.sub_sub]
  have hlen : (buf.take n).length = n := by
    rw [List.length_take]
    omega
  have hdisp : ((ieee154DFrameUnsafeGetPayloadPtr frame).drop hdrs.nextOffset).getD 0 0 &&&
      LOWPAN_DISPATCH_MASK_IPV6 = LOWPAN_DISPATCH_PATTERN_IPV6 := by
    rw [← hdispatch, List.getD_eq_getElem?_getD, List.getD_eq_getElem?_getD, List.getElem?_drop,
      Nat.add_zero]
  have hcmp := compare_eq_zero_iff packet 0 n buf hnbuf
  have hwrite := write_eq_iff packet 0 n buf (Or.inr (Nat.zero_le 40))
  have hhdr : headerLen 0 n = min n 40 := Nat.min_comm _ _
  have hzero : 0 + headerLen 0 n - 40 = 0 := by
    rw [hhdr]
    omega
  rw [hzero, hhdr, List.drop_zero] at hcmp
  have hsame : ∀ w : Bool, (w && shortMemCmp buf packet.header.bytes (min n 40) == 0 &&
        iovShortCompare packet.firstPayloadIov 0 (some (buf.drop (min n 40))) (n - min n 40) == 0) =
      (w && decide (StandsAt packet.flat 0 (buf.take n))) := by
    intro w
    rw [Bool.and_assoc]
    congr 1
    rw [Bool.eq_iff_iff, decide_eq_true_iff, ← hcmp]
    simp
  rw [hdata, hlen, ← hbuf]
  rw [Ipv6Packet.write, hzero, hhdr] at hwrite ⊢
  simp only [lowpanRawIpv6HeaderUnpack, if_neg (Nat.not_le.mpr hsome), hdisp, ne_eq,
    not_true_eq_false, if_false, ← hn, List.drop_drop, ← hbuf, hsame]
  simp only [Nat.zero_add] at hwrite
  by_cases hbad : ¬ n % 8 = 0 ∧ hdrs.bitmap.frag = true ∧ hdrs.frag.size.toNat > n
  · rw [if_pos hbad, if_pos hbad]
  · rw [if_neg hbad, if_neg hbad]
    by_cases hfits : n ≤ packet.flat.length
    · rw [if_neg (not_not.mpr (hwrite.mpr hfits)), if_pos hfits]
    · rw [if_pos fun h => hfits (hwrite.mp h), if_neg hfits]

theorem lowpanFragmentBytes_of_zero (hoff : hdrs.frag.offset = 0) :
    lowpanFragmentBytes frame hdrs = lowpanRawIpv6Bytes frame hdrs := by
  rw [lowpanFragmentBytes, if_pos hoff, lowpanRawIpv6Bytes]

variable (hdrs) in
theorem lowpanFragmentBytes_take (hframe : frame.HoldsPayload) :
    let buf := (ieee154DFrameUnsafeGetPayloadPtr frame).drop
      (hdrs.nextOffset + if hdrs.frag.offset = 0 then 1 else 0)
    buf.take (lowpanFragmentBytes frame hdrs).length = lowpanFragmentBytes frame hdrs ∧
      (lowpanFragmentBytes frame hdrs).length ≤ buf.length := by
  dsimp only
  unfold Ieee154DframeInfo.HoldsPayload at hframe
  have hlen : (lowpanFragmentBytes frame hdrs).length = (ieee154DFrameGetPayloadLen frame).toNat -
      (hdrs.nextOffset + if hdrs.frag.offset = 0 then 1 else 0) := by
    rw [lowpanFragmentBytes, List.length_drop, List.length_take, Nat.min_eq_left hframe]
  refine ⟨?_, ?_⟩
  · rw [hlen, ← List.drop_take]
    rfl
  · rw [hlen, List.length_drop]
    omega

/-- A fragment that the code copies when the packet has the room: it carries bytes, in multiples of
eight except at the end of the packet, and the first one is behind the dispatch of a raw header. -/
structure LowpanFragmentWellFormed (frame : Ieee154DframeInfo) (hdrs : LowpanUnpackedFrameHeaders) :
    Prop where
  nonempty : 0 < (lowpanFragmentBytes frame hdrs).length
  aligned : (lowpanFragmentBytes frame hdrs).length % 8 = 0 ∨
    hdrs.frag.offset.toNat + (lowpanFragmentBytes frame hdrs).length = hdrs.frag.size.toNat
  dispatch : hdrs.frag.offset = 0 → (ieee154DFrameUnsafeGetPayloadPtr frame).getD hdrs.nextOffset 0 &&&
    LOWPAN_DISPATCH_MASK_IPV6 = LOWPAN_DISPATCH_PATTERN_IPV6

/-- What is true of a fragment that was copied: where its bytes are now, and what the code found out
about the bytes that were there. -/
theorem copyFragment_some {len : ℕ} {identical : Bool} (hframe : frame.HoldsPayload)
    (h : (lowpanDefragmenterCopyFragment frame hdrs packet firstFragSize).1 = some (len, identical)) :
    let data := lowpanFragmentBytes frame hdrs
    let off := hdrs.frag.offset.toNat
    len = data.length ∧ 0 < len ∧ off + len ≤ packet.flat.length ∧
      (lowpanDefragmenterCopyFragment frame hdrs packet firstFragSize).2.flat =
        splice packet.flat off data ∧
      (identical = true ↔ StandsAt packet.flat off data ∧ (off = 0 → 0 < firstFragSize)) := by
  dsimp only
  unfold lowpanDefragmenterCopyFragment at h ⊢
  simp only at h ⊢
  by_cases hpast : hdrs.nextOffset ≥ (ieee154DFrameGetPayloadLen frame).toNat
  · rw [if_pos hpast] at h
    cases h
  · rw [if_neg hpast] at h ⊢
    by_cases hoff : hdrs.frag.offset = 0
    · rw [if_pos hoff] at h ⊢
      by_cases hdisp : (ieee154DFrameUnsafeGetPayloadPtr frame).getD hdrs.nextOffset 0 &&&
          LOWPAN_DISPATCH_MASK_IPV6 = LOWPAN_DISPATCH_PATTERN_IPV6
      · obtain ⟨htake, hle⟩ := lowpanFragmentBytes_take hdrs hframe
        rw [if_pos hoff] at htake hle
        rw [if_pos hdisp, lowpanRawIpv6HeaderUnpack_eq packet hframe (by omega) hdisp,
          ← lowpanFragmentBytes_of_zero hoff] at h ⊢
        by_cases hbad : (lowpanFragmentBytes frame hdrs).length % 8 ≠ 0 ∧ hdrs.bitmap.frag ∧
            hdrs.frag.size.toNat > (lowpanFragmentBytes frame hdrs).length
        · rw [if_pos hbad] at h
          cases h
        · rw [if_neg hbad] at h ⊢
          by_cases hfits : (lowpanFragmentBytes frame hdrs).length ≤ packet.flat.length
          · rw [if_pos hfits] at h ⊢
            by_cases hzero : (lowpanFragmentBytes frame hdrs).length = 0
            · rw [if_pos hzero] at h
              cases h
            · rw [if_neg hzero] at h ⊢
              cases h
              refine ⟨rfl, Nat.pos_of_ne_zero hzero, by rw [hoff]; simpa using hfits, ?_, ?_⟩
              · rw [flat_write _ _ _ _ hle, htake, hoff]
                rfl
              · simp [hoff, and_comm]
          · rw [if_neg hfits, if_pos rfl] at h
            cases h
      · rw [if_neg hdisp] at h
        cases h
    · obtain ⟨htake, hle⟩ := lowpanFragmentBytes_take hdrs hframe
      rw [if_neg hoff, Nat.add_zero] at htake hle
      have hpos : hdrs.frag.offset.toNat ≠ 0 := fun h0 => hoff (UInt16.toNat_inj.mp h0)
      rw [if_neg hoff, copySubsequentFragment_eq hframe hoff] at h ⊢
      by_cases hbad : (lowpanFragmentBytes frame hdrs).length = 0 ∨
          (lowpanFragmentBytes frame hdrs).length % 8 ≠ 0 ∧
            hdrs.frag.offset.toNat + (lowpanFragmentBytes frame hdrs).length ≠ hdrs.frag.size.toNat
      · rw [if_pos hbad] at h
        cases h
      · rw [if_neg hbad] at h ⊢
        by_cases hfits : hdrs.frag.offset.toNat + (lowpanFragmentBytes frame hdrs).length ≤
            packet.flat.length
        · rw [if_pos hfits] at h ⊢
          cases h
          refine ⟨rfl, by omega, hfits, ?_, ?_⟩
          · rw [flat_write _ _ _ _ hle, htake]
          · simp [hpos]
        · rw [if_neg hfits] at h
          cases h

variable (packet firstFragSize) in
/-- A well-formed fragment is copied when the packet has the room for it. -/
theorem copyFragment_of_wellFormed (hframe : frame.HoldsPayload)
    (hwf : LowpanFragmentWellFormed frame hdrs)
    (hfits : hdrs.frag.offset.toNat + (lowpanFragmentBytes frame hdrs).length ≤ packet.flat.length) :
    ∃ identical, (lowpanDefragmenterCopyFragment frame hdrs packet firstFragSize).1 =
      some ((lowpanFragmentBytes frame hdrs).length, identical) := by
  obtain ⟨hpos, haligned, hdisp⟩ := hwf
  have hpast : ¬ hdrs.nextOffset ≥ (ieee154DFrameGetPayloadLen frame).toNat := by
    intro hge
    rw [lowpanFragmentBytes, List.length_drop, List.length_take] at hpos
    omega
  unfold lowpanDefragmenterCopyFragment
  simp only
  rw [if_neg hpast]
  by_cases hoff : hdrs.frag.offset = 0
  · have hzero : hdrs.frag.offset.toNat = 0 := by
      rw [hoff]
      rfl
    rw [hzero, Nat.zero_add] at haligned hfits
    have hgood : ¬ ((lowpanFragmentBytes frame hdrs).length % 8 ≠ 0 ∧ hdrs.bitmap.frag ∧
        hdrs.frag.size.toNat > (lowpanFragmentBytes frame hdrs).length) := by
      rintro ⟨hmod, -, hgt⟩
      omega
    rw [if_pos hoff, if_pos (hdisp hoff),
      lowpanRawIpv6HeaderUnpack_eq packet hframe (by omega) (hdisp hoff),
      ← lowpanFragmentBytes_of_zero hoff, if_neg hgood,
      if_pos hfits, if_neg (Nat.pos_iff_ne_zero.mp hpos)]
    exact ⟨_, rfl⟩
  · rw [if_neg hoff, copySubsequentFragment_eq hframe hoff, if_neg (by omega), if_pos hfits]
    exact ⟨_, rfl⟩

end Copy

end Whip6
