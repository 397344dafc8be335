import Whip6.Lowpan.HeaderCodec

/-!
# The grammar of the headers

Unpacking accepts a payload exactly when it starts with a mesh header and a broadcast header, each of
which may be missing, and then either with the header of a later fragment, or with the header of a
first fragment, which may be missing, and the dispatch of an IPv6 header.  Whatever it answers depends
on the bytes of the payload only.
-/

namespace Whip6

open Lib

/-! ## The grammar -/

def LowpanIsMesh (dispatch : UInt8) : Prop :=
  dispatch &&& LOWPAN_DISPATCH_MASK_MESH = LOWPAN_DISPATCH_PATTERN_MESH

def LowpanIsBc0 (dispatch : UInt8) : Prop :=
  dispatch &&& LOWPAN_DISPATCH_MASK_LOWPAN_BC0 = LOWPAN_DISPATCH_PATTERN_LOWPAN_BC0

def LowpanIsFrag1 (dispatch : UInt8) : Prop :=
  dispatch &&& LOWPAN_DISPATCH_MASK_FRAGX_UNMASKED = LOWPAN_DISPATCH_PATTERN_FRAG1

def LowpanIsFragN (dispatch : UInt8) : Prop :=
  dispatch &&& LOWPAN_DISPATCH_MASK_FRAGN = LOWPAN_DISPATCH_PATTERN_FRAGN

instance : DecidablePred LowpanIsMesh := fun _ => inferInstanceAs (Decidable (_ = _))

instance : DecidablePred LowpanIsBc0 := fun _ => inferInstanceAs (Decidable (_ = _))

instance : DecidablePred LowpanIsFrag1 := fun _ => inferInstanceAs (Decidable (_ = _))

instance : DecidablePred LowpanIsFragN := fun _ => inferInstanceAs (Decidable (_ = _))

instance : DecidablePred LowpanEndsHeaders := fun _ => inferInstanceAs (Decidable (_ ∨ _))

/-- A mesh header is its dispatch, a hop limit when that does not fit in the dispatch, and two
addresses, extended or short. -/
def lowpanMeshHdrSize (dispatch : UInt8) : ℕ :=
  1 + (if dispatch &&& (0x0f : UInt8) = 0x0f then 1 else 0) +
    (if dispatch &&& (0x20 : UInt8) ≠ 0 then IEEE154_EXT_ADDR_BYTE_LENGTH
      else IEEE154_SHORT_ADDR_BYTE_LENGTH) +
    (if dispatch &&& (0x10 : UInt8) ≠ 0 then IEEE154_EXT_ADDR_BYTE_LENGTH
      else IEEE154_SHORT_ADDR_BYTE_LENGTH)

/-- A complete header of a kind, as its dispatch says it is. -/
def LowpanCompleteHdr (kind : UInt8 → Prop) (size : UInt8 → ℕ) (hdr : List UInt8) : Prop :=
  ∃ dispatch rest, hdr = dispatch :: rest ∧ kind dispatch ∧ hdr.length = size dispatch

def LowpanMeshHdr : List UInt8 → Prop := LowpanCompleteHdr LowpanIsMesh lowpanMeshHdrSize

def LowpanBc0Hdr : List UInt8 → Prop := LowpanCompleteHdr LowpanIsBc0 fun _ => 2

def LowpanFrag1Hdr : List UInt8 → Prop := LowpanCompleteHdr LowpanIsFrag1 fun _ => 4

def LowpanFragNHdr : List UInt8 → Prop := LowpanCompleteHdr LowpanIsFragN fun _ => 5

/-- The offset byte of the header of a later fragment. -/
def lowpanFragNOffset (hdr : List UInt8) : UInt8 := hdr.getD 4 0

/-- The dispatch of an IPv6 header, compressed or not. -/
def LowpanIpv6Follows (bs : List UInt8) : Prop :=
  ∃ dispatch rest, bs = dispatch :: rest ∧ LowpanEndsHeaders dispatch

/-- The header of a later fragment, or of a first one or none and an IPv6 header. -/
def LowpanFragmentFollows (bs : List UInt8) : Prop :=
  (∃ hdr rest, bs = hdr ++ rest ∧ LowpanFragNHdr hdr ∧ lowpanFragNOffset hdr ≠ 0) ∨
    ∃ hdr rest, bs = hdr ++ rest ∧
      (hdr = [] ∨ LowpanFrag1Hdr hdr ∨ LowpanFragNHdr hdr ∧ lowpanFragNOffset hdr = 0) ∧
      LowpanIpv6Follows rest

/-- A broadcast header or none before that. -/
def LowpanBroadcastFollows (bs : List UInt8) : Prop :=
  ∃ bc0 rest, bs = bc0 ++ rest ∧ (bc0 = [] ∨ LowpanBc0Hdr bc0) ∧ LowpanFragmentFollows rest

/-- The payloads that are accepted. -/
def LowpanHeadersAccepted (bs : List UInt8) : Prop :=
  ∃ mesh bc0 rest, bs = mesh ++ bc0 ++ rest ∧ (mesh = [] ∨ LowpanMeshHdr mesh) ∧
    (bc0 = [] ∨ LowpanBc0Hdr bc0) ∧ LowpanFragmentFollows rest

/-! ## Kinds of dispatch -/

section Kinds

variable {dispatch : UInt8}

theorem uint8_cases {p : UInt8 → Prop} (h : ∀ n, n < 256 → p (UInt8.ofNat n)) (x : UInt8) : p x := by
  have hx := h x.toNat x.toNat_lt
  rwa [UInt8.ofNat_toNat] at hx

/-- A dispatch is of one kind. -/
theorem lowpanDispatch_kinds (dispatch : UInt8) :
    (LowpanIsFrag1 dispatch → ¬LowpanEndsHeaders dispatch ∧ ¬LowpanIsFragN dispatch ∧
      ¬LowpanIsMesh dispatch ∧ ¬LowpanIsBc0 dispatch) ∧
    (LowpanIsFragN dispatch → ¬LowpanEndsHeaders dispatch ∧ ¬LowpanIsMesh dispatch ∧
      ¬LowpanIsBc0 dispatch) ∧
    (LowpanIsMesh dispatch → ¬LowpanEndsHeaders dispatch ∧ ¬LowpanIsBc0 dispatch) ∧
    (LowpanIsBc0 dispatch → ¬LowpanEndsHeaders dispatch) ∧
    (dispatch &&& LOWPAN_DISPATCH_MASK_FRAGX = LOWPAN_DISPATCH_PATTERN_FRAGX ↔
      LowpanIsFrag1 dispatch ∨ LowpanIsFragN dispatch) := by
  have hfrag1 := uint8_cases (p := fun d => LowpanIsFrag1 d → ¬LowpanEndsHeaders d ∧
    ¬LowpanIsFragN d ∧ ¬LowpanIsMesh d ∧ ¬LowpanIsBc0 d) (by decide +kernel) dispatch
  have hfragN := uint8_cases (p := fun d => LowpanIsFragN d → ¬LowpanEndsHeaders d ∧
    ¬LowpanIsMesh d ∧ ¬LowpanIsBc0 d) (by decide +kernel) dispatch
  have hmesh := uint8_cases (p := fun d => LowpanIsMesh d → ¬LowpanEndsHeaders d ∧ ¬LowpanIsBc0 d)
    (by decide +kernel) dispatch
  have hbc0 := uint8_cases (p := fun d => LowpanIsBc0 d → ¬LowpanEndsHeaders d)
    (by decide +kernel) dispatch
  have hfragx := uint8_cases (p := fun d => d &&& LOWPAN_DISPATCH_MASK_FRAGX =
    LOWPAN_DISPATCH_PATTERN_FRAGX ↔ LowpanIsFrag1 d ∨ LowpanIsFragN d) (by decide +kernel) dispatch
  exact ⟨hfrag1, hfragN, hmesh, hbc0, hfragx⟩

/-- What a complete header at the front of some bytes says of their first byte. -/
theorem completeHdr_append_iff (kind : UInt8 → Prop) (size : UInt8 → ℕ)
    (p : List UInt8 → List UInt8 → Prop) (d : UInt8) (bs : List UInt8) (hpos : 0 < size d) :
    (∃ hdr rest, d :: bs = hdr ++ rest ∧ LowpanCompleteHdr kind size hdr ∧ p hdr rest) ↔
      kind d ∧ size d ≤ (d :: bs).length ∧
        p ((d :: bs).take (size d)) ((d :: bs).drop (size d)) := by
  constructor
  · rintro ⟨_, rest, heq, ⟨d', hdr, rfl, hkind, hlen⟩, hp⟩
    obtain ⟨hd, -⟩ := List.cons.inj heq
    subst hd
    rw [heq, ← hlen, List.take_left, List.drop_left, List.length_append]
    exact ⟨hkind, Nat.le_add_right _ _, hp⟩
  · rintro ⟨hkind, hle, hp⟩
    refine ⟨_, _, (List.take_append_drop (size d) (d :: bs)).symm, ?_, hp⟩
    obtain ⟨n, hn⟩ : ∃ n, size d = n + 1 := ⟨size d - 1, by omega⟩
    refine ⟨d, bs.take n, ?_, hkind, ?_⟩
    · rw [hn, List.take_succ_cons]
    · rw [List.length_take, Nat.min_eq_left hle]

theorem ipv6Follows_cons_iff {d : UInt8} {bs : List UInt8} :
    LowpanIpv6Follows (d :: bs) ↔ LowpanEndsHeaders d := by
  constructor
  · rintro ⟨d', rest, heq, hends⟩
    rwa [(List.cons.inj heq).1]
  · exact fun h => ⟨d, bs, rfl, h⟩

theorem not_fragmentFollows_nil : ¬LowpanFragmentFollows [] := by
  rintro (⟨hdr, rest, heq, ⟨d, tail, rfl, -⟩, -⟩ | ⟨hdr, rest, heq, -, d, tail, rfl, -⟩)
  · cases heq
  · cases hdr <;> cases heq

/-- The size of a fragmentation header. -/
def lowpanFragxHdrSize (dispatch : UInt8) : ℕ := if LowpanIsFragN dispatch then 5 else 4

theorem fragmentFollows_cons_iff (d : UInt8) (bs : List UInt8) :
    LowpanFragmentFollows (d :: bs) ↔ LowpanEndsHeaders d ∨
      ((LowpanIsFrag1 d ∨ LowpanIsFragN d) ∧ lowpanFragxHdrSize d ≤ (d :: bs).length ∧
        (LowpanIsFragN d ∧ (d :: bs).getD 4 0 ≠ 0 ∨
          LowpanIpv6Follows ((d :: bs).drop (lowpanFragxHdrSize d)))) := by
  have hfrag1 := completeHdr_append_iff LowpanIsFrag1 (fun _ => 4)
    (fun _ rest => LowpanIpv6Follows rest) d bs (by decide)
  have hfragN := completeHdr_append_iff LowpanIsFragN (fun _ => 5)
    (fun hdr rest => lowpanFragNOffset hdr = 0 ∧ LowpanIpv6Follows rest) d bs (by decide)
  have hlater := completeHdr_append_iff LowpanIsFragN (fun _ => 5)
    (fun hdr _ => lowpanFragNOffset hdr ≠ 0) d bs (by decide)
  have hoffset : lowpanFragNOffset ((d :: bs).take 5) = (d :: bs).getD 4 0 := by
    rw [lowpanFragNOffset, List.getD_eq_getElem?_getD, List.getElem?_take_of_lt (by decide),
      List.getD_eq_getElem?_getD]
  rw [hoffset] at hfragN hlater
  obtain ⟨hkind1, hkindN, -⟩ := lowpanDispatch_kinds d
  have hsplit : LowpanFragmentFollows (d :: bs) ↔
      (∃ hdr rest, d :: bs = hdr ++ rest ∧ LowpanFragNHdr hdr ∧ lowpanFragNOffset hdr ≠ 0) ∨
      LowpanIpv6Follows (d :: bs) ∨
      (∃ hdr rest, d :: bs = hdr ++ rest ∧ LowpanFrag1Hdr hdr ∧ LowpanIpv6Follows rest) ∨
      ∃ hdr rest, d :: bs = hdr ++ rest ∧ LowpanFragNHdr hdr ∧ lowpanFragNOffset hdr = 0 ∧
        LowpanIpv6Follows rest := by
    constructor
    · rintro (h | ⟨hdr, rest, heq, rfl | h | ⟨h, hzero⟩, hipv6⟩)
      · exact .inl h
      · rw [List.nil_append] at heq
        rw [heq]
        exact .inr (.inl hipv6)
      · exact .inr (.inr (.inl ⟨hdr, rest, heq, h, hipv6⟩))
      · exact .inr (.inr (.inr ⟨hdr, rest, heq, h, hzero, hipv6⟩))
    · rintro (h | h | ⟨hdr, rest, heq, h, hipv6⟩ | ⟨hdr, rest, heq, h, hzero, hipv6⟩)
      · exact .inl h
      · exact .inr ⟨[], d :: bs, rfl, .inl rfl, h⟩
      · exact .inr ⟨hdr, rest, heq, .inr (.inl h), hipv6⟩
      · exact .inr ⟨hdr, rest, heq, .inr (.inr ⟨h, hzero⟩), hipv6⟩
  rw [hsplit, LowpanFragNHdr, LowpanFrag1Hdr, hfrag1, hfragN, hlater, ipv6Follows_cons_iff]
  unfold lowpanFragxHdrSize
  by_cases hN : LowpanIsFragN d
  · have h1 : ¬LowpanIsFrag1 d := fun h => (hkind1 h).2.1 hN
    simp only [hN, h1, if_true, true_and, false_and, false_or, or_true]
    generalize LowpanIpv6Follows ((d :: bs).drop 5) = ipv6
    generalize (d :: bs).getD 4 0 = offset
    by_cases hzero : offset = 0
    · simp only [hzero, ne_eq, not_true_eq_false, and_false, false_or, true_and]
    · simp only [hzero, ne_eq, not_false_eq_true, and_true, false_and, and_false, or_false, true_or]
      exact or_comm
  · simp only [hN, if_false, false_and, false_or, or_false]

/-- An optional header at the front of some bytes. -/
theorem optionalHdr_append_iff (kind : UInt8 → Prop) (size : UInt8 → ℕ) (p : List UInt8 → Prop)
    (d : UInt8) (bs : List UInt8) (hpos : 0 < size d) :
    (∃ hdr rest, d :: bs = hdr ++ rest ∧ (hdr = [] ∨ LowpanCompleteHdr kind size hdr) ∧ p rest) ↔
      p (d :: bs) ∨ kind d ∧ size d ≤ (d :: bs).length ∧ p ((d :: bs).drop (size d)) := by
  have hcomplete := completeHdr_append_iff kind size (fun _ rest => p rest) d bs hpos
  rw [← hcomplete]
  constructor
  · rintro ⟨hdr, rest, heq, rfl | h, hp⟩
    · rw [List.nil_append] at heq
      rw [heq]
      exact .inl hp
    · exact .inr ⟨hdr, rest, heq, h, hp⟩
  · rintro (hp | ⟨hdr, rest, heq, h, hp⟩)
    · exact ⟨[], d :: bs, rfl, .inl rfl, hp⟩
    · exact ⟨hdr, rest, heq, .inr h, hp⟩

end Kinds

/-! ## The sizes that the functions return -/

section Sizes

variable (payload : List UInt8) (o payloadLen : ℕ)

theorem unpackBc0Hdr_size (hdr : LowpanUnpackedHeaderBc0) :
    (lowpanFrameHeadersUnpackBc0Hdr hdr payload o payloadLen).2 =
      if o + 2 ≤ payloadLen then 2 else 0 := by
  unfold lowpanFrameHeadersUnpackBc0Hdr
  by_cases h : o + 2 ≤ payloadLen
  · rw [if_neg (by omega), if_pos h]
  · rw [if_pos (by omega), if_neg h]

theorem unpackFragxHdr_size (hdr : LowpanUnpackedHeaderFrag) :
    let r := lowpanFrameHeadersUnpackFragxHdr hdr payload o payloadLen
    let size := lowpanFragxHdrSize (payload.getD o 0)
    r.2 = (if o + size ≤ payloadLen then size else 0) ∧
      (r.2 ≠ 0 → r.1.offset =
        if LowpanIsFragN (payload.getD o 0) then (payload.getD (o + 4) 0).toUInt16 <<< 3 else 0) := by
  dsimp only
  unfold lowpanFrameHeadersUnpackFragxHdr lowpanFragxHdrSize
  dsimp only
  by_cases hfour : o + 4 ≤ payloadLen
  · rw [if_neg (by omega : ¬o + 1 + 3 > payloadLen)]
    by_cases hN : LowpanIsFragN (payload.getD o 0)
    · have hN' : payload.getD o 0 &&& LOWPAN_DISPATCH_MASK_FRAGN = LOWPAN_DISPATCH_PATTERN_FRAGN := hN
      rw [if_pos hN', if_pos hN, if_pos hN]
      by_cases hfive : o + 5 ≤ payloadLen
      · rw [if_neg (by omega), if_pos hfive]
        exact ⟨by simp only; omega, fun _ => rfl⟩
      · rw [if_pos (by omega), if_neg hfive]
        exact ⟨rfl, fun h => absurd rfl h⟩
    · have hN' : ¬payload.getD o 0 &&& LOWPAN_DISPATCH_MASK_FRAGN = LOWPAN_DISPATCH_PATTERN_FRAGN := hN
      rw [if_neg hN', if_neg hN, if_neg hN, if_pos hfour]
      exact ⟨by simp only; omega, fun _ => rfl⟩
  · have hshort : ¬o + (if LowpanIsFragN (payload.getD o 0) then 5 else 4) ≤ payloadLen := by
      split_ifs <;> omega
    rw [if_pos (by omega), if_neg hshort]
    exact ⟨rfl, fun h => absurd rfl h⟩

theorem unpackMeshAddr_isSome (isExt : Prop) [Decidable isExt] :
    lowpanUnpackMeshAddr isExt payload o payloadLen =
      let size := if isExt then IEEE154_EXT_ADDR_BYTE_LENGTH else IEEE154_SHORT_ADDR_BYTE_LENGTH
      let addr : Ieee154Addr := if isExt then .ext (readAddr 8 (payload.drop o))
        else .shrt (readAddr 2 (payload.drop o))
      if o + size ≤ payloadLen then some (addr, o + size) else none := by
  unfold lowpanUnpackMeshAddr
  dsimp only
  by_cases hext : isExt
  · simp only [if_pos hext, ← not_lt, gt_iff_lt, ite_not]
  · simp only [if_neg hext, ← not_lt, gt_iff_lt, ite_not]

theorem unpackMeshHdr_size (hdr : LowpanUnpackedHeaderMesh) :
    (lowpanFrameHeadersUnpackMeshHdr hdr payload o payloadLen).2 =
      let size := lowpanMeshHdrSize (payload.getD o 0)
      if o + size ≤ payloadLen then size else 0 := by
  unfold lowpanFrameHeadersUnpackMeshHdr lowpanMeshHdrSize
  dsimp only
  generalize payload.getD o 0 = d
  generalize hdeep : (if d &&& (0x0f : UInt8) = 0x0f then 1 else 0) = deep
  have hoff : (if d &&& (0x0f : UInt8) = 0x0f then o + 1 + 1 else o + 1) = o + 1 + deep := by
    rw [← hdeep]
    split_ifs <;> rfl
  rw [hoff, unpackMeshAddr_isSome]
  dsimp only
  generalize (if d &&& (0x20 : UInt8) ≠ 0 then IEEE154_EXT_ADDR_BYTE_LENGTH
    else IEEE154_SHORT_ADDR_BYTE_LENGTH) = src
  generalize hdst : (if d &&& (0x10 : UInt8) ≠ 0 then IEEE154_EXT_ADDR_BYTE_LENGTH
    else IEEE154_SHORT_ADDR_BYTE_LENGTH) = dst
  have hpos : 0 < dst := by
    rw [← hdst]
    split_ifs <;> decide
  by_cases hfit : o + (1 + deep + src + dst) ≤ payloadLen
  · have hopen : ¬(d &&& (0x0f : UInt8) = 0x0f ∧ o + 1 ≥ payloadLen) := fun h => by omega
    rw [if_pos hfit, if_neg hopen, if_pos (by omega)]
    dsimp only
    rw [unpackMeshAddr_isSome]
    dsimp only
    rw [hdst, if_pos (by omega)]
    dsimp only
    omega
  · rw [if_neg hfit]
    split
    · rfl
    by_cases hsrc : o + 1 + deep + src ≤ payloadLen
    · rw [if_pos hsrc]
      dsimp only
      rw [unpackMeshAddr_isSome]
      dsimp only
      rw [hdst, if_neg (by omega)]
    · rw [if_neg hsrc]

end Sizes

/-! ## The loop against the grammar -/

section Loop

variable {payload : List UInt8} {fuel o : ℕ} {hdrs : LowpanUnpackedFrameHeaders}

theorem noError_failed_iff (hdrs : LowpanUnpackedFrameHeaders) :
    (lowpanFrameHeadersUnpackFailed hdrs).1 = .noError ↔ False := by
  simp [lowpanFrameHeadersUnpackFailed]

theorem drop_eq_getD_cons (ho : o < payload.length) :
    payload.drop o = payload.getD o 0 :: payload.drop (o + 1) := by
  rw [List.drop_eq_getElem_cons ho, List.getD_eq_getElem _ _ ho]

theorem getD_drop_of_cons (k : ℕ) : (payload.drop o).getD k 0 = payload.getD (o + k) 0 := by
  rw [List.getD_eq_getElem?_getD, List.getElem?_drop, List.getD_eq_getElem?_getD]

/-- A turn of the loop at a byte that is no header. -/
theorem unpackLoop_other (ho : o < payload.length) (hends : ¬LowpanEndsHeaders (payload.getD o 0))
    (hfrag1 : ¬LowpanIsFrag1 (payload.getD o 0)) (hfragN : ¬LowpanIsFragN (payload.getD o 0))
    (hmesh : ¬LowpanIsMesh (payload.getD o 0)) (hbc0 : ¬LowpanIsBc0 (payload.getD o 0)) :
    lowpanFrameHeadersUnpackLoop payload payload.length (fuel + 1) hdrs o =
      lowpanFrameHeadersUnpackFailed hdrs := by
  have hfragx := (lowpanDispatch_kinds (payload.getD o 0)).2.2.2.2.not.mpr
    (not_or.mpr ⟨hfrag1, hfragN⟩)
  rw [lowpanFrameHeadersUnpackLoop, if_pos ho]
  dsimp only
  rw [LowpanIsMesh] at hmesh
  rw [LowpanIsBc0] at hbc0
  rw [if_neg fun h => hends (.inl h), if_neg fun h => hends (.inr h), if_neg hfragx, if_neg hmesh,
    if_neg hbc0]

/-- A turn of the loop at a fragmentation header. -/
theorem unpackLoop_fragx (ho : o < payload.length)
    (hkind : LowpanIsFrag1 (payload.getD o 0) ∨ LowpanIsFragN (payload.getD o 0)) :
    lowpanFrameHeadersUnpackLoop payload payload.length (fuel + 1) hdrs o =
      if hdrs.bitmap.frag then lowpanFrameHeadersUnpackFailed hdrs
      else
        let r := lowpanFrameHeadersUnpackFragxHdr hdrs.frag payload o payload.length
        let hdrs := { hdrs with bitmap := { hdrs.bitmap with frag := true }, frag := r.1 }
        if r.2 = 0 then lowpanFrameHeadersUnpackFailed hdrs
        else if hdrs.frag.offset > 0 then (.noError, { hdrs with nextOffset := o + r.2 })
        else lowpanFrameHeadersUnpackLoop payload payload.length fuel hdrs (o + r.2) := by
  obtain ⟨hkind1, hkindN, -, -, hfragx⟩ := lowpanDispatch_kinds (payload.getD o 0)
  have hends : ¬LowpanEndsHeaders (payload.getD o 0) := by
    rcases hkind with h | h
    · exact (hkind1 h).1
    · exact (hkindN h).1
  rw [lowpanFrameHeadersUnpackLoop, if_pos ho]
  dsimp only
  rw [if_neg fun h => hends (.inl h), if_neg fun h => hends (.inr h), if_pos (hfragx.mpr hkind)]

/-- A turn of the loop at a mesh header. -/
theorem unpackLoop_meshHdr (ho : o < payload.length) (hkind : LowpanIsMesh (payload.getD o 0)) :
    lowpanFrameHeadersUnpackLoop payload payload.length (fuel + 1) hdrs o =
      if hdrs.bitmap.mesh ∨ hdrs.bitmap.bc0 ∨ hdrs.bitmap.frag then
        lowpanFrameHeadersUnpackFailed hdrs
      else
        let r := lowpanFrameHeadersUnpackMeshHdr hdrs.mesh payload o payload.length
        let hdrs := { hdrs with bitmap := { hdrs.bitmap with mesh := true }, mesh := r.1 }
        if r.2 = 0 then lowpanFrameHeadersUnpackFailed hdrs
        else lowpanFrameHeadersUnpackLoop payload payload.length fuel hdrs (o + r.2) := by
  obtain ⟨hkind1, hkindN, hkindMesh, -, hfragx⟩ := lowpanDispatch_kinds (payload.getD o 0)
  have hnot : ¬(payload.getD o 0 &&& LOWPAN_DISPATCH_MASK_FRAGX = LOWPAN_DISPATCH_PATTERN_FRAGX) := by
    rw [hfragx]
    rintro (h | h)
    · exact (hkind1 h).2.2.1 hkind
    · exact (hkindN h).2.1 hkind
  obtain ⟨hends, -⟩ := hkindMesh hkind
  rw [LowpanIsMesh] at hkind
  rw [lowpanFrameHeadersUnpackLoop, if_pos ho]
  dsimp only
  rw [if_neg fun h => hends (.inl h), if_neg fun h => hends (.inr h), if_neg hnot, if_pos hkind]

/-- A turn of the loop at a broadcast header. -/
theorem unpackLoop_bc0Hdr (ho : o < payload.length) (hkind : LowpanIsBc0 (payload.getD o 0)) :
    lowpanFrameHeadersUnpackLoop payload payload.length (fuel + 1) hdrs o =
      if hdrs.bitmap.bc0 ∨ hdrs.bitmap.frag then lowpanFrameHeadersUnpackFailed hdrs
      else
        let r := lowpanFrameHeadersUnpackBc0Hdr hdrs.bc0 payload o payload.length
        let hdrs := { hdrs with bitmap := { hdrs.bitmap with bc0 := true }, bc0 := r.1 }
        if r.2 = 0 then lowpanFrameHeadersUnpackFailed hdrs
        else lowpanFrameHeadersUnpackLoop payload payload.length fuel hdrs (o + r.2) := by
  obtain ⟨hkind1, hkindN, hkindMesh, hkindBc0, hfragx⟩ := lowpanDispatch_kinds (payload.getD o 0)
  have hnot : ¬(payload.getD o 0 &&& LOWPAN_DISPATCH_MASK_FRAGX = LOWPAN_DISPATCH_PATTERN_FRAGX) := by
    rw [hfragx]
    rintro (h | h)
    · exact (hkind1 h).2.2.2 hkind
    · exact (hkindN h).2.2 hkind
  have hends := hkindBc0 hkind
  have hmesh : ¬LowpanIsMesh (payload.getD o 0) := fun h => (hkindMesh h).2 hkind
  rw [LowpanIsBc0] at hkind
  rw [LowpanIsMesh] at hmesh
  rw [lowpanFrameHeadersUnpackLoop, if_pos ho]
  dsimp only
  rw [if_neg fun h => hends (.inl h), if_neg fun h => hends (.inr h), if_neg hnot, if_neg hmesh,
    if_pos hkind]

/-- The loop fails at the end of the payload. -/
theorem unpackLoop_end {payloadLen : ℕ} (ho : ¬o < payloadLen) :
    lowpanFrameHeadersUnpackLoop payload payloadLen fuel hdrs o =
      lowpanFrameHeadersUnpackFailed hdrs := by
  cases fuel with
  | zero => rfl
  | succ n => rw [lowpanFrameHeadersUnpackLoop, if_neg ho]

/-- An offset counts eight-byte units. -/
theorem shiftLeft_three_pos_iff {b : UInt8} : b.toUInt16 <<< 3 > 0 ↔ b ≠ 0 :=
  uint8_cases (p := fun b => b.toUInt16 <<< 3 > 0 ↔ b ≠ 0) (by decide +kernel) b

/-- Behind a fragmentation header only an IPv6 header may follow. -/
theorem unpackLoop_accepts_afterFrag (hfrag : hdrs.bitmap.frag = true)
    (hfuel : payload.length < fuel + o) :
    (lowpanFrameHeadersUnpackLoop payload payload.length fuel hdrs o).1 = .noError ↔
      LowpanIpv6Follows (payload.drop o) := by
  by_cases ho : o < payload.length
  · obtain ⟨n, rfl⟩ : ∃ n, fuel = n + 1 := ⟨fuel - 1, by omega⟩
    rw [drop_eq_getD_cons ho, ipv6Follows_cons_iff]
    by_cases hends : LowpanEndsHeaders (payload.getD o 0)
    · rw [unpackLoop_done hfuel ho hends]
      exact iff_of_true rfl hends
    have hfailed : lowpanFrameHeadersUnpackLoop payload payload.length (n + 1) hdrs o =
        lowpanFrameHeadersUnpackFailed hdrs := by
      by_cases hkind : LowpanIsFrag1 (payload.getD o 0) ∨ LowpanIsFragN (payload.getD o 0)
      · rw [unpackLoop_fragx ho hkind, if_pos hfrag]
      by_cases hmesh : LowpanIsMesh (payload.getD o 0)
      · rw [unpackLoop_meshHdr ho hmesh, if_pos (.inr (.inr hfrag))]
      by_cases hbc0 : LowpanIsBc0 (payload.getD o 0)
      · rw [unpackLoop_bc0Hdr ho hbc0, if_pos (.inr hfrag)]
      obtain ⟨hfrag1, hfragN⟩ := not_or.mp hkind
      exact unpackLoop_other ho hends hfrag1 hfragN hmesh hbc0
    rw [hfailed, noError_failed_iff]
    exact iff_of_false id hends
  · have hnil : payload.drop o = [] := List.drop_of_length_le (not_lt.mp ho)
    rw [unpackLoop_end ho, noError_failed_iff, hnil]
    exact iff_of_false id fun ⟨_, _, h, _⟩ => by cases h

/-- Without a fragmentation header the loop goes on as the grammar of fragments does, unless a mesh or
a broadcast header comes first. -/
theorem unpackLoop_accepts_fragment (hfrag : hdrs.bitmap.frag = false)
    (hmesh : LowpanIsMesh (payload.getD o 0) → hdrs.bitmap.mesh = true ∨ hdrs.bitmap.bc0 = true)
    (hbc0 : LowpanIsBc0 (payload.getD o 0) → hdrs.bitmap.bc0 = true)
    (hfuel : payload.length < fuel + o) :
    (lowpanFrameHeadersUnpackLoop payload payload.length fuel hdrs o).1 = .noError ↔
      LowpanFragmentFollows (payload.drop o) := by
  by_cases ho : o < payload.length
  · obtain ⟨n, rfl⟩ : ∃ n, fuel = n + 1 := ⟨fuel - 1, by omega⟩
    have hgrammar : LowpanFragmentFollows (payload.drop o) ↔ LowpanEndsHeaders (payload.getD o 0) ∨
        ((LowpanIsFrag1 (payload.getD o 0) ∨ LowpanIsFragN (payload.getD o 0)) ∧
          o + lowpanFragxHdrSize (payload.getD o 0) ≤ payload.length ∧
          (LowpanIsFragN (payload.getD o 0) ∧ payload.getD (o + 4) 0 ≠ 0 ∨
            LowpanIpv6Follows (payload.drop (o + lowpanFragxHdrSize (payload.getD o 0))))) := by
      have hlen : (payload.drop o).length = payload.length - o := List.length_drop
      have hle : lowpanFragxHdrSize (payload.getD o 0) ≤ payload.length - o ↔
          o + lowpanFragxHdrSize (payload.getD o 0) ≤ payload.length := by omega
      have hcons := fragmentFollows_cons_iff (payload.getD o 0) (payload.drop (o + 1))
      rw [← drop_eq_getD_cons ho, hlen, hle, getD_drop_of_cons, List.drop_drop] at hcons
      exact hcons
    rw [hgrammar]
    by_cases hends : LowpanEndsHeaders (payload.getD o 0)
    · rw [unpackLoop_done hfuel ho hends]
      exact iff_of_true rfl (.inl hends)
    by_cases hkind : LowpanIsFrag1 (payload.getD o 0) ∨ LowpanIsFragN (payload.getD o 0)
    · obtain ⟨hsize, hoffset⟩ := unpackFragxHdr_size payload o payload.length hdrs.frag
      have hpos : 0 < lowpanFragxHdrSize (payload.getD o 0) := by
        unfold lowpanFragxHdrSize
        split_ifs <;> decide
      rw [unpackLoop_fragx ho hkind, if_neg (by rw [hfrag]; decide)]
      dsimp only
      by_cases hfit : o + lowpanFragxHdrSize (payload.getD o 0) ≤ payload.length
      · rw [if_pos hfit] at hsize
        have hne : (lowpanFrameHeadersUnpackFragxHdr hdrs.frag payload o payload.length).2 ≠ 0 := by
          omega
        rw [if_neg hne, hoffset hne, hsize]
        by_cases hlater : LowpanIsFragN (payload.getD o 0) ∧ payload.getD (o + 4) 0 ≠ 0
        · have hgt : (payload.getD (o + 4) 0).toUInt16 <<< 3 > 0 := shiftLeft_three_pos_iff.mpr hlater.2
          rw [if_pos hlater.1, if_pos hgt]
          exact iff_of_true rfl (.inr ⟨hkind, hfit, .inl hlater⟩)
        · have hzero : ¬(if LowpanIsFragN (payload.getD o 0) then
              (payload.getD (o + 4) 0).toUInt16 <<< 3 else 0) > 0 := by
            split_ifs with hN
            · exact fun h => hlater ⟨hN, shiftLeft_three_pos_iff.mp h⟩
            · decide
          rw [if_neg hzero, unpackLoop_accepts_afterFrag rfl (by omega)]
          simp only [hends, hkind, hfit, hlater, false_or, true_and]
      · rw [if_neg hfit] at hsize
        rw [if_pos hsize, noError_failed_iff]
        simp only [hends, hfit, false_and, and_false, or_false]
    have hfailed : lowpanFrameHeadersUnpackLoop payload payload.length (n + 1) hdrs o =
        lowpanFrameHeadersUnpackFailed hdrs := by
      by_cases hisMesh : LowpanIsMesh (payload.getD o 0)
      · rw [unpackLoop_meshHdr ho hisMesh, if_pos]
        exact (hmesh hisMesh).imp_right .inl
      by_cases hisBc0 : LowpanIsBc0 (payload.getD o 0)
      · rw [unpackLoop_bc0Hdr ho hisBc0, if_pos (.inl (hbc0 hisBc0))]
      obtain ⟨hfrag1, hfragN⟩ := not_or.mp hkind
      exact unpackLoop_other ho hends hfrag1 hfragN hisMesh hisBc0
    rw [hfailed, noError_failed_iff]
    simp only [hends, hkind, false_and, or_false]
  · rw [List.drop_of_length_le (not_lt.mp ho), unpackLoop_end ho, noError_failed_iff]
    exact iff_of_false id not_fragmentFollows_nil

theorem unpackLoop_accepts_broadcast (hfrag : hdrs.bitmap.frag = false)
    (hbc0 : hdrs.bitmap.bc0 = false)
    (hmesh : LowpanIsMesh (payload.getD o 0) → hdrs.bitmap.mesh = true)
    (hfuel : payload.length < fuel + o) :
    (lowpanFrameHeadersUnpackLoop payload payload.length fuel hdrs o).1 = .noError ↔
      LowpanBroadcastFollows (payload.drop o) := by
  by_cases ho : o < payload.length
  · obtain ⟨n, rfl⟩ : ∃ n, fuel = n + 1 := ⟨fuel - 1, by omega⟩
    have hgrammar : LowpanBroadcastFollows (payload.drop o) ↔
        LowpanFragmentFollows (payload.drop o) ∨ (LowpanIsBc0 (payload.getD o 0) ∧
          o + 2 ≤ payload.length ∧ LowpanFragmentFollows (payload.drop (o + 2))) := by
      have hlen : (payload.drop o).length = payload.length - o := List.length_drop
      have hle : 2 ≤ payload.length - o ↔ o + 2 ≤ payload.length := by omega
      have hcons := optionalHdr_append_iff LowpanIsBc0 (fun _ => 2) LowpanFragmentFollows
        (payload.getD o 0) (payload.drop (o + 1)) (by decide)
      rw [← drop_eq_getD_cons ho, hlen, hle, List.drop_drop] at hcons
      exact hcons
    rw [hgrammar]
    by_cases hkind : LowpanIsBc0 (payload.getD o 0)
    · obtain ⟨hkind1, hkindN, -, hkindBc0, -⟩ := lowpanDispatch_kinds (payload.getD o 0)
      have hnot : ¬LowpanFragmentFollows (payload.drop o) := by
        rw [drop_eq_getD_cons ho, fragmentFollows_cons_iff]
        rintro (h | ⟨h | h, -⟩)
        · exact hkindBc0 hkind h
        · exact (hkind1 h).2.2.2 hkind
        · exact (hkindN h).2.2 hkind
      rw [unpackLoop_bc0Hdr ho hkind, if_neg (by rw [hbc0, hfrag]; decide)]
      dsimp only
      rw [unpackBc0Hdr_size]
      by_cases hfit : o + 2 ≤ payload.length
      · rw [if_pos hfit, if_neg (by decide), unpackLoop_accepts_fragment (by exact hfrag)
          (fun _ => .inr rfl) (fun _ => rfl) (by omega)]
        simp only [hnot, hkind, hfit, false_or, true_and]
      · rw [if_neg hfit, if_pos rfl, noError_failed_iff]
        simp only [hnot, hfit, false_and, and_false, or_false]
    · rw [unpackLoop_accepts_fragment hfrag (fun h => .inl (hmesh h)) (fun h => absurd h hkind) hfuel]
      simp only [hkind, false_and, or_false]
  · rw [List.drop_of_length_le (not_lt.mp ho), unpackLoop_end ho, noError_failed_iff]
    refine iff_of_false id ?_
    rintro ⟨bc0, rest, heq, -, h⟩
    obtain ⟨-, rfl⟩ := List.append_eq_nil_iff.mp heq.symm
    exact not_fragmentFollows_nil h

theorem headersAccepted_iff (bs : List UInt8) : LowpanHeadersAccepted bs ↔
    ∃ mesh rest, bs = mesh ++ rest ∧ (mesh = [] ∨ LowpanMeshHdr mesh) ∧
      LowpanBroadcastFollows rest := by
  constructor
  · rintro ⟨mesh, bc0, rest, heq, hmesh, hbc0, h⟩
    exact ⟨mesh, bc0 ++ rest, by rw [heq, List.append_assoc], hmesh, bc0, rest, rfl, hbc0, h⟩
  · rintro ⟨mesh, -, heq, hmesh, bc0, rest, rfl, hbc0, h⟩
    exact ⟨mesh, bc0, rest, by rw [heq, List.append_assoc], hmesh, hbc0, h⟩

theorem unpackLoop_accepts (hempty : hdrs.bitmap = .empty) (hfuel : payload.length < fuel) :
    (lowpanFrameHeadersUnpackLoop payload payload.length fuel hdrs 0).1 = .noError ↔
      LowpanHeadersAccepted payload := by
  have hfrag : hdrs.bitmap.frag = false := by rw [hempty]; rfl
  have hbc0 : hdrs.bitmap.bc0 = false := by rw [hempty]; rfl
  have hmesh : hdrs.bitmap.mesh = false := by rw [hempty]; rfl
  rw [headersAccepted_iff]
  cases payload with
  | nil =>
    rw [unpackLoop_end (by simp), noError_failed_iff]
    refine iff_of_false id ?_
    rintro ⟨mesh, rest, heq, -, bc0, rest', rfl, -, h⟩
    obtain ⟨-, hnil⟩ := List.append_eq_nil_iff.mp heq.symm
    obtain ⟨-, rfl⟩ := List.append_eq_nil_iff.mp hnil
    exact not_fragmentFollows_nil h
  | cons d bs =>
    have ho : 0 < (d :: bs).length := Nat.succ_pos _
    obtain ⟨n, rfl⟩ : ∃ n, fuel = n + 1 := ⟨fuel - 1, by omega⟩
    have hpos : 0 < lowpanMeshHdrSize d := by
      unfold lowpanMeshHdrSize
      omega
    have hgrammar : (∃ mesh rest, d :: bs = mesh ++ rest ∧ (mesh = [] ∨ LowpanMeshHdr mesh) ∧
        LowpanBroadcastFollows rest) ↔ LowpanBroadcastFollows (d :: bs) ∨ LowpanIsMesh d ∧
          lowpanMeshHdrSize d ≤ (d :: bs).length ∧
          LowpanBroadcastFollows ((d :: bs).drop (lowpanMeshHdrSize d)) :=
      optionalHdr_append_iff LowpanIsMesh lowpanMeshHdrSize LowpanBroadcastFollows d bs hpos
    rw [hgrammar]
    by_cases hkind : LowpanIsMesh d
    · obtain ⟨hkind1, hkindN, hkindMesh, -, -⟩ := lowpanDispatch_kinds d
      have hnot : ¬LowpanBroadcastFollows (d :: bs) := by
        have hbroadcast := optionalHdr_append_iff LowpanIsBc0 (fun _ => 2) LowpanFragmentFollows
          d bs (by decide)
        rintro hfollows
        rcases hbroadcast.mp hfollows with h | ⟨h, -⟩
        · rw [fragmentFollows_cons_iff] at h
          rcases h with h | ⟨h | h, -⟩
          · exact (hkindMesh hkind).1 h
          · exact (hkind1 h).2.2.1 hkind
          · exact (hkindN h).2.1 hkind
        · exact (hkindMesh hkind).2 h
      rw [unpackLoop_meshHdr ho hkind, if_neg (by rw [hmesh, hbc0, hfrag]; decide)]
      dsimp only
      rw [unpackMeshHdr_size]
      simp only [List.getD_cons_zero, Nat.zero_add]
      by_cases hfit : lowpanMeshHdrSize d ≤ (d :: bs).length
      · rw [if_pos hfit, if_neg (by omega), unpackLoop_accepts_broadcast
          (by exact hfrag) (by exact hbc0) (fun _ => rfl) (by omega)]
        simp only [hnot, hkind, hfit, false_or, true_and]
      · rw [if_neg hfit, if_pos rfl, noError_failed_iff]
        simp only [hnot, hfit, false_and, and_false, or_false]
    · have hnot : LowpanIsMesh ((d :: bs).getD 0 0) → hdrs.bitmap.mesh = true := fun h =>
        absurd h hkind
      rw [unpackLoop_accepts_broadcast hfrag hbc0 hnot (by omega)]
      simp only [hkind, List.drop_zero, false_and, or_false]

end Loop

/-! ## What is read and what is answered -/

section Reads

variable {payload payload' : List UInt8} {payloadLen : ℕ}

/-- Two payloads with the same bytes before the end of the payload. -/
def LowpanSamePayload (payload payload' : List UInt8) (payloadLen : ℕ) : Prop :=
  ∀ i, i < payloadLen → payload'.getD i 0 = payload.getD i 0

theorem readAddr_same (h : LowpanSamePayload payload payload' payloadLen) {n o : ℕ}
    (hfit : o + n ≤ payloadLen) : readAddr n (payload'.drop o) = readAddr n (payload.drop o) := by
  unfold readAddr
  congr 1
  funext i
  have hi := i.isLt
  rw [getD_drop_of_cons, getD_drop_of_cons]
  exact h _ (by omega)

theorem unpackMeshAddr_same (h : LowpanSamePayload payload payload' payloadLen) (o : ℕ)
    (isExt : Prop) [Decidable isExt] :
    lowpanUnpackMeshAddr isExt payload' o payloadLen =
      lowpanUnpackMeshAddr isExt payload o payloadLen := by
  unfold lowpanUnpackMeshAddr
  split
  · split
    · rfl
    · next hfit => rw [readAddr_same h (by simp only [IEEE154_EXT_ADDR_BYTE_LENGTH] at hfit; omega)]
  · split
    · rfl
    · next hfit => rw [readAddr_same h (by simp only [IEEE154_SHORT_ADDR_BYTE_LENGTH] at hfit; omega)]

theorem unpackMeshHdr_same (h : LowpanSamePayload payload payload' payloadLen) {o : ℕ}
    (ho : o < payloadLen) (hdr : LowpanUnpackedHeaderMesh) :
    lowpanFrameHeadersUnpackMeshHdr hdr payload' o payloadLen =
      lowpanFrameHeadersUnpackMeshHdr hdr payload o payloadLen := by
  unfold lowpanFrameHeadersUnpackMeshHdr
  dsimp only
  rw [h o ho]
  generalize payload.getD o 0 = d
  by_cases hdeep : d &&& (0x0f : UInt8) = 0x0f
  · by_cases hend : o + 1 ≥ payloadLen
    · rw [if_pos ⟨hdeep, hend⟩, if_pos ⟨hdeep, hend⟩]
    · have hopen : ¬(d &&& (0x0f : UInt8) = 0x0f ∧ o + 1 ≥ payloadLen) := fun hboth => hend hboth.2
      rw [if_neg hopen, if_neg hopen, h (o + 1) (not_le.mp hend)]
      simp only [unpackMeshAddr_same h]
  · have hopen : ¬(d &&& (0x0f : UInt8) = 0x0f ∧ o + 1 ≥ payloadLen) := fun hboth => hdeep hboth.1
    rw [if_neg hopen, if_neg hopen]
    simp only [if_neg hdeep, unpackMeshAddr_same h]

theorem unpackBc0Hdr_same (h : LowpanSamePayload payload payload' payloadLen) (o : ℕ)
    (hdr : LowpanUnpackedHeaderBc0) :
    lowpanFrameHeadersUnpackBc0Hdr hdr payload' o payloadLen =
      lowpanFrameHeadersUnpackBc0Hdr hdr payload o payloadLen := by
  unfold lowpanFrameHeadersUnpackBc0Hdr
  split
  · rfl
  · next hfit => rw [h (o + 1) (by omega)]

theorem unpackFragxHdr_same (h : LowpanSamePayload payload payload' payloadLen) {o : ℕ}
    (ho : o < payloadLen) (hdr : LowpanUnpackedHeaderFrag) :
    lowpanFrameHeadersUnpackFragxHdr hdr payload' o payloadLen =
      lowpanFrameHeadersUnpackFragxHdr hdr payload o payloadLen := by
  unfold lowpanFrameHeadersUnpackFragxHdr
  dsimp only
  rw [h o ho]
  by_cases hfit : o + 1 + 3 > payloadLen
  · rw [if_pos hfit, if_pos hfit]
  · rw [if_neg hfit, if_neg hfit, h (o + 1) (by omega), h (o + 1 + 1) (by omega),
      h (o + 1 + 2) (by omega)]
    by_cases hend : o + 1 + 3 ≥ payloadLen
    · rw [if_pos hend, if_pos hend]
    · rw [if_neg hend, if_neg hend, h (o + 1 + 3) (not_le.mp hend)]

theorem unpackLoop_same (h : LowpanSamePayload payload payload' payloadLen) (fuel : ℕ)
    (hdrs : LowpanUnpackedFrameHeaders) (o : ℕ) :
    lowpanFrameHeadersUnpackLoop payload' payloadLen fuel hdrs o =
      lowpanFrameHeadersUnpackLoop payload payloadLen fuel hdrs o := by
  induction fuel generalizing hdrs o with
  | zero => rfl
  | succ n ih =>
    rw [lowpanFrameHeadersUnpackLoop, lowpanFrameHeadersUnpackLoop]
    by_cases ho : o < payloadLen
    · rw [if_pos ho, if_pos ho]
      dsimp only
      rw [h o ho, unpackFragxHdr_same h ho, unpackMeshHdr_same h ho, unpackBc0Hdr_same h]
      simp only [ih]
    · rw [if_neg ho, if_neg ho]

/-- The loop takes at most one turn for each byte that is left. -/
theorem unpackLoop_fuel {fuel fuel' o : ℕ} (hfuel : payloadLen < fuel + o)
    (hfuel' : payloadLen < fuel' + o) (hdrs : LowpanUnpackedFrameHeaders) :
    lowpanFrameHeadersUnpackLoop payload payloadLen fuel hdrs o =
      lowpanFrameHeadersUnpackLoop payload payloadLen fuel' hdrs o := by
  induction fuel generalizing fuel' hdrs o with
  | zero => rw [unpackLoop_end (by omega), unpackLoop_end (by omega)]
  | succ n ih =>
    cases fuel' with
    | zero => rw [unpackLoop_end (by omega), unpackLoop_end (by omega)]
    | succ n' =>
      have hnext : ∀ hdrs (size : ℕ), size ≠ 0 →
          lowpanFrameHeadersUnpackLoop payload payloadLen n hdrs (o + size) =
            lowpanFrameHeadersUnpackLoop payload payloadLen n' hdrs (o + size) :=
        fun hdrs size hsize => ih (by omega) (by omega) hdrs
      rw [lowpanFrameHeadersUnpackLoop, lowpanFrameHeadersUnpackLoop]
      dsimp only
      congr 1
      congr 1
      congr 1
      congr 1
      · congr 1
        split
        · rfl
        · next hsize => rw [hnext _ _ hsize]
      · congr 1
        · congr 1
          split
          · rfl
          · next hsize => rw [hnext _ _ hsize]
        · congr 1
          congr 1
          split
          · rfl
          · next hsize => rw [hnext _ _ hsize]

/-- Where the loop ends well the next offset is within the payload, and where it does not, nothing is
left in the headers. -/
theorem unpackLoop_result (payload : List UInt8) (payloadLen fuel : ℕ)
    (hdrs : LowpanUnpackedFrameHeaders) (o : ℕ) :
    let r := lowpanFrameHeadersUnpackLoop payload payloadLen fuel hdrs o
    (r.1 = .noError ∧ r.2.nextOffset ≤ payloadLen) ∨
      (r.1 = .argumentError ∧ r.2.bitmap = .empty ∧ r.2.nextOffset = 0) := by
  dsimp only
  induction fuel generalizing hdrs o with
  | zero => exact .inr ⟨rfl, rfl, rfl⟩
  | succ n ih =>
    have hfailed : ∀ hdrs, (lowpanFrameHeadersUnpackFailed hdrs).1 = .argumentError ∧
        (lowpanFrameHeadersUnpackFailed hdrs).2.bitmap = .empty ∧
        (lowpanFrameHeadersUnpackFailed hdrs).2.nextOffset = 0 := fun _ => ⟨rfl, rfl, rfl⟩
    rw [lowpanFrameHeadersUnpackLoop]
    by_cases ho : o < payloadLen
    swap
    · rw [if_neg ho]
      exact .inr (hfailed _)
    rw [if_pos ho]
    dsimp only
    split
    · exact .inl ⟨rfl, ho.le⟩
    split
    · exact .inl ⟨rfl, ho.le⟩
    split
    · split
      · exact .inr (hfailed _)
      split
      · exact .inr (hfailed _)
      next hsize =>
        split
        · refine .inl ⟨rfl, ?_⟩
          obtain ⟨heq, -⟩ := unpackFragxHdr_size payload o payloadLen hdrs.frag
          dsimp only at heq ⊢
          split_ifs at heq with hfit
          · omega
          · exact absurd heq hsize
        · exact ih _ _
    split
    · split
      · exact .inr (hfailed _)
      split
      · exact .inr (hfailed _)
      · exact ih _ _
    split
    · split
      · exact .inr (hfailed _)
      split
      · exact .inr (hfailed _)
      · exact ih _ _
    · exact .inr (hfailed _)

end Reads

/-! ## The law -/

section Results

variable (hdrs : LowpanUnpackedFrameHeaders) (frame : Ieee154DframeInfo)

/-- Unpacking ends whatever the bytes are, its answer depends on the bytes of the payload only, it
succeeds exactly on the payloads of the grammar, and its answer is within the payload or empty. -/
theorem lowpanFrameHeadersUnpack_grammar
    (hbuffer : (ieee154DFrameGetPayloadLen frame).toNat ≤
      (ieee154DFrameUnsafeGetPayloadPtr frame).length) :
    let payload := ieee154DFrameUnsafeGetPayloadPtr frame
    let payloadLen := (ieee154DFrameGetPayloadLen frame).toNat
    let start := { hdrs with bitmap := .empty, nextOffset := 0 }
    let r := lowpanFrameHeadersUnpack hdrs frame
    (∀ fuel, payloadLen < fuel →
      lowpanFrameHeadersUnpackLoop payload payloadLen fuel start 0 = r) ∧
    (∀ payload', LowpanSamePayload payload payload' payloadLen → ∀ fuel, payloadLen < fuel →
      lowpanFrameHeadersUnpackLoop payload' payloadLen fuel start 0 = r) ∧
    (r.1 = .noError ↔ LowpanHeadersAccepted (payload.take payloadLen)) ∧
    (r.1 = .noError → r.2.nextOffset ≤ payloadLen) ∧
    (r.1 ≠ .noError → r.2.bitmap = .empty ∧ r.2.nextOffset = 0) := by
  intro payload payloadLen start r
  have hends : ∀ fuel, payloadLen < fuel →
      lowpanFrameHeadersUnpackLoop payload payloadLen fuel start 0 = r := fun fuel hfuel =>
    unpackLoop_fuel (by omega) (by omega) start
  have hresult := unpackLoop_result payload payloadLen (payloadLen + 1) start 0
  refine ⟨hends, fun payload' hsame fuel hfuel => ?_, ?_, fun hok => ?_, fun hfailed => ?_⟩
  · rw [unpackLoop_same hsame, hends fuel hfuel]
  · have hlen : (payload.take payloadLen).length = payloadLen := by
      rw [List.length_take, Nat.min_eq_left hbuffer]
    have hsame : LowpanSamePayload payload (payload.take payloadLen) payloadLen := by
      intro i hi
      rw [List.getD_eq_getElem?_getD, List.getElem?_take_of_lt hi, List.getD_eq_getElem?_getD]
    have hexact : (lowpanFrameHeadersUnpackLoop (payload.take payloadLen)
        (payload.take payloadLen).length (payloadLen + 1) start 0).1 = .noError ↔
          LowpanHeadersAccepted (payload.take payloadLen) :=
      unpackLoop_accepts rfl (by omega)
    rw [hlen, unpackLoop_same hsame] at hexact
    exact hexact
  · rcases hresult with ⟨-, hle⟩ | ⟨herror, -⟩
    · exact hle
    · exact absurd (hok.symm.trans herror) (by decide)
  · rcases hresult with ⟨hok, -⟩ | ⟨-, hempty⟩
    · exact absurd hok hfailed
    · exact hempty

/-- A broadcast header and the header of a first fragment before a compressed IPv6 header. -/
theorem lowpanFrameHeadersUnpack_grammar_fragment :
    let hdrs : LowpanUnpackedFrameHeaders :=
      ⟨.empty, 0, ⟨0, 0, 0⟩, ⟨0, .none, .none⟩, ⟨0⟩⟩
    let frame : Ieee154DframeInfo :=
      ⟨[10, 1, 8, 0, 0x50, 3, 0xc0, 40, 0, 1, 0x60], 11, 0, 0, 0⟩
    (lowpanFrameHeadersUnpack hdrs frame).2.nextOffset = 6 ∧
      LowpanHeadersAccepted ((ieee154DFrameUnsafeGetPayloadPtr frame).take
        (ieee154DFrameGetPayloadLen frame).toNat) := by
  intro hdrs frame
  have hgrammar := lowpanFrameHeadersUnpack_grammar hdrs frame (by decide)
  exact ⟨by decide, hgrammar.2.2.1.mp (by decide)⟩

end Results

end Whip6
