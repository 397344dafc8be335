import Whip6.Ieee154.FrameCodec

/-!
# Bounds of parsed IEEE 802.15.4 data frames

Parsing locates the fields of a frame by its frame control field, and its payload by its first byte,
which is the length of the rest.  The fields stand one behind the other up to the place that the
first byte tells; they lie within the buffer exactly when that byte is below the length of the
buffer, which parsing does not check.
-/

namespace Whip6

/-- The places of the fields that a description locates, with their numbers of bytes. -/
def Ieee154DframeInfo.regions (frame : Ieee154DframeInfo) : List (ℕ × ℕ) :=
  [(0, 1), (1, 2), (3, 1), (ieee154DFrameGetOffsetDstPanId frame, 2),
    (ieee154DFrameGetOffsetDstAddr frame,
      (ieee154AddrModeLen (ieee154DFrameGetModeDstAddr frame)).getD 0)] ++
  (if ieee154DFrameIsInterPan frame then [(ieee154DFrameGetOffsetSrcPanId frame, 2)] else []) ++
  [(ieee154DFrameGetOffsetSrcAddr frame,
      (ieee154AddrModeLen (ieee154DFrameGetModeSrcAddr frame)).getD 0),
    (ieee154DFrameGetOffsetPayload frame, (ieee154DFrameGetPayloadLen frame).toNat)]

/-- The fields lie in the first bytes of the buffer. -/
def Ieee154DframeInfo.WithinBuffer (frame : Ieee154DframeInfo) (bufLen : ℕ) : Prop :=
  ∀ region ∈ frame.regions, region.1 + region.2 ≤ bufLen

variable {frame frame' : Ieee154DframeInfo} {bufPtr : List UInt8} {bufLen : UInt8}

/-- A description whose fields stand one behind the other, up to what the first byte tells. -/
structure Ieee154DframeInfo.Described (frame : Ieee154DframeInfo) (dstLen srcLen : ℕ) : Prop where
  dstMode : ieee154AddrModeLen (ieee154DFrameGetModeDstAddr frame) = some dstLen
  srcMode : ieee154AddrModeLen (ieee154DFrameGetModeSrcAddr frame) = some srcLen
  dstAddr : ieee154DFrameGetOffsetDstAddr frame = 6
  srcPanId : ieee154DFrameGetOffsetSrcPanId frame = 6 + dstLen
  srcAddr : ieee154DFrameGetOffsetSrcAddr frame = 6 + dstLen + frame.srcPanLen
  payload : ieee154DFrameGetOffsetPayload frame = 6 + dstLen + frame.srcPanLen + srcLen
  length : 5 + dstLen + frame.srcPanLen + srcLen ≤ (frame.bufferPtr.getD 0 0).toNat

theorem srcPanLen_interPan (h : frame.frameFlags &&& IEEE154_DFRAME_INFO_FLAG_INTER_PAN ≠ 0) :
    frame.srcPanLen = 2 :=
  if_pos (bne_iff_ne.mpr h)

/-- The payload ends where the first byte tells. -/
theorem Ieee154DframeInfo.Described.payload_end {dstLen srcLen : ℕ}
    (h : frame.Described dstLen srcLen) :
    ieee154DFrameGetOffsetPayload frame + (ieee154DFrameGetPayloadLen frame).toNat =
      (frame.bufferPtr.getD 0 0).toNat + 1 := by
  have hoff := h.payload
  have hlen := h.length
  rw [ieee154DFrameGetOffsetPayload] at hoff ⊢
  rw [ieee154DFrameGetPayloadLen]
  have hinitial : IEEE154_DFRAME_INITIAL_OFFSET.toNat = 4 := rfl
  have hheader : (IEEE154_DFRAME_INITIAL_OFFSET + IEEE154_DFRAME_CRC_SIZE - 1).toNat = 3 := rfl
  have hbyte := (frame.bufferPtr.getD 0 0).toNat_lt
  generalize IEEE154_DFRAME_INITIAL_OFFSET + IEEE154_DFRAME_CRC_SIZE - 1 = header at hheader ⊢
  rw [UInt8.toNat_sub, UInt8.toNat_sub]
  omega

/-- The fields lie within the bytes up to the end of the payload, and the payload ends there. -/
theorem Ieee154DframeInfo.Described.withinBuffer_iff {dstLen srcLen : ℕ}
    (h : frame.Described dstLen srcLen) (bufLen : ℕ) :
    frame.WithinBuffer bufLen ↔ (frame.bufferPtr.getD 0 0).toNat < bufLen := by
  have hend := h.payload_end
  have hpayload := h.payload
  constructor
  · intro hwithin
    have hlast := hwithin (ieee154DFrameGetOffsetPayload frame,
      (ieee154DFrameGetPayloadLen frame).toNat) (by simp [regions])
    dsimp only at hlast
    omega
  · intro hlt region hregion
    simp only [regions, h.dstMode, h.srcMode, Option.getD_some, List.mem_append, List.mem_cons,
      List.not_mem_nil, or_false, List.mem_ite_nil_right] at hregion
    have hdst : ieee154DFrameGetOffsetDstPanId frame = 4 := rfl
    rcases hregion with ((rfl | rfl | rfl | rfl | rfl) | ⟨hinter, rfl⟩) | rfl | rfl
    · omega
    · dsimp only
      omega
    · dsimp only
      omega
    · dsimp only
      omega
    · have hoff := h.dstAddr
      dsimp only
      omega
    · have hoff := h.srcPanId
      have hpan := srcPanLen_interPan (bne_iff_ne.mp hinter)
      dsimp only
      omega
    · have hoff := h.srcAddr
      dsimp only
      omega
    · dsimp only
      omega

/-- The modes and the places that parsing packs, with `currOff` bytes before the source address. -/
theorem parsed_places {flags dstMode srcMode currOff : UInt8} {dstLen srcLen panLen : ℕ}
    (hd : ieee154AddrModeLen dstMode = some dstLen) (hs : ieee154AddrModeLen srcMode = some srcLen)
    (hflags : flags = IEEE154_DFRAME_INFO_FLAG_INTER_PAN ∧ panLen = 2 ∨ flags = 0 ∧ panLen = 0)
    (hoff : currOff = 2 + UInt8.ofNat dstLen + UInt8.ofNat panLen) :
    let described : Ieee154DframeInfo := ⟨[], 0, flags ||| dstMode ||| (srcMode <<< 2),
      (2 : UInt8) ||| ((currOff + UInt8.ofNat srcLen) <<< 3),
      ((2 + UInt8.ofNat dstLen) <<< 4) ||| currOff⟩
    ieee154DFrameGetModeDstAddr described = dstMode ∧
      ieee154DFrameGetModeSrcAddr described = srcMode ∧ described.srcPanLen = panLen ∧
      ieee154DFrameGetOffsetDstAddr described = 6 ∧
      ieee154DFrameGetOffsetSrcPanId described = 6 + dstLen ∧
      ieee154DFrameGetOffsetSrcAddr described = 6 + dstLen + panLen ∧
      ieee154DFrameGetOffsetPayload described = 6 + dstLen + panLen + srcLen ∧
      (currOff + UInt8.ofNat srcLen).toNat = 2 + dstLen + panLen + srcLen := by
  subst hoff
  rcases ieee154AddrModeLen_eq_some hd with ⟨rfl, rfl⟩ | ⟨rfl, rfl⟩ <;>
    rcases ieee154AddrModeLen_eq_some hs with ⟨rfl, rfl⟩ | ⟨rfl, rfl⟩ <;>
    rcases hflags with ⟨rfl, rfl⟩ | ⟨rfl, rfl⟩ <;> decide

/-- What parsing without an error describes. -/
theorem ieee154DFrameInfoExisting_described
    (h : ieee154DFrameInfoExisting frame bufPtr bufLen = (.noError, frame')) :
    frame'.bufferPtr = bufPtr ∧ ∃ dstLen srcLen, frame'.Described dstLen srcLen := by
  unfold ieee154DFrameInfoExisting at h
  dsimp only at h
  split at h
  · cases h
  split at h
  · cases h
  split at h
  · cases h
  have hflags : ∃ panLen, ((if bufPtr.getD 1 0 &&& IEEE154_FCF_INTRA_PAN_FLAG_BIT = 0 then
      IEEE154_DFRAME_INFO_FLAG_INTER_PAN else 0) = IEEE154_DFRAME_INFO_FLAG_INTER_PAN ∧
        panLen = 2) ∨ ((if bufPtr.getD 1 0 &&& IEEE154_FCF_INTRA_PAN_FLAG_BIT = 0 then
      IEEE154_DFRAME_INFO_FLAG_INTER_PAN else 0) = 0 ∧ panLen = 0) := by
    split
    · exact ⟨2, Or.inl ⟨rfl, rfl⟩⟩
    · exact ⟨0, Or.inr ⟨rfl, rfl⟩⟩
  obtain ⟨panLen, hflags⟩ := hflags
  generalize (if bufPtr.getD 1 0 &&& IEEE154_FCF_INTRA_PAN_FLAG_BIT = 0 then
    IEEE154_DFRAME_INFO_FLAG_INTER_PAN else 0) = flags at h hflags
  generalize (bufPtr.getD 2 0 >>> 2) &&& IEEE154_ADDR_MODE_MASK = dstMode at h
  generalize (bufPtr.getD 2 0 >>> 6) &&& IEEE154_ADDR_MODE_MASK = srcMode at h
  cases hd : ieee154AddrModeLen dstMode with
  | none =>
    rw [hd] at h
    cases h
  | some dstLen =>
    cases hs : ieee154AddrModeLen srcMode with
    | none =>
      rw [hd, hs] at h
      cases h
    | some srcLen =>
      rw [hd, hs] at h
      dsimp only at h
      have hoff : (if (flags ||| dstMode) &&& IEEE154_DFRAME_INFO_FLAG_INTER_PAN ≠ 0 then
          2 + UInt8.ofNat dstLen + 2 else 2 + UInt8.ofNat dstLen) =
          2 + UInt8.ofNat dstLen + UInt8.ofNat panLen := by
        rcases ieee154AddrModeLen_eq_some hd with ⟨rfl, rfl⟩ | ⟨rfl, rfl⟩ <;>
          rcases hflags with ⟨rfl, rfl⟩ | ⟨rfl, rfl⟩ <;> decide
      obtain ⟨hdst, hsrc, hpan, h₁, h₂, h₃, h₄, h₅⟩ := parsed_places hd hs hflags hoff
      generalize (if (flags ||| dstMode) &&& IEEE154_DFRAME_INFO_FLAG_INTER_PAN ≠ 0 then
        2 + UInt8.ofNat dstLen + 2 else 2 + UInt8.ofNat dstLen) = currOff
        at h hdst hsrc hpan h₁ h₂ h₃ h₄ h₅
      split at h
      · cases h
      next hlen =>
        obtain rfl := (Prod.mk.inj h).2
        have hheader : (IEEE154_DFRAME_INITIAL_OFFSET + IEEE154_DFRAME_CRC_SIZE - 1).toNat = 3 :=
          rfl
        have hlength : 5 + dstLen + panLen + srcLen ≤ (bufPtr.getD 0 0).toNat := by omega
        exact ⟨rfl, dstLen, srcLen, (congrArg ieee154AddrModeLen hdst).trans hd,
          (congrArg ieee154AddrModeLen hsrc).trans hs, h₁, h₂,
          h₃.trans (congrArg (6 + dstLen + ·) hpan.symm),
          h₄.trans (congrArg (6 + dstLen + · + srcLen) hpan.symm),
          (congrArg (5 + dstLen + · + srcLen) hpan).le.trans hlength⟩

section Results

/-- **Bounds of a parsed frame.**  For every buffer and every length of it, the header fields and the
payload of a frame that is parsed without an error lie within the buffer exactly when the first byte,
the length of the rest, is below the length of the buffer. -/
theorem ieee154DFrameInfoExisting_bounds (frame frame' : Ieee154DframeInfo) (bufPtr : List UInt8)
    (bufLen : UInt8) (h : ieee154DFrameInfoExisting frame bufPtr bufLen = (.noError, frame')) :
    frame'.WithinBuffer bufLen.toNat ↔ bufPtr.getD 0 0 < bufLen := by
  obtain ⟨hptr, dstLen, srcLen, hdescribed⟩ := ieee154DFrameInfoExisting_described h
  rw [hdescribed.withinBuffer_iff, hptr, UInt8.lt_iff_toNat_lt]

/-- A frame between short addresses, with two bytes of payload. -/
theorem ieee154DFrameInfoExisting_bounds_short :
    (⟨[13, 0x41, 0x88, 0, 1, 2, 3, 4, 5, 6, 7, 8, 9, 10], 14, 10, 50, 68⟩ :
      Ieee154DframeInfo).WithinBuffer 14 ↔ (13 : UInt8) < 14 := by
  refine ieee154DFrameInfoExisting_bounds ⟨[], 0, 0, 0, 0⟩ _
    [13, 0x41, 0x88, 0, 1, 2, 3, 4, 5, 6, 7, 8, 9, 10] 14 ?_
  decide

/-- A frame that announces a hundred bytes in a buffer of twelve. -/
theorem ieee154DFrameInfoExisting_overrun :
    ∃ frame', ieee154DFrameInfoExisting ⟨[], 0, 0, 0, 0⟩
        [100, 0x41, 0x88, 0, 1, 2, 3, 4, 5, 6, 7, 8] 12 = (.noError, frame') ∧
      ¬ frame'.WithinBuffer 12 := by
  refine ⟨_, rfl, fun h => ?_⟩
  have hpayload := h (10, 91) (by decide)
  contradiction

end Results

end Whip6
