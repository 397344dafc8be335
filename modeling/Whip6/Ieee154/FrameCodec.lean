import Whip6.Ieee154.Frame

/-!
# Building and parsing IEEE 802.15.4 data frames

A frame that was initialised has its fields one behind the other: the length, the frame control
field, the sequence number, the destination PAN and address, the source PAN of a frame between PANs,
the source address and the payload.  `Ieee154DframeInfo.Built` says so of a description and its
buffer.  A setter writes only the bytes of its field, the getters return what the setters wrote, and
parsing the buffer gives the description back.
-/

namespace Whip6

open Lib

def IEEE154_FCF_FRAME_TYPE_FIELD_MASK : UInt8 := 0x07

def IEEE154_FCF_SECURITY_ENABLED_FLAG_BIT : UInt8 := 0x08

def IEEE154_FCF_FRAME_PENDING_FLAG_BIT : UInt8 := 0x10

def IEEE154_FCF_ACK_REQUEST_FLAG_BIT : UInt8 := 0x20

def ieee154DFrameGetSeqNo (frame : Ieee154DframeInfo) : UInt8 := frame.bufferPtr.getD 3 0

def ieee154DFrameGetSrcPanId (frame : Ieee154DframeInfo) : Ieee154PanId :=
  readAddr 2 (frame.bufferPtr.drop (ieee154DFrameGetOffsetSrcPanId frame))

/-! ## Parsing -/

/-- Describe the frame that stands in a buffer. -/
def ieee154DFrameInfoExisting (frame : Ieee154DframeInfo) (bufPtr : List UInt8)
    (bufLen : UInt8) : Whip6Error × Ieee154DframeInfo :=
  if bufLen < IEEE154_DFRAME_MINIMAL_SIZE then (.sizeError, frame)
  else
    let tmp := bufPtr.getD 1 0
    if tmp &&& IEEE154_FCF_FRAME_TYPE_FIELD_MASK ≠ IEEE154_DFRAME_TYPE then
      (.argumentError, ⟨bufPtr, bufLen, 0, 0, 0⟩)
    else if tmp &&& (IEEE154_FCF_SECURITY_ENABLED_FLAG_BIT ||| IEEE154_FCF_FRAME_PENDING_FLAG_BIT) ≠
        0 then
      (.argumentError, ⟨bufPtr, bufLen, 0, 0, 0⟩)
    else
      let frameFlags := if tmp &&& IEEE154_FCF_INTRA_PAN_FLAG_BIT = 0 then
        IEEE154_DFRAME_INFO_FLAG_INTER_PAN else 0
      let dstMode := (bufPtr.getD 2 0 >>> 2) &&& IEEE154_ADDR_MODE_MASK
      match ieee154AddrModeLen dstMode with
      | none => (.argumentError, ⟨bufPtr, bufLen, frameFlags, 0, 0⟩)
      | some dstLen =>
        let dstAddrOff : UInt8 := 2
        let currOff := 2 + UInt8.ofNat dstLen
        let frameFlags := frameFlags ||| dstMode
        let srcPanOff := currOff <<< 4
        let currOff := if frameFlags &&& IEEE154_DFRAME_INFO_FLAG_INTER_PAN ≠ 0 then currOff + 2
          else currOff
        let srcMode := (bufPtr.getD 2 0 >>> 6) &&& IEEE154_ADDR_MODE_MASK
        match ieee154AddrModeLen srcMode with
        | none => (.argumentError, ⟨bufPtr, bufLen, frameFlags, dstAddrOff, srcPanOff⟩)
        | some srcLen =>
          let srcPanAndAddrOff := srcPanOff ||| currOff
          let currOff := currOff + UInt8.ofNat srcLen
          let frameFlags := frameFlags ||| (srcMode <<< 2)
          if (bufPtr.getD 0 0).toNat < currOff.toNat +
              (IEEE154_DFRAME_INITIAL_OFFSET + IEEE154_DFRAME_CRC_SIZE - 1).toNat then
            (.sizeError, ⟨bufPtr, bufLen, frameFlags, dstAddrOff, srcPanAndAddrOff⟩)
          else
            (.noError,
              ⟨bufPtr, bufLen, frameFlags, dstAddrOff ||| (currOff <<< 3), srcPanAndAddrOff⟩)

/-! ## Built frames -/

/-- The number of bytes of the source PAN in a frame. -/
def Ieee154DframeInfo.srcPanLen (frame : Ieee154DframeInfo) : ℕ :=
  if ieee154DFrameIsInterPan frame then 2 else 0

/-- The description agrees with the frame control field, and the buffer has room for the header. -/
structure Ieee154DframeInfo.Built (frame : Ieee154DframeInfo) (dstLen srcLen : ℕ) : Prop where
  dstMode : ieee154AddrModeLen (ieee154DFrameGetModeDstAddr frame) = some dstLen
  srcMode : ieee154AddrModeLen (ieee154DFrameGetModeSrcAddr frame) = some srcLen
  payloadAndDstAddrOff : frame.payloadAndDstAddrOff =
    UInt8.ofNat (8 * (2 + dstLen + frame.srcPanLen + srcLen) + 2)
  srcPanAndAddrOff : frame.srcPanAndAddrOff =
    UInt8.ofNat (16 * (2 + dstLen) + (2 + dstLen + frame.srcPanLen))
  control1 : frame.bufferPtr[1]? = some (IEEE154_DFRAME_TYPE |||
    (if ieee154DFrameIsInterPan frame then 0 else IEEE154_FCF_INTRA_PAN_FLAG_BIT))
  control2 : frame.bufferPtr[2]? = some ((ieee154DFrameGetModeDstAddr frame <<< 2) |||
    (ieee154DFrameGetModeSrcAddr frame <<< 6))
  length : ∃ b, frame.bufferPtr[0]? = some b ∧
    5 + dstLen + frame.srcPanLen + srcLen ≤ b.toNat ∧ b.toNat < frame.bufferLen.toNat
  bufferLen_le : frame.bufferLen.toNat ≤ frame.bufferPtr.length

namespace Ieee154DframeInfo.Built

variable {frame : Ieee154DframeInfo} {dstLen srcLen : ℕ}

/-- The packed places are the true ones. -/
theorem offsets (h : frame.Built dstLen srcLen) :
    ieee154DFrameGetOffsetDstAddr frame = 6 ∧
      ieee154DFrameGetOffsetSrcPanId frame = 6 + dstLen ∧
      ieee154DFrameGetOffsetSrcAddr frame = 6 + dstLen + frame.srcPanLen ∧
      ieee154DFrameGetOffsetPayload frame = 6 + dstLen + frame.srcPanLen + srcLen := by
  unfold ieee154DFrameGetOffsetDstAddr ieee154DFrameGetOffsetSrcPanId
    ieee154DFrameGetOffsetSrcAddr ieee154DFrameGetOffsetPayload
  rw [h.payloadAndDstAddrOff, h.srcPanAndAddrOff]
  unfold srcPanLen
  rcases ieee154AddrModeLen_eq_some h.dstMode with ⟨-, rfl⟩ | ⟨-, rfl⟩ <;>
    rcases ieee154AddrModeLen_eq_some h.srcMode with ⟨-, rfl⟩ | ⟨-, rfl⟩ <;>
    cases ieee154DFrameIsInterPan frame <;> decide

/-- The frame control field and the length are all that a buffer has to keep. -/
theorem of_buffer (h : frame.Built dstLen srcLen) {bytes : List UInt8}
    (hlen : bytes.length = frame.bufferPtr.length) (h1 : bytes[1]? = frame.bufferPtr[1]?)
    (h2 : bytes[2]? = frame.bufferPtr[2]?)
    (h0 : ∃ b, bytes[0]? = some b ∧ 5 + dstLen + frame.srcPanLen + srcLen ≤ b.toNat ∧
      b.toNat < frame.bufferLen.toNat) :
    { frame with bufferPtr := bytes }.Built dstLen srcLen :=
  ⟨h.dstMode, h.srcMode, h.payloadAndDstAddrOff, h.srcPanAndAddrOff, h1.trans h.control1,
    h2.trans h.control2, h0, hlen ▸ h.bufferLen_le⟩

/-- The flags say nothing but the modes and whether there are two PANs. -/
theorem flags_eq (hflags : frame.frameFlags &&& (0xe0 : UInt8) = 0) :
    frame.frameFlags = (if ieee154DFrameIsInterPan frame then IEEE154_DFRAME_INFO_FLAG_INTER_PAN
      else 0) ||| ieee154DFrameGetModeDstAddr frame |||
        (ieee154DFrameGetModeSrcAddr frame <<< 2) := by
  unfold ieee154DFrameIsInterPan ieee154DFrameGetModeDstAddr ieee154DFrameGetModeSrcAddr
  generalize frame.frameFlags = flags at hflags ⊢
  revert flags
  decide +kernel

/-- Parsing the buffer gives the description back. -/
theorem infoExisting (h : frame.Built dstLen srcLen)
    (hflags : frame.frameFlags &&& (0xe0 : UInt8) = 0) (old : Ieee154DframeInfo) :
    ieee154DFrameInfoExisting old frame.bufferPtr frame.bufferLen = (.noError, frame) := by
  obtain ⟨b, hb, hge, hlt⟩ := h.length
  have hframe := flags_eq hflags
  have hd := h.dstMode
  have hs := h.srcMode
  have hoff₁ := h.payloadAndDstAddrOff
  have hoff₂ := h.srcPanAndAddrOff
  have hget : ∀ {i : ℕ} {v : UInt8}, frame.bufferPtr[i]? = some v →
      frame.bufferPtr.getD i 0 = v := by
    intro i v hv
    rw [List.getD_eq_getElem?_getD, hv, Option.getD_some]
  have h1 := hget h.control1
  have h2 := hget h.control2
  have h0 := hget hb
  have hsize : ¬ frame.bufferLen < IEEE154_DFRAME_MINIMAL_SIZE := by
    have hmin : IEEE154_DFRAME_MINIMAL_SIZE.toNat = 6 := rfl
    rw [UInt8.lt_iff_toNat_lt, hmin]
    omega
  unfold ieee154DFrameInfoExisting
  rw [if_neg hsize, h0, h1, h2]
  clear hget h0 h1 h2 hb hsize h hflags
  unfold srcPanLen at hge hoff₁ hoff₂
  rcases frame with ⟨bufPtr, bufLen, flags, o₁, o₂⟩
  dsimp only at *
  generalize hdm : ieee154DFrameGetModeDstAddr ⟨bufPtr, bufLen, flags, o₁, o₂⟩ = dm at *
  generalize hsm : ieee154DFrameGetModeSrcAddr ⟨bufPtr, bufLen, flags, o₁, o₂⟩ = sm at *
  generalize hinter : ieee154DFrameIsInterPan ⟨bufPtr, bufLen, flags, o₁, o₂⟩ = inter at *
  clear hdm hsm hinter
  subst hoff₁ hoff₂ hframe
  -- The description on the way to the comparison of the lengths.
  have hparsed : ∀ l r : Whip6Error × Ieee154DframeInfo,
      (if b.toNat < 5 + dstLen + (if inter = true then 2 else 0) + srcLen then l else r) = r :=
    fun l r => if_neg (Nat.not_lt.mpr hge)
  refine Eq.trans ?_ (hparsed (.sizeError, ⟨bufPtr, bufLen,
    (if inter then IEEE154_DFRAME_INFO_FLAG_INTER_PAN else 0) ||| dm ||| (sm <<< 2), 2,
    UInt8.ofNat (16 * (2 + dstLen) + (2 + dstLen + if inter then 2 else 0))⟩) _)
  rcases ieee154AddrModeLen_eq_some hd with ⟨rfl, rfl⟩ | ⟨rfl, rfl⟩ <;>
    rcases ieee154AddrModeLen_eq_some hs with ⟨rfl, rfl⟩ | ⟨rfl, rfl⟩ <;>
    cases inter <;> rfl

end Ieee154DframeInfo.Built

/-- What describing a frame writes, once its modes and PANs are known. -/
theorem ieee154DFrameInfoNew_eq (frame : Ieee154DframeInfo) (b₀ b₁ b₂ : UInt8)
    (rest : List UInt8) {bufLen flags : UInt8} {dstLen srcLen : ℕ} {inter : Bool}
    (hsize : ¬ bufLen < IEEE154_DFRAME_MINIMAL_SIZE)
    (hinter : flags &&& IEEE154_DFRAME_INFO_FLAG_INTER_PAN ≠ 0 ↔ inter = true)
    (hd : ieee154AddrModeLen (flags &&& IEEE154_ADDR_MODE_MASK) = some dstLen)
    (hs : ieee154AddrModeLen ((flags >>> 2) &&& IEEE154_ADDR_MODE_MASK) = some srcLen) :
    let srcPanLen := if inter then 2 else 0
    let bufPtr := UInt8.ofNat (5 + dstLen + srcPanLen + srcLen) ::
      (IEEE154_DFRAME_TYPE ||| if inter then 0 else IEEE154_FCF_INTRA_PAN_FLAG_BIT) ::
      (((flags &&& IEEE154_ADDR_MODE_MASK) <<< 2) |||
        (((flags >>> 2) &&& IEEE154_ADDR_MODE_MASK) <<< 6)) :: rest
    let srcPanAndAddrOff := UInt8.ofNat (16 * (2 + dstLen) + (2 + dstLen + srcPanLen))
    ieee154DFrameInfoNew frame (b₀ :: b₁ :: b₂ :: rest) bufLen flags =
      if bufLen.toNat < 5 + dstLen + srcPanLen + srcLen + 1 then
        (.sizeError, ⟨bufPtr, bufLen, flags, 2, srcPanAndAddrOff⟩)
      else
        (.noError, ⟨bufPtr, bufLen, flags,
          UInt8.ofNat (8 * (2 + dstLen + srcPanLen + srcLen) + 2), srcPanAndAddrOff⟩) := by
  dsimp only
  unfold ieee154DFrameInfoNew
  rw [if_neg hsize]
  generalize flags &&& IEEE154_ADDR_MODE_MASK = dm at hd ⊢
  generalize (flags >>> 2) &&& IEEE154_ADDR_MODE_MASK = sm at hs ⊢
  -- A write to one of the first three bytes.
  have hset₀ : ∀ x₀ x₁ x₂ v : UInt8, (x₀ :: x₁ :: x₂ :: rest).set 0 v = v :: x₁ :: x₂ :: rest :=
    fun _ _ _ _ => rfl
  have hset₁ : ∀ x₀ x₁ x₂ v : UInt8, (x₀ :: x₁ :: x₂ :: rest).set 1 v = x₀ :: v :: x₂ :: rest :=
    fun _ _ _ _ => rfl
  have hset₂ : ∀ x₀ x₁ x₂ v : UInt8, (x₀ :: x₁ :: x₂ :: rest).set 2 v = x₀ :: x₁ :: v :: rest :=
    fun _ _ _ _ => rfl
  have hget₁ : ∀ x₀ x₁ x₂ : UInt8, (x₀ :: x₁ :: x₂ :: rest).getD 1 0 = x₁ := fun _ _ _ => rfl
  have hget₂ : ∀ x₀ x₁ x₂ : UInt8, (x₀ :: x₁ :: x₂ :: rest).getD 2 0 = x₂ := fun _ _ _ => rfl
  cases inter
  all_goals
    simp only [hinter, hd, hs, hset₀, hset₁, hset₂, hget₁, hget₂, if_true, if_false,
      Bool.false_eq_true]
    rcases ieee154AddrModeLen_eq_some hd with ⟨rfl, rfl⟩ | ⟨rfl, rfl⟩ <;>
      rcases ieee154AddrModeLen_eq_some hs with ⟨rfl, rfl⟩ | ⟨rfl, rfl⟩ <;> rfl

/-- A frame that was described without an error is built, and carries no payload. -/
theorem ieee154DFrameInfoNew_built {frame frame' : Ieee154DframeInfo} {bufPtr : List UInt8}
    {bufLen flags : UInt8} (hbuf : bufLen.toNat ≤ bufPtr.length)
    (h : ieee154DFrameInfoNew frame bufPtr bufLen flags = (.noError, frame')) :
    ∃ dstLen srcLen, frame'.Built dstLen srcLen ∧ frame'.frameFlags = flags ∧
      frame'.bufferLen = bufLen ∧ frame'.bufferPtr.length = bufPtr.length ∧
      ieee154DFrameGetPayloadLen frame' = 0 := by
  have hsize : ¬ bufLen < IEEE154_DFRAME_MINIMAL_SIZE := by
    intro hsize
    rw [ieee154DFrameInfoNew, if_pos hsize] at h
    cases h
  have hsize' : 6 ≤ bufLen.toNat := by
    rw [UInt8.lt_iff_toNat_lt] at hsize
    exact Nat.not_lt.mp hsize
  obtain ⟨b₀, b₁, b₂, rest, rfl⟩ : ∃ b₀ b₁ b₂ rest, bufPtr = b₀ :: b₁ :: b₂ :: rest := by
    match bufPtr, hsize'.trans hbuf with
    | b₀ :: b₁ :: b₂ :: rest, _ => exact ⟨b₀, b₁, b₂, rest, rfl⟩
  obtain ⟨dstLen, hd⟩ : ∃ dstLen,
      ieee154AddrModeLen (flags &&& IEEE154_ADDR_MODE_MASK) = some dstLen := by
    cases hd : ieee154AddrModeLen (flags &&& IEEE154_ADDR_MODE_MASK) with
    | some dstLen => exact ⟨dstLen, rfl⟩
    | none =>
      rw [ieee154DFrameInfoNew, if_neg hsize] at h
      simp only [hd] at h
      cases h
  obtain ⟨srcLen, hs⟩ : ∃ srcLen,
      ieee154AddrModeLen ((flags >>> 2) &&& IEEE154_ADDR_MODE_MASK) = some srcLen := by
    cases hs : ieee154AddrModeLen ((flags >>> 2) &&& IEEE154_ADDR_MODE_MASK) with
    | some srcLen => exact ⟨srcLen, rfl⟩
    | none =>
      rw [ieee154DFrameInfoNew, if_neg hsize] at h
      simp only [hd, hs] at h
      cases h
  obtain ⟨inter, hinter⟩ : ∃ inter : Bool,
      flags &&& IEEE154_DFRAME_INFO_FLAG_INTER_PAN ≠ 0 ↔ inter = true :=
    ⟨decide (flags &&& IEEE154_DFRAME_INFO_FLAG_INTER_PAN ≠ 0), decide_eq_true_iff.symm⟩
  have hnew := ieee154DFrameInfoNew_eq frame b₀ b₁ b₂ rest hsize hinter hd hs
  have hinter' : (flags &&& IEEE154_DFRAME_INFO_FLAG_INTER_PAN != 0) = inter := by
    rw [Bool.eq_iff_iff, bne_iff_ne, hinter]
  have hpan : (if inter = true then 2 else 0) ≤ 2 := by split_ifs <;> omega
  have hlens : dstLen ≤ 8 ∧ srcLen ≤ 8 := by
    constructor
    · rcases ieee154AddrModeLen_eq_some hd with ⟨-, rfl⟩ | ⟨-, rfl⟩ <;> omega
    · rcases ieee154AddrModeLen_eq_some hs with ⟨-, rfl⟩ | ⟨-, rfl⟩ <;> omega
  dsimp only at hnew
  generalize hsrcPanLen : (if inter = true then 2 else 0) = srcPanLen at hnew hpan
  rw [hnew] at h
  by_cases hlen : bufLen.toNat < 5 + dstLen + srcPanLen + srcLen + 1
  · rw [if_pos hlen] at h
    cases h
  rw [if_neg hlen] at h
  obtain rfl := (Prod.mk.inj h).2
  have hpanLen : ∀ bs o₁ o₂, (⟨bs, bufLen, flags, o₁, o₂⟩ : Ieee154DframeInfo).srcPanLen =
      srcPanLen := by
    intro bs o₁ o₂
    rw [← hsrcPanLen, ← hinter']
    rfl
  have hlength : (UInt8.ofNat (5 + dstLen + srcPanLen + srcLen)).toNat =
      5 + dstLen + srcPanLen + srcLen := by
    rw [UInt8.toNat_ofNat', Nat.mod_eq_of_lt (by omega)]
  refine ⟨dstLen, srcLen, ?_, rfl, rfl, rfl, ?_⟩
  · refine ⟨hd, hs, ?_, ?_, ?_, rfl, ⟨_, rfl, ?_, ?_⟩, hbuf⟩
    · rw [hpanLen]
    · rw [hpanLen]
    · rw [ieee154DFrameIsInterPan, hinter']
      rfl
    · rw [hpanLen, hlength]
    · rw [hlength]
      exact Nat.not_lt.mp hlen
  · rw [ieee154DFrameGetPayloadLen, List.getD_cons_zero]
    subst hsrcPanLen
    dsimp only
    rcases ieee154AddrModeLen_eq_some hd with ⟨-, rfl⟩ | ⟨-, rfl⟩ <;>
      rcases ieee154AddrModeLen_eq_some hs with ⟨-, rfl⟩ | ⟨-, rfl⟩ <;> cases inter <;> decide

end Whip6
