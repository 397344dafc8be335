import Whip6.Ieee154.Address

/-!
# IEEE 802.15.4 data frames

The description of a frame: its buffer, whose byte 0 is the length of the rest, and the places of
its addresses and of its payload, packed into two bytes.  A null buffer is an empty one.  The
functions write to a frame through pointers into the buffer; here they return the frame.
-/

namespace Whip6

open Lib

structure Ieee154DframeInfo where
  bufferPtr : List UInt8
  bufferLen : UInt8
  frameFlags : UInt8
  /-- The upper five bits are for the payload, the lower three for the destination address. -/
  payloadAndDstAddrOff : UInt8
  /-- The upper four bits are for the source PAN, the lower four for the source address. -/
  srcPanAndAddrOff : UInt8
  deriving DecidableEq, Repr

def IEEE154_DFRAME_MINIMAL_SIZE : UInt8 := 6

def IEEE154_DFRAME_TYPE : UInt8 := 0x1

def IEEE154_DFRAME_INITIAL_OFFSET : UInt8 := 4

def IEEE154_DFRAME_CRC_SIZE : UInt8 := 0

def IEEE154_FCF_INTRA_PAN_FLAG_BIT : UInt8 := 0x40

def IEEE154_DFRAME_INFO_FLAG_INTER_PAN : UInt8 := 0x10

/-! ## Places and modes -/

def ieee154DFrameIsInterPan (frame : Ieee154DframeInfo) : Bool :=
  frame.frameFlags &&& IEEE154_DFRAME_INFO_FLAG_INTER_PAN != 0

def ieee154DFrameGetOffsetDstPanId (_ : Ieee154DframeInfo) : ℕ :=
  IEEE154_DFRAME_INITIAL_OFFSET.toNat

def ieee154DFrameGetOffsetDstAddr (frame : Ieee154DframeInfo) : ℕ :=
  IEEE154_DFRAME_INITIAL_OFFSET.toNat + (frame.payloadAndDstAddrOff &&& (0x07 : UInt8)).toNat

def ieee154DFrameGetOffsetSrcPanId (frame : Ieee154DframeInfo) : ℕ :=
  IEEE154_DFRAME_INITIAL_OFFSET.toNat + (frame.srcPanAndAddrOff >>> 4).toNat

def ieee154DFrameGetOffsetSrcAddr (frame : Ieee154DframeInfo) : ℕ :=
  IEEE154_DFRAME_INITIAL_OFFSET.toNat + (frame.srcPanAndAddrOff &&& (0x0f : UInt8)).toNat

def ieee154DFrameGetOffsetPayload (frame : Ieee154DframeInfo) : ℕ :=
  IEEE154_DFRAME_INITIAL_OFFSET.toNat + (frame.payloadAndDstAddrOff >>> 3).toNat

def ieee154DFrameGetModeDstAddr (frame : Ieee154DframeInfo) : UInt8 :=
  frame.frameFlags &&& IEEE154_ADDR_MODE_MASK

def ieee154DFrameGetModeSrcAddr (frame : Ieee154DframeInfo) : UInt8 :=
  (frame.frameFlags >>> 2) &&& IEEE154_ADDR_MODE_MASK

/-! ## Fields -/

def ieee154DFrameSetSeqNo (frame : Ieee154DframeInfo) (seqNo : UInt8) : Ieee154DframeInfo :=
  { frame with bufferPtr := frame.bufferPtr.set 3 seqNo }

/-- The address of a mode whose bytes start at a pointer. -/
def ieee154DFrameGetAddr (mode : UInt8) (ptr : List UInt8) : Ieee154Addr :=
  if mode = IEEE154_ADDR_MODE_SHORT then .shrt (readAddr 2 ptr)
  else if mode = IEEE154_ADDR_MODE_EXT then .ext (readAddr 8 ptr)
  else .none

/-- The number of bytes of an address of a mode; `none` for the modes that are not handled. -/
def ieee154AddrModeLen (mode : UInt8) : Option ℕ :=
  if mode = IEEE154_ADDR_MODE_SHORT then some IEEE154_SHORT_ADDR_BYTE_LENGTH
  else if mode = IEEE154_ADDR_MODE_EXT then some IEEE154_EXT_ADDR_BYTE_LENGTH
  else none

def ieee154DFrameGetSrcAddr (frame : Ieee154DframeInfo) : Ieee154Addr :=
  ieee154DFrameGetAddr (ieee154DFrameGetModeSrcAddr frame)
    (frame.bufferPtr.drop (ieee154DFrameGetOffsetSrcAddr frame))

def ieee154DFrameGetDstAddr (frame : Ieee154DframeInfo) : Ieee154Addr :=
  ieee154DFrameGetAddr (ieee154DFrameGetModeDstAddr frame)
    (frame.bufferPtr.drop (ieee154DFrameGetOffsetDstAddr frame))

def ieee154DFrameSetSrcAddr (frame : Ieee154DframeInfo) (addr : Ieee154Addr) :
    Ieee154DframeInfo :=
  { frame with
    bufferPtr := shortMemCpy addr.bytes frame.bufferPtr (ieee154DFrameGetOffsetSrcAddr frame)
      ((ieee154AddrModeLen (ieee154DFrameGetModeSrcAddr frame)).getD 0) }

def ieee154DFrameSetDstAddr (frame : Ieee154DframeInfo) (addr : Ieee154Addr) :
    Ieee154DframeInfo :=
  { frame with
    bufferPtr := shortMemCpy addr.bytes frame.bufferPtr (ieee154DFrameGetOffsetDstAddr frame)
      ((ieee154AddrModeLen (ieee154DFrameGetModeDstAddr frame)).getD 0) }

def ieee154DFrameGetDstPanId (frame : Ieee154DframeInfo) : Ieee154PanId :=
  readAddr 2 (frame.bufferPtr.drop (ieee154DFrameGetOffsetDstPanId frame))

def ieee154DFrameSetDstPanId (frame : Ieee154DframeInfo) (panId : Ieee154PanId) :
    Ieee154DframeInfo :=
  { frame with
    bufferPtr := shortMemCpy panId.toList frame.bufferPtr (ieee154DFrameGetOffsetDstPanId frame) 2 }

def ieee154DFrameSetSrcPanId (frame : Ieee154DframeInfo) (panId : Ieee154PanId) :
    Ieee154DframeInfo :=
  { frame with
    bufferPtr := shortMemCpy panId.toList frame.bufferPtr (ieee154DFrameGetOffsetSrcPanId frame) 2 }

/-! ## The payload -/

def ieee154DFrameMaxPayloadLen (frame : Ieee154DframeInfo) : UInt8 :=
  frame.bufferLen - (frame.payloadAndDstAddrOff >>> 3) -
    (IEEE154_DFRAME_INITIAL_OFFSET + IEEE154_DFRAME_CRC_SIZE)

/-- The bytes from the start of the payload to the end of the buffer. -/
def ieee154DFrameUnsafeGetPayloadPtr (frame : Ieee154DframeInfo) : List UInt8 :=
  frame.bufferPtr.drop (ieee154DFrameGetOffsetPayload frame)

/-- The frame after writes through the payload pointer. -/
def Ieee154DframeInfo.setPayload (frame : Ieee154DframeInfo) (payload : List UInt8) :
    Ieee154DframeInfo :=
  { frame with
    bufferPtr := frame.bufferPtr.take (ieee154DFrameGetOffsetPayload frame) ++ payload }

def ieee154DFrameGetPayloadLen (frame : Ieee154DframeInfo) : UInt8 :=
  frame.bufferPtr.getD 0 0 - (frame.payloadAndDstAddrOff >>> 3) -
    (IEEE154_DFRAME_INITIAL_OFFSET + IEEE154_DFRAME_CRC_SIZE - 1)

def ieee154DFrameSetPayloadLen (frame : Ieee154DframeInfo) (len : UInt8) : Ieee154DframeInfo :=
  { frame with
    bufferPtr := frame.bufferPtr.set 0 (len + ((frame.payloadAndDstAddrOff >>> 3) +
      (IEEE154_DFRAME_INITIAL_OFFSET + IEEE154_DFRAME_CRC_SIZE - 1))) }

/-! ## Initialisation -/

/-- Describe a frame in a buffer and write its frame control field and its length. -/
def ieee154DFrameInfoNew (frame : Ieee154DframeInfo) (bufPtr : List UInt8)
    (bufLen flags : UInt8) : Whip6Error × Ieee154DframeInfo :=
  if bufLen < IEEE154_DFRAME_MINIMAL_SIZE then (.sizeError, frame)
  else
    let dstMode := flags &&& IEEE154_ADDR_MODE_MASK
    let srcMode := (flags >>> 2) &&& IEEE154_ADDR_MODE_MASK
    let bufPtr := (bufPtr.set 1 IEEE154_DFRAME_TYPE).set 2 0
    match ieee154AddrModeLen dstMode with
    | none => (.argumentError, ⟨bufPtr, bufLen, flags, 0, 0⟩)
    | some dstLen =>
      let dstAddrOff : UInt8 := 2
      let currOff := 2 + UInt8.ofNat dstLen
      let bufPtr := bufPtr.set 2 (bufPtr.getD 2 0 ||| (dstMode <<< 2))
      let srcPanOff := currOff <<< 4
      let interPan := flags &&& IEEE154_DFRAME_INFO_FLAG_INTER_PAN ≠ 0
      let currOff := if interPan then currOff + 2 else currOff
      let bufPtr := if interPan then bufPtr
        else bufPtr.set 1 (bufPtr.getD 1 0 ||| IEEE154_FCF_INTRA_PAN_FLAG_BIT)
      match ieee154AddrModeLen srcMode with
      | none => (.argumentError, ⟨bufPtr, bufLen, flags, dstAddrOff, srcPanOff⟩)
      | some srcLen =>
        let srcPanAndAddrOff := srcPanOff ||| currOff
        let currOff := currOff + UInt8.ofNat srcLen
        let bufPtr := bufPtr.set 2 (bufPtr.getD 2 0 ||| (srcMode <<< 6))
        let len := currOff + (IEEE154_DFRAME_INITIAL_OFFSET + IEEE154_DFRAME_CRC_SIZE - 1)
        let bufPtr := bufPtr.set 0 len
        if bufLen.toNat < len.toNat + 1 then
          (.sizeError, ⟨bufPtr, bufLen, flags, dstAddrOff, srcPanAndAddrOff⟩)
        else
          (.noError, ⟨bufPtr, bufLen, flags, dstAddrOff ||| (currOff <<< 3), srcPanAndAddrOff⟩)

/-- Make the frame one between given addresses.  A failure leaves its description as it was. -/
def ieee154DFrameInfoReinitializeFrameForAddresses (frame : Ieee154DframeInfo)
    (dstAddr srcAddr : Ieee154Addr) (dstPanId : Ieee154PanId)
    (srcPanIdOrNull : Option Ieee154PanId) : Whip6Error × Ieee154DframeInfo :=
  if frame.bufferPtr = [] ∨ frame.bufferLen = 0 then (.stateError, frame)
  else
    let flags := (dstAddr.mode &&& IEEE154_ADDR_MODE_MASK) |||
      ((srcAddr.mode &&& IEEE154_ADDR_MODE_MASK) <<< 2) |||
      (if srcPanIdOrNull.isSome then IEEE154_DFRAME_INFO_FLAG_INTER_PAN else 0)
    let r := ieee154DFrameInfoNew frame frame.bufferPtr frame.bufferLen flags
    if r.1 ≠ .noError then (r.1, { frame with bufferPtr := r.2.bufferPtr })
    else
      let newFrame := ieee154DFrameSetSeqNo r.2 0
      let newFrame := ieee154DFrameSetSrcAddr newFrame srcAddr
      let newFrame := ieee154DFrameSetDstAddr newFrame dstAddr
      let newFrame := ieee154DFrameSetDstPanId newFrame dstPanId
      match ieee154DFrameIsInterPan newFrame, srcPanIdOrNull with
      | true, some srcPanId => (.noError, ieee154DFrameSetSrcPanId newFrame srcPanId)
      | _, _ => (.noError, newFrame)

/-! ## Valid frames -/

/-- The payload starts within the buffer, and the buffer has the bytes it is said to have. -/
structure Ieee154DframeInfo.Valid (frame : Ieee154DframeInfo) : Prop where
  bufferLen_le : frame.bufferLen.toNat ≤ frame.bufferPtr.length
  offset_le : ieee154DFrameGetOffsetPayload frame ≤ frame.bufferLen.toNat

theorem four_le_offsetPayload (frame : Ieee154DframeInfo) :
    4 ≤ ieee154DFrameGetOffsetPayload frame :=
  Nat.le_add_right 4 _

namespace Ieee154DframeInfo.Valid

variable {frame : Ieee154DframeInfo}

theorem offset_le_length (hv : frame.Valid) :
    ieee154DFrameGetOffsetPayload frame ≤ frame.bufferPtr.length :=
  hv.offset_le.trans hv.bufferLen_le

theorem toNat_maxPayloadLen (hv : frame.Valid) :
    (ieee154DFrameMaxPayloadLen frame).toNat =
      frame.bufferLen.toNat - ieee154DFrameGetOffsetPayload frame := by
  have h := hv.offset_le
  have hlt := frame.bufferLen.toNat_lt
  simp only [ieee154DFrameGetOffsetPayload, IEEE154_DFRAME_INITIAL_OFFSET] at h
  simp only [ieee154DFrameMaxPayloadLen, ieee154DFrameGetOffsetPayload,
    IEEE154_DFRAME_INITIAL_OFFSET, IEEE154_DFRAME_CRC_SIZE, UInt8.toNat_sub]
  rw [show UInt8.toNat 4 = 4 from rfl] at *
  rw [show (4 + 0 : UInt8).toNat = 4 from rfl]
  omega

theorem payloadPtr_setPayload (hv : frame.Valid) (payload : List UInt8) :
    ieee154DFrameUnsafeGetPayloadPtr (frame.setPayload payload) = payload := by
  have hlen := hv.offset_le_length
  simp only [ieee154DFrameUnsafeGetPayloadPtr, Ieee154DframeInfo.setPayload]
  exact List.drop_left' (by simp only [List.length_take]; exact min_eq_left hlen)

theorem length_payloadPtr (hv : frame.Valid) :
    (ieee154DFrameMaxPayloadLen frame).toNat ≤ (ieee154DFrameUnsafeGetPayloadPtr frame).length := by
  have h := hv.bufferLen_le
  rw [hv.toNat_maxPayloadLen, ieee154DFrameUnsafeGetPayloadPtr, List.length_drop]
  omega

theorem setPayload (hv : frame.Valid) {payload : List UInt8}
    (hlen : payload.length = (ieee154DFrameUnsafeGetPayloadPtr frame).length) :
    (frame.setPayload payload).Valid := by
  refine ⟨?_, hv.offset_le⟩
  have hle := hv.offset_le_length
  have hbuf := hv.bufferLen_le
  rw [ieee154DFrameUnsafeGetPayloadPtr, List.length_drop] at hlen
  simp only [Ieee154DframeInfo.setPayload, List.length_append, List.length_take]
  omega

theorem bufferPtr_ne_nil (hv : frame.Valid) : frame.bufferPtr ≠ [] := by
  intro h
  have hle := hv.offset_le_length
  have h4 := four_le_offsetPayload frame
  rw [h, List.length_nil] at hle
  omega

end Ieee154DframeInfo.Valid

theorem payloadPtr_setPayloadLen (frame : Ieee154DframeInfo) (len : UInt8) :
    ieee154DFrameUnsafeGetPayloadPtr (ieee154DFrameSetPayloadLen frame len) =
      ieee154DFrameUnsafeGetPayloadPtr frame :=
  List.drop_set_of_lt (lt_of_lt_of_le (by omega) (four_le_offsetPayload frame))

theorem getPayloadLen_setPayloadLen {frame : Ieee154DframeInfo} (h : frame.bufferPtr ≠ [])
    (len : UInt8) : ieee154DFrameGetPayloadLen (ieee154DFrameSetPayloadLen frame len) = len := by
  obtain ⟨b, bs, hb⟩ := List.exists_cons_of_ne_nil h
  simp only [ieee154DFrameGetPayloadLen, ieee154DFrameSetPayloadLen, hb, List.set_cons_zero,
    List.getD_cons_zero]
  abel

theorem ieee154AddrModeLen_eq_some {mode : UInt8} {n : ℕ} (h : ieee154AddrModeLen mode = some n) :
    mode = IEEE154_ADDR_MODE_SHORT ∧ n = 2 ∨ mode = IEEE154_ADDR_MODE_EXT ∧ n = 8 := by
  unfold ieee154AddrModeLen at h
  split_ifs at h with h1 h2
  · exact Or.inl ⟨h1, (Option.some.inj h).symm⟩
  · exact Or.inr ⟨h2, (Option.some.inj h).symm⟩

/-- A frame within a PAN that was described without an error. -/
theorem ieee154DFrameInfoNew_intraPan {frame frame' : Ieee154DframeInfo} {bufPtr : List UInt8}
    {bufLen flags : UInt8} (hflags : flags &&& IEEE154_DFRAME_INFO_FLAG_INTER_PAN = 0)
    (h : ieee154DFrameInfoNew frame bufPtr bufLen flags = (.noError, frame')) :
    ∃ dstLen srcLen bytes,
      ieee154AddrModeLen (flags &&& IEEE154_ADDR_MODE_MASK) = some dstLen ∧
      ieee154AddrModeLen ((flags >>> 2) &&& IEEE154_ADDR_MODE_MASK) = some srcLen ∧
      bytes.length = bufPtr.length ∧ 6 + dstLen + srcLen ≤ bufLen.toNat ∧
      frame' = ⟨bytes, bufLen, flags, UInt8.ofNat (8 * (2 + dstLen + srcLen) + 2),
        UInt8.ofNat (17 * (2 + dstLen))⟩ := by
  unfold ieee154DFrameInfoNew at h
  simp only [hflags, ne_eq, not_true_eq_false, if_false] at h
  split_ifs at h with hsize
  · cases h
  cases hd : ieee154AddrModeLen (flags &&& IEEE154_ADDR_MODE_MASK) with
  | none =>
    rw [hd] at h
    cases h
  | some dstLen =>
    cases hs : ieee154AddrModeLen ((flags >>> 2) &&& IEEE154_ADDR_MODE_MASK) with
    | none =>
      rw [hd, hs] at h
      cases h
    | some srcLen =>
      rw [hd, hs] at h
      dsimp only at h
      split_ifs at h with hlen
      · cases h
      · obtain ⟨-, rfl⟩ := Prod.mk.inj h
        rcases ieee154AddrModeLen_eq_some hd with ⟨-, rfl⟩ | ⟨-, rfl⟩ <;>
          rcases ieee154AddrModeLen_eq_some hs with ⟨-, rfl⟩ | ⟨-, rfl⟩ <;>
          exact ⟨_, _, _, rfl, rfl, by simp only [List.length_set], not_lt.mp hlen, rfl⟩

/-! ## Frames within a PAN -/

/-- A frame between two addresses of one PAN. -/
structure Ieee154DframeInfo.IntraPan (frame : Ieee154DframeInfo) (dst src : Ieee154Addr)
    (pan : Ieee154PanId) : Prop where
  valid : frame.Valid
  intraPan : ieee154DFrameIsInterPan frame = false
  modeDst : ieee154DFrameGetModeDstAddr frame = dst.mode
  modeSrc : ieee154DFrameGetModeSrcAddr frame = src.mode
  panAt : StandsAt frame.bufferPtr (ieee154DFrameGetOffsetDstPanId frame) pan.toList
  dstAt : StandsAt frame.bufferPtr (ieee154DFrameGetOffsetDstAddr frame) dst.bytes
  srcAt : StandsAt frame.bufferPtr (ieee154DFrameGetOffsetSrcAddr frame) src.bytes
  pan_le : ieee154DFrameGetOffsetDstPanId frame + 2 ≤ ieee154DFrameGetOffsetPayload frame
  dst_le : ieee154DFrameGetOffsetDstAddr frame + dst.bytes.length ≤
    ieee154DFrameGetOffsetPayload frame
  src_le : ieee154DFrameGetOffsetSrcAddr frame + src.bytes.length ≤
    ieee154DFrameGetOffsetPayload frame

theorem ieee154DFrameGetAddr_of_standsAt {addr : Ieee154Addr} {bytes : List UInt8} {o : ℕ}
    (h : StandsAt bytes o addr.bytes) :
    ieee154DFrameGetAddr addr.mode (bytes.drop o) = addr := by
  have h0 : StandsAt (bytes.drop o) 0 addr.bytes := standsAt_drop.mpr h
  cases addr with
  | none => rfl
  | shrt a => exact congrArg Ieee154Addr.shrt (readAddr_of_standsAt h0)
  | ext a => exact congrArg Ieee154Addr.ext (readAddr_of_standsAt h0)

namespace Ieee154DframeInfo.IntraPan

variable {frame frame' : Ieee154DframeInfo} {dst src : Ieee154Addr} {pan : Ieee154PanId}

theorem getDstAddr (h : frame.IntraPan dst src pan) : ieee154DFrameGetDstAddr frame = dst := by
  rw [ieee154DFrameGetDstAddr, h.modeDst]
  exact ieee154DFrameGetAddr_of_standsAt h.dstAt

theorem getSrcAddr (h : frame.IntraPan dst src pan) : ieee154DFrameGetSrcAddr frame = src := by
  rw [ieee154DFrameGetSrcAddr, h.modeSrc]
  exact ieee154DFrameGetAddr_of_standsAt h.srcAt

theorem getDstPanId (h : frame.IntraPan dst src pan) : ieee154DFrameGetDstPanId frame = pan :=
  readAddr_of_standsAt (standsAt_drop.mpr h.panAt)

/-- Only the bytes between the length and the payload say where a frame goes. -/
theorem of_agree (h : frame.IntraPan dst src pan) {bytes : List UInt8}
    (hlen : bytes.length = frame.bufferPtr.length)
    (hagree : ∀ i, 0 < i → i < ieee154DFrameGetOffsetPayload frame →
      bytes[i]? = frame.bufferPtr[i]?) :
    { frame with bufferPtr := bytes }.IntraPan dst src pan := by
  have hstands : ∀ {o : ℕ} {ys : List UInt8}, 4 ≤ o →
      o + ys.length ≤ ieee154DFrameGetOffsetPayload frame →
      StandsAt frame.bufferPtr o ys → StandsAt bytes o ys := by
    intro o ys ho hle hys i hi
    rw [hagree (o + i) (by omega) (by omega), hys i hi]
  exact
    { valid := ⟨hlen ▸ h.valid.bufferLen_le, h.valid.offset_le⟩
      intraPan := h.intraPan
      modeDst := h.modeDst
      modeSrc := h.modeSrc
      panAt := hstands (Nat.le_refl 4) (by rw [Vector.length_toList]; exact h.pan_le) h.panAt
      dstAt := hstands (Nat.le_add_right 4 _) h.dst_le h.dstAt
      srcAt := hstands (Nat.le_add_right 4 _) h.src_le h.srcAt
      pan_le := h.pan_le
      dst_le := h.dst_le
      src_le := h.src_le }

theorem setPayloadLen (h : frame.IntraPan dst src pan) (len : UInt8) :
    (ieee154DFrameSetPayloadLen frame len).IntraPan dst src pan :=
  h.of_agree (by simp only [List.length_set]) fun i hi _ => by
    rw [List.getElem?_set_ne (by omega)]

theorem setPayload (h : frame.IntraPan dst src pan) {payload : List UInt8}
    (hlen : payload.length = (ieee154DFrameUnsafeGetPayloadPtr frame).length) :
    (frame.setPayload payload).IntraPan dst src pan := by
  have hle := h.valid.offset_le_length
  rw [ieee154DFrameUnsafeGetPayloadPtr, List.length_drop] at hlen
  refine h.of_agree (by simp only [List.length_append, List.length_take]; omega) fun i _ hi => ?_
  rw [List.getElem?_append_left (by simp only [List.length_take]; omega),
    List.getElem?_take_of_lt hi]

end Ieee154DframeInfo.IntraPan

theorem ieee154Addr_of_modeLen {addr : Ieee154Addr} {n : ℕ}
    (h : ieee154AddrModeLen addr.mode = some n) : addr.bytes.length = n := by
  cases addr with
  | none => cases h
  | shrt a =>
    cases h
    exact Vector.length_toList
  | ext a =>
    cases h
    exact Vector.length_toList

theorem Ieee154Addr.mode_cases (addr : Ieee154Addr) :
    addr.mode = 0 ∨ addr.mode = 2 ∨ addr.mode = 3 := by
  cases addr with
  | none => exact Or.inl rfl
  | shrt _ => exact Or.inr (Or.inl rfl)
  | ext _ => exact Or.inr (Or.inr rfl)

/-- The two modes are read back from the flags of a frame within a PAN. -/
theorem flags_of_modes (dst src : Ieee154Addr) :
    let flags := (dst.mode &&& IEEE154_ADDR_MODE_MASK) |||
      ((src.mode &&& IEEE154_ADDR_MODE_MASK) <<< 2) ||| 0
    flags &&& IEEE154_DFRAME_INFO_FLAG_INTER_PAN = 0 ∧
      flags &&& IEEE154_ADDR_MODE_MASK = dst.mode ∧
      (flags >>> 2) &&& IEEE154_ADDR_MODE_MASK = src.mode := by
  rcases dst.mode_cases with hd | hd | hd <;> rcases src.mode_cases with hs | hs | hs <;>
    rw [hd, hs] <;> decide

/-- Initialising a frame makes it one between the given addresses, with all of the buffer behind
them for the payload. -/
theorem reinitialize_intraPan {frame frame' : Ieee154DframeInfo} {dst src : Ieee154Addr}
    {pan : Ieee154PanId} (hbuf : frame.bufferLen.toNat ≤ frame.bufferPtr.length)
    (h : ieee154DFrameInfoReinitializeFrameForAddresses frame dst src pan none =
      (.noError, frame')) :
    frame'.IntraPan dst src pan ∧ frame'.bufferLen = frame.bufferLen ∧
      frame'.bufferPtr.length = frame.bufferPtr.length ∧
      ieee154DFrameGetOffsetPayload frame' = 6 + dst.bytes.length + src.bytes.length := by
  unfold ieee154DFrameInfoReinitializeFrameForAddresses at h
  simp only [Option.isSome_none, Bool.false_eq_true, if_false] at h
  split_ifs at h with hnull hnew
  · cases h
  · exact absurd (Prod.mk.inj h).1 hnew
  generalize hflags : (dst.mode &&& IEEE154_ADDR_MODE_MASK) |||
    ((src.mode &&& IEEE154_ADDR_MODE_MASK) <<< 2) ||| 0 = flags at h hnew
  obtain ⟨hinter, hdst, hsrc⟩ := flags_of_modes dst src
  rw [hflags] at hinter hdst hsrc
  rcases hr : ieee154DFrameInfoNew frame frame.bufferPtr frame.bufferLen flags with
    ⟨status, newFrame⟩
  rw [hr] at h hnew
  obtain rfl : status = .noError := not_not.mp hnew
  obtain ⟨dstLen, srcLen, bytes, hd, hs, hbytes, hlen, rfl⟩ := ieee154DFrameInfoNew_intraPan hinter hr
  have hdl := ieee154Addr_of_modeLen (hdst ▸ hd)
  have hsl := ieee154Addr_of_modeLen (hsrc ▸ hs)
  -- The places of the addresses, for each of the two lengths.
  have hoffs : UInt8.toNat 4 + (UInt8.ofNat (17 * (2 + dstLen)) &&& (0x0f : UInt8)).toNat =
      6 + dstLen ∧
      UInt8.toNat 4 + (UInt8.ofNat (8 * (2 + dstLen + srcLen) + 2) &&& (0x07 : UInt8)).toNat = 6 ∧
      UInt8.toNat 4 + (UInt8.ofNat (8 * (2 + dstLen + srcLen) + 2) >>> 3).toNat =
        6 + dstLen + srcLen := by
    rcases ieee154AddrModeLen_eq_some hd with ⟨-, rfl⟩ | ⟨-, rfl⟩ <;>
      rcases ieee154AddrModeLen_eq_some hs with ⟨-, rfl⟩ | ⟨-, rfl⟩ <;> decide
  obtain ⟨hsrcOff, hdstOff, hpayload⟩ := hoffs
  have hframe : frame' =
      ⟨splice (splice (splice (bytes.set 3 0) (6 + dstLen) src.bytes) 6 dst.bytes) 4 pan.toList,
        frame.bufferLen, flags, UInt8.ofNat (8 * (2 + dstLen + srcLen) + 2),
        UInt8.ofNat (17 * (2 + dstLen))⟩ := by
    split at h
    · contradiction
    · rw [← (Prod.mk.inj h).2]
      simp only [ieee154DFrameSetDstPanId, ieee154DFrameSetDstAddr, ieee154DFrameSetSrcAddr,
        ieee154DFrameSetSeqNo, ieee154DFrameGetModeSrcAddr, ieee154DFrameGetModeDstAddr,
        ieee154DFrameGetOffsetSrcAddr, ieee154DFrameGetOffsetDstAddr,
        ieee154DFrameGetOffsetDstPanId, shortMemCpy_eq_splice, IEEE154_DFRAME_INITIAL_OFFSET, hs,
        hd, hsrcOff, hdstOff, Option.getD_some]
      rw [List.take_of_length_le hsl.le, List.take_of_length_le hdl.le,
        List.take_of_length_le (by simp)]
      rfl
  have hbytesLen : 6 + dstLen + srcLen ≤ bytes.length := by omega
  have hpan : pan.toList.length = 2 := Vector.length_toList
  subst hframe
  refine ⟨{
    valid := ⟨by simpa [hbytes] using hbuf, hpayload.trans_le hlen⟩
    intraPan := by simp [ieee154DFrameIsInterPan, hinter]
    modeDst := hdst
    modeSrc := hsrc
    panAt := standsAt_splice (by simp; omega)
    dstAt := ?_
    srcAt := ?_
    pan_le := ?_
    dst_le := ?_
    src_le := ?_ }, rfl, ?_, ?_⟩
  · rw [ieee154DFrameGetOffsetDstAddr, IEEE154_DFRAME_INITIAL_OFFSET, hdstOff]
    exact (standsAt_splice (by simp; omega)).splice (Or.inr (by omega))
  · rw [ieee154DFrameGetOffsetSrcAddr, IEEE154_DFRAME_INITIAL_OFFSET, hsrcOff]
    exact ((standsAt_splice (by simp; omega)).splice (Or.inr (by omega))).splice
      (Or.inr (by omega))
  · rw [ieee154DFrameGetOffsetPayload, IEEE154_DFRAME_INITIAL_OFFSET, hpayload,
      ieee154DFrameGetOffsetDstPanId]
    exact (by omega : 4 + 2 ≤ 6 + dstLen + srcLen)
  · rw [ieee154DFrameGetOffsetPayload, ieee154DFrameGetOffsetDstAddr,
      IEEE154_DFRAME_INITIAL_OFFSET, hpayload, hdstOff]
    omega
  · rw [ieee154DFrameGetOffsetPayload, ieee154DFrameGetOffsetSrcAddr,
      IEEE154_DFRAME_INITIAL_OFFSET, hpayload, hsrcOff]
    omega
  · simp only [length_splice, List.length_set, hbytes]
  · rw [ieee154DFrameGetOffsetPayload, IEEE154_DFRAME_INITIAL_OFFSET, hpayload, hdl, hsl]

end Whip6
