import Whip6.Ieee154.FrameFields
import Whip6.Lowpan.SoftwareAcknowledgments

/-!
# Frames in the opposite direction

The header of a data frame carries an addressing: the two addresses and the one or two PANs between
which it is sent.  A frame carries an addressing when its description and its frame control field
tell the places and modes of these fields, and they stand there (`Ieee154DframeInfo.Carries`).
Parsing gives a frame that carries what is read from it, and the other way round; making a frame one
in the opposite direction makes it carry the reversed addressing.
-/

namespace Whip6

open Lib

/-! ## Addressings -/

structure Ieee154Addressing where
  dstPanId : Ieee154PanId
  dstAddr : Ieee154Addr
  /-- The PAN of the source, of a frame between PANs. -/
  srcPanId : Option Ieee154PanId
  srcAddr : Ieee154Addr
  deriving DecidableEq

namespace Ieee154Addressing

/-- The addressing of a frame back to the source. -/
def reverse (a : Ieee154Addressing) : Ieee154Addressing where
  dstPanId := a.srcPanId.getD a.dstPanId
  dstAddr := a.srcAddr
  srcPanId := a.srcPanId.map fun _ => a.dstPanId
  srcAddr := a.dstAddr

theorem reverse_reverse (a : Ieee154Addressing) : a.reverse.reverse = a := by
  rcases a with ⟨dstPanId, dstAddr, srcPanId, srcAddr⟩
  cases srcPanId <;> rfl

/-- The bytes of the addressing in a frame. -/
def bytes (a : Ieee154Addressing) : List UInt8 :=
  a.dstPanId.toList ++ a.dstAddr.bytes ++ (a.srcPanId.elim [] Vector.toList) ++ a.srcAddr.bytes

def srcPanLen (a : Ieee154Addressing) : ℕ := if a.srcPanId.isSome then 2 else 0

theorem length_srcPanId (a : Ieee154Addressing) :
    (a.srcPanId.elim [] Vector.toList).length = a.srcPanLen := by
  rw [srcPanLen]
  cases a.srcPanId with
  | none => rfl
  | some srcPanId => exact srcPanId.length_toList

theorem length_bytes (a : Ieee154Addressing) :
    a.bytes.length = 2 + a.dstAddr.bytes.length + a.srcPanLen + a.srcAddr.bytes.length := by
  simp only [bytes, List.length_append, length_srcPanId, Vector.length_toList]

@[simp] theorem srcPanLen_reverse (a : Ieee154Addressing) : a.reverse.srcPanLen = a.srcPanLen := by
  rw [srcPanLen, srcPanLen, reverse, Option.isSome_map]

theorem length_bytes_reverse (a : Ieee154Addressing) :
    a.reverse.bytes.length = a.bytes.length := by
  rw [length_bytes, length_bytes, srcPanLen_reverse]
  simp only [reverse]
  omega

/-- Where the fields of the addressing stand in a frame. -/
theorem standsAt_bytes (a : Ieee154Addressing) (xs : List UInt8) :
    StandsAt xs 4 a.bytes ↔
      StandsAt xs 4 a.dstPanId.toList ∧ StandsAt xs 6 a.dstAddr.bytes ∧
        (∀ srcPanId ∈ a.srcPanId, StandsAt xs (6 + a.dstAddr.bytes.length) srcPanId.toList) ∧
        StandsAt xs (6 + a.dstAddr.bytes.length + a.srcPanLen) a.srcAddr.bytes := by
  have hoff : 4 + (2 + a.dstAddr.bytes.length) = 6 + a.dstAddr.bytes.length := by omega
  have hoff' : 4 + (2 + a.dstAddr.bytes.length + a.srcPanLen) =
      6 + a.dstAddr.bytes.length + a.srcPanLen := by omega
  rw [bytes, standsAt_append, standsAt_append, standsAt_append]
  simp only [List.length_append, length_srcPanId, Vector.length_toList]
  rw [hoff, hoff', and_assoc, and_assoc]
  refine and_congr_right fun _ => and_congr_right fun _ => and_congr_left fun _ => ?_
  cases a.srcPanId with
  | none => exact iff_of_true (standsAt_nil _ _) nofun
  | some srcPanId => simp

/-- Both addresses have modes that are handled. -/
def Handled (a : Ieee154Addressing) : Prop := a.dstAddr ≠ .none ∧ a.srcAddr ≠ .none

theorem Handled.reverse {a : Ieee154Addressing} (h : a.Handled) : a.reverse.Handled := ⟨h.2, h.1⟩

def frameFlags (a : Ieee154Addressing) : UInt8 :=
  (if a.srcPanId.isSome then IEEE154_DFRAME_INFO_FLAG_INTER_PAN else 0) ||| a.dstAddr.mode |||
    (a.srcAddr.mode <<< 2)

def payloadAndDstAddrOff (a : Ieee154Addressing) : UInt8 := UInt8.ofNat (8 * a.bytes.length + 2)

def srcPanAndAddrOff (a : Ieee154Addressing) : UInt8 :=
  UInt8.ofNat (16 * (2 + a.dstAddr.bytes.length) + (2 + a.dstAddr.bytes.length + a.srcPanLen))

end Ieee154Addressing

/-- What a frame is read to carry. -/
def Ieee154DframeInfo.addressing (frame : Ieee154DframeInfo) : Ieee154Addressing where
  dstPanId := ieee154DFrameGetDstPanId frame
  dstAddr := ieee154DFrameGetDstAddr frame
  srcPanId :=
    if ieee154DFrameIsInterPan frame then some (ieee154DFrameGetSrcPanId frame) else none
  srcAddr := ieee154DFrameGetSrcAddr frame

theorem mode_of_ne_none {addr : Ieee154Addr} (h : addr ≠ .none) :
    addr.mode = IEEE154_ADDR_MODE_SHORT ∧ addr.bytes.length = 2 ∨
      addr.mode = IEEE154_ADDR_MODE_EXT ∧ addr.bytes.length = 8 := by
  cases addr with
  | none => exact absurd rfl h
  | shrt shrt => exact Or.inl ⟨rfl, shrt.length_toList⟩
  | ext ext => exact Or.inr ⟨rfl, ext.length_toList⟩

theorem modeLen_of_ne_none {addr : Ieee154Addr} (h : addr ≠ .none) :
    ieee154AddrModeLen addr.mode = some addr.bytes.length := by
  rcases mode_of_ne_none h with ⟨hmode, hlen⟩ | ⟨hmode, hlen⟩ <;> rw [hmode, hlen] <;> rfl

theorem Ieee154Addressing.Handled.six_le {a : Ieee154Addressing} (h : a.Handled) :
    6 ≤ a.bytes.length := by
  have htwo : ∀ {addr : Ieee154Addr}, addr ≠ .none → 2 ≤ addr.bytes.length := by
    intro addr haddr
    rcases mode_of_ne_none haddr with ⟨-, hlen⟩ | ⟨-, hlen⟩ <;> omega
  have hdst := htwo h.1
  have hsrc := htwo h.2
  rw [length_bytes]
  omega

/-! ## Frames that carry an addressing -/

/-- The bytes of a frame control field announce a data frame with an addressing. -/
structure AnnouncesAddressing (control1 control2 : UInt8) (a : Ieee154Addressing) : Prop where
  type : control1 &&& IEEE154_FCF_FRAME_TYPE_FIELD_MASK = IEEE154_DFRAME_TYPE
  plain : control1 &&&
    (IEEE154_FCF_SECURITY_ENABLED_FLAG_BIT ||| IEEE154_FCF_FRAME_PENDING_FLAG_BIT) = 0
  interPan : control1 &&& IEEE154_FCF_INTRA_PAN_FLAG_BIT = 0 ↔ a.srcPanId.isSome = true
  dstMode : (control2 >>> 2) &&& IEEE154_ADDR_MODE_MASK = a.dstAddr.mode
  srcMode : (control2 >>> 6) &&& IEEE154_ADDR_MODE_MASK = a.srcAddr.mode

/-- A description that tells the modes and places of an addressing. -/
structure Ieee154DframeInfo.Describes (frame : Ieee154DframeInfo) (a : Ieee154Addressing) :
    Prop where
  handled : a.Handled
  frameFlags : frame.frameFlags = a.frameFlags
  payloadAndDstAddrOff : frame.payloadAndDstAddrOff = a.payloadAndDstAddrOff
  srcPanAndAddrOff : frame.srcPanAndAddrOff = a.srcPanAndAddrOff

/-- A frame whose description and control field are those of an addressing that stands in it. -/
structure Ieee154DframeInfo.Carries (frame : Ieee154DframeInfo) (a : Ieee154Addressing) : Prop
    extends frame.Describes a where
  control : AnnouncesAddressing (frame.bufferPtr.getD 1 0) (frame.bufferPtr.getD 2 0) a
  standsAt : StandsAt frame.bufferPtr IEEE154_DFRAME_INITIAL_OFFSET.toNat a.bytes

namespace Ieee154DframeInfo

variable {frame : Ieee154DframeInfo} {a : Ieee154Addressing}

/-- The modes and places that are told. -/
theorem Describes.places (h : frame.Describes a) :
    ieee154DFrameIsInterPan frame = a.srcPanId.isSome ∧
      ieee154DFrameGetModeDstAddr frame = a.dstAddr.mode ∧
      ieee154DFrameGetModeSrcAddr frame = a.srcAddr.mode ∧
      ieee154DFrameGetOffsetDstAddr frame = 6 ∧
      ieee154DFrameGetOffsetSrcPanId frame = 6 + a.dstAddr.bytes.length ∧
      ieee154DFrameGetOffsetSrcAddr frame = 6 + a.dstAddr.bytes.length + a.srcPanLen ∧
      ieee154DFrameGetOffsetPayload frame = 4 + a.bytes.length := by
  obtain ⟨hdst, hsrc⟩ := h.handled
  rw [ieee154DFrameIsInterPan, ieee154DFrameGetModeDstAddr, ieee154DFrameGetModeSrcAddr,
    ieee154DFrameGetOffsetDstAddr, ieee154DFrameGetOffsetSrcPanId, ieee154DFrameGetOffsetSrcAddr,
    ieee154DFrameGetOffsetPayload, h.frameFlags, h.payloadAndDstAddrOff, h.srcPanAndAddrOff,
    Ieee154Addressing.frameFlags, Ieee154Addressing.payloadAndDstAddrOff,
    Ieee154Addressing.srcPanAndAddrOff, Ieee154Addressing.length_bytes, Ieee154Addressing.srcPanLen]
  rcases mode_of_ne_none hdst with ⟨hd, hdl⟩ | ⟨hd, hdl⟩ <;>
    rcases mode_of_ne_none hsrc with ⟨hs, hsl⟩ | ⟨hs, hsl⟩ <;>
    rw [hd, hs, hdl, hsl] <;>
    generalize a.srcPanId.isSome = inter <;> cases inter <;> decide

/-- What is read from such a frame. -/
theorem Carries.addressing_eq (h : frame.Carries a) : frame.addressing = a := by
  obtain ⟨hinter, hdm, hsm, hdst, hsrcPan, hsrc, -⟩ := h.toDescribes.places
  obtain ⟨hdstPanAt, hdstAt, hsrcPanAt, hsrcAt⟩ := (a.standsAt_bytes _).mp h.standsAt
  have hdstPanId : ieee154DFrameGetDstPanId frame = a.dstPanId :=
    readAddr_of_standsAt (standsAt_drop.mpr hdstPanAt)
  have hdstAddr : ieee154DFrameGetDstAddr frame = a.dstAddr := by
    rw [ieee154DFrameGetDstAddr, hdm, hdst]
    exact ieee154DFrameGetAddr_of_standsAt hdstAt
  have hsrcAddr : ieee154DFrameGetSrcAddr frame = a.srcAddr := by
    rw [ieee154DFrameGetSrcAddr, hsm, hsrc]
    exact ieee154DFrameGetAddr_of_standsAt hsrcAt
  have hsrcPanId : ∀ srcPanId ∈ a.srcPanId, ieee154DFrameGetSrcPanId frame = srcPanId := by
    intro srcPanId hmem
    rw [ieee154DFrameGetSrcPanId, hsrcPan]
    exact readAddr_of_standsAt (standsAt_drop.mpr (hsrcPanAt srcPanId hmem))
  rw [addressing, hdstPanId, hdstAddr, hsrcAddr, hinter]
  rcases a with ⟨dstPanId, dstAddr, srcPanId, srcAddr⟩
  cases srcPanId with
  | none => rfl
  | some srcPanId =>
    rw [hsrcPanId srcPanId rfl]
    rfl

end Ieee154DframeInfo

/-- Parsing a buffer with the control field of an addressing gives the description of a frame that
carries it, when the length tells that there is room for it. -/
theorem ieee154DFrameInfoExisting_eq (old : Ieee154DframeInfo) {bufPtr : List UInt8}
    {bufLen : UInt8} {a : Ieee154Addressing} (ha : a.Handled)
    (hsize : ¬bufLen < IEEE154_DFRAME_MINIMAL_SIZE)
    (hcontrol : AnnouncesAddressing (bufPtr.getD 1 0) (bufPtr.getD 2 0) a) :
    ∃ frame, ieee154DFrameInfoExisting old bufPtr bufLen =
      if (bufPtr.getD 0 0).toNat < 3 + a.bytes.length then (.sizeError, frame)
      else (.noError,
        ⟨bufPtr, bufLen, a.frameFlags, a.payloadAndDstAddrOff, a.srcPanAndAddrOff⟩) := by
  obtain ⟨hdst, hsrc⟩ := ha
  have hd := modeLen_of_ne_none hdst
  have hs := modeLen_of_ne_none hsrc
  unfold ieee154DFrameInfoExisting
  dsimp only
  rw [if_neg hsize, if_neg (not_not.mpr hcontrol.type), if_neg (not_not.mpr hcontrol.plain)]
  simp only [hcontrol.dstMode, hcontrol.srcMode, hd, hs, hcontrol.interPan,
    Ieee154Addressing.frameFlags, Ieee154Addressing.payloadAndDstAddrOff,
    Ieee154Addressing.srcPanAndAddrOff, Ieee154Addressing.length_bytes, Ieee154Addressing.srcPanLen]
  rcases mode_of_ne_none hdst with ⟨hd, hdl⟩ | ⟨hd, hdl⟩ <;>
    rcases mode_of_ne_none hsrc with ⟨hs, hsl⟩ | ⟨hs, hsl⟩ <;>
    rw [hd, hs, hdl, hsl] <;>
    generalize a.srcPanId.isSome = inter <;> cases inter <;> exact ⟨_, rfl⟩

/-- What a frame control field says that is parsed without an error. -/
theorem ieee154DFrameInfoExisting_control {old frame : Ieee154DframeInfo} {bufPtr : List UInt8}
    {bufLen : UInt8} (h : ieee154DFrameInfoExisting old bufPtr bufLen = (.noError, frame)) :
    ¬bufLen < IEEE154_DFRAME_MINIMAL_SIZE ∧
      bufPtr.getD 1 0 &&& IEEE154_FCF_FRAME_TYPE_FIELD_MASK = IEEE154_DFRAME_TYPE ∧
      bufPtr.getD 1 0 &&&
        (IEEE154_FCF_SECURITY_ENABLED_FLAG_BIT ||| IEEE154_FCF_FRAME_PENDING_FLAG_BIT) = 0 ∧
      ∃ dstLen srcLen,
        ieee154AddrModeLen ((bufPtr.getD 2 0 >>> 2) &&& IEEE154_ADDR_MODE_MASK) = some dstLen ∧
        ieee154AddrModeLen ((bufPtr.getD 2 0 >>> 6) &&& IEEE154_ADDR_MODE_MASK) = some srcLen := by
  unfold ieee154DFrameInfoExisting at h
  dsimp only at h
  split at h
  · cases h
  next hsize =>
    split at h
    · cases h
    next htype =>
      split at h
      · cases h
      next hplain =>
        refine ⟨hsize, not_not.mp htype, not_not.mp hplain, ?_⟩
        cases hd : ieee154AddrModeLen ((bufPtr.getD 2 0 >>> 2) &&& IEEE154_ADDR_MODE_MASK) with
        | none =>
          rw [hd] at h
          cases h
        | some dstLen =>
          cases hs : ieee154AddrModeLen ((bufPtr.getD 2 0 >>> 6) &&& IEEE154_ADDR_MODE_MASK) with
          | none =>
            rw [hd, hs] at h
            cases h
          | some srcLen => exact ⟨dstLen, srcLen, rfl, rfl⟩

/-- The address that is read with a mode that is handled. -/
theorem getAddr_spec {mode : UInt8} {n : ℕ} (h : ieee154AddrModeLen mode = some n)
    (ptr : List UInt8) :
    ieee154DFrameGetAddr mode ptr ≠ .none ∧ (ieee154DFrameGetAddr mode ptr).mode = mode ∧
      (ieee154DFrameGetAddr mode ptr).bytes.length = n := by
  rcases ieee154AddrModeLen_eq_some h with ⟨rfl, rfl⟩ | ⟨rfl, rfl⟩
  · exact ⟨nofun, rfl, Vector.length_toList⟩
  · exact ⟨nofun, rfl, Vector.length_toList⟩

/-- The length may be written to a frame. -/
theorem Ieee154DframeInfo.Carries.setLength {frame : Ieee154DframeInfo} {a : Ieee154Addressing}
    (h : frame.Carries a) (b : UInt8) :
    { frame with bufferPtr := frame.bufferPtr.set 0 b }.Carries a := by
  refine ⟨⟨h.handled, h.frameFlags, h.payloadAndDstAddrOff, h.srcPanAndAddrOff⟩, ?_, ?_⟩
  · have hget : ∀ i, i ≠ 0 → (frame.bufferPtr.set 0 b).getD i 0 = frame.bufferPtr.getD i 0 := by
      intro i hi
      rw [List.getD_eq_getElem?_getD, List.getElem?_set_ne hi.symm, List.getD_eq_getElem?_getD]
    rw [hget 1 one_ne_zero, hget 2 two_ne_zero]
    exact h.control
  · rw [set_eq_splice]
    exact h.standsAt.splice (Or.inr (Nat.le_add_left 1 3))

/-- A frame that carries an addressing, and whose length leaves room for it, is parsed as it is. -/
theorem Ieee154DframeInfo.Carries.infoExisting {frame : Ieee154DframeInfo} {a : Ieee154Addressing}
    (h : frame.Carries a) (hsize : ¬frame.bufferLen < IEEE154_DFRAME_MINIMAL_SIZE)
    (hlen : 3 + a.bytes.length ≤ (frame.bufferPtr.getD 0 0).toNat) (old : Ieee154DframeInfo) :
    ieee154DFrameInfoExisting old frame.bufferPtr frame.bufferLen = (.noError, frame) := by
  obtain ⟨failed, heq⟩ := ieee154DFrameInfoExisting_eq old h.handled hsize h.control
  rw [heq, if_neg (Nat.not_lt.mpr hlen), ← h.frameFlags, ← h.payloadAndDstAddrOff,
    ← h.srcPanAndAddrOff]

/-- A frame that was parsed, and whose header is in the buffer, carries what is read from it. -/
theorem ieee154DFrameInfoExisting_carries {old frame : Ieee154DframeInfo} {bufPtr : List UInt8}
    {bufLen : UInt8} (h : ieee154DFrameInfoExisting old bufPtr bufLen = (.noError, frame))
    (hlen : ieee154DFrameGetOffsetPayload frame ≤ bufPtr.length) :
    frame.Carries frame.addressing := by
  obtain ⟨hsize, htype, hplain, dstLen, srcLen, hd, hs⟩ := ieee154DFrameInfoExisting_control h
  -- The addressing that stands in the buffer for these modes.
  generalize hdm : (bufPtr.getD 2 0 >>> 2) &&& IEEE154_ADDR_MODE_MASK = dstMode at hd
  generalize hsm : (bufPtr.getD 2 0 >>> 6) &&& IEEE154_ADDR_MODE_MASK = srcMode at hs
  obtain ⟨hdst, hdstMode, hdstLen⟩ := getAddr_spec hd (bufPtr.drop 6)
  obtain ⟨inter, hinter⟩ : ∃ inter : Bool,
      bufPtr.getD 1 0 &&& IEEE154_FCF_INTRA_PAN_FLAG_BIT = 0 ↔ inter = true :=
    ⟨decide (bufPtr.getD 1 0 &&& IEEE154_FCF_INTRA_PAN_FLAG_BIT = 0), decide_eq_true_iff.symm⟩
  obtain ⟨a, ha, hcontrol, hat⟩ : ∃ a : Ieee154Addressing, a.Handled ∧
      AnnouncesAddressing (bufPtr.getD 1 0) (bufPtr.getD 2 0) a ∧
      (4 + a.bytes.length ≤ bufPtr.length → StandsAt bufPtr 4 a.bytes) := by
    have hsrcOff : ∃ srcOff, srcOff = 6 + dstLen + if inter then 2 else 0 := ⟨_, rfl⟩
    obtain ⟨srcOff, hsrcOff⟩ := hsrcOff
    obtain ⟨hsrc, hsrcMode, hsrcLen⟩ := getAddr_spec hs (bufPtr.drop srcOff)
    have hpan : ∀ panId : Ieee154PanId,
        (if inter then some panId else none).isSome = inter := fun _ => by cases inter <;> rfl
    refine ⟨⟨readAddr 2 (bufPtr.drop 4), ieee154DFrameGetAddr dstMode (bufPtr.drop 6),
      if inter then some (readAddr 2 (bufPtr.drop (6 + dstLen))) else none,
      ieee154DFrameGetAddr srcMode (bufPtr.drop srcOff)⟩, ⟨hdst, hsrc⟩, ?_, ?_⟩
    · exact ⟨htype, hplain, by rw [hpan, hinter], hdm.trans hdstMode.symm, hsm.trans hsrcMode.symm⟩
    · rw [Ieee154Addressing.standsAt_bytes, Ieee154Addressing.length_bytes,
        Ieee154Addressing.srcPanLen]
      dsimp only
      rw [hdstLen, hsrcLen, hpan, ← hsrcOff]
      intro hle
      refine ⟨(Ieee154DframeInfo.readAddr_eq_iff (by omega)).mp rfl, ?_, fun srcPanId hmem => ?_,
        ?_⟩
      · refine (Ieee154DframeInfo.ieee154DFrameGetAddr_eq_iff ?_).mp ?_
        · omega
        · rw [hdstMode]
      · cases inter with
        | false => cases hmem
        | true =>
          obtain rfl := Option.some.inj hmem
          rw [if_pos rfl] at hle
          exact (Ieee154DframeInfo.readAddr_eq_iff (by omega)).mp rfl
      · refine (Ieee154DframeInfo.ieee154DFrameGetAddr_eq_iff ?_).mp ?_
        · omega
        · rw [hsrcMode]
  have hframe : frame =
      ⟨bufPtr, bufLen, a.frameFlags, a.payloadAndDstAddrOff, a.srcPanAndAddrOff⟩ := by
    obtain ⟨failed, heq⟩ := ieee154DFrameInfoExisting_eq old ha hsize hcontrol
    rw [heq] at h
    split at h
    · cases h
    · exact (Prod.mk.inj h).2.symm
  have hdescribes : frame.Describes a := by
    rw [hframe]
    exact ⟨ha, rfl, rfl, rfl⟩
  have hcarries : frame.Carries a := by
    rw [hdescribes.places.2.2.2.2.2.2] at hlen
    refine ⟨hdescribes, ?_, ?_⟩
    · rw [hframe]
      exact hcontrol
    · rw [hframe]
      exact hat hlen
  rw [hcarries.addressing_eq]
  exact hcarries

/-! ## The opposite direction -/

/-- The nibbles of the second byte of a frame control field hold the modes of the addresses. -/
theorem swapNibbles_modes (b : UInt8) :
    (((b >>> 4) ||| (b <<< 4)) >>> 2) &&& IEEE154_ADDR_MODE_MASK =
        (b >>> 6) &&& IEEE154_ADDR_MODE_MASK ∧
      (((b >>> 4) ||| (b <<< 4)) >>> 6) &&& IEEE154_ADDR_MODE_MASK =
        (b >>> 2) &&& IEEE154_ADDR_MODE_MASK := by
  revert b
  decide +kernel

theorem AnnouncesAddressing.reverse {control1 control2 : UInt8} {a : Ieee154Addressing}
    (h : AnnouncesAddressing control1 control2 a) :
    AnnouncesAddressing control1 ((control2 >>> 4) ||| (control2 <<< 4)) a.reverse where
  type := h.type
  plain := h.plain
  interPan := by rw [h.interPan, Ieee154Addressing.reverse, Option.isSome_map]
  dstMode := (swapNibbles_modes control2).1.trans h.srcMode
  srcMode := (swapNibbles_modes control2).2.trans h.dstMode

/-- What a frame in the opposite direction of one that carries an addressing is. -/
theorem reinitializeFrameInOppositeDirection_eq {outFrame inFrame : Ieee154DframeInfo}
    {a : Ieee154Addressing} (h : inFrame.Carries a) :
    ieee154DFrameInfoReinitializeFrameInOppositeDirection outFrame inFrame =
      if outFrame.bufferPtr = [] ∨ outFrame.bufferLen.toNat < 4 + a.bytes.length then none
      else some
        { bufferPtr := ((splice outFrame.bufferPtr 4 a.reverse.bytes).set 1
            (inFrame.bufferPtr.getD 1 0)).set 2
              ((inFrame.bufferPtr.getD 2 0 >>> 4) ||| (inFrame.bufferPtr.getD 2 0 <<< 4))
          bufferLen := outFrame.bufferLen
          frameFlags := a.reverse.frameFlags
          payloadAndDstAddrOff := a.reverse.payloadAndDstAddrOff
          srcPanAndAddrOff := a.reverse.srcPanAndAddrOff } := by
  obtain ⟨hinter, hdm, hsm, hdst, hsrcPan, hsrc, hpayload⟩ := h.toDescribes.places
  obtain ⟨hdstPanAt, hdstAt, hsrcPanAt, hsrcAt⟩ := (a.standsAt_bytes _).mp h.standsAt
  have hoff : (inFrame.payloadAndDstAddrOff >>> 3).toNat +
      (IEEE154_DFRAME_INITIAL_OFFSET + IEEE154_DFRAME_CRC_SIZE).toNat = 4 + a.bytes.length := by
    have hinitial : (IEEE154_DFRAME_INITIAL_OFFSET + IEEE154_DFRAME_CRC_SIZE).toNat = 4 := rfl
    have hinitial' : IEEE154_DFRAME_INITIAL_OFFSET.toNat = 4 := rfl
    rw [ieee154DFrameGetOffsetPayload] at hpayload
    omega
  -- The fields that are copied.
  have hdst' : (inFrame.bufferPtr.drop 6).take a.dstAddr.bytes.length = a.dstAddr.bytes :=
    hdstAt.take_drop
  have hsrc' : (inFrame.bufferPtr.drop (6 + a.dstAddr.bytes.length + a.srcPanLen)).take
      a.srcAddr.bytes.length = a.srcAddr.bytes := hsrcAt.take_drop
  have hdstPan : (inFrame.bufferPtr.drop 4).take 2 = a.dstPanId.toList := by
    have htake := hdstPanAt.take_drop
    rwa [Vector.length_toList] at htake
  have hsrcPan' : ∀ srcPanId ∈ a.srcPanId,
      (inFrame.bufferPtr.drop (6 + a.dstAddr.bytes.length)).take 2 = srcPanId.toList := by
    intro srcPanId hmem
    have htake := (hsrcPanAt srcPanId hmem).take_drop
    rwa [Vector.length_toList] at htake
  have hdstPanOff : ieee154DFrameGetOffsetDstPanId inFrame = 4 := rfl
  have hpanBytes : (if a.srcPanId.isSome then a.dstPanId.toList else []) =
      a.reverse.srcPanId.elim [] Vector.toList := by
    rw [Ieee154Addressing.reverse]
    cases a.srcPanId <;> rfl
  have hpanLen : (if a.srcPanId.isSome then a.dstPanId.toList else []).length = a.srcPanLen := by
    rw [hpanBytes, Ieee154Addressing.length_srcPanId, Ieee154Addressing.srcPanLen_reverse]
  have hnewDstPan : (inFrame.bufferPtr.drop
      (if a.srcPanId.isSome then 6 + a.dstAddr.bytes.length else 4)).take 2 =
        a.reverse.dstPanId.toList := by
    rw [Ieee154Addressing.reverse]
    cases hpan : a.srcPanId with
    | none => exact hdstPan
    | some srcPanId => exact hsrcPan' srcPanId hpan
  have hbytes : a.reverse.dstPanId.toList ++ a.srcAddr.bytes ++
      a.reverse.srcPanId.elim [] Vector.toList ++ a.dstAddr.bytes = a.reverse.bytes := rfl
  rw [ieee154DFrameInfoReinitializeFrameInOppositeDirection, hoff]
  by_cases hroom : outFrame.bufferPtr = [] ∨ outFrame.bufferLen.toNat < 4 + a.bytes.length
  · rw [if_pos hroom, if_pos hroom]
  rw [if_neg hroom, if_neg hroom]
  simp only [hinter, hdm, hsm, hdst, hsrcPan, hsrc, modeLen_of_ne_none h.handled.1,
    modeLen_of_ne_none h.handled.2, hdst', hsrc', hdstPanOff, hdstPan, hpanLen, hnewDstPan,
    Option.some.injEq, Ieee154DframeInfo.mk.injEq]
  rw [hpanBytes, hbytes, shortMemCpy_eq_splice, List.take_length]
  refine ⟨rfl, trivial, ?_, ?_⟩
  · rw [Ieee154Addressing.frameFlags, Ieee154Addressing.reverse, Option.isSome_map]
  · rw [Ieee154Addressing.payloadAndDstAddrOff, Ieee154Addressing.srcPanAndAddrOff,
      Ieee154Addressing.length_bytes, Ieee154Addressing.srcPanLen_reverse,
      Ieee154Addressing.srcPanLen]
    simp only [Ieee154Addressing.reverse]
    rcases mode_of_ne_none h.handled.1 with ⟨-, hdl⟩ | ⟨-, hdl⟩ <;>
      rcases mode_of_ne_none h.handled.2 with ⟨-, hsl⟩ | ⟨-, hsl⟩ <;>
      rw [hdl, hsl] <;>
      generalize a.srcPanId.isSome = inter <;> cases inter <;> decide

/-- A frame in the opposite direction carries the reversed addressing, and nothing was written at or
behind the end of its buffer. -/
theorem reinitializeFrameInOppositeDirection_carries {outFrame inFrame frame : Ieee154DframeInfo}
    {a : Ieee154Addressing} (h : inFrame.Carries a)
    (hout : outFrame.bufferLen.toNat ≤ outFrame.bufferPtr.length)
    (hframe : ieee154DFrameInfoReinitializeFrameInOppositeDirection outFrame inFrame =
      some frame) :
    frame.Carries a.reverse ∧ 4 + a.bytes.length ≤ frame.bufferLen.toNat ∧
      frame.bufferLen = outFrame.bufferLen ∧
      frame.bufferPtr.length = outFrame.bufferPtr.length ∧
      ∀ i, outFrame.bufferLen.toNat ≤ i → frame.bufferPtr[i]? = outFrame.bufferPtr[i]? := by
  rw [reinitializeFrameInOppositeDirection_eq h] at hframe
  split at hframe
  · cases hframe
  next hroom =>
    obtain ⟨-, hroom⟩ := not_or.mp hroom
    have hlen := a.length_bytes_reverse
    obtain rfl := Option.some.inj hframe
    have hcontrol := h.control.reverse
    generalize inFrame.bufferPtr.getD 1 0 = control1 at hcontrol ⊢
    generalize (inFrame.bufferPtr.getD 2 0 >>> 4) ||| (inFrame.bufferPtr.getD 2 0 <<< 4) = control2
      at hcontrol ⊢
    have hlength : (splice outFrame.bufferPtr 4 a.reverse.bytes).length =
        outFrame.bufferPtr.length := length_splice _ _ _
    refine ⟨⟨⟨h.handled.reverse, rfl, rfl, rfl⟩, ?_, ?_⟩, Nat.not_lt.mp hroom, rfl, ?_,
      fun i hi => ?_⟩
    · have hget₁ : (((splice outFrame.bufferPtr 4 a.reverse.bytes).set 1 control1).set 2
          control2).getD 1 0 = control1 := by
        rw [List.getD_eq_getElem?_getD, List.getElem?_set_ne (by decide),
          List.getElem?_set_self (by omega), Option.getD_some]
      have hget₂ : (((splice outFrame.bufferPtr 4 a.reverse.bytes).set 1 control1).set 2
          control2).getD 2 0 = control2 := by
        rw [List.getD_eq_getElem?_getD,
          List.getElem?_set_self (by rw [List.length_set]; omega), Option.getD_some]
      rw [hget₁, hget₂]
      exact hcontrol
    · have hfits : 4 + a.reverse.bytes.length ≤ outFrame.bufferPtr.length := by omega
      rw [set_eq_splice, set_eq_splice]
      exact ((standsAt_splice hfits).splice (Or.inr (by simp))).splice (Or.inr (by simp))
    · rw [List.length_set, List.length_set, hlength]
    · rw [List.getElem?_set_ne (by omega), List.getElem?_set_ne (by omega)]
      exact getElem?_splice_of_outside (Or.inr (by omega))

/-- The length byte of a frame that carries an addressing, for a payload that it can tell. -/
theorem Ieee154DframeInfo.Carries.toNat_setPayloadLen {frame : Ieee154DframeInfo}
    {a : Ieee154Addressing} (h : frame.Carries a) (hbuf : frame.bufferPtr ≠ []) {len : UInt8}
    (hlen : ieee154DFrameGetOffsetPayload frame + len.toNat ≤ 256) :
    ((ieee154DFrameSetPayloadLen frame len).bufferPtr.getD 0 0).toNat =
      3 + a.bytes.length + len.toNat := by
  have hplace := h.toDescribes.places.2.2.2.2.2.2
  have hheader : (IEEE154_DFRAME_INITIAL_OFFSET + IEEE154_DFRAME_CRC_SIZE - 1).toNat = 3 := rfl
  have hinitial : IEEE154_DFRAME_INITIAL_OFFSET.toNat = 4 := rfl
  obtain ⟨b, bs, hb⟩ := List.exists_cons_of_ne_nil hbuf
  rw [ieee154DFrameGetOffsetPayload] at hplace hlen
  rw [ieee154DFrameSetPayloadLen, hb, List.set_cons_zero, List.getD_cons_zero, UInt8.toNat_add,
    UInt8.toNat_add, hheader]
  omega

/-- **Reversing a frame.**  A frame in the opposite direction of a valid frame has its addresses and
PANs the other way round.  With any length of the payload that its first byte can tell it is parsed
as it is described, reversing it once more gives back the original addressing and description, and
nothing is written at or behind the end of its buffer. -/
theorem reinitializeFrameInOppositeDirection_reverses (old inFrame : Ieee154DframeInfo)
    (bufPtr : List UInt8) (bufLen : UInt8) (outFrame frame : Ieee154DframeInfo)
    (hparsed : ieee154DFrameInfoExisting old bufPtr bufLen = (.noError, inFrame))
    (hheader : ieee154DFrameGetOffsetPayload inFrame ≤ bufPtr.length)
    (hout : outFrame.bufferLen.toNat ≤ outFrame.bufferPtr.length)
    (hframe : ieee154DFrameInfoReinitializeFrameInOppositeDirection outFrame inFrame =
      some frame) :
    frame.addressing = inFrame.addressing.reverse ∧
    (∀ len : UInt8, ieee154DFrameGetOffsetPayload frame + len.toNat ≤ 256 → ∀ old',
      ieee154DFrameInfoExisting old' (ieee154DFrameSetPayloadLen frame len).bufferPtr
        frame.bufferLen = (.noError, ieee154DFrameSetPayloadLen frame len)) ∧
    (∀ second, second = frame ∨ (∃ len, second = ieee154DFrameSetPayloadLen frame len) →
      ∀ outFrame' frame' : Ieee154DframeInfo,
        outFrame'.bufferLen.toNat ≤ outFrame'.bufferPtr.length →
        ieee154DFrameInfoReinitializeFrameInOppositeDirection outFrame' second = some frame' →
        frame'.addressing = inFrame.addressing ∧ frame'.frameFlags = inFrame.frameFlags ∧
          frame'.payloadAndDstAddrOff = inFrame.payloadAndDstAddrOff ∧
          frame'.srcPanAndAddrOff = inFrame.srcPanAndAddrOff) ∧
    frame.bufferPtr.length = outFrame.bufferPtr.length ∧
    ∀ i, outFrame.bufferLen.toNat ≤ i → frame.bufferPtr[i]? = outFrame.bufferPtr[i]? := by
  have hin := ieee154DFrameInfoExisting_carries hparsed hheader
  obtain ⟨hcarries, hroom, hbufferLen, hlength, hbehind⟩ :=
    reinitializeFrameInOppositeDirection_carries hin hout hframe
  have hsix := hin.handled.six_le
  refine ⟨hcarries.addressing_eq, fun len hlen old' => ?_, fun second hsecond outFrame' frame'
    hout' hframe' => ?_, hlength, hbehind⟩
  · have hbuf : frame.bufferPtr ≠ [] := by
      intro hnil
      rw [hnil, List.length_nil] at hlength
      rw [hbufferLen] at hroom
      omega
    have hsize : ¬frame.bufferLen < IEEE154_DFRAME_MINIMAL_SIZE := by
      have hmin : IEEE154_DFRAME_MINIMAL_SIZE.toNat = 6 := rfl
      rw [UInt8.lt_iff_toNat_lt]
      omega
    have htold := hcarries.toNat_setPayloadLen hbuf hlen
    exact (hcarries.setLength _).infoExisting hsize (htold ▸ Nat.le_add_right _ _) old'
  · have hcarries' : second.Carries inFrame.addressing.reverse := by
      rcases hsecond with rfl | ⟨len, rfl⟩
      · exact hcarries
      · exact hcarries.setLength _
    obtain ⟨htwice, -⟩ := reinitializeFrameInOppositeDirection_carries hcarries' hout' hframe'
    rw [Ieee154Addressing.reverse_reverse] at htwice
    exact ⟨htwice.addressing_eq, htwice.frameFlags.trans hin.frameFlags.symm,
      htwice.payloadAndDstAddrOff.trans hin.payloadAndDstAddrOff.symm,
      htwice.srcPanAndAddrOff.trans hin.srcPanAndAddrOff.symm⟩

/-- A frame between PANs, from a short to an extended address. -/
def ieee154FrameSample : List UInt8 :=
  [17, 0x01, 0x8c, 7, 1, 2, 3, 4, 5, 6, 7, 8, 9, 10, 11, 12, 13, 14]

theorem reinitializeFrameInOppositeDirection_reverses_interPan :
    ∃ frame, ieee154DFrameInfoReinitializeFrameInOppositeDirection
        ⟨List.replicate 20 0, 20, 0, 0, 0⟩ ⟨ieee154FrameSample, 18, 0x1b, 0x72, 0xac⟩ = some frame ∧
      frame.addressing = (⟨ieee154FrameSample, 18, 0x1b, 0x72, 0xac⟩ :
        Ieee154DframeInfo).addressing.reverse :=
  ⟨_, rfl, (reinitializeFrameInOppositeDirection_reverses ⟨[], 0, 0, 0, 0⟩
    ⟨ieee154FrameSample, 18, 0x1b, 0x72, 0xac⟩ ieee154FrameSample 18
    ⟨List.replicate 20 0, 20, 0, 0, 0⟩ _ rfl (by decide) (by decide) rfl).1⟩

end Whip6
