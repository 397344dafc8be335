import Whip6.Ieee154.FrameCodec

/-!
# The fields of IEEE 802.15.4 data frames

What the getters of a frame return (`Ieee154FrameFields`), and the setters as data
(`Ieee154FrameSet`), each with the bytes it writes and their place.  The places of two fields do not
meet, so in a frame that was initialised any sequence of sets leaves the other fields alone, the
getters return what was set last, and the buffer still parses as the frame
(`ieee154DFrame_roundTrip`).
-/

namespace Whip6

open Lib

/-- What the getters of a frame return.  A frame within a PAN has no source PAN. -/
@[ext] structure Ieee154FrameFields where
  seqNo : UInt8
  dstPanId : Ieee154PanId
  srcPanId : Option Ieee154PanId
  dstAddr : Ieee154Addr
  srcAddr : Ieee154Addr
  payloadLen : UInt8
  deriving DecidableEq, Repr

def Ieee154DframeInfo.fields (frame : Ieee154DframeInfo) : Ieee154FrameFields where
  seqNo := ieee154DFrameGetSeqNo frame
  dstPanId := ieee154DFrameGetDstPanId frame
  srcPanId := if ieee154DFrameIsInterPan frame then some (ieee154DFrameGetSrcPanId frame) else none
  dstAddr := ieee154DFrameGetDstAddr frame
  srcAddr := ieee154DFrameGetSrcAddr frame
  payloadLen := ieee154DFrameGetPayloadLen frame

/-- A call of a setter. -/
inductive Ieee154FrameSet
  | seqNo (seqNo : UInt8)
  | dstPanId (panId : Ieee154PanId)
  | srcPanId (panId : Ieee154PanId)
  | dstAddr (addr : Ieee154Addr)
  | srcAddr (addr : Ieee154Addr)
  | payloadLen (len : UInt8)
  deriving DecidableEq, Repr

/-- The frame after a call of a setter. -/
def Ieee154DframeInfo.apply (frame : Ieee154DframeInfo) : Ieee154FrameSet → Ieee154DframeInfo
  | .seqNo seqNo => ieee154DFrameSetSeqNo frame seqNo
  | .dstPanId panId => ieee154DFrameSetDstPanId frame panId
  | .srcPanId panId => ieee154DFrameSetSrcPanId frame panId
  | .dstAddr addr => ieee154DFrameSetDstAddr frame addr
  | .srcAddr addr => ieee154DFrameSetSrcAddr frame addr
  | .payloadLen len => ieee154DFrameSetPayloadLen frame len

/-- The fields with one of them set. -/
def Ieee154FrameFields.apply (fields : Ieee154FrameFields) : Ieee154FrameSet → Ieee154FrameFields
  | .seqNo seqNo => { fields with seqNo := seqNo }
  | .dstPanId panId => { fields with dstPanId := panId }
  | .srcPanId panId => { fields with srcPanId := some panId }
  | .dstAddr addr => { fields with dstAddr := addr }
  | .srcAddr addr => { fields with srcAddr := addr }
  | .payloadLen len => { fields with payloadLen := len }

/-- The field of a setter has the value of that setter. -/
def Ieee154FrameFields.Has (fields : Ieee154FrameFields) : Ieee154FrameSet → Prop
  | .seqNo seqNo => fields.seqNo = seqNo
  | .dstPanId panId => fields.dstPanId = panId
  | .srcPanId panId => fields.srcPanId = some panId
  | .dstAddr addr => fields.dstAddr = addr
  | .srcAddr addr => fields.srcAddr = addr
  | .payloadLen len => fields.payloadLen = len

namespace Ieee154FrameSet

/-- The setter is for a field the frame has, and the value is one the field can have. -/
def Admissible (frame : Ieee154DframeInfo) : Ieee154FrameSet → Prop
  | seqNo _ | dstPanId _ => True
  | srcPanId _ => ieee154DFrameIsInterPan frame = true
  | dstAddr addr => addr.mode = ieee154DFrameGetModeDstAddr frame
  | srcAddr addr => addr.mode = ieee154DFrameGetModeSrcAddr frame
  | payloadLen len => len ≤ ieee154DFrameMaxPayloadLen frame

instance (frame : Ieee154DframeInfo) (set : Ieee154FrameSet) : Decidable (set.Admissible frame) :=
  match set with
  | seqNo _ | dstPanId _ => instDecidableTrue
  | srcPanId _ => inferInstanceAs (Decidable (_ = true))
  | dstAddr addr => inferInstanceAs (Decidable (addr.mode = _))
  | srcAddr addr => inferInstanceAs (Decidable (addr.mode = _))
  | payloadLen len => inferInstanceAs (Decidable (len ≤ _))

/-- The setters are for one field. -/
def SameField : Ieee154FrameSet → Ieee154FrameSet → Prop
  | seqNo _, seqNo _ | dstPanId _, dstPanId _ | srcPanId _, srcPanId _ | dstAddr _, dstAddr _
  | srcAddr _, srcAddr _ | payloadLen _, payloadLen _ => True
  | _, _ => False

/-- Where in the buffer a setter writes. -/
def place (frame : Ieee154DframeInfo) : Ieee154FrameSet → ℕ
  | seqNo _ => 3
  | dstPanId _ => ieee154DFrameGetOffsetDstPanId frame
  | srcPanId _ => ieee154DFrameGetOffsetSrcPanId frame
  | dstAddr _ => ieee154DFrameGetOffsetDstAddr frame
  | srcAddr _ => ieee154DFrameGetOffsetSrcAddr frame
  | payloadLen _ => 0

/-- What a setter writes there. -/
def bytes (frame : Ieee154DframeInfo) : Ieee154FrameSet → List UInt8
  | seqNo no => [no]
  | dstPanId panId => panId.toList
  | srcPanId panId => panId.toList
  | dstAddr addr => addr.bytes
  | srcAddr addr => addr.bytes
  | payloadLen len => [len + ((frame.payloadAndDstAddrOff >>> 3) +
      (IEEE154_DFRAME_INITIAL_OFFSET + IEEE154_DFRAME_CRC_SIZE - 1))]

end Ieee154FrameSet

namespace Ieee154DframeInfo

variable {frame : Ieee154DframeInfo} {dstLen srcLen : ℕ} {set : Ieee154FrameSet}

theorem Built.length_dstAddr (h : frame.Built dstLen srcLen) {addr : Ieee154Addr}
    (hmode : addr.mode = ieee154DFrameGetModeDstAddr frame) : addr.bytes.length = dstLen :=
  ieee154Addr_of_modeLen (hmode ▸ h.dstMode)

theorem Built.length_srcAddr (h : frame.Built dstLen srcLen) {addr : Ieee154Addr}
    (hmode : addr.mode = ieee154DFrameGetModeSrcAddr frame) : addr.bytes.length = srcLen :=
  ieee154Addr_of_modeLen (hmode ▸ h.srcMode)

/-- A setter splices its bytes into the buffer. -/
theorem Built.apply_eq (h : frame.Built dstLen srcLen) (hset : set.Admissible frame) :
    frame.apply set =
      { frame with bufferPtr := splice frame.bufferPtr (set.place frame) (set.bytes frame) } := by
  cases set with
  | seqNo seqNo => exact congrArg (Ieee154DframeInfo.mk · _ _ _ _) (set_eq_splice _ _ _)
  | payloadLen len => exact congrArg (Ieee154DframeInfo.mk · _ _ _ _) (set_eq_splice _ _ _)
  | dstPanId panId =>
    refine congrArg (Ieee154DframeInfo.mk · _ _ _ _) ((shortMemCpy_eq_splice _ _ _ _).trans ?_)
    rw [List.take_of_length_le (by simp)]
    rfl
  | srcPanId panId =>
    refine congrArg (Ieee154DframeInfo.mk · _ _ _ _) ((shortMemCpy_eq_splice _ _ _ _).trans ?_)
    rw [List.take_of_length_le (by simp)]
    rfl
  | dstAddr addr =>
    refine congrArg (Ieee154DframeInfo.mk · _ _ _ _) ((shortMemCpy_eq_splice _ _ _ _).trans ?_)
    rw [h.dstMode, Option.getD_some, List.take_of_length_le (h.length_dstAddr hset).le]
    rfl
  | srcAddr addr =>
    refine congrArg (Ieee154DframeInfo.mk · _ _ _ _) ((shortMemCpy_eq_splice _ _ _ _).trans ?_)
    rw [h.srcMode, Option.getD_some, List.take_of_length_le (h.length_srcAddr hset).le]
    rfl

/-- The places of the fields, one behind the other. -/
theorem Built.place_eq (h : frame.Built dstLen srcLen) (hset : set.Admissible frame) :
    match set with
    | .payloadLen _ => set.place frame = 0 ∧ (set.bytes frame).length = 1
    | .seqNo _ => set.place frame = 3 ∧ (set.bytes frame).length = 1
    | .dstPanId _ => set.place frame = 4 ∧ (set.bytes frame).length = 2
    | .dstAddr _ => set.place frame = 6 ∧ (set.bytes frame).length = dstLen
    | .srcPanId _ => set.place frame = 6 + dstLen ∧ (set.bytes frame).length = frame.srcPanLen
    | .srcAddr _ =>
      set.place frame = 6 + dstLen + frame.srcPanLen ∧ (set.bytes frame).length = srcLen := by
  obtain ⟨hdstOff, hsrcPanOff, hsrcOff, -⟩ := h.offsets
  cases set with
  | payloadLen len => exact ⟨rfl, rfl⟩
  | seqNo no => exact ⟨rfl, rfl⟩
  | dstPanId panId => exact ⟨rfl, Vector.length_toList⟩
  | dstAddr addr => exact ⟨hdstOff, h.length_dstAddr hset⟩
  | srcPanId panId => exact ⟨hsrcPanOff, Vector.length_toList.trans (if_pos hset).symm⟩
  | srcAddr addr => exact ⟨hsrcOff, h.length_srcAddr hset⟩

/-- The places lie within the header, and not in the frame control field. -/
theorem Built.place_within (h : frame.Built dstLen srcLen) (hset : set.Admissible frame) :
    set.place frame + (set.bytes frame).length ≤ 6 + dstLen + frame.srcPanLen + srcLen ∧
      (set.place frame + (set.bytes frame).length ≤ 1 ∨ 3 ≤ set.place frame) := by
  have hplace := h.place_eq hset
  cases set <;> dsimp only at hplace <;> omega

/-- The places of two fields do not meet. -/
theorem Built.places_disjoint (h : frame.Built dstLen srcLen) {set₁ set₂ : Ieee154FrameSet}
    (h₁ : set₁.Admissible frame) (h₂ : set₂.Admissible frame) (hne : ¬ set₁.SameField set₂) :
    set₁.place frame + (set₁.bytes frame).length ≤ set₂.place frame ∨
      set₂.place frame + (set₂.bytes frame).length ≤ set₁.place frame := by
  have hplace₁ := h.place_eq h₁
  have hplace₂ := h.place_eq h₂
  cases set₁ <;> cases set₂ <;> dsimp only at hplace₁ hplace₂ <;>
    first
    | exact absurd trivial hne
    | omega

/-! ## Reading what stands in a place -/

theorem Built.valid (h : frame.Built dstLen srcLen) : frame.Valid := by
  obtain ⟨b, -, hge, hlt⟩ := h.length
  refine ⟨h.bufferLen_le, ?_⟩
  rw [h.offsets.2.2.2]
  omega

theorem Built.place_le_length (h : frame.Built dstLen srcLen) (hset : set.Admissible frame) :
    set.place frame + (set.bytes frame).length ≤ frame.bufferPtr.length := by
  have hwithin := (h.place_within hset).1
  have hle := h.valid.offset_le_length
  rw [h.offsets.2.2.2] at hle
  exact hwithin.trans hle

theorem readAddr_eq_iff {n o : ℕ} {bytes : List UInt8} {addr : Vector UInt8 n}
    (hlen : o + n ≤ bytes.length) :
    readAddr n (bytes.drop o) = addr ↔ StandsAt bytes o addr.toList := by
  refine ⟨?_, fun h => readAddr_of_standsAt (standsAt_drop.mpr h)⟩
  rintro rfl i hi
  rw [Vector.length_toList] at hi
  have hget : o + i < bytes.length := by omega
  rw [List.getElem?_eq_getElem hget, List.getElem?_eq_getElem (by simpa using hi),
    Vector.getElem_toList, readAddr, Vector.getElem_ofFn, List.getD_eq_getElem?_getD,
    List.getElem?_drop, List.getElem?_eq_getElem hget, Option.getD_some]

theorem ieee154DFrameGetAddr_eq_iff {o : ℕ} {bytes : List UInt8} {addr : Ieee154Addr}
    (hlen : o + addr.bytes.length ≤ bytes.length) :
    ieee154DFrameGetAddr addr.mode (bytes.drop o) = addr ↔ StandsAt bytes o addr.bytes := by
  refine ⟨?_, ieee154DFrameGetAddr_of_standsAt⟩
  cases addr with
  | none => exact fun _ => standsAt_nil _ _
  | shrt a =>
    intro h
    rw [Ieee154Addr.bytes, Vector.length_toList] at hlen
    exact (readAddr_eq_iff hlen).mp (Ieee154Addr.shrt.inj h)
  | ext a =>
    intro h
    rw [Ieee154Addr.bytes, Vector.length_toList] at hlen
    exact (readAddr_eq_iff hlen).mp (Ieee154Addr.ext.inj h)

theorem standsAt_singleton {bytes : List UInt8} {o : ℕ} {b : UInt8} (ho : o < bytes.length) :
    bytes.getD o 0 = b ↔ StandsAt bytes o [b] := by
  rw [standsAt_cons, and_iff_left (standsAt_nil _ _), List.getD_eq_getElem?_getD,
    List.getElem?_eq_getElem ho, Option.getD_some, Option.some.injEq]

/-- A getter returns the value whose bytes stand in the place of the field. -/
theorem Built.has_iff (h : frame.Built dstLen srcLen) (hset : set.Admissible frame) :
    frame.fields.Has set ↔ StandsAt frame.bufferPtr (set.place frame) (set.bytes frame) := by
  have hlen := h.place_le_length hset
  cases set with
  | seqNo no => exact standsAt_singleton hlen
  | payloadLen len =>
    refine Iff.trans ?_ (standsAt_singleton hlen)
    change _ - _ - _ = len ↔ _
    rw [sub_sub, sub_eq_iff_eq_add]
    rfl
  | dstPanId panId =>
    rw [Ieee154FrameSet.bytes, Vector.length_toList] at hlen
    exact readAddr_eq_iff hlen
  | srcPanId panId =>
    rw [Ieee154FrameSet.bytes, Vector.length_toList] at hlen
    refine Iff.trans ?_ (readAddr_eq_iff hlen)
    change (if _ then _ else _) = _ ↔ _
    rw [if_pos (show ieee154DFrameIsInterPan frame = true from hset), Option.some.injEq]
    rfl
  | dstAddr addr =>
    refine Iff.trans ?_ (ieee154DFrameGetAddr_eq_iff hlen)
    rw [show addr.mode = _ from hset]
    rfl
  | srcAddr addr =>
    refine Iff.trans ?_ (ieee154DFrameGetAddr_eq_iff hlen)
    rw [show addr.mode = _ from hset]
    rfl

/-! ## Sets -/

theorem admissible_apply (frame : Ieee154DframeInfo) (set other : Ieee154FrameSet) :
    other.Admissible (frame.apply set) ↔ other.Admissible frame := by
  cases set <;> rfl

theorem apply_description (frame : Ieee154DframeInfo) (set : Ieee154FrameSet) :
    frame.apply set = { frame with bufferPtr := (frame.apply set).bufferPtr } := by
  cases set <;> rfl

/-- The length byte of a frame of a payload for which there is room. -/
theorem Built.toNat_payloadLen (h : frame.Built dstLen srcLen) {len : UInt8}
    (hlen : len ≤ ieee154DFrameMaxPayloadLen frame) :
    (len + ((frame.payloadAndDstAddrOff >>> 3) +
      (IEEE154_DFRAME_INITIAL_OFFSET + IEEE154_DFRAME_CRC_SIZE - 1))).toNat =
        5 + dstLen + frame.srcPanLen + srcLen + len.toNat ∧
      5 + dstLen + frame.srcPanLen + srcLen + len.toNat < frame.bufferLen.toNat := by
  have hoff := h.offsets.2.2.2
  have hmax := h.valid.toNat_maxPayloadLen
  have hle := h.valid.offset_le
  have hlt := frame.bufferLen.toNat_lt
  rw [UInt8.le_iff_toNat_le, hmax] at hlen
  unfold ieee154DFrameGetOffsetPayload at hoff hlen hle
  rw [show IEEE154_DFRAME_INITIAL_OFFSET.toNat = 4 from rfl] at hoff hlen hle
  rw [UInt8.toNat_add, UInt8.toNat_add, show (IEEE154_DFRAME_INITIAL_OFFSET +
    IEEE154_DFRAME_CRC_SIZE - 1).toNat = 3 from rfl]
  omega

/-- A set keeps the frame built. -/
theorem Built.apply (h : frame.Built dstLen srcLen) (hset : set.Admissible frame) :
    (frame.apply set).Built dstLen srcLen := by
  have hwithin := (h.place_within hset).2
  rw [h.apply_eq hset]
  refine h.of_buffer (length_splice _ _ _) (getElem?_splice_of_outside (by omega))
    (getElem?_splice_of_outside (by omega)) ?_
  obtain ⟨b, hb, hge, hlt⟩ := h.length
  have hplace := h.place_eq hset
  cases set with
  | payloadLen len =>
    obtain ⟨hbyte, hroom⟩ := h.toNat_payloadLen hset
    have hpos := h.place_le_length hset
    refine ⟨_, getElem?_splice_of_inside (Nat.zero_le _) Nat.zero_lt_one hpos, ?_⟩
    rw [hbyte]
    exact ⟨Nat.le_add_right _ _, hroom⟩
  | _ =>
    dsimp only at hplace
    exact ⟨b, (getElem?_splice_of_outside (by omega)).trans hb, hge, hlt⟩

/-- The field that was set has its value. -/
theorem Built.has_apply (h : frame.Built dstLen srcLen) (hset : set.Admissible frame) :
    (frame.apply set).fields.Has set := by
  rw [(h.apply hset).has_iff ((admissible_apply frame set set).mpr hset), h.apply_eq hset]
  exact standsAt_splice (h.place_le_length hset)

/-- The other fields keep theirs. -/
theorem Built.has_apply_other (h : frame.Built dstLen srcLen) (hset : set.Admissible frame)
    {other : Ieee154FrameSet} (hother : other.Admissible frame) (hne : ¬ set.SameField other)
    (hhas : frame.fields.Has other) : (frame.apply set).fields.Has other := by
  rw [(h.apply hset).has_iff ((admissible_apply frame set other).mpr hother), h.apply_eq hset]
  exact ((h.has_iff hother).mp hhas).splice (h.places_disjoint hset hother hne).symm

theorem mode_getAddr {mode : UInt8} {n : ℕ} (h : ieee154AddrModeLen mode = some n)
    (ptr : List UInt8) : (ieee154DFrameGetAddr mode ptr).mode = mode := by
  rcases ieee154AddrModeLen_eq_some h with ⟨rfl, -⟩ | ⟨rfl, -⟩ <;> rfl

theorem srcPanId_apply_of_intraPan (hinter : ieee154DFrameIsInterPan frame ≠ true)
    (set : Ieee154FrameSet) : (frame.apply set).fields.srcPanId = frame.fields.srcPanId := by
  have hinter' : ieee154DFrameIsInterPan (frame.apply set) ≠ true := by
    rw [apply_description]
    exact hinter
  exact (if_neg hinter').trans (if_neg hinter).symm

/-- The payload fits into the buffer. -/
theorem Built.payloadLen_le (h : frame.Built dstLen srcLen) :
    ieee154DFrameGetPayloadLen frame ≤ ieee154DFrameMaxPayloadLen frame := by
  obtain ⟨b, hb, hge, hlt⟩ := h.length
  have hoff := h.offsets.2.2.2
  have hblt := b.toNat_lt
  have hbuf := frame.bufferLen.toNat_lt
  rw [UInt8.le_iff_toNat_le, h.valid.toNat_maxPayloadLen, ieee154DFrameGetPayloadLen,
    List.getD_eq_getElem?_getD, hb, Option.getD_some,
    show IEEE154_DFRAME_INITIAL_OFFSET + IEEE154_DFRAME_CRC_SIZE - 1 = 3 from rfl,
    UInt8.toNat_sub, UInt8.toNat_sub, show UInt8.toNat 3 = 3 from rfl]
  unfold ieee154DFrameGetOffsetPayload at hoff ⊢
  rw [show IEEE154_DFRAME_INITIAL_OFFSET.toNat = 4 from rfl] at hoff ⊢
  omega

/-- A set changes its field and no other. -/
theorem Built.fields_apply (h : frame.Built dstLen srcLen) (hset : set.Admissible frame) :
    (frame.apply set).fields = frame.fields.apply set := by
  have hself := h.has_apply hset
  have hother : ∀ other : Ieee154FrameSet, other.Admissible frame → ¬ set.SameField other →
      frame.fields.Has other → (frame.apply set).fields.Has other :=
    fun other hadm hne hhas => h.has_apply_other hset hadm hne hhas
  have hseqNo := hother (.seqNo frame.fields.seqNo) trivial
  have hdstPanId := hother (.dstPanId frame.fields.dstPanId) trivial
  have hdstAddr := hother (.dstAddr frame.fields.dstAddr) (mode_getAddr h.dstMode _)
  have hsrcAddr := hother (.srcAddr frame.fields.srcAddr) (mode_getAddr h.srcMode _)
  have hpayloadLen := hother (.payloadLen frame.fields.payloadLen) h.payloadLen_le
  have hsrcPanId : (∀ panId, ¬ set.SameField (.srcPanId panId)) →
      (frame.apply set).fields.srcPanId = frame.fields.srcPanId := by
    intro hne
    by_cases hinter : ieee154DFrameIsInterPan frame = true
    · have hhas : frame.fields.srcPanId = some (ieee154DFrameGetSrcPanId frame) := if_pos hinter
      rw [hhas]
      exact hother (.srcPanId (ieee154DFrameGetSrcPanId frame)) hinter (hne _) hhas
    · exact srcPanId_apply_of_intraPan hinter set
  cases set with
  | seqNo no =>
    exact Ieee154FrameFields.ext hself (hdstPanId id rfl) (hsrcPanId fun _ => id)
      (hdstAddr id rfl) (hsrcAddr id rfl) (hpayloadLen id rfl)
  | dstPanId panId =>
    exact Ieee154FrameFields.ext (hseqNo id rfl) hself (hsrcPanId fun _ => id)
      (hdstAddr id rfl) (hsrcAddr id rfl) (hpayloadLen id rfl)
  | srcPanId panId =>
    exact Ieee154FrameFields.ext (hseqNo id rfl) (hdstPanId id rfl) hself
      (hdstAddr id rfl) (hsrcAddr id rfl) (hpayloadLen id rfl)
  | dstAddr addr =>
    exact Ieee154FrameFields.ext (hseqNo id rfl) (hdstPanId id rfl) (hsrcPanId fun _ => id)
      hself (hsrcAddr id rfl) (hpayloadLen id rfl)
  | srcAddr addr =>
    exact Ieee154FrameFields.ext (hseqNo id rfl) (hdstPanId id rfl) (hsrcPanId fun _ => id)
      (hdstAddr id rfl) hself (hpayloadLen id rfl)
  | payloadLen len =>
    exact Ieee154FrameFields.ext (hseqNo id rfl) (hdstPanId id rfl) (hsrcPanId fun _ => id)
      (hdstAddr id rfl) (hsrcAddr id rfl) hself

/-- The frame after a sequence of calls of setters. -/
def applyAll (frame : Ieee154DframeInfo) (sets : List Ieee154FrameSet) : Ieee154DframeInfo :=
  sets.foldl Ieee154DframeInfo.apply frame

/-- Sets keep the frame built and its description, and change the fields they set. -/
theorem Built.applyAll (h : frame.Built dstLen srcLen) {sets : List Ieee154FrameSet}
    (hsets : ∀ set ∈ sets, set.Admissible frame) :
    (frame.applyAll sets).Built dstLen srcLen ∧
      frame.applyAll sets = { frame with bufferPtr := (frame.applyAll sets).bufferPtr } ∧
      (frame.applyAll sets).bufferPtr.length = frame.bufferPtr.length ∧
      (frame.applyAll sets).fields = sets.foldl Ieee154FrameFields.apply frame.fields := by
  induction sets generalizing frame with
  | nil => exact ⟨h, rfl, rfl, rfl⟩
  | cons set sets ih =>
    have hset := hsets set List.mem_cons_self
    obtain ⟨hbuilt, hdesc, hlen, hfields⟩ := ih (h.apply hset) fun other hother =>
      (admissible_apply frame set other).mpr (hsets other (List.mem_cons_of_mem set hother))
    refine ⟨hbuilt, ?_, hlen.trans ?_, hfields.trans ?_⟩
    · cases set <;> exact hdesc
    · rw [h.apply_eq hset]
      exact length_splice _ _ _
    · rw [h.fields_apply hset]
      rfl

end Ieee154DframeInfo

/-! ## Initialised frames -/

theorem flags_of_addresses (dst src : Ieee154Addr) (inter : Bool) :
    let flags := (dst.mode &&& IEEE154_ADDR_MODE_MASK) |||
      ((src.mode &&& IEEE154_ADDR_MODE_MASK) <<< 2) |||
      (if inter then IEEE154_DFRAME_INFO_FLAG_INTER_PAN else 0)
    flags &&& (0xe0 : UInt8) = 0 ∧
      (flags &&& IEEE154_DFRAME_INFO_FLAG_INTER_PAN != 0) = inter ∧
      flags &&& IEEE154_ADDR_MODE_MASK = dst.mode ∧
      (flags >>> 2) &&& IEEE154_ADDR_MODE_MASK = src.mode := by
  rcases dst.mode_cases with hd | hd | hd <;> rcases src.mode_cases with hs | hs | hs <;>
    cases inter <;> rw [hd, hs] <;> decide

/-- Initialising a frame for two addresses sets its fields. -/
theorem reinitialize_built {frame frame' : Ieee154DframeInfo} {dst src : Ieee154Addr}
    {dstPan : Ieee154PanId} {srcPan : Option Ieee154PanId}
    (hbuf : frame.bufferLen.toNat ≤ frame.bufferPtr.length)
    (h : ieee154DFrameInfoReinitializeFrameForAddresses frame dst src dstPan srcPan =
      (.noError, frame')) :
    (∃ dstLen srcLen, frame'.Built dstLen srcLen) ∧ frame'.frameFlags &&& (0xe0 : UInt8) = 0 ∧
      frame'.bufferLen = frame.bufferLen ∧ frame'.bufferPtr.length = frame.bufferPtr.length ∧
      frame'.fields = ⟨0, dstPan, srcPan, dst, src, 0⟩ := by
  unfold ieee154DFrameInfoReinitializeFrameForAddresses at h
  by_cases hnull : frame.bufferPtr = [] ∨ frame.bufferLen = 0
  · rw [if_pos hnull] at h
    cases h
  rw [if_neg hnull] at h
  obtain ⟨hflags, hinter, hdst, hsrc⟩ := flags_of_addresses dst src srcPan.isSome
  dsimp only at h hflags hinter hdst hsrc
  generalize (dst.mode &&& IEEE154_ADDR_MODE_MASK) |||
    ((src.mode &&& IEEE154_ADDR_MODE_MASK) <<< 2) |||
    (if srcPan.isSome then IEEE154_DFRAME_INFO_FLAG_INTER_PAN else 0) = flags at *
  rcases hr : ieee154DFrameInfoNew frame frame.bufferPtr frame.bufferLen flags with
    ⟨status, newFrame⟩
  rw [hr] at h
  by_cases hstatus : status ≠ .noError
  · rw [if_pos hstatus] at h
    exact absurd (Prod.mk.inj h).1 hstatus
  obtain rfl : status = .noError := not_not.mp hstatus
  rw [if_neg hstatus] at h
  obtain ⟨dstLen, srcLen, hbuilt, rfl, hbufLen, hlen, hpayload⟩ :=
    ieee154DFrameInfoNew_built hbuf hr
  let sets : List Ieee154FrameSet := [.seqNo 0, .srcAddr src, .dstAddr dst, .dstPanId dstPan] ++
    srcPan.toList.map Ieee154FrameSet.srcPanId
  have hframe : frame' = newFrame.applyAll sets := by
    cases srcPan with
    | none =>
      dsimp only at h
      split at h
      · contradiction
      · exact (Prod.mk.inj h).2.symm
    | some panId =>
      have hinter' : ∀ bs o₁ o₂ l, ieee154DFrameIsInterPan ⟨bs, l, newFrame.frameFlags, o₁, o₂⟩ =
          true := fun _ _ _ _ => hinter
      dsimp only [ieee154DFrameSetDstPanId, ieee154DFrameSetDstAddr, ieee154DFrameSetSrcAddr,
        ieee154DFrameSetSeqNo] at h
      rw [hinter'] at h
      exact (Prod.mk.inj h).2.symm
  have hsets : ∀ set ∈ sets, set.Admissible newFrame := by
    intro set hset
    rcases List.mem_append.mp hset with hset | hset
    · fin_cases hset
      · trivial
      · exact hsrc.symm
      · exact hdst.symm
      · trivial
    · obtain ⟨panId, hpanId, rfl⟩ := List.mem_map.mp hset
      rw [Option.mem_toList] at hpanId
      rw [hpanId] at hinter
      exact hinter
  obtain ⟨hbuilt', hdesc, hlen', hfields⟩ := hbuilt.applyAll hsets
  subst hframe
  refine ⟨⟨dstLen, srcLen, hbuilt'⟩, ?_, ?_, hlen'.trans hlen, hfields.trans ?_⟩
  · rw [hdesc]
    exact hflags
  · rw [hdesc]
    exact hbufLen
  · cases srcPan with
    | none =>
      have hsrcPan : newFrame.fields.srcPanId = none := if_neg (by
        rw [Bool.not_eq_true]
        exact hinter)
      exact Ieee154FrameFields.ext rfl rfl hsrcPan rfl rfl hpayload
    | some panId => exact Ieee154FrameFields.ext rfl rfl rfl rfl rfl hpayload

/-- Described by `ieee154DFrameInfoNew` with flags for the modes and the PANs, or made for two
addresses. -/
inductive Ieee154DframeInfo.Initialised (frame : Ieee154DframeInfo) : Prop
  | infoNew {old : Ieee154DframeInfo} {bufPtr : List UInt8} {bufLen flags : UInt8}
    (hbuf : bufLen.toNat ≤ bufPtr.length) (hflags : flags &&& (0xe0 : UInt8) = 0)
    (h : ieee154DFrameInfoNew old bufPtr bufLen flags = (.noError, frame))
  | reinitialize {old : Ieee154DframeInfo} {dst src : Ieee154Addr} {dstPan : Ieee154PanId}
    {srcPan : Option Ieee154PanId} (hbuf : old.bufferLen.toNat ≤ old.bufferPtr.length)
    (h : ieee154DFrameInfoReinitializeFrameForAddresses old dst src dstPan srcPan =
      (.noError, frame))

theorem Ieee154DframeInfo.Initialised.built {frame : Ieee154DframeInfo} (h : frame.Initialised) :
    ∃ dstLen srcLen, frame.Built dstLen srcLen ∧ frame.frameFlags &&& (0xe0 : UInt8) = 0 := by
  cases h with
  | infoNew hbuf hflags h =>
    obtain ⟨dstLen, srcLen, hbuilt, hframe, -⟩ := ieee154DFrameInfoNew_built hbuf h
    exact ⟨dstLen, srcLen, hbuilt, hframe ▸ hflags⟩
  | reinitialize hbuf h =>
    obtain ⟨⟨dstLen, srcLen, hbuilt⟩, hflags, -⟩ := reinitialize_built hbuf h
    exact ⟨dstLen, srcLen, hbuilt, hflags⟩

/-! ## The round trip -/

/-- After any sets of fields that an initialised frame has, its buffer parses as the frame, the
getters return what was set last, no setter touches the bytes of another, and the packed places are
those of the fields one behind the other. -/
theorem ieee154DFrame_roundTrip {frame : Ieee154DframeInfo} (hinit : frame.Initialised)
    {sets : List Ieee154FrameSet} (hsets : ∀ set ∈ sets, set.Admissible frame) :
    let built := frame.applyAll sets
    (∀ old, ieee154DFrameInfoExisting old built.bufferPtr built.bufferLen = (.noError, built)) ∧
    built = { frame with bufferPtr := built.bufferPtr } ∧
    built.fields = sets.foldl Ieee154FrameFields.apply frame.fields ∧
    (∀ set : Ieee154FrameSet, set.Admissible frame → ∀ i,
      i < set.place frame ∨ set.place frame + (set.bytes frame).length ≤ i →
      (built.apply set).bufferPtr[i]? = built.bufferPtr[i]?) ∧
    (∀ set₁ set₂ : Ieee154FrameSet, set₁.Admissible frame → set₂.Admissible frame →
      ¬ set₁.SameField set₂ →
      set₁.place frame + (set₁.bytes frame).length ≤ set₂.place frame ∨
        set₂.place frame + (set₂.bytes frame).length ≤ set₁.place frame) ∧
    ∃ dstLen srcLen,
      ieee154AddrModeLen (ieee154DFrameGetModeDstAddr frame) = some dstLen ∧
      ieee154AddrModeLen (ieee154DFrameGetModeSrcAddr frame) = some srcLen ∧
      ieee154DFrameGetOffsetDstAddr built = 6 ∧
      ieee154DFrameGetOffsetSrcPanId built = 6 + dstLen ∧
      ieee154DFrameGetOffsetSrcAddr built = 6 + dstLen + frame.srcPanLen ∧
      ieee154DFrameGetOffsetPayload built = 6 + dstLen + frame.srcPanLen + srcLen := by
  obtain ⟨dstLen, srcLen, h, hflags⟩ := hinit.built
  obtain ⟨hbuilt, hdesc, -, hfields⟩ := h.applyAll hsets
  dsimp only
  generalize frame.applyAll sets = built at hbuilt hdesc hfields
  have hadm : ∀ {set : Ieee154FrameSet}, set.Admissible frame → set.Admissible built := by
    intro set hset
    rw [hdesc]
    exact hset
  refine ⟨hbuilt.infoExisting (by rw [hdesc]; exact hflags), hdesc, hfields, ?_,
    fun _ _ h₁ h₂ hne => h.places_disjoint h₁ h₂ hne,
    dstLen, srcLen, h.dstMode, h.srcMode, ?_⟩
  · intro set hset i hi
    rw [hbuilt.apply_eq (hadm hset)]
    refine getElem?_splice_of_outside ?_
    rw [hdesc]
    exact hi
  · have hoffs := hbuilt.offsets
    rw [hdesc] at hoffs ⊢
    exact hoffs

/-- A frame between two PANs, from a short to an extended address. -/
def Ieee154DframeInfo.interPanSample : Ieee154DframeInfo :=
  ⟨[17, 0x01, 0xc8] ++ List.replicate 37 0, 40, 0x1e, 114, 70⟩

/-- All fields of it set, the sequence number twice. -/
def Ieee154FrameSet.sample : List Ieee154FrameSet :=
  [.seqNo 7, .dstPanId #v[1, 2], .srcPanId #v[3, 4], .dstAddr (.shrt #v[5, 6]),
    .srcAddr (.ext #v[1, 2, 3, 4, 5, 6, 7, 8]), .payloadLen 20, .seqNo 9]

theorem ieee154DFrame_roundTrip_interPan :
    (Ieee154DframeInfo.interPanSample.applyAll Ieee154FrameSet.sample).fields =
      ⟨9, #v[1, 2], some #v[3, 4], .shrt #v[5, 6], .ext #v[1, 2, 3, 4, 5, 6, 7, 8], 20⟩ := by
  have hnew : ieee154DFrameInfoNew ⟨[], 0, 0, 0, 0⟩ (List.replicate 40 0) 40 0x1e =
      (.noError, .interPanSample) := by decide
  have hinit := Ieee154DframeInfo.Initialised.infoNew (by decide) (by decide) hnew
  exact (ieee154DFrame_roundTrip hinit (by decide)).2.2.1.trans (by decide)

/-- In a frame within a PAN there is no place for a source PAN: its setter overwrites the source
address. -/
theorem ieee154DFrameSetSrcPanId_intraPan :
    let frame : Ieee154DframeInfo := ⟨[9, 0x41, 0x88] ++ List.replicate 17 0, 20, 0x0a, 50, 68⟩
    ieee154DFrameInfoNew ⟨[], 0, 0, 0, 0⟩ (List.replicate 20 0) 20 0x0a = (.noError, frame) ∧
      ieee154DFrameGetSrcAddr (ieee154DFrameSetSrcAddr frame (.shrt #v[5, 6])) =
        .shrt #v[5, 6] ∧
      ieee154DFrameGetSrcAddr
        (ieee154DFrameSetSrcPanId (ieee154DFrameSetSrcAddr frame (.shrt #v[5, 6])) #v[1, 2]) =
        .shrt #v[1, 2] := by
  decide

end Whip6
