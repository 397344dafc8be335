import Whip6.Ieee154.Frame

/-!
# 6LoWPAN headers of a frame

The headers that may stand before the IPv6 packet or its part in the payload of a frame: a mesh
header, a broadcast header and a fragmentation header.  They are unpacked in any order in which
they may follow one another, and packed in the order mesh, broadcast, fragmentation.

A function that works on one header gets the payload, the offset of the header and the length of
the payload, and returns the size of the header or zero for an error.  Offsets start at zero and
stay below the eight-bit length of the payload, so their eight-bit sums do not wrap.
-/

namespace Whip6

open Lib

/-! ## Dispatch values -/

def LOWPAN_DISPATCH_PATTERN_IPV6 : UInt8 := 0x41

def LOWPAN_DISPATCH_MASK_IPV6 : UInt8 := 0xff

def LOWPAN_DISPATCH_PATTERN_LOWPAN_BC0 : UInt8 := 0x50

def LOWPAN_DISPATCH_MASK_LOWPAN_BC0 : UInt8 := 0xff

def LOWPAN_DISPATCH_PATTERN_LOWPAN_IPHC : UInt8 := 0x60

def LOWPAN_DISPATCH_MASK_LOWPAN_IPHC : UInt8 := 0xe0

def LOWPAN_DISPATCH_PATTERN_MESH : UInt8 := 0x80

def LOWPAN_DISPATCH_MASK_MESH : UInt8 := 0xc0

def LOWPAN_DISPATCH_PATTERN_FRAG1 : UInt8 := 0xc0

def LOWPAN_DISPATCH_PATTERN_FRAGN : UInt8 := 0xe0

def LOWPAN_DISPATCH_MASK_FRAGN : UInt8 := 0xf8

def LOWPAN_DISPATCH_PATTERN_FRAGX : UInt8 := 0xc0

def LOWPAN_DISPATCH_MASK_FRAGX_UNMASKED : UInt8 := 0xf8

def LOWPAN_DISPATCH_MASK_FRAGX : UInt8 := LOWPAN_DISPATCH_MASK_FRAGX_UNMASKED &&& (0xdf : UInt8)

/-! ## Unpacked headers -/

structure LowpanUnpackedHeaderMesh where
  hopLimit : UInt8
  srcAddr : Ieee154Addr
  dstAddr : Ieee154Addr
  deriving DecidableEq, Repr

structure LowpanUnpackedHeaderBc0 where
  seqNo : UInt8
  deriving DecidableEq, Repr

structure LowpanUnpackedHeaderFrag where
  tag : UInt16
  size : UInt16
  offset : UInt16
  deriving DecidableEq, Repr

/-- Which headers are present, one field for each bit. -/
structure LowpanHeaderBitmap where
  frag : Bool
  mesh : Bool
  bc0 : Bool
  deriving DecidableEq, Repr

/-- The bitmap zero. -/
def LowpanHeaderBitmap.empty : LowpanHeaderBitmap := ⟨false, false, false⟩

/-- The headers of a frame.  The next offset is valid only after packing or unpacking. -/
structure LowpanUnpackedFrameHeaders where
  bitmap : LowpanHeaderBitmap
  nextOffset : ℕ
  frag : LowpanUnpackedHeaderFrag
  mesh : LowpanUnpackedHeaderMesh
  bc0 : LowpanUnpackedHeaderBc0
  deriving DecidableEq, Repr

def lowpanFrameHeadersNew (hdrs : LowpanUnpackedFrameHeaders) : LowpanUnpackedFrameHeaders :=
  { hdrs with bitmap := .empty, nextOffset := 0 }

def lowpanFrameHeadersAddMeshHeader (hdrs : LowpanUnpackedFrameHeaders) (hopLimit : UInt8)
    (srcAddr dstAddr : Ieee154Addr) : LowpanUnpackedFrameHeaders :=
  { hdrs with bitmap := { hdrs.bitmap with mesh := true }, mesh := ⟨hopLimit, srcAddr, dstAddr⟩ }

def lowpanFrameHeadersAddBc0Header (hdrs : LowpanUnpackedFrameHeaders) (seqNo : UInt8) :
    LowpanUnpackedFrameHeaders :=
  { hdrs with bitmap := { hdrs.bitmap with bc0 := true }, bc0 := ⟨seqNo⟩ }

def lowpanFrameHeadersAddFragHeader (hdrs : LowpanUnpackedFrameHeaders) (tag size offset : UInt16) :
    LowpanUnpackedFrameHeaders :=
  { hdrs with bitmap := { hdrs.bitmap with frag := true }, frag := ⟨tag, size, offset⟩ }

/-! ## Unpacking -/

/-- Unpack an address of the mesh header, of the width that its dispatch bit says: the address
and the offset behind it. -/
def lowpanUnpackMeshAddr (isExt : Prop) [Decidable isExt] (payload : List UInt8)
    (currentOffset payloadLen : ℕ) : Option (Ieee154Addr × ℕ) :=
  if isExt then
    if currentOffset + IEEE154_EXT_ADDR_BYTE_LENGTH > payloadLen then none
    else
      some (.ext (readAddr 8 (payload.drop currentOffset)),
        currentOffset + IEEE154_EXT_ADDR_BYTE_LENGTH)
  else
    if currentOffset + IEEE154_SHORT_ADDR_BYTE_LENGTH > payloadLen then none
    else
      some (.shrt (readAddr 2 (payload.drop currentOffset)),
        currentOffset + IEEE154_SHORT_ADDR_BYTE_LENGTH)

def lowpanFrameHeadersUnpackMeshHdr (hdr : LowpanUnpackedHeaderMesh) (payload : List UInt8)
    (initialOffset payloadLen : ℕ) : LowpanUnpackedHeaderMesh × ℕ :=
  let dispatch := payload.getD initialOffset 0
  let currentOffset := initialOffset + 1
  let hdr := { hdr with hopLimit := dispatch &&& (0x0f : UInt8) }
  let isDeep := hdr.hopLimit = 0x0f
  if isDeep ∧ currentOffset ≥ payloadLen then (hdr, 0)
  else
    let hdr := if isDeep then { hdr with hopLimit := payload.getD currentOffset 0 } else hdr
    let currentOffset := if isDeep then currentOffset + 1 else currentOffset
    match lowpanUnpackMeshAddr (dispatch &&& (0x20 : UInt8) ≠ 0) payload currentOffset payloadLen with
    | none => (hdr, 0)
    | some (srcAddr, currentOffset) =>
      let hdr := { hdr with srcAddr := srcAddr }
      match lowpanUnpackMeshAddr (dispatch &&& (0x10 : UInt8) ≠ 0) payload currentOffset
          payloadLen with
      | none => (hdr, 0)
      | some (dstAddr, currentOffset) =>
        ({ hdr with dstAddr := dstAddr }, currentOffset - initialOffset)

def lowpanFrameHeadersUnpackBc0Hdr (hdr : LowpanUnpackedHeaderBc0) (payload : List UInt8)
    (initialOffset payloadLen : ℕ) : LowpanUnpackedHeaderBc0 × ℕ :=
  if initialOffset + 1 ≥ payloadLen then (hdr, 0)
  else ({ hdr with seqNo := payload.getD (initialOffset + 1) 0 }, 2)

def lowpanFrameHeadersUnpackFragxHdr (hdr : LowpanUnpackedHeaderFrag) (payload : List UInt8)
    (initialOffset payloadLen : ℕ) : LowpanUnpackedHeaderFrag × ℕ :=
  let dispatch := payload.getD initialOffset 0
  let currentOffset := initialOffset + 1
  if currentOffset + 3 > payloadLen then (hdr, 0)
  else
    let hdr :=
      { hdr with
        size := networkWord (dispatch &&& ~~~LOWPAN_DISPATCH_MASK_FRAGX_UNMASKED)
          (payload.getD currentOffset 0)
        tag := networkWord (payload.getD (currentOffset + 1) 0)
          (payload.getD (currentOffset + 2) 0) }
    let currentOffset := currentOffset + 3
    if dispatch &&& LOWPAN_DISPATCH_MASK_FRAGN = LOWPAN_DISPATCH_PATTERN_FRAGN then
      if currentOffset ≥ payloadLen then (hdr, 0)
      else
        ({ hdr with offset := (payload.getD currentOffset 0).toUInt16 <<< 3 },
          currentOffset + 1 - initialOffset)
    else ({ hdr with offset := 0 }, currentOffset - initialOffset)

/-- What becomes of the headers when the frame is not acceptable: none are present. -/
def lowpanFrameHeadersUnpackFailed (hdrs : LowpanUnpackedFrameHeaders) :
    Whip6Error × LowpanUnpackedFrameHeaders :=
  (.argumentError, { hdrs with bitmap := .empty, nextOffset := 0 })

/-- The loop over the headers, from an offset on.  Each turn that goes on has consumed a header of
at least two bytes, so the length of the payload is fuel enough. -/
def lowpanFrameHeadersUnpackLoop (payload : List UInt8) (payloadLen : ℕ) :
    ℕ → LowpanUnpackedFrameHeaders → ℕ → Whip6Error × LowpanUnpackedFrameHeaders
  | 0, hdrs, _ => lowpanFrameHeadersUnpackFailed hdrs
  | fuel + 1, hdrs, currentOffset =>
    if currentOffset < payloadLen then
      let dispatch := payload.getD currentOffset 0
      if dispatch &&& LOWPAN_DISPATCH_MASK_LOWPAN_IPHC = LOWPAN_DISPATCH_PATTERN_LOWPAN_IPHC then
        (.noError, { hdrs with nextOffset := currentOffset })
      else if dispatch &&& LOWPAN_DISPATCH_MASK_IPV6 = LOWPAN_DISPATCH_PATTERN_IPV6 then
        (.noError, { hdrs with nextOffset := currentOffset })
      else if dispatch &&& LOWPAN_DISPATCH_MASK_FRAGX = LOWPAN_DISPATCH_PATTERN_FRAGX then
        if hdrs.bitmap.frag then lowpanFrameHeadersUnpackFailed hdrs
        else
          let r := lowpanFrameHeadersUnpackFragxHdr hdrs.frag payload currentOffset payloadLen
          let hdrs := { hdrs with bitmap := { hdrs.bitmap with frag := true }, frag := r.1 }
          if r.2 = 0 then lowpanFrameHeadersUnpackFailed hdrs
          else if hdrs.frag.offset > 0 then
            (.noError, { hdrs with nextOffset := currentOffset + r.2 })
          else lowpanFrameHeadersUnpackLoop payload payloadLen fuel hdrs (currentOffset + r.2)
      else if dispatch &&& LOWPAN_DISPATCH_MASK_MESH = LOWPAN_DISPATCH_PATTERN_MESH then
        if hdrs.bitmap.mesh ∨ hdrs.bitmap.bc0 ∨ hdrs.bitmap.frag then
          lowpanFrameHeadersUnpackFailed hdrs
        else
          let r := lowpanFrameHeadersUnpackMeshHdr hdrs.mesh payload currentOffset payloadLen
          let hdrs := { hdrs with bitmap := { hdrs.bitmap with mesh := true }, mesh := r.1 }
          if r.2 = 0 then lowpanFrameHeadersUnpackFailed hdrs
          else lowpanFrameHeadersUnpackLoop payload payloadLen fuel hdrs (currentOffset + r.2)
      else if dispatch &&& LOWPAN_DISPATCH_MASK_LOWPAN_BC0 = LOWPAN_DISPATCH_PATTERN_LOWPAN_BC0 then
        if hdrs.bitmap.bc0 ∨ hdrs.bitmap.frag then lowpanFrameHeadersUnpackFailed hdrs
        else
          let r := lowpanFrameHeadersUnpackBc0Hdr hdrs.bc0 payload currentOffset payloadLen
          let hdrs := { hdrs with bitmap := { hdrs.bitmap with bc0 := true }, bc0 := r.1 }
          if r.2 = 0 then lowpanFrameHeadersUnpackFailed hdrs
          else lowpanFrameHeadersUnpackLoop payload payloadLen fuel hdrs (currentOffset + r.2)
      else lowpanFrameHeadersUnpackFailed hdrs
    else lowpanFrameHeadersUnpackFailed hdrs

def lowpanFrameHeadersUnpack (hdrs : LowpanUnpackedFrameHeaders) (frame : Ieee154DframeInfo) :
    Whip6Error × LowpanUnpackedFrameHeaders :=
  let payloadLen := (ieee154DFrameGetPayloadLen frame).toNat
  lowpanFrameHeadersUnpackLoop (ieee154DFrameUnsafeGetPayloadPtr frame) payloadLen (payloadLen + 1)
    { hdrs with bitmap := .empty, nextOffset := 0 } 0

/-! ## Packing -/

/-- Pack an address of the mesh header: the payload with the address and the offset behind it. -/
def lowpanPackMeshAddr (addr : Ieee154Addr) (payload : List UInt8) (currentOffset payloadLen : ℕ) :
    Option (List UInt8 × ℕ) :=
  match addr with
  | .ext ext =>
    if currentOffset + IEEE154_EXT_ADDR_BYTE_LENGTH > payloadLen then none
    else
      some (shortMemCpy ext.toList payload currentOffset IEEE154_EXT_ADDR_BYTE_LENGTH,
        currentOffset + IEEE154_EXT_ADDR_BYTE_LENGTH)
  | .shrt shrt =>
    if currentOffset + IEEE154_SHORT_ADDR_BYTE_LENGTH > payloadLen then none
    else
      some (shortMemCpy shrt.toList payload currentOffset IEEE154_SHORT_ADDR_BYTE_LENGTH,
        currentOffset + IEEE154_SHORT_ADDR_BYTE_LENGTH)
  | .none => none

/-- A bit of the mesh dispatch, set for an extended address. -/
def lowpanMeshDispatchBit (bit : UInt8) : Ieee154Addr → UInt8
  | .ext _ => bit
  | _ => 0

def lowpanFrameHeadersPackMeshHdr (hdr : LowpanUnpackedHeaderMesh) (payload : List UInt8)
    (initialOffset payloadLen : ℕ) : List UInt8 × ℕ :=
  let currentOffset := initialOffset + 1
  let isDeep := ¬ hdr.hopLimit < 0x0f
  if currentOffset > payloadLen then (payload, 0)
  else if isDeep ∧ currentOffset ≥ payloadLen then (payload, 0)
  else
    let dispatch := LOWPAN_DISPATCH_PATTERN_MESH ||| (if isDeep then 0x0f else hdr.hopLimit)
    let payload := if isDeep then payload.set currentOffset hdr.hopLimit else payload
    let currentOffset := if isDeep then currentOffset + 1 else currentOffset
    match lowpanPackMeshAddr hdr.srcAddr payload currentOffset payloadLen with
    | none => (payload, 0)
    | some (payload, currentOffset) =>
      let dispatch := dispatch ||| lowpanMeshDispatchBit 0x20 hdr.srcAddr
      match lowpanPackMeshAddr hdr.dstAddr payload currentOffset payloadLen with
      | none => (payload, 0)
      | some (payload, currentOffset) =>
        let dispatch := dispatch ||| lowpanMeshDispatchBit 0x10 hdr.dstAddr
        (payload.set initialOffset dispatch, currentOffset - initialOffset)

def lowpanFrameHeadersPackBc0Hdr (hdr : LowpanUnpackedHeaderBc0) (payload : List UInt8)
    (initialOffset payloadLen : ℕ) : List UInt8 × ℕ :=
  if initialOffset + 2 > payloadLen then (payload, 0)
  else
    ((payload.set initialOffset LOWPAN_DISPATCH_PATTERN_LOWPAN_BC0).set (initialOffset + 1) hdr.seqNo,
      2)

def lowpanFrameHeadersPackFragxHdr (hdr : LowpanUnpackedHeaderFrag) (payload : List UInt8)
    (initialOffset payloadLen : ℕ) : List UInt8 × ℕ :=
  let currentOffset := initialOffset + 1
  if currentOffset + 3 > payloadLen then (payload, 0)
  else
    let dispatch := (hdr.size >>> 8).toUInt8 &&& ~~~LOWPAN_DISPATCH_MASK_FRAGX_UNMASKED
    let payload := payload.set currentOffset hdr.size.toUInt8
    let payload := payload.set (currentOffset + 1) (hdr.tag >>> 8).toUInt8
    let payload := payload.set (currentOffset + 2) hdr.tag.toUInt8
    let currentOffset := currentOffset + 3
    if hdr.offset > 0 then
      if hdr.offset &&& (0x07 : UInt16) ≠ 0 ∨ currentOffset ≥ payloadLen then (payload, 0)
      else
        let payload := payload.set currentOffset (hdr.offset >>> 3).toUInt8
        (payload.set initialOffset (dispatch ||| LOWPAN_DISPATCH_PATTERN_FRAGN),
          currentOffset + 1 - initialOffset)
    else
      (payload.set initialOffset (dispatch ||| LOWPAN_DISPATCH_PATTERN_FRAG1),
        currentOffset - initialOffset)

/-- Pack one header if it is present: the payload and the offset behind it, or `none` with the
payload as far as it was written. -/
def lowpanPackIfPresent (present : Bool) (pack : List UInt8 → ℕ → List UInt8 × ℕ)
    (payload : List UInt8) (payloadOff : ℕ) : List UInt8 × Option ℕ :=
  if present then
    let r := pack payload payloadOff
    if r.2 = 0 then (r.1, none) else (r.1, some (payloadOff + r.2))
  else (payload, some payloadOff)

def lowpanFrameHeadersPack (hdrs : LowpanUnpackedFrameHeaders) (frame : Ieee154DframeInfo) :
    Whip6Error × LowpanUnpackedFrameHeaders × Ieee154DframeInfo :=
  let payloadLen := (ieee154DFrameMaxPayloadLen frame).toNat
  let payload := ieee154DFrameUnsafeGetPayloadPtr frame
  match lowpanPackIfPresent hdrs.bitmap.mesh
      (fun payload payloadOff =>
        lowpanFrameHeadersPackMeshHdr hdrs.mesh payload payloadOff payloadLen) payload 0 with
  | (payload, none) => (.argumentError, hdrs, frame.setPayload payload)
  | (payload, some payloadOff) =>
    match lowpanPackIfPresent hdrs.bitmap.bc0
        (fun payload payloadOff =>
          lowpanFrameHeadersPackBc0Hdr hdrs.bc0 payload payloadOff payloadLen)
        payload payloadOff with
    | (payload, none) => (.argumentError, hdrs, frame.setPayload payload)
    | (payload, some payloadOff) =>
      match lowpanPackIfPresent hdrs.bitmap.frag
          (fun payload payloadOff =>
            lowpanFrameHeadersPackFragxHdr hdrs.frag payload payloadOff payloadLen)
          payload payloadOff with
      | (payload, none) => (.argumentError, hdrs, frame.setPayload payload)
      | (payload, some payloadOff) =>
        (.noError, { hdrs with nextOffset := payloadOff }, frame.setPayload payload)

end Whip6
