import Whip6.Lowpan.Header
import Whip6.Ipv6.Packet

/-!
# Raw IPv6 headers in a frame

A frame may carry an IPv6 header that is not compressed, behind a dispatch byte of its own.  The
bytes behind the dispatch are the packet from its first byte on: the basic header and then the
payload, as much as the frame holds.
-/

namespace Whip6

open Lib

/-- Unpack the start of a packet from a frame: the number of bytes copied (zero is an error), the
packet, and whether its bytes were the same before.  The comparison is made only when it is asked
for; without it, and in case of an error, the answer is no. -/
def lowpanRawIpv6HeaderUnpack (frame : Ieee154DframeInfo) (hdrs : LowpanUnpackedFrameHeaders)
    (packet : Ipv6Packet) (wantIdentical : Bool) : ℕ × Ipv6Packet × Bool :=
  let payloadPtr := ieee154DFrameUnsafeGetPayloadPtr frame
  let payloadLen := (ieee154DFrameGetPayloadLen frame).toNat
  let tmp := hdrs.nextOffset
  if tmp ≥ payloadLen then (0, packet, false)
  else
    let payloadPtr := payloadPtr.drop tmp
    let numBytesInPacket := payloadLen - tmp
    if payloadPtr.getD 0 0 &&& LOWPAN_DISPATCH_MASK_IPV6 ≠ LOWPAN_DISPATCH_PATTERN_IPV6 then
      (0, packet, false)
    else
      let payloadPtr := payloadPtr.drop 1
      let numBytesInPacket := numBytesInPacket - 1
      if numBytesInPacket % 8 ≠ 0 ∧ hdrs.bitmap.frag ∧ hdrs.frag.size.toNat > numBytesInPacket then
        (0, packet, false)
      else
        let tmp := min numBytesInPacket 40
        let identicalHdr := wantIdentical && shortMemCmp payloadPtr packet.header.bytes tmp == 0
        let header := packet.header.memCpy payloadPtr 0 tmp
        let payloadPtr := payloadPtr.drop tmp
        let numBytesLeft := numBytesInPacket - tmp
        let identical := identicalHdr &&
          iovShortCompare packet.firstPayloadIov 0 (some payloadPtr) numBytesLeft == 0
        let r := iovShortWrite packet.firstPayloadIov 0 (some payloadPtr) numBytesLeft
        if r.1 ≠ numBytesLeft then (0, ⟨header, r.2⟩, false)
        else (numBytesInPacket, ⟨header, r.2⟩, identical)

/-- Pack the start of a packet into a frame: the number of bytes copied (zero is an error) and the
frame.  All that fits is copied, or, when more fragments must follow, a multiple of eight bytes. -/
def lowpanRawIpv6HeaderPack (frame : Ieee154DframeInfo) (hdrs : LowpanUnpackedFrameHeaders)
    (packet : Ipv6Packet) : ℕ × Ieee154DframeInfo :=
  let payloadPtr := ieee154DFrameUnsafeGetPayloadPtr frame
  let payloadLen := (ieee154DFrameMaxPayloadLen frame).toNat
  let payloadOff := hdrs.nextOffset
  if payloadOff ≥ payloadLen then (0, frame)
  else
    let payloadPtr := payloadPtr.set payloadOff LOWPAN_DISPATCH_PATTERN_IPV6
    let payloadOff := payloadOff + 1
    let payloadLen := payloadLen - payloadOff
    let payloadLen :=
      if hdrs.bitmap.frag ∧ hdrs.frag.size.toNat > payloadLen then payloadLen - payloadLen % 8
      else payloadLen
    if payloadLen = 0 then (0, frame.setPayload payloadPtr)
    else
      let numCopiedBytes := min 40 payloadLen
      let payloadPtr := shortMemCpy packet.header.bytes payloadPtr payloadOff numCopiedBytes
      let r := iovShortRead packet.firstPayloadIov 0
        (some (payloadPtr.drop (payloadOff + numCopiedBytes))) (payloadLen - numCopiedBytes)
      let payloadPtr := payloadPtr.take (payloadOff + numCopiedBytes) ++ r.2.getD []
      let numCopiedBytes := numCopiedBytes + r.1
      (numCopiedBytes, ieee154DFrameSetPayloadLen (frame.setPayload payloadPtr)
        (UInt8.ofNat (payloadOff + numCopiedBytes)))

end Whip6
