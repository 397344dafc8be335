import Whip6.Base.IoVecRefinement
import Whip6.Ipv6.Address
import Whip6.Ipv6.IncomingPath

/-!
# Processing a source routing header

A routing header is fetched into the scratchpad of the processor; its segments follow in the
payload of the packet, and the iterator then points to the first of them.  Processing takes the
address of the next segment for the destination of the packet and counts the segments left down.

The number of segments is computed in `int`, which is wider than a word, and kept in a byte.  The
two uses of the scratchpad, for the header and for an ICMPv6 message, do not overlap in time: no
function reads the header after it has written the other part.
-/

namespace Whip6

open Lib

def WHIP6_IPV6_EXTENSION_HEADER_SOURCE_ROUTE_SUPPORTED_ROUTING_TYPE : UInt8 := 3

def WHIP6_ICMPV6_MESSAGE_TYPE_PARAMETER_PROBLEM_CODE_ERRONEOUS_HEADER_FIELD : UInt8 := 0

def PRESENT_NODE_IS_DESTINATION : UInt8 := (1 : UInt8) <<< 7

def DISABLE_ICMPV6_ERROR_MESSAGES : UInt8 := (1 : UInt8) <<< 6

def ACTION_CONTINUE_PROCESSING_PACKET : UInt8 := 0

def ACTION_FINISH_PROCESSING_AND_FORWARD_PACKET : UInt8 := 1

def ACTION_DROP_PACKET : UInt8 := 3

def ACTION_MASK : UInt8 := 0x03

/-! ## The header -/

/-- `ipv6_extension_header_srh_t` -/
structure SourceRouteHdr where
  nextHdr : UInt8
  hdrExtLen : UInt8
  routingType : UInt8
  segmentsLeft : UInt8
  cmprX : UInt8
  padAndReserved : Vector UInt8 3
  deriving DecidableEq

/-- `sizeof(ipv6_extension_header_srh_t)` -/
def sourceRouteHdrSize : ℕ := 8

/-- The header whose bytes these are. -/
def SourceRouteHdr.ofBytes (bytes : List UInt8) : SourceRouteHdr :=
  ⟨bytes.getD 0 0, bytes.getD 1 0, bytes.getD 2 0, bytes.getD 3 0, bytes.getD 4 0,
    #v[bytes.getD 5 0, bytes.getD 6 0, bytes.getD 7 0]⟩

def SourceRouteHdr.toBytes (hdr : SourceRouteHdr) : List UInt8 :=
  [hdr.nextHdr, hdr.hdrExtLen, hdr.routingType, hdr.segmentsLeft, hdr.cmprX] ++
    hdr.padAndReserved.toList

def ipv6ExtensionHeaderSourceRouteGetHeaderLength (hdr : SourceRouteHdr) : UInt16 :=
  hdr.hdrExtLen.toUInt16 <<< 3

def ipv6ExtensionHeaderSourceRouteGetCmprI (hdr : SourceRouteHdr) : UInt8 := hdr.cmprX >>> 4

def ipv6ExtensionHeaderSourceRouteGetCmprE (hdr : SourceRouteHdr) : UInt8 := hdr.cmprX &&& 0x0f

def ipv6ExtensionHeaderSourceRouteGetPad (hdr : SourceRouteHdr) : UInt8 :=
  hdr.padAndReserved[0] >>> 4

def ipv6ExtensionHeaderSourceRouteCheckReserved (hdr : SourceRouteHdr) : Bool :=
  hdr.padAndReserved[0] &&& 0x0f != 0x00 || hdr.padAndReserved[1] != 0x00 ||
    hdr.padAndReserved[2] != 0x00

/-- `numSegments` of the code: the quotient of C rounds toward zero, and a byte is kept of it. -/
def ipv6ExtensionHeaderSourceRouteNumSegments (srHdr : SourceRouteHdr) : UInt8 :=
  let srHdrLen : ℤ := (ipv6ExtensionHeaderSourceRouteGetHeaderLength srHdr).toNat
  let pad : ℤ := (ipv6ExtensionHeaderSourceRouteGetPad srHdr).toNat
  let cmprE : ℤ := (ipv6ExtensionHeaderSourceRouteGetCmprE srHdr).toNat
  let cmprI : ℤ := (ipv6ExtensionHeaderSourceRouteGetCmprI srHdr).toNat
  UInt8.ofInt ((srHdrLen - pad - (16 - cmprE)).tdiv (16 - cmprI) + 1)

/-! ## The state of the processor -/

/-- The ICMPv6 part of the scratchpad. -/
structure Icmpv6PacketBuilder where
  iter : IovBlistIter
  packet : Option Ipv6Packet
  nextHdrFieldPointer : UInt32

structure Ipv6PacketProcessingState where
  iter : IovBlistIter
  processedPacket : Ipv6Packet
  offset : UInt16
  flagsAndAction : UInt8
  nextHeader : UInt8
  sourceRouteHdr : SourceRouteHdr
  icmpv6 : Icmpv6PacketBuilder

/-- The builder of a parameter problem message: from the two addresses, the size of the quoted
part, the code and the pointer, the packet and an iterator over it. -/
abbrev ParameterProblemCreator :=
  List UInt8 → List UInt8 → UInt16 → UInt8 → UInt32 → Option Ipv6Packet × IovBlistIter

namespace Ipv6PacketProcessingState

/-- The payload of the packet. -/
def payload (state : Ipv6PacketProcessingState) : IovBlist := state.processedPacket.firstPayloadIov

def dstAddr (state : Ipv6PacketProcessingState) : List UInt8 :=
  ipv6BasicHeaderGetDstAddr state.processedPacket.header

/-- The action of the packet, as the processor left it. -/
def action (state : Ipv6PacketProcessingState) : UInt8 := state.flagsAndAction &&& ACTION_MASK

/-- `state->flagsAndAction &= ~ACTION_MASK` -/
def clearAction (state : Ipv6PacketProcessingState) : Ipv6PacketProcessingState :=
  { state with flagsAndAction := state.flagsAndAction &&& ~~~ACTION_MASK }

/-- The packet is designated for an action, without any ICMPv6 message. -/
def designate (action nextHeader : UInt8) (state : Ipv6PacketProcessingState) :
    Ipv6PacketProcessingState :=
  { state with
    flagsAndAction := state.flagsAndAction ||| action
    nextHeader := nextHeader
    icmpv6 := { state.icmpv6 with packet := none } }

/-- `FAILURE_ROLLBACK_0` -/
def drop (state : Ipv6PacketProcessingState) : Ipv6PacketProcessingState :=
  state.designate ACTION_DROP_PACKET WHIP6_IANA_IPV6_NO_NEXT_HEADER

def forward (state : Ipv6PacketProcessingState) : Ipv6PacketProcessingState :=
  state.designate ACTION_FINISH_PROCESSING_AND_FORWARD_PACKET WHIP6_IANA_IPV6_NO_NEXT_HEADER

end Ipv6PacketProcessingState

open Ipv6PacketProcessingState

section Processing

variable (createPacketProto : ParameterProblemCreator)

/-- `ipv6ExtensionHeaderSourceRouteFetchHeaderIncoming` -/
def ipv6ExtensionHeaderSourceRouteFetchHeaderIncoming (state : Ipv6PacketProcessingState) :
    Ipv6PacketProcessingState :=
  let state := state.clearAction
  let r := iovIteratorReadAndMoveForward state.payload state.iter
    (some state.sourceRouteHdr.toBytes) sourceRouteHdrSize
  let state := { state with
    iter := r.2.1
    sourceRouteHdr := SourceRouteHdr.ofBytes (r.2.2.getD []) }
  if r.1 ≠ sourceRouteHdrSize ∨ iovIteratorIsValid state.iter = false ∨
      ipv6ExtensionHeaderSourceRouteCheckReserved state.sourceRouteHdr then
    state.drop
  else { state with offset := state.offset + sourceRouteHdrSize.toUInt16 }

/-- The packet is dropped with a message about the header field at `fieldOffset`, unless messages
are disabled. -/
def dropWithParameterProblem (fieldOffset : UInt16) (state : Ipv6PacketProcessingState) :
    Ipv6PacketProcessingState :=
  let state := state.drop
  if state.flagsAndAction &&& DISABLE_ICMPV6_ERROR_MESSAGES = 0 then
    let icmpv6Size := state.offset
    let icmpv6Pointer := icmpv6Size - (sourceRouteHdrSize.toUInt16 - fieldOffset)
    let r := createPacketProto state.dstAddr
      (ipv6BasicHeaderGetSrcAddr state.processedPacket.header) icmpv6Size
      WHIP6_ICMPV6_MESSAGE_TYPE_PARAMETER_PROBLEM_CODE_ERRONEOUS_HEADER_FIELD
      icmpv6Pointer.toUInt32
    { state with icmpv6 := { state.icmpv6 with packet := r.1, iter := r.2 } }
  else state

/-- `…SourceRouteCheckIfPacketShouldBeProcessedLocallyOrDesignateItForForwarding` -/
def checkIfPacketShouldBeProcessedLocallyOrDesignateItForForwarding
    (state : Ipv6PacketProcessingState) : UInt8 × Ipv6PacketProcessingState :=
  if state.flagsAndAction &&& PRESENT_NODE_IS_DESTINATION ≠ 0 then (0, state)
  else (1, state.forward)

/-- `…SourceRouteSkipAllSegmentsAndDesignatePacketForFurtherProcessing` -/
def skipAllSegmentsAndDesignatePacketForFurtherProcessing (state : Ipv6PacketProcessingState)
    (headerLen : UInt16) : UInt8 × Ipv6PacketProcessingState :=
  let r := iovIteratorMoveForward state.payload state.iter headerLen.toNat
  let state := { state with iter := r.2 }
  if r.1 ≠ headerLen.toNat then (1, state.drop)
  else
    let state := state.designate ACTION_CONTINUE_PROCESSING_PACKET state.sourceRouteHdr.nextHdr
    (0, { state with
      icmpv6 := { state.icmpv6 with
        nextHdrFieldPointer := state.offset.toUInt32 - sourceRouteHdrSize.toUInt32 }
      offset := state.offset + headerLen })

/-- `…SourceRouteCheckIfRoutingMethodIsCorrectOrDesignatePacketForDropping` -/
def checkIfRoutingMethodIsCorrectOrDesignatePacketForDropping
    (state : Ipv6PacketProcessingState) : UInt8 × Ipv6PacketProcessingState :=
  if state.sourceRouteHdr.routingType =
      WHIP6_IPV6_EXTENSION_HEADER_SOURCE_ROUTE_SUPPORTED_ROUTING_TYPE then (0, state)
  else (1, dropWithParameterProblem createPacketProto 2 state)

/-- `…SourceRouteCheckIfNumSegmentsIsCorrectOrDesignatePacketForDropping` -/
def checkIfNumSegmentsIsCorrectOrDesignatePacketForDropping (state : Ipv6PacketProcessingState)
    (segmentsLeft segmentsTotal : UInt8) : UInt8 × Ipv6PacketProcessingState :=
  if segmentsLeft ≤ segmentsTotal then (0, state)
  else (1, dropWithParameterProblem createPacketProto 3 state)

/-- `…SourceRouteUpdateSegmentsLeftOrDesignatePacketForDropping`.  The byte that is overwritten is
the first one of the element the field is found in. -/
def updateSegmentsLeftOrDesignatePacketForDropping (state : Ipv6PacketProcessingState)
    (segmentsLeft : UInt8) : UInt8 × Ipv6PacketProcessingState :=
  let moveBackOffset := sourceRouteHdrSize - 3
  let r := iovIteratorMoveBackward state.payload state.iter moveBackOffset
  if r.1 ≠ moveBackOffset then (1, state.drop)
  else
    match r.2.currElem with
    | none => (0, state)
    | some currElem =>
      (0, { state with
        processedPacket := { state.processedPacket with
          firstPayloadIov := iovSetByte state.payload currElem 0 segmentsLeft } })

/-- `numOctetsToElide` of a segment; the last one has its own. -/
def numOctetsToElide (srHdr : SourceRouteHdr) (segmentIndex numSegments : UInt8) : UInt8 :=
  if (segmentIndex.toNat : ℤ) = numSegments.toNat - 1 then
    ipv6ExtensionHeaderSourceRouteGetCmprE srHdr
  else ipv6ExtensionHeaderSourceRouteGetCmprI srHdr

/-- `segmentOffset` -/
def segmentOffset (srHdr : SourceRouteHdr) (segmentIndex : UInt8) : UInt16 :=
  segmentIndex.toUInt16 * (16 - ipv6ExtensionHeaderSourceRouteGetCmprI srHdr).toUInt16

/-- `…SourceRouteSetSegmentAddrAsDstAddrAndDesignatePacketForForwarding` -/
def setSegmentAddrAsDstAddrAndDesignatePacketForForwarding (state : Ipv6PacketProcessingState)
    (segmentIndex numSegments : UInt8) (headerLen : UInt16) : UInt8 × Ipv6PacketProcessingState :=
  let srHdr := state.sourceRouteHdr
  if ipv6AddrIsMulticast state.dstAddr then (1, state.drop)
  else
    let segmentOffset := segmentOffset srHdr segmentIndex
    let r := iovIteratorMoveForward state.payload state.iter segmentOffset.toNat
    let state := { state with iter := r.2 }
    if r.1 ≠ segmentOffset.toNat then (1, state.drop)
    else
      let state := { state with offset := state.offset + segmentOffset }
      let headerLen := headerLen - segmentOffset
      let numOctetsToElide := numOctetsToElide srHdr segmentIndex numSegments
      let numOctetsToRead := 16 - numOctetsToElide
      let r := iovIteratorReadAndMoveForward state.payload state.iter
        (some (state.dstAddr.drop numOctetsToElide.toNat)) numOctetsToRead.toNat
      let state := { state with
        iter := r.2.1
        processedPacket := { state.processedPacket with
          header := state.processedPacket.header.overwrite (24 + numOctetsToElide.toNat)
            (r.2.2.getD []) } }
      if r.1 ≠ numOctetsToRead.toNat then (1, state.drop)
      else
        let state := { state with offset := state.offset + numOctetsToRead.toUInt16 }
        let headerLen := headerLen - numOctetsToRead.toUInt16
        if ipv6AddrIsMulticast state.dstAddr then (1, state.drop)
        else
          let r := iovIteratorMoveForward state.payload state.iter headerLen.toNat
          let state := { state with iter := r.2 }
          if r.1 ≠ headerLen.toNat then (1, state.drop)
          else (0, { state with offset := state.offset + headerLen }.forward)

/-- `ipv6ExtensionHeaderSourceRouteProcessHeaderIncoming` -/
def ipv6ExtensionHeaderSourceRouteProcessHeaderIncoming (state : Ipv6PacketProcessingState) :
    Ipv6PacketProcessingState :=
  let state := state.clearAction
  let local' := checkIfPacketShouldBeProcessedLocallyOrDesignateItForForwarding state
  if local'.1 ≠ 0 then local'.2
  else
    let state := local'.2
    let srHdr := state.sourceRouteHdr
    let srHdrLen := ipv6ExtensionHeaderSourceRouteGetHeaderLength srHdr
    let segmentsLeft := srHdr.segmentsLeft
    if segmentsLeft = 0 then
      (skipAllSegmentsAndDesignatePacketForFurtherProcessing state srHdrLen).2
    else
      let method := checkIfRoutingMethodIsCorrectOrDesignatePacketForDropping createPacketProto
        state
      if method.1 ≠ 0 then method.2
      else
        let state := method.2
        let numSegments := ipv6ExtensionHeaderSourceRouteNumSegments srHdr
        let segments := checkIfNumSegmentsIsCorrectOrDesignatePacketForDropping createPacketProto
          state segmentsLeft numSegments
        if segments.1 ≠ 0 then segments.2
        else
          let segmentIndex := numSegments - segmentsLeft
          let update := updateSegmentsLeftOrDesignatePacketForDropping segments.2
            (segmentsLeft - 1)
          if update.1 ≠ 0 then update.2
          else
            (setSegmentAddrAsDstAddrAndDesignatePacketForForwarding update.2 segmentIndex
              numSegments srHdrLen).2

end Processing

end Whip6
