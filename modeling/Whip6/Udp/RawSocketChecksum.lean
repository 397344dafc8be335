import Whip6.Base.IoVecRefinement
import Whip6.Ipv6.Checksum
import Whip6.Udp.Header

/-!
# The checksum of a raw UDP socket

The manager of raw sockets computes the checksum of an outgoing datagram in slices, one a task,
and verifies the one of an incoming datagram in slices of its own.  A step below is what one run
of the task does for one socket while a checksum is being computed.  The two computations cover
the same string, except that the sender sees a zero word where the receiver sees the checksum.
-/

namespace Whip6

open Lib

/-! ## The sender -/

/-- What the task has to do for an outgoing packet next. -/
inductive UdpOutAction
  | waitingForSomething
  | startHandlingPacket
  | startComputingChecksum
  | continueComputingChecksum
  | startRoutingPacket
  | completeHandlingPacket
  | terminateHandlingPacket
  deriving DecidableEq, Repr

/-- The state of an outgoing packet.  Its UDP header is the first element of the packet's chain. -/
structure UdpOutState where
  packet : Ipv6Packet
  csComp : Ipv6ChecksumComputation
  iovIter : IovBlistIter
  iovProcessed : ℕ
  iovTotal : ℕ
  action : UdpOutAction

/-- The packet with a checksum written into its UDP header. -/
def Ipv6Packet.setUdpChecksum (packet : Ipv6Packet) (cs : UInt16) : Ipv6Packet :=
  { packet with
    firstPayloadIov := packet.firstPayloadIov.modify 0 fun hdr => udpHeaderSetChecksum hdr cs }

def initChecksumComputationForOutPacket (out : UdpOutState) : UdpOutState :=
  let ipv6Hdr := out.packet.header
  let payloadLen := (ipv6BasicHeaderGetPayloadLength ipv6Hdr).toNat
  { out with
    csComp := (ipv6ChecksumComputationProvideIpv6PseudoHeader ipv6ChecksumComputationInit
      (ipv6BasicHeaderGetSrcAddr ipv6Hdr) (ipv6BasicHeaderGetDstAddr ipv6Hdr)
      (UInt32.ofNat payloadLen) WHIP6_IANA_IPV6_UDP).2
    iovIter := iovIteratorInitToBeginning out.packet.firstPayloadIov
    iovProcessed := 0
    iovTotal := payloadLen
    action := .continueComputingChecksum }

def contChecksumComputationForOutPacket (maxBytesProcessedPerTask : ℕ) (out : UdpOutState) :
    UdpOutState :=
  if out.iovProcessed ≥ out.iovTotal then
    let checksum := ipv6ChecksumComputationFinalize out.csComp
    let checksum := if checksum = 0 then 0xFFFF else checksum
    { out with packet := out.packet.setUdpChecksum checksum, action := .startRoutingPacket }
  else
    let numBytes := min (out.iovTotal - out.iovProcessed) maxBytesProcessedPerTask
    let r := ipv6ChecksumComputationProvideWithIovAndAdvanceIovIterator out.csComp
      out.packet.firstPayloadIov out.iovIter numBytes
    if r.1 ≠ numBytes then
      { out with csComp := r.2.2, iovIter := r.2.1, action := .terminateHandlingPacket }
    else
      { out with
        csComp := r.2.2, iovIter := r.2.1, iovProcessed := out.iovProcessed + numBytes }

/-- One run of the task, as far as the checksum is concerned. -/
def handleOutgoingPacketTask (maxBytesProcessedPerTask : ℕ) (out : UdpOutState) : UdpOutState :=
  match out.action with
  | .startComputingChecksum => initChecksumComputationForOutPacket out
  | .continueComputingChecksum => contChecksumComputationForOutPacket maxBytesProcessedPerTask out
  | _ => out

/-! ## The receiver -/

/-- The state of an incoming packet on its way up the stack. -/
structure Ipv6InPacketProcessingState where
  packet : Ipv6Packet
  nextHeaderId : UInt8
  destinedAtIface : Bool
  payloadOffset : ℕ
  payloadIter : IovBlistIter

/-- The state of an incoming datagram at its socket. -/
structure UdpInState where
  ipv6State : Ipv6InPacketProcessingState
  csComp : Ipv6ChecksumComputation
  csValue : UInt16
  iovIter : IovBlistIter
  iovProcessed : ℕ
  iovTotal : ℕ
  srcAddr : List UInt8
  srcPort : UInt16

/-- Accept an incoming packet for a socket.  `socketTakes` says whether there is a socket for a
destination port that is free and not connected to someone else than the given source. -/
def startReceivingIPv6Packet (socketTakes : UInt16 → UInt16 → List UInt8 → Bool)
    (inPacket : Ipv6InPacketProcessingState) : Option UdpInState :=
  let payloadLen := (ipv6BasicHeaderGetPayloadLength inPacket.packet.header).toNat
  if inPacket.nextHeaderId ≠ WHIP6_IANA_IPV6_UDP then none
  else if ¬ inPacket.destinedAtIface then none
  else if payloadLen ≤ inPacket.payloadOffset ∨ payloadLen - inPacket.payloadOffset < 8 then none
  else
    let r := iovIteratorReadAndMoveForward inPacket.packet.firstPayloadIov inPacket.payloadIter
      (some (List.replicate 8 0)) 8
    let udpHdr := r.2.2.getD []
    let srcAddr := ipv6BasicHeaderGetSrcAddr inPacket.packet.header
    let iovTotal := (udpHeaderGetLength udpHdr).toNat
    if r.1 ≠ 8 then none
    else if ¬ socketTakes (udpHeaderGetDstPort udpHdr) (udpHeaderGetSrcPort udpHdr) srcAddr then none
    else if iovTotal < 8 ∨ iovTotal > payloadLen then none
    else
      some
        { ipv6State := inPacket
          csComp := ipv6ChecksumComputationInit
          csValue := udpHeaderGetChecksum udpHdr
          iovIter := iovIteratorInvalidate
          iovProcessed := 0
          iovTotal := iovTotal
          srcAddr := srcAddr
          srcPort := udpHeaderGetSrcPort udpHdr }

/-- The verification of a datagram: under way, ended well, or given up. -/
inductive UdpInStatus
  | checking (inState : UdpInState)
  | intact (inState : UdpInState)
  | failed

def initChecksumComputationForInPacket (inState : UdpInState) : UdpInStatus :=
  let ipv6Hdr := inState.ipv6State.packet.header
  let csComp := (ipv6ChecksumComputationProvideIpv6PseudoHeader ipv6ChecksumComputationInit
    (ipv6BasicHeaderGetSrcAddr ipv6Hdr) (ipv6BasicHeaderGetDstAddr ipv6Hdr)
    (UInt32.ofNat inState.iovTotal) WHIP6_IANA_IPV6_UDP).2
  let r := ipv6ChecksumComputationProvideWithIovAndAdvanceIovIterator csComp
    inState.ipv6State.packet.firstPayloadIov inState.ipv6State.payloadIter 8
  if r.1 = 8 then .checking { inState with csComp := r.2.2, iovIter := r.2.1, iovProcessed := 8 }
  else .failed

def contChecksumComputationForInPacket (maxBytesProcessedPerTask : ℕ) (inState : UdpInState)
    (numRequested : ℕ) : UdpInStatus :=
  let numRequested := min numRequested maxBytesProcessedPerTask
  let r := ipv6ChecksumComputationProvideWithIovAndAdvanceIovIterator inState.csComp
    inState.ipv6State.packet.firstPayloadIov inState.iovIter numRequested
  if r.1 = numRequested then
    .checking
      { inState with csComp := r.2.2, iovIter := r.2.1, iovProcessed := inState.iovProcessed + r.1 }
  else .failed

/-- The datagram is intact when the checksum is zero and its header can be stripped. -/
def endChecksumComputationForInPacket (inState : UdpInState) : UdpInStatus :=
  if ipv6ChecksumComputationFinalize inState.csComp ≠ 0 then .failed
  else if (iovIteratorMoveForward inState.ipv6State.packet.firstPayloadIov
      inState.ipv6State.payloadIter 8).1 ≠ 8 then .failed
  else .intact inState

/-- One run of the task for a datagram that is being verified. -/
def handleIncomingPacketTask (maxBytesProcessedPerTask : ℕ) (status : UdpInStatus) : UdpInStatus :=
  match status with
  | .checking inState =>
    if inState.iovProcessed = 0 then initChecksumComputationForInPacket inState
    else if inState.iovProcessed < inState.iovTotal then
      contChecksumComputationForInPacket maxBytesProcessedPerTask inState
        (inState.iovTotal - inState.iovProcessed)
    else endChecksumComputationForInPacket inState
  | status => status

end Whip6
