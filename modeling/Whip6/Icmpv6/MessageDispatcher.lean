import Whip6.Base.Queue
import Whip6.Icmpv6.MessageWrapping
import Whip6.Ipv6.Checksum
import Whip6.Ipv6.IncomingPath

/-!
# The dispatcher of incoming ICMPv6 messages

Packets with ICMPv6 messages wait in a queue.  A task reads the header of the message in the first
packet and has its checksum computed; when the checksum is right, and the handler of the message before
it has finished, the task takes the packet off the queue and passes the message to the handler of its
type.  So one message may be with its handler while the checksum of the next one is computed.
-/

namespace Whip6

/-- `icmpv6_message_header_t` -/
structure Icmpv6MessageHeader where
  type : UInt8
  code : UInt8
  checksum : UInt8 × UInt8
  deriving DecidableEq

/-- The header whose bytes these are. -/
def Icmpv6MessageHeader.ofBytes (bytes : List UInt8) : Icmpv6MessageHeader :=
  ⟨bytes.getD 0 0, bytes.getD 1 0, bytes.getD 2 0, bytes.getD 3 0⟩

def Icmpv6MessageHeader.toBytes (hdr : Icmpv6MessageHeader) : List UInt8 :=
  [hdr.type, hdr.code, hdr.checksum.1, hdr.checksum.2]

/-- What the dispatcher reads and writes of the processing state of a packet. -/
structure Icmpv6InPacket where
  packet : Ipv6Packet
  payloadIter : IovBlistIter
  payloadOffset : UInt16
  nextHeaderId : UInt8

namespace Icmpv6InPacket

def payload (inPacket : Icmpv6InPacket) : IovBlist := inPacket.packet.firstPayloadIov

def srcAddr (inPacket : Icmpv6InPacket) : List UInt8 :=
  ipv6BasicHeaderGetSrcAddr inPacket.packet.header

def dstAddr (inPacket : Icmpv6InPacket) : List UInt8 :=
  ipv6BasicHeaderGetDstAddr inPacket.packet.header

def payloadLength (inPacket : Icmpv6InPacket) : UInt16 :=
  ipv6BasicHeaderGetPayloadLength inPacket.packet.header

/-- `msgLength` -/
def msgLength (inPacket : Icmpv6InPacket) : UInt16 := inPacket.payloadLength - inPacket.payloadOffset

end Icmpv6InPacket

/-- What a handler gets with a message. -/
structure Icmpv6IncomingMessage where
  type : UInt8
  code : UInt8
  payloadIter : IovBlistIter
  payloadLen : UInt16
  srcAddr : List UInt8
  dstAddr : List UInt8

structure Icmpv6MessageDispatcher where
  inPacket : ℕ → Icmpv6InPacket
  processedPacketQueue : List ℕ
  packetReadyBit : Bool
  startProcessingTaskPosted : Bool
  msgHeader : Icmpv6MessageHeader
  msgChecksumIter : IovBlistIter
  msgChecksumComp : Ipv6ChecksumComputation
  /-- The number of bytes that the checksum computer was asked for, while it is at work. -/
  checksumRequest : Option ℕ
  dispatchedPktPtr : Option ℕ

/-- What happens at the interfaces.  `dropped` is a packet that leaves the queue without being shown to
a handler. -/
inductive Icmpv6ReceiverAct
  | received (p : ℕ) (inPacket : Icmpv6InPacket) (answer : ErrorT)
  | checksumming (p : ℕ)
  | checksummed (p : ℕ)
  | dropped (p : ℕ)
  | dispatched (p : ℕ) (message : Icmpv6IncomingMessage) (answer : ErrorT)
  | handlerFinished (p : ℕ) (status : ErrorT)
  | finished (p : ℕ) (status : ErrorT)

/-- What the handlers and the checksum computer answer to the task. -/
structure Icmpv6ReceiverAnswers where
  isCodeSupported : UInt8 → UInt8 → Bool
  startChecksumming : ErrorT
  startReceivingMessage : ErrorT

/-- A handler finishes with a packet as it leaves it in memory. -/
inductive Icmpv6ReceiverEvent
  | startReceivingIPv6Packet (p : ℕ) (inPacket : Icmpv6InPacket)
  | startProcessingICMPv6MessageTask (answers : Icmpv6ReceiverAnswers)
  | finishChecksumming
  | finishReceivingMessage (inPacket : Icmpv6InPacket) (status : ErrorT)

namespace Icmpv6MessageDispatcher

variable (queueSize : ℕ) (s : Icmpv6MessageDispatcher)

def setInPacket (p : ℕ) (inPacket : Icmpv6InPacket) : Icmpv6MessageDispatcher :=
  { s with inPacket := Function.update s.inPacket p inPacket }

def startReceivingIPv6Packet (p : ℕ) (inPacket : Icmpv6InPacket) :
    Icmpv6MessageDispatcher × List Icmpv6ReceiverAct :=
  if s.processedPacketQueue.length = queueSize then (s, [.received p inPacket ENOMEM])
  else
    ({ s.setInPacket p inPacket with
        startProcessingTaskPosted := s.startProcessingTaskPosted || s.processedPacketQueue.isEmpty
        processedPacketQueue := s.processedPacketQueue ++ [p] },
      [.received p inPacket SUCCESS])

def finishProcessingIPv6Packet (p : ℕ) (status : ErrorT) :
    Icmpv6MessageDispatcher × List Icmpv6ReceiverAct :=
  (s.setInPacket p
    { s.inPacket p with
      payloadIter := iovIteratorInvalidate
      nextHeaderId := WHIP6_IANA_IPV6_NO_NEXT_HEADER },
    [.finished p status])

def finishProcessingFirstQueuedICMPv6Message (status : ErrorT) :
    Icmpv6MessageDispatcher × List Icmpv6ReceiverAct :=
  match s.processedPacketQueue with
  | [] => (s, [])
  | p :: processedPacketQueue =>
    let r := { s with
      processedPacketQueue := processedPacketQueue
      startProcessingTaskPosted :=
        s.startProcessingTaskPosted || !processedPacketQueue.isEmpty }.finishProcessingIPv6Packet
          p status
    (r.1, .dropped p :: r.2)

/-- The first packet, whose checksum was right, goes to the handler. -/
def dispatchFirst (p : ℕ) (processedPacketQueue : List ℕ) (answer : ErrorT) :
    Icmpv6MessageDispatcher × List Icmpv6ReceiverAct :=
  let inPacket := s.inPacket p
  let s := { s with
    packetReadyBit := false
    processedPacketQueue := processedPacketQueue
    startProcessingTaskPosted := s.startProcessingTaskPosted || !processedPacketQueue.isEmpty }
  let dispatched := .dispatched p
    ⟨s.msgHeader.type, s.msgHeader.code, inPacket.payloadIter, inPacket.msgLength,
      inPacket.srcAddr, inPacket.dstAddr⟩ answer
  if answer = SUCCESS then ({ s with dispatchedPktPtr := some p }, [dispatched])
  else
    let r := s.finishProcessingIPv6Packet p FAIL
    (r.1, dispatched :: r.2)

/-- The header of the message in the first packet is read, and its checksum is to be computed.  The
length of the message is that from before the header. -/
def readFirst (p : ℕ) (answers : Icmpv6ReceiverAnswers) :
    Icmpv6MessageDispatcher × List Icmpv6ReceiverAct :=
  let inPacket := s.inPacket p
  let msgLength := inPacket.msgLength
  let r := iovIteratorReadAndMoveForward inPacket.payload inPacket.payloadIter
    (some s.msgHeader.toBytes) icmpv6MessageHeaderSize
  let s := { s.setInPacket p { inPacket with payloadIter := r.2.1 } with
    msgChecksumIter := inPacket.payloadIter
    msgHeader := .ofBytes (r.2.2.getD []) }
  if r.1 ≠ icmpv6MessageHeaderSize then s.finishProcessingFirstQueuedICMPv6Message FAIL
  else
    let s := s.setInPacket p
      { s.inPacket p with payloadOffset := inPacket.payloadOffset + icmpv6MessageHeaderSize.toUInt16 }
    if answers.isCodeSupported s.msgHeader.type s.msgHeader.code = false then
      s.finishProcessingFirstQueuedICMPv6Message FAIL
    else
      let s := { s with
        msgChecksumComp := (ipv6ChecksumComputationProvideIpv6PseudoHeader
          ipv6ChecksumComputationInit inPacket.srcAddr inPacket.dstAddr msgLength.toUInt32
          WHIP6_IANA_IPV6_ICMP).2 }
      if answers.startChecksumming ≠ SUCCESS then s.finishProcessingFirstQueuedICMPv6Message FAIL
      else ({ s with checksumRequest := some msgLength.toNat }, [.checksumming p])

def startProcessingICMPv6MessageTask (answers : Icmpv6ReceiverAnswers) :
    Icmpv6MessageDispatcher × List Icmpv6ReceiverAct :=
  let s := { s with startProcessingTaskPosted := false }
  match s.processedPacketQueue with
  | [] => (s, [])
  | p :: processedPacketQueue =>
    if s.packetReadyBit then s.dispatchFirst p processedPacketQueue answers.startReceivingMessage
    else s.readFirst p answers

/-- The checksum computer has provided the computation with the bytes of the first packet. -/
def finishChecksumming : Icmpv6MessageDispatcher × List Icmpv6ReceiverAct :=
  match s.checksumRequest, s.processedPacketQueue with
  | some numBytes, p :: _ =>
    let r := ipv6ChecksumComputationProvideWithIovAndAdvanceIovIterator s.msgChecksumComp
      (s.inPacket p).payload s.msgChecksumIter numBytes
    let s := { s with
      msgChecksumComp := r.2.2
      msgChecksumIter := r.2.1
      checksumRequest := none }
    if ipv6ChecksumComputationFinalize s.msgChecksumComp ≠ 0 then
      let r := s.finishProcessingFirstQueuedICMPv6Message FAIL
      (r.1, .checksummed p :: r.2)
    else
      ({ s with
          packetReadyBit := true
          startProcessingTaskPosted := s.startProcessingTaskPosted || s.dispatchedPktPtr.isNone },
        [.checksummed p])
  | _, _ => (s, [])

def finishReceivingMessage (inPacket : Icmpv6InPacket) (status : ErrorT) :
    Icmpv6MessageDispatcher × List Icmpv6ReceiverAct :=
  match s.dispatchedPktPtr with
  | none => (s, [])
  | some p =>
    let r := (s.setInPacket p inPacket).finishProcessingIPv6Packet p status
    ({ r.1 with
        dispatchedPktPtr := none
        startProcessingTaskPosted := r.1.startProcessingTaskPosted || r.1.packetReadyBit },
      .handlerFinished p status :: r.2)

def step : Icmpv6ReceiverEvent → Icmpv6MessageDispatcher × List Icmpv6ReceiverAct
  | .startReceivingIPv6Packet p inPacket => s.startReceivingIPv6Packet queueSize p inPacket
  | .startProcessingICMPv6MessageTask answers => s.startProcessingICMPv6MessageTask answers
  | .finishChecksumming => s.finishChecksumming
  | .finishReceivingMessage inPacket status => s.finishReceivingMessage inPacket status

/-- The dispatcher before any packet has come in. -/
def initial (inPacket : ℕ → Icmpv6InPacket) : Icmpv6MessageDispatcher where
  inPacket := inPacket
  processedPacketQueue := []
  packetReadyBit := false
  startProcessingTaskPosted := false
  msgHeader := ⟨0, 0, 0, 0⟩
  msgChecksumIter := iovIteratorInvalidate
  msgChecksumComp := ipv6ChecksumComputationInit
  checksumRequest := none
  dispatchedPktPtr := none

end Icmpv6MessageDispatcher

end Whip6
