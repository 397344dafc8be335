import Whip6.Base.Queue
import Whip6.Icmpv6.MessageWrapping
import Whip6.Ipv6.Checksum

/-!
# The forwarder of outgoing ICMPv6 messages

Clients hand messages to the forwarder, which queues the clients.  The message of the first client is
put into a packet, gets a source address, if it has none, and a checksum, and is handed to the sender
below; a task then takes it out of the packet again and tells the client.  A client whose message is
behind the first one may take it back.
-/

namespace Whip6

structure Icmpv6ClientState where
  payloadIter : Option ℕ
  payloadLen : ℕ
  type : UInt8
  code : UInt8
  checksum : UInt8 × UInt8
  srcAddrOrNull : Option Ipv6Addr
  dstAddr : Ipv6Addr

/-- The forwarder, with the memory of the vectors of its clients. -/
structure Icmpv6MessageForwarder where
  clientData : ℕ → Icmpv6ClientState
  activeClientQueue : List ℕ
  packet : Option Icmpv6OutPacket
  checksumComp : Ipv6ChecksumComputation
  handlingStatus : ErrorT
  handleClientTaskPosted : Bool
  mem : IovMemory

/-- A message that a client hands over, with the memory in which it lies. -/
structure Icmpv6Message where
  payloadIter : ℕ
  type : UInt8
  mem : IovMemory

/-- The acts; those in which a client gets its vectors back show the memory. -/
inductive Icmpv6SenderAct
  | accepted (clientId : ℕ) (message : Icmpv6Message)
  | refused (clientId : ℕ) (status : ErrorT)
  | stopped (clientId payloadIter : ℕ) (mem : IovMemory)
  | finished (clientId : ℕ) (payloadIter : Option ℕ) (type : UInt8) (status : ErrorT)
    (mem : IovMemory)
  /-- The three layers below get the message of a client, and give it back. -/
  | selecting (clientId : ℕ)
  | selected
  | checksumming (clientId numBytes : ℕ)
  | checksummed
  | sending (clientId : ℕ) (packet : Icmpv6OutPacket)
  | sent

/-- The events.  The answers of the layers below come with the event in which they are asked. -/
inductive Icmpv6SenderEvent
  | startSendingMessage (clientId : ℕ) (msgType msgCode : UInt8) (payloadIter payloadLen : ℕ)
    (srcAddrOrNull : Option Ipv6Addr) (dstAddr : Ipv6Addr)
  | stopSendingMessage (clientId : ℕ) (msgType : UInt8) (payloadIter : ℕ)
  | handleClientTask (alloc : Option (ℕ × Ipv6BasicHeader)) (selecting checksumming : ErrorT)
  /-- Source address selection ends, with the header that it leaves. -/
  | finishSelectingSourceAddress (header : Ipv6BasicHeader) (status checksumming : ErrorT)
  | finishChecksumming (checksumComp : Ipv6ChecksumComputation) (sending : ErrorT)
  /-- Sending ends, with the header that it leaves. -/
  | finishSendingIPv6Packet (header : Ipv6BasicHeader) (status : ErrorT)
  /-- The clients write to their own memory. -/
  | write (mem : IovMemory)

namespace Icmpv6MessageForwarder

variable (numClients memorySize : ℕ) (s : Icmpv6MessageForwarder)

def setClient (clientId : ℕ) (client : Icmpv6ClientState) : Icmpv6MessageForwarder :=
  { s with clientData := Function.update s.clientData clientId client }

def startSendingMessage (clientId : ℕ) (msgType msgCode : UInt8) (payloadIter payloadLen : ℕ)
    (srcAddrOrNull : Option Ipv6Addr) (dstAddr : Ipv6Addr) :
    ErrorT × Icmpv6MessageForwarder × List Icmpv6SenderAct :=
  if s.activeClientQueue.length = numClients then (ENOMEM, s, [.refused clientId ENOMEM])
  else if (s.clientData clientId).payloadIter ≠ none then (EBUSY, s, [.refused clientId EBUSY])
  else
    let client := ⟨some payloadIter, payloadLen, msgType, msgCode, (0, 0), srcAddrOrNull, dstAddr⟩
    (SUCCESS,
      { s.setClient clientId client with
        handleClientTaskPosted := s.handleClientTaskPosted || s.activeClientQueue.isEmpty
        activeClientQueue := s.activeClientQueue ++ [clientId] },
      [.accepted clientId ⟨payloadIter, msgType, s.mem⟩])

/-- Checksumming starts for the first client, over its packet. -/
def initChecksumComputation (clientId : ℕ) (packet : Icmpv6OutPacket) (answer : ErrorT) :
    Icmpv6MessageForwarder × List Icmpv6SenderAct :=
  let msgLen := ipv6BasicHeaderGetPayloadLength packet.header
  let r := ipv6ChecksumComputationProvideIpv6PseudoHeader ipv6ChecksumComputationInit
    (ipv6BasicHeaderGetSrcAddr packet.header) (ipv6BasicHeaderGetDstAddr packet.header)
    msgLen.toUInt32 WHIP6_IANA_IPV6_ICMP
  ({ s with checksumComp := r.2 },
    if answer = SUCCESS then [.checksumming clientId msgLen.toNat] else [])

/-- The message is taken out of its packet. -/
def finishProcessingPacket (client : Icmpv6ClientState) : Icmpv6MessageForwarder :=
  match client.payloadIter, s.packet with
  | some payloadIter, some packet =>
    let r := icmpv6UnwrapDataFromOutgoingIpv6PacketCarryingIcmpMessage s.mem payloadIter
      client.payloadLen packet
    { s with mem := r.2, packet := none }
  | _, _ => { s with packet := none }

def finishHandlingFirstClient (status : ErrorT) :
    Icmpv6MessageForwarder × List Icmpv6SenderAct :=
  match s.activeClientQueue with
  | [] => (s, [])
  | clientId :: activeClientQueue =>
    let client := s.clientData clientId
    ({ s.setClient clientId { client with payloadIter := none } with
        activeClientQueue := activeClientQueue
        handleClientTaskPosted := s.handleClientTaskPosted || !activeClientQueue.isEmpty },
      [.finished clientId client.payloadIter client.type status s.mem])

def handleClientTask (alloc : Option (ℕ × Ipv6BasicHeader)) (selecting checksumming : ErrorT) :
    Icmpv6MessageForwarder × List Icmpv6SenderAct :=
  let s := { s with handleClientTaskPosted := false }
  match s.activeClientQueue with
  | [] => (s, [])
  | clientId :: _ =>
    let client := s.clientData clientId
    match s.packet, client.payloadIter with
    | none, some payloadIter =>
      let r := icmpv6WrapDataIntoOutgoingIpv6PacketCarryingIcmpMessage memorySize s.mem payloadIter
        client.payloadLen (.icmpv6Hdr clientId) client.srcAddrOrNull client.dstAddr alloc
      let s := { s with mem := r.2, packet := r.1 }
      match r.1 with
      | none => s.finishHandlingFirstClient ENOMEM
      | some packet =>
        if ipv6AddrIsUndefined (ipv6BasicHeaderGetSrcAddr packet.header) then
          if selecting ≠ SUCCESS then
            (s.finishProcessingPacket client).finishHandlingFirstClient selecting
          else (s, [.selecting clientId])
        else
          let r := s.initChecksumComputation clientId packet checksumming
          if checksumming ≠ SUCCESS then
            (r.1.finishProcessingPacket client).finishHandlingFirstClient FAIL
          else r
    | none, none => (s, [])
    | some _, _ => (s.finishProcessingPacket client).finishHandlingFirstClient s.handlingStatus

def finishSelectingSourceAddress (header : Ipv6BasicHeader) (status checksumming : ErrorT) :
    Icmpv6MessageForwarder × List Icmpv6SenderAct :=
  match s.activeClientQueue, s.packet with
  | clientId :: _, some packet =>
    let packet := { packet with header := header }
    let s := { s with packet := some packet }
    if status ≠ SUCCESS then
      ({ s with handlingStatus := status, handleClientTaskPosted := true }, [.selected])
    else
      let r := s.initChecksumComputation clientId packet checksumming
      if checksumming ≠ SUCCESS then
        ({ r.1 with handlingStatus := FAIL, handleClientTaskPosted := true }, .selected :: r.2)
      else (r.1, .selected :: r.2)
  | _, _ => (s, [.selected])

def finishChecksumming (checksumComp : Ipv6ChecksumComputation) (sending : ErrorT) :
    Icmpv6MessageForwarder × List Icmpv6SenderAct :=
  match s.activeClientQueue, s.packet with
  | clientId :: _, some packet =>
    let checksum := ipv6ChecksumComputationFinalize checksumComp
    let client := { s.clientData clientId with
      checksum := ((checksum >>> 8).toUInt8, checksum.toUInt8) }
    let s := { s.setClient clientId client with
      checksumComp := checksumComp
      handlingStatus := sending }
    if sending ≠ SUCCESS then ({ s with handleClientTaskPosted := true }, [.checksummed])
    else (s, [.checksummed, .sending clientId packet])
  | _, _ => (s, [.checksummed])

def finishSendingIPv6Packet (header : Ipv6BasicHeader) (status : ErrorT) :
    Icmpv6MessageForwarder × List Icmpv6SenderAct :=
  ({ s with
      packet := s.packet.map fun packet => { packet with header := header }
      handlingStatus := status
      handleClientTaskPosted := true },
    [.sent])

/-- Where the queue is empty, its first element is stale, and the client is not found either way. -/
def stopSendingMessage (clientId : ℕ) (msgType : UInt8) (payloadIter : ℕ) :
    ErrorT × Icmpv6MessageForwarder × List Icmpv6SenderAct :=
  let client := s.clientData clientId
  if client.payloadIter ≠ some payloadIter then (EINVAL, s, [])
  else if client.type ≠ msgType then (EINVAL, s, [])
  else if s.activeClientQueue.head? = some clientId then (EBUSY, s, [])
  else
    match s.activeClientQueue.tail.idxOf? clientId with
    | some i =>
      (SUCCESS, { s with activeClientQueue := s.activeClientQueue.eraseIdx (i + 1) },
        [.stopped clientId payloadIter s.mem])
    | none => (ESTATE, s, [])

def step : Icmpv6SenderEvent → Icmpv6MessageForwarder × List Icmpv6SenderAct
  | .startSendingMessage clientId msgType msgCode payloadIter payloadLen srcAddrOrNull dstAddr =>
    (s.startSendingMessage numClients clientId msgType msgCode payloadIter payloadLen srcAddrOrNull
      dstAddr).2
  | .stopSendingMessage clientId msgType payloadIter =>
    (s.stopSendingMessage clientId msgType payloadIter).2
  | .handleClientTask alloc selecting checksumming =>
    s.handleClientTask memorySize alloc selecting checksumming
  | .finishSelectingSourceAddress header status checksumming =>
    s.finishSelectingSourceAddress header status checksumming
  | .finishChecksumming checksumComp sending => s.finishChecksumming checksumComp sending
  | .finishSendingIPv6Packet header status => s.finishSendingIPv6Packet header status
  | .write mem => ({ s with mem := mem }, [])

/-- The forwarder before any message, over a memory. -/
def initial (mem : IovMemory) : Icmpv6MessageForwarder where
  clientData := fun _ => ⟨none, 0, 0, 0, (0, 0), none, ipv6UndefinedAddr⟩
  activeClientQueue := []
  packet := none
  checksumComp := ⟨0, 0, 0⟩
  handlingStatus := 0
  handleClientTaskPosted := false
  mem := mem

end Icmpv6MessageForwarder

end Whip6
