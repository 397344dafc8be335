import Whip6.Base.Queue
import Whip6.Ipv6.Address
import Whip6.Ipv6.Packet
import Whip6.Lib.Runs

/-!
# The loopback interface

A packet that a node sends to itself waits in a queue until a cloner has copied it, some bytes at a
time.  Then its sender is told, and the clone waits in another queue until it is passed to the
incoming path, one clone at a time; when the incoming path is done with it, the clone is freed.  The
cloner works for several clients in turn; here it is its part for the interface.
-/

namespace Whip6

/-- A packet that is to be sent, with its processing state. -/
structure Ipv6LoopbackOutPacket where
  outPacket : ℕ
  packet : Ipv6Packet
  assignedToIface : Bool

structure Ipv6Clone where
  ptr : ℕ
  packet : Ipv6Packet

/-- What the cloner has for a client. -/
structure Ipv6PacketClonerClient where
  orgPacket : Ipv6Packet
  clonePacket : Option Ipv6Clone
  remainingBytes : ℕ
  orgIter : IovBlistIter
  cloneIter : IovBlistIter

/-- The capacity of the queues, and how many bytes are copied at a time. -/
structure Ipv6LoopbackSizes where
  packetQueueLength : ℕ
  maxBytesCopiedInTask : ℕ

/-- The interface and its part of the cloner.  `inPacketStateBuf` is the packet of the processing
state that is lent to the incoming path. -/
structure Ipv6LoopbackInterface where
  on : Bool
  packetClonerQueue : List Ipv6LoopbackOutPacket
  packetDeliveryQueue : List Ipv6Clone
  packetBeingCloned : Bool
  packetBeingDelivered : Bool
  inPacketStateBuf : Option Ipv6Clone
  startPacketCloningTaskPosted : Bool
  deliverPacketCloneTaskPosted : Bool
  client : Option Ipv6PacketClonerClient

inductive Ipv6LoopbackAct
  | accepted (outPacket : ℕ) (packet : Ipv6Packet)
  | finished (outPacket : ℕ) (status : ErrorT)
  | allocated (clone : ℕ)
  | freed (clone : ℕ)
  | delivered (clone : ℕ) (packet : Ipv6Packet) (answer : ErrorT)

/-- What the allocators answer where a packet is asked for, as they are documented. -/
abbrev Ipv6FittingAnswers :=
  (payloadLength : ℕ) → {answers : Ipv6AllocAnswers // IovChunksFit answers.chunks payloadLength}

/-- Events, with the answers of the cloner, of the allocators and of the incoming path. -/
inductive Ipv6LoopbackEvent
  | start
  | startSendingIPv6Packet (out : Ipv6LoopbackOutPacket)
  | startPacketCloningTask (answer : ErrorT)
  | doClonePacketsTask (ptr : ℕ) (answers : Ipv6FittingAnswers)
  | deliverPacketCloneTask (answer : ErrorT)
  | finishReceivingIPv6Packet (status : ErrorT)

/-- The next bytes of the payload are copied: how many there were, and what the cloner has then. -/
def Ipv6PacketClonerClient.copyBytes (client : Ipv6PacketClonerClient) (clone : Ipv6Clone)
    (maxBytesCopiedInTask : ℕ) : ℕ × Ipv6PacketClonerClient :=
  let r := iovIteratorCopyBytesAndMoveForward client.orgPacket.firstPayloadIov client.orgIter
    clone.packet.firstPayloadIov client.cloneIter maxBytesCopiedInTask
  (r.1, { client with
    clonePacket := some { clone with packet := { clone.packet with firstPayloadIov := r.2.2.2 } }
    remainingBytes := client.remainingBytes - r.1
    orgIter := r.2.1
    cloneIter := r.2.2.1 })

namespace Ipv6LoopbackInterface

/-- The interface after booting. -/
def init : Ipv6LoopbackInterface where
  on := false
  packetClonerQueue := []
  packetDeliveryQueue := []
  packetBeingCloned := false
  packetBeingDelivered := false
  inPacketStateBuf := none
  startPacketCloningTaskPosted := false
  deliverPacketCloneTaskPosted := false
  client := none

variable (sizes : Ipv6LoopbackSizes) (iface : Ipv6LoopbackInterface)

def start : ErrorT × Ipv6LoopbackInterface :=
  if iface.on then (EALREADY, iface) else (SUCCESS, { iface with on := true })

def startSendingIPv6Packet (out : Ipv6LoopbackOutPacket) : ErrorT × Ipv6LoopbackInterface :=
  if iface.on = false then (EOFF, iface)
  else if ipv6AddrIsLoopback (ipv6BasicHeaderGetDstAddr out.packet.header) = false then
    (ENOROUTE, iface)
  else if ipv6AddrIsLoopback (ipv6BasicHeaderGetSrcAddr out.packet.header) = false then
    (EINVAL, iface)
  else if iface.packetClonerQueue.length = sizes.packetQueueLength then (ENOMEM, iface)
  else
    (SUCCESS,
      { iface with
        packetClonerQueue := iface.packetClonerQueue ++ [{ out with assignedToIface := true }]
        startPacketCloningTaskPosted := true })

/-- The cloner starts on a packet if it has none of the client. -/
def startCloningIPv6Packet (orgPacket : Ipv6Packet) (answer : ErrorT) :
    ErrorT × Option Ipv6PacketClonerClient :=
  match iface.client with
  | some client => (EBUSY, some client)
  | none =>
    if answer = SUCCESS then (SUCCESS, some ⟨orgPacket, none, 0, ⟨none, 0⟩, ⟨none, 0⟩⟩)
    else (answer, none)

def startPacketCloningTask (answer : ErrorT) : Ipv6LoopbackInterface × List Ipv6LoopbackAct :=
  let iface := { iface with startPacketCloningTaskPosted := false }
  match iface.packetClonerQueue with
  | [] => (iface, [])
  | out :: queue =>
    if iface.packetBeingCloned then (iface, [])
    else
      let r := iface.startCloningIPv6Packet out.packet answer
      let iface := { iface with client := r.2 }
      if r.1 = SUCCESS then ({ iface with packetBeingCloned := true }, [])
      else
        ({ iface with packetClonerQueue := queue, startPacketCloningTaskPosted := true },
          [.finished out.outPacket r.1])

/-- A clone goes to the queue for delivery if there is space for it. -/
def finishCloningIPv6Packet (clonePacketOrNull : Option Ipv6Clone) :
    Ipv6LoopbackInterface × List Ipv6LoopbackAct :=
  match iface.packetClonerQueue with
  | [] => (iface, [])
  | out :: queue =>
    let iface := { iface with
      packetClonerQueue := queue
      packetBeingCloned := false
      startPacketCloningTaskPosted := true }
    match clonePacketOrNull with
    | none => (iface, [.finished out.outPacket ENOMEM])
    | some clone =>
      if iface.packetDeliveryQueue.length = sizes.packetQueueLength then
        (iface, [.freed clone.ptr, .finished out.outPacket ENOMEM])
      else
        ({ iface with
            packetDeliveryQueue := iface.packetDeliveryQueue ++ [clone]
            deliverPacketCloneTaskPosted := true },
          [.finished out.outPacket SUCCESS])

/-! ## The cloner -/

def finishHandlingClient (client : Ipv6PacketClonerClient) (status : ErrorT) :
    Ipv6LoopbackInterface × List Ipv6LoopbackAct :=
  let iface := { iface with client := none }
  match client.clonePacket with
  | none => iface.finishCloningIPv6Packet sizes none
  | some clone =>
    if status ≠ SUCCESS then
      let r := iface.finishCloningIPv6Packet sizes none
      (r.1, .freed clone.ptr :: r.2)
    else iface.finishCloningIPv6Packet sizes (some clone)

def startHandlingClient (client : Ipv6PacketClonerClient) (ptr : ℕ)
    (answers : Ipv6FittingAnswers) : Ipv6LoopbackInterface × List Ipv6LoopbackAct :=
  let payloadLen := (ipv6BasicHeaderGetPayloadLength client.orgPacket.header).toNat
  if payloadLen > iovGetTotalLength client.orgPacket.firstPayloadIov then
    iface.finishHandlingClient sizes client FAIL
  else
    match ipv6AllocatePacket (answers payloadLen).1 payloadLen with
    | none => iface.finishHandlingClient sizes client FAIL
    | some packet =>
      let packet := { packet with
        header := packet.header.memCpy client.orgPacket.header.bytes 0 40 }
      ({ iface with
          client := some { client with
            clonePacket := some ⟨ptr, packet⟩
            remainingBytes := payloadLen
            orgIter := iovIteratorInitToBeginning client.orgPacket.firstPayloadIov
            cloneIter := iovIteratorInitToBeginning packet.firstPayloadIov } },
        [.allocated ptr])

def continueHandlingClient (client : Ipv6PacketClonerClient) (clone : Ipv6Clone) :
    Ipv6LoopbackInterface × List Ipv6LoopbackAct :=
  let r := client.copyBytes clone sizes.maxBytesCopiedInTask
  if r.1 = 0 then iface.finishHandlingClient sizes r.2 FAIL
  else ({ iface with client := some r.2 }, [])

/-- The cloner's task, when it is the client's turn. -/
def doClonePacketsTask (ptr : ℕ) (answers : Ipv6FittingAnswers) :
    Ipv6LoopbackInterface × List Ipv6LoopbackAct :=
  match iface.client with
  | none => (iface, [])
  | some client =>
    match client.clonePacket with
    | none => iface.startHandlingClient sizes client ptr answers
    | some clone =>
      if client.remainingBytes = 0 then iface.finishHandlingClient sizes client SUCCESS
      else iface.continueHandlingClient sizes client clone

/-! ## Delivery -/

def deliverPacketCloneTask (answer : ErrorT) : Ipv6LoopbackInterface × List Ipv6LoopbackAct :=
  let iface := { iface with deliverPacketCloneTaskPosted := false }
  match iface.packetDeliveryQueue with
  | [] => (iface, [])
  | clone :: queue =>
    if iface.packetBeingDelivered then (iface, [])
    else
      let iface := { iface with inPacketStateBuf := some clone, packetDeliveryQueue := queue }
      if answer ≠ SUCCESS then
        ({ iface with deliverPacketCloneTaskPosted := true },
          [.delivered clone.ptr clone.packet answer, .freed clone.ptr])
      else
        ({ iface with packetBeingDelivered := true },
          [.delivered clone.ptr clone.packet answer])

/-- The incoming path gives the processing state back. -/
def finishReceivingIPv6Packet : Ipv6LoopbackInterface × List Ipv6LoopbackAct :=
  ({ iface with packetBeingDelivered := false, deliverPacketCloneTaskPosted := true },
    match iface.inPacketStateBuf with
    | none => []
    | some clone => [.freed clone.ptr])

/-- One event.  A task runs when it was posted, and the incoming path finishes what it was passed. -/
def step : Ipv6LoopbackEvent → Ipv6LoopbackInterface × List Ipv6LoopbackAct
  | .start => (iface.start.2, [])
  | .startSendingIPv6Packet out =>
    let r := iface.startSendingIPv6Packet sizes out
    (r.2, if r.1 = SUCCESS then [.accepted out.outPacket out.packet] else [])
  | .startPacketCloningTask answer =>
    if iface.startPacketCloningTaskPosted then iface.startPacketCloningTask answer else (iface, [])
  | .doClonePacketsTask ptr answers => iface.doClonePacketsTask sizes ptr answers
  | .deliverPacketCloneTask answer =>
    if iface.deliverPacketCloneTaskPosted then iface.deliverPacketCloneTask answer else (iface, [])
  | .finishReceivingIPv6Packet _ =>
    if iface.packetBeingDelivered then iface.finishReceivingIPv6Packet else (iface, [])

end Ipv6LoopbackInterface

end Whip6
