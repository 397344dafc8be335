import Whip6.Base.Queue

/-!
# The packet bridge

The bridge between a one-hop radio network and a serial interface takes packets from the one and
hands them to the other.  In each direction it has a queue, whose first packet is shown to an
interceptor, which may drop it, and then handed down.  A packet from the serial interface is read into
a vector that the bridge allocates; the bridge reads on as long as its queue has room.
-/

namespace Whip6

/-- A packet, with what the bridge reads of it. -/
structure BridgePacket where
  ptr : ℕ
  payloadLength : ℕ
  firstPayloadIov : Option ℕ
  deriving DecidableEq

/-- The head of a vector, with the packet whose header it holds. -/
structure BridgeIovHead where
  ptr : Option BridgePacket
  len : ℕ
  next : Option ℕ
  deriving DecidableEq

/-- The two vectors of the bridge. -/
inductive BridgeIov
  | outgoing
  | incoming
  deriving DecidableEq

inductive BridgeDirection
  | serialToRadio
  | radioToSerial
  deriving DecidableEq

inductive BridgeAct
  | booted
  | startedReading (status : ErrorT)
  | doneReading (status : ErrorT)
  | allocated (pkt : BridgePacket)
  | accepted (pkt : BridgePacket)
  | freed (pkt : BridgePacket)
  /-- The interceptor gets a packet, and gives it back. -/
  | intercepting (direction : BridgeDirection) (pkt : BridgePacket)
  | intercepted (direction : BridgeDirection) (pkt : BridgePacket)
  /-- The forwarder, or the writer, gets a packet, and gives it back. -/
  | sending (direction : BridgeDirection) (pkt : BridgePacket)
  | sent (direction : BridgeDirection) (pkt : BridgePacket)
  deriving DecidableEq

/-- `sizeof(whip6_ipv6_basic_header_t)` -/
def bridgeHeaderSize : ℕ := 40

def packetToIov (pkt : BridgePacket) : BridgeIovHead × ℕ :=
  (⟨some pkt, bridgeHeaderSize, pkt.firstPayloadIov⟩, bridgeHeaderSize + pkt.payloadLength)

def iovToPacket (which : BridgeIov) (iovHead : BridgeIovHead) (iov : Option BridgeIov) :
    Option BridgePacket :=
  if iov ≠ some which then none
  else if iovHead.len ≠ bridgeHeaderSize then none
  else iovHead.ptr.filter fun pkt => pkt.firstPayloadIov = iovHead.next

theorem iovToPacket_packetToIov (which : BridgeIov) (pkt : BridgePacket) :
    iovToPacket which (packetToIov pkt).1 (some which) = some pkt := by
  simp [iovToPacket, packetToIov]

/-! ## One direction -/

/-- The queue of a direction and its tasks. -/
structure BridgePipe where
  packetQueue : List BridgePacket
  startProcessingTaskPosted : Bool
  transmitTaskPosted : Bool

namespace BridgePipe

variable (capacity : ℕ) (direction : BridgeDirection) (pipe : BridgePipe)

def isFull : Bool := pipe.packetQueue.length == capacity

def enqueueLast (pkt : BridgePacket) : BridgePipe :=
  { pipe with
    packetQueue := pipe.packetQueue ++ [pkt]
    startProcessingTaskPosted := pipe.startProcessingTaskPosted || pipe.packetQueue.isEmpty }

/-- The first packet is freed, and the next one is to be processed. -/
def finishHandlingPacket : BridgePipe × List BridgeAct :=
  match pipe.packetQueue with
  | [] => (pipe, [])
  | pkt :: packetQueue =>
    ({ pipe with
        packetQueue := packetQueue
        startProcessingTaskPosted := pipe.startProcessingTaskPosted || !packetQueue.isEmpty },
      [.freed pkt])

def startProcessingPacketTask : BridgePipe × List BridgeAct :=
  let pipe := { pipe with startProcessingTaskPosted := false }
  match pipe.packetQueue with
  | [] => (pipe, [])
  | pkt :: _ => (pipe, [.intercepting direction pkt])

end BridgePipe

/-! ## The bridge -/

structure PacketBridge where
  serialToRadio : BridgePipe
  radioToSerial : BridgePipe
  incomingIovHead : BridgeIovHead
  outgoingIovHead : BridgeIovHead

/-- Events.  The answers of the layers below come with the event in which they are asked:
`reading` is the answer to `startReadingDataUnit`. -/
inductive BridgeEvent
  | booted (reading : ErrorT)
  | provideIOVForDataUnit (size : ℕ) (allocated : Option BridgePacket)
  | finishedReadingDataUnit (iov : Option BridgeIov) (status reading : ErrorT)
  | startProcessingSerialToRadioPacketTask
  | finishInterceptingSerialToRadioPacket (pkt : BridgePacket) (drop : Bool) (reading : ErrorT)
  | transmitSerialToRadioPacketTask (address forwarding reading : ErrorT)
  | forwardingIpv6PacketFinished (pkt : BridgePacket) (status reading : ErrorT)
  | acceptedIpv6PacketForProcessing (pkt : BridgePacket)
  | startProcessingRadioToSerialPacketTask
  | finishInterceptingRadioToSerialPacket (pkt : BridgePacket) (drop : Bool)
  | transmitRadioToSerialPacketTask (writing : ErrorT)
  /-- The vector of `pkt` was written. -/
  | finishedWritingDataUnit (pkt : BridgePacket) (iov : Option BridgeIov) (status : ErrorT)

namespace PacketBridge

variable (capacity : ℕ) (s : PacketBridge)

def provideIOVForDataUnit (size : ℕ) (allocated : Option BridgePacket) :
    PacketBridge × List BridgeAct :=
  if size < bridgeHeaderSize then (s, [])
  else
    match allocated with
    | none => (s, [])
    | some pkt => ({ s with incomingIovHead := (packetToIov pkt).1 }, [.allocated pkt])

def finishedReadingDataUnit (iov : Option BridgeIov) (status reading : ErrorT) :
    PacketBridge × List BridgeAct :=
  match iovToPacket .incoming s.incomingIovHead iov with
  | none => (s, [.doneReading status])
  | some pkt =>
    if s.serialToRadio.isFull capacity ∨ status ≠ SUCCESS then
      (s, [.doneReading status, .freed pkt])
    else
      let s := { s with serialToRadio := s.serialToRadio.enqueueLast pkt }
      if !s.serialToRadio.isFull capacity then
        (s, [.doneReading status, .startedReading reading])
      else (s, [.doneReading status])

def startProcessingSerialToRadioPacketTask : PacketBridge × List BridgeAct :=
  let r := s.serialToRadio.startProcessingPacketTask .serialToRadio
  ({ s with serialToRadio := r.1 }, r.2)

def finishHandlingSerialToRadioPacket (reading : ErrorT) : PacketBridge × List BridgeAct :=
  let wasFull := s.serialToRadio.isFull capacity
  let r := s.serialToRadio.finishHandlingPacket
  ({ s with serialToRadio := r.1 }, r.2 ++ if wasFull then [.startedReading reading] else [])

def finishInterceptingSerialToRadioPacket (pkt : BridgePacket) (drop : Bool) (reading : ErrorT) :
    PacketBridge × List BridgeAct :=
  if s.serialToRadio.packetQueue.head? ≠ some pkt then (s, [])
  else if drop then s.finishHandlingSerialToRadioPacket capacity reading
  else ({ s with serialToRadio := { s.serialToRadio with transmitTaskPosted := true } }, [])

def transmitSerialToRadioPacketTask (address forwarding reading : ErrorT) :
    PacketBridge × List BridgeAct :=
  let s := { s with serialToRadio := { s.serialToRadio with transmitTaskPosted := false } }
  match s.serialToRadio.packetQueue with
  | [] => (s, [])
  | pkt :: _ =>
    if address ≠ SUCCESS then s.finishHandlingSerialToRadioPacket capacity reading
    else if forwarding ≠ SUCCESS then s.finishHandlingSerialToRadioPacket capacity reading
    else (s, [.sending .serialToRadio pkt])

def forwardingIpv6PacketFinished (pkt : BridgePacket) (reading : ErrorT) :
    PacketBridge × List BridgeAct :=
  if s.serialToRadio.packetQueue.head? ≠ some pkt then (s, [])
  else s.finishHandlingSerialToRadioPacket capacity reading

def acceptedIpv6PacketForProcessing (pkt : BridgePacket) : PacketBridge × List BridgeAct :=
  if s.radioToSerial.isFull capacity then (s, [.freed pkt])
  else ({ s with radioToSerial := s.radioToSerial.enqueueLast pkt }, [])

def startProcessingRadioToSerialPacketTask : PacketBridge × List BridgeAct :=
  let r := s.radioToSerial.startProcessingPacketTask .radioToSerial
  ({ s with radioToSerial := r.1 }, r.2)

def finishHandlingRadioToSerialPacket : PacketBridge × List BridgeAct :=
  let r := s.radioToSerial.finishHandlingPacket
  ({ s with radioToSerial := r.1 }, r.2)

def finishInterceptingRadioToSerialPacket (pkt : BridgePacket) (drop : Bool) :
    PacketBridge × List BridgeAct :=
  if s.radioToSerial.packetQueue.head? ≠ some pkt then (s, [])
  else if drop then s.finishHandlingRadioToSerialPacket
  else ({ s with radioToSerial := { s.radioToSerial with transmitTaskPosted := true } }, [])

def transmitRadioToSerialPacketTask (writing : ErrorT) : PacketBridge × List BridgeAct :=
  let s := { s with radioToSerial := { s.radioToSerial with transmitTaskPosted := false } }
  match s.radioToSerial.packetQueue with
  | [] => (s, [])
  | pkt :: _ =>
    let s := { s with outgoingIovHead := (packetToIov pkt).1 }
    if writing ≠ SUCCESS then s.finishHandlingRadioToSerialPacket
    else (s, [.sending .radioToSerial pkt])

def finishedWritingDataUnit (iov : Option BridgeIov) : PacketBridge × List BridgeAct :=
  match iovToPacket .outgoing s.outgoingIovHead iov with
  | none => (s, [])
  | some pkt =>
    if s.radioToSerial.packetQueue.head? ≠ some pkt then (s, [])
    else s.finishHandlingRadioToSerialPacket

def step : BridgeEvent → PacketBridge × List BridgeAct
  | .booted reading => (s, [.booted, .startedReading reading])
  | .provideIOVForDataUnit size allocated => s.provideIOVForDataUnit size allocated
  | .finishedReadingDataUnit iov status reading =>
    s.finishedReadingDataUnit capacity iov status reading
  | .startProcessingSerialToRadioPacketTask => s.startProcessingSerialToRadioPacketTask
  | .finishInterceptingSerialToRadioPacket pkt drop reading =>
    let r := s.finishInterceptingSerialToRadioPacket capacity pkt drop reading
    (r.1, .intercepted .serialToRadio pkt :: r.2)
  | .transmitSerialToRadioPacketTask address forwarding reading =>
    s.transmitSerialToRadioPacketTask capacity address forwarding reading
  | .forwardingIpv6PacketFinished pkt _ reading =>
    let r := s.forwardingIpv6PacketFinished capacity pkt reading
    (r.1, .sent .serialToRadio pkt :: r.2)
  | .acceptedIpv6PacketForProcessing pkt =>
    let r := s.acceptedIpv6PacketForProcessing capacity pkt
    (r.1, .accepted pkt :: r.2)
  | .startProcessingRadioToSerialPacketTask => s.startProcessingRadioToSerialPacketTask
  | .finishInterceptingRadioToSerialPacket pkt drop =>
    let r := s.finishInterceptingRadioToSerialPacket pkt drop
    (r.1, .intercepted .radioToSerial pkt :: r.2)
  | .transmitRadioToSerialPacketTask writing => s.transmitRadioToSerialPacketTask writing
  | .finishedWritingDataUnit pkt iov _ =>
    let r := s.finishedWritingDataUnit iov
    (r.1, .sent .radioToSerial pkt :: r.2)

/-- The bridge before it is booted. -/
def initial : PacketBridge := ⟨⟨[], false, false⟩, ⟨[], false, false⟩, ⟨none, 0, none⟩, ⟨none, 0, none⟩⟩

end PacketBridge

end Whip6
