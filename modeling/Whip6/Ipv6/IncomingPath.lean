import Whip6.Base.Queue
import Whip6.Ipv6.Packet
import Whip6.Lib.History
import Whip6.Lib.Ledger
import Whip6.Lib.Runs

/-!
# The incoming path of IPv6 packets

An interface adapter gives a received packet a processing state and passes it to the processor, which
keeps it in a queue and dispatches it to the handler of its next header, again and again until it is
done.  A packet that came to one of the interface's own addresses goes to the protocols, another one to
the forwarder, which hands one packet at a time to the outgoing path.  A handler may also skip an
extension header.  At the end the adapter frees the packet and its state.
-/

namespace Whip6

def WHIP6_IPV6_PROTOCOL_VERSION : UInt8 := 6

def WHIP6_IANA_IPV6_NO_NEXT_HEADER : UInt8 := 59

/-- The processing state of an incoming packet. -/
structure Ipv6InPacket where
  packet : ℕ
  payloadIter : IovBlistIter
  payloadOffset : UInt16
  processingDone : Bool
  beingProcessed : Bool
  destinedAtIface : Bool
  ifaceId : UInt8
  nextHeaderId : UInt8

inductive Ipv6HeaderHandler
  | protocol
  | forwarder
  | skipper
  deriving DecidableEq

/-- How the components are put together: the capacity of the two queues, the next headers for which
the forwarder is wired into the path of packets to others, and the ones that the skipper handles. -/
structure Ipv6IncomingWiring where
  queueSize : ℕ
  forwards : UInt8 → Bool
  skips : Bool → UInt8 → Bool
  /-- The stack wires the forwarder for packets without a next header. -/
  forwards_noNextHeader : forwards WHIP6_IANA_IPV6_NO_NEXT_HEADER = true

/-- The handler of a next header, for packets to the interface and to others. -/
def Ipv6IncomingWiring.handler (wiring : Ipv6IncomingWiring) (inPacket : Ipv6InPacket) :
    Ipv6HeaderHandler :=
  if !inPacket.destinedAtIface && wiring.forwards inPacket.nextHeaderId then .forwarder
  else if wiring.skips inPacket.destinedAtIface inPacket.nextHeaderId then .skipper
  else .protocol

structure Ipv6IncomingPath where
  inPacket : ℕ → Ipv6InPacket
  header : ℕ → Ipv6BasicHeader
  payload : ℕ → IovBlist
  processedPacketQueue : List ℕ
  continueProcessingTaskPosted : Bool
  /-- The packet whose header the skipper is to skip. -/
  inPacketPtr : Option ℕ
  skipHeaderTaskPosted : Bool
  forwardedPacketQueue : List ℕ
  forwardingInProgress : Bool
  forwardingStatus : ErrorT
  startForwardingTaskPosted : Bool
  finishForwardingTaskPosted : Bool

/-- What happens at the interfaces of the components, and to memory.  `received` is a packet that the
lower layer passes up with its memory, `accepted` and `finished` are what the interface sees of the
processing, `handedOut` is an attempt to pass a packet to the outgoing path with a hop limit. -/
inductive Ipv6IncomingAct
  | received (packet : ℕ)
  | allocatedState (p : ℕ)
  | accepted (p : ℕ) (ifaceId : UInt8) (hopLimit : UInt8)
  | finished (p : ℕ) (ifaceId : UInt8) (status : ErrorT)
  | freedPacket (packet : ℕ)
  | freedState (p : ℕ)
  | dispatched (p : ℕ) (handler : Ipv6HeaderHandler) (answer : ErrorT)
  | handlerFinished (p : ℕ) (handler : Ipv6HeaderHandler) (status : ErrorT)
  | handedOut (p : ℕ) (hopLimit : UInt8) (answer : ErrorT)
  | sendingFinished (p : ℕ) (status : ErrorT)

/-- What the adapter is answered about a received packet: whether it is to be dropped, the state that
is allocated for it, and whether its destination is an address of the interface. -/
structure Ipv6IncomingAnswers where
  shouldDrop : Bool
  allocate : Option ℕ
  belongsToInterface : Bool

/-- A protocol handler may move the iterator and name another header, or nothing more to process,
before it finishes. -/
structure Ipv6HandlerResult where
  payloadIter : IovBlistIter
  payloadOffset : UInt16
  nextHeaderId : UInt8
  processingDone : Bool

inductive Ipv6IncomingEvent
  | acceptedIpv6PacketForProcessing (ifaceId : UInt8) (packet : ℕ) (header : Ipv6BasicHeader)
    (payload : IovBlist) (answers : Ipv6IncomingAnswers)
  | continueProcessingPacketTask (answer : ErrorT)
  | finishReceivingIPv6Packet (p : ℕ) (result : Ipv6HandlerResult) (status : ErrorT)
  | skipHeaderIfPossibleTask
  | startForwardingQueuedPacketTask (answer : ErrorT)
  | finishSendingIPv6Packet (header : Ipv6BasicHeader) (status : ErrorT)
  | finishForwardingQueuedPacketTask

namespace Ipv6IncomingPath

variable (wiring : Ipv6IncomingWiring) (s : Ipv6IncomingPath)

def setInPacket (p : ℕ) (inPacket : Ipv6InPacket) : Ipv6IncomingPath :=
  { s with inPacket := Function.update s.inPacket p inPacket }

/-! ## The processor -/

/-- The processor takes a packet from an interface.  The state of a refused packet is freed. -/
def startReceivingIPv6Packet (p : ℕ) (ifaceId : UInt8) (belongsToInterface : Bool) :
    ErrorT × Ipv6IncomingPath :=
  let inPacket := s.inPacket p
  let hdr := s.header inPacket.packet
  let hopLimit := ipv6BasicHeaderGetHopLimit hdr
  if s.processedPacketQueue.length = wiring.queueSize then (ENOMEM, s)
  else if ipv6BasicHeaderGetVersion hdr ≠ WHIP6_IPV6_PROTOCOL_VERSION then (EINVAL, s)
  else if hopLimit = 0 then (EINVAL, s)
  else
    (SUCCESS,
      { s with
        header := Function.update s.header inPacket.packet
          (ipv6BasicHeaderSetHopLimit hdr (hopLimit - 1))
        inPacket := Function.update s.inPacket p
          { inPacket with
            destinedAtIface := inPacket.destinedAtIface || belongsToInterface
            payloadIter := iovIteratorInitToBeginning (s.payload inPacket.packet)
            payloadOffset := 0
            ifaceId := ifaceId
            nextHeaderId := ipv6BasicHeaderGetNextHeader hdr }
        continueProcessingTaskPosted := true
        processedPacketQueue := s.processedPacketQueue ++ [p] })

/-- The interface adapter frees what it has got back. -/
def finishReceivingAtIface (p : ℕ) : List Ipv6IncomingAct :=
  [.freedPacket (s.inPacket p).packet, .freedState p]

/-- A packet leaves the queue and goes back to its interface. -/
def finishHandlingPacket (p : ℕ) (status : ErrorT) : Ipv6IncomingPath × List Ipv6IncomingAct :=
  ({ s with processedPacketQueue := s.processedPacketQueue.erase p },
    .finished p (s.inPacket p).ifaceId status :: s.finishReceivingAtIface p)

/-- A handler has finished with a packet. -/
def finishReceivingIPv6Packet (p : ℕ) (status : ErrorT) :
    Ipv6IncomingPath × List Ipv6IncomingAct :=
  let s := s.setInPacket p { s.inPacket p with beingProcessed := false }
  if status = SUCCESS then ({ s with continueProcessingTaskPosted := true }, [])
  else
    let s := s.setInPacket p { s.inPacket p with processingDone := true }
    if p ∈ s.processedPacketQueue then s.finishHandlingPacket p status else (s, [])

/-! ## The adapter -/

/-- The lower layer passes a received packet up. -/
def acceptedIpv6PacketForProcessing (ifaceId : UInt8) (packet : ℕ) (header : Ipv6BasicHeader)
    (payload : IovBlist) (answers : Ipv6IncomingAnswers) :
    Ipv6IncomingPath × List Ipv6IncomingAct :=
  let s := { s with
    header := Function.update s.header packet header
    payload := Function.update s.payload packet payload }
  if answers.shouldDrop then (s, [.received packet, .freedPacket packet])
  else
    match answers.allocate with
    | none => (s, [.received packet, .freedPacket packet])
    | some p =>
      let s := s.setInPacket p
        { s.inPacket p with
          packet := packet, processingDone := false, beingProcessed := false
          destinedAtIface := false }
      let r := s.startReceivingIPv6Packet wiring p ifaceId answers.belongsToInterface
      if r.1 ≠ SUCCESS then
        (r.2, [.received packet, .allocatedState p, .freedState p, .freedPacket packet])
      else
        (r.2, [.received packet, .allocatedState p,
          .accepted p ifaceId (ipv6BasicHeaderGetHopLimit header)])

/-! ## The forwarder -/

def startForwarding (p : ℕ) : ErrorT × Ipv6IncomingPath :=
  if s.forwardedPacketQueue.length = wiring.queueSize then (ENOMEM, s)
  else
    (SUCCESS,
      { s with
        forwardedPacketQueue := s.forwardedPacketQueue ++ [p]
        startForwardingTaskPosted := s.startForwardingTaskPosted || !s.forwardingInProgress })

/-- The forwarder tells the processor that it has finished with a packet, at the next header that the
packet has by then. -/
def finishForwarding (p : ℕ) (status : ErrorT) : Ipv6IncomingPath × List Ipv6IncomingAct :=
  if wiring.forwards (s.inPacket p).nextHeaderId then
    let r := s.finishReceivingIPv6Packet p status
    (r.1, .handlerFinished p .forwarder status :: r.2)
  else (s, [])

def startForwardingQueuedPacketTask (answer : ErrorT) :
    Ipv6IncomingPath × List Ipv6IncomingAct :=
  let s := { s with startForwardingTaskPosted := false }
  match s.forwardedPacketQueue with
  | [] => (s, [])
  | p :: forwardedPacketQueue =>
    if s.forwardingInProgress then (s, [])
    else
      let handedOut := .handedOut p
        (ipv6BasicHeaderGetHopLimit (s.header (s.inPacket p).packet)) answer
      if answer = SUCCESS then ({ s with forwardingInProgress := true }, [handedOut])
      else
        let r := { s with
          forwardedPacketQueue := forwardedPacketQueue
          startForwardingTaskPosted := true }.finishForwarding wiring p answer
        (r.1, handedOut :: r.2)

/-- The outgoing path has finished with the packet; it may have written to the packet's header. -/
def finishSendingIPv6Packet (header : Ipv6BasicHeader) (status : ErrorT) :
    Ipv6IncomingPath × List Ipv6IncomingAct :=
  match s.forwardedPacketQueue with
  | [] => (s, [])
  | p :: _ =>
    ({ s with
        header := Function.update s.header (s.inPacket p).packet header
        inPacket := Function.update s.inPacket p
          { s.inPacket p with
            payloadIter := iovIteratorInvalidate
            nextHeaderId := WHIP6_IANA_IPV6_NO_NEXT_HEADER }
        forwardingStatus := status
        finishForwardingTaskPosted := true },
      [.sendingFinished p status])

def finishForwardingQueuedPacketTask : Ipv6IncomingPath × List Ipv6IncomingAct :=
  let s := { s with finishForwardingTaskPosted := false }
  match s.forwardedPacketQueue with
  | [] => (s, [])
  | p :: forwardedPacketQueue =>
    { s with
      forwardingInProgress := false
      forwardedPacketQueue := forwardedPacketQueue
      startForwardingTaskPosted := true }.finishForwarding wiring p s.forwardingStatus

/-! ## The skipper of extension headers -/

def startSkipping (p : ℕ) : ErrorT × Ipv6IncomingPath :=
  match s.inPacketPtr with
  | some _ => (EBUSY, s)
  | none => (SUCCESS, { s with inPacketPtr := some p, skipHeaderTaskPosted := true })

/-- Move a packet past its extension header: the new state of the packet and the status. -/
def skipHeader (payload : IovBlist) (inPacket : Ipv6InPacket) : Ipv6InPacket × ErrorT :=
  let r := iovIteratorReadAndMoveForward payload inPacket.payloadIter (some [0, 0]) 2
  let fail (payloadIter : IovBlistIter) : Ipv6InPacket × ErrorT :=
    ({ inPacket with
      payloadIter := payloadIter
      processingDone := true
      nextHeaderId := WHIP6_IANA_IPV6_NO_NEXT_HEADER }, EINVAL)
  if r.1 ≠ 2 ∨ iovIteratorIsValid r.2.1 = false then fail r.2.1
  else
    let hdrBuf := r.2.2.getD []
    let hdrLen := (hdrBuf.getD 1 0).toUInt16 <<< 3 + 8
    let numBytes := hdrLen.toNat - 2
    let moved := iovIteratorMoveForward payload r.2.1 numBytes
    if numBytes ≠ moved.1 then fail moved.2
    else
      ({ inPacket with
        payloadIter := moved.2
        nextHeaderId := hdrBuf.getD 0 0
        payloadOffset := inPacket.payloadOffset + hdrLen }, SUCCESS)

def skipHeaderIfPossibleTask : Ipv6IncomingPath × List Ipv6IncomingAct :=
  match s.inPacketPtr with
  | none => ({ s with skipHeaderTaskPosted := false }, [])
  | some p =>
    let skipped := skipHeader (s.payload (s.inPacket p).packet) (s.inPacket p)
    let r := { s.setInPacket p skipped.1 with
      inPacketPtr := none
      skipHeaderTaskPosted := false }.finishReceivingIPv6Packet p skipped.2
    (r.1, .handlerFinished p .skipper skipped.2 :: r.2)

/-! ## Steps -/

/-- Give a packet to the handler of its next header.  `answer` is what a protocol returns. -/
def dispatch (p : ℕ) (answer : ErrorT) : ErrorT × Ipv6IncomingPath :=
  match wiring.handler (s.inPacket p) with
  | .forwarder => s.startForwarding wiring p
  | .skipper => s.startSkipping p
  | .protocol => (answer, s)

/-- There is nothing left of a packet. -/
def isOver (inPacket : Ipv6InPacket) : Bool :=
  inPacket.nextHeaderId == WHIP6_IANA_IPV6_NO_NEXT_HEADER &&
    !iovIteratorIsValid inPacket.payloadIter

/-- The first packet in the queue that no handler has. -/
def nextPacket : Option ℕ := s.processedPacketQueue.find? fun p => !(s.inPacket p).beingProcessed

def continueProcessingPacketTask (answer : ErrorT) : Ipv6IncomingPath × List Ipv6IncomingAct :=
  match s.nextPacket with
  | none => ({ s with continueProcessingTaskPosted := false }, [])
  | some p =>
    let inPacket := s.inPacket p
    let processingDone := inPacket.processingDone || isOver inPacket
    let s := { s.setInPacket p { inPacket with processingDone := processingDone } with
      continueProcessingTaskPosted := true }
    if processingDone then s.finishHandlingPacket p SUCCESS
    else
      let s := s.setInPacket p { s.inPacket p with beingProcessed := true }
      let handler := wiring.handler (s.inPacket p)
      let r := s.dispatch wiring p answer
      let s := r.2
      if r.1 ≠ SUCCESS then
        let s := s.setInPacket p
          { s.inPacket p with beingProcessed := false, processingDone := true }
        let finished := s.finishHandlingPacket p r.1
        (finished.1, .dispatched p handler r.1 :: finished.2)
      else (s, [.dispatched p handler r.1])

/-- A protocol handler finishes with a packet. -/
def protocolFinished (p : ℕ) (result : Ipv6HandlerResult) (status : ErrorT) :
    Ipv6IncomingPath × List Ipv6IncomingAct :=
  let r := (s.setInPacket p
    { s.inPacket p with
      payloadIter := result.payloadIter
      payloadOffset := result.payloadOffset
      nextHeaderId := result.nextHeaderId
      processingDone := result.processingDone }).finishReceivingIPv6Packet p status
  (r.1, .handlerFinished p .protocol status :: r.2)

def step : Ipv6IncomingEvent → Ipv6IncomingPath × List Ipv6IncomingAct
  | .acceptedIpv6PacketForProcessing ifaceId packet header payload answers =>
    s.acceptedIpv6PacketForProcessing wiring ifaceId packet header payload answers
  | .continueProcessingPacketTask answer => s.continueProcessingPacketTask wiring answer
  | .finishReceivingIPv6Packet p result status => s.protocolFinished p result status
  | .skipHeaderIfPossibleTask => s.skipHeaderIfPossibleTask
  | .startForwardingQueuedPacketTask answer => s.startForwardingQueuedPacketTask wiring answer
  | .finishSendingIPv6Packet header status => s.finishSendingIPv6Packet header status
  | .finishForwardingQueuedPacketTask => s.finishForwardingQueuedPacketTask wiring

/-- The path before anything has come in. -/
def initial (inPacket : ℕ → Ipv6InPacket) (header : ℕ → Ipv6BasicHeader) (payload : ℕ → IovBlist) :
    Ipv6IncomingPath where
  inPacket := inPacket
  header := header
  payload := payload
  processedPacketQueue := []
  continueProcessingTaskPosted := false
  inPacketPtr := none
  skipHeaderTaskPosted := false
  forwardedPacketQueue := []
  forwardingInProgress := false
  forwardingStatus := SUCCESS
  startForwardingTaskPosted := false
  finishForwardingTaskPosted := false

end Ipv6IncomingPath

end Whip6
