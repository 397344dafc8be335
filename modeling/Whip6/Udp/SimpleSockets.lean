import Whip6.Base.IoVec
import Whip6.Base.Queue
import Whip6.Lib.RoundRobin
import Whip6.Lib.Runs
import Whip6.Udp.DatagramWrapping

/-!
# Simple UDP sockets

A client sends a buffer through its socket, and receives a datagram into a buffer.  What is to be
sent is copied to a chain that is allocated for it and goes to the raw socket below; a chain that the
raw socket received is copied to the buffer of the client and is then given back.  Two tasks copy
some bytes of a socket at a time, and take the sockets in turn.
-/

namespace Whip6

open Lib

/-- A buffer of a client: the memory from its pointer on (`none` is `NULL`), which is the client's
alone, and its length. -/
structure UdpBuffer where
  bufPtr : Option (List UInt8)
  bufLen : ℕ
  bufLen_le : ∀ mem ∈ bufPtr, bufLen ≤ mem.length

/-- A chain of I/O vector elements at an address. -/
structure UdpPayloadIov where
  ptr : ℕ
  iov : IovBlist

/-- The chain that a pointer points to. -/
def payloadChain : Option UdpPayloadIov → IovBlist
  | none => []
  | some payload => payload.iov

structure UdpSimpleOutState where
  bufPtr : Option (List UInt8)
  bufLen : ℕ
  sockAddrPtr : Option UdpSocketAddr
  payloadPtr : Option UdpPayloadIov
  bufOff : ℕ
  payloadIter : IovBlistIter

structure UdpSimpleInState where
  bufPtr : Option (List UInt8)
  bufLen : ℕ
  sockAddrPtr : Option UdpSocketAddr
  payloadPtr : Option UdpPayloadIov
  payloadLen : ℕ
  bufOff : ℕ
  payloadIter : IovBlistIter

/-- A socket; the flags of its state are fields. -/
structure UdpSimpleSocket where
  inBufProvided : Bool
  inIovProvided : Bool
  inDelPending : Bool
  outTrmInProgress : Bool
  outBufAndIovProvided : Bool
  outState : UdpSimpleOutState
  inState : UdpSimpleInState

/-- What a socket does. -/
inductive UdpSimpleAct
  /-- Sending starts, with the chain that was allocated for it, if any. -/
  | sendStarted (buf : UdpBuffer) (sockAddrOrNull : Option UdpSocketAddr) (chain : Option ℕ)
  | sendRefused (status : ErrorT)
  /-- The raw socket is asked to send, and answers. -/
  | rawStarted (payloadIov : Option UdpPayloadIov) (payloadSize : ℕ)
    (sockAddrOrNull : Option UdpSocketAddr) (answer : ErrorT)
  | rawFinished (status : ErrorT)
  | chainFreed (chain : ℕ)
  | sendFinished (bufPtr : Option (List UInt8)) (bufLen : ℕ)
    (sockAddrOrNull : Option UdpSocketAddr) (status : ErrorT)
  | receiveStarted (buf : UdpBuffer) (sockAddrOrNull : Option UdpSocketAddr)
  | receiveRefused (status : ErrorT)
  /-- A chain of the raw socket is accepted. -/
  | iovAccepted (payloadIov : Option UdpPayloadIov) (payloadSize : ℕ) (srcSockAddr : UdpSocketAddr)
  | iovRefused (status : ErrorT)
  /-- It is given back. -/
  | iovFinished (payloadIov : Option UdpPayloadIov)
  | receiveFinished (bufPtr : Option (List UInt8)) (payloadLen : ℕ)
    (sockAddrOrNull : Option UdpSocketAddr) (status : ErrorT)

namespace UdpSimpleSocket

variable (maxBytesCopiedInTask : ℕ) (socket : UdpSimpleSocket)

/-! ## Sending -/

/-- `answer` is the chain that is allocated for the buffer, if there is memory. -/
def startSendingDatagram (buf : UdpBuffer) (sockAddrOrNull : Option UdpSocketAddr)
    (answer : Option UdpPayloadIov) : ErrorT × UdpSimpleSocket × List UdpSimpleAct :=
  if buf.bufLen > MAX_UDP_PAYLOAD then (ESIZE, socket, [.sendRefused ESIZE])
  else if buf.bufLen > 0 ∧ buf.bufPtr.isNone then (EINVAL, socket, [.sendRefused EINVAL])
  else if socket.outBufAndIovProvided then (EBUSY, socket, [.sendRefused EBUSY])
  else
    let payloadPtr := if buf.bufLen = 0 then none else answer
    if buf.bufLen ≠ 0 ∧ payloadPtr.isNone then
      (ENOMEM, { socket with outState := { socket.outState with payloadPtr := none } },
        [.sendRefused ENOMEM])
    else
      (SUCCESS,
        { socket with
          outBufAndIovProvided := true
          outState :=
            { bufPtr := buf.bufPtr
              bufLen := buf.bufLen
              sockAddrPtr := sockAddrOrNull
              payloadPtr := payloadPtr
              bufOff := 0
              payloadIter := iovIteratorInitToBeginning (payloadChain payloadPtr) } },
        [.sendStarted buf sockAddrOrNull (payloadPtr.map UdpPayloadIov.ptr)])

def finishSendingDatagram (status : ErrorT) : UdpSimpleSocket × List UdpSimpleAct :=
  ({ socket with
      outTrmInProgress := false
      outBufAndIovProvided := false
      outState := { socket.outState with payloadPtr := none } },
    (socket.outState.payloadPtr.map fun payload => .chainFreed payload.ptr).toList ++
      [.sendFinished socket.outState.bufPtr socket.outState.bufLen socket.outState.sockAddrPtr
        status])

def isReadyToSend : Bool := socket.outBufAndIovProvided && !socket.outTrmInProgress

/-- `processOutgoingPacketsTask` with a socket; `answer` is the one of the raw socket. -/
def processOutgoingPacket (answer : ErrorT) : UdpSimpleSocket × List UdpSimpleAct :=
  let out := socket.outState
  let leftBytes := out.bufLen - out.bufOff
  if leftBytes = 0 then
    let asked := .rawStarted out.payloadPtr out.bufLen out.sockAddrPtr answer
    if answer ≠ SUCCESS then
      let r := socket.finishSendingDatagram FAIL
      (r.1, asked :: r.2)
    else ({ socket with outTrmInProgress := true }, [asked])
  else
    let leftBytes := if leftBytes > maxBytesCopiedInTask then maxBytesCopiedInTask else leftBytes
    let r := iovIteratorWriteAndMoveForward (payloadChain out.payloadPtr) out.payloadIter
      (out.bufPtr.map (List.drop out.bufOff)) leftBytes
    let out :=
      { out with
        payloadPtr := out.payloadPtr.map fun payload => { payload with iov := r.2.2 }
        payloadIter := r.2.1 }
    if r.1 ≠ leftBytes then { socket with outState := out }.finishSendingDatagram FAIL
    else ({ socket with outState := { out with bufOff := out.bufOff + r.1 } }, [])

/-- `UDPRawSender.finishSending` -/
def rawFinishSending (status : ErrorT) : UdpSimpleSocket × List UdpSimpleAct :=
  let r := socket.finishSendingDatagram (if status ≠ SUCCESS then FAIL else SUCCESS)
  (r.1, .rawFinished status :: r.2)

/-! ## Receiving -/

def startReceivingDatagram (buf : UdpBuffer) (sockAddrOrNull : Option UdpSocketAddr) :
    UdpSimpleSocket × List UdpSimpleAct :=
  if buf.bufPtr.isNone ∧ buf.bufLen > 0 then (socket, [.receiveRefused EINVAL])
  else if socket.inBufProvided then (socket, [.receiveRefused EBUSY])
  else
    ({ socket with
        inBufProvided := true
        inState :=
          { socket.inState with
            bufPtr := buf.bufPtr
            bufLen := buf.bufLen
            sockAddrPtr := sockAddrOrNull } },
      [.receiveStarted buf sockAddrOrNull])

def startHandlingIncomingIov (payloadIov : Option UdpPayloadIov) (payloadSize : ℕ)
    (srcSockAddr : UdpSocketAddr) : ErrorT × UdpSimpleSocket × List UdpSimpleAct :=
  if payloadIov.isNone ∧ payloadSize > 0 then (EINVAL, socket, [.iovRefused EINVAL])
  else if socket.inBufProvided = false then (EOFF, socket, [.iovRefused EOFF])
  else if socket.inIovProvided || socket.inDelPending then (EBUSY, socket, [.iovRefused EBUSY])
  else
    (SUCCESS,
      { socket with
        inIovProvided := true
        inState :=
          { socket.inState with
            payloadPtr := payloadIov
            payloadLen := payloadSize
            bufOff := 0
            payloadIter := iovIteratorInitToBeginning (payloadChain payloadIov)
            sockAddrPtr := socket.inState.sockAddrPtr.map fun _ => srcSockAddr } },
      [.iovAccepted payloadIov payloadSize srcSockAddr])

def finishHandlingIncomingIov : UdpSimpleSocket × List UdpSimpleAct :=
  ({ socket with inIovProvided := false }, [.iovFinished socket.inState.payloadPtr])

def finishReceivingDatagram (status : ErrorT) : UdpSimpleSocket × List UdpSimpleAct :=
  ({ socket with inBufProvided := false, inDelPending := false },
    [.receiveFinished socket.inState.bufPtr socket.inState.payloadLen socket.inState.sockAddrPtr
      status])

def isReadyToReceive : Bool := socket.inIovProvided || socket.inDelPending

/-- `processIncomingPacketsTask` with a socket. -/
def processIncomingPacket : UdpSimpleSocket × List UdpSimpleAct :=
  let inState := socket.inState
  if socket.inDelPending then
    socket.finishReceivingDatagram (if inState.payloadLen ≤ inState.bufLen then SUCCESS else ESIZE)
  else
    let leftBytes := if inState.payloadLen < inState.bufLen then inState.payloadLen else inState.bufLen
    let leftBytes := leftBytes - inState.bufOff
    if leftBytes = 0 then { socket with inDelPending := true }.finishHandlingIncomingIov
    else
      let leftBytes := if leftBytes > maxBytesCopiedInTask then maxBytesCopiedInTask else leftBytes
      let r := iovIteratorReadAndMoveForward (payloadChain inState.payloadPtr) inState.payloadIter
        (inState.bufPtr.map (List.drop inState.bufOff)) leftBytes
      let inState :=
        { inState with
          bufPtr := inState.bufPtr.map fun mem => mem.take inState.bufOff ++ r.2.2.getD []
          payloadIter := r.2.1 }
      if r.1 ≠ leftBytes then { socket with inState := inState }.finishHandlingIncomingIov
      else ({ socket with inState := { inState with bufOff := inState.bufOff + r.1 } }, [])

end UdpSimpleSocket

/-! ## The virtualizer -/

structure UdpSimpleSocketVirtualizer where
  sockets : ℕ → UdpSimpleSocket
  currInSock : ℕ
  currOutSock : ℕ
  processIncomingPacketsTaskPosted : Bool
  processOutgoingPacketsTaskPosted : Bool

/-- Events, with the answers of the allocator and of the raw sockets. -/
inductive UdpSimpleEvent
  | startSending (sockId : ℕ) (buf : UdpBuffer) (answer : Option UdpPayloadIov)
  | startSendingTo (sockId : ℕ) (buf : UdpBuffer) (sockAddr : Option UdpSocketAddr)
    (answer : Option UdpPayloadIov)
  | processOutgoingPacketsTask (answer : ErrorT)
  | rawFinishSending (sockId : ℕ) (status : ErrorT)
  | startReceiving (sockId : ℕ) (buf : UdpBuffer)
  | startReceivingFrom (sockId : ℕ) (buf : UdpBuffer) (sockAddr : Option UdpSocketAddr)
  | rawStartReceiving (sockId : ℕ) (payloadIov : Option UdpPayloadIov) (payloadSize : ℕ)
    (srcSockAddr : UdpSocketAddr)
  | processIncomingPacketsTask

namespace UdpSimpleSocketVirtualizer

variable (numSockets maxBytesCopiedInTask : ℕ) (s : UdpSimpleSocketVirtualizer)

/-- A socket takes a step; what it does is told with its number. -/
def update (sockId : ℕ) (r : UdpSimpleSocket × List UdpSimpleAct) :
    UdpSimpleSocketVirtualizer × List (ℕ × UdpSimpleAct) :=
  ({ s with sockets := Function.update s.sockets sockId r.1 }, r.2.map (Prod.mk sockId))

def startSendingDatagram (buf : UdpBuffer) (sockAddrOrNull : Option UdpSocketAddr) (sockId : ℕ)
    (answer : Option UdpPayloadIov) : UdpSimpleSocketVirtualizer × List (ℕ × UdpSimpleAct) :=
  let r := (s.sockets sockId).startSendingDatagram buf sockAddrOrNull answer
  { s with
    processOutgoingPacketsTaskPosted := s.processOutgoingPacketsTaskPosted || r.1 == SUCCESS }.update
      sockId r.2

def processOutgoingPacketsTask (answer : ErrorT) :
    UdpSimpleSocketVirtualizer × List (ℕ × UdpSimpleAct) :=
  match (circle numSockets s.currOutSock).find? fun i => (s.sockets i).isReadyToSend with
  | none => ({ s with processOutgoingPacketsTaskPosted := false }, [])
  | some sockId =>
    { s with
      currOutSock := nextIdx numSockets sockId
      processOutgoingPacketsTaskPosted := true }.update sockId
        ((s.sockets sockId).processOutgoingPacket maxBytesCopiedInTask answer)

def startHandlingIncomingIov (payloadIov : Option UdpPayloadIov) (payloadSize : ℕ)
    (srcSockAddr : UdpSocketAddr) (sockId : ℕ) :
    UdpSimpleSocketVirtualizer × List (ℕ × UdpSimpleAct) :=
  let r := (s.sockets sockId).startHandlingIncomingIov payloadIov payloadSize srcSockAddr
  { s with
    processIncomingPacketsTaskPosted := s.processIncomingPacketsTaskPosted || r.1 == SUCCESS }.update
      sockId r.2

def processIncomingPacketsTask : UdpSimpleSocketVirtualizer × List (ℕ × UdpSimpleAct) :=
  match (circle numSockets s.currInSock).find? fun i => (s.sockets i).isReadyToReceive with
  | none => ({ s with processIncomingPacketsTaskPosted := false }, [])
  | some sockId =>
    { s with
      currInSock := nextIdx numSockets sockId
      processIncomingPacketsTaskPosted := true }.update sockId
        ((s.sockets sockId).processIncomingPacket maxBytesCopiedInTask)

def step : UdpSimpleEvent → UdpSimpleSocketVirtualizer × List (ℕ × UdpSimpleAct)
  | .startSending sockId buf answer => s.startSendingDatagram buf none sockId answer
  | .startSendingTo sockId buf sockAddr answer =>
    match sockAddr with
    | none => (s, [(sockId, .sendRefused EINVAL)])
    | some sockAddr => s.startSendingDatagram buf (some sockAddr) sockId answer
  | .processOutgoingPacketsTask answer =>
    if s.processOutgoingPacketsTaskPosted then
      s.processOutgoingPacketsTask numSockets maxBytesCopiedInTask answer
    else (s, [])
  | .rawFinishSending sockId status =>
    s.update sockId ((s.sockets sockId).rawFinishSending status)
  | .startReceiving sockId buf =>
    s.update sockId ((s.sockets sockId).startReceivingDatagram buf none)
  | .startReceivingFrom sockId buf sockAddr =>
    match sockAddr with
    | none => (s, [(sockId, .receiveRefused EINVAL)])
    | some sockAddr =>
      s.update sockId ((s.sockets sockId).startReceivingDatagram buf (some sockAddr))
  | .rawStartReceiving sockId payloadIov payloadSize srcSockAddr =>
    s.startHandlingIncomingIov payloadIov payloadSize srcSockAddr sockId
  | .processIncomingPacketsTask =>
    if s.processIncomingPacketsTaskPosted then
      s.processIncomingPacketsTask numSockets maxBytesCopiedInTask
    else (s, [])

/-- The virtualizer after booting. -/
def initial : UdpSimpleSocketVirtualizer where
  sockets _ :=
    { inBufProvided := false
      inIovProvided := false
      inDelPending := false
      outTrmInProgress := false
      outBufAndIovProvided := false
      outState := ⟨none, 0, none, none, 0, iovIteratorInvalidate⟩
      inState := ⟨none, 0, none, none, 0, 0, iovIteratorInvalidate⟩ }
  currInSock := 0
  currOutSock := 0
  processIncomingPacketsTaskPosted := false
  processOutgoingPacketsTaskPosted := false

/-- The sockets there are are used, and a raw socket finishes only what it sends. -/
def Allowed (s : UdpSimpleSocketVirtualizer) : UdpSimpleEvent → Prop
  | .startSending sockId _ _ => sockId < numSockets
  | .startSendingTo sockId _ _ _ => sockId < numSockets
  | .processOutgoingPacketsTask _ => True
  | .rawFinishSending sockId _ => sockId < numSockets ∧ (s.sockets sockId).outTrmInProgress
  | .startReceiving sockId _ => sockId < numSockets
  | .startReceivingFrom sockId _ _ => sockId < numSockets
  | .rawStartReceiving sockId _ _ _ => sockId < numSockets
  | .processIncomingPacketsTask => True

end UdpSimpleSocketVirtualizer

end Whip6
