import Whip6.Base.Queue
import Whip6.Lib.RoundRobin
import Whip6.Lib.Runs

/-!
# The stream virtualizer

Several clients read data units from, and write data units to, one stream.  A task takes the writes of
the clients in turn and hands them to the writer below, one at a time.  When the virtualizer is to be
stopped, the task cancels the write that is in flight, waits for a read that is in progress, and then
finishes the writes that are left.  Clients may call from within the events that they are sent; the
handlers are therefore cut at these events, and go on in a step of their own.
-/

namespace Whip6

open Lib

structure DiscreteStreamClientState where
  iovWrPtr : Option ℕ
  iovRdMaxLen : ℕ
  iovWrLen : ℕ
  iovRdChannel : ℕ
  iovWrChannel : ℕ

/-- A write of a client: the vector, the number of bytes and the channel. -/
structure DiscreteStreamWrite where
  iov : ℕ
  size : ℕ
  channel : ℕ
  deriving DecidableEq

/-- The write that a client has started, if any. -/
def DiscreteStreamClientState.write (client : DiscreteStreamClientState) :
    Option DiscreteStreamWrite :=
  client.iovWrPtr.map fun iov => ⟨iov, client.iovWrLen, client.iovWrChannel⟩

/-- Where a handler is that has sent an event to a client. -/
inductive DiscreteStreamPhase
  | idle
  /-- A client is told of the end of its write; then the index moves to `wrClientIdx`. -/
  | told (wrClientIdx : ℕ)
  /-- A client is asked for a vector to read to. -/
  | asked (clientId size channel : ℕ)
  deriving DecidableEq

structure DiscreteStreamVirtualizer where
  clientData : ℕ → DiscreteStreamClientState
  wrClientIdx : ℕ
  rdClientIdx : ℕ
  isActive : Bool
  changingState : Bool
  writingActive : Bool
  writingCanceled : Bool
  handleClientsTaskPosted : Bool
  phase : DiscreteStreamPhase

inductive DiscreteStreamAct
  | accepted (clientId : ℕ) (write : DiscreteStreamWrite)
  | initiated (clientId : ℕ) (write : DiscreteStreamWrite) (status : ErrorT)
  | canceledBelow (clientId : ℕ)
  | doneBelow (iov : ℕ) (status : ErrorT)
  | finished (clientId : ℕ) (write : Option DiscreteStreamWrite) (status : ErrorT)
  | finishedReading (clientId iov size : ℕ) (status : ErrorT)
  | stopping
  | stopped
  deriving DecidableEq

/-- Events, with the answers of the reader and the writer below. -/
inductive DiscreteStreamEvent
  | start (answer : ErrorT)
  | stop (answer : ErrorT)
  | startReadingDataUnit (channel clientId maxSize : ℕ)
  | startWritingDataUnit (channel clientId iov size : ℕ)
  | readyToRead (size channel : ℕ)
  /-- The client that was asked for a vector returns one, or none. -/
  | provided (iov : Option ℕ)
  | doneReading (iov size : ℕ) (status : ErrorT)
  | handleClientsTask (answer : ErrorT)
  | doneWriting (iov : ℕ) (status : ErrorT)
  /-- The client that was told of the end of its write returns. -/
  | returned

namespace DiscreteStreamVirtualizer

variable (numClients : ℕ) (s : DiscreteStreamVirtualizer)

def setClient (clientId : ℕ) (client : DiscreteStreamClientState) : DiscreteStreamVirtualizer :=
  { s with clientData := Function.update s.clientData clientId client }

def start (answer : ErrorT) : ErrorT × DiscreteStreamVirtualizer :=
  if s.changingState then (EBUSY, s)
  else if s.isActive then (EALREADY, s)
  else if answer ≠ SUCCESS then (FAIL, s)
  else (SUCCESS, { s with isActive := true, writingActive := false, writingCanceled := false })

def stop (answer : ErrorT) : ErrorT × DiscreteStreamVirtualizer × List DiscreteStreamAct :=
  if s.changingState then (EBUSY, s, [])
  else if !s.isActive then (EALREADY, s, [])
  else if answer ≠ SUCCESS then (FAIL, s, [])
  else (SUCCESS, { s with changingState := true, handleClientsTaskPosted := true }, [.stopping])

def startReadingDataUnit (channel clientId maxSize : ℕ) : ErrorT × DiscreteStreamVirtualizer :=
  let client := s.clientData clientId
  if !s.isActive || s.changingState then (EOFF, s)
  else if maxSize = 0 then (EINVAL, s)
  else if client.iovRdMaxLen > 0 then (EBUSY, s)
  else
    (SUCCESS, s.setClient clientId { client with iovRdMaxLen := maxSize, iovRdChannel := channel })

def startWritingDataUnit (channel clientId iov size : ℕ) :
    ErrorT × DiscreteStreamVirtualizer × List DiscreteStreamAct :=
  let client := s.clientData clientId
  if !s.isActive || s.changingState then (EOFF, s, [])
  else if size = 0 then (EINVAL, s, [])
  else if size > 0x7fff then (ESIZE, s, [])
  else if client.iovWrPtr ≠ none then (EBUSY, s, [])
  else
    let client := { client with iovWrPtr := some iov, iovWrLen := size, iovWrChannel := channel }
    (SUCCESS, { s.setClient clientId client with handleClientsTaskPosted := true },
      [.accepted clientId ⟨iov, size, channel⟩])

def readyToRead (size channel : ℕ) : DiscreteStreamVirtualizer :=
  if !s.isActive || s.changingState then s
  else
    match (List.range numClients).find? fun i =>
        (s.clientData i).iovRdChannel = channel ∧ (s.clientData i).iovRdMaxLen ≥ size with
    | none => s
    | some clientId => { s with phase := .asked clientId size channel }

/-- The rest of `readyToRead`. -/
def provided (iov : Option ℕ) : DiscreteStreamVirtualizer × List DiscreteStreamAct :=
  match s.phase, iov with
  | .asked clientId _ _, some iov =>
    let s := { s with phase := .idle }
    if s.changingState then
      (s.setClient clientId { s.clientData clientId with iovRdMaxLen := 0 },
        [.finishedReading clientId iov 0 EOFF])
    else ({ s with rdClientIdx := clientId }, [])
  | .asked _ _ _, none => ({ s with phase := .idle }, [])
  | _, _ => (s, [])

def doneReading (iov size : ℕ) (status : ErrorT) :
    DiscreteStreamVirtualizer × List DiscreteStreamAct :=
  let clientId := s.rdClientIdx
  let s := s.setClient clientId { s.clientData clientId with iovRdMaxLen := 0 }
  ({ s with
      rdClientIdx := numClients
      handleClientsTaskPosted := s.handleClientsTaskPosted || s.changingState },
    [.finishedReading clientId iov size status])

/-- Tell a client of the end of its write; behind that, the index moves to `wrClientIdx`. -/
def finishHandlingWriteClient (clientId : ℕ) (status : ErrorT) (wrClientIdx : ℕ) :
    DiscreteStreamVirtualizer × List DiscreteStreamAct :=
  let client := s.clientData clientId
  ({ s.setClient clientId { client with iovWrPtr := none } with
      handleClientsTaskPosted := true
      phase := .told wrClientIdx },
    [.finished clientId client.write status])

/-- The task while the virtualizer is being stopped. -/
def stopClients : DiscreteStreamVirtualizer × List DiscreteStreamAct :=
  if s.writingActive then
    if !s.writingCanceled then
      ({ s with writingCanceled := true }, [.canceledBelow s.wrClientIdx])
    else (s, [])
  else if s.rdClientIdx = numClients then
    -- The identifier counts down while the pointer to the client goes up.
    match (List.range numClients).find? fun i => (s.clientData i).iovWrPtr.isSome with
    | some i => s.finishHandlingWriteClient (numClients - i) ECANCEL s.wrClientIdx
    | none =>
      ({ s with writingCanceled := false, changingState := false, isActive := false }, [.stopped])
  else (s, [])

/-- The task while the virtualizer works. -/
def serveClients (answer : ErrorT) : DiscreteStreamVirtualizer × List DiscreteStreamAct :=
  if s.writingActive then (s, [])
  else
    match (circle numClients s.wrClientIdx).find? fun i => (s.clientData i).iovWrPtr.isSome with
    | none => (s, [])
    | some clientId =>
      match (s.clientData clientId).write with
      | none => (s, [])
      | some write =>
        if answer = SUCCESS then
          ({ s with writingActive := true, wrClientIdx := clientId },
            [.initiated clientId write answer])
        else
          let r := s.finishHandlingWriteClient clientId answer (nextIdx numClients clientId)
          (r.1, .initiated clientId write answer :: r.2)

def handleClientsTask (answer : ErrorT) : DiscreteStreamVirtualizer × List DiscreteStreamAct :=
  let s := { s with handleClientsTaskPosted := false }
  if !s.isActive then (s, [])
  else if s.changingState then s.stopClients numClients
  else s.serveClients numClients answer

def doneWriting (iov : ℕ) (status : ErrorT) :
    DiscreteStreamVirtualizer × List DiscreteStreamAct :=
  if !s.writingActive ∨ (s.clientData s.wrClientIdx).iovWrPtr ≠ some iov then
    (s, [.doneBelow iov status])
  else
    let r := { s with writingActive := false }.finishHandlingWriteClient s.wrClientIdx status
      (nextIdx numClients s.wrClientIdx)
    (r.1, .doneBelow iov status :: r.2)

def step : DiscreteStreamEvent → DiscreteStreamVirtualizer × List DiscreteStreamAct
  | .start answer => ((s.start answer).2, [])
  | .stop answer => (s.stop answer).2
  | .startReadingDataUnit channel clientId maxSize =>
    ((s.startReadingDataUnit channel clientId maxSize).2, [])
  | .startWritingDataUnit channel clientId iov size =>
    (s.startWritingDataUnit channel clientId iov size).2
  | .readyToRead size channel => (s.readyToRead numClients size channel, [])
  | .provided iov => s.provided iov
  | .doneReading iov size status => s.doneReading numClients iov size status
  | .handleClientsTask answer => s.handleClientsTask numClients answer
  | .doneWriting iov status => s.doneWriting numClients iov status
  | .returned =>
    match s.phase with
    | .told wrClientIdx => ({ s with wrClientIdx := wrClientIdx, phase := .idle }, [])
    | _ => (s, [])

/-- The virtualizer after `Init.init`. -/
def initial : DiscreteStreamVirtualizer where
  clientData := fun _ => ⟨none, 0, 0, 0, 0⟩
  wrClientIdx := 0
  rdClientIdx := numClients
  isActive := false
  changingState := false
  writingActive := false
  writingCanceled := false
  handleClientsTaskPosted := false
  phase := .idle

end DiscreteStreamVirtualizer

end Whip6
