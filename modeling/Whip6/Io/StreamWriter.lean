import Whip6.Base.Queue
import Whip6.Ipv6.Checksum
import Whip6.Lib.Runs

/-!
# The stream writer

A data unit is written to a stream of bytes as a frame: a start byte, a header with its size and
channel, its bytes, a checksum and an end byte, where bytes that look like the start or the end are
escaped.  The writer first has the checksum computed and then hands the byte writer one byte after
the other; the bytes to be written next are kept in a small buffer, which is filled anew with every
byte of the unit.  At any time the unit may be canceled.
-/

namespace Whip6

open Lib

def DISCRETE_STREAM_SOF : UInt8 := 0xed

def DISCRETE_STREAM_ESC : UInt8 := 0xac

def DISCRETE_STREAM_EXM : UInt8 := 0x20

def DISCRETE_STREAM_EOF : UInt8 := 0x16

inductive DiscreteStreamWriterState
  | idle
  | checksumming
  | transmitting
  | wrappingUp
  deriving DecidableEq

/-- The writer.  `iovBuffer` are the bytes of the buffer that are still to be written; the byte
writer and the checksum computer are at work, and the task is posted, or not. -/
structure DiscreteStreamWriter where
  iovPtr : Option ℕ
  iovRemaining : UInt16
  iovTotal : UInt16
  iovChannel : UInt8
  iovResult : ErrorT
  state : DiscreteStreamWriterState
  canceled : Bool
  iovIter : IovBlistIter
  iovChecksumComp : Ipv6ChecksumComputation
  iovBuffer : List UInt8
  checksumming : Bool
  writing : Bool
  completeWritingTaskPosted : Bool

inductive DiscreteStreamWriterAct
  | accepted (iov : ℕ) (size : UInt16) (channel : UInt8)
  | startWrite (b : UInt8) (status : ErrorT)
  | writeDone (status : ErrorT)
  | canceled (iov : ℕ) (channel : UInt8)
  | doneWriting (iov : Option ℕ) (size : UInt16) (channel : UInt8) (status : ErrorT)
  deriving DecidableEq

/-- Events, with the answers of the checksum computer and of the byte writer. -/
inductive DiscreteStreamWriterEvent
  | initiateWriting (iov : Option ℕ) (size : UInt16) (channel : UInt8) (answer : ErrorT)
  | finishChecksumming (answer : ErrorT)
  | writeDone (status : ErrorT) (answer : ErrorT)
  | completeWritingTask
  | cancelWriting (iov : Option ℕ) (channel : UInt8)

/-- The bytes that stand for a byte between the start and the end of a frame. -/
def serializeByte (val : UInt8) : List UInt8 :=
  if val = DISCRETE_STREAM_SOF ∨ val = DISCRETE_STREAM_EOF ∨ val = DISCRETE_STREAM_ESC then
    [DISCRETE_STREAM_ESC, val ^^^ DISCRETE_STREAM_EXM]
  else [val]

/-- The bytes of a header: the size, in one byte if it fits into seven bits, and the channel. -/
def discreteStreamHeader (size : UInt16) (channel : UInt8) : List UInt8 :=
  (if size ≥ 0x80 then [(size >>> 8).toUInt8 ||| 0x80] else []) ++ [size.toUInt8, channel]

namespace DiscreteStreamWriter

/-- The writer after booting. -/
def init : DiscreteStreamWriter where
  iovPtr := none
  iovRemaining := 0
  iovTotal := 0
  iovChannel := 0
  iovResult := SUCCESS
  state := .idle
  canceled := false
  iovIter := ⟨none, 0⟩
  iovChecksumComp := ⟨0, 0, 0⟩
  iovBuffer := []
  checksumming := false
  writing := false
  completeWritingTaskPosted := false

variable (vectors : ℕ → IovBlist) (stray : UInt8) (writer : DiscreteStreamWriter)

/-- The vector that is being written. -/
def vector : IovBlist :=
  match writer.iovPtr with
  | none => []
  | some iov => vectors iov

def initiateWriting (iov : Option ℕ) (size : UInt16) (channel : UInt8) (answer : ErrorT) :
    ErrorT × DiscreteStreamWriter :=
  if iov = none ∨ size = 0 then (EINVAL, writer)
  else if size > 0x7fff then (ESIZE, writer)
  else if writer.iovPtr ≠ none then (EBUSY, writer)
  else
    let comp := (discreteStreamHeader size channel).foldl ipv6ChecksumComputationProvideWithOneByte
      ipv6ChecksumComputationInit
    let writer := { writer with
      iovPtr := iov
      iovRemaining := size
      iovTotal := size
      iovChannel := channel
      iovIter := ⟨some 0, 0⟩
      state := .checksumming
      canceled := false
      iovChecksumComp := comp }
    if answer ≠ SUCCESS then
      (FAIL, { writer with iovPtr := none, state := .idle, canceled := false })
    else (SUCCESS, { writer with checksumming := true })

/-- The byte writer is handed the first byte of the buffer, and takes it or not. -/
def startWrite (answer : ErrorT) : DiscreteStreamWriter × List DiscreteStreamWriterAct :=
  match writer.iovBuffer with
  | [] => (writer, [])
  | b :: iovBuffer =>
    if answer = SUCCESS then
      ({ writer with iovBuffer := iovBuffer, writing := true }, [.startWrite b answer])
    else (writer, [.startWrite b answer])

/-- The writer gives its vector back. -/
def done (size : UInt16) (status : ErrorT) :
    DiscreteStreamWriter × List DiscreteStreamWriterAct :=
  ({ writer with iovPtr := none, state := .idle, canceled := false },
    [.doneWriting writer.iovPtr size writer.iovChannel status])

/-- The checksum computer has provided the bytes of the vector to the computation, as many as there
are of them. -/
def finishChecksumming (answer : ErrorT) : DiscreteStreamWriter × List DiscreteStreamWriterAct :=
  let r := ipv6ChecksumComputationProvideWithIovAndAdvanceIovIterator writer.iovChecksumComp
    (writer.vector vectors) writer.iovIter writer.iovTotal.toNat
  let writer := { writer with checksumming := false, iovIter := r.2.1, iovChecksumComp := r.2.2 }
  if writer.canceled then writer.done 0 ECANCEL
  else if r.1 ≠ writer.iovRemaining.toNat then writer.done 0 FAIL
  else
    let writer := { writer with
      iovIter := ⟨some 0, 0⟩
      iovBuffer := DISCRETE_STREAM_SOF ::
        (discreteStreamHeader writer.iovRemaining writer.iovChannel).flatMap serializeByte }
    let w := writer.startWrite answer
    if answer = SUCCESS then ({ w.1 with state := .transmitting, canceled := false }, w.2)
    else
      -- The status is still that of the checksum.
      let d := w.1.done 0 SUCCESS
      (d.1, w.2 ++ d.2)

/-- The next byte of the vector goes to the buffer, and the last one takes the checksum and the end
of the frame with it.  Where the element is empty, `stray` is read. -/
def fillBuffer (i : ℕ) : DiscreteStreamWriter :=
  let elem := (writer.vector vectors).getD i []
  let offset := writer.iovIter.offset + 1
  let iovRemaining := writer.iovRemaining - 1
  let checksum := ipv6ChecksumComputationFinalize writer.iovChecksumComp
  { writer with
    iovIter := if offset ≥ elem.length then ⟨iovNext (writer.vector vectors) i, 0⟩
      else ⟨some i, offset⟩
    iovRemaining := iovRemaining
    iovBuffer := serializeByte (elem.getD writer.iovIter.offset stray) ++
      if iovRemaining = 0 then
        serializeByte (checksum >>> 8).toUInt8 ++ serializeByte checksum.toUInt8 ++
          [DISCRETE_STREAM_EOF]
      else [] }

/-- The writer stops, with a result that the task reports. -/
def wrapUp (status : ErrorT) : DiscreteStreamWriter :=
  { writer with
    state := .wrappingUp
    canceled := false
    iovResult := status
    completeWritingTaskPosted := true }

/-- The next byte is handed over, if there is one, and otherwise the writer stops. -/
def writeNext (answer : ErrorT) : DiscreteStreamWriter × List DiscreteStreamWriterAct :=
  if writer.iovBuffer = [] then (writer.wrapUp SUCCESS, [])
  else
    let w := writer.startWrite answer
    if answer = SUCCESS then w else (w.1.wrapUp FAIL, w.2)

def writeDone (status answer : ErrorT) : DiscreteStreamWriter × List DiscreteStreamWriterAct :=
  let writer := { writer with writing := false }
  if writer.state ≠ .transmitting then (writer, [])
  else if writer.canceled then (writer.wrapUp ECANCEL, [])
  else if status ≠ SUCCESS then (writer.wrapUp FAIL, [])
  else if writer.iovBuffer = [] ∧ writer.iovRemaining ≠ 0 then
    match writer.iovIter.currElem with
    | none => (writer.wrapUp EINVAL, [])
    | some i => (writer.fillBuffer vectors stray i).writeNext answer
  else writer.writeNext answer

def completeWritingTask : DiscreteStreamWriter × List DiscreteStreamWriterAct :=
  let writer := { writer with completeWritingTaskPosted := false }
  if writer.state ≠ .wrappingUp then (writer, [])
  else
    let status := if writer.canceled then ECANCEL else writer.iovResult
    writer.done (writer.iovTotal - writer.iovRemaining) status

def cancelWriting (iov : Option ℕ) (channel : UInt8) : ErrorT × DiscreteStreamWriter :=
  if writer.iovPtr ≠ iov ∨ writer.iovChannel ≠ channel then (EINVAL, writer)
  else (SUCCESS, { writer with canceled := true })

/-- One event.  The checksum computer, the byte writer and the task only come when they are
awaited. -/
def step : DiscreteStreamWriterEvent → DiscreteStreamWriter × List DiscreteStreamWriterAct
  | .initiateWriting iov size channel answer =>
    let r := writer.initiateWriting iov size channel answer
    (r.2, match iov with
      | some iov => if r.1 = SUCCESS then [.accepted iov size channel] else []
      | none => [])
  | .finishChecksumming answer =>
    if writer.checksumming then writer.finishChecksumming vectors answer else (writer, [])
  | .writeDone status answer =>
    if writer.writing then
      let r := writer.writeDone vectors stray status answer
      (r.1, .writeDone status :: r.2)
    else (writer, [])
  | .completeWritingTask =>
    if writer.completeWritingTaskPosted then writer.completeWritingTask else (writer, [])
  | .cancelWriting iov channel =>
    let r := writer.cancelWriting iov channel
    (r.2, match iov with
      | some iov => if r.1 = SUCCESS then [.canceled iov channel] else []
      | none => [])

end DiscreteStreamWriter

end Whip6
