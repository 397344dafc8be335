import Whip6.Base.Queue
import Whip6.Lib.Runs

/-!
# The buffered reader

Bytes come one at a time, in interrupts, and go to a ring, from which a task moves them to the buffer
of the user.  When the ring is full the oldest byte in it is lost.  The task takes the number of the
bytes that were lost so far and reports it, and then moves bytes until there is no byte or no buffer
left.  It can be interrupted between any two accesses to what it shares with the interrupts.
-/

namespace Whip6

/-- Where the task is: it does not run, it is about to look for a byte, or it has taken one that is
to be stored. -/
inductive BufferedReaderTask
  | idle
  | looking
  | storing (value : UInt8)

/-- The reader.  `externalBuffer` is what has been written to the buffer of the user, and
`isReading` says that an interrupt will come. -/
structure BufferedReader where
  internalBuffer : ℕ → UInt8
  internalBufferHead : UInt8
  internalBufferTail : UInt8
  externalBuffer : Option (List UInt8)
  externalBufferSize : UInt16
  externalBufferPos : UInt16
  isActive : Bool
  isReading : Bool
  lostBytes : UInt16
  processPosted : Bool
  task : BufferedReaderTask

/-- What happens to bytes: `received` and `failed` are interrupts, `dropped` is the oldest byte that
is lost, `started` is when the task takes the number of lost bytes, `taken` is a byte that it takes
from the ring. -/
inductive BufferedReaderAct
  | received (val : UInt8)
  | failed
  | dropped (val : UInt8)
  | started
  | bytesLost (lostCount : UInt16)
  | taken (val : UInt8)
  | readDone (bytes : List UInt8) (capacity : UInt16)
  | flushed
  deriving DecidableEq

/-- Events.  `process` is the next step of the task, or its start. -/
inductive BufferedReaderEvent
  | setActive (active : Bool)
  | startRead (isNull : Bool) (cap : UInt16)
  | flush
  | readDone (result : ErrorT) (val : UInt8)
  | process

namespace BufferedReader

/-- The reader after booting. -/
def init : BufferedReader where
  internalBuffer := fun _ => 0
  internalBufferHead := 0
  internalBufferTail := 0
  externalBuffer := none
  externalBufferSize := 0
  externalBufferPos := 0
  isActive := false
  isReading := false
  lostBytes := 0
  processPosted := false
  task := .idle

variable (internalBufferSize : ℕ+) (reader : BufferedReader)

def internalBufferIncPos (pos : UInt8) : UInt8 :=
  UInt8.ofNat ((pos.toNat + 1) % internalBufferSize)

def setActive (active : Bool) : BufferedReader :=
  if active && !reader.isReading then { reader with isActive := active, isReading := true }
  else { reader with isActive := active }

def startRead (isNull : Bool) (cap : UInt16) : ErrorT × BufferedReader :=
  if isNull = true ∨ cap = 0 then (EINVAL, reader)
  else if reader.externalBuffer.isSome then (EBUSY, reader)
  else
    (SUCCESS,
      { reader with
        externalBuffer := some []
        externalBufferSize := cap
        externalBufferPos := 0
        processPosted := true })

def flush : BufferedReader :=
  { reader with
    internalBufferHead := reader.internalBufferTail
    externalBuffer := none }

/-- The task is posted if something was lost or there is a buffer. -/
def postProcess : BufferedReader :=
  { reader with
    processPosted := reader.processPosted || reader.lostBytes != 0 || reader.externalBuffer.isSome }

/-- The interrupt. -/
def readDone (result : ErrorT) (val : UInt8) : BufferedReader × List BufferedReaderAct :=
  if reader.isActive = false then ({ reader with isReading := false }, [])
  else if result ≠ SUCCESS then
    (postProcess { reader with lostBytes := reader.lostBytes + 1 }, [.failed])
  else
    let reader := { reader with
      internalBuffer := Function.update reader.internalBuffer reader.internalBufferHead.toNat val
      internalBufferHead := internalBufferIncPos internalBufferSize reader.internalBufferHead }
    if reader.internalBufferHead = reader.internalBufferTail then
      (postProcess { reader with
          lostBytes := reader.lostBytes + 1
          internalBufferTail := internalBufferIncPos internalBufferSize reader.internalBufferTail },
        [.received val, .dropped (reader.internalBuffer reader.internalBufferTail.toNat)])
    else (reader.postProcess, [.received val])

/-- A step of the task. -/
def process : BufferedReader × List BufferedReaderAct :=
  match reader.task with
  | .idle =>
    if reader.processPosted then
      ({ reader with processPosted := false, lostBytes := 0, task := .looking },
        .started :: if reader.lostBytes ≠ 0 then [.bytesLost reader.lostBytes] else [])
    else (reader, [])
  | .looking =>
    if reader.externalBuffer = none then ({ reader with task := .idle }, [])
    else if reader.internalBufferHead = reader.internalBufferTail then
      ({ reader with task := .idle }, [])
    else
      let value := reader.internalBuffer reader.internalBufferTail.toNat
      ({ reader with
          internalBufferTail := internalBufferIncPos internalBufferSize reader.internalBufferTail
          task := .storing value },
        [.taken value])
  | .storing value =>
    let bytes := reader.externalBuffer.getD [] ++ [value]
    let externalBufferPos := reader.externalBufferPos + 1
    if externalBufferPos = reader.externalBufferSize then
      ({ reader with
          externalBuffer := none
          externalBufferPos := externalBufferPos
          task := .looking },
        [.readDone bytes reader.externalBufferSize])
    else
      ({ reader with
          externalBuffer := some bytes
          externalBufferPos := externalBufferPos
          task := .looking }, [])

/-- Commands are called between two rounds of the task, as by the user whom it signals, but not
while it stores a byte. -/
def callable : Bool :=
  match reader.task with
  | .storing _ => false
  | _ => true

/-- One event. -/
def step : BufferedReaderEvent → BufferedReader × List BufferedReaderAct
  | .setActive active => (if reader.callable then reader.setActive active else reader, [])
  | .startRead isNull cap =>
    (if reader.callable then (reader.startRead isNull cap).2 else reader, [])
  | .flush => if reader.callable then (reader.flush, [.flushed]) else (reader, [])
  | .readDone result val =>
    if reader.isReading then reader.readDone internalBufferSize result val else (reader, [])
  | .process => reader.process internalBufferSize

end BufferedReader

end Whip6
