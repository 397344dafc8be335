import Whip6.Base.Queue
import Whip6.Lib.Runs

/-!
# The random generator

Random bytes are the encryptions of the successive values of a counter.  An instance has the last
block that it had encrypted in a cache and serves requests from there; the counter and the key are
shared with the other instances.  A block is encrypted in place, in the cache, while other instances
go on.
-/

namespace Whip6

def AES128_BLOCK_SIZE_BYTES : ℕ := 16

/-- The bytes of a block, and of the counter. -/
abbrev AesBlock := {bytes : List UInt8 // bytes.length = AES128_BLOCK_SIZE_BYTES}

namespace SharedCounter

/-- The loop of `increment`, over the bytes from the last one on: whether the first one has wrapped,
and what the bytes are then. -/
def incrementLoop : List UInt8 → Bool × List UInt8
  | [] => (true, [])
  | b :: bytes =>
    if b = 0xff then
      let r := incrementLoop bytes
      (r.1, (b + 1) :: r.2)
    else (false, (b + 1) :: bytes)

theorem length_incrementLoop (bytes : List UInt8) :
    (incrementLoop bytes).2.length = bytes.length := by
  induction bytes with
  | nil => rfl
  | cons b bytes ih =>
    rw [incrementLoop]
    split_ifs
    · exact congrArg (· + 1) ih
    · rfl

/-- The counter after `increment`, and whether it has overflowed. -/
def increment (counter : AesBlock) : Bool × AesBlock :=
  let r := incrementLoop counter.1.reverse
  (r.1, ⟨r.2.reverse, by
    rw [List.length_reverse, length_incrementLoop, List.length_reverse, counter.2]⟩)

def zero : AesBlock := ⟨List.replicate AES128_BLOCK_SIZE_BYTES 0, List.length_replicate⟩

end SharedCounter

/-- An instance.  Its block size is that of the cipher, as otherwise it cannot be initialized; `buffer`
is the memory of its user from the place on where the random bytes go. -/
structure RandomAES where
  initialized : Bool
  busy : Bool
  buffer : ℕ → UInt8
  length : UInt16
  lengthLeft : UInt16
  cache : AesBlock
  cachePos : UInt8
  generateNextBlockTaskPosted : Bool
  encrypting : Bool

/-- The instances and what they share. -/
structure RandomAESSystem where
  instances : ℕ → RandomAES
  counter : AesBlock

inductive RandomAESAct
  | accepted (i : ℕ) (length : UInt16)
  | encrypted (i : ℕ) (block : AesBlock)
  | encryptionFailed (i : ℕ)
  | generateRandomDone (i : ℕ) (error : ErrorT) (bytes : List UInt8)
  deriving DecidableEq

/-- Events, with the cipher's answer to the block that is passed to it, if one is; `data` is what a
failed encryption leaves. -/
inductive RandomAESEvent
  | init (i : ℕ) (seedIsNull : Bool)
  | generateRandom (i : ℕ) (buffer : Option (ℕ → UInt8)) (length : UInt16)
  | generateNextBlockTask (i : ℕ) (answer : ErrorT)
  | cryptMessageDone (i : ℕ) (error : ErrorT) (data : AesBlock) (answer : ErrorT)

namespace RandomAES

/-- An instance after booting. -/
def boot : RandomAES where
  initialized := false
  busy := false
  buffer := fun _ => 0
  length := 0
  lengthLeft := 0
  cache := SharedCounter.zero
  cachePos := 16
  generateNextBlockTaskPosted := false
  encrypting := false

variable (random : RandomAES)

def generateRandom (buffer : Option (ℕ → UInt8)) (length : UInt16) : ErrorT × RandomAES :=
  if random.initialized = false then (EOFF, random)
  else if random.busy then (EBUSY, random)
  else
    match buffer with
    | none => (EINVAL, random)
    | some buffer =>
      (SUCCESS,
        { random with
          buffer := buffer
          length := length
          lengthLeft := length
          busy := true
          generateNextBlockTaskPosted := true })

def finishGenerating (i : ℕ) (error : ErrorT) : RandomAES × List RandomAESAct :=
  ({ random with busy := false },
    [.generateRandomDone i error ((List.range random.length.toNat).map random.buffer)])

/-- Bytes from the cache go to the beginning of the buffer, as many as the whole request or the cache
has. -/
def copyFromCache : RandomAES :=
  let copiedNow := min (AES128_BLOCK_SIZE_BYTES - random.cachePos.toNat) random.length.toNat
  let bytes := (random.cache.1.drop random.cachePos.toNat).take copiedNow
  { random with
    buffer := fun k => bytes.getD k (random.buffer k)
    lengthLeft := random.lengthLeft - UInt16.ofNat copiedNow
    cachePos := random.cachePos + UInt8.ofNat copiedNow }

def generateNextBlock (i : ℕ) (counter : AesBlock) (answer : ErrorT) :
    RandomAES × List RandomAESAct :=
  let random := random.copyFromCache
  if random.lengthLeft = 0 then random.finishGenerating i SUCCESS
  else
    let random := { random with cache := counter }
    if answer ≠ SUCCESS then random.finishGenerating i answer
    else ({ random with encrypting := true }, [])

end RandomAES

namespace RandomAESSystem

variable (encrypt : AesBlock → AesBlock) (s : RandomAESSystem)

/-- All instances after booting. -/
def boot : RandomAESSystem := ⟨fun _ => .boot, SharedCounter.zero⟩

def setInstance (i : ℕ) (random : RandomAES) : RandomAESSystem :=
  { s with instances := Function.update s.instances i random }

/-- The first initialization of an instance zeroes the counter. -/
def init (i : ℕ) (seedIsNull : Bool) : RandomAESSystem :=
  if seedIsNull then s
  else if (s.instances i).initialized then s
  else
    { s.setInstance i { s.instances i with initialized := true } with
      counter := SharedCounter.zero }

/-- The block of the instance is encrypted, or not. -/
def cryptMessageDone (i : ℕ) (error : ErrorT) (data : AesBlock) (answer : ErrorT) :
    RandomAESSystem × List RandomAESAct :=
  let counter := (SharedCounter.increment s.counter).2
  let block := (s.instances i).cache
  let random := { s.instances i with
    encrypting := false
    cache := if error = SUCCESS then encrypt block else data
    cachePos := 0 }
  let r := if error = SUCCESS then random.generateNextBlock i counter answer
    else random.finishGenerating i error
  ({ s.setInstance i r.1 with counter := counter },
    (if error = SUCCESS then .encrypted i block else .encryptionFailed i) :: r.2)

/-- One event.  The task runs when it was posted, and the cipher finishes what it was passed. -/
def step : RandomAESEvent → RandomAESSystem × List RandomAESAct
  | .init i seedIsNull => (s.init i seedIsNull, [])
  | .generateRandom i buffer length =>
    let r := (s.instances i).generateRandom buffer length
    (s.setInstance i r.2, if r.1 = SUCCESS then [.accepted i length] else [])
  | .generateNextBlockTask i answer =>
    if (s.instances i).generateNextBlockTaskPosted then
      let random := { s.instances i with generateNextBlockTaskPosted := false }
      let r := random.generateNextBlock i s.counter answer
      (s.setInstance i r.1, r.2)
    else (s, [])
  | .cryptMessageDone i error data answer =>
    if (s.instances i).encrypting then s.cryptMessageDone encrypt i error data answer else (s, [])

end RandomAESSystem

end Whip6
