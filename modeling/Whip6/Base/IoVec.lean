import Whip6.Base.Memory

/-!
# I/O vectors

An I/O vector (`iov_blist_t`) is a chain of elements, each with a buffer of its own.  A chain is
the list of the contents of these buffers, and a pointer to an element is its index in the chain:
`next` and `prev` are the neighbouring indices, and `NULL` is `none`.  An iterator
(`iov_blist_iter_t`) is a pointer to an element with an offset into its buffer.

A `size_t` is a natural number.  No operation adds up more than the bytes of one chain, which
exist in memory at the same time, so no `size_t` of the code wraps.
-/

namespace Whip6

/-- The bytes in the buffer of an element of an I/O vector. -/
abbrev IovElem := List UInt8

/-- A chain of I/O vector elements. -/
abbrev IovBlist := List IovElem

/-- An iterator over a chain: the index of its current element and an offset into it. -/
structure IovBlistIter where
  currElem : Option ℕ
  offset : ℕ
  deriving DecidableEq, Repr

/-- The total length of an I/O vector. -/
def iovGetTotalLength (iovList : IovBlist) : ℕ := iovList.foldl (fun res e => res + e.length) 0

/-! ## Access at an offset -/

/-- Find the element that holds the byte at an offset, and the offset of the byte in it. -/
def iovLocate : IovBlist → ℕ → IovBlist × ℕ
  | [], iovOffset => ([], iovOffset)
  | e :: rest, iovOffset =>
    if iovOffset < e.length then (e :: rest, iovOffset) else iovLocate rest (iovOffset - e.length)

/-- The loop of `iovShortCompare` from a located byte on. -/
def iovShortCompareLoop : IovBlist → ℕ → List UInt8 → ℕ → Int8
  | [], _, _, numBytesLeft => if numBytesLeft = 0 then 0 else -1
  | e :: rest, iovOffset, bufPtr, numBytesLeft =>
    if numBytesLeft = 0 then 0
    else
      let tmp := min numBytesLeft (e.length - iovOffset)
      let res := shortMemCmp (e.drop iovOffset) bufPtr tmp
      if res ≠ 0 then res
      else iovShortCompareLoop rest 0 (bufPtr.drop tmp) (numBytesLeft - tmp)

/-- Compare `bufLen` bytes of an I/O vector with the ones at `bufPtr` (`none` is `NULL`). -/
def iovShortCompare (iovList : IovBlist) (iovOffset : ℕ) (bufPtr : Option (List UInt8))
    (bufLen : ℕ) : Int8 :=
  match bufPtr with
  | none => 0
  | some buf =>
    let at_ := iovLocate iovList iovOffset
    iovShortCompareLoop at_.1 at_.2 buf bufLen

/-- The loop of `iovShortWrite` from a located byte on: the elements it leaves and the number of
bytes it could not write. -/
def iovShortWriteLoop : IovBlist → ℕ → List UInt8 → ℕ → IovBlist × ℕ
  | [], _, _, numBytesLeft => ([], numBytesLeft)
  | e :: rest, iovOffset, bufPtr, numBytesLeft =>
    if numBytesLeft = 0 then (e :: rest, 0)
    else
      let tmp := min numBytesLeft (e.length - iovOffset)
      let r := iovShortWriteLoop rest 0 (bufPtr.drop tmp) (numBytesLeft - tmp)
      (shortMemCpy bufPtr e iovOffset tmp :: r.1, r.2)

/-- Write `bufLen` bytes from `bufPtr` (`none` is `NULL`) to an I/O vector: the number of bytes
written and the chain. -/
def iovShortWrite (iovList : IovBlist) (iovOffset : ℕ) (bufPtr : Option (List UInt8))
    (bufLen : ℕ) : ℕ × IovBlist :=
  match bufPtr with
  | none => (0, iovList)
  | some buf =>
    let at_ := iovLocate iovList iovOffset
    let r := iovShortWriteLoop at_.1 at_.2 buf bufLen
    (bufLen - r.2, iovList.take (iovList.length - at_.1.length) ++ r.1)

/-- The loop of `iovShortRead` from a located byte on, with the offset in the buffer of the next
byte to be read: the buffer it leaves and the number of bytes it could not read. -/
def iovShortReadLoop : IovBlist → ℕ → List UInt8 → ℕ → ℕ → List UInt8 × ℕ
  | [], _, buf, _, numBytesLeft => (buf, numBytesLeft)
  | e :: rest, iovOffset, buf, bufOffset, numBytesLeft =>
    if numBytesLeft = 0 then (buf, 0)
    else
      let tmp := min numBytesLeft (e.length - iovOffset)
      iovShortReadLoop rest 0 (shortMemCpy (e.drop iovOffset) buf bufOffset tmp)
        (bufOffset + tmp) (numBytesLeft - tmp)

/-- Read `bufLen` bytes of an I/O vector to `bufPtr` (`none` is `NULL`): the number of bytes read
and the buffer. -/
def iovShortRead (iovList : IovBlist) (iovOffset : ℕ) (bufPtr : Option (List UInt8))
    (bufLen : ℕ) : ℕ × Option (List UInt8) :=
  match bufPtr with
  | none => (0, none)
  | some buf =>
    let at_ := iovLocate iovList iovOffset
    let r := iovShortReadLoop at_.1 at_.2 buf 0 bufLen
    (bufLen - r.2, some r.1)

/-! ## Iterators -/

/-- The iterator at the beginning of a chain. -/
def iovIteratorInitToBeginning (iovList : IovBlist) : IovBlistIter :=
  ⟨if iovList = [] then none else some 0, 0⟩

/-- The iterator that points to no element. -/
def iovIteratorInvalidate : IovBlistIter := ⟨none, 0⟩

/-- An iterator is valid when it has a current element. -/
def iovIteratorIsValid (iovIter : IovBlistIter) : Bool := iovIter.currElem.isSome

/-- The loop of `iovIteratorMoveForward` over the elements from index `i` on. -/
def iovMoveForwardLoop : IovBlist → ℕ → ℕ → ℕ → ℕ × IovBlistIter
  | [], _, offset, res => (res, ⟨none, offset⟩)
  | e :: rest, i, offset, res =>
    if offset < e.length then (res + offset, ⟨some i, offset⟩)
    else iovMoveForwardLoop rest (i + 1) (offset - e.length) (res + e.length)

/-- Move an iterator forward: the number of bytes it moved by and the iterator. -/
def iovIteratorMoveForward (iovList : IovBlist) (iovIter : IovBlistIter) (offset : ℕ) :
    ℕ × IovBlistIter :=
  match iovIter.currElem with
  | none => (0, iovIter)
  | some i =>
    match iovList.drop i with
    | [] => (0, iovIter)
    | e :: rest =>
      let tmp := e.length - iovIter.offset
      if tmp > offset then (offset, ⟨some i, iovIter.offset + offset⟩)
      else iovMoveForwardLoop rest (i + 1) (offset - tmp) tmp

/-- The loop of `iovIteratorMoveBackward` over the elements before index `i`, the last one
first.  It ends at `NULL` with the iterator's offset as it was. -/
def iovMoveBackwardLoop (iovList : IovBlist) (offset : ℕ) : ℕ → ℕ → ℕ → ℕ × IovBlistIter
  | 0, _, subBytes => (subBytes, ⟨none, offset⟩)
  | i + 1, remBytes, subBytes =>
    let tmp := (iovList.getD i []).length
    if remBytes ≤ tmp then (subBytes + remBytes, ⟨some i, tmp - remBytes⟩)
    else iovMoveBackwardLoop iovList offset i (remBytes - tmp) (subBytes + tmp)

/-- Move an iterator backward: the number of bytes it moved by and the iterator. -/
def iovIteratorMoveBackward (iovList : IovBlist) (iovIter : IovBlistIter) (remBytes : ℕ) :
    ℕ × IovBlistIter :=
  match iovIter.currElem with
  | none => (0, iovIter)
  | some i =>
    if iovIter.offset ≥ remBytes then (remBytes, ⟨some i, iovIter.offset - remBytes⟩)
    else iovMoveBackwardLoop iovList iovIter.offset i (remBytes - iovIter.offset) iovIter.offset

section Pieces

variable {σ : Type*} (piece : σ → IovElem → ℕ → ℕ → σ × IovElem)

/-- The loop over the elements from index `i` on that handles `len` more bytes.  `piece s e o n`
handles the `n` bytes of the element `e` at offset `o`: the next state and the element it leaves.
The result is the number of bytes handled, the iterator, the state and the elements. -/
def iovPiecesLoop : IovBlist → ℕ → ℕ → ℕ → σ → ℕ × IovBlistIter × σ × IovBlist
  | [], _, _, res, s => (res, ⟨none, 0⟩, s, [])
  | e :: rest, i, len, res, s =>
    if len = 0 then (res, ⟨some i, 0⟩, s, e :: rest)
    else if e.length > len then
      let r := piece s e 0 len
      (res + len, ⟨some i, len⟩, r.1, r.2 :: rest)
    else
      let r := piece s e 0 e.length
      let t := iovPiecesLoop rest (i + 1) (len - e.length) (res + e.length) r.1
      (t.1, t.2.1, t.2.2.1, r.2 :: t.2.2.2)

/-- Handle `len` bytes from an iterator on, element by element, and advance the iterator. -/
def iovPieces (iovList : IovBlist) (iovIter : IovBlistIter) (len : ℕ) (s : σ) :
    ℕ × IovBlistIter × σ × IovBlist :=
  if len = 0 then (0, iovIter, s, iovList)
  else
    match iovIter.currElem with
    | none => (0, iovIter, s, iovList)
    | some i =>
      match iovList.drop i with
      | [] => (0, iovIter, s, iovList)
      | e :: rest =>
        let res := e.length - iovIter.offset
        if res > len then
          let r := piece s e iovIter.offset len
          (len, ⟨some i, iovIter.offset + len⟩, r.1, iovList.take i ++ r.2 :: rest)
        else
          let r := piece s e iovIter.offset res
          let t := iovPiecesLoop piece rest (i + 1) (len - res) res r.1
          (t.1, t.2.1, t.2.2.1, iovList.take i ++ r.2 :: t.2.2.2)

end Pieces

/-- Copy a piece of an element to the buffer, behind what was read to it before. -/
def readPiece (s : List UInt8 × ℕ) (e : IovElem) (o n : ℕ) : (List UInt8 × ℕ) × IovElem :=
  ((longMemCpy (e.drop o) s.1 s.2 n, s.2 + n), e)

/-- Copy the next bytes to be written over a piece of an element. -/
def writePiece (bufPtr : List UInt8) (e : IovElem) (o n : ℕ) : List UInt8 × IovElem :=
  (bufPtr.drop n, longMemCpy bufPtr e o n)

/-- Read up to `bufLen` bytes to `bufPtr` (`none` is `NULL`): the number of bytes read, the
iterator and the buffer. -/
def iovIteratorReadAndMoveForward (iovList : IovBlist) (iovIter : IovBlistIter)
    (bufPtr : Option (List UInt8)) (bufLen : ℕ) : ℕ × IovBlistIter × Option (List UInt8) :=
  match bufPtr with
  | none => (0, iovIter, none)
  | some buf =>
    let r := iovPieces readPiece iovList iovIter bufLen (buf, 0)
    (r.1, r.2.1, some r.2.2.1.1)

/-- Write up to `bufLen` bytes from `bufPtr` (`none` is `NULL`): the number of bytes written, the
iterator and the chain. -/
def iovIteratorWriteAndMoveForward (iovList : IovBlist) (iovIter : IovBlistIter)
    (bufPtr : Option (List UInt8)) (bufLen : ℕ) : ℕ × IovBlistIter × IovBlist :=
  match bufPtr with
  | none => (0, iovIter, iovList)
  | some buf =>
    let r := iovPieces writePiece iovList iovIter bufLen buf
    (r.1, r.2.1, r.2.2.2)

/-- Overwrite the byte of an element at an offset. -/
def iovSetByte (iovList : IovBlist) (i o : ℕ) (b : UInt8) : IovBlist :=
  iovList.modify i fun e => e.set o b

/-- The length of an element. -/
def iovElemLen (iovList : IovBlist) (i : ℕ) : ℕ := (iovList.getD i []).length

/-- The pointer to the element behind another one. -/
def iovNext (iovList : IovBlist) (i : ℕ) : Option ℕ :=
  if i + 1 < iovList.length then some (i + 1) else none

/-- Serialize a byte: the number of missing bytes, the iterator and the chain. -/
def iovIteratorSerializeUInt8AndMoveForward (iovList : IovBlist) (iovIter : IovBlistIter)
    (b : UInt8) : ℕ × IovBlistIter × IovBlist :=
  match iovIter.currElem with
  | none => (1, iovIter, iovList)
  | some i =>
    let iovOffset := iovIter.offset + 1
    let iovList' := iovSetByte iovList i iovIter.offset b
    if iovOffset ≥ iovElemLen iovList i then (0, ⟨iovNext iovList i, 0⟩, iovList')
    else (0, ⟨some i, iovOffset⟩, iovList')

/-- Serialize a word in the network byte order: the number of missing bytes, the iterator and the
chain.  With a single byte left, that byte is overwritten although the word does not fit. -/
def iovIteratorSerializeUInt16AndMoveForward (iovList : IovBlist) (iovIter : IovBlistIter)
    (w : UInt16) : ℕ × IovBlistIter × IovBlist :=
  let hi := (w >>> 8).toUInt8
  let lo := w.toUInt8
  let second (i iovOffset : ℕ) (iovList : IovBlist) : ℕ × IovBlistIter × IovBlist :=
    let iovList' := iovSetByte iovList i iovOffset lo
    if iovOffset + 1 ≥ iovElemLen iovList i then (0, ⟨iovNext iovList i, 0⟩, iovList')
    else (0, ⟨some i, iovOffset + 1⟩, iovList')
  match iovIter.currElem with
  | none => (2, iovIter, iovList)
  | some i =>
    let iovList' := iovSetByte iovList i iovIter.offset hi
    if iovElemLen iovList i ≥ iovIter.offset + 2 then second i (iovIter.offset + 1) iovList'
    else
      match iovNext iovList i with
      | none => (1, iovIter, iovList')
      | some j => second j 0 iovList'

/-- The loop of `iovIteratorCopyBytesAndMoveForward`.  Each round leaves one of the two elements
behind or copies the last of the requested bytes. -/
def iovCopyBytesLoop (srcIovList : IovBlist) (srcIovIter : IovBlistIter) (dstIovList : IovBlist)
    (dstIovIter : IovBlistIter) (maxLen res : ℕ) :
    ℕ → ℕ × IovBlistIter × IovBlistIter × IovBlist
  | 0 => (res, srcIovIter, dstIovIter, dstIovList)
  | fuel + 1 =>
    match srcIovIter.currElem, dstIovIter.currElem with
    | some i, some j =>
      if maxLen = 0 then (res, srcIovIter, dstIovIter, dstIovList)
      else
        let srcLen := iovElemLen srcIovList i - srcIovIter.offset
        let dstLen := iovElemLen dstIovList j - dstIovIter.offset
        let minLen := min (if srcLen > dstLen then dstLen else srcLen) maxLen
        let src := (srcIovList.getD i []).drop srcIovIter.offset
        let dstIovList' := dstIovList.modify j fun e =>
          longMemCpy src e dstIovIter.offset minLen
        iovCopyBytesLoop srcIovList
          (if minLen = srcLen then ⟨iovNext srcIovList i, 0⟩
            else ⟨some i, srcIovIter.offset + minLen⟩)
          dstIovList'
          (if minLen = dstLen then ⟨iovNext dstIovList j, 0⟩
            else ⟨some j, dstIovIter.offset + minLen⟩)
          (maxLen - minLen) (res + minLen) fuel
    | _, _ => (res, srcIovIter, dstIovIter, dstIovList)

/-- Copy up to `maxLen` bytes from one chain to another: the number of bytes copied, the two
iterators and the destination chain.  The bound on the number of rounds is never reached
(`iovIteratorCopyBytes_spec`). -/
def iovIteratorCopyBytesAndMoveForward (srcIovList : IovBlist) (srcIovIter : IovBlistIter)
    (dstIovList : IovBlist) (dstIovIter : IovBlistIter) (maxLen : ℕ) :
    ℕ × IovBlistIter × IovBlistIter × IovBlist :=
  iovCopyBytesLoop srcIovList srcIovIter dstIovList dstIovIter maxLen 0
    (srcIovList.length + dstIovList.length + 1)

/-! ## The total length -/

theorem iovGetTotalLength_eq (l : IovBlist) : iovGetTotalLength l = l.flatten.length := by
  have h : ∀ (l : IovBlist) (n : ℕ),
      l.foldl (fun res e => res + e.length) n = n + l.flatten.length := by
    intro l
    induction l with
    | nil => simp
    | cons e l ih =>
      intro n
      rw [List.foldl_cons, ih, List.flatten_cons, List.length_append]
      omega
  rw [iovGetTotalLength, h, Nat.zero_add]

end Whip6
