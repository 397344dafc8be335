import Whip6.Base.IoVecCursor
import Whip6.Lib.OnesComplement

/-!
# The IPv6 checksum computation

A computation is provided with bytes one at a time, as arrays or from an I/O vector, and keeps a
32-bit sum of the words seen so far and a byte that waits for its other half.  `Covers` says what
a computation is worth after any such sequence: the string it was provided with.  What its
finalization returns is the Internet checksum of that string, however it was cut.
-/

namespace Whip6

open Lib

/-- The state of a checksum computation. -/
structure Ipv6ChecksumComputation where
  sum : UInt32
  parity : UInt8
  accum : UInt8
  deriving DecidableEq, Repr

def ipv6ChecksumComputationInit : Ipv6ChecksumComputation := ⟨0, 0, 0⟩

def ipv6ChecksumComputationProvideWithOneByte (comp : Ipv6ChecksumComputation) (b : UInt8) :
    Ipv6ChecksumComputation :=
  let parity := (comp.parity + 1) &&& 0x01
  if parity = 0 then
    ⟨comp.sum + (networkWord comp.accum b).toUInt32, parity, comp.accum⟩
  else ⟨comp.sum, parity, b⟩

/-- The loop over the byte pairs of an array: the sum and the bytes behind the last pair. -/
def checksumPairsLoop : List UInt8 → ℕ → UInt32 → UInt32 × List UInt8
  | b1 :: b2 :: bufPtr, bufLen + 2, sum =>
    checksumPairsLoop bufPtr bufLen (sum + (networkWord b1 b2).toUInt32)
  | bufPtr, _, sum => (sum, bufPtr)

/-- Provide the first `bufLen` bytes at `bufPtr` (`none` is `NULL`). -/
def ipv6ChecksumComputationProvideWithByteArray (comp : Ipv6ChecksumComputation)
    (bufPtr : Option (List UInt8)) (bufLen : ℕ) : Ipv6ChecksumComputation :=
  match bufPtr with
  | none => comp
  | some buf =>
    if bufLen = 0 then comp
    else
      -- the byte left over from the bytes provided before
      let first := if comp.parity ≠ 0 then
          (comp.sum + (networkWord comp.accum (buf.headD 0)).toUInt32, buf.tail, bufLen - 1)
        else (comp.sum, buf, bufLen)
      let parity : UInt8 := if first.2.2 % 2 ≠ 0 then 1 else 0
      let r := checksumPairsLoop first.2.1 (first.2.2 - parity.toNat) first.1
      ⟨r.1, parity, if parity ≠ 0 then r.2.headD 0 else comp.accum⟩

/-- Provide a piece of an element of an I/O vector. -/
def checksumPiece (comp : Ipv6ChecksumComputation) (e : IovElem) (o n : ℕ) :
    Ipv6ChecksumComputation × IovElem :=
  (ipv6ChecksumComputationProvideWithByteArray comp (some (e.drop o)) n, e)

/-- Provide `fragLen` bytes from an iterator on: the number of bytes provided, the iterator and
the computation. -/
def ipv6ChecksumComputationProvideWithIovAndAdvanceIovIterator (comp : Ipv6ChecksumComputation)
    (iovList : IovBlist) (iovIter : IovBlistIter) (fragLen : ℕ) :
    ℕ × IovBlistIter × Ipv6ChecksumComputation :=
  let r := iovPieces checksumPiece iovList iovIter fragLen comp
  (r.1, r.2.1, r.2.2.1)

theorem toNat_high_half (x : UInt32) : (x >>> 16).toUInt16.toNat = x.toNat / 65536 := by
  have h := x.toNat_lt
  rw [UInt32.toNat_toUInt16, UInt32.toNat_shiftRight, show UInt32.toNat 16 % 32 = 16 from rfl,
    Nat.shiftRight_eq_div_pow]
  omega

theorem toNat_low_half (x : UInt32) : (x &&& (0xffff : UInt32)).toNat = x.toNat % 65536 := by
  rw [UInt32.toNat_and]
  exact Nat.and_two_pow_sub_one_eq_mod x.toNat 16

theorem toNat_fold_step (x : UInt32) :
    ((x &&& (0xffff : UInt32)) + (x >>> 16).toUInt16.toUInt32).toNat =
      x.toNat % 65536 + x.toNat / 65536 := by
  have h := x.toNat_lt
  rw [UInt32.toNat_add, UInt16.toNat_toUInt32, toNat_low_half, toNat_high_half]
  exact Nat.mod_eq_of_lt (by omega)

/-- The loop that folds the high half of the sum into the low one. -/
def checksumFoldLoop (sum : UInt32) : UInt32 :=
  let part := (sum >>> 16).toUInt16
  if part ≠ 0 then checksumFoldLoop ((sum &&& 0xffff) + part.toUInt32) else sum
termination_by sum.toNat
decreasing_by
  rename_i h
  have hne : (sum >>> 16).toUInt16.toNat ≠ 0 := fun h0 => h (UInt16.toNat_inj.mp h0)
  rw [toNat_high_half] at hne
  rw [toNat_fold_step]
  omega

def ipv6ChecksumComputationFinalize (comp : Ipv6ChecksumComputation) : UInt16 :=
  let sum := if comp.parity ≠ 0 then comp.sum + (comp.accum.toUInt16 <<< 8).toUInt32 else comp.sum
  (~~~ checksumFoldLoop sum).toUInt16

/-- Provide the pseudo-header of a packet: the number of bytes and the computation.  The sixteen
zero bits before the next header number, and those of a short length, are left out. -/
def ipv6ChecksumComputationProvideIpv6PseudoHeader (comp : Ipv6ChecksumComputation)
    (srcAddr dstAddr : List UInt8) (ipLen : UInt32) (nextHdr : UInt8) :
    ℕ × Ipv6ChecksumComputation :=
  let comp := ipv6ChecksumComputationProvideWithByteArray comp (some srcAddr) 16
  let comp := ipv6ChecksumComputationProvideWithByteArray comp (some dstAddr) 16
  let provideWord (comp : Ipv6ChecksumComputation) (w : UInt16) :=
    ipv6ChecksumComputationProvideWithOneByte
      (ipv6ChecksumComputationProvideWithOneByte comp (w >>> 8).toUInt8) w.toUInt8
  let tmpLen := (ipLen >>> 16).toUInt16
  let comp := if tmpLen ≠ 0 then provideWord comp tmpLen else comp
  let comp := provideWord comp ipLen.toUInt16
  let comp := ipv6ChecksumComputationProvideWithOneByte comp 0x00
  (40, ipv6ChecksumComputationProvideWithOneByte comp nextHdr)

/-! ## What a computation covers -/

/-- The computation was provided with the string `bs`: its sum is that of the words of `bs`, and
an odd last byte waits in `accum`. -/
def Ipv6ChecksumComputation.Covers (comp : Ipv6ChecksumComputation) (bs : List UInt8) : Prop :=
  ∃ xs tail, bs = xs ++ tail ∧ xs.length % 2 = 0 ∧ comp.sum.toNat = (words xs).sum % 2 ^ 32 ∧
    (comp.parity = 0 ∧ tail = [] ∨ comp.parity = 1 ∧ tail = [comp.accum])

theorem covers_init : ipv6ChecksumComputationInit.Covers [] :=
  ⟨[], [], rfl, rfl, rfl, Or.inl ⟨rfl, rfl⟩⟩

/-- Adding the word of two bytes behind a string of even length. -/
theorem toNat_sum_add {xs : List UInt8} {sum : UInt32} (hi lo : UInt8) (h : xs.length % 2 = 0)
    (hs : sum.toNat = (words xs).sum % 2 ^ 32) :
    (sum + (networkWord hi lo).toUInt32).toNat = (words (xs ++ [hi, lo])).sum % 2 ^ 32 := by
  rw [UInt32.toNat_add, UInt16.toNat_toUInt32, toNat_networkWord, hs, words_append _ h,
    List.sum_append]
  simp only [words, List.sum_cons, List.sum_nil, Nat.add_zero]
  omega

theorem Ipv6ChecksumComputation.Covers.oneByte {comp : Ipv6ChecksumComputation} {bs : List UInt8}
    (h : comp.Covers bs) (b : UInt8) :
    (ipv6ChecksumComputationProvideWithOneByte comp b).Covers (bs ++ [b]) := by
  obtain ⟨xs, tail, rfl, hlen, hs, ⟨hp, rfl⟩ | ⟨hp, rfl⟩⟩ := h
  · have hparity : (comp.parity + 1) &&& 0x01 = 1 := by rw [hp]; rfl
    simp only [ipv6ChecksumComputationProvideWithOneByte, hparity]
    rw [if_neg (by decide)]
    exact ⟨xs, [b], by simp, hlen, hs, Or.inr ⟨rfl, rfl⟩⟩
  · have hparity : (comp.parity + 1) &&& 0x01 = 0 := by rw [hp]; rfl
    simp only [ipv6ChecksumComputationProvideWithOneByte, hparity, if_true]
    refine ⟨xs ++ [comp.accum, b], [], by simp, ?_, ?_, Or.inl ⟨rfl, rfl⟩⟩
    · simp only [List.length_append, List.length_cons, List.length_nil]
      omega
    · exact toNat_sum_add comp.accum b hlen hs

theorem checksumPairsLoop_spec (buf : List UInt8) (n : ℕ) (xs : List UInt8) (sum : UInt32)
    (heven : n % 2 = 0) (hn : n ≤ buf.length) (hlen : xs.length % 2 = 0)
    (hs : sum.toNat = (words xs).sum % 2 ^ 32) :
    let r := checksumPairsLoop buf n sum
    r.1.toNat = (words (xs ++ buf.take n)).sum % 2 ^ 32 ∧ r.2 = buf.drop n := by
  induction n using Nat.twoStepInduction generalizing buf xs sum with
  | zero =>
    match buf with
    | [] => simpa [checksumPairsLoop] using hs
    | [b] => simpa [checksumPairsLoop] using hs
    | b1 :: b2 :: buf => simpa [checksumPairsLoop] using hs
  | one => omega
  | more n ih _ =>
    match buf with
    | [] => simp at hn
    | [b] => simp at hn
    | b1 :: b2 :: buf =>
      simp only [List.length_cons] at hn
      have hstep := ih buf (xs ++ [b1, b2]) (sum + (networkWord b1 b2).toUInt32) (by omega)
        (by omega) (by simp only [List.length_append, List.length_cons, List.length_nil]; omega)
        (toNat_sum_add b1 b2 hlen hs)
      simp only [checksumPairsLoop, List.take_succ_cons, List.drop_succ_cons]
      rwa [List.append_assoc, List.cons_append, List.cons_append, List.nil_append] at hstep

theorem Ipv6ChecksumComputation.Covers.byteArray {comp : Ipv6ChecksumComputation}
    {bs : List UInt8} (h : comp.Covers bs) {buf : List UInt8} {bufLen : ℕ}
    (hle : bufLen ≤ buf.length) :
    (ipv6ChecksumComputationProvideWithByteArray comp (some buf) bufLen).Covers
      (bs ++ buf.take bufLen) := by
  by_cases h0 : bufLen = 0
  · simpa [ipv6ChecksumComputationProvideWithByteArray, h0] using h
  -- the pairs, and the byte that may be left over behind them
  have pairs : ∀ (xs buf : List UInt8) (n : ℕ) (sum : UInt32) (accum : UInt8), n ≤ buf.length →
      xs.length % 2 = 0 → sum.toNat = (words xs).sum % 2 ^ 32 →
      let parity : UInt8 := if n % 2 ≠ 0 then 1 else 0
      let r := checksumPairsLoop buf (n - parity.toNat) sum
      (Ipv6ChecksumComputation.mk r.1 parity (if parity ≠ 0 then r.2.headD 0 else accum)).Covers
        (xs ++ buf.take n) := by
    intro xs buf n sum accum hn hlen hs
    by_cases hodd : n % 2 ≠ 0
    · have hm : n - 1 < buf.length := by omega
      obtain ⟨hsum, hrest⟩ := checksumPairsLoop_spec buf (n - 1) xs sum (by omega) (by omega) hlen hs
      simp only [if_pos hodd, show (1 : UInt8).toNat = 1 from rfl, hrest]
      rw [if_pos (by decide), List.drop_eq_getElem_cons hm, List.headD_cons]
      refine ⟨xs ++ buf.take (n - 1), [buf[n - 1]], ?_, ?_, hsum, Or.inr ⟨rfl, rfl⟩⟩
      · rw [List.append_assoc, List.take_append_getElem, show n - 1 + 1 = n by omega]
      · simp only [List.length_append, List.length_take]
        omega
    · obtain ⟨hsum, -⟩ := checksumPairsLoop_spec buf n xs sum (by omega) hn hlen hs
      simp only [if_neg hodd, show (0 : UInt8).toNat = 0 from rfl, Nat.sub_zero]
      refine ⟨xs ++ buf.take n, [], by simp, ?_, hsum, Or.inl ⟨rfl, rfl⟩⟩
      simp only [List.length_append, List.length_take]
      omega
  obtain ⟨xs, tail, rfl, hlen, hs, ⟨hp, rfl⟩ | ⟨hp, rfl⟩⟩ := h
  · have hparity : ¬ (comp.parity ≠ 0) := by simp [hp]
    simp only [ipv6ChecksumComputationProvideWithByteArray, if_neg h0, if_neg hparity,
      List.append_nil]
    exact pairs xs buf bufLen comp.sum comp.accum hle hlen hs
  · have hparity : comp.parity ≠ 0 := by
      rw [hp]
      decide
    match buf with
    | [] => simp at hle; omega
    | b :: buf =>
      simp only [ipv6ChecksumComputationProvideWithByteArray, if_neg h0, if_pos hparity,
        List.headD_cons, List.tail_cons]
      have hbuf := pairs (xs ++ [comp.accum, b]) buf (bufLen - 1)
        (comp.sum + (networkWord comp.accum b).toUInt32) comp.accum
        (by simp only [List.length_cons] at hle; omega)
        (by simp only [List.length_append, List.length_cons, List.length_nil]; omega)
        (toNat_sum_add comp.accum b hlen hs)
      have htake : (b :: buf).take bufLen = b :: buf.take (bufLen - 1) := by
        conv_lhs => rw [show bufLen = bufLen - 1 + 1 by omega, List.take_succ_cons]
      rw [htake]
      simpa only [List.append_assoc, List.cons_append, List.nil_append] using hbuf

theorem checksumPiece_meaning :
    PieceMeaning checksumPiece fun comp xs comp' ys =>
      ys = xs ∧ ∀ bs, comp.Covers bs → comp'.Covers (bs ++ xs) where
  nil := fun comp => by simp
  append := by
    rintro s s' s'' xs xs' ys ys' ⟨rfl, h⟩ ⟨rfl, h'⟩
    refine ⟨rfl, fun bs hbs => ?_⟩
    rw [← List.append_assoc]
    exact h' _ (h bs hbs)
  piece_spec := fun comp e o n hle => by
    refine ⟨_, ⟨rfl, fun bs hbs => hbs.byteArray ?_⟩, ?_, ?_⟩
    · simp only [List.length_drop]
      omega
    · simp only [List.length_take, List.length_drop]
      omega
    · rw [List.append_assoc, ← List.drop_drop, List.take_append_drop, List.take_append_drop]
      rfl

/-- The I/O vector variant provides what there is of the requested bytes and advances by it. -/
theorem provideWithIov_spec (comp : Ipv6ChecksumComputation) {l : IovBlist} {it : IovBlistIter}
    (h : IovIterWithin (iovLens l) it) (fragLen : ℕ) :
    let p := iovIterPos (iovLens l) it
    let r := ipv6ChecksumComputationProvideWithIovAndAdvanceIovIterator comp l it fragLen
    r.1 = min fragLen (l.flatten.length - p) ∧ IovIterWithin (iovLens l) r.2.1 ∧
      iovIterPos (iovLens l) r.2.1 = p + r.1 ∧
      ∀ bs, comp.Covers bs → r.2.2.Covers (bs ++ (l.flatten.drop p).take fragLen) := by
  have hd := iovPieces_spec checksumPiece_meaning h fragLen comp
  obtain ⟨ys, ⟨-, hcov⟩, -⟩ := hd.handled
  exact ⟨hd.count, hd.within, hd.pos, hcov⟩

/-- The bytes of a pseudo-header that are provided. -/
def ipv6PseudoHeaderBytes (srcAddr dstAddr : List UInt8) (ipLen : UInt32) (nextHdr : UInt8) :
    List UInt8 :=
  srcAddr ++ dstAddr ++
    (if (ipLen >>> 16).toUInt16 ≠ 0 then networkBytes (ipLen >>> 16).toUInt16 else []) ++
    networkBytes ipLen.toUInt16 ++ [0x00, nextHdr]

theorem Ipv6ChecksumComputation.Covers.word {comp : Ipv6ChecksumComputation} {bs : List UInt8}
    (h : comp.Covers bs) (w : UInt16) :
    (ipv6ChecksumComputationProvideWithOneByte
      (ipv6ChecksumComputationProvideWithOneByte comp (w >>> 8).toUInt8) w.toUInt8).Covers
        (bs ++ networkBytes w) := by
  have h2 := (h.oneByte (w >>> 8).toUInt8).oneByte w.toUInt8
  rwa [List.append_assoc] at h2

theorem Ipv6ChecksumComputation.Covers.pseudoHeader {comp : Ipv6ChecksumComputation}
    {bs srcAddr dstAddr : List UInt8} (h : comp.Covers bs) (hsrc : srcAddr.length = 16)
    (hdst : dstAddr.length = 16) (ipLen : UInt32) (nextHdr : UInt8) :
    (ipv6ChecksumComputationProvideIpv6PseudoHeader comp srcAddr dstAddr ipLen nextHdr).2.Covers
      (bs ++ ipv6PseudoHeaderBytes srcAddr dstAddr ipLen nextHdr) := by
  have h1 := (h.byteArray hsrc.ge).byteArray hdst.ge
  rw [← hsrc, List.take_length, hsrc, ← hdst, List.take_length, hdst] at h1
  simp only [ipv6ChecksumComputationProvideIpv6PseudoHeader, ipv6PseudoHeaderBytes]
  have h2 : ∀ {comp : Ipv6ChecksumComputation} {bs : List UInt8}, comp.Covers bs →
      (ipv6ChecksumComputationProvideWithOneByte
        (ipv6ChecksumComputationProvideWithOneByte comp 0x00) nextHdr).Covers
          (bs ++ [0x00, nextHdr]) := by
    intro comp bs h
    have h' := (h.oneByte 0x00).oneByte nextHdr
    rwa [List.append_assoc] at h'
  by_cases hhi : (ipLen >>> 16).toUInt16 ≠ 0
  · rw [if_pos hhi, if_pos hhi]
    have h3 := h2 ((h1.word (ipLen >>> 16).toUInt16).word ipLen.toUInt16)
    simpa only [List.append_assoc] using h3
  · rw [if_neg hhi, if_neg hhi]
    have h3 := h2 (h1.word ipLen.toUInt16)
    simpa only [List.append_assoc, List.append_nil, List.nil_append] using h3

theorem length_ipv6PseudoHeaderBytes {srcAddr dstAddr : List UInt8} (hsrc : srcAddr.length = 16)
    (hdst : dstAddr.length = 16) (ipLen : UInt32) (nextHdr : UInt8) :
    (ipv6PseudoHeaderBytes srcAddr dstAddr ipLen nextHdr).length ≤ 38 ∧
      (ipv6PseudoHeaderBytes srcAddr dstAddr ipLen nextHdr).length % 2 = 0 := by
  by_cases hhi : (ipLen >>> 16).toUInt16 ≠ 0 <;>
    simp [ipv6PseudoHeaderBytes, hhi, hsrc, hdst]

/-! ## Finalization -/

theorem toNat_checksumFoldLoop (sum : UInt32) :
    (checksumFoldLoop sum).toNat = onesRep 65535 sum.toNat := by
  induction sum using checksumFoldLoop.induct with
  | case1 sum part hne ih =>
    rw [checksumFoldLoop, if_pos hne, ih, toNat_fold_step]
    exact onesRep_fold 65535 sum.toNat
  | case2 sum part hz =>
    have h0 : (sum >>> 16).toUInt16 = 0 := not_not.mp hz
    replace h0 := congrArg UInt16.toNat h0
    rw [toNat_high_half, UInt16.toNat_zero] at h0
    rw [checksumFoldLoop, if_neg hz, onesRep_of_le (by omega)]

/-- Finalization returns the Internet checksum of the bytes provided. -/
theorem Ipv6ChecksumComputation.Covers.finalize {comp : Ipv6ChecksumComputation}
    {bs : List UInt8} (h : comp.Covers bs) (hlen : bs.length ≤ 131072) :
    (ipv6ChecksumComputationFinalize comp).toNat = internetChecksum bs := by
  have hbound : (words bs).sum < 2 ^ 32 := by
    have := sum_words_le bs
    omega
  have hsum : (if comp.parity ≠ 0 then comp.sum + (comp.accum.toUInt16 <<< 8).toUInt32
      else comp.sum).toNat = (words bs).sum := by
    obtain ⟨xs, tail, rfl, heven, hs, ⟨hp, rfl⟩ | ⟨hp, rfl⟩⟩ := h
    · rw [List.append_nil] at hbound ⊢
      rw [if_neg (by simp [hp]), hs, Nat.mod_eq_of_lt hbound]
    · rw [words_append _ heven, List.sum_append] at hbound ⊢
      simp only [words, List.sum_cons, List.sum_nil, Nat.add_zero] at hbound ⊢
      have hpart : (comp.accum.toUInt16 <<< 8).toNat = 256 * comp.accum.toNat := by
        have h0 := toNat_networkWord comp.accum 0
        rwa [networkWord, show (0 : UInt8).toUInt16 = 0 from rfl, UInt16.or_zero] at h0
      rw [if_pos (by rw [hp]; decide), UInt32.toNat_add, UInt16.toNat_toUInt32, hpart, hs]
      omega
  have hrep := toNat_checksumFoldLoop (if comp.parity ≠ 0 then
    comp.sum + (comp.accum.toUInt16 <<< 8).toUInt32 else comp.sum)
  have hle := onesRep_le (m := 65535) (by omega) (words bs).sum
  rw [hsum] at hrep
  rw [ipv6ChecksumComputationFinalize, internetChecksum_eq, UInt32.toNat_toUInt16, UInt32.toNat_not,
    hrep, show UInt32.size = 4294967296 from rfl]
  omega

/-! ## Sequences of calls -/

/-- A call that provides a computation with bytes. -/
inductive ChecksumCall
  | oneByte (b : UInt8)
  | byteArray (bufPtr : Option (List UInt8)) (bufLen : ℕ)
  | iov (iovList : IovBlist) (iovIter : IovBlistIter) (fragLen : ℕ)

namespace ChecksumCall

/-- The arguments are in order: the array has the bytes asked for, and the iterator stands
somewhere in its chain. -/
def Valid : ChecksumCall → Prop
  | oneByte _ => True
  | byteArray bufPtr bufLen => ∀ buf, bufPtr = some buf → bufLen ≤ buf.length
  | iov iovList iovIter _ => IovIterWithin (iovLens iovList) iovIter

/-- The bytes a call provides. -/
def bytes : ChecksumCall → List UInt8
  | oneByte b => [b]
  | byteArray bufPtr bufLen => (bufPtr.getD []).take bufLen
  | iov iovList iovIter fragLen =>
    (iovList.flatten.drop (iovIterPos (iovLens iovList) iovIter)).take fragLen

/-- The computation after a call. -/
def run (comp : Ipv6ChecksumComputation) : ChecksumCall → Ipv6ChecksumComputation
  | oneByte b => ipv6ChecksumComputationProvideWithOneByte comp b
  | byteArray bufPtr bufLen => ipv6ChecksumComputationProvideWithByteArray comp bufPtr bufLen
  | iov iovList iovIter fragLen =>
    (ipv6ChecksumComputationProvideWithIovAndAdvanceIovIterator comp iovList iovIter fragLen).2.2

theorem covers_run {comp : Ipv6ChecksumComputation} {bs : List UInt8} (h : comp.Covers bs)
    {call : ChecksumCall} (hv : call.Valid) : (call.run comp).Covers (bs ++ call.bytes) := by
  cases call with
  | oneByte b => exact h.oneByte b
  | byteArray bufPtr bufLen =>
    cases bufPtr with
    | none => simpa [run, bytes, ipv6ChecksumComputationProvideWithByteArray] using h
    | some buf => exact h.byteArray (hv buf rfl)
  | iov iovList iovIter fragLen => exact (provideWithIov_spec _ hv fragLen).2.2.2 bs h

theorem covers_foldl {calls : List ChecksumCall} (hv : ∀ call ∈ calls, call.Valid)
    {comp : Ipv6ChecksumComputation} {bs : List UInt8} (h : comp.Covers bs) :
    (calls.foldl run comp).Covers (bs ++ calls.flatMap bytes) := by
  induction calls generalizing comp bs with
  | nil => simpa using h
  | cons call calls ih =>
    have hstep := covers_run h (hv call List.mem_cons_self)
    rw [List.foldl_cons, List.flatMap_cons, ← List.append_assoc]
    exact ih (fun c hc => hv c (List.mem_cons_of_mem call hc)) hstep

end ChecksumCall

/-- However a string of up to 131072 bytes is split among the calls, the computation returns its
Internet checksum; and each call on an I/O vector provides the bytes there are, of those
requested, and advances its iterator by them. -/
theorem ipv6Checksum_of_calls {calls : List ChecksumCall} (hv : ∀ call ∈ calls, call.Valid)
    (hlen : (calls.flatMap ChecksumCall.bytes).length ≤ 131072) :
    (ipv6ChecksumComputationFinalize
        (calls.foldl ChecksumCall.run ipv6ChecksumComputationInit)).toNat =
      internetChecksum (calls.flatMap ChecksumCall.bytes) ∧
    ∀ (comp : Ipv6ChecksumComputation) (l : IovBlist) (it : IovBlistIter) (fragLen : ℕ),
      ChecksumCall.iov l it fragLen ∈ calls →
      let p := iovIterPos (iovLens l) it
      let r := ipv6ChecksumComputationProvideWithIovAndAdvanceIovIterator comp l it fragLen
      r.1 = min fragLen (l.flatten.length - p) ∧ IovIterWithin (iovLens l) r.2.1 ∧
        iovIterPos (iovLens l) r.2.1 = p + r.1 := by
  refine ⟨?_, ?_⟩
  · have h := ChecksumCall.covers_foldl hv covers_init
    exact h.finalize hlen
  · intro comp l it fragLen hmem
    obtain ⟨hcount, hwithin, hpos, -⟩ :=
      provideWithIov_spec comp (hv _ hmem) fragLen
    exact ⟨hcount, hwithin, hpos⟩

/-- Three odd pieces, the last of them in an I/O vector with an empty element. -/
theorem ipv6Checksum_of_three_calls :
    (ipv6ChecksumComputationFinalize ([.oneByte 1, .byteArray (some [2, 3, 4]) 3,
        .iov [[9, 5], [], [6]] ⟨some 0, 1⟩ 7].foldl ChecksumCall.run
          ipv6ChecksumComputationInit)).toNat = internetChecksum [1, 2, 3, 4, 5, 6] := by
  refine (@ipv6Checksum_of_calls [.oneByte 1, .byteArray (some [2, 3, 4]) 3,
    .iov [[9, 5], [], [6]] ⟨some 0, 1⟩ 7] ?_ ?_).1
  · simp only [List.forall_mem_cons, ChecksumCall.Valid, List.not_mem_nil, false_implies,
      implies_true, and_true, true_and]
    refine ⟨?_, @iovIterWithin_some [] [0, 1] 2 1 0 rfl (by decide)⟩
    rintro buf hbuf
    obtain rfl := Option.some.inj hbuf
    decide
  · decide

end Whip6
