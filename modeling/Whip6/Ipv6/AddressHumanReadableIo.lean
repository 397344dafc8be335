import Whip6.Ipv6.AddressText
import Whip6.Lib.Runs

/-!
# Writing an IPv6 address

The text of an address is written one character for each call.  An iterator says what comes next,
at which hexadecimal digit of the address; the digits of the run that is left out lie between
`firstZeroIdx` and `nextNonzeroIdx`.
-/

namespace Whip6

open Lib

def IPV6_ADDRESS_LENGTH_IN_BYTES : UInt8 := 16

def WHIP6_IPV6_ADDR_HUMAN_READABLE_OUT_EOS : Char := '\x00'

/-- `WHIP6_IPV6_ADDR_HUMAN_READABLE_OUT_ACTION_…` -/
inductive Ipv6AddrHumanReadableOutAction
  | number
  | singleColon
  | firstDoubleColon
  | secondDoubleColon
  | stop
  deriving DecidableEq

structure Ipv6AddrHumanReadableOutIter where
  addr : Ipv6Addr
  nextAction : Ipv6AddrHumanReadableOutAction
  nextIdx : UInt8
  firstZeroIdx : UInt8
  nextNonzeroIdx : UInt8

def lo4bitsToHexChar (b : UInt8) : Char :=
  match (b &&& 0x0f).toNat with
  | 0x00 => '0'
  | 0x01 => '1'
  | 0x02 => '2'
  | 0x03 => '3'
  | 0x04 => '4'
  | 0x05 => '5'
  | 0x06 => '6'
  | 0x07 => '7'
  | 0x08 => '8'
  | 0x09 => '9'
  | 0x0a => 'a'
  | 0x0b => 'b'
  | 0x0c => 'c'
  | 0x0d => 'd'
  | 0x0e => 'e'
  | _ => 'f'

def hi4bitsToHexChar (b : UInt8) : Char := lo4bitsToHexChar (b >>> 4)

def ipv6AddrHumanReadableIoGetDigitForWriting (addr : Ipv6Addr) (i : UInt8) : Char :=
  let idx := i >>> 1
  let discr := i &&& 0x01
  let addrPtr := addr.toList.getD idx.toNat 0
  if discr ≠ 0 then lo4bitsToHexChar addrPtr else hi4bitsToHexChar addrPtr

/-! ## The run of zeros -/

/-- The variables of the scan for the longest run of zero bytes. -/
structure ZeroRunVars where
  maxZeroFirstIdx : UInt8
  maxZeroNum : UInt8
  currZeroNum : UInt8

/-- The current run ends before the byte at `idx`. -/
def ZeroRunVars.close (v : ZeroRunVars) (idx : UInt8) : ZeroRunVars :=
  if v.currZeroNum > v.maxZeroNum then
    ⟨idx - v.currZeroNum, v.currZeroNum, 0⟩
  else { v with currZeroNum := 0 }

/-- The loop over the words of the address. -/
def zeroRunLoop (v : ZeroRunVars) (idx : UInt8) : List UInt8 → ZeroRunVars
  | first :: second :: rest =>
    zeroRunLoop
      (if first = 0x00 ∧ second = 0x00 then { v with currZeroNum := v.currZeroNum + 2 }
        else v.close idx)
      (idx + 2) rest
  | _ => v

def ipv6AddrHumanReadableIoInitializeWriting (addr : Ipv6Addr) : Ipv6AddrHumanReadableOutIter :=
  let v := zeroRunLoop ⟨IPV6_ADDRESS_LENGTH_IN_BYTES, 0, 0⟩ 0 addr.toList
  let v := v.close IPV6_ADDRESS_LENGTH_IN_BYTES
  if v.maxZeroNum > 2 then
    let nextNonzeroIdx := (v.maxZeroFirstIdx + v.maxZeroNum) <<< 1
    let firstZeroIdx := v.maxZeroFirstIdx <<< 1
    if firstZeroIdx = 0 then ⟨addr, .firstDoubleColon, nextNonzeroIdx, firstZeroIdx, nextNonzeroIdx⟩
    else ⟨addr, .number, 0, firstZeroIdx, nextNonzeroIdx⟩
  else
    ⟨addr, .number, 0, IPV6_ADDRESS_LENGTH_IN_BYTES <<< 1, (IPV6_ADDRESS_LENGTH_IN_BYTES <<< 1) + 1⟩

/-! ## One character -/

/-- The loop over the leading zeros of a group: the last digit that was read, and the index behind
it.  It ends with the group, after three digits at most. -/
def skipZerosLoop (addr : Ipv6Addr) : ℕ → UInt8 → Char × UInt8
  | 0, nextIdx => ('0', nextIdx)
  | fuel + 1, nextIdx =>
    let res := ipv6AddrHumanReadableIoGetDigitForWriting addr nextIdx
    let nextIdx := nextIdx + 1
    if res = '0' ∧ nextIdx &&& 0x3 ≠ 0 then skipZerosLoop addr fuel nextIdx else (res, nextIdx)

/-- The digit that is returned for the one at an index, and the index behind it: the leading zeros
of a group are left out. -/
def nextDigit (addr : Ipv6Addr) (nextIdx : UInt8) : Char × UInt8 :=
  let res := ipv6AddrHumanReadableIoGetDigitForWriting addr nextIdx
  let nextIdx := nextIdx + 1
  if nextIdx &&& 0x3 = 1 ∧ res = '0' then skipZerosLoop addr 4 nextIdx else (res, nextIdx)

def ipv6AddrHumanReadableIoContinueWriting (iter : Ipv6AddrHumanReadableOutIter) :
    Char × Ipv6AddrHumanReadableOutIter :=
  match iter.nextAction with
  | .number =>
    let r := nextDigit iter.addr iter.nextIdx
    let nextIdx := r.2
    if nextIdx ≥ IPV6_ADDRESS_LENGTH_IN_BYTES <<< 1 then
      (r.1, { iter with nextAction := .stop, nextIdx := nextIdx })
    else if nextIdx = iter.firstZeroIdx then
      (r.1, { iter with nextAction := .firstDoubleColon, nextIdx := iter.nextNonzeroIdx })
    else if nextIdx &&& 0x03 = 0 then
      (r.1, { iter with nextAction := .singleColon, nextIdx := nextIdx })
    else (r.1, { iter with nextIdx := nextIdx })
  | .singleColon => (':', { iter with nextAction := .number })
  | .firstDoubleColon => (':', { iter with nextAction := .secondDoubleColon })
  | .secondDoubleColon =>
    (':', { iter with nextAction :=
      if iter.nextIdx ≥ IPV6_ADDRESS_LENGTH_IN_BYTES <<< 1 then .stop else .number })
  | .stop => (WHIP6_IPV6_ADDR_HUMAN_READABLE_OUT_EOS, iter)

/-- A request for the next character. -/
def requestCharacter (iter : Ipv6AddrHumanReadableOutIter) (_ : Unit) :
    Ipv6AddrHumanReadableOutIter × List Char :=
  let r := ipv6AddrHumanReadableIoContinueWriting iter
  (r.2, [r.1])

/-- The characters that are returned to the first `n` requests. -/
def ipv6AddrWritten (addr : Ipv6Addr) (n : ℕ) : List Char :=
  (run requestCharacter (ipv6AddrHumanReadableIoInitializeWriting addr) (List.replicate n ())).2

example : String.ofList (ipv6AddrWritten #v[0xfe, 0x80, 0, 0, 0, 0, 0, 0, 0, 0, 0, 0, 0, 0, 0, 1] 7) =
    "fe80::1" := by decide

/-! ## The scan for zeros -/

/-- The scan counts in bytes what is a number of groups. -/
structure CountsBytes (v : ZeroRunVars) (s : RunScan) : Prop where
  first : v.maxZeroFirstIdx.toNat = 2 * s.first
  num : v.maxZeroNum.toNat = 2 * s.num
  curr : v.currZeroNum.toNat = 2 * s.curr

theorem CountsBytes.close {v : ZeroRunVars} {s : RunScan} (h : CountsBytes v s) {idx : UInt8}
    {k : ℕ} (hidx : idx.toNat = 2 * k) (hk : s.curr ≤ k) :
    CountsBytes (v.close idx) (s.close k) := by
  obtain ⟨hfirst, hnum, hcurr⟩ := h
  unfold ZeroRunVars.close RunScan.close
  by_cases hcmp : s.curr > s.num
  · rw [if_pos hcmp, if_pos (UInt8.lt_iff_toNat_lt.mpr (by omega))]
    refine ⟨?_, hcurr, rfl⟩
    rw [UInt8.toNat_sub_of_le _ _ (UInt8.le_iff_toNat_le.mpr (by omega)), hidx, hcurr]
    dsimp only
    omega
  · rw [if_neg hcmp, if_neg (by rw [gt_iff_lt, UInt8.lt_iff_toNat_lt]; omega)]
    exact ⟨hfirst, hnum, rfl⟩

theorem group_eq_zero_iff (hi lo : UInt8) : hi.toNat * 256 + lo.toNat = 0 ↔ hi = 0 ∧ lo = 0 := by
  rw [← UInt8.toNat_inj, ← UInt8.toNat_inj, show (0 : UInt8).toNat = 0 from rfl]
  omega

/-- The loop of the code is the scan over the groups. -/
theorem zeroRunLoop_spec (bytes : List UInt8) {v : ZeroRunVars} {s : RunScan} {idx : UInt8} {k : ℕ}
    (h : CountsBytes v s) (hidx : idx.toNat = 2 * k) (hcurr : s.curr ≤ k)
    (hlen : 2 * k + bytes.length = 16) :
    CountsBytes ((zeroRunLoop v idx bytes).close IPV6_ADDRESS_LENGTH_IN_BYTES)
      (s.scan (· = 0) k (ipv6AddrGroups bytes)) := by
  induction bytes using ipv6AddrGroups.induct generalizing v s idx k with
  | case1 hi lo rest ih =>
    simp only [List.length_cons] at hlen
    have hnext : (idx + 2).toNat = 2 * (k + 1) := by
      rw [UInt8.toNat_add, show (2 : UInt8).toNat = 2 from rfl]
      omega
    rw [zeroRunLoop, ipv6AddrGroups, RunScan.scan, RunScan.step]
    by_cases hzero : hi = 0 ∧ lo = 0
    · rw [if_pos hzero, if_pos ((group_eq_zero_iff hi lo).mpr hzero)]
      have hcount : (v.currZeroNum + 2).toNat = 2 * (s.curr + 1) := by
        have := h.curr
        rw [UInt8.toNat_add, show (2 : UInt8).toNat = 2 from rfl]
        omega
      exact ih ⟨h.first, h.num, hcount⟩ hnext (by dsimp only; omega) (by omega)
    · rw [if_neg hzero, if_neg fun h => hzero ((group_eq_zero_iff hi lo).mp h)]
      have hzeroed : (s.close k).curr = 0 := by
        unfold RunScan.close
        split <;> rfl
      exact ih (h.close hidx hcurr) hnext (by omega) (by omega)
  | case2 bytes hne =>
    rcases bytes with _ | ⟨hi, _ | ⟨lo, rest⟩⟩
    · simp only [List.length_nil] at hlen
      exact h.close (k := k) (by rw [show IPV6_ADDRESS_LENGTH_IN_BYTES.toNat = 16 from rfl]; omega)
        hcurr
    · simp only [List.length_singleton] at hlen
      omega
    · exact absurd rfl (hne hi lo rest)

theorem shiftLeft_one_toNat {x : UInt8} (h : x.toNat ≤ 16) : (x <<< 1).toNat = 2 * x.toNat := by
  rw [UInt8.toNat_shiftLeft, Nat.shiftLeft_eq, show (1 : UInt8).toNat % 8 = 1 from rfl]
  omega

/-- How writing begins: at the run that is left out, or at the first digit. -/
structure BeginsWriting (addr : Ipv6Addr) (iter : Ipv6AddrHumanReadableOutIter) (i n : ℕ) :
    Prop where
  addr : iter.addr = addr
  firstZeroIdx : iter.firstZeroIdx.toNat = 4 * i
  nextNonzeroIdx : iter.nextNonzeroIdx.toNat = 4 * (i + n)
  begin : (i = 0 ∧ iter.nextAction = .firstDoubleColon ∧ iter.nextIdx = iter.nextNonzeroIdx) ∨
    (i ≠ 0 ∧ iter.nextAction = .number ∧ iter.nextIdx = 0)

theorem initializeWriting_spec (addr : Ipv6Addr) :
    let gs := ipv6AddrGroups addr.toList
    let iter := ipv6AddrHumanReadableIoInitializeWriting addr
    (∃ i n, 2 ≤ n ∧ LeftmostLongest (· = 0) gs i n ∧ BeginsWriting addr iter i n) ∨
      ((∀ i n, IsStretch (· = 0) gs i n → n < 2) ∧ iter = ⟨addr, .number, 0, 32, 33⟩) := by
  intro gs iter
  have hscan := @zeroRunLoop_spec addr.toList ⟨IPV6_ADDRESS_LENGTH_IN_BYTES, 0, 0⟩ ⟨8, 0, 0⟩ 0 0
    ⟨rfl, rfl, rfl⟩ rfl (le_refl 0) (by simp)
  obtain ⟨hbound, hbest⟩ := scan_leftmostLongest (p := (· = 0)) gs 8
  generalize hs : RunScan.scan (· = 0) ⟨8, 0, 0⟩ 0 (ipv6AddrGroups addr.toList) = s at hscan
  have hs' : RunScan.scan (· = 0) ⟨8, 0, 0⟩ 0 gs = s := hs
  rw [hs'] at hbound hbest
  have hiter : iter = ipv6AddrHumanReadableIoInitializeWriting addr := rfl
  unfold ipv6AddrHumanReadableIoInitializeWriting at hiter
  dsimp only at hiter
  generalize (zeroRunLoop ⟨IPV6_ADDRESS_LENGTH_IN_BYTES, 0, 0⟩ 0 addr.toList).close
    IPV6_ADDRESS_LENGTH_IN_BYTES = v at hscan hiter
  obtain ⟨hfirst, hnum, -⟩ := hscan
  by_cases hlong : v.maxZeroNum > 2
  · rw [if_pos hlong] at hiter
    rw [gt_iff_lt, UInt8.lt_iff_toNat_lt, show (2 : UInt8).toNat = 2 from rfl] at hlong
    left
    have hrun := hbest (by omega)
    have hfit := hrun.run.1
    rw [length_ipv6AddrGroups, Vector.length_toList] at hfit
    have hsum : (v.maxZeroFirstIdx + v.maxZeroNum).toNat = 2 * (s.first + s.num) := by
      rw [UInt8.toNat_add]
      omega
    have hfirst' := shiftLeft_one_toNat (x := v.maxZeroFirstIdx) (by omega)
    have hsum' := shiftLeft_one_toNat (x := v.maxZeroFirstIdx + v.maxZeroNum) (by omega)
    refine ⟨s.first, s.num, by omega, hrun, ?_⟩
    by_cases hzero : v.maxZeroFirstIdx <<< 1 = 0
    · rw [if_pos hzero] at hiter
      rw [← UInt8.toNat_inj, show (0 : UInt8).toNat = 0 from rfl] at hzero
      rw [hiter]
      exact ⟨rfl, by dsimp only; omega, by dsimp only; omega, Or.inl ⟨by omega, rfl, rfl⟩⟩
    · rw [if_neg hzero] at hiter
      rw [← UInt8.toNat_inj, show (0 : UInt8).toNat = 0 from rfl] at hzero
      rw [hiter]
      exact ⟨rfl, by dsimp only; omega, by dsimp only; omega, Or.inr ⟨by omega, rfl, rfl⟩⟩
  · rw [if_neg hlong] at hiter
    rw [gt_iff_lt, UInt8.lt_iff_toNat_lt, show (2 : UInt8).toNat = 2 from rfl] at hlong
    right
    refine ⟨fun i n hstretch => ?_, hiter⟩
    have := hbound i n hstretch
    omega

/-! ## One digit -/

/-- The hexadecimal digit of an address at an index. -/
def nibble (addr : Ipv6Addr) (i : ℕ) : ℕ :=
  let byte := (addr.toList.getD (i / 2) 0).toNat
  if i % 2 = 1 then byte % 16 else byte / 16

theorem nibble_lt (addr : Ipv6Addr) (i : ℕ) : nibble addr i < 16 := by
  have := (addr.toList.getD (i / 2) 0).toNat_lt
  unfold nibble
  dsimp only
  split <;> omega

theorem lo4bitsToHexChar_eq (b : UInt8) : lo4bitsToHexChar b = Nat.digitChar (b.toNat % 16) := by
  have hmask : (b &&& 0x0f).toNat = b.toNat % 16 := by
    rw [UInt8.toNat_and]
    exact Nat.and_two_pow_sub_one_eq_mod b.toNat 4
  have hlt : b.toNat % 16 < 16 := Nat.mod_lt _ (by decide)
  rw [lo4bitsToHexChar, hmask]
  interval_cases b.toNat % 16 <;> rfl

theorem hi4bitsToHexChar_eq (b : UInt8) : hi4bitsToHexChar b = Nat.digitChar (b.toNat / 16) := by
  have := b.toNat_lt
  have hshift : (b >>> 4).toNat = b.toNat / 16 := by
    rw [UInt8.toNat_shiftRight, Nat.shiftRight_eq_div_pow]
    rfl
  rw [hi4bitsToHexChar, lo4bitsToHexChar_eq, hshift, Nat.mod_eq_of_lt (by omega)]

theorem and_three_toNat (x : UInt8) : (x &&& 0x3).toNat = x.toNat % 4 := by
  rw [UInt8.toNat_and]
  exact Nat.and_two_pow_sub_one_eq_mod x.toNat 2

theorem ofNat_toNat {i : ℕ} (h : i ≤ 32) : (UInt8.ofNat i).toNat = i := by
  rw [UInt8.toNat_ofNat']
  omega

theorem getDigit_eq (addr : Ipv6Addr) {i : ℕ} (h : i < 32) :
    ipv6AddrHumanReadableIoGetDigitForWriting addr (UInt8.ofNat i) =
      Nat.digitChar (nibble addr i) := by
  have hi := ofNat_toNat h.le
  have hidx : (UInt8.ofNat i >>> 1).toNat = i / 2 := by
    rw [UInt8.toNat_shiftRight, Nat.shiftRight_eq_div_pow, hi]
    rfl
  have hdiscr : UInt8.ofNat i &&& 0x01 = 0 ↔ i % 2 = 0 := by
    rw [← UInt8.toNat_inj, UInt8.toNat_and, hi]
    exact Eq.congr_left (Nat.and_two_pow_sub_one_eq_mod i 1)
  unfold ipv6AddrHumanReadableIoGetDigitForWriting nibble
  simp only [hidx, ne_eq, hdiscr]
  by_cases hodd : i % 2 = 1
  · rw [if_pos (by omega), if_pos hodd, lo4bitsToHexChar_eq]
  · rw [if_neg (by omega), if_neg hodd, hi4bitsToHexChar_eq]

theorem digitChar_eq_zero_iff : ∀ d < 16, Nat.digitChar d = '0' ↔ d = 0 := by
  decide

theorem ofNat_and_three {i : ℕ} (h : i ≤ 32) (m : ℕ) (hm : m < 4) :
    UInt8.ofNat i &&& 0x3 = UInt8.ofNat m ↔ i % 4 = m := by
  rw [← UInt8.toNat_inj, and_three_toNat, ofNat_toNat h, ofNat_toNat (by omega)]

/-! ## The iterator at a digit and behind it -/

namespace Ipv6AddrHumanReadableOutIter

variable (iter : Ipv6AddrHumanReadableOutIter)

/-- The iterator at a digit. -/
def atDigit (i : ℕ) : Ipv6AddrHumanReadableOutIter :=
  { iter with nextAction := .number, nextIdx := UInt8.ofNat i }

/-- The iterator behind the digits before an index. -/
def behindDigit (i : ℕ) : Ipv6AddrHumanReadableOutIter :=
  if i = 32 then { iter with nextAction := .stop, nextIdx := 32 }
  else if i = iter.firstZeroIdx.toNat then
    { iter with nextAction := .firstDoubleColon, nextIdx := iter.nextNonzeroIdx }
  else if i % 4 = 0 then { iter with nextAction := .singleColon, nextIdx := UInt8.ofNat i }
  else iter.atDigit i

variable {iter}

theorem behindDigit_of_mod_ne {i : ℕ} (hz : iter.firstZeroIdx.toNat % 4 = 0) (hi : i % 4 ≠ 0) :
    iter.behindDigit i = iter.atDigit i := by
  rw [behindDigit, if_neg (by omega), if_neg (by omega), if_neg hi]

/-- A call at a digit, with the digit it returns and the index behind it. -/
theorem continue_atDigit {i m : ℕ} {c : Char} (hm : m ≤ 32)
    (hr : nextDigit iter.addr (UInt8.ofNat i) = (c, UInt8.ofNat m)) :
    ipv6AddrHumanReadableIoContinueWriting (iter.atDigit i) = (c, iter.behindDigit m) := by
  have hend : UInt8.ofNat m ≥ IPV6_ADDRESS_LENGTH_IN_BYTES <<< 1 ↔ m = 32 := by
    rw [ge_iff_le, UInt8.le_iff_toNat_le, ofNat_toNat hm,
      show (IPV6_ADDRESS_LENGTH_IN_BYTES <<< 1).toNat = 32 from rfl]
    omega
  have hzero : UInt8.ofNat m = iter.firstZeroIdx ↔ m = iter.firstZeroIdx.toNat := by
    rw [← UInt8.toNat_inj, ofNat_toNat hm]
  have hgroup : UInt8.ofNat m &&& 0x03 = 0 ↔ m % 4 = 0 := ofNat_and_three hm 0 (by decide)
  have hr' : nextDigit (iter.atDigit i).addr (iter.atDigit i).nextIdx = (c, UInt8.ofNat m) := hr
  rw [ipv6AddrHumanReadableIoContinueWriting, show (iter.atDigit i).nextAction = .number from rfl]
  simp only [hr', hend, show (iter.atDigit i).firstZeroIdx = iter.firstZeroIdx from rfl, hzero,
    hgroup]
  unfold behindDigit
  by_cases h32 : m = 32
  · rw [if_pos h32, if_pos h32, h32]
    rfl
  rw [if_neg h32, if_neg h32]
  by_cases hfirst : m = iter.firstZeroIdx.toNat
  · rw [if_pos hfirst, if_pos hfirst]
    rfl
  rw [if_neg hfirst, if_neg hfirst]
  by_cases hfour : m % 4 = 0
  · rw [if_pos hfour, if_pos hfour]
    rfl
  · rw [if_neg hfour, if_neg hfour]
    rfl

end Ipv6AddrHumanReadableOutIter

/-! ## The next digit -/

section NextDigit

variable {addr : Ipv6Addr} {i : ℕ}

theorem ofNat_add_one (i : ℕ) : UInt8.ofNat i + 1 = UInt8.ofNat (i + 1) :=
  (UInt8.ofNat_add i 1).symm

theorem nextDigit_of_shown (hi : i < 32) (h : i % 4 ≠ 0 ∨ nibble addr i ≠ 0) :
    nextDigit addr (UInt8.ofNat i) = (Nat.digitChar (nibble addr i), UInt8.ofNat (i + 1)) := by
  have hfirst : UInt8.ofNat (i + 1) &&& 0x3 = 1 ↔ (i + 1) % 4 = 1 :=
    ofNat_and_three hi 1 (by decide)
  have hzero := digitChar_eq_zero_iff _ (nibble_lt addr i)
  unfold nextDigit
  rw [getDigit_eq addr hi, ofNat_add_one]
  dsimp only
  rw [if_neg]
  rw [hfirst, hzero]
  omega

theorem nextDigit_of_zero (hi : i < 32) (hfour : i % 4 = 0) (h : nibble addr i = 0) :
    nextDigit addr (UInt8.ofNat i) = skipZerosLoop addr 4 (UInt8.ofNat (i + 1)) := by
  have hfirst : UInt8.ofNat (i + 1) &&& 0x3 = 1 ↔ (i + 1) % 4 = 1 :=
    ofNat_and_three hi 1 (by decide)
  have hzero := digitChar_eq_zero_iff _ (nibble_lt addr i)
  unfold nextDigit
  rw [getDigit_eq addr hi, ofNat_add_one]
  dsimp only
  rw [if_pos]
  rw [hfirst, hzero]
  omega

/-- The loop goes on at a zero that is not the last digit of its group. -/
theorem skipZerosLoop_succ (hi : i < 32) (fuel : ℕ) :
    skipZerosLoop addr (fuel + 1) (UInt8.ofNat i) =
      if nibble addr i = 0 ∧ (i + 1) % 4 ≠ 0 then skipZerosLoop addr fuel (UInt8.ofNat (i + 1))
      else (Nat.digitChar (nibble addr i), UInt8.ofNat (i + 1)) := by
  have hlast : UInt8.ofNat (i + 1) &&& 0x3 = 0 ↔ (i + 1) % 4 = 0 :=
    ofNat_and_three hi 0 (by decide)
  have hzero := digitChar_eq_zero_iff _ (nibble_lt addr i)
  rw [skipZerosLoop, getDigit_eq addr hi, ofNat_add_one]
  simp only [hzero, ne_eq, hlast]

/-- The loop passes zeros, and ends at another digit or with the group. -/
theorem skipZerosLoop_spec {n : ℕ} (hi : i + n < 32)
    (hzeros : ∀ l < n, nibble addr (i + l) = 0 ∧ (i + l + 1) % 4 ≠ 0)
    (hend : nibble addr (i + n) ≠ 0 ∨ (i + n + 1) % 4 = 0) {fuel : ℕ} (hfuel : n < fuel) :
    skipZerosLoop addr fuel (UInt8.ofNat i) =
      (Nat.digitChar (nibble addr (i + n)), UInt8.ofNat (i + n + 1)) := by
  induction n generalizing i fuel with
  | zero =>
    obtain ⟨fuel, rfl⟩ : ∃ k, fuel = k + 1 := ⟨fuel - 1, by omega⟩
    rw [skipZerosLoop_succ (by omega), if_neg (by rw [Nat.add_zero] at hend; omega)]
    rfl
  | succ n ih =>
    obtain ⟨fuel, rfl⟩ : ∃ k, fuel = k + 1 := ⟨fuel - 1, by omega⟩
    have hshift : i + (n + 1) = i + 1 + n := by omega
    have hzero : nibble addr i = 0 ∧ (i + 1) % 4 ≠ 0 := hzeros 0 (by omega)
    rw [skipZerosLoop_succ (by omega), if_pos hzero, hshift]
    refine ih (by omega) (fun l hl => ?_) (hshift ▸ hend) (by omega)
    have := hzeros (l + 1) (by omega)
    rwa [show i + (l + 1) = i + 1 + l by omega] at this

/-- The first digit that is returned for a group: its leading zeros are left out, but not its last
digit. -/
theorem nextDigit_group {k j : ℕ} (hk : k < 8) (hj : j < 4)
    (hzeros : ∀ l < j, nibble addr (4 * k + l) = 0) (hend : nibble addr (4 * k + j) ≠ 0 ∨ j = 3) :
    nextDigit addr (UInt8.ofNat (4 * k)) =
      (Nat.digitChar (nibble addr (4 * k + j)), UInt8.ofNat (4 * k + j + 1)) := by
  rcases Nat.eq_zero_or_pos j with rfl | hpos
  · exact nextDigit_of_shown (by omega) (Or.inr (by simpa using hend))
  · obtain ⟨j, rfl⟩ : ∃ l, j = l + 1 := ⟨j - 1, by omega⟩
    have hzero : nibble addr (4 * k) = 0 := hzeros 0 hpos
    rw [nextDigit_of_zero (by omega) (by omega) hzero,
      show 4 * k + (j + 1) = 4 * k + 1 + j by omega]
    refine skipZerosLoop_spec (by omega) (fun l hl => ⟨?_, by omega⟩) ?_ (by omega)
    · have := hzeros (l + 1) (by omega)
      rwa [show 4 * k + (l + 1) = 4 * k + 1 + l by omega] at this
    · rw [show 4 * k + (j + 1) = 4 * k + 1 + j by omega] at hend
      rcases hend with h | h
      · exact Or.inl h
      · exact Or.inr (by omega)

end NextDigit

/-! ## One group -/

/-- A group of the address. -/
def addrGroup (addr : Ipv6Addr) (k : ℕ) : ℕ :=
  (addr.toList.getD (2 * k) 0).toNat * 256 + (addr.toList.getD (2 * k + 1) 0).toNat

theorem ipv6AddrGroups_getElem? (bytes : List UInt8) {k : ℕ} (h : 2 * k + 1 < bytes.length) :
    (ipv6AddrGroups bytes)[k]? =
      some ((bytes.getD (2 * k) 0).toNat * 256 + (bytes.getD (2 * k + 1) 0).toNat) := by
  induction bytes using ipv6AddrGroups.induct generalizing k with
  | case1 hi lo rest ih =>
    cases k with
    | zero => rfl
    | succ k =>
      simp only [List.length_cons] at h
      rw [ipv6AddrGroups, List.getElem?_cons_succ, ih (by omega)]
      rfl
  | case2 bytes hne =>
    rcases bytes with _ | ⟨hi, _ | ⟨lo, rest⟩⟩
    · simp at h
    · simp at h
    · exact absurd rfl (hne hi lo rest)

theorem addrGroup_eq (addr : Ipv6Addr) (k : ℕ) :
    addrGroup addr k = nibble addr (4 * k) * 4096 + nibble addr (4 * k + 1) * 256 +
      nibble addr (4 * k + 2) * 16 + nibble addr (4 * k + 3) := by
  have hhi : 4 * k / 2 = 2 * k ∧ (4 * k + 1) / 2 = 2 * k ∧ (4 * k + 2) / 2 = 2 * k + 1 ∧
      (4 * k + 3) / 2 = 2 * k + 1 := by omega
  have hodd : ¬ 4 * k % 2 = 1 ∧ (4 * k + 1) % 2 = 1 ∧ ¬ (4 * k + 2) % 2 = 1 ∧
      (4 * k + 3) % 2 = 1 := by omega
  unfold addrGroup nibble
  simp only [hhi.1, hhi.2.1, hhi.2.2.1, hhi.2.2.2, if_neg hodd.1, if_pos hodd.2.1,
    if_neg hodd.2.2.1, if_pos hodd.2.2.2]
  omega

/-- The number with the digits `ds` behind those of `acc`. -/
theorem toDigits_foldl {acc : ℕ} (hacc : 0 < acc) (ds : List ℕ) (hds : ∀ d ∈ ds, d < 16) :
    Nat.toDigits 16 (ds.foldl (fun n d => 16 * n + d) acc) =
      Nat.toDigits 16 acc ++ ds.map Nat.digitChar := by
  induction ds generalizing acc with
  | nil => simp
  | cons d ds ih =>
    have hd := hds d List.mem_cons_self
    rw [List.foldl_cons, ih (by omega) fun d' hd' => hds d' (List.mem_cons_of_mem _ hd'),
      ← Nat.toDigits_append_toDigits (by decide) hacc hd, Nat.toDigits_of_lt_base hd,
      List.append_assoc, List.map_cons]
    rfl

/-- The digits of a group begin at its first digit that is not zero, or at its last one. -/
theorem toDigits_addrGroup (addr : Ipv6Addr) (k : ℕ) :
    ∃ j < 4, (∀ l < j, nibble addr (4 * k + l) = 0) ∧
      (nibble addr (4 * k + j) ≠ 0 ∨ j = 3) ∧
      Nat.toDigits 16 (addrGroup addr k) = Nat.digitChar (nibble addr (4 * k + j)) ::
        (List.range' (4 * k + j + 1) (3 - j)).map fun l => Nat.digitChar (nibble addr l) := by
  have hlt := nibble_lt addr
  have hmap : ∀ i n, (List.range' i n).map (fun l => Nat.digitChar (nibble addr l)) =
      ((List.range' i n).map (nibble addr)).map Nat.digitChar := by
    intro i n
    rw [List.map_map]
    rfl
  have hds : ∀ i n, ∀ d ∈ (List.range' i n).map (nibble addr), d < 16 := by
    intro i n d hd
    obtain ⟨l, -, rfl⟩ := List.mem_map.mp hd
    exact hlt l
  have hlead : ∀ j < 4, (∀ l < j, nibble addr (4 * k + l) = 0) → nibble addr (4 * k + j) ≠ 0 →
      Nat.toDigits 16 (addrGroup addr k) = Nat.digitChar (nibble addr (4 * k + j)) ::
        (List.range' (4 * k + j + 1) (3 - j)).map fun l => Nat.digitChar (nibble addr l) := by
    intro j hj hzeros hne
    have hvalue : addrGroup addr k = ((List.range' (4 * k + j + 1) (3 - j)).map
        (nibble addr)).foldl (fun n d => 16 * n + d) (nibble addr (4 * k + j)) := by
      rw [addrGroup_eq]
      have h0 : 0 < j → nibble addr (4 * k) = 0 := hzeros 0
      have h1 : 1 < j → nibble addr (4 * k + 1) = 0 := hzeros 1
      have h2 : 2 < j → nibble addr (4 * k + 2) = 0 := hzeros 2
      interval_cases j
      · change _ = 16 * (16 * (16 * nibble addr (4 * k) + nibble addr (4 * k + 1)) +
          nibble addr (4 * k + 2)) + nibble addr (4 * k + 3)
        omega
      · change _ = 16 * (16 * nibble addr (4 * k + 1) + nibble addr (4 * k + 2)) +
          nibble addr (4 * k + 3)
        omega
      · change _ = 16 * nibble addr (4 * k + 2) + nibble addr (4 * k + 3)
        omega
      · change _ = nibble addr (4 * k + 3)
        omega
    rw [hvalue, toDigits_foldl (by omega) _ (hds _ _), Nat.toDigits_of_lt_base (hlt _), hmap]
    rfl
  by_cases h0 : nibble addr (4 * k + 0) = 0
  · by_cases h1 : nibble addr (4 * k + 1) = 0
    · by_cases h2 : nibble addr (4 * k + 2) = 0
      · have hzeros : ∀ l < 3, nibble addr (4 * k + l) = 0 := by
          intro l hl
          interval_cases l <;> assumption
        refine ⟨3, by decide, hzeros, Or.inr rfl, ?_⟩
        have hvalue : addrGroup addr k = nibble addr (4 * k + 3) := by
          rw [addrGroup_eq]
          rw [Nat.add_zero] at h0
          omega
        rw [hvalue, Nat.toDigits_of_lt_base (hlt _)]
        rfl
      · have hzeros : ∀ l < 2, nibble addr (4 * k + l) = 0 := by
          intro l hl
          interval_cases l <;> assumption
        exact ⟨2, by decide, hzeros, Or.inl h2, hlead 2 (by decide) hzeros h2⟩
    · have hzeros : ∀ l < 1, nibble addr (4 * k + l) = 0 := by
        intro l hl
        interval_cases l
        exact h0
      exact ⟨1, by decide, hzeros, Or.inl h1, hlead 1 (by decide) hzeros h1⟩
  · have hzeros : ∀ l < 0, nibble addr (4 * k + l) = 0 := fun l hl => absurd hl (Nat.not_lt_zero l)
    exact ⟨0, by decide, hzeros, Or.inl h0, hlead 0 (by decide) hzeros h0⟩

/-! ## Writing a part of the text -/

/-- The requests for a text lead from one iterator to another. -/
def Emits (iter : Ipv6AddrHumanReadableOutIter) (text : List Char)
    (iter' : Ipv6AddrHumanReadableOutIter) : Prop :=
  run requestCharacter iter (List.replicate text.length ()) = (iter', text)

namespace Emits

variable {iter iter' iter'' : Ipv6AddrHumanReadableOutIter} {text text' : List Char} {c : Char}

theorem nil (iter : Ipv6AddrHumanReadableOutIter) : Emits iter [] iter := rfl

theorem cons (h : ipv6AddrHumanReadableIoContinueWriting iter = (c, iter'))
    (hrest : Emits iter' text iter'') : Emits iter (c :: text) iter'' := by
  unfold Emits at hrest ⊢
  rw [List.length_cons, List.replicate_succ, run, requestCharacter, h]
  simp only [hrest, List.singleton_append]

theorem append (h : Emits iter text iter') (h' : Emits iter' text' iter'') :
    Emits iter (text ++ text') iter'' := by
  unfold Emits at h h' ⊢
  rw [List.length_append, List.replicate_add, run_append, h, h']

end Emits

section Writing

variable {iter : Ipv6AddrHumanReadableOutIter}

open Ipv6AddrHumanReadableOutIter

/-- The digits of a group from one that is not its first on. -/
theorem emits_digits (hz : iter.firstZeroIdx.toNat % 4 = 0) {i n : ℕ} (hi : i ≤ 32)
    (hgroup : n = 0 ∨ i % 4 + n = 4) (hn : n < 4) :
    Emits (iter.behindDigit i)
      ((List.range' i n).map fun j => Nat.digitChar (nibble iter.addr j))
      (iter.behindDigit (i + n)) := by
  induction n generalizing i with
  | zero => exact Emits.nil _
  | succ n ih =>
    have hdigit := @continue_atDigit iter i (i + 1) _ (by omega)
      (nextDigit_of_shown (show i < 32 by omega) (Or.inl (by omega)))
    rw [behindDigit_of_mod_ne hz (by omega), List.range'_succ, List.map_cons,
      show i + (n + 1) = i + 1 + n by omega]
    exact Emits.cons hdigit (ih (by omega) (by omega) (by omega))

/-- A group. -/
theorem emits_group (hz : iter.firstZeroIdx.toNat % 4 = 0) {k : ℕ} (hk : k < 8) :
    Emits (iter.atDigit (4 * k)) (Nat.toDigits 16 (addrGroup iter.addr k))
      (iter.behindDigit (4 * (k + 1))) := by
  obtain ⟨j, hj, hzeros, hend, hdigits⟩ := toDigits_addrGroup iter.addr k
  have hrest := emits_digits hz (i := 4 * k + j + 1) (n := 3 - j) (by omega) (by omega) (by omega)
  rw [show 4 * k + j + 1 + (3 - j) = 4 * (k + 1) by omega] at hrest
  rw [hdigits]
  exact Emits.cons (continue_atDigit (by omega) (nextDigit_group hk hj hzeros hend)) hrest

/-- Behind a group that is not the last one and that no run follows comes a colon. -/
theorem emits_colon {k : ℕ} (hk : k < 8) (hrun : 4 * k ≠ iter.firstZeroIdx.toNat) :
    Emits (iter.behindDigit (4 * k)) [':'] (iter.atDigit (4 * k)) := by
  rw [behindDigit, if_neg (by omega), if_neg hrun, if_pos (by omega)]
  exact Emits.cons rfl (Emits.nil _)

/-- Groups that no run interrupts. -/
theorem emits_groups (hz : iter.firstZeroIdx.toNat % 4 = 0) {a m : ℕ} (hm : a + (m + 1) ≤ 8)
    (hrun : ∀ k, a < k → k < a + (m + 1) → 4 * k ≠ iter.firstZeroIdx.toNat) :
    Emits (iter.atDigit (4 * a))
      (joinGroups ((List.range' a (m + 1)).map (addrGroup iter.addr)))
      (iter.behindDigit (4 * (a + (m + 1)))) := by
  induction m generalizing a with
  | zero => exact joinGroups_singleton _ ▸ emits_group hz (by omega)
  | succ m ih =>
    have hfirst := emits_group hz (show a < 8 by omega)
    have hcolon := emits_colon (show a + 1 < 8 by omega) (hrun (a + 1) (by omega) (by omega))
    have hrest := ih (a := a + 1) (by omega) fun k hk hlt => hrun k (by omega) (by omega)
    rw [show a + 1 + (m + 1) = a + (m + 1 + 1) by omega] at hrest
    rw [List.range'_succ, List.range'_succ, List.map_cons, List.map_cons, joinGroups_cons_cons,
      ← List.map_cons, ← List.range'_succ]
    exact hfirst.append (hcolon.append hrest)

/-- The two colons for a run. -/
theorem emits_doubleColon {k : ℕ} (hk : k ≤ 8) (hnext : iter.nextNonzeroIdx.toNat = 4 * k)
    (h : iter.nextAction = .firstDoubleColon) (hidx : iter.nextIdx = iter.nextNonzeroIdx) :
    Emits iter [':', ':'] (if k = 8 then { iter with nextAction := .stop } else
      iter.atDigit (4 * k)) := by
  have hend : iter.nextIdx ≥ IPV6_ADDRESS_LENGTH_IN_BYTES <<< 1 ↔ k = 8 := by
    rw [ge_iff_le, UInt8.le_iff_toNat_le, hidx, hnext,
      show (IPV6_ADDRESS_LENGTH_IN_BYTES <<< 1).toNat = 32 from rfl]
    omega
  have hnat : UInt8.ofNat (4 * k) = iter.nextIdx := by
    rw [hidx, ← hnext, UInt8.ofNat_toNat]
  have hfirst : ipv6AddrHumanReadableIoContinueWriting iter =
      (':', { iter with nextAction := .secondDoubleColon }) := by
    rw [ipv6AddrHumanReadableIoContinueWriting, h]
  refine Emits.cons hfirst (Emits.cons ?_ (Emits.nil _))
  simp only [ipv6AddrHumanReadableIoContinueWriting, hend, atDigit, hnat]
  split <;> rfl

/-- What is written from a run on. -/
theorem emits_fromRun (hz : iter.firstZeroIdx.toNat % 4 = 0) {k : ℕ} (hk : k ≤ 8)
    (hbefore : iter.firstZeroIdx.toNat ≤ 4 * k) (hnext : iter.nextNonzeroIdx.toNat = 4 * k)
    (h : iter.nextAction = .firstDoubleColon) (hidx : iter.nextIdx = iter.nextNonzeroIdx) :
    ∃ iter', iter'.nextAction = .stop ∧ Emits iter
      (':' :: ':' :: joinGroups ((List.range' k (8 - k)).map (addrGroup iter.addr))) iter' := by
  have hcolons := emits_doubleColon hk hnext h hidx
  rcases Nat.eq_or_lt_of_le hk with rfl | hlt
  · exact ⟨_, rfl, hcolons⟩
  · rw [if_neg (by omega)] at hcolons
    obtain ⟨m, hm⟩ : ∃ m, 8 - k = m + 1 := ⟨7 - k, by omega⟩
    have hgroups := emits_groups hz (show k + (m + 1) ≤ 8 by omega) fun l hl _ => by omega
    rw [← hm, show k + (8 - k) = 8 by omega] at hgroups
    exact ⟨_, rfl, hcolons.append hgroups⟩

end Writing

theorem ipv6AddrGroups_eq (addr : Ipv6Addr) :
    ipv6AddrGroups addr.toList = (List.range' 0 8).map (addrGroup addr) := by
  apply List.ext_getElem?
  intro k
  by_cases hk : k < 8
  · rw [ipv6AddrGroups_getElem? _ (by rw [Vector.length_toList]; omega), List.getElem?_map,
      List.getElem?_range' hk]
    simp [addrGroup]
  · rw [List.getElem?_eq_none (by rw [length_ipv6AddrGroups, Vector.length_toList]; omega),
      List.getElem?_eq_none (by simpa using hk)]

theorem take_ipv6AddrGroups (addr : Ipv6Addr) {i : ℕ} (h : i ≤ 8) :
    (ipv6AddrGroups addr.toList).take i = (List.range' 0 i).map (addrGroup addr) := by
  rw [ipv6AddrGroups_eq, ← List.map_take, List.take_range'_of_length_ge h]

theorem drop_ipv6AddrGroups (addr : Ipv6Addr) (i : ℕ) :
    (ipv6AddrGroups addr.toList).drop i = (List.range' i (8 - i)).map (addrGroup addr) := by
  rw [ipv6AddrGroups_eq, ← List.map_drop, List.drop_range']
  simp

/-- The requests write the canonical text, and then the end of the string. -/
theorem emits_canonicalText (addr : Ipv6Addr) :
    ∃ text iter', CanonicalText (ipv6AddrGroups addr.toList) text ∧
      Emits (ipv6AddrHumanReadableIoInitializeWriting addr) text iter' ∧
      iter'.nextAction = .stop := by
  rcases initializeWriting_spec addr with ⟨i, n, hn, hrun, hbegin⟩ | ⟨hshort, hiter⟩
  · have hfit := hrun.run.1
    rw [length_ipv6AddrGroups, Vector.length_toList] at hfit
    obtain ⟨haddr, hfirst, hnext, hact⟩ := hbegin
    generalize ipv6AddrHumanReadableIoInitializeWriting addr = iter at haddr hfirst hnext hact ⊢
    have hcanon := CanonicalText.compressed hn hrun
    rw [take_ipv6AddrGroups addr (by omega), drop_ipv6AddrGroups addr] at hcanon
    rcases hact with ⟨rfl, hact, hidx⟩ | ⟨hi, hact, hidx⟩
    · obtain ⟨iter', hstop, hemits⟩ := emits_fromRun (k := 0 + n) (by omega) (by omega) (by omega)
        hnext hact hidx
      rw [haddr] at hemits
      exact ⟨_, iter', hcanon, hemits, hstop⟩
    · obtain ⟨m, rfl⟩ : ∃ m, i = m + 1 := ⟨i - 1, by omega⟩
      have hgroups := @emits_groups iter (by omega) 0 m (by omega) fun k hk hlt => by omega
      have hstart : iter.atDigit (4 * 0) = iter := by
        have hidx' : UInt8.ofNat (4 * 0) = iter.nextIdx := hidx.symm
        rw [Ipv6AddrHumanReadableOutIter.atDigit, ← hact, hidx']
      have hbehind : iter.behindDigit (4 * (0 + (m + 1))) =
          { iter with nextAction := .firstDoubleColon, nextIdx := iter.nextNonzeroIdx } := by
        rw [Ipv6AddrHumanReadableOutIter.behindDigit, if_neg (by omega), if_pos (by omega)]
      obtain ⟨iter', hstop, hemits⟩ := @emits_fromRun
        { iter with nextAction := .firstDoubleColon, nextIdx := iter.nextNonzeroIdx }
        (by dsimp only; omega) (m + 1 + n) (by omega) (by dsimp only; omega) hnext rfl rfl
      rw [hstart, hbehind, haddr] at hgroups
      dsimp only at hemits
      rw [haddr] at hemits
      exact ⟨_, iter', hcanon, hgroups.append hemits, hstop⟩
  · have hgroups := @emits_groups ⟨addr, .number, 0, 32, 33⟩ (by dsimp only; decide) 0 7
      (by omega) fun k hk hlt => by
        rw [show (32 : UInt8).toNat = 32 from rfl]
        omega
    have hcanon := CanonicalText.plain hshort
    rw [hiter]
    rw [ipv6AddrGroups_eq] at hcanon ⊢
    exact ⟨_, _, hcanon, hgroups, rfl⟩

theorem run_stop {iter : Ipv6AddrHumanReadableOutIter} (h : iter.nextAction = .stop) (n : ℕ) :
    (run requestCharacter iter (List.replicate n ())).2 =
      List.replicate n WHIP6_IPV6_ADDR_HUMAN_READABLE_OUT_EOS := by
  induction n with
  | zero => rfl
  | succ n ih =>
    have hstep : requestCharacter iter () = (iter, [WHIP6_IPV6_ADDR_HUMAN_READABLE_OUT_EOS]) := by
      rw [requestCharacter, ipv6AddrHumanReadableIoContinueWriting, h]
    rw [List.replicate_succ, List.replicate_succ, run, hstep]
    exact congrArg _ ih

theorem length_run_requests (iter : Ipv6AddrHumanReadableOutIter) (n : ℕ) :
    (run requestCharacter iter (List.replicate n ())).2.length = n := by
  induction n generalizing iter with
  | zero => rfl
  | succ n ih =>
    rw [List.replicate_succ, run, List.length_append, ih]
    exact Nat.add_comm 1 n

/-- The requests that are made before a text is complete. -/
theorem Emits.run_of_le {iter iter' : Ipv6AddrHumanReadableOutIter} {text : List Char}
    (h : Emits iter text iter') {n : ℕ} (hn : n ≤ text.length) :
    (run requestCharacter iter (List.replicate n ())).2 = text.take n := by
  have htext : (run requestCharacter iter (List.replicate text.length ())).2 = text :=
    congrArg Prod.snd h
  rw [show text.length = n + (text.length - n) by omega, List.replicate_add, run_append] at htext
  rw [← htext]
  exact (List.take_left' (length_run_requests iter n)).symm

/-- The requests for a text and those behind it. -/
theorem Emits.run_of_ge {iter iter' : Ipv6AddrHumanReadableOutIter} {text : List Char}
    (h : Emits iter text iter') (hstop : iter'.nextAction = .stop) {n : ℕ} (hn : text.length ≤ n) :
    (run requestCharacter iter (List.replicate n ())).2 =
      text ++ List.replicate (n - text.length) WHIP6_IPV6_ADDR_HUMAN_READABLE_OUT_EOS := by
  rw [show n = text.length + (n - text.length) by omega, List.replicate_add, run_append, h,
    run_stop hstop, Nat.add_sub_cancel_left]

/-- Writing an address returns its canonical text, of 39 characters at most, and then the end of
the string for ever; and the text reads back to the address. -/
theorem ipv6AddrWritten_canonical (addr : Ipv6Addr) :
    ∃ text : List Char, text.length ≤ 39 ∧ WHIP6_IPV6_ADDR_HUMAN_READABLE_OUT_EOS ∉ text ∧
      (∀ n, ipv6AddrWritten addr n =
        text.take n ++ List.replicate (n - text.length) WHIP6_IPV6_ADDR_HUMAN_READABLE_OUT_EOS) ∧
      CanonicalText (ipv6AddrGroups addr.toList) text ∧ readIpv6Addr text = some addr := by
  obtain ⟨text, iter', hcanon, hemits, hstop⟩ := emits_canonicalText addr
  have hlen : (ipv6AddrGroups addr.toList).length = 8 := by
    rw [length_ipv6AddrGroups, Vector.length_toList]
  have hlt := ipv6AddrGroups_lt addr.toList
  refine ⟨text, hcanon.length_le hlen hlt, hcanon.nul_not_mem, fun n => ?_, hcanon, ?_⟩
  · rcases Nat.le_total n text.length with hn | hn
    · rw [ipv6AddrWritten, hemits.run_of_le hn, Nat.sub_eq_zero_of_le hn, List.replicate_zero,
        List.append_nil]
    · rw [ipv6AddrWritten, hemits.run_of_ge hstop hn, List.take_of_length_le hn]
  · have hbytes := groupBytes_ipv6AddrGroups addr.toList (by rw [Vector.length_toList])
    rw [readIpv6Addr, hcanon.read_eq hlen hlt, Option.bind_eq_bind, Option.bind_some, hbytes,
      dif_pos Vector.length_toList]
    rfl

end Whip6
