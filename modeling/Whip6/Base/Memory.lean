import Whip6.Lib.Splice

/-!
# Bytes in memory

The bytes from a pointer on are a list.  A copy that runs out of source bytes, or over the end of
its destination, has no meaning in the code; here it stops.  The lemmas say that a copy is a
splice of the bytes it copies, and that a comparison is zero exactly between equal bytes.
Numbers of two bytes are kept in the network byte order, the high byte first.
-/

namespace Whip6

open Lib

/-- Copy `size` bytes from `src` to `dst`, from the offset `dstOffset` of the latter on. -/
def longMemCpy : List UInt8 → List UInt8 → ℕ → ℕ → List UInt8
  | b :: src, dst, dstOffset, size + 1 =>
    longMemCpy src (dst.set dstOffset b) (dstOffset + 1) size
  | _, dst, _, _ => dst

/-- Copy `size < 256` bytes: the same loop with an eight-bit counter. -/
def shortMemCpy (src dst : List UInt8) (dstOffset size : ℕ) : List UInt8 :=
  longMemCpy src dst dstOffset size

/-- Compare `size` bytes: zero, or the first difference as the eight-bit number it is cast to. -/
def shortMemCmp : List UInt8 → List UInt8 → ℕ → Int8
  | b1 :: m1, b2 :: m2, size + 1 =>
    let tmp := (b1 - b2).toInt8
    if tmp ≠ 0 then tmp else shortMemCmp m1 m2 size
  | _, _, _ => 0

theorem set_eq_splice (xs : List UInt8) (o : ℕ) (b : UInt8) : xs.set o b = splice xs o [b] := by
  rw [eq_splice_iff (by simp)]
  intro i hi
  rw [List.getElem?_set]
  by_cases h : o = i
  · subst h
    simp [hi]
  · rw [if_neg h, if_neg (by simp only [List.length_singleton]; omega)]

/-- A byte written right behind a splice. -/
theorem set_splice_behind (xs ys : List UInt8) {o p : ℕ} (b : UInt8) (hp : p = o + ys.length) :
    (splice xs o ys).set p b = splice xs o (ys ++ [b]) := by
  rw [set_eq_splice, hp, splice_splice_adjacent]

/-- A byte written right before a splice. -/
theorem set_splice_before (xs ys : List UInt8) (o : ℕ) (b : UInt8) :
    (splice xs (o + 1) ys).set o b = splice xs o (b :: ys) := by
  rw [set_eq_splice]
  exact splice_splice_before xs o [b] ys

theorem longMemCpy_eq_splice (src dst : List UInt8) (dstOffset size : ℕ) :
    longMemCpy src dst dstOffset size = splice dst dstOffset (src.take size) := by
  induction src generalizing dst dstOffset size with
  | nil => cases size <;> simp [longMemCpy]
  | cons b src ih =>
    cases size with
    | zero => simp [longMemCpy]
    | succ size =>
      rw [longMemCpy, ih, set_eq_splice, List.take_succ_cons]
      exact splice_splice_adjacent dst dstOffset [b] (src.take size)

theorem shortMemCpy_eq_splice (src dst : List UInt8) (dstOffset size : ℕ) :
    shortMemCpy src dst dstOffset size = splice dst dstOffset (src.take size) :=
  longMemCpy_eq_splice src dst dstOffset size

theorem toInt8_sub_eq_zero_iff (b1 b2 : UInt8) : (b1 - b2).toInt8 = 0 ↔ b1 = b2 := by
  constructor
  · intro h
    have h' : (b1 - b2).toInt8.toUInt8 = 0 := by rw [h]; rfl
    rw [UInt8.toUInt8_toInt8] at h'
    exact sub_eq_zero.mp h'
  · rintro rfl
    rw [sub_self]
    rfl

/-- A comparison within both memories is zero exactly when the bytes are the same. -/
theorem shortMemCmp_eq_zero_iff {m1 m2 : List UInt8} {size : ℕ} (h1 : size ≤ m1.length)
    (h2 : size ≤ m2.length) : shortMemCmp m1 m2 size = 0 ↔ m1.take size = m2.take size := by
  induction size generalizing m1 m2 with
  | zero => simp [shortMemCmp]
  | succ size ih =>
    match m1, m2, h1, h2 with
    | b1 :: m1, b2 :: m2, h1, h2 =>
      simp only [List.length_cons] at h1 h2
      simp only [shortMemCmp, List.take_succ_cons, List.cons.injEq]
      by_cases hb : b1 = b2
      · rw [if_neg (by simpa using (toInt8_sub_eq_zero_iff b1 b2).mpr hb),
          ih (by omega) (by omega)]
        simp [hb]
      · have hne : (b1 - b2).toInt8 ≠ 0 := fun h => hb ((toInt8_sub_eq_zero_iff b1 b2).mp h)
        rw [if_pos hne]
        exact iff_of_false hne fun h => hb h.1

/-! ## Network byte order -/

/-- A 16-bit number from two bytes in the network byte order. -/
def networkWord (hi lo : UInt8) : UInt16 := (hi.toUInt16 <<< 8) ||| lo.toUInt16

/-- The two bytes of a 16-bit number in the network byte order. -/
def networkBytes (w : UInt16) : List UInt8 := [(w >>> 8).toUInt8, w.toUInt8]

@[simp] theorem length_networkBytes (w : UInt16) : (networkBytes w).length = 2 := rfl

theorem toNat_networkWord (hi lo : UInt8) :
    (networkWord hi lo).toNat = 256 * hi.toNat + lo.toNat := by
  have h := hi.toNat_lt
  have h' := lo.toNat_lt
  have hshift : (hi.toUInt16 <<< 8).toNat = hi.toNat * 256 := by
    rw [UInt16.toNat_shiftLeft, UInt8.toNat_toUInt16, show UInt16.toNat 8 % 16 = 8 from rfl,
      Nat.shiftLeft_eq]
    omega
  have hor := Nat.shiftLeft_add_eq_or_of_lt (i := 8) h' hi.toNat
  rw [Nat.shiftLeft_eq, show (2 : ℕ) ^ 8 = 256 from rfl] at hor
  rw [networkWord, UInt16.toNat_or, hshift, UInt8.toNat_toUInt16]
  omega

theorem toNat_networkBytes (w : UInt16) :
    (w >>> 8).toUInt8.toNat = w.toNat / 256 ∧ w.toUInt8.toNat = w.toNat % 256 := by
  have h := w.toNat_lt
  refine ⟨?_, UInt16.toNat_toUInt8 w⟩
  rw [UInt16.toNat_toUInt8, UInt16.toNat_shiftRight, show UInt16.toNat 8 % 16 = 8 from rfl,
    Nat.shiftRight_eq_div_pow]
  omega

@[simp] theorem networkWord_networkBytes (w : UInt16) :
    networkWord (w >>> 8).toUInt8 w.toUInt8 = w := by
  obtain ⟨hhi, hlo⟩ := toNat_networkBytes w
  apply UInt16.toNat_inj.mp
  rw [toNat_networkWord, hhi, hlo]
  omega

end Whip6
