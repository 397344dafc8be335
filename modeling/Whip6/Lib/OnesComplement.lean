import Mathlib

/-!
# One's complement sums

Numbers up to `m` are added with the carry brought around to the low end (`onesAdd`), which is
addition modulo `m` with two zeroes: `0`, the sum of zeroes alone, and `m`.  The representative
`onesRep m n` of a number says what a one's complement sum comes to when all carries are brought
around at the end, or any other time.  The Internet checksum is the complement of such a sum of
the 16-bit words of a string.
-/

namespace Whip6.Lib

/-- Addition with end-around carry of numbers up to `m`. -/
def onesAdd (m a b : ℕ) : ℕ := if a + b ≤ m then a + b else a + b - m

/-- The number up to `m` that stands for `n`: zero stands for itself alone. -/
def onesRep (m n : ℕ) : ℕ := if n = 0 then 0 else (n - 1) % m + 1

theorem onesRep_of_le {m n : ℕ} (h : n ≤ m) : onesRep m n = n := by
  by_cases h0 : n = 0
  · rw [onesRep, if_pos h0, h0]
  · rw [onesRep, if_neg h0, Nat.mod_eq_of_lt (by omega)]
    omega

theorem onesRep_le {m : ℕ} (hm : 0 < m) (n : ℕ) : onesRep m n ≤ m := by
  by_cases h0 : n = 0
  · rw [onesRep, if_pos h0]
    exact Nat.zero_le m
  · rw [onesRep, if_neg h0]
    exact Nat.mod_lt _ hm

/-- Subtracting `m` from a larger number does not change what stands for it. -/
theorem onesRep_add_self (m : ℕ) {n : ℕ} (h : 0 < n) : onesRep m (n + m) = onesRep m n := by
  rw [onesRep, onesRep, if_neg (by omega), if_neg (by omega), show n + m - 1 = n - 1 + m by omega,
    Nat.add_mod_right]

theorem onesRep_add_mul (m k : ℕ) {n : ℕ} (h : 0 < n) : onesRep m (n + m * k) = onesRep m n := by
  induction k with
  | zero => rfl
  | succ k ih => rw [Nat.mul_succ, ← Nat.add_assoc, onesRep_add_self m (by omega), ih]

theorem onesAdd_onesRep {m b : ℕ} (hm : 0 < m) (a : ℕ) (hb : b ≤ m) :
    onesAdd m (onesRep m a) b = onesRep m (a + b) := by
  by_cases h0 : a = 0
  · subst h0
    rw [Nat.zero_add, onesRep_of_le hb, onesRep_of_le (Nat.zero_le m), onesAdd, Nat.zero_add,
      if_pos hb]
  · have ha : a = onesRep m a + m * ((a - 1) / m) := by
      rw [onesRep, if_neg h0]
      have := Nat.mod_add_div (a - 1) m
      omega
    have hpos : 0 < onesRep m a := by
      rw [onesRep, if_neg h0]
      omega
    have hle : onesRep m a ≤ m := onesRep_le hm a
    conv_rhs => rw [ha, Nat.add_right_comm, onesRep_add_mul m _ (by omega)]
    by_cases hc : onesRep m a + b ≤ m
    · rw [onesAdd, if_pos hc, onesRep_of_le hc]
    · have hs : onesRep m a + b = onesRep m a + b - m + m := by omega
      rw [onesAdd, if_neg hc]
      conv_rhs => rw [hs, onesRep_add_self m (by omega), onesRep_of_le (by omega)]

/-- The one's complement sum of a list of words is what stands for their plain sum. -/
theorem foldl_onesAdd {m : ℕ} (hm : 0 < m) (ws : List ℕ) (h : ∀ w ∈ ws, w ≤ m) (a : ℕ) :
    ws.foldl (onesAdd m) (onesRep m a) = onesRep m (a + ws.sum) := by
  induction ws generalizing a with
  | nil => simp
  | cons w ws ih =>
    rw [List.foldl_cons, onesAdd_onesRep hm a (h w List.mem_cons_self),
      ih (fun w' hw' => h w' (List.mem_cons_of_mem w hw')), List.sum_cons, Nat.add_assoc]

/-- One step of folding a number: its high digit to base `m + 1` is added to its low one. -/
theorem onesRep_fold (m n : ℕ) : onesRep m (n % (m + 1) + n / (m + 1)) = onesRep m n := by
  have hn := Nat.mod_add_div n (m + 1)
  generalize n % (m + 1) = r at hn ⊢
  generalize n / (m + 1) = q at hn ⊢
  have hsplit : n = r + q + m * q := by
    rw [← hn, Nat.succ_mul]
    omega
  by_cases h0 : r + q = 0
  · have hq : q = 0 := by omega
    rw [hsplit, hq, Nat.mul_zero, Nat.add_zero]
  · rw [hsplit, onesRep_add_mul m q (by omega)]

/-! ## The words of a string -/

/-- The 16-bit words of a string, high byte first; a last single byte is padded with zero. -/
def words : List UInt8 → List ℕ
  | [] => []
  | [b] => [256 * b.toNat]
  | b1 :: b2 :: rest => (256 * b1.toNat + b2.toNat) :: words rest

theorem words_append {xs : List UInt8} (ys : List UInt8) (h : xs.length % 2 = 0) :
    words (xs ++ ys) = words xs ++ words ys := by
  induction xs using words.induct with
  | case1 => rfl
  | case2 b => simp at h
  | case3 b1 b2 rest ih =>
    rw [List.length_cons, List.length_cons] at h
    simp only [List.cons_append, words, ih (by omega)]

theorem words_le (xs : List UInt8) : ∀ w ∈ words xs, w ≤ 65535 := by
  induction xs using words.induct with
  | case1 => simp [words]
  | case2 b =>
    have := b.toNat_lt
    simp only [words, List.mem_singleton, forall_eq]
    omega
  | case3 b1 b2 rest ih =>
    have := b1.toNat_lt
    have := b2.toNat_lt
    simp only [words, List.forall_mem_cons]
    exact ⟨by omega, ih⟩

theorem length_words (xs : List UInt8) : (words xs).length = (xs.length + 1) / 2 := by
  induction xs using words.induct with
  | case1 => rfl
  | case2 b => simp [words]
  | case3 b1 b2 rest ih =>
    simp only [words, List.length_cons, ih]
    omega

theorem sum_words_le (xs : List UInt8) : (words xs).sum ≤ (xs.length + 1) / 2 * 65535 := by
  have h := List.sum_le_card_nsmul (words xs) 65535 (words_le xs)
  rwa [length_words, smul_eq_mul] at h

/-- The Internet checksum of a string. -/
def internetChecksum (xs : List UInt8) : ℕ := 65535 - (words xs).foldl (onesAdd 65535) 0

theorem internetChecksum_eq (xs : List UInt8) :
    internetChecksum xs = 65535 - onesRep 65535 (words xs).sum := by
  have h := foldl_onesAdd (m := 65535) (by omega) (words xs) (words_le xs) 0
  rw [internetChecksum]
  rw [onesRep_of_le (Nat.zero_le _), Nat.zero_add] at h
  rw [h]

/-- Adding the complement of what stands for a number. -/
theorem onesRep_add_complement {m n : ℕ} (hm : 0 < m) (hn : 0 < n) :
    onesRep m (n + (m - onesRep m n)) = m := by
  have hle := onesRep_le hm n
  have hrep : onesRep m n = (n - 1) % m + 1 := if_neg (by omega)
  have hdiv := Nat.mod_add_div (n - 1) m
  have hsum : n + (m - onesRep m n) = m + m * ((n - 1) / m) := by omega
  rw [hsum, onesRep_add_mul m _ hm, onesRep_of_le (Nat.le_refl m)]

/-- A string with its own checksum put where a zero word was has the checksum zero.  A checksum
of zero is put in as its other form. -/
theorem internetChecksum_patch {xs : List UInt8} (ys : List UInt8) {hi lo : UInt8}
    (heven : xs.length % 2 = 0)
    (hpos : 0 < (words (xs ++ 0 :: 0 :: ys)).sum)
    (hcs : 256 * hi.toNat + lo.toNat =
      if internetChecksum (xs ++ 0 :: 0 :: ys) = 0 then 65535
      else internetChecksum (xs ++ 0 :: 0 :: ys)) :
    internetChecksum (xs ++ hi :: lo :: ys) = 0 := by
  have hsum : (words (xs ++ hi :: lo :: ys)).sum =
      (words (xs ++ 0 :: 0 :: ys)).sum + (256 * hi.toNat + lo.toNat) := by
    simp only [words_append _ heven, words, List.sum_append, List.sum_cons, UInt8.toNat_zero]
    omega
  have hcomp := onesRep_add_complement (m := 65535) (by omega) hpos
  have hle := onesRep_le (m := 65535) (by omega) (words (xs ++ 0 :: 0 :: ys)).sum
  rw [internetChecksum_eq] at hcs ⊢
  rw [hsum, hcs]
  by_cases h0 : 65535 - onesRep 65535 (words (xs ++ 0 :: 0 :: ys)).sum = 0
  · rw [if_pos h0, onesRep_add_self 65535 hpos, h0]
  · rw [if_neg h0, hcomp]

end Whip6.Lib
