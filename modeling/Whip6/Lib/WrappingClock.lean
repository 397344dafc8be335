import Mathlib

/-!
# Clocks that wrap

A clock of `w` bits shows the time modulo `2 ^ w`.  A moment that it showed is taken for the last one
that it may be; how long ago that was is the difference of what it showed.  A clock of which the low
bits are dropped, with the rounds of the first one counted, is again a clock.
-/

namespace Whip6.Lib

variable {w : ℕ}

/-- What a clock of `w` bits shows at a time. -/
def shown (w : ℕ) (time : ℤ) : BitVec w := BitVec.ofInt w time

theorem shown_add (a b : ℤ) : shown w (a + b) = shown w a + shown w b := BitVec.ofInt_add a b

theorem shown_natCast (n : ℕ) : shown w n = BitVec.ofNat w n := BitVec.ofInt_natCast w n

theorem shown_toNat (x : BitVec w) : shown w x.toNat = x := by
  rw [shown_natCast, BitVec.ofNat_toNat, BitVec.setWidth_eq]

theorem shown_sub (a b : ℤ) : shown w (a - b) = shown w a - shown w b := by
  apply eq_sub_of_add_eq
  rw [← shown_add, sub_add_cancel]

theorem toNat_shown (time : ℤ) : ((shown w time).toNat : ℤ) = time % 2 ^ w := by
  rw [shown, BitVec.toNat_ofInt, Int.toNat_of_nonneg (Int.emod_nonneg _ (by positivity))]
  norm_cast

/-- A moment that is past seems to be past by no more than it is. -/
theorem elapsed_le {t0 now : ℤ} (h : t0 ≤ now) :
    ((shown w now - shown w t0).toNat : ℤ) ≤ now - t0 := by
  rw [← shown_sub, toNat_shown, Int.emod_def, sub_le_self_iff]
  exact mul_nonneg (by positivity) (Int.ediv_nonneg (by omega) (by positivity))

/-- Within one round of the clock it is past by just what it seems. -/
theorem elapsed_eq {t0 now : ℤ} (h : t0 ≤ now) (hlt : now < t0 + 2 ^ w) :
    ((shown w now - shown w t0).toNat : ℤ) = now - t0 := by
  rw [← shown_sub, toNat_shown]
  exact Int.emod_eq_of_lt (by omega) (by omega)

/-- The last time up to `now` at which the clock showed `t0`. -/
def lastShown (now : ℤ) (t0 : BitVec w) : ℤ := now - (shown w now - t0).toNat

theorem lastShown_le (now : ℤ) (t0 : BitVec w) : lastShown now t0 ≤ now := by
  unfold lastShown
  omega

theorem shown_lastShown (now : ℤ) (t0 : BitVec w) : shown w (lastShown now t0) = t0 := by
  rw [lastShown, shown_sub, shown_toNat, sub_sub_cancel]

/-- Whether an interval is over, told by comparing its end with the present moment. -/
theorem expired_iff (t0 dt now : BitVec w) :
    (if t0 ≤ now then t0 ≤ t0 + dt ∧ t0 + dt ≤ now else t0 ≤ t0 + dt ∨ t0 + dt ≤ now) ↔
      dt ≤ now - t0 := by
  have ht := t0.isLt
  have hd := dt.isLt
  have hn := now.isLt
  simp only [BitVec.le_def, BitVec.toNat_add, BitVec.toNat_sub]
  generalize t0.toNat = t at *
  generalize dt.toNat = d at *
  generalize now.toNat = n at *
  generalize 2 ^ w = N at *
  have hsum : (t + d) % N = if t + d < N then t + d else t + d - N := by
    split_ifs with h
    · exact Nat.mod_eq_of_lt h
    · rw [Nat.mod_eq_sub_mod (not_lt.mp h), Nat.mod_eq_of_lt (by omega)]
  have hdiff : (N - t + n) % N = if t ≤ n then n - t else N - t + n := by
    split_ifs with h
    · rw [Nat.mod_eq_sub_mod (by omega), Nat.mod_eq_of_lt (by omega)]
      omega
    · exact Nat.mod_eq_of_lt (by omega)
  rw [hsum, hdiff]
  split_ifs <;> omega

/-- What a clock shows without its low bits, and its rounds before. -/
theorem div_add_rounds (clock : ℕ) {w shift : ℕ} (h : shift ≤ w) :
    clock % 2 ^ w / 2 ^ shift + clock / 2 ^ w * 2 ^ (w - shift) = clock / 2 ^ shift := by
  have hpow : 2 ^ w = 2 ^ shift * 2 ^ (w - shift) := by
    rw [← pow_add, Nat.add_sub_cancel' h]
  rw [hpow, Nat.mod_mul_right_div_self, ← Nat.div_div_eq_div_mul]
  exact Nat.mod_add_div' _ _

end Whip6.Lib
