import Mathlib

/-!
# Round robin

Indices below `n` in a circle: how far one is ahead of another, the order in which they are visited
from one on, and the index that such a visit finds first, which is the least far ahead.
-/

namespace Whip6.Lib

/-- The index after `i`. -/
def nextIdx (n i : ℕ) : ℕ := if i + 1 ≥ n then 0 else i + 1

/-- How far `i` is ahead of `a`. -/
def ahead (n a i : ℕ) : ℕ := if a ≤ i then i - a else i + n - a

/-- All indices, from `a` on. -/
def circle (n a : ℕ) : List ℕ := List.range' a (n - a) ++ List.range a

variable {n a c i j : ℕ} {p : ℕ → Bool}

theorem nextIdx_lt (hi : i < n) : nextIdx n i < n := by
  rw [nextIdx]
  split_ifs <;> omega

theorem ahead_lt (ha : a < n) (hi : i < n) : ahead n a i < n := by
  rw [ahead]
  split_ifs <;> omega

theorem eq_of_ahead_eq (ha : a < n) (hi : i < n) (hj : j < n) (h : ahead n a i = ahead n a j) :
    i = j := by
  rw [ahead, ahead] at h
  split_ifs at h <;> omega

/-- Behind the next index, what was ahead is one less ahead. -/
theorem ahead_nextIdx (ha : a < n) (hi : i < n) (hc : c < n) (h : ahead n a i < ahead n a c) :
    ahead n (nextIdx n i) c + ahead n a i + 1 = ahead n a c := by
  rw [ahead, ahead] at h
  rw [ahead, ahead, ahead, nextIdx]
  split_ifs at h ⊢ <;> omega

/-- An index is the last one from behind it on. -/
theorem ahead_nextIdx_self (hi : i < n) : ahead n (nextIdx n i) i = n - 1 := by
  rw [ahead, nextIdx]
  split_ifs <;> omega

/-- When another index had its turn, the turn of one is nearer. -/
theorem ahead_nextIdx_other (ha : a < n) (hi : i < n) (hj : j < n)
    (h : ahead n a j ≤ ahead n a i) (hne : j ≠ i) : ahead n (nextIdx n j) i + 1 ≤ ahead n a i := by
  have hlt : ahead n a j < ahead n a i :=
    lt_of_le_of_ne h fun heq => hne (eq_of_ahead_eq ha hj hi heq)
  have hnext := ahead_nextIdx ha hj hi hlt
  omega

/-- When an index had its turn, it needs a turn less. -/
theorem ahead_nextIdx_turn (hi : i < n) {k k' : ℕ} (h : k' + 1 ≤ k) :
    k' * n + ahead n (nextIdx n i) i + 1 ≤ k * n + ahead n a i := by
  have hmul := Nat.mul_le_mul_right n h
  rw [Nat.add_mul, Nat.one_mul] at hmul
  rw [ahead_nextIdx_self hi]
  omega

theorem mem_circle (ha : a < n) : i ∈ circle n a ↔ i < n := by
  rw [circle, List.mem_append, List.mem_range'_1, List.mem_range]
  omega

/-- A visit finds the index that is the least far ahead. -/
theorem find?_circle_some (ha : a < n) (h : (circle n a).find? p = some i) :
    p i = true ∧ i < n ∧ ∀ j < n, p j = true → ahead n a i ≤ ahead n a j := by
  have hi : i < n := (mem_circle ha).mp (List.mem_of_find?_eq_some h)
  refine ⟨List.find?_some h, hi, fun j hj hpj => ?_⟩
  rw [circle, List.find?_append] at h
  rcases hfirst : (List.range' a (n - a)).find? p with _ | k
  · rw [hfirst, Option.none_or, List.find?_range_eq_some] at h
    rw [List.find?_range'_eq_none] at hfirst
    obtain ⟨-, hmem, hbefore⟩ := h
    have hia := List.mem_range.mp hmem
    have hja : ¬ a ≤ j := by
      intro hle
      have hnot := hfirst j hle (by omega)
      rw [hpj] at hnot
      cases hnot
    have hij : i ≤ j := by
      by_contra hlt
      have hnot := hbefore j (not_le.mp hlt)
      rw [hpj] at hnot
      cases hnot
    rw [ahead, ahead, if_neg (by omega), if_neg hja]
    omega
  · rw [hfirst, Option.some_or] at h
    obtain rfl := Option.some.inj h
    obtain ⟨-, hmem, hbefore⟩ := List.find?_range'_eq_some.mp hfirst
    have hak := (List.mem_range'_1.mp hmem).1
    rw [ahead, ahead, if_pos hak]
    split_ifs with hle
    · have hkj : k ≤ j := by
        by_contra hlt
        have hnot := hbefore j hle (not_le.mp hlt)
        rw [hpj] at hnot
        cases hnot
      omega
    · omega

theorem find?_circle_none (ha : a < n) (h : (circle n a).find? p = none) :
    ∀ j < n, p j = false := by
  intro j hj
  simpa using List.find?_eq_none.mp h j ((mem_circle ha).mpr hj)

end Whip6.Lib
