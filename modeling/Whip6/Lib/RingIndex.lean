import Mathlib

/-!
# Rings of cells

A ring is an array whose last cell is followed by its first one.  A list that is held by it starts at
one cell and ends before another; it grows behind and shrinks in front.
-/

namespace Whip6.Lib

/-- The cell that is `i` cells behind cell `first` of a ring. -/
def ringCell (cap first i : ℕ) : ℕ := if first + i < cap then first + i else first + i - cap

variable {cap first last i j : ℕ}

theorem ringCell_lt (hfirst : first < cap) (hi : i ≤ cap) : ringCell cap first i < cap := by
  rw [ringCell]
  split_ifs <;> omega

theorem ringCell_inj (hi : i < cap) (hj : j < cap) :
    ringCell cap first i = ringCell cap first j ↔ i = j := by
  simp only [ringCell]
  split_ifs <;> omega

theorem ringCell_zero (hfirst : first < cap) : ringCell cap first 0 = first := if_pos hfirst

theorem mod_eq_ringCell (hfirst : first < cap) (hi : i ≤ cap) :
    (first + i) % cap = ringCell cap first i := by
  rw [ringCell]
  split_ifs with h
  · exact Nat.mod_eq_of_lt h
  · rw [Nat.mod_eq_sub_mod (Nat.not_lt.mp h), Nat.mod_eq_of_lt (by omega)]

/-- The index behind a cell, with a comparison instead of the remainder. -/
theorem ringCell_succ (hfirst : first < cap) (hi : i < cap) :
    (if ringCell cap first i + 1 ≥ cap then 0 else ringCell cap first i + 1) =
      ringCell cap first (i + 1) := by
  simp only [ringCell]
  split_ifs <;> omega

theorem ringCell_advance (hfirst : first < cap) (hi : i < cap) :
    ringCell cap (ringCell cap first 1) i = ringCell cap first (i + 1) := by
  simp only [ringCell]
  split_ifs <;> omega

/-- The cells of a ring hold a list, from the first cell on and up to the last. -/
structure RingHolds {α : Type*} (cap : ℕ) (cell : ℕ → α) (first last : ℕ) (l : List α) : Prop where
  first_lt : first < cap
  length_le : l.length ≤ cap
  last_eq : last = ringCell cap first l.length
  cells : ∀ i (hi : i < l.length), cell (ringCell cap first i) = l[i]

namespace RingHolds

variable {α : Type*} {cell : ℕ → α} {l : List α}

theorem nil (cell : ℕ → α) (h : first < cap) : RingHolds cap cell first first [] :=
  ⟨h, Nat.zero_le _, (ringCell_zero h).symm, fun i hi => absurd hi (Nat.not_lt_zero i)⟩

theorem last_lt (h : RingHolds cap cell first last l) : last < cap := by
  rw [h.last_eq]
  exact ringCell_lt h.first_lt h.length_le

/-- The first and the last cell are the same for an empty and for a full ring. -/
theorem first_eq_last_iff (h : RingHolds cap cell first last l) :
    last = first ↔ l = [] ∨ l.length = cap := by
  have hfirst := h.first_lt
  have hle := h.length_le
  rw [h.last_eq, ringCell, ← List.length_eq_zero_iff]
  split_ifs <;> omega

theorem push (h : RingHolds cap cell first last l) (hlt : l.length < cap) (x : α) :
    RingHolds cap (Function.update cell last x) first (ringCell cap last 1) (l ++ [x]) where
  first_lt := h.first_lt
  length_le := by
    rw [List.length_append, List.length_singleton]
    exact hlt
  last_eq := by
    have hfirst := h.first_lt
    rw [h.last_eq, List.length_append, List.length_singleton]
    simp only [ringCell]
    split_ifs <;> omega
  cells := by
    intro i hi
    rw [List.length_append, List.length_singleton] at hi
    rw [h.last_eq]
    by_cases hi' : i < l.length
    · have hne : ringCell cap first i ≠ ringCell cap first l.length :=
        fun heq => Nat.ne_of_lt hi' ((ringCell_inj (by omega) hlt).mp heq)
      rw [Function.update_of_ne hne, List.getElem_append_left hi']
      exact h.cells i hi'
    · obtain rfl : i = l.length := by omega
      rw [Function.update_self, List.getElem_concat_length rfl]

theorem pop {x : α} (h : RingHolds cap cell first last (x :: l)) :
    cell first = x ∧ RingHolds cap cell (ringCell cap first 1) last l := by
  have hfirst := h.first_lt
  have hle := h.length_le
  rw [List.length_cons] at hle
  refine ⟨?_, ringCell_lt hfirst (by omega), by omega, ?_, fun i hi => ?_⟩
  · have hcell := h.cells 0 (Nat.succ_pos _)
    rwa [ringCell_zero hfirst] at hcell
  · rw [h.last_eq, List.length_cons, ringCell_advance hfirst (by omega)]
  · rw [ringCell_advance hfirst (by omega)]
    exact h.cells (i + 1) (Nat.succ_lt_succ hi)

end RingHolds

end Whip6.Lib
