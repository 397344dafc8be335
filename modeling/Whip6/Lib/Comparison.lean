import Mathlib

/-!
# Signs of comparisons

A comparison function in the manner of `memcmp` returns a number whose sign tells how its
arguments are ordered (`IsSignOf`).  Lists are ordered lexicographically: what two lists begin
with in common does not matter (`isSignOf_append_left`), and the first items that differ decide
(`isSignOf_cons_of_ne`), unless one of the lists ends before.
-/

namespace Whip6.Lib

/-- The sign of `r` says how `a` and `b` are ordered. -/
structure IsSignOf {β : Type*} [LT β] (r : ℤ) (a b : β) : Prop where
  zero_iff : r = 0 ↔ a = b
  neg_iff : r < 0 ↔ a < b
  pos_iff : 0 < r ↔ b < a

variable {α : Type*} [LT α] {r : ℤ} {x y : α} {a b : List α}

theorem isSignOf_nil_nil : IsSignOf r ([] : List α) [] ↔ r = 0 := by
  constructor
  · intro h
    exact h.zero_iff.mpr rfl
  · rintro rfl
    exact ⟨by simp, by simp, by simp⟩

theorem isSignOf_nil_cons : IsSignOf r [] (y :: b) ↔ r < 0 := by
  constructor
  · intro h
    exact h.neg_iff.mpr (List.nil_lt_cons y b)
  · intro h
    exact ⟨iff_of_false h.ne (by simp), iff_of_true h (List.nil_lt_cons y b),
      iff_of_false h.not_gt (List.not_lt_nil _)⟩

theorem isSignOf_cons_nil : IsSignOf r (x :: a) [] ↔ 0 < r := by
  constructor
  · intro h
    exact h.pos_iff.mpr (List.nil_lt_cons x a)
  · intro h
    exact ⟨iff_of_false h.ne' (by simp), iff_of_false h.not_gt (List.not_lt_nil _),
      iff_of_true h (List.nil_lt_cons x a)⟩

theorem isSignOf_cons_self [Std.Irrefl fun x y : α => x < y] :
    IsSignOf r (x :: a) (x :: b) ↔ IsSignOf r a b := by
  constructor
  · rintro ⟨hz, hn, hp⟩
    rw [List.cons_lt_cons_self] at hn hp
    exact ⟨by simpa using hz, hn, hp⟩
  · rintro ⟨hz, hn, hp⟩
    refine ⟨by simpa using hz, ?_, ?_⟩
    · rwa [List.cons_lt_cons_self]
    · rwa [List.cons_lt_cons_self]

/-- What both lists begin with does not matter. -/
theorem isSignOf_append_left [Std.Irrefl fun x y : α => x < y] (c : List α) :
    IsSignOf r (c ++ a) (c ++ b) ↔ IsSignOf r a b := by
  induction c with
  | nil => rfl
  | cons x c ih => rw [List.cons_append, List.cons_append, isSignOf_cons_self, ih]

/-- The first items decide when they differ. -/
theorem isSignOf_cons_of_ne (h : x ≠ y) : IsSignOf r (x :: a) (y :: b) ↔ IsSignOf r x y := by
  have hlt : x :: a < y :: b ↔ x < y := by
    rw [List.cons_lt_cons_iff]
    simp [h]
  have hgt : y :: b < x :: a ↔ y < x := by
    rw [List.cons_lt_cons_iff]
    simp [h.symm]
  have heq : x :: a = y :: b ↔ x = y := by
    simp [h]
  constructor
  · rintro ⟨hz, hn, hp⟩
    exact ⟨hz.trans heq, hn.trans hlt, hp.trans hgt⟩
  · rintro ⟨hz, hn, hp⟩
    exact ⟨hz.trans heq.symm, hn.trans hlt.symm, hp.trans hgt.symm⟩

end Whip6.Lib
