import Mathlib

/-!
# Overwriting part of a list

`splice xs o ys` is the list `xs` after writing `ys` over it from position `o` on.  The list
keeps its length: what of `ys` would stick out at the end is lost.  The lemmas say what a splice
does to a concatenation (`splice_append_of_le`, `splice_append_of_ge`), how two adjacent splices
combine (`splice_splice_adjacent`) and what is read back from a spliced list
(`getElem?_splice`, `take_drop_splice`).
-/

namespace Whip6.Lib

variable {α : Type*}

/-- `xs` with `ys` written over it from position `o` on, as far as `xs` reaches. -/
def splice (xs : List α) (o : ℕ) (ys : List α) : List α :=
  xs.take o ++ ys.take (xs.length - o) ++ xs.drop (o + ys.length)

@[simp] theorem length_splice (xs : List α) (o : ℕ) (ys : List α) :
    (splice xs o ys).length = xs.length := by
  simp only [splice, List.length_append, List.length_take, List.length_drop]
  omega

@[simp] theorem splice_nil (xs : List α) (o : ℕ) : splice xs o [] = xs := by
  simp [splice]

@[simp] theorem nil_splice (o : ℕ) (ys : List α) : splice [] o ys = [] := by
  simp [splice]

theorem getElem?_splice (xs : List α) (o : ℕ) (ys : List α) (i : ℕ) :
    (splice xs o ys)[i]? =
      if o ≤ i ∧ i < o + ys.length ∧ i < xs.length then ys[i - o]? else xs[i]? := by
  rcases Nat.lt_or_ge i xs.length with hi | hi
  · rcases Nat.lt_or_ge i o with hio | hio
    · rw [if_neg (by omega), splice, List.append_assoc,
        List.getElem?_append_left (by simp only [List.length_take]; omega),
        List.getElem?_take_of_lt hio]
    · rcases Nat.lt_or_ge i (o + ys.length) with hiy | hiy
      · rw [if_pos ⟨hio, hiy, hi⟩, splice,
          List.getElem?_append_left (by
            simp only [List.length_append, List.length_take]; omega),
          List.getElem?_append_right (by simp only [List.length_take]; omega),
          List.getElem?_take_of_lt (by simp only [List.length_take]; omega)]
        congr 1
        simp only [List.length_take]
        omega
      · rw [if_neg (by omega), splice,
          List.getElem?_append_right (by
            simp only [List.length_append, List.length_take]; omega),
          List.getElem?_drop]
        congr 1
        simp only [List.length_append, List.length_take]
        omega
  · rw [if_neg (by omega), List.getElem?_eq_none (by simpa using hi), List.getElem?_eq_none hi]

/-- Two lists of one length that agree wherever the splice of one does are that splice. -/
theorem eq_splice_iff {xs ys zs : List α} {o : ℕ} (hlen : zs.length = xs.length) :
    zs = splice xs o ys ↔ ∀ i < xs.length,
      zs[i]? = if o ≤ i ∧ i < o + ys.length then ys[i - o]? else xs[i]? := by
  constructor
  · rintro rfl i hi
    simp only [getElem?_splice, hi, and_true]
  · intro h
    refine List.ext_getElem? fun i => ?_
    rcases Nat.lt_or_ge i xs.length with hi | hi
    · simp only [h i hi, getElem?_splice, hi, and_true]
    · rw [List.getElem?_eq_none (hlen ▸ hi), List.getElem?_eq_none (by simpa using hi)]

/-- What a splice puts into the list is what is read back there. -/
theorem take_drop_splice (xs : List α) (o : ℕ) (ys : List α) :
    ((splice xs o ys).drop o).take ys.length = ys.take (xs.length - o) := by
  refine List.ext_getElem? fun i => ?_
  simp only [List.getElem?_take, List.getElem?_drop, getElem?_splice]
  rcases Nat.lt_or_ge (o + i) xs.length with h | h
  · split_ifs <;> first | omega | simp_all
  · have hx : xs[o + i]? = none := List.getElem?_eq_none h
    split_ifs <;> first | omega | simp_all

/-- A splice that starts behind the first part of a concatenation leaves that part alone. -/
theorem splice_append_of_le {xs : List α} {o : ℕ} (zs ys : List α) (h : xs.length ≤ o) :
    splice (xs ++ zs) o ys = xs ++ splice zs (o - xs.length) ys := by
  simp only [splice, List.take_append, List.drop_append, List.take_of_length_le h,
    List.drop_eq_nil_of_le (show xs.length ≤ o + ys.length by omega), List.length_append,
    List.nil_append, List.append_assoc]
  congr 3
  · congr 1
    omega
  · congr 1
    omega

/-- A splice that starts inside the first part of a concatenation writes what does not fit
there to the start of the second part. -/
theorem splice_append_of_ge {xs : List α} {o : ℕ} (zs ys : List α) (h : o ≤ xs.length) :
    splice (xs ++ zs) o ys = splice xs o ys ++ splice zs 0 (ys.drop (xs.length - o)) := by
  symm
  rw [eq_splice_iff (by simp)]
  intro i hi
  rw [List.length_append] at hi
  rcases Nat.lt_or_ge i xs.length with hx | hx
  · rw [List.getElem?_append_left (by simpa using hx), List.getElem?_append_left hx,
      getElem?_splice]
    simp only [hx, and_true]
  · rw [List.getElem?_append_right (by simpa using hx), List.getElem?_append_right hx,
      getElem?_splice, length_splice, List.getElem?_drop, List.length_drop]
    have e : xs.length - o + (i - xs.length - 0) = i - o := by omega
    simp only [e, Nat.zero_le, true_and]
    split_ifs <;> first | omega | rfl

/-- Splicing one list right behind another is splicing their concatenation. -/
theorem splice_splice_adjacent (xs : List α) (o : ℕ) (ys zs : List α) :
    splice (splice xs o ys) (o + ys.length) zs = splice xs o (ys ++ zs) := by
  rw [eq_splice_iff (by simp)]
  intro i hi
  rw [getElem?_splice, getElem?_splice, length_splice, List.length_append]
  rcases Nat.lt_or_ge i (o + ys.length) with h | h
  · rw [if_neg (by omega)]
    split_ifs <;> first | omega | (rw [List.getElem?_append_left (by omega)]) | rfl
  · split_ifs <;> first
      | omega
      | (rw [List.getElem?_append_right (by omega)]; congr 1; omega)
      | rfl

/-- Splicing one list right before another is splicing their concatenation. -/
theorem splice_splice_before (xs : List α) (o : ℕ) (ys zs : List α) :
    splice (splice xs (o + ys.length) zs) o ys = splice xs o (ys ++ zs) := by
  rw [eq_splice_iff (by simp)]
  intro i hi
  rw [getElem?_splice, getElem?_splice, length_splice, List.length_append]
  rcases Nat.lt_or_ge i (o + ys.length) with hlt | hge
  · split_ifs <;> first | omega | (rw [List.getElem?_append_left (by omega)]) | rfl
  · split_ifs <;> first
      | omega
      | (rw [List.getElem?_append_right (by omega)]; congr 1; omega)
      | rfl

/-- Only the part of the spliced list that fits matters. -/
theorem splice_take (xs : List α) (o : ℕ) (ys : List α) {n : ℕ} (h : xs.length - o ≤ n) :
    splice xs o (ys.take n) = splice xs o ys := by
  rw [eq_splice_iff (by simp)]
  intro i hi
  rw [getElem?_splice, List.length_take, List.getElem?_take]
  split_ifs <;> first | omega | rfl

/-- Overwriting all of a list. -/
theorem splice_all {xs ys : List α} (h : xs.length = ys.length) : splice xs 0 ys = ys := by
  simp [splice, h]

/-- A splice works on the items at its place alone. -/
theorem splice_eq_take_append (xs ys : List α) {o n : ℕ} (ho : o ≤ xs.length) :
    splice xs o (ys.take n) = xs.take o ++ splice ((xs.drop o).take n) 0 ys ++ xs.drop (o + n) := by
  have htake : (xs.take o).length = o := by simp [ho]
  conv_lhs => rw [← List.take_append_drop o xs]
  rw [splice_append_of_le _ _ htake.le, htake, Nat.sub_self, List.append_assoc]
  congr 1
  conv_lhs => rw [← List.take_append_drop n (xs.drop o)]
  rw [splice_append_of_ge _ _ (Nat.zero_le _), List.drop_drop]
  congr 1
  · exact splice_take _ _ _ (by simp only [List.length_take]; omega)
  · rcases Nat.le_total n (xs.drop o).length with hle | hle
    · have hnil : (ys.take n).drop (((xs.drop o).take n).length - 0) = [] :=
        List.drop_eq_nil_of_le (by simp only [List.length_take]; omega)
      rw [hnil, splice_nil]
    · rw [List.drop_eq_nil_of_le (by simp only [List.length_drop] at hle; omega), nil_splice]

/-- Reading a spliced list outside the spliced part. -/
theorem getElem?_splice_of_outside {xs ys : List α} {o i : ℕ} (h : i < o ∨ o + ys.length ≤ i) :
    (splice xs o ys)[i]? = xs[i]? := by
  rw [getElem?_splice, if_neg (by omega)]

/-- Reading a spliced list inside the spliced part. -/
theorem getElem?_splice_of_inside {xs ys : List α} {o i : ℕ} (h₁ : o ≤ i)
    (h₂ : i < o + ys.length) (h₃ : i < xs.length) : (splice xs o ys)[i]? = ys[i - o]? := by
  rw [getElem?_splice, if_pos ⟨h₁, h₂, h₃⟩]

/-! ## Items that stand at a place of a list -/

/-- The items `ys` stand in `xs` from position `o` on. -/
def StandsAt (xs : List α) (o : ℕ) (ys : List α) : Prop := ∀ i < ys.length, xs[o + i]? = ys[i]?

instance [DecidableEq α] (xs : List α) (o : ℕ) (ys : List α) : Decidable (StandsAt xs o ys) :=
  inferInstanceAs (Decidable (∀ i < ys.length, xs[o + i]? = ys[i]?))

@[simp] theorem standsAt_nil (xs : List α) (o : ℕ) : StandsAt xs o [] := by
  intro i hi
  simp at hi

theorem standsAt_append {xs ys zs : List α} {o : ℕ} :
    StandsAt xs o (ys ++ zs) ↔ StandsAt xs o ys ∧ StandsAt xs (o + ys.length) zs := by
  constructor
  · intro h
    refine ⟨fun i hi => ?_, fun i hi => ?_⟩
    · rw [h i (by rw [List.length_append]; omega), List.getElem?_append_left hi]
    · rw [Nat.add_assoc, h _ (by rw [List.length_append]; omega),
        List.getElem?_append_right (Nat.le_add_right _ _), Nat.add_sub_cancel_left]
  · rintro ⟨hy, hz⟩ i hi
    rw [List.length_append] at hi
    rcases Nat.lt_or_ge i ys.length with h | h
    · rw [hy i h, List.getElem?_append_left h]
    · rw [List.getElem?_append_right h, ← hz _ (by omega)]
      congr 1
      omega

theorem standsAt_cons {xs ys : List α} {y : α} {o : ℕ} :
    StandsAt xs o (y :: ys) ↔ xs[o]? = some y ∧ StandsAt xs (o + 1) ys := by
  rw [← List.singleton_append, standsAt_append]
  simp [StandsAt]

theorem StandsAt.getD_eq {xs ys : List α} {y d : α} {o : ℕ} (h : StandsAt xs o (y :: ys)) :
    xs.getD o d = y := by
  rw [List.getD_eq_getElem?_getD, (standsAt_cons.mp h).1, Option.getD_some]

theorem StandsAt.tail {xs ys : List α} {y : α} {o : ℕ} (h : StandsAt xs o (y :: ys)) :
    StandsAt xs (o + 1) ys :=
  (standsAt_cons.mp h).2

theorem StandsAt.left {xs ys zs : List α} {o : ℕ} (h : StandsAt xs o (ys ++ zs)) :
    StandsAt xs o ys :=
  (standsAt_append.mp h).1

theorem StandsAt.right {xs ys zs : List α} {o : ℕ} (h : StandsAt xs o (ys ++ zs)) :
    StandsAt xs (o + ys.length) zs :=
  (standsAt_append.mp h).2

theorem StandsAt.take_drop {xs ys : List α} {o : ℕ} (h : StandsAt xs o ys) :
    (xs.drop o).take ys.length = ys := by
  refine List.ext_getElem? fun i => ?_
  rw [List.getElem?_take, List.getElem?_drop]
  by_cases hi : i < ys.length
  · rw [if_pos hi, h i hi]
  · rw [if_neg hi, List.getElem?_eq_none (by omega)]

/-- What is spliced into a list stands there, when it fits. -/
theorem standsAt_splice {xs ys : List α} {o : ℕ} (h : o + ys.length ≤ xs.length) :
    StandsAt (splice xs o ys) o ys := by
  intro i hi
  rw [getElem?_splice_of_inside (by omega) (by omega) (by omega), Nat.add_sub_cancel_left]

/-- A splice leaves alone what stands beside it. -/
theorem StandsAt.splice {xs ys zs : List α} {o p : ℕ} (h : StandsAt xs o ys)
    (hd : o + ys.length ≤ p ∨ p + zs.length ≤ o) : StandsAt (splice xs p zs) o ys := by
  intro i hi
  rw [getElem?_splice_of_outside (by omega), h i hi]

theorem standsAt_drop {xs ys : List α} {n o : ℕ} :
    StandsAt (xs.drop n) o ys ↔ StandsAt xs (n + o) ys := by
  simp only [StandsAt, List.getElem?_drop, Nat.add_assoc]

theorem standsAt_iff_take_drop {xs ys : List α} {o : ℕ} :
    StandsAt xs o ys ↔ (xs.drop o).take ys.length = ys := by
  refine ⟨StandsAt.take_drop, fun h i hi => ?_⟩
  rw [← List.getElem?_drop, ← h, List.getElem?_take, if_pos hi]

/-- Items that end within the first part of a concatenation. -/
theorem standsAt_append_of_le {xs zs ys : List α} {o : ℕ} (h : o + ys.length ≤ xs.length) :
    StandsAt (xs ++ zs) o ys ↔ StandsAt xs o ys := by
  refine forall₂_congr fun i hi => ?_
  rw [List.getElem?_append_left (by omega)]

/-- Items that start behind the first part of a concatenation. -/
theorem standsAt_append_of_ge {xs zs ys : List α} {o : ℕ} (h : xs.length ≤ o) :
    StandsAt (xs ++ zs) o ys ↔ StandsAt zs (o - xs.length) ys := by
  refine forall₂_congr fun i _ => ?_
  rw [List.getElem?_append_right (by omega), Nat.sub_add_comm h]

end Whip6.Lib
