import Mathlib

/-!
# The leftmost longest run

A run of a list is a part of it whose items all satisfy a predicate.  `longestRun` finds the
longest one, the leftmost one of these, in a single scan: it counts the run that reaches up to the
current item, and compares it with the best one when it ends.
-/

namespace Whip6.Lib

variable {α : Type*} (p : α → Prop)

/-- The `n` items of a list from `i` on satisfy `p`. -/
def IsStretch (xs : List α) (i n : ℕ) : Prop :=
  i + n ≤ xs.length ∧ ∀ k, i ≤ k → k < i + n → ∀ x, xs[k]? = some x → p x

/-- A run such that none is longer, and none of its length starts before it. -/
structure LeftmostLongest (xs : List α) (i n : ℕ) : Prop where
  run : IsStretch p xs i n
  longest : ∀ j m, IsStretch p xs j m → m ≤ n
  leftmost : ∀ j, IsStretch p xs j n → i ≤ j

variable {p}

theorem isStretch_zero {xs : List α} {i : ℕ} (h : i ≤ xs.length) : IsStretch p xs i 0 :=
  ⟨h, fun _ hk hlt => absurd hlt (by omega)⟩

theorem isStretch_append_iff {xs ys : List α} {i n : ℕ} (h : i + n ≤ xs.length) :
    IsStretch p (xs ++ ys) i n ↔ IsStretch p xs i n := by
  constructor
  · rintro ⟨-, hp⟩
    refine ⟨h, fun k hk hlt x hx => hp k hk hlt x ?_⟩
    rwa [List.getElem?_append_left (by omega)]
  · rintro ⟨-, hp⟩
    refine ⟨by simp only [List.length_append]; omega, fun k hk hlt x hx => hp k hk hlt x ?_⟩
    rwa [List.getElem?_append_left (by omega)] at hx

theorem IsStretch.take {xs : List α} {i n m : ℕ} (h : IsStretch p xs i n) (hm : m ≤ n) :
    IsStretch p xs i m :=
  ⟨by have := h.1; omega, fun k hk hlt x hx => h.2 k hk (by omega) x hx⟩

/-- A run up to the end of a list goes on with the next item. -/
theorem IsStretch.concat {xs : List α} {i n : ℕ} {x : α} (h : IsStretch p xs i n)
    (hend : i + n = xs.length) (hx : p x) : IsStretch p (xs ++ [x]) i (n + 1) := by
  refine ⟨by simp only [List.length_append, List.length_singleton]; omega, ?_⟩
  intro k hk hlt y hy
  by_cases hlast : k < xs.length
  · rw [List.getElem?_append_left hlast] at hy
    exact h.2 k hk (by omega) y hy
  · obtain rfl : k = xs.length := by omega
    rw [List.getElem?_concat_length, Option.some.injEq] at hy
    exact hy ▸ hx

/-- The last item of a run that reaches up to the end. -/
theorem IsStretch.last {xs : List α} {i n : ℕ} {x : α} (h : IsStretch p (xs ++ [x]) i (n + 1))
    (hend : i + n = xs.length) : p x :=
  h.2 xs.length (by omega) (by omega) x List.getElem?_concat_length

/-! ## The scan -/

/-- The best run so far, and the length of the one that reaches up to the current item. -/
structure RunScan where
  first : ℕ
  num : ℕ
  curr : ℕ

namespace RunScan

/-- The current run ends before the item at `idx`. -/
def close (idx : ℕ) (s : RunScan) : RunScan :=
  if s.curr > s.num then ⟨idx - s.curr, s.curr, 0⟩ else { s with curr := 0 }

variable (p) [DecidablePred p]

/-- The item at `idx` is scanned. -/
def step (s : RunScan) (idx : ℕ) (x : α) : RunScan :=
  if p x then { s with curr := s.curr + 1 } else s.close idx

/-- The items from `idx` on are scanned. -/
def scan (s : RunScan) (idx : ℕ) : List α → RunScan
  | [] => s.close idx
  | x :: xs => scan (step p s idx x) (idx + 1) xs

end RunScan

/-- What the scan knows of the items it has passed. -/
structure Scanned (p : α → Prop) (xs : List α) (s : RunScan) : Prop where
  curr_le : s.curr ≤ xs.length
  tail : IsStretch p xs (xs.length - s.curr) s.curr
  edge : ∀ j m, IsStretch p xs j m → j < xs.length - s.curr → j + m < xs.length - s.curr
  best : 0 < s.num → IsStretch p xs s.first s.num ∧ s.first < xs.length - s.curr
  closed : ∀ j m, 0 < m → IsStretch p xs j m → j < xs.length - s.curr →
    m ≤ s.num ∧ (m = s.num → s.first ≤ j)

theorem scanned_nil (first : ℕ) : Scanned p [] ⟨first, 0, 0⟩ where
  curr_le := Nat.zero_le _
  tail := isStretch_zero (Nat.zero_le _)
  edge := fun _ _ _ h => absurd h (Nat.not_lt_zero _)
  best := fun h => absurd h (lt_irrefl _)
  closed := fun _ _ _ _ h => absurd h (Nat.not_lt_zero _)

namespace Scanned

variable {xs : List α} {s : RunScan}

/-- The run of the item that is scanned goes on. -/
theorem concat (h : Scanned p xs s) {x : α} (hx : p x) :
    Scanned p (xs ++ [x]) { s with curr := s.curr + 1 } := by
  have hle := h.curr_le
  have hb : (xs ++ [x]).length - (s.curr + 1) = xs.length - s.curr := by
    simp only [List.length_append, List.length_singleton]
    omega
  have hedge : ∀ j m, IsStretch p (xs ++ [x]) j m → j < xs.length - s.curr →
      j + m < xs.length - s.curr := by
    intro j m hrun hj
    have hfit := hrun.1
    simp only [List.length_append, List.length_singleton] at hfit
    by_cases hin : j + m ≤ xs.length
    · exact h.edge j m ((isStretch_append_iff hin).mp hrun) hj
    · have hshort := (isStretch_append_iff (by omega)).mp (hrun.take (Nat.sub_le m 1))
      have := h.edge j (m - 1) hshort hj
      omega
  constructor
  · simpa using hle
  · rw [hb]
    exact h.tail.concat (by omega) hx
  · rw [hb]
    exact hedge
  · rw [hb]
    intro hnum
    obtain ⟨hrun, hlt⟩ := h.best hnum
    exact ⟨(isStretch_append_iff hrun.1).mpr hrun, hlt⟩
  · rw [hb]
    intro j m hm hrun hj
    have := hedge j m hrun hj
    exact h.closed j m hm ((isStretch_append_iff (by omega)).mp hrun) hj

/-- The best run once the current one has ended. -/
theorem close (h : Scanned p xs s) :
    (∀ j m, 0 < m → IsStretch p xs j m →
      m ≤ (s.close xs.length).num ∧
        (m = (s.close xs.length).num → (s.close xs.length).first ≤ j)) ∧
    (0 < (s.close xs.length).num →
      IsStretch p xs (s.close xs.length).first (s.close xs.length).num ∧
        (s.close xs.length).first ≤ xs.length) := by
  have hle := h.curr_le
  unfold RunScan.close
  by_cases hcmp : s.curr > s.num
  · rw [if_pos hcmp]
    refine ⟨fun j m hm hrun => ?_, fun _ => ⟨h.tail, Nat.sub_le _ _⟩⟩
    have hfit := hrun.1
    by_cases hj : j < xs.length - s.curr
    · have := (h.closed j m hm hrun hj).1
      exact ⟨by dsimp only; omega, by dsimp only; omega⟩
    · exact ⟨by dsimp only; omega, by dsimp only; omega⟩
  · rw [if_neg hcmp]
    refine ⟨fun j m hm hrun => ?_, fun hnum => ⟨(h.best hnum).1, ?_⟩⟩
    have hfit := hrun.1
    by_cases hj : j < xs.length - s.curr
    · exact h.closed j m hm hrun hj
    · refine ⟨by dsimp only; omega, fun hnum => ?_⟩
      dsimp only at hnum ⊢
      have hfirst := (h.best (by omega)).2
      omega
    · have hfirst := (h.best hnum).2
      dsimp only
      omega

/-- The run of the items before the one that is scanned has ended. -/
theorem concat_close (h : Scanned p xs s) {x : α} (hx : ¬ p x) :
    Scanned p (xs ++ [x]) (s.close xs.length) := by
  have hcurr : (s.close xs.length).curr = 0 := by
    unfold RunScan.close
    split <;> rfl
  have hin : ∀ j m, IsStretch p (xs ++ [x]) j m → j < xs.length + 1 → j + m ≤ xs.length := by
    intro j m hrun hj
    by_contra hout
    have hfit := hrun.1
    simp only [List.length_append, List.length_singleton] at hfit
    obtain ⟨m, rfl⟩ : ∃ k, m = k + 1 := ⟨m - 1, by omega⟩
    exact hx (hrun.last (by omega))
  obtain ⟨hclosed, hbest⟩ := h.close
  constructor
  · rw [hcurr]
    exact Nat.zero_le _
  · rw [hcurr]
    exact isStretch_zero (Nat.sub_le _ _)
  · rw [hcurr, Nat.sub_zero, List.length_append, List.length_singleton]
    intro j m hrun hj
    exact Nat.lt_succ_of_le (hin j m hrun hj)
  · rw [hcurr, Nat.sub_zero, List.length_append, List.length_singleton]
    intro hnum
    obtain ⟨hrun, hle⟩ := hbest hnum
    exact ⟨(isStretch_append_iff hrun.1).mpr hrun, Nat.lt_succ_of_le hle⟩
  · rw [hcurr, Nat.sub_zero, List.length_append, List.length_singleton]
    intro j m hm hrun hj
    exact hclosed j m hm ((isStretch_append_iff (hin j m hrun hj)).mp hrun)

variable [DecidablePred p]

theorem step (h : Scanned p xs s) (x : α) :
    Scanned p (xs ++ [x]) (s.step p xs.length x) := by
  unfold RunScan.step
  by_cases hx : p x
  · rw [if_pos hx]
    exact h.concat hx
  · rw [if_neg hx]
    exact h.concat_close hx

end Scanned

variable [DecidablePred p]

theorem scan_spec {pre : List α} {s : RunScan} (h : Scanned p pre s) (xs : List α) :
    let r := s.scan p pre.length xs
    (∀ j m, IsStretch p (pre ++ xs) j m → m ≤ r.num) ∧
      (0 < r.num → LeftmostLongest p (pre ++ xs) r.first r.num) := by
  induction xs generalizing pre s with
  | nil =>
    rw [List.append_nil]
    obtain ⟨hclosed, hbest⟩ := h.close
    have hlongest : ∀ j m, IsStretch p pre j m → m ≤ (s.close pre.length).num := by
      intro j m hrun
      rcases Nat.eq_zero_or_pos m with rfl | hm
      · exact Nat.zero_le _
      · exact (hclosed j m hm hrun).1
    exact ⟨hlongest, fun hnum => ⟨(hbest hnum).1, hlongest,
      fun j hrun => (hclosed j _ hnum hrun).2 rfl⟩⟩
  | cons x xs ih =>
    have hstep := ih (h.step x)
    rw [List.length_append, List.length_singleton, List.append_assoc] at hstep
    exact hstep

/-- The scan of a whole list finds its leftmost longest run. -/
theorem scan_leftmostLongest (xs : List α) (first : ℕ) :
    let r := RunScan.scan p ⟨first, 0, 0⟩ 0 xs
    (∀ j m, IsStretch p xs j m → m ≤ r.num) ∧ (0 < r.num → LeftmostLongest p xs r.first r.num) :=
  scan_spec (scanned_nil first) xs

end Whip6.Lib
