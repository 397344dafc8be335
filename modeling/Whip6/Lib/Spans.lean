import Mathlib

/-!
# Lists of intervals

Half-open intervals of natural numbers (`Span`), and what a list of them covers.  In a list of
intervals that are apart, each starts behind the end of the one before it, with a gap between them;
then the nonempty ones are exactly the maximal runs of what the list covers (`isRun_covered_iff`).
-/

namespace Whip6.Lib

/-- The numbers from `start` on that lie before `stop`. -/
structure Span where
  start : ℕ
  stop : ℕ
  deriving DecidableEq, Repr

namespace Span

instance : Membership ℕ Span := ⟨fun s n => s.start ≤ n ∧ n < s.stop⟩

instance (n : ℕ) (s : Span) : Decidable (n ∈ s) :=
  inferInstanceAs (Decidable (s.start ≤ n ∧ n < s.stop))

theorem mem_def {n : ℕ} {s : Span} : n ∈ s ↔ s.start ≤ n ∧ n < s.stop := Iff.rfl

end Span

/-- What a list of intervals covers. -/
def covered (l : List Span) : Set ℕ := {n | ∃ s ∈ l, n ∈ s}

variable {l l₁ l₂ : List Span} {s t : Span} {n : ℕ}

theorem mem_covered : n ∈ covered l ↔ ∃ s ∈ l, n ∈ s := Iff.rfl

@[simp] theorem not_mem_covered_nil : n ∉ covered [] := by simp [mem_covered]

@[simp] theorem mem_covered_cons : n ∈ covered (s :: l) ↔ n ∈ s ∨ n ∈ covered l := by
  simp [mem_covered]

@[simp] theorem mem_covered_append :
    n ∈ covered (l₁ ++ l₂) ↔ n ∈ covered l₁ ∨ n ∈ covered l₂ := by
  simp only [mem_covered, List.mem_append, or_and_right, exists_or]

/-! ## Intervals that are apart -/

/-- Each interval starts behind the end of those before it, and there is a gap between them. -/
def Apart (l : List Span) : Prop := l.Pairwise fun s t => s.stop < t.start

theorem apart_cons : Apart (s :: l) ↔ (∀ t ∈ l, s.stop < t.start) ∧ Apart l := List.pairwise_cons

theorem apart_append :
    Apart (l₁ ++ l₂) ↔ Apart l₁ ∧ Apart l₂ ∧ ∀ s ∈ l₁, ∀ t ∈ l₂, s.stop < t.start :=
  List.pairwise_append

theorem Apart.eq_or (h : Apart l) (hs : s ∈ l) (ht : t ∈ l) :
    s = t ∨ s.stop < t.start ∨ t.stop < s.start := by
  induction l with
  | nil => cases hs
  | cons u l ih =>
    obtain ⟨hu, hl⟩ := apart_cons.mp h
    rcases List.mem_cons.mp hs with rfl | hs'
    · rcases List.mem_cons.mp ht with rfl | ht'
      · exact Or.inl rfl
      · exact Or.inr (Or.inl (hu t ht'))
    · rcases List.mem_cons.mp ht with rfl | ht'
      · exact Or.inr (Or.inr (hu s hs'))
      · exact ih hl hs' ht'

/-- Behind the end of one of the intervals there is a gap. -/
theorem Apart.stop_not_mem (h : Apart l) (hwf : ∀ s ∈ l, s.start ≤ s.stop) (hs : s ∈ l) :
    s.stop ∉ covered l := by
  rintro ⟨t, ht, hstart, hstop⟩
  have hs' := hwf s hs
  rcases h.eq_or hs ht with rfl | hlt | hlt
  · omega
  · omega
  · omega

/-- Before the start of one of the intervals there is a gap. -/
theorem Apart.before_not_mem (h : Apart l) (hwf : ∀ s ∈ l, s.start ≤ s.stop) (hs : s ∈ l)
    (hn : n + 1 = s.start) : n ∉ covered l := by
  rintro ⟨t, ht, hstart, hstop⟩
  have hs' := hwf s hs
  rcases h.eq_or hs ht with rfl | hlt | hlt
  · omega
  · omega
  · omega

/-- An interval that is covered lies within one of the intervals. -/
theorem Apart.exists_of_subset (h : Apart l) (hwf : ∀ s ∈ l, s.start ≤ s.stop)
    (hne : t.start < t.stop) (hsub : ∀ n ∈ t, n ∈ covered l) :
    ∃ s ∈ l, s.start ≤ t.start ∧ t.stop ≤ s.stop := by
  obtain ⟨s, hs, hstart, hstop⟩ := hsub t.start ⟨Nat.le_refl _, hne⟩
  refine ⟨s, hs, hstart, ?_⟩
  by_contra hlt
  exact h.stop_not_mem hwf hs (hsub s.stop ⟨by omega, by omega⟩)

/-! ## Maximal runs -/

/-- A nonempty interval within a set that cannot be extended on either side. -/
structure IsRun (S : Set ℕ) (s : Span) : Prop where
  nonempty : s.start < s.stop
  subset : ∀ n ∈ s, n ∈ S
  before : ∀ n, n + 1 = s.start → n ∉ S
  behind : s.stop ∉ S

/-- The intervals of a list that are apart are the maximal runs of what they cover. -/
theorem isRun_covered_iff (h : Apart l) (hwf : ∀ s ∈ l, s.start ≤ s.stop) :
    IsRun (covered l) s ↔ s ∈ l ∧ s.start < s.stop := by
  constructor
  · intro hrun
    obtain ⟨t, ht, hstart, hstop⟩ := h.exists_of_subset hwf hrun.nonempty hrun.subset
    have hne := hrun.nonempty
    have heq : s.start = t.start := by
      by_contra hne'
      exact hrun.before (s.start - 1) (by omega) ⟨t, ht, by omega, by omega⟩
    have heq' : s.stop = t.stop := by
      by_contra hne'
      exact hrun.behind ⟨t, ht, by omega, by omega⟩
    obtain rfl : s = t := by
      cases s
      cases t
      simp_all
    exact ⟨ht, hne⟩
  · rintro ⟨hs, hne⟩
    exact ⟨hne, fun n hn => ⟨s, hs, hn⟩, fun n hn => h.before_not_mem hwf hs hn,
      h.stop_not_mem hwf hs⟩

end Whip6.Lib
