import Whip6.Lib.Spans

/-!
# Consecutive intervals

A list of intervals tiles a range when each starts where the one before it stops, the first at the
start of the range and the last one stopping at its end.  Where none is empty, every number of the
range is in exactly one of them.
-/

namespace Whip6.Lib

/-- The intervals follow one another from `a` to `b`, and none is empty. -/
def Tiles : ℕ → List Span → ℕ → Prop
  | a, [], b => a = b
  | a, s :: l, b => s.start = a ∧ a < s.stop ∧ Tiles s.stop l b

variable {a b c : ℕ} {l : List Span} {s : Span}

theorem Tiles.le (h : Tiles a l b) : a ≤ b := by
  induction l generalizing a with
  | nil => exact h.le
  | cons s l ih =>
    obtain ⟨-, hlt, hrest⟩ := h
    exact hlt.le.trans (ih hrest)

theorem tiles_append {l₁ l₂ : List Span} :
    Tiles a (l₁ ++ l₂) c ↔ ∃ b, Tiles a l₁ b ∧ Tiles b l₂ c := by
  induction l₁ generalizing a with
  | nil =>
    constructor
    · intro h
      exact ⟨a, rfl, h⟩
    · rintro ⟨b, rfl, h⟩
      exact h
  | cons s l₁ ih =>
    constructor
    · rintro ⟨hstart, hlt, hrest⟩
      obtain ⟨b, hfirst, hsecond⟩ := ih.mp hrest
      exact ⟨b, ⟨hstart, hlt, hfirst⟩, hsecond⟩
    · rintro ⟨b, ⟨hstart, hlt, hfirst⟩, hsecond⟩
      exact ⟨hstart, hlt, ih.mpr ⟨b, hfirst, hsecond⟩⟩

/-- The next interval is put behind the others. -/
theorem Tiles.concat (h : Tiles a l b) (hstart : s.start = b) (hlt : b < s.stop) :
    Tiles a (l ++ [s]) s.stop :=
  tiles_append.mpr ⟨b, h, hstart, hlt, rfl⟩

theorem Tiles.within (h : Tiles a l b) : ∀ s ∈ l, a ≤ s.start ∧ s.start < s.stop ∧ s.stop ≤ b := by
  induction l generalizing a with
  | nil =>
    intro s hs
    cases hs
  | cons t l ih =>
    obtain ⟨rfl, hlt, hrest⟩ := h
    intro s hs
    rcases List.mem_cons.mp hs with rfl | hs
    · exact ⟨le_rfl, hlt, hrest.le⟩
    · obtain ⟨hle, hs⟩ := ih hrest s hs
      exact ⟨hlt.le.trans hle, hs⟩

/-- All intervals but the last stop before the end. -/
theorem Tiles.stop_lt (h : Tiles a (l ++ [s]) b) : ∀ t ∈ l, t.stop < b := by
  obtain ⟨c, hfirst, rfl, hlt, rfl⟩ := tiles_append.mp h
  intro t ht
  exact ((hfirst.within t ht).2.2).trans_lt hlt

/-- Every number of the range is in exactly one interval. -/
theorem Tiles.exists_unique (h : Tiles a l b) {n : ℕ} (ha : a ≤ n) (hb : n < b) :
    ∃! s, s ∈ l ∧ n ∈ s := by
  induction l generalizing a with
  | nil =>
    obtain rfl := h
    omega
  | cons t l ih =>
    obtain ⟨rfl, hlt, hrest⟩ := h
    by_cases hn : n < t.stop
    · refine ⟨t, ⟨List.mem_cons_self, ha, hn⟩, ?_⟩
      rintro s ⟨hs, hle, -⟩
      rcases List.mem_cons.mp hs with rfl | hs
      · rfl
      · have hwithin := hrest.within s hs
        omega
    · obtain ⟨s, ⟨hs, hmem⟩, hunique⟩ := ih hrest (not_lt.mp hn)
      refine ⟨s, ⟨List.mem_cons_of_mem _ hs, hmem⟩, ?_⟩
      rintro s' ⟨hs', hmem'⟩
      rcases List.mem_cons.mp hs' with rfl | hs'
      · exact absurd hmem'.2 hn
      · exact hunique s' ⟨hs', hmem'⟩

end Whip6.Lib
