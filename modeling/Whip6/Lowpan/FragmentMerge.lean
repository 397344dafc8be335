import Whip6.Lowpan.DefragmenterLists
import Whip6.Lib.Spans

/-!
# Merging fragments

What merging a new fragment does to the intervals that a packet has recorded.  Nothing is recorded
beyond what was recorded before and the new fragment (`mergeFragEntries_within`), whatever the
fragments are.
-/

namespace Whip6

open Lib

/-! ## Intervals of specifications -/

namespace FragEntry

/-- The interval of a fragment specification. -/
def span (f : FragEntry) : Span := ⟨f.offset.toNat, f.offset.toNat + f.size.toNat⟩

@[simp] theorem span_start (f : FragEntry) : f.span.start = f.offset.toNat := rfl

@[simp] theorem span_stop (f : FragEntry) : f.span.stop = f.offset.toNat + f.size.toNat := rfl

theorem span_start_le (f : FragEntry) : f.span.start ≤ f.span.stop := Nat.le_add_right _ _

end FragEntry

/-- The intervals of a list of specifications. -/
def fragSpans (frags : List FragEntry) : List Span := frags.map FragEntry.span

/-- The interval of a fragment. -/
def newSpan (off len : UInt16) : Span := ⟨off.toNat, off.toNat + len.toNat⟩

/-- Without wrapping around, a concatenation compares the length of the hull with the sum of the two
lengths. -/
theorem FragEntry.concatenate_cases (f : FragEntry) (off len : UInt16) (identical : Bool)
    (hf : f.span.stop < 0x8000) (hn : (newSpan off len).stop < 0x8000) :
    let lo := min f.span.start off.toNat
    let hi := max f.span.stop (off.toNat + len.toNat)
    (hi - lo = f.size.toNat + len.toNat ∧
        ∃ f', f.concatenate off len identical = (f', .merged) ∧ f'.span = ⟨lo, hi⟩) ∨
      (f.size.toNat + len.toNat < hi - lo ∧ f.concatenate off len identical = (f, .disjoint)) ∨
      (hi - lo < f.size.toNat + len.toNat ∧ f.span.start ≤ off.toNat ∧
        off.toNat + len.toNat ≤ f.span.stop ∧ identical = true ∧
        f.concatenate off len identical = (f, .merged)) ∨
      (hi - lo < f.size.toNat + len.toNat ∧
        ¬ (f.span.start ≤ off.toNat ∧ off.toNat + len.toNat ≤ f.span.stop ∧ identical = true) ∧
        f.concatenate off len identical = (f, .overlapping)) := by
  obtain ⟨ptr, offset, size⟩ := f
  simp only [span_start, span_stop, newSpan] at hf hn ⊢
  have hstart : (if offset > off then off else offset).toNat = min offset.toNat off.toNat := by
    split_ifs with h
    · have := UInt16.lt_iff_toNat_lt.mp h
      omega
    · have := UInt16.le_iff_toNat_le.mp (UInt16.not_lt.mp h)
      omega
  have hend : (if (offset + size).toNat < off.toNat + len.toNat then off + len
      else offset + size).toNat = max (offset.toNat + size.toNat) (off.toNat + len.toNat) := by
    have hold : (offset + size).toNat = offset.toNat + size.toNat := by
      rw [UInt16.toNat_add, Nat.mod_eq_of_lt (by omega)]
    have hnew : (off + len).toNat = off.toNat + len.toNat := by
      rw [UInt16.toNat_add, Nat.mod_eq_of_lt (by omega)]
    split_ifs with h <;> omega
  have hsum : (size + len).toNat = size.toNat + len.toNat := by
    rw [UInt16.toNat_add, Nat.mod_eq_of_lt (by omega)]
  have hbefore : offset > off ↔ off.toNat < offset.toNat := UInt16.lt_iff_toNat_lt
  have hbehind : (offset + size).toNat = offset.toNat + size.toNat := by
    rw [UInt16.toNat_add, Nat.mod_eq_of_lt (by omega)]
  simp only [FragEntry.concatenate, lowpanDefragmenterConcatenateNewFragSpecWithExistingOne]
  generalize (if offset > off then off else offset) = newStart at hstart ⊢
  generalize (if (offset + size).toNat < off.toNat + len.toNat then off + len
      else offset + size) = newEnd at hend ⊢
  have hsize : (newEnd - newStart).toNat = newEnd.toNat - newStart.toNat := by
    rw [UInt16.toNat_sub_of_le]
    rw [UInt16.le_iff_toNat_le]
    omega
  have heq : newEnd - newStart = size + len ↔
      newEnd.toNat - newStart.toNat = size.toNat + len.toNat := by
    rw [← hsize, ← hsum, UInt16.toNat_inj]
  have hlt : newEnd - newStart > size + len ↔
      size.toNat + len.toNat < newEnd.toNat - newStart.toNat := by
    rw [← hsize, ← hsum]
    exact UInt16.lt_iff_toNat_lt
  simp only [heq, hlt, hbefore, hbehind, hstart, hend]
  rcases Nat.lt_trichotomy (max (offset.toNat + size.toNat) (off.toNat + len.toNat) -
    min offset.toNat off.toNat) (size.toNat + len.toNat) with hcmp | hcmp | hcmp
  · rw [if_neg (by omega), if_neg (by omega)]
    by_cases hin : ¬ off.toNat < offset.toNat ∧
        ¬ offset.toNat + size.toNat < off.toNat + len.toNat ∧ identical = true
    · rw [if_pos hin]
      exact Or.inr (Or.inr (Or.inl ⟨hcmp, by omega, by omega, hin.2.2, rfl⟩))
    · rw [if_neg hin]
      exact Or.inr (Or.inr (Or.inr ⟨hcmp, fun h => hin ⟨by omega, by omega, h.2.2⟩, rfl⟩))
  · rw [if_pos hcmp]
    refine Or.inl ⟨hcmp, _, rfl, ?_⟩
    simp only [FragEntry.span, hsize, hstart, hend, Span.mk.injEq, true_and]
    omega
  · rw [if_neg (by omega), if_pos hcmp]
    exact Or.inr (Or.inl ⟨hcmp, rfl⟩)

/-! ## Nothing is made up -/

/-- A specification records nothing outside of a set, and nothing from a bound on. -/
def FragEntry.Within (S : Set ℕ) (bound : ℕ) (f : FragEntry) : Prop :=
  f.span.stop ≤ bound ∧ ∀ n ∈ f.span, n ∈ S

section Within

variable {S : Set ℕ} {bound : ℕ} {f : FragEntry} {frags before behind : List FragEntry}
  {free : List FragSpecPtr} {off len : UInt16} {identical : Bool}

variable (identical) in
theorem FragEntry.Within.concatenate (hbound : bound < 0x8000) (hf : f.Within S bound)
    (hstop : (newSpan off len).stop ≤ bound) (hnew : ∀ n ∈ newSpan off len, n ∈ S) :
    (f.concatenate off len identical).1.Within S bound := by
  obtain ⟨hfstop, hfmem⟩ := hf
  rcases f.concatenate_cases off len identical (by omega) (by omega) with
    ⟨hlen, f', hc, hspan⟩ | ⟨-, hc⟩ | ⟨-, -, -, -, hc⟩ | ⟨-, -, hc⟩
  · rw [hc]
    simp only [newSpan] at hstop
    refine ⟨by rw [hspan]; exact Nat.max_le.mpr ⟨hfstop, hstop⟩, fun n hn => ?_⟩
    simp only [hspan, Span.mem_def, FragEntry.span_start, FragEntry.span_stop] at hlen hn
    by_cases hin : n ∈ f.span
    · exact hfmem n hin
    · refine hnew n ?_
      rw [Span.mem_def, FragEntry.span_start, FragEntry.span_stop] at hin
      simp only [Span.mem_def, newSpan]
      omega
  all_goals
    rw [hc]
    exact ⟨hfstop, hfmem⟩

/-- A specification as a new fragment. -/
theorem FragEntry.Within.newSpan (hf : f.Within S bound) :
    (Whip6.newSpan f.offset f.size).stop ≤ bound ∧ ∀ n ∈ Whip6.newSpan f.offset f.size, n ∈ S := hf

theorem concatenateWithNext_within (hbound : bound < 0x8000) (hf : f.Within S bound)
    (hbehind : ∀ e ∈ behind, e.Within S bound) :
    ∀ e ∈ (concatenateWithNext f behind free identical).1, e.Within S bound := by
  unfold concatenateWithNext
  cases behind with
  | nil => simpa using hf
  | cons n rest =>
    obtain ⟨hn, hrest⟩ := List.forall_mem_cons.mp hbehind
    have hc := hf.concatenate identical hbound hn.newSpan.1 hn.newSpan.2
    dsimp only
    split
    · rename_i f' heq
      rw [heq] at hc
      exact List.forall_mem_cons.mpr ⟨hc, hrest⟩
    · simpa using hf
    · exact List.forall_mem_cons.mpr ⟨hf, hbehind⟩

theorem insertFragEntry_within (hstop : (Whip6.newSpan off len).stop ≤ bound)
    (hnew : ∀ n ∈ Whip6.newSpan off len, n ∈ S) (hbehind : ∀ e ∈ behind, e.Within S bound) :
    ∀ e ∈ (insertFragEntry behind free off len).2.1, e.Within S bound := by
  cases free with
  | nil => exact hbehind
  | cons i free => exact List.forall_mem_cons.mpr ⟨⟨hstop, hnew⟩, hbehind⟩

theorem mergeBehind_within (hbound : bound < 0x8000) (hstop : (Whip6.newSpan off len).stop ≤ bound)
    (hnew : ∀ n ∈ Whip6.newSpan off len, n ∈ S) (hbehind : ∀ e ∈ behind, e.Within S bound) :
    ∀ e ∈ (mergeBehind behind free off len identical).2.1, e.Within S bound := by
  unfold mergeBehind
  cases behind with
  | nil => exact insertFragEntry_within hstop hnew hbehind
  | cons n rest =>
    obtain ⟨hn, hrest⟩ := List.forall_mem_cons.mp hbehind
    have hc := hn.concatenate identical hbound hstop hnew
    dsimp only
    split
    · rename_i n' heq
      rw [heq] at hc
      exact List.forall_mem_cons.mpr ⟨hc, hrest⟩
    · exact insertFragEntry_within hstop hnew hbehind
    · exact insertFragEntry_within hstop hnew (by simp)

theorem mergeAt_within (hbound : bound < 0x8000) (hstop : (Whip6.newSpan off len).stop ≤ bound)
    (hnew : ∀ n ∈ Whip6.newSpan off len, n ∈ S)
    (hfrags : ∀ e ∈ before ++ f :: behind, e.Within S bound) :
    ∀ e ∈ (mergeAt before f behind free off len identical).2.1, e.Within S bound := by
  have hbefore : ∀ e ∈ before, e.Within S bound := fun e he => hfrags e (by simp [he])
  have hf : f.Within S bound := hfrags f (by simp)
  have hbehind : ∀ e ∈ behind, e.Within S bound := fun e he => hfrags e (by simp [he])
  have hc := hf.concatenate identical hbound hstop hnew
  unfold mergeAt
  split
  · rename_i f' heq
    rw [heq] at hc
    exact List.forall_mem_append.mpr ⟨hbefore, concatenateWithNext_within hbound hc hbehind⟩
  · cases hcons : before ++ f :: behind with
    | nil => simp
    | cons first rest =>
      have hfirst : first.Within S bound := hfrags first (by simp [hcons])
      have hempty : FragEntry.Within S bound { first with offset := 0, size := 0 } :=
        ⟨Nat.zero_le _, fun n hn => absurd hn.2 (Nat.not_lt_zero n)⟩
      dsimp only
      cases rest.map FragEntry.ptr ++ free with
      | nil => exact List.forall_mem_singleton.mpr hfirst
      | cons i free =>
        refine List.forall_mem_cons.mpr ⟨hempty, ?_⟩
        exact List.forall_mem_singleton.mpr ⟨hstop, hnew⟩
  · exact List.forall_mem_append.mpr ⟨hbefore, List.forall_mem_cons.mpr
      ⟨hf, mergeBehind_within hbound hstop hnew hbehind⟩⟩

variable (free identical) in
/-- Merging records nothing but what was recorded before and the new fragment. -/
theorem mergeFragEntries_within (hbound : bound < 0x8000)
    (hstop : (Whip6.newSpan off len).stop ≤ bound) (hnew : ∀ n ∈ Whip6.newSpan off len, n ∈ S)
    (hfrags : ∀ e ∈ frags, e.Within S bound) :
    ∀ e ∈ (mergeFragEntries frags free off len identical).2.1, e.Within S bound := by
  unfold mergeFragEntries
  split_ifs with hoff
  · cases frags with
    | nil => simp
    | cons first rest =>
      obtain ⟨hfirst, hrest⟩ := List.forall_mem_cons.mp hfrags
      have hc := hfirst.concatenate identical hbound hstop hnew
      dsimp only
      split
      · rename_i first' heq
        rw [heq] at hc
        exact concatenateWithNext_within hbound hc hrest
      · subst hoff
        exact List.forall_mem_singleton.mpr ⟨hstop, hnew⟩
  · dsimp only
    cases hlast : (frags.takeWhile fun f => ¬ off ≤ f.offset).getLast? with
    | none => exact hfrags
    | some f =>
      refine mergeAt_within hbound hstop hnew ?_
      rwa [← List.singleton_append, ← List.append_assoc,
        List.dropLast_append_getLast? f hlast, List.takeWhile_append_dropWhile]

end Within

end Whip6
