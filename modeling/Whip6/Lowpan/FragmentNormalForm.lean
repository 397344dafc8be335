import Whip6.Lowpan.FragmentMerge

/-!
# The normal form of the recorded fragments

The specifications of a packet are in normal form when their intervals are sorted, with gaps between
them (`FragsNormal`).  Merging keeps the normal form, unless a fragment overruns two recorded ones
(`FragsNormal.merge`).  A fragment that overlaps with nothing adds exactly its interval
(`FragsNormal.merge_disjoint`), and a repeated one changes nothing (`FragsNormal.merge_repeated`).
-/

namespace Whip6

open Lib

/-! ## The normal form -/

/-- The specifications of a packet in normal form: the first one starts at zero, the intervals are
sorted with gaps between them, and only the first one may be empty. -/
structure FragsNormal (frags : List FragEntry) : Prop where
  first : frags.head?.map (fun f => f.span.start) = some 0
  nonempty : ∀ f ∈ frags, 0 < f.span.start → f.span.start < f.span.stop
  apart : Apart (fragSpans frags)

@[simp] theorem fragSpans_nil : fragSpans [] = [] := rfl

@[simp] theorem fragSpans_cons (f : FragEntry) (frags : List FragEntry) :
    fragSpans (f :: frags) = f.span :: fragSpans frags := rfl

@[simp] theorem fragSpans_append (frags frags' : List FragEntry) :
    fragSpans (frags ++ frags') = fragSpans frags ++ fragSpans frags' := List.map_append

theorem forall_mem_fragSpans {frags : List FragEntry} {p : Span → Prop} :
    (∀ s ∈ fragSpans frags, p s) ↔ ∀ f ∈ frags, p f.span := List.forall_mem_map

theorem span_mem_fragSpans {frags : List FragEntry} {f : FragEntry} (hf : f ∈ frags) :
    f.span ∈ fragSpans frags := List.mem_map_of_mem hf

section Normal

variable {f f' n : FragEntry} {frags before behind behind' : List FragEntry}
  {free : List FragSpecPtr} {off len : UInt16} {identical : Bool} {bound : ℕ}

/-- A new fragment that starts where a recorded one ends, with the content that the packet holds
there, contains the next recorded one and reaches the one behind that. -/
def Overruns (frags : List FragEntry) (off len : UInt16) : Prop :=
  ∃ before f n n' behind, frags = before ++ f :: n :: n' :: behind ∧
    off.toNat = f.span.stop ∧ n.span.stop ≤ (newSpan off len).stop ∧
    n'.span.start ≤ (newSpan off len).stop

namespace FragsNormal

theorem behind_lt (h : FragsNormal (before ++ f :: behind)) :
    ∀ e ∈ behind, f.span.stop < e.span.start := by
  have hapart := h.apart
  rw [fragSpans_append, fragSpans_cons, apart_append, apart_cons] at hapart
  exact forall_mem_fragSpans.mp hapart.2.1.1

theorem behind_nonempty (h : FragsNormal (before ++ f :: behind)) :
    ∀ e ∈ behind, e.span.start < e.span.stop := fun e he =>
  h.nonempty e (by simp [he]) (Nat.zero_lt_of_lt (h.behind_lt e he))

theorem behind_apart (h : FragsNormal (before ++ f :: behind)) : Apart (fragSpans behind) := by
  have hapart := h.apart
  rw [fragSpans_append, fragSpans_cons, apart_append, apart_cons] at hapart
  exact hapart.2.1.2

/-- Another end of one specification, and others behind it. -/
theorem replace (h : FragsNormal (before ++ f :: behind)) (hstart : f'.span.start = f.span.start)
    (hne : 0 < f'.span.start → f'.span.start < f'.span.stop)
    (hlt : ∀ e ∈ behind', f'.span.stop < e.span.start)
    (hbehind : ∀ e ∈ behind', e.span.start < e.span.stop) (hapart : Apart (fragSpans behind')) :
    FragsNormal (before ++ f' :: behind') where
  first := by
    have hfirst := h.first
    cases before with
    | nil => simpa only [List.nil_append, List.head?_cons, Option.map_some, hstart] using hfirst
    | cons b before => exact hfirst
  nonempty := by
    intro e he
    rw [List.mem_append, List.mem_cons] at he
    rcases he with he | rfl | he
    · exact h.nonempty e (by simp [he])
    · exact hne
    · exact fun _ => hbehind e he
  apart := by
    have hold := h.apart
    rw [fragSpans_append, fragSpans_cons, apart_append, apart_cons] at hold ⊢
    obtain ⟨hbefore, -, hgap⟩ := hold
    have hgap' : ∀ s ∈ fragSpans before, s.stop < f'.span.start := fun s hs => by
      rw [hstart]
      exact hgap s hs f.span List.mem_cons_self
    have hlt' : ∀ s ∈ fragSpans behind', f'.span.stop < s.start :=
      forall_mem_fragSpans.mpr hlt
    refine ⟨hbefore, ⟨hlt', hapart⟩, fun s hs t ht => ?_⟩
    rcases List.mem_cons.mp ht with rfl | ht
    · exact hgap' s hs
    · have hs' := hgap' s hs
      have ht' := hlt' t ht
      have hle := f'.span_start_le
      omega

/-- Putting a new fragment behind a specification. -/
theorem insert (h : FragsNormal (before ++ f :: behind)) (hlen : 0 < len.toNat)
    (hf : f.span.stop < off.toNat)
    (hlt : ∀ e ∈ behind', (newSpan off len).stop < e.span.start)
    (hbehind : ∀ e ∈ behind', e.span.start < e.span.stop) (hapart : Apart (fragSpans behind'))
    (ptr : FragSpecPtr) : FragsNormal (before ++ f :: ⟨ptr, off, len⟩ :: behind') := by
  have hspan : FragEntry.span ⟨ptr, off, len⟩ = newSpan off len := rfl
  have hstop : (newSpan off len).stop = off.toNat + len.toNat := rfl
  refine h.replace rfl (fun hpos => h.nonempty f (by simp) hpos) ?_ ?_ ?_
  · refine List.forall_mem_cons.mpr ⟨hf, fun e he => ?_⟩
    have := hlt e he
    omega
  · refine List.forall_mem_cons.mpr ⟨?_, hbehind⟩
    rw [hspan]
    exact Nat.lt_add_of_pos_right hlen
  · rw [fragSpans_cons, apart_cons]
    exact ⟨forall_mem_fragSpans.mpr hlt, hapart⟩

theorem insertLast (h : FragsNormal (before ++ f :: behind)) (hlen : 0 < len.toNat)
    (hf : f.span.stop < off.toNat) (ptr : FragSpecPtr) :
    FragsNormal (before ++ f :: [⟨ptr, off, len⟩]) := by
  have hnil : Apart (fragSpans []) := List.Pairwise.nil
  exact h.insert hlen hf (by simp) (by simp) hnil ptr

/-- Only the first specification, empty or not, and then nothing. -/
theorem singleton (hf : f.span.start = 0) : FragsNormal [f] where
  first := by rw [List.head?_cons, Option.map_some, hf]
  nonempty := fun e he hpos => by
    rw [List.mem_singleton.mp he, hf] at hpos
    exact absurd hpos (Nat.lt_irrefl 0)
  apart := List.pairwise_singleton _ _

theorem take (h : FragsNormal (before ++ f :: behind)) : FragsNormal (before ++ [f]) :=
  h.replace rfl (fun hpos => h.nonempty f (by simp) hpos) (by simp) (by simp) List.Pairwise.nil

end FragsNormal

/-- A specification that grew is concatenated with the next one. -/
theorem FragsNormal.concatenateWithNext (h : FragsNormal (before ++ f :: behind))
    (hbound : bound < 0x8000) (hf' : f'.span.stop ≤ bound) (hbehind : ∀ e ∈ behind, e.span.stop ≤ bound)
    (hstart : f'.span.start = f.span.start) (hne : f'.span.start < f'.span.stop)
    (hno : ∀ n n' rest, behind = n :: n' :: rest → n.span.stop ≤ f'.span.stop → identical = true →
      f'.span.stop < n'.span.start) :
    FragsNormal (before ++ (Whip6.concatenateWithNext f' behind free identical).1) := by
  have hgap := h.behind_lt
  have hnonempty := h.behind_nonempty
  have hapart := h.behind_apart
  unfold Whip6.concatenateWithNext
  cases behind with
  | nil => exact h.replace hstart (fun _ => hne) (by simp) (by simp) List.Pairwise.nil
  | cons n rest =>
    obtain ⟨hn, hrest⟩ := List.forall_mem_cons.mp hbehind
    obtain ⟨hngap, hrestgap⟩ := List.forall_mem_cons.mp hgap
    obtain ⟨hnne, hrestne⟩ := List.forall_mem_cons.mp hnonempty
    rw [fragSpans_cons, apart_cons] at hapart
    obtain ⟨hnrest, hrestapart⟩ := hapart
    have hnrest' : ∀ e ∈ rest, n.span.stop < e.span.start := forall_mem_fragSpans.mp hnrest
    have hle := f.span_start_le
    rcases f'.concatenate_cases n.offset n.size identical (by omega) (Nat.lt_of_le_of_lt hn hbound)
      with ⟨hlen, f'', hc, hspan⟩ | ⟨hlen, hc⟩ | ⟨hlen, hlo, hhi, hid, hc⟩ | ⟨hlen, hnot, hc⟩
    · simp only [hc]
      simp only [FragEntry.span_start, FragEntry.span_stop] at *
      have hhull : min f'.offset.toNat n.offset.toNat = f.offset.toNat ∧
          max (f'.offset.toNat + f'.size.toNat) (n.offset.toNat + n.size.toNat) =
            n.offset.toNat + n.size.toNat := by omega
      rw [hhull.1, hhull.2] at hspan
      refine h.replace (by rw [hspan]; rfl) (fun _ => ?_) (fun e he => ?_) hrestne hrestapart
      · rw [hspan]
        dsimp only
        omega
      · rw [hspan]
        exact hnrest' e he
    · simp only [hc]
      simp only [FragEntry.span_start, FragEntry.span_stop] at hlen hne hngap hle hstart hnne
      have hlt : f'.span.stop < n.span.start := by
        rw [FragEntry.span_stop, FragEntry.span_start]
        omega
      refine h.replace hstart (fun _ => hne) (List.forall_mem_cons.mpr ⟨hlt, fun e he => ?_⟩)
        hnonempty ?_
      · have := hnrest' e he
        have := n.span_start_le
        omega
      · rw [fragSpans_cons, apart_cons]
        exact ⟨hnrest, hrestapart⟩
    · simp only [hc]
      refine h.replace hstart (fun _ => hne) (fun e he => ?_) hrestne hrestapart
      cases rest with
      | nil => cases he
      | cons n' rest =>
        have hn' := hno n n' rest rfl hhi hid
        rcases List.mem_cons.mp he with rfl | he
        · exact hn'
        · rw [fragSpans_cons, apart_cons] at hrestapart
          have := forall_mem_fragSpans.mp hrestapart.1 e he
          have := n'.span_start_le
          omega
    · simp only [hc]
      exact h.replace hstart (fun _ => hne) (by simp) (by simp) List.Pairwise.nil

theorem FragsNormal.mergeBehind (h : FragsNormal (before ++ f :: behind)) (hbound : bound < 0x8000)
    (hbehind : ∀ e ∈ behind, e.span.stop ≤ bound) (hlen : 0 < len.toNat)
    (hstop : (newSpan off len).stop ≤ bound) (hf : f.span.stop < off.toNat)
    (hoff : ∀ e ∈ behind, off.toNat ≤ e.span.start)
    (hok : (Whip6.mergeBehind behind free off len identical).1 = true) :
    FragsNormal (before ++ f :: (Whip6.mergeBehind behind free off len identical).2.1) := by
  have hnonempty := h.behind_nonempty
  have hapart := h.behind_apart
  have hnewstop : (newSpan off len).stop = off.toNat + len.toNat := rfl
  unfold Whip6.mergeBehind at hok ⊢
  cases behind with
  | nil =>
    cases free with
    | nil => cases hok
    | cons i free => exact h.insertLast hlen hf i
  | cons n rest =>
    obtain ⟨hn, hrest⟩ := List.forall_mem_cons.mp hbehind
    obtain ⟨hnoff, hrestoff⟩ := List.forall_mem_cons.mp hoff
    obtain ⟨hnne, hrestne⟩ := List.forall_mem_cons.mp hnonempty
    have hapart' := hapart
    rw [fragSpans_cons, apart_cons] at hapart'
    obtain ⟨hnrest, hrestapart⟩ := hapart'
    have hnrest' : ∀ e ∈ rest, n.span.stop < e.span.start := forall_mem_fragSpans.mp hnrest
    rcases n.concatenate_cases off len identical (by omega) (by omega)
      with ⟨hcmp, n', hc, hspan⟩ | ⟨hcmp, hc⟩ | ⟨hcmp, hlo, hhi, hid, hc⟩ | ⟨hcmp, hnot, hc⟩
    · simp only [hc]
      simp only [FragEntry.span_start, FragEntry.span_stop] at hcmp hspan hnoff hnne
      have hhull : min n.offset.toNat off.toNat = off.toNat ∧
          max (n.offset.toNat + n.size.toNat) (off.toNat + len.toNat) =
            n.offset.toNat + n.size.toNat := by omega
      rw [hhull.1, hhull.2] at hspan
      refine h.replace rfl (fun hpos => h.nonempty f (by simp) hpos)
        (List.forall_mem_cons.mpr ⟨by rw [hspan]; exact hf, fun e he => ?_⟩)
        (List.forall_mem_cons.mpr ⟨by rw [hspan]; dsimp only; omega, hrestne⟩) ?_
      · exact h.behind_lt e (by simp [he])
      · rw [fragSpans_cons, apart_cons, hspan]
        exact ⟨hnrest, hrestapart⟩
    · simp only [hc] at hok ⊢
      cases free with
      | nil => cases hok
      | cons i free =>
        simp only [FragEntry.span_start, FragEntry.span_stop] at hcmp hnoff hnne
        have hlt : (newSpan off len).stop < n.span.start := by
          rw [hnewstop, FragEntry.span_start]
          omega
        refine h.insert hlen hf (List.forall_mem_cons.mpr ⟨hlt, fun e he => ?_⟩) hnonempty hapart i
        have := hnrest' e he
        have := n.span_start_le
        omega
    · simp only [hc]
      exact h
    · simp only [hc] at hok ⊢
      cases hcons : (n :: rest).map FragEntry.ptr ++ free with
      | nil => simp at hcons
      | cons i free => exact h.insertLast hlen hf i

theorem FragsNormal.mergeAt (h : FragsNormal (before ++ f :: behind)) (hbound : bound < 0x8000)
    (hfrags : ∀ e ∈ before ++ f :: behind, e.span.stop ≤ bound) (hlen : 0 < len.toNat)
    (hstop : (newSpan off len).stop ≤ bound) (hf : f.span.start < off.toNat)
    (hoff : ∀ e ∈ behind, off.toNat ≤ e.span.start)
    (hno : identical = true → ¬ Overruns (before ++ f :: behind) off len)
    (hok : (Whip6.mergeAt before f behind free off len identical).1 = true) :
    FragsNormal (Whip6.mergeAt before f behind free off len identical).2.1 := by
  have hfstop : f.span.stop ≤ bound := hfrags f (by simp)
  have hbehind : ∀ e ∈ behind, e.span.stop ≤ bound := fun e he => hfrags e (by simp [he])
  have hgap := h.behind_lt
  unfold Whip6.mergeAt at hok ⊢
  rcases f.concatenate_cases off len identical (by omega) (by omega)
      with ⟨hcmp, f', hc, hspan⟩ | ⟨hcmp, hc⟩ | ⟨hcmp, hlo, hhi, hid, hc⟩ | ⟨hcmp, hnot, hc⟩
  · simp only [hc]
    simp only [newSpan] at hstop
    simp only [FragEntry.span_start, FragEntry.span_stop] at hcmp hspan hf hfstop
    have hhull : min f.offset.toNat off.toNat = f.offset.toNat ∧
        max (f.offset.toNat + f.size.toNat) (off.toNat + len.toNat) = off.toNat + len.toNat ∧
        off.toNat = f.offset.toNat + f.size.toNat := by omega
    rw [hhull.1, hhull.2.1] at hspan
    refine h.concatenateWithNext hbound (by rw [hspan]; exact hstop) hbehind (by rw [hspan]; rfl)
      (by rw [hspan]; dsimp only; omega) fun n n' rest hcons hn hid => ?_
    by_contra hle
    refine hno hid ⟨before, f, n, n', rest, by rw [hcons], hhull.2.2, ?_, ?_⟩
    · rw [hspan] at hn
      exact hn
    · rw [hspan] at hle
      exact Nat.le_of_not_lt hle
  · simp only [hc] at hok ⊢
    simp only [FragEntry.span_start, FragEntry.span_stop] at hcmp hf
    refine h.mergeBehind hbound hbehind hlen hstop ?_ hoff hok
    rw [FragEntry.span_stop]
    omega
  · simp only [hc]
    refine h.concatenateWithNext hbound hfstop hbehind rfl (by omega) fun n n' rest hcons hn _ => ?_
    have hlt := hgap n (by simp [hcons])
    have := n.span_start_le
    omega
  · simp only [hc] at hok ⊢
    cases hcons : before ++ f :: behind with
    | nil => simp at hcons
    | cons first rest =>
      rw [hcons] at hok
      dsimp only at hok ⊢
      cases hfree : rest.map FragEntry.ptr ++ free with
      | nil =>
        rw [hfree] at hok
        cases hok
      | cons i free =>
        have hempty : FragsNormal ([] ++ [{ first with offset := 0, size := 0 }]) :=
          FragsNormal.singleton rfl
        exact hempty.insertLast hlen (by simp; omega) i

/-- Where a new fragment that is not the first one belongs. -/
theorem FragsNormal.split (h : FragsNormal frags) (free : List FragSpecPtr) (hoff : off ≠ 0)
    (len : UInt16) (identical : Bool) :
    ∃ before f behind, frags = before ++ f :: behind ∧ f.span.start < off.toNat ∧
      (∀ e ∈ behind, off.toNat ≤ e.span.start) ∧
      mergeFragEntries frags free off len identical =
        Whip6.mergeAt before f behind free off len identical := by
  have hpos : 0 < off.toNat := Nat.pos_of_ne_zero fun h0 => hoff (UInt16.toNat_inj.mp h0)
  have hne : (frags.takeWhile fun f => ¬ off ≤ f.offset) ≠ [] := by
    cases frags with
    | nil => exact absurd h.first (by simp)
    | cons first rest =>
      have hfirst : first.span.start = 0 := Option.some.inj h.first
      have hle : ¬ off ≤ first.offset := fun hle => by
        have := UInt16.le_iff_toNat_le.mp hle
        rw [FragEntry.span_start] at hfirst
        omega
      rw [List.takeWhile_cons_of_pos (by simpa using hle)]
      simp
  obtain ⟨f, hlast⟩ : ∃ f, (frags.takeWhile fun f => ¬ off ≤ f.offset).getLast? = some f :=
    ⟨_, List.getLast?_eq_some_getLast hne⟩
  have hsplit : (frags.takeWhile fun f => ¬ off ≤ f.offset).dropLast ++
      f :: (frags.dropWhile fun f => ¬ off ≤ f.offset) = frags := by
    rw [← List.singleton_append, ← List.append_assoc,
      List.dropLast_append_getLast? f hlast, List.takeWhile_append_dropWhile]
  refine ⟨_, f, _, hsplit.symm, ?_, ?_, by simp only [mergeFragEntries, if_neg hoff, hlast]⟩
  · have hf := List.mem_takeWhile_imp (List.mem_of_getLast? hlast)
    have hf' : ¬ off ≤ f.offset := by simpa using hf
    exact UInt16.lt_iff_toNat_lt.mp (UInt16.not_le.mp hf')
  · rw [← hsplit] at h
    have hapart := h.behind_apart
    have hhead := List.head?_dropWhile_not (fun f => decide ¬ off ≤ f.offset) frags
    cases hbehind : frags.dropWhile fun f => ¬ off ≤ f.offset with
    | nil => simp
    | cons n rest =>
      rw [hbehind] at hapart hhead
      rw [fragSpans_cons, apart_cons] at hapart
      have hn : off ≤ n.offset := by simpa using hhead
      have hn' : off.toNat ≤ n.span.start := UInt16.le_iff_toNat_le.mp hn
      refine List.forall_mem_cons.mpr ⟨hn', fun e he => ?_⟩
      have := forall_mem_fragSpans.mp hapart.1 e he
      have := n.span_start_le
      omega

/-- A merge that goes well keeps the normal form, unless the fragment overruns. -/
theorem FragsNormal.merge (h : FragsNormal frags) (hbound : bound < 0x8000)
    (hfrags : ∀ e ∈ frags, e.span.stop ≤ bound) (hlen : 0 < len.toNat)
    (hstop : (newSpan off len).stop ≤ bound)
    (hno : identical = true → ¬ Overruns frags off len)
    (hok : (mergeFragEntries frags free off len identical).1 = true) :
    FragsNormal (mergeFragEntries frags free off len identical).2.1 := by
  by_cases hoff : off = 0
  · subst hoff
    simp only [mergeFragEntries, if_true]
    cases frags with
    | nil => exact absurd h.first (by simp)
    | cons first rest =>
      obtain ⟨hfirst, hrest⟩ := List.forall_mem_cons.mp hfrags
      have hstart : first.span.start = 0 := Option.some.inj h.first
      have h' : FragsNormal ([] ++ first :: rest) := h
      dsimp only
      rcases first.concatenate_cases 0 len identical (by omega) (by omega)
        with ⟨hcmp, f', hc, hspan⟩ | ⟨hcmp, hc⟩ | ⟨hcmp, hlo, hhi, hid, hc⟩ | ⟨hcmp, hnot, hc⟩
      · simp only [hc]
        simp only [newSpan, UInt16.toNat_zero] at hstop
        simp only [FragEntry.span_start, FragEntry.span_stop, UInt16.toNat_zero] at hcmp hspan hstart
        have hhull : min first.offset.toNat 0 = 0 ∧
            max (first.offset.toNat + first.size.toNat) (0 + len.toNat) = len.toNat ∧
            first.size.toNat = 0 := by omega
        rw [hhull.1, hhull.2.1] at hspan
        refine h'.concatenateWithNext hbound (by rw [hspan]; dsimp only; omega) hrest
          (by rw [hspan]; exact hstart.symm) (by rw [hspan]; exact hlen)
          fun n n' rest' hcons hn hid => ?_
        by_contra hle
        rw [hspan] at hn hle
        refine hno hid ⟨[], first, n, n', rest', by rw [hcons]; rfl, ?_, ?_, ?_⟩
        · rw [FragEntry.span_stop, hstart, hhull.2.2]
          rfl
        · simpa [newSpan] using hn
        · simpa [newSpan] using hle
      · simp only [hc]
        exact FragsNormal.singleton rfl
      · simp only [hc]
        refine h'.concatenateWithNext hbound hfirst hrest rfl (by omega) fun n n' rest hcons hn _ => ?_
        have hlt := h'.behind_lt n (by simp [hcons])
        have := n.span_start_le
        omega
      · simp only [hc]
        exact FragsNormal.singleton rfl
  · obtain ⟨before, f, behind, rfl, hf, hbehind, hmerge⟩ := h.split free hoff len identical
    rw [hmerge] at hok ⊢
    exact h.mergeAt hbound hfrags hlen hstop hf hbehind hno hok

/-! ## Fragments that do not overlap, or that are repeated -/

/-- A specification that ends before the next one, or where the next one starts. -/
theorem covered_concatenateWithNext (hbound : bound < 0x8000) (hf : f.span.stop ≤ bound)
    (hne : f.span.start < f.span.stop) (hbehind : ∀ e ∈ behind, e.span.stop ≤ bound)
    (hgap : ∀ e ∈ behind, f.span.stop ≤ e.span.start)
    (hnonempty : ∀ e ∈ behind, e.span.start < e.span.stop) (x : ℕ) :
    x ∈ covered (fragSpans (concatenateWithNext f behind free identical).1) ↔
      x ∈ f.span ∨ x ∈ covered (fragSpans behind) := by
  unfold concatenateWithNext
  cases behind with
  | nil => simp
  | cons n rest =>
    obtain ⟨hn, -⟩ := List.forall_mem_cons.mp hbehind
    obtain ⟨hngap, -⟩ := List.forall_mem_cons.mp hgap
    obtain ⟨hnne, -⟩ := List.forall_mem_cons.mp hnonempty
    rcases f.concatenate_cases n.offset n.size identical (by omega) (Nat.lt_of_le_of_lt hn hbound)
      with ⟨hcmp, f', hc, hspan⟩ | ⟨hcmp, hc⟩ | ⟨hcmp, hlo, hhi, hid, hc⟩ | ⟨hcmp, hnot, hc⟩
    · simp only [hc, fragSpans_cons, mem_covered_cons, hspan, Span.mem_def]
      simp only [FragEntry.span_start, FragEntry.span_stop] at *
      rw [← or_assoc]
      exact or_congr_left (by omega)
    · simp only [hc, fragSpans_cons, mem_covered_cons]
    · simp only [FragEntry.span_start, FragEntry.span_stop] at *
      omega
    · simp only [FragEntry.span_start, FragEntry.span_stop] at *
      omega

theorem concatenateWithNext_of_gap (hbound : bound < 0x8000) (hf : f.span.stop ≤ bound)
    (hbehind : ∀ e ∈ behind, e.span.stop ≤ bound) (hgap : ∀ e ∈ behind, f.span.stop < e.span.start) :
    concatenateWithNext f behind free identical = (f :: behind, free) := by
  unfold concatenateWithNext
  cases behind with
  | nil => rfl
  | cons n rest =>
    obtain ⟨hn, -⟩ := List.forall_mem_cons.mp hbehind
    obtain ⟨hngap, -⟩ := List.forall_mem_cons.mp hgap
    rcases f.concatenate_cases n.offset n.size identical (by omega) (Nat.lt_of_le_of_lt hn hbound)
      with ⟨hcmp, f', hc, hspan⟩ | ⟨hcmp, hc⟩ | ⟨hcmp, hlo, hhi, hid, hc⟩ | ⟨hcmp, hnot, hc⟩
    · simp only [FragEntry.span_start, FragEntry.span_stop] at *
      omega
    · simp only [hc]
    · simp only [FragEntry.span_start, FragEntry.span_stop] at *
      omega
    · simp only [FragEntry.span_start, FragEntry.span_stop] at *
      omega

/-- A fragment that is contained in one specification with the same content changes nothing. -/
theorem FragEntry.concatenate_of_contained (hbound : bound < 0x8000) (hf : f.span.stop ≤ bound)
    (hlen : 0 < len.toNat) (hlo : f.span.start ≤ off.toNat)
    (hhi : off.toNat + len.toNat ≤ f.span.stop) :
    f.concatenate off len true = (f, .merged) := by
  have hnew : (newSpan off len).stop = off.toNat + len.toNat := rfl
  rcases f.concatenate_cases off len true (by omega) (by omega)
      with ⟨hcmp, f', hc, hspan⟩ | ⟨hcmp, hc⟩ | ⟨hcmp, -, -, -, hc⟩ | ⟨hcmp, hnot, hc⟩
  · simp only [FragEntry.span_start, FragEntry.span_stop] at *
    omega
  · simp only [FragEntry.span_start, FragEntry.span_stop] at *
    omega
  · exact hc
  · exact absurd ⟨hlo, hhi, rfl⟩ hnot

/-- A fragment behind a specification, with a gap between them. -/
theorem FragEntry.concatenate_of_gap (hbound : bound < 0x8000) (hf : f.span.stop < off.toNat)
    (hstop : (newSpan off len).stop ≤ bound) :
    f.concatenate off len identical = (f, .disjoint) := by
  have hnew : (newSpan off len).stop = off.toNat + len.toNat := rfl
  rcases f.concatenate_cases off len identical (by omega) (by omega)
      with ⟨hcmp, f', hc, hspan⟩ | ⟨hcmp, hc⟩ | ⟨hcmp, hlo, hhi, hid, hc⟩ | ⟨hcmp, hnot, hc⟩
  · simp only [FragEntry.span_start, FragEntry.span_stop] at *
    omega
  · exact hc
  · simp only [FragEntry.span_start, FragEntry.span_stop] at *
    omega
  · simp only [FragEntry.span_start, FragEntry.span_stop] at *
    omega

/-- A fragment that was recorded before changes nothing. -/
theorem FragsNormal.merge_repeated (h : FragsNormal frags) (hbound : bound < 0x8000)
    (hfrags : ∀ e ∈ frags, e.span.stop ≤ bound) (hlen : 0 < len.toNat)
    (hsub : ∀ n ∈ newSpan off len, n ∈ covered (fragSpans frags)) (free : List FragSpecPtr) :
    mergeFragEntries frags free off len true = (true, frags, free) := by
  have hwf : ∀ s ∈ fragSpans frags, s.start ≤ s.stop :=
    forall_mem_fragSpans.mpr fun f _ => f.span_start_le
  obtain ⟨s, hs, hlo, hhi⟩ := h.apart.exists_of_subset hwf (t := newSpan off len)
    (Nat.lt_add_of_pos_right hlen) hsub
  obtain ⟨f₀, hf₀, rfl⟩ := List.mem_map.mp hs
  have hlo' : f₀.span.start ≤ off.toNat := hlo
  have hhi' : off.toNat + len.toNat ≤ f₀.span.stop := hhi
  by_cases hoff : off = 0
  · subst hoff
    cases frags with
    | nil => cases hf₀
    | cons first rest =>
      have h' : FragsNormal ([] ++ first :: rest) := h
      obtain ⟨hfirst, hrest⟩ := List.forall_mem_cons.mp hfrags
      obtain rfl : f₀ = first := by
        rcases List.mem_cons.mp hf₀ with rfl | hmem
        · rfl
        · have := h'.behind_lt f₀ hmem
          simp only [UInt16.toNat_zero] at hlo'
          omega
      simp only [mergeFragEntries, if_true,
        FragEntry.concatenate_of_contained hbound hfirst hlen hlo' hhi',
        concatenateWithNext_of_gap hbound hfirst hrest h'.behind_lt]
  · obtain ⟨before, f, behind, rfl, hf, hbehind, hmerge⟩ := h.split free hoff len true
    have hgap := h.behind_lt
    have hfle : f.span.stop ≤ bound := hfrags f (by simp)
    have hbehindle : ∀ e ∈ behind, e.span.stop ≤ bound := fun e he => hfrags e (by simp [he])
    rw [hmerge, Whip6.mergeAt]
    rw [List.mem_append, List.mem_cons] at hf₀
    rcases hf₀ with hmem | rfl | hmem
    · have hbefore : f₀.span.stop < f.span.start := by
        have hapart := h.apart
        rw [fragSpans_append, fragSpans_cons, apart_append] at hapart
        exact hapart.2.2 _ (span_mem_fragSpans hmem) _ List.mem_cons_self
      omega
    · simp only [FragEntry.concatenate_of_contained hbound hfle hlen hlo' hhi',
        concatenateWithNext_of_gap hbound hfle hbehindle hgap]
    · -- The fragment that contains the new one is the first of those behind it.
      have hf₀lt := hgap f₀ hmem
      have hf₀off := hbehind f₀ hmem
      cases behind with
      | nil => cases hmem
      | cons n rest =>
        obtain rfl : f₀ = n := by
          rcases List.mem_cons.mp hmem with rfl | hmem
          · rfl
          · have hapart := h.behind_apart
            rw [fragSpans_cons, apart_cons] at hapart
            have hn := forall_mem_fragSpans.mp hapart.1 f₀ hmem
            have hn' := hbehind n List.mem_cons_self
            have hne := h.behind_nonempty n List.mem_cons_self
            omega
        have hdisj : f.concatenate off len true = (f, .disjoint) :=
          FragEntry.concatenate_of_gap hbound (by omega)
            (Nat.le_trans hhi (hbehindle f₀ List.mem_cons_self))
        simp only [hdisj, Whip6.mergeBehind, FragEntry.concatenate_of_contained hbound
          (hbehindle f₀ List.mem_cons_self) hlen hlo' hhi']

/-- A fragment that ends before the specifications behind it, or where the first of them starts. -/
theorem mergeBehind_disjoint (free : List FragSpecPtr) (identical : Bool) (hbound : bound < 0x8000)
    (hbehind : ∀ e ∈ behind, e.span.stop ≤ bound) (hlen : 0 < len.toNat)
    (hstop : (newSpan off len).stop ≤ bound)
    (hgap : ∀ e ∈ behind, off.toNat + len.toNat ≤ e.span.start)
    (hnonempty : ∀ e ∈ behind, e.span.start < e.span.stop) (hapart : Apart (fragSpans behind)) :
    (((∀ e ∈ behind, off.toNat + len.toNat < e.span.start) → free ≠ []) →
      (mergeBehind behind free off len identical).1 = true) ∧
    ((mergeBehind behind free off len identical).1 = true →
      ∀ x, x ∈ covered (fragSpans (mergeBehind behind free off len identical).2.1) ↔
        x ∈ covered (fragSpans behind) ∨ x ∈ newSpan off len) := by
  have hinsert : ∀ behind', (free ≠ [] → (insertFragEntry behind' free off len).1 = true) ∧
      ((insertFragEntry behind' free off len).1 = true →
        ∀ x, x ∈ covered (fragSpans (insertFragEntry behind' free off len).2.1) ↔
          x ∈ covered (fragSpans behind') ∨ x ∈ newSpan off len) := by
    intro behind'
    cases free with
    | nil => exact ⟨fun hne => absurd rfl hne, fun hok => absurd hok Bool.false_ne_true⟩
    | cons i free =>
      refine ⟨fun _ => rfl, fun _ x => ?_⟩
      rw [insertFragEntry, fragSpans_cons, mem_covered_cons, or_comm]
      rfl
  have hnew : (newSpan off len).stop = off.toNat + len.toNat := rfl
  unfold mergeBehind
  cases behind with
  | nil => exact (hinsert []).imp_left fun hok hfree => hok (hfree (by simp))
  | cons n rest =>
    obtain ⟨hn, -⟩ := List.forall_mem_cons.mp hbehind
    obtain ⟨hngap, -⟩ := List.forall_mem_cons.mp hgap
    obtain ⟨hnne, -⟩ := List.forall_mem_cons.mp hnonempty
    rw [fragSpans_cons, apart_cons] at hapart
    have hnrest : ∀ e ∈ rest, n.span.stop < e.span.start := forall_mem_fragSpans.mp hapart.1
    rcases n.concatenate_cases off len identical (by omega) (by omega)
        with ⟨hcmp, n', hc, hspan⟩ | ⟨hcmp, hc⟩ | ⟨hcmp, hlo, hhi, hid, hc⟩ | ⟨hcmp, hnot, hc⟩
    · simp only [hc]
      refine ⟨fun _ => trivial, fun _ x => ?_⟩
      have hx : x ∈ n'.span ↔ x ∈ n.span ∨ x ∈ newSpan off len := by
        simp only [hspan, Span.mem_def, newSpan]
        simp only [FragEntry.span_start, FragEntry.span_stop] at *
        omega
      rw [fragSpans_cons, mem_covered_cons, hx, fragSpans_cons, mem_covered_cons]
      tauto
    · simp only [hc]
      refine (hinsert _).imp_left fun hok hfree =>
        hok (hfree (List.forall_mem_cons.mpr ⟨?_, fun e he => ?_⟩))
      · simp only [FragEntry.span_start, FragEntry.span_stop] at *
        omega
      · have := hnrest e he
        omega
    all_goals
      simp only [FragEntry.span_start, FragEntry.span_stop] at *
      omega

variable (free identical) in
/-- A fragment that overlaps with nothing can be merged if it adjoins something or a specification is
free, and then it is recorded. -/
theorem FragsNormal.merge_disjoint (h : FragsNormal frags) (hbound : bound < 0x8000)
    (hfrags : ∀ e ∈ frags, e.span.stop ≤ bound) (hlen : 0 < len.toNat)
    (hstop : (newSpan off len).stop ≤ bound)
    (hdisj : ∀ n ∈ newSpan off len, n ∉ covered (fragSpans frags)) :
    ((off ≠ 0 → off.toNat - 1 ∉ covered (fragSpans frags) →
      off.toNat + len.toNat ∉ covered (fragSpans frags) → free ≠ []) →
      (mergeFragEntries frags free off len identical).1 = true) ∧
    ((mergeFragEntries frags free off len identical).1 = true →
      ∀ x, x ∈ covered (fragSpans (mergeFragEntries frags free off len identical).2.1) ↔
        x ∈ covered (fragSpans frags) ∨ x ∈ newSpan off len) := by
  have hnew : (newSpan off len).stop = off.toNat + len.toNat := rfl
  by_cases hoff : off = 0
  · subst hoff
    cases frags with
    | nil => exact absurd h.first (by simp)
    | cons first rest =>
      have h' : FragsNormal ([] ++ first :: rest) := h
      have hstart : first.span.start = 0 := Option.some.inj h.first
      obtain ⟨hfirst, hrest⟩ := List.forall_mem_cons.mp hfrags
      have hsize : first.span.stop = 0 := by
        by_contra hpos
        refine hdisj 0 ⟨Nat.le_refl _, by simpa [newSpan] using hlen⟩ ?_
        rw [fragSpans_cons, mem_covered_cons]
        exact Or.inl ⟨by omega, by omega⟩
      have hgap : ∀ e ∈ rest, len.toNat ≤ e.span.start := fun e he => by
        by_contra hlt
        have hne := h'.behind_nonempty e he
        refine hdisj e.span.start ⟨Nat.zero_le _, by simpa [newSpan] using hlt⟩ ?_
        exact ⟨e.span, span_mem_fragSpans (List.mem_cons_of_mem _ he), Nat.le_refl _, hne⟩
      simp only [mergeFragEntries, if_true]
      rcases first.concatenate_cases 0 len identical (by omega) (by omega)
        with ⟨hcmp, f', hc, hspan⟩ | ⟨hcmp, hc⟩ | ⟨hcmp, hlo, hhi, hid, hc⟩ | ⟨hcmp, hnot, hc⟩
      · have hspan' : f'.span = newSpan 0 len := by
          rw [hspan, hstart, hsize]
          simp [newSpan]
        have hstop' : f'.span.stop = len.toNat := by simp [hspan', newSpan]
        simp only [hc]
        refine ⟨fun _ => trivial, fun _ x => ?_⟩
        rw [covered_concatenateWithNext hbound (by rw [hspan']; exact hstop)
          (by rw [hspan']; simpa [newSpan] using hlen) hrest (by rw [hstop']; exact hgap)
          h'.behind_nonempty, hspan', fragSpans_cons, mem_covered_cons]
        have hempty : x ∉ first.span := fun hx => by
          have := hx.2
          omega
        tauto
      all_goals
        simp only [FragEntry.span_start, FragEntry.span_stop, UInt16.toNat_zero] at *
        omega
  · obtain ⟨before, f, behind, rfl, hf, hbehind, hmerge⟩ := h.split free hoff len identical
    have hfle : f.span.stop ≤ bound := hfrags f (by simp)
    have hbehindle : ∀ e ∈ behind, e.span.stop ≤ bound := fun e he => hfrags e (by simp [he])
    have hfoff : f.span.stop ≤ off.toNat := by
      by_contra hlt
      refine hdisj off.toNat ⟨Nat.le_refl _, Nat.lt_add_of_pos_right hlen⟩ ?_
      exact ⟨f.span, span_mem_fragSpans (by simp), Nat.le_of_lt hf, by omega⟩
    have hgap : ∀ e ∈ behind, off.toNat + len.toNat ≤ e.span.start := fun e he => by
      by_contra hlt
      have hne := h.behind_nonempty e he
      refine hdisj e.span.start ⟨hbehind e he, by rw [hnew]; omega⟩ ?_
      exact ⟨e.span, span_mem_fragSpans (by simp [he]), Nat.le_refl _, hne⟩
    rw [hmerge, Whip6.mergeAt]
    rcases f.concatenate_cases off len identical (by omega) (by omega)
        with ⟨hcmp, f', hc, hspan⟩ | ⟨hcmp, hc⟩ | ⟨hcmp, hlo, hhi, hid, hc⟩ | ⟨hcmp, hnot, hc⟩
    · simp only [newSpan] at hstop
      have hhull : f'.span.start = f.span.start ∧ f'.span.stop = off.toNat + len.toNat ∧
          off.toNat = f.span.stop := by
        rw [hspan]
        simp only [FragEntry.span_start, FragEntry.span_stop] at *
        omega
      simp only [hc]
      refine ⟨fun _ => trivial, fun _ x => ?_⟩
      rw [fragSpans_append, mem_covered_append, covered_concatenateWithNext hbound
        (by rw [hhull.2.1]; exact hstop) (by rw [hhull.1, hhull.2.1]; omega) hbehindle
        (by rw [hhull.2.1]; exact hgap) h.behind_nonempty, fragSpans_append, fragSpans_cons,
        mem_covered_append, mem_covered_cons]
      have hx : x ∈ f'.span ↔ x ∈ f.span ∨ x ∈ newSpan off len := by
        simp only [Span.mem_def, hhull.1, hhull.2.1, newSpan]
        omega
      rw [hx]
      tauto
    · have hflt : f.span.stop < off.toNat := by
        simp only [FragEntry.span_start, FragEntry.span_stop] at *
        omega
      have hbefore : ∀ e ∈ before, e.span.stop < f.span.start := fun e he => by
        have hapart := h.apart
        rw [fragSpans_append, fragSpans_cons, apart_append] at hapart
        exact hapart.2.2 _ (span_mem_fragSpans he) _ List.mem_cons_self
      have hfle' := f.span_start_le
      obtain ⟨hok, hcov⟩ := mergeBehind_disjoint free identical hbound
        hbehindle hlen hstop hgap h.behind_nonempty h.behind_apart
      simp only [hc]
      refine ⟨fun hfree => hok fun hall => ?_, fun htrue x => ?_⟩
      · refine hfree hoff ?_ ?_
        all_goals
          rintro ⟨s, hs, hlo, hhi⟩
          obtain ⟨e, he, rfl⟩ := List.mem_map.mp hs
          rw [List.mem_append, List.mem_cons] at he
          rcases he with he | rfl | he
          · have := hbefore e he
            omega
          · omega
          · have := hall e he
            omega
      rw [fragSpans_append, fragSpans_cons, mem_covered_append, mem_covered_cons, hcov htrue,
        fragSpans_append, fragSpans_cons, mem_covered_append, mem_covered_cons]
      tauto
    all_goals
      simp only [FragEntry.span_start, FragEntry.span_stop] at *
      omega

end Normal

end Whip6
