import Whip6.Lowpan.DefragmenterLists

/-!
# Fragment specifications in memory

The list of the fragment specifications of a packet and the free list, as they stand in memory
(`FragMem`).  Destroying the specifications of a packet, searching for the place of a new fragment
and merging it do to the memory what the same operations on lists do, and change nothing but these
specifications.
-/

namespace Whip6

open Lib

namespace LowpanDefragGlobalState

/-! ## Reading and writing specifications -/

section Access

variable (state : LowpanDefragGlobalState) (f g : FragSpecPtr)

@[simp] theorem nextFragSpec_setFragSpec (spec : LowpanDefragFragSpec) :
    (state.setFragSpec f spec).nextFragSpec = Function.update state.nextFragSpec f spec.next := by
  funext g
  simp only [nextFragSpec, setFragSpec, Function.update_apply]
  split_ifs <;> rfl

@[simp] theorem nextFragSpec_setNextFragSpec (next : Option FragSpecPtr) :
    (state.setNextFragSpec f next).nextFragSpec = Function.update state.nextFragSpec f next :=
  state.nextFragSpec_setFragSpec f _

/-- A specification holds a fragment. -/
def Holds (e : FragEntry) : Prop :=
  (state.fragSpecs e.ptr).offset = e.offset ∧ (state.fragSpecs e.ptr).size = e.size

variable {state f}

theorem holds_setNextFragSpec {next : Option FragSpecPtr} {e : FragEntry} :
    (state.setNextFragSpec f next).Holds e ↔ state.Holds e := by
  simp only [Holds, setNextFragSpec, setFragSpec, Function.update_apply]
  split_ifs with h
  · rw [h]
  · rfl

theorem holds_setFragSpec {spec : LowpanDefragFragSpec} {e : FragEntry} (hne : e.ptr ≠ f) :
    (state.setFragSpec f spec).Holds e ↔ state.Holds e := by
  simp only [Holds, setFragSpec, Function.update_of_ne hne]

theorem holds_setFragSpec_self {off size : UInt16} {next : Option FragSpecPtr} :
    (state.setFragSpec f ⟨off, size, next⟩).Holds ⟨f, off, size⟩ := by
  simp only [Holds, setFragSpec, Function.update_self, and_self]

end Access

/-! ## The specifications of a packet and the free list -/

/-- Two states differ in the given specifications and in the head of their free list alone. -/
structure OnlyFragSpecs (state state' : LowpanDefragGlobalState) (ptrs : List FragSpecPtr) :
    Prop where
  currentPackets : state'.currentPackets = state.currentPackets
  lockedPackets : state'.lockedPackets = state.lockedPackets
  freePackets : state'.freePackets = state.freePackets
  packets : state'.packets = state.packets
  numPackets : state'.numPackets = state.numPackets
  numFragSpecs : state'.numFragSpecs = state.numFragSpecs
  ipv6 : state'.ipv6 = state.ipv6
  fragSpecs : ∀ f ∉ ptrs, state'.fragSpecs f = state.fragSpecs f

namespace OnlyFragSpecs

variable {state state' : LowpanDefragGlobalState} {ptrs : List FragSpecPtr} {f : FragSpecPtr}

theorem refl (state : LowpanDefragGlobalState) (ptrs : List FragSpecPtr) :
    state.OnlyFragSpecs state ptrs :=
  ⟨rfl, rfl, rfl, rfl, rfl, rfl, rfl, fun _ _ => rfl⟩

theorem setFragSpec (h : state.OnlyFragSpecs state' ptrs) (hf : f ∈ ptrs)
    (spec : LowpanDefragFragSpec) : state.OnlyFragSpecs (state'.setFragSpec f spec) ptrs :=
  { h with
    fragSpecs := fun g hg =>
      (Function.update_of_ne (ne_of_mem_of_not_mem hf hg).symm _ _).trans (h.fragSpecs g hg) }

theorem setFree (h : state.OnlyFragSpecs state' ptrs) (head : Option FragSpecPtr) :
    state.OnlyFragSpecs { state' with freeAdditionalFragSpecs := head } ptrs :=
  { h with }

end OnlyFragSpecs

/-- The specifications of a packet and the free list, as an operation on them, started in `state₀`,
has them in memory.  All of `ptrs` are in one of the two lists. -/
structure FragMem (state₀ state : LowpanDefragGlobalState) (p : ℕ) (ptrs : List FragSpecPtr)
    (frags : List FragEntry) (free : List FragSpecPtr) : Prop where
  chain : Seg state.nextFragSpec (some (.first p)) (frags.map FragEntry.ptr) none
  holds : ∀ e ∈ frags, state.Holds e
  freeList : Seg state.nextFragSpec state.freeAdditionalFragSpecs free none
  perm : (frags.map FragEntry.ptr ++ free).Perm ptrs
  nodup : ptrs.Nodup
  fuel : ptrs.length ≤ state₀.numFragSpecs + 1
  only : state₀.OnlyFragSpecs state ptrs

namespace FragMem

variable {state₀ state : LowpanDefragGlobalState} {p : ℕ} {ptrs : List FragSpecPtr}
  {frags before behind : List FragEntry} {f n : FragEntry} {i : FragSpecPtr}
  {free : List FragSpecPtr}

theorem ptrs_nodup (h : FragMem state₀ state p ptrs frags free) :
    (frags.map FragEntry.ptr ++ free).Nodup :=
  h.perm.nodup_iff.mpr h.nodup

theorem length_le (h : FragMem state₀ state p ptrs frags free) :
    frags.length + free.length ≤ state.numFragSpecs + 1 := by
  have hlen := h.perm.length_eq
  rw [List.length_append, List.length_map] at hlen
  rw [h.only.numFragSpecs, hlen]
  exact h.fuel

theorem mem_ptrs (h : FragMem state₀ state p ptrs frags free) (hf : f ∈ frags) : f.ptr ∈ ptrs :=
  h.perm.subset (List.mem_append_left _ (List.mem_map_of_mem hf))

theorem mem_ptrs_of_free (h : FragMem state₀ state p ptrs frags free) (hi : i ∈ free) : i ∈ ptrs :=
  h.perm.subset (List.mem_append_right _ hi)

/-- Different specifications have different addresses. -/
theorem ptr_ne (h : FragMem state₀ state p ptrs (before ++ f :: behind) free) {e : FragEntry}
    (he : e ∈ before ++ behind) : e.ptr ≠ f.ptr := by
  have hnodup := (List.nodup_append.mp h.ptrs_nodup).1
  rw [List.map_append, List.map_cons, List.nodup_middle, ← List.map_append] at hnodup
  exact ne_of_mem_of_not_mem (List.mem_map_of_mem he) (List.nodup_cons.mp hnodup).1

theorem notMem_free (h : FragMem state₀ state p ptrs frags free) (hf : f ∈ frags) :
    f.ptr ∉ free := fun hmem =>
  (List.nodup_append.mp h.ptrs_nodup).2.2 _ (List.mem_map_of_mem hf) _ hmem rfl

theorem next_eq_none (h : FragMem state₀ state p ptrs (before ++ [f]) free) :
    state.nextFragSpec f.ptr = none := by
  have hchain := h.chain
  rw [List.map_append, List.map_singleton, seg_concat] at hchain
  exact hchain.2

theorem next_eq_some (h : FragMem state₀ state p ptrs (before ++ f :: n :: behind) free) :
    state.nextFragSpec f.ptr = some n.ptr := by
  have hchain := h.chain
  rw [List.map_append, List.map_cons, List.map_cons] at hchain
  exact hchain.behind.1

/-- Another fragment in a specification. -/
theorem setFrag (h : FragMem state₀ state p ptrs (before ++ f :: behind) free)
    (off size : UInt16) :
    FragMem state₀
      (state.setFragSpec f.ptr { state.fragSpecs f.ptr with offset := off, size := size }) p ptrs
      (before ++ { f with offset := off, size := size } :: behind) free := by
  have hnext : (state.setFragSpec f.ptr
      { state.fragSpecs f.ptr with offset := off, size := size }).nextFragSpec =
      state.nextFragSpec := by
    rw [nextFragSpec_setFragSpec]
    exact Function.update_eq_self f.ptr state.nextFragSpec
  have hptrs : (before ++ { f with offset := off, size := size } :: behind).map FragEntry.ptr =
      (before ++ f :: behind).map FragEntry.ptr := by
    simp
  refine ⟨?_, ?_, ?_, ?_, h.nodup, h.fuel, h.only.setFragSpec (h.mem_ptrs (by simp)) _⟩
  · rw [hnext, hptrs]
    exact h.chain
  · intro e he
    rw [List.mem_append, List.mem_cons] at he
    rcases he with he | rfl | he
    · exact (holds_setFragSpec (h.ptr_ne (List.mem_append_left _ he))).mpr (h.holds e (by simp [he]))
    · exact holds_setFragSpec_self
    · exact (holds_setFragSpec (h.ptr_ne (List.mem_append_right _ he))).mpr (h.holds e (by simp [he]))
  · rw [hnext]
    exact h.freeList
  · rw [hptrs]
    exact h.perm

theorem concatenate (h : FragMem state₀ state p ptrs (before ++ f :: behind) free)
    (off len : UInt16) (identical : Bool) :
    let r := state.concatenate f.ptr off len identical
    let c := f.concatenate off len identical
    r.2 = c.2 ∧ FragMem state₀ r.1 p ptrs (before ++ c.1 :: behind) free := by
  obtain ⟨hoff, hsize⟩ := h.holds f (by simp)
  simp only [LowpanDefragGlobalState.concatenate, FragEntry.concatenate, hoff, hsize, true_and]
  exact h.setFrag _ _

/-- The specifications behind a given one become free. -/
theorem dropAfter (h : FragMem state₀ state p ptrs (before ++ f :: n :: behind) free) :
    FragMem state₀ (state.dropFragSpecsAfter f.ptr n.ptr) p ptrs (before ++ [f])
      ((n :: behind).map FragEntry.ptr ++ free) := by
  obtain ⟨front, last, hlast⟩ : ∃ front last, (n :: behind).map FragEntry.ptr = front ++ [last] :=
    ⟨_, _, (List.dropLast_append_getLast (by simp)).symm⟩
  have hnodup := h.ptrs_nodup
  have hchain := h.chain
  rw [List.map_append, List.map_cons, hlast] at hchain hnodup
  have hnext : state.nextFragSpec f.ptr = some n.ptr := h.next_eq_some
  have hbehind : Seg state.nextFragSpec (some n.ptr) (front ++ [last]) none :=
    hnext ▸ hchain.behind
  have hfind : lastFrom state.nextFragSpec state.numFragSpecs n.ptr = last := by
    refine lastFrom_eq hbehind ?_
    have hlen := congrArg List.length hlast
    have hle := h.length_le
    simp only [List.length_map, List.length_cons, List.length_append, List.length_nil] at hlen hle
    omega
  obtain ⟨hlist, -, hdisj⟩ := List.nodup_append.mp hnodup
  obtain ⟨-, hrest, hbefore⟩ := List.nodup_append.mp hlist
  obtain ⟨hf, hrest⟩ := List.nodup_cons.mp hrest
  have hlastmem : last ∈ front ++ [last] := by simp
  have hne : f.ptr ≠ last := (ne_of_mem_of_not_mem hlastmem hf).symm
  have hstate : state.dropFragSpecsAfter f.ptr n.ptr =
      { (state.setNextFragSpec last state.freeAdditionalFragSpecs) with
        freeAdditionalFragSpecs := some n.ptr }.setNextFragSpec f.ptr none := by
    simp only [dropFragSpecsAfter, hfind, nextFragSpec_setNextFragSpec,
      Function.update_of_ne hne, hnext]
  have hnext' : (state.dropFragSpecsAfter f.ptr n.ptr).nextFragSpec =
      Function.update (Function.update state.nextFragSpec last state.freeAdditionalFragSpecs)
        f.ptr none := by
    rw [hstate, nextFragSpec_setNextFragSpec]
    exact congrArg (Function.update · _ _) (nextFragSpec_setNextFragSpec state last _)
  have hf' : f.ptr ∉ before.map FragEntry.ptr := fun hmem =>
    hbefore _ hmem _ List.mem_cons_self rfl
  have hlast' : last ∉ before.map FragEntry.ptr ++ [f.ptr] := by
    intro hmem
    rcases List.mem_append.mp hmem with hmem | hmem
    · exact hbefore _ hmem _ (List.mem_cons_of_mem _ hlastmem) rfl
    · exact hne (List.mem_singleton.mp hmem).symm
  refine ⟨?_, ?_, ?_, ?_, h.nodup, h.fuel, ?_⟩
  · rw [hnext', List.map_append, List.map_singleton]
    rw [← List.singleton_append, ← List.append_assoc] at hchain
    obtain ⟨m, hseg, -⟩ := seg_append.mp hchain
    exact (hseg.update_of_notMem hlast' _).setLink hf' none
  · intro e he
    rw [hstate, holds_setNextFragSpec]
    refine (holds_setNextFragSpec (f := last)).mpr (h.holds e ?_)
    rw [List.mem_append, List.mem_singleton] at he
    simp only [List.mem_append, List.mem_cons]
    tauto
  · rw [hnext', hstate, hlast]
    have hfront : last ∉ front := fun hmem =>
      (List.nodup_append.mp hrest).2.2 _ hmem _ (List.mem_singleton_self _) rfl
    have hfree : last ∉ free := fun hmem =>
      hdisj _ (List.mem_append_right _ (List.mem_cons_of_mem _ hlastmem)) _ hmem rfl
    refine Seg.update_of_notMem
      ((hbehind.setLink hfront _).trans (h.freeList.update_of_notMem hfree _)) ?_ none
    rw [List.mem_append]
    rintro (hmem | hmem)
    · exact hf hmem
    · exact h.notMem_free (by simp) hmem
  · refine List.Perm.trans ?_ h.perm
    rw [List.perm_iff_count]
    intro x
    simp only [List.map_append, List.map_cons, List.map_nil, List.count_append, List.count_cons,
      List.count_nil]
    omega
  · rw [hstate]
    have hmem : last ∈ (before ++ f :: n :: behind).map FragEntry.ptr := by
      rw [List.map_append, List.map_cons, hlast]
      simp
    obtain ⟨e, he, rfl⟩ := List.mem_map.mp hmem
    exact ((h.only.setFragSpec (h.mem_ptrs he) _).setFree _).setFragSpec
      (h.mem_ptrs (f := f) (by simp)) _

/-- A specification from the free list is put behind a given one. -/
theorem insertAfter (h : FragMem state₀ state p ptrs (before ++ f :: behind) free)
    (off len : UInt16) :
    let r := state.insertFragSpecAfter f.ptr off len
    let m := insertFragEntry behind free off len
    r.1 = m.1 ∧ FragMem state₀ r.2 p ptrs (before ++ f :: m.2.1) m.2.2 := by
  have hfreeList := h.freeList
  cases free with
  | nil =>
    have hhead : state.freeAdditionalFragSpecs = none := hfreeList
    simp only [insertFragSpecAfter, insertFragEntry, hhead, true_and]
    exact h
  | cons i free =>
    obtain ⟨hhead, hrest⟩ := hfreeList
    have hi : ∀ e ∈ before ++ f :: behind, e.ptr ≠ i := fun e he heq =>
      h.notMem_free he (heq ▸ List.mem_cons_self)
    have hiptr : i ∉ (before ++ f :: behind).map FragEntry.ptr := by
      intro hmem
      obtain ⟨e, he, heq⟩ := List.mem_map.mp hmem
      exact hi e he heq
    obtain ⟨hnodup, hfreenodup, -⟩ := List.nodup_append.mp h.ptrs_nodup
    have hf : f.ptr ∉ free := fun hmem =>
      h.notMem_free (by simp) (List.mem_cons_of_mem _ hmem)
    have hnext : (state.insertFragSpecAfter f.ptr off len).2.nextFragSpec =
        Function.update (Function.update state.nextFragSpec i (state.nextFragSpec f.ptr)) f.ptr
          (some i) := by
      simp only [insertFragSpecAfter, hhead, nextFragSpec_setNextFragSpec, nextFragSpec_setFragSpec]
      rfl
    have hstate : (state.insertFragSpecAfter f.ptr off len).2 =
        ({ state with freeAdditionalFragSpecs := state.nextFragSpec i }.setFragSpec i
          ⟨off, len, state.nextFragSpec f.ptr⟩).setNextFragSpec f.ptr (some i) := by
      simp only [insertFragSpecAfter, hhead]
      rfl
    refine ⟨?_, ?_, ?_, ?_, ?_, h.nodup, h.fuel, ?_⟩
    · simp only [insertFragSpecAfter, insertFragEntry, hhead]
    · have hchain := h.chain
      rw [List.map_append, List.map_cons] at hchain hnodup hiptr
      simp only [insertFragEntry, hnext, List.map_append, List.map_cons]
      exact hchain.insert hnodup hiptr
    · intro e he
      simp only [insertFragEntry, List.mem_append, List.mem_cons] at he
      rw [hstate, holds_setNextFragSpec]
      rcases he with he | rfl | rfl | he
      · exact (holds_setFragSpec (hi e (by simp [he]))).mpr (h.holds e (by simp [he]))
      · exact (holds_setFragSpec (hi e (by simp))).mpr (h.holds e (by simp))
      · exact holds_setFragSpec_self
      · exact (holds_setFragSpec (hi e (by simp [he]))).mpr (h.holds e (by simp [he]))
    · rw [hnext, hstate]
      exact (hrest.update_of_notMem (List.nodup_cons.mp hfreenodup).1 _).update_of_notMem hf _
    · refine List.Perm.trans ?_ h.perm
      rw [List.perm_iff_count]
      intro x
      simp only [insertFragEntry, List.map_append, List.map_cons, List.count_append,
        List.count_cons]
      omega
    · rw [hstate]
      exact ((h.only.setFree _).setFragSpec (h.mem_ptrs_of_free List.mem_cons_self) _).setFragSpec
        (h.mem_ptrs (f := f) (by simp)) _

/-- The specification behind a given one becomes free. -/
theorem removeNext (h : FragMem state₀ state p ptrs (before ++ f :: n :: behind) free) :
    FragMem state₀
      { (state.setNextFragSpec f.ptr (state.nextFragSpec n.ptr)).setNextFragSpec n.ptr
          state.freeAdditionalFragSpecs with freeAdditionalFragSpecs := some n.ptr } p ptrs
      (before ++ f :: behind) (n.ptr :: free) := by
  have hchain := h.chain
  have hnodup := (List.nodup_append.mp h.ptrs_nodup).1
  rw [List.map_append, List.map_cons, List.map_cons] at hchain hnodup
  have hf : f.ptr ∉ free := h.notMem_free (by simp)
  have hn : n.ptr ∉ free := h.notMem_free (by simp)
  have hother : n.ptr ∉ before.map FragEntry.ptr ++ f.ptr :: behind.map FragEntry.ptr := by
    rw [← List.singleton_append, ← List.append_assoc, List.nodup_middle] at hnodup
    simpa using (List.nodup_cons.mp hnodup).1
  have hnext : ((state.setNextFragSpec f.ptr (state.nextFragSpec n.ptr)).setNextFragSpec n.ptr
        state.freeAdditionalFragSpecs).nextFragSpec =
      Function.update (Function.update state.nextFragSpec f.ptr (state.nextFragSpec n.ptr)) n.ptr
        state.freeAdditionalFragSpecs := by
    rw [nextFragSpec_setNextFragSpec, nextFragSpec_setNextFragSpec]
  refine ⟨?_, ?_, ?_, ?_, h.nodup, h.fuel, ?_⟩
  · rw [List.map_append, List.map_cons]
    exact hnext ▸ (hchain.unlink hnodup).update_of_notMem hother _
  · intro e he
    refine holds_setNextFragSpec.mpr (holds_setNextFragSpec.mpr (h.holds e ?_))
    simp only [List.mem_append, List.mem_cons] at he ⊢
    tauto
  · exact hnext ▸ (h.freeList.update_of_notMem hf _).push hn
  · refine List.Perm.trans ?_ h.perm
    rw [List.perm_iff_count]
    intro x
    simp only [List.map_append, List.map_cons, List.count_append, List.count_cons]
    omega
  · exact ((h.only.setFragSpec (h.mem_ptrs (f := f) (by simp)) _).setFragSpec
      (h.mem_ptrs (f := n) (by simp)) _).setFree _

/-- The first specification has nothing before it. -/
theorem atFirst (h : FragMem state₀ state p ptrs (f :: behind) free) :
    FragMem state₀ state p ptrs ([] ++ f :: behind) free := h

/-- The first specification is the one in the packet state. -/
theorem ptr_first (h : FragMem state₀ state p ptrs (f :: behind) free) : f.ptr = .first p :=
  (Option.some.inj h.chain.1).symm

/-- All additional specifications of the packet become free. -/
theorem destroyFragSpecs (h : FragMem state₀ state p ptrs (f :: behind) free) :
    FragMem state₀ (lowpanDefragmenterDestroyFragSpecsOfPacket state p) p ptrs [f]
      (behind.map FragEntry.ptr ++ free) := by
  rw [lowpanDefragmenterDestroyFragSpecsOfPacket, ← h.ptr_first]
  cases behind with
  | nil =>
    rw [h.atFirst.next_eq_none]
    exact h
  | cons n behind =>
    rw [h.atFirst.next_eq_some]
    exact h.atFirst.dropAfter

theorem concatenateWithNext (h : FragMem state₀ state p ptrs (before ++ f :: behind) free)
    (identical : Bool) :
    let m := Whip6.concatenateWithNext f behind free identical
    FragMem state₀ (lowpanDefragmenterTryToConcatenateFragSpecWithNextOnList state f.ptr identical)
      p ptrs (before ++ m.1) m.2 := by
  rw [lowpanDefragmenterTryToConcatenateFragSpecWithNextOnList]
  cases behind with
  | nil =>
    rw [h.next_eq_none]
    exact h
  | cons n behind =>
    obtain ⟨hoff, hsize⟩ := h.holds n (by simp)
    rw [h.next_eq_some]
    dsimp only [Whip6.concatenateWithNext]
    rw [hoff, hsize]
    obtain ⟨hans, hmem⟩ := h.concatenate n.offset n.size identical
    have hsame := f.concatenate_of_ne_merged n.offset n.size identical
    rw [hans]
    rcases hc : f.concatenate n.offset n.size identical with ⟨f', c⟩
    rw [hc] at hmem hsame
    dsimp only at hmem hsame
    cases c with
    | merged =>
      have hfree := hmem.removeNext
      rw [FragEntry.concatenate_eq hc] at hfree
      exact hfree
    | disjoint =>
      obtain rfl : f' = f := hsame (by simp)
      exact hmem
    | overlapping =>
      obtain rfl : f' = f := hsame (by simp)
      exact hmem.dropAfter

end FragMem

/-! ## Searching and merging -/

/-- The search for the place of a new fragment. -/
theorem findWhereLoop_eq {state : LowpanDefragGlobalState} {off : UInt16} {fuel : ℕ}
    {prev : Option FragSpecPtr} {curr : FragSpecPtr} {frags : List FragEntry}
    (hchain : Seg state.nextFragSpec (some curr) (frags.map FragEntry.ptr) none)
    (hholds : ∀ e ∈ frags, state.Holds e) (hfuel : frags.length ≤ fuel) :
    lowpanFindWhereLoop state off fuel prev curr =
      ((frags.takeWhile fun f => ¬ off ≤ f.offset).getLast?.map FragEntry.ptr).or prev := by
  induction frags generalizing fuel prev curr with
  | nil => exact absurd hchain (by simp)
  | cons f frags ih =>
    obtain ⟨hcurr, hrest⟩ := hchain
    obtain rfl : curr = f.ptr := Option.some.inj hcurr
    obtain ⟨fuel, rfl⟩ : ∃ n, fuel = n + 1 :=
      ⟨fuel - 1, by rw [List.length_cons] at hfuel; omega⟩
    rw [lowpanFindWhereLoop, (hholds f List.mem_cons_self).1, List.takeWhile_cons]
    by_cases hoff : off ≤ f.offset
    · simp only [hoff, if_true, not_true, decide_false, Bool.false_eq_true, if_false,
        List.getLast?_nil, Option.map_none, Option.none_or]
    · simp only [hoff, if_false, not_false_eq_true, decide_true, if_true, List.getLast?_cons]
      cases frags with
      | nil =>
        rw [show state.nextFragSpec f.ptr = none from hrest]
        rfl
      | cons n frags =>
        rw [hrest.1]
        refine (ih (hrest.1 ▸ hrest) (fun e he => hholds e (List.mem_cons_of_mem _ he))
          (by simpa using hfuel)).trans ?_
        cases ((n :: frags).takeWhile fun f => decide ¬ off ≤ f.offset).getLast? <;> rfl

namespace FragMem

variable {state₀ state : LowpanDefragGlobalState} {p : ℕ} {ptrs : List FragSpecPtr}
  {frags before behind : List FragEntry} {f n : FragEntry} {i : FragSpecPtr}
  {free : List FragSpecPtr}

theorem findWhere (h : FragMem state₀ state p ptrs frags free) (off : UInt16) :
    lowpanDefragmenterFindWhereNewFragSpecShouldBeInserted state p off =
      (frags.takeWhile fun f => ¬ off ≤ f.offset).getLast?.map FragEntry.ptr := by
  have hlen := h.length_le
  rw [lowpanDefragmenterFindWhereNewFragSpecShouldBeInserted,
    findWhereLoop_eq h.chain h.holds (by omega), Option.or_none]

theorem mergeBehind (h : FragMem state₀ state p ptrs (before ++ f :: behind) free)
    {off len : UInt16} {identical : Bool}
    (hdisj : f.concatenate off len identical = (f, .disjoint)) (hoff : off ≠ 0) :
    let r := lowpanDefragmenterMergeNewFragSpecIntoPacket state p (some f.ptr) off len identical
    let m := Whip6.mergeBehind behind free off len identical
    r.1 = m.1 ∧ FragMem state₀ r.2 p ptrs (before ++ f :: m.2.1) m.2.2 := by
  obtain ⟨hans, hmem⟩ := h.concatenate off len identical
  rw [hdisj] at hans hmem
  simp only [lowpanDefragmenterMergeNewFragSpecIntoPacket, if_neg hoff, hans]
  cases behind with
  | nil =>
    simp only [hmem.next_eq_none, Whip6.mergeBehind]
    exact hmem.insertAfter off len
  | cons n behind =>
    have hmem' : FragMem state₀ (state.concatenate f.ptr off len identical).1 p ptrs
        ((before ++ [f]) ++ n :: behind) free := by simpa using hmem
    obtain ⟨hans', hmem''⟩ := hmem'.concatenate off len identical
    have hsame := n.concatenate_of_ne_merged off len identical
    simp only [hmem.next_eq_some, Whip6.mergeBehind, hans']
    rcases hc : n.concatenate off len identical with ⟨n', c⟩
    rw [hc] at hmem'' hsame
    dsimp only at hmem'' hsame
    cases c with
    | merged => exact ⟨rfl, by simpa using hmem''⟩
    | disjoint =>
      obtain rfl : n' = n := hsame (by simp)
      refine FragMem.insertAfter ?_ off len
      simpa using hmem''
    | overlapping =>
      obtain rfl : n' = n := hsame (by simp)
      refine FragMem.insertAfter (FragMem.dropAfter ?_) off len
      simpa using hmem''

/-- All specifications are dropped, and a new fragment is put behind an empty first one. -/
theorem restart (h : FragMem state₀ state p ptrs (f :: behind) free) (off len : UInt16) :
    let state' := lowpanDefragmenterDestroyFragSpecsOfPacket state p
    let r : Bool × LowpanDefragGlobalState :=
      match state'.freeAdditionalFragSpecs with
      | none => (false, state')
      | some nextFragSpec =>
        let state := { state' with freeAdditionalFragSpecs := state'.nextFragSpec nextFragSpec }
        let state := state.setFragSpec nextFragSpec ⟨off, len, none⟩
        (true, state.setFragSpec (.first p) ⟨0, 0, some nextFragSpec⟩)
    let m : Bool × List FragEntry × List FragSpecPtr :=
      match behind.map FragEntry.ptr ++ free with
      | [] => (false, [f], [])
      | i :: free => (true, [{ f with offset := 0, size := 0 }, ⟨i, off, len⟩], free)
    r.1 = m.1 ∧ FragMem state₀ r.2 p ptrs m.2.1 m.2.2 := by
  have hdrop := h.destroyFragSpecs
  have hfirst := h.ptr_first
  have hnone : (lowpanDefragmenterDestroyFragSpecsOfPacket state p).nextFragSpec f.ptr = none :=
    hdrop.atFirst.next_eq_none
  revert hdrop hnone
  generalize lowpanDefragmenterDestroyFragSpecsOfPacket state p = s
  generalize behind.map FragEntry.ptr ++ free = free'
  intro hdrop hnone
  have hinsert := (hdrop.atFirst.insertAfter off len).2
  cases free' with
  | nil =>
    have hhead : s.freeAdditionalFragSpecs = none := hdrop.freeList
    simp only [hhead, true_and]
    exact hdrop
  | cons i free' =>
    have hhead : s.freeAdditionalFragSpecs = some i := hdrop.freeList.1
    have hset := hinsert.setFrag 0 0
    have hstate : (s.insertFragSpecAfter f.ptr off len).2.setFragSpec f.ptr
          { (s.insertFragSpecAfter f.ptr off len).2.fragSpecs f.ptr with offset := 0, size := 0 } =
        ({ s with freeAdditionalFragSpecs := s.nextFragSpec i }.setFragSpec i
          ⟨off, len, none⟩).setFragSpec (.first p) ⟨0, 0, some i⟩ := by
      have hnone' : ({ s with freeAdditionalFragSpecs := s.nextFragSpec i } :
          LowpanDefragGlobalState).nextFragSpec f.ptr = none := hnone
      simp only [insertFragSpecAfter, hhead, setNextFragSpec, setFragSpec, Function.update_self,
        Function.update_idem, hnone', ← hfirst]
    rw [hstate] at hset
    simp only [hhead, true_and]
    exact hset

theorem mergeAt (h : FragMem state₀ state p ptrs (before ++ f :: behind) free)
    {off len : UInt16} {identical : Bool} (hoff : off ≠ 0) :
    let r := lowpanDefragmenterMergeNewFragSpecIntoPacket state p (some f.ptr) off len identical
    let m := Whip6.mergeAt before f behind free off len identical
    r.1 = m.1 ∧ FragMem state₀ r.2 p ptrs m.2.1 m.2.2 := by
  obtain ⟨hans, hmem⟩ := h.concatenate off len identical
  have hsame := f.concatenate_of_ne_merged off len identical
  rcases hc : f.concatenate off len identical with ⟨f', c⟩
  rw [hc] at hans hmem hsame
  dsimp only at hans hmem hsame
  cases c with
  | merged =>
    have hnext := hmem.concatenateWithNext identical
    rw [FragEntry.concatenate_eq hc] at hnext
    simp only [lowpanDefragmenterMergeNewFragSpecIntoPacket, if_neg hoff, hans, Whip6.mergeAt, hc,
      true_and]
    exact hnext
  | disjoint =>
    obtain rfl : f' = f := hsame (by simp)
    simp only [Whip6.mergeAt, hc]
    exact h.mergeBehind hc hoff
  | overlapping =>
    obtain rfl : f' = f := hsame (by simp)
    simp only [lowpanDefragmenterMergeNewFragSpecIntoPacket, if_neg hoff, hans, Whip6.mergeAt, hc]
    cases hcons : before ++ f' :: behind with
    | nil => simp at hcons
    | cons first rest =>
      rw [hcons] at hmem
      exact hmem.restart off len

/-- Merging a new fragment into the specifications of a packet. -/
theorem merge (h : FragMem state₀ state p ptrs frags free) (off len : UInt16) (identical : Bool) :
    let r := lowpanDefragmenterMergeFragment state p off len identical
    let m := mergeFragEntries frags free off len identical
    r.1 = m.1 ∧ FragMem state₀ r.2 p ptrs m.2.1 m.2.2 := by
  simp only [lowpanDefragmenterMergeFragment, mergeFragEntries, h.findWhere]
  by_cases hoff : off = 0
  · simp only [if_pos hoff, lowpanDefragmenterMergeNewFragSpecIntoPacket]
    cases frags with
    | nil => exact absurd h.chain (by simp)
    | cons f behind =>
      obtain ⟨hans, hmem⟩ := h.atFirst.concatenate off len identical
      have hsame := f.concatenate_of_ne_merged off len identical
      rw [← h.ptr_first, hans]
      rcases hc : f.concatenate off len identical with ⟨f', c⟩
      rw [hc] at hmem hsame
      dsimp only at hmem hsame
      cases c with
      | merged =>
        have hnext := hmem.concatenateWithNext identical
        rw [FragEntry.concatenate_eq hc] at hnext
        simp only [hc, if_true, true_and]
        exact hnext
      | disjoint =>
        obtain rfl : f' = f := hsame (by simp)
        simp only [hc, reduceCtorEq, if_false, true_and]
        exact (FragMem.destroyFragSpecs hmem).atFirst.setFrag 0 len
      | overlapping =>
        obtain rfl : f' = f := hsame (by simp)
        simp only [hc, reduceCtorEq, if_false, true_and]
        exact (FragMem.destroyFragSpecs hmem).atFirst.setFrag 0 len
  · simp only [if_neg hoff]
    cases hlast : (frags.takeWhile fun f => ¬ off ≤ f.offset).getLast? with
    | none =>
      simp only [Option.map_none, lowpanDefragmenterMergeNewFragSpecIntoPacket, if_neg hoff,
        true_and]
      exact h
    | some f =>
      refine FragMem.mergeAt ?_ hoff
      rwa [← List.singleton_append, ← List.append_assoc,
        List.dropLast_append_getLast? f hlast, List.takeWhile_append_dropWhile]

end FragMem

end LowpanDefragGlobalState

end Whip6
