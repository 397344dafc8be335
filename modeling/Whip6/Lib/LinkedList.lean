import Mathlib

/-!
# Singly linked lists

Nodes are linked by a function `next`, which is the memory the links are kept in: `next i` is the
node behind `i`.  `Seg next o l e` says that following the links from `o` visits the nodes `l` and
then stands at `e`; with `e = none` the whole list is `l`.  The lemmas say how a segment changes
when one link is written, and what the two loops over a list find: its last node (`lastFrom`), and
its first node with a property together with the node before it (`findFrom`), which is what it
takes to unlink that node (`Seg.unlink`).
-/

namespace Whip6.Lib

variable {ι : Type*} {next next' : ι → Option ι} {o e e' : Option ι} {i j : ι} {l l₁ l₂ : List ι}

/-- Following `next` from `o` visits the nodes `l` and then stands at `e`. -/
def Seg (next : ι → Option ι) : Option ι → List ι → Option ι → Prop
  | o, [], e => o = e
  | o, i :: l, e => o = some i ∧ Seg next (next i) l e

/-- The nodes from a link on, at most `fuel` of them. -/
def walk (next : ι → Option ι) : ℕ → Option ι → List ι
  | fuel + 1, some i => i :: walk next fuel (next i)
  | _, _ => []

/-- The last node of the list that starts with `i`. -/
def lastFrom (next : ι → Option ι) : ℕ → ι → ι
  | 0, i => i
  | fuel + 1, i =>
    match next i with
    | none => i
    | some j => lastFrom next fuel j

/-- The first node with a property on the list from `curr` on, if there is one, and the node
before it; `prev` is the node before `curr`. -/
def findFrom (next : ι → Option ι) (p : ι → Bool) :
    ℕ → Option ι → Option ι → Option ι × Option ι
  | fuel + 1, prev, some i =>
    if p i then (prev, some i) else findFrom next p fuel (some i) (next i)
  | _, prev, curr => (prev, curr)

/-! ## Segments -/

@[simp] theorem seg_nil : Seg next o [] e ↔ o = e := Iff.rfl

@[simp] theorem seg_cons : Seg next o (i :: l) e ↔ o = some i ∧ Seg next (next i) l e := Iff.rfl

theorem seg_append :
    Seg next o (l₁ ++ l₂) e ↔ ∃ m, Seg next o l₁ m ∧ Seg next m l₂ e := by
  induction l₁ generalizing o with
  | nil => simp
  | cons i l₁ ih => simp only [List.cons_append, seg_cons, ih, and_assoc, exists_and_left]

theorem seg_concat : Seg next o (l ++ [i]) e ↔ Seg next o l (some i) ∧ next i = e := by
  rw [seg_append]
  simp

theorem Seg.congr (h : Seg next o l e) (hnext : ∀ i ∈ l, next' i = next i) : Seg next' o l e := by
  induction l generalizing o with
  | nil => exact h
  | cons i l ih =>
    refine ⟨h.1, ?_⟩
    rw [hnext i List.mem_cons_self]
    exact ih h.2 fun j hj => hnext j (List.mem_cons_of_mem _ hj)

theorem Seg.trans {m : Option ι} (h₁ : Seg next o l₁ m) (h₂ : Seg next m l₂ e) :
    Seg next o (l₁ ++ l₂) e :=
  seg_append.mpr ⟨m, h₁, h₂⟩

/-- Two memories that hold the same list link its nodes alike. -/
theorem Seg.next_eq (h : Seg next o l e) (h' : Seg next' o l e) (hi : i ∈ l) : next' i = next i := by
  induction l generalizing o with
  | nil => exact absurd hi List.not_mem_nil
  | cons j l ih =>
    have hj : next' j = next j := by
      cases l with
      | nil =>
        rw [seg_cons, seg_nil] at h h'
        exact h'.2.trans h.2.symm
      | cons k l => exact h'.2.1.trans h.2.1.symm
    rcases List.mem_cons.mp hi with rfl | hi
    · exact hj
    · refine ih h.2 ?_ hi
      rw [← hj]
      exact h'.2

/-- What comes behind a node. -/
theorem Seg.behind (h : Seg next o (l₁ ++ i :: l₂) e) : Seg next (next i) l₂ e := by
  obtain ⟨_, -, -, h₂⟩ := seg_append.mp h
  exact h₂

/-- A list starts with its first node. -/
theorem Seg.eq_head? (h : Seg next o l none) : o = l.head? := by
  cases l with
  | nil => exact h
  | cons i l => exact h.1

/-- Walking along the links finds the list. -/
theorem Seg.walk_eq {fuel : ℕ} (h : Seg next o l none) (hfuel : l.length ≤ fuel) :
    walk next fuel o = l := by
  induction l generalizing o fuel with
  | nil =>
    obtain rfl : o = none := h
    cases fuel <;> rfl
  | cons i l ih =>
    obtain ⟨rfl, hrest⟩ := h
    cases fuel with
    | zero => simp at hfuel
    | succ fuel => rw [walk, ih hrest (by simpa using hfuel)]

/-- The links determine the list. -/
theorem Seg.unique (h₁ : Seg next o l₁ none) (h₂ : Seg next o l₂ none) : l₁ = l₂ := by
  induction l₁ generalizing o l₂ with
  | nil =>
    cases l₂ with
    | nil => rfl
    | cons j l₂ => exact absurd (h₁.symm.trans h₂.1) (by simp)
  | cons i l₁ ih =>
    cases l₂ with
    | nil => exact absurd (h₂.symm.trans h₁.1) (by simp)
    | cons j l₂ =>
      obtain rfl : i = j := Option.some.inj (h₁.1.symm.trans h₂.1)
      rw [ih h₁.2 h₂.2]

/-! ## Writing one link -/

section Update

variable [DecidableEq ι]

theorem Seg.update_of_notMem (h : Seg next o l e) (hi : i ∉ l) (v : Option ι) :
    Seg (Function.update next i v) o l e :=
  h.congr fun _ hj => Function.update_of_ne (ne_of_mem_of_not_mem hj hi) v next

/-- A node that is linked to the start of a list becomes its first node. -/
theorem Seg.push (h : Seg next o l e) (hi : i ∉ l) :
    Seg (Function.update next i o) (some i) (i :: l) e :=
  ⟨rfl, by rw [Function.update_self]; exact h.update_of_notMem hi o⟩

/-- A node that is linked anew ends the segment that leads to it. -/
theorem Seg.setLink (h : Seg next o (l₁ ++ i :: l₂) e) (hi : i ∉ l₁) (v : Option ι) :
    Seg (Function.update next i v) o (l₁ ++ [i]) v := by
  obtain ⟨m, h₁, hm, -⟩ := seg_append.mp h
  rw [seg_concat]
  exact ⟨hm ▸ h₁.update_of_notMem hi v, Function.update_self i v next⟩

end Update

/-! ## Loops over a list -/

theorem lastFrom_eq {fuel : ℕ} (h : Seg next (some i) (l ++ [j]) none) (hfuel : l.length ≤ fuel) :
    lastFrom next fuel i = j := by
  induction l generalizing i fuel with
  | nil =>
    obtain ⟨hi, hj⟩ := h
    obtain rfl : i = j := Option.some.inj hi
    cases fuel with
    | zero => rfl
    | succ fuel => rw [lastFrom, show next i = none from hj]
  | cons k l ih =>
    obtain ⟨hi, hrest⟩ := h
    obtain rfl : i = k := Option.some.inj hi
    obtain ⟨fuel, rfl⟩ : ∃ n, fuel = n + 1 :=
      ⟨fuel - 1, by rw [List.length_cons] at hfuel; omega⟩
    obtain ⟨m, hm⟩ : ∃ m, next i = some m := by
      cases l with
      | nil => exact ⟨j, hrest.1⟩
      | cons m l => exact ⟨m, hrest.1⟩
    rw [lastFrom, hm]
    exact ih (hm ▸ hrest) (by rw [List.length_cons] at hfuel; omega)

/-- A search that succeeds stops at the first node with the property. -/
theorem findFrom_of_split {p : ι → Bool} {prev : Option ι} {fuel : ℕ}
    (h : Seg next o (l₁ ++ i :: l₂) none) (hfuel : l₁.length < fuel)
    (hl₁ : ∀ j ∈ l₁, p j = false) (hi : p i = true) :
    findFrom next p fuel prev o = (l₁.getLast?.or prev, some i) := by
  induction l₁ generalizing o prev fuel with
  | nil =>
    obtain ⟨rfl, -⟩ := h
    obtain ⟨fuel, rfl⟩ : ∃ n, fuel = n + 1 := ⟨fuel - 1, by omega⟩
    rw [findFrom, hi, if_pos rfl]
    rfl
  | cons j l₁ ih =>
    obtain ⟨rfl, hrest⟩ := h
    obtain ⟨fuel, rfl⟩ : ∃ n, fuel = n + 1 := ⟨fuel - 1, by omega⟩
    rw [List.length_cons] at hfuel
    rw [findFrom, hl₁ j List.mem_cons_self, if_neg Bool.false_ne_true,
      ih hrest (by omega) fun k hk => hl₁ k (List.mem_cons_of_mem _ hk), List.getLast?_cons]
    cases l₁.getLast? <;> rfl

/-- A search that fails runs to the end of the list. -/
theorem findFrom_of_forall {p : ι → Bool} {prev : Option ι} {fuel : ℕ} (h : Seg next o l none)
    (hfuel : l.length ≤ fuel) (hl : ∀ j ∈ l, p j = false) :
    (findFrom next p fuel prev o).2 = none := by
  induction l generalizing o prev fuel with
  | nil =>
    obtain rfl : o = none := h
    cases fuel <;> rfl
  | cons j l ih =>
    obtain ⟨rfl, hrest⟩ := h
    rw [List.length_cons] at hfuel
    obtain ⟨fuel, rfl⟩ : ∃ n, fuel = n + 1 := ⟨fuel - 1, by omega⟩
    rw [findFrom, hl j List.mem_cons_self, if_neg Bool.false_ne_true]
    exact ih hrest (by omega) fun k hk => hl k (List.mem_cons_of_mem _ hk)

/-! ## Taking a node out -/

/-- Removing the first element with a property. -/
theorem exists_split_of_find? {α : Type*} {l : List α} {p : α → Bool} {a : α}
    (h : l.find? p = some a) :
    ∃ l₁ l₂, l = l₁ ++ a :: l₂ ∧ l.eraseP p = l₁ ++ l₂ ∧ p a = true ∧ ∀ b ∈ l₁, p b = false := by
  obtain ⟨hp, l₁, l₂, rfl, hl₁⟩ := List.find?_eq_some_iff_append.mp h
  have hl₁' : ∀ b ∈ l₁, p b = false := fun b hb => by simpa using hl₁ b hb
  refine ⟨l₁, l₂, rfl, ?_, hp, hl₁'⟩
  rw [List.eraseP_append_right _ fun b hb => by simp [hl₁' b hb], List.eraseP_cons_of_pos hp]

theorem perm_cons_eraseP {α : Type*} {l : List α} {p : α → Bool} {a : α}
    (h : l.find? p = some a) : (a :: l.eraseP p).Perm l := by
  obtain ⟨l₁, l₂, rfl, herase, -, -⟩ := exists_split_of_find? h
  rw [herase]
  exact List.perm_middle.symm

/-- Unlinking a node that has one before it: that one is linked to the next. -/
theorem Seg.unlink [DecidableEq ι] (h : Seg next o (l₁ ++ j :: i :: l₂) e)
    (hnodup : (l₁ ++ j :: i :: l₂).Nodup) :
    Seg (Function.update next j (next i)) o (l₁ ++ j :: l₂) e := by
  obtain ⟨-, hbehind, hdisj⟩ := List.nodup_append.mp hnodup
  have hl₁ : j ∉ l₁ := fun hmem => hdisj j hmem j List.mem_cons_self rfl
  have hl₂ : j ∉ l₂ := fun hmem => (List.nodup_cons.mp hbehind).1 (List.mem_cons_of_mem _ hmem)
  have hseg := (h.setLink hl₁ _).trans (h.behind.2.update_of_notMem hl₂ _)
  rwa [List.append_assoc, List.singleton_append] at hseg

/-- Putting a node behind another: it is linked to what was behind that one. -/
theorem Seg.insert [DecidableEq ι] (h : Seg next o (l₁ ++ j :: l₂) e)
    (hnodup : (l₁ ++ j :: l₂).Nodup) (hi : i ∉ l₁ ++ j :: l₂) :
    Seg (Function.update (Function.update next i (next j)) j (some i)) o (l₁ ++ j :: i :: l₂) e := by
  obtain ⟨-, hbehind, hdisj⟩ := List.nodup_append.mp hnodup
  have hl₁ : j ∉ l₁ := fun hmem => hdisj j hmem j List.mem_cons_self rfl
  have hj : j ∉ i :: l₂ := by
    rintro (_ | ⟨_, hmem⟩)
    · exact hi (by simp)
    · exact (List.nodup_cons.mp hbehind).1 hmem
  have hi₂ : i ∉ l₂ := fun hmem => hi (by simp [hmem])
  have hseg := ((h.update_of_notMem hi (next j)).setLink hl₁ (some i)).trans
    ((h.behind.push hi₂).update_of_notMem hj _)
  rwa [List.append_assoc, List.singleton_append] at hseg

/-- Putting a node at the end of a list: the last node, if there is one, is linked to it. -/
theorem Seg.append (h : Seg next o l none) (hnodup : l.Nodup)
    (hlast : ∀ j, l.getLast? = some j → next' j = some i) (hnew : next' i = none)
    (hother : ∀ k ∈ l, l.getLast? ≠ some k → next' k = next k) :
    Seg next' (o.or (some i)) (l ++ [i]) none := by
  rcases List.eq_nil_or_concat' l with rfl | ⟨l, j, rfl⟩
  · obtain rfl : o = none := h
    exact ⟨rfl, hnew⟩
  · rw [seg_concat] at h
    obtain ⟨hl, -⟩ := h
    rw [List.getLast?_concat] at hlast
    have hj : j ∉ l := fun hmem => (List.nodup_append.mp hnodup).2.2 j hmem j (by simp) rfl
    have hl' : Seg next' o l (some j) := hl.congr fun k hk =>
      hother k (List.mem_append_left _ hk) fun heq => hj (by
        rw [List.getLast?_concat] at heq
        exact Option.some.inj heq ▸ hk)
    have ho : o.or (some i) = o := by
      cases l with
      | nil => rw [show o = some j from hl]; rfl
      | cons k l => rw [hl.1]; rfl
    rw [ho, seg_concat, seg_concat]
    exact ⟨⟨hl', hlast j rfl⟩, hnew⟩

end Whip6.Lib
