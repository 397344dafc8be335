import Mathlib

/-!
# Ledgers

What is opened by some acts and closed by others: packets that are accepted and finished, frames
that are allocated and freed.  A ledger is the list of what is open.  It accepts a sequence of acts
when nothing is closed that is not open; then each thing was closed as often as it was opened,
except those that are still open (`count_ledger`).
-/

namespace Whip6.Lib

/-- What an act does to a ledger. -/
inductive LedgerEntry (ι : Type*)
  | opens (i : ι)
  | closes (i : ι)
  | other
  deriving DecidableEq

variable {Act ι : Type*} [DecidableEq ι]

/-- The ledger after an entry, if the entry may be made. -/
def LedgerEntry.record (l : List ι) : LedgerEntry ι → Option (List ι)
  | .opens i => some (i :: l)
  | .closes i => if i ∈ l then some (l.erase i) else none
  | .other => some l

@[simp] theorem LedgerEntry.record_opens (l : List ι) (i : ι) :
    (LedgerEntry.opens i).record l = some (i :: l) := rfl

@[simp] theorem LedgerEntry.record_other (l : List ι) :
    (LedgerEntry.other : LedgerEntry ι).record l = some l := rfl

@[simp] theorem LedgerEntry.record_closes_self (l : List ι) (i : ι) :
    (LedgerEntry.closes i).record (i :: l) = some l := by
  rw [LedgerEntry.record, if_pos List.mem_cons_self, List.erase_cons_head]

/-- The ledger after a sequence of acts, if all of them may happen. -/
def ledger (entry : Act → LedgerEntry ι) (l : List ι) : List Act → Option (List ι)
  | [] => some l
  | act :: acts => ((entry act).record l).bind fun l => ledger entry l acts

/-- How often the acts open a thing. -/
def opened (entry : Act → LedgerEntry ι) (i : ι) (acts : List Act) : ℕ :=
  acts.countP fun act => entry act = .opens i

/-- How often the acts close a thing. -/
def closed (entry : Act → LedgerEntry ι) (i : ι) (acts : List Act) : ℕ :=
  acts.countP fun act => entry act = .closes i

variable {entry : Act → LedgerEntry ι} {l l' : List ι} {acts acts' : List Act}

theorem ledger_append : ledger entry l (acts ++ acts') =
    (ledger entry l acts).bind fun l => ledger entry l acts' := by
  induction acts generalizing l with
  | nil => rfl
  | cons act acts ih =>
    rw [List.cons_append, ledger, ledger]
    cases (entry act).record l with
    | none => rfl
    | some l => exact ih

/-- Acts that make no entry leave the ledger as it is. -/
theorem ledger_of_other (h : ∀ act ∈ acts, entry act = .other) : ledger entry l acts = some l := by
  induction acts with
  | nil => rfl
  | cons act acts ih =>
    rw [ledger, h act List.mem_cons_self]
    exact ih fun act hact => h act (List.mem_cons_of_mem _ hact)

theorem count_record {e : LedgerEntry ι} (h : e.record l = some l') (i : ι) :
    l.count i + (if e = .opens i then 1 else 0) = (if e = .closes i then 1 else 0) + l'.count i := by
  cases e with
  | opens j =>
    obtain rfl := Option.some.inj h
    rw [List.count_cons, if_neg (by simp : LedgerEntry.opens j ≠ .closes i)]
    by_cases hij : j = i
    · subst hij
      simp
    · simp [hij]
  | closes j =>
    rw [LedgerEntry.record, Option.ite_none_right_eq_some, Option.some.injEq] at h
    obtain ⟨hj, rfl⟩ := h
    rw [if_neg (by simp : LedgerEntry.closes j ≠ .opens i), List.count_erase]
    by_cases hij : j = i
    · subst hij
      have hpos := List.count_pos_iff.mpr hj
      simp
      omega
    · simp [hij]
  | other =>
    obtain rfl := Option.some.inj h
    simp

/-- Everything is closed as often as it is opened, except what is still open. -/
theorem count_ledger (h : ledger entry l acts = some l') (i : ι) :
    l.count i + opened entry i acts = closed entry i acts + l'.count i := by
  induction acts generalizing l with
  | nil =>
    obtain rfl := Option.some.inj h
    exact Nat.add_comm _ _
  | cons act acts ih =>
    rw [ledger] at h
    obtain ⟨l₁, hrecord, hrest⟩ := Option.bind_eq_some_iff.mp h
    have hacts := ih hrest
    have hact := count_record hrecord i
    rw [opened, closed, List.countP_cons, List.countP_cons]
    simp only [decide_eq_true_eq]
    unfold opened closed at hacts
    omega

/-- What is open was open before, or was opened. -/
theorem mem_of_ledger (h : ledger entry l acts = some l') {i : ι} (hi : i ∈ l') :
    i ∈ l ∨ ∃ act ∈ acts, entry act = .opens i := by
  by_contra hnot
  push Not at hnot
  obtain ⟨hmem, hacts⟩ := hnot
  have hcount := count_ledger h i
  have hpos := List.count_pos_iff.mpr hi
  have hopened : opened entry i acts = 0 := by
    rw [opened, List.countP_eq_zero]
    exact fun act hact => by simpa using hacts act hact
  rw [List.count_eq_zero_of_not_mem hmem, hopened] at hcount
  omega

/-! ## One more act -/

theorem ledger_append_of_other (h : ledger entry l acts = some l')
    (hother : ∀ act ∈ acts', entry act = .other) : ledger entry l (acts ++ acts') = some l' := by
  rw [ledger_append, h]
  exact ledger_of_other hother

theorem ledger_concat_of_opens {act : Act} {i : ι} (h : ledger entry l acts = some l')
    (hact : entry act = .opens i) : ledger entry l (acts ++ [act]) = some (i :: l') := by
  rw [ledger_append, h]
  simp only [Option.bind_some, ledger, hact, LedgerEntry.record_opens]

/-- What is closed is taken out of the ledger, wherever it stands. -/
theorem ledger_concat_of_closes {act : Act} {i : ι} {a b : List ι}
    (h : ledger entry l acts = some l') (hact : entry act = .closes i)
    (hperm : l'.Perm (a ++ i :: b)) :
    ∃ l'', ledger entry l (acts ++ [act]) = some l'' ∧ l''.Perm (a ++ b) := by
  have hmem : i ∈ l' := hperm.mem_iff.mpr (List.mem_append_right _ List.mem_cons_self)
  refine ⟨l'.erase i, ?_, ?_⟩
  · rw [ledger_append, h]
    simp only [Option.bind_some, ledger, hact, LedgerEntry.record, if_pos hmem]
  · have herase := (hperm.trans List.perm_middle).erase i
    rwa [List.erase_cons_head] at herase

end Whip6.Lib
