import Whip6.Base.Queue
import Whip6.Lib.RingIndex
import Whip6.Lib.Runs

/-!
# The ring buffer queue and bounded lists

The queue over a size type of any width.  Sums of indices are computed in the size type, but in the
removal from the middle, where C computes them in a type that is at least as wide (`a` bits).  A run
in which no such sum leaves its type does what it does to a bounded list, and for a capacity of more
than half of the range of the size type there are runs that do not (`queue_refines_list`).
-/

namespace Whip6

open Lib

/-! ## The queue -/

/-- The queue with a size type of `w` bits. -/
structure SizedQueue (w : ℕ) (α : Type*) where
  elems : ℕ → α
  firstIdx : BitVec w
  numElems : BitVec w

namespace SizedQueue

variable {w : ℕ} {α : Type*}

/-- A queue as it is after booting, when the array holds anything. -/
def init (w : ℕ) (elems : ℕ → α) : SizedQueue w α := ⟨elems, 0, 0⟩

variable (cap : ℕ) (queue : SizedQueue w α)

def isEmpty : Bool := queue.numElems == 0

def isFull : Bool := queue.numElems.toNat == cap

def peekFirst : α := queue.elems queue.firstIdx.toNat

def dequeueFirst : SizedQueue w α :=
  let firstIdx := queue.firstIdx + 1
  { queue with
    firstIdx := if firstIdx.toNat ≥ cap then 0 else firstIdx
    numElems := queue.numElems - 1 }

def enqueueLast (elem : α) : SizedQueue w α :=
  let lastIdx := queue.firstIdx + queue.numElems
  let lastIdx := if lastIdx.toNat ≥ cap then lastIdx - BitVec.ofNat w cap else lastIdx
  { queue with
    elems := Function.update queue.elems lastIdx.toNat elem
    numElems := queue.numElems + 1 }

def getSize : BitVec w := queue.numElems

def peekIth (i : BitVec w) : α :=
  let i := i + queue.firstIdx
  queue.elems (i.toNat % cap)

/-- The loop that moves elements one cell forward, from cell `k` to cell `j` first. -/
def moveLoop : ℕ → BitVec w → BitVec w → (ℕ → α) → ℕ → α
  | 0, _, _, elems => elems
  | i + 1, j, k, elems =>
    let elems := Function.update elems j.toNat (elems k.toNat)
    let next := k + 1
    moveLoop i k (if next.toNat ≥ cap then 0 else next) elems

def dequeueIth (a : ℕ) (i : BitVec w) : SizedQueue w α :=
  if i < queue.numElems then
    let j := BitVec.ofNat w ((queue.firstIdx.toNat + i.toNat) % 2 ^ a % cap)
    let i := i + 1
    let k := BitVec.ofNat w ((queue.firstIdx.toNat + i.toNat) % 2 ^ a % cap)
    let i := queue.numElems - i
    { queue with
      elems := moveLoop cap i.toNat j k queue.elems
      numElems := queue.numElems - 1 }
  else queue

def clear : SizedQueue w α := { queue with firstIdx := 0, numElems := 0 }

end SizedQueue

/-! ## Operations -/

inductive QueueOp (w : ℕ) (α : Type*)
  | enqueueLast (elem : α)
  | dequeueFirst
  | dequeueIth (i : BitVec w)
  | clear
  | peekFirst
  | peekIth (i : BitVec w)

/-- An operation on a queue, with what it returns. -/
def SizedQueue.step {w : ℕ} {α : Type*} (a cap : ℕ) (queue : SizedQueue w α) :
    QueueOp w α → SizedQueue w α × List α
  | .enqueueLast elem => (queue.enqueueLast cap elem, [])
  | .dequeueFirst => (queue.dequeueFirst cap, [])
  | .dequeueIth i => (queue.dequeueIth cap a i, [])
  | .clear => (queue.clear, [])
  | .peekFirst => (queue, [queue.peekFirst])
  | .peekIth i => (queue, [queue.peekIth cap i])

namespace QueueOp

variable {w : ℕ} {α : Type*}

/-- The operation on a list. -/
def onList (l : List α) : QueueOp w α → List α × List α
  | .enqueueLast elem => (l ++ [elem], [])
  | .dequeueFirst => (l.tail, [])
  | .dequeueIth i => (l.eraseIdx i.toNat, [])
  | .clear => ([], [])
  | .peekFirst => (l, l.head?.toList)
  | .peekIth i => (l, l[i.toNat]?.toList)

/-- What a caller has to see to: an element is only put into a queue that is not full, and only
elements are looked at and taken that are there. -/
def Allowed (cap : ℕ) (l : List α) : QueueOp w α → Prop
  | .enqueueLast _ => l.length < cap
  | .dequeueFirst | .peekFirst => l ≠ []
  | .dequeueIth i | .peekIth i => i.toNat < l.length
  | .clear => True

instance (cap : ℕ) (l : List α) : (op : QueueOp w α) → Decidable (op.Allowed cap l)
  | .enqueueLast _ => inferInstanceAs (Decidable (l.length < cap))
  | .dequeueFirst | .peekFirst => inferInstanceAs (Decidable (l ≠ []))
  | .dequeueIth i | .peekIth i => inferInstanceAs (Decidable (i.toNat < l.length))
  | .clear => .isTrue trivial

/-- No sum of indices leaves the type in which it is computed. -/
def NoWrap (a : ℕ) (queue : SizedQueue w α) : QueueOp w α → Prop
  | .enqueueLast _ => queue.firstIdx.toNat + queue.numElems.toNat < 2 ^ w
  | .dequeueIth i => i.toNat + 1 < queue.numElems.toNat →
    queue.firstIdx.toNat + i.toNat + 1 < 2 ^ a
  | .peekIth i => queue.firstIdx.toNat + i.toNat < 2 ^ w
  | _ => True

end QueueOp

/-! ## Contents -/

namespace SizedQueue

variable {w a cap : ℕ} {α : Type*} {queue : SizedQueue w α} {l : List α} {x : α}

/-- The elements of a queue in their order. -/
def contents (cap : ℕ) (queue : SizedQueue w α) : List α :=
  (List.range queue.numElems.toNat).map fun i =>
    queue.elems (ringCell cap queue.firstIdx.toNat i)

/-- The queue holds a list, and the index of the first element is that of a cell. -/
structure Holds (cap : ℕ) (queue : SizedQueue w α) (l : List α) : Prop where
  first_lt : 0 < cap → queue.firstIdx.toNat < cap
  length_le : l.length ≤ cap
  contents_eq : queue.contents cap = l

namespace Holds

theorem length (h : queue.Holds cap l) : queue.numElems.toNat = l.length := by
  rw [← h.contents_eq, contents, List.length_map, List.length_range]

theorem first_lt_of_ne_nil (h : queue.Holds cap l) (hl : l ≠ []) : queue.firstIdx.toNat < cap :=
  h.first_lt (Nat.lt_of_lt_of_le (List.length_pos_of_ne_nil hl) h.length_le)

theorem elem (h : queue.Holds cap l) {i : ℕ} (hi : i < l.length) :
    queue.elems (ringCell cap queue.firstIdx.toNat i) = l[i] := by
  obtain ⟨-, -, rfl⟩ := h
  simp [contents]

/-- A queue holds a list whose elements are in its cells. -/
theorem of_elem (hfirst : 0 < cap → queue.firstIdx.toNat < cap) (hle : l.length ≤ cap)
    (hlen : queue.numElems.toNat = l.length)
    (helem : ∀ i (hi : i < l.length),
      queue.elems (ringCell cap queue.firstIdx.toNat i) = l[i]) : queue.Holds cap l := by
  refine ⟨hfirst, hle, List.ext_getElem ?_ fun i _ hi => ?_⟩
  · rw [contents, List.length_map, List.length_range, hlen]
  · simp only [contents, List.getElem_map, List.getElem_range]
    exact helem i hi

theorem isEmpty_iff (h : queue.Holds cap l) : queue.isEmpty = true ↔ l = [] := by
  rw [isEmpty, beq_iff_eq, ← List.length_eq_zero_iff, ← h.length, ← BitVec.toNat_inj]
  exact Iff.rfl

theorem isFull_iff (h : queue.Holds cap l) : queue.isFull cap = true ↔ l.length = cap := by
  rw [isFull, beq_iff_eq, h.length]

theorem peekFirst_eq (h : queue.Holds cap l) (hl : l ≠ []) :
    [queue.peekFirst] = l.head?.toList := by
  have helem := h.elem (List.length_pos_of_ne_nil hl)
  rw [ringCell_zero (h.first_lt_of_ne_nil hl)] at helem
  rw [peekFirst, helem, List.head?_eq_getElem?,
    List.getElem?_eq_getElem (List.length_pos_of_ne_nil hl)]
  rfl

theorem peekIth_eq (h : queue.Holds cap l) {i : BitVec w} (hi : i.toNat < l.length)
    (hwrap : queue.firstIdx.toNat + i.toNat < 2 ^ w) :
    [queue.peekIth cap i] = l[i.toNat]?.toList := by
  have hle := h.length_le
  have hl : l ≠ [] := List.ne_nil_of_length_pos (Nat.zero_lt_of_lt hi)
  have hcell : (i + queue.firstIdx).toNat % cap =
      ringCell cap queue.firstIdx.toNat i.toNat := by
    rw [BitVec.toNat_add, Nat.add_comm, Nat.mod_eq_of_lt hwrap]
    exact mod_eq_ringCell (h.first_lt_of_ne_nil hl) (by omega)
  rw [peekIth, hcell, h.elem hi, List.getElem?_eq_getElem hi]
  rfl

theorem clear (queue : SizedQueue w α) (cap : ℕ) : queue.clear.Holds cap [] :=
  of_elem (fun hcap => by simpa [SizedQueue.clear] using hcap) (Nat.zero_le _)
    (by simp [SizedQueue.clear]) fun i hi => absurd hi (Nat.not_lt_zero i)

end Holds

/-! ## The operations -/

theorem toNat_one_of_lt (hw : 1 < 2 ^ w) : (1 : BitVec w).toNat = 1 := Nat.mod_eq_of_lt hw

theorem toNat_succ {k : BitVec w} (hk : k.toNat + 1 < 2 ^ w) : (k + 1).toNat = k.toNat + 1 := by
  rw [BitVec.toNat_add, toNat_one_of_lt (by omega), Nat.mod_eq_of_lt hk]

/-- The index behind that of a cell. -/
theorem toNat_next {k : BitVec w} {first i : ℕ} (hk : k.toNat = ringCell cap first i)
    (hfirst : first < cap) (hi : i < cap) (hcap : cap < 2 ^ w) :
    (if (k + 1).toNat ≥ cap then 0 else k + 1).toNat = ringCell cap first (i + 1) := by
  have hlt := ringCell_lt hfirst (Nat.le_of_lt hi)
  rw [← ringCell_succ hfirst hi, ← hk, toNat_succ (by omega)]
  split_ifs
  · rfl
  · exact toNat_succ (by omega)

theorem toNat_pred (h : 0 < queue.numElems.toNat) :
    (queue.numElems - 1).toNat = queue.numElems.toNat - 1 := by
  have hone : (1 : BitVec w).toNat = 1 := toNat_one_of_lt (by have := queue.numElems.isLt; omega)
  rw [BitVec.toNat_sub_of_le, hone]
  rw [BitVec.le_def, hone]
  exact h

namespace Holds

theorem dequeueFirst (h : queue.Holds cap l) (hcap : cap < 2 ^ w) (hl : l ≠ []) :
    (queue.dequeueFirst cap).Holds cap l.tail := by
  have hfirst := h.first_lt_of_ne_nil hl
  have hpos := List.length_pos_of_ne_nil hl
  have hle := h.length_le
  have hnext : (queue.dequeueFirst cap).firstIdx.toNat = ringCell cap queue.firstIdx.toNat 1 :=
    toNat_next (ringCell_zero hfirst).symm hfirst (by omega) hcap
  refine of_elem (fun _ => ?_) ?_ ?_ fun i hi => ?_
  · rw [hnext]
    exact ringCell_lt hfirst (by omega)
  · rw [List.length_tail]
    omega
  · rw [List.length_tail, ← h.length]
    exact toNat_pred (h.length ▸ hpos)
  · rw [List.length_tail] at hi
    rw [hnext, ringCell_advance hfirst (by omega), List.getElem_tail]
    exact h.elem (by omega)

theorem toNat_lastIdx (h : queue.Holds cap l) (hcap : cap < 2 ^ w)
    (hwrap : queue.firstIdx.toNat + queue.numElems.toNat < 2 ^ w) :
    (if (queue.firstIdx + queue.numElems).toNat ≥ cap then
      queue.firstIdx + queue.numElems - BitVec.ofNat w cap
      else queue.firstIdx + queue.numElems).toNat =
        ringCell cap queue.firstIdx.toNat l.length := by
  have hsum : (queue.firstIdx + queue.numElems).toNat = queue.firstIdx.toNat + l.length := by
    rw [BitVec.toNat_add, Nat.mod_eq_of_lt hwrap, h.length]
  have hofNat : (BitVec.ofNat w cap).toNat = cap := Nat.mod_eq_of_lt hcap
  rw [hsum, ringCell]
  by_cases hlast : queue.firstIdx.toNat + l.length < cap
  · rw [if_neg (Nat.not_le.mpr hlast), if_pos hlast, hsum]
  · rw [if_pos (Nat.not_lt.mp hlast), if_neg hlast, BitVec.toNat_sub_of_le, hsum, hofNat]
    rw [BitVec.le_def, hsum, hofNat]
    exact Nat.not_lt.mp hlast

theorem enqueueLast (h : queue.Holds cap l) (hcap : cap < 2 ^ w) (hlt : l.length < cap)
    (hwrap : queue.firstIdx.toNat + queue.numElems.toNat < 2 ^ w) (x : α) :
    (queue.enqueueLast cap x).Holds cap (l ++ [x]) := by
  have hfirst := h.first_lt (Nat.zero_lt_of_lt hlt)
  have helems : (queue.enqueueLast cap x).elems =
      Function.update queue.elems (ringCell cap queue.firstIdx.toNat l.length) x :=
    congrArg (fun k => Function.update queue.elems k x) (h.toNat_lastIdx hcap hwrap)
  refine of_elem (fun _ => hfirst) ?_ ?_ fun i hi => ?_
  · rw [List.length_append, List.length_singleton]
    exact hlt
  · rw [List.length_append, List.length_singleton, ← h.length]
    exact toNat_succ (by rw [h.length]; omega)
  · rw [List.length_append, List.length_singleton] at hi
    have hcell : (queue.enqueueLast cap x).firstIdx = queue.firstIdx := rfl
    rw [helems, hcell]
    by_cases hi' : i < l.length
    · have hne : ringCell cap queue.firstIdx.toNat i ≠
          ringCell cap queue.firstIdx.toNat l.length :=
        fun heq => Nat.ne_of_lt hi' ((ringCell_inj (by omega) hlt).mp heq)
      rw [Function.update_of_ne hne, List.getElem_append_left hi']
      exact h.elem hi'
    · obtain rfl : i = l.length := by omega
      rw [Function.update_self, List.getElem_concat_length rfl]

end Holds

/-- The loop moves the elements behind cell `i` of the ring forward by one cell. -/
theorem moveLoop_ringCell {first : ℕ} (hfirst : first < cap) (hcap : cap < 2 ^ w) (n i : ℕ)
    (hn : i + n < cap) (j k : BitVec w) (hj : j.toNat = ringCell cap first i)
    (hk : k.toNat = ringCell cap first (i + 1)) (elems : ℕ → α) {m : ℕ} (hm : m < cap) :
    moveLoop cap n j k elems (ringCell cap first m) =
      if i ≤ m ∧ m < i + n then elems (ringCell cap first (m + 1))
      else elems (ringCell cap first m) := by
  induction n generalizing i j k elems with
  | zero =>
    rw [if_neg (by omega)]
    rfl
  | succ n ih =>
    rw [moveLoop, ih (i + 1) (by omega) k _ hk (toNat_next hk hfirst (by omega) hcap) _, hj, hk]
    have hother : ∀ m' < cap, m' ≠ i →
        Function.update elems (ringCell cap first i) (elems (ringCell cap first (i + 1)))
          (ringCell cap first m') = elems (ringCell cap first m') := fun m' hm' hne =>
      Function.update_of_ne (fun heq => hne ((ringCell_inj hm' (by omega)).mp heq)) _ _
    by_cases hmi : m = i
    · subst hmi
      rw [if_neg (by omega), if_pos (by omega), Function.update_self]
    · by_cases hlater : i + 1 ≤ m ∧ m < i + 1 + n
      · rw [if_pos hlater, if_pos (by omega), hother (m + 1) (by omega) (by omega)]
      · rw [if_neg hlater, if_neg (by omega), hother m hm hmi]

theorem Holds.dequeueIth (h : queue.Holds cap l) (hcap : cap < 2 ^ w) {i : BitVec w}
    (hi : i.toNat < l.length)
    (hwrap : i.toNat + 1 < queue.numElems.toNat →
      queue.firstIdx.toNat + i.toNat + 1 < 2 ^ a) :
    (queue.dequeueIth cap a i).Holds cap (l.eraseIdx i.toNat) := by
  have hle := h.length_le
  have hlen := h.length
  have hfirst := h.first_lt (by omega)
  have hsucc : (i + 1).toNat = i.toNat + 1 := toNat_succ (by omega)
  have hcount : (queue.numElems - (i + 1)).toNat = l.length - (i.toNat + 1) := by
    rw [BitVec.toNat_sub_of_le, hsucc, hlen]
    rw [BitVec.le_def, hsucc, hlen]
    exact hi
  have hmoved : ∀ m < l.length - 1, (queue.dequeueIth cap a i).elems
      (ringCell cap queue.firstIdx.toNat m) =
        if i.toNat ≤ m then queue.elems (ringCell cap queue.firstIdx.toNat (m + 1))
        else queue.elems (ringCell cap queue.firstIdx.toNat m) := by
    intro m hm
    rw [SizedQueue.dequeueIth, if_pos (by rw [BitVec.lt_def, hlen]; exact hi)]
    dsimp only
    rw [hcount, hsucc]
    by_cases hlast : i.toNat + 1 = l.length
    · rw [hlast, Nat.sub_self, if_neg (by omega)]
      rfl
    · have hfits := hwrap (by omega)
      have hcell : ∀ n ≤ i.toNat + 1,
          (BitVec.ofNat w ((queue.firstIdx.toNat + n) % 2 ^ a % cap)).toNat =
            ringCell cap queue.firstIdx.toNat n := by
        intro n hn
        have hlt := ringCell_lt hfirst (i := n) (by omega)
        rw [Nat.mod_eq_of_lt (by omega : queue.firstIdx.toNat + n < 2 ^ a),
          mod_eq_ringCell hfirst (by omega), BitVec.toNat_ofNat, Nat.mod_eq_of_lt (by omega)]
      rw [moveLoop_ringCell hfirst hcap _ i.toNat (by omega) _ _ (hcell _ (by omega))
        (hcell _ le_rfl) _ (by omega)]
      by_cases him : i.toNat ≤ m
      · rw [if_pos (by omega), if_pos him]
      · rw [if_neg (by omega), if_neg him]
  have hidx : (queue.dequeueIth cap a i).firstIdx = queue.firstIdx := by
    rw [SizedQueue.dequeueIth]
    split_ifs <;> rfl
  have hnum : (queue.dequeueIth cap a i).numElems = queue.numElems - 1 := by
    rw [SizedQueue.dequeueIth, if_pos (by rw [BitVec.lt_def, hlen]; exact hi)]
  have hlength : (l.eraseIdx i.toNat).length = l.length - 1 := List.length_eraseIdx_of_lt hi
  refine of_elem (fun _ => hidx ▸ hfirst) (by omega) ?_ fun m hm => ?_
  · rw [hnum, toNat_pred (by omega), hlength, hlen]
  · rw [hlength] at hm
    rw [hidx, hmoved m hm, List.getElem_eraseIdx]
    by_cases him : i.toNat ≤ m
    · rw [if_pos him, dif_neg (by omega)]
      exact h.elem (by omega)
    · rw [if_neg him, dif_pos (by omega)]
      exact h.elem (by omega)

/-- An allowed operation without a sum that wraps is that on the list. -/
theorem Holds.step (h : queue.Holds cap l) (hcap : cap < 2 ^ w) {op : QueueOp w α}
    (hop : op.Allowed cap l) (hwrap : op.NoWrap a queue) :
    (queue.step a cap op).1.Holds cap (op.onList l).1 ∧
      (queue.step a cap op).2 = (op.onList l).2 := by
  cases op with
  | enqueueLast x => exact ⟨h.enqueueLast hcap hop hwrap x, rfl⟩
  | dequeueFirst => exact ⟨h.dequeueFirst hcap hop, rfl⟩
  | dequeueIth i => exact ⟨h.dequeueIth hcap hop hwrap, rfl⟩
  | clear => exact ⟨Holds.clear queue cap, rfl⟩
  | peekFirst => exact ⟨h, h.peekFirst_eq hop⟩
  | peekIth i => exact ⟨h, h.peekIth_eq hop hwrap⟩

theorem Holds.run (h : queue.Holds cap l) (hcap : cap < 2 ^ w) {ops : List (QueueOp w α)}
    (hallowed : RunMeets QueueOp.onList (fun l op => op.Allowed cap l) l ops)
    (hwrap : RunMeets (SizedQueue.step a cap) (fun queue op => op.NoWrap a queue) queue ops) :
    (run (SizedQueue.step a cap) queue ops).1.Holds cap (run QueueOp.onList l ops).1 ∧
      (run (SizedQueue.step a cap) queue ops).2 = (run QueueOp.onList l ops).2 := by
  induction ops generalizing queue l with
  | nil => exact ⟨h, rfl⟩
  | cons op ops ih =>
    obtain ⟨hstep, hres⟩ := h.step hcap hallowed.1 hwrap.1
    obtain ⟨hrest, hrestRes⟩ := ih hstep hallowed.2 hwrap.2
    exact ⟨hrest, congrArg₂ _ hres hrestRes⟩

theorem holds_init (elems : ℕ → α) : (init w elems).Holds cap [] :=
  Holds.of_elem (fun hcap => hcap) (Nat.zero_le _) rfl fun i hi => absurd hi (Nat.not_lt_zero i)

/-- Where the capacity is at most half of the range of the size type, no sum wraps. -/
theorem Holds.noWrap (h : queue.Holds cap l) (hcap : 2 * cap ≤ 2 ^ w) (haw : w ≤ a)
    {op : QueueOp w α} (hop : op.Allowed cap l) : op.NoWrap a queue := by
  have hle := h.length_le
  have hlen := h.length
  have hpow := Nat.pow_le_pow_right (Nat.zero_lt_two) haw
  cases op with
  | enqueueLast x =>
    have hfirst := h.first_lt (Nat.zero_lt_of_lt hop)
    have hlt : l.length < cap := hop
    change queue.firstIdx.toNat + queue.numElems.toNat < 2 ^ w
    omega
  | dequeueIth i =>
    have hlt : i.toNat < l.length := hop
    have hfirst := h.first_lt (by omega)
    intro hi
    omega
  | peekIth i =>
    have hlt : i.toNat < l.length := hop
    have hfirst := h.first_lt (by omega)
    change queue.firstIdx.toNat + i.toNat < 2 ^ w
    omega
  | _ => trivial

theorem Holds.runMeets_noWrap (h : queue.Holds cap l) (hcap : cap < 2 ^ w)
    (hhalf : 2 * cap ≤ 2 ^ w) (haw : w ≤ a) {ops : List (QueueOp w α)}
    (hallowed : RunMeets QueueOp.onList (fun l op => op.Allowed cap l) l ops) :
    RunMeets (SizedQueue.step a cap) (fun queue op => op.NoWrap a queue) queue ops := by
  induction ops generalizing queue l with
  | nil => trivial
  | cons op ops ih =>
    have hwrap := h.noWrap hhalf haw hallowed.1
    exact ⟨hwrap, ih (h.step hcap hallowed.1 hwrap).1 hallowed.2⟩

/-! ## A run that wraps -/

/-- Elements are put in and taken off until the index of the first cell is `n`, and then `m`
elements are put in. -/
def fillBehind (w n m : ℕ) (x : α) : List (QueueOp w α) :=
  (List.replicate n [.enqueueLast x, .dequeueFirst]).flatten ++ List.replicate m (.enqueueLast x)

theorem onList_replicate_enqueueLast (m : ℕ) (hm : l.length + m ≤ cap) (x : α) :
    (run QueueOp.onList l (List.replicate m (.enqueueLast x : QueueOp w α))).1 =
        l ++ List.replicate m x ∧
      RunMeets QueueOp.onList (fun l op => op.Allowed cap l) l
        (List.replicate m (.enqueueLast x : QueueOp w α)) := by
  induction m generalizing l with
  | zero => exact ⟨(List.append_nil l).symm, trivial⟩
  | succ m ih =>
    obtain ⟨hrest, hmeets⟩ := ih (l := l ++ [x]) (by simp; omega)
    refine ⟨?_, by change l.length < cap; omega, hmeets⟩
    rw [List.replicate_succ, fst_run_cons, QueueOp.onList, hrest, List.append_assoc,
      List.replicate_succ]
    rfl

theorem onList_fillBehind (n : ℕ) {m : ℕ} (hm : m ≤ cap) (hcap : 0 < cap) (x : α) :
    (run QueueOp.onList [] (fillBehind w n m x)).1 = List.replicate m x ∧
      RunMeets QueueOp.onList (fun l op => op.Allowed cap l) [] (fillBehind w n m x) := by
  induction n with
  | zero => exact onList_replicate_enqueueLast m (by simpa using hm) x
  | succ n ih =>
    obtain ⟨hrest, hmeets⟩ := ih
    exact ⟨hrest, hcap, List.cons_ne_nil x [], hmeets⟩

theorem run_replicate_enqueueLast (a cap : ℕ) (queue : SizedQueue w α) (m : ℕ) (x : α)
    (hm : queue.numElems.toNat + m < 2 ^ w) :
    let r := (run (SizedQueue.step a cap) queue (List.replicate m (.enqueueLast x))).1
    r.firstIdx = queue.firstIdx ∧ r.numElems.toNat = queue.numElems.toNat + m := by
  induction m generalizing queue with
  | zero => exact ⟨rfl, rfl⟩
  | succ m ih =>
    have hnum : (queue.enqueueLast cap x).numElems.toNat = queue.numElems.toNat + 1 := by
      change (queue.numElems + 1).toNat = queue.numElems.toNat + 1
      rw [BitVec.toNat_add, toNat_one_of_lt (by omega), Nat.mod_eq_of_lt (by omega)]
    obtain ⟨hfirst, hrest⟩ := ih (queue.enqueueLast cap x) (by omega)
    refine ⟨hfirst, hrest.trans ?_⟩
    omega

theorem run_fillBehind (a : ℕ) (queue : SizedQueue w α) (n m : ℕ) (x : α) (hcap : cap < 2 ^ w)
    (hn : queue.firstIdx.toNat + n < cap) (hm : queue.numElems.toNat + m < 2 ^ w)
    (hempty : queue.numElems = 0) :
    let r := (run (SizedQueue.step a cap) queue (fillBehind w n m x)).1
    r.firstIdx.toNat = queue.firstIdx.toNat + n ∧ r.numElems.toNat = m := by
  induction n generalizing queue with
  | zero =>
    obtain ⟨hfirst, hnum⟩ := run_replicate_enqueueLast a cap queue m x hm
    refine ⟨congrArg BitVec.toNat hfirst, hnum.trans ?_⟩
    rw [hempty]
    exact Nat.zero_add m
  | succ n ih =>
    have hround : (run (SizedQueue.step a cap) queue
        [.enqueueLast x, .dequeueFirst]).1.firstIdx.toNat = queue.firstIdx.toNat + 1 := by
      have hsucc : (queue.firstIdx + 1).toNat = queue.firstIdx.toNat + 1 :=
        toNat_succ (by omega)
      change (if (queue.firstIdx + 1).toNat ≥ cap then 0 else queue.firstIdx + 1).toNat = _
      rw [if_neg (by omega), hsucc]
    have hzero : (run (SizedQueue.step a cap) queue
        [.enqueueLast x, .dequeueFirst]).1.numElems = 0 := by
      change queue.numElems + 1 - 1 = 0
      rw [BitVec.add_sub_cancel, hempty]
    have hrest := ih (run (SizedQueue.step a cap) queue
      [.enqueueLast x, .dequeueFirst]).1 (by omega) (by rw [hzero, ← hempty]; exact hm) hzero
    rw [hround, Nat.add_assoc, Nat.add_comm 1 n] at hrest
    exact hrest

/-- From booting on the queue did what a bounded list does. -/
structure Refines (a cap : ℕ) (elems : ℕ → α) (ops : List (QueueOp w α)) : Prop where
  contents : (run (SizedQueue.step a cap) (init w elems) ops).1.contents cap =
    (run QueueOp.onList [] ops).1
  results : (run (SizedQueue.step a cap) (init w elems) ops).2 = (run QueueOp.onList [] ops).2
  isEmpty : (run (SizedQueue.step a cap) (init w elems) ops).1.isEmpty = true ↔
    (run QueueOp.onList [] ops).1 = []
  isFull : (run (SizedQueue.step a cap) (init w elems) ops).1.isFull cap = true ↔
    (run QueueOp.onList [] ops).1.length = cap
  getSize : (run (SizedQueue.step a cap) (init w elems) ops).1.getSize.toNat =
    (run QueueOp.onList [] ops).1.length

theorem refines_of_noWrap (hcap : cap < 2 ^ w) (elems : ℕ → α) {ops : List (QueueOp w α)}
    (hallowed : RunMeets QueueOp.onList (fun l op => op.Allowed cap l) [] ops)
    (hwrap : RunMeets (SizedQueue.step a cap) (fun queue op => op.NoWrap a queue) (init w elems)
      ops) : Refines a cap elems ops := by
  obtain ⟨hholds, hres⟩ := (holds_init elems).run hcap hallowed hwrap
  exact ⟨hholds.contents_eq, hres, hholds.isEmpty_iff, hholds.isFull_iff, hholds.length⟩

/-- A run in which the index behind the last element leaves the size type, so that the last element
put in overwrites the second one. -/
def overwriting (w cap : ℕ) (x y : α) : List (QueueOp w α) :=
  fillBehind w (cap - 1) (2 ^ w - (cap - 1)) x ++ [.enqueueLast y]

theorem overwriting_not_refines {y : α} (hcap : cap < 2 ^ w) (hhalf : 2 ^ w < 2 * cap)
    (hne : x ≠ y) (elems : ℕ → α) :
    RunMeets QueueOp.onList (fun l op => op.Allowed cap l) [] (overwriting w cap x y) ∧
      ¬Refines a cap elems (overwriting w cap x y) := by
  -- The range of the size type is even, so it is smaller by two.
  have htwo : 2 ^ w + 2 ≤ 2 * cap := by
    cases w with
    | zero => omega
    | succ w =>
      rw [Nat.pow_succ] at hhalf ⊢
      omega
  have hle : 2 ^ w - (cap - 1) ≤ cap := by omega
  obtain ⟨hlist, hmeets⟩ := onList_fillBehind (w := w) (cap - 1) hle (by omega) x
  have hzero : (init w elems).firstIdx.toNat = 0 := rfl
  have hzero' : (init w elems).numElems.toNat = 0 := rfl
  obtain ⟨hfirst, hnum⟩ := run_fillBehind a (init w elems) (cap - 1)
    (2 ^ w - (cap - 1)) x hcap (by omega) (by omega) rfl
  rw [hzero, Nat.zero_add] at hfirst
  refine ⟨?_, fun href => ?_⟩
  · rw [overwriting, runMeets_append, hlist]
    refine ⟨hmeets, ?_, trivial⟩
    change (List.replicate _ x).length < cap
    rw [List.length_replicate]
    omega
  · have hcontents := href.contents
    rw [overwriting, fst_run_append, fst_run_append, hlist] at hcontents
    generalize hqueue : (run (SizedQueue.step a cap) (init w elems)
      (fillBehind w (cap - 1) (2 ^ w - (cap - 1)) x)).1 = queue at hcontents hfirst hnum
    change (queue.enqueueLast cap y).contents cap = List.replicate (2 ^ w - (cap - 1)) x ++ [y]
      at hcontents
    have hsum : (queue.firstIdx + queue.numElems).toNat = 0 := by
      rw [BitVec.toNat_add, hfirst, hnum, show cap - 1 + (2 ^ w - (cap - 1)) = 2 ^ w by omega,
        Nat.mod_self]
    have hcell : (queue.enqueueLast cap y).elems 0 = y := by
      simp only [SizedQueue.enqueueLast, hsum]
      rw [if_neg (by omega), hsum]
      exact Function.update_self _ _ _
    have hlen : (queue.enqueueLast cap y).numElems.toNat = 2 ^ w - (cap - 1) + 1 := by
      change (queue.numElems + 1).toNat = _
      rw [toNat_succ (by omega), hnum]
    -- The second element of the queue is the last one of the list.
    have hsecond := congrArg (fun l => l[1]?) hcontents
    simp only [SizedQueue.contents] at hsecond
    rw [List.getElem?_map, List.getElem?_range (by omega), Option.map_some,
      List.getElem?_append_left (by rw [List.length_replicate]; omega),
      List.getElem?_replicate, if_pos (by omega)] at hsecond
    have hfirst' : (queue.enqueueLast cap y).firstIdx.toNat = cap - 1 := hfirst
    rw [hfirst', ringCell, if_neg (by omega), show cap - 1 + 1 - cap = 0 by omega, hcell] at hsecond
    exact hne (Option.some.inj hsecond).symm

/-- A run in which no sum of indices leaves its type does what it does to a bounded list.  All runs
are like that if and only if the capacity is at most half of the range of the size type. -/
theorem queue_refines_list {α : Type*} [Nontrivial α] (w a cap : ℕ) (haw : w ≤ a)
    (hcap : cap < 2 ^ w) (elems : ℕ → α) :
    (∀ ops : List (QueueOp w α),
      RunMeets QueueOp.onList (fun l op => op.Allowed cap l) [] ops →
      RunMeets (SizedQueue.step a cap) (fun queue op => op.NoWrap a queue) (init w elems) ops →
      Refines a cap elems ops) ∧
    ((∀ ops : List (QueueOp w α),
      RunMeets QueueOp.onList (fun l op => op.Allowed cap l) [] ops → Refines a cap elems ops) ↔
      2 * cap ≤ 2 ^ w) := by
  refine ⟨fun ops hallowed hwrap => refines_of_noWrap hcap elems hallowed hwrap, fun h => ?_,
    fun hhalf ops hallowed => ?_⟩
  · by_contra hhalf
    obtain ⟨x, y, hne⟩ := exists_pair_ne α
    obtain ⟨hallowed, hnot⟩ :=
      overwriting_not_refines (a := a) hcap (Nat.not_le.mp hhalf) hne elems
    exact hnot (h _ hallowed)
  · exact refines_of_noWrap hcap elems hallowed
      ((holds_init elems).runMeets_noWrap hcap hhalf haw hallowed)

/-- A queue of 128 elements with a size type of eight bits. -/
theorem queue_refines_list_half :
    Refines 32 128 (fun _ => 0)
      [.enqueueLast 5, .enqueueLast 6, .dequeueIth (0 : BitVec 8), .peekFirst] := by
  apply (queue_refines_list 8 32 128 (by decide) (by decide) fun _ => 0).2.mpr (by decide)
  refine ⟨?_, ?_, ?_, ?_, trivial⟩ <;> beta_reduce <;> decide

/-- In a queue of 129 elements with a size type of eight bits the second element is overwritten. -/
theorem queue_not_refines_list :
    RunMeets QueueOp.onList (fun l op => op.Allowed 129 l) [] (overwriting 8 129 1 2) ∧
      ¬Refines 32 129 (fun _ => 0) (overwriting 8 129 1 2) :=
  overwriting_not_refines (by decide) (by decide) (by decide) fun _ => 0

end SizedQueue

/-! ## The queue with a size type of eight bits -/

namespace QueuePub

variable {α : Type*} (queue : QueuePub α)

def toSized : SizedQueue 8 α := ⟨queue.elems, queue.firstIdx.toBitVec, queue.numElems.toBitVec⟩

theorem toSized_dequeueFirst :
    queue.dequeueFirst.toSized = queue.toSized.dequeueFirst queue.numElements := by
  rw [toSized, SizedQueue.dequeueFirst, dequeueFirst, toSized]
  dsimp only
  split_ifs with h h' h'
  · rfl
  · exact absurd h h'
  · exact absurd h' h
  · rfl

theorem toSized_enqueueLast (x : α) :
    (queue.enqueueLast x).toSized = queue.toSized.enqueueLast queue.numElements x := by
  rw [toSized, SizedQueue.enqueueLast, enqueueLast, toSized]
  dsimp only
  split_ifs with h h' h'
  · rfl
  · exact absurd h h'
  · exact absurd h' h
  · rfl

theorem toSized_clear : queue.clear.toSized = queue.toSized.clear := rfl

theorem peekFirst_toSized : queue.toSized.peekFirst = queue.peekFirst := rfl

end QueuePub

end Whip6
