import Mathlib

/-!
# Error codes and the ring buffer queue

What the components share: the codes that their commands return, and a first-in first-out queue in
an array, with the index of its first element and the number of its elements in eight bits.  The
queue holds a list (`QueuePub.Holds`): taking the first element off takes the head off the list, and
enqueuing puts an element at its end, as long as the sum of the index and of the number does not
leave the eight bits in which it is computed (`QueuePub.NoWrap`).  With at most 128 elements it
never does.
-/

namespace Whip6

/-! ## Error codes -/

abbrev ErrorT := UInt8

def SUCCESS : ErrorT := 0

def FAIL : ErrorT := 1

def ESIZE : ErrorT := 2

def ECANCEL : ErrorT := 3

def EOFF : ErrorT := 4

def EBUSY : ErrorT := 5

def EINVAL : ErrorT := 6

def EALREADY : ErrorT := 9

def ENOMEM : ErrorT := 10

def ENOACK : ErrorT := 11

def ESTATE : ErrorT := 13

def ENOSYS : ErrorT := 14

def ENOROUTE : ErrorT := 15

/-! ## The queue -/

/-- The queue; `numElements` is its capacity. -/
structure QueuePub (α : Type*) where
  elems : ℕ → α
  firstIdx : UInt8
  numElems : UInt8
  numElements : ℕ

namespace QueuePub

variable {α : Type*}

def isEmpty (queue : QueuePub α) : Bool := queue.numElems == 0

def isFull (queue : QueuePub α) : Bool := queue.numElems.toNat == queue.numElements

def peekFirst (queue : QueuePub α) : α := queue.elems queue.firstIdx.toNat

def dequeueFirst (queue : QueuePub α) : QueuePub α :=
  let firstIdx := queue.firstIdx + 1
  { queue with
    firstIdx := if firstIdx.toNat ≥ queue.numElements then 0 else firstIdx
    numElems := queue.numElems - 1 }

def enqueueLast (queue : QueuePub α) (elem : α) : QueuePub α :=
  let lastIdx := queue.firstIdx + queue.numElems
  let lastIdx :=
    if lastIdx.toNat ≥ queue.numElements then lastIdx - UInt8.ofNat queue.numElements else lastIdx
  { queue with
    elems := Function.update queue.elems lastIdx.toNat elem
    numElems := queue.numElems + 1 }

def clear (queue : QueuePub α) : QueuePub α := { queue with firstIdx := 0, numElems := 0 }

/-- The cell of the `i`-th element. -/
def cell (queue : QueuePub α) (i : ℕ) : ℕ :=
  if queue.firstIdx.toNat + i < queue.numElements then queue.firstIdx.toNat + i
  else queue.firstIdx.toNat + i - queue.numElements

/-- The queue holds a list. -/
structure Holds (queue : QueuePub α) (l : List α) : Prop where
  length : queue.numElems.toNat = l.length
  length_le : l.length ≤ queue.numElements
  first_lt : l ≠ [] → queue.firstIdx.toNat < queue.numElements
  elem : ∀ i (hi : i < l.length), queue.elems (queue.cell i) = l[i]

/-- The index behind the last element can be computed in eight bits. -/
def NoWrap (queue : QueuePub α) : Prop := queue.firstIdx.toNat + queue.numElems.toNat < 256

instance (queue : QueuePub α) : Decidable queue.NoWrap := inferInstanceAs (Decidable (_ < _))

variable {queue : QueuePub α} {l : List α} {x : α}

theorem holds_clear (queue : QueuePub α) : queue.clear.Holds [] :=
  ⟨rfl, Nat.zero_le _, fun h => absurd rfl h, fun i hi => absurd hi (Nat.not_lt_zero i)⟩

namespace Holds

theorem isEmpty_iff (h : queue.Holds l) : queue.isEmpty = true ↔ l = [] := by
  rw [isEmpty, beq_iff_eq, ← List.length_eq_zero_iff, ← h.length, ← UInt8.toNat_inj,
    UInt8.toNat_zero]

theorem peekFirst_eq (h : queue.Holds (x :: l)) : queue.peekFirst = x := by
  have hfirst := h.first_lt (List.cons_ne_nil x l)
  have helem := h.elem 0 (by simp)
  rwa [cell, Nat.add_zero, if_pos hfirst] at helem

theorem cell_dequeueFirst (hfirst : queue.firstIdx.toNat < queue.numElements)
    (hcap : queue.numElements < 256) (i : ℕ) (hi : i + 1 < queue.numElements) :
    queue.dequeueFirst.cell i = queue.cell (i + 1) := by
  have hsucc : (queue.firstIdx + 1).toNat = queue.firstIdx.toNat + 1 := by
    rw [UInt8.toNat_add, UInt8.toNat_one, Nat.mod_eq_of_lt (by omega)]
  simp only [dequeueFirst, cell, hsucc]
  by_cases hlast : queue.firstIdx.toNat + 1 ≥ queue.numElements
  · rw [if_pos hlast, UInt8.toNat_zero]
    split_ifs <;> omega
  · rw [if_neg hlast, hsucc]
    split_ifs <;> omega

theorem dequeueFirst (h : queue.Holds (x :: l)) (hcap : queue.numElements < 256) :
    queue.dequeueFirst.Holds l := by
  have hfirst := h.first_lt (List.cons_ne_nil x l)
  have hlen := h.length
  have hle := h.length_le
  rw [List.length_cons] at hlen hle
  refine ⟨?_, Nat.le_of_succ_le hle, fun _ => ?_, fun i hi => ?_⟩
  · change (queue.numElems - 1).toNat = l.length
    rw [UInt8.toNat_sub_of_le _ _ (by rw [UInt8.le_iff_toNat_le, hlen, UInt8.toNat_one]; omega),
      hlen, UInt8.toNat_one, Nat.add_sub_cancel]
  · simp only [QueuePub.dequeueFirst]
    split_ifs with hlast
    · rw [UInt8.toNat_zero]
      omega
    · exact Nat.not_le.mp hlast
  · rw [cell_dequeueFirst hfirst hcap i (by omega)]
    have helem := h.elem (i + 1) (by rw [List.length_cons]; omega)
    rwa [List.getElem_cons_succ] at helem

theorem toNat_lastIdx (h : queue.Holds l)
    (hcap : queue.numElements < 256) (hwrap : queue.NoWrap) :
    (if (queue.firstIdx + queue.numElems).toNat ≥ queue.numElements then
      queue.firstIdx + queue.numElems - UInt8.ofNat queue.numElements
      else queue.firstIdx + queue.numElems).toNat = queue.cell l.length := by
  have hsum : (queue.firstIdx + queue.numElems).toNat = queue.firstIdx.toNat + l.length := by
    rw [UInt8.toNat_add, Nat.mod_eq_of_lt hwrap, h.length]
  rw [hsum, cell]
  by_cases hlast : queue.firstIdx.toNat + l.length < queue.numElements
  · rw [if_neg (Nat.not_le.mpr hlast), if_pos hlast, hsum]
  · rw [if_pos (Nat.not_lt.mp hlast), if_neg hlast, UInt8.toNat_sub_of_le]
    · rw [hsum, UInt8.toNat_ofNat_of_lt' hcap]
    · rw [UInt8.le_iff_toNat_le, hsum, UInt8.toNat_ofNat_of_lt' hcap]
      exact Nat.not_lt.mp hlast

theorem enqueueLast (h : queue.Holds l) (hlt : l.length < queue.numElements)
    (hcap : queue.numElements < 256) (hfirst : queue.firstIdx.toNat < queue.numElements)
    (hwrap : queue.NoWrap) (x : α) : (queue.enqueueLast x).Holds (l ++ [x]) := by
  have hlast := h.toNat_lastIdx hcap hwrap
  refine ⟨?_, ?_, fun _ => hfirst, fun i hi => ?_⟩
  · change (queue.numElems + 1).toNat = (l ++ [x]).length
    rw [UInt8.toNat_add, h.length, UInt8.toNat_one, List.length_append, List.length_singleton,
      Nat.mod_eq_of_lt (by omega)]
  · rw [List.length_append, List.length_singleton]
    exact hlt
  · have hcell : (queue.enqueueLast x).cell i = queue.cell i := rfl
    have helems : (queue.enqueueLast x).elems =
        Function.update queue.elems (queue.cell l.length) x :=
      congrArg (fun k => Function.update queue.elems k x) hlast
    rw [hcell, helems]
    by_cases hi' : i < l.length
    · have hne : queue.cell i ≠ queue.cell l.length := by
        simp only [cell]
        split_ifs <;> omega
      rw [Function.update_of_ne hne, List.getElem_append_left hi']
      exact h.elem i hi'
    · obtain rfl : i = l.length := by
        rw [List.length_append, List.length_singleton] at hi
        omega
      rw [Function.update_self, List.getElem_concat_length rfl]

end Holds

/-- The index of the first element stays within the array. -/
theorem firstIdx_dequeueFirst_lt (queue : QueuePub α) (hcap : 0 < queue.numElements) :
    queue.dequeueFirst.firstIdx.toNat < queue.numElements := by
  simp only [dequeueFirst]
  split_ifs with hlast
  · exact hcap
  · exact Nat.not_le.mp hlast

/-- Up to 128 elements the index never leaves the eight bits. -/
theorem Holds.noWrap (h : queue.Holds l) (hlt : l.length < queue.numElements)
    (hfirst : queue.firstIdx.toNat < queue.numElements) (hcap : queue.numElements ≤ 128) :
    queue.NoWrap := by
  have hlen := h.length
  unfold NoWrap
  omega

end QueuePub

end Whip6
