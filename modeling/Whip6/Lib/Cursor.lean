import Whip6.Lib.Splice

/-!
# Cursors into a text

A `Cursor` is a text with a position in it.  It moves by at most what the text has left in the
direction of the move, reads what lies ahead of it and overwrites it.  Every operation is total:
a request for more than there is is cut down to what there is (`Cursor.fit`).
-/

namespace Whip6.Lib

variable {α : Type*}

/-- A position in a text; the position behind the last item is one of them. -/
@[ext] structure Cursor (α : Type*) where
  text : List α
  pos : ℕ
  pos_le : pos ≤ text.length

namespace Cursor

/-- How many items lie ahead. -/
def avail (c : Cursor α) : ℕ := c.text.length - c.pos

/-- How many of `n` requested items there are. -/
def fit (c : Cursor α) (n : ℕ) : ℕ := min n c.avail

/-- Move over the next `n` items, or as many as there are. -/
def forward (c : Cursor α) (n : ℕ) : Cursor α where
  text := c.text
  pos := c.pos + c.fit n
  pos_le := by have := c.pos_le; simp only [fit, avail]; omega

/-- Move back over the last `n` items, or as many as there are. -/
def backward (c : Cursor α) (n : ℕ) : Cursor α where
  text := c.text
  pos := c.pos - n
  pos_le := by have := c.pos_le; omega

/-- The next `n` items, or as many as there are. -/
def read (c : Cursor α) (n : ℕ) : List α := (c.text.drop c.pos).take n

/-- Overwrite what lies ahead and move behind what was written. -/
def write (c : Cursor α) (ys : List α) : Cursor α where
  text := splice c.text c.pos ys
  pos := c.pos + c.fit ys.length
  pos_le := by have := c.pos_le; simp only [fit, avail, length_splice]; omega

@[simp] theorem text_forward (c : Cursor α) (n : ℕ) : (c.forward n).text = c.text := rfl

@[simp] theorem text_backward (c : Cursor α) (n : ℕ) : (c.backward n).text = c.text := rfl

@[simp] theorem text_write (c : Cursor α) (ys : List α) :
    (c.write ys).text = splice c.text c.pos ys := rfl

@[simp] theorem pos_forward (c : Cursor α) (n : ℕ) : (c.forward n).pos = c.pos + c.fit n := rfl

@[simp] theorem pos_backward (c : Cursor α) (n : ℕ) : (c.backward n).pos = c.pos - n := rfl

@[simp] theorem pos_write (c : Cursor α) (ys : List α) :
    (c.write ys).pos = c.pos + c.fit ys.length := rfl

theorem length_read (c : Cursor α) (n : ℕ) : (c.read n).length = c.fit n := by
  simp [read, fit, avail]

/-- Going back over what was just passed returns to where one started. -/
theorem backward_forward (c : Cursor α) {n : ℕ} (h : n ≤ c.avail) :
    (c.forward n).backward n = c := by
  ext1
  · rfl
  · simp only [forward, backward, fit]
    omega

theorem avail_forward (c : Cursor α) (n : ℕ) : (c.forward n).avail = c.avail - n := by
  simp only [forward, avail, fit]
  omega

theorem avail_write (c : Cursor α) (ys : List α) : (c.write ys).avail = c.avail - ys.length := by
  simp only [write, avail, fit, length_splice]
  omega

theorem forward_forward (c : Cursor α) {m : ℕ} (n : ℕ) (h : m ≤ c.avail) :
    (c.forward m).forward n = c.forward (m + n) := by
  ext1
  · rfl
  · simp only [avail] at h
    simp only [forward, fit, avail]
    omega

/-- Reading in two steps. -/
theorem read_add (c : Cursor α) {m : ℕ} (n : ℕ) (h : m ≤ c.avail) :
    c.read (m + n) = c.read m ++ (c.forward m).read n := by
  simp only [read, forward, fit, Nat.min_eq_left h, List.take_add, List.drop_drop]

/-- Writing in two steps. -/
theorem write_write (c : Cursor α) {xs : List α} (ys : List α) (h : xs.length ≤ c.avail) :
    (c.write xs).write ys = c.write (xs ++ ys) := by
  ext1
  · simp only [write, fit, Nat.min_eq_left h, splice_splice_adjacent]
  · simp only [avail] at h
    simp only [write, fit, avail, length_splice, List.length_append]
    omega

theorem forward_zero (c : Cursor α) : c.forward 0 = c := by
  ext1 <;> simp [forward, fit]

theorem write_nil (c : Cursor α) : c.write [] = c := by
  ext1 <;> simp [write, fit]

end Cursor

end Whip6.Lib
