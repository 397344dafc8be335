import Whip6.Lib.Cursor
import Whip6.Base.IoVec

/-!
# I/O vectors as cursors

An iterator over a chain of I/O vector elements stands for a cursor into the concatenation of
the elements (`Denotes`).  Where it stands depends only on the lengths of the elements, which no
operation changes.  `iovPieces_spec` says once what the operations that go through a chain
element by element do, for whatever they do to each piece; reading, writing and the computation
of a checksum are instances.
-/

namespace Whip6

open Lib

/-! ## Positions -/

/-- The lengths of the elements of a chain. -/
def iovLens (iovList : IovBlist) : List ℕ := iovList.map List.length

@[simp] theorem iovLens_nil : iovLens [] = [] := rfl

@[simp] theorem iovLens_cons (e : IovElem) (l : IovBlist) :
    iovLens (e :: l) = e.length :: iovLens l := rfl

@[simp] theorem iovLens_append (l m : IovBlist) : iovLens (l ++ m) = iovLens l ++ iovLens m :=
  List.map_append

@[simp] theorem length_iovLens (l : IovBlist) : (iovLens l).length = l.length := List.length_map _

theorem sum_iovLens (l : IovBlist) : (iovLens l).sum = l.flatten.length := List.length_flatten.symm

/-- The number of bytes of a chain before the byte an iterator points to. -/
def iovIterPos (lens : List ℕ) (it : IovBlistIter) : ℕ :=
  match it.currElem with
  | none => lens.sum
  | some i => (lens.take i).sum + it.offset

/-- The iterator points into an element of the chain, or just behind one, or is `NULL`. -/
def IovIterWithin (lens : List ℕ) (it : IovBlistIter) : Prop :=
  ∀ i, it.currElem = some i → ∃ n, lens[i]? = some n ∧ it.offset ≤ n

/-- The iterator points to a byte of the chain or is `NULL`. -/
def IovIterNormal (lens : List ℕ) (it : IovBlistIter) : Prop :=
  ∀ i, it.currElem = some i → ∃ n, lens[i]? = some n ∧ it.offset < n

/-- A normalised iterator over a chain stands for a cursor into the bytes of the chain. -/
structure Denotes (l : IovBlist) (it : IovBlistIter) (c : Cursor UInt8) : Prop where
  normal : IovIterNormal (iovLens l) it
  text : c.text = l.flatten
  pos : c.pos = iovIterPos (iovLens l) it

/-- An iterator over a chain stands at a cursor into the bytes of the chain, maybe in front of empty
elements. -/
structure Follows (l : IovBlist) (it : IovBlistIter) (c : Cursor UInt8) : Prop where
  within : IovIterWithin (iovLens l) it
  text : c.text = l.flatten
  pos : c.pos = iovIterPos (iovLens l) it

theorem IovIterNormal.within {lens : List ℕ} {it : IovBlistIter} (h : IovIterNormal lens it) :
    IovIterWithin lens it := by
  intro i hi
  obtain ⟨n, hn, hlt⟩ := h i hi
  exact ⟨n, hn, hlt.le⟩

theorem Denotes.follows {l : IovBlist} {it : IovBlistIter} {c : Cursor UInt8}
    (h : Denotes l it c) : Follows l it c := ⟨h.normal.within, h.text, h.pos⟩

theorem iovIterNormal_none (lens : List ℕ) (o : ℕ) : IovIterNormal lens ⟨none, o⟩ := by
  intro i hi
  cases hi

theorem iovIterNormal_some {pre post : List ℕ} {n o i : ℕ} (hi : pre.length = i) (h : o < n) :
    IovIterNormal (pre ++ n :: post) ⟨some i, o⟩ := by
  rintro j hj
  cases hj
  exact ⟨n, by simp [← hi], h⟩

theorem iovIterWithin_some {pre post : List ℕ} {n o i : ℕ} (hi : pre.length = i) (h : o ≤ n) :
    IovIterWithin (pre ++ n :: post) ⟨some i, o⟩ := by
  rintro j hj
  cases hj
  exact ⟨n, by simp [← hi], h⟩

@[simp] theorem iovIterPos_none (lens : List ℕ) (o : ℕ) : iovIterPos lens ⟨none, o⟩ = lens.sum :=
  rfl

theorem iovIterPos_some {pre : List ℕ} {i : ℕ} (hi : pre.length = i) (post : List ℕ) (o : ℕ) :
    iovIterPos (pre ++ post) ⟨some i, o⟩ = pre.sum + o := by
  simp [iovIterPos, ← hi]

/-- A chain around the element an iterator points to. -/
theorem IovIterWithin.split {l : IovBlist} {i o : ℕ} (h : IovIterWithin (iovLens l) ⟨some i, o⟩) :
    ∃ pre e post, l = pre ++ e :: post ∧ pre.length = i ∧ o ≤ e.length ∧
      iovIterPos (iovLens l) ⟨some i, o⟩ = pre.flatten.length + o := by
  obtain ⟨n, hn, ho⟩ := h i rfl
  have hi : i < l.length := by
    simpa using (List.getElem?_eq_some_iff.mp hn).1
  have hl : l = l.take i ++ l[i] :: l.drop (i + 1) := by
    rw [← List.drop_eq_getElem_cons hi, List.take_append_drop]
  have hlen : l[i].length = n := by
    simpa [iovLens, hi] using hn
  refine ⟨l.take i, l[i], l.drop (i + 1), hl, by simp [hi.le], hlen ▸ ho, ?_⟩
  simp [iovIterPos, iovLens, ← List.map_take, List.length_flatten]

theorem IovIterNormal.split {l : IovBlist} {i o : ℕ} (h : IovIterNormal (iovLens l) ⟨some i, o⟩) :
    ∃ pre e post, l = pre ++ e :: post ∧ pre.length = i ∧ o < e.length ∧
      iovIterPos (iovLens l) ⟨some i, o⟩ = pre.flatten.length + o := by
  obtain ⟨pre, e, post, rfl, rfl, -, hp⟩ := h.within.split
  obtain ⟨n, hn, ho⟩ := h _ rfl
  have : e.length = n := by simpa using hn
  exact ⟨pre, e, post, rfl, rfl, by simpa [this] using ho, hp⟩

theorem IovIterWithin.pos_le {l : IovBlist} {it : IovBlistIter}
    (h : IovIterWithin (iovLens l) it) : iovIterPos (iovLens l) it ≤ l.flatten.length := by
  obtain ⟨_ | i, o⟩ := it
  · rw [iovIterPos_none, sum_iovLens]
  · obtain ⟨pre, e, post, rfl, rfl, ho, hp⟩ := h.split
    rw [hp]
    simp only [List.flatten_append, List.flatten_cons, List.length_append]
    omega

theorem iovIteratorInitToBeginning_within (l : IovBlist) :
    IovIterWithin (iovLens l) (iovIteratorInitToBeginning l) := by
  cases l with
  | nil => exact (iovIterNormal_none _ _).within
  | cons e l => exact @iovIterWithin_some [] (iovLens l) e.length 0 0 rfl (Nat.zero_le _)

theorem iovIteratorInitToBeginning_pos (l : IovBlist) :
    iovIterPos (iovLens l) (iovIteratorInitToBeginning l) = 0 := by
  cases l <;> rfl

/-- Every normalised iterator stands for a cursor. -/
theorem IovIterNormal.denotes {l : IovBlist} {it : IovBlistIter}
    (h : IovIterNormal (iovLens l) it) :
    Denotes l it ⟨l.flatten, iovIterPos (iovLens l) it, h.within.pos_le⟩ :=
  ⟨h, rfl, rfl⟩

/-- A normalised iterator is `NULL` exactly at the end. -/
theorem Denotes.isValid_iff {l : IovBlist} {it : IovBlistIter} {c : Cursor UInt8}
    (h : Denotes l it c) : iovIteratorIsValid it ↔ c.pos < c.text.length := by
  obtain ⟨_ | i, o⟩ := it
  · simp [iovIteratorIsValid, h.pos, h.text, sum_iovLens]
  · obtain ⟨pre, e, post, rfl, rfl, ho, hp⟩ := h.normal.split
    simp only [iovIteratorIsValid, Option.isSome_some, h.pos, h.text, hp, true_iff,
      List.flatten_append, List.flatten_cons, List.length_append]
    omega

/-- Two iterators that point to one byte of a chain are the same. -/
theorem iovIter_eq_of_pos {l : IovBlist} {it it' : IovBlistIter}
    (h : IovIterNormal (iovLens l) it) (h' : IovIterNormal (iovLens l) it')
    (hv : iovIteratorIsValid it) (hv' : iovIteratorIsValid it')
    (hp : iovIterPos (iovLens l) it = iovIterPos (iovLens l) it') : it = it' := by
  obtain ⟨_ | i, o⟩ := it
  · simp [iovIteratorIsValid] at hv
  obtain ⟨_ | i', o'⟩ := it'
  · simp [iovIteratorIsValid] at hv'
  obtain ⟨pre, e, post, rfl, rfl, ho, hp1⟩ := h.split
  obtain ⟨pre', e', post', hl, rfl, ho', hp2⟩ := h'.split
  rw [hp1, hp2] at hp
  rcases List.append_eq_append_iff.mp hl with ⟨as, rfl, has⟩ | ⟨as, rfl, has⟩
  · cases as with
    | nil => simp_all
    | cons a as =>
      obtain ⟨rfl, -⟩ := List.cons.inj has
      simp only [List.flatten_append, List.flatten_cons, List.length_append] at hp
      omega
  · cases as with
    | nil => simp_all
    | cons a as =>
      obtain ⟨rfl, -⟩ := List.cons.inj has
      simp only [List.flatten_append, List.flatten_cons, List.length_append] at hp
      omega

/-! ## Moving -/

theorem iovMoveForwardLoop_spec (pre : List ℕ) (rest : IovBlist) (offset res : ℕ) :
    let r := iovMoveForwardLoop rest pre.length offset res
    r.1 = res + min offset rest.flatten.length ∧
      IovIterNormal (pre ++ iovLens rest) r.2 ∧
      iovIterPos (pre ++ iovLens rest) r.2 = pre.sum + min offset rest.flatten.length := by
  induction rest generalizing pre offset res with
  | nil => simp [iovMoveForwardLoop, iovIterNormal_none]
  | cons e rest ih =>
    by_cases h : offset < e.length
    · simp only [iovMoveForwardLoop, if_pos h, iovLens_cons]
      refine ⟨?_, iovIterNormal_some rfl h, ?_⟩
      · simp only [List.flatten_cons, List.length_append]
        omega
      · rw [iovIterPos_some rfl]
        simp only [List.flatten_cons, List.length_append]
        omega
    · simp only [iovMoveForwardLoop, if_neg h, iovLens_cons]
      have ih' := ih (pre ++ [e.length]) (offset - e.length) (res + e.length)
      simp only [List.length_append, List.length_singleton, List.append_assoc,
        List.singleton_append, List.sum_append, List.sum_singleton] at ih'
      refine ⟨?_, ih'.2.1, ?_⟩
      · simp only [ih'.1, List.flatten_cons, List.length_append]
        omega
      · simp only [ih'.2.2, List.flatten_cons, List.length_append]
        omega

theorem iovIteratorMoveForward_spec {l : IovBlist} {it : IovBlistIter}
    (h : IovIterWithin (iovLens l) it) (n : ℕ) :
    let r := iovIteratorMoveForward l it n
    r.1 = min n (l.flatten.length - iovIterPos (iovLens l) it) ∧
      IovIterNormal (iovLens l) r.2 ∧
      iovIterPos (iovLens l) r.2 = iovIterPos (iovLens l) it + r.1 := by
  obtain ⟨_ | i, o⟩ := it
  · simp [iovIteratorMoveForward, iovIterNormal_none, sum_iovLens]
  · obtain ⟨pre, e, post, rfl, rfl, ho, hp⟩ := h.split
    rw [hp]
    by_cases hlt : e.length - o > n
    · simp only [iovIteratorMoveForward, List.drop_left, if_pos hlt, iovLens_append, iovLens_cons,
        List.flatten_append, List.flatten_cons, List.length_append]
      refine ⟨by omega, iovIterNormal_some (length_iovLens pre) (by omega), ?_⟩
      rw [iovIterPos_some (length_iovLens pre), sum_iovLens]
      omega
    · have hloop := iovMoveForwardLoop_spec (iovLens pre ++ [e.length]) post
        (n - (e.length - o)) (e.length - o)
      simp only [List.length_append, List.length_singleton, length_iovLens, List.append_assoc,
        List.singleton_append, List.sum_append, List.sum_singleton, sum_iovLens] at hloop
      simp only [iovIteratorMoveForward, List.drop_left, if_neg hlt, iovLens_append, iovLens_cons,
        List.flatten_append, List.flatten_cons, List.length_append]
      refine ⟨?_, hloop.2.1, ?_⟩
      · rw [hloop.1]
        omega
      · rw [hloop.1, hloop.2.2]
        omega

theorem iovElemLen_append (pre : IovBlist) (e : IovElem) (post : IovBlist) :
    iovElemLen (pre ++ e :: post) pre.length = e.length := by
  simp [iovElemLen]

theorem iovMoveBackwardLoop_spec (pre post : IovBlist) (offset remBytes subBytes : ℕ)
    (h : 0 < remBytes) (hle : remBytes ≤ pre.flatten.length) :
    let r := iovMoveBackwardLoop (pre ++ post) offset pre.length remBytes subBytes
    r.1 = subBytes + remBytes ∧ IovIterNormal (iovLens (pre ++ post)) r.2 ∧
      iovIteratorIsValid r.2 ∧
      iovIterPos (iovLens (pre ++ post)) r.2 = pre.flatten.length - remBytes := by
  induction pre using List.reverseRecOn generalizing post remBytes subBytes with
  | nil => simp at hle; omega
  | append_singleton pre e ih =>
    simp only [List.length_append, List.length_singleton, iovMoveBackwardLoop, List.append_assoc,
      List.singleton_append, List.flatten_append, List.flatten_singleton] at hle ⊢
    rw [show ((pre ++ e :: post).getD pre.length []).length = e.length from
      iovElemLen_append pre e post]
    by_cases hr : remBytes ≤ e.length
    · rw [if_pos hr, iovLens_append, iovLens_cons]
      refine ⟨rfl, iovIterNormal_some (length_iovLens pre) (by omega), rfl, ?_⟩
      rw [iovIterPos_some (length_iovLens pre), sum_iovLens]
      omega
    · rw [if_neg hr]
      have ih' := ih (e :: post) (remBytes - e.length) (subBytes + e.length) (by omega) (by omega)
      refine ⟨by rw [ih'.1]; omega, ih'.2.1, ih'.2.2.1, by rw [ih'.2.2.2]; omega⟩

/-- Stepping back over bytes that precede the iterator. -/
theorem iovIteratorMoveBackward_spec {l : IovBlist} {it : IovBlistIter}
    (h : IovIterNormal (iovLens l) it) (hv : iovIteratorIsValid it) {n : ℕ}
    (hn : n ≤ iovIterPos (iovLens l) it) :
    let r := iovIteratorMoveBackward l it n
    r.1 = n ∧ IovIterNormal (iovLens l) r.2 ∧ iovIteratorIsValid r.2 ∧
      iovIterPos (iovLens l) r.2 = iovIterPos (iovLens l) it - n := by
  obtain ⟨_ | i, o⟩ := it
  · simp [iovIteratorIsValid] at hv
  · obtain ⟨pre, e, post, rfl, rfl, ho, hp⟩ := h.split
    rw [hp] at hn ⊢
    by_cases hle : o ≥ n
    · simp only [iovIteratorMoveBackward, if_pos hle, iovLens_append, iovLens_cons]
      refine ⟨trivial, iovIterNormal_some (length_iovLens pre) (by omega), rfl, ?_⟩
      rw [iovIterPos_some (length_iovLens pre), sum_iovLens]
      omega
    · simp only [iovIteratorMoveBackward, if_neg hle]
      have hloop := iovMoveBackwardLoop_spec pre (e :: post) o (n - o) o (by omega) (by omega)
      refine ⟨by rw [hloop.1]; omega, hloop.2.1, hloop.2.2.1, by rw [hloop.2.2.2]; omega⟩

/-! ## Going through a chain piece by piece -/

section Pieces

variable {σ : Type*} {piece : σ → IovElem → ℕ → ℕ → σ × IovElem}
  {R : σ → List UInt8 → σ → List UInt8 → Prop}

/-- `R s xs s' ys` is what the pieces do to a string `xs` in the state `s`: they leave the state
`s'` and the string becomes `ys`.  It does not matter where the string is cut. -/
structure PieceMeaning (piece : σ → IovElem → ℕ → ℕ → σ × IovElem)
    (R : σ → List UInt8 → σ → List UInt8 → Prop) : Prop where
  nil : ∀ s, R s [] s []
  append : ∀ {s s' s'' xs xs' ys ys'}, R s xs s' xs' → R s' ys s'' ys' →
    R s (xs ++ ys) s'' (xs' ++ ys')
  piece_spec : ∀ s e o n, o + n ≤ e.length →
    ∃ ys, R s ((e.drop o).take n) (piece s e o n).1 ys ∧ ys.length = n ∧
      (piece s e o n).2 = e.take o ++ ys ++ e.drop (o + n)

/-- Handling `len` bytes of a chain from its byte `p` on, where the iterator `it` stands. -/
structure PiecesDone (R : σ → List UInt8 → σ → List UInt8 → Prop) (l : IovBlist)
    (it : IovBlistIter) (p len : ℕ) (s : σ) (r : ℕ × IovBlistIter × σ × IovBlist) : Prop where
  count : r.1 = min len (l.flatten.length - p)
  pos : iovIterPos (iovLens l) r.2.1 = p + r.1
  within : IovIterWithin (iovLens l) r.2.1
  normal : [] ∉ l → IovIterNormal (iovLens l) it → IovIterNormal (iovLens l) r.2.1
  lens : iovLens r.2.2.2 = iovLens l
  handled : ∃ ys, R s ((l.flatten.drop p).take len) r.2.2.1 ys ∧
    r.2.2.2.flatten = l.flatten.take p ++ ys ++ l.flatten.drop (p + len)

theorem iovPiecesLoop_spec (hR : PieceMeaning piece R) (pre rest : IovBlist) (len res : ℕ) (s : σ) :
    let r := iovPiecesLoop piece rest pre.length len res s
    r.1 = res + min len rest.flatten.length ∧
      iovIterPos (iovLens (pre ++ rest)) r.2.1 =
        pre.flatten.length + min len rest.flatten.length ∧
      IovIterWithin (iovLens (pre ++ rest)) r.2.1 ∧
      ([] ∉ rest → IovIterNormal (iovLens (pre ++ rest)) r.2.1) ∧
      iovLens r.2.2.2 = iovLens rest ∧
      ∃ ys, R s (rest.flatten.take len) r.2.2.1 ys ∧
        r.2.2.2.flatten = ys ++ rest.flatten.drop len := by
  induction rest generalizing pre len res s with
  | nil =>
    simp only [iovPiecesLoop, List.append_nil, List.flatten_nil, List.take_nil, List.drop_nil,
      List.length_nil, Nat.min_zero, Nat.add_zero, iovIterPos_none, sum_iovLens]
    exact ⟨trivial, trivial, (iovIterNormal_none _ _).within, fun _ => iovIterNormal_none _ _,
      trivial, [], hR.nil s, rfl⟩
  | cons e rest ih =>
    by_cases h0 : len = 0
    · subst h0
      simp only [iovPiecesLoop, if_true, iovLens_append, iovLens_cons, Nat.zero_min, Nat.add_zero,
        List.take_zero, List.drop_zero, iovIterPos_some (length_iovLens pre), sum_iovLens, true_and]
      refine ⟨iovIterWithin_some (length_iovLens pre) (Nat.zero_le _), fun he => ?_, [],
        hR.nil s, rfl⟩
      refine iovIterNormal_some (length_iovLens pre) (List.length_pos_of_ne_nil ?_)
      rintro rfl
      exact he List.mem_cons_self
    · by_cases hlt : e.length > len
      · obtain ⟨ys, hs, hlen, hel⟩ := hR.piece_spec s e 0 len (by omega)
        have ht : (e ++ rest.flatten).take len = e.take len := List.take_append_of_le_length hlt.le
        have hd : (e ++ rest.flatten).drop len = e.drop len ++ rest.flatten :=
          List.drop_append_of_le_length hlt.le
        simp only [List.drop_zero, List.take_zero, List.nil_append, Nat.zero_add] at hs hel
        simp only [iovPiecesLoop, if_neg h0, if_pos hlt, hel, List.flatten_cons, ht, hd,
          iovLens_append, iovLens_cons, iovIterPos_some (length_iovLens pre), sum_iovLens,
          List.length_append, List.append_assoc, List.length_drop, hlen]
        refine ⟨by omega, by omega, iovIterWithin_some (length_iovLens pre) hlt.le,
          fun _ => iovIterNormal_some (length_iovLens pre) hlt, ?_, ys, hs, rfl⟩
        congr 1
        omega
      · obtain ⟨ys, hs, hlen, hel⟩ := hR.piece_spec s e 0 e.length (by omega)
        simp only [List.drop_zero, List.take_zero, List.nil_append, Nat.zero_add,
          List.take_length, List.drop_length, List.append_nil] at hs hel
        have ht : (e ++ rest.flatten).take len = e ++ rest.flatten.take (len - e.length) := by
          rw [List.take_append, List.take_of_length_le (by omega)]
        have hd : (e ++ rest.flatten).drop len = rest.flatten.drop (len - e.length) := by
          rw [List.drop_append, List.drop_eq_nil_of_le (by omega), List.nil_append]
        have ih' := ih (pre ++ [e]) (len - e.length) (res + e.length) (piece s e 0 e.length).1
        simp only [List.length_append, List.length_singleton, List.append_assoc,
          List.singleton_append, List.flatten_append, List.flatten_singleton] at ih'
        obtain ⟨hc, hpos, hw, hn, hl, zs, hz, hb⟩ := ih'
        simp only [iovPiecesLoop, if_neg h0, if_neg hlt, hel, List.flatten_cons, ht, hd, hb,
          iovLens_cons, hl, hc, hpos, List.length_append, hlen]
        refine ⟨by omega, by omega, hw, fun he => hn fun h => he (List.mem_cons_of_mem _ h),
          trivial, ys ++ zs, hR.append hs hz, ?_⟩
        rw [List.append_assoc]

theorem iovPieces_spec (hR : PieceMeaning piece R) {l : IovBlist} {it : IovBlistIter}
    (h : IovIterWithin (iovLens l) it) (len : ℕ) (s : σ) :
    PiecesDone R l it (iovIterPos (iovLens l) it) len s (iovPieces piece l it len s) := by
  by_cases h0 : len = 0
  · subst h0
    simp only [iovPieces, if_true]
    refine ⟨by simp, by simp, h, fun _ hn => hn, rfl, [], hR.nil s, ?_⟩
    rw [List.append_nil, Nat.add_zero, List.take_append_drop]
  obtain ⟨_ | i, o⟩ := it
  · rw [iovIterPos_none, sum_iovLens]
    simp only [iovPieces, if_neg h0]
    refine ⟨by simp, by simp [sum_iovLens], h, fun _ hn => hn, rfl, [], ?_, ?_⟩
    · rw [List.drop_length, List.take_nil]
      exact hR.nil s
    · rw [List.take_length, List.drop_eq_nil_of_le (Nat.le_add_right _ _), List.append_nil,
        List.append_nil]
  · obtain ⟨pre, e, post, rfl, rfl, ho, hp⟩ := h.split
    rw [hp]
    have htake : (pre ++ e :: post).flatten.take (pre.flatten.length + o) =
        pre.flatten ++ e.take o := by
      simp [List.take_append, List.take_of_length_le, Nat.sub_eq_zero_of_le ho]
    have hdrop : (pre ++ e :: post).flatten.drop (pre.flatten.length + o) =
        e.drop o ++ post.flatten := by
      simp [List.drop_append, Nat.sub_eq_zero_of_le ho]
    by_cases hlt : e.length - o > len
    · obtain ⟨ys, hs, hlen, hel⟩ := hR.piece_spec s e o len (by omega)
      have ht : (e.drop o ++ post.flatten).take len = (e.drop o).take len :=
        List.take_append_of_le_length (by simp only [List.length_drop]; omega)
      have hd : (pre ++ e :: post).flatten.drop (pre.flatten.length + o + len) =
          e.drop (o + len) ++ post.flatten := by
        rw [← List.drop_drop, hdrop, List.drop_append_of_le_length
          (by simp only [List.length_drop]; omega), List.drop_drop]
      simp only [iovPieces, if_neg h0, List.drop_left, if_pos hlt, hel, List.take_left]
      constructor
      · simp only [List.flatten_append, List.flatten_cons, List.length_append]
        omega
      · simp only [iovLens_append, iovIterPos_some (length_iovLens pre), sum_iovLens]
        omega
      · rw [iovLens_append, iovLens_cons]
        exact iovIterWithin_some (length_iovLens pre) (by omega)
      · intro _ _
        rw [iovLens_append, iovLens_cons]
        exact iovIterNormal_some (length_iovLens pre) (by omega)
      · simp only [iovLens_append, iovLens_cons, List.length_append, hlen, List.length_take,
          List.length_drop]
        congr 2
        omega
      · refine ⟨ys, by rw [hdrop, ht]; exact hs, ?_⟩
        rw [htake, hd]
        simp only [List.flatten_append, List.flatten_cons, List.append_assoc]
    · obtain ⟨ys, hs, hlen, hel⟩ := hR.piece_spec s e o (e.length - o) (by omega)
      rw [List.take_of_length_le (by simp)] at hs
      rw [show o + (e.length - o) = e.length by omega, List.drop_length, List.append_nil] at hel
      have ht : (e.drop o ++ post.flatten).take len =
          e.drop o ++ post.flatten.take (len - (e.length - o)) := by
        rw [List.take_append, List.take_of_length_le (by simp only [List.length_drop]; omega),
          List.length_drop]
      have hd : (pre ++ e :: post).flatten.drop (pre.flatten.length + o + len) =
          post.flatten.drop (len - (e.length - o)) := by
        rw [← List.drop_drop, hdrop, List.drop_append, List.drop_eq_nil_of_le
          (by simp only [List.length_drop]; omega), List.nil_append, List.length_drop]
      have hloop := iovPiecesLoop_spec hR (pre ++ [e]) post (len - (e.length - o)) (e.length - o)
        (piece s e o (e.length - o)).1
      simp only [List.length_append, List.length_singleton, List.append_assoc,
        List.singleton_append, List.flatten_append, List.flatten_singleton] at hloop
      obtain ⟨hc, hpos, hw, hnl, hlens, zs, hz, hb⟩ := hloop
      simp only [iovPieces, if_neg h0, List.drop_left, if_neg hlt, hel, List.take_left]
      constructor
      · simp only [hc, List.flatten_append, List.flatten_cons, List.length_append]
        omega
      · rw [hpos, hc]
        omega
      · exact hw
      · intro he _
        exact hnl fun hmem => he (by simp [hmem])
      · simp only [iovLens_append, iovLens_cons, hlens, List.length_append, hlen,
          List.length_take]
        congr 2
        omega
      · refine ⟨ys ++ zs, by rw [hdrop, ht]; exact hR.append hs hz, ?_⟩
        rw [htake, hd]
        simp only [List.flatten_append, List.flatten_cons, hb, List.append_assoc]

end Pieces

end Whip6
