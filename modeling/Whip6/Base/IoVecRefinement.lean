import Whip6.Base.IoVecCursor

/-!
# The operations on I/O vectors

Reading, writing, copying and serializing through an iterator, and access at an offset, do to a
chain what the same operations on a cursor do to the concatenation of its elements.
-/

namespace Whip6

open Lib

/-! ## Reading and writing -/

theorem readPiece_meaning :
    PieceMeaning readPiece fun s xs s' ys =>
      ys = xs ∧ s' = (splice s.1 s.2 xs, s.2 + xs.length) where
  nil := fun s => by simp
  append := by
    rintro s s' s'' xs xs' ys ys' ⟨rfl, rfl⟩ ⟨rfl, rfl⟩
    simp [splice_splice_adjacent, Nat.add_assoc]
  piece_spec := fun s e o n h => by
    have hlen : ((e.drop o).take n).length = n := by
      simp only [List.length_take, List.length_drop]
      omega
    refine ⟨_, ⟨rfl, ?_⟩, hlen, ?_⟩
    · rw [readPiece, longMemCpy_eq_splice, hlen]
    · rw [List.append_assoc, ← List.drop_drop, List.take_append_drop, List.take_append_drop]
      rfl

theorem writePiece_meaning :
    PieceMeaning writePiece fun s xs s' ys => ys = splice xs 0 s ∧ s' = s.drop xs.length where
  nil := fun s => by simp
  append := by
    rintro s s' s'' xs xs' ys ys' ⟨rfl, rfl⟩ ⟨rfl, rfl⟩
    simp only [List.length_append, List.drop_drop, splice_append_of_ge ys s (Nat.zero_le _),
      Nat.sub_zero, and_self]
  piece_spec := fun s e o n h => by
    have hlen : ((e.drop o).take n).length = n := by
      simp only [List.length_take, List.length_drop]
      omega
    refine ⟨_, ⟨rfl, ?_⟩, by rw [length_splice, hlen], ?_⟩
    · rw [writePiece, hlen]
    · rw [writePiece, longMemCpy_eq_splice, splice_eq_take_append _ _ (by omega)]

/-- Reading from an iterator, which need not be normalised. -/
theorem iovIteratorRead_within {l : IovBlist} {it : IovBlistIter}
    (h : IovIterWithin (iovLens l) it) (buf : List UInt8) (bufLen : ℕ) :
    let p := iovIterPos (iovLens l) it
    let r := iovIteratorReadAndMoveForward l it (some buf) bufLen
    r.1 = min bufLen (l.flatten.length - p) ∧ iovIterPos (iovLens l) r.2.1 = p + r.1 ∧
      ([] ∉ l → IovIterNormal (iovLens l) it → IovIterNormal (iovLens l) r.2.1) ∧
      r.2.2 = some (splice buf 0 ((l.flatten.drop p).take bufLen)) := by
  have hd := iovPieces_spec readPiece_meaning h bufLen (buf, 0)
  obtain ⟨ys, ⟨-, hs⟩, -⟩ := hd.handled
  exact ⟨hd.count, hd.pos, hd.normal, congrArg (fun s : List UInt8 × ℕ => some s.1) hs⟩

theorem iovIteratorRead_spec {l : IovBlist} {it : IovBlistIter} {c : Cursor UInt8} (hne : [] ∉ l)
    (h : Denotes l it c) (buf : List UInt8) (bufLen : ℕ) :
    let r := iovIteratorReadAndMoveForward l it (some buf) bufLen
    r.1 = c.fit bufLen ∧ Denotes l r.2.1 (c.forward bufLen) ∧
      r.2.2 = some (splice buf 0 (c.read bufLen)) := by
  obtain ⟨hcount, hpos, hnormal, hbuf⟩ := iovIteratorRead_within h.normal.within buf bufLen
  have hfit : (iovIteratorReadAndMoveForward l it (some buf) bufLen).1 = c.fit bufLen := by
    rw [hcount, Cursor.fit, Cursor.avail, h.text, h.pos]
  refine ⟨hfit, ⟨hnormal hne h.normal, h.text, ?_⟩, ?_⟩
  · rw [Cursor.pos_forward, ← hfit, h.pos, hpos]
  · rw [hbuf, Cursor.read, h.text, h.pos]

theorem iovIteratorWrite_spec {l : IovBlist} {it : IovBlistIter} {c : Cursor UInt8} (hne : [] ∉ l)
    (h : Denotes l it c) (buf : List UInt8) {bufLen : ℕ} (hlen : bufLen ≤ buf.length) :
    let r := iovIteratorWriteAndMoveForward l it (some buf) bufLen
    r.1 = c.fit bufLen ∧ Denotes r.2.2 r.2.1 (c.write (buf.take bufLen)) ∧
      iovLens r.2.2 = iovLens l := by
  have hd := iovPieces_spec writePiece_meaning h.normal.within bufLen buf
  have hcount : (iovIteratorWriteAndMoveForward l it (some buf) bufLen).1 = c.fit bufLen := by
    rw [Cursor.fit, Cursor.avail, h.text, h.pos]
    exact hd.count
  refine ⟨hcount, ⟨?_, ?_, ?_⟩, hd.lens⟩
  · exact hd.lens.symm ▸ hd.normal hne h.normal
  · have hp : c.pos ≤ l.flatten.length := h.text ▸ c.pos_le
    obtain ⟨ys, ⟨rfl, -⟩, hb⟩ := hd.handled
    rw [Cursor.text_write, h.text, splice_eq_take_append _ _ hp, h.pos]
    exact hb.symm
  · rw [Cursor.pos_write, List.length_take, Nat.min_eq_left hlen, ← hcount, h.pos]
    exact (Eq.trans (congrArg (iovIterPos · _) hd.lens) hd.pos).symm

/-! ## Serializing -/

/-- Passing a byte: to the next byte of the element, or to the next element. -/
theorem iovAdvance_within (pre : IovBlist) (e : IovElem) (post : IovBlist) {o : ℕ}
    (ho : o ≤ e.length) :
    let it : IovBlistIter :=
      if o ≥ e.length then ⟨iovNext (pre ++ e :: post) pre.length, 0⟩ else ⟨some pre.length, o⟩
    IovIterWithin (iovLens (pre ++ e :: post)) it ∧
      iovIterPos (iovLens (pre ++ e :: post)) it = pre.flatten.length + o := by
  by_cases h : o ≥ e.length
  · simp only [if_pos h]
    cases post with
    | nil =>
      have hnext : iovNext (pre ++ [e]) pre.length = none := by simp [iovNext]
      rw [hnext, iovIterPos_none, sum_iovLens]
      refine ⟨(iovIterNormal_none _ _).within, ?_⟩
      simp only [List.flatten_append, List.flatten_singleton, List.length_append]
      omega
    | cons e' post =>
      have hnext : iovNext (pre ++ e :: e' :: post) pre.length = some (pre.length + 1) := by
        simp [iovNext]
      have hsplit : iovLens (pre ++ e :: e' :: post) =
          (iovLens pre ++ [e.length]) ++ e'.length :: iovLens post := by simp
      have hlen : (iovLens pre ++ [e.length]).length = pre.length + 1 := by simp
      rw [hnext, hsplit, iovIterPos_some hlen]
      refine ⟨iovIterWithin_some hlen (Nat.zero_le _), ?_⟩
      rw [List.sum_append, List.sum_singleton, sum_iovLens]
      omega
  · simp only [if_neg h, iovLens_append, iovLens_cons]
    refine ⟨iovIterWithin_some (length_iovLens pre) ho, ?_⟩
    rw [iovIterPos_some (length_iovLens pre), sum_iovLens]

/-- Without empty elements behind it, the iterator points to a byte again. -/
theorem iovAdvance_normal (pre : IovBlist) (e : IovElem) (post : IovBlist) {o : ℕ}
    (hne : [] ∉ post) :
    IovIterNormal (iovLens (pre ++ e :: post))
      (if o ≥ e.length then ⟨iovNext (pre ++ e :: post) pre.length, 0⟩
        else ⟨some pre.length, o⟩) := by
  by_cases h : o ≥ e.length
  · rw [if_pos h]
    cases post with
    | nil =>
      have hnext : iovNext (pre ++ [e]) pre.length = none := by simp [iovNext]
      rw [hnext]
      exact iovIterNormal_none _ _
    | cons e' post =>
      have hnext : iovNext (pre ++ e :: e' :: post) pre.length = some (pre.length + 1) := by
        simp [iovNext]
      have hsplit : iovLens (pre ++ e :: e' :: post) =
          (iovLens pre ++ [e.length]) ++ e'.length :: iovLens post := by simp
      have he' : 0 < e'.length := List.length_pos_of_ne_nil fun h' => hne (by simp [h'])
      rw [hnext, hsplit]
      exact iovIterNormal_some (by simp) he'
  · rw [if_neg h, iovLens_append, iovLens_cons]
    exact iovIterNormal_some (length_iovLens pre) (by omega)

theorem iovAdvance_spec (pre : IovBlist) (e : IovElem) (post : IovBlist) {o : ℕ}
    (hne : [] ∉ post) (ho : o ≤ e.length) :
    let it : IovBlistIter :=
      if o ≥ e.length then ⟨iovNext (pre ++ e :: post) pre.length, 0⟩ else ⟨some pre.length, o⟩
    IovIterNormal (iovLens (pre ++ e :: post)) it ∧
      iovIterPos (iovLens (pre ++ e :: post)) it = pre.flatten.length + o :=
  ⟨iovAdvance_normal pre e post hne, (iovAdvance_within pre e post ho).2⟩

theorem iovModify_append (pre : IovBlist) (e : IovElem) (post : IovBlist) (g : IovElem → IovElem) :
    (pre ++ e :: post).modify pre.length g = pre ++ g e :: post := by
  induction pre with
  | nil => rfl
  | cons a pre ih => simpa using ih

theorem iovSetByte_append (pre : IovBlist) (e : IovElem) (post : IovBlist) (o : ℕ) (b : UInt8) :
    iovSetByte (pre ++ e :: post) pre.length o b = pre ++ e.set o b :: post :=
  iovModify_append pre e post _

theorem iovNext_congr {l l' : IovBlist} (h : iovLens l = iovLens l') (i : ℕ) :
    iovNext l i = iovNext l' i := by
  have hlen : l.length = l'.length := by
    rw [← length_iovLens l, h, length_iovLens]
  rw [iovNext, iovNext, hlen]

theorem iovLens_set (pre : IovBlist) (e : IovElem) (post : IovBlist) (o : ℕ) (b : UInt8) :
    iovLens (pre ++ e.set o b :: post) = iovLens (pre ++ e :: post) := by
  simp

/-- Writing within one element of a chain. -/
theorem flatten_splice_elem (pre : IovBlist) (e : IovElem) (post : IovBlist) (o : ℕ)
    (ys : List UInt8) (h : o + ys.length ≤ e.length) :
    (pre ++ splice e o ys :: post).flatten =
      splice (pre ++ e :: post).flatten (pre.flatten.length + o) ys := by
  have hnil : ys.drop (e.length - o) = [] := List.drop_eq_nil_of_le (by omega)
  simp only [List.flatten_append, List.flatten_cons]
  rw [splice_append_of_le _ _ (Nat.le_add_right _ _), Nat.add_sub_cancel_left,
    splice_append_of_ge _ _ (by omega), hnil, splice_nil]

theorem iovIteratorSerializeUInt8_spec {l : IovBlist} {it : IovBlistIter} {c : Cursor UInt8}
    (hne : [] ∉ l) (h : Denotes l it c) (b : UInt8) :
    let r := iovIteratorSerializeUInt8AndMoveForward l it b
    if 1 ≤ c.avail then r.1 = 0 ∧ Denotes r.2.2 r.2.1 (c.write [b]) ∧ iovLens r.2.2 = iovLens l
    else r = (1, it, l) := by
  obtain ⟨_ | i, o⟩ := it
  · have hav : ¬ 1 ≤ c.avail := by
      simp [Cursor.avail, h.text, h.pos, sum_iovLens]
    rw [if_neg hav]
    rfl
  · have hpos := h.pos
    have htext := h.text
    obtain ⟨pre, e, post, rfl, rfl, ho, hp⟩ := h.normal.split
    have hav : 1 ≤ c.avail := by
      rw [Cursor.avail, htext, hpos, hp]
      simp only [List.flatten_append, List.flatten_cons, List.length_append]
      omega
    have hadv := iovAdvance_spec pre e post (o := o + 1) (fun h => hne (by simp [h])) ho
    rw [if_pos hav]
    have hr : iovIteratorSerializeUInt8AndMoveForward (pre ++ e :: post) ⟨some pre.length, o⟩ b =
        (0, if o + 1 ≥ e.length then ⟨iovNext (pre ++ e :: post) pre.length, 0⟩
          else ⟨some pre.length, o + 1⟩, pre ++ e.set o b :: post) := by
      simp only [iovIteratorSerializeUInt8AndMoveForward, iovElemLen_append, iovSetByte_append]
      split_ifs <;> rfl
    rw [hr]
    refine ⟨rfl, ⟨?_, ?_, ?_⟩, iovLens_set pre e post o b⟩
    · exact (iovLens_set pre e post o b).symm ▸ hadv.1
    · rw [Cursor.text_write, htext, hpos, hp, set_eq_splice]
      exact (flatten_splice_elem pre e post o [b] ho).symm
    · rw [Cursor.pos_write, hpos, hp, iovLens_set, hadv.2, Cursor.fit,
        List.length_singleton, Nat.min_eq_left hav, Nat.add_assoc]

/-- With room for it, a word is serialized as its two bytes. -/
theorem iovIteratorSerializeUInt16_eq {l : IovBlist} {it : IovBlistIter} {c : Cursor UInt8}
    (h : Denotes l it c) (w : UInt16) (hav : 2 ≤ c.avail) :
    iovIteratorSerializeUInt16AndMoveForward l it w =
      let r := iovIteratorSerializeUInt8AndMoveForward l it (w >>> 8).toUInt8
      iovIteratorSerializeUInt8AndMoveForward r.2.2 r.2.1 w.toUInt8 := by
  obtain ⟨_ | i, o⟩ := it
  · simp [Cursor.avail, h.text, h.pos, sum_iovLens] at hav
  · have hpos := h.pos
    have htext := h.text
    obtain ⟨pre, e, post, rfl, rfl, ho, hp⟩ := h.normal.split
    rw [Cursor.avail, htext, hpos, hp] at hav
    simp only [List.flatten_append, List.flatten_cons, List.length_append] at hav
    have hlen : ∀ o b, iovElemLen (pre ++ e.set o b :: post) pre.length = e.length := by
      intro o b
      rw [iovElemLen_append, List.length_set]
    have hnext : ∀ o b i, iovNext (pre ++ e.set o b :: post) i = iovNext (pre ++ e :: post) i :=
      fun o b => iovNext_congr (iovLens_set pre e post o b)
    by_cases hlt : e.length ≥ o + 2
    · have h1 : ¬ (o + 1 ≥ e.length) := by omega
      simp only [iovIteratorSerializeUInt16AndMoveForward, iovIteratorSerializeUInt8AndMoveForward,
        iovElemLen_append, iovSetByte_append, if_pos hlt, if_neg h1, hlen]
    · have h1 : o + 1 ≥ e.length := by omega
      have hsome : iovNext (pre ++ e :: post) pre.length = some (pre.length + 1) := by
        rw [iovNext, if_pos]
        cases post with
        | nil => simp at hav; omega
        | cons e' post => simp
      simp only [iovIteratorSerializeUInt16AndMoveForward, iovIteratorSerializeUInt8AndMoveForward,
        iovElemLen_append, iovSetByte_append, if_neg hlt, if_pos h1, hnext, hsome, Nat.zero_add]

theorem iovIteratorSerializeUInt16_spec {l : IovBlist} {it : IovBlistIter} {c : Cursor UInt8}
    (hne : [] ∉ l) (h : Denotes l it c) (w : UInt16) :
    let r := iovIteratorSerializeUInt16AndMoveForward l it w
    if 2 ≤ c.avail then
      r.1 = 0 ∧ Denotes r.2.2 r.2.1 (c.write [(w >>> 8).toUInt8, w.toUInt8]) ∧
        iovLens r.2.2 = iovLens l
    else
      r.1 = 2 - c.avail ∧ r.2.1 = it ∧ iovLens r.2.2 = iovLens l ∧
        r.2.2.flatten = splice c.text c.pos ([(w >>> 8).toUInt8].take c.avail) := by
  by_cases hav : 2 ≤ c.avail
  · have h1 := iovIteratorSerializeUInt8_spec hne h (w >>> 8).toUInt8
    rw [if_pos (by omega)] at h1
    obtain ⟨-, hden, hl⟩ := h1
    have hne' := hne
    have hav' : 1 ≤ (c.write [(w >>> 8).toUInt8]).avail := by
      rw [Cursor.avail_write, List.length_singleton]
      omega
    have hmem : ∀ l : IovBlist, [] ∉ l ↔ 0 ∉ iovLens l := by
      simp [iovLens]
    rw [hmem, ← hl, ← hmem] at hne'
    have h2 := iovIteratorSerializeUInt8_spec hne' hden w.toUInt8
    rw [if_pos hav', Cursor.write_write _ _ (by simpa using by omega)] at h2
    rw [if_pos hav]
    simp only [iovIteratorSerializeUInt16_eq h w hav]
    exact ⟨h2.1, h2.2.1, h2.2.2.trans hl⟩
  · rw [if_neg hav]
    obtain ⟨_ | i, o⟩ := it
    · have h0 : c.avail = 0 := by simp [Cursor.avail, h.text, h.pos, sum_iovLens]
      simp [iovIteratorSerializeUInt16AndMoveForward, h0, h.text]
    · have hpos := h.pos
      have htext := h.text
      obtain ⟨pre, e, post, rfl, rfl, ho, hp⟩ := h.normal.split
      have hpost : post = [] := by
        cases post with
        | nil => rfl
        | cons e' post =>
          have he' : 0 < e'.length := List.length_pos_of_ne_nil fun h' => hne (by simp [h'])
          rw [Cursor.avail, htext, hpos, hp] at hav
          simp only [List.flatten_append, List.flatten_cons, List.length_append] at hav
          omega
      subst hpost
      rw [Cursor.avail, htext, hpos, hp] at hav
      have h1 : c.avail = 1 := by
        rw [Cursor.avail, htext, hpos, hp]
        simp only [List.flatten_append, List.flatten_singleton, List.length_append] at hav ⊢
        omega
      have hlt : ¬ (e.length ≥ o + 2) := by
        simp only [List.flatten_append, List.flatten_singleton, List.length_append] at hav
        omega
      have hnone : iovNext (pre ++ [e]) pre.length = none := by
        simp [iovNext]
      simp only [iovIteratorSerializeUInt16AndMoveForward, iovElemLen_append, iovSetByte_append,
        if_neg hlt, hnone, h1, iovLens_set, true_and]
      rw [htext, hpos, hp, set_eq_splice]
      exact flatten_splice_elem pre e [] o [(w >>> 8).toUInt8] ho

/-! ## Copying between chains -/

/-- The number of elements of a chain that an iterator has not left yet. -/
def iovElemsAhead (l : IovBlist) (it : IovBlistIter) : ℕ :=
  match it.currElem with
  | none => 0
  | some i => l.length - i

theorem iovElemsAhead_some (pre : IovBlist) (e : IovElem) (post : IovBlist) (o : ℕ) :
    iovElemsAhead (pre ++ e :: post) ⟨some pre.length, o⟩ = post.length + 1 := by
  simp [iovElemsAhead]

/-- An iterator moved within its element or to the next one. -/
theorem iovElemsAhead_advance (pre : IovBlist) (e : IovElem) (post : IovBlist) (o : ℕ) :
    iovElemsAhead (pre ++ e :: post)
        (if o ≥ e.length then ⟨iovNext (pre ++ e :: post) pre.length, 0⟩
          else ⟨some pre.length, o⟩) =
      if o ≥ e.length then post.length else post.length + 1 := by
  by_cases h : o ≥ e.length
  · rw [if_pos h, if_pos h]
    cases post with
    | nil => simp [iovNext, iovElemsAhead]
    | cons e' post =>
      have hnext : iovNext (pre ++ e :: e' :: post) pre.length = some (pre.length + 1) := by
        simp [iovNext]
      rw [hnext]
      simp only [iovElemsAhead, List.length_append, List.length_cons]
      omega
  · rw [if_neg h, if_neg h, iovElemsAhead_some]

theorem iovElemsAhead_congr {l l' : IovBlist} (h : iovLens l = iovLens l') (it : IovBlistIter) :
    iovElemsAhead l it = iovElemsAhead l' it := by
  have hlen : l.length = l'.length := by
    rw [← length_iovLens l, h, length_iovLens]
  rw [iovElemsAhead, iovElemsAhead, hlen]

theorem nil_not_mem_iff (l : IovBlist) : [] ∉ l ↔ 0 ∉ iovLens l := by
  simp [iovLens]

/-- One round of the copying loop. -/
theorem iovCopyBytesLoop_round {pre post pre' post' : IovBlist} {e e' : IovElem} {o o' m : ℕ}
    {c d : Cursor UInt8} (hc : Follows (pre ++ e :: post) ⟨some pre.length, o⟩ c)
    (hd : Follows (pre' ++ e' :: post') ⟨some pre'.length, o'⟩ d)
    (hm : o + m ≤ e.length) (hm' : o' + m ≤ e'.length) :
    m ≤ c.avail ∧ m ≤ d.avail ∧
      Follows (pre ++ e :: post)
        (if m = e.length - o then ⟨iovNext (pre ++ e :: post) pre.length, 0⟩
          else ⟨some pre.length, o + m⟩) (c.forward m) ∧
      Follows (pre' ++ longMemCpy (e.drop o) e' o' m :: post')
        (if m = e'.length - o' then ⟨iovNext (pre' ++ e' :: post') pre'.length, 0⟩
          else ⟨some pre'.length, o' + m⟩) (d.write (c.read m)) ∧
      iovLens (pre' ++ longMemCpy (e.drop o) e' o' m :: post') = iovLens (pre' ++ e' :: post') := by
  have hp : c.pos = pre.flatten.length + o := by
    rw [hc.pos, iovLens_append, iovIterPos_some (length_iovLens pre), sum_iovLens]
  have hp' : d.pos = pre'.flatten.length + o' := by
    rw [hd.pos, iovLens_append, iovIterPos_some (length_iovLens pre'), sum_iovLens]
  have hav : m ≤ c.avail := by
    rw [Cursor.avail, hc.text, hp]
    simp only [List.flatten_append, List.flatten_cons, List.length_append]
    omega
  have hav' : m ≤ d.avail := by
    rw [Cursor.avail, hd.text, hp']
    simp only [List.flatten_append, List.flatten_cons, List.length_append]
    omega
  have hread : c.read m = (e.drop o).take m := by
    rw [Cursor.read, hc.text, hp]
    simp only [List.flatten_append, List.flatten_cons, List.drop_append,
      List.drop_eq_nil_of_le (Nat.le_add_right _ _), List.nil_append, Nat.add_sub_cancel_left]
    exact List.take_append_of_le_length (by simp only [List.length_drop]; omega)
  have hlen : (c.read m).length = m := by rw [Cursor.length_read, Cursor.fit, Nat.min_eq_left hav]
  have hlens : iovLens (pre' ++ longMemCpy (e.drop o) e' o' m :: post') =
      iovLens (pre' ++ e' :: post') := by simp [longMemCpy_eq_splice]
  have hcond : (m = e.length - o) = (o + m ≥ e.length) := by
    rw [eq_iff_iff]
    omega
  have hcond' : (m = e'.length - o') = (o' + m ≥ e'.length) := by
    rw [eq_iff_iff]
    omega
  have hadv := iovAdvance_within pre e post hm
  have hadv' := iovAdvance_within pre' e' post' hm'
  simp only [hcond, hcond']
  refine ⟨hav, hav', ⟨hadv.1, hc.text, ?_⟩, ⟨hlens.symm ▸ hadv'.1, ?_, ?_⟩, hlens⟩
  · rw [Cursor.pos_forward, hadv.2, hp, Cursor.fit, Nat.min_eq_left hav, Nat.add_assoc]
  · rw [Cursor.text_write, hd.text, hp', longMemCpy_eq_splice, ← hread]
    exact (flatten_splice_elem pre' e' post' o' (c.read m) (by rw [hlen]; exact hm')).symm
  · rw [Cursor.pos_write, hlens, hadv'.2, hp', Cursor.fit, hlen, Nat.min_eq_left hav',
      Nat.add_assoc]

/-- The loop after a round, around the elements that it works on. -/
theorem iovCopyBytesLoop_succ {pre post pre' post' : IovBlist} {e e' : IovElem}
    {o o' m maxLen res fuel : ℕ} (h0 : maxLen ≠ 0)
    (hm : min (if e.length - o > e'.length - o' then e'.length - o' else e.length - o) maxLen = m) :
    iovCopyBytesLoop (pre ++ e :: post) ⟨some pre.length, o⟩ (pre' ++ e' :: post')
        ⟨some pre'.length, o'⟩ maxLen res (fuel + 1) =
      iovCopyBytesLoop (pre ++ e :: post)
        (if m = e.length - o then ⟨iovNext (pre ++ e :: post) pre.length, 0⟩
          else ⟨some pre.length, o + m⟩)
        (pre' ++ longMemCpy (e.drop o) e' o' m :: post')
        (if m = e'.length - o' then ⟨iovNext (pre' ++ e' :: post') pre'.length, 0⟩
          else ⟨some pre'.length, o' + m⟩) (maxLen - m) (res + m) fuel := by
  have hget : (pre ++ e :: post).getD pre.length [] = e := by simp
  simp only [iovCopyBytesLoop, if_neg h0, iovElemLen_append, hm, iovModify_append, hget]

theorem iovCopyBytesLoop_spec {S D : IovBlist} {si di : IovBlistIter} {c d : Cursor UInt8}
    (hc : Follows S si c) (hd : Follows D di d) (maxLen res fuel : ℕ)
    (hfuel : iovElemsAhead S si + iovElemsAhead D di + (if maxLen = 0 then 0 else 1) ≤ fuel) :
    let r := iovCopyBytesLoop S si D di maxLen res fuel
    let n := min maxLen (min c.avail d.avail)
    r.1 = res + n ∧ Follows S r.2.1 (c.forward n) ∧ Follows r.2.2.2 r.2.2.1 (d.write (c.read n)) ∧
      iovLens r.2.2.2 = iovLens D := by
  -- each round leaves an element of one of the chains or is the last one
  induction fuel generalizing D si di c d maxLen res with
  | zero =>
    have h0 : maxLen = 0 := by
      by_contra h
      rw [if_neg h] at hfuel
      omega
    subst h0
    simp only [iovCopyBytesLoop, Nat.zero_min, Nat.add_zero, Cursor.forward_zero]
    refine ⟨trivial, hc, ?_, trivial⟩
    rw [Cursor.read, List.take_zero, Cursor.write_nil]
    exact hd
  | succ fuel ih =>
    have hstop : min maxLen (min c.avail d.avail) = 0 →
        (res, si, di, D).1 = res + min maxLen (min c.avail d.avail) ∧
          Follows S si (c.forward (min maxLen (min c.avail d.avail))) ∧
          Follows D di (d.write (c.read (min maxLen (min c.avail d.avail)))) ∧
          iovLens D = iovLens D := by
      intro h0
      rw [h0, Cursor.forward_zero, Cursor.read, List.take_zero, Cursor.write_nil]
      exact ⟨rfl, hc, hd, rfl⟩
    obtain ⟨_ | i, o⟩ := si
    · refine hstop ?_
      simp [Cursor.avail, hc.text, hc.pos, sum_iovLens]
    obtain ⟨_ | j, o'⟩ := di
    · refine hstop ?_
      simp [Cursor.avail, hd.text, hd.pos, sum_iovLens]
    by_cases h0 : maxLen = 0
    · subst h0
      exact hstop (Nat.zero_min _)
    obtain ⟨pre, e, post, rfl, rfl, ho, -⟩ := hc.within.split
    obtain ⟨pre', e', post', rfl, rfl, ho', -⟩ := hd.within.split
    generalize hm : min (if e.length - o > e'.length - o' then e'.length - o' else e.length - o)
      maxLen = m
    have hm1 : o + m ≤ e.length := by
      split_ifs at hm <;> omega
    have hm2 : o' + m ≤ e'.length := by
      split_ifs at hm <;> omega
    have hm3 : m = e.length - o ∨ m = e'.length - o' ∨ m = maxLen := by
      split_ifs at hm <;> omega
    have hm4 : m ≤ maxLen := by omega
    obtain ⟨hav, hav', hc', hd', hlens⟩ := iovCopyBytesLoop_round hc hd hm1 hm2
    have hcond : (m = e.length - o) = (o + m ≥ e.length) := by
      rw [eq_iff_iff]
      omega
    have hcond' : (m = e'.length - o') = (o' + m ≥ e'.length) := by
      rw [eq_iff_iff]
      omega
    have hih := ih hc' hd' (maxLen - m) (res + m) (by
      rw [iovElemsAhead_congr hlens]
      simp only [hcond, hcond', iovElemsAhead_advance]
      rw [iovElemsAhead_some, iovElemsAhead_some, if_neg h0] at hfuel
      split_ifs <;> omega)
    have hn : min maxLen (min c.avail d.avail) =
        m + min (maxLen - m) (min (c.forward m).avail (d.write (c.read m)).avail) := by
      rw [Cursor.avail_forward, Cursor.avail_write, Cursor.length_read, Cursor.fit,
        Nat.min_eq_left hav]
      omega
    have hread : (c.read m).length ≤ d.avail := by
      rw [Cursor.length_read, Cursor.fit]
      omega
    rw [iovCopyBytesLoop_succ h0 hm]
    simp only [hn, ← Cursor.forward_forward c _ hav, Cursor.read_add c _ hav,
      ← Cursor.write_write d _ hread]
    refine ⟨?_, hih.2.1, hih.2.2.1, hih.2.2.2.trans hlens⟩
    rw [hih.1, Nat.add_assoc]

theorem length_iovElemsAhead_le (l : IovBlist) (it : IovBlistIter) :
    iovElemsAhead l it ≤ l.length := by
  obtain ⟨_ | i, o⟩ := it
  · exact Nat.zero_le _
  · exact Nat.sub_le _ _

/-- Copying between chains that may have empty elements. -/
theorem iovIteratorCopyBytes_follows {S D : IovBlist} {si di : IovBlistIter} {c d : Cursor UInt8}
    (hc : Follows S si c) (hd : Follows D di d) (maxLen : ℕ) :
    let r := iovIteratorCopyBytesAndMoveForward S si D di maxLen
    let n := min maxLen (min c.avail d.avail)
    r.1 = n ∧ Follows S r.2.1 (c.forward n) ∧ Follows r.2.2.2 r.2.2.1 (d.write (c.read n)) ∧
      iovLens r.2.2.2 = iovLens D := by
  have h := iovCopyBytesLoop_spec hc hd maxLen 0 (S.length + D.length + 1) (by
    have := length_iovElemsAhead_le S si
    have := length_iovElemsAhead_le D di
    split_ifs <;> omega)
  simpa only [Nat.zero_add, iovIteratorCopyBytesAndMoveForward] using h

/-- Without empty elements the iterators point to bytes again. -/
theorem iovCopyBytesLoop_normal {S D : IovBlist} {si di : IovBlistIter} (hS : [] ∉ S)
    (hD : [] ∉ D) (hs : IovIterNormal (iovLens S) si) (hd : IovIterNormal (iovLens D) di)
    (maxLen res fuel : ℕ) :
    let r := iovCopyBytesLoop S si D di maxLen res fuel
    IovIterNormal (iovLens S) r.2.1 ∧ IovIterNormal (iovLens r.2.2.2) r.2.2.1 := by
  induction fuel generalizing D si di maxLen res with
  | zero => exact ⟨hs, hd⟩
  | succ fuel ih =>
    obtain ⟨_ | i, o⟩ := si
    · exact ⟨hs, hd⟩
    obtain ⟨_ | j, o'⟩ := di
    · exact ⟨hs, hd⟩
    by_cases h0 : maxLen = 0
    · subst h0
      exact ⟨hs, hd⟩
    obtain ⟨pre, e, post, rfl, rfl, ho, -⟩ := hs.split
    obtain ⟨pre', e', post', rfl, rfl, ho', -⟩ := hd.split
    generalize hm : min (if e.length - o > e'.length - o' then e'.length - o' else e.length - o)
      maxLen = m
    have hm1 : o + m ≤ e.length := by
      split_ifs at hm <;> omega
    have hm2 : o' + m ≤ e'.length := by
      split_ifs at hm <;> omega
    have hlens : iovLens (pre' ++ longMemCpy (e.drop o) e' o' m :: post') =
        iovLens (pre' ++ e' :: post') := by simp [longMemCpy_eq_splice]
    have hcond : (m = e.length - o) = (o + m ≥ e.length) := by
      rw [eq_iff_iff]
      omega
    have hcond' : (m = e'.length - o') = (o' + m ≥ e'.length) := by
      rw [eq_iff_iff]
      omega
    rw [iovCopyBytesLoop_succ h0 hm]
    refine ih ?_ ?_ ?_ _ _
    · rw [nil_not_mem_iff, hlens, ← nil_not_mem_iff]
      exact hD
    · simp only [hcond]
      exact iovAdvance_normal pre e post fun h => hS (by simp [h])
    · rw [hlens]
      simp only [hcond']
      exact iovAdvance_normal pre' e' post' fun h => hD (by simp [h])

theorem iovIteratorCopyBytes_spec {S D : IovBlist} {si di : IovBlistIter} {c d : Cursor UInt8}
    (hS : [] ∉ S) (hD : [] ∉ D) (hc : Denotes S si c) (hd : Denotes D di d) (maxLen : ℕ) :
    let r := iovIteratorCopyBytesAndMoveForward S si D di maxLen
    let n := min maxLen (min c.avail d.avail)
    r.1 = n ∧ Denotes S r.2.1 (c.forward n) ∧ Denotes r.2.2.2 r.2.2.1 (d.write (c.read n)) ∧
      iovLens r.2.2.2 = iovLens D := by
  intro r n
  obtain ⟨hcount, hsrc, hdst, hlens⟩ := iovIteratorCopyBytes_follows hc.follows hd.follows maxLen
  obtain ⟨hs, ht⟩ := iovCopyBytesLoop_normal hS hD hc.normal hd.normal maxLen 0
    (S.length + D.length + 1)
  exact ⟨hcount, ⟨hs, hsrc.text, hsrc.pos⟩, ⟨ht, hdst.text, hdst.pos⟩, hlens⟩

/-! ## Access at an offset -/

theorem iovLocate_spec (l : IovBlist) (iovOffset : ℕ) :
    let r := iovLocate l iovOffset
    ∃ pre, l = pre ++ r.1 ∧ iovOffset = pre.flatten.length + r.2 ∧
      ∀ e rest, r.1 = e :: rest → r.2 < e.length := by
  induction l generalizing iovOffset with
  | nil => exact ⟨[], by simp [iovLocate]⟩
  | cons e rest ih =>
    by_cases h : iovOffset < e.length
    · simp only [iovLocate, if_pos h]
      refine ⟨[], by simp, by simp, ?_⟩
      rintro e' rest' heq
      obtain ⟨rfl, -⟩ := List.cons.inj heq
      exact h
    · simp only [iovLocate, if_neg h]
      obtain ⟨pre, hl, ho, hlt⟩ := ih (iovOffset - e.length)
      refine ⟨e :: pre, by simpa using hl, ?_, hlt⟩
      simp only [List.flatten_cons, List.length_append]
      omega

theorem iovShortWriteLoop_spec (rest : IovBlist) (o : ℕ) (buf : List UInt8) {n : ℕ}
    (ho : ∀ e rest', rest = e :: rest' → o ≤ e.length) :
    let r := iovShortWriteLoop rest o buf n
    r.1.flatten = splice rest.flatten o (buf.take n) ∧ r.2 = n - (rest.flatten.length - o) ∧
      iovLens r.1 = iovLens rest := by
  induction rest generalizing o buf n with
  | nil => simp [iovShortWriteLoop]
  | cons e rest ih =>
    have ho' : o ≤ e.length := ho e rest rfl
    by_cases h0 : n = 0
    · simp [iovShortWriteLoop, h0]
    · have hrec := ih 0 (buf.drop (min n (e.length - o))) (n := n - min n (e.length - o))
        (fun _ _ _ => Nat.zero_le _)
      simp only [iovShortWriteLoop, if_neg h0, List.flatten_cons, iovLens_cons,
        List.length_append, hrec, shortMemCpy_eq_splice, length_splice, and_true]
      refine ⟨?_, by omega⟩
      rw [splice_append_of_ge _ _ ho']
      congr 1
      · rcases Nat.le_total n (e.length - o) with hle | hle
        · rw [Nat.min_eq_left hle]
        · rw [Nat.min_eq_right hle, ← splice_take e o (buf.take n) (Nat.le_refl _),
            List.take_take, Nat.min_eq_left hle]
      · rcases Nat.le_total n (e.length - o) with hle | hle
        · have hnil : (buf.take n).drop (e.length - o) = [] :=
            List.drop_eq_nil_of_le (by simp only [List.length_take]; omega)
          rw [Nat.min_eq_left hle, Nat.sub_self, List.take_zero, hnil]
        · rw [Nat.min_eq_right hle, List.drop_take]

theorem iovShortWrite_spec (l : IovBlist) (iovOffset : ℕ) (buf : List UInt8) (bufLen : ℕ) :
    let r := iovShortWrite l iovOffset (some buf) bufLen
    r.1 = min bufLen (l.flatten.length - iovOffset) ∧
      r.2.flatten = splice l.flatten iovOffset (buf.take bufLen) ∧ iovLens r.2 = iovLens l := by
  obtain ⟨pre, hl, ho, hlt⟩ := iovLocate_spec l iovOffset
  obtain ⟨hflat, hleft, hlens⟩ := iovShortWriteLoop_spec (iovLocate l iovOffset).1
    (iovLocate l iovOffset).2 buf (n := bufLen) (fun e rest h => (hlt e rest h).le)
  have htake : ∀ m, l = pre ++ m → l.take (l.length - m.length) = pre := by
    rintro m rfl
    simp
  have hpre := htake _ hl
  simp only [iovShortWrite, hpre, hleft]
  generalize iovLocate l iovOffset = r at *
  subst hl ho
  refine ⟨?_, ?_, by simp [hlens]⟩
  · simp only [List.flatten_append, List.length_append]
    omega
  · rw [List.flatten_append, hflat, List.flatten_append,
      splice_append_of_le _ _ (Nat.le_add_right _ _), Nat.add_sub_cancel_left]

theorem iovShortReadLoop_spec (rest : IovBlist) (o : ℕ) (buf : List UInt8) (bo n : ℕ)
    (ho : ∀ e rest', rest = e :: rest' → o ≤ e.length) :
    iovShortReadLoop rest o buf bo n =
      (splice buf bo ((rest.flatten.drop o).take n), n - (rest.flatten.length - o)) := by
  induction rest generalizing o buf bo n with
  | nil => simp [iovShortReadLoop]
  | cons e rest ih =>
    have ho' : o ≤ e.length := ho e rest rfl
    by_cases h0 : n = 0
    · simp [iovShortReadLoop, h0]
    · have hdrop : (e ++ rest.flatten).drop o = e.drop o ++ rest.flatten :=
        List.drop_append_of_le_length ho'
      have hlen : ((e.drop o).take (min n (e.length - o))).length = min n (e.length - o) := by
        simp only [List.length_take, List.length_drop]
        omega
      have htake : (e.drop o).take (min n (e.length - o)) = (e.drop o).take n := by
        rw [← List.length_drop, Nat.min_comm, ← List.take_take,
          List.take_of_length_le (by simp only [List.length_take]; omega)]
      simp only [iovShortReadLoop, if_neg h0, List.flatten_cons, List.length_append, hdrop,
        ih 0 _ _ _ (fun _ _ _ => Nat.zero_le _), shortMemCpy_eq_splice, List.drop_zero]
      refine Prod.ext ?_ (by simp only; omega)
      have hn : n - min n (e.length - o) = n - (e.length - o) := by omega
      rw [hn, List.take_append, List.length_drop, ← splice_splice_adjacent, ← htake, hlen]

theorem iovShortRead_spec (l : IovBlist) (iovOffset : ℕ) (buf : List UInt8) (bufLen : ℕ) :
    iovShortRead l iovOffset (some buf) bufLen =
      (min bufLen (l.flatten.length - iovOffset),
        some (splice buf 0 ((l.flatten.drop iovOffset).take bufLen))) := by
  obtain ⟨pre, hl, ho, hlt⟩ := iovLocate_spec l iovOffset
  simp only [iovShortRead]
  rw [iovShortReadLoop_spec _ _ _ _ _ (fun e rest h => (hlt e rest h).le)]
  generalize iovLocate l iovOffset = r at *
  subst hl ho
  refine Prod.ext ?_ ?_
  · simp only [List.flatten_append, List.length_append]
    omega
  · simp only [List.flatten_append, List.drop_append,
      List.drop_eq_nil_of_le (Nat.le_add_right _ _), List.nil_append, Nat.add_sub_cancel_left]

/-! ## The refinement -/

/-- The operations on a chain and an iterator do what the operations on a cursor do.  A string
that does not fit changes nothing but the last byte of the chain, when a word finds room for one
byte only. -/
structure RefinesCursor (l : IovBlist) (it : IovBlistIter) (c : Cursor UInt8) : Prop where
  valid : iovIteratorIsValid it ↔ c.pos < c.text.length
  moveForward : ∀ n,
    let r := iovIteratorMoveForward l it n
    r.1 = c.fit n ∧ Denotes l r.2 (c.forward n)
  readAndMoveForward : ∀ buf : List UInt8, ∀ n ≤ buf.length,
    let r := iovIteratorReadAndMoveForward l it (some buf) n
    r.1 = c.fit n ∧ Denotes l r.2.1 (c.forward n) ∧ r.2.2 = some (splice buf 0 (c.read n))
  writeAndMoveForward : ∀ buf : List UInt8, ∀ n ≤ buf.length,
    let r := iovIteratorWriteAndMoveForward l it (some buf) n
    r.1 = c.fit n ∧ Denotes r.2.2 r.2.1 (c.write (buf.take n)) ∧ iovLens r.2.2 = iovLens l
  copyBytesAndMoveForward : ∀ (l' : IovBlist) (it' : IovBlistIter) (c' : Cursor UInt8),
    [] ∉ l' → Denotes l' it' c' → ∀ maxLen,
      let r := iovIteratorCopyBytesAndMoveForward l it l' it' maxLen
      let n := min maxLen (min c.avail c'.avail)
      r.1 = n ∧ Denotes l r.2.1 (c.forward n) ∧
        Denotes r.2.2.2 r.2.2.1 (c'.write (c.read n)) ∧ iovLens r.2.2.2 = iovLens l'
  shortRead : ∀ (o : ℕ) (buf : List UInt8), ∀ n ≤ buf.length,
    iovShortRead l o (some buf) n =
      (min n (c.text.length - o), some (splice buf 0 ((c.text.drop o).take n)))
  shortWrite : ∀ (o : ℕ) (buf : List UInt8), ∀ n ≤ buf.length,
    let r := iovShortWrite l o (some buf) n
    r.1 = min n (c.text.length - o) ∧ r.2.flatten = splice c.text o (buf.take n) ∧
      iovLens r.2 = iovLens l
  serializeUInt8 : ∀ b : UInt8,
    let r := iovIteratorSerializeUInt8AndMoveForward l it b
    if 1 ≤ c.avail then r.1 = 0 ∧ Denotes r.2.2 r.2.1 (c.write [b]) ∧ iovLens r.2.2 = iovLens l
    else r = (1, it, l)
  serializeUInt16 : ∀ w : UInt16,
    let r := iovIteratorSerializeUInt16AndMoveForward l it w
    if 2 ≤ c.avail then
      r.1 = 0 ∧ Denotes r.2.2 r.2.1 (c.write [(w >>> 8).toUInt8, w.toUInt8]) ∧
        iovLens r.2.2 = iovLens l
    else
      r.1 = 2 - c.avail ∧ r.2.1 = it ∧ iovLens r.2.2 = iovLens l ∧
        r.2.2.flatten = splice c.text c.pos ([(w >>> 8).toUInt8].take c.avail)
  moveBackward : iovIteratorIsValid it → ∀ n ≤ c.pos,
    let r := iovIteratorMoveBackward l it n
    r.1 = n ∧ Denotes l r.2 (c.backward n)
  moveBackward_moveForward : ∀ n,
    let r := iovIteratorMoveForward l it n
    r.1 = n → iovIteratorIsValid r.2 → iovIteratorMoveBackward l r.2 n = (n, it)

theorem Denotes.moveForward {l : IovBlist} {it : IovBlistIter} {c : Cursor UInt8}
    (h : Denotes l it c) (n : ℕ) :
    let r := iovIteratorMoveForward l it n
    r.1 = c.fit n ∧ Denotes l r.2 (c.forward n) := by
  obtain ⟨hcount, hnormal, hpos⟩ := iovIteratorMoveForward_spec h.normal.within n
  have hfit : (iovIteratorMoveForward l it n).1 = c.fit n := by
    rw [hcount, Cursor.fit, Cursor.avail, h.text, h.pos]
  refine ⟨hfit, hnormal, h.text, ?_⟩
  rw [Cursor.pos_forward, ← hfit, h.pos, hpos]

theorem Denotes.moveBackward {l : IovBlist} {it : IovBlistIter} {c : Cursor UInt8}
    (h : Denotes l it c) (hv : iovIteratorIsValid it) {n : ℕ} (hn : n ≤ c.pos) :
    let r := iovIteratorMoveBackward l it n
    r.1 = n ∧ iovIteratorIsValid r.2 ∧ Denotes l r.2 (c.backward n) := by
  obtain ⟨hcount, hnormal, hvalid, hpos⟩ := iovIteratorMoveBackward_spec h.normal hv (h.pos ▸ hn)
  exact ⟨hcount, hvalid, hnormal, h.text, by rw [Cursor.pos_backward, h.pos, hpos]⟩

/-- Going back by what an iterator was moved forward restores it. -/
theorem Denotes.moveBackward_moveForward {l : IovBlist} {it : IovBlistIter} {c : Cursor UInt8}
    (h : Denotes l it c) {n : ℕ} (hcount : (iovIteratorMoveForward l it n).1 = n)
    (hv : iovIteratorIsValid (iovIteratorMoveForward l it n).2) :
    iovIteratorMoveBackward l (iovIteratorMoveForward l it n).2 n = (n, it) := by
  obtain ⟨hfit, hden⟩ := h.moveForward n
  have hn : c.fit n = n := hfit.symm.trans hcount
  have hav : n ≤ c.avail := by
    rw [Cursor.fit] at hn
    omega
  obtain ⟨hback, hv', hden'⟩ := hden.moveBackward hv (n := n) (by rw [Cursor.pos_forward]; omega)
  rw [Cursor.backward_forward c hav] at hden'
  have hit : iovIteratorIsValid it := by
    have hlt := hden.isValid_iff.mp hv
    rw [Cursor.pos_forward, Cursor.text_forward] at hlt
    exact h.isValid_iff.mpr (by omega)
  refine Prod.ext hback ?_
  exact iovIter_eq_of_pos hden'.normal h.normal hv' hit (hden'.pos.symm.trans h.pos)

/-- A normalised iterator over a chain of nonempty elements stands for a cursor into their
concatenation, and every operation does to the chain what it does to the cursor. -/
theorem iovIterator_refines_cursor {l : IovBlist} {it : IovBlistIter} (hne : [] ∉ l)
    (h : IovIterNormal (iovLens l) it) :
    ∃ c : Cursor UInt8, Denotes l it c ∧ RefinesCursor l it c := by
  refine ⟨_, h.denotes, ?_⟩
  have hden := h.denotes
  constructor
  · exact hden.isValid_iff
  · exact fun n => hden.moveForward n
  · exact fun buf n _ => iovIteratorRead_spec hne hden buf n
  · exact fun buf n hn => iovIteratorWrite_spec hne hden buf hn
  · exact fun l' it' c' hne' h' maxLen => iovIteratorCopyBytes_spec hne hne' hden h' maxLen
  · exact fun o buf n _ => iovShortRead_spec l o buf n
  · exact fun o buf n _ => iovShortWrite_spec l o buf n
  · exact fun b => iovIteratorSerializeUInt8_spec hne hden b
  · exact fun w => iovIteratorSerializeUInt16_spec hne hden w
  · intro hv n hn
    obtain ⟨hcount, -, hback⟩ := hden.moveBackward hv hn
    exact ⟨hcount, hback⟩
  · exact fun n hcount hv => hden.moveBackward_moveForward hcount hv

/-- The iterator at the third byte of a chain of three elements. -/
theorem iovIterator_refines_cursor_three :
    ∃ c : Cursor UInt8, Denotes [[1, 2], [3], [4, 5, 6]] ⟨some 1, 0⟩ c ∧
      RefinesCursor [[1, 2], [3], [4, 5, 6]] ⟨some 1, 0⟩ c :=
  iovIterator_refines_cursor (by decide) (@iovIterNormal_some [2] [3] 1 0 1 rfl (by decide))

end Whip6
