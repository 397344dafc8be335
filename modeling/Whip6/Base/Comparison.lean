import Whip6.Base.IoVecRefinement
import Whip6.Lib.Comparison

/-!
# Comparisons

`shortMemCmp`, `iovShortCompare` and `iovCompare` are meant to order strings of bytes
lexicographically.  They do (`comparisons_isSignOf_iff`) as long as the first bytes that differ
are less than 128 apart, for the difference is narrowed to eight bits; and `iovCompare` besides
needs chains in which its two pointers meet no empty element.
-/

namespace Whip6

open Lib

/-! ## Comparing two chains -/

/-- The inner loop of `iovCompare`: the first difference of up to `minLeft` bytes, and `none` when
the loop reads behind the buffer of an element.  It looks at the counter after the first bytes
only; zero, counted down, is the greatest `size_t`, which no buffer reaches. -/
def iovCompareBytes : List UInt8 → List UInt8 → ℕ → Option Int8
  | b1 :: ptr1, b2 :: ptr2, minLeft =>
    let res := (b1 - b2).toInt8
    if res ≠ 0 then some res
    else if minLeft = 1 then some 0
    else iovCompareBytes ptr1 ptr2 (minLeft - 1)
  | _, _, _ => none

/-- The loop of `iovCompare` from two located bytes on. -/
def iovCompareLoop (iovList1 : IovBlist) (iovOffset1 : ℕ) (iovList2 : IovBlist) (iovOffset2 : ℕ)
    (numBytesLeft : ℕ) : Option Int8 :=
  match iovList1, iovList2 with
  | e1 :: rest1, e2 :: rest2 =>
    if _h0 : numBytesLeft = 0 then some 0
    else
      let leftIn1 := e1.length - iovOffset1
      let leftIn2 := e2.length - iovOffset2
      let minLeft := min (min leftIn1 leftIn2) numBytesLeft
      match iovCompareBytes (e1.drop iovOffset1) (e2.drop iovOffset2) minLeft with
      | none => none
      | some res =>
        if res ≠ 0 then some res
        else
          iovCompareLoop (if leftIn1 = minLeft then rest1 else e1 :: rest1)
            (if leftIn1 = minLeft then 0 else iovOffset1 + minLeft)
            (if leftIn2 = minLeft then rest2 else e2 :: rest2)
            (if leftIn2 = minLeft then 0 else iovOffset2 + minLeft) (numBytesLeft - minLeft)
  | [], l2 => if numBytesLeft = 0 then some 0 else if l2 = [] then some 0 else some (-1)
  | _, [] => if numBytesLeft = 0 then some 0 else some 1
  termination_by iovList1.length + iovList2.length + numBytesLeft
  decreasing_by
    -- A round compares bytes or leaves an empty element behind.
    split_ifs <;> simp only [List.length_cons] <;> omega

/-- Compare `iovLength` bytes of two I/O vectors, each from an offset of its own on. -/
def iovCompare (iovList1 iovList2 : IovBlist) (iovOffset1 iovOffset2 iovLength : ℕ) :
    Option Int8 :=
  let at1 := iovLocate iovList1 iovOffset1
  let at2 := iovLocate iovList2 iovOffset2
  iovCompareLoop at1.1 at1.2 at2.1 at2.2 iovLength

/-! ## When the comparisons are right -/

/-- The first bytes that differ are so close that their difference fits into eight bits. -/
def firstDifferenceFits : List UInt8 → List UInt8 → Prop
  | b1 :: m1, b2 :: m2 =>
    if b1 = b2 then firstDifferenceFits m1 m2
    else -128 ≤ (b1.toNat : ℤ) - b2.toNat ∧ (b1.toNat : ℤ) - b2.toNat ≤ 127
  | _, _ => True

/-- A chain from an offset into its first element on. -/
def iovView : IovBlist → ℕ → IovBlist
  | [], _ => []
  | e :: rest, o => e.drop o :: rest

/-- A chain from an offset on, without the elements that lie before it. -/
def iovFrom (iovList : IovBlist) (iovOffset : ℕ) : IovBlist :=
  iovView (iovLocate iovList iovOffset).1 (iovLocate iovList iovOffset).2

/-- A chain after `q` of its bytes.  An element is left behind with its last byte, so that the
chain may go on with an empty element. -/
def iovAdvance : IovBlist → ℕ → IovBlist
  | l, 0 => l
  | [], _ + 1 => []
  | e :: rest, q + 1 =>
    if q + 1 < e.length then e.drop (q + 1) :: rest else iovAdvance rest (q + 1 - e.length)

/-- Two chains at which `iovCompare` can go on: both with a byte, or one at its end and the other
not at empty elements only. -/
def IovGoOn : IovBlist → IovBlist → Prop
  | [], l => l = [] ∨ l.flatten ≠ []
  | l, [] => l.flatten ≠ []
  | e1 :: _, e2 :: _ => e1 ≠ [] ∧ e2 ≠ []

/-- Wherever two chains go on after equal bytes, fewer than `n`, `iovCompare` can go on. -/
def IovWalkable (l1 l2 : IovBlist) (n : ℕ) : Prop :=
  ∀ q < n, l1.flatten.take q = l2.flatten.take q → IovGoOn (iovAdvance l1 q) (iovAdvance l2 q)

theorem firstDifferenceFits_append_left (c a b : List UInt8) :
    firstDifferenceFits (c ++ a) (c ++ b) ↔ firstDifferenceFits a b := by
  induction c with
  | nil => rfl
  | cons x c ih => simpa only [List.cons_append, firstDifferenceFits, if_true] using ih

theorem toInt_toInt8_sub (b1 b2 : UInt8) :
    (b1 - b2).toInt8.toInt = ((b1.toNat : ℤ) - b2.toNat).bmod 256 := by
  have h : (b1 - b2).toInt8.toInt = (b1.toBitVec - b2.toBitVec).toInt := rfl
  rw [h, BitVec.toInt_sub, BitVec.toInt_eq_toNat_bmod, BitVec.toInt_eq_toNat_bmod,
    Int.bmod_sub_bmod, Int.sub_bmod_bmod]
  rfl

/-- The narrowed difference of two bytes has the right sign exactly when nothing is lost. -/
theorem isSignOf_byte_iff (b1 b2 : UInt8) :
    IsSignOf (b1 - b2).toInt8.toInt b1 b2 ↔
      -128 ≤ (b1.toNat : ℤ) - b2.toNat ∧ (b1.toNat : ℤ) - b2.toNat ≤ 127 := by
  have h1 := b1.toNat_lt
  have h2 := b2.toNat_lt
  rw [toInt_toInt8_sub]
  constructor
  · rintro ⟨-, hneg, hpos⟩
    rw [UInt8.lt_iff_toNat_lt] at hneg hpos
    have hb := Int.bmod_def ((b1.toNat : ℤ) - b2.toNat) 256
    omega
  · rintro ⟨hlo, hhi⟩
    have hb : ((b1.toNat : ℤ) - b2.toNat).bmod 256 = (b1.toNat : ℤ) - b2.toNat := by
      have hb := Int.bmod_def ((b1.toNat : ℤ) - b2.toNat) 256
      omega
    rw [hb]
    refine ⟨?_, ?_, ?_⟩
    · rw [← UInt8.toNat_inj]
      omega
    · rw [UInt8.lt_iff_toNat_lt]
      omega
    · rw [UInt8.lt_iff_toNat_lt]
      omega

/-! ## Bytes in memory -/

/-- A difference found within the memory decides, whatever follows. -/
theorem isSignOf_of_shortMemCmp_ne {m1 m2 : List UInt8} {size : ℕ} (h1 : size ≤ m1.length)
    (h2 : size ≤ m2.length) (h : shortMemCmp m1 m2 size ≠ 0) (x y : List UInt8) :
    IsSignOf (shortMemCmp m1 m2 size).toInt (m1.take size ++ x) (m2.take size ++ y) ↔
      firstDifferenceFits (m1.take size ++ x) (m2.take size ++ y) := by
  induction size generalizing m1 m2 with
  | zero => exact absurd (by simp [shortMemCmp]) h
  | succ size ih =>
    obtain ⟨b1, m1, rfl⟩ := List.exists_cons_of_length_pos (Nat.zero_lt_of_lt h1)
    obtain ⟨b2, m2, rfl⟩ := List.exists_cons_of_length_pos (Nat.zero_lt_of_lt h2)
    simp only [List.length_cons] at h1 h2
    simp only [shortMemCmp] at h ⊢
    rw [List.take_succ_cons, List.take_succ_cons, List.cons_append, List.cons_append,
      firstDifferenceFits]
    by_cases hb : b1 = b2
    · subst hb
      have hz : (b1 - b1).toInt8 = 0 := (toInt8_sub_eq_zero_iff b1 b1).mpr rfl
      rw [if_neg (not_not.mpr hz)] at h ⊢
      rw [if_pos rfl, isSignOf_cons_self]
      exact ih (by omega) (by omega) h
    · have hne : (b1 - b2).toInt8 ≠ 0 := fun hz => hb ((toInt8_sub_eq_zero_iff b1 b2).mp hz)
      rw [if_pos hne, if_neg hb, isSignOf_cons_of_ne hb]
      exact isSignOf_byte_iff b1 b2

theorem firstDifferenceFits_self (a : List UInt8) : firstDifferenceFits a a := by
  have h := firstDifferenceFits_append_left a [] []
  rw [List.append_nil] at h
  exact h.mpr trivial

theorem shortMemCmp_isSignOf_iff {m1 m2 : List UInt8} {size : ℕ} (h1 : size ≤ m1.length)
    (h2 : size ≤ m2.length) :
    IsSignOf (shortMemCmp m1 m2 size).toInt (m1.take size) (m2.take size) ↔
      firstDifferenceFits (m1.take size) (m2.take size) := by
  by_cases h : shortMemCmp m1 m2 size = 0
  · have heq : m1.take size = m2.take size := (shortMemCmp_eq_zero_iff h1 h2).mp h
    rw [h, heq]
    refine iff_of_true ?_ (firstDifferenceFits_self _)
    have hself := isSignOf_append_left (r := 0) (a := []) (b := []) (m2.take size)
    rw [List.append_nil] at hself
    exact hself.mpr (isSignOf_nil_nil.mpr rfl)
  · have hdec := isSignOf_of_shortMemCmp_ne h1 h2 h [] []
    rwa [List.append_nil, List.append_nil] at hdec

/-! ## A chain and a buffer -/

theorem flatten_iovView_cons (e : IovElem) (rest : IovBlist) (o : ℕ) :
    (iovView (e :: rest) o).flatten = e.drop o ++ rest.flatten := rfl

@[simp] theorem iovView_nil (o : ℕ) : iovView [] o = [] := rfl

theorem iovView_ne_nil (e : IovElem) (rest : IovBlist) (o : ℕ) : iovView (e :: rest) o ≠ [] :=
  List.cons_ne_nil _ _

@[simp] theorem iovView_zero (l : IovBlist) : iovView l 0 = l := by
  cases l with
  | nil => rfl
  | cons e rest => rw [iovView, List.drop_zero]

theorem flatten_iovFrom (iovList : IovBlist) (iovOffset : ℕ) :
    (iovFrom iovList iovOffset).flatten = iovList.flatten.drop iovOffset := by
  obtain ⟨pre, hl, ho, hlt⟩ := iovLocate_spec iovList iovOffset
  rw [iovFrom]
  generalize iovLocate iovList iovOffset = r at *
  obtain ⟨l, o⟩ := r
  simp only at hl ho hlt ⊢
  subst hl ho
  rw [List.flatten_append, List.drop_length_add_append]
  cases l with
  | nil => simp [iovView]
  | cons e rest =>
    rw [flatten_iovView_cons, List.flatten_cons, List.drop_append_of_le_length (hlt e rest rfl).le]

/-- The first `n` bytes, the first `m` of them apart. -/
theorem take_append_eq {d f : List UInt8} {m n : ℕ} (hm : m ≤ d.length) (hn : m ≤ n) :
    (d ++ f).take n = d.take m ++ (d.drop m ++ f).take (n - m) := by
  obtain ⟨k, rfl⟩ := Nat.exists_eq_add_of_le hn
  rw [List.take_add, List.take_append_of_le_length hm, List.drop_append_of_le_length hm,
    Nat.add_sub_cancel_left]

theorem iovShortCompareLoop_isSignOf_iff (l : IovBlist) (o : ℕ) (buf : List UInt8) {n : ℕ}
    (hn : n ≤ buf.length) :
    IsSignOf (iovShortCompareLoop l o buf n).toInt ((iovView l o).flatten.take n)
        (buf.take n) ↔
      firstDifferenceFits ((iovView l o).flatten.take n) (buf.take n) := by
  induction l generalizing o buf n with
  | nil =>
    rw [iovShortCompareLoop, iovView, List.flatten_nil, List.take_nil]
    refine iff_of_true ?_ (by simp [firstDifferenceFits])
    cases n with
    | zero => exact isSignOf_nil_nil.mpr rfl
    | succ n =>
      rw [if_neg (Nat.succ_ne_zero n)]
      match buf, hn with
      | b :: buf, _ => exact isSignOf_nil_cons.mpr (by decide)
  | cons e rest ih =>
    rw [iovShortCompareLoop, flatten_iovView_cons]
    by_cases h0 : n = 0
    · subst h0
      exact iff_of_true (isSignOf_nil_nil.mpr rfl) trivial
    · rw [if_neg h0]
      obtain ⟨m, hm⟩ : ∃ m, m = min n (e.length - o) := ⟨_, rfl⟩
      have hd : m ≤ (e.drop o).length := by
        rw [List.length_drop]
        omega
      have hrest : (((e.drop o).drop m) ++ rest.flatten).take (n - m) =
          rest.flatten.take (n - m) := by
        rcases Nat.lt_or_ge n (e.length - o) with hlt | hge
        · rw [show n - m = 0 by omega, List.take_zero, List.take_zero]
        · rw [List.drop_of_length_le (by rw [List.length_drop]; omega), List.nil_append]
      have hbuf : buf.take n = buf.take m ++ (buf.drop m).take (n - m) := by
        rw [← List.take_add, show m + (n - m) = n by omega]
      rw [take_append_eq hd (by omega), hrest, hbuf]
      simp only [← hm]
      by_cases hres : shortMemCmp (e.drop o) buf m = 0
      · have hpre : (e.drop o).take m = buf.take m :=
          (shortMemCmp_eq_zero_iff hd (by omega)).mp hres
        rw [if_neg (not_not.mpr hres), hpre, isSignOf_append_left, firstDifferenceFits_append_left]
        have hih := ih 0 (buf.drop m) (n := n - m) (by rw [List.length_drop]; omega)
        rwa [iovView_zero] at hih
      · rw [if_pos hres]
        exact isSignOf_of_shortMemCmp_ne hd (by omega) hres _ _

theorem iovShortCompare_isSignOf_iff (iovList : IovBlist) (iovOffset : ℕ) (buf : List UInt8)
    {bufLen : ℕ} (hbuf : bufLen ≤ buf.length) :
    IsSignOf (iovShortCompare iovList iovOffset (some buf) bufLen).toInt
        ((iovList.flatten.drop iovOffset).take bufLen) (buf.take bufLen) ↔
      firstDifferenceFits ((iovList.flatten.drop iovOffset).take bufLen) (buf.take bufLen) := by
  rw [← flatten_iovFrom]
  exact iovShortCompareLoop_isSignOf_iff _ _ buf hbuf

/-! ## Two chains -/

theorem iovCompareBytes_eq {ptr1 ptr2 : List UInt8} {m : ℕ} (hm : 0 < m) (h1 : m ≤ ptr1.length)
    (h2 : m ≤ ptr2.length) : iovCompareBytes ptr1 ptr2 m = some (shortMemCmp ptr1 ptr2 m) := by
  induction m generalizing ptr1 ptr2 with
  | zero => exact absurd hm (lt_irrefl 0)
  | succ m ih =>
    match ptr1, ptr2, h1, h2 with
    | b1 :: ptr1, b2 :: ptr2, h1, h2 =>
      simp only [List.length_cons] at h1 h2
      rw [iovCompareBytes, shortMemCmp]
      by_cases hres : (b1 - b2).toInt8 = 0
      · simp only [if_neg (not_not.mpr hres), Nat.add_sub_cancel]
        rcases Nat.eq_zero_or_pos m with rfl | hpos
        · simp [shortMemCmp]
        · rw [if_neg (by omega)]
          exact ih hpos (by omega) (by omega)
      · simp only [if_pos hres]

/-- With an empty element the loop reads at once behind its buffer. -/
theorem iovCompareBytes_eq_none {ptr1 ptr2 : List UInt8} (m : ℕ) (h : ¬(ptr1 ≠ [] ∧ ptr2 ≠ [])) :
    iovCompareBytes ptr1 ptr2 m = none := by
  match ptr1, ptr2, h with
  | [], _, _ => rfl
  | _ :: _, [], _ => rfl
  | _ :: _, _ :: _, h => exact absurd ⟨List.cons_ne_nil _ _, List.cons_ne_nil _ _⟩ h

@[simp] theorem iovAdvance_zero (l : IovBlist) : iovAdvance l 0 = l := by
  cases l <;> rfl

theorem iovAdvance_of_lt {d : IovElem} (rest : IovBlist) {q : ℕ} (h : q < d.length) :
    iovAdvance (d :: rest) q = d.drop q :: rest := by
  cases q with
  | zero => rw [iovAdvance_zero, List.drop_zero]
  | succ q => rw [iovAdvance, if_pos h]

theorem iovAdvance_of_le {d : IovElem} (rest : IovBlist) {q : ℕ} (hd : d ≠ [])
    (h : d.length ≤ q) : iovAdvance (d :: rest) q = iovAdvance rest (q - d.length) := by
  have hpos := List.length_pos_of_ne_nil hd
  cases q with
  | zero => omega
  | succ q => rw [iovAdvance, if_neg (by omega)]

@[simp] theorem iovAdvance_nil (q : ℕ) : iovAdvance [] q = [] := by
  cases q <;> rfl

/-- Where a chain goes on after `m` bytes of its first element: the pointer that a round of
`iovCompare` leaves. -/
def iovStep (l : IovBlist) (o m : ℕ) : IovBlist × ℕ :=
  match l with
  | [] => ([], o)
  | e :: rest => if e.length - o = m then (rest, 0) else (e :: rest, o + m)

theorem iovAdvance_iovStep (e : IovElem) (rest : IovBlist) {o m : ℕ} (q : ℕ) (hm : 0 < m)
    (hle : m ≤ (e.drop o).length) :
    iovAdvance (iovView (iovStep (e :: rest) o m).1 (iovStep (e :: rest) o m).2) q =
      iovAdvance (iovView (e :: rest) o) (m + q) := by
  have hne : e.drop o ≠ [] := List.ne_nil_of_length_pos (by omega)
  have hlen := List.length_drop (i := o) (l := e)
  rw [iovStep, iovView]
  by_cases heq : e.length - o = m
  · rw [if_pos heq, iovView_zero, iovAdvance_of_le rest hne (by omega)]
    congr 1
    omega
  · rw [if_neg heq, iovView]
    rcases Nat.lt_or_ge (m + q) (e.drop o).length with hlt | hge
    · rw [iovAdvance_of_lt rest hlt, iovAdvance_of_lt rest (by rw [List.length_drop]; omega),
        List.drop_drop, List.drop_drop]
      congr 2
      omega
    · rw [iovAdvance_of_le rest hne hge, iovAdvance_of_le rest
        (List.ne_nil_of_length_pos (by rw [List.length_drop]; omega))
        (by rw [List.length_drop]; omega)]
      congr 1
      rw [List.length_drop]
      omega

theorem flatten_iovStep (e : IovElem) (rest : IovBlist) (o m : ℕ) :
    (iovView (iovStep (e :: rest) o m).1 (iovStep (e :: rest) o m).2).flatten =
      (e.drop o).drop m ++ rest.flatten := by
  rw [iovStep]
  by_cases heq : e.length - o = m
  · rw [if_pos heq, iovView_zero, List.drop_of_length_le (by rw [List.length_drop]; omega),
      List.nil_append]
  · rw [if_neg heq, flatten_iovView_cons, List.drop_drop]

section Round

variable {e1 e2 : IovElem} {o1 o2 m n : ℕ} (rest1 rest2 : IovBlist)

/-- Before the last byte of a round both chains go on within the elements it looks at. -/
theorem iovGoOn_of_lt {q : ℕ} (h1 : q < (e1.drop o1).length) (h2 : q < (e2.drop o2).length) :
    IovGoOn (iovAdvance (iovView (e1 :: rest1) o1) q)
      (iovAdvance (iovView (e2 :: rest2) o2) q) := by
  rw [iovView, iovView, iovAdvance_of_lt rest1 h1, iovAdvance_of_lt rest2 h2]
  constructor
  · exact List.ne_nil_of_length_pos (by rw [List.length_drop]; omega)
  · exact List.ne_nil_of_length_pos (by rw [List.length_drop]; omega)

variable (h1 : m ≤ (e1.drop o1).length) (h2 : m ≤ (e2.drop o2).length)
include h1 h2

/-- Nothing behind the first difference matters. -/
theorem iovWalkable_of_ne (hne : (e1.drop o1).take m ≠ (e2.drop o2).take m) :
    IovWalkable (iovView (e1 :: rest1) o1) (iovView (e2 :: rest2) o2) n := by
  intro q _ hq
  rcases Nat.lt_or_ge q m with hlt | hge
  · exact iovGoOn_of_lt rest1 rest2 (by omega) (by omega)
  · rw [flatten_iovView_cons, flatten_iovView_cons, take_append_eq h1 hge,
      take_append_eq h2 hge] at hq
    have hlen : ((e1.drop o1).take m).length = ((e2.drop o2).take m).length := by
      rw [List.length_take, List.length_take]
      omega
    exact absurd (List.append_inj_left hq hlen) hne

/-- A round of equal bytes may be left out. -/
theorem iovWalkable_iovStep (hm : 0 < m) (hn : m ≤ n)
    (heq : (e1.drop o1).take m = (e2.drop o2).take m) :
    IovWalkable (iovView (e1 :: rest1) o1) (iovView (e2 :: rest2) o2) n ↔
      IovWalkable (iovView (iovStep (e1 :: rest1) o1 m).1 (iovStep (e1 :: rest1) o1 m).2)
        (iovView (iovStep (e2 :: rest2) o2 m).1 (iovStep (e2 :: rest2) o2 m).2) (n - m) := by
  have htake : ∀ q, (iovView (e1 :: rest1) o1).flatten.take (m + q) =
        (iovView (e2 :: rest2) o2).flatten.take (m + q) ↔
      (iovView (iovStep (e1 :: rest1) o1 m).1 (iovStep (e1 :: rest1) o1 m).2).flatten.take q =
        (iovView (iovStep (e2 :: rest2) o2 m).1 (iovStep (e2 :: rest2) o2 m).2).flatten.take q := by
    intro q
    rw [flatten_iovStep, flatten_iovStep, flatten_iovView_cons, flatten_iovView_cons,
      take_append_eq h1 (Nat.le_add_right m q), take_append_eq h2 (Nat.le_add_right m q), heq,
      Nat.add_sub_cancel_left]
    exact List.append_right_inj _
  constructor
  · intro h q hq hqe
    rw [iovAdvance_iovStep e1 rest1 q hm h1, iovAdvance_iovStep e2 rest2 q hm h2]
    exact h (m + q) (by omega) ((htake q).mpr hqe)
  · intro h q hq hqe
    rcases Nat.lt_or_ge q m with hlt | hge
    · exact iovGoOn_of_lt rest1 rest2 (by omega) (by omega)
    · obtain ⟨k, rfl⟩ := Nat.exists_eq_add_of_le hge
      rw [← iovAdvance_iovStep e1 rest1 k hm h1, ← iovAdvance_iovStep e2 rest2 k hm h2]
      exact h k (by omega) ((htake k).mp hqe)

end Round

theorem iovCompareLoop_cons_nil (e1 : IovElem) (rest1 : IovBlist) (o1 o2 n : ℕ) :
    iovCompareLoop (e1 :: rest1) o1 [] o2 n = if n = 0 then some 0 else some 1 := by
  rw [iovCompareLoop]
  exact List.cons_ne_nil e1 rest1

/-- A round of `iovCompareLoop` between two elements with bytes left. -/
theorem iovCompareLoop_cons (e1 e2 : IovElem) (rest1 rest2 : IovBlist) (o1 o2 : ℕ) {m n : ℕ}
    (h1 : e1.drop o1 ≠ []) (h2 : e2.drop o2 ≠ []) (hn : n ≠ 0)
    (hm : m = min (min (e1.length - o1) (e2.length - o2)) n) :
    iovCompareLoop (e1 :: rest1) o1 (e2 :: rest2) o2 n =
      if shortMemCmp (e1.drop o1) (e2.drop o2) m ≠ 0 then
        some (shortMemCmp (e1.drop o1) (e2.drop o2) m)
      else iovCompareLoop (iovStep (e1 :: rest1) o1 m).1 (iovStep (e1 :: rest1) o1 m).2
        (iovStep (e2 :: rest2) o2 m).1 (iovStep (e2 :: rest2) o2 m).2 (n - m) := by
  have hl1 := List.length_pos_of_ne_nil h1
  have hl2 := List.length_pos_of_ne_nil h2
  rw [List.length_drop] at hl1 hl2
  have hbytes : iovCompareBytes (e1.drop o1) (e2.drop o2) m =
      some (shortMemCmp (e1.drop o1) (e2.drop o2) m) := by
    apply iovCompareBytes_eq
    · omega
    · rw [List.length_drop]
      omega
    · rw [List.length_drop]
      omega
  rw [iovCompareLoop, dif_neg hn]
  simp only [← hm, hbytes]
  simp only [iovStep]
  split_ifs <;> rfl

theorem take_ne_nil_iff {a : List UInt8} {n : ℕ} (hn : n ≠ 0) : a.take n ≠ [] ↔ a ≠ [] := by
  rw [ne_eq, List.take_eq_nil_iff]
  simp [hn]

/-- Behind the end of the one chain the other must have bytes left. -/
theorem iovWalkable_nil_left {l : IovBlist} {n : ℕ} (hn : n ≠ 0) (hl : l ≠ []) :
    IovWalkable [] l n ↔ l.flatten ≠ [] := by
  constructor
  · intro h
    have h0 := h 0 (Nat.pos_of_ne_zero hn) rfl
    rw [iovAdvance_zero, iovAdvance_zero] at h0
    exact h0.resolve_left hl
  · intro hne q _ hq
    rw [List.flatten_nil, List.take_nil] at hq
    have hq0 : q = 0 := (List.take_eq_nil_iff.mp hq.symm).resolve_right hne
    rw [hq0, iovAdvance_zero, iovAdvance_zero]
    exact Or.inr hne

theorem iovGoOn_comm (l1 l2 : IovBlist) : IovGoOn l1 l2 ↔ IovGoOn l2 l1 := by
  cases l1 with
  | nil =>
    cases l2 with
    | nil => rfl
    | cons e2 rest2 => simp [IovGoOn]
  | cons e1 rest1 =>
    cases l2 with
    | nil => simp [IovGoOn]
    | cons e2 rest2 => exact and_comm

theorem iovWalkable_comm (l1 l2 : IovBlist) (n : ℕ) :
    IovWalkable l1 l2 n ↔ IovWalkable l2 l1 n := by
  constructor
  · intro h q hq hqe
    exact (iovGoOn_comm _ _).mp (h q hq hqe.symm)
  · intro h q hq hqe
    exact (iovGoOn_comm _ _).mp (h q hq hqe.symm)

theorem iovWalkable_nil_right {l : IovBlist} {n : ℕ} (hn : n ≠ 0) (hl : l ≠ []) :
    IovWalkable l [] n ↔ l.flatten ≠ [] := by
  rw [iovWalkable_comm]
  exact iovWalkable_nil_left hn hl

/-- `iovCompareLoop` tells how the bytes from its pointers on are ordered, under exactly the
condition that the first difference fits and the chains can be walked. -/
theorem iovCompareLoop_isSignOf_iff (l1 l2 : IovBlist) (o1 o2 n : ℕ) :
    (∃ r, iovCompareLoop l1 o1 l2 o2 n = some r ∧
      IsSignOf r.toInt ((iovView l1 o1).flatten.take n) ((iovView l2 o2).flatten.take n)) ↔
      firstDifferenceFits ((iovView l1 o1).flatten.take n) ((iovView l2 o2).flatten.take n) ∧
        IovWalkable (iovView l1 o1) (iovView l2 o2) n := by
  induction n using Nat.strong_induction_on generalizing l1 o1 l2 o2 with
  | h n ih =>
    by_cases h0 : n = 0
    · subst h0
      refine iff_of_true ⟨0, ?_, ?_⟩ ⟨?_, fun q hq => absurd hq (Nat.not_lt_zero q)⟩
      · match l1, l2 with
        | [], _ => rw [iovCompareLoop, if_pos rfl]
        | e1 :: rest1, [] => rw [iovCompareLoop_cons_nil, if_pos rfl]
        | _ :: _, _ :: _ => rw [iovCompareLoop, dif_pos rfl]
      · rw [List.take_zero, List.take_zero]
        exact isSignOf_nil_nil.mpr rfl
      · rw [List.take_zero]
        trivial
    match l1, l2 with
    | [], [] =>
      rw [iovCompareLoop, if_neg h0, if_pos rfl, iovView_nil, iovView_nil, List.flatten_nil,
        List.take_nil]
      refine iff_of_true ⟨0, rfl, isSignOf_nil_nil.mpr rfl⟩ ⟨trivial, fun q _ _ => ?_⟩
      rw [iovAdvance_nil]
      exact Or.inl rfl
    | [], e2 :: rest2 =>
      rw [iovCompareLoop, if_neg h0, if_neg (List.cons_ne_nil _ _), iovView_nil,
        iovWalkable_nil_left h0 (iovView_ne_nil e2 rest2 o2), List.flatten_nil, List.take_nil,
        ← take_ne_nil_iff h0]
      simp only [Option.some.injEq, exists_eq_left', firstDifferenceFits, true_and]
      cases (iovView (e2 :: rest2) o2).flatten.take n with
      | nil => exact iff_of_false (fun h => absurd (isSignOf_nil_nil.mp h) (by decide)) (by simp)
      | cons b m => exact iff_of_true (isSignOf_nil_cons.mpr (by decide)) (List.cons_ne_nil _ _)
    | e1 :: rest1, [] =>
      rw [iovCompareLoop_cons_nil, if_neg h0, iovView_nil,
        iovWalkable_nil_right h0 (iovView_ne_nil e1 rest1 o1), List.flatten_nil, List.take_nil,
        ← take_ne_nil_iff h0]
      simp only [Option.some.injEq, exists_eq_left']
      cases (iovView (e1 :: rest1) o1).flatten.take n with
      | nil =>
        exact iff_of_false (fun h => absurd (isSignOf_nil_nil.mp h) (by decide)) (by simp)
      | cons b m =>
        exact iff_of_true (isSignOf_cons_nil.mpr (by decide)) ⟨trivial, List.cons_ne_nil _ _⟩
    | e1 :: rest1, e2 :: rest2 =>
      by_cases hgo : e1.drop o1 ≠ [] ∧ e2.drop o2 ≠ []
      · obtain ⟨m, hm⟩ : ∃ m, m = min (min (e1.length - o1) (e2.length - o2)) n := ⟨_, rfl⟩
        have hl1 := List.length_drop (i := o1) (l := e1)
        have hl2 := List.length_drop (i := o2) (l := e2)
        have hp1 := List.length_pos_of_ne_nil hgo.1
        have hp2 := List.length_pos_of_ne_nil hgo.2
        have hm1 : m ≤ (e1.drop o1).length := by omega
        have hm2 : m ≤ (e2.drop o2).length := by omega
        have hmn : m ≤ n := by omega
        rw [iovCompareLoop_cons e1 e2 rest1 rest2 o1 o2 hgo.1 hgo.2 h0 hm]
        by_cases hres : shortMemCmp (e1.drop o1) (e2.drop o2) m = 0
        · have heq := (shortMemCmp_eq_zero_iff hm1 hm2).mp hres
          have hih := ih (n - m) (by omega) (iovStep (e1 :: rest1) o1 m).1
            (iovStep (e2 :: rest2) o2 m).1 (iovStep (e1 :: rest1) o1 m).2
            (iovStep (e2 :: rest2) o2 m).2
          rw [flatten_iovStep, flatten_iovStep] at hih
          rw [if_neg (not_not.mpr hres), iovWalkable_iovStep rest1 rest2 hm1 hm2 (by omega) hmn heq,
            flatten_iovView_cons, flatten_iovView_cons, take_append_eq hm1 hmn,
            take_append_eq hm2 hmn, heq, firstDifferenceFits_append_left]
          simp only [isSignOf_append_left]
          exact hih
        · have hne : (e1.drop o1).take m ≠ (e2.drop o2).take m :=
            fun h => hres ((shortMemCmp_eq_zero_iff hm1 hm2).mpr h)
          rw [if_pos hres, flatten_iovView_cons, flatten_iovView_cons, take_append_eq hm1 hmn,
            take_append_eq hm2 hmn]
          simp only [Option.some.injEq, exists_eq_left',
            isSignOf_of_shortMemCmp_ne hm1 hm2 hres, iovWalkable_of_ne rest1 rest2 hm1 hm2 hne,
            and_true]
      · refine iff_of_false ?_ fun h => hgo (h.2 0 (Nat.pos_of_ne_zero h0) rfl)
        rintro ⟨r, hr, -⟩
        rw [iovCompareLoop, dif_neg h0] at hr
        simp only [iovCompareBytes_eq_none _ hgo] at hr
        cases hr

theorem iovCompare_isSignOf_iff (iovList1 iovList2 : IovBlist)
    (iovOffset1 iovOffset2 iovLength : ℕ) :
    (∃ r, iovCompare iovList1 iovList2 iovOffset1 iovOffset2 iovLength = some r ∧
      IsSignOf r.toInt ((iovList1.flatten.drop iovOffset1).take iovLength)
        ((iovList2.flatten.drop iovOffset2).take iovLength)) ↔
      firstDifferenceFits ((iovList1.flatten.drop iovOffset1).take iovLength)
          ((iovList2.flatten.drop iovOffset2).take iovLength) ∧
        IovWalkable (iovFrom iovList1 iovOffset1) (iovFrom iovList2 iovOffset2) iovLength := by
  rw [← flatten_iovFrom, ← flatten_iovFrom]
  exact iovCompareLoop_isSignOf_iff _ _ _ _ _

/-! ## All three comparisons -/

/-- Each comparison tells how the bytes it compares are ordered lexicographically if and only if
the first difference fits into eight bits and, for two chains, no empty element stands in the
way. -/
theorem comparisons_isSignOf_iff (m1 m2 : List UInt8) (size : ℕ) (h1 : size ≤ m1.length)
    (h2 : size ≤ m2.length) (iovList : IovBlist) (iovOffset : ℕ) (buf : List UInt8) (bufLen : ℕ)
    (hbuf : bufLen ≤ buf.length) (iovList1 iovList2 : IovBlist)
    (iovOffset1 iovOffset2 iovLength : ℕ) :
    (IsSignOf (shortMemCmp m1 m2 size).toInt (m1.take size) (m2.take size) ↔
      firstDifferenceFits (m1.take size) (m2.take size)) ∧
    (IsSignOf (iovShortCompare iovList iovOffset (some buf) bufLen).toInt
        ((iovList.flatten.drop iovOffset).take bufLen) (buf.take bufLen) ↔
      firstDifferenceFits ((iovList.flatten.drop iovOffset).take bufLen) (buf.take bufLen)) ∧
    ((∃ r, iovCompare iovList1 iovList2 iovOffset1 iovOffset2 iovLength = some r ∧
        IsSignOf r.toInt ((iovList1.flatten.drop iovOffset1).take iovLength)
          ((iovList2.flatten.drop iovOffset2).take iovLength)) ↔
      firstDifferenceFits ((iovList1.flatten.drop iovOffset1).take iovLength)
          ((iovList2.flatten.drop iovOffset2).take iovLength) ∧
        IovWalkable (iovFrom iovList1 iovOffset1) (iovFrom iovList2 iovOffset2) iovLength) :=
  ⟨shortMemCmp_isSignOf_iff h1 h2, iovShortCompare_isSignOf_iff iovList iovOffset buf hbuf,
    iovCompare_isSignOf_iff iovList1 iovList2 iovOffset1 iovOffset2 iovLength⟩

/-- Chains that are cut differently. -/
theorem comparisons_isSignOf_iff_two :
    (∃ r, iovCompare [[1, 2], [3]] [[1], [2, 4]] 0 0 3 = some r ∧
        IsSignOf r.toInt ([1, 2, 3] : List UInt8) [1, 2, 4]) ↔
      firstDifferenceFits [1, 2, 3] [1, 2, 4] ∧
        IovWalkable (iovFrom [[1, 2], [3]] 0) (iovFrom [[1], [2, 4]] 0) 3 :=
  (comparisons_isSignOf_iff [1] [2] 1 (by decide) (by decide) [[1]] 0 [2] 1 (by decide)
    [[1, 2], [3]] [[1], [2, 4]] 0 0 3).2.2

/-- A byte of zero counts as more than 255 for every one of the comparisons, which order three
bytes in a circle; and behind an empty element `iovCompare` reads what it should not. -/
theorem comparisons_not_lexicographic :
    shortMemCmp [0x00] [0xff] 1 = 1 ∧ iovShortCompare [[0x00]] 0 (some [0xff]) 1 = 1 ∧
      iovCompare [[0x00]] [[0xff]] 0 0 1 = some 1 ∧ ([0x00] : List UInt8) < [0xff] ∧
      (shortMemCmp [0x00] [0x64] 1 < 0 ∧ shortMemCmp [0x64] [0xc8] 1 < 0 ∧
        shortMemCmp [0xc8] [0x00] 1 < 0) ∧
      iovCompare [[0x01], [], [0x02]] [[0x01, 0x02]] 0 0 2 = none ∧
      ¬∀ (m1 m2 : List UInt8) (size : ℕ), size ≤ m1.length → size ≤ m2.length →
        IsSignOf (shortMemCmp m1 m2 size).toInt (m1.take size) (m2.take size) := by
  refine ⟨by decide, by decide, by decide +kernel, by decide, by decide, by decide +kernel, ?_⟩
  intro h
  exact absurd ((h [0x00] [0xff] 1 (by decide) (by decide)).pos_iff.mp (by decide)) (by decide)

end Whip6
