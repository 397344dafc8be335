import Whip6.Rpl.MessageBuilders

/-!
# Prefixes in RPL messages

A builder that checks before it writes, and one that checks behind, do the same at the place of a
byte (`putThenCheck_eq`), so that storing a prefix is one sequence of bytes with a check before each
of them: the bytes of the prefix, and then as many zeros as there are bytes to store.  It stores what
it should exactly when there is no bit in the prefix or no byte to store.
-/

namespace Whip6

open Lib

namespace RplCursor

/-- The number of bytes of the chain before the place of the builder. -/
def pos (cur : RplCursor) : ℕ :=
  iovIterPos (iovLens cur.chain) ⟨some cur.iovCurrElem, cur.iovOffset⟩

/-- The builder is at a byte of its element or right behind it. -/
structure Within (cur : RplCursor) : Prop where
  elem : cur.iovCurrElem < cur.chain.length
  offset : cur.iovOffset ≤ iovElemLen cur.chain cur.iovCurrElem

/-- The builder has written these bytes. -/
structure Wrote (cur : RplCursor) (bs : List UInt8) (cur' : RplCursor) : Prop where
  lens : iovLens cur'.chain = iovLens cur.chain
  text : cur'.chain.flatten = splice cur.chain.flatten cur.pos bs
  pos : cur'.pos = cur.pos + bs.length
  within : cur'.Within

theorem wrote_nil {cur : RplCursor} (h : cur.Within) : cur.Wrote [] cur :=
  ⟨rfl, by rw [splice_nil], rfl, h⟩

theorem Wrote.trans {cur cur' cur'' : RplCursor} {bs bs' : List UInt8} (h : cur.Wrote bs cur')
    (h' : cur'.Wrote bs' cur'') : cur.Wrote (bs ++ bs') cur'' where
  lens := h'.lens.trans h.lens
  text := by rw [h'.text, h.text, h.pos, splice_splice_adjacent]
  pos := by
    rw [h'.pos, h.pos, List.length_append]
    omega
  within := h'.within

/-- A builder stands in an element between the ones before and the ones behind it. -/
theorem Within.split {cur : RplCursor} (h : cur.Within) :
    ∃ pre e post, cur.chain = pre ++ e :: post ∧ pre.length = cur.iovCurrElem ∧
      iovElemLen cur.chain cur.iovCurrElem = e.length ∧
      cur.pos = pre.flatten.length + cur.iovOffset := by
  have helem := h.elem
  refine ⟨cur.chain.take cur.iovCurrElem, cur.chain[cur.iovCurrElem],
    cur.chain.drop (cur.iovCurrElem + 1), ?_, ?_, ?_, ?_⟩
  · rw [← List.drop_eq_getElem_cons, List.take_append_drop]
  · rw [List.length_take, min_eq_left helem.le]
  · rw [iovElemLen, List.getD_eq_getElem?_getD, List.getElem?_eq_getElem helem, Option.getD_some]
  · rw [pos, iovIterPos]
    dsimp only
    rw [iovLens, ← List.map_take, ← iovLens, sum_iovLens]

end RplCursor

open RplCursor

/-- A byte that is put stands at the place of the builder. -/
theorem icmpv6RplPut_wrote {b : UInt8} {cur cur' : RplCursor} (h : cur.Within)
    (hput : icmpv6RplPut b cur = .ok cur') :
    cur.Wrote [b] cur' ∧ cur'.iovCurrElem = cur.iovCurrElem := by
  obtain ⟨pre, e, post, hchain, hpre, hlen, hpos⟩ := h.split
  unfold icmpv6RplPut at hput
  split_ifs at hput with hlt
  cases hput
  rw [hlen] at hlt
  have hset : iovSetByte cur.chain cur.iovCurrElem cur.iovOffset b =
      pre ++ e.set cur.iovOffset b :: post := by
    rw [hchain, ← hpre, iovSetByte_append]
  have hlens : iovLens (iovSetByte cur.chain cur.iovCurrElem cur.iovOffset b) =
      iovLens cur.chain := by
    rw [hset, hchain]
    simp
  refine ⟨⟨hlens, ?_, ?_, ⟨?_, ?_⟩⟩, rfl⟩
  · dsimp only
    rw [hset, set_eq_splice, hpos, hchain]
    exact flatten_splice_elem pre e post cur.iovOffset [b] hlt
  · unfold RplCursor.pos iovIterPos
    dsimp only
    rw [hlens, List.length_singleton, Nat.add_assoc]
  · dsimp only
    rw [hset]
    simp [← hpre]
  · dsimp only
    rw [hset, iovElemLen, ← hpre]
    simp
    omega

/-- The check does not move the builder, but over the border of two elements. -/
theorem icmpv6RplCheck_within {cur cur' : RplCursor} (h : cur.Within)
    (hcheck : icmpv6RplCheckIovIterAfterAdvance cur = .ok cur') : cur.Wrote [] cur' := by
  obtain ⟨pre, e, post, hchain, hpre, hlen, hpos⟩ := h.split
  have hoffset := h.offset
  unfold icmpv6RplCheckIovIterAfterAdvance at hcheck
  split_ifs at hcheck with hge
  · rw [hlen] at hge hoffset
    unfold iovNext at hcheck
    split_ifs at hcheck with hnext
    · cases hcheck
      refine ⟨rfl, by rw [splice_nil], ?_, ⟨hnext, Nat.zero_le _⟩⟩
      unfold RplCursor.pos iovIterPos
      dsimp only
      have hget : (iovLens cur.chain)[cur.iovCurrElem]? = some e.length := by
        rw [hchain, ← hpre]
        simp
      rw [List.take_add_one, hget]
      simp
      omega
  · cases hcheck
    exact wrote_nil h

theorem icmpv6RplCheckThenPut_wrote {bs : List UInt8} {cur cur' : RplCursor} (h : cur.Within)
    (hput : icmpv6RplCheckThenPut bs cur = .ok cur') : cur.Wrote bs cur' := by
  induction bs generalizing cur with
  | nil =>
    cases hput
    exact wrote_nil h
  | cons b bs ih =>
    rw [icmpv6RplCheckThenPut] at hput
    cases hcheck : icmpv6RplCheckIovIterAfterAdvance cur with
    | error exit => simp [hcheck, bind, Except.bind] at hput
    | ok checked =>
      have hchecked := icmpv6RplCheck_within h hcheck
      cases hone : icmpv6RplPut b checked with
      | error exit => simp [hcheck, hone, bind, Except.bind] at hput
      | ok one =>
        obtain ⟨hwrote, -⟩ := icmpv6RplPut_wrote hchecked.within hone
        simp only [hcheck, hone, bind, Except.bind] at hput
        exact (hchecked.trans hwrote).trans (ih hwrote.within hput)

/-- There are as many bytes ahead in elements that follow each other: none of the elements that are
entered is empty. -/
def Room (lens : List ℕ) (elem pos n : ℕ) : Prop :=
  pos + n ≤ lens.sum ∧ ∀ k, elem < k → (lens.take k).sum < pos + n → lens[k]? ≠ some 0

/-- One byte more in the element of the builder. -/
theorem room_succ_same {lens : List ℕ} {elem pos n : ℕ} :
    Room lens elem (pos + 1) n ↔ Room lens elem pos (n + 1) := by
  unfold Room
  rw [show pos + 1 + n = pos + (n + 1) by omega]

/-- The first byte in the next element. -/
theorem room_succ_next {lens : List ℕ} {elem pos n len : ℕ} (hlen : lens[elem + 1]? = some len)
    (hpos : (lens.take (elem + 1)).sum = pos) :
    Room lens elem pos (n + 1) ↔ 0 < len ∧ Room lens (elem + 1) (pos + 1) n := by
  constructor
  · rintro ⟨hsum, hall⟩
    refine ⟨?_, by omega, fun k hk hlt => hall k (by omega) (by omega)⟩
    have hne := hall (elem + 1) (by omega) (by omega)
    rw [hlen] at hne
    exact Nat.pos_of_ne_zero fun h => hne (by rw [h])
  · rintro ⟨hpositive, hsum, hall⟩
    refine ⟨by omega, fun k hk hlt => ?_⟩
    by_cases hnext : k = elem + 1
    · rw [hnext, hlen]
      exact fun h => hpositive.ne' (Option.some.inj h)
    · exact hall k (by omega) (by omega)

theorem sum_take_le (lens : List ℕ) {m n : ℕ} (h : m ≤ n) :
    (lens.take m).sum ≤ (lens.take n).sum :=
  (List.take_sublist_take_left h).sum_le_sum fun _ _ => Nat.zero_le _

/-- The place of a builder in the lengths of the elements. -/
theorem RplCursor.Within.lens {cur : RplCursor} (h : cur.Within) :
    (iovLens cur.chain)[cur.iovCurrElem]? = some (iovElemLen cur.chain cur.iovCurrElem) ∧
      cur.pos = ((iovLens cur.chain).take cur.iovCurrElem).sum + cur.iovOffset ∧
      ((iovLens cur.chain).take (cur.iovCurrElem + 1)).sum =
        ((iovLens cur.chain).take cur.iovCurrElem).sum + iovElemLen cur.chain cur.iovCurrElem := by
  obtain ⟨pre, e, post, hchain, hpre, hlen, -⟩ := h.split
  have hget : (iovLens cur.chain)[cur.iovCurrElem]? = some e.length := by
    rw [hchain, ← hpre]
    simp
  refine ⟨by rw [hget, hlen], rfl, ?_⟩
  rw [List.take_add_one, hget, hlen]
  simp

theorem checkThenPut_nil_room {cur : RplCursor} (h : cur.Within) :
    Room (iovLens cur.chain) cur.iovCurrElem cur.pos 0 := by
  obtain ⟨hget, hpos, hnext⟩ := h.lens
  have hoffset := h.offset
  refine ⟨?_, fun k hk hlt => ?_⟩
  · have helem : cur.iovCurrElem + 1 ≤ cur.chain.length := h.elem
    have hle := sum_take_le (iovLens cur.chain) helem
    rw [← length_iovLens, List.take_length] at hle
    omega
  · have hk' : cur.iovCurrElem + 1 ≤ k := hk
    have hle := sum_take_le (iovLens cur.chain) hk'
    omega

/-- Bytes can be written exactly where there is room for them. -/
theorem icmpv6RplCheckThenPut_ok_iff {bs : List UInt8} {cur : RplCursor} (h : cur.Within) :
    (∃ cur', icmpv6RplCheckThenPut bs cur = .ok cur') ↔
      Room (iovLens cur.chain) cur.iovCurrElem cur.pos bs.length := by
  induction bs generalizing cur with
  | nil => exact iff_of_true ⟨cur, rfl⟩ (checkThenPut_nil_room h)
  | cons b bs ih =>
    obtain ⟨hget, hpos, hnext⟩ := h.lens
    have hoffset := h.offset
    rw [List.length_cons]
    by_cases hlt : cur.iovOffset < iovElemLen cur.chain cur.iovCurrElem
    · -- the byte is in the same element
      have hcheck : icmpv6RplCheckIovIterAfterAdvance cur = .ok cur := if_neg (not_le.mpr hlt)
      have hput : icmpv6RplPut b cur = .ok _ := if_pos hlt
      obtain ⟨hwrote, helem⟩ := icmpv6RplPut_wrote h hput
      have hrest := ih hwrote.within
      rw [hwrote.lens, helem, hwrote.pos, List.length_singleton] at hrest
      rw [← room_succ_same, ← hrest, icmpv6RplCheckThenPut]
      simp only [hcheck, hput, bind, Except.bind]
    · have hend : cur.iovOffset = iovElemLen cur.chain cur.iovCurrElem := by omega
      cases hlink : iovNext cur.chain cur.iovCurrElem with
      | none =>
        -- the chain ends
        refine iff_of_false ?_ ?_
        · rintro ⟨cur', hput⟩
          have hcheck : icmpv6RplCheckIovIterAfterAdvance cur = .error (.failureRollback cur) := by
            rw [icmpv6RplCheckIovIterAfterAdvance, if_pos hend.ge, hlink]
          simp [icmpv6RplCheckThenPut, hcheck, bind, Except.bind] at hput
        · rintro ⟨hsum, -⟩
          have hlast : ¬ cur.iovCurrElem + 1 < cur.chain.length := by
            intro hlt'
            simp [iovNext, hlt'] at hlink
          rw [List.take_of_length_le (by rw [length_iovLens]; omega)] at hnext
          omega
      | some next =>
        obtain ⟨hin, rfl⟩ : cur.iovCurrElem + 1 < cur.chain.length ∧ next = cur.iovCurrElem + 1 := by
          unfold iovNext at hlink
          split_ifs at hlink with hin
          exact ⟨hin, (Option.some.inj hlink).symm⟩
        have hcheck : icmpv6RplCheckIovIterAfterAdvance cur =
            .ok { cur with iovCurrElem := cur.iovCurrElem + 1, iovOffset := 0 } := by
          rw [icmpv6RplCheckIovIterAfterAdvance, if_pos hend.ge, hlink]
        have hchecked := icmpv6RplCheck_within h hcheck
        obtain ⟨hget', -, -⟩ := hchecked.within.lens
        have hplace := hchecked.pos
        have hborder : ((iovLens cur.chain).take (cur.iovCurrElem + 1)).sum = cur.pos := by omega
        rw [room_succ_next hget' hborder]
        by_cases hempty : 0 < iovElemLen cur.chain (cur.iovCurrElem + 1)
        · have hput : icmpv6RplPut b
              { cur with iovCurrElem := cur.iovCurrElem + 1, iovOffset := 0 } = .ok _ :=
            if_pos hempty
          obtain ⟨hwrote, helem⟩ := icmpv6RplPut_wrote hchecked.within hput
          have hrest := ih hwrote.within
          rw [hwrote.lens, helem, hwrote.pos, hplace] at hrest
          rw [and_iff_right hempty, icmpv6RplCheckThenPut]
          simp only [hcheck, hput, bind, Except.bind]
          exact hrest
        · have hput : icmpv6RplPut b
              { cur with iovCurrElem := cur.iovCurrElem + 1, iovOffset := 0 } = .error .outside :=
            if_neg hempty
          refine iff_of_false ?_ fun hroom => hempty hroom.1
          rintro ⟨cur', hok⟩
          simp [icmpv6RplCheckThenPut, hcheck, hput, bind, Except.bind] at hok

/-! ## One sequence of bytes -/

theorem checkThenPut_append (bs bs' : List UInt8) (cur : RplCursor) :
    icmpv6RplCheckThenPut (bs ++ bs') cur =
      icmpv6RplCheckThenPut bs cur >>= icmpv6RplCheckThenPut bs' := by
  induction bs generalizing cur with
  | nil => rfl
  | cons b bs ih =>
    rw [List.cons_append, icmpv6RplCheckThenPut, icmpv6RplCheckThenPut]
    simp only [bind_assoc, ih]

/-- With a check before the first byte the one before each is the one behind each. -/
theorem putThenCheck_eq (bs : List UInt8) (cur : RplCursor) :
    icmpv6RplCheckIovIterAfterAdvance cur >>= icmpv6RplPutThenCheck bs =
      icmpv6RplCheckThenPut bs cur >>= icmpv6RplCheckIovIterAfterAdvance := by
  induction bs generalizing cur with
  | nil =>
    show icmpv6RplCheckIovIterAfterAdvance cur >>= pure = _
    rw [bind_pure]
    rfl
  | cons b bs ih =>
    rw [icmpv6RplCheckThenPut]
    simp only [bind_assoc, ← ih]
    rfl

/-- The builder is at a byte. -/
def RplCursor.OnByte (cur : RplCursor) : Prop :=
  cur.iovOffset < iovElemLen cur.chain cur.iovCurrElem

theorem RplCursor.OnByte.check {cur : RplCursor} (h : cur.OnByte) :
    icmpv6RplCheckIovIterAfterAdvance cur = .ok cur :=
  if_neg (not_le.mpr h)

theorem RplCursor.OnByte.within {cur : RplCursor} (h : cur.OnByte) : cur.Within := by
  refine ⟨?_, le_of_lt h⟩
  by_contra hge
  have hzero : iovElemLen cur.chain cur.iovCurrElem = 0 := by
    rw [iovElemLen, List.getD_eq_default _ _ (not_lt.mp hge)]
    rfl
  unfold OnByte at h
  omega

theorem RplCursor.OnByte.putThenCheck {cur : RplCursor} (h : cur.OnByte) (bs : List UInt8) :
    icmpv6RplPutThenCheck bs cur =
      icmpv6RplCheckThenPut bs cur >>= icmpv6RplCheckIovIterAfterAdvance := by
  rw [← putThenCheck_eq, h.check]
  rfl

/-- The number of bytes of the prefix that are stored first. -/
def icmpv6RplRealBytes (prefixLengthInBits bytesToStore : UInt8) : UInt8 :=
  if icmpv6RplPrefixBytes prefixLengthInBits > bytesToStore then bytesToStore
  else icmpv6RplPrefixBytes prefixLengthInBits

/-- The bytes of the prefix that are stored first. -/
def icmpv6RplRealPrefix (prefixData : Ipv6Addr) (prefixLengthInBits bytesToStore : UInt8) :
    List UInt8 :=
  let realBytesToStore := icmpv6RplRealBytes prefixLengthInBits bytesToStore
  let lastByteMask := if icmpv6RplPrefixBytes prefixLengthInBits > bytesToStore then 0xff
    else icmpv6RplLastByteMask prefixLengthInBits
  if realBytesToStore > 0 then
    prefixData.toList.take (realBytesToStore.toNat - 1) ++
      [prefixData.toList.getD (realBytesToStore.toNat - 1) 0 &&& lastByteMask]
  else []

theorem storeBytes_eq (prefixData : Ipv6Addr) (prefixLengthInBits bytesToStore : UInt8)
    {cur : RplCursor} (h : cur.OnByte) :
    icmpv6RplStoreBytes prefixData prefixLengthInBits bytesToStore cur =
      icmpv6RplCheckThenPut (icmpv6RplRealPrefix prefixData prefixLengthInBits bytesToStore ++
        List.replicate bytesToStore.toNat 0x00) cur := by
  unfold icmpv6RplStoreBytes icmpv6RplRealPrefix
  dsimp only
  rw [← icmpv6RplRealBytes]
  generalize (if icmpv6RplPrefixBytes prefixLengthInBits > bytesToStore then (0xff : UInt8)
    else icmpv6RplLastByteMask prefixLengthInBits) = lastByteMask
  by_cases hreal : icmpv6RplRealBytes prefixLengthInBits bytesToStore > 0
  · rw [if_pos hreal, if_pos hreal, h.putThenCheck, checkThenPut_append, checkThenPut_append]
    simp only [bind_assoc, icmpv6RplCheckThenPut, pure_bind]
    rw [UInt8.sub_zero]
    rfl
  · have hzero : icmpv6RplRealBytes prefixLengthInBits bytesToStore = 0 := by
      rw [gt_iff_lt, UInt8.lt_iff_toNat_lt] at hreal
      exact UInt8.toNat_inj.mp (Nat.eq_zero_of_not_pos hreal)
    rw [if_neg hreal, if_neg hreal, hzero, pure_bind, UInt8.sub_zero]
    rfl

theorem prefixBytes_toNat {prefixLengthInBits : UInt8} (h : prefixLengthInBits ≤ 128) :
    (icmpv6RplPrefixBytes prefixLengthInBits).toNat = (prefixLengthInBits.toNat + 7) / 8 := by
  have hle : prefixLengthInBits.toNat ≤ 128 := UInt8.le_iff_toNat_le.mp h
  rw [icmpv6RplPrefixBytes, Nat.shiftRight_eq_div_pow]
  exact UInt8.toNat_ofNat_of_lt' (by
    rw [show UInt8.size = 256 from rfl]
    omega)

theorem realBytes_toNat {prefixLengthInBits : UInt8} (h : prefixLengthInBits ≤ 128)
    (bytesToStore : UInt8) :
    (icmpv6RplRealBytes prefixLengthInBits bytesToStore).toNat =
      min ((prefixLengthInBits.toNat + 7) / 8) bytesToStore.toNat := by
  rw [icmpv6RplRealBytes]
  split_ifs with hlt
  · rw [gt_iff_lt, UInt8.lt_iff_toNat_lt, prefixBytes_toNat h] at hlt
    omega
  · rw [gt_iff_lt, UInt8.lt_iff_toNat_lt, prefixBytes_toNat h] at hlt
    rw [prefixBytes_toNat h]
    omega

theorem length_realPrefix (prefixData : Ipv6Addr) {prefixLengthInBits : UInt8}
    (h : prefixLengthInBits ≤ 128) (bytesToStore : UInt8) :
    (icmpv6RplRealPrefix prefixData prefixLengthInBits bytesToStore).length =
      min ((prefixLengthInBits.toNat + 7) / 8) bytesToStore.toNat := by
  have hle : prefixLengthInBits.toNat ≤ 128 := UInt8.le_iff_toNat_le.mp h
  have hreal := realBytes_toNat h bytesToStore
  unfold icmpv6RplRealPrefix
  dsimp only
  generalize (if icmpv6RplPrefixBytes prefixLengthInBits > bytesToStore then (0xff : UInt8)
    else icmpv6RplLastByteMask prefixLengthInBits) = lastByteMask
  split_ifs with hpos
  · rw [gt_iff_lt, UInt8.lt_iff_toNat_lt, hreal] at hpos
    have hzero : (0 : UInt8).toNat = 0 := rfl
    rw [List.length_append, List.length_take, Vector.length_toList, List.length_singleton, hreal]
    omega
  · rw [gt_iff_lt, UInt8.lt_iff_toNat_lt, hreal] at hpos
    have hzero : (0 : UInt8).toNat = 0 := rfl
    rw [List.length_nil]
    omega

theorem realPrefix_of_zero (prefixData : Ipv6Addr) {prefixLengthInBits bytesToStore : UInt8}
    (h : prefixLengthInBits = 0 ∨ bytesToStore = 0) :
    icmpv6RplRealPrefix prefixData prefixLengthInBits bytesToStore = [] := by
  have hreal : icmpv6RplRealBytes prefixLengthInBits bytesToStore = 0 := by
    rcases h with rfl | rfl
    · rw [icmpv6RplRealBytes]
      exact if_neg (by simp [icmpv6RplPrefixBytes])
    · rw [icmpv6RplRealBytes]
      split_ifs with hgt
      · rfl
      · rw [gt_iff_lt, UInt8.lt_iff_toNat_lt] at hgt
        exact UInt8.toNat_inj.mp (Nat.eq_zero_of_not_pos hgt)
  rw [icmpv6RplRealPrefix, hreal]
  rfl

/-! ## What is to be stored -/

/-- The first `m` bits of a byte, and zeros. -/
def keepBits (b : UInt8) (m : ℕ) : UInt8 := UInt8.ofNat (b.toNat / 2 ^ (8 - m) * 2 ^ (8 - m))

/-- The first bytes of a prefix, with zeros for all bits behind its length. -/
def prefixBytes (prefixData : Ipv6Addr) (prefixLengthInBits bytesToStore : ℕ) : List UInt8 :=
  (List.range bytesToStore).map fun k =>
    keepBits (prefixData.toList.getD k 0) (prefixLengthInBits - 8 * k)

theorem keepBits_zero (b : UInt8) : keepBits b 0 = 0 := by
  have hlt := UInt8.toNat_lt b
  rw [keepBits, Nat.sub_zero, Nat.div_eq_of_lt hlt, Nat.zero_mul]
  rfl

theorem prefixBytes_zero (prefixData : Ipv6Addr) (bytesToStore : ℕ) :
    prefixBytes prefixData 0 bytesToStore = List.replicate bytesToStore 0 := by
  unfold prefixBytes
  simp only [Nat.zero_sub, keepBits_zero, List.map_const', List.length_range]

/-- The chain holds these bytes at the place of the iterator, nothing else of it has changed, and
the iterator is behind them. -/
def Advanced (chain : IovBlist) (iter : IovBlistIter) (bs : List UInt8) (chain' : IovBlist)
    (iter' : IovBlistIter) : Prop :=
  iovLens chain' = iovLens chain ∧
    chain'.flatten = splice chain.flatten (iovIterPos (iovLens chain) iter) bs ∧
    iovIterPos (iovLens chain') iter' = iovIterPos (iovLens chain) iter + bs.length

/-- The prefix is stored as it should be. -/
def StoresPrefix (chain : IovBlist) (iter : IovBlistIter) (prefixData : Ipv6Addr)
    (prefixLengthInBits bytesToStore : UInt8) : Prop :=
  ∃ r, icmpv6RplStoreAddressPrefixInMessage chain iter prefixData prefixLengthInBits
      bytesToStore = some r ∧ r.ret = 0 ∧
    Advanced chain iter (prefixBytes prefixData prefixLengthInBits.toNat bytesToStore.toNat)
      r.chain r.iter

theorem finishAdvancing_pos {cur : RplCursor} (h : cur.Within) :
    iovIterPos (iovLens cur.chain) (icmpv6RplFinishAdvancingIovIter cur) = cur.pos := by
  obtain ⟨hget, hpos, hnext⟩ := h.lens
  have hoffset := h.offset
  unfold icmpv6RplFinishAdvancingIovIter
  split_ifs with hge
  · cases hlink : iovNext cur.chain cur.iovCurrElem with
    | none =>
      have hlast : ¬ cur.iovCurrElem + 1 < cur.chain.length := by
        intro hlt
        simp [iovNext, hlt] at hlink
      rw [List.take_of_length_le (by rw [length_iovLens]; omega)] at hnext
      rw [iovIterPos_none]
      omega
    | some next =>
      obtain rfl : next = cur.iovCurrElem + 1 := by
        unfold iovNext at hlink
        split_ifs at hlink
        exact (Option.some.inj hlink).symm
      show ((iovLens cur.chain).take (cur.iovCurrElem + 1)).sum + 0 = _
      omega
  · rfl

/-- From the place of a byte, for the bytes that the code writes. -/
theorem storesPrefix_iff_of_onByte {chain : IovBlist} {elem offset : ℕ} (prefixData : Ipv6Addr)
    {prefixLengthInBits : UInt8} (bytesToStore : UInt8)
    (hbyte : offset < iovElemLen chain elem) (hbits : prefixLengthInBits ≤ 128) :
    StoresPrefix chain ⟨some elem, offset⟩ prefixData prefixLengthInBits bytesToStore ↔
      bytesToStore = 0 ∨ prefixLengthInBits = 0 ∧
        Room (iovLens chain) elem (iovIterPos (iovLens chain) ⟨some elem, offset⟩)
          bytesToStore.toNat := by
  have hon : RplCursor.OnByte ⟨chain, elem, offset, 0⟩ := hbyte
  have hlength := length_realPrefix prefixData hbits bytesToStore
  have hroom : (∃ cur', icmpv6RplCheckThenPut (icmpv6RplRealPrefix prefixData prefixLengthInBits
        bytesToStore ++ List.replicate bytesToStore.toNat 0x00) ⟨chain, elem, offset, 0⟩ =
          .ok cur') ↔ Room (iovLens chain) elem (iovIterPos (iovLens chain) ⟨some elem, offset⟩) _ :=
    icmpv6RplCheckThenPut_ok_iff hon.within
  have hbytes : (prefixBytes prefixData prefixLengthInBits.toNat bytesToStore.toNat).length =
      bytesToStore.toNat := by simp [prefixBytes]
  unfold StoresPrefix icmpv6RplStoreAddressPrefixInMessage
  dsimp only
  rw [storeBytes_eq prefixData prefixLengthInBits bytesToStore hon]
  constructor
  · rintro ⟨r, hstore, -, hlens, -, hpos⟩
    rw [hbytes] at hpos
    split at hstore
    · -- all bytes are written
      rename_i cur' hput
      cases hstore
      have hwrote := icmpv6RplCheckThenPut_wrote hon.within hput
      have hfit := hroom.mp ⟨cur', hput⟩
      rw [finishAdvancing_pos hwrote.within, hwrote.pos, List.length_append,
        List.length_replicate, hlength] at hpos
      rw [List.length_append, List.length_replicate, hlength] at hfit
      have hplace : RplCursor.pos ⟨chain, elem, offset, 0⟩ =
          iovIterPos (iovLens chain) ⟨some elem, offset⟩ := rfl
      have hmin : min ((prefixLengthInBits.toNat + 7) / 8) bytesToStore.toNat = 0 := by omega
      rw [hmin, Nat.zero_add] at hfit
      by_cases hzero : bytesToStore = 0
      · exact .inl hzero
      · have hpositive : bytesToStore.toNat ≠ 0 := fun h => hzero (UInt8.toNat_inj.mp h)
        have hnone : prefixLengthInBits.toNat = 0 := by omega
        exact .inr ⟨UInt8.toNat_inj.mp hnone, hfit⟩
    · -- the chain ends: the iterator stays
      cases hstore
      dsimp only at hlens hpos
      rw [hlens] at hpos
      have hzero : bytesToStore.toNat = 0 := by omega
      exact .inl (UInt8.toNat_inj.mp hzero)
    · cases hstore
  · intro h
    have hnil : icmpv6RplRealPrefix prefixData prefixLengthInBits bytesToStore = [] :=
      realPrefix_of_zero prefixData (h.symm.imp_left And.left)
    have hfit : Room (iovLens chain) elem (iovIterPos (iovLens chain) ⟨some elem, offset⟩)
        bytesToStore.toNat := by
      rcases h with rfl | ⟨-, hfit⟩
      · exact checkThenPut_nil_room hon.within
      · exact hfit
    have hzeros : prefixBytes prefixData prefixLengthInBits.toNat bytesToStore.toNat =
        List.replicate bytesToStore.toNat 0 := by
      rcases h with rfl | ⟨rfl, -⟩
      · rfl
      · exact prefixBytes_zero prefixData bytesToStore.toNat
    rw [hnil, List.nil_append] at hroom ⊢
    rw [List.length_replicate] at hroom
    obtain ⟨cur', hput⟩ := hroom.mpr hfit
    have hwrote := icmpv6RplCheckThenPut_wrote hon.within hput
    refine ⟨⟨0, icmpv6RplFinishAdvancingIovIter cur', cur'.chain⟩, ?_, rfl, hwrote.lens, ?_, ?_⟩
    · rw [hput]
    · rw [hzeros]
      exact hwrote.text
    · dsimp only
      rw [finishAdvancing_pos hwrote.within, hwrote.pos, hbytes, List.length_replicate]
      rfl

/-! ## Options with a prefix -/

theorem advanced_append_iff {chain chain' chain'' : IovBlist} {iter iter' iter'' : IovBlistIter}
    {bs : List UInt8} (h : Advanced chain iter bs chain' iter') (bs' : List UInt8) :
    Advanced chain iter (bs ++ bs') chain'' iter'' ↔ Advanced chain' iter' bs' chain'' iter'' := by
  obtain ⟨hlens, htext, hpos⟩ := h
  unfold Advanced
  rw [hlens] at hpos ⊢
  rw [htext, hpos, splice_splice_adjacent, List.length_append, Nat.add_assoc]

theorem room_of_full {chain : IovBlist} (hfull : [] ∉ chain) {elem pos n : ℕ}
    (h : pos + n ≤ chain.flatten.length) : Room (iovLens chain) elem pos n := by
  refine ⟨by rwa [sum_iovLens], fun k _ _ hzero => ?_⟩
  rw [iovLens, List.getElem?_map, Option.map_eq_some_iff] at hzero
  obtain ⟨e, he, hlen⟩ := hzero
  rw [List.eq_nil_of_length_eq_zero hlen] at he
  exact hfull (List.mem_of_getElem? he)

theorem full_of_lens {chain chain' : IovBlist} (h : iovLens chain' = iovLens chain)
    (hfull : [] ∉ chain) : [] ∉ chain' := by
  rw [nil_not_mem_iff, h, ← nil_not_mem_iff]
  exact hfull

/-- In a chain without empty elements the check finds a byte, unless the chain ends. -/
theorem icmpv6RplCheck_full {cur : RplCursor} (h : cur.Within) (hfull : [] ∉ cur.chain) :
    if cur.pos < cur.chain.flatten.length then
      ∃ cur', icmpv6RplCheckIovIterAfterAdvance cur = .ok cur' ∧ cur'.OnByte
    else icmpv6RplCheckIovIterAfterAdvance cur = .error (.failureRollback cur) := by
  obtain ⟨hget, hpos, hnext⟩ := h.lens
  have hoffset := h.offset
  have hsum := sum_iovLens cur.chain
  by_cases hlt : cur.iovOffset < iovElemLen cur.chain cur.iovCurrElem
  · have helem : cur.iovCurrElem + 1 ≤ cur.chain.length := h.elem
    have hle := sum_take_le (iovLens cur.chain) helem
    rw [← length_iovLens, List.take_length] at hle
    rw [if_pos (by omega)]
    exact ⟨cur, OnByte.check hlt, hlt⟩
  · rw [icmpv6RplCheckIovIterAfterAdvance, if_pos (not_lt.mp hlt), iovNext]
    by_cases hin : cur.iovCurrElem + 1 < cur.chain.length
    · have hpositive : 0 < iovElemLen cur.chain (cur.iovCurrElem + 1) := by
        rw [iovElemLen, List.getD_eq_getElem?_getD, List.getElem?_eq_getElem hin, Option.getD_some]
        exact List.length_pos_of_ne_nil fun hnil => hfull (hnil ▸ List.getElem_mem hin)
      have helem : cur.iovCurrElem + 2 ≤ cur.chain.length := hin
      have hle := sum_take_le (iovLens cur.chain) helem
      rw [← length_iovLens, List.take_length] at hle
      have hnext' : (iovLens cur.chain)[cur.iovCurrElem + 1]? =
          some (iovElemLen cur.chain (cur.iovCurrElem + 1)) := by
        rw [iovLens, List.getElem?_map, List.getElem?_eq_getElem hin, iovElemLen,
          List.getD_eq_getElem?_getD, List.getElem?_eq_getElem hin]
        rfl
      rw [List.take_add_one, hnext', List.sum_append] at hle
      simp only [Option.toList_some, List.sum_singleton] at hle
      rw [if_pos (by omega), if_pos hin]
      exact ⟨_, rfl, hpositive⟩
    · rw [List.take_of_length_le (by rw [length_iovLens]; omega)] at hnext
      rw [if_neg (by omega), if_neg hin]

/-- An option is built with the bytes before its prefix and its prefix. -/
def BuildsOption (chain : IovBlist) (iter : IovBlistIter) (built : Option (RplBuilt UInt16))
    (bs : List UInt8) : Prop :=
  ∃ r, built = some r ∧ r.ret = 0 ∧ Advanced chain iter bs r.chain r.iter

theorem buildOption_iff {chain : IovBlist} {elem offset : ℕ} {hdr : List UInt8} (total : UInt16)
    (prefixPtr : Ipv6Addr) {prefixLen bytesToStore : UInt8} (hne : hdr ≠ [])
    (hfull : [] ∉ chain) (hbyte : offset < iovElemLen chain elem) (hbits : prefixLen ≤ 128)
    (hroom : iovIterPos (iovLens chain) ⟨some elem, offset⟩ + hdr.length + bytesToStore.toNat ≤
      chain.flatten.length) :
    BuildsOption chain ⟨some elem, offset⟩
        (icmpv6RplBuildOptionWithPrefix chain ⟨some elem, offset⟩ hdr total prefixPtr prefixLen
          bytesToStore)
        (hdr ++ prefixBytes prefixPtr prefixLen.toNat bytesToStore.toNat) ↔
      (bytesToStore = 0 ∨ prefixLen = 0) ∧
        iovIterPos (iovLens chain) ⟨some elem, offset⟩ + hdr.length < chain.flatten.length := by
  have hon : RplCursor.OnByte ⟨chain, elem, offset, 0⟩ := hbyte
  have hfit : Room (iovLens chain) elem (iovIterPos (iovLens chain) ⟨some elem, offset⟩)
      hdr.length := room_of_full hfull (by omega)
  obtain ⟨cur, hput⟩ := (icmpv6RplCheckThenPut_ok_iff hon.within).mpr hfit
  have hwrote := icmpv6RplCheckThenPut_wrote hon.within hput
  have hfull' : [] ∉ cur.chain := full_of_lens hwrote.lens hfull
  have hcheck := icmpv6RplCheck_full hwrote.within hfull'
  have hlength : cur.chain.flatten.length = chain.flatten.length := by
    rw [← sum_iovLens, hwrote.lens, sum_iovLens]
  have hplace : cur.pos = iovIterPos (iovLens chain) ⟨some elem, offset⟩ + hdr.length := hwrote.pos
  have hhdr : icmpv6RplPutThenCheck hdr ⟨chain, elem, offset, 0⟩ =
      icmpv6RplCheckIovIterAfterAdvance cur := by
    rw [hon.putThenCheck, hput]
    rfl
  unfold BuildsOption icmpv6RplBuildOptionWithPrefix
  dsimp only
  rw [if_neg (not_le.mpr hbyte), hhdr]
  rw [hplace, hlength] at hcheck
  have hlong : 0 < hdr.length := List.length_pos_of_ne_nil hne
  by_cases hlt : iovIterPos (iovLens chain) ⟨some elem, offset⟩ + hdr.length < chain.flatten.length
  · rw [if_pos hlt] at hcheck
    obtain ⟨cur', hok, hon'⟩ := hcheck
    have hto := hwrote.trans (icmpv6RplCheck_within hwrote.within hok)
    rw [List.append_nil] at hto
    have hadv : Advanced chain ⟨some elem, offset⟩ hdr cur'.chain
        ⟨some cur'.iovCurrElem, cur'.iovOffset⟩ := ⟨hto.lens, hto.text, hto.pos⟩
    have hroom' : Room (iovLens cur'.chain) cur'.iovCurrElem
        (iovIterPos (iovLens cur'.chain) ⟨some cur'.iovCurrElem, cur'.iovOffset⟩)
        bytesToStore.toNat := by
      apply room_of_full (full_of_lens hto.lens hfull)
      rw [hadv.2.2, ← sum_iovLens, hto.lens, sum_iovLens]
      exact hroom
    have hstores := storesPrefix_iff_of_onByte prefixPtr bytesToStore hon' hbits
    rw [and_iff_left hroom'] at hstores
    rw [and_iff_left hlt, ← hstores, hok]
    dsimp only
    constructor
    · rintro ⟨r, hr, hret, hto'⟩
      obtain ⟨stored, hstored, rfl⟩ := Option.map_eq_some_iff.mp hr
      refine ⟨stored, hstored, ?_, (advanced_append_iff hadv _).mp hto'⟩
      have hzero := congrArg UInt16.toNat hret
      rw [UInt8.toNat_toUInt16] at hzero
      exact UInt8.toNat_inj.mp hzero
    · rintro ⟨stored, hstored, hret, hto'⟩
      refine ⟨⟨stored.ret.toUInt16, stored.iter, stored.chain⟩, ?_, ?_,
        (advanced_append_iff hadv _).mpr hto'⟩
      · rw [hstored]
        rfl
      · rw [hret]
        rfl
  · rw [if_neg hlt] at hcheck
    rw [hcheck]
    refine iff_of_false ?_ fun h => hlt h.2
    rintro ⟨r, hr, -, hlens, -, hpos⟩
    cases hr
    dsimp only at hlens hpos
    rw [hlens, List.length_append] at hpos
    omega

/-- When a prefix is stored as it should be, and when the two options with a prefix are built with
the length they announce. -/
theorem storeAddressPrefix_iff (prefixData : Ipv6Addr) {prefixLengthInBits : UInt8}
    (hbits : prefixLengthInBits ≤ 128) {chain : IovBlist} {elem offset : ℕ}
    (hbyte : offset < iovElemLen chain elem) :
    (∀ bytesToStore : UInt8,
      iovIterPos (iovLens chain) ⟨some elem, offset⟩ + bytesToStore.toNat ≤ chain.flatten.length →
      (StoresPrefix chain ⟨some elem, offset⟩ prefixData prefixLengthInBits bytesToStore ↔
        bytesToStore = 0 ∨ prefixLengthInBits = 0 ∧ ∀ k, elem < k →
          ((iovLens chain).take k).sum <
            iovIterPos (iovLens chain) ⟨some elem, offset⟩ + bytesToStore.toNat →
          (iovLens chain)[k]? ≠ some 0)) ∧
    (∀ routeLifetimeInSecs routePreference, [] ∉ chain →
      let bs := icmpv6RplRouteInformation routeLifetimeInSecs prefixLengthInBits routePreference ++
        prefixBytes prefixData prefixLengthInBits.toNat
          (icmpv6RplPrefixBytes prefixLengthInBits).toNat
      bs.length = 2 + (bs.getD 1 0).toNat ∧
      (iovIterPos (iovLens chain) ⟨some elem, offset⟩ + bs.length ≤ chain.flatten.length →
        (BuildsOption chain ⟨some elem, offset⟩
            (icmpv6RplContinueBuildingMessageByAddingOptionRouteInformation chain
              ⟨some elem, offset⟩ prefixData routeLifetimeInSecs prefixLengthInBits
              routePreference) bs ↔
          prefixLengthInBits = 0 ∧
            iovIterPos (iovLens chain) ⟨some elem, offset⟩ + bs.length < chain.flatten.length))) ∧
    (∀ onLink autonomousAddrConf router validLifetime preferredLifetime, [] ∉ chain →
      let bs := icmpv6RplPrefixInformation prefixLengthInBits onLink autonomousAddrConf router
        validLifetime preferredLifetime ++ prefixBytes prefixData prefixLengthInBits.toNat 16
      bs.length = 2 + (bs.getD 1 0).toNat ∧
      (iovIterPos (iovLens chain) ⟨some elem, offset⟩ + bs.length ≤ chain.flatten.length →
        (BuildsOption chain ⟨some elem, offset⟩
            (icmpv6RplContinueBuildingMessageByAddingOptionPrefixInformation chain
              ⟨some elem, offset⟩ prefixLengthInBits onLink autonomousAddrConf router
              validLifetime preferredLifetime prefixData) bs ↔
          prefixLengthInBits = 0))) := by
  refine ⟨?_, ?_, ?_⟩
  · intro bytesToStore hahead
    rw [storesPrefix_iff_of_onByte prefixData bytesToStore hbyte hbits, Room, sum_iovLens,
      and_iff_right hahead]
  · intro routeLifetimeInSecs routePreference hfull bs
    have hn := prefixBytes_toNat hbits
    have hle : prefixLengthInBits.toNat ≤ 128 := UInt8.le_iff_toNat_le.mp hbits
    have hhdr : (icmpv6RplRouteInformation routeLifetimeInSecs prefixLengthInBits
        routePreference).length = 8 := rfl
    have hlength : bs.length = 8 + (icmpv6RplPrefixBytes prefixLengthInBits).toNat := by
      rw [List.length_append, hhdr, prefixBytes, List.length_map, List.length_range]
    refine ⟨?_, fun hahead => ?_⟩
    · show bs.length =
        2 + (rplMessageOptDataRouteInformationSize + icmpv6RplPrefixBytes prefixLengthInBits).toNat
      have hsix : rplMessageOptDataRouteInformationSize.toNat = 6 := rfl
      rw [hlength, UInt8.toNat_add, hsix]
      omega
    · rw [hlength] at hahead ⊢
      unfold icmpv6RplContinueBuildingMessageByAddingOptionRouteInformation
      rw [buildOption_iff _ prefixData (by simp [icmpv6RplRouteInformation]) hfull hbyte hbits
        (by rw [hhdr]; omega), hhdr]
      have hzero : icmpv6RplPrefixBytes prefixLengthInBits = 0 ↔ prefixLengthInBits = 0 := by
        rw [← UInt8.toNat_inj, ← UInt8.toNat_inj, hn]
        show _ = 0 ↔ _ = 0
        omega
      rw [hzero, or_self]
      refine and_congr_right fun hnone => ?_
      rw [hzero.mpr hnone]
      rfl
  · intro onLink autonomousAddrConf router validLifetime preferredLifetime hfull bs
    have hhdr : (icmpv6RplPrefixInformation prefixLengthInBits onLink autonomousAddrConf router
        validLifetime preferredLifetime).length = 16 := rfl
    have hlength : bs.length = 32 := by
      rw [List.length_append, hhdr, prefixBytes, List.length_map, List.length_range]
    refine ⟨hlength, fun hahead => ?_⟩
    rw [hlength] at hahead
    have hroom : iovIterPos (iovLens chain) ⟨some elem, offset⟩ +
        (icmpv6RplPrefixInformation prefixLengthInBits onLink autonomousAddrConf router
          validLifetime preferredLifetime).length + (16 : UInt8).toNat ≤ chain.flatten.length := by
      rw [hhdr]
      exact hahead
    unfold icmpv6RplContinueBuildingMessageByAddingOptionPrefixInformation
    refine (buildOption_iff _ prefixData (by simp [icmpv6RplPrefixInformation]) hfull hbyte hbits
      hroom).trans ?_
    rw [or_iff_right (by decide), and_iff_left (by rw [hhdr]; omega)]

/-- A chain of eight bytes after which another element follows. -/
def exampleChain : IovBlist := [List.replicate 8 0xff, List.replicate 8 0xff]

/-- Four zeros for the prefix without any bit. -/
theorem storeAddressPrefix_iff_empty :
    StoresPrefix exampleChain ⟨some 0, 6⟩ (Vector.replicate 16 0x20) 0 4 := by
  apply ((storeAddressPrefix_iff (Vector.replicate 16 0x20) (by decide) (by decide)).1 4
    (by decide)).mpr
  refine .inr ⟨rfl, fun k hk _ => ?_⟩
  rcases k with _ | _ | k
  · exact absurd hk (by decide)
  · decide
  · simp [exampleChain]

/-- The prefix `2000::/8` in one byte: a zero is written behind it. -/
theorem storeAddressPrefix_overruns :
    ¬ StoresPrefix exampleChain ⟨some 0, 0⟩ (Vector.replicate 16 0x20) 8 1 := by
  rintro ⟨r, hr, -, -, -, hpos⟩
  have hres : icmpv6RplStoreAddressPrefixInMessage exampleChain ⟨some 0, 0⟩
      (Vector.replicate 16 0x20) 8 1 =
      some ⟨0, ⟨some 0, 2⟩, [0x20 :: 0x00 :: List.replicate 6 0xff, List.replicate 8 0xff]⟩ := by
    rfl
  rw [hres] at hr
  cases hr
  exact absurd hpos (by decide)

end Whip6
