import Whip6.Lowpan.LinkTableInvariant

/-!
# Creating and evicting links

`lowpanMeshLinkTableFindExistingOrCreateNewLink` keeps a table well formed.  In a full table it may
give up one link, the worst one that may be removed, and it leaves all other links alone
(`findExistingOrCreateNewLink_evicts_worst`).  When it returns the invalid index the table is
unchanged, but for an address without a mode (`findExistingOrCreateNewLink_unchanged_iff`).
-/

namespace Whip6

open Lib

/-! ## The worst link -/

/-- A link that may be removed, and that the search for the worst link considers. -/
def LowpanLink.isCandidate (link : LowpanLink) : Bool :=
  lowpanMeshLinkTableCanExistingLinkBeRemovedInternal link &&
    decide (WHIP6_ETX_METRIC_ZERO < link.quality.etx)

theorem canExistingLinkBeRemoved_iff (link : LowpanLink) :
    lowpanMeshLinkTableCanExistingLinkBeRemovedInternal link = true ↔
      lowpanMeshLinkTableIsLinkAllocatedInternal link = true ∧
        link.flags &&& WHIP6_6LOWPAN_LINK_FLAG_INIT = 0 ∧
        link.flags &&& WHIP6_6LOWPAN_LINK_FLAG_PINNED = 0 := by
  rw [lowpanMeshLinkTableCanExistingLinkBeRemovedInternal, Bool.and_eq_true, beq_iff_eq]
  have hbits : ∀ flags : UInt8,
      flags &&& (WHIP6_6LOWPAN_LINK_FLAG_INIT ||| WHIP6_6LOWPAN_LINK_FLAG_PINNED) = 0 ↔
        flags &&& WHIP6_6LOWPAN_LINK_FLAG_INIT = 0 ∧
          flags &&& WHIP6_6LOWPAN_LINK_FLAG_PINNED = 0 := by
    intro flags
    have hdistrib : flags &&& (WHIP6_6LOWPAN_LINK_FLAG_INIT ||| WHIP6_6LOWPAN_LINK_FLAG_PINNED) =
        flags &&& WHIP6_6LOWPAN_LINK_FLAG_INIT ||| flags &&& WHIP6_6LOWPAN_LINK_FLAG_PINNED := by
      apply UInt8.eq_of_toBitVec_eq
      ext i hi
      simp [Bool.and_or_distrib_left]
    rw [hdistrib, UInt8.or_eq_zero_iff]
  rw [hbits]

namespace LowpanLinkTable

/-- The search so far: the greatest metric of the candidates, and the index of a link that has it
unless that is the metric the search started with. -/
theorem worstLinkLoop_spec (table : LowpanLinkTable) (n i : ℕ) (worstEtx : UInt16)
    (worstIdx : UInt8) :
    (lowpanWorstLinkLoop table n i worstEtx worstIdx = worstIdx ∧
      ∀ j, i ≤ j → j < i + n →
        lowpanMeshLinkTableCanExistingLinkBeRemovedInternal (table.linkPoolPtr j) = true →
        (table.linkPoolPtr j).quality.etx ≤ worstEtx) ∨
    ∃ j, i ≤ j ∧ j < i + n ∧
      lowpanMeshLinkTableCanExistingLinkBeRemovedInternal (table.linkPoolPtr j) = true ∧
      worstEtx < (table.linkPoolPtr j).quality.etx ∧
      lowpanWorstLinkLoop table n i worstEtx worstIdx = (table.linkPoolPtr j).idx ∧
      ∀ k, i ≤ k → k < i + n →
        lowpanMeshLinkTableCanExistingLinkBeRemovedInternal (table.linkPoolPtr k) = true →
        (table.linkPoolPtr k).quality.etx ≤ (table.linkPoolPtr j).quality.etx := by
  induction n generalizing i worstEtx worstIdx with
  | zero => exact Or.inl ⟨rfl, fun j hj hlt => by omega⟩
  | succ n ih =>
    rw [lowpanWorstLinkLoop]
    split_ifs with h
    · obtain ⟨hrem, hworse⟩ := h
      rcases ih (i + 1) (table.linkPoolPtr i).quality.etx (table.linkPoolPtr i).idx with
        ⟨heq, hall⟩ | ⟨j, hj, hlt, hremj, hworsej, heq, hall⟩
      · refine Or.inr ⟨i, le_rfl, by omega, hrem, hworse, heq, fun k hk hkn hremk => ?_⟩
        rcases Nat.eq_or_lt_of_le hk with rfl | hk
        · exact UInt16.le_refl _
        · exact hall k hk (by omega) hremk
      · refine Or.inr ⟨j, by omega, by omega, hremj, UInt16.lt_trans hworse hworsej, heq, ?_⟩
        intro k hk hkn hremk
        rcases Nat.eq_or_lt_of_le hk with rfl | hk
        · exact UInt16.le_of_lt hworsej
        · exact hall k hk (by omega) hremk
    · have hi : lowpanMeshLinkTableCanExistingLinkBeRemovedInternal (table.linkPoolPtr i) = true →
          (table.linkPoolPtr i).quality.etx ≤ worstEtx :=
        fun hrem => UInt16.not_lt.mp fun hworse => h ⟨hrem, hworse⟩
      rcases ih (i + 1) worstEtx worstIdx with
        ⟨heq, hall⟩ | ⟨j, hj, hlt, hremj, hworsej, heq, hall⟩
      · refine Or.inl ⟨heq, fun k hk hkn hremk => ?_⟩
        rcases Nat.eq_or_lt_of_le hk with rfl | hk
        · exact hi hremk
        · exact hall k hk (by omega) hremk
      · refine Or.inr ⟨j, by omega, by omega, hremj, hworsej, heq, fun k hk hkn hremk => ?_⟩
        rcases Nat.eq_or_lt_of_le hk with rfl | hk
        · exact UInt16.le_trans (hi hremk) (UInt16.le_of_lt hworsej)
        · exact hall k hk (by omega) hremk

/-- Link `i` may be removed, and no other link that may be removed is worse. -/
structure IsWorst (table : LowpanLinkTable) (i : ℕ) : Prop where
  lt : i < table.linkPoolLen.toNat
  removable : lowpanMeshLinkTableCanExistingLinkBeRemovedInternal (table.linkPoolPtr i) = true
  worst : ∀ j < table.linkPoolLen.toNat,
    lowpanMeshLinkTableCanExistingLinkBeRemovedInternal (table.linkPoolPtr j) = true →
    (table.linkPoolPtr j).quality.etx ≤ (table.linkPoolPtr i).quality.etx

/-- Some link may be removed that the search for the worst link does not pass over. -/
def HasCandidate (table : LowpanLinkTable) : Prop :=
  ∃ i < table.linkPoolLen.toNat, (table.linkPoolPtr i).isCandidate = true

variable {table : LowpanLinkTable} {chain : LinkAddrKind → ℕ → List ℕ} {free : List ℕ}

/-- An eviction removes a worst link, if there is a candidate. -/
theorem tryToEvictWorstLink_cases
    (hidx : ∀ i < table.linkPoolLen.toNat, (table.linkPoolPtr i).idx.toNat = i) :
    (¬table.HasCandidate ∧ lowpanMeshLinkTableTryToEvictWorstLink table = table) ∨
      table.HasCandidate ∧ ∃ i, table.IsWorst i ∧ lowpanMeshLinkTableTryToEvictWorstLink table =
        lowpanMeshLinkTableRemoveExistingLink table (UInt8.ofNat i) := by
  rw [lowpanMeshLinkTableTryToEvictWorstLink]
  rcases table.worstLinkLoop_spec table.linkPoolLen.toNat 0 WHIP6_ETX_METRIC_ZERO
    WHIP6_6LOWPAN_INVALID_LINK_IDX with ⟨heq, hall⟩ | ⟨i, -, hlt, hrem, hworse, heq, hall⟩
  · rw [heq, if_pos rfl]
    refine Or.inl ⟨?_, rfl⟩
    rintro ⟨i, hi, hcand⟩
    rw [LowpanLink.isCandidate, Bool.and_eq_true, decide_eq_true_iff] at hcand
    exact UInt16.not_lt.mpr (hall i (Nat.zero_le i) (by omega) hcand.1) hcand.2
  · rw [Nat.zero_add] at hlt
    have hi := hidx i hlt
    have hlen := table.linkPoolLen.toNat_lt
    have hne : (table.linkPoolPtr i).idx ≠ WHIP6_6LOWPAN_INVALID_LINK_IDX := by
      intro h
      rw [h] at hi
      have hinv : WHIP6_6LOWPAN_INVALID_LINK_IDX.toNat = 255 := rfl
      omega
    have hof : (table.linkPoolPtr i).idx = UInt8.ofNat i := by
      rw [← hi, UInt8.ofNat_toNat, hi]
    rw [heq, if_neg hne, hof]
    refine Or.inr ⟨⟨i, hlt, ?_⟩, i, ⟨hlt, hrem, fun j hj => hall j (Nat.zero_le j) (by omega)⟩, rfl⟩
    rw [LowpanLink.isCandidate, hrem, Bool.true_and, decide_eq_true hworse]

theorem invalid_toNat : WHIP6_6LOWPAN_INVALID_LINK_IDX.toNat = 255 := rfl

/-- The index of a link of the pool is not the invalid one. -/
theorem ofNat_ne_invalid {i : ℕ} (hi : i < table.linkPoolLen.toNat) :
    UInt8.ofNat i ≠ WHIP6_6LOWPAN_INVALID_LINK_IDX := by
  intro h
  have hlen := table.linkPoolLen.toNat_lt
  have hnat := congrArg UInt8.toNat h
  rw [UInt8.toNat_ofNat', Nat.mod_eq_of_lt (by omega), invalid_toNat] at hnat
  omega

theorem toNat_ofNat_of_lt {i : ℕ} (hi : i < table.linkPoolLen.toNat) :
    (UInt8.ofNat i).toNat = i := by
  have hlen := table.linkPoolLen.toNat_lt
  rw [UInt8.toNat_ofNat', Nat.mod_eq_of_lt (by omega)]

/-- The free list of a table that is not full begins with the first free link. -/
theorem HasLists.free_eq_nil_iff (h : table.HasLists chain free []) :
    table.firstLinkInPool = WHIP6_6LOWPAN_INVALID_LINK_IDX ↔ free = [] := by
  have hlen := table.linkPoolLen.toNat_lt
  have hseg := h.threaded.freeList
  constructor
  · intro hfirst
    cases free with
    | nil => rfl
    | cons i free =>
      have hhead := hseg.1
      rw [hfirst, linkAt, if_neg] at hhead
      · cases hhead
      · rw [UInt8.lt_iff_toNat_lt, invalid_toNat]
        omega
  · rintro rfl
    rcases h.threaded.first with hlt | hinv
    · have hnone : table.linkAt table.firstLinkInPool = none := hseg
      rw [linkAt, if_pos hlt] at hnone
      cases hnone
    · exact hinv

/-- What a call leaves that sets up a link for a new address: the link was free, and no other link
has changed. -/
structure Created (table table' : LowpanLinkTable) (addr : Ieee154Addr) (i : ℕ) : Prop where
  wellFormed : table'.WellFormed
  linkPoolLen : table'.linkPoolLen = table.linkPoolLen
  wasFree : lowpanMeshLinkTableIsLinkAllocatedInternal (table.linkPoolPtr i) = false
  isLink : table'.IsLink i addr
  other : ∀ j, j ≠ i → table'.linkPoolPtr j = table.linkPoolPtr j

/-- A link is set up for an address that has a mode. -/
theorem createNewLink_cases (h : table.WellFormed)
    (hfirst : table.firstLinkInPool ≠ WHIP6_6LOWPAN_INVALID_LINK_IDX) {addr : Ieee154Addr}
    (hnew : ∀ i, ¬table.IsLink i addr) :
    addr = .none ∧ lowpanCreateNewLink table addr = (WHIP6_6LOWPAN_INVALID_LINK_IDX, table) ∨
      addr ≠ .none ∧ (lowpanCreateNewLink table addr).1 ≠ WHIP6_6LOWPAN_INVALID_LINK_IDX ∧
        ∃ i, (lowpanCreateNewLink table addr).1 = UInt8.ofNat i ∧
          Created table (lowpanCreateNewLink table addr).2 addr i := by
  obtain ⟨chain, free, h⟩ := h
  cases free with
  | nil => exact absurd (h.free_eq_nil_iff.mpr rfl) hfirst
  | cons i free =>
    have hcreated : ∀ kind, addr.kind? = some kind →
        (lowpanMeshLinkTableAllocateLink kind table addr).1 ≠ WHIP6_6LOWPAN_INVALID_LINK_IDX ∧
          ∃ i, (lowpanMeshLinkTableAllocateLink kind table addr).1 = UInt8.ofNat i ∧
            Created table (lowpanMeshLinkTableAllocateLink kind table addr).2 addr i := by
      intro kind hk
      obtain ⟨hnat, hfst, hlt, hlists, hother, hkind, haddr, hlen, -⟩ := h.allocateLink hk rfl
        fun j hj heq => hnew j ((h.isLink_iff hk rfl).mpr ⟨hj, heq⟩)
      refine ⟨by rw [hfst]; exact hfirst, i, by rw [← hnat, UInt8.ofNat_toNat], ?_⟩
      exact ⟨⟨_, _, hlists⟩, hlen, (h.placed.mem_free i List.mem_cons_self).2,
        ⟨hlen ▸ hlt, kind, hk, hkind, haddr⟩, hother⟩
    cases addr with
    | none => exact Or.inl ⟨rfl, rfl⟩
    | shrt shrt => exact Or.inr ⟨nofun, hcreated .shrt rfl⟩
    | ext ext => exact Or.inr ⟨nofun, hcreated .ext rfl⟩

/-- What the removal of link `i` leaves. -/
structure Removed (table table' : LowpanLinkTable) (i : ℕ) : Prop where
  wellFormed : table'.WellFormed
  linkPoolLen : table'.linkPoolLen = table.linkPoolLen
  first : table'.firstLinkInPool ≠ WHIP6_6LOWPAN_INVALID_LINK_IDX
  flags : (table'.linkPoolPtr i).flags = 0
  other : ∀ j, j ≠ i → (table.linkPoolPtr j).SameApartFromNext (table'.linkPoolPtr j)

theorem removed_removeExistingLink {i : ℕ} (h : table.WellFormed)
    (hlt : i < table.linkPoolLen.toNat)
    (hi : lowpanMeshLinkTableIsLinkAllocatedInternal (table.linkPoolPtr i) = true) :
    Removed table (lowpanMeshLinkTableRemoveExistingLink table (UInt8.ofNat i)) i := by
  obtain ⟨chain, free, h⟩ := h
  obtain ⟨kind, hmem⟩ := h.mem_chain_of_isAllocated hlt hi
  have hnat := toNat_ofNat_of_lt hlt
  rw [← hnat] at hmem
  obtain ⟨l₁, l₂, -, hlists, hother, hflags, hfirst, hlen, -⟩ := h.removeExistingLink hmem
  rw [hnat] at hother hflags
  refine ⟨⟨_, _, hlists⟩, hlen, ?_, hflags, hother⟩
  rw [hfirst]
  exact ofNat_ne_invalid hlt

/-- A removed link is a link no more, and the others are those they were. -/
theorem Removed.isLink_iff {table' : LowpanLinkTable} {i j : ℕ} {addr : Ieee154Addr}
    (h : Removed table table' i) : table'.IsLink j addr ↔ j ≠ i ∧ table.IsLink j addr := by
  constructor
  · intro hj
    have hne : j ≠ i := by
      rintro rfl
      have halloc := hj.isAllocated
      rw [lowpanMeshLinkTableIsLinkAllocatedInternal, h.flags] at halloc
      simp at halloc
    refine ⟨hne, hj.congr h.linkPoolLen.symm ?_⟩
    have hother := h.other j hne
    rw [LowpanLink.SameApartFromNext] at hother ⊢
    rw [hother]
  · rintro ⟨hne, hj⟩
    exact hj.congr h.linkPoolLen (h.other j hne)

/-! ## The reset -/

/-- The reset links each of the links it goes over to the next one, and the last one to none. -/
theorem resetLinksLoop_apply (left idx : ℕ) (pool : ℕ → LowpanLink) (j : ℕ) :
    lowpanResetLinksLoop left idx pool j =
      if idx ≤ j ∧ j ≤ idx + left then
        { pool j with
          idx := UInt8.ofNat j
          flags := 0
          nextExtAddrIdx :=
            if j = idx + left then WHIP6_6LOWPAN_INVALID_LINK_IDX else UInt8.ofNat j + 1 }
      else pool j := by
  induction left generalizing idx pool with
  | zero =>
    rw [lowpanResetLinksLoop, Function.update_apply]
    by_cases hj : j = idx
    · subst hj
      simp
    · rw [if_neg hj, if_neg (by omega)]
  | succ left ih =>
    rw [lowpanResetLinksLoop, ih]
    by_cases hj : j = idx
    · subst hj
      rw [if_neg (by omega), if_pos (by omega), if_neg (by omega), Function.update_self]
    · rw [Function.update_of_ne hj, Nat.add_assoc, Nat.add_comm 1 left]
      by_cases hle : idx ≤ j ∧ j ≤ idx + (left + 1)
      · rw [if_pos hle, if_pos (by omega)]
      · rw [if_neg hle, if_neg (by omega)]

theorem resetBucketsLoop_apply (num bucketIdx : ℕ) (hashMap : ℕ → UInt8) {b : ℕ}
    (hb : bucketIdx ≤ b) (hlt : b < bucketIdx + num) :
    lowpanResetBucketsLoop num bucketIdx hashMap b = WHIP6_6LOWPAN_INVALID_LINK_IDX := by
  have hbelow : ∀ num bucketIdx : ℕ, ∀ hashMap : ℕ → UInt8, b < bucketIdx →
      lowpanResetBucketsLoop num bucketIdx hashMap b = hashMap b := by
    intro num
    induction num with
    | zero => exact fun _ _ _ => rfl
    | succ num ih =>
      intro bucketIdx hashMap hb
      rw [lowpanResetBucketsLoop, ih _ _ (by omega), Function.update_of_ne (by omega)]
  induction num generalizing bucketIdx hashMap with
  | zero => omega
  | succ num ih =>
    rw [lowpanResetBucketsLoop]
    rcases Nat.eq_or_lt_of_le hb with rfl | hb
    · rw [hbelow _ _ _ (Nat.lt_succ_self _), Function.update_self]
    · exact ih _ _ hb (by omega)

/-- Consecutive nodes, each linked to the next. -/
theorem seg_range' {next : ℕ → Option ℕ} (n i : ℕ)
    (h : ∀ j, i ≤ j → j ≤ i + n → next j = if j = i + n then none else some (j + 1)) :
    Seg next (some i) (List.range' i (n + 1)) none := by
  induction n generalizing i with
  | zero =>
    refine ⟨rfl, ?_⟩
    rw [h i le_rfl le_rfl, Nat.add_zero, if_pos rfl]
    exact rfl
  | succ n ih =>
    rw [List.range'_succ]
    refine ⟨rfl, ?_⟩
    rw [h i le_rfl (by omega), if_neg (by omega)]
    refine ih (i + 1) fun j hj hle => ?_
    rw [h j (by omega) (by omega), Nat.add_assoc, Nat.add_comm 1 n]

theorem linkAt_invalid (table : LowpanLinkTable) :
    table.linkAt WHIP6_6LOWPAN_INVALID_LINK_IDX = none := by
  have hlen := table.linkPoolLen.toNat_lt
  rw [linkAt, if_neg]
  rw [UInt8.lt_iff_toNat_lt, invalid_toNat]
  omega

theorem linkPoolPtr_reset (table : LowpanLinkTable) {i : ℕ} (hi : i < table.linkPoolLen.toNat) :
    (lowpanMeshLinkTableReset table).linkPoolPtr i = { table.linkPoolPtr i with
      idx := UInt8.ofNat i
      flags := 0
      nextExtAddrIdx := if i + 1 = table.linkPoolLen.toNat then WHIP6_6LOWPAN_INVALID_LINK_IDX
        else UInt8.ofNat i + 1 } := by
  rw [lowpanMeshLinkTableReset]
  cases hnum : table.linkPoolLen.toNat with
  | zero => omega
  | succ num =>
    simp only
    rw [resetLinksLoop_apply, if_pos (by omega)]
    simp only [Nat.zero_add, Nat.add_right_cancel_iff]

theorem addrHashMap_reset (table : LowpanLinkTable) (kind : LinkAddrKind) {b : ℕ}
    (hb : b < (table.addrHashMapLen kind).toNat) :
    (lowpanMeshLinkTableReset table).addrHashMap kind b = WHIP6_6LOWPAN_INVALID_LINK_IDX := by
  cases kind with
  | ext => exact resetBucketsLoop_apply _ _ _ (Nat.zero_le b) (by rwa [Nat.zero_add])
  | shrt => exact resetBucketsLoop_apply _ _ _ (Nat.zero_le b) (by rwa [Nat.zero_add])

/-- The free list of a reset table begins with link 0, if there is one. -/
theorem linkAt_reset (table : LowpanLinkTable) :
    (lowpanMeshLinkTableReset table).linkAt (lowpanMeshLinkTableReset table).firstLinkInPool =
      if table.linkPoolLen.toNat = 0 then none else some 0 := by
  have hpos : table.linkPoolLen > 0 ↔ ¬table.linkPoolLen.toNat = 0 := by
    rw [gt_iff_lt, UInt8.lt_iff_toNat_lt]
    exact Nat.pos_iff_ne_zero
  by_cases hzero : table.linkPoolLen.toNat = 0
  · rw [lowpanMeshLinkTableReset, if_neg (mt hpos.mp (not_not.mpr hzero)), if_pos hzero]
    exact linkAt_invalid _
  · rw [lowpanMeshLinkTableReset, if_pos (hpos.mpr hzero), if_neg hzero]
    exact if_pos (hpos.mpr hzero)

/-- A reset leaves empty chains and all links in the free list. -/
theorem wellFormed_reset (table : LowpanLinkTable)
    (h : ∀ kind, 0 < (table.addrHashMapLen kind).toNat) :
    (lowpanMeshLinkTableReset table).WellFormed := by
  have hlen := table.linkPoolLen.toNat_lt
  have hnat : ∀ i < table.linkPoolLen.toNat, (UInt8.ofNat i).toNat = i :=
    fun i => toNat_ofNat_of_lt
  have hsucc : ∀ i, i + 1 < table.linkPoolLen.toNat → (UInt8.ofNat i + 1).toNat = i + 1 := by
    intro i hi
    have hone : (1 : UInt8).toNat = 1 := rfl
    rw [UInt8.toNat_add, hnat i (by omega), hone]
    exact Nat.mod_eq_of_lt (by omega)
  have hmapLen : ∀ kind, 0 < ((lowpanMeshLinkTableReset table).addrHashMapLen kind).toNat := by
    intro kind
    cases kind with
    | ext => exact h .ext
    | shrt => exact h .shrt
  refine ⟨fun _ _ => [], List.range' 0 table.linkPoolLen.toNat, ⟨?_, ?_⟩⟩
  · refine
      { idx := fun i hi => ?_
        hashMapLen := hmapLen
        mem_chain := fun _ _ _ hi => absurd hi List.not_mem_nil
        mem_free := fun i hi => ?_
        mem_hand := fun _ hi => absurd hi List.not_mem_nil
        cover := fun i hi => Or.inr (Or.inl (List.mem_range'_1.mpr ⟨Nat.zero_le i, by
          rwa [Nat.zero_add]⟩))
        nodup_free := List.nodup_range'
        nodup_addr := fun _ _ => List.nodup_nil }
    · rw [table.linkPoolPtr_reset hi]
      exact hnat i hi
    · have hi := (List.mem_range'_1.mp hi).2
      rw [Nat.zero_add] at hi
      refine ⟨hi, ?_⟩
      rw [table.linkPoolPtr_reset hi]
      simp [lowpanMeshLinkTableIsLinkAllocatedInternal]
  · refine
      { chains := fun kind b hb => ?_
        freeList := ?_
        first := ?_
        next := fun i hi => ?_
        bucket := fun b hb => Or.inr (table.addrHashMap_reset .ext hb) }
    · rw [table.addrHashMap_reset kind (by cases kind <;> exact hb)]
      exact linkAt_invalid _
    · rw [linkAt_reset]
      cases hnum : table.linkPoolLen.toNat with
      | zero => exact if_pos rfl
      | succ num =>
        rw [if_neg (Nat.succ_ne_zero num)]
        refine seg_range' num 0 fun i _ hi => ?_
        rw [nextLink, LowpanLink.nextAddrIdx, table.linkPoolPtr_reset (by omega), hnum]
        simp only [Nat.zero_add, Nat.add_right_cancel_iff] at hi ⊢
        split_ifs with hlast
        · exact linkAt_invalid _
        · exact linkAt_of_toNat (hsucc i (by omega)) (by
            change i + 1 < table.linkPoolLen.toNat
            omega)
    · rw [lowpanMeshLinkTableReset]
      split_ifs with hpos
      · exact Or.inl hpos
      · exact Or.inr rfl
    · rw [table.linkPoolPtr_reset hi]
      dsimp only
      split_ifs with hlast
      · exact Or.inr rfl
      · refine Or.inl ?_
        rw [UInt8.lt_iff_toNat_lt, hsucc i (lt_of_le_of_ne hi hlast)]
        exact lt_of_le_of_ne hi hlast

/-! ## Finding or creating a link -/

/-- A call evicts a link for an address without a mode, for which it sets up none. -/
def EvictsInVain (table : LowpanLinkTable) (addr : Ieee154Addr) (allowEviction : Bool) : Prop :=
  addr = .none ∧ allowEviction = true ∧
    table.firstLinkInPool = WHIP6_6LOWPAN_INVALID_LINK_IDX ∧ table.HasCandidate

/-- A call found its link, or had none to set up, and changed nothing; or it set one up, in the
table as it was or, in a full one, in place of a worst link. -/
theorem findExistingOrCreateNewLink_cases (h : table.WellFormed) (addr : Ieee154Addr)
    (allowEviction : Bool) :
    (((∃ i, table.IsLink i addr ∧
          lowpanMeshLinkTableFindExistingOrCreateNewLink table addr allowEviction =
            (UInt8.ofNat i, table)) ∨
        (∀ i, ¬table.IsLink i addr) ∧
          table.firstLinkInPool = WHIP6_6LOWPAN_INVALID_LINK_IDX ∧
          lowpanMeshLinkTableFindExistingOrCreateNewLink table addr allowEviction =
            (WHIP6_6LOWPAN_INVALID_LINK_IDX, table)) ∧
        ¬table.EvictsInVain addr allowEviction) ∨
      (table.firstLinkInPool ≠ WHIP6_6LOWPAN_INVALID_LINK_IDX ∧ (∀ i, ¬table.IsLink i addr) ∧
        lowpanMeshLinkTableFindExistingOrCreateNewLink table addr allowEviction =
          lowpanCreateNewLink table addr) ∨
      table.firstLinkInPool = WHIP6_6LOWPAN_INVALID_LINK_IDX ∧ allowEviction = true ∧
        table.HasCandidate ∧ (∀ i, ¬table.IsLink i addr) ∧ ∃ i table', table.IsWorst i ∧
          Removed table table' i ∧
          lowpanMeshLinkTableFindExistingOrCreateNewLink table addr allowEviction =
            lowpanCreateNewLink table' addr := by
  have h' := h
  obtain ⟨chain, free, hlists⟩ := h'
  rw [lowpanMeshLinkTableFindExistingOrCreateNewLink]
  rcases hlists.lookupLink_cases addr with ⟨i, hi, hlookup⟩ | ⟨hnew, hlookup⟩
  · rw [hlookup, if_pos (ofNat_ne_invalid hi.1)]
    refine Or.inl ⟨Or.inl ⟨i, hi, rfl⟩, ?_⟩
    rintro ⟨rfl, -⟩
    obtain ⟨-, kind, hk, -⟩ := hi
    cases hk
  rw [hlookup, if_neg (by simp)]
  by_cases hfirst : table.firstLinkInPool = WHIP6_6LOWPAN_INVALID_LINK_IDX
  · rw [if_pos hfirst]
    cases allowEviction with
    | false =>
      exact Or.inl ⟨Or.inr ⟨hnew, hfirst, rfl⟩, fun hvain => Bool.false_ne_true hvain.2.1⟩
    | true =>
      rw [if_pos rfl]
      rcases tryToEvictWorstLink_cases hlists.placed.idx with ⟨hno, heq⟩ | ⟨hcand, i, hworst, heq⟩
      · rw [heq, if_pos hfirst]
        exact Or.inl ⟨Or.inr ⟨hnew, hfirst, rfl⟩, fun hvain => hno hvain.2.2.2⟩
      · have halloc := ((canExistingLinkBeRemoved_iff _).mp hworst.removable).1
        have hremoved := removed_removeExistingLink h hworst.lt halloc
        rw [heq, if_neg hremoved.first]
        exact Or.inr (Or.inr ⟨hfirst, rfl, hcand, hnew, i, _, hworst, hremoved, rfl⟩)
  · rw [if_neg hfirst]
    exact Or.inr (Or.inl ⟨hfirst, hnew, rfl⟩)

/-- A call that found its link, or had none to set up, leaves the table. -/
theorem snd_findExistingOrCreateNewLink {addr : Ieee154Addr} {allowEviction : Bool}
    (h : (∃ i, table.IsLink i addr ∧
        lowpanMeshLinkTableFindExistingOrCreateNewLink table addr allowEviction =
          (UInt8.ofNat i, table)) ∨
      (∀ i, ¬table.IsLink i addr) ∧
        table.firstLinkInPool = WHIP6_6LOWPAN_INVALID_LINK_IDX ∧
        lowpanMeshLinkTableFindExistingOrCreateNewLink table addr allowEviction =
          (WHIP6_6LOWPAN_INVALID_LINK_IDX, table)) :
    (lowpanMeshLinkTableFindExistingOrCreateNewLink table addr allowEviction).2 = table := by
  rcases h with ⟨i, -, heq⟩ | ⟨-, -, heq⟩ <;> rw [heq]

/-- A link that was free is not one that is allocated. -/
theorem Created.sameApartFromNext {table' : LowpanLinkTable} {addr : Ieee154Addr} {i j : ℕ}
    (h : Created table table' addr i)
    (hj : lowpanMeshLinkTableIsLinkAllocatedInternal (table.linkPoolPtr j) = true) :
    (table.linkPoolPtr j).SameApartFromNext (table'.linkPoolPtr j) := by
  rw [h.other j]
  · exact LowpanLink.SameApartFromNext.refl _
  · rintro rfl
    rw [h.wasFree] at hj
    cases hj

/-- At most one link is gone after a call, a worst one, and the others are those they were. -/
theorem findExistingOrCreateNewLink_frame (h : table.WellFormed) (addr : Ieee154Addr)
    (allowEviction : Bool) :
    let table' := (lowpanMeshLinkTableFindExistingOrCreateNewLink table addr allowEviction).2
    table'.WellFormed ∧ table'.linkPoolLen = table.linkPoolLen ∧ ∃ gone : Option ℕ,
      (∀ i ∈ gone, table.IsWorst i) ∧
      ∀ i < table.linkPoolLen.toNat, i ∉ gone →
        lowpanMeshLinkTableIsLinkAllocatedInternal (table.linkPoolPtr i) = true →
        (table.linkPoolPtr i).SameApartFromNext (table'.linkPoolPtr i) := by
  intro table'
  rcases findExistingOrCreateNewLink_cases h addr allowEviction with ⟨hsame, -⟩ |
    ⟨hfirst, hnew, heq⟩ | ⟨-, -, -, hnew, i, table₁, hworst, hremoved, heq⟩
  · simp only [table', snd_findExistingOrCreateNewLink hsame]
    exact ⟨h, trivial, none, nofun, fun i _ _ _ => LowpanLink.SameApartFromNext.refl _⟩
  · simp only [table', heq]
    rcases createNewLink_cases h hfirst hnew with ⟨-, heq⟩ | ⟨-, -, i, -, hcreated⟩
    · rw [heq]
      exact ⟨h, rfl, none, nofun, fun i _ _ _ => LowpanLink.SameApartFromNext.refl _⟩
    · exact ⟨hcreated.wellFormed, hcreated.linkPoolLen, none, nofun,
        fun j _ _ hj => hcreated.sameApartFromNext hj⟩
  · simp only [table', heq]
    have hsome : ∀ j ∈ some i, table.IsWorst j := by
      rintro j ⟨⟩
      exact hworst
    have hnew' : ∀ j, ¬table₁.IsLink j addr := fun j hj => hnew j (hremoved.isLink_iff.mp hj).2
    rcases createNewLink_cases hremoved.wellFormed hremoved.first hnew' with
      ⟨-, heq⟩ | ⟨-, -, k, -, hcreated⟩
    · rw [heq]
      exact ⟨hremoved.wellFormed, hremoved.linkPoolLen, some i, hsome,
        fun j _ hj _ => hremoved.other j fun hji => hj (hji ▸ rfl)⟩
    · refine ⟨hcreated.wellFormed, hcreated.linkPoolLen.trans hremoved.linkPoolLen, some i, hsome,
        fun j _ hj halloc => ?_⟩
      have hsame := hremoved.other j fun hji => hj (hji ▸ rfl)
      exact hsame.trans (hcreated.sameApartFromNext (hsame.isAllocated.trans halloc))

/-- A call may take away one link, which is then a worst one among those that may be removed.  All
other links keep their place in the pool, their addresses, their flags and their metrics, and are
found as before. -/
theorem findExistingOrCreateNewLink_evicts_worst (table : LowpanLinkTable) (h : table.WellFormed)
    (addr : Ieee154Addr) :
    let table' := (lowpanMeshLinkTableFindExistingOrCreateNewLink table addr true).2
    table'.WellFormed ∧ table'.linkPoolLen = table.linkPoolLen ∧ ∃ gone : Option ℕ,
      (∀ i ∈ gone, i < table.linkPoolLen.toNat ∧
        lowpanMeshLinkTableIsLinkAllocatedInternal (table.linkPoolPtr i) = true ∧
        (table.linkPoolPtr i).flags &&& WHIP6_6LOWPAN_LINK_FLAG_INIT = 0 ∧
        (table.linkPoolPtr i).flags &&& WHIP6_6LOWPAN_LINK_FLAG_PINNED = 0 ∧
        ∀ j < table.linkPoolLen.toNat,
          lowpanMeshLinkTableCanExistingLinkBeRemovedInternal (table.linkPoolPtr j) = true →
          (table.linkPoolPtr j).quality.etx ≤ (table.linkPoolPtr i).quality.etx) ∧
      (∀ i < table.linkPoolLen.toNat, i ∉ gone →
        lowpanMeshLinkTableIsLinkAllocatedInternal (table.linkPoolPtr i) = true →
        (table.linkPoolPtr i).SameApartFromNext (table'.linkPoolPtr i)) ∧
      ∀ addr' i, i ∉ gone → table.IsLink i addr' →
        lowpanMeshLinkTableLookupLink table' addr' = UInt8.ofNat i := by
  intro table'
  obtain ⟨hwf, hlen, gone, hworst, hother⟩ := findExistingOrCreateNewLink_frame h addr true
  refine ⟨hwf, hlen, gone, fun i hi => ?_, hother, fun addr' i hi hlink => ?_⟩
  · have hi := hworst i hi
    obtain ⟨halloc, hinit, hpinned⟩ := (canExistingLinkBeRemoved_iff _).mp hi.removable
    exact ⟨hi.lt, halloc, hinit, hpinned, hi.worst⟩
  · -- The link is found because it is still a link of a well formed table.
    obtain ⟨chain, free, hlists⟩ := hwf
    exact hlists.lookupLink_of_isLink (hlink.congr hlen (hother i hlink.1 hi hlink.isAllocated))

/-- A table for a single link, which is in use. -/
def lowpanLinkTableOfOne : LowpanLinkTable :=
  (lowpanMeshLinkTableFindExistingOrCreateNewLink
    (lowpanMeshLinkTableReset (lowpanLinkTableAtBoot 1 1 1)) (.shrt (Vector.replicate 2 7)) false).2

theorem wellFormed_lowpanLinkTableOfOne : lowpanLinkTableOfOne.WellFormed :=
  (findExistingOrCreateNewLink_frame
    (wellFormed_reset _ fun kind => by cases kind <;> decide) _ _).1

/-- The link of a full table makes room for another one. -/
theorem findExistingOrCreateNewLink_evicts_worst_one :
    let addr : Ieee154Addr := .ext (Vector.replicate 8 1)
    let table' := (lowpanMeshLinkTableFindExistingOrCreateNewLink lowpanLinkTableOfOne addr true).2
    table'.WellFormed ∧ table'.linkPoolLen = 1 ∧
      lowpanMeshLinkTableLookupLink lowpanLinkTableOfOne (.shrt (Vector.replicate 2 7)) = 0 ∧
      lowpanMeshLinkTableLookupLink table' (.shrt (Vector.replicate 2 7)) =
        WHIP6_6LOWPAN_INVALID_LINK_IDX ∧
      lowpanMeshLinkTableLookupLink table' addr = 0 := by
  intro addr table'
  obtain ⟨hwf, hlen, -⟩ := findExistingOrCreateNewLink_evicts_worst lowpanLinkTableOfOne
    wellFormed_lowpanLinkTableOfOne addr
  exact ⟨hwf, hlen, by decide +kernel, by decide +kernel, by decide +kernel⟩

/-- A call that returns the invalid index has left the table as it was, unless a link was evicted
from a full table for an address that has no mode. -/
theorem findExistingOrCreateNewLink_unchanged_iff (table : LowpanLinkTable)
    (h : table.WellFormed) (addr : Ieee154Addr) (allowEviction : Bool) :
    let r := lowpanMeshLinkTableFindExistingOrCreateNewLink table addr allowEviction
    (r.1 = WHIP6_6LOWPAN_INVALID_LINK_IDX → r.2 = table) ↔
      ¬table.EvictsInVain addr allowEviction := by
  intro r
  rcases findExistingOrCreateNewLink_cases h addr allowEviction with ⟨hsame, hnot⟩ |
    ⟨hfirst, hnew, heq⟩ | ⟨hfull, hallow, hcand, hnew, i, table₁, hworst, hremoved, heq⟩
  · exact iff_of_true (fun _ => snd_findExistingOrCreateNewLink hsame) hnot
  · refine iff_of_true ?_ fun hvain => hfirst hvain.2.2.1
    simp only [r, heq]
    rcases createNewLink_cases h hfirst hnew with ⟨-, heq⟩ | ⟨-, hne, -⟩
    · intro _
      rw [heq]
    · exact fun hinv => absurd hinv hne
  · have hnew' : ∀ j, ¬table₁.IsLink j addr := fun j hj => hnew j (hremoved.isLink_iff.mp hj).2
    simp only [r, heq]
    rcases createNewLink_cases hremoved.wellFormed hremoved.first hnew' with
      ⟨hnone, heq⟩ | ⟨hsome, hne, -⟩
    · -- The evicted link is gone for nothing.
      refine iff_of_false ?_ (not_not.mpr ⟨hnone, hallow, hfull, hcand⟩)
      rw [heq]
      intro hsame
      have halloc := ((canExistingLinkBeRemoved_iff _).mp hworst.removable).1
      rw [← hsame rfl, lowpanMeshLinkTableIsLinkAllocatedInternal, hremoved.flags] at halloc
      simp at halloc
    · exact iff_of_true (fun hinv => absurd hinv hne) fun hvain => hsome hvain.1

/-- A full table stays as it is when nothing may be evicted. -/
theorem findExistingOrCreateNewLink_unchanged_iff_one :
    (lowpanMeshLinkTableFindExistingOrCreateNewLink lowpanLinkTableOfOne
        (.ext (Vector.replicate 8 1)) false).2 = lowpanLinkTableOfOne := by
  refine (findExistingOrCreateNewLink_unchanged_iff lowpanLinkTableOfOne
    wellFormed_lowpanLinkTableOfOne (.ext (Vector.replicate 8 1)) false).mpr ?_ ?_
  · exact fun hvain => Bool.false_ne_true hvain.2.1
  · decide +kernel

/-- For an address without a mode the only link of a full table is evicted, and none is set up. -/
theorem findExistingOrCreateNewLink_not_unchanged :
    ¬∀ table : LowpanLinkTable, table.WellFormed → ∀ (addr : Ieee154Addr) (allowEviction : Bool),
      (lowpanMeshLinkTableFindExistingOrCreateNewLink table addr allowEviction).1 =
          WHIP6_6LOWPAN_INVALID_LINK_IDX →
        (lowpanMeshLinkTableFindExistingOrCreateNewLink table addr allowEviction).2 = table := by
  intro h
  have hsame := h lowpanLinkTableOfOne wellFormed_lowpanLinkTableOfOne .none true
    (by decide +kernel)
  have hflags := congrArg (fun table : LowpanLinkTable => (table.linkPoolPtr 0).flags) hsame
  revert hflags
  decide +kernel

end LowpanLinkTable

end Whip6
