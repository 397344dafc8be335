import Whip6.Lib.Simulation
import Whip6.Lowpan.LinkEviction
import Whip6.Lowpan.LinkQuality
import Whip6.Lowpan.LinkSweep

/-!
# Runs of the link table

Under any sequence of operations the link table behaves like a finite map from addresses to the
indices of links (`LinkMap`): `LinkMap.Step` says what an operation that returns a result may do to
the map, and `linkTable_refines_linkMap` that the table does nothing else.  In every state that is
reached the chains and the free list divide the pool among them (`LowpanLinkTable.IsPartition`).
-/

namespace Whip6

open Lib

/-! ## Operations -/

inductive LowpanLinkTableOp
  | reset
  | lookupLink (addr : Ieee154Addr)
  | findExistingOrCreateNewLink (addr : Ieee154Addr) (allowEviction : Bool)
  | removeExistingLink (index : UInt8)
  | markUnrefreshedLinksForRemoval (firstIdx numIdx : UInt8)
  | removeLinksMarkedForRemoval (firstIdx numIdx maxRemoved : UInt8)
  | reportBroadcastReception (index seqNo : UInt8)
  | reportUnicastCompletion (index : UInt8) (acked : Bool)

/-- What an operation returns, zero if that is nothing, and the table that it leaves. -/
def LowpanLinkTable.call (table : LowpanLinkTable) : LowpanLinkTableOp → UInt8 × LowpanLinkTable
  | .reset => (0, lowpanMeshLinkTableReset table)
  | .lookupLink addr => (lowpanMeshLinkTableLookupLink table addr, table)
  | .findExistingOrCreateNewLink addr allowEviction =>
    lowpanMeshLinkTableFindExistingOrCreateNewLink table addr allowEviction
  | .removeExistingLink index => (0, lowpanMeshLinkTableRemoveExistingLink table index)
  | .markUnrefreshedLinksForRemoval firstIdx numIdx =>
    let s := lowpanMeshLinkTableMarkUnrefreshedLinksForRemoval table firstIdx numIdx
    (s.res, s.table)
  | .removeLinksMarkedForRemoval firstIdx numIdx maxRemoved =>
    let s := lowpanMeshLinkTableRemoveLinksMarkedForRemoval table firstIdx numIdx maxRemoved
    (s.res, s.table)
  | .reportBroadcastReception index seqNo =>
    (0, lowpanMeshLinkTableReportBroadcastReceptionForExistingLink table index seqNo)
  | .reportUnicastCompletion index acked =>
    (0, lowpanMeshLinkTableReportUnicastCompletionForExistingLink table index acked)

/-- One operation, with its result as the history. -/
def LowpanLinkTable.step (table : LowpanLinkTable) (op : LowpanLinkTableOp) :
    LowpanLinkTable × List (LowpanLinkTableOp × UInt8) :=
  ((table.call op).2, [(op, (table.call op).1)])

/-! ## The map -/

/-- The link that an address has, if it has one. -/
abbrev LinkMap := Ieee154Addr → Option ℕ

namespace LinkMap

def empty : LinkMap := fun _ => none

/-- Some address has link `i`. -/
def Uses (map : LinkMap) (i : ℕ) : Prop := ∃ addr, map addr = some i

/-- All links below `len` are in use. -/
def Full (map : LinkMap) (len : ℕ) : Prop := ∀ i < len, map.Uses i

/-- No address has link `i` any more. -/
def without (map : LinkMap) (i : ℕ) : LinkMap :=
  fun addr => if map addr = some i then none else map addr

/-- What an operation with its result may do to a map into the links below `len`. -/
inductive Step (len : ℕ) : LinkMap → LowpanLinkTableOp × UInt8 → LinkMap → Prop
  | reset (map : LinkMap) : Step len map (.reset, 0) empty
  | found {map : LinkMap} {addr : Ieee154Addr} {i : ℕ} (h : map addr = some i) :
    Step len map (.lookupLink addr, UInt8.ofNat i) map
  | notFound {map : LinkMap} {addr : Ieee154Addr} (h : map addr = none) :
    Step len map (.lookupLink addr, WHIP6_6LOWPAN_INVALID_LINK_IDX) map
  | existing {map : LinkMap} {addr : Ieee154Addr} {i : ℕ} (allowEviction : Bool)
    (h : map addr = some i) :
    Step len map (.findExistingOrCreateNewLink addr allowEviction, UInt8.ofNat i) map
  | refuse {map : LinkMap} {addr : Ieee154Addr} (allowEviction : Bool) (h : map addr = none)
    (hfull : addr = .none ∨ map.Full len) :
    Step len map
      (.findExistingOrCreateNewLink addr allowEviction, WHIP6_6LOWPAN_INVALID_LINK_IDX) map
  | refuseAndEvict {map : LinkMap} (hfull : map.Full len) (i : ℕ) :
    Step len map
      (.findExistingOrCreateNewLink .none true, WHIP6_6LOWPAN_INVALID_LINK_IDX) (map.without i)
  | create {map : LinkMap} {addr : Ieee154Addr} {i : ℕ} (allowEviction : Bool)
    (h : map addr = none) (haddr : addr ≠ .none) (hi : i < len) (hfree : ¬map.Uses i) :
    Step len map (.findExistingOrCreateNewLink addr allowEviction, UInt8.ofNat i)
      (Function.update map addr (some i))
  | replace {map : LinkMap} {addr : Ieee154Addr} {i : ℕ} (h : map addr = none)
    (haddr : addr ≠ .none) (hi : i < len) (hfull : map.Full len) :
    Step len map (.findExistingOrCreateNewLink addr true, UInt8.ofNat i)
      (Function.update (map.without i) addr (some i))
  | remove (map : LinkMap) (index : UInt8) :
    Step len map (.removeExistingLink index, 0) (map.without index.toNat)
  | mark (map : LinkMap) (firstIdx numIdx res : UInt8) :
    Step len map (.markUnrefreshedLinksForRemoval firstIdx numIdx, res) map
  | removeMarked (map : LinkMap) (firstIdx numIdx maxRemoved res : UInt8) (gone : List ℕ)
    (hgone : gone.length ≤ maxRemoved.toNat) :
    Step len map (.removeLinksMarkedForRemoval firstIdx numIdx maxRemoved, res)
      (gone.foldl without map)
  | reportBroadcast (map : LinkMap) (index seqNo : UInt8) :
    Step len map (.reportBroadcastReception index seqNo, 0) map
  | reportUnicast (map : LinkMap) (index : UInt8) (acked : Bool) :
    Step len map (.reportUnicastCompletion index acked, 0) map

theorem without_eq_some_iff {map : LinkMap} {i j : ℕ} {addr : Ieee154Addr} :
    map.without i addr = some j ↔ j ≠ i ∧ map addr = some j := by
  rw [without]
  split_ifs with h
  · rw [h]
    simp only [Option.some.injEq, false_iff, not_and]
    exact fun hne heq => hne heq.symm
  · refine ⟨fun hj => ⟨fun heq => h (heq ▸ hj), hj⟩, And.right⟩

end LinkMap

/-! ## The lists -/

namespace LowpanLinkTable

/-- The chains and the free list of a table are lists in memory without a cycle, and divide the pool
among them: a link that is not allocated is in the free list, and an allocated one is in the chain
of the bucket of its address and in no other. -/
structure IsPartition (table : LowpanLinkTable) (chain : LinkAddrKind → ℕ → List ℕ)
    (free : List ℕ) : Prop where
  chains : ∀ kind, ∀ b < (table.addrHashMapLen kind).toNat,
    Seg (table.nextLink kind) (table.linkAt (table.addrHashMap kind b)) (chain kind b) none
  freeList : Seg (table.nextLink .ext) (table.linkAt table.firstLinkInPool) free none
  nodup_chain : ∀ kind b, (chain kind b).Nodup
  nodup_free : free.Nodup
  disjoint_chains : ∀ kind b kind' b', (kind, b) ≠ (kind', b') →
    List.Disjoint (chain kind b) (chain kind' b')
  disjoint_free : ∀ kind b, List.Disjoint (chain kind b) free
  cover : ∀ i, i < table.linkPoolLen.toNat ↔
    i ∈ free ∨ ∃ kind, ∃ b < (table.addrHashMapLen kind).toNat, i ∈ chain kind b
  mem_free : ∀ i ∈ free, lowpanMeshLinkTableIsLinkAllocatedInternal (table.linkPoolPtr i) = false
  own_chain : ∀ i < table.linkPoolLen.toNat,
    lowpanMeshLinkTableIsLinkAllocatedInternal (table.linkPoolPtr i) = true →
    ∃ addr kind, table.IsLink i addr ∧ addr.kind? = some kind ∧ ∀ kind' b,
      i ∈ chain kind' b ↔ kind' = kind ∧
        b = (lowpanMeshLinkTableHashAddr addr.bytes (table.addrHashMapLen kind)).toNat

variable {table table' : LowpanLinkTable} {chain : LinkAddrKind → ℕ → List ℕ} {free hand : List ℕ}
  {i j : ℕ} {addr : Ieee154Addr}

theorem kind?_addr (link : LowpanLink) (kind : LinkAddrKind) :
    (link.addr kind).kind? = some kind := by
  cases kind <;> rfl

theorem HasLists.isLink_of_mem {kind : LinkAddrKind} {b : ℕ} (h : table.HasLists chain free hand)
    (hi : i ∈ chain kind b) : table.IsLink i ((table.linkPoolPtr i).addr kind) :=
  ⟨(h.placed.mem_chain kind b i hi).1, kind, kind?_addr _ _, (h.placed.mem_chain kind b i hi).2.1,
    rfl⟩

theorem HasLists.isPartition (h : table.HasLists chain free []) :
    table.IsPartition chain free := by
  refine
    { chains := h.threaded.chains
      freeList := h.threaded.freeList
      nodup_chain := h.placed.nodup_chain
      nodup_free := h.placed.nodup_free
      disjoint_chains := fun kind b kind' b' hne i hi hi' => hne ?_
      disjoint_free := fun kind b i hi hi' => h.placed.notMem_free hi hi'
      cover := fun i => ⟨fun hlt => ?_, ?_⟩
      mem_free := fun i hi => (h.placed.mem_free i hi).2
      own_chain := fun i hlt halloc => ?_ }
  · obtain ⟨rfl, rfl⟩ := h.placed.eq_of_mem hi hi'
    rfl
  · rcases h.placed.cover i hlt with hi | hi | ⟨kind, b, hi⟩
    · cases hi
    · exact Or.inl hi
    · exact Or.inr ⟨kind, b, h.bucket_lt hi, hi⟩
  · rintro (hi | ⟨kind, b, -, hi⟩)
    · exact (h.placed.mem_free i hi).1
    · exact (h.placed.mem_chain kind b i hi).1
  · obtain ⟨kind, hi⟩ := h.mem_chain_of_isAllocated hlt halloc
    refine ⟨_, kind, h.isLink_of_mem hi, kind?_addr _ _, fun kind' b => ⟨h.placed.eq_of_mem hi, ?_⟩⟩
    rintro ⟨rfl, rfl⟩
    exact hi

/-! ## Links that keep their place -/

theorem nextLink_setLink_of_samePlace {link : LowpanLink}
    (hsame : (table.linkPoolPtr i).SamePlace link) :
    (table.setLink i link).nextLink = table.nextLink := by
  funext kind
  rw [nextLink_setLink, hsame.nextAddrIdx]
  exact Function.update_eq_self i _

theorem samePlace_setLink {link : LowpanLink} (hsame : (table.linkPoolPtr i).SamePlace link)
    (j : ℕ) : (table.linkPoolPtr j).SamePlace ((table.setLink i link).linkPoolPtr j) := by
  by_cases hj : j = i
  · subst hj
    rw [linkPoolPtr_setLink_self]
    exact hsame
  · rw [linkPoolPtr_setLink_of_ne table link hj]
    exact LowpanLink.SamePlace.refl _

theorem HasLists.setLink {link : LowpanLink} (h : table.HasLists chain free hand)
    (hsame : (table.linkPoolPtr i).SamePlace link) :
    (table.setLink i link).HasLists chain free hand := by
  have hnext := nextLink_setLink_of_samePlace hsame
  refine ⟨h.placed.congr_of_sameKey rfl rfl fun j => (samePlace_setLink hsame j).toSameKey, ?_⟩
  refine
    { chains := fun kind b hb => ?_
      freeList := ?_
      first := h.threaded.first
      next := fun j hj => ?_
      bucket := h.threaded.bucket }
  · rw [hnext]
    exact h.threaded.chains kind b hb
  · rw [hnext]
    exact h.threaded.freeList
  · have hsameExt : ((table.setLink i link).linkPoolPtr j).nextExtAddrIdx =
        (table.linkPoolPtr j).nextExtAddrIdx :=
      congrFun (samePlace_setLink hsame j).nextAddrIdx .ext
    rw [hsameExt]
    exact h.threaded.next j hj

/-! ## Tables and maps -/

/-- A table holds a map: its links are those of the map. -/
structure Holds (table : LowpanLinkTable) (linkPoolLen : UInt8) (map : LinkMap) : Prop where
  wellFormed : table.WellFormed
  linkPoolLen_eq : table.linkPoolLen = linkPoolLen
  eq_some_iff : ∀ addr i, map addr = some i ↔ table.IsLink i addr

namespace Holds

variable {linkPoolLen : UInt8} {map : LinkMap}

theorem eq_none (h : table.Holds linkPoolLen map) (hnew : ∀ i, ¬table.IsLink i addr) :
    map addr = none := by
  rw [Option.eq_none_iff_forall_ne_some]
  exact fun i hi => hnew i ((h.eq_some_iff addr i).mp hi)

theorem uses_iff (h : table.Holds linkPoolLen map) :
    map.Uses i ↔ i < linkPoolLen.toNat ∧
      lowpanMeshLinkTableIsLinkAllocatedInternal (table.linkPoolPtr i) = true := by
  constructor
  · rintro ⟨addr, hi⟩
    have hlink := (h.eq_some_iff addr i).mp hi
    rw [← h.linkPoolLen_eq]
    exact ⟨hlink.1, hlink.isAllocated⟩
  · rintro ⟨hlt, halloc⟩
    obtain ⟨chain, free, hlists⟩ := h.wellFormed
    rw [← h.linkPoolLen_eq] at hlt
    obtain ⟨addr, kind, hlink, -⟩ := hlists.isPartition.own_chain i hlt halloc
    exact ⟨addr, (h.eq_some_iff addr i).mpr hlink⟩

/-- A table without a free link holds a map that uses all links. -/
theorem full (h : table.Holds linkPoolLen map)
    (hfirst : table.firstLinkInPool = WHIP6_6LOWPAN_INVALID_LINK_IDX) :
    map.Full linkPoolLen.toNat := by
  intro i hi
  obtain ⟨chain, free, hlists⟩ := h.wellFormed
  obtain rfl : free = [] := hlists.free_eq_nil_iff.mp hfirst
  rw [← h.linkPoolLen_eq] at hi
  rcases (hlists.isPartition.cover i).mp hi with hmem | ⟨kind, b, -, hmem⟩
  · cases hmem
  · exact ⟨_, (h.eq_some_iff _ i).mpr (hlists.isLink_of_mem hmem)⟩

/-- A change to a link that leaves it its place does not change the map. -/
theorem setLink {link : LowpanLink} (h : table.Holds linkPoolLen map)
    (hsame : (table.linkPoolPtr i).SamePlace link) :
    (table.setLink i link).Holds linkPoolLen map := by
  obtain ⟨chain, free, hlists⟩ := h.wellFormed
  refine ⟨⟨chain, free, hlists.setLink hsame⟩, h.linkPoolLen_eq, fun addr j => ?_⟩
  have hlen : (table.setLink i link).linkPoolLen = table.linkPoolLen := rfl
  rw [h.eq_some_iff, isLink_congr hlen (samePlace_setLink hsame j).toSameKey]

theorem of_removed (h : table.Holds linkPoolLen map) (hremoved : Removed table table' i) :
    table'.Holds linkPoolLen (map.without i) := by
  refine ⟨hremoved.wellFormed, hremoved.linkPoolLen.trans h.linkPoolLen_eq, fun addr j => ?_⟩
  rw [LinkMap.without_eq_some_iff, h.eq_some_iff, hremoved.isLink_iff]

theorem of_created (h : table.Holds linkPoolLen map) (hcreated : Created table table' addr i)
    (hnew : ∀ j, ¬table.IsLink j addr) :
    table'.Holds linkPoolLen (Function.update map addr (some i)) := by
  refine ⟨hcreated.wellFormed, hcreated.linkPoolLen.trans h.linkPoolLen_eq, fun addr' j => ?_⟩
  have hother : j ≠ i → (table'.IsLink j addr' ↔ table.IsLink j addr') := fun hj => by
    apply isLink_congr hcreated.linkPoolLen
    rw [hcreated.other j hj]
    exact (LowpanLink.SamePlace.refl _).toSameKey
  obtain ⟨chain, free, hlists⟩ := hcreated.wellFormed
  by_cases haddr : addr' = addr
  · subst haddr
    rw [Function.update_self, Option.some.injEq]
    refine ⟨fun heq => heq ▸ hcreated.isLink, hlists.isLink_unique hcreated.isLink⟩
  · rw [Function.update_of_ne haddr, h.eq_some_iff]
    by_cases hj : j = i
    · -- The link was free, and now has the new address and no other.
      subst hj
      refine iff_of_false (fun hlink => ?_) fun hlink => ?_
      · have halloc := hlink.isAllocated
        rw [hcreated.wasFree] at halloc
        cases halloc
      · obtain ⟨-, kind, -, hkind, rfl⟩ := hlink
        obtain ⟨-, kind', -, hkind', rfl⟩ := hcreated.isLink
        exact haddr (by rw [hkind.unique hkind'])
    · exact (hother hj).symm

/-! ## What the operations do to the map -/

theorem removeExistingLink (h : table.Holds linkPoolLen map) (index : UInt8) :
    (lowpanMeshLinkTableRemoveExistingLink table index).Holds linkPoolLen
      (map.without index.toNat) := by
  by_cases huses : map.Uses index.toNat
  · obtain ⟨hlt, halloc⟩ := h.uses_iff.mp huses
    have hremoved := removed_removeExistingLink h.wellFormed (h.linkPoolLen_eq ▸ hlt) halloc
    rw [UInt8.ofNat_toNat] at hremoved
    exact h.of_removed hremoved
  · have hmap : map.without index.toNat = map := by
      funext addr
      exact if_neg fun heq => huses ⟨addr, heq⟩
    have htable : lowpanMeshLinkTableRemoveExistingLink table index = table := by
      rw [lowpanMeshLinkTableRemoveExistingLink]
      split_ifs with hge halloc
      · rfl
      · rfl
      · rw [ge_iff_le, UInt8.not_le, UInt8.lt_iff_toNat_lt, h.linkPoolLen_eq] at hge
        exact absurd (h.uses_iff.mpr ⟨hge, by simpa using halloc⟩) huses
    rw [hmap, htable]
    exact h

theorem markUnrefreshedLoop (h : table.Holds linkPoolLen map) (n i : ℕ) :
    (lowpanMarkUnrefreshedLoop n i table).1.Holds linkPoolLen map := by
  induction n generalizing i table with
  | zero => exact h
  | succ n ih => exact ih (h.setLink LowpanLink.samePlace_markUnrefreshed) (i + 1)

theorem removeMarkedLoop (h : table.Holds linkPoolLen map) (n i maxRemoved : ℕ) :
    ∃ gone : List ℕ, gone.length ≤ maxRemoved ∧
      (lowpanRemoveMarkedLoop n i maxRemoved table).1.Holds linkPoolLen
        (gone.foldl LinkMap.without map) := by
  induction n generalizing i maxRemoved table map with
  | zero =>
    refine ⟨[], Nat.zero_le _, ?_⟩
    rw [lowpanRemoveMarkedLoop]
    · exact h
    · rintro _ _ ⟨⟩
  | succ n ih =>
    cases maxRemoved with
    | zero => exact ⟨[], le_rfl, h⟩
    | succ maxRemoved =>
      rw [lowpanRemoveMarkedLoop]
      dsimp only
      split_ifs
      · obtain ⟨gone, hlen, hrest⟩ :=
          ih (h.removeExistingLink (table.linkPoolPtr i).idx) (i + 1) maxRemoved
        exact ⟨(table.linkPoolPtr i).idx.toNat :: gone, Nat.succ_le_succ hlen, hrest⟩
      · exact ih h (i + 1) (maxRemoved + 1)

theorem createNewLink (h : table.Holds linkPoolLen map)
    (hfirst : table.firstLinkInPool ≠ WHIP6_6LOWPAN_INVALID_LINK_IDX)
    (hnew : ∀ i, ¬table.IsLink i addr) :
    addr = .none ∧ lowpanCreateNewLink table addr = (WHIP6_6LOWPAN_INVALID_LINK_IDX, table) ∨
      addr ≠ .none ∧ ∃ i < linkPoolLen.toNat, ¬map.Uses i ∧
        (lowpanCreateNewLink table addr).1 = UInt8.ofNat i ∧
        (lowpanCreateNewLink table addr).2.Holds linkPoolLen
          (Function.update map addr (some i)) := by
  rcases createNewLink_cases h.wellFormed hfirst hnew with hnone | ⟨haddr, -, i, hidx, hcreated⟩
  · exact Or.inl hnone
  · have hlt : i < linkPoolLen.toNat := by
      have hlt := hcreated.isLink.1
      rwa [hcreated.linkPoolLen, h.linkPoolLen_eq] at hlt
    refine Or.inr ⟨haddr, i, hlt, fun huses => ?_, hidx, h.of_created hcreated hnew⟩
    have halloc := (h.uses_iff.mp huses).2
    rw [hcreated.wasFree] at halloc
    cases halloc

theorem findExistingOrCreateNewLink (h : table.Holds linkPoolLen map) (addr : Ieee154Addr)
    (allowEviction : Bool) :
    let r := lowpanMeshLinkTableFindExistingOrCreateNewLink table addr allowEviction
    ∃ map', LinkMap.Step linkPoolLen.toNat map
        (.findExistingOrCreateNewLink addr allowEviction, r.1) map' ∧
      r.2.Holds linkPoolLen map' := by
  intro r
  rcases findExistingOrCreateNewLink_cases h.wellFormed addr allowEviction with
    ⟨⟨i, hlink, heq⟩ | ⟨hnew, hfirst, heq⟩, -⟩ | ⟨hfirst, hnew, heq⟩ |
    ⟨hfirst, rfl, -, hnew, k, table₁, -, hremoved, heq⟩
  · simp only [r, heq]
    exact ⟨map, .existing allowEviction ((h.eq_some_iff addr i).mpr hlink), h⟩
  · simp only [r, heq]
    exact ⟨map, .refuse allowEviction (h.eq_none hnew) (Or.inr (h.full hfirst)), h⟩
  · simp only [r, heq]
    rcases h.createNewLink hfirst hnew with ⟨hnone, heq⟩ | ⟨haddr, i, hlt, hfree, hidx, hholds⟩
    · rw [heq]
      exact ⟨map, .refuse allowEviction (h.eq_none hnew) (Or.inl hnone), h⟩
    · rw [hidx]
      exact ⟨_, .create allowEviction (h.eq_none hnew) haddr hlt hfree, hholds⟩
  · simp only [r, heq]
    have h₁ := h.of_removed hremoved
    have hnew₁ : ∀ j, ¬table₁.IsLink j addr := fun j hj => hnew j (hremoved.isLink_iff.mp hj).2
    rcases h₁.createNewLink hremoved.first hnew₁ with
      ⟨rfl, heq⟩ | ⟨haddr, i, hlt, hfree, hidx, hholds⟩
    · rw [heq]
      exact ⟨_, .refuseAndEvict (h.full hfirst) k, h₁⟩
    · -- In a full table the only link to set up is the one that was given up.
      obtain rfl : i = k := by
        by_contra hne
        obtain ⟨addr', haddr'⟩ := h.full hfirst i hlt
        exact hfree ⟨addr', LinkMap.without_eq_some_iff.mpr ⟨hne, haddr'⟩⟩
      rw [hidx]
      exact ⟨_, .replace (h.eq_none hnew) haddr hlt (h.full hfirst), hholds⟩

end Holds

theorem holds_reset (table : LowpanLinkTable)
    (h : ∀ kind, 0 < (table.addrHashMapLen kind).toNat) :
    (lowpanMeshLinkTableReset table).Holds table.linkPoolLen LinkMap.empty := by
  refine ⟨wellFormed_reset table h, rfl, fun addr i => iff_of_false nofun fun hlink => ?_⟩
  have halloc := hlink.isAllocated
  rw [lowpanMeshLinkTableIsLinkAllocatedInternal, table.linkPoolPtr_reset hlink.1] at halloc
  simp at halloc

/-- Every operation does to the table what it may do to the map. -/
theorem holds_step {linkPoolLen : UInt8} {map : LinkMap} (h : table.Holds linkPoolLen map)
    (op : LowpanLinkTableOp) :
    ∃ map', SpecRun (LinkMap.Step linkPoolLen.toNat) map (table.step op).2 map' ∧
      (table.step op).1.Holds linkPoolLen map' := by
  obtain ⟨chain, free, hlists⟩ := h.wellFormed
  suffices hcall : ∃ map', LinkMap.Step linkPoolLen.toNat map (op, (table.call op).1) map' ∧
      (table.call op).2.Holds linkPoolLen map' by
    obtain ⟨map', hstep, hholds⟩ := hcall
    exact ⟨map', .single hstep, hholds⟩
  cases op with
  | reset => exact ⟨_, .reset map, h.linkPoolLen_eq ▸ holds_reset table hlists.placed.hashMapLen⟩
  | lookupLink addr =>
    rw [call]
    rcases hlists.lookupLink_cases addr with ⟨i, hlink, heq⟩ | ⟨hnew, heq⟩
    · rw [heq]
      exact ⟨map, .found ((h.eq_some_iff addr i).mpr hlink), h⟩
    · rw [heq]
      exact ⟨map, .notFound (h.eq_none hnew), h⟩
  | findExistingOrCreateNewLink addr allowEviction =>
    exact h.findExistingOrCreateNewLink addr allowEviction
  | removeExistingLink index => exact ⟨_, .remove map index, h.removeExistingLink index⟩
  | markUnrefreshedLinksForRemoval firstIdx numIdx =>
    refine ⟨map, .mark map firstIdx numIdx _, ?_⟩
    rw [call, lowpanMeshLinkTableMarkUnrefreshedLinksForRemoval]
    cases lowpanSweepRange table.linkPoolLen firstIdx numIdx with
    | none => exact h
    | some range => exact h.markUnrefreshedLoop range.1.toNat firstIdx.toNat
  | removeLinksMarkedForRemoval firstIdx numIdx maxRemoved =>
    rw [call, lowpanMeshLinkTableRemoveLinksMarkedForRemoval]
    cases lowpanSweepRange table.linkPoolLen firstIdx numIdx with
    | none => exact ⟨map, .removeMarked map firstIdx numIdx maxRemoved 0 [] (Nat.zero_le _), h⟩
    | some range =>
      obtain ⟨gone, hlen, hholds⟩ :=
        h.removeMarkedLoop range.1.toNat firstIdx.toNat maxRemoved.toNat
      exact ⟨_, .removeMarked map firstIdx numIdx maxRemoved range.2 gone hlen, hholds⟩
  | reportBroadcastReception index seqNo =>
    exact ⟨map, .reportBroadcast map index seqNo,
      h.setLink (LowpanLink.samePlace_reportBroadcastReception seqNo)⟩
  | reportUnicastCompletion index acked =>
    exact ⟨map, .reportUnicast map index acked,
      h.setLink (LowpanLink.samePlace_reportUnicastCompletion acked)⟩

/-- A lookup in a well formed table returns a link if and only if that is allocated with the
address. -/
theorem HasLists.lookupLink_eq_iff (h : table.HasLists chain free []) (addr : Ieee154Addr)
    {idx : UInt8} (hidx : idx ≠ WHIP6_6LOWPAN_INVALID_LINK_IDX) :
    lowpanMeshLinkTableLookupLink table addr = idx ↔ table.IsLink idx.toNat addr := by
  constructor
  · rintro rfl
    rcases h.lookupLink_cases addr with ⟨i, hlink, heq⟩ | ⟨-, heq⟩
    · rw [heq, toNat_ofNat_of_lt hlink.1]
      exact hlink
    · exact absurd heq hidx
  · intro hlink
    rw [h.lookupLink_of_isLink hlink, UInt8.ofNat_toNat]

/-- From a reset on, the results of the operations are those of a map from addresses to links, and
the links of the table are those of the map.  In every state that is reached a lookup returns a link
if and only if that is allocated with the address, no two links have the same address, and the
chains and the free list divide the pool among them. -/
theorem linkTable_refines_linkMap (table : LowpanLinkTable)
    (hlen : ∀ kind, 1 ≤ (table.addrHashMapLen kind).toNat) (ops : List LowpanLinkTableOp) :
    let r := run LowpanLinkTable.step (lowpanMeshLinkTableReset table) ops
    (∃ map, SpecRun (LinkMap.Step table.linkPoolLen.toNat) LinkMap.empty r.2 map ∧
      ∀ addr i, map addr = some i ↔ r.1.IsLink i addr) ∧
    r.1.linkPoolLen = table.linkPoolLen ∧
    (∀ addr, ∀ idx ≠ WHIP6_6LOWPAN_INVALID_LINK_IDX,
      lowpanMeshLinkTableLookupLink r.1 addr = idx ↔ r.1.IsLink idx.toNat addr) ∧
    (∀ i j addr, r.1.IsLink i addr → r.1.IsLink j addr → i = j) ∧
    ∃ chain free, r.1.IsPartition chain free := by
  intro r
  have hstep : ∀ (s : LowpanLinkTable) (map : LinkMap) (op : LowpanLinkTableOp),
      s.Holds table.linkPoolLen map →
      ∃ map', SpecRun (LinkMap.Step table.linkPoolLen.toNat) map (s.step op).2 map' ∧
        (s.step op).1.Holds table.linkPoolLen map' := fun _ _ op h => holds_step h op
  obtain ⟨map, hspec, hholds⟩ := run_simulates hstep (holds_reset table hlen) ops
  obtain ⟨chain, free, hlists⟩ := hholds.wellFormed
  exact ⟨⟨map, hspec, hholds.eq_some_iff⟩, hholds.linkPoolLen_eq,
    fun addr idx hidx => hlists.lookupLink_eq_iff addr hidx,
    fun i j addr hi hj => hlists.isLink_unique hi hj, chain, free, hlists.isPartition⟩

/-- In a pool of two links, one of which was removed, another address finds its place. -/
theorem linkTable_refines_linkMap_two :
    let table := lowpanLinkTableAtBoot 2 1 1
    let addr : Ieee154Addr := .ext (Vector.replicate 8 1)
    let ops : List LowpanLinkTableOp :=
      [.findExistingOrCreateNewLink (.shrt (Vector.replicate 2 7)) false,
        .findExistingOrCreateNewLink (.shrt (Vector.replicate 2 9)) false,
        .reportBroadcastReception 1 4, .removeExistingLink 0,
        .findExistingOrCreateNewLink addr false]
    let r := run LowpanLinkTable.step (lowpanMeshLinkTableReset table) ops
    (∃ map, SpecRun (LinkMap.Step 2) LinkMap.empty r.2 map ∧
      ∀ addr i, map addr = some i ↔ r.1.IsLink i addr) ∧ r.1.IsLink 0 addr := by
  intro table addr ops r
  have hlen : ∀ kind, 1 ≤ (table.addrHashMapLen kind).toNat := by
    intro kind
    cases kind <;> decide
  obtain ⟨hmap, -, hlookup, -⟩ := linkTable_refines_linkMap table hlen ops
  exact ⟨hmap, (hlookup addr 0 (by decide)).mp (by decide +kernel)⟩

end LowpanLinkTable

end Whip6
