import Whip6.Lowpan.LinkTable

/-!
# The lists of the link table

Every link of the pool is in exactly one list: the free list, or the chain of the bucket of its
address.  `Placed` says so of lists of indices, `Threaded` says that these lists are in memory, and
a table for which there are such lists is well formed.  Removing a link and allocating one take it
from one list to the other, and a lookup finds exactly the links in the chains.
-/

namespace Whip6

open Lib

/-! ## Links -/

/-- Two links differ in nothing but the links of the lists. -/
def LowpanLink.SameApartFromNext (link link' : LowpanLink) : Prop :=
  link' = { link with
    nextExtAddrIdx := link'.nextExtAddrIdx
    nextShrtAddrIdx := link'.nextShrtAddrIdx }

/-- Two links have the same index, the same addresses, and flags that say alike which of these are
in use. -/
structure LowpanLink.SameKey (link link' : LowpanLink) : Prop where
  idx : link'.idx = link.idx
  addr : link'.addr = link.addr
  flags : link'.flags &&& (WHIP6_6LOWPAN_LINK_FLAG_HAS_EXT_ADDR |||
      WHIP6_6LOWPAN_LINK_FLAG_HAS_SHORT_ADDR) =
    link.flags &&& (WHIP6_6LOWPAN_LINK_FLAG_HAS_EXT_ADDR |||
      WHIP6_6LOWPAN_LINK_FLAG_HAS_SHORT_ADDR)

/-- A link has an address of one kind and none of the other. -/
def LowpanLink.HasKind (link : LowpanLink) (kind : LinkAddrKind) : Prop :=
  link.flags &&& (WHIP6_6LOWPAN_LINK_FLAG_HAS_EXT_ADDR |||
    WHIP6_6LOWPAN_LINK_FLAG_HAS_SHORT_ADDR) = kind.flag

/-- The bucket of a link in the hash table of a kind. -/
def LowpanLink.bucket (link : LowpanLink) (kind : LinkAddrKind) (numBuckets : UInt8) : ℕ :=
  (lowpanMeshLinkTableHashAddr (link.addr kind).bytes numBuckets).toNat

/-- The kind of an address, if it has a hash table. -/
def Ieee154Addr.kind? : Ieee154Addr → Option LinkAddrKind
  | .none => Option.none
  | .shrt _ => some .shrt
  | .ext _ => some .ext

namespace LowpanLink

variable {link link' link'' : LowpanLink} {kind : LinkAddrKind}

theorem SameApartFromNext.refl (link : LowpanLink) : link.SameApartFromNext link := rfl

theorem SameApartFromNext.trans (h : link.SameApartFromNext link')
    (h' : link'.SameApartFromNext link'') : link.SameApartFromNext link'' := by
  rw [SameApartFromNext] at h h' ⊢
  rw [h', h]

theorem sameApartFromNext_setNextAddrIdx (link : LowpanLink) (kind : LinkAddrKind) (idx : UInt8) :
    link.SameApartFromNext (link.setNextAddrIdx kind idx) := by
  cases kind <;> rfl

@[simp] theorem nextAddrIdx_setNextAddrIdx (link : LowpanLink) (kind : LinkAddrKind)
    (idx : UInt8) : (link.setNextAddrIdx kind idx).nextAddrIdx kind = idx := by
  cases kind <;> rfl

theorem SameApartFromNext.flags (h : link.SameApartFromNext link') : link'.flags = link.flags := by
  rw [h]

theorem SameApartFromNext.idx (h : link.SameApartFromNext link') : link'.idx = link.idx := by
  rw [h]

theorem SameApartFromNext.quality (h : link.SameApartFromNext link') :
    link'.quality = link.quality := by
  rw [h]

theorem SameApartFromNext.addr (h : link.SameApartFromNext link') (kind : LinkAddrKind) :
    link'.addr kind = link.addr kind := by
  rw [h]
  cases kind <;> rfl

theorem SameApartFromNext.isAllocated (h : link.SameApartFromNext link') :
    lowpanMeshLinkTableIsLinkAllocatedInternal link' =
      lowpanMeshLinkTableIsLinkAllocatedInternal link := by
  rw [lowpanMeshLinkTableIsLinkAllocatedInternal, h.flags]
  rfl

theorem SameApartFromNext.sameKey (h : link.SameApartFromNext link') : link.SameKey link' :=
  ⟨h.idx, funext h.addr, by rw [h.flags]⟩

theorem SameKey.hasKind_iff (h : link.SameKey link') : link'.HasKind kind ↔ link.HasKind kind := by
  rw [HasKind, HasKind, h.flags]

theorem SameKey.isAllocated (h : link.SameKey link') :
    lowpanMeshLinkTableIsLinkAllocatedInternal link' =
      lowpanMeshLinkTableIsLinkAllocatedInternal link := by
  rw [lowpanMeshLinkTableIsLinkAllocatedInternal, h.flags]
  rfl

theorem HasKind.isAllocated (h : link.HasKind kind) :
    lowpanMeshLinkTableIsLinkAllocatedInternal link = true := by
  rw [lowpanMeshLinkTableIsLinkAllocatedInternal, h]
  cases kind <;> decide

/-- The flags of the address kinds tell the kind. -/
theorem HasKind.and_flag (h : link.HasKind kind) (kind' : LinkAddrKind) :
    link.flags &&& kind'.flag = kind.flag &&& kind'.flag := by
  have hmask : kind'.flag = (WHIP6_6LOWPAN_LINK_FLAG_HAS_EXT_ADDR |||
      WHIP6_6LOWPAN_LINK_FLAG_HAS_SHORT_ADDR) &&& kind'.flag := by
    cases kind' <;> decide
  rw [hmask, ← UInt8.and_assoc, ← hmask, h]

theorem HasKind.unique {kind' : LinkAddrKind} (h : link.HasKind kind) (h' : link.HasKind kind') :
    kind = kind' := by
  have heq : kind.flag = kind'.flag := h.symm.trans h'
  revert heq
  cases kind <;> cases kind' <;> decide

@[simp] theorem allocate_idx (link : LowpanLink) (addr : Ieee154Addr) (next : UInt8) :
    (link.allocate addr next).idx = link.idx := by
  cases addr <;> rfl

/-- A link that was set up for an address has that address, and stands before `next` in the chain
of that kind; an extended index that is not in use is the invalid one. -/
theorem allocate_spec (link : LowpanLink) {addr : Ieee154Addr} (hk : addr.kind? = some kind)
    (next : UInt8) :
    (link.allocate addr next).HasKind kind ∧ (link.allocate addr next).addr kind = addr ∧
      (link.allocate addr next).nextAddrIdx kind = next ∧
      (kind = .ext ∨
        (link.allocate addr next).nextExtAddrIdx = WHIP6_6LOWPAN_INVALID_LINK_IDX) := by
  cases addr with
  | none => cases hk
  | shrt shrt =>
    obtain rfl : LinkAddrKind.shrt = kind := Option.some.inj hk
    refine ⟨?_, rfl, rfl, Or.inr rfl⟩
    change WHIP6_6LOWPAN_LINK_FLAG_HAS_SHORT_ADDR &&& _ = _
    decide
  | ext ext =>
    obtain rfl : LinkAddrKind.ext = kind := Option.some.inj hk
    refine ⟨?_, rfl, rfl, Or.inl rfl⟩
    change WHIP6_6LOWPAN_LINK_FLAG_HAS_EXT_ADDR &&& _ = _
    decide

end LowpanLink

/-! ## Places -/

/-- The lists with that of one bucket replaced. -/
def setChain (chain : LinkAddrKind → ℕ → List ℕ) (kind : LinkAddrKind) (b : ℕ) (l : List ℕ) :
    LinkAddrKind → ℕ → List ℕ :=
  fun kind' b' => if kind' = kind ∧ b' = b then l else chain kind' b'

section SetChain

variable {chain : LinkAddrKind → ℕ → List ℕ} {kind kind' : LinkAddrKind} {b b' : ℕ} {l : List ℕ}

@[simp] theorem setChain_self : setChain chain kind b l kind b = l := if_pos ⟨rfl, rfl⟩

theorem setChain_of_ne (h : ¬(kind' = kind ∧ b' = b)) :
    setChain chain kind b l kind' b' = chain kind' b' := if_neg h

theorem setChain_cases (chain : LinkAddrKind → ℕ → List ℕ) (kind : LinkAddrKind) (b : ℕ)
    (l : List ℕ) (kind' : LinkAddrKind) (b' : ℕ) :
    kind' = kind ∧ b' = b ∧ setChain chain kind b l kind' b' = l ∨
      ¬(kind' = kind ∧ b' = b) ∧ setChain chain kind b l kind' b' = chain kind' b' := by
  by_cases h : kind' = kind ∧ b' = b
  · exact Or.inl ⟨h.1, h.2, if_pos h⟩
  · exact Or.inr ⟨h, if_neg h⟩

end SetChain

namespace LowpanLinkTable

/-- Every link of the pool is in the free list, in the chain of its address, or in the hand of an
operation, and the chains hold no address twice. -/
structure Placed (table : LowpanLinkTable) (chain : LinkAddrKind → ℕ → List ℕ)
    (free hand : List ℕ) : Prop where
  idx : ∀ i < table.linkPoolLen.toNat, (table.linkPoolPtr i).idx.toNat = i
  hashMapLen : ∀ kind, 0 < (table.addrHashMapLen kind).toNat
  mem_chain : ∀ kind b, ∀ i ∈ chain kind b, i < table.linkPoolLen.toNat ∧
    (table.linkPoolPtr i).HasKind kind ∧
    (table.linkPoolPtr i).bucket kind (table.addrHashMapLen kind) = b
  mem_free : ∀ i ∈ free, i < table.linkPoolLen.toNat ∧
    lowpanMeshLinkTableIsLinkAllocatedInternal (table.linkPoolPtr i) = false
  mem_hand : ∀ i ∈ hand, i < table.linkPoolLen.toNat ∧ i ∉ free ∧ ∀ kind b, i ∉ chain kind b
  cover : ∀ i < table.linkPoolLen.toNat, i ∈ hand ∨ i ∈ free ∨ ∃ kind b, i ∈ chain kind b
  nodup_free : free.Nodup
  nodup_addr : ∀ kind b, ((chain kind b).map fun i => (table.linkPoolPtr i).addr kind).Nodup

namespace Placed

variable {table table' : LowpanLinkTable} {chain : LinkAddrKind → ℕ → List ℕ}
  {free hand : List ℕ} {kind kind' : LinkAddrKind} {b b' i : ℕ} {l₁ l₂ : List ℕ}

theorem nodup_chain (h : table.Placed chain free hand) (kind : LinkAddrKind) (b : ℕ) :
    (chain kind b).Nodup :=
  (h.nodup_addr kind b).of_map _

theorem notMem_free (h : table.Placed chain free hand) (hi : i ∈ chain kind b) : i ∉ free := by
  intro hfree
  have halloc := (h.mem_chain kind b i hi).2.1.isAllocated
  rw [(h.mem_free i hfree).2] at halloc
  cases halloc

theorem eq_of_mem (h : table.Placed chain free hand) (hi : i ∈ chain kind b)
    (hi' : i ∈ chain kind' b') : kind' = kind ∧ b' = b := by
  obtain ⟨-, hkind, hb⟩ := h.mem_chain kind b i hi
  obtain ⟨-, hkind', hb'⟩ := h.mem_chain kind' b' i hi'
  obtain rfl := hkind.unique hkind'
  exact ⟨rfl, hb'.symm.trans hb⟩

/-- Only the keys of the links, not how they are linked, matter for their places. -/
theorem congr_of_sameKey (h : table.Placed chain free hand)
    (hlen : table'.linkPoolLen = table.linkPoolLen)
    (hmap : table'.addrHashMapLen = table.addrHashMapLen)
    (hlink : ∀ j, (table.linkPoolPtr j).SameKey (table'.linkPoolPtr j)) :
    table'.Placed chain free hand where
  idx := by
    intro j hj
    rw [hlen] at hj
    rw [(hlink j).idx, h.idx j hj]
  hashMapLen := by rw [hmap]; exact h.hashMapLen
  mem_chain := by
    intro kind b j hj
    obtain ⟨hlt, hkind, hb⟩ := h.mem_chain kind b j hj
    rw [hlen, hmap, (hlink j).hasKind_iff, LowpanLink.bucket, (hlink j).addr]
    exact ⟨hlt, hkind, hb⟩
  mem_free := by
    intro j hj
    rw [hlen, (hlink j).isAllocated]
    exact h.mem_free j hj
  mem_hand := by rw [hlen]; exact h.mem_hand
  cover := by rw [hlen]; exact h.cover
  nodup_free := h.nodup_free
  nodup_addr := by
    intro kind b
    simp only [fun j => (hlink j).addr]
    exact h.nodup_addr kind b

theorem congr (h : table.Placed chain free hand)
    (hlen : table'.linkPoolLen = table.linkPoolLen)
    (hmap : table'.addrHashMapLen = table.addrHashMapLen)
    (hlink : ∀ j, (table.linkPoolPtr j).SameApartFromNext (table'.linkPoolPtr j)) :
    table'.Placed chain free hand :=
  h.congr_of_sameKey hlen hmap fun j => (hlink j).sameKey

/-- A link is taken out of a chain. -/
theorem takeChain (h : table.Placed chain free []) (hi : chain kind b = l₁ ++ i :: l₂) :
    table.Placed (setChain chain kind b (l₁ ++ l₂)) free [i] := by
  have hmem : i ∈ chain kind b := by simp [hi]
  have hnodup := h.nodup_chain kind b
  have hsub : ∀ j ∈ l₁ ++ l₂, j ∈ chain kind b := by
    intro j hj
    rw [hi, List.mem_append, List.mem_cons]
    rcases List.mem_append.mp hj with hj | hj
    · exact Or.inl hj
    · exact Or.inr (Or.inr hj)
  refine
    { idx := h.idx
      hashMapLen := h.hashMapLen
      mem_chain := ?_
      mem_free := h.mem_free
      mem_hand := ?_
      cover := ?_
      nodup_free := h.nodup_free
      nodup_addr := ?_ }
  · intro kind' b'
    rcases setChain_cases chain kind b (l₁ ++ l₂) kind' b' with ⟨rfl, rfl, heq⟩ | ⟨-, heq⟩
    · rw [heq]
      exact fun j hj => h.mem_chain kind' b' j (hsub j hj)
    · rw [heq]
      exact h.mem_chain kind' b'
  · intro j hj
    obtain rfl := List.mem_singleton.mp hj
    refine ⟨(h.mem_chain kind b j hmem).1, h.notMem_free hmem, fun kind' b' => ?_⟩
    rcases setChain_cases chain kind b (l₁ ++ l₂) kind' b' with ⟨-, -, heq⟩ | ⟨hne, heq⟩
    · rw [heq]
      rw [hi] at hnodup
      exact (List.nodup_cons.mp (List.perm_middle.nodup_iff.mp hnodup)).1
    · rw [heq]
      exact fun hj' => hne (h.eq_of_mem hmem hj')
  · intro j hj
    rcases h.cover j hj with hj | hj | ⟨kind', b', hj⟩
    · cases hj
    · exact Or.inr (Or.inl hj)
    · by_cases heq : kind' = kind ∧ b' = b
      · obtain ⟨rfl, rfl⟩ := heq
        rw [hi, List.mem_append, List.mem_cons] at hj
        by_cases hji : j = i
        · exact Or.inl (by rw [hji]; exact List.mem_singleton.mpr rfl)
        · refine Or.inr (Or.inr ⟨kind', b', ?_⟩)
          rw [setChain_self, List.mem_append]
          tauto
      · refine Or.inr (Or.inr ⟨kind', b', ?_⟩)
        rwa [setChain_of_ne heq]
  · intro kind' b'
    rcases setChain_cases chain kind b (l₁ ++ l₂) kind' b' with ⟨rfl, rfl, heq⟩ | ⟨-, heq⟩
    · have haddr := h.nodup_addr kind' b'
      rw [hi] at haddr
      rw [heq]
      exact (((List.sublist_cons_self i l₂).append_left l₁).map _).nodup haddr
    · rw [heq]
      exact h.nodup_addr kind' b'

/-- What the link in the hand is does not matter, apart from its index. -/
theorem setHand (h : table.Placed chain free hand) (hi : i ∈ hand) {link : LowpanLink}
    (hidx : link.idx = (table.linkPoolPtr i).idx) :
    (table.setLink i link).Placed chain free hand := by
  obtain ⟨-, hfree, hchain⟩ := h.mem_hand i hi
  have hother : ∀ j, j ≠ i → (table.setLink i link).linkPoolPtr j = table.linkPoolPtr j :=
    fun j hj => Function.update_of_ne hj _ _
  refine
    { idx := ?_
      hashMapLen := h.hashMapLen
      mem_chain := ?_
      mem_free := ?_
      mem_hand := h.mem_hand
      cover := h.cover
      nodup_free := h.nodup_free
      nodup_addr := ?_ }
  · intro j hj
    by_cases hji : j = i
    · subst hji
      rw [← h.idx j hj, ← hidx]
      exact congrArg (fun l : LowpanLink => l.idx.toNat) (Function.update_self _ _ _)
    · rw [hother j hji]
      exact h.idx j hj
  · intro kind b j hj
    rw [hother j fun heq => hchain kind b (heq ▸ hj)]
    exact h.mem_chain kind b j hj
  · intro j hj
    rw [hother j fun heq => hfree (heq ▸ hj)]
    exact h.mem_free j hj
  · intro kind b
    have hmap : ((chain kind b).map fun j => ((table.setLink i link).linkPoolPtr j).addr kind) =
        (chain kind b).map fun j => (table.linkPoolPtr j).addr kind :=
      List.map_congr_left fun j hj => by rw [hother j fun heq => hchain kind b (heq ▸ hj)]
    rw [hmap]
    exact h.nodup_addr kind b

/-- A link that is not allocated goes to the free list. -/
theorem pushFree (h : table.Placed chain free [i])
    (hi : lowpanMeshLinkTableIsLinkAllocatedInternal (table.linkPoolPtr i) = false) :
    table.Placed chain (i :: free) [] := by
  obtain ⟨hlt, hfree, -⟩ := h.mem_hand i (List.mem_singleton.mpr rfl)
  refine
    { idx := h.idx
      hashMapLen := h.hashMapLen
      mem_chain := h.mem_chain
      mem_free := List.forall_mem_cons.mpr ⟨⟨hlt, hi⟩, h.mem_free⟩
      mem_hand := fun j hj => absurd hj List.not_mem_nil
      cover := ?_
      nodup_free := List.nodup_cons.mpr ⟨hfree, h.nodup_free⟩
      nodup_addr := h.nodup_addr }
  intro j hj
  rcases h.cover j hj with hj | hj | hj
  · rw [List.mem_singleton.mp hj]
    exact Or.inr (Or.inl List.mem_cons_self)
  · exact Or.inr (Or.inl (List.mem_cons_of_mem _ hj))
  · exact Or.inr (Or.inr hj)

/-- The first free link is taken. -/
theorem popFree (h : table.Placed chain (i :: free) []) : table.Placed chain free [i] := by
  obtain ⟨hi, hfree⟩ := List.forall_mem_cons.mp h.mem_free
  obtain ⟨hnot, hnodup⟩ := List.nodup_cons.mp h.nodup_free
  refine
    { idx := h.idx
      hashMapLen := h.hashMapLen
      mem_chain := h.mem_chain
      mem_free := hfree
      mem_hand := ?_
      cover := ?_
      nodup_free := hnodup
      nodup_addr := h.nodup_addr }
  · intro j hj
    obtain rfl := List.mem_singleton.mp hj
    exact ⟨hi.1, hnot, fun kind b hmem => h.notMem_free hmem List.mem_cons_self⟩
  · intro j hj
    rcases h.cover j hj with hj | hj | hj
    · cases hj
    · rcases List.mem_cons.mp hj with rfl | hj
      · exact Or.inl (List.mem_singleton.mpr rfl)
      · exact Or.inr (Or.inl hj)
    · exact Or.inr (Or.inr hj)

/-- A link with a new address goes to the chain of that address. -/
theorem pushChain (h : table.Placed chain free [i]) (hkind : (table.linkPoolPtr i).HasKind kind)
    (hb : (table.linkPoolPtr i).bucket kind (table.addrHashMapLen kind) = b)
    (hnew : ∀ j ∈ chain kind b,
      (table.linkPoolPtr j).addr kind ≠ (table.linkPoolPtr i).addr kind) :
    table.Placed (setChain chain kind b (i :: chain kind b)) free [] := by
  obtain ⟨hlt, hfree, -⟩ := h.mem_hand i (List.mem_singleton.mpr rfl)
  refine
    { idx := h.idx
      hashMapLen := h.hashMapLen
      mem_chain := ?_
      mem_free := h.mem_free
      mem_hand := fun j hj => absurd hj List.not_mem_nil
      cover := ?_
      nodup_free := h.nodup_free
      nodup_addr := ?_ }
  · intro kind' b'
    rcases setChain_cases chain kind b (i :: chain kind b) kind' b' with ⟨rfl, rfl, heq⟩ | ⟨-, heq⟩
    · rw [heq]
      exact List.forall_mem_cons.mpr ⟨⟨hlt, hkind, hb⟩, h.mem_chain kind' b'⟩
    · rw [heq]
      exact h.mem_chain kind' b'
  · intro j hj
    rcases h.cover j hj with hj | hj | ⟨kind', b', hj⟩
    · rw [List.mem_singleton.mp hj]
      refine Or.inr (Or.inr ⟨kind, b, ?_⟩)
      rw [setChain_self]
      exact List.mem_cons_self
    · exact Or.inr (Or.inl hj)
    · refine Or.inr (Or.inr ⟨kind', b', ?_⟩)
      by_cases heq : kind' = kind ∧ b' = b
      · obtain ⟨rfl, rfl⟩ := heq
        rw [setChain_self]
        exact List.mem_cons_of_mem _ hj
      · rwa [setChain_of_ne heq]
  · intro kind' b'
    rcases setChain_cases chain kind b (i :: chain kind b) kind' b' with ⟨rfl, rfl, heq⟩ | ⟨-, heq⟩
    · rw [heq, List.map_cons, List.nodup_cons]
      refine ⟨fun hmem => ?_, h.nodup_addr kind' b'⟩
      obtain ⟨j, hj, heq⟩ := List.mem_map.mp hmem
      exact hnew j hj heq
    · rw [heq]
      exact h.nodup_addr kind' b'

end Placed

/-! ## Threads -/

/-- An index is that of a link, or the one that ends every list. -/
def IdxOk (table : LowpanLinkTable) (idx : UInt8) : Prop :=
  idx < table.linkPoolLen ∨ idx = WHIP6_6LOWPAN_INVALID_LINK_IDX

/-- The lists are in memory. -/
structure Threaded (table : LowpanLinkTable) (chain : LinkAddrKind → ℕ → List ℕ)
    (free : List ℕ) : Prop where
  chains : ∀ kind, ∀ b < (table.addrHashMapLen kind).toNat,
    Seg (table.nextLink kind) (table.linkAt (table.addrHashMap kind b)) (chain kind b) none
  freeList : Seg (table.nextLink .ext) (table.linkAt table.firstLinkInPool) free none
  first : table.IdxOk table.firstLinkInPool
  next : ∀ i < table.linkPoolLen.toNat, table.IdxOk (table.linkPoolPtr i).nextExtAddrIdx
  bucket : ∀ b < table.extAddrHashMapLen.toNat, table.IdxOk (table.extAddrHashMapPtr b)

theorem linkAt_of_toNat {table : LowpanLinkTable} {idx : UInt8} {i : ℕ} (h : idx.toNat = i)
    (hi : i < table.linkPoolLen.toNat) : table.linkAt idx = some i := by
  rw [linkAt, if_pos (UInt8.lt_iff_toNat_lt.mpr (h ▸ hi)), h]

@[simp] theorem linkPoolPtr_setLink_self (table : LowpanLinkTable) (i : ℕ) (link : LowpanLink) :
    (table.setLink i link).linkPoolPtr i = link := Function.update_self _ _ _

theorem linkPoolPtr_setLink_of_ne (table : LowpanLinkTable) (link : LowpanLink) {i j : ℕ}
    (h : j ≠ i) : (table.setLink i link).linkPoolPtr j = table.linkPoolPtr j :=
  Function.update_of_ne h _ _

theorem nextLink_setLink (table : LowpanLinkTable) (i : ℕ) (link : LowpanLink)
    (kind : LinkAddrKind) :
    (table.setLink i link).nextLink kind =
      Function.update (table.nextLink kind) i (table.linkAt (link.nextAddrIdx kind)) := by
  funext j
  rw [Function.update_apply]
  split_ifs with hji
  · subst hji
    exact congrArg (fun l : LowpanLink => table.linkAt (l.nextAddrIdx kind))
      (Function.update_self _ _ _)
  · exact congrArg (fun l : LowpanLink => table.linkAt (l.nextAddrIdx kind))
      (Function.update_of_ne hji _ _)

@[simp] theorem nextLink_setBucket (table : LowpanLinkTable) (kind : LinkAddrKind) (b : ℕ)
    (idx : UInt8) : (table.setBucket kind b idx).nextLink = table.nextLink := by
  cases kind <;> rfl

@[simp] theorem linkAt_setBucket (table : LowpanLinkTable) (kind : LinkAddrKind) (b : ℕ)
    (idx : UInt8) : (table.setBucket kind b idx).linkAt = table.linkAt := by
  cases kind <;> rfl

@[simp] theorem linkPoolLen_setBucket (table : LowpanLinkTable) (kind : LinkAddrKind) (b : ℕ)
    (idx : UInt8) : (table.setBucket kind b idx).linkPoolLen = table.linkPoolLen := by
  cases kind <;> rfl

@[simp] theorem linkPoolPtr_setBucket (table : LowpanLinkTable) (kind : LinkAddrKind) (b : ℕ)
    (idx : UInt8) : (table.setBucket kind b idx).linkPoolPtr = table.linkPoolPtr := by
  cases kind <;> rfl

@[simp] theorem firstLinkInPool_setBucket (table : LowpanLinkTable) (kind : LinkAddrKind) (b : ℕ)
    (idx : UInt8) : (table.setBucket kind b idx).firstLinkInPool = table.firstLinkInPool := by
  cases kind <;> rfl

@[simp] theorem addrHashMapLen_setBucket (table : LowpanLinkTable) (kind : LinkAddrKind) (b : ℕ)
    (idx : UInt8) : (table.setBucket kind b idx).addrHashMapLen = table.addrHashMapLen := by
  cases kind <;> rfl

theorem addrHashMap_setBucket (table : LowpanLinkTable) (kind : LinkAddrKind) (b : ℕ)
    (idx : UInt8) (kind' : LinkAddrKind) (b' : ℕ) :
    (table.setBucket kind b idx).addrHashMap kind' b' =
      if kind' = kind ∧ b' = b then idx else table.addrHashMap kind' b' := by
  cases kind <;> cases kind' <;>
    simp [setBucket, addrHashMap, Function.update_apply]

/-- Take link `i` out of its chain: the link before it, or the bucket, is linked to the next. -/
def unlink (table : LowpanLinkTable) (kind : LinkAddrKind) (b : ℕ) (prev : Option ℕ) (i : ℕ) :
    LowpanLinkTable :=
  match prev with
  | none => table.setBucket kind b ((table.linkPoolPtr i).nextAddrIdx kind)
  | some p => table.setLink p
      ((table.linkPoolPtr p).setNextAddrIdx kind ((table.linkPoolPtr i).nextAddrIdx kind))

theorem sameApartFromNext_unlink (table : LowpanLinkTable) (kind : LinkAddrKind) (b : ℕ)
    (prev : Option ℕ) (i j : ℕ) :
    (table.linkPoolPtr j).SameApartFromNext ((table.unlink kind b prev i).linkPoolPtr j) := by
  cases prev with
  | none =>
    rw [unlink, linkPoolPtr_setBucket]
    exact LowpanLink.SameApartFromNext.refl _
  | some p =>
    rw [unlink]
    by_cases hjp : j = p
    · subst hjp
      rw [linkPoolPtr_setLink_self]
      exact LowpanLink.sameApartFromNext_setNextAddrIdx _ _ _
    · rw [linkPoolPtr_setLink_of_ne table _ hjp]
      exact LowpanLink.SameApartFromNext.refl _

theorem unlink_lens (table : LowpanLinkTable) (kind : LinkAddrKind) (b : ℕ) (prev : Option ℕ)
    (i : ℕ) : (table.unlink kind b prev i).linkPoolLen = table.linkPoolLen ∧
      (table.unlink kind b prev i).addrHashMapLen = table.addrHashMapLen ∧
      (table.unlink kind b prev i).firstLinkInPool = table.firstLinkInPool := by
  cases prev with
  | none => simp [unlink]
  | some p => exact ⟨rfl, rfl, rfl⟩

@[simp] theorem idxOk_setBucket (table : LowpanLinkTable) (kind : LinkAddrKind) (b : ℕ)
    (idx : UInt8) : (table.setBucket kind b idx).IdxOk = table.IdxOk := by
  cases kind <;> rfl

namespace Threaded

variable {table : LowpanLinkTable} {chain : LinkAddrKind → ℕ → List ℕ} {free hand : List ℕ}
  {kind : LinkAddrKind} {b i : ℕ} {l₁ l₂ : List ℕ}

theorem bucket_setBucket (h : table.Threaded chain free) {idx : UInt8}
    (hidx : kind = .ext → table.IdxOk idx) (b' : ℕ)
    (hb : b' < (table.setBucket kind b idx).extAddrHashMapLen.toNat) :
    table.IdxOk ((table.setBucket kind b idx).extAddrHashMapPtr b') := by
  cases kind with
  | shrt => exact h.bucket b' hb
  | ext =>
    change table.IdxOk ((table.setBucket .ext b idx).addrHashMap .ext b')
    rw [addrHashMap_setBucket]
    split_ifs
    · exact hidx rfl
    · exact h.bucket b' hb

theorem setHand (h : table.Threaded chain free) (hp : table.Placed chain free hand)
    (hi : i ∈ hand) {link : LowpanLink} (hok : table.IdxOk link.nextExtAddrIdx) :
    (table.setLink i link).Threaded chain free := by
  obtain ⟨-, hfree, hchain⟩ := hp.mem_hand i hi
  refine
    { chains := fun kind b hb => ?_
      freeList := ?_
      first := h.first
      next := fun j hj => ?_
      bucket := h.bucket }
  · rw [nextLink_setLink]
    exact (h.chains kind b hb).update_of_notMem (hchain kind b) _
  · rw [nextLink_setLink]
    exact h.freeList.update_of_notMem hfree _
  · by_cases hji : j = i
    · subst hji
      rw [linkPoolPtr_setLink_self]
      exact hok
    · rw [linkPoolPtr_setLink_of_ne table link hji]
      exact h.next j hj

theorem unlink_head (h : table.Threaded chain free) (hp : table.Placed chain free [])
    (hi : chain kind b = i :: l₂) :
    (table.unlink kind b none i).Threaded (setChain chain kind b l₂) free := by
  have hmem : i ∈ chain kind b := by simp [hi]
  have hlt := (hp.mem_chain kind b i hmem).1
  rw [unlink]
  refine
    { chains := fun kind' b' hb => ?_
      freeList := ?_
      first := ?_
      next := ?_
      bucket := fun b' hb => ?_ }
  · rw [addrHashMapLen_setBucket] at hb
    rw [nextLink_setBucket, linkAt_setBucket, addrHashMap_setBucket]
    rcases setChain_cases chain kind b l₂ kind' b' with ⟨rfl, rfl, heq⟩ | ⟨hne, heq⟩
    · rw [heq, if_pos ⟨rfl, rfl⟩]
      have hseg := h.chains kind' b' hb
      rw [hi] at hseg
      exact hseg.2
    · rw [heq, if_neg hne]
      exact h.chains kind' b' hb
  · rw [nextLink_setBucket, linkAt_setBucket, firstLinkInPool_setBucket]
    exact h.freeList
  · rw [idxOk_setBucket, firstLinkInPool_setBucket]
    exact h.first
  · rw [idxOk_setBucket, linkPoolLen_setBucket, linkPoolPtr_setBucket]
    exact h.next
  · rw [idxOk_setBucket]
    exact h.bucket_setBucket (fun hext => hext ▸ h.next i hlt) b' hb

theorem unlink_behind {p : ℕ} (h : table.Threaded chain free) (hp : table.Placed chain free [])
    (hi : chain kind b = l₁ ++ p :: i :: l₂) :
    (table.unlink kind b (some p) i).Threaded (setChain chain kind b (l₁ ++ p :: l₂)) free := by
  have hmem : i ∈ chain kind b := by simp [hi]
  have hmemp : p ∈ chain kind b := by simp [hi]
  have hlt := (hp.mem_chain kind b i hmem).1
  have hnodup := hp.nodup_chain kind b
  rw [hi] at hnodup
  rw [unlink]
  refine
    { chains := fun kind' b' hb => ?_
      freeList := ?_
      first := h.first
      next := fun j hj => ?_
      bucket := h.bucket }
  · rw [nextLink_setLink]
    rcases setChain_cases chain kind b (l₁ ++ p :: l₂) kind' b' with ⟨rfl, rfl, heq⟩ | ⟨hne, heq⟩
    · have hseg := h.chains kind' b' hb
      rw [hi] at hseg
      rw [heq, LowpanLink.nextAddrIdx_setNextAddrIdx]
      exact hseg.unlink hnodup
    · rw [heq]
      exact (h.chains kind' b' hb).update_of_notMem (fun hj => hne (hp.eq_of_mem hmemp hj)) _
  · rw [nextLink_setLink]
    exact h.freeList.update_of_notMem (hp.notMem_free hmemp) _
  · by_cases hjp : j = p
    · subst hjp
      rw [linkPoolPtr_setLink_self]
      cases kind with
      | ext => exact h.next i hlt
      | shrt => exact h.next j hj
    · rw [linkPoolPtr_setLink_of_ne table _ hjp]
      exact h.next j hj

/-- A link that is linked to the first free one becomes the first free one. -/
theorem pushFree (h : table.Threaded chain free) (idx : UInt8) (hi : idx.toNat = i)
    (hlt : i < table.linkPoolLen.toNat)
    (hnext : (table.linkPoolPtr i).nextExtAddrIdx = table.firstLinkInPool) :
    { table with firstLinkInPool := idx }.Threaded chain (i :: free) where
  chains := h.chains
  freeList := by
    refine ⟨linkAt_of_toNat hi hlt, ?_⟩
    have hseg := h.freeList
    rw [← hnext] at hseg
    exact hseg
  first := Or.inl (UInt8.lt_iff_toNat_lt.mpr (hi ▸ hlt))
  next := h.next
  bucket := h.bucket

theorem popFree (h : table.Threaded chain (i :: free)) (hlt : i < table.linkPoolLen.toNat) :
    { table with firstLinkInPool := (table.linkPoolPtr i).nextExtAddrIdx }.Threaded chain free where
  chains := h.chains
  freeList := h.freeList.2
  first := h.next i hlt
  next := h.next
  bucket := h.bucket

/-- A link that is linked to the first one of a chain becomes the first one of it. -/
theorem pushChain (h : table.Threaded chain free) (idx : UInt8) (hi : idx.toNat = i)
    (hlt : i < table.linkPoolLen.toNat)
    (hnext : (table.linkPoolPtr i).nextAddrIdx kind = table.addrHashMap kind b) :
    (table.setBucket kind b idx).Threaded (setChain chain kind b (i :: chain kind b)) free := by
  refine
    { chains := fun kind' b' hb => ?_
      freeList := ?_
      first := ?_
      next := ?_
      bucket := fun b' hb => ?_ }
  · rw [addrHashMapLen_setBucket] at hb
    rw [nextLink_setBucket, linkAt_setBucket, addrHashMap_setBucket]
    rcases setChain_cases chain kind b (i :: chain kind b) kind' b' with
      ⟨rfl, rfl, heq⟩ | ⟨hne, heq⟩
    · rw [heq, if_pos ⟨rfl, rfl⟩]
      refine ⟨linkAt_of_toNat hi hlt, ?_⟩
      have hseg := h.chains kind' b' hb
      rw [← hnext] at hseg
      exact hseg
    · rw [heq, if_neg hne]
      exact h.chains kind' b' hb
  · rw [nextLink_setBucket, linkAt_setBucket, firstLinkInPool_setBucket]
    exact h.freeList
  · rw [idxOk_setBucket, firstLinkInPool_setBucket]
    exact h.first
  · rw [idxOk_setBucket, linkPoolLen_setBucket, linkPoolPtr_setBucket]
    exact h.next
  · rw [idxOk_setBucket]
    exact h.bucket_setBucket (fun _ => Or.inl (UInt8.lt_iff_toNat_lt.mpr (hi ▸ hlt))) b' hb

end Threaded

/-! ## Removing and allocating -/

/-- The lists of a table, with the link that an operation holds. -/
structure HasLists (table : LowpanLinkTable) (chain : LinkAddrKind → ℕ → List ℕ)
    (free hand : List ℕ) : Prop where
  placed : table.Placed chain free hand
  threaded : table.Threaded chain free

/-- A table with lists in which every link has its place. -/
def WellFormed (table : LowpanLinkTable) : Prop :=
  ∃ chain free, table.HasLists chain free []

namespace HasLists

variable {table : LowpanLinkTable} {chain : LinkAddrKind → ℕ → List ℕ} {free hand : List ℕ}
  {kind : LinkAddrKind} {b i : ℕ} {l₁ l₂ : List ℕ}

theorem bucket_lt (h : table.HasLists chain free hand) (hi : i ∈ chain kind b) :
    b < (table.addrHashMapLen kind).toNat := by
  obtain ⟨-, -, rfl⟩ := h.placed.mem_chain kind b i hi
  rw [LowpanLink.bucket, lowpanMeshLinkTableHashAddr, UInt8.toNat_mod]
  exact Nat.mod_lt _ (h.placed.hashMapLen kind)

theorem length_chain_le (h : table.HasLists chain free hand) (kind : LinkAddrKind) (b : ℕ) :
    (chain kind b).length ≤ table.linkPoolLen.toNat := by
  have hsub : chain kind b ⊆ List.range table.linkPoolLen.toNat := fun i hi =>
    List.mem_range.mpr (h.placed.mem_chain kind b i hi).1
  have hle := ((h.placed.nodup_chain kind b).subperm hsub).length_le
  rwa [List.length_range] at hle

theorem setHand (h : table.HasLists chain free hand) (hi : i ∈ hand) {link : LowpanLink}
    (hidx : link.idx = (table.linkPoolPtr i).idx) (hok : table.IdxOk link.nextExtAddrIdx) :
    (table.setLink i link).HasLists chain free hand :=
  ⟨h.placed.setHand hi hidx, h.threaded.setHand h.placed hi hok⟩

/-- A link is taken out of its chain, in the lists and in memory. -/
theorem unlink (h : table.HasLists chain free []) (hi : chain kind b = l₁ ++ i :: l₂) :
    (table.unlink kind b l₁.getLast? i).HasLists (setChain chain kind b (l₁ ++ l₂)) free [i] := by
  obtain ⟨hlen, hmap, -⟩ := unlink_lens table kind b l₁.getLast? i
  refine ⟨(h.placed.takeChain hi).congr hlen hmap
    (sameApartFromNext_unlink table kind b l₁.getLast? i), ?_⟩
  rcases List.eq_nil_or_concat' l₁ with rfl | ⟨l₀, p, rfl⟩
  · exact h.threaded.unlink_head h.placed hi
  · rw [List.append_assoc, List.singleton_append] at hi ⊢
    rw [List.getLast?_concat]
    exact h.threaded.unlink_behind h.placed hi

theorem removeFromHashTable_of_flag {table : LowpanLinkTable}
    (h : (table.linkPoolPtr i).flags &&& kind.flag = 0) :
    lowpanMeshLinkTableRemoveFromHashTable kind table i = table := by
  rw [lowpanMeshLinkTableRemoveFromHashTable]
  exact if_pos h

/-- A link of a chain is found by the search in its bucket, and taken out. -/
theorem removeFromHashTable_eq (h : table.HasLists chain free [])
    (hi : chain kind b = l₁ ++ i :: l₂) :
    lowpanMeshLinkTableRemoveFromHashTable kind table i =
      let table' := table.unlink kind b l₁.getLast? i
      let link := (table'.linkPoolPtr i).setNextAddrIdx kind WHIP6_6LOWPAN_INVALID_LINK_IDX
      table'.setLink i { link with flags := link.flags &&& ~~~kind.flag } := by
  have hmem : i ∈ chain kind b := by simp [hi]
  obtain ⟨hlt, hkind, hb⟩ := h.placed.mem_chain kind b i hmem
  have hflag : ¬(table.linkPoolPtr i).flags &&& kind.flag = 0 := by
    rw [hkind.and_flag]
    cases kind <;> decide
  have hlen := h.length_chain_le kind b
  have hnodup := h.placed.nodup_chain kind b
  have hseg := h.threaded.chains kind b (h.bucket_lt hmem)
  rw [hi] at hlen hnodup hseg
  simp only [List.length_append, List.length_cons] at hlen
  have hfind : findFrom (table.nextLink kind) (fun j => j == (table.linkPoolPtr i).idx.toNat)
      table.linkPoolLen.toNat none (table.linkAt (table.addrHashMap kind b)) =
        (l₁.getLast?, some i) := by
    rw [← Option.or_none (o := l₁.getLast?)]
    refine findFrom_of_split hseg (by omega) (fun j hj => ?_) ?_
    · rw [h.placed.idx i hlt, beq_eq_false_iff_ne]
      rintro rfl
      exact (List.nodup_append.mp hnodup).2.2 j hj j List.mem_cons_self rfl
    · rw [h.placed.idx i hlt, beq_self_eq_true]
  rw [LowpanLink.bucket] at hb
  rw [lowpanMeshLinkTableRemoveFromHashTable]
  simp only [if_neg hflag, hb, hfind]
  cases l₁.getLast? <;> rfl

/-- A link taken out of its chain, without its flag. -/
def takenOut (table : LowpanLinkTable) (kind : LinkAddrKind) (b : ℕ) (prev : Option ℕ) (i : ℕ) :
    LowpanLinkTable :=
  let table' := table.unlink kind b prev i
  let link := (table'.linkPoolPtr i).setNextAddrIdx kind WHIP6_6LOWPAN_INVALID_LINK_IDX
  table'.setLink i { link with flags := link.flags &&& ~~~kind.flag }

/-- Of the two hash tables only the one of the link's kind is changed. -/
theorem removeFromHashTables_eq (h : table.HasLists chain free [])
    (hi : chain kind b = l₁ ++ i :: l₂) :
    lowpanMeshLinkTableRemoveFromHashTableForShortAddr
        (lowpanMeshLinkTableRemoveFromHashTableForExtAddr table i) i =
      takenOut table kind b l₁.getLast? i := by
  have hmem : i ∈ chain kind b := by simp [hi]
  obtain ⟨hlt, hkind, -⟩ := h.placed.mem_chain kind b i hmem
  have heq := h.removeFromHashTable_eq hi
  rw [lowpanMeshLinkTableRemoveFromHashTableForShortAddr,
    lowpanMeshLinkTableRemoveFromHashTableForExtAddr]
  cases kind with
  | shrt =>
    have hext : lowpanMeshLinkTableRemoveFromHashTable .ext table i = table := by
      apply removeFromHashTable_of_flag
      rw [hkind.and_flag]
      decide
    rw [hext]
    exact heq
  | ext =>
    rw [heq]
    apply removeFromHashTable_of_flag
    have hshrt : (table.linkPoolPtr i).flags &&& LinkAddrKind.shrt.flag = 0 := by
      rw [hkind.and_flag]
      decide
    have hflags : ((table.unlink .ext b l₁.getLast? i).linkPoolPtr i).flags =
        (table.linkPoolPtr i).flags :=
      (sameApartFromNext_unlink table .ext b l₁.getLast? i i).flags
    rw [linkPoolPtr_setLink_self]
    change ((table.unlink .ext b l₁.getLast? i).linkPoolPtr i).flags &&& ~~~LinkAddrKind.ext.flag &&&
      LinkAddrKind.shrt.flag = 0
    rw [hflags, UInt8.and_assoc, UInt8.and_comm (~~~LinkAddrKind.ext.flag), ← UInt8.and_assoc,
      hshrt]
    rfl

theorem takenOut_hasLists (h : table.HasLists chain free []) (hi : chain kind b = l₁ ++ i :: l₂) :
    (takenOut table kind b l₁.getLast? i).HasLists (setChain chain kind b (l₁ ++ l₂)) free [i] := by
  have hunlink := h.unlink hi
  have hlt := (hunlink.placed.mem_hand i (List.mem_singleton.mpr rfl)).1
  refine hunlink.setHand (List.mem_singleton.mpr rfl) ?_ ?_
  · exact (LowpanLink.sameApartFromNext_setNextAddrIdx _ kind _).idx
  · cases kind with
    | ext => exact Or.inr rfl
    | shrt => exact hunlink.threaded.next i hlt

theorem takenOut_frame (table : LowpanLinkTable) (kind : LinkAddrKind) (b : ℕ) (prev : Option ℕ)
    (i : ℕ) :
    (∀ j, j ≠ i →
      (table.linkPoolPtr j).SameApartFromNext ((takenOut table kind b prev i).linkPoolPtr j)) ∧
      (takenOut table kind b prev i).linkPoolLen = table.linkPoolLen ∧
      (takenOut table kind b prev i).addrHashMapLen = table.addrHashMapLen := by
  obtain ⟨hlen, hmap, -⟩ := unlink_lens table kind b prev i
  refine ⟨fun j hj => ?_, hlen, hmap⟩
  rw [takenOut, linkPoolPtr_setLink_of_ne _ _ hj]
  exact sameApartFromNext_unlink table kind b prev i j

/-- What allocating the first free link for a new address leaves. -/
theorem allocateLink {addr : Ieee154Addr} (h : table.HasLists chain (i :: free) [])
    (hk : addr.kind? = some kind)
    (hb : (lowpanMeshLinkTableHashAddr addr.bytes (table.addrHashMapLen kind)).toNat = b)
    (hnew : ∀ j ∈ chain kind b, (table.linkPoolPtr j).addr kind ≠ addr) :
    let r := lowpanMeshLinkTableAllocateLink kind table addr
    r.1.toNat = i ∧ r.1 = table.firstLinkInPool ∧ i < table.linkPoolLen.toNat ∧
      r.2.HasLists (setChain chain kind b (i :: chain kind b)) free [] ∧
      (∀ j, j ≠ i → r.2.linkPoolPtr j = table.linkPoolPtr j) ∧
      (r.2.linkPoolPtr i).HasKind kind ∧ (r.2.linkPoolPtr i).addr kind = addr ∧
      r.2.linkPoolLen = table.linkPoolLen ∧ r.2.addrHashMapLen = table.addrHashMapLen := by
  obtain ⟨hlt, -⟩ := h.placed.mem_free i List.mem_cons_self
  have hfirst : table.firstLinkInPool.toNat = i := by
    have hhead := h.threaded.freeList.1
    rw [linkAt] at hhead
    split_ifs at hhead
    exact Option.some.inj hhead
  obtain ⟨hkind, haddr, hnext, hnextExt⟩ := LowpanLink.allocate_spec (table.linkPoolPtr i) hk
    (table.addrHashMap kind b)
  have hblt : b < (table.addrHashMapLen kind).toNat := by
    rw [← hb, lowpanMeshLinkTableHashAddr, UInt8.toNat_mod]
    exact Nat.mod_lt _ (h.placed.hashMapLen kind)
  -- The link is taken off the free list, set up, and put into its chain.
  have hpop : { table with
      firstLinkInPool := (table.linkPoolPtr i).nextExtAddrIdx }.HasLists chain free [i] :=
    ⟨h.placed.popFree.congr rfl rfl fun j => LowpanLink.SameApartFromNext.refl _,
      h.threaded.popFree hlt⟩
  have hhand : ({ table with
      firstLinkInPool := (table.linkPoolPtr i).nextExtAddrIdx }.setLink i
        ((table.linkPoolPtr i).allocate addr (table.addrHashMap kind b))).HasLists chain free [i] := by
    apply hpop.setHand (List.mem_singleton.mpr rfl)
    · exact LowpanLink.allocate_idx _ _ _
    · rcases hnextExt with rfl | hinv
      · have hok : table.IdxOk (table.addrHashMap .ext b) := h.threaded.bucket b hblt
        rw [← hnext] at hok
        exact hok
      · exact Or.inr hinv
  have hnot := (hhand.placed.mem_hand i (List.mem_singleton.mpr rfl)).2.2
  rw [lowpanMeshLinkTableAllocateLink, hfirst, hb]
  generalize hlink : (table.linkPoolPtr i).allocate addr (table.addrHashMap kind b) = link at *
  refine ⟨hfirst, rfl, hlt, ⟨?_, ?_⟩, fun j hj => ?_, ?_, ?_, ?_, ?_⟩
  · refine (hhand.placed.pushChain ?_ ?_ ?_).congr (linkPoolLen_setBucket _ _ _ _)
      (addrHashMapLen_setBucket _ _ _ _) fun j => ?_
    · rw [linkPoolPtr_setLink_self]
      exact hkind
    · rw [linkPoolPtr_setLink_self, LowpanLink.bucket, haddr, ← hb]
      cases kind <;> rfl
    · intro j hj
      have hji : j ≠ i := fun heq => hnot kind b (heq ▸ hj)
      rw [linkPoolPtr_setLink_self, haddr, linkPoolPtr_setLink_of_ne _ _ hji]
      exact hnew j hj
    · rw [linkPoolPtr_setBucket]
      exact LowpanLink.SameApartFromNext.refl _
  · refine hhand.threaded.pushChain table.firstLinkInPool hfirst hlt ?_
    rw [linkPoolPtr_setLink_self, hnext]
    cases kind <;> rfl
  · dsimp only
    rw [linkPoolPtr_setBucket, linkPoolPtr_setLink_of_ne _ _ hj]
  · dsimp only
    rw [linkPoolPtr_setBucket, linkPoolPtr_setLink_self]
    exact hkind
  · dsimp only
    rw [linkPoolPtr_setBucket, linkPoolPtr_setLink_self]
    exact haddr
  · dsimp only
    rw [linkPoolLen_setBucket]
    rfl
  · dsimp only
    rw [addrHashMapLen_setBucket]
    cases kind <;> rfl

/-- What removing a link leaves. -/
theorem removeExistingLink {index : UInt8} (h : table.HasLists chain free [])
    (hi : index.toNat ∈ chain kind b) :
    ∃ l₁ l₂, chain kind b = l₁ ++ index.toNat :: l₂ ∧
      let table' := lowpanMeshLinkTableRemoveExistingLink table index
      table'.HasLists (setChain chain kind b (l₁ ++ l₂)) (index.toNat :: free) [] ∧
        (∀ j, j ≠ index.toNat →
          (table.linkPoolPtr j).SameApartFromNext (table'.linkPoolPtr j)) ∧
        (table'.linkPoolPtr index.toNat).flags = 0 ∧ table'.firstLinkInPool = index ∧
        table'.linkPoolLen = table.linkPoolLen ∧
        table'.addrHashMapLen = table.addrHashMapLen := by
  obtain ⟨l₁, l₂, hsplit⟩ := List.append_of_mem hi
  obtain ⟨hlt, hkind, -⟩ := h.placed.mem_chain kind b _ hi
  refine ⟨l₁, l₂, hsplit, ?_⟩
  have hout := h.takenOut_hasLists hsplit
  obtain ⟨hother, hlen, hmap⟩ := takenOut_frame table kind b l₁.getLast? index.toNat
  have hge : ¬index ≥ table.linkPoolLen := by
    rw [ge_iff_le, UInt8.le_iff_toNat_le]
    omega
  rw [lowpanMeshLinkTableRemoveExistingLink, if_neg hge, if_neg (by simp [hkind.isAllocated])]
  simp only [h.removeFromHashTables_eq hsplit]
  generalize takenOut table kind b l₁.getLast? index.toNat = table₁ at *
  have hhand : (table₁.setLink index.toNat { table₁.linkPoolPtr index.toNat with
      flags := 0
      nextExtAddrIdx := table₁.firstLinkInPool }).HasLists (setChain chain kind b (l₁ ++ l₂)) free
        [index.toNat] := by
    apply hout.setHand (List.mem_singleton.mpr rfl)
    · rfl
    · exact hout.threaded.first
  refine ⟨⟨?_, ?_⟩, ?_, ?_, trivial, hlen, hmap⟩
  · refine (hhand.placed.pushFree ?_).congr rfl rfl fun j => LowpanLink.SameApartFromNext.refl _
    rw [linkPoolPtr_setLink_self]
    simp [lowpanMeshLinkTableIsLinkAllocatedInternal]
  · refine hhand.threaded.pushFree index rfl ?_ ?_
    · exact hlen ▸ hlt
    · rw [linkPoolPtr_setLink_self]
      rfl
  · intro j hj
    rw [linkPoolPtr_setLink_of_ne _ _ hj]
    exact hother j hj
  · rw [linkPoolPtr_setLink_self]

/-! ## Looking up -/

/-- The search of a lookup in a chain. -/
theorem findFrom_chain (h : table.HasLists chain free [])
    (hb : b < (table.addrHashMapLen kind).toNat) (same : LowpanLink → Bool) :
    (∃ i ∈ chain kind b, same (table.linkPoolPtr i) = true ∧
      (findFrom (table.nextLink kind) (fun j => same (table.linkPoolPtr j)) table.linkPoolLen.toNat
        none (table.linkAt (table.addrHashMap kind b))).2 = some i) ∨
    (∀ i ∈ chain kind b, same (table.linkPoolPtr i) = false) ∧
      (findFrom (table.nextLink kind) (fun j => same (table.linkPoolPtr j)) table.linkPoolLen.toNat
        none (table.linkAt (table.addrHashMap kind b))).2 = none := by
  have hseg := h.threaded.chains kind b hb
  have hlen := h.length_chain_le kind b
  cases hfind : (chain kind b).find? fun j => same (table.linkPoolPtr j) with
  | none =>
    have hall : ∀ i ∈ chain kind b, same (table.linkPoolPtr i) = false := by
      intro i hi
      simpa using List.find?_eq_none.mp hfind i hi
    exact Or.inr ⟨hall, findFrom_of_forall hseg hlen hall⟩
  | some i =>
    obtain ⟨l₁, l₂, hsplit, -, hi, hl₁⟩ := exists_split_of_find? hfind
    have hmem : i ∈ chain kind b := by simp [hsplit]
    rw [hsplit] at hseg hlen
    simp only [List.length_append, List.length_cons] at hlen
    refine Or.inl ⟨i, hmem, hi, ?_⟩
    rw [findFrom_of_split hseg (by omega) hl₁ hi]

/-- A lookup finds the link of its chain that has the address, if there is one. -/
theorem lookupLink {addr : Ieee154Addr} (h : table.HasLists chain free [])
    (hk : addr.kind? = some kind)
    (hb : (lowpanMeshLinkTableHashAddr addr.bytes (table.addrHashMapLen kind)).toNat = b) :
    (∃ i ∈ chain kind b, (table.linkPoolPtr i).addr kind = addr ∧
      lowpanMeshLinkTableLookupLink table addr = UInt8.ofNat i) ∨
    (∀ i ∈ chain kind b, (table.linkPoolPtr i).addr kind ≠ addr) ∧
      lowpanMeshLinkTableLookupLink table addr = WHIP6_6LOWPAN_INVALID_LINK_IDX := by
  have hblt : b < (table.addrHashMapLen kind).toNat := by
    rw [← hb, lowpanMeshLinkTableHashAddr, UInt8.toNat_mod]
    exact Nat.mod_lt _ (h.placed.hashMapLen kind)
  have hfound : ∀ same : LowpanLink → Bool, (∀ link, same link = true ↔ link.addr kind = addr) →
      lowpanMeshLinkTableLookupLink table addr =
        (match (findFrom (table.nextLink kind) (fun j => same (table.linkPoolPtr j))
          table.linkPoolLen.toNat none (table.linkAt (table.addrHashMap kind b))).2 with
        | none => WHIP6_6LOWPAN_INVALID_LINK_IDX
        | some j => UInt8.ofNat j) →
      (∃ i ∈ chain kind b, (table.linkPoolPtr i).addr kind = addr ∧
        lowpanMeshLinkTableLookupLink table addr = UInt8.ofNat i) ∨
      (∀ i ∈ chain kind b, (table.linkPoolPtr i).addr kind ≠ addr) ∧
        lowpanMeshLinkTableLookupLink table addr = WHIP6_6LOWPAN_INVALID_LINK_IDX := by
    intro same hsame hlookup
    rcases h.findFrom_chain hblt same with ⟨i, hi, hmatch, hfind⟩ | ⟨hall, hfind⟩
    · refine Or.inl ⟨i, hi, (hsame _).mp hmatch, ?_⟩
      rw [hlookup, hfind]
    · refine Or.inr ⟨fun i hi heq => ?_, ?_⟩
      · exact absurd ((hsame _).mpr heq) (by rw [hall i hi]; exact Bool.false_ne_true)
      · rw [hlookup, hfind]
  subst hb
  cases addr with
  | none => cases hk
  | shrt shrt =>
    obtain rfl : LinkAddrKind.shrt = kind := Option.some.inj hk
    refine hfound (fun link =>
      shortMemCmp shrt.toList link.shrtAddr.toList IEEE154_SHORT_ADDR_BYTE_LENGTH == 0) ?_ rfl
    intro link
    rw [beq_iff_eq, LowpanLink.addr, Ieee154Addr.shrt.injEq, eq_comm (a := link.shrtAddr)]
    exact shortMemCmp_toList_eq_zero_iff shrt link.shrtAddr
  | ext ext =>
    obtain rfl : LinkAddrKind.ext = kind := Option.some.inj hk
    refine hfound (fun link =>
      shortMemCmp ext.toList link.extAddr.toList IEEE154_EXT_ADDR_BYTE_LENGTH == 0) ?_ rfl
    intro link
    rw [beq_iff_eq, LowpanLink.addr, Ieee154Addr.ext.injEq, eq_comm (a := link.extAddr)]
    exact shortMemCmp_toList_eq_zero_iff ext link.extAddr

/-- In a table at rest every allocated link is in the chain of its address. -/
theorem mem_chain_of_isAllocated (h : table.HasLists chain free [])
    (hlt : i < table.linkPoolLen.toNat)
    (hi : lowpanMeshLinkTableIsLinkAllocatedInternal (table.linkPoolPtr i) = true) :
    ∃ kind, i ∈ chain kind
      ((table.linkPoolPtr i).bucket kind (table.addrHashMapLen kind)) := by
  rcases h.placed.cover i hlt with hmem | hmem | ⟨kind, b, hmem⟩
  · cases hmem
  · rw [(h.placed.mem_free i hmem).2] at hi
    cases hi
  · refine ⟨kind, ?_⟩
    rwa [(h.placed.mem_chain kind b i hmem).2.2]

end HasLists

/-- Link `i` is allocated with an address. -/
def IsLink (table : LowpanLinkTable) (i : ℕ) (addr : Ieee154Addr) : Prop :=
  i < table.linkPoolLen.toNat ∧ ∃ kind, addr.kind? = some kind ∧
    (table.linkPoolPtr i).HasKind kind ∧ (table.linkPoolPtr i).addr kind = addr

variable {table table' : LowpanLinkTable} {chain : LinkAddrKind → ℕ → List ℕ} {free : List ℕ}
  {kind : LinkAddrKind} {addr : Ieee154Addr} {b i j : ℕ}

theorem IsLink.isAllocated (h : table.IsLink i addr) :
    lowpanMeshLinkTableIsLinkAllocatedInternal (table.linkPoolPtr i) = true := by
  obtain ⟨-, kind, -, hkind, -⟩ := h
  exact hkind.isAllocated

theorem isLink_congr (hlen : table'.linkPoolLen = table.linkPoolLen)
    (hlink : (table.linkPoolPtr i).SameKey (table'.linkPoolPtr i)) :
    table'.IsLink i addr ↔ table.IsLink i addr := by
  rw [IsLink, IsLink, hlen, hlink.addr]
  simp only [hlink.hasKind_iff]

theorem IsLink.congr (h : table.IsLink i addr) (hlen : table'.linkPoolLen = table.linkPoolLen)
    (hlink : (table.linkPoolPtr i).SameApartFromNext (table'.linkPoolPtr i)) :
    table'.IsLink i addr :=
  (isLink_congr hlen hlink.sameKey).mpr h

namespace HasLists

/-- The chains hold exactly the allocated links. -/
theorem isLink_iff (h : table.HasLists chain free []) (hk : addr.kind? = some kind)
    (hb : (lowpanMeshLinkTableHashAddr addr.bytes (table.addrHashMapLen kind)).toNat = b) :
    table.IsLink i addr ↔ i ∈ chain kind b ∧ (table.linkPoolPtr i).addr kind = addr := by
  constructor
  · rintro ⟨hlt, kind', hk', hkind', haddr⟩
    obtain rfl : kind = kind' := Option.some.inj (hk.symm.trans hk')
    obtain ⟨kind'', hmem⟩ := h.mem_chain_of_isAllocated hlt hkind'.isAllocated
    obtain rfl := (h.placed.mem_chain _ _ i hmem).2.1.unique hkind'
    rw [LowpanLink.bucket, haddr, hb] at hmem
    exact ⟨hmem, haddr⟩
  · rintro ⟨hmem, haddr⟩
    obtain ⟨hlt, hkind, -⟩ := h.placed.mem_chain kind b i hmem
    exact ⟨hlt, kind, hk, hkind, haddr⟩

/-- No two allocated links have the same address. -/
theorem isLink_unique (h : table.HasLists chain free []) (hi : table.IsLink i addr)
    (hj : table.IsLink j addr) : i = j := by
  have hi' := hi
  obtain ⟨-, kind, hk, -, -⟩ := hi'
  obtain ⟨hmem, haddr⟩ := (h.isLink_iff hk rfl).mp hi
  obtain ⟨hmem', haddr'⟩ := (h.isLink_iff hk rfl).mp hj
  exact List.inj_on_of_nodup_map (h.placed.nodup_addr kind _) hmem hmem' (haddr.trans haddr'.symm)

/-- A lookup returns the link with the address, or the invalid index if there is none. -/
theorem lookupLink_cases (h : table.HasLists chain free []) (addr : Ieee154Addr) :
    (∃ i, table.IsLink i addr ∧ lowpanMeshLinkTableLookupLink table addr = UInt8.ofNat i) ∨
      (∀ i, ¬table.IsLink i addr) ∧
        lowpanMeshLinkTableLookupLink table addr = WHIP6_6LOWPAN_INVALID_LINK_IDX := by
  cases hk : addr.kind? with
  | none =>
    refine Or.inr ⟨?_, ?_⟩
    · rintro i ⟨-, kind, hk', -⟩
      rw [hk] at hk'
      cases hk'
    · cases addr with
      | none => rfl
      | shrt shrt => cases hk
      | ext ext => cases hk
  | some kind =>
    rcases h.lookupLink hk rfl with ⟨i, hmem, haddr, hlookup⟩ | ⟨hall, hlookup⟩
    · exact Or.inl ⟨i, (h.isLink_iff hk rfl).mpr ⟨hmem, haddr⟩, hlookup⟩
    · refine Or.inr ⟨fun i hi => ?_, hlookup⟩
      obtain ⟨hmem, haddr⟩ := (h.isLink_iff hk rfl).mp hi
      exact hall i hmem haddr

theorem lookupLink_of_isLink (h : table.HasLists chain free []) (hi : table.IsLink i addr) :
    lowpanMeshLinkTableLookupLink table addr = UInt8.ofNat i := by
  rcases h.lookupLink_cases addr with ⟨j, hj, hlookup⟩ | ⟨hall, -⟩
  · rw [hlookup, h.isLink_unique hi hj]
  · exact absurd hi (hall i)

end HasLists

end LowpanLinkTable

end Whip6
