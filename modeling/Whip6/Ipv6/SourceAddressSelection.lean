import Whip6.Ipv6.InterfaceState

/-!
# Source address selection

The scan keeps the best address so far with its scope.  The length of its common prefix with the
destination is compared with but never kept: among the addresses of the best scope the last one
that shares a byte with the destination wins, unless only the first one does.
-/

namespace Whip6

/-- What the scan has found so far. -/
structure BestAddr where
  bestAddr : Option Ipv6Addr
  bestScope : UInt8
  bestPrefix : UInt8
  deriving DecidableEq

/-- One round of the scan.  The prefix of the best address is not updated. -/
def findBestStep (inAddr : Ipv6Addr) (scopeLimit : UInt8) (best : BestAddr) (addr : Ipv6Addr) :
    BestAddr :=
  let currScope := ipv6AddrGetScope addr.toList
  if scopeLimit ≤ currScope ∧ currScope ≤ best.bestScope then
    if best.bestScope = currScope then
      let prefMatch := ipv6AddrGetCommonPrefixLengthInBytes inAddr addr
      if best.bestPrefix < prefMatch then { best with bestAddr := some addr } else best
    else { best with bestScope := currScope, bestAddr := some addr }
  else best

/-- The scope of the address found, and the buffer for it. -/
def ipv6AddrFindBestInArrayOfGenericInterfaceAddrs (inAddr outAddr : Ipv6Addr)
    (addrArrPtr : Option (List Ipv6Addr)) (addrArrLen : UInt8) (scopeLimit : UInt8) :
    UInt8 × Ipv6Addr :=
  match addrArrPtr with
  | none => (IPV6_ADDRESS_SCOPE_MAX_RESERVED, outAddr)
  | some arr =>
    let best := (arr.take addrArrLen.toNat).foldl (findBestStep inAddr scopeLimit)
      ⟨none, IPV6_ADDRESS_SCOPE_MAX_RESERVED, 0⟩
    (best.bestScope, best.bestAddr.getD outAddr)

/-- Whether there is a source address, and the buffer for it. -/
def ipv6InterfaceGetBestSrcAddrForDstAddr (ifaceState : Ipv6NetIfaceIeee154State)
    (srcAddr dstAddr : Ipv6Addr) : Bool × Ipv6Addr :=
  if ipv6AddrIsUndefined dstAddr.toList then (false, srcAddr)
  else
    let dstScope := ipv6AddrGetScope dstAddr.toList
    if dstScope = IPV6_ADDRESS_SCOPE_LINK_LOCAL ∧ ipv6InterfaceGetType ifaceState.genericState =
        WHIP6_IPV6_NET_IFACE_GENERIC_STATE_TYPE_LOOPBACK then
      (true, ipv6AddrSetLoopbackAddr)
    else if dstScope = IPV6_ADDRESS_SCOPE_LINK_LOCAL ∧ ipv6InterfaceGetType ifaceState.genericState =
        WHIP6_IPV6_NET_IFACE_GENERIC_STATE_TYPE_IEEE154 then
      (true, ipv6AddrGetAutoconfiguredLinkLocalAddressOfIeee154InterfaceBest ifaceState srcAddr)
    else
      let found := ipv6AddrFindBestInArrayOfGenericInterfaceAddrs dstAddr srcAddr
        ifaceState.genericState.unicastAddrArrPtr ifaceState.genericState.unicastAddrArrLen dstScope
      (found.1 ≠ IPV6_ADDRESS_SCOPE_MAX_RESERVED, found.2)

/-! ## Common prefixes -/

/-- The number of leading bytes two addresses have in common. -/
def commonPrefixLength (addr1 addr2 : Ipv6Addr) : ℕ :=
  ((addr1.toList.zip addr2.toList).takeWhile fun p => p.1 == p.2).length

theorem commonPrefixLoop_toNat (ptr1 ptr2 : List UInt8) (i : UInt8)
    (h : i.toNat + ptr1.length < 256) :
    (commonPrefixLoop ptr1 ptr2 i).toNat =
      i.toNat + ((ptr1.zip ptr2).takeWhile fun p => p.1 == p.2).length := by
  induction ptr1 generalizing ptr2 i with
  | nil => simp [commonPrefixLoop]
  | cons b1 ptr1 ih =>
    cases ptr2 with
    | nil => simp [commonPrefixLoop]
    | cons b2 ptr2 =>
      rw [List.length_cons] at h
      have hstep : (i + 1).toNat = i.toNat + 1 := by
        rw [UInt8.toNat_add, UInt8.toNat_one]
        exact Nat.mod_eq_of_lt (by omega)
      rw [commonPrefixLoop, List.zip_cons_cons, List.takeWhile_cons]
      by_cases hb : b1 = b2
      · rw [if_neg (not_not_intro hb), if_pos (beq_iff_eq.mpr hb), ih ptr2 (i + 1) (by omega),
          hstep, List.length_cons]
        omega
      · rw [if_pos hb, if_neg fun h => hb (beq_iff_eq.mp h)]
        rfl

theorem commonPrefix_toNat (addr1 addr2 : Ipv6Addr) :
    (ipv6AddrGetCommonPrefixLengthInBytes addr1 addr2).toNat = commonPrefixLength addr1 addr2 := by
  rw [ipv6AddrGetCommonPrefixLengthInBytes, commonPrefixLoop_toNat _ _ _ (by simp)]
  simp [commonPrefixLength]

/-- No scope is above the reserved one. -/
theorem getScope_le (addr : List UInt8) : ipv6AddrGetScope addr ≤ 15 := by
  rw [ipv6AddrGetScope]
  split_ifs
  · exact UInt8.and_le_right
  all_goals decide

/-! ## The scan -/

/-- The scope of an address, as a number. -/
def scopeOf (addr : Ipv6Addr) : ℕ := (ipv6AddrGetScope addr.toList).toNat

theorem scopeOf_le (addr : Ipv6Addr) : scopeOf addr ≤ 15 :=
  UInt8.le_iff_toNat_le.mp (getScope_le addr.toList)

/-- The addresses of a scope, in their order. -/
def ofScope (addrs : List Ipv6Addr) (scope : ℕ) : List Ipv6Addr :=
  addrs.filter fun addr => scopeOf addr = scope

/-- The address shares no byte at its beginning with the destination. -/
def SharesNone (dst addr : Ipv6Addr) : Prop := commonPrefixLength dst addr = 0

/-- The scan is at the last address of these that shares a byte with the destination, or at the
first one of all. -/
def AtLastSharing (dst : Ipv6Addr) (addrs : List Ipv6Addr) (addr : Ipv6Addr) : Prop :=
  ∃ front back, addrs = front ++ addr :: back ∧ (front = [] ∨ ¬ SharesNone dst addr) ∧
    ∀ a ∈ back, SharesNone dst a

/-- What the scan has found in the addresses it has seen. -/
structure Found (dst : Ipv6Addr) (limit : ℕ) (seen : List Ipv6Addr) (best : BestAddr) :
    Prop where
  bestPrefix : best.bestPrefix = 0
  limit_le : limit ≤ best.bestScope.toNat
  le : ∀ addr ∈ seen, limit ≤ scopeOf addr → best.bestScope.toNat ≤ scopeOf addr
  best : best.bestScope.toNat = 15 ∧
      (best.bestAddr = none ↔ ∀ addr ∈ seen, scopeOf addr = 15 → SharesNone dst addr) ∨
    best.bestScope.toNat < 15 ∧
      ∃ addr ∈ best.bestAddr, AtLastSharing dst (ofScope seen best.bestScope.toNat) addr

theorem ofScope_append_self {seen : List Ipv6Addr} {addr : Ipv6Addr} {scope : ℕ}
    (h : scopeOf addr = scope) : ofScope (seen ++ [addr]) scope = ofScope seen scope ++ [addr] := by
  simp [ofScope, h]

theorem ofScope_append_other {seen : List Ipv6Addr} {addr : Ipv6Addr} {scope : ℕ}
    (h : scopeOf addr ≠ scope) : ofScope (seen ++ [addr]) scope = ofScope seen scope := by
  simp [ofScope, h]

theorem ofScope_eq_nil {seen : List Ipv6Addr} {scope : ℕ}
    (h : ∀ addr ∈ seen, scopeOf addr ≠ scope) : ofScope seen scope = [] := by
  simpa [ofScope] using h

theorem atLastSharing_singleton (dst addr : Ipv6Addr) : AtLastSharing dst [addr] addr :=
  ⟨[], [], rfl, .inl rfl, fun _ ha => absurd ha List.not_mem_nil⟩

theorem AtLastSharing.append_sharesNone {dst addr new : Ipv6Addr} {addrs : List Ipv6Addr}
    (h : AtLastSharing dst addrs addr) (hnew : SharesNone dst new) :
    AtLastSharing dst (addrs ++ [new]) addr := by
  obtain ⟨front, back, rfl, hfront, hback⟩ := h
  refine ⟨front, back ++ [new], by simp, hfront, ?_⟩
  simpa [or_imp, forall_and, hnew] using hback

theorem atLastSharing_append {dst new : Ipv6Addr} (addrs : List Ipv6Addr)
    (hnew : ¬ SharesNone dst new) : AtLastSharing dst (addrs ++ [new]) new :=
  ⟨addrs, [], rfl, .inr hnew, fun _ ha => absurd ha List.not_mem_nil⟩

theorem bestPrefix_lt_iff (dst addr : Ipv6Addr) :
    (0 : UInt8) < ipv6AddrGetCommonPrefixLengthInBytes dst addr ↔ ¬ SharesNone dst addr := by
  rw [UInt8.lt_iff_toNat_lt, commonPrefix_toNat, SharesNone]
  exact Nat.pos_iff_ne_zero

namespace Found

variable {dst : Ipv6Addr} {limit : UInt8} {seen : List Ipv6Addr} {best : BestAddr}

/-- An address below the limit or above the best scope changes nothing. -/
theorem skip (h : Found dst limit.toNat seen best) {addr : Ipv6Addr}
    (hout : limit.toNat ≤ scopeOf addr → best.bestScope.toNat < scopeOf addr) :
    Found dst limit.toNat (seen ++ [addr]) best := by
  have hlimit := h.limit_le
  have hne : scopeOf addr ≠ best.bestScope.toNat := fun heq => by
    have := hout (by omega)
    omega
  refine ⟨h.bestPrefix, hlimit, ?_, ?_⟩
  · intro a ha hlim
    rcases List.mem_append.mp ha with ha | ha
    · exact h.le a ha hlim
    · rw [List.mem_singleton.mp ha] at hlim ⊢
      exact (hout hlim).le
  · rcases h.best with ⟨h15, hnone⟩ | hfound
    · refine .inl ⟨h15, hnone.trans ?_⟩
      have hne15 : scopeOf addr ≠ 15 := fun hsc => hne (hsc.trans h15.symm)
      simp [or_imp, forall_and, hne15]
    · rw [ofScope_append_other hne]
      exact .inr hfound

/-- Another address of the best scope. -/
theorem another (h : Found dst limit.toNat seen best) {addr : Ipv6Addr}
    (heq : scopeOf addr = best.bestScope.toNat) :
    Found dst limit.toNat (seen ++ [addr])
      (if (0 : UInt8) < ipv6AddrGetCommonPrefixLengthInBytes dst addr then
        { best with bestAddr := some addr } else best) := by
  have hle : ∀ a ∈ seen ++ [addr], limit.toNat ≤ scopeOf a → best.bestScope.toNat ≤ scopeOf a := by
    intro a ha hlim
    rcases List.mem_append.mp ha with ha | ha
    · exact h.le a ha hlim
    · rw [List.mem_singleton.mp ha, heq]
  by_cases hshares : SharesNone dst addr
  · rw [if_neg fun hlt => (bestPrefix_lt_iff dst addr).mp hlt hshares]
    refine ⟨h.bestPrefix, h.limit_le, hle, ?_⟩
    rcases h.best with ⟨h15, hnone⟩ | ⟨hlt, a, ha, hat⟩
    · refine .inl ⟨h15, hnone.trans ?_⟩
      simp [or_imp, forall_and, hshares]
    · rw [ofScope_append_self heq]
      exact .inr ⟨hlt, a, ha, hat.append_sharesNone hshares⟩
  · rw [if_pos ((bestPrefix_lt_iff dst addr).mpr hshares)]
    refine ⟨h.bestPrefix, h.limit_le, hle, ?_⟩
    rcases h.best with ⟨h15, -⟩ | ⟨hlt, -⟩
    · refine .inl ⟨h15, iff_of_false (by simp) fun hall => hshares ?_⟩
      exact hall addr (by simp) (heq.trans h15)
    · dsimp only
      rw [ofScope_append_self heq]
      exact .inr ⟨hlt, addr, rfl, atLastSharing_append _ hshares⟩

/-- An address of a smaller scope. -/
theorem better (h : Found dst limit.toNat seen best) {addr : Ipv6Addr}
    (hlimit : limit.toNat ≤ scopeOf addr) (hlt : scopeOf addr < best.bestScope.toNat) :
    Found dst limit.toNat (seen ++ [addr])
      { best with bestScope := ipv6AddrGetScope addr.toList, bestAddr := some addr } := by
  have hbest : best.bestScope.toNat ≤ 15 := by
    rcases h.best with ⟨h15, -⟩ | ⟨h15, -⟩ <;> omega
  refine ⟨h.bestPrefix, hlimit, ?_, .inr ⟨?_, addr, rfl, ?_⟩⟩
  · intro a ha hlim
    rcases List.mem_append.mp ha with ha | ha
    · exact hlt.le.trans (h.le a ha hlim)
    · rw [List.mem_singleton.mp ha]
      exact le_refl _
  · exact lt_of_lt_of_le hlt hbest
  · have hnil : ofScope seen (scopeOf addr) = [] := ofScope_eq_nil fun a ha hsc => by
      have := h.le a ha (hsc ▸ hlimit)
      omega
    show AtLastSharing dst (ofScope (seen ++ [addr]) (scopeOf addr)) addr
    rw [ofScope_append_self rfl, hnil]
    exact atLastSharing_singleton dst addr

/-- One round of the scan. -/
theorem step (h : Found dst limit.toNat seen best) (addr : Ipv6Addr) :
    Found dst limit.toNat (seen ++ [addr]) (findBestStep dst limit best addr) := by
  have hscope : (ipv6AddrGetScope addr.toList).toNat = scopeOf addr := rfl
  obtain ⟨bestAddr, bestScope, bestPrefix⟩ := best
  obtain rfl : bestPrefix = 0 := h.bestPrefix
  simp only [findBestStep, UInt8.le_iff_toNat_le, hscope]
  split_ifs with hin heq hlt
  · have hsame : scopeOf addr = bestScope.toNat := by rw [heq, hscope]
    have hother := h.another hsame
    rwa [if_pos hlt] at hother
  · have hsame : scopeOf addr = bestScope.toNat := by rw [heq, hscope]
    have hother := h.another hsame
    rwa [if_neg hlt] at hother
  · have hne : scopeOf addr ≠ bestScope.toNat :=
      fun hsc => heq (UInt8.toNat_inj.mp hsc.symm)
    exact h.better hin.1 (lt_of_le_of_ne hin.2 hne)
  · exact h.skip fun hlim => not_le.mp fun hle => hin ⟨hlim, hle⟩

end Found

/-- The whole scan. -/
theorem found_scan (dst : Ipv6Addr) {limit : UInt8} (hlimit : limit.toNat ≤ 15)
    (addrs : List Ipv6Addr) :
    Found dst limit.toNat addrs (addrs.foldl (findBestStep dst limit) ⟨none, 15, 0⟩) := by
  induction addrs using List.reverseRecOn with
  | nil => exact ⟨rfl, hlimit, by simp, .inl ⟨rfl, by simp⟩⟩
  | append_singleton addrs addr ih =>
    rw [List.foldl_append]
    exact ih.step addr

/-! ## The best source address -/

/-- The scope of the address is at least the destination's, and below the reserved one. -/
def Sufficient (dst addr : Ipv6Addr) : Prop := scopeOf dst ≤ scopeOf addr ∧ scopeOf addr < 15

instance (dst addr : Ipv6Addr) : Decidable (Sufficient dst addr) :=
  inferInstanceAs (Decidable (_ ∧ _))

/-- No sufficient scope among the addresses is smaller. -/
def NoSmaller (dst : Ipv6Addr) (addrs : List Ipv6Addr) (scope : ℕ) : Prop :=
  ∀ a ∈ addrs, Sufficient dst a → scope ≤ scopeOf a

instance (dst : Ipv6Addr) (addrs : List Ipv6Addr) (scope : ℕ) :
    Decidable (NoSmaller dst addrs scope) :=
  List.decidableBAll (fun a => Sufficient dst a → scope ≤ scopeOf a) addrs

/-- The addresses of the smallest sufficient scope, in their order. -/
def smallestSufficient (dst : Ipv6Addr) (addrs : List Ipv6Addr) : List Ipv6Addr :=
  addrs.filter fun addr => Sufficient dst addr ∧ NoSmaller dst addrs (scopeOf addr)

/-- What the choice of a source address has to do for a destination, whatever the buffer holds. -/
def SelectsBest (ifaceState : Ipv6NetIfaceIeee154State) (dst : Ipv6Addr) : Prop :=
  ∀ srcAddr,
    let addrs := ifaceState.genericState.unicastAddrs
    let res := ipv6InterfaceGetBestSrcAddrForDstAddr ifaceState srcAddr dst
    (res.1 = true ↔ ∃ addr ∈ addrs, Sufficient dst addr) ∧
    (res.1 = true → res.2 ∈ smallestSufficient dst addrs ∧
      ∀ addr ∈ smallestSufficient dst addrs,
        commonPrefixLength dst addr ≤ commonPrefixLength dst res.2) ∧
    (res.1 = false → res.2 = srcAddr)

/-- Of the addresses behind the first one, the last that shares a byte with the destination has
the longest prefix in common with it so far. -/
def LastSharingLongest (dst : Ipv6Addr) (addrs : List Ipv6Addr) : Prop :=
  ∀ front addr back, addrs = front ++ addr :: back → front ≠ [] → ¬ SharesNone dst addr →
    (∀ a ∈ back, SharesNone dst a) →
    ∀ a ∈ front, commonPrefixLength dst a ≤ commonPrefixLength dst addr

/-- The address the scan is at is the one with the longest prefix exactly under this condition. -/
theorem AtLastSharing.longest_iff {dst addr : Ipv6Addr} {addrs : List Ipv6Addr}
    (h : AtLastSharing dst addrs addr) :
    (∀ a ∈ addrs, commonPrefixLength dst a ≤ commonPrefixLength dst addr) ↔
      LastSharingLongest dst addrs := by
  obtain ⟨front, back, rfl, hfront, hback⟩ := h
  constructor
  · intro hall front' addr' back' hsplit hne' hshares' hback'
    have haddr' : addr' ∈ front ++ addr :: back := by rw [hsplit]; simp
    -- The two splits are at the same place.
    have heq : addr' = addr := by
      rcases List.append_eq_append_iff.mp hsplit with ⟨as, rfl, has⟩ | ⟨as, rfl, has⟩
      · cases as with
        | nil => exact ((List.cons.inj has).1).symm
        | cons a as =>
          have hin : addr' ∈ back := by rw [(List.cons.inj has).2]; simp
          exact absurd (hback addr' hin) hshares'
      · cases as with
        | nil => exact (List.cons.inj has).1
        | cons a as =>
          have hin : addr ∈ back' := by rw [(List.cons.inj has).2]; simp
          have hle := hall addr' haddr'
          rw [hback' addr hin, Nat.le_zero] at hle
          exact absurd hle hshares'
    subst heq
    intro a ha
    exact hall a (by rw [hsplit]; exact List.mem_append_left _ ha)
  · intro hlast a ha
    rcases List.mem_append.mp ha with ha | ha
    · have hne : front ≠ [] := List.ne_nil_of_mem ha
      exact hlast front addr back rfl hne (hfront.resolve_left hne) hback a ha
    · rcases List.mem_cons.mp ha with rfl | ha
      · exact le_refl _
      · rw [hback a ha]
        exact Nat.zero_le _

/-- The scope found is the smallest sufficient one. -/
theorem Found.ofScope_eq {dst : Ipv6Addr} {addrs : List Ipv6Addr} {best : BestAddr}
    (h : Found dst (scopeOf dst) addrs best) (hlt : best.bestScope.toNat < 15) :
    ofScope addrs best.bestScope.toNat = smallestSufficient dst addrs := by
  obtain ⟨-, found, hfound, front, back, hof, -, -⟩ :=
    h.best.resolve_left fun h15 => absurd h15.1 (by omega)
  have hmem : found ∈ ofScope addrs best.bestScope.toNat := by rw [hof]; simp
  obtain ⟨hin, hscope⟩ : found ∈ addrs ∧ scopeOf found = best.bestScope.toNat := by
    simpa [ofScope] using hmem
  have hlimit := h.limit_le
  apply List.filter_congr
  intro addr haddr
  rw [decide_eq_decide]
  constructor
  · intro hsc
    exact ⟨⟨by omega, by omega⟩, fun a ha hsuff => hsc ▸ h.le a ha hsuff.1⟩
  · rintro ⟨hsuff, hmin⟩
    have hle := hmin found hin ⟨by omega, by omega⟩
    have hge := h.le addr haddr hsuff.1
    omega

theorem Found.none_sufficient {dst : Ipv6Addr} {addrs : List Ipv6Addr} {best : BestAddr}
    (h : Found dst (scopeOf dst) addrs best) (h15 : best.bestScope.toNat = 15) :
    ¬ ∃ addr ∈ addrs, Sufficient dst addr := by
  rintro ⟨addr, haddr, hsuff⟩
  have := h.le addr haddr hsuff.1
  have := hsuff.2
  omega

theorem Found.exists_sufficient {dst : Ipv6Addr} {addrs : List Ipv6Addr} {best : BestAddr}
    (h : Found dst (scopeOf dst) addrs best) (hlt : best.bestScope.toNat < 15) :
    ∃ addr ∈ addrs, Sufficient dst addr := by
  obtain ⟨-, found, hfound, front, back, hof, -, -⟩ :=
    h.best.resolve_left fun h15 => absurd h15.1 (by omega)
  have hmem : found ∈ ofScope addrs best.bestScope.toNat := by rw [hof]; simp
  rw [h.ofScope_eq hlt] at hmem
  have hsuff := List.mem_filter.mp hmem
  exact ⟨found, hsuff.1, (of_decide_eq_true hsuff.2).1⟩

/-- The choice is a scan of the unicast addresses. -/
theorem getBest_eq (ifaceState : Ipv6NetIfaceIeee154State) (srcAddr : Ipv6Addr) {dst : Ipv6Addr}
    (hdef : ipv6AddrIsUndefined dst.toList = false)
    (hscope : ipv6AddrGetScope dst.toList ≠ IPV6_ADDRESS_SCOPE_LINK_LOCAL) :
    ipv6InterfaceGetBestSrcAddrForDstAddr ifaceState srcAddr dst =
      let best := ifaceState.genericState.unicastAddrs.foldl
        (findBestStep dst (ipv6AddrGetScope dst.toList)) ⟨none, 15, 0⟩
      (decide (best.bestScope ≠ 15), best.bestAddr.getD srcAddr) := by
  unfold ipv6InterfaceGetBestSrcAddrForDstAddr
  rw [hdef, if_neg (by simp), if_neg fun h => hscope h.1, if_neg fun h => hscope h.1]
  unfold ipv6AddrFindBestInArrayOfGenericInterfaceAddrs
    Ipv6NetIfaceGenericState.unicastAddrs
  cases ifaceState.genericState.unicastAddrArrPtr with
  | none =>
    rw [Option.getD_none, List.take_nil]
    rfl
  | some arr => rfl

/-- When the choice of a source address is the best one. -/
theorem getBestSrcAddr_selectsBest_iff (ifaceState : Ipv6NetIfaceIeee154State) {dst : Ipv6Addr}
    (hdef : ipv6AddrIsUndefined dst.toList = false)
    (hscope : ipv6AddrGetScope dst.toList ≠ IPV6_ADDRESS_SCOPE_LINK_LOCAL) :
    SelectsBest ifaceState dst ↔
      LastSharingLongest dst (smallestSufficient dst ifaceState.genericState.unicastAddrs) ∧
      ((∃ addr ∈ ifaceState.genericState.unicastAddrs, Sufficient dst addr) ∨
        ∀ addr ∈ ifaceState.genericState.unicastAddrs, scopeOf addr = 15 → SharesNone dst addr) := by
  unfold SelectsBest
  simp only [getBest_eq ifaceState _ hdef hscope]
  generalize ifaceState.genericState.unicastAddrs = addrs
  have hfound := found_scan dst (scopeOf_le dst) addrs
  change Found dst (scopeOf dst) addrs _ at hfound
  generalize addrs.foldl (findBestStep dst (ipv6AddrGetScope dst.toList)) ⟨none, 15, 0⟩ = best
    at hfound ⊢
  have h15iff : best.bestScope = 15 ↔ best.bestScope.toNat = 15 := UInt8.toNat_inj.symm
  rcases hfound.best with ⟨h15, hnone⟩ | ⟨hlt, addr, hbest, hat⟩
  · have hno := hfound.none_sufficient h15
    have hnil : smallestSufficient dst addrs = [] := by
      rw [smallestSufficient, List.filter_eq_nil_iff]
      exact fun a ha hsuff => hno ⟨a, ha, (of_decide_eq_true hsuff).1⟩
    have hlast : LastSharingLongest dst (smallestSufficient dst addrs) := by
      intro front a back hsplit
      rw [hnil] at hsplit
      exact absurd hsplit (by simp)
    rw [and_iff_right hlast, or_iff_right hno, ← hnone]
    have hfalse : decide (best.bestScope ≠ 15) = false := by
      rw [decide_eq_false_iff_not, not_not, h15iff]
      exact h15
    simp only [hfalse, Bool.false_eq_true, false_implies, true_implies, true_and, hno]
    constructor
    · intro hunchanged
      cases hb : best.bestAddr with
      | none => rfl
      | some a =>
        have h0 := hunchanged ipv6AddrSetUndefinedAddr
        have h1 := hunchanged ipv6AddrSetLoopbackAddr
        rw [hb, Option.getD_some] at h0 h1
        exact absurd (h0.symm.trans h1) (by decide)
    · intro hb srcAddr
      rw [hb]
      rfl
  · have hex := hfound.exists_sufficient hlt
    rw [hfound.ofScope_eq hlt] at hat
    have htrue : decide (best.bestScope ≠ 15) = true := by
      rw [decide_eq_true_eq, ne_eq, h15iff]
      omega
    have hin : addr ∈ smallestSufficient dst addrs := by
      obtain ⟨front, back, hsplit, -, -⟩ := hat
      rw [hsplit]
      simp
    rw [and_iff_left (.inl hex), ← hat.longest_iff, Option.mem_def.mp hbest]
    simp only [htrue, Option.getD_some, hex, hin, true_and, Bool.true_eq_false,
      false_implies, and_true, forall_const]

/-- An interface with these unicast addresses and no others. -/
def ifaceWith (addrs : List Ipv6Addr) : Ipv6NetIfaceIeee154State :=
  ⟨⟨0x10, 0, UInt8.ofNat addrs.length, 0, some addrs, none⟩, Vector.replicate 8 1,
    #v[0, 0], #v[0, 0]⟩

/-- `2001:db8::9` -/
def exampleDst : Ipv6Addr := #v[0x20, 0x01, 0x0d, 0xb8, 0, 0, 0, 0, 0, 0, 0, 0, 0, 0, 0, 9]

/-- `2003::1`, `2001:db8::1` and `2000::1` -/
def exampleAddrs : List Ipv6Addr :=
  [#v[0x20, 0x03, 0, 0, 0, 0, 0, 0, 0, 0, 0, 0, 0, 0, 0, 1],
    #v[0x20, 0x01, 0x0d, 0xb8, 0, 0, 0, 0, 0, 0, 0, 0, 0, 0, 0, 1],
    #v[0x20, 0x00, 0, 0, 0, 0, 0, 0, 0, 0, 0, 0, 0, 0, 0, 1]]

/-- With one address the choice is the best one. -/
theorem getBestSrcAddr_selectsBest_iff_one :
    SelectsBest (ifaceWith (exampleAddrs.take 1)) exampleDst := by
  apply (getBestSrcAddr_selectsBest_iff (ifaceWith (exampleAddrs.take 1))
    (by decide) (by decide)).mpr
  have hone : smallestSufficient exampleDst
      (ifaceWith (exampleAddrs.take 1)).genericState.unicastAddrs =
      [#v[0x20, 0x03, 0, 0, 0, 0, 0, 0, 0, 0, 0, 0, 0, 0, 0, 1]] := by
    decide +kernel
  refine ⟨?_, .inl ⟨#v[0x20, 0x03, 0, 0, 0, 0, 0, 0, 0, 0, 0, 0, 0, 0, 0, 1], by decide +kernel,
    by decide +kernel⟩⟩
  intro front addr back hsplit hne
  rw [hone, List.singleton_eq_append_iff] at hsplit
  rcases hsplit with ⟨rfl, -⟩ | ⟨-, hnil⟩
  · exact absurd rfl hne
  · exact absurd hnil (by simp)

/-- The last address is chosen, with one byte in common with the destination, and not the one
before it, with fifteen. -/
theorem getBestSrcAddr_misses_longest :
    ¬ SelectsBest (ifaceWith exampleAddrs) exampleDst := by
  intro h
  have hres : ipv6InterfaceGetBestSrcAddrForDstAddr (ifaceWith exampleAddrs)
      ipv6AddrSetUndefinedAddr exampleDst =
      (true, #v[0x20, 0x00, 0, 0, 0, 0, 0, 0, 0, 0, 0, 0, 0, 0, 0, 1]) := by decide +kernel
  have hbest := (h ipv6AddrSetUndefinedAddr).2.1
  rw [hres] at hbest
  have hlongest := (hbest rfl).2 #v[0x20, 0x01, 0x0d, 0xb8, 0, 0, 0, 0, 0, 0, 0, 0, 0, 0, 0, 1]
    (by decide +kernel)
  exact absurd hlongest (by decide +kernel)

end Whip6
