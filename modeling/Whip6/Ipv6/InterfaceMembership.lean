import Whip6.Ipv6.AddressSuffix

/-!
# The addresses of an interface

The tests for the multicast addresses of all nodes and of all routers look at four bytes of an
address: the pointer of their loops is never advanced.  They are exact for all but the addresses
that differ from a well-known one only in the bytes the loops do not reach, and with them the test
whether an address belongs to an interface.
-/

namespace Whip6

open scoped AddrByte

/-- `ff01::1` and `ff02::1` -/
def allNodesMulticast : List Ipv6Addr :=
  [#v[0xff, 0x01, 0, 0, 0, 0, 0, 0, 0, 0, 0, 0, 0, 0, 0, 0x01],
    #v[0xff, 0x02, 0, 0, 0, 0, 0, 0, 0, 0, 0, 0, 0, 0, 0, 0x01]]

/-- `ff01::2`, `ff02::2` and `ff05::2` -/
def allRoutersMulticast : List Ipv6Addr :=
  [#v[0xff, 0x01, 0, 0, 0, 0, 0, 0, 0, 0, 0, 0, 0, 0, 0, 0x02],
    #v[0xff, 0x02, 0, 0, 0, 0, 0, 0, 0, 0, 0, 0, 0, 0, 0, 0x02],
    #v[0xff, 0x05, 0, 0, 0, 0, 0, 0, 0, 0, 0, 0, 0, 0, 0, 0x02]]

/-- The bytes the loops do not reach are zero. -/
def MiddleZero (addr : Ipv6Addr) : Prop :=
  addr.get 3 = 0 ∧ addr.get 4 = 0 ∧ addr.get 5 = 0 ∧ addr.get 6 = 0 ∧ addr.get 7 = 0 ∧
    addr.get 8 = 0 ∧ addr.get 9 = 0 ∧ addr.get 10 = 0 ∧ addr.get 11 = 0 ∧ addr.get 12 = 0 ∧
    addr.get 13 = 0 ∧ addr.get 14 = 0

/-- The bytes the tests look at are those of a well-known address, with these scopes and this last
byte. -/
def LooksWellKnown (addr : Ipv6Addr) (scopes : List UInt8) (last : UInt8) : Prop :=
  addr.get 0 = 0xff ∧ addr.get 1 ∈ scopes ∧ addr.get 2 = 0 ∧ addr.get 15 = last

instance (addr : Ipv6Addr) : Decidable (MiddleZero addr) := inferInstanceAs (Decidable (_ ∧ _))

instance (addr : Ipv6Addr) (scopes : List UInt8) (last : UInt8) :
    Decidable (LooksWellKnown addr scopes last) :=
  inferInstanceAs (Decidable (_ ∧ _))

/-- The address is that of a foreign group, but looks like one of all nodes. -/
def NearAllNodes (addr : Ipv6Addr) : Prop := LooksWellKnown addr [1, 2] 1 ∧ ¬ MiddleZero addr

/-- The address is that of a foreign group, but looks like one of all routers. -/
def NearAllRouters (addr : Ipv6Addr) : Prop :=
  LooksWellKnown addr [1, 2, 5] 2 ∧ ¬ MiddleZero addr

/-! ## The tests -/

theorem isAllNodes_iff (addr : Ipv6Addr) :
    ipv6AddrIsAllNodesMulticast addr = true ↔ LooksWellKnown addr [1, 2] 1 := by
  unfold ipv6AddrIsAllNodesMulticast LooksWellKnown
  split_ifs with h
  · refine iff_of_false id ?_
    rintro ⟨h0, hscope, -, hlast⟩
    rcases h with h | h | h
    · exact h h0
    · exact h hlast
    · simp only [List.mem_cons, List.not_mem_nil, or_false] at hscope
      exact hscope.elim h.1 h.2
  · simp only [not_or, not_and_or, not_not] at h
    rw [zeroBytesLoop_eq, or_iff_right (by decide)]
    simp only [List.mem_cons, List.not_mem_nil, or_false]
    exact ⟨fun h2 => ⟨h.1, h.2.2, h2, h.2.1⟩, fun hlooks => hlooks.2.2.1⟩

theorem isAllRouters_iff (addr : Ipv6Addr) :
    ipv6AddrIsAllRoutersMulticast addr = true ↔ LooksWellKnown addr [1, 2, 5] 2 := by
  unfold ipv6AddrIsAllRoutersMulticast LooksWellKnown
  split_ifs with h
  · refine iff_of_false id ?_
    rintro ⟨h0, hscope, -, hlast⟩
    rcases h with h | h | h
    · exact h h0
    · exact h hlast
    · simp only [List.mem_cons, List.not_mem_nil, or_false] at hscope
      rcases hscope with hscope | hscope | hscope
      · exact h.1 hscope
      · exact h.2.1 hscope
      · exact h.2.2 hscope
  · simp only [not_or, not_and_or, not_not] at h
    rw [zeroBytesLoop_eq, or_iff_right (by decide)]
    simp only [List.mem_cons, List.not_mem_nil, or_false]
    exact ⟨fun h2 => ⟨h.1, h.2.2, h2, h.2.1⟩, fun hlooks => hlooks.2.2.1⟩

/-- The address of a scope and a last byte with zeros between them. -/
def groupAddr (last scope : UInt8) : Ipv6Addr :=
  #v[0xff, scope, 0, 0, 0, 0, 0, 0, 0, 0, 0, 0, 0, 0, 0, last]

theorem mem_groups_iff (addr : Ipv6Addr) (scopes : List UInt8) (last : UInt8) :
    addr ∈ scopes.map (groupAddr last) ↔ LooksWellKnown addr scopes last ∧ MiddleZero addr := by
  rw [List.mem_map]
  constructor
  · rintro ⟨scope, hscope, rfl⟩
    exact ⟨⟨rfl, hscope, rfl, rfl⟩, rfl, rfl, rfl, rfl, rfl, rfl, rfl, rfl, rfl, rfl, rfl, rfl⟩
  · rintro ⟨⟨h0, hscope, h2, h15⟩, h3, h4, h5, h6, h7, h8, h9, h10, h11, h12, h13, h14⟩
    refine ⟨addr.get 1, hscope, ?_⟩
    simp only [Vector.get_eq_getElem, Fin.isValue, Fin.coe_ofNat_eq_mod, Nat.reduceMod] at *
    rw [ipv6Addr_eq_bytes addr, h0, h2, h3, h4, h5, h6, h7, h8, h9, h10, h11, h12, h13, h14, h15]
    rfl

theorem mem_allNodes_iff (addr : Ipv6Addr) :
    addr ∈ allNodesMulticast ↔ LooksWellKnown addr [1, 2] 1 ∧ MiddleZero addr :=
  mem_groups_iff addr [1, 2] 1

theorem mem_allRouters_iff (addr : Ipv6Addr) :
    addr ∈ allRoutersMulticast ↔ LooksWellKnown addr [1, 2, 5] 2 ∧ MiddleZero addr :=
  mem_groups_iff addr [1, 2, 5] 2

/-- A test that accepts what looks well-known is exact but for the near misses. -/
theorem exact_iff {p q : Prop} : ((p ↔ p ∧ q) ↔ ¬ (p ∧ ¬ q)) := by
  by_cases hp : p <;> by_cases hq : q <;> simp [hp, hq]

theorem isAllNodes_exact_iff (addr : Ipv6Addr) :
    (ipv6AddrIsAllNodesMulticast addr = true ↔ addr ∈ allNodesMulticast) ↔
      ¬ NearAllNodes addr := by
  rw [isAllNodes_iff, mem_allNodes_iff, exact_iff]
  rfl

theorem isAllRouters_exact_iff (addr : Ipv6Addr) :
    (ipv6AddrIsAllRoutersMulticast addr = true ↔ addr ∈ allRoutersMulticast) ↔
      ¬ NearAllRouters addr := by
  rw [isAllRouters_iff, mem_allRouters_iff, exact_iff]
  rfl

/-! ## The addresses of an interface -/

/-- The addresses of an interface that depend on its type. -/
def IsTypeSpecific (ifaceState : Ipv6NetIfaceIeee154State) (addr : Ipv6Addr) : Prop :=
  ipv6InterfaceGetType ifaceState.genericState =
      WHIP6_IPV6_NET_IFACE_GENERIC_STATE_TYPE_LOOPBACK ∧ addr = ipv6AddrSetLoopbackAddr ∨
    ipv6InterfaceGetType ifaceState.genericState =
      WHIP6_IPV6_NET_IFACE_GENERIC_STATE_TYPE_IEEE154 ∧ IsAutoconfigured ifaceState addr

/-- The addresses an interface has to accept: the well-known groups, the groups it has joined, its
unicast addresses, and the ones its type gives it. -/
def IsAddrOfInterface (ifaceState : Ipv6NetIfaceIeee154State) (addr : Ipv6Addr) : Prop :=
  addr.get 0 = 0xff ∧ (addr ∈ allNodesMulticast ∨ addr ∈ allRoutersMulticast ∨
      addr ∈ ifaceState.genericState.multicastAddrs) ∨
    addr.get 0 ≠ 0xff ∧
      (addr ∈ ifaceState.genericState.unicastAddrs ∨ IsTypeSpecific ifaceState addr)

instance (ifaceState : Ipv6NetIfaceIeee154State) (addr : Ipv6Addr) :
    Decidable (IsAutoconfigured ifaceState addr) :=
  inferInstanceAs (Decidable (_ ∨ _))

instance (ifaceState : Ipv6NetIfaceIeee154State) (addr : Ipv6Addr) :
    Decidable (IsTypeSpecific ifaceState addr) :=
  inferInstanceAs (Decidable (_ ∨ _))

instance (ifaceState : Ipv6NetIfaceIeee154State) (addr : Ipv6Addr) :
    Decidable (IsAddrOfInterface ifaceState addr) :=
  inferInstanceAs (Decidable (_ ∨ _))

theorem isLoopback_iff (addr : Ipv6Addr) :
    ipv6AddrIsLoopback addr.toList = true ↔ addr = ipv6AddrSetLoopbackAddr := by
  obtain ⟨b0, b1, b2, b3, b4, b5, b6, b7, b8, b9, b10, b11, b12, b13, b14, b15, rfl⟩ :=
    exists_ipv6Addr_bytes addr
  simp [ipv6AddrIsLoopback, ipv6AddrSetLoopbackAddr, and_assoc]

/-- The addresses of an interface that depend on its type are unicast ones. -/
theorem isAutoconfigured_unicast {ifaceState : Ipv6NetIfaceIeee154State} {addr : Ipv6Addr}
    (h : IsAutoconfigured ifaceState addr) : addr.get 0 ≠ 0xff := by
  rcases h with rfl | ⟨-, rfl⟩
  · show (0xfe : UInt8) ≠ 0xff
    decide
  · show (0xfe : UInt8) ≠ 0xff
    decide

theorem belongsToInterface_iff (ifaceState : Ipv6NetIfaceIeee154State) (addr : Ipv6Addr) :
    ipv6AddrBelongsToInterface ifaceState addr = true ↔
      (if addr.get 0 = 0xff then
        LooksWellKnown addr [1, 2] 1 ∨ LooksWellKnown addr [1, 2, 5] 2 ∨
          addr ∈ ifaceState.genericState.multicastAddrs
      else addr ∈ ifaceState.genericState.unicastAddrs) ∨ IsTypeSpecific ifaceState addr := by
  have hswitch : (if ipv6InterfaceGetType ifaceState.genericState =
        WHIP6_IPV6_NET_IFACE_GENERIC_STATE_TYPE_LOOPBACK then
      ipv6AddrBelongsLoopbackSpecificAddrsOfInterface addr
    else if ipv6InterfaceGetType ifaceState.genericState =
        WHIP6_IPV6_NET_IFACE_GENERIC_STATE_TYPE_IEEE154 then
      ipv6AddrBelongsIeee154SpecificAddrsOfInterface ifaceState addr
    else false) = true ↔ IsTypeSpecific ifaceState addr := by
    rw [IsTypeSpecific, ← isLoopback_iff, ← isAutoconfigured_iff]
    split_ifs with hl hi
    · have hne : ¬ ipv6InterfaceGetType ifaceState.genericState =
          WHIP6_IPV6_NET_IFACE_GENERIC_STATE_TYPE_IEEE154 := by rw [hl]; decide
      rw [or_iff_left fun h => hne h.1, and_iff_right hl]
      rfl
    · rw [or_iff_right fun h => hl h.1, and_iff_right hi]
      rfl
    · exact iff_of_false id fun h => h.elim (fun h => hl h.1) (fun h => hi h.1)
  have hlist : (if addr.get 0 == 0xff then
      ipv6AddrIsAllNodesMulticast addr || ipv6AddrIsAllRoutersMulticast addr ||
        ipv6AddrBelongsToGenericMulticastAddrListOfInterface ifaceState.genericState addr
    else ipv6AddrBelongsToGenericUnicastAddrListOfInterface ifaceState.genericState addr) = true ↔
      (if addr.get 0 = 0xff then
        LooksWellKnown addr [1, 2] 1 ∨ LooksWellKnown addr [1, 2, 5] 2 ∨
          addr ∈ ifaceState.genericState.multicastAddrs
      else addr ∈ ifaceState.genericState.unicastAddrs) := by
    rw [← isAllNodes_iff, ← isAllRouters_iff]
    simp only [beq_iff_eq]
    split_ifs with h
    · rw [Bool.or_eq_true, Bool.or_eq_true, or_assoc]
      exact or_congr_right (or_congr_right (isInArray_iff addr _ _))
    · exact isInArray_iff addr _ _
  rw [ipv6AddrBelongsToInterface, Bool.if_true_left, Bool.or_eq_true, decide_eq_true_eq, hlist,
    hswitch]

theorem isTypeSpecific_unicast {ifaceState : Ipv6NetIfaceIeee154State} {addr : Ipv6Addr}
    (h : IsTypeSpecific ifaceState addr) : addr.get 0 ≠ 0xff := by
  rcases h with ⟨-, rfl⟩ | ⟨-, h⟩
  · decide
  · exact isAutoconfigured_unicast h

/-- For which addresses the two tests are exact, and for which ones the test whether an address
belongs to an interface is. -/
theorem ipv6AddrBelongsToInterface_exact (ifaceState : Ipv6NetIfaceIeee154State)
    (addr : Ipv6Addr) :
    ((ipv6AddrIsAllNodesMulticast addr = true ↔ addr ∈ allNodesMulticast) ∧
        (ipv6AddrIsAllRoutersMulticast addr = true ↔ addr ∈ allRoutersMulticast) ↔
      ¬ (NearAllNodes addr ∨ NearAllRouters addr)) ∧
    ((ipv6AddrBelongsToInterface ifaceState addr = true ↔ IsAddrOfInterface ifaceState addr) ↔
      (NearAllNodes addr ∨ NearAllRouters addr →
        addr ∈ ifaceState.genericState.multicastAddrs)) := by
  refine ⟨?_, ?_⟩
  · rw [isAllNodes_exact_iff, isAllRouters_exact_iff, not_or]
  · rw [belongsToInterface_iff, IsAddrOfInterface, mem_allNodes_iff, mem_allRouters_iff]
    by_cases h : addr.get 0 = 0xff
    · rw [if_pos h, or_iff_left fun hspec => isTypeSpecific_unicast hspec h]
      simp only [h, ne_eq, not_true_eq_false, false_and, or_false, true_and]
      unfold NearAllNodes NearAllRouters
      tauto
    · have hnear : ¬ (NearAllNodes addr ∨ NearAllRouters addr) :=
        fun hnear => h (hnear.elim (fun hn => hn.1.1) (fun hn => hn.1.1))
      rw [if_neg h]
      simp only [h, ne_eq, not_false_eq_true, false_and, false_or, true_and]
      exact iff_of_true trivial fun hn => absurd hn hnear

/-- `ff02:0:1::1` is taken for the group of all nodes. -/
theorem ipv6AddrBelongsToInterface_foreign :
    let ifaceState : Ipv6NetIfaceIeee154State :=
      ⟨⟨0x10, 0, 0, 0, none, none⟩, #v[1, 2, 3, 4, 5, 6, 7, 8], #v[0, 0], #v[0, 0]⟩
    let addr : Ipv6Addr := #v[0xff, 0x02, 0, 0, 0, 1, 0, 0, 0, 0, 0, 0, 0, 0, 0, 0x01]
    ipv6AddrIsAllNodesMulticast addr = true ∧ addr ∉ allNodesMulticast ∧
      ipv6AddrBelongsToInterface ifaceState addr = true ∧ ¬ IsAddrOfInterface ifaceState addr := by
  decide

end Whip6
