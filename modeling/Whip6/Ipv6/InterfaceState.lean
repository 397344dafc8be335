import Whip6.Ipv6.AddressManipulation

/-!
# The IPv6 state of a network interface

The generic state has two arrays of addresses, each with the number of its slots that are in use;
what is in the slots behind them is left from earlier addresses.  The state of an IEEE 802.15.4
interface begins with the generic one, so that a pointer to the latter is cast to the former where
the type says so.
-/

namespace Whip6

open scoped AddrByte

def WHIP6_IPV6_NET_IFACE_GENERIC_STATE_TYPE_MASK : UInt8 := 0xf0

def WHIP6_IPV6_NET_IFACE_GENERIC_STATE_TYPE_SHIFT : UInt8 := 4

def WHIP6_IPV6_NET_IFACE_GENERIC_STATE_TYPE_LOOPBACK : UInt8 := 0

def WHIP6_IPV6_NET_IFACE_GENERIC_STATE_TYPE_IEEE154 : UInt8 := 1

def WHIP6_IPV6_NET_IFACE_IEEE154_STATE_FLAG_HAS_SHORT_ADDR : UInt8 := 1

/-- The generic state; an array pointer that is `NULL` is `none`. -/
structure Ipv6NetIfaceGenericState where
  indexAndType : UInt8
  flags : UInt8
  unicastAddrArrLen : UInt8
  multicastAddrArrLen : UInt8
  unicastAddrArrPtr : Option (List Ipv6Addr)
  multicastAddrArrPtr : Option (List Ipv6Addr)

/-- The state of an interface on top of IEEE 802.15.4. -/
structure Ipv6NetIfaceIeee154State where
  genericState : Ipv6NetIfaceGenericState
  ieee154ExtAddr : Ieee154ExtAddr
  ieee154ShrtAddr : Ieee154ShortAddr
  ieee154PanId : Ieee154PanId

def ipv6InterfaceGetType (ifaceState : Ipv6NetIfaceGenericState) : UInt8 :=
  (ifaceState.indexAndType &&& WHIP6_IPV6_NET_IFACE_GENERIC_STATE_TYPE_MASK) >>>
    WHIP6_IPV6_NET_IFACE_GENERIC_STATE_TYPE_SHIFT

def ipv6InterfaceHasShortIeee154AddrFlag (ifaceState : Ipv6NetIfaceGenericState) : Bool :=
  ifaceState.flags &&& WHIP6_IPV6_NET_IFACE_IEEE154_STATE_FLAG_HAS_SHORT_ADDR != 0

namespace Ipv6NetIfaceGenericState

/-- The addresses in the slots of the unicast array that are in use. -/
def unicastAddrs (ifaceState : Ipv6NetIfaceGenericState) : List Ipv6Addr :=
  (ifaceState.unicastAddrArrPtr.getD []).take ifaceState.unicastAddrArrLen.toNat

/-- The groups in the slots of the multicast array that are in use. -/
def multicastAddrs (ifaceState : Ipv6NetIfaceGenericState) : List Ipv6Addr :=
  (ifaceState.multicastAddrArrPtr.getD []).take ifaceState.multicastAddrArrLen.toNat

end Ipv6NetIfaceGenericState

/-! ## Autoconfigured addresses -/

/-- The byte-wise comparison goes backward over the suffix for the short address and then forward
for the extended one. -/
def ipv6AddrIsAutoconfiguredLinkLocalAddressOfIeee154Interface
    (ifaceState : Ipv6NetIfaceIeee154State) (addr : Ipv6Addr) : Bool :=
  if !ipv6AddrIsLinkLocal addr.toList then false
  else if ipv6InterfaceHasShortIeee154AddrFlag ifaceState.genericState &&
      (addr.get 15 == ifaceState.ieee154ShrtAddr.get 0 &&
        addr.get 14 == ifaceState.ieee154ShrtAddr.get 1 &&
        addr.get 13 == 0x00 && addr.get 12 == 0xfe && addr.get 11 == 0xff && addr.get 10 == 0x00 &&
        addr.get 9 == ifaceState.ieee154PanId.get 0 &&
        addr.get 8 == ifaceState.ieee154PanId.get 1 &&& (~~~(0x02 : UInt8))) then true
  else
    addr.get 8 == ifaceState.ieee154ExtAddr.get 7 ^^^ 0x02 &&
      (addr.get 9 == ifaceState.ieee154ExtAddr.get 6 &&
        addr.get 10 == ifaceState.ieee154ExtAddr.get 5 &&
        addr.get 11 == ifaceState.ieee154ExtAddr.get 4 &&
        addr.get 12 == ifaceState.ieee154ExtAddr.get 3 &&
        addr.get 13 == ifaceState.ieee154ExtAddr.get 2 &&
        addr.get 14 == ifaceState.ieee154ExtAddr.get 1 &&
        addr.get 15 == ifaceState.ieee154ExtAddr.get 0)

def ipv6AddrGetAutoconfiguredLinkLocalAddressOfIeee154InterfaceExt
    (ifaceState : Ipv6NetIfaceIeee154State) (addr : Ipv6Addr) : Ipv6Addr :=
  ipv6AddrFillSuffixWithIeee154AddrExt (ipv6AddrSetLinkLocalPrefix addr) ifaceState.ieee154ExtAddr

/-- `none` is the result zero: the interface has no short address and the buffer stays. -/
def ipv6AddrGetAutoconfiguredLinkLocalAddressOfIeee154InterfaceShrt
    (ifaceState : Ipv6NetIfaceIeee154State) (addr : Ipv6Addr) : Option Ipv6Addr :=
  if !ipv6InterfaceHasShortIeee154AddrFlag ifaceState.genericState then none
  else some (ipv6AddrFillSuffixWithIeee154AddrShort (ipv6AddrSetLinkLocalPrefix addr)
    ifaceState.ieee154ShrtAddr ifaceState.ieee154PanId)

def ipv6AddrGetAutoconfiguredLinkLocalAddressOfIeee154InterfaceBest
    (ifaceState : Ipv6NetIfaceIeee154State) (addr : Ipv6Addr) : Ipv6Addr :=
  (ipv6AddrGetAutoconfiguredLinkLocalAddressOfIeee154InterfaceShrt ifaceState addr).getD
    (ipv6AddrGetAutoconfiguredLinkLocalAddressOfIeee154InterfaceExt ifaceState addr)

/-! ## Addresses that belong to an interface -/

/-- The loop over the slots in use. -/
def isInArrayLoop (addr : Ipv6Addr) : List Ipv6Addr → ℕ → Bool
  | slot :: addrArrPtr, addrArrLen + 1 =>
    if shortMemCmp addr.toList slot.toList 16 = 0 then true
    else isInArrayLoop addr addrArrPtr addrArrLen
  | _, _ => false

def ipv6AddrIsInArrayOfGenericInterfaceAddrs (addr : Ipv6Addr)
    (addrArrPtr : Option (List Ipv6Addr)) (addrArrLen : UInt8) : Bool :=
  match addrArrPtr with
  | none => false
  | some arr => isInArrayLoop addr arr addrArrLen.toNat

def ipv6AddrBelongsToGenericUnicastAddrListOfInterface (ifaceState : Ipv6NetIfaceGenericState)
    (addr : Ipv6Addr) : Bool :=
  ipv6AddrIsInArrayOfGenericInterfaceAddrs addr ifaceState.unicastAddrArrPtr
    ifaceState.unicastAddrArrLen

def ipv6AddrBelongsToGenericMulticastAddrListOfInterface (ifaceState : Ipv6NetIfaceGenericState)
    (addr : Ipv6Addr) : Bool :=
  ipv6AddrIsInArrayOfGenericInterfaceAddrs addr ifaceState.multicastAddrArrPtr
    ifaceState.multicastAddrArrLen

def ipv6AddrBelongsLoopbackSpecificAddrsOfInterface (addr : Ipv6Addr) : Bool :=
  ipv6AddrIsLoopback addr.toList

def ipv6AddrBelongsIeee154SpecificAddrsOfInterface (ifaceState : Ipv6NetIfaceIeee154State)
    (addr : Ipv6Addr) : Bool :=
  ipv6AddrIsAutoconfiguredLinkLocalAddressOfIeee154Interface ifaceState addr

/-- The argument stands for the memory at the pointer: what is behind the generic state is read
only where the type of the interface is IEEE 802.15.4. -/
def ipv6AddrBelongsToInterface (ifaceState : Ipv6NetIfaceIeee154State) (addr : Ipv6Addr) : Bool :=
  if (if addr.get 0 == 0xff then
      ipv6AddrIsAllNodesMulticast addr || ipv6AddrIsAllRoutersMulticast addr ||
        ipv6AddrBelongsToGenericMulticastAddrListOfInterface ifaceState.genericState addr
    else ipv6AddrBelongsToGenericUnicastAddrListOfInterface ifaceState.genericState addr) then true
  else if ipv6InterfaceGetType ifaceState.genericState =
      WHIP6_IPV6_NET_IFACE_GENERIC_STATE_TYPE_LOOPBACK then
    ipv6AddrBelongsLoopbackSpecificAddrsOfInterface addr
  else if ipv6InterfaceGetType ifaceState.genericState =
      WHIP6_IPV6_NET_IFACE_GENERIC_STATE_TYPE_IEEE154 then
    ipv6AddrBelongsIeee154SpecificAddrsOfInterface ifaceState addr
  else false

theorem isInArrayLoop_iff (addr : Ipv6Addr) (arr : List Ipv6Addr) (addrArrLen : ℕ) :
    isInArrayLoop addr arr addrArrLen = true ↔ addr ∈ arr.take addrArrLen := by
  induction arr generalizing addrArrLen with
  | nil => cases addrArrLen <;> simp [isInArrayLoop]
  | cons slot arr ih =>
    cases addrArrLen with
    | zero => simp [isInArrayLoop]
    | succ addrArrLen =>
      rw [isInArrayLoop, List.take_succ_cons, List.mem_cons]
      split_ifs with h
      · exact iff_of_true rfl (.inl ((shortMemCmp_toList_eq_zero_iff addr slot).mp h))
      · have hne : addr ≠ slot := fun e => h ((shortMemCmp_toList_eq_zero_iff addr slot).mpr e)
        rw [ih, or_iff_right hne]

theorem isInArray_iff (addr : Ipv6Addr) (arr : Option (List Ipv6Addr)) (addrArrLen : UInt8) :
    ipv6AddrIsInArrayOfGenericInterfaceAddrs addr arr addrArrLen = true ↔
      addr ∈ (arr.getD []).take addrArrLen.toNat := by
  cases arr with
  | none => simp [ipv6AddrIsInArrayOfGenericInterfaceAddrs]
  | some arr => exact isInArrayLoop_iff addr arr addrArrLen.toNat

end Whip6
