import Whip6.Ieee154.Address

/-!
# IPv6 addresses

The predicates on the sixteen bytes of an address, its scope, and the IEEE 802.15.4 address in its
suffix.
-/

namespace Whip6

open scoped AddrByte

def IPV6_ADDRESS_SCOPE_INTERFACE_LOCAL : UInt8 := 0x1

def IPV6_ADDRESS_SCOPE_LINK_LOCAL : UInt8 := 0x2

def IPV6_ADDRESS_SCOPE_SITE_LOCAL : UInt8 := 0x5

def IPV6_ADDRESS_SCOPE_GLOBAL : UInt8 := 0xe

def ipv6AddrIsUndefined (addr : List UInt8) : Bool := addr.all (· == 0)

def ipv6AddrIsLoopback (addr : List UInt8) : Bool :=
  (addr.take 15).all (· == 0) && addr.getD 15 0 == 1

def ipv6AddrIsMulticast (addr : List UInt8) : Bool := addr.getD 0 0 == 0xff

/-- The prefix `fe80::/64`. -/
def ipv6AddrIsLinkLocal (addr : List UInt8) : Bool :=
  addr.take 8 == [0xfe, 0x80, 0, 0, 0, 0, 0, 0]

def ipv6AddrIsUniqueLocal (addr : List UInt8) : Bool := addr.getD 0 0 &&& 0xfe == 0xfc

def ipv6AddrGetScope (addr : List UInt8) : UInt8 :=
  if ipv6AddrIsMulticast addr then addr.getD 1 0 &&& 0xf
  else if ipv6AddrIsUndefined addr then IPV6_ADDRESS_SCOPE_INTERFACE_LOCAL
  else if ipv6AddrIsUniqueLocal addr then IPV6_ADDRESS_SCOPE_SITE_LOCAL
  else if ipv6AddrIsLoopback addr || ipv6AddrIsLinkLocal addr then IPV6_ADDRESS_SCOPE_LINK_LOCAL
  else IPV6_ADDRESS_SCOPE_GLOBAL

/-! ## The suffix -/

def ipv6AddrExtractFromSuffixIeee154AddrExt (addr : List UInt8) : Ieee154ExtAddr :=
  #v[addr.getD 15 0, addr.getD 14 0, addr.getD 13 0, addr.getD 12 0, addr.getD 11 0,
    addr.getD 10 0, addr.getD 9 0, addr.getD 8 0 ^^^ 0x02]

def ipv6AddrCheckIfSuffixMayContainIeee154AddrShort (addr : List UInt8) (panId : Ieee154PanId) :
    Bool :=
  (addr.drop 8).take 6 == [panId.get 1 &&& (~~~(0x02 : UInt8)), panId.get 0, 0x00, 0xff, 0xfe, 0x00]

def ipv6AddrJustExtractFromSuffixIeee154AddrShort (addr : List UInt8) : Ieee154ShortAddr :=
  #v[addr.getD 15 0, addr.getD 14 0]

def ipv6AddrExtractFromSuffixIeee154AddrAny (addr : List UInt8) (panId : Ieee154PanId) :
    Ieee154Addr :=
  if ipv6AddrCheckIfSuffixMayContainIeee154AddrShort addr panId then
    .shrt (ipv6AddrJustExtractFromSuffixIeee154AddrShort addr)
  else .ext (ipv6AddrExtractFromSuffixIeee154AddrExt addr)

/-! ## Broadcast -/

def ieee154AddrAnySetBroadcast : Ieee154Addr := .shrt #v[0xff, 0xff]

/-- A suffix always has an address in it. -/
theorem ipv6AddrExtractFromSuffixIeee154AddrAny_ne_none (addr : List UInt8) (panId : Ieee154PanId) :
    ipv6AddrExtractFromSuffixIeee154AddrAny addr panId ≠ .none := by
  rw [ipv6AddrExtractFromSuffixIeee154AddrAny]
  split <;> exact fun h => by cases h

end Whip6
