import Whip6.Ipv6.Address
import Whip6.Ipv6.Packet

/-!
# Filling in IPv6 addresses

The functions that write a prefix, a suffix or a whole address, the common prefix of two
addresses, and the two tests for the multicast addresses every node or router listens to.
-/

namespace Whip6

def IPV6_ADDRESS_SCOPE_MAX_RESERVED : UInt8 := 0xf

namespace AddrByte

scoped instance neZeroIpv6 : NeZero 16 := ⟨by decide⟩

end AddrByte

/-- An address is given by its sixteen bytes. -/
theorem ipv6Addr_eq_bytes (addr : Ipv6Addr) :
    addr = #v[addr[0], addr[1], addr[2], addr[3], addr[4], addr[5], addr[6], addr[7],
      addr[8], addr[9], addr[10], addr[11], addr[12], addr[13], addr[14], addr[15]] := by
  ext i hi
  rcases i with _ | _ | _ | _ | _ | _ | _ | _ | _ | _ | _ | _ | _ | _ | _ | _ | i
  all_goals first | rfl | omega

theorem exists_ipv6Addr_bytes (addr : Ipv6Addr) : ∃ b0 b1 b2 b3 b4 b5 b6 b7 b8 b9 b10 b11 b12 b13
    b14 b15, addr = #v[b0, b1, b2, b3, b4, b5, b6, b7, b8, b9, b10, b11, b12, b13, b14, b15] :=
  ⟨_, _, _, _, _, _, _, _, _, _, _, _, _, _, _, _, ipv6Addr_eq_bytes addr⟩

/-! ## Prefixes and whole addresses -/

def ipv6AddrSetLinkLocalPrefix (addr : Ipv6Addr) : Ipv6Addr :=
  #v[0xfe, 0x80, 0, 0, 0, 0, 0, 0,
    addr[8], addr[9], addr[10], addr[11], addr[12], addr[13], addr[14], addr[15]]

def ipv6AddrSetLoopbackAddr : Ipv6Addr := #v[0, 0, 0, 0, 0, 0, 0, 0, 0, 0, 0, 0, 0, 0, 0, 1]

def ipv6AddrSetUndefinedAddr : Ipv6Addr := #v[0, 0, 0, 0, 0, 0, 0, 0, 0, 0, 0, 0, 0, 0, 0, 0]

/-- The loop of the common prefix from the byte `i` on, with the bytes that are left. -/
def commonPrefixLoop : List UInt8 → List UInt8 → UInt8 → UInt8
  | b1 :: ptr1, b2 :: ptr2, i => if b1 ≠ b2 then i else commonPrefixLoop ptr1 ptr2 (i + 1)
  | _, _, i => i

def ipv6AddrGetCommonPrefixLengthInBytes (addr1 addr2 : Ipv6Addr) : UInt8 :=
  commonPrefixLoop addr1.toList addr2.toList 0

/-! ## Suffixes -/

/-- The address with its second half replaced. -/
def ipv6AddrWithSuffix (addr : Ipv6Addr) (suffix : Vector UInt8 8) : Ipv6Addr :=
  #v[addr[0], addr[1], addr[2], addr[3], addr[4], addr[5], addr[6], addr[7],
    suffix[0], suffix[1], suffix[2], suffix[3], suffix[4], suffix[5], suffix[6], suffix[7]]

/-- The bytes of the extended address in the other order, with the universal bit flipped. -/
def ipv6AddrFillSuffixWithIeee154AddrExt (ipv6Addr : Ipv6Addr) (ieee154Addr : Ieee154ExtAddr) :
    Ipv6Addr :=
  ipv6AddrWithSuffix ipv6Addr
    #v[ieee154Addr[7] ^^^ 0x02, ieee154Addr[6], ieee154Addr[5], ieee154Addr[4],
      ieee154Addr[3], ieee154Addr[2], ieee154Addr[1], ieee154Addr[0]]

def ipv6AddrFillSuffixWithIeee154AddrShort (ipv6Addr : Ipv6Addr) (ieee154Addr : Ieee154ShortAddr)
    (ieee154PanId : Ieee154PanId) : Ipv6Addr :=
  ipv6AddrWithSuffix ipv6Addr
    #v[ieee154PanId[1] &&& (~~~(0x02 : UInt8)), ieee154PanId[0], 0x00, 0xff, 0xfe, 0x00,
      ieee154Addr[1], ieee154Addr[0]]

def ipv6AddrFillSuffixWithIeee154AddrAny (ipv6Addr : Ipv6Addr) (ieee154Addr : Ieee154Addr)
    (ieee154PanId : Ieee154PanId) : Ipv6Addr :=
  match ieee154Addr with
  | .shrt addr => ipv6AddrFillSuffixWithIeee154AddrShort ipv6Addr addr ieee154PanId
  | .ext addr => ipv6AddrFillSuffixWithIeee154AddrExt ipv6Addr addr
  | .none => ipv6AddrWithSuffix ipv6Addr #v[0, 0, 0, 0, 0, 0, 0, 0]

/-! ## Well-known multicast addresses -/

/-- The loop over the bytes between the scope and the last one.  The pointer is not advanced: every
round looks at the same byte. -/
def zeroBytesLoop (addrPtr : UInt8) : ℕ → Bool
  | 0 => true
  | addrCnt + 1 => if addrPtr ≠ 0x00 then false else zeroBytesLoop addrPtr addrCnt

def ipv6AddrIsAllNodesMulticast (addr : Ipv6Addr) : Bool :=
  if addr[0] ≠ 0xff ∨ addr[15] ≠ 0x01 ∨
      (addr[1] ≠ IPV6_ADDRESS_SCOPE_INTERFACE_LOCAL ∧ addr[1] ≠ IPV6_ADDRESS_SCOPE_LINK_LOCAL) then
    false
  else zeroBytesLoop addr[2] 13

def ipv6AddrIsAllRoutersMulticast (addr : Ipv6Addr) : Bool :=
  if addr[0] ≠ 0xff ∨ addr[15] ≠ 0x02 ∨
      (addr[1] ≠ IPV6_ADDRESS_SCOPE_INTERFACE_LOCAL ∧ addr[1] ≠ IPV6_ADDRESS_SCOPE_LINK_LOCAL ∧
        addr[1] ≠ IPV6_ADDRESS_SCOPE_SITE_LOCAL) then
    false
  else zeroBytesLoop addr[2] 13

/-- All rounds look at the same byte. -/
theorem zeroBytesLoop_eq (addrPtr : UInt8) (addrCnt : ℕ) :
    zeroBytesLoop addrPtr addrCnt = true ↔ addrCnt = 0 ∨ addrPtr = 0 := by
  induction addrCnt with
  | zero => simp [zeroBytesLoop]
  | succ addrCnt ih =>
    rw [zeroBytesLoop]
    split_ifs with h
    · simp [h]
    · rw [ih]
      have h : addrPtr = 0 := not_not.mp h
      simp [h]

end Whip6
