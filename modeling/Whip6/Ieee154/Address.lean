import Whip6.Base.Memory

/-!
# IEEE 802.15.4 addresses

An address has one of three modes.  A mode that carries an address carries its two or eight
bytes; the bytes of the union that the mode does not use are not part of the address.
-/

namespace Whip6

/-- The status codes of the functions. -/
inductive Whip6Error
  | noError
  | argumentError
  | sizeError
  | stateError
  deriving DecidableEq, Repr

def IEEE154_SHORT_ADDR_BYTE_LENGTH : ℕ := 2

def IEEE154_EXT_ADDR_BYTE_LENGTH : ℕ := 8

abbrev Ieee154ShortAddr := Vector UInt8 2

abbrev Ieee154ExtAddr := Vector UInt8 8

abbrev Ieee154PanId := Vector UInt8 2

/-! What a literal needs to be the index of a byte of an address. -/

namespace AddrByte

scoped instance neZeroShort : NeZero 2 := ⟨two_ne_zero⟩

scoped instance neZeroExt : NeZero 8 := ⟨by decide⟩

end AddrByte

/-- An address with its mode. -/
inductive Ieee154Addr
  | none
  | shrt (addr : Ieee154ShortAddr)
  | ext (addr : Ieee154ExtAddr)
  deriving DecidableEq, Repr

def IEEE154_ADDR_MODE_NONE : UInt8 := 0x0

def IEEE154_ADDR_MODE_SHORT : UInt8 := 0x2

def IEEE154_ADDR_MODE_EXT : UInt8 := 0x3

def IEEE154_ADDR_MODE_MASK : UInt8 := 0x3

namespace Ieee154Addr

def mode : Ieee154Addr → UInt8
  | none => IEEE154_ADDR_MODE_NONE
  | shrt _ => IEEE154_ADDR_MODE_SHORT
  | ext _ => IEEE154_ADDR_MODE_EXT

/-- The bytes an address has in memory and in a frame. -/
def bytes : Ieee154Addr → List UInt8
  | none => []
  | shrt addr => addr.toList
  | ext addr => addr.toList

end Ieee154Addr

/-- The bytes from a pointer on, read as an address of `n` bytes. -/
def readAddr (n : ℕ) (ptr : List UInt8) : Vector UInt8 n := Vector.ofFn fun i => ptr.getD i 0

/-- Zero exactly between equal addresses: first the modes are compared, then the bytes. -/
def ieee154AddrAnyCmp (addr1 addr2 : Ieee154Addr) : Int8 :=
  let modeDiff := (addr1.mode - addr2.mode).toInt8
  if modeDiff ≠ 0 then modeDiff
  else
    match addr1 with
    | .shrt _ => shortMemCmp addr1.bytes addr2.bytes IEEE154_SHORT_ADDR_BYTE_LENGTH
    | .ext _ => shortMemCmp addr1.bytes addr2.bytes IEEE154_EXT_ADDR_BYTE_LENGTH
    | .none => 0

def ieee154PanIdCmp (panId1 panId2 : Ieee154PanId) : Int8 :=
  shortMemCmp panId1.toList panId2.toList 2

/-! ## Reading and comparing -/

theorem readAddr_of_standsAt {n : ℕ} {ptr : List UInt8} {addr : Vector UInt8 n}
    (h : Lib.StandsAt ptr 0 addr.toList) : readAddr n ptr = addr := by
  ext i hi
  have hlen : i < addr.toList.length := by simpa using hi
  have hget := h i hlen
  rw [Nat.zero_add, List.getElem?_eq_getElem hlen, Vector.getElem_toList] at hget
  simp only [readAddr, Vector.getElem_ofFn, List.getD_eq_getElem?_getD, hget, Option.getD_some]

theorem shortMemCmp_toList_eq_zero_iff {n : ℕ} (v1 v2 : Vector UInt8 n) :
    shortMemCmp v1.toList v2.toList n = 0 ↔ v1 = v2 := by
  rw [shortMemCmp_eq_zero_iff (by simp) (by simp), List.take_of_length_le (by simp),
    List.take_of_length_le (by simp), Vector.toList_inj]

theorem ieee154PanIdCmp_eq_zero_iff (panId1 panId2 : Ieee154PanId) :
    ieee154PanIdCmp panId1 panId2 = 0 ↔ panId1 = panId2 :=
  shortMemCmp_toList_eq_zero_iff panId1 panId2

theorem ieee154AddrAnyCmp_eq_zero_iff (addr1 addr2 : Ieee154Addr) :
    ieee154AddrAnyCmp addr1 addr2 = 0 ↔ addr1 = addr2 := by
  unfold ieee154AddrAnyCmp
  by_cases hmode : addr1.mode = addr2.mode
  · have hdiff : (addr1.mode - addr2.mode).toInt8 = 0 := (toInt8_sub_eq_zero_iff _ _).mpr hmode
    rw [if_neg (not_not_intro hdiff)]
    cases addr1 <;> cases addr2 <;>
      simp [Ieee154Addr.mode, IEEE154_ADDR_MODE_NONE, IEEE154_ADDR_MODE_SHORT,
        IEEE154_ADDR_MODE_EXT] at hmode
    · simp
    · rw [Ieee154Addr.shrt.injEq]
      exact shortMemCmp_toList_eq_zero_iff _ _
    · rw [Ieee154Addr.ext.injEq]
      exact shortMemCmp_toList_eq_zero_iff _ _
  · have hdiff : (addr1.mode - addr2.mode).toInt8 ≠ 0 :=
      fun h => hmode ((toInt8_sub_eq_zero_iff _ _).mp h)
    rw [if_pos hdiff]
    exact iff_of_false hdiff fun h => hmode (h ▸ rfl)

end Whip6
