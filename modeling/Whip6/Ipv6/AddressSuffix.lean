import Whip6.Ipv6.InterfaceState

/-!
# The link-layer address in the suffix

What is extracted from a suffix that was filled from an address.  An extended address whose
suffix has the form of a suffix with a short address is taken for the latter; all others come
back.  The autoconfigured link-local addresses of an interface are `fe80::/64` with the suffix of
its extended address, and of its short one where it has one.
-/

namespace Whip6

open scoped AddrByte

/-- The suffix of the extended address has the form of one with a short address. -/
def ShortDerived (panId : Ieee154PanId) (addr : Ieee154ExtAddr) : Prop :=
  addr.get 7 ^^^ (0x02 : UInt8) = panId.get 1 &&& (~~~(0x02 : UInt8)) ∧ addr.get 6 = panId.get 0 ∧
    addr.get 5 = 0x00 ∧ addr.get 4 = 0xff ∧ addr.get 3 = 0xfe ∧ addr.get 2 = 0x00

instance (panId : Ieee154PanId) (addr : Ieee154ExtAddr) : Decidable (ShortDerived panId addr) :=
  inferInstanceAs (Decidable (_ ∧ _))

/-- The address is a short or an extended one whose suffix cannot be taken for another. -/
def SuffixFaithful (panId : Ieee154PanId) : Ieee154Addr → Prop
  | .shrt _ => True
  | .ext addr => ¬ ShortDerived panId addr
  | .none => False

/-- The short address a suffix of this form is taken for. -/
def shortOfExt (addr : Ieee154ExtAddr) : Ieee154ShortAddr := #v[addr.get 0, addr.get 1]

theorem shortAddr_eq_bytes (addr : Ieee154ShortAddr) : addr = #v[addr.get 0, addr.get 1] := by
  ext i hi
  rcases i with _ | _ | i
  all_goals first | rfl | omega

theorem extAddr_eq_bytes (addr : Ieee154ExtAddr) :
    addr = #v[addr.get 0, addr.get 1, addr.get 2, addr.get 3, addr.get 4, addr.get 5, addr.get 6,
      addr.get 7] := by
  ext i hi
  rcases i with _ | _ | _ | _ | _ | _ | _ | _ | i
  all_goals first | rfl | omega

/-! ## The two kinds of suffixes -/

theorem mayContain_fillShort (ipv6Addr : Ipv6Addr) (addr : Ieee154ShortAddr)
    (panId : Ieee154PanId) :
    ipv6AddrCheckIfSuffixMayContainIeee154AddrShort
      (ipv6AddrFillSuffixWithIeee154AddrShort ipv6Addr addr panId).toList panId = true := by
  simp [ipv6AddrCheckIfSuffixMayContainIeee154AddrShort, ipv6AddrFillSuffixWithIeee154AddrShort,
    ipv6AddrWithSuffix, Vector.get_eq_getElem]

theorem justExtract_fillShort (ipv6Addr : Ipv6Addr) (addr : Ieee154ShortAddr)
    (panId : Ieee154PanId) :
    ipv6AddrJustExtractFromSuffixIeee154AddrShort
      (ipv6AddrFillSuffixWithIeee154AddrShort ipv6Addr addr panId).toList = addr := by
  rw [shortAddr_eq_bytes addr]
  simp [ipv6AddrJustExtractFromSuffixIeee154AddrShort, ipv6AddrFillSuffixWithIeee154AddrShort,
    ipv6AddrWithSuffix]

theorem mayContain_fillExt (ipv6Addr : Ipv6Addr) (addr : Ieee154ExtAddr) (panId : Ieee154PanId) :
    ipv6AddrCheckIfSuffixMayContainIeee154AddrShort
      (ipv6AddrFillSuffixWithIeee154AddrExt ipv6Addr addr).toList panId = true ↔
      ShortDerived panId addr := by
  simp [ipv6AddrCheckIfSuffixMayContainIeee154AddrShort, ipv6AddrFillSuffixWithIeee154AddrExt,
    ipv6AddrWithSuffix, ShortDerived, Vector.get_eq_getElem]

theorem justExtract_fillExt (ipv6Addr : Ipv6Addr) (addr : Ieee154ExtAddr) :
    ipv6AddrJustExtractFromSuffixIeee154AddrShort
      (ipv6AddrFillSuffixWithIeee154AddrExt ipv6Addr addr).toList = shortOfExt addr := by
  simp [ipv6AddrJustExtractFromSuffixIeee154AddrShort, ipv6AddrFillSuffixWithIeee154AddrExt,
    ipv6AddrWithSuffix, shortOfExt, Vector.get_eq_getElem]

theorem extractExt_fillExt (ipv6Addr : Ipv6Addr) (addr : Ieee154ExtAddr) :
    ipv6AddrExtractFromSuffixIeee154AddrExt
      (ipv6AddrFillSuffixWithIeee154AddrExt ipv6Addr addr).toList = addr := by
  conv_rhs => rw [extAddr_eq_bytes addr]
  simp [ipv6AddrExtractFromSuffixIeee154AddrExt, ipv6AddrFillSuffixWithIeee154AddrExt,
    ipv6AddrWithSuffix, Vector.get_eq_getElem]

/-- What is extracted from the suffix of an extended address. -/
theorem extractAny_fillExt (ipv6Addr : Ipv6Addr) (addr : Ieee154ExtAddr) (panId : Ieee154PanId) :
    ipv6AddrExtractFromSuffixIeee154AddrAny
      (ipv6AddrFillSuffixWithIeee154AddrAny ipv6Addr (.ext addr) panId).toList panId =
      if ShortDerived panId addr then .shrt (shortOfExt addr) else .ext addr := by
  rw [ipv6AddrExtractFromSuffixIeee154AddrAny, ipv6AddrFillSuffixWithIeee154AddrAny,
    justExtract_fillExt, extractExt_fillExt]
  exact if_congr (mayContain_fillExt ipv6Addr addr panId) rfl rfl

theorem extractAny_fillShort (ipv6Addr : Ipv6Addr) (addr : Ieee154ShortAddr)
    (panId : Ieee154PanId) :
    ipv6AddrExtractFromSuffixIeee154AddrAny
      (ipv6AddrFillSuffixWithIeee154AddrAny ipv6Addr (.shrt addr) panId).toList panId =
      .shrt addr := by
  rw [ipv6AddrExtractFromSuffixIeee154AddrAny, ipv6AddrFillSuffixWithIeee154AddrAny,
    justExtract_fillShort, mayContain_fillShort, if_pos rfl]

theorem extractAny_fillAny {ipv6Addr : Ipv6Addr} {addr : Ieee154Addr} {panId : Ieee154PanId}
    (h : SuffixFaithful panId addr) :
    ipv6AddrExtractFromSuffixIeee154AddrAny
      (ipv6AddrFillSuffixWithIeee154AddrAny ipv6Addr addr panId).toList panId = addr := by
  cases addr with
  | none => exact absurd h id
  | shrt addr => exact extractAny_fillShort ipv6Addr addr panId
  | ext addr => rw [extractAny_fillExt, if_neg h]

/-- An extended address of the form of a short one is taken for that one. -/
theorem fillExt_of_shortDerived {panId : Ieee154PanId} {addr : Ieee154ExtAddr}
    (h : ShortDerived panId addr) (ipv6Addr : Ipv6Addr) :
    ipv6AddrFillSuffixWithIeee154AddrExt ipv6Addr addr =
      ipv6AddrFillSuffixWithIeee154AddrShort ipv6Addr (shortOfExt addr) panId := by
  obtain ⟨h7, h6, h5, h4, h3, h2⟩ := h
  simp only [Vector.get_eq_getElem, Fin.isValue, Fin.coe_ofNat_eq_mod, Nat.reduceMod] at *
  simp [ipv6AddrFillSuffixWithIeee154AddrExt, ipv6AddrFillSuffixWithIeee154AddrShort, h7, h6, h5,
    h4, h3, h2, shortOfExt, Vector.get_eq_getElem]

/-! ## Autoconfigured link-local addresses -/

/-- `fe80::` -/
def linkLocalPrefix : Ipv6Addr := #v[0xfe, 0x80, 0, 0, 0, 0, 0, 0, 0, 0, 0, 0, 0, 0, 0, 0]

theorem isLinkLocal_iff (b0 b1 b2 b3 b4 b5 b6 b7 : UInt8) (bs : List UInt8) :
    ipv6AddrIsLinkLocal (b0 :: b1 :: b2 :: b3 :: b4 :: b5 :: b6 :: b7 :: bs) = true ↔
      b0 = 0xfe ∧ b1 = 0x80 ∧ b2 = 0 ∧ b3 = 0 ∧ b4 = 0 ∧ b5 = 0 ∧ b6 = 0 ∧ b7 = 0 := by
  simp [ipv6AddrIsLinkLocal]

/-- The autoconfigured link-local addresses of an interface. -/
def IsAutoconfigured (ifaceState : Ipv6NetIfaceIeee154State) (addr : Ipv6Addr) : Prop :=
  addr = ipv6AddrFillSuffixWithIeee154AddrExt linkLocalPrefix ifaceState.ieee154ExtAddr ∨
    ipv6InterfaceHasShortIeee154AddrFlag ifaceState.genericState = true ∧
      addr = ipv6AddrFillSuffixWithIeee154AddrShort linkLocalPrefix ifaceState.ieee154ShrtAddr
        ifaceState.ieee154PanId

theorem bytes_eq_fillExt (b0 b1 b2 b3 b4 b5 b6 b7 b8 b9 b10 b11 b12 b13 b14 b15 : UInt8)
    (addr : Ieee154ExtAddr) :
    (#v[b0, b1, b2, b3, b4, b5, b6, b7, b8, b9, b10, b11, b12, b13, b14, b15] : Ipv6Addr) =
        ipv6AddrFillSuffixWithIeee154AddrExt linkLocalPrefix addr ↔
      ipv6AddrIsLinkLocal [b0, b1, b2, b3, b4, b5, b6, b7, b8, b9, b10, b11, b12, b13, b14, b15] =
        true ∧ b8 = addr.get 7 ^^^ 0x02 ∧ b9 = addr.get 6 ∧ b10 = addr.get 5 ∧ b11 = addr.get 4 ∧
        b12 = addr.get 3 ∧ b13 = addr.get 2 ∧ b14 = addr.get 1 ∧ b15 = addr.get 0 := by
  rw [isLinkLocal_iff]
  simp [ipv6AddrFillSuffixWithIeee154AddrExt, ipv6AddrWithSuffix, linkLocalPrefix, and_assoc,
    Vector.get_eq_getElem]

theorem bytes_eq_fillShort (b0 b1 b2 b3 b4 b5 b6 b7 b8 b9 b10 b11 b12 b13 b14 b15 : UInt8)
    (addr : Ieee154ShortAddr) (panId : Ieee154PanId) :
    (#v[b0, b1, b2, b3, b4, b5, b6, b7, b8, b9, b10, b11, b12, b13, b14, b15] : Ipv6Addr) =
        ipv6AddrFillSuffixWithIeee154AddrShort linkLocalPrefix addr panId ↔
      ipv6AddrIsLinkLocal [b0, b1, b2, b3, b4, b5, b6, b7, b8, b9, b10, b11, b12, b13, b14, b15] =
        true ∧ b15 = addr.get 0 ∧ b14 = addr.get 1 ∧ b13 = 0x00 ∧ b12 = 0xfe ∧ b11 = 0xff ∧
        b10 = 0x00 ∧ b9 = panId.get 0 ∧ b8 = panId.get 1 &&& (~~~(0x02 : UInt8)) := by
  rw [isLinkLocal_iff]
  simp only [ipv6AddrFillSuffixWithIeee154AddrShort, ipv6AddrWithSuffix, linkLocalPrefix]
  constructor
  · intro h
    simp at h
    simp [h, Vector.get_eq_getElem]
  · rintro ⟨⟨rfl, rfl, rfl, rfl, rfl, rfl, rfl, rfl⟩, rfl, rfl, rfl, rfl, rfl, rfl, rfl, rfl⟩
    rfl

theorem isAutoconfigured_iff (ifaceState : Ipv6NetIfaceIeee154State) (addr : Ipv6Addr) :
    ipv6AddrIsAutoconfiguredLinkLocalAddressOfIeee154Interface ifaceState addr = true ↔
      IsAutoconfigured ifaceState addr := by
  obtain ⟨b0, b1, b2, b3, b4, b5, b6, b7, b8, b9, b10, b11, b12, b13, b14, b15, rfl⟩ :=
    exists_ipv6Addr_bytes addr
  rw [IsAutoconfigured, bytes_eq_fillExt, bytes_eq_fillShort,
    ipv6AddrIsAutoconfiguredLinkLocalAddressOfIeee154Interface]
  simp only [Bool.not_eq_eq_eq_not, Bool.not_true, Bool.if_false_left, Bool.decide_eq_false,
    Bool.not_not, Bool.if_true_left, decide_eq_true_eq, Bool.and_eq_true, Bool.or_eq_true,
    beq_iff_eq, and_assoc, Vector.toList_mk]
  rw [and_or_left, or_comm]
  exact or_congr_right and_left_comm

/-! ## The correspondence -/

/-- Which addresses come back from a suffix, that these have different suffixes, and which
addresses are the autoconfigured ones of an interface. -/
theorem ipv6AddrSuffix_correspondence (ipv6Addr : Ipv6Addr) (panId : Ieee154PanId)
    (addr addr' : Ieee154Addr) (ifaceState : Ipv6NetIfaceIeee154State) :
    (ipv6AddrExtractFromSuffixIeee154AddrAny
        (ipv6AddrFillSuffixWithIeee154AddrAny ipv6Addr addr panId).toList panId = addr ↔
      SuffixFaithful panId addr) ∧
    (SuffixFaithful panId addr → SuffixFaithful panId addr' →
      ipv6AddrFillSuffixWithIeee154AddrAny ipv6Addr addr panId =
        ipv6AddrFillSuffixWithIeee154AddrAny ipv6Addr addr' panId → addr = addr') ∧
    (ipv6AddrIsAutoconfiguredLinkLocalAddressOfIeee154Interface ifaceState ipv6Addr = true ↔
      IsAutoconfigured ifaceState ipv6Addr) := by
  refine ⟨⟨?_, extractAny_fillAny⟩, ?_, isAutoconfigured_iff ifaceState ipv6Addr⟩
  · intro hback
    cases addr with
    | none => exact absurd hback (ipv6AddrExtractFromSuffixIeee154AddrAny_ne_none _ _)
    | shrt addr => trivial
    | ext addr =>
      intro hderived
      rw [extractAny_fillExt, if_pos hderived] at hback
      cases hback
  · intro h h' hfill
    calc addr
        = ipv6AddrExtractFromSuffixIeee154AddrAny
            (ipv6AddrFillSuffixWithIeee154AddrAny ipv6Addr addr panId).toList panId :=
          (extractAny_fillAny h).symm
      _ = ipv6AddrExtractFromSuffixIeee154AddrAny
            (ipv6AddrFillSuffixWithIeee154AddrAny ipv6Addr addr' panId).toList panId := by
          rw [hfill]
      _ = addr' := extractAny_fillAny h'

/-- An extended address and a short one with the same suffix under the PAN 0x0000. -/
theorem ipv6AddrSuffix_overlap :
    ipv6AddrFillSuffixWithIeee154AddrAny linkLocalPrefix
        (.ext #v[0x34, 0x12, 0, 0xfe, 0xff, 0, 0, 0x02]) #v[0, 0] =
      ipv6AddrFillSuffixWithIeee154AddrAny linkLocalPrefix (.shrt #v[0x34, 0x12]) #v[0, 0] ∧
    ipv6AddrExtractFromSuffixIeee154AddrAny
      (ipv6AddrFillSuffixWithIeee154AddrAny linkLocalPrefix
        (.ext #v[0x34, 0x12, 0, 0xfe, 0xff, 0, 0, 0x02]) #v[0, 0]).toList #v[0, 0] ≠
      .ext #v[0x34, 0x12, 0, 0xfe, 0xff, 0, 0, 0x02] := by
  decide

end Whip6
