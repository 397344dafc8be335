import Whip6.Ipv6.InterfaceState
import Whip6.Lib.Runs

/-!
# The address lists of an interface

Addresses are associated with an interface at the end of its two arrays, overwritten through the
pointers that come back, cleared, and verified.  The verification goes over all slots of an array,
also over the ones behind its list, where addresses of earlier lists are left.
-/

namespace Whip6

open Lib

/-- The two arrays of an interface. -/
inductive AddrKind
  | unicast
  | multicast
  deriving DecidableEq, Repr

/-- An array of addresses and the number of its slots that are in use. -/
structure AddrArr where
  slots : List Ipv6Addr
  len : UInt8
  deriving DecidableEq

/-- The addresses in the slots in use. -/
def AddrArr.addrs (arr : AddrArr) : List Ipv6Addr := arr.slots.take arr.len.toNat

namespace Ipv6NetIfaceGenericState

def arr (ifaceState : Ipv6NetIfaceGenericState) : AddrKind → AddrArr
  | .unicast => ⟨ifaceState.unicastAddrArrPtr.getD [], ifaceState.unicastAddrArrLen⟩
  | .multicast => ⟨ifaceState.multicastAddrArrPtr.getD [], ifaceState.multicastAddrArrLen⟩

def withArr (ifaceState : Ipv6NetIfaceGenericState) (arr : AddrArr) :
    AddrKind → Ipv6NetIfaceGenericState
  | .unicast =>
    { ifaceState with unicastAddrArrPtr := some arr.slots, unicastAddrArrLen := arr.len }
  | .multicast =>
    { ifaceState with multicastAddrArrPtr := some arr.slots, multicastAddrArrLen := arr.len }

@[simp] theorem arr_withArr (ifaceState : Ipv6NetIfaceGenericState) (arr : AddrArr)
    (kind : AddrKind) : (ifaceState.withArr arr kind).arr kind = arr := by
  cases kind <;> rfl

theorem arr_withArr_other (ifaceState : Ipv6NetIfaceGenericState) (arr : AddrArr)
    {kind kind' : AddrKind} (h : kind' ≠ kind) :
    (ifaceState.withArr arr kind).arr kind' = ifaceState.arr kind' := by
  cases kind <;> cases kind' <;> first | rfl | exact absurd rfl h

end Ipv6NetIfaceGenericState

/-! ## Associating an address -/

/-- The index of the slot, where one is free. -/
def associateAddr (arr : AddrArr) (maxAddrSlots : UInt8) : Option ℕ × AddrArr :=
  if maxAddrSlots ≤ arr.len then (none, arr)
  else (some arr.len.toNat,
    ⟨arr.slots.set arr.len.toNat ipv6AddrSetUndefinedAddr, arr.len + 1⟩)

def ipv6InterfaceAssociateUnicastAddr (ifaceState : Ipv6NetIfaceGenericState)
    (maxAddrSlots : UInt8) : Option ℕ × Ipv6NetIfaceGenericState :=
  let r := associateAddr (ifaceState.arr .unicast) maxAddrSlots
  (r.1, ifaceState.withArr r.2 .unicast)

def ipv6InterfaceAssociateMulticastAddr (ifaceState : Ipv6NetIfaceGenericState)
    (maxAddrSlots : UInt8) : Option ℕ × Ipv6NetIfaceGenericState :=
  let r := associateAddr (ifaceState.arr .multicast) maxAddrSlots
  (r.1, ifaceState.withArr r.2 .multicast)

/-! ## Verifying the addresses -/

/-- The loop over the slots from `i` on, with `j` valid addresses moved to the front so far. -/
def verifyLoop (valid : Ipv6Addr → Bool) : ℕ → List Ipv6Addr → ℕ → ℕ → List Ipv6Addr × ℕ
  | 0, slots, _, j => (slots, j)
  | left + 1, slots, i, j =>
    let curr := slots.getD i ipv6AddrSetUndefinedAddr
    if valid curr then
      verifyLoop valid left (if i > j then slots.set j curr else slots) (i + 1) (j + 1)
    else verifyLoop valid left slots (i + 1) j

/-- The number of slots without a valid address, and the array. -/
def verifyAddrs (valid : Ipv6Addr → Bool) (arr : AddrArr) (maxAddrSlots : UInt8) :
    UInt8 × AddrArr :=
  let r := verifyLoop valid maxAddrSlots.toNat arr.slots 0 0
  (maxAddrSlots - UInt8.ofNat r.2, ⟨r.1, UInt8.ofNat r.2⟩)

def isValidUnicast (addr : Ipv6Addr) : Bool :=
  !ipv6AddrIsUndefined addr.toList && !ipv6AddrIsMulticast addr.toList

def isValidMulticast (addr : Ipv6Addr) : Bool :=
  !ipv6AddrIsUndefined addr.toList && ipv6AddrIsMulticast addr.toList

def ipv6InterfaceVerifyUnicastAddrs (ifaceState : Ipv6NetIfaceGenericState)
    (maxAddrSlots : UInt8) : UInt8 × Ipv6NetIfaceGenericState :=
  let r := verifyAddrs isValidUnicast (ifaceState.arr .unicast) maxAddrSlots
  (r.1, ifaceState.withArr r.2 .unicast)

def ipv6InterfaceVerifyMulticastAddrs (ifaceState : Ipv6NetIfaceGenericState)
    (maxAddrSlots : UInt8) : UInt8 × Ipv6NetIfaceGenericState :=
  let r := verifyAddrs isValidMulticast (ifaceState.arr .multicast) maxAddrSlots
  (r.1, ifaceState.withArr r.2 .multicast)

/-- The addresses that may be in an array. -/
def isValid : AddrKind → Ipv6Addr → Bool
  | .unicast => isValidUnicast
  | .multicast => isValidMulticast

theorem isValid_undefined (kind : AddrKind) : isValid kind ipv6AddrSetUndefinedAddr = false := by
  cases kind <;> decide

/-! ## The lists over time -/

/-- `GenericIPv6InterfaceStateUpdater.clearAssociatedAddresses` -/
def clearAssociatedAddresses (ifaceState : Ipv6NetIfaceGenericState) : Ipv6NetIfaceGenericState :=
  { ifaceState with unicastAddrArrLen := 0, multicastAddrArrLen := 0 }

/-- `GenericIPv6InterfaceStateUpdater.compactAssociatedAddresses` -/
def compactAssociatedAddresses (maxUnicast maxMulticast : UInt8)
    (ifaceState : Ipv6NetIfaceGenericState) : Ipv6NetIfaceGenericState :=
  (ipv6InterfaceVerifyMulticastAddrs
    (ipv6InterfaceVerifyUnicastAddrs ifaceState maxUnicast).2 maxMulticast).2

/-- What is done to the lists. -/
inductive AddrAction
  | associate (kind : AddrKind)
  | overwrite (kind : AddrKind) (k : ℕ) (addr : Ipv6Addr)
  | clear
  | verify (kind : AddrKind)

/-- An address is written to the slot `k` of a list. -/
def overwriteAddr (arr : AddrArr) (k : ℕ) (addr : Ipv6Addr) : AddrArr :=
  if k < arr.len.toNat then ⟨arr.slots.set k addr, arr.len⟩ else arr

def associateOf : AddrKind → Ipv6NetIfaceGenericState → UInt8 →
    Option ℕ × Ipv6NetIfaceGenericState
  | .unicast => ipv6InterfaceAssociateUnicastAddr
  | .multicast => ipv6InterfaceAssociateMulticastAddr

def verifyOf : AddrKind → Ipv6NetIfaceGenericState → UInt8 → UInt8 × Ipv6NetIfaceGenericState
  | .unicast => ipv6InterfaceVerifyUnicastAddrs
  | .multicast => ipv6InterfaceVerifyMulticastAddrs

/-- One action; the result of a verification is the act of the step. -/
def addrStep (maxAddrSlots : AddrKind → UInt8) (ifaceState : Ipv6NetIfaceGenericState) :
    AddrAction → Ipv6NetIfaceGenericState × List UInt8
  | .associate kind => ((associateOf kind ifaceState (maxAddrSlots kind)).2, [])
  | .overwrite kind k addr =>
    (ifaceState.withArr (overwriteAddr (ifaceState.arr kind) k addr) kind, [])
  | .clear => (clearAssociatedAddresses ifaceState, [])
  | .verify kind =>
    let r := verifyOf kind ifaceState (maxAddrSlots kind)
    (r.2, [r.1])

/-- The same actions on lists. -/
def listStep (maxAddrSlots : AddrKind → UInt8) (lists : AddrKind → List Ipv6Addr) :
    AddrAction → AddrKind → List Ipv6Addr
  | .associate kind => Function.update lists kind
      (if (lists kind).length < (maxAddrSlots kind).toNat then
        lists kind ++ [ipv6AddrSetUndefinedAddr] else lists kind)
  | .overwrite kind k addr => Function.update lists kind ((lists kind).set k addr)
  | .clear => fun _ => []
  | .verify kind => Function.update lists kind ((lists kind).filter (isValid kind))

/-! ## One verification -/

/-- What the loop leaves: the valid addresses in front, and every slot behind them as it was. -/
theorem verifyLoop_spec (valid : Ipv6Addr → Bool) (orig : List Ipv6Addr) (left : ℕ)
    (slots : List Ipv6Addr) (i j : ℕ) (hi : i + left ≤ orig.length) (hj : j ≤ i)
    (htake : slots.take j = (orig.take i).filter valid) (hdrop : slots.drop j = orig.drop j)
    (hlen : slots.length = orig.length) :
    let r := verifyLoop valid left slots i j
    r.1.take r.2 = (orig.take (i + left)).filter valid ∧ r.1.drop r.2 = orig.drop r.2 ∧
      r.1.length = orig.length ∧ r.2 ≤ i + left := by
  induction left generalizing slots i j with
  | zero => exact ⟨htake, hdrop, hlen, hj⟩
  | succ left ih =>
    have hlt : i < orig.length := by omega
    have hcurr : slots.getD i ipv6AddrSetUndefinedAddr = orig[i] := by
      have hget : (slots.drop j)[i - j]? = (orig.drop j)[i - j]? := by rw [hdrop]
      rw [List.getElem?_drop, List.getElem?_drop, Nat.add_sub_cancel' hj,
        List.getElem?_eq_getElem hlt] at hget
      rw [List.getD_eq_getElem?_getD, hget, Option.getD_some]
    have hnext : (orig.take (i + 1)).filter valid =
        (orig.take i).filter valid ++ if valid orig[i] then [orig[i]] else [] := by
      rw [List.take_succ_eq_append_getElem hlt, List.filter_append, List.filter_singleton,
        cond_eq_ite]
    unfold verifyLoop
    dsimp only
    rw [hcurr, show i + (left + 1) = i + 1 + left by omega]
    split_ifs with hvalid hgt
    · refine ih (slots.set j orig[i]) (i + 1) (j + 1) (by omega) (by omega) ?_ ?_ (by simpa)
      · rw [hnext, if_pos hvalid, ← htake,
          List.take_succ_eq_append_getElem (by rw [List.length_set]; omega),
          List.take_set_of_le (le_refl j), List.getElem_set_self]
      · rw [List.drop_set_of_lt (by omega)]
        have := congrArg (List.drop 1) hdrop
        simpa [List.drop_drop] using this
    · obtain rfl : i = j := by omega
      refine ih slots (i + 1) (i + 1) (by omega) (by omega) ?_ ?_ hlen
      · have hi' : i < slots.length := by omega
        have hsame : slots[i] = orig[i] := by
          rw [← hcurr, List.getD_eq_getElem?_getD, List.getElem?_eq_getElem, Option.getD_some]
        rw [hnext, if_pos hvalid, ← htake, List.take_succ_eq_append_getElem (by omega), hsame]
      · have := congrArg (List.drop 1) hdrop
        simpa [List.drop_drop] using this
    · refine ih slots (i + 1) j (by omega) (by omega) ?_ hdrop hlen
      rw [hnext, if_neg hvalid, List.append_nil, htake]

/-- The slots behind the list that a verification looks at. -/
def AddrArr.stale (arr : AddrArr) (maxAddrSlots : UInt8) : List Ipv6Addr :=
  (arr.slots.take maxAddrSlots.toNat).drop arr.len.toNat

/-- The list is within its slots, and these within the array. -/
structure AddrArr.Fits (arr : AddrArr) (maxAddrSlots : UInt8) : Prop where
  len_le : arr.len.toNat ≤ maxAddrSlots.toNat
  slots_le : maxAddrSlots.toNat ≤ arr.slots.length

namespace AddrArr.Fits

variable {arr : AddrArr} {maxAddrSlots : UInt8}

theorem length_addrs (h : arr.Fits maxAddrSlots) : arr.addrs.length = arr.len.toNat := by
  rw [AddrArr.addrs, List.length_take]
  have := h.len_le
  have := h.slots_le
  omega

theorem take_slots (h : arr.Fits maxAddrSlots) :
    arr.slots.take maxAddrSlots.toNat = arr.addrs ++ arr.stale maxAddrSlots := by
  have happ := List.take_append_drop arr.len.toNat (arr.slots.take maxAddrSlots.toNat)
  rw [List.take_take, min_eq_left h.len_le] at happ
  exact happ.symm

theorem length_stale (h : arr.Fits maxAddrSlots) :
    (arr.stale maxAddrSlots).length = maxAddrSlots.toNat - arr.len.toNat := by
  rw [AddrArr.stale, List.length_drop, List.length_take, min_eq_left h.slots_le]

end AddrArr.Fits

/-- What a verification leaves and returns. -/
structure Verified (valid : Ipv6Addr → Bool) (arr : AddrArr) (maxAddrSlots : UInt8)
    (r : UInt8 × AddrArr) : Prop where
  addrs : r.2.addrs = arr.addrs.filter valid ++ (arr.stale maxAddrSlots).filter valid
  fits : r.2.Fits maxAddrSlots
  result : r.1.toNat = maxAddrSlots.toNat - r.2.len.toNat

theorem verifyAddrs_verified (valid : Ipv6Addr → Bool) {arr : AddrArr} {maxAddrSlots : UInt8}
    (h : arr.Fits maxAddrSlots) :
    Verified valid arr maxAddrSlots (verifyAddrs valid arr maxAddrSlots) := by
  have hslots := h.slots_le
  have hmax := UInt8.toNat_lt maxAddrSlots
  obtain ⟨htake, -, hlen, hle⟩ := verifyLoop_spec valid arr.slots maxAddrSlots.toNat
    arr.slots 0 0 (by omega) (le_refl 0) rfl rfl rfl
  rw [Nat.zero_add] at htake hle
  unfold verifyAddrs
  dsimp only
  generalize verifyLoop valid maxAddrSlots.toNat arr.slots 0 0 = r at htake hlen hle ⊢
  have hj : (UInt8.ofNat r.2).toNat = r.2 := UInt8.toNat_ofNat_of_lt' (by
    rw [show UInt8.size = 256 from rfl]
    omega)
  refine ⟨?_, ⟨?_, ?_⟩, ?_⟩
  · show r.1.take (UInt8.ofNat r.2).toNat = _
    rw [hj, htake, h.take_slots, List.filter_append]
  · show (UInt8.ofNat r.2).toNat ≤ _
    omega
  · show _ ≤ r.1.length
    omega
  · show (maxAddrSlots - UInt8.ofNat r.2).toNat = _ - (UInt8.ofNat r.2).toNat
    exact UInt8.toNat_sub_of_le _ _ (UInt8.le_iff_toNat_le.mpr (by omega))

/-- The list is what it should be exactly when no slot behind it holds a valid address. -/
theorem Verified.addrs_eq_iff {valid : Ipv6Addr → Bool} {arr : AddrArr} {maxAddrSlots : UInt8}
    {r : UInt8 × AddrArr} (h : Verified valid arr maxAddrSlots r) :
    r.2.addrs = arr.addrs.filter valid ↔ ∀ addr ∈ arr.stale maxAddrSlots, ¬ valid addr = true := by
  rw [h.addrs, List.append_right_eq_self, List.filter_eq_nil_iff]

/-- What a verification has to do: the valid addresses of the list are left in their order, their
number is right, and a second verification does nothing. -/
def VerifyRight (valid : Ipv6Addr → Bool) (arr : AddrArr) (maxAddrSlots : UInt8) : Prop :=
  let r := verifyAddrs valid arr maxAddrSlots
  let r' := verifyAddrs valid r.2 maxAddrSlots
  r.2.addrs = arr.addrs.filter valid ∧
    r.1.toNat = arr.addrs.length - (arr.addrs.filter valid).length ∧
    r'.1 = 0 ∧ r'.2.addrs = r.2.addrs

/-- The list takes all slots, and there is nothing to do. -/
def NothingToDo (valid : Ipv6Addr → Bool) (arr : AddrArr) (maxAddrSlots : UInt8) : Prop :=
  arr.len = maxAddrSlots ∧ ∀ addr ∈ arr.addrs, valid addr = true

theorem verifyRight_iff (valid : Ipv6Addr → Bool) {arr : AddrArr} {maxAddrSlots : UInt8}
    (h : arr.Fits maxAddrSlots) :
    VerifyRight valid arr maxAddrSlots ↔ NothingToDo valid arr maxAddrSlots := by
  have hv := verifyAddrs_verified valid h
  have hv' := verifyAddrs_verified valid hv.fits
  unfold VerifyRight NothingToDo
  dsimp only
  generalize verifyAddrs valid arr maxAddrSlots = r at hv hv' ⊢
  generalize verifyAddrs valid r.2 maxAddrSlots = r' at hv' ⊢
  have hlen := h.length_addrs
  have hlen' := hv.fits.length_addrs
  have hlen'' := hv'.fits.length_addrs
  constructor
  · rintro ⟨haddrs, hcount, hzero, hsame⟩
    have hle := List.length_filter_le valid arr.addrs
    have hj : r.2.len.toNat = (arr.addrs.filter valid).length := by rw [← hlen', haddrs]
    have hfull : arr.len.toNat = maxAddrSlots.toNat := by
      have := hv.result
      have := hv.fits.len_le
      have := h.len_le
      omega
    -- The second verification finds all slots valid, and none behind the list.
    have hfull' : r'.2.len.toNat = maxAddrSlots.toNat := by
      have hresult := hv'.result
      rw [hzero] at hresult
      have := hv'.fits.len_le
      have : (0 : UInt8).toNat = 0 := rfl
      omega
    have hlen_eq : r.2.len.toNat = maxAddrSlots.toNat := by
      rw [← hfull', ← hlen', ← hlen'', hsame]
    refine ⟨UInt8.toNat_inj.mp hfull, fun addr haddr => ?_⟩
    have heq : arr.addrs.filter valid = arr.addrs :=
      List.filter_sublist.eq_of_length_le (by omega)
    exact List.filter_eq_self.mp heq addr haddr
  · rintro ⟨hfull, hall⟩
    have hfull' : arr.len.toNat = maxAddrSlots.toNat := by rw [hfull]
    have hfilter : arr.addrs.filter valid = arr.addrs := List.filter_eq_self.mpr hall
    have haddrs : r.2.addrs = arr.addrs := by
      have hstale : arr.stale maxAddrSlots = [] := List.eq_nil_of_length_eq_zero (by
        rw [h.length_stale]
        omega)
      rw [hv.addrs, hfilter, hstale, List.filter_nil, List.append_nil]
    have hj : r.2.len.toNat = maxAddrSlots.toNat := by rw [← hlen', haddrs, hlen, hfull']
    have haddrs' : r'.2.addrs = r.2.addrs := by
      have hstale : r.2.stale maxAddrSlots = [] := List.eq_nil_of_length_eq_zero (by
        rw [hv.fits.length_stale]
        omega)
      rw [hv'.addrs, haddrs, hfilter, hstale, List.filter_nil, List.append_nil]
    refine ⟨by rw [haddrs, hfilter], ?_, ?_, haddrs'⟩
    · rw [hfilter, hv.result]
      omega
    · have hj' : r'.2.len.toNat = maxAddrSlots.toNat := by rw [← hlen'', haddrs', hlen', hj]
      apply UInt8.toNat_inj.mp
      rw [hv'.result, hj', Nat.sub_self]
      rfl

/-! ## Every run -/

/-- The two lists fit their arrays. -/
def ListsFit (maxAddrSlots : AddrKind → UInt8) (ifaceState : Ipv6NetIfaceGenericState) : Prop :=
  ∀ kind, (ifaceState.arr kind).Fits (maxAddrSlots kind)

/-- The lists of a state. -/
def listsOf (ifaceState : Ipv6NetIfaceGenericState) (kind : AddrKind) : List Ipv6Addr :=
  (ifaceState.arr kind).addrs

theorem associateOf_arr (kind : AddrKind) (ifaceState : Ipv6NetIfaceGenericState)
    (maxAddrSlots : UInt8) :
    (associateOf kind ifaceState maxAddrSlots).2 =
      ifaceState.withArr (associateAddr (ifaceState.arr kind) maxAddrSlots).2 kind := by
  cases kind <;> rfl

theorem verifyOf_arr (kind : AddrKind) (ifaceState : Ipv6NetIfaceGenericState)
    (maxAddrSlots : UInt8) :
    (verifyOf kind ifaceState maxAddrSlots).2 =
      ifaceState.withArr (verifyAddrs (isValid kind) (ifaceState.arr kind) maxAddrSlots).2 kind := by
  cases kind <;> rfl

theorem AddrArr.Fits.associate {arr : AddrArr} {maxAddrSlots : UInt8} (h : arr.Fits maxAddrSlots) :
    (associateAddr arr maxAddrSlots).2.Fits maxAddrSlots ∧
      (associateAddr arr maxAddrSlots).2.addrs =
        if arr.addrs.length < maxAddrSlots.toNat then arr.addrs ++ [ipv6AddrSetUndefinedAddr]
        else arr.addrs := by
  have hlen := h.length_addrs
  have hslots := h.slots_le
  unfold associateAddr
  split_ifs with hfull hlt hlt
  · exact absurd (UInt8.le_iff_toNat_le.mp hfull) (by omega)
  · exact ⟨h, rfl⟩
  · have hnext : (arr.len + 1).toNat = arr.len.toNat + 1 := by
      rw [UInt8.toNat_add, UInt8.toNat_one]
      have := UInt8.toNat_lt maxAddrSlots
      omega
    refine ⟨⟨?_, ?_⟩, ?_⟩
    · show (arr.len + 1).toNat ≤ _
      omega
    · simpa using hslots
    · show (arr.slots.set _ _).take (arr.len + 1).toNat = _
      rw [hnext, List.take_succ_eq_append_getElem (by rw [List.length_set]; omega),
        List.take_set_of_le (le_refl _), List.getElem_set_self]
      rfl
  · exact absurd (UInt8.le_iff_toNat_le.mpr (by omega)) hfull

theorem AddrArr.Fits.overwrite {arr : AddrArr} {maxAddrSlots : UInt8} (h : arr.Fits maxAddrSlots)
    (k : ℕ) (addr : Ipv6Addr) :
    (overwriteAddr arr k addr).Fits maxAddrSlots ∧
      (overwriteAddr arr k addr).addrs = arr.addrs.set k addr := by
  unfold overwriteAddr
  split_ifs with hk
  · refine ⟨⟨h.len_le, by simpa using h.slots_le⟩, ?_⟩
    simp only [AddrArr.addrs, List.take_set]
  · refine ⟨h, ?_⟩
    rw [List.set_eq_of_length_le (by rw [h.length_addrs]; omega)]

theorem clear_arr (ifaceState : Ipv6NetIfaceGenericState) (kind : AddrKind) :
    (clearAssociatedAddresses ifaceState).arr kind = ⟨(ifaceState.arr kind).slots, 0⟩ := by
  cases kind <;> rfl

theorem ListsFit.withArr {maxAddrSlots : AddrKind → UInt8} {ifaceState : Ipv6NetIfaceGenericState}
    (h : ListsFit maxAddrSlots ifaceState) {arr : AddrArr} {kind : AddrKind}
    (harr : arr.Fits (maxAddrSlots kind)) : ListsFit maxAddrSlots (ifaceState.withArr arr kind) := by
  intro kind'
  by_cases hkind : kind' = kind
  · subst hkind
    rw [Ipv6NetIfaceGenericState.arr_withArr]
    exact harr
  · rw [Ipv6NetIfaceGenericState.arr_withArr_other _ _ hkind]
    exact h kind'

theorem listsOf_withArr (ifaceState : Ipv6NetIfaceGenericState) (arr : AddrArr) (kind : AddrKind) :
    listsOf (ifaceState.withArr arr kind) =
      Function.update (listsOf ifaceState) kind arr.addrs := by
  funext kind'
  unfold listsOf
  by_cases hkind : kind' = kind
  · subst hkind
    rw [Ipv6NetIfaceGenericState.arr_withArr, Function.update_self]
  · rw [Ipv6NetIfaceGenericState.arr_withArr_other _ _ hkind, Function.update_of_ne hkind]

theorem listsFit_step {maxAddrSlots : AddrKind → UInt8} {ifaceState : Ipv6NetIfaceGenericState}
    (h : ListsFit maxAddrSlots ifaceState) (action : AddrAction) :
    ListsFit maxAddrSlots (addrStep maxAddrSlots ifaceState action).1 := by
  cases action with
  | associate kind =>
    rw [addrStep, associateOf_arr]
    exact h.withArr (h kind).associate.1
  | overwrite kind k addr => exact h.withArr ((h kind).overwrite k addr).1
  | clear =>
    intro kind
    rw [addrStep, clear_arr]
    exact ⟨Nat.zero_le _, (h kind).slots_le⟩
  | verify kind =>
    rw [addrStep, verifyOf_arr]
    exact h.withArr (verifyAddrs_verified (isValid kind) (h kind)).fits

/-- A verification finds no valid address behind the list. -/
def NoneStale (maxAddrSlots : AddrKind → UInt8) (ifaceState : Ipv6NetIfaceGenericState) :
    AddrAction → Prop
  | .verify kind => ∀ addr ∈ (ifaceState.arr kind).stale (maxAddrSlots kind),
      ¬ isValid kind addr = true
  | _ => True

/-- Such a step does to the lists what it should. -/
theorem listsOf_step {maxAddrSlots : AddrKind → UInt8} {ifaceState : Ipv6NetIfaceGenericState}
    (h : ListsFit maxAddrSlots ifaceState) {action : AddrAction}
    (hnone : NoneStale maxAddrSlots ifaceState action) :
    listsOf (addrStep maxAddrSlots ifaceState action).1 =
      listStep maxAddrSlots (listsOf ifaceState) action := by
  cases action with
  | associate kind =>
    rw [addrStep, associateOf_arr, listsOf_withArr, (h kind).associate.2]
    rfl
  | overwrite kind k addr =>
    rw [addrStep, listsOf_withArr, ((h kind).overwrite k addr).2]
    rfl
  | clear =>
    funext kind
    rw [addrStep, listsOf, clear_arr]
    rfl
  | verify kind =>
    rw [addrStep, verifyOf_arr, listsOf_withArr,
      (verifyAddrs_verified (isValid kind) (h kind)).addrs_eq_iff.mpr hnone]
    rfl

/-- The interface before the first action: both lists are empty. -/
def emptyLists (ifaceState : Ipv6NetIfaceGenericState) (slots : AddrKind → List Ipv6Addr) :
    Ipv6NetIfaceGenericState :=
  (ifaceState.withArr ⟨slots .unicast, 0⟩ .unicast).withArr ⟨slots .multicast, 0⟩ .multicast

theorem emptyLists_arr (ifaceState : Ipv6NetIfaceGenericState) (slots : AddrKind → List Ipv6Addr)
    (kind : AddrKind) : (emptyLists ifaceState slots).arr kind = ⟨slots kind, 0⟩ := by
  cases kind <;> rfl

theorem listsFit_run {maxAddrSlots : AddrKind → UInt8} {ifaceState : Ipv6NetIfaceGenericState}
    (h : ListsFit maxAddrSlots ifaceState) (actions : List AddrAction) :
    ListsFit maxAddrSlots (run (addrStep maxAddrSlots) ifaceState actions).1 := by
  induction actions generalizing ifaceState with
  | nil => exact h
  | cons action actions ih => exact ih (listsFit_step h action)

theorem listsOf_run {maxAddrSlots : AddrKind → UInt8} {ifaceState : Ipv6NetIfaceGenericState}
    (h : ListsFit maxAddrSlots ifaceState) {actions : List AddrAction}
    (hmeets : RunMeets (addrStep maxAddrSlots) (NoneStale maxAddrSlots) ifaceState actions) :
    listsOf (run (addrStep maxAddrSlots) ifaceState actions).1 =
      actions.foldl (listStep maxAddrSlots) (listsOf ifaceState) := by
  induction actions generalizing ifaceState with
  | nil => rfl
  | cons action actions ih =>
    rw [List.foldl_cons, ← listsOf_step h hmeets.1, fst_run_cons]
    exact ih (listsFit_step h action) hmeets.2

/-- In every state that is reached, a verification leaves the right list exactly when no slot
behind it holds a valid address, and does all that it should exactly when there is nothing to do;
and where every verification of a run finds no valid address behind a list, the lists are those of
the actions. -/
theorem interfaceAddressLists_runs (maxAddrSlots : AddrKind → UInt8)
    (ifaceState : Ipv6NetIfaceGenericState) (slots : AddrKind → List Ipv6Addr)
    (hslots : ∀ kind, (maxAddrSlots kind).toNat ≤ (slots kind).length)
    (actions : List AddrAction) :
    let start := emptyLists ifaceState slots
    let s := (run (addrStep maxAddrSlots) start actions).1
    (∀ kind, listsOf (verifyOf kind s (maxAddrSlots kind)).2 kind =
        (listsOf s kind).filter (isValid kind) ↔ NoneStale maxAddrSlots s (.verify kind)) ∧
    (∀ kind, VerifyRight (isValid kind) (s.arr kind) (maxAddrSlots kind) ↔
      NothingToDo (isValid kind) (s.arr kind) (maxAddrSlots kind)) ∧
    (RunMeets (addrStep maxAddrSlots) (NoneStale maxAddrSlots) start actions →
      listsOf s = actions.foldl (listStep maxAddrSlots) fun _ => []) := by
  have hstart : ListsFit maxAddrSlots (emptyLists ifaceState slots) := by
    intro kind
    rw [emptyLists_arr]
    exact ⟨Nat.zero_le _, hslots kind⟩
  have hempty : listsOf (emptyLists ifaceState slots) = fun _ => [] := by
    funext kind
    rw [listsOf, emptyLists_arr]
    rfl
  have hfit := listsFit_run hstart actions
  refine ⟨fun kind => ?_, fun kind => verifyRight_iff (isValid kind) (hfit kind), fun hmeets => ?_⟩
  · rw [verifyOf_arr, listsOf_withArr, Function.update_self]
    exact (verifyAddrs_verified (isValid kind) (hfit kind)).addrs_eq_iff
  · rw [← hempty]
    exact listsOf_run hstart hmeets

/-- `2001:db8::a` -/
def listedAddr : Ipv6Addr := #v[0x20, 0x01, 0x0d, 0xb8, 0, 0, 0, 0, 0, 0, 0, 0, 0, 0, 0, 10]

/-- Two slots for unicast addresses and none for groups. -/
def twoSlots : AddrKind → List Ipv6Addr
  | .unicast => [ipv6AddrSetUndefinedAddr, ipv6AddrSetUndefinedAddr]
  | .multicast => []

def twoSlotsMax : AddrKind → UInt8
  | .unicast => 2
  | .multicast => 0

/-- A full list of valid addresses is left as it is. -/
theorem interfaceAddressLists_runs_full :
    VerifyRight isValidUnicast
      ((run (addrStep twoSlotsMax) (emptyLists ⟨0x10, 0, 0, 0, none, none⟩ twoSlots)
        [.associate .unicast, .overwrite .unicast 0 listedAddr, .associate .unicast,
          .overwrite .unicast 1 listedAddr]).1.arr .unicast) 2 := by
  apply ((interfaceAddressLists_runs twoSlotsMax ⟨0x10, 0, 0, 0, none, none⟩ twoSlots
    (fun kind => by cases kind <;> decide) _).2.1 .unicast).mpr
  have harr : (run (addrStep twoSlotsMax) (emptyLists ⟨0x10, 0, 0, 0, none, none⟩ twoSlots)
      [.associate .unicast, .overwrite .unicast 0 listedAddr, .associate .unicast,
        .overwrite .unicast 1 listedAddr]).1.arr .unicast = ⟨[listedAddr, listedAddr], 2⟩ := by
    decide +kernel
  rw [harr]
  refine ⟨rfl, fun addr haddr => ?_⟩
  obtain rfl : addr = listedAddr := by simpa [AddrArr.addrs] using haddr
  decide

/-- An address that was cleared comes back with the compaction. -/
theorem interfaceAddressLists_resurrects :
    let cleared := (run (addrStep twoSlotsMax) (emptyLists ⟨0x10, 0, 0, 0, none, none⟩ twoSlots)
      [.associate .unicast, .overwrite .unicast 0 listedAddr, .clear]).1
    listsOf cleared .unicast = [] ∧
      listsOf (compactAssociatedAddresses 2 0 cleared) .unicast = [listedAddr] ∧
      ¬ VerifyRight isValidUnicast (cleared.arr .unicast) 2 := by
  refine ⟨by decide +kernel, by decide +kernel, fun h => ?_⟩
  have haddrs := h.1
  exact absurd haddrs (by decide +kernel)

end Whip6
