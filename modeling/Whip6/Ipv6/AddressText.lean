import Whip6.Ipv6.Packet
import Whip6.Lib.LongestRun

/-!
# The text of an IPv6 address

An address is eight groups of 16 bits.  Its canonical text has the groups in hexadecimal, in lower
case and without leading zeros, between colons; the leftmost longest run of two zero groups or more
is written as two colons.  A text is read back group by group; two colons stand for as many zero
groups as are missing.
-/

namespace Whip6

open Lib

/-- The groups of an address. -/
def ipv6AddrGroups : List UInt8 → List ℕ
  | hi :: lo :: rest => (hi.toNat * 256 + lo.toNat) :: ipv6AddrGroups rest
  | _ => []

/-- The hexadecimal groups between colons. -/
def joinGroups (gs : List ℕ) : List Char := [':'].intercalate (gs.map (Nat.toDigits 16))

/-- The canonical text of a list of groups. -/
inductive CanonicalText (gs : List ℕ) : List Char → Prop
  | compressed {i n : ℕ} (hn : 2 ≤ n) (hrun : LeftmostLongest (· = 0) gs i n) :
    CanonicalText gs (joinGroups (gs.take i) ++ ':' :: ':' :: joinGroups (gs.drop (i + n)))
  | plain (hrun : ∀ i n, IsStretch (· = 0) gs i n → n < 2) : CanonicalText gs (joinGroups gs)

/-! ## Reading a text -/

/-- The value of a hexadecimal digit. -/
def hexDigitValue (c : Char) : Option ℕ :=
  if '0' ≤ c ∧ c ≤ '9' then some (c.toNat - '0'.toNat)
  else if 'a' ≤ c ∧ c ≤ 'f' then some (c.toNat - 'a'.toNat + 10)
  else if 'A' ≤ c ∧ c ≤ 'F' then some (c.toNat - 'A'.toNat + 10)
  else none

/-- The value of a hexadecimal number, behind digits with the value `acc`. -/
def hexNumber (acc : ℕ) : List Char → Option ℕ
  | [] => some acc
  | c :: cs => do
    let d ← hexDigitValue c
    hexNumber (16 * acc + d) cs

/-- A group has one to four digits. -/
def readGroup (text : List Char) : Option ℕ :=
  if text = [] ∨ 4 < text.length then none else hexNumber 0 text

/-- The groups between colons; there may be none. -/
def readGroups (text : List Char) : Option (List ℕ) :=
  if text = [] then some [] else (text.splitOn ':').mapM readGroup

/-- The text before and behind the first two colons. -/
def splitDoubleColon : List Char → Option (List Char × List Char)
  | [] => none
  | [_] => none
  | c :: c' :: cs =>
    if c = ':' ∧ c' = ':' then some ([], cs)
    else (splitDoubleColon (c' :: cs)).map fun r => (c :: r.1, r.2)

/-- The eight groups of a text. -/
def readAddrGroups (text : List Char) : Option (List ℕ) :=
  match splitDoubleColon text with
  | none => do
    let gs ← readGroups text
    if gs.length = 8 then some gs else none
  | some (before, behind) => do
    let gs ← readGroups before
    let gs' ← readGroups behind
    if gs.length + gs'.length < 8 then
      some (gs ++ List.replicate (8 - (gs.length + gs'.length)) 0 ++ gs')
    else none

/-- The bytes of groups. -/
def groupBytes : List ℕ → List UInt8
  | [] => []
  | g :: gs => UInt8.ofNat (g / 256) :: UInt8.ofNat (g % 256) :: groupBytes gs

/-- The address a text stands for. -/
def readIpv6Addr (text : List Char) : Option Ipv6Addr := do
  let gs ← readAddrGroups text
  if h : (groupBytes gs).length = 16 then some ⟨(groupBytes gs).toArray, h⟩ else none

example : readIpv6Addr ['f', 'e', '8', '0', ':', ':', '1'] =
    some #v[0xfe, 0x80, 0, 0, 0, 0, 0, 0, 0, 0, 0, 0, 0, 0, 0, 1] := by decide

/-! ## Groups and bytes -/

theorem groupBytes_ipv6AddrGroups (bytes : List UInt8) (h : bytes.length % 2 = 0) :
    groupBytes (ipv6AddrGroups bytes) = bytes := by
  induction bytes using ipv6AddrGroups.induct with
  | case1 hi lo rest ih =>
    have hlo := lo.toNat_lt
    have hdiv : (hi.toNat * 256 + lo.toNat) / 256 = hi.toNat := by omega
    have hmod : (hi.toNat * 256 + lo.toNat) % 256 = lo.toNat := by omega
    rw [ipv6AddrGroups, groupBytes, hdiv, hmod, UInt8.ofNat_toNat, UInt8.ofNat_toNat, ih]
    simp only [List.length_cons] at h
    omega
  | case2 bytes hne =>
    match bytes, h with
    | [], _ => rfl
    | [_], h => simp at h
    | hi :: lo :: rest, _ => exact absurd rfl (hne hi lo rest)

theorem length_ipv6AddrGroups (bytes : List UInt8) :
    (ipv6AddrGroups bytes).length = bytes.length / 2 := by
  induction bytes using ipv6AddrGroups.induct with
  | case1 hi lo rest ih =>
    rw [ipv6AddrGroups, List.length_cons, ih, List.length_cons, List.length_cons]
    omega
  | case2 bytes hne =>
    match bytes with
    | [] => rfl
    | [_] => simp [ipv6AddrGroups]
    | hi :: lo :: rest => exact absurd rfl (hne hi lo rest)

theorem ipv6AddrGroups_lt (bytes : List UInt8) : ∀ g ∈ ipv6AddrGroups bytes, g < 65536 := by
  induction bytes using ipv6AddrGroups.induct with
  | case1 hi lo rest ih =>
    intro g hg
    rcases List.mem_cons.mp hg with rfl | hg
    · have := hi.toNat_lt
      have := lo.toNat_lt
      omega
    · exact ih g hg
  | case2 bytes hne =>
    match bytes with
    | [] => simp [ipv6AddrGroups]
    | [_] => simp [ipv6AddrGroups]
    | hi :: lo :: rest => exact absurd rfl (hne hi lo rest)

/-! ## One group -/

theorem hexDigitValue_digitChar : ∀ d < 16, hexDigitValue (Nat.digitChar d) = some d := by
  decide

theorem digitChar_ne : ∀ d < 16, Nat.digitChar d ≠ ':' ∧ Nat.digitChar d ≠ '\x00' := by
  decide

theorem hexNumber_append (acc : ℕ) (xs ys : List Char) :
    hexNumber acc (xs ++ ys) = (hexNumber acc xs).bind fun n => hexNumber n ys := by
  induction xs generalizing acc with
  | nil => rfl
  | cons c cs ih =>
    rw [List.cons_append, hexNumber, hexNumber]
    cases hexDigitValue c with
    | none => rfl
    | some d => exact ih (16 * acc + d)

/-- The digits of a number read back. -/
theorem hexNumber_toDigits (n : ℕ) : hexNumber 0 (Nat.toDigits 16 n) = some n := by
  induction n using Nat.strong_induction_on with
  | _ n ih =>
    rcases Nat.lt_or_ge n 16 with hlt | hge
    · rw [Nat.toDigits_of_lt_base hlt, hexNumber, hexDigitValue_digitChar n hlt]
      simp [hexNumber]
    · have hmod := Nat.mod_lt n (show 0 < 16 by decide)
      rw [Nat.toDigits_of_base_le (by decide) hge, hexNumber_append, ih (n / 16) (by omega)]
      rw [Option.bind_some, hexNumber, hexDigitValue_digitChar _ hmod]
      simp only [hexNumber, Option.bind_eq_bind, Option.bind_some, Option.some.injEq]
      omega

theorem mem_toDigits {n : ℕ} {c : Char} (h : c ∈ Nat.toDigits 16 n) :
    ∃ d < 16, c = Nat.digitChar d := by
  induction n using Nat.strong_induction_on with
  | _ n ih =>
    rcases Nat.lt_or_ge n 16 with hlt | hge
    · rw [Nat.toDigits_of_lt_base hlt, List.mem_singleton] at h
      exact ⟨n, hlt, h⟩
    · rw [Nat.toDigits_of_base_le (by decide) hge, List.mem_append, List.mem_singleton] at h
      rcases h with h | h
      · exact ih (n / 16) (by omega) h
      · exact ⟨n % 16, Nat.mod_lt n (by decide), h⟩

theorem colon_not_mem_toDigits (n : ℕ) : ':' ∉ Nat.toDigits 16 n := by
  intro h
  obtain ⟨d, hd, hc⟩ := mem_toDigits h
  exact (digitChar_ne d hd).1 hc.symm

theorem length_toDigits_le {g : ℕ} (h : g < 65536) : (Nat.toDigits 16 g).length ≤ 4 :=
  (Nat.length_toDigits_le_iff (by decide) (by decide)).mpr h

theorem readGroup_toDigits {g : ℕ} (h : g < 65536) : readGroup (Nat.toDigits 16 g) = some g := by
  have hlen := length_toDigits_le h
  rw [readGroup, if_neg (by simp [Nat.toDigits_ne_nil]; omega), hexNumber_toDigits]

/-! ## Groups between colons -/

theorem joinGroups_nil : joinGroups [] = [] := rfl

theorem joinGroups_singleton (g : ℕ) : joinGroups [g] = Nat.toDigits 16 g := by
  simp [joinGroups, List.intercalate]

theorem joinGroups_cons_cons (g g' : ℕ) (gs : List ℕ) :
    joinGroups (g :: g' :: gs) = Nat.toDigits 16 g ++ ':' :: joinGroups (g' :: gs) := by
  simp [joinGroups, List.intercalate]

theorem joinGroups_ne_nil {gs : List ℕ} (h : gs ≠ []) : joinGroups gs ≠ [] := by
  match gs, h with
  | [g], _ =>
    rw [joinGroups_singleton]
    exact Nat.toDigits_ne_nil
  | g :: g' :: gs, _ => simp [joinGroups_cons_cons]

/-- Groups begin with a digit. -/
theorem joinGroups_head {gs : List ℕ} (h : gs ≠ []) :
    ∃ c cs, joinGroups gs = c :: cs ∧ c ≠ ':' := by
  have hdigits : ∀ g, ∃ c cs, Nat.toDigits 16 g = c :: cs ∧ c ≠ ':' := by
    intro g
    obtain ⟨c, cs, hc⟩ := List.exists_cons_of_ne_nil (Nat.toDigits_ne_nil (n := g) (b := 16))
    refine ⟨c, cs, hc, ?_⟩
    rintro rfl
    exact colon_not_mem_toDigits g (hc ▸ List.mem_cons_self)
  match gs, h with
  | [g], _ =>
    rw [joinGroups_singleton]
    exact hdigits g
  | g :: g' :: gs, _ =>
    obtain ⟨c, cs, hc, hne⟩ := hdigits g
    rw [joinGroups_cons_cons, hc]
    exact ⟨c, _, rfl, hne⟩

theorem length_joinGroups (gs : List ℕ) (h : ∀ g ∈ gs, g < 65536) :
    (joinGroups gs).length ≤ 5 * gs.length - 1 := by
  induction gs with
  | nil => simp [joinGroups_nil]
  | cons g gs ih =>
    have hlen := length_toDigits_le (h g List.mem_cons_self)
    have ih' := ih fun g' hg' => h g' (List.mem_cons_of_mem _ hg')
    cases gs with
    | nil =>
      rw [joinGroups_singleton, List.length_singleton]
      exact hlen
    | cons g' gs =>
      rw [joinGroups_cons_cons]
      simp only [List.length_append, List.length_cons] at ih' ⊢
      omega

theorem nul_not_mem_joinGroups (gs : List ℕ) : '\x00' ∉ joinGroups gs := by
  have hdigits : ∀ g, '\x00' ∉ Nat.toDigits 16 g := by
    intro g h
    obtain ⟨d, hd, hc⟩ := mem_toDigits h
    exact (digitChar_ne d hd).2 hc.symm
  induction gs with
  | nil => simp [joinGroups_nil]
  | cons g gs ih =>
    cases gs with
    | nil =>
      rw [joinGroups_singleton]
      exact hdigits g
    | cons g' gs =>
      rw [joinGroups_cons_cons]
      simp [hdigits g, ih]

theorem readGroups_joinGroups (gs : List ℕ) (h : ∀ g ∈ gs, g < 65536) :
    readGroups (joinGroups gs) = some gs := by
  rcases List.eq_nil_or_concat gs with rfl | hne
  · rfl
  · have hgs : gs ≠ [] := by
      obtain ⟨_, _, rfl⟩ := hne
      simp
    have hmap : ∀ gs : List ℕ, (∀ g ∈ gs, g < 65536) →
        (gs.map (Nat.toDigits 16)).mapM readGroup = some gs := by
      intro gs h
      induction gs with
      | nil => rfl
      | cons g gs ih =>
        rw [List.map_cons, List.mapM_cons, readGroup_toDigits (h g List.mem_cons_self),
          ih fun g' hg' => h g' (List.mem_cons_of_mem _ hg')]
        rfl
    rw [readGroups, if_neg (joinGroups_ne_nil hgs), joinGroups, List.splitOn_intercalate ':' ?_ ?_]
    · exact hmap gs h
    · intro l hl
      obtain ⟨g, -, rfl⟩ := List.mem_map.mp hl
      exact colon_not_mem_toDigits g
    · simpa using hgs

/-! ## Two colons -/

theorem splitDoubleColon_cons {c c' : Char} (h : c ≠ ':' ∨ c' ≠ ':') (cs : List Char) :
    splitDoubleColon (c :: c' :: cs) =
      (splitDoubleColon (c' :: cs)).map fun r => (c :: r.1, r.2) := by
  rw [splitDoubleColon, if_neg]
  rintro ⟨rfl, rfl⟩
  simp at h

/-- Digits are passed. -/
theorem splitDoubleColon_append {w : List Char} (hw : ':' ∉ w) (rest : List Char) :
    splitDoubleColon (w ++ rest) = (splitDoubleColon rest).map fun r => (w ++ r.1, r.2) := by
  induction w with
  | nil => simp
  | cons c w ih =>
    have hc : c ≠ ':' := fun h => hw (h ▸ List.mem_cons_self)
    have ih' := ih fun h => hw (List.mem_cons_of_mem _ h)
    rw [List.cons_append]
    cases hrest : w ++ rest with
    | nil =>
      obtain ⟨rfl, rfl⟩ := List.append_eq_nil_iff.mp hrest
      rfl
    | cons c' cs =>
      rw [splitDoubleColon_cons (Or.inl hc), ← hrest, ih', Option.map_map]
      rfl

theorem splitDoubleColon_joinGroups (gs : List ℕ) (rest : List Char) :
    splitDoubleColon (joinGroups gs ++ rest) =
      (splitDoubleColon rest).map fun r => (joinGroups gs ++ r.1, r.2) := by
  induction gs with
  | nil => simp [joinGroups_nil]
  | cons g gs ih =>
    cases gs with
    | nil =>
      rw [joinGroups_singleton]
      exact splitDoubleColon_append (colon_not_mem_toDigits g) rest
    | cons g' gs =>
      obtain ⟨c, cs, hjoin, hc⟩ := joinGroups_head (List.cons_ne_nil g' gs)
      rw [joinGroups_cons_cons, List.append_assoc,
        splitDoubleColon_append (colon_not_mem_toDigits g), hjoin, List.cons_append,
        List.cons_append, splitDoubleColon_cons (Or.inr hc), ← List.cons_append, ← hjoin, ih,
        Option.map_map, Option.map_map]
      simp [Function.comp_def]

/-! ## The canonical text -/

section Form

variable {gs : List ℕ} {text : List Char}

/-- A run of zeros between what lies before it and behind it. -/
theorem split_zeros {i n : ℕ} (h : IsStretch (· = 0) gs i n) :
    gs = gs.take i ++ List.replicate n 0 ++ gs.drop (i + n) := by
  have hmid : (gs.drop i).take n = List.replicate n 0 := by
    rw [List.eq_replicate_iff]
    refine ⟨by have := h.1; simp; omega, ?_⟩
    intro x hx
    obtain ⟨k, hk, rfl⟩ := List.mem_iff_getElem.mp hx
    rw [List.length_take, List.length_drop] at hk
    refine h.2 (i + k) (by omega) (by omega) _ ?_
    rw [List.getElem_take, List.getElem_drop]
    exact List.getElem?_eq_getElem _
  rw [← hmid, List.append_assoc, ← List.drop_drop, List.take_append_drop, List.take_append_drop]

/-- The canonical text reads back to the groups. -/
theorem CanonicalText.read_eq (h : CanonicalText gs text) (hlen : gs.length = 8)
    (hlt : ∀ g ∈ gs, g < 65536) : readAddrGroups text = some gs := by
  cases h with
  | @compressed i n hn hrun =>
    have hfit := hrun.run.1
    have hbefore := readGroups_joinGroups (gs.take i) fun g hg => hlt g (List.mem_of_mem_take hg)
    have hbehind := readGroups_joinGroups (gs.drop (i + n)) fun g hg =>
      hlt g (List.mem_of_mem_drop hg)
    have hsplit : splitDoubleColon (joinGroups (gs.take i) ++
        ':' :: ':' :: joinGroups (gs.drop (i + n))) =
        some (joinGroups (gs.take i), joinGroups (gs.drop (i + n))) := by
      rw [splitDoubleColon_joinGroups, splitDoubleColon, if_pos ⟨rfl, rfl⟩]
      simp
    have hzeros : 8 - ((gs.take i).length + (gs.drop (i + n)).length) = n := by
      simp only [List.length_take, List.length_drop]
      omega
    rw [readAddrGroups, hsplit]
    simp only [hbefore, hbehind, Option.bind_eq_bind, Option.bind_some, hzeros]
    rw [if_pos (by simp only [List.length_take, List.length_drop]; omega), ← split_zeros hrun.run]
  | plain =>
    have hsplit : splitDoubleColon (joinGroups gs) = none := by
      have h := splitDoubleColon_joinGroups gs []
      rwa [List.append_nil] at h
    rw [readAddrGroups, hsplit]
    simp only [readGroups_joinGroups gs hlt, Option.bind_eq_bind, Option.bind_some, if_pos hlen]

theorem CanonicalText.length_le (h : CanonicalText gs text) (hlen : gs.length = 8)
    (hlt : ∀ g ∈ gs, g < 65536) : text.length ≤ 39 := by
  cases h with
  | @compressed i n hn hrun =>
    have hfit := hrun.run.1
    have hbefore := length_joinGroups (gs.take i) fun g hg => hlt g (List.mem_of_mem_take hg)
    have hbehind := length_joinGroups (gs.drop (i + n)) fun g hg =>
      hlt g (List.mem_of_mem_drop hg)
    simp only [List.length_append, List.length_cons, List.length_take, List.length_drop] at *
    omega
  | plain =>
    have hjoin := length_joinGroups gs hlt
    omega

theorem CanonicalText.nul_not_mem (h : CanonicalText gs text) : '\x00' ∉ text := by
  cases h with
  | @compressed i n hn hrun =>
    simp [nul_not_mem_joinGroups]
  | plain => exact nul_not_mem_joinGroups gs

end Form

end Whip6
