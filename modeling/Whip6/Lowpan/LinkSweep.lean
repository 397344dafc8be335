import Whip6.Lowpan.LinkTable

/-!
# Sweeps over the link table

The marking and the removal sweep visit a range of the pool and tell whether links remain behind
it.  They do so if and only if the end of the range fits into eight bits, or the range starts
behind the pool (`lowpanLinkSweeps_iff`); with such ranges one after the other, repeated calls visit
every link once and end.
-/

namespace Whip6

/-! ## The range -/

/-- The end of a range fits into eight bits, or nothing is to be visited. -/
def sweepRangeFits (linkPoolLen firstIdx numIdx : UInt8) : Prop :=
  linkPoolLen ≤ firstIdx ∨ firstIdx.toNat + numIdx.toNat ≤ 255

/-- The links of the pool in a range. -/
def sweepRangeLinks (linkPoolLen firstIdx numIdx : UInt8) : List ℕ :=
  List.range' firstIdx.toNat
    (min (firstIdx.toNat + numIdx.toNat) linkPoolLen.toNat - firstIdx.toNat)

variable {linkPoolLen firstIdx numIdx : UInt8}

theorem lowpanSweepRange_of_le (h : linkPoolLen ≤ firstIdx) :
    lowpanSweepRange linkPoolLen firstIdx numIdx = none := by
  rw [lowpanSweepRange, if_pos h]

theorem lowpanSweepRange_of_fits (h : firstIdx < linkPoolLen)
    (hfits : firstIdx.toNat + numIdx.toNat ≤ 255) :
    ∃ n res, lowpanSweepRange linkPoolLen firstIdx numIdx = some (n, res) ∧
      n.toNat = min (firstIdx.toNat + numIdx.toNat) linkPoolLen.toNat - firstIdx.toNat ∧
      (res ≠ 0 ↔ firstIdx.toNat + numIdx.toNat < linkPoolLen.toNat) := by
  have hlt := UInt8.lt_iff_toNat_lt.mp h
  have hsum : (numIdx + firstIdx).toNat = firstIdx.toNat + numIdx.toNat := by
    rw [UInt8.toNat_add]
    omega
  rw [lowpanSweepRange, if_neg (UInt8.not_le.mpr h)]
  by_cases hge : linkPoolLen ≤ numIdx + firstIdx
  · refine ⟨linkPoolLen - firstIdx, 0, if_pos hge, ?_, ?_⟩
    · rw [UInt8.le_iff_toNat_le] at hge
      rw [UInt8.toNat_sub_of_le _ _ (UInt8.le_of_lt h)]
      omega
    · rw [UInt8.le_iff_toNat_le] at hge
      simp only [ne_eq, not_true, false_iff]
      omega
  · refine ⟨numIdx + firstIdx - firstIdx, 1, if_neg hge, ?_, ?_⟩
    · rw [UInt8.le_iff_toNat_le] at hge
      rw [UInt8.add_sub_cancel]
      omega
    · rw [UInt8.le_iff_toNat_le] at hge
      exact iff_of_true (by decide) (by omega)

/-- A sum that wraps is taken for a range that ends within the pool. -/
theorem lowpanSweepRange_of_wraps (h : firstIdx < linkPoolLen)
    (hwraps : 255 < firstIdx.toNat + numIdx.toNat) :
    lowpanSweepRange linkPoolLen firstIdx numIdx = some (numIdx, 1) := by
  have hlt := UInt8.lt_iff_toNat_lt.mp h
  have hnum := numIdx.toNat_lt
  have hfirst := firstIdx.toNat_lt
  have hsum : (numIdx + firstIdx).toNat = firstIdx.toNat + numIdx.toNat - 256 := by
    rw [UInt8.toNat_add]
    omega
  have hge : ¬linkPoolLen ≤ numIdx + firstIdx := by
    rw [UInt8.le_iff_toNat_le]
    omega
  rw [lowpanSweepRange, if_neg (UInt8.not_le.mpr h), if_neg hge, UInt8.add_sub_cancel]

/-! ## The loops -/

theorem lowpanMarkUnrefreshedLoop_visited (n i : ℕ) (table : LowpanLinkTable) :
    (lowpanMarkUnrefreshedLoop n i table).2 = List.range' i n := by
  induction n generalizing i table with
  | zero => rfl
  | succ n ih => rw [lowpanMarkUnrefreshedLoop, List.range'_succ, ih]

theorem lowpanMarkUnrefreshedLoop_linkPoolLen (n i : ℕ) (table : LowpanLinkTable) :
    (lowpanMarkUnrefreshedLoop n i table).1.linkPoolLen = table.linkPoolLen := by
  induction n generalizing i table with
  | zero => rfl
  | succ n ih => exact ih _ _

theorem lowpanRemoveMarkedLoop_spec (n i maxRemoved : ℕ) (table : LowpanLinkTable) :
    let r := lowpanRemoveMarkedLoop n i maxRemoved table
    ∃ k ≤ n, r.2.1 = List.range' i k ∧ r.2.2 ≤ maxRemoved ∧ (k = n ∨ r.2.2 = maxRemoved) := by
  induction n generalizing i maxRemoved table with
  | zero => exact ⟨0, le_rfl, by simp [lowpanRemoveMarkedLoop], by simp [lowpanRemoveMarkedLoop],
      Or.inl rfl⟩
  | succ n ih =>
    cases maxRemoved with
    | zero => exact ⟨0, Nat.zero_le _, rfl, le_rfl, Or.inr rfl⟩
    | succ maxRemoved =>
      dsimp only
      rw [lowpanRemoveMarkedLoop]
      dsimp only
      split_ifs with h
      · obtain ⟨k, hk, hvisited, hle, hstop⟩ := ih (i + 1) maxRemoved
          (lowpanMeshLinkTableRemoveExistingLink table (table.linkPoolPtr i).idx)
        refine ⟨k + 1, by omega, ?_, Nat.succ_le_succ hle,
          hstop.imp (congrArg Nat.succ) (congrArg Nat.succ)⟩
        rw [List.range'_succ, hvisited]
      · obtain ⟨k, hk, hvisited, hle, hstop⟩ := ih (i + 1) (maxRemoved + 1) table
        refine ⟨k + 1, by omega, ?_, hle, hstop.imp_left (congrArg Nat.succ)⟩
        rw [List.range'_succ, hvisited]

theorem removeFromHashTable_linkPoolLen (kind : LinkAddrKind) (table : LowpanLinkTable) (i : ℕ) :
    (lowpanMeshLinkTableRemoveFromHashTable kind table i).linkPoolLen = table.linkPoolLen := by
  rw [lowpanMeshLinkTableRemoveFromHashTable]
  dsimp only
  split_ifs
  · rfl
  · split
    · rfl
    · rename_i prevLink _ _
      cases prevLink with
      | none => cases kind <;> rfl
      | some prev => rfl

theorem removeExistingLink_linkPoolLen (table : LowpanLinkTable) (index : UInt8) :
    (lowpanMeshLinkTableRemoveExistingLink table index).linkPoolLen = table.linkPoolLen := by
  rw [lowpanMeshLinkTableRemoveExistingLink]
  split_ifs
  · rfl
  · rfl
  · exact (removeFromHashTable_linkPoolLen .shrt _ _).trans
      (removeFromHashTable_linkPoolLen .ext _ _)

theorem lowpanRemoveMarkedLoop_linkPoolLen (n i maxRemoved : ℕ) (table : LowpanLinkTable) :
    (lowpanRemoveMarkedLoop n i maxRemoved table).1.linkPoolLen = table.linkPoolLen := by
  induction n generalizing i maxRemoved table with
  | zero => simp [lowpanRemoveMarkedLoop]
  | succ n ih =>
    cases maxRemoved with
    | zero => rfl
    | succ maxRemoved =>
      rw [lowpanRemoveMarkedLoop]
      dsimp only
      split_ifs with h
      · exact (ih _ _ _).trans (removeExistingLink_linkPoolLen _ _)
      · exact ih _ _ _

/-! ## One call -/

/-- A sweep has visited the links of its range, and tells whether links remain behind it. -/
structure LowpanLinkSweep.CoversRange (s : LowpanLinkSweep)
    (linkPoolLen firstIdx numIdx : UInt8) : Prop where
  visited : s.visited = sweepRangeLinks linkPoolLen firstIdx numIdx
  res : s.res ≠ 0 ↔ firstIdx.toNat + numIdx.toNat < linkPoolLen.toNat

/-- The same for a sweep that may stop after `maxRemoved` removals. -/
structure LowpanLinkSweep.CoversRangeUpTo (s : LowpanLinkSweep)
    (linkPoolLen firstIdx numIdx maxRemoved : UInt8) : Prop where
  isPrefix : s.visited <+: sweepRangeLinks linkPoolLen firstIdx numIdx
  visited : s.visited = sweepRangeLinks linkPoolLen firstIdx numIdx ∨
    s.numRemoved = maxRemoved.toNat
  numRemoved : s.numRemoved ≤ maxRemoved.toNat
  res : s.res ≠ 0 ↔ firstIdx.toNat + numIdx.toNat < linkPoolLen.toNat

theorem sweepRangeLinks_of_le (h : linkPoolLen ≤ firstIdx) :
    sweepRangeLinks linkPoolLen firstIdx numIdx = [] := by
  rw [UInt8.le_iff_toNat_le] at h
  rw [sweepRangeLinks, show min (firstIdx.toNat + numIdx.toNat) linkPoolLen.toNat -
    firstIdx.toNat = 0 by omega]
  rfl

theorem range'_isPrefix (s : ℕ) {k n : ℕ} (h : k ≤ n) :
    List.range' s k <+: List.range' s n := by
  obtain ⟨m, rfl⟩ := Nat.exists_eq_add_of_le h
  exact ⟨List.range' (s + k) m, by rw [List.range'_append_1]⟩

variable (table : LowpanLinkTable) (firstIdx numIdx maxRemoved : UInt8)

theorem markUnrefreshed_covers (h : sweepRangeFits table.linkPoolLen firstIdx numIdx) :
    (lowpanMeshLinkTableMarkUnrefreshedLinksForRemoval table firstIdx numIdx).CoversRange
      table.linkPoolLen firstIdx numIdx := by
  rw [lowpanMeshLinkTableMarkUnrefreshedLinksForRemoval]
  by_cases hle : table.linkPoolLen ≤ firstIdx
  · rw [lowpanSweepRange_of_le hle]
    refine ⟨(sweepRangeLinks_of_le hle).symm, ?_⟩
    rw [UInt8.le_iff_toNat_le] at hle
    exact iff_of_false (by simp) (by omega)
  · obtain ⟨n, res, hrange, hn, hres⟩ :=
      lowpanSweepRange_of_fits (UInt8.not_le.mp hle) (h.resolve_left hle)
    rw [hrange]
    refine ⟨?_, hres⟩
    rw [sweepRangeLinks, ← hn]
    exact lowpanMarkUnrefreshedLoop_visited _ _ _

theorem removeMarked_covers (h : sweepRangeFits table.linkPoolLen firstIdx numIdx) :
    (lowpanMeshLinkTableRemoveLinksMarkedForRemoval table firstIdx numIdx
      maxRemoved).CoversRangeUpTo table.linkPoolLen firstIdx numIdx maxRemoved := by
  rw [lowpanMeshLinkTableRemoveLinksMarkedForRemoval]
  by_cases hle : table.linkPoolLen ≤ firstIdx
  · rw [lowpanSweepRange_of_le hle]
    refine ⟨List.nil_prefix, Or.inl (sweepRangeLinks_of_le hle).symm, Nat.zero_le _, ?_⟩
    rw [UInt8.le_iff_toNat_le] at hle
    exact iff_of_false (by simp) (by omega)
  · obtain ⟨n, res, hrange, hn, hres⟩ :=
      lowpanSweepRange_of_fits (UInt8.not_le.mp hle) (h.resolve_left hle)
    obtain ⟨k, hk, hvisited, hremoved, hstop⟩ :=
      lowpanRemoveMarkedLoop_spec n.toNat firstIdx.toNat maxRemoved.toNat table
    rw [hrange]
    refine ⟨?_, ?_, hremoved, hres⟩
    · rw [sweepRangeLinks, ← hn]
      have hprefix := range'_isPrefix firstIdx.toNat hk
      rw [← hvisited] at hprefix
      exact hprefix
    · rw [sweepRangeLinks, ← hn]
      exact hstop.imp_left fun hkn => hvisited.trans (by rw [hkn])

/-- What a sweep does where the end of its range wraps. -/
theorem sweep_of_wraps (h : ¬sweepRangeFits table.linkPoolLen firstIdx numIdx) :
    (lowpanMeshLinkTableMarkUnrefreshedLinksForRemoval table firstIdx numIdx).visited =
        List.range' firstIdx.toNat numIdx.toNat ∧
      (lowpanMeshLinkTableMarkUnrefreshedLinksForRemoval table firstIdx numIdx).res = 1 ∧
      (lowpanMeshLinkTableRemoveLinksMarkedForRemoval table firstIdx numIdx maxRemoved).res = 1 ∧
      ((lowpanMeshLinkTableRemoveLinksMarkedForRemoval table firstIdx numIdx maxRemoved).visited =
          List.range' firstIdx.toNat numIdx.toNat ∨
        (lowpanMeshLinkTableRemoveLinksMarkedForRemoval table firstIdx numIdx
          maxRemoved).numRemoved = maxRemoved.toNat) := by
  rw [sweepRangeFits, not_or] at h
  obtain ⟨hle, hwraps⟩ := h
  have hrange : lowpanSweepRange table.linkPoolLen firstIdx numIdx = some (numIdx, 1) :=
    lowpanSweepRange_of_wraps (UInt8.not_le.mp hle) (by omega)
  rw [lowpanMeshLinkTableMarkUnrefreshedLinksForRemoval,
    lowpanMeshLinkTableRemoveLinksMarkedForRemoval, hrange]
  obtain ⟨k, -, hvisited, -, hstop⟩ :=
    lowpanRemoveMarkedLoop_spec numIdx.toNat firstIdx.toNat maxRemoved.toNat table
  exact ⟨lowpanMarkUnrefreshedLoop_visited _ _ _, rfl, rfl,
    hstop.imp_left fun hkn => hvisited.trans (by rw [hkn])⟩

theorem markUnrefreshed_covers_iff :
    (lowpanMeshLinkTableMarkUnrefreshedLinksForRemoval table firstIdx numIdx).CoversRange
        table.linkPoolLen firstIdx numIdx ↔
      sweepRangeFits table.linkPoolLen firstIdx numIdx := by
  refine ⟨fun h => ?_, markUnrefreshed_covers table firstIdx numIdx⟩
  by_contra hfits
  have hres := (sweep_of_wraps table firstIdx numIdx 0 hfits).2.1
  have hlt := h.res.mp (by rw [hres]; decide)
  have hlen := table.linkPoolLen.toNat_lt
  rw [sweepRangeFits] at hfits
  omega

theorem removeMarked_covers_iff :
    (lowpanMeshLinkTableRemoveLinksMarkedForRemoval table firstIdx numIdx
        maxRemoved).CoversRangeUpTo table.linkPoolLen firstIdx numIdx maxRemoved ↔
      sweepRangeFits table.linkPoolLen firstIdx numIdx := by
  refine ⟨fun h => ?_, removeMarked_covers table firstIdx numIdx maxRemoved⟩
  by_contra hfits
  have hres := (sweep_of_wraps table firstIdx numIdx maxRemoved hfits).2.2.1
  have hlt := h.res.mp (by rw [hres]; decide)
  have hlen := table.linkPoolLen.toNat_lt
  rw [sweepRangeFits] at hfits
  omega

/-! ## Repeated calls -/

/-- Calls of a sweep for one range behind the other, each with its number of links and a limit of
removals, until one of them returns zero: the limits and what the calls did. -/
def lowpanSweepRepeat
    (sweep : LowpanLinkTable → UInt8 → UInt8 → UInt8 → LowpanLinkSweep) :
    List (UInt8 × UInt8) → UInt8 → LowpanLinkTable → List (UInt8 × LowpanLinkSweep)
  | [], _, _ => []
  | (numIdx, maxRemoved) :: calls, firstIdx, table =>
    let s := sweep table firstIdx numIdx maxRemoved
    (maxRemoved, s) ::
      if s.res = 0 then [] else lowpanSweepRepeat sweep calls (firstIdx + numIdx) s.table

/-- The links visited by some calls. -/
def sweepVisited (calls : List (UInt8 × LowpanLinkSweep)) : List ℕ :=
  calls.flatMap fun call => call.2.visited

/-- The last of some calls has returned zero. -/
def sweepEnded (calls : List (UInt8 × LowpanLinkSweep)) : Prop :=
  ∃ call, calls.getLast? = some call ∧ call.2.res = 0

/-- The ends of the ranges fit into eight bits, as far as they are needed to reach the end of the
pool. -/
def sweepCallsFit (linkPoolLen : ℕ) : List (UInt8 × UInt8) → ℕ → Prop
  | [], _ => True
  | (numIdx, _) :: calls, firstIdx =>
    (linkPoolLen ≤ firstIdx ∨ firstIdx + numIdx.toNat ≤ 255) ∧
      (firstIdx + numIdx.toNat < linkPoolLen → sweepCallsFit linkPoolLen calls
        (firstIdx + numIdx.toNat))

section Repeat

variable {sweep : LowpanLinkTable → UInt8 → UInt8 → UInt8 → LowpanLinkSweep}
  {ok : UInt8 × LowpanLinkSweep → Prop}

/-- A sweep that covers its range where the end fits, unless it stops early, and otherwise runs on
behind the pool. -/
structure IsSweep (sweep : LowpanLinkTable → UInt8 → UInt8 → UInt8 → LowpanLinkSweep)
    (ok : UInt8 × LowpanLinkSweep → Prop) : Prop where
  linkPoolLen : ∀ table firstIdx numIdx maxRemoved,
    (sweep table firstIdx numIdx maxRemoved).table.linkPoolLen = table.linkPoolLen
  covers : ∀ (table : LowpanLinkTable) firstIdx numIdx maxRemoved,
    ok (maxRemoved, sweep table firstIdx numIdx maxRemoved) →
    sweepRangeFits table.linkPoolLen firstIdx numIdx →
    (sweep table firstIdx numIdx maxRemoved).CoversRange table.linkPoolLen firstIdx numIdx
  wraps : ∀ (table : LowpanLinkTable) firstIdx numIdx maxRemoved,
    ok (maxRemoved, sweep table firstIdx numIdx maxRemoved) →
    ¬sweepRangeFits table.linkPoolLen firstIdx numIdx →
    (sweep table firstIdx numIdx maxRemoved).visited = List.range' firstIdx.toNat numIdx.toNat

theorem sweepVisited_cons (maxRemoved : UInt8) (s : LowpanLinkSweep)
    (calls : List (UInt8 × LowpanLinkSweep)) :
    sweepVisited ((maxRemoved, s) :: calls) = s.visited ++ sweepVisited calls := by
  rw [sweepVisited, List.flatMap_cons]
  rfl

/-- Repeated calls visit the rest of the pool link by link, and end, if and only if the ranges up
to its end fit. -/
theorem lowpanSweepRepeat_iff (hsweep : IsSweep sweep ok) (calls : List (UInt8 × UInt8))
    (hcalls : ∀ call ∈ calls, call.1 ≠ 0) (firstIdx : UInt8) (table : LowpanLinkTable)
    (hlen : table.linkPoolLen.toNat < firstIdx.toNat + calls.length)
    (hfirst : firstIdx.toNat ≤ table.linkPoolLen.toNat)
    (hok : ∀ call ∈ lowpanSweepRepeat sweep calls firstIdx table, ok call) :
    (sweepVisited (lowpanSweepRepeat sweep calls firstIdx table) =
        List.range' firstIdx.toNat (table.linkPoolLen.toNat - firstIdx.toNat) ∧
      sweepEnded (lowpanSweepRepeat sweep calls firstIdx table)) ↔
      sweepCallsFit table.linkPoolLen.toNat calls firstIdx.toNat := by
  induction calls generalizing firstIdx table with
  | nil =>
    simp only [List.length_nil] at hlen
    omega
  | cons call calls ih =>
    obtain ⟨numIdx, maxRemoved⟩ := call
    have hnum : 0 < numIdx.toNat := by
      have hne := hcalls (numIdx, maxRemoved) List.mem_cons_self
      exact Nat.pos_of_ne_zero fun h0 => hne (UInt8.toNat_inj.mp h0)
    rw [lowpanSweepRepeat] at hok ⊢
    have hok1 := hok _ List.mem_cons_self
    have hlen' := table.linkPoolLen.toNat_lt
    rw [sweepVisited_cons, sweepCallsFit]
    by_cases hfits : sweepRangeFits table.linkPoolLen firstIdx numIdx
    · have hfitsNat := hfits
      rw [sweepRangeFits, UInt8.le_iff_toNat_le] at hfitsNat
      obtain ⟨hvisited, hres⟩ := hsweep.covers table firstIdx numIdx maxRemoved hok1 hfits
      by_cases hmore : firstIdx.toNat + numIdx.toNat < table.linkPoolLen.toNat
      · -- Links remain, and the next call goes on behind this range.
        have hsum : (firstIdx + numIdx).toNat = firstIdx.toNat + numIdx.toNat := by
          rw [UInt8.toNat_add]
          omega
        have hpool := hsweep.linkPoolLen table firstIdx numIdx maxRemoved
        simp only [List.length_cons] at hlen
        have hih := ih (fun call hcall => hcalls call (List.mem_cons_of_mem _ hcall))
          (firstIdx + numIdx) (sweep table firstIdx numIdx maxRemoved).table
          (by rw [hpool, hsum]; omega) (by rw [hpool, hsum]; omega)
        rw [if_neg (hres.mpr hmore)] at hok ⊢
        have hih := hih fun call hcall => hok call (List.mem_cons_of_mem _ hcall)
        rw [hpool, hsum] at hih
        have hnil : lowpanSweepRepeat sweep calls (firstIdx + numIdx)
            (sweep table firstIdx numIdx maxRemoved).table ≠ [] := by
          cases calls with
          | nil =>
            simp only [List.length_nil] at hlen
            omega
          | cons call calls => exact List.cons_ne_nil _ _
        have hrange : List.range' firstIdx.toNat (table.linkPoolLen.toNat - firstIdx.toNat) =
            (sweep table firstIdx numIdx maxRemoved).visited ++
              List.range' (firstIdx.toNat + numIdx.toNat)
                (table.linkPoolLen.toNat - (firstIdx.toNat + numIdx.toNat)) := by
          rw [hvisited, sweepRangeLinks, show min (firstIdx.toNat + numIdx.toNat)
            table.linkPoolLen.toNat - firstIdx.toNat = numIdx.toNat by omega,
            List.range'_append_1]
          congr 1
          omega
        rw [hrange, List.append_right_inj, sweepEnded, List.getLast?_cons_of_ne_nil hnil]
        exact hih.trans ⟨fun h => ⟨Or.inr (by omega), fun _ => h⟩, fun h => h.2 hmore⟩
      · have hzero : (sweep table firstIdx numIdx maxRemoved).res = 0 :=
          not_not.mp fun h => hmore (hres.mp h)
        rw [if_pos hzero, hvisited, sweepRangeLinks]
        refine iff_of_true ⟨?_, _, rfl, hzero⟩ ⟨hfitsNat, fun h => absurd h hmore⟩
        rw [sweepVisited, List.flatMap_nil, List.append_nil]
        congr 1
        omega
    · -- The range wraps, and the call goes on behind the pool.
      have hvisited := hsweep.wraps table firstIdx numIdx maxRemoved hok1 hfits
      rw [sweepRangeFits, UInt8.le_iff_toNat_le] at hfits
      refine iff_of_false ?_ fun h => hfits h.1
      rintro ⟨hall, -⟩
      have hlength := congrArg List.length hall
      rw [hvisited, List.length_append, List.length_range', List.length_range'] at hlength
      omega

end Repeat

theorem isSweep_markUnrefreshed :
    IsSweep (fun table firstIdx numIdx _ =>
      lowpanMeshLinkTableMarkUnrefreshedLinksForRemoval table firstIdx numIdx) fun _ => True where
  linkPoolLen := by
    intro table firstIdx numIdx _
    rw [lowpanMeshLinkTableMarkUnrefreshedLinksForRemoval]
    split
    · rfl
    · exact lowpanMarkUnrefreshedLoop_linkPoolLen _ _ _
  covers := fun table firstIdx numIdx _ _ h => markUnrefreshed_covers table firstIdx numIdx h
  wraps := fun table firstIdx numIdx _ _ h => (sweep_of_wraps table firstIdx numIdx 0 h).1

theorem isSweep_removeMarked :
    IsSweep lowpanMeshLinkTableRemoveLinksMarkedForRemoval
      fun call => call.2.numRemoved < call.1.toNat where
  linkPoolLen := by
    intro table firstIdx numIdx maxRemoved
    rw [lowpanMeshLinkTableRemoveLinksMarkedForRemoval]
    split
    · rfl
    · exact lowpanRemoveMarkedLoop_linkPoolLen _ _ _ _
  covers := by
    intro table firstIdx numIdx maxRemoved hok h
    obtain ⟨-, hvisited, -, hres⟩ := removeMarked_covers table firstIdx numIdx maxRemoved h
    exact ⟨hvisited.resolve_right (Nat.ne_of_lt hok), hres⟩
  wraps := by
    intro table firstIdx numIdx maxRemoved hok h
    exact (sweep_of_wraps table firstIdx numIdx maxRemoved h).2.2.2.resolve_right (Nat.ne_of_lt hok)

/-- The marking sweep and the removal sweep cover their range, within the pool, and tell whether
links remain behind it, if and only if the end of the range fits into eight bits or the range
starts behind the pool.  Enough calls for nonempty ranges, one behind the other, visit every link
once and end if and only if that holds for the calls made; the removal sweep if none of them reaches
its limit of removals. -/
theorem lowpanLinkSweeps_iff (table : LowpanLinkTable) (firstIdx numIdx maxRemoved : UInt8)
    (calls : List (UInt8 × UInt8)) (hcalls : ∀ call ∈ calls, call.1 ≠ 0)
    (hlen : table.linkPoolLen.toNat < calls.length) :
    let mark := lowpanMeshLinkTableMarkUnrefreshedLinksForRemoval
    let remove := lowpanMeshLinkTableRemoveLinksMarkedForRemoval
    let marking := lowpanSweepRepeat (fun table firstIdx numIdx _ => mark table firstIdx numIdx)
      calls 0 table
    let removing := lowpanSweepRepeat remove calls 0 table
    ((mark table firstIdx numIdx).CoversRange table.linkPoolLen firstIdx numIdx ↔
      sweepRangeFits table.linkPoolLen firstIdx numIdx) ∧
    ((remove table firstIdx numIdx maxRemoved).CoversRangeUpTo table.linkPoolLen firstIdx numIdx
        maxRemoved ↔ sweepRangeFits table.linkPoolLen firstIdx numIdx) ∧
    (sweepVisited marking = List.range table.linkPoolLen.toNat ∧ sweepEnded marking ↔
      sweepCallsFit table.linkPoolLen.toNat calls 0) ∧
    ((∀ call ∈ removing, call.2.numRemoved < call.1.toNat) →
      (sweepVisited removing = List.range table.linkPoolLen.toNat ∧ sweepEnded removing ↔
        sweepCallsFit table.linkPoolLen.toNat calls 0)) := by
  intro mark remove marking removing
  rw [List.range_eq_range']
  refine ⟨markUnrefreshed_covers_iff table firstIdx numIdx,
    removeMarked_covers_iff table firstIdx numIdx maxRemoved, ?_, fun hok => ?_⟩
  · exact lowpanSweepRepeat_iff isSweep_markUnrefreshed calls hcalls 0 table
      (by simpa using hlen) (Nat.zero_le _) fun _ _ => trivial
  · exact lowpanSweepRepeat_iff isSweep_removeMarked calls hcalls 0 table
      (by simpa using hlen) (Nat.zero_le _) hok

/-- A pool of three links, swept in ranges of two. -/
theorem lowpanLinkSweeps_iff_three :
    let table := lowpanLinkTableAtBoot 3 1 1
    let marking := lowpanSweepRepeat
      (fun table firstIdx numIdx _ =>
        lowpanMeshLinkTableMarkUnrefreshedLinksForRemoval table firstIdx numIdx)
      [(2, 1), (2, 1), (2, 1), (2, 1)] 0 table
    sweepVisited marking = List.range 3 ∧ sweepEnded marking := by
  have hlen : (lowpanLinkTableAtBoot 3 1 1).linkPoolLen.toNat = 3 := rfl
  have h := lowpanLinkSweeps_iff (lowpanLinkTableAtBoot 3 1 1) 0 2 1
    [(2, 1), (2, 1), (2, 1), (2, 1)] (by simp) (by rw [hlen]; decide)
  refine h.2.2.1.mpr ?_
  simp [sweepCallsFit, lowpanLinkTableAtBoot]

/-- From the last of three links on, 255 links are looked at, which is not what the claimed range
says, and the call returns that there are more. -/
theorem lowpanLinkSweeps_wrap :
    let table := lowpanLinkTableAtBoot 3 1 1
    let s := lowpanMeshLinkTableMarkUnrefreshedLinksForRemoval table 2 255
    s.visited = List.range' 2 255 ∧ s.res = 1 ∧ sweepRangeLinks 3 2 255 = [2] ∧
      ¬∀ (table : LowpanLinkTable) (firstIdx numIdx : UInt8),
        (lowpanMeshLinkTableMarkUnrefreshedLinksForRemoval table firstIdx numIdx).CoversRange
          table.linkPoolLen firstIdx numIdx := by
  have hwraps : ¬sweepRangeFits (lowpanLinkTableAtBoot 3 1 1).linkPoolLen 2 255 := by
    simp [sweepRangeFits, lowpanLinkTableAtBoot]
  obtain ⟨hvisited, hres, -, -⟩ := sweep_of_wraps (lowpanLinkTableAtBoot 3 1 1) 2 255 0 hwraps
  refine ⟨hvisited, hres, by decide, fun h => ?_⟩
  exact hwraps ((markUnrefreshed_covers_iff _ 2 255).mp (h _ 2 255))

end Whip6
