import Whip6.Base.Queue

/-!
# The ring of frames of the packet forwarder

The forwarder queues the indices of the packets whose frames wait for the lower layer, in a ring of
as many cells as there are packets.  The indices into the ring are computed in `int`, so no capacity
makes them wrap.  Each operation is described by the list that the ring holds (`FrameQueue.toList`).
-/

namespace Whip6

structure FrameQueue where
  frameQueueArray : ℕ → UInt8
  frameQueueFirstIdx : UInt8
  frameQueueCount : UInt8
  /-- The number of cells, `MAX_FRAME_QUEUE_SIZE`. -/
  maxFrameQueueSize : UInt8

namespace FrameQueue

def addFwdPacketIdxAsLastInFrameQueue (q : FrameQueue) (fwdPacketIdx : UInt8) :
    Bool × FrameQueue :=
  if q.frameQueueCount ≥ q.maxFrameQueueSize then (false, q)
  else
    let frameQueueIdx := (q.frameQueueFirstIdx.toNat + q.frameQueueCount.toNat) %
      q.maxFrameQueueSize.toNat
    (true,
      { q with
        frameQueueArray := Function.update q.frameQueueArray frameQueueIdx fwdPacketIdx
        frameQueueCount := q.frameQueueCount + 1 })

def removeFirstFwdPacketIndxFromFrameQueue (q : FrameQueue) : FrameQueue :=
  { q with
    frameQueueFirstIdx := (q.frameQueueFirstIdx + 1) % q.maxFrameQueueSize
    frameQueueCount := q.frameQueueCount - 1 }

/-- Search the `n` cells from `i` on. -/
def findForwardedFrameLoop (q : FrameQueue) (fwdPacketIdx : UInt8) : ℕ → ℕ → UInt8
  | 0, _ => q.maxFrameQueueSize
  | n + 1, i =>
    if q.frameQueueArray i = fwdPacketIdx then q.frameQueueCount - UInt8.ofNat (n + 1)
    else findForwardedFrameLoop q fwdPacketIdx n ((i + 1) % q.maxFrameQueueSize.toNat)

/-- The place in the queue of a packet index; the size of the ring if it is not there. -/
def findForwardedFrameWithGivenPacketIndex (q : FrameQueue) (fwdPacketIdx : UInt8) : UInt8 :=
  findForwardedFrameLoop q fwdPacketIdx q.frameQueueCount.toNat q.frameQueueFirstIdx.toNat

/-- Copy each of `cnt` cells from the cell behind it. -/
def removeIthLoop (maxFrameQueueSize : ℕ) : ℕ → ℕ → (ℕ → UInt8) → ℕ → UInt8
  | 0, _, cells => cells
  | cnt + 1, prevIdx, cells =>
    let currIdx := (prevIdx + 1) % maxFrameQueueSize
    removeIthLoop maxFrameQueueSize cnt currIdx (Function.update cells prevIdx (cells currIdx))

def removeIthFwdPacketIndxFromFrameQueue (q : FrameQueue) (i : UInt8) : FrameQueue :=
  let prevIdx := (q.frameQueueFirstIdx.toNat + i.toNat) % q.maxFrameQueueSize.toNat
  let q :=
    { q with
      frameQueueArray := removeIthLoop q.maxFrameQueueSize.toNat
        (q.frameQueueCount - i - 1).toNat prevIdx q.frameQueueArray
      frameQueueCount := q.frameQueueCount - 1 }
  if i = 0 then
    { q with frameQueueFirstIdx := (q.frameQueueFirstIdx + 1) % q.maxFrameQueueSize }
  else q

/-! ## The ring as a list -/

/-- The cell of the `k`-th index. -/
def cell (q : FrameQueue) (k : ℕ) : ℕ :=
  (q.frameQueueFirstIdx.toNat + k) % q.maxFrameQueueSize.toNat

def toList (q : FrameQueue) : List UInt8 :=
  (List.range q.frameQueueCount.toNat).map fun k => q.frameQueueArray (q.cell k)

/-- The ring is not overfull, and its first cell is one of its cells. -/
structure Valid (q : FrameQueue) : Prop where
  count_le : q.frameQueueCount.toNat ≤ q.maxFrameQueueSize.toNat
  first_lt : 0 < q.maxFrameQueueSize.toNat →
    q.frameQueueFirstIdx.toNat < q.maxFrameQueueSize.toNat

variable {q : FrameQueue} {i x : UInt8} {k l : ℕ}

@[simp] theorem length_toList (q : FrameQueue) : q.toList.length = q.frameQueueCount.toNat := by
  rw [toList, List.length_map, List.length_range]

theorem getElem?_toList (hk : k < q.frameQueueCount.toNat) :
    q.toList[k]? = some (q.frameQueueArray (q.cell k)) := by
  rw [toList, List.getElem?_map, List.getElem?_range hk, Option.map_some]

theorem cell_succ (q : FrameQueue) (k : ℕ) :
    (q.cell k + 1) % q.maxFrameQueueSize.toNat = q.cell (k + 1) := by
  rw [cell, cell, Nat.mod_add_mod, Nat.add_assoc]

namespace Valid

theorem cell_eq (h : q.Valid) (hk : k < q.maxFrameQueueSize.toNat) :
    q.cell k = if q.frameQueueFirstIdx.toNat + k < q.maxFrameQueueSize.toNat then
      q.frameQueueFirstIdx.toNat + k
    else q.frameQueueFirstIdx.toNat + k - q.maxFrameQueueSize.toNat := by
  have hfirst := h.first_lt (Nat.zero_lt_of_lt hk)
  rw [cell]
  by_cases hlt : q.frameQueueFirstIdx.toNat + k < q.maxFrameQueueSize.toNat
  · rw [if_pos hlt, Nat.mod_eq_of_lt hlt]
  · rw [if_neg hlt, Nat.mod_eq_sub_mod (Nat.not_lt.mp hlt), Nat.mod_eq_of_lt (by omega)]

theorem cell_inj (h : q.Valid) (hk : k < q.maxFrameQueueSize.toNat)
    (hl : l < q.maxFrameQueueSize.toNat) : q.cell k = q.cell l ↔ k = l := by
  refine ⟨fun heq => ?_, fun heq => heq ▸ rfl⟩
  have hfirst := h.first_lt (Nat.zero_lt_of_lt hk)
  rw [h.cell_eq hk, h.cell_eq hl] at heq
  split_ifs at heq <;> omega

theorem lt_max (h : q.Valid) (hk : k < q.frameQueueCount.toNat) :
    k < q.maxFrameQueueSize.toNat :=
  Nat.lt_of_lt_of_le hk h.count_le

/-! ## The operations -/

theorem add (h : q.Valid) (hroom : q.toList.length < q.maxFrameQueueSize.toNat) :
    ∃ q', q.addFwdPacketIdxAsLastInFrameQueue x = (true, q') ∧ q'.Valid ∧
      q'.maxFrameQueueSize = q.maxFrameQueueSize ∧ q'.toList = q.toList ++ [x] := by
  rw [length_toList] at hroom
  have hmax := q.maxFrameQueueSize.toNat_lt
  have hcount : (q.frameQueueCount + 1).toNat = q.frameQueueCount.toNat + 1 := by
    rw [UInt8.toNat_add, UInt8.toNat_one, Nat.mod_eq_of_lt (by omega)]
  rw [addFwdPacketIdxAsLastInFrameQueue,
    if_neg (by rw [ge_iff_le, UInt8.le_iff_toNat_le]; omega)]
  refine ⟨_, rfl, ⟨?_, h.first_lt⟩, rfl, ?_⟩
  · rw [hcount]
    exact hroom
  · simp only [toList, hcount, List.range_succ, List.map_append, List.map_cons, List.map_nil]
    congr 1
    · refine List.map_congr_left fun k hk => ?_
      rw [List.mem_range] at hk
      refine Function.update_of_ne ?_ _ _
      exact fun heq => absurd ((h.cell_inj (h.lt_max hk) hroom).mp heq) (by omega)
    · exact congrArg (fun y => [y]) (Function.update_self _ _ _)

theorem count_succ (q : FrameQueue) {x : UInt8} {rest : List UInt8} (hq : q.toList = x :: rest) :
    0 < q.frameQueueCount.toNat ∧ (q.frameQueueCount - 1).toNat = q.frameQueueCount.toNat - 1 := by
  have hlen := q.length_toList
  rw [hq, List.length_cons] at hlen
  have hpos : 0 < q.frameQueueCount.toNat := by omega
  refine ⟨hpos, ?_⟩
  rw [UInt8.toNat_sub_of_le _ _ (by rw [UInt8.le_iff_toNat_le, UInt8.toNat_one]; exact hpos),
    UInt8.toNat_one]

/-- The first cell after the first index was removed. -/
theorem toNat_firstIdx_succ (h : q.Valid) (hpos : 0 < q.maxFrameQueueSize.toNat) :
    ((q.frameQueueFirstIdx + 1) % q.maxFrameQueueSize).toNat =
      (q.frameQueueFirstIdx.toNat + 1) % q.maxFrameQueueSize.toNat := by
  have hfirst := h.first_lt hpos
  have hmax := q.maxFrameQueueSize.toNat_lt
  rw [UInt8.toNat_mod, UInt8.toNat_add, UInt8.toNat_one,
    Nat.mod_eq_of_lt (by omega : q.frameQueueFirstIdx.toNat + 1 < 2 ^ 8)]

theorem removeFirst (h : q.Valid) {rest : List UInt8} (hq : q.toList = x :: rest) :
    q.removeFirstFwdPacketIndxFromFrameQueue.Valid ∧
      q.removeFirstFwdPacketIndxFromFrameQueue.toList = rest := by
  obtain ⟨hpos, hcount⟩ := count_succ q hq
  have hcount' : q.removeFirstFwdPacketIndxFromFrameQueue.frameQueueCount.toNat =
      q.frameQueueCount.toNat - 1 := hcount
  have hmax : 0 < q.maxFrameQueueSize.toNat := h.lt_max hpos
  have hfirst := h.toNat_firstIdx_succ hmax
  refine ⟨⟨?_, fun _ => ?_⟩, ?_⟩
  · exact hcount'.trans_le ((Nat.sub_le _ _).trans h.count_le)
  · exact hfirst.trans_lt (Nat.mod_lt _ hmax)
  · have htail : rest = q.toList.tail := by rw [hq, List.tail_cons]
    rw [htail]
    refine List.ext_getElem? fun k => ?_
    rw [List.getElem?_tail]
    by_cases hk : k + 1 < q.frameQueueCount.toNat
    · rw [getElem?_toList hk, getElem?_toList (by omega)]
      simp only [removeFirstFwdPacketIndxFromFrameQueue, cell, hfirst, Nat.mod_add_mod,
        Nat.add_assoc, Nat.add_comm 1 k]
    · rw [List.getElem?_eq_none (by rw [length_toList]; omega),
        List.getElem?_eq_none (by rw [length_toList]; omega)]

theorem findLoop (q : FrameQueue) (x : UInt8) (n k : ℕ) (hk : k + n = q.frameQueueCount.toNat) :
    (q.findForwardedFrameLoop x n (q.cell k)).toNat =
      if x ∈ q.toList.drop k then k + (q.toList.drop k).idxOf x
      else q.maxFrameQueueSize.toNat := by
  induction n generalizing k with
  | zero =>
    rw [List.drop_eq_nil_of_le (by rw [length_toList]; omega)]
    rfl
  | succ n ih =>
    have hlt : k < q.toList.length := by rw [length_toList]; omega
    have hget : q.toList[k] = q.frameQueueArray (q.cell k) := by
      have h := getElem?_toList (q := q) (k := k) (by omega)
      rwa [List.getElem?_eq_getElem hlt, Option.some.injEq] at h
    have hcount := q.frameQueueCount.toNat_lt
    rw [List.drop_eq_getElem_cons hlt, hget, findForwardedFrameLoop]
    by_cases hx : q.frameQueueArray (q.cell k) = x
    · rw [if_pos hx, hx, if_pos List.mem_cons_self, List.idxOf_cons_self, Nat.add_zero,
        UInt8.toNat_sub, UInt8.toNat_ofNat']
      omega
    · rw [if_neg hx, cell_succ, ih (k + 1) (by omega)]
      have hmem : x ∈ q.frameQueueArray (q.cell k) :: q.toList.drop (k + 1) ↔
          x ∈ q.toList.drop (k + 1) := by
        rw [List.mem_cons, or_iff_right (Ne.symm hx)]
      simp only [hmem, List.idxOf_cons_ne _ hx, Nat.add_assoc, Nat.add_comm 1]

/-- The search finds the first place of an index. -/
theorem find (q : FrameQueue) (h : q.Valid) (x : UInt8) :
    (q.findForwardedFrameWithGivenPacketIndex x).toNat =
      if x ∈ q.toList then q.toList.idxOf x else q.maxFrameQueueSize.toNat := by
  rw [findForwardedFrameWithGivenPacketIndex]
  rcases Nat.eq_zero_or_pos q.frameQueueCount.toNat with hcount | hcount
  · have hnil : q.toList = [] := List.eq_nil_of_length_eq_zero (q.length_toList.trans hcount)
    rw [hcount, hnil]
    rfl
  · have hcell : q.cell 0 = q.frameQueueFirstIdx.toNat := by
      have hmax := h.lt_max hcount
      rw [cell, Nat.add_zero, Nat.mod_eq_of_lt (h.first_lt hmax)]
    have hloop := findLoop q x q.frameQueueCount.toNat 0 (Nat.zero_add _)
    rwa [hcell, List.drop_zero, Nat.zero_add] at hloop

/-- The copying loop moves the indices from the `k`-th on by one cell. -/
theorem removeIthLoop_cell (h : q.Valid) (cnt k : ℕ) (cells : ℕ → UInt8)
    (hk : k + cnt < q.maxFrameQueueSize.toNat) {l : ℕ} (hl : l < q.maxFrameQueueSize.toNat) :
    removeIthLoop q.maxFrameQueueSize.toNat cnt (q.cell k) cells (q.cell l) =
      if k ≤ l ∧ l < k + cnt then cells (q.cell (l + 1)) else cells (q.cell l) := by
  induction cnt generalizing k cells with
  | zero => rw [removeIthLoop, if_neg (by omega)]
  | succ cnt ih =>
    rw [removeIthLoop, cell_succ, ih (k + 1) _ (by omega)]
    have hupdate : ∀ j < q.maxFrameQueueSize.toNat, Function.update cells (q.cell k)
        (cells (q.cell (k + 1))) (q.cell j) =
          if j = k then cells (q.cell (k + 1)) else cells (q.cell j) := by
      intro j hj
      rw [Function.update_apply]
      simp only [h.cell_inj hj (by omega : k < q.maxFrameQueueSize.toNat)]
    rcases Nat.lt_trichotomy l k with hlt | rfl | hgt
    · rw [if_neg (by omega), if_neg (by omega), hupdate l hl, if_neg (by omega)]
    · rw [if_neg (by omega), if_pos (by omega), hupdate l hl, if_pos rfl]
    · by_cases hin : l < k + (cnt + 1)
      · rw [if_pos (by omega), if_pos (by omega), hupdate (l + 1) (by omega), if_neg (by omega)]
      · rw [if_neg (by omega), if_neg (by omega), hupdate l hl, if_neg (by omega)]

/-- An index that is not the first one is removed from its place. -/
theorem removeIth (h : q.Valid) (hi : 0 < i.toNat) (hlt : i.toNat < q.frameQueueCount.toNat) :
    (q.removeIthFwdPacketIndxFromFrameQueue i).Valid ∧
      (q.removeIthFwdPacketIndxFromFrameQueue i).toList = q.toList.eraseIdx i.toNat := by
  have hmaxlt := q.maxFrameQueueSize.toNat_lt
  have hle := h.count_le
  have hcount : (q.frameQueueCount - 1).toNat = q.frameQueueCount.toNat - 1 := by
    rw [UInt8.toNat_sub, UInt8.toNat_one]
    omega
  have hcnt : (q.frameQueueCount - i - 1).toNat = q.frameQueueCount.toNat - i.toNat - 1 := by
    rw [UInt8.toNat_sub, UInt8.toNat_sub, UInt8.toNat_one]
    omega
  have hne : i ≠ 0 := fun h0 => by
    rw [h0, UInt8.toNat_zero] at hi
    omega
  have hcell : (q.frameQueueFirstIdx.toNat + i.toNat) % q.maxFrameQueueSize.toNat =
      q.cell i.toNat := rfl
  rw [removeIthFwdPacketIndxFromFrameQueue]
  simp only [if_neg hne, hcnt, hcell]
  refine ⟨⟨?_, h.first_lt⟩, ?_⟩
  · exact hcount.trans_le ((Nat.sub_le _ _).trans h.count_le)
  · refine List.ext_getElem? fun k => ?_
    rw [List.getElem?_eraseIdx]
    by_cases hk : k < q.frameQueueCount.toNat - 1
    · rw [getElem?_toList (by rw [hcount]; exact hk)]
      change some (removeIthLoop _ _ (q.cell i.toNat) _ (q.cell k)) = _
      rw [h.removeIthLoop_cell _ _ _ (by omega) (by omega)]
      by_cases hki : k < i.toNat
      · rw [if_pos hki, getElem?_toList (by omega), if_neg (by omega)]
      · rw [if_neg hki, getElem?_toList (by omega), if_pos (by omega)]
    · rw [List.getElem?_eq_none (by rw [length_toList, hcount]; omega), if_neg (by omega),
        List.getElem?_eq_none (by rw [length_toList]; omega)]

end Valid

end FrameQueue

end Whip6
