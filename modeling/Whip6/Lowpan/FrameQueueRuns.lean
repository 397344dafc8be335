import Whip6.Lib.Runs
import Whip6.Lowpan.FrameQueue

/-!
# Runs of the ring of frames

Indices are added as the last ones, sent from the front, and removed from any place.  The ring holds
the list that results, and loses and doubles no index, as long as an index is not removed from the
front of different ones: the removal then closes the gap and moves on to the next cell as well.
-/

namespace Whip6

open Lib

inductive FrameQueueOp
  | add (fwdPacketIdx : UInt8)
  | removeFirst
  | removeIth (i : UInt8)
  deriving DecidableEq

/-- What becomes of an index. -/
inductive FrameQueueAct
  | added (fwdPacketIdx : UInt8)
  | refused (fwdPacketIdx : UInt8)
  | sent (fwdPacketIdx : UInt8)
  | removed (fwdPacketIdx : UInt8)
  deriving DecidableEq

/-- The indices that enter the ring. -/
def FrameQueueAct.entering : FrameQueueAct → Option UInt8
  | .added x => some x
  | _ => none

/-- The indices that leave the ring. -/
def FrameQueueAct.leaving : FrameQueueAct → Option UInt8
  | .sent x => some x
  | .removed x => some x
  | _ => none

/-- A list of indices with the operations of the ring. -/
def frameListStep (maxFrameQueueSize : ℕ) (l : List UInt8) :
    FrameQueueOp → List UInt8 × List FrameQueueAct
  | .add x =>
    if l.length < maxFrameQueueSize then (l ++ [x], [.added x]) else (l, [.refused x])
  | .removeFirst => (l.tail, [.sent (l.getD 0 0)])
  | .removeIth i => (l.eraseIdx i.toNat, [.removed (l.getD i.toNat 0)])

namespace FrameQueue

/-- The first index is the one whose frame is sent. -/
def step (q : FrameQueue) : FrameQueueOp → FrameQueue × List FrameQueueAct
  | .add x =>
    let r := q.addFwdPacketIdxAsLastInFrameQueue x
    (r.2, if r.1 then [.added x] else [.refused x])
  | .removeFirst =>
    (q.removeFirstFwdPacketIndxFromFrameQueue, [.sent (q.frameQueueArray (q.cell 0))])
  | .removeIth i =>
    (q.removeIthFwdPacketIndxFromFrameQueue i, [.removed (q.frameQueueArray (q.cell i.toNat))])

/-- Indices are taken from where there is one. -/
def Allowed (q : FrameQueue) : FrameQueueOp → Prop
  | .add _ => True
  | .removeFirst => 0 < q.frameQueueCount.toNat
  | .removeIth i => i.toNat < q.frameQueueCount.toNat

/-- The index to be removed is not the first one, or the ones behind it are all the same, as they are
when there is at most one. -/
def Spares (q : FrameQueue) (i : UInt8) : Prop :=
  i ≠ 0 ∨ ∀ x ∈ q.toList.tail, ∀ y ∈ q.toList.tail, x = y

/-- No index is removed from the front of different ones. -/
def SparesStep (q : FrameQueue) : FrameQueueOp → Prop
  | .removeIth i => q.Spares i
  | _ => True

variable {q : FrameQueue} {i x : UInt8} {l : List UInt8}

/-! ## Removing the first index -/

/-- A list that is moved up by one place, its last element once more, is as before when all its
elements are the same. -/
theorem tail_append_getLast?_eq_iff {α : Type*} (l : List α) :
    l.tail ++ l.getLast?.toList = l ↔ ∀ x ∈ l, ∀ y ∈ l, x = y := by
  induction l with
  | nil => simp
  | cons a l ih =>
    cases l with
    | nil => simp
    | cons b l =>
      rw [List.tail_cons] at ih
      rw [List.getLast?_cons_cons, List.tail_cons, List.cons_append, List.cons.injEq, ih]
      constructor
      · rintro ⟨rfl, hsame⟩ x hx y hy
        simp only [List.mem_cons, or_self_left] at hx hy
        exact hsame x (List.mem_cons.mpr hx) y (List.mem_cons.mpr hy)
      · intro hsame
        exact ⟨hsame b (by simp) a (by simp),
          fun x hx y hy => hsame x (List.mem_cons_of_mem a hx) y (List.mem_cons_of_mem a hy)⟩

/-- What the removal of the first index leaves: the one behind it is gone, and the last one is there
twice. -/
theorem Valid.removeIth_zero (h : q.Valid) (hpos : 0 < q.frameQueueCount.toNat) :
    (q.removeIthFwdPacketIndxFromFrameQueue 0).Valid ∧
      (q.removeIthFwdPacketIndxFromFrameQueue 0).toList =
        q.toList.tail.tail ++ q.toList.tail.getLast?.toList := by
  have hmax := h.lt_max hpos
  have hle := h.count_le
  have hcount : (q.frameQueueCount - 1).toNat = q.frameQueueCount.toNat - 1 := by
    rw [UInt8.toNat_sub, UInt8.toNat_one]
    have := q.frameQueueCount.toNat_lt
    omega
  have hcnt : (q.frameQueueCount - 0 - 1).toNat = q.frameQueueCount.toNat - 1 := by
    rw [UInt8.sub_zero, hcount]
  have hfirst := h.toNat_firstIdx_succ hmax
  have hcell : (q.frameQueueFirstIdx.toNat + (0 : UInt8).toNat) % q.maxFrameQueueSize.toNat =
      q.cell 0 := rfl
  -- the cells behind the new first one
  have hbehind : ∀ k, k + 1 < q.maxFrameQueueSize.toNat →
      removeIthLoop q.maxFrameQueueSize.toNat (q.frameQueueCount.toNat - 1) (q.cell 0)
        q.frameQueueArray ((((q.frameQueueFirstIdx + 1) % q.maxFrameQueueSize).toNat + k) %
          q.maxFrameQueueSize.toNat) =
        if k + 1 < q.frameQueueCount.toNat - 1 then q.frameQueueArray (q.cell (k + 2))
        else q.frameQueueArray (q.cell (k + 1)) := by
    intro k hk
    have hnext : (((q.frameQueueFirstIdx + 1) % q.maxFrameQueueSize).toNat + k) %
        q.maxFrameQueueSize.toNat = q.cell (k + 1) := by
      rw [hfirst, Nat.mod_add_mod, cell, Nat.add_assoc, Nat.add_comm 1 k]
    rw [hnext, h.removeIthLoop_cell _ _ _ (by omega) hk]
    simp only [Nat.zero_le, Nat.zero_add, true_and, Nat.add_assoc]
  rw [removeIthFwdPacketIndxFromFrameQueue]
  simp only [if_pos, hcnt, hcell]
  refine ⟨⟨?_, fun _ => ?_⟩, ?_⟩
  · exact hcount.trans_le ((Nat.sub_le _ _).trans hle)
  · exact hfirst.trans_lt (Nat.mod_lt _ hmax)
  · refine List.ext_getElem? fun k => ?_
    rcases Nat.lt_trichotomy (k + 1) (q.frameQueueCount.toNat - 1) with hk | hk | hk
    · have hlt : k < q.toList.tail.tail.length := by
        rw [List.length_tail, List.length_tail, length_toList]
        omega
      rw [getElem?_toList (by rw [hcount]; omega), List.getElem?_append_left hlt,
        List.getElem?_tail, List.getElem?_tail, getElem?_toList (by omega)]
      exact congrArg some (hbehind k (by omega) |>.trans (if_pos (by omega)))
    · have hlen : q.toList.tail.tail.length = k := by
        rw [List.length_tail, List.length_tail, length_toList]
        omega
      rw [getElem?_toList (by rw [hcount]; omega), List.getElem?_append_right hlen.le, hlen,
        Nat.sub_self, List.getLast?_eq_getElem?, List.length_tail, length_toList,
        List.getElem?_tail, getElem?_toList (by omega)]
      have hlast : q.frameQueueCount.toNat - 1 - 1 + 1 = k + 1 := by omega
      rw [hlast]
      exact congrArg some (hbehind k (by omega) |>.trans (if_neg (by omega)))
    · rw [List.getElem?_eq_none (by rw [length_toList, hcount]; omega), List.getElem?_eq_none]
      rw [List.length_append, List.length_tail, List.length_tail, length_toList]
      rcases hlast : q.toList.tail.getLast? with _ | y
      · simp only [Option.toList_none, List.length_nil]
        omega
      · have hne : 0 < q.toList.tail.length := by
          rcases htail : q.toList.tail with _ | ⟨a, l⟩
          · rw [htail] at hlast
            cases hlast
          · exact Nat.succ_pos _
        rw [List.length_tail, length_toList] at hne
        simp only [Option.toList_some, List.length_singleton]
        omega

/-- An index is removed from its place exactly where the queue is spared. -/
theorem Valid.removeIth_iff (h : q.Valid) (hlt : i.toNat < q.frameQueueCount.toNat) :
    (q.removeIthFwdPacketIndxFromFrameQueue i).Valid ∧
      ((q.removeIthFwdPacketIndxFromFrameQueue i).toList = q.toList.eraseIdx i.toNat ↔
        q.Spares i) := by
  by_cases hi : i = 0
  · subst hi
    obtain ⟨hvalid, hlist⟩ := h.removeIth_zero hlt
    refine ⟨hvalid, ?_⟩
    rw [hlist, UInt8.toNat_zero, List.eraseIdx_zero, tail_append_getLast?_eq_iff]
    exact (or_iff_right fun hne => hne rfl).symm
  · have hpos : 0 < i.toNat := by
      rw [Nat.pos_iff_ne_zero]
      exact fun hzero => hi (UInt8.toNat_inj.mp hzero)
    obtain ⟨hvalid, hlist⟩ := h.removeIth hpos hlt
    exact ⟨hvalid, iff_of_true hlist (Or.inl hi)⟩

/-! ## Runs -/

theorem getD_toList {k : ℕ} (hk : k < q.frameQueueCount.toNat) :
    q.toList.getD k 0 = q.frameQueueArray (q.cell k) := by
  rw [List.getD_eq_getElem?_getD, getElem?_toList hk, Option.getD_some]

/-- A full ring refuses an index. -/
theorem add_full (hfull : ¬ q.toList.length < q.maxFrameQueueSize.toNat) :
    q.addFwdPacketIdxAsLastInFrameQueue x = (false, q) := by
  rw [length_toList, Nat.not_lt, ← UInt8.le_iff_toNat_le] at hfull
  rw [addFwdPacketIdxAsLastInFrameQueue, if_pos hfull]

/-- A step of the ring is the step of its list. -/
theorem Valid.step {op : FrameQueueOp} (h : q.Valid) (hallowed : q.Allowed op)
    (hspares : q.SparesStep op) :
    (q.step op).1.Valid ∧ (q.step op).1.maxFrameQueueSize = q.maxFrameQueueSize ∧
      ((q.step op).1.toList, (q.step op).2) =
        frameListStep q.maxFrameQueueSize.toNat q.toList op := by
  cases op with
  | add x =>
    by_cases hroom : q.toList.length < q.maxFrameQueueSize.toNat
    · obtain ⟨q', hadd, hvalid, hmax, hlist⟩ := h.add hroom
      rw [FrameQueue.step, hadd, frameListStep, if_pos hroom]
      exact ⟨hvalid, hmax, by rw [hlist]; rfl⟩
    · rw [FrameQueue.step, add_full hroom, frameListStep, if_neg hroom]
      exact ⟨h, rfl, rfl⟩
  | removeFirst =>
    have hpos : 0 < q.frameQueueCount.toNat := hallowed
    rcases hq : q.toList with _ | ⟨x, rest⟩
    · have hlen := q.length_toList
      rw [hq, List.length_nil] at hlen
      omega
    · obtain ⟨hvalid, hlist⟩ := h.removeFirst hq
      refine ⟨hvalid, rfl, ?_⟩
      rw [FrameQueue.step, frameListStep, hlist, ← getD_toList hpos, hq, List.tail_cons]
  | removeIth i =>
    have hlt : i.toNat < q.frameQueueCount.toNat := hallowed
    obtain ⟨hvalid, hlist⟩ := h.removeIth_iff hlt
    refine ⟨hvalid, ?_, ?_⟩
    · rw [FrameQueue.step, removeIthFwdPacketIndxFromFrameQueue]
      dsimp only
      split <;> rfl
    · rw [FrameQueue.step, frameListStep, hlist.mpr hspares, ← getD_toList hlt]

/-- A step loses and doubles no index. -/
theorem frameListStep_perm {op : FrameQueueOp} (hallowed : q.Allowed op) (maxFrameQueueSize : ℕ) :
    let r := frameListStep maxFrameQueueSize q.toList op
    (q.toList ++ r.2.filterMap FrameQueueAct.entering).Perm
      (r.2.filterMap FrameQueueAct.leaving ++ r.1) := by
  cases op with
  | add x =>
    rw [frameListStep]
    split
    · exact List.Perm.refl _
    · exact List.Perm.of_eq (List.append_nil _)
  | removeFirst =>
    have hpos : 0 < q.frameQueueCount.toNat := hallowed
    rcases hq : q.toList with _ | ⟨x, rest⟩
    · have hlen := q.length_toList
      rw [hq, List.length_nil] at hlen
      omega
    · exact List.Perm.of_eq (List.append_nil _)
  | removeIth i =>
    have hlt : i.toNat < q.toList.length := by
      rw [length_toList]
      exact hallowed
    have hget : q.toList.getD i.toNat 0 = q.toList[i.toNat] := List.getD_eq_getElem _ 0 hlt
    rw [frameListStep, hget]
    refine List.Perm.trans (List.Perm.of_eq (List.append_nil _)) ?_
    exact (List.getElem_cons_eraseIdx_perm hlt).symm

/-- The ring after a run holds the list that results, and loses and doubles no index. -/
theorem Valid.run {ops : List FrameQueueOp} (h : q.Valid)
    (hmeets : RunMeets FrameQueue.step (fun q op => q.Allowed op ∧ q.SparesStep op) q ops) :
    let r := Lib.run FrameQueue.step q ops
    r.1.Valid ∧
      (r.1.toList, r.2) = Lib.run (frameListStep q.maxFrameQueueSize.toNat) q.toList ops ∧
      (q.toList ++ r.2.filterMap FrameQueueAct.entering).Perm
        (r.2.filterMap FrameQueueAct.leaving ++ r.1.toList) := by
  induction ops generalizing q with
  | nil => exact ⟨h, rfl, List.Perm.of_eq (List.append_nil _)⟩
  | cons op ops ih =>
    obtain ⟨⟨hallowed, hspares⟩, hrest⟩ := hmeets
    obtain ⟨hvalid, hmax, hstep⟩ := h.step hallowed hspares
    obtain ⟨hvalid', hrun, hperm⟩ := ih hvalid hrest
    have hfirst := frameListStep_perm hallowed q.maxFrameQueueSize.toNat
    rw [← hstep] at hfirst
    refine ⟨hvalid', ?_, ?_⟩
    · rw [hmax] at hrun
      rw [Lib.run, Lib.run, ← hstep]
      dsimp only
      rw [← hrun]
    · rw [Lib.run]
      dsimp only at hfirst ⊢
      rw [List.filterMap_append, List.filterMap_append, ← List.append_assoc, List.append_assoc
        (List.filterMap FrameQueueAct.leaving _)]
      refine (hfirst.append_right _).trans ?_
      rw [List.append_assoc]
      exact hperm.append_left _

section Results

/-- **The ring of frames.**  Removing an index leaves the others in their order exactly when it is not
the first one before different ones.  Over any operations without such a removal the ring behaves as
a list of indices, and every index that was in it or entered it is in it or has left it, once. -/
theorem frameQueue_removal (h : q.Valid) :
    (∀ i : UInt8, i.toNat < q.frameQueueCount.toNat →
      ((q.removeIthFwdPacketIndxFromFrameQueue i).toList = q.toList.eraseIdx i.toNat ↔
        q.Spares i)) ∧
    ∀ ops, RunMeets FrameQueue.step (fun q op => q.Allowed op ∧ q.SparesStep op) q ops →
      let r := Lib.run FrameQueue.step q ops
      (r.1.toList, r.2) = Lib.run (frameListStep q.maxFrameQueueSize.toNat) q.toList ops ∧
        (q.toList ++ r.2.filterMap FrameQueueAct.entering).Perm
          (r.2.filterMap FrameQueueAct.leaving ++ r.1.toList) :=
  ⟨fun _ hlt => (h.removeIth_iff hlt).2, fun _ hmeets => (h.run hmeets).2⟩

/-- Three indices in a ring of four cells that starts at its last one. -/
def threeFrames : FrameQueue where
  frameQueueArray := fun k => if k = 3 then 7 else UInt8.ofNat (k + 8)
  frameQueueFirstIdx := 3
  frameQueueCount := 3
  maxFrameQueueSize := 4

theorem frameQueue_removal_three :
    threeFrames.toList = [7, 8, 9] ∧
    (∀ i : UInt8, i.toNat < threeFrames.frameQueueCount.toNat →
      ((threeFrames.removeIthFwdPacketIndxFromFrameQueue i).toList =
        threeFrames.toList.eraseIdx i.toNat ↔ threeFrames.Spares i)) ∧
    ∀ ops, RunMeets FrameQueue.step (fun q op => q.Allowed op ∧ q.SparesStep op) threeFrames ops →
      let r := Lib.run FrameQueue.step threeFrames ops
      (r.1.toList, r.2) = Lib.run (frameListStep threeFrames.maxFrameQueueSize.toNat)
          threeFrames.toList ops ∧
        (threeFrames.toList ++ r.2.filterMap FrameQueueAct.entering).Perm
          (r.2.filterMap FrameQueueAct.leaving ++ r.1.toList) :=
  ⟨by decide, frameQueue_removal ⟨by decide, fun _ => by decide⟩⟩

/-- The first of three indices is removed: the second one is lost, and the third one is there twice. -/
theorem frameQueue_loses :
    (threeFrames.removeIthFwdPacketIndxFromFrameQueue 0).toList = [9, 9] ∧
      (threeFrames.removeIthFwdPacketIndxFromFrameQueue 0).toList ≠
        threeFrames.toList.eraseIdx 0 := by
  decide

end Results

end FrameQueue

end Whip6
