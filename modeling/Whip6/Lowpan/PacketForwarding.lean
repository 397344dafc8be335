import Whip6.Ieee154.Address
import Whip6.Lib.LinkedList

/-!
# The staging queue of the packet forwarder

The elements of one pool are linked into three lists: the free ones, the packets staged for
forwarding, and the packets whose forwarding has completed.  The queue keeps the last element of the
two queues and two counters beside the links.  Every sequence of calls keeps each element on exactly
one list, with the last elements and the counters true, hands the completed packets back in the
order in which they were marked, and leaves the staged ones in the order in which they were enqueued
(`lowpanPacketForwardingStagingQueue_invariant`).
-/

namespace Whip6

open Lib

/-! ## The queue -/

/-- An element of the queue.  Elements are pointed to by their indices in the pool, packets by
numbers. -/
structure LowpanIpv6PacketReadyForForwarding where
  next : Option ℕ
  packet : ℕ
  status : UInt8
  addr : Ieee154Addr
  deriving DecidableEq, Repr

/-- The queue, with the pool of its elements. -/
structure LowpanIpv6PacketReadyForForwardingQueue where
  stagedQueueFirst : Option ℕ
  stagedQueueLast : Option ℕ
  completedQueueFirst : Option ℕ
  completedQueueLast : Option ℕ
  poolFirst : Option ℕ
  numInPool : UInt8
  numInQueue : UInt8
  elems : ℕ → LowpanIpv6PacketReadyForForwarding
  poolLen : ℕ

namespace LowpanIpv6PacketReadyForForwardingQueue

def next (queue : LowpanIpv6PacketReadyForForwardingQueue) (e : ℕ) : Option ℕ :=
  (queue.elems e).next

def setElem (queue : LowpanIpv6PacketReadyForForwardingQueue) (e : ℕ)
    (elem : LowpanIpv6PacketReadyForForwarding) : LowpanIpv6PacketReadyForForwardingQueue :=
  { queue with elems := Function.update queue.elems e elem }

def setNext (queue : LowpanIpv6PacketReadyForForwardingQueue) (e : ℕ) (next : Option ℕ) :
    LowpanIpv6PacketReadyForForwardingQueue :=
  queue.setElem e { queue.elems e with next := next }

def setStatus (queue : LowpanIpv6PacketReadyForForwardingQueue) (e : ℕ) (status : UInt8) :
    LowpanIpv6PacketReadyForForwardingQueue :=
  queue.setElem e { queue.elems e with status := status }

/-- Link an element behind the last one of a list, or to the start of an empty list: where the list
starts then. -/
def linkLast (queue : LowpanIpv6PacketReadyForForwardingQueue) (first last : Option ℕ) (e : ℕ) :
    Option ℕ × LowpanIpv6PacketReadyForForwardingQueue :=
  match first, last with
  | some f, some l => (some f, queue.setNext l (some e))
  | some f, none => (some f, queue)
  | none, _ => (some e, queue)

end LowpanIpv6PacketReadyForForwardingQueue

/-- Link `left` elements from `ptr` on in front of `poolFirst`. -/
def lowpanStagingQueueInitLoop : ℕ → ℕ → Option ℕ → (ℕ → LowpanIpv6PacketReadyForForwarding) →
    Option ℕ × (ℕ → LowpanIpv6PacketReadyForForwarding)
  | 0, _, poolFirst, elems => (poolFirst, elems)
  | left + 1, ptr, poolFirst, elems =>
    lowpanStagingQueueInitLoop left (ptr + 1) (some ptr)
      (Function.update elems ptr { elems ptr with next := poolFirst })

def lowpanPacketForwardingStagingQueueInit (elems : ℕ → LowpanIpv6PacketReadyForForwarding)
    (queuePoolLen : UInt8) : LowpanIpv6PacketReadyForForwardingQueue :=
  let pool := lowpanStagingQueueInitLoop queuePoolLen.toNat 0 none elems
  { stagedQueueFirst := none
    stagedQueueLast := none
    completedQueueFirst := none
    completedQueueLast := none
    poolFirst := pool.1
    numInPool := queuePoolLen
    numInQueue := 0
    elems := pool.2
    poolLen := queuePoolLen.toNat }

/-- Stage a packet: the element it got, if one was free. -/
def lowpanPacketForwardingStagingQueueEnqueuePacket
    (queue : LowpanIpv6PacketReadyForForwardingQueue) (packet : ℕ) (llAddr : Ieee154Addr) :
    Option ℕ × LowpanIpv6PacketReadyForForwardingQueue :=
  match queue.poolFirst with
  | none => (none, queue)
  | some queueElem =>
    let queue := { queue with poolFirst := queue.next queueElem }
    let r := queue.linkLast queue.stagedQueueFirst queue.stagedQueueLast queueElem
    let queue :=
      { r.2 with
        stagedQueueFirst := r.1
        stagedQueueLast := some queueElem
        numInPool := queue.numInPool - 1
        numInQueue := queue.numInQueue + 1 }
    (some queueElem,
      queue.setElem queueElem { next := none, packet := packet, status := 0, addr := llAddr })

/-- The first staged element with a packet, and the element before it. -/
def lowpanPacketForwardingStagingQueueFindStagedPacket
    (queue : LowpanIpv6PacketReadyForForwardingQueue) (packet : ℕ) : Option ℕ × Option ℕ :=
  findFrom queue.next (fun e => (queue.elems e).packet == packet) queue.poolLen none
    queue.stagedQueueFirst

/-- Unlink a staged element, which is behind `prevQueueElem`. -/
def lowpanStagingQueueUnlinkStagedPacket (queue : LowpanIpv6PacketReadyForForwardingQueue)
    (prevQueueElem : Option ℕ) (currQueueElem : ℕ) : LowpanIpv6PacketReadyForForwardingQueue :=
  let queue :=
    match prevQueueElem with
    | none => { queue with stagedQueueFirst := queue.next currQueueElem }
    | some prev => queue.setNext prev (queue.next currQueueElem)
  let queue := queue.setNext currQueueElem none
  if some currQueueElem = queue.stagedQueueLast then
    { queue with stagedQueueLast := prevQueueElem }
  else queue

/-- Move a staged element, which is behind `prevQueueElem`, to the end of the completed ones. -/
def lowpanPacketForwardingStagingQueueMarkPacketAsCompleted
    (queue : LowpanIpv6PacketReadyForForwardingQueue) (prevQueueElem : Option ℕ)
    (currQueueElem : ℕ) : LowpanIpv6PacketReadyForForwardingQueue :=
  let queue := lowpanStagingQueueUnlinkStagedPacket queue prevQueueElem currQueueElem
  let r := queue.linkLast queue.completedQueueFirst queue.completedQueueLast currQueueElem
  { r.2 with completedQueueFirst := r.1, completedQueueLast := some currQueueElem }

def lowpanPacketForwardingStagingQueueFindCompletedPacket
    (queue : LowpanIpv6PacketReadyForForwardingQueue) (packet : ℕ) : Option ℕ × Option ℕ :=
  findFrom queue.next (fun e => (queue.elems e).packet == packet) queue.poolLen none
    queue.completedQueueFirst

/-- Put the first completed element back into the pool.  There has to be one. -/
def lowpanPacketForwardingStagingQueueRemoveFirstCompletedPacket
    (queue : LowpanIpv6PacketReadyForForwardingQueue) : LowpanIpv6PacketReadyForForwardingQueue :=
  match queue.completedQueueFirst with
  | none => queue
  | some firstQueueElem =>
    let queue := { queue with completedQueueFirst := queue.next firstQueueElem }
    let queue :=
      if queue.completedQueueLast = some firstQueueElem then
        { queue with completedQueueLast := none }
      else queue
    let queue := queue.setNext firstQueueElem queue.poolFirst
    { queue with
      poolFirst := some firstQueueElem
      numInPool := queue.numInPool + 1
      numInQueue := queue.numInQueue - 1 }

/-! ## The queue as lists -/

/-- A packet that is staged or whose forwarding has completed, with its element. -/
structure StagedPacket where
  elem : ℕ
  packet : ℕ
  status : UInt8
  addr : Ieee154Addr
  deriving DecidableEq, Repr

/-- The three lists. -/
structure StagingQueueLists where
  pool : List ℕ
  staged : List StagedPacket
  completed : List StagedPacket

namespace StagingQueueLists

/-- All the elements. -/
def elems (t : StagingQueueLists) : List ℕ :=
  t.pool ++ (t.staged ++ t.completed).map StagedPacket.elem

def enqueue (t : StagingQueueLists) (packet : ℕ) (addr : Ieee154Addr) :
    Option ℕ × StagingQueueLists :=
  match t.pool with
  | [] => (none, t)
  | e :: pool => (some e, { t with pool := pool, staged := t.staged ++ [⟨e, packet, 0, addr⟩] })

/-- Complete the first staged packet with a number, with a status. -/
def complete (t : StagingQueueLists) (packet : ℕ) (status : UInt8) : StagingQueueLists :=
  match t.staged.find? (·.packet == packet) with
  | none => t
  | some p =>
    { t with
      staged := t.staged.eraseP (·.packet == packet)
      completed := t.completed ++ [{ p with status := status }] }

def removeFirst (t : StagingQueueLists) : StagingQueueLists :=
  match t.completed with
  | [] => t
  | p :: completed => { t with pool := p.elem :: t.pool, completed := completed }

end StagingQueueLists

/-- A packet stands in its element. -/
def LowpanIpv6PacketReadyForForwarding.Holds (elem : LowpanIpv6PacketReadyForForwarding)
    (p : StagedPacket) : Prop :=
  elem.packet = p.packet ∧ elem.status = p.status ∧ elem.addr = p.addr

/-- The queue in memory represents the three lists. -/
structure LowpanIpv6PacketReadyForForwardingQueue.Represents
    (queue : LowpanIpv6PacketReadyForForwardingQueue) (t : StagingQueueLists) (poolLen : ℕ) :
    Prop where
  pool : Seg queue.next queue.poolFirst t.pool none
  staged : Seg queue.next queue.stagedQueueFirst (t.staged.map StagedPacket.elem) none
  completed : Seg queue.next queue.completedQueueFirst (t.completed.map StagedPacket.elem) none
  stagedLast : queue.stagedQueueLast = (t.staged.map StagedPacket.elem).getLast?
  completedLast : queue.completedQueueLast = (t.completed.map StagedPacket.elem).getLast?
  numInPool : queue.numInPool.toNat = t.pool.length
  numInQueue : queue.numInQueue.toNat = t.staged.length + t.completed.length
  holds : ∀ p ∈ t.staged ++ t.completed, (queue.elems p.elem).Holds p
  partition : t.elems.Perm (List.range poolLen)
  poolLen_eq : queue.poolLen = poolLen
  poolLen_lt : poolLen < 256

/-! ## What the operations do to the lists -/

theorem toNat_succ {n : UInt8} {k : ℕ} (h : n.toNat = k) (hk : k < 255) :
    (n + 1).toNat = k + 1 := by
  rw [UInt8.toNat_add, h, UInt8.toNat_one, Nat.mod_eq_of_lt (by omega)]

theorem toNat_pred {n : UInt8} {k : ℕ} (h : n.toNat = k + 1) : (n - 1).toNat = k := by
  rw [UInt8.toNat_sub_of_le _ _ (by rw [UInt8.le_iff_toNat_le, h, UInt8.toNat_one]; omega), h,
    UInt8.toNat_one, Nat.add_sub_cancel]

namespace LowpanIpv6PacketReadyForForwardingQueue

variable {queue : LowpanIpv6PacketReadyForForwardingQueue} {t : StagingQueueLists} {poolLen : ℕ}

@[simp] theorem next_setNext (e : ℕ) (v : Option ℕ) :
    (queue.setNext e v).next = Function.update queue.next e v := by
  funext k
  by_cases hk : k = e
  · subst hk
    simp [setNext, setElem, next]
  · simp [setNext, setElem, next, Function.update_of_ne hk]

theorem next_setNext_self {e : ℕ} {v : Option ℕ} : (queue.setNext e v).next e = v := by simp

theorem next_setNext_of_ne {e k : ℕ} {v : Option ℕ} (hk : k ≠ e) :
    (queue.setNext e v).next k = queue.next k := by
  rw [next_setNext, Function.update_of_ne hk]

@[simp] theorem next_setElem (e : ℕ) (elem : LowpanIpv6PacketReadyForForwarding) :
    (queue.setElem e elem).next = Function.update queue.next e elem.next := by
  funext k
  by_cases hk : k = e
  · subst hk
    simp [setElem, next]
  · simp [setElem, next, Function.update_of_ne hk]

theorem holds_setNext {p : StagedPacket} (e : ℕ) (v : Option ℕ)
    (h : (queue.elems p.elem).Holds p) : ((queue.setNext e v).elems p.elem).Holds p := by
  by_cases hp : p.elem = e
  · subst hp
    simpa [setNext, setElem, LowpanIpv6PacketReadyForForwarding.Holds] using h
  · simpa [setNext, setElem, Function.update_of_ne hp] using h

theorem holds_setElem {p : StagedPacket} {e : ℕ} (elem : LowpanIpv6PacketReadyForForwarding)
    (hp : p.elem ≠ e) (h : (queue.elems p.elem).Holds p) :
    ((queue.setElem e elem).elems p.elem).Holds p := by
  simpa [setElem, Function.update_of_ne hp] using h

namespace Represents

theorem nodup (h : queue.Represents t poolLen) : t.elems.Nodup :=
  h.partition.nodup_iff.mpr List.nodup_range

theorem length_elems (h : queue.Represents t poolLen) :
    t.pool.length + t.staged.length + t.completed.length = poolLen := by
  have hlen := h.partition.length_eq
  simpa [StagingQueueLists.elems, Nat.add_assoc] using hlen

end Represents

variable (queue) in
theorem linkLast_spec {l : List ℕ} {first last : Option ℕ} (e : ℕ)
    (h : Seg queue.next first l none) (hlast : last = l.getLast?) :
    ∃ elems, queue.linkLast first last e = (first.or (some e), { queue with elems := elems }) ∧
      (∀ j, l.getLast? = some j → (elems j).next = some e) ∧
      (∀ k, l.getLast? ≠ some k → elems k = queue.elems k) ∧
      ∀ p : StagedPacket, (queue.elems p.elem).Holds p → (elems p.elem).Holds p := by
  subst hlast
  rcases List.eq_nil_or_concat' l with rfl | ⟨l, j, rfl⟩
  · obtain rfl : first = none := h
    exact ⟨queue.elems, rfl, by simp, fun _ _ => rfl, fun _ hp => hp⟩
  · obtain ⟨k, rfl⟩ : ∃ k, first = some k := by
      cases l with
      | nil => exact ⟨j, h.1⟩
      | cons k l => exact ⟨k, h.1⟩
    rw [List.getLast?_concat]
    refine ⟨(queue.setNext j (some e)).elems, rfl, ?_, ?_, fun p hp => holds_setNext _ _ hp⟩
    · intro i hi
      obtain rfl : j = i := Option.some.inj hi
      simp [setNext, setElem]
    · intro i hi
      have hij : i ≠ j := fun heq => hi (by rw [heq])
      simp [setNext, setElem, Function.update_of_ne hij]

namespace Represents

theorem enqueue (h : queue.Represents t poolLen) (packet : ℕ) (llAddr : Ieee154Addr) :
    let r := lowpanPacketForwardingStagingQueueEnqueuePacket queue packet llAddr
    r.1 = (t.enqueue packet llAddr).1 ∧ r.2.Represents (t.enqueue packet llAddr).2 poolLen := by
  have hnodup := h.nodup
  have hlen := h.length_elems
  cases hpool : t.pool with
  | nil =>
    have hfirst : queue.poolFirst = none := by simpa [hpool] using h.pool
    simp only [lowpanPacketForwardingStagingQueueEnqueuePacket, hfirst, StagingQueueLists.enqueue,
      hpool, true_and]
    exact h
  | cons e pool =>
    obtain ⟨hfirst, hbehind⟩ : queue.poolFirst = some e ∧ Seg queue.next (queue.next e) pool none :=
      by simpa [hpool] using h.pool
    obtain ⟨elems, hlink, hlast, hother, hholds⟩ := linkLast_spec
      { queue with poolFirst := queue.next e } e h.staged h.stagedLast
    simp only [StagingQueueLists.elems, hpool, List.cons_append, List.map_append, List.nodup_cons,
      List.mem_append, not_or, List.nodup_append] at hnodup
    obtain ⟨⟨hepool, hestaged, hecompleted⟩, hpoolnodup, ⟨hstaged, hcompleted, hapart⟩, hpoolapart⟩ :=
      hnodup
    have hnext : ∀ k, k ≠ e → (t.staged.map StagedPacket.elem).getLast? ≠ some k →
        (Function.update elems e ⟨none, packet, 0, llAddr⟩ k).next = queue.next k := by
      intro k hk hklast
      rw [Function.update_of_ne hk, hother k hklast]
      rfl
    have hnotlast : ∀ k, k ∉ t.staged.map StagedPacket.elem →
        (t.staged.map StagedPacket.elem).getLast? ≠ some k := fun k hk hlast =>
      hk (List.mem_of_getLast? hlast)
    simp only [lowpanPacketForwardingStagingQueueEnqueuePacket, hfirst, hlink,
      StagingQueueLists.enqueue, hpool, true_and]
    simp only [hpool, List.length_cons] at hlen
    have hnumPool := h.numInPool
    have hnumQueue := h.numInQueue
    have hlt := h.poolLen_lt
    simp only [hpool, List.length_cons] at hnumPool
    refine ⟨?_, ?_, ?_, ?_, h.completedLast, ?_, ?_, ?_, ?_, h.poolLen_eq, h.poolLen_lt⟩
    · exact hbehind.congr fun k hk => hnext k (ne_of_mem_of_not_mem hk hepool)
        (hnotlast k fun hmem => hpoolapart k hk k (Or.inl hmem) rfl)
    · rw [List.map_append]
      refine Seg.append h.staged hstaged ?_ ?_ ?_
      · intro j hj
        have hje : j ≠ e := ne_of_mem_of_not_mem (List.mem_of_getLast? hj) hestaged
        simp [setElem, LowpanIpv6PacketReadyForForwardingQueue.next, Function.update_of_ne hje,
          hlast j hj]
      · simp [setElem, LowpanIpv6PacketReadyForForwardingQueue.next]
      · exact fun k hk hklast => hnext k (ne_of_mem_of_not_mem hk hestaged) hklast
    · exact h.completed.congr fun k hk => hnext k (ne_of_mem_of_not_mem hk hecompleted)
        (hnotlast k fun hmem => hapart k hmem k hk rfl)
    · rw [List.map_append, List.map_singleton, List.getLast?_concat]
      rfl
    · change (queue.numInPool - 1).toNat = pool.length
      exact toNat_pred hnumPool
    · change (queue.numInQueue + 1).toNat = (t.staged ++ [_]).length + t.completed.length
      rw [toNat_succ hnumQueue (by omega), List.length_append, List.length_singleton]
      omega
    · intro p hp
      rw [List.append_assoc, List.mem_append, List.mem_append, List.mem_singleton] at hp
      have hold : p ∈ t.staged ++ t.completed →
          (Function.update elems e ⟨none, packet, 0, llAddr⟩ p.elem).Holds p := by
        clear hp
        intro hp
        have hpe : p.elem ≠ e := by
          intro heq
          rcases List.mem_append.mp hp with hp | hp
          · exact hestaged (heq ▸ List.mem_map_of_mem hp)
          · exact hecompleted (heq ▸ List.mem_map_of_mem hp)
        rw [Function.update_of_ne hpe]
        exact hholds p (h.holds p hp)
      rcases hp with hp | rfl | hp
      · exact hold (List.mem_append_left _ hp)
      · simp [setElem, LowpanIpv6PacketReadyForForwarding.Holds]
      · exact hold (List.mem_append_right _ hp)
    · refine List.Perm.trans ?_ h.partition
      rw [List.perm_iff_count]
      intro x
      simp only [StagingQueueLists.elems, hpool, List.map_append, List.map_cons, List.map_nil,
        List.count_append, List.count_cons, List.count_nil]
      omega

variable {l₁ l₂ : List StagedPacket} {p : StagedPacket}

/-- The search stops at the first staged packet with the number. -/
theorem find_some (h : queue.Represents t poolLen) (hsplit : t.staged = l₁ ++ p :: l₂)
    (hl₁ : ∀ b ∈ l₁, (b.packet == p.packet) = false) :
    lowpanPacketForwardingStagingQueueFindStagedPacket queue p.packet =
      ((l₁.map StagedPacket.elem).getLast?, some p.elem) := by
  have hstaged := h.staged
  have hlen := h.length_elems
  have hmem : ∀ b ∈ t.staged, (queue.elems b.elem).packet = b.packet := fun b hb =>
    (h.holds b (List.mem_append_left _ hb)).1
  rw [hsplit] at hstaged hlen hmem
  rw [List.map_append, List.map_cons] at hstaged
  simp only [List.length_append, List.length_cons] at hlen
  have hbefore : ∀ e ∈ l₁.map StagedPacket.elem,
      ((queue.elems e).packet == p.packet) = false := by
    intro e he
    obtain ⟨b, hb, rfl⟩ := List.mem_map.mp he
    rw [hmem b (List.mem_append_left _ hb)]
    exact hl₁ b hb
  rw [lowpanPacketForwardingStagingQueueFindStagedPacket, findFrom_of_split hstaged
    (by rw [List.length_map, h.poolLen_eq]; omega) hbefore (by simp [hmem p (by simp)])]
  simp

theorem find_none (h : queue.Represents t poolLen) {packet : ℕ}
    (hnone : t.staged.find? (·.packet == packet) = none) :
    (lowpanPacketForwardingStagingQueueFindStagedPacket queue packet).2 = none := by
  have hlen := h.length_elems
  refine findFrom_of_forall h.staged (by rw [List.length_map, h.poolLen_eq]; omega) ?_
  intro e he
  obtain ⟨b, hb, rfl⟩ := List.mem_map.mp he
  rw [(h.holds b (List.mem_append_left _ hb)).1]
  simpa using List.find?_eq_none.mp hnone b hb

theorem split_apart (h : queue.Represents t poolLen) (hsplit : t.staged = l₁ ++ p :: l₂) :
    p.elem ∉ t.pool ∧ p.elem ∉ (l₁ ++ l₂).map StagedPacket.elem ∧
      p.elem ∉ t.completed.map StagedPacket.elem := by
  have hnodup := h.nodup
  have hperm : t.elems.Perm (p.elem ::
      (t.pool ++ (l₁ ++ l₂).map StagedPacket.elem ++ t.completed.map StagedPacket.elem)) := by
    rw [List.perm_iff_count]
    intro x
    simp only [StagingQueueLists.elems, hsplit, List.map_append, List.map_cons, List.count_append,
      List.count_cons]
    omega
  have hnot := (List.nodup_cons.mp (hperm.nodup_iff.mp hnodup)).1
  simp only [List.mem_append, not_or] at hnot
  exact ⟨hnot.1.1, hnot.1.2, hnot.2⟩

theorem setStatus (h : queue.Represents t poolLen) (hsplit : t.staged = l₁ ++ p :: l₂)
    (status : UInt8) :
    (queue.setStatus p.elem status).Represents
      { t with staged := l₁ ++ { p with status := status } :: l₂ } poolLen := by
  obtain ⟨-, hstaged, hcompleted⟩ := h.split_apart hsplit
  have hnext : (queue.setStatus p.elem status).next = queue.next := by
    rw [LowpanIpv6PacketReadyForForwardingQueue.setStatus, next_setElem]
    exact Function.update_eq_self _ _
  have hmap : (l₁ ++ { p with status := status } :: l₂).map StagedPacket.elem =
      t.staged.map StagedPacket.elem := by
    rw [hsplit]
    simp
  have hlen : (l₁ ++ { p with status := status } :: l₂).length = t.staged.length := by
    rw [hsplit]
    simp
  refine ⟨by rw [hnext]; exact h.pool, ?_, by rw [hnext]; exact h.completed, ?_, h.completedLast,
    h.numInPool, ?_, ?_, ?_, h.poolLen_eq, h.poolLen_lt⟩
  · rw [hnext, hmap]
    exact h.staged
  · rw [hmap]
    exact h.stagedLast
  · rw [hlen]
    exact h.numInQueue
  · intro q hq
    rw [List.append_assoc, List.mem_append, List.cons_append, List.mem_cons, List.mem_append] at hq
    have hold : q ∈ l₁ ++ l₂ ∨ q ∈ t.completed →
        ((queue.setStatus p.elem status).elems q.elem).Holds q := by
      intro hq
      refine holds_setElem _ ?_ (h.holds q ?_)
      · intro heq
        rcases hq with hq | hq
        · exact hstaged (heq ▸ List.mem_map_of_mem hq)
        · exact hcompleted (heq ▸ List.mem_map_of_mem hq)
      · rw [hsplit]
        simp only [List.mem_append, List.mem_cons] at hq ⊢
        tauto
    rcases hq with hq | rfl | hq | hq
    · exact hold (Or.inl (List.mem_append_left _ hq))
    · obtain ⟨hpacket, -, haddr⟩ := h.holds p (by simp [hsplit])
      simp [LowpanIpv6PacketReadyForForwardingQueue.setStatus, setElem,
        LowpanIpv6PacketReadyForForwarding.Holds, hpacket, haddr]
    · exact hold (Or.inl (List.mem_append_right _ hq))
    · exact hold (Or.inr hq)
  · simp only [StagingQueueLists.elems, List.map_append, hmap]
    simpa only [StagingQueueLists.elems, List.map_append] using h.partition

variable (queue) in
theorem unlinkStaged_eq (prev : Option ℕ) (curr : ℕ) :
    lowpanStagingQueueUnlinkStagedPacket queue prev curr =
      { (match prev with
          | none => { queue with stagedQueueFirst := queue.next curr }
          | some j => queue.setNext j (queue.next curr)).setNext curr none with
        stagedQueueLast := if some curr = queue.stagedQueueLast then prev
          else queue.stagedQueueLast } := by
  unfold lowpanStagingQueueUnlinkStagedPacket
  by_cases hlast : some curr = queue.stagedQueueLast
  · cases prev with
    | none => exact (if_pos hlast).trans (by rw [if_pos hlast])
    | some j => exact (if_pos hlast).trans (by rw [if_pos hlast])
  · cases prev with
    | none => exact (if_neg hlast).trans (by rw [if_neg hlast]; rfl)
    | some j => exact (if_neg hlast).trans (by rw [if_neg hlast]; rfl)

/-- The list without the unlinked element. -/
theorem unlink (h : queue.Represents t poolLen) (hsplit : t.staged = l₁ ++ p :: l₂) :
    let q := lowpanStagingQueueUnlinkStagedPacket queue (l₁.map StagedPacket.elem).getLast? p.elem
    Seg q.next q.stagedQueueFirst ((l₁ ++ l₂).map StagedPacket.elem) none ∧
      q.stagedQueueLast = ((l₁ ++ l₂).map StagedPacket.elem).getLast? ∧ q.next p.elem = none ∧
      (∀ k, k ∉ t.staged.map StagedPacket.elem → q.next k = queue.next k) ∧
      (∀ b : StagedPacket, (queue.elems b.elem).Holds b → (q.elems b.elem).Holds b) ∧
      q = { queue with
        stagedQueueFirst := q.stagedQueueFirst, stagedQueueLast := q.stagedQueueLast,
        elems := q.elems } := by
  obtain ⟨-, hnot, -⟩ := h.split_apart hsplit
  have hstaged := h.staged
  have hlast := h.stagedLast
  have hnodup : ((l₁ ++ p :: l₂).map StagedPacket.elem).Nodup := by
    have hnodup := h.nodup
    rw [StagingQueueLists.elems, List.map_append, List.nodup_append, List.nodup_append, hsplit]
      at hnodup
    exact hnodup.2.1.1
  rw [hsplit] at hstaged hlast
  rw [hsplit]
  simp only [List.map_append, List.map_cons, List.mem_append, not_or] at hstaged hlast hnodup hnot ⊢
  obtain ⟨hnot₁, hnot₂⟩ := hnot
  -- The last element changes only when it is the one that is unlinked.
  have hlast' : (if some p.elem = queue.stagedQueueLast then (l₁.map StagedPacket.elem).getLast?
      else queue.stagedQueueLast) =
        (l₁.map StagedPacket.elem ++ l₂.map StagedPacket.elem).getLast? := by
    rw [hlast]
    rcases List.eq_nil_or_concat' l₂ with rfl | ⟨l₂, b, rfl⟩
    · simp
    · have hne : p.elem ≠ b.elem := fun heq => hnot₂ (by simp [heq])
      have hb : (l₁.map StagedPacket.elem ++
          p.elem :: (l₂ ++ [b]).map StagedPacket.elem).getLast? = some b.elem := by
        rw [List.map_append, ← List.cons_append, ← List.append_assoc]
        exact List.getLast?_concat
      rw [hb, if_neg fun heq => hne (Option.some.inj heq)]
      simp
  rw [unlinkStaged_eq, hlast']
  rcases List.eq_nil_or_concat' l₁ with rfl | ⟨l₁, j, rfl⟩
  · obtain ⟨-, hbehind⟩ := hstaged
    refine ⟨?_, rfl, ?_, ?_, fun b hb => holds_setNext _ _ hb, rfl⟩
    · have hseg := hbehind.update_of_notMem hnot₂ none
      rwa [← next_setNext] at hseg
    · exact next_setNext_self
    · intro k hk
      have hkp : k ≠ p.elem := fun heq => hk.2 (by simp [heq])
      exact next_setNext_of_ne hkp
  · simp only [List.map_append, List.map_cons, List.map_nil, List.getLast?_concat,
      List.append_assoc, List.singleton_append] at hstaged hnodup ⊢
    have hpj : p.elem ≠ j.elem := fun heq => hnot₁ (by simp [heq])
    have hunlink := hstaged.unlink hnodup
    refine ⟨?_, trivial, ?_, ?_, fun b hb => holds_setNext _ _ (holds_setNext _ _ hb), rfl⟩
    · have hnot : p.elem ∉ l₁.map StagedPacket.elem ++ j.elem :: l₂.map StagedPacket.elem := by
        simp only [List.map_append, List.mem_append, List.map_cons, List.map_nil] at hnot₁
        simp only [List.mem_append, List.mem_cons]
        tauto
      have hseg := hunlink.update_of_notMem hnot none
      rwa [← next_setNext, ← next_setNext] at hseg
    · exact next_setNext_self
    · intro k hk
      have hkp : k ≠ p.elem := fun heq => by simp [heq] at hk
      have hkj : k ≠ j.elem := fun heq => by simp [heq] at hk
      exact (next_setNext_of_ne hkp).trans (next_setNext_of_ne hkj)

theorem mark (h : queue.Represents t poolLen) (hsplit : t.staged = l₁ ++ p :: l₂) :
    (lowpanPacketForwardingStagingQueueMarkPacketAsCompleted queue
      (l₁.map StagedPacket.elem).getLast? p.elem).Represents
      { t with staged := l₁ ++ l₂, completed := t.completed ++ [p] } poolLen := by
  obtain ⟨hpool, hstaged, hcompleted⟩ := h.split_apart hsplit
  obtain ⟨hseg, hlast, hend, hnext, hholds, hsame⟩ := h.unlink hsplit
  unfold lowpanPacketForwardingStagingQueueMarkPacketAsCompleted
  generalize lowpanStagingQueueUnlinkStagedPacket queue (l₁.map StagedPacket.elem).getLast? p.elem =
    q at hseg hlast hend hnext hholds hsame ⊢
  have hnodup := h.nodup
  rw [StagingQueueLists.elems, List.map_append, List.nodup_append, List.nodup_append] at hnodup
  obtain ⟨-, ⟨-, hcompletednodup, hapart⟩, hpoolapart⟩ := hnodup
  have hnotstaged : ∀ k ∈ t.completed.map StagedPacket.elem, k ∉ t.staged.map StagedPacket.elem :=
    fun k hk hmem => hapart k hmem k hk rfl
  have hcompletedSeg : Seg q.next q.completedQueueFirst (t.completed.map StagedPacket.elem) none := by
    rw [hsame]
    exact h.completed.congr fun k hk => hnext k (hnotstaged k hk)
  have hcompletedLast : q.completedQueueLast = (t.completed.map StagedPacket.elem).getLast? := by
    rw [hsame]
    exact h.completedLast
  obtain ⟨elems, hlink, hlinked, hother, hkeep⟩ := linkLast_spec q p.elem hcompletedSeg
    hcompletedLast
  have hother' : ∀ k, k ∉ t.completed.map StagedPacket.elem → elems k = q.elems k := fun k hk =>
    hother k fun hlast => hk (List.mem_of_getLast? hlast)
  have hsub : ∀ k ∈ (l₁ ++ l₂).map StagedPacket.elem, k ∈ t.staged.map StagedPacket.elem := by
    intro k hk
    rw [hsplit]
    simp only [List.map_append, List.map_cons, List.mem_append, List.mem_cons] at hk ⊢
    tauto
  dsimp only
  rw [hlink]
  refine ⟨?_, ?_, ?_, hlast, ?_, ?_, ?_, ?_, ?_, ?_, h.poolLen_lt⟩
  · rw [show q.poolFirst = queue.poolFirst by rw [hsame]]
    refine h.pool.congr fun k hk => ?_
    have hk' : k ∉ t.completed.map StagedPacket.elem := fun hmem =>
      hpoolapart k hk k (List.mem_append_right _ hmem) rfl
    have hk'' : k ∉ t.staged.map StagedPacket.elem := fun hmem =>
      hpoolapart k hk k (List.mem_append_left _ hmem) rfl
    exact (congrArg LowpanIpv6PacketReadyForForwarding.next (hother' k hk')).trans (hnext k hk'')
  · refine hseg.congr fun k hk => ?_
    exact congrArg LowpanIpv6PacketReadyForForwarding.next
      (hother' k fun hmem => hnotstaged k hmem (hsub k hk))
  · rw [List.map_append]
    refine Seg.append hcompletedSeg hcompletednodup hlinked ?_ ?_
    · exact (congrArg LowpanIpv6PacketReadyForForwarding.next (hother' _ hcompleted)).trans hend
    · exact fun k _ hk => congrArg LowpanIpv6PacketReadyForForwarding.next (hother k hk)
  · rw [List.map_append, List.map_singleton, List.getLast?_concat]
  · rw [show q.numInPool = queue.numInPool by rw [hsame]]
    exact h.numInPool
  · rw [show q.numInQueue = queue.numInQueue by rw [hsame], h.numInQueue, hsplit]
    simp only [List.length_append, List.length_cons, List.length_nil]
    omega
  · intro b hb
    refine hkeep b (hholds b (h.holds b ?_))
    rw [hsplit]
    simp only [List.mem_append, List.mem_cons, List.not_mem_nil, or_false] at hb ⊢
    tauto
  · refine List.Perm.trans ?_ h.partition
    rw [List.perm_iff_count]
    intro x
    simp only [StagingQueueLists.elems, hsplit, List.map_append, List.map_cons, List.map_nil,
      List.count_append, List.count_cons, List.count_nil]
    omega
  · rw [show q.poolLen = queue.poolLen by rw [hsame]]
    exact h.poolLen_eq

/-- Completing the packet that the search finds. -/
theorem complete (h : queue.Represents t poolLen) (packet : ℕ) (status : UInt8) :
    (match lowpanPacketForwardingStagingQueueFindStagedPacket queue packet with
      | (_, none) => queue
      | (prev, some curr) =>
        lowpanPacketForwardingStagingQueueMarkPacketAsCompleted (queue.setStatus curr status) prev
          curr).Represents (t.complete packet status) poolLen := by
  cases hfind : t.staged.find? (·.packet == packet) with
  | none =>
    have hnone := h.find_none hfind
    generalize lowpanPacketForwardingStagingQueueFindStagedPacket queue packet = r at hnone
    obtain ⟨prev, curr⟩ := r
    obtain rfl : curr = none := hnone
    simpa only [StagingQueueLists.complete, hfind] using h
  | some p =>
    obtain ⟨l₁, l₂, hsplit, herase, hp, hl₁⟩ := exists_split_of_find? hfind
    obtain rfl : p.packet = packet := by simpa using hp
    rw [h.find_some hsplit hl₁]
    simp only [StagingQueueLists.complete, hfind, herase]
    exact (h.setStatus hsplit status).mark (p := { p with status := status }) rfl

theorem removeFirst_eq {e : ℕ} (he : queue.completedQueueFirst = some e) :
    lowpanPacketForwardingStagingQueueRemoveFirstCompletedPacket queue =
      { queue.setNext e queue.poolFirst with
        completedQueueFirst := queue.next e
        completedQueueLast := if queue.completedQueueLast = some e then none
          else queue.completedQueueLast
        poolFirst := some e
        numInPool := queue.numInPool + 1
        numInQueue := queue.numInQueue - 1 } := by
  unfold lowpanPacketForwardingStagingQueueRemoveFirstCompletedPacket
  rw [he]
  by_cases hlast : queue.completedQueueLast = some e
  · simp only [hlast, if_true]
    rfl
  · simp only [hlast, if_false]
    rfl

theorem removeFirst (h : queue.Represents t poolLen) :
    (lowpanPacketForwardingStagingQueueRemoveFirstCompletedPacket queue).Represents t.removeFirst
      poolLen := by
  cases hcompleted : t.completed with
  | nil =>
    have hfirst : queue.completedQueueFirst = none := by simpa [hcompleted] using h.completed
    simp only [lowpanPacketForwardingStagingQueueRemoveFirstCompletedPacket, hfirst,
      StagingQueueLists.removeFirst, hcompleted]
    exact h
  | cons p completed =>
    have hnodup := h.nodup
    have hlen := h.length_elems
    have hlt := h.poolLen_lt
    have hnumQueue := h.numInQueue
    have hseg := h.completed
    have hlast := h.completedLast
    rw [hcompleted, List.map_cons] at hseg hlast
    rw [hcompleted, List.length_cons] at hlen hnumQueue
    obtain ⟨hfirst, hbehind⟩ := hseg
    simp only [StagingQueueLists.elems, hcompleted, List.map_append, List.map_cons,
      List.nodup_append, List.nodup_cons, List.mem_append, List.mem_cons] at hnodup
    obtain ⟨-, ⟨-, ⟨hnot, -⟩, hstaged⟩, hpool⟩ := hnodup
    have hnotpool : p.elem ∉ t.pool := fun hmem => hpool _ hmem _ (Or.inr (Or.inl rfl)) rfl
    have hnotstaged : p.elem ∉ t.staged.map StagedPacket.elem := fun hmem =>
      hstaged _ hmem _ (Or.inl rfl) rfl
    rw [removeFirst_eq hfirst]
    simp only [StagingQueueLists.removeFirst, hcompleted]
    refine ⟨?_, ?_, ?_, h.stagedLast, ?_, ?_, ?_, ?_, ?_, h.poolLen_eq, hlt⟩
    · have hpush := h.pool.push hnotpool
      rwa [← next_setNext] at hpush
    · have hseg := h.staged.update_of_notMem hnotstaged queue.poolFirst
      rwa [← next_setNext] at hseg
    · have hseg := hbehind.update_of_notMem hnot queue.poolFirst
      rwa [← next_setNext] at hseg
    · rcases List.eq_nil_or_concat' completed with rfl | ⟨l, b, rfl⟩
      · exact if_pos hlast
      · have hb : (p.elem :: (l ++ [b]).map StagedPacket.elem).getLast? = some b.elem := by
          rw [List.map_append, ← List.cons_append]
          exact List.getLast?_concat
        have hne : b.elem ≠ p.elem := fun heq => hnot (by simp [← heq])
        rw [hlast, hb, if_neg fun heq => hne (Option.some.inj heq), List.map_append]
        exact List.getLast?_concat.symm
    · exact toNat_succ h.numInPool (by omega)
    · exact toNat_pred hnumQueue
    · intro b hb
      refine holds_setNext _ _ (h.holds b ?_)
      rw [hcompleted]
      exact List.mem_append.mpr ((List.mem_append.mp hb).imp_right (List.mem_cons_of_mem _))
    · refine List.Perm.trans ?_ h.partition
      rw [List.perm_iff_count]
      intro x
      simp only [StagingQueueLists.elems, hcompleted, List.map_append, List.map_cons,
        List.count_append, List.count_cons]
      omega

end Represents

/-! ## The initial queue -/

/-- The loop puts the elements from `ptr` on in front of a list of elements before `ptr`. -/
theorem seg_initLoop (left ptr : ℕ) (poolFirst : Option ℕ)
    (elems : ℕ → LowpanIpv6PacketReadyForForwarding) {l : List ℕ}
    (h : Seg (fun k => (elems k).next) poolFirst l none) (hl : ∀ k ∈ l, k < ptr) :
    let r := lowpanStagingQueueInitLoop left ptr poolFirst elems
    Seg (fun k => (r.2 k).next) r.1 ((List.range' ptr left).reverse ++ l) none := by
  induction left generalizing ptr poolFirst elems l with
  | zero => exact h
  | succ left ih =>
    rw [lowpanStagingQueueInitLoop, List.range'_succ, List.reverse_cons, List.append_assoc,
      List.singleton_append]
    refine ih (ptr + 1) _ _ ⟨rfl, ?_⟩ ?_
    · dsimp only
      rw [Function.update_self]
      refine h.congr fun k hk => ?_
      rw [Function.update_of_ne (by have := hl k hk; omega)]
    · intro k hk
      rcases List.mem_cons.mp hk with rfl | hk
      · exact Nat.lt_succ_self _
      · exact (hl k hk).trans (Nat.lt_succ_self _)

theorem init_represents (elems : ℕ → LowpanIpv6PacketReadyForForwarding) (queuePoolLen : UInt8) :
    (lowpanPacketForwardingStagingQueueInit elems queuePoolLen).Represents
      ⟨(List.range queuePoolLen.toNat).reverse, [], []⟩ queuePoolLen.toNat where
  pool := by
    have hseg := seg_initLoop queuePoolLen.toNat 0 none elems (l := []) rfl (by simp)
    rwa [List.append_nil, ← List.range_eq_range'] at hseg
  staged := rfl
  completed := rfl
  stagedLast := rfl
  completedLast := rfl
  numInPool := by simp [lowpanPacketForwardingStagingQueueInit]
  numInQueue := rfl
  holds := by simp
  partition := by
    rw [StagingQueueLists.elems, List.nil_append, List.map_nil, List.append_nil]
    exact List.reverse_perm _
  poolLen_eq := rfl
  poolLen_lt := queuePoolLen.toNat_lt

end LowpanIpv6PacketReadyForForwardingQueue

/-! ## Runs -/

/-- A call of the queue, as its users make them: only an element that the search found is marked,
and only an element that is there is removed. -/
inductive StagingQueueCall
  | enqueue (packet : ℕ) (llAddr : Ieee154Addr)
  | markCompleted (packet : ℕ) (status : UInt8)
  | removeFirstCompleted

/-- The queue with its history.  The requests are numbered in the order in which they were enqueued;
`ticket` says which of them an element holds. -/
structure StagingQueueHistory where
  queue : LowpanIpv6PacketReadyForForwardingQueue
  enqueued : List (ℕ × Ieee154Addr)
  ticket : ℕ → ℕ
  marked : List ℕ
  removed : List ℕ

namespace StagingQueueHistory

def step (s : StagingQueueHistory) : StagingQueueCall → StagingQueueHistory
  | .enqueue packet llAddr =>
    match lowpanPacketForwardingStagingQueueEnqueuePacket s.queue packet llAddr with
    | (none, _) => s
    | (some e, queue) =>
      { s with
        queue := queue
        enqueued := s.enqueued ++ [(packet, llAddr)]
        ticket := Function.update s.ticket e s.enqueued.length }
  | .markCompleted packet status =>
    match lowpanPacketForwardingStagingQueueFindStagedPacket s.queue packet with
    | (_, none) => s
    | (prev, some curr) =>
      { s with
        queue := lowpanPacketForwardingStagingQueueMarkPacketAsCompleted
          (s.queue.setStatus curr status) prev curr
        marked := s.marked ++ [s.ticket curr] }
  | .removeFirstCompleted =>
    match s.queue.completedQueueFirst with
    | none => s
    | some e =>
      { s with
        queue := lowpanPacketForwardingStagingQueueRemoveFirstCompletedPacket s.queue
        removed := s.removed ++ [s.ticket e] }

def start (elems : ℕ → LowpanIpv6PacketReadyForForwarding) (queuePoolLen : UInt8) :
    StagingQueueHistory :=
  ⟨lowpanPacketForwardingStagingQueueInit elems queuePoolLen, [], fun _ => 0, [], []⟩

def run (elems : ℕ → LowpanIpv6PacketReadyForForwarding) (queuePoolLen : UInt8)
    (calls : List StagingQueueCall) : StagingQueueHistory :=
  calls.foldl step (start elems queuePoolLen)

/-- The request that a packet came with. -/
def ticketOf (s : StagingQueueHistory) (p : StagedPacket) : ℕ := s.ticket p.elem

/-- The staged packets stand in the order in which they were enqueued, the completed ones in the
order in which they were marked behind those that were removed, and each request is at one place. -/
structure InOrder (s : StagingQueueHistory) (t : StagingQueueLists) : Prop where
  staged : (t.staged.map s.ticketOf).Pairwise (· < ·)
  completed : s.removed ++ t.completed.map s.ticketOf = s.marked
  each : (t.staged.map s.ticketOf ++ s.marked).Perm (List.range s.enqueued.length)
  request : ∀ p ∈ t.staged ++ t.completed, s.enqueued[s.ticketOf p]? = some (p.packet, p.addr)

variable {s : StagingQueueHistory} {t : StagingQueueLists} {poolLen : ℕ}

theorem step_enqueue (h : s.queue.Represents t poolLen) (ho : s.InOrder t) (packet : ℕ)
    (llAddr : Ieee154Addr) :
    let s' := s.step (.enqueue packet llAddr)
    let t' := (t.enqueue packet llAddr).2
    s'.queue.Represents t' poolLen ∧ s'.InOrder t' := by
  obtain ⟨hans, hrep⟩ := h.enqueue packet llAddr
  dsimp only [step]
  generalize lowpanPacketForwardingStagingQueueEnqueuePacket s.queue packet llAddr = r at hans hrep ⊢
  obtain ⟨e, queue⟩ := r
  dsimp only at hans hrep ⊢
  subst hans
  cases hpool : t.pool with
  | nil =>
    simp only [StagingQueueLists.enqueue, hpool]
    exact ⟨h, ho⟩
  | cons e pool =>
    have hnodup := h.nodup
    simp only [StagingQueueLists.elems, hpool, List.cons_append, List.nodup_cons, List.mem_append,
      not_or] at hnodup
    obtain ⟨⟨-, hnot⟩, -⟩ := hnodup
    simp only [StagingQueueLists.enqueue, hpool] at hrep ⊢
    refine ⟨hrep, ?_⟩
    let s' : StagingQueueHistory :=
      { s with
        queue := queue
        enqueued := s.enqueued ++ [(packet, llAddr)]
        ticket := Function.update s.ticket e s.enqueued.length }
    have hold : ∀ p ∈ t.staged ++ t.completed, s'.ticketOf p = s.ticketOf p := fun p hp =>
      Function.update_of_ne (fun heq => hnot (by rw [← heq]; exact List.mem_map_of_mem hp)) _ _
    have hnew : s'.ticketOf ⟨e, packet, 0, llAddr⟩ = s.enqueued.length := Function.update_self _ _ _
    have hstaged : t.staged.map s'.ticketOf = t.staged.map s.ticketOf :=
      List.map_congr_left fun p hp => hold p (List.mem_append_left _ hp)
    have hcompleted : t.completed.map s'.ticketOf = t.completed.map s.ticketOf :=
      List.map_congr_left fun p hp => hold p (List.mem_append_right _ hp)
    have hlt : ∀ n ∈ t.staged.map s.ticketOf, n < s.enqueued.length := fun n hn =>
      List.mem_range.mp (ho.each.subset (List.mem_append_left _ hn))
    change s'.InOrder _
    refine ⟨?_, ?_, ?_, ?_⟩
    · rw [List.map_append, List.map_singleton, hstaged, hnew]
      refine List.pairwise_append.mpr ⟨ho.staged, List.pairwise_singleton _ _, fun n hn m hm => ?_⟩
      rw [List.mem_singleton.mp hm]
      exact hlt n hn
    · rw [hcompleted]
      exact ho.completed
    · have heach := ho.each
      rw [List.map_append, List.map_singleton, hstaged, hnew, List.length_append,
        List.length_singleton, List.range_succ]
      rw [List.perm_iff_count] at heach ⊢
      intro x
      have hx := heach x
      simp only [s', List.count_append] at hx ⊢
      omega
    · intro p hp
      rw [List.append_assoc, List.mem_append, List.mem_append, List.mem_singleton] at hp
      have hkeep : p ∈ t.staged ++ t.completed →
          s'.enqueued[s'.ticketOf p]? = some (p.packet, p.addr) := by
        clear hp
        intro hp
        have hreq := ho.request p hp
        rw [hold p hp, List.getElem?_append_left (List.getElem?_eq_some_iff.mp hreq).1]
        exact hreq
      rcases hp with hp | rfl | hp
      · exact hkeep (List.mem_append_left _ hp)
      · rw [hnew]
        exact List.getElem?_concat_length
      · exact hkeep (List.mem_append_right _ hp)

theorem step_markCompleted (h : s.queue.Represents t poolLen) (ho : s.InOrder t) (packet : ℕ)
    (status : UInt8) :
    let s' := s.step (.markCompleted packet status)
    let t' := t.complete packet status
    s'.queue.Represents t' poolLen ∧ s'.InOrder t' := by
  have hrep := h.complete packet status
  dsimp only [step]
  cases hfind : t.staged.find? (·.packet == packet) with
  | none =>
    have hnone := h.find_none hfind
    generalize lowpanPacketForwardingStagingQueueFindStagedPacket s.queue packet = r at hnone
    obtain ⟨prev, curr⟩ := r
    obtain rfl : curr = none := hnone
    simp only [StagingQueueLists.complete, hfind]
    exact ⟨h, ho⟩
  | some p =>
    obtain ⟨l₁, l₂, hsplit, herase, hp, hl₁⟩ := exists_split_of_find? hfind
    obtain rfl : p.packet = packet := by simpa using hp
    rw [h.find_some hsplit hl₁] at hrep ⊢
    simp only [StagingQueueLists.complete, hfind, herase] at hrep ⊢
    refine ⟨hrep, ?_⟩
    have hstaged := ho.staged
    have heach := ho.each
    have hrequest := ho.request
    rw [hsplit] at hstaged heach hrequest
    have hticket : s.ticketOf { p with status := status } = s.ticketOf p := rfl
    have hsub : (l₁ ++ l₂).Sublist (l₁ ++ p :: l₂) := (List.sublist_cons_self p l₂).append_left l₁
    refine ⟨hstaged.sublist (hsub.map _), ?_, ?_, ?_⟩
    · have hcompleted := ho.completed
      rw [List.map_append, List.map_singleton, ← List.append_assoc]
      exact congrArg (· ++ [s.ticketOf p]) hcompleted
    · change ((l₁ ++ l₂).map s.ticketOf ++ (s.marked ++ [s.ticketOf p])).Perm _
      rw [List.perm_iff_count] at heach ⊢
      intro x
      have hx := heach x
      simp only [List.map_append, List.map_cons, List.count_append, List.count_cons,
        List.count_nil] at hx ⊢
      omega
    · intro q hq
      rw [← List.append_assoc, List.mem_append, List.mem_singleton] at hq
      rcases hq with hq | rfl
      · refine hrequest q ?_
        simp only [List.mem_append, List.mem_cons] at hq ⊢
        tauto
      · exact hrequest p (by simp)

theorem step_removeFirstCompleted (h : s.queue.Represents t poolLen) (ho : s.InOrder t) :
    let s' := s.step .removeFirstCompleted
    s'.queue.Represents t.removeFirst poolLen ∧ s'.InOrder t.removeFirst := by
  have hrep := h.removeFirst
  have hfirst := h.completed.eq_head?
  dsimp only [step]
  cases hcompleted : t.completed with
  | nil =>
    rw [hfirst, hcompleted]
    simp only [StagingQueueLists.removeFirst, hcompleted]
    exact ⟨h, ho⟩
  | cons p completed =>
    have horder := ho.completed
    have hrequest := ho.request
    rw [hcompleted] at horder hrequest
    rw [hfirst, hcompleted, List.map_cons, List.head?_cons]
    refine ⟨hrep, ?_⟩
    simp only [StagingQueueLists.removeFirst, hcompleted]
    refine ⟨ho.staged, ?_, ho.each, fun q hq => hrequest q ?_⟩
    · change s.removed ++ [s.ticketOf p] ++ completed.map s.ticketOf = s.marked
      rw [List.append_assoc]
      exact horder
    · exact List.mem_append.mpr ((List.mem_append.mp hq).imp_right (List.mem_cons_of_mem _))

/-- One call keeps the three lists and their order. -/
theorem step_inOrder (h : s.queue.Represents t poolLen) (ho : s.InOrder t)
    (call : StagingQueueCall) :
    ∃ t', (s.step call).queue.Represents t' poolLen ∧ (s.step call).InOrder t' := by
  cases call with
  | enqueue packet llAddr => exact ⟨_, step_enqueue h ho packet llAddr⟩
  | markCompleted packet status => exact ⟨_, step_markCompleted h ho packet status⟩
  | removeFirstCompleted => exact ⟨_, step_removeFirstCompleted h ho⟩

end StagingQueueHistory

/-- After any sequence of calls each element is on exactly one of the three lists, the counters and
the last elements are true, the staged packets stand in the order in which they were enqueued, and
the completed ones were removed in the order in which they were marked. -/
theorem lowpanPacketForwardingStagingQueue_invariant
    (elems : ℕ → LowpanIpv6PacketReadyForForwarding) (queuePoolLen : UInt8)
    (calls : List StagingQueueCall) :
    let s := StagingQueueHistory.run elems queuePoolLen calls
    ∃ t : StagingQueueLists, s.queue.Represents t queuePoolLen.toNat ∧ s.InOrder t := by
  induction calls using List.reverseRecOn with
  | nil =>
    exact ⟨_, LowpanIpv6PacketReadyForForwardingQueue.init_represents elems queuePoolLen,
      List.Pairwise.nil, rfl, List.Perm.refl _, by simp⟩
  | append_singleton calls call ih =>
    obtain ⟨t, hrep, horder⟩ := ih
    simp only [StagingQueueHistory.run, List.foldl_append, List.foldl_cons, List.foldl_nil]
    exact StagingQueueHistory.step_inOrder hrep horder call

end Whip6
