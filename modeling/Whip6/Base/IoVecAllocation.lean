import Whip6.Lib.LinkedList

/-!
# Allocating chains of chunks

The allocators lie outside of the code.  They are functions of all that was asked of them before,
so that they may refuse any call and choose any chunk; what they promise is in `Obey`.  The chunks
and the packets are in memory, and the log keeps every call.  What a freed chunk or packet leaves in
its memory is also up to the allocators.
-/

namespace Whip6

open Lib

/-- A chunk of an I/O vector: the length of its buffer, and its links. -/
structure IovChunk where
  len : ℕ
  next : Option ℕ
  prev : Option ℕ
  deriving DecidableEq

/-- The part of a packet that points to its payload. -/
structure PacketIovs where
  firstPayloadIov : Option ℕ
  lastPayloadIov : Option ℕ
  deriving DecidableEq

/-- A call of an allocator. -/
inductive AllocEvent
  | allocated (chunk : ℕ)
  | refused
  | freed (chunk : ℕ)
  | allocatedPacket (packet : ℕ)
  | refusedPacket
  | freedPacket (packet : ℕ)
  deriving DecidableEq

/-- The allocators: a new chunk for a size and a new packet with what is in their memory, and what
is in the memory of a freed one. -/
structure Allocators where
  newChunk : List AllocEvent → ℕ → Option (ℕ × IovChunk)
  oldChunk : List AllocEvent → ℕ → IovChunk
  newPacket : List AllocEvent → Option (ℕ × PacketIovs)
  oldPacket : List AllocEvent → ℕ → PacketIovs

structure AllocHeap where
  chunk : ℕ → IovChunk
  packet : ℕ → PacketIovs
  log : List AllocEvent

/-- The chunks in use after these calls. -/
def liveChunks (log : List AllocEvent) : List ℕ :=
  log.foldl (fun live event =>
    match event with
    | .allocated p => p :: live
    | .freed p => live.erase p
    | _ => live) []

/-- A chunk is as long as documented, and not in use. -/
structure Allocators.Obey (allocators : Allocators) : Prop where
  len : ∀ log size p chunk, 0 < size → allocators.newChunk log size = some (p, chunk) →
    1 ≤ chunk.len ∧ chunk.len ≤ size
  fresh : ∀ log size p chunk, 0 < size → allocators.newChunk log size = some (p, chunk) →
    p ∉ liveChunks log

namespace AllocHeap

variable (allocators : Allocators)

/-! ## The calls -/

def setNext (heap : AllocHeap) (p : ℕ) (next : Option ℕ) : AllocHeap :=
  { heap with chunk := Function.update heap.chunk p { heap.chunk p with next := next } }

def setPrev (heap : AllocHeap) (p : ℕ) (prev : Option ℕ) : AllocHeap :=
  { heap with chunk := Function.update heap.chunk p { heap.chunk p with prev := prev } }

def baseAllocNewIoVecChunk (heap : AllocHeap) (size : ℕ) : Option ℕ × AllocHeap :=
  match allocators.newChunk heap.log size with
  | none => (none, { heap with log := heap.log ++ [.refused] })
  | some (p, chunk) =>
    (some p, { heap with
      chunk := Function.update heap.chunk p chunk
      log := heap.log ++ [.allocated p] })

def baseFreeExistingIoVecChunk (heap : AllocHeap) (p : ℕ) : AllocHeap :=
  { heap with
    chunk := Function.update heap.chunk p (allocators.oldChunk heap.log p)
    log := heap.log ++ [.freed p] }

def ipv6AllocNewIPv6Packet (heap : AllocHeap) : Option ℕ × AllocHeap :=
  match allocators.newPacket heap.log with
  | none => (none, { heap with log := heap.log ++ [.refusedPacket] })
  | some (p, packet) =>
    (some p, { heap with
      packet := Function.update heap.packet p packet
      log := heap.log ++ [.allocatedPacket p] })

def ipv6FreeExistingIPv6Packet (heap : AllocHeap) (p : ℕ) : AllocHeap :=
  { heap with
    packet := Function.update heap.packet p (allocators.oldPacket heap.log p)
    log := heap.log ++ [.freedPacket p] }

/-! ## Chains -/

/-- `none` is a loop that has not ended with its fuel. -/
def iovFreeChain : ℕ → AllocHeap → Option ℕ → Option AllocHeap
  | _, heap, none => some heap
  | 0, _, some _ => none
  | fuel + 1, heap, some currElem =>
    let nextElemOrNull := (heap.chunk currElem).next
    iovFreeChain fuel (baseFreeExistingIoVecChunk allocators heap currElem) nextElemOrNull

/-- The loop that allocates `length` bytes behind `lastElem`: whether all were allocated, the
memory, and the first and the last element. -/
def iovAllocateLoop : ℕ → AllocHeap → ℕ → Option ℕ → Option ℕ →
    Option (Bool × AllocHeap × Option ℕ × Option ℕ)
  | _, heap, 0, firstElem, lastElem => some (true, heap, firstElem, lastElem)
  | 0, _, _ + 1, _, _ => none
  | fuel + 1, heap, length + 1, firstElem, lastElem =>
    match baseAllocNewIoVecChunk allocators heap (length + 1) with
    | (none, heap) => some (false, heap, firstElem, lastElem)
    | (some tmpElem, heap) =>
      match lastElem with
      | none =>
        let heap := heap.setPrev tmpElem none
        iovAllocateLoop fuel heap (length + 1 - (heap.chunk tmpElem).len) (some tmpElem)
          (some tmpElem)
      | some lastElem =>
        let heap := (heap.setNext lastElem (some tmpElem)).setPrev tmpElem (some lastElem)
        iovAllocateLoop fuel heap (length + 1 - (heap.chunk tmpElem).len) firstElem (some tmpElem)

/-- `lastElem->next = NULL`, unless there is no last element. -/
def endChain (heap : AllocHeap) : Option ℕ → AllocHeap
  | none => heap
  | some lastElem => heap.setNext lastElem none

/-- The result, the buffer for the last element (`none` where the pointer to it is `NULL`), and
the memory. -/
structure ChainResult where
  firstElem : Option ℕ
  lastElemBuffer : Option (Option ℕ)
  heap : AllocHeap

def iovAllocateChain (fuel : ℕ) (heap : AllocHeap) (length : ℕ)
    (lastElemPtrOrNull : Option (Option ℕ)) : Option ChainResult :=
  match iovAllocateLoop allocators fuel heap length none none with
  | none => none
  | some (true, heap, firstElem, lastElem) =>
    some ⟨firstElem, lastElemPtrOrNull.map fun _ => lastElem, heap.endChain lastElem⟩
  | some (false, heap, firstElem, lastElem) =>
    match lastElem with
    | none => some ⟨none, lastElemPtrOrNull, heap⟩
    | some lastElem =>
      (iovFreeChain allocators fuel (heap.setNext lastElem none) firstElem).map
        fun heap => ⟨none, lastElemPtrOrNull, heap⟩

/-! ## Packets -/

def setPacket (heap : AllocHeap) (p : ℕ) (packet : PacketIovs) : AllocHeap :=
  { heap with packet := Function.update heap.packet p packet }

def ipv6AllocatePacket (fuel : ℕ) (heap : AllocHeap) (payloadLength : UInt16) :
    Option (Option ℕ × AllocHeap) :=
  match ipv6AllocNewIPv6Packet allocators heap with
  | (none, heap) => some (none, heap)
  | (some packet, heap) =>
    if payloadLength = 0 then some (some packet, heap.setPacket packet ⟨none, none⟩)
    else
      (iovAllocateChain allocators fuel heap payloadLength.toNat
        (some (heap.packet packet).lastPayloadIov)).map fun r =>
        let heap := r.heap.setPacket packet
          ⟨r.firstElem, r.lastElemBuffer.getD (heap.packet packet).lastPayloadIov⟩
        match r.firstElem with
        | none => (none, ipv6FreeExistingIPv6Packet allocators heap packet)
        | some _ => (some packet, heap)

/-! ## Freeing a chain -/

/-- The chunk behind a chunk. -/
def nextOf (heap : AllocHeap) (p : ℕ) : Option ℕ := (heap.chunk p).next

/-- The chunk before a chunk. -/
def prevOf (heap : AllocHeap) (p : ℕ) : Option ℕ := (heap.chunk p).prev

/-- The memory but for these chunks is as it was. -/
structure Frame (heap heap' : AllocHeap) (chunks : List ℕ) : Prop where
  chunk : ∀ p, p ∉ chunks → heap'.chunk p = heap.chunk p
  packet : heap'.packet = heap.packet

/-- Every chunk of a chain is freed once. -/
theorem iovFreeChain_spec (fuel : ℕ) (heap : AllocHeap) {currElem : Option ℕ} {chunks : List ℕ}
    (hseg : Seg heap.nextOf currElem chunks none) (hnodup : chunks.Nodup)
    (hfuel : chunks.length ≤ fuel) :
    ∃ heap', iovFreeChain allocators fuel heap currElem = some heap' ∧
      heap'.log = heap.log ++ chunks.map .freed ∧ heap.Frame heap' chunks := by
  induction chunks generalizing fuel heap currElem with
  | nil =>
    obtain rfl : currElem = none := hseg
    refine ⟨heap, ?_, by simp, ⟨fun p _ => rfl, rfl⟩⟩
    cases fuel <;> rfl
  | cons p chunks ih =>
    obtain ⟨rfl, hrest⟩ := hseg
    obtain ⟨hp, hnodup⟩ := List.nodup_cons.mp hnodup
    cases fuel with
    | zero => simp at hfuel
    | succ fuel =>
      have hseg' : Seg (baseFreeExistingIoVecChunk allocators heap p).nextOf (heap.nextOf p) chunks
          none := by
        refine hrest.congr fun i hi => ?_
        show (Function.update heap.chunk p _ i).next = (heap.chunk i).next
        rw [Function.update_of_ne (ne_of_mem_of_not_mem hi hp)]
      obtain ⟨heap', hfree, hlog, hframe⟩ := ih fuel _ hseg' hnodup (by simpa using hfuel)
      refine ⟨heap', hfree, ?_, ⟨fun q hq => ?_, hframe.packet⟩⟩
      · rw [hlog]
        simp [baseFreeExistingIoVecChunk]
      · rw [hframe.chunk q fun hin => hq (List.mem_cons_of_mem _ hin)]
        exact Function.update_of_ne (List.ne_of_not_mem_cons hq) _ _

/-! ## The chain under construction -/

theorem liveChunks_append_allocated (log : List AllocEvent) (chunks : List ℕ) :
    liveChunks (log ++ chunks.map .allocated) = chunks.reverse ++ liveChunks log := by
  induction chunks using List.reverseRecOn with
  | nil => simp
  | append_singleton chunks p ih =>
    have hlast : liveChunks (log ++ (chunks ++ [p]).map .allocated) =
        p :: liveChunks (log ++ chunks.map .allocated) := by
      rw [List.map_append, ← List.append_assoc, liveChunks, List.foldl_append]
      rfl
    rw [hlast, ih, List.reverse_append]
    rfl

/-- The chunks so far, the last one first. -/
structure Building (start heap : AllocHeap) (length left : ℕ) (firstElem lastElem : Option ℕ)
    (chunks : List ℕ) : Prop where
  nodup : chunks.Nodup
  fresh : ∀ p ∈ chunks, p ∉ liveChunks start.log
  log : heap.log = start.log ++ chunks.reverse.map .allocated
  frame : start.Frame heap chunks
  total : (chunks.map fun p => (heap.chunk p).len).sum + left = length
  pos : ∀ p ∈ chunks, 1 ≤ (heap.chunk p).len
  prevs : Seg heap.prevOf lastElem chunks none
  nexts : Seg heap.nextOf firstElem chunks.tail.reverse lastElem

variable {allocators : Allocators} {start heap : AllocHeap} {length left : ℕ}
  {firstElem lastElem : Option ℕ} {chunks : List ℕ}

theorem building_start (start : AllocHeap) (length : ℕ) :
    Building start start length length none none [] where
  nodup := List.nodup_nil
  fresh := by simp
  log := by simp
  frame := ⟨fun _ _ => rfl, rfl⟩
  total := by simp
  pos := by simp
  prevs := rfl
  nexts := rfl

theorem Building.length_le (h : Building start heap length left firstElem lastElem chunks) :
    chunks.length + left ≤ length := by
  have hsum : chunks.length ≤ (chunks.map fun p => (heap.chunk p).len).sum := by
    have hpos : ∀ n ∈ chunks.map fun p => (heap.chunk p).len, 1 ≤ n := by
      simpa using h.pos
    have := List.length_le_sum_of_one_le _ hpos
    rwa [List.length_map] at this
  have := h.total
  omega

theorem Building.lastElem_eq (h : Building start heap length left firstElem lastElem chunks) :
    lastElem = chunks.head? :=
  h.prevs.eq_head?

/-- The chain with a new chunk at its end. -/
def extend (heap : AllocHeap) (lastElem : Option ℕ) (tmpElem : ℕ) : AllocHeap :=
  match lastElem with
  | none => heap.setPrev tmpElem none
  | some lastElem => (heap.setNext lastElem (some tmpElem)).setPrev tmpElem (some lastElem)

theorem chunk_extend_new (heap : AllocHeap) {lastElem : Option ℕ} {tmpElem : ℕ}
    (h : ∀ p ∈ lastElem, p ≠ tmpElem) :
    (heap.extend lastElem tmpElem).chunk tmpElem =
      { heap.chunk tmpElem with prev := lastElem } := by
  cases lastElem with
  | none => simp [extend, setPrev]
  | some lastElem =>
    have hne : tmpElem ≠ lastElem := (h lastElem rfl).symm
    simp [extend, setPrev, setNext, Function.update_of_ne hne]

theorem chunk_extend_last (heap : AllocHeap) {lastElem tmpElem : ℕ} (h : lastElem ≠ tmpElem) :
    (heap.extend (some lastElem) tmpElem).chunk lastElem =
      { heap.chunk lastElem with next := some tmpElem } := by
  simp [extend, setPrev, setNext, Function.update_of_ne h]

theorem chunk_extend_other (heap : AllocHeap) {lastElem : Option ℕ} {tmpElem p : ℕ}
    (h : p ≠ tmpElem) (hlast : p ∉ lastElem) :
    (heap.extend lastElem tmpElem).chunk p = heap.chunk p := by
  cases lastElem with
  | none => simp [extend, setPrev, Function.update_of_ne h]
  | some lastElem =>
    have hne : p ≠ lastElem := fun he => hlast (by rw [he]; rfl)
    simp [extend, setPrev, setNext, Function.update_of_ne h, Function.update_of_ne hne]

/-- The chunk as the allocator gave it, before it is linked. -/
def withNew (heap : AllocHeap) (tmpElem : ℕ) (chunk : IovChunk) : AllocHeap :=
  { heap with
    chunk := Function.update heap.chunk tmpElem chunk
    log := heap.log ++ [.allocated tmpElem] }

/-- A chunk that is not in use is linked to the end of the chain. -/
theorem Building.extend (h : Building start heap length left firstElem lastElem chunks)
    {tmpElem : ℕ} {chunk : IovChunk} (hpos : 1 ≤ chunk.len) (hle : chunk.len ≤ left)
    (hfresh : tmpElem ∉ liveChunks heap.log) :
    Building start ((heap.withNew tmpElem chunk).extend lastElem tmpElem) length
      (left - chunk.len) (if lastElem = none then some tmpElem else firstElem) (some tmpElem)
      (tmpElem :: chunks) := by
  rw [h.log, liveChunks_append_allocated, List.reverse_reverse, List.mem_append, not_or] at hfresh
  obtain ⟨hnew, hunused⟩ := hfresh
  have hlast : ∀ p ∈ lastElem, p ≠ tmpElem := by
    intro p hp
    rw [h.lastElem_eq] at hp
    exact ne_of_mem_of_not_mem (List.mem_of_mem_head? hp) hnew
  have hchunk : ((heap.withNew tmpElem chunk).extend lastElem tmpElem).chunk tmpElem =
      { chunk with prev := lastElem } := by
    rw [chunk_extend_new _ hlast]
    simp [withNew]
  have hother : ∀ p, p ≠ tmpElem → p ∉ lastElem →
      ((heap.withNew tmpElem chunk).extend lastElem tmpElem).chunk p = heap.chunk p := by
    intro p hp hnot
    rw [chunk_extend_other _ hp hnot]
    exact Function.update_of_ne hp _ _
  have hlink : ∀ p ∈ lastElem, ((heap.withNew tmpElem chunk).extend lastElem tmpElem).chunk p =
      { heap.chunk p with next := some tmpElem } := by
    intro p hp
    obtain rfl : lastElem = some p := hp
    rw [chunk_extend_last _ (hlast p rfl)]
    simp [withNew, Function.update_of_ne (hlast p rfl)]
  have hlen : ∀ p ∈ chunks, (((heap.withNew tmpElem chunk).extend lastElem tmpElem).chunk p).len =
      (heap.chunk p).len := by
    intro p hp
    by_cases hin : p ∈ lastElem
    · rw [hlink p hin]
    · rw [hother p (ne_of_mem_of_not_mem hp hnew) hin]
  have hprev : ∀ p ∈ chunks, ((heap.withNew tmpElem chunk).extend lastElem tmpElem).prevOf p =
      heap.prevOf p := by
    intro p hp
    unfold prevOf
    by_cases hin : p ∈ lastElem
    · rw [hlink p hin]
    · rw [hother p (ne_of_mem_of_not_mem hp hnew) hin]
  generalize hheap : (heap.withNew tmpElem chunk).extend lastElem tmpElem = heap' at *
  refine ⟨List.nodup_cons.mpr ⟨hnew, h.nodup⟩, ?_, ?_, ⟨?_, ?_⟩, ?_, ?_, ⟨rfl, ?_⟩, ?_⟩
  · intro p hp
    rcases List.mem_cons.mp hp with rfl | hp
    · exact hunused
    · exact h.fresh p hp
  · rw [← hheap]
    cases lastElem <;>
      simp [AllocHeap.extend, setPrev, setNext, withNew, h.log]
  · intro p hp
    have hne := List.ne_of_not_mem_cons hp
    have hnot := List.not_mem_of_not_mem_cons hp
    rw [hother p hne fun hin => hnot ?_, h.frame.chunk p hnot]
    rw [h.lastElem_eq] at hin
    exact List.mem_of_mem_head? hin
  · rw [← hheap, ← h.frame.packet]
    cases lastElem <;> rfl
  · rw [List.map_cons, List.sum_cons, hchunk, List.map_congr_left hlen, ← h.total]
    simp only
    omega
  · intro p hp
    rcases List.mem_cons.mp hp with rfl | hp
    · rw [hchunk]
      exact hpos
    · rw [hlen p hp]
      exact h.pos p hp
  · rw [prevOf, hchunk]
    exact h.prevs.congr hprev
  · have hlastElem := h.lastElem_eq
    rw [List.tail_cons]
    cases chunks with
    | nil =>
      obtain rfl : lastElem = none := hlastElem
      rfl
    | cons l rest =>
      obtain rfl : lastElem = some l := hlastElem
      rw [if_neg (by simp), List.reverse_cons, seg_concat]
      obtain ⟨hl, -⟩ := List.nodup_cons.mp h.nodup
      refine ⟨h.nexts.congr fun p hp => ?_, ?_⟩
      · have hin : p ∈ rest := List.mem_reverse.mp hp
        have hne : p ≠ l := ne_of_mem_of_not_mem hin hl
        show (heap'.chunk p).next = (heap.chunk p).next
        rw [hother p (ne_of_mem_of_not_mem (List.mem_cons_of_mem l hin) hnew)
          fun he => hne (Option.some.inj he).symm]
      · show (heap'.chunk l).next = some tmpElem
        rw [hlink l rfl]

/-- The loop after a chunk was allocated. -/
theorem iovAllocateLoop_some {fuel : ℕ} {tmpElem : ℕ} {chunk : IovChunk}
    (hlast : ∀ p ∈ lastElem, p ≠ tmpElem)
    (hnew : allocators.newChunk heap.log (left + 1) = some (tmpElem, chunk)) :
    iovAllocateLoop allocators (fuel + 1) heap (left + 1) firstElem lastElem =
      iovAllocateLoop allocators fuel ((heap.withNew tmpElem chunk).extend lastElem tmpElem)
        (left + 1 - chunk.len) (if lastElem = none then some tmpElem else firstElem)
        (some tmpElem) := by
  have hlen : (((heap.withNew tmpElem chunk).extend lastElem tmpElem).chunk tmpElem).len =
      chunk.len := by
    rw [chunk_extend_new _ hlast]
    simp [withNew]
  rw [iovAllocateLoop, baseAllocNewIoVecChunk, hnew, ← hlen]
  cases lastElem <;> rfl

/-- The heap after a call that was refused. -/
def refuse (heap : AllocHeap) : AllocHeap := { heap with log := heap.log ++ [.refused] }

/-- What the loop leaves: all bytes are allocated, or a call was refused. -/
theorem iovAllocateLoop_spec (hobey : allocators.Obey) (fuel : ℕ)
    (h : Building start heap length left firstElem lastElem chunks) (hfuel : left ≤ fuel) :
    ∃ done heap' firstElem' lastElem',
      iovAllocateLoop allocators fuel heap left firstElem lastElem =
        some (done, heap', firstElem', lastElem') ∧
      (done = true ∧ (∃ chunks', Building start heap' length 0 firstElem' lastElem' chunks') ∨
        done = false ∧ ∃ built left' chunks', 0 < left' ∧ heap' = built.refuse ∧
          Building start built length left' firstElem' lastElem' chunks') := by
  induction fuel generalizing heap left firstElem lastElem chunks with
  | zero =>
    obtain rfl : left = 0 := Nat.le_zero.mp hfuel
    exact ⟨true, heap, firstElem, lastElem, rfl, .inl ⟨rfl, chunks, h⟩⟩
  | succ fuel ih =>
    cases left with
    | zero => exact ⟨true, heap, firstElem, lastElem, rfl, .inl ⟨rfl, chunks, h⟩⟩
    | succ left =>
      cases hnew : allocators.newChunk heap.log (left + 1) with
      | none =>
        refine ⟨false, heap.refuse, firstElem, lastElem, ?_,
          .inr ⟨rfl, heap, left + 1, chunks, Nat.succ_pos left, rfl, h⟩⟩
        rw [iovAllocateLoop, baseAllocNewIoVecChunk, hnew]
        rfl
      | some answer =>
        obtain ⟨tmpElem, chunk⟩ := answer
        obtain ⟨hpos, hle⟩ := hobey.len _ _ _ _ (Nat.succ_pos left) hnew
        have hfresh := hobey.fresh _ _ _ _ (Nat.succ_pos left) hnew
        have hlast : ∀ p ∈ lastElem, p ≠ tmpElem := by
          intro p hp
          rintro rfl
          apply hfresh
          rw [h.log, liveChunks_append_allocated, List.reverse_reverse, List.mem_append]
          rw [h.lastElem_eq] at hp
          exact .inl (List.mem_of_mem_head? hp)
        rw [iovAllocateLoop_some hlast hnew]
        exact ih (h.extend hpos hle hfresh) (by omega)

/-! ## All or nothing -/

/-- A chain of chunks with consistent links: the ones behind and the ones before lead through the
same chunks. -/
structure IsChain (heap : AllocHeap) (firstElem lastElem : Option ℕ) (chunks : List ℕ) : Prop where
  nexts : Seg heap.nextOf firstElem chunks none
  prevs : Seg heap.prevOf lastElem chunks.reverse none

/-- All bytes are allocated, in chunks that were not in use. -/
structure Allocated (start : AllocHeap) (length : ℕ) (lastElemPtrOrNull : Option (Option ℕ))
    (r : ChainResult) (chunks : List ℕ) : Prop where
  nodup : chunks.Nodup
  fresh : ∀ p ∈ chunks, p ∉ liveChunks start.log
  log : r.heap.log = start.log ++ chunks.map .allocated
  frame : start.Frame r.heap chunks
  total : (chunks.map fun p => (r.heap.chunk p).len).sum = length
  chain : r.heap.IsChain r.firstElem chunks.getLast? chunks
  buffer : r.lastElemBuffer = lastElemPtrOrNull.map fun _ => chunks.getLast?

/-- `NULL`, and the chunks that were allocated are freed, each once. -/
structure RolledBack (start : AllocHeap) (lastElemPtrOrNull : Option (Option ℕ))
    (r : ChainResult) (chunks : List ℕ) : Prop where
  nodup : chunks.Nodup
  fresh : ∀ p ∈ chunks, p ∉ liveChunks start.log
  log : r.heap.log =
    start.log ++ chunks.map .allocated ++ [.refused] ++ chunks.map .freed
  frame : start.Frame r.heap chunks
  firstElem : r.firstElem = none
  buffer : r.lastElemBuffer = lastElemPtrOrNull

theorem endChain_log (heap : AllocHeap) (lastElem : Option ℕ) :
    (heap.endChain lastElem).log = heap.log := by
  cases lastElem <;> rfl

theorem endChain_packet (heap : AllocHeap) (lastElem : Option ℕ) :
    (heap.endChain lastElem).packet = heap.packet := by
  cases lastElem <;> rfl

theorem chunk_endChain_other (heap : AllocHeap) {lastElem : Option ℕ} {p : ℕ} (h : p ∉ lastElem) :
    (heap.endChain lastElem).chunk p = heap.chunk p := by
  cases lastElem with
  | none => rfl
  | some l => exact Function.update_of_ne (fun he => h (by rw [he]; rfl)) _ _

theorem chunk_endChain_last (heap : AllocHeap) (l : ℕ) :
    (heap.endChain (some l)).chunk l = { heap.chunk l with next := none } :=
  Function.update_self _ _ _

/-- The end of a chain does not touch the lengths and the links to the chunk before. -/
theorem len_endChain (heap : AllocHeap) (lastElem : Option ℕ) (p : ℕ) :
    ((heap.endChain lastElem).chunk p).len = (heap.chunk p).len ∧
      (heap.endChain lastElem).prevOf p = heap.prevOf p := by
  unfold prevOf
  by_cases hp : p ∈ lastElem
  · obtain rfl : lastElem = some p := hp
    rw [chunk_endChain_last]
    exact ⟨rfl, rfl⟩
  · rw [chunk_endChain_other heap hp]
    exact ⟨rfl, rfl⟩

/-- The chain is closed at its end. -/
theorem Building.isChain (h : Building start heap length left firstElem lastElem chunks) :
    (heap.endChain lastElem).IsChain firstElem chunks.reverse.getLast? chunks.reverse := by
  have hlastElem := h.lastElem_eq
  refine ⟨?_, ?_⟩
  · cases chunks with
    | nil =>
      obtain rfl : lastElem = none := hlastElem
      exact h.nexts
    | cons l rest =>
      obtain rfl : lastElem = some l := hlastElem
      obtain ⟨hl, -⟩ := List.nodup_cons.mp h.nodup
      rw [List.reverse_cons, seg_concat]
      refine ⟨h.nexts.congr fun p hp => ?_, ?_⟩
      · have hne : p ≠ l := ne_of_mem_of_not_mem (List.mem_reverse.mp hp) hl
        show ((heap.endChain (some l)).chunk p).next = (heap.chunk p).next
        rw [chunk_endChain_other heap fun he => hne (Option.some.inj he).symm]
      · show ((heap.endChain (some l)).chunk l).next = none
        rw [chunk_endChain_last]
  · rw [List.getLast?_reverse, List.reverse_reverse, ← hlastElem]
    exact h.prevs.congr fun p _ => (len_endChain heap lastElem p).2

theorem Building.allocated (h : Building start heap length 0 firstElem lastElem chunks)
    (lastElemPtrOrNull : Option (Option ℕ)) :
    Allocated start length lastElemPtrOrNull
      ⟨firstElem, lastElemPtrOrNull.map fun _ => lastElem, heap.endChain lastElem⟩
      chunks.reverse where
  nodup := List.nodup_reverse.mpr h.nodup
  fresh p hp := h.fresh p (List.mem_reverse.mp hp)
  log := by
    rw [endChain_log, h.log]
  frame := by
    refine ⟨fun p hp => ?_, ?_⟩
    · have hnot : p ∉ chunks := fun hin => hp (List.mem_reverse.mpr hin)
      rw [chunk_endChain_other heap fun hin => hnot ?_, h.frame.chunk p hnot]
      rw [h.lastElem_eq] at hin
      exact List.mem_of_mem_head? hin
    · rw [endChain_packet, h.frame.packet]
  total := by
    rw [List.map_reverse, List.sum_reverse, ← h.total, Nat.add_zero]
    exact congrArg List.sum (List.map_congr_left fun p _ => (len_endChain heap lastElem p).1)
  chain := h.isChain
  buffer := by
    rw [List.getLast?_reverse, ← h.lastElem_eq]

theorem Building.rolledBack (allocators : Allocators)
    (h : Building start heap length left firstElem lastElem chunks)
    (lastElemPtrOrNull : Option (Option ℕ)) {fuel : ℕ} (hfuel : length ≤ fuel) :
    ∃ heap', iovFreeChain allocators fuel (heap.refuse.endChain lastElem) firstElem = some heap' ∧
      RolledBack start lastElemPtrOrNull ⟨none, lastElemPtrOrNull, heap'⟩ chunks.reverse := by
  have hlen : chunks.reverse.length ≤ fuel := by
    rw [List.length_reverse]
    have := h.length_le
    omega
  have hrefuse : (heap.refuse.endChain lastElem).nextOf = (heap.endChain lastElem).nextOf := by
    cases lastElem <;> rfl
  have hseg := h.isChain.nexts
  rw [← hrefuse] at hseg
  obtain ⟨heap', hfree, hlog, hframe⟩ := iovFreeChain_spec allocators fuel
    (heap.refuse.endChain lastElem) hseg (List.nodup_reverse.mpr h.nodup) hlen
  refine ⟨heap', hfree, List.nodup_reverse.mpr h.nodup,
    fun p hp => h.fresh p (List.mem_reverse.mp hp), ?_, ⟨fun p hp => ?_, ?_⟩, rfl, rfl⟩
  · rw [hlog, endChain_log, refuse, h.log]
  · have hnot : p ∉ chunks := fun hin => hp (List.mem_reverse.mpr hin)
    rw [hframe.chunk p hp, chunk_endChain_other _ fun hin => hnot ?_, ← h.frame.chunk p hnot]
    · rfl
    · rw [h.lastElem_eq] at hin
      exact List.mem_of_mem_head? hin
  · rw [hframe.packet, endChain_packet, ← h.frame.packet]
    rfl

theorem iovAllocateChain_all_or_nothing (hobey : allocators.Obey) (start : AllocHeap) (length : ℕ)
    (lastElemPtrOrNull : Option (Option ℕ)) {fuel : ℕ} (hfuel : length ≤ fuel) :
    ∃ r, iovAllocateChain allocators fuel start length lastElemPtrOrNull = some r ∧
      ((∃ chunks, Allocated start length lastElemPtrOrNull r chunks) ∨
        0 < length ∧ ∃ chunks, RolledBack start lastElemPtrOrNull r chunks) := by
  obtain ⟨done, heap, firstElem, lastElem, hloop, houtcome⟩ :=
    iovAllocateLoop_spec hobey fuel (building_start start length) hfuel
  rw [iovAllocateChain, hloop]
  rcases houtcome with ⟨rfl, chunks, hbuilt⟩ | ⟨rfl, built, left, chunks, hleft, rfl, hbuilt⟩
  · exact ⟨_, rfl, .inl ⟨chunks.reverse, hbuilt.allocated lastElemPtrOrNull⟩⟩
  · have hpos : 0 < length := by
      have := hbuilt.total
      omega
    obtain ⟨heap', hfree, hrolled⟩ :=
      hbuilt.rolledBack allocators lastElemPtrOrNull hfuel
    refine ⟨⟨none, lastElemPtrOrNull, heap'⟩, ?_, .inr ⟨hpos, chunks.reverse, hrolled⟩⟩
    cases lastElem with
    | none =>
      obtain rfl : chunks = [] := List.head?_eq_none_iff.mp hbuilt.lastElem_eq.symm
      obtain rfl : firstElem = none := hbuilt.nexts
      have hfree' : some built.refuse = some heap' := by
        rw [← hfree]
        cases fuel <;> rfl
      rw [Option.some.inj hfree']
    | some l =>
      have hfree' : iovFreeChain allocators fuel (built.refuse.setNext l none) firstElem =
          some heap' := hfree
      simp only [hfree', Option.map_some]

/-- A packet with a payload of this length. -/
structure PacketAllocated (start : AllocHeap) (payloadLength : ℕ) (packet : ℕ) (heap : AllocHeap)
    (chunks : List ℕ) : Prop where
  nodup : chunks.Nodup
  fresh : ∀ p ∈ chunks, p ∉ liveChunks start.log
  log : heap.log = start.log ++ [.allocatedPacket packet] ++ chunks.map .allocated
  total : (chunks.map fun p => (heap.chunk p).len).sum = payloadLength
  chain : heap.IsChain (heap.packet packet).firstPayloadIov chunks.getLast? chunks
  lastPayloadIov : (heap.packet packet).lastPayloadIov = chunks.getLast?

/-- No packet was obtained, or one that is freed again, and the chunks that were allocated are
freed, each once. -/
inductive PacketRolledBack (start heap : AllocHeap) : Prop
  | refusedPacket (log : heap.log = start.log ++ [.refusedPacket])
  | refused (packet : ℕ) (chunks : List ℕ) (nodup : chunks.Nodup)
      (fresh : ∀ p ∈ chunks, p ∉ liveChunks start.log)
      (log : heap.log = start.log ++ [.allocatedPacket packet] ++ chunks.map .allocated ++
        [.refused] ++ chunks.map .freed ++ [.freedPacket packet])

/-- The heap with a packet as the allocator gave it. -/
def withPacket (heap : AllocHeap) (p : ℕ) (packet : PacketIovs) : AllocHeap :=
  { heap with
    packet := Function.update heap.packet p packet
    log := heap.log ++ [.allocatedPacket p] }

theorem liveChunks_withPacket (heap : AllocHeap) (p : ℕ) (packet : PacketIovs) :
    liveChunks (heap.withPacket p packet).log = liveChunks heap.log := by
  rw [withPacket, liveChunks, List.foldl_append]
  rfl

theorem ipv6AllocatePacket_all_or_nothing (hobey : allocators.Obey) (start : AllocHeap)
    (payloadLength : UInt16) {fuel : ℕ} (hfuel : payloadLength.toNat ≤ fuel) :
    ∃ r, ipv6AllocatePacket allocators fuel start payloadLength = some r ∧
      ((∃ packet chunks, r.1 = some packet ∧
          PacketAllocated start payloadLength.toNat packet r.2 chunks) ∨
        r.1 = none ∧ PacketRolledBack start r.2) := by
  cases hnew : allocators.newPacket start.log with
  | none =>
    refine ⟨(none, { start with log := start.log ++ [.refusedPacket] }), ?_,
      .inr ⟨rfl, .refusedPacket rfl⟩⟩
    rw [ipv6AllocatePacket, ipv6AllocNewIPv6Packet, hnew]
  | some answer =>
    obtain ⟨packet, iovs⟩ := answer
    have halloc : ipv6AllocNewIPv6Packet allocators start =
        (some packet, start.withPacket packet iovs) := by
      rw [ipv6AllocNewIPv6Packet, hnew]
      rfl
    have hlive := liveChunks_withPacket start packet iovs
    rw [ipv6AllocatePacket, halloc]
    dsimp only
    split_ifs with hzero
    · refine ⟨_, rfl, .inl ⟨packet, [], rfl, ?_⟩⟩
      subst hzero
      have hpacket : (((start.withPacket packet iovs).setPacket packet ⟨none, none⟩).packet packet) =
          ⟨none, none⟩ := Function.update_self _ _ _
      refine ⟨List.nodup_nil, by simp, by simp [setPacket, withPacket], rfl, ⟨?_, rfl⟩, ?_⟩
      · rw [hpacket]
        rfl
      · rw [hpacket]
        rfl
    · have hpos : 0 < payloadLength.toNat :=
        Nat.pos_of_ne_zero fun h => hzero (UInt16.toNat_inj.mp h)
      obtain ⟨r, hr, houtcome⟩ := iovAllocateChain_all_or_nothing hobey
        (start.withPacket packet iovs) payloadLength.toNat
        (some ((start.withPacket packet iovs).packet packet).lastPayloadIov) hfuel
      rw [hr, Option.map_some]
      obtain ⟨firstElem, buffer, heap⟩ := r
      rcases houtcome with ⟨chunks, hall⟩ | ⟨-, chunks, hrolled⟩
      · have hfirst : firstElem = chunks.head? := hall.chain.nexts.eq_head?
        cases chunks with
        | nil =>
          have htotal := hall.total
          rw [List.map_nil, List.sum_nil] at htotal
          omega
        | cons p chunks =>
          obtain rfl : firstElem = some p := hfirst
          obtain rfl : buffer = some (p :: chunks).getLast? := hall.buffer
          have hpacket : (heap.setPacket packet ⟨some p, (p :: chunks).getLast?⟩).packet packet =
              ⟨some p, (p :: chunks).getLast?⟩ := Function.update_self _ _ _
          refine ⟨(some packet, heap.setPacket packet ⟨some p, (p :: chunks).getLast?⟩), rfl,
            .inl ⟨packet, p :: chunks, rfl, hall.nodup, ?_, ?_, hall.total, ?_, ?_⟩⟩
          · rw [← hlive]
            exact hall.fresh
          · exact hall.log
          · rw [hpacket]
            exact ⟨hall.chain.nexts, hall.chain.prevs⟩
          · rw [hpacket]
      · obtain rfl : firstElem = none := hrolled.firstElem
        refine ⟨(none, _), rfl, .inr ⟨rfl, .refused packet chunks hrolled.nodup ?_ ?_⟩⟩
        · rw [← hlive]
          exact hrolled.fresh
        · show heap.log ++ [.freedPacket packet] = _
          rw [hrolled.log]
          rfl

/-- For every size and all allocators that keep their promises, the allocation of a chain and the
one of a packet end, with all that was asked for or with all that was obtained freed again. -/
theorem allocation_all_or_nothing (hobey : allocators.Obey) (start : AllocHeap) :
    (∀ (length : ℕ) (lastElemPtrOrNull : Option (Option ℕ)) (fuel : ℕ), length ≤ fuel →
      ∃ r, iovAllocateChain allocators fuel start length lastElemPtrOrNull = some r ∧
        ((∃ chunks, Allocated start length lastElemPtrOrNull r chunks) ∨
          0 < length ∧ ∃ chunks, RolledBack start lastElemPtrOrNull r chunks)) ∧
    (∀ (payloadLength : UInt16) (fuel : ℕ), payloadLength.toNat ≤ fuel →
      ∃ r, ipv6AllocatePacket allocators fuel start payloadLength = some r ∧
        ((∃ packet chunks, r.1 = some packet ∧
            PacketAllocated start payloadLength.toNat packet r.2 chunks) ∨
          r.1 = none ∧ PacketRolledBack start r.2)) :=
  ⟨fun length lastElemPtrOrNull _ hfuel =>
      iovAllocateChain_all_or_nothing hobey start length lastElemPtrOrNull hfuel,
    fun payloadLength _ hfuel =>
      ipv6AllocatePacket_all_or_nothing hobey start payloadLength hfuel⟩

/-- Allocators with chunks of two bytes, which refuse every call once four were made. -/
def smallAllocators : Allocators where
  newChunk log size :=
    if 4 ≤ log.length then none else some ((liveChunks log).sum + 1, ⟨min 2 size, none, none⟩)
  oldChunk _ _ := ⟨0, none, none⟩
  newPacket log := if 4 ≤ log.length then none else some (0, ⟨none, none⟩)
  oldPacket _ _ := ⟨none, none⟩

theorem smallAllocators_obey : smallAllocators.Obey := by
  refine ⟨?_, ?_⟩
  · intro log size p chunk hsize hnew
    simp only [smallAllocators, Option.ite_none_left_eq_some, Option.some.injEq,
      Prod.mk.injEq] at hnew
    obtain ⟨-, -, rfl⟩ := hnew
    dsimp only
    omega
  · intro log size p chunk _ hnew hlive
    simp only [smallAllocators, Option.ite_none_left_eq_some, Option.some.injEq,
      Prod.mk.injEq] at hnew
    obtain ⟨-, rfl, -⟩ := hnew
    have := List.le_sum_of_mem hlive
    omega

/-- The memory before the first call. -/
def emptyHeap : AllocHeap := ⟨fun _ => ⟨0, none, none⟩, fun _ => ⟨none, none⟩, []⟩

/-- A chain of five bytes. -/
theorem allocation_all_or_nothing_small :
    ∃ r, iovAllocateChain smallAllocators 5 emptyHeap 5 none = some r ∧
      ((∃ chunks, Allocated emptyHeap 5 none r chunks) ∨
        0 < 5 ∧ ∃ chunks, RolledBack emptyHeap none r chunks) :=
  (allocation_all_or_nothing smallAllocators_obey emptyHeap).1 5 none 5 (le_refl 5)

example : ((iovAllocateChain smallAllocators 5 emptyHeap 5 none).map fun r => r.heap.log) =
    some [.allocated 1, .allocated 2, .allocated 4] := by decide

example : ((iovAllocateChain smallAllocators 9 emptyHeap 9 none).map fun r => r.heap.log) =
    some [.allocated 1, .allocated 2, .allocated 4, .allocated 8, .refused, .freed 1, .freed 2,
      .freed 4, .freed 8] := by decide

end AllocHeap

end Whip6
