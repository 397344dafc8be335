import Whip6.Lowpan.Defragmenter

/-!
# The defragmenter on lists

The defragmenter with lists in place of links: what the operations do to the lists of packet states
and of fragment specifications, and that no packet state, no specification and no IPv6 packet is
lost or held twice (`Partition`).
-/

namespace Whip6

open Lib

/-- A fragment specification with its address. -/
structure FragEntry where
  ptr : FragSpecPtr
  offset : UInt16
  size : UInt16
  deriving DecidableEq, Repr

/-- A packet that is being reassembled: its packet state `id`, its IPv6 packet, and its fragment
specifications in order, the one in the packet state first. -/
structure Reassembly where
  id : ℕ
  packet : ℕ
  key : LowpanDefragFragSetKey
  totalSize : UInt16
  defragStartTime : UInt32
  frags : List FragEntry
  deriving DecidableEq, Repr

namespace Reassembly

/-- The addresses of all fragment specifications. -/
def ptrs (r : Reassembly) : List FragSpecPtr := r.frags.map FragEntry.ptr

/-- The addresses of the additional fragment specifications. -/
def additionalPtrs (r : Reassembly) : List FragSpecPtr := r.ptrs.tail

end Reassembly

/-- The defragmenter as lists. -/
structure DefragLists where
  current : List Reassembly
  locked : List Reassembly
  free : List ℕ
  freeFragSpecs : List FragSpecPtr
  ipv6 : Ipv6PacketHeap

/-! ## Merging on a list of specifications -/

/-- Concatenate a new fragment with a specification. -/
def FragEntry.concatenate (f : FragEntry) (off len : UInt16) (identical : Bool) :
    FragEntry × ConcatResult :=
  let r := lowpanDefragmenterConcatenateNewFragSpecWithExistingOne f.offset f.size off len identical
  ({ f with offset := r.1, size := r.2.1 }, r.2.2)

/-- Concatenate a specification with the next one, and free what became superfluous: the list and
the free list. -/
def concatenateWithNext (f : FragEntry) (behind : List FragEntry) (free : List FragSpecPtr)
    (identical : Bool) : List FragEntry × List FragSpecPtr :=
  match behind with
  | [] => ([f], free)
  | n :: rest =>
    match f.concatenate n.offset n.size identical with
    | (f', .merged) => (f' :: rest, n.ptr :: free)
    | (_, .overlapping) => ([f], (n :: rest).map FragEntry.ptr ++ free)
    | (_, .disjoint) => (f :: n :: rest, free)

/-- Put a new fragment into a specification from the free list, before the given list. -/
def insertFragEntry (behind : List FragEntry) (free : List FragSpecPtr) (off len : UInt16) :
    Bool × List FragEntry × List FragSpecPtr :=
  match free with
  | [] => (false, behind, [])
  | i :: free => (true, ⟨i, off, len⟩ :: behind, free)

/-- Merge a new fragment into the specifications behind `f`, with which it is disjoint. -/
def mergeBehind (behind : List FragEntry) (free : List FragSpecPtr) (off len : UInt16)
    (identical : Bool) : Bool × List FragEntry × List FragSpecPtr :=
  match behind with
  | [] => insertFragEntry [] free off len
  | n :: rest =>
    match n.concatenate off len identical with
    | (n', .merged) => (true, n' :: rest, free)
    | (_, .disjoint) => insertFragEntry (n :: rest) free off len
    | (_, .overlapping) => insertFragEntry [] ((n :: rest).map FragEntry.ptr ++ free) off len

/-- Merge a new fragment that is not the first one behind the specifications that start before it,
the last of which is `f`. -/
def mergeAt (before : List FragEntry) (f : FragEntry) (behind : List FragEntry)
    (free : List FragSpecPtr) (off len : UInt16) (identical : Bool) :
    Bool × List FragEntry × List FragSpecPtr :=
  match f.concatenate off len identical with
  | (f', .merged) =>
    let r := concatenateWithNext f' behind free identical
    (true, before ++ r.1, r.2)
  | (_, .overlapping) =>
    match before ++ f :: behind with
    | [] => (false, [], free)
    | first :: rest =>
      match rest.map FragEntry.ptr ++ free with
      | [] => (false, [first], [])
      | i :: free => (true, [{ first with offset := 0, size := 0 }, ⟨i, off, len⟩], free)
  | (_, .disjoint) =>
    let r := mergeBehind behind free off len identical
    (r.1, before ++ f :: r.2.1, r.2.2)

/-- Merge a new fragment into a list of specifications: whether that went well, the list, and the
free list. -/
def mergeFragEntries (frags : List FragEntry) (free : List FragSpecPtr) (off len : UInt16)
    (identical : Bool) : Bool × List FragEntry × List FragSpecPtr :=
  if off = 0 then
    match frags with
    | [] => (true, [], free)
    | first :: rest =>
      match first.concatenate off len identical with
      | (first', .merged) =>
        let r := concatenateWithNext first' rest free identical
        (true, r.1, r.2)
      | _ =>
        (true, [{ first with offset := 0, size := len }], rest.map FragEntry.ptr ++ free)
  else
    let before := frags.takeWhile fun f => ¬ off ≤ f.offset
    let behind := frags.dropWhile fun f => ¬ off ≤ f.offset
    match before.getLast? with
    | none => (false, frags, free)
    | some f => mergeAt before.dropLast f behind free off len identical

/-! ## The operations on the lists -/

namespace DefragLists

/-- Give the packet state and the specifications of a packet back. -/
def release (t : DefragLists) (r : Reassembly) : DefragLists :=
  { t with free := r.id :: t.free, freeFragSpecs := r.additionalPtrs ++ t.freeFragSpecs }

/-- Give up a packet. -/
def destroy (t : DefragLists) (r : Reassembly) : DefragLists :=
  { t with ipv6 := t.ipv6.free r.packet }.release r

def unlock (t : DefragLists) (locked : Option ℕ) : Option (Reassembly × DefragLists) :=
  (t.locked.find? fun r => some r.id == locked).map fun r =>
    (r, { t with locked := t.locked.eraseP fun r => some r.id == locked })

def allocateAndLock (t : DefragLists) (frame : Ieee154DframeInfo)
    (hdrs : LowpanUnpackedFrameHeaders) (time : UInt32) (answers : Ipv6AllocAnswers) :
    Option ℕ × DefragLists :=
  match t.free, ipv6AllocatePacket answers (hdrs.frag.size.toNat - 40) with
  | p :: free, some packet =>
    let r : Reassembly :=
      { id := p, packet := t.ipv6.numAllocated, key := lowpanFragSetKeyOfFrame frame hdrs
        totalSize := hdrs.frag.size, defragStartTime := time, frags := [⟨.first p, 0, 0⟩] }
    (some p, { t with free := free, ipv6 := t.ipv6.allocate packet, locked := r :: t.locked })
  | _, _ => (none, t)

def findAndLock (t : DefragLists) (frame : Ieee154DframeInfo) (hdrs : LowpanUnpackedFrameHeaders)
    (time : UInt32) (answers : Ipv6AllocAnswers) : Option ℕ × DefragLists :=
  if ieee154DFrameIsInterPan frame ∨ ¬ hdrs.bitmap.frag ∨ hdrs.frag.size.toNat < 40 then (none, t)
  else
    match t.current.find? fun r => lowpanFragSetKeyMatches r.key frame hdrs with
    | none => t.allocateAndLock frame hdrs time answers
    | some r =>
      let t := { t with
        current := t.current.eraseP fun r => lowpanFragSetKeyMatches r.key frame hdrs }
      if r.totalSize ≠ hdrs.frag.size then
        (t.destroy r).allocateAndLock frame hdrs time answers
      else (some r.id, { t with locked := r :: t.locked })

/-- The size of the first fragment specification of a packet. -/
def firstFragSize (r : Reassembly) : UInt16 := (r.frags.head?.map FragEntry.size).getD 0

/-- A packet is complete when its first fragment is the whole of it. -/
def isComplete (frags : List FragEntry) (size : UInt16) : Bool :=
  match frags with
  | [] => false
  | f :: _ => f.offset == 0 && f.size == size

def passFrame (t : DefragLists) (frame : Ieee154DframeInfo) (hdrs : LowpanUnpackedFrameHeaders)
    (locked : Option ℕ) : Option ℕ × DefragLists :=
  match t.unlock locked with
  | none => (none, t)
  | some (r, t) =>
    let copied := lowpanDefragmenterCopyFragment frame hdrs (t.ipv6.packets r.packet)
      (firstFragSize r)
    let t := { t with ipv6 := t.ipv6.write r.packet copied.2 }
    match copied.1 with
    | none => (none, t.destroy r)
    | some (len, identical) =>
      let m := mergeFragEntries r.frags t.freeFragSpecs hdrs.frag.offset (UInt16.ofNat len) identical
      let t := { t with freeFragSpecs := m.2.2 }
      let r := { r with frags := m.2.1 }
      if m.1 = false then (none, t.destroy r)
      else if isComplete r.frags hdrs.frag.size then (some r.packet, t.release r)
      else (none, { t with current := r :: t.current })

def unlockPacket (t : DefragLists) (locked : Option ℕ) : Whip6Error × DefragLists :=
  match t.unlock locked with
  | none => (.argumentError, t)
  | some (r, t) => (.noError, { t with current := r :: t.current })

def periodicTimeout (t : DefragLists) (time timeout : UInt32) : Whip6Error × DefragLists :=
  if t.locked ≠ [] then (.stateError, t)
  else
    let fresh := fun r : Reassembly => decide (time - r.defragStartTime < timeout)
    let expired := t.current.filter fun r => !fresh r
    (.noError, { expired.foldl destroy t with current := t.current.filter fresh })

def terminateAll (t : DefragLists) : Whip6Error × DefragLists :=
  if t.locked ≠ [] then (.stateError, t)
  else (.noError, { t.current.foldl destroy t with current := [] })

end DefragLists

/-! ## Merging loses no specification -/

@[simp] theorem FragEntry.concatenate_ptr (f : FragEntry) (off len : UInt16) (identical : Bool) :
    (f.concatenate off len identical).1.ptr = f.ptr := rfl

theorem FragEntry.concatenate_eq {f f' : FragEntry} {off len : UInt16} {identical : Bool}
    {c : ConcatResult} (h : f.concatenate off len identical = (f', c)) : f'.ptr = f.ptr := by
  rw [← f.concatenate_ptr off len identical, h]

/-- Only a concatenation that succeeds changes the specification. -/
theorem FragEntry.concatenate_of_ne_merged (f : FragEntry) (off len : UInt16) (identical : Bool)
    (h : (f.concatenate off len identical).2 ≠ .merged) :
    (f.concatenate off len identical).1 = f := by
  revert h
  simp only [FragEntry.concatenate, lowpanDefragmenterConcatenateNewFragSpecWithExistingOne]
  split_ifs <;> simp

section Ptrs

variable (f : FragEntry) (frags before behind : List FragEntry) (free : List FragSpecPtr)
  (off len : UInt16) (identical : Bool)

theorem concatenateWithNext_ptrs :
    let r := concatenateWithNext f behind free identical
    (r.2 ++ r.1.map FragEntry.ptr).Perm (free ++ (f :: behind).map FragEntry.ptr) ∧
      (r.1.head?.map FragEntry.ptr) = some f.ptr := by
  unfold concatenateWithNext
  cases behind with
  | nil => exact ⟨List.Perm.refl _, rfl⟩
  | cons n rest =>
    dsimp only
    split
    · rename_i f' h
      have hptr := FragEntry.concatenate_eq h
      refine ⟨?_, congrArg some hptr⟩
      rw [List.perm_iff_count]
      intro x
      simp only [List.map_cons, hptr, List.count_append, List.count_cons]
      omega
    · refine ⟨?_, rfl⟩
      rw [List.perm_iff_count]
      intro x
      simp only [List.map_cons, List.map_nil, List.count_append, List.count_cons, List.count_nil]
      omega
    · exact ⟨List.Perm.refl _, rfl⟩

theorem insertFragEntry_ptrs :
    let r := insertFragEntry behind free off len
    (r.2.2 ++ r.2.1.map FragEntry.ptr).Perm (free ++ behind.map FragEntry.ptr) := by
  unfold insertFragEntry
  cases free with
  | nil => exact List.Perm.refl _
  | cons i free => exact List.perm_middle

theorem mergeBehind_ptrs :
    let r := mergeBehind behind free off len identical
    (r.2.2 ++ r.2.1.map FragEntry.ptr).Perm (free ++ behind.map FragEntry.ptr) := by
  unfold mergeBehind
  cases behind with
  | nil => exact insertFragEntry_ptrs [] free off len
  | cons n rest =>
    dsimp only
    split
    · rename_i n' h
      rw [List.map_cons, FragEntry.concatenate_eq h]
      exact List.Perm.refl _
    · exact insertFragEntry_ptrs _ free off len
    · refine (insertFragEntry_ptrs [] _ off len).trans ?_
      rw [List.map_nil, List.append_nil]
      exact List.perm_append_comm

theorem mergeAt_ptrs :
    let r := mergeAt before f behind free off len identical
    (r.2.2 ++ r.2.1.map FragEntry.ptr).Perm
        (free ++ (before ++ f :: behind).map FragEntry.ptr) ∧
      (r.2.1.head?.map FragEntry.ptr) = ((before ++ f :: behind).head?.map FragEntry.ptr) := by
  unfold mergeAt
  split
  · rename_i f' h
    have hptr := FragEntry.concatenate_eq h
    obtain ⟨hperm, hhead⟩ := concatenateWithNext_ptrs f' behind free identical
    refine ⟨?_, ?_⟩
    · rw [List.perm_iff_count] at hperm ⊢
      intro x
      have hx := hperm x
      simp only [List.map_append, List.map_cons, hptr, List.count_append, List.count_cons] at hx ⊢
      omega
    · cases before with
      | nil => simpa [hptr] using hhead
      | cons b before => rfl
  · cases hcons : before ++ f :: behind with
    | nil => simp at hcons
    | cons first rest =>
      cases hfree : rest.map FragEntry.ptr ++ free with
      | nil =>
        obtain ⟨hrest, rfl⟩ := List.append_eq_nil_iff.mp hfree
        simp [List.map_eq_nil_iff.mp hrest]
      | cons i free' =>
        simp only [hfree]
        refine ⟨?_, rfl⟩
        rw [List.perm_iff_count]
        intro x
        have hx := congrArg (List.count x) hfree
        simp only [List.map_cons, List.map_nil, List.count_append, List.count_cons,
          List.count_nil] at hx ⊢
        omega
  · have hperm := mergeBehind_ptrs behind free off len identical
    refine ⟨?_, ?_⟩
    · rw [List.perm_iff_count] at hperm ⊢
      intro x
      have hx := hperm x
      simp only [List.map_append, List.map_cons, List.count_append, List.count_cons] at hx ⊢
      omega
    · cases before <;> rfl

/-- Merging moves specifications between a packet and the free list, and keeps the first one. -/
theorem mergeFragEntries_ptrs :
    let r := mergeFragEntries frags free off len identical
    (r.2.2 ++ r.2.1.map FragEntry.ptr).Perm (free ++ frags.map FragEntry.ptr) ∧
      (r.2.1.head?.map FragEntry.ptr) = (frags.head?.map FragEntry.ptr) := by
  unfold mergeFragEntries
  split_ifs with hoff
  · cases frags with
    | nil => exact ⟨List.Perm.refl _, rfl⟩
    | cons first rest =>
      dsimp only
      split
      · rename_i first' h
        have hptr := FragEntry.concatenate_eq h
        obtain ⟨hperm, hhead⟩ := concatenateWithNext_ptrs first' rest free identical
        rw [List.map_cons, hptr] at hperm
        exact ⟨hperm, hhead.trans (congrArg some hptr)⟩
      · refine ⟨?_, rfl⟩
        rw [List.perm_iff_count]
        intro x
        simp only [List.map_cons, List.map_nil, List.count_append, List.count_cons,
          List.count_nil]
        omega
  · dsimp only
    cases hlast : (frags.takeWhile fun f => ¬ off ≤ f.offset).getLast? with
    | none => exact ⟨List.Perm.refl _, rfl⟩
    | some f =>
      have hsplit : (frags.takeWhile fun f => ¬ off ≤ f.offset).dropLast ++
          f :: (frags.dropWhile fun f => ¬ off ≤ f.offset) = frags := by
        rw [← List.singleton_append, ← List.append_assoc,
          List.dropLast_append_getLast? f hlast, List.takeWhile_append_dropWhile]
      have h := mergeAt_ptrs f (frags.takeWhile fun f => ¬ off ≤ f.offset).dropLast
        (frags.dropWhile fun f => ¬ off ≤ f.offset) free off len identical
      rwa [hsplit] at h

end Ptrs

/-! ## Nothing is lost or held twice -/

namespace DefragLists

/-- The packets that are being reassembled: on the two lists, or held by an operation. -/
def live (t : DefragLists) (hand : List Reassembly) : List Reassembly :=
  t.current ++ t.locked ++ hand

/-- Every packet state of the pool, every additional specification of the pool and every IPv6
packet allocated so far is at exactly one place.  `hand` are the packets that an operation holds
while it is under way, and `handed` the IPv6 packets that were handed up. -/
structure Partition (t : DefragLists) (hand : List Reassembly) (handed : List ℕ)
    (numPackets numFragSpecs : ℕ) : Prop where
  packets : ((t.live hand).map Reassembly.id ++ t.free).Perm (List.range numPackets)
  fragSpecs : ((t.live hand).flatMap Reassembly.additionalPtrs ++ t.freeFragSpecs).Perm
    ((List.range numFragSpecs).map FragSpecPtr.additional)
  ipv6 : ((t.live hand).map Reassembly.packet ++ t.ipv6.freed ++ handed).Perm
    (List.range t.ipv6.numAllocated)
  first : ∀ r ∈ t.live hand, r.ptrs.head? = some (.first r.id)

namespace Partition

variable {t t' : DefragLists} {hand : List Reassembly} {handed : List ℕ} {r : Reassembly}
  {numPackets numFragSpecs : ℕ}

/-- Only what the places hold matters, not how they are ordered. -/
theorem of_perm (h : t.Partition hand handed numPackets numFragSpecs) {hand' : List Reassembly}
    (hlive : (t'.live hand').Perm (t.live hand)) (hfree : t'.free = t.free)
    (hspecs : t'.freeFragSpecs = t.freeFragSpecs) (hfreed : t'.ipv6.freed = t.ipv6.freed)
    (hnum : t'.ipv6.numAllocated = t.ipv6.numAllocated) :
    t'.Partition hand' handed numPackets numFragSpecs where
  packets := by rw [hfree]; exact ((hlive.map _).append_right _).trans h.packets
  fragSpecs := by rw [hspecs]; exact ((hlive.flatMap_right _).append_right _).trans h.fragSpecs
  ipv6 := by
    rw [hfreed, hnum]
    exact (((hlive.map _).append_right _).append_right _).trans h.ipv6
  first := fun r hr => h.first r (hlive.mem_iff.mp hr)

/-- Giving a packet back, when the fate of its IPv6 packet is settled. -/
theorem release (h : t.Partition (r :: hand) handed numPackets numFragSpecs) {handed' : List ℕ}
    (hfree : t'.free = r.id :: t.free)
    (hspecs : t'.freeFragSpecs = r.additionalPtrs ++ t.freeFragSpecs)
    (hlive : t'.live hand = t.live hand) (hnum : t'.ipv6.numAllocated = t.ipv6.numAllocated)
    (hipv6 : (t'.ipv6.freed ++ handed').Perm (r.packet :: (t.ipv6.freed ++ handed))) :
    t'.Partition hand handed' numPackets numFragSpecs := by
  obtain ⟨hpackets, hfragSpecs, hipv6', hfirst⟩ := h
  have hmem : ∀ q ∈ t.live hand, q ∈ t.live (r :: hand) := by
    intro q hq
    simp only [live, List.mem_append, List.mem_cons] at hq ⊢
    tauto
  refine ⟨?_, ?_, ?_, fun q hq => hfirst q (hmem q (hlive ▸ hq))⟩
  · rw [hlive, hfree]
    refine List.Perm.trans ?_ hpackets
    rw [List.perm_iff_count]
    intro x
    simp only [live, List.map_append, List.map_cons, List.count_append, List.count_cons]
    omega
  · rw [hlive, hspecs]
    refine List.Perm.trans ?_ hfragSpecs
    rw [List.perm_iff_count]
    intro x
    simp only [live, List.flatMap_append, List.flatMap_cons, List.count_append]
    omega
  · rw [hlive, hnum]
    refine List.Perm.trans ?_ hipv6'
    rw [List.perm_iff_count] at hipv6 ⊢
    intro x
    have hx := hipv6 x
    simp only [live, List.map_append, List.map_cons, List.count_append, List.count_cons] at hx ⊢
    omega

theorem destroy (h : t.Partition (r :: hand) handed numPackets numFragSpecs) :
    (t.destroy r).Partition hand handed numPackets numFragSpecs :=
  h.release rfl rfl rfl rfl (List.Perm.refl _)

theorem handUp (h : t.Partition (r :: hand) handed numPackets numFragSpecs) :
    (t.release r).Partition hand (r.packet :: handed) numPackets numFragSpecs :=
  h.release rfl rfl rfl rfl List.perm_middle

theorem pushCurrent (h : t.Partition (r :: hand) handed numPackets numFragSpecs) :
    { t with current := r :: t.current }.Partition hand handed numPackets numFragSpecs := by
  refine h.of_perm ?_ rfl rfl rfl rfl
  simp only [live, List.cons_append]
  exact List.perm_middle.symm

theorem pushLocked (h : t.Partition (r :: hand) handed numPackets numFragSpecs) :
    { t with locked := r :: t.locked }.Partition hand handed numPackets numFragSpecs := by
  refine h.of_perm ?_ rfl rfl rfl rfl
  simp only [live, List.append_assoc, List.cons_append]
  exact (List.Perm.append_left _ List.perm_middle.symm)

theorem takeLocked {p : Reassembly → Bool}
    (h : t.Partition hand handed numPackets numFragSpecs) (hr : t.locked.find? p = some r) :
    { t with locked := t.locked.eraseP p }.Partition (r :: hand) handed numPackets
      numFragSpecs := by
  refine h.of_perm ?_ rfl rfl rfl rfl
  have hperm := perm_cons_eraseP hr
  rw [List.perm_iff_count] at hperm ⊢
  intro x
  have hx := hperm x
  simp only [live, List.count_append, List.count_cons] at hx ⊢
  omega

theorem takeCurrent {p : Reassembly → Bool}
    (h : t.Partition hand handed numPackets numFragSpecs) (hr : t.current.find? p = some r) :
    { t with current := t.current.eraseP p }.Partition (r :: hand) handed numPackets
      numFragSpecs := by
  refine h.of_perm ?_ rfl rfl rfl rfl
  have hperm := perm_cons_eraseP hr
  rw [List.perm_iff_count] at hperm ⊢
  intro x
  have hx := hperm x
  simp only [live, List.count_append, List.count_cons] at hx ⊢
  omega

/-- Writing to an IPv6 packet moves nothing. -/
theorem write (h : t.Partition hand handed numPackets numFragSpecs) (packet : ℕ)
    (content : Ipv6Packet) :
    { t with ipv6 := t.ipv6.write packet content }.Partition hand handed numPackets numFragSpecs :=
  h.of_perm (List.Perm.refl _) rfl rfl rfl rfl

/-- Changing the specifications of a packet moves them to and from the free list alone. -/
theorem setFrags (h : t.Partition (r :: hand) handed numPackets numFragSpecs)
    {frags : List FragEntry} {free : List FragSpecPtr}
    (hperm : (free ++ frags.map FragEntry.ptr).Perm (t.freeFragSpecs ++ r.frags.map FragEntry.ptr))
    (hhead : frags.head?.map FragEntry.ptr = r.frags.head?.map FragEntry.ptr) :
    { t with freeFragSpecs := free }.Partition ({ r with frags := frags } :: hand) handed
      numPackets numFragSpecs := by
  obtain ⟨hpackets, hfragSpecs, hipv6, hfirst⟩ := h
  have hr : r ∈ t.live (r :: hand) := by simp [live]
  have hrfirst := hfirst r hr
  refine ⟨?_, ?_, ?_, ?_⟩
  · refine List.Perm.trans (List.Perm.of_eq ?_) hpackets
    simp [live]
  · refine List.Perm.trans ?_ hfragSpecs
    rw [List.perm_iff_count] at hperm ⊢
    intro x
    have hx := hperm x
    simp only [Reassembly.ptrs, List.head?_map] at hrfirst
    rw [hrfirst] at hhead
    cases hf : frags with
    | nil => simp [hf] at hhead
    | cons f rest =>
      cases hg : r.frags with
      | nil => simp [hg] at hrfirst
      | cons g rest' =>
        rw [hf] at hhead hx
        rw [hg] at hrfirst hx
        simp only [List.head?_cons, Option.map_some, Option.some.injEq] at hhead hrfirst
        simp only [live, List.flatMap_append, List.flatMap_cons, List.count_append,
          Reassembly.additionalPtrs, Reassembly.ptrs, hg, List.map_cons, List.tail_cons,
          List.count_cons, hhead, hrfirst] at hx ⊢
        omega
  · refine List.Perm.trans (List.Perm.of_eq ?_) hipv6
    simp [live]
  · intro q hq
    simp only [live, List.mem_append, List.mem_cons] at hq
    rcases hq with hq | rfl | hq
    · exact hfirst q (by simp only [live, List.mem_append]; tauto)
    · rw [Reassembly.ptrs, List.head?_map, hhead, ← List.head?_map]
      exact hrfirst
    · exact hfirst q (by simp only [live, List.mem_append, List.mem_cons]; tauto)

theorem merge (h : t.Partition (r :: hand) handed numPackets numFragSpecs) (off len : UInt16)
    (identical : Bool) :
    let m := mergeFragEntries r.frags t.freeFragSpecs off len identical
    { t with freeFragSpecs := m.2.2 }.Partition ({ r with frags := m.2.1 } :: hand) handed
      numPackets numFragSpecs :=
  let hm := mergeFragEntries_ptrs r.frags t.freeFragSpecs off len identical
  h.setFrags hm.1 hm.2

/-- A new packet: its packet state and its IPv6 packet get their place. -/
theorem allocate {p : ℕ} {free : List ℕ} {packet : Ipv6Packet}
    (h : t.Partition hand handed numPackets numFragSpecs) (hfree : t.free = p :: free)
    (hid : r.id = p) (hpacket : r.packet = t.ipv6.numAllocated)
    (hptrs : r.ptrs = [.first p]) :
    { t with free := free, ipv6 := t.ipv6.allocate packet }.Partition (r :: hand) handed
      numPackets numFragSpecs := by
  obtain ⟨hpackets, hfragSpecs, hipv6, hfirst⟩ := h
  refine ⟨?_, ?_, ?_, ?_⟩
  · refine List.Perm.trans ?_ hpackets
    rw [hfree, List.perm_iff_count]
    intro x
    simp only [live, List.map_append, List.map_cons, List.count_append, List.count_cons, hid]
    omega
  · refine List.Perm.trans (List.Perm.of_eq ?_) hfragSpecs
    simp [live, Reassembly.additionalPtrs, hptrs]
  · have hrange : (List.range (t.ipv6.numAllocated + 1)).Perm
        (t.ipv6.numAllocated :: List.range t.ipv6.numAllocated) := by
      rw [List.range_succ]
      exact List.perm_append_comm
    refine List.Perm.trans ?_ ((hipv6.cons _).trans hrange.symm)
    rw [List.perm_iff_count]
    intro x
    simp only [live, Ipv6PacketHeap.allocate, List.map_append, List.map_cons, List.count_append,
      List.count_cons, hpacket]
    omega
  · intro q hq
    simp only [live, List.mem_append, List.mem_cons] at hq
    rcases hq with hq | rfl | hq
    · exact hfirst q (by simp only [live, List.mem_append]; tauto)
    · rw [hptrs, hid]
      rfl
    · exact hfirst q (by simp only [live, List.mem_append]; tauto)

theorem foldl_destroy {rs : List Reassembly}
    (h : t.Partition (rs ++ hand) handed numPackets numFragSpecs) :
    (rs.foldl DefragLists.destroy t).Partition hand handed numPackets numFragSpecs := by
  induction rs generalizing t with
  | nil => exact h
  | cons r rs ih => exact ih (Partition.destroy h)

end Partition

/-- Destroying packets leaves the lists of packets alone. -/
theorem foldl_destroy_current (t : DefragLists) (rs : List Reassembly) (c : List Reassembly) :
    { rs.foldl destroy t with current := c } = rs.foldl destroy { t with current := c } := by
  induction rs generalizing t with
  | nil => rfl
  | cons r rs ih => exact ih (t.destroy r)

/-! ## The operations keep the partition -/

section Operations

variable {t : DefragLists} {handed : List ℕ} {numPackets numFragSpecs : ℕ}

theorem Partition.unlock {hand : List Reassembly} {locked : Option ℕ} {r : Reassembly}
    {t' : DefragLists} (h : t.Partition hand handed numPackets numFragSpecs)
    (hu : t.unlock locked = some (r, t')) :
    t'.Partition (r :: hand) handed numPackets numFragSpecs := by
  rw [DefragLists.unlock, Option.map_eq_some_iff] at hu
  obtain ⟨r', hfind, heq⟩ := hu
  obtain ⟨rfl, rfl⟩ := Prod.mk.inj heq
  exact h.takeLocked hfind

theorem partition_allocateAndLock (h : t.Partition [] handed numPackets numFragSpecs)
    (frame : Ieee154DframeInfo) (hdrs : LowpanUnpackedFrameHeaders) (time : UInt32)
    (answers : Ipv6AllocAnswers) :
    (t.allocateAndLock frame hdrs time answers).2.Partition [] handed numPackets numFragSpecs := by
  unfold allocateAndLock
  split
  · rename_i p free packet hfree _
    exact (h.allocate hfree rfl rfl rfl).pushLocked
  · exact h

theorem partition_findAndLock (h : t.Partition [] handed numPackets numFragSpecs)
    (frame : Ieee154DframeInfo) (hdrs : LowpanUnpackedFrameHeaders) (time : UInt32)
    (answers : Ipv6AllocAnswers) :
    (t.findAndLock frame hdrs time answers).2.Partition [] handed numPackets numFragSpecs := by
  unfold findAndLock
  split_ifs
  · exact h
  · split
    · exact partition_allocateAndLock h frame hdrs time answers
    · rename_i r hfind
      have htaken := h.takeCurrent hfind
      dsimp only
      split_ifs
      · exact partition_allocateAndLock htaken.destroy frame hdrs time answers
      · exact htaken.pushLocked

theorem partition_passFrame (h : t.Partition [] handed numPackets numFragSpecs)
    (frame : Ieee154DframeInfo) (hdrs : LowpanUnpackedFrameHeaders) (locked : Option ℕ) :
    (t.passFrame frame hdrs locked).2.Partition []
      ((t.passFrame frame hdrs locked).1.toList ++ handed) numPackets numFragSpecs := by
  unfold passFrame
  split
  · exact h
  · rename_i r t' hu
    have hr := (h.unlock hu).write r.packet
      (lowpanDefragmenterCopyFragment frame hdrs (t'.ipv6.packets r.packet) (firstFragSize r)).2
    dsimp only
    split
    · exact hr.destroy
    · rename_i len identical _
      have hm := hr.merge hdrs.frag.offset (UInt16.ofNat len) identical
      split_ifs
      · exact hm.destroy
      · exact hm.handUp
      · exact hm.pushCurrent

theorem partition_unlockPacket (h : t.Partition [] handed numPackets numFragSpecs)
    (locked : Option ℕ) :
    (t.unlockPacket locked).2.Partition [] handed numPackets numFragSpecs := by
  unfold unlockPacket
  split
  · exact h
  · rename_i r t' hu
    exact (h.unlock hu).pushCurrent

theorem partition_periodicTimeout (h : t.Partition [] handed numPackets numFragSpecs)
    (time timeout : UInt32) :
    (t.periodicTimeout time timeout).2.Partition [] handed numPackets numFragSpecs := by
  unfold periodicTimeout
  split_ifs
  · exact h
  · dsimp only
    rw [foldl_destroy_current]
    refine Partition.foldl_destroy (h.of_perm ?_ rfl rfl rfl rfl)
    have hfilter := List.filter_append_perm
      (fun r : Reassembly => decide (time - r.defragStartTime < timeout)) t.current
    rw [List.perm_iff_count] at hfilter ⊢
    intro x
    have hx := hfilter x
    simp only [live, List.append_nil, List.count_append] at hx ⊢
    omega

theorem partition_terminateAll (h : t.Partition [] handed numPackets numFragSpecs) :
    t.terminateAll.2.Partition [] handed numPackets numFragSpecs := by
  unfold terminateAll
  split_ifs
  · exact h
  · dsimp only
    rw [foldl_destroy_current]
    refine Partition.foldl_destroy (h.of_perm ?_ rfl rfl rfl rfl)
    simp only [live, List.append_nil]
    exact List.perm_append_comm

end Operations

end DefragLists

end Whip6
