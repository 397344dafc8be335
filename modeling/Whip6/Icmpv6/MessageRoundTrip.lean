import Whip6.Icmpv6.MessageWrapping
import Whip6.Ipv6.PacketAllocator

/-!
# Wrapping and unwrapping ICMPv6 messages

A message that was put into a packet is the header with the bytes of the client from its iterator
on; taking it out restores the chain and gives the packet back, and a failure leaves the chain and
the packets alone.  This is so for every payload whose message is shorter than 65536 bytes: a longer
one is put into a packet whose length is cut off, and is never taken out
(`icmpv6RoundTrips_iff`).
-/

namespace Whip6

open Lib

/-! ## Bytes in vector elements -/

/-- Byte `i` of the data, in a memory with message headers. -/
def IovData.byte (ram : ℕ → UInt8) (icmpv6Hdrs : ℕ → ℕ → UInt8) : IovData → ℕ → UInt8
  | .bytes address, i => ram (address + i)
  | .icmpv6Hdr clientId, i => icmpv6Hdrs clientId i

/-- The bytes of an element. -/
def IovNode.content (byte : IovData → ℕ → UInt8) (node : IovNode) : List UInt8 :=
  (List.range node.len).map (byte node.ptr)

/-- The bytes of the elements of a list. -/
def IovMemory.content (mem : IovMemory) (byte : IovData → ℕ → UInt8) (l : List IovPtr) :
    List UInt8 :=
  l.flatMap fun p => (mem.node p).content byte

section Content

variable {mem mem' : IovMemory} {byte : IovData → ℕ → UInt8} {l : List IovPtr} {node : IovNode}

@[simp] theorem IovNode.length_content : (node.content byte).length = node.len := by
  rw [content, List.length_map, List.length_range]

theorem IovMemory.content_cons (p : IovPtr) :
    mem.content byte (p :: l) = (mem.node p).content byte ++ mem.content byte l :=
  List.flatMap_cons

theorem IovMemory.length_content :
    (mem.content byte l).length = (l.map fun p => (mem.node p).len).sum := by
  rw [content, List.length_flatMap]
  simp only [IovNode.length_content]

theorem IovMemory.content_congr (h : ∀ p ∈ l, (mem'.node p).ptr = (mem.node p).ptr ∧
    (mem'.node p).len = (mem.node p).len) : mem'.content byte l = mem.content byte l := by
  apply List.flatMap_congr
  intro p hp
  rw [IovNode.content, IovNode.content, (h p hp).1, (h p hp).2]

/-- Setting a link back leaves the bytes of the clients' elements. -/
theorem content_of_setPrev {r prev : Option IovPtr} {l : List ℕ}
    (h : ∀ n, mem'.node (.client n) = if r = some (.client n) then
      { mem.node (.client n) with prev := prev } else mem.node (.client n)) :
    mem'.content byte (l.map .client) = mem.content byte (l.map .client) := by
  apply IovMemory.content_congr
  intro p hp
  obtain ⟨n, -, rfl⟩ := List.mem_map.mp hp
  rw [h n]
  split <;> exact ⟨rfl, rfl⟩

/-- The rest of an element. -/
theorem IovNode.content_add {ram : ℕ → UInt8} {icmpv6Hdrs : ℕ → ℕ → UInt8} {address : ℕ}
    (h : node.ptr = .bytes address) (offset : ℕ) (next prev : Option IovPtr) :
    (IovNode.mk (node.ptr.add offset) (node.len - offset) next prev).content
        (IovData.byte ram icmpv6Hdrs) =
      (node.content (IovData.byte ram icmpv6Hdrs)).drop offset := by
  rw [content, content, h, ← List.map_drop]
  refine List.ext_getElem (by simp) fun i _ _ => ?_
  simp [IovData.add, IovData.byte, Nat.add_assoc]

end Content

/-! ## Wrapping and unwrapping with an allocator -/

section Allocator

variable {σ : Type} (allocator : Ipv6PacketAllocator σ) (s : σ) (memorySize : ℕ) (mem : IovMemory)
  (payloadIter payloadLen : ℕ) (icmpv6HdrPtr : IovData) (srcAddrOrNull : Option Ipv6Addr)
  (dstAddr : Ipv6Addr)

/-- The step of a wrapping that allocates the packet. -/
def icmpv6AllocatePacketFrom (totalLen : ℕ) (lastIov : IovPtr) :
    Option Icmpv6OutPacket × IovMemory × σ :=
  let alloc := allocator.alloc s
  let r := icmpv6AllocatePacket mem payloadIter srcAddrOrNull dstAddr alloc.1 totalLen lastIov
  (r.1, r.2, alloc.2)

/-- A wrapping: the packet, the memory and the allocator after it. -/
def icmpv6WrapDataFrom : Option Icmpv6OutPacket × IovMemory × σ :=
  match (mem.iter payloadIter).currElem with
  | some currIov =>
    if payloadLen > 0 then
      let mem := icmpv6LinkPayload mem icmpv6HdrPtr currIov (mem.iter payloadIter).offset
      let iovs := mem.chain (memorySize + 2) (some .hdrIov)
      let maxPayload := (iovs.map fun iov => (mem.node iov).len).sum
      if maxPayload < payloadLen + icmpv6MessageHeaderSize then
        (none, icmpv6UnlinkPayload mem payloadIter, s)
      else
        icmpv6AllocatePacketFrom allocator s mem payloadIter srcAddrOrNull dstAddr
          (payloadLen + icmpv6MessageHeaderSize) (iovs.getLastD .hdrIov)
    else
      icmpv6AllocatePacketFrom allocator s (icmpv6SetHdrIov mem icmpv6HdrPtr none) payloadIter
        srcAddrOrNull dstAddr icmpv6MessageHeaderSize .hdrIov
  | none =>
    if payloadLen > 0 then
      (none, icmpv6SetHdrIov mem icmpv6HdrPtr (mem.node .hdrIov).next, s)
    else
      icmpv6AllocatePacketFrom allocator s (icmpv6SetHdrIov mem icmpv6HdrPtr none) payloadIter
        srcAddrOrNull dstAddr icmpv6MessageHeaderSize .hdrIov

/-- An unwrapping frees the packet that it took the message out of. -/
def icmpv6UnwrapDataFrom (packet : Icmpv6OutPacket) : Bool × IovMemory × σ :=
  let r := icmpv6UnwrapDataFromOutgoingIpv6PacketCarryingIcmpMessage mem payloadIter payloadLen
    packet
  (r.1, r.2, if r.1 then allocator.free packet.ptr s else s)

/-- The allocator gives or refuses the packet of a wrapping, which takes none otherwise. -/
theorem icmpv6WrapDataFrom_spec :
    let wrapped := icmpv6WrapDataFrom allocator s memorySize mem payloadIter payloadLen icmpv6HdrPtr
      srcAddrOrNull dstAddr
    let r := icmpv6WrapDataIntoOutgoingIpv6PacketCarryingIcmpMessage memorySize mem payloadIter
      payloadLen icmpv6HdrPtr srcAddrOrNull dstAddr (allocator.alloc s).1
    wrapped.1 = r.1 ∧ wrapped.2.1 = r.2 ∧
      (r.1 = none → allocator.out wrapped.2.2 = allocator.out s) ∧
      ∀ packet, r.1 = some packet →
        allocator.out (allocator.free packet.ptr wrapped.2.2) = allocator.out s := by
  have hallocate : ∀ (mem : IovMemory) (totalLen : ℕ) (lastIov : IovPtr),
      let wrapped := icmpv6AllocatePacketFrom allocator s mem payloadIter srcAddrOrNull dstAddr
        totalLen lastIov
      let r := icmpv6AllocatePacket mem payloadIter srcAddrOrNull dstAddr (allocator.alloc s).1
        totalLen lastIov
      wrapped.1 = r.1 ∧ wrapped.2.1 = r.2 ∧
        (r.1 = none → allocator.out wrapped.2.2 = allocator.out s) ∧
        ∀ packet, r.1 = some packet →
          allocator.out (allocator.free packet.ptr wrapped.2.2) = allocator.out s := by
    intro mem totalLen lastIov
    refine ⟨rfl, rfl, ?_⟩
    cases halloc : (allocator.alloc s).1 with
    | none =>
      exact ⟨fun _ => allocator.out_alloc_none halloc, fun _ hpacket => by cases hpacket⟩
    | some packet =>
      refine ⟨(by cases ·), fun packet' hpacket => ?_⟩
      obtain rfl := Option.some.inj hpacket
      exact allocator.out_free_alloc halloc
  rw [icmpv6WrapDataFrom, icmpv6WrapDataIntoOutgoingIpv6PacketCarryingIcmpMessage]
  cases (mem.iter payloadIter).currElem with
  | none =>
    dsimp only
    split
    · exact ⟨rfl, rfl, fun _ => rfl, fun _ hpacket => by cases hpacket⟩
    · exact hallocate _ _ _
  | some currIov =>
    dsimp only
    split
    · split
      · exact ⟨rfl, rfl, fun _ => rfl, fun _ hpacket => by cases hpacket⟩
      · exact hallocate _ _ _
    · exact hallocate _ _ _

end Allocator

/-! ## The message in the packet -/

/-- The chain of a client with data in memory, and an iterator that stands in it. -/
structure DataChain (mem : IovMemory) (iter : IovPtrIter) (l : List ℕ) : Prop
    extends ClientChain mem iter l where
  offset_le : ∀ p, iter.currElem = some p → iter.offset ≤ (mem.node p).len
  inMemory : ∀ n ∈ l, ∃ address, (mem.node (.client n)).ptr = .bytes address

/-- The bytes of the client from the iterator on. -/
def dataFrom (mem : IovMemory) (byte : IovData → ℕ → UInt8) (iter : IovPtrIter) (l : List ℕ) :
    List UInt8 :=
  (mem.content byte (l.map .client)).drop iter.offset

/-- The elements of the packet of a message. -/
def messageIovs (payloadLen : ℕ) (l : List ℕ) : List IovPtr :=
  if payloadLen = 0 then [.hdrIov] else .hdrIov :: .payloadIov :: l.tail.map .client

section Message

variable {mem : IovMemory} {payloadIter payloadLen memorySize : ℕ} {l : List ℕ} {c : ℕ}
  {iter : IovPtrIter} (icmpv6HdrPtr : IovData) (ram : ℕ → UInt8) (icmpv6Hdrs : ℕ → ℕ → UInt8)
  (srcAddrOrNull : Option Ipv6Addr) (dstAddr : Ipv6Addr) (alloc : Option (ℕ × Ipv6BasicHeader))

theorem payloadIov_linkPayload (hchain : ClientChain mem iter (c :: l)) (offset : ℕ) :
    (icmpv6LinkPayload mem icmpv6HdrPtr (.client c) offset).node .payloadIov =
      ⟨(mem.node (.client c)).ptr.add offset, (mem.node (.client c)).len - offset,
        (mem.node (.client c)).next, some .hdrIov⟩ := by
  rw [icmpv6LinkPayload, node_setHdrIov, node_setPrev, if_neg, node_setNode_self]
  intro hq
  obtain ⟨m, -, hm, -⟩ := hchain.next_mem List.mem_cons_self hq
  cases hm

/-- The bytes of the elements that are linked for a payload. -/
theorem content_linkPayload (hchain : DataChain mem iter (c :: l)) :
    (icmpv6LinkPayload mem icmpv6HdrPtr (.client c) iter.offset).content
        (IovData.byte ram icmpv6Hdrs) (.hdrIov :: .payloadIov :: l.map .client) =
      (List.range icmpv6MessageHeaderSize).map (IovData.byte ram icmpv6Hdrs icmpv6HdrPtr) ++
        dataFrom mem (IovData.byte ram icmpv6Hdrs) iter (c :: l) := by
  obtain ⟨hcurr, -⟩ := hchain.seg
  obtain ⟨hclients, hhdr, -⟩ :=
    node_linkPayload icmpv6HdrPtr hchain.toClientChain hcurr iter.offset
  have hpayload := payloadIov_linkPayload icmpv6HdrPtr hchain.toClientChain iter.offset
  obtain ⟨address, hptr⟩ := hchain.inMemory c List.mem_cons_self
  have hoffset := hchain.offset_le _ hcurr
  generalize icmpv6LinkPayload mem icmpv6HdrPtr (.client c) iter.offset = mem₁ at *
  rw [IovMemory.content_cons, IovMemory.content_cons, content_of_setPrev hclients, hhdr, hpayload,
    IovNode.content_add hptr, dataFrom, List.map_cons, IovMemory.content_cons,
    List.drop_append_of_le_length (by rwa [IovNode.length_content])]
  rfl

/-- What a wrapping is for a message without a payload. -/
theorem wrap_bare :
    icmpv6WrapDataIntoOutgoingIpv6PacketCarryingIcmpMessage memorySize mem payloadIter 0
        icmpv6HdrPtr srcAddrOrNull dstAddr alloc =
      icmpv6AllocatePacket (icmpv6SetHdrIov mem icmpv6HdrPtr none) payloadIter srcAddrOrNull dstAddr
        alloc icmpv6MessageHeaderSize .hdrIov := by
  rw [icmpv6WrapDataIntoOutgoingIpv6PacketCarryingIcmpMessage]
  cases (mem.iter payloadIter).currElem <;> rfl

/-- What a wrapping is for a message with a payload. -/
theorem wrap_linked (hchain : DataChain mem iter (c :: l)) (hiter : mem.iter payloadIter = iter)
    (hsize : (c :: l).length ≤ memorySize) (hpos : 0 < payloadLen) :
    icmpv6WrapDataIntoOutgoingIpv6PacketCarryingIcmpMessage memorySize mem payloadIter payloadLen
        icmpv6HdrPtr srcAddrOrNull dstAddr alloc =
      let mem₁ := icmpv6LinkPayload mem icmpv6HdrPtr (.client c) iter.offset
      if (dataFrom mem (IovData.byte ram icmpv6Hdrs) iter (c :: l)).length < payloadLen then
        (none, icmpv6UnlinkPayload mem₁ payloadIter)
      else icmpv6AllocatePacket mem₁ payloadIter srcAddrOrNull dstAddr alloc
        (payloadLen + icmpv6MessageHeaderSize)
        ((messageIovs payloadLen (c :: l)).getLastD .hdrIov) := by
  obtain ⟨hcurr, -⟩ := hchain.seg
  have hcontent := congrArg List.length (content_linkPayload icmpv6HdrPtr ram icmpv6Hdrs hchain)
  rw [IovMemory.length_content, List.length_append, List.length_map, List.length_range] at hcontent
  rw [icmpv6WrapDataIntoOutgoingIpv6PacketCarryingIcmpMessage, hiter, hcurr]
  dsimp only
  rw [if_pos hpos, chain_linkPayload hchain.toClientChain hsize, hcontent, messageIovs,
    if_neg hpos.ne', List.tail_cons]
  congr 1
  rw [eq_iff_iff]
  omega

theorem chain_setHdrIov :
    (icmpv6SetHdrIov mem icmpv6HdrPtr none).chain (memorySize + 2) (some .hdrIov) = [.hdrIov] := by
  rw [IovMemory.chain]
  apply Seg.walk_eq
  · refine ⟨rfl, ?_⟩
    simp only [icmpv6SetHdrIov, node_setNode_self, seg_nil]
  · rw [List.length_singleton]
    omega

/-- A message is not put into a packet when there is none, or when the payload is longer than the
data; or its packet holds the header and the data. -/
theorem wrap_cases (payloadLen : ℕ) (hchain : DataChain mem iter l)
    (hiter : mem.iter payloadIter = iter) (hsize : l.length ≤ memorySize) :
    let r := icmpv6WrapDataIntoOutgoingIpv6PacketCarryingIcmpMessage memorySize mem payloadIter
      payloadLen icmpv6HdrPtr srcAddrOrNull dstAddr alloc
    let data := dataFrom mem (IovData.byte ram icmpv6Hdrs) iter l
    r.1 = none ∧ (alloc = none ∨ data.length < payloadLen) ∨
      ∃ packet, r.1 = some packet ∧ alloc ≠ none ∧ payloadLen ≤ data.length ∧
        r.2.chain (memorySize + 2) (some packet.firstPayloadIov) = messageIovs payloadLen l ∧
        packet.lastPayloadIov = (messageIovs payloadLen l).getLastD .hdrIov ∧
        r.2.content (IovData.byte ram icmpv6Hdrs) (messageIovs payloadLen l) =
          (List.range icmpv6MessageHeaderSize).map (IovData.byte ram icmpv6Hdrs icmpv6HdrPtr) ++
            if payloadLen = 0 then [] else data := by
  intro r data
  -- The last step of a wrapping, over the memory with the elements linked.
  have hlast : ∀ mem₁ : IovMemory, payloadLen ≤ data.length →
      mem₁.chain (memorySize + 2) (some .hdrIov) = messageIovs payloadLen l →
      mem₁.content (IovData.byte ram icmpv6Hdrs) (messageIovs payloadLen l) =
        (List.range icmpv6MessageHeaderSize).map (IovData.byte ram icmpv6Hdrs icmpv6HdrPtr) ++
          (if payloadLen = 0 then [] else data) →
      r = icmpv6AllocatePacket mem₁ payloadIter srcAddrOrNull dstAddr alloc
        (payloadLen + icmpv6MessageHeaderSize) ((messageIovs payloadLen l).getLastD .hdrIov) →
      r.1 = none ∧ (alloc = none ∨ data.length < payloadLen) ∨
        ∃ packet, r.1 = some packet ∧ alloc ≠ none ∧ payloadLen ≤ data.length ∧
          r.2.chain (memorySize + 2) (some packet.firstPayloadIov) = messageIovs payloadLen l ∧
          packet.lastPayloadIov = (messageIovs payloadLen l).getLastD .hdrIov ∧
          r.2.content (IovData.byte ram icmpv6Hdrs) (messageIovs payloadLen l) =
            (List.range icmpv6MessageHeaderSize).map (IovData.byte ram icmpv6Hdrs icmpv6HdrPtr) ++
              if payloadLen = 0 then [] else data := by
    intro mem₁ hle hiovs hcontent hr
    rw [hr]
    cases alloc with
    | none => exact Or.inl ⟨rfl, Or.inl rfl⟩
    | some packet => exact Or.inr ⟨_, rfl, nofun, hle, hiovs, rfl, hcontent⟩
  rcases Nat.eq_zero_or_pos payloadLen with rfl | hpos
  · refine hlast (icmpv6SetHdrIov mem icmpv6HdrPtr none) (Nat.zero_le _)
      (chain_setHdrIov _) ?_ ?_
    · rw [messageIovs, if_pos rfl, if_pos rfl, IovMemory.content_cons, icmpv6SetHdrIov,
        node_setNode_self]
      rfl
    · exact (wrap_bare _ _ _ _).trans (by rw [Nat.zero_add, messageIovs, if_pos rfl]; rfl)
  · cases l with
    | nil =>
      have hcurr : iter.currElem = none := hchain.seg
      refine Or.inl ⟨?_, Or.inr (by simpa [data, dataFrom, IovMemory.content] using hpos)⟩
      simp only [r]
      rw [icmpv6WrapDataIntoOutgoingIpv6PacketCarryingIcmpMessage, hiter, hcurr]
      dsimp only
      rw [if_pos hpos]
    | cons c l =>
      have hr := wrap_linked icmpv6HdrPtr ram icmpv6Hdrs srcAddrOrNull dstAddr alloc hchain hiter
        hsize hpos
      dsimp only at hr
      by_cases hshort : data.length < payloadLen
      · rw [if_pos hshort] at hr
        exact Or.inl ⟨congrArg Prod.fst hr, Or.inr hshort⟩
      · rw [if_neg hshort] at hr
        refine hlast _ (Nat.not_lt.mp hshort) ?_ ?_ hr
        · rw [chain_linkPayload hchain.toClientChain hsize, messageIovs, if_neg hpos.ne',
            List.tail_cons]
        · rw [messageIovs, if_neg hpos.ne', if_neg hpos.ne', List.tail_cons]
          exact content_linkPayload icmpv6HdrPtr ram icmpv6Hdrs hchain

end Message

/-! ## The round trip -/

section RoundTrip

variable {σ : Type} (allocator : Ipv6PacketAllocator σ) (s : σ) (memorySize : ℕ) (mem : IovMemory)
  (payloadIter payloadLen : ℕ) (icmpv6HdrPtr : IovData) (srcAddrOrNull : Option Ipv6Addr)
  (dstAddr : Ipv6Addr) (ram : ℕ → UInt8) (icmpv6Hdrs : ℕ → ℕ → UInt8) (l : List ℕ)

/-- The elements of the clients, the iterators and the allocated packets are as they were. -/
def Restored (mem' : IovMemory) (s' : σ) : Prop :=
  (∀ n, mem'.node (.client n) = mem.node (.client n)) ∧ mem'.iter = mem.iter ∧
    allocator.out s' = allocator.out s

/-- A message that is put into a packet is there, and is taken out again; otherwise nothing has
happened. -/
def Icmpv6RoundTrips : Prop :=
  let byte := IovData.byte ram icmpv6Hdrs
  let wrapped := icmpv6WrapDataFrom allocator s memorySize mem payloadIter payloadLen icmpv6HdrPtr
    srcAddrOrNull dstAddr
  match wrapped.1 with
  | none => Restored allocator s mem wrapped.2.1 wrapped.2.2
  | some packet =>
    let iovs := wrapped.2.1.chain (memorySize + 2) (some packet.firstPayloadIov)
    let data := dataFrom mem byte (mem.iter payloadIter) l
    let unwrapped := icmpv6UnwrapDataFrom allocator wrapped.2.2 wrapped.2.1 payloadIter payloadLen
      packet
    payloadLen ≤ data.length ∧ packet.lastPayloadIov = iovs.getLastD .hdrIov ∧
      wrapped.2.1.content byte iovs =
        (List.range icmpv6MessageHeaderSize).map (byte icmpv6HdrPtr) ++
          (if payloadLen = 0 then [] else data) ∧
      unwrapped.1 = true ∧ Restored allocator s mem unwrapped.2.1 unwrapped.2.2

/-- The length of the message fits into the header of the packet, or there is no packet: not enough
data, or none to allocate. -/
def MessageFits : Prop :=
  payloadLen + icmpv6MessageHeaderSize < 65536 ∨
    (dataFrom mem (IovData.byte ram icmpv6Hdrs) (mem.iter payloadIter) l).length < payloadLen ∨
    (allocator.alloc s).1 = none

/-- A message round trips exactly when its length fits. -/
theorem icmpv6RoundTrips_iff (hchain : DataChain mem (mem.iter payloadIter) l)
    (hsize : l.length ≤ memorySize) :
    Icmpv6RoundTrips allocator s memorySize mem payloadIter payloadLen icmpv6HdrPtr srcAddrOrNull
        dstAddr ram icmpv6Hdrs l ↔
      MessageFits allocator s mem payloadIter payloadLen ram icmpv6Hdrs l := by
  obtain ⟨hpacket, hmem, houtNone, houtSome⟩ := icmpv6WrapDataFrom_spec allocator s memorySize mem
    payloadIter payloadLen icmpv6HdrPtr srcAddrOrNull dstAddr
  obtain ⟨hiters, hothers, hsame, hborrowed⟩ := wrap_spec memorySize payloadLen icmpv6HdrPtr
    srcAddrOrNull dstAddr (allocator.alloc s).1 hchain.toClientChain rfl
  have hcases := wrap_cases icmpv6HdrPtr ram icmpv6Hdrs srcAddrOrNull dstAddr
    (allocator.alloc s).1 payloadLen hchain rfl hsize
  rw [Icmpv6RoundTrips, MessageFits]
  dsimp only at *
  generalize icmpv6WrapDataFrom allocator s memorySize mem payloadIter payloadLen icmpv6HdrPtr
    srcAddrOrNull dstAddr = wrapped at *
  generalize icmpv6WrapDataIntoOutgoingIpv6PacketCarryingIcmpMessage memorySize mem payloadIter
    payloadLen icmpv6HdrPtr srcAddrOrNull dstAddr (allocator.alloc s).1 = r at *
  have hrestored : ∀ {mem' : IovMemory}, SameNodes mem mem' l →
      (∀ n, n ∉ l → mem'.node (.client n) = mem.node (.client n)) →
      ∀ n, mem'.node (.client n) = mem.node (.client n) := by
    intro mem' hin hout n
    by_cases hn : n ∈ l
    · exact hin n hn
    · exact hout n hn
  rw [hpacket, hmem]
  rcases hcases with ⟨hnone, hwhy⟩ | ⟨packet, hsome, halloc, hlen, hiovs, hlast, hcontent⟩
  · rw [hnone]
    dsimp only
    refine iff_of_true ⟨hrestored (hsame hnone) hothers, hiters, houtNone hnone⟩ (Or.inr ?_)
    exact hwhy.symm
  · rw [hsome]
    dsimp only
    rw [hiovs]
    have hb := hborrowed packet hsome
    rw [or_iff_left (not_or.mpr ⟨Nat.not_lt.mpr hlen, halloc⟩)]
    constructor
    · rintro ⟨-, -, -, htaken, -⟩
      -- A message that was taken out has the length that its packet tells.
      by_contra hlong
      rw [icmpv6UnwrapDataFrom, icmpv6UnwrapDataFromOutgoingIpv6PacketCarryingIcmpMessage,
        if_pos] at htaken
      · cases htaken
      · have hlt := (ipv6BasicHeaderGetPayloadLength packet.header).toNat_lt
        rw [icmpv6UnwrapRefuses, if_pos (Or.inl (by omega))]
    · intro hshort
      obtain ⟨htaken, hiters', hsame', hothers'⟩ := hb.unwrap hchain.toClientChain
        (congrFun hiters payloadIter) hshort
      refine ⟨hlen, hlast, hcontent, htaken, ?_, hiters'.trans hiters, ?_⟩
      · exact hrestored hsame' fun n hn => (hothers' n hn).trans (hothers n hn)
      · rw [icmpv6UnwrapDataFrom, htaken, if_pos rfl]
        exact houtSome packet hsome

/-- Whether the message is taken out of the packet, if it is put into one. -/
def icmpv6WrapAndUnwrap : Option Bool :=
  let wrapped := icmpv6WrapDataFrom allocator s memorySize mem payloadIter payloadLen icmpv6HdrPtr
    srcAddrOrNull dstAddr
  wrapped.1.map fun packet =>
    (icmpv6UnwrapDataFrom allocator wrapped.2.2 wrapped.2.1 payloadIter payloadLen packet).1

variable {allocator s memorySize mem payloadIter payloadLen icmpv6HdrPtr srcAddrOrNull dstAddr ram
  icmpv6Hdrs l} in
theorem Icmpv6RoundTrips.taken
    (h : Icmpv6RoundTrips allocator s memorySize mem payloadIter payloadLen icmpv6HdrPtr
      srcAddrOrNull dstAddr ram icmpv6Hdrs l) :
    icmpv6WrapAndUnwrap allocator s memorySize mem payloadIter payloadLen icmpv6HdrPtr
      srcAddrOrNull dstAddr ≠ some false := by
  rw [Icmpv6RoundTrips] at h
  rw [icmpv6WrapAndUnwrap]
  dsimp only at *
  generalize icmpv6WrapDataFrom allocator s memorySize mem payloadIter payloadLen icmpv6HdrPtr
    srcAddrOrNull dstAddr = wrapped at *
  cases hpacket : wrapped.1 with
  | none => nofun
  | some packet =>
    rw [hpacket] at h
    rw [Option.map_some, h.2.2.2.1]
    nofun

end RoundTrip

/-- A client with an element of some bytes, before which its iterator stands. -/
def iovMemoryOfOne (len : ℕ) : IovMemory where
  node := fun _ => ⟨.bytes 0, len, none, none⟩
  iter := fun _ => ⟨some (.client 0), 0⟩

theorem dataChain_iovMemoryOfOne (len : ℕ) :
    DataChain (iovMemoryOfOne len) ((iovMemoryOfOne len).iter 0) [0] where
  seg := ⟨rfl, rfl⟩
  nodup := List.nodup_singleton 0
  back := nofun
  offset_le := fun _ _ => Nat.zero_le _
  inMemory := fun _ _ => ⟨0, rfl⟩

/-- A message with three bytes of payload. -/
theorem icmpv6RoundTrips_iff_three :
    Icmpv6RoundTrips ipv6PacketPoolAllocator ⟨[(1, .zero)], 0⟩ 1 (iovMemoryOfOne 3) 0 3
      (.icmpv6Hdr 0) none (Vector.replicate 16 0) (fun _ => 7) (fun _ _ => 0) [0] :=
  (icmpv6RoundTrips_iff ipv6PacketPoolAllocator ⟨[(1, .zero)], 0⟩ 1 (iovMemoryOfOne 3) 0 3
    (.icmpv6Hdr 0) none (Vector.replicate 16 0) (fun _ => 7) (fun _ _ => 0) [0]
    (dataChain_iovMemoryOfOne 3) (Nat.le_refl 1)).mpr (Or.inl (by decide))

/-- A message of 65536 bytes is put into a packet whose length is 0, and is not taken out. -/
theorem icmpv6_not_roundTrips :
    ¬∀ (σ : Type) (allocator : Ipv6PacketAllocator σ) (s : σ) (memorySize : ℕ) (mem : IovMemory)
      (payloadIter payloadLen : ℕ) (icmpv6HdrPtr : IovData) (srcAddrOrNull : Option Ipv6Addr)
      (dstAddr : Ipv6Addr) (ram : ℕ → UInt8) (icmpv6Hdrs : ℕ → ℕ → UInt8) (l : List ℕ),
      DataChain mem (mem.iter payloadIter) l → l.length ≤ memorySize →
      Icmpv6RoundTrips allocator s memorySize mem payloadIter payloadLen icmpv6HdrPtr srcAddrOrNull
        dstAddr ram icmpv6Hdrs l := by
  intro h
  refine (h Ipv6PacketPool ipv6PacketPoolAllocator ⟨[(1, .zero)], 0⟩ 1
    (iovMemoryOfOne 65532) 0 65532 (.icmpv6Hdr 0) none (Vector.replicate 16 0) (fun _ => 7)
    (fun _ _ => 0) [0] (dataChain_iovMemoryOfOne 65532) (Nat.le_refl 1)).taken ?_
  decide +kernel

end Whip6
