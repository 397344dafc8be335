import Whip6.Ipv6.Address
import Whip6.Ipv6.Packet
import Whip6.Lib.LinkedList

/-!
# ICMPv6 messages in IPv6 packets

An outgoing message is the payload of a client, a chain of vector elements in its memory.  To put it
into a packet, an element for the ICMPv6 header and one for the rest of the first element are linked
before the second element of the chain, whose link back then leads to the new element.  Taking the
message out again sets that link as it was (`Borrowed.unwrap`).
-/

namespace Whip6

open Lib

/-- Pointers to vector elements: those of the clients, and the two that go before a payload. -/
inductive IovPtr
  | client (n : ℕ)
  | hdrIov
  | payloadIov
  deriving DecidableEq

/-- What an element points to. -/
inductive IovData
  | bytes (address : ℕ)
  | icmpv6Hdr (clientId : ℕ)
  deriving DecidableEq

def IovData.add : IovData → ℕ → IovData
  | .bytes address, offset => .bytes (address + offset)
  | data, _ => data

structure IovNode where
  ptr : IovData
  len : ℕ
  next : Option IovPtr
  prev : Option IovPtr
  deriving DecidableEq

structure IovPtrIter where
  currElem : Option IovPtr
  offset : ℕ
  deriving DecidableEq

/-- The elements and the iterators in memory. -/
structure IovMemory where
  node : IovPtr → IovNode
  iter : ℕ → IovPtrIter

namespace IovMemory

variable (mem : IovMemory)

def setNode (p : IovPtr) (node : IovNode) : IovMemory :=
  { mem with node := Function.update mem.node p node }

/-- `p->prev = prev`, unless `p` is `NULL`. -/
def setPrev (p prev : Option IovPtr) : IovMemory :=
  match p with
  | none => mem
  | some p => mem.setNode p { mem.node p with prev := prev }

/-- The elements from a pointer on, at most `fuel` of them. -/
def chain (fuel : ℕ) (p : Option IovPtr) : List IovPtr := walk (fun p => (mem.node p).next) fuel p

end IovMemory

/-- An IPv6 packet that carries a message. -/
structure Icmpv6OutPacket where
  ptr : ℕ
  header : Ipv6BasicHeader
  firstPayloadIov : IovPtr
  lastPayloadIov : IovPtr

/-- `sizeof(icmpv6_message_header_t)` -/
def icmpv6MessageHeaderSize : ℕ := 4

def WHIP6_IANA_IPV6_ICMP : UInt8 := 58

def ipv6UndefinedAddr : Ipv6Addr := Vector.replicate 16 0

section Wrapping

variable (memorySize : ℕ) (mem : IovMemory) (payloadIter payloadLen : ℕ) (icmpv6HdrPtr : IovData)
  (srcAddrOrNull : Option Ipv6Addr) (dstAddr : Ipv6Addr) (alloc : Option (ℕ × Ipv6BasicHeader))

/-- The header of the packet of a message. -/
def icmpv6FillIpv6Header (ipv6Hdr : Ipv6BasicHeader) : Ipv6BasicHeader :=
  let ipv6Hdr := ipv6BasicHeaderSetVersion ipv6Hdr WHIP6_IPV6_VERSION_NUMBER
  let ipv6Hdr := ipv6BasicHeaderSetTrafficClass ipv6Hdr 0
  let ipv6Hdr := ipv6BasicHeaderSetFlowLabel ipv6Hdr 0
  let ipv6Hdr := ipv6BasicHeaderSetPayloadLength ipv6Hdr (UInt16.ofNat payloadLen)
  let ipv6Hdr := ipv6BasicHeaderSetNextHeader ipv6Hdr WHIP6_IANA_IPV6_ICMP
  let ipv6Hdr := ipv6BasicHeaderSetSrcAddr ipv6Hdr (srcAddrOrNull.getD ipv6UndefinedAddr)
  let ipv6Hdr := ipv6BasicHeaderSetDstAddr ipv6Hdr dstAddr
  if ipv6AddrGetScope dstAddr.toList ≤ IPV6_ADDRESS_SCOPE_LINK_LOCAL then
    ipv6BasicHeaderSetHopLimit ipv6Hdr 1
  else ipv6BasicHeaderSetHopLimit ipv6Hdr WHIP6_IPV6_DEFAULT_HOP_LIMIT

/-- The link back to the first element of the payload, as it was. -/
def icmpv6UnlinkPayload : IovMemory :=
  match (mem.iter payloadIter).currElem with
  | none => mem
  | some currIov => mem.setPrev (mem.node currIov).next (some currIov)

/-- The packet is allocated, `totalLen` bytes behind its header up to the element `lastIov`. -/
def icmpv6AllocatePacket (totalLen : ℕ) (lastIov : IovPtr) : Option Icmpv6OutPacket × IovMemory :=
  match alloc with
  | none => (none, icmpv6UnlinkPayload mem payloadIter)
  | some (ptr, ipv6Hdr) =>
    (some ⟨ptr, icmpv6FillIpv6Header totalLen srcAddrOrNull dstAddr ipv6Hdr, .hdrIov, lastIov⟩, mem)

/-- The header element, before it is linked. -/
def icmpv6SetHdrIov (next : Option IovPtr) : IovMemory :=
  mem.setNode .hdrIov ⟨icmpv6HdrPtr, icmpv6MessageHeaderSize, next, none⟩

/-- The header element and the element for the rest of `currIov` go before what is behind it. -/
def icmpv6LinkPayload (currIov : IovPtr) (offset : ℕ) : IovMemory :=
  let mem := icmpv6SetHdrIov mem icmpv6HdrPtr (some .payloadIov)
  let curr := mem.node currIov
  let mem := mem.setNode .payloadIov
    ⟨curr.ptr.add offset, curr.len - offset, curr.next, some .hdrIov⟩
  mem.setPrev curr.next (some .payloadIov)

def icmpv6WrapDataIntoOutgoingIpv6PacketCarryingIcmpMessage : Option Icmpv6OutPacket × IovMemory :=
  match (mem.iter payloadIter).currElem with
  | some currIov =>
    if payloadLen > 0 then
      let mem := icmpv6LinkPayload mem icmpv6HdrPtr currIov (mem.iter payloadIter).offset
      let iovs := mem.chain (memorySize + 2) (some .hdrIov)
      let maxPayload := (iovs.map fun iov => (mem.node iov).len).sum
      if maxPayload < payloadLen + icmpv6MessageHeaderSize then
        (none, icmpv6UnlinkPayload mem payloadIter)
      else
        icmpv6AllocatePacket mem payloadIter srcAddrOrNull dstAddr alloc
          (payloadLen + icmpv6MessageHeaderSize) (iovs.getLastD .hdrIov)
    else
      icmpv6AllocatePacket (icmpv6SetHdrIov mem icmpv6HdrPtr none) payloadIter srcAddrOrNull dstAddr
        alloc icmpv6MessageHeaderSize .hdrIov
  | none =>
    if payloadLen > 0 then
      (none, icmpv6SetHdrIov mem icmpv6HdrPtr (mem.node .hdrIov).next)
    else
      icmpv6AllocatePacket (icmpv6SetHdrIov mem icmpv6HdrPtr none) payloadIter srcAddrOrNull dstAddr
        alloc icmpv6MessageHeaderSize .hdrIov

/-- Whether the packet is not one that carries the message of `payloadIter`. -/
def icmpv6UnwrapRefuses (packet : Icmpv6OutPacket) : Bool :=
  let hdrIov := mem.node .hdrIov
  let payloadIov := mem.node .payloadIov
  if payloadLen + icmpv6MessageHeaderSize ≠ (ipv6BasicHeaderGetPayloadLength packet.header).toNat ∨
      ipv6BasicHeaderGetNextHeader packet.header ≠ WHIP6_IANA_IPV6_ICMP ∨
      packet.firstPayloadIov ≠ .hdrIov ∨ hdrIov.len ≠ icmpv6MessageHeaderSize then true
  else if payloadLen = 0 then (mem.node packet.firstPayloadIov).next.isSome
  else
    match (mem.iter payloadIter).currElem with
    | none => true
    | some currIov =>
      (mem.node packet.firstPayloadIov).next ≠ some .payloadIov ∨
        (mem.node currIov).next ≠ payloadIov.next

/-- The result is `true` when the message was taken out and the packet freed. -/
def icmpv6UnwrapDataFromOutgoingIpv6PacketCarryingIcmpMessage (packet : Icmpv6OutPacket) :
    Bool × IovMemory :=
  if icmpv6UnwrapRefuses mem payloadIter payloadLen packet then (false, mem)
  else
    let mem := mem.setNode .hdrIov { mem.node .hdrIov with next := none, prev := none }
    let mem := mem.setNode .payloadIov { mem.node .payloadIov with next := none, prev := none }
    (true, icmpv6UnlinkPayload mem payloadIter)

end Wrapping

/-! ## Taking out what was put in -/

/-- The chain of an iterator: its elements are the client's, and each one that is linked behind
another leads back to it. -/
structure ClientChain (mem : IovMemory) (iter : IovPtrIter) (l : List ℕ) : Prop where
  seg : Seg (fun p => (mem.node p).next) iter.currElem (l.map .client) none
  nodup : l.Nodup
  back : ∀ n ∈ l, ∀ q, (mem.node (.client n)).next = some q → (mem.node q).prev = some (.client n)

/-- The elements of a list are as they were. -/
def SameNodes (mem mem' : IovMemory) (l : List ℕ) : Prop :=
  ∀ n ∈ l, mem'.node (.client n) = mem.node (.client n)

/-- The element behind the first one of a chain. -/
def secondIov (mem : IovMemory) (iter : IovPtrIter) : Option IovPtr :=
  iter.currElem.bind fun currIov => (mem.node currIov).next

/-- A memory in which a message is in a packet, as against the memory before. -/
structure Borrowed (mem mem' : IovMemory) (iter : IovPtrIter) (payloadLen : ℕ) (l : List ℕ)
    (packet : Icmpv6OutPacket) : Prop where
  node : ∀ n ∈ l, mem'.node (.client n) =
    if 0 < payloadLen ∧ secondIov mem iter = some (.client n) then
      { mem.node (.client n) with prev := some .payloadIov }
    else mem.node (.client n)
  hdrIov : (mem'.node .hdrIov).len = icmpv6MessageHeaderSize ∧
    (mem'.node .hdrIov).next = if payloadLen = 0 then none else some .payloadIov
  payloadIov : 0 < payloadLen → iter.currElem ≠ none ∧
    (mem'.node .payloadIov).next = secondIov mem iter
  firstPayloadIov : packet.firstPayloadIov = .hdrIov
  payloadLength : (ipv6BasicHeaderGetPayloadLength packet.header) =
    UInt16.ofNat (payloadLen + icmpv6MessageHeaderSize)
  nextHeader : ipv6BasicHeaderGetNextHeader packet.header = WHIP6_IANA_IPV6_ICMP

section Memory

variable {mem mem' : IovMemory} {iter : IovPtrIter} {l : List ℕ} {p q : IovPtr} {node : IovNode}

@[simp] theorem node_setNode_self : (mem.setNode p node).node p = node := by
  rw [IovMemory.setNode]
  exact Function.update_self ..

theorem node_setNode_of_ne (h : q ≠ p) : (mem.setNode p node).node q = mem.node q := by
  rw [IovMemory.setNode]
  exact Function.update_of_ne h ..

@[simp] theorem iter_setNode : (mem.setNode p node).iter = mem.iter := rfl

@[simp] theorem iter_setPrev (p prev : Option IovPtr) : (mem.setPrev p prev).iter = mem.iter := by
  cases p <;> rfl

/-- Setting a link back changes nothing else. -/
theorem node_setPrev (r prev : Option IovPtr) (q : IovPtr) : (mem.setPrev r prev).node q =
    if r = some q then { mem.node q with prev := prev } else mem.node q := by
  cases r with
  | none => rw [IovMemory.setPrev, if_neg (by simp)]
  | some p =>
    rw [IovMemory.setPrev]
    by_cases hq : q = p
    · subst hq
      rw [node_setNode_self, if_pos rfl]
    · rw [node_setNode_of_ne hq, if_neg (by simpa using Ne.symm hq)]

theorem SameNodes.trans {mem'' : IovMemory} (h : SameNodes mem mem' l) (h' : SameNodes mem' mem'' l) :
    SameNodes mem mem'' l := fun n hn => (h' n hn).trans (h n hn)

/-- The links of a chain stay within it. -/
theorem ClientChain.next_mem (h : ClientChain mem iter l) {n : ℕ} (hn : n ∈ l)
    (hq : (mem.node (.client n)).next = some q) : ∃ m ∈ l, q = .client m ∧ m ≠ n := by
  obtain ⟨l₁, l₂, rfl⟩ := List.append_of_mem hn
  have hseg := h.seg
  rw [List.map_append, List.map_cons] at hseg
  have hbehind := hseg.behind
  rw [hq] at hbehind
  cases l₂ with
  | nil => cases hbehind
  | cons m l₂ =>
    obtain ⟨hm, -⟩ := hbehind
    refine ⟨m, by simp, Option.some.inj hm, ?_⟩
    rintro rfl
    have hnodup := h.nodup
    rw [List.nodup_append, List.nodup_cons] at hnodup
    exact hnodup.2.1.1 List.mem_cons_self

theorem ClientChain.head (h : ClientChain mem iter l) (hp : iter.currElem = some p) :
    ∃ n ∈ l, p = .client n := by
  have hhead := h.seg.eq_head?
  rw [hp] at hhead
  cases l with
  | nil => cases hhead
  | cons n l => exact ⟨n, List.mem_cons_self, Option.some.inj hhead⟩

/-- A chain depends on its elements alone. -/
theorem ClientChain.congr (h : ClientChain mem iter l) (hsame : SameNodes mem mem' l) :
    ClientChain mem' iter l where
  seg := by
    apply h.seg.congr
    intro p hp
    obtain ⟨n, hn, rfl⟩ := List.mem_map.mp hp
    rw [hsame n hn]
  nodup := h.nodup
  back n hn q hq := by
    rw [hsame n hn] at hq
    obtain ⟨m, hm, rfl, -⟩ := h.next_mem hn hq
    rw [hsame m hm]
    exact h.back n hn _ hq

theorem secondIov_congr (h : ClientChain mem iter l) (hsame : SameNodes mem mem' l) :
    secondIov mem' iter = secondIov mem iter := by
  rw [secondIov, secondIov]
  rcases hcurr : iter.currElem with _ | p
  · rfl
  · obtain ⟨n, hn, rfl⟩ := h.head hcurr
    rw [Option.bind_some, Option.bind_some, hsame n hn]

theorem Borrowed.of_same {mem₀ : IovMemory} {payloadLen : ℕ} {packet : Icmpv6OutPacket}
    (h : ClientChain mem₀ iter l) (hsame : SameNodes mem₀ mem l)
    (hborrowed : Borrowed mem mem' iter payloadLen l packet) :
    Borrowed mem₀ mem' iter payloadLen l packet where
  node n hn := by
    rw [hborrowed.node n hn, secondIov_congr h hsame, hsame n hn]
  hdrIov := hborrowed.hdrIov
  payloadIov hpos := by
    rw [← secondIov_congr h hsame]
    exact hborrowed.payloadIov hpos
  firstPayloadIov := hborrowed.firstPayloadIov
  payloadLength := hborrowed.payloadLength
  nextHeader := hborrowed.nextHeader

/-- The layers below change the header of the packet. -/
theorem Borrowed.setHeader {payloadLen : ℕ}
    {packet : Icmpv6OutPacket} {header : Ipv6BasicHeader}
    (h : Borrowed mem mem' iter payloadLen l packet)
    (hlen : ipv6BasicHeaderGetPayloadLength header = ipv6BasicHeaderGetPayloadLength packet.header)
    (hnext : ipv6BasicHeaderGetNextHeader header = ipv6BasicHeaderGetNextHeader packet.header) :
    Borrowed mem mem' iter payloadLen l { packet with header := header } :=
  ⟨h.node, h.hdrIov, h.payloadIov, h.firstPayloadIov, hlen.trans h.payloadLength,
    hnext.trans h.nextHeader⟩

end Memory

section Wrapping

variable {mem mem' : IovMemory} {payloadIter payloadLen memorySize : ℕ} {l : List ℕ}
  {icmpv6HdrPtr : IovData} {srcAddrOrNull : Option Ipv6Addr} {dstAddr : Ipv6Addr}
  {alloc : Option (ℕ × Ipv6BasicHeader)} {packet : Icmpv6OutPacket}

theorem getPayloadLength_fill (totalLen : ℕ) (hdr : Ipv6BasicHeader) :
    ipv6BasicHeaderGetPayloadLength (icmpv6FillIpv6Header totalLen srcAddrOrNull dstAddr hdr) =
      UInt16.ofNat totalLen := by
  rw [icmpv6FillIpv6Header]
  simp only [ipv6BasicHeaderSetHopLimit, ipv6BasicHeaderSetDstAddr, ipv6BasicHeaderSetSrcAddr,
    ipv6BasicHeaderSetNextHeader]
  split
  · rw [getPayloadLength_overwrite _ _ (by omega), getPayloadLength_overwrite _ _ (by omega),
      getPayloadLength_overwrite _ _ (by omega), getPayloadLength_overwrite _ _ (by omega),
      getPayloadLength_setPayloadLength]
  · rw [getPayloadLength_overwrite _ _ (by omega), getPayloadLength_overwrite _ _ (by omega),
      getPayloadLength_overwrite _ _ (by omega), getPayloadLength_overwrite _ _ (by omega),
      getPayloadLength_setPayloadLength]

theorem getNextHeader_fill (totalLen : ℕ) (hdr : Ipv6BasicHeader) :
    ipv6BasicHeaderGetNextHeader (icmpv6FillIpv6Header totalLen srcAddrOrNull dstAddr hdr) =
      WHIP6_IANA_IPV6_ICMP := by
  have hnext : ∀ hdr : Ipv6BasicHeader, ipv6BasicHeaderGetNextHeader
      (ipv6BasicHeaderSetNextHeader hdr WHIP6_IANA_IPV6_ICMP) = WHIP6_IANA_IPV6_ICMP := by
    intro hdr
    rw [ipv6BasicHeaderGetNextHeader, ipv6BasicHeaderSetNextHeader,
      Ipv6BasicHeader.byte_overwrite_of_inside _ (Nat.le_refl 6) (by simp) (by omega)]
    rfl
  have hbehind : ∀ (hdr : Ipv6BasicHeader) (o : ℕ) (ys : List UInt8), 7 ≤ o →
      ipv6BasicHeaderGetNextHeader (hdr.overwrite o ys) = ipv6BasicHeaderGetNextHeader hdr := by
    intro hdr o ys ho
    exact Ipv6BasicHeader.byte_overwrite_of_outside _ (Or.inl (by omega))
  rw [icmpv6FillIpv6Header]
  split
  · rw [ipv6BasicHeaderSetHopLimit, hbehind _ _ _ (by omega), ipv6BasicHeaderSetDstAddr,
      hbehind _ _ _ (by omega), ipv6BasicHeaderSetSrcAddr, hbehind _ _ _ (by omega), hnext]
  · rw [ipv6BasicHeaderSetHopLimit, hbehind _ _ _ (by omega), ipv6BasicHeaderSetDstAddr,
      hbehind _ _ _ (by omega), ipv6BasicHeaderSetSrcAddr, hbehind _ _ _ (by omega), hnext]

theorem node_setHdrIov (next : Option IovPtr) (n : ℕ) :
    (icmpv6SetHdrIov mem icmpv6HdrPtr next).node (.client n) = mem.node (.client n) :=
  node_setNode_of_ne IovPtr.noConfusion

/-- The memory once a payload is linked behind the header. -/
theorem node_linkPayload (icmpv6HdrPtr : IovData) {iter : IovPtrIter} {currIov : IovPtr}
    (hchain : ClientChain mem iter l)
    (hcurr : iter.currElem = some currIov) (offset : ℕ) :
    let mem' := icmpv6LinkPayload mem icmpv6HdrPtr currIov offset
    (∀ n, mem'.node (.client n) = if secondIov mem iter = some (.client n) then
      { mem.node (.client n) with prev := some .payloadIov } else mem.node (.client n)) ∧
    mem'.node .hdrIov = ⟨icmpv6HdrPtr, icmpv6MessageHeaderSize, some .payloadIov, none⟩ ∧
    (mem'.node .payloadIov).next = secondIov mem iter ∧ mem'.iter = mem.iter := by
  obtain ⟨c, hc, rfl⟩ := hchain.head hcurr
  have hsecond : secondIov mem iter = (mem.node (.client c)).next := by
    rw [secondIov, hcurr, Option.bind_some]
  have hmodule : ∀ q, secondIov mem iter = some q → ∃ m, q = .client m := by
    intro q hq
    rw [hsecond] at hq
    obtain ⟨m, -, rfl, -⟩ := hchain.next_mem hc hq
    exact ⟨m, rfl⟩
  rw [icmpv6LinkPayload]
  dsimp only
  rw [node_setHdrIov, ← hsecond]
  refine ⟨fun n => ?_, ?_, ?_, ?_⟩
  · rw [node_setPrev, node_setNode_of_ne IovPtr.noConfusion, node_setHdrIov]
  · rw [node_setPrev, if_neg, node_setNode_of_ne IovPtr.noConfusion, icmpv6SetHdrIov,
      node_setNode_self]
    intro hq
    obtain ⟨m, hm⟩ := hmodule _ hq
    cases hm
  · rw [node_setPrev, if_neg, node_setNode_self]
    intro hq
    obtain ⟨m, hm⟩ := hmodule _ hq
    cases hm
  · rw [iter_setPrev]
    rfl

/-- The loop over the linked payload reaches its end, where the memory has room for the chain. -/
theorem chain_linkPayload {iter : IovPtrIter} {c : ℕ} (hchain : ClientChain mem iter (c :: l))
    (hsize : (c :: l).length ≤ memorySize) (offset : ℕ) :
    (icmpv6LinkPayload mem icmpv6HdrPtr (.client c) offset).chain (memorySize + 2) (some .hdrIov) =
      .hdrIov :: .payloadIov :: l.map .client := by
  obtain ⟨hcurr, hseg⟩ := hchain.seg
  obtain ⟨hclients, hhdr, hpayload, -⟩ :=
    node_linkPayload icmpv6HdrPtr hchain hcurr offset
  rw [IovMemory.chain]
  apply Seg.walk_eq
  · refine ⟨rfl, congrArg IovNode.next hhdr, ?_⟩
    dsimp only
    rw [hpayload, secondIov, hcurr, Option.bind_some]
    apply hseg.congr
    intro p hp
    obtain ⟨n, -, rfl⟩ := List.mem_map.mp hp
    rw [hclients n]
    split <;> rfl
  · rw [List.length_cons] at hsize
    rw [List.length_cons, List.length_cons, List.length_map]
    omega

/-- The first link back is set as it was. -/
theorem node_unlinkPayload {iter : IovPtrIter} (hchain : ClientChain mem iter l)
    (hiter : mem'.iter payloadIter = iter)
    (hnode : ∀ n ∈ l, mem'.node (.client n) = mem.node (.client n) ∨
      secondIov mem iter = some (.client n) ∧
        mem'.node (.client n) = { mem.node (.client n) with prev := some .payloadIov }) :
    SameNodes mem (icmpv6UnlinkPayload mem' payloadIter) l ∧
      (∀ n, n ∉ l → (icmpv6UnlinkPayload mem' payloadIter).node (.client n) =
        mem'.node (.client n)) ∧
      (icmpv6UnlinkPayload mem' payloadIter).iter = mem'.iter := by
  rw [icmpv6UnlinkPayload, hiter]
  rcases hcurr : iter.currElem with _ | currIov
  · refine ⟨fun n hn => ?_, fun _ _ => rfl, rfl⟩
    refine (hnode n hn).resolve_right fun hsecond => ?_
    rw [secondIov, hcurr] at hsecond
    cases hsecond.1
  · obtain ⟨c, hc, rfl⟩ := hchain.head hcurr
    have hsecond : secondIov mem iter = (mem.node (.client c)).next := by
      rw [secondIov, hcurr, Option.bind_some]
    have hnext : (mem'.node (.client c)).next = secondIov mem iter := by
      rcases hnode c hc with hsame | ⟨-, hprev⟩
      · rw [hsame, hsecond]
      · rw [hprev, hsecond]
    dsimp only
    rw [hnext]
    refine ⟨fun n hn => ?_, fun n hn => ?_, iter_setPrev _ _⟩
    · rw [node_setPrev]
      split
      next heq =>
        have hback := hchain.back c hc (.client n) (hsecond.symm.trans heq)
        rcases hnode n hn with hsame | ⟨-, hprev⟩
        · rw [hsame, ← hback]
        · rw [hprev, ← hback]
      next hne => exact (hnode n hn).resolve_right fun hprev => hne hprev.1
    · rw [node_setPrev, if_neg]
      intro hq
      rw [hsecond] at hq
      obtain ⟨m, hm, hnm, -⟩ := hchain.next_mem hc hq
      obtain rfl := IovPtr.client.inj hnm
      exact hn hm

/-- What it takes for a packet to be allocated, or not, once a payload is linked. -/
theorem allocatePacket_spec {mem₁ : IovMemory} {iter : IovPtrIter} {lastIov : IovPtr}
    (hchain : ClientChain mem iter l) (hiter : mem₁.iter payloadIter = iter)
    (hnode : ∀ n ∈ l, mem₁.node (.client n) =
      if 0 < payloadLen ∧ secondIov mem iter = some (.client n) then
        { mem.node (.client n) with prev := some .payloadIov }
      else mem.node (.client n))
    (hother : ∀ n, n ∉ l → mem₁.node (.client n) = mem.node (.client n))
    (hhdr : (mem₁.node .hdrIov).len = icmpv6MessageHeaderSize ∧
      (mem₁.node .hdrIov).next = if payloadLen = 0 then none else some .payloadIov)
    (hpayload : 0 < payloadLen → iter.currElem ≠ none ∧
      (mem₁.node .payloadIov).next = secondIov mem iter) :
    let r := icmpv6AllocatePacket mem₁ payloadIter srcAddrOrNull dstAddr alloc
      (payloadLen + icmpv6MessageHeaderSize) lastIov
    r.2.iter = mem₁.iter ∧ (∀ n, n ∉ l → r.2.node (.client n) = mem.node (.client n)) ∧
      (r.1 = none → SameNodes mem r.2 l) ∧
      ∀ packet, r.1 = some packet → Borrowed mem r.2 iter payloadLen l packet := by
  rcases alloc with _ | ⟨ptr, ipv6Hdr⟩
  · have hweak : ∀ n ∈ l, mem₁.node (.client n) = mem.node (.client n) ∨
        secondIov mem iter = some (.client n) ∧
          mem₁.node (.client n) = { mem.node (.client n) with prev := some .payloadIov } := by
      intro n hn
      rw [hnode n hn]
      split
      next hsecond => exact Or.inr ⟨hsecond.2, rfl⟩
      · exact Or.inl rfl
    obtain ⟨hsame, hothers, hiters⟩ := node_unlinkPayload hchain hiter hweak
    refine ⟨hiters, fun n hn => (hothers n hn).trans (hother n hn), fun _ => hsame,
      fun packet hpacket => ?_⟩
    cases hpacket
  · refine ⟨rfl, hother, (fun hnone => by cases hnone), fun packet hpacket => ?_⟩
    obtain rfl := Option.some.inj hpacket
    exact ⟨hnode, hhdr, hpayload, rfl, getPayloadLength_fill _ _, getNextHeader_fill _ _⟩

/-- A message is put into a packet, or its chain is left as it was. -/
theorem wrap_spec {iter : IovPtrIter} (memorySize payloadLen : ℕ) (icmpv6HdrPtr : IovData)
    (srcAddrOrNull : Option Ipv6Addr) (dstAddr : Ipv6Addr) (alloc : Option (ℕ × Ipv6BasicHeader))
    (hchain : ClientChain mem iter l) (hiter : mem.iter payloadIter = iter) :
    let r := icmpv6WrapDataIntoOutgoingIpv6PacketCarryingIcmpMessage memorySize mem payloadIter
      payloadLen icmpv6HdrPtr srcAddrOrNull dstAddr alloc
    r.2.iter = mem.iter ∧ (∀ n, n ∉ l → r.2.node (.client n) = mem.node (.client n)) ∧
      (r.1 = none → SameNodes mem r.2 l) ∧
      ∀ packet, r.1 = some packet → Borrowed mem r.2 iter payloadLen l packet := by
  intro r
  have hbare : payloadLen = 0 → r = icmpv6AllocatePacket (icmpv6SetHdrIov mem icmpv6HdrPtr none)
      payloadIter srcAddrOrNull dstAddr alloc (payloadLen + icmpv6MessageHeaderSize) .hdrIov →
      r.2.iter = mem.iter ∧ (∀ n, n ∉ l → r.2.node (.client n) = mem.node (.client n)) ∧
        (r.1 = none → SameNodes mem r.2 l) ∧
        ∀ packet, r.1 = some packet → Borrowed mem r.2 iter payloadLen l packet := by
    intro hzero hr
    have hiter' : (icmpv6SetHdrIov mem icmpv6HdrPtr none).iter payloadIter = iter := hiter
    rw [hr]
    refine allocatePacket_spec hchain hiter' ?_ ?_ ?_ ?_
    · intro n hn
      rw [if_neg (fun hpos => absurd hzero hpos.1.ne'), node_setHdrIov]
    · intro n _
      exact node_setHdrIov _ n
    · rw [icmpv6SetHdrIov, node_setNode_self, if_pos hzero]
      exact ⟨rfl, rfl⟩
    · intro hpos
      exact absurd hzero hpos.ne'
  rcases hcurr : iter.currElem with _ | currIov
  · have hr : r = if payloadLen > 0 then
        (none, icmpv6SetHdrIov mem icmpv6HdrPtr (mem.node .hdrIov).next)
      else icmpv6AllocatePacket (icmpv6SetHdrIov mem icmpv6HdrPtr none) payloadIter srcAddrOrNull
        dstAddr alloc icmpv6MessageHeaderSize .hdrIov := by
      show icmpv6WrapDataIntoOutgoingIpv6PacketCarryingIcmpMessage _ _ _ _ _ _ _ _ = _
      rw [icmpv6WrapDataIntoOutgoingIpv6PacketCarryingIcmpMessage, hiter, hcurr]
    rcases Nat.eq_zero_or_pos payloadLen with hzero | hpos
    · apply hbare hzero
      rw [hr, if_neg (by omega), hzero, Nat.zero_add]
    · rw [hr, if_pos hpos]
      refine ⟨rfl, fun n _ => node_setHdrIov _ n, fun _ n _ => node_setHdrIov _ n,
        fun packet hpacket => ?_⟩
      cases hpacket
  · have hr : r = if payloadLen > 0 then
        let mem := icmpv6LinkPayload mem icmpv6HdrPtr currIov iter.offset
        let iovs := mem.chain (memorySize + 2) (some .hdrIov)
        if (iovs.map fun iov => (mem.node iov).len).sum < payloadLen + icmpv6MessageHeaderSize then
          (none, icmpv6UnlinkPayload mem payloadIter)
        else
          icmpv6AllocatePacket mem payloadIter srcAddrOrNull dstAddr alloc
            (payloadLen + icmpv6MessageHeaderSize) (iovs.getLastD .hdrIov)
      else icmpv6AllocatePacket (icmpv6SetHdrIov mem icmpv6HdrPtr none) payloadIter srcAddrOrNull
        dstAddr alloc icmpv6MessageHeaderSize .hdrIov := by
      show icmpv6WrapDataIntoOutgoingIpv6PacketCarryingIcmpMessage _ _ _ _ _ _ _ _ = _
      rw [icmpv6WrapDataIntoOutgoingIpv6PacketCarryingIcmpMessage, hiter, hcurr]
    rcases Nat.eq_zero_or_pos payloadLen with hzero | hpos
    · apply hbare hzero
      rw [hr, if_neg (by omega), hzero, Nat.zero_add]
    · obtain ⟨hclients, hhdr, hpayload, hiters⟩ :=
        node_linkPayload icmpv6HdrPtr hchain hcurr iter.offset
      rw [if_pos hpos] at hr
      dsimp only at hr
      generalize icmpv6LinkPayload mem icmpv6HdrPtr currIov iter.offset = mem₁
        at hr hclients hhdr hpayload hiters
      have hiter₁ : mem₁.iter payloadIter = iter := by rw [hiters, hiter]
      have hothers : ∀ n, n ∉ l → mem₁.node (.client n) = mem.node (.client n) := by
        intro n hn
        rw [hclients n, if_neg]
        intro hq
        obtain ⟨c, hc, rfl⟩ := hchain.head hcurr
        rw [secondIov, hcurr, Option.bind_some] at hq
        obtain ⟨m, hm, hnm, -⟩ := hchain.next_mem hc hq
        obtain rfl := IovPtr.client.inj hnm
        exact hn hm
      rw [hr, ← hiters]
      split
      · have hweak : ∀ n ∈ l, mem₁.node (.client n) = mem.node (.client n) ∨
            secondIov mem iter = some (.client n) ∧
              mem₁.node (.client n) = { mem.node (.client n) with prev := some .payloadIov } := by
          intro n _
          rw [hclients n]
          split
          next hsecond => exact Or.inr ⟨hsecond, rfl⟩
          · exact Or.inl rfl
        obtain ⟨hsame, hrest, hiters'⟩ := node_unlinkPayload hchain hiter₁ hweak
        refine ⟨hiters', fun n hn => (hrest n hn).trans (hothers n hn), fun _ => hsame,
          fun packet hpacket => ?_⟩
        cases hpacket
      · refine allocatePacket_spec hchain hiter₁ ?_ ?_ ?_ ?_
        · intro n _
          rw [hclients n]
          simp only [hpos, true_and]
        · exact hothers
        · rw [hhdr, if_neg hpos.ne']
          exact ⟨rfl, rfl⟩
        · intro _
          rw [hcurr]
          exact ⟨Option.some_ne_none _, hpayload⟩

/-- The message is taken out of its packet, when the length of its packet fits into 16 bits, and its
chain is as it was. -/
theorem Borrowed.unwrap {iter : IovPtrIter} (h : Borrowed mem mem' iter payloadLen l packet)
    (hchain : ClientChain mem iter l) (hiter : mem'.iter payloadIter = iter)
    (hshort : payloadLen + icmpv6MessageHeaderSize < 65536) :
    let r := icmpv6UnwrapDataFromOutgoingIpv6PacketCarryingIcmpMessage mem' payloadIter payloadLen
      packet
    r.1 = true ∧ r.2.iter = mem'.iter ∧ SameNodes mem r.2 l ∧
      ∀ n, n ∉ l → r.2.node (.client n) = mem'.node (.client n) := by
  have hlength : payloadLen + icmpv6MessageHeaderSize =
      (ipv6BasicHeaderGetPayloadLength packet.header).toNat := by
    rw [h.payloadLength, UInt16.toNat_ofNat_of_lt' hshort]
  have hkeeps : icmpv6UnwrapRefuses mem' payloadIter payloadLen packet = false := by
    rw [icmpv6UnwrapRefuses, if_neg]
    · split
      next hzero =>
        rw [h.firstPayloadIov, h.hdrIov.2, if_pos hzero]
        rfl
      next hpos =>
        obtain ⟨hcurr, hnext⟩ := h.payloadIov (Nat.pos_of_ne_zero hpos)
        obtain ⟨currIov, hcurr⟩ := Option.ne_none_iff_exists'.mp hcurr
        rw [hiter, hcurr]
        obtain ⟨c, hc, rfl⟩ := hchain.head hcurr
        have hsame : (mem'.node (.client c)).next = secondIov mem iter := by
          rw [secondIov, hcurr, Option.bind_some, h.node c hc]
          split <;> rfl
        simp [h.firstPayloadIov, h.hdrIov.2, if_neg hpos, hnext, hsame]
    · simp only [not_or, not_not, ne_eq]
      exact ⟨hlength, h.nextHeader, h.firstPayloadIov, h.hdrIov.1⟩
  rw [icmpv6UnwrapDataFromOutgoingIpv6PacketCarryingIcmpMessage, hkeeps]
  rw [if_neg Bool.false_ne_true]
  dsimp only
  generalize hmem₁ : (mem'.setNode .hdrIov
    { mem'.node .hdrIov with next := none, prev := none }) = mem₁
  have hclients : ∀ n, ((mem₁.setNode .payloadIov { mem₁.node .payloadIov with
      next := none, prev := none }).node (.client n)) = mem'.node (.client n) := by
    intro n
    rw [node_setNode_of_ne IovPtr.noConfusion, ← hmem₁, node_setNode_of_ne IovPtr.noConfusion]
  have hiters : (mem₁.setNode .payloadIov { mem₁.node .payloadIov with
      next := none, prev := none }).iter = mem'.iter := by
    rw [iter_setNode, ← hmem₁, iter_setNode]
  generalize (mem₁.setNode .payloadIov { mem₁.node .payloadIov with
      next := none, prev := none }) = mem₂ at hclients hiters
  have hweak : ∀ n ∈ l, mem₂.node (.client n) = mem.node (.client n) ∨
      secondIov mem iter = some (.client n) ∧
        mem₂.node (.client n) = { mem.node (.client n) with prev := some .payloadIov } := by
    intro n hn
    rw [hclients n, h.node n hn]
    split
    next hsecond => exact Or.inr ⟨hsecond.2, rfl⟩
    · exact Or.inl rfl
  have hiter₂ : mem₂.iter payloadIter = iter := by rw [hiters, hiter]
  obtain ⟨hsame, hrest, hiters'⟩ := node_unlinkPayload hchain hiter₂ hweak
  exact ⟨rfl, hiters'.trans hiters, hsame, fun n hn => (hrest n hn).trans (hclients n)⟩

end Wrapping

end Whip6
