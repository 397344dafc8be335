import Whip6.Base.Queue
import Whip6.Icmpv6.MessageRoundTrip
import Whip6.Udp.Header

/-!
# Wrapping and unwrapping UDP datagrams

A raw socket sends the payload of its client, a chain of vector elements in its memory: the element
of the socket for the UDP header is linked before the first element of the chain, whose link back
then leads to the header.  However the lower layers end the transmission, or refuse it, the payload
is taken out again and the packet is freed; a payload that is refused beforehand is left alone
(`udpStartSending_roundTrip`).
-/

namespace Whip6

open Lib

/-! ## The memory -/

/-- The elements of the clients and of the socket, and the bytes that elements point to. -/
structure UdpMemory where
  iov : IovMemory
  ram : ℕ → UInt8

/-- Write bytes to the data of an element. -/
def UdpMemory.write (mem : UdpMemory) (ptr : IovData) (bytes : List UInt8) : UdpMemory :=
  match ptr with
  | .bytes address => { mem with
      ram := fun i => if address ≤ i then bytes.getD (i - address) (mem.ram i) else mem.ram i }
  | .icmpv6Hdr _ => mem

/-- `sizeof(udp_header_t)` -/
def udpHeaderSize : ℕ := 8

def MAX_UDP_PAYLOAD : ℕ := WHIP6_IPV6_MIN_MTU - udpHeaderSize

/-- A packet whose payload is a chain of elements. -/
abbrev Ipv6OutPacket := Icmpv6OutPacket

def IovMemory.totalLength (mem : IovMemory) (iovs : List IovPtr) : ℕ :=
  (iovs.map fun iov => (mem.node iov).len).sum

/-! ## Wrapping and unwrapping -/

section Wrapping

variable {σ : Type} (allocator : Ipv6PacketAllocator σ) (s : σ) (memorySize : ℕ) (mem : UdpMemory)

def udpFillIpv6Header (payloadLen : ℕ) (srcSockAddr dstSockAddr : UdpSocketAddr)
    (ipv6Hdr : Ipv6BasicHeader) : Ipv6BasicHeader :=
  let ipv6Hdr := ipv6BasicHeaderSetVersion ipv6Hdr WHIP6_IPV6_VERSION_NUMBER
  let ipv6Hdr := ipv6BasicHeaderSetTrafficClass ipv6Hdr 0
  let ipv6Hdr := ipv6BasicHeaderSetFlowLabel ipv6Hdr 0
  let ipv6Hdr := ipv6BasicHeaderSetPayloadLength ipv6Hdr (UInt16.ofNat payloadLen)
  let ipv6Hdr := ipv6BasicHeaderSetNextHeader ipv6Hdr WHIP6_IANA_IPV6_UDP
  let ipv6Hdr := ipv6BasicHeaderSetHopLimit ipv6Hdr WHIP6_IPV6_DEFAULT_HOP_LIMIT
  let ipv6Hdr := ipv6BasicHeaderSetSrcAddr ipv6Hdr srcSockAddr.ipv6Addr
  ipv6BasicHeaderSetDstAddr ipv6Hdr dstSockAddr.ipv6Addr

/-- The header goes before the payload, and is filled in. -/
def udpLinkPayload (payloadIov : Option IovPtr) (payloadLen : ℕ)
    (srcSockAddr dstSockAddr : UdpSocketAddr) : UdpMemory :=
  let iov := mem.iov.setPrev payloadIov (some .hdrIov)
  let udpHdrIov := iov.node .hdrIov
  let iov := iov.setNode .hdrIov { udpHdrIov with next := payloadIov, prev := none }
  { mem with iov := iov }.write udpHdrIov.ptr
    (networkBytes srcSockAddr.udpPortNo ++ networkBytes dstSockAddr.udpPortNo ++
      networkBytes (UInt16.ofNat payloadLen) ++ networkBytes 0)

def udpWrapDataIntoOutgoingIpv6Packet (payloadIov : Option IovPtr) (payloadLen : ℕ)
    (srcSockAddr dstSockAddr : UdpSocketAddr) : Option Ipv6OutPacket × UdpMemory × σ :=
  if (mem.iov.node .hdrIov).len ≠ udpHeaderSize then (none, mem, s)
  else
    let iovs := mem.iov.chain memorySize payloadIov
    if mem.iov.totalLength iovs < payloadLen then (none, mem, s)
    else
      match allocator.alloc s with
      | (none, s) => (none, mem, s)
      | (some (ptr, ipv6Hdr), s) =>
        let wrap (lastPayloadIov : IovPtr) : Option Ipv6OutPacket × UdpMemory × σ :=
          let payloadLen := payloadLen + udpHeaderSize
          (some ⟨ptr, udpFillIpv6Header payloadLen srcSockAddr dstSockAddr ipv6Hdr, .hdrIov,
              lastPayloadIov⟩,
            udpLinkPayload mem payloadIov payloadLen srcSockAddr dstSockAddr, s)
        match payloadIov with
        | none => wrap .hdrIov
        | some iov =>
          if (mem.iov.node iov).prev ≠ none then (none, mem, allocator.free ptr s)
          else wrap (iovs.getLastD .hdrIov)

/-- The result is the payload with its length; there is none when the packet is not one with a
datagram of the socket. -/
def udpUnwrapDataFromOutgoingIpv6Packet (packet : Ipv6OutPacket) :
    Option (Option IovPtr × ℕ) × UdpMemory × σ :=
  let payloadLen := (ipv6BasicHeaderGetPayloadLength packet.header).toNat
  let udpHdrIov := mem.iov.node .hdrIov
  if payloadLen < udpHeaderSize ∨
      ipv6BasicHeaderGetNextHeader packet.header ≠ WHIP6_IANA_IPV6_UDP ∨
      packet.firstPayloadIov ≠ .hdrIov ∨ udpHdrIov.len ≠ udpHeaderSize then (none, mem, s)
  else
    let payloadLen := payloadLen - udpHeaderSize
    let payloadIov := udpHdrIov.next
    if mem.iov.totalLength (mem.iov.chain memorySize payloadIov) < payloadLen then (none, mem, s)
    else
      let iov := match payloadIov with
        | none => mem.iov
        | some _ =>
          let iov := mem.iov.setPrev payloadIov none
          iov.setNode .hdrIov { iov.node .hdrIov with next := none }
      (some (payloadIov, payloadLen), { mem with iov := iov }, allocator.free packet.ptr s)

end Wrapping

/-! ## The socket -/

/-- A socket, with the packet that it is sending. -/
structure UdpRawSocket where
  localAddr : UdpSocketAddr
  remoteAddr : UdpSocketAddr
  packet : Option Ipv6OutPacket
  /-- Where the bytes of the header of the socket are. -/
  udpHeader : ℕ

def UdpRawSocket.isBound (socket : UdpRawSocket) : Bool := socket.localAddr.udpPortNo != 0

def UdpRawSocket.isConnected (socket : UdpRawSocket) : Bool := socket.remoteAddr.udpPortNo != 0

/-- The status of a call, and what it leaves. -/
structure UdpSending (σ : Type) where
  status : ErrorT
  socket : UdpRawSocket
  mem : UdpMemory
  allocator : σ

section Socket

variable {σ : Type} (allocator : Ipv6PacketAllocator σ) (s : σ) (memorySize : ℕ) (mem : UdpMemory)
  (socket : UdpRawSocket)

/-- The element for the header of a socket. -/
def udpSetHdrIov : UdpMemory :=
  let udpIov := { mem.iov.node .hdrIov with ptr := .bytes socket.udpHeader, len := udpHeaderSize }
  { mem with iov := mem.iov.setNode .hdrIov udpIov }

def udpStartSending (payloadIov : Option IovPtr) (payloadSize : ℕ)
    (dstSockAddrOrNull : Option UdpSocketAddr) : UdpSending σ :=
  if !socket.isBound then ⟨ESTATE, socket, mem, s⟩
  else if payloadSize > MAX_UDP_PAYLOAD then ⟨ESIZE, socket, mem, s⟩
  else if dstSockAddrOrNull.isNone && !socket.isConnected then ⟨EINVAL, socket, mem, s⟩
  else if socket.packet.isSome then ⟨EBUSY, socket, mem, s⟩
  else
    let mem := udpSetHdrIov mem socket
    let wrapped := udpWrapDataIntoOutgoingIpv6Packet allocator s memorySize mem payloadIov
      payloadSize socket.localAddr (dstSockAddrOrNull.getD socket.remoteAddr)
    match wrapped.1 with
    | none => ⟨FAIL, socket, wrapped.2.1, wrapped.2.2⟩
    | some packet => ⟨SUCCESS, { socket with packet := some packet }, wrapped.2.1, wrapped.2.2⟩

/-- The end of a transmission: the payload and its length, which are passed to the client with the
status of the transmission. -/
def udpFinishHandlingOutPacket : Option (Option IovPtr × ℕ) × UdpRawSocket × UdpMemory × σ :=
  match socket.packet with
  | none => (none, socket, mem, s)
  | some packet =>
    let unwrapped := udpUnwrapDataFromOutgoingIpv6Packet allocator s memorySize mem packet
    match unwrapped.1 with
    | none => (none, socket, unwrapped.2)
    | some payload => (some payload, { socket with packet := none }, unwrapped.2)

end Socket

section SetHdrIov

variable {mem : UdpMemory} (socket : UdpRawSocket)

theorem client_udpSetHdrIov (n : ℕ) :
    (udpSetHdrIov mem socket).iov.node (.client n) = mem.iov.node (.client n) :=
  node_setNode_of_ne IovPtr.noConfusion

theorem hdrIov_udpSetHdrIov : (udpSetHdrIov mem socket).iov.node .hdrIov =
    { mem.iov.node .hdrIov with ptr := .bytes socket.udpHeader, len := udpHeaderSize } :=
  node_setNode_self

end SetHdrIov

/-! ## Taking out what was put in -/

section Memory

variable {mem mem' : UdpMemory} {payloadIov : Option IovPtr} {l : List ℕ} {memorySize : ℕ}

@[simp] theorem iov_write (ptr : IovData) (bytes : List UInt8) :
    (mem.write ptr bytes).iov = mem.iov := by
  cases ptr <;> rfl

/-- A write stays within its bytes. -/
theorem ram_write {address i : ℕ} (bytes : List UInt8)
    (hi : i < address ∨ address + bytes.length ≤ i) :
    (mem.write (.bytes address) bytes).ram i = mem.ram i := by
  rw [UdpMemory.write]
  dsimp only
  split
  next hle => rw [List.getD_eq_default _ _ (by omega)]
  · rfl

/-- The payload of a client: a chain of its elements. -/
def UdpPayload (mem : UdpMemory) (payloadIov : Option IovPtr) (l : List ℕ) : Prop :=
  Seg (fun p => (mem.iov.node p).next) payloadIov (l.map .client) none

theorem UdpPayload.head (h : UdpPayload mem payloadIov l) {p : IovPtr} (hp : payloadIov = some p) :
    ∃ n ∈ l, p = .client n := by
  have hhead := Seg.eq_head? h
  rw [hp] at hhead
  cases l with
  | nil => cases hhead
  | cons n l => exact ⟨n, List.mem_cons_self, Option.some.inj hhead⟩

theorem UdpPayload.congr (h : UdpPayload mem payloadIov l)
    (hnext : ∀ n ∈ l, (mem'.iov.node (.client n)).next = (mem.iov.node (.client n)).next) :
    UdpPayload mem' payloadIov l := by
  apply Seg.congr h
  intro p hp
  obtain ⟨n, hn, rfl⟩ := List.mem_map.mp hp
  exact hnext n hn

theorem UdpPayload.chain (h : UdpPayload mem payloadIov l) (hsize : l.length ≤ memorySize) :
    mem.iov.chain memorySize payloadIov = l.map .client := by
  rw [IovMemory.chain]
  apply Seg.walk_eq h
  rwa [List.length_map]

theorem totalLength_congr {iov iov' : IovMemory}
    (h : ∀ n ∈ l, (iov'.node (.client n)).len = (iov.node (.client n)).len) :
    iov'.totalLength (l.map .client) = iov.totalLength (l.map .client) := by
  rw [IovMemory.totalLength, IovMemory.totalLength, List.map_map, List.map_map]
  exact congrArg List.sum (List.map_congr_left h)

/-- The elements when a payload is linked behind the header. -/
theorem node_udpLinkPayload (h : UdpPayload mem payloadIov l) (payloadLen : ℕ)
    (srcSockAddr dstSockAddr : UdpSocketAddr) :
    let mem' := udpLinkPayload mem payloadIov payloadLen srcSockAddr dstSockAddr
    (∀ n, mem'.iov.node (.client n) = if payloadIov = some (.client n) then
      { mem.iov.node (.client n) with prev := some .hdrIov } else mem.iov.node (.client n)) ∧
    mem'.iov.node .hdrIov = { mem.iov.node .hdrIov with next := payloadIov, prev := none } := by
  have hhdr : (mem.iov.setPrev payloadIov (some .hdrIov)).node .hdrIov = mem.iov.node .hdrIov := by
    rw [node_setPrev, if_neg]
    intro hp
    obtain ⟨n, -, hn⟩ := h.head hp
    cases hn
  simp only [udpLinkPayload, iov_write]
  refine ⟨fun n => ?_, ?_⟩
  · rw [node_setNode_of_ne IovPtr.noConfusion, node_setPrev]
  · rw [node_setNode_self, hhdr]

theorem getPayloadLength_udpFill (payloadLen : ℕ) (srcSockAddr dstSockAddr : UdpSocketAddr)
    (hdr : Ipv6BasicHeader) :
    ipv6BasicHeaderGetPayloadLength (udpFillIpv6Header payloadLen srcSockAddr dstSockAddr hdr) =
      UInt16.ofNat payloadLen := by
  rw [udpFillIpv6Header]
  simp only [ipv6BasicHeaderSetHopLimit, ipv6BasicHeaderSetDstAddr, ipv6BasicHeaderSetSrcAddr,
    ipv6BasicHeaderSetNextHeader]
  rw [getPayloadLength_overwrite _ _ (by omega), getPayloadLength_overwrite _ _ (by omega),
    getPayloadLength_overwrite _ _ (by omega), getPayloadLength_overwrite _ _ (by omega),
    getPayloadLength_setPayloadLength]

theorem getNextHeader_udpFill (payloadLen : ℕ) (srcSockAddr dstSockAddr : UdpSocketAddr)
    (hdr : Ipv6BasicHeader) :
    ipv6BasicHeaderGetNextHeader (udpFillIpv6Header payloadLen srcSockAddr dstSockAddr hdr) =
      WHIP6_IANA_IPV6_UDP := by
  have hbehind : ∀ (hdr : Ipv6BasicHeader) (o : ℕ) (ys : List UInt8), 7 ≤ o →
      ipv6BasicHeaderGetNextHeader (hdr.overwrite o ys) = ipv6BasicHeaderGetNextHeader hdr := by
    intro hdr o ys ho
    exact Ipv6BasicHeader.byte_overwrite_of_outside _ (Or.inl (by omega))
  rw [udpFillIpv6Header]
  simp only [ipv6BasicHeaderSetHopLimit, ipv6BasicHeaderSetDstAddr, ipv6BasicHeaderSetSrcAddr]
  rw [hbehind _ _ _ (by omega), hbehind _ _ _ (by omega), hbehind _ _ _ (by omega),
    ipv6BasicHeaderGetNextHeader, ipv6BasicHeaderSetNextHeader,
    Ipv6BasicHeader.byte_overwrite_of_inside _ (Nat.le_refl 6) (by simp) (by omega)]
  rfl

end Memory

/-! ## The round trip -/

/-- The elements of the clients, and the bytes outside the header of a socket, are as they were. -/
structure PayloadKept (socket : UdpRawSocket) (mem mem' : UdpMemory) : Prop where
  client : ∀ n, mem'.iov.node (.client n) = mem.iov.node (.client n)
  ram : ∀ i, i < socket.udpHeader ∨ socket.udpHeader + udpHeaderSize ≤ i → mem'.ram i = mem.ram i

/-- A payload outside the header of the socket has the same bytes then. -/
theorem PayloadKept.content {socket : UdpRawSocket} {mem mem' : UdpMemory} {l : List ℕ}
    (h : PayloadKept socket mem mem') (icmpv6Hdrs : ℕ → ℕ → UInt8)
    (hdata : ∀ n ∈ l, ∃ address, (mem.iov.node (.client n)).ptr = .bytes address ∧
      (address + (mem.iov.node (.client n)).len ≤ socket.udpHeader ∨
        socket.udpHeader + udpHeaderSize ≤ address)) :
    mem'.iov.content (IovData.byte mem'.ram icmpv6Hdrs) (l.map .client) =
      mem.iov.content (IovData.byte mem.ram icmpv6Hdrs) (l.map .client) := by
  apply List.flatMap_congr
  intro p hp
  obtain ⟨n, hn, rfl⟩ := List.mem_map.mp hp
  obtain ⟨address, hptr, hapart⟩ := hdata n hn
  rw [h.client, IovNode.content, IovNode.content, hptr]
  apply List.map_congr_left
  intro i hi
  have hlt := List.mem_range.mp hi
  exact h.ram (address + i) (by omega)

/-- What the lower layers keep of a packet, and of the memory: they may fill in its header, and the
checksum of the datagram. -/
structure UdpLent (socket : UdpRawSocket) (mem mem' : UdpMemory) (packet packet' : Ipv6OutPacket) :
    Prop where
  node : mem'.iov.node = mem.iov.node
  ram : ∀ i, i < socket.udpHeader ∨ socket.udpHeader + udpHeaderSize ≤ i → mem'.ram i = mem.ram i
  ptr : packet'.ptr = packet.ptr
  firstPayloadIov : packet'.firstPayloadIov = packet.firstPayloadIov
  payloadLength : ipv6BasicHeaderGetPayloadLength packet'.header =
    ipv6BasicHeaderGetPayloadLength packet.header
  nextHeader : ipv6BasicHeaderGetNextHeader packet'.header =
    ipv6BasicHeaderGetNextHeader packet.header

/-- A memory in which a payload is linked behind the header of a socket, as against the memory
before. -/
structure UdpLinked (socket : UdpRawSocket) (mem mem' : UdpMemory) (payloadIov : Option IovPtr) :
    Prop where
  client : ∀ n, mem'.iov.node (.client n) = if payloadIov = some (.client n) then
    { mem.iov.node (.client n) with prev := some .hdrIov } else mem.iov.node (.client n)
  hdrIov : mem'.iov.node .hdrIov = ⟨.bytes socket.udpHeader, udpHeaderSize, payloadIov, none⟩
  ram : ∀ i, i < socket.udpHeader ∨ socket.udpHeader + udpHeaderSize ≤ i → mem'.ram i = mem.ram i

/-- A packet with the datagram of a payload. -/
structure UdpDatagramPacket (packet : Ipv6OutPacket) (payloadLen : ℕ) : Prop where
  firstPayloadIov : packet.firstPayloadIov = .hdrIov
  payloadLength : ipv6BasicHeaderGetPayloadLength packet.header =
    UInt16.ofNat (payloadLen + udpHeaderSize)
  nextHeader : ipv6BasicHeaderGetNextHeader packet.header = WHIP6_IANA_IPV6_UDP

section RoundTrip

variable {σ : Type} (allocator : Ipv6PacketAllocator σ) (s : σ) {memorySize : ℕ} {mem : UdpMemory}
  (socket : UdpRawSocket) {payloadIov : Option IovPtr} {l : List ℕ} (payloadLen : ℕ)

/-- A payload is not put into a packet, and nothing has happened; or it is long enough, stands alone
and is linked behind the header. -/
theorem udpWrapData_cases (h : UdpPayload mem payloadIov l) (hsize : l.length ≤ memorySize)
    (srcSockAddr dstSockAddr : UdpSocketAddr) :
    let wrapped := udpWrapDataIntoOutgoingIpv6Packet allocator s memorySize mem payloadIov
      payloadLen srcSockAddr dstSockAddr
    wrapped.1 = none ∧ wrapped.2.1 = mem ∧ allocator.out wrapped.2.2 = allocator.out s ∨
      ∃ packet, wrapped.1 = some packet ∧ UdpDatagramPacket packet payloadLen ∧
        packet.lastPayloadIov = (l.map IovPtr.client).getLastD .hdrIov ∧
        payloadLen ≤ mem.iov.totalLength (l.map .client) ∧
        (∀ p, payloadIov = some p → (mem.iov.node p).prev = none) ∧
        wrapped.2.1 = udpLinkPayload mem payloadIov (payloadLen + udpHeaderSize) srcSockAddr
          dstSockAddr ∧
        allocator.out wrapped.2.2 = packet.ptr ::ₘ allocator.out s := by
  rw [udpWrapDataIntoOutgoingIpv6Packet]
  dsimp only
  rw [h.chain hsize]
  split
  · exact Or.inl ⟨rfl, rfl, rfl⟩
  split
  · exact Or.inl ⟨rfl, rfl, rfl⟩
  next hlen =>
  have hout := allocator.out_alloc s
  cases halloc : allocator.alloc s with | mk packet s₁ =>
  cases packet with
  | none =>
    rw [halloc] at hout
    exact Or.inl ⟨rfl, rfl, hout.trans (zero_add _)⟩
  | some packet =>
    rw [halloc] at hout
    obtain ⟨ptr, ipv6Hdr⟩ := packet
    dsimp only at hout ⊢
    rw [Option.elim_some, Multiset.singleton_add] at hout
    cases payloadIov with
    | none =>
      obtain rfl : l = [] := by
        cases l with
        | nil => rfl
        | cons n l => exact absurd h.1 nofun
      exact Or.inr ⟨_, rfl, ⟨rfl, getPayloadLength_udpFill _ _ _ _,
        getNextHeader_udpFill _ _ _ _⟩, rfl, Nat.not_lt.mp hlen, nofun, rfl, hout⟩
    | some iov =>
      dsimp only
      split
      · exact Or.inl ⟨rfl, rfl, by rw [allocator.out_free, hout, Multiset.erase_cons_head]⟩
      next hprev =>
        refine Or.inr ⟨_, rfl, ⟨rfl, getPayloadLength_udpFill _ _ _ _,
          getNextHeader_udpFill _ _ _ _⟩, rfl, Nat.not_lt.mp hlen, ?_, rfl, hout⟩
        rintro p hp
        obtain rfl := Option.some.inj hp
        exact not_not.mp hprev

/-- The datagram of a payload that is short enough is taken out of its packet. -/
theorem udpUnwrapData_linked {packet : Ipv6OutPacket} (h : UdpPayload mem payloadIov l)
    (hsize : l.length ≤ memorySize) (hwrapped : UdpDatagramPacket packet payloadLen)
    (hshort : payloadLen + udpHeaderSize < 65536)
    (hlen : payloadLen ≤ mem.iov.totalLength (l.map .client))
    (hhdr : (mem.iov.node .hdrIov).len = udpHeaderSize)
    (hnext : (mem.iov.node .hdrIov).next = payloadIov) :
    let unwrapped := udpUnwrapDataFromOutgoingIpv6Packet allocator s memorySize mem packet
    unwrapped.1 = some (payloadIov, payloadLen) ∧
      (∀ n, unwrapped.2.1.iov.node (.client n) = if payloadIov = some (.client n) then
        { mem.iov.node (.client n) with prev := none } else mem.iov.node (.client n)) ∧
      (unwrapped.2.1.iov.node .hdrIov) = { mem.iov.node .hdrIov with next := none } ∧
      unwrapped.2.1.ram = mem.ram ∧ unwrapped.2.2 = allocator.free packet.ptr s := by
  have htotal : (UInt16.ofNat (payloadLen + udpHeaderSize)).toNat = payloadLen + udpHeaderSize :=
    UInt16.toNat_ofNat_of_lt' hshort
  rw [udpUnwrapDataFromOutgoingIpv6Packet]
  dsimp only
  rw [hwrapped.payloadLength, htotal, hwrapped.nextHeader, hwrapped.firstPayloadIov, hhdr, hnext,
    h.chain hsize, Nat.add_sub_cancel]
  rw [if_neg (by simp), if_neg (Nat.not_lt.mpr hlen)]
  refine ⟨rfl, ?_, ?_, rfl, rfl⟩
  · intro n
    cases payloadIov with
    | none => rfl
    | some iov =>
      dsimp only
      rw [node_setNode_of_ne IovPtr.noConfusion, node_setPrev]
  · cases payloadIov with
    | none =>
      dsimp only
      rw [← hnext, ← hhdr]
    | some iov =>
      obtain ⟨n, -, rfl⟩ := h.head rfl
      dsimp only
      rw [node_setNode_self, node_setPrev, if_neg nofun, hhdr]

variable (memorySize mem payloadIov) in
/-- Sending refuses a payload beforehand, fails to wrap it, or has wrapped it. -/
theorem udpStartSending_cases (dstSockAddrOrNull : Option UdpSocketAddr) :
    let r := udpStartSending allocator s memorySize mem socket payloadIov payloadLen
      dstSockAddrOrNull
    let wrapped := udpWrapDataIntoOutgoingIpv6Packet allocator s memorySize
      (udpSetHdrIov mem socket) payloadIov payloadLen socket.localAddr
      (dstSockAddrOrNull.getD socket.remoteAddr)
    (r.status ≠ SUCCESS ∧ r.socket = socket ∧ r.mem = mem ∧ r.allocator = s) ∨
      (wrapped.1 = none ∧ r.status ≠ SUCCESS ∧ r.socket = socket ∧
        (r.mem, r.allocator) = wrapped.2) ∨
      ∃ packet, wrapped.1 = some packet ∧ payloadLen ≤ MAX_UDP_PAYLOAD ∧ socket.packet = none ∧
        r.status = SUCCESS ∧ r.socket = { socket with packet := some packet } ∧
        (r.mem, r.allocator) = wrapped.2 := by
  rw [udpStartSending]
  split
  · exact Or.inl ⟨(by decide : ESTATE ≠ SUCCESS), rfl, rfl, rfl⟩
  split
  · exact Or.inl ⟨(by decide : ESIZE ≠ SUCCESS), rfl, rfl, rfl⟩
  next hmax =>
  split
  · exact Or.inl ⟨(by decide : EINVAL ≠ SUCCESS), rfl, rfl, rfl⟩
  split
  · exact Or.inl ⟨(by decide : EBUSY ≠ SUCCESS), rfl, rfl, rfl⟩
  next hpacket =>
  right
  dsimp only
  cases (udpWrapDataIntoOutgoingIpv6Packet allocator s memorySize (udpSetHdrIov mem socket)
    payloadIov payloadLen socket.localAddr (dstSockAddrOrNull.getD socket.remoteAddr)).1 with
  | none => exact Or.inl ⟨rfl, (by decide : FAIL ≠ SUCCESS), rfl, rfl⟩
  | some packet =>
    exact Or.inr ⟨packet, rfl, Nat.not_lt.mp hmax, Option.not_isSome_iff_eq_none.mp hpacket, rfl,
      rfl, rfl⟩

/-- A payload that a socket takes is linked behind its header. -/
theorem udpLinked_linkPayload (h : UdpPayload mem payloadIov l)
    (srcSockAddr dstSockAddr : UdpSocketAddr) :
    UdpLinked socket mem (udpLinkPayload (udpSetHdrIov mem socket) payloadIov payloadLen srcSockAddr
      dstSockAddr) payloadIov := by
  have hset : UdpPayload (udpSetHdrIov mem socket) payloadIov l :=
    h.congr fun n _ => by rw [client_udpSetHdrIov]
  obtain ⟨hclient, hhdr⟩ := node_udpLinkPayload hset payloadLen srcSockAddr dstSockAddr
  refine ⟨fun n => ?_, ?_, fun i hi => ?_⟩
  · rw [hclient, client_udpSetHdrIov]
  · rw [hhdr, hdrIov_udpSetHdrIov]
  · have hptr : (((udpSetHdrIov mem socket).iov.setPrev payloadIov (some .hdrIov)).node
        .hdrIov).ptr = .bytes socket.udpHeader := by
      cases payloadIov with
      | none => rw [IovMemory.setPrev, hdrIov_udpSetHdrIov]
      | some iov =>
        obtain ⟨n, -, rfl⟩ := h.head rfl
        rw [node_setPrev, if_neg (by simp), hdrIov_udpSetHdrIov]
    rw [udpLinkPayload, hptr, ram_write]
    · rfl
    · simpa [networkBytes, udpHeaderSize] using hi

variable {socket} {mem' : UdpMemory} {payloadLen}

theorem UdpLinked.payload (hlinked : UdpLinked socket mem mem' payloadIov)
    (h : UdpPayload mem payloadIov l) : UdpPayload mem' payloadIov l := by
  apply h.congr
  intro n _
  rw [hlinked.client]
  split <;> rfl

theorem UdpLinked.totalLength (hlinked : UdpLinked socket mem mem' payloadIov) :
    mem'.iov.totalLength (l.map .client) = mem.iov.totalLength (l.map .client) := by
  apply totalLength_congr
  intro n _
  rw [hlinked.client]
  split <;> rfl

/-- The elements of the packet are the header and those of the payload. -/
theorem UdpLinked.chain (hlinked : UdpLinked socket mem mem' payloadIov)
    (h : UdpPayload mem payloadIov l) (hsize : l.length ≤ memorySize) :
    mem'.iov.chain (memorySize + 1) (some .hdrIov) = .hdrIov :: l.map .client := by
  rw [IovMemory.chain]
  refine Seg.walk_eq ⟨rfl, ?_⟩ ?_
  · dsimp only
    rw [hlinked.hdrIov]
    exact hlinked.payload h
  · rw [List.length_cons, List.length_map]
    omega

/-- The end of a transmission takes the payload out. -/
theorem UdpLinked.finish {packet : Ipv6OutPacket} (hlinked : UdpLinked socket mem mem' payloadIov)
    (h : UdpPayload mem payloadIov l) (hsize : l.length ≤ memorySize)
    (hwrapped : UdpDatagramPacket packet payloadLen) (hmax : payloadLen ≤ MAX_UDP_PAYLOAD)
    (hlen : payloadLen ≤ mem.iov.totalLength (l.map .client))
    (hprev : ∀ p, payloadIov = some p → (mem.iov.node p).prev = none)
    (hidle : socket.packet = none) :
    let finished := udpFinishHandlingOutPacket allocator s memorySize mem'
      { socket with packet := some packet }
    finished.1 = some (payloadIov, payloadLen) ∧ finished.2.1 = socket ∧
      PayloadKept socket mem finished.2.2.1 ∧
      (finished.2.2.1.iov.node .hdrIov).next = none ∧
      (finished.2.2.1.iov.node .hdrIov).prev = none ∧
      allocator.out finished.2.2.2 = (allocator.out s).erase packet.ptr := by
  have hshort : payloadLen + udpHeaderSize < 65536 := by
    have : MAX_UDP_PAYLOAD + udpHeaderSize < 65536 := by decide
    omega
  obtain ⟨htaken, hclient, hhdr, hram, hfree⟩ := udpUnwrapData_linked allocator s payloadLen
    (hlinked.payload h) hsize hwrapped hshort (hlinked.totalLength ▸ hlen)
    (by rw [hlinked.hdrIov]) (by rw [hlinked.hdrIov])
  rw [udpFinishHandlingOutPacket]
  dsimp only
  rw [htaken]
  refine ⟨rfl, ?_, ⟨fun n => ?_, fun i hi => ?_⟩, ?_, ?_, ?_⟩
  · rw [← hidle]
  · dsimp only
    rw [hclient, hlinked.client]
    split
    next hn => rw [← hprev _ hn]
    · rfl
  · dsimp only
    rw [hram, hlinked.ram i hi]
  · dsimp only
    rw [hhdr]
  · dsimp only
    rw [hhdr, hlinked.hdrIov]
  · dsimp only
    rw [hfree, allocator.out_free]

variable (socket payloadLen)

/-- A payload that a socket refuses is as it was, and no packet is allocated.  Otherwise the packet
holds the payload behind the header, and whatever becomes of it in the lower layers, the end of the
transmission gives the payload with its length and its links back, unlinks the header and frees the
packet. -/
theorem udpStartSending_roundTrip (h : UdpPayload mem payloadIov l) (hsize : l.length ≤ memorySize)
    (dstSockAddrOrNull : Option UdpSocketAddr) :
    let r := udpStartSending allocator s memorySize mem socket payloadIov payloadLen
      dstSockAddrOrNull
    (r.status ≠ SUCCESS → r.socket = socket ∧ PayloadKept socket mem r.mem ∧ r.mem.ram = mem.ram ∧
      (r.mem.iov.node .hdrIov).next = (mem.iov.node .hdrIov).next ∧
      (r.mem.iov.node .hdrIov).prev = (mem.iov.node .hdrIov).prev ∧
      allocator.out r.allocator = allocator.out s) ∧
    (r.status = SUCCESS → ∃ packet, r.socket = { socket with packet := some packet } ∧
      r.mem.iov.chain (memorySize + 1) (some packet.firstPayloadIov) =
        .hdrIov :: l.map .client ∧
      packet.lastPayloadIov = (l.map IovPtr.client).getLastD .hdrIov ∧
      allocator.out r.allocator = packet.ptr ::ₘ allocator.out s ∧
      ∀ mem' packet' s', UdpLent socket r.mem mem' packet packet' →
        let finished := udpFinishHandlingOutPacket allocator s' memorySize mem'
          { socket with packet := some packet' }
        finished.1 = some (payloadIov, payloadLen) ∧ finished.2.1 = socket ∧
          PayloadKept socket mem finished.2.2.1 ∧
          (finished.2.2.1.iov.node .hdrIov).next = none ∧
          (finished.2.2.1.iov.node .hdrIov).prev = none ∧
          allocator.out finished.2.2.2 = (allocator.out s').erase packet.ptr) := by
  have hset : UdpPayload (udpSetHdrIov mem socket) payloadIov l :=
    h.congr fun n _ => by rw [client_udpSetHdrIov]
  have hwrap := udpWrapData_cases allocator s payloadLen hset hsize socket.localAddr
    (dstSockAddrOrNull.getD socket.remoteAddr)
  have hsend := udpStartSending_cases allocator s memorySize mem socket payloadIov payloadLen
    dstSockAddrOrNull
  dsimp only at hwrap hsend ⊢
  generalize udpStartSending allocator s memorySize mem socket payloadIov payloadLen
    dstSockAddrOrNull = r at *
  generalize udpWrapDataIntoOutgoingIpv6Packet allocator s memorySize (udpSetHdrIov mem socket)
    payloadIov payloadLen socket.localAddr (dstSockAddrOrNull.getD socket.remoteAddr) = wrapped
    at *
  obtain ⟨hstatus, hsocket, hmem, halloc⟩ | ⟨hnone, hstatus, hsocket, heq⟩ |
    ⟨packet, hsome, hmax, hidle, hstatus, hsocket, heq⟩ := hsend
  · refine ⟨fun _ => ⟨hsocket, ?_, ?_, ?_, ?_, ?_⟩, fun hsuccess => absurd hsuccess hstatus⟩
    · rw [hmem]
      exact ⟨fun _ => rfl, fun _ _ => rfl⟩
    · rw [hmem]
    · rw [hmem]
    · rw [hmem]
    · rw [halloc]
  · refine ⟨fun _ => ⟨hsocket, ?_⟩, fun hsuccess => absurd hsuccess hstatus⟩
    obtain ⟨hmem, halloc⟩ := Prod.ext_iff.mp heq
    obtain ⟨-, hset, hout⟩ | ⟨packet, hsome, -⟩ := hwrap
    · dsimp only at hmem halloc
      rw [hmem, halloc, hset, hdrIov_udpSetHdrIov]
      exact ⟨⟨client_udpSetHdrIov socket, fun _ _ => rfl⟩, rfl, rfl, rfl, hout⟩
    · rw [hnone] at hsome
      cases hsome
  · refine ⟨fun hrefused => absurd hstatus hrefused, fun _ => ⟨packet, hsocket, ?_⟩⟩
    obtain ⟨hmem, halloc⟩ := Prod.ext_iff.mp heq
    dsimp only at hmem halloc
    obtain ⟨hnone, -⟩ | ⟨packet', hpacket, hwrapped, hlast, hlen, hprev, hlink, hout⟩ := hwrap
    · rw [hnone] at hsome
      cases hsome
    obtain rfl := Option.some.inj (hsome.symm.trans hpacket)
    have hlinked : UdpLinked socket mem r.mem payloadIov := by
      rw [hmem, hlink]
      exact udpLinked_linkPayload socket _ h _ _
    rw [halloc, hout, hwrapped.firstPayloadIov]
    refine ⟨hlinked.chain h hsize, hlast, rfl, fun mem' packet' s' hlent => ?_⟩
    have hkept : UdpLinked socket mem mem' payloadIov := by
      refine ⟨fun n => ?_, ?_, fun i hi => ?_⟩
      · rw [hlent.node, hlinked.client]
      · rw [hlent.node, hlinked.hdrIov]
      · rw [hlent.ram i hi, hlinked.ram i hi]
    have hwrapped' : UdpDatagramPacket packet' payloadLen :=
      ⟨hlent.firstPayloadIov.trans hwrapped.firstPayloadIov,
        hlent.payloadLength.trans hwrapped.payloadLength,
        hlent.nextHeader.trans hwrapped.nextHeader⟩
    rw [← hlent.ptr]
    refine hkept.finish allocator s' h hsize hwrapped' hmax ?_ ?_ hidle
    · have htotal : (udpSetHdrIov mem socket).iov.totalLength (l.map .client) =
          mem.iov.totalLength (l.map .client) :=
        totalLength_congr fun n _ => by rw [client_udpSetHdrIov]
      rwa [htotal] at hlen
    · rintro p hp
      obtain ⟨n, -, rfl⟩ := h.head hp
      rw [← client_udpSetHdrIov socket]
      exact hprev _ hp

end RoundTrip

/-- A datagram of three bytes from a socket that is bound and connected. -/
theorem udpStartSending_roundTrip_three :
    let socket : UdpRawSocket := ⟨⟨Vector.replicate 16 1, 1⟩, ⟨Vector.replicate 16 2, 2⟩, none, 100⟩
    let r := udpStartSending ipv6PacketPoolAllocator ⟨[(1, .zero)], 0⟩ 1
      ⟨iovMemoryOfOne 3, fun _ => 7⟩ socket (some (.client 0)) 3 none
    r.status = SUCCESS ∧ ∃ packet, r.socket = { socket with packet := some packet } ∧
      packet.lastPayloadIov = .client 0 := by
  intro socket r
  have hstatus : r.status = SUCCESS := by decide +kernel
  have h : UdpPayload ⟨iovMemoryOfOne 3, fun _ => 7⟩ (some (.client 0)) [0] := ⟨rfl, rfl⟩
  obtain ⟨packet, hsocket, -, hlast, -⟩ := (udpStartSending_roundTrip ipv6PacketPoolAllocator
    ⟨[(1, .zero)], 0⟩ socket 3 h (Nat.le_refl 1) none).2 hstatus
  exact ⟨hstatus, packet, hsocket, hlast⟩

end Whip6
