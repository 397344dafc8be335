import Whip6.Lowpan.RawIpv6Header
import Whip6.Lib.LinkedList

/-!
# The fragmenter

The states of the IPv6 packets that are being fragmented, linked into a list of current and a list
of free ones, and the packing of one fragment into a frame.  Packet states are pointed to by their
indices in the pool, IPv6 packets and headers by numbers.
-/

namespace Whip6

open Lib

/-! ## State -/

def WHIP6_LOWPAN_MAX_PACKET_LENGTH : ℕ := 1280

def LOWPAN_WHIP6_USE_IPHC : UInt8 := 1

structure LowpanFragPacketState where
  next : Option ℕ
  packet : Option ℕ
  lowpanHdrs : Option ℕ
  fragOffset : UInt16
  fragTag : UInt16
  deriving DecidableEq, Repr

/-- The state of the fragmenter with the pool of packet states. -/
structure LowpanFragGlobalState where
  currentPackets : Option ℕ
  freePackets : Option ℕ
  tagGenerator : UInt16
  fragFlags : UInt8
  packets : ℕ → LowpanFragPacketState
  numPackets : ℕ

namespace LowpanFragGlobalState

def next (state : LowpanFragGlobalState) (token : ℕ) : Option ℕ := (state.packets token).next

def setPacket (state : LowpanFragGlobalState) (token : ℕ) (packet : LowpanFragPacketState) :
    LowpanFragGlobalState :=
  { state with packets := Function.update state.packets token packet }

def setNext (state : LowpanFragGlobalState) (token : ℕ) (next : Option ℕ) :
    LowpanFragGlobalState :=
  state.setPacket token { state.packets token with next := next }

end LowpanFragGlobalState

/-- Link each of `left` packet states from `ptr` on to the next, and the last one to none. -/
def lowpanFragmenterInitLoop : ℕ → ℕ → (ℕ → LowpanFragPacketState) → (ℕ → LowpanFragPacketState)
  | 0, ptr, packets => Function.update packets ptr { packets ptr with next := none }
  | left + 1, ptr, packets =>
    lowpanFragmenterInitLoop left (ptr + 1)
      (Function.update packets ptr { packets ptr with next := some (ptr + 1) })

def lowpanFragmenterInit (packets : ℕ → LowpanFragPacketState) (pktsArrLen : UInt8) :
    LowpanFragGlobalState :=
  { currentPackets := none
    freePackets := if pktsArrLen.toNat = 0 then none else some 0
    tagGenerator := 0
    fragFlags := 0
    packets := if pktsArrLen.toNat = 0 then packets
      else lowpanFragmenterInitLoop (pktsArrLen.toNat - 1) 0 packets
    numPackets := pktsArrLen.toNat }

/-! ## Packets -/

/-- Pass a packet, with its number and contents, to the fragmenter: the token it got, if any. -/
def lowpanFragmenterStartFragmentingIpv6Packet (state : LowpanFragGlobalState) (packet : ℕ)
    (content : Ipv6Packet) : Option ℕ × LowpanFragGlobalState :=
  match state.freePackets with
  | none => (none, state)
  | some token =>
    let packetLen := (ipv6BasicHeaderGetPayloadLength content.header).toNat
    if packetLen > WHIP6_LOWPAN_MAX_PACKET_LENGTH - 40 then (none, state)
    else if packetLen > iovGetTotalLength content.firstPayloadIov then (none, state)
    else
      let state := { state with freePackets := state.next token }
      let state := state.setPacket token
        { next := state.currentPackets, packet := some packet, lowpanHdrs := none, fragOffset := 0,
          fragTag := state.tagGenerator }
      (some token,
        { state with
          tagGenerator := state.tagGenerator + 1
          currentPackets := some token })

def lowpanFragmenterProvideAdditional6LoWPANHeadersForIpv6Packet (state : LowpanFragGlobalState)
    (token : ℕ) (lowpanHdrs : ℕ) : LowpanFragGlobalState :=
  state.setPacket token { state.packets token with lowpanHdrs := some lowpanHdrs }

/-- Whether there are bytes of a packet, given by its contents, that no fragment carried yet. -/
def lowpanFragmenterDoesNextFragmentOfIpv6PacketExist (token : LowpanFragPacketState)
    (content : Ipv6Packet) : Bool :=
  token.fragOffset.toNat < (ipv6BasicHeaderGetPayloadLength content.header).toNat + 40

/-- Give a packet state back: the packet, or `none` if the token is not recognized. -/
def lowpanFragmenterFinishFragmentingIpv6Packet (state : LowpanFragGlobalState)
    (token : Option ℕ) : Option ℕ × LowpanFragGlobalState :=
  match findFrom state.next (fun t => some t == token) state.numPackets none
      state.currentPackets with
  | (_, none) => (none, state)
  | (prevToken, some currToken) =>
    let state :=
      match prevToken with
      | none => { state with currentPackets := state.next currToken }
      | some prev => state.setNext prev (state.next currToken)
    let state := state.setNext currToken state.freePackets
    let packet := (state.packets currToken).packet
    let state := state.setPacket currToken
      { state.packets currToken with packet := none, lowpanHdrs := none }
    (packet, { state with freePackets := some currToken })

/-! ## Fragments -/

/-- The bytes that the next fragment takes when there is `room` for it: all that are left, or a
multiple of eight. -/
def lowpanFragmenterFragLen (maxFragSize : UInt16) (room : ℕ) : ℕ :=
  if maxFragSize.toNat < room then maxFragSize.toNat else room - room % 8

/-- Pack the first fragment behind the headers, which end at `nextOffset`: the packet state with the
offset behind it, and the frame. -/
def lowpanFragmenterPackFirstFragmentWithRawIpv6Header (token : LowpanFragPacketState)
    (content : Ipv6Packet) (nextOffset : ℕ) (frameInfo : Ieee154DframeInfo) :
    Whip6Error × LowpanFragPacketState × Ieee154DframeInfo :=
  let payloadPtr := ieee154DFrameUnsafeGetPayloadPtr frameInfo
  let payloadLen := (ieee154DFrameMaxPayloadLen frameInfo).toNat
  if payloadLen ≤ nextOffset then (.argumentError, token, frameInfo)
  else
    let payloadPtr := payloadPtr.set nextOffset LOWPAN_DISPATCH_PATTERN_IPV6
    let payloadOff := nextOffset + 1
    let payloadLen := lowpanFragmenterFragLen
      (ipv6BasicHeaderGetPayloadLength content.header + 40) (payloadLen - payloadOff)
    if payloadLen = 0 then (.sizeError, token, frameInfo.setPayload payloadPtr)
    else if 40 ≥ payloadLen then
      let payloadPtr := shortMemCpy content.header.bytes payloadPtr payloadOff payloadLen
      (.noError, { token with fragOffset := UInt16.ofNat payloadLen },
        ieee154DFrameSetPayloadLen (frameInfo.setPayload payloadPtr)
          (UInt8.ofNat (payloadOff + payloadLen)))
    else
      let payloadPtr := shortMemCpy content.header.bytes payloadPtr payloadOff 40
      let r := iovShortRead content.firstPayloadIov 0 (some (payloadPtr.drop (payloadOff + 40)))
        (payloadLen - 40)
      let payloadPtr := payloadPtr.take (payloadOff + 40) ++ r.2.getD []
      (.noError, { token with fragOffset := 40 + UInt16.ofNat r.1 },
        ieee154DFrameSetPayloadLen (frameInfo.setPayload payloadPtr)
          (UInt8.ofNat (payloadOff + 40 + r.1)))

def lowpanFragmenterPackFirstFragment (token : LowpanFragPacketState) (content : Ipv6Packet)
    (nextOffset : ℕ) (frameInfo : Ieee154DframeInfo) (fragFlags : UInt8) :
    Whip6Error × LowpanFragPacketState × Ieee154DframeInfo :=
  if fragFlags &&& LOWPAN_WHIP6_USE_IPHC ≠ 0 then (.stateError, token, frameInfo)
  else lowpanFragmenterPackFirstFragmentWithRawIpv6Header token content nextOffset frameInfo

def lowpanFragmenterPackSubsequentFragment (token : LowpanFragPacketState) (content : Ipv6Packet)
    (nextOffset : ℕ) (frameInfo : Ieee154DframeInfo) :
    Whip6Error × LowpanFragPacketState × Ieee154DframeInfo :=
  let payloadPtr := ieee154DFrameUnsafeGetPayloadPtr frameInfo
  let payloadLen := (ieee154DFrameMaxPayloadLen frameInfo).toNat
  if payloadLen ≤ nextOffset then (.argumentError, token, frameInfo)
  else
    let payloadOff := nextOffset
    let payloadLen := lowpanFragmenterFragLen
      (ipv6BasicHeaderGetPayloadLength content.header + 40 - token.fragOffset)
      (payloadLen - payloadOff)
    if payloadLen = 0 then (.sizeError, token, frameInfo)
    else
      -- The part of the fragment that lies in the header.
      let tmp := if token.fragOffset.toNat < 40 then min payloadLen (40 - token.fragOffset.toNat)
        else 0
      let payloadPtr := shortMemCpy (content.header.bytes.drop token.fragOffset.toNat) payloadPtr
        payloadOff tmp
      let payloadOff := payloadOff + tmp
      let payloadLen := payloadLen - tmp
      let fragOffset := token.fragOffset + UInt16.ofNat tmp
      let payloadPtr :=
        if payloadLen > 0 then
          let r := iovShortRead content.firstPayloadIov (fragOffset - 40).toNat
            (some (payloadPtr.drop payloadOff)) payloadLen
          payloadPtr.take payloadOff ++ r.2.getD []
        else payloadPtr
      (.noError, { token with fragOffset := fragOffset + UInt16.ofNat payloadLen },
        ieee154DFrameSetPayloadLen (frameInfo.setPayload payloadPtr)
          (UInt8.ofNat (payloadOff + payloadLen)))

/-- Put the next fragment of a packet into a frame, with the headers that were provided: the packet
state, the headers and the frame afterwards. -/
def lowpanFragmenterRequestNextFragmentOfIpv6Packet (fragFlags : UInt8)
    (token : LowpanFragPacketState) (content : Ipv6Packet)
    (lowpanHdrs : Option LowpanUnpackedFrameHeaders) (frameInfo : Ieee154DframeInfo) :
    Whip6Error × LowpanFragPacketState × Option LowpanUnpackedFrameHeaders × Ieee154DframeInfo :=
  match lowpanHdrs with
  | none => (.stateError, token, none, frameInfo)
  | some hdrs =>
    let hdrs := lowpanFrameHeadersAddFragHeader hdrs token.fragTag
      (ipv6BasicHeaderGetPayloadLength content.header + 40) token.fragOffset
    let r := lowpanFrameHeadersPack hdrs frameInfo
    if r.1 ≠ .noError then (.argumentError, token, some r.2.1, r.2.2)
    else
      let p :=
        if token.fragOffset = 0 then
          lowpanFragmenterPackFirstFragment token content r.2.1.nextOffset r.2.2 fragFlags
        else lowpanFragmenterPackSubsequentFragment token content r.2.1.nextOffset r.2.2
      (p.1, p.2.1, some r.2.1, p.2.2)

/-- A fragment changes neither the link nor the packet of a packet state. -/
theorem lowpanFragmenterRequestNextFragmentOfIpv6Packet_keeps (fragFlags : UInt8)
    (token : LowpanFragPacketState) (content : Ipv6Packet)
    (hdrs : Option LowpanUnpackedFrameHeaders) (frame : Ieee154DframeInfo) :
    (lowpanFragmenterRequestNextFragmentOfIpv6Packet fragFlags token content hdrs
        frame).2.1.next = token.next ∧
      (lowpanFragmenterRequestNextFragmentOfIpv6Packet fragFlags token content hdrs
        frame).2.1.packet = token.packet := by
  unfold lowpanFragmenterRequestNextFragmentOfIpv6Packet
  cases hdrs with
  | none => exact ⟨rfl, rfl⟩
  | some hdrs =>
    dsimp only
    split_ifs
    · exact ⟨rfl, rfl⟩
    · unfold lowpanFragmenterPackFirstFragment
        lowpanFragmenterPackFirstFragmentWithRawIpv6Header
      dsimp only
      split_ifs <;> exact ⟨rfl, rfl⟩
    · unfold lowpanFragmenterPackSubsequentFragment
      dsimp only
      split_ifs <;> exact ⟨rfl, rfl⟩

/-! ## The lists of packet states -/

/-- The packet states are linked into a list of current ones, which have packets, and a list of free
ones. -/
structure LowpanFragGlobalState.Represents (state : LowpanFragGlobalState)
    (current free : List ℕ) : Prop where
  currentSeg : Seg state.next state.currentPackets current none
  freeSeg : Seg state.next state.freePackets free none
  partition : (current ++ free).Perm (List.range state.numPackets)
  packet : ∀ i ∈ current, (state.packets i).packet.isSome

/-- A packet is accepted: a packet state is free, and the packet is neither too long nor longer than
its chain. -/
def LowpanFragGlobalState.Accepts (state : LowpanFragGlobalState) (content : Ipv6Packet) : Prop :=
  state.freePackets ≠ none ∧
    (ipv6BasicHeaderGetPayloadLength content.header).toNat ≤ WHIP6_LOWPAN_MAX_PACKET_LENGTH - 40 ∧
    (ipv6BasicHeaderGetPayloadLength content.header).toNat ≤
      iovGetTotalLength content.firstPayloadIov

namespace LowpanFragGlobalState

variable {state : LowpanFragGlobalState} {current free l₁ l₂ : List ℕ} {i : ℕ}

@[simp] theorem next_setPacket (i : ℕ) (packet : LowpanFragPacketState) :
    (state.setPacket i packet).next = Function.update state.next i packet.next := by
  funext k
  by_cases hk : k = i
  · subst hk
    simp [setPacket, next]
  · simp [setPacket, next, Function.update_of_ne hk]

theorem packets_setPacket_of_ne {k : ℕ} {packet : LowpanFragPacketState} (hk : k ≠ i) :
    (state.setPacket i packet).packets k = state.packets k := Function.update_of_ne hk _ _

@[simp] theorem next_setNext (i : ℕ) (v : Option ℕ) :
    (state.setNext i v).next = Function.update state.next i v := next_setPacket i _

theorem packet_setNext (i k : ℕ) (v : Option ℕ) :
    ((state.setNext i v).packets k).packet = (state.packets k).packet := by
  by_cases hk : k = i
  · subst hk
    simp [setNext, setPacket]
  · simp [setNext, setPacket, Function.update_of_ne hk]

theorem seg_initLoop (left ptr : ℕ) (packets : ℕ → LowpanFragPacketState) :
    (∀ k < ptr, lowpanFragmenterInitLoop left ptr packets k = packets k) ∧
      Seg (fun p => (lowpanFragmenterInitLoop left ptr packets p).next) (some ptr)
        (List.range' ptr (left + 1)) none := by
  induction left generalizing ptr packets with
  | zero =>
    refine ⟨fun k hk => Function.update_of_ne (by omega) _ _, rfl, ?_⟩
    simp [lowpanFragmenterInitLoop]
  | succ left ih =>
    obtain ⟨hkeep, hseg⟩ := ih (ptr + 1)
      (Function.update packets ptr { packets ptr with next := some (ptr + 1) })
    refine ⟨fun k hk => ?_, ?_⟩
    · rw [lowpanFragmenterInitLoop, hkeep k (by omega), Function.update_of_ne (by omega)]
    · rw [List.range'_succ]
      refine ⟨rfl, ?_⟩
      have hptr : (lowpanFragmenterInitLoop (left + 1) ptr packets ptr).next = some (ptr + 1) := by
        rw [lowpanFragmenterInitLoop, hkeep ptr (by omega), Function.update_self]
      dsimp only
      rw [hptr]
      exact hseg

theorem init_represents (packets : ℕ → LowpanFragPacketState) (pktsArrLen : UInt8) :
    (lowpanFragmenterInit packets pktsArrLen).Represents [] (List.range pktsArrLen.toNat) where
  currentSeg := rfl
  freeSeg := by
    cases hlen : pktsArrLen.toNat with
    | zero => simp [lowpanFragmenterInit, hlen]
    | succ n =>
      have hseg := (seg_initLoop n 0 packets).2
      rw [← List.range_eq_range'] at hseg
      simp only [lowpanFragmenterInit, hlen, Nat.succ_ne_zero, if_false, Nat.add_sub_cancel]
      exact hseg
  partition := List.Perm.refl _
  packet := fun _ hi => absurd hi List.not_mem_nil

namespace Represents

theorem nodup (h : state.Represents current free) : (current ++ free).Nodup :=
  h.partition.nodup_iff.mpr List.nodup_range

/-- A write to a packet state that keeps its link and its packet keeps the lists. -/
theorem setPacket (h : state.Represents current free) {packet : LowpanFragPacketState}
    (hnext : packet.next = (state.packets i).next)
    (hpacket : packet.packet = (state.packets i).packet) :
    (state.setPacket i packet).Represents current free := by
  have hsame : (state.setPacket i packet).next = state.next := by
    rw [next_setPacket, hnext]
    exact Function.update_eq_self i state.next
  refine ⟨by rw [hsame]; exact h.currentSeg, by rw [hsame]; exact h.freeSeg, h.partition, ?_⟩
  intro k hk
  by_cases hki : k = i
  · subst hki
    simpa [LowpanFragGlobalState.setPacket, hpacket] using h.packet k hk
  · simpa [LowpanFragGlobalState.setPacket, Function.update_of_ne hki] using h.packet k hk

/-- Starting takes the first free packet state, or changes nothing. -/
theorem start (h : state.Represents current free) (packet : ℕ) (content : Ipv6Packet) :
    (lowpanFragmenterStartFragmentingIpv6Packet state packet content = (none, state) ∧
        ¬ state.Accepts content) ∨
      ∃ i rest state', free = i :: rest ∧ state.Accepts content ∧
        lowpanFragmenterStartFragmentingIpv6Packet state packet content = (some i, state') ∧
        state'.Represents (i :: current) rest ∧ (state'.packets i).packet = some packet ∧
        (state'.packets i).fragOffset = 0 ∧
        (∀ k, k ≠ i → state'.packets k = state.packets k) ∧
        state'.numPackets = state.numPackets := by
  unfold lowpanFragmenterStartFragmentingIpv6Packet
  have hfree := h.freeSeg.eq_head?
  cases free with
  | nil =>
    left
    rw [hfree]
    exact ⟨rfl, fun haccepts => haccepts.1 hfree⟩
  | cons i rest =>
    rw [hfree, List.head?_cons]
    dsimp only
    split_ifs with hlong hshort
    · exact Or.inl ⟨rfl, fun haccepts => absurd hlong (Nat.not_lt.mpr haccepts.2.1)⟩
    · exact Or.inl ⟨rfl, fun haccepts => absurd hshort (Nat.not_lt.mpr haccepts.2.2)⟩
    · have hnodup := h.nodup
      simp only [List.nodup_append, List.nodup_cons, List.mem_cons] at hnodup
      obtain ⟨-, ⟨hirest, -⟩, hapart⟩ := hnodup
      have hicurrent : i ∉ current := fun hmem => hapart i hmem i (Or.inl rfl) rfl
      refine Or.inr ⟨i, rest, _, rfl, ⟨?_, Nat.not_lt.mp hlong, Nat.not_lt.mp hshort⟩, rfl,
        ⟨?_, ?_, ?_, ?_⟩, ?_, ?_, ?_, rfl⟩
      · rw [hfree]
        exact Option.some_ne_none i
      · have hpush := h.currentSeg.push hicurrent
        exact (@next_setPacket state i _) ▸ hpush
      · have hrest := h.freeSeg.2.update_of_notMem hirest state.currentPackets
        exact (@next_setPacket state i _) ▸ hrest
      · refine List.Perm.trans ?_ h.partition
        exact List.perm_middle.symm
      · intro k hk
        rcases List.mem_cons.mp hk with rfl | hk
        · simp [LowpanFragGlobalState.setPacket]
        · have hki : k ≠ i := ne_of_mem_of_not_mem hk hicurrent
          simpa [LowpanFragGlobalState.setPacket, Function.update_of_ne hki] using h.packet k hk
      · simp [LowpanFragGlobalState.setPacket]
      · simp [LowpanFragGlobalState.setPacket]
      · intro k hk
        simp [LowpanFragGlobalState.setPacket, Function.update_of_ne hk]

/-- Finishing gives back the packet of a current packet state. -/
theorem finish (h : state.Represents (l₁ ++ i :: l₂) free) :
    ∃ state', lowpanFragmenterFinishFragmentingIpv6Packet state (some i) =
        ((state.packets i).packet, state') ∧
      state'.Represents (l₁ ++ l₂) (i :: free) ∧
      (∀ k, k ≠ i → (state'.packets k).packet = (state.packets k).packet) ∧
      state'.numPackets = state.numPackets := by
  have hnodup := h.nodup
  have hlen := h.partition.length_eq
  have hcurrent := h.currentSeg
  simp only [List.append_assoc, List.cons_append, List.nodup_append, List.nodup_cons,
    List.mem_append, List.mem_cons] at hnodup
  obtain ⟨-, ⟨hi₂, -⟩, hapart⟩ := hnodup
  have hi₁ : i ∉ l₁ := fun hmem => hapart i hmem i (Or.inl rfl) rfl
  have hil₂ : i ∉ l₂ := fun hmem => hi₂ (Or.inl hmem)
  have hifree : i ∉ free := fun hmem => hi₂ (Or.inr hmem)
  simp only [List.length_append, List.length_cons, List.length_range] at hlen
  have hfind : findFrom state.next (fun t => some t == some i) state.numPackets none
      state.currentPackets = (l₁.getLast?, some i) := by
    rw [findFrom_of_split hcurrent (by omega) (fun j hj => ?_) (by simp)]
    · simp
    · simpa using fun heq : j = i => hi₁ (heq ▸ hj)
  -- The list without the packet state, before that is put on the free list.
  obtain ⟨state₁, hstate₁, hseg, hfree, hpacket, hnum⟩ : ∃ state₁, (match l₁.getLast? with
        | none => { state with currentPackets := state.next i }
        | some prev => state.setNext prev (state.next i)) = state₁ ∧
      Seg state₁.next state₁.currentPackets (l₁ ++ l₂) none ∧
      Seg state₁.next state₁.freePackets free none ∧
      (∀ k, (state₁.packets k).packet = (state.packets k).packet) ∧
      state₁.numPackets = state.numPackets := by
    rcases List.eq_nil_or_concat' l₁ with rfl | ⟨l₁, j, rfl⟩
    · exact ⟨_, rfl, hcurrent.2, h.freeSeg, fun _ => rfl, rfl⟩
    · rw [List.getLast?_concat]
      refine ⟨_, rfl, ?_, ?_, fun k => packet_setNext j k _, rfl⟩
      · rw [List.append_assoc, List.singleton_append] at hcurrent
        have hnodup := (List.nodup_append.mp h.nodup).1
        rw [List.append_assoc, List.singleton_append] at hnodup
        have hunlink := hcurrent.unlink hnodup
        rw [next_setNext, List.append_assoc, List.singleton_append]
        exact hunlink
      · rw [next_setNext]
        refine h.freeSeg.update_of_notMem (fun hmem => ?_) _
        exact hapart j (by simp) j (Or.inr (Or.inr hmem)) rfl
  unfold lowpanFragmenterFinishFragmentingIpv6Packet
  rw [hfind]
  dsimp only
  rw [hstate₁]
  have hnext : ∀ packet : LowpanFragPacketState, packet.next = state₁.freePackets →
      ((state₁.setNext i state₁.freePackets).setPacket i packet).next =
        Function.update state₁.next i state₁.freePackets := by
    intro packet hpacket
    rw [next_setPacket, next_setNext, hpacket, Function.update_idem]
  have hfinal := hnext
    { (state₁.setNext i state₁.freePackets).packets i with packet := none, lowpanHdrs := none }
    (by simp [LowpanFragGlobalState.setNext, LowpanFragGlobalState.setPacket])
  have hother : ∀ k, k ≠ i → ∀ packet : LowpanFragPacketState,
      (((state₁.setNext i state₁.freePackets).setPacket i packet).packets k).packet =
        (state.packets k).packet := by
    intro k hk packet
    rw [packets_setPacket_of_ne hk, packet_setNext, hpacket]
  have hil : i ∉ l₁ ++ l₂ := fun hmem => (List.mem_append.mp hmem).elim hi₁ hil₂
  refine ⟨_, congrArg₂ Prod.mk ((packet_setNext i i _).trans (hpacket i)) rfl, ⟨?_, ?_, ?_, ?_⟩,
    fun k hk => hother k hk _, hnum⟩
  · exact hfinal ▸ hseg.update_of_notMem hil state₁.freePackets
  · exact hfinal ▸ hfree.push hifree
  · refine List.Perm.trans ?_ (hnum ▸ h.partition)
    rw [List.perm_iff_count]
    intro x
    simp only [List.count_append, List.count_cons]
    omega
  · intro k hk
    refine (congrArg Option.isSome (hother k (ne_of_mem_of_not_mem hk hil) _)).trans
      (h.packet k ?_)
    simp only [List.mem_append, List.mem_cons] at hk ⊢
    tauto

end Represents

end LowpanFragGlobalState

end Whip6
