import Whip6.Lowpan.SessionInvariant

/-!
# Delivery paths

A packet is handed up from one frame that carries all of it, or from fragments.  The first path
checks that the payload length of the IPv6 header is the length of the datagram without the header;
the second one does not (`lowpanDefragmenter_deliveryLaw`).
-/

namespace Whip6

open Lib

/-- The payload length of the header, the size of the datagram and the length of the payload chain
agree. -/
structure DeliveryLaw (size : ℕ) (packet : Ipv6Packet) : Prop where
  header : (ipv6BasicHeaderGetPayloadLength packet.header).toNat = size - 40
  chain : iovGetTotalLength packet.firstPayloadIov = size - 40

/-- The payload length that stands in the bytes of a datagram. -/
def payloadLengthOf (flat : List UInt8) : UInt16 := networkWord (flat.getD 4 0) (flat.getD 5 0)

theorem getPayloadLength_eq (packet : Ipv6Packet) :
    ipv6BasicHeaderGetPayloadLength packet.header = payloadLengthOf packet.flat := by
  have hlen := packet.header.length_bytes
  have hget : ∀ i < 40, packet.flat.getD i 0 = packet.header.byte i := by
    intro i hi
    rw [Ipv6Packet.flat, Ipv6BasicHeader.byte, List.getD_append _ _ _ _ (by omega)]
  rw [payloadLengthOf, hget 4 (by omega), hget 5 (by omega)]
  rfl

/-- A packet that has the length of the datagram keeps the law exactly when its bytes do. -/
theorem deliveryLaw_iff {size : ℕ} {packet : Ipv6Packet} (hlen : packet.flat.length = size) :
    DeliveryLaw size packet ↔ (payloadLengthOf packet.flat).toNat = size - 40 := by
  rw [← getPayloadLength_eq]
  refine ⟨fun h => h.header, fun h => ⟨h, ?_⟩⟩
  rw [Ipv6Packet.length_flat] at hlen
  rw [iovGetTotalLength_eq]
  omega

/-! ## A single frame -/

/-- An IPv6 packet that is allocated has the bytes that were asked for, behind the header. -/
theorem length_of_ipv6AllocatePacket {answers : Ipv6AllocAnswers} {n : ℕ} {packet : Ipv6Packet}
    (fits : IovChunksFit answers.chunks n) (h : ipv6AllocatePacket answers n = some packet) :
    packet.flat.length = 40 + n := by
  unfold ipv6AllocatePacket at h
  split at h
  · cases h
  · rw [Option.map_eq_some_iff] at h
    obtain ⟨payload, hchain, rfl⟩ := h
    rw [Ipv6Packet.length_flat, iovAllocateChain_length fits hchain]

/-- A packet that is handed up from a single frame has the bytes of that frame, and keeps the law. -/
theorem entire_deliveryLaw (f : LowpanReceivedFrame) {answers : Ipv6AllocAnswers} {packet : Ipv6Packet}
    (fits : IovChunksFit answers.chunks (f.rawBytes.length - 40))
    (h : lowpanDefragmenterPassFrameWithEntireIpv6Packet f.frame f.hdrs answers = some packet) :
    packet.flat = f.rawBytes ∧ DeliveryLaw f.rawBytes.length packet := by
  have hlenRaw : f.rawBytes.length = (ieee154DFrameGetPayloadLen f.frame).toNat - f.hdrs.nextOffset - 1 := by
    have hholds := f.holdsPayload
    unfold Ieee154DframeInfo.HoldsPayload at hholds
    rw [LowpanReceivedFrame.rawBytes, lowpanRawIpv6Bytes, List.length_drop, List.length_take]
    omega
  unfold lowpanDefragmenterPassFrameWithEntireIpv6Packet at h
  simp only [← hlenRaw] at h
  split_ifs at h with hpan hfrag hpast hdisp hshort
  have hd : (ieee154DFrameUnsafeGetPayloadPtr f.frame).getD f.hdrs.nextOffset 0 &&&
      LOWPAN_DISPATCH_MASK_IPV6 = LOWPAN_DISPATCH_PATTERN_IPV6 := by
    rw [← hdisp, List.getD_eq_getElem?_getD, List.getD_eq_getElem?_getD, List.getElem?_drop,
      Nat.add_zero]
  split at h
  · cases h
  · rename_i packet₀ halloc
    have hlen₀ : packet₀.flat.length = f.rawBytes.length := by
      rw [length_of_ipv6AllocatePacket fits halloc]
      omega
    have hbuf : f.rawBytes.length ≤
        ((ieee154DFrameUnsafeGetPayloadPtr f.frame).drop (f.hdrs.nextOffset + 1)).length := by
      have hholds := f.holdsPayload
      unfold Ieee154DframeInfo.HoldsPayload at hholds
      rw [List.length_drop]
      omega
    have hunpack := lowpanRawIpv6HeaderUnpack_eq packet₀ f.holdsPayload
      (Nat.not_le.mp hpast) hd false
    dsimp only at hunpack
    rw [show lowpanRawIpv6Bytes f.frame f.hdrs = f.rawBytes from rfl] at hunpack
    rw [if_neg (by rintro ⟨-, hbit, -⟩; exact hfrag hbit), if_pos hlen₀.ge] at hunpack
    rw [hunpack] at h
    dsimp only at h
    split_ifs at h with hsame hheader
    obtain rfl := Option.some.inj h
    have htake : ((ieee154DFrameUnsafeGetPayloadPtr f.frame).drop (f.hdrs.nextOffset + 1)).take
        f.rawBytes.length = f.rawBytes := by
      conv_lhs => rw [hlenRaw, Nat.sub_sub, ← List.drop_take]
      rfl
    have hflat : (packet₀.write 0 f.rawBytes.length ((ieee154DFrameUnsafeGetPayloadPtr f.frame).drop
        (f.hdrs.nextOffset + 1))).2.flat = f.rawBytes := by
      rw [flat_write _ _ _ _ hbuf, htake, splice_all hlen₀]
    refine ⟨hflat, (deliveryLaw_iff (congrArg List.length hflat)).mpr ?_⟩
    rw [← getPayloadLength_eq]
    exact not_not.mp hheader

/-! ## Fragments -/

/-- The free fragment specifications. -/
def LowpanDefragGlobalState.freeFragSpecList (state : LowpanDefragGlobalState) :
    List FragSpecPtr :=
  walk state.nextFragSpec state.numFragSpecs state.freeAdditionalFragSpecs

theorem LowpanDefragGlobalState.Represents.freeFragSpecList_eq {state : LowpanDefragGlobalState}
    {t : DefragLists} {handed : List ℕ} {numPackets numFragSpecs : ℕ}
    (h : state.Represents t [] numPackets numFragSpecs)
    (hp : t.Partition [] handed numPackets numFragSpecs) :
    state.freeFragSpecList = t.freeFragSpecs := by
  have hlen := hp.fragSpecs.length_eq
  rw [List.length_append, List.length_map, List.length_range] at hlen
  rw [freeFragSpecList, h.numFragSpecs]
  exact h.freeFragSpecs.walk_eq (by omega)

/-- Nothing in particular is true of every reassembly. -/
theorem kept_true : ReassemblyPred.Kept (fun _ _ _ => True) fun _ _ _ _ => True where
  empty := fun _ _ _ _ => trivial
  accept := fun _ _ _ _ _ _ _ _ _ _ _ _ _ _ => trivial

namespace LowpanDefragSession

/-- The fragment of a frame, put into the IPv6 packet `k` of a packet state, completes it: it can be
copied and merged, and then the first specification is the whole datagram. -/
def Completes (s : LowpanDefragSession) (p k : ℕ) (f : LowpanReceivedFrame) : Prop :=
  ∃ len identical,
    (lowpanDefragmenterCopyFragment f.frame f.hdrs (s.state.ipv6.packets k)
      (s.state.fragSpecs (.first p)).size).1 = some (len, identical) ∧
    let m := mergeFragEntries (s.state.fragEntries p) s.state.freeFragSpecList f.hdrs.frag.offset
      (UInt16.ofNat len) identical
    m.1 = true ∧ DefragLists.isComplete m.2.1 f.hdrs.frag.size = true

/-- A fragment that completes a datagram leaves the right payload length in its bytes, those the
packet has already and those of the fragment over them. -/
def LengthOk (s : LowpanDefragSession) : LowpanDefragEvent → Prop
  | .pass p => ∀ f k, s.lockedFor p = some f → p ∈ s.state.lockedList →
      (s.state.packets p).packet = some k → s.Completes p k f →
      (payloadLengthOf (splice (s.flat k) f.offset f.bytes)).toNat = f.size - 40
  | _ => True

/-- Every fragment that completes a datagram during a run leaves the right payload length. -/
def RunLengthOk (s : LowpanDefragSession) : List LowpanDefragEvent → Prop
  | [] => True
  | event :: events => s.LengthOk event ∧ RunLengthOk (s.step event) events

section Handed

variable {P : ReassemblyPred} {numPackets numFragSpecs : ℕ} {s : LowpanDefragSession}
  {t : DefragLists}

/-- A packet is handed up exactly when the frame completes it, with the bytes of the frame over
those it had. -/
theorem Inv.pass_handed (h : Inv P numPackets numFragSpecs s t) {p : ℕ} {f : LowpanReceivedFrame}
    (hfor : s.lockedFor p = some f) :
    ((s.passFrame p f).handed = s.handed ∧ ∀ k, p ∈ s.state.lockedList →
        (s.state.packets p).packet = some k → ¬ s.Completes p k f) ∨
      ∃ k content, p ∈ s.state.lockedList ∧ (s.state.packets p).packet = some k ∧
        s.Completes p k f ∧ (s.passFrame p f).handed = ⟨k, f.size, content⟩ :: s.handed ∧
        content.flat = splice (s.flat k) f.offset f.bytes ∧ content.flat.length = f.size := by
  obtain ⟨hans, hrep⟩ := LowpanDefragGlobalState.passFrame_refines h.represents h.partition f.frame
    f.hdrs (some p)
  have hlist := h.represents.lockedList_eq h.partition
  rcases DefragLists.unlock_cases (t := t) (some p) with ⟨hu, hnot⟩ |
    ⟨r, t₀, hu, hr, hid, -, ht₀⟩
  · refine Or.inl ⟨?_, fun k hp => ?_⟩
    · have hpass : t.passFrame f.frame f.hdrs (some p) = (none, t) := by
        rw [DefragLists.passFrame, hu]
      rw [hpass] at hans
      simp only [passFrame, hans, Option.map_none, Option.toList_none, List.nil_append]
    · rw [hlist] at hp
      obtain ⟨r, hr, rfl⟩ := List.mem_map.mp hp
      exact absurd rfl (hnot r hr)
  · obtain rfl : r.id = p := Option.some.inj hid
    have hlive : r ∈ t.live [] := by simp [DefragLists.live, hr]
    have hholds := h.represents.live r hlive
    have hpacket : (s.state.packets r.id).packet = some r.packet :=
      congrArg LowpanDefragPacketState.packet hholds.packet
    have hlocked : r.id ∈ s.state.lockedList := by
      rw [hlist]
      exact List.mem_map_of_mem hr
    obtain ⟨g, hg, -, hsize⟩ := h.lockedFor r hr
    obtain rfl : f = g := Option.some.inj (hfor.symm.trans hg)
    have hipv6₀ : t₀.ipv6 = s.state.ipv6 := by rw [ht₀, h.represents.ipv6]
    have hspecs₀ : t₀.freeFragSpecs = s.state.freeFragSpecList := by
      rw [ht₀, h.represents.freeFragSpecList_eq h.partition]
    have hfrags := h.represents.fragEntries_eq h.partition hlive
    have hfirst := hholds.first_size
    have hcases := DefragLists.passFrame_cases f.frame f.hdrs hu
    have hstate := hrep.ipv6
    rw [hipv6₀, hspecs₀, ← hfrags, ← hfirst] at hcases
    rcases hcases with ⟨hfailed, free, specs, hpass⟩ | ⟨len, identical, hc, hm, hcases⟩
    · rw [hpass] at hans
      refine Or.inl ⟨?_, fun k _ hk => ?_⟩
      · simp only [passFrame, hans, Option.map_none, Option.toList_none, List.nil_append]
      · obtain rfl : r.packet = k := Option.some.inj (hpacket.symm.trans hk)
        rintro ⟨len, identical, hc, hm, -⟩
        rw [hfailed len identical hc] at hm
        cases hm
    · obtain ⟨hlen, -, -, hflat, -⟩ := copyFragment_some f.holdsPayload hc
      rcases hcases with ⟨hcomplete, free, specs, hpass⟩ | ⟨hcomplete, specs, hpass⟩
      · rw [hpass] at hans hstate
        refine Or.inr ⟨r.packet, _, hlocked, hpacket, ⟨len, identical, hc, hm, hcomplete⟩, ?_, hflat,
          ?_⟩
        · simp only [passFrame]
          rw [hans, hstate]
          simp [Ipv6PacketHeap.write]
        · have hlen := (h.length r hlive).1
          rw [hflat, length_splice, LowpanReceivedFrame.size, hsize]
          exact hlen
      · rw [hpass] at hans
        refine Or.inl ⟨?_, fun k _ hk => ?_⟩
        · simp only [passFrame, hans, Option.map_none, Option.toList_none, List.nil_append]
        · obtain rfl : r.packet = k := Option.some.inj (hpacket.symm.trans hk)
          rintro ⟨len', identical', hc', -, hcomplete'⟩
          obtain ⟨rfl, rfl⟩ := Prod.mk.inj (Option.some.inj (hc.symm.trans hc'))
          rw [hcomplete] at hcomplete'
          cases hcomplete'

/-- One step: what it hands up keeps the law exactly when the payload length is right. -/
theorem Inv.lengthOk_iff (h : Inv P numPackets numFragSpecs s t) (event : LowpanDefragEvent) :
    (∀ e ∈ (s.step event).handed, DeliveryLaw e.size e.packet) ↔
      (∀ e ∈ s.handed, DeliveryLaw e.size e.packet) ∧ s.LengthOk event := by
  cases event with
  | pass p =>
    cases hfor : s.lockedFor p with
    | none =>
      have hstep : s.step (.pass p) = s := by rw [LowpanDefragSession.step, hfor]
      rw [hstep]
      refine (and_iff_left ?_).symm
      intro f k hf
      rw [hfor] at hf
      cases hf
    | some f =>
      have hstep : s.step (.pass p) = s.passFrame p f := by rw [LowpanDefragSession.step, hfor]
      rw [hstep]
      rcases h.pass_handed hfor with ⟨hsame, hnot⟩ |
        ⟨k, content, hlocked, hpacket, hcomplete, hhanded, hflat, hlen⟩
      · rw [hsame]
        refine (and_iff_left ?_).symm
        intro f' k hf' hlocked hpacket hcomplete
        obtain rfl : f = f' := Option.some.inj (hfor.symm.trans hf')
        exact absurd hcomplete (hnot k hlocked hpacket)
      · rw [hhanded, List.forall_mem_cons, and_comm, deliveryLaw_iff hlen, hflat]
        refine and_congr_right fun _ => ⟨fun hlaw f' k' hf' _ hpacket' _ => ?_, fun hok => ?_⟩
        · obtain rfl : f = f' := Option.some.inj (hfor.symm.trans hf')
          obtain rfl : k = k' := Option.some.inj (hpacket.symm.trans hpacket')
          exact hlaw
        · exact hok f k hfor hlocked hpacket hcomplete
  | _ => exact (and_iff_left trivial).symm

/-- A whole run. -/
theorem Inv.runLengthOk_iff (h : Inv (fun _ _ _ => True) numPackets numFragSpecs s t)
    (events : List LowpanDefragEvent) :
    (∀ e ∈ (events.foldl LowpanDefragSession.step s).handed, DeliveryLaw e.size e.packet) ↔
      (∀ e ∈ s.handed, DeliveryLaw e.size e.packet) ∧ s.RunLengthOk events := by
  induction events generalizing s t with
  | nil => exact (and_iff_left trivial).symm
  | cons event events ih =>
    obtain ⟨t', h'⟩ := h.step kept_true event
      (runOk_of_forall (fun _ _ _ _ => trivial) s [event]).1
    rw [List.foldl_cons, ih h', h.lengthOk_iff event, and_assoc]
    rfl

/-- The packets handed up from single frames are those of these frames. -/
theorem run_entire (events : List LowpanDefragEvent)
    (h : ∀ e ∈ s.entire, e.2.flat = e.1.rawBytes ∧ DeliveryLaw e.1.rawBytes.length e.2) :
    ∀ e ∈ (events.foldl step s).entire,
      e.2.flat = e.1.rawBytes ∧ DeliveryLaw e.1.rawBytes.length e.2 := by
  induction events generalizing s with
  | nil => exact h
  | cons event events ih =>
    refine ih ?_
    cases event with
    | entire f answers fits =>
      intro e he
      rcases List.mem_append.mp he with hnew | hold
      · rw [Option.mem_toList, Option.map_eq_some_iff] at hnew
        obtain ⟨packet, hpacket, rfl⟩ := hnew
        exact entire_deliveryLaw f fits hpacket
      · exact h e hold
    | pass p =>
      cases hfor : s.lockedFor p with
      | none =>
        simp only [step, hfor]
        exact h
      | some f =>
        simp only [step, hfor]
        exact h
    | _ => exact h

end Handed

end LowpanDefragSession

/-- Every packet handed up from a single frame keeps the law, and the chain of every packet handed
up from fragments has the length of the datagram without the header.  The packets handed up from
fragments keep the law exactly in those runs in which every fragment that completes a datagram leaves
the right payload length in its bytes. -/
theorem lowpanDefragmenter_deliveryLaw (memory : LowpanDefragGlobalState)
    (pktsArrLen fragSpecArrLen : ℕ) (events : List LowpanDefragEvent) :
    let s := LowpanDefragSession.run memory pktsArrLen fragSpecArrLen events
    (∀ e ∈ s.entire, e.2.flat = e.1.rawBytes ∧ DeliveryLaw e.1.rawBytes.length e.2) ∧
    (∀ e ∈ s.handed, iovGetTotalLength e.packet.firstPayloadIov = e.size - 40) ∧
    ((∀ e ∈ s.handed, DeliveryLaw e.size e.packet) ↔
      (LowpanDefragSession.start memory pktsArrLen fragSpecArrLen).RunLengthOk events) := by
  have hstart := LowpanDefragSession.inv_start (fun _ _ _ => True) memory pktsArrLen fragSpecArrLen
  refine ⟨?_, fun e he => ?_, ?_⟩
  · exact LowpanDefragSession.run_entire events fun e he => absurd he List.not_mem_nil
  · have hrun := LowpanDefragSession.runOk_of_forall (fun _ _ _ _ => trivial)
      (LowpanDefragSession.start memory pktsArrLen fragSpecArrLen) events
    obtain ⟨t, h⟩ := hstart.run kept_true events hrun
    have hlen := (h.handed e he).1
    rw [Ipv6Packet.length_flat] at hlen
    rw [iovGetTotalLength_eq]
    omega
  · refine (hstart.runLengthOk_iff events).trans (and_iff_right ?_)
    exact fun e he => absurd he List.not_mem_nil

/-! ## A fragment with a wrong payload length -/

/-- The first fragment of a datagram of 40 bytes, which is all of it; the payload length in the
header is one. -/
def wrongLengthFrame : LowpanReceivedFrame where
  frame := shortAddrFrame ([0xc0, 40, 0, 1, 0x41, 0x60, 0, 0, 0, 0, 1, 59, 64] ++ List.replicate 32 0)
  hdrs := lowpanDefragmenterCreateVirtualMeshHeaderIfNecessary
    (shortAddrFrame ([0xc0, 40, 0, 1, 0x41, 0x60, 0, 0, 0, 0, 1, 59, 64] ++ List.replicate 32 0))
    { lowpanNoHeaders with bitmap := ⟨true, false, false⟩, nextOffset := 4, frag := ⟨1, 40, 0⟩ }
  holdsPayload := by decide
  unpacked := ⟨lowpanNoHeaders, _, by decide, rfl⟩

/-- The session in which that frame arrives. -/
def wrongLengthEvents : List LowpanDefragEvent :=
  [.find wrongLengthFrame 0 ⟨some .zero, []⟩ trivial, .pass 0]

theorem wrongLength_handed :
    (LowpanDefragSession.run zeroMemory 1 0 wrongLengthEvents).handed.map
      (fun e => (e.size, ipv6BasicHeaderGetPayloadLength e.packet.header)) = [(40, 1)] := by
  decide

/-- The law does not hold of everything that is handed up. -/
theorem deliveryLaw_fails :
    ¬ ∀ (memory : LowpanDefragGlobalState) (pktsArrLen fragSpecArrLen : ℕ)
      (events : List LowpanDefragEvent),
      let s := LowpanDefragSession.run memory pktsArrLen fragSpecArrLen events
      (∀ e ∈ s.entire, DeliveryLaw e.1.rawBytes.length e.2) ∧
        ∀ e ∈ s.handed, DeliveryLaw e.size e.packet := by
  intro h
  have hmem : (40, 1) ∈ (LowpanDefragSession.run zeroMemory 1 0 wrongLengthEvents).handed.map
      (fun e => (e.size, ipv6BasicHeaderGetPayloadLength e.packet.header)) := by
    rw [wrongLength_handed]
    exact List.mem_singleton_self _
  obtain ⟨e, he, heq⟩ := List.mem_map.mp hmem
  obtain ⟨hsize, hlen⟩ := Prod.mk.inj heq
  have hheader := ((h zeroMemory 1 0 wrongLengthEvents).2 e he).header
  rw [hsize, hlen] at hheader
  exact absurd hheader (by decide)

end Whip6
