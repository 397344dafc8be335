import Whip6.Ipv6.ExtensionHeader
import Whip6.Udp.ChecksumAgreement

/-!
# The length of an incoming datagram

The receiver has three lengths from the wire: the payload length of the packet, the bytes that
were skipped as extension headers, and the length in the UDP header; and there is the chain of the
packet, which may be longer than its payload length.  The length in the UDP header is compared with
the whole payload length, so that a datagram may reach behind the payload when the chain goes on
there.
-/

namespace Whip6

open Lib

/-- The state of an incoming packet, as the path of IPv6 packets hands it over. -/
def udpInPacket (packet : Ipv6Packet) (q : Ipv6InPacket) : Ipv6InPacketProcessingState where
  packet := packet
  nextHeaderId := q.nextHeaderId
  destinedAtIface := q.destinedAtIface
  payloadOffset := q.payloadOffset.toNat
  payloadIter := q.payloadIter

namespace Ipv6InPacketProcessingState

variable (inPacket : Ipv6InPacketProcessingState)

/-- The bytes of the chain that were skipped as extension headers. -/
def skipped : ℕ := iovIterPos (iovLens inPacket.packet.firstPayloadIov) inPacket.payloadIter

/-- The bytes of the chain from the UDP header on. -/
def datagram : List UInt8 := inPacket.packet.firstPayloadIov.flatten.drop inPacket.skipped

def udpHeader : List UInt8 := inPacket.datagram.take 8

def udpLength : ℕ := (udpHeaderGetLength inPacket.udpHeader).toNat

def payloadLength : ℕ := (ipv6BasicHeaderGetPayloadLength inPacket.packet.header).toNat

end Ipv6InPacketProcessingState

open Ipv6InPacketProcessingState

section Delivery

variable (M : ℕ) (socketTakes : UInt16 → UInt16 → List UInt8 → Bool)
  (inPacket : Ipv6InPacketProcessingState)

/-- The packet is accepted, and after some runs of the task a payload of `payloadSize` bytes is
passed to the socket. -/
def DeliversUdp (payloadSize : ℕ) : Prop :=
  ∃ inState, startReceivingIPv6Packet socketTakes inPacket = some inState ∧
    ∃ k inState', (handleIncomingPacketTask M)^[k] (.checking inState) = .intact inState' ∧
      payloadSize = inState'.iovTotal - 8

/-- A datagram is delivered only with a length that its header and the rest of the payload allow,
and with no more bytes than there are behind its header. -/
def UdpLengthsSound : Prop :=
  ∀ payloadSize, DeliversUdp M socketTakes inPacket payloadSize →
    8 ≤ inPacket.udpLength ∧ inPacket.udpLength ≤ inPacket.payloadLength - inPacket.skipped ∧
      8 ≤ inPacket.datagram.length ∧ payloadSize ≤ inPacket.datagram.length - 8

/-- What the receiver checks of a packet before it accepts it. -/
structure AcceptsUdp : Prop where
  nextHeaderId : inPacket.nextHeaderId = WHIP6_IANA_IPV6_UDP
  destinedAtIface : inPacket.destinedAtIface = true
  header_room : inPacket.payloadOffset + 8 ≤ inPacket.payloadLength
  header : 8 ≤ inPacket.datagram.length
  takes : socketTakes (udpHeaderGetDstPort inPacket.udpHeader)
    (udpHeaderGetSrcPort inPacket.udpHeader)
    (ipv6BasicHeaderGetSrcAddr inPacket.packet.header) = true
  header_le : 8 ≤ inPacket.udpLength
  length_le : inPacket.udpLength ≤ inPacket.payloadLength

/-- The bytes of the datagram are there, and their checksum is right. -/
structure IntactUdp : Prop where
  present : inPacket.udpLength ≤ inPacket.datagram.length
  checksum : internetChecksum (udpPseudoHeader inPacket.packet.header inPacket.udpLength ++
    inPacket.datagram.take inPacket.udpLength) = 0

end Delivery

/-! ## Accepting a packet -/

section Run

variable {M : ℕ} {socketTakes : UInt16 → UInt16 → List UInt8 → Bool}
  {inPacket : Ipv6InPacketProcessingState}

theorem length_datagram : inPacket.datagram.length =
    inPacket.packet.firstPayloadIov.flatten.length - inPacket.skipped := by
  rw [datagram, List.length_drop]

/-- A packet is accepted when it passes the checks, with the length of its UDP header. -/
theorem startReceiving_spec
    (h : IovIterWithin (iovLens inPacket.packet.firstPayloadIov) inPacket.payloadIter) :
    (AcceptsUdp socketTakes inPacket →
        ∃ inState, startReceivingIPv6Packet socketTakes inPacket = some inState) ∧
      ∀ inState, startReceivingIPv6Packet socketTakes inPacket = some inState →
        AcceptsUdp socketTakes inPacket ∧ inState.ipv6State = inPacket ∧
          inState.iovProcessed = 0 ∧ inState.iovTotal = inPacket.udpLength := by
  obtain ⟨hcount, -, -, hbuf⟩ := iovIteratorRead_within h (List.replicate 8 0) 8
  change _ = min 8 (inPacket.packet.firstPayloadIov.flatten.length - inPacket.skipped) at hcount
  rw [← length_datagram] at hcount
  have hread : (iovIteratorReadAndMoveForward inPacket.packet.firstPayloadIov inPacket.payloadIter
      (some (List.replicate 8 0)) 8).1 = 8 ↔ 8 ≤ inPacket.datagram.length := by
    omega
  have hhdr : 8 ≤ inPacket.datagram.length → (iovIteratorReadAndMoveForward
      inPacket.packet.firstPayloadIov inPacket.payloadIter
      (some (List.replicate 8 0)) 8).2.2.getD [] = inPacket.udpHeader := by
    intro hlen
    rw [hbuf, Option.getD_some, udpHeader, datagram]
    apply splice_all
    rw [datagram, skipped] at hlen
    rw [List.length_replicate, List.length_take, Nat.min_eq_left hlen]
  unfold startReceivingIPv6Packet
  dsimp only
  constructor
  · intro ha
    have hroom := ha.header_room
    have hle := ha.header_le
    have hle' := ha.length_le
    rw [payloadLength] at hroom hle'
    rw [udpLength] at hle hle'
    rw [hhdr ha.header, if_neg (not_not_intro ha.nextHeaderId),
      if_neg (not_not_intro ha.destinedAtIface), if_neg (by omega),
      if_neg (not_not_intro (hread.mpr ha.header)), if_neg (not_not_intro ha.takes),
      if_neg (by omega)]
    exact ⟨_, rfl⟩
  · intro inState hstart
    split_ifs at hstart with hnext hdestined hroom hshort htakes hlength
    rw [not_not] at hnext hshort
    have hheader := hread.mp hshort
    rw [hhdr hheader] at htakes hlength hstart
    obtain rfl := Option.some.inj hstart
    refine ⟨⟨hnext, hdestined, ?_, hheader, htakes, ?_, ?_⟩, rfl, rfl, rfl⟩
    · rw [payloadLength]
      omega
    · rw [udpLength]
      omega
    · rw [udpLength, payloadLength]
      omega

/-! ## Verifying a datagram -/

/-- The receiver has summed up `ps` and what its iterator has passed from the byte `p` of the chain
on; the chain may end before the datagram does. -/
structure InSummed (inState : UdpInState) (p : ℕ) (ps : List UInt8) : Prop where
  processed_pos : 0 < inState.iovProcessed
  processed_le : inState.iovProcessed ≤ inState.iovTotal
  passed : p + inState.iovProcessed ≤ inState.ipv6State.packet.firstPayloadIov.flatten.length
  within : IovIterWithin (iovLens inState.ipv6State.packet.firstPayloadIov) inState.iovIter
  pos : iovIterPos (iovLens inState.ipv6State.packet.firstPayloadIov) inState.iovIter =
    p + inState.iovProcessed
  covers : inState.csComp.Covers
    (ps ++ (inState.ipv6State.packet.firstPayloadIov.flatten.drop p).take inState.iovProcessed)

variable (inPacket) in
/-- What is known of a verification: how far it has got, and at the end that it was right. -/
def UdpInStatus.Verifies : UdpInStatus → Prop
  | .checking inState => inState.ipv6State = inPacket ∧ inState.iovTotal = inPacket.udpLength ∧
      (inState.iovProcessed = 0 ∨
        InSummed inState inPacket.skipped
          (udpPseudoHeader inPacket.packet.header inPacket.udpLength))
  | .intact inState => inState.iovTotal = inPacket.udpLength ∧ IntactUdp inPacket
  | .failed => True

theorem initChecksum_verifies {inState : UdpInState}
    (h : IovIterWithin (iovLens inPacket.packet.firstPayloadIov) inPacket.payloadIter)
    (hstate : inState.ipv6State = inPacket) (htotal : inState.iovTotal = inPacket.udpLength)
    (hle : 8 ≤ inPacket.udpLength) :
    (initChecksumComputationForInPacket inState).Verifies inPacket := by
  subst hstate
  have hps := covers_udpPseudoHeader inState.ipv6State.packet.header inState.iovTotal
  obtain ⟨hcount, hwithin, hpos, hcov⟩ := provideWithIov_spec
    (ipv6ChecksumComputationProvideIpv6PseudoHeader ipv6ChecksumComputationInit
      (ipv6BasicHeaderGetSrcAddr inState.ipv6State.packet.header)
      (ipv6BasicHeaderGetDstAddr inState.ipv6State.packet.header)
      (UInt32.ofNat inState.iovTotal) WHIP6_IANA_IPV6_UDP).2 h 8
  unfold initChecksumComputationForInPacket
  dsimp only
  split_ifs with hfull
  · have hroom : inState.ipv6State.skipped + 8 ≤
        inState.ipv6State.packet.firstPayloadIov.flatten.length := by
      rw [hfull] at hcount
      rw [Ipv6InPacketProcessingState.skipped]
      omega
    refine ⟨rfl, htotal, Or.inr ⟨Nat.succ_pos 7, by rw [htotal]; exact hle, hroom, hwithin, ?_,
      ?_⟩⟩
    · exact hpos.trans (congrArg _ hfull)
    · rw [← htotal]
      exact hcov _ hps
  · trivial

theorem contChecksum_verifies {M : ℕ} {inState : UdpInState}
    (hstate : inState.ipv6State = inPacket) (htotal : inState.iovTotal = inPacket.udpLength)
    (h : InSummed inState inPacket.skipped
      (udpPseudoHeader inPacket.packet.header inPacket.udpLength))
    (hlt : inState.iovProcessed < inState.iovTotal) :
    (contChecksumComputationForInPacket M inState
      (inState.iovTotal - inState.iovProcessed)).Verifies inPacket := by
  obtain ⟨hpp, hle, hpassed, hwithin, hpos, hcovers⟩ := h
  obtain ⟨hcount, hwithin', hpos', hcov⟩ := provideWithIov_spec inState.csComp hwithin
    (min (inState.iovTotal - inState.iovProcessed) M)
  rw [hpos] at hcount hpos' hcov
  unfold contChecksumComputationForInPacket
  dsimp only
  split_ifs with hfull
  · refine ⟨hstate, htotal, Or.inr ⟨Nat.add_pos_left hpp _, ?_, ?_, hwithin', ?_, ?_⟩⟩
    · dsimp only
      omega
    · dsimp only
      omega
    · exact hpos'.trans (Nat.add_assoc _ _ _)
    · have hsum := hcov _ hcovers
      rw [List.append_assoc, ← List.drop_drop, take_append_take_drop] at hsum
      dsimp only
      rw [hfull]
      exact hsum
  · trivial

theorem endChecksum_verifies {inState : UdpInState}
    (hstate : inState.ipv6State = inPacket) (htotal : inState.iovTotal = inPacket.udpLength)
    (h : InSummed inState inPacket.skipped
      (udpPseudoHeader inPacket.packet.header inPacket.udpLength))
    (hdone : inState.iovProcessed = inState.iovTotal) :
    (endChecksumComputationForInPacket inState).Verifies inPacket := by
  unfold endChecksumComputationForInPacket
  split_ifs with hsum hmove
  · trivial
  · trivial
  · have hcovers := h.covers
    have hpassed := h.passed
    rw [hdone, htotal, hstate] at hcovers hpassed
    refine ⟨htotal, ?_, ?_⟩
    · rw [length_datagram]
      omega
    · obtain ⟨xs, hps, -, hxs⟩ := udpPseudoHeader_eq inPacket.packet.header inPacket.udpLength
      have hlt : inPacket.udpLength < 65536 := UInt16.toNat_lt _
      have hfinal := hcovers.finalize (by
        rw [hps]
        simp only [List.length_append, List.length_cons, List.length_nil, List.length_take]
        omega)
      rw [not_not.mp hsum] at hfinal
      exact hfinal.symm

theorem handleIncomingPacketTask_verifies {M : ℕ} {status : UdpInStatus}
    (h : IovIterWithin (iovLens inPacket.packet.firstPayloadIov) inPacket.payloadIter)
    (hle : 8 ≤ inPacket.udpLength) (hv : status.Verifies inPacket) :
    (handleIncomingPacketTask M status).Verifies inPacket := by
  cases status with
  | checking inState =>
    obtain ⟨hstate, htotal, hsummed⟩ := hv
    unfold handleIncomingPacketTask
    dsimp only
    split_ifs with hzero hlt
    · exact initChecksum_verifies h hstate htotal hle
    · exact contChecksum_verifies hstate htotal (hsummed.resolve_left hzero) hlt
    · have hin := hsummed.resolve_left hzero
      exact endChecksum_verifies hstate htotal hin (le_antisymm hin.processed_le (not_lt.mp hlt))
  | intact inState => exact hv
  | failed => trivial

/-- Over any number of runs of the task. -/
theorem handleIncomingPacketTask_run {M : ℕ} {status : UdpInStatus}
    (h : IovIterWithin (iovLens inPacket.packet.firstPayloadIov) inPacket.payloadIter)
    (hle : 8 ≤ inPacket.udpLength) (hv : status.Verifies inPacket) (k : ℕ) :
    ((handleIncomingPacketTask M)^[k] status).Verifies inPacket := by
  induction k with
  | zero => exact hv
  | succ k ih =>
    rw [Function.iterate_succ_apply']
    exact handleIncomingPacketTask_verifies h hle ih

/-! ## What is delivered -/

/-- A datagram is delivered exactly when its packet passes the checks of the receiver, with the
length of its UDP header less the header. -/
theorem deliversUdp_iff (hM : 0 < M)
    (h : IovIterWithin (iovLens inPacket.packet.firstPayloadIov) inPacket.payloadIter)
    (payloadSize : ℕ) :
    DeliversUdp M socketTakes inPacket payloadSize ↔
      AcceptsUdp socketTakes inPacket ∧ IntactUdp inPacket ∧
        payloadSize = inPacket.udpLength - 8 := by
  obtain ⟨haccept, hstarted⟩ := @startReceiving_spec socketTakes inPacket h
  constructor
  · rintro ⟨inState, hstart, k, inState', hrun, rfl⟩
    obtain ⟨ha, hstate, hproc, htotal⟩ := hstarted inState hstart
    have hv : (UdpInStatus.checking inState).Verifies inPacket := ⟨hstate, htotal, Or.inl hproc⟩
    have hend := handleIncomingPacketTask_run (M := M) h ha.header_le hv k
    rw [hrun] at hend
    obtain ⟨htotal', hintact⟩ := hend
    exact ⟨ha, hintact, by rw [htotal']⟩
  · rintro ⟨ha, hintact, rfl⟩
    obtain ⟨inState, hstart⟩ := haccept ha
    obtain ⟨-, rfl, hproc, htotal⟩ := hstarted inState hstart
    have hlen : (inState.ipv6State.datagram.take inState.iovTotal).length = inState.iovTotal := by
      rw [List.length_take, htotal]
      exact Nat.min_eq_left hintact.present
    have hzero := hintact.checksum
    rw [← htotal] at hzero
    have hle := ha.header_le
    obtain ⟨k, inState', hrun, -⟩ := receiver_finishes hM
      (inState.ipv6State.datagram.take inState.iovTotal) hproc (by omega)
      (by rw [htotal]; exact UInt16.toNat_lt _) h rfl hlen hzero
    have hv : (UdpInStatus.checking inState).Verifies inState.ipv6State :=
      ⟨rfl, htotal, Or.inl hproc⟩
    have hend := handleIncomingPacketTask_run (M := M) h ha.header_le hv k
    rw [hrun] at hend
    exact ⟨inState, hstart, k, inState', hrun, by rw [hend.1]⟩

/-- The iterator of a packet that was taken up at its beginning and whose headers were skipped has
moved by the offset of its payload. -/
theorem payloadOffset_eq_skipped {packet : Ipv6Packet} {start q : Ipv6InPacket}
    (hiter : start.payloadIter = iovIteratorInitToBeginning packet.firstPayloadIov)
    (hoffset : start.payloadOffset = 0) (hrun : Skips packet.firstPayloadIov start q)
    (hlen : packet.firstPayloadIov.flatten.length < 2 ^ 16) :
    (udpInPacket packet q).payloadOffset = (udpInPacket packet q).skipped := by
  have hwithin : IovIterWithin (iovLens packet.firstPayloadIov) start.payloadIter := by
    rw [hiter]
    exact iovIteratorInitToBeginning_within _
  obtain ⟨hstands, htracked⟩ := hrun.tracked hwithin
  have hle := hstands.pos_le
  rw [hiter, hoffset, iovIteratorInitToBeginning_pos] at htracked
  have hcount := htracked.offset.toNat (by rw [Nat.sub_zero, UInt16.toNat_zero]; omega)
  rw [Nat.sub_zero, UInt16.toNat_zero, Nat.zero_add] at hcount
  exact hcount

/-! ## The law of the lengths -/

variable (socketTakes inPacket) in
/-- A datagram that is right in all the receiver checks and reaches behind the payload of its
packet, where the chain goes on: its length is at most the whole payload length, and more than what
the extension headers have left of it. -/
structure ReachesBehindPayload : Prop
    extends AcceptsUdp socketTakes inPacket, IntactUdp inPacket where
  behind : inPacket.payloadLength < inPacket.skipped + inPacket.udpLength

/-- The receiver keeps to the lengths, except for the datagrams that reach behind the payload of
their packet. -/
theorem udp_lengthsSound_iff (hM : 0 < M)
    (h : IovIterWithin (iovLens inPacket.packet.firstPayloadIov) inPacket.payloadIter) :
    UdpLengthsSound M socketTakes inPacket ↔ ¬ ReachesBehindPayload socketTakes inPacket := by
  constructor
  · rintro hsound ⟨ha, hintact, hbehind⟩
    have hle := ha.header_le
    obtain ⟨-, hle', -⟩ := hsound _ ((deliversUdp_iff hM h _).mpr ⟨ha, hintact, rfl⟩)
    omega
  · intro hnot payloadSize hdelivers
    obtain ⟨ha, hintact, rfl⟩ := (deliversUdp_iff hM h payloadSize).mp hdelivers
    have hpresent := hintact.present
    have hpayload : ¬ inPacket.payloadLength < inPacket.skipped + inPacket.udpLength :=
      fun hbehind => hnot ⟨ha, hintact, hbehind⟩
    exact ⟨ha.header_le, by omega, ha.header, by omega⟩

/-- Where the chain ends with the payload, no datagram reaches behind it. -/
theorem not_reachesBehindPayload
    (hlen : inPacket.packet.firstPayloadIov.flatten.length ≤ inPacket.payloadLength) :
    ¬ ReachesBehindPayload socketTakes inPacket := by
  rintro ⟨ha, hintact, hbehind⟩
  have hle := ha.header_le
  have hpresent := hintact.present
  rw [length_datagram] at hpresent
  omega

end Run

/-- A packet with one extension header and a datagram of 24 bytes that are all zero, apart from what
the headers need.  The payload length is a parameter; the chain has 32 bytes. -/
def packetWithDatagram (payloadLength : UInt8) : Ipv6Packet where
  header := ⟨[0x60, 0, 0, 0, 0, payloadLength, 0, 64] ++ List.replicate 32 0, rfl⟩
  firstPayloadIov := [[17, 0, 0, 0, 0, 0, 0, 0], [0, 1, 0, 2, 0, 24, 0xff, 0xbb],
    List.replicate 16 0]

/-- The state of the packet before its extension header is skipped. -/
def inPacketWithDatagram : Ipv6InPacket where
  packet := 0
  payloadIter := iovIteratorInitToBeginning (packetWithDatagram 0).firstPayloadIov
  payloadOffset := 0
  processingDone := false
  beingProcessed := true
  destinedAtIface := true
  ifaceId := 0
  nextHeaderId := 0

/-- The same after the extension header was skipped. -/
def inPacketWithDatagramSkipped : Ipv6InPacket :=
  (Ipv6IncomingPath.skipHeader (packetWithDatagram 0).firstPayloadIov inPacketWithDatagram).1

theorem skips_inPacketWithDatagram :
    Skips (packetWithDatagram 0).firstPayloadIov inPacketWithDatagram inPacketWithDatagramSkipped :=
  .snoc .nil (by decide +kernel) ⟨rfl, rfl, rfl⟩

theorem within_inPacketWithDatagram :
    IovIterWithin (iovLens (packetWithDatagram 0).firstPayloadIov)
      inPacketWithDatagramSkipped.payloadIter :=
  (skips_inPacketWithDatagram.tracked (iovIteratorInitToBeginning_within _)).1

/-- A payload of 32 bytes has room for the extension header and the datagram. -/
theorem udp_lengthsSound_32 :
    UdpLengthsSound 3 (fun _ _ _ => true)
      (udpInPacket (packetWithDatagram 32) inPacketWithDatagramSkipped) := by
  refine (udp_lengthsSound_iff (by decide) within_inPacketWithDatagram).mpr fun hreaches => ?_
  exact absurd hreaches.behind (by decide +kernel)

/-- Of a payload of 24 bytes the extension header leaves 16, and the datagram is delivered. -/
theorem udp_not_lengthsSound :
    let packet := packetWithDatagram 24
    Skips packet.firstPayloadIov inPacketWithDatagram inPacketWithDatagramSkipped ∧
      DeliversUdp 3 (fun _ _ _ => true) (udpInPacket packet inPacketWithDatagramSkipped) 16 ∧
      (udpInPacket packet inPacketWithDatagramSkipped).udpLength = 24 ∧
      (udpInPacket packet inPacketWithDatagramSkipped).payloadLength -
        (udpInPacket packet inPacketWithDatagramSkipped).skipped = 16 ∧
      ¬ UdpLengthsSound 3 (fun _ _ _ => true)
        (udpInPacket packet inPacketWithDatagramSkipped) := by
  intro packet
  have hdelivers : DeliversUdp 3 (fun _ _ _ => true)
      (udpInPacket packet inPacketWithDatagramSkipped) 16 := by
    refine (deliversUdp_iff (by decide) within_inPacketWithDatagram 16).mpr
      ⟨⟨?_, ?_, ?_, ?_, rfl, ?_, ?_⟩, ⟨?_, ?_⟩, ?_⟩ <;> decide +kernel
  refine ⟨skips_inPacketWithDatagram, hdelivers, by decide +kernel, by decide +kernel,
    fun hsound => ?_⟩
  exact absurd (hsound 16 hdelivers).2.1 (by decide +kernel)

end Whip6
