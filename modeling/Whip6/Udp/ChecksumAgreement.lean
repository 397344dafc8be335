import Whip6.Udp.RawSocketChecksum

/-!
# The sender and the receiver of a datagram agree on its checksum

Both sides run an invariant of the same shape through their slices: the computation covers the
pseudo-header and what the iterator has passed.  When a side is done, its computation covers the
whole datagram, and `internetChecksum_patch` relates the two strings.
-/

namespace Whip6

open Lib

/-! ## The sender's slices -/

/-- The sender has summed up the string `ps` and the bytes its iterator has passed. -/
structure OutCovers (out : UdpOutState) (ps : List UInt8) : Prop where
  action : out.action = .continueComputingChecksum
  processed_le : out.iovProcessed ≤ out.iovTotal
  total_le : out.iovTotal ≤ out.packet.firstPayloadIov.flatten.length
  within : IovIterWithin (iovLens out.packet.firstPayloadIov) out.iovIter
  pos : iovIterPos (iovLens out.packet.firstPayloadIov) out.iovIter = out.iovProcessed
  covers : out.csComp.Covers (ps ++ out.packet.firstPayloadIov.flatten.take out.iovProcessed)

/-- The string a UDP computation starts with. -/
def udpPseudoHeader (hdr : Ipv6BasicHeader) (len : ℕ) : List UInt8 :=
  ipv6PseudoHeaderBytes (ipv6BasicHeaderGetSrcAddr hdr) (ipv6BasicHeaderGetDstAddr hdr)
    (UInt32.ofNat len) WHIP6_IANA_IPV6_UDP

theorem covers_udpPseudoHeader (hdr : Ipv6BasicHeader) (len : ℕ) :
    (ipv6ChecksumComputationProvideIpv6PseudoHeader ipv6ChecksumComputationInit
      (ipv6BasicHeaderGetSrcAddr hdr) (ipv6BasicHeaderGetDstAddr hdr) (UInt32.ofNat len)
      WHIP6_IANA_IPV6_UDP).2.Covers (udpPseudoHeader hdr len) :=
  covers_init.pseudoHeader (length_getSrcAddr hdr) (length_getDstAddr hdr) _ _

theorem initChecksumComputationForOutPacket_covers {out : UdpOutState}
    (htotal : (ipv6BasicHeaderGetPayloadLength out.packet.header).toNat ≤
      out.packet.firstPayloadIov.flatten.length) :
    OutCovers (initChecksumComputationForOutPacket out) (udpPseudoHeader out.packet.header
      (ipv6BasicHeaderGetPayloadLength out.packet.header).toNat) := by
  constructor
  · rfl
  · exact Nat.zero_le _
  · exact htotal
  · exact iovIteratorInitToBeginning_within _
  · exact iovIteratorInitToBeginning_pos _
  · simp only [initChecksumComputationForOutPacket, List.take_zero, List.append_nil]
    exact covers_udpPseudoHeader _ _

theorem take_append_take_drop {α : Type*} (xs : List α) (m n : ℕ) :
    xs.take m ++ (xs.drop m).take n = xs.take (m + n) := by
  rw [List.take_add]

theorem OutCovers.slice {M : ℕ} (hM : 0 < M) {out : UdpOutState} {ps : List UInt8}
    (h : OutCovers out ps) (hlt : out.iovProcessed < out.iovTotal) :
    let out' := handleOutgoingPacketTask M out
    OutCovers out' ps ∧ out'.packet = out.packet ∧ out'.iovTotal = out.iovTotal ∧
      out.iovProcessed < out'.iovProcessed := by
  have htotal := h.total_le
  obtain ⟨hcount, hwithin, hpos, hcov⟩ := provideWithIov_spec out.csComp h.within
    (min (out.iovTotal - out.iovProcessed) M)
  rw [h.pos] at hcount hpos hcov
  have hfull := hcount.trans (Nat.min_eq_left (by omega))
  have hstep : handleOutgoingPacketTask M out =
      { out with
        csComp := (ipv6ChecksumComputationProvideWithIovAndAdvanceIovIterator out.csComp
          out.packet.firstPayloadIov out.iovIter
          (min (out.iovTotal - out.iovProcessed) M)).2.2
        iovIter := (ipv6ChecksumComputationProvideWithIovAndAdvanceIovIterator out.csComp
          out.packet.firstPayloadIov out.iovIter
          (min (out.iovTotal - out.iovProcessed) M)).2.1
        iovProcessed := out.iovProcessed + min (out.iovTotal - out.iovProcessed) M } := by
    simp only [handleOutgoingPacketTask, h.action, contChecksumComputationForOutPacket]
    rw [if_neg (by omega), if_neg (not_not.mpr hfull)]
  rw [hstep]
  refine ⟨⟨h.action, ?_, htotal, hwithin, hpos.trans (by rw [hfull]), ?_⟩, rfl, rfl, ?_⟩
  · simp only
    omega
  · have h' := hcov _ h.covers
    rwa [List.append_assoc, take_append_take_drop] at h'
  · simp only
    omega

/-- Slice by slice, the sender gets to the end of the datagram. -/
theorem OutCovers.run {M : ℕ} (hM : 0 < M) {out : UdpOutState} {ps : List UInt8}
    (h : OutCovers out ps) :
    ∃ n, OutCovers ((handleOutgoingPacketTask M)^[n] out) ps ∧
      ((handleOutgoingPacketTask M)^[n] out).packet = out.packet ∧
      ((handleOutgoingPacketTask M)^[n] out).iovProcessed = out.iovTotal ∧
      ((handleOutgoingPacketTask M)^[n] out).iovTotal = out.iovTotal := by
  -- every slice leaves fewer bytes to be processed
  induction hk : out.iovTotal - out.iovProcessed using Nat.strong_induction_on generalizing out with
  | _ k ih =>
    by_cases hlt : out.iovProcessed < out.iovTotal
    · obtain ⟨hcov, hpacket, htotal, hmore⟩ := h.slice hM hlt
      obtain ⟨n, hn⟩ := ih _ (by omega) hcov rfl
      refine ⟨n + 1, ?_⟩
      rw [hpacket, htotal] at hn
      exact hn
    · exact ⟨0, h, rfl, le_antisymm h.processed_le (by simpa using hlt), rfl⟩

/-! ## The receiver's slices -/

/-- The receiver has summed up `ps` and what its iterator has passed of the datagram that starts
at the byte `p` of the chain. -/
structure InCovers (inState : UdpInState) (p : ℕ) (ps : List UInt8) : Prop where
  processed_pos : 0 < inState.iovProcessed
  processed_le : inState.iovProcessed ≤ inState.iovTotal
  total_le : p + inState.iovTotal ≤ inState.ipv6State.packet.firstPayloadIov.flatten.length
  within : IovIterWithin (iovLens inState.ipv6State.packet.firstPayloadIov) inState.iovIter
  pos : iovIterPos (iovLens inState.ipv6State.packet.firstPayloadIov) inState.iovIter =
    p + inState.iovProcessed
  covers : inState.csComp.Covers
    (ps ++ (inState.ipv6State.packet.firstPayloadIov.flatten.drop p).take inState.iovProcessed)

theorem initChecksumComputationForInPacket_covers {inState : UdpInState} (htotal : 8 ≤ inState.iovTotal)
    (hwithin : IovIterWithin (iovLens inState.ipv6State.packet.firstPayloadIov)
      inState.ipv6State.payloadIter)
    (hlen : iovIterPos (iovLens inState.ipv6State.packet.firstPayloadIov)
        inState.ipv6State.payloadIter + inState.iovTotal ≤
      inState.ipv6State.packet.firstPayloadIov.flatten.length) :
    ∃ inState', initChecksumComputationForInPacket inState = .checking inState' ∧
      InCovers inState' (iovIterPos (iovLens inState.ipv6State.packet.firstPayloadIov)
          inState.ipv6State.payloadIter)
        (udpPseudoHeader inState.ipv6State.packet.header inState.iovTotal) ∧
      inState'.ipv6State = inState.ipv6State ∧ inState'.iovTotal = inState.iovTotal := by
  have hps := covers_udpPseudoHeader inState.ipv6State.packet.header inState.iovTotal
  obtain ⟨hcount, hwithin', hpos, hcov⟩ := provideWithIov_spec
    (ipv6ChecksumComputationProvideIpv6PseudoHeader ipv6ChecksumComputationInit
      (ipv6BasicHeaderGetSrcAddr inState.ipv6State.packet.header)
      (ipv6BasicHeaderGetDstAddr inState.ipv6State.packet.header)
      (UInt32.ofNat inState.iovTotal) WHIP6_IANA_IPV6_UDP).2 hwithin 8
  have hfull := hcount.trans (Nat.min_eq_left (by omega))
  refine ⟨_, if_pos hfull, ⟨by simp, htotal, hlen, hwithin', ?_, hcov _ hps⟩, rfl, rfl⟩
  exact hpos.trans (by rw [hfull])

theorem InCovers.slice {M : ℕ} (hM : 0 < M) {inState : UdpInState} {p : ℕ} {ps : List UInt8}
    (h : InCovers inState p ps) (hlt : inState.iovProcessed < inState.iovTotal) :
    ∃ inState', handleIncomingPacketTask M (.checking inState) = .checking inState' ∧
      InCovers inState' p ps ∧ inState'.ipv6State = inState.ipv6State ∧
      inState'.iovTotal = inState.iovTotal ∧ inState.iovProcessed < inState'.iovProcessed := by
  have htotal := h.total_le
  have hpp := h.processed_pos
  obtain ⟨hcount, hwithin, hpos, hcov⟩ := provideWithIov_spec inState.csComp h.within
    (min (inState.iovTotal - inState.iovProcessed) M)
  rw [h.pos] at hcount hpos hcov
  have hfull := hcount.trans (Nat.min_eq_left (by omega))
  have hstep : handleIncomingPacketTask M (.checking inState) =
      contChecksumComputationForInPacket M inState
        (inState.iovTotal - inState.iovProcessed) := by
    simp only [handleIncomingPacketTask]
    rw [if_neg (by omega), if_pos hlt]
  rw [contChecksumComputationForInPacket, if_pos hfull] at hstep
  refine ⟨_, hstep, ⟨?_, ?_, htotal, hwithin, ?_, ?_⟩, rfl, rfl, ?_⟩
  · simp only
    omega
  · simp only [hfull]
    omega
  · simp only [hpos, Nat.add_assoc]
  · have h' := hcov _ h.covers
    rw [List.append_assoc, ← List.drop_drop, take_append_take_drop] at h'
    simpa only [hfull] using h'
  · simp only [hfull]
    omega

theorem InCovers.run {M : ℕ} (hM : 0 < M) {inState : UdpInState} {p : ℕ} {ps : List UInt8}
    (h : InCovers inState p ps) :
    ∃ n inState', (handleIncomingPacketTask M)^[n] (.checking inState) = .checking inState' ∧
      InCovers inState' p ps ∧ inState'.ipv6State = inState.ipv6State ∧
      inState'.iovTotal = inState.iovTotal ∧ inState'.iovProcessed = inState.iovTotal := by
  induction hk : inState.iovTotal - inState.iovProcessed using Nat.strong_induction_on
    generalizing inState with
  | _ k ih =>
    by_cases hlt : inState.iovProcessed < inState.iovTotal
    · obtain ⟨inState', hstep, hcov, hstate, htotal, hmore⟩ := h.slice hM hlt
      obtain ⟨n, inState'', hrun, hcov', hstate', htotal', hdone⟩ := ih _ (by omega) hcov rfl
      refine ⟨n + 1, inState'', ?_, hcov', hstate'.trans hstate, htotal'.trans htotal,
        hdone.trans htotal⟩
      rw [Function.iterate_succ_apply, hstep, hrun]
    · exact ⟨0, inState, rfl, h, rfl, rfl, le_antisymm h.processed_le (by simpa using hlt)⟩

/-! ## The agreement -/

/-- The bytes of a UDP header. -/
def udpHeaderBytes (srcPort dstPort len cs : UInt16) : List UInt8 :=
  networkBytes srcPort ++ networkBytes dstPort ++ networkBytes len ++ networkBytes cs

@[simp] theorem length_udpHeaderBytes (srcPort dstPort len cs : UInt16) :
    (udpHeaderBytes srcPort dstPort len cs).length = 8 := rfl

/-- The datagram of an outgoing packet: a header with a zero checksum, and the data. -/
structure UdpWrapped (packet : Ipv6Packet) (srcPort dstPort : UInt16) (data : IovBlist) : Prop where
  chain : packet.firstPayloadIov = udpHeaderBytes srcPort dstPort
    (ipv6BasicHeaderGetPayloadLength packet.header) 0 :: data
  length_le : (ipv6BasicHeaderGetPayloadLength packet.header).toNat ≤ 8 + data.flatten.length
  header_le : 8 ≤ (ipv6BasicHeaderGetPayloadLength packet.header).toNat

theorem udpWrapData_wrapped {alloc : Option Ipv6Packet} {payloadIov : IovBlist} {payloadLen : ℕ}
    {udpHdrIov : IovElem} {srcSockAddr dstSockAddr : UdpSocketAddr} {packet : Ipv6Packet}
    (h : udpWrapDataIntoOutgoingIpv6PacketCarryingUdpDatagram alloc payloadIov payloadLen udpHdrIov
      srcSockAddr dstSockAddr = some packet) (hlen : payloadLen ≤ WHIP6_IPV6_MIN_MTU - 8) :
    UdpWrapped packet srcSockAddr.udpPortNo dstSockAddr.udpPortNo payloadIov := by
  unfold udpWrapDataIntoOutgoingIpv6PacketCarryingUdpDatagram at h
  rw [WHIP6_IPV6_MIN_MTU] at hlen
  split_ifs at h with hhdr htotal
  cases alloc with
  | none => cases h
  | some fresh =>
    obtain rfl := Option.some.inj h
    have hpl : ∀ hdr : Ipv6BasicHeader, ipv6BasicHeaderGetPayloadLength (ipv6BasicHeaderSetDstAddr
        (ipv6BasicHeaderSetSrcAddr (ipv6BasicHeaderSetHopLimit (ipv6BasicHeaderSetNextHeader
          (ipv6BasicHeaderSetPayloadLength hdr (UInt16.ofNat (payloadLen + 8)))
          WHIP6_IANA_IPV6_UDP) WHIP6_IPV6_DEFAULT_HOP_LIMIT) srcSockAddr.ipv6Addr)
          dstSockAddr.ipv6Addr) = UInt16.ofNat (payloadLen + 8) := by
      intro hdr
      rw [ipv6BasicHeaderSetDstAddr, getPayloadLength_overwrite _ _ (by omega),
        ipv6BasicHeaderSetSrcAddr, getPayloadLength_overwrite _ _ (by omega),
        ipv6BasicHeaderSetHopLimit, getPayloadLength_overwrite _ _ (by omega),
        ipv6BasicHeaderSetNextHeader, getPayloadLength_overwrite _ _ (by omega),
        getPayloadLength_setPayloadLength]
    have hnat : (UInt16.ofNat (payloadLen + 8)).toNat = payloadLen + 8 := by
      rw [UInt16.toNat_ofNat']
      omega
    rw [iovGetTotalLength_eq] at htotal
    constructor
    · simp only [hpl]
      rfl
    · simp only [hpl, hnat]
      omega
    · simp only [hpl, hnat]
      omega

/-- The packet that arrives is the one that was sent: the fields of the header that the checksum
is about are the same, and the bytes of the datagram lie ahead of the iterator. -/
structure SamePacket (sent : Ipv6Packet) (inPacket : Ipv6InPacketProcessingState) : Prop where
  nextHeaderId : inPacket.nextHeaderId = WHIP6_IANA_IPV6_UDP
  destinedAtIface : inPacket.destinedAtIface = true
  payloadOffset : inPacket.payloadOffset = 0
  payloadLength : ipv6BasicHeaderGetPayloadLength inPacket.packet.header =
    ipv6BasicHeaderGetPayloadLength sent.header
  srcAddr : ipv6BasicHeaderGetSrcAddr inPacket.packet.header = ipv6BasicHeaderGetSrcAddr sent.header
  dstAddr : ipv6BasicHeaderGetDstAddr inPacket.packet.header = ipv6BasicHeaderGetDstAddr sent.header
  within : IovIterWithin (iovLens inPacket.packet.firstPayloadIov) inPacket.payloadIter
  payload : (inPacket.packet.firstPayloadIov.flatten.drop
      (iovIterPos (iovLens inPacket.packet.firstPayloadIov) inPacket.payloadIter)).take
        (ipv6BasicHeaderGetPayloadLength sent.header).toNat =
    sent.firstPayloadIov.flatten.take (ipv6BasicHeaderGetPayloadLength sent.header).toNat

/-- A packet that arrives as it was sent, with its iterator at the beginning. -/
theorem samePacket_self (sent : Ipv6Packet) :
    SamePacket sent ⟨sent, WHIP6_IANA_IPV6_UDP, true, 0,
      iovIteratorInitToBeginning sent.firstPayloadIov⟩ where
  nextHeaderId := rfl
  destinedAtIface := rfl
  payloadOffset := rfl
  payloadLength := rfl
  srcAddr := rfl
  dstAddr := rfl
  within := iovIteratorInitToBeginning_within _
  payload := by rw [iovIteratorInitToBeginning_pos, List.drop_zero]

/-- The checksum word that the sender puts into a datagram makes the receiver's sum zero. -/
theorem internetChecksum_datagram {ps hdr6 rest : List UInt8} {nextHdr : UInt8} {cs : UInt16}
    (hps : ∃ xs, ps = xs ++ [0, nextHdr] ∧ xs.length % 2 = 0) (hnext : nextHdr ≠ 0)
    (hhdr : hdr6.length = 6)
    (hcs : cs.toNat = if internetChecksum (ps ++ (hdr6 ++ 0 :: 0 :: rest)) = 0 then 65535
      else internetChecksum (ps ++ (hdr6 ++ 0 :: 0 :: rest))) :
    internetChecksum (ps ++ (hdr6 ++ (networkBytes cs ++ rest))) = 0 := by
  obtain ⟨xs, rfl, hxs⟩ := hps
  obtain ⟨hhi, hlo⟩ := toNat_networkBytes cs
  rw [← List.append_assoc] at hcs ⊢
  refine internetChecksum_patch rest ?_ ?_ ?_
  · simp only [List.length_append, List.length_cons, List.length_nil]
    omega
  · have hpos : 0 < nextHdr.toNat := by
      rcases Nat.eq_zero_or_pos nextHdr.toNat with h0 | h0
      · exact absurd (UInt8.toNat_inj.mp h0) hnext
      · exact h0
    rw [List.append_assoc, List.append_assoc, words_append _ hxs, List.sum_append]
    simp only [List.cons_append, List.nil_append, words, List.sum_cons]
    omega
  · rw [← hcs, hhi, hlo]
    omega

/-- What the sender sums up ends, apart from the datagram, with the next header number. -/
theorem udpPseudoHeader_eq (hdr : Ipv6BasicHeader) (len : ℕ) :
    ∃ xs, udpPseudoHeader hdr len = xs ++ [0, WHIP6_IANA_IPV6_UDP] ∧ xs.length % 2 = 0 ∧
      xs.length ≤ 36 := by
  obtain ⟨hle, heven⟩ := length_ipv6PseudoHeaderBytes (length_getSrcAddr hdr)
    (length_getDstAddr hdr) (UInt32.ofNat len) WHIP6_IANA_IPV6_UDP
  rw [ipv6PseudoHeaderBytes, List.length_append] at hle heven
  simp only [List.length_cons, List.length_nil] at hle heven
  exact ⟨_, rfl, by omega, by omega⟩

/-- The sender ends with the datagram's checksum in its header. -/
theorem sender_finishes {M : ℕ} (hM : 0 < M) {out : UdpOutState} {srcPort dstPort : UInt16}
    {data : IovBlist} (hact : out.action = .startComputingChecksum)
    (h : UdpWrapped out.packet srcPort dstPort data) :
    ∃ n, ∃ cs : UInt16, cs ≠ 0 ∧
      ((handleOutgoingPacketTask M)^[n] out).action = .startRoutingPacket ∧
      ((handleOutgoingPacketTask M)^[n] out).packet = out.packet.setUdpChecksum cs ∧
      cs.toNat =
        let len := (ipv6BasicHeaderGetPayloadLength out.packet.header).toNat
        let sum := internetChecksum (udpPseudoHeader out.packet.header len ++
          out.packet.firstPayloadIov.flatten.take len)
        if sum = 0 then 65535 else sum := by
  have htotal : (ipv6BasicHeaderGetPayloadLength out.packet.header).toNat ≤
      out.packet.firstPayloadIov.flatten.length := by
    rw [h.chain, List.flatten_cons, List.length_append]
    exact h.length_le
  have hinit := initChecksumComputationForOutPacket_covers htotal
  obtain ⟨n, hcov, hpacket, hdone, htot⟩ := hinit.run hM
  have hstart : handleOutgoingPacketTask M out = initChecksumComputationForOutPacket out := by
    rw [handleOutgoingPacketTask, hact]
  generalize hlast : (handleOutgoingPacketTask M)^[n] (initChecksumComputationForOutPacket out) =
    last at hcov hpacket hdone htot
  have hrun : (handleOutgoingPacketTask M)^[n + 2] out =
      contChecksumComputationForOutPacket M last := by
    rw [Function.iterate_succ_apply', Function.iterate_succ_apply, hstart, hlast,
      handleOutgoingPacketTask, hcov.action]
  have hlen := (ipv6BasicHeaderGetPayloadLength out.packet.header).toNat_lt
  obtain ⟨xs, hps, -, hxs⟩ := udpPseudoHeader_eq out.packet.header
    (ipv6BasicHeaderGetPayloadLength out.packet.header).toNat
  have hproc : last.iovProcessed = (ipv6BasicHeaderGetPayloadLength out.packet.header).toNat :=
    hdone
  have hpkt : last.packet = out.packet := hpacket
  have hfinal := hcov.covers.finalize (by
    rw [hps, hproc]
    simp only [List.length_append, List.length_take, List.length_cons, List.length_nil]
    omega)
  rw [hproc, hpkt] at hfinal
  refine ⟨n + 2, if ipv6ChecksumComputationFinalize last.csComp = 0 then 0xFFFF
    else ipv6ChecksumComputationFinalize last.csComp, ?_, ?_⟩
  · split_ifs with h0
    · decide
    · exact h0
  · rw [hrun, contChecksumComputationForOutPacket, if_pos (by rw [hdone, htot]), hpkt]
    refine ⟨rfl, rfl, ?_⟩
    simp only [← hfinal]
    by_cases h0 : ipv6ChecksumComputationFinalize last.csComp = 0
    · rw [if_pos h0, if_pos (by rw [h0]; rfl)]
      rfl
    · have hne : (ipv6ChecksumComputationFinalize last.csComp).toNat ≠ 0 := by
        intro h'
        exact h0 (UInt16.toNat_inj.mp h')
      rw [if_neg h0, if_neg hne]

/-- The bytes of a datagram whose checksum has been filled in. -/
theorem take_setUdpChecksum {packet : Ipv6Packet} {srcPort dstPort : UInt16} {data : IovBlist}
    (h : UdpWrapped packet srcPort dstPort data) (cs : UInt16) {n : ℕ} (hn : 8 ≤ n) :
    (packet.setUdpChecksum cs).firstPayloadIov.flatten.take n =
      udpHeaderBytes srcPort dstPort (ipv6BasicHeaderGetPayloadLength packet.header) cs ++
        data.flatten.take (n - 8) := by
  have hset : udpHeaderSetChecksum (udpHeaderBytes srcPort dstPort
      (ipv6BasicHeaderGetPayloadLength packet.header) 0) cs =
        udpHeaderBytes srcPort dstPort (ipv6BasicHeaderGetPayloadLength packet.header) cs := rfl
  rw [Ipv6Packet.setUdpChecksum, h.chain]
  simp only [List.modify_zero_cons, List.flatten_cons, hset]
  rw [List.take_append, List.take_of_length_le hn]
  rfl

@[simp] theorem udpHeaderGetSrcPort_bytes (srcPort dstPort len cs : UInt16) :
    udpHeaderGetSrcPort (udpHeaderBytes srcPort dstPort len cs) = srcPort :=
  networkWord_networkBytes srcPort

@[simp] theorem udpHeaderGetDstPort_bytes (srcPort dstPort len cs : UInt16) :
    udpHeaderGetDstPort (udpHeaderBytes srcPort dstPort len cs) = dstPort :=
  networkWord_networkBytes dstPort

@[simp] theorem udpHeaderGetLength_bytes (srcPort dstPort len cs : UInt16) :
    udpHeaderGetLength (udpHeaderBytes srcPort dstPort len cs) = len :=
  networkWord_networkBytes len

/-- The receiver takes a datagram up. -/
theorem receiver_starts {sent : Ipv6Packet} {inPacket : Ipv6InPacketProcessingState}
    {socketTakes : UInt16 → UInt16 → List UInt8 → Bool} {srcPort dstPort cs : UInt16}
    {rest : List UInt8} (h : SamePacket sent inPacket)
    (hbytes : sent.firstPayloadIov.flatten.take (ipv6BasicHeaderGetPayloadLength sent.header).toNat =
      udpHeaderBytes srcPort dstPort (ipv6BasicHeaderGetPayloadLength sent.header) cs ++ rest)
    (hlen : (ipv6BasicHeaderGetPayloadLength sent.header).toNat = 8 + rest.length)
    (htakes : socketTakes dstPort srcPort (ipv6BasicHeaderGetSrcAddr sent.header) = true) :
    ∃ inState, startReceivingIPv6Packet socketTakes inPacket = some inState ∧
      inState.ipv6State = inPacket ∧ inState.iovProcessed = 0 ∧
      inState.iovTotal = (ipv6BasicHeaderGetPayloadLength sent.header).toNat := by
  have hp := h.payload
  rw [hbytes] at hp
  have hflat : iovIterPos (iovLens inPacket.packet.firstPayloadIov) inPacket.payloadIter + 8 ≤
      inPacket.packet.firstPayloadIov.flatten.length := by
    have := congrArg List.length hp
    simp only [udpHeaderBytes, List.length_take, List.length_drop, List.length_append,
      length_networkBytes] at this
    omega
  obtain ⟨hcount, -, -, hbuf⟩ := iovIteratorRead_within h.within (List.replicate 8 0) 8
  have hread : (inPacket.packet.firstPayloadIov.flatten.drop
      (iovIterPos (iovLens inPacket.packet.firstPayloadIov) inPacket.payloadIter)).take 8 =
        udpHeaderBytes srcPort dstPort (ipv6BasicHeaderGetPayloadLength sent.header) cs := by
    have := congrArg (List.take 8) hp
    rwa [List.take_take, Nat.min_eq_left (by omega),
      List.take_left' (length_udpHeaderBytes _ _ _ _)] at this
  rw [hread, splice_all (by simp)] at hbuf
  rw [Nat.min_eq_left (by omega)] at hcount
  unfold startReceivingIPv6Packet
  simp only [hcount, hbuf, Option.getD_some, udpHeaderGetDstPort_bytes, udpHeaderGetSrcPort_bytes,
    udpHeaderGetLength_bytes, h.nextHeaderId, h.destinedAtIface, h.payloadOffset, h.payloadLength,
    h.srcAddr, htakes]
  rw [if_neg (by simp), if_neg (by simp), if_neg (by omega), if_neg (by simp), if_neg (by simp),
    if_neg (by omega)]
  exact ⟨_, rfl, rfl, rfl, rfl⟩

/-- The verification of a datagram whose sum is zero ends well. -/
theorem receiver_finishes {M : ℕ} (hM : 0 < M) {inState : UdpInState} (ds : List UInt8)
    (hproc : inState.iovProcessed = 0) (hle : 8 ≤ inState.iovTotal) (hlt : inState.iovTotal < 65536)
    (hwithin : IovIterWithin (iovLens inState.ipv6State.packet.firstPayloadIov)
      inState.ipv6State.payloadIter)
    (hds : (inState.ipv6State.packet.firstPayloadIov.flatten.drop
      (iovIterPos (iovLens inState.ipv6State.packet.firstPayloadIov)
        inState.ipv6State.payloadIter)).take inState.iovTotal = ds)
    (hlen : ds.length = inState.iovTotal)
    (hzero : internetChecksum
      (udpPseudoHeader inState.ipv6State.packet.header inState.iovTotal ++ ds) = 0) :
    ∃ k inState', (handleIncomingPacketTask M)^[k] (.checking inState) = .intact inState' ∧
      ipv6ChecksumComputationFinalize inState'.csComp = 0 := by
  have hflat : iovIterPos (iovLens inState.ipv6State.packet.firstPayloadIov)
      inState.ipv6State.payloadIter + inState.iovTotal ≤
        inState.ipv6State.packet.firstPayloadIov.flatten.length := by
    have := congrArg List.length hds
    simp only [List.length_take, List.length_drop] at this
    omega
  obtain ⟨first, hfirst, hcov, hstate, htotal⟩ :=
    initChecksumComputationForInPacket_covers hle hwithin hflat
  obtain ⟨n, last, hrun, hcov', hstate', htotal', hdone⟩ := hcov.run hM
  have hstart : handleIncomingPacketTask M (.checking inState) = .checking first := by
    simp only [handleIncomingPacketTask, if_pos hproc, hfirst]
  have hstate'' : last.ipv6State = inState.ipv6State := hstate'.trans hstate
  obtain ⟨xs, hps, -, hxs⟩ := udpPseudoHeader_eq inState.ipv6State.packet.header inState.iovTotal
  have hcovers := hcov'.covers
  rw [hstate'', hdone, htotal, hds] at hcovers
  have hfinal := hcovers.finalize (by
    rw [hps]
    simp only [List.length_append, List.length_cons, List.length_nil, hlen]
    omega)
  rw [hzero] at hfinal
  have hcs : ipv6ChecksumComputationFinalize last.csComp = 0 := UInt16.toNat_inj.mp hfinal
  have hmove : (iovIteratorMoveForward last.ipv6State.packet.firstPayloadIov
      last.ipv6State.payloadIter 8).1 = 8 := by
    rw [hstate'', (iovIteratorMoveForward_spec hwithin 8).1]
    omega
  have hlast : handleIncomingPacketTask M (.checking last) = .intact last := by
    simp only [handleIncomingPacketTask]
    rw [if_neg (by omega), if_neg (by omega), endChecksumComputationForInPacket,
      if_neg (not_not.mpr hcs), if_neg (not_not.mpr hmove)]
  refine ⟨n + 2, last, ?_, hcs⟩
  rw [Function.iterate_succ_apply', Function.iterate_succ_apply, hstart, hrun, hlast]

/-- The checksum that the sender of a datagram puts into its header, slice by slice, makes the
verification of the datagram at its receiver, in slices of its own, end with zero: the receiver
takes it as intact. -/
theorem udp_checksum_agreement {M M' : ℕ} (hM : 0 < M) (hM' : 0 < M') {alloc : Option Ipv6Packet}
    {payloadIov : IovBlist} {payloadLen : ℕ} {udpHdrIov : IovElem}
    {srcSockAddr dstSockAddr : UdpSocketAddr} {packet : Ipv6Packet}
    (hlen : payloadLen ≤ WHIP6_IPV6_MIN_MTU - 8)
    (hwrap : udpWrapDataIntoOutgoingIpv6PacketCarryingUdpDatagram alloc payloadIov payloadLen
      udpHdrIov srcSockAddr dstSockAddr = some packet)
    {out : UdpOutState} (hact : out.action = .startComputingChecksum)
    (hchain : out.packet.firstPayloadIov = packet.firstPayloadIov)
    (hpl : ipv6BasicHeaderGetPayloadLength out.packet.header =
      ipv6BasicHeaderGetPayloadLength packet.header) :
    ∃ n, ∃ cs : UInt16, cs ≠ 0 ∧
      ((handleOutgoingPacketTask M)^[n] out).action = .startRoutingPacket ∧
      ((handleOutgoingPacketTask M)^[n] out).packet = out.packet.setUdpChecksum cs ∧
      ∀ (inPacket : Ipv6InPacketProcessingState)
        (socketTakes : UInt16 → UInt16 → List UInt8 → Bool),
        SamePacket (out.packet.setUdpChecksum cs) inPacket →
        socketTakes dstSockAddr.udpPortNo srcSockAddr.udpPortNo
          (ipv6BasicHeaderGetSrcAddr out.packet.header) = true →
        ∃ inState, startReceivingIPv6Packet socketTakes inPacket = some inState ∧
          ∃ k inState', (handleIncomingPacketTask M')^[k] (.checking inState) = .intact inState' ∧
            ipv6ChecksumComputationFinalize inState'.csComp = 0 := by
  have hw := udpWrapData_wrapped hwrap hlen
  have hout : UdpWrapped out.packet srcSockAddr.udpPortNo dstSockAddr.udpPortNo payloadIov :=
    ⟨by rw [hchain, hpl]; exact hw.chain, by rw [hpl]; exact hw.length_le,
      by rw [hpl]; exact hw.header_le⟩
  obtain ⟨n, cs, hne, haction, hpacket, hcs⟩ := sender_finishes hM hact hout
  refine ⟨n, cs, hne, haction, hpacket, fun inPacket socketTakes hsame htakes => ?_⟩
  have hheader := hout.header_le
  have hbytes := take_setUdpChecksum hout cs hheader
  have hrest : (payloadIov.flatten.take
      ((ipv6BasicHeaderGetPayloadLength out.packet.header).toNat - 8)).length =
        (ipv6BasicHeaderGetPayloadLength out.packet.header).toNat - 8 := by
    have := hout.length_le
    simp only [List.length_take]
    omega
  obtain ⟨inState, hstart, hstate, hproc, htotal⟩ := receiver_starts hsame hbytes
    (by rw [hrest]; show _ = _; exact (Nat.add_sub_cancel' hheader).symm) htakes
  refine ⟨inState, hstart, ?_⟩
  have hpl' : (ipv6BasicHeaderGetPayloadLength (out.packet.setUdpChecksum cs).header) =
    ipv6BasicHeaderGetPayloadLength out.packet.header := rfl
  have hpayload := hsame.payload
  rw [hpl', hbytes] at hpayload
  refine receiver_finishes hM' (udpHeaderBytes srcSockAddr.udpPortNo dstSockAddr.udpPortNo
      (ipv6BasicHeaderGetPayloadLength out.packet.header) cs ++ payloadIov.flatten.take
        ((ipv6BasicHeaderGetPayloadLength out.packet.header).toNat - 8))
    hproc (by rw [htotal]; exact hheader)
    (by rw [htotal]; exact UInt16.toNat_lt _) (by rw [hstate]; exact hsame.within)
    (by rw [hstate, htotal]; exact hpayload) ?_ ?_
  · rw [htotal, List.length_append, hrest, length_udpHeaderBytes]
    exact Nat.add_sub_cancel' hheader
  · have hps : udpPseudoHeader inState.ipv6State.packet.header inState.iovTotal =
        udpPseudoHeader out.packet.header
          (ipv6BasicHeaderGetPayloadLength out.packet.header).toNat := by
      rw [hstate, htotal, udpPseudoHeader, hsame.srcAddr, hsame.dstAddr]
      rfl
    obtain ⟨xs, hxs, heven, -⟩ := udpPseudoHeader_eq out.packet.header
      (ipv6BasicHeaderGetPayloadLength out.packet.header).toNat
    rw [hps, udpHeaderBytes, List.append_assoc]
    refine internetChecksum_datagram ⟨xs, hxs, heven⟩ (by decide) rfl ?_
    have hzero : out.packet.firstPayloadIov.flatten.take
        (ipv6BasicHeaderGetPayloadLength out.packet.header).toNat =
      networkBytes srcSockAddr.udpPortNo ++ networkBytes dstSockAddr.udpPortNo ++
        networkBytes (ipv6BasicHeaderGetPayloadLength out.packet.header) ++
        0 :: 0 :: payloadIov.flatten.take
          ((ipv6BasicHeaderGetPayloadLength out.packet.header).toNat - 8) := by
      rw [hout.chain, List.flatten_cons, List.take_append, List.take_of_length_le hheader]
      rfl
    simp only [hzero] at hcs
    exact hcs

/-- A datagram of five bytes in three elements, one of them empty. -/
theorem udp_checksum_agreement_five_bytes :
    let packet := (udpWrapDataIntoOutgoingIpv6PacketCarryingUdpDatagram
      (some ⟨⟨List.replicate 40 0, rfl⟩, []⟩) [[1, 2, 3], [], [4, 5]] 5 (List.replicate 8 0)
      ⟨Vector.replicate 16 1, 5683⟩ ⟨Vector.replicate 16 2, 61616⟩).get rfl
    ∃ cs inState, startReceivingIPv6Packet (fun _ _ _ => true)
        ⟨packet.setUdpChecksum cs, WHIP6_IANA_IPV6_UDP, true, 0,
          iovIteratorInitToBeginning (packet.setUdpChecksum cs).firstPayloadIov⟩ = some inState ∧
      ∃ k inState', (handleIncomingPacketTask 3)^[k] (.checking inState) = .intact inState' := by
  intro packet
  have h := udp_checksum_agreement (by decide : 0 < 2) (by decide : 0 < 3)
    (by decide : 5 ≤ WHIP6_IPV6_MIN_MTU - 8)
    (Option.some_get (rfl : (udpWrapDataIntoOutgoingIpv6PacketCarryingUdpDatagram
      (some ⟨⟨List.replicate 40 0, rfl⟩, []⟩) [[1, 2, 3], [], [4, 5]] 5 (List.replicate 8 0)
      ⟨Vector.replicate 16 1, 5683⟩ ⟨Vector.replicate 16 2, 61616⟩).isSome = true)).symm
    (rfl : (⟨packet, ipv6ChecksumComputationInit, iovIteratorInvalidate, 0, 0,
      .startComputingChecksum⟩ : UdpOutState).action = .startComputingChecksum) rfl rfl
  obtain ⟨n, cs, -, -, -, hrecv⟩ := h
  obtain ⟨inState, hstart, k, inState', hrun, -⟩ := hrecv _ (fun _ _ _ => true)
    (samePacket_self _) rfl
  exact ⟨cs, inState, hstart, k, inState', hrun⟩

end Whip6
