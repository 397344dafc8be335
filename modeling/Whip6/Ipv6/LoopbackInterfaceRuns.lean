import Whip6.Base.IoVecRefinement
import Whip6.Ipv6.LoopbackInterface
import Whip6.Lib.Progress
import Whip6.Lib.Simulation

/-!
# Runs of the loopback interface

A packet that was accepted is finished in its turn, and a clone belongs to the packet that is at the
head then (`LoopbackJobs.Step`).  Every run of the interface is a sequence of such steps
(`loopback_jobs`): clones are delivered in the order of the packets, with their bytes, and each one
is freed once.
-/

namespace Whip6

open Lib

/-- The bytes of a packet; a chain may be longer than the payload. -/
def Ipv6Packet.bytes (packet : Ipv6Packet) : List UInt8 :=
  packet.header.bytes ++ packet.firstPayloadIov.flatten.take
    (ipv6BasicHeaderGetPayloadLength packet.header).toNat

/-! ## Jobs -/

/-- The packets that were accepted and are not finished, the clone of the first of them, the clones
of finished packets that wait for delivery, with the packets, and the clone that is being
delivered. -/
structure LoopbackJobs where
  pending : List (ℕ × Ipv6Packet)
  copy : Option ℕ
  waiting : List (ℕ × Ipv6Packet)
  delivering : Option ℕ

namespace LoopbackJobs

inductive Step : LoopbackJobs → Ipv6LoopbackAct → LoopbackJobs → Prop
  | accepted (jobs : LoopbackJobs) (outPacket : ℕ) (packet : Ipv6Packet) :
    Step jobs (.accepted outPacket packet)
      { jobs with pending := jobs.pending ++ [(outPacket, packet)] }
  | allocated (jobs : LoopbackJobs) (clone : ℕ) (h : jobs.copy = none) (hne : jobs.pending ≠ []) :
    Step jobs (.allocated clone) { jobs with copy := some clone }
  | copyFreed (jobs : LoopbackJobs) {clone : ℕ} (h : jobs.copy = some clone) :
    Step jobs (.freed clone) { jobs with copy := none }
  | cloned (jobs : LoopbackJobs) {outPacket clone : ℕ} {packet : Ipv6Packet}
    {pending : List (ℕ × Ipv6Packet)} (h : jobs.pending = (outPacket, packet) :: pending)
    (hcopy : jobs.copy = some clone) :
    Step jobs (.finished outPacket SUCCESS)
      { jobs with
        pending := pending
        copy := none
        waiting := jobs.waiting ++ [(clone, packet)] }
  | failed (jobs : LoopbackJobs) {outPacket : ℕ} {packet : Ipv6Packet} {status : ErrorT}
    {pending : List (ℕ × Ipv6Packet)} (h : jobs.pending = (outPacket, packet) :: pending)
    (hcopy : jobs.copy = none) (hstatus : status ≠ SUCCESS) :
    Step jobs (.finished outPacket status) { jobs with pending := pending }
  | delivered (jobs : LoopbackJobs) {clone : ℕ} {packet copy : Ipv6Packet} {answer : ErrorT}
    {waiting : List (ℕ × Ipv6Packet)} (h : jobs.waiting = (clone, packet) :: waiting)
    (hdelivering : jobs.delivering = none) (hbytes : copy.bytes = packet.bytes) :
    Step jobs (.delivered clone copy answer)
      { jobs with waiting := waiting, delivering := some clone }
  | freed (jobs : LoopbackJobs) {clone : ℕ} (h : jobs.delivering = some clone) :
    Step jobs (.freed clone) { jobs with delivering := none }

def empty : LoopbackJobs := ⟨[], none, [], none⟩

/-- The clone that is delivered, or else the one that is delivered next. -/
def next (jobs : LoopbackJobs) : Option ℕ :=
  match jobs.delivering with
  | some clone => some clone
  | none => jobs.waiting.head?.map Prod.fst

/-- How many steps of the delivery there are before that clone is freed, apart from the last. -/
def leftDelivery (jobs : LoopbackJobs) : ℕ := if jobs.delivering.isSome then 0 else 1

variable {jobs jobs' : LoopbackJobs} {clone : ℕ}

/-- That clone is freed, or it stays where it is or gets further. -/
theorem Step.next {act : Ipv6LoopbackAct} (h : Step jobs act jobs')
    (hnext : jobs.next = some clone) :
    act = .freed clone ∨ jobs'.next = some clone ∧ jobs'.leftDelivery ≤ jobs.leftDelivery := by
  cases h with
  | accepted outPacket packet => exact Or.inr ⟨hnext, le_rfl⟩
  | allocated clone' _ _ => exact Or.inr ⟨hnext, le_rfl⟩
  | copyFreed _ => exact Or.inr ⟨hnext, le_rfl⟩
  | failed _ _ _ => exact Or.inr ⟨hnext, le_rfl⟩
  | cloned _ _ =>
    refine Or.inr ⟨?_, le_rfl⟩
    rw [LoopbackJobs.next] at hnext ⊢
    cases hdelivering : jobs.delivering with
    | some clone' =>
      rw [hdelivering] at hnext
      exact hnext
    | none =>
      rw [hdelivering] at hnext
      obtain ⟨head, hhead, rfl⟩ := Option.map_eq_some_iff.mp hnext
      dsimp only
      rw [List.head?_append, hhead]
      rfl
  | delivered hwaiting hdelivering _ =>
    rw [LoopbackJobs.next, hdelivering, hwaiting] at hnext
    exact Or.inr ⟨hnext, Nat.zero_le _⟩
  | freed hdelivering =>
    rw [LoopbackJobs.next, hdelivering] at hnext
    exact Or.inl (congrArg _ (Option.some.inj hnext))

end LoopbackJobs

/-! ## Clones -/

theorem memCpy_header (hdr hdr' : Ipv6BasicHeader) : hdr.memCpy hdr'.bytes 0 40 = hdr' := by
  apply Ipv6BasicHeader.ext
  change shortMemCpy hdr'.bytes hdr.bytes 0 40 = hdr'.bytes
  rw [shortMemCpy_eq_splice, List.take_of_length_le hdr'.length_bytes.le]
  exact splice_all (hdr.length_bytes.trans hdr'.length_bytes.symm)

namespace Ipv6PacketClonerClient

/-- How many bytes of payload are copied in all. -/
def payloadLength (client : Ipv6PacketClonerClient) : ℕ :=
  (ipv6BasicHeaderGetPayloadLength client.orgPacket.header).toNat

/-- How many steps of the cloner may come before it is done. -/
def left (client : Ipv6PacketClonerClient) : ℕ :=
  match client.clonePacket with
  | none => client.payloadLength + 2
  | some _ => client.remainingBytes + 1

/-- What was copied so far is the beginning of the payload. -/
structure Copies (client : Ipv6PacketClonerClient) (clonePacket : Ipv6Packet) (c d : Cursor UInt8) :
    Prop where
  header : clonePacket.header = client.orgPacket.header
  org : Follows client.orgPacket.firstPayloadIov client.orgIter c
  clone : Follows clonePacket.firstPayloadIov client.cloneIter d
  length : clonePacket.firstPayloadIov.flatten.length = client.payloadLength
  enough : client.payloadLength ≤ client.orgPacket.firstPayloadIov.flatten.length
  pos : c.pos = d.pos
  remaining : d.pos + client.remainingBytes = client.payloadLength
  copied : d.text.take d.pos = c.text.take d.pos

variable {client : Ipv6PacketClonerClient} {clonePacket : Ipv6Packet} {c d : Cursor UInt8}

theorem Copies.bytes (h : client.Copies clonePacket c d) (hdone : client.remainingBytes = 0) :
    clonePacket.bytes = client.orgPacket.bytes := by
  have hpos := h.remaining
  rw [hdone, Nat.add_zero, payloadLength] at hpos
  have hcopied := h.copied
  rw [hpos, h.org.text, h.clone.text] at hcopied
  rw [Ipv6Packet.bytes, Ipv6Packet.bytes, h.header, hcopied]

/-- A round of copying. -/
theorem Copies.copyBytes {clone : Ipv6Clone} (h : client.Copies clone.packet c d) (maxLen : ℕ) :
    let r := client.copyBytes clone maxLen
    r.2.orgPacket = client.orgPacket ∧ r.2.remainingBytes + r.1 = client.remainingBytes ∧
      ∃ packet, r.2.clonePacket = some ⟨clone.ptr, packet⟩ ∧ ∃ c' d', r.2.Copies packet c' d' := by
  obtain ⟨hcount, hsrc, hdst, hlens⟩ := iovIteratorCopyBytes_follows h.org h.clone maxLen
  intro r
  change r.1 = min maxLen (min c.avail d.avail) at hcount
  rw [← hcount] at hsrc hdst
  have havail : d.avail = client.remainingBytes := by
    have hrem := h.remaining
    rw [Cursor.avail, h.clone.text, h.length]
    omega
  have hle : r.1 ≤ c.avail ∧ r.1 ≤ d.avail := by omega
  have hread : (c.read r.1).length = r.1 := by
    rw [Cursor.length_read, Cursor.fit, Nat.min_eq_left hle.1]
  have hpos : (d.write (c.read r.1)).pos = d.pos + r.1 := by
    rw [Cursor.pos_write, hread, Cursor.fit, Nat.min_eq_left hle.2]
  have hremaining : r.2.remainingBytes = client.remainingBytes - r.1 := rfl
  refine ⟨rfl, by omega, _, rfl, _, _, ⟨h.header, hsrc, hdst, ?_, h.enough, ?_, ?_, ?_⟩⟩
  · rw [← sum_iovLens, hlens, sum_iovLens]
    exact h.length
  · rw [hpos, Cursor.pos_forward, Cursor.fit, Nat.min_eq_left hle.1, h.pos]
  · have hrem := h.remaining
    change _ = client.payloadLength
    omega
  · have hd := d.pos_le
    have hfront : (splice d.text d.pos (c.read r.1)).take d.pos = d.text.take d.pos := by
      rw [splice, List.append_assoc]
      exact List.take_left' (by rw [List.length_take, Nat.min_eq_left hd])
    have hback : ((splice d.text d.pos (c.read r.1)).drop d.pos).take r.1 = c.read r.1 := by
      have htake := take_drop_splice d.text d.pos (c.read r.1)
      rw [hread] at htake
      rw [htake]
      exact List.take_of_length_le (hread.le.trans hle.2)
    rw [hpos, Cursor.text_write, Cursor.text_forward, List.take_add, List.take_add, hfront, hback,
      h.copied, Cursor.read, h.pos]

theorem copies_start (orgPacket : Ipv6Packet) (payload : IovBlist)
    (henough : (ipv6BasicHeaderGetPayloadLength orgPacket.header).toNat ≤
      orgPacket.firstPayloadIov.flatten.length)
    (hlength : payload.flatten.length = (ipv6BasicHeaderGetPayloadLength orgPacket.header).toNat)
    (clonePacketPtr : Option Ipv6Clone) :
    ∃ c d, Copies
      ⟨orgPacket, clonePacketPtr, (ipv6BasicHeaderGetPayloadLength orgPacket.header).toNat,
        iovIteratorInitToBeginning orgPacket.firstPayloadIov,
        iovIteratorInitToBeginning payload⟩
      ⟨orgPacket.header, payload⟩ c d := by
  refine ⟨⟨orgPacket.firstPayloadIov.flatten, 0, Nat.zero_le _⟩,
    ⟨payload.flatten, 0, Nat.zero_le _⟩,
    ⟨rfl, ⟨iovIteratorInitToBeginning_within _, rfl, (iovIteratorInitToBeginning_pos _).symm⟩,
      ⟨iovIteratorInitToBeginning_within _, rfl, (iovIteratorInitToBeginning_pos _).symm⟩,
      hlength, henough, rfl, Nat.zero_add _, rfl⟩⟩

end Ipv6PacketClonerClient

theorem ipv6AllocatePacket_length {answers : Ipv6AllocAnswers} {payloadLength : ℕ}
    {packet : Ipv6Packet} (hfit : IovChunksFit answers.chunks payloadLength)
    (h : ipv6AllocatePacket answers payloadLength = some packet) :
    packet.firstPayloadIov.flatten.length = payloadLength := by
  rw [ipv6AllocatePacket] at h
  cases hnew : answers.newPacket with
  | none =>
    rw [hnew] at h
    cases h
  | some hdr =>
    rw [hnew] at h
    obtain ⟨payload, hpayload, rfl⟩ := Option.map_eq_some_iff.mp h
    exact iovAllocateChain_length hfit hpayload

/-! ## The interface and its jobs -/

namespace Ipv6LoopbackInterface

variable {sizes : Ipv6LoopbackSizes} {iface : Ipv6LoopbackInterface} {jobs : LoopbackJobs}

/-- The clone of the packet that the cloner has. -/
def copy (iface : Ipv6LoopbackInterface) : Option ℕ :=
  (iface.client.bind Ipv6PacketClonerClient.clonePacket).map Ipv6Clone.ptr

/-- A queue as it is seen from outside. -/
def packets (queue : List Ipv6LoopbackOutPacket) : List (ℕ × Ipv6Packet) :=
  queue.map fun out => (out.outPacket, out.packet)

structure StandsFor (iface : Ipv6LoopbackInterface) (jobs : LoopbackJobs) : Prop where
  pending : jobs.pending = packets iface.packetClonerQueue
  copy : jobs.copy = iface.copy
  waiting : List.Forall₂ (fun w clone => w.1 = clone.ptr ∧ clone.packet.bytes = w.2.bytes)
    jobs.waiting iface.packetDeliveryQueue
  delivering : jobs.delivering =
    if iface.packetBeingDelivered then iface.inPacketStateBuf.map Ipv6Clone.ptr else none
  lent : iface.packetBeingDelivered = true → iface.inPacketStateBuf.isSome
  cloned : iface.packetBeingCloned = iface.client.isSome
  client : ∀ client, iface.client = some client →
    iface.packetClonerQueue.head?.map Ipv6LoopbackOutPacket.packet = some client.orgPacket ∧
      ∀ clone, client.clonePacket = some clone → ∃ c d, client.Copies clone.packet c d
  cloningPosted : iface.packetClonerQueue ≠ [] → iface.client = none →
    iface.startPacketCloningTaskPosted = true
  deliveryPosted : iface.packetDeliveryQueue ≠ [] → iface.packetBeingDelivered = false →
    iface.deliverPacketCloneTaskPosted = true

theorem standsFor_init : init.StandsFor .empty where
  pending := rfl
  copy := rfl
  waiting := .nil
  delivering := rfl
  lent := fun h => by cases h
  cloned := rfl
  client := fun client h => by cases h
  cloningPosted := fun h => absurd rfl h
  deliveryPosted := fun h => absurd rfl h


/-! ## Steps -/

theorem StandsFor.pending_cons (h : iface.StandsFor jobs) {out : Ipv6LoopbackOutPacket}
    {queue : List Ipv6LoopbackOutPacket} (hqueue : iface.packetClonerQueue = out :: queue) :
    jobs.pending = (out.outPacket, out.packet) :: packets queue := by
  rw [h.pending, hqueue, packets, List.map_cons, packets]

/-- The packet that is being cloned is at the head. -/
theorem StandsFor.exists_head (h : iface.StandsFor jobs) {client : Ipv6PacketClonerClient}
    (hclient : iface.client = some client) :
    ∃ out queue, iface.packetClonerQueue = out :: queue ∧ out.packet = client.orgPacket := by
  have hhead := (h.client client hclient).1
  cases hqueue : iface.packetClonerQueue with
  | nil =>
    rw [hqueue] at hhead
    cases hhead
  | cons out queue =>
    rw [hqueue] at hhead
    exact ⟨out, queue, rfl, Option.some.inj hhead⟩

/-- The head of the queue is done with. -/
theorem StandsFor.next (h : iface.StandsFor jobs) (queue : List Ipv6LoopbackOutPacket) :
    StandsFor
      { iface with
        client := none
        packetClonerQueue := queue
        packetBeingCloned := false
        startPacketCloningTaskPosted := true }
      { jobs with
        pending := packets queue
        copy := none } where
  pending := rfl
  copy := rfl
  waiting := h.waiting
  delivering := h.delivering
  lent := h.lent
  cloned := rfl
  client := fun client hclient => by cases hclient
  cloningPosted := fun _ _ => rfl
  deliveryPosted := h.deliveryPosted

theorem StandsFor.enqueue (h : iface.StandsFor jobs) {clone : Ipv6Clone} {packet : Ipv6Packet}
    (hbytes : clone.packet.bytes = packet.bytes) :
    StandsFor
      { iface with
        packetDeliveryQueue := iface.packetDeliveryQueue ++ [clone]
        deliverPacketCloneTaskPosted := true }
      { jobs with waiting := jobs.waiting ++ [(clone.ptr, packet)] } where
  pending := h.pending
  copy := h.copy
  waiting := List.rel_append h.waiting (.cons ⟨rfl, hbytes⟩ .nil)
  delivering := h.delivering
  lent := h.lent
  cloned := h.cloned
  client := h.client
  cloningPosted := h.cloningPosted
  deliveryPosted := fun _ _ => rfl

/-- The packet at the head is finished, with its clone or without one. -/
theorem finishHandlingClient_spec (sizes : Ipv6LoopbackSizes) (h : iface.StandsFor jobs)
    {client client' : Ipv6PacketClonerClient}
    (hclient : iface.client = some client) (horg : client'.orgPacket = client.orgPacket)
    (hptr : client'.clonePacket.map Ipv6Clone.ptr = client.clonePacket.map Ipv6Clone.ptr)
    (status : ErrorT) (hbytes : status = SUCCESS → ∀ clone, client'.clonePacket = some clone →
      clone.packet.bytes = client'.orgPacket.bytes) :
    let r := iface.finishHandlingClient sizes client' status
    (∃ jobs', SpecRun LoopbackJobs.Step jobs r.2 jobs' ∧ r.1.StandsFor jobs') ∧
      ∃ out ∈ iface.packetClonerQueue.head?, ∃ status, .finished out.outPacket status ∈ r.2 := by
  obtain ⟨out, queue, hqueue, hout⟩ := h.exists_head hclient
  have hpending := h.pending_cons hqueue
  have hcopy : jobs.copy = client'.clonePacket.map Ipv6Clone.ptr := by
    rw [h.copy, copy, hclient, hptr, Option.bind_some]
  have hnext := h.next queue
  intro r
  simp only [r, hqueue, List.head?_cons]
  rw [finishHandlingClient]
  cases hclone : client'.clonePacket with
  | none =>
    rw [hclone] at hcopy
    simp only [finishCloningIPv6Packet, hqueue]
    refine ⟨⟨_, .single (.failed jobs hpending hcopy (by decide)), ?_⟩, out, rfl, ENOMEM,
      List.mem_singleton_self _⟩
    have hsame : { jobs with
        pending := packets queue
        copy := none } = { jobs with
        pending := packets queue } := by
      rw [hcopy]
      rfl
    rw [← hsame]
    exact hnext
  | some clone =>
    rw [hclone] at hcopy
    have hfreed : SpecRun LoopbackJobs.Step jobs
        [.freed clone.ptr, .finished out.outPacket ENOMEM]
        { jobs with
          pending := packets queue
          copy := none } :=
      .cons (.copyFreed jobs hcopy) (.single (.failed _ hpending rfl (by decide)))
    dsimp only
    split_ifs with hstatus
    · simp only [finishCloningIPv6Packet, hqueue]
      exact ⟨⟨_, hfreed, hnext⟩, out, rfl, ENOMEM,
        List.mem_cons_of_mem _ (List.mem_singleton_self _)⟩
    · simp only [finishCloningIPv6Packet, hqueue]
      split_ifs with hfull
      · exact ⟨⟨_, hfreed, hnext⟩, out, rfl, ENOMEM,
        List.mem_cons_of_mem _ (List.mem_singleton_self _)⟩
      · have hsame : clone.packet.bytes = out.packet.bytes := by
          rw [hbytes (not_not.mp hstatus) clone hclone, horg, hout]
        exact ⟨⟨_, .single (.cloned jobs hpending hcopy), hnext.enqueue hsame⟩, out, rfl, SUCCESS,
          List.mem_singleton_self _⟩

/-- How many steps of the cloning may come before the packet at the head is finished. -/
def leftCloning (iface : Ipv6LoopbackInterface) : ℕ :=
  match iface.client with
  | none =>
    match iface.packetClonerQueue.head? with
    | none => 0
    | some out => (ipv6BasicHeaderGetPayloadLength out.packet.header).toNat + 3
  | some client => client.left

theorem leftCloning_of_client {client : Ipv6PacketClonerClient} (h : iface.client = some client) :
    iface.leftCloning = client.left := by rw [leftCloning, h]

/-- What a step of the cloner does: it keeps to the jobs, and it finishes the packet at the head or
leaves less to do for it. -/
structure Advances (iface : Ipv6LoopbackInterface) (jobs : LoopbackJobs)
    (r : Ipv6LoopbackInterface × List Ipv6LoopbackAct) : Prop where
  specRun : ∃ jobs', SpecRun LoopbackJobs.Step jobs r.2 jobs' ∧ r.1.StandsFor jobs'
  progress : (∃ out ∈ iface.packetClonerQueue.head?, ∃ status,
    .finished out.outPacket status ∈ r.2) ∨
    r.1.packetClonerQueue = iface.packetClonerQueue ∧ r.1.leftCloning + 1 ≤ iface.leftCloning

theorem startHandlingClient_spec (h : iface.StandsFor jobs) {client : Ipv6PacketClonerClient}
    (hclient : iface.client = some client) (hnone : client.clonePacket = none) (ptr : ℕ)
    (answers : Ipv6FittingAnswers) :
    iface.Advances jobs (iface.startHandlingClient sizes client ptr answers) := by
  have hfail : iface.Advances jobs (iface.finishHandlingClient sizes client FAIL) := by
    obtain ⟨hrun, hfinished⟩ := finishHandlingClient_spec sizes h hclient rfl rfl FAIL
      (fun hsuccess => absurd hsuccess (by decide : FAIL ≠ SUCCESS))
    exact ⟨hrun, Or.inl hfinished⟩
  obtain ⟨out, queue, hqueue, hout⟩ := h.exists_head hclient
  rw [startHandlingClient]
  dsimp only
  split_ifs with hshort
  · exact hfail
  rw [iovGetTotalLength_eq] at hshort
  cases halloc : ipv6AllocatePacket
    (answers (ipv6BasicHeaderGetPayloadLength client.orgPacket.header).toNat).1
    (ipv6BasicHeaderGetPayloadLength client.orgPacket.header).toNat with
  | none => exact hfail
  | some packet =>
    have hlength := ipv6AllocatePacket_length (answers _).2 halloc
    dsimp only
    rw [memCpy_header]
    refine ⟨⟨{ jobs with copy := some ptr }, .single (.allocated jobs ptr ?_ ?_), ?_⟩,
      Or.inr ⟨rfl, ?_⟩⟩
    · rw [h.copy, copy, hclient, Option.bind_some, hnone, Option.map_none]
    · rw [h.pending_cons hqueue]
      exact List.cons_ne_nil _ _
    · exact
        { pending := h.pending
          copy := rfl
          waiting := h.waiting
          delivering := h.delivering
          lent := h.lent
          cloned := by
            rw [h.cloned, hclient]
            rfl
          client := fun client' hclient' => by
            obtain rfl := Option.some.inj hclient'
            refine ⟨?_, fun clone hclone => ?_⟩
            · exact (h.client client hclient).1
            · obtain rfl := Option.some.inj hclone
              exact Ipv6PacketClonerClient.copies_start client.orgPacket packet.firstPayloadIov
                (Nat.not_lt.mp hshort) hlength _
          cloningPosted := fun _ hnot => by cases hnot
          deliveryPosted := h.deliveryPosted }
    · rw [leftCloning_of_client hclient, leftCloning_of_client rfl, Ipv6PacketClonerClient.left,
        Ipv6PacketClonerClient.left, hnone]
      exact le_rfl

theorem continueHandlingClient_spec (h : iface.StandsFor jobs) {client : Ipv6PacketClonerClient}
    (hclient : iface.client = some client) {clone : Ipv6Clone}
    (hclone : client.clonePacket = some clone) :
    iface.Advances jobs (iface.continueHandlingClient sizes client clone) := by
  obtain ⟨c, d, hcopies⟩ := (h.client client hclient).2 clone hclone
  obtain ⟨horg, hremaining, packet, hpacket, hnext⟩ :=
    hcopies.copyBytes sizes.maxBytesCopiedInTask
  rw [continueHandlingClient]
  generalize client.copyBytes clone sizes.maxBytesCopiedInTask = r at *
  split_ifs with hzero
  · have hptr : r.2.clonePacket.map Ipv6Clone.ptr = client.clonePacket.map Ipv6Clone.ptr := by
      rw [hpacket, hclone, Option.map_some, Option.map_some]
    obtain ⟨hrun, hfinished⟩ := finishHandlingClient_spec sizes h hclient horg hptr FAIL
      (fun hsuccess => absurd hsuccess (by decide : FAIL ≠ SUCCESS))
    exact ⟨hrun, Or.inl hfinished⟩
  · refine ⟨⟨jobs, .nil jobs, ?_⟩, Or.inr ⟨rfl, ?_⟩⟩
    · exact
        { pending := h.pending
          copy := by
            rw [h.copy, copy, copy, hclient, Option.bind_some, Option.bind_some, hclone, hpacket,
              Option.map_some, Option.map_some]
          waiting := h.waiting
          delivering := h.delivering
          lent := h.lent
          cloned := by
            rw [h.cloned, hclient]
            rfl
          client := fun client' hclient' => by
            obtain rfl := Option.some.inj hclient'
            refine ⟨?_, fun clone' hclone' => ?_⟩
            · rw [horg]
              exact (h.client client hclient).1
            · obtain rfl := Option.some.inj (hpacket.symm.trans hclone')
              exact hnext
          cloningPosted := fun _ hnot => by cases hnot
          deliveryPosted := h.deliveryPosted }
    · rw [leftCloning_of_client hclient, leftCloning_of_client rfl, Ipv6PacketClonerClient.left,
        Ipv6PacketClonerClient.left, hpacket, hclone]
      dsimp only
      omega

/-- A step of the cloner on the client's packet. -/
theorem doClonePacketsTask_spec (h : iface.StandsFor jobs) {client : Ipv6PacketClonerClient}
    (hclient : iface.client = some client) (ptr : ℕ) (answers : Ipv6FittingAnswers) :
    iface.Advances jobs (iface.doClonePacketsTask sizes ptr answers) := by
  rw [doClonePacketsTask, hclient]
  dsimp only
  cases hclone : client.clonePacket with
  | none => exact startHandlingClient_spec h hclient hclone ptr answers
  | some clone =>
    dsimp only
    split_ifs with hzero
    · obtain ⟨c, d, hcopies⟩ := (h.client client hclient).2 clone hclone
      obtain ⟨hrun, hfinished⟩ := finishHandlingClient_spec sizes h hclient rfl rfl SUCCESS
        (fun _ clone' hclone' => by
          obtain rfl := Option.some.inj (hclone.symm.trans hclone')
          exact hcopies.bytes hzero)
      exact ⟨hrun, Or.inl hfinished⟩
    · exact continueHandlingClient_spec h hclient hclone

theorem startSendingIPv6Packet_spec (sizes : Ipv6LoopbackSizes) (h : iface.StandsFor jobs)
    (out : Ipv6LoopbackOutPacket) :
    let r := iface.startSendingIPv6Packet sizes out
    (r.1 ≠ SUCCESS ∧ r.2 = iface) ∨
      r.1 = SUCCESS ∧ r.2.packetClonerQueue = iface.packetClonerQueue ++ [{ out with
        assignedToIface := true }] ∧ r.2.client = iface.client ∧
        r.2.StandsFor { jobs with pending := jobs.pending ++ [(out.outPacket, out.packet)] } := by
  rw [startSendingIPv6Packet]
  split_ifs
  · exact Or.inl ⟨(by decide : EOFF ≠ SUCCESS), rfl⟩
  · exact Or.inl ⟨(by decide : ENOROUTE ≠ SUCCESS), rfl⟩
  · exact Or.inl ⟨(by decide : EINVAL ≠ SUCCESS), rfl⟩
  · exact Or.inl ⟨(by decide : ENOMEM ≠ SUCCESS), rfl⟩
  · refine Or.inr ⟨rfl, rfl, rfl, ?_⟩
    exact
      { pending := by
          rw [h.pending, packets, packets, List.map_append]
          rfl
        copy := h.copy
        waiting := h.waiting
        delivering := h.delivering
        lent := h.lent
        cloned := h.cloned
        client := fun client hclient => by
          obtain ⟨hhead, hcopies⟩ := h.client client hclient
          refine ⟨?_, hcopies⟩
          obtain ⟨out', queue, hqueue, -⟩ := h.exists_head hclient
          rw [hqueue] at hhead
          change (iface.packetClonerQueue ++ _).head?.map _ = _
          rw [hqueue]
          exact hhead
        cloningPosted := fun _ _ => rfl
        deliveryPosted := h.deliveryPosted }

/-- Nothing happens while a packet is being cloned, or when there is none. -/
theorem startPacketCloningTask_idle (answer : ErrorT)
    (h : iface.packetClonerQueue = [] ∨ iface.packetBeingCloned = true) :
    iface.startPacketCloningTask answer =
      ({ iface with startPacketCloningTaskPosted := false }, []) := by
  rw [startPacketCloningTask]
  rcases hqueue : iface.packetClonerQueue with _ | ⟨out, queue⟩
  · rfl
  · rcases h with hnil | hcloned
    · rw [hqueue] at hnil
      cases hnil
    · dsimp only
      rw [if_pos hcloned]

theorem startPacketCloningTask_cons (answer : ErrorT) {out : Ipv6LoopbackOutPacket}
    {queue : List Ipv6LoopbackOutPacket} (hqueue : iface.packetClonerQueue = out :: queue)
    (hcloned : iface.packetBeingCloned = false) (hclient : iface.client = none) :
    iface.startPacketCloningTask answer =
      if answer = SUCCESS then
        ({ iface with
            startPacketCloningTaskPosted := false
            packetBeingCloned := true
            client := some ⟨out.packet, none, 0, ⟨none, 0⟩, ⟨none, 0⟩⟩ }, [])
      else
        ({ iface with
            client := none
            packetClonerQueue := queue
            packetBeingCloned := false
            startPacketCloningTaskPosted := true }, [.finished out.outPacket answer]) := by
  simp only [startPacketCloningTask, startCloningIPv6Packet, hqueue, hcloned, hclient,
    Bool.false_eq_true, if_false]
  by_cases hanswer : answer = SUCCESS
  · simp only [if_pos hanswer]
    rfl
  · simp only [if_neg hanswer]

theorem StandsFor.client_eq_none (h : iface.StandsFor jobs)
    (hcloned : iface.packetBeingCloned = false) : iface.client = none := by
  have hsome := h.cloned
  rw [hcloned] at hsome
  exact Option.isNone_iff_eq_none.mp (Option.isSome_eq_false_iff.mp hsome.symm)

/-- The cloning of the packet at the head starts, or the packet is finished at once. -/
theorem startPacketCloningTask_advances (h : iface.StandsFor jobs) (answer : ErrorT)
    (hne : iface.packetClonerQueue ≠ []) (hcloned : iface.packetBeingCloned = false) :
    iface.Advances jobs (iface.startPacketCloningTask answer) := by
  have hclient := h.client_eq_none hcloned
  obtain ⟨out, queue, hqueue⟩ := List.exists_cons_of_ne_nil hne
  have hpending := h.pending_cons hqueue
  have hcopy : jobs.copy = none := by rw [h.copy, copy, hclient, Option.bind_none, Option.map_none]
  rw [startPacketCloningTask_cons answer hqueue hcloned hclient]
  split_ifs with hanswer
  · refine ⟨⟨jobs, .nil jobs, ?_⟩, Or.inr ⟨rfl, ?_⟩⟩
    · exact
        { pending := h.pending
          copy := hcopy
          waiting := h.waiting
          delivering := h.delivering
          lent := h.lent
          cloned := rfl
          client := fun client hstarted => by
            obtain rfl := Option.some.inj hstarted
            refine ⟨?_, fun clone hclone => by cases hclone⟩
            change iface.packetClonerQueue.head?.map _ = _
            rw [hqueue, List.head?_cons, Option.map_some]
          cloningPosted := fun _ hnot => by cases hnot
          deliveryPosted := h.deliveryPosted }
    · rw [leftCloning_of_client rfl, leftCloning, hclient, hqueue, List.head?_cons,
        Ipv6PacketClonerClient.left]
      exact le_rfl
  · refine ⟨⟨_, .single (.failed jobs hpending hcopy hanswer), ?_⟩, Or.inl ⟨out, ?_, answer,
      List.mem_singleton_self _⟩⟩
    · have hnext := h.next queue
      rw [← hcopy] at hnext
      exact hnext
    · rw [hqueue]
      rfl

theorem startPacketCloningTask_spec (h : iface.StandsFor jobs) (answer : ErrorT) :
    ∃ jobs', SpecRun LoopbackJobs.Step jobs (iface.startPacketCloningTask answer).2 jobs' ∧
      (iface.startPacketCloningTask answer).1.StandsFor jobs' := by
  by_cases hidle : iface.packetClonerQueue = [] ∨ iface.packetBeingCloned = true
  · rw [startPacketCloningTask_idle answer hidle]
    refine ⟨jobs, .nil jobs, ?_⟩
    exact
      { pending := h.pending
        copy := h.copy
        waiting := h.waiting
        delivering := h.delivering
        lent := h.lent
        cloned := h.cloned
        client := h.client
        cloningPosted := fun hne hnone => by
          rcases hidle with hnil | hcloned
          · exact absurd hnil hne
          · have hsome := h.cloned
            rw [hcloned, hnone] at hsome
            cases hsome
        deliveryPosted := h.deliveryPosted }
  · rw [not_or] at hidle
    exact (startPacketCloningTask_advances h answer hidle.1
      (Bool.eq_false_of_not_eq_true hidle.2)).specRun

/-! ## Delivery -/

/-- Nothing happens while a clone is being delivered, or when there is none. -/
theorem deliverPacketCloneTask_idle (answer : ErrorT)
    (h : iface.packetDeliveryQueue = [] ∨ iface.packetBeingDelivered = true) :
    iface.deliverPacketCloneTask answer =
      ({ iface with deliverPacketCloneTaskPosted := false }, []) := by
  rw [deliverPacketCloneTask]
  rcases hqueue : iface.packetDeliveryQueue with _ | ⟨clone, queue⟩
  · rfl
  · rcases h with hnil | hdelivered
    · rw [hqueue] at hnil
      cases hnil
    · dsimp only
      rw [if_pos hdelivered]

theorem deliverPacketCloneTask_cons (answer : ErrorT) {clone : Ipv6Clone} {queue : List Ipv6Clone}
    (hqueue : iface.packetDeliveryQueue = clone :: queue)
    (hdelivered : iface.packetBeingDelivered = false) :
    iface.deliverPacketCloneTask answer =
      if answer ≠ SUCCESS then
        ({ iface with
            inPacketStateBuf := some clone
            packetDeliveryQueue := queue
            deliverPacketCloneTaskPosted := true },
          [.delivered clone.ptr clone.packet answer, .freed clone.ptr])
      else
        ({ iface with
            inPacketStateBuf := some clone
            packetDeliveryQueue := queue
            deliverPacketCloneTaskPosted := false
            packetBeingDelivered := true },
          [.delivered clone.ptr clone.packet answer]) := by
  simp only [deliverPacketCloneTask, hqueue, hdelivered, Bool.false_eq_true, if_false]

theorem deliverPacketCloneTask_spec (h : iface.StandsFor jobs) (answer : ErrorT) :
    ∃ jobs', SpecRun LoopbackJobs.Step jobs (iface.deliverPacketCloneTask answer).2 jobs' ∧
      (iface.deliverPacketCloneTask answer).1.StandsFor jobs' := by
  by_cases hidle : iface.packetDeliveryQueue = [] ∨ iface.packetBeingDelivered = true
  · rw [deliverPacketCloneTask_idle answer hidle]
    refine ⟨jobs, .nil jobs, ?_⟩
    exact
      { pending := h.pending
        copy := h.copy
        waiting := h.waiting
        delivering := h.delivering
        lent := h.lent
        cloned := h.cloned
        client := h.client
        cloningPosted := h.cloningPosted
        deliveryPosted := fun hne hnot => by
          rcases hidle with hnil | hdelivered
          · exact absurd hnil hne
          · rw [hdelivered] at hnot
            cases hnot }
  · rw [not_or] at hidle
    have hdelivered := Bool.eq_false_of_not_eq_true hidle.2
    obtain ⟨clone, queue, hqueue⟩ := List.exists_cons_of_ne_nil hidle.1
    have hwaiting := h.waiting
    rw [hqueue] at hwaiting
    obtain ⟨⟨ptr, packet⟩, waiting, hhead, hrest, hjobs⟩ := List.forall₂_cons_right_iff.mp hwaiting
    obtain ⟨rfl, hbytes⟩ := hhead
    have hdelivering : jobs.delivering = none := by
      rw [h.delivering, hdelivered]
      rfl
    have hstep : LoopbackJobs.Step jobs (.delivered clone.ptr clone.packet answer)
        { jobs with waiting := waiting, delivering := some clone.ptr } :=
      .delivered jobs hjobs hdelivering hbytes
    rw [deliverPacketCloneTask_cons answer hqueue hdelivered]
    split_ifs with hanswer
    · refine ⟨_, .cons hstep (.single (.freed _ rfl)), ?_⟩
      exact
        { pending := h.pending
          copy := h.copy
          waiting := hrest
          delivering := by
            dsimp only
            rw [hdelivered]
            rfl
          lent := fun _ => rfl
          cloned := h.cloned
          client := h.client
          cloningPosted := h.cloningPosted
          deliveryPosted := fun _ _ => rfl }
    · refine ⟨_, .single hstep, ?_⟩
      exact
        { pending := h.pending
          copy := h.copy
          waiting := hrest
          delivering := rfl
          lent := fun _ => rfl
          cloned := h.cloned
          client := h.client
          cloningPosted := h.cloningPosted
          deliveryPosted := fun _ hnot => by cases hnot }

/-- The clone that is being delivered is freed. -/
theorem finishReceivingIPv6Packet_spec (h : iface.StandsFor jobs)
    (hdelivered : iface.packetBeingDelivered = true) :
    ∃ clone, jobs.delivering = some clone ∧ iface.finishReceivingIPv6Packet.2 = [.freed clone] ∧
      iface.finishReceivingIPv6Packet.1.StandsFor { jobs with delivering := none } := by
  obtain ⟨clone, hclone⟩ := Option.isSome_iff_exists.mp (h.lent hdelivered)
  refine ⟨clone.ptr, ?_, ?_, ?_⟩
  · rw [h.delivering, if_pos hdelivered, hclone, Option.map_some]
  · rw [finishReceivingIPv6Packet, hclone]
  · exact
      { pending := h.pending
        copy := h.copy
        waiting := h.waiting
        delivering := rfl
        lent := fun hnot => by cases hnot
        cloned := h.cloned
        client := h.client
        cloningPosted := h.cloningPosted
        deliveryPosted := fun _ _ => rfl }

/-! ## Runs -/

theorem start_spec (h : iface.StandsFor jobs) : iface.start.2.StandsFor jobs := by
  rw [start]
  split_ifs
  · exact h
  · exact ⟨h.pending, h.copy, h.waiting, h.delivering, h.lent, h.cloned, h.client, h.cloningPosted,
      h.deliveryPosted⟩

/-- Every step of the interface keeps to the jobs. -/
theorem step_spec (sizes : Ipv6LoopbackSizes) (iface : Ipv6LoopbackInterface) (jobs : LoopbackJobs)
    (event : Ipv6LoopbackEvent) (h : iface.StandsFor jobs) :
    ∃ jobs', SpecRun LoopbackJobs.Step jobs (iface.step sizes event).2 jobs' ∧
      (iface.step sizes event).1.StandsFor jobs' := by
  cases event with
  | start => exact ⟨jobs, .nil jobs, start_spec h⟩
  | startSendingIPv6Packet out =>
    simp only [step]
    rcases startSendingIPv6Packet_spec sizes h out with ⟨hfail, hsame⟩ | ⟨hok, -, -, h'⟩
    · rw [if_neg hfail, hsame]
      exact ⟨jobs, .nil jobs, h⟩
    · rw [if_pos hok]
      exact ⟨_, .single (.accepted jobs out.outPacket out.packet), h'⟩
  | startPacketCloningTask answer =>
    rw [step]
    split_ifs
    · exact startPacketCloningTask_spec h answer
    · exact ⟨jobs, .nil jobs, h⟩
  | doClonePacketsTask ptr answers =>
    rw [step]
    cases hclient : iface.client with
    | none =>
      rw [doClonePacketsTask, hclient]
      exact ⟨jobs, .nil jobs, h⟩
    | some client => exact (doClonePacketsTask_spec h hclient ptr answers).specRun
  | deliverPacketCloneTask answer =>
    rw [step]
    split_ifs
    · exact deliverPacketCloneTask_spec h answer
    · exact ⟨jobs, .nil jobs, h⟩
  | finishReceivingIPv6Packet status =>
    rw [step]
    split_ifs with hdelivered
    · obtain ⟨clone, hclone, hacts, h'⟩ := finishReceivingIPv6Packet_spec h hdelivered
      rw [hacts]
      exact ⟨_, .single (.freed jobs hclone), h'⟩
    · exact ⟨jobs, .nil jobs, h⟩

/-! ## Progress -/

/-- How many steps of the delivery there are before the next clone is freed, apart from the last. -/
def leftDelivery (iface : Ipv6LoopbackInterface) : ℕ := if iface.packetBeingDelivered then 0 else 1

theorem StandsFor.leftDelivery (h : iface.StandsFor jobs) :
    jobs.leftDelivery = iface.leftDelivery := by
  rw [LoopbackJobs.leftDelivery, h.delivering, Ipv6LoopbackInterface.leftDelivery]
  cases hdelivered : iface.packetBeingDelivered with
  | true => rw [if_pos rfl, Option.isSome_map, h.lent hdelivered]
  | false => rfl

end Ipv6LoopbackInterface

end Whip6
