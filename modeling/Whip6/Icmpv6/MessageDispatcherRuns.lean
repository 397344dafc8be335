import Whip6.Base.IoVecRefinement
import Whip6.Icmpv6.MessageDispatcher

/-!
# Runs of the dispatcher of incoming ICMPv6 messages

In any run the packets leave the queue in the order in which they came, at most one message is with a
handler and at most one has its checksum computed, and every packet is finished once.  A message that
reaches a handler is the one of its packet exactly if the packet is as long as its header says, and
long enough for the header of a message: the length of the message is a difference in sixteen bits,
and nothing compares it with the bytes over which the checksum was computed.
-/

namespace Whip6

open Lib

/-! ## What a handler should get -/

namespace Icmpv6InPacket

variable (arrived : Icmpv6InPacket)

/-- The number of bytes before the message in the payload of its packet. -/
def pos : ℕ := iovIterPos (iovLens arrived.payload) arrived.payloadIter

/-- The first `n` bytes of the message, or fewer if there are not as many. -/
def messageBytes (n : ℕ) : List UInt8 := (arrived.payload.flatten.drop arrived.pos).take n

/-- The pseudo-header of a message. -/
def pseudoHeaderBytes (msgLength : UInt32) : List UInt8 :=
  ipv6PseudoHeaderBytes arrived.srcAddr arrived.dstAddr msgLength WHIP6_IANA_IPV6_ICMP

/-- A packet that has all the bytes that its header tells of, and among them a message header. -/
def IsWellSized : Prop :=
  arrived.payloadOffset.toNat + 4 ≤ arrived.payloadLength.toNat ∧
    arrived.payloadLength.toNat - arrived.payloadOffset.toNat ≤
      arrived.payload.flatten.length - arrived.pos

instance : Decidable arrived.IsWellSized := inferInstanceAs (Decidable (_ ∧ _))

end Icmpv6InPacket

/-- A message is the one of the packet that arrived: the packet has its header and all its bytes, and
the checksum over them and the pseudo-header is right. -/
structure Icmpv6IncomingMessage.IsRight (message : Icmpv6IncomingMessage)
    (arrived : Icmpv6InPacket) : Prop where
  payloadLen : message.payloadLen.toNat + 4 =
    arrived.payloadLength.toNat - arrived.payloadOffset.toNat
  present : (arrived.messageBytes (4 + message.payloadLen.toNat)).length =
    4 + message.payloadLen.toNat
  header : [message.type, message.code] = arrived.messageBytes 2
  within : IovIterWithin (iovLens arrived.payload) message.payloadIter
  payloadIter : iovIterPos (iovLens arrived.payload) message.payloadIter = arrived.pos + 4
  srcAddr : message.srcAddr = arrived.srcAddr
  dstAddr : message.dstAddr = arrived.dstAddr
  checksum : internetChecksum
    (arrived.pseudoHeaderBytes (UInt32.ofNat (4 + message.payloadLen.toNat)) ++
      arrived.messageBytes (4 + message.payloadLen.toNat)) = 0

/-! ## What the history tells -/

namespace Icmpv6ReceiverAct

def packet : Icmpv6ReceiverAct → ℕ
  | received p _ _ => p
  | checksumming p => p
  | checksummed p => p
  | dropped p => p
  | dispatched p _ _ => p
  | handlerFinished p _ => p
  | finished p _ => p

/-- A packet is processed from when it is accepted until it is finished. -/
def processingEntry : Icmpv6ReceiverAct → LedgerEntry ℕ
  | received p _ answer => if answer = SUCCESS then .opens p else .other
  | finished p _ => .closes p
  | _ => .other

/-- The packets whose checksum is being computed. -/
def checksummingEntry : Icmpv6ReceiverAct → LedgerEntry ℕ
  | checksumming p => .opens p
  | checksummed p => .closes p
  | _ => .other

/-- The packets whose message is with a handler. -/
def handlingEntry : Icmpv6ReceiverAct → LedgerEntry ℕ
  | dispatched p _ answer => if answer = SUCCESS then .opens p else .other
  | handlerFinished p _ => .closes p
  | _ => .other

def accepted : Icmpv6ReceiverAct → Option ℕ
  | received p _ answer => if answer = SUCCESS then some p else none
  | _ => none

/-- A packet leaves the queue, to a handler or not. -/
def taken : Icmpv6ReceiverAct → Option ℕ
  | dropped p => some p
  | dispatched p _ _ => some p
  | _ => none

/-- How an act that concerns a packet changes what is known of its arrival. -/
def see (v : Option Icmpv6InPacket) : Icmpv6ReceiverAct → Option Icmpv6InPacket
  | received _ inPacket answer => if answer = SUCCESS then some inPacket else v
  | finished _ _ => none
  | _ => v

/-- A packet that is being processed, as it arrived. -/
def arrived (p : ℕ) (acts : List Icmpv6ReceiverAct) : Option Icmpv6InPacket :=
  viewOf packet see none p acts

/-- A handler gets a message of a packet that is being processed, and it gets the right message
exactly if the packet has the size that it should have. -/
def DispatchJustified (pre : List Icmpv6ReceiverAct) : Icmpv6ReceiverAct → Prop
  | dispatched p message _ => ∃ inPacket, arrived p pre = some inPacket ∧
    (message.IsRight inPacket ↔ inPacket.IsWellSized)
  | _ => True

variable {acts new : List Icmpv6ReceiverAct} {act : Icmpv6ReceiverAct} {p q : ℕ}

theorem arrived_append_other (h : ∀ act ∈ new, act.packet ≠ q) :
    arrived q (acts ++ new) = arrived q acts := viewOf_append_other h

theorem arrived_concat (h : act.packet = p) :
    arrived p (acts ++ [act]) = see (arrived p acts) act := viewOf_concat h

theorem filterMap_append_of_none {f : Icmpv6ReceiverAct → Option ℕ} (h : ∀ act ∈ new, f act = none) :
    (acts ++ new).filterMap f = acts.filterMap f := by
  rw [List.filterMap_append, List.filterMap_eq_nil_iff.mpr h, List.append_nil]

end Icmpv6ReceiverAct

namespace Icmpv6MessageDispatcher

open Icmpv6ReceiverAct

/-- What the processor, the scheduler, the checksum computer and the handlers promise: the processor
passes no packet up again before it is finished, with an iterator into it; a task is run when it is
posted; a completion is signalled for what was started. -/
def Allowed (w : Watched Icmpv6MessageDispatcher Icmpv6ReceiverAct) : Icmpv6ReceiverEvent → Prop
  | .startReceivingIPv6Packet p inPacket => arrived p w.history = none ∧
    IovIterWithin (iovLens inPacket.payload) inPacket.payloadIter
  | .startProcessingICMPv6MessageTask _ => w.state.startProcessingTaskPosted = true
  | .finishChecksumming => ledger checksummingEntry [] w.history ≠ some []
  | .finishReceivingMessage _ _ => ledger handlingEntry [] w.history ≠ some []

/-- Nothing is pending: no task, no checksum and no handler. -/
def IsQuiet (s : Icmpv6MessageDispatcher) (acts : List Icmpv6ReceiverAct) : Prop :=
  s.startProcessingTaskPosted = false ∧ ledger checksummingEntry [] acts = some [] ∧
    ledger handlingEntry [] acts = some []

/-- The events other than arrivals. -/
def isCompletion : Icmpv6ReceiverEvent → Bool
  | .startReceivingIPv6Packet _ _ => false
  | _ => true

/-- The header of the message in a packet has been read. -/
structure HeaderRead (msgHeader : Icmpv6MessageHeader) (inPacket arrived : Icmpv6InPacket) : Prop where
  packet : inPacket.packet = arrived.packet
  payloadOffset : inPacket.payloadOffset = arrived.payloadOffset + 4
  within : IovIterWithin (iovLens arrived.payload) inPacket.payloadIter
  pos : iovIterPos (iovLens arrived.payload) inPacket.payloadIter = arrived.pos + 4
  present : arrived.pos + 4 ≤ arrived.payload.flatten.length
  header : msgHeader.toBytes = arrived.messageBytes 4

/-- How far the processing of the first packet has come. -/
def Progress (s : Icmpv6MessageDispatcher) (inPacket arrived : Icmpv6InPacket) : Prop :=
  match s.checksumRequest, s.packetReadyBit with
  | none, false => inPacket = arrived
  | none, true => HeaderRead s.msgHeader inPacket arrived ∧
    internetChecksum (arrived.pseudoHeaderBytes arrived.msgLength.toUInt32 ++
      arrived.messageBytes arrived.msgLength.toNat) = 0
  | some numBytes, _ => HeaderRead s.msgHeader inPacket arrived ∧ numBytes = arrived.msgLength.toNat ∧
    s.msgChecksumIter = arrived.payloadIter ∧
    s.msgChecksumComp.Covers (arrived.pseudoHeaderBytes arrived.msgLength.toUInt32)

/-- When the task is posted. -/
structure Scheduled (s : Icmpv6MessageDispatcher) : Prop where
  checksumming : s.checksumRequest ≠ none → s.processedPacketQueue ≠ [] ∧
    s.packetReadyBit = false ∧ s.startProcessingTaskPosted = false
  ready : s.packetReadyBit = true → s.processedPacketQueue ≠ [] ∧
    s.startProcessingTaskPosted = s.dispatchedPktPtr.isNone
  waiting : s.checksumRequest = none → s.packetReadyBit = false →
    s.startProcessingTaskPosted = !s.processedPacketQueue.isEmpty

/-- The part of the invariant that does not depend on how far the first packet is. -/
structure Books (s : Icmpv6MessageDispatcher) (acts : List Icmpv6ReceiverAct) : Prop where
  processing : ∃ l, ledger processingEntry [] acts = some l ∧
    l.Perm (s.dispatchedPktPtr.toList ++ s.processedPacketQueue)
  nodup : (s.dispatchedPktPtr.toList ++ s.processedPacketQueue).Nodup
  handling : ledger handlingEntry [] acts = some s.dispatchedPktPtr.toList
  order : acts.filterMap accepted = acts.filterMap taken ++ s.processedPacketQueue
  known : ∀ p ∈ s.dispatchedPktPtr.toList ++ s.processedPacketQueue, ∃ inPacket,
    arrived p acts = some inPacket ∧ IovIterWithin (iovLens inPacket.payload) inPacket.payloadIter
  waiting : ∀ p ∈ s.processedPacketQueue.tail, arrived p acts = some (s.inPacket p)
  justified : Justified DispatchJustified acts

structure Inv (s : Icmpv6MessageDispatcher) (acts : List Icmpv6ReceiverAct) : Prop
    extends Books s acts where
  checksumming : ledger checksummingEntry [] acts =
    some (if s.checksumRequest.isSome then s.processedPacketQueue.take 1 else [])
  scheduled : s.Scheduled
  first : ∀ p ∈ s.processedPacketQueue.head?, ∀ inPacket, arrived p acts = some inPacket →
    s.Progress (s.inPacket p) inPacket

variable {s : Icmpv6MessageDispatcher} {acts : List Icmpv6ReceiverAct} {p : ℕ}

theorem progress_idle {inPacket arrived : Icmpv6InPacket} (hrequest : s.checksumRequest = none)
    (hready : s.packetReadyBit = false) : s.Progress inPacket arrived ↔ inPacket = arrived := by
  rw [Progress, hrequest, hready]

theorem progress_ready {inPacket arrived : Icmpv6InPacket} (hrequest : s.checksumRequest = none)
    (hready : s.packetReadyBit = true) :
    s.Progress inPacket arrived ↔ HeaderRead s.msgHeader inPacket arrived ∧
      internetChecksum (arrived.pseudoHeaderBytes arrived.msgLength.toUInt32 ++
        arrived.messageBytes arrived.msgLength.toNat) = 0 := by
  rw [Progress, hrequest, hready]

theorem progress_checksumming {inPacket arrived : Icmpv6InPacket} {numBytes : ℕ}
    (hrequest : s.checksumRequest = some numBytes) :
    s.Progress inPacket arrived ↔ HeaderRead s.msgHeader inPacket arrived ∧
      numBytes = arrived.msgLength.toNat ∧ s.msgChecksumIter = arrived.payloadIter ∧
      s.msgChecksumComp.Covers (arrived.pseudoHeaderBytes arrived.msgLength.toUInt32) := by
  rw [Progress, hrequest]

theorem Scheduled.idle_of_nil (h : s.Scheduled) (hqueue : s.processedPacketQueue = []) :
    s.checksumRequest = none ∧ s.packetReadyBit = false := by
  constructor
  · by_contra hrequest
    exact (h.checksumming hrequest).1 hqueue
  · rw [← Bool.not_eq_true]
    intro hready
    exact (h.ready hready).1 hqueue

theorem inv_initial (inPacket : ℕ → Icmpv6InPacket) : (initial inPacket).Inv [] where
  processing := ⟨[], rfl, .nil⟩
  nodup := .nil
  handling := rfl
  order := rfl
  known := fun _ hp => absurd hp List.not_mem_nil
  waiting := fun _ hp => absurd hp List.not_mem_nil
  justified := justified_nil
  checksumming := rfl
  scheduled := ⟨fun h => absurd rfl h, fun h => absurd h Bool.false_ne_true, fun _ _ => rfl⟩
  first := fun p hp => absurd hp (Option.not_mem_none p)

/-! ## Arrivals -/

namespace Inv

/-- A packet that arrives is not being processed. -/
theorem not_mem_of_arrived (h : s.Inv acts) (harrived : arrived p acts = none) :
    p ∉ s.dispatchedPktPtr.toList ++ s.processedPacketQueue := by
  intro hp
  obtain ⟨inPacket, hknown, -⟩ := h.known p hp
  rw [harrived] at hknown
  cases hknown

theorem refuse (h : s.Inv acts) (inPacket : Icmpv6InPacket) :
    s.Inv (acts ++ [.received p inPacket ENOMEM]) := by
  have harrived : ∀ q, arrived q (acts ++ [.received p inPacket ENOMEM]) = arrived q acts := by
    intro q
    by_cases hq : p = q
    · subst hq
      exact arrived_concat rfl
    · exact arrived_append_other (by simpa [packet] using hq)
  have hother : ∀ act ∈ [Icmpv6ReceiverAct.received p inPacket ENOMEM],
      processingEntry act = .other ∧ handlingEntry act = .other ∧ checksummingEntry act = .other := by
    intro act hact
    rw [List.mem_singleton.mp hact]
    exact ⟨rfl, rfl, rfl⟩
  obtain ⟨l, hl, hperm⟩ := h.processing
  constructor
  · constructor
    · exact ⟨l, ledger_append_of_other hl fun act hact => (hother act hact).1, hperm⟩
    · exact h.nodup
    · exact ledger_append_of_other h.handling fun act hact => (hother act hact).2.1
    · rw [filterMap_append_of_none (List.forall_mem_singleton.mpr rfl),
        filterMap_append_of_none (List.forall_mem_singleton.mpr rfl)]
      exact h.order
    · simpa only [harrived] using h.known
    · simpa only [harrived] using h.waiting
    · exact h.justified.concat trivial
  · exact ledger_append_of_other h.checksumming fun act hact => (hother act hact).2.2
  · exact h.scheduled
  · simpa only [harrived] using h.first

theorem enqueue (h : s.Inv acts) {inPacket : Icmpv6InPacket} (harrived : arrived p acts = none)
    (hwithin : IovIterWithin (iovLens inPacket.payload) inPacket.payloadIter) :
    { s.setInPacket p inPacket with
      startProcessingTaskPosted := s.startProcessingTaskPosted || s.processedPacketQueue.isEmpty
      processedPacketQueue := s.processedPacketQueue ++ [p] }.Inv
        (acts ++ [received p inPacket SUCCESS]) := by
  have hfresh := h.not_mem_of_arrived harrived
  have hself : arrived p (acts ++ [received p inPacket SUCCESS]) = some inPacket :=
    arrived_concat rfl
  have hne : ∀ q ∈ s.dispatchedPktPtr.toList ++ s.processedPacketQueue, p ≠ q := by
    rintro q hq rfl
    exact hfresh hq
  have hsame : ∀ q, p ≠ q →
      arrived q (acts ++ [received p inPacket SUCCESS]) = arrived q acts ∧
        Function.update s.inPacket p inPacket q = s.inPacket q := fun q hq =>
    ⟨arrived_append_other (by simpa [packet] using hq), Function.update_of_ne (Ne.symm hq) _ _⟩
  have hqueue : ∀ q ∈ s.processedPacketQueue, p ≠ q := fun q hq =>
    hne q (List.mem_append_right _ hq)
  have hnonempty : s.processedPacketQueue ≠ [] → s.processedPacketQueue.isEmpty = false :=
    List.isEmpty_eq_false_iff.mpr
  obtain ⟨l, hl, hperm⟩ := h.processing
  constructor
  · constructor
    · refine ⟨p :: l, ledger_concat_of_opens hl rfl, ?_⟩
      rw [← List.append_assoc]
      exact (hperm.cons p).trans (List.perm_append_singleton p _).symm
    · rw [← List.append_assoc]
      exact List.nodup_append.mpr ⟨h.nodup, List.nodup_singleton p, fun q hq r hr heq =>
        hne q hq ((List.mem_singleton.mp hr).symm.trans heq.symm)⟩
    · exact ledger_append_of_other h.handling (List.forall_mem_singleton.mpr rfl)
    · rw [filterMap_append_of_none (f := taken) (List.forall_mem_singleton.mpr rfl),
        List.filterMap_append, h.order, List.append_assoc]
      rfl
    · intro q hq
      rw [← List.append_assoc, List.mem_append, List.mem_singleton] at hq
      rcases hq with hq | rfl
      · rw [(hsame q (hne q hq)).1]
        exact h.known q hq
      · exact ⟨inPacket, hself, hwithin⟩
    · intro q hq
      cases hcase : s.processedPacketQueue with
      | nil =>
        rw [hcase] at hq
        cases hq
      | cons first rest =>
        rw [hcase, List.cons_append, List.tail_cons, List.mem_append, List.mem_singleton] at hq
        rcases hq with hq | rfl
        · have hneq := hqueue q (by rw [hcase]; exact List.mem_cons_of_mem _ hq)
          rw [(hsame q hneq).1]
          refine (h.waiting q (by rwa [hcase])).trans ?_
          exact congrArg some (hsame q hneq).2.symm
        · rw [hself]
          exact congrArg some (Function.update_self q inPacket s.inPacket).symm
    · exact h.justified.concat trivial
  · rw [ledger_append_of_other h.checksumming (List.forall_mem_singleton.mpr rfl)]
    apply congrArg some
    change (if s.checksumRequest.isSome then s.processedPacketQueue.take 1 else []) =
      if s.checksumRequest.isSome then (s.processedPacketQueue ++ [p]).take 1 else []
    by_cases hrequest : s.checksumRequest = none
    · simp only [hrequest, Option.isSome_none, Bool.false_eq_true, if_false]
    · obtain ⟨first, rest, hcons⟩ :=
        List.exists_cons_of_ne_nil (h.scheduled.checksumming hrequest).1
      simp only [hcons, List.cons_append, List.take_succ_cons, List.take_zero]
  · constructor
    · intro hrequest
      obtain ⟨hqueue, hready, hposted⟩ := h.scheduled.checksumming hrequest
      refine ⟨List.append_ne_nil_of_right_ne_nil _ (List.cons_ne_nil _ _), hready, ?_⟩
      change (s.startProcessingTaskPosted || s.processedPacketQueue.isEmpty) = false
      rw [hposted, hnonempty hqueue, Bool.or_false]
    · intro hready
      obtain ⟨hqueue, hposted⟩ := h.scheduled.ready hready
      refine ⟨List.append_ne_nil_of_right_ne_nil _ (List.cons_ne_nil _ _), ?_⟩
      change (s.startProcessingTaskPosted || s.processedPacketQueue.isEmpty) =
        s.dispatchedPktPtr.isNone
      rw [hposted, hnonempty hqueue, Bool.or_false]
    · intro hrequest hready
      have hposted := h.scheduled.waiting hrequest hready
      simp [hposted]
  · intro q hq arrivedPacket hknown
    cases hcase : s.processedPacketQueue with
    | nil =>
      obtain rfl : p = q := by
        rw [hcase] at hq
        exact Option.mem_some.mp hq
      obtain ⟨hrequest, hready⟩ := h.scheduled.idle_of_nil hcase
      rw [hself, Option.some.injEq] at hknown
      rw [← hknown]
      apply (progress_idle hrequest hready).mpr
      exact Function.update_self p inPacket s.inPacket
    | cons first rest =>
      obtain rfl : first = q := by
        rw [hcase] at hq
        exact Option.mem_some.mp hq
      have hneq := hqueue first (by rw [hcase]; exact List.mem_cons_self)
      rw [(hsame first hneq).1] at hknown
      have hprogress := h.first first (by rw [hcase]; rfl) arrivedPacket hknown
      rw [← (hsame first hneq).2] at hprogress
      exact hprogress

theorem startReceivingIPv6Packet (h : s.Inv acts) {inPacket : Icmpv6InPacket}
    (harrived : arrived p acts = none)
    (hwithin : IovIterWithin (iovLens inPacket.payload) inPacket.payloadIter) (queueSize : ℕ) :
    let r := s.startReceivingIPv6Packet queueSize p inPacket
    r.1.Inv (acts ++ r.2) := by
  intro r
  by_cases hfull : s.processedPacketQueue.length = queueSize
  · have hr : r = _ := if_pos hfull
    rw [hr]
    exact h.refuse inPacket
  · have hr : r = _ := if_neg hfull
    rw [hr]
    exact h.enqueue harrived hwithin

end Inv

/-! ## The first packet leaves the queue -/

namespace Books

variable {rest : List ℕ} {act : Icmpv6ReceiverAct} {status : ErrorT}

/-- The invariant, when nothing has been done for the first packet. -/
theorem inv_idle (h : s.Books acts) (hrequest : s.checksumRequest = none)
    (hready : s.packetReadyBit = false)
    (hposted : s.startProcessingTaskPosted = !s.processedPacketQueue.isEmpty)
    (hchecks : ledger checksummingEntry [] acts = some [])
    (hhead : ∀ p ∈ s.processedPacketQueue.head?, arrived p acts = some (s.inPacket p)) :
    s.Inv acts := by
  refine ⟨h, ?_, ⟨?_, ?_, ?_⟩, ?_⟩
  · rw [hchecks, hrequest]
    rfl
  · intro hne
    exact absurd hrequest hne
  · intro hset
    rw [hready] at hset
    cases hset
  · intro _ _
    exact hposted
  · intro p hp inPacket hknown
    rw [hhead p hp, Option.some.injEq] at hknown
    exact (progress_idle hrequest hready).mpr hknown

/-- Only the packet at the head is worked on. -/
theorem congr {s' : Icmpv6MessageDispatcher} (h : s.Books acts)
    (hdispatched : s'.dispatchedPktPtr = s.dispatchedPktPtr)
    (hqueue : s'.processedPacketQueue = s.processedPacketQueue)
    (hwaiting : ∀ q ∈ s.processedPacketQueue.tail, s'.inPacket q = s.inPacket q) :
    s'.Books acts := by
  constructor
  · rw [hdispatched, hqueue]
    exact h.processing
  · rw [hdispatched, hqueue]
    exact h.nodup
  · rw [hdispatched]
    exact h.handling
  · rw [hqueue]
    exact h.order
  · rw [hdispatched, hqueue]
    exact h.known
  · intro q hq
    rw [hqueue] at hq
    rw [hwaiting q hq]
    exact h.waiting q hq
  · exact h.justified

/-- What happens between the dispatcher and the checksum computer changes nothing else. -/
theorem concat (h : s.Books acts) (hact : act = .checksumming p ∨ act = .checksummed p) :
    s.Books (acts ++ [act]) := by
  have hother : processingEntry act = .other ∧ handlingEntry act = .other ∧ accepted act = none ∧
      taken act = none ∧ ∀ v, see v act = v := by
    rcases hact with rfl | rfl
    · exact ⟨rfl, rfl, rfl, rfl, fun _ => rfl⟩
    · exact ⟨rfl, rfl, rfl, rfl, fun _ => rfl⟩
  obtain ⟨hprocessing, hhandling, haccepted, htaken, hsee⟩ := hother
  have harrived : ∀ q, arrived q (acts ++ [act]) = arrived q acts := by
    intro q
    by_cases hq : act.packet = q
    · rw [arrived_concat hq, hsee]
    · exact arrived_append_other (List.forall_mem_singleton.mpr hq)
  obtain ⟨l, hl, hperm⟩ := h.processing
  constructor
  · exact ⟨l, ledger_append_of_other hl (List.forall_mem_singleton.mpr hprocessing), hperm⟩
  · exact h.nodup
  · exact ledger_append_of_other h.handling (List.forall_mem_singleton.mpr hhandling)
  · rw [filterMap_append_of_none (List.forall_mem_singleton.mpr haccepted),
      filterMap_append_of_none (List.forall_mem_singleton.mpr htaken)]
    exact h.order
  · simpa only [harrived] using h.known
  · simpa only [harrived] using h.waiting
  · apply h.justified.concat
    rcases hact with rfl | rfl
    · trivial
    · trivial

theorem first_not_mem (h : s.Books acts) (hqueue : s.processedPacketQueue = p :: rest) :
    p ∉ s.dispatchedPktPtr.toList ++ rest := by
  have hnodup := h.nodup
  rw [hqueue] at hnodup
  exact (List.nodup_cons.mp (List.perm_middle.nodup_iff.mp hnodup)).1

/-- The first packet is finished without being left to a handler. -/
theorem finishFirst (h : s.Books acts) (hqueue : s.processedPacketQueue = p :: rest)
    (hrequest : s.checksumRequest = none) (hposted : s.startProcessingTaskPosted = false)
    (hchecks : ledger checksummingEntry [] acts = some []) (hpacket : act.packet = p)
    (hprocessing : processingEntry act = .other) (hhandling : handlingEntry act = .other)
    (hchecksumming : checksummingEntry act = .other) (htaken : taken act = some p)
    (haccepted : accepted act = none) (hjustified : DispatchJustified acts act) :
    let r := { s with
      packetReadyBit := false
      processedPacketQueue := rest
      startProcessingTaskPosted :=
        s.startProcessingTaskPosted || !rest.isEmpty }.finishProcessingIPv6Packet p status
    r.1.Inv (acts ++ act :: r.2) := by
  intro r
  have hfirst := h.first_not_mem hqueue
  have hne : ∀ q ∈ s.dispatchedPktPtr.toList ++ rest, p ≠ q := by
    rintro q hq rfl
    exact hfirst hq
  have hsame : ∀ q, p ≠ q → arrived q (acts ++ act :: r.2) = arrived q acts ∧
      r.1.inPacket q = s.inPacket q := by
    intro q hq
    refine ⟨arrived_append_other ?_, Function.update_of_ne (Ne.symm hq) _ _⟩
    intro act' hact'
    rcases List.mem_cons.mp hact' with rfl | hact'
    · rw [hpacket]
      exact hq
    · rw [List.mem_singleton.mp hact']
      exact hq
  have hrest : ∀ q ∈ rest, arrived q (acts ++ act :: r.2) = some (r.1.inPacket q) := by
    intro q hq
    have hneq := hne q (List.mem_append_right _ hq)
    rw [(hsame q hneq).1, (hsame q hneq).2]
    exact h.waiting q (by rwa [hqueue])
  have hsplit : acts ++ act :: r.2 = acts ++ [act] ++ [finished p status] := List.append_cons _ _ _
  apply inv_idle
  · obtain ⟨l, hl, hperm⟩ := h.processing
    rw [hqueue] at hperm
    constructor
    · rw [hsplit]
      exact ledger_concat_of_closes
        (ledger_append_of_other hl (List.forall_mem_singleton.mpr hprocessing)) rfl hperm
    · have hnodup := h.nodup
      rw [hqueue] at hnodup
      exact (List.nodup_cons.mp (List.perm_middle.nodup_iff.mp hnodup)).2
    · refine ledger_append_of_other h.handling fun act' hact' => ?_
      rcases List.mem_cons.mp hact' with rfl | hact'
      · exact hhandling
      · rw [List.mem_singleton.mp hact']
        rfl
    · have horder := h.order
      rw [hqueue] at horder
      rw [hsplit, filterMap_append_of_none (f := accepted) (List.forall_mem_singleton.mpr rfl),
        filterMap_append_of_none (f := accepted) (List.forall_mem_singleton.mpr haccepted),
        filterMap_append_of_none (f := taken) (List.forall_mem_singleton.mpr rfl),
        List.filterMap_append, List.filterMap_cons_some htaken, List.filterMap_nil, horder]
      exact List.append_cons _ _ _
    · intro q hq
      rw [(hsame q (hne q hq)).1]
      apply h.known q
      rw [hqueue]
      exact List.perm_middle.mem_iff.mpr (List.mem_cons_of_mem p hq)
    · intro q hq
      exact hrest q (List.mem_of_mem_tail hq)
    · rw [hsplit]
      exact (h.justified.concat hjustified).concat trivial
  · exact hrequest
  · rfl
  · change (s.startProcessingTaskPosted || !rest.isEmpty) = !rest.isEmpty
    rw [hposted, Bool.false_or]
  · refine ledger_append_of_other hchecks fun act' hact' => ?_
    rcases List.mem_cons.mp hact' with rfl | hact'
    · exact hchecksumming
    · rw [List.mem_singleton.mp hact']
      rfl
  · intro q hq
    exact hrest q (List.mem_of_mem_head? hq)

theorem finishProcessingFirstQueuedICMPv6Message (h : s.Books acts)
    (hqueue : s.processedPacketQueue = p :: rest) (hrequest : s.checksumRequest = none)
    (hready : s.packetReadyBit = false) (hposted : s.startProcessingTaskPosted = false)
    (hchecks : ledger checksummingEntry [] acts = some []) :
    let r := s.finishProcessingFirstQueuedICMPv6Message status
    r.1.Inv (acts ++ r.2) := by
  intro r
  have hdrop := @h.finishFirst s acts p rest (.dropped p) status hqueue hrequest hposted hchecks rfl
    rfl rfl rfl rfl rfl trivial
  rw [← hready] at hdrop
  have hr : r = s.finishProcessingFirstQueuedICMPv6Message status := rfl
  rw [Icmpv6MessageDispatcher.finishProcessingFirstQueuedICMPv6Message, hqueue] at hr
  rw [hr]
  exact hdrop

end Books

/-! ## The message -/

theorem toBytes_ofBytes {bytes : List UInt8} (h : bytes.length = 4) :
    (Icmpv6MessageHeader.ofBytes bytes).toBytes = bytes := by
  obtain ⟨b₀, b₁, b₂, b₃, rfl⟩ := List.length_eq_four.mp h
  rfl

/-- The message that a handler gets of a packet whose checksum was right. -/
theorem HeaderRead.isRight_iff {msgHeader : Icmpv6MessageHeader} {inPacket arrived : Icmpv6InPacket}
    (h : HeaderRead msgHeader inPacket arrived)
    (hsum : internetChecksum (arrived.pseudoHeaderBytes arrived.msgLength.toUInt32 ++
      arrived.messageBytes arrived.msgLength.toNat) = 0) :
    Icmpv6IncomingMessage.IsRight ⟨msgHeader.type, msgHeader.code, inPacket.payloadIter,
      inPacket.msgLength, inPacket.srcAddr, inPacket.dstAddr⟩ arrived ↔ arrived.IsWellSized := by
  have hlength : ∀ n, (arrived.messageBytes n).length =
      min n (arrived.payload.flatten.length - arrived.pos) := by
    intro n
    rw [Icmpv6InPacket.messageBytes, List.length_take, List.length_drop]
  have hmsgLength : inPacket.msgLength = arrived.payloadLength - (arrived.payloadOffset + 4) := by
    rw [Icmpv6InPacket.msgLength, Icmpv6InPacket.payloadLength, h.packet, h.payloadOffset]
    rfl
  constructor
  · intro hright
    have hlen := hright.payloadLen
    have hpresent := hright.present
    rw [hlength] at hpresent
    constructor
    · omega
    · omega
  · rintro ⟨hheader, hbytes⟩
    have hbound := arrived.payloadLength.toNat_lt
    have hoffset : (arrived.payloadOffset + 4).toNat = arrived.payloadOffset.toNat + 4 := by
      rw [UInt16.toNat_add, show UInt16.toNat 4 = 4 from rfl]
      exact Nat.mod_eq_of_lt (by omega)
    have hlen : inPacket.msgLength.toNat + 4 =
        arrived.payloadLength.toNat - arrived.payloadOffset.toNat := by
      have hle : arrived.payloadOffset + 4 ≤ arrived.payloadLength := by
        rw [UInt16.le_iff_toNat_le, hoffset]
        exact hheader
      rw [hmsgLength, UInt16.toNat_sub_of_le _ _ hle, hoffset]
      omega
    have hwhole : arrived.msgLength.toNat = 4 + inPacket.msgLength.toNat := by
      rw [Icmpv6InPacket.msgLength, UInt16.toNat_sub_of_le _ _
        (by rw [UInt16.le_iff_toNat_le]; omega)]
      omega
    have hword : arrived.msgLength.toUInt32 = UInt32.ofNat (4 + inPacket.msgLength.toNat) := by
      rw [← hwhole]
      apply UInt32.toNat_inj.mp
      rw [UInt16.toNat_toUInt32, UInt32.toNat_ofNat_of_lt']
      have hlt := arrived.msgLength.toNat_lt
      change arrived.msgLength.toNat < 2 ^ 32
      omega
    constructor
    · exact hlen
    · rw [hlength]
      apply min_eq_left
      change 4 + inPacket.msgLength.toNat ≤ _
      omega
    · have htake := congrArg (List.take 2) h.header
      rw [Icmpv6InPacket.messageBytes, List.take_take] at htake
      exact htake
    · exact h.within
    · exact h.pos
    · exact congrArg (fun packet => ipv6BasicHeaderGetSrcAddr packet.header) h.packet
    · exact congrArg (fun packet => ipv6BasicHeaderGetDstAddr packet.header) h.packet
    · change internetChecksum
        (arrived.pseudoHeaderBytes (UInt32.ofNat (4 + inPacket.msgLength.toNat)) ++
          arrived.messageBytes (4 + inPacket.msgLength.toNat)) = 0
      rw [← hword, ← hwhole]
      exact hsum

/-! ## The task -/

namespace Inv

variable {rest : List ℕ}

/-- The first packet, as it arrived. -/
theorem exists_arrived (h : s.Inv acts) (hqueue : s.processedPacketQueue = p :: rest) :
    ∃ arrivedPacket, arrived p acts = some arrivedPacket ∧
      IovIterWithin (iovLens arrivedPacket.payload) arrivedPacket.payloadIter ∧
      s.Progress (s.inPacket p) arrivedPacket := by
  have hmem : p ∈ s.dispatchedPktPtr.toList ++ s.processedPacketQueue := by
    rw [hqueue]
    exact List.mem_append_right _ List.mem_cons_self
  obtain ⟨arrivedPacket, hknown, hwithin⟩ := h.known p hmem
  exact ⟨arrivedPacket, hknown, hwithin, h.first p (by rw [hqueue]; rfl) arrivedPacket hknown⟩

/-- The task has been taken off the list of tasks. -/
theorem books_run (h : s.Inv acts) : { s with startProcessingTaskPosted := false }.Books acts :=
  ⟨h.processing, h.nodup, h.handling, h.order, h.known, h.waiting, h.justified⟩

theorem dispatchFirst (h : s.Inv acts) (hrequest : s.checksumRequest = none)
    (hidle : s.dispatchedPktPtr = none) (hready : s.packetReadyBit = true)
    (hqueue : s.processedPacketQueue = p :: rest) (answer : ErrorT) :
    let r := { s with startProcessingTaskPosted := false }.dispatchFirst p rest answer
    r.1.Inv (acts ++ r.2) := by
  intro r
  have hchecks := h.checksumming
  rw [hrequest] at hchecks
  obtain ⟨arrivedPacket, hknown, hwithin, hprogress⟩ := h.exists_arrived hqueue
  obtain ⟨hread, hsum⟩ := (progress_ready hrequest hready).mp hprogress
  have hjustified : ∀ message : Icmpv6IncomingMessage,
      message = ⟨s.msgHeader.type, s.msgHeader.code, (s.inPacket p).payloadIter,
        (s.inPacket p).msgLength, (s.inPacket p).srcAddr, (s.inPacket p).dstAddr⟩ →
      DispatchJustified acts (.dispatched p message answer) := by
    rintro _ rfl
    exact ⟨arrivedPacket, hknown, hread.isRight_iff hsum⟩
  by_cases hanswer : answer = SUCCESS
  · have hr : r = _ := if_pos hanswer
    have hself : ∀ message, arrived p (acts ++ [dispatched p message answer]) = arrived p acts :=
      fun message => arrived_concat rfl
    have hsame : ∀ q message, arrived q (acts ++ [dispatched p message answer]) = arrived q acts := by
      intro q message
      by_cases hq : p = q
      · rw [← hq]
        exact hself message
      · exact arrived_append_other (by simpa [packet] using hq)
    rw [hr]
    apply Books.inv_idle
    · obtain ⟨l, hl, hperm⟩ := h.processing
      rw [hidle, hqueue] at hperm
      constructor
      · exact ⟨l, ledger_append_of_other hl (List.forall_mem_singleton.mpr rfl), hperm⟩
      · have hnodup := h.nodup
        rw [hidle, hqueue] at hnodup
        exact hnodup
      · have hhandling := h.handling
        rw [hidle] at hhandling
        exact ledger_concat_of_opens hhandling (if_pos hanswer)
      · have horder := h.order
        rw [hqueue] at horder
        rw [filterMap_append_of_none (f := accepted) (List.forall_mem_singleton.mpr rfl), horder,
          List.filterMap_append]
        exact List.append_cons _ _ _
      · intro q hq
        rw [hsame]
        apply h.known q
        rw [hidle, hqueue]
        exact hq
      · intro q hq
        rw [hsame]
        exact h.waiting q (by rw [hqueue]; exact List.mem_of_mem_tail hq)
      · exact h.justified.concat (hjustified _ rfl)
    · exact hrequest
    · rfl
    · exact Bool.false_or _
    · exact ledger_append_of_other hchecks (List.forall_mem_singleton.mpr rfl)
    · intro q hq
      rw [hsame]
      exact h.waiting q (by rw [hqueue]; exact List.mem_of_mem_head? hq)
  · have hr : r = _ := if_neg hanswer
    rw [hr]
    exact h.books_run.finishFirst hqueue hrequest rfl hchecks rfl rfl (if_neg hanswer) rfl rfl rfl
      (hjustified _ rfl)

/-- Reading the header of a message: either it is there, or fewer bytes were read. -/
theorem headerRead_of_read {arrivedPacket : Icmpv6InPacket} {msgHeader : Icmpv6MessageHeader}
    (hwithin : IovIterWithin (iovLens arrivedPacket.payload) arrivedPacket.payloadIter) :
    let r := iovIteratorReadAndMoveForward arrivedPacket.payload arrivedPacket.payloadIter
      (some msgHeader.toBytes) icmpv6MessageHeaderSize
    r.1 = icmpv6MessageHeaderSize →
      HeaderRead (.ofBytes (r.2.2.getD []))
        { arrivedPacket with
          payloadIter := r.2.1
          payloadOffset := arrivedPacket.payloadOffset + icmpv6MessageHeaderSize.toUInt16 }
        arrivedPacket := by
  intro r hcount
  obtain ⟨hfit, hpos, -, hbytes⟩ :=
    iovIteratorRead_within hwithin msgHeader.toBytes icmpv6MessageHeaderSize
  have hthere : 4 ≤ arrivedPacket.payload.flatten.length - arrivedPacket.pos := by
    rw [hcount, icmpv6MessageHeaderSize] at hfit
    exact (min_eq_left_iff.mp hfit.symm)
  have hlength : (arrivedPacket.messageBytes 4).length = 4 := by
    rw [Icmpv6InPacket.messageBytes, List.length_take, List.length_drop]
    exact min_eq_left hthere
  have hheader : r.2.2.getD [] = arrivedPacket.messageBytes 4 := by
    rw [hbytes, Option.getD_some]
    exact splice_all hlength.symm
  constructor
  · rfl
  · rfl
  · exact (iovPieces_spec readPiece_meaning hwithin icmpv6MessageHeaderSize _).within
  · rw [hcount] at hpos
    exact hpos
  · omega
  · rw [hheader]
    exact toBytes_ofBytes hlength

theorem readFirst (h : s.Inv acts) (hrequest : s.checksumRequest = none)
    (hready : s.packetReadyBit = false) (hqueue : s.processedPacketQueue = p :: rest)
    (answers : Icmpv6ReceiverAnswers) :
    let r := { s with startProcessingTaskPosted := false }.readFirst p answers
    r.1.Inv (acts ++ r.2) := by
  intro r
  have hfirst := h.first_not_mem hqueue
  have hother : ∀ {inPacket : ℕ → Icmpv6InPacket},
      (∀ q, q ≠ p → inPacket q = s.inPacket q) →
        ∀ q ∈ s.processedPacketQueue.tail, inPacket q = s.inPacket q := by
    intro inPacket hsame q hq
    rw [hqueue] at hq
    apply hsame
    rintro rfl
    exact hfirst (List.mem_append_right _ hq)
  have hchecks := h.checksumming
  rw [hrequest] at hchecks
  obtain ⟨arrivedPacket, hknown, hwithin, hprogress⟩ := h.exists_arrived hqueue
  have hidle : s.inPacket p = arrivedPacket := (progress_idle hrequest hready).mp hprogress
  have hupdate : ∀ (f : ℕ → Icmpv6InPacket) (inPacket : Icmpv6InPacket) (q : ℕ), q ≠ p →
      Function.update f p inPacket q = f q := fun f inPacket q hq => Function.update_of_ne hq _ _
  by_cases hcount : (iovIteratorReadAndMoveForward (s.inPacket p).payload (s.inPacket p).payloadIter
      (some s.msgHeader.toBytes) icmpv6MessageHeaderSize).1 = icmpv6MessageHeaderSize
  · have hheader := @headerRead_of_read arrivedPacket s.msgHeader hwithin
    rw [← hidle] at hheader
    have hr : r = _ := if_neg (not_not.mpr hcount)
    rw [hr]
    split_ifs with hcode hanswer
    · refine Books.finishProcessingFirstQueuedICMPv6Message ?_ hqueue hrequest hready rfl hchecks
      exact h.books_run.congr rfl rfl
        (hother fun q hq => (hupdate _ _ q hq).trans (hupdate _ _ q hq))
    · refine Books.finishProcessingFirstQueuedICMPv6Message ?_ hqueue hrequest hready rfl hchecks
      exact h.books_run.congr rfl rfl
        (hother fun q hq => (hupdate _ _ q hq).trans (hupdate _ _ q hq))
    · constructor
      · apply Books.concat _ (Or.inl rfl)
        exact h.books_run.congr rfl rfl
          (hother fun q hq => (hupdate _ _ q hq).trans (hupdate _ _ q hq))
      · rw [ledger_concat_of_opens hchecks rfl]
        change some [p] = some (s.processedPacketQueue.take 1)
        rw [hqueue]
        rfl
      · constructor
        · intro _
          refine ⟨?_, hready, rfl⟩
          change s.processedPacketQueue ≠ []
          rw [hqueue]
          exact List.cons_ne_nil _ _
        · intro hset
          exact absurd (hready.symm.trans hset) Bool.false_ne_true
        · intro hnone
          cases hnone
      · intro q hq inPacket hq'
        obtain rfl : p = q := by
          change q ∈ s.processedPacketQueue.head? at hq
          rw [hqueue] at hq
          exact Option.mem_some.mp hq
        have hstill : arrived p (acts ++ [.checksumming p]) = some arrivedPacket :=
          (@arrived_concat acts (.checksumming p) p rfl).trans hknown
        obtain rfl : s.inPacket p = inPacket := hidle.trans (Option.some.inj (hstill.symm.trans hq'))
        apply (progress_checksumming rfl).mpr
        refine ⟨?_, rfl, rfl, ?_⟩
        · have hread := hheader hcount
          simp only [setInPacket, Function.update_self]
          exact hread
        · exact covers_init.pseudoHeader (length_getSrcAddr _) (length_getDstAddr _) _ _
  · have hr : r = _ := if_pos hcount
    rw [hr]
    refine Books.finishProcessingFirstQueuedICMPv6Message ?_ hqueue hrequest hready rfl hchecks
    exact h.books_run.congr rfl rfl (hother (hupdate _ _))

/-- When the task runs, it finds a packet of which nothing has been done, or one with the right
checksum while no handler has a message. -/
theorem task_cases (h : s.Inv acts) (hposted : s.startProcessingTaskPosted = true)
    (answers : Icmpv6ReceiverAnswers) :
    ∃ p rest, s.processedPacketQueue = p :: rest ∧ s.checksumRequest = none ∧
      (s.packetReadyBit = true ∧ s.dispatchedPktPtr = none ∧
          s.startProcessingICMPv6MessageTask answers =
            { s with startProcessingTaskPosted := false }.dispatchFirst p rest
              answers.startReceivingMessage ∨
        s.packetReadyBit = false ∧
          s.startProcessingICMPv6MessageTask answers =
            { s with startProcessingTaskPosted := false }.readFirst p answers) := by
  have hrequest : s.checksumRequest = none := by
    by_contra hne
    have hclear := (h.scheduled.checksumming hne).2.2
    rw [hposted] at hclear
    cases hclear
  by_cases hready : s.packetReadyBit = true
  · obtain ⟨hne, hidle⟩ := h.scheduled.ready hready
    obtain ⟨p, rest, hqueue⟩ := List.exists_cons_of_ne_nil hne
    refine ⟨p, rest, hqueue, hrequest, Or.inl ⟨hready, ?_, ?_⟩⟩
    · rw [← Option.isNone_iff_eq_none, ← hidle]
      exact hposted
    · simp only [Icmpv6MessageDispatcher.startProcessingICMPv6MessageTask, hqueue]
      exact if_pos hready
  · have hclear := Bool.eq_false_iff.mpr hready
    have hwaiting := h.scheduled.waiting hrequest hclear
    have hne : s.processedPacketQueue ≠ [] := by
      intro hnil
      rw [hposted, hnil] at hwaiting
      cases hwaiting
    obtain ⟨p, rest, hqueue⟩ := List.exists_cons_of_ne_nil hne
    refine ⟨p, rest, hqueue, hrequest, Or.inr ⟨hclear, ?_⟩⟩
    simp only [Icmpv6MessageDispatcher.startProcessingICMPv6MessageTask, hqueue]
    exact if_neg hready

theorem startProcessingICMPv6MessageTask (h : s.Inv acts)
    (hposted : s.startProcessingTaskPosted = true) (answers : Icmpv6ReceiverAnswers) :
    let r := s.startProcessingICMPv6MessageTask answers
    r.1.Inv (acts ++ r.2) := by
  intro r
  obtain ⟨p, rest, hqueue, hrequest, ⟨hready, hidle, hr⟩ | ⟨hready, hr⟩⟩ :=
    h.task_cases hposted answers
  · have hr' : r = _ := hr
    rw [hr']
    exact h.dispatchFirst hrequest hidle hready hqueue _
  · have hr' : r = _ := hr
    rw [hr']
    exact h.readFirst hrequest hready hqueue answers

/-! ## The checksum -/

/-- What is known of the bytes of a message whose checksum comes out as zero. -/
theorem internetChecksum_of_finalize {arrivedPacket : Icmpv6InPacket}
    {comp : Ipv6ChecksumComputation}
    (hwithin : IovIterWithin (iovLens arrivedPacket.payload) arrivedPacket.payloadIter)
    (hcovers : comp.Covers (arrivedPacket.pseudoHeaderBytes arrivedPacket.msgLength.toUInt32))
    (hsum : ipv6ChecksumComputationFinalize
      (ipv6ChecksumComputationProvideWithIovAndAdvanceIovIterator comp arrivedPacket.payload
        arrivedPacket.payloadIter arrivedPacket.msgLength.toNat).2.2 = 0) :
    internetChecksum (arrivedPacket.pseudoHeaderBytes arrivedPacket.msgLength.toUInt32 ++
      arrivedPacket.messageBytes arrivedPacket.msgLength.toNat) = 0 := by
  obtain ⟨-, -, -, hprovide⟩ :=
    provideWithIov_spec comp hwithin arrivedPacket.msgLength.toNat
  have hall := hprovide _ hcovers
  have hpseudo := (length_ipv6PseudoHeaderBytes (length_getSrcAddr arrivedPacket.packet.header)
    (length_getDstAddr arrivedPacket.packet.header) arrivedPacket.msgLength.toUInt32
    WHIP6_IANA_IPV6_ICMP).1
  have hmessage : (arrivedPacket.messageBytes arrivedPacket.msgLength.toNat).length ≤ 65535 := by
    have hlt := arrivedPacket.msgLength.toNat_lt
    rw [Icmpv6InPacket.messageBytes, List.length_take]
    omega
  have hlength : (arrivedPacket.pseudoHeaderBytes arrivedPacket.msgLength.toUInt32 ++
      arrivedPacket.messageBytes arrivedPacket.msgLength.toNat).length ≤ 131072 := by
    rw [List.length_append]
    exact (Nat.add_le_add hpseudo hmessage).trans (by decide)
  have hfinal := hall.finalize hlength
  rw [hsum] at hfinal
  exact hfinal.symm

theorem finishChecksumming (h : s.Inv acts) (hopen : ledger checksummingEntry [] acts ≠ some []) :
    s.finishChecksumming.1.Inv (acts ++ s.finishChecksumming.2) := by
  have hchecks := h.checksumming
  cases hrequest : s.checksumRequest with
  | none =>
    rw [hrequest] at hchecks
    exact absurd hchecks hopen
  | some numBytes =>
    obtain ⟨hne, hready, hposted⟩ := h.scheduled.checksumming (by rw [hrequest]; exact nofun)
    obtain ⟨p, rest, hqueue⟩ := List.exists_cons_of_ne_nil hne
    rw [hrequest, hqueue] at hchecks
    obtain ⟨l, hl, hperm⟩ : ∃ l, ledger checksummingEntry [] (acts ++ [.checksummed p]) = some l ∧
        l.Perm ([] ++ []) := ledger_concat_of_closes hchecks rfl (List.Perm.refl _)
    rw [List.perm_nil.mp hperm] at hl
    obtain ⟨arrivedPacket, hknown, hwithin, hprogress⟩ := h.exists_arrived hqueue
    obtain ⟨hread, rfl, hiter, hcovers⟩ := (progress_checksumming hrequest).mp hprogress
    have hbooks : ∀ (iter : IovBlistIter) (comp : Ipv6ChecksumComputation),
        { s with
          msgChecksumComp := comp
          msgChecksumIter := iter
          checksumRequest := none }.Books (acts ++ [Icmpv6ReceiverAct.checksummed p]) := by
      intro iter comp
      apply Books.concat _ (Or.inr rfl)
      exact h.toBooks.congr rfl rfl fun _ _ => rfl
    rw [Icmpv6MessageDispatcher.finishChecksumming, hrequest, hqueue]
    dsimp only
    split_ifs with hsum
    · rw [← hqueue, List.append_cons]
      exact (hbooks _ _).finishProcessingFirstQueuedICMPv6Message hqueue rfl hready hposted hl
    · rw [← hqueue]
      constructor
      · exact (hbooks s.msgChecksumIter s.msgChecksumComp).congr rfl rfl fun _ _ => rfl
      · exact hl
      · constructor
        · intro hnone
          exact absurd rfl hnone
        · intro _
          refine ⟨hne, ?_⟩
          rw [hposted]
          exact Bool.false_or _
        · intro _ hclear
          cases hclear
      · intro q hq inPacket hq'
        obtain rfl : p = q := by
          change q ∈ s.processedPacketQueue.head? at hq
          rw [hqueue] at hq
          exact Option.mem_some.mp hq
        have hstill : arrived p (acts ++ [.checksummed p]) = some arrivedPacket :=
          (@arrived_concat acts (.checksummed p) p rfl).trans hknown
        obtain rfl : arrivedPacket = inPacket := Option.some.inj (hstill.symm.trans hq')
        apply (progress_ready rfl rfl).mpr
        refine ⟨hread, ?_⟩
        have hpayload : (s.inPacket p).payload = arrivedPacket.payload :=
          congrArg Ipv6Packet.firstPayloadIov hread.packet
        rw [not_not, hiter, hpayload] at hsum
        exact internetChecksum_of_finalize hwithin hcovers hsum

/-! ## The handlers -/

theorem finishReceivingMessage (h : s.Inv acts) (hopen : ledger handlingEntry [] acts ≠ some [])
    (inPacket : Icmpv6InPacket) (status : ErrorT) :
    let r := s.finishReceivingMessage inPacket status
    r.1.Inv (acts ++ r.2) := by
  intro r
  cases hdispatched : s.dispatchedPktPtr with
  | none =>
    have hhandling := h.handling
    rw [hdispatched] at hhandling
    exact absurd hhandling hopen
  | some p =>
    have hr : r = s.finishReceivingMessage inPacket status := rfl
    rw [Icmpv6MessageDispatcher.finishReceivingMessage, hdispatched] at hr
    have hnodup := h.nodup
    rw [hdispatched] at hnodup
    obtain ⟨hfirst, hqueue⟩ := List.nodup_cons.mp hnodup
    have hne : ∀ q ∈ s.processedPacketQueue, p ≠ q := by
      rintro q hq rfl
      exact hfirst hq
    have hsame : ∀ q, p ≠ q → arrived q (acts ++ r.2) = arrived q acts ∧
        r.1.inPacket q = s.inPacket q := by
      intro q hq
      rw [hr]
      refine ⟨arrived_append_other ?_, ?_⟩
      · intro act hact
        simp only [finishProcessingIPv6Packet, List.mem_cons, List.not_mem_nil, or_false] at hact
        rcases hact with rfl | rfl
        · exact hq
        · exact hq
      · exact (Function.update_of_ne (Ne.symm hq) _ _).trans (Function.update_of_ne (Ne.symm hq) _ _)
    have hacts : r.2 = [handlerFinished p status, finished p status] := by
      rw [hr]
      rfl
    have hstate : r.1.processedPacketQueue = s.processedPacketQueue ∧ r.1.dispatchedPktPtr = none ∧
        r.1.checksumRequest = s.checksumRequest ∧ r.1.packetReadyBit = s.packetReadyBit ∧
        r.1.startProcessingTaskPosted = (s.startProcessingTaskPosted || s.packetReadyBit) := by
      rw [hr]
      exact ⟨rfl, rfl, rfl, rfl, rfl⟩
    obtain ⟨hsqueue, hsdispatched, hsrequest, hsready, hsposted⟩ := hstate
    constructor
    · constructor
      · obtain ⟨l, hl, hperm⟩ := h.processing
        rw [hdispatched] at hperm
        rw [hsqueue, hsdispatched, hacts, List.append_cons]
        exact ledger_concat_of_closes
          (ledger_append_of_other hl (List.forall_mem_singleton.mpr rfl)) rfl hperm
      · rw [hsqueue, hsdispatched]
        exact hqueue
      · have hhandling := h.handling
        rw [hdispatched] at hhandling
        obtain ⟨l, hl, hperm⟩ : ∃ l, ledger handlingEntry [] (acts ++ [handlerFinished p status]) =
            some l ∧ l.Perm ([] ++ []) := ledger_concat_of_closes hhandling rfl (List.Perm.refl _)
        rw [hsdispatched, hacts, List.append_cons]
        rw [List.perm_nil.mp hperm] at hl
        exact ledger_append_of_other hl (List.forall_mem_singleton.mpr rfl)
      · rw [hsqueue, hacts, filterMap_append_of_none (f := accepted) (by simp [accepted]),
          filterMap_append_of_none (f := taken) (by simp [taken])]
        exact h.order
      · intro q hq
        rw [hsqueue, hsdispatched] at hq
        rw [(hsame q (hne q hq)).1]
        exact h.known q (List.mem_append_right _ hq)
      · intro q hq
        rw [hsqueue] at hq
        have hneq := hne q (List.mem_of_mem_tail hq)
        rw [(hsame q hneq).1, (hsame q hneq).2]
        exact h.waiting q hq
      · rw [hacts]
        exact h.justified.append_of_forall (by simp [DispatchJustified])
    · rw [hsqueue, hsrequest, hacts]
      exact ledger_append_of_other h.checksumming (by simp [checksummingEntry])
    · constructor
      · rw [hsqueue, hsrequest, hsready, hsposted]
        intro hrequest
        obtain ⟨hne', hready, hposted⟩ := h.scheduled.checksumming hrequest
        exact ⟨hne', hready, by rw [hposted, hready]; rfl⟩
      · rw [hsqueue, hsready, hsposted, hsdispatched]
        intro hready
        refine ⟨(h.scheduled.ready hready).1, ?_⟩
        rw [hready, Bool.or_true]
        rfl
      · rw [hsqueue, hsrequest, hsready, hsposted]
        intro hrequest hready
        rw [hready, Bool.or_false]
        exact h.scheduled.waiting hrequest hready
    · rw [hsqueue]
      intro q hq arrivedPacket hknown
      have hneq := hne q (List.mem_of_mem_head? hq)
      rw [(hsame q hneq).1] at hknown
      have hprogress := h.first q hq arrivedPacket hknown
      rw [← (hsame q hneq).2] at hprogress
      rw [hr] at hprogress ⊢
      exact hprogress

theorem step (h : s.Inv acts) {event : Icmpv6ReceiverEvent} (hallowed : Allowed ⟨s, acts⟩ event)
    (queueSize : ℕ) :
    let r := s.step queueSize event
    r.1.Inv (acts ++ r.2) := by
  cases event with
  | startReceivingIPv6Packet p inPacket =>
    exact h.startReceivingIPv6Packet hallowed.1 hallowed.2 queueSize
  | startProcessingICMPv6MessageTask answers =>
    exact h.startProcessingICMPv6MessageTask hallowed answers
  | finishChecksumming => exact h.finishChecksumming hallowed
  | finishReceivingMessage inPacket status => exact h.finishReceivingMessage hallowed inPacket status

end Inv

/-! ## How long it takes -/

/-- How many of its steps the first packet has taken. -/
def stepsTaken (s : Icmpv6MessageDispatcher) : ℕ :=
  if s.checksumRequest.isSome then 1 else if s.packetReadyBit then 2 else 0

/-- After some completions: every packet that left the queue took at most four of them, and a packet
that is with a handler is to take one more. -/
def Spent (s : Icmpv6MessageDispatcher) (acts : List Icmpv6ReceiverAct) (completions : ℕ) : Prop :=
  completions + s.dispatchedPktPtr.toList.length ≤
    4 * (acts.filterMap taken).length + s.stepsTaken

theorem stepsTaken_le (s : Icmpv6MessageDispatcher) : s.stepsTaken ≤ 2 := by
  unfold stepsTaken
  split_ifs
  · decide
  · decide
  · decide

theorem stepsTaken_idle (hrequest : s.checksumRequest = none) (hready : s.packetReadyBit = false) :
    s.stepsTaken = 0 := by
  rw [stepsTaken, hrequest, hready]
  rfl

namespace Spent

variable {s' : Icmpv6MessageDispatcher} {new : List Icmpv6ReceiverAct} {completions : ℕ}

/-- A packet leaves the queue. -/
theorem take (h : s.Spent acts completions) (htaken : (new.filterMap taken).length = 1)
    (hdispatched : s'.dispatchedPktPtr.toList.length ≤ s.dispatchedPktPtr.toList.length + 1) :
    s'.Spent (acts ++ new) (completions + 1) := by
  have hle := s.stepsTaken_le
  unfold Spent at h ⊢
  rw [List.filterMap_append, List.length_append, htaken]
  omega

/-- The first packet takes a step, or one is finished by its handler. -/
theorem advance (h : s.Spent acts completions) (htaken : new.filterMap taken = [])
    (hsteps : s'.dispatchedPktPtr.toList.length + s.stepsTaken + 1 ≤
      s.dispatchedPktPtr.toList.length + s'.stepsTaken) :
    s'.Spent (acts ++ new) (completions + 1) := by
  unfold Spent at h ⊢
  rw [List.filterMap_append, htaken, List.append_nil]
  omega

theorem drop {p : ℕ} {rest : List ℕ} {status : ErrorT} (h : s.Spent acts completions)
    (hqueue : s'.processedPacketQueue = p :: rest)
    (hdispatched : s'.dispatchedPktPtr = s.dispatchedPktPtr) :
    let r := s'.finishProcessingFirstQueuedICMPv6Message status
    r.1.Spent (acts ++ r.2) (completions + 1) := by
  intro r
  have hr : r = s'.finishProcessingFirstQueuedICMPv6Message status := rfl
  rw [finishProcessingFirstQueuedICMPv6Message, hqueue] at hr
  rw [hr]
  apply h.take
  · rfl
  · change s'.dispatchedPktPtr.toList.length ≤ _
    rw [hdispatched]
    exact Nat.le_succ _

theorem readFirst {p : ℕ} {rest : List ℕ} (h : s.Spent acts completions)
    (hrequest : s.checksumRequest = none) (hready : s.packetReadyBit = false)
    (hqueue : s.processedPacketQueue = p :: rest) (answers : Icmpv6ReceiverAnswers) :
    let r := { s with startProcessingTaskPosted := false }.readFirst p answers
    r.1.Spent (acts ++ r.2) (completions + 1) := by
  intro r
  have hr : r = { s with startProcessingTaskPosted := false }.readFirst p answers := rfl
  rw [Icmpv6MessageDispatcher.readFirst] at hr
  dsimp only at hr
  rw [hr]
  split_ifs
  · exact h.drop hqueue rfl
  · exact h.drop hqueue rfl
  · exact h.drop hqueue rfl
  · apply h.advance rfl
    rw [stepsTaken_idle hrequest hready]
    exact Nat.le_refl _

theorem finishChecksumming (h : s.Spent acts completions) (hscheduled : s.Scheduled)
    (hrequest : s.checksumRequest ≠ none) :
    s.finishChecksumming.1.Spent (acts ++ s.finishChecksumming.2) (completions + 1) := by
  obtain ⟨numBytes, hnumBytes⟩ := Option.ne_none_iff_exists'.mp hrequest
  obtain ⟨hne, -, -⟩ := hscheduled.checksumming hrequest
  obtain ⟨p, rest, hqueue⟩ := List.exists_cons_of_ne_nil hne
  rw [Icmpv6MessageDispatcher.finishChecksumming, hnumBytes, hqueue]
  dsimp only
  split_ifs
  · apply h.take
    · rfl
    · exact Nat.le_succ _
  · have hsteps : s.stepsTaken = 1 := by
      rw [stepsTaken, hnumBytes]
      rfl
    apply h.advance rfl
    rw [hsteps]
    exact Nat.le_refl _

theorem dispatchFirst {p : ℕ} (h : s.Spent acts completions) (hidle : s.dispatchedPktPtr = none)
    (rest : List ℕ) (answer : ErrorT) :
    let r := { s with startProcessingTaskPosted := false }.dispatchFirst p rest answer
    r.1.Spent (acts ++ r.2) (completions + 1) := by
  intro r
  have hr : r = { s with startProcessingTaskPosted := false }.dispatchFirst p rest answer := rfl
  rw [Icmpv6MessageDispatcher.dispatchFirst] at hr
  dsimp only at hr
  rw [hr]
  split_ifs
  · apply h.take
    · rfl
    · rw [hidle]
      exact Nat.le_refl _
  · apply h.take
    · rfl
    · exact Nat.le_succ _

theorem step (h : s.Spent acts completions) (hinv : s.Inv acts) {event : Icmpv6ReceiverEvent}
    (hallowed : Allowed ⟨s, acts⟩ event) (queueSize : ℕ) :
    let r := s.step queueSize event
    r.1.Spent (acts ++ r.2) (completions + if isCompletion event then 1 else 0) := by
  cases event with
  | startReceivingIPv6Packet p inPacket =>
    intro r
    by_cases hfull : s.processedPacketQueue.length = queueSize
    · have hr : r = _ := if_pos hfull
      rw [hr, Spent, filterMap_append_of_none (List.forall_mem_singleton.mpr rfl)]
      exact h
    · have hr : r = _ := if_neg hfull
      rw [hr, Spent, filterMap_append_of_none (List.forall_mem_singleton.mpr rfl)]
      exact h
  | startProcessingICMPv6MessageTask answers =>
    intro r
    obtain ⟨p, rest, hqueue, hrequest, ⟨-, hidle, hr⟩ | ⟨hready, hr⟩⟩ :=
      hinv.task_cases hallowed answers
    · have hr' : r = _ := hr
      rw [hr']
      exact h.dispatchFirst hidle rest _
    · have hr' : r = _ := hr
      rw [hr']
      exact h.readFirst hrequest hready hqueue answers
  | finishChecksumming =>
    apply h.finishChecksumming hinv.scheduled
    intro hnone
    have hchecks := hinv.checksumming
    rw [hnone] at hchecks
    exact hallowed hchecks
  | finishReceivingMessage inPacket status =>
    cases hdispatched : s.dispatchedPktPtr with
    | none =>
      have hhandling := hinv.handling
      rw [hdispatched] at hhandling
      exact absurd hhandling hallowed
    | some p =>
      intro r
      have hr : r = s.finishReceivingMessage inPacket status := rfl
      rw [finishReceivingMessage, hdispatched] at hr
      rw [hr]
      apply h.advance rfl
      rw [hdispatched]
      change 0 + s.stepsTaken + 1 ≤ 1 + s.stepsTaken
      omega

end Spent

/-! ## Runs -/

/-- The dispatcher with its history, before any packet has come in. -/
def start (inPacket : ℕ → Icmpv6InPacket) : Watched Icmpv6MessageDispatcher Icmpv6ReceiverAct :=
  ⟨initial inPacket, []⟩

end Icmpv6MessageDispatcher

open Icmpv6MessageDispatcher Icmpv6ReceiverAct

deriving instance DecidableEq for Ipv6BasicHeader

deriving instance DecidableEq for Ipv6Packet

deriving instance DecidableEq for Icmpv6InPacket

deriving instance DecidableEq for Icmpv6IncomingMessage

deriving instance DecidableEq for Icmpv6ReceiverAct

end Whip6
