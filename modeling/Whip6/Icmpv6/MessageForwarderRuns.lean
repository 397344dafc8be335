import Whip6.Icmpv6.MessageForwarder
import Whip6.Lib.History
import Whip6.Lib.Ledger
import Whip6.Lib.Runs

/-!
# Runs of the forwarder of outgoing ICMPv6 messages

Clients send and take back messages in any order, and the layers below answer and finish as they
like.  Every message is finished once unless it was taken back, messages go down in the order in
which they were accepted, one at a time, and a client gets its vectors back as it gave them, as long
as its messages fit into a packet.  A client that has taken a message back cannot send again: its slot
is not emptied then.
-/

namespace Whip6

open Lib

/-- The layers below the forwarder. -/
inductive Icmpv6Layer
  | selector
  | computer
  | sender
  deriving DecidableEq

namespace Icmpv6MessageForwarder

/-! ## What the clients and the layers below see -/

/-- The clients with a message that is neither finished nor taken back. -/
def slots : Icmpv6SenderAct → LedgerEntry ℕ
  | .accepted clientId _ => .opens clientId
  | .stopped clientId _ _ => .closes clientId
  | .finished clientId _ _ _ _ => .closes clientId
  | _ => .other

/-- The layers that have the packet. -/
def layers : Icmpv6SenderAct → LedgerEntry Icmpv6Layer
  | .selecting _ => .opens .selector
  | .selected => .closes .selector
  | .checksumming _ _ => .opens .computer
  | .checksummed => .closes .computer
  | .sending _ _ => .opens .sender
  | .sent => .closes .sender
  | _ => .other

def subject : Icmpv6SenderAct → Option ℕ
  | .accepted clientId _ => some clientId
  | .stopped clientId _ _ => some clientId
  | .finished clientId _ _ _ _ => some clientId
  | _ => none

def seeMessage (_ : Option Icmpv6Message) : Icmpv6SenderAct → Option Icmpv6Message
  | .accepted _ message => some message
  | _ => none

/-- The message of a client that is neither finished nor taken back. -/
def messageOf (clientId : ℕ) (acts : List Icmpv6SenderAct) : Option Icmpv6Message :=
  viewOf subject seeMessage none (some clientId) acts

def seeOrder (order : List ℕ) : Icmpv6SenderAct → List ℕ
  | .accepted clientId _ => order ++ [clientId]
  | .stopped clientId _ _ => order.erase clientId
  | .finished clientId _ _ _ _ => order.erase clientId
  | _ => order

/-- The clients with a message, in the order in which the messages were accepted. -/
def order (acts : List Icmpv6SenderAct) : List ℕ := acts.foldl seeOrder []

/-- The chain of a message, as it was handed over. -/
def MessageChain (message : Icmpv6Message) (l : List ℕ) : Prop :=
  ClientChain message.mem (message.mem.iter message.payloadIter) l

/-- The iterator and the chain of a message are as they were. -/
def Returned (message : Icmpv6Message) (mem : IovMemory) : Prop :=
  mem.iter message.payloadIter = message.mem.iter message.payloadIter ∧
    ∀ l, MessageChain message l → SameNodes message.mem mem l

/-- Only the first message goes down, a message that is finished or taken back is the one that the
client handed over, and it leaves its vectors as they were. -/
def MessageOk (pre : List Icmpv6SenderAct) : Icmpv6SenderAct → Prop
  | .stopped clientId payloadIter mem => ∃ message, messageOf clientId pre = some message ∧
      payloadIter = message.payloadIter ∧ Returned message mem
  | .finished clientId payloadIter type _ mem => (order pre).head? = some clientId ∧
      ∃ message, messageOf clientId pre = some message ∧ payloadIter = some message.payloadIter ∧
        type = message.type ∧ Returned message mem
  | .selecting clientId => (order pre).head? = some clientId
  | .checksumming clientId _ => (order pre).head? = some clientId
  | .sending clientId _ => (order pre).head? = some clientId
  | _ => True

/-- What the layers below may change of a packet. -/
def KeepsHeader (s : Icmpv6MessageForwarder) (header : Ipv6BasicHeader) : Prop :=
  ∀ packet, s.packet = some packet →
    ipv6BasicHeaderGetPayloadLength header = ipv6BasicHeaderGetPayloadLength packet.header ∧
      ipv6BasicHeaderGetNextHeader header = ipv6BasicHeaderGetNextHeader packet.header

/-- Clients have chains of their own and leave them alone while their messages are sent, and the
layers below finish what they have. -/
def Allowed (w : Watched Icmpv6MessageForwarder Icmpv6SenderAct) : Icmpv6SenderEvent → Prop
  | .startSendingMessage clientId _ _ payloadIter _ _ _ =>
    (w.state.clientData clientId).payloadIter = none →
      ∃ l, ClientChain w.state.mem (w.state.mem.iter payloadIter) l ∧
        ∀ c message l', messageOf c w.history = some message → MessageChain message l' →
          ∀ n ∈ l, n ∉ l'
  | .stopSendingMessage _ _ _ => True
  | .handleClientTask _ _ _ => w.state.handleClientTaskPosted = true
  | .finishSelectingSourceAddress header _ _ =>
    (∃ l ∈ ledger layers [] w.history, .selector ∈ l) ∧ KeepsHeader w.state header
  | .finishChecksumming _ _ => ∃ l ∈ ledger layers [] w.history, .computer ∈ l
  | .finishSendingIPv6Packet header _ =>
    (∃ l ∈ ledger layers [] w.history, .sender ∈ l) ∧ KeepsHeader w.state header
  | .write mem => mem.node .hdrIov = w.state.mem.node .hdrIov ∧
      mem.node .payloadIov = w.state.mem.node .payloadIov ∧
      ∀ c message, messageOf c w.history = some message →
        mem.iter message.payloadIter = w.state.mem.iter message.payloadIter ∧
          ∀ l, MessageChain message l → SameNodes w.state.mem mem l

/-- The length of a message and its header fits into 16 bits. -/
def Short (_ : Watched Icmpv6MessageForwarder Icmpv6SenderAct) : Icmpv6SenderEvent → Prop
  | .startSendingMessage _ _ _ _ payloadLen _ _ => payloadLen + icmpv6MessageHeaderSize < 65536
  | _ => True

/-- What the forwarder promises. -/
structure Correct (s : Icmpv6MessageForwarder) (acts : List Icmpv6SenderAct) : Prop where
  /-- A client has at most one message, and it is finished, or taken back, once. -/
  once : ∃ l, ledger slots [] acts = some l ∧ l.Nodup ∧ ∀ c, c ∈ l ↔ messageOf c acts ≠ none
  /-- As long as there is a message, the task is to run or a layer below is at work. -/
  served : order acts ≠ [] → s.handleClientTaskPosted = true ∨
    ∃ l ∈ ledger layers [] acts, l ≠ []
  /-- One message is below at a time. -/
  oneBelow : ∃ l, ledger layers [] acts = some l ∧ l.length ≤ 1
  messages : Justified MessageOk acts

/-- Where the first message is: the queue, the packet, the task and the layers below. -/
inductive Stage : List ℕ → Option Icmpv6OutPacket → Bool → List Icmpv6Layer → Prop
  | idle : Stage [] none false []
  | start (clientId : ℕ) (rest : List ℕ) : Stage (clientId :: rest) none true []
  | below (clientId : ℕ) (rest : List ℕ) (packet : Icmpv6OutPacket) (layer : Icmpv6Layer) :
    Stage (clientId :: rest) (some packet) false [layer]
  | finish (clientId : ℕ) (rest : List ℕ) (packet : Icmpv6OutPacket) :
    Stage (clientId :: rest) (some packet) true []

/-- The message of a client in the queue. -/
structure Held (s : Icmpv6MessageForwarder) (acts : List Icmpv6SenderAct) (c : ℕ)
    (message : Icmpv6Message) (l : List ℕ) : Prop where
  isMessage : messageOf c acts = some message
  payloadIter : (s.clientData c).payloadIter = some message.payloadIter
  type : (s.clientData c).type = message.type
  short : (s.clientData c).payloadLen + icmpv6MessageHeaderSize < 65536
  chain : MessageChain message l
  iter : s.mem.iter message.payloadIter = message.mem.iter message.payloadIter
  nodes : s.packet = none ∨ s.activeClientQueue.head? ≠ some c → SameNodes message.mem s.mem l
  borrowed : ∀ packet, s.packet = some packet → s.activeClientQueue.head? = some c →
    Borrowed message.mem s.mem (message.mem.iter message.payloadIter)
      (s.clientData c).payloadLen l packet

/-- The invariant, but for the stage of the first message. -/
structure Holds (s : Icmpv6MessageForwarder) (acts : List Icmpv6SenderAct) : Prop where
  held : ∀ c ∈ s.activeClientQueue, ∃ message l, Held s acts c message l
  absent : ∀ c, c ∉ s.activeClientQueue → messageOf c acts = none
  disjoint : ∀ c c' message message' l l', c ≠ c' → messageOf c acts = some message →
    messageOf c' acts = some message' → MessageChain message l → MessageChain message' l' →
      ∀ n ∈ l, n ∉ l'
  slots : ∃ l, ledger slots [] acts = some l ∧ l.Perm s.activeClientQueue
  nodup : s.activeClientQueue.Nodup
  order : order acts = s.activeClientQueue
  messages : Justified MessageOk acts

structure Inv (s : Icmpv6MessageForwarder) (acts : List Icmpv6SenderAct) : Prop where
  holds : Holds s acts
  stage : ∃ below, ledger layers [] acts = some below ∧
    Stage s.activeClientQueue s.packet s.handleClientTaskPosted below

section Views

variable {acts : List Icmpv6SenderAct} {c : ℕ}

/-- Acts that say nothing of the messages of the clients. -/
def IsQuiet : Icmpv6SenderAct → Prop
  | .accepted _ _ => False
  | .stopped _ _ _ => False
  | .finished _ _ _ _ _ => False
  | _ => True

theorem messageOf_quiet {acts' : List Icmpv6SenderAct} (h : ∀ act ∈ acts', IsQuiet act) :
    messageOf c (acts ++ acts') = messageOf c acts := by
  apply viewOf_append_other
  intro act hact
  have hquiet := h act hact
  cases act <;> first | exact hquiet.elim | exact (Option.some_ne_none c).symm

theorem order_concat (act : Icmpv6SenderAct) : order (acts ++ [act]) = seeOrder (order acts) act := by
  rw [order, List.foldl_append]
  rfl

theorem order_quiet {acts' : List Icmpv6SenderAct} (h : ∀ act ∈ acts', IsQuiet act) :
    order (acts ++ acts') = order acts := by
  rw [order, List.foldl_append]
  change acts'.foldl seeOrder (order acts) = order acts
  generalize order acts = v
  induction acts' with
  | nil => rfl
  | cons act acts' ih =>
    have hquiet := h act List.mem_cons_self
    have hsee : seeOrder v act = v := by cases act <;> first | exact hquiet.elim | rfl
    rw [List.foldl_cons, hsee]
    exact ih fun act hact => h act (List.mem_cons_of_mem _ hact)

theorem slots_quiet {acts' : List Icmpv6SenderAct} (h : ∀ act ∈ acts', IsQuiet act) :
    ledger slots [] (acts ++ acts') = ledger slots [] acts := by
  rw [ledger_append]
  rcases ledger slots [] acts with _ | l
  · rfl
  · apply ledger_of_other
    intro act hact
    have hquiet := h act hact
    cases act <;> first | exact hquiet.elim | rfl

/-- What an act on the message of one client says of the others. -/
theorem messageOf_other {act : Icmpv6SenderAct} {i : ℕ} (h : subject act = some i) (hc : c ≠ i) :
    messageOf c (acts ++ [act]) = messageOf c acts := by
  apply viewOf_append_other
  intro act' hact
  rw [List.mem_singleton.mp hact, h]
  exact fun heq => hc (Option.some.inj heq).symm

theorem messageOf_self {act : Icmpv6SenderAct} (h : subject act = some c) :
    messageOf c (acts ++ [act]) = seeMessage (messageOf c acts) act :=
  viewOf_concat h

end Views

section Stages

variable {queue : List ℕ} {packet : Option Icmpv6OutPacket} {posted : Bool}
  {below : List Icmpv6Layer}

theorem Stage.enqueueLast (h : Stage queue packet posted below) (c : ℕ) :
    Stage (queue ++ [c]) packet (posted || queue.isEmpty) below := by
  cases h with
  | idle => exact .start c []
  | start first rest => exact .start first (rest ++ [c])
  | below first rest packet layer => exact .below first (rest ++ [c]) packet layer
  | finish first rest packet => exact .finish first (rest ++ [c]) packet

/-- The stage of the first message does not depend on the others. -/
theorem Stage.rest {first : ℕ} {rest : List ℕ} (h : Stage (first :: rest) packet posted below)
    (rest' : List ℕ) : Stage (first :: rest') packet posted below := by
  cases h with
  | start => exact .start first rest'
  | below _ _ packet layer => exact .below first rest' packet layer
  | finish _ _ packet => exact .finish first rest' packet

/-- Where there is a packet, there is a message. -/
theorem Stage.queue_of_packet {p : Icmpv6OutPacket} (h : Stage queue packet posted below)
    (hpacket : packet = some p) : ∃ first rest, queue = first :: rest := by
  cases h with
  | idle => cases hpacket
  | start first rest => cases hpacket
  | below first rest packet layer => exact ⟨first, rest, rfl⟩
  | finish first rest packet => exact ⟨first, rest, rfl⟩

/-- The task runs: a message is to go down, or to leave. -/
theorem Stage.of_posted (h : Stage queue packet posted below) (hposted : posted = true) :
    below = [] ∧ ∃ first rest, queue = first :: rest := by
  cases h with
  | idle => cases hposted
  | start first rest => exact ⟨rfl, first, rest, rfl⟩
  | below first rest packet layer => cases hposted
  | finish first rest packet => exact ⟨rfl, first, rest, rfl⟩

/-- A layer below has the packet of the first message. -/
theorem Stage.of_below {layer : Icmpv6Layer} (h : Stage queue packet posted below)
    (hlayer : layer ∈ below) : below = [layer] ∧ posted = false ∧
      ∃ first rest p, queue = first :: rest ∧ packet = some p := by
  cases h with
  | idle => cases hlayer
  | start first rest => cases hlayer
  | below first rest packet other =>
    rw [List.mem_singleton.mp hlayer]
    exact ⟨rfl, rfl, first, rest, packet, rfl, rfl⟩
  | finish first rest packet => cases hlayer

theorem Stage.length_le (h : Stage queue packet posted below) : below.length ≤ 1 := by
  cases h with
  | idle => exact Nat.zero_le 1
  | start first rest => exact Nat.zero_le 1
  | below first rest packet layer => exact Nat.le_refl 1
  | finish first rest packet => exact Nat.zero_le 1

/-- Where there is a message, it goes on. -/
theorem Stage.served (h : Stage queue packet posted below) (hqueue : queue ≠ []) :
    posted = true ∨ below ≠ [] := by
  cases h with
  | idle => exact absurd rfl hqueue
  | start first rest => exact Or.inl rfl
  | below first rest packet layer => exact Or.inr (List.cons_ne_nil _ _)
  | finish first rest packet => exact Or.inl rfl

end Stages

section Steps

variable {s s' : Icmpv6MessageForwarder} {acts acts' : List Icmpv6SenderAct} {c : ℕ}
  {message : Icmpv6Message} {l : List ℕ} {below : List Icmpv6Layer}

theorem clientData_setClient_self (client : Icmpv6ClientState) :
    (s.setClient c client).clientData c = client := by
  rw [setClient]
  exact Function.update_self ..

theorem clientData_setClient_of_ne {c' : ℕ} (h : c' ≠ c) (client : Icmpv6ClientState) :
    (s.setClient c client).clientData c' = s.clientData c' := by
  rw [setClient]
  exact Function.update_of_ne h ..

/-- The chain of a message is determined by it. -/
theorem messageChain_unique {l' : List ℕ} (h : MessageChain message l) (h' : MessageChain message l') :
    l = l' := by
  have hmap := Seg.unique h.seg h'.seg
  exact List.map_injective_iff.mpr (fun _ _ => IovPtr.client.inj) hmap

/-- Where nothing is lent, a message has its vectors as they were. -/
theorem Held.returned (h : Held s acts c message l)
    (hnodes : s.packet = none ∨ s.activeClientQueue.head? ≠ some c) : Returned message s.mem := by
  refine ⟨h.iter, fun l' hl' => ?_⟩
  rw [← messageChain_unique h.chain hl']
  exact h.nodes hnodes

/-- A step that leaves the messages, the queue and the memory of the clients alone, but may put the
first message into a packet or take it out. -/
theorem Holds.quiet (h : Holds s acts) (hacts : ∀ act ∈ acts', IsQuiet act)
    (hqueue : s'.activeClientQueue = s.activeClientQueue)
    (hclient : ∀ c, (s'.clientData c).payloadIter = (s.clientData c).payloadIter ∧
      (s'.clientData c).type = (s.clientData c).type ∧
      (s'.clientData c).payloadLen = (s.clientData c).payloadLen)
    (hiter : s'.mem.iter = s.mem.iter)
    (hnodes : ∀ c message l, Held s acts c message l →
      (s'.packet = none ∨ s.activeClientQueue.head? ≠ some c → SameNodes message.mem s'.mem l) ∧
      ∀ packet, s'.packet = some packet → s.activeClientQueue.head? = some c →
        Borrowed message.mem s'.mem (message.mem.iter message.payloadIter)
          (s.clientData c).payloadLen l packet)
    (hok : Justified MessageOk (acts ++ acts')) : Holds s' (acts ++ acts') where
  held c hc := by
    rw [hqueue] at hc
    obtain ⟨message, l, hheld⟩ := h.held c hc
    obtain ⟨hiterOf, htype, hlen⟩ := hclient c
    obtain ⟨hsame, hborrowed⟩ := hnodes c message l hheld
    refine ⟨message, l, ?_, hiterOf.trans hheld.payloadIter, htype.trans hheld.type, ?_,
      hheld.chain, ?_, ?_, ?_⟩
    · rw [messageOf_quiet hacts]
      exact hheld.isMessage
    · rw [hlen]
      exact hheld.short
    · rw [hiter]
      exact hheld.iter
    · rw [hqueue]
      exact hsame
    · rw [hqueue, hlen]
      exact hborrowed
  absent c hc := by
    rw [messageOf_quiet hacts]
    exact h.absent c (hqueue ▸ hc)
  disjoint c c' message message' l l' hc hm hm' := by
    rw [messageOf_quiet hacts] at hm hm'
    exact h.disjoint c c' message message' l l' hc hm hm'
  slots := by
    rw [slots_quiet hacts, hqueue]
    exact h.slots
  nodup := hqueue ▸ h.nodup
  order := by
    rw [order_quiet hacts, hqueue]
    exact h.order
  messages := hok

/-- The chain of another client is not touched where the chain of a client is. -/
theorem Holds.others (h : Holds s acts) {c' : ℕ} {message' : Icmpv6Message} {l' : List ℕ}
    (hheld : Held s acts c message l) (hheld' : Held s acts c' message' l') (hc : c ≠ c')
    {mem : IovMemory} (hout : ∀ n, n ∉ l → mem.node (.client n) = s.mem.node (.client n))
    (hsame : SameNodes message'.mem s.mem l') : SameNodes message'.mem mem l' := by
  intro n hn
  have hnot := h.disjoint c' c message' message l' l (Ne.symm hc) hheld'.isMessage hheld.isMessage
    hheld'.chain hheld.chain n hn
  rw [hout n hnot]
  exact hsame n hn

/-- The first message is taken out of its packet. -/
theorem Holds.finishProcessingPacket {rest : List ℕ} {packet : Icmpv6OutPacket}
    (h : Holds s acts) (hqueue : s.activeClientQueue = c :: rest)
    (hpacket : s.packet = some packet) :
    Holds (s.finishProcessingPacket (s.clientData c)) acts ∧
      (s.finishProcessingPacket (s.clientData c)).packet = none ∧
      (s.finishProcessingPacket (s.clientData c)).activeClientQueue = s.activeClientQueue ∧
      (s.finishProcessingPacket (s.clientData c)).handleClientTaskPosted =
        s.handleClientTaskPosted ∧
      (s.finishProcessingPacket (s.clientData c)).clientData = s.clientData := by
  obtain ⟨message, l, hheld⟩ := h.held c (by rw [hqueue]; exact List.mem_cons_self)
  have hfirst : s.activeClientQueue.head? = some c := by rw [hqueue]; rfl
  have hchain : ClientChain message.mem (message.mem.iter message.payloadIter) l := hheld.chain
  obtain ⟨-, hiter, hsame, hout⟩ :=
    (hheld.borrowed packet hpacket hfirst).unwrap hchain hheld.iter hheld.short
  rw [Icmpv6MessageForwarder.finishProcessingPacket, hheld.payloadIter, hpacket]
  dsimp only
  refine ⟨?_, rfl, rfl, rfl, rfl⟩
  have hnil : acts = acts ++ [] := (List.append_nil acts).symm
  rw [hnil]
  refine h.quiet (fun _ hact => by cases hact) rfl (fun _ => ⟨rfl, rfl, rfl⟩) hiter
    (fun c' message' l' hheld' => ⟨fun _ => ?_, fun p hp => ?_⟩) (hnil ▸ h.messages)
  · by_cases hc : c = c'
    · subst hc
      obtain rfl := Option.some.inj (hheld.isMessage.symm.trans hheld'.isMessage)
      rw [← messageChain_unique hheld.chain hheld'.chain]
      exact hsame
    · refine h.others hheld hheld' hc hout (hheld'.nodes (Or.inr ?_))
      rw [hfirst]
      exact fun heq => hc (Option.some.inj heq)
  · cases hp

/-- The first message leaves. -/
theorem Inv.finishFirst {rest : List ℕ} {status : ErrorT} (h : Holds s acts)
    (hpacket : s.packet = none) (hposted : s.handleClientTaskPosted = false)
    (hqueue : s.activeClientQueue = c :: rest) (hlayers : ledger layers [] acts = some []) :
    Inv (s.finishHandlingFirstClient status).1
      (acts ++ (s.finishHandlingFirstClient status).2) := by
  obtain ⟨message, l, hheld⟩ := h.held c (by rw [hqueue]; exact List.mem_cons_self)
  have hnodup := h.nodup
  rw [hqueue, List.nodup_cons] at hnodup
  rw [finishHandlingFirstClient, hqueue]
  dsimp only
  rw [hheld.payloadIter, hheld.type]
  have hself : messageOf c (acts ++ [.finished c (some message.payloadIter) message.type status
      s.mem]) = none := messageOf_self rfl
  have hother : ∀ c', c' ≠ c → messageOf c' (acts ++ [.finished c (some message.payloadIter)
      message.type status s.mem]) = messageOf c' acts := fun c' hc' => messageOf_other rfl hc'
  refine ⟨⟨fun c' hc' => ?_, fun c' hc' => ?_, fun c₁ c₂ m₁ m₂ l₁ l₂ hc hm₁ hm₂ => ?_, ?_,
    hnodup.2, ?_, h.messages.concat ⟨?_, message, hheld.isMessage, rfl, rfl, ?_⟩⟩, [], ?_, ?_⟩
  · have hne : c' ≠ c := fun heq => hnodup.1 (heq ▸ hc')
    obtain ⟨message', l', hheld'⟩ := h.held c' (by rw [hqueue]; exact List.mem_cons_of_mem _ hc')
    refine ⟨message', l', (hother c' hne).trans hheld'.isMessage, ?_, ?_, ?_, hheld'.chain,
      hheld'.iter, fun _ => hheld'.nodes (Or.inl hpacket), fun p hp => ?_⟩
    · dsimp only
      rw [clientData_setClient_of_ne hne]
      exact hheld'.payloadIter
    · dsimp only
      rw [clientData_setClient_of_ne hne]
      exact hheld'.type
    · dsimp only
      rw [clientData_setClient_of_ne hne]
      exact hheld'.short
    · exact absurd (hp.symm.trans hpacket) (Option.some_ne_none p)
  · by_cases hc : c' = c
    · subst hc
      exact hself
    · rw [hother c' hc]
      apply h.absent
      rw [hqueue, List.mem_cons, not_or]
      exact ⟨hc, hc'⟩
  · have hne : ∀ {c' m}, messageOf c' (acts ++ [.finished c (some message.payloadIter)
        message.type status s.mem]) = some m → c' ≠ c := by
      rintro c' m hm rfl
      rw [hself] at hm
      cases hm
    rw [hother c₁ (hne hm₁)] at hm₁
    rw [hother c₂ (hne hm₂)] at hm₂
    exact h.disjoint c₁ c₂ m₁ m₂ l₁ l₂ hc hm₁ hm₂
  · obtain ⟨l, hl, hperm⟩ := h.slots
    rw [hqueue] at hperm
    have hmem : c ∈ l := hperm.mem_iff.mpr List.mem_cons_self
    refine ⟨l.erase c, ?_, ?_⟩
    · rw [ledger_append, hl]
      simp [ledger, slots, LedgerEntry.record, hmem]
    · have herase := hperm.erase c
      rwa [List.erase_cons_head] at herase
  · rw [order_concat, h.order, hqueue]
    exact List.erase_cons_head ..
  · rw [h.order, hqueue]
    rfl
  · exact hheld.returned (Or.inl hpacket)
  · rw [ledger_append, hlayers]
    rfl
  · show Stage rest s.packet (s.handleClientTaskPosted || !rest.isEmpty) []
    rw [hpacket, hposted]
    cases rest with
    | nil => exact .idle
    | cons c' rest => exact .start c' rest

/-! ## Requests of the clients -/

/-- A start is refused. -/
theorem Inv.refuse (h : Inv s acts) (c : ℕ) (status : ErrorT) :
    Inv s (acts ++ [.refused c status]) := by
  have hquiet : ∀ act ∈ [Icmpv6SenderAct.refused c status], IsQuiet act := by
    intro act hact
    rw [List.mem_singleton.mp hact]
    trivial
  refine ⟨h.holds.quiet hquiet rfl (fun _ => ⟨rfl, rfl, rfl⟩) rfl
    (fun c message l hheld => ⟨hheld.nodes, hheld.borrowed⟩) (h.holds.messages.concat trivial), ?_⟩
  obtain ⟨below, hbelow, hstage⟩ := h.stage
  refine ⟨below, ?_, hstage⟩
  rw [ledger_append, hbelow]
  rfl

theorem Inv.startSendingMessage {numClients clientId payloadIter payloadLen : ℕ} (h : Inv s acts)
    (msgType msgCode : UInt8) (srcAddrOrNull : Option Ipv6Addr) (dstAddr : Ipv6Addr)
    (hshort : payloadLen + icmpv6MessageHeaderSize < 65536)
    (hchain : (s.clientData clientId).payloadIter = none →
      ∃ l, ClientChain s.mem (s.mem.iter payloadIter) l ∧
        ∀ c message l', messageOf c acts = some message → MessageChain message l' →
          ∀ n ∈ l, n ∉ l') :
    let r := s.startSendingMessage numClients clientId msgType msgCode payloadIter payloadLen
      srcAddrOrNull dstAddr
    Inv r.2.1 (acts ++ r.2.2) := by
  rw [Icmpv6MessageForwarder.startSendingMessage]
  split
  · exact h.refuse clientId ENOMEM
  split
  · exact h.refuse clientId EBUSY
  next hfree =>
    obtain ⟨l, hl, hdisjoint⟩ := hchain (not_not.mp hfree)
    have hnew : clientId ∉ s.activeClientQueue := by
      intro hmem
      obtain ⟨message, l', hheld⟩ := h.holds.held clientId hmem
      exact hfree (by rw [hheld.payloadIter]; exact Option.some_ne_none _)
    dsimp only
    have hself : messageOf clientId (acts ++ [.accepted clientId ⟨payloadIter, msgType, s.mem⟩]) =
        some ⟨payloadIter, msgType, s.mem⟩ := messageOf_self rfl
    have hother : ∀ c, c ≠ clientId → messageOf c (acts ++ [.accepted clientId
        ⟨payloadIter, msgType, s.mem⟩]) = messageOf c acts := fun c hc => messageOf_other rfl hc
    have hhead : ∀ c ∈ s.activeClientQueue,
        (s.activeClientQueue ++ [clientId]).head? = s.activeClientQueue.head? := by
      intro c hc
      cases hqueue : s.activeClientQueue with
      | nil =>
        rw [hqueue] at hc
        cases hc
      | cons first rest => rfl
    obtain ⟨below, hbelow, hstage⟩ := h.stage
    refine ⟨⟨fun c hc => ?_, fun c hc => ?_, fun c₁ c₂ m₁ m₂ l₁ l₂ hc hm₁ hm₂ hl₁ hl₂ => ?_, ?_, ?_,
      ?_, h.holds.messages.concat trivial⟩, below, ?_, ?_⟩
    · rcases List.mem_append.mp hc with hold | hc
      · have hne : c ≠ clientId := fun heq => hnew (heq ▸ hold)
        obtain ⟨message, l', hheld⟩ := h.holds.held c hold
        refine ⟨message, l', (hother c hne).trans hheld.isMessage, ?_, ?_, ?_, hheld.chain,
          hheld.iter, ?_, ?_⟩
        · dsimp only
          rw [clientData_setClient_of_ne hne]
          exact hheld.payloadIter
        · dsimp only
          rw [clientData_setClient_of_ne hne]
          exact hheld.type
        · dsimp only
          rw [clientData_setClient_of_ne hne]
          exact hheld.short
        · dsimp only
          rw [hhead c hold]
          exact hheld.nodes
        · dsimp only
          rw [hhead c hold, clientData_setClient_of_ne hne]
          exact hheld.borrowed
      · obtain rfl := List.mem_singleton.mp hc
        refine ⟨⟨payloadIter, msgType, s.mem⟩, l, hself, ?_, ?_, ?_, hl, rfl,
          fun _ n _ => rfl, fun packet hpacket hfirst => ?_⟩
        · dsimp only
          rw [clientData_setClient_self]
        · dsimp only
          rw [clientData_setClient_self]
        · dsimp only
          rw [clientData_setClient_self]
          exact hshort
        · obtain ⟨first, rest, hqueue⟩ := hstage.queue_of_packet hpacket
          dsimp only at hfirst
          rw [hqueue] at hfirst hnew
          obtain rfl : first = c := Option.some.inj hfirst
          exact absurd List.mem_cons_self hnew
    · dsimp only at hc
      rw [List.mem_append, not_or, List.mem_singleton] at hc
      rw [hother c hc.2]
      exact h.holds.absent c hc.1
    · by_cases h₁ : c₁ = clientId
      · subst h₁
        rw [hself] at hm₁
        obtain rfl := Option.some.inj hm₁
        rw [hother c₂ (Ne.symm hc)] at hm₂
        have hl₁' : ClientChain s.mem (s.mem.iter payloadIter) l₁ := hl₁
        have hll : l = l₁ := List.map_injective_iff.mpr (fun _ _ => IovPtr.client.inj)
          (Seg.unique hl.seg hl₁'.seg)
        rw [← hll]
        exact hdisjoint c₂ m₂ l₂ hm₂ hl₂
      · rw [hother c₁ h₁] at hm₁
        by_cases h₂ : c₂ = clientId
        · subst h₂
          rw [hself] at hm₂
          obtain rfl := Option.some.inj hm₂
          have hl₂' : ClientChain s.mem (s.mem.iter payloadIter) l₂ := hl₂
          have hll : l = l₂ := List.map_injective_iff.mpr (fun _ _ => IovPtr.client.inj)
            (Seg.unique hl.seg hl₂'.seg)
          rw [← hll]
          exact fun n hn hn' => hdisjoint c₁ m₁ l₁ hm₁ hl₁ n hn' hn
        · rw [hother c₂ h₂] at hm₂
          exact h.holds.disjoint c₁ c₂ m₁ m₂ l₁ l₂ hc hm₁ hm₂ hl₁ hl₂
    · obtain ⟨l, hl, hperm⟩ := h.holds.slots
      refine ⟨clientId :: l, ?_, ?_⟩
      · rw [ledger_append, hl]
        rfl
      · exact (hperm.cons clientId).trans (List.perm_append_singleton clientId _).symm
    · exact List.nodup_append.mpr ⟨h.holds.nodup, List.nodup_singleton _, fun c hc c' hc' heq =>
        hnew (by rw [← List.mem_singleton.mp hc', ← heq]; exact hc)⟩
    · rw [order_concat, h.holds.order]
      rfl
    · rw [ledger_append, hbelow]
      rfl
    · exact hstage.enqueueLast clientId

/-- A message is taken back where it is found behind the first one. -/
theorem stopSendingMessage_cases (clientId : ℕ) (msgType : UInt8) (payloadIter : ℕ) :
    (s.stopSendingMessage clientId msgType payloadIter).2 = (s, []) ∨
      ∃ first rest, s.activeClientQueue = first :: rest ∧ first ≠ clientId ∧ clientId ∈ rest ∧
        (s.clientData clientId).payloadIter = some payloadIter ∧
        (s.stopSendingMessage clientId msgType payloadIter).2 =
          ({ s with activeClientQueue := first :: rest.erase clientId },
            [.stopped clientId payloadIter s.mem]) := by
  rw [Icmpv6MessageForwarder.stopSendingMessage]
  split
  · exact Or.inl rfl
  split
  · exact Or.inl rfl
  split
  · exact Or.inl rfl
  next hiter _ hhead =>
    split
    · next i hi =>
      cases hqueue : s.activeClientQueue with
      | nil =>
        rw [hqueue] at hi
        cases hi
      | cons first rest =>
        rw [hqueue] at hi hhead
        have hfound : rest.idxOf? clientId = some i := hi
        have hrest : clientId ∈ rest := by
          rw [← List.isSome_idxOf?]
          exact Option.isSome_of_eq_some hfound
        have herase : (first :: rest).eraseIdx (i + 1) = first :: rest.erase clientId := by
          have hidx : rest.idxOf clientId = i := by
            rw [List.idxOf_eq_getD_idxOf?, hfound]
            rfl
          rw [List.eraseIdx_cons_succ, ← hidx, List.eraseIdx_idxOf_eq_erase]
        refine Or.inr ⟨first, rest, rfl, fun heq => hhead (congrArg some heq), hrest,
          not_not.mp hiter, ?_⟩
        rw [herase]
    · exact Or.inl rfl

theorem Inv.stopSendingMessage (h : Inv s acts) (clientId : ℕ) (msgType : UInt8)
    (payloadIter : ℕ) :
    Inv (s.stopSendingMessage clientId msgType payloadIter).2.1
      (acts ++ (s.stopSendingMessage clientId msgType payloadIter).2.2) := by
  rcases stopSendingMessage_cases (s := s) clientId msgType payloadIter with
    hstays | ⟨first, rest, hqueue, hne, hrest, hiter, hstops⟩
  · rw [hstays, List.append_nil]
    exact h
  rw [hstops]
  have hnodup := h.holds.nodup
  rw [hqueue, List.nodup_cons] at hnodup
  have hmem : clientId ∈ s.activeClientQueue := by
    rw [hqueue]
    exact List.mem_cons_of_mem _ hrest
  obtain ⟨message, l, hheld⟩ := h.holds.held clientId hmem
  have hpayload : payloadIter = message.payloadIter :=
    Option.some.inj (hiter.symm.trans hheld.payloadIter)
  have hself : messageOf clientId (acts ++ [.stopped clientId payloadIter s.mem]) = none :=
    messageOf_self rfl
  have hother : ∀ c, c ≠ clientId → messageOf c (acts ++ [.stopped clientId payloadIter s.mem]) =
      messageOf c acts := fun c hc => messageOf_other rfl hc
  obtain ⟨below, hbelow, hstage⟩ := h.stage
  refine ⟨⟨fun c hc => ?_, fun c hc => ?_, fun c₁ c₂ m₁ m₂ l₁ l₂ hc hm₁ hm₂ => ?_, ?_, ?_, ?_,
    h.holds.messages.concat ⟨message, hheld.isMessage, hpayload, ?_⟩⟩, below, ?_, ?_⟩
  · have hcrest : c ∈ s.activeClientQueue ∧ c ≠ clientId := by
      rw [hqueue]
      rcases List.mem_cons.mp hc with rfl | hc
      · exact ⟨List.mem_cons_self, hne⟩
      · obtain ⟨hcne, hcmem⟩ := (hnodup.2.mem_erase_iff).mp hc
        exact ⟨List.mem_cons_of_mem _ hcmem, hcne⟩
    obtain ⟨message', l', hheld'⟩ := h.holds.held c hcrest.1
    have hfirst : (first :: rest.erase clientId).head? = s.activeClientQueue.head? := by
      rw [hqueue]
      rfl
    refine ⟨message', l', (hother c hcrest.2).trans hheld'.isMessage, hheld'.payloadIter,
      hheld'.type, hheld'.short, hheld'.chain, hheld'.iter, ?_, ?_⟩
    · dsimp only
      rw [hfirst]
      exact hheld'.nodes
    · dsimp only
      rw [hfirst]
      exact hheld'.borrowed
  · by_cases hcc : c = clientId
    · subst hcc
      exact hself
    · rw [hother c hcc]
      apply h.holds.absent
      rw [hqueue]
      intro hcmem
      rcases List.mem_cons.mp hcmem with rfl | hcmem
      · exact hc List.mem_cons_self
      · exact hc (List.mem_cons_of_mem _ (hnodup.2.mem_erase_iff.mpr ⟨hcc, hcmem⟩))
  · have hopen : ∀ {c m}, messageOf c (acts ++ [.stopped clientId payloadIter s.mem]) = some m →
        c ≠ clientId := by
      rintro c m hm rfl
      rw [hself] at hm
      cases hm
    rw [hother c₁ (hopen hm₁)] at hm₁
    rw [hother c₂ (hopen hm₂)] at hm₂
    exact h.holds.disjoint c₁ c₂ m₁ m₂ l₁ l₂ hc hm₁ hm₂
  · obtain ⟨l, hl, hperm⟩ := h.holds.slots
    have hlmem : clientId ∈ l := hperm.mem_iff.mpr hmem
    refine ⟨l.erase clientId, ?_, ?_⟩
    · rw [ledger_append, hl]
      simp [ledger, slots, LedgerEntry.record, hlmem]
    · have hlerase := hperm.erase clientId
      rw [hqueue, List.erase_cons_tail (by simpa using hne)] at hlerase
      exact hlerase
  · exact List.nodup_cons.mpr ⟨fun hmem => hnodup.1 (List.mem_of_mem_erase hmem),
      hnodup.2.erase clientId⟩
  · rw [order_concat, h.holds.order, hqueue]
    exact List.erase_cons_tail (by simpa using hne)
  · apply hheld.returned
    right
    rw [hqueue]
    exact fun heq => hne (Option.some.inj heq)
  · rw [ledger_append, hbelow]
    rfl
  · dsimp only
    rw [hqueue] at hstage
    exact hstage.rest (rest.erase clientId)

/-- The clients write to memory of their own. -/
theorem Inv.write {mem : IovMemory} (h : Inv s acts) (hhdr : mem.node .hdrIov = s.mem.node .hdrIov)
    (hpayload : mem.node .payloadIov = s.mem.node .payloadIov)
    (hkeeps : ∀ c message, messageOf c acts = some message →
      mem.iter message.payloadIter = s.mem.iter message.payloadIter ∧
        ∀ l, MessageChain message l → SameNodes s.mem mem l) :
    Inv { s with mem := mem } acts := by
  refine ⟨⟨fun c hc => ?_, h.holds.absent, h.holds.disjoint, h.holds.slots, h.holds.nodup,
    h.holds.order, h.holds.messages⟩, h.stage⟩
  obtain ⟨message, l, hheld⟩ := h.holds.held c hc
  obtain ⟨hiter, hnodes⟩ := hkeeps c message hheld.isMessage
  have hsame := hnodes l hheld.chain
  refine ⟨message, l, hheld.isMessage, hheld.payloadIter, hheld.type, hheld.short, hheld.chain,
    hiter.trans hheld.iter, fun hfree => (hheld.nodes hfree).trans hsame, fun packet hp hfirst => ?_⟩
  have hborrowed := hheld.borrowed packet hp hfirst
  refine ⟨fun n hn => (hsame n hn).trans (hborrowed.node n hn), ?_, ?_, hborrowed.firstPayloadIov,
    hborrowed.payloadLength, hborrowed.nextHeader⟩
  · dsimp only
    rw [hhdr]
    exact hborrowed.hdrIov
  · dsimp only
    rw [hpayload]
    exact hborrowed.payloadIov

/-! ## The first message -/

/-- The layer below has the packet, and the other layers do not. -/
theorem Inv.atLayer (h : Inv s acts) {layer : Icmpv6Layer}
    (hlayer : ∃ l ∈ ledger layers [] acts, layer ∈ l) :
    ledger layers [] acts = some [layer] ∧ s.handleClientTaskPosted = false ∧
      ∃ first rest packet, s.activeClientQueue = first :: rest ∧ s.packet = some packet := by
  obtain ⟨below, hbelow, hstage⟩ := h.stage
  obtain ⟨l, hl, hmem⟩ := hlayer
  rw [hbelow] at hl
  obtain rfl := Option.some.inj hl
  obtain ⟨hone, hposted, hfirst⟩ := hstage.of_below hmem
  rw [hone] at hbelow
  exact ⟨hbelow, hposted, hfirst⟩

/-- A step of the first message that leaves the memory, the queue and the slots alone. -/
theorem Holds.forward (h : Holds s acts) (hacts : ∀ act ∈ acts', IsQuiet act)
    (hqueue : s'.activeClientQueue = s.activeClientQueue)
    (hclient : ∀ c, (s'.clientData c).payloadIter = (s.clientData c).payloadIter ∧
      (s'.clientData c).type = (s.clientData c).type ∧
      (s'.clientData c).payloadLen = (s.clientData c).payloadLen)
    (hmem : s'.mem = s.mem)
    (hpacket : ∀ packet', s'.packet = some packet' → ∃ packet header,
      s.packet = some packet ∧ packet' = { packet with header := header } ∧
        ipv6BasicHeaderGetPayloadLength header = ipv6BasicHeaderGetPayloadLength packet.header ∧
        ipv6BasicHeaderGetNextHeader header = ipv6BasicHeaderGetNextHeader packet.header)
    (hkept : s'.packet = none → s.packet = none)
    (hok : Justified MessageOk (acts ++ acts')) : Holds s' (acts ++ acts') := by
  refine h.quiet hacts hqueue hclient (by rw [hmem]) (fun c message l hheld =>
    ⟨fun hfree => ?_, fun p hp hfirst => ?_⟩) hok
  · rw [hmem]
    exact hheld.nodes (hfree.imp_left hkept)
  · obtain ⟨packet, header, hold, rfl, hlen, hnext⟩ := hpacket p hp
    rw [hmem]
    exact (hheld.borrowed packet hold hfirst).setHeader hlen hnext

/-- A step that changes neither the messages nor the memory, and performs no act. -/
theorem Holds.congr (h : Holds s acts) (hqueue : s'.activeClientQueue = s.activeClientQueue)
    (hclient : s'.clientData = s.clientData) (hmem : s'.mem = s.mem)
    (hpacket : s'.packet = s.packet) : Holds s' acts := by
  have hnil : acts = acts ++ [] := (List.append_nil acts).symm
  rw [hnil]
  refine h.quiet (fun _ hact => by cases hact) hqueue (fun c => by rw [hclient]; exact ⟨rfl, rfl, rfl⟩)
    (by rw [hmem]) (fun c message l hheld => ?_) (hnil ▸ h.messages)
  rw [hpacket, hmem]
  exact ⟨hheld.nodes, hheld.borrowed⟩

/-- The first message is taken out of its packet and leaves. -/
theorem Holds.leave {rest : List ℕ} {packet : Icmpv6OutPacket} {status : ErrorT}
    (h : Holds s acts) (hqueue : s.activeClientQueue = c :: rest) (hpacket : s.packet = some packet)
    (hposted : s.handleClientTaskPosted = false) (hlayers : ledger layers [] acts = some []) :
    Inv ((s.finishProcessingPacket (s.clientData c)).finishHandlingFirstClient status).1
      (acts ++ ((s.finishProcessingPacket (s.clientData c)).finishHandlingFirstClient status).2) := by
  obtain ⟨hholds, hnone, hsame, hposted', -⟩ := h.finishProcessingPacket hqueue hpacket
  exact Inv.finishFirst hholds hnone (hposted'.trans hposted) (hsame.trans hqueue) hlayers

/-- The first message goes down to a layer. -/
theorem Holds.goDown {rest : List ℕ} {packet : Icmpv6OutPacket} {layer : Icmpv6Layer}
    (h : Holds s acts) (act : Icmpv6SenderAct) (hqueue : s.activeClientQueue = c :: rest)
    (hpacket : s.packet = some packet) (hposted : s.handleClientTaskPosted = false)
    (hlayers : ledger layers [] acts = some []) (hact : layers act = .opens layer)
    (hquiet : IsQuiet act) (hok : MessageOk acts act) : Inv s (acts ++ [act]) := by
  have hacts : ∀ act' ∈ [act], IsQuiet act' := by
    intro act' hmem
    rw [List.mem_singleton.mp hmem]
    exact hquiet
  refine ⟨h.quiet hacts rfl (fun _ => ⟨rfl, rfl, rfl⟩) rfl
    (fun c message l hheld => ⟨hheld.nodes, hheld.borrowed⟩) (h.messages.concat hok), [layer], ?_, ?_⟩
  · rw [ledger_append, hlayers]
    simp [ledger, hact]
  · rw [hqueue, hpacket, hposted]
    exact .below c rest packet layer

/-- The first message is put into a packet, or not. -/
theorem Holds.wrap {rest : List ℕ} {payloadIter : ℕ} (memorySize : ℕ)
    (alloc : Option (ℕ × Ipv6BasicHeader)) (h : Holds s acts)
    (hqueue : s.activeClientQueue = c :: rest) (hpacket : s.packet = none)
    (hiter : (s.clientData c).payloadIter = some payloadIter) :
    let r := icmpv6WrapDataIntoOutgoingIpv6PacketCarryingIcmpMessage memorySize s.mem payloadIter
      (s.clientData c).payloadLen (.icmpv6Hdr c) (s.clientData c).srcAddrOrNull
      (s.clientData c).dstAddr alloc
    Holds { s with mem := r.2, packet := r.1 } acts := by
  intro r
  obtain ⟨message, l, hheld⟩ := h.held c (by rw [hqueue]; exact List.mem_cons_self)
  obtain rfl : payloadIter = message.payloadIter :=
    Option.some.inj (hiter.symm.trans hheld.payloadIter)
  have hfirst : s.activeClientQueue.head? = some c := by rw [hqueue]; rfl
  have hsame := hheld.nodes (Or.inl hpacket)
  have hchain : ClientChain message.mem (message.mem.iter message.payloadIter) l := hheld.chain
  obtain ⟨hiters, hout, hnone, hsome⟩ := wrap_spec memorySize (s.clientData c).payloadLen
    (.icmpv6Hdr c) (s.clientData c).srcAddrOrNull (s.clientData c).dstAddr alloc
    (hchain.congr hsame) hheld.iter
  have hnil : acts = acts ++ [] := (List.append_nil acts).symm
  rw [hnil]
  refine h.quiet (fun _ hact => by cases hact) rfl (fun _ => ⟨rfl, rfl, rfl⟩) hiters
    (fun c' message' l' hheld' => ⟨fun hfree => ?_, fun p hp hfirst' => ?_⟩) (hnil ▸ h.messages)
  · by_cases hc : c = c'
    · subst hc
      obtain rfl := Option.some.inj (hheld.isMessage.symm.trans hheld'.isMessage)
      rw [← messageChain_unique hheld.chain hheld'.chain]
      rcases hfree with hfree | hfree
      · exact hsame.trans (hnone hfree)
      · exact absurd hfirst hfree
    · exact h.others hheld hheld' hc hout (hheld'.nodes (Or.inl hpacket))
  · obtain rfl : c = c' := Option.some.inj (hfirst.symm.trans hfirst')
    obtain rfl := Option.some.inj (hheld.isMessage.symm.trans hheld'.isMessage)
    rw [← messageChain_unique hheld.chain hheld'.chain]
    exact Borrowed.of_same hchain hsame (hsome p hp)

theorem Inv.handleClientTask {memorySize : ℕ} {alloc : Option (ℕ × Ipv6BasicHeader)}
    {selecting checksumming : ErrorT} (h : Inv s acts) (hposted : s.handleClientTaskPosted = true) :
    Inv (s.handleClientTask memorySize alloc selecting checksumming).1
      (acts ++ (s.handleClientTask memorySize alloc selecting checksumming).2) := by
  obtain ⟨below, hbelow, hstage⟩ := h.stage
  obtain ⟨rfl, c, rest, hqueue⟩ := hstage.of_posted hposted
  obtain ⟨message, l, hheld⟩ := h.holds.held c (by rw [hqueue]; exact List.mem_cons_self)
  have hhead : (order acts).head? = some c := by rw [h.holds.order, hqueue]; rfl
  have hholds : Holds { s with handleClientTaskPosted := false } acts :=
    h.holds.congr rfl rfl rfl rfl
  have hiter := hheld.payloadIter
  obtain ⟨clientData, queue, packet, checksumComp, handlingStatus, posted, mem⟩ := s
  obtain rfl : queue = c :: rest := hqueue
  rw [Icmpv6MessageForwarder.handleClientTask]
  dsimp only at hholds hiter ⊢
  rcases packet with _ | packet
  · rw [hiter]
    dsimp only
    have hwrap := hholds.wrap memorySize alloc rfl rfl hiter
    dsimp only at hwrap
    generalize icmpv6WrapDataIntoOutgoingIpv6PacketCarryingIcmpMessage memorySize mem
      message.payloadIter (clientData c).payloadLen (.icmpv6Hdr c) (clientData c).srcAddrOrNull
      (clientData c).dstAddr alloc = r at hwrap ⊢
    obtain ⟨packet, mem⟩ := r
    dsimp only at hwrap ⊢
    rcases packet with _ | packet
    · exact Inv.finishFirst hwrap rfl rfl rfl hbelow
    · dsimp only
      split
      · split
        · exact hwrap.leave rfl rfl rfl hbelow
        · exact hwrap.goDown (.selecting c) rfl rfl rfl hbelow rfl trivial hhead
      · split
        · apply Holds.leave _ rfl rfl rfl hbelow
          exact hwrap.congr rfl rfl rfl rfl
        next hok =>
          rw [initChecksumComputation, if_pos (not_not.mp hok)]
          apply Holds.goDown _ (.checksumming c _) rfl rfl rfl hbelow rfl trivial hhead
          exact hwrap.congr rfl rfl rfl rfl
  · exact hholds.leave rfl rfl rfl hbelow

/-! ## The layers below -/

/-- A layer gives the packet back, with a header of its own. -/
theorem Inv.comeUp {packet : Icmpv6OutPacket} {act : Icmpv6SenderAct} {header : Ipv6BasicHeader}
    (h : Inv s acts) (hpacket : s.packet = some packet) (hquiet : IsQuiet act)
    (hok : MessageOk acts act) (hkeeps : KeepsHeader s header)
    (hqueue' : s'.activeClientQueue = s.activeClientQueue)
    (hclient : ∀ c, (s'.clientData c).payloadIter = (s.clientData c).payloadIter ∧
      (s'.clientData c).type = (s.clientData c).type ∧
      (s'.clientData c).payloadLen = (s.clientData c).payloadLen)
    (hmem : s'.mem = s.mem) (hpacket' : s'.packet = some { packet with header := header }) :
    Holds s' (acts ++ [act]) := by
  have hacts : ∀ act' ∈ [act], IsQuiet act' := by
    intro act' hmem
    rw [List.mem_singleton.mp hmem]
    exact hquiet
  obtain ⟨hlen, hnext⟩ := hkeeps packet hpacket
  refine h.holds.forward hacts hqueue' hclient hmem (fun p hp => ?_) (fun hnone => ?_)
    (h.holds.messages.concat hok)
  · rw [hpacket'] at hp
    exact ⟨packet, header, hpacket, (Option.some.inj hp).symm, hlen, hnext⟩
  · rw [hpacket'] at hnone
    cases hnone

theorem layers_opens {act : Icmpv6SenderAct} {layer : Icmpv6Layer}
    (hlayers : ledger layers [] acts = some []) (hact : layers act = .opens layer) :
    ledger layers [] (acts ++ [act]) = some [layer] := by
  rw [ledger_append, hlayers]
  simp [ledger, hact]

/-- A layer that gives the packet back leaves none at work. -/
theorem layers_closes {act : Icmpv6SenderAct} {layer : Icmpv6Layer}
    (hlayers : ledger layers [] acts = some [layer]) (hact : layers act = .closes layer) :
    ledger layers [] (acts ++ [act]) = some [] := by
  rw [ledger_append, hlayers]
  simp [ledger, hact]

theorem keepsHeader_self {packet : Icmpv6OutPacket} (hpacket : s.packet = some packet) :
    KeepsHeader s packet.header := by
  intro packet' hpacket'
  obtain rfl := Option.some.inj (hpacket.symm.trans hpacket')
  exact ⟨rfl, rfl⟩

theorem Inv.finishSelectingSourceAddress {header : Ipv6BasicHeader} {status checksumming : ErrorT}
    (h : Inv s acts) (hlayer : ∃ l ∈ ledger layers [] acts, .selector ∈ l)
    (hkeeps : KeepsHeader s header) :
    Inv (s.finishSelectingSourceAddress header status checksumming).1
      (acts ++ (s.finishSelectingSourceAddress header status checksumming).2) := by
  obtain ⟨hlayers, hposted, first, rest, packet, hqueue, hpacket⟩ := h.atLayer hlayer
  have hhead : (order (acts ++ [.selected])).head? = some first := by
    rw [order_concat, h.holds.order, hqueue]
    rfl
  have hnone : ledger layers [] (acts ++ [.selected]) = some [] := layers_closes hlayers rfl
  have hup : ∀ {s' : Icmpv6MessageForwarder}, s'.activeClientQueue = s.activeClientQueue →
      s'.clientData = s.clientData → s'.mem = s.mem →
      s'.packet = some { packet with header := header } → Holds s' (acts ++ [.selected]) :=
    fun hqueue' hclient hmem hpacket' => h.comeUp hpacket trivial trivial hkeeps hqueue'
      (fun c => by rw [hclient]; exact ⟨rfl, rfl, rfl⟩) hmem hpacket'
  obtain ⟨clientData, queue, packet', checksumComp, handlingStatus, posted, mem⟩ := s
  obtain rfl : queue = first :: rest := hqueue
  obtain rfl : packet' = some packet := hpacket
  obtain rfl : posted = false := hposted
  rw [Icmpv6MessageForwarder.finishSelectingSourceAddress]
  dsimp only
  split
  · exact ⟨hup rfl rfl rfl rfl, [], hnone, .finish first rest _⟩
  split
  next hfail =>
    rw [initChecksumComputation, if_neg hfail]
    exact ⟨hup rfl rfl rfl rfl, [], hnone, .finish first rest _⟩
  next hok =>
    rw [initChecksumComputation, if_pos (not_not.mp hok), List.append_cons]
    apply Holds.goDown _ (.checksumming first _) rfl rfl rfl hnone rfl trivial hhead
    exact hup rfl rfl rfl rfl

theorem Inv.finishChecksumming {checksumComp : Ipv6ChecksumComputation} {sending : ErrorT}
    (h : Inv s acts) (hlayer : ∃ l ∈ ledger layers [] acts, .computer ∈ l) :
    Inv (s.finishChecksumming checksumComp sending).1
      (acts ++ (s.finishChecksumming checksumComp sending).2) := by
  obtain ⟨hlayers, hposted, first, rest, packet, hqueue, hpacket⟩ := h.atLayer hlayer
  have hhead : (order (acts ++ [.checksummed])).head? = some first := by
    rw [order_concat, h.holds.order, hqueue]
    rfl
  have hnone : ledger layers [] (acts ++ [.checksummed]) = some [] := layers_closes hlayers rfl
  have hup : ∀ {s' : Icmpv6MessageForwarder} (checksum : UInt8 × UInt8),
      s'.activeClientQueue = s.activeClientQueue →
      s'.clientData = (s.setClient first { s.clientData first with checksum := checksum }).clientData →
      s'.mem = s.mem → s'.packet = some packet → Holds s' (acts ++ [.checksummed]) := by
    intro s' checksum hqueue' hclient hmem hpacket'
    refine h.comeUp hpacket trivial trivial (keepsHeader_self hpacket) hqueue' (fun c => ?_) hmem
      hpacket'
    rw [hclient]
    by_cases hc : c = first
    · subst hc
      rw [clientData_setClient_self]
      exact ⟨rfl, rfl, rfl⟩
    · rw [clientData_setClient_of_ne hc]
      exact ⟨rfl, rfl, rfl⟩
  obtain ⟨clientData, queue, packet', checksumComp', handlingStatus, posted, mem⟩ := s
  obtain rfl : queue = first :: rest := hqueue
  obtain rfl : packet' = some packet := hpacket
  obtain rfl : posted = false := hposted
  rw [Icmpv6MessageForwarder.finishChecksumming]
  dsimp only
  split
  · exact ⟨hup _ rfl rfl rfl rfl, [], hnone, .finish first rest _⟩
  · rw [List.append_cons]
    apply Holds.goDown _ (.sending first _) rfl rfl rfl hnone rfl trivial hhead
    exact hup _ rfl rfl rfl rfl

theorem Inv.finishSendingIPv6Packet {header : Ipv6BasicHeader} {status : ErrorT}
    (h : Inv s acts) (hlayer : ∃ l ∈ ledger layers [] acts, .sender ∈ l)
    (hkeeps : KeepsHeader s header) :
    Inv (s.finishSendingIPv6Packet header status).1
      (acts ++ (s.finishSendingIPv6Packet header status).2) := by
  obtain ⟨hlayers, -, first, rest, packet, hqueue, hpacket⟩ := h.atLayer hlayer
  have hnone : ledger layers [] (acts ++ [.sent]) = some [] := layers_closes hlayers rfl
  rw [Icmpv6MessageForwarder.finishSendingIPv6Packet, hpacket]
  refine ⟨?_, [], hnone, ?_⟩
  · exact h.comeUp hpacket trivial trivial hkeeps rfl (fun _ => ⟨rfl, rfl, rfl⟩) rfl rfl
  · dsimp only
    rw [hqueue]
    exact .finish first rest _

/-! ## Every run -/

theorem inv_initial (mem : IovMemory) : Inv (initial mem) [] :=
  ⟨⟨fun _ hc => absurd hc List.not_mem_nil, fun _ _ => rfl,
      fun _ _ _ _ _ _ _ hm => absurd hm.symm (Option.some_ne_none _),
      ⟨[], rfl, List.Perm.refl _⟩, List.nodup_nil, rfl, justified_nil⟩,
    [], rfl, .idle⟩

theorem Inv.step {w : Watched Icmpv6MessageForwarder Icmpv6SenderAct} {event : Icmpv6SenderEvent}
    {numClients memorySize : ℕ} (h : Inv w.state w.history) (hallowed : Allowed w event)
    (hshort : Short w event) :
    Inv (watch (Icmpv6MessageForwarder.step numClients memorySize) w event).1.state
      (watch (Icmpv6MessageForwarder.step numClients memorySize) w event).1.history := by
  rw [state_watch, history_watch]
  cases event with
  | startSendingMessage clientId msgType msgCode payloadIter payloadLen srcAddrOrNull dstAddr =>
    exact h.startSendingMessage msgType msgCode srcAddrOrNull dstAddr hshort hallowed
  | stopSendingMessage clientId msgType payloadIter =>
    exact h.stopSendingMessage clientId msgType payloadIter
  | handleClientTask alloc selecting checksumming => exact h.handleClientTask hallowed
  | finishSelectingSourceAddress header status checksumming =>
    exact h.finishSelectingSourceAddress hallowed.1 hallowed.2
  | finishChecksumming checksumComp sending => exact h.finishChecksumming hallowed
  | finishSendingIPv6Packet header status =>
    exact h.finishSendingIPv6Packet hallowed.1 hallowed.2
  | write mem =>
    have hwrite := h.write hallowed.1 hallowed.2.1 hallowed.2.2
    rw [← List.append_nil w.history] at hwrite
    exact hwrite

theorem Inv.correct (h : Inv s acts) : Correct s acts where
  once := by
    obtain ⟨l, hl, hperm⟩ := h.holds.slots
    refine ⟨l, hl, hperm.nodup_iff.mpr h.holds.nodup, fun c => ?_⟩
    rw [hperm.mem_iff]
    constructor
    · intro hc
      obtain ⟨message, l', hheld⟩ := h.holds.held c hc
      rw [hheld.isMessage]
      exact Option.some_ne_none message
    · exact fun hc => not_not.mp fun hnot => hc (h.holds.absent c hnot)
  served := by
    intro horder
    rw [h.holds.order] at horder
    obtain ⟨below, hbelow, hstage⟩ := h.stage
    rcases hstage.served horder with hposted | hat
    · exact Or.inl hposted
    · exact Or.inr ⟨below, hbelow, hat⟩
  oneBelow := by
    obtain ⟨below, hbelow, hstage⟩ := h.stage
    exact ⟨below, hbelow, hstage.length_le⟩
  messages := h.holds.messages

/-! ## Clients that can send again -/

/-- A client that is not in the queue has an empty slot. -/
def Empties (s : Icmpv6MessageForwarder) : Prop :=
  ∀ c, c ∉ s.activeClientQueue → (s.clientData c).payloadIter = none

/-- Acts other than an answer `EBUSY`. -/
def IsNotBusy : Icmpv6SenderAct → Prop
  | .refused _ status => status ≠ EBUSY
  | _ => True

/-- The packet does not matter to the slots. -/
theorem clientData_finishProcessingPacket (client : Icmpv6ClientState) :
    (s.finishProcessingPacket client).clientData = s.clientData ∧
      (s.finishProcessingPacket client).activeClientQueue = s.activeClientQueue := by
  rw [Icmpv6MessageForwarder.finishProcessingPacket]
  split
  · exact ⟨rfl, rfl⟩
  · exact ⟨rfl, rfl⟩

theorem Empties.congr (h : Empties s) (hqueue : s'.activeClientQueue = s.activeClientQueue)
    (hclient : ∀ c, (s'.clientData c).payloadIter = (s.clientData c).payloadIter) : Empties s' := by
  intro c hc
  rw [hclient]
  exact h c (hqueue ▸ hc)

/-- The first client leaves with an empty slot. -/
theorem Empties.finishFirst {status : ErrorT} (h : Empties s) :
    Empties (s.finishHandlingFirstClient status).1 ∧
      ∀ act ∈ (s.finishHandlingFirstClient status).2, IsNotBusy act := by
  rw [finishHandlingFirstClient]
  split
  · exact ⟨h, fun act hact => absurd hact List.not_mem_nil⟩
  next clientId rest hqueue =>
    refine ⟨fun c hc => ?_, fun act hact => ?_⟩
    · dsimp only at hc ⊢
      by_cases hne : c = clientId
      · subst hne
        rw [clientData_setClient_self]
      · rw [clientData_setClient_of_ne hne]
        apply h
        rw [hqueue, List.mem_cons, not_or]
        exact ⟨hne, hc⟩
    · rw [List.mem_singleton.mp hact]
      trivial

theorem Empties.leave {status : ErrorT} (client : Icmpv6ClientState) (h : Empties s) :
    Empties ((s.finishProcessingPacket client).finishHandlingFirstClient status).1 ∧
      ∀ act ∈ ((s.finishProcessingPacket client).finishHandlingFirstClient status).2,
        IsNotBusy act := by
  obtain ⟨hclient, hqueue⟩ := clientData_finishProcessingPacket (s := s) client
  exact (h.congr hqueue fun c => by rw [hclient]).finishFirst

theorem Empties.initChecksumComputation (h : Empties s) (clientId : ℕ) (packet : Icmpv6OutPacket)
    (answer : ErrorT) : Empties (s.initChecksumComputation clientId packet answer).1 ∧
      ∀ act ∈ (s.initChecksumComputation clientId packet answer).2, IsNotBusy act := by
  rw [Icmpv6MessageForwarder.initChecksumComputation]
  refine ⟨h, fun act hact => ?_⟩
  dsimp only at hact
  split at hact
  · rw [List.mem_singleton.mp hact]
    trivial
  · cases hact

theorem Empties.handleClientTask {memorySize : ℕ} {alloc : Option (ℕ × Ipv6BasicHeader)}
    {selecting checksumming : ErrorT} (h : Empties s) :
    Empties (s.handleClientTask memorySize alloc selecting checksumming).1 ∧
      ∀ act ∈ (s.handleClientTask memorySize alloc selecting checksumming).2, IsNotBusy act := by
  have hnil : ∀ act ∈ ([] : List Icmpv6SenderAct), IsNotBusy act :=
    fun act hact => absurd hact List.not_mem_nil
  have hhandled : Empties { s with handleClientTaskPosted := false } := h
  have hwrapped : ∀ mem packet,
      Empties { s with handleClientTaskPosted := false, mem := mem, packet := packet } :=
    fun _ _ => h
  rw [Icmpv6MessageForwarder.handleClientTask]
  dsimp only
  split
  · exact ⟨h, hnil⟩
  split
  · split
    · exact (hwrapped _ _).finishFirst
    split
    · split
      · exact (hwrapped _ _).leave _
      · refine ⟨hwrapped _ _, fun act hact => ?_⟩
        rw [List.mem_singleton.mp hact]
        trivial
    split
    · exact ((hwrapped _ _).initChecksumComputation _ _ _).1.leave _
    · exact (hwrapped _ _).initChecksumComputation _ _ _
  · exact ⟨h, hnil⟩
  · exact hhandled.leave _

theorem Empties.finishSelectingSourceAddress {header : Ipv6BasicHeader}
    {status checksumming : ErrorT} (h : Empties s) :
    Empties (s.finishSelectingSourceAddress header status checksumming).1 ∧
      ∀ act ∈ (s.finishSelectingSourceAddress header status checksumming).2, IsNotBusy act := by
  have hselected : ∀ act ∈ [Icmpv6SenderAct.selected], IsNotBusy act := by
    intro act hact
    rw [List.mem_singleton.mp hact]
    trivial
  rw [Icmpv6MessageForwarder.finishSelectingSourceAddress]
  split
  · next clientId _ packet _ _ =>
    have hpacket : Empties { s with packet := some { packet with header := header } } := h
    obtain ⟨hsum, hacts⟩ := hpacket.initChecksumComputation clientId
      { packet with header := header } checksumming
    have hboth : ∀ act ∈ Icmpv6SenderAct.selected :: (Icmpv6MessageForwarder.initChecksumComputation
        { s with packet := some { packet with header := header } } clientId
        { packet with header := header } checksumming).2, IsNotBusy act := by
      intro act hact
      rcases List.mem_cons.mp hact with rfl | hact
      · trivial
      · exact hacts act hact
    dsimp only
    split
    · exact ⟨h, hselected⟩
    split
    · exact ⟨hsum, hboth⟩
    · exact ⟨hsum, hboth⟩
  · exact ⟨h, hselected⟩

theorem Empties.finishChecksumming {checksumComp : Ipv6ChecksumComputation} {sending : ErrorT}
    (h : Empties s) : Empties (s.finishChecksumming checksumComp sending).1 ∧
      ∀ act ∈ (s.finishChecksumming checksumComp sending).2, IsNotBusy act := by
  rw [Icmpv6MessageForwarder.finishChecksumming]
  split
  · next clientId _ packet _ _ =>
    have hset : ∀ (checksum : UInt8 × UInt8) c, ((s.setClient clientId
        { s.clientData clientId with checksum := checksum }).clientData c).payloadIter =
          (s.clientData c).payloadIter := by
      intro checksum c
      by_cases hc : c = clientId
      · subst hc
        rw [clientData_setClient_self]
      · rw [clientData_setClient_of_ne hc]
    dsimp only
    split
    · refine ⟨h.congr rfl (hset _), fun act hact => ?_⟩
      rw [List.mem_singleton.mp hact]
      trivial
    · refine ⟨h.congr rfl (hset _), fun act hact => ?_⟩
      rcases List.mem_pair.mp hact with rfl | rfl
      · trivial
      · trivial
  · refine ⟨h, fun act hact => ?_⟩
    rw [List.mem_singleton.mp hact]
    trivial

/-- A client starts a message, or is refused as the queue is full or its slot is not empty. -/
theorem Empties.startSendingMessage (h : Empties s) (numClients clientId : ℕ)
    (msgType msgCode : UInt8) (payloadIter payloadLen : ℕ) (srcAddrOrNull : Option Ipv6Addr)
    (dstAddr : Ipv6Addr) :
    let r := s.startSendingMessage numClients clientId msgType msgCode payloadIter payloadLen
      srcAddrOrNull dstAddr
    Empties r.2.1 ∧ ∃ act, r.2.2 = [act] ∧ (IsNotBusy act ∨
      act = .refused clientId EBUSY ∧ (s.clientData clientId).payloadIter ≠ none) := by
  rw [Icmpv6MessageForwarder.startSendingMessage]
  split
  · exact ⟨h, _, rfl, Or.inl (show ENOMEM ≠ EBUSY by decide)⟩
  split
  next hbusy => exact ⟨h, _, rfl, Or.inr ⟨rfl, hbusy⟩⟩
  · refine ⟨fun c hc => ?_, _, rfl, Or.inl trivial⟩
    dsimp only at hc ⊢
    rw [List.mem_append, not_or, List.mem_singleton] at hc
    rw [clientData_setClient_of_ne hc.2]
    exact h c hc.1

/-- The steps of a message that a layer has, at most. -/
def layerWork : Icmpv6Layer → ℕ
  | .selector => 4
  | .computer => 3
  | .sender => 2

/-- The steps that the first message takes until it is finished, at most. -/
def workLeft (s : Icmpv6MessageForwarder) (acts : List Icmpv6SenderAct) : ℕ :=
  if s.handleClientTaskPosted then if s.packet.isNone then 5 else 1
  else
    match ledger layers [] acts with
    | some (layer :: _) => layerWork layer
    | _ => 0

/-- The steps until the message of a client is finished, at most. -/
def finishBound (c : ℕ) (s : Icmpv6MessageForwarder) (acts : List Icmpv6SenderAct) : ℕ :=
  5 * s.activeClientQueue.idxOf c + workLeft s acts

/-- The steps of the first message: the task runs, or a layer below is done. -/
def IsProgress : Icmpv6SenderEvent → Bool
  | .startSendingMessage .. => false
  | .stopSendingMessage .. => false
  | .write _ => false
  | _ => true

theorem workLeft_le : workLeft s acts ≤ 5 := by
  rw [workLeft]
  split
  · split <;> omega
  · split
    · next layer _ _ => cases layer <;> decide
    · exact Nat.zero_le 5

theorem workLeft_of_layers {layer : Icmpv6Layer} (hposted : s.handleClientTaskPosted = false)
    (hlayers : ledger layers [] acts = some [layer]) :
    workLeft s acts = layerWork layer := by
  rw [workLeft, hposted, hlayers]
  rfl

theorem workLeft_congr (hposted : s'.handleClientTaskPosted = s.handleClientTaskPosted)
    (hpacket : s'.packet = s.packet)
    (hlayers : ledger layers [] (acts ++ acts') = ledger layers [] acts) :
    workLeft s' (acts ++ acts') = workLeft s acts := by
  rw [workLeft, hposted, hpacket, hlayers, workLeft]

/-- The place of a message in the queue does not grow when another one leaves. -/
theorem idxOf_erase_le {c' : ℕ} (queue : List ℕ) (h : c ≠ c') :
    (queue.erase c').idxOf c ≤ queue.idxOf c := by
  induction queue with
  | nil => exact Nat.le_refl _
  | cons first rest ih =>
    by_cases hfirst : first = c'
    · subst hfirst
      rw [List.erase_cons_head, List.idxOf_cons_ne _ h.symm]
      exact Nat.le_succ _
    · rw [List.erase_cons_tail (by simpa using hfirst)]
      by_cases hc : first = c
      · rw [hc, List.idxOf_cons_self]
        exact Nat.zero_le _
      · rw [List.idxOf_cons_ne _ hc, List.idxOf_cons_ne _ hc]
        exact Nat.succ_le_succ ih

/-- The first message leaves, and the ones behind it move up. -/
theorem finishBound_finishFirst (acts : List Icmpv6SenderAct) {first : ℕ} {rest : List ℕ}
    {status : ErrorT}
    (hqueue : s.activeClientQueue = first :: rest)
    (hc : c ∈ s.activeClientQueue)
    (hgoes : ∀ act ∈ (s.finishHandlingFirstClient status).2, slots act ≠ .closes c) :
    c ∈ (s.finishHandlingFirstClient status).1.activeClientQueue ∧
      finishBound c (s.finishHandlingFirstClient status).1
        (acts ++ (s.finishHandlingFirstClient status).2) ≤ 5 * s.activeClientQueue.idxOf c := by
  have hfirst : first ≠ c := by
    rintro rfl
    rw [finishHandlingFirstClient, hqueue] at hgoes
    exact hgoes _ List.mem_cons_self rfl
  have hrest : c ∈ rest := by
    rw [hqueue] at hc
    exact List.mem_of_ne_of_mem hfirst.symm hc
  have hleft : workLeft (s.finishHandlingFirstClient status).1
      (acts ++ (s.finishHandlingFirstClient status).2) ≤ 5 := workLeft_le
  have hnext : (s.finishHandlingFirstClient status).1.activeClientQueue = rest := by
    rw [finishHandlingFirstClient, hqueue]
  rw [finishBound, hnext, hqueue, List.idxOf_cons_ne _ hfirst]
  exact ⟨hrest, by omega⟩

/-- What the task does: the first message leaves, or it goes down to the selector or the computer. -/
theorem handleClientTask_cases {first payloadIter : ℕ} {rest : List ℕ} (memorySize : ℕ)
    (alloc : Option (ℕ × Ipv6BasicHeader)) (selecting checksumming : ErrorT)
    (hqueue : s.activeClientQueue = first :: rest)
    (hiter : (s.clientData first).payloadIter = some payloadIter) :
    (∃ (s₁ : Icmpv6MessageForwarder) (status : ErrorT), s₁.activeClientQueue = s.activeClientQueue ∧
      s.handleClientTask memorySize alloc selecting checksumming =
        s₁.finishHandlingFirstClient status) ∨
    s.packet = none ∧ ∃ act layer, layers act = .opens layer ∧ layer ≠ .sender ∧
      (s.handleClientTask memorySize alloc selecting checksumming).2 = [act] ∧
      (s.handleClientTask memorySize alloc selecting checksumming).1.activeClientQueue =
        s.activeClientQueue ∧
      (s.handleClientTask memorySize alloc selecting checksumming).1.handleClientTaskPosted =
        false := by
  obtain ⟨clientData, queue, packet, checksumComp, handlingStatus, posted, mem⟩ := s
  obtain rfl : queue = first :: rest := hqueue
  have hleave : ∀ (s : Icmpv6MessageForwarder) client,
      (s.finishProcessingPacket client).activeClientQueue = s.activeClientQueue :=
    fun s client => (clientData_finishProcessingPacket client).2
  rw [handleClientTask]
  dsimp only at hiter ⊢
  rcases packet with _ | packet
  · rw [hiter]
    dsimp only
    split
    · exact Or.inl ⟨_, _, rfl, rfl⟩
    split
    · split
      · exact Or.inl ⟨_, _, hleave _ _, rfl⟩
      · exact Or.inr ⟨rfl, _, .selector, rfl, Icmpv6Layer.noConfusion, rfl, rfl, rfl⟩
    split
    · exact Or.inl ⟨_, _, hleave _ _, rfl⟩
    next hok =>
      rw [initChecksumComputation, if_pos (not_not.mp hok)]
      exact Or.inr ⟨rfl, _, .computer, rfl, Icmpv6Layer.noConfusion, rfl, rfl, rfl⟩
  · exact Or.inl ⟨_, _, hleave _ _, rfl⟩

/-- A new message does not come before those in the queue. -/
theorem startSendingMessage_bound (acts : List Icmpv6SenderAct) (numClients clientId : ℕ)
    (msgType msgCode : UInt8) (payloadIter payloadLen : ℕ) (srcAddrOrNull : Option Ipv6Addr)
    (dstAddr : Ipv6Addr) (hc : c ∈ s.activeClientQueue) :
    let r := s.startSendingMessage numClients clientId msgType msgCode payloadIter payloadLen
      srcAddrOrNull dstAddr
    c ∈ r.2.1.activeClientQueue ∧ finishBound c r.2.1 (acts ++ r.2.2) = finishBound c s acts := by
  have hlayers : ∀ act : Icmpv6SenderAct, layers act = .other →
      ledger layers [] (acts ++ [act]) = ledger layers [] acts := by
    intro act hact
    rw [ledger_append]
    rcases ledger layers [] acts with _ | below
    · rfl
    · apply ledger_of_other
      intro act' hmem
      rw [List.mem_singleton.mp hmem]
      exact hact
  rw [Icmpv6MessageForwarder.startSendingMessage]
  split
  · refine ⟨hc, ?_⟩
    rw [finishBound, workLeft_congr rfl rfl (hlayers _ rfl), finishBound]
  split
  · refine ⟨hc, ?_⟩
    rw [finishBound, workLeft_congr rfl rfl (hlayers _ rfl), finishBound]
  · have hposted : (s.handleClientTaskPosted || s.activeClientQueue.isEmpty) =
        s.handleClientTaskPosted := by
      rw [List.isEmpty_eq_false_iff.mpr (List.ne_nil_of_mem hc), Bool.or_false]
    refine ⟨List.mem_append_left _ hc, ?_⟩
    rw [finishBound, finishBound]
    dsimp only
    rw [List.idxOf_append_of_mem hc]
    apply congrArg (5 * s.activeClientQueue.idxOf c + ·)
    exact workLeft_congr hposted rfl (hlayers _ rfl)

/-- A layer gives the packet back, and the message goes on or is to leave. -/
theorem finishBound_comeUp {layer : Icmpv6Layer} (hposted : s.handleClientTaskPosted = false)
    (hlayers : ledger layers [] acts = some [layer])
    (hqueue : s'.activeClientQueue = s.activeClientQueue)
    (hleft : workLeft s' acts' + 1 ≤ layerWork layer) :
    finishBound c s' acts' + 1 ≤ finishBound c s acts := by
  rw [finishBound, finishBound, hqueue, workLeft_of_layers hposted hlayers]
  omega

theorem workLeft_finish (hposted : s.handleClientTaskPosted = true)
    (hpacket : s.packet.isNone = false) : workLeft s acts = 1 := by
  rw [workLeft, hposted, hpacket]
  rfl

/-- A step in which the first message goes on brings every message closer to its end. -/
theorem Inv.progress {w : Watched Icmpv6MessageForwarder Icmpv6SenderAct}
    {event : Icmpv6SenderEvent} {numClients memorySize : ℕ} (h : Inv w.state w.history)
    (hallowed : Allowed w event) (hc : c ∈ w.state.activeClientQueue)
    (hgoes : ∀ act ∈ (w.state.step numClients memorySize event).2, slots act ≠ .closes c) :
    let s' := (w.state.step numClients memorySize event).1
    let acts' := w.history ++ (w.state.step numClients memorySize event).2
    c ∈ s'.activeClientQueue ∧
      finishBound c s' acts' + (if IsProgress event then 1 else 0) ≤
        finishBound c w.state w.history := by
  obtain ⟨s, acts⟩ := w
  dsimp only at h hallowed hc hgoes ⊢
  cases event with
  | startSendingMessage clientId msgType msgCode payloadIter payloadLen srcAddrOrNull dstAddr =>
    obtain ⟨hmem, hbound⟩ := startSendingMessage_bound acts numClients clientId msgType
      msgCode payloadIter payloadLen srcAddrOrNull dstAddr hc
    exact ⟨hmem, hbound.le⟩
  | stopSendingMessage clientId msgType payloadIter =>
    rcases stopSendingMessage_cases (s := s) clientId msgType payloadIter with
      hstays | ⟨first, rest, hqueue, hne, hrest, hiter, hstops⟩
    · rw [Icmpv6MessageForwarder.step, hstays, List.append_nil]
      exact ⟨hc, Nat.le_refl _⟩
    · rw [Icmpv6MessageForwarder.step, hstops] at hgoes ⊢
      have hother : c ≠ clientId := by
        rintro rfl
        exact hgoes _ List.mem_cons_self rfl
      have herase : first :: rest.erase clientId = s.activeClientQueue.erase clientId := by
        rw [hqueue, List.erase_cons_tail (by simpa using hne)]
      have hlayers : ledger layers [] (acts ++ [.stopped clientId payloadIter s.mem]) =
          ledger layers [] acts := by
        rw [ledger_append]
        rcases ledger layers [] acts with _ | below
        · rfl
        · rfl
      have hleft : workLeft { s with activeClientQueue := first :: rest.erase clientId }
          (acts ++ [.stopped clientId payloadIter s.mem]) = workLeft s acts :=
        workLeft_congr rfl rfl hlayers
      have hidx := idxOf_erase_le s.activeClientQueue hother
      refine ⟨?_, ?_⟩
      · dsimp only
        rw [herase]
        exact (List.mem_erase_of_ne hother).mpr hc
      · rw [finishBound, finishBound, hleft, herase, if_neg (by exact Bool.false_ne_true)]
        dsimp only
        omega
  | handleClientTask alloc selecting checksumming =>
    obtain ⟨below, hbelow, hstage⟩ := h.stage
    obtain ⟨rfl, first, rest, hqueue⟩ := hstage.of_posted hallowed
    obtain ⟨message, l, hheld⟩ := h.holds.held first (by rw [hqueue]; exact List.mem_cons_self)
    have hposted : s.handleClientTaskPosted = true := hallowed
    have hwork : 1 ≤ workLeft s acts := by
      rw [workLeft, if_pos hposted]
      split <;> omega
    rcases handleClientTask_cases memorySize alloc selecting checksumming hqueue
      hheld.payloadIter with ⟨s₁, status, hqueue₁, htask⟩ |
        ⟨hpacket, act, layer, hact, hlayer, hacts, hqueue', hposted'⟩
    · rw [Icmpv6MessageForwarder.step, htask] at hgoes ⊢
      obtain ⟨hmem, hbound⟩ := finishBound_finishFirst acts (hqueue₁.trans hqueue)
        (hqueue₁ ▸ hc) hgoes
      rw [hqueue₁] at hbound
      refine ⟨hmem, ?_⟩
      have hless : 5 * s.activeClientQueue.idxOf c + 1 ≤ finishBound c s acts :=
        Nat.add_le_add_left hwork _
      exact (Nat.succ_le_succ hbound).trans hless
    · have hlayers : ledger layers [] (acts ++ [act]) = some [layer] := layers_opens hbelow hact
      rw [Icmpv6MessageForwarder.step, hacts]
      refine ⟨hqueue'.symm ▸ hc, ?_⟩
      rw [finishBound, finishBound, hqueue', workLeft_of_layers hposted' hlayers, workLeft,
        if_pos hposted, hpacket]
      change _ + layerWork layer + 1 ≤ _ + 5
      cases layer with
      | selector => exact Nat.le_refl _
      | computer => exact Nat.le_succ _
      | sender => exact absurd rfl hlayer
  | finishSelectingSourceAddress header status checksumming =>
    obtain ⟨hlayers, hposted, first, rest, packet, hqueue, hpacket⟩ := h.atLayer hallowed.1
    have hdown : ∀ numBytes, ledger layers []
        (acts ++ [.selected] ++ [.checksumming first numBytes]) = some [.computer] :=
      fun _ => layers_opens (layers_closes hlayers rfl) rfl
    rw [Icmpv6MessageForwarder.step]
    rw [Icmpv6MessageForwarder.finishSelectingSourceAddress, hqueue, hpacket]
    dsimp only
    split
    · refine ⟨hqueue ▸ hc, finishBound_comeUp hposted hlayers hqueue.symm ?_⟩
      rw [workLeft_finish rfl rfl]
      exact Nat.le_add_left 2 2
    split
    · refine ⟨hqueue ▸ hc, finishBound_comeUp hposted hlayers hqueue.symm ?_⟩
      rw [workLeft_finish rfl rfl]
      exact Nat.le_add_left 2 2
    next hok =>
      refine ⟨hqueue ▸ hc, finishBound_comeUp hposted hlayers hqueue.symm ?_⟩
      rw [initChecksumComputation, if_pos (not_not.mp hok), List.append_cons]
      refine le_trans (Nat.succ_le_succ (workLeft_of_layers ?_ (hdown _)).le) ?_
      · exact hposted
      · exact Nat.le_refl 4
  | finishChecksumming checksumComp sending =>
    obtain ⟨hlayers, hposted, first, rest, packet, hqueue, hpacket⟩ := h.atLayer hallowed
    have hdown : ledger layers [] (acts ++ [.checksummed] ++ [.sending first packet]) =
        some [.sender] := layers_opens (layers_closes hlayers rfl) rfl
    rw [Icmpv6MessageForwarder.step]
    rw [Icmpv6MessageForwarder.finishChecksumming, hqueue, hpacket]
    dsimp only
    split
    · refine ⟨hc, finishBound_comeUp hposted hlayers rfl ?_⟩
      refine le_trans (Nat.succ_le_succ (workLeft_finish ?_ ?_).le) (Nat.le_succ 2)
      · rfl
      · exact congrArg Option.isNone hpacket
    · refine ⟨hc, finishBound_comeUp hposted hlayers rfl ?_⟩
      rw [List.append_cons]
      refine le_trans (Nat.succ_le_succ (workLeft_of_layers ?_ hdown).le) ?_
      · exact hposted
      · exact Nat.le_refl 3
  | finishSendingIPv6Packet header status =>
    obtain ⟨hlayers, hposted, first, rest, packet, hqueue, hpacket⟩ := h.atLayer hallowed.1
    refine ⟨hc, finishBound_comeUp hposted hlayers rfl ?_⟩
    rw [Icmpv6MessageForwarder.step, Icmpv6MessageForwarder.finishSendingIPv6Packet, hpacket,
      workLeft_finish rfl rfl]
    exact Nat.le_refl 2
  | write mem =>
    rw [Icmpv6MessageForwarder.step, List.append_nil]
    exact ⟨hc, Nat.le_refl _⟩

end Steps


section Results

variable {numClients memorySize : ℕ}

/-- The invariant of a watched forwarder. -/
def Kept (w : Watched Icmpv6MessageForwarder Icmpv6SenderAct) : Prop := Inv w.state w.history

end Results

end Icmpv6MessageForwarder

end Whip6
