import Whip6.Apps.PacketBridge
import Whip6.Lib.History
import Whip6.Lib.Ledger
import Whip6.Lib.Runs

/-!
# Runs of the packet bridge

In any run every packet that the bridge has is in one place: in the vector that is read into, or in
one of the queues, whose first packet is on its way to the interceptor, there, on its way down, or
below; and it is freed once.  The bridge reads from the serial interface as long as its queue has
room, unless a read has failed: then nothing starts the next one.
-/

namespace Whip6

open Lib

namespace PacketBridge

/-! ## What the layers around the bridge see -/

/-- The packets that the bridge has. -/
def owned : BridgeAct → LedgerEntry BridgePacket
  | .allocated pkt => .opens pkt
  | .accepted pkt => .opens pkt
  | .freed pkt => .closes pkt
  | _ => .other

/-- The packets that the interceptor of a direction has. -/
def atInterceptor (direction : BridgeDirection) : BridgeAct → LedgerEntry BridgePacket
  | .intercepting d pkt => if d = direction then .opens pkt else .other
  | .intercepted d pkt => if d = direction then .closes pkt else .other
  | _ => .other

/-- The packets that the forwarder, or the writer, has. -/
def atSender (direction : BridgeDirection) : BridgeAct → LedgerEntry BridgePacket
  | .sending d pkt => if d = direction then .opens pkt else .other
  | .sent d pkt => if d = direction then .closes pkt else .other
  | _ => .other

def seeReading (reading : Bool) : BridgeAct → Bool
  | .startedReading status => if status = SUCCESS then true else reading
  | .doneReading _ => false
  | _ => reading

/-- Whether a read is pending or in progress. -/
def isReading (acts : List BridgeAct) : Bool := acts.foldl seeReading false

def seeVector (vector : Option BridgePacket) : BridgeAct → Option BridgePacket
  | .allocated pkt => some pkt
  | .doneReading _ => none
  | _ => vector

/-- The packet whose vector the reader has. -/
def vectorOf (acts : List BridgeAct) : Option BridgePacket := acts.foldl seeVector none

/-- The bridge is booted once, tasks run when they are posted, and the other layers give back what
they have.  A read starts unless one has started already. -/
def Allowed (w : Watched PacketBridge BridgeAct) : BridgeEvent → Prop
  | .booted reading =>
    .booted ∉ w.history ∧ (reading = SUCCESS ↔ isReading w.history = false)
  | .provideIOVForDataUnit _ allocated => isReading w.history = true ∧ vectorOf w.history = none ∧
      ∀ pkt ∈ allocated, ∀ l ∈ ledger owned [] w.history, pkt ∉ l
  | .finishedReadingDataUnit iov status reading => isReading w.history = true ∧
      ((vectorOf w.history ≠ none ∧ iov = some .incoming) ∨
        (vectorOf w.history = none ∧ iov = none ∧ status ≠ SUCCESS)) ∧ reading = SUCCESS
  | .startProcessingSerialToRadioPacketTask => w.state.serialToRadio.startProcessingTaskPosted = true
  | .finishInterceptingSerialToRadioPacket pkt _ reading =>
    (∃ l ∈ ledger (atInterceptor .serialToRadio) [] w.history, pkt ∈ l) ∧
      (reading = SUCCESS ↔ isReading w.history = false)
  | .transmitSerialToRadioPacketTask _ _ reading => w.state.serialToRadio.transmitTaskPosted = true ∧
      (reading = SUCCESS ↔ isReading w.history = false)
  | .forwardingIpv6PacketFinished pkt _ reading =>
    (∃ l ∈ ledger (atSender .serialToRadio) [] w.history, pkt ∈ l) ∧
      (reading = SUCCESS ↔ isReading w.history = false)
  | .acceptedIpv6PacketForProcessing pkt => ∀ l ∈ ledger owned [] w.history, pkt ∉ l
  | .startProcessingRadioToSerialPacketTask => w.state.radioToSerial.startProcessingTaskPosted = true
  | .finishInterceptingRadioToSerialPacket pkt _ =>
    ∃ l ∈ ledger (atInterceptor .radioToSerial) [] w.history, pkt ∈ l
  | .transmitRadioToSerialPacketTask _ => w.state.radioToSerial.transmitTaskPosted = true
  | .finishedWritingDataUnit pkt iov _ =>
    (∃ l ∈ ledger (atSender .radioToSerial) [] w.history, pkt ∈ l) ∧ iov = some .outgoing

/-- No read fails. -/
def Spares (_ : Watched PacketBridge BridgeAct) : BridgeEvent → Prop
  | .finishedReadingDataUnit _ status _ => status = SUCCESS
  | _ => True

/-- Where the first packet of a queue is; the interceptor and the sender have the packets of the
lists. -/
inductive Stage : BridgePipe → List BridgePacket → List BridgePacket → Prop
  | empty : Stage ⟨[], false, false⟩ [] []
  | posted (pkt : BridgePacket) (rest : List BridgePacket) : Stage ⟨pkt :: rest, true, false⟩ [] []
  | intercepting (pkt : BridgePacket) (rest : List BridgePacket) :
    Stage ⟨pkt :: rest, false, false⟩ [pkt] []
  | intercepted (pkt : BridgePacket) (rest : List BridgePacket) :
    Stage ⟨pkt :: rest, false, true⟩ [] []
  | sending (pkt : BridgePacket) (rest : List BridgePacket) :
    Stage ⟨pkt :: rest, false, false⟩ [] [pkt]

/-- The interceptor and the sender of a direction have at most the first packet of its queue, and
only one of them has it, or one of the tasks is posted. -/
def InStage (direction : BridgeDirection) (pipe : BridgePipe) (acts : List BridgeAct) : Prop :=
  ∃ intercepting sending, ledger (atInterceptor direction) [] acts = some intercepting ∧
    ledger (atSender direction) [] acts = some sending ∧ Stage pipe intercepting sending

/-- The bridge has the packet that is read into and those of two queues, each once, and frees no
packet that it does not have. -/
def Owns (serialToRadio radioToSerial : List BridgePacket) (acts : List BridgeAct) : Prop :=
  ∃ l, ledger owned [] acts = some l ∧ l.Nodup ∧
    l.Perm ((vectorOf acts).toList ++ serialToRadio ++ radioToSerial)

/-- Every packet that the bridge has is in one place. -/
structure Keeps (s : PacketBridge) (acts : List BridgeAct) : Prop where
  owned : Owns s.serialToRadio.packetQueue s.radioToSerial.packetQueue acts
  serialToRadio : InStage .serialToRadio s.serialToRadio acts
  radioToSerial : InStage .radioToSerial s.radioToSerial acts

/-- Once it is booted, the bridge reads, unless its queue is full. -/
def Listens (capacity : ℕ) (s : PacketBridge) (acts : List BridgeAct) : Prop :=
  .booted ∈ acts → isReading acts = true ∨ s.serialToRadio.isFull capacity = true

/-! ## The invariant -/

structure Inv (s : PacketBridge) (acts : List BridgeAct) : Prop where
  keeps : Keeps s acts
  incoming : ∀ pkt, vectorOf acts = some pkt → s.incomingIovHead = (packetToIov pkt).1
  outgoing : ∀ pkt, ledger (atSender .radioToSerial) [] acts = some [pkt] →
    s.outgoingIovHead = (packetToIov pkt).1

section Lists

variable {l a b : List BridgePacket} {pkt : BridgePacket} {acts : List BridgeAct}

/-- A packet is freed. -/
theorem free_owned (hl : ledger owned [] acts = some l) (hnodup : l.Nodup)
    (hperm : l.Perm (a ++ pkt :: b)) :
    ∃ l', ledger owned [] (acts ++ [.freed pkt]) = some l' ∧ l'.Nodup ∧ l'.Perm (a ++ b) := by
  obtain ⟨l', hl', hperm'⟩ := ledger_concat_of_closes hl (rfl : owned (.freed pkt) = .closes pkt) hperm
  have hall : (pkt :: (a ++ b)).Nodup := List.nodup_middle.mp (hperm.nodup_iff.mp hnodup)
  exact ⟨l', hl', hperm'.nodup_iff.mpr hall.of_cons, hperm'⟩

theorem vectorOf_append {acts' : List BridgeAct} (h : ∀ act ∈ acts', ∀ v, seeVector v act = v) :
    vectorOf (acts ++ acts') = vectorOf acts := by
  rw [vectorOf, List.foldl_append]
  change acts'.foldl seeVector (vectorOf acts) = vectorOf acts
  generalize vectorOf acts = v
  induction acts' with
  | nil => rfl
  | cons act acts' ih =>
    rw [List.foldl_cons, h act List.mem_cons_self]
    exact ih fun act hact => h act (List.mem_cons_of_mem _ hact)

theorem vectorOf_concat (act : BridgeAct) :
    vectorOf (acts ++ [act]) = seeVector (vectorOf acts) act := by
  rw [vectorOf, List.foldl_append]
  rfl

/-- Acts that neither allocate nor free, nor end a read. -/
theorem Owns.other {acts' : List BridgeAct} (h : Owns a b acts)
    (howned : ∀ act ∈ acts', PacketBridge.owned act = .other)
    (hvector : ∀ act ∈ acts', ∀ v, seeVector v act = v) : Owns a b (acts ++ acts') := by
  obtain ⟨l, hl, hnodup, hperm⟩ := h
  refine ⟨l, ?_, hnodup, ?_⟩
  · rw [ledger_append, hl]
    exact ledger_of_other howned
  · rwa [vectorOf_append hvector]

theorem Owns.freeSerialToRadio (h : Owns (pkt :: a) b acts) : Owns a b (acts ++ [.freed pkt]) := by
  obtain ⟨l, hl, hnodup, hperm⟩ := h
  rw [List.append_assoc] at hperm
  obtain ⟨l', hl', hnodup', hperm'⟩ := free_owned hl hnodup hperm
  refine ⟨l', hl', hnodup', ?_⟩
  rw [vectorOf_concat, List.append_assoc]
  exact hperm'

theorem Owns.freeRadioToSerial (h : Owns a (pkt :: b) acts) : Owns a b (acts ++ [.freed pkt]) := by
  obtain ⟨l, hl, hnodup, hperm⟩ := h
  obtain ⟨l', hl', hnodup', hperm'⟩ := free_owned hl hnodup hperm
  refine ⟨l', hl', hnodup', ?_⟩
  rw [vectorOf_concat]
  exact hperm'

theorem Owns.allocate (h : Owns a b acts) (hnone : vectorOf acts = none)
    (hfresh : ∀ l ∈ ledger PacketBridge.owned [] acts, pkt ∉ l) :
    Owns a b (acts ++ [.allocated pkt]) := by
  obtain ⟨l, hl, hnodup, hperm⟩ := h
  refine ⟨pkt :: l, ?_, List.nodup_cons.mpr ⟨hfresh l hl, hnodup⟩, ?_⟩
  · rw [ledger_append, hl]
    rfl
  · rw [hnone] at hperm
    rw [vectorOf_concat]
    exact hperm.cons pkt

theorem Owns.accept (h : Owns a b acts)
    (hfresh : ∀ l ∈ ledger PacketBridge.owned [] acts, pkt ∉ l) :
    Owns a (pkt :: b) (acts ++ [.accepted pkt]) := by
  obtain ⟨l, hl, hnodup, hperm⟩ := h
  refine ⟨pkt :: l, ?_, List.nodup_cons.mpr ⟨hfresh l hl, hnodup⟩, ?_⟩
  · rw [ledger_append, hl]
    rfl
  · rw [vectorOf_concat]
    exact (hperm.cons pkt).trans List.perm_middle.symm

/-- A read ends, and the packet is the bridge's. -/
theorem Owns.read (h : Owns a b acts) (hvector : vectorOf acts = some pkt) (status : ErrorT) :
    Owns (pkt :: a) b (acts ++ [.doneReading status]) := by
  obtain ⟨l, hl, hnodup, hperm⟩ := h
  refine ⟨l, ?_, hnodup, ?_⟩
  · rw [ledger_append, hl]
    rfl
  · rw [hvector] at hperm
    rw [vectorOf_concat]
    exact hperm

theorem Owns.readNothing (h : Owns a b acts) (hvector : vectorOf acts = none) (status : ErrorT) :
    Owns a b (acts ++ [.doneReading status]) := by
  obtain ⟨l, hl, hnodup, hperm⟩ := h
  refine ⟨l, ?_, hnodup, ?_⟩
  · rw [ledger_append, hl]
    rfl
  · rw [hvector] at hperm
    rw [vectorOf_concat]
    exact hperm

theorem Owns.perm {a' b' : List BridgePacket} (h : Owns a b acts) (ha : a.Perm a') (hb : b.Perm b') :
    Owns a' b' acts := by
  obtain ⟨l, hl, hnodup, hperm⟩ := h
  exact ⟨l, hl, hnodup, hperm.trans (((List.Perm.refl _).append ha).append hb)⟩

end Lists

section Stages

variable {pipe pipe' : BridgePipe} {direction : BridgeDirection} {acts acts' : List BridgeAct}
  {pkt : BridgePacket} {intercepting sending : List BridgePacket}

/-- Acts that say nothing of a direction. -/
theorem InStage.other (h : InStage direction pipe acts)
    (hinterceptor : ∀ act ∈ acts', atInterceptor direction act = .other)
    (hsender : ∀ act ∈ acts', atSender direction act = .other) :
    InStage direction pipe (acts ++ acts') := by
  obtain ⟨intercepting, sending, hi, ht, hstage⟩ := h
  refine ⟨intercepting, sending, ?_, ?_, hstage⟩
  · rw [ledger_append, hi]
    exact ledger_of_other hinterceptor
  · rw [ledger_append, ht]
    exact ledger_of_other hsender

theorem Stage.enqueueLast (h : Stage pipe intercepting sending) (pkt : BridgePacket) :
    Stage (pipe.enqueueLast pkt) intercepting sending := by
  cases h with
  | empty => exact .posted pkt []
  | posted first rest => exact .posted first (rest ++ [pkt])
  | intercepting first rest => exact .intercepting first (rest ++ [pkt])
  | intercepted first rest => exact .intercepted first (rest ++ [pkt])
  | sending first rest => exact .sending first (rest ++ [pkt])

theorem InStage.enqueueLast (h : InStage direction pipe acts) (pkt : BridgePacket) :
    InStage direction (pipe.enqueueLast pkt) acts := by
  obtain ⟨intercepting, sending, hi, ht, hstage⟩ := h
  exact ⟨intercepting, sending, hi, ht, hstage.enqueueLast pkt⟩

/-- A queue whose first packet is nowhere else. -/
theorem stage_next (rest : List BridgePacket) : Stage ⟨rest, !rest.isEmpty, false⟩ [] [] := by
  cases rest with
  | nil => exact .empty
  | cons first rest => exact .posted first rest

/-- The task shows the first packet to the interceptor. -/
theorem InStage.startProcessingPacketTask (h : InStage direction pipe acts)
    (hposted : pipe.startProcessingTaskPosted = true) :
    (pipe.startProcessingPacketTask direction).1.packetQueue = pipe.packetQueue ∧
      (∃ pkt, (pipe.startProcessingPacketTask direction).2 = [.intercepting direction pkt]) ∧
      InStage direction (pipe.startProcessingPacketTask direction).1
        (acts ++ (pipe.startProcessingPacketTask direction).2) := by
  obtain ⟨intercepting, sending, hi, ht, hstage⟩ := h
  cases hstage with
  | empty => cases hposted
  | posted pkt rest =>
    refine ⟨rfl, ⟨pkt, rfl⟩, [pkt], [], ?_, ?_, .intercepting pkt rest⟩
    · rw [ledger_append, hi]
      simp [BridgePipe.startProcessingPacketTask, ledger, atInterceptor]
    · rw [ledger_append, ht]
      rfl
  | intercepting pkt rest => cases hposted
  | intercepted pkt rest => cases hposted
  | sending pkt rest => cases hposted

/-- The interceptor gives the first packet back. -/
theorem InStage.intercepted (h : InStage direction pipe acts)
    (hpkt : ∃ l ∈ ledger (atInterceptor direction) [] acts, pkt ∈ l) :
    ∃ rest, pipe = ⟨pkt :: rest, false, false⟩ ∧
      ledger (atInterceptor direction) [] (acts ++ [.intercepted direction pkt]) = some [] ∧
      ledger (atSender direction) [] (acts ++ [.intercepted direction pkt]) = some [] := by
  obtain ⟨intercepting, sending, hi, ht, hstage⟩ := h
  obtain ⟨l, hl, hmem⟩ := hpkt
  rw [hi] at hl
  obtain rfl := Option.some.inj hl
  cases hstage with
  | intercepting first rest =>
    rw [List.mem_singleton] at hmem
    subst hmem
    refine ⟨rest, rfl, ?_, ?_⟩
    · rw [ledger_append, hi]
      simp [ledger, atInterceptor]
    · rw [ledger_append, ht]
      rfl
  | empty => cases hmem
  | posted first rest => cases hmem
  | intercepted first rest => cases hmem
  | sending first rest => cases hmem

/-- The task to hand the first packet down runs. -/
theorem InStage.transmitting (h : InStage direction pipe acts)
    (hposted : pipe.transmitTaskPosted = true) :
    ∃ first rest, pipe = ⟨first :: rest, false, true⟩ ∧
      ledger (atInterceptor direction) [] acts = some [] ∧
      ledger (atSender direction) [] acts = some [] := by
  obtain ⟨intercepting, sending, hi, ht, hstage⟩ := h
  cases hstage with
  | intercepted first rest => exact ⟨first, rest, rfl, hi, ht⟩
  | empty => cases hposted
  | posted first rest => cases hposted
  | intercepting first rest => cases hposted
  | sending first rest => cases hposted

/-- The layer below gives the first packet back. -/
theorem InStage.sent (h : InStage direction pipe acts)
    (hpkt : ∃ l ∈ ledger (atSender direction) [] acts, pkt ∈ l) :
    ∃ rest, pipe = ⟨pkt :: rest, false, false⟩ ∧
      ledger (atSender direction) [] acts = some [pkt] ∧
      ledger (atInterceptor direction) [] (acts ++ [.sent direction pkt]) = some [] ∧
      ledger (atSender direction) [] (acts ++ [.sent direction pkt]) = some [] := by
  obtain ⟨intercepting, sending, hi, ht, hstage⟩ := h
  obtain ⟨l, hl, hmem⟩ := hpkt
  rw [ht] at hl
  obtain rfl := Option.some.inj hl
  cases hstage with
  | sending first rest =>
    rw [List.mem_singleton] at hmem
    subst hmem
    refine ⟨rest, rfl, ht, ?_, ?_⟩
    · rw [ledger_append, hi]
      rfl
    · rw [ledger_append, ht]
      simp [ledger, atSender]
  | empty => cases hmem
  | posted first rest => cases hmem
  | intercepting first rest => cases hmem
  | intercepted first rest => cases hmem

/-- The first packet is done with. -/
theorem InStage.finish {rest : List BridgePacket}
    (hi : ledger (atInterceptor direction) [] acts = some [])
    (ht : ledger (atSender direction) [] acts = some [])
    (hinterceptor : ∀ act ∈ acts', atInterceptor direction act = .other)
    (hsender : ∀ act ∈ acts', atSender direction act = .other) :
    InStage direction ⟨rest, !rest.isEmpty, false⟩ (acts ++ acts') := by
  have hnext : InStage direction ⟨rest, !rest.isEmpty, false⟩ acts :=
    ⟨[], [], hi, ht, stage_next rest⟩
  exact hnext.other hinterceptor hsender

end Stages

section Steps

variable {capacity : ℕ} {s : PacketBridge} {acts : List BridgeAct} {pkt : BridgePacket}
  {rest : List BridgePacket} {status reading : ErrorT}

/-- The first packet to the radio is done with. -/
theorem Inv.finishSerialToRadio (hpipe : s.serialToRadio = ⟨pkt :: rest, false, false⟩)
    (hi : ledger (atInterceptor .serialToRadio) [] acts = some [])
    (ht : ledger (atSender .serialToRadio) [] acts = some [])
    (howned : Owns s.serialToRadio.packetQueue s.radioToSerial.packetQueue acts)
    (hradio : InStage .radioToSerial s.radioToSerial acts)
    (hincoming : ∀ pkt, vectorOf acts = some pkt → s.incomingIovHead = (packetToIov pkt).1)
    (houtgoing : ∀ pkt, ledger (atSender .radioToSerial) [] acts = some [pkt] →
      s.outgoingIovHead = (packetToIov pkt).1) :
    Inv (s.finishHandlingSerialToRadioPacket capacity reading).1
      (acts ++ (s.finishHandlingSerialToRadioPacket capacity reading).2) := by
  have hacts : (s.finishHandlingSerialToRadioPacket capacity reading).2 = .freed pkt ::
      if s.serialToRadio.isFull capacity then [.startedReading reading] else [] := by
    rw [finishHandlingSerialToRadioPacket, BridgePipe.finishHandlingPacket, hpipe]
    rfl
  have hstate : (s.finishHandlingSerialToRadioPacket capacity reading).1 =
      { s with serialToRadio := ⟨rest, !rest.isEmpty, false⟩ } := by
    rw [finishHandlingSerialToRadioPacket, BridgePipe.finishHandlingPacket, hpipe]
    rfl
  rw [hacts, hstate]
  generalize hstarted : (if s.serialToRadio.isFull capacity then
    [BridgeAct.startedReading reading] else []) = started
  have hmem : ∀ act ∈ started, act = .startedReading reading := by
    intro act hact
    rw [← hstarted] at hact
    split at hact
    · exact List.mem_singleton.mp hact
    · cases hact
  have hquiet : ∀ {P : BridgeAct → Prop}, P (.freed pkt) → P (.startedReading reading) →
      ∀ act ∈ BridgeAct.freed pkt :: started, P act := by
    intro P hfreed hreading act hact
    rcases List.mem_cons.mp hact with rfl | hstarted
    · exact hfreed
    · rw [hmem act hstarted]
      exact hreading
  refine ⟨⟨?_, InStage.finish hi ht (hquiet rfl rfl) (hquiet rfl rfl),
    hradio.other (hquiet rfl rfl) (hquiet rfl rfl)⟩, fun p hp => ?_, fun p hp => ?_⟩
  · rw [hpipe] at howned
    rw [← List.singleton_append, ← List.append_assoc]
    apply howned.freeSerialToRadio.other
    · intro act hact
      rw [hmem act hact]
      rfl
    · intro act hact v
      rw [hmem act hact]
      rfl
  · rw [vectorOf_append (hquiet (fun _ => rfl) (fun _ => rfl))] at hp
    exact hincoming p hp
  · have hsame : ledger (atSender .radioToSerial) [] (acts ++ .freed pkt :: started) =
        ledger (atSender .radioToSerial) [] acts := by
      obtain ⟨_, sending, -, ht, -⟩ := hradio
      rw [ledger_append, ht]
      exact ledger_of_other (hquiet rfl rfl)
    rw [hsame] at hp
    exact houtgoing p hp

/-- The first packet to the serial interface is done with. -/
theorem Inv.finishRadioToSerial (hpipe : s.radioToSerial = ⟨pkt :: rest, false, false⟩)
    (hi : ledger (atInterceptor .radioToSerial) [] acts = some [])
    (ht : ledger (atSender .radioToSerial) [] acts = some [])
    (howned : Owns s.serialToRadio.packetQueue s.radioToSerial.packetQueue acts)
    (hserial : InStage .serialToRadio s.serialToRadio acts)
    (hincoming : ∀ pkt, vectorOf acts = some pkt → s.incomingIovHead = (packetToIov pkt).1) :
    Inv s.finishHandlingRadioToSerialPacket.1 (acts ++ s.finishHandlingRadioToSerialPacket.2) := by
  have hacts : s.finishHandlingRadioToSerialPacket.2 = [.freed pkt] := by
    rw [finishHandlingRadioToSerialPacket, BridgePipe.finishHandlingPacket, hpipe]
  have hstate : s.finishHandlingRadioToSerialPacket.1 =
      { s with radioToSerial := ⟨rest, !rest.isEmpty, false⟩ } := by
    rw [finishHandlingRadioToSerialPacket, BridgePipe.finishHandlingPacket, hpipe]
    rfl
  rw [hacts, hstate]
  refine ⟨⟨?_, hserial.other (by simp [atInterceptor]) (by simp [atSender]),
    InStage.finish hi ht (by simp [atInterceptor]) (by simp [atSender])⟩, fun p hp => ?_,
    fun p hp => ?_⟩
  · rw [hpipe] at howned
    exact howned.freeRadioToSerial
  · rw [vectorOf_concat] at hp
    exact hincoming p hp
  · rw [ledger_append, ht] at hp
    cases hp

/-! ## Serial to radio -/

theorem Inv.provideIOVForDataUnit (h : Inv s acts) (size : ℕ) {allocated : Option BridgePacket}
    (hnone : vectorOf acts = none)
    (hfresh : ∀ pkt ∈ allocated, ∀ l ∈ ledger PacketBridge.owned [] acts, pkt ∉ l) :
    Inv (s.provideIOVForDataUnit size allocated).1
      (acts ++ (s.provideIOVForDataUnit size allocated).2) := by
  unfold PacketBridge.provideIOVForDataUnit
  split
  · rw [List.append_nil]
    exact h
  · rcases allocated with _ | pkt
    · rw [List.append_nil]
      exact h
    · refine ⟨⟨h.keeps.owned.allocate hnone (hfresh pkt rfl),
        h.keeps.serialToRadio.other (by simp [atInterceptor]) (by simp [atSender]),
        h.keeps.radioToSerial.other (by simp [atInterceptor]) (by simp [atSender])⟩,
        fun p hp => ?_, fun p hp => ?_⟩
      · rw [vectorOf_concat] at hp
        obtain rfl := Option.some.inj hp
        rfl
      · refine h.outgoing p ?_
        obtain ⟨_, sending, -, ht, -⟩ := h.keeps.radioToSerial
        rw [ledger_append, ht] at hp
        rw [ht]
        exact hp

/-- The outcomes of a read. -/
theorem Inv.finishedReadingDataUnit (h : Inv s acts) {iov : Option BridgeIov}
    (hiov : (vectorOf acts ≠ none ∧ iov = some .incoming) ∨
      (vectorOf acts = none ∧ iov = none ∧ status ≠ SUCCESS)) :
    Inv (s.finishedReadingDataUnit capacity iov status reading).1
      (acts ++ (s.finishedReadingDataUnit capacity iov status reading).2) := by
  have hdone : vectorOf (acts ++ [.doneReading status]) = none := vectorOf_concat _
  have hsender : ∀ {acts' : List BridgeAct},
      (∀ act ∈ acts', atSender .radioToSerial act = .other) → ∀ p,
        ledger (atSender .radioToSerial) [] (acts ++ acts') = some [p] →
          s.outgoingIovHead = (packetToIov p).1 := by
    intro acts' hother p hp
    refine h.outgoing p ?_
    obtain ⟨_, sending, -, ht, -⟩ := h.keeps.radioToSerial
    rw [ledger_append, ht] at hp
    rw [ht, ← hp]
    exact (ledger_of_other hother).symm
  rw [PacketBridge.finishedReadingDataUnit]
  rcases hiov with ⟨hvector, rfl⟩ | ⟨hvector, rfl, -⟩
  · obtain ⟨pkt, hpkt⟩ := Option.ne_none_iff_exists'.mp hvector
    rw [h.incoming pkt hpkt, iovToPacket_packetToIov]
    have hread := h.keeps.owned.read hpkt status
    dsimp only
    split
    · refine ⟨⟨?_, h.keeps.serialToRadio.other (by simp [atInterceptor]) (by simp [atSender]),
        h.keeps.radioToSerial.other (by simp [atInterceptor]) (by simp [atSender])⟩,
        fun p hp => ?_, hsender (by simp [atSender])⟩
      · rw [← List.singleton_append, ← List.append_assoc]
        exact hread.freeSerialToRadio
      · rw [← List.singleton_append, ← List.append_assoc, vectorOf_concat, hdone] at hp
        cases hp
    · have hqueue : Owns (s.serialToRadio.enqueueLast pkt).packetQueue
          s.radioToSerial.packetQueue (acts ++ [.doneReading status]) :=
        hread.perm (List.perm_append_singleton pkt _).symm (List.Perm.refl _)
      have hstage := h.keeps.serialToRadio.enqueueLast pkt
      split
      · refine ⟨⟨?_, hstage.other (by simp [atInterceptor]) (by simp [atSender]),
          h.keeps.radioToSerial.other (by simp [atInterceptor]) (by simp [atSender])⟩,
          fun p hp => ?_, hsender (by simp [atSender])⟩
        · rw [← List.singleton_append, ← List.append_assoc]
          exact hqueue.other (by simp [owned]) (by simp [seeVector])
        · rw [← List.singleton_append, ← List.append_assoc, vectorOf_concat, hdone] at hp
          cases hp
      · refine ⟨⟨hqueue, hstage.other (by simp [atInterceptor]) (by simp [atSender]),
          h.keeps.radioToSerial.other (by simp [atInterceptor]) (by simp [atSender])⟩,
          fun p hp => ?_, hsender (by simp [atSender])⟩
        rw [hdone] at hp
        cases hp
  · have hnone : iovToPacket .incoming s.incomingIovHead none = none := rfl
    rw [hnone]
    refine ⟨⟨h.keeps.owned.readNothing hvector status,
      h.keeps.serialToRadio.other (by simp [atInterceptor]) (by simp [atSender]),
      h.keeps.radioToSerial.other (by simp [atInterceptor]) (by simp [atSender])⟩,
      fun p hp => ?_, hsender (by simp [atSender])⟩
    rw [hdone] at hp
    cases hp

/-- An act that says nothing of what the bridge has, nor of the other direction. -/
theorem Inv.pipe {act : BridgeAct} {s' : PacketBridge} (h : Inv s acts)
    (howned : owned act = .other) (hvector : ∀ v, seeVector v act = v)
    (hqueues : s'.serialToRadio.packetQueue = s.serialToRadio.packetQueue ∧
      s'.radioToSerial.packetQueue = s.radioToSerial.packetQueue)
    (hserial : InStage .serialToRadio s'.serialToRadio (acts ++ [act]))
    (hradio : InStage .radioToSerial s'.radioToSerial (acts ++ [act]))
    (hincoming : s'.incomingIovHead = s.incomingIovHead)
    (houtgoing : ∀ p, ledger (atSender .radioToSerial) [] (acts ++ [act]) = some [p] →
      s'.outgoingIovHead = (packetToIov p).1) : Inv s' (acts ++ [act]) := by
  refine ⟨⟨?_, hserial, hradio⟩, fun p hp => ?_, houtgoing⟩
  · rw [hqueues.1, hqueues.2]
    exact h.keeps.owned.other (by simpa using howned) (by simpa using hvector)
  · rw [vectorOf_append (by simpa using hvector)] at hp
    exact hincoming.trans (h.incoming p hp)

/-- The writer has what it had. -/
theorem Inv.outgoing_other {act : BridgeAct} (h : Inv s acts)
    (hsender : atSender .radioToSerial act = .other) (p : BridgePacket)
    (hp : ledger (atSender .radioToSerial) [] (acts ++ [act]) = some [p]) :
    s.outgoingIovHead = (packetToIov p).1 := by
  refine h.outgoing p ?_
  obtain ⟨_, sending, -, ht, -⟩ := h.keeps.radioToSerial
  rw [ledger_append, ht] at hp
  rw [ht, ← hp]
  exact (ledger_of_other (by simpa using hsender)).symm

theorem Inv.startProcessingSerialToRadioPacketTask (h : Inv s acts)
    (hposted : s.serialToRadio.startProcessingTaskPosted = true) :
    Inv s.startProcessingSerialToRadioPacketTask.1
      (acts ++ s.startProcessingSerialToRadioPacketTask.2) := by
  obtain ⟨hqueue, ⟨pkt, hact⟩, hstage⟩ := h.keeps.serialToRadio.startProcessingPacketTask hposted
  rw [PacketBridge.startProcessingSerialToRadioPacketTask]
  dsimp only
  rw [hact] at hstage ⊢
  exact h.pipe rfl (fun _ => rfl) ⟨hqueue, rfl⟩ hstage
    (h.keeps.radioToSerial.other (by simp [atInterceptor]) (by simp [atSender])) rfl
    (h.outgoing_other rfl)

theorem Inv.startProcessingRadioToSerialPacketTask (h : Inv s acts)
    (hposted : s.radioToSerial.startProcessingTaskPosted = true) :
    Inv s.startProcessingRadioToSerialPacketTask.1
      (acts ++ s.startProcessingRadioToSerialPacketTask.2) := by
  obtain ⟨hqueue, ⟨pkt, hact⟩, hstage⟩ := h.keeps.radioToSerial.startProcessingPacketTask hposted
  rw [PacketBridge.startProcessingRadioToSerialPacketTask]
  dsimp only
  rw [hact] at hstage ⊢
  exact h.pipe rfl (fun _ => rfl) ⟨rfl, hqueue⟩
    (h.keeps.serialToRadio.other (by simp [atInterceptor]) (by simp [atSender])) hstage rfl
    (h.outgoing_other rfl)

theorem Inv.finishInterceptingSerialToRadioPacket (h : Inv s acts) (drop : Bool)
    (hpkt : ∃ l ∈ ledger (atInterceptor .serialToRadio) [] acts, pkt ∈ l) :
    Inv (s.finishInterceptingSerialToRadioPacket capacity pkt drop reading).1
      (acts ++ .intercepted .serialToRadio pkt ::
        (s.finishInterceptingSerialToRadioPacket capacity pkt drop reading).2) := by
  obtain ⟨rest, hpipe, hi, ht⟩ := h.keeps.serialToRadio.intercepted hpkt
  have hradio : InStage .radioToSerial s.radioToSerial (acts ++ [.intercepted .serialToRadio pkt]) :=
    h.keeps.radioToSerial.other (by simp [atInterceptor]) (by simp [atSender])
  rw [← List.singleton_append, ← List.append_assoc,
    PacketBridge.finishInterceptingSerialToRadioPacket, if_neg (by simp [hpipe])]
  split
  · refine Inv.finishSerialToRadio hpipe hi ht (h.keeps.owned.other (by simp [owned])
      (by simp [seeVector])) hradio (fun p hp => ?_) (h.outgoing_other rfl)
    rw [vectorOf_concat] at hp
    exact h.incoming p hp
  · rw [List.append_nil]
    refine h.pipe rfl (fun _ => rfl) ⟨rfl, rfl⟩ ⟨[], [], hi, ht, ?_⟩ hradio rfl
      (h.outgoing_other rfl)
    rw [hpipe]
    exact .intercepted pkt rest

theorem Inv.transmitSerialToRadioPacketTask (h : Inv s acts) (address forwarding : ErrorT)
    (hposted : s.serialToRadio.transmitTaskPosted = true) :
    Inv (s.transmitSerialToRadioPacketTask capacity address forwarding reading).1
      (acts ++ (s.transmitSerialToRadioPacketTask capacity address forwarding reading).2) := by
  obtain ⟨pkt, rest, hpipe, hi, ht⟩ := h.keeps.serialToRadio.transmitting hposted
  obtain ⟨serialToRadio, radioToSerial, incomingIovHead, outgoingIovHead⟩ := s
  obtain rfl : serialToRadio = ⟨pkt :: rest, false, true⟩ := hpipe
  have hfinish : Inv (finishHandlingSerialToRadioPacket capacity
        ⟨⟨pkt :: rest, false, false⟩, radioToSerial, incomingIovHead, outgoingIovHead⟩ reading).1
      (acts ++ (finishHandlingSerialToRadioPacket capacity
        ⟨⟨pkt :: rest, false, false⟩, radioToSerial, incomingIovHead, outgoingIovHead⟩ reading).2) :=
    Inv.finishSerialToRadio rfl hi ht h.keeps.owned h.keeps.radioToSerial h.incoming h.outgoing
  rw [PacketBridge.transmitSerialToRadioPacketTask]
  dsimp only
  split
  · exact hfinish
  split
  · exact hfinish
  · refine h.pipe rfl (fun _ => rfl) ⟨rfl, rfl⟩ ⟨[], [pkt], ?_, ?_, .sending pkt rest⟩
      (h.keeps.radioToSerial.other (by simp [atInterceptor]) (by simp [atSender])) rfl
      (h.outgoing_other rfl)
    · rw [ledger_append, hi]
      rfl
    · rw [ledger_append, ht]
      rfl

theorem Inv.forwardingIpv6PacketFinished (h : Inv s acts)
    (hpkt : ∃ l ∈ ledger (atSender .serialToRadio) [] acts, pkt ∈ l) :
    Inv (s.forwardingIpv6PacketFinished capacity pkt reading).1
      (acts ++ .sent .serialToRadio pkt ::
        (s.forwardingIpv6PacketFinished capacity pkt reading).2) := by
  obtain ⟨rest, hpipe, -, hi, ht⟩ := h.keeps.serialToRadio.sent hpkt
  rw [← List.singleton_append, ← List.append_assoc, PacketBridge.forwardingIpv6PacketFinished,
    if_neg (by simp [hpipe])]
  refine Inv.finishSerialToRadio hpipe hi ht (h.keeps.owned.other (by simp [owned])
    (by simp [seeVector])) (h.keeps.radioToSerial.other (by simp [atInterceptor])
    (by simp [atSender])) (fun p hp => ?_) (h.outgoing_other rfl)
  rw [vectorOf_concat] at hp
  exact h.incoming p hp

/-! ## Radio to serial -/

theorem Inv.acceptedIpv6PacketForProcessing (h : Inv s acts)
    (hfresh : ∀ l ∈ ledger PacketBridge.owned [] acts, pkt ∉ l) :
    Inv (s.acceptedIpv6PacketForProcessing capacity pkt).1
      (acts ++ .accepted pkt :: (s.acceptedIpv6PacketForProcessing capacity pkt).2) := by
  have haccept := h.keeps.owned.accept hfresh
  have hserial : InStage .serialToRadio s.serialToRadio (acts ++ [.accepted pkt]) :=
    h.keeps.serialToRadio.other (by simp [atInterceptor]) (by simp [atSender])
  have hradio : InStage .radioToSerial s.radioToSerial (acts ++ [.accepted pkt]) :=
    h.keeps.radioToSerial.other (by simp [atInterceptor]) (by simp [atSender])
  have hvector : vectorOf (acts ++ [.accepted pkt]) = vectorOf acts := vectorOf_concat _
  rw [← List.singleton_append, ← List.append_assoc, PacketBridge.acceptedIpv6PacketForProcessing]
  split
  · refine ⟨⟨haccept.freeRadioToSerial, hserial.other (by simp [atInterceptor]) (by simp [atSender]),
      hradio.other (by simp [atInterceptor]) (by simp [atSender])⟩, fun p hp => ?_, fun p hp => ?_⟩
    · rw [vectorOf_concat, hvector] at hp
      exact h.incoming p hp
    · have hsame : ledger (atSender .radioToSerial) [] (acts ++ [.accepted pkt]) = some [p] := by
        obtain ⟨_, sending, -, ht, -⟩ := hradio
        rw [ledger_append, ht] at hp
        rw [ht]
        exact hp
      exact h.outgoing_other rfl p hsame
  · rw [List.append_nil]
    refine ⟨⟨haccept.perm (List.Perm.refl _) (List.perm_append_singleton pkt _).symm, hserial,
      hradio.enqueueLast pkt⟩, fun p hp => ?_, h.outgoing_other rfl⟩
    rw [hvector] at hp
    exact h.incoming p hp

theorem Inv.finishInterceptingRadioToSerialPacket (h : Inv s acts) (drop : Bool)
    (hpkt : ∃ l ∈ ledger (atInterceptor .radioToSerial) [] acts, pkt ∈ l) :
    Inv (s.finishInterceptingRadioToSerialPacket pkt drop).1
      (acts ++ .intercepted .radioToSerial pkt ::
        (s.finishInterceptingRadioToSerialPacket pkt drop).2) := by
  obtain ⟨rest, hpipe, hi, ht⟩ := h.keeps.radioToSerial.intercepted hpkt
  have hserial : InStage .serialToRadio s.serialToRadio (acts ++ [.intercepted .radioToSerial pkt]) :=
    h.keeps.serialToRadio.other (by simp [atInterceptor]) (by simp [atSender])
  rw [← List.singleton_append, ← List.append_assoc,
    PacketBridge.finishInterceptingRadioToSerialPacket, if_neg (by simp [hpipe])]
  split
  · refine Inv.finishRadioToSerial hpipe hi ht (h.keeps.owned.other (by simp [owned])
      (by simp [seeVector])) hserial fun p hp => ?_
    rw [vectorOf_concat] at hp
    exact h.incoming p hp
  · rw [List.append_nil]
    refine h.pipe rfl (fun _ => rfl) ⟨rfl, rfl⟩ hserial ⟨[], [], hi, ht, ?_⟩ rfl
      (h.outgoing_other rfl)
    rw [hpipe]
    exact .intercepted pkt rest

theorem Inv.transmitRadioToSerialPacketTask (h : Inv s acts) (writing : ErrorT)
    (hposted : s.radioToSerial.transmitTaskPosted = true) :
    Inv (s.transmitRadioToSerialPacketTask writing).1
      (acts ++ (s.transmitRadioToSerialPacketTask writing).2) := by
  obtain ⟨pkt, rest, hpipe, hi, ht⟩ := h.keeps.radioToSerial.transmitting hposted
  have hqueue : s.radioToSerial.packetQueue = pkt :: rest := by rw [hpipe]
  rw [PacketBridge.transmitRadioToSerialPacketTask]
  dsimp only
  rw [hqueue]
  dsimp only
  split
  · have hfirst : BridgePipe.mk (pkt :: rest) s.radioToSerial.startProcessingTaskPosted false =
        ⟨pkt :: rest, false, false⟩ := by rw [hpipe]
    have howned := h.keeps.owned
    rw [hqueue] at howned
    exact Inv.finishRadioToSerial hfirst hi ht howned h.keeps.serialToRadio h.incoming
  · refine h.pipe rfl (fun _ => rfl) ⟨rfl, hqueue.symm⟩
      (h.keeps.serialToRadio.other (by simp [atInterceptor]) (by simp [atSender]))
      ⟨[], [pkt], ?_, ?_, ?_⟩ rfl fun p hp => ?_
    · rw [ledger_append, hi]
      rfl
    · rw [ledger_append, ht]
      rfl
    · dsimp only
      rw [hpipe]
      exact .sending pkt rest
    · rw [ledger_append, ht] at hp
      obtain rfl : pkt = p := by simpa [ledger, atSender] using hp
      rfl

theorem Inv.finishedWritingDataUnit (h : Inv s acts)
    (hpkt : ∃ l ∈ ledger (atSender .radioToSerial) [] acts, pkt ∈ l) :
    Inv (s.finishedWritingDataUnit (some .outgoing)).1
      (acts ++ .sent .radioToSerial pkt :: (s.finishedWritingDataUnit (some .outgoing)).2) := by
  obtain ⟨rest, hpipe, hsending, hi, ht⟩ := h.keeps.radioToSerial.sent hpkt
  rw [← List.singleton_append, ← List.append_assoc, PacketBridge.finishedWritingDataUnit,
    h.outgoing pkt hsending, iovToPacket_packetToIov]
  dsimp only
  rw [if_neg (by simp [hpipe])]
  refine Inv.finishRadioToSerial hpipe hi ht (h.keeps.owned.other (by simp [owned])
    (by simp [seeVector])) (h.keeps.serialToRadio.other (by simp [atInterceptor])
    (by simp [atSender])) fun p hp => ?_
  rw [vectorOf_concat] at hp
  exact h.incoming p hp

/-! ## Listening -/

theorem isReading_append {acts' : List BridgeAct} (h : ∀ act ∈ acts', ∀ v, seeReading v act = v) :
    isReading (acts ++ acts') = isReading acts := by
  rw [isReading, List.foldl_append]
  change acts'.foldl seeReading (isReading acts) = isReading acts
  generalize isReading acts = v
  induction acts' with
  | nil => rfl
  | cons act acts' ih =>
    rw [List.foldl_cons, h act List.mem_cons_self]
    exact ih fun act hact => h act (List.mem_cons_of_mem _ hact)

/-- Behind an attempt to read, a read is pending: where the attempt is refused, it was before. -/
theorem isReading_started (hreading : reading = SUCCESS ↔ isReading acts = false) :
    isReading (acts ++ [.startedReading reading]) = true := by
  have hsee : isReading (acts ++ [.startedReading reading]) =
      if reading = SUCCESS then true else isReading acts := by
    rw [isReading, List.foldl_append]
    rfl
  rw [hsee]
  split
  · rfl
  next hfail => simpa [hfail] using hreading

/-- A step that neither reads nor changes the queue to the radio. -/
theorem Listens.other {s' : PacketBridge} {acts' : List BridgeAct} (h : Listens capacity s acts)
    (hbooted : .booted ∉ acts') (hreading : ∀ act ∈ acts', ∀ v, seeReading v act = v)
    (hqueue : s'.serialToRadio.packetQueue = s.serialToRadio.packetQueue) :
    Listens capacity s' (acts ++ acts') := by
  intro hmem
  rw [isReading_append hreading, BridgePipe.isFull, hqueue]
  apply h
  exact (List.mem_append.mp hmem).resolve_right hbooted

theorem finishHandlingPacket_quiet (pipe : BridgePipe) : ∀ act ∈ pipe.finishHandlingPacket.2,
    act ≠ .booted ∧ ∀ v, seeReading v act = v := by
  intro act hact
  unfold BridgePipe.finishHandlingPacket at hact
  split at hact
  · cases hact
  · rw [List.mem_singleton.mp hact]
    exact ⟨BridgeAct.noConfusion, fun _ => rfl⟩

/-- A packet to the serial interface is done with. -/
theorem Listens.finishRadioToSerial (h : Listens capacity s acts) :
    Listens capacity s.finishHandlingRadioToSerialPacket.1
      (acts ++ s.finishHandlingRadioToSerialPacket.2) := by
  have hpipe := finishHandlingPacket_quiet s.radioToSerial
  exact h.other (fun hact => (hpipe _ hact).1 rfl) (fun act hact => (hpipe act hact).2) rfl

/-- Where a packet to the radio is done with, a read is pending. -/
theorem Listens.finishSerialToRadio (h : Listens capacity s acts)
    (hreading : reading = SUCCESS ↔ isReading acts = false) :
    Listens capacity (s.finishHandlingSerialToRadioPacket capacity reading).1
      (acts ++ (s.finishHandlingSerialToRadioPacket capacity reading).2) := by
  have hpipe := finishHandlingPacket_quiet s.serialToRadio
  have hsame : isReading (acts ++ s.serialToRadio.finishHandlingPacket.2) = isReading acts :=
    isReading_append fun act hact => (hpipe act hact).2
  intro hmem
  left
  rw [finishHandlingSerialToRadioPacket] at hmem ⊢
  dsimp only at hmem ⊢
  rw [← List.append_assoc] at hmem ⊢
  split
  · refine isReading_started ?_
    rw [hsame]
    exact hreading
  next hroom =>
    rw [if_neg hroom, List.append_nil] at hmem
    rw [List.append_nil, hsame]
    refine (h ?_).resolve_right hroom
    exact (List.mem_append.mp hmem).resolve_right fun hact => (hpipe _ hact).1 rfl

theorem Inv.listens_finishedReading (h : Inv s acts) (hvector : vectorOf acts ≠ none) :
    Listens capacity (s.finishedReadingDataUnit capacity (some .incoming) SUCCESS SUCCESS).1
      (acts ++ (s.finishedReadingDataUnit capacity (some .incoming) SUCCESS SUCCESS).2) := by
  obtain ⟨pkt, hpkt⟩ := Option.ne_none_iff_exists'.mp hvector
  rw [PacketBridge.finishedReadingDataUnit, h.incoming pkt hpkt, iovToPacket_packetToIov]
  dsimp only
  intro _
  split
  next hfull => exact Or.inr (hfull.resolve_right (fun hfail => hfail rfl))
  · split
    · left
      rw [← List.singleton_append, ← List.append_assoc]
      refine isReading_started (iff_of_true rfl ?_)
      rw [isReading, List.foldl_append]
      rfl
    next hroom => exact Or.inr (by simpa using hroom)

/-- As long as no read fails, every step keeps a read pending while there is room. -/
theorem Listens.step (h : Inv s acts) (hlistens : Listens capacity s acts) {event : BridgeEvent}
    (hallowed : Allowed ⟨s, acts⟩ event) (hspares : Spares ⟨s, acts⟩ event) :
    Listens capacity (s.step capacity event).1 (acts ++ (s.step capacity event).2) := by
  cases event with
  | booted reading =>
    intro _
    left
    rw [PacketBridge.step, ← List.singleton_append, ← List.append_assoc]
    refine isReading_started ?_
    rw [isReading_append (by simp [seeReading])]
    exact hallowed.2
  | provideIOVForDataUnit size allocated =>
    rw [PacketBridge.step]
    unfold PacketBridge.provideIOVForDataUnit
    split
    · exact hlistens.other List.not_mem_nil (by simp) rfl
    split
    · exact hlistens.other List.not_mem_nil (by simp) rfl
    · exact hlistens.other (by simp) (by simp [seeReading]) rfl
  | finishedReadingDataUnit iov status reading =>
    obtain ⟨-, hiov, rfl⟩ := hallowed
    obtain rfl : status = SUCCESS := hspares
    rcases hiov with ⟨hvector, rfl⟩ | ⟨-, -, hfail⟩
    · exact h.listens_finishedReading hvector
    · exact absurd rfl hfail
  | startProcessingSerialToRadioPacketTask =>
    obtain ⟨hqueue, ⟨pkt, hact⟩, -⟩ := h.keeps.serialToRadio.startProcessingPacketTask hallowed
    rw [PacketBridge.step, PacketBridge.startProcessingSerialToRadioPacketTask]
    dsimp only
    rw [hact]
    exact hlistens.other (by simp) (by simp [seeReading]) hqueue
  | finishInterceptingSerialToRadioPacket pkt drop reading =>
    have hfirst : Listens capacity s (acts ++ [.intercepted .serialToRadio pkt]) :=
      hlistens.other (by simp) (by simp [seeReading]) rfl
    rw [PacketBridge.step, ← List.singleton_append, ← List.append_assoc]
    dsimp only
    rw [PacketBridge.finishInterceptingSerialToRadioPacket]
    split
    · exact hfirst.other List.not_mem_nil (by simp) rfl
    split
    · refine hfirst.finishSerialToRadio ?_
      rw [isReading_append (by simp [seeReading])]
      exact hallowed.2
    · exact hfirst.other List.not_mem_nil (by simp) rfl
  | transmitSerialToRadioPacketTask address forwarding reading =>
    have hfinish : Listens capacity { s with serialToRadio :=
        { s.serialToRadio with transmitTaskPosted := false } } acts := hlistens
    rw [PacketBridge.step]
    unfold PacketBridge.transmitSerialToRadioPacketTask
    dsimp only
    split
    · exact hlistens.other List.not_mem_nil (by simp) rfl
    split
    · exact hfinish.finishSerialToRadio hallowed.2
    split
    · exact hfinish.finishSerialToRadio hallowed.2
    · exact hlistens.other (by simp) (by simp [seeReading]) rfl
  | forwardingIpv6PacketFinished pkt status reading =>
    have hfirst : Listens capacity s (acts ++ [.sent .serialToRadio pkt]) :=
      hlistens.other (by simp) (by simp [seeReading]) rfl
    rw [PacketBridge.step, ← List.singleton_append, ← List.append_assoc]
    dsimp only
    rw [PacketBridge.forwardingIpv6PacketFinished]
    split
    · exact hfirst.other List.not_mem_nil (by simp) rfl
    · refine hfirst.finishSerialToRadio ?_
      rw [isReading_append (by simp [seeReading])]
      exact hallowed.2
  | acceptedIpv6PacketForProcessing pkt =>
    rw [PacketBridge.step, PacketBridge.acceptedIpv6PacketForProcessing]
    dsimp only
    split
    · exact hlistens.other (by simp) (by simp [seeReading]) rfl
    · exact hlistens.other (by simp) (by simp [seeReading]) rfl
  | startProcessingRadioToSerialPacketTask =>
    obtain ⟨-, ⟨pkt, hact⟩, -⟩ := h.keeps.radioToSerial.startProcessingPacketTask hallowed
    rw [PacketBridge.step, PacketBridge.startProcessingRadioToSerialPacketTask]
    dsimp only
    rw [hact]
    exact hlistens.other (by simp) (by simp [seeReading]) rfl
  | finishInterceptingRadioToSerialPacket pkt drop =>
    have hfirst : Listens capacity s (acts ++ [.intercepted .radioToSerial pkt]) :=
      hlistens.other (by simp) (by simp [seeReading]) rfl
    rw [PacketBridge.step, ← List.singleton_append, ← List.append_assoc]
    dsimp only
    rw [PacketBridge.finishInterceptingRadioToSerialPacket]
    split
    · exact hfirst.other List.not_mem_nil (by simp) rfl
    split
    · exact hfirst.finishRadioToSerial
    · exact hfirst.other List.not_mem_nil (by simp) rfl
  | transmitRadioToSerialPacketTask writing =>
    rw [PacketBridge.step]
    unfold PacketBridge.transmitRadioToSerialPacketTask
    dsimp only
    split
    · exact hlistens.other List.not_mem_nil (by simp) rfl
    split
    · apply Listens.finishRadioToSerial
      exact hlistens
    · exact hlistens.other (by simp) (by simp [seeReading]) rfl
  | finishedWritingDataUnit pkt iov status =>
    have hfirst : Listens capacity s (acts ++ [.sent .radioToSerial pkt]) :=
      hlistens.other (by simp) (by simp [seeReading]) rfl
    rw [PacketBridge.step, ← List.singleton_append, ← List.append_assoc]
    unfold PacketBridge.finishedWritingDataUnit
    dsimp only
    split
    · exact hfirst.other List.not_mem_nil (by simp) rfl
    split
    · exact hfirst.other List.not_mem_nil (by simp) rfl
    · exact hfirst.finishRadioToSerial

theorem Inv.step (h : Inv s acts) {event : BridgeEvent} (hallowed : Allowed ⟨s, acts⟩ event) :
    Inv (s.step capacity event).1 (acts ++ (s.step capacity event).2) := by
  cases event with
  | booted reading =>
    rw [PacketBridge.step]
    refine ⟨⟨h.keeps.owned.other (by simp [owned]) (by simp [seeVector]),
      h.keeps.serialToRadio.other (by simp [atInterceptor]) (by simp [atSender]),
      h.keeps.radioToSerial.other (by simp [atInterceptor]) (by simp [atSender])⟩,
      fun p hp => ?_, fun p hp => ?_⟩
    · rw [vectorOf_append (by simp [seeVector])] at hp
      exact h.incoming p hp
    · refine h.outgoing p ?_
      obtain ⟨_, sending, -, ht, -⟩ := h.keeps.radioToSerial
      rw [ledger_append, ht] at hp
      rw [ht]
      exact hp
  | provideIOVForDataUnit size allocated =>
    exact h.provideIOVForDataUnit size hallowed.2.1 hallowed.2.2
  | finishedReadingDataUnit iov status reading => exact h.finishedReadingDataUnit hallowed.2.1
  | startProcessingSerialToRadioPacketTask =>
    exact h.startProcessingSerialToRadioPacketTask hallowed
  | finishInterceptingSerialToRadioPacket pkt drop reading =>
    exact h.finishInterceptingSerialToRadioPacket drop hallowed.1
  | transmitSerialToRadioPacketTask address forwarding reading =>
    exact h.transmitSerialToRadioPacketTask address forwarding hallowed.1
  | forwardingIpv6PacketFinished pkt status reading =>
    exact h.forwardingIpv6PacketFinished hallowed.1
  | acceptedIpv6PacketForProcessing pkt => exact h.acceptedIpv6PacketForProcessing hallowed
  | startProcessingRadioToSerialPacketTask =>
    exact h.startProcessingRadioToSerialPacketTask hallowed
  | finishInterceptingRadioToSerialPacket pkt drop =>
    exact h.finishInterceptingRadioToSerialPacket drop hallowed
  | transmitRadioToSerialPacketTask writing =>
    exact h.transmitRadioToSerialPacketTask writing hallowed
  | finishedWritingDataUnit pkt iov status =>
    obtain ⟨hpkt, rfl⟩ := hallowed
    exact h.finishedWritingDataUnit hpkt

end Steps

section Results

theorem inv_initial : Inv initial [] where
  keeps := ⟨⟨[], rfl, List.nodup_nil, List.Perm.refl _⟩, ⟨[], [], rfl, rfl, .empty⟩,
    ⟨[], [], rfl, rfl, .empty⟩⟩
  incoming _ hvector := by cases hvector
  outgoing _ hsending := by cases hsending

end Results

end PacketBridge

end Whip6
