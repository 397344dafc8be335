import Whip6.Lib.Ledger
import Whip6.Lib.Runs
import Whip6.Lowpan.ForwarderMain

/-!
# The packet forwarder among its peers

The events of the forwarder, and what the components around it know from its acts: the packets that
it owns, the frames that it has allocated, the jobs of the fragmenter, the frames that it has
accepted for sending, and the frames that the lower layer sends.  `Allowed` says which events may
come, by the contracts of the interfaces: a packet is handed over by its owner only, the fragmenter
and the lower layer finish what they have started, and a task runs when it is posted.
-/

namespace Whip6

open Lib

inductive LowpanForwarderEvent
  | start (frame : Option ℕ) (rand : UInt16)
  | startForwardingIpv6Packet (packet : ℕ) (llAddr : Ieee154Addr)
  | stopForwardingIpv6Packet (packet : ℕ) (fragStatus : ErrorT)
  | processStagedPacketsTask (frame : Option ℕ) (fragToken : ℕ)
  | frameForFragmentedPacketRequested (token : ℕ)
    (answers : LowpanForwarderMain.FrameRequestAnswers)
  | frameForFragmentedPacketReleased (token frame : ℕ)
  | fragmentingIpv6PacketFinished (packet token : ℕ) (status : ErrorT)
  | processCompletedPacketsTask
  | processCompletedPacketsTaskReturn
  | startSendingFrame (frame : ℕ)
  | stopSendingFrame (frame : ℕ) (subStatus : ErrorT)
  | txTimerFired
  | processEnqueuedFramesTask (subStatus : ErrorT)
  | frameSendingFinished (frame : ℕ) (status : ErrorT) (linkIdx : UInt8)

namespace LowpanForwarderMain

def step (s : LowpanForwarderMain) :
    LowpanForwarderEvent → LowpanForwarderMain × List LowpanForwarderAct
  | .start frame rand => (s.start frame rand).2
  | .startForwardingIpv6Packet packet llAddr => (s.startForwardingIpv6Packet packet llAddr).2
  | .stopForwardingIpv6Packet packet fragStatus =>
    ((s.stopForwardingIpv6Packet packet fragStatus).2, [])
  | .processStagedPacketsTask frame fragToken => s.processStagedPacketsTask frame fragToken
  | .frameForFragmentedPacketRequested token answers =>
    (s.frameForFragmentedPacketRequested token answers).2
  | .frameForFragmentedPacketReleased token frame => s.frameForFragmentedPacketReleased token frame
  | .fragmentingIpv6PacketFinished packet token status =>
    s.fragmentingIpv6PacketFinished packet token status
  | .processCompletedPacketsTask => s.processCompletedPacketsTask
  | .processCompletedPacketsTaskReturn => (s.processCompletedPacketsTaskReturn, [])
  | .startSendingFrame frame => (s.startSendingFrame frame).2
  | .stopSendingFrame frame subStatus => (s.stopSendingFrame frame subStatus).2
  | .txTimerFired => (s.txTimerFired, [])
  | .processEnqueuedFramesTask subStatus => s.processEnqueuedFramesTask subStatus
  | .frameSendingFinished frame status linkIdx => s.frameSendingFinished frame status linkIdx

/-- The forwarder before it is started, with zeroed memory. -/
def initial (maxNumStagedPackets maxNumFragmentedPackets : UInt8)
    (elems : ℕ → LowpanIpv6PacketReadyForForwarding) (hdrs : LowpanUnpackedFrameHeaders)
    (frames : ℕ → Ieee154DframeInfo) : LowpanForwarderMain where
  isOn := false
  txBit := false
  stagedPacketQueue := lowpanPacketForwardingStagingQueueInit elems 0
  freeFrame := none
  fragmentedPackets := fun _ => ⟨none, none, none, 0, 0⟩
  bcastLowpanHdrs := hdrs
  bcastSeqNoGenerator := 0
  frameQueue := ⟨fun _ => 0, 0, 0, maxNumFragmentedPackets⟩
  frames := frames
  txTimerRunning := false
  processStagedPacketsTaskPosted := false
  processCompletedPacketsTaskPosted := false
  processEnqueuedFramesTaskPosted := false
  signaling := false
  maxNumStagedPackets := maxNumStagedPackets
  maxNumFragmentedPackets := maxNumFragmentedPackets

end LowpanForwarderMain

/-! ## What the peers know -/

namespace LowpanForwarderAct

/-- Packets are owned from when they are accepted until they are signaled. -/
def packetEntry : LowpanForwarderAct → LedgerEntry ℕ
  | started packet => .opens packet
  | forwardingIpv6PacketFinished packet _ _ => .closes packet
  | _ => .other

def frameEntry : LowpanForwarderAct → LedgerEntry ℕ
  | allocFrame frame => .opens frame
  | freeFrame frame => .closes frame
  | _ => .other

/-- Frames are being sent from when they are accepted until they are finished or stopped. -/
def sendingEntry : LowpanForwarderAct → LedgerEntry ℕ
  | frameAccepted frame => .opens frame
  | frameStopped frame => .closes frame
  | frameSendingFinished frame _ => .closes frame
  | _ => .other

/-- What the fragmenter takes part in. -/
def fragmenterAct : LowpanForwarderAct → Option FragmenterAct
  | fragmenting token packet => some (.started token packet)
  | frameProvided token frame =>
    some (.called (.frameForFragmentedPacketRequested token (some frame)))
  | frameReleased token frame => some (.called (.frameForFragmentedPacketReleased token frame))
  | fragmentingFinished token packet =>
    some (.called (.fragmentingIpv6PacketFinished (some packet) token SUCCESS))
  | _ => none

/-- Frames are in flight from when the lower layer takes them until it finishes or stops them. -/
def belowEntry : LowpanForwarderAct → LedgerEntry ℕ
  | subFrameStarted (some frame) => .opens frame
  | subFrameStopped frame => .closes frame
  | subFrameFinished frame => .closes frame
  | _ => .other

end LowpanForwarderAct

structure LowpanForwarderPeers where
  packets : List ℕ
  allocated : List ℕ
  sending : List ℕ
  jobs : FragmenterJobs
  below : List ℕ

/-- What the peers know after some acts; what may not happen is not taken note of. -/
def LowpanForwarderPeers.observe (peers : LowpanForwarderPeers) (acts : List LowpanForwarderAct) :
    LowpanForwarderPeers where
  packets := (ledger LowpanForwarderAct.packetEntry peers.packets acts).getD peers.packets
  allocated := (ledger LowpanForwarderAct.frameEntry peers.allocated acts).getD peers.allocated
  sending := (ledger LowpanForwarderAct.sendingEntry peers.sending acts).getD peers.sending
  jobs := (peers.jobs.run (acts.filterMap LowpanForwarderAct.fragmenterAct)).getD peers.jobs
  below := (ledger LowpanForwarderAct.belowEntry peers.below acts).getD peers.below

structure LowpanForwarderWorld where
  forwarder : LowpanForwarderMain
  peers : LowpanForwarderPeers

namespace LowpanForwarderWorld

def step (w : LowpanForwarderWorld) (event : LowpanForwarderEvent) :
    LowpanForwarderWorld × List LowpanForwarderAct :=
  let r := w.forwarder.step event
  (⟨r.1, w.peers.observe r.2⟩, r.2)

def initial (maxNumStagedPackets maxNumFragmentedPackets : UInt8)
    (elems : ℕ → LowpanIpv6PacketReadyForForwarding) (hdrs : LowpanUnpackedFrameHeaders)
    (frames : ℕ → Ieee154DframeInfo) : LowpanForwarderWorld :=
  ⟨.initial maxNumStagedPackets maxNumFragmentedPackets elems hdrs frames,
    ⟨[], [], [], fun _ => none, []⟩⟩

/-- The events that may come. -/
def Allowed (w : LowpanForwarderWorld) : LowpanForwarderEvent → Prop
  | .start frame _ => ∀ f, frame = some f → f ∉ w.peers.allocated
  | .startForwardingIpv6Packet packet _ => packet ∉ w.peers.packets
  | .stopForwardingIpv6Packet _ _ => True
  | .processStagedPacketsTask frame fragToken =>
    w.forwarder.processStagedPacketsTaskPosted = true ∧ w.forwarder.signaling = false ∧
      (∀ f, frame = some f → f ∉ w.peers.allocated) ∧
      (fragToken ≠ 0 → fragToken ≤ w.forwarder.maxNumFragmentedPackets.toNat ∧
        w.peers.jobs fragToken = none)
  | .frameForFragmentedPacketRequested token _ => w.peers.jobs token ≠ none
  | .frameForFragmentedPacketReleased token frame =>
    (∃ job, w.peers.jobs token = some job ∧ frame ∈ job.held) ∧ frame ∉ w.peers.sending
  | .fragmentingIpv6PacketFinished packet token _ => w.peers.jobs token = some ⟨packet, 0⟩
  | .processCompletedPacketsTask =>
    w.forwarder.processCompletedPacketsTaskPosted = true ∧ w.forwarder.signaling = false
  | .processCompletedPacketsTaskReturn => w.forwarder.signaling = true
  | .startSendingFrame frame =>
    (∃ token job, w.peers.jobs token = some job ∧ frame ∈ job.held) ∧ frame ∉ w.peers.sending
  | .stopSendingFrame frame subStatus => frame ∉ w.peers.below → subStatus ≠ SUCCESS
  | .txTimerFired => w.forwarder.txTimerRunning = true
  | .processEnqueuedFramesTask _ =>
    w.forwarder.processEnqueuedFramesTaskPosted = true ∧ w.forwarder.signaling = false
  | .frameSendingFinished frame _ _ => frame ∈ w.peers.below

end LowpanForwarderWorld

end Whip6
