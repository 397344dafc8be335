import Whip6.Lowpan.FragmenterJobs
import Whip6.Lowpan.FrameQueue
import Whip6.Lowpan.LinkTable
import Whip6.Lowpan.PacketForwarding

/-!
# The component of the packet forwarder

Packets that are to be forwarded wait in the staging queue.  Those that are being fragmented have an
entry in an array, under the token of the fragmenter; an entry has a frame that is free for the
fragmenter, or one that the fragmenter uses.  The component intercepts the frames of the fragmenter:
it queues them and has the lower layer send them, one at a time and at the pace of a timer.  What it
is answered by the other components is a parameter of the events.  The task that signals completed
packets is cut in two where it signals, so that clients may call from within the signal.
-/

namespace Whip6

open Lib
open scoped AddrByte

def FRAGMENTED_PACKET_FLAG_BROADCAST : UInt8 := 0x40

def ieee154AddrAnyIsBroadcast (addr : Ieee154Addr) : Bool :=
  match addr with
  | .shrt addr => addr.get 0 == 0xff && addr.get 1 == 0xff
  | _ => false

/-- An entry of the array of the packets that are being fragmented. -/
structure LowpanIpv6PacketBeingForwarded where
  stagingQueueElem : Option ℕ
  freeFrame : Option ℕ
  usedFrame : Option ℕ
  flags : UInt8
  numRetransmissionsRemaining : UInt8
  deriving DecidableEq, Repr

structure LowpanForwarderMain where
  isOn : Bool
  txBit : Bool
  stagedPacketQueue : LowpanIpv6PacketReadyForForwardingQueue
  freeFrame : Option ℕ
  fragmentedPackets : ℕ → LowpanIpv6PacketBeingForwarded
  bcastLowpanHdrs : LowpanUnpackedFrameHeaders
  bcastSeqNoGenerator : UInt8
  frameQueue : FrameQueue
  /-- The frames that the pointers lead to. -/
  frames : ℕ → Ieee154DframeInfo
  txTimerRunning : Bool
  processStagedPacketsTaskPosted : Bool
  processCompletedPacketsTaskPosted : Bool
  processEnqueuedFramesTaskPosted : Bool
  /-- The task that signals completed packets is in its signal. -/
  signaling : Bool
  maxNumStagedPackets : UInt8
  maxNumFragmentedPackets : UInt8

/-- What the component does that the other components, or its clients, see. -/
inductive LowpanForwarderAct
  | started (packet : ℕ)
  | forwardingIpv6PacketFinished (packet : ℕ) (llAddr : Ieee154Addr) (status : ErrorT)
  | allocFrame (frame : ℕ)
  | freeFrame (frame : ℕ)
  | fragmenting (token packet : ℕ)
  | frameProvided (token frame : ℕ)
  | frameReleased (token frame : ℕ)
  | fragmentingFinished (token packet : ℕ)
  | frameAccepted (frame : ℕ)
  | frameStopped (frame : ℕ)
  | frameSendingFinished (frame : ℕ) (status : ErrorT)
  | subFrameStarted (frame : Option ℕ)
  | subFrameStopped (frame : ℕ)
  | subFrameFinished (frame : ℕ)
  | reportUnicast (linkIdx : UInt8) (acknowledged : Bool)
  deriving DecidableEq, Repr

namespace LowpanForwarderMain

@[simps] def setFragmentedPacket (s : LowpanForwarderMain) (i : ℕ)
    (fragPkt : LowpanIpv6PacketBeingForwarded) : LowpanForwarderMain :=
  { s with fragmentedPackets := Function.update s.fragmentedPackets i fragPkt }

/-- The packet of an element of the staging queue. -/
def packetOf (s : LowpanForwarderMain) (elem : ℕ) : ℕ := (s.stagedPacketQueue.elems elem).packet

/-- The link-layer address of an element of the staging queue. -/
def addrOf (s : LowpanForwarderMain) (elem : ℕ) : Ieee154Addr :=
  (s.stagedPacketQueue.elems elem).addr

/-! ## Starting and forwarding -/

/-- Start, with the frame that was allocated and a random number. -/
def start (s : LowpanForwarderMain) (frame : Option ℕ) (rand : UInt16) :
    ErrorT × LowpanForwarderMain × List LowpanForwarderAct :=
  if s.isOn then (EALREADY, s, [])
  else
    let s := { s with
      stagedPacketQueue := lowpanPacketForwardingStagingQueueInit s.stagedPacketQueue.elems
        s.maxNumStagedPackets
      freeFrame := frame }
    match frame with
    | none => (ENOMEM, s, [])
    | some frame =>
      (SUCCESS,
        { s with
          fragmentedPackets := fun i =>
            if i < s.maxNumFragmentedPackets.toNat then
              { s.fragmentedPackets i with stagingQueueElem := none }
            else s.fragmentedPackets i
          bcastSeqNoGenerator := (rand >>> 8).toUInt8
          frameQueue := { s.frameQueue with frameQueueFirstIdx := 0, frameQueueCount := 0 }
          txBit := false
          isOn := true },
        [.allocFrame frame])

def startForwardingIpv6Packet (s : LowpanForwarderMain) (packet : ℕ) (llAddr : Ieee154Addr) :
    ErrorT × LowpanForwarderMain × List LowpanForwarderAct :=
  if ! s.isOn then (EOFF, s, [])
  else
    match lowpanPacketForwardingStagingQueueEnqueuePacket s.stagedPacketQueue packet llAddr with
    | (none, _) => (ENOMEM, s, [])
    | (some _, queue) =>
      (SUCCESS, { s with stagedPacketQueue := queue, processStagedPacketsTaskPosted := true },
        [.started packet])

/-- The entry of a staged element itself or of one with the same link-layer address. -/
def findFragmentedPacketWithSameLinkLayerAddrAsStagedPacket (s : LowpanForwarderMain)
    (stagingQueueElem : ℕ) : Option ℕ :=
  (List.range s.maxNumFragmentedPackets.toNat).find? fun i =>
    match (s.fragmentedPackets i).stagingQueueElem with
    | none => false
    | some elem =>
      elem == stagingQueueElem ||
        ieee154AddrAnyCmp (s.addrOf stagingQueueElem) (s.addrOf elem) == 0

/-- Try to start fragmenting a staged packet.  The answers are a frame, if one has to be allocated,
and the token of the fragmenter. -/
def tryToStartForwardingStagedPacket (s : LowpanForwarderMain) (stagingQueueElem : ℕ)
    (frame : Option ℕ) (fragToken : ℕ) : Bool × LowpanForwarderMain × List LowpanForwarderAct :=
  let r : LowpanForwarderMain × List LowpanForwarderAct :=
    match s.freeFrame, frame with
    | none, some frame => ({ s with freeFrame := some frame }, [.allocFrame frame])
    | _, _ => (s, [])
  let s := r.1
  if s.freeFrame = none then (false, s, r.2)
  else
    let bcastAddr := ieee154AddrAnyIsBroadcast (s.addrOf stagingQueueElem)
    if fragToken = 0 then (false, s, r.2)
    else
      (true,
        { s.setFragmentedPacket (fragToken - 1)
          { stagingQueueElem := some stagingQueueElem
            freeFrame := s.freeFrame
            usedFrame := none
            flags := if bcastAddr then FRAGMENTED_PACKET_FLAG_BROADCAST else 0
            numRetransmissionsRemaining := 0 } with
          freeFrame := none },
        r.2 ++ [.fragmenting fragToken (s.packetOf stagingQueueElem)])

/-- The first staged element without an entry for it or for its address. -/
def stagedElemToStart (s : LowpanForwarderMain) : Option ℕ :=
  (findFrom s.stagedPacketQueue.next
    (fun elem => (s.findFragmentedPacketWithSameLinkLayerAddrAsStagedPacket elem).isNone)
    s.stagedPacketQueue.poolLen none s.stagedPacketQueue.stagedQueueFirst).2

def processStagedPacketsTask (s : LowpanForwarderMain) (frame : Option ℕ) (fragToken : ℕ) :
    LowpanForwarderMain × List LowpanForwarderAct :=
  let s := { s with processStagedPacketsTaskPosted := false }
  match s.stagedElemToStart with
  | none => (s, [])
  | some elem =>
    match s.tryToStartForwardingStagedPacket elem frame fragToken with
    | (true, s, acts) => ({ s with processStagedPacketsTaskPosted := true }, acts)
    | (false, s, acts) => (s, acts)

/-! ## The fragmenter -/

/-- What the forwarder asks for to prepare a frame: the addresses of the node, a sequence number and
the number of retransmissions. -/
structure FrameRequestAnswers where
  addr : Ieee154Addr
  panId : Ieee154PanId
  seqNo : UInt8
  maxFrameRetransmissionAttempts : UInt8
  deriving DecidableEq, Repr

def frameForFragmentedPacketRequested (s : LowpanForwarderMain) (token : ℕ)
    (answers : FrameRequestAnswers) :
    Option ℕ × LowpanForwarderMain × List LowpanForwarderAct :=
  let i := token - 1
  let fragPkt := s.fragmentedPackets i
  match fragPkt.freeFrame, fragPkt.stagingQueueElem with
  | some frame, some stagingQueueElem =>
    let r := ieee154DFrameInfoReinitializeFrameForAddresses (s.frames frame)
      (s.addrOf stagingQueueElem) answers.addr answers.panId none
    let s := { s with frames := Function.update s.frames frame r.2 }
    if r.1 ≠ .noError then (none, s, [])
    else
      let s := { s with
        frames := Function.update s.frames frame (ieee154DFrameSetSeqNo r.2 answers.seqNo) }
      let fragPkt := { fragPkt with freeFrame := none, usedFrame := some frame }
      if fragPkt.flags &&& FRAGMENTED_PACKET_FLAG_BROADCAST ≠ 0 then
        (some frame,
          { s.setFragmentedPacket i { fragPkt with numRetransmissionsRemaining := 0 } with
            bcastLowpanHdrs := lowpanFrameHeadersAddBc0Header
              (lowpanFrameHeadersNew s.bcastLowpanHdrs) s.bcastSeqNoGenerator },
          [.frameProvided token frame])
      else
        (some frame,
          s.setFragmentedPacket i
            { fragPkt with numRetransmissionsRemaining := answers.maxFrameRetransmissionAttempts },
          [.frameProvided token frame])
  | _, _ => (none, s, [])

def frameForFragmentedPacketReleased (s : LowpanForwarderMain) (token framePtr : ℕ) :
    LowpanForwarderMain × List LowpanForwarderAct :=
  let i := token - 1
  let fragPkt := { s.fragmentedPackets i with usedFrame := none }
  match fragPkt.freeFrame with
  | some _ => (s.setFragmentedPacket i fragPkt, [.frameReleased token framePtr, .freeFrame framePtr])
  | none =>
    (s.setFragmentedPacket i { fragPkt with freeFrame := some framePtr },
      [.frameReleased token framePtr])

/-- Complete a staged packet; it is not being fragmented. -/
def stopForwardingNonfragmentedPacket (s : LowpanForwarderMain) (packet : ℕ) (status : ErrorT) :
    ErrorT × LowpanForwarderMain :=
  match lowpanPacketForwardingStagingQueueFindStagedPacket s.stagedPacketQueue packet with
  | (prev, some curr) =>
    (SUCCESS,
      { s with
        stagedPacketQueue := lowpanPacketForwardingStagingQueueMarkPacketAsCompleted
          (s.stagedPacketQueue.setStatus curr status) prev curr
        processCompletedPacketsTaskPosted := true })
  | (_, none) =>
    match (lowpanPacketForwardingStagingQueueFindCompletedPacket s.stagedPacketQueue packet).2 with
    | some _ => (EALREADY, s)
    | none => (EINVAL, s)

def fragmentingIpv6PacketFinished (s : LowpanForwarderMain) (packet token : ℕ) (status : ErrorT) :
    LowpanForwarderMain × List LowpanForwarderAct :=
  let i := token - 1
  let fragPkt := s.fragmentedPackets i
  let r : LowpanForwarderMain × List LowpanForwarderAct :=
    match fragPkt.freeFrame, s.freeFrame with
    | some framePtr, none => ({ s with freeFrame := some framePtr }, [])
    | some framePtr, some _ => (s, [.freeFrame framePtr])
    | none, _ => (s, [])
  let s := r.1.setFragmentedPacket i { fragPkt with freeFrame := none, stagingQueueElem := none }
  ((s.stopForwardingNonfragmentedPacket packet status).2, .fragmentingFinished token packet :: r.2)

/-- The entry of a packet that is being fragmented. -/
def findFragmentedPacket (s : LowpanForwarderMain) (packet : ℕ) : Option ℕ :=
  (List.range s.maxNumFragmentedPackets.toNat).find? fun i =>
    match (s.fragmentedPackets i).stagingQueueElem with
    | none => false
    | some elem => s.packetOf elem == packet

/-- Stop forwarding a packet; `fragStatus` is what stopping to fragment it returns. -/
def stopForwardingIpv6Packet (s : LowpanForwarderMain) (packet : ℕ) (fragStatus : ErrorT) :
    ErrorT × LowpanForwarderMain :=
  match s.findFragmentedPacket packet with
  | some _ => (fragStatus, s)
  | none => s.stopForwardingNonfragmentedPacket packet ECANCEL

/-! ## Completed packets -/

/-- The first half of the task: signal the first completed packet. -/
def processCompletedPacketsTask (s : LowpanForwarderMain) :
    LowpanForwarderMain × List LowpanForwarderAct :=
  let s := { s with processCompletedPacketsTaskPosted := false }
  match s.stagedPacketQueue.completedQueueFirst with
  | none => (s, [])
  | some firstStagingQueueElem =>
    let elem := s.stagedPacketQueue.elems firstStagingQueueElem
    ({ s with processCompletedPacketsTaskPosted := true, signaling := true },
      [.forwardingIpv6PacketFinished elem.packet elem.addr elem.status])

/-- The second half: remove it from the queue. -/
def processCompletedPacketsTaskReturn (s : LowpanForwarderMain) : LowpanForwarderMain :=
  { s with
    stagedPacketQueue :=
      lowpanPacketForwardingStagingQueueRemoveFirstCompletedPacket s.stagedPacketQueue
    signaling := false }

/-! ## Frames -/

/-- The entry in which a frame is used; the number of entries if there is none. -/
def findIndexOfFragmentedPacketWithGivenUsedFrame (s : LowpanForwarderMain) (framePtr : ℕ) :
    UInt8 :=
  match (List.range s.maxNumFragmentedPackets.toNat).find? fun i =>
    (s.fragmentedPackets i).stagingQueueElem.isSome &&
      (s.fragmentedPackets i).usedFrame == some framePtr with
  | some i => UInt8.ofNat i
  | none => s.maxNumFragmentedPackets

def startSendingFrame (s : LowpanForwarderMain) (framePtr : ℕ) :
    ErrorT × LowpanForwarderMain × List LowpanForwarderAct :=
  match s.frameQueue.addFwdPacketIdxAsLastInFrameQueue
    (s.findIndexOfFragmentedPacketWithGivenUsedFrame framePtr) with
  | (false, _) => (ENOMEM, s, [])
  | (true, frameQueue) =>
    let s := { s with frameQueue := frameQueue }
    let s := if ! s.txTimerRunning && ! s.txBit then { s with txTimerRunning := true } else s
    (SUCCESS, s, [.frameAccepted framePtr])

/-- Stop sending a frame; `subStatus` is what the lower layer returns, if it is asked. -/
def stopSendingFrame (s : LowpanForwarderMain) (framePtr : ℕ) (subStatus : ErrorT) :
    ErrorT × LowpanForwarderMain × List LowpanForwarderAct :=
  let fwdPacketIdx := s.findIndexOfFragmentedPacketWithGivenUsedFrame framePtr
  if fwdPacketIdx = s.maxNumFragmentedPackets then (EINVAL, s, [])
  else
    let frameQueueIdx := s.frameQueue.findForwardedFrameWithGivenPacketIndex fwdPacketIdx
    if frameQueueIdx = s.frameQueue.maxFrameQueueSize then (EINVAL, s, [])
    else if frameQueueIdx = 0 ∧ subStatus ≠ SUCCESS then (subStatus, s, [])
    else
      (SUCCESS,
        { s with frameQueue := s.frameQueue.removeIthFwdPacketIndxFromFrameQueue frameQueueIdx },
        (if frameQueueIdx = 0 then [.subFrameStopped framePtr] else []) ++
          [.frameStopped framePtr])

def txTimerFired (s : LowpanForwarderMain) : LowpanForwarderMain :=
  { s with txTimerRunning := false, processEnqueuedFramesTaskPosted := true }

/-- Send the first frame of the queue; `subStatus` is what the lower layer returns. -/
def processEnqueuedFramesTask (s : LowpanForwarderMain) (subStatus : ErrorT) :
    LowpanForwarderMain × List LowpanForwarderAct :=
  let s := { s with processEnqueuedFramesTaskPosted := false }
  if s.txBit ∨ s.frameQueue.frameQueueCount = 0 then (s, [])
  else
    let fwdPacketIdx := s.frameQueue.frameQueueArray s.frameQueue.frameQueueFirstIdx.toNat
    let fwdPacket := s.fragmentedPackets fwdPacketIdx.toNat
    if subStatus ≠ SUCCESS then
      let frameQueue := s.frameQueue.removeFirstFwdPacketIndxFromFrameQueue
      let s := { s with frameQueue := frameQueue, txTimerRunning := true }
      if fwdPacket.numRetransmissionsRemaining > 0 then
        ({ s.setFragmentedPacket fwdPacketIdx.toNat
            { fwdPacket with
              numRetransmissionsRemaining := fwdPacket.numRetransmissionsRemaining - 1 } with
            frameQueue := (frameQueue.addFwdPacketIdxAsLastInFrameQueue fwdPacketIdx).2 }, [])
      else
        (s, fwdPacket.usedFrame.toList.map (.frameSendingFinished · subStatus))
    else ({ s with txBit := true }, [.subFrameStarted fwdPacket.usedFrame])

/-- Report to the link table; `linkIdx` is the link that it finds for the address. -/
def updateLinkTableAfterTransmittingUnicastFrameForForwardedPacket (status : ErrorT)
    (linkIdx : UInt8) : List LowpanForwarderAct :=
  if linkIdx = WHIP6_6LOWPAN_INVALID_LINK_IDX then []
  else if status = SUCCESS then [.reportUnicast linkIdx true]
  else if status = ENOACK then [.reportUnicast linkIdx false]
  else []

def frameSendingFinished (s : LowpanForwarderMain) (framePtr : ℕ) (status : ErrorT)
    (linkIdx : UInt8) : LowpanForwarderMain × List LowpanForwarderAct :=
  let fwdPacketIdx := s.frameQueue.frameQueueArray s.frameQueue.frameQueueFirstIdx.toNat
  let fwdPacket := s.fragmentedPackets fwdPacketIdx.toNat
  let isBroadcast : Bool := fwdPacket.flags &&& FRAGMENTED_PACKET_FLAG_BROADCAST != 0
  let s := { s with txBit := false }
  let s := if isBroadcast then { s with bcastSeqNoGenerator := s.bcastSeqNoGenerator + 1 } else s
  let reports := if isBroadcast then []
    else updateLinkTableAfterTransmittingUnicastFrameForForwardedPacket status linkIdx
  let frameQueue := s.frameQueue.removeFirstFwdPacketIndxFromFrameQueue
  let s := { s with frameQueue := frameQueue, txTimerRunning := true }
  if status = SUCCESS then
    (s, .subFrameFinished framePtr :: reports ++ [.frameSendingFinished framePtr SUCCESS])
  else if fwdPacket.numRetransmissionsRemaining = 0 ∨ isBroadcast then
    (s, .subFrameFinished framePtr :: reports ++ [.frameSendingFinished framePtr status])
  else
    ({ s.setFragmentedPacket fwdPacketIdx.toNat
        { fwdPacket with
          numRetransmissionsRemaining := fwdPacket.numRetransmissionsRemaining - 1 } with
        frameQueue := (frameQueue.addFwdPacketIdxAsLastInFrameQueue fwdPacketIdx).2 },
      .subFrameFinished framePtr :: reports)

end LowpanForwarderMain

end Whip6
