import Whip6.Base.Queue
import Whip6.Ieee154.FrameCodec
import Whip6.Lib.Ledger
import Whip6.Lib.Runs
import Whip6.Lowpan.Header

/-!
# Software acknowledgements

The decorator of a frame sender that waits, after a unicast frame was transmitted, for a frame that
acknowledges its sequence number, and that sends such frames itself for the frames that it receives.
One frame of the client and one acknowledgement may be outgoing at a time; a frame that is accepted
while an acknowledgement is in flight below is passed down when the acknowledgement has finished.
-/

namespace Whip6

open Lib

/-! ## Acknowledgement frames -/

def LOWPAN_DISPATCH_PATTERN_NALP : UInt8 := 0x00

def LOWPAN_DISPATCH_MASK_NALP : UInt8 := 0xc0

def WHIP6_LOWPAN_NALP_EXTENSION_ID_SOFTWARE_ACK : UInt8 := 0xc4

/-- The number of bytes of the payload of an acknowledgement: the dispatch, the identifier of the
extension and the sequence number. -/
def SOFTWARE_ACK_PAYLOAD_LEN : UInt8 := 3

def ieee154DFrameInfoCheckIfDestinationIsBroadcast (frame : Ieee154DframeInfo) : Bool :=
  if ieee154DFrameGetModeDstAddr frame ≠ IEEE154_ADDR_MODE_SHORT then false
  else
    let ptr := ieee154DFrameGetOffsetDstAddr frame
    (frame.bufferPtr.getD ptr 0 - 0xff) ||| (frame.bufferPtr.getD (ptr + 1) 0 - 0xff) == 0

/-- Make a frame one back to the sender of another frame.  On a failure the frame is not used. -/
def ieee154DFrameInfoReinitializeFrameInOppositeDirection (outFrame inFrame : Ieee154DframeInfo) :
    Option Ieee154DframeInfo :=
  if outFrame.bufferPtr = [] ∨ outFrame.bufferLen.toNat < (inFrame.payloadAndDstAddrOff >>> 3).toNat +
      (IEEE154_DFRAME_INITIAL_OFFSET + IEEE154_DFRAME_CRC_SIZE).toNat then none
  else
    let inPtr := inFrame.bufferPtr
    let interPan := ieee154DFrameIsInterPan inFrame
    let dstPan := (inPtr.drop (if interPan then ieee154DFrameGetOffsetSrcPanId inFrame
      else ieee154DFrameGetOffsetDstPanId inFrame)).take 2
    let srcPan := if interPan then (inPtr.drop (ieee154DFrameGetOffsetDstPanId inFrame)).take 2 else []
    match ieee154AddrModeLen (ieee154DFrameGetModeSrcAddr inFrame),
      ieee154AddrModeLen (ieee154DFrameGetModeDstAddr inFrame) with
    | some dstLen, some srcLen =>
      let dst := (inPtr.drop (ieee154DFrameGetOffsetSrcAddr inFrame)).take dstLen
      let src := (inPtr.drop (ieee154DFrameGetOffsetDstAddr inFrame)).take srcLen
      let bytes := dstPan ++ dst ++ srcPan ++ src
      let srcPanOff := UInt8.ofNat (2 + dstLen)
      let srcOff := srcPanOff + UInt8.ofNat srcPan.length
      some
        { bufferPtr := ((shortMemCpy bytes outFrame.bufferPtr IEEE154_DFRAME_INITIAL_OFFSET.toNat
              bytes.length).set 1 (inPtr.getD 1 0)).set 2
                ((inPtr.getD 2 0 >>> 4) ||| (inPtr.getD 2 0 <<< 4))
          bufferLen := outFrame.bufferLen
          frameFlags := (if interPan then IEEE154_DFRAME_INFO_FLAG_INTER_PAN else 0) |||
            ieee154DFrameGetModeSrcAddr inFrame ||| (ieee154DFrameGetModeDstAddr inFrame <<< 2)
          payloadAndDstAddrOff := (2 : UInt8) ||| ((srcOff + UInt8.ofNat srcLen) <<< 3)
          srcPanAndAddrOff := (srcPanOff <<< 4) ||| (srcOff &&& (0x0f : UInt8)) }
    | _, _ => none

/-- The sequence number that a frame acknowledges, if it is an acknowledgement. -/
def lowpanNalpExtSoftwareAcknowledgmentIsAckFrame (inFrame : Ieee154DframeInfo) : Option UInt8 :=
  if ieee154DFrameGetPayloadLen inFrame = SOFTWARE_ACK_PAYLOAD_LEN then
    let saPayloadPtr := ieee154DFrameUnsafeGetPayloadPtr inFrame
    if saPayloadPtr.getD 0 0 &&& LOWPAN_DISPATCH_MASK_NALP = LOWPAN_DISPATCH_PATTERN_NALP ∧
        saPayloadPtr.getD 1 0 = WHIP6_LOWPAN_NALP_EXTENSION_ID_SOFTWARE_ACK then
      some (saPayloadPtr.getD 2 0)
    else none
  else none

/-- Make a frame an acknowledgement of another one.  On a failure the frame is not used. -/
def lowpanNalpExtSoftwareAcknowledgmentCreateAckFrame (ackFrame inFrame : Ieee154DframeInfo) :
    Option Ieee154DframeInfo :=
  if ieee154DFrameInfoCheckIfDestinationIsBroadcast inFrame then none
  else
    match ieee154DFrameInfoReinitializeFrameInOppositeDirection ackFrame inFrame with
    | none => none
    | some ackFrame =>
      if SOFTWARE_ACK_PAYLOAD_LEN.toNat + ieee154DFrameGetOffsetPayload ackFrame +
          IEEE154_DFRAME_CRC_SIZE.toNat > ackFrame.bufferLen.toNat then none
      else
        let payload := shortMemCpy [LOWPAN_DISPATCH_PATTERN_NALP,
          WHIP6_LOWPAN_NALP_EXTENSION_ID_SOFTWARE_ACK, ieee154DFrameGetSeqNo inFrame]
          (ieee154DFrameUnsafeGetPayloadPtr ackFrame) 0 SOFTWARE_ACK_PAYLOAD_LEN.toNat
        some (ieee154DFrameSetPayloadLen (ackFrame.setPayload payload) SOFTWARE_ACK_PAYLOAD_LEN)

/-! ## The component -/

structure LowpanAckDecorator where
  outgoingUserFrame : Option ℕ
  outgoingAckFrame : Option ℕ
  acknowledgmentReceivedBit : Bool
  acknowledgmentMissedBit : Bool
  transmissionFinishedBit : Bool
  timeoutTimerRunning : Bool
  /-- The frames that the pointers lead to. -/
  frames : ℕ → Ieee154DframeInfo

/-- What happens at the interfaces of the component. -/
inductive LowpanAckDecoratorAct
  | accepted (framePtr : ℕ)
  | stopped (framePtr : ℕ)
  | frameSendingFinished (framePtr : ℕ) (status : ErrorT)
  | subStarted (framePtr : ℕ) (frame : Ieee154DframeInfo)
  | subStopped (framePtr : ℕ)
  | subFinished (framePtr : ℕ) (status : ErrorT)
  | ackReceived (seqNo : UInt8)
  | allocFrame (framePtr : ℕ)
  | freeFrame (framePtr : ℕ)
  | frameReceivingFinished (framePtr : ℕ) (status : ErrorT)
  deriving DecidableEq

/-- What the component is answered while it handles a received frame: the frame that is allocated
for an acknowledgement, its sequence number, and whether it can be sent; or whether the frame that
was received can be used for receiving again. -/
structure LowpanAckAnswers where
  allocated : Option ℕ
  seqNo : UInt8
  startSending : ErrorT
  startReceiving : ErrorT

inductive LowpanAckDecoratorEvent
  | startSendingFrame (framePtr : ℕ) (frame : Ieee154DframeInfo) (subStatus : ErrorT)
  | stopSendingFrame (framePtr : ℕ) (subStatus : ErrorT)
  | subFrameSendingFinished (framePtr : ℕ) (status subStatus : ErrorT)
  | timeoutTimerFired
  | frameReceivingFinished (framePtr : ℕ) (frame : Ieee154DframeInfo) (status : ErrorT)
    (answers : LowpanAckAnswers)

namespace LowpanAckDecorator

/-- Pass the frame of the client down. -/
def startSendingUserFrame (s : LowpanAckDecorator) (framePtr : ℕ) (subStatus : ErrorT) :
    ErrorT × LowpanAckDecorator × List LowpanAckDecoratorAct :=
  if subStatus ≠ SUCCESS then (subStatus, { s with outgoingUserFrame := none }, [])
  else
    let s := if ieee154DFrameInfoCheckIfDestinationIsBroadcast (s.frames framePtr) then
        { s with acknowledgmentReceivedBit := true }
      else { s with timeoutTimerRunning := true, acknowledgmentReceivedBit := false }
    (SUCCESS, { s with acknowledgmentMissedBit := false, transmissionFinishedBit := false },
      [.subStarted framePtr (s.frames framePtr)])

/-- The client starts sending a frame that it has written. -/
def startSendingFrame (s : LowpanAckDecorator) (framePtr : ℕ) (frame : Ieee154DframeInfo)
    (subStatus : ErrorT) : ErrorT × LowpanAckDecorator × List LowpanAckDecoratorAct :=
  let s := { s with frames := Function.update s.frames framePtr frame }
  if s.outgoingUserFrame ≠ none then (EBUSY, s, [])
  else
    let s := { s with outgoingUserFrame := some framePtr }
    if s.outgoingAckFrame ≠ none then (SUCCESS, s, [.accepted framePtr])
    else
      let r := s.startSendingUserFrame framePtr subStatus
      (r.1, r.2.1, if r.1 = SUCCESS then .accepted framePtr :: r.2.2 else r.2.2)

def stopSendingFrame (s : LowpanAckDecorator) (framePtr : ℕ) (subStatus : ErrorT) :
    ErrorT × LowpanAckDecorator × List LowpanAckDecoratorAct :=
  let stopped := { s with timeoutTimerRunning := false, outgoingUserFrame := none }
  if s.outgoingUserFrame ≠ some framePtr then (EINVAL, s, [])
  else if s.outgoingAckFrame ≠ none then (SUCCESS, stopped, [.stopped framePtr])
  else if s.transmissionFinishedBit then (SUCCESS, stopped, [.stopped framePtr])
  else if subStatus ≠ SUCCESS then (subStatus, s, [])
  else (SUCCESS, stopped, [.subStopped framePtr, .stopped framePtr])

def finishSendingFrame (s : LowpanAckDecorator) (status : ErrorT) :
    LowpanAckDecorator × List LowpanAckDecoratorAct :=
  ({ s with timeoutTimerRunning := false, outgoingUserFrame := none },
    s.outgoingUserFrame.toList.map (.frameSendingFinished · status))

/-- The lower layer has finished a frame.  `subStatus` is what it returns if the frame of the client
is passed down then. -/
def subFrameSendingFinished (s : LowpanAckDecorator) (framePtr : ℕ) (status subStatus : ErrorT) :
    LowpanAckDecorator × List LowpanAckDecoratorAct :=
  if s.outgoingUserFrame = some framePtr then
    let s := { s with transmissionFinishedBit := true }
    let r : LowpanAckDecorator × List LowpanAckDecoratorAct :=
      if status ≠ SUCCESS ∧ status ≠ ENOACK then s.finishSendingFrame status
      else if s.acknowledgmentReceivedBit then s.finishSendingFrame SUCCESS
      else if s.acknowledgmentMissedBit then s.finishSendingFrame ENOACK
      else (s, [])
    (r.1, .subFinished framePtr status :: r.2)
  else if s.outgoingAckFrame = some framePtr then
    let s := { s with outgoingAckFrame := none }
    let acts := [.subFinished framePtr status, .freeFrame framePtr]
    match s.outgoingUserFrame with
    | none => (s, acts)
    | some userFrame =>
      let r := s.startSendingUserFrame userFrame subStatus
      (r.2.1, acts ++ (if r.1 ≠ SUCCESS then [.frameSendingFinished userFrame r.1] else r.2.2))
  else (s, [.subFinished framePtr status])

def timeoutTimerFired (s : LowpanAckDecorator) : LowpanAckDecorator × List LowpanAckDecoratorAct :=
  let s := { s with timeoutTimerRunning := false }
  if s.outgoingUserFrame = none then (s, [])
  else
    let s := { s with acknowledgmentMissedBit := true }
    if s.transmissionFinishedBit then s.finishSendingFrame ENOACK else (s, [])

def handleReceivedAckFrame (s : LowpanAckDecorator) (framePtr : ℕ) (ackedFrameSeqNo : UInt8)
    (answers : LowpanAckAnswers) : LowpanAckDecorator × List LowpanAckDecoratorAct :=
  let r : LowpanAckDecorator × List LowpanAckDecoratorAct :=
    match s.outgoingUserFrame with
    | none => (s, [])
    | some userFrame =>
      if ieee154DFrameGetSeqNo (s.frames userFrame) = ackedFrameSeqNo then
        let s := { s with acknowledgmentReceivedBit := true, timeoutTimerRunning := false }
        if s.transmissionFinishedBit then s.finishSendingFrame SUCCESS else (s, [])
      else (s, [])
  (r.1, .ackReceived ackedFrameSeqNo :: r.2 ++
    (if answers.startReceiving ≠ SUCCESS then [.frameReceivingFinished framePtr FAIL] else []))

def handleReceivedRegularFrame (s : LowpanAckDecorator) (framePtr : ℕ)
    (answers : LowpanAckAnswers) : LowpanAckDecorator × List LowpanAckDecoratorAct :=
  let r : LowpanAckDecorator × List LowpanAckDecoratorAct :=
    if s.outgoingUserFrame = none ∧ s.outgoingAckFrame = none then
      match answers.allocated with
      | none => (s, [])
      | some ackFrame =>
        match lowpanNalpExtSoftwareAcknowledgmentCreateAckFrame (s.frames ackFrame)
            (s.frames framePtr) with
        | none => (s, [.allocFrame ackFrame, .freeFrame ackFrame])
        | some frame =>
          let frame := ieee154DFrameSetSeqNo frame answers.seqNo
          let s := { s with frames := Function.update s.frames ackFrame frame }
          if answers.startSending ≠ SUCCESS then (s, [.allocFrame ackFrame, .freeFrame ackFrame])
          else
            ({ s with outgoingAckFrame := some ackFrame },
              [.allocFrame ackFrame, .subStarted ackFrame frame])
    else (s, [])
  (r.1, r.2 ++ [.frameReceivingFinished framePtr SUCCESS])

/-- A frame was received into a buffer. -/
def frameReceivingFinished (s : LowpanAckDecorator) (framePtr : ℕ) (frame : Ieee154DframeInfo)
    (status : ErrorT) (answers : LowpanAckAnswers) :
    LowpanAckDecorator × List LowpanAckDecoratorAct :=
  let s := { s with frames := Function.update s.frames framePtr frame }
  if status = SUCCESS then
    match lowpanNalpExtSoftwareAcknowledgmentIsAckFrame frame with
    | some ackedFrameSeqNo => s.handleReceivedAckFrame framePtr ackedFrameSeqNo answers
    | none => s.handleReceivedRegularFrame framePtr answers
  else (s, [.frameReceivingFinished framePtr status])

def step (s : LowpanAckDecorator) :
    LowpanAckDecoratorEvent → LowpanAckDecorator × List LowpanAckDecoratorAct
  | .startSendingFrame framePtr frame subStatus =>
    (s.startSendingFrame framePtr frame subStatus).2
  | .stopSendingFrame framePtr subStatus => (s.stopSendingFrame framePtr subStatus).2
  | .subFrameSendingFinished framePtr status subStatus =>
    s.subFrameSendingFinished framePtr status subStatus
  | .timeoutTimerFired => s.timeoutTimerFired
  | .frameReceivingFinished framePtr frame status answers =>
    s.frameReceivingFinished framePtr frame status answers

/-- The component before anything has happened. -/
def initial (frames : ℕ → Ieee154DframeInfo) : LowpanAckDecorator where
  outgoingUserFrame := none
  outgoingAckFrame := none
  acknowledgmentReceivedBit := false
  acknowledgmentMissedBit := false
  transmissionFinishedBit := false
  timeoutTimerRunning := false
  frames := frames

end LowpanAckDecorator

end Whip6
