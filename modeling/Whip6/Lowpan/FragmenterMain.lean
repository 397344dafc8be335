import Whip6.Lowpan.Fragmenter
import Whip6.Base.Queue

/-!
# The component of the fragmenter

Packets that are being fragmented are known by tokens, numbered from 0 here and from 1 outside.  A
token has a frame that is ready for sending, a frame that is being sent, and flags; tokens that have
something to do wait in a queue of jobs, which one task works off.  The component asks the layer
above for frames and gives them back, and has the layer below send them: what it is answered is a
parameter of the task, and the task returns its calls in the order in which it made them.
-/

namespace Whip6

open Lib

def TOKEN_FLAG_FAILED : UInt8 := 0x20

def TOKEN_FLAG_CANCELED : UInt8 := 0x40

def TOKEN_FLAG_PROCESSED : UInt8 := 0x80

/-- The memory that the pointers lead to. -/
structure LowpanFragmenterMemory where
  packets : ℕ → Ipv6Packet
  lowpanHdrs : ℕ → LowpanUnpackedFrameHeaders
  frames : ℕ → Ieee154DframeInfo

/-- The number of the headers that are used when none are given. -/
def lowpanDefault6LoWPANHeaders : ℕ := 0

structure LowpanFragmenterMain where
  isOn : Bool
  state : LowpanFragGlobalState
  tokenPtrs : ℕ → Option ℕ
  tokenReadyFrames : ℕ → Option ℕ
  tokenSentFrames : ℕ → Option ℕ
  tokenFlags : ℕ → UInt8
  jobQueue : QueuePub ℕ
  taskPosted : Bool
  poolSize : ℕ
  memory : LowpanFragmenterMemory

/-- A call that the component makes, with what it is answered. -/
inductive LowpanFragmenterCall
  | frameForFragmentedPacketRequested (token : ℕ) (frame : Option ℕ)
  | frameForFragmentedPacketReleased (token frame : ℕ)
  | fragmentingIpv6PacketFinished (packet : Option ℕ) (token : ℕ) (status : ErrorT)
  | startSendingFrame (frame : ℕ) (status : ErrorT)
  | stopSendingFrame (frame : ℕ) (status : ErrorT)
  deriving DecidableEq, Repr

/-- What one task is answered: a frame, if it asks for one, and the memory after that; and what
starting and stopping to send a frame return. -/
structure LowpanFragmenterAnswers where
  frame : Option ℕ
  memory : LowpanFragmenterMemory
  startStatus : ErrorT
  stopStatus : ErrorT

namespace LowpanFragmenterMain

@[simps] def setFlags (s : LowpanFragmenterMain) (token : ℕ) (flags : UInt8) : LowpanFragmenterMain :=
  { s with tokenFlags := Function.update s.tokenFlags token flags }

@[simps] def setReadyFrame (s : LowpanFragmenterMain) (token : ℕ) (frame : Option ℕ) :
    LowpanFragmenterMain :=
  { s with tokenReadyFrames := Function.update s.tokenReadyFrames token frame }

@[simps] def setSentFrame (s : LowpanFragmenterMain) (token : ℕ) (frame : Option ℕ) :
    LowpanFragmenterMain :=
  { s with tokenSentFrames := Function.update s.tokenSentFrames token frame }

/-- The contents of the packet of a packet state. -/
def content (s : LowpanFragmenterMain) (token : LowpanFragPacketState) : Ipv6Packet :=
  s.memory.packets (token.packet.getD 0)

/-! ## Jobs -/

def start (s : LowpanFragmenterMain) : ErrorT × LowpanFragmenterMain :=
  if s.isOn then (EALREADY, s)
  else
    (SUCCESS,
      { s with
        isOn := true
        state := lowpanFragmenterInit s.state.packets (UInt8.ofNat s.poolSize)
        tokenPtrs := fun _ => none
        tokenReadyFrames := fun _ => none
        tokenSentFrames := fun _ => none
        tokenFlags := fun _ => 0
        jobQueue := s.jobQueue.clear
        memory :=
          { s.memory with
            lowpanHdrs := Function.update s.memory.lowpanHdrs lowpanDefault6LoWPANHeaders
              (lowpanFrameHeadersNew (s.memory.lowpanHdrs lowpanDefault6LoWPANHeaders)) } })

def postFragmentationTaskForTokenIfNecessary (s : LowpanFragmenterMain) (token : ℕ) :
    LowpanFragmenterMain :=
  if s.tokenFlags token &&& TOKEN_FLAG_PROCESSED = 0 then
    { s.setFlags token (s.tokenFlags token ||| TOKEN_FLAG_PROCESSED) with
      jobQueue := s.jobQueue.enqueueLast token
      taskPosted := true }
  else s

/-- Start fragmenting a packet: its token, counted from 1, or zero. -/
def startFragmentingIpv6Packet (s : LowpanFragmenterMain) (packet : ℕ)
    (loWPANHdrs : Option ℕ) : ℕ × LowpanFragmenterMain :=
  if ! s.isOn then (0, s)
  else
    match lowpanFragmenterStartFragmentingIpv6Packet s.state packet (s.memory.packets packet) with
    | (none, _) => (0, s)
    | (some fragPacket, state) =>
      let state := lowpanFragmenterProvideAdditional6LoWPANHeadersForIpv6Packet state fragPacket
        (loWPANHdrs.getD lowpanDefault6LoWPANHeaders)
      match (List.range s.poolSize).find? fun token => (s.tokenPtrs token).isNone with
      | none =>
        (0, { s with
          state := (lowpanFragmenterFinishFragmentingIpv6Packet state (some fragPacket)).2 })
      | some token =>
        let s := { s with
          state := state, tokenPtrs := Function.update s.tokenPtrs token (some fragPacket) }
        let s := ((s.setReadyFrame token none).setSentFrame token none).setFlags token 0
        (token + 1, s.postFragmentationTaskForTokenIfNecessary token)

def stopFragmentingIpv6Packet (s : LowpanFragmenterMain) (token : ℕ) :
    ErrorT × LowpanFragmenterMain :=
  if token = 0 ∨ token > s.poolSize then (EINVAL, s)
  else
    let token := token - 1
    if s.tokenPtrs token = none then (EINVAL, s)
    else if s.tokenFlags token &&& TOKEN_FLAG_CANCELED ≠ 0 then (EALREADY, s)
    else
      let s := s.setFlags token (s.tokenFlags token ||| TOKEN_FLAG_CANCELED)
      (SUCCESS, s.postFragmentationTaskForTokenIfNecessary token)

/-! ## The task -/

def finishFragmentingPacket (s : LowpanFragmenterMain) (token : ℕ) (status : ErrorT) :
    LowpanFragmenterMain × List LowpanFragmenterCall :=
  let r := lowpanFragmenterFinishFragmentingIpv6Packet s.state (s.tokenPtrs token)
  ({ s.setFlags token 0 with
      state := r.2, tokenPtrs := Function.update s.tokenPtrs token none },
    [.fragmentingIpv6PacketFinished r.1 (token + 1) status])

def attemptToReserveFrame (s : LowpanFragmenterMain) (token : ℕ)
    (answers : LowpanFragmenterAnswers) :
    Bool × LowpanFragmenterMain × List LowpanFragmenterCall :=
  let s := { s.setReadyFrame token answers.frame with memory := answers.memory }
  let calls := [.frameForFragmentedPacketRequested (token + 1) answers.frame]
  match answers.frame with
  | some _ => (true, s, calls)
  | none =>
    if s.tokenSentFrames token = none then
      let s := s.setFlags token (s.tokenFlags token ||| TOKEN_FLAG_FAILED)
      (false, s.postFragmentationTaskForTokenIfNecessary token, calls)
    else (false, s, calls)

def obtainNextFragment (s : LowpanFragmenterMain) (token : ℕ) : LowpanFragmenterMain :=
  match s.tokenPtrs token, s.tokenReadyFrames token with
  | some ptr, some frame =>
    let fragPacket := s.state.packets ptr
    let r := lowpanFragmenterRequestNextFragmentOfIpv6Packet s.state.fragFlags fragPacket
      (s.content fragPacket) (fragPacket.lowpanHdrs.map s.memory.lowpanHdrs)
      (s.memory.frames frame)
    let memory :=
      { s.memory with
        lowpanHdrs :=
          match fragPacket.lowpanHdrs, r.2.2.1 with
          | some hdrs, some content => Function.update s.memory.lowpanHdrs hdrs content
          | _, _ => s.memory.lowpanHdrs
        frames := Function.update s.memory.frames frame r.2.2.2 }
    let s := { s with state := s.state.setPacket ptr r.2.1, memory := memory }
    let s :=
      if r.1 ≠ .noError then s.setFlags token (s.tokenFlags token ||| TOKEN_FLAG_FAILED) else s
    s.postFragmentationTaskForTokenIfNecessary token
  | _, _ => s

def sendFrameWithFragment (s : LowpanFragmenterMain) (token : ℕ)
    (answers : LowpanFragmenterAnswers) : LowpanFragmenterMain × List LowpanFragmenterCall :=
  match s.tokenReadyFrames token with
  | none => (s, [])
  | some frame =>
    let s :=
      if answers.startStatus = SUCCESS then
        (s.setSentFrame token (some frame)).setReadyFrame token none
      else s.setFlags token (s.tokenFlags token ||| TOKEN_FLAG_FAILED)
    (s.postFragmentationTaskForTokenIfNecessary token,
      [.startSendingFrame frame answers.startStatus])

/-- The packet was canceled or has failed: give the frames back and finish, unless the frame that is
being sent cannot be stopped. -/
def giveUpFragmentingPacket (s : LowpanFragmenterMain) (token : ℕ)
    (answers : LowpanFragmenterAnswers) : LowpanFragmenterMain × List LowpanFragmenterCall :=
  let released :=
    match s.tokenReadyFrames token with
    | none => []
    | some frame => [.frameForFragmentedPacketReleased (token + 1) frame]
  let s := s.setReadyFrame token none
  let stopped : LowpanFragmenterMain × List LowpanFragmenterCall :=
    match s.tokenSentFrames token with
    | none => (s, [])
    | some frame =>
      if answers.stopStatus = SUCCESS then
        (s.setSentFrame token none,
          [.stopSendingFrame frame answers.stopStatus,
            .frameForFragmentedPacketReleased (token + 1) frame])
      else (s, [.stopSendingFrame frame answers.stopStatus])
  let s := stopped.1
  if s.tokenSentFrames token = none then
    let finished := s.finishFragmentingPacket token
      (if s.tokenFlags token &&& TOKEN_FLAG_CANCELED ≠ 0 then ECANCEL else FAIL)
    (finished.1, released ++ stopped.2 ++ finished.2)
  else (s, released ++ stopped.2)

/-- Work on the job of a token. -/
def processToken (s : LowpanFragmenterMain) (token : ℕ) (answers : LowpanFragmenterAnswers) :
    LowpanFragmenterMain × List LowpanFragmenterCall :=
  let s := s.setFlags token (s.tokenFlags token &&& ~~~TOKEN_FLAG_PROCESSED)
  if s.tokenFlags token &&& (TOKEN_FLAG_CANCELED ||| TOKEN_FLAG_FAILED) ≠ 0 then
    s.giveUpFragmentingPacket token answers
  else
    match s.tokenPtrs token with
    | none => (s, [])
    | some ptr =>
      let fragPacket := s.state.packets ptr
      if lowpanFragmenterDoesNextFragmentOfIpv6PacketExist fragPacket (s.content fragPacket) then
        if s.tokenReadyFrames token = none then
          match s.attemptToReserveFrame token answers with
          | (true, s, calls) => (s.obtainNextFragment token, calls)
          | (false, s, calls) => (s, calls)
        else if s.tokenSentFrames token = none then s.sendFrameWithFragment token answers
        else (s, [])
      else if s.tokenReadyFrames token = none then
        if s.tokenSentFrames token = none then s.finishFragmentingPacket token SUCCESS
        else (s, [])
      else if s.tokenSentFrames token = none then s.sendFrameWithFragment token answers
      else (s, [])

def fragmentationTask (s : LowpanFragmenterMain) (answers : LowpanFragmenterAnswers) :
    LowpanFragmenterMain × List LowpanFragmenterCall :=
  let s := { s with taskPosted := false }
  if s.jobQueue.isEmpty then (s, [])
  else
    let token := s.jobQueue.peekFirst
    let r := { s with jobQueue := s.jobQueue.dequeueFirst }.processToken token answers
    ({ r.1 with taskPosted := r.1.taskPosted || ! r.1.jobQueue.isEmpty }, r.2)

/-! ## Sent frames -/

def frameSendingFinished (s : LowpanFragmenterMain) (framePtr : ℕ) (status : ErrorT) :
    LowpanFragmenterMain × List LowpanFragmenterCall :=
  match (List.range s.poolSize).find? fun token => s.tokenSentFrames token == some framePtr with
  | none => (s, [])
  | some token =>
    let s := s.setSentFrame token none
    let s :=
      if status ≠ SUCCESS then s.setFlags token (s.tokenFlags token ||| TOKEN_FLAG_FAILED) else s
    (s.postFragmentationTaskForTokenIfNecessary token,
      [.frameForFragmentedPacketReleased (token + 1) framePtr])

end LowpanFragmenterMain

end Whip6
