import Whip6.Base.IoVecRefinement
import Whip6.Lib.Progress
import Whip6.Lib.Simulation
import Whip6.Udp.SimpleSockets

/-!
# Runs of the simple UDP sockets

What a socket has to do for its client: a buffer is sent with a chain that is freed once, and a
datagram is received into a buffer (`UdpSimpleJobs.Step`).  Every run of the virtualizer is a run of
the jobs of all its sockets, and none of them has to wait for ever (`simple_sockets`).
-/

namespace Whip6

open Lib

/-! ## Jobs -/

/-- A buffer that is being sent is copied, is with the raw socket, or its end is known. -/
inductive UdpSendStage
  | copying
  | sending
  | over (status : ErrorT)

/-- A buffer that is being sent, and the chain that is to be freed. -/
structure UdpSendJob where
  buf : UdpBuffer
  sockAddrOrNull : Option UdpSocketAddr
  chain : Option ℕ
  stage : UdpSendStage

/-- A buffer that waits for a datagram, to which a chain is being copied, or has been copied. -/
inductive UdpReceiveJob
  | idle
  | waiting (buf : UdpBuffer) (sockAddrOrNull : Option UdpSocketAddr)
  | copying (buf : UdpBuffer) (sockAddrOrNull : Option UdpSocketAddr)
    (payloadIov : Option UdpPayloadIov) (payloadSize : ℕ)
  | copied (buf : UdpBuffer) (sockAddrOrNull : Option UdpSocketAddr) (payloadSize : ℕ)

structure UdpSimpleJobs where
  send : Option UdpSendJob
  receive : UdpReceiveJob

/-- A buffer to which some bytes are written; nothing else of its memory is changed. -/
def UdpBuffer.write (buf : UdpBuffer) (bytes : List UInt8) : UdpBuffer where
  bufPtr := buf.bufPtr.map fun mem => splice mem 0 bytes
  bufLen := buf.bufLen
  bufLen_le mem hmem := by
    obtain ⟨mem', hmem', rfl⟩ := Option.map_eq_some_iff.mp hmem
    rw [length_splice]
    exact buf.bufLen_le mem' hmem'

theorem UdpBuffer.bufPtr_write (buf : UdpBuffer) (bytes : List UInt8) :
    (buf.write bytes).bufPtr = buf.bufPtr.map fun mem => splice mem 0 bytes := rfl

/-- The bytes of a chain that are for a buffer. -/
def receivedBytes (buf : UdpBuffer) (payloadIov : Option UdpPayloadIov) (payloadSize : ℕ) :
    List UInt8 :=
  (payloadChain payloadIov).flatten.take (min payloadSize buf.bufLen)

/-- The chain has all bytes that are for the buffer. -/
def HasBytes (buf : UdpBuffer) (payloadIov : Option UdpPayloadIov) (payloadSize : ℕ) : Prop :=
  min payloadSize buf.bufLen ≤ (payloadChain payloadIov).flatten.length

namespace UdpSimpleJobs

inductive Step : UdpSimpleJobs → UdpSimpleAct → UdpSimpleJobs → Prop
  | sendStarted (buf : UdpBuffer) (sockAddrOrNull : Option UdpSocketAddr) (chain : Option ℕ)
    (receive : UdpReceiveJob) :
    Step ⟨none, receive⟩ (.sendStarted buf sockAddrOrNull chain)
      ⟨some ⟨buf, sockAddrOrNull, chain, .copying⟩, receive⟩
  | sendRefused (jobs : UdpSimpleJobs) {status : ErrorT} (h : status ≠ SUCCESS) :
    Step jobs (.sendRefused status) jobs
  /-- The raw socket gets the bytes of the buffer. -/
  | rawStarted {job : UdpSendJob} {payloadIov : Option UdpPayloadIov} (answer : ErrorT)
    (receive : UdpReceiveJob) (hstage : job.stage = .copying)
    (hchain : payloadIov.map UdpPayloadIov.ptr = job.chain)
    (hbytes : ∀ mem ∈ job.buf.bufPtr,
      (payloadChain payloadIov).flatten.take job.buf.bufLen = mem.take job.buf.bufLen) :
    Step ⟨some job, receive⟩
      (.rawStarted payloadIov job.buf.bufLen job.sockAddrOrNull answer)
      ⟨some { job with stage := if answer = SUCCESS then .sending else .over FAIL }, receive⟩
  | rawFinished {job : UdpSendJob} (status : ErrorT) (receive : UdpReceiveJob)
    (hstage : job.stage = .sending) :
    Step ⟨some job, receive⟩ (.rawFinished status)
      ⟨some { job with stage := .over (if status = SUCCESS then SUCCESS else FAIL) }, receive⟩
  /-- Copying has failed. -/
  | chainDropped {job : UdpSendJob} {chain : ℕ} (receive : UdpReceiveJob)
    (hstage : job.stage = .copying) (hchain : job.chain = some chain) :
    Step ⟨some job, receive⟩ (.chainFreed chain)
      ⟨some { job with chain := none, stage := .over FAIL }, receive⟩
  | chainFreed {job : UdpSendJob} {chain : ℕ} {status : ErrorT} (receive : UdpReceiveJob)
    (hstage : job.stage = .over status) (hchain : job.chain = some chain) :
    Step ⟨some job, receive⟩ (.chainFreed chain) ⟨some { job with chain := none }, receive⟩
  | sendFinished {job : UdpSendJob} {status : ErrorT} (receive : UdpReceiveJob)
    (hstage : job.stage = .over status) (hchain : job.chain = none) :
    Step ⟨some job, receive⟩
      (.sendFinished job.buf.bufPtr job.buf.bufLen job.sockAddrOrNull status) ⟨none, receive⟩
  | receiveStarted (send : Option UdpSendJob) (buf : UdpBuffer)
    (sockAddrOrNull : Option UdpSocketAddr) :
    Step ⟨send, .idle⟩ (.receiveStarted buf sockAddrOrNull) ⟨send, .waiting buf sockAddrOrNull⟩
  | receiveRefused (jobs : UdpSimpleJobs) {status : ErrorT} (h : status ≠ SUCCESS) :
    Step jobs (.receiveRefused status) jobs
  | iovAccepted (send : Option UdpSendJob) (buf : UdpBuffer) (sockAddrOrNull : Option UdpSocketAddr)
    (payloadIov : Option UdpPayloadIov) (payloadSize : ℕ) (srcSockAddr : UdpSocketAddr) :
    Step ⟨send, .waiting buf sockAddrOrNull⟩ (.iovAccepted payloadIov payloadSize srcSockAddr)
      ⟨send, .copying buf (sockAddrOrNull.map fun _ => srcSockAddr) payloadIov payloadSize⟩
  | iovRefused (jobs : UdpSimpleJobs) {status : ErrorT} (h : status ≠ SUCCESS) :
    Step jobs (.iovRefused status) jobs
  /-- The bytes of a datagram are in the buffer. -/
  | iovFinished (send : Option UdpSendJob) {buf : UdpBuffer} (sockAddrOrNull : Option UdpSocketAddr)
    {payloadIov : Option UdpPayloadIov} {payloadSize : ℕ}
    (h : HasBytes buf payloadIov payloadSize) :
    Step ⟨send, .copying buf sockAddrOrNull payloadIov payloadSize⟩ (.iovFinished payloadIov)
      ⟨send, .copied (buf.write (receivedBytes buf payloadIov payloadSize)) sockAddrOrNull
        payloadSize⟩
  /-- A chain was too short; the buffer waits for the next one. -/
  | iovDropped (send : Option UdpSendJob) {buf : UdpBuffer} (sockAddrOrNull : Option UdpSocketAddr)
    {payloadIov : Option UdpPayloadIov} {payloadSize : ℕ}
    (h : ¬ HasBytes buf payloadIov payloadSize) :
    Step ⟨send, .copying buf sockAddrOrNull payloadIov payloadSize⟩ (.iovFinished payloadIov)
      ⟨send, .waiting (buf.write (receivedBytes buf payloadIov payloadSize)) sockAddrOrNull⟩
  | receiveFinished (send : Option UdpSendJob) (buf : UdpBuffer)
    (sockAddrOrNull : Option UdpSocketAddr) (payloadSize : ℕ) :
    Step ⟨send, .copied buf sockAddrOrNull payloadSize⟩
      (.receiveFinished buf.bufPtr payloadSize sockAddrOrNull
        (if payloadSize ≤ buf.bufLen then SUCCESS else ESIZE)) ⟨send, .idle⟩

def empty : UdpSimpleJobs := ⟨none, .idle⟩

/-- A buffer is being sent. -/
def IsSending (jobs : UdpSimpleJobs) : Prop := jobs.send.isSome

/-- A datagram with all bytes was accepted for the buffer that is received into. -/
def HasDatagram (jobs : UdpSimpleJobs) : Prop :=
  match jobs.receive with
  | .idle => False
  | .waiting _ _ => False
  | .copying buf _ payloadIov payloadSize => HasBytes buf payloadIov payloadSize
  | .copied _ _ _ => True

/-- A chain of the raw socket is held. -/
def HoldsIov (jobs : UdpSimpleJobs) : Prop :=
  match jobs.receive with
  | .copying _ _ _ _ => True
  | _ => False

/-- How many bytes are copied to the buffer that is received into. -/
def receiveSize (jobs : UdpSimpleJobs) : ℕ :=
  match jobs.receive with
  | .copying buf _ _ payloadSize => min payloadSize buf.bufLen
  | _ => 0

def IsSendFinished : UdpSimpleAct → Prop
  | .sendFinished _ _ _ _ => True
  | _ => False

def IsReceiveFinished : UdpSimpleAct → Prop
  | .receiveFinished _ _ _ _ => True
  | _ => False

def IsIovFinished : UdpSimpleAct → Prop
  | .iovFinished _ => True
  | _ => False

variable {jobs jobs' : UdpSimpleJobs} {act : UdpSimpleAct}

theorem Step.isSending (h : Step jobs act jobs') (hsend : IsSending jobs) :
    IsSendFinished act ∨ IsSending jobs' := by
  cases h <;> first | exact Or.inl trivial | exact Or.inr hsend | exact Or.inr rfl

theorem Step.hasDatagram (h : Step jobs act jobs') (hdatagram : HasDatagram jobs) :
    IsReceiveFinished act ∨ HasDatagram jobs' := by
  cases h <;>
    first
    | exact Or.inl trivial
    | exact Or.inr hdatagram
    | exact Or.inr trivial
    | exact absurd hdatagram id
    | exact absurd hdatagram ‹_›

theorem Step.holdsIov (h : Step jobs act jobs') (hholds : HoldsIov jobs) :
    IsIovFinished act ∨ HoldsIov jobs' := by
  cases h <;>
    first
    | exact Or.inl trivial
    | exact Or.inr hholds
    | exact Or.inr trivial

end UdpSimpleJobs

/-! ## Copying to a chain -/

/-- A buffer is copied up to an offset. -/
structure UdpSimpleOutState.Copied (out : UdpSimpleOutState) : Prop where
  chain : out.payloadPtr = none → out.bufLen = 0
  within : IovIterWithin (iovLens (payloadChain out.payloadPtr)) out.payloadIter
  pos : iovIterPos (iovLens (payloadChain out.payloadPtr)) out.payloadIter = out.bufOff
  off_le : out.bufOff ≤ out.bufLen
  bufLen_le : ∀ mem ∈ out.bufPtr, out.bufLen ≤ mem.length
  copied : ∀ mem ∈ out.bufPtr,
    (payloadChain out.payloadPtr).flatten.take out.bufOff = mem.take out.bufOff

theorem payloadChain_map {payloadPtr : Option UdpPayloadIov} {iov : IovBlist}
    (h : iovLens iov = iovLens (payloadChain payloadPtr)) :
    payloadChain (payloadPtr.map fun payload => { payload with iov := iov }) = iov := by
  cases payloadPtr with
  | none => exact (List.map_eq_nil_iff.mp h).symm
  | some payload => rfl

/-- What is written to a chain that has room for it. -/
theorem iovIteratorWrite_bytes {l : IovBlist} {it : IovBlistIter}
    (h : IovIterWithin (iovLens l) it) {mem : List UInt8} {len : ℕ} (hmem : len ≤ mem.length) :
    let r := iovIteratorWriteAndMoveForward l it (some mem) len
    let p := iovIterPos (iovLens l) it
    iovLens r.2.2 = iovLens l ∧
      (r.1 = len → iovIterPos (iovLens l) r.2.1 = p + len ∧ IovIterWithin (iovLens l) r.2.1 ∧
        r.2.2.flatten.take (p + len) = l.flatten.take p ++ mem.take len) := by
  have hd := iovPieces_spec writePiece_meaning h len mem
  refine ⟨hd.lens, fun hcount => ?_⟩
  have hroom : iovIterPos (iovLens l) it + len ≤ l.flatten.length := by
    have hle := h.pos_le
    have hmin := hd.count.symm.trans hcount
    omega
  obtain ⟨ys, ⟨rfl, -⟩, hflatten⟩ := hd.handled
  have hlen : ((l.flatten.drop (iovIterPos (iovLens l) it)).take len).length = len := by
    rw [List.length_take, List.length_drop]
    omega
  have hys : splice ((l.flatten.drop (iovIterPos (iovLens l) it)).take len) 0 mem = mem.take len := by
    rw [← splice_take _ _ mem (show _ - 0 ≤ len by rw [hlen]; exact Nat.sub_le _ _)]
    apply splice_all
    rw [hlen, List.length_take, Nat.min_eq_left hmem]
  refine ⟨hd.pos.trans (congrArg _ hcount), hd.within, ?_⟩
  change (iovPieces writePiece l it len mem).2.2.2.flatten.take _ = _
  rw [hflatten, hys]
  apply List.take_left'
  rw [List.length_append, List.length_take, List.length_take, Nat.min_eq_left hmem]
  omega

/-- Some more bytes are written to the chain. -/
theorem UdpSimpleOutState.Copied.write {out : UdpSimpleOutState} (h : out.Copied) {len : ℕ}
    (hlen : out.bufOff + len ≤ out.bufLen) :
    let r := iovIteratorWriteAndMoveForward (payloadChain out.payloadPtr) out.payloadIter
      (out.bufPtr.map (List.drop out.bufOff)) len
    r.1 = len →
      UdpSimpleOutState.Copied
        { out with
          payloadPtr := out.payloadPtr.map fun payload => { payload with iov := r.2.2 }
          payloadIter := r.2.1
          bufOff := out.bufOff + r.1 } := by
  obtain ⟨bufPtr, bufLen, sockAddrPtr, payloadPtr, bufOff, payloadIter⟩ := out
  obtain ⟨hnull, hwithin, hpos, hoff, hmem, hcopied⟩ := h
  dsimp only at *
  cases bufPtr with
  | none =>
    intro hcount
    have hchain := payloadChain_map (show iovLens (payloadChain payloadPtr) = _ from rfl)
    refine ⟨fun hnone => hnull (Option.map_eq_none_iff.mp hnone), ?_, ?_, ?_, fun mem hnone => ?_,
      fun mem hnone => ?_⟩
    · exact hchain.symm ▸ hwithin
    · exact hchain.symm ▸ hpos
    · dsimp only at hcount ⊢
      rw [hcount]
      exact hlen
    all_goals cases hnone
  | some mem =>
    intro hcount
    have hlong : len ≤ (mem.drop bufOff).length := by
      have hle := hmem mem rfl
      rw [List.length_drop]
      omega
    obtain ⟨hlens, hwritten⟩ := iovIteratorWrite_bytes hwithin hlong
    obtain ⟨hpos', hwithin', htake⟩ := hwritten hcount
    have hchain := payloadChain_map hlens
    dsimp only [Option.map_some] at hcount ⊢
    refine ⟨fun hnone => hnull (Option.map_eq_none_iff.mp hnone), ?_, ?_, ?_, hmem,
      fun mem' hmem' => ?_⟩
    · dsimp only
      rw [hchain, hlens]
      exact hwithin'
    · dsimp only
      rw [hchain, hlens, hpos', hpos, hcount]
    · dsimp only
      rw [hcount]
      exact hlen
    · obtain rfl := Option.some.inj hmem'
      rw [hpos, hcopied mem rfl, ← List.take_add] at htake
      dsimp only
      rw [hchain, hcount]
      exact htake

/-! ## Copying to a buffer -/

/-- A buffer has got the bytes of a chain up to an offset. -/
structure UdpSimpleInState.Copies (inState : UdpSimpleInState) (buf : UdpBuffer) : Prop where
  null : buf.bufPtr = none → buf.bufLen = 0
  bufPtr : inState.bufPtr = (buf.write ((payloadChain inState.payloadPtr).flatten.take
    inState.bufOff)).bufPtr
  bufLen : inState.bufLen = buf.bufLen
  within : IovIterWithin (iovLens (payloadChain inState.payloadPtr)) inState.payloadIter
  pos : iovIterPos (iovLens (payloadChain inState.payloadPtr)) inState.payloadIter = inState.bufOff
  off_le : inState.bufOff ≤ min inState.payloadLen buf.bufLen

/-- Going on with a copy where it stopped. -/
theorem splice_take_resume {mem text : List UInt8} {off : ℕ} (hmem : off ≤ mem.length)
    (htext : off ≤ text.length) (len : ℕ) :
    let copy := splice mem 0 (text.take off)
    copy.take off ++ splice (copy.drop off) 0 ((text.drop off).take len) =
      splice mem 0 (text.take (off + len)) := by
  intro copy
  have hcopy : (copy.take off).length = off := by
    rw [List.length_take, length_splice, Nat.min_eq_left hmem]
  have hbytes : (text.take off).length = off := by
    rw [List.length_take, Nat.min_eq_left htext]
  have hsplit := splice_append_of_le (copy.drop off) ((text.drop off).take len) hcopy.le
  rw [List.take_append_drop, hcopy, Nat.sub_self] at hsplit
  have hadjacent := splice_splice_adjacent mem 0 (text.take off) ((text.drop off).take len)
  rw [hbytes, Nat.zero_add] at hadjacent
  rw [← hsplit, hadjacent, ← List.take_add]

/-- Some more bytes are read from the chain, maybe fewer than there should be. -/
theorem UdpSimpleInState.Copies.read {inState : UdpSimpleInState} {buf : UdpBuffer}
    (h : inState.Copies buf) {len : ℕ}
    (hlen : inState.bufOff + len ≤ min inState.payloadLen buf.bufLen) :
    let r := iovIteratorReadAndMoveForward (payloadChain inState.payloadPtr) inState.payloadIter
      (inState.bufPtr.map (List.drop inState.bufOff)) len
    r.1 = min len ((payloadChain inState.payloadPtr).flatten.length - inState.bufOff) ∧
      UdpSimpleInState.Copies
        { inState with
          bufPtr := inState.bufPtr.map fun mem => mem.take inState.bufOff ++ r.2.2.getD []
          payloadIter := r.2.1
          bufOff := inState.bufOff + r.1 } buf := by
  obtain ⟨bufPtr, bufLen, sockAddrPtr, payloadPtr, payloadLen, bufOff, payloadIter⟩ := inState
  obtain ⟨hnull, hbufPtr, hbufLen, hwithin, hiter, hoff⟩ := h
  dsimp only at *
  rcases Option.eq_none_or_eq_some buf.bufPtr with hnone | ⟨mem, hmem⟩
  · -- there is no buffer, and nothing to be read
    have hzero := hnull hnone
    obtain rfl : len = 0 := by omega
    rw [UdpBuffer.bufPtr_write, hnone] at hbufPtr
    subst hbufPtr
    refine ⟨(Nat.zero_min _).symm, hnull, ?_, hbufLen, hwithin, hiter, hoff⟩
    rw [UdpBuffer.bufPtr_write, hnone]
    rfl
  have hlong : bufOff ≤ mem.length := by
    have hle := buf.bufLen_le mem hmem
    omega
  have hpast : bufOff ≤ (payloadChain payloadPtr).flatten.length := hiter ▸ hwithin.pos_le
  rw [UdpBuffer.bufPtr_write, hmem] at hbufPtr
  subst hbufPtr
  generalize hM : splice mem 0 ((payloadChain payloadPtr).flatten.take bufOff) = M
  dsimp only [Option.map_some]
  rw [hM]
  have hd := iovPieces_spec readPiece_meaning hwithin len (M.drop bufOff, 0)
  obtain ⟨-, -, -, hread⟩ := iovIteratorRead_within hwithin (M.drop bufOff) len
  have hcount := hd.count
  rw [hiter] at hcount hread
  refine ⟨hcount, hnull, ?_, hbufLen, hd.within, ?_, ?_⟩
  · dsimp only at hread ⊢
    have hcount' : (iovIteratorReadAndMoveForward (payloadChain payloadPtr) payloadIter
        (some (M.drop bufOff)) len).1 =
          min len ((payloadChain payloadPtr).flatten.length - bufOff) := hcount
    have htake : (payloadChain payloadPtr).flatten.take
        (bufOff + min len ((payloadChain payloadPtr).flatten.length - bufOff)) =
          (payloadChain payloadPtr).flatten.take (bufOff + len) := by
      apply List.take_eq_take_iff.mpr
      omega
    rw [UdpBuffer.bufPtr_write, hmem, hread, Option.map_some, Option.getD_some, hcount', htake,
      ← hM]
    exact congrArg some (splice_take_resume hlong hpast len)
  · exact hd.pos.trans (congrArg (· + _) hiter)
  · dsimp only
    have hle : (iovIteratorReadAndMoveForward (payloadChain payloadPtr) payloadIter
        (some (M.drop bufOff)) len).1 ≤ len := hcount.trans_le (Nat.min_le_left _ _)
    exact (Nat.add_le_add_left hle bufOff).trans hlen

/-! ## Sockets and their jobs -/

structure UdpSimpleOutState.Sends (out : UdpSimpleOutState) (job : UdpSendJob) : Prop where
  bufPtr : out.bufPtr = job.buf.bufPtr
  bufLen : out.bufLen = job.buf.bufLen
  sockAddrPtr : out.sockAddrPtr = job.sockAddrOrNull
  chain : out.payloadPtr.map UdpPayloadIov.ptr = job.chain

structure UdpSimpleInState.Awaits (inState : UdpSimpleInState) (buf : UdpBuffer) : Prop where
  null : buf.bufPtr = none → buf.bufLen = 0
  bufPtr : inState.bufPtr = buf.bufPtr
  bufLen : inState.bufLen = buf.bufLen

namespace UdpSimpleSocket

open UdpSimpleJobs

inductive SendStands (provided trm : Bool) (out : UdpSimpleOutState) : Option UdpSendJob → Prop
  | idle (hprovided : provided = false) (htrm : trm = false) : SendStands provided trm out none
  | copying {job : UdpSendJob} (hprovided : provided = true) (htrm : trm = false)
    (hstage : job.stage = .copying) (h : out.Sends job) (hcopied : out.Copied) :
    SendStands provided trm out (some job)
  | sending {job : UdpSendJob} (hprovided : provided = true) (htrm : trm = true)
    (hstage : job.stage = .sending) (h : out.Sends job) : SendStands provided trm out (some job)

inductive ReceiveStands (provided iov pending : Bool) (inState : UdpSimpleInState) :
    UdpReceiveJob → Prop
  | idle (hprovided : provided = false) (hiov : iov = false) (hpending : pending = false) :
    ReceiveStands provided iov pending inState .idle
  | waiting {buf : UdpBuffer} (hprovided : provided = true) (hiov : iov = false)
    (hpending : pending = false) (h : inState.Awaits buf) :
    ReceiveStands provided iov pending inState (.waiting buf inState.sockAddrPtr)
  | copying {buf : UdpBuffer} (hprovided : provided = true) (hiov : iov = true)
    (hpending : pending = false) (h : inState.Copies buf) :
    ReceiveStands provided iov pending inState
      (.copying buf inState.sockAddrPtr inState.payloadPtr inState.payloadLen)
  | copied {buf : UdpBuffer} (hprovided : provided = true) (hiov : iov = false)
    (hpending : pending = true) (h : inState.Awaits buf) :
    ReceiveStands provided iov pending inState
      (.copied buf inState.sockAddrPtr inState.payloadLen)

/-- A socket does the jobs. -/
structure StandsFor (socket : UdpSimpleSocket) (jobs : UdpSimpleJobs) : Prop where
  send : SendStands socket.outBufAndIovProvided socket.outTrmInProgress socket.outState jobs.send
  receive : ReceiveStands socket.inBufProvided socket.inIovProvided socket.inDelPending
    socket.inState jobs.receive

variable {socket : UdpSimpleSocket} {jobs : UdpSimpleJobs} {job : UdpSendJob}

/-! ### Sending -/

theorem sends_stage (h : socket.outState.Sends job) (stage : UdpSendStage) :
    socket.outState.Sends { job with stage := stage } :=
  ⟨h.bufPtr, h.bufLen, h.sockAddrPtr, h.chain⟩

theorem finishSendingDatagram_stands {receive : UdpReceiveJob} (h : ReceiveStands
    socket.inBufProvided socket.inIovProvided socket.inDelPending socket.inState receive)
    (status : ErrorT) : (socket.finishSendingDatagram status).1.StandsFor ⟨none, receive⟩ :=
  ⟨.idle rfl rfl, h⟩

theorem finishSendingDatagram_spec (h : socket.outState.Sends job) {status : ErrorT}
    (hstage : job.stage = .over status) (receive : UdpReceiveJob) :
    SpecRun Step ⟨some job, receive⟩ (socket.finishSendingDatagram status).2 ⟨none, receive⟩ := by
  have hchain := h.chain
  rw [finishSendingDatagram, h.bufPtr, h.bufLen, h.sockAddrPtr]
  dsimp only
  cases hpayload : socket.outState.payloadPtr with
  | none =>
    rw [hpayload] at hchain
    exact SpecRun.single (.sendFinished receive hstage hchain.symm)
  | some payload =>
    rw [hpayload] at hchain
    exact .cons (.chainFreed receive hstage hchain.symm)
      (SpecRun.single (.sendFinished receive hstage rfl))

/-- Copying has failed. -/
theorem finishSendingDatagram_dropped (h : socket.outState.Sends job)
    (hstage : job.stage = .copying) (hchain : socket.outState.payloadPtr ≠ none)
    (receive : UdpReceiveJob) :
    SpecRun Step ⟨some job, receive⟩ (socket.finishSendingDatagram FAIL).2 ⟨none, receive⟩ := by
  have hjob := h.chain
  obtain ⟨payload, hpayload⟩ := Option.ne_none_iff_exists'.mp hchain
  rw [hpayload] at hjob
  rw [finishSendingDatagram, h.bufPtr, h.bufLen, h.sockAddrPtr, hpayload]
  exact .cons (.chainDropped receive hstage hjob.symm)
    (SpecRun.single (.sendFinished receive rfl rfl))

/-- The raw socket is asked to send what was copied. -/
theorem rawStarted_spec {out : UdpSimpleOutState} (h : out.Copied) (hsends : out.Sends job)
    (hstage : job.stage = .copying) (hdone : out.bufLen ≤ out.bufOff) (answer : ErrorT)
    (receive : UdpReceiveJob) :
    Step ⟨some job, receive⟩ (.rawStarted out.payloadPtr out.bufLen out.sockAddrPtr answer)
      ⟨some { job with stage := if answer = SUCCESS then .sending else .over FAIL }, receive⟩ := by
  have hbytes := h.copied
  rw [le_antisymm h.off_le hdone, hsends.bufPtr, hsends.bufLen] at hbytes
  rw [hsends.bufLen, hsends.sockAddrPtr]
  exact .rawStarted answer receive hstage hsends.chain hbytes

theorem startSendingDatagram_spec (h : socket.StandsFor jobs) (buf : UdpBuffer)
    (sockAddrOrNull : Option UdpSocketAddr) (answer : Option UdpPayloadIov) :
    let r := socket.startSendingDatagram buf sockAddrOrNull answer
    ∃ jobs', SpecRun Step jobs r.2.2 jobs' ∧ r.2.1.StandsFor jobs' := by
  have hrefused : ∀ status, status ≠ SUCCESS → SpecRun Step jobs [.sendRefused status] jobs :=
    fun status hstatus => SpecRun.single (.sendRefused jobs hstatus)
  unfold startSendingDatagram
  dsimp only
  generalize (if buf.bufLen = 0 then none else answer) = payloadPtr
  split_ifs with hsize hnull hbusy hmemory
  · exact ⟨jobs, hrefused ESIZE (by decide), h⟩
  · exact ⟨jobs, hrefused EINVAL (by decide), h⟩
  · exact ⟨jobs, hrefused EBUSY (by decide), h⟩
  all_goals
    obtain ⟨send, receive⟩ := jobs
    obtain ⟨hsend, hreceive⟩ := h
    cases hsend with
    | copying hprovided _ _ _ _ => exact absurd hprovided hbusy
    | sending hprovided _ _ _ => exact absurd hprovided hbusy
    | idle hprovided htrm => ?_
  · exact ⟨_, hrefused ENOMEM (by decide), .idle hprovided htrm, hreceive⟩
  · refine ⟨_, SpecRun.single (.sendStarted buf sockAddrOrNull _ receive),
      .copying rfl htrm rfl ⟨rfl, rfl, rfl, rfl⟩ ?_, hreceive⟩
    constructor
    · intro hnone
      by_contra hpos
      exact hmemory ⟨hpos, Option.isNone_iff_eq_none.mpr hnone⟩
    · exact iovIteratorInitToBeginning_within (payloadChain payloadPtr)
    · exact iovIteratorInitToBeginning_pos (payloadChain payloadPtr)
    · exact Nat.zero_le _
    · exact buf.bufLen_le
    · exact fun _ _ => rfl

theorem processOutgoingPacket_spec (maxBytesCopiedInTask : ℕ) (h : socket.StandsFor jobs)
    (hready : socket.isReadyToSend) (answer : ErrorT) :
    let r := socket.processOutgoingPacket maxBytesCopiedInTask answer
    ∃ jobs', SpecRun Step jobs r.2 jobs' ∧ r.1.StandsFor jobs' := by
  obtain ⟨send, receive⟩ := jobs
  obtain ⟨hsend, hreceive⟩ := h
  rw [isReadyToSend, Bool.and_eq_true, Bool.not_eq_true'] at hready
  cases hsend with
  | idle hprovided _ => exact absurd (hprovided.symm.trans hready.1) Bool.false_ne_true
  | sending _ htrm _ _ => exact absurd (htrm.symm.trans hready.2).symm Bool.false_ne_true
  | @copying job hprovided htrm hstage hsends hcopied =>
    unfold processOutgoingPacket
    dsimp only
    have hlen : (if socket.outState.bufLen - socket.outState.bufOff > maxBytesCopiedInTask then
        maxBytesCopiedInTask else socket.outState.bufLen - socket.outState.bufOff) ≤
          socket.outState.bufLen - socket.outState.bufOff := by
      split_ifs <;> omega
    generalize (if socket.outState.bufLen - socket.outState.bufOff > maxBytesCopiedInTask then
      maxBytesCopiedInTask else socket.outState.bufLen - socket.outState.bufOff) = len at *
    split_ifs with hleft hanswer hcount
    · -- the raw socket refuses
      have hstarted := rawStarted_spec hcopied hsends hstage (by omega) answer receive
      rw [if_neg hanswer] at hstarted
      exact ⟨_, .cons hstarted (finishSendingDatagram_spec (sends_stage hsends _) rfl receive),
        finishSendingDatagram_stands hreceive FAIL⟩
    · have hstarted := rawStarted_spec hcopied hsends hstage (by omega) answer receive
      rw [if_pos (not_not.mp hanswer)] at hstarted
      exact ⟨_, SpecRun.single hstarted, .sending hprovided rfl rfl (sends_stage hsends _),
        hreceive⟩
    · -- copying fails
      have hchain : socket.outState.payloadPtr ≠ none := by
        intro hnone
        have hzero := hcopied.chain hnone
        omega
      refine ⟨_, finishSendingDatagram_dropped ?_ hstage ?_ receive, .idle rfl rfl, hreceive⟩
      · refine ⟨hsends.bufPtr, hsends.bufLen, hsends.sockAddrPtr, ?_⟩
        dsimp only
        rw [← hsends.chain, Option.map_map]
        rfl
      · exact fun hnone => hchain (Option.map_eq_none_iff.mp hnone)
    · have hwritten := hcopied.write (show socket.outState.bufOff + len ≤ _ by omega)
        (not_not.mp hcount)
      refine ⟨_, .nil _, .copying hprovided htrm hstage ?_ hwritten, hreceive⟩
      refine ⟨hsends.bufPtr, hsends.bufLen, hsends.sockAddrPtr, ?_⟩
      dsimp only
      rw [← hsends.chain, Option.map_map]
      rfl

theorem rawFinishSending_spec (h : socket.StandsFor jobs) (htrm : socket.outTrmInProgress)
    (status : ErrorT) :
    let r := socket.rawFinishSending status
    ∃ jobs', SpecRun Step jobs r.2 jobs' ∧ r.1.StandsFor jobs' := by
  obtain ⟨send, receive⟩ := jobs
  obtain ⟨hsend, hreceive⟩ := h
  cases hsend with
  | idle _ hidle => exact absurd (hidle.symm.trans htrm) Bool.false_ne_true
  | copying _ hidle _ _ _ => exact absurd (hidle.symm.trans htrm) Bool.false_ne_true
  | sending _ _ hstage hsends =>
    have hstatus : (if status ≠ SUCCESS then FAIL else SUCCESS) =
        if status = SUCCESS then SUCCESS else FAIL := ite_not _ _ _
    rw [rawFinishSending, hstatus]
    exact ⟨_, .cons (.rawFinished status receive hstage) (finishSendingDatagram_spec
      (sends_stage hsends _) rfl receive),
      finishSendingDatagram_stands hreceive (if status = SUCCESS then SUCCESS else FAIL)⟩

/-! ### Receiving -/

theorem awaits_of_copies {inState : UdpSimpleInState} {buf : UdpBuffer} (h : inState.Copies buf) :
    inState.Awaits (buf.write ((payloadChain inState.payloadPtr).flatten.take inState.bufOff)) where
  null hnone := h.null (Option.map_eq_none_iff.mp hnone)
  bufPtr := h.bufPtr
  bufLen := h.bufLen

theorem startReceivingDatagram_spec (h : socket.StandsFor jobs) (buf : UdpBuffer)
    (sockAddrOrNull : Option UdpSocketAddr) :
    let r := socket.startReceivingDatagram buf sockAddrOrNull
    ∃ jobs', SpecRun Step jobs r.2 jobs' ∧ r.1.StandsFor jobs' := by
  have hrefused : ∀ status, status ≠ SUCCESS → SpecRun Step jobs [.receiveRefused status] jobs :=
    fun status hstatus => SpecRun.single (.receiveRefused jobs hstatus)
  unfold startReceivingDatagram
  split_ifs with hnull hbusy
  · exact ⟨jobs, hrefused EINVAL (by decide), h⟩
  · exact ⟨jobs, hrefused EBUSY (by decide), h⟩
  obtain ⟨send, receive⟩ := jobs
  obtain ⟨hsend, hreceive⟩ := h
  cases hreceive with
  | waiting hprovided _ _ _ => exact absurd hprovided hbusy
  | copying hprovided _ _ _ => exact absurd hprovided hbusy
  | copied hprovided _ _ _ => exact absurd hprovided hbusy
  | idle hprovided hiov hpending =>
    refine ⟨_, SpecRun.single (.receiveStarted send buf sockAddrOrNull), hsend,
      .waiting rfl hiov hpending ⟨fun hnone => ?_, rfl, rfl⟩⟩
    by_contra hpos
    exact hnull ⟨Option.isNone_iff_eq_none.mpr hnone, Nat.pos_of_ne_zero hpos⟩

theorem startHandlingIncomingIov_spec (h : socket.StandsFor jobs)
    (payloadIov : Option UdpPayloadIov) (payloadSize : ℕ) (srcSockAddr : UdpSocketAddr) :
    let r := socket.startHandlingIncomingIov payloadIov payloadSize srcSockAddr
    ∃ jobs', SpecRun Step jobs r.2.2 jobs' ∧ r.2.1.StandsFor jobs' := by
  have hrefused : ∀ status, status ≠ SUCCESS → SpecRun Step jobs [.iovRefused status] jobs :=
    fun status hstatus => SpecRun.single (.iovRefused jobs hstatus)
  unfold startHandlingIncomingIov
  split_ifs with hnull hoff hbusy
  · exact ⟨jobs, hrefused EINVAL (by decide), h⟩
  · exact ⟨jobs, hrefused EOFF (by decide), h⟩
  · exact ⟨jobs, hrefused EBUSY (by decide), h⟩
  obtain ⟨send, receive⟩ := jobs
  obtain ⟨hsend, hreceive⟩ := h
  rw [Bool.or_eq_true, not_or] at hbusy
  cases hreceive with
  | idle hprovided _ _ => exact absurd hprovided hoff
  | copying _ hiov _ _ => exact absurd hiov hbusy.1
  | copied _ _ hpending _ => exact absurd hpending hbusy.2
  | @waiting buf hprovided hiov hpending hawaits =>
    refine ⟨_, SpecRun.single (.iovAccepted send buf _ payloadIov payloadSize srcSockAddr), hsend,
      .copying hprovided rfl hpending ⟨hawaits.null, ?_, hawaits.bufLen, ?_, ?_, Nat.zero_le _⟩⟩
    · dsimp only
      rw [UdpBuffer.bufPtr_write, List.take_zero, hawaits.bufPtr]
      simp only [splice_nil, Option.map_id']
    · exact iovIteratorInitToBeginning_within (payloadChain payloadIov)
    · exact iovIteratorInitToBeginning_pos (payloadChain payloadIov)

theorem processIncomingPacket_spec (maxBytesCopiedInTask : ℕ) (h : socket.StandsFor jobs)
    (hready : socket.isReadyToReceive) :
    let r := socket.processIncomingPacket maxBytesCopiedInTask
    ∃ jobs', SpecRun Step jobs r.2 jobs' ∧ r.1.StandsFor jobs' := by
  obtain ⟨send, receive⟩ := jobs
  obtain ⟨hsend, hreceive⟩ := h
  rw [isReadyToReceive, Bool.or_eq_true] at hready
  cases hreceive with
  | idle _ hiov hpending =>
    rw [hiov, hpending] at hready
    exact absurd hready (by decide)
  | waiting _ hiov hpending _ =>
    rw [hiov, hpending] at hready
    exact absurd hready (by decide)
  | @copied buf hprovided hiov hpending hawaits =>
    have hfinished := Step.receiveFinished send buf socket.inState.sockAddrPtr
      socket.inState.payloadLen
    rw [← hawaits.bufPtr, ← hawaits.bufLen] at hfinished
    unfold processIncomingPacket
    dsimp only
    rw [if_pos hpending]
    exact ⟨_, SpecRun.single hfinished, hsend, .idle rfl hiov rfl⟩
  | @copying buf hprovided hiov hpending hcopies =>
    have htotal : (if socket.inState.payloadLen < socket.inState.bufLen then
        socket.inState.payloadLen else socket.inState.bufLen) =
          min socket.inState.payloadLen buf.bufLen := by
      rw [hcopies.bufLen]
      split_ifs <;> omega
    have hoff := hcopies.off_le
    unfold processIncomingPacket
    dsimp only
    rw [htotal, if_neg (ne_true_of_eq_false hpending)]
    have hlen : (if min socket.inState.payloadLen buf.bufLen - socket.inState.bufOff >
        maxBytesCopiedInTask then maxBytesCopiedInTask else
          min socket.inState.payloadLen buf.bufLen - socket.inState.bufOff) ≤
            min socket.inState.payloadLen buf.bufLen - socket.inState.bufOff := by
      split_ifs <;> omega
    generalize (if min socket.inState.payloadLen buf.bufLen - socket.inState.bufOff >
      maxBytesCopiedInTask then maxBytesCopiedInTask else
        min socket.inState.payloadLen buf.bufLen - socket.inState.bufOff) = len at *
    split_ifs with hleft hcount
    · -- all bytes are in the buffer
      have hdone : min socket.inState.payloadLen buf.bufLen = socket.inState.bufOff := by omega
      have hhas : HasBytes buf socket.inState.payloadPtr socket.inState.payloadLen := by
        rw [HasBytes, hdone]
        exact hcopies.pos ▸ hcopies.within.pos_le
      refine ⟨_, SpecRun.single (.iovFinished send _ hhas), hsend,
        .copied hprovided rfl rfl ?_⟩
      rw [receivedBytes, hdone]
      exact awaits_of_copies hcopies
    · -- the chain is too short
      obtain ⟨hread, hcopies'⟩ := hcopies.read (show socket.inState.bufOff + len ≤ _ by omega)
      generalize iovIteratorReadAndMoveForward (payloadChain socket.inState.payloadPtr)
        socket.inState.payloadIter (socket.inState.bufPtr.map (List.drop socket.inState.bufOff)) len =
          r at *
      have hpast : socket.inState.bufOff ≤ (payloadChain socket.inState.payloadPtr).flatten.length :=
        hcopies.pos ▸ hcopies.within.pos_le
      have hall : socket.inState.bufOff + r.1 =
          (payloadChain socket.inState.payloadPtr).flatten.length := by omega
      have hhas : ¬ HasBytes buf socket.inState.payloadPtr socket.inState.payloadLen := by
        rw [HasBytes]
        omega
      have hbytes : receivedBytes buf socket.inState.payloadPtr socket.inState.payloadLen =
          (payloadChain socket.inState.payloadPtr).flatten.take (socket.inState.bufOff + r.1) := by
        rw [HasBytes, not_le] at hhas
        rw [receivedBytes, hall, List.take_length, List.take_of_length_le hhas.le]
      refine ⟨_, SpecRun.single (.iovDropped send _ hhas), hsend,
        .waiting hprovided rfl hpending ?_⟩
      rw [hbytes]
      obtain ⟨hnull, hbufPtr, hbufLen⟩ := awaits_of_copies hcopies'
      exact ⟨hnull, hbufPtr, hbufLen⟩
    · obtain ⟨-, hcopies'⟩ := hcopies.read (show socket.inState.bufOff + len ≤ _ by omega)
      exact ⟨_, .nil _, hsend, .copying hprovided hiov hpending hcopies'⟩

/-! ### Turns -/

/-- How many turns a socket still needs to send, and then waits for the raw socket. -/
def sendTurns (socket : UdpSimpleSocket) : ℕ :=
  socket.outState.bufLen - socket.outState.bufOff + 1

/-- How many turns of all sockets that may take, with the next one so far ahead. -/
def sendLeft (socket : UdpSimpleSocket) (numSockets next : ℕ) : ℕ :=
  if socket.outTrmInProgress then 0 else socket.sendTurns * numSockets + next

/-- How many turns a socket still needs to receive. -/
def receiveTurns (socket : UdpSimpleSocket) : ℕ :=
  if socket.inDelPending then 1
  else min socket.inState.payloadLen socket.inState.bufLen - socket.inState.bufOff + 2

theorem finishSendingDatagram_isFinished (status : ErrorT) :
    ∃ act ∈ (socket.finishSendingDatagram status).2, IsSendFinished act :=
  ⟨_, List.mem_append_right _ (List.mem_singleton_self _), trivial⟩

theorem processOutgoingPacket_turns {maxBytesCopiedInTask : ℕ} (hmax : 0 < maxBytesCopiedInTask)
    (answer : ErrorT) :
    let r := socket.processOutgoingPacket maxBytesCopiedInTask answer
    (∃ act ∈ r.2, IsSendFinished act) ∨ r.1.outTrmInProgress = true ∨
      r.1.outTrmInProgress = socket.outTrmInProgress ∧ r.1.sendTurns + 1 ≤ socket.sendTurns := by
  unfold processOutgoingPacket
  dsimp only
  split_ifs with hleft hanswer hlong hcount hcount
  · obtain ⟨act, hact, hfinished⟩ := @finishSendingDatagram_isFinished socket FAIL
    exact Or.inl ⟨act, List.mem_cons_of_mem _ hact, hfinished⟩
  · exact Or.inr (Or.inl rfl)
  · exact Or.inl (finishSendingDatagram_isFinished FAIL)
  · refine Or.inr (Or.inr ⟨rfl, ?_⟩)
    rw [sendTurns, sendTurns]
    dsimp only at hcount ⊢
    omega
  · exact Or.inl (finishSendingDatagram_isFinished FAIL)
  · refine Or.inr (Or.inr ⟨rfl, ?_⟩)
    rw [sendTurns, sendTurns]
    dsimp only at hcount ⊢
    omega

theorem processIncomingPacket_turns {maxBytesCopiedInTask : ℕ} (hmax : 0 < maxBytesCopiedInTask) :
    let r := socket.processIncomingPacket maxBytesCopiedInTask
    (socket.inDelPending = true ∧ ∃ act ∈ r.2, IsReceiveFinished act) ∨
      r.1.isReadyToReceive = false ∨ r.1.receiveTurns + 1 ≤ socket.receiveTurns := by
  unfold processIncomingPacket
  dsimp only
  by_cases hpending : socket.inDelPending
  · rw [if_pos hpending]
    exact Or.inl ⟨hpending, _, List.mem_singleton_self _, trivial⟩
  · right
    have htotal : (if socket.inState.payloadLen < socket.inState.bufLen then
        socket.inState.payloadLen else socket.inState.bufLen) =
          min socket.inState.payloadLen socket.inState.bufLen := by
      split_ifs <;> omega
    have hturns : socket.receiveTurns =
        min socket.inState.payloadLen socket.inState.bufLen - socket.inState.bufOff + 2 :=
      if_neg hpending
    have hshort (inState : UdpSimpleInState) :
        ({ socket with inState := inState }.finishHandlingIncomingIov).1.isReadyToReceive =
          false := by
      rw [isReadyToReceive, finishHandlingIncomingIov, Bool.or_eq_false_iff]
      exact ⟨rfl, eq_false_of_ne_true hpending⟩
    rw [if_neg hpending, htotal, hturns]
    split_ifs with hleft hlong hcount hcount
    · exact Or.inr (Nat.le_add_left _ _)
    · exact Or.inl (hshort _)
    · right
      rw [receiveTurns, if_neg hpending]
      dsimp only at hcount ⊢
      omega
    · exact Or.inl (hshort _)
    · right
      rw [receiveTurns, if_neg hpending]
      dsimp only at hcount ⊢
      omega

/-! ### The two directions -/

def sendPart (socket : UdpSimpleSocket) : Bool × Bool × UdpSimpleOutState :=
  (socket.outBufAndIovProvided, socket.outTrmInProgress, socket.outState)

def receivePart (socket : UdpSimpleSocket) : Bool × Bool × Bool × UdpSimpleInState :=
  (socket.inBufProvided, socket.inIovProvided, socket.inDelPending, socket.inState)

variable {socket' : UdpSimpleSocket}

theorem isReadyToSend_congr (h : socket'.sendPart = socket.sendPart) :
    socket'.isReadyToSend = socket.isReadyToSend :=
  congrArg (fun part : Bool × Bool × UdpSimpleOutState => part.1 && !part.2.1) h

theorem isReadyToReceive_congr (h : socket'.receivePart = socket.receivePart) :
    socket'.isReadyToReceive = socket.isReadyToReceive :=
  congrArg (fun part : Bool × Bool × Bool × UdpSimpleInState => part.2.1 || part.2.2.1) h

theorem sendLeft_congr (h : socket'.sendPart = socket.sendPart) (numSockets next : ℕ) :
    socket'.sendLeft numSockets next = socket.sendLeft numSockets next :=
  congrArg (fun part : Bool × Bool × UdpSimpleOutState => if part.2.1 then 0
    else (part.2.2.bufLen - part.2.2.bufOff + 1) * numSockets + next) h

theorem receiveTurns_congr (h : socket'.receivePart = socket.receivePart) :
    socket'.receiveTurns = socket.receiveTurns :=
  congrArg (fun part : Bool × Bool × Bool × UdpSimpleInState => if part.2.2.1 then 1
    else min part.2.2.2.payloadLen part.2.2.2.bufLen - part.2.2.2.bufOff + 2) h

theorem receivePart_startSendingDatagram (buf : UdpBuffer) (sockAddrOrNull : Option UdpSocketAddr)
    (answer : Option UdpPayloadIov) :
    (socket.startSendingDatagram buf sockAddrOrNull answer).2.1.receivePart =
      socket.receivePart := by
  unfold startSendingDatagram
  dsimp only
  generalize (if buf.bufLen = 0 then none else answer) = payloadPtr
  split_ifs <;> rfl

theorem isReadyToSend_startSendingDatagram (buf : UdpBuffer)
    (sockAddrOrNull : Option UdpSocketAddr) (answer : Option UdpPayloadIov) :
    let r := socket.startSendingDatagram buf sockAddrOrNull answer
    r.1 = SUCCESS ∨ r.2.1.isReadyToSend = socket.isReadyToSend := by
  unfold startSendingDatagram
  dsimp only
  generalize (if buf.bufLen = 0 then none else answer) = payloadPtr
  split_ifs
  all_goals first | exact Or.inr rfl | exact Or.inl rfl

theorem startSendingDatagram_of_busy (h : socket.outBufAndIovProvided = true) (buf : UdpBuffer)
    (sockAddrOrNull : Option UdpSocketAddr) (answer : Option UdpPayloadIov) :
    (socket.startSendingDatagram buf sockAddrOrNull answer).2.1 = socket := by
  unfold startSendingDatagram
  rw [if_pos h]
  split_ifs <;> rfl

theorem receivePart_processOutgoingPacket (maxBytesCopiedInTask : ℕ) (answer : ErrorT) :
    (socket.processOutgoingPacket maxBytesCopiedInTask answer).1.receivePart =
      socket.receivePart := by
  unfold processOutgoingPacket
  dsimp only
  split_ifs <;> rfl

theorem sendPart_startReceivingDatagram (buf : UdpBuffer)
    (sockAddrOrNull : Option UdpSocketAddr) :
    (socket.startReceivingDatagram buf sockAddrOrNull).1.sendPart = socket.sendPart := by
  unfold startReceivingDatagram
  split_ifs <;> rfl

theorem isReadyToReceive_startReceivingDatagram (buf : UdpBuffer)
    (sockAddrOrNull : Option UdpSocketAddr) :
    (socket.startReceivingDatagram buf sockAddrOrNull).1.isReadyToReceive =
      socket.isReadyToReceive := by
  unfold startReceivingDatagram
  split_ifs <;> rfl

theorem startReceivingDatagram_of_busy (h : socket.inBufProvided = true) (buf : UdpBuffer)
    (sockAddrOrNull : Option UdpSocketAddr) :
    (socket.startReceivingDatagram buf sockAddrOrNull).1 = socket := by
  unfold startReceivingDatagram
  rw [if_pos h]
  split_ifs <;> rfl

theorem sendPart_startHandlingIncomingIov (payloadIov : Option UdpPayloadIov)
    (payloadSize : ℕ) (srcSockAddr : UdpSocketAddr) :
    (socket.startHandlingIncomingIov payloadIov payloadSize srcSockAddr).2.1.sendPart =
      socket.sendPart := by
  unfold startHandlingIncomingIov
  split_ifs <;> rfl

theorem isReadyToReceive_startHandlingIncomingIov (payloadIov : Option UdpPayloadIov)
    (payloadSize : ℕ) (srcSockAddr : UdpSocketAddr) :
    let r := socket.startHandlingIncomingIov payloadIov payloadSize srcSockAddr
    r.1 = SUCCESS ∨ r.2.1.isReadyToReceive = socket.isReadyToReceive := by
  unfold startHandlingIncomingIov
  split_ifs
  all_goals first | exact Or.inr rfl | exact Or.inl rfl

theorem startHandlingIncomingIov_of_busy (h : socket.isReadyToReceive = true)
    (payloadIov : Option UdpPayloadIov) (payloadSize : ℕ) (srcSockAddr : UdpSocketAddr) :
    (socket.startHandlingIncomingIov payloadIov payloadSize srcSockAddr).2.1 = socket := by
  unfold startHandlingIncomingIov
  rw [isReadyToReceive] at h
  rw [if_pos h]
  split_ifs <;> rfl

theorem sendPart_processIncomingPacket (maxBytesCopiedInTask : ℕ) :
    (socket.processIncomingPacket maxBytesCopiedInTask).1.sendPart = socket.sendPart := by
  unfold processIncomingPacket
  dsimp only
  split_ifs <;> rfl

/-! ### What the jobs tell of a socket -/

theorem StandsFor.isReadyToReceive_of_hasDatagram (h : socket.StandsFor jobs)
    (hdatagram : HasDatagram jobs) : socket.isReadyToReceive = true := by
  obtain ⟨send, receive⟩ := jobs
  rw [isReadyToReceive, Bool.or_eq_true]
  cases h.receive with
  | idle _ _ _ => exact absurd hdatagram id
  | waiting _ _ _ _ => exact absurd hdatagram id
  | copying _ hiov _ _ => exact Or.inl hiov
  | copied _ _ hpending _ => exact Or.inr hpending

theorem StandsFor.holdsIov (h : socket.StandsFor jobs) (hholds : HoldsIov jobs) :
    socket.isReadyToReceive = true ∧ socket.inDelPending = false := by
  obtain ⟨send, receive⟩ := jobs
  rw [isReadyToReceive, Bool.or_eq_true]
  cases h.receive with
  | idle _ _ _ => exact absurd hholds id
  | waiting _ _ _ _ => exact absurd hholds id
  | copying _ hiov hpending _ => exact ⟨Or.inl hiov, hpending⟩
  | copied _ _ _ _ => exact absurd hholds id

theorem StandsFor.inBufProvided (h : socket.StandsFor jobs)
    (hready : socket.isReadyToReceive = true) : socket.inBufProvided = true := by
  obtain ⟨send, receive⟩ := jobs
  rw [isReadyToReceive] at hready
  cases h.receive with
  | idle _ hiov hpending =>
    rw [hiov, hpending] at hready
    exact absurd hready (by decide)
  | waiting hprovided _ _ _ => exact hprovided
  | copying hprovided _ _ _ => exact hprovided
  | copied hprovided _ _ _ => exact hprovided

theorem StandsFor.outBufAndIovProvided (h : socket.StandsFor jobs) (hsend : IsSending jobs) :
    socket.outBufAndIovProvided = true := by
  obtain ⟨send, receive⟩ := jobs
  cases h.send with
  | idle _ _ => exact absurd hsend Bool.false_ne_true
  | copying hprovided _ _ _ _ => exact hprovided
  | sending hprovided _ _ _ => exact hprovided

theorem StandsFor.sendLeft_lt (h : socket.StandsFor jobs) (hsend : jobs.send = some job)
    {numSockets next : ℕ} (hnext : next < numSockets) :
    socket.sendLeft numSockets next < (job.buf.bufLen + 2) * numSockets := by
  have hturns : socket.sendTurns ≤ job.buf.bufLen + 1 := by
    obtain ⟨send, receive⟩ := jobs
    obtain rfl : send = some job := hsend
    have hbufLen : socket.outState.bufLen = job.buf.bufLen := by
      cases h.send with
      | copying _ _ _ hsends _ => exact hsends.bufLen
      | sending _ _ _ hsends => exact hsends.bufLen
    rw [sendTurns, hbufLen]
    exact Nat.succ_le_succ (Nat.sub_le _ _)
  have hmul := Nat.mul_le_mul_right numSockets hturns
  have hsplit : (job.buf.bufLen + 2) * numSockets =
      (job.buf.bufLen + 1) * numSockets + numSockets := Nat.succ_mul _ _
  rw [sendLeft]
  split_ifs <;> omega

theorem StandsFor.receiveTurns_le (h : socket.StandsFor jobs)
    (hready : socket.isReadyToReceive = true) : socket.receiveTurns ≤ receiveSize jobs + 2 := by
  obtain ⟨send, receive⟩ := jobs
  rw [isReadyToReceive] at hready
  cases h.receive with
  | idle _ hiov hpending =>
    rw [hiov, hpending] at hready
    exact absurd hready (by decide)
  | waiting _ hiov hpending _ =>
    rw [hiov, hpending] at hready
    exact absurd hready (by decide)
  | copying _ _ hpending hcopies =>
    rw [receiveTurns, if_neg (ne_true_of_eq_false hpending), hcopies.bufLen]
    exact Nat.add_le_add_right (Nat.sub_le _ _) 2
  | copied _ _ hpending _ =>
    rw [receiveTurns, if_pos hpending]
    exact Nat.le_add_left 1 _

end UdpSimpleSocket

/-! ## The virtualizer and the jobs of all sockets -/

namespace UdpSimpleSocketVirtualizer

open UdpSimpleJobs UdpSimpleSocket

/-- The sockets do their jobs, and a task is posted where a socket is ready for it. -/
structure StandsFor (numSockets : ℕ) (s : UdpSimpleSocketVirtualizer) (m : ℕ → UdpSimpleJobs) :
    Prop where
  sockets : ∀ i, (s.sockets i).StandsFor (m i)
  currOutSock_lt : 0 < numSockets → s.currOutSock < numSockets
  currInSock_lt : 0 < numSockets → s.currInSock < numSockets
  outPosted : ∀ i < numSockets, (s.sockets i).isReadyToSend = true →
    s.processOutgoingPacketsTaskPosted = true
  inPosted : ∀ i < numSockets, (s.sockets i).isReadyToReceive = true →
    s.processIncomingPacketsTaskPosted = true

variable {numSockets maxBytesCopiedInTask : ℕ} {s : UdpSimpleSocketVirtualizer}
  {m : ℕ → UdpSimpleJobs}

/-- A socket takes a step that its jobs can follow. -/
theorem StandsFor.update (h : StandsFor numSockets s m) {sockId : ℕ}
    {r : UdpSimpleSocket × List UdpSimpleAct}
    (hr : ∃ jobs', SpecRun Step (m sockId) r.2 jobs' ∧ r.1.StandsFor jobs')
    (hout : r.1.isReadyToSend = true → s.processOutgoingPacketsTaskPosted = true ∨
      (s.sockets sockId).isReadyToSend = true)
    (hin : r.1.isReadyToReceive = true → s.processIncomingPacketsTaskPosted = true ∨
      (s.sockets sockId).isReadyToReceive = true) :
    ∃ m', SpecRun (AtIndex Step) m (s.update sockId r).2 m' ∧
      StandsFor numSockets (s.update sockId r).1 m' := by
  obtain ⟨jobs', hrun, hstands⟩ := hr
  refine ⟨Function.update m sockId jobs', hrun.atIndex, ?_, h.currOutSock_lt, h.currInSock_lt,
    fun i hi hready => ?_, fun i hi hready => ?_⟩
  · intro i
    rcases eq_or_ne i sockId with rfl | hi
    · rw [UdpSimpleSocketVirtualizer.update]
      dsimp only
      rw [Function.update_self, Function.update_self]
      exact hstands
    · rw [UdpSimpleSocketVirtualizer.update]
      dsimp only
      rw [Function.update_of_ne hi, Function.update_of_ne hi]
      exact h.sockets i
  · rw [UdpSimpleSocketVirtualizer.update] at hready ⊢
    dsimp only at hready ⊢
    rcases eq_or_ne i sockId with rfl | hne
    · rw [Function.update_self] at hready
      exact (hout hready).elim id (h.outPosted i hi)
    · rw [Function.update_of_ne hne] at hready
      exact h.outPosted i hi hready
  · rw [UdpSimpleSocketVirtualizer.update] at hready ⊢
    dsimp only at hready ⊢
    rcases eq_or_ne i sockId with rfl | hne
    · rw [Function.update_self] at hready
      exact (hin hready).elim id (h.inPosted i hi)
    · rw [Function.update_of_ne hne] at hready
      exact h.inPosted i hi hready

theorem StandsFor.postOut (h : StandsFor numSockets s m) (post : Bool) :
    StandsFor numSockets { s with
      processOutgoingPacketsTaskPosted := s.processOutgoingPacketsTaskPosted || post } m where
  sockets := h.sockets
  currOutSock_lt := h.currOutSock_lt
  currInSock_lt := h.currInSock_lt
  outPosted i hi hready := Bool.or_eq_true _ _ ▸ Or.inl (h.outPosted i hi hready)
  inPosted := h.inPosted

theorem StandsFor.postIn (h : StandsFor numSockets s m) (post : Bool) :
    StandsFor numSockets { s with
      processIncomingPacketsTaskPosted := s.processIncomingPacketsTaskPosted || post } m where
  sockets := h.sockets
  currOutSock_lt := h.currOutSock_lt
  currInSock_lt := h.currInSock_lt
  outPosted := h.outPosted
  inPosted i hi hready := Bool.or_eq_true _ _ ▸ Or.inl (h.inPosted i hi hready)

theorem startSendingDatagram_stands (h : StandsFor numSockets s m) (buf : UdpBuffer)
    (sockAddrOrNull : Option UdpSocketAddr) (sockId : ℕ) (answer : Option UdpPayloadIov) :
    let r := s.startSendingDatagram buf sockAddrOrNull sockId answer
    ∃ m', SpecRun (AtIndex Step) m r.2 m' ∧ StandsFor numSockets r.1 m' := by
  refine (h.postOut _).update (startSendingDatagram_spec (h.sockets sockId) buf sockAddrOrNull
    answer) (fun hready => ?_) (fun hready => ?_)
  · rcases @isReadyToSend_startSendingDatagram (s.sockets sockId) buf sockAddrOrNull answer with
      hsuccess | hsame
    · left
      rw [hsuccess]
      exact Bool.or_true _
    · exact Or.inr (hsame ▸ hready)
  · rw [isReadyToReceive_congr (receivePart_startSendingDatagram _ _ _)] at hready
    exact Or.inr hready

theorem startHandlingIncomingIov_stands (h : StandsFor numSockets s m)
    (payloadIov : Option UdpPayloadIov) (payloadSize : ℕ) (srcSockAddr : UdpSocketAddr)
    (sockId : ℕ) :
    let r := s.startHandlingIncomingIov payloadIov payloadSize srcSockAddr sockId
    ∃ m', SpecRun (AtIndex Step) m r.2 m' ∧ StandsFor numSockets r.1 m' := by
  refine (h.postIn _).update (startHandlingIncomingIov_spec (h.sockets sockId) payloadIov
    payloadSize srcSockAddr) (fun hready => ?_) (fun hready => ?_)
  · rw [isReadyToSend_congr (sendPart_startHandlingIncomingIov _ _ _)] at hready
    exact Or.inr hready
  · rcases @isReadyToReceive_startHandlingIncomingIov (s.sockets sockId) payloadIov payloadSize
      srcSockAddr with hsuccess | hsame
    · left
      rw [hsuccess]
      exact Bool.or_true _
    · exact Or.inr (hsame ▸ hready)

theorem startReceivingDatagram_stands (h : StandsFor numSockets s m) (buf : UdpBuffer)
    (sockAddrOrNull : Option UdpSocketAddr) (sockId : ℕ) :
    let r := s.update sockId ((s.sockets sockId).startReceivingDatagram buf sockAddrOrNull)
    ∃ m', SpecRun (AtIndex Step) m r.2 m' ∧ StandsFor numSockets r.1 m' := by
  refine h.update (startReceivingDatagram_spec (h.sockets sockId) buf sockAddrOrNull)
    (fun hready => ?_) (fun hready => ?_)
  · rw [isReadyToSend_congr (sendPart_startReceivingDatagram _ _)] at hready
    exact Or.inr hready
  · rw [isReadyToReceive_startReceivingDatagram] at hready
    exact Or.inr hready

theorem processOutgoingPacketsTask_stands (h : StandsFor numSockets s m) (answer : ErrorT) :
    let r := s.processOutgoingPacketsTask numSockets maxBytesCopiedInTask answer
    ∃ m', SpecRun (AtIndex Step) m r.2 m' ∧ StandsFor numSockets r.1 m' := by
  unfold processOutgoingPacketsTask
  cases hfind : (circle numSockets s.currOutSock).find? fun i => (s.sockets i).isReadyToSend with
  | none =>
    refine ⟨m, .nil m, h.sockets, h.currOutSock_lt, h.currInSock_lt, fun i hi hready => ?_,
      h.inPosted⟩
    have hnot := find?_circle_none (h.currOutSock_lt (Nat.zero_lt_of_lt hi)) hfind i hi
    exact absurd (hready.symm.trans hnot).symm Bool.false_ne_true
  | some sockId =>
    have hready := List.find?_some hfind
    have hstands : StandsFor numSockets { s with
        currOutSock := nextIdx numSockets sockId
        processOutgoingPacketsTaskPosted := true } m := by
      refine ⟨h.sockets, fun hpos => ?_, h.currInSock_lt, fun _ _ _ => rfl, h.inPosted⟩
      exact nextIdx_lt (find?_circle_some (h.currOutSock_lt hpos) hfind).2.1
    refine hstands.update (processOutgoingPacket_spec maxBytesCopiedInTask (h.sockets sockId) hready
      answer) (fun _ => Or.inl rfl) (fun hreceive => ?_)
    rw [isReadyToReceive_congr (receivePart_processOutgoingPacket _ _)] at hreceive
    exact Or.inr hreceive

theorem processIncomingPacketsTask_stands (h : StandsFor numSockets s m) :
    let r := s.processIncomingPacketsTask numSockets maxBytesCopiedInTask
    ∃ m', SpecRun (AtIndex Step) m r.2 m' ∧ StandsFor numSockets r.1 m' := by
  unfold processIncomingPacketsTask
  cases hfind : (circle numSockets s.currInSock).find? fun i => (s.sockets i).isReadyToReceive with
  | none =>
    refine ⟨m, .nil m, h.sockets, h.currOutSock_lt, h.currInSock_lt, h.outPosted,
      fun i hi hready => ?_⟩
    have hnot := find?_circle_none (h.currInSock_lt (Nat.zero_lt_of_lt hi)) hfind i hi
    exact absurd (hready.symm.trans hnot).symm Bool.false_ne_true
  | some sockId =>
    have hready := List.find?_some hfind
    have hstands : StandsFor numSockets { s with
        currInSock := nextIdx numSockets sockId
        processIncomingPacketsTaskPosted := true } m := by
      refine ⟨h.sockets, h.currOutSock_lt, fun hpos => ?_, h.outPosted, fun _ _ _ => rfl⟩
      exact nextIdx_lt (find?_circle_some (h.currInSock_lt hpos) hfind).2.1
    refine hstands.update (processIncomingPacket_spec maxBytesCopiedInTask (h.sockets sockId) hready)
      (fun hsend => ?_) (fun _ => Or.inl rfl)
    rw [isReadyToSend_congr (sendPart_processIncomingPacket _)] at hsend
    exact Or.inr hsend

theorem step_spec (h : StandsFor numSockets s m) {event : UdpSimpleEvent}
    (hallowed : Allowed numSockets s event) :
    let r := s.step numSockets maxBytesCopiedInTask event
    ∃ m', SpecRun (AtIndex Step) m r.2 m' ∧ StandsFor numSockets r.1 m' := by
  have hrefused (sockId : ℕ) {act : UdpSimpleAct} (hact : Step (m sockId) act (m sockId)) :
      SpecRun (AtIndex Step) m [(sockId, act)] m := SpecRun.single ⟨hact, fun _ _ => rfl⟩
  cases event with
  | startSending sockId buf answer => exact startSendingDatagram_stands h buf none sockId answer
  | startSendingTo sockId buf sockAddr answer =>
    cases sockAddr with
    | none => exact ⟨m, hrefused sockId (.sendRefused _ (by decide)), h⟩
    | some sockAddr => exact startSendingDatagram_stands h buf (some sockAddr) sockId answer
  | processOutgoingPacketsTask answer =>
    simp only [step]
    split_ifs
    · exact processOutgoingPacketsTask_stands h answer
    · exact ⟨m, .nil m, h⟩
  | rawFinishSending sockId status =>
    refine h.update (rawFinishSending_spec (h.sockets sockId) hallowed.2 status)
      (fun hready => ?_) (fun hready => Or.inr hready)
    exact absurd hready Bool.false_ne_true
  | startReceiving sockId buf => exact startReceivingDatagram_stands h buf none sockId
  | startReceivingFrom sockId buf sockAddr =>
    cases sockAddr with
    | none => exact ⟨m, hrefused sockId (.receiveRefused _ (by decide)), h⟩
    | some sockAddr => exact startReceivingDatagram_stands h buf (some sockAddr) sockId
  | rawStartReceiving sockId payloadIov payloadSize srcSockAddr =>
    exact startHandlingIncomingIov_stands h payloadIov payloadSize srcSockAddr sockId
  | processIncomingPacketsTask =>
    simp only [step]
    split_ifs
    · exact processIncomingPacketsTask_stands h
    · exact ⟨m, .nil m, h⟩

theorem standsFor_initial : StandsFor numSockets initial fun _ => UdpSimpleJobs.empty where
  sockets _ := ⟨.idle rfl rfl, .idle rfl rfl rfl⟩
  currOutSock_lt h := h
  currInSock_lt h := h
  outPosted _ _ hready := absurd hready Bool.false_ne_true
  inPosted _ _ hready := absurd hready Bool.false_ne_true

/-! ### Progress -/

/-- The tasks copy for a socket, or its raw socket finishes what it sends. -/
def awaitedSend (sockId : ℕ) (s : UdpSimpleSocketVirtualizer) : UdpSimpleEvent → Bool
  | .processOutgoingPacketsTask _ =>
    s.processOutgoingPacketsTaskPosted && !(s.sockets sockId).outTrmInProgress
  | .rawFinishSending i _ => i == sockId && (s.sockets sockId).outTrmInProgress
  | _ => false

def awaitedReceive (s : UdpSimpleSocketVirtualizer) : UdpSimpleEvent → Bool
  | .processIncomingPacketsTask => s.processIncomingPacketsTaskPosted
  | _ => false

def leftSend (numSockets sockId : ℕ) (s : UdpSimpleSocketVirtualizer) : ℕ :=
  (s.sockets sockId).sendLeft numSockets (ahead numSockets s.currOutSock sockId)

def leftReceive (numSockets sockId : ℕ) (s : UdpSimpleSocketVirtualizer) : ℕ :=
  (s.sockets sockId).receiveTurns * numSockets + ahead numSockets s.currInSock sockId

variable {sockId : ℕ}

theorem leftSend_congr {s' : UdpSimpleSocketVirtualizer}
    (h : (s'.sockets sockId).sendPart = (s.sockets sockId).sendPart)
    (hcurr : s'.currOutSock = s.currOutSock) :
    leftSend numSockets sockId s' = leftSend numSockets sockId s := by
  rw [leftSend, leftSend, sendLeft_congr h, hcurr]

theorem leftReceive_congr {s' : UdpSimpleSocketVirtualizer}
    (h : (s'.sockets sockId).receivePart = (s.sockets sockId).receivePart)
    (hcurr : s'.currInSock = s.currInSock) :
    leftReceive numSockets sockId s' = leftReceive numSockets sockId s := by
  rw [leftReceive, leftReceive, receiveTurns_congr h, hcurr]

/-- A step of a socket leaves a part of every other one, and maybe of the same one. -/
theorem sockets_update {α : Type*} (part : UdpSimpleSocket → α) {i : ℕ}
    {r : UdpSimpleSocket × List UdpSimpleAct}
    (h : i = sockId → part r.1 = part (s.sockets sockId)) :
    part ((s.update i r).1.sockets sockId) = part (s.sockets sockId) := by
  rw [UdpSimpleSocketVirtualizer.update]
  dsimp only
  rcases eq_or_ne sockId i with rfl | hne
  · rw [Function.update_self, h rfl]
  · rw [Function.update_of_ne hne]

/-- An outgoing turn. -/
theorem leftSend_task (h : StandsFor numSockets s m) (hi : sockId < numSockets)
    (hmax : 0 < maxBytesCopiedInTask) (hready : (s.sockets sockId).isReadyToSend = true)
    (answer : ErrorT) :
    let r := s.processOutgoingPacketsTask numSockets maxBytesCopiedInTask answer
    (∃ act, IsSendFinished act ∧ (sockId, act) ∈ r.2) ∨
      leftSend numSockets sockId r.1 + 1 ≤ leftSend numSockets sockId s := by
  have hcurr := h.currOutSock_lt (Nat.zero_lt_of_lt hi)
  have htrm : (s.sockets sockId).outTrmInProgress = false := by
    rw [isReadyToSend, Bool.and_eq_true, Bool.not_eq_true'] at hready
    exact hready.2
  have hleft : leftSend numSockets sockId s = (s.sockets sockId).sendTurns * numSockets +
      ahead numSockets s.currOutSock sockId := if_neg (ne_true_of_eq_false htrm)
  unfold processOutgoingPacketsTask
  cases hfind : (circle numSockets s.currOutSock).find? fun i => (s.sockets i).isReadyToSend with
  | none =>
    have hnot := find?_circle_none hcurr hfind sockId hi
    exact absurd (hready.symm.trans hnot).symm Bool.false_ne_true
  | some j =>
    obtain ⟨-, hj, hfirst⟩ := find?_circle_some hcurr hfind
    dsimp only
    rw [hleft, UdpSimpleSocketVirtualizer.update, leftSend]
    dsimp only
    rcases eq_or_ne sockId j with rfl | hne
    · rw [Function.update_self]
      rcases @processOutgoingPacket_turns (s.sockets sockId) _ hmax answer with
        ⟨act, hact, hfinished⟩ | hsending | ⟨hsame, hturns⟩
      · exact Or.inl ⟨act, hfinished, List.mem_map_of_mem hact⟩
      · right
        rw [sendLeft, if_pos hsending]
        have hpos : 1 * numSockets ≤ (s.sockets sockId).sendTurns * numSockets :=
          Nat.mul_le_mul_right _ (Nat.le_add_left 1 _)
        omega
      · right
        rw [sendLeft, if_neg (ne_true_of_eq_false (hsame.trans htrm))]
        exact ahead_nextIdx_turn hi hturns
    · right
      rw [Function.update_of_ne hne, sendLeft, if_neg (ne_true_of_eq_false htrm)]
      have hahead := ahead_nextIdx_other hcurr hi hj (hfirst sockId hi hready) hne.symm
      omega

/-- An incoming turn. -/
theorem leftReceive_task (h : StandsFor numSockets s m) (hi : sockId < numSockets)
    (hmax : 0 < maxBytesCopiedInTask) (hready : (s.sockets sockId).isReadyToReceive = true) :
    let r := s.processIncomingPacketsTask numSockets maxBytesCopiedInTask
    ((s.sockets sockId).inDelPending = true ∧
        ∃ act, IsReceiveFinished act ∧ (sockId, act) ∈ r.2) ∨
      (r.1.sockets sockId).isReadyToReceive = false ∨
      leftReceive numSockets sockId r.1 + 1 ≤ leftReceive numSockets sockId s := by
  have hcurr := h.currInSock_lt (Nat.zero_lt_of_lt hi)
  unfold processIncomingPacketsTask
  cases hfind : (circle numSockets s.currInSock).find? fun i => (s.sockets i).isReadyToReceive with
  | none =>
    have hnot := find?_circle_none hcurr hfind sockId hi
    exact absurd (hready.symm.trans hnot).symm Bool.false_ne_true
  | some j =>
    obtain ⟨-, hj, hfirst⟩ := find?_circle_some hcurr hfind
    dsimp only
    rw [UdpSimpleSocketVirtualizer.update, leftReceive, leftReceive]
    dsimp only
    rcases eq_or_ne sockId j with rfl | hne
    · rw [Function.update_self]
      rcases @processIncomingPacket_turns (s.sockets sockId) _ hmax with
        ⟨hpending, act, hact, hfinished⟩ | hshort | hturns
      · exact Or.inl ⟨hpending, act, hfinished, List.mem_map_of_mem hact⟩
      · exact Or.inr (Or.inl hshort)
      · exact Or.inr (Or.inr (ahead_nextIdx_turn hi hturns))
    · rw [Function.update_of_ne hne]
      have hahead := ahead_nextIdx_other hcurr hi hj (hfirst sockId hi hready) hne.symm
      exact Or.inr (Or.inr (by omega))

/-- With the raw socket, a socket gets no turn. -/
theorem leftSend_task_of_trm (htrm : (s.sockets sockId).outTrmInProgress = true)
    (answer : ErrorT) :
    leftSend numSockets sockId
      (s.processOutgoingPacketsTask numSockets maxBytesCopiedInTask answer).1 = 0 := by
  rw [leftSend]
  unfold processOutgoingPacketsTask
  cases hfind : (circle numSockets s.currOutSock).find? fun i => (s.sockets i).isReadyToSend with
  | none => exact if_pos htrm
  | some j =>
    have hready := List.find?_some hfind
    have hne : sockId ≠ j := by
      rintro rfl
      rw [isReadyToSend, htrm, Bool.not_true, Bool.and_false] at hready
      exact absurd hready Bool.false_ne_true
    dsimp only
    rw [UdpSimpleSocketVirtualizer.update]
    dsimp only
    rw [Function.update_of_ne hne]
    exact if_pos htrm

theorem leftSend_step (h : StandsFor numSockets s m) (hi : sockId < numSockets)
    (hmax : 0 < maxBytesCopiedInTask) (hsend : IsSending (m sockId)) (event : UdpSimpleEvent) :
    let r := s.step numSockets maxBytesCopiedInTask event
    (∃ act, IsSendFinished act ∧ (sockId, act) ∈ r.2) ∨
      leftSend numSockets sockId r.1 + (if s.awaitedSend sockId event then 1 else 0) ≤
        leftSend numSockets sockId s := by
  have hprovided := (h.sockets sockId).outBufAndIovProvided hsend
  have hsame {s' : UdpSimpleSocketVirtualizer}
      (hpart : (s'.sockets sockId).sendPart = (s.sockets sockId).sendPart)
      (hcurr : s'.currOutSock = s.currOutSock) :
      leftSend numSockets sockId s' + 0 ≤ leftSend numSockets sockId s :=
    (leftSend_congr hpart hcurr).le
  have hbusy (i : ℕ) (buf : UdpBuffer) (sockAddrOrNull : Option UdpSocketAddr)
      (answer : Option UdpPayloadIov) :
      leftSend numSockets sockId (s.startSendingDatagram buf sockAddrOrNull i answer).1 + 0 ≤
        leftSend numSockets sockId s := by
    refine hsame (sockets_update sendPart fun heq => ?_) rfl
    subst heq
    exact congrArg sendPart (startSendingDatagram_of_busy hprovided buf sockAddrOrNull answer)
  cases event with
  | startSending i buf answer => exact Or.inr (hbusy i buf none answer)
  | startSendingTo i buf sockAddr answer =>
    cases sockAddr with
    | none => exact Or.inr le_rfl
    | some sockAddr => exact Or.inr (hbusy i buf (some sockAddr) answer)
  | processOutgoingPacketsTask answer =>
    simp only [step]
    rw [awaitedSend]
    by_cases hposted : s.processOutgoingPacketsTaskPosted = true
    · rw [if_pos hposted, hposted, Bool.true_and]
      cases htrm : (s.sockets sockId).outTrmInProgress with
      | true =>
        right
        rw [leftSend_task_of_trm htrm]
        exact Nat.zero_le _
      | false =>
        refine leftSend_task h hi hmax ?_ answer
        rw [isReadyToSend, hprovided, htrm]
        rfl
    · rw [if_neg hposted, eq_false_of_ne_true hposted]
      exact Or.inr le_rfl
  | rawFinishSending i status =>
    rcases eq_or_ne i sockId with rfl | hne
    · obtain ⟨act, hact, hfinished⟩ := @finishSendingDatagram_isFinished (s.sockets i)
        (if status ≠ SUCCESS then FAIL else SUCCESS)
      exact Or.inl ⟨act, hfinished, List.mem_map_of_mem (List.mem_cons_of_mem _ hact)⟩
    · right
      rw [awaitedSend, beq_false_of_ne hne, Bool.false_and]
      exact hsame (sockets_update sendPart fun heq => absurd heq hne) rfl
  | startReceiving i buf =>
    refine Or.inr (hsame (sockets_update sendPart fun heq => ?_) rfl)
    rw [heq]
    exact sendPart_startReceivingDatagram buf none
  | startReceivingFrom i buf sockAddr =>
    cases sockAddr with
    | none => exact Or.inr le_rfl
    | some sockAddr =>
      refine Or.inr (hsame (sockets_update sendPart fun heq => ?_) rfl)
      rw [heq]
      exact sendPart_startReceivingDatagram buf (some sockAddr)
  | rawStartReceiving i payloadIov payloadSize srcSockAddr =>
    refine Or.inr (hsame (sockets_update sendPart fun heq => ?_) rfl)
    subst heq
    exact sendPart_startHandlingIncomingIov payloadIov payloadSize srcSockAddr
  | processIncomingPacketsTask =>
    right
    simp only [step]
    by_cases hposted : s.processIncomingPacketsTaskPosted = true
    · rw [if_pos hposted]
      unfold processIncomingPacketsTask
      split
      · exact hsame rfl rfl
      · refine hsame (sockets_update sendPart fun heq => ?_) rfl
        subst heq
        exact sendPart_processIncomingPacket maxBytesCopiedInTask
    · rw [if_neg hposted]
      exact le_rfl

theorem leftReceive_step (h : StandsFor numSockets s m) (hi : sockId < numSockets)
    (hmax : 0 < maxBytesCopiedInTask) (hready : (s.sockets sockId).isReadyToReceive = true)
    (event : UdpSimpleEvent) :
    let r := s.step numSockets maxBytesCopiedInTask event
    ((s.sockets sockId).inDelPending = true ∧
        ∃ act, IsReceiveFinished act ∧ (sockId, act) ∈ r.2) ∨
      (r.1.sockets sockId).isReadyToReceive = false ∨
      leftReceive numSockets sockId r.1 + (if s.awaitedReceive event then 1 else 0) ≤
        leftReceive numSockets sockId s := by
  have hsame {s' : UdpSimpleSocketVirtualizer}
      (hpart : (s'.sockets sockId).receivePart = (s.sockets sockId).receivePart)
      (hcurr : s'.currInSock = s.currInSock) :
      leftReceive numSockets sockId s' + 0 ≤ leftReceive numSockets sockId s :=
    (leftReceive_congr hpart hcurr).le
  have hsend (i : ℕ) (buf : UdpBuffer) (sockAddrOrNull : Option UdpSocketAddr)
      (answer : Option UdpPayloadIov) :
      leftReceive numSockets sockId (s.startSendingDatagram buf sockAddrOrNull i answer).1 + 0 ≤
        leftReceive numSockets sockId s := by
    refine hsame (sockets_update receivePart fun heq => ?_) rfl
    subst heq
    exact receivePart_startSendingDatagram buf sockAddrOrNull answer
  have hbusy (i : ℕ) (buf : UdpBuffer) (sockAddrOrNull : Option UdpSocketAddr) :
      leftReceive numSockets sockId (s.update i
        ((s.sockets i).startReceivingDatagram buf sockAddrOrNull)).1 + 0 ≤
          leftReceive numSockets sockId s := by
    refine hsame (sockets_update receivePart fun heq => ?_) rfl
    subst heq
    exact congrArg receivePart (startReceivingDatagram_of_busy
      ((h.sockets i).inBufProvided hready) buf sockAddrOrNull)
  cases event with
  | startSending i buf answer => exact Or.inr (Or.inr (hsend i buf none answer))
  | startSendingTo i buf sockAddr answer =>
    cases sockAddr with
    | none => exact Or.inr (Or.inr le_rfl)
    | some sockAddr => exact Or.inr (Or.inr (hsend i buf (some sockAddr) answer))
  | processOutgoingPacketsTask answer =>
    right
    right
    simp only [step]
    by_cases hposted : s.processOutgoingPacketsTaskPosted = true
    · rw [if_pos hposted]
      unfold processOutgoingPacketsTask
      split
      · exact hsame rfl rfl
      · refine hsame (sockets_update receivePart fun heq => ?_) rfl
        subst heq
        exact receivePart_processOutgoingPacket maxBytesCopiedInTask answer
    · rw [if_neg hposted]
      exact le_rfl
  | rawFinishSending i status =>
    refine Or.inr (Or.inr (hsame (sockets_update receivePart fun heq => ?_) rfl))
    rw [heq]
    rfl
  | startReceiving i buf => exact Or.inr (Or.inr (hbusy i buf none))
  | startReceivingFrom i buf sockAddr =>
    cases sockAddr with
    | none => exact Or.inr (Or.inr le_rfl)
    | some sockAddr => exact Or.inr (Or.inr (hbusy i buf (some sockAddr)))
  | rawStartReceiving i payloadIov payloadSize srcSockAddr =>
    refine Or.inr (Or.inr (hsame (sockets_update receivePart fun heq => ?_) rfl))
    subst heq
    exact congrArg receivePart
      (startHandlingIncomingIov_of_busy hready payloadIov payloadSize srcSockAddr)
  | processIncomingPacketsTask =>
    simp only [step]
    rw [awaitedReceive]
    by_cases hposted : s.processIncomingPacketsTaskPosted = true
    · rw [if_pos hposted, hposted]
      exact leftReceive_task h hi hmax hready
    · rw [if_neg hposted, eq_false_of_ne_true hposted]
      exact Or.inr (Or.inr le_rfl)

/-! ### Every run -/

/-- What a socket has begun comes to its end: what it waits for can happen, and after so many such
events it has ended. -/
structure Progresses (numSockets maxBytesCopiedInTask : ℕ) (s : UdpSimpleSocketVirtualizer)
    (sockId : ℕ) (jobs : UdpSimpleJobs) : Prop where
  sendAwaited : IsSending jobs → ∃ event, Allowed numSockets s event ∧
    s.awaitedSend sockId event = true
  sendFinishes : ∀ job, jobs.send = some job → ∀ later,
    RunMeets (step numSockets maxBytesCopiedInTask) (Allowed numSockets) s later →
    (job.buf.bufLen + 2) * numSockets ≤
      awaitedSteps (step numSockets maxBytesCopiedInTask) (awaitedSend sockId) s later →
    ∃ act, IsSendFinished act ∧
      (sockId, act) ∈ (run (step numSockets maxBytesCopiedInTask) s later).2
  receiveAwaited : HasDatagram jobs ∨ HoldsIov jobs →
    s.awaitedReceive .processIncomingPacketsTask = true
  receiveFinishes : HasDatagram jobs → ∀ later,
    RunMeets (step numSockets maxBytesCopiedInTask) (Allowed numSockets) s later →
    (receiveSize jobs + 3) * numSockets ≤
      awaitedSteps (step numSockets maxBytesCopiedInTask) awaitedReceive s later →
    ∃ act, IsReceiveFinished act ∧
      (sockId, act) ∈ (run (step numSockets maxBytesCopiedInTask) s later).2
  iovFinishes : HoldsIov jobs → ∀ later,
    RunMeets (step numSockets maxBytesCopiedInTask) (Allowed numSockets) s later →
    (receiveSize jobs + 3) * numSockets ≤
      awaitedSteps (step numSockets maxBytesCopiedInTask) awaitedReceive s later →
    ∃ act, IsIovFinished act ∧
      (sockId, act) ∈ (run (step numSockets maxBytesCopiedInTask) s later).2

theorem StandsFor.sendFinishes (h : StandsFor numSockets s m) (hi : sockId < numSockets)
    (hmax : 0 < maxBytesCopiedInTask) {job : UdpSendJob} (hsend : (m sockId).send = some job)
    {later : List UdpSimpleEvent}
    (hmeets : RunMeets (step numSockets maxBytesCopiedInTask) (Allowed numSockets) s later)
    (hmany : (job.buf.bufLen + 2) * numSockets ≤
      awaitedSteps (step numSockets maxBytesCopiedInTask) (awaitedSend sockId) s later) :
    ∃ act, IsSendFinished act ∧
      (sockId, act) ∈ (run (step numSockets maxBytesCopiedInTask) s later).2 := by
  have hstep (s : UdpSimpleSocketVirtualizer) (event : UdpSimpleEvent)
      (hallowed : Allowed numSockets s event)
      (hbusy : ∃ m, StandsFor numSockets s m ∧ IsSending (m sockId)) :
      (∃ act ∈ (s.step numSockets maxBytesCopiedInTask event).2,
          act.1 = sockId ∧ IsSendFinished act.2) ∨
        (∃ m, StandsFor numSockets (s.step numSockets maxBytesCopiedInTask event).1 m ∧
            IsSending (m sockId)) ∧
          leftSend numSockets sockId (s.step numSockets maxBytesCopiedInTask event).1 +
            (if s.awaitedSend sockId event then 1 else 0) ≤ leftSend numSockets sockId s := by
    obtain ⟨m, hm, hbusy⟩ := hbusy
    obtain ⟨m', hrun, hm'⟩ := step_spec hm hallowed
    rcases hrun.until Step.isSending hbusy with ⟨act, hend, hmem⟩ | hbusy'
    · exact Or.inl ⟨_, hmem, rfl, hend⟩
    · rcases leftSend_step hm hi hmax hbusy event with ⟨act, hend, hmem⟩ | hleft
      · exact Or.inl ⟨_, hmem, rfl, hend⟩
      · exact Or.inr ⟨⟨m', hm', hbusy'⟩, hleft⟩
  obtain ⟨⟨i, act⟩, hmem, rfl, hend⟩ := exists_done_of_runMeets hstep hmeets
    ⟨m, h, Option.isSome_iff_exists.mpr ⟨job, hsend⟩⟩ (((h.sockets sockId).sendLeft_lt hsend
      (ahead_lt (h.currOutSock_lt (Nat.zero_lt_of_lt hi)) hi)).trans_le hmany)
  exact ⟨act, hend, hmem⟩

/-- An end of receiving comes, if until then the socket has its turns. -/
theorem StandsFor.receives (h : StandsFor numSockets s m) (hi : sockId < numSockets)
    (hmax : 0 < maxBytesCopiedInTask) {Keeps : UdpSimpleJobs → Prop} {isEnd : UdpSimpleAct → Prop}
    (hkeeps : Keeps (m sockId))
    (huntil : ∀ {jobs act jobs'}, Step jobs act jobs' → Keeps jobs → isEnd act ∨ Keeps jobs')
    (hready : ∀ {socket : UdpSimpleSocket} {jobs}, socket.StandsFor jobs → Keeps jobs →
      socket.isReadyToReceive = true)
    (hpending : ∀ {socket : UdpSimpleSocket} {jobs}, socket.StandsFor jobs → Keeps jobs →
      socket.inDelPending = true → ∀ act, IsReceiveFinished act → isEnd act)
    {later : List UdpSimpleEvent}
    (hmeets : RunMeets (step numSockets maxBytesCopiedInTask) (Allowed numSockets) s later)
    (hmany : (receiveSize (m sockId) + 3) * numSockets ≤
      awaitedSteps (step numSockets maxBytesCopiedInTask) awaitedReceive s later) :
    ∃ act, isEnd act ∧ (sockId, act) ∈ (run (step numSockets maxBytesCopiedInTask) s later).2 := by
  have hstep (s : UdpSimpleSocketVirtualizer) (event : UdpSimpleEvent)
      (hallowed : Allowed numSockets s event)
      (hbusy : ∃ m, StandsFor numSockets s m ∧ Keeps (m sockId)) :
      (∃ act ∈ (s.step numSockets maxBytesCopiedInTask event).2,
          act.1 = sockId ∧ isEnd act.2) ∨
        (∃ m, StandsFor numSockets (s.step numSockets maxBytesCopiedInTask event).1 m ∧
            Keeps (m sockId)) ∧
          leftReceive numSockets sockId (s.step numSockets maxBytesCopiedInTask event).1 +
            (if s.awaitedReceive event then 1 else 0) ≤ leftReceive numSockets sockId s := by
    obtain ⟨m, hm, hbusy⟩ := hbusy
    obtain ⟨m', hrun, hm'⟩ := step_spec hm hallowed
    rcases hrun.until huntil hbusy with ⟨act, hend, hmem⟩ | hbusy'
    · exact Or.inl ⟨_, hmem, rfl, hend⟩
    · rcases leftReceive_step hm hi hmax (hready (hm.sockets sockId) hbusy) event with
        ⟨hdone, act, hend, hmem⟩ | hnot | hleft
      · exact Or.inl ⟨_, hmem, rfl, hpending (hm.sockets sockId) hbusy hdone act hend⟩
      · exact absurd ((hready (hm'.sockets sockId) hbusy').symm.trans hnot).symm Bool.false_ne_true
      · exact Or.inr ⟨⟨m', hm', hbusy'⟩, hleft⟩
  have hturns := Nat.mul_le_mul_right numSockets
    ((h.sockets sockId).receiveTurns_le (hready (h.sockets sockId) hkeeps))
  have hahead := ahead_lt (h.currInSock_lt (Nat.zero_lt_of_lt hi)) hi
  have hsplit : (receiveSize (m sockId) + 3) * numSockets =
      (receiveSize (m sockId) + 2) * numSockets + numSockets := Nat.succ_mul _ _
  obtain ⟨⟨i, act⟩, hmem, rfl, hend⟩ := exists_done_of_runMeets hstep hmeets ⟨m, h, hkeeps⟩ (by
    rw [leftReceive]
    omega)
  exact ⟨act, hend, hmem⟩

theorem StandsFor.progresses (h : StandsFor numSockets s m) (hi : sockId < numSockets)
    (hmax : 0 < maxBytesCopiedInTask) :
    Progresses numSockets maxBytesCopiedInTask s sockId (m sockId) where
  sendAwaited hsend := by
    have hprovided := (h.sockets sockId).outBufAndIovProvided hsend
    cases htrm : (s.sockets sockId).outTrmInProgress with
    | true =>
      refine ⟨.rawFinishSending sockId SUCCESS, ⟨hi, htrm⟩, ?_⟩
      rw [awaitedSend, htrm, beq_self_eq_true]
      rfl
    | false =>
      refine ⟨.processOutgoingPacketsTask SUCCESS, trivial, ?_⟩
      rw [awaitedSend, htrm, h.outPosted sockId hi (by rw [isReadyToSend, hprovided, htrm]; rfl)]
      rfl
  sendFinishes _ hsend _ hmeets hmany := h.sendFinishes hi hmax hsend hmeets hmany
  receiveAwaited hjobs := by
    refine h.inPosted sockId hi ?_
    rcases hjobs with hdatagram | hholds
    · exact (h.sockets sockId).isReadyToReceive_of_hasDatagram hdatagram
    · exact ((h.sockets sockId).holdsIov hholds).1
  receiveFinishes hdatagram _ hmeets hmany :=
    h.receives hi hmax hdatagram Step.hasDatagram
      UdpSimpleSocket.StandsFor.isReadyToReceive_of_hasDatagram (fun _ _ _ _ hact => hact) hmeets
      hmany
  iovFinishes hholds _ hmeets hmany :=
    h.receives hi hmax hholds Step.holdsIov (fun hsocket hkeeps => (hsocket.holdsIov hkeeps).1)
      (fun hsocket hkeeps hpending => absurd
        (hpending.symm.trans (hsocket.holdsIov hkeeps).2).symm Bool.false_ne_true) hmeets hmany

/-- Every run of the virtualizer is a run of the jobs of its sockets.  If the tasks copy anything,
what a socket has begun comes to its end. -/
theorem simple_sockets (numSockets maxBytesCopiedInTask : ℕ) (events : List UdpSimpleEvent)
    (hmeets : RunMeets (step numSockets maxBytesCopiedInTask) (Allowed numSockets) initial events) :
    let r := run (step numSockets maxBytesCopiedInTask) initial events
    ∃ m, SpecRun (AtIndex Step) (fun _ => UdpSimpleJobs.empty) r.2 m ∧
      (0 < maxBytesCopiedInTask → ∀ sockId < numSockets,
        Progresses numSockets maxBytesCopiedInTask r.1 sockId (m sockId)) := by
  obtain ⟨m, hrun, hstands⟩ := run_simulates_of_runMeets
    (fun s m event (hallowed : Allowed numSockets s event) h => step_spec h hallowed)
    standsFor_initial hmeets
  exact ⟨m, hrun, fun hmax sockId hi => hstands.progresses hi hmax⟩

/-- A socket that receives three bytes into a buffer for two. -/
theorem simple_sockets_truncated :
    let buf : UdpBuffer := ⟨some [0, 0, 9], 2, by simp⟩
    let payload : Option UdpPayloadIov := some ⟨5, [[1], [2, 3]]⟩
    let src : UdpSocketAddr := ⟨default, 7⟩
    let events : List UdpSimpleEvent :=
      [.startReceiving 0 buf, .rawStartReceiving 0 payload 3 src, .processIncomingPacketsTask,
        .processIncomingPacketsTask, .processIncomingPacketsTask]
    let r := run (step 1 4) initial events
    r.2.filterMap (fun
        | (sockId, .receiveFinished bufPtr payloadLen _ status) =>
          some (sockId, bufPtr, payloadLen, status)
        | _ => none) = [(0, some [1, 2, 9], 3, ESIZE)] ∧
      ∃ m, SpecRun (AtIndex Step) (fun _ => UdpSimpleJobs.empty) r.2 m ∧
        (0 < 4 → ∀ sockId < 1, Progresses 1 4 r.1 sockId (m sockId)) := by
  intro buf payload src events
  have hmeets : RunMeets (step 1 4) (Allowed 1) initial events :=
    ⟨Nat.one_pos, Nat.one_pos, trivial, trivial, trivial, trivial⟩
  exact ⟨by decide +kernel, simple_sockets 1 4 events hmeets⟩

/-- If the tasks copy nothing, a byte that is to be sent waits for ever. -/
theorem simple_sockets_stuck :
    let r := run (step 1 0) initial
      [.startSending 0 ⟨some [1], 1, by simp⟩ (some ⟨7, [[0]]⟩)]
    r.2 = [(0, .sendStarted ⟨some [1], 1, by simp⟩ none (some 7))] ∧
      ∀ k, awaitedSteps (step 1 0) (awaitedSend 0) r.1
          (List.replicate k (.processOutgoingPacketsTask SUCCESS)) = k ∧
        (run (step 1 0) r.1 (List.replicate k (.processOutgoingPacketsTask SUCCESS))).2 = [] := by
  intro r
  have hstuck : step 1 0 r.1 (.processOutgoingPacketsTask SUCCESS) = (r.1, []) := by
    have hturn : step 1 0 r.1 (.processOutgoingPacketsTask SUCCESS) =
        ({ r.1 with sockets := Function.update r.1.sockets 0 (r.1.sockets 0) }, []) := rfl
    rw [hturn, Function.update_eq_self]
  refine ⟨rfl, fun k => ?_⟩
  induction k with
  | zero => exact ⟨rfl, rfl⟩
  | succ k ih =>
    rw [List.replicate_succ, awaitedSteps, run, hstuck]
    refine ⟨?_, ih.2⟩
    rw [ih.1, Nat.add_comm]
    rfl

end UdpSimpleSocketVirtualizer

end Whip6
