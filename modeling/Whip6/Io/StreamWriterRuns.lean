import Whip6.Io.StreamWriter
import Whip6.Lib.Progress
import Whip6.Lib.Simulation

/-!
# Runs of the stream writer

What users of the writer and the byte writer below it see is a sequence of jobs: a unit is accepted,
bytes are handed over one by one, and the job ends with a status (`StreamWriterJob.Step`).  Every
run of the writer is such a sequence (`streamWriter_jobs`).  The status of a job is success if and
only if its whole frame was written and it was not canceled, where two cases are left out: a vector
with an empty element, of which a byte is written that it does not have, and a start byte that the
byte writer refuses, after which the status is success although nothing was written.
-/

namespace Whip6

open Lib

/-! ## Frames -/

/-- A job is over. -/
def DiscreteStreamWriterAct.isDoneWriting : DiscreteStreamWriterAct → Bool
  | .doneWriting _ _ _ _ => true
  | _ => false

/-- The frame of a payload. -/
def discreteStreamFrame (payload : List UInt8) (size : UInt16) (channel : UInt8) : List UInt8 :=
  let body := discreteStreamHeader size channel ++ payload
  DISCRETE_STREAM_SOF ::
    (body ++ networkBytes (UInt16.ofNat (internetChecksum body))).flatMap serializeByte ++
      [DISCRETE_STREAM_EOF]

/-! ## Jobs -/

/-- A unit that was accepted: the bytes that were written, the byte that was handed over last and is
not yet written, whether the byte writer refused the start byte, and whether the unit was
canceled. -/
structure StreamWriterJob where
  iov : ℕ
  size : UInt16
  channel : UInt8
  written : List UInt8
  inFlight : Option UInt8
  refused : Bool
  canceled : Bool

namespace StreamWriterJob

variable (vectors : ℕ → IovBlist)

def payload (job : StreamWriterJob) : List UInt8 :=
  (vectors job.iov).flatten.take job.size.toNat

def frame (job : StreamWriterJob) : List UInt8 :=
  discreteStreamFrame (job.payload vectors) job.size job.channel

/-- The vector has no empty element. -/
def NoEmpty (job : StreamWriterJob) : Prop := ∀ e ∈ vectors job.iov, e ≠ []

/-- A job is accepted when there is none, its bytes are written one after the other, and it ends at
a time when no byte is being written, with a size that is not larger than its own.  The status is
success if and only if the whole frame was written and the job was not canceled; it is not said what
it is for a vector with an empty element or after the start byte was refused. -/
inductive Step : Option StreamWriterJob → DiscreteStreamWriterAct → Option StreamWriterJob → Prop
  | accepted (iov : ℕ) (size : UInt16) (channel : UInt8) :
    Step none (.accepted iov size channel) (some ⟨iov, size, channel, [], none, false, false⟩)
  | taken (job : StreamWriterJob) (b : UInt8) (h : job.inFlight = none) :
    Step (some job) (.startWrite b SUCCESS) (some { job with inFlight := some b })
  | refused (job : StreamWriterJob) (b : UInt8) {status : ErrorT} (h : job.inFlight = none)
    (hstatus : status ≠ SUCCESS) : Step (some job) (.startWrite b status)
      (some { job with refused := job.refused || job.written.isEmpty })
  | written (job : StreamWriterJob) {b : UInt8} (h : job.inFlight = some b) :
    Step (some job) (.writeDone SUCCESS)
      (some { job with written := job.written ++ [b], inFlight := none })
  | notWritten (job : StreamWriterJob) {b : UInt8} {status : ErrorT} (h : job.inFlight = some b)
    (hstatus : status ≠ SUCCESS) :
    Step (some job) (.writeDone status) (some { job with inFlight := none })
  | canceled (job : StreamWriterJob) :
    Step (some job) (.canceled job.iov job.channel) (some { job with canceled := true })
  | done (job : StreamWriterJob) {size : UInt16} {status : ErrorT} (h : job.inFlight = none)
    (hsize : size ≤ job.size)
    (hstatus : job.NoEmpty vectors → job.refused = false →
      (status = SUCCESS ↔ job.written = job.frame vectors ∧ job.canceled = false)) :
    Step (some job) (.doneWriting (some job.iov) size job.channel status) none

/-- The bytes of the frame behind those that are in the buffer, when `remaining` bytes of the
payload have not yet been there. -/
def rest (job : StreamWriterJob) (remaining : ℕ) : List UInt8 :=
  if remaining = 0 then []
  else
    ((job.payload vectors).drop (job.size.toNat - remaining) ++
      networkBytes (UInt16.ofNat (internetChecksum
        (discreteStreamHeader job.size job.channel ++ job.payload vectors)))).flatMap
          serializeByte ++ [DISCRETE_STREAM_EOF]

end StreamWriterJob

/-! ## The writer and its job -/

namespace DiscreteStreamWriter

variable {vectors : ℕ → IovBlist} {stray : UInt8} {writer : DiscreteStreamWriter}
  {job : StreamWriterJob}

/-- A writer without a job. -/
structure IsIdle (writer : DiscreteStreamWriter) : Prop where
  state : writer.state = .idle
  iovPtr : writer.iovPtr = none
  checksumming : writer.checksumming = false
  writing : writer.writing = false
  completeWritingTaskPosted : writer.completeWritingTaskPosted = false

/-- What the writer knows of its job. -/
structure Knows (writer : DiscreteStreamWriter) (job : StreamWriterJob) : Prop where
  iovPtr : writer.iovPtr = some job.iov
  iovTotal : writer.iovTotal = job.size
  iovChannel : writer.iovChannel = job.channel
  pos : 0 < job.size.toNat
  le : job.size.toNat ≤ 0x7fff
  remaining : writer.iovRemaining.toNat ≤ job.size.toNat
  refused : job.refused = false

structure IsChecksumming (writer : DiscreteStreamWriter) (job : StreamWriterJob) : Prop
    extends writer.Knows job where
  state : writer.state = .checksumming
  checksumming : writer.checksumming = true
  writing : writer.writing = false
  completeWritingTaskPosted : writer.completeWritingTaskPosted = false
  iovRemaining : writer.iovRemaining = job.size
  iovIter : writer.iovIter = ⟨some 0, 0⟩
  covers : writer.iovChecksumComp.Covers (discreteStreamHeader job.size job.channel)
  written : job.written = []
  inFlight : job.inFlight = none
  canceled : job.canceled = writer.canceled

/-- The writer is on its way through the frame. -/
structure IsAt (vectors : ℕ → IovBlist) (writer : DiscreteStreamWriter) (job : StreamWriterJob) :
    Prop where
  covers : writer.iovChecksumComp.Covers
    (discreteStreamHeader job.size job.channel ++ job.payload vectors)
  enough : job.size.toNat ≤ (vectors job.iov).flatten.length
  normal : IovIterNormal (iovLens (vectors job.iov)) writer.iovIter
  pos : iovIterPos (iovLens (vectors job.iov)) writer.iovIter =
    job.size.toNat - writer.iovRemaining.toNat
  frame : job.written ++ (job.inFlight.toList ++ (writer.iovBuffer ++
    job.rest vectors writer.iovRemaining.toNat)) = job.frame vectors

/-- The writer is transmitting; between two bytes it has none in flight. -/
structure IsTransmitting (vectors : ℕ → IovBlist) (writer : DiscreteStreamWriter)
    (job : StreamWriterJob) : Prop extends writer.Knows job where
  state : writer.state = .transmitting
  checksumming : writer.checksumming = false
  writing : writer.writing = job.inFlight.isSome
  completeWritingTaskPosted : writer.completeWritingTaskPosted = false
  canceled : job.canceled = writer.canceled
  isAt : job.NoEmpty vectors → IsAt vectors writer job

structure IsWrappingUp (vectors : ℕ → IovBlist) (writer : DiscreteStreamWriter)
    (job : StreamWriterJob) : Prop extends writer.Knows job where
  state : writer.state = .wrappingUp
  checksumming : writer.checksumming = false
  writing : writer.writing = false
  completeWritingTaskPosted : writer.completeWritingTaskPosted = true
  inFlight : job.inFlight = none
  canceled : writer.canceled = true → job.canceled = true
  success : job.NoEmpty vectors → writer.iovResult = SUCCESS →
    job.written = job.frame vectors ∧ job.canceled = writer.canceled
  failure : job.NoEmpty vectors → writer.iovResult ≠ SUCCESS →
    job.written ≠ job.frame vectors ∨ job.canceled = true

/-- The writer has this job, or none. -/
inductive StandsFor (vectors : ℕ → IovBlist) (writer : DiscreteStreamWriter) :
    Option StreamWriterJob → Prop
  | idle (h : writer.IsIdle) : StandsFor vectors writer none
  | checksumming {job : StreamWriterJob} (h : writer.IsChecksumming job) :
    StandsFor vectors writer (some job)
  | transmitting {job : StreamWriterJob} {b : UInt8} (h : writer.IsTransmitting vectors job)
    (hb : job.inFlight = some b) : StandsFor vectors writer (some job)
  | wrappingUp {job : StreamWriterJob} (h : writer.IsWrappingUp vectors job) :
    StandsFor vectors writer (some job)

theorem covers_foldl {comp : Ipv6ChecksumComputation} {bs : List UInt8} (h : comp.Covers bs)
    (l : List UInt8) :
    (l.foldl ipv6ChecksumComputationProvideWithOneByte comp).Covers (bs ++ l) := by
  induction l generalizing comp bs with
  | nil => rwa [List.append_nil]
  | cons b l ih =>
    have hrest := ih (h.oneByte b)
    rwa [List.append_assoc] at hrest

/-! ## Starting -/

theorem initiateWriting_cases (h : StandsFor vectors writer none) (iov : Option ℕ)
    (size : UInt16) (channel : UInt8) (answer : ErrorT) :
    let r := writer.initiateWriting iov size channel answer
    (r.1 ≠ SUCCESS ∧ r.2.IsIdle ∧ (iov = none ∨ size = 0 ∨ size > 0x7fff ∨ answer ≠ SUCCESS)) ∨
      ∃ i, iov = some i ∧ size ≠ 0 ∧ ¬size > 0x7fff ∧ answer = SUCCESS ∧ r.1 = SUCCESS ∧
        r.2.IsChecksumming ⟨i, size, channel, [], none, false, false⟩ := by
  obtain ⟨⟩ := h
  rename_i h
  intro r
  simp only [r]
  rw [initiateWriting]
  split_ifs with harg hsize hbusy hanswer
  · exact Or.inl ⟨(by decide : EINVAL ≠ SUCCESS), h, harg.imp_right Or.inl⟩
  · exact Or.inl ⟨(by decide : ESIZE ≠ SUCCESS), h, Or.inr (Or.inr (Or.inl hsize))⟩
  · exact absurd h.iovPtr hbusy
  · have hidle := h.completeWritingTaskPosted
    exact Or.inl ⟨(by decide : FAIL ≠ SUCCESS), ⟨rfl, rfl, h.checksumming, h.writing, hidle⟩,
      Or.inr (Or.inr (Or.inr hanswer))⟩
  · rw [not_or] at harg
    obtain ⟨i, rfl⟩ := Option.ne_none_iff_exists'.mp harg.1
    have hpos : 0 < size.toNat := Nat.pos_of_ne_zero fun h0 => harg.2 (UInt16.toNat_inj.mp h0)
    have hle : size.toNat ≤ 0x7fff := by
      rw [gt_iff_lt, UInt16.not_lt, UInt16.le_iff_toNat_le] at hsize
      exact hsize
    refine Or.inr ⟨i, rfl, harg.2, hsize, not_not.mp hanswer, rfl, ?_⟩
    exact
      { iovPtr := rfl
        iovTotal := rfl
        iovChannel := rfl
        pos := hpos
        le := hle
        remaining := le_rfl
        refused := rfl
        state := rfl
        checksumming := rfl
        writing := h.writing
        completeWritingTaskPosted := h.completeWritingTaskPosted
        iovRemaining := rfl
        iovIter := rfl
        covers := covers_foldl covers_init _
        written := rfl
        inFlight := rfl
        canceled := rfl }

/-- While there is a job no other one is accepted. -/
theorem initiateWriting_of_knows (h : writer.Knows job) (iov : Option ℕ) (size : UInt16)
    (channel : UInt8) (answer : ErrorT) :
    (writer.initiateWriting iov size channel answer).1 ≠ SUCCESS ∧
      (writer.initiateWriting iov size channel answer).2 = writer := by
  have hbusy : writer.iovPtr ≠ none := by
    rw [h.iovPtr]
    exact Option.some_ne_none _
  rw [initiateWriting]
  split_ifs
  · exact ⟨(by decide : EINVAL ≠ SUCCESS), rfl⟩
  · exact ⟨(by decide : ESIZE ≠ SUCCESS), rfl⟩
  · exact ⟨(by decide : EBUSY ≠ SUCCESS), rfl⟩

/-! ## Ending -/

/-- A job that ends without a byte having been written. -/
theorem done_of_nothing_written (h : writer.IsChecksumming job) {status : ErrorT}
    (hstatus : status ≠ SUCCESS) :
    SpecRun (StreamWriterJob.Step vectors) (some job)
        [.doneWriting writer.iovPtr 0 writer.iovChannel status] none := by
  rw [h.iovPtr, h.iovChannel]
  refine .single (.done job h.inFlight (UInt16.le_iff_toNat_le.mpr (Nat.zero_le _)) ?_)
  intro _ _
  refine iff_of_false hstatus fun hframe => ?_
  rw [h.written] at hframe
  exact absurd hframe.1 (List.cons_ne_nil _ _).symm

/-! ## The bytes of a frame -/

/-- The byte that an iterator over a vector without empty elements points to, and the iterator
behind it. -/
theorem next_of_noEmpty {l : IovBlist} (hne : ∀ e ∈ l, e ≠ []) {i o : ℕ}
    (hnormal : IovIterNormal (iovLens l) ⟨some i, o⟩) (stray : UInt8) :
    l.flatten[iovIterPos (iovLens l) ⟨some i, o⟩]? = some ((l.getD i []).getD o stray) ∧
      let it : IovBlistIter :=
        if o + 1 ≥ (l.getD i []).length then ⟨iovNext l i, 0⟩ else ⟨some i, o + 1⟩
      IovIterNormal (iovLens l) it ∧
        iovIterPos (iovLens l) it = iovIterPos (iovLens l) ⟨some i, o⟩ + 1 := by
  obtain ⟨pre, e, post, rfl, rfl, ho, hp⟩ := hnormal.split
  have helem : (pre ++ e :: post).getD pre.length [] = e := by simp
  rw [helem, hp]
  refine ⟨?_, ?_⟩
  · rw [List.flatten_append, List.flatten_cons, List.getElem?_append_right (Nat.le_add_right _ _),
      Nat.add_sub_cancel_left, List.getElem?_append_left ho, List.getElem?_eq_getElem ho,
      List.getD_eq_getElem _ _ ho]
  · have hlens : iovLens (pre ++ e :: post) = iovLens pre ++ e.length :: iovLens post := by simp
    have hlen : (iovLens pre).length = pre.length := length_iovLens pre
    rw [hlens]
    by_cases hlast : o + 1 ≥ e.length
    · rw [if_pos hlast]
      cases post with
      | nil =>
        have hnext : iovNext (pre ++ [e]) pre.length = none := if_neg (by simp)
        rw [hnext]
        refine ⟨iovIterNormal_none _ _, ?_⟩
        rw [iovIterPos_none, List.sum_append, sum_iovLens]
        simp
        omega
      | cons e' post =>
        have hnext : iovNext (pre ++ e :: e' :: post) pre.length = some (pre.length + 1) :=
          if_pos (by simp)
        have he' : 0 < e'.length := List.length_pos_of_ne_nil (hne e' (by simp))
        have hsplit : iovLens pre ++ e.length :: iovLens (e' :: post) =
            iovLens (pre ++ [e]) ++ e'.length :: iovLens post := by simp
        have hlen' : (iovLens (pre ++ [e])).length = pre.length + 1 := by simp
        rw [hnext, hsplit]
        refine ⟨iovIterNormal_some hlen' he', ?_⟩
        rw [iovIterPos_some hlen', sum_iovLens]
        simp
        omega
    · rw [if_neg hlast]
      refine ⟨iovIterNormal_some hlen (Nat.not_le.mp hlast), ?_⟩
      rw [iovIterPos_some hlen, sum_iovLens, Nat.add_assoc]

theorem vector_eq (vectors : ℕ → IovBlist) (h : writer.Knows job) :
    writer.vector vectors = vectors job.iov := by
  rw [vector, h.iovPtr]

theorem length_payload (henough : job.size.toNat ≤ (vectors job.iov).flatten.length) :
    (job.payload vectors).length = job.size.toNat := by
  rw [StreamWriterJob.payload, List.length_take, Nat.min_eq_left henough]

theorem length_discreteStreamHeader_le (size : UInt16) (channel : UInt8) :
    (discreteStreamHeader size channel).length ≤ 3 := by
  rw [discreteStreamHeader]
  split_ifs <;> simp

/-- The checksum that the writer sends is that of the header and the payload. -/
theorem finalize_eq (h : writer.Knows job) (hat : IsAt vectors writer job) :
    ipv6ChecksumComputationFinalize writer.iovChecksumComp = UInt16.ofNat (internetChecksum
      (discreteStreamHeader job.size job.channel ++ job.payload vectors)) := by
  have hheader := length_discreteStreamHeader_le job.size job.channel
  have hpayload := length_payload hat.enough
  have hle := h.le
  rw [← hat.covers.finalize (by rw [List.length_append]; omega), UInt16.ofNat_toNat]

/-- What the next byte of the payload puts into the buffer comes off what is left of the frame. -/
theorem fillBuffer_spec (stray : UInt8) {i : ℕ} (h : writer.Knows job) (hne : job.NoEmpty vectors)
    (hat : IsAt vectors writer job) (hremaining : writer.iovRemaining ≠ 0)
    (hi : writer.iovIter.currElem = some i) :
    let filled := writer.fillBuffer vectors stray i
    filled.iovBuffer ++ job.rest vectors filled.iovRemaining.toNat =
        job.rest vectors writer.iovRemaining.toNat ∧
      IovIterNormal (iovLens (vectors job.iov)) filled.iovIter ∧
      iovIterPos (iovLens (vectors job.iov)) filled.iovIter =
        job.size.toNat - filled.iovRemaining.toNat := by
  intro filled
  have hiter : writer.iovIter = ⟨some i, writer.iovIter.offset⟩ := by rw [← hi]
  have hnormal := hat.normal
  have hpos := hat.pos
  rw [hiter] at hnormal hpos
  obtain ⟨hbyte, hnormal', hpos'⟩ := next_of_noEmpty hne hnormal stray
  have hlen := length_payload hat.enough
  have hle := h.remaining
  have hrem : 0 < writer.iovRemaining.toNat :=
    Nat.pos_of_ne_zero fun h0 => hremaining (UInt16.toNat_inj.mp h0)
  have hpred : filled.iovRemaining.toNat = writer.iovRemaining.toNat - 1 := by
    have hone : (1 : UInt16) ≤ writer.iovRemaining := by
      rw [UInt16.le_iff_toNat_le]
      exact hrem
    exact UInt16.toNat_sub_of_le _ _ hone
  have hfilled : filled.iovIter =
      if writer.iovIter.offset + 1 ≥ ((vectors job.iov).getD i []).length then
        ⟨iovNext (vectors job.iov) i, 0⟩ else ⟨some i, writer.iovIter.offset + 1⟩ := by
    simp only [filled, fillBuffer, vector_eq vectors h]
  rw [hfilled]
  refine ⟨?_, hnormal', ?_⟩
  · -- The byte is the next one of the payload.
    rw [hpos] at hbyte
    have hdrop : (job.payload vectors).drop (job.size.toNat - writer.iovRemaining.toNat) =
        ((vectors job.iov).getD i []).getD writer.iovIter.offset stray ::
          (job.payload vectors).drop (job.size.toNat - filled.iovRemaining.toNat) := by
      have hlt : job.size.toNat - writer.iovRemaining.toNat < (job.payload vectors).length := by
        omega
      have hget : (job.payload vectors)[job.size.toNat - writer.iovRemaining.toNat] =
          ((vectors job.iov).getD i []).getD writer.iovIter.offset stray := by
        apply Option.some.inj
        rw [← hbyte, ← List.getElem?_eq_getElem hlt, StreamWriterJob.payload,
          List.getElem?_take_of_lt (by omega)]
      rw [List.drop_eq_getElem_cons hlt, hget, hpred,
        show job.size.toNat - writer.iovRemaining.toNat + 1 =
          job.size.toNat - (writer.iovRemaining.toNat - 1) by omega]
    have hrest : job.rest vectors writer.iovRemaining.toNat = serializeByte
        (((vectors job.iov).getD i []).getD writer.iovIter.offset stray) ++
          (((job.payload vectors).drop (job.size.toNat - filled.iovRemaining.toNat) ++
            networkBytes (ipv6ChecksumComputationFinalize writer.iovChecksumComp)).flatMap
              serializeByte ++ [DISCRETE_STREAM_EOF]) := by
      rw [StreamWriterJob.rest, if_neg (by omega), hdrop, finalize_eq h hat, List.cons_append,
        List.flatMap_cons, List.append_assoc]
    have hbuffer : filled.iovBuffer = serializeByte
        (((vectors job.iov).getD i []).getD writer.iovIter.offset stray) ++
          if filled.iovRemaining = 0 then
            (networkBytes (ipv6ChecksumComputationFinalize writer.iovChecksumComp)).flatMap
              serializeByte ++ [DISCRETE_STREAM_EOF]
          else [] := by
      simp only [filled, fillBuffer, vector_eq vectors h, networkBytes, List.flatMap_cons,
        List.flatMap_nil, List.append_nil]
    rw [hrest, hbuffer, List.append_assoc, List.append_right_inj]
    by_cases hlast : filled.iovRemaining = 0
    · have hzero : filled.iovRemaining.toNat = 0 := congrArg UInt16.toNat hlast
      rw [if_pos hlast, hzero, StreamWriterJob.rest, if_pos rfl, List.append_nil, Nat.sub_zero,
        List.drop_of_length_le (by omega), List.nil_append]
    · have hne0 : filled.iovRemaining.toNat ≠ 0 := fun h0 => hlast (UInt16.toNat_inj.mp h0)
      rw [if_neg hlast, List.nil_append, StreamWriterJob.rest, if_neg hne0, finalize_eq h hat]
  · rw [hpos', hpos, hpred]
    omega

theorem serializeByte_ne_nil (val : UInt8) : serializeByte val ≠ [] := by
  rw [serializeByte]
  split_ifs <;> exact List.cons_ne_nil _ _

theorem length_serializeByte_le (val : UInt8) : (serializeByte val).length ≤ 2 := by
  rw [serializeByte]
  split_ifs <;> simp

theorem fillBuffer_ne_nil (i : ℕ) : (writer.fillBuffer vectors stray i).iovBuffer ≠ [] :=
  List.append_ne_nil_of_left_ne_nil (serializeByte_ne_nil _) _

/-- The eight bytes of the buffer suffice for what is put into it at once. -/
theorem length_iovBuffer_fillBuffer_le (i : ℕ) :
    (writer.fillBuffer vectors stray i).iovBuffer.length ≤ 7 := by
  have hbyte := length_serializeByte_le
    (((writer.vector vectors).getD i []).getD writer.iovIter.offset stray)
  have hhi := length_serializeByte_le
    (ipv6ChecksumComputationFinalize writer.iovChecksumComp >>> 8).toUInt8
  have hlo := length_serializeByte_le
    (ipv6ChecksumComputationFinalize writer.iovChecksumComp).toUInt8
  simp only [fillBuffer, List.length_append]
  split_ifs
  · simp only [List.length_append, List.length_singleton]
    omega
  · simp only [List.length_nil]
    omega

theorem length_flatMap_serializeByte_le (l : List UInt8) :
    (l.flatMap serializeByte).length ≤ 2 * l.length := by
  induction l with
  | nil => exact le_rfl
  | cons b l ih =>
    have hb := length_serializeByte_le b
    rw [List.flatMap_cons, List.length_append, List.length_cons]
    omega

/-! ## Steps -/

/-- A job starts on its frame, ends because it was canceled or because the vector is too short, or
ends because the start byte was refused. -/
theorem finishChecksumming_spec (h : writer.IsChecksumming job) (answer : ErrorT) :
    ∃ m', SpecRun (StreamWriterJob.Step vectors) (some job)
        (writer.finishChecksumming vectors answer).2 m' ∧
      StandsFor vectors (writer.finishChecksumming vectors answer).1 m' := by
  have hvector := vector_eq vectors h.toKnows
  rw [finishChecksumming, hvector, h.iovIter, h.iovTotal]
  generalize hr : ipv6ChecksumComputationProvideWithIovAndAdvanceIovIterator
    writer.iovChecksumComp (vectors job.iov) ⟨some 0, 0⟩ job.size.toNat = r
  dsimp only
  split_ifs with hcanceled hshort hanswer
  · exact ⟨none, done_of_nothing_written h (by decide),
      .idle ⟨rfl, rfl, rfl, h.writing, h.completeWritingTaskPosted⟩⟩
  · exact ⟨none, done_of_nothing_written h (by decide),
      .idle ⟨rfl, rfl, rfl, h.writing, h.completeWritingTaskPosted⟩⟩
  · subst hanswer
    rw [not_not, h.iovRemaining] at hshort
    refine ⟨some { job with inFlight := some DISCRETE_STREAM_SOF },
      .single (.taken job DISCRETE_STREAM_SOF h.inFlight), ?_⟩
    refine .transmitting ?_ rfl
    have hcanceled' : job.canceled = false := by
      rw [h.canceled]
      exact Bool.eq_false_of_not_eq_true hcanceled
    refine
      { iovPtr := h.iovPtr
        iovTotal := rfl
        iovChannel := h.iovChannel
        pos := h.pos
        le := h.le
        remaining := h.remaining
        refused := h.refused
        state := rfl
        checksumming := rfl
        writing := rfl
        completeWritingTaskPosted := h.completeWritingTaskPosted
        canceled := hcanceled'
        isAt := fun hne => ?_ }
    have hpos := h.pos
    cases hl : vectors job.iov with
    | nil =>
      rw [hl] at hr
      have hzero : r.1 = 0 := by
        rw [← hr, ipv6ChecksumComputationProvideWithIovAndAdvanceIovIterator, iovPieces,
          if_neg (by omega)]
        rfl
      omega
    | cons e post =>
      have hne' : ∀ e' ∈ e :: post, e' ≠ [] := hl ▸ hne
      have he : 0 < e.length := List.length_pos_of_ne_nil (hne' e List.mem_cons_self)
      have hnormal : IovIterNormal (iovLens (e :: post)) ⟨some 0, 0⟩ :=
        iovIterNormal_some (rfl : ([] : List ℕ).length = 0) he
      have hstart : iovIterPos (iovLens (e :: post)) ⟨some 0, 0⟩ = 0 := rfl
      rw [hl] at hr
      have hspec := provideWithIov_spec writer.iovChecksumComp hnormal.within job.size.toNat
      rw [hr, hstart] at hspec
      obtain ⟨hcount, -, -, hcovers⟩ := hspec
      have hpayload : job.payload vectors = ((e :: post).flatten.drop 0).take job.size.toNat := by
        rw [StreamWriterJob.payload, hl]
        rfl
      refine
        { covers := ?_
          enough := ?_
          normal := ?_
          pos := ?_
          frame := ?_ }
      · change r.2.2.Covers (discreteStreamHeader job.size job.channel ++ job.payload vectors)
        rw [hpayload]
        exact hcovers _ h.covers
      · change job.size.toNat ≤ (vectors job.iov).flatten.length
        rw [hl]
        omega
      · change IovIterNormal (iovLens (vectors job.iov)) ⟨some 0, 0⟩
        rw [hl]
        exact hnormal
      · change iovIterPos (iovLens (vectors job.iov)) ⟨some 0, 0⟩ =
          job.size.toNat - writer.iovRemaining.toNat
        rw [hl, hstart, h.iovRemaining, Nat.sub_self]
      · change job.written ++ ([DISCRETE_STREAM_SOF] ++
          ((discreteStreamHeader writer.iovRemaining writer.iovChannel).flatMap serializeByte ++
            job.rest vectors writer.iovRemaining.toNat)) = job.frame vectors
        rw [h.written, h.iovRemaining, h.iovChannel, StreamWriterJob.rest, if_neg (by omega),
          Nat.sub_self, List.drop_zero, StreamWriterJob.frame, discreteStreamFrame]
        simp only [List.flatMap_append, List.append_assoc, List.nil_append, List.cons_append]
  · have hrun : SpecRun (StreamWriterJob.Step vectors) (some job)
        [.startWrite DISCRETE_STREAM_SOF answer,
          .doneWriting writer.iovPtr 0 writer.iovChannel SUCCESS] none := by
      refine .cons (StreamWriterJob.Step.refused job DISCRETE_STREAM_SOF h.inFlight hanswer) ?_
      rw [h.iovPtr, h.iovChannel]
      refine .single (.done { job with refused := job.refused || job.written.isEmpty } h.inFlight
        (UInt16.le_iff_toNat_le.mpr (Nat.zero_le _)) ?_)
      intro _ hrefused
      rw [h.written, List.isEmpty_nil, Bool.or_true] at hrefused
      cases hrefused
    simp only [startWrite, if_neg hanswer]
    exact ⟨none, hrun, .idle ⟨rfl, rfl, rfl, h.writing, h.completeWritingTaskPosted⟩⟩

/-- A job that is not wholly written, as something of its frame is left. -/
theorem written_ne_frame (hat : IsAt vectors writer job)
    (hleft : job.inFlight.toList ++ writer.iovBuffer ≠ []) : job.written ≠ job.frame vectors := by
  intro heq
  have hframe := hat.frame
  rw [← heq, List.append_right_eq_self, ← List.append_assoc] at hframe
  exact hleft (List.append_eq_nil_iff.mp hframe).1

/-- The writer stops between two bytes. -/
theorem isWrappingUp_wrapUp (h : writer.Knows job) (hchecksumming : writer.checksumming = false)
    (hwriting : writer.writing = false) (hin : job.inFlight = none) {status : ErrorT}
    (hsuccess : status = SUCCESS → job.canceled = false ∧
      (job.NoEmpty vectors → job.written = job.frame vectors))
    (hfailure : job.NoEmpty vectors → status ≠ SUCCESS →
      job.written ≠ job.frame vectors ∨ job.canceled = true) :
    (writer.wrapUp status).IsWrappingUp vectors job where
  iovPtr := h.iovPtr
  iovTotal := h.iovTotal
  iovChannel := h.iovChannel
  pos := h.pos
  le := h.le
  remaining := h.remaining
  refused := h.refused
  state := rfl
  checksumming := hchecksumming
  writing := hwriting
  completeWritingTaskPosted := rfl
  inFlight := hin
  canceled := fun hcanceled => by cases hcanceled
  success := fun hne hstatus => ⟨(hsuccess hstatus).2 hne, (hsuccess hstatus).1⟩
  failure := hfailure

/-- Between two bytes the next one is handed over, or the job is over. -/
theorem writeNext_spec (h : writer.IsTransmitting vectors job) (hin : job.inFlight = none)
    (hcanceled : writer.canceled = false) (hwritten : job.written ≠ [])
    (hbuffer : writer.iovBuffer = [] → writer.iovRemaining = 0) (answer : ErrorT) :
    ∃ m', SpecRun (StreamWriterJob.Step vectors) (some job) (writer.writeNext answer).2 m' ∧
      StandsFor vectors (writer.writeNext answer).1 m' := by
  have hwriting : writer.writing = false := by rw [h.writing, hin, Option.isSome_none]
  rw [writeNext]
  cases hbuf : writer.iovBuffer with
  | nil =>
    rw [if_pos rfl]
    refine ⟨some job, .nil _, .wrappingUp (isWrappingUp_wrapUp h.toKnows
      h.checksumming hwriting hin (fun _ => ?_) ?_)⟩
    · refine ⟨h.canceled.trans hcanceled, fun hne => ?_⟩
      have hframe := (h.isAt hne).frame
      rw [hin, hbuf, hbuffer hbuf] at hframe
      exact (List.append_nil _).symm.trans hframe
    · exact fun _ hstatus => absurd rfl hstatus
  | cons c iovBuffer =>
    rw [if_neg (List.cons_ne_nil c iovBuffer), startWrite, hbuf]
    dsimp only
    by_cases hanswer : answer = SUCCESS
    · subst hanswer
      rw [if_pos rfl, if_pos rfl]
      refine ⟨_, .single (.taken job c hin), .transmitting ?_ rfl⟩
      exact
        { iovPtr := h.iovPtr
          iovTotal := h.iovTotal
          iovChannel := h.iovChannel
          pos := h.pos
          le := h.le
          remaining := h.remaining
          refused := h.refused
          state := h.state
          checksumming := h.checksumming
          writing := rfl
          completeWritingTaskPosted := h.completeWritingTaskPosted
          canceled := h.canceled
          isAt := fun hne => by
            have hat := h.isAt hne
            have hframe := hat.frame
            rw [hin, hbuf] at hframe
            exact ⟨hat.covers, hat.enough, hat.normal, hat.pos, hframe⟩ }
    · rw [if_neg hanswer, if_neg hanswer]
      have hempty : job.written.isEmpty = false := List.isEmpty_eq_false_iff.mpr hwritten
      refine ⟨_, .single (.refused job c hin hanswer), ?_⟩
      rw [hempty, Bool.or_false]
      refine .wrappingUp (isWrappingUp_wrapUp h.toKnows h.checksumming hwriting hin
        (fun hstatus => absurd hstatus (by decide)) ?_)
      intro hne _
      refine Or.inl (written_ne_frame (h.isAt hne) ?_)
      rw [hbuf]
      exact List.append_ne_nil_of_right_ne_nil _ (List.cons_ne_nil _ _)

/-- Filling the buffer keeps the writer on its way. -/
theorem isTransmitting_fillBuffer (stray : UInt8) {i : ℕ} (h : writer.IsTransmitting vectors job)
    (hempty : writer.iovBuffer = []) (hremaining : writer.iovRemaining ≠ 0)
    (hi : writer.iovIter.currElem = some i) :
    (writer.fillBuffer vectors stray i).IsTransmitting vectors job where
  iovPtr := h.iovPtr
  iovTotal := h.iovTotal
  iovChannel := h.iovChannel
  pos := h.pos
  le := h.le
  remaining := by
    have hle := h.remaining
    have hone : (1 : UInt16) ≤ writer.iovRemaining := by
      rw [UInt16.le_iff_toNat_le]
      exact Nat.pos_of_ne_zero fun h0 => hremaining (UInt16.toNat_inj.mp h0)
    change (writer.iovRemaining - 1).toNat ≤ job.size.toNat
    rw [UInt16.toNat_sub_of_le _ _ hone]
    omega
  refused := h.refused
  state := h.state
  checksumming := h.checksumming
  writing := h.writing
  completeWritingTaskPosted := h.completeWritingTaskPosted
  canceled := h.canceled
  isAt := fun hne => by
    have hat := h.isAt hne
    obtain ⟨hbytes, hnormal, hpos⟩ :=
      fillBuffer_spec stray h.toKnows hne hat hremaining hi
    have hframe := hat.frame
    rw [hempty, List.nil_append, ← hbytes] at hframe
    exact ⟨hat.covers, hat.enough, hnormal, hpos, hframe⟩

theorem writeDone_spec {b : UInt8} (h : writer.IsTransmitting vectors job)
    (hb : job.inFlight = some b) (status answer : ErrorT) :
    ∃ m', SpecRun (StreamWriterJob.Step vectors) (some job)
        (.writeDone status :: (writer.writeDone vectors stray status answer).2) m' ∧
      StandsFor vectors (writer.writeDone vectors stray status answer).1 m' := by
  rw [writeDone]
  dsimp only
  rw [if_neg (not_not.mpr h.state)]
  by_cases hstatus : status = SUCCESS
  · subst hstatus
    have hafter : IsTransmitting vectors { writer with writing := false }
        { job with written := job.written ++ [b], inFlight := none } :=
      { iovPtr := h.iovPtr
        iovTotal := h.iovTotal
        iovChannel := h.iovChannel
        pos := h.pos
        le := h.le
        remaining := h.remaining
        refused := h.refused
        state := h.state
        checksumming := h.checksumming
        writing := rfl
        completeWritingTaskPosted := h.completeWritingTaskPosted
        canceled := h.canceled
        isAt := fun hne => by
          have hat := h.isAt hne
          have hframe := hat.frame
          rw [hb, ← List.append_assoc] at hframe
          exact ⟨hat.covers, hat.enough, hat.normal, hat.pos, hframe⟩ }
    have hwritten : job.written ++ [b] ≠ [] :=
      List.append_ne_nil_of_right_ne_nil _ (List.cons_ne_nil _ _)
    suffices hrest : ∀ r : DiscreteStreamWriter × List DiscreteStreamWriterAct,
        (∃ m', SpecRun (StreamWriterJob.Step vectors)
            (some { job with written := job.written ++ [b], inFlight := none }) r.2 m' ∧
          StandsFor vectors r.1 m') →
        ∃ m', SpecRun (StreamWriterJob.Step vectors) (some job) (.writeDone SUCCESS :: r.2) m' ∧
          StandsFor vectors r.1 m' by
      split_ifs with hcanceled _ hempty
      · refine hrest (_, []) ⟨_, .nil _, .wrappingUp (isWrappingUp_wrapUp hafter.toKnows
          hafter.checksumming rfl rfl ?_ ?_)⟩
        · exact fun hcancel => absurd hcancel (by decide)
        · exact fun _ _ => Or.inr (h.canceled.trans hcanceled)
      · contradiction
      · cases hi : writer.iovIter.currElem with
        | none =>
          refine hrest (_, []) ⟨_, .nil _, .wrappingUp (isWrappingUp_wrapUp hafter.toKnows
          hafter.checksumming rfl rfl ?_ ?_)⟩
          · exact fun hinval => absurd hinval (by decide)
          · -- Without empty elements the end of the vector is not reached before the last byte.
            intro hne _
            have hat := h.isAt hne
            have hpos := hat.pos
            have hiter : writer.iovIter = ⟨none, writer.iovIter.offset⟩ := by rw [← hi]
            rw [hiter, iovIterPos_none, sum_iovLens] at hpos
            have henough := hat.enough
            have hsize := h.pos
            have hrem : 0 < writer.iovRemaining.toNat :=
              Nat.pos_of_ne_zero fun h0 => hempty.2 (UInt16.toNat_inj.mp h0)
            omega
        | some i =>
          refine hrest _ (writeNext_spec
            (isTransmitting_fillBuffer stray hafter hempty.1 hempty.2 hi) rfl
            (Bool.eq_false_of_not_eq_true hcanceled) hwritten ?_ answer)
          exact fun hnil => absurd hnil (fillBuffer_ne_nil i)
      · refine hrest _ (writeNext_spec hafter rfl (Bool.eq_false_of_not_eq_true hcanceled) hwritten
          ?_ answer)
        exact fun hnil => by_contra fun hne => hempty ⟨hnil, hne⟩
    rintro ⟨s, acts⟩ ⟨m', hrun, hstands⟩
    exact ⟨m', .cons (.written job hb) hrun, hstands⟩
  · have hknows : Knows { writer with writing := false } { job with inFlight := none } :=
      ⟨h.iovPtr, h.iovTotal, h.iovChannel, h.pos, h.le, h.remaining, h.refused⟩
    have hstep : SpecRun (StreamWriterJob.Step vectors) (some job) [.writeDone status]
        (some { job with inFlight := none }) := .single (.notWritten job hb hstatus)
    split_ifs with hcanceled
    · refine ⟨_, hstep, .wrappingUp (isWrappingUp_wrapUp hknows h.checksumming rfl rfl ?_ ?_)⟩
      · exact fun hcancel => absurd hcancel (by decide)
      · exact fun _ _ => Or.inr (h.canceled.trans hcanceled)
    · refine ⟨_, hstep, .wrappingUp (isWrappingUp_wrapUp hknows h.checksumming rfl rfl ?_ ?_)⟩
      · exact fun hfail => absurd hfail (by decide)
      · intro hne _
        have hleft : job.inFlight.toList ++ writer.iovBuffer ≠ [] := by
          rw [hb]
          exact List.cons_ne_nil _ _
        have hnot : job.written ≠ job.frame vectors := written_ne_frame (h.isAt hne) hleft
        exact Or.inl hnot

theorem completeWritingTask_spec (h : writer.IsWrappingUp vectors job) :
    SpecRun (StreamWriterJob.Step vectors) (some job) writer.completeWritingTask.2 none ∧
      StandsFor vectors writer.completeWritingTask.1 none := by
  rw [completeWritingTask]
  dsimp only
  rw [if_neg (not_not.mpr h.state)]
  refine ⟨?_, .idle ⟨rfl, rfl, h.checksumming, h.writing, rfl⟩⟩
  rw [done]
  dsimp only
  rw [h.iovPtr, h.iovChannel, h.iovTotal]
  refine .single (.done job h.inFlight ?_ fun hne _ => ?_)
  · have hle := h.remaining
    rw [UInt16.le_iff_toNat_le, UInt16.toNat_sub_of_le _ _ (UInt16.le_iff_toNat_le.mpr hle)]
    omega
  · cases hcanceled : writer.canceled with
    | true =>
      rw [if_pos rfl]
      refine iff_of_false (by decide) fun hframe => ?_
      rw [h.canceled hcanceled] at hframe
      cases hframe.2
    | false =>
      rw [if_neg Bool.false_ne_true]
      by_cases hresult : writer.iovResult = SUCCESS
      · obtain ⟨hframe, hjob⟩ := h.success hne hresult
        exact iff_of_true hresult ⟨hframe, hjob.trans hcanceled⟩
      · refine iff_of_false hresult fun hframe => ?_
        rcases h.failure hne hresult with hnot | hjob
        · exact hnot hframe.1
        · rw [hframe.2] at hjob
          cases hjob

/-- A job that is canceled goes on, and knows of it. -/
theorem cancelWriting_spec (h : StandsFor vectors writer (some job)) {iov : ℕ} {channel : UInt8}
    (hcancel : (writer.cancelWriting (some iov) channel).1 = SUCCESS) :
    iov = job.iov ∧ channel = job.channel ∧
      StandsFor vectors (writer.cancelWriting (some iov) channel).2
        (some { job with canceled := true }) := by
  have hknows : writer.Knows job := by
    cases h with
    | checksumming h => exact h.toKnows
    | transmitting h => exact h.toKnows
    | wrappingUp h => exact h.toKnows
  rw [cancelWriting] at hcancel ⊢
  split_ifs at hcancel ⊢ with hother
  · exact absurd hcancel (by decide : EINVAL ≠ SUCCESS)
  rw [not_or, not_not, not_not, hknows.iovPtr, hknows.iovChannel] at hother
  refine ⟨(Option.some.inj hother.1).symm, hother.2.symm, ?_⟩
  cases h with
  | checksumming h =>
    exact .checksumming
      { iovPtr := h.iovPtr
        iovTotal := h.iovTotal
        iovChannel := h.iovChannel
        pos := h.pos
        le := h.le
        remaining := h.remaining
        refused := h.refused
        state := h.state
        checksumming := h.checksumming
        writing := h.writing
        completeWritingTaskPosted := h.completeWritingTaskPosted
        iovRemaining := h.iovRemaining
        iovIter := h.iovIter
        covers := h.covers
        written := h.written
        inFlight := h.inFlight
        canceled := rfl }
  | transmitting h hb =>
    refine .transmitting ?_ hb
    exact
      { iovPtr := h.iovPtr
        iovTotal := h.iovTotal
        iovChannel := h.iovChannel
        pos := h.pos
        le := h.le
        remaining := h.remaining
        refused := h.refused
        state := h.state
        checksumming := h.checksumming
        writing := h.writing
        completeWritingTaskPosted := h.completeWritingTaskPosted
        canceled := rfl
        isAt := fun hne =>
          have hat := h.isAt hne
          ⟨hat.covers, hat.enough, hat.normal, hat.pos, hat.frame⟩ }
  | wrappingUp h =>
    exact .wrappingUp
      { iovPtr := h.iovPtr
        iovTotal := h.iovTotal
        iovChannel := h.iovChannel
        pos := h.pos
        le := h.le
        remaining := h.remaining
        refused := h.refused
        state := h.state
        checksumming := h.checksumming
        writing := h.writing
        completeWritingTaskPosted := h.completeWritingTaskPosted
        inFlight := h.inFlight
        canceled := fun _ => rfl
        success := fun hne hresult => ⟨(h.success hne hresult).1, rfl⟩
        failure := fun _ _ => Or.inr rfl }

theorem StandsFor.knows (h : StandsFor vectors writer (some job)) : writer.Knows job := by
  cases h with
  | checksumming h => exact h.toKnows
  | transmitting h => exact h.toKnows
  | wrappingUp h => exact h.toKnows

/-- Every step of the writer is one of its job. -/
theorem step_spec (stray : UInt8) (writer : DiscreteStreamWriter) (m : Option StreamWriterJob)
    (event : DiscreteStreamWriterEvent) (h : StandsFor vectors writer m) :
    ∃ m', SpecRun (StreamWriterJob.Step vectors) m (writer.step vectors stray event).2 m' ∧
      StandsFor vectors (writer.step vectors stray event).1 m' := by
  cases event with
  | initiateWriting iov size channel answer =>
    simp only [step]
    cases m with
    | none =>
      rcases initiateWriting_cases h iov size channel answer with
        ⟨hfail, hidle, -⟩ | ⟨i, rfl, -, -, -, hsuccess, hchecksumming⟩
      · refine ⟨none, ?_, .idle hidle⟩
        cases iov with
        | none => exact .nil _
        | some iov =>
          dsimp only
          rw [if_neg hfail]
          exact .nil _
      · refine ⟨_, ?_, .checksumming hchecksumming⟩
        dsimp only
        rw [if_pos hsuccess]
        exact .single (.accepted i size channel)
    | some job =>
      obtain ⟨hfail, hsame⟩ := initiateWriting_of_knows h.knows iov size channel answer
      rw [hsame]
      refine ⟨some job, ?_, h⟩
      cases iov with
      | none => exact .nil _
      | some iov =>
        dsimp only
        rw [if_neg hfail]
        exact .nil _
  | finishChecksumming answer =>
    rw [step]
    split_ifs with hchecksumming
    · cases h with
      | idle h => exact absurd hchecksumming (by simp [h.checksumming])
      | checksumming h => exact finishChecksumming_spec h answer
      | transmitting h => exact absurd hchecksumming (by simp [h.checksumming])
      | wrappingUp h => exact absurd hchecksumming (by simp [h.checksumming])
    · exact ⟨m, .nil m, h⟩
  | writeDone status answer =>
    rw [step]
    split_ifs with hwriting
    · cases h with
      | idle h => exact absurd hwriting (by simp [h.writing])
      | checksumming h => exact absurd hwriting (by simp [h.writing])
      | transmitting h hb => exact writeDone_spec h hb status answer
      | wrappingUp h => exact absurd hwriting (by simp [h.writing])
    · exact ⟨m, .nil m, h⟩
  | completeWritingTask =>
    rw [step]
    split_ifs with hposted
    · cases h with
      | idle h => exact absurd hposted (by simp [h.completeWritingTaskPosted])
      | checksumming h => exact absurd hposted (by simp [h.completeWritingTaskPosted])
      | transmitting h => exact absurd hposted (by simp [h.completeWritingTaskPosted])
      | wrappingUp h => exact ⟨none, completeWritingTask_spec h⟩
    · exact ⟨m, .nil m, h⟩
  | cancelWriting iov channel =>
    simp only [step]
    cases hiov : iov with
    | none =>
      -- Nothing is canceled, but the flag may be set while there is no job.
      refine ⟨m, .nil m, ?_⟩
      rw [cancelWriting]
      split_ifs with hother
      · exact h
      · rw [not_or, not_not] at hother
        cases m with
        | none =>
          obtain ⟨⟩ := h
          rename_i h
          exact .idle ⟨h.state, h.iovPtr, h.checksumming, h.writing, h.completeWritingTaskPosted⟩
        | some job =>
          have hptr := h.knows.iovPtr
          rw [hother.1] at hptr
          cases hptr
    | some iov =>
      dsimp only
      by_cases hcancel : (writer.cancelWriting (some iov) channel).1 = SUCCESS
      · rw [if_pos hcancel]
        cases m with
        | none =>
          obtain ⟨⟩ := h
          rename_i h
          rw [cancelWriting, h.iovPtr] at hcancel
          exact absurd hcancel (by simp [EINVAL, SUCCESS])
        | some job =>
          obtain ⟨rfl, rfl, hstands⟩ := cancelWriting_spec h hcancel
          exact ⟨_, .single (.canceled job), hstands⟩
      · rw [if_neg hcancel]
        have hsame : (writer.cancelWriting (some iov) channel).2 = writer := by
          rw [cancelWriting] at hcancel ⊢
          split_ifs at hcancel ⊢
          · rfl
          · exact absurd rfl hcancel
        rw [hsame]
        exact ⟨m, .nil m, h⟩

/-! ## Progress -/

/-- The events that the writer waits for. -/
def awaited (writer : DiscreteStreamWriter) : DiscreteStreamWriterEvent → Bool
  | .finishChecksumming _ => writer.checksumming
  | .writeDone _ _ => writer.writing
  | .completeWritingTask => writer.completeWritingTaskPosted
  | .initiateWriting _ _ _ _ | .cancelWriting _ _ => false

/-- How many of them may still come before the last one. -/
def left (writer : DiscreteStreamWriter) : ℕ :=
  match writer.state with
  | .idle => 0
  | .checksumming => 8 * writer.iovRemaining.toNat + 8
  | .transmitting => 8 * writer.iovRemaining.toNat + writer.iovBuffer.length + 1
  | .wrappingUp => 0

theorem left_wrapUp (status : ErrorT) : (writer.wrapUp status).left = 0 := rfl

theorem left_writeNext (writer : DiscreteStreamWriter) (hstate : writer.state = .transmitting)
    (answer : ErrorT) :
    (writer.writeNext answer).1.left + 1 ≤ writer.left := by
  have hleft : writer.left = 8 * writer.iovRemaining.toNat + writer.iovBuffer.length + 1 := by
    rw [left, hstate]
  rw [hleft, writeNext]
  cases hbuf : writer.iovBuffer with
  | nil =>
    rw [if_pos rfl, left_wrapUp]
    omega
  | cons b iovBuffer =>
    rw [if_neg (List.cons_ne_nil b iovBuffer), startWrite, hbuf]
    split_ifs
    · rw [left, hstate]
      dsimp only
      rw [List.length_cons]
      omega
    · rw [left_wrapUp]
      omega

theorem left_writeDone (hstate : writer.state = .transmitting) (status answer : ErrorT) :
    (writer.writeDone vectors stray status answer).1.left + 1 ≤ writer.left := by
  have hleft : writer.left = 8 * writer.iovRemaining.toNat + writer.iovBuffer.length + 1 := by
    rw [left, hstate]
  have hwrapUp : ∀ (s : DiscreteStreamWriter) (status : ErrorT),
      (s.wrapUp status).left + 1 ≤ writer.left := by
    intro s status
    rw [left_wrapUp, hleft]
    omega
  rw [writeDone]
  dsimp only
  rw [if_neg (not_not.mpr hstate)]
  split_ifs with hcanceled hfail hempty
  · exact hwrapUp _ _
  · exact hwrapUp _ _
  · cases hi : writer.iovIter.currElem with
    | none => exact hwrapUp _ _
    | some i =>
      dsimp only
      generalize hs : DiscreteStreamWriter.fillBuffer vectors stray { writer with writing := false }
        i = s
      have hstate' : s.state = .transmitting := by
        rw [← hs]
        exact hstate
      have hbuffer : s.iovBuffer.length ≤ 7 := by
        rw [← hs]
        exact length_iovBuffer_fillBuffer_le i
      have hrem : 0 < writer.iovRemaining.toNat :=
        Nat.pos_of_ne_zero fun h0 => hempty.2 (UInt16.toNat_inj.mp h0)
      have hpred : s.iovRemaining.toNat = writer.iovRemaining.toNat - 1 := by
        rw [← hs]
        exact UInt16.toNat_sub_of_le _ _ (UInt16.le_iff_toNat_le.mpr hrem)
      have hnext := left_writeNext s hstate' answer
      have hleft' : s.left = 8 * s.iovRemaining.toNat + s.iovBuffer.length + 1 := by
        rw [left, hstate']
      omega
  · exact left_writeNext { writer with writing := false } hstate answer

theorem left_finishChecksumming (h : writer.IsChecksumming job) (answer : ErrorT) :
    (writer.finishChecksumming vectors answer).1.left + 1 ≤ writer.left := by
  have hleft : writer.left = 8 * writer.iovRemaining.toNat + 8 := by rw [left, h.state]
  have hheader := length_flatMap_serializeByte_le
    (discreteStreamHeader writer.iovRemaining writer.iovChannel)
  have hlen := length_discreteStreamHeader_le writer.iovRemaining writer.iovChannel
  rw [hleft, finishChecksumming]
  dsimp only
  split_ifs with hcanceled hshort hanswer
  · exact Nat.le_add_left _ _
  · exact Nat.le_add_left _ _
  · subst hanswer
    rw [left, startWrite]
    dsimp only
    rw [if_pos rfl]
    dsimp only
    omega
  · exact Nat.le_add_left _ _

/-- A job that does not end goes on. -/
theorem exists_job_of_specRun {m m' : Option StreamWriterJob} {acts : List DiscreteStreamWriterAct}
    (h : SpecRun (StreamWriterJob.Step vectors) m acts m') (hm : m.isSome)
    (hacts : ∀ act ∈ acts, act.isDoneWriting = false) : m'.isSome := by
  induction h with
  | nil m => exact hm
  | cons head tail ih =>
    refine ih ?_ fun act hact => hacts act (List.mem_cons_of_mem _ hact)
    cases head with
    | done job _ _ _ => cases hacts _ List.mem_cons_self
    | _ => rfl

/-- No event gives the writer more to do, and those that it waits for leave it with less. -/
theorem step_progress (stray : UInt8) (writer : DiscreteStreamWriter)
    (event : DiscreteStreamWriterEvent)
    (h : ∃ job, StandsFor vectors writer (some job)) :
    (∃ act ∈ (writer.step vectors stray event).2, act.isDoneWriting = true) ∨
      (∃ job, StandsFor vectors (writer.step vectors stray event).1 (some job)) ∧
        (writer.step vectors stray event).1.left + (if writer.awaited event then 1 else 0) ≤
          writer.left := by
  obtain ⟨job, h⟩ := h
  by_cases hdone : ∃ act ∈ (writer.step vectors stray event).2, act.isDoneWriting = true
  · exact Or.inl hdone
  obtain ⟨m', hrun, hstands⟩ := step_spec stray writer (some job) event h
  have hsome := exists_job_of_specRun hrun rfl fun act hact =>
    Bool.eq_false_of_not_eq_true fun hact' => hdone ⟨act, hact, hact'⟩
  obtain ⟨job', rfl⟩ := Option.isSome_iff_exists.mp hsome
  refine Or.inr ⟨⟨job', hstands⟩, ?_⟩
  clear hrun hstands hsome
  cases event with
  | initiateWriting iov size channel answer =>
    simp only [step]
    rw [(initiateWriting_of_knows h.knows iov size channel answer).2, awaited]
    exact le_rfl
  | finishChecksumming answer =>
    rw [step, awaited]
    split_ifs with hchecksumming
    · cases h with
      | checksumming h => exact left_finishChecksumming h answer
      | transmitting h => exact absurd hchecksumming (by simp [h.checksumming])
      | wrappingUp h => exact absurd hchecksumming (by simp [h.checksumming])
    · exact le_rfl
  | writeDone status answer =>
    rw [step, awaited]
    split_ifs with hwriting
    · cases h with
      | checksumming h => exact absurd hwriting (by simp [h.writing])
      | transmitting h => exact left_writeDone h.state status answer
      | wrappingUp h => exact absurd hwriting (by simp [h.writing])
    · exact le_rfl
  | completeWritingTask =>
    rw [step, awaited]
    split_ifs with hposted
    · cases h with
      | checksumming h => exact absurd hposted (by simp [h.completeWritingTaskPosted])
      | transmitting h => exact absurd hposted (by simp [h.completeWritingTaskPosted])
      | wrappingUp h =>
        rw [step, if_pos hposted, completeWritingTask] at hdone
        dsimp only at hdone
        rw [if_neg (not_not.mpr h.state)] at hdone
        exact absurd ⟨_, List.mem_singleton_self _, rfl⟩ hdone
    · exact le_rfl
  | cancelWriting iov channel =>
    have hsame : (writer.cancelWriting iov channel).2.left = writer.left := by
      rw [cancelWriting]
      split_ifs <;> rfl
    simp only [step]
    rw [awaited, hsame]
    exact le_rfl

/-- While there is a job, something is awaited. -/
theorem exists_awaited (h : StandsFor vectors writer (some job)) :
    ∃ event, writer.awaited event = true := by
  cases h with
  | checksumming h => exact ⟨.finishChecksumming SUCCESS, h.checksumming⟩
  | transmitting h hb =>
    refine ⟨.writeDone SUCCESS SUCCESS, h.writing.trans ?_⟩
    rw [hb]
    rfl
  | wrappingUp h => exact ⟨.completeWritingTask, h.completeWritingTaskPosted⟩

end DiscreteStreamWriter

/-- Every run of the writer is a sequence of jobs.  A job that has been accepted ends after as many
of the awaited events as there are left, and then the next one is accepted. -/
theorem DiscreteStreamWriter.streamWriter_jobs (vectors : ℕ → IovBlist) (stray : UInt8)
    (events : List DiscreteStreamWriterEvent) :
    let r := run (DiscreteStreamWriter.step vectors stray) init events
    ∃ m, SpecRun (StreamWriterJob.Step vectors) none r.2 m ∧
      (m.isSome → (∃ event, r.1.awaited event = true) ∧ ∀ later,
        r.1.left < awaitedSteps (DiscreteStreamWriter.step vectors stray) awaited r.1 later →
          ∃ act ∈ (run (DiscreteStreamWriter.step vectors stray) r.1 later).2,
            act.isDoneWriting = true) ∧
      (m = none → ∀ iov size channel, size ≠ 0 → size ≤ 0x7fff →
        (r.1.initiateWriting (some iov) size channel SUCCESS).1 = SUCCESS) := by
  intro r
  have hinit : StandsFor vectors init none := .idle ⟨rfl, rfl, rfl, rfl, rfl⟩
  obtain ⟨m, hrun, hstands⟩ :=
    run_simulates (fun s m event h => step_spec stray s m event h) hinit events
  refine ⟨m, hrun, fun hsome => ?_, ?_⟩
  · obtain ⟨job, rfl⟩ := Option.isSome_iff_exists.mp hsome
    refine ⟨exists_awaited hstands, fun later hmany => ?_⟩
    exact exists_done_of_awaitedSteps (step_progress stray) ⟨job, hstands⟩ hmany
  · rintro rfl iov size channel hsize hle
    rcases initiateWriting_cases hstands (some iov) size channel SUCCESS with
      ⟨-, -, hbad⟩ | ⟨i, -, -, -, -, hsuccess, -⟩
    · rcases hbad with hnone | hzero | hlarge | hanswer
      · cases hnone
      · exact absurd hzero hsize
      · exact absurd hlarge (UInt16.not_lt.mpr hle)
      · exact absurd rfl hanswer
    · exact hsuccess

/-- A vector of which every byte was written, and which is canceled before the writer tells its
user. -/
theorem DiscreteStreamWriter.streamWriter_jobs_canceled :
    let frame := discreteStreamFrame [1] 1 0
    (run (DiscreteStreamWriter.step (fun _ => [[1]]) 0) init
      (.initiateWriting (some 0) 1 0 SUCCESS :: .finishChecksumming SUCCESS ::
        (List.replicate frame.length (.writeDone SUCCESS SUCCESS) ++
          [.cancelWriting (some 0) 0, .completeWritingTask]))).2 =
      .accepted 0 1 0 :: (frame.flatMap (fun b => [.startWrite b SUCCESS, .writeDone SUCCESS]) ++
        [.canceled 0 0, .doneWriting (some 0) 1 0 ECANCEL]) := by
  decide +kernel

end Whip6
