import Whip6.Io.BufferedReader
import Whip6.Lib.RingIndex
import Whip6.Lib.Simulation

/-!
# Runs of the buffered reader

Bytes are received, dropped, moved and delivered in their order (`BufferedBytes.Step`), and every
run of the reader goes so (`bufferedReader_bytes`).  What was lost when the task starts is reported
before it delivers a buffer; what is lost while it runs is reported when it runs again.
-/

namespace Whip6

open Lib

/-! ## Bytes -/

/-- The bytes that are in the ring, and those that were taken from it for the buffer of the user.
`due` is how many bytes had been lost when the task started last and are not yet reported, and
`fresh` is how many were lost since then. -/
structure BufferedBytes where
  ring : List UInt8
  taken : List UInt8
  due : ℕ
  fresh : ℕ

namespace BufferedBytes

/-- A number that the counter of lost bytes can hold. -/
def Fits (n : ℕ) : Prop := n < 2 ^ 16

inductive Step : BufferedBytes → BufferedReaderAct → BufferedBytes → Prop
  | received (b : BufferedBytes) (val : UInt8) :
    Step b (.received val) { b with ring := b.ring ++ [val] }
  | failed (b : BufferedBytes) : Step b .failed { b with fresh := b.fresh + 1 }
  | dropped (b : BufferedBytes) {val : UInt8} {ring : List UInt8} (h : b.ring = val :: ring) :
    Step b (.dropped val) { b with ring := ring, fresh := b.fresh + 1 }
  | started (b : BufferedBytes) (h : Fits b.due → b.due = 0) :
    Step b .started { b with due := b.fresh, fresh := 0 }
  | bytesLost (b : BufferedBytes) {lostCount : UInt16} (h : Fits b.due → lostCount.toNat = b.due) :
    Step b (.bytesLost lostCount) { b with due := 0 }
  | taken (b : BufferedBytes) {val : UInt8} {ring : List UInt8} (h : b.ring = val :: ring) :
    Step b (.taken val) { b with ring := ring, taken := b.taken ++ [val] }
  | readDone (b : BufferedBytes) {capacity : UInt16} (hdue : Fits b.due → b.due = 0)
    (hlength : b.taken.length = capacity.toNat) :
    Step b (.readDone b.taken capacity) { b with taken := [] }
  | flushed (b : BufferedBytes) : Step b .flushed { b with ring := [], taken := [] }

/-- The number of bytes that an act loses. -/
def lostIn : BufferedReaderAct → ℕ
  | .failed | .dropped _ => 1
  | _ => 0

/-- The number of lost bytes that an act reports. -/
def reportedIn : BufferedReaderAct → ℕ
  | .bytesLost lostCount => lostCount.toNat
  | _ => 0

/-- Whenever the task starts, the counter can hold the number of bytes that were lost since it
started last, with those of before. -/
def FewLost : ℕ → List BufferedReaderAct → Prop
  | _, [] => True
  | n, .started :: acts => Fits n ∧ FewLost 0 acts
  | n, act :: acts => FewLost (n + lostIn act) acts

variable {b b' : BufferedBytes}

/-- What was reported and what is to be reported is what was lost. -/
theorem lost_eq {acts : List BufferedReaderAct} (h : SpecRun Step b acts b')
    (hfew : FewLost b.fresh acts) (hdue : Fits b.due) :
    (acts.map reportedIn).sum + b'.due + b'.fresh =
      b.due + b.fresh + (acts.map lostIn).sum ∧ Fits b'.due := by
  induction h with
  | nil b =>
    refine ⟨?_, hdue⟩
    simp
  | cons head tail ih =>
    cases head with
    | received val =>
      obtain ⟨hsum, hfits⟩ := ih hfew hdue
      exact ⟨by simpa [reportedIn, lostIn] using hsum, hfits⟩
    | failed =>
      obtain ⟨hsum, hfits⟩ := ih hfew hdue
      refine ⟨?_, hfits⟩
      simp only [List.map_cons, List.sum_cons, reportedIn, lostIn] at hsum ⊢
      omega
    | dropped hring =>
      obtain ⟨hsum, hfits⟩ := ih hfew hdue
      refine ⟨?_, hfits⟩
      simp only [List.map_cons, List.sum_cons, reportedIn, lostIn] at hsum ⊢
      omega
    | started hzero =>
      obtain ⟨hsum, hfits⟩ := ih hfew.2 hfew.1
      refine ⟨?_, hfits⟩
      have hdue0 := hzero hdue
      simp only [List.map_cons, List.sum_cons, reportedIn, lostIn] at hsum ⊢
      omega
    | bytesLost hcount =>
      obtain ⟨hsum, hfits⟩ := ih hfew (Nat.two_pow_pos 16)
      refine ⟨?_, hfits⟩
      have heq := hcount hdue
      simp only [List.map_cons, List.sum_cons, reportedIn, lostIn] at hsum ⊢
      omega
    | taken hring =>
      obtain ⟨hsum, hfits⟩ := ih hfew hdue
      exact ⟨by simpa [reportedIn, lostIn] using hsum, hfits⟩
    | readDone hzero hlength =>
      obtain ⟨hsum, hfits⟩ := ih hfew hdue
      exact ⟨by simpa [reportedIn, lostIn] using hsum, hfits⟩
    | flushed =>
      obtain ⟨hsum, hfits⟩ := ih hfew hdue
      exact ⟨by simpa [reportedIn, lostIn] using hsum, hfits⟩

end BufferedBytes

/-! ## The reader and its bytes -/

/-- The byte that is to be stored. -/
def BufferedReaderTask.value : BufferedReaderTask → List UInt8
  | .storing value => [value]
  | _ => []

namespace BufferedReader

variable {size : ℕ+} {reader : BufferedReader} {b : BufferedBytes}

/-- The number of cells of the ring that the indices reach. -/
def ringSize (internalBufferSize : ℕ+) : ℕ := min internalBufferSize 256

theorem ringSize_pos (size : ℕ+) : 0 < ringSize size := lt_min size.pos (by decide)

theorem toNat_internalBufferIncPos {pos : UInt8} (h : pos.toNat < ringSize size) :
    (internalBufferIncPos size pos).toNat = ringCell (ringSize size) pos.toNat 1 := by
  rw [internalBufferIncPos, UInt8.toNat_ofNat', ringCell]
  rw [ringSize] at h ⊢
  have hsize := size.pos
  by_cases hlast : pos.toNat + 1 = size
  · rw [hlast, Nat.mod_self]
    split_ifs <;> omega
  · rcases Nat.lt_or_ge (pos.toNat + 1) size with hlt | hge
    · rw [Nat.mod_eq_of_lt hlt]
      split_ifs <;> omega
    · omega

/-- The reader has these bytes. -/
structure StandsFor (size : ℕ+) (reader : BufferedReader) (b : BufferedBytes) : Prop where
  ring : RingHolds (ringSize size) reader.internalBuffer reader.internalBufferTail.toNat
    reader.internalBufferHead.toNat b.ring
  notFull : b.ring.length < ringSize size
  taken : b.taken = reader.externalBuffer.getD [] ++ reader.task.value
  stores : ∀ value, reader.task = .storing value → reader.externalBuffer.isSome
  pos : ∀ bytes, reader.externalBuffer = some bytes →
    bytes.length = reader.externalBufferPos.toNat ∧
      reader.externalBufferPos.toNat < reader.externalBufferSize.toNat
  lost : reader.lostBytes.toNat = b.fresh % 2 ^ 16
  posted : reader.lostBytes ≠ 0 → reader.processPosted = true
  due : BufferedBytes.Fits b.due → b.due = 0

theorem standsFor_init (size : ℕ+) : StandsFor size init ⟨[], [], 0, 0⟩ where
  ring := .nil _ (ringSize_pos size)
  notFull := ringSize_pos size
  taken := rfl
  stores := fun value h => by cases h
  pos := fun bytes h => by cases h
  lost := rfl
  posted := fun h => absurd rfl h
  due := fun _ => rfl

/-! ## Commands -/

theorem setActive_spec (h : StandsFor size reader b) (active : Bool) :
    StandsFor size (reader.setActive active) b := by
  rw [setActive]
  split_ifs <;>
  exact ⟨h.ring, h.notFull, h.taken, h.stores, h.pos, h.lost, h.posted, h.due⟩

theorem value_of_callable (h : reader.callable = true) : reader.task.value = [] := by
  rw [callable] at h
  cases htask : reader.task with
  | idle => rfl
  | looking => rfl
  | storing value =>
    rw [htask] at h
    cases h

theorem startRead_spec (h : StandsFor size reader b) (isNull : Bool) (cap : UInt16) :
    StandsFor size (reader.startRead isNull cap).2 b := by
  rw [startRead]
  split_ifs with hnull hbusy
  · exact h
  · exact h
  · rw [not_or] at hnull
    have hnone : reader.externalBuffer = none := by
      rw [Bool.not_eq_true, Option.isSome_eq_false_iff, Option.isNone_iff_eq_none] at hbusy
      exact hbusy
    have htaken := h.taken
    rw [hnone] at htaken
    exact
      { ring := h.ring
        notFull := h.notFull
        taken := htaken
        stores := fun _ _ => rfl
        pos := fun bytes hbytes => by
          obtain rfl := Option.some.inj hbytes
          exact ⟨rfl, Nat.pos_of_ne_zero fun h0 => hnull.2 (UInt16.toNat_inj.mp h0)⟩
        lost := h.lost
        posted := fun _ => rfl
        due := h.due }

theorem flush_spec (h : StandsFor size reader b) (hcallable : reader.callable = true) :
    StandsFor size reader.flush { b with ring := [], taken := [] } where
  ring := .nil _ h.ring.first_lt
  notFull := ringSize_pos size
  taken := (value_of_callable hcallable).symm
  stores := fun value hvalue => by
    rw [callable] at hcallable
    change reader.task = .storing value at hvalue
    rw [hvalue] at hcallable
    cases hcallable
  pos := fun bytes hbytes => by cases hbytes
  lost := h.lost
  posted := h.posted
  due := h.due

/-! ## The interrupt -/

theorem posted_postProcess (reader : BufferedReader) (h : reader.lostBytes ≠ 0) :
    reader.postProcess.processPosted = true := by
  rw [postProcess, bne_iff_ne.mpr h, Bool.or_true, Bool.true_or]

theorem toNat_lostBytes_succ (h : StandsFor size reader b) :
    (reader.lostBytes + 1).toNat = (b.fresh + 1) % 2 ^ 16 := by
  have hlost := h.lost
  rw [UInt16.toNat_add, hlost]
  change (_ + 1) % 2 ^ 16 = _
  omega

theorem readDone_spec (h : StandsFor size reader b) (result : ErrorT) (val : UInt8) :
    ∃ b', SpecRun BufferedBytes.Step b (reader.readDone size result val).2 b' ∧
      StandsFor size (reader.readDone size result val).1 b' := by
  have hpush := h.ring.push h.notFull val
  have hhead := toNat_internalBufferIncPos h.ring.last_lt
  have htail := toNat_internalBufferIncPos h.ring.first_lt
  rw [readDone]
  dsimp only
  split_ifs with hactive hresult hfull
  · exact ⟨b, .nil b, ⟨h.ring, h.notFull, h.taken, h.stores, h.pos, h.lost, h.posted, h.due⟩⟩
  · refine ⟨_, .single (.failed b), ?_⟩
    exact
      { ring := h.ring
        notFull := h.notFull
        taken := h.taken
        stores := h.stores
        pos := h.pos
        lost := toNat_lostBytes_succ h
        posted := fun hlost => posted_postProcess _ hlost
        due := h.due }
  · -- The ring is full, and its oldest byte makes room.
    rw [← UInt8.toNat_inj, hhead, hpush.first_eq_last_iff] at hfull
    have hlength : (b.ring ++ [val]).length = ringSize size :=
      hfull.resolve_left (List.append_ne_nil_of_right_ne_nil _ (List.cons_ne_nil _ _))
    obtain ⟨oldest, ring, hring⟩ := List.exists_cons_of_ne_nil
      (List.append_ne_nil_of_right_ne_nil b.ring (List.cons_ne_nil val []))
    rw [hring] at hpush hlength
    obtain ⟨holdest, hpop⟩ := hpush.pop
    rw [holdest]
    refine ⟨_, .cons (.received b val) (.single (.dropped _ hring)), ?_⟩
    exact
      { ring := by
          rw [← hhead, ← htail] at hpop
          exact hpop
        notFull := by
          rw [List.length_cons] at hlength
          change ring.length < _
          omega
        taken := h.taken
        stores := h.stores
        pos := h.pos
        lost := by
          have hlost := toNat_lostBytes_succ h
          exact hlost
        posted := fun hlost => posted_postProcess _ hlost
        due := h.due }
  · rw [← UInt8.toNat_inj, hhead, hpush.first_eq_last_iff, not_or] at hfull
    refine ⟨_, .single (.received b val), ?_⟩
    exact
      { ring := by
          rw [← hhead] at hpush
          exact hpush
        notFull := Nat.lt_of_le_of_ne hpush.length_le hfull.2
        taken := h.taken
        stores := h.stores
        pos := h.pos
        lost := h.lost
        posted := fun hlost => posted_postProcess _ hlost
        due := h.due }

/-! ## The task -/

/-- The task takes the number of lost bytes and reports it. -/
theorem process_idle_spec (h : StandsFor size reader b) (htask : reader.task = .idle) :
    ∃ b', SpecRun BufferedBytes.Step b (reader.process size).2 b' ∧
      StandsFor size (reader.process size).1 b' := by
  have htaken := h.taken
  rw [htask] at htaken
  have hlost := h.lost
  rw [process, htask]
  dsimp only
  split_ifs with hposted hnonzero
  · refine ⟨_, .cons (.started b h.due) (.single (.bytesLost _ fun hfits => ?_)), ?_⟩
    · change b.fresh < 2 ^ 16 at hfits
      rw [hlost, Nat.mod_eq_of_lt hfits]
    · exact
        { ring := h.ring
          notFull := h.notFull
          taken := htaken
          stores := fun value hvalue => by cases hvalue
          pos := h.pos
          lost := rfl
          posted := fun hne => absurd rfl hne
          due := fun _ => rfl }
  · refine ⟨_, .single (.started b h.due), ?_⟩
    exact
      { ring := h.ring
        notFull := h.notFull
        taken := htaken
        stores := fun value hvalue => by cases hvalue
        pos := h.pos
        lost := rfl
        posted := fun hne => absurd rfl hne
        due := fun hfits => by
          change b.fresh < 2 ^ 16 at hfits
          rw [not_not.mp hnonzero, Nat.mod_eq_of_lt hfits] at hlost
          exact hlost.symm }
  · exact ⟨b, .nil b, h⟩

/-- The task takes a byte, if there is one and a buffer for it. -/
theorem process_looking_spec (h : StandsFor size reader b) (htask : reader.task = .looking) :
    ∃ b', SpecRun BufferedBytes.Step b (reader.process size).2 b' ∧
      StandsFor size (reader.process size).1 b' := by
  have htaken := h.taken
  rw [htask] at htaken
  have hidle : StandsFor size { reader with task := .idle } b :=
    { ring := h.ring
      notFull := h.notFull
      taken := htaken
      stores := fun value hvalue => by cases hvalue
      pos := h.pos
      lost := h.lost
      posted := h.posted
      due := h.due }
  rw [process, htask]
  dsimp only
  split_ifs with hnone hempty
  · exact ⟨b, .nil b, hidle⟩
  · exact ⟨b, .nil b, hidle⟩
  · have hne : b.ring ≠ [] := fun hnil => hempty
      (UInt8.toNat_inj.mp (h.ring.first_eq_last_iff.mpr (Or.inl hnil)))
    obtain ⟨value, ring, hring⟩ := List.exists_cons_of_ne_nil hne
    have hholds := h.ring
    have hnotFull := h.notFull
    rw [hring] at hholds hnotFull
    obtain ⟨hvalue, hpop⟩ := hholds.pop
    rw [hvalue]
    refine ⟨_, .single (.taken b hring), ?_⟩
    exact
      { ring := by
          rw [← toNat_internalBufferIncPos h.ring.first_lt] at hpop
          exact hpop
        notFull := (Nat.lt_succ_self _).trans hnotFull
        taken := by
          change b.taken ++ [value] = reader.externalBuffer.getD [] ++ [value]
          rw [htaken]
          exact congrArg (· ++ [value]) (List.append_nil _)
        stores := fun _ _ => Option.isSome_iff_ne_none.mpr hnone
        pos := h.pos
        lost := h.lost
        posted := h.posted
        due := h.due }

/-- The task stores a byte, and gives a full buffer back. -/
theorem process_storing_spec (h : StandsFor size reader b) {value : UInt8}
    (htask : reader.task = .storing value) :
    ∃ b', SpecRun BufferedBytes.Step b (reader.process size).2 b' ∧
      StandsFor size (reader.process size).1 b' := by
  obtain ⟨bytes, hbytes⟩ := Option.isSome_iff_exists.mp (h.stores value htask)
  obtain ⟨hlength, hlt⟩ := h.pos bytes hbytes
  have htaken := h.taken
  rw [htask, hbytes] at htaken
  change b.taken = bytes ++ [value] at htaken
  have hpos : (reader.externalBufferPos + 1).toNat = reader.externalBufferPos.toNat + 1 := by
    have hsize := reader.externalBufferSize.toNat_lt
    rw [UInt16.toNat_add]
    change (_ + 1) % 2 ^ 16 = _
    omega
  rw [process, htask]
  dsimp only
  rw [hbytes, Option.getD_some, ← htaken]
  split_ifs with hfull
  · have hcapacity : b.taken.length = reader.externalBufferSize.toNat := by
      rw [← hfull, hpos, htaken, List.length_append, List.length_singleton, hlength]
    refine ⟨_, .single (.readDone b h.due hcapacity), ?_⟩
    exact
      { ring := h.ring
        notFull := h.notFull
        taken := rfl
        stores := fun value hvalue => by cases hvalue
        pos := fun bytes hnone => by cases hnone
        lost := h.lost
        posted := h.posted
        due := h.due }
  · refine ⟨b, .nil b, ?_⟩
    exact
      { ring := h.ring
        notFull := h.notFull
        taken := (List.append_nil _).symm
        stores := fun value hvalue => by cases hvalue
        pos := fun bytes' hbytes' => by
          obtain rfl := Option.some.inj hbytes'
          refine ⟨?_, ?_⟩
          · change b.taken.length = (reader.externalBufferPos + 1).toNat
            rw [hpos, htaken, List.length_append, List.length_singleton, hlength]
          · change (reader.externalBufferPos + 1).toNat < reader.externalBufferSize.toNat
            have hne : (reader.externalBufferPos + 1).toNat ≠ reader.externalBufferSize.toNat :=
              fun heq => hfull (UInt16.toNat_inj.mp heq)
            omega
        lost := h.lost
        posted := h.posted
        due := h.due }

/-- Every step of the reader is one of its bytes. -/
theorem step_spec (size : ℕ+) (reader : BufferedReader) (b : BufferedBytes)
    (event : BufferedReaderEvent) (h : StandsFor size reader b) :
    ∃ b', SpecRun BufferedBytes.Step b (reader.step size event).2 b' ∧
      StandsFor size (reader.step size event).1 b' := by
  cases event with
  | setActive active =>
    rw [step]
    refine ⟨b, .nil b, ?_⟩
    split_ifs
    · exact setActive_spec h active
    · exact h
  | startRead isNull cap =>
    rw [step]
    refine ⟨b, .nil b, ?_⟩
    split_ifs
    · exact startRead_spec h isNull cap
    · exact h
  | flush =>
    rw [step]
    split_ifs with hcallable
    · exact ⟨_, .single (.flushed b), flush_spec h hcallable⟩
    · exact ⟨b, .nil b, h⟩
  | readDone result val =>
    rw [step]
    split_ifs
    · exact readDone_spec h result val
    · exact ⟨b, .nil b, h⟩
  | process =>
    rw [step]
    cases htask : reader.task with
    | idle => exact process_idle_spec h htask
    | looking => exact process_looking_spec h htask
    | storing value => exact process_storing_spec h htask

/-- Every run of the reader is one of its bytes.  If the counter can hold the number of the bytes
that were lost whenever the task starts, what was reported and what was lost since then is what was
lost; and the task is posted where something was. -/
theorem bufferedReader_bytes (internalBufferSize : ℕ+) (events : List BufferedReaderEvent) :
    let r := run (step internalBufferSize) init events
    ∃ b, SpecRun BufferedBytes.Step ⟨[], [], 0, 0⟩ r.2 b ∧
      (BufferedBytes.FewLost 0 r.2 → (r.2.map BufferedBytes.reportedIn).sum + b.fresh =
        (r.2.map BufferedBytes.lostIn).sum) ∧
      (BufferedBytes.Fits b.fresh → b.fresh ≠ 0 → r.1.processPosted = true) := by
  intro r
  obtain ⟨b, hrun, h⟩ : ∃ b, SpecRun BufferedBytes.Step ⟨[], [], 0, 0⟩ r.2 b ∧
      StandsFor internalBufferSize r.1 b :=
    run_simulates (step_spec internalBufferSize) (standsFor_init internalBufferSize) events
  refine ⟨b, hrun, fun hfew => ?_, fun hfits hne => h.posted fun hzero => ?_⟩
  · obtain ⟨hsum, hdue⟩ := BufferedBytes.lost_eq hrun hfew (Nat.two_pow_pos 16)
    rw [h.due hdue] at hsum
    dsimp only at hsum
    omega
  · have hlost := h.lost
    rw [hzero, Nat.mod_eq_of_lt hfits] at hlost
    exact hne hlost.symm

/-- A byte is lost while the task runs, and the bytes behind it are delivered before that is
reported. -/
theorem bufferedReader_bytes_late :
    (run (step 3) init [.setActive true, .readDone SUCCESS 1, .readDone SUCCESS 2,
      .startRead false 2, .process, .readDone SUCCESS 3, .process, .process, .process, .process,
      .process, .process]).2 =
      [.received 1, .received 2, .started, .received 3, .dropped 1, .taken 2, .taken 3,
        .readDone [2, 3] 2, .started, .bytesLost 1] := by
  decide

end BufferedReader

end Whip6
