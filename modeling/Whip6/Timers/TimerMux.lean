import Whip6.Lib.History
import Whip6.Lib.Runs

/-!
# The timer multiplexer

Virtual timers on top of one timer and its clock, of which only `w` bits are seen.  Every start and
stop posts a task that looks at all timers, queues those that have expired, and sets the timer below
to the earliest of the others; another task fires what is queued.  Clients start and stop timers
from within the events of timers that fire; the task is therefore cut at these events, and goes on
in a step of its own.

The earliest time is searched below the largest number of `w` bits, so that a timer that is that far
away, and no other timer running, is not found, and nothing is set below.  As long as the task does
not run so, no timer is lost.
-/

namespace Whip6

open Lib

structure TimerMuxTimer (w : ℕ) where
  t0 : BitVec w
  dt : BitVec w
  lastTrigger : BitVec w
  running : Bool
  fireQueued : Bool

/-- Where the task that fires timers is. -/
inductive TimerMuxPhase
  | idle
  /-- A timer is firing; those from `num` on are looked at next. -/
  | firing (num : ℕ)
  deriving DecidableEq

structure TimerMux (w : ℕ) where
  timers : ℕ → TimerMuxTimer w
  updateFromTimerPosted : Bool
  fireTimersPosted : Bool
  phase : TimerMuxPhase
  /-- The time at which the timer below is due, if it is set. -/
  timerFrom : Option ℕ
  /-- The time that has passed. -/
  clock : ℕ

/-- What the clients do and see.  Times are those that have passed, with all their bits. -/
inductive TimerMuxAct (w : ℕ)
  | started (num t0 : ℕ) (dt : BitVec w)
  | stopped (num : ℕ)
  | fired (num time : ℕ) (lastTrigger : BitVec w)

inductive TimerMuxEvent (w : ℕ)
  | startWithTimeoutFromNow (num : ℕ) (dt : BitVec w)
  | startWithTimeoutFromLastTrigger (num : ℕ) (dt : BitVec w)
  | startWithTimeoutFromTime (num : ℕ) (t0 dt : BitVec w)
  | stop (num : ℕ)
  | updateFromTimer
  | fireTimers
  /-- The client whose timer fired returns. -/
  | told
  | timerFromFired
  /-- Time passes. -/
  | passed (time : ℕ)

namespace TimerMux

variable {w : ℕ} (numTimers : ℕ) (s : TimerMux w)

def setTimer (num : ℕ) (timer : TimerMuxTimer w) : TimerMux w :=
  { s with timers := Function.update s.timers num timer }

def getNow : BitVec w := BitVec.ofNat w s.clock

/-- The last time at which the clock showed `t0`. -/
def timeOf (t0 : BitVec w) : ℕ := s.clock - (s.getNow - t0).toNat

def startTimer (num : ℕ) (t0 dt : BitVec w) : TimerMux w × List (TimerMuxAct w) :=
  let timer := { s.timers num with t0 := t0, dt := dt, running := true, fireQueued := false }
  ({ s.setTimer num timer with updateFromTimerPosted := true }, [.started num (s.timeOf t0) dt])

def stop (num : ℕ) : TimerMux w × List (TimerMuxAct w) :=
  let timer := { s.timers num with running := false, fireQueued := false }
  ({ s.setTimer num timer with updateFromTimerPosted := true }, [.stopped num])

/-- One round of the loop over the timers, with the least remaining time so far and whether there is
one. -/
def updateTimer (now : BitVec w) (r : (ℕ → TimerMuxTimer w) × BitVec w × Bool) (num : ℕ) :
    (ℕ → TimerMuxTimer w) × BitVec w × Bool :=
  let timer := r.1 num
  if !timer.running then r
  else
    let elapsed := now - timer.t0
    let remaining := if timer.dt ≤ elapsed then 0 else timer.dt - elapsed
    let timers := if timer.dt ≤ elapsed then
        Function.update r.1 num { timer with fireQueued := true }
      else r.1
    if remaining < r.2.1 then (timers, remaining, true) else (timers, r.2)

def updateFromTimer : TimerMux w :=
  let now := s.getNow
  let r := (List.range numTimers).foldl (updateTimer now) (s.timers, BitVec.allOnes w, false)
  let s := { s with updateFromTimerPosted := false, timerFrom := none, timers := r.1 }
  if r.2.2 then
    if r.2.1 = 0 then { s with fireTimersPosted := true }
    else { s with timerFrom := some (s.clock + r.2.1.toNat) }
  else s

/-- The loop over the timers from `num` on, up to the next one that fires. -/
def fireFrom (num : ℕ) : TimerMux w × List (TimerMuxAct w) :=
  match (List.range' num (numTimers - num)).find? fun i => (s.timers i).fireQueued with
  | none => ({ s with phase := .idle, updateFromTimerPosted := true }, [])
  | some i =>
    let timer := s.timers i
    let timer := { timer with
      fireQueued := false
      running := false
      lastTrigger := timer.t0 + timer.dt }
    ({ s.setTimer i timer with phase := .firing (i + 1) },
      [.fired i s.clock timer.lastTrigger])

def step : TimerMuxEvent w → TimerMux w × List (TimerMuxAct w)
  | .startWithTimeoutFromNow num dt => s.startTimer num s.getNow dt
  | .startWithTimeoutFromLastTrigger num dt => s.startTimer num (s.timers num).lastTrigger dt
  | .startWithTimeoutFromTime num t0 dt => s.startTimer num t0 dt
  | .stop num => s.stop num
  | .updateFromTimer => (s.updateFromTimer numTimers, [])
  | .fireTimers => { s with fireTimersPosted := false }.fireFrom numTimers 0
  | .told =>
    match s.phase with
    | .idle => (s, [])
    | .firing num => s.fireFrom numTimers num
  | .timerFromFired => ({ s with timerFrom := none, fireTimersPosted := true }, [])
  | .passed time => ({ s with clock := s.clock + time }, [])

/-- No timer was started yet. -/
def initial (clock : ℕ) : TimerMux w where
  timers := fun _ => ⟨0, 0, 0, false, false⟩
  updateFromTimerPosted := false
  fireTimersPosted := false
  phase := .idle
  timerFrom := none
  clock := clock

/-! ## What clients see -/

def subject : TimerMuxAct w → ℕ
  | .started num _ _ => num
  | .stopped num => num
  | .fired num _ _ => num

def see (_ : Option (ℕ × BitVec w)) : TimerMuxAct w → Option (ℕ × BitVec w)
  | .started _ t0 dt => some (t0, dt)
  | .stopped _ => none
  | .fired _ _ _ => none

/-- The time at which a timer was started and its interval, if it runs. -/
def running (num : ℕ) (acts : List (TimerMuxAct w)) : Option (ℕ × BitVec w) :=
  viewOf subject see none num acts

/-- The tasks run when they are posted and the timer below fires when it is due.  Timers are started
from times that the clock has shown, and it does not go as far as round past one that runs. -/
def Allowed (s : TimerMux w) : TimerMuxEvent w → Prop
  | .startWithTimeoutFromNow num _ => num < numTimers
  | .startWithTimeoutFromLastTrigger num _ => num < numTimers
  | .startWithTimeoutFromTime num t0 _ => num < numTimers ∧ (s.getNow - t0).toNat ≤ s.clock
  | .stop num => num < numTimers
  | .updateFromTimer => s.phase = .idle ∧ s.updateFromTimerPosted
  | .fireTimers => s.phase = .idle ∧ s.fireTimersPosted
  | .told => s.phase ≠ .idle
  | .timerFromFired => ∃ time ∈ s.timerFrom, time ≤ s.clock
  | .passed time => ∀ num, (s.timers num).running →
      (s.getNow - (s.timers num).t0).toNat + time < 2 ^ w

/-- When the timers are looked at and some are running, one of them has less than the largest number
of `w` bits ahead. -/
def Spares (s : TimerMux w) : TimerMuxEvent w → Prop
  | .updateFromTimer => (∃ num < numTimers, (s.timers num).running) →
      ∃ num < numTimers, (s.timers num).running ∧
        ¬ ((s.timers num).dt = BitVec.allOnes w ∧ (s.timers num).t0 = s.getNow)
  | _ => True

/-- A timer fires only while it runs, not before its time, and with that as its last trigger. -/
def FiresDue (pre : List (TimerMuxAct w)) (act : TimerMuxAct w) : Prop :=
  ∀ num time lastTrigger, act = .fired num time lastTrigger →
    ∃ t0 dt, running num pre = some (t0, dt) ∧ t0 + dt.toNat ≤ time ∧
      lastTrigger = BitVec.ofNat w (t0 + dt.toNat)

/-- No task of the multiplexer is posted, or at work. -/
def Quiescent (s : TimerMux w) : Prop :=
  s.phase = .idle ∧ s.updateFromTimerPosted = false ∧ s.fireTimersPosted = false

/-- What the multiplexer promises. -/
structure Correct (s : TimerMux w) (acts : List (TimerMuxAct w)) : Prop where
  /-- The timers that run are those that were started and have neither fired nor been stopped. -/
  isRunning : ∀ num, (s.timers num).running ↔ (running num acts).isSome
  /-- A timer fires at most once for each start, not after a stop, and not before it is due. -/
  fires : Justified FiresDue acts
  /-- No timer is lost. -/
  armed : s.Quiescent → ∀ num t0 dt, running num acts = some (t0, dt) →
    ∃ time ∈ s.timerFrom, time ≤ t0 + dt.toNat

/-! ## The clock -/

section Clock

variable {t0 : BitVec w} {clock time : ℕ}

theorem toNat_ofNat_sub (hle : time ≤ clock) (hlt : clock < time + 2 ^ w) :
    (BitVec.ofNat w clock - BitVec.ofNat w time).toNat = clock - time := by
  have hsum : BitVec.ofNat w clock = BitVec.ofNat w (clock - time) + BitVec.ofNat w time := by
    rw [← BitVec.ofNat_add, Nat.sub_add_cancel hle]
  rw [hsum, add_sub_cancel_right, BitVec.toNat_ofNat, Nat.mod_eq_of_lt (by omega)]

/-- The last time at which the clock showed `t0` is less than one round of the clock ago. -/
theorem timeOf_spec {s : TimerMux w} (hle : (s.getNow - t0).toNat ≤ s.clock) :
    BitVec.ofNat w (s.timeOf t0) = t0 ∧ s.timeOf t0 ≤ s.clock ∧
      s.clock < s.timeOf t0 + 2 ^ w := by
  have hlt := (s.getNow - t0).isLt
  have hsum : s.getNow = BitVec.ofNat w (s.timeOf t0) + (s.getNow - t0) := by
    have hback : BitVec.ofNat w (s.getNow - t0).toNat = s.getNow - t0 := by
      rw [BitVec.ofNat_toNat, BitVec.setWidth_eq]
    rw [← hback, ← BitVec.ofNat_add, timeOf, Nat.sub_add_cancel hle]
    rfl
  refine ⟨?_, Nat.sub_le _ _, ?_⟩
  · have hdiff := eq_sub_of_add_eq hsum.symm
    rw [hdiff, sub_sub_cancel]
  · rw [timeOf]
    omega

end Clock

/-! ## The invariant -/

/-- A timer agrees with what its client knows of it. -/
structure Agrees (clock : ℕ) (timer : TimerMuxTimer w) (view : Option (ℕ × BitVec w)) : Prop where
  running : timer.running = view.isSome
  started : ∀ t0 dt, view = some (t0, dt) → timer.t0 = BitVec.ofNat w t0 ∧ timer.dt = dt ∧
    t0 ≤ clock ∧ clock < t0 + 2 ^ w
  queued : timer.fireQueued → ∃ t0 dt, view = some (t0, dt) ∧ t0 + dt.toNat ≤ clock
  lastTrigger : ∃ time ≤ clock, timer.lastTrigger = BitVec.ofNat w time

structure Inv (numTimers : ℕ) (s : TimerMux w) (acts : List (TimerMuxAct w)) : Prop where
  agrees : ∀ num, Agrees s.clock (s.timers num) (TimerMux.running num acts)
  outside : ∀ num, numTimers ≤ num → TimerMux.running num acts = none
  fires : Justified FiresDue acts
  armed : s.Quiescent → ∀ num t0 dt, TimerMux.running num acts = some (t0, dt) →
    ∃ time ∈ s.timerFrom, time ≤ t0 + dt.toNat

section Invariant

variable {numTimers : ℕ} {s : TimerMux w} {acts : List (TimerMuxAct w)} {num : ℕ}

theorem running_self {act : TimerMuxAct w} (hnum : subject act = num) :
    running num (acts ++ [act]) = see none act := by
  rw [running, viewOf_concat hnum]
  cases act <;> rfl

theorem running_other {act : TimerMuxAct w} (hnum : subject act ≠ num) :
    running num (acts ++ [act]) = running num acts := by
  rw [running, viewOf_append_other]
  · rfl
  · intro act' hact'
    rwa [List.mem_singleton.mp hact']

/-- A client starts or stops its timer. -/
theorem Inv.setTimer (h : Inv numTimers s acts) (hnum : num < numTimers)
    {timer : TimerMuxTimer w} {act : TimerMuxAct w} (hsubject : subject act = num)
    (hother : ∀ num time lastTrigger, act ≠ .fired num time lastTrigger)
    (hagrees : Agrees s.clock timer (see none act)) :
    Inv numTimers { s.setTimer num timer with updateFromTimerPosted := true } (acts ++ [act]) where
  agrees num' := by
    dsimp only [TimerMux.setTimer]
    by_cases heq : num' = num
    · rw [running_self (hsubject.trans heq.symm), heq, Function.update_self]
      exact hagrees
    · rw [running_other fun h => heq (h.symm.trans hsubject), Function.update_of_ne heq]
      exact h.agrees num'
  outside num' hnum' := by
    rw [running_other (by omega)]
    exact h.outside num' hnum'
  fires := h.fires.concat fun num time lastTrigger hact =>
    absurd hact (hother num time lastTrigger)
  armed hquiescent := absurd hquiescent.2.1 (by simp)

theorem Inv.startTimer {t0 : BitVec w} (h : Inv numTimers s acts) (hnum : num < numTimers)
    (hle : (s.getNow - t0).toNat ≤ s.clock) (dt : BitVec w) :
    Inv numTimers (s.startTimer num t0 dt).1 (acts ++ (s.startTimer num t0 dt).2) := by
  obtain ⟨ht0, hclock, hround⟩ := timeOf_spec hle
  refine h.setTimer hnum rfl (fun _ _ _ hact => by cases hact) ?_
  refine ⟨rfl, fun t0' dt' hview => ?_, fun hqueued => ?_, (h.agrees num).lastTrigger⟩
  · obtain ⟨rfl, rfl⟩ := Prod.mk.inj (Option.some.inj hview)
    exact ⟨ht0.symm, rfl, hclock, hround⟩
  · cases hqueued

theorem Inv.stop (h : Inv numTimers s acts) (hnum : num < numTimers) :
    Inv numTimers (s.stop num).1 (acts ++ (s.stop num).2) := by
  refine h.setTimer hnum rfl (fun _ _ _ hact => by cases hact) ?_
  refine ⟨rfl, fun t0' dt' hview => ?_, fun hqueued => ?_, (h.agrees num).lastTrigger⟩
  · cases hview
  · cases hqueued

theorem Agrees.view_of_running {clock : ℕ} {timer : TimerMuxTimer w}
    {view : Option (ℕ × BitVec w)} (h : Agrees clock timer view) (hrunning : timer.running = true) :
    ∃ t0 dt, view = some (t0, dt) := by
  obtain ⟨⟨t0, dt⟩, hview⟩ := Option.isSome_iff_exists.mp (h.running.symm.trans hrunning)
  exact ⟨t0, dt, hview⟩

/-- The clock is read back from the last trigger of a timer. -/
theorem Agrees.lastTrigger_le {timer : TimerMuxTimer w} {view : Option (ℕ × BitVec w)}
    (h : Agrees s.clock timer view) : (s.getNow - timer.lastTrigger).toNat ≤ s.clock := by
  obtain ⟨time, hle, heq⟩ := h.lastTrigger
  have hsum : s.getNow = BitVec.ofNat w (s.clock - time) + BitVec.ofNat w time := by
    rw [← BitVec.ofNat_add, Nat.sub_add_cancel hle]
    rfl
  rw [heq, hsum, add_sub_cancel_right, BitVec.toNat_ofNat]
  exact (Nat.mod_le _ _).trans (Nat.sub_le _ _)

theorem Inv.passed (h : Inv numTimers s acts) {time : ℕ}
    (hround : ∀ num, (s.timers num).running →
      (s.getNow - (s.timers num).t0).toNat + time < 2 ^ w) :
    Inv numTimers { s with clock := s.clock + time } acts where
  agrees num := by
    have hagrees := h.agrees num
    refine ⟨hagrees.running, fun t0 dt hview => ?_, fun hqueued => ?_, ?_⟩
    · obtain ⟨ht0, hdt, hle, hlt⟩ := hagrees.started t0 dt hview
      have hround' := hround num (by rw [hagrees.running, hview]; rfl)
      rw [ht0, getNow, toNat_ofNat_sub hle hlt] at hround'
      dsimp only
      exact ⟨ht0, hdt, by omega, by omega⟩
    · obtain ⟨t0, dt, hview, hle⟩ := hagrees.queued hqueued
      exact ⟨t0, dt, hview, hle.trans (Nat.le_add_right _ _)⟩
    · obtain ⟨last, hle, hlast⟩ := hagrees.lastTrigger
      exact ⟨last, hle.trans (Nat.le_add_right _ _), hlast⟩
  outside := h.outside
  fires := h.fires
  armed := h.armed

theorem Inv.timerFromFired (h : Inv numTimers s acts) :
    Inv numTimers { s with timerFrom := none, fireTimersPosted := true } acts where
  agrees := h.agrees
  outside := h.outside
  fires := h.fires
  armed hquiescent := absurd hquiescent.2.2 (by simp)

/-- The loop of the task that fires timers, up to the next one that fires. -/
theorem Inv.fireFrom (h : Inv numTimers s acts) (k : ℕ) (posted : Bool) :
    Inv numTimers ({ s with fireTimersPosted := posted }.fireFrom numTimers k).1
      (acts ++ ({ s with fireTimersPosted := posted }.fireFrom numTimers k).2) := by
  unfold TimerMux.fireFrom
  dsimp only
  split
  · rw [List.append_nil]
    exact ⟨h.agrees, h.outside, h.fires, fun hquiescent => absurd hquiescent.2.1 (by simp)⟩
  next i hfind =>
    have hagrees := h.agrees i
    have hqueued : (s.timers i).fireQueued = true := by simpa using List.find?_some hfind
    obtain ⟨t0, dt, hview, hdue⟩ := hagrees.queued hqueued
    obtain ⟨ht0, hdt, -, -⟩ := hagrees.started t0 dt hview
    have hlast : (s.timers i).t0 + (s.timers i).dt = BitVec.ofNat w (t0 + dt.toNat) := by
      rw [ht0, hdt, BitVec.ofNat_add, BitVec.ofNat_toNat, BitVec.setWidth_eq]
    refine ⟨fun num => ?_, fun num hnum => ?_, ?_, fun hquiescent => ?_⟩
    · dsimp only [TimerMux.setTimer]
      by_cases heq : num = i
      · rw [running_self (by exact heq.symm), heq, Function.update_self]
        exact ⟨rfl, (fun _ _ hnone => by cases hnone), (fun hqueued => by cases hqueued),
          ⟨t0 + dt.toNat, hdue, hlast⟩⟩
      · rw [running_other (by exact Ne.symm heq), Function.update_of_ne heq]
        exact h.agrees num
    · by_cases heq : num = i
      · exact running_self heq.symm
      · rw [running_other (by exact Ne.symm heq)]
        exact h.outside num hnum
    · refine h.fires.concat fun num time lastTrigger hact => ?_
      obtain ⟨rfl, rfl, rfl⟩ := TimerMuxAct.fired.inj hact
      exact ⟨t0, dt, hview, hdue, hlast⟩
    · cases hquiescent.1

end Invariant

/-! ## The search for the earliest timer -/

section Search

variable {now : BitVec w} {r : (ℕ → TimerMuxTimer w) × BitVec w × Bool}

/-- The time that a timer has left. -/
def remaining (now : BitVec w) (timer : TimerMuxTimer w) : BitVec w :=
  if timer.dt ≤ now - timer.t0 then 0 else timer.dt - (now - timer.t0)

/-- Only a timer that was just started with the largest number has the largest number left. -/
theorem remaining_eq_allOnes {timer : TimerMuxTimer w}
    (h : (BitVec.allOnes w).toNat ≤ (remaining now timer).toNat) :
    timer.dt = BitVec.allOnes w ∧ timer.t0 = now := by
  have hdt := timer.dt.isLt
  have helapsed := (now - timer.t0).isLt
  have hlargest : timer.dt.toNat = 2 ^ w - 1 ∧ (now - timer.t0).toNat = 0 := by
    rw [BitVec.toNat_allOnes, remaining] at h
    split at h
    · have hzero : BitVec.toNat (0 : BitVec w) = 0 := BitVec.toNat_zero
      omega
    next hnot =>
      have hpast : now - timer.t0 ≤ timer.dt := by
        rw [BitVec.le_def] at hnot ⊢
        omega
      rw [BitVec.toNat_sub_of_le hpast] at h
      omega
  refine ⟨BitVec.eq_of_toNat_eq (by rw [hlargest.1, BitVec.toNat_allOnes]), ?_⟩
  have hzero : now - timer.t0 = 0 := BitVec.eq_of_toNat_eq hlargest.2
  exact (sub_eq_zero.mp hzero).symm

/-- A timer is left as it is, or queued when it has expired. -/
structure Updated (now : BitVec w) (before after : TimerMuxTimer w) : Prop where
  same : after = { before with fireQueued := after.fireQueued }
  queued : after.fireQueued → before.fireQueued ∨ before.running ∧ before.dt ≤ now - before.t0

theorem Updated.refl (timer : TimerMuxTimer w) : Updated now timer timer := ⟨rfl, Or.inl⟩

theorem Updated.trans {a b c : TimerMuxTimer w} (hab : Updated now a b) (hbc : Updated now b c) :
    Updated now a c := by
  obtain ⟨hb, hqb⟩ := hab
  obtain ⟨hc, hqc⟩ := hbc
  refine ⟨?_, fun hqueued => ?_⟩
  · rw [hc, hb]
  · rcases hqc hqueued with hb' | ⟨hrunning, hdue⟩
    · exact hqb hb'
    · rw [hb] at hrunning hdue
      exact Or.inr ⟨hrunning, hdue⟩

theorem Updated.remaining_eq {a b : TimerMuxTimer w} (h : Updated now a b) :
    remaining now b = remaining now a := by
  rw [h.same]
  rfl

/-- One round of the loop. -/
theorem updateTimer_spec (now : BitVec w) (r : (ℕ → TimerMuxTimer w) × BitVec w × Bool) (num : ℕ) :
    (∀ i, Updated now (r.1 i) ((updateTimer now r num).1 i)) ∧
      (updateTimer now r num).2.1.toNat ≤ r.2.1.toNat ∧
      ((r.1 num).running →
        (updateTimer now r num).2.1.toNat ≤ (remaining now (r.1 num)).toNat) ∧
      ((updateTimer now r num).2.2 = false →
        r.2.2 = false ∧ (updateTimer now r num).2.1 = r.2.1) := by
  cases hrunning : (r.1 num).running with
  | false =>
    have hskip : updateTimer now r num = r := by
      rw [updateTimer, hrunning, Bool.not_false, if_pos rfl]
    rw [hskip]
    exact ⟨fun i => Updated.refl _, le_rfl, fun hrunning => (by cases hrunning),
      fun hunset => ⟨hunset, rfl⟩⟩
  | true =>
    obtain ⟨timers, hupdated, hround⟩ : ∃ timers : ℕ → TimerMuxTimer w,
        (∀ i, Updated now (r.1 i) (timers i)) ∧ updateTimer now r num =
          if remaining now (r.1 num) < r.2.1 then (timers, remaining now (r.1 num), true)
          else (timers, r.2) := by
      refine ⟨if (r.1 num).dt ≤ now - (r.1 num).t0 then
        Function.update r.1 num { r.1 num with fireQueued := true } else r.1, fun i => ?_, ?_⟩
      · split
        next hdue =>
          by_cases hi : i = num
          · subst hi
            rw [Function.update_self]
            exact ⟨rfl, fun _ => Or.inr ⟨hrunning, hdue⟩⟩
          · rw [Function.update_of_ne hi]
            exact Updated.refl _
        next => exact Updated.refl _
      · have hnot : ¬ (!(r.1 num).running) = true := by rw [hrunning]; decide
        exact if_neg hnot
    rw [hround]
    split
    next hlt =>
      exact ⟨hupdated, (BitVec.lt_def.mp hlt).le, fun _ => le_rfl, fun hunset => (by cases hunset)⟩
    next hge =>
      exact ⟨hupdated, le_rfl, fun _ => not_lt.mp hge, fun hunset => ⟨hunset, rfl⟩⟩

/-- The loop: what it finds is no later than any timer that runs. -/
theorem updateTimer_foldl (now : BitVec w) (nums : List ℕ)
    (r : (ℕ → TimerMuxTimer w) × BitVec w × Bool) :
    (∀ i, Updated now (r.1 i) ((nums.foldl (updateTimer now) r).1 i)) ∧
      (nums.foldl (updateTimer now) r).2.1.toNat ≤ r.2.1.toNat ∧
      (∀ num ∈ nums, (r.1 num).running →
        (nums.foldl (updateTimer now) r).2.1.toNat ≤ (remaining now (r.1 num)).toNat) ∧
      ((nums.foldl (updateTimer now) r).2.2 = false →
        r.2.2 = false ∧ (nums.foldl (updateTimer now) r).2.1 = r.2.1) := by
  induction nums generalizing r with
  | nil =>
    exact ⟨fun i => Updated.refl _, le_rfl, fun num hnum => absurd hnum List.not_mem_nil,
      fun hunset => ⟨hunset, rfl⟩⟩
  | cons num nums ih =>
    obtain ⟨hupdated, hle, hfirst, hunset⟩ := updateTimer_spec now r num
    obtain ⟨hupdated', hle', hrest, hunset'⟩ := ih (updateTimer now r num)
    rw [List.foldl_cons]
    refine ⟨fun i => (hupdated i).trans (hupdated' i), hle'.trans hle,
      fun num' hnum' hrunning => ?_, fun hnone => ?_⟩
    · rcases List.mem_cons.mp hnum' with rfl | hnum'
      · exact hle'.trans (hfirst hrunning)
      · rw [← (hupdated num').remaining_eq]
        refine hrest num' hnum' ?_
        rw [(hupdated num').same]
        exact hrunning
    · obtain ⟨hnone', heq'⟩ := hunset' hnone
      obtain ⟨hnone'', heq⟩ := hunset hnone'
      exact ⟨hnone'', heq'.trans heq⟩

end Search

/-- A timer is seen to have expired when its time has come. -/
theorem Agrees.due_iff {clock t0 : ℕ} {dt : BitVec w} {timer : TimerMuxTimer w}
    (h : Agrees clock timer (some (t0, dt))) :
    timer.dt ≤ BitVec.ofNat w clock - timer.t0 ↔ t0 + dt.toNat ≤ clock := by
  obtain ⟨ht0, hdt, hle, hlt⟩ := h.started t0 dt rfl
  rw [BitVec.le_def, ht0, hdt, toNat_ofNat_sub hle hlt]
  omega

/-- The time that a timer has left until it is due. -/
theorem Agrees.remaining {clock t0 : ℕ} {dt : BitVec w} {timer : TimerMuxTimer w}
    (h : Agrees clock timer (some (t0, dt))) (hdue : clock < t0 + dt.toNat) :
    clock + (TimerMux.remaining (BitVec.ofNat w clock) timer).toNat = t0 + dt.toNat := by
  obtain ⟨ht0, hdt, hle, hlt⟩ := h.started t0 dt rfl
  have hnot : ¬ timer.dt ≤ BitVec.ofNat w clock - timer.t0 := fun hge =>
    absurd (h.due_iff.mp hge) (not_le.mpr hdue)
  have hpast : BitVec.ofNat w clock - timer.t0 ≤ timer.dt := by
    rw [BitVec.le_def] at hnot ⊢
    omega
  rw [TimerMux.remaining, if_neg hnot, BitVec.toNat_sub_of_le hpast, ht0, hdt,
    toNat_ofNat_sub hle hlt]
  omega

/-- The task that looks at the timers. -/
theorem Inv.updateFromTimer {numTimers : ℕ} {s : TimerMux w} {acts : List (TimerMuxAct w)}
    (h : Inv numTimers s acts) (hspares : Spares numTimers s .updateFromTimer) :
    Inv numTimers (s.updateFromTimer numTimers) acts := by
  obtain ⟨hupdated, -, hbound, hunset⟩ := updateTimer_foldl s.getNow (List.range numTimers)
    (s.timers, BitVec.allOnes w, false)
  unfold TimerMux.updateFromTimer
  dsimp only
  generalize (List.range numTimers).foldl (updateTimer s.getNow)
    (s.timers, BitVec.allOnes w, false) = r at hupdated hbound hunset
  have hagrees : ∀ num, Agrees s.clock (r.1 num) (TimerMux.running num acts) := by
    intro num
    have hbefore := h.agrees num
    rw [(hupdated num).same]
    refine ⟨hbefore.running, hbefore.started, fun hqueued => ?_, hbefore.lastTrigger⟩
    rcases (hupdated num).queued hqueued with hqueued | ⟨hrunning, hdue⟩
    · exact hbefore.queued hqueued
    · obtain ⟨t0, dt, hview⟩ := hbefore.view_of_running hrunning
      rw [hview] at hbefore
      exact ⟨t0, dt, hview, hbefore.due_iff.mp hdue⟩
  split
  next hset =>
    split
    · exact ⟨hagrees, h.outside, h.fires, fun hquiescent => absurd hquiescent.2.2 (by simp)⟩
    next hpos =>
      refine ⟨hagrees, h.outside, h.fires, fun _ num t0 dt hview => ⟨_, rfl, ?_⟩⟩
      have hbefore := h.agrees num
      rw [hview] at hbefore
      have hnum : num < numTimers := by
        by_contra hnum
        exact absurd ((h.outside num (not_lt.mp hnum)).symm.trans hview) (by simp)
      have hle : r.2.1.toNat ≤ (remaining (BitVec.ofNat w s.clock) (s.timers num)).toNat :=
        hbound num (List.mem_range.mpr hnum) hbefore.running
      -- A timer that has expired would have brought the search down to zero.
      have hdue : s.clock < t0 + dt.toNat := by
        by_contra hdue
        rw [remaining, if_pos (hbefore.due_iff.mpr (not_lt.mp hdue))] at hle
        exact hpos (BitVec.eq_of_toNat_eq (Nat.le_zero.mp hle))
      have hleft := hbefore.remaining hdue
      omega
  next hset =>
    obtain ⟨-, hlargest⟩ := hunset (by simpa using hset)
    refine ⟨hagrees, h.outside, h.fires, fun _ num t0 dt hview => ?_⟩
    have hnum : num < numTimers := by
      by_contra hnum
      exact absurd ((h.outside num (not_lt.mp hnum)).symm.trans hview) (by simp)
    have hrunning : (s.timers num).running := by rw [(h.agrees num).running, hview]; rfl
    obtain ⟨i, hi, hirunning, hless⟩ := hspares ⟨num, hnum, hrunning⟩
    have hall := hbound i (List.mem_range.mpr hi) hirunning
    rw [hlargest] at hall
    exact absurd (remaining_eq_allOnes hall) hless

/-! ## Runs -/

section Results

variable {numTimers : ℕ} {s : TimerMux w} {acts : List (TimerMuxAct w)}

theorem inv_initial (numTimers clock : ℕ) : Inv numTimers (initial clock : TimerMux w) [] where
  agrees _ := ⟨rfl, (fun _ _ hview => by cases hview), (fun hqueued => by cases hqueued),
    ⟨0, Nat.zero_le _, rfl⟩⟩
  outside _ _ := rfl
  fires := justified_nil
  armed _ _ _ _ hview := by cases hview

theorem Inv.step (h : Inv numTimers s acts) {event : TimerMuxEvent w}
    (hallowed : Allowed numTimers s event) (hspares : Spares numTimers s event) :
    Inv numTimers (s.step numTimers event).1 (acts ++ (s.step numTimers event).2) := by
  cases event with
  | startWithTimeoutFromNow num dt =>
    have hle : (s.getNow - s.getNow).toNat ≤ s.clock := by
      rw [sub_self]
      exact (BitVec.toNat_zero).trans_le (Nat.zero_le _)
    exact h.startTimer hallowed hle dt
  | startWithTimeoutFromLastTrigger num dt =>
    exact h.startTimer hallowed (h.agrees num).lastTrigger_le dt
  | startWithTimeoutFromTime num t0 dt => exact h.startTimer hallowed.1 hallowed.2 dt
  | stop num => exact h.stop hallowed
  | updateFromTimer =>
    rw [TimerMux.step, List.append_nil]
    exact h.updateFromTimer hspares
  | fireTimers =>
    exact h.fireFrom 0 false
  | told =>
    rw [TimerMux.step]
    split
    next hidle => exact absurd hidle hallowed
    next num _ => exact h.fireFrom num s.fireTimersPosted
  | timerFromFired =>
    rw [TimerMux.step, List.append_nil]
    exact h.timerFromFired
  | passed time =>
    rw [TimerMux.step, List.append_nil]
    exact h.passed hallowed

theorem Inv.correct (h : Inv numTimers s acts) : s.Correct acts where
  isRunning num := by rw [(h.agrees num).running]
  fires := h.fires
  armed := h.armed

/-- **The timer multiplexer.**  Any number of timers, any width of the clock, and every order of
starts, stops, tasks and firings of the timer below, as long as the clock does not go round past a
timer that runs.  If the timers are never looked at while all that run are the largest number of `w`
bits away, then a timer fires at most once for each start, not after it was stopped, not before it
is due, and with the time at which it was due; and no timer is lost. -/
theorem timerMux_correct (numTimers clock : ℕ) (events : List (TimerMuxEvent w))
    (hmeets : RunMeets (step numTimers) (fun s event => Allowed numTimers s event ∧
      Spares numTimers s event) (initial clock) events) :
    (run (step numTimers) (initial clock) events).1.Correct
      (run (step numTimers) (initial clock) events).2 := by
  have hrun : Inv numTimers (run (step numTimers) (initial clock) events).1
      ([] ++ (run (step numTimers) (initial clock) events).2) :=
    run_invariant (fun s acts event hcond h => h.step hcond.1 hcond.2)
      (inv_initial numTimers clock) hmeets
  exact hrun.correct

/-- Two timers on a clock of eight bits, one of which starts again when it fires. -/
theorem timerMux_correct_two :
    let events : List (TimerMuxEvent 8) := [.startWithTimeoutFromNow 0 255,
      .startWithTimeoutFromNow 1 3, .updateFromTimer, .passed 4, .timerFromFired, .fireTimers,
      .updateFromTimer, .fireTimers, .startWithTimeoutFromLastTrigger 1 9, .told, .updateFromTimer]
    (run (step 2) (initial 250) events).1.timerFrom = some 262 ∧
      (run (step 2) (initial 250) events).1.Correct (run (step 2) (initial 250) events).2 := by
  intro events
  refine ⟨by decide +kernel, timerMux_correct 2 250 events
    ⟨⟨Nat.two_pos, trivial⟩, ⟨Nat.one_lt_two, trivial⟩, ⟨⟨rfl, rfl⟩, fun _ => ⟨1, ?_⟩⟩,
      ⟨?_, trivial⟩, ⟨⟨253, ?_, ?_⟩, trivial⟩, ⟨⟨rfl, rfl⟩, trivial⟩, ⟨⟨rfl, rfl⟩, fun _ => ⟨1, ?_⟩⟩,
      ⟨⟨rfl, ?_⟩, trivial⟩, ⟨Nat.one_lt_two, trivial⟩, ⟨?_, trivial⟩,
      ⟨⟨rfl, rfl⟩, fun _ => ⟨1, ?_⟩⟩, trivial⟩⟩
  · decide +kernel
  · intro num hrunning
    match num with
    | 0 => decide +kernel
    | 1 => decide +kernel
    | num + 2 => exact absurd hrunning Bool.false_ne_true
  · decide +kernel
  · decide +kernel
  · decide +kernel
  · decide +kernel
  · show (_ : TimerMuxPhase) ≠ .idle
    decide +kernel
  · decide +kernel

/-- One timer, started with the largest interval: no timer is set below, and it never fires. -/
theorem timerMux_incorrect :
    let events : List (TimerMuxEvent 32) :=
      [.startWithTimeoutFromNow 0 (BitVec.allOnes 32), .updateFromTimer]
    RunMeets (step 1) (Allowed 1) (initial 0) events ∧
      ¬ (run (step 1) (initial 0) events).1.Correct (run (step 1) (initial 0) events).2 := by
  intro events
  refine ⟨⟨Nat.one_pos, ⟨rfl, rfl⟩, trivial⟩, fun h => ?_⟩
  obtain ⟨time, hset, -⟩ := h.armed ⟨by decide +kernel, by decide +kernel, by decide +kernel⟩ 0 0
    (BitVec.allOnes 32) rfl
  have hunset : (run (step 1) (initial 0) events).1.timerFrom = none := by decide +kernel
  rw [hunset] at hset
  cases hset

end Results

end TimerMux

end Whip6
