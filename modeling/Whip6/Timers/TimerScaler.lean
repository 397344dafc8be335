import Whip6.Lib.History
import Whip6.Lib.Progress
import Whip6.Lib.WrappingClock

/-!
# The timer scaler

A timer over a clock of `wt` bits on top of a timer and a clock of `wf` bits, which is `2 ^ shift`
times as fast.  The scaler counts the rounds of the clock below and drops its low bits.  An interval
that the timer below cannot take at once is served in rounds: a start sets the timer below for at
most `MAX_DELAY`, and keeps in `t0` and `dt` what comes after it.

Times of the clocks have all their bits here; the clocks show what is left of them.  A command runs
within one tick of the clock below.
-/

namespace Whip6

open Lib

structure TimerScaler (wf wt : ℕ) where
  overflowOffset : BitVec wt
  t0 : BitVec wt
  dt : BitVec wt
  lastTrigger : BitVec wt
  /-- The time at which the timer below is due, if it is set. -/
  timerFrom : Option ℕ
  /-- The time of the clock below. -/
  clock : ℕ
  /-- The rounds of the clock below that the scaler has been told of. -/
  overflows : ℕ

/-- What the client does and sees.  A start tells the last time at which the scaled clock showed the
given one, and the present time. -/
inductive TimerScalerAct (wt : ℕ)
  | started (t0 : ℤ) (dt : BitVec wt) (now : ℕ)
  | stopped
  | fired (now : ℕ) (lastTrigger : BitVec wt)
  | overflow
  deriving DecidableEq

inductive TimerScalerEvent (wt : ℕ)
  | startWithTimeoutFromNow (dt : BitVec wt)
  | startWithTimeoutFromLastTrigger (dt : BitVec wt)
  | startWithTimeoutFromTime (t0 dt : BitVec wt)
  | stop
  | timerFromFired
  | timerOverflowFrom
  /-- Time passes. -/
  | passed (time : ℕ)

namespace TimerScaler

variable {wf wt : ℕ} (shift : ℕ) (s : TimerScaler wf wt)

def maxDelayLog2 (wf shift : ℕ) : ℕ := wf - 1 - shift

def maxDelay (wf wt shift : ℕ) : BitVec wt := BitVec.ofNat wt 1 <<< maxDelayLog2 wf shift

/-- `MAX_DELAY` is a number of `wf` bits before the scaling, and of `wt` bits after it. -/
structure Representable (wf wt shift : ℕ) : Prop where
  shift_lt : shift < wf
  log2_lt : maxDelayLog2 wf shift < wt

def scaleForward (t : BitVec wf) : BitVec wt := (t >>> shift).setWidth wt

def scaleBack (t : BitVec wt) : BitVec wf := t.setWidth wf <<< shift

/-- The time of the scaled clock. -/
def time : ℕ := s.clock / 2 ^ shift

/-! ## The timer below -/

def timerFromGetNow : BitVec wf := BitVec.ofNat wf s.clock

/-- `TimerFrom.startWithTimeoutFromTime`: the timer is due when the interval is over since its clock
showed `t0` last. -/
def timerFromStartWithTimeoutFromTime (t0 dt : BitVec wf) : TimerScaler wf wt :=
  { s with timerFrom := some (s.clock - (s.timerFromGetNow - t0).toNat + dt.toNat) }

/-! ## The scaler -/

def getNow : BitVec wt := scaleForward shift s.timerFromGetNow + s.overflowOffset

def scheduleTimer : TimerScaler wf wt :=
  let now := s.getNow shift
  let expires := s.t0 + s.dt
  let remaining := expires - now
  let remaining :=
    if s.t0 ≤ now then
      if s.t0 ≤ expires ∧ expires ≤ now then 0 else remaining
    else if s.t0 ≤ expires ∨ expires ≤ now then 0 else remaining
  if maxDelay wf wt shift < remaining then
    { s with
      t0 := now + maxDelay wf wt shift
      dt := remaining - maxDelay wf wt shift }.timerFromStartWithTimeoutFromTime
        (scaleBack shift now) (scaleBack shift (maxDelay wf wt shift))
  else
    { s with t0 := s.t0 + s.dt, dt := 0 }.timerFromStartWithTimeoutFromTime
      (scaleBack shift now) (scaleBack shift remaining)

def startTimer (t0 dt : BitVec wt) : TimerScaler wf wt × List (TimerScalerAct wt) :=
  ({ s with t0 := t0, dt := dt }.scheduleTimer shift,
    [.started (lastShown (s.time shift) t0) dt (s.time shift)])

/-- `TimerFrom.fired` -/
def timerFromFired : TimerScaler wf wt × List (TimerScalerAct wt) :=
  if s.dt = 0 then ({ s with lastTrigger := s.t0 }, [.fired (s.time shift) s.t0])
  else (s.scheduleTimer shift, [])

/-- `TimerOverflowFrom.overflow` -/
def timerOverflowFrom : TimerScaler wf wt × List (TimerScalerAct wt) :=
  let overflowOffset := s.overflowOffset + BitVec.ofNat wt 1 <<< (wf - shift)
  ({ s with overflowOffset := overflowOffset, overflows := s.overflows + 1 },
    if overflowOffset = 0 then [.overflow] else [])

def step : TimerScalerEvent wt → TimerScaler wf wt × List (TimerScalerAct wt)
  | .startWithTimeoutFromNow dt => s.startTimer shift (s.getNow shift) dt
  | .startWithTimeoutFromLastTrigger dt => s.startTimer shift s.lastTrigger dt
  | .startWithTimeoutFromTime t0 dt => s.startTimer shift t0 dt
  | .stop => ({ s with timerFrom := none }, [.stopped])
  | .timerFromFired =>
    match s.timerFrom with
    | none => (s, [])
    | some _ => { s with timerFrom := none }.timerFromFired shift
  | .timerOverflowFrom => s.timerOverflowFrom shift
  | .passed time => ({ s with clock := s.clock + time }, [])

/-- No timer was started yet. -/
def initial : TimerScaler wf wt where
  overflowOffset := 0
  t0 := 0
  dt := 0
  lastTrigger := 0
  timerFrom := none
  clock := 0
  overflows := 0

/-- The scaler has been told of all rounds of the clock below. -/
def Told : Prop := s.overflows = s.clock / 2 ^ wf

/-- The timer below fires when it is due, however late, and a clock that has wrapped is not read
before the scaler has been told. -/
def Allowed (s : TimerScaler wf wt) : TimerScalerEvent wt → Prop
  | .startWithTimeoutFromNow _ => s.Told
  | .startWithTimeoutFromLastTrigger _ => s.Told
  | .startWithTimeoutFromTime _ _ => s.Told
  | .stop => True
  | .timerFromFired => s.Told ∧ ∃ due ∈ s.timerFrom, due ≤ s.clock
  | .timerOverflowFrom => s.overflows < s.clock / 2 ^ wf
  | .passed _ => True

/-! ## What the client sees -/

/-- A start that is neither over nor stopped: its time, its interval and when it was made. -/
abbrev Start (wt : ℕ) := ℤ × BitVec wt × ℕ

def see (view : Option (Start wt)) : TimerScalerAct wt → Option (Start wt)
  | .started t0 dt now => some (t0, dt, now)
  | .stopped => none
  | .fired _ _ => none
  | .overflow => view

def running (acts : List (TimerScalerAct wt)) : Option (Start wt) := acts.foldl see none

/-- The timer fires only for a start that is waiting, not before its moment, and reports this
moment. -/
def FiresDue (pre : List (TimerScalerAct wt)) (act : TimerScalerAct wt) : Prop :=
  ∀ now lastTrigger, act = .fired now lastTrigger →
    ∃ t0 dt started, running pre = some (t0, dt, started) ∧ t0 + dt.toNat ≤ now ∧
      lastTrigger = shown wt (t0 + dt.toNat)

/-- What the scaler promises. -/
structure Correct (s : TimerScaler wf wt) (acts : List (TimerScalerAct wt)) : Prop where
  /-- The timer below is set as long as a start is waiting. -/
  isRunning : s.timerFrom.isSome ↔ (running acts).isSome
  /-- A start fires at most once, not before its moment, and reports this moment. -/
  fires : Justified FiresDue acts
  /-- A start whose moment was already past waits for the timer below only to fire at once. -/
  immediate : ∀ t0 dt now, running acts = some (t0, dt, now) → t0 + dt.toNat ≤ now →
    (∃ due ∈ s.timerFrom, due ≤ s.clock) ∧
      (s.step shift .timerFromFired).2 = [.fired (s.time shift) (shown wt (t0 + dt.toNat))]

/-! ## The two clocks -/

section Clocks

variable {shift} {s}

theorem Representable.width_le (h : Representable wf wt shift) : wf - shift ≤ wt := by
  have hshift := h.shift_lt
  have hlog2 := h.log2_lt
  unfold maxDelayLog2 at hlog2
  omega

theorem toNat_one (h : Representable wf wt shift) : (BitVec.ofNat wt 1).toNat = 1 := by
  have hpos : wt ≠ 0 := Nat.ne_of_gt (Nat.zero_lt_of_lt h.log2_lt)
  rw [BitVec.toNat_ofNat]
  exact Nat.mod_eq_of_lt (Nat.one_lt_two_pow hpos)

theorem toNat_maxDelay (h : Representable wf wt shift) :
    (maxDelay wf wt shift).toNat = 2 ^ maxDelayLog2 wf shift := by
  rw [maxDelay, BitVec.toNat_shiftLeft, toNat_one h, Nat.shiftLeft_eq, Nat.one_mul]
  exact Nat.mod_eq_of_lt (Nat.pow_lt_pow_right (by decide) h.log2_lt)

/-- The scaler counts the rounds of the clock below. -/
def CountsRounds (shift : ℕ) (s : TimerScaler wf wt) : Prop :=
  s.overflowOffset = shown wt (s.overflows * 2 ^ (wf - shift) : ℕ)

/-- When the scaler has been told, it shows the time of the scaled clock. -/
theorem getNow_eq (h : Representable wf wt shift) (hcounts : CountsRounds shift s)
    (htold : s.Told) : s.getNow shift = shown wt (s.time shift) := by
  have hforward : scaleForward shift s.timerFromGetNow =
      (BitVec.ofNat wt (s.clock % 2 ^ wf / 2 ^ shift)) := by
    apply BitVec.eq_of_toNat_eq
    rw [scaleForward, timerFromGetNow, BitVec.toNat_setWidth, BitVec.toNat_ushiftRight,
      BitVec.toNat_ofNat, BitVec.toNat_ofNat, Nat.shiftRight_eq_div_pow]
  rw [getNow, hforward, hcounts, htold, shown_natCast, ← BitVec.ofNat_add,
    div_add_rounds s.clock h.shift_lt.le, shown_natCast]
  rfl

/-- The scaled clock, back at the width of the clock below. -/
theorem scaleBack_now (h : Representable wf wt shift) :
    (scaleBack shift (shown wt (s.time shift)) : BitVec wf) =
      shown wf (s.time shift * 2 ^ shift : ℕ) := by
  have hpow : 2 ^ wf = 2 ^ (wf - shift) * 2 ^ shift := by
    rw [← pow_add, Nat.sub_add_cancel h.shift_lt.le]
  have hdvd : 2 ^ (wf - shift) ∣ 2 ^ wf := pow_dvd_pow 2 (Nat.sub_le wf shift)
  have hdvd' : 2 ^ (wf - shift) ∣ 2 ^ wt := pow_dvd_pow 2 h.width_le
  apply BitVec.eq_of_toNat_eq
  rw [scaleBack, shown_natCast, shown_natCast, BitVec.toNat_shiftLeft, BitVec.toNat_setWidth,
    BitVec.toNat_ofNat, BitVec.toNat_ofNat, Nat.shiftLeft_eq]
  conv_lhs => rw [hpow, Nat.mul_mod_mul_right, ← hpow, Nat.mod_mod_of_dvd _ hdvd,
    Nat.mod_mod_of_dvd _ hdvd']
  conv_rhs => rw [hpow, Nat.mul_mod_mul_right]

/-- An interval that the timer below can take. -/
theorem toNat_scaleBack (h : Representable wf wt shift) {dt : BitVec wt}
    (hdt : dt.toNat ≤ 2 ^ maxDelayLog2 wf shift) :
    (scaleBack shift dt : BitVec wf).toNat = dt.toNat * 2 ^ shift := by
  have hshift := h.shift_lt
  have hpow : 2 ^ maxDelayLog2 wf shift * 2 ^ shift = 2 ^ (wf - 1) := by
    rw [← pow_add, maxDelayLog2, Nat.sub_add_cancel (by omega)]
  have hlt : 2 ^ (wf - 1) < 2 ^ wf := Nat.pow_lt_pow_right (by decide) (by omega)
  have hmul := Nat.mul_le_mul_right (2 ^ shift) hdt
  have hself : dt.toNat ≤ dt.toNat * 2 ^ shift := Nat.le_mul_of_pos_right _ (by positivity)
  rw [scaleBack, BitVec.toNat_shiftLeft, BitVec.toNat_setWidth, Nat.shiftLeft_eq,
    Nat.mod_eq_of_lt (show dt.toNat < 2 ^ wf by omega), Nat.mod_eq_of_lt (by omega)]

/-- The timer below is due when the interval is over since the present tick of the scaled clock. -/
theorem timerFrom_eq (h : Representable wf wt shift) (dt : BitVec wf) :
    (s.timerFromStartWithTimeoutFromTime
      (scaleBack shift (shown wt (s.time shift))) dt).timerFrom =
        some (s.time shift * 2 ^ shift + dt.toNat) := by
  have hle : s.time shift * 2 ^ shift ≤ s.clock := Nat.div_mul_le_self _ _
  have hrest : s.clock < s.time shift * 2 ^ shift + 2 ^ shift := by
    have hmod := Nat.mod_lt s.clock (Nat.two_pow_pos shift)
    have hdiv := Nat.div_add_mod' s.clock (2 ^ shift)
    unfold time
    omega
  have hpow : 2 ^ shift ≤ 2 ^ wf := Nat.pow_le_pow_right (by decide) h.shift_lt.le
  have helapsed : ((shown wf s.clock - shown wf (s.time shift * 2 ^ shift : ℕ)).toNat : ℤ) =
      (s.clock : ℤ) - (s.time shift * 2 ^ shift : ℕ) := by
    refine elapsed_eq (by exact_mod_cast hle) ?_
    exact_mod_cast hrest.trans_le (Nat.add_le_add_left hpow _)
  rw [timerFromStartWithTimeoutFromTime, scaleBack_now h, timerFromGetNow, ← shown_natCast]
  generalize s.time shift * 2 ^ shift = base at *
  dsimp only
  rw [Option.some_inj]
  omega

end Clocks

/-! ## Rounds -/

section Rounds

variable {shift} {s}

/-- The time that an interval has left. -/
def remaining (t0 dt now : BitVec wt) : BitVec wt := if dt ≤ now - t0 then 0 else dt - (now - t0)

theorem remaining_le (t0 dt now : BitVec wt) : (remaining t0 dt now).toNat ≤ dt.toNat := by
  unfold remaining
  split_ifs with h
  · exact Nat.zero_le _
  · rw [BitVec.toNat_sub_of_le (BitVec.le_of_lt (BitVec.not_le.mp h))]
    exact Nat.sub_le _ _

/-- What has passed of an interval and what it has left make up the interval, at least. -/
theorem le_elapsed_add_remaining (t0 dt now : BitVec wt) :
    dt.toNat ≤ (now - t0).toNat + (remaining t0 dt now).toNat := by
  unfold remaining
  split_ifs with h
  · exact (BitVec.le_def.mp h).trans (Nat.le_add_right _ _)
  · rw [BitVec.toNat_sub_of_le (BitVec.le_of_lt (BitVec.not_le.mp h))]
    omega

/-- What a timer is scheduled for. -/
theorem scheduleTimer_eq (s : TimerScaler wf wt) :
    s.scheduleTimer shift =
      let now := s.getNow shift
      let left := remaining s.t0 s.dt now
      if maxDelay wf wt shift < left then
        { s with
          t0 := now + maxDelay wf wt shift
          dt := left - maxDelay wf wt shift }.timerFromStartWithTimeoutFromTime
            (scaleBack shift now) (scaleBack shift (maxDelay wf wt shift))
      else
        { s with t0 := s.t0 + s.dt, dt := 0 }.timerFromStartWithTimeoutFromTime
          (scaleBack shift now) (scaleBack shift left) := by
  have hleft : (if s.t0 ≤ s.getNow shift then
        if s.t0 ≤ s.t0 + s.dt ∧ s.t0 + s.dt ≤ s.getNow shift then 0
          else s.t0 + s.dt - s.getNow shift
      else if s.t0 ≤ s.t0 + s.dt ∨ s.t0 + s.dt ≤ s.getNow shift then 0
        else s.t0 + s.dt - s.getNow shift) = remaining s.t0 s.dt (s.getNow shift) := by
    have hexpired := expired_iff s.t0 s.dt (s.getNow shift)
    have hdiff : s.t0 + s.dt - s.getNow shift = s.dt - (s.getNow shift - s.t0) := by abel
    unfold remaining
    rw [hdiff]
    split_ifs at hexpired ⊢ <;> first | rfl | exact absurd ‹_› (by tauto)
  unfold scheduleTimer
  dsimp only
  rw [hleft]

/-- Each round of a long interval takes `MAX_DELAY` off it. -/
theorem dt_scheduleTimer (h : Representable wf wt shift) (s : TimerScaler wf wt) :
    (s.scheduleTimer shift).dt = 0 ∨
      (s.scheduleTimer shift).dt.toNat + 2 ^ maxDelayLog2 wf shift ≤ s.dt.toNat := by
  have hle := remaining_le s.t0 s.dt (s.getNow shift)
  rw [scheduleTimer_eq]
  dsimp only
  split_ifs with hlong
  · right
    have hlong' := BitVec.lt_def.mp hlong
    change (remaining s.t0 s.dt (s.getNow shift) - maxDelay wf wt shift).toNat + _ ≤ _
    rw [BitVec.toNat_sub_of_le (BitVec.le_of_lt hlong), ← @toNat_maxDelay wf wt shift h]
    omega
  · exact Or.inl rfl

/-- A timer that is set for what begins at `base` and ends after `dt`: at last it is due when this
is over, and before that when a round is over behind which no less is left. -/
structure Waits (shift : ℕ) (s : TimerScaler wf wt) (base : ℤ) (dt due : ℕ) : Prop where
  timerFrom : s.timerFrom = some due
  last : s.dt = 0 → (base + dt) * 2 ^ shift ≤ due
  round : s.dt ≠ 0 → ∃ round : ℤ, shown wt round = s.t0 ∧ round * 2 ^ shift ≤ due ∧
    base + dt ≤ round + s.dt.toNat

/-- Scheduling at a time at which the interval has begun. -/
theorem scheduleTimer_waits (h : Representable wf wt shift) (hcounts : CountsRounds shift s)
    (htold : s.Told) {base : ℤ} (hbase : shown wt base = s.t0) (hle : base ≤ s.time shift) :
    ∃ due, Waits shift (s.scheduleTimer shift) base s.dt.toNat due ∧
      (s.scheduleTimer shift).t0 + (s.scheduleTimer shift).dt = s.t0 + s.dt ∧
      (s.dt ≤ s.getNow shift - s.t0 → (s.scheduleTimer shift).dt = 0 ∧ due ≤ s.clock) := by
  have hnow := getNow_eq h hcounts htold
  have helapsed : ((s.getNow shift - s.t0).toNat : ℤ) ≤ s.time shift - base := by
    rw [hnow, ← hbase]
    exact elapsed_le hle
  have hover := le_elapsed_add_remaining s.t0 s.dt (s.getNow shift)
  have hpos : (0 : ℤ) ≤ 2 ^ shift := by positivity
  rw [scheduleTimer_eq]
  dsimp only
  split_ifs with hlong
  · -- a round, and what is left after it
    have hmax := @toNat_maxDelay wf wt shift h
    have hlong' := BitVec.lt_def.mp hlong
    have hrest := BitVec.toNat_sub_of_le (BitVec.le_of_lt hlong)
    have hnot : ¬ s.dt ≤ s.getNow shift - s.t0 := by
      intro hpast
      rw [remaining, if_pos hpast] at hlong'
      exact absurd hlong' (Nat.not_lt_zero _)
    refine ⟨s.time shift * 2 ^ shift + (maxDelay wf wt shift).toNat * 2 ^ shift,
      ⟨?_, fun hzero => ?_, fun _ => ⟨s.time shift + (maxDelay wf wt shift).toNat, ?_, ?_, ?_⟩⟩, ?_,
      fun hpast => absurd hpast hnot⟩
    · rw [hnow, ← toNat_scaleBack h hmax.le]
      exact timerFrom_eq h _
    · have hzero' : (remaining s.t0 s.dt (s.getNow shift) - maxDelay wf wt shift).toNat = 0 :=
        congrArg BitVec.toNat hzero
      omega
    · rw [shown_add, shown_toNat, ← hnow]
      rfl
    · push_cast
      rw [add_mul]
    · change base + s.dt.toNat ≤ s.time shift + (maxDelay wf wt shift).toNat +
        (remaining s.t0 s.dt (s.getNow shift) - maxDelay wf wt shift).toNat
      omega
    · change s.getNow shift + maxDelay wf wt shift +
        (remaining s.t0 s.dt (s.getNow shift) - maxDelay wf wt shift) = _
      rw [remaining, if_neg hnot]
      abel
  · -- the last round
    have hshort : (remaining s.t0 s.dt (s.getNow shift)).toNat ≤ 2 ^ maxDelayLog2 wf shift := by
      rw [← @toNat_maxDelay wf wt shift h]
      exact not_lt.mp hlong
    refine ⟨s.time shift * 2 ^ shift + (remaining s.t0 s.dt (s.getNow shift)).toNat * 2 ^ shift,
      ⟨?_, fun _ => ?_, fun hne => absurd rfl hne⟩, add_zero _, fun hpast => ⟨rfl, ?_⟩⟩
    · rw [← toNat_scaleBack h hshort]
      generalize remaining s.t0 s.dt (s.getNow shift) = left
      rw [hnow]
      exact timerFrom_eq h _
    · push_cast
      rw [← add_mul]
      exact mul_le_mul_of_nonneg_right (by omega) hpos
    · rw [remaining, if_pos hpast]
      change s.clock / 2 ^ shift * 2 ^ shift + 0 * 2 ^ shift ≤ s.clock
      rw [Nat.zero_mul, Nat.add_zero]
      exact Nat.div_mul_le_self _ _

/-- A timer that is set for what ends later is set for what ends before. -/
theorem Waits.of_le {base base' : ℤ} {dt dt' due : ℕ} (h : Waits shift s base dt due)
    (hle : base' + dt' ≤ base + dt) : Waits shift s base' dt' due where
  timerFrom := h.timerFrom
  last hzero := (mul_le_mul_of_nonneg_right hle (by positivity)).trans (h.last hzero)
  round hne := by
    obtain ⟨round, hshown, hdue, hrest⟩ := h.round hne
    exact ⟨round, hshown, hdue, hle.trans hrest⟩

/-- What was due below is past on the scaled clock. -/
theorem le_time {moment : ℤ} {due : ℕ} (hmoment : moment * 2 ^ shift ≤ due) (hdue : due ≤ s.clock) :
    moment ≤ s.time shift := by
  unfold time
  rw [Int.natCast_ediv]
  apply (Int.le_ediv_iff_mul_le (by positivity)).mpr
  push_cast
  exact hmoment.trans (by exact_mod_cast hdue)

theorem scheduleTimer_frame (s : TimerScaler wf wt) :
    (s.scheduleTimer shift).overflowOffset = s.overflowOffset ∧
      (s.scheduleTimer shift).overflows = s.overflows ∧
      (s.scheduleTimer shift).clock = s.clock := by
  rw [scheduleTimer_eq]
  dsimp only
  split_ifs <;> exact ⟨rfl, rfl, rfl⟩

end Rounds

/-! ## The invariant -/

structure Inv (shift : ℕ) (s : TimerScaler wf wt) (acts : List (TimerScalerAct wt)) : Prop where
  counts : CountsRounds shift s
  fires : Justified FiresDue acts
  idle : running acts = none → s.timerFrom = none
  waits : ∀ t0 dt now, running acts = some (t0, dt, now) →
    ∃ due, Waits shift s t0 dt.toNat due ∧
      (t0 + dt.toNat ≤ now → s.dt = 0 ∧ due ≤ s.clock)
  moment : ∀ t0 dt now, running acts = some (t0, dt, now) →
    s.t0 + s.dt = shown wt (t0 + dt.toNat)
  dt_le : ∀ t0 dt now, running acts = some (t0, dt, now) → s.dt.toNat ≤ dt.toNat

section Invariant

variable {shift} {s} {acts : List (TimerScalerAct wt)}

theorem running_concat (act : TimerScalerAct wt) :
    running (acts ++ [act]) = see (running acts) act := by
  rw [running, List.foldl_append]
  rfl

/-- Scheduling for the start that is waiting. -/
theorem inv_scheduleTimer (hrep : Representable wf wt shift) (hcounts : CountsRounds shift s)
    (htold : s.Told) (hfires : Justified FiresDue acts) {t0 base : ℤ} {dt : BitVec wt} {now : ℕ}
    (hrunning : running acts = some (t0, dt, now)) (hbase : shown wt base = s.t0)
    (hle : base ≤ s.time shift) (hend : t0 + dt.toNat ≤ base + s.dt.toNat)
    (hmoment : s.t0 + s.dt = shown wt (t0 + dt.toNat)) (hdt : s.dt.toNat ≤ dt.toNat)
    (hpast : t0 + dt.toNat ≤ now → s.dt ≤ s.getNow shift - s.t0) :
    Inv shift (s.scheduleTimer shift) acts := by
  obtain ⟨hoffset, hoverflows, hclock⟩ := @scheduleTimer_frame wf wt shift s
  obtain ⟨due, hwaits, hsum, hnow⟩ := scheduleTimer_waits hrep hcounts htold hbase hle
  have hview : ∀ t0' dt' now', running acts = some (t0', dt', now') →
      t0' = t0 ∧ dt' = dt ∧ now' = now := by
    intro t0' dt' now' hrunning'
    rw [hrunning] at hrunning'
    obtain ⟨rfl, rfl, rfl⟩ := Option.some.inj hrunning'
    exact ⟨rfl, rfl, rfl⟩
  constructor
  · rw [CountsRounds, hoffset, hoverflows]
    exact hcounts
  · exact hfires
  · intro hnone
    rw [hrunning] at hnone
    exact absurd hnone (Option.some_ne_none _)
  · intro t0' dt' now' hrunning'
    obtain ⟨rfl, rfl, rfl⟩ := hview t0' dt' now' hrunning'
    rw [hclock]
    exact ⟨due, hwaits.of_le hend, fun h => hnow (hpast h)⟩
  · intro t0' dt' now' hrunning'
    obtain ⟨rfl, rfl, rfl⟩ := hview t0' dt' now' hrunning'
    exact hsum.trans hmoment
  · intro t0' dt' now' hrunning'
    obtain ⟨rfl, rfl, rfl⟩ := hview t0' dt' now' hrunning'
    rcases dt_scheduleTimer hrep s with hzero | hless
    · rw [hzero]
      exact Nat.zero_le _
    · exact (le_of_add_le_left hless).trans hdt

theorem Inv.startTimer (h : Inv shift s acts) (hrep : Representable wf wt shift) (htold : s.Told)
    (t0 dt : BitVec wt) :
    Inv shift (s.startTimer shift t0 dt).1 (acts ++ (s.startTimer shift t0 dt).2) := by
  have hnow := getNow_eq hrep h.counts htold
  have hfires : Justified FiresDue
      (acts ++ [.started (lastShown (s.time shift) t0) dt (s.time shift)]) :=
    h.fires.concat fun _ _ hact => by cases hact
  refine inv_scheduleTimer hrep h.counts htold hfires (running_concat _)
    (shown_lastShown (s.time shift) t0) (lastShown_le (s.time shift) t0) le_rfl ?_ le_rfl ?_
  · rw [shown_add, shown_lastShown, shown_toNat]
  · intro hpast
    change dt ≤ s.getNow shift - t0
    rw [hnow, BitVec.le_def]
    unfold lastShown at hpast
    omega

/-- Nothing is waiting. -/
theorem Inv.of_idle (hcounts : CountsRounds shift s) (hfires : Justified FiresDue acts)
    (hnone : running acts = none) (hunset : s.timerFrom = none) : Inv shift s acts where
  counts := hcounts
  fires := hfires
  idle _ := hunset
  waits _ _ _ hrunning := absurd (hnone.symm.trans hrunning) (Option.some_ne_none _).symm
  moment _ _ _ hrunning := absurd (hnone.symm.trans hrunning) (Option.some_ne_none _).symm
  dt_le _ _ _ hrunning := absurd (hnone.symm.trans hrunning) (Option.some_ne_none _).symm

theorem Inv.stop (h : Inv shift s acts) :
    Inv shift ({ s with timerFrom := none } : TimerScaler wf wt) (acts ++ [.stopped]) :=
  .of_idle h.counts (h.fires.concat fun _ _ hact => by cases hact) (running_concat _) rfl

theorem Inv.timerFromFired (h : Inv shift s acts) (hrep : Representable wf wt shift)
    (htold : s.Told) {due : ℕ} (hset : s.timerFrom = some due) (hdue : due ≤ s.clock) :
    Inv shift (({ s with timerFrom := none } : TimerScaler wf wt).timerFromFired shift).1
      (acts ++ (({ s with timerFrom := none } : TimerScaler wf wt).timerFromFired shift).2) := by
  obtain ⟨⟨t0, dt, now⟩, hrunning⟩ : ∃ start, running acts = some start := by
    apply Option.ne_none_iff_exists'.mp
    intro hnone
    rw [h.idle hnone] at hset
    cases hset
  obtain ⟨due', hwaits, hprompt⟩ := h.waits t0 dt now hrunning
  obtain rfl : due' = due := Option.some.inj (hwaits.timerFrom.symm.trans hset)
  have hmoment := h.moment t0 dt now hrunning
  unfold TimerScaler.timerFromFired
  split_ifs with hzero
  · -- the start is over
    refine .of_idle h.counts (h.fires.concat fun now' lastTrigger hact => ?_) (running_concat _) rfl
    have hlast : s.t0 = shown wt (t0 + dt.toNat) := by
      rw [← hmoment, show s.dt = 0 from hzero, add_zero]
    obtain ⟨rfl, rfl⟩ := TimerScalerAct.fired.inj hact
    exact ⟨t0, dt, now, hrunning, le_time (hwaits.last hzero) hdue, hlast⟩
  · -- a round is over
    obtain ⟨round, hshown, hround, hrest⟩ := hwaits.round hzero
    rw [List.append_nil]
    exact inv_scheduleTimer hrep h.counts htold h.fires hrunning hshown (le_time hround hdue) hrest
      hmoment (h.dt_le t0 dt now hrunning) fun hpast => absurd (hprompt hpast).1 hzero

theorem one_shiftLeft (h : Representable wf wt shift) :
    BitVec.ofNat wt 1 <<< (wf - shift) = shown wt (2 ^ (wf - shift) : ℕ) := by
  apply BitVec.eq_of_toNat_eq
  rw [shown_natCast, BitVec.toNat_ofNat, BitVec.toNat_shiftLeft, toNat_one h, Nat.shiftLeft_eq,
    Nat.one_mul]

theorem Inv.timerOverflowFrom (h : Inv shift s acts) (hrep : Representable wf wt shift) :
    Inv shift (s.timerOverflowFrom shift).1 (acts ++ (s.timerOverflowFrom shift).2) := by
  have hcounts : CountsRounds shift (s.timerOverflowFrom shift).1 := by
    change s.overflowOffset + BitVec.ofNat wt 1 <<< (wf - shift) =
      shown wt ((s.overflows + 1) * _ : ℕ)
    rw [h.counts, one_shiftLeft hrep, ← shown_add, Nat.add_mul, Nat.one_mul]
    push_cast
    rfl
  have hview : running (acts ++ (s.timerOverflowFrom shift).2) = running acts := by
    unfold TimerScaler.timerOverflowFrom
    dsimp only
    split_ifs
    · exact running_concat _
    · rw [List.append_nil]
  have hfires : Justified FiresDue (acts ++ (s.timerOverflowFrom shift).2) := by
    unfold TimerScaler.timerOverflowFrom
    dsimp only
    split_ifs
    · exact h.fires.concat fun _ _ hact => by cases hact
    · rw [List.append_nil]
      exact h.fires
  refine ⟨hcounts, hfires, ?_, ?_, ?_, ?_⟩ <;> rw [hview]
  · exact h.idle
  · intro t0 dt now hrunning
    obtain ⟨due, hwaits, hprompt⟩ := h.waits t0 dt now hrunning
    exact ⟨due, ⟨hwaits.timerFrom, hwaits.last, hwaits.round⟩, hprompt⟩
  · exact h.moment
  · exact h.dt_le

theorem Inv.passed (h : Inv shift s acts) (time : ℕ) :
    Inv shift ({ s with clock := s.clock + time } : TimerScaler wf wt) acts where
  counts := h.counts
  fires := h.fires
  idle := h.idle
  waits t0 dt now hrunning := by
    obtain ⟨due, hwaits, hprompt⟩ := h.waits t0 dt now hrunning
    refine ⟨due, ⟨hwaits.timerFrom, hwaits.last, hwaits.round⟩, fun hpast => ?_⟩
    exact ⟨(hprompt hpast).1, (hprompt hpast).2.trans (Nat.le_add_right _ _)⟩
  moment := h.moment
  dt_le := h.dt_le

theorem inv_initial : Inv shift (initial : TimerScaler wf wt) [] := by
  refine .of_idle ?_ justified_nil rfl rfl
  change (0 : BitVec wt) = shown wt (0 * 2 ^ (wf - shift) : ℕ)
  rw [Nat.zero_mul]
  rfl

theorem Inv.step (h : Inv shift s acts) (hrep : Representable wf wt shift)
    {event : TimerScalerEvent wt} (hallowed : Allowed s event) :
    Inv shift (s.step shift event).1 (acts ++ (s.step shift event).2) := by
  cases event with
  | startWithTimeoutFromNow dt => exact h.startTimer hrep hallowed (s.getNow shift) dt
  | startWithTimeoutFromLastTrigger dt => exact h.startTimer hrep hallowed s.lastTrigger dt
  | startWithTimeoutFromTime t0 dt => exact h.startTimer hrep hallowed t0 dt
  | stop => exact h.stop
  | timerFromFired =>
    obtain ⟨htold, due, hset, hdue⟩ := hallowed
    rw [TimerScaler.step, show s.timerFrom = some due from hset]
    exact h.timerFromFired hrep htold hset hdue
  | timerOverflowFrom => exact h.timerOverflowFrom hrep
  | passed time =>
    rw [TimerScaler.step, List.append_nil]
    exact h.passed time

theorem Inv.correct (h : Inv shift s acts) : Correct shift s acts := by
  constructor
  · constructor
    · intro hset
      apply Option.isSome_iff_ne_none.mpr
      intro hnone
      rw [h.idle hnone] at hset
      cases hset
    · intro hrunning
      obtain ⟨⟨t0, dt, now⟩, hrunning⟩ := Option.isSome_iff_exists.mp hrunning
      obtain ⟨due, hwaits, -⟩ := h.waits t0 dt now hrunning
      rw [hwaits.timerFrom]
      rfl
  · exact h.fires
  · intro t0 dt now hrunning hpast
    obtain ⟨due, hwaits, hprompt⟩ := h.waits t0 dt now hrunning
    obtain ⟨hzero, hdue⟩ := hprompt hpast
    have hlast : s.t0 = shown wt (t0 + dt.toNat) := by
      rw [← h.moment t0 dt now hrunning, hzero, add_zero]
    refine ⟨⟨due, hwaits.timerFrom, hdue⟩, ?_⟩
    rw [TimerScaler.step, hwaits.timerFrom, ← hlast]
    dsimp only
    rw [TimerScaler.timerFromFired, if_pos hzero]
    rfl

end Invariant

/-! ## Progress -/

section Progress

variable {shift} {s}

/-- While the timer below is set, its firing is awaited. -/
def awaited (s : TimerScaler wf wt) : TimerScalerEvent wt → Bool
  | .timerFromFired => s.timerFrom.isSome
  | _ => false

/-- How many rounds are left after the one that the timer below is set for. -/
def left (shift : ℕ) (s : TimerScaler wf wt) : ℕ :=
  if s.dt = 0 then 0 else s.dt.toNat / 2 ^ maxDelayLog2 wf shift + 1

/-- What a start comes to. -/
def IsEnd : TimerScalerAct wt → Prop
  | .overflow => False
  | _ => True

theorem left_le (s : TimerScaler wf wt) :
    left shift s ≤ s.dt.toNat / 2 ^ maxDelayLog2 wf shift + 1 := by
  unfold left
  split_ifs
  · exact Nat.zero_le _
  · exact le_rfl

theorem left_scheduleTimer (h : Representable wf wt shift) (hdt : s.dt ≠ 0) :
    left shift (s.scheduleTimer shift) + 1 ≤ left shift s := by
  have hleft : left shift s = s.dt.toNat / 2 ^ maxDelayLog2 wf shift + 1 := if_neg hdt
  rw [hleft]
  rcases dt_scheduleTimer h s with hzero | hless
  · rw [left, if_pos hzero]
    exact Nat.succ_le_succ (Nat.zero_le _)
  · apply Nat.succ_le_succ
    calc left shift (s.scheduleTimer shift)
        ≤ (s.scheduleTimer shift).dt.toNat / 2 ^ maxDelayLog2 wf shift + 1 := left_le _
      _ = ((s.scheduleTimer shift).dt.toNat + 2 ^ maxDelayLog2 wf shift) /
            2 ^ maxDelayLog2 wf shift := (Nat.add_div_right _ (by positivity)).symm
      _ ≤ s.dt.toNat / 2 ^ maxDelayLog2 wf shift := Nat.div_le_div_right hless

theorem isSome_scheduleTimer (s : TimerScaler wf wt) :
    (s.scheduleTimer shift).timerFrom.isSome := by
  rw [scheduleTimer_eq]
  dsimp only
  split_ifs <;> rfl

/-- Every firing of the timer below ends what waits, or leaves a round less. -/
theorem step_progress (h : Representable wf wt shift) (s : TimerScaler wf wt)
    (event : TimerScalerEvent wt) (hbusy : s.timerFrom.isSome) :
    (∃ act ∈ (s.step shift event).2, IsEnd act) ∨
      (s.step shift event).1.timerFrom.isSome ∧
        left shift (s.step shift event).1 + (if s.awaited event then 1 else 0) ≤ left shift s := by
  cases event with
  | startWithTimeoutFromNow dt => exact Or.inl ⟨_, List.mem_singleton_self _, trivial⟩
  | startWithTimeoutFromLastTrigger dt => exact Or.inl ⟨_, List.mem_singleton_self _, trivial⟩
  | startWithTimeoutFromTime t0 dt => exact Or.inl ⟨_, List.mem_singleton_self _, trivial⟩
  | stop => exact Or.inl ⟨_, List.mem_singleton_self _, trivial⟩
  | timerFromFired =>
    obtain ⟨due, hset⟩ := Option.isSome_iff_exists.mp hbusy
    rw [awaited, if_pos hbusy, TimerScaler.step, hset]
    dsimp only
    unfold TimerScaler.timerFromFired
    split_ifs with hzero
    · exact Or.inl ⟨_, List.mem_singleton_self _, trivial⟩
    · exact Or.inr ⟨isSome_scheduleTimer _, left_scheduleTimer h hzero⟩
  | timerOverflowFrom => exact Or.inr ⟨hbusy, le_rfl⟩
  | passed time => exact Or.inr ⟨hbusy, le_rfl⟩

end Progress

/-- After every run the scaler keeps what it promises, and a start that is waiting has come to its
end by the time the timer below has fired once for each of its rounds. -/
theorem fires_exactly_once (hrep : Representable wf wt shift) (events : List (TimerScalerEvent wt))
    (hmeets : RunMeets (step shift) Allowed (initial : TimerScaler wf wt) events) :
    let r := run (step shift) (initial : TimerScaler wf wt) events
    Correct shift r.1 r.2 ∧
      ∀ t0 dt now, running r.2 = some (t0, dt, now) → ∀ later,
        dt.toNat / 2 ^ maxDelayLog2 wf shift + 1 < awaitedSteps (step shift) awaited r.1 later →
          ∃ act ∈ (run (step shift) r.1 later).2, IsEnd act := by
  have hinv : Inv shift (run (step shift) (initial : TimerScaler wf wt) events).1
      (run (step shift) (initial : TimerScaler wf wt) events).2 :=
    run_invariant (fun _ _ _ hallowed h => h.step hrep hallowed) inv_initial hmeets
  refine ⟨hinv.correct, fun t0 dt now hrunning later hmany => ?_⟩
  have hbusy := hinv.correct.isRunning.mpr (Option.isSome_iff_exists.mpr ⟨_, hrunning⟩)
  have hrounds := Nat.div_le_div_right (c := 2 ^ maxDelayLog2 wf shift)
    (hinv.dt_le t0 dt now hrunning)
  refine exists_done_of_awaitedSteps (step_progress hrep) hbusy ?_
  exact ((left_le _).trans (Nat.succ_le_succ hrounds)).trans_lt hmany

/-- An interval of two rounds on a clock of eight bits, told in ticks of four, past the wrap of the
clock below. -/
theorem fires_exactly_once_rounds :
    let events : List (TimerScalerEvent 16) :=
      [.passed 100, .startWithTimeoutFromNow 40, .passed 160, .timerOverflowFrom, .timerFromFired,
        .passed 40, .timerFromFired]
    RunMeets (step 2) Allowed (initial : TimerScaler 8 16) events ∧
      (run (step 2) (initial : TimerScaler 8 16) events).2 =
        [.started 25 40 25, .fired 75 65] ∧
      Correct 2 (run (step 2) (initial : TimerScaler 8 16) events).1
        (run (step 2) (initial : TimerScaler 8 16) events).2 := by
  intro events
  have hmeets : RunMeets (step 2) Allowed (initial : TimerScaler 8 16) events :=
    ⟨trivial, rfl, trivial, show 0 < 1 by decide, ⟨rfl, 228, rfl, show 228 ≤ 260 by decide⟩,
      trivial, ⟨rfl, 260, rfl, show 260 ≤ 300 by decide⟩, trivial⟩
  exact ⟨hmeets, by decide, (fires_exactly_once 2 ⟨by decide, by decide⟩ events hmeets).1⟩

end TimerScaler

end Whip6
