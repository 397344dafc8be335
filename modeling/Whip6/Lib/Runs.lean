import Mathlib

/-!
# Runs of a machine

A machine takes steps on events, and every step performs acts.  The run over a sequence of events
ends in a state and has a history, the acts in their order.  An invariant of state and history that
every step keeps holds after every run; where a step keeps it only under a condition on the state
and the event, it holds after the runs all of whose steps meet the condition.
-/

namespace Whip6.Lib

variable {State Event Act : Type*}

/-- The last state and the history of a run. -/
def run (step : State → Event → State × List Act) (s : State) : List Event → State × List Act
  | [] => (s, [])
  | event :: events =>
    let r := step s event
    let rest := run step r.1 events
    (rest.1, r.2 ++ rest.2)

/-- Every step of a run meets a condition on the state before it and the event. -/
def RunMeets (step : State → Event → State × List Act) (cond : State → Event → Prop) (s : State) :
    List Event → Prop
  | [] => True
  | event :: events => cond s event ∧ RunMeets step cond (step s event).1 events

variable {step : State → Event → State × List Act} {cond : State → Event → Prop} {s : State}
  {events events' : List Event}

theorem run_append :
    run step s (events ++ events') =
      ((run step (run step s events).1 events').1,
        (run step s events).2 ++ (run step (run step s events).1 events').2) := by
  induction events generalizing s with
  | nil => rfl
  | cons event events ih =>
    rw [List.cons_append, run, ih]
    simp only [run, List.append_assoc]

theorem fst_run_cons (event : Event) :
    (run step s (event :: events)).1 = (run step (step s event).1 events).1 := rfl

theorem fst_run_append :
    (run step s (events ++ events')).1 = (run step (run step s events).1 events').1 := by
  rw [run_append]

theorem run_append_singleton (event : Event) :
    run step s (events ++ [event]) =
      ((step (run step s events).1 event).1,
        (run step s events).2 ++ (step (run step s events).1 event).2) := by
  rw [run_append]
  simp only [run, List.append_nil]

theorem runMeets_append :
    RunMeets step cond s (events ++ events') ↔
      RunMeets step cond s events ∧ RunMeets step cond (run step s events).1 events' := by
  induction events generalizing s with
  | nil => exact (true_and _).symm.to_iff
  | cons event events ih =>
    rw [List.cons_append, RunMeets, RunMeets, ih, and_assoc, fst_run_cons]

theorem RunMeets.imp {cond' : State → Event → Prop} (hmeets : RunMeets step cond s events)
    (h : ∀ s event, cond s event → cond' s event) : RunMeets step cond' s events := by
  induction events generalizing s with
  | nil => exact trivial
  | cons event events ih => exact ⟨h s event hmeets.1, ih hmeets.2⟩

theorem RunMeets.and {cond' : State → Event → Prop} (hmeets : RunMeets step cond s events)
    (hmeets' : RunMeets step cond' s events) :
    RunMeets step (fun s event => cond s event ∧ cond' s event) s events := by
  induction events generalizing s with
  | nil => exact trivial
  | cons event events ih => exact ⟨⟨hmeets.1, hmeets'.1⟩, ih hmeets.2 hmeets'.2⟩

theorem runMeets_true (s : State) (events : List Event) :
    RunMeets step (fun _ _ => True) s events := by
  induction events generalizing s with
  | nil => exact trivial
  | cons event events ih => exact ⟨trivial, ih _⟩

/-- An invariant of state and history. -/
theorem run_invariant {Inv : State → List Act → Prop} {acts : List Act}
    (hstep : ∀ s acts event, cond s event → Inv s acts → Inv (step s event).1
      (acts ++ (step s event).2))
    (hinit : Inv s acts) (hmeets : RunMeets step cond s events) :
    Inv (run step s events).1 (acts ++ (run step s events).2) := by
  induction events generalizing s acts with
  | nil =>
    rw [run, List.append_nil]
    exact hinit
  | cons event events ih =>
    have hrest := ih (hstep s acts event hmeets.1 hinit) hmeets.2
    rw [List.append_assoc] at hrest
    exact hrest

/-- An invariant of the state. -/
theorem run_invariant_state {Inv : State → Prop}
    (hstep : ∀ s event, cond s event → Inv s → Inv (step s event).1) (hinit : Inv s)
    (hmeets : RunMeets step cond s events) : Inv (run step s events).1 := by
  induction events generalizing s with
  | nil => exact hinit
  | cons event events ih => exact ih (hstep s event hmeets.1 hinit) hmeets.2

/-- Where every step meets the condition by the invariant, every run does. -/
theorem runMeets_of_invariant {Inv : State → Prop}
    (hcond : ∀ s event, Inv s → cond s event)
    (hstep : ∀ s event, cond s event → Inv s → Inv (step s event).1) (hinit : Inv s) :
    RunMeets step cond s events := by
  induction events generalizing s with
  | nil => exact trivial
  | cons event events ih =>
    have hmeets := hcond s event hinit
    exact ⟨hmeets, ih (hstep s event hmeets hinit)⟩

/-! ## Watched machines -/

/-- A machine together with its history, as those who know only the history see it. -/
structure Watched (State Act : Type*) where
  state : State
  history : List Act

/-- A step of a watched machine. -/
def watch (step : State → Event → State × List Act) (w : Watched State Act) (event : Event) :
    Watched State Act × List Act :=
  let r := step w.state event
  (⟨r.1, w.history ++ r.2⟩, r.2)

theorem state_watch (w : Watched State Act) (event : Event) :
    (watch step w event).1.state = (step w.state event).1 := rfl

theorem history_watch (w : Watched State Act) (event : Event) :
    (watch step w event).1.history = w.history ++ (step w.state event).2 := rfl

end Whip6.Lib
