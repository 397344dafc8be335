import Whip6.Lib.Runs

/-!
# Progress

A machine waits for events that bring it further.  Where every such event either makes it do what is
awaited or leaves it with less to do, and no other event gives it more to do, enough of them bring
about what is awaited.
-/

namespace Whip6.Lib

variable {State Event Act : Type*}

/-- How many steps of a run are on events that the machine waits for. -/
def awaitedSteps (step : State → Event → State × List Act) (awaited : State → Event → Bool)
    (s : State) : List Event → ℕ
  | [] => 0
  | event :: events =>
    (if awaited s event then 1 else 0) + awaitedSteps step awaited (step s event).1 events

/-- With more awaited events than there is to do, in a run whose steps meet a condition, what is
awaited happens. -/
theorem exists_done_of_runMeets {step : State → Event → State × List Act}
    {cond : State → Event → Prop} {awaited : State → Event → Bool} {Busy : State → Prop}
    {left : State → ℕ} {isDone : Act → Prop}
    (hstep : ∀ s event, cond s event → Busy s → (∃ act ∈ (step s event).2, isDone act) ∨
      Busy (step s event).1 ∧
        left (step s event).1 + (if awaited s event then 1 else 0) ≤ left s)
    {s : State} {events : List Event} (hmeets : RunMeets step cond s events) (h : Busy s)
    (hmany : left s < awaitedSteps step awaited s events) :
    ∃ act ∈ (run step s events).2, isDone act := by
  induction events generalizing s with
  | nil => exact absurd hmany (Nat.not_lt_zero _)
  | cons event events ih =>
    rw [awaitedSteps] at hmany
    rcases hstep s event hmeets.1 h with ⟨act, hact, hdone⟩ | ⟨hbusy, hleft⟩
    · exact ⟨act, List.mem_append_left _ hact, hdone⟩
    · obtain ⟨act, hact, hdone⟩ := ih hmeets.2 hbusy (by omega)
      exact ⟨act, List.mem_append_right _ hact, hdone⟩

/-- With more awaited events than there is to do, what is awaited happens. -/
theorem exists_done_of_awaitedSteps {step : State → Event → State × List Act}
    {awaited : State → Event → Bool} {Busy : State → Prop} {left : State → ℕ} {isDone : Act → Prop}
    (hstep : ∀ s event, Busy s → (∃ act ∈ (step s event).2, isDone act) ∨
      Busy (step s event).1 ∧
        left (step s event).1 + (if awaited s event then 1 else 0) ≤ left s)
    {s : State} {events : List Event} (h : Busy s)
    (hmany : left s < awaitedSteps step awaited s events) :
    ∃ act ∈ (run step s events).2, isDone act :=
  exists_done_of_runMeets (fun s event _ => hstep s event) (runMeets_true s events) h hmany

end Whip6.Lib
