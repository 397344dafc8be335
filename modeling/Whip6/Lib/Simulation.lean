import Whip6.Lib.Runs

/-!
# Simulation

A specification is a relation between states that is labelled with acts.  A machine is simulated by
it where every step of the machine, from a state that stands for one of the specification, performs
acts along which the specification can go, to a state that stands for the new one.  Then the history
of every run of the machine is one of the specification.
-/

namespace Whip6.Lib

variable {State Event Act Spec : Type*}

/-- The specification goes from one state to another along some acts. -/
inductive SpecRun (rel : Spec → Act → Spec → Prop) : Spec → List Act → Spec → Prop
  | nil (m : Spec) : SpecRun rel m [] m
  | cons {m m' m'' : Spec} {act : Act} {acts : List Act} (head : rel m act m')
      (tail : SpecRun rel m' acts m'') : SpecRun rel m (act :: acts) m''

variable {rel : Spec → Act → Spec → Prop} {m m' m'' : Spec} {acts acts' : List Act}

theorem SpecRun.single {act : Act} (h : rel m act m') : SpecRun rel m [act] m' :=
  .cons h (.nil m')

theorem SpecRun.append (h : SpecRun rel m acts m') (h' : SpecRun rel m' acts' m'') :
    SpecRun rel m (acts ++ acts') m'' := by
  induction h with
  | nil m => exact h'
  | cons head tail ih => exact .cons head (ih h')

/-- The runs of a machine whose steps meet a condition are runs of the specification that simulates
such steps. -/
theorem run_simulates_of_runMeets {step : State → Event → State × List Act}
    {cond : State → Event → Prop} {StandsFor : State → Spec → Prop}
    (hstep : ∀ s m event, cond s event → StandsFor s m →
      ∃ m', SpecRun rel m (step s event).2 m' ∧ StandsFor (step s event).1 m')
    {s : State} {events : List Event} (h : StandsFor s m) (hmeets : RunMeets step cond s events) :
    ∃ m', SpecRun rel m (run step s events).2 m' ∧ StandsFor (run step s events).1 m' := by
  induction events generalizing s m with
  | nil => exact ⟨m, .nil m, h⟩
  | cons event events ih =>
    obtain ⟨m', hhead, h'⟩ := hstep s m event hmeets.1 h
    obtain ⟨m'', htail, h''⟩ := ih h' hmeets.2
    exact ⟨m'', hhead.append htail, h''⟩

/-- The runs of a machine are runs of the specification that simulates it. -/
theorem run_simulates {step : State → Event → State × List Act} {StandsFor : State → Spec → Prop}
    (hstep : ∀ s m event, StandsFor s m → ∃ m', SpecRun rel m (step s event).2 m' ∧
      StandsFor (step s event).1 m')
    {s : State} (h : StandsFor s m) (events : List Event) :
    ∃ m', SpecRun rel m (run step s events).2 m' ∧ StandsFor (run step s events).1 m' :=
  run_simulates_of_runMeets (fun s m event _ => hstep s m event) h (runMeets_true s events)

/-! ## Families -/

variable {ι : Type*} {ms ms' : ι → Spec} {i : ι}

/-- Of a family of states one goes on, along an act that tells which. -/
def AtIndex (rel : Spec → Act → Spec → Prop) (ms : ι → Spec) (act : ι × Act) (ms' : ι → Spec) :
    Prop :=
  rel (ms act.1) act.2 (ms' act.1) ∧ ∀ j, j ≠ act.1 → ms' j = ms j

theorem SpecRun.atIndex [DecidableEq ι] (h : SpecRun rel (ms i) acts m') :
    SpecRun (AtIndex rel) ms (acts.map (Prod.mk i)) (Function.update ms i m') := by
  generalize hm : ms i = m at h
  induction h generalizing ms with
  | nil m =>
    rw [← hm, Function.update_eq_self]
    exact .nil ms
  | @cons m m₁ m₂ act acts head tail ih =>
    have htail := ih (show Function.update ms i m₁ i = m₁ from Function.update_self i m₁ ms)
    rw [Function.update_idem] at htail
    refine .cons ⟨?_, fun j hj => Function.update_of_ne hj m₁ ms⟩ htail
    change rel (ms i) act (Function.update ms i m₁ i)
    rw [hm, Function.update_self]
    exact head

/-- What holds of one of a family until an act ends it. -/
theorem SpecRun.until {acts : List (ι × Act)} (h : SpecRun (AtIndex rel) ms acts ms')
    {Keeps : Spec → Prop} {isEnd : Act → Prop}
    (hstep : ∀ {m act m'}, rel m act m' → Keeps m → isEnd act ∨ Keeps m') (hkeeps : Keeps (ms i)) :
    (∃ act, isEnd act ∧ (i, act) ∈ acts) ∨ Keeps (ms' i) := by
  induction h with
  | nil ms => exact Or.inr hkeeps
  | @cons ms ms₁ ms₂ act acts head tail ih =>
    obtain ⟨hrel, hother⟩ := head
    have hnext : (act.1 = i ∧ isEnd act.2) ∨ Keeps (ms₁ i) := by
      by_cases hi : i = act.1
      · subst hi
        exact (hstep hrel hkeeps).imp (⟨rfl, ·⟩) id
      · right
        rw [hother i hi]
        exact hkeeps
    rcases hnext with ⟨rfl, hend⟩ | hkeeps'
    · exact Or.inl ⟨act.2, hend, List.mem_cons_self⟩
    · refine (ih hkeeps').imp (fun ⟨act', hend, hmem⟩ => ?_) id
      exact ⟨act', hend, List.mem_cons_of_mem _ hmem⟩

end Whip6.Lib
