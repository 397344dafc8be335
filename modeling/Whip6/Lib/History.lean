import Mathlib

/-!
# Histories

In a history every act may have to be justified by the acts before it: something is finished with
success only after it was started, an answer is given only after it was received.  Where each act
concerns one thing, what the history tells of a thing is a fold over the acts that concern it.
-/

namespace Whip6.Lib

variable {Act : Type*} {ok : List Act → Act → Prop} {acts acts' : List Act} {act : Act}

/-- Every act of a history is justified by the acts before it. -/
def Justified (ok : List Act → Act → Prop) (acts : List Act) : Prop :=
  ∀ pre act post, acts = pre ++ act :: post → ok pre act

theorem justified_nil : Justified ok [] := by
  intro pre act post h
  exact absurd h.symm (List.append_ne_nil_of_right_ne_nil _ (List.cons_ne_nil _ _))

/-- New acts are justified by the history and the new acts before them. -/
theorem Justified.append (h : Justified ok acts)
    (h' : ∀ pre act post, acts' = pre ++ act :: post → ok (acts ++ pre) act) :
    Justified ok (acts ++ acts') := by
  intro pre act post heq
  rcases List.append_eq_append_iff.mp heq with ⟨mid, rfl, hrest⟩ | ⟨mid, hacts, hrest⟩
  · exact h' mid act post hrest
  · cases mid with
    | nil =>
      rw [List.append_nil] at hacts
      subst hacts
      have hnew := h' [] act post hrest.symm
      rwa [List.append_nil] at hnew
    | cons a mid =>
      rw [List.cons_append, List.cons.injEq] at hrest
      exact h pre act mid (by rw [hacts, hrest.1])

theorem Justified.concat (h : Justified ok acts) (hact : ok acts act) :
    Justified ok (acts ++ [act]) := by
  refine h.append fun pre act' post heq => ?_
  rcases List.append_eq_cons_iff.mp heq.symm with ⟨rfl, hcons⟩ | ⟨mid, -, hnil⟩
  · rw [(List.cons.inj hcons).1, List.append_nil]
    exact hact
  · exact absurd hnil.symm (List.append_ne_nil_of_right_ne_nil _ (List.cons_ne_nil _ _))

/-- Acts that are justified anyway. -/
theorem Justified.append_of_forall (h : Justified ok acts)
    (h' : ∀ act ∈ acts', ∀ pre, ok pre act) : Justified ok (acts ++ acts') := by
  refine h.append fun pre act post heq => h' act ?_ _
  rw [heq]
  exact List.mem_append_right _ List.mem_cons_self

/-! ## What a history tells of one thing -/

variable {ι View : Type*} [DecidableEq ι] {subject : Act → ι} {see : View → Act → View} {v : View}
  {i : ι}

/-- What a history tells of a thing, from the acts that concern it. -/
def viewOf (subject : Act → ι) (see : View → Act → View) (v : View) (i : ι) (acts : List Act) : View :=
  (acts.filter fun act => subject act = i).foldl see v

theorem viewOf_append_other (h : ∀ act ∈ acts', subject act ≠ i) :
    viewOf subject see v i (acts ++ acts') = viewOf subject see v i acts := by
  have hnil : acts'.filter (fun act => subject act = i) = [] := by
    rw [List.filter_eq_nil_iff]
    intro act hact heq
    exact h act hact (of_decide_eq_true heq)
  rw [viewOf, List.filter_append, hnil, List.append_nil, viewOf]

theorem viewOf_concat (h : subject act = i) :
    viewOf subject see v i (acts ++ [act]) = see (viewOf subject see v i acts) act := by
  have hself : [act].filter (fun act => subject act = i) = [act] := by simp [h]
  rw [viewOf, List.filter_append, hself, List.foldl_append, viewOf]
  rfl

end Whip6.Lib
