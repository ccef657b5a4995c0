import Mathlib.Data.List.Induction

/-!
# Histories of a deterministic machine

A machine does one action after another. `History.all_states_iff`: when a condition on a state and
the action that it meets decides whether the action keeps a property, the property holds in every
state of a history exactly if every action of the history satisfies the condition.
-/

universe u v w

namespace History

variable {State : Type u} {Action : Type v}

/-- The state after a list of actions. -/
def after (act : Action → State → State) (history : List Action) (start : State) : State :=
  history.foldl (fun state action => act action state) start

/-- The property holds at the start and after every action. -/
def AllStates (act : Action → State → State) (history : List Action) (start : State)
    (P : State → Prop) : Prop :=
  ∀ earlier later, history = earlier ++ later → P (after act earlier start)

/-- Every action satisfies the condition in the state that it meets. -/
def AllSteps (act : Action → State → State) (history : List Action) (start : State)
    (M : State → Action → Prop) : Prop :=
  ∀ earlier action later, history = earlier ++ action :: later →
    M (after act earlier start) action

variable {act : Action → State → State} {history : List Action} {start : State}
  {P : State → Prop} {M : State → Action → Prop}

@[simp] theorem after_nil : after act [] start = start := rfl

@[simp] theorem after_cons (action : Action) :
    after act (action :: history) start = after act history (act action start) := rfl

theorem after_append (first second : List Action) :
    after act (first ++ second) start = after act second (after act first start) :=
  List.foldl_append

/-- One more action. -/
theorem after_concat (action : Action) :
    after act (history ++ [action]) start = act action (after act history start) :=
  after_append history [action]

/-- Two machines that do the same actions stay related, if every action keeps them so. -/
theorem after_related {Other : Type w} {act' : Action → Other → Other} {R : State → Other → Prop}
    (hstep : ∀ state other action, R state other → R (act action state) (act' action other))
    {other : Other} (hstart : R start other) :
    R (after act history start) (after act' history other) := by
  induction history generalizing start other with
  | nil => exact hstart
  | cons action history ih => exact ih (hstep start other action hstart)

/-- What every action preserves holds after a history. -/
theorem after_of_step (hstep : ∀ state action, P state → P (act action state))
    (hstart : P start) : P (after act history start) := by
  induction history generalizing start with
  | nil => exact hstart
  | cons action history ih => exact ih (hstep start action hstart)

/-- What the actions of a history preserve, under a condition that they satisfy, always holds. -/
theorem all_states_of_steps
    (hstep : ∀ state action, P state → M state action → P (act action state)) (hstart : P start)
    (hsteps : AllSteps act history start M) :
    AllStates act history start P := by
  intro earlier
  induction earlier using List.reverseRecOn with
  | nil => exact fun _ _ => hstart
  | append_singleton earlier action ih =>
      intro later hsplit
      rw [List.append_assoc] at hsplit
      rw [after_concat]
      exact hstep _ _ (ih _ hsplit) (hsteps earlier action later hsplit)

/-- A condition that decides whether an action preserves a property decides whether the property
always holds. -/
theorem all_states_iff (hstep : ∀ state action, P state → (P (act action state) ↔ M state action))
    (hstart : P start) : AllStates act history start P ↔ AllSteps act history start M := by
  constructor
  · intro h earlier action later hsplit
    have hstate : P (after act (earlier ++ [action]) start) :=
      h (earlier ++ [action]) later (by rw [hsplit, List.append_assoc]; rfl)
    rw [after_concat] at hstate
    exact (hstep _ _ (h earlier (action :: later) hsplit)).mp hstate
  · exact all_states_of_steps (fun state action hP => (hstep state action hP).mpr) hstart

/-- The condition of a history's steps is that of its first action and that of the rest. -/
theorem all_steps_cons {action : Action} : AllSteps act (action :: history) start M ↔
    M start action ∧ AllSteps act history (act action start) M := by
  constructor
  · intro h
    refine ⟨h [] action history rfl, fun earlier other later hsplit => ?_⟩
    exact h (action :: earlier) other later (congrArg (action :: ·) hsplit)
  · intro h earlier other later hsplit
    cases earlier with
    | nil =>
        cases hsplit
        exact h.1
    | cons head earlier =>
        obtain ⟨hhead, htail⟩ := List.cons_eq_cons.mp hsplit
        cases hhead
        exact h.2 earlier other later htail

/-- The condition holds of the steps that come first. -/
theorem all_steps_before {earlier later : List Action}
    (h : AllSteps act (earlier ++ later) start M) : AllSteps act earlier start M := by
  intro before action after hsplit
  exact h before action (after ++ later) (by rw [hsplit, List.append_assoc]; rfl)

/-- The condition holds of the steps that come after others. -/
theorem all_steps_later {earlier later : List Action}
    (h : AllSteps act (earlier ++ later) start M) :
    AllSteps act later (History.after act earlier start) M := by
  intro before action after hsplit
  rw [← after_append]
  exact h (earlier ++ before) action after (by rw [hsplit, List.append_assoc])

/-- Nothing is asked of no steps. -/
theorem all_steps_nil : AllSteps act [] start M := by
  intro earlier action later hsplit
  cases earlier <;> cases hsplit

end History
