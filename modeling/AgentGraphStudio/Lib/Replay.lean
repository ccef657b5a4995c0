import AgentGraphStudio.Lib.Program

/-!
# Replaying events on a state machine

A state machine answers an operation with a response and a new state, or not at all while the
operation is blocked. A list of events `Replays` when the machine gives exactly the recorded
responses. `Replays.purge` is the unwinding theorem of noninterference: if the foreign
operations change nothing that an observer sees, and every other operation responds and acts
according to what the observer sees, then the foreign operations can be removed from a list of
events and everything else still happens as it did.
-/

variable {Op : Type} {Res : Op → Type} {State : Type}

/-- From this state, the machine answers these operations with these responses. -/
inductive Replays (step : (op : Op) → State → Option (Res op × State)) :
    State → List (Event Op Res) → State → Prop where
  | nil (state : State) : Replays step state [] state
  | cons {op : Op} {response : Res op} {events : List (Event Op Res)}
      {state next last : State} (h : step op state = some (response, next))
      (hrest : Replays step next events last) :
      Replays step state (⟨op, response⟩ :: events) last

namespace Replays

variable {step : (op : Op) → State → Option (Res op × State)} {state next last : State}
  {events more : List (Event Op Res)}

/-- Two replays in sequence. -/
theorem append (h : Replays step state events next) (hmore : Replays step next more last) :
    Replays step state (events ++ more) last := by
  induction h with
  | nil => exact hmore
  | cons hstep _ ih => exact .cons hstep (ih hmore)

/-- One more event at the end. -/
theorem snoc {op : Op} {response : Res op} (h : Replays step state events next)
    (hstep : step op next = some (response, last)) :
    Replays step state (events ++ [⟨op, response⟩]) last :=
  h.append (.cons hstep (.nil _))

/-- A replay of a sequence passes through a state in between. -/
theorem split (h : Replays step state (events ++ more) last) :
    ∃ next, Replays step state events next ∧ Replays step next more last := by
  induction events generalizing state with
  | nil => exact ⟨state, .nil _, h⟩
  | cons event events ih =>
      cases h with
      | cons hstep hrest =>
          obtain ⟨next, hfirst, hsecond⟩ := ih hrest
          exact ⟨next, .cons hstep hfirst, hsecond⟩

/-- The machine stood in some state when it gave a response. -/
theorem at_event {before after : List (Event Op Res)} {op : Op} {response : Res op}
    (h : Replays step state (before ++ ⟨op, response⟩ :: after) last) :
    ∃ here there, Replays step state before here ∧ step op here = some (response, there) ∧
      Replays step there after last := by
  obtain ⟨here, hbefore, hrest⟩ := h.split
  cases hrest with
  | cons hstep hafter => exact ⟨here, _, hbefore, hstep, hafter⟩

/-- A property that the first state has and every step keeps holds in the last state. -/
theorem invariant {property : List (Event Op Res) → State → Prop}
    (hinit : property [] state)
    (hstep : ∀ events state op response next, property events state →
      step op state = some (response, next) → property (events ++ [⟨op, response⟩]) next)
    (h : Replays step state events last) : property events last := by
  suffices hall : ∀ before, property before state → property (before ++ events) last by
    simpa using hall [] hinit
  clear hinit
  induction h with
  | nil => exact fun before hbefore => by simpa using hbefore
  | cons hhere _ ih =>
      intro before hbefore
      rw [List.append_cons]
      exact ih _ (hstep before _ _ _ _ hbefore hhere)

/-! ## Noninterference -/

/-- What an observer is promised about operations foreign to them. -/
structure Unwinding (step : (op : Op) → State → Option (Res op × State))
    (foreign : Op → Bool) (Agree : State → State → Prop) : Prop where
  respects : ∀ op state response next other, foreign op = true →
    step op state = some (response, next) → Agree state other → Agree next other
  consistent : ∀ op state response next other, foreign op = false →
    step op state = some (response, next) → Agree state other →
      ∃ next', step op other = some (response, next') ∧ Agree next next'

/-- Without the foreign operations, all other operations get the responses they got. -/
theorem purge {foreign : Op → Bool} {Agree : State → State → Prop}
    (hunwinding : Unwinding step foreign Agree) {other : State} (hagree : Agree state other)
    (h : Replays step state events last) :
    ∃ last', Replays step other (events.filter fun event => !foreign event.op) last' ∧
      Agree last last' := by
  induction h generalizing other with
  | nil => exact ⟨other, .nil _, hagree⟩
  | @cons op response events state next last hstep _ ih =>
      cases hforeign : foreign op with
      | true =>
          obtain ⟨last', hlast, hagree'⟩ := ih (hunwinding.respects _ _ _ _ _ hforeign hstep hagree)
          exact ⟨last', by simpa [hforeign] using hlast, hagree'⟩
      | false =>
          obtain ⟨next', hnext, hagree'⟩ :=
            hunwinding.consistent _ _ _ _ _ hforeign hstep hagree
          obtain ⟨last', hlast, hagree''⟩ := ih hagree'
          exact ⟨last', by simpa [hforeign] using Replays.cons hnext hlast, hagree''⟩

end Replays
