import Mathlib.Init

/-!
# Computations that keep their effects when they raise

Lemmas about `EStateM`, whose exceptions leave the state as it is at the point where they are
raised. `Stateful.attempt` turns an exception into a value. `Stateful.Frame view` says of a
computation that it leaves a part of the state alone, and `Stateful.Ends post raised` how it ends:
with a value and a state of `post`, or with an exception in a state of `raised`. The rules follow
the ways of building computations.
-/

namespace Stateful

variable {ε ε' σ τ α β : Type}

/-- The state after a computation. -/
def stateOf : EStateM.Result ε σ α → σ
  | .ok _ state | .error _ state => state

/-- Run a computation and tell how it ended. -/
def attempt (act : EStateM ε σ α) : EStateM ε' σ (Except ε α) := fun state =>
  match act.run state with
  | .ok value state => .ok (.ok value) state
  | .error raised state => .ok (.error raised) state

theorem run_attempt (act : EStateM ε σ α) (state : σ) :
    (attempt act : EStateM ε' σ (Except ε α)).run state =
      match act.run state with
      | .ok value final => .ok (.ok value) final
      | .error exception final => .ok (.error exception) final := rfl

/-- What follows a look at the state starts with that state. -/
theorem run_get_bind (f : σ → EStateM ε σ α) (state : σ) :
    (get >>= f).run state = (f state).run state := rfl

/-- The value of a computation that may raise. -/
def ofExcept : Except ε α → EStateM ε σ α
  | .ok value => pure value
  | .error raised => throw raised

/-- A computation that ended in a state: with an exception, or else with the value. -/
def ended (exception : Option ε) (value : α) (final : σ) : EStateM.Result ε σ α :=
  match exception with
  | none => .ok value final
  | some raised => .error raised final

@[simp] theorem stateOf_ended (exception : Option ε) (value : α) (final : σ) :
    stateOf (ended exception value final) = final := by
  cases exception <;> rfl

theorem run_bind_eq_ok {act : EStateM ε σ α} {f : α → EStateM ε σ β} {state final : σ} {value : β} :
    (act >>= f).run state = .ok value final ↔
      ∃ first middle, act.run state = .ok first middle ∧
      (f first).run middle = .ok value final := by
  rw [EStateM.run_bind]
  cases act.run state with
  | ok first middle => exact ⟨fun h => ⟨first, middle, rfl, h⟩, fun ⟨_, _, hfirst, h⟩ => by
      cases hfirst
      exact h⟩
  | error raised middle => exact ⟨nofun, fun ⟨_, _, hfirst, _⟩ => by cases hfirst⟩

/-- What follows a computation that ended without an exception. -/
theorem run_bind_ended {act : EStateM ε σ α} {f : α → EStateM ε σ β} {state final : σ}
    {exception : Option ε} {value : α} (h : act.run state = ended exception value final) :
    (act >>= f).run state =
      exception.elim ((f value).run final) fun raised => .error raised final := by
  rw [EStateM.run_bind, h]
  cases exception <;> rfl

/-- The computation leaves a view of the state alone. -/
def Frame (view : σ → τ) (act : EStateM ε σ α) : Prop :=
  ∀ state, view (stateOf (act.run state)) = view state

section

variable {view : σ → τ} {act : EStateM ε σ α} {f : α → EStateM ε σ β}

theorem frame_pure (value : α) : Frame view (pure value : EStateM ε σ α) := fun _ => rfl

theorem frame_throw (raised : ε) : Frame view (throw raised : EStateM ε σ α) := fun _ => rfl

theorem frame_ofExcept (value : Except ε α) : Frame view (ofExcept value : EStateM ε σ α) := by
  cases value with
  | ok value => exact frame_pure value
  | error raised => exact frame_throw raised

theorem frame_get : Frame view (get : EStateM ε σ σ) := fun _ => rfl

theorem frame_modify {change : σ → σ} (h : ∀ state, view (change state) = view state) :
    Frame view (modify change : EStateM ε σ PUnit) := h

theorem frame_bind (h : Frame view act) (hf : ∀ value, Frame view (f value)) :
    Frame view (act >>= f) := by
  intro state
  have hact := h state
  rw [EStateM.run_bind]
  cases hrun : act.run state with
  | ok value middle =>
      rw [hrun] at hact
      exact (hf value middle).trans hact
  | error raised middle =>
      rw [hrun] at hact
      exact hact

theorem frame_attempt (h : Frame view act) :
    Frame view (attempt act : EStateM ε' σ (Except ε α)) := by
  intro state
  have hact := h state
  show view (stateOf (attempt act state)) = _
  unfold attempt
  cases hrun : act.run state with
  | ok value middle =>
      rw [hrun] at hact
      exact hact
  | error raised middle =>
      rw [hrun] at hact
      exact hact

/-- What leaves the view alone may follow. -/
theorem view_bind (view : σ → τ) (hf : ∀ value, Frame view (f value)) (state : σ) :
    view (stateOf ((act >>= f).run state)) = view (stateOf (act.run state)) := by
  rw [EStateM.run_bind]
  cases act.run state with
  | ok value middle => exact hf value middle
  | error raised middle => rfl

/-- A run that returns leaves the view alone. -/
theorem Frame.of_ok (h : Frame view act) {state final : σ} {value : α}
    (hrun : act.run state = .ok value final) : view final = view state := by
  have hact := h state
  rwa [hrun] at hact

/-- A run that raises leaves the view alone. -/
theorem Frame.of_error (h : Frame view act) {state final : σ} {raised : ε}
    (hrun : act.run state = .error raised final) : view final = view state := by
  have hact := h state
  rwa [hrun] at hact

end

/-! ## How a computation ends -/

/-- Started in this state, the computation returns with `post` or raises with `raised`. -/
def Ends (act : EStateM ε σ α) (state : σ) (post : α → σ → Prop) (raised : σ → Prop) : Prop :=
  match act.run state with
  | .ok value final => post value final
  | .error _ final => raised final

section

variable {act : EStateM ε σ α} {f : α → EStateM ε σ β} {state : σ} {post : α → σ → Prop}
  {after : β → σ → Prop} {raised : σ → Prop}

theorem ends_pure {value : α} (h : post value state) :
    Ends (pure value : EStateM ε σ α) state post raised := h

theorem ends_throw {exception : ε} (h : raised state) :
    Ends (throw exception : EStateM ε σ α) state post raised := h

theorem ends_get {post : σ → σ → Prop} (h : post state state) :
    Ends (get : EStateM ε σ σ) state post raised := h

theorem ends_modify {change : σ → σ} {post : PUnit → σ → Prop} (h : post ⟨⟩ (change state)) :
    Ends (modify change : EStateM ε σ PUnit) state post raised := h

theorem ends_bind
    (h : Ends act state (fun value middle => Ends (f value) middle after raised) raised) :
    Ends (act >>= f) state after raised := by
  unfold Ends at h ⊢
  rw [EStateM.run_bind]
  cases hrun : act.run state with
  | ok value middle =>
      rw [hrun] at h
      exact h
  | error exception middle =>
      rw [hrun] at h
      exact h

theorem ends_attempt {post : Except ε α → σ → Prop}
    (h : Ends act state (fun value => post (.ok value)) fun final =>
      ∀ exception, post (.error exception) final) :
    Ends (attempt act : EStateM ε' σ (Except ε α)) state post raised := by
  unfold Ends at h ⊢
  rw [run_attempt]
  cases hrun : act.run state with
  | ok value middle =>
      rw [hrun] at h
      exact h
  | error exception middle =>
      rw [hrun] at h
      exact h exception

theorem ends_ofExcept {value : Except ε α} (hok : ∀ result, value = .ok result → post result state)
    (herror : raised state) : Ends (ofExcept value) state post raised := by
  cases value with
  | ok result => exact hok result rfl
  | error exception => exact herror

/-- A computation ends as said if it does so in both ways. -/
theorem ends_of_run (hok : ∀ value final, act.run state = .ok value final → post value final)
    (herror : ∀ exception final, act.run state = .error exception final → raised final) :
    Ends act state post raised := by
  unfold Ends
  cases hrun : act.run state with
  | ok value final => exact hok value final hrun
  | error exception final => exact herror exception final hrun

theorem Ends.of_ok (h : Ends act state post raised) {value : α} {final : σ}
    (hrun : act.run state = .ok value final) : post value final := by
  unfold Ends at h
  rwa [hrun] at h

theorem Ends.of_error (h : Ends act state post raised) {exception : ε} {final : σ}
    (hrun : act.run state = .error exception final) : raised final := by
  unfold Ends at h
  rwa [hrun] at h

theorem Ends.mono {post' : α → σ → Prop} {raised' : σ → Prop} (h : Ends act state post raised)
    (hpost : ∀ value final, post value final → post' value final)
    (hraised : ∀ final, raised final → raised' final) : Ends act state post' raised' := by
  unfold Ends at h ⊢
  cases hrun : act.run state with
  | ok value final =>
      rw [hrun] at h
      exact hpost value final h
  | error exception final =>
      rw [hrun] at h
      exact hraised final h

/-- If both ways of ending imply a property of the state, the final state has it. -/
theorem Ends.stateOf {property : σ → Prop}
    (h : Ends act state (fun _ => property) property) : property (stateOf (act.run state)) := by
  unfold Ends at h
  cases hrun : act.run state with
  | ok value final =>
      rw [hrun] at h
      exact h
  | error exception final =>
      rw [hrun] at h
      exact h

/-- A computation that leaves a view alone keeps every property of the view. -/
theorem Frame.ends {view : σ → τ} (h : Frame view act) {property : σ → Prop}
    (hview : ∀ final, view final = view state → property final) :
    Ends act state (fun _ => property) property :=
  ends_of_run (fun _ _ hrun => hview _ (h.of_ok hrun)) fun _ _ hrun => hview _ (h.of_error hrun)

/-- After a computation that leaves a view alone, the rest starts in a state with the same view. -/
theorem Frame.ends_bind {view : σ → τ} (h : Frame view act)
    (hraised : ∀ middle, view middle = view state → raised middle)
    (hf : ∀ value middle, act.run state = .ok value middle → view middle = view state →
      Ends (f value) middle after raised) : Ends (act >>= f) state after raised :=
  Stateful.ends_bind (ends_of_run (fun _ _ hrun => hf _ _ hrun (h.of_ok hrun)) fun _ _ hrun =>
    hraised _ (h.of_error hrun))

end

/-! ## Invariants -/

/-- The computation keeps an invariant, whether it returns or raises, and what it returns is of a
kind. -/
def Keeps (invariant : σ → Prop) (act : EStateM ε σ α) (returns : α → Prop) : Prop :=
  ∀ state, invariant state →
    Ends act state (fun value final => invariant final ∧ returns value) invariant

section

variable {invariant : σ → Prop} {act : EStateM ε σ α} {f : α → EStateM ε σ β}
  {returns : α → Prop} {returns' : β → Prop}

theorem keeps_pure {value : α} (h : returns value) :
    Keeps invariant (pure value : EStateM ε σ α) returns :=
  fun _ hstate => ends_pure ⟨hstate, h⟩

theorem keeps_throw {exception : ε} :
    Keeps invariant (throw exception : EStateM ε σ α) returns :=
  fun _ hstate => ends_throw hstate

theorem keeps_modify {change : σ → σ} {returns : PUnit → Prop} (h : returns ⟨⟩)
    (hchange : ∀ state, invariant state → invariant (change state)) :
    Keeps invariant (modify change : EStateM ε σ PUnit) returns :=
  fun state hstate => ends_modify ⟨hchange state hstate, h⟩

theorem keeps_bind (h : Keeps invariant act returns)
    (hf : ∀ value, returns value → Keeps invariant (f value) returns') :
    Keeps invariant (act >>= f) returns' :=
  fun state hstate => ends_bind ((h state hstate).mono
    (fun value middle hmiddle => hf value hmiddle.2 middle hmiddle.1) fun _ hmiddle => hmiddle)

theorem keeps_attempt (h : Keeps invariant act returns) :
    Keeps invariant (attempt act : EStateM ε' σ (Except ε α)) fun _ => True :=
  fun state hstate => ends_attempt ((h state hstate).mono
    (fun _ _ hfinal => ⟨hfinal.1, trivial⟩) fun _ hfinal _ => ⟨hfinal, trivial⟩)

/-- A computation that leaves a view alone keeps every invariant on the view. -/
theorem Frame.keeps {view : σ → τ} (h : Frame view act)
    (hview : ∀ state final, view final = view state → invariant state → invariant final) :
    Keeps invariant act fun _ => True :=
  fun state hstate => ends_of_run
    (fun _ final hrun => ⟨hview state final (h.of_ok hrun) hstate, trivial⟩)
    fun _ final hrun => hview state final (h.of_error hrun) hstate

/-- The final state satisfies the invariant. -/
theorem Keeps.stateOf (h : Keeps invariant act returns) {state : σ} (hstate : invariant state) :
    invariant (stateOf (act.run state)) :=
  ((h state hstate).mono (fun _ _ hfinal => hfinal.1) fun _ hfinal => hfinal).stateOf

end

/-! ## Two runs -/

/-- Two computations ended in the same way, in related states. -/
def Same (related : σ → σ → Prop) :
    EStateM.Result ε σ α → EStateM.Result ε σ α → Prop
  | .ok value final, .ok value' final' => value = value' ∧ related final final'
  | .error exception final, .error exception' final' =>
    exception = exception' ∧ related final final'
  | _, _ => False

/-- Started in related states, the computation ends in the same way. -/
def Alike (related : σ → σ → Prop) (act : EStateM ε σ α) : Prop :=
  ∀ first second, related first second → Same related (act.run first) (act.run second)

section

variable {related : σ → σ → Prop} {act : EStateM ε σ α} {f : α → EStateM ε σ β}

theorem alike_pure (value : α) : Alike related (pure value : EStateM ε σ α) :=
  fun _ _ h => ⟨rfl, h⟩

theorem alike_throw (exception : ε) : Alike related (throw exception : EStateM ε σ α) :=
  fun _ _ h => ⟨rfl, h⟩

theorem alike_modify {change : σ → σ}
    (h : ∀ first second, related first second → related (change first) (change second)) :
    Alike related (modify change : EStateM ε σ PUnit) :=
  fun first second hrelated => ⟨rfl, h first second hrelated⟩

theorem alike_bind (h : Alike related act) (hf : ∀ value, Alike related (f value)) :
    Alike related (act >>= f) := by
  intro first second hrelated
  have hact := h first second hrelated
  rw [EStateM.run_bind, EStateM.run_bind]
  cases hfirst : act.run first with
  | ok value final =>
      cases hsecond : act.run second with
      | ok value' final' =>
          rw [hfirst, hsecond] at hact
          obtain ⟨rfl, hfinal⟩ := hact
          exact hf value final final' hfinal
      | error exception' final' =>
          rw [hfirst, hsecond] at hact
          exact hact.elim
  | error exception final =>
      cases hsecond : act.run second with
      | ok value' final' =>
          rw [hfirst, hsecond] at hact
          exact hact.elim
      | error exception' final' =>
          rw [hfirst, hsecond] at hact
          exact hact

/-- Reading the state: what is done with it has to end in the same way. -/
theorem alike_get {f : σ → EStateM ε σ β}
    (h : ∀ first second, related first second →
      Same related ((f first).run first) ((f second).run second)) :
    Alike related (get >>= f) :=
  h

end

end Stateful
