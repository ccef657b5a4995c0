import AgentGraphStudio.Lib.Program

/-!
# Two programs that race

Two programs over a shared state make their steps in the order of a schedule. The state answers
every operation. `Races.read_write` says how a race of two programs ends that read once and then
write once: one after the other, or with both reads before both writes.
-/

variable {Op : Type} {Res : Op → Type} {α β State : Type}

/-- From this state the programs, making their steps in the order of the schedule (`true` is a step
of the first one), come to these values and this state. -/
inductive Races (respond : (op : Op) → State → Res op × State) :
    Program Op Res α → Program Op Res β → State → List Bool → α → β → State → Prop where
  | done (value : α) (value' : β) (state : State) :
      Races respond (.done value) (.done value') state [] value value' state
  | first {op : Op} {next : Res op → Program Op Res α} {other : Program Op Res β}
      {state final : State} {schedule : List Bool} {value : α} {value' : β}
      (h : Races respond (next (respond op state).1) other (respond op state).2 schedule value
        value' final) :
      Races respond (.perform op next) other state (true :: schedule) value value' final
  | second {op : Op} {next : Res op → Program Op Res β} {other : Program Op Res α}
      {state final : State} {schedule : List Bool} {value : α} {value' : β}
      (h : Races respond other (next (respond op state).1) (respond op state).2 schedule value
        value' final) :
      Races respond other (.perform op next) state (false :: schedule) value value' final

/-- The value and the state of a program that makes its steps alone. A choice goes to one side. -/
def Program.alone (respond : (op : Op) → State → Res op × State) :
    Program Op Res α → State → α × State
  | .done value, state => (value, state)
  | .perform op next, state =>
    Program.alone respond (next (respond op state).1) (respond op state).2
  | .choose next, state => Program.alone respond (next true) state

/-- Whatever answers of this kind the program gets, it comes to a value of `post`. -/
def Program.YieldsFrom (answers : (op : Op) → Res op → Prop) (post : α → Prop) :
    Program Op Res α → Prop
  | .done value => post value
  | .perform op next => ∀ response, answers op response → YieldsFrom answers post (next response)
  | .choose next => ∀ choice, YieldsFrom answers post (next choice)

/-- A run of the program that comes to this value reads something that fits with one operation and
then writes with another, which depends on what it has read. -/
def ReadsThenWrites (program : Program Op Res α) (value : α) (read : Op) (fits : Res read → Prop)
    (write : Res read → Op) : Prop :=
  ∃ next, program = .perform read next ∧ ∀ response,
    (∃ events, Program.Run (next response) events (.done value)) →
      fits response ∧ next response = .perform (write response) fun _ => .done value

namespace Races

variable {respond : (op : Op) → State → Res op × State} {program : Program Op Res α}
  {other : Program Op Res β} {state final : State} {schedule : List Bool} {value : α} {value' : β}

/-- The race with the programs changed about. -/
theorem symm (h : Races respond program other state schedule value value' final) :
    Races respond other program state (schedule.map not) value' value final := by
  induction h with
  | done => exact .done _ _ _
  | first _ ih => exact .second ih
  | second _ ih => exact .first ih

/-- In a race, the first program makes a run of its own. -/
theorem run_first (h : Races respond program other state schedule value value' final) :
    ∃ events, Program.Run program events (.done value) := by
  induction h with
  | done => exact ⟨[], .refl _⟩
  | first _ ih =>
      obtain ⟨events, hrun⟩ := ih
      exact ⟨_, .perform hrun⟩
  | second _ ih => exact ih

/-- In a race, the second program makes a run of its own. -/
theorem run_second (h : Races respond program other state schedule value value' final) :
    ∃ events, Program.Run other events (.done value') := h.symm.run_first

/-- The state after an operation. -/
abbrev effect (respond : (op : Op) → State → Res op × State) (op : Op) (state : State) : State :=
  (respond op state).2

/-- What a program comes to, if its answers are those of states with an invariant. -/
theorem yields {invariant : State → Prop} (post : α → Prop)
    (hkeep : ∀ op state, invariant state → invariant (effect respond op state))
    (hprogram : program.YieldsFrom (fun op response =>
      ∃ state, invariant state ∧ response = (respond op state).1) post)
    (hstate : invariant state) (h : Races respond program other state schedule value value' final) :
    post value := by
  induction h with
  | done => exact hprogram
  | @first op _ _ state _ _ _ _ _ ih =>
      exact ih (hprogram _ ⟨state, hstate, rfl⟩) (hkeep op state hstate)
  | @second op _ _ state _ _ _ _ _ ih => exact ih hprogram (hkeep op state hstate)

/-- A program whose other one has come to its value goes on alone. -/
theorem of_done {written : α}
    (h : Races respond (.done written) other state schedule value value' final) :
    value = written ∧ (value', final) = other.alone respond state := by
  generalize hprogram : Program.done written = program at h
  induction h with
  | done =>
      cases hprogram
      exact ⟨rfl, rfl⟩
  | first => cases hprogram
  | second _ ih => exact ih hprogram

/-- A schedule with the programs changed about. -/
theorem eq_of_map_not {schedule other : List Bool} (h : schedule.map not = other) :
    schedule = other.map not := by
  have hnot : not ∘ not = id := funext Bool.not_not
  rw [← h, List.map_map, hnot, List.map_id]

/-- A program that has only to write comes to the value that it has then. -/
theorem value_of_write {op : Op} {written : α}
    (h : Races respond (.perform op fun _ => .done written) other state schedule value value'
      final) : value = written := by
  obtain ⟨events, hrun⟩ := h.run_first
  obtain ⟨_, _, _, hdone⟩ := (Program.run_perform_iff.mp hrun).resolve_left
    fun hstopped => by cases hstopped.2
  cases (Program.run_done_iff.mp hdone).2
  rfl

/-- Two programs that have only to write do so in either order. -/
theorem write_write {op op' : Op}
    (h : Races respond (.perform op fun _ => .done value) (.perform op' fun _ => .done value') state
      schedule value value' final) :
    (schedule = [true, false] ∧ final = effect respond op' (effect respond op state)) ∨
      (schedule = [false, true] ∧ final = effect respond op (effect respond op' state)) := by
  cases h with
  | first h =>
      cases h with
      | second h =>
          cases h
          exact .inl ⟨rfl, rfl⟩
  | second h =>
      cases h with
      | first h =>
          cases h
          exact .inr ⟨rfl, rfl⟩

section

variable {read read' : Op} {fits : Res read → Prop} {fits' : Res read' → Prop}
  {write : Res read → Op} {write' : Res read' → Op}

/-- A program that is left alone reads and writes. -/
theorem alone (hother : ReadsThenWrites other value' read' fits' write')
    (hread : ∀ state, effect respond read' state = state)
    (h : Races respond (.done value) other state schedule value value' final) :
    schedule = [false, false] ∧ fits' (respond read' state).1 ∧
      final = effect respond (write' (respond read' state).1) state := by
  obtain ⟨next, rfl, hwrite⟩ := hother
  cases h with
  | second h =>
      obtain ⟨hfits, hnext⟩ := hwrite _ h.run_second
      rw [show (respond read' state).2 = state from hread state, hnext] at h
      cases h with
      | second h =>
          cases h
          exact ⟨rfl, hfits, rfl⟩

/-- How a program that has only to write races with one that reads and then writes: it writes before
the other reads, between, or at the end. -/
theorem write_read {op : Op} (hother : ReadsThenWrites other value' read' fits' write')
    (hread : ∀ state, effect respond read' state = state)
    (h : Races respond (.perform op fun _ => .done value) other state schedule value value' final) :
    (schedule = [true, false, false] ∧ fits' (respond read' (effect respond op state)).1 ∧
      final = effect respond (write' (respond read' (effect respond op state)).1)
        (effect respond op state)) ∨
    (schedule = [false, true, false] ∧ fits' (respond read' state).1 ∧
      final = effect respond (write' (respond read' state).1) (effect respond op state)) ∨
    (schedule = [false, false, true] ∧ fits' (respond read' state).1 ∧
      final = effect respond op (effect respond (write' (respond read' state).1) state)) := by
  cases h with
  | first h =>
      obtain ⟨rfl, hfits, rfl⟩ := alone hother hread h
      exact .inl ⟨rfl, hfits, rfl⟩
  | second h =>
      obtain ⟨next, hnext, hwrite⟩ := hother
      cases hnext
      obtain ⟨hfits, hnext⟩ := hwrite _ h.run_second
      rw [show (respond read' state).2 = state from hread state, hnext] at h
      rcases write_write h with ⟨rfl, rfl⟩ | ⟨rfl, rfl⟩
      · exact .inr (.inl ⟨rfl, hfits, rfl⟩)
      · exact .inr (.inr ⟨rfl, hfits, rfl⟩)

/-- How a race of two programs ends that read and then write. -/
theorem read_write (hprogram : ReadsThenWrites program value read fits write)
    (hother : ReadsThenWrites other value' read' fits' write')
    (hread : ∀ state, effect respond read state = state)
    (hread' : ∀ state, effect respond read' state = state)
    (h : Races respond program other state schedule value value' final) :
    (schedule = [true, true, false, false] ∧ fits (respond read state).1 ∧
      fits' (respond read' (effect respond (write (respond read state).1) state)).1 ∧
      final = effect respond
        (write' (respond read' (effect respond (write (respond read state).1) state)).1)
        (effect respond (write (respond read state).1) state)) ∨
    (schedule = [false, false, true, true] ∧ fits' (respond read' state).1 ∧
      fits (respond read (effect respond (write' (respond read' state).1) state)).1 ∧
      final = effect respond
        (write (respond read (effect respond (write' (respond read' state).1) state)).1)
        (effect respond (write' (respond read' state).1) state)) ∨
    ((schedule = [true, false, true, false] ∨ schedule = [false, true, true, false]) ∧
      fits (respond read state).1 ∧ fits' (respond read' state).1 ∧
      final = effect respond (write' (respond read' state).1)
        (effect respond (write (respond read state).1) state)) ∨
    ((schedule = [true, false, false, true] ∨ schedule = [false, true, false, true]) ∧
      fits (respond read state).1 ∧ fits' (respond read' state).1 ∧
      final = effect respond (write (respond read state).1)
        (effect respond (write' (respond read' state).1) state)) := by
  cases h with
  | done =>
      obtain ⟨_, hnext, _⟩ := hprogram
      cases hnext
  | first h =>
      obtain ⟨next, hnext, hwrite⟩ := hprogram
      cases hnext
      obtain ⟨hfits, hnext⟩ := hwrite _ h.run_first
      rw [show (respond read state).2 = state from hread state, hnext] at h
      rcases write_read hother hread' h with ⟨rfl, hfits', rfl⟩ | ⟨rfl, hfits', rfl⟩ |
        ⟨rfl, hfits', rfl⟩
      · exact .inl ⟨rfl, hfits, hfits', rfl⟩
      · exact .inr (.inr (.inl ⟨.inl rfl, hfits, hfits', rfl⟩))
      · exact .inr (.inr (.inr ⟨.inl rfl, hfits, hfits', rfl⟩))
  | second h =>
      obtain ⟨next, hnext, hwrite⟩ := hother
      cases hnext
      obtain ⟨hfits', hnext⟩ := hwrite _ h.run_second
      rw [show (respond read' state).2 = state from hread' state, hnext] at h
      -- The same with the programs changed about.
      rcases write_read hprogram hread h.symm with ⟨hrest, hfits, rfl⟩ | ⟨hrest, hfits, rfl⟩ |
        ⟨hrest, hfits, rfl⟩
      · exact .inr (.inl ⟨congrArg (false :: ·) (eq_of_map_not hrest), hfits', hfits, rfl⟩)
      · exact .inr (.inr (.inr
          ⟨.inr (congrArg (false :: ·) (eq_of_map_not hrest)), hfits, hfits', rfl⟩))
      · exact .inr (.inr (.inl
          ⟨.inr (congrArg (false :: ·) (eq_of_map_not hrest)), hfits, hfits', rfl⟩))

end

end Races
