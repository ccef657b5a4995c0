import Mathlib.Logic.Function.Iterate
import AgentGraphStudio.Execution.ActRuns
import AgentGraphStudio.Api.ConnectionCoverage
import AgentGraphStudio.Nodes.LoopValidation

/-!
# What a loop computes

A run of `executeLoop` that came to its end is a sequence of iterations (`LoopRun`), each of them
a run of the configured sub-graph with a value seeded into its entry node.
`loop_characterised` says which sequence: the first iteration is seeded with the input, every
other one with the result before it, and the last one is the first whose trace has the stop slot,
or the last that is allowed.
-/

namespace AgentGraphStudio

open Act (runs_bind_iff runs_pure_iff runs_perform_bind_iff runs_ofExcept_bind_iff)

variable {Body : Type}

/-! ## Iterations -/

/-- An iteration that gave a value: what its entry node was seeded with, what was performed, what
the run of the sub-graph returned, and the value. -/
structure LoopIteration where
  seed : Json
  events : History
  result : RunResult
  value : Json

/-- How the iterations ended. -/
inductive LoopEnd where
  | finished (value : Json)
  | runFailed (raised : Raised)
  | notOneResult (found : Nat)

/-- Every iteration gave one value. -/
def LoopEnd.Undisturbed : LoopEnd → Prop
  | .finished _ => True
  | .runFailed _ | .notOneResult _ => False

/-- What an exception of an iteration becomes. -/
def iterationFailure : Raised → Raised :=
  Raised.rephrase fun e => s!"loop iteration failed: {e}"

/-- What the end of the iterations means for the body. -/
def LoopEnd.outcome (childTraces : List (List TraceRecord)) : LoopEnd → Except Raised NodeResult
  | .finished value =>
    .ok { outputs := .ofList [("value", value)], childTraces := some childTraces }
  | .runFailed raised => .error (iterationFailure raised)
  | .notOneResult found =>
    .error (.exception s!"loop sub_graph must produce exactly one result value, got {found}")

/-- A loop that returns was not disturbed. -/
theorem LoopEnd.undisturbed_of_ok {childTraces : List (List TraceRecord)} {result : NodeResult}
    {ended : LoopEnd} (h : ended.outcome childTraces = .ok result) : ended.Undisturbed := by
  cases ended with
  | finished value => trivial
  | runFailed raised => cases h
  | notOneResult found => cases h

section

variable (registry : NodeRegistry Body) (recurse : Body → ExecutionContext → Act NodeResult)
  (config : LoopConfig) (entryNodeId : String) (resources : Resources)

/-- The sub-graph was run with this seed in its entry node. -/
def RunsSeeded (seed : Json) (events : History) (outcome : Except Raised RunResult) : Prop :=
  (runSubGraph registry recurse (iterationGraph config.subGraph entryNodeId seed)
    resources).Runs events outcome

/-- Did the stop slot fire in this iteration? -/
def LoopIteration.Stops (iteration : LoopIteration) : Prop :=
  stopFired config.stopConditionSlot iteration.result.trace = true

/-- The iterations of a loop from a value on, at most so many, with what was performed and how
they ended. -/
inductive LoopRun : Nat → Json → List LoopIteration → History → LoopEnd → Prop where
  | exhausted (value : Json) : LoopRun 0 value [] [] (.finished value)
  | runFailed {iterations : Nat} {value : Json} {events : History} {raised : Raised}
      (hran : RunsSeeded registry recurse config entryNodeId resources value events
        (.error raised)) :
      LoopRun (iterations + 1) value [] events (.runFailed raised)
  | notOneResult {iterations : Nat} {value : Json} {events : History} {result : RunResult}
      (hran : RunsSeeded registry recurse config entryNodeId resources value events (.ok result))
      (hresult : result.result.values.length ≠ 1) :
      LoopRun (iterations + 1) value [] events (.notOneResult result.result.values.length)
  | stopped {iterations : Nat} {iteration : LoopIteration}
      (hran : RunsSeeded registry recurse config entryNodeId resources iteration.seed
        iteration.events (.ok iteration.result))
      (hresult : iteration.result.result.values = [iteration.value])
      (hstops : iteration.Stops config) :
      LoopRun (iterations + 1) iteration.seed [iteration] iteration.events
        (.finished iteration.value)
  | again {iterations : Nat} {iteration : LoopIteration} {rest : List LoopIteration}
      {events : History} {ended : LoopEnd}
      (hran : RunsSeeded registry recurse config entryNodeId resources iteration.seed
        iteration.events (.ok iteration.result))
      (hresult : iteration.result.result.values = [iteration.value])
      (hstops : ¬ iteration.Stops config)
      (hrest : LoopRun iterations iteration.value rest events ended) :
      LoopRun (iterations + 1) iteration.seed (iteration :: rest) (iteration.events ++ events)
        ended

end

section

variable {registry : NodeRegistry Body} {recurse : Body → ExecutionContext → Act NodeResult}
  {config : LoopConfig} {entryNodeId : String} {resources : Resources}

/-- Every run of the iterations is such a sequence. -/
theorem loop_iterations_runs {iterations : Nat} {value : Json}
    {childTraces : List (List TraceRecord)} {events : History}
    {outcome : Except Raised NodeResult}
    (h : (loopIterations registry recurse config entryNodeId resources iterations value
      childTraces).Runs events outcome) :
    ∃ made ended, LoopRun registry recurse config entryNodeId resources iterations value made
        events ended ∧
      outcome = ended.outcome
        (childTraces ++ made.map fun iteration => iteration.result.trace) := by
  induction iterations generalizing value childTraces events with
  | zero =>
      obtain ⟨rfl, rfl⟩ := runs_pure_iff.mp h
      refine ⟨[], _, .exhausted value, ?_⟩
      rw [List.map_nil, List.append_nil]
      rfl
  | succ iterations ih =>
      rcases runs_bind_iff.mp h with ⟨raised, hraised, rfl⟩
        | ⟨first, result, rest, rfl, hfirst, hrest⟩
      -- The sub-graph of this iteration failed, and so does the loop, whatever was raised.
      · obtain ⟨ended, hended, hsame⟩ := Act.runs_rephrase_iff.mp hraised
        cases ended with
        | ok result => cases hsame
        | error raised =>
            cases hsame
            exact ⟨[], _, .runFailed hended, rfl⟩
      · obtain ⟨ended, hended, hsame⟩ := Act.runs_rephrase_iff.mp hfirst
        cases ended with
        | error raised => cases hsame
        | ok result =>
            cases hsame
            dsimp only at hrest
            split at hrest
            · rename_i next hvalues
              split at hrest
              · rename_i hstops
                obtain ⟨rfl, rfl⟩ := runs_pure_iff.mp hrest
                rw [List.append_nil]
                exact ⟨_, .finished next, @LoopRun.stopped _ _ _ _ _ _ _
                  ⟨value, first, result, next⟩ hended hvalues hstops, rfl⟩
              · rename_i hstops
                obtain ⟨made, ended, hmade, rfl⟩ := ih hrest
                refine ⟨_, ended, @LoopRun.again _ _ _ _ _ _ _
                  ⟨value, first, result, next⟩ _ _ _ hended hvalues hstops hmade, ?_⟩
                rw [List.map_cons, List.append_assoc]
                rfl
            · rename_i hvalues
              obtain ⟨rfl, rfl⟩ := Act.runs_raise_iff.mp hrest
              rw [List.append_nil]
              refine ⟨[], _, .notOneResult hended fun hone => ?_, rfl⟩
              obtain ⟨next, hnext⟩ := List.length_eq_one_iff.mp hone
              exact hvalues next hnext

/-! ## Which iterations there are -/

/-- What the iterations of a loop are meant to be, from a value on. -/
structure Iterates (registry : NodeRegistry Body)
    (recurse : Body → ExecutionContext → Act NodeResult) (config : LoopConfig)
    (entryNodeId : String) (resources : Resources) (iterations : Nat) (initial : Json)
    (made : List LoopIteration) (final : Json) : Prop where
  ran : ∀ iteration ∈ made, RunsSeeded registry recurse config entryNodeId resources
    iteration.seed iteration.events (.ok iteration.result)
  one_result : ∀ iteration ∈ made, iteration.result.result.values = [iteration.value]
  first_seed : ∀ iteration, made[0]? = some iteration → iteration.seed = initial
  next_seed : ∀ index iteration next, made[index]? = some iteration →
    made[index + 1]? = some next → next.seed = iteration.value
  final_value : ∀ iteration, made.getLast? = some iteration → final = iteration.value
  goes_on : ∀ index iteration, made[index]? = some iteration → index + 1 < made.length →
    ¬ iteration.Stops config
  comes_to_end : made.length = iterations ∨
    ∃ iteration, made.getLast? = some iteration ∧ iteration.Stops config
  length_le : made.length ≤ iterations
  iterate : ∀ step : Json → Json, (∀ iteration ∈ made, iteration.value = step iteration.seed) →
    final = step^[made.length] initial

/-- One more iteration before the others. -/
theorem Iterates.cons {iterations : Nat} {iteration : LoopIteration} {rest : List LoopIteration}
    {final : Json}
    (h : Iterates registry recurse config entryNodeId resources iterations iteration.value rest
      final)
    (hran : RunsSeeded registry recurse config entryNodeId resources iteration.seed
      iteration.events (.ok iteration.result))
    (hresult : iteration.result.result.values = [iteration.value])
    (hstops : ¬ iteration.Stops config) (hrest : rest = [] → final = iteration.value) :
    Iterates registry recurse config entryNodeId resources (iterations + 1) iteration.seed
      (iteration :: rest) final where
  ran := List.forall_mem_cons.mpr ⟨hran, h.ran⟩
  one_result := List.forall_mem_cons.mpr ⟨hresult, h.one_result⟩
  first_seed other hother := by
    cases hother
    rfl
  next_seed index other next hother hnext := by
    cases index with
    | zero =>
        cases hother
        exact h.first_seed next hnext
    | succ index => exact h.next_seed index other next hother hnext
  final_value other hother := by
    cases rest with
    | nil =>
        cases hother
        exact hrest rfl
    | cons next rest => exact h.final_value other hother
  goes_on index other hother hindex := by
    cases index with
    | zero =>
        cases hother
        exact hstops
    | succ index =>
        exact h.goes_on index other hother (by simpa using hindex)
  comes_to_end := by
    rcases h.comes_to_end with hlength | ⟨last, hlast, hlastStops⟩
    · exact .inl (by rw [List.length_cons, hlength])
    · refine .inr ⟨last, ?_, hlastStops⟩
      cases rest with
      | nil => cases hlast
      | cons next rest => exact hlast
  length_le := Nat.succ_le_succ h.length_le
  iterate step hstep := by
    rw [List.forall_mem_cons] at hstep
    rw [List.length_cons, Function.iterate_succ_apply, ← hstep.1]
    exact h.iterate step hstep.2

/-- A loop without iterations. -/
theorem Iterates.nil (value : Json) :
    Iterates registry recurse config entryNodeId resources 0 value [] value where
  ran iteration hiteration := absurd hiteration List.not_mem_nil
  one_result iteration hiteration := absurd hiteration List.not_mem_nil
  first_seed iteration hiteration := by cases hiteration
  next_seed index iteration next hiteration _ := by cases hiteration
  final_value iteration hiteration := by cases hiteration
  goes_on index iteration hiteration _ := by cases hiteration
  comes_to_end := .inl rfl
  length_le := le_refl _
  iterate step _ := rfl

/-- The last iteration, in which the stop slot fired. -/
theorem Iterates.last {iterations : Nat} {iteration : LoopIteration}
    (hran : RunsSeeded registry recurse config entryNodeId resources iteration.seed
      iteration.events (.ok iteration.result))
    (hresult : iteration.result.result.values = [iteration.value])
    (hstops : iteration.Stops config) :
    Iterates registry recurse config entryNodeId resources (iterations + 1) iteration.seed
      [iteration] iteration.value where
  ran := List.forall_mem_singleton.mpr hran
  one_result := List.forall_mem_singleton.mpr hresult
  first_seed other hother := by
    cases hother
    rfl
  next_seed index other next _ hnext := by cases hnext
  final_value other hother := by
    cases hother
    rfl
  goes_on index other hother hindex := by
    rw [List.length_singleton] at hindex
    omega
  comes_to_end := .inr ⟨iteration, rfl, hstops⟩
  length_le := Nat.succ_le_succ (Nat.zero_le _)
  iterate step hstep := hstep iteration List.mem_cons_self

/-- Iterations that end with a value are as they are meant to be. -/
theorem loop_run_iterates {iterations : Nat} {value final : Json} {made : List LoopIteration}
    {events : History} {ended : LoopEnd}
    (h : LoopRun registry recurse config entryNodeId resources iterations value made events ended)
    (hended : ended = .finished final) :
    Iterates registry recurse config entryNodeId resources iterations value made final ∧
      (made = [] → final = value) := by
  induction h with
  | exhausted value =>
      cases hended
      exact ⟨.nil _, fun _ => rfl⟩
  | runFailed hran => cases hended
  | notOneResult hran hresult => cases hended
  | stopped hran hresult hstops =>
      cases hended
      exact ⟨.last hran hresult hstops, fun hnil => by cases hnil⟩
  | again hran hresult hstops hrest ih =>
      obtain ⟨hrest, hnone⟩ := ih hended
      exact ⟨hrest.cons hran hresult hstops hnone, fun hnil => by cases hnil⟩

end

/-! ## The body -/

section

variable (registry : NodeRegistry Body) (recurse : Body → ExecutionContext → Act NodeResult)
  (ctx : ExecutionContext)

/-- What keeps a loop from its first iteration. -/
inductive LoopRefused : Prop where
  | config (message : String) (h : LoopConfig.parse ctx.node.config = .error message)
  | subGraph (config : LoopConfig) (store : ConnectionStore) (issues : List ValidationIssue)
      (hconfig : LoopConfig.parse ctx.node.config = .ok config)
      (h : preCheck registry config store = .error issues)
  | entry (config : LoopConfig) (raised : Raised)
      (hconfig : LoopConfig.parse ctx.node.config = .ok config)
      (h : findEntryNodeId config.subGraph = .error raised)
  | value (raised : Raised) (h : ctx.inputs.get "value" = .error raised)

/-- A run of a loop whose sub-graph was accepted: its iterations, in the order of what was
performed. -/
structure LoopTranscript (events : History) (outcome : Except Raised NodeResult) where
  config : LoopConfig
  store : ConnectionStore
  entryNodeId : String
  initial : Json
  iterating : History
  made : List LoopIteration
  ended : LoopEnd
  parsed : LoopConfig.parse ctx.node.config = .ok config
  accepted : preCheck registry config store = .ok ()
  entered : findEntryNodeId config.subGraph = .ok entryNodeId
  given : ctx.inputs.get "value" = .ok initial
  events_eq : events = ⟨.readConnections, store⟩ :: iterating
  iterations : LoopRun registry recurse config entryNodeId ctx.resources
    config.maxIterations.toNat initial made iterating ended
  outcome_eq : outcome = ended.outcome (made.map fun iteration => iteration.result.trace)

end

/-- The cap of a loop is positive. -/
theorem loop_config_max_pos {config : Config} {loop : LoopConfig}
    (h : LoopConfig.parse config = .ok loop) : 1 ≤ loop.maxIterations := by
  unfold LoopConfig.parse at h
  split at h
  · cases h
  obtain ⟨subGraph, _, hmax⟩ := except_bind_eq_ok.mp h
  obtain ⟨maxIterations, hpositive, hslot⟩ := except_bind_eq_ok.mp hmax
  obtain ⟨stopConditionSlot, _, hloop⟩ := except_bind_eq_ok.mp hslot
  cases hloop
  exact Config.positive_pos hpositive

/-- A loop with an accepted sub-graph that has one `text_input` runs it again and again. If every
iteration gives one value, the first is seeded with the input and every other one with the value
before it, always in the sub-graph as it was configured; the last one is the first whose trace
has the stop slot, or the last that `max_iterations` allows, and its value is returned with the
traces of all. -/
theorem loop_characterised {registry : NodeRegistry Body}
    {recurse : Body → ExecutionContext → Act NodeResult} {ctx : ExecutionContext}
    {events : History} {outcome : Except Raised NodeResult}
    (hrun : (executeLoop registry recurse ctx).Runs events outcome) :
    (∃ raised, outcome = .error raised ∧ LoopRefused registry ctx) ∨
    ∃ transcript : LoopTranscript registry recurse ctx events outcome,
      1 ≤ transcript.config.maxIterations ∧
      (transcript.ended.Undisturbed → ∃ final,
        outcome = .ok
          { outputs := .ofList [("value", final)]
            childTraces := some (transcript.made.map fun iteration => iteration.result.trace) } ∧
        Iterates registry recurse transcript.config transcript.entryNodeId ctx.resources
          transcript.config.maxIterations.toNat transcript.initial transcript.made final) := by
  rcases runs_ofExcept_bind_iff.mp hrun with ⟨raised, hraised, rfl, rfl⟩ | ⟨config, hconfig, hread⟩
  · cases hparse : LoopConfig.parse ctx.node.config with
    | error message => exact .inl ⟨raised, rfl, .config message hparse⟩
    | ok config =>
        rw [hparse] at hraised
        cases hraised
  -- The configuration is valid; the graph is checked before the first iteration.
  have hparsed := validated_eq_ok hconfig
  obtain ⟨store, iterating, rfl, hchecked⟩ := runs_perform_bind_iff.mp hread
  cases hcheck : preCheck registry config store with
  | error issues =>
      rw [hcheck] at hchecked
      obtain ⟨_, rfl⟩ := Act.runs_raise_iff.mp hchecked
      exact .inl ⟨_, rfl, .subGraph config store issues hparsed hcheck⟩
  | ok checked =>
      rw [hcheck] at hchecked
      rcases runs_ofExcept_bind_iff.mp hchecked with
        ⟨raised, hentry, _, rfl⟩ | ⟨entryNodeId, hentry, hentered⟩
      · exact .inl ⟨raised, rfl, .entry config raised hparsed hentry⟩
      rcases runs_ofExcept_bind_iff.mp hentered with
        ⟨raised, hvalue, _, rfl⟩ | ⟨initial, hvalue, hiterated⟩
      · exact .inl ⟨raised, rfl, .value raised hvalue⟩
      obtain ⟨made, ended, hmade, houtcome⟩ := loop_iterations_runs hiterated
      rw [List.nil_append] at houtcome
      refine .inr ⟨⟨config, store, entryNodeId, initial, iterating, made, ended, hparsed, hcheck,
        hentry, hvalue, rfl, hmade, houtcome⟩, loop_config_max_pos hparsed, fun hended => ?_⟩
      cases ended with
      | finished final => exact ⟨final, houtcome, (loop_run_iterates hmade rfl).1⟩
      | runFailed raised => exact hended.elim
      | notOneResult found => exact hended.elim

/-! ### A loop that shouts -/

/-- A sub-graph that turns its text into capitals. -/
def shoutSubGraph : Json :=
  .obj [("version", .str "1.0"),
    ("nodes", .arr [
      .obj [("id", .str "start"), ("type", .str "text_input"),
        ("config", .obj [("value", .str "")])],
      .obj [("id", .str "shout"), ("type", .str "uppercase_text")],
      .obj [("id", .str "end"), ("type", .str "text_output")]]),
    ("edges", .arr [
      .obj [("from", .obj [("node", .str "start"), ("slot", .str "text")]),
        ("to", .obj [("node", .str "shout"), ("slot", .str "text")])],
      .obj [("from", .obj [("node", .str "shout"), ("slot", .str "text")]),
        ("to", .obj [("node", .str "end"), ("slot", .str "text")])]])]

/-- A loop around it, of two iterations. -/
def shoutContext : ExecutionContext where
  node := { id := "again", type := "loop"
            config := .ofList [("sub_graph", shoutSubGraph), ("max_iterations", .int 2)] }
  inputs := .dict (.ofList [("value", .str "hello")])
  resources := {}

set_option maxRecDepth 40000 in
/-- Both iterations of the loop give a value. -/
theorem shouting_loop_characterised : ∃ events result, ∃ transcript : LoopTranscript
    anthropicEnvironment.registry (execute anthropicEnvironment 2) shoutContext events (.ok result),
    ∃ final, Iterates anthropicEnvironment.registry (execute anthropicEnvironment 2)
      transcript.config transcript.entryNodeId shoutContext.resources
      transcript.config.maxIterations.toNat transcript.initial transcript.made final := by
  have hrun : ∃ events result, (executeLoop anthropicEnvironment.registry
      (execute anthropicEnvironment 2) shoutContext).Runs events (.ok result) :=
    ⟨_, _, Program.ends_play (helloAnswers [])
      (executeLoop anthropicEnvironment.registry (execute anthropicEnvironment 2)
        shoutContext).run⟩
  obtain ⟨events, result, hends⟩ := hrun
  rcases loop_characterised hends with ⟨_, hcontra, _⟩ | ⟨transcript, _, hiterates⟩
  · cases hcontra
  · obtain ⟨final, _, hfinal⟩ := hiterates (LoopEnd.undisturbed_of_ok transcript.outcome_eq.symm)
    exact ⟨events, result, transcript, final, hfinal⟩

end AgentGraphStudio
