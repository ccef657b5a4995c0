import AgentGraphStudio.Nodes.AgentTurns
import AgentGraphStudio.Nodes.AgentWindow

/-!
# What an agent does for a script of responses

`AgentGraphStudio.Nodes.AgentTurns` says which turns a run of an agent has. Here the responses of
the model are a script, and `agent_loop_characterised` says what becomes of it: how many of the
responses the agent asks for, after which one it reminds the model of its tools, whether it
returns, and what it returns.
-/

namespace AgentGraphStudio

variable {Body : Type}

/-! ## Scripts -/

/-- The model answers with this script. -/
def Follows (script : Nat → ToolCallResponse) (turns : List AgentTurn) : Prop :=
  ∀ index turn, turns[index]? = some turn → turn.response = script index

/-- A response is the first one without tool calls, no tool was called before it, and there are
tools. -/
structure Nudged (setup : AgentSetup) (script : Nat → ToolCallResponse) (turn : Nat) : Prop where
  connected : setup.toolDefinitions ≠ []
  free : (script turn).toolCalls = []
  first : ∀ earlier < turn, (script earlier).toolCalls ≠ []
  unused : ∀ earlier < turn, (script earlier).toolCalls = []

/-- A response without tool calls that is not answered by the nudge. -/
def Final (setup : AgentSetup) (script : Nat → ToolCallResponse) (turn : Nat) : Prop :=
  (script turn).toolCalls = [] ∧ ¬ Nudged setup script turn

/-- The turn ends with the nudge. -/
def AgentTurn.Nudges (turn : AgentTurn) : Prop :=
  turn.extended =
    turn.conversation ++ [.assistant (turn.response.text.getD "") none, toolCallNudge]

/-- The variables of the loop tell which responses there were. -/
structure Tracks (setup : AgentSetup) (script : Nat → ToolCallResponse) (turn : Nat)
    (state : AgentState) : Prop where
  called : state.toolsEverCalled = true ↔ ∃ earlier < turn, (script earlier).toolCalls ≠ []
  nudged : state.toolCallNudgeUsed = true ↔ ∃ earlier < turn, Nudged setup script earlier

namespace Tracks

variable {setup : AgentSetup} {script : Nat → ToolCallResponse} {turn : Nat} {state : AgentState}

/-- The conditions for a reminder are those for the nudge. -/
theorem reminds_iff (h : Tracks setup script turn state) (hfree : (script turn).toolCalls = []) :
    state.Reminds setup ↔ Nudged setup script turn := by
  have hconnected : ¬ setup.toolDefinitions.isEmpty = true ↔ setup.toolDefinitions ≠ [] := by
    rw [List.isEmpty_iff]
  unfold AgentState.Reminds
  rw [hconnected, h.called, h.nudged]
  constructor
  · rintro ⟨htools, huncalled, hunused⟩
    have hnever : ∀ earlier < turn, (script earlier).toolCalls = [] := fun earlier hearlier =>
      not_not.mp fun hcalls => huncalled ⟨earlier, hearlier, hcalls⟩
    refine ⟨htools, hfree, fun earlier hearlier hnil => hunused ?_, hnever⟩
    -- The very first response was free as well, and so it was the one that got the nudge.
    refine ⟨0, by omega, htools, hnever 0 (by omega), ?_, ?_⟩
    · intro before hbefore
      omega
    · intro before hbefore
      omega
  · rintro ⟨htools, _, hfirst, hunused⟩
    refine ⟨htools, ?_, ?_⟩
    · rintro ⟨earlier, hearlier, hcalls⟩
      exact hcalls (hunused earlier hearlier)
    · rintro ⟨earlier, hearlier, hnudged⟩
      exact hfirst earlier hearlier hnudged.free

theorem remind (h : Tracks setup script turn state) (hnudged : Nudged setup script turn)
    (response : ToolCallResponse) : Tracks setup script (turn + 1) (state.remind response) where
  called := by
    refine h.called.trans ⟨?_, ?_⟩
    · rintro ⟨earlier, hearlier, hcalls⟩
      exact ⟨earlier, by omega, hcalls⟩
    · rintro ⟨earlier, hearlier, hcalls⟩
      refine ⟨earlier, ?_, hcalls⟩
      have hne : earlier ≠ turn := fun heq => hcalls (heq ▸ hnudged.free)
      omega
  nudged := ⟨fun _ => ⟨turn, by omega, hnudged⟩, fun _ => rfl⟩

theorem request (h : Tracks setup script turn state) (hcalls : (script turn).toolCalls ≠ [])
    (response : ToolCallResponse) (tools : List ToolRun) :
    Tracks setup script (turn + 1) ((state.request response).record tools) where
  called := ⟨fun _ => ⟨turn, by omega, hcalls⟩, fun _ => rfl⟩
  nudged := by
    refine h.nudged.trans ⟨?_, ?_⟩
    · rintro ⟨earlier, hearlier, hnudged⟩
      exact ⟨earlier, by omega, hnudged⟩
    · rintro ⟨earlier, hearlier, hnudged⟩
      refine ⟨earlier, ?_, hnudged⟩
      have hne : earlier ≠ turn := fun heq => hcalls (heq ▸ hnudged.free)
      omega

end Tracks

/-- The child traces of an agent's result. -/
def tracesOf (childTraces : List (List TraceRecord)) : Option (List (List TraceRecord)) :=
  if childTraces.isEmpty then none else some childTraces

/-- Neither a model call nor a tool call ended the loop with an exception. -/
def AgentEnd.Undisturbed : AgentEnd → Prop
  | .returned _ | .exceeded => True
  | .modelFailed _ | .toolRaised _ _ => False

section

variable (setup : AgentSetup) (script : Nat → ToolCallResponse)

/-- The turns from one on do with a script what the loop is meant to do. -/
structure KeepsTo (start turns : Nat) (made : List AgentTurn) (ended : AgentEnd) : Prop where
  nudges : ∀ index turn, made[index]? = some turn →
    (turn.Nudges ↔ Nudged setup script (start + index))
  returned : ∀ result, ended = .returned result →
    ∃ index, index < turns ∧ Final setup script (start + index)
  exceeded : ended = .exceeded → ∀ index < turns, ¬ Final setup script (start + index)

end

section

variable {python : Python} {registry : NodeRegistry Body}
  {recurse : Body → ExecutionContext → Act NodeResult} {resources : Resources}
  {setup : AgentSetup} {script : Nat → ToolCallResponse} {turns start : Nat}
  {state : AgentState} {made : List AgentTurn} {events : History} {ended : AgentEnd}

namespace KeepsTo

/-- One more turn before the others. -/
theorem cons {turn : AgentTurn} (h : KeepsTo setup script (start + 1) turns made ended)
    (hturn : turn.Nudges ↔ Nudged setup script start) (hgoes : ¬ Final setup script start) :
    KeepsTo setup script start (turns + 1) (turn :: made) ended where
  nudges index other hother := by
    cases index with
    | zero =>
        cases hother
        exact hturn
    | succ index =>
        rw [show start + (index + 1) = start + 1 + index from by omega]
        exact h.nudges index other hother
  returned result hresult := by
    obtain ⟨index, hindex, hfinal⟩ := h.returned result hresult
    refine ⟨index + 1, by omega, ?_⟩
    rwa [show start + (index + 1) = start + 1 + index from by omega]
  exceeded hexceeded index hindex := by
    cases index with
    | zero => exact hgoes
    | succ index =>
        rw [show start + (index + 1) = start + 1 + index from by omega]
        exact h.exceeded hexceeded index (by omega)

end KeepsTo

/-- A turn whose answer calls tools does not end with the nudge. -/
theorem not_nudges_of_called {asking : History} {response : ToolCallResponse}
    {tools : List ToolRun} :
    ¬ AgentTurn.Nudges ⟨state.messages, asking, response, tools,
      ((state.request response).record tools).messages⟩ := by
  intro h
  have hextended : state.messages ++
    [.assistant (response.text.getD "") (some response.toolCalls)] ++
      tools.map ToolRun.message =
      state.messages ++ [.assistant (response.text.getD "") none, toolCallNudge] := h
  rw [List.append_assoc, List.append_cancel_left_eq] at hextended
  cases hextended

/-- A turn that returns does not end with the nudge. -/
theorem not_nudges_of_returned {conversation : List Message} {asking : History}
    {response : ToolCallResponse} {tools : List ToolRun} :
    ¬ AgentTurn.Nudges ⟨conversation, asking, response, tools, conversation⟩ := by
  intro h
  have hextended : conversation =
      conversation ++ [.assistant (response.text.getD "") none, toolCallNudge] := h
  have hlength := congrArg List.length hextended
  rw [List.length_append, List.length_cons] at hlength
  omega

/-- The rest of the turns, seen from the next turn on. -/
theorem follows_tail {turn : AgentTurn}
    (h : ∀ index other, (turn :: made)[index]? = some other →
      other.response = script (start + index)) :
    turn.response = script start ∧ ∀ index other, made[index]? = some other →
      other.response = script (start + 1 + index) := by
  refine ⟨h 0 turn rfl, fun index other hother => ?_⟩
  rw [show start + 1 + index = start + (index + 1) from by omega]
  exact h (index + 1) other hother

/-- The loop keeps to what it is meant to do. -/
theorem agent_run_keeps_to
    (h : AgentRun python registry recurse resources setup turns state made events ended)
    (htracks : Tracks setup script start state)
    (hfollows : ∀ index turn, made[index]? = some turn →
      turn.response = script (start + index)) :
    KeepsTo setup script start turns made ended := by
  -- By the turns: each case moves the script on by the response of its turn.
  induction h generalizing start with
  | exceeded state =>
      refine ⟨fun index turn hturn => ?_, fun result hresult => ?_, fun _ index hindex => ?_⟩
      · cases hturn
      · cases hresult
      · omega
  | modelFailed hasked =>
      refine ⟨fun index turn hturn => ?_, fun result hresult => ?_, fun hexceeded => ?_⟩
      · cases hturn
      · cases hresult
      · cases hexceeded
  | @returned turns state asking response hasked hfree hreminds =>
      obtain ⟨hresponse, -⟩ := follows_tail hfollows
      have hfree : (script start).toolCalls = [] := hresponse ▸ hfree
      have hfinal : ¬ Nudged setup script start := fun hnudged =>
        hreminds ((htracks.reminds_iff hfree).mpr hnudged)
      refine ⟨fun index turn hturn => ?_, fun result hresult => ?_, fun hexceeded => ?_⟩
      · cases index with
        | zero =>
            cases hturn
            exact ⟨fun hnudges => absurd hnudges not_nudges_of_returned,
              fun hnudged => absurd hnudged hfinal⟩
        | succ index => cases hturn
      · exact ⟨0, by omega, hfree, hfinal⟩
      · cases hexceeded
  | @reminded turns state asking events response rest ended hasked hfree hreminds hrest ih =>
      obtain ⟨hresponse, htail⟩ := follows_tail hfollows
      have hfree : (script start).toolCalls = [] := hresponse ▸ hfree
      have hnudged := (htracks.reminds_iff hfree).mp hreminds
      refine (ih (htracks.remind hnudged response) htail).cons ⟨fun _ => hnudged, fun _ => rfl⟩ ?_
      exact fun hfinal => hfinal.2 hnudged
  | @called turns state asking acting events response tools rest ended hasked hcalls htools
      hcompleted hactive hrest ih =>
      obtain ⟨hresponse, htail⟩ := follows_tail hfollows
      have hcalls : (script start).toolCalls ≠ [] := hresponse ▸ hcalls
      refine (ih (htracks.request hcalls response tools) htail).cons ?_ fun hfinal =>
        hcalls hfinal.1
      exact ⟨fun hnudges => absurd hnudges not_nudges_of_called,
        fun hnudged => absurd hnudged.free hcalls⟩
  | @toolRaised turns state asking acting last response tools call more raised hasked htools
      hcompleted hactive hraises =>
      obtain ⟨hresponse, -⟩ := follows_tail hfollows
      have hcalls : (script start).toolCalls ≠ [] := by
        rw [← hresponse]
        show response.toolCalls ≠ []
        simp [htools]
      refine ⟨fun index turn hturn => ?_, fun result hresult => ?_, fun hexceeded => ?_⟩
      · cases index with
        | zero =>
            cases hturn
            exact ⟨fun hnudges => absurd hnudges not_nudges_of_called,
              fun hnudged => absurd hnudged.free hcalls⟩
        | succ index => cases hturn
      · cases hresult
      · cases hexceeded

/-- There are at most so many turns. -/
theorem agent_run_length
    (h : AgentRun python registry recurse resources setup turns state made events ended) :
    made.length ≤ turns := by
  induction h with
  | exceeded state => exact le_refl _
  | modelFailed hasked => exact Nat.zero_le _
  | returned hasked hfree hreminds => exact Nat.succ_le_succ (Nat.zero_le _)
  | reminded hasked hfree hreminds hrest ih => exact Nat.succ_le_succ ih
  | called hasked hcalls htools hcompleted hactive hrest ih => exact Nat.succ_le_succ ih
  | toolRaised hasked htools hcompleted hactive hraises => exact Nat.succ_le_succ (Nat.zero_le _)

/-- What a result says about the turns from these variables on. -/
structure Totals (state : AgentState) (made : List AgentTurn) (result : NodeResult) : Prop where
  inputTokens : result.tokenCost.inputTokens =
    state.inputTokens + (made.map fun turn => turn.response.inputTokens).sum
  outputTokens : result.tokenCost.outputTokens =
    state.outputTokens + (made.map fun turn => turn.response.outputTokens).sum
  childTraces : result.childTraces = tracesOf (state.childTraces ++
    made.flatMap fun turn => turn.tools.map fun run => [run.record])

/-- One more turn before the others. -/
theorem Totals.cons {next : AgentState} {turn : AgentTurn} {result : NodeResult}
    (h : Totals next made result)
    (hinput : next.inputTokens = state.inputTokens + turn.response.inputTokens)
    (houtput : next.outputTokens = state.outputTokens + turn.response.outputTokens)
    (htraces : next.childTraces =
      state.childTraces ++ turn.tools.map fun run => [run.record]) :
    Totals state (turn :: made) result where
  inputTokens := by
    rw [h.inputTokens, hinput, List.map_cons, List.sum_cons]
    omega
  outputTokens := by
    rw [h.outputTokens, houtput, List.map_cons, List.sum_cons]
    omega
  childTraces := by rw [h.childTraces, htraces, List.flatMap_cons, List.append_assoc]

/-- The result sums up all turns. -/
theorem agent_run_totals
    (h : AgentRun python registry recurse resources setup turns state made events ended)
    {result : NodeResult} (hresult : ended = .returned result) : Totals state made result := by
  induction h with
  | exceeded state => cases hresult
  | modelFailed hasked => cases hresult
  | returned hasked hfree hreminds =>
      cases hresult
      exact ⟨by simp [AgentState.answer], by simp [AgentState.answer],
        by simp [AgentState.answer, tracesOf]⟩
  | reminded hasked hfree hreminds hrest ih =>
      refine (ih hresult).cons rfl rfl ?_
      simp [AgentState.remind, AgentState.spend]
  | called hasked hcalls htools hcompleted hactive hrest ih =>
      exact (ih hresult).cons rfl rfl rfl
  | toolRaised hasked htools hcompleted hactive hraises => cases hresult

/-- Every turn calls the model once, and the tools that it asks for. -/
structure TurnSound (python : Python) (registry : NodeRegistry Body)
    (recurse : Body → ExecutionContext → Act NodeResult) (resources : Resources)
    (setup : AgentSetup) (ended : AgentEnd) (turn : AgentTurn) : Prop where
  asked : Asks resources setup turn.conversation turn.asking (.ok turn.response)
  completed : ∀ run ∈ turn.tools, run.Completed python registry recurse resources setup.toolIds
  requested : ended.Undisturbed → turn.tools.map ToolRun.call = turn.response.toolCalls

theorem agent_run_sound
    (h : AgentRun python registry recurse resources setup turns state made events ended) :
    ∀ turn ∈ made, TurnSound python registry recurse resources setup ended turn := by
  induction h with
  | exceeded state => exact fun turn hturn => absurd hturn List.not_mem_nil
  | modelFailed hasked => exact fun turn hturn => absurd hturn List.not_mem_nil
  | returned hasked hfree hreminds =>
      refine List.forall_mem_singleton.mpr ⟨hasked, by simp, fun _ => ?_⟩
      exact hfree.symm
  | reminded hasked hfree hreminds hrest ih =>
      refine List.forall_mem_cons.mpr ⟨⟨hasked, by simp, fun _ => ?_⟩, ih⟩
      exact hfree.symm
  | called hasked hcalls htools hcompleted hactive hrest ih =>
      exact List.forall_mem_cons.mpr ⟨⟨hasked, hcompleted, fun _ => htools⟩, ih⟩
  | toolRaised hasked htools hcompleted hactive hraises =>
      exact List.forall_mem_singleton.mpr ⟨hasked, hcompleted, fun hended => hended.elim⟩

end

/-- What an agent does for a script of responses. -/
structure Characterised (python : Python) (registry : NodeRegistry Body)
    (recurse : Body → ExecutionContext → Act NodeResult) (resources : Resources)
    (setup : AgentSetup) (script : Nat → ToolCallResponse) (made : List AgentTurn)
    (outcome : Except Raised NodeResult) : Prop where
  asked : ∀ turn ∈ made, Asks resources setup turn.conversation turn.asking (.ok turn.response)
  calls_le : made.length ≤ setup.maxIterations
  returns_iff : (∃ result, outcome = .ok result) ↔
    ∃ turn : Nat, turn < setup.maxIterations ∧ Final setup script turn
  raises : (¬ ∃ result, outcome = .ok result) → outcome = AgentEnd.exceeded.outcome setup
  nudges_iff : ∀ index turn, made[index]? = some turn →
    (turn.Nudges ↔ Nudged setup script index)
  nudges_once : ∀ first second, Nudged setup script first → Nudged setup script second →
    first = second
  tokenCost : ∀ result, outcome = .ok result → result.tokenCost =
    ⟨(made.map fun turn => turn.response.inputTokens).sum,
      (made.map fun turn => turn.response.outputTokens).sum⟩
  childTraces : ∀ result, outcome = .ok result → result.childTraces =
    tracesOf (made.flatMap fun turn => turn.tools.map fun run => [run.record])
  requested : ∀ turn ∈ made, turn.tools.map ToolRun.call = turn.response.toolCalls
  completed : ∀ turn ∈ made, ∀ run ∈ turn.tools,
    run.Completed python registry recurse resources setup.toolIds

/-- There is at most one response that the nudge answers. -/
theorem Nudged.unique {setup : AgentSetup} {script : Nat → ToolCallResponse} {first second : Nat}
    (hfirst : Nudged setup script first) (hsecond : Nudged setup script second) :
    first = second := by
  rcases Nat.lt_trichotomy first second with hlt | heq | hlt
  · exact absurd hfirst.free (hsecond.first first hlt)
  · exact heq
  · exact absurd hsecond.free (hfirst.first second hlt)

namespace AgentEnd

variable {setup : AgentSetup} {ended : AgentEnd} {result : NodeResult}

/-- Nothing but an answer makes the body return. -/
theorem returned_of_ok (h : ended.outcome setup = .ok result) : ended = .returned result := by
  cases ended with
  | returned answer =>
      cases h
      rfl
  | exceeded => cases h
  | modelFailed failure => cases h
  | toolRaised call raised => cases h

theorem undisturbed_of_ok (h : ended.outcome setup = .ok result) : ended.Undisturbed := by
  rw [returned_of_ok h]
  trivial

/-- A loop that nothing disturbed and that does not return has come to its cap. -/
theorem exceeded_of_not_ok (h : ended.Undisturbed)
    (hnone : ¬ ∃ result, ended.outcome setup = .ok result) : ended = .exceeded := by
  cases ended with
  | returned answer => exact absurd ⟨answer, rfl⟩ hnone
  | exceeded => rfl
  | modelFailed failure => exact h.elim
  | toolRaised call raised => exact h.elim

end AgentEnd

namespace AgentTranscript

variable {python : Python} {registry : NodeRegistry Body} {connectionTypes : ConnectionRegistry}
  {recurse : Body → ExecutionContext → Act NodeResult} {ctx : ExecutionContext}
  {events : History} {outcome : Except Raised NodeResult}

/-- The cap is the configured one, and the tools are those of the agent's own group. -/
theorem configured
    (transcript : AgentTranscript python registry connectionTypes recurse ctx events outcome) :
    ctx.node.config.positive "max_iterations" 10 = .ok transcript.setup.maxIterations ∧
      ToolsOf ctx.resources ctx.node.id transcript.setup.toolIds :=
  ⟨(set_up_agent_runs transcript.isSetUp).iterations, (set_up_agent_runs transcript.isSetUp).tools⟩

/-- A loop that nothing disturbed does what it is meant to do. -/
theorem characterised
    (transcript : AgentTranscript python registry connectionTypes recurse ctx events outcome)
    (hended : transcript.ended.Undisturbed) {script : Nat → ToolCallResponse}
    (hfollows : Follows script transcript.made) :
    Characterised python registry recurse ctx.resources transcript.setup script transcript.made
      outcome := by
  have hmax := Config.positive_pos transcript.configured.1
  have hturns := transcript.turns
  have houtcome := transcript.outcome_eq
  have hlength := agent_run_length hturns
  have hsound := agent_run_sound hturns
  have hkeeps : KeepsTo transcript.setup script 0 transcript.setup.maxIterations.toNat
      transcript.made transcript.ended := by
    refine agent_run_keeps_to hturns ⟨?_, ?_⟩ fun index turn hturn => ?_
    · simp
    · simp
    · rw [Nat.zero_add]
      exact hfollows index turn hturn
  -- An undisturbed loop ends with a result or at its limit, as the outcome tells.
  have hreturned : ∀ result, outcome = .ok result → transcript.ended = .returned result :=
    fun result hresult => AgentEnd.returned_of_ok (houtcome.symm.trans hresult)
  have hexceeded : (¬ ∃ result, outcome = .ok result) → transcript.ended = .exceeded :=
    fun hnone => AgentEnd.exceeded_of_not_ok hended fun ⟨result, hresult⟩ =>
      hnone ⟨result, houtcome.trans hresult⟩
  refine ⟨fun turn hturn => (hsound turn hturn).asked, by omega, ⟨?_, ?_⟩, ?_, ?_, ?_,
    ?_, ?_, ?_, ?_⟩
  · rintro ⟨result, hresult⟩
    obtain ⟨index, hindex, hfinal⟩ := hkeeps.returned result (hreturned result hresult)
    rw [Nat.zero_add] at hfinal
    exact ⟨index, by omega, hfinal⟩
  · rintro ⟨index, hindex, hfinal⟩
    by_contra hnone
    refine hkeeps.exceeded (hexceeded hnone) index (by omega) ?_
    rwa [Nat.zero_add]
  · exact fun hnone => houtcome.trans (congrArg _ (hexceeded hnone))
  · intro index turn hturn
    rw [hkeeps.nudges index turn hturn, Nat.zero_add]
  · exact fun first second => Nudged.unique
  · intro result hresult
    have htotals := agent_run_totals hturns (hreturned result hresult)
    have hinput := htotals.inputTokens
    have houtput := htotals.outputTokens
    rw [Int.zero_add] at hinput houtput
    rw [← hinput, ← houtput]
  · exact fun result hresult => (agent_run_totals hturns (hreturned result hresult)).childTraces
  · exact fun turn hturn => (hsound turn hturn).requested hended
  · exact fun turn hturn => (hsound turn hturn).completed

end AgentTranscript

/-- An agent that is set up runs in turns. As long as no model call and no tool call raises, it
calls its model at most `max_iterations` times, reminds it of its tools once, after the first
response without tool calls if that comes before any tool call, returns exactly if a later
response without tool calls comes in time, and sums up in its result what it did. -/
theorem agent_loop_characterised {python : Python} {registry : NodeRegistry Body}
    {connectionTypes : ConnectionRegistry}
    {recurse : Body → ExecutionContext → Act NodeResult} {ctx : ExecutionContext}
    {events : History} {outcome : Except Raised NodeResult}
    (hrun : (executeAgent python registry connectionTypes recurse ctx).Runs events outcome) :
    (∃ raised, outcome = .error raised ∧
      ((setUpAgent registry connectionTypes ctx).Runs events (.error raised) ∨
        ctx.inputs.get "task" = .error raised)) ∨
    ∃ transcript : AgentTranscript python registry connectionTypes recurse ctx events outcome,
      ctx.node.config.positive "max_iterations" 10 = .ok transcript.setup.maxIterations ∧
      ToolsOf ctx.resources ctx.node.id transcript.setup.toolIds ∧
      (transcript.ended.Undisturbed → ∀ script, Follows script transcript.made →
        Characterised python registry recurse ctx.resources transcript.setup script
          transcript.made outcome) := by
  rcases agent_runs hrun with ⟨raised, hraised, hfailed⟩ | ⟨⟨transcript⟩⟩
  · exact .inl ⟨raised, hraised, hfailed.imp_right And.left⟩
  · exact .inr ⟨transcript, transcript.configured.1, transcript.configured.2,
      fun hundisturbed script hfollows => transcript.characterised hundisturbed hfollows⟩

/-! ### An agent with one tool -/

/-- The responses that a sequence of turns got. -/
def scriptOf (made : List AgentTurn) (index : Nat) : ToolCallResponse :=
  match made[index]? with
  | some turn => turn.response
  | none => { text := none, toolCalls := [] }

theorem follows_script_of (made : List AgentTurn) : Follows (scriptOf made) made := by
  intro index turn hturn
  rw [scriptOf, hturn]

set_option maxRecDepth 20000 in
/-- The agent of `agentContext`, whose model calls the tool once and then answers. -/
theorem answering_agent_characterised : ∃ events result, ∃ transcript : AgentTranscript
    anthropicEnvironment.python anthropicEnvironment.registry anthropicEnvironment.connectionTypes
    (execute anthropicEnvironment 2) (agentContext 2) events (.ok result),
    Characterised anthropicEnvironment.python anthropicEnvironment.registry
      (execute anthropicEnvironment 2) (agentContext 2).resources transcript.setup
      (scriptOf transcript.made) transcript.made (.ok result) := by
  have hrun : ∃ events result, (executeAgent anthropicEnvironment.python
      anthropicEnvironment.registry anthropicEnvironment.connectionTypes
      (execute anthropicEnvironment 2) (agentContext 2)).Runs events (.ok result) :=
    ⟨_, _, Program.ends_play toolAnswers
      (execute anthropicEnvironment 3 .agent (agentContext 2)).run⟩
  obtain ⟨events, result, hends⟩ := hrun
  rcases agent_loop_characterised hends with ⟨_, hcontra, _⟩ | ⟨transcript, _, _, hcharacterised⟩
  · cases hcontra
  · refine ⟨events, result, transcript, hcharacterised ?_ _ (follows_script_of _)⟩
    exact AgentEnd.undisturbed_of_ok transcript.outcome_eq.symm

end AgentGraphStudio
