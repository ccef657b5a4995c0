import AgentGraphStudio.Nodes.SubNodeNesting
import AgentGraphStudio.Nodes.Tracked

/-!
# Completeness of traces

Agents and loops hand the records of what they executed to the engine in their results, so an
agent or a loop that raises hands over nothing, and an agent keeps no records of the nodes that
its tools executed in turn. `trace_complete_iff` says that this is all that a run can lose: its
trace tells everything about every execution exactly if no execution within is of that kind.
-/

namespace AgentGraphStudio

namespace TrackedAct

variable {α β : Type}

/-- A value that the computation returns comes with such a ledger. -/
def Ensures (act : TrackedAct α) (post : α → Ledger → Prop) : Prop :=
  Logged.Yields act.run fun outcome ledger => ∀ value, outcome = .ok value → post value ledger

variable {act : TrackedAct α} {f : α → TrackedAct β} {post post' : α → Ledger → Prop}
  {last : β → Ledger → Prop}

theorem ensures_pure {value : α} (h : post value ∅) : Ensures (pure value : TrackedAct α) post := by
  refine .pure fun result hresult => ?_
  cases hresult
  exact h

theorem ensures_lift (act : Act α) : Ensures (lift act) fun _ ledger => ledger = ∅ :=
  (Logged.Yields.silent act.run).mono fun _ _ hsilent _ _ => hsilent

theorem ensures_ofExcept {value : Except Raised α}
    (h : ∀ result, value = .ok result → post result ∅) :
    Ensures (lift (Act.ofExcept value)) post := by
  have hended : Program.Yields (Act.ofExcept value).run fun outcome => outcome = value := .done rfl
  refine .lift hended fun outcome houtcome result hresult => ?_
  rw [houtcome] at hresult
  exact h result hresult

theorem raise_yields (message : String) :
    Logged.Yields (lift (Act.raise message) : TrackedAct α).run fun outcome ledger =>
      outcome = .error (.exception message) ∧ ledger = ∅ := by
  have hraised : Program.Yields (Act.raise message : Act α).run
      fun outcome => outcome = .error (.exception message) := .done rfl
  exact .lift hraised fun outcome houtcome => ⟨houtcome, rfl⟩

theorem ensures_raise (message : String) :
    Ensures (lift (Act.raise message) : TrackedAct α) post := by
  refine (raise_yields message).mono fun outcome ledger hended value hvalue => ?_
  rw [hended.1] at hvalue
  cases hvalue

theorem ensures_note (entry : Ledger) : Ensures (note entry) fun _ ledger => ledger = entry :=
  Program.Yields.done fun _ _ => rfl

theorem Ensures.mono (h : Ensures act post)
    (hpost : ∀ value ledger, post value ledger → post' value ledger) : Ensures act post' :=
  Logged.Yields.mono h fun _ ledger houtcome value hvalue =>
    hpost value ledger (houtcome value hvalue)

theorem ensures_bind (h : Ensures act post)
    (hf : ∀ value ledger, post value ledger →
      Ensures (f value) fun result more => last result (ledger ++ more)) :
    Ensures (act >>= f) last := by
  refine Logged.Yields.bind h fun outcome ledger houtcome => ?_
  cases outcome with
  | ok value => exact hf value ledger (houtcome value rfl)
  | error raised => exact .pure nofun

/-- What is returned comes from the computation or from the handler of its exception. -/
theorem ensures_catchException {handler : Except Raised String → TrackedAct α}
    {ended : Except Raised α → Ledger → Prop} (h : Logged.Yields act.run ended)
    (hreturned : ∀ value ledger, ended (.ok value) ledger → post value ledger)
    (hraised : ∀ raised text ledger, raised.caught = some text → ended (.error raised) ledger →
      Ensures (handler text) fun result more => post result (ledger ++ more)) :
    Ensures (catchException act handler) post := by
  refine Logged.Yields.bind h fun outcome ledger houtcome => ?_
  cases outcome with
  | ok value =>
      refine .pure fun result hresult => ?_
      cases hresult
      rw [Ledger.append_empty]
      exact hreturned value ledger houtcome
  | error raised =>
      cases raised with
      | exception text => exact hraised _ _ ledger rfl houtcome
      | unprintable raised => exact hraised _ _ ledger rfl houtcome
      | baseException text => exact .pure nofun

/-- A handler that raises changes nothing for what is returned. -/
theorem ensures_reraise (h : Ensures act post) (message : String → String) :
    Ensures (exceptException act fun e => lift (Act.raise (message e))) post :=
  ensures_catchException h (fun value _ hended => hended value rfl) fun _ _ _ _ _ =>
    ensures_bind (ensures_lift _) fun _ _ _ => ensures_raise _

theorem ensures_finallyDo (h : Ensures act post) (cleanup : Act Unit) :
    Ensures (finallyDo act cleanup) post := by
  refine Logged.Yields.bind h fun outcome ledger houtcome => ?_
  refine (Logged.Yields.silent cleanup.run).bind fun cleaned _ hsilent => ?_
  subst hsilent
  cases cleaned with
  | ok _ =>
      refine .pure fun result hresult => ?_
      simp only [Ledger.append_empty]
      exact houtcome result hresult
  | error raised => exact .pure nofun

end TrackedAct

/-! ## What an agent accounts for -/

/-- A record that an agent makes: it has no records below, and no cost if the tool raised. -/
def ToolRecord (record : TraceRecord) : Prop :=
  record.childTraces = none ∧ (record.error ≠ none → record.tokenCost = {})

/-- What tool calls add to the ledger, with the records made of them. -/
structure CallsLedger (records : List TraceRecord) (ledger : Ledger) : Prop where
  nodes : ledger.nodes = []
  made : ∀ record ∈ records, ToolRecord record
  told : List.SublistForall₂ (fun tool record => Lossless tool ∧ tool.Childless → Told tool record)
    ledger.tools records

theorem sublist_forall₂_append {α β : Type} {R : α → β → Prop} {first second : List α}
    {records more : List β} (h : List.SublistForall₂ R first records)
    (hmore : List.SublistForall₂ R second more) :
    List.SublistForall₂ R (first ++ second) (records ++ more) := by
  obtain ⟨chosen, hchosen, hsub⟩ := List.sublistForall₂_iff.mp h
  obtain ⟨chosen', hchosen', hsub'⟩ := List.sublistForall₂_iff.mp hmore
  exact List.sublistForall₂_iff.mpr ⟨_, List.rel_append hchosen hchosen', hsub.append hsub'⟩

namespace CallsLedger

theorem empty : CallsLedger [] ∅ := ⟨rfl, by simp, .nil⟩

theorem append {records more : List TraceRecord} {ledger added : Ledger}
    (h : CallsLedger records ledger) (hmore : CallsLedger more added) :
    CallsLedger (records ++ more) (ledger ++ added) where
  nodes := by rw [Ledger.nodes_append, h.nodes, hmore.nodes, List.nil_append]
  made record hrecord := (List.mem_append.mp hrecord).elim (h.made record) (hmore.made record)
  told := sublist_forall₂_append h.told hmore.told

/-- A tool is told by one of an agent's records only if it loses nothing. -/
theorem lossless_of_told {tool : Execution} {record : TraceRecord} (hmade : ToolRecord record)
    (h : Told tool record) : Lossless tool ∧ tool.Childless := by
  obtain ⟨_, hreports, htokens, htools, hnodes⟩ := h
  have hbelow : belowOf record.childTraces = [] := by
    rw [hmade.1]
    rfl
  rw [hbelow, sublist_told_nil_iff] at htools hnodes
  refine ⟨.intro (fun raised hraised => ⟨?_, htools, hnodes⟩) (by simp [htools]) (by simp [htools])
    (by simp [hnodes]), fun nodeResult hreturned => ?_⟩
  · rw [hraised] at hreports
    obtain ⟨message, -, herror⟩ := hreports
    have hcost := hmade.2 (by rw [herror]; simp)
    by_cases hcalls : tool.ledger.modelCalls = []
    · rw [hcalls]
      rfl
    · rw [← htokens hcalls, hcost]
  · rw [hreturned] at hreports
    rw [← hreports.2.2.2.1, hmade.1]
    rfl

/-- An agent's records tell everything about its tools exactly if these lose nothing. -/
theorem told_iff {records : List TraceRecord} {ledger : Ledger} (h : CallsLedger records ledger) :
    List.SublistForall₂ Told ledger.tools records ↔
      ∀ tool ∈ ledger.tools, Lossless tool ∧ tool.Childless := by
  have hmade := h.made
  have htold := h.told
  generalize ledger.tools = tools at htold
  constructor
  · intro hsub
    clear htold h
    induction hsub with
    | nil => simp
    | cons hhead _ ih =>
        rw [List.forall_mem_cons] at hmade ⊢
        exact ⟨lossless_of_told hmade.1 hhead, ih hmade.2⟩
    | cons_right _ ih => exact ih (List.forall_mem_cons.mp hmade).2
  · intro hkept
    clear hmade h
    induction htold with
    | nil => exact .nil
    | cons hhead _ ih =>
        rw [List.forall_mem_cons] at hkept
        exact .cons (hhead hkept.1) (ih hkept.2)
    | cons_right _ ih => exact .cons_right (ih hkept)

end CallsLedger

section

variable {Body : Type} {python : Python} {registry : NodeRegistry Body}
  {connectionTypes : ConnectionRegistry}
  {recurse : Body → ExecutionContext → TrackedAct NodeResult} {resources : Resources}

/-- How the body of a tool ended, with what it added to the ledger. -/
def ToolOutcome (nodeId : String) (value : Except (Except Raised String) NodeResult)
    (ledger : Ledger) : Prop :=
  match value with
  | .ok nodeResult => ∃ inner, ledger = { tools := [⟨nodeId, .ok nodeResult, inner⟩] } ∧
      Accounts nodeResult inner
  | .error text => ledger = ∅ ∨ ∃ raised inner, raised.caught = some text ∧
      ledger = { tools := [⟨nodeId, .error raised, inner⟩] }

theorem tool_body_ensures (hrecurse : BodiesAccount recurse) (toolNode : NodeSpec)
    (inputs : Inputs) :
    (TrackedAct.catchException
      (do
        match registry.get toolNode.type with
        | none =>
          TrackedAct.lift
            (Act.raise s!"agent tool '{toolNode.id}' has unregistered type '{toolNode.type}'")
        | some definition =>
          let toolResult ← ExceptT.mk (entered (fun execution => { tools := [execution] }) recurse
            definition.execute ⟨toolNode, inputs, resources⟩)
          pure (Except.ok toolResult))
      fun errorText => pure (.error errorText)).Ensures (ToolOutcome toolNode.id) := by
  -- A tool of an unregistered type executes nothing.
  cases registry.get toolNode.type with
  | none =>
      refine TrackedAct.ensures_catchException (TrackedAct.raise_yields _)
        (fun value ledger hended => ?_) fun raised text ledger _ hended =>
          TrackedAct.ensures_pure ?_
      · obtain ⟨hcontra, _⟩ := hended
        cases hcontra
      · rw [hended.2]
        exact .inl rfl
  | some definition =>
      have hbody : Logged.Yields (do
          let toolResult ← ExceptT.mk (entered (fun execution => { tools := [execution] }) recurse
            definition.execute ⟨toolNode, inputs, resources⟩)
          pure (Except.ok toolResult) : TrackedAct (Except (Except Raised String) NodeResult)).run
          fun outcome ledger => match outcome with
            | .ok value => ToolOutcome toolNode.id value ledger
            | .error raised => ∀ text, raised.caught = some text →
                ToolOutcome toolNode.id (.error text) ledger := by
        refine Logged.Yields.bind (entered_yields (fun execution => { tools := [execution] })
          (hrecurse definition.execute ⟨toolNode, inputs, resources⟩)) fun outcome _ hentered => ?_
        obtain ⟨inner, haccounts, rfl⟩ := hentered
        cases outcome with
        | ok nodeResult => exact .pure ⟨inner, rfl, haccounts nodeResult rfl⟩
        | error raised =>
            exact .pure fun text hcaught => .inr ⟨raised, inner, hcaught, rfl⟩
      refine TrackedAct.ensures_catchException hbody (fun _ _ => id)
        fun raised text ledger hcaught hended => TrackedAct.ensures_pure ?_
      rw [Ledger.append_empty]
      exact hended text hcaught

/-- A tool call adds the tool and one record. -/
theorem run_tool_ensures (hrecurse : BodiesAccount recurse) (toolNode : NodeSpec)
    (callArguments : Json) :
    (runToolTracked python registry recurse resources toolNode callArguments).Ensures
      fun made ledger => ledger.modelCalls = [] ∧ CallsLedger [made.1] ledger := by
  refine TrackedAct.ensures_bind (TrackedAct.ensures_lift _) fun startedAt _ hstarted => ?_
  refine TrackedAct.ensures_bind (TrackedAct.ensures_lift _) fun runId _ hid => ?_
  refine TrackedAct.ensures_bind (tool_body_ensures hrecurse toolNode _)
    fun outcome _ houtcome => ?_
  refine TrackedAct.ensures_bind (TrackedAct.ensures_lift _) fun finishedAt _ hfinished => ?_
  subst hstarted hid hfinished
  refine TrackedAct.ensures_ofExcept fun made hreport => ?_
  simp only [Ledger.empty_append, Ledger.append_empty]
  cases outcome with
  | error errorText =>
      obtain ⟨readable, rfl, hreported⟩ := except_bind_eq_ok.mp hreport
      obtain ⟨inputs, _, hmade⟩ := except_bind_eq_ok.mp hreported
      cases hmade
      rcases houtcome with rfl | ⟨raised, inner, hcaught, rfl⟩
      · exact ⟨rfl, rfl, by simp [ToolRecord], .nil⟩
      · refine ⟨rfl, rfl, by simp [ToolRecord], .cons (fun hkept => ?_) .nil⟩
        refine (told_raised_iff rfl rfl ?_ ⟨rfl, rfl⟩).mpr hkept.1
        cases raised with
        | exception message =>
            cases hcaught
            exact ⟨_, rfl, rfl⟩
        | unprintable raised => cases hcaught
        | baseException message => cases hcaught
  | ok toolResult =>
      obtain ⟨inputs, _, hmade⟩ := except_bind_eq_ok.mp hreport
      cases hmade
      obtain ⟨inner, rfl, haccounts⟩ := houtcome
      refine ⟨rfl, rfl, by simp [ToolRecord], .cons (fun hkept => ?_) .nil⟩
      have htraces := hkept.2 toolResult rfl
      refine (told_returned_iff rfl rfl ?_ haccounts).mpr hkept.1
      exact ⟨rfl, rfl, rfl, htraces.symm, rfl⟩

/-- What tool calls did to the variables of an agent's loop. -/
structure Dispatched (state next : AgentState) (ledger : Ledger) : Prop where
  modelCalls : ledger.modelCalls = []
  inputTokens : next.inputTokens = state.inputTokens
  outputTokens : next.outputTokens = state.outputTokens
  calls : ∃ groups, next.childTraces = state.childTraces ++ groups ∧
    CallsLedger groups.flatten ledger

theorem dispatch_call_accounts (hrecurse : BodiesAccount recurse) (toolIds : List String)
    (call : ToolCallRequest) (state : AgentState) :
    (dispatchCallTracked python registry recurse resources toolIds call state).Ensures
      (Dispatched state) := by
  unfold dispatchCallTracked
  cases (if call.name ∈ toolIds then resources.nodesById.get? call.name else none) with
  | none =>
      refine TrackedAct.ensures_bind (TrackedAct.ensures_lift _) fun startedAt _ hstarted => ?_
      refine TrackedAct.ensures_bind (TrackedAct.ensures_lift _) fun runId _ hid => ?_
      refine TrackedAct.ensures_bind (TrackedAct.ensures_lift _) fun finishedAt _ hfinished => ?_
      refine TrackedAct.ensures_bind (TrackedAct.ensures_lift _) fun inputs _ hinputs => ?_
      subst hstarted hid hfinished hinputs
      refine TrackedAct.ensures_pure ⟨rfl, rfl, rfl, _, rfl, rfl, ?_, .nil⟩
      simp [ToolRecord]
  | some toolNode =>
      refine TrackedAct.ensures_bind (TrackedAct.ensures_lift _) fun _ _ hsilent => ?_
      subst hsilent
      refine TrackedAct.ensures_bind (TrackedAct.ensures_finallyDo
        (run_tool_ensures hrecurse toolNode call.arguments) _) fun made ledger hmade => ?_
      refine TrackedAct.ensures_pure ?_
      rw [Ledger.empty_append, Ledger.append_empty]
      exact ⟨hmade.1, rfl, rfl, _, rfl, hmade.2⟩

theorem dispatch_calls_accounts (hrecurse : BodiesAccount recurse) (toolIds : List String)
    (calls : List ToolCallRequest) (state : AgentState) :
    (dispatchCallsTracked python registry recurse resources toolIds calls state).Ensures
      (Dispatched state) := by
  induction calls generalizing state with
  | nil => exact TrackedAct.ensures_pure ⟨rfl, rfl, rfl, [], by simp, .empty⟩
  | cons call calls ih =>
      refine TrackedAct.ensures_bind (dispatch_call_accounts hrecurse toolIds call state)
        fun middle ledger hfirst => ?_
      refine (ih middle).mono fun next more hrest => ?_
      obtain ⟨groups, hgroups, hcalls⟩ := hfirst.calls
      obtain ⟨others, hothers, hmore⟩ := hrest.calls
      refine ⟨?_, hrest.inputTokens.trans hfirst.inputTokens,
        hrest.outputTokens.trans hfirst.outputTokens, groups ++ others, ?_, ?_⟩
      · rw [Ledger.modelCalls_append, hfirst.modelCalls, hrest.modelCalls, List.nil_append]
      · rw [hothers, hgroups, List.append_assoc]
      · rw [List.flatten_append]
        exact hcalls.append hmore

/-- What the remaining turns of an agent account for, given what the earlier ones gathered. -/
structure TurnsAccount (state : AgentState) (nodeResult : NodeResult) (ledger : Ledger) : Prop where
  tokens : nodeResult.tokenCost =
    ⟨state.inputTokens + (totalCost ledger.modelCalls).inputTokens,
      state.outputTokens + (totalCost ledger.modelCalls).outputTokens⟩
  calls : ∃ groups, nodeResult.childTraces.getD [] = state.childTraces ++ groups ∧
    CallsLedger groups.flatten ledger

namespace TurnsAccount

variable {state next : AgentState} {nodeResult : NodeResult} {ledger more : Ledger}

/-- A model call before the remaining turns. -/
theorem called (h : TurnsAccount next nodeResult ledger) (cost : TokenCost)
    (hinput : next.inputTokens = state.inputTokens + cost.inputTokens)
    (houtput : next.outputTokens = state.outputTokens + cost.outputTokens)
    (htraces : next.childTraces = state.childTraces) :
    TurnsAccount state nodeResult ({ modelCalls := [cost] } ++ ledger) where
  tokens := by
    rw [h.tokens, hinput, houtput]
    simp [totalCost, Int.add_assoc]
  calls := by
    obtain ⟨groups, hgroups, hcalls⟩ := h.calls
    refine ⟨groups, by rw [hgroups, htraces], ?_⟩
    exact (CallsLedger.mk rfl (by simp) .nil :
      CallsLedger [] { modelCalls := [cost] }).append hcalls

/-- Tool calls before the remaining turns. -/
theorem dispatched (h : TurnsAccount next nodeResult more)
    (hdispatched : Dispatched state next ledger) :
    TurnsAccount state nodeResult (ledger ++ more) where
  tokens := by
    rw [h.tokens, hdispatched.inputTokens, hdispatched.outputTokens, Ledger.modelCalls_append,
      hdispatched.modelCalls, List.nil_append]
  calls := by
    obtain ⟨groups, hgroups, hcalls⟩ := hdispatched.calls
    obtain ⟨others, hothers, hmore⟩ := h.calls
    refine ⟨groups ++ others, by rw [hothers, hgroups, List.append_assoc], ?_⟩
    rw [List.flatten_append]
    exact hcalls.append hmore

/-- The answer of an agent accounts for what it gathered. -/
theorem answer (state : AgentState) (outputs : Config) :
    TurnsAccount state
      { outputs, childTraces := if state.childTraces.isEmpty then none else some state.childTraces
        tokenCost := ⟨state.inputTokens, state.outputTokens⟩ } ∅ where
  tokens := by simp [totalCost]
  calls := by
    refine ⟨[], ?_, .empty⟩
    dsimp only
    split
    · rename_i hempty
      simpa using (List.isEmpty_iff.mp hempty).symm
    · simp

end TurnsAccount

/-- The turns of an agent account for its model calls and its tools. -/
theorem agent_loop_accounts (hrecurse : BodiesAccount recurse) (setup : AgentSetup) (turns : Nat)
    (state : AgentState) :
    (agentLoopTracked python registry recurse resources setup turns state).Ensures
      (TurnsAccount state) := by
  induction turns generalizing state with
  | zero => exact TrackedAct.ensures_raise _
  | succ turns ih =>
      unfold agentLoopTracked
      refine TrackedAct.ensures_bind (TrackedAct.ensures_lift _) fun response _ hsilent => ?_
      subst hsilent
      refine TrackedAct.ensures_bind (TrackedAct.ensures_note _) fun _ _ hcall => ?_
      subst hcall
      dsimp only
      split
      · split
        · refine (ih _).mono fun nodeResult ledger hturns => ?_
          rw [Ledger.empty_append]
          exact hturns.called _ rfl rfl rfl
        · refine TrackedAct.ensures_pure ?_
          rw [Ledger.empty_append]
          exact (TurnsAccount.answer { state with
            inputTokens := state.inputTokens + response.inputTokens
            outputTokens := state.outputTokens + response.outputTokens } _).called _ rfl rfl rfl
      · refine TrackedAct.ensures_bind (TrackedAct.ensures_lift _) fun _ _ hsilent => ?_
        subst hsilent
        refine TrackedAct.ensures_bind (TrackedAct.ensures_finallyDo
          (dispatch_calls_accounts hrecurse setup.toolIds response.toolCalls _) _)
          fun next ledger hdispatched => ?_
        refine (ih next).mono fun nodeResult more hturns => ?_
        simp only [Ledger.empty_append]
        exact (hturns.dispatched hdispatched).called _ rfl rfl rfl

/-- An agent accounts for its model calls and its tools. -/
theorem execute_agent_accounts (hrecurse : BodiesAccount recurse) (ctx : ExecutionContext) :
    (executeAgentTracked python registry connectionTypes recurse ctx).Ensures Accounts := by
  refine TrackedAct.ensures_bind (TrackedAct.ensures_lift _) fun setup _ hsilent => ?_
  subst hsilent
  refine TrackedAct.ensures_bind (TrackedAct.ensures_lift _) fun task _ hsilent => ?_
  subst hsilent
  refine (agent_loop_accounts hrecurse _ _ _).mono fun nodeResult ledger hturns => ?_
  obtain ⟨groups, hgroups, hcalls⟩ := hturns.calls
  have hbelow : belowOf nodeResult.childTraces = groups.flatten := by
    rw [belowOf, hgroups, List.nil_append]
  simp only [Ledger.empty_append]
  refine ⟨fun _ => ?_, ?_, ?_⟩
  · rw [hturns.tokens]
    simp
  · rw [hbelow]
    exact hcalls.told_iff
  · rw [hcalls.nodes]
    simp [List.SublistForall₂.nil]

/-! ## What a loop accounts for -/

/-- What the remaining iterations of a loop account for, given the traces of the earlier ones. -/
structure IterationsAccount (childTraces : List (List TraceRecord)) (nodeResult : NodeResult)
    (ledger : Ledger) : Prop where
  engine : EngineLedger ledger
  traces : ∃ groups, nodeResult.childTraces = some (childTraces ++ groups) ∧
    Accountable ledger.nodes groups.flatten

theorem run_sub_graph_accounts (hrecurse : BodiesAccount recurse) (graph : GraphSpec) :
    (runSubGraphTracked registry recurse graph resources).Ensures fun result ledger =>
      EngineLedger ledger ∧ Accountable ledger.nodes result.trace := by
  refine TrackedAct.ensures_bind (TrackedAct.ensures_lift _) fun store _ hsilent => ?_
  subst hsilent
  refine (run_graph_yields hrecurse none).mono fun outcome ledger hrun result hresult => ?_
  subst hresult
  obtain ⟨taken, left, hnodes, haccountable, hfinal⟩ := hrun.accountable
  obtain ⟨rfl, htrace⟩ := hfinal result.trace rfl
  refine ⟨hrun.engine, ?_⟩
  rw [Ledger.empty_append, hnodes, htrace, List.append_nil]
  exact haccountable

theorem loop_iterations_accounts (hrecurse : BodiesAccount recurse) (config : LoopConfig)
    (entryNodeId : String) (iterations : Nat) (value : Json)
    (childTraces : List (List TraceRecord)) :
    (loopIterationsTracked registry recurse config entryNodeId resources iterations value
      childTraces).Ensures (IterationsAccount childTraces) := by
  induction iterations generalizing value childTraces with
  | zero => exact TrackedAct.ensures_pure ⟨.empty, [], by simp, .nil⟩
  | succ iterations ih =>
      unfold loopIterationsTracked
      refine TrackedAct.ensures_bind (TrackedAct.ensures_reraise
        (run_sub_graph_accounts hrecurse _) _) fun subResult ledger hsub => ?_
      obtain ⟨hengine, haccountable⟩ := hsub
      generalize subResult.result.values = values
      cases values with
      | nil => exact TrackedAct.ensures_raise _
      | cons value rest =>
          cases rest with
          | cons second rest => exact TrackedAct.ensures_raise _
          | nil =>
              dsimp only
              split
              · refine TrackedAct.ensures_pure ?_
                rw [Ledger.append_empty]
                exact ⟨hengine, [subResult.trace], rfl, by simpa using haccountable⟩
              · refine (ih value _).mono fun nodeResult more hrest => ?_
                obtain ⟨groups, hgroups, hmore⟩ := hrest.traces
                refine ⟨hengine.append hrest.engine, subResult.trace :: groups,
                  by simp [hgroups], ?_⟩
                exact List.rel_append haccountable hmore

/-- A loop accounts for the nodes of its iterations. -/
theorem execute_loop_accounts (hrecurse : BodiesAccount recurse) (ctx : ExecutionContext) :
    (executeLoopTracked registry recurse ctx).Ensures Accounts := by
  refine TrackedAct.ensures_bind (TrackedAct.ensures_lift _) fun config _ hsilent => ?_
  subst hsilent
  refine TrackedAct.ensures_bind (TrackedAct.ensures_lift _) fun store _ hsilent => ?_
  subst hsilent
  cases preCheck registry config store with
  | error issues => exact TrackedAct.ensures_raise _
  | ok checked =>
      refine TrackedAct.ensures_bind (TrackedAct.ensures_lift _) fun entryNodeId _ hsilent => ?_
      subst hsilent
      refine TrackedAct.ensures_bind (TrackedAct.ensures_lift _) fun value _ hsilent => ?_
      subst hsilent
      refine (loop_iterations_accounts hrecurse _ _ _ _ _).mono fun nodeResult ledger hloop => ?_
      obtain ⟨groups, hgroups, haccountable⟩ := hloop.traces
      have hbelow : belowOf nodeResult.childTraces = groups.flatten := by
        rw [belowOf, hgroups, List.nil_append]
        rfl
      simp only [Ledger.empty_append]
      refine ⟨fun hcalls => absurd hloop.engine.modelCalls hcalls, ?_, ?_⟩
      · rw [hloop.engine.tools]
        simp [List.SublistForall₂.nil]
      · rw [hbelow, haccountable.sublist_iff, haccountable.told_iff]

end

/-! ## What a run accounts for -/

/-- A body that enters nothing has nothing to account for. -/
theorem accounts_empty (nodeResult : NodeResult) : Accounts nodeResult ∅ where
  tokens := fun hcalls => absurd rfl hcalls
  tools := by simp [List.SublistForall₂.nil]
  nodes := by simp [List.SublistForall₂.nil]

theorem execute_webhook_trigger_accounts {registry : NodeRegistry Body}
    {recurse : Body → ExecutionContext → TrackedAct NodeResult} (hrecurse : BodiesAccount recurse)
    (ctx : ExecutionContext) :
    (executeWebhookTriggerTracked registry recurse ctx).Ensures Accounts := by
  unfold executeWebhookTriggerTracked
  generalize ctx.resources.subNodes.getD (ctx.node.id, "trigger_adapter") [] = adapterIds
  match adapterIds with
  | [adapterId] =>
      refine TrackedAct.ensures_bind (TrackedAct.ensures_lift _) fun adapterNode _ hsilent => ?_
      subst hsilent
      cases registry.get adapterNode.type with
      | none => exact TrackedAct.ensures_raise _
      | some definition => exact hrecurse _ _
  | [] => exact TrackedAct.ensures_raise _
  | _ :: _ :: _ => exact TrackedAct.ensures_raise _

/-- Every execution accounts for its ledger, by induction on how deep executions may nest. -/
theorem bodies_account (env : Environment) (depth : Nat) :
    BodiesAccount (executeTracked env depth) := by
  induction depth with
  | zero => exact fun _ _ => TrackedAct.ensures_raise _
  | succ depth ih =>
      intro body ctx
      have hlift : ∀ act : Act NodeResult, (TrackedAct.lift act).Ensures Accounts := by
        intro act
        refine (TrackedAct.ensures_lift act).mono fun nodeResult ledger hsilent => ?_
        rw [hsilent]
        exact accounts_empty nodeResult
      cases body with
      | webhookTrigger => exact execute_webhook_trigger_accounts ih ctx
      | agent => exact execute_agent_accounts ih ctx
      | loop => exact execute_loop_accounts ih ctx
      | _ => exact hlift _

/-- The records that a run hands out tell everything about the nodes it executed, except for
those that an exception left behind with nothing to show. -/
def ShowsAll (ledger : Ledger) : Prop :=
  List.Forall₂ Told (ledger.nodes.take ledger.recorded.length) ledger.recorded ∧
    ∀ execution ∈ ledger.nodes.drop ledger.recorded.length, execution.Idle

/-- No execution of the run takes a branch that drops records, and an exception that ends the run
leaves no execution behind with anything to show. -/
def KeepsRecords (ledger : Ledger) : Prop :=
  (∀ execution ∈ ledger.nodes.take ledger.recorded.length, Lossless execution) ∧
    ∀ execution ∈ ledger.nodes.drop ledger.recorded.length, execution.Idle

/-- A run is what is left of its tracked version without the ledger. Whatever the run, the trace
it returns is what it handed out, with one record for each node it executed, and it shows every
tool body, every node of an iteration and the sum of every agent's model calls exactly if no
execution takes a branch that drops records. -/
theorem trace_complete_iff (env : Environment) (depth : Nat)
    (observers : Observers (Program Op Res)) (graph : GraphSpec) (store : ConnectionStore)
    (resources : Resources) (runId : Option String) :
    (trackedRun env depth observers graph store resources runId).erase =
      runGraphWith env depth observers graph store resources runId ∧
    ∀ events outcome ledger, Program.Ends
      (trackedRun env depth observers graph store resources runId).run events (outcome, ledger) →
        (∀ result, outcome = .ok result →
          result.trace = ledger.recorded ∧ ledger.nodes.length = ledger.recorded.length) ∧
        (ShowsAll ledger ↔ KeepsRecords ledger) := by
  refine ⟨erase_trackedRun env depth observers graph store resources runId, ?_⟩
  intro events outcome ledger hends
  obtain ⟨taken, left, hnodes, haccountable, hfinal⟩ :=
    ((run_graph_yields (bodies_account env depth) runId).ends hends).accountable
  have hlength : ledger.recorded.length = taken.length := haccountable.length_eq.symm
  constructor
  · intro result hresult
    subst hresult
    obtain ⟨rfl, htrace⟩ := hfinal result.trace rfl
    exact ⟨htrace, by rw [hnodes, List.append_nil, hlength]⟩
  · have htake : ledger.nodes.take ledger.recorded.length = taken := by
      rw [hnodes, hlength, List.take_left']
      rfl
    rw [ShowsAll, KeepsRecords, htake, haccountable.told_iff]

set_option maxRecDepth 20000 in
/-- An agent that calls its tool and then answers is shown. -/
theorem answering_agent_shown : ∃ events result ledger,
    Program.Ends (trackedRun anthropicEnvironment 3 (Observers.none _) (agentGraph 2)
      [anthropicProfile "my-anthropic" none] (agentContext 2).resources (some "run")).run
      events (.ok result, ledger) ∧ ledger.nodes.length = 1 ∧ ShowsAll ledger := by
  refine ⟨_, _, _, Program.ends_play toolAnswers _, rfl, ?_⟩
  refine ((trace_complete_iff anthropicEnvironment 3 (Observers.none _) (agentGraph 2)
    [anthropicProfile "my-anthropic" none] (agentContext 2).resources (some "run")).2 _ _ _
    (Program.ends_play toolAnswers _)).2.mpr ⟨?_, nofun⟩
  have hupper : ∀ outputs, Lossless ⟨"upper", .ok { outputs }, ∅⟩ :=
    fun _ => .intro nofun nofun nofun nofun
  have hagent : ∀ result calls outputs, Lossless
      ⟨"agent", .ok result, { modelCalls := calls, tools := [⟨"upper", .ok { outputs }, ∅⟩] }⟩ := by
    intro result calls outputs
    refine .intro nofun (fun tool htool => ?_) (fun tool htool => ?_) nofun
    · obtain rfl := List.mem_singleton.mp htool
      exact hupper outputs
    · obtain rfl := List.mem_singleton.mp htool
      intro nodeResult hreturned
      cases hreturned
      rfl
  exact List.forall_mem_singleton.mpr (hagent _ _ _)

/-- A run of which a tool is not shown. -/
theorem not_shows_all {ledger : Ledger} {execution tool : Execution} {tools : List Execution}
    {record : TraceRecord} (hnodes : ledger.nodes = [execution])
    (hrecorded : ledger.recorded = [record]) (htools : execution.ledger.tools = tool :: tools)
    (hbare : record.childTraces = none) : ¬ ShowsAll ledger := by
  intro h
  have htold := h.1
  rw [hnodes, hrecorded] at htold
  cases htold with
  | cons hhead _ =>
      obtain ⟨_, _, _, hsub, _⟩ := hhead
      rw [htools, hbare] at hsub
      cases hsub

set_option maxRecDepth 20000 in
/-- An agent that calls its tool in its only turn: the run goes on after the agent has raised, and
its trace does not show the tool. -/
theorem capped_agent_loses_tool : ∃ events result ledger,
    Program.Ends (trackedRun anthropicEnvironment 4 (Observers.none _) (helperGraph ["upper"])
      [anthropicProfile "my-anthropic" none] (helperContext ["upper"]).resources (some "run")).run
      events (.ok result, ledger) ∧ ¬ ShowsAll ledger :=
  ⟨_, _, _, Program.ends_play helperAnswers _, not_shows_all rfl rfl rfl rfl⟩

end AgentGraphStudio
