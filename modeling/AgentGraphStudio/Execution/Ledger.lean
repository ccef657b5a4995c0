import AgentGraphStudio.Execution.Operations
import AgentGraphStudio.Lib.Logged
import Mathlib.Data.List.Forall2

/-!
# What the trace of a run is to show

`backend/execution/trace.py` promises the records of the nodes that a node executes itself. The
`Ledger` of an execution says what there is to show: the tokens of the model calls it made, the
tool bodies it invoked and the nodes that the engine executed for it. It is a ghost. The engine
is run once more over programs that keep a ledger, and erasing the ledger gives back the run
(`erase_runGraph`). `Told` compares an execution with its record, down to the executions within.
-/

namespace AgentGraphStudio

/-- The entries of a ledger about executions `E`. -/
structure LedgerOf (E : Type) where
  modelCalls : List TokenCost := []
  tools : List E := []
  nodes : List E := []
  recorded : List TraceRecord := []

/-- An execution of a body, with how it ended and its ledger. -/
structure Execution where
  nodeId : String
  outcome : Except Raised NodeResult
  ledger : LedgerOf Execution

abbrev Ledger := LedgerOf Execution

namespace Ledger

instance : EmptyCollection Ledger := ⟨{}⟩

instance : Append Ledger where
  append first second :=
    { modelCalls := first.modelCalls ++ second.modelCalls
      tools := first.tools ++ second.tools
      nodes := first.nodes ++ second.nodes
      recorded := first.recorded ++ second.recorded }

variable (first second : Ledger)

@[simp] theorem modelCalls_empty : (∅ : Ledger).modelCalls = [] := rfl

@[simp] theorem tools_empty : (∅ : Ledger).tools = [] := rfl

@[simp] theorem nodes_empty : (∅ : Ledger).nodes = [] := rfl

@[simp] theorem recorded_empty : (∅ : Ledger).recorded = [] := rfl

@[simp] theorem modelCalls_append :
    (first ++ second).modelCalls = first.modelCalls ++ second.modelCalls := rfl

@[simp] theorem tools_append : (first ++ second).tools = first.tools ++ second.tools := rfl

@[simp] theorem nodes_append : (first ++ second).nodes = first.nodes ++ second.nodes := rfl

@[simp] theorem recorded_append :
    (first ++ second).recorded = first.recorded ++ second.recorded := rfl

theorem empty_append (ledger : Ledger) : ∅ ++ ledger = ledger := rfl

theorem append_empty (ledger : Ledger) : ledger ++ ∅ = ledger := by
  show LedgerOf.mk _ _ _ _ = ledger
  simp

theorem append_assoc (third : Ledger) : first ++ (second ++ third) = first ++ second ++ third := by
  show LedgerOf.mk _ _ _ _ = LedgerOf.mk _ _ _ _
  simp

end Ledger

/-- The sum of model calls. -/
def totalCost (calls : List TokenCost) : TokenCost :=
  ⟨(calls.map TokenCost.inputTokens).sum, (calls.map TokenCost.outputTokens).sum⟩

/-! ## What a record tells -/

/-- The records below a result or a record. -/
def belowOf (childTraces : Option (List (List TraceRecord))) : List TraceRecord :=
  (childTraces.getD []).flatten

/-- The record shows how an execution ended: the fields of its result or the text of its
exception. -/
def Reports (record : TraceRecord) : Except Raised NodeResult → Prop
  | .ok nodeResult =>
    record.outputs = nodeResult.outputs ∧ record.sideEffect = nodeResult.sideEffect ∧
      record.tokenCost = nodeResult.tokenCost ∧
      record.childTraces.getD [] = nodeResult.childTraces.getD [] ∧ record.error = none
  | .error raised => ∃ message, raised = .exception message ∧ record.error = some message

/-- The record tells everything about an execution: how it ended, the sum of its model calls, and
below it, in order, one record for each tool body it invoked and each node the engine executed for
it, which in turn tells everything. -/
inductive Told : Execution → TraceRecord → Prop where
  | intro {execution : Execution} {record : TraceRecord}
      (node : record.nodeId = execution.nodeId) (outcome : Reports record execution.outcome)
      (tokens : execution.ledger.modelCalls ≠ [] →
        record.tokenCost = totalCost execution.ledger.modelCalls)
      (tools : List.SublistForall₂ Told execution.ledger.tools (belowOf record.childTraces))
      (nodes : List.SublistForall₂ Told execution.ledger.nodes (belowOf record.childTraces)) :
      Told execution record

/-- An execution with nothing to show but itself. -/
def Execution.Idle (execution : Execution) : Prop :=
  totalCost execution.ledger.modelCalls = {} ∧ execution.ledger.tools = [] ∧
    execution.ledger.nodes = []

/-- An execution that returns no records of its own. -/
def Execution.Childless (execution : Execution) : Prop :=
  ∀ nodeResult, execution.outcome = .ok nodeResult → nodeResult.childTraces.getD [] = []

/-- Neither the execution nor one within takes a branch that drops records: it raises only while
it has nothing to show, and the tools it invokes return no records of their own. -/
inductive Lossless : Execution → Prop where
  | intro {execution : Execution}
      (raised : ∀ raised, execution.outcome = .error raised → execution.Idle)
      (tools : ∀ tool ∈ execution.ledger.tools, Lossless tool)
      (childless : ∀ tool ∈ execution.ledger.tools, tool.Childless)
      (nodes : ∀ node ∈ execution.ledger.nodes, Lossless node) : Lossless execution

section

variable {execution : Execution} {record : TraceRecord}

/-- Without records nothing is told. -/
theorem sublist_told_nil_iff {executions : List Execution} :
    List.SublistForall₂ Told executions [] ↔ executions = [] := by
  constructor
  · intro h
    cases h
    rfl
  · rintro rfl
    exact .nil

/-- The result of an execution accounts for its ledger: it has the sum of the model calls, and the
records below it tell everything about the executions within exactly if these lose nothing. -/
structure Accounts (nodeResult : NodeResult) (ledger : Ledger) : Prop where
  tokens : ledger.modelCalls ≠ [] → nodeResult.tokenCost = totalCost ledger.modelCalls
  tools : List.SublistForall₂ Told ledger.tools (belowOf nodeResult.childTraces) ↔
    ∀ tool ∈ ledger.tools, Lossless tool ∧ tool.Childless
  nodes : List.SublistForall₂ Told ledger.nodes (belowOf nodeResult.childTraces) ↔
    ∀ node ∈ ledger.nodes, Lossless node

/-- A record that shows nothing below it. -/
def Bare (record : TraceRecord) : Prop := record.tokenCost = {} ∧ record.childTraces = none

/-- An execution that raised is told by a bare record exactly if it is idle. -/
theorem told_raised_iff {raised : Raised} (hraised : execution.outcome = .error raised)
    (hnode : record.nodeId = execution.nodeId) (hreports : Reports record execution.outcome)
    (hbare : Bare record) : Told execution record ↔ Lossless execution := by
  have hbelow : belowOf record.childTraces = [] := by
    rw [hbare.2]
    rfl
  constructor
  · intro ⟨_, _, htokens, htools, hnodes⟩
    rw [hbelow, sublist_told_nil_iff] at htools hnodes
    refine .intro (fun _ _ => ⟨?_, htools, hnodes⟩) (by simp [htools]) (by simp [htools])
      (by simp [hnodes])
    by_cases hcalls : execution.ledger.modelCalls = []
    · rw [hcalls]
      rfl
    · rw [← htokens hcalls, hbare.1]
  · intro ⟨hidle, _, _, _⟩
    obtain ⟨htokens, htools, hnodes⟩ := hidle raised hraised
    refine .intro hnode hreports (fun _ => by rw [htokens, hbare.1]) ?_ ?_
    · rw [htools]
      exact .nil
    · rw [hnodes]
      exact .nil

/-- An execution that returned is told by the record of a result that accounts for it exactly if
it loses nothing. -/
theorem told_returned_iff {nodeResult : NodeResult} (hreturned : execution.outcome = .ok nodeResult)
    (hnode : record.nodeId = execution.nodeId) (hreports : Reports record execution.outcome)
    (haccounts : Accounts nodeResult execution.ledger) :
    Told execution record ↔ Lossless execution := by
  have hfields := hreports
  rw [hreturned] at hfields
  obtain ⟨-, -, hcost, htraces, -⟩ := hfields
  have hbelow : belowOf record.childTraces = belowOf nodeResult.childTraces :=
    congrArg List.flatten htraces
  constructor
  · intro ⟨_, _, _, htools, hnodes⟩
    rw [hbelow] at htools hnodes
    have hkept := haccounts.tools.mp htools
    refine .intro (fun raised hraised => ?_) (fun tool htool => (hkept tool htool).1)
      (fun tool htool => (hkept tool htool).2) (haccounts.nodes.mp hnodes)
    rw [hreturned] at hraised
    cases hraised
  · intro ⟨_, htools, hchildless, hnodes⟩
    refine .intro hnode hreports (fun hcalls => ?_) ?_ ?_
    · rw [hcost, haccounts.tokens hcalls]
    · rw [hbelow]
      exact haccounts.tools.mpr fun tool htool => ⟨htools tool htool, hchildless tool htool⟩
    · rw [hbelow]
      exact haccounts.nodes.mpr hnodes

end

/-! ## The engine with a ledger -/

/-- A program that keeps a ledger. -/
abbrev Tracked := Logged Op Res Ledger

/-- A computation that keeps a ledger and may raise. -/
abbrev TrackedAct (α : Type) := ExceptT Raised Tracked α

/-- The engine's effects. -/
def trackedRuntime : Runtime Tracked where
  utcnowIso := Logged.lift programRuntime.utcnowIso
  uuid4 := Logged.lift programRuntime.uuid4
  gather := Logged.gather

/-- The observers of a run, with the records they are handed. -/
def trackedObservers (observers : Observers (Program Op Res)) : Observers Tracked where
  onRoundStart ids := Logged.lift (observers.onRoundStart ids)
  onTraceRecord record := do
    Logged.note { recorded := [record] }
    Logged.lift (observers.onTraceRecord record)

variable {Body : Type}

/-- An execution that starts a ledger of its own, and is entered as a whole into the one of its
caller. -/
def entered (enter : Execution → Ledger) (execute : Body → ExecutionContext → TrackedAct NodeResult)
    (body : Body) (ctx : ExecutionContext) : Tracked (Except Raised NodeResult) := do
  let (outcome, ledger) ← Logged.lift (execute body ctx).run.run
  Logged.note (enter ⟨ctx.node.id, outcome, ledger⟩)
  pure outcome

/-- Run a graph and enter the nodes that are executed. -/
def trackedRunGraph (observers : Observers (Program Op Res))
    (execute : Body → ExecutionContext → TrackedAct NodeResult) (graph : GraphSpec)
    (registry : NodeRegistry Body) (store : ConnectionStore) (resources : Resources)
    (runId : Option String) : Tracked (Except Raised RunResult) :=
  runGraph trackedRuntime (trackedObservers observers)
    (entered (fun execution => { nodes := [execution] }) execute) graph registry store resources
    runId

/-! ### Erasing the ledger -/

section

variable {observers : Observers (Program Op Res)}
  {execute : Body → ExecutionContext → TrackedAct NodeResult} {graph : GraphSpec}
  {registry : NodeRegistry Body} {store : ConnectionStore} {resources : Resources}

@[simp] theorem erase_entered (enter : Execution → Ledger) (body : Body) (ctx : ExecutionContext) :
    (entered enter execute body ctx).erase = (execute body ctx).run.erase := by
  simp only [entered, Logged.erase_bind, Logged.erase_lift, Logged.erase_note, Logged.erase_pure]
  rfl

@[simp] theorem erase_onRoundStart (ids : List String) :
    ((trackedObservers observers).onRoundStart ids).erase = observers.onRoundStart ids :=
  Logged.erase_lift _

@[simp] theorem erase_onTraceRecord (record : TraceRecord) :
    ((trackedObservers observers).onTraceRecord record).erase = observers.onTraceRecord record := by
  simp [trackedObservers, Program.bind]

variable (enter : Execution → Ledger)

theorem erase_executeReady (runId : String) (ready : Ready) :
    (executeReady trackedRuntime
      (entered enter execute) graph registry resources runId ready).erase =
      executeReady programRuntime (fun body ctx => (execute body ctx).run.erase) graph registry
        resources runId ready := by
  unfold executeReady
  split
  · rfl
  · split
    · rfl
    · simp [executeNode, trackedRuntime]

theorem erase_finishRound (executed : List Executed) (state : SchedulerState) :
    (finishRound (trackedObservers observers) graph registry executed state).erase =
      finishRound observers graph registry executed state := by
  induction executed generalizing state with
  | nil => rfl
  | cons executed rest ih =>
      simp only [finishRound, Logged.erase_bind, erase_onTraceRecord, Program.bind_eq]
      refine congrArg (Program.bind _) (funext fun _ => ?_)
      split
      · rfl
      · exact ih _

theorem erase_schedule (runId : String) (fuel : Nat) (state : SchedulerState) :
    (schedule trackedRuntime (trackedObservers observers) (entered enter execute) graph registry
      resources runId fuel state).erase =
    schedule programRuntime observers (fun body ctx => (execute body ctx).run.erase) graph registry
      resources runId fuel state := by
  induction fuel generalizing state with
  | zero => rfl
  | succ fuel ih =>
      unfold schedule
      split
      · rfl
      · split
        · rfl
        · rfl
        · simp only [Logged.erase_bind, erase_onRoundStart, Program.bind_eq]
          refine congrArg (Program.bind _) (funext fun _ => ?_)
          rw [show (trackedRuntime.gather _).erase = _ from Logged.erase_gather _, List.map_map,
            show Logged.erase ∘ _ = _ from funext (erase_executeReady enter runId)]
          refine congrArg (Program.bind _) (funext fun _ => ?_)
          split
          · rfl
          · rw [Logged.erase_bind, erase_finishRound]
            refine congrArg (Program.bind _) (funext fun _ => ?_)
            split
            · rfl
            · exact ih _

theorem erase_runGraphAsync (runId : String) :
    (runGraphAsync trackedRuntime (trackedObservers observers)
      (entered enter execute) graph registry
      resources runId).erase =
    runGraphAsync programRuntime observers (fun body ctx => (execute body ctx).run.erase) graph
      registry resources runId := by
  unfold runGraphAsync
  rw [Logged.erase_bind, erase_schedule]
  refine congrArg (Program.bind _) (funext fun outcome => ?_)
  cases outcome with
  | error raised => rfl
  | ok state => rfl

/-- Erasing the ledger gives back the run. -/
theorem erase_runGraph (runId : Option String) :
    (trackedRunGraph observers execute graph registry store resources runId).erase =
      runGraph programRuntime observers (fun body ctx => (execute body ctx).run.erase)
        graph registry
        store resources runId := by
  have herase : trackedRuntime.uuid4.erase = programRuntime.uuid4 := Logged.erase_lift _
  unfold trackedRunGraph runGraph
  split
  · rfl
  · dsimp only
    split
    · split
      · rw [Logged.erase_bind, herase]
        exact congrArg (Program.bind _) (funext fun _ => erase_runGraphAsync _ _)
      · rw [Logged.erase_bind]
        exact erase_runGraphAsync _ _
    · rw [Logged.erase_bind, herase]
      exact congrArg (Program.bind _) (funext fun _ => erase_runGraphAsync _ _)

end

/-! ### What the engine's records tell -/

/-- Each of the records tells everything about its execution exactly if this loses nothing. -/
abbrev Accountable : List Execution → List TraceRecord → Prop :=
  List.Forall₂ fun execution record => Told execution record ↔ Lossless execution

/-- All records of executions that can be accounted for tell everything if no execution loses
anything. -/
theorem Accountable.told_iff {executions : List Execution} {records : List TraceRecord}
    (h : Accountable executions records) :
    List.Forall₂ Told executions records ↔ ∀ execution ∈ executions, Lossless execution := by
  induction h with
  | nil => simp
  | cons hhead _ ih => rw [List.forall₂_cons, List.forall_mem_cons, hhead, ih]

/-- As many records as executions tell about all of them only one by one. -/
theorem Accountable.sublist_iff {executions : List Execution} {records : List TraceRecord}
    (h : Accountable executions records) :
    List.SublistForall₂ Told executions records ↔ List.Forall₂ Told executions records := by
  rw [List.sublistForall₂_iff]
  constructor
  · intro ⟨chosen, hchosen, hsub⟩
    have hlength : chosen.length = records.length := hchosen.length_eq.symm.trans h.length_eq
    rwa [← hsub.eq_of_length hlength]
  · exact fun hall => ⟨records, hall, .refl records⟩

/-- A ledger to which only the engine added. -/
structure EngineLedger (ledger : Ledger) : Prop where
  modelCalls : ledger.modelCalls = []
  tools : ledger.tools = []

theorem EngineLedger.empty : EngineLedger ∅ := ⟨rfl, rfl⟩

theorem EngineLedger.append {ledger more : Ledger} (h : EngineLedger ledger)
    (hmore : EngineLedger more) : EngineLedger (ledger ++ more) where
  modelCalls := by rw [Ledger.modelCalls_append, h.modelCalls, hmore.modelCalls, List.nil_append]
  tools := by rw [Ledger.tools_append, h.tools, hmore.tools, List.nil_append]

section

variable {observers : Observers (Program Op Res)}
  {execute : Body → ExecutionContext → TrackedAct NodeResult} {graph : GraphSpec}
  {registry : NodeRegistry Body} {store : ConnectionStore} {resources : Resources}

/-- Every result of a body accounts for the ledger of its execution. -/
def BodiesAccount (execute : Body → ExecutionContext → TrackedAct NodeResult) : Prop :=
  ∀ body ctx, Logged.Yields (execute body ctx).run fun outcome ledger =>
    ∀ nodeResult, outcome = .ok nodeResult → Accounts nodeResult ledger

/-- What the execution of a ready node adds to the ledger. -/
structure ExecutedOnce (outcome : Except Raised Executed) (ledger : Ledger) : Prop where
  engine : EngineLedger ledger
  recorded : ledger.recorded = []
  accountable : ∀ executed, outcome = .ok executed → Accountable ledger.nodes [executed.record]

/-- The record of an outcome tells everything about its execution exactly if this loses
nothing. -/
theorem record_outcome_told_iff {node : NodeSpec} {inputs : Config}
    {runId startedAt finishedAt : String} {outcome : Except Raised NodeResult} {ledger : Ledger}
    (haccounts : ∀ nodeResult, outcome = .ok nodeResult → Accounts nodeResult ledger)
    {executed : Executed}
    (h : recordOutcome node inputs runId startedAt finishedAt outcome = .ok executed) :
    Told ⟨node.id, outcome, ledger⟩ executed.record ↔ Lossless ⟨node.id, outcome, ledger⟩ := by
  cases outcome with
  | ok nodeResult =>
      cases h
      exact told_returned_iff rfl rfl ⟨rfl, rfl, rfl, rfl, rfl⟩ (haccounts nodeResult rfl)
  | error raised =>
      cases raised with
      | exception message =>
          cases h
          exact told_raised_iff rfl rfl ⟨message, rfl, rfl⟩ ⟨rfl, rfl⟩
      | baseException message => cases h
      | unprintable raised => cases h

/-- An execution is entered with its outcome and its ledger. -/
theorem entered_yields {post : Except Raised NodeResult → Ledger → Prop} {body : Body}
    {ctx : ExecutionContext} (enter : Execution → Ledger)
    (h : Logged.Yields (execute body ctx).run post) :
    Logged.Yields (entered enter execute body ctx) fun outcome entry =>
      ∃ ledger, post outcome ledger ∧ entry = ∅ ++ (enter ⟨ctx.node.id, outcome, ledger⟩ ++ ∅) := by
  have hbody : Logged.Yields (Logged.lift (execute body ctx).run.run : Tracked _)
      fun result entry => post result.1 result.2 ∧ entry = ∅ :=
    .lift h fun _ hresult => ⟨hresult, rfl⟩
  refine hbody.bind fun result entry hresult => ?_
  obtain ⟨hpost, rfl⟩ := hresult
  have hnote : Logged.Yields (Logged.note (enter ⟨ctx.node.id, result.1, result.2⟩) : Tracked Unit)
      fun _ noted => noted = enter ⟨ctx.node.id, result.1, result.2⟩ := .note rfl
  refine hnote.bind fun _ noted hnoted => .pure ?_
  rw [hnoted]
  exact ⟨result.2, hpost, rfl⟩

theorem execute_ready_yields (hbodies : BodiesAccount execute) (runId : String) (ready : Ready) :
    Logged.Yields (executeReady trackedRuntime
      (entered (fun execution => { nodes := [execution] }) execute) graph registry resources runId
      ready) ExecutedOnce := by
  unfold executeReady
  split
  · exact .pure ⟨.empty, rfl, nofun⟩
  · split
    · exact .pure ⟨.empty, rfl, nofun⟩
    · rename_i node _ definition _
      refine .bind (.silent _) fun startedAt _ hstarted => ?_
      refine .bind (entered_yields _ (hbodies _ _)) fun outcome _ hentered => ?_
      refine .bind (.silent _) fun finishedAt _ hfinished => .pure ?_
      obtain ⟨ledger, haccounts, rfl⟩ := hentered
      subst hstarted hfinished
      refine ⟨⟨rfl, rfl⟩, rfl, fun executed hexecuted => ?_⟩
      exact .cons (record_outcome_told_iff haccounts hexecuted) .nil

/-- The records that the scheduler takes over, in order, up to an exception. -/
structure TakenOver (executed : List Executed) (state : SchedulerState)
    (outcome : Except Raised SchedulerState) (ledger : Ledger) : Prop where
  engine : EngineLedger ledger
  nodes : ledger.nodes = []
  recorded : ledger.recorded <+: executed.map Executed.record
  final : ∀ final, outcome = .ok final → ledger.recorded = executed.map Executed.record ∧
    final.trace = state.trace ++ ledger.recorded

theorem finish_round_yields (executed : List Executed) (state : SchedulerState) :
    Logged.Yields (finishRound (trackedObservers observers) graph registry executed state)
      (TakenOver executed state) := by
  induction executed generalizing state with
  | nil =>
      refine .pure ⟨.empty, rfl, List.nil_prefix, fun final hfinal => ?_⟩
      cases hfinal
      exact ⟨rfl, (List.append_nil _).symm⟩
  | cons head rest ih =>
      have hobserved : Logged.Yields ((trackedObservers observers).onTraceRecord head.record)
          fun _ ledger => ledger = { recorded := [head.record] } := by
        have hnote : Logged.Yields (Logged.note { recorded := [head.record] } : Tracked Unit)
            fun _ noted => noted = { recorded := [head.record] } := .note rfl
        refine hnote.bind fun _ _ hnoted => ?_
        refine (Logged.Yields.silent _).mono fun _ _ hsilent => ?_
        rw [hnoted, hsilent]
        rfl
      unfold finishRound
      refine hobserved.bind fun _ _ hrecorded => ?_
      subst hrecorded
      split
      · exact .pure ⟨⟨rfl, rfl⟩, rfl, by simp, nofun⟩
      · rename_i next habsorb
        refine (ih next).mono fun outcome ledger htaken => ?_
        refine ⟨.append ⟨rfl, rfl⟩ htaken.engine, htaken.nodes, ?_, fun final hfinal => ?_⟩
        · simpa using htaken.recorded
        · obtain ⟨hall, htrace⟩ := htaken.final final hfinal
          rw [htrace, absorb_trace habsorb]
          simp [hall]

/-- What a part of a run adds to the ledger: the nodes whose records were taken over, which can be
accounted for, and the nodes that an exception left behind. -/
structure RunLedger (trace : List TraceRecord) (final : Except Raised (List TraceRecord))
    (ledger : Ledger) : Prop where
  engine : EngineLedger ledger
  accountable : ∃ taken left, ledger.nodes = taken ++ left ∧ Accountable taken ledger.recorded ∧
    ∀ whole, final = .ok whole → left = [] ∧ whole = trace ++ ledger.recorded

/-- The outcomes of a round with their ledgers. -/
theorem collect_accountable {results : List (Except Raised Executed × Ledger)}
    (hresults : ∀ result ∈ results, ExecutedOnce result.1 result.2) {executed : List Executed}
    (h : collectOutcomes (results.map Prod.fst) = .ok executed) :
    Accountable ((results.map Prod.snd).foldr (· ++ ·) ∅).nodes (executed.map Executed.record) := by
  induction results generalizing executed with
  | nil =>
      cases h
      exact .nil
  | cons result results ih =>
      obtain ⟨outcome, ledger⟩ := result
      cases outcome with
      | error raised => cases h
      | ok head =>
          rw [List.map_cons, collectOutcomes] at h
          cases hrest : collectOutcomes (results.map Prod.fst) with
          | error raised =>
              rw [hrest] at h
              cases h
          | ok rest =>
              rw [hrest] at h
              cases h
              have hhead := (hresults _ List.mem_cons_self).accountable head rfl
              exact List.rel_append hhead
                (ih (fun _ hmem => hresults _ (List.mem_cons_of_mem _ hmem)) hrest)

/-- A round's executions add only themselves. -/
theorem round_ledger {results : List (Except Raised Executed × Ledger)}
    (hresults : ∀ result ∈ results, ExecutedOnce result.1 result.2) :
    EngineLedger ((results.map Prod.snd).foldr (· ++ ·) ∅) ∧
      ((results.map Prod.snd).foldr (· ++ ·) ∅ : Ledger).recorded = [] := by
  induction results with
  | nil => exact ⟨.empty, rfl⟩
  | cons result results ih =>
      rw [List.forall_mem_cons] at hresults
      obtain ⟨hengine, hrecorded⟩ := ih hresults.2
      refine ⟨hresults.1.engine.append hengine, ?_⟩
      rw [List.map_cons, List.foldr_cons, Ledger.recorded_append, hresults.1.recorded, hrecorded]
      rfl

/-- A part of a run that is over before it executes anything. -/
theorem RunLedger.nothing {trace : List TraceRecord} {final : Except Raised (List TraceRecord)}
    (h : ∀ whole, final = .ok whole → whole = trace) : RunLedger trace final ∅ where
  engine := .empty
  accountable := ⟨[], [], rfl, .nil, fun whole hwhole => ⟨rfl, by simp [h whole hwhole]⟩⟩

/-- A round in which an exception escapes a body leaves all its nodes behind. -/
theorem RunLedger.dropped {trace : List TraceRecord} {raised : Raised} {round : Ledger}
    (hround : EngineLedger round) (hrecorded : round.recorded = []) :
    RunLedger trace (.error raised) (round ++ ∅) where
  engine := hround.append .empty
  accountable := ⟨[], round.nodes, List.append_nil _, by simp [hrecorded], nofun⟩

/-- A round that is cut off leaves the nodes behind whose records were not taken over. -/
theorem RunLedger.cut {trace : List TraceRecord} {raised : Raised} {round taking : Ledger}
    {records : List TraceRecord} (hround : EngineLedger round) (hrecorded : round.recorded = [])
    (htaking : EngineLedger taking) (hnodes : taking.nodes = [])
    (haccountable : Accountable round.nodes records) (hearlier : taking.recorded <+: records) :
    RunLedger trace (.error raised) (round ++ taking) where
  engine := hround.append htaking
  accountable := by
    refine ⟨round.nodes.take taking.recorded.length,
      round.nodes.drop taking.recorded.length, ?_, ?_,
      nofun⟩
    · rw [Ledger.nodes_append, hnodes, List.append_nil, List.take_append_drop]
    · rw [Ledger.recorded_append, hrecorded, List.nil_append]
      obtain ⟨others, rfl⟩ := hearlier
      exact List.forall₂_take_append _ _ others haccountable

/-- A part of a run that begins with a whole round. -/
theorem RunLedger.round {trace : List TraceRecord} {final : Except Raised (List TraceRecord)}
    {round rest : Ledger} (hround : EngineLedger round)
    (haccountable : Accountable round.nodes round.recorded)
    (hrest : RunLedger (trace ++ round.recorded) final rest) :
    RunLedger trace final (round ++ rest) where
  engine := hround.append hrest.engine
  accountable := by
    obtain ⟨taken, left, hnodes, htaken, hfinal⟩ := hrest.accountable
    refine ⟨round.nodes ++ taken, left, ?_, List.rel_append haccountable htaken,
      fun whole hwhole => ?_⟩
    · rw [Ledger.nodes_append, hnodes, List.append_assoc]
    · rw [Ledger.recorded_append, ← List.append_assoc]
      exact hfinal whole hwhole

/-- The main loop accounts for the nodes it executes. -/
theorem schedule_yields (hbodies : BodiesAccount execute) (runId : String) (fuel : Nat)
    (state : SchedulerState) :
    Logged.Yields (schedule trackedRuntime (trackedObservers observers)
      (entered (fun execution => { nodes := [execution] }) execute) graph registry resources runId
      fuel state) fun outcome => RunLedger state.trace (outcome.map SchedulerState.trace) := by
  induction fuel generalizing state with
  | zero =>
      refine .pure (.nothing fun whole hwhole => ?_)
      cases hwhole
      rfl
  | succ fuel ih =>
      unfold schedule
      split
      · refine .pure (.nothing fun whole hwhole => ?_)
        cases hwhole
        rfl
      · split
        · exact .pure (.nothing nofun)
        · rename_i started hstart
          refine .pure (.nothing fun whole hwhole => ?_)
          cases hwhole
          exact pass_nodes_trace hstart
        · rename_i started ready _ hstart
          -- A round: the nodes run, their results are collected, and the rest goes on from there.
          refine .bind (.silent _) fun _ _ hsilent => ?_
          subst hsilent
          have hready : ∀ program ∈ ready.map (executeReady trackedRuntime
              (entered (fun execution => { nodes := [execution] }) execute) graph registry resources
              runId), Logged.Yields program ExecutedOnce := by
            intro program hprogram
            obtain ⟨node, _, rfl⟩ := List.mem_map.mp hprogram
            exact execute_ready_yields hbodies runId node
          refine .bind (.gather hready) fun outcomes round hround => ?_
          obtain ⟨results, rfl, rfl, hresults⟩ := hround
          obtain ⟨hengine, hrecorded⟩ := round_ledger hresults
          have htrace : started.trace = state.trace := pass_nodes_trace hstart
          rw [← htrace]
          simp only [Ledger.empty_append]
          split
          · exact .pure (.dropped hengine hrecorded)
          · rename_i executed hcollect
            have haccountable := collect_accountable hresults hcollect
            refine .bind (finish_round_yields executed started) fun outcome taking htaken => ?_
            cases outcome with
            | error raised =>
                refine .pure ?_
                rw [Ledger.append_empty]
                exact .cut hengine hrecorded htaken.engine htaken.nodes haccountable htaken.recorded
            | ok next =>
                obtain ⟨hall, hnext⟩ := htaken.final next rfl
                refine (ih next).mono fun outcome rest hrest => ?_
                rw [Ledger.append_assoc]
                refine .round (hengine.append htaken.engine) ?_ ?_
                · rw [Ledger.nodes_append, htaken.nodes, List.append_nil, Ledger.recorded_append,
                    hrecorded, List.nil_append, hall]
                  exact haccountable
                · rw [Ledger.recorded_append, hrecorded, List.nil_append, ← hnext]
                  exact hrest

/-- A run accounts for the nodes it executes. -/
theorem run_graph_yields (hbodies : BodiesAccount execute) (runId : Option String) :
    Logged.Yields (trackedRunGraph observers execute graph registry store resources runId)
      fun outcome => RunLedger [] (outcome.map RunResult.trace) := by
  -- The run id is given or drawn; the run itself is the same.
  have hasync : ∀ runId, Logged.Yields (runGraphAsync trackedRuntime (trackedObservers observers)
      (entered (fun execution => { nodes := [execution] }) execute) graph registry
      (withGraph resources graph) runId) fun outcome =>
        RunLedger [] (outcome.map RunResult.trace) := by
    intro runId
    unfold runGraphAsync
    refine .bind (schedule_yields hbodies runId _ _) fun outcome ledger hledger => ?_
    cases outcome with
    | error raised =>
        refine .pure ?_
        rw [Ledger.append_empty]
        exact hledger
    | ok state =>
        refine .pure ?_
        rw [Ledger.append_empty]
        exact hledger
  unfold trackedRunGraph runGraph
  split
  · exact .pure (.nothing nofun)
  · dsimp only
    split
    · split
      · refine .bind (.silent _) fun fresh _ hsilent => ?_
        subst hsilent
        exact hasync fresh
      · rename_i given _
        have hgiven : Logged.Yields (pure given : Tracked String) fun _ ledger => ledger = ∅ :=
          .pure rfl
        refine hgiven.bind fun value _ hsilent => ?_
        subst hsilent
        exact hasync value
    · refine .bind (.silent _) fun fresh _ hsilent => ?_
      subst hsilent
      exact hasync fresh

end

end AgentGraphStudio
