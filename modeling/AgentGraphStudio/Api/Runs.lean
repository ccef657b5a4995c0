import AgentGraphStudio.Nodes.Execute

/-!
# The thread of a run

`execute_run` of `backend/api/runs.py`: run a graph with observers that keep the run's record
up to date, then write down how it ended. Only an `Exception` is caught. Any other exception
leaves `result_json` without a value, as does an `Exception` whose text can not be had, and the
`finally` block raises in its turn when it comes to read it. A `FinishedRun` is an execution that
came to its end, split into the part of `run_graph` and the part after it: `execute_run_ends_iff`.
-/

namespace AgentGraphStudio

/-- The observers of a run (`on_round_start` and `on_trace_record`). -/
def runObservers (runId : String) : Observers (Program Op Res) where
  onRoundStart nodeIds := do
    let _ ← Program.op (Op.updateRun runId (.setRunningNodeIds nodeIds))
    pure ()
  onTraceRecord record := do
    let _ ← Program.op (Op.updateRun runId (.removeRunningNodeId record.nodeId))
    let _ ← Program.op (Op.updateRun runId (.appendTrace record))
    pure ()

/-- The resources with the two callbacks of the run. -/
def runResources (resources : Resources) (runId : String) : Resources :=
  { resources with onSubNodeActivity := some runId, approvalPrompt := some runId }

/-- The local variables `result_json` and `error`. -/
abbrev RunEnd := Option String × Option String

section

variable (env : Environment) (depth : Nat) (modelDumpJson : RunResult → Except Raised String)
  (runId : String) (graph : GraphSpec) (resources : Resources)

/-- The call of `run_graph`. It reads the stored connections for its validation. -/
def runGraphOf (store : ConnectionStore) : Program Op Res (Except Raised RunResult) :=
  runGraphWith env depth (runObservers runId) graph store (runResources resources runId) none

/-- What the `try` block does with a result. -/
def completeRun (result : RunResult) : Act RunEnd := do
  let _ ← Act.perform (.updateRun runId (.setResult result.result))
  let _ ← Act.perform (.updateRun runId (.setStatus .completed))
  let resultJson ← Act.ofExcept (modelDumpJson result)
  pure (some resultJson, none)

/-- The handler of an `Exception` with this text. -/
def failRun (text : Except Raised String) : Act RunEnd := do
  let _ ← Act.perform (.updateRun runId (.setStatus .failed))
  let message ← Act.ofExcept text
  let _ ← Act.perform (.updateRun runId (.setError message))
  pure (none, some message)

/-- The `finally` block. The write of the row raises if the text of the error has no encoding,
since only the exceptions of SQLite itself are caught there. -/
def finishRun (ending : Except Raised RunEnd) : Act Unit := do
  let _ ← Act.perform (.updateRun runId (.setRunningNodeIds []))
  let _ ← Act.perform (.updateRun runId (.setActiveSubNodeIds []))
  let finishedAt ← Act.perform .utcnowIso
  let _ ← Act.perform (.updateRun runId (.setFinishedAt finishedAt))
  match ending with
  | .error _ =>
    Act.raise ("cannot access local variable 'result_json' where it is not associated with a " ++
      "value")
  | .ok (resultJson, error) =>
    if error.all env.python.encodes then do
      let _ ← Act.perform (.updateRun runId (.completeRunRecord resultJson error))
      ExceptT.lift (clearRememberedForRun runId)
    else Act.raise "'utf-8' codec can't encode characters: surrogates not allowed"

def executeRun : Act Unit :=
  ExceptT.mk do
    let ending ← (Act.catchException
      (do
        let store ← Act.perform .readConnections
        let result ← Act.ofProgram (runGraphOf env depth runId graph resources store)
        completeRun modelDumpJson runId result)
      (failRun runId)).run
    (finishRun env runId ending).run

/-! ## Finished runs -/

/-- What follows `run_graph`. -/
def concludeRun (outcome : Except Raised RunResult) : Program Op Res (Except Raised Unit) := do
  let ending ← (Act.catchException
    (do completeRun modelDumpJson runId (← Act.ofExcept outcome)) (failRun runId)).run
  (finishRun env runId ending).run

theorem execute_run_eq : (executeRun env depth modelDumpJson runId graph resources).run =
    (Program.op Op.readConnections : Program Op Res ConnectionStore).bind fun store =>
      (runGraphOf env depth runId graph resources store).bind
        (concludeRun env modelDumpJson runId) := by
  refine congrArg (Program.perform Op.readConnections) (funext fun store => ?_)
  change (((runGraphOf env depth runId graph resources store).bind _).bind _).bind _ = _
  rw [Program.bind_assoc, Program.bind_assoc]
  refine congrArg _ (funext fun outcome => ?_)
  cases outcome with
  | ok result => exact (Program.bind_assoc _ _ _).symm
  | error raised => rfl

/-- An execution of `execute_run` that came to its end. -/
structure FinishedRun where
  store : ConnectionStore
  graphEvents : History
  outcome : Except Raised RunResult
  closing : History
  ended : Except Raised Unit
  graphEnds : Program.Ends (runGraphOf env depth runId graph resources store) graphEvents outcome
  closingEnds : Program.Ends (concludeRun env modelDumpJson runId outcome) closing ended

variable {env depth modelDumpJson runId graph resources}

/-- Everything that a finished run performed. -/
def FinishedRun.events (run : FinishedRun env depth modelDumpJson runId graph resources) :
    History :=
  ⟨.readConnections, run.store⟩ :: (run.graphEvents ++ run.closing)

/-- The executions of `execute_run` that end are the finished runs. -/
theorem execute_run_ends_iff {events : History} {ended : Except Raised Unit} :
    Program.Ends (executeRun env depth modelDumpJson runId graph resources).run events ended ↔
      ∃ run : FinishedRun env depth modelDumpJson runId graph resources,
        run.events = events ∧ run.ended = ended := by
  rw [execute_run_eq, Program.ends_bind_iff]
  constructor
  · rintro ⟨first, store, second, rfl, hfirst, hsecond⟩
    rw [Program.ends_op_iff] at hfirst
    subst hfirst
    obtain ⟨graphEvents, outcome, closing, rfl, hgraph, hclosing⟩ :=
      Program.ends_bind_iff.mp hsecond
    exact ⟨⟨store, graphEvents, outcome, closing, ended, hgraph, hclosing⟩, rfl, rfl⟩
  · rintro ⟨run, rfl, rfl⟩
    exact ⟨_, run.store, _, rfl, Program.ends_op_iff.mpr rfl,
      Program.ends_bind_iff.mpr ⟨_, _, _, rfl, run.graphEnds, run.closingEnds⟩⟩

end

/-! ## What a run performs -/

section

variable {policy : Policy} {runId : String}

theorem run_observers_always {engineRunId : String}
    (hround : ∀ history nodeIds,
      policy.permitted history (.updateRun runId (.setRunningNodeIds nodeIds)))
    (hremove : ∀ history nodeId,
      policy.permitted history (.updateRun runId (.removeRunningNodeId nodeId)))
    (happend : ∀ history record, record.runId = engineRunId →
      policy.permitted history (.updateRun runId (.appendTrace record))) :
    (runObservers runId).Always policy engineRunId where
  onRoundStart _ := (Program.Always.op fun _ => hround _ _).bind fun _ => Program.Always.done _
  onTraceRecord _ hrecord := (Program.Always.op fun _ => hremove _ _).bind fun _ =>
    (Program.Always.op fun _ => happend _ _ hrecord).bind fun _ => Program.Always.done _

/-- A whole run keeps a policy that its nodes keep, if its own record may be changed and its
remembered approvals cleared. -/
theorem Discipline.execute_run_always {env : Environment} (discipline : Discipline env)
    {depth : Nat} {modelDumpJson : RunResult → Except Raised String} {graph : GraphSpec}
    {resources : Resources}
    (hupdate : ∀ history update, discipline.policy.permitted history (.updateRun runId update))
    (hclear : ∀ history, discipline.policy.permitted history (.approval (.clearRemembered runId)))
    (hfixed : discipline.Fixed (runResources resources runId))
    (hgood : ∀ node ∈ graph.nodes, discipline.Good node) :
    (executeRun env depth modelDumpJson runId graph resources).Always discipline.policy := by
  have hperform := fun update => Act.always_perform fun history => hupdate history update
  have hattempt : (do
      let store ← Act.perform .readConnections
      let result ← Act.ofProgram (runGraphOf env depth runId graph resources store)
      completeRun modelDumpJson runId result).Always discipline.policy := by
    refine Act.always_bind (Act.always_routine trivial) fun store => ?_
    refine Act.always_bind (Act.always_ofProgram (discipline.run_graph_with_always
      (fun _ => run_observers_always (fun _ _ => hupdate _ _) (fun _ _ => hupdate _ _)
        fun _ _ _ => hupdate _ _) hfixed hgood)) fun result => ?_
    refine Act.always_bind (hperform _) fun _ => Act.always_bind (hperform _) fun _ => ?_
    exact Act.always_bind (Act.always_ofExcept _) fun _ => Act.always_pure _
  have hhandler : ∀ text, (failRun runId text).Always discipline.policy := fun text =>
    Act.always_bind (hperform _) fun _ => Act.always_bind (Act.always_ofExcept text) fun _ =>
      Act.always_bind (hperform _) fun _ => Act.always_pure _
  refine Program.Always.bind (Act.always_catchException hattempt hhandler) fun ending => ?_
  refine Act.always_bind (hperform _) fun _ => Act.always_bind (hperform _) fun _ => ?_
  refine Act.always_bind (Act.always_routine trivial) fun finishedAt => ?_
  refine Act.always_bind (hperform _) fun _ => ?_
  rcases ending with raised | ⟨resultJson, error⟩
  · exact Act.always_raise _
  · dsimp only
    split
    · exact Act.always_bind (hperform _) fun _ => Act.always_lift (Program.Always.op hclear)
    · exact Act.always_raise _

end

end AgentGraphStudio
