import AgentGraphStudio.Api.RunOutcome

/-!
# Reading a finished run

`GET /runs/{run_id}` answers from the record in memory while there is one, and from the durable
row when it is gone. The record's trace grows as the run goes on, and the row only has the trace
inside a serialised result. `reads_agree_iff` says for which finished runs the two answers are
the same.
-/

namespace AgentGraphStudio

/-! ## The two answers -/

/-- The answer of `GET /runs/{run_id}`. -/
structure RunStatusResponse where
  runId : String
  status : RunStatus
  graphId : Option String
  triggerSource : String
  runningNodeIds : List String
  activeSubNodeIds : List String
  pendingApprovals : List PendingApproval
  trace : List TraceRecord
  result : Option Config
  error : Option String
  runBy : Option String

/-- The answer from the record in memory. -/
def RunStatusResponse.ofRecord (record : RunRecord) (pendingApprovals : List PendingApproval) :
    RunStatusResponse where
  runId := record.runId
  status := record.status
  graphId := record.graphId
  triggerSource := record.triggerSource
  runningNodeIds := record.runningNodeIds
  activeSubNodeIds := record.activeSubNodeIds
  pendingApprovals
  trace := record.trace
  result := record.result
  error := record.error
  runBy := record.runBy

/-- The answer from the durable row. `jsonLoads` reads a serialised result. -/
def RunStatusResponse.ofRow (jsonLoads : String → RunResult) (row : RunRow) :
    RunStatusResponse where
  runId := row.runId
  status := row.status
  graphId := row.graphId
  triggerSource := row.triggerSource
  runningNodeIds := []
  activeSubNodeIds := []
  pendingApprovals := []
  trace :=
    match row.resultJson with
    | none => []
    | some resultJson => (jsonLoads resultJson).trace
  result := row.resultJson.map fun resultJson => (jsonLoads resultJson).result
  error := row.error
  runBy := row.runBy

/-- `get_run`, or `none` for status 404. -/
def getRun (jsonLoads : String → RunResult) (record : Option RunRecord) (row : Option RunRow)
    (pendingApprovals : List PendingApproval) : Option RunStatusResponse :=
  match record with
  | some record => some (.ofRecord record pendingApprovals)
  | none => row.map (.ofRow jsonLoads)

/-- Two answers tell the same about how the run ended. -/
structure RunStatusResponse.Same (first second : RunStatusResponse) : Prop where
  status : first.status = second.status
  result : first.result = second.result
  trace : first.trace = second.trace
  error : first.error = second.error

/-- The answer from memory and the one after the record is gone tell the same. -/
def ReadsAgree (jsonLoads : String → RunResult) (state : RunState) : Prop :=
  ∀ pendingApprovals, ∃ first second,
    getRun jsonLoads (some state.record) state.row pendingApprovals = some first ∧
    getRun jsonLoads none state.row pendingApprovals = some second ∧ first.Same second

/-! ## Finished runs -/

section

variable {env : Environment} {depth : Nat} {modelDumpJson : RunResult → Except Raised String}
  {runId : String} {graph : GraphSpec} {resources : Resources}

/-- The circumstances in which the two answers are the same: `run_graph` returned a result and it
could be serialised, or it came to no record of a node before it raised something of which the row
tells as much as the record in memory. -/
def ReadsCoincide (run : FinishedRun env depth modelDumpJson runId graph resources) : Prop :=
  match run.outcome with
  | .ok result => ∃ resultJson, modelDumpJson result = .ok resultJson
  | .error (.exception message) => env.python.encodes message ∧ run.Unrecorded
  | .error (.baseException _) => run.Unrecorded
  | .error (.unprintable _) => False

theorem reads_agree_state_iff {jsonLoads : String → RunResult} {state : RunState} :
    ReadsAgree jsonLoads state ↔ ∃ row, state.row = some row ∧
      (RunStatusResponse.ofRecord state.record []).Same (.ofRow jsonLoads row) := by
  constructor
  · intro h
    obtain ⟨first, second, hfirst, hsecond, hsame⟩ := h []
    cases hfirst
    obtain ⟨row, hrow, rfl⟩ := Option.map_eq_some_iff.mp hsecond
    exact ⟨row, hrow, hsame⟩
  · intro h pendingApprovals
    obtain ⟨row, hrow, hsame⟩ := h
    refine ⟨_, _, rfl, ?_, hsame.status, hsame.result, hsame.trace, hsame.error⟩
    rw [hrow]
    rfl

theorem row_written {closing : History} {written : Bool}
    (hwrites : closing.filterMap (rowWrite runId) = [written]) (h : RowWritten runId closing) :
    written = true := by
  unfold RowWritten at h
  rw [hwrites] at h
  simpa using h

/-- A row that still says that the run is under way differs from a record that does not. -/
theorem not_reads_agree_of_running {jsonLoads : String → RunResult} {state : RunState}
    {row : RunRow} (hrow : state.row = some row) (hrunning : row.status = .running)
    (hmoved : state.record.status ≠ .running) : ¬ ReadsAgree jsonLoads state := by
  intro h
  obtain ⟨other, hother, hsame⟩ := reads_agree_state_iff.mp h
  cases hrow.symm.trans hother
  exact hmoved (hsame.status.trans hrunning)

section

variable {run : FinishedRun env depth modelDumpJson runId graph resources}
  {graphId : Option String} {triggerSource startedAt : String} {runBy : Option String}
  {jsonLoads : String → RunResult}

/-- The row of an exception has no result, and so no trace. -/
theorem reads_agree_exception_iff {message : String}
    (houtcome : run.outcome = .error (.exception message))
    (hwritten : RowWritten runId run.closing) :
    ReadsAgree jsonLoads
        (run.final (createRun runId graphId triggerSource startedAt runBy true)) ↔
      env.python.encodes message ∧ run.Unrecorded := by
  rw [run.unrecorded_iff]
  by_cases hencodes : env.python.encodes message = true
  · obtain ⟨counts, finishedAt, written, _, _, hwrites, hfinal⟩ := run.final_of_verdict
      (createRun runId graphId triggerSource startedAt runBy true)
      (houtcome ▸ verdict_exception hencodes)
    rw [reads_agree_state_iff, hfinal, row_written hwrites hwritten]
    constructor
    · intro h
      obtain ⟨row, hrow, hsame⟩ := h
      cases hrow
      exact ⟨hencodes, hsame.trace⟩
    · intro h
      exact ⟨_, rfl, rfl, rfl, h.2, rfl⟩
  · -- The record has failed and the row is as it was inserted.
    obtain ⟨before, counts, running, active, finishedAt, third, last, _, hlast, _, _, hfinal⟩ :=
      run.final_eq (createRun runId graphId triggerSource startedAt runBy true)
    rw [houtcome] at hlast hfinal
    rw [hfinal, show last = [] from (if_neg hencodes).mp hlast]
    exact iff_of_false (not_reads_agree_of_running rfl rfl nofun) fun h => hencodes h.1

/-- The row of an interrupted run is as it was inserted, and so is its record but for the trace. -/
theorem reads_agree_interrupted_iff {message : String}
    (houtcome : run.outcome = .error (.baseException message)) :
    ReadsAgree jsonLoads
        (run.final (createRun runId graphId triggerSource startedAt runBy true)) ↔
      run.Unrecorded := by
  rw [run.unrecorded_iff]
  obtain ⟨before, counts, running, active, finishedAt, third, last, _, hlast, _, _, hfinal⟩ :=
    run.final_eq (createRun runId graphId triggerSource startedAt runBy true)
  rw [houtcome] at hlast hfinal
  rw [reads_agree_state_iff, hfinal, show last = [] from hlast]
  constructor
  · intro h
    obtain ⟨row, hrow, hsame⟩ := h
    cases hrow
    exact hsame.trace
  · intro h
    exact ⟨_, rfl, rfl, rfl, h, rfl⟩

/-- When the handler itself was interrupted, the record has failed and the row is as it was
inserted. -/
theorem not_reads_agree_unprintable {raised : Raised}
    (houtcome : run.outcome = .error (.unprintable raised)) :
    ¬ ReadsAgree jsonLoads
      (run.final (createRun runId graphId triggerSource startedAt runBy true)) := by
  obtain ⟨before, counts, running, active, finishedAt, third, last, _, hlast, _, _, hfinal⟩ :=
    run.final_eq (createRun runId graphId triggerSource startedAt runBy true)
  rw [houtcome] at hlast hfinal
  rw [hfinal, show last = [] from hlast]
  exact not_reads_agree_of_running rfl rfl nofun

/-- A result that cannot be serialised stays in the record, and the row gets none. -/
theorem not_reads_agree_unserialised {result : RunResult} {raised : Raised}
    (houtcome : run.outcome = .ok result) (hjson : modelDumpJson result = .error raised) :
    ¬ ReadsAgree jsonLoads
      (run.final (createRun runId graphId triggerSource startedAt runBy true)) := by
  obtain ⟨before, counts, running, active, finishedAt, third, last, _, hlast, _, _, hfinal⟩ :=
    run.final_eq (createRun runId graphId triggerSource startedAt runBy true)
  rw [houtcome] at hlast hfinal
  unfold tryUpdates at hlast hfinal
  dsimp only at hlast hfinal
  rw [hjson] at hlast hfinal
  rw [hfinal]
  cases raised with
  | exception message =>
      by_cases hencodes : env.python.encodes message = true
      · obtain ⟨written, rfl⟩ := (if_pos hencodes).mp hlast
        intro h
        obtain ⟨row, hrow, hsame⟩ := reads_agree_state_iff.mp h
        have hresult := hsame.result
        rw [RunState.after_cons, step_update, if_pos rfl] at hrow hresult
        cases written with
        | true =>
            cases hrow
            cases hresult
        | false =>
            cases hrow
            cases hresult
      · rw [show last = [] from (if_neg hencodes).mp hlast]
        exact not_reads_agree_of_running rfl rfl nofun
  | baseException message =>
      rw [show last = [] from hlast]
      exact not_reads_agree_of_running rfl rfl nofun
  | unprintable raised =>
      rw [show last = [] from hlast]
      exact not_reads_agree_of_running rfl rfl nofun

/-- A result that was serialised is read back, with the records of the run. -/
theorem reads_agree_serialised {result : RunResult} {resultJson : String}
    (houtcome : run.outcome = .ok result) (hjson : modelDumpJson result = .ok resultJson)
    (hwritten : RowWritten runId run.closing) (hloads : jsonLoads resultJson = result) :
    ReadsAgree jsonLoads
      (run.final (createRun runId graphId triggerSource startedAt runBy true)) := by
  have hverdict : verdict env.python modelDumpJson run.outcome =
      some ⟨.completed, some result.result, none, some resultJson⟩ := by
    rw [houtcome]
    unfold verdict
    dsimp only
    rw [hjson]
  obtain ⟨counts, finishedAt, written, _, _, hwrites, hfinal⟩ := run.final_of_verdict
    (createRun runId graphId triggerSource startedAt runBy true) hverdict
  rw [reads_agree_state_iff, hfinal, row_written hwrites hwritten]
  refine ⟨_, rfl, rfl, ?_, ?_, rfl⟩
  · exact congrArg some (congrArg RunResult.result hloads.symm)
  · exact (run.result_trace houtcome).symm.trans (congrArg RunResult.trace hloads.symm)

end

/-- If the row is written and a serialised result can be read back, the two answers about a
finished run are the same exactly in those circumstances. -/
theorem reads_agree_iff (run : FinishedRun env depth modelDumpJson runId graph resources)
    (graphId : Option String) (triggerSource startedAt : String) (runBy : Option String)
    {jsonLoads : String → RunResult} (hwritten : RowWritten runId run.closing)
    (hloads : ∀ result resultJson, modelDumpJson result = .ok resultJson →
      jsonLoads resultJson = result) :
    ReadsAgree jsonLoads
        (run.final (createRun runId graphId triggerSource startedAt runBy true)) ↔
      ReadsCoincide run := by
  unfold ReadsCoincide
  rcases houtcome : run.outcome with (message | message | raised) | result
  · exact reads_agree_exception_iff houtcome hwritten
  · exact reads_agree_interrupted_iff houtcome
  · exact iff_of_false (not_reads_agree_unprintable houtcome) id
  · cases hjson : modelDumpJson result with
    | error raised =>
        exact iff_of_false (not_reads_agree_unserialised houtcome hjson) (by simp [hjson])
    | ok resultJson =>
        exact iff_of_true (reads_agree_serialised houtcome hjson hwritten
          (hloads result resultJson hjson)) ⟨resultJson, hjson⟩

end

/-! ### Results that can and cannot be serialised -/

/-- The record of the model call. -/
def askRecord : TraceRecord where
  runId := "0"
  nodeId := "ask"
  nodeType := "llm_call"
  startedAt := "2026-01-01T00:00:00+00:00"
  finishedAt := "2026-01-01T00:00:00+00:00"
  inputs := .ofList [("prompt", .str "hello")]
  outputs := .ofList [("response", .str "hello")]

/-- The resources of the model call. -/
def askResources : Resources where
  connections := .ofList [("my-anthropic", ⟨"anthropic", .empty⟩)]

/-- The serialisation of the result with this record. Others are not provided for. -/
def dumpAsk (result : RunResult) : Except Raised String :=
  match result.trace with
  | [⟨runId, nodeId, nodeType, startedAt, finishedAt, inputs, outputs, tokenCost, false, none,
      none⟩] =>
    if result.result = .empty ∧ runId = askRecord.runId ∧ nodeId = askRecord.nodeId ∧
        nodeType = askRecord.nodeType ∧ startedAt = askRecord.startedAt ∧
        finishedAt = askRecord.finishedAt ∧ inputs = askRecord.inputs ∧
        outputs = askRecord.outputs ∧ tokenCost = askRecord.tokenCost then .ok "ask"
    else .error (.exception "not provided for")
  | _ => .error (.exception "not provided for")

theorem dump_ask_round_trip (result : RunResult) (resultJson : String)
    (h : dumpAsk result = .ok resultJson) : (⟨.empty, [askRecord]⟩ : RunResult) = result := by
  obtain ⟨values, trace⟩ := result
  unfold dumpAsk at h
  split at h
  · rename_i htrace
    split at h
    · rename_i hsame
      obtain ⟨hvalues, rfl, rfl, rfl, rfl, rfl, rfl, rfl, rfl⟩ := hsame
      cases hvalues
      cases htrace
      rfl
    · cases h
  · cases h

set_option maxRecDepth 20000 in
/-- The two answers about the run of the model call are the same, with its record in both. -/
theorem answered_reads_agree :
    ((playRun anthropicEnvironment (helloAnswers [anthropicProfile "my-anthropic" none])
      [anthropicProfile "my-anthropic" none] dumpAsk "run" askGraph askResources).final
      (createRun "run" none "manual" "2026-01-01" none true)).record.trace = [askRecord] ∧
    ReadsAgree (fun _ => ⟨.empty, [askRecord]⟩)
      ((playRun anthropicEnvironment (helloAnswers [anthropicProfile "my-anthropic" none])
        [anthropicProfile "my-anthropic" none] dumpAsk "run" askGraph askResources).final
        (createRun "run" none "manual" "2026-01-01" none true)) := by
  refine ⟨rfl, (reads_agree_iff (playRun anthropicEnvironment
    (helloAnswers [anthropicProfile "my-anthropic" none]) [anthropicProfile "my-anthropic" none]
    dumpAsk "run" askGraph askResources) none "manual" "2026-01-01" none ?_ dump_ask_round_trip).mpr
      ⟨_, rfl⟩⟩
  unfold RowWritten
  decide

/-- A serialisation that fails, as for a model's answer with a lone surrogate. -/
def dumpSurrogate (_ : RunResult) : Except Raised String :=
  .error (.exception "'utf-8' codec can't encode character: surrogates not allowed")

set_option maxRecDepth 20000 in
/-- The run of the model call failed with a result and a trace in memory, and with neither in the
row. -/
theorem surrogate_reads_differ :
    RowWritten "run"
      (playRun anthropicEnvironment (helloAnswers [anthropicProfile "my-anthropic" none])
      [anthropicProfile "my-anthropic" none] dumpSurrogate "run" askGraph {}).closing ∧
    (∀ jsonLoads, ¬ ReadsAgree jsonLoads
      ((playRun anthropicEnvironment (helloAnswers [anthropicProfile "my-anthropic" none])
        [anthropicProfile "my-anthropic" none] dumpSurrogate "run" askGraph {}).final
        (createRun "run" none "manual" "2026-01-01" none true))) := by
  refine ⟨by unfold RowWritten; decide, fun jsonLoads h => ?_⟩
  obtain ⟨row, hrow, hsame⟩ := reads_agree_state_iff.mp h
  cases hrow
  have htrace := congrArg List.length hsame.trace
  cases htrace

end AgentGraphStudio
