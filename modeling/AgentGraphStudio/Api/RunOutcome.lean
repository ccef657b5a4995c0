import AgentGraphStudio.Api.ConnectionCoverage
import AgentGraphStudio.Api.RunTrace

/-!
# How a run ends

What a finished run leaves in its two records. The part of `run_graph` only adds trace records
and changes the lists of running nodes (`progress_after`); the part after it depends on the
outcome of `run_graph` and on the serialisation of a result, and `conclude_run_ends` lists its
updates. `terminal_iff` says in which cases the run ends as it should.
-/

namespace AgentGraphStudio

/-! ## What events leave in the records -/

/-- What one event leaves in the records of a run. -/
def RunState.step (runId : String) (state : RunState) : Event Op Res → RunState
  | ⟨.updateRun id update, written⟩ => if id = runId then state.apply written update else state
  | _ => state

/-- What these events leave in the records of a run. -/
def RunState.after (runId : String) (state : RunState) (events : History) : RunState :=
  events.foldl (RunState.step runId) state

@[simp] theorem RunState.after_nil (runId : String) (state : RunState) :
    state.after runId [] = state := rfl

@[simp] theorem RunState.after_cons (runId : String) (state : RunState) (event : Event Op Res)
    (events : History) :
    state.after runId (event :: events) = (state.step runId event).after runId events := rfl

@[simp] theorem RunState.after_append (runId : String) (state : RunState) (first second : History) :
    state.after runId (first ++ second) = (state.after runId first).after runId second :=
  List.foldl_append

/-- The status that an event gives a run. -/
def statusChange (runId : String) (event : Event Op Res) : Option RunStatus :=
  match event.op with
  | .updateRun id (.setStatus status) => if id = runId then some status else none
  | _ => none

/-- The statuses that these events give a run, in order. -/
def statusChanges (runId : String) (events : History) : List RunStatus :=
  events.filterMap (statusChange runId)

/-- Whether an event that writes the row of a run succeeded in doing so. -/
def rowWrite (runId : String) : Event Op Res → Option Bool
  | ⟨.updateRun id (.completeRunRecord _ _), written⟩ => if id = runId then some written else none
  | _ => none

/-- The row of the run was written whenever these events tried to. -/
def RowWritten (runId : String) (events : History) : Prop :=
  false ∉ events.filterMap (rowWrite runId)

/-! ## The part of `run_graph` -/

/-- An update while the engine is at work, which builds its records under this id. -/
def RunUpdate.InProgress (engineRunId : String) : RunUpdate → Prop
  | .setRunningNodeIds _ | .removeRunningNodeId _ | .subNodeActivity .. => True
  | .appendTrace record => record.runId = engineRunId
  | _ => False

/-- The operations of `run_graph`. -/
def Op.InProgress (engineRunId : String) : Op → Prop
  | .updateRun _ update => update.InProgress engineRunId
  | .approval (.clearRemembered _) => False
  | _ => True

/-- The records of a run after some progress. -/
def RunState.progressed (state : RunState) (counts : Dict String Int)
    (runningNodeIds activeSubNodeIds : List String) (records : List TraceRecord) : RunState where
  record := { state.record with
    runningNodeIds, activeSubNodeIds, trace := state.record.trace ++ records }
  counts
  row := state.row

theorem step_update (runId id : String) (state : RunState) (update : RunUpdate) (written : Bool) :
    state.step runId ⟨.updateRun id update, written⟩ =
      if id = runId then state.apply written update else state := rfl

/-- One operation of `run_graph` makes some progress. -/
theorem progress_step {engineRunId : String} (runId : String) (state : RunState)
    {event : Event Op Res} (h : event.op.InProgress engineRunId) :
    ∃ counts running active, state.step runId event =
      state.progressed counts running active (appendedRecord runId event).toList := by
  -- What does not concern the record of this run changes nothing.
  have hsame : ∃ counts running active, state = state.progressed counts running active [] := by
    refine ⟨state.counts, state.record.runningNodeIds, state.record.activeSubNodeIds, ?_⟩
    unfold RunState.progressed
    rw [List.append_nil]
  obtain ⟨op, written⟩ := event
  cases op with
  | updateRun id update =>
      rw [step_update]
      by_cases hid : id = runId
      · rw [if_pos hid]
        cases update with
        | appendTrace record =>
            refine ⟨state.counts, state.record.runningNodeIds, state.record.activeSubNodeIds, ?_⟩
            simp [RunState.apply, RunState.progressed, appendedRecord, hid]
        | setRunningNodeIds nodeIds =>
            refine ⟨state.counts, nodeIds, state.record.activeSubNodeIds, ?_⟩
            simp [RunState.apply, RunState.progressed, appendedRecord]
        | removeRunningNodeId nodeId =>
            refine ⟨state.counts, state.record.runningNodeIds.erase nodeId,
              state.record.activeSubNodeIds, ?_⟩
            simp [RunState.apply, RunState.progressed, appendedRecord]
        | subNodeActivity subNodeId active =>
            refine ⟨countActivity state.counts subNodeId active, state.record.runningNodeIds,
              (countActivity state.counts subNodeId active).keys, ?_⟩
            simp [RunState.apply, RunState.progressed, appendedRecord]
        | setActiveSubNodeIds | setResult | setStatus | setError | setFinishedAt
        | completeRunRecord => cases h
      · rw [if_neg hid]
        have hnone : appendedRecord runId ⟨.updateRun id update, written⟩ = none := by
          unfold appendedRecord
          split
          · rename_i heq
            cases heq
            exact if_neg hid
          · rfl
        rw [hnone]
        exact hsame
  | _ => exact hsame

/-- While the engine is at work, only the trace and the two lists of running nodes change. -/
theorem progress_after {engineRunId : String} (runId : String) (state : RunState)
    {events : History} (h : ∀ event ∈ events, event.op.InProgress engineRunId) :
    ∃ counts running active, state.after runId events =
      state.progressed counts running active (appendedRecords runId events) := by
  induction events generalizing state with
  | nil =>
      refine ⟨state.counts, state.record.runningNodeIds, state.record.activeSubNodeIds, ?_⟩
      simp [RunState.progressed, appendedRecords]
  | cons event events ih =>
      rw [List.forall_mem_cons] at h
      obtain ⟨hevent, hrest⟩ := h
      obtain ⟨_, _, _, hstep⟩ := progress_step runId state hevent
      obtain ⟨counts, running, active, hafter⟩ := ih (state.step runId event) hrest
      refine ⟨counts, running, active, ?_⟩
      rw [RunState.after_cons, hafter, hstep]
      unfold RunState.progressed appendedRecords
      rw [List.filterMap_cons, List.append_assoc]
      cases appendedRecord runId event <;> rfl

/-- While the engine is at work, the status does not change. -/
theorem progress_statusChanges {engineRunId : String} (runId : String) {events : History}
    (h : ∀ event ∈ events, event.op.InProgress engineRunId) : statusChanges runId events = [] := by
  refine List.filterMap_eq_nil_iff.mpr fun event hevent => ?_
  have hprogress := h event hevent
  unfold statusChange
  split
  · rename_i hop
    rw [hop] at hprogress
    cases hprogress
  · rfl

/-- The records of the engine carry the engine's id. -/
theorem progress_runId {engineRunId : String} (runId : String) {events : History}
    (h : ∀ event ∈ events, event.op.InProgress engineRunId) {record : TraceRecord}
    (hrecord : record ∈ appendedRecords runId events) : record.runId = engineRunId := by
  obtain ⟨event, hevent, happended⟩ := List.mem_filterMap.mp hrecord
  have hprogress := h event hevent
  unfold appendedRecord at happended
  split at happended
  · rename_i hop
    rw [hop] at hprogress
    split at happended
    · cases happended
      exact hprogress
    · cases happended
  · cases happended

section

variable {env : Environment} {depth : Nat} {modelDumpJson : RunResult → Except Raised String}
  {runId : String} {graph : GraphSpec} {resources : Resources}

/-- Every operation of a node is one of `run_graph`. -/
def progress (env : Environment) (engineRunId : String) : Discipline env :=
  .ofOps env (Op.InProgress engineRunId)
    (by
      intro op h
      cases op with
      | updateRun id update => cases update <;> first | exact trivial | exact h.elim
      | approval op => cases op <;> first | exact trivial | exact h.elim
      | _ => trivial)
    (fun op h => by cases op <;> first | exact trivial | exact h.elim) (fun _ => True)
    (fun _ _ _ _ _ => trivial) fun _ _ _ _ _ _ _ _ => trivial

/-- The part of `run_graph`: it rejects the graph without a trace, or it draws an id and works
under that id. -/
theorem graph_events_cases {store : ConnectionStore} {events : History}
    {outcome : Except Raised RunResult}
    (h : Program.Ends (runGraphOf env depth runId graph resources store) events outcome) :
    events = [] ∨ ∃ engineRunId work, events = ⟨.uuid4, engineRunId⟩ :: work ∧
      ∀ event ∈ work, event.op.InProgress engineRunId := by
  unfold runGraphOf runGraphWith at h
  cases hverdict : revalidate graph env.registry store (runResources resources runId) with
  | error issues =>
      rw [run_graph_of_error hverdict] at h
      exact .inl (Program.ends_done_iff.mp h).1
  | ok _ =>
      rw [run_graph_of_ok hverdict] at h
      obtain ⟨first, engineRunId, work, rfl, hfirst, hwork⟩ := Program.ends_bind_iff.mp h
      have hdrawn := Program.ends_op_iff.mp hfirst
      subst hdrawn
      refine .inr ⟨engineRunId, work, rfl, ?_⟩
      have hobservers : (runObservers runId).Always (progress env engineRunId).policy engineRunId :=
        run_observers_always (fun _ _ => trivial) (fun _ _ => trivial) fun _ _ h => h
      have hnodes : NodesAlways (progress env engineRunId).policy (execute env depth) graph
          (withGraph (runResources resources runId) graph) env.registry :=
        (progress env engineRunId).nodes_always trivial fun _ _ => trivial
      exact Policy.ofOps_run (run_graph_async_always hobservers hnodes) hwork

end

/-! ## The part after `run_graph` -/

section

variable (env : Environment) (modelDumpJson : RunResult → Except Raised String) (runId : String)

/-- The updates of the `try` statement after `run_graph`, and the variables it leaves. -/
def tryUpdates : Except Raised RunResult → List RunUpdate × Except Raised RunEnd
  | .ok result =>
    match modelDumpJson result with
    | .ok resultJson =>
      ([.setResult result.result, .setStatus .completed], .ok (some resultJson, none))
    | .error (.exception message) =>
      ([.setResult result.result, .setStatus .completed, .setStatus .failed, .setError message],
        .ok (none, some message))
    | .error (.unprintable raised) =>
      ([.setResult result.result, .setStatus .completed, .setStatus .failed], .error raised)
    | .error raised => ([.setResult result.result, .setStatus .completed], .error raised)
  | .error (.exception message) =>
    ([.setStatus .failed, .setError message], .ok (none, some message))
  | .error (.unprintable raised) => ([.setStatus .failed], .error raised)
  | .error raised => ([], .error raised)

/-- Perform some updates, then go on. -/
def performUpdates {α : Type} : List RunUpdate → Program Op Res α → Program Op Res α
  | [], rest => rest
  | update :: updates, rest => .perform (.updateRun runId update) fun _ =>
    performUpdates updates rest

theorem conclude_run_eq (outcome : Except Raised RunResult) :
    concludeRun env modelDumpJson runId outcome =
      performUpdates runId (tryUpdates modelDumpJson outcome).1
        (finishRun env runId (tryUpdates modelDumpJson outcome).2).run := by
  cases outcome with
  | error raised => cases raised <;> rfl
  | ok result =>
      have hupdates : concludeRun env modelDumpJson runId (.ok result) =
          performUpdates runId [.setResult result.result, .setStatus .completed]
            ((Act.catchException
              (do
                let resultJson ← Act.ofExcept (modelDumpJson result)
                pure (some resultJson, none))
              (failRun runId)).run.bind fun ending => (finishRun env runId ending).run) := rfl
      rw [hupdates]
      unfold tryUpdates
      dsimp only
      rcases modelDumpJson result with raised | resultJson
      · cases raised <;> rfl
      · rfl

end

section

variable {env : Environment} {modelDumpJson : RunResult → Except Raised String} {runId : String}

/-- Performed updates are on record in their order. -/
theorem ends_perform_updates {α : Type} {updates : List RunUpdate} {rest : Program Op Res α}
    {events : History} {value : α}
    (h : Program.Ends (performUpdates runId updates rest) events value) :
    ∃ marks tail, events = marks ++ tail ∧
      marks.map Event.op = updates.map (Op.updateRun runId) ∧ Program.Ends rest tail value := by
  induction updates generalizing events with
  | nil => exact ⟨[], events, rfl, rfl, h⟩
  | cons update updates ih =>
      obtain ⟨written, others, rfl, hothers⟩ := Program.ends_perform_iff.mp h
      obtain ⟨marks, tail, rfl, hmarks, htail⟩ := ih hothers
      exact ⟨⟨_, written⟩ :: marks, tail, rfl, congrArg _ hmarks, htail⟩

/-- The last steps of a run whose variables are these: the row and the remembered approvals, if
the variables have values at all and the row can be written. -/
def Closes (python : Python) (runId : String) (last : History) : Except Raised RunEnd → Prop
  | .error _ => last = []
  | .ok (resultJson, error) =>
    if error.all python.encodes then ∃ written,
      last = [⟨.updateRun runId (.completeRunRecord resultJson error), written⟩,
        ⟨.approval (.clearRemembered runId), ()⟩]
    else last = []

/-- The steps of the `finally` block. -/
theorem finish_run_ends {ending : Except Raised RunEnd} {events : History}
    {ended : Except Raised Unit} (h : Program.Ends (finishRun env runId ending).run events ended) :
    ∃ finishedAt first second third last,
      events = ⟨.updateRun runId (.setRunningNodeIds []), first⟩ ::
        ⟨.updateRun runId (.setActiveSubNodeIds []), second⟩ :: ⟨.utcnowIso, finishedAt⟩ ::
        ⟨.updateRun runId (.setFinishedAt finishedAt), third⟩ :: last ∧
      Closes env.python runId last ending := by
  obtain ⟨first, _, rfl, hactive⟩ := Program.ends_perform_iff.mp h
  obtain ⟨second, _, rfl, hclock⟩ := Program.ends_perform_iff.mp hactive
  obtain ⟨finishedAt, _, rfl, hfinished⟩ := Program.ends_perform_iff.mp hclock
  obtain ⟨third, last, rfl, hlast⟩ := Program.ends_perform_iff.mp hfinished
  refine ⟨finishedAt, first, second, third, last, rfl, ?_⟩
  rcases ending with raised | ⟨resultJson, error⟩
  · exact (Program.ends_done_iff.mp hlast).1
  · unfold Closes
    dsimp only at hlast ⊢
    split at hlast
    · rename_i hencodes
      obtain ⟨written, _, rfl, hclear⟩ := Program.ends_perform_iff.mp hlast
      obtain ⟨_, _, rfl, hdone⟩ := Program.ends_perform_iff.mp hclear
      obtain ⟨rfl, _⟩ := Program.ends_done_iff.mp hdone
      rw [if_pos hencodes]
      exact ⟨written, rfl⟩
    · rename_i hencodes
      rw [if_neg hencodes]
      exact (Program.ends_done_iff.mp hlast).1

/-- The steps of a run after `run_graph`. -/
theorem conclude_run_ends {outcome : Except Raised RunResult} {closing : History}
    {ended : Except Raised Unit}
    (h : Program.Ends (concludeRun env modelDumpJson runId outcome) closing ended) :
    ∃ marks finishedAt first second third last,
      closing = marks ++ ⟨.updateRun runId (.setRunningNodeIds []), first⟩ ::
        ⟨.updateRun runId (.setActiveSubNodeIds []), second⟩ :: ⟨.utcnowIso, finishedAt⟩ ::
        ⟨.updateRun runId (.setFinishedAt finishedAt), third⟩ :: last ∧
      marks.map Event.op = (tryUpdates modelDumpJson outcome).1.map (Op.updateRun runId) ∧
      Closes env.python runId last (tryUpdates modelDumpJson outcome).2 := by
  rw [conclude_run_eq] at h
  obtain ⟨marks, _, rfl, hmarks, htail⟩ := ends_perform_updates h
  obtain ⟨finishedAt, first, second, third, last, rfl, hlast⟩ := finish_run_ends htail
  exact ⟨marks, finishedAt, first, second, third, last, rfl, hmarks, hlast⟩

/-- An update of the record in memory. -/
def RunUpdate.InMemory : RunUpdate → Prop
  | .completeRunRecord .. => False
  | _ => True

/-- Carry out updates of the record in memory. -/
def RunState.applyAll (state : RunState) (updates : List RunUpdate) : RunState :=
  updates.foldl (fun state update => state.apply true update) state

theorem RunState.applyAll_append (state : RunState) (first second : List RunUpdate) :
    state.applyAll (first ++ second) = (state.applyAll first).applyAll second :=
  List.foldl_append

theorem apply_in_memory {state : RunState} {update : RunUpdate} (h : update.InMemory)
    (written : Bool) : state.apply written update = state.apply true update := by
  cases update <;> first | rfl | exact h.elim

theorem after_marks {marks : History} {updates : List RunUpdate}
    (hmarks : marks.map Event.op = updates.map (Op.updateRun runId))
    (hmemory : ∀ update ∈ updates, update.InMemory) (state : RunState) :
    state.after runId marks = state.applyAll updates := by
  induction updates generalizing marks state with
  | nil =>
      rw [List.map_nil, List.map_eq_nil_iff] at hmarks
      rw [hmarks]
      rfl
  | cons update updates ih =>
      rw [List.forall_mem_cons] at hmemory
      obtain ⟨⟨op, written⟩, marks, rfl, rfl, hrest⟩ := List.map_eq_cons_iff.mp hmarks
      rw [RunState.after_cons, step_update, if_pos rfl, apply_in_memory hmemory.1]
      exact ih hrest hmemory.2 _

theorem row_writes_marks {marks : History} {updates : List RunUpdate}
    (hmarks : marks.map Event.op = updates.map (Op.updateRun runId))
    (hmemory : ∀ update ∈ updates, update.InMemory) : marks.filterMap (rowWrite runId) = [] := by
  refine List.filterMap_eq_nil_iff.mpr fun event hevent => ?_
  have hop : event.op ∈ updates.map (Op.updateRun runId) :=
    hmarks ▸ List.mem_map_of_mem hevent
  obtain ⟨update, hupdate, heq⟩ := List.mem_map.mp hop
  obtain ⟨op, written⟩ := event
  subst heq
  have hupdate := hmemory update hupdate
  cases update <;> first | rfl | exact hupdate.elim

theorem status_changes_marks {marks : History} {updates : List RunUpdate}
    (hmarks : marks.map Event.op = updates.map (Op.updateRun runId)) :
    statusChanges runId marks = updates.filterMap fun update =>
      match update with
      | .setStatus status => some status
      | _ => none := by
  induction updates generalizing marks with
  | nil =>
      rw [List.map_nil, List.map_eq_nil_iff] at hmarks
      rw [hmarks]
      rfl
  | cons update updates ih =>
      obtain ⟨⟨op, written⟩, marks, rfl, rfl, hrest⟩ := List.map_eq_cons_iff.mp hmarks
      rw [statusChanges, List.filterMap_cons, ← statusChanges, ih hrest, List.filterMap_cons]
      cases update <;> simp [statusChange]

/-- The updates of the `try` statement leave the row alone. -/
theorem try_updates_in_memory (outcome : Except Raised RunResult) :
    ∀ update ∈ (tryUpdates modelDumpJson outcome).1, update.InMemory := by
  intro update hupdate
  unfold tryUpdates at hupdate
  repeat' split at hupdate
  all_goals
    simp only [List.mem_cons, List.not_mem_nil, or_false] at hupdate
    try rcases hupdate with rfl | rfl | rfl | rfl
    all_goals trivial

end

/-! ## Finished runs -/

section

variable {env : Environment} {depth : Nat} {modelDumpJson : RunResult → Except Raised String}
  {runId : String} {graph : GraphSpec} {resources : Resources}

/-- The engine's id of a finished run: it drew the id first, and all its records carry it. -/
theorem FinishedRun.engine_run_id
    (run : FinishedRun env depth modelDumpJson runId graph resources) :
    ∃ engineRunId, (∀ event ∈ run.graphEvents, event.op.InProgress engineRunId) ∧
      (run.graphEvents = [] ∨ run.graphEvents.head? = some ⟨.uuid4, engineRunId⟩) := by
  rcases graph_events_cases run.graphEnds with hnone | ⟨engineRunId, work, hevents, hwork⟩
  · exact ⟨"", by simp [hnone], .inl hnone⟩
  · refine ⟨engineRunId, ?_, .inr (by rw [hevents]; rfl)⟩
    rw [hevents, List.forall_mem_cons]
    exact ⟨trivial, hwork⟩

/-- The records of a run as `execute_run` leaves them. -/
def FinishedRun.final (run : FinishedRun env depth modelDumpJson runId graph resources)
    (initial : RunState) : RunState :=
  initial.after runId run.events

/-- The last steps of a finished run, and what it leaves in the records. -/
theorem FinishedRun.final_eq (run : FinishedRun env depth modelDumpJson runId graph resources)
    (initial : RunState) :
    ∃ before counts running active finishedAt third last,
      run.events = before ++ ⟨.updateRun runId (.setFinishedAt finishedAt), third⟩ :: last ∧
      Closes env.python runId last (tryUpdates modelDumpJson run.outcome).2 ∧
      run.closing.filterMap (rowWrite runId) = last.filterMap (rowWrite runId) ∧
      statusChanges runId run.events =
        ((tryUpdates modelDumpJson run.outcome).1.filterMap fun update =>
          match update with
          | .setStatus status => some status
          | _ => none) ++ statusChanges runId last ∧
      run.final initial =
        ((initial.progressed counts running active
            (appendedRecords runId run.graphEvents)).applyAll
          ((tryUpdates modelDumpJson run.outcome).1 ++
            [.setRunningNodeIds [], .setActiveSubNodeIds [], .setFinishedAt finishedAt])).after
          runId last := by
  -- First the graph, then the updates of the outcome, then those of the `finally` block.
  obtain ⟨engineRunId, hprogress, _⟩ := run.engine_run_id
  obtain ⟨counts, running, active, hgraph⟩ := progress_after runId initial hprogress
  obtain ⟨marks, finishedAt, first, second, third, last, hclosing, hmarks, hlast⟩ :=
    conclude_run_ends run.closingEnds
  have hmemory : ∀ update ∈ (tryUpdates modelDumpJson run.outcome).1, update.InMemory :=
    try_updates_in_memory run.outcome
  refine ⟨⟨.readConnections, run.store⟩ :: (run.graphEvents ++ marks ++
      [⟨.updateRun runId (.setRunningNodeIds []), first⟩,
        ⟨.updateRun runId (.setActiveSubNodeIds []), second⟩, ⟨.utcnowIso, finishedAt⟩]),
    counts, running, active, finishedAt, third, last, ?_, hlast, ?_, ?_, ?_⟩
  · simp [FinishedRun.events, hclosing]
  · rw [hclosing, List.filterMap_append, row_writes_marks hmarks hmemory]
    rfl
  · have hquiet := progress_statusChanges runId hprogress
    rw [FinishedRun.events, hclosing, ← status_changes_marks hmarks]
    simp only [statusChanges, List.filterMap_append, List.filterMap_cons] at hquiet ⊢
    rw [hquiet]
    rfl
  · rw [FinishedRun.final, FinishedRun.events, hclosing, RunState.after_cons, RunState.after_append,
      RunState.after_append]
    rw [show initial.step runId ⟨.readConnections, run.store⟩ = initial from rfl, hgraph,
      after_marks hmarks hmemory, RunState.applyAll, RunState.applyAll, List.foldl_append]
    simp only [RunState.after_cons, step_update, if_true]
    rfl

/-! ## Ending well -/

/-- Why `invoke_graph` answers with status 500 when the run's thread has ended. -/
inductive InvokeFailure where
  | runFailed (message : Option String)
  | nodeFailed (message nodeId : String)

/-- The answer of `invoke_graph` when the run's thread has ended: the values of the outputs, with
status 200, or a failure. -/
def invokeAnswer (outputNodeIds : Dict String String) (record : RunRecord) :
    Except InvokeFailure (Dict String (Option Json)) :=
  if record.status = .failed then .error (.runFailed record.error)
  else
    match record.trace.find? fun traceRecord => traceRecord.error.isSome with
    | some failed => .error (.nodeFailed (failed.error.getD "") failed.nodeId)
    | none =>
      .ok (.ofList (outputNodeIds.entries.map fun entry =>
        (entry.1, (record.result.getD .empty).get? entry.2)))

/-- What a run has to leave behind when it is done. -/
structure Terminal (runId : String) (events : History) (final : RunState) : Prop where
  moved : statusChanges runId events = [.completed] ∨ statusChanges runId events = [.failed]
  completed : final.record.status = .completed →
    final.record.result.isSome ∧ final.record.error = none
  failed : final.record.status = .failed → final.record.result = none ∧ final.record.error.isSome
  noRunning : final.record.runningNodeIds = []
  noActive : final.record.activeSubNodeIds = []
  row : ∃ row, final.row = some row ∧ row.status = final.record.status
  cleared : events.getLast? = some ⟨.approval (.clearRemembered runId), ()⟩
  trace : ∀ record ∈ final.record.trace, record.runId = runId
  invoked : ∀ outputNodeIds outputs, invokeAnswer outputNodeIds final.record = .ok outputs →
    final.record.status = .completed

/-- An outcome of `run_graph` that `execute_run` provides for: a result that can be serialised, or
an `Exception` with a text that can be written down. -/
def Foreseen (python : Python) (modelDumpJson : RunResult → Except Raised String) :
    Except Raised RunResult → Prop
  | .ok result => ∃ resultJson, modelDumpJson result = .ok resultJson
  | .error (.exception message) => python.encodes message
  | .error _ => False

/-- The circumstances in which a run ends as it should. Its row could be written, `run_graph` came
to a foreseen outcome, and it came to no record of a node or happened to draw the run's own id for
its records. -/
structure EndsWell (inserted : Bool)
    (run : FinishedRun env depth modelDumpJson runId graph resources) : Prop where
  inserted : inserted = true
  written : RowWritten runId run.closing
  outcome : Foreseen env.python modelDumpJson run.outcome
  records : run.Unrecorded ∨ run.graphEvents.head? = some ⟨.uuid4, runId⟩

/-- The records of a run carry its id exactly if it drew that id or has no records. -/
theorem FinishedRun.same_id_iff (run : FinishedRun env depth modelDumpJson runId graph resources) :
    (∀ record ∈ appendedRecords runId run.graphEvents, record.runId = runId) ↔
      (run.Unrecorded ∨ run.graphEvents.head? = some ⟨.uuid4, runId⟩) := by
  rw [run.unrecorded_iff]
  obtain ⟨engineRunId, hprogress, hdrawn⟩ := run.engine_run_id
  constructor
  · intro h
    cases happended : appendedRecords runId run.graphEvents with
    | nil => exact .inl rfl
    | cons record records =>
        have hmem : record ∈ appendedRecords runId run.graphEvents :=
          happended ▸ List.mem_cons_self
        have hsame : engineRunId = runId :=
          (progress_runId runId hprogress hmem).symm.trans (h record hmem)
        rcases hdrawn with hnone | hdrawn
        · rw [hnone] at happended
          cases happended
        · exact .inr (hsame ▸ hdrawn)
  · intro h record hrecord
    have hengine := progress_runId runId hprogress hrecord
    rcases h with hnone | hhead
    · rw [hnone] at hrecord
      cases hrecord
    · rcases hdrawn with hnone | hdrawn
      · rw [hnone] at hhead
        cases hhead
      · have heq := Option.some.inj (hdrawn.symm.trans hhead)
        rw [Event.mk.injEq] at heq
        exact hengine.trans (eq_of_heq heq.2)

/-- A run with an unforeseen outcome does not move its status exactly once or does not come to
clear its approvals. -/
theorem FinishedRun.foreseen (run : FinishedRun env depth modelDumpJson runId graph resources)
    (initial : RunState) (h : Terminal runId run.events (run.final initial)) :
    Foreseen env.python modelDumpJson run.outcome := by
  obtain ⟨before, counts, running, active, finishedAt, third, last, hevents, hlast, _, hmoves, _⟩ :=
    run.final_eq initial
  have hcleared : last ≠ [] := by
    rintro rfl
    have hclear := h.cleared
    rw [hevents, List.getLast?_append] at hclear
    cases hclear
  have hmoved := h.moved
  rw [hmoves] at hmoved
  rcases houtcome : run.outcome with (message | message | raised) | result
  · by_contra hencodes
    rw [houtcome] at hlast
    exact hcleared ((if_neg hencodes).mp hlast)
  · rw [houtcome] at hlast
    exact absurd hlast hcleared
  · rw [houtcome] at hlast
    exact absurd hlast hcleared
  · rw [houtcome] at hlast hmoved
    unfold tryUpdates at hlast hmoved
    dsimp only at hlast hmoved
    rcases hjson : modelDumpJson result with (message | message | raised) | resultJson
    · -- The status was completed before the serialisation failed.
      rw [hjson] at hmoved
      rcases hmoved with h | h <;> cases h
    · rw [hjson] at hlast
      exact absurd hlast hcleared
    · rw [hjson] at hlast
      exact absurd hlast hcleared
    · exact ⟨resultJson, hjson⟩

/-- What a foreseen outcome comes to: the status, the result and the error of the record, and the
serialised result of the row. -/
structure Verdict where
  status : RunStatus
  result : Option Config
  error : Option String
  resultJson : Option String

/-- The verdict of an outcome. -/
def verdict (python : Python) (modelDumpJson : RunResult → Except Raised String) :
    Except Raised RunResult → Option Verdict
  | .ok result =>
    match modelDumpJson result with
    | .ok resultJson => some ⟨.completed, some result.result, none, some resultJson⟩
    | .error _ => none
  | .error (.exception message) =>
    if python.encodes message then some ⟨.failed, none, some message, none⟩ else none
  | .error _ => none

theorem foreseen_iff {outcome : Except Raised RunResult} :
    Foreseen python modelDumpJson outcome ↔
      ∃ final, verdict python modelDumpJson outcome = some final := by
  rcases outcome with (message | message | raised) | result
  · unfold Foreseen verdict
    dsimp only
    split <;> simp_all
  · exact ⟨fun h => h.elim, fun ⟨_, h⟩ => by cases h⟩
  · exact ⟨fun h => h.elim, fun ⟨_, h⟩ => by cases h⟩
  · unfold Foreseen verdict
    dsimp only
    cases modelDumpJson result with
    | ok resultJson => exact ⟨fun _ => ⟨_, rfl⟩, fun _ => ⟨_, rfl⟩⟩
    | error raised => simp

/-- The verdict on an exception whose text can be written down. -/
theorem verdict_exception {python : Python} {message : String}
    (hencodes : python.encodes message = true) :
    verdict python modelDumpJson (.error (.exception message)) =
      some ⟨.failed, none, some message, none⟩ :=
  if_pos hencodes

/-- The error of a verdict can be written down. -/
theorem verdict_encodes {python : Python} {outcome : Except Raised RunResult} {final : Verdict}
    (h : verdict python modelDumpJson outcome = some final) :
    final.error.all python.encodes = true := by
  unfold verdict at h
  split at h
  · split at h
    · cases h
      rfl
    · cases h
  · split at h
    · rename_i hencodes
      cases h
      exact hencodes
    · cases h
  · cases h

/-- The `try` statement leaves the verdict behind. -/
theorem try_updates_of_verdict {outcome : Except Raised RunResult} {final : Verdict}
    (h : verdict env.python modelDumpJson outcome = some final) :
    (tryUpdates modelDumpJson outcome).2 = .ok (final.resultJson, final.error) ∧
      ((tryUpdates modelDumpJson outcome).1.filterMap fun update =>
        match update with
        | .setStatus status => some status
        | _ => none) = [final.status] ∧
      ∀ state : RunState, state.applyAll (tryUpdates modelDumpJson outcome).1 =
        { state with record := { state.record with
            status := final.status
            result := final.result.or state.record.result
            error := final.error.or state.record.error } } := by
  rcases outcome with (message | message | raised) | result
  · unfold verdict at h
    dsimp only at h
    split at h
    · cases h
      exact ⟨rfl, rfl, fun _ => rfl⟩
    · cases h
  · cases h
  · cases h
  · unfold verdict at h
    unfold tryUpdates
    dsimp only at h ⊢
    cases hjson : modelDumpJson result with
    | error raised =>
        rw [hjson] at h
        cases h
    | ok resultJson =>
        rw [hjson] at h
        cases h
        exact ⟨rfl, rfl, fun _ => rfl⟩

/-- The records after a foreseen outcome. -/
theorem FinishedRun.final_of_verdict
    (run : FinishedRun env depth modelDumpJson runId graph resources) (initial : RunState)
    {final : Verdict} (hfinal : verdict env.python modelDumpJson run.outcome = some final) :
    ∃ counts finishedAt written,
      run.events.getLast? = some ⟨.approval (.clearRemembered runId), ()⟩ ∧
      statusChanges runId run.events = [final.status] ∧
      run.closing.filterMap (rowWrite runId) = [written] ∧
      run.final initial =
        ({ record := { initial.record with
            status := final.status
            finishedAt := some finishedAt
            runningNodeIds := []
            activeSubNodeIds := []
            trace := initial.record.trace ++ appendedRecords runId run.graphEvents
            result := final.result.or initial.record.result
            error := final.error.or initial.record.error }
           counts
           row := initial.row } : RunState).apply written
          (.completeRunRecord final.resultJson final.error) := by
  obtain ⟨before, counts, running, active, finishedAt, third, last, hevents, hlast, hwrites, hmoves,
    heq⟩ := run.final_eq initial
  obtain ⟨hending, hstatuses, happlied⟩ := try_updates_of_verdict hfinal
  rw [hending] at hlast
  obtain ⟨written, rfl⟩ := (if_pos (verdict_encodes hfinal)).mp hlast
  refine ⟨counts, finishedAt, written, ?_, ?_, ?_, ?_⟩
  · rw [hevents]
    simp
  · rw [hmoves, hstatuses]
    rfl
  · rw [hwrites]
    simp [rowWrite]
  · rw [heq, RunState.applyAll_append, happlied, RunState.after_cons,
      step_update, if_pos rfl]
    rfl

/-- A verdict with a status has the result and the error that go with it. -/
theorem verdict_consistent {outcome : Except Raised RunResult} {final : Verdict}
    (h : verdict env.python modelDumpJson outcome = some final) :
    (final.status = .completed ∧ final.result.isSome ∧ final.error = none) ∨
      (final.status = .failed ∧ final.result = none ∧ final.error.isSome) := by
  rcases outcome with (message | message | raised) | result
  · unfold verdict at h
    dsimp only at h
    split at h
    · cases h
      exact .inr ⟨rfl, rfl, rfl⟩
    · cases h
  · cases h
  · cases h
  · unfold verdict at h
    dsimp only at h
    split at h
    · cases h
      exact .inl ⟨rfl, rfl, rfl⟩
    · cases h

/-- A finished run has ended as it should exactly if the circumstances were those. -/
theorem terminal_iff (run : FinishedRun env depth modelDumpJson runId graph resources)
    (graphId : Option String) (triggerSource startedAt : String) (runBy : Option String)
    (inserted : Bool) :
    Terminal runId run.events
        (run.final (createRun runId graphId triggerSource startedAt runBy inserted)) ↔
      EndsWell inserted run := by
  have hforeseen := run.foreseen (createRun runId graphId triggerSource startedAt runBy inserted)
  -- An outcome that is not foreseen stays without a closing update.
  by_cases houtcome : Foreseen env.python modelDumpJson run.outcome
  · obtain ⟨final, hverdict⟩ := foreseen_iff.mp houtcome
    obtain ⟨counts, finishedAt, written, hclear, hmoves, hwrites, hfinal⟩ :=
      run.final_of_verdict (createRun runId graphId triggerSource startedAt runBy inserted) hverdict
    have hconsistent := verdict_consistent hverdict
    have hids := run.same_id_iff
    have hwritten : RowWritten runId run.closing ↔ written = true := by
      unfold RowWritten
      rw [hwrites]
      cases written <;> simp
    have hrow : (∃ row, (run.final (createRun runId graphId triggerSource startedAt runBy
        inserted)).row = some row ∧ row.status = final.status) ↔
        inserted = true ∧ written = true := by
      rw [hfinal]
      rcases hconsistent with ⟨hstatus, _⟩ | ⟨hstatus, _⟩ <;> cases inserted <;> cases written <;>
        simp [RunState.apply, createRun, hstatus]
    have hrecord : (run.final (createRun runId graphId triggerSource startedAt runBy
        inserted)).record =
        { runId, status := final.status, graphId, triggerSource, startedAt
          finishedAt := some finishedAt, trace := appendedRecords runId run.graphEvents
          result := final.result, error := final.error, runBy } := by
      rw [hfinal]
      cases written <;> simp [RunState.apply, createRun]
    constructor
    · intro h
      obtain ⟨hinserted, hwrote⟩ := hrow.mp (by simpa only [hrecord] using h.row)
      exact ⟨hinserted, hwritten.mpr hwrote, houtcome,
        hids.mp (by simpa only [hrecord] using h.trace)⟩
    · intro h
      have hstored := hrow.mpr ⟨h.inserted, hwritten.mp h.written⟩
      refine ⟨?_, ?_, ?_, ?_, ?_, ?_, hclear, ?_, ?_⟩ <;>
        simp only [hmoves, hrecord, List.cons.injEq, and_true]
      · exact hconsistent.imp And.left And.left
      · intro hstatus
        rcases hconsistent with ⟨_, hresult⟩ | ⟨hfailed, _⟩
        · exact hresult
        · rw [hstatus] at hfailed
          cases hfailed
      · intro hstatus
        rcases hconsistent with ⟨hcompleted, _⟩ | ⟨_, hresult⟩
        · rw [hstatus] at hcompleted
          cases hcompleted
        · exact hresult
      · exact hstored
      · exact hids.mpr h.records
      · intro outputNodeIds outputs hanswer
        rcases hconsistent with ⟨hcompleted, _⟩ | ⟨hfailed, _⟩
        · exact hcompleted
        · unfold invokeAnswer at hanswer
          rw [if_pos hfailed] at hanswer
          cases hanswer
  · exact ⟨fun h => absurd (hforeseen h) houtcome, fun h => absurd h.outcome houtcome⟩

end

/-- The run in which every operation gets its answer. -/
def playRun (env : Environment) (answer : (op : Op) → Res op) (store : ConnectionStore)
    (modelDumpJson : RunResult → Except Raised String) (runId : String) (graph : GraphSpec)
    (resources : Resources) : FinishedRun env 3 modelDumpJson runId graph resources where
  store
  graphEvents := (Program.play answer (runGraphOf env 3 runId graph resources store)).1
  outcome := (Program.play answer (runGraphOf env 3 runId graph resources store)).2
  closing := (Program.play answer (concludeRun env modelDumpJson runId
    (Program.play answer (runGraphOf env 3 runId graph resources store)).2)).1
  ended := (Program.play answer (concludeRun env modelDumpJson runId
    (Program.play answer (runGraphOf env 3 runId graph resources store)).2)).2
  graphEnds := Program.ends_play _ _
  closingEnds := Program.ends_play _ _

/-! ### A function that exits -/

/-- A process whose interpreter finds one function in every source text. -/
def exitEnvironment : Environment :=
  let python := { plainPython with astParse := fun _ => .ok [.functionDef "leave" {} 0] }
  { registry := processRegistry python (fun _ _ => none) [], connectionTypes := .empty, python }

/-- A node that calls `sys.exit`. -/
def exitGraph : GraphSpec where
  version := "1.0"
  nodes := [
    { id := "leave", type := "code"
      config := .ofList
        [("function_source", .str "def leave():\n    import sys\n    sys.exit(1)\n")] }]
  edges := []
  nodupIds := by decide

/-- The function raises `SystemExit`. -/
def exitAnswers : (op : Op) → Res op
  | .execSource .. => .ok ()
  | .callFunction .. => .error (.baseException "1")
  | op => helloAnswers [] op

set_option maxRecDepth 20000 in
/-- The run stays `running` for ever, and `invoke_graph` answers that its outputs are there. -/
theorem interrupted_run_not_terminal :
    ¬ Terminal "run" (playRun exitEnvironment exitAnswers [] dumpNothing "run" exitGraph {}).events
      ((playRun exitEnvironment exitAnswers [] dumpNothing "run" exitGraph {}).final
        (createRun "run" none "invoke" "2026-01-01" none true)) := by
  intro h
  have hanswer : invokeAnswer .empty
      ((playRun exitEnvironment exitAnswers [] dumpNothing "run" exitGraph {}).final
        (createRun "run" none "invoke" "2026-01-01" none true)).record = .ok .empty := rfl
  have hcompleted := h.invoked .empty .empty hanswer
  revert hcompleted
  decide

end AgentGraphStudio
