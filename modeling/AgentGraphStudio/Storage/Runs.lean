import AgentGraphStudio.Execution.Types

/-!
# The two records of a run

`RunRecord` of `backend/api/runs.py` lives in memory and is changed in small steps while the
run goes on; the row of `backend/storage/runs_store.py` is inserted at the start and updated
once at the end. A `RunUpdate` is one such step. The sub-node counters of the run's
`on_sub_node_activity` closure change together with the record's list.
-/

namespace AgentGraphStudio

/-- The status of a run. -/
inductive RunStatus where
  | running | completed | failed
  deriving DecidableEq, Repr

/-- The record in memory. -/
structure RunRecord where
  runId : String
  status : RunStatus := .running
  graphId : Option String := none
  triggerSource : String := "manual"
  startedAt : String := ""
  finishedAt : Option String := none
  runningNodeIds : List String := []
  activeSubNodeIds : List String := []
  trace : List TraceRecord := []
  result : Option Config := none
  error : Option String := none
  runBy : Option String := none

/-- The durable row. -/
structure RunRow where
  runId : String
  graphId : Option String
  status : RunStatus
  triggerSource : String
  startedAt : String
  finishedAt : Option String := none
  resultJson : Option String := none
  error : Option String := none
  runBy : Option String := none

/-- One change of the record, or the update of the row from the record's status and time. -/
inductive RunUpdate where
  | setRunningNodeIds (nodeIds : List String)
  | removeRunningNodeId (nodeId : String)
  | appendTrace (record : TraceRecord)
  | subNodeActivity (subNodeId : String) (active : Bool)
  | setActiveSubNodeIds (nodeIds : List String)
  | setResult (result : Config)
  | setStatus (status : RunStatus)
  | setError (error : String)
  | setFinishedAt (finishedAt : String)
  | completeRunRecord (resultJson error : Option String)

/-- The record, the counters of its closure and the row, if its insertion succeeded. -/
structure RunState where
  record : RunRecord
  counts : Dict String Int := .empty
  row : Option RunRow

/-- What a call of `on_sub_node_activity` leaves in the counters. -/
def countActivity (counts : Dict String Int) (subNodeId : String) (active : Bool) :
    Dict String Int :=
  let count := counts.getD subNodeId 0 + (if active then 1 else -1)
  if 0 < count then counts.set subNodeId count else counts.erase subNodeId

/-- Carry out an update. A write to the row that fails is logged and forgotten. -/
def RunState.apply (state : RunState) (written : Bool) : RunUpdate → RunState
  | .setRunningNodeIds nodeIds =>
    { state with record := { state.record with runningNodeIds := nodeIds } }
  | .removeRunningNodeId nodeId =>
    { state with record := { state.record with
      runningNodeIds := state.record.runningNodeIds.erase nodeId } }
  | .appendTrace record =>
    { state with record := { state.record with trace := state.record.trace ++ [record] } }
  | .subNodeActivity subNodeId active =>
    let counts := countActivity state.counts subNodeId active
    { state with
      counts
      record := { state.record with activeSubNodeIds := counts.keys } }
  | .setActiveSubNodeIds nodeIds =>
    { state with record := { state.record with activeSubNodeIds := nodeIds } }
  | .setResult result => { state with record := { state.record with result := some result } }
  | .setStatus status => { state with record := { state.record with status } }
  | .setError error => { state with record := { state.record with error := some error } }
  | .setFinishedAt finishedAt =>
    { state with record := { state.record with finishedAt := some finishedAt } }
  | .completeRunRecord resultJson error =>
    if written then
      { state with row := state.row.map fun row =>
        { row with
          status := state.record.status
          finishedAt := state.record.finishedAt
          resultJson
          error } }
    else state

/-- The records of a new run (`create_run`). -/
def createRun (runId : String) (graphId : Option String) (triggerSource startedAt : String)
    (runBy : Option String) (written : Bool) : RunState where
  record := { runId, graphId, triggerSource, startedAt, runBy }
  row := if written then
      some { runId, graphId, status := .running, triggerSource, startedAt, runBy }
    else none

end AgentGraphStudio
