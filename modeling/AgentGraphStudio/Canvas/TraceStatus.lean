import Mathlib.Logic.Relation
import AgentGraphStudio.Api.RunReads

/-!
# The status of a node on the canvas

`frontend/src/canvas/traceStatus.ts` looks for a node's record in the trace of a run, also among the
child traces, whose node ids may be those of other graphs. `status_for_node_iff` says for which
traces a node with a record of its own has the status of that record.
-/

namespace AgentGraphStudio

/-- How a node is shown. -/
inductive NodeStatus where
  | pending | running | success | error
  deriving DecidableEq, Repr

/-- The status that a record gives. An empty message is no error. -/
def TraceRecord.status (record : TraceRecord) : NodeStatus :=
  if record.error.getD "" ≠ "" then .error else .success

/-! ## The search -/

mutual

/-- Look for the record of a node, among these records and in their child traces. A record is found
by reference: with the indices that lead to it, of which the first is counted from `index`. -/
def findTraceRecordFrom (nodeId : String) :
    Nat → List TraceRecord → Option (List Nat × TraceRecord)
  | _, [] => none
  | index, record :: records =>
    if record.nodeId = nodeId then some ([index], record)
    else
      match findInRecord nodeId record with
      | some (path, found) => some (index :: path, found)
      | none => findTraceRecordFrom nodeId (index + 1) records

/-- Look for the record of a node in the child traces of a record. -/
def findInRecord (nodeId : String) : TraceRecord → Option (List Nat × TraceRecord)
  | ⟨_, _, _, _, _, _, _, _, _, childTraces, _⟩ => findInChildTraces nodeId childTraces

/-- Look for the record of a node in child traces, if there are any. -/
def findInChildTraces (nodeId : String) :
    Option (List (List TraceRecord)) → Option (List Nat × TraceRecord)
  | none => none
  | some groups => findInGroups nodeId 0 groups

/-- Look for the record of a node in one group of records after another. -/
def findInGroups (nodeId : String) :
    Nat → List (List TraceRecord) → Option (List Nat × TraceRecord)
  | _, [] => none
  | index, inner :: groups =>
    match findTraceRecordFrom nodeId 0 inner with
    | some (path, found) => some (index :: path, found)
    | none => findInGroups nodeId (index + 1) groups

end

/-- The record that is found for a node, and its place. -/
def findTraceRecord (records : List TraceRecord) (nodeId : String) :
    Option (List Nat × TraceRecord) :=
  findTraceRecordFrom nodeId 0 records

/-- How a node is shown. Without a run it is pending. -/
def statusForNode (nodeId : String) (run : Option RunStatusResponse) : NodeStatus :=
  match run with
  | none => .pending
  | some run =>
    match findTraceRecord run.trace nodeId with
    | some (_, record) => record.status
    | none =>
      if nodeId ∈ run.runningNodeIds then .running
      else if nodeId ∈ run.activeSubNodeIds then .running
      else .pending

/-! ## What the search comes to first -/

/-- A record of the child traces of another one. -/
def ChildOf (inner outer : TraceRecord) : Prop :=
  ∃ group ∈ outer.childTraces.getD [], inner ∈ group

/-- A record is nested in another one, at any depth. -/
def NestedIn (inner outer : TraceRecord) : Prop := Relation.TransGen ChildOf inner outer

/-- Neither a record nor one that is nested in it is the node's. -/
def Misses (nodeId : String) (record : TraceRecord) : Prop :=
  ∀ inner, Relation.ReflTransGen ChildOf inner record → inner.nodeId ≠ nodeId

/-- What is nested in a record is one of its child traces or nested in one. -/
theorem nested_misses_iff {nodeId : String} {record : TraceRecord} :
    (∀ inner, NestedIn inner record → inner.nodeId ≠ nodeId) ↔
      ∀ group ∈ record.childTraces.getD [], ∀ child ∈ group, Misses nodeId child := by
  constructor
  · intro h group hgroup child hchild inner hinner
    exact h inner (Relation.TransGen.tail'_iff.mpr ⟨child, hinner, group, hgroup, hchild⟩)
  · intro h inner hinner
    obtain ⟨child, hreach, group, hgroup, hchild⟩ := Relation.TransGen.tail'_iff.mp hinner
    exact h group hgroup child hchild inner hreach

/-- A record that is not the node's itself misses the node if nothing nested in it is the node's. -/
theorem misses_iff {nodeId : String} {record : TraceRecord} :
    Misses nodeId record ↔
      record.nodeId ≠ nodeId ∧ ∀ inner, NestedIn inner record → inner.nodeId ≠ nodeId := by
  constructor
  · exact fun h => ⟨h record .refl, fun inner hinner => h inner hinner.to_reflTransGen⟩
  · rintro ⟨hself, hnested⟩ inner hinner
    rcases Relation.reflTransGen_iff_eq_or_transGen.mp hinner with heq | htrans
    · exact heq ▸ hself
    · exact hnested inner htrans

mutual

/-- The search fails if every record misses the node. -/
theorem find_from_eq_none_iff (nodeId : String) (index : Nat) (records : List TraceRecord) :
    findTraceRecordFrom nodeId index records = none ↔
      ∀ record ∈ records, Misses nodeId record := by
  cases records with
  | nil => exact iff_of_true rfl fun _ hmem => absurd hmem List.not_mem_nil
  | cons record records =>
      rw [findTraceRecordFrom, List.forall_mem_cons, misses_iff, ← find_in_record_eq_none_iff,
        ← find_from_eq_none_iff nodeId (index + 1) records]
      by_cases hself : record.nodeId = nodeId
      · rw [if_pos hself]
        exact iff_of_false (Option.some_ne_none _) fun h => h.1.1 hself
      · rw [if_neg hself]
        cases findInRecord nodeId record with
        | none => exact ⟨fun hrest => ⟨⟨hself, rfl⟩, hrest⟩, And.right⟩
        | some found =>
            exact iff_of_false (Option.some_ne_none _) fun h => Option.some_ne_none _ h.1.2

theorem find_in_record_eq_none_iff (nodeId : String) (record : TraceRecord) :
    findInRecord nodeId record = none ↔
      ∀ inner, NestedIn inner record → inner.nodeId ≠ nodeId := by
  rw [nested_misses_iff]
  obtain ⟨_, _, _, _, _, _, _, _, _, childTraces, _⟩ := record
  rw [findInRecord]
  exact find_in_child_traces_eq_none_iff nodeId childTraces

theorem find_in_child_traces_eq_none_iff (nodeId : String)
    (childTraces : Option (List (List TraceRecord))) :
    findInChildTraces nodeId childTraces = none ↔
      ∀ group ∈ childTraces.getD [], ∀ child ∈ group, Misses nodeId child := by
  cases childTraces with
  | none => exact iff_of_true rfl fun _ hmem => absurd hmem List.not_mem_nil
  | some groups =>
      rw [findInChildTraces]
      exact find_in_groups_eq_none_iff nodeId 0 groups

theorem find_in_groups_eq_none_iff (nodeId : String) (index : Nat)
    (groups : List (List TraceRecord)) :
    findInGroups nodeId index groups = none ↔
      ∀ group ∈ groups, ∀ child ∈ group, Misses nodeId child := by
  cases groups with
  | nil => exact iff_of_true rfl fun _ hmem => absurd hmem List.not_mem_nil
  | cons inner groups =>
      rw [findInGroups, List.forall_mem_cons, ← find_from_eq_none_iff nodeId 0 inner,
        ← find_in_groups_eq_none_iff nodeId (index + 1) groups]
      cases findTraceRecordFrom nodeId 0 inner with
      | none => exact ⟨fun hrest => ⟨rfl, hrest⟩, And.right⟩
      | some found => exact iff_of_false (Option.some_ne_none _) fun h => Option.some_ne_none _ h.1

end

/-- The place of a nested record has at least one index. -/
theorem path_ne_nil {nodeId : String} {record found : TraceRecord} {path : List Nat}
    (h : findInRecord nodeId record = some (path, found)) : path ≠ [] := by
  obtain ⟨_, _, _, _, _, _, _, _, _, childTraces, _⟩ := record
  rw [findInRecord] at h
  cases childTraces with
  | none => cases h
  | some groups =>
      rw [findInChildTraces] at h
      generalize 0 = index at h
      induction groups generalizing index with
      | nil => cases h
      | cons inner groups ih =>
          rw [findInGroups] at h
          cases hinner : findTraceRecordFrom nodeId 0 inner with
          | none =>
              rw [hinner] at h
              exact ih (index + 1) h
          | some located =>
              rw [hinner] at h
              cases h
              exact List.cons_ne_nil _ _

/-- The records before the first one of a node. -/
def recordsBefore (nodeId : String) (records : List TraceRecord) : List TraceRecord :=
  records.takeWhile fun record => record.nodeId ≠ nodeId

/-- The search comes to the top-level record if no earlier record has one of the node nested in
it. -/
theorem find_top_level_iff {nodeId : String} {records : List TraceRecord} {top : TraceRecord}
    (htop : records.find? (fun record => record.nodeId = nodeId) = some top) (index : Nat) :
    findTraceRecordFrom nodeId index records =
        some ([index + (recordsBefore nodeId records).length], top) ↔
      ∀ record ∈ recordsBefore nodeId records, ∀ inner, NestedIn inner record →
        inner.nodeId ≠ nodeId := by
  induction records generalizing index with
  | nil => cases htop
  | cons record records ih =>
      rw [findTraceRecordFrom, recordsBefore]
      by_cases hself : record.nodeId = nodeId
      · rw [List.find?_cons_of_pos (by simpa using hself)] at htop
        cases htop
        rw [if_pos hself, List.takeWhile_cons_of_neg (by simpa using hself)]
        exact iff_of_true rfl fun _ hmem => absurd hmem List.not_mem_nil
      · rw [List.find?_cons_of_neg (by simpa using hself)] at htop
        rw [if_neg hself, List.takeWhile_cons_of_pos (by simpa using hself), List.forall_mem_cons,
          ← find_in_record_eq_none_iff, List.length_cons]
        cases hnested : findInRecord nodeId record with
        | none =>
            have hrest := ih htop (index + 1)
            rw [recordsBefore, Nat.add_assoc, Nat.add_comm 1] at hrest
            exact hrest.trans ⟨fun h => ⟨rfl, h⟩, And.right⟩
        | some located =>
            refine iff_of_false (fun h => ?_) fun h => Option.some_ne_none _ h.1
            have hpath := congrArg (fun result => (result.map Prod.fst).getD []) h
            exact path_ne_nil hnested (List.cons.inj hpath).2

/-! ## The status of a node with a record of its own -/

/-- The node is shown with the status of its own top-level record, which is the one that the search
finds. -/
def ShownByOwnRecord (run : RunStatusResponse) (nodeId : String) (top : TraceRecord) : Prop :=
  findTraceRecord run.trace nodeId = some ([(recordsBefore nodeId run.trace).length], top) ∧
    statusForNode nodeId (some run) = top.status

/-- In a trace of any shape, a node with a top-level record is shown by that record exactly if no
record before it has, at any depth of its child traces, a record with the id of the node. -/
theorem status_for_node_iff {run : RunStatusResponse} {nodeId : String} {top : TraceRecord}
    (htop : run.trace.find? (fun record => record.nodeId = nodeId) = some top) :
    ShownByOwnRecord run nodeId top ↔
      ∀ record ∈ recordsBefore nodeId run.trace, ∀ inner, NestedIn inner record →
        inner.nodeId ≠ nodeId := by
  have hfind := find_top_level_iff htop 0
  rw [Nat.zero_add] at hfind
  rw [← hfind, ShownByOwnRecord, findTraceRecord]
  refine ⟨And.left, fun h => ⟨h, ?_⟩⟩
  rw [statusForNode, findTraceRecord, h]

/-- The record of an execution, which may have failed. -/
def recordOf (nodeId nodeType : String) (childTraces : Option (List (List TraceRecord)) := none)
    (error : Option String := none) : TraceRecord where
  runId := "run"
  nodeId
  nodeType
  startedAt := ""
  finishedAt := ""
  inputs := .empty
  outputs := .empty
  childTraces
  error

/-- A run of a loop whose sub-graph has a node "code", before a node "code" that failed. -/
def loopedRun : RunStatusResponse where
  runId := "run"
  status := .completed
  graphId := none
  triggerSource := "manual"
  runningNodeIds := []
  activeSubNodeIds := []
  pendingApprovals := []
  trace := [recordOf "loop" "loop" (some [[recordOf "code" "code"]]),
    recordOf "code" "code" none (some "code node execution failed")]
  result := none
  error := none
  runBy := none

theorem failed_node_shown_green :
    loopedRun.trace.find? (fun record => record.nodeId = "code") =
        some (recordOf "code" "code" none (some "code node execution failed")) ∧
      statusForNode "code" (some loopedRun) = .success ∧
      ¬ ShownByOwnRecord loopedRun "code"
        (recordOf "code" "code" none (some "code node execution failed")) := by
  refine ⟨rfl, by decide, fun h => ?_⟩
  have hstatus := h.2
  revert hstatus
  decide

theorem first_record_shown :
    loopedRun.trace.find? (fun record => record.nodeId = "loop") =
        some (recordOf "loop" "loop" (some [[recordOf "code" "code"]])) ∧
      (ShownByOwnRecord loopedRun "loop"
          (recordOf "loop" "loop" (some [[recordOf "code" "code"]])) ↔
        ∀ record ∈ recordsBefore "loop" loopedRun.trace, ∀ inner, NestedIn inner record →
          inner.nodeId ≠ "loop") :=
  ⟨rfl, status_for_node_iff rfl⟩

end AgentGraphStudio
