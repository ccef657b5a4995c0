import AgentGraphStudio.Api.Runs
import AgentGraphStudio.Lib.Logged

/-!
# The records that a run appends

The observers of a run append the records of the engine to the trace of its record in memory. The
trace of a result is what they appended (`result_trace`), and `unrecorded_iff` says which runs
append nothing at all.
-/

namespace AgentGraphStudio

/-- The record that an event appends to the trace of a run. -/
def appendedRecord (runId : String) (event : Event Op Res) : Option TraceRecord :=
  match event.op with
  | .updateRun id (.appendTrace record) => if id = runId then some record else none
  | _ => none

/-- The records that these events append to the trace of a run. -/
def appendedRecords (runId : String) (events : History) : List TraceRecord :=
  events.filterMap (appendedRecord runId)

/-! ## The trace of a result -/

section

variable {Body : Type} {graph : GraphSpec} {registry : NodeRegistry Body} {resources : Resources}
  {runId engineRunId : String} {execute : Body → ExecutionContext → Act NodeResult}

theorem appended_records_append (first second : History) :
    appendedRecords runId (first ++ second) =
      appendedRecords runId first ++ appendedRecords runId second :=
  List.filterMap_append

theorem appended_records_cons (event : Event Op Res) (events : History) :
    appendedRecords runId (event :: events) =
      (appendedRecord runId event).toList ++ appendedRecords runId events := by
  unfold appendedRecords
  rw [List.filterMap_cons]
  cases appendedRecord runId event <;> rfl

/-- A round's records are appended as the scheduler takes them over. -/
theorem finish_round_trace {executed : List Executed} {state later : SchedulerState}
    {events : History}
    (h : Program.Ends (finishRound (runObservers runId) graph registry executed state) events
      (.ok later)) :
    later.trace = state.trace ++ appendedRecords runId events := by
  induction executed generalizing state events with
  | nil =>
      obtain ⟨rfl, hlater⟩ := Program.ends_done_iff.mp h
      cases hlater
      simp [appendedRecords]
  | cons head rest ih =>
      obtain ⟨observed, _, others, rfl, hobserved, hothers⟩ := Program.ends_bind_iff.mp h
      obtain ⟨removed, _, rfl, happend⟩ := Program.ends_perform_iff.mp hobserved
      obtain ⟨appended, _, rfl, hdone⟩ := Program.ends_perform_iff.mp happend
      obtain ⟨rfl, _⟩ := Program.ends_done_iff.mp hdone
      cases habsorb : state.absorb graph registry head with
      | error raised =>
          rw [habsorb] at hothers
          obtain ⟨_, hcontra⟩ := Program.ends_done_iff.mp hothers
          cases hcontra
      | ok next =>
          rw [habsorb] at hothers
          have hobserved : appendedRecords runId
              [⟨.updateRun runId (.removeRunningNodeId head.record.nodeId), removed⟩,
                ⟨.updateRun runId (.appendTrace head.record), appended⟩] = [head.record] := by
            rw [appended_records_cons, appended_records_cons]
            simp [appendedRecords, appendedRecord]
          rw [ih hothers, absorb_trace habsorb, appended_records_append, hobserved,
            List.append_assoc]

/-- A node changes its run's record by the activity of sub-nodes only. -/
def Op.Quiet : Op → Prop
  | .updateRun _ update =>
    match update with
    | .subNodeActivity .. => True
    | _ => False
  | .approval (.clearRemembered _) => False
  | _ => True

theorem Op.Routine.quiet {op : Op} (h : op.Routine) : op.Quiet := by
  cases op with
  | updateRun id update => cases update <;> first | exact trivial | exact h.elim
  | approval op => cases op <;> first | exact trivial | exact h.elim
  | _ => trivial

/-- A node performs quiet operations. -/
def quietPolicy : Policy := .ofOps Op.Quiet fun _ => Op.Routine.quiet

/-- Quiet operations append no records. -/
theorem appended_records_quiet {events : History} (h : ∀ event ∈ events, event.op.Quiet) :
    appendedRecords runId events = [] := by
  refine List.filterMap_eq_nil_iff.mpr fun event hevent => ?_
  have hquiet := h event hevent
  unfold appendedRecord
  split
  · rename_i hop
    rw [hop] at hquiet
    exact hquiet.elim
  · rfl

/-- The bodies of a round append no records. -/
theorem gather_appends_nothing {ready : List Ready} {events : History}
    {outcomes : List (Except Raised Executed)}
    (hnodes : NodesAlways quietPolicy execute graph resources registry)
    (h : Program.Ends (Program.gather (ready.map (executeReady programRuntime
      (fun body ctx => (execute body ctx).run) graph registry resources engineRunId))) events
      outcomes) : appendedRecords runId events = [] := by
  have halways : Program.Always quietPolicy.permitted quietPolicy.allowed (Program.gather (ready.map
      (executeReady programRuntime (fun body ctx => (execute body ctx).run) graph registry resources
        engineRunId))) := by
    refine Program.Always.gather fun program hprogram => ?_
    obtain ⟨node, _, rfl⟩ := List.mem_map.mp hprogram
    exact Program.Always.of_certified (execute_ready_certified hnodes node)
  exact appended_records_quiet (Policy.ofOps_run halways h)

/-- The trace of the scheduler's last state is what the observers appended, on top of the trace
with which it started. -/
theorem schedule_trace {fuel : Nat} {state final : SchedulerState} {events : History}
    (hnodes : NodesAlways quietPolicy execute graph resources registry)
    (h : Program.Ends (schedule programRuntime (runObservers runId)
      (fun body ctx => (execute body ctx).run) graph registry resources engineRunId fuel state)
      events (.ok final)) :
    final.trace = state.trace ++ appendedRecords runId events := by
  induction fuel generalizing state events with
  | zero =>
      obtain ⟨rfl, hfinal⟩ := Program.ends_done_iff.mp h
      cases hfinal
      simp [appendedRecords]
  | succ fuel ih =>
      rw [schedule] at h
      split at h
      · obtain ⟨rfl, hfinal⟩ := Program.ends_done_iff.mp h
        cases hfinal
        simp [appendedRecords]
      · split at h
        · obtain ⟨_, hcontra⟩ := Program.ends_done_iff.mp h
          cases hcontra
        · rename_i started hstart
          obtain ⟨rfl, hfinal⟩ := Program.ends_done_iff.mp h
          cases hfinal
          rw [pass_nodes_trace hstart]
          simp [appendedRecords]
        · rename_i started ready _ hstart
          -- A round: the observer of its start, the bodies, and the records that are appended.
          obtain ⟨observed, _, gathered, rfl, hobserved, hround⟩ := Program.ends_bind_iff.mp h
          obtain ⟨bodies, outcomes, absorbed, rfl, hbodies, habsorbed⟩ :=
            Program.ends_bind_iff.mp hround
          obtain ⟨written, _, rfl, hdone⟩ := Program.ends_perform_iff.mp hobserved
          obtain ⟨rfl, _⟩ := Program.ends_done_iff.mp hdone
          have hquiet : appendedRecords runId bodies = [] :=
            gather_appends_nothing hnodes hbodies
          cases hcollect : collectOutcomes outcomes with
          | error raised =>
              rw [hcollect] at habsorbed
              obtain ⟨_, hcontra⟩ := Program.ends_done_iff.mp habsorbed
              cases hcontra
          | ok executed =>
              rw [hcollect] at habsorbed
              obtain ⟨finished, outcome, later, rfl, hfinished, hlater⟩ :=
                Program.ends_bind_iff.mp habsorbed
              cases outcome with
              | error raised =>
                  obtain ⟨_, hcontra⟩ := Program.ends_done_iff.mp hlater
                  cases hcontra
              | ok next =>
                  have hstarted := pass_nodes_trace hstart
                  rw [ih hlater, finish_round_trace hfinished, hstarted,
                    appended_records_append, appended_records_append, appended_records_append,
                    hquiet]
                  simp [appendedRecords, appendedRecord]

/-- The bodies of the first round end in an exception that leaves the engine. -/
def FirstRoundRaises (runId engineRunId : String) (graph : GraphSpec) (registry : NodeRegistry Body)
    (resources : Resources) (execute : Body → ExecutionContext → Act NodeResult)
    (ready : List Ready) (events : History) : Prop :=
  ∃ written bodies outcomes raised,
    events = ⟨.updateRun runId (.setRunningNodeIds (ready.map Prod.fst)), written⟩ :: bodies ∧
    Program.Ends (Program.gather (ready.map (executeReady programRuntime
      (fun body ctx => (execute body ctx).run) graph registry resources engineRunId))) bodies
      outcomes ∧
    collectOutcomes outcomes = .error raised

/-- A round of executed nodes appends a record. -/
theorem finish_round_appends {executed : Executed} {rest : List Executed} {state : SchedulerState}
    {events : History} {outcome : Except Raised SchedulerState}
    (h : Program.Ends (finishRound (runObservers runId) graph registry (executed :: rest) state)
      events outcome) : appendedRecords runId events ≠ [] := by
  obtain ⟨observed, _, others, rfl, hobserved, _⟩ := Program.ends_bind_iff.mp h
  obtain ⟨removed, _, rfl, happend⟩ := Program.ends_perform_iff.mp hobserved
  obtain ⟨appended, _, rfl, hdone⟩ := Program.ends_perform_iff.mp happend
  obtain ⟨rfl, _⟩ := Program.ends_done_iff.mp hdone
  simp [appendedRecords, appendedRecord]

/-- A round has one outcome for each of its nodes. -/
theorem length_of_collectOutcomes {outcomes : List (Except Raised Executed)}
    {executed : List Executed} (h : collectOutcomes outcomes = .ok executed) :
    executed.length = outcomes.length := by
  induction outcomes generalizing executed with
  | nil =>
      cases h
      rfl
  | cons outcome outcomes ih =>
      rw [collectOutcomes] at h
      obtain ⟨head, rfl, hhead⟩ := except_bind_eq_ok.mp h
      obtain ⟨rest, hrest, hcons⟩ := except_bind_eq_ok.mp hhead
      cases hcons
      exact congrArg (· + 1) (ih hrest)

/-- The scheduler appends no record exactly if no node is ready in its first pass, or the first
round raises. -/
theorem schedule_unrecorded_iff {fuel : Nat} {state : SchedulerState} {events : History}
    {outcome : Except Raised SchedulerState}
    (hnodes : NodesAlways quietPolicy execute graph resources registry)
    (hfuel : state.pending ≠ [] → fuel ≠ 0)
    (h : Program.Ends (schedule programRuntime (runObservers runId)
      (fun body ctx => (execute body ctx).run) graph registry resources engineRunId fuel state)
      events outcome) :
    appendedRecords runId events = [] ↔
      ∀ started ready, startRound graph registry state = .ok (started, ready) → ready ≠ [] →
        FirstRoundRaises runId engineRunId graph registry resources execute ready events := by
  cases fuel with
  | zero =>
      obtain ⟨rfl, _⟩ := Program.ends_done_iff.mp h
      refine iff_of_true rfl fun started ready hstart hready => ?_
      have hpending : state.pending = [] := by
        by_contra hpending
        exact hfuel hpending rfl
      rw [startRound, hpending] at hstart
      cases hstart
      exact absurd rfl hready
  | succ fuel =>
      rw [schedule] at h
      split at h
      · rename_i hpending
        obtain ⟨rfl, _⟩ := Program.ends_done_iff.mp h
        refine iff_of_true rfl fun started ready hstart hready => ?_
        rw [startRound, hpending] at hstart
        cases hstart
        exact absurd rfl hready
      · split at h
        · rename_i hstart
          obtain ⟨rfl, _⟩ := Program.ends_done_iff.mp h
          exact iff_of_true rfl fun started ready hstarted _ => by cases hstart.symm.trans hstarted
        · rename_i hstart
          obtain ⟨rfl, _⟩ := Program.ends_done_iff.mp h
          refine iff_of_true rfl fun started ready hstarted hready => ?_
          cases hstart.symm.trans hstarted
          exact absurd rfl hready
        · rename_i started ready hready hstart
          obtain ⟨observed, _, gathered, rfl, hobserved, hround⟩ := Program.ends_bind_iff.mp h
          obtain ⟨bodies, outcomes, absorbed, rfl, hbodies, habsorbed⟩ :=
            Program.ends_bind_iff.mp hround
          obtain ⟨written, _, rfl, hdone⟩ := Program.ends_perform_iff.mp hobserved
          obtain ⟨rfl, _⟩ := Program.ends_done_iff.mp hdone
          have hquiet : appendedRecords runId bodies = [] := gather_appends_nothing hnodes hbodies
          cases hcollect : collectOutcomes outcomes with
          | error raised =>
              -- The first round raises before it appends a record.
              rw [hcollect] at habsorbed
              obtain ⟨rfl, _⟩ := Program.ends_done_iff.mp habsorbed
              refine iff_of_true ?_ fun other ready' hstarted _ => ?_
              · rw [appended_records_append, List.append_nil, hquiet]
                rfl
              · cases hstart.symm.trans hstarted
                rw [List.append_nil]
                exact ⟨written, bodies, outcomes, raised, rfl, hbodies, hcollect⟩
          | ok executed =>
              -- The first round is absorbed, which appends the record of its first node.
              rw [hcollect] at habsorbed
              obtain ⟨finished, _, later, rfl, hfinished, _⟩ := Program.ends_bind_iff.mp habsorbed
              have hlength : executed.length = ready.length := by
                rw [length_of_collectOutcomes hcollect,
                  (Program.Yields.gather_length _).ends hbodies, List.length_map]
              have happended : appendedRecords runId finished ≠ [] := by
                cases executed with
                | nil => exact absurd (List.eq_nil_of_length_eq_zero hlength.symm) hready
                | cons head rest => exact finish_round_appends hfinished
              refine iff_of_false (fun hnone => ?_) fun hraises => ?_
              · simp only [appended_records_append, List.append_eq_nil_iff] at hnone
                exact happended hnone.2.2.1
              · obtain ⟨_, others, _, _, hevents, hothers, _⟩ := hraises started ready hstart hready
                obtain ⟨-, hsame⟩ := List.cons.inj hevents
                have hnone : appendedRecords runId (bodies ++ (finished ++ later)) = [] := by
                  rw [show bodies ++ (finished ++ later) = others from hsame]
                  exact gather_appends_nothing hnodes hothers
                simp only [appended_records_append, List.append_eq_nil_iff] at hnone
                exact happended hnone.2.1

end

/-! ## Finished runs -/

section

variable {env : Environment} {depth : Nat} {modelDumpJson : RunResult → Except Raised String}
  {runId : String} {graph : GraphSpec} {resources : Resources}

/-- Every node performs quiet operations. -/
def quiet (env : Environment) : Discipline env :=
  .ofOps env Op.Quiet (fun _ => Op.Routine.quiet)
    (fun op h => by cases op <;> first | exact trivial | exact h.elim) (fun _ => True)
    (fun _ _ _ _ _ => trivial) fun _ _ _ _ _ _ _ _ => trivial

/-- The trace of a result is what the observers appended to the record. -/
theorem FinishedRun.result_trace (run : FinishedRun env depth modelDumpJson runId graph resources)
    {result : RunResult} (h : run.outcome = .ok result) :
    result.trace = appendedRecords runId run.graphEvents := by
  have hends := run.graphEnds
  rw [h] at hends
  unfold runGraphOf runGraphWith at hends
  cases hverdict : revalidate graph env.registry run.store (runResources resources runId) with
  | error issues =>
      rw [run_graph_of_error hverdict] at hends
      obtain ⟨_, hcontra⟩ := Program.ends_done_iff.mp hends
      cases hcontra
  | ok _ =>
      rw [run_graph_of_ok hverdict] at hends
      obtain ⟨first, engineRunId, work, hevents, hfirst, hwork⟩ := Program.ends_bind_iff.mp hends
      have hdrawn := Program.ends_op_iff.mp hfirst
      obtain ⟨scheduled, outcome, rest, rfl, hscheduled, hrest⟩ := Program.ends_bind_iff.mp hwork
      cases outcome with
      | error raised =>
          obtain ⟨_, hcontra⟩ := Program.ends_done_iff.mp hrest
          cases hcontra
      | ok final =>
          obtain ⟨rfl, hresult⟩ := Program.ends_done_iff.mp hrest
          cases hresult
          have hnodes : NodesAlways quietPolicy (execute env depth) graph
              (withGraph (runResources resources runId) graph) env.registry :=
            (quiet env).nodes_always trivial fun _ _ => trivial
          have htrace := schedule_trace hnodes hscheduled
          rw [hevents, hdrawn, List.append_nil, List.singleton_append, appended_records_cons]
          exact htrace

/-- `run_graph` comes to no record of a node: it refuses the graph, no node can start, or an
exception of one of the first nodes leaves the engine. -/
def FinishedRun.Unrecorded (run : FinishedRun env depth modelDumpJson runId graph resources) :
    Prop :=
  revalidate graph env.registry run.store (runResources resources runId) = .ok () →
    ∀ started ready, startRound graph env.registry (initialState graph) = .ok (started, ready) →
      ready ≠ [] → ∃ engineRunId work, run.graphEvents = ⟨.uuid4, engineRunId⟩ :: work ∧
        FirstRoundRaises runId engineRunId graph env.registry
          (withGraph (runResources resources runId) graph) (execute env depth) ready work

/-- The runs that append no record. -/
theorem FinishedRun.unrecorded_iff
    (run : FinishedRun env depth modelDumpJson runId graph resources) :
    run.Unrecorded ↔ appendedRecords runId run.graphEvents = [] := by
  have hends := run.graphEnds
  unfold FinishedRun.Unrecorded
  unfold runGraphOf runGraphWith at hends
  cases hverdict : revalidate graph env.registry run.store (runResources resources runId) with
  | error issues =>
      rw [run_graph_of_error hverdict] at hends
      rw [(Program.ends_done_iff.mp hends).1]
      exact iff_of_true nofun rfl
  | ok _ =>
      rw [run_graph_of_ok hverdict] at hends
      obtain ⟨first, engineRunId, work, hevents, hfirst, hwork⟩ := Program.ends_bind_iff.mp hends
      have hdrawn := Program.ends_op_iff.mp hfirst
      obtain ⟨scheduled, outcome, rest, rfl, hscheduled, hrest⟩ := Program.ends_bind_iff.mp hwork
      have hdone : rest = [] := by
        cases outcome with
        | error raised => exact (Program.ends_done_iff.mp hrest).1
        | ok final => exact (Program.ends_done_iff.mp hrest).1
      have hnodes : NodesAlways quietPolicy (execute env depth) graph
          (withGraph (runResources resources runId) graph) env.registry :=
        (quiet env).nodes_always trivial fun _ _ => trivial
      have hfuel : (initialState graph).pending ≠ [] → (scheduledIds graph).length ≠ 0 :=
        fun hpending hzero => hpending (List.eq_nil_of_length_eq_zero hzero)
      rw [hevents, hdrawn, hdone, List.append_nil, List.singleton_append, appended_records_cons]
      refine Iff.trans ?_ (schedule_unrecorded_iff hnodes hfuel hscheduled).symm
      constructor
      · intro h started ready hstart hready
        obtain ⟨_, _, hsame, hraises⟩ := h rfl started ready hstart hready
        cases hsame
        exact hraises
      · intro h _ started ready hstart hready
        exact ⟨engineRunId, scheduled, rfl, h started ready hstart hready⟩

end

end AgentGraphStudio
