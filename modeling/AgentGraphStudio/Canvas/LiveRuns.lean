import AgentGraphStudio.Canvas.TraceStatus
import AgentGraphStudio.Lib.History

/-!
# Following runs on the canvas

The live view of `frontend/src/canvas/Canvas.tsx`: runs that the user starts, picks from the history
or that a trigger starts are polled until they are done, and the nodes show how far they are. The
answers come in any order, and a timeout can be cleared while a request cannot. `live_runs_sound`
says what the view shows nevertheless, in every order of answers, timeouts and clicks.
-/

namespace AgentGraphStudio

/-- How a node is shown, with the message that hovers over it. -/
structure LiveNode where
  id : String
  status : NodeStatus := .pending
  errorMessage : Option String := none
  deriving DecidableEq

/-- An edge, which takes its color from the node that it leads to. -/
structure LiveEdge where
  id : String
  target : String
  targetStatus : NodeStatus := .pending
  deriving DecidableEq

/-- A request that is under way: a poll of the loop (`pollUntilDone`), the single poll of a run from
the history or after an approval, an approval, a run that is submitted, a look for new runs. -/
inductive LiveRequest where
  | poll (runId : String)
  | once (runId : String)
  | resolve (runId : String)
  | submit
  | watch
  deriving DecidableEq

/-- The state and the references of the component, the timeouts that are set and the requests that
are under way. -/
structure LiveCanvas where
  run : Option RunStatusResponse
  runError : Option String
  nodes : List LiveNode
  edges : List LiveEdge
  pollTimeout : Option Nat
  activeRunId : Option String
  lastSeenRunId : Option String
  timeouts : List (Nat × String)
  timeoutsSet : Nat
  requests : List LiveRequest

/-- The canvas when the page opens. -/
def LiveCanvas.empty : LiveCanvas where
  run := none
  runError := none
  nodes := []
  edges := []
  pollTimeout := none
  activeRunId := none
  lastSeenRunId := none
  timeouts := []
  timeoutsSet := 0
  requests := []

/-- What happens to the canvas: clicks, ticks of the interval that looks for new runs, timeouts,
answers, and edits of the graph. A run is refused with a message, or because slots of the graph are
not mapped. -/
inductive LiveEvent where
  | run
  | select (runId : String)
  | resolve
  | tick
  | timeout (handle : Nat) (runId : String)
  | polled (runId : String) (answer : Except String RunStatusResponse)
  | polledOnce (runId : String) (answer : Except String RunStatusResponse)
  | resolved (runId : String) (answer : Except String Unit)
  | submitted (answer : Except (Option String) String)
  | watched (answer : Except String (List String))
  | load (nodeIds : List String) (edges : List (String × String))
  | addNode (id : String)
  | addEdge (id target : String)
  | remove (nodeIds edgeIds : List String)

/-- The message over a node (`errorMessageForNode`). -/
def errorMessageForNode (nodeId : String) (run : Option RunStatusResponse) : Option String :=
  match run with
  | none => none
  | some run =>
    match findTraceRecord run.trace nodeId with
    | some (_, record) => record.error
    | none => none

namespace LiveCanvas

/-! ## The functions of the component -/

/-- Show a run: `setRun`, `applyRunToNodes` and `applyRunToEdges`. -/
def showRun (nextRun : RunStatusResponse) (canvas : LiveCanvas) : LiveCanvas :=
  { canvas with
    run := some nextRun
    nodes := canvas.nodes.map fun node =>
      { node with
        status := statusForNode node.id (some nextRun)
        errorMessage := errorMessageForNode node.id (some nextRun) }
    edges := canvas.edges.map fun edge =>
      { edge with targetStatus := statusForNode edge.target (some nextRun) } }

/-- `window.setTimeout`, with the handle in `pollTimeoutRef`. -/
def setPollTimeout (runId : String) (canvas : LiveCanvas) : LiveCanvas :=
  { canvas with
    timeouts := canvas.timeouts ++ [(canvas.timeoutsSet, runId)]
    timeoutsSet := canvas.timeoutsSet + 1
    pollTimeout := some canvas.timeoutsSet }

/-- `window.clearTimeout` of the handle in `pollTimeoutRef`. -/
def clearPollTimeout (canvas : LiveCanvas) : LiveCanvas :=
  match canvas.pollTimeout with
  | none => canvas
  | some handle =>
    { canvas with timeouts := canvas.timeouts.filter fun timeout => timeout.1 ≠ handle }

def request (asked : LiveRequest) (canvas : LiveCanvas) : LiveCanvas :=
  { canvas with requests := canvas.requests ++ [asked] }

def settle (asked : LiveRequest) (canvas : LiveCanvas) : LiveCanvas :=
  { canvas with requests := canvas.requests.erase asked }

def fail (error : String) (canvas : LiveCanvas) : LiveCanvas :=
  { canvas with runError := some error }

/-- Poll a run (`pollUntilDone`). -/
def pollUntilDone (runId : String) (canvas : LiveCanvas) : LiveCanvas :=
  canvas.request (.poll runId)

/-- The answer to a poll of the loop, which goes on while the run does. -/
def pollAnswered (runId : String) (answer : Except String RunStatusResponse)
    (canvas : LiveCanvas) : LiveCanvas :=
  match answer with
  | .error error => canvas.fail error
  | .ok status =>
    if status.status = .running then (canvas.showRun status).setPollTimeout runId
    else canvas.showRun status

/-- The answer to a single poll. -/
def onceAnswered (answer : Except String RunStatusResponse) (canvas : LiveCanvas) : LiveCanvas :=
  match answer with
  | .error error => canvas.fail error
  | .ok status => canvas.showRun status

/-- Nothing has run yet. -/
def resetRun (canvas : LiveCanvas) : LiveCanvas :=
  { canvas with
    run := none
    nodes := canvas.nodes.map fun node => { node with status := .pending, errorMessage := none }
    edges := canvas.edges.map fun edge => { edge with targetStatus := .pending } }

/-- Follow a run, unless it is followed already (`attachToRun`). -/
def attachToRun (runId : String) (canvas : LiveCanvas) : LiveCanvas :=
  if canvas.activeRunId = some runId then { canvas with lastSeenRunId := some runId }
  else
    ({ canvas with lastSeenRunId := some runId, activeRunId := some runId }.resetRun
      |>.clearPollTimeout).pollUntilDone runId

/-- Show a run of the history (`handleSelectHistoricalRun`). -/
def handleSelectHistoricalRun (runId : String) (canvas : LiveCanvas) : LiveCanvas :=
  { canvas.clearPollTimeout with
    activeRunId := some runId, lastSeenRunId := some runId }.request (.once runId)

/-- Answer a pending approval of the run that is shown (`handleResolveApproval`). -/
def handleResolveApproval (canvas : LiveCanvas) : LiveCanvas :=
  match canvas.run with
  | none => canvas
  | some run => canvas.request (.resolve run.runId)

/-- Submit the graph (`handleRun`). -/
def handleRun (canvas : LiveCanvas) : LiveCanvas :=
  { canvas with runError := none }.request .submit

/-- The runs of the saved graph are answered, the newest one first. -/
def watchAnswered (runs : List String) (canvas : LiveCanvas) : LiveCanvas :=
  match runs with
  | [] => canvas
  | latest :: _ =>
    if canvas.lastSeenRunId = some latest then canvas else canvas.attachToRun latest

/-- Another graph is on the canvas (`handleLoadFromServer`, `handleImportFile`). -/
def showGraph (nodeIds : List String) (edges : List (String × String)) (canvas : LiveCanvas) :
    LiveCanvas :=
  { canvas with
    nodes := nodeIds.map fun id => { id }
    edges := edges.map fun (id, target) => { id, target }
    run := none
    runError := none }.clearPollTimeout

/-- What an event does. -/
def act : LiveEvent → LiveCanvas → LiveCanvas
  | .run, canvas => canvas.handleRun
  | .select runId, canvas => canvas.handleSelectHistoricalRun runId
  | .resolve, canvas => canvas.handleResolveApproval
  | .tick, canvas => canvas.request .watch
  | .timeout handle runId, canvas =>
    { canvas with timeouts := canvas.timeouts.erase (handle, runId) }.pollUntilDone runId
  | .polled runId answer, canvas => (canvas.settle (.poll runId)).pollAnswered runId answer
  | .polledOnce runId answer, canvas => (canvas.settle (.once runId)).onceAnswered answer
  | .resolved runId (.ok ()), canvas => (canvas.settle (.resolve runId)).request (.once runId)
  | .resolved runId (.error error), canvas => (canvas.settle (.resolve runId)).fail error
  | .submitted (.ok runId), canvas => (canvas.settle .submit).attachToRun runId
  | .submitted (.error (some error)), canvas => (canvas.settle .submit).fail error
  | .submitted (.error none), canvas => canvas.settle .submit
  | .watched (.ok runs), canvas => (canvas.settle .watch).watchAnswered runs
  | .watched (.error _), canvas => canvas.settle .watch
  | .load nodeIds edges, canvas => canvas.showGraph nodeIds edges
  | .addNode id, canvas => { canvas with nodes := canvas.nodes ++ [{ id }] }
  | .addEdge id target, canvas => { canvas with edges := canvas.edges ++ [{ id, target }] }
  | .remove nodeIds edgeIds, canvas =>
    { canvas with
      nodes := canvas.nodes.filter fun node => node.id ∉ nodeIds
      edges := canvas.edges.filter fun edge => edge.id ∉ edgeIds }

/-- Answers come to requests that are under way, and tell of the run that was asked for; timeouts
run off that are set. -/
def Possible (canvas : LiveCanvas) : LiveEvent → Prop
  | .timeout handle runId => (handle, runId) ∈ canvas.timeouts
  | .polled runId answer =>
    .poll runId ∈ canvas.requests ∧ ∀ status, answer = .ok status → status.runId = runId
  | .polledOnce runId answer =>
    .once runId ∈ canvas.requests ∧ ∀ status, answer = .ok status → status.runId = runId
  | .resolved runId _ => .resolve runId ∈ canvas.requests
  | .submitted _ => .submit ∈ canvas.requests
  | .watched _ => .watch ∈ canvas.requests
  | _ => True

/-! ## What is followed -/

/-- The run that an event makes the canvas follow. -/
def attached (canvas : LiveCanvas) : LiveEvent → Option String
  | .submitted (.ok runId) => if canvas.activeRunId = some runId then none else some runId
  | .watched (.ok (latest :: _)) =>
    if canvas.lastSeenRunId = some latest ∨ canvas.activeRunId = some latest then none
    else some latest
  | _ => none

/-- The event turns the canvas to another run or to another graph. -/
def Leaves (canvas : LiveCanvas) : LiveEvent → Prop
  | .select _ | .load _ _ => True
  | event => (canvas.attached event).isSome = true

/-- How often the canvas starts to follow a run. -/
def attachments (runId : String) : List LiveEvent → LiveCanvas → Nat
  | [], _ => 0
  | event :: later, canvas =>
    (if canvas.attached event = some runId then 1 else 0) +
      attachments runId later (act event canvas)

/-- How many loops poll a run: their requests that are under way and their timeouts. -/
def loops (runId : String) (canvas : LiveCanvas) : Nat :=
  canvas.requests.count (.poll runId) + canvas.timeouts.countP fun timeout => timeout.2 = runId

end LiveCanvas

/-- The run that an event shows. -/
def LiveEvent.shows : LiveEvent → Option RunStatusResponse
  | .polled _ (.ok status) | .polledOnce _ (.ok status) => some status
  | _ => none

/-- The run that an event brings up: one that the user has started or picks, or one that a trigger
has started. -/
def LiveEvent.names : LiveEvent → Option String
  | .select runId | .submitted (.ok runId) | .watched (.ok (runId :: _)) => some runId
  | _ => none

/-- A loop polls no further: the run is over, or the poll has failed. -/
def LiveEvent.Ends (runId : String) : LiveEvent → Prop
  | .polled id answer => id = runId ∧ ∀ status, answer = .ok status → status.status ≠ .running
  | _ => False

/-- The run that a request is about. -/
def LiveRequest.runId? : LiveRequest → Option String
  | .poll runId | .once runId | .resolve runId => some runId
  | .submit | .watch => none

/-- A node shows what the run says about it. -/
def LiveNode.Shows (node : LiveNode) (run : Option RunStatusResponse) : Prop :=
  node.status = statusForNode node.id run ∧ node.errorMessage = errorMessageForNode node.id run

/-- Since this event no run has been shown. -/
def ShownNothingSince (history : List LiveEvent) (event : LiveEvent) : Prop :=
  ∃ before rest, history = before ++ event :: rest ∧ ∀ other ∈ rest, other.shows = none

/-- What is on the canvas after a history: a run as the server has told of it, which somebody has
asked for, and nodes and edges that show its state unless they were added since. -/
structure ViewOf (history : List LiveEvent) (canvas : LiveCanvas) : Prop where
  told : ∀ status, canvas.run = some status → ∃ event ∈ history, event.shows = some status
  named : ∀ status, canvas.run = some status →
    ∃ event ∈ history, event.names = some status.runId
  nodes : ∀ node ∈ canvas.nodes, node.Shows canvas.run ∨
    node = { id := node.id } ∧ ShownNothingSince history (.addNode node.id)
  edges : ∀ edge ∈ canvas.edges, edge.targetStatus = statusForNode edge.target canvas.run ∨
    edge.targetStatus = .pending ∧ ShownNothingSince history (.addEdge edge.id edge.target)

/-- The user turns away only from runs about which nothing is asked, and answers approvals of the
run that he has turned to. -/
def Undisturbed (canvas : LiveCanvas) (event : LiveEvent) : Prop :=
  (canvas.Leaves event → ∀ asked ∈ canvas.requests, asked.runId? = none) ∧
  (event = .resolve → ∀ status, canvas.run = some status →
    canvas.activeRunId = some status.runId)

/-- A single loop, and requests about a single run. -/
structure OneRun (canvas : LiveCanvas) : Prop where
  requests : ∀ asked ∈ canvas.requests, ∀ runId, asked.runId? = some runId →
    canvas.activeRunId = some runId
  timeouts : ∀ timeout ∈ canvas.timeouts, canvas.activeRunId = some timeout.2 ∧
    canvas.pollTimeout = some timeout.1
  single : ∀ runId, canvas.activeRunId = some runId →
    canvas.requests.count (.poll runId) + canvas.timeouts.length ≤ 1

/-- What holds of the live view over a history. -/
structure LiveRunsSound (history : List LiveEvent) : Prop where
  view : ∀ earlier later, history = earlier ++ later →
    ViewOf earlier (History.after LiveCanvas.act earlier .empty)
  bounded : ∀ earlier later, history = earlier ++ later → ∀ runId,
    (History.after LiveCanvas.act earlier .empty).loops runId ≤
      LiveCanvas.attachments runId earlier .empty
  followed : ∀ earlier event later runId, history = earlier ++ event :: later →
    (History.after LiveCanvas.act earlier .empty).attached event = some runId →
    History.AllSteps LiveCanvas.act later (History.after LiveCanvas.act (earlier ++ [event]) .empty)
      (fun canvas event => ¬ canvas.Leaves event) →
    1 ≤ (History.after LiveCanvas.act history .empty).loops runId ∨
      ∃ event ∈ later, event.Ends runId
  undisturbed : History.AllSteps LiveCanvas.act history .empty Undisturbed →
    ∀ earlier later, history = earlier ++ later →
      OneRun (History.after LiveCanvas.act earlier .empty)

/-! ## The loops -/

namespace LiveCanvas

section

variable {canvas : LiveCanvas} {asked : LiveRequest} {runId : String} {event : LiveEvent}

@[simp] theorem loops_showRun (nextRun : RunStatusResponse) :
    (canvas.showRun nextRun).loops runId = canvas.loops runId := rfl

@[simp] theorem loops_fail (error : String) :
    (canvas.fail error).loops runId = canvas.loops runId := rfl

theorem loops_request : (canvas.request asked).loops runId =
    canvas.loops runId + if asked = .poll runId then 1 else 0 := by
  unfold loops request
  rw [List.count_append, List.count_singleton]
  simp only [beq_iff_eq]
  omega

theorem loops_request_of_ne (h : asked ≠ .poll runId) :
    (canvas.request asked).loops runId = canvas.loops runId := by
  rw [loops_request, if_neg h, Nat.add_zero]

theorem loops_settle (h : asked ∈ canvas.requests) :
    (canvas.settle asked).loops runId + (if asked = .poll runId then 1 else 0) =
      canvas.loops runId := by
  unfold loops settle
  rw [List.count_erase]
  by_cases hasked : asked = .poll runId
  · subst hasked
    have hpos := List.count_pos_iff.mpr h
    simp only [BEq.rfl, if_true]
    omega
  · simp only [beq_iff_eq, hasked, if_false]
    omega

theorem loops_settle_of_ne (h : asked ≠ .poll runId) :
    (canvas.settle asked).loops runId = canvas.loops runId := by
  unfold loops settle
  rw [List.count_erase_of_ne (Ne.symm h)]

theorem loops_setPollTimeout (id : String) : (canvas.setPollTimeout id).loops runId =
    canvas.loops runId + if id = runId then 1 else 0 := by
  unfold loops setPollTimeout
  rw [List.countP_append, List.countP_singleton]
  simp only [decide_eq_true_eq]
  omega

theorem loops_clear_le : canvas.clearPollTimeout.loops runId ≤ canvas.loops runId := by
  unfold clearPollTimeout
  cases canvas.pollTimeout with
  | none => exact Nat.le_refl _
  | some handle =>
      unfold loops
      exact Nat.add_le_add_left (List.Sublist.countP_le List.filter_sublist) _

/-- Following a run starts a loop, and stops at most others. -/
theorem loops_attach_le (hnew : canvas.activeRunId ≠ some runId) (id : String) :
    (canvas.attachToRun runId).loops id ≤ canvas.loops id + if runId = id then 1 else 0 := by
  unfold attachToRun pollUntilDone
  rw [if_neg hnew, loops_request]
  have hclear : (LiveCanvas.clearPollTimeout (LiveCanvas.resetRun
      { canvas with lastSeenRunId := some runId, activeRunId := some runId })).loops id ≤
      canvas.loops id := loops_clear_le
  simp only [LiveRequest.poll.injEq]
  omega

theorem loops_attach_pos (hnew : canvas.activeRunId ≠ some runId) :
    1 ≤ (canvas.attachToRun runId).loops runId := by
  unfold attachToRun pollUntilDone
  rw [if_neg hnew, loops_request, if_pos rfl]
  omega

theorem loops_attach_same (hsame : canvas.activeRunId = some runId) (id : String) :
    (canvas.attachToRun runId).loops id = canvas.loops id := by
  unfold attachToRun
  rw [if_pos hsame]
  rfl

/-- How an event makes the canvas follow a run: a run is submitted, or the newest one is new. -/
theorem act_attached {id : String} (h : canvas.attached event = some id) :
    canvas.activeRunId ≠ some id ∧ event.names = some id ∧ event.shows = none ∧
      ∃ asked, asked.runId? = none ∧ act event canvas = (canvas.settle asked).attachToRun id := by
  unfold attached at h
  split at h
  · rename_i runId
    split at h
    · cases h
    · rename_i hnew
      cases h
      exact ⟨hnew, rfl, rfl, .submit, rfl, rfl⟩
  · rename_i latest runs
    split at h
    · cases h
    · rename_i hnew
      cases h
      obtain ⟨hunseen, hinactive⟩ := not_or.mp hnew
      refine ⟨hinactive, rfl, rfl, .watch, rfl, ?_⟩
      show (if canvas.lastSeenRunId = some id then _ else _ : LiveCanvas) = _
      rw [if_neg hunseen]
  · cases h

/-- How the canvas turns away. -/
theorem leaves_cases (h : canvas.Leaves event) : (∃ id, event = .select id) ∨
    (∃ nodeIds edges, event = .load nodeIds edges) ∨ ∃ id, canvas.attached event = some id := by
  cases event with
  | select id => exact .inl ⟨id, rfl⟩
  | load nodeIds edges => exact .inr (.inl ⟨nodeIds, edges, rfl⟩)
  | _ => exact .inr (.inr (Option.isSome_iff_exists.mp h))

/-- A timeout that runs off becomes a poll. -/
theorem loops_timeout {handle : Nat} {id : String} (h : (handle, id) ∈ canvas.timeouts) :
    (act (.timeout handle id) canvas).loops runId = canvas.loops runId := by
  show (LiveCanvas.request (.poll id) _).loops runId = _
  rw [loops_request]
  unfold loops
  rw [List.countP_erase]
  by_cases hid : id = runId
  · subst hid
    have hpos : 0 < canvas.timeouts.countP fun timeout => timeout.2 = id :=
      List.countP_pos_iff.mpr ⟨_, h, by simp⟩
    simp only [h, decide_true, and_self, if_true]
    omega
  · simp [hid]

/-- The answer to a poll leads to another one unless it is the last. -/
theorem loops_polled {id : String} {answer : Except String RunStatusResponse}
    (h : .poll id ∈ canvas.requests) :
    (act (.polled id answer) canvas).loops runId = canvas.loops runId ∨
      LiveEvent.Ends runId (.polled id answer) ∧
      (act (.polled id answer) canvas).loops runId + 1 = canvas.loops runId := by
  have hsettle : (canvas.settle (.poll id)).loops runId +
      (if LiveRequest.poll id = .poll runId then 1 else 0) = canvas.loops runId := loops_settle h
  by_cases hid : id = runId
  · subst hid
    rw [if_pos rfl] at hsettle
    cases answer with
    | error error => exact .inr ⟨⟨rfl, nofun⟩, hsettle⟩
    | ok status =>
        by_cases hrunning : status.status = .running
        · left
          show (if status.status = .running then _ else _ : LiveCanvas).loops id = _
          rw [if_pos hrunning, loops_setPollTimeout, if_pos rfl, loops_showRun, hsettle]
        · right
          refine ⟨⟨rfl, fun other hother => by cases hother; exact hrunning⟩, ?_⟩
          show (if status.status = .running then _ else _ : LiveCanvas).loops id + 1 = _
          rw [if_neg hrunning, loops_showRun, hsettle]
  · have hne : LiveRequest.poll id ≠ .poll runId := fun heq => hid (LiveRequest.poll.inj heq)
    rw [if_neg hne, Nat.add_zero] at hsettle
    left
    cases answer with
    | error error => exact hsettle
    | ok status =>
        show (if status.status = .running then _ else _ : LiveCanvas).loops runId = _
        split
        · rw [loops_setPollTimeout, if_neg hid, loops_showRun, hsettle, Nat.add_zero]
        · rw [loops_showRun, hsettle]

/-- As long as the canvas stays with a run, its loop goes on until it ends. -/
theorem loops_stays (runId : String) (h : canvas.Possible event) (hstays : ¬ canvas.Leaves event) :
    (act event canvas).loops runId = canvas.loops runId ∨
      event.Ends runId ∧ (act event canvas).loops runId + 1 = canvas.loops runId := by
  cases event with
  | select id => exact absurd trivial hstays
  | load nodeIds edges => exact absurd trivial hstays
  | polled id answer => exact loops_polled h.1
  | timeout handle id => exact .inl (loops_timeout h)
  | run => exact .inl (loops_request_of_ne nofun)
  | tick => exact .inl (loops_request_of_ne nofun)
  | addNode id => exact .inl rfl
  | addEdge id target => exact .inl rfl
  | remove nodeIds edgeIds => exact .inl rfl
  | resolve =>
      left
      show canvas.handleResolveApproval.loops runId = _
      unfold handleResolveApproval
      cases canvas.run with
      | none => rfl
      | some run => exact loops_request_of_ne nofun
  | polledOnce id answer =>
      left
      have hsettle : (canvas.settle (.once id)).loops runId = canvas.loops runId :=
        loops_settle_of_ne nofun
      cases answer with
      | error error => exact hsettle
      | ok status => exact hsettle
  | resolved id answer =>
      left
      have hsettle : (canvas.settle (.resolve id)).loops runId = canvas.loops runId :=
        loops_settle_of_ne nofun
      cases answer with
      | error error => exact hsettle
      | ok _ =>
          have hnext : ((canvas.settle (.resolve id)).request (.once id)).loops runId =
              (canvas.settle (.resolve id)).loops runId := loops_request_of_ne nofun
          exact hnext.trans hsettle
  | submitted answer =>
      left
      have hsettle : (canvas.settle .submit).loops runId = canvas.loops runId :=
        loops_settle_of_ne nofun
      match answer with
      | .error none => exact hsettle
      | .error (some error) => exact hsettle
      | .ok id =>
          have hsame : (canvas.settle .submit).activeRunId = some id := by
            by_contra hnew
            exact hstays (Option.isSome_iff_exists.mpr ⟨id, if_neg hnew⟩)
          have hattach : ((canvas.settle .submit).attachToRun id).loops runId =
              (canvas.settle .submit).loops runId := loops_attach_same hsame runId
          exact hattach.trans hsettle
  | watched answer =>
      left
      have hsettle : (canvas.settle .watch).loops runId = canvas.loops runId :=
        loops_settle_of_ne nofun
      match answer with
      | .error error => exact hsettle
      | .ok [] => exact hsettle
      | .ok (latest :: runs) =>
          show (if canvas.lastSeenRunId = some latest then canvas.settle .watch
            else (canvas.settle .watch).attachToRun latest).loops runId = _
          split
          · exact hsettle
          · rename_i hunseen
            have hsame : (canvas.settle .watch).activeRunId = some latest := by
              by_contra hnew
              exact hstays (Option.isSome_iff_exists.mpr
                ⟨latest, if_neg (not_or.mpr ⟨hunseen, hnew⟩)⟩)
            have hattach : ((canvas.settle .watch).attachToRun latest).loops runId =
                (canvas.settle .watch).loops runId := loops_attach_same hsame runId
            exact hattach.trans hsettle

theorem loops_attached {id : String} (h : canvas.attached event = some id) :
    1 ≤ (act event canvas).loops id := by
  obtain ⟨hnew, -, -, asked, -, hact⟩ := act_attached h
  rw [hact]
  exact loops_attach_pos hnew

/-- Turning to another run starts one loop at most. -/
theorem loops_leaves (hleaves : canvas.Leaves event) : (act event canvas).loops runId ≤
    canvas.loops runId + if canvas.attached event = some runId then 1 else 0 := by
  rcases leaves_cases hleaves with ⟨id, rfl⟩ | ⟨nodeIds, edges, rfl⟩ | ⟨id, hattached⟩
  · have hselect : (canvas.handleSelectHistoricalRun id).loops runId =
        canvas.clearPollTimeout.loops runId := loops_request_of_ne nofun
    exact Nat.le_trans (Nat.le_of_eq hselect) (Nat.le_add_right_of_le loops_clear_le)
  · have hload : (canvas.showGraph nodeIds edges).loops runId ≤ canvas.loops runId :=
      loops_clear_le
    exact Nat.le_add_right_of_le hload
  · obtain ⟨hnew, -, -, asked, hasked, hact⟩ := act_attached hattached
    rw [hact, hattached]
    simp only [Option.some.injEq]
    have hsettle : (canvas.settle asked).loops runId = canvas.loops runId :=
      loops_settle_of_ne fun hpoll => by cases hpoll; cases hasked
    have hsettled : (canvas.settle asked).activeRunId ≠ some id := hnew
    rw [← hsettle]
    exact loops_attach_le hsettled runId

end

/-! ## Over a history -/

/-- No loop comes from anywhere else. -/
theorem loops_le_attachments {history : List LiveEvent} {start : LiveCanvas} (runId : String)
    (h : History.AllSteps act history start Possible) :
    (History.after act history start).loops runId ≤
      start.loops runId + attachments runId history start := by
  induction history generalizing start with
  | nil => exact Nat.le_refl _
  | cons event later ih =>
      obtain ⟨hevent, hlater⟩ := History.all_steps_cons.mp h
      have hrest := ih hlater
      have hstep : (act event start).loops runId ≤
          start.loops runId + if start.attached event = some runId then 1 else 0 := by
        by_cases hleaves : start.Leaves event
        · exact loops_leaves hleaves
        · rcases loops_stays runId hevent hleaves with heq | ⟨-, heq⟩ <;> omega
      show (History.after act later (act event start)).loops runId ≤ _
      unfold attachments
      omega

/-- A loop goes on until it ends, unless the canvas turns away. -/
theorem loop_followed {history : List LiveEvent} {start : LiveCanvas} {runId : String}
    (h : History.AllSteps act history start Possible)
    (hstays : History.AllSteps act history start fun canvas event => ¬ canvas.Leaves event)
    (hloop : 1 ≤ start.loops runId) :
    1 ≤ (History.after act history start).loops runId ∨ ∃ event ∈ history, event.Ends runId := by
  induction history generalizing start with
  | nil => exact .inl hloop
  | cons event later ih =>
      obtain ⟨hevent, hlater⟩ := History.all_steps_cons.mp h
      obtain ⟨hstay, hstays⟩ := History.all_steps_cons.mp hstays
      rcases loops_stays runId hevent hstay with heq | ⟨hends, -⟩
      · rcases ih hlater hstays (heq ▸ hloop) with hloops | ⟨last, hlast, hends⟩
        · exact .inl hloops
        · exact .inr ⟨last, List.mem_cons_of_mem _ hlast, hends⟩
      · exact .inr ⟨event, List.mem_cons_self, hends⟩

/-! ## The runs that are asked for -/

/-- The canvas shows a run, or asks for it now or later. -/
def Mentions (canvas : LiveCanvas) (runId : String) : Prop :=
  (∃ asked ∈ canvas.requests, asked.runId? = some runId) ∨
    (∃ timeout ∈ canvas.timeouts, timeout.2 = runId) ∨
    ∃ status, canvas.run = some status ∧ status.runId = runId

section

variable {canvas : LiveCanvas} {asked : LiveRequest} {runId : String} {event : LiveEvent}

theorem mentions_request (h : (canvas.request asked).Mentions runId) :
    canvas.Mentions runId ∨ asked.runId? = some runId := by
  rcases h with ⟨other, hmem, hother⟩ | hrest
  · rcases List.mem_append.mp hmem with hmem | hmem
    · exact .inl (.inl ⟨other, hmem, hother⟩)
    · rw [List.mem_singleton.mp hmem] at hother
      exact .inr hother
  · exact .inl (.inr hrest)

theorem mentions_settle (h : (canvas.settle asked).Mentions runId) : canvas.Mentions runId := by
  rcases h with ⟨other, hmem, hother⟩ | hrest
  · exact .inl ⟨other, List.mem_of_mem_erase hmem, hother⟩
  · exact .inr hrest

theorem mentions_showRun {status : RunStatusResponse}
    (h : (canvas.showRun status).Mentions runId) :
    canvas.Mentions runId ∨ status.runId = runId := by
  rcases h with hrequest | htimeout | ⟨other, hrun, hother⟩
  · exact .inl (.inl hrequest)
  · exact .inl (.inr (.inl htimeout))
  · cases hrun
    exact .inr hother

theorem mentions_setPollTimeout {id : String} (h : (canvas.setPollTimeout id).Mentions runId) :
    canvas.Mentions runId ∨ id = runId := by
  rcases h with hrequest | ⟨timeout, hmem, htimeout⟩ | hrun
  · exact .inl (.inl hrequest)
  · rcases List.mem_append.mp hmem with hmem | hmem
    · exact .inl (.inr (.inl ⟨timeout, hmem, htimeout⟩))
    · rw [List.mem_singleton.mp hmem] at htimeout
      exact .inr htimeout
  · exact .inl (.inr (.inr hrun))

theorem mentions_clear (h : canvas.clearPollTimeout.Mentions runId) : canvas.Mentions runId := by
  unfold clearPollTimeout at h
  cases hhandle : canvas.pollTimeout with
  | none => simpa only [hhandle] using h
  | some handle =>
      rw [hhandle] at h
      rcases h with hrequest | ⟨timeout, hmem, htimeout⟩ | hrun
      · exact .inl hrequest
      · exact .inr (.inl ⟨timeout, List.mem_of_mem_filter hmem, htimeout⟩)
      · exact .inr (.inr hrun)

/-- All timeouts are cleared if the reference holds the handle of each. -/
theorem clearPollTimeout_timeouts
    (h : ∀ timeout ∈ canvas.timeouts, canvas.pollTimeout = some timeout.1) :
    canvas.clearPollTimeout.timeouts = [] := by
  unfold clearPollTimeout
  cases hhandle : canvas.pollTimeout with
  | none =>
      refine List.eq_nil_iff_forall_not_mem.mpr fun timeout hmem => ?_
      have hset := h timeout hmem
      rw [hhandle] at hset
      cases hset
  | some handle =>
      refine List.filter_eq_nil_iff.mpr fun timeout hmem => ?_
      have hset := h timeout hmem
      rw [hhandle] at hset
      cases hset
      simp

theorem mentions_reset (h : canvas.resetRun.Mentions runId) : canvas.Mentions runId := by
  rcases h with hrequest | htimeout | ⟨_, hrun, -⟩
  · exact .inl hrequest
  · exact .inr (.inl htimeout)
  · cases hrun

theorem mentions_attach {id : String} (h : (canvas.attachToRun id).Mentions runId) :
    canvas.Mentions runId ∨ id = runId := by
  unfold attachToRun at h
  split at h
  · exact .inl h
  · rcases mentions_request h with hclear | hpoll
    · have hreset := mentions_reset (mentions_clear hclear)
      exact .inl hreset
    · exact .inr (Option.some.inj hpoll)

theorem mentions_once {id : String} {answer : Except String RunStatusResponse}
    (hanswer : ∀ status, answer = .ok status → status.runId = id)
    (h : (canvas.onceAnswered answer).Mentions runId) : canvas.Mentions runId ∨ id = runId := by
  cases answer with
  | error error => exact .inl h
  | ok status =>
      rw [← hanswer status rfl]
      exact mentions_showRun h

theorem mentions_polled {id : String} {answer : Except String RunStatusResponse}
    (hanswer : ∀ status, answer = .ok status → status.runId = id)
    (h : (canvas.pollAnswered id answer).Mentions runId) : canvas.Mentions runId ∨ id = runId := by
  cases answer with
  | error error => exact .inl h
  | ok status =>
      unfold pollAnswered at h
      dsimp only at h
      split at h
      · rcases mentions_setPollTimeout h with hshow | hsame
        · exact mentions_once hanswer hshow
        · exact .inr hsame
      · exact mentions_once hanswer h

/-- Only what an event brings up is asked for anew. -/
theorem mentions_act (hpossible : canvas.Possible event)
    (h : (act event canvas).Mentions runId) :
    canvas.Mentions runId ∨ event.names = some runId := by
  have hattached : ∀ {asked : LiveRequest} {id : String},
      ((canvas.settle asked).attachToRun id).Mentions runId →
      canvas.Mentions runId ∨ some id = some runId := by
    intro asked id hattach
    rcases mentions_attach hattach with hsettle | hid
    · exact .inl (mentions_settle hsettle)
    · exact .inr (congrArg some hid)
  cases event with
  | run =>
      rcases mentions_request h with hmentions | hsubmit
      · exact .inl hmentions
      · cases hsubmit
  | tick =>
      rcases mentions_request h with hmentions | hwatch
      · exact .inl hmentions
      · cases hwatch
  | select id =>
      rcases mentions_request h with hmentions | honce
      · have hclear : canvas.clearPollTimeout.Mentions runId := hmentions
        exact .inl (mentions_clear hclear)
      · exact .inr honce
  | resolve =>
      left
      have hresolve : canvas.handleResolveApproval.Mentions runId := h
      unfold handleResolveApproval at hresolve
      cases hrun : canvas.run with
      | none => simpa only [hrun] using hresolve
      | some status =>
          rw [hrun] at hresolve
          rcases mentions_request hresolve with hmentions | hsame
          · exact hmentions
          · exact .inr (.inr ⟨status, hrun, Option.some.inj hsame⟩)
  | timeout handle id =>
      left
      rcases mentions_request h with hmentions | hsame
      · rcases hmentions with hrequest | ⟨timeout, hmem, htimeout⟩ | hrun
        · exact .inl hrequest
        · exact .inr (.inl ⟨timeout, List.mem_of_mem_erase hmem, htimeout⟩)
        · exact .inr (.inr hrun)
      · exact .inr (.inl ⟨_, hpossible, Option.some.inj hsame⟩)
  | polled id answer =>
      left
      rcases mentions_polled hpossible.2 h with hsettle | hsame
      · exact mentions_settle hsettle
      · exact .inl ⟨_, hpossible.1, congrArg some hsame⟩
  | polledOnce id answer =>
      left
      rcases mentions_once hpossible.2 h with hsettle | hsame
      · exact mentions_settle hsettle
      · exact .inl ⟨_, hpossible.1, congrArg some hsame⟩
  | resolved id answer =>
      left
      cases answer with
      | error error =>
          have hsettle : (canvas.settle (.resolve id)).Mentions runId := h
          exact mentions_settle hsettle
      | ok _ =>
          rcases mentions_request h with hsettle | hsame
          · exact mentions_settle hsettle
          · exact .inl ⟨_, hpossible, hsame⟩
  | submitted answer =>
      match answer with
      | .error none =>
          have hsettle : (canvas.settle .submit).Mentions runId := h
          exact .inl (mentions_settle hsettle)
      | .error (some error) =>
          have hsettle : (canvas.settle .submit).Mentions runId := h
          exact .inl (mentions_settle hsettle)
      | .ok id => exact hattached h
  | watched answer =>
      match answer with
      | .error error =>
          have hsettle : (canvas.settle .watch).Mentions runId := h
          exact .inl (mentions_settle hsettle)
      | .ok [] =>
          have hsettle : (canvas.settle .watch).Mentions runId := h
          exact .inl (mentions_settle hsettle)
      | .ok (latest :: runs) =>
          have hwatched : (if canvas.lastSeenRunId = some latest then canvas.settle .watch
            else (canvas.settle .watch).attachToRun latest).Mentions runId := h
          split at hwatched
          · exact .inl (mentions_settle hwatched)
          · exact hattached hwatched
  | load nodeIds edges =>
      left
      rcases mentions_clear h with hrequest | htimeout | ⟨_, hrun, -⟩
      · exact .inl hrequest
      · exact .inr (.inl htimeout)
      · cases hrun
  | addNode id => exact .inl h
  | addEdge id target => exact .inl h
  | remove nodeIds edgeIds => exact .inl h

/-- What is asked for was brought up before. -/
theorem mentions_named {history : List LiveEvent} {start : LiveCanvas}
    (h : History.AllSteps act history start Possible)
    (hmentions : (History.after act history start).Mentions runId) :
    start.Mentions runId ∨ ∃ event ∈ history, event.names = some runId := by
  induction history generalizing start with
  | nil => exact .inl hmentions
  | cons event later ih =>
      obtain ⟨hevent, hlater⟩ := History.all_steps_cons.mp h
      rcases ih hlater hmentions with hnext | ⟨other, hmem, hnames⟩
      · rcases mentions_act hevent hnext with hstart | hnames
        · exact .inl hstart
        · exact .inr ⟨event, List.mem_cons_self, hnames⟩
      · exact .inr ⟨other, List.mem_cons_of_mem _ hmem, hnames⟩

/-! ## What clearing a timeout leaves alone -/

@[simp] theorem clearPollTimeout_run : canvas.clearPollTimeout.run = canvas.run := by
  unfold clearPollTimeout
  split <;> rfl

@[simp] theorem clearPollTimeout_nodes : canvas.clearPollTimeout.nodes = canvas.nodes := by
  unfold clearPollTimeout
  split <;> rfl

@[simp] theorem clearPollTimeout_edges : canvas.clearPollTimeout.edges = canvas.edges := by
  unfold clearPollTimeout
  split <;> rfl

@[simp] theorem clearPollTimeout_requests :
    canvas.clearPollTimeout.requests = canvas.requests := by
  unfold clearPollTimeout
  split <;> rfl

@[simp] theorem clearPollTimeout_activeRunId :
    canvas.clearPollTimeout.activeRunId = canvas.activeRunId := by
  unfold clearPollTimeout
  split <;> rfl

@[simp] theorem clearPollTimeout_pollTimeout :
    canvas.clearPollTimeout.pollTimeout = canvas.pollTimeout := by
  unfold clearPollTimeout
  split <;> rfl

end

end LiveCanvas

/-! ## The view -/

section

variable {history : List LiveEvent} {event : LiveEvent} {canvas next : LiveCanvas}

theorem ShownNothingSince.later {added : LiveEvent} (h : ShownNothingSince history added)
    (hshows : event.shows = none) : ShownNothingSince (history ++ [event]) added := by
  obtain ⟨before, rest, rfl, hrest⟩ := h
  refine ⟨before, rest ++ [event], by simp, fun other hother => ?_⟩
  rcases List.mem_append.mp hother with hother | hother
  · exact hrest other hother
  · rwa [List.mem_singleton.mp hother]

theorem shown_nothing_since_now : ShownNothingSince (history ++ [event]) event :=
  ⟨history, [], rfl, nofun⟩

/-- Nothing is shown. -/
theorem ViewOf.blank (hrun : next.run = none)
    (hnodes : ∀ node ∈ next.nodes, node.status = .pending ∧ node.errorMessage = none)
    (hedges : ∀ edge ∈ next.edges, edge.targetStatus = .pending) : ViewOf history next where
  told status h := by
    rw [hrun] at h
    cases h
  named status h := by
    rw [hrun] at h
    cases h
  nodes node hnode := by
    rw [hrun]
    exact .inl (hnodes node hnode)
  edges edge hedge := by
    rw [hrun]
    exact .inl (hedges edge hedge)

/-- The same run stays on show. Nodes and edges may be added. -/
theorem ViewOf.keep (h : ViewOf history canvas) (hshows : event.shows = none)
    (hrun : next.run = canvas.run)
    (hnodes : ∀ node ∈ next.nodes, node ∈ canvas.nodes ∨
      node = { id := node.id } ∧ event = .addNode node.id)
    (hedges : ∀ edge ∈ next.edges, edge ∈ canvas.edges ∨
      edge.targetStatus = .pending ∧ event = .addEdge edge.id edge.target) :
    ViewOf (history ++ [event]) next where
  told status hstatus := by
    obtain ⟨other, hother, hshown⟩ := h.told status (hrun ▸ hstatus)
    exact ⟨other, List.mem_append_left _ hother, hshown⟩
  named status hstatus := by
    obtain ⟨other, hother, hnames⟩ := h.named status (hrun ▸ hstatus)
    exact ⟨other, List.mem_append_left _ hother, hnames⟩
  nodes node hnode := by
    rw [hrun]
    rcases hnodes node hnode with hold | ⟨hnew, rfl⟩
    · exact (h.nodes node hold).imp id fun hadded => ⟨hadded.1, hadded.2.later hshows⟩
    · exact .inr ⟨hnew, shown_nothing_since_now⟩
  edges edge hedge := by
    rw [hrun]
    rcases hedges edge hedge with hold | ⟨hnew, rfl⟩
    · exact (h.edges edge hold).imp id fun hadded => ⟨hadded.1, hadded.2.later hshows⟩
    · exact .inr ⟨hnew, shown_nothing_since_now⟩

/-- Nothing but requests, timeouts and references changes. -/
theorem ViewOf.same (h : ViewOf history canvas) (hshows : event.shows = none)
    (hrun : next.run = canvas.run) (hnodes : next.nodes = canvas.nodes)
    (hedges : next.edges = canvas.edges) : ViewOf (history ++ [event]) next :=
  h.keep hshows hrun (fun _ hnode => .inl (hnodes ▸ hnode)) fun _ hedge => .inl (hedges ▸ hedge)

/-- Turning to another run, or staying with one. -/
theorem ViewOf.attach (h : ViewOf history canvas) (hshows : event.shows = none) (id : String) :
    ViewOf (history ++ [event]) (canvas.attachToRun id) := by
  unfold LiveCanvas.attachToRun
  split
  · exact h.same hshows rfl rfl rfl
  · refine ViewOf.blank ?_ (fun node hnode => ?_) fun edge hedge => ?_
    · simp [LiveCanvas.pollUntilDone, LiveCanvas.request, LiveCanvas.resetRun]
    · simp only [LiveCanvas.pollUntilDone, LiveCanvas.request, LiveCanvas.resetRun,
        LiveCanvas.clearPollTimeout_nodes, List.mem_map] at hnode
      obtain ⟨old, -, rfl⟩ := hnode
      exact ⟨rfl, rfl⟩
    · simp only [LiveCanvas.pollUntilDone, LiveCanvas.request, LiveCanvas.resetRun,
        LiveCanvas.clearPollTimeout_edges, List.mem_map] at hedge
      obtain ⟨old, -, rfl⟩ := hedge
      rfl

/-- An answer is shown as the server gives it. -/
theorem ViewOf.shown {status : RunStatusResponse} (hshows : event.shows = some status)
    (hnamed : ∃ other ∈ history, other.names = some status.runId)
    (hrun : next.run = some status)
    (hnodes : next.nodes = (canvas.showRun status).nodes)
    (hedges : next.edges = (canvas.showRun status).edges) :
    ViewOf (history ++ [event]) next where
  told other hother := by
    rw [hrun] at hother
    cases hother
    exact ⟨event, by simp, hshows⟩
  named other hother := by
    rw [hrun] at hother
    cases hother
    obtain ⟨naming, hmem, hnames⟩ := hnamed
    exact ⟨naming, List.mem_append_left _ hmem, hnames⟩
  nodes node hnode := by
    rw [hnodes] at hnode
    obtain ⟨old, -, rfl⟩ := List.mem_map.mp hnode
    rw [hrun]
    exact .inl ⟨rfl, rfl⟩
  edges edge hedge := by
    rw [hedges] at hedge
    obtain ⟨old, -, rfl⟩ := List.mem_map.mp hedge
    rw [hrun]
    exact .inl rfl

/-- The view stays as it should be, if the runs that are asked for have been brought up. -/
theorem view_act (h : ViewOf history canvas) (hpossible : canvas.Possible event)
    (hnamed : ∀ runId, canvas.Mentions runId → ∃ other ∈ history, other.names = some runId) :
    ViewOf (history ++ [event]) (LiveCanvas.act event canvas) := by
  have hasked : ∀ {asked : LiveRequest} {runId : String}, asked ∈ canvas.requests →
      asked.runId? = some runId → ∃ other ∈ history, other.names = some runId :=
    fun hmem hasked => hnamed _ (.inl ⟨_, hmem, hasked⟩)
  cases event with
  | run => exact h.same rfl rfl rfl rfl
  | tick => exact h.same rfl rfl rfl rfl
  | timeout handle id => exact h.same rfl rfl rfl rfl
  | select id =>
      refine h.same rfl ?_ ?_ ?_ <;>
        simp [LiveCanvas.act, LiveCanvas.handleSelectHistoricalRun, LiveCanvas.request]
  | resolve =>
      show ViewOf _ canvas.handleResolveApproval
      unfold LiveCanvas.handleResolveApproval
      split <;> exact h.same rfl rfl rfl rfl
  | polled id answer =>
      obtain ⟨hrequest, hanswer⟩ := hpossible
      cases answer with
      | error error => exact h.same rfl rfl rfl rfl
      | ok status =>
          have hname := hasked hrequest rfl
          rw [← hanswer status rfl] at hname
          show ViewOf _ (if status.status = .running then _ else _)
          split
          · exact ViewOf.shown rfl hname rfl rfl rfl
          · exact ViewOf.shown rfl hname rfl rfl rfl
  | polledOnce id answer =>
      obtain ⟨hrequest, hanswer⟩ := hpossible
      cases answer with
      | error error => exact h.same rfl rfl rfl rfl
      | ok status =>
          have hname := hasked hrequest rfl
          rw [← hanswer status rfl] at hname
          exact ViewOf.shown rfl hname rfl rfl rfl
  | resolved id answer =>
      cases answer with
      | error error => exact h.same rfl rfl rfl rfl
      | ok _ => exact h.same rfl rfl rfl rfl
  | submitted answer =>
      have hsettle : ViewOf history (canvas.settle .submit) :=
        ⟨h.told, h.named, h.nodes, h.edges⟩
      match answer with
      | .error none => exact h.same rfl rfl rfl rfl
      | .error (some error) => exact h.same rfl rfl rfl rfl
      | .ok id => exact hsettle.attach rfl id
  | watched answer =>
      have hsettle : ViewOf history (canvas.settle .watch) :=
        ⟨h.told, h.named, h.nodes, h.edges⟩
      match answer with
      | .error error => exact h.same rfl rfl rfl rfl
      | .ok [] => exact h.same rfl rfl rfl rfl
      | .ok (latest :: runs) =>
          show ViewOf _ (if canvas.lastSeenRunId = some latest then canvas.settle .watch
            else (canvas.settle .watch).attachToRun latest)
          split
          · exact h.same rfl rfl rfl rfl
          · exact hsettle.attach rfl latest
  | load nodeIds edges =>
      show ViewOf _ (canvas.showGraph nodeIds edges)
      unfold LiveCanvas.showGraph
      refine ViewOf.blank ?_ (fun node hnode => ?_) fun edge hedge => ?_
      · simp
      · simp only [LiveCanvas.clearPollTimeout_nodes, List.mem_map] at hnode
        obtain ⟨id, -, rfl⟩ := hnode
        exact ⟨rfl, rfl⟩
      · simp only [LiveCanvas.clearPollTimeout_edges, List.mem_map] at hedge
        obtain ⟨⟨id, target⟩, -, rfl⟩ := hedge
        rfl
  | addNode id =>
      refine h.keep rfl rfl (fun node hnode => ?_) fun edge hedge => .inl hedge
      rcases List.mem_append.mp hnode with hold | hnew
      · exact .inl hold
      · rw [List.mem_singleton.mp hnew]
        exact .inr ⟨rfl, rfl⟩
  | addEdge id target =>
      refine h.keep rfl rfl (fun node hnode => .inl hnode) fun edge hedge => ?_
      rcases List.mem_append.mp hedge with hold | hnew
      · exact .inl hold
      · rw [List.mem_singleton.mp hnew]
        exact .inr ⟨rfl, rfl⟩
  | remove nodeIds edgeIds =>
      exact h.keep rfl rfl (fun node hnode => .inl (List.mem_of_mem_filter hnode))
        fun edge hedge => .inl (List.mem_of_mem_filter hedge)

end

/-! ## A single loop -/

namespace OneRun

variable {canvas : LiveCanvas} {asked : LiveRequest} {event : LiveEvent}

theorem empty : OneRun .empty where
  requests := nofun
  timeouts := nofun
  single _ h := nomatch h

/-- A request that is no poll of a loop, about the run that is followed. -/
theorem request (h : OneRun canvas) (hpoll : ∀ runId, asked ≠ .poll runId)
    (hasked : ∀ runId, asked.runId? = some runId → canvas.activeRunId = some runId) :
    OneRun (canvas.request asked) where
  requests other hother runId hrunId := by
    rcases List.mem_append.mp hother with hold | hnew
    · exact h.requests other hold runId hrunId
    · rw [List.mem_singleton.mp hnew] at hrunId
      exact hasked runId hrunId
  timeouts := h.timeouts
  single runId hactive := by
    have hcount : (canvas.request asked).requests.count (.poll runId) =
        canvas.requests.count (.poll runId) := by
      show (canvas.requests ++ [asked]).count (.poll runId) = _
      rw [List.count_append, List.count_singleton, if_neg]
      · rfl
      · rw [beq_iff_eq]
        exact hpoll runId
    rw [hcount]
    exact h.single runId hactive

theorem settle (h : OneRun canvas) (asked : LiveRequest) : OneRun (canvas.settle asked) where
  requests other hother := h.requests other (List.mem_of_mem_erase hother)
  timeouts := h.timeouts
  single runId hactive := by
    have hle : (canvas.requests.erase asked).count (.poll runId) ≤
        canvas.requests.count (.poll runId) :=
      List.Sublist.count_le _ List.erase_sublist
    have hsingle := h.single runId hactive
    show (canvas.requests.erase asked).count (.poll runId) + canvas.timeouts.length ≤ 1
    omega

/-- The answer to the only poll leaves at most a timeout. -/
theorem polled {id : String} (h : OneRun canvas) (hrequest : .poll id ∈ canvas.requests)
    (answer : Except String RunStatusResponse) :
    OneRun ((canvas.settle (.poll id)).pollAnswered id answer) := by
  have hactive := h.requests _ hrequest id rfl
  have hsettled := h.settle (.poll id)
  cases answer with
  | error error => exact ⟨hsettled.requests, hsettled.timeouts, hsettled.single⟩
  | ok status =>
      show OneRun (if status.status = .running then _ else _)
      split
      · have hone := h.single id hactive
        have hpos := List.count_pos_iff.mpr hrequest
        have hnone : canvas.timeouts = [] := List.length_eq_zero_iff.mp (by omega)
        refine ⟨hsettled.requests, fun timeout htimeout => ?_, fun runId hrun => ?_⟩
        · have hnew : timeout ∈ canvas.timeouts ++ [(canvas.timeoutsSet, id)] := htimeout
          rw [hnone, List.nil_append, List.mem_singleton] at hnew
          subst hnew
          exact ⟨hactive, rfl⟩
        · have hsame : some runId = some id := hrun.symm.trans hactive
          cases hsame
          have hcount : (canvas.requests.erase (.poll id)).count (.poll id) = 0 := by
            rw [List.count_erase_self]
            omega
          show (canvas.requests.erase (.poll id)).count (.poll id) +
            (canvas.timeouts ++ [(canvas.timeoutsSet, id)]).length ≤ 1
          rw [hcount, hnone]
          exact Nat.le_refl 1
      · exact ⟨hsettled.requests, hsettled.timeouts, hsettled.single⟩

/-- The only timeout becomes the only poll. -/
theorem timeout {handle : Nat} {id : String} (h : OneRun canvas)
    (htimeout : (handle, id) ∈ canvas.timeouts) :
    OneRun (LiveCanvas.act (.timeout handle id) canvas) := by
  have hactive := (h.timeouts _ htimeout).1
  have hone := h.single id hactive
  have hpos := List.length_pos_of_mem htimeout
  have hnone : canvas.timeouts.erase (handle, id) = [] := by
    refine List.length_eq_zero_iff.mp ?_
    rw [List.length_erase_of_mem htimeout]
    omega
  refine ⟨fun other hother runId hrunId => ?_, fun other hother => ?_, fun runId hrun => ?_⟩
  · rcases List.mem_append.mp hother with hold | hnew
    · exact h.requests other hold runId hrunId
    · rw [List.mem_singleton.mp hnew] at hrunId
      cases hrunId
      exact hactive
  · have hmem : other ∈ canvas.timeouts.erase (handle, id) := hother
    rw [hnone] at hmem
    cases hmem
  · have hsame : some runId = some id := hrun.symm.trans hactive
    cases hsame
    show (canvas.requests ++ [LiveRequest.poll id]).count (.poll id) +
      (canvas.timeouts.erase (handle, id)).length ≤ 1
    rw [hnone, List.count_append, List.count_singleton_self, List.length_nil]
    omega

/-- Turning to a run about which alone something is asked. -/
theorem turn {id : String} {next : LiveCanvas} (asked : LiveRequest)
    (hidle : ∀ other ∈ canvas.requests, other.runId? = none) (hasked : asked.runId? = some id)
    (hactive : next.activeRunId = some id) (htimeouts : next.timeouts = [])
    (hrequests : next.requests = canvas.requests ++ [asked]) : OneRun next where
  requests other hother runId hrunId := by
    rw [hrequests] at hother
    rcases List.mem_append.mp hother with hold | hnew
    · rw [hidle other hold] at hrunId
      cases hrunId
    · rw [List.mem_singleton.mp hnew, hasked] at hrunId
      rw [hactive, hrunId]
  timeouts other hother := by
    rw [htimeouts] at hother
    cases hother
  single runId _ := by
    have hzero : canvas.requests.count (.poll runId) = 0 :=
      List.count_eq_zero.mpr fun hmem => nomatch (hidle _ hmem)
    rw [hrequests, htimeouts, List.count_append, hzero, List.length_nil]
    have hle := List.count_le_length (a := LiveRequest.poll runId) (l := [asked])
    rw [List.length_singleton] at hle
    omega

theorem attach {id : String} (h : OneRun canvas)
    (hidle : canvas.activeRunId ≠ some id → ∀ other ∈ canvas.requests, other.runId? = none) :
    OneRun (canvas.attachToRun id) := by
  unfold LiveCanvas.attachToRun
  split
  · exact ⟨h.requests, h.timeouts, h.single⟩
  · rename_i hnew
    refine turn (.poll id) (hidle hnew) rfl ?_ ?_ ?_
    · simp [LiveCanvas.pollUntilDone, LiveCanvas.request, LiveCanvas.resetRun]
    · exact LiveCanvas.clearPollTimeout_timeouts fun timeout hmem => (h.timeouts timeout hmem).2
    · simp [LiveCanvas.pollUntilDone, LiveCanvas.request, LiveCanvas.resetRun]

/-- Without a disturbance there is a single loop after every event. -/
theorem act (h : OneRun canvas) (hpossible : canvas.Possible event)
    (hundisturbed : Undisturbed canvas event) : OneRun (LiveCanvas.act event canvas) := by
  obtain ⟨hidle, hresolve⟩ := hundisturbed
  have hcleared : canvas.clearPollTimeout.timeouts = [] :=
    LiveCanvas.clearPollTimeout_timeouts fun timeout hmem => (h.timeouts timeout hmem).2
  cases event with
  | run =>
      have hcanvas : OneRun { canvas with runError := none } :=
        ⟨h.requests, h.timeouts, h.single⟩
      exact hcanvas.request nofun nofun
  | tick => exact h.request nofun nofun
  | select id =>
      refine turn (.once id) (hidle trivial) rfl rfl hcleared ?_
      simp [LiveCanvas.act, LiveCanvas.handleSelectHistoricalRun, LiveCanvas.request]
  | resolve =>
      show OneRun canvas.handleResolveApproval
      unfold LiveCanvas.handleResolveApproval
      cases hrun : canvas.run with
      | none => exact h
      | some status =>
          refine h.request nofun fun runId hrunId => ?_
          cases hrunId
          exact hresolve rfl status hrun
  | timeout handle id => exact h.timeout hpossible
  | polled id answer => exact h.polled hpossible.1 answer
  | polledOnce id answer =>
      have hsettled := h.settle (.once id)
      cases answer with
      | error error => exact ⟨hsettled.requests, hsettled.timeouts, hsettled.single⟩
      | ok status => exact ⟨hsettled.requests, hsettled.timeouts, hsettled.single⟩
  | resolved id answer =>
      have hsettled := h.settle (.resolve id)
      cases answer with
      | error error => exact ⟨hsettled.requests, hsettled.timeouts, hsettled.single⟩
      | ok _ =>
          refine hsettled.request nofun fun runId hrunId => ?_
          cases hrunId
          exact h.requests _ hpossible id rfl
  | submitted answer =>
      have hsettled := h.settle .submit
      match answer with
      | .error none => exact hsettled
      | .error (some error) =>
          exact ⟨hsettled.requests, hsettled.timeouts, hsettled.single⟩
      | .ok id =>
          refine hsettled.attach fun hnew other hother => ?_
          refine hidle (Option.isSome_iff_exists.mpr ⟨id, if_neg hnew⟩) other ?_
          exact List.mem_of_mem_erase hother
  | watched answer =>
      have hsettled := h.settle .watch
      match answer with
      | .error error => exact hsettled
      | .ok [] => exact hsettled
      | .ok (latest :: runs) =>
          show OneRun (if canvas.lastSeenRunId = some latest then canvas.settle .watch
            else (canvas.settle .watch).attachToRun latest)
          split
          · exact hsettled
          · rename_i hunseen
            refine hsettled.attach fun hnew other hother => ?_
            refine hidle (Option.isSome_iff_exists.mpr
              ⟨latest, if_neg (not_or.mpr ⟨hunseen, hnew⟩)⟩) other ?_
            exact List.mem_of_mem_erase hother
  | load nodeIds edges =>
      have hrequests : (canvas.showGraph nodeIds edges).requests = canvas.requests := by
        simp [LiveCanvas.showGraph]
      have htimeouts : (canvas.showGraph nodeIds edges).timeouts = [] :=
        LiveCanvas.clearPollTimeout_timeouts fun timeout hmem => (h.timeouts timeout hmem).2
      refine ⟨fun other hother runId hrunId => ?_, fun other hother => ?_, fun runId _ => ?_⟩
      · rw [hidle trivial other (hrequests ▸ hother)] at hrunId
        cases hrunId
      · have hmem : other ∈ (canvas.showGraph nodeIds edges).timeouts := hother
        rw [htimeouts] at hmem
        cases hmem
      · have hzero : canvas.requests.count (.poll runId) = 0 :=
          List.count_eq_zero.mpr fun hmem => nomatch (hidle trivial _ hmem)
        show (canvas.showGraph nodeIds edges).requests.count (.poll runId) +
          (canvas.showGraph nodeIds edges).timeouts.length ≤ 1
        rw [hrequests, htimeouts, hzero]
        exact Nat.zero_le 1
  | addNode id => exact ⟨h.requests, h.timeouts, h.single⟩
  | addEdge id target => exact ⟨h.requests, h.timeouts, h.single⟩
  | remove nodeIds edgeIds => exact ⟨h.requests, h.timeouts, h.single⟩

end OneRun

/-! ## Every order of events -/

section

variable {history : List LiveEvent}

/-- What is on the canvas after a possible history. -/
theorem view_after (h : History.AllSteps LiveCanvas.act history .empty LiveCanvas.Possible) :
    ViewOf history (History.after LiveCanvas.act history .empty) := by
  induction history using List.reverseRecOn with
  | nil => exact ViewOf.blank rfl nofun nofun
  | append_singleton earlier event ih =>
      have hearlier := History.all_steps_before h
      rw [History.after_concat]
      refine view_act (ih hearlier) (h earlier event [] rfl) fun runId hmentions => ?_
      rcases LiveCanvas.mentions_named hearlier hmentions with hempty | hnamed
      · rcases hempty with ⟨_, hmem, -⟩ | ⟨_, hmem, -⟩ | ⟨_, hrun, -⟩
        · cases hmem
        · cases hmem
        · cases hrun
      · exact hnamed

/-- In every order of clicks, answers and timeouts, the canvas shows a run that somebody asked for
as the server has told of it, no more loops poll than runs were followed, and the run that was
followed last is polled until it is over or a poll fails. There is a single loop, about the run
that the canvas has turned to, if it turns away only while nothing is asked about a run. -/
theorem live_runs_sound
    (h : History.AllSteps LiveCanvas.act history .empty LiveCanvas.Possible) :
    LiveRunsSound history where
  view earlier later hsplit := by
    subst hsplit
    exact view_after (History.all_steps_before h)
  bounded earlier later hsplit runId := by
    subst hsplit
    have hloops := LiveCanvas.loops_le_attachments runId (History.all_steps_before h)
    have hnone : LiveCanvas.empty.loops runId = 0 := rfl
    omega
  followed earlier event later runId hsplit hattached hstays := by
    subst hsplit
    have hlater : History.AllSteps LiveCanvas.act later
        (History.after LiveCanvas.act (earlier ++ [event]) .empty) LiveCanvas.Possible := by
      refine History.all_steps_later ?_
      rwa [List.append_assoc]
    have hloop : 1 ≤ (History.after LiveCanvas.act (earlier ++ [event]) .empty).loops runId := by
      rw [History.after_concat]
      exact LiveCanvas.loops_attached hattached
    have hrest := LiveCanvas.loop_followed hlater hstays hloop
    rwa [← History.after_append, List.append_assoc] at hrest
  undisturbed hundisturbed earlier later hsplit := by
    have hboth : History.AllSteps LiveCanvas.act history .empty fun canvas event =>
        canvas.Possible event ∧ Undisturbed canvas event :=
      fun before event after hevent => ⟨h before event after hevent,
        hundisturbed before event after hevent⟩
    exact History.all_states_of_steps
      (fun _ _ hone hevent => OneRun.act hone hevent.1 hevent.2) OneRun.empty hboth earlier later
      hsplit

end

/-- What the server tells of a run without a trace. -/
def toldOf (runId : String) (status : RunStatus) : RunStatusResponse where
  runId
  status
  graphId := some "mail"
  triggerSource := "manual"
  runningNodeIds := []
  activeSubNodeIds := []
  pendingApprovals := []
  trace := []
  result := none
  error := none
  runBy := none

/-- A trigger starts a run while the first one is asked for, whose answer comes last. -/
def lateAnswer : List LiveEvent :=
  [.run, .submitted (.ok "first"), .tick, .watched (.ok ["second", "first"]),
    .polled "second" (.ok (toldOf "second" .running)),
    .polled "first" (.ok (toldOf "first" .completed))]

/-- The canvas shows the run that it has turned away from. -/
theorem late_answer_shown :
    (History.after LiveCanvas.act lateAnswer .empty).activeRunId = some "second" ∧
    (History.after LiveCanvas.act lateAnswer .empty).run = some (toldOf "first" .completed) ∧
    LiveRunsSound lateAnswer := by
  refine ⟨rfl, rfl, live_runs_sound ?_⟩
  refine History.all_steps_cons.mpr ⟨trivial, ?_⟩
  refine History.all_steps_cons.mpr ⟨List.mem_cons_self, ?_⟩
  refine History.all_steps_cons.mpr ⟨trivial, ?_⟩
  refine History.all_steps_cons.mpr ⟨List.mem_cons_of_mem _ List.mem_cons_self, ?_⟩
  refine History.all_steps_cons.mpr ⟨⟨by decide, fun status hstatus => ?_⟩, ?_⟩
  · cases hstatus
    rfl
  refine History.all_steps_cons.mpr ⟨⟨by decide, fun status hstatus => ?_⟩, ?_⟩
  · cases hstatus
    rfl
  exact History.all_steps_nil

end AgentGraphStudio
