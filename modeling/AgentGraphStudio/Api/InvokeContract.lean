import AgentGraphStudio.Api.InvalidGraphs
import AgentGraphStudio.Api.RunOutcome
import AgentGraphStudio.Lib.Stateful
import AgentGraphStudio.Storage.Graphs

/-!
# Invoking a saved graph by its contract

`invoke_graph` of `backend/api/app.py`: the contract of a saved graph, the checks of the supplied
inputs, `_apply_inputs`, and the outputs of the answer. The checks, the inputs and the outputs go
through one correspondence between names and nodes (`ContractOf`), which `Named.Corresponds` shows
to be one to one. The thread of the run is an argument, which tells what the run leaves in its
records if it ends before the timeout.
-/

namespace AgentGraphStudio

namespace Raising

/-! ## The route -/

/-- How an invocation ends without outputs. Any exception that no route expects is a crash. -/
inductive InvokeError where
  | httpException (statusCode : Nat) (detail : Detail)
  | failed (failure : InvokeFailure)
  | timeout (runId : String)
  | crashed

/-- The tables that an invocation reads and writes. -/
structure InvokeTables where
  rows : GraphsTable
  runs : Dict String RunState

/-- What an invocation finds around it. `load` reads the JSON text of a graph, and `thread` is what
a run leaves in its records if it ends in time. -/
structure InvokeSurroundings where
  registry : NodeRegistry Body
  connectionTypes : ConnectionRegistry
  store : ConnectionStore
  python : Python
  astRaises : String → Option AstException
  load : String → Except String GraphSpec
  thread : (runId : String) → GraphSpec → Resources → RunState → Option RunState
  now : String
  written : Bool

/-- Override the value of the node that a name stands for. Either lookup may raise a `KeyError`. -/
def applyInput (inputNameToNodeId : Dict String String) (graph : GraphSpec)
    (entry : String × String) : Except String GraphSpec :=
  match inputNameToNodeId.get? entry.1 with
  | none => .error (reprStr entry.1)
  | some nodeId =>
    if nodeId ∈ graph.nodes.map NodeSpec.id then
      .ok (iterationGraph graph nodeId (.str entry.2))
    else .error (reprStr nodeId)

/-- Override the supplied values (`_apply_inputs`), with the exceptions of its lookups. -/
def applyInputsRaising (graph : GraphSpec) (inputNameToNodeId supplied : Dict String String) :
    Except String GraphSpec :=
  supplied.entries.foldlM (applyInput inputNameToNodeId) graph

/-- The contract of a graph, as the routes ask for it. -/
def contractFor (graph : GraphSpec) : Except InvokeError InvokeContract :=
  match buildContract graph.nodes with
  | .error (.contractError message) => .error (.httpException 422 (.text message))
  | .error (.exception _) => .error .crashed
  | .ok contract => .ok contract

/-- Check the names of the inputs. -/
def checkInputs (contract : InvokeContract) (inputs : Dict String String) :
    Except InvokeError Unit :=
  if unknownFields contract inputs ≠ [] then
    .error (.httpException 422
      (.fields "Unrecognized input field(s): " (unknownFields contract inputs)))
  else if missingFields contract inputs ≠ [] then
    .error (.httpException 422
      (.fields "Missing required input field(s): " (missingFields contract inputs)))
  else .ok ()

/-- The answer's model has room for a text or nothing as the value of an output. -/
def invokeResponse (outputs : Dict String (Option Json)) :
    Except InvokeError (Dict String (Option Json)) :=
  if outputs.values.all fun value => value.all fun json => json = .null ∨ json.str?.isSome then
    .ok outputs
  else .error .crashed

section

variable (surroundings : InvokeSurroundings)

/-- Validate the graph of an invocation for the graph's owner. -/
def validateInvocation (graph : GraphSpec) (runBy : Option String) : Except InvokeError Unit :=
  match validateGraph surroundings.python surroundings.astRaises graph surroundings.registry
      surroundings.store runBy .empty with
  | .error _ => .error .crashed
  | .ok (.error issues) => .error (.httpException 422 (.issues issues))
  | .ok (.ok ()) => .ok ()

/-- Resolve the connections of an invocation for the graph's owner. -/
def resolveInvocation (graph : GraphSpec) (runBy : Option String) :
    Except InvokeError Resources :=
  match submittedResources surroundings.connectionTypes surroundings.store graph runBy .empty with
  | .error (.connectionNotFound name) => .error (.httpException 422 (.text name))
  | .error _ => .error .crashed
  | .ok resources => .ok resources

/-- What is run: the contract of a saved graph, the graph with the supplied inputs and the
resources of the run. -/
def prepareInvocation (row : StoredGraph) (inputs : Dict String String) :
    Except InvokeError (InvokeContract × GraphSpec × Resources) := do
  let graph ← (surroundings.load row.specJson).mapError fun _ => .crashed
  let contract ← contractFor graph
  checkInputs contract inputs
  let applied ←
    (applyInputsRaising graph contract.inputNameToNodeId inputs).mapError fun _ => .crashed
  validateInvocation surroundings applied row.createdBy
  let resources ← resolveInvocation surroundings applied row.createdBy
  pure (contract, applied, resources)

/-- Invoke a saved graph, as its owner. -/
def invokeSavedGraph (graphId runId : String) (inputs : Dict String String) :
    EStateM InvokeError InvokeTables (Dict String (Option Json)) := do
  match (← get).rows.get? graphId with
  | none => throw (.httpException 404 (.text s!"Graph '{graphId}' not found"))
  | some row =>
    let (contract, graph, resources) ←
      Stateful.ofExcept (prepareInvocation surroundings row inputs)
    let initial := createRun runId (some graphId) "invoke" surroundings.now row.createdBy
      surroundings.written
    modify fun tables => { tables with runs := tables.runs.set runId initial }
    match surroundings.thread runId graph resources initial with
    | none => throw (.timeout runId)
    | some final =>
      modify fun tables => { tables with runs := tables.runs.set runId final }
      Stateful.ofExcept do
        let outputs ← (invokeAnswer contract.outputNameToNodeId final.record).mapError .failed
        invokeResponse outputs

end

/-! ## What a contract is made of -/

/-- The value that a node has saved, if it is not empty. -/
def savedDefault (node : NodeSpec) : Option String :=
  ((node.config.get? "value").bind Json.str?).filter fun text => text ≠ ""

/-- The field of an input. -/
def inputField (node : NodeSpec) : InvokeContractField :=
  ⟨labelOrId node, node.id, "input", (savedDefault node).isNone, savedDefault node⟩

/-- The field of an output. -/
def outputField (node : NodeSpec) : InvokeContractField :=
  ⟨labelOrId node, node.id, "output", false, none⟩

/-- The nodes of a type. -/
def nodesOf (type : String) (nodes : List NodeSpec) : List NodeSpec :=
  nodes.filter fun node => node.type = type

/-- A node under its external name. -/
def namedEntry (node : NodeSpec) : String × String := (labelOrId node, node.id)

/-- A contract lists the nodes of either type under their names, in the order of the graph. -/
structure ContractOf (contract : InvokeContract) (nodes : List NodeSpec) : Prop where
  inputs : contract.inputNameToNodeId.entries = (nodesOf "text_input" nodes).map namedEntry
  outputs : contract.outputNameToNodeId.entries = (nodesOf "text_output" nodes).map namedEntry
  inputFields : contract.inputFields = (nodesOf "text_input" nodes).map inputField
  outputFields : contract.outputFields = (nodesOf "text_output" nodes).map outputField

theorem nodes_of_snoc (type : String) (nodes : List NodeSpec) (node : NodeSpec) :
    nodesOf type (nodes ++ [node]) =
      nodesOf type nodes ++ if node.type = type then [node] else [] := by
  rw [nodesOf, nodesOf, List.filter_append]
  by_cases htype : node.type = type <;> simp [htype]

/-- A new key comes last. -/
theorem entries_set_of_not_mem {names : Dict String String} {name : String} (nodeId : String)
    (h : name ∉ names.keys) :
    (names.set name nodeId).entries = names.entries ++ [(name, nodeId)] := by
  rw [Dict.set, dif_neg h]

/-- A field that is read. -/
theorem text_or_none_eq_ok {node : NodeSpec} {field : String} {text : Option String}
    (h : textOrNone node field = .ok text) :
    text = ((node.config.get? field).bind Json.str?).filter fun text => text ≠ "" := by
  rw [textOrNone] at h
  split at h
  · cases h
  · cases h
    rfl

/-- A name that is given is new. -/
theorem external_name_eq_ok {names : Dict String String} {node : NodeSpec} {name : String}
    (h : externalName names node = .ok name) : name = labelOrId node ∧ name ∉ names.keys := by
  obtain ⟨label, hlabel, h⟩ := except_bind_eq_ok.mp h
  rw [text_or_none_eq_ok hlabel, ← labelOrId] at h
  dsimp only at h
  split at h
  · cases h
  · rename_i hfree
    cases h
    exact ⟨rfl, hfree⟩

/-- One more node of a graph. -/
theorem ContractOf.add {contract result : InvokeContract} {nodes : List NodeSpec} {node : NodeSpec}
    (h : ContractOf contract nodes) (hadd : addNode contract node = .ok result) :
    ContractOf result (nodes ++ [node]) := by
  rw [addNode] at hadd
  -- An input and an output add one name and one field, another node adds nothing.
  by_cases hinput : node.type = "text_input"
  · have houtput : node.type ≠ "text_output" := by
      rw [hinput]
      decide
    rw [if_pos hinput] at hadd
    obtain ⟨name, hname, hadd⟩ := except_bind_eq_ok.mp hadd
    obtain ⟨default, hdefault, hadd⟩ := except_bind_eq_ok.mp hadd
    obtain ⟨rfl, hfree⟩ := external_name_eq_ok hname
    have hsaved : default = savedDefault node := text_or_none_eq_ok hdefault
    subst hsaved
    cases hadd
    constructor <;> rw [nodes_of_snoc]
    · rw [if_pos hinput, entries_set_of_not_mem _ hfree, h.inputs, List.map_append]
      rfl
    · rw [if_neg houtput, List.append_nil, h.outputs]
    · rw [if_pos hinput, List.map_append, ← h.inputFields]
      rfl
    · rw [if_neg houtput, List.append_nil, h.outputFields]
  · rw [if_neg hinput] at hadd
    by_cases houtput : node.type = "text_output"
    · rw [if_pos houtput] at hadd
      obtain ⟨name, hname, hadd⟩ := except_bind_eq_ok.mp hadd
      obtain ⟨rfl, hfree⟩ := external_name_eq_ok hname
      cases hadd
      constructor <;> rw [nodes_of_snoc]
      · rw [if_neg hinput, List.append_nil, h.inputs]
      · rw [if_pos houtput, entries_set_of_not_mem _ hfree, h.outputs, List.map_append]
        rfl
      · rw [if_neg hinput, List.append_nil, h.inputFields]
      · rw [if_pos houtput, List.map_append, ← h.outputFields]
        rfl
    · rw [if_neg houtput] at hadd
      cases hadd
      constructor <;> rw [nodes_of_snoc]
      · rw [if_neg hinput, List.append_nil, h.inputs]
      · rw [if_neg houtput, List.append_nil, h.outputs]
      · rw [if_neg hinput, List.append_nil, h.inputFields]
      · rw [if_neg houtput, List.append_nil, h.outputFields]

/-- A contract that is derived lists the nodes of the graph. -/
theorem build_contract_of {nodes : List NodeSpec} {contract : InvokeContract}
    (h : buildContract nodes = .ok contract) : ContractOf contract nodes := by
  induction nodes using List.reverseRecOn generalizing contract with
  | nil =>
      cases h
      exact ⟨rfl, rfl, rfl, rfl⟩
  | append_singleton nodes node ih =>
      rw [buildContract, List.foldlM_append] at h
      obtain ⟨before, hbefore, h⟩ := except_bind_eq_ok.mp h
      simp only [List.foldlM_cons, List.foldlM_nil, bind_pure] at h
      exact (ih hbefore).add h

/-! ## Names and nodes -/

/-- The names and the nodes of a type correspond one to one. -/
structure OneToOne (names : Dict String String) (type : String) (nodes : List NodeSpec) :
    Prop where
  ofNode : ∀ node ∈ nodes, node.type = type → ∃! name, names.get? name = some node.id
  ofName : ∀ name ∈ names.keys,
    ∃! node, node ∈ nodes ∧ node.type = type ∧ names.get? name = some node.id

section

variable {graph : GraphSpec} {names : Dict String String} {type : String}

/-- Nodes with one id are one node. -/
theorem eq_of_id_eq {first second : NodeSpec} (hfirst : first ∈ graph.nodes)
    (hsecond : second ∈ graph.nodes) (h : first.id = second.id) : first = second :=
  List.inj_on_of_nodup_map graph.nodupIds hfirst hsecond h

/-- A name stands for the nodes that have it. -/
theorem get?_name_iff (h : names.entries = (nodesOf type graph.nodes).map namedEntry)
    {name nodeId : String} :
    names.get? name = some nodeId ↔
      ∃ node ∈ graph.nodes, node.type = type ∧ labelOrId node = name ∧ node.id = nodeId := by
  rw [← Dict.mem_entries_iff, h, List.mem_map]
  simp only [nodesOf, List.mem_filter, decide_eq_true_eq, namedEntry, Prod.mk.injEq, and_assoc]

/-- A node is found under its own name and under no other. -/
theorem get?_name_of_node_iff (h : names.entries = (nodesOf type graph.nodes).map namedEntry)
    {node : NodeSpec} (hnode : node ∈ graph.nodes) {name : String} :
    names.get? name = some node.id ↔ node.type = type ∧ labelOrId node = name := by
  rw [get?_name_iff h]
  constructor
  · rintro ⟨other, hother, htype, hname, hid⟩
    cases eq_of_id_eq hother hnode hid
    exact ⟨htype, hname⟩
  · rintro ⟨htype, hname⟩
    exact ⟨node, hnode, htype, hname, rfl⟩

/-- The names of a contract and the nodes that they stand for correspond one to one. -/
theorem one_to_one_of_entries
    (h : names.entries = (nodesOf type graph.nodes).map namedEntry) :
    OneToOne names type graph.nodes where
  ofNode node hnode htype := by
    refine ⟨labelOrId node, (get?_name_of_node_iff h hnode).mpr ⟨htype, rfl⟩, fun name hname => ?_⟩
    exact ((get?_name_of_node_iff h hnode).mp hname).2.symm
  ofName name hname := by
    obtain ⟨nodeId, hget⟩ := Dict.mem_keys_iff.mp hname
    obtain ⟨node, hnode, htype, _, rfl⟩ := (get?_name_iff h).mp hget
    refine ⟨node, ⟨hnode, htype, hget⟩, ?_⟩
    rintro other ⟨hother, _, hotherGet⟩
    rw [hget] at hotherGet
    exact (eq_of_id_eq hnode hother (Option.some.inj hotherGet)).symm

end

/-! ## The supplied inputs -/

/-- A node with another value in its config. -/
def withValue (node : NodeSpec) (value : String) : NodeSpec :=
  { node with config := node.config.set "value" (.str value) }

/-- A node of the graph that is run: an input that is supplied carries the supplied value. -/
def withInput (inputs : Dict String String) (node : NodeSpec) : NodeSpec :=
  match if node.type = "text_input" then inputs.get? (labelOrId node) else none with
  | some value => withValue node value
  | none => node

/-- A node after one input. -/
def seedEntry (names : Dict String String) (node : NodeSpec) (entry : String × String) : NodeSpec :=
  match names.get? entry.1 with
  | some nodeId => seedNode nodeId (.str entry.2) node
  | none => node

section

variable {names : Dict String String} {entries : List (String × String)}

/-- The names of one input are those of its node alone. -/
theorem seed_entry_of_ne {node : NodeSpec} {entry : String × String}
    (h : names.get? entry.1 ≠ some node.id) : seedEntry names node entry = node := by
  rw [seedEntry]
  cases hname : names.get? entry.1 with
  | none => rfl
  | some nodeId => exact if_neg fun hid => h (by rw [hname, hid])

theorem seed_entry_of_eq {node : NodeSpec} {entry : String × String}
    (h : names.get? entry.1 = some node.id) :
    seedEntry names node entry = withValue node entry.2 := by
  rw [seedEntry, h]
  exact if_pos rfl

/-- A node that goes by one name at most gets the value that is supplied under it. -/
theorem seed_entries (name : Option String) (hnodup : (entries.map Prod.fst).Nodup)
    {node : NodeSpec}
    (h : ∀ key ∈ entries.map Prod.fst, names.get? key = some node.id ↔ some key = name) :
    entries.foldl (seedEntry names) node =
      match name.bind (Dict.lookup · entries) with
      | some value => withValue node value
      | none => node := by
  induction entries generalizing node with
  | nil => cases name <;> rfl
  | cons entry entries ih =>
      rw [List.map_cons, List.nodup_cons] at hnodup
      rw [List.map_cons, List.forall_mem_cons] at h
      rw [List.foldl_cons]
      by_cases hname : some entry.1 = name
      · subst hname
        have hnone : Dict.lookup entry.1 entries = none := by
          rw [← Option.not_isSome_iff_eq_none, Dict.lookup_isSome_iff]
          exact hnodup.1
        rw [seed_entry_of_eq (h.1.mpr rfl), @ih hnodup.2 (withValue node entry.2) h.2]
        simp only [Option.bind_some, hnone, Dict.lookup_cons, if_true]
      · rw [seed_entry_of_ne (fun hid => hname (h.1.mp hid)), ih hnodup.2 h.2]
        cases name with
        | none => rfl
        | some name =>
            have hne : entry.1 ≠ name := fun heq => hname (congrArg some heq)
            simp only [Option.bind_some, Dict.lookup_cons, if_neg hne]

/-- The inputs go to the nodes one by one. -/
theorem apply_inputs_raising_nodes {graph : GraphSpec} {inputs : Dict String String}
    (h : ∀ name ∈ inputs.keys, ∃ nodeId ∈ graph.nodes.map NodeSpec.id,
      names.get? name = some nodeId) :
    ∃ applied, applyInputsRaising graph names inputs = .ok applied ∧
      applied.version = graph.version ∧ applied.edges = graph.edges ∧
      applied.nodes = graph.nodes.map fun node => inputs.entries.foldl (seedEntry names) node := by
  rw [applyInputsRaising]
  rw [Dict.keys] at h
  generalize inputs.entries = entries at h ⊢
  induction entries generalizing graph with
  | nil => exact ⟨graph, rfl, rfl, rfl, by simp⟩
  | cons entry entries ih =>
      rw [List.map_cons, List.forall_mem_cons] at h
      obtain ⟨⟨nodeId, hmem, hname⟩, hrest⟩ := h
      have hids : (iterationGraph graph nodeId (.str entry.2)).nodes.map NodeSpec.id =
          graph.nodes.map NodeSpec.id := by
        rw [iterationGraph, List.map_map]
        exact List.map_congr_left fun node _ => seedNode_id _ _ node
      rw [← hids] at hrest
      obtain ⟨applied, happlied, hversion, hedges, hnodes⟩ := ih hrest
      have hstep : applyInput names graph entry =
          .ok (iterationGraph graph nodeId (.str entry.2)) := by
        rw [applyInput, hname]
        exact if_pos hmem
      refine ⟨applied, ?_, hversion, hedges, ?_⟩
      · rw [List.foldlM_cons, hstep]
        exact happlied
      · rw [hnodes, iterationGraph, List.map_map]
        refine List.map_congr_left fun node _ => ?_
        rw [List.foldl_cons, seedEntry, hname]
        rfl

end

/-- The graph that is run is the saved one, but for its inputs: each has the value that is supplied
for it or else the one that it has saved. -/
structure InputsApplied (inputs : Dict String String) (graph applied : GraphSpec) : Prop where
  version : applied.version = graph.version
  edges : applied.edges = graph.edges
  nodes : applied.nodes = graph.nodes.map (withInput inputs)
  values : ∀ node ∈ graph.nodes, node.type = "text_input" →
    ∃ value, (inputs.get? (labelOrId node)).or (savedDefault node) = some value ∧
      (withInput inputs node).config.get? "value" = some (.str value)
  kept : ∀ node ∈ graph.nodes,
    node.type ≠ "text_input" ∨ inputs.get? (labelOrId node) = none → withInput inputs node = node

section

variable {graph : GraphSpec} {contract : InvokeContract} {inputs : Dict String String}

/-- No name is unknown if the contract has them all. -/
theorem unknown_fields_eq_nil_iff : unknownFields contract inputs = [] ↔
    ∀ name ∈ inputs.keys, name ∈ contract.inputNameToNodeId.keys := by
  rw [unknownFields, ← List.length_eq_zero_iff, List.length_mergeSort, List.length_eq_zero_iff,
    List.filter_eq_nil_iff]
  simp only [decide_eq_true_eq, not_not]

/-- No name is missing if all required ones are supplied. -/
theorem missing_fields_eq_nil_iff : missingFields contract inputs = [] ↔
    ∀ field ∈ contract.inputFields, field.required = true → field.name ∈ inputs.keys := by
  rw [missingFields, ← List.length_eq_zero_iff, List.length_mergeSort, List.length_eq_zero_iff,
    List.map_eq_nil_iff, List.filter_eq_nil_iff]
  simp only [decide_eq_true_eq, not_and, not_not]

/-- A saved value that is not empty is in the config. -/
theorem value_of_saved_default {node : NodeSpec} {text : String}
    (h : savedDefault node = some text) : node.config.get? "value" = some (.str text) := by
  rw [savedDefault, Option.filter_eq_some_iff, Option.bind_eq_some_iff] at h
  obtain ⟨⟨value, hvalue, hstr⟩, _⟩ := h
  rw [hvalue]
  cases value with
  | str other =>
      cases hstr
      rfl
  | _ => cases hstr

/-- A required input is one that has saved no value. -/
theorem saved_or_supplied (h : ContractOf contract graph.nodes)
    (hmissing : missingFields contract inputs = []) {node : NodeSpec} (hnode : node ∈ graph.nodes)
    (htype : node.type = "text_input") (hsupplied : inputs.get? (labelOrId node) = none) :
    ∃ text, savedDefault node = some text := by
  have hfield : inputField node ∈ contract.inputFields := by
    rw [h.inputFields]
    exact List.mem_map_of_mem (List.mem_filter.mpr ⟨hnode, by rw [htype]; rfl⟩)
  cases hsaved : savedDefault node with
  | some text => exact ⟨text, rfl⟩
  | none =>
      have hrequired : (inputField node).required = true := by rw [inputField, hsaved]; rfl
      have hmem : labelOrId node ∈ inputs.keys :=
        missing_fields_eq_nil_iff.mp hmissing _ hfield hrequired
      exact absurd hmem (Dict.get?_eq_none_iff.mp hsupplied)

/-- Inputs that pass the checks can be applied. -/
theorem inputs_applied (h : ContractOf contract graph.nodes)
    (hunknown : unknownFields contract inputs = [])
    (hmissing : missingFields contract inputs = []) :
    ∃ applied, applyInputsRaising graph contract.inputNameToNodeId inputs = .ok applied ∧
      InputsApplied inputs graph applied := by
  have hknown : ∀ name ∈ inputs.keys, ∃ nodeId ∈ graph.nodes.map NodeSpec.id,
      contract.inputNameToNodeId.get? name = some nodeId := by
    intro name hname
    obtain ⟨nodeId, hget⟩ := Dict.mem_keys_iff.mp (unknown_fields_eq_nil_iff.mp hunknown name hname)
    obtain ⟨node, hnode, _, _, rfl⟩ := (get?_name_iff h.inputs).mp hget
    exact ⟨node.id, List.mem_map_of_mem hnode, hget⟩
  obtain ⟨applied, happlied, hversion, hedges, hnodes⟩ := apply_inputs_raising_nodes hknown
  refine ⟨applied, happlied, hversion, hedges, ?_, ?_, ?_⟩
  · rw [hnodes]
    refine List.map_congr_left fun node hnode => ?_
    have hname := fun name => @get?_name_of_node_iff graph _ _ h.inputs node hnode name
    by_cases htype : node.type = "text_input"
    · rw [seed_entries (some (labelOrId node)) inputs.nodupKeys, withInput, if_pos htype]
      · rfl
      · intro key _
        rw [hname]
        simp [htype, eq_comm]
    · rw [seed_entries none inputs.nodupKeys, withInput, if_neg htype]
      · rfl
      · intro key _
        rw [hname]
        simp [htype]
  · intro node hnode htype
    rw [withInput, if_pos htype]
    cases hsupplied : inputs.get? (labelOrId node) with
    | some value => exact ⟨value, rfl, Dict.get?_set_self _ _ _⟩
    | none =>
        obtain ⟨text, htext⟩ := saved_or_supplied h hmissing hnode htype hsupplied
        exact ⟨text, htext, value_of_saved_default htext⟩
  · rintro node _ (htype | hsupplied)
    · rw [withInput, if_neg htype]
    · rw [withInput, hsupplied, ite_self]

end

/-! ## The answer -/

section

variable {surroundings : InvokeSurroundings} {graphId runId : String}
  {inputs : Dict String String}

/-- An invocation leaves the saved graphs alone, however it ends. -/
theorem invoke_keeps_rows :
    Stateful.Frame InvokeTables.rows (invokeSavedGraph surroundings graphId runId inputs) := by
  refine Stateful.frame_bind Stateful.frame_get fun tables => ?_
  cases tables.rows.get? graphId with
  | none => exact Stateful.frame_throw _
  | some row =>
      refine Stateful.frame_bind (Stateful.frame_ofExcept _) fun ⟨contract, graph, resources⟩ => ?_
      refine Stateful.frame_bind (Stateful.frame_modify fun _ => rfl) fun _ => ?_
      cases surroundings.thread runId graph resources _ with
      | none => exact Stateful.frame_throw _
      | some final =>
          exact Stateful.frame_bind (Stateful.frame_modify fun _ => rfl) fun _ =>
            Stateful.frame_ofExcept _

/-- The names of the outputs are those of the contract. -/
theorem invoke_answer_keys {outputNodeIds : Dict String String} {record : RunRecord}
    {outputs : Dict String (Option Json)} (h : invokeAnswer outputNodeIds record = .ok outputs) :
    outputs.keys = outputNodeIds.keys := by
  have hkeys : ∀ value : String → Option Json, (outputNodeIds.entries.map fun entry =>
      (entry.1, value entry.2)).map Prod.fst = outputNodeIds.entries.map Prod.fst := by
    intro value
    rw [List.map_map]
    rfl
  rw [invokeAnswer] at h
  split at h
  · cases h
  · split at h
    · cases h
    · cases h
      rw [Dict.keys_ofList, hkeys]
      · rfl
      · rw [hkeys]
        exact outputNodeIds.nodupKeys

/-- The contract of an invocation is that of the saved graph. -/
theorem prepare_invocation_contract {row : StoredGraph} {graph applied : GraphSpec}
    {contract prepared : InvokeContract} {resources : Resources}
    (hload : surroundings.load row.specJson = .ok graph)
    (hcontract : buildContract graph.nodes = .ok contract)
    (h : prepareInvocation surroundings row inputs = .ok (prepared, applied, resources)) :
    prepared = contract := by
  rw [prepareInvocation, hload] at h
  obtain ⟨loaded, hloaded, h⟩ := except_bind_eq_ok.mp h
  cases hloaded
  obtain ⟨derived, hderived, h⟩ := except_bind_eq_ok.mp h
  rw [contractFor, hcontract] at hderived
  cases hderived
  obtain ⟨_, _, h⟩ := except_bind_eq_ok.mp h
  obtain ⟨_, _, h⟩ := except_bind_eq_ok.mp h
  obtain ⟨_, _, h⟩ := except_bind_eq_ok.mp h
  obtain ⟨_, _, h⟩ := except_bind_eq_ok.mp h
  cases h
  rfl

/-- An answer has the outputs of the contract. -/
theorem invoke_outputs_keys {tables after : InvokeTables} {row : StoredGraph} {graph : GraphSpec}
    {contract : InvokeContract} {outputs : Dict String (Option Json)}
    (hrow : tables.rows.get? graphId = some row)
    (hload : surroundings.load row.specJson = .ok graph)
    (hcontract : buildContract graph.nodes = .ok contract)
    (h : (invokeSavedGraph surroundings graphId runId inputs).run tables = .ok outputs after) :
    outputs.keys = contract.outputNameToNodeId.keys := by
  suffices hends : Stateful.Ends (invokeSavedGraph surroundings graphId runId inputs) tables
      (fun outputs _ => outputs.keys = contract.outputNameToNodeId.keys) fun _ => True from
    hends.of_ok h
  refine Stateful.ends_bind (Stateful.ends_get ?_)
  rw [hrow]
  refine Stateful.ends_bind (Stateful.ends_ofExcept ?_ trivial)
  rintro ⟨prepared, applied, resources⟩ hprepared
  cases prepare_invocation_contract hload hcontract hprepared
  refine Stateful.ends_bind (Stateful.ends_modify ?_)
  cases surroundings.thread runId applied resources _ with
  | none => exact Stateful.ends_throw trivial
  | some final =>
      refine Stateful.ends_bind (Stateful.ends_modify (Stateful.ends_ofExcept ?_ trivial))
      intro response hresponse
      obtain ⟨answered, hanswered, hresponse⟩ := except_bind_eq_ok.mp hresponse
      rw [mapError_eq_ok] at hanswered
      rw [invokeResponse] at hresponse
      split at hresponse
      · cases hresponse
        exact invoke_answer_keys hanswered
      · cases hresponse

end

/-- The names of a contract and the nodes of the graph correspond one to one in either direction.
Inputs that pass the checks can be applied, which changes the inputs alone. An invocation of the
graph leaves the saved graphs alone, and its answer has exactly the declared outputs. -/
theorem invoke_contract_kept {graph : GraphSpec} {contract : InvokeContract}
    (h : buildContract graph.nodes = .ok contract) (inputs : Dict String String) :
    OneToOne contract.inputNameToNodeId "text_input" graph.nodes ∧
    OneToOne contract.outputNameToNodeId "text_output" graph.nodes ∧
    contract.inputFields.map InvokeContractField.name = contract.inputNameToNodeId.keys ∧
    (unknownFields contract inputs = [] → missingFields contract inputs = [] →
      ∃ applied, applyInputsRaising graph contract.inputNameToNodeId inputs = .ok applied ∧
        InputsApplied inputs graph applied) ∧
    ∀ surroundings graphId runId tables row,
      tables.rows.get? graphId = some row → surroundings.load row.specJson = .ok graph →
      (Stateful.stateOf ((invokeSavedGraph surroundings graphId runId inputs).run tables)).rows =
        tables.rows ∧
      ∀ outputs after,
        (invokeSavedGraph surroundings graphId runId inputs).run tables = .ok outputs after →
        outputs.keys = contract.outputFields.map InvokeContractField.name := by
  have hof := build_contract_of h
  have hinputNames :
      contract.inputFields.map InvokeContractField.name = contract.inputNameToNodeId.keys := by
    rw [hof.inputFields, Dict.keys, hof.inputs, List.map_map, List.map_map]
    rfl
  have houtputNames :
      contract.outputFields.map InvokeContractField.name = contract.outputNameToNodeId.keys := by
    rw [hof.outputFields, Dict.keys, hof.outputs, List.map_map, List.map_map]
    rfl
  refine ⟨one_to_one_of_entries hof.inputs, one_to_one_of_entries hof.outputs, hinputNames,
    inputs_applied hof, fun surroundings graphId runId tables row hrow hload => ?_⟩
  refine ⟨invoke_keeps_rows tables, fun outputs after hrun => ?_⟩
  rw [houtputNames]
  exact invoke_outputs_keys hrow hload h hrun

/-- A graph with an input that is required and one that is not. -/
def questionGraph : GraphSpec where
  version := "1"
  nodes := [
    { id := "q", type := "text_input", config := .ofList [("label", .str "question")] },
    { id := "g", type := "text_input", config := .ofList [("value", .str "hello")] },
    { id := "a", type := "text_output", config := .ofList [("label", .str "question")] }]
  edges := []
  nodupIds := by decide

/-- The contract of the graph. -/
def questionContract : InvokeContract where
  inputNameToNodeId := .ofList [("question", "q"), ("g", "g")]
  outputNameToNodeId := .ofList [("question", "a")]
  inputFields := [⟨"question", "q", "input", true, none⟩, ⟨"g", "g", "input", false, some "hello"⟩]
  outputFields := [⟨"question", "a", "output", false, none⟩]

/-- The question is enough, and the greeting is the saved one. -/
theorem question_contract_kept :
    OneToOne questionContract.inputNameToNodeId "text_input" questionGraph.nodes ∧
      ∃ applied, applyInputsRaising questionGraph questionContract.inputNameToNodeId
        (.ofList [("question", "why?")]) = .ok applied ∧
        InputsApplied (.ofList [("question", "why?")]) questionGraph applied := by
  have hcontract : buildContract questionGraph.nodes = .ok questionContract := rfl
  obtain ⟨hinputs, _, _, happlied, _⟩ :=
    invoke_contract_kept hcontract (.ofList [("question", "why?")])
  exact ⟨hinputs, happlied (unknown_fields_eq_nil_iff.mpr (by decide))
    (missing_fields_eq_nil_iff.mpr (by decide))⟩

end Raising

end AgentGraphStudio
