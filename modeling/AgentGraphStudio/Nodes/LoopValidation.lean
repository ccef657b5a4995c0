import AgentGraphStudio.Nodes.Builtin

/-!
# The two validations of a loop's sub-graph

The body of a loop validates its sub-graph for no user in particular. `run_graph` validates
the graph of each iteration for the running user, with the iteration's value in the entry
node. All rules but two treat the graphs alike: the configuration rule looks at the value of
the entry node, and the connection rule at the user. `nested_validation_iff` says when the two
verdicts coincide.
-/

namespace AgentGraphStudio

variable {registry : NodeRegistry Body} {graph : GraphSpec} {entryNodeId : String}

/-! ## Rules that do not look at configurations -/

/-- The rules that look neither at connections nor at configurations. -/
structure Shaped (graph : GraphSpec) (registry : NodeRegistry Body) : Prop where
  structural : (checkStructural graph).1 = []
  registered : (checkUnregisteredTypes graph registry).1 = []
  requiredInputs : checkRequiredInputs graph registry graph.dataEdges []
    (subNodeReferencedIds graph) = []
  typeMismatches : checkTypeMismatches graph registry graph.dataEdges [] = []
  cycles : checkCycles graph graph.dataEdges = []
  subNodeEdges : checkSubNodeEdges graph registry [] = []

theorem well_formed_iff : WellFormed graph registry ↔
    Shaped graph registry ∧ checkConfigSchema graph registry [] = [] := by
  constructor
  · intro h
    exact ⟨⟨h.structural, h.registered, h.requiredInputs, h.typeMismatches, h.cycles,
      h.subNodeEdges⟩, h.configSchema⟩
  · intro h
    obtain ⟨hshaped, hconfig⟩ := h
    exact ⟨hshaped.structural, hshaped.registered, hshaped.requiredInputs,
      hshaped.typeMismatches, hshaped.cycles, hconfig, hshaped.subNodeEdges⟩

/-! ## Changing configurations -/

/-- A change of nodes that no rule of `Shaped` can see. -/
structure SameShape (registry : NodeRegistry Body) (change : NodeSpec → NodeSpec) : Prop where
  id : ∀ node, (change node).id = node.id
  type : ∀ node, (change node).type = node.type
  inputValues : ∀ node, (change node).inputValues = node.inputValues
  inputs : ∀ node definition, registry.get node.type = some definition →
    effectiveInputs definition (change node) = effectiveInputs definition node
  outputs : ∀ node definition, registry.get node.type = some definition →
    effectiveOutputs definition (change node) = effectiveOutputs definition node

section

variable {change : NodeSpec → NodeSpec} {other : GraphSpec}

theorem map_ids (hsame : SameShape registry change)
    (hnodes : other.nodes = graph.nodes.map change) :
    other.nodes.map NodeSpec.id = graph.nodes.map NodeSpec.id := by
  rw [hnodes, List.map_map, show NodeSpec.id ∘ change = NodeSpec.id from funext hsame.id]

theorem node?_map (hsame : SameShape registry change)
    (hnodes : other.nodes = graph.nodes.map change) (id : String) :
    other.node? id = (graph.node? id).map change := by
  rw [GraphSpec.node?, GraphSpec.node?, hnodes, List.find?_map]
  simp only [Function.comp_def, hsame.id]

theorem edge_type_mismatch_map (hsame : SameShape registry change)
    (hnodes : other.nodes = graph.nodes.map change) (hedges : other.edges = graph.edges)
    (edge : DataEdge) {srcNode dstNode : NodeSpec} {srcDef dstDef : NodeDefinition Body}
    (hsrc : registry.get srcNode.type = some srcDef)
    (hdst : registry.get dstNode.type = some dstDef) :
    edgeTypeMismatch other registry edge (change srcNode) (change dstNode) srcDef dstDef =
      edgeTypeMismatch graph registry edge srcNode dstNode srcDef dstDef := by
  have houtputs : effectiveOutputsForRoot srcDef (change srcNode) other registry =
      effectiveOutputsForRoot srcDef srcNode graph registry := by
    unfold effectiveOutputsForRoot
    rw [hsame.outputs srcNode srcDef hsrc, hsame.id, GraphSpec.subNodeEdges, hedges]
    split
    · rfl
    · rw [show (List.filterMap EdgeSpec.subNode? graph.edges) = graph.subNodeEdges from rfl]
      split
      · rfl
      · rename_i subEdge _
        rw [node?_map hsame hnodes]
        cases graph.node? subEdge.fromNode with
        | none => rfl
        | some subNode =>
            simp only [Option.map_some, hsame.type]
            cases hsub : registry.get subNode.type with
            | none => rfl
            | some subDefinition => exact hsame.outputs subNode subDefinition hsub
  rw [edgeTypeMismatch, edgeTypeMismatch, houtputs, hsame.inputs dstNode dstDef hdst, hsame.id,
    hsame.id]

theorem check_sub_node_edge_map (hsame : SameShape registry change)
    (hnodes : other.nodes = graph.nodes.map change) (hedges : other.edges = graph.edges)
    (edge : SubNodeEdge) :
    checkSubNodeEdge other registry [] edge = checkSubNodeEdge graph registry [] edge := by
  unfold checkSubNodeEdge
  rw [node?_map hsame hnodes, node?_map hsame hnodes, GraphSpec.dataEdges, hedges]
  cases graph.node? edge.toNode with
  | none => rfl
  | some rootNode =>
      cases graph.node? edge.fromNode with
      | none => rfl
      | some subNode =>
          simp only [Option.map_some, hsame.id, hsame.type]
          rfl

/-- A change that no rule can see keeps the shape of a graph. -/
theorem shaped_map_iff (hsame : SameShape registry change)
    (hnodes : other.nodes = graph.nodes.map change) (hedges : other.edges = graph.edges) :
    Shaped other registry ↔ Shaped graph registry := by
  have hids := map_ids hsame hnodes
  have hdata : other.dataEdges = graph.dataEdges := by
    rw [GraphSpec.dataEdges, hedges, ← GraphSpec.dataEdges]
  have hsub : other.subNodeEdges = graph.subNodeEdges := by
    rw [GraphSpec.subNodeEdges, hedges, ← GraphSpec.subNodeEdges]
  -- Rule by rule: what a rule reads of the nodes is what the change keeps.
  have hstructural : (checkStructural other).1 = (checkStructural graph).1 := by
    rw [checkStructural, checkStructural, hids, hedges]
  have hregistered : (checkUnregisteredTypes other registry).1 = [] ↔
      (checkUnregisteredTypes graph registry).1 = [] := by
    rw [check_unregistered_types_eq_nil_iff, check_unregistered_types_eq_nil_iff, hnodes,
      List.forall_mem_map]
    simp only [hsame.type]
  have hrequired : checkRequiredInputs other registry other.dataEdges []
        (subNodeReferencedIds other) =
      checkRequiredInputs graph registry graph.dataEdges [] (subNodeReferencedIds graph) := by
    rw [subNodeReferencedIds, hsub, ← subNodeReferencedIds, hdata, checkRequiredInputs,
      checkRequiredInputs, hnodes, List.flatMap_map]
    refine congrArg (List.flatMap · graph.nodes) (funext fun node => ?_)
    simp only [hsame.id, hsame.type, hsame.inputValues]
    cases hdef : registry.get node.type with
    | none => rfl
    | some definition => rw [Option.bind_some, Option.bind_some, hsame.inputs node definition hdef]
  have htypes : checkTypeMismatches other registry other.dataEdges [] =
      checkTypeMismatches graph registry graph.dataEdges [] := by
    rw [hdata, checkTypeMismatches, checkTypeMismatches]
    refine congrArg (List.flatMap · graph.dataEdges) (funext fun edge => ?_)
    rw [node?_map hsame hnodes, node?_map hsame hnodes]
    cases graph.node? edge.fromNode with
    | none => rfl
    | some srcNode =>
        cases graph.node? edge.toNode with
        | none => rfl
        | some dstNode =>
            simp only [Option.map_some, hsame.id, hsame.type]
            cases hsrc : registry.get srcNode.type with
            | none => rfl
            | some srcDef =>
                cases hdst : registry.get dstNode.type with
                | none => rfl
                | some dstDef =>
                    simp only [edge_type_mismatch_map hsame hnodes hedges edge hsrc hdst]
  have hcycles : checkCycles other other.dataEdges = checkCycles graph graph.dataEdges := by
    rw [checkCycles, checkCycles, hids, hdata]
  have hsubs : checkSubNodeEdges other registry [] = checkSubNodeEdges graph registry [] := by
    have hconnected : connectedSubNodes other registry [] =
      connectedSubNodes graph registry [] := by
      funext root slot
      simp only [connectedSubNodes, hsub, check_sub_node_edge_map hsame hnodes hedges]
    rw [checkSubNodeEdges, checkSubNodeEdges, hsub, hnodes, List.flatMap_map]
    simp only [check_sub_node_edge_map hsame hnodes hedges, hsame.id, hsame.type, hconnected]
  constructor
  · intro h
    exact ⟨hstructural ▸ h.structural, hregistered.mp h.registered, hrequired ▸ h.requiredInputs,
      htypes ▸ h.typeMismatches, hcycles ▸ h.cycles, hsubs ▸ h.subNodeEdges⟩
  · intro h
    exact ⟨hstructural ▸ h.structural, hregistered.mpr h.registered, hrequired ▸ h.requiredInputs,
      htypes ▸ h.typeMismatches, hcycles ▸ h.cycles, hsubs ▸ h.subNodeEdges⟩

end

/-! ## The entry node -/

/-- Is there a value, and is it a text? -/
def isText (value : Option Json) : Bool := (value.bind Json.str?).isSome

/-- The value that the configuration of the entry node has. -/
def configuredValue (graph : GraphSpec) (entryNodeId : String) : Option Json :=
  (graph.node? entryNodeId).bind fun node => node.config.get? "value"

theorem readable_eq_ok_iff {α : Type} {parse : Config → Except String α} {config : Config} :
    readable parse config = .ok () ↔ ∃ result, parse config = .ok result := by
  unfold readable
  cases parse config <;> simp [Except.map]

/-- A text input is valid when its value is a text and its label is one or absent. -/
theorem text_input_config_ok_iff {config : Config} :
    textInputDefinition.configModel config = .ok () ↔
      isText (config.get? "value") = true ∧ ∃ label, config.optionalStr "label" = .ok label := by
  rw [show textInputDefinition.configModel = readable TextInputConfig.parse from rfl,
    readable_eq_ok_iff]
  -- The fields are read in order, and the first that cannot be read is the error.
  constructor
  · intro h
    obtain ⟨result, hresult⟩ := h
    obtain ⟨value, hvalue, hlabel⟩ := except_bind_eq_ok.mp hresult
    obtain ⟨label, hlabel, _⟩ := except_bind_eq_ok.mp hlabel
    refine ⟨?_, label, hlabel⟩
    unfold Config.required at hvalue
    split at hvalue
    · cases hvalue
    · rename_i json hget
      rw [hget]
      cases hread : json.str? with
      | none =>
          rw [hread] at hvalue
          cases hvalue
      | some text => rw [isText, Option.bind_some, hread]; rfl
  · intro h
    obtain ⟨htext, label, hlabel⟩ := h
    unfold isText at htext
    obtain ⟨text, htext⟩ := Option.isSome_iff_exists.mp htext
    obtain ⟨json, hget, hread⟩ := Option.bind_eq_some_iff.mp htext
    have hvalue : config.required "value" Json.str? = .ok text := by
      rw [Config.required, hget]
      dsimp only
      rw [hread]
    refine ⟨⟨text, label⟩, ?_⟩
    rw [TextInputConfig.parse, hvalue]
    dsimp [bind, Except.bind]
    rw [hlabel]
    rfl

/-- The one text input of a sub-graph is its entry node. -/
theorem find_entry_node {graph : GraphSpec} (h : findEntryNodeId graph = .ok entryNodeId) :
    ∃ entry, graph.node? entryNodeId = some entry ∧ entry.type = "text_input" := by
  unfold findEntryNodeId at h
  split at h
  · rename_i entry hentry
    cases h
    obtain ⟨hmem, htype⟩ := List.mem_filter.mp (hentry ▸ List.mem_singleton_self entry)
    exact ⟨entry, GraphSpec.node?_of_mem hmem, by simpa using htype⟩
  · cases h

/-- `seedNode`, restricted to text inputs. On the nodes of a sub-graph it is the same. -/
def seedTextInput (entryNodeId : String) (value : Json) (node : NodeSpec) : NodeSpec :=
  if node.type = "text_input" then seedNode entryNodeId value node else node

theorem iteration_nodes (hentry : findEntryNodeId graph = .ok entryNodeId) (value : Json) :
    (iterationGraph graph entryNodeId value).nodes =
      graph.nodes.map (seedTextInput entryNodeId value) := by
  obtain ⟨entry, hnode, htype⟩ := find_entry_node hentry
  show graph.nodes.map (seedNode entryNodeId value) = _
  refine List.map_congr_left fun node hmem => ?_
  unfold seedTextInput
  split
  · rfl
  · rename_i hother
    unfold seedNode
    refine if_neg fun hid => hother ?_
    -- Ids are distinct, so this node would be the entry node.
    have hsame := GraphSpec.node?_of_mem hmem
    rw [hid, hnode] at hsame
    cases hsame
    exact htype

theorem same_shape_seed (htext : registry.get "text_input" = some textInputDefinition)
    (value : Json) : SameShape registry (seedTextInput entryNodeId value) := by
  have hslots : ∀ (node : NodeSpec) (definition : NodeDefinition Body),
      registry.get node.type = some definition → node.type = "text_input" →
        definition = textInputDefinition := by
    intro node definition hdef htype
    rw [htype, htext] at hdef
    exact (Option.some.inj hdef).symm
  refine ⟨fun node => ?_, fun node => ?_, fun node => ?_, fun node definition hdef => ?_,
    fun node definition hdef => ?_⟩ <;> unfold seedTextInput <;> split
  · exact seedNode_id _ _ _
  · rfl
  · exact seedNode_type _ _ _
  · rfl
  · unfold seedNode; split <;> rfl
  · rfl
  · rw [hslots node definition hdef ‹_›]; rfl
  · rfl
  · rw [hslots node definition hdef ‹_›]; rfl
  · rfl

/-- What an iteration's graph needs besides a text in its entry node. -/
structure Seedable (graph : GraphSpec) (registry : NodeRegistry Body) (entryNodeId : String) :
    Prop where
  shaped : Shaped graph registry
  others : ∀ node ∈ graph.nodes, node.id ≠ entryNodeId → ∀ definition,
    registry.get node.type = some definition → definition.configModel node.config = .ok ()
  label : ∃ entry label, graph.node? entryNodeId = some entry ∧
    entry.config.optionalStr "label" = .ok label

/-- The entry node of an iteration carries the value. -/
theorem iteration_node? (value : Json) {entry : NodeSpec}
    (hnode : graph.node? entryNodeId = some entry) :
    (iterationGraph graph entryNodeId value).node? entryNodeId =
      some { entry with config := entry.config.set "value" value } := by
  show ((graph.nodes.map (seedNode entryNodeId value)).find? fun node => node.id = entryNodeId) = _
  rw [List.find?_map]
  simp only [Function.comp_def, seedNode_id]
  rw [show (graph.nodes.find? fun node => decide (node.id = entryNodeId)) = some entry from hnode]
  show some (seedNode entryNodeId value entry) = _
  rw [seedNode, if_pos (GraphSpec.mem_of_node? hnode).2]

section

variable (hentry : findEntryNodeId graph = .ok entryNodeId)
  (htext : registry.get "text_input" = some textInputDefinition)

include hentry htext

/-- A sub-graph is well formed when its entry node is configured with a text, besides. -/
theorem sub_graph_well_formed_iff : WellFormed graph registry ↔
    Seedable graph registry entryNodeId ∧ isText (configuredValue graph entryNodeId) = true := by
  obtain ⟨entry, hnode, htype⟩ := find_entry_node hentry
  obtain ⟨hmem, hid⟩ := GraphSpec.mem_of_node? hnode
  rw [well_formed_iff, check_config_schema_eq_nil_iff, configuredValue, hnode, Option.bind_some]
  constructor
  · intro h
    obtain ⟨hvalue, label, hlabel⟩ := text_input_config_ok_iff.mp
      (h.2 entry hmem textInputDefinition (htype ▸ htext))
    exact ⟨⟨h.1, fun node hnode _ => h.2 node hnode, entry, label, hnode, hlabel⟩, hvalue⟩
  · intro h
    obtain ⟨⟨hshaped, hothers, other, label, hother, hlabel⟩, hvalue⟩ := h
    cases hnode.symm.trans hother
    refine ⟨hshaped, fun node hmem definition hdef => ?_⟩
    by_cases hne : node.id = entryNodeId
    · have hsame := GraphSpec.node?_of_mem hmem
      rw [hne, hnode] at hsame
      cases hsame
      rw [htype, htext] at hdef
      cases hdef
      exact text_input_config_ok_iff.mpr ⟨hvalue, label, hlabel⟩
    · exact hothers node hmem hne definition hdef

/-- The entry node of an iteration's graph is that of the sub-graph. -/
theorem iteration_entry (value : Json) :
    findEntryNodeId (iterationGraph graph entryNodeId value) = .ok entryNodeId := by
  have hsame : SameShape registry (seedTextInput entryNodeId value) := same_shape_seed htext value
  unfold findEntryNodeId at hentry ⊢
  rw [iteration_nodes hentry value, List.filter_map]
  simp only [Function.comp_def, hsame.type]
  split at hentry
  · rename_i found hfound
    rw [hfound]
    cases hentry
    exact congrArg Except.ok (hsame.id found)
  · cases hentry

/-- Seeding a value changes nothing that an iteration needs besides. -/
theorem seedable_iteration_iff (value : Json) :
    Seedable (iterationGraph graph entryNodeId value) registry entryNodeId ↔
      Seedable graph registry entryNodeId := by
  obtain ⟨entry, hnode, htype⟩ := find_entry_node hentry
  have hsame : SameShape registry (seedTextInput entryNodeId value) := same_shape_seed htext value
  have hshaped := shaped_map_iff hsame (iteration_nodes hentry value) rfl
  have hlabel : Config.optionalStr (entry.config.set "value" value) "label" =
      entry.config.optionalStr "label" := by
    have hne : "label" ≠ "value" := by decide
    unfold Config.optionalStr
    rw [Dict.get?_set_of_ne _ _ hne]
  have hseeded := iteration_node? value hnode
  constructor
  · intro h
    refine ⟨hshaped.mp h.shaped, fun node hmem hne definition hdef => ?_, ?_⟩
    · have hseed : seedNode entryNodeId value node = node := by rw [seedNode, if_neg hne]
      exact h.others node (List.mem_map.mpr ⟨node, hmem, hseed⟩) hne definition hdef
    · obtain ⟨other, label, hother, hread⟩ := h.label
      cases hseeded.symm.trans hother
      exact ⟨entry, label, hnode, hlabel ▸ hread⟩
  · intro h
    refine ⟨hshaped.mpr h.shaped, fun node hmem hne definition hdef => ?_, ?_⟩
    · obtain ⟨original, horiginal, rfl⟩ := List.mem_map.mp hmem
      rw [seedNode_id] at hne
      rw [seedNode, if_neg hne] at hdef ⊢
      exact h.others original horiginal hne definition hdef
    · obtain ⟨other, label, hother, hread⟩ := h.label
      cases hnode.symm.trans hother
      exact ⟨_, label, hseeded, hlabel.trans hread⟩

/-- The graph of an iteration is well formed when the value is a text, besides. -/
theorem iteration_well_formed_iff (value : Json) :
    WellFormed (iterationGraph graph entryNodeId value) registry ↔
      Seedable graph registry entryNodeId ∧ isText (some value) = true := by
  obtain ⟨entry, hnode, _⟩ := find_entry_node hentry
  rw [sub_graph_well_formed_iff (iteration_entry hentry htext value) htext,
    seedable_iteration_iff hentry htext value, configuredValue,
    iteration_node? value hnode, Option.bind_some, Dict.get?_set_self]

end

/-! ## The two verdicts -/

section

variable {config : LoopConfig} {store : ConnectionStore} {resources : Resources} {value : Json}

/-- Every referenced connection resolves for this user. -/
def NamesResolve (graph : GraphSpec) (store : ConnectionStore) (userId : Option String) : Prop :=
  ∀ name ∈ referencedConnectionNames graph, (resolveConnectionForUser store name userId).isSome

theorem NamesResolve.forUser (h : NamesResolve graph store none) (userId : Option String) :
    NamesResolve graph store userId :=
  fun name hname => resolve_connection_isSome_mono userId (h name hname)

/-- Without slot mappings, names resolve to themselves. -/
theorem validate_unmapped_iff {userId : Option String} :
    validateGraph graph registry store userId .empty = .ok () ↔
      WellFormed graph registry ∧ NamesResolve graph store userId := by
  rw [validate_graph_ok_iff]
  rfl

/-- The value of the entry node is no reference. -/
theorem names_resolve_iteration {userId : Option String} :
    NamesResolve (iterationGraph graph entryNodeId value) store userId ↔
      NamesResolve graph store userId := by
  have hnames : ∀ name, name ∈ referencedConnectionNames (iterationGraph graph entryNodeId value) ↔
      name ∈ referencedConnectionNames graph := by
    intro name
    rw [mem_referencedConnectionNames, mem_referencedConnectionNames]
    show (∃ node ∈ graph.nodes.map (seedNode entryNodeId value), _) ↔ _
    have hseed : ∀ node, name ∈ connectionReferenceNames (seedNode entryNodeId value node).config ↔
        name ∈ connectionReferenceNames node.config := by
      intro node
      unfold seedNode
      split
      · exact reference_names_seed _ _ _
      · exact Iff.rfl
    simp only [List.mem_map, exists_exists_and_eq_and, hseed]
  unfold NamesResolve
  simp only [hnames]

/-- The two validations agree: the verdict of the body's own check is that of the validation
with which an iteration begins, and neither rejects a sub-graph that the running user may run
by itself. -/
def VerdictsAgree (registry : NodeRegistry Body) (config : LoopConfig) (store : ConnectionStore)
    (resources : Resources) (value : Json) : Prop :=
  (∀ entryNodeId, findEntryNodeId config.subGraph = .ok entryNodeId →
    (preCheck registry config store = .ok () ↔
      revalidate (iterationGraph config.subGraph entryNodeId value) registry store resources =
        .ok ())) ∧
  (validateGraph config.subGraph registry store resources.runningUserId .empty = .ok () →
    preCheck registry config store = .ok ())

/-- The sub-graph gives the two validations no occasion to differ. Either it breaks a rule that
both apply alike, or a name does not resolve for the running user, or all its names resolve
globally and both values of its entry node are texts, or neither value is one. -/
def NoOccasion (registry : NodeRegistry Body) (graph : GraphSpec) (store : ConnectionStore)
    (userId : Option String) (value : Json) : Prop :=
  match findEntryNodeId graph with
  | .error _ =>
    WellFormed graph registry → NamesResolve graph store userId → NamesResolve graph store none
  | .ok entryNodeId =>
    Seedable graph registry entryNodeId → NamesResolve graph store userId →
      (NamesResolve graph store none ∧ isText (configuredValue graph entryNodeId) = true ∧
          isText (some value) = true) ∨
        (isText (configuredValue graph entryNodeId) = false ∧ isText (some value) = false)

/-- The two validations of a loop agree exactly if the sub-graph gives no occasion to
differ. -/
theorem verdicts_agree_iff (htext : registry.get "text_input" = some textInputDefinition) :
    VerdictsAgree registry config store resources value ↔
      NoOccasion registry config.subGraph store resources.runningUserId value := by
  have hmono : NamesResolve config.subGraph store none →
      NamesResolve config.subGraph store resources.runningUserId := fun h => h.forUser _
  unfold VerdictsAgree NoOccasion preCheck revalidate
  cases hentry : findEntryNodeId config.subGraph with
  | error raised =>
      rw [validate_unmapped_iff, validate_unmapped_iff]
      constructor
      · intro h hformed hnames
        exact (h.2 ⟨hformed, hnames⟩).2
      · intro h
        exact ⟨nofun, fun haccepted => ⟨haccepted.1, h haccepted.1 haccepted.2⟩⟩
  | ok entryNodeId =>
      have hiteration : ∀ other, (Except.ok entryNodeId : Except Raised String) = .ok other ↔
          other = entryNodeId := by
        intro other
        rw [Except.ok.injEq, eq_comm]
      simp only [hiteration, forall_eq, validate_unmapped_iff,
        sub_graph_well_formed_iff hentry htext, iteration_well_formed_iff hentry htext,
        names_resolve_iteration]
      -- Now both sides speak of the same five facts.
      cases isText (configuredValue config.subGraph entryNodeId) <;>
        cases isText (some value) <;> simp only [Bool.false_eq_true, Bool.true_eq_false, and_true,
          and_false, false_and, true_and, or_false, false_or, iff_false] <;> tauto

end

/-! ### A private connection in a loop -/

/-- A model call through `my-anthropic` between a text input and a text output. -/
def askOnce : GraphSpec where
  version := "1.0"
  nodes := [
    { id := "start", type := "text_input", config := .ofList [("value", .str "")] },
    { id := "ask", type := "llm_call"
      config := .ofList [("connection", .str "my-anthropic"), ("model", .str "claude")] },
    { id := "end", type := "text_output" }]
  edges := [
    .data ⟨"start", "text", "ask", "prompt"⟩,
    .data ⟨"ask", "response", "end", "text"⟩]
  nodupIds := by decide

/-- One iteration of it. -/
def askOnceLoop : LoopConfig := ⟨askOnce, 1, none⟩

/-- The connection, global or somebody's own. -/
def myAnthropic (userId : Option String) : ConnectionProfile :=
  { name := "my-anthropic", type := "anthropic", userId }

set_option maxRecDepth 20000 in
/-- With a global connection the two validations agree. -/
theorem global_verdicts_agree :
    VerdictsAgree (processRegistry plainPython (fun _ _ => none) []) askOnceLoop
      [myAnthropic none] { runningUserId := some "runner" } (.str "hello") :=
  (verdicts_agree_iff (process_registry_text_input _ _ _)).mpr fun _ _ =>
    .inl ⟨by unfold NamesResolve; decide, rfl, rfl⟩

set_option maxRecDepth 20000 in
/-- With the runner's own connection they do not: the body rejects a sub-graph that the runner
may run by itself, and so in an iteration. -/
theorem private_verdicts_differ :
    ¬ VerdictsAgree (processRegistry plainPython (fun _ _ => none) []) askOnceLoop
      [myAnthropic (some "runner")] { runningUserId := some "runner" } (.str "hello") := by
  intro h
  have hrejected : preCheck (processRegistry plainPython (fun _ _ => none) []) askOnceLoop
      [myAnthropic (some "runner")] = .ok () := h.2 rfl
  cases hrejected

end AgentGraphStudio
