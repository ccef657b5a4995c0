import AgentGraphStudio.Nodes.Builtin
import AgentGraphStudio.Validation.Validator

/-!
# Exceptions of the validation

`validate_graph` with the exceptions that come through its rules. Reading a source text with
`ast.parse` ends with a tree or a `SyntaxError`, which `Python.astParse` tells, or with another
exception: a `UnicodeEncodeError` for a lone surrogate, a `RecursionError` or a `MemoryError` for
a source that is nested too deeply. Which one is a parameter, `astRaises`, and the strings of the
model stand for all strings of Python, since no rule looks into one. There is memory enough for
everything else, and the discovery of an `mcp_call` fails with a `McpConnectionError` only.
-/

namespace AgentGraphStudio

/-! ## Exceptions -/

/-- An exception of `ast.parse` other than `SyntaxError`: a `ValueError` or none. -/
inductive AstException where
  | valueError (e : String)
  | other (e : String)

/-- Is the exception a `ValueError`? -/
def AstException.isValueError : AstException → Bool
  | .valueError _ => true
  | .other _ => false

/-- An exception within the validation: that of a configuration model, that of `_parse_function`,
or one of `ast.parse`. -/
inductive PyException where
  | validationError (e : String)
  | codeSourceError (e : String)
  | ast (e : AstException)

namespace Raising

section

variable (python : Python) (astRaises : String → Option AstException)

/-! ## The `code` node -/

/-- Read the function of a source text (`_parse_function`). -/
def parseFunction (source : String) : Except PyException FunctionSignature :=
  match astRaises source with
  | some e => .error (.ast e)
  | none => (AgentGraphStudio.parseFunction python source).mapError .codeSourceError

/-- The slots of a `code` node (`_resolve_code_slots`). Only a `CodeSourceError` is caught. -/
def resolveCodeSlots (node : NodeSpec) :
    Except PyException (Option (List InputSlotSpec × List OutputSlotSpec)) :=
  match (node.config.get? "function_source").bind Json.str? with
  | none => .ok none
  | some source =>
    match parseFunction python astRaises source with
    | .error (.codeSourceError _) => .ok none
    | .error e => .error e
    | .ok signature =>
      .ok (some (signature.paramNames.map fun name =>
        ⟨name, TEXT, name ∉ signature.optionalNames⟩, [⟨"result", TEXT⟩]))

/-- Validate the configuration of a `code` node. The exceptions of a validator that are
`ValueError`s become validation errors. -/
def codeConfigModel (config : Config) : Except PyException Unit :=
  match config.required "function_source" Json.str? with
  | .error e => .error (.validationError e)
  | .ok source =>
    match parseFunction python astRaises source with
    | .ok _ => .ok ()
    | .error (.ast (.other e)) => .error (.ast (.other e))
    | .error (.ast (.valueError e)) | .error (.codeSourceError e) | .error (.validationError e) =>
      .error (.validationError e)

/-! ## Node types -/

/-- Resolve the slots of a node. The resolvers of `fan_out` and `merge` catch every exception of
their configuration models, that of `mcp_call` also the failure of a discovery, and those of the
Telegram types meet none. -/
def resolveSlots (definition : NodeDefinition Body) (resolve : ResolveSlots) (node : NodeSpec) :
    Except PyException (Option (List InputSlotSpec × List OutputSlotSpec)) :=
  match definition.execute with
  | .code => resolveCodeSlots python astRaises node
  | _ => .ok (resolve node)

/-- Validate a configuration against the model of a type. -/
def configModel (definition : NodeDefinition Body) (config : Config) : Except PyException Unit :=
  match definition.execute with
  | .code => codeConfigModel python astRaises config
  | _ => (definition.configModel config).mapError .validationError

def effectiveInputs (definition : NodeDefinition Body) (node : NodeSpec) :
    Except PyException (Option (List InputSlotSpec)) :=
  match definition.resolveSlots with
  | none => .ok (some definition.inputs)
  | some resolve => do
    let resolved ← resolveSlots python astRaises definition resolve node
    pure (resolved.map Prod.fst)

def effectiveOutputs (definition : NodeDefinition Body) (node : NodeSpec) :
    Except PyException (Option (List OutputSlotSpec)) :=
  match definition.resolveSlots with
  | none => .ok (some definition.outputs)
  | some resolve => do
    let resolved ← resolveSlots python astRaises definition resolve node
    pure (resolved.map Prod.snd)

/-! ## Rules -/

/-- The output slots of a node, or of the sub-node that it mirrors. -/
def effectiveOutputsForRoot (definition : NodeDefinition Body) (node : NodeSpec)
    (graph : GraphSpec) (registry : NodeRegistry Body) :
    Except PyException (Option (List OutputSlotSpec)) :=
  match definition.resolveSlotsFromSubNode with
  | none => effectiveOutputs python astRaises definition node
  | some slot =>
    match graph.subNodeEdges.find? fun edge => edge.toNode = node.id ∧ edge.slot = slot with
    | none => .ok (some [])
    | some subEdge =>
      match graph.node? subEdge.fromNode with
      | none => .ok (some [])
      | some subNode =>
        match registry.get subNode.type with
        | none => .ok (some [])
        | some subDefinition => effectiveOutputs python astRaises subDefinition subNode

/-- The missing inputs of one node. -/
def missingInputs (covered : List (String × String)) (node : NodeSpec)
    (inputs : List InputSlotSpec) : List ValidationIssue :=
  (inputs.filter fun slot => slot.required ∧
    (¬ covered.any fun target => target = (node.id, slot.name)) ∧
    slot.name ∉ node.inputValues.keys).map fun slot =>
      ⟨"missing_required_input", some node.id,
        s!"required input slot '{slot.name}' has no incoming edge"⟩

/-- Every required input slot has an incoming edge or a literal value. -/
def checkRequiredInputs (graph : GraphSpec) (registry : NodeRegistry Body)
    (validEdges : List DataEdge) (unregisteredIds subNodeIds : List String) :
    Except PyException (List ValidationIssue) :=
  let covered := validEdges.map fun edge => (edge.toNode, edge.toSlot)
  List.flatten <$> graph.nodes.mapM fun node =>
    if node.id ∈ unregisteredIds ∨ node.id ∈ subNodeIds then pure []
    else
      match registry.get node.type with
      | none => pure []
      | some definition => do
        let inputs ← effectiveInputs python astRaises definition node
        pure ((inputs.map (missingInputs covered node)).getD [])

/-- The type mismatch of one data edge. The slots of both ends are resolved first. -/
def edgeTypeMismatch (graph : GraphSpec) (registry : NodeRegistry Body) (edge : DataEdge)
    (srcNode dstNode : NodeSpec) (srcDef dstDef : NodeDefinition Body) :
    Except PyException (List ValidationIssue) := do
  let _ ← effectiveOutputsForRoot python astRaises srcDef srcNode graph registry
  let _ ← effectiveInputs python astRaises dstDef dstNode
  pure (AgentGraphStudio.edgeTypeMismatch graph registry edge srcNode dstNode srcDef dstDef)

/-- The type mismatch of one data edge, if its nodes have registered types. -/
def checkDataEdge (graph : GraphSpec) (registry : NodeRegistry Body)
    (unregisteredIds : List String) (edge : DataEdge) :
    Except PyException (List ValidationIssue) :=
  match graph.node? edge.fromNode, graph.node? edge.toNode with
  | some srcNode, some dstNode =>
    if srcNode.id ∈ unregisteredIds ∨ dstNode.id ∈ unregisteredIds then pure []
    else
      match registry.get srcNode.type, registry.get dstNode.type with
      | some srcDef, some dstDef =>
        edgeTypeMismatch python astRaises graph registry edge srcNode dstNode srcDef dstDef
      | _, _ => pure []
  | _, _ => pure []

/-- Data edges connect existing slots of compatible types. -/
def checkTypeMismatches (graph : GraphSpec) (registry : NodeRegistry Body)
    (validEdges : List DataEdge) (unregisteredIds : List String) :
    Except PyException (List ValidationIssue) :=
  List.flatten <$> validEdges.mapM (checkDataEdge python astRaises graph registry unregisteredIds)

/-- Every node's configuration validates against its type's model. -/
def checkConfigSchema (graph : GraphSpec) (registry : NodeRegistry Body)
    (unregisteredIds : List String) : Except PyException (List ValidationIssue) :=
  List.flatten <$> graph.nodes.mapM fun node =>
    if node.id ∈ unregisteredIds then pure []
    else
      match registry.get node.type with
      | none => pure []
      | some definition =>
        match configModel python astRaises definition node.config with
        | .ok () => pure []
        | .error (.validationError message) => pure [⟨"invalid_config", some node.id, message⟩]
        | .error e => .error e

/-- Validate a graph for a caller. -/
def validateGraph (graph : GraphSpec) (registry : NodeRegistry Body) (store : ConnectionStore)
    (userId : Option String) (slotMappings : Dict String String) :
    Except PyException (Except (List ValidationIssue) Unit) := do
  let structural := checkStructural graph
  let unregistered := checkUnregisteredTypes graph registry
  let subNodeIds := subNodeReferencedIds graph
  let requiredInputs ← checkRequiredInputs python astRaises graph registry structural.2
    unregistered.2 subNodeIds
  let typeMismatches ← checkTypeMismatches python astRaises graph registry structural.2
    unregistered.2
  let configSchema ← checkConfigSchema python astRaises graph registry unregistered.2
  let issues := structural.1 ++ unregistered.1 ++ requiredInputs ++ typeMismatches ++
    checkCycles graph structural.2 ++ configSchema ++
    checkMissingConnections graph store userId slotMappings ++
    checkSubNodeEdges graph registry unregistered.2
  pure (if issues.isEmpty then .ok () else .error issues)

end

/-! ## Lists of checks -/

section

variable {ε α β : Type} {f : α → Except ε (List β)} {items : List α}

/-- What comes before a part that raises in any case or in none does not matter. -/
theorem bind_raises_iff {γ δ : Type} {first : Except ε γ} {rest : γ → Except ε δ} {raises : Prop}
    (h : ∀ value, (∃ e, rest value = .error e) ↔ raises) :
    (∃ e, first >>= rest = .error e) ↔ (∃ e, first = .error e) ∨ raises := by
  cases first with
  | error e => exact ⟨fun _ => .inl ⟨e, rfl⟩, fun _ => ⟨e, rfl⟩⟩
  | ok value =>
      refine (h value).trans ⟨.inr, fun hraises => hraises.resolve_left ?_⟩
      rintro ⟨_, ⟨⟩⟩

/-- A value that is computed from the result of a part raises if the part does. -/
theorem map_raises_iff {γ δ : Type} {first : Except ε γ} {g : γ → δ} :
    (∃ e, g <$> first = .error e) ↔ ∃ e, first = .error e := by
  cases first with
  | error e => exact ⟨fun _ => ⟨e, rfl⟩, fun _ => ⟨e, rfl⟩⟩
  | ok value =>
      constructor
      all_goals
        rintro ⟨_, h⟩
        cases h

/-- A list of checks raises if one of them does. -/
theorem mapM_raises_iff :
    (∃ e, items.mapM f = .error e) ↔ ∃ item ∈ items, ∃ e, f item = .error e := by
  induction items with
  | nil =>
      constructor
      · rintro ⟨_, h⟩
        cases h
      · rintro ⟨_, h, _⟩
        cases h
  | cons item items ih =>
      have hrest : ∀ value, (∃ e, (do pure (value :: (← items.mapM f))) = Except.error e) ↔
          ∃ item ∈ items, ∃ e, f item = .error e := fun value =>
        map_raises_iff.trans ih
      rw [List.mapM_cons, bind_raises_iff hrest, List.exists_mem_cons_iff]

/-- A rule that checks one item after the other raises if the check of one does. -/
theorem flatten_mapM_raises_iff :
    (∃ e, List.flatten <$> items.mapM f = .error e) ↔ ∃ item ∈ items, ∃ e, f item = .error e :=
  map_raises_iff.trans mapM_raises_iff

/-- A rule whose checks do not raise collects their issues. -/
theorem flatten_mapM_of_ok {g : α → List β} (h : ∀ item ∈ items, f item = .ok (g item)) :
    List.flatten <$> items.mapM f = .ok (items.flatMap g) := by
  have hmap : items.mapM f = .ok (items.map g) := by
    induction items with
    | nil => rfl
    | cons item items ih =>
        rw [List.mapM_cons, h item List.mem_cons_self,
          ih fun other hother => h other (List.mem_cons_of_mem _ hother)]
        rfl
  rw [hmap]
  rfl

end

/-! ## Reading a node's source -/

/-- The `code` type is registered under its name, and its body under no other. -/
structure CodeRegistered (python : Python) (registry : NodeRegistry Body) : Prop where
  code : registry.get "code" = some (codeDefinition python)
  others : ∀ name definition, registry.get name = some definition → name ≠ "code" →
    definition.execute ≠ .code

/-- What the reading of a node's source raises, if it is a `code` node with a source text. -/
def sourceRaises (astRaises : String → Option AstException) (node : NodeSpec) :
    Option AstException :=
  if node.type = "code" then
    ((node.config.get? "function_source").bind Json.str?).bind astRaises
  else none

/-- A value, if nothing is raised before. -/
def unlessRaised {α : Type} (raised : Option AstException) (value : α) : Except PyException α :=
  match raised with
  | none => .ok value
  | some e => .error (.ast e)

theorem unless_raised_raises_iff {α : Type} {raised : Option AstException} {value : α} :
    (∃ e, unlessRaised raised value = .error e) ↔ ∃ e, raised = some e := by
  cases raised with
  | none =>
      constructor
      all_goals
        rintro ⟨_, h⟩
        cases h
  | some e => exact ⟨fun _ => ⟨e, rfl⟩, fun _ => ⟨_, rfl⟩⟩

section

variable {python : Python} {astRaises : String → Option AstException}
  {registry : NodeRegistry Body} {node : NodeSpec} {definition : NodeDefinition Body}

/-- The process registers the `code` type, whatever tools it found. -/
theorem process_registry_code (listedTools : String → List String → Option (List McpToolInfo))
    (bindings : List GeneratedBinding) :
    CodeRegistered python (processRegistry python listedTools bindings) where
  code := by
    rw [processRegistry, NodeRegistry.get_ofList, List.find?_append]
    rfl
  others name definition hget hname hcode := by
    obtain ⟨htype, hbuiltin | ⟨_, _, rfl⟩⟩ := process_registry_cases hget
    · have hdefinition := (builtin_bodies definition hbuiltin).2.2 hcode
      subst hdefinition
      exact hname htype.symm
    · cases hcode

/-- The source of a node with a static type is not read. -/
theorem source_raises_of_static (hregistry : CodeRegistered python registry)
    (hdef : registry.get node.type = some definition) (h : definition.resolveSlots = none) :
    sourceRaises astRaises node = none := by
  refine if_neg fun htype => ?_
  rw [htype, hregistry.code] at hdef
  cases hdef
  cases h

/-- The slots of a `code` node are those of its source, unless reading it raises. -/
theorem resolve_code_slots_eq (htype : node.type = "code") :
    resolveCodeSlots python astRaises node =
      unlessRaised (sourceRaises astRaises node) (codeSlots python node) := by
  rw [resolveCodeSlots, sourceRaises, if_pos htype, codeSlots]
  cases (node.config.get? "function_source").bind Json.str? with
  | none => rfl
  | some source =>
      simp only [Option.bind_some, parseFunction]
      cases astRaises source with
      | some e => rfl
      | none => cases AgentGraphStudio.parseFunction python source <;> rfl

/-- A resolver raises what the reading of the node's source does. -/
theorem resolve_slots_eq (hregistry : CodeRegistered python registry)
    (hdef : registry.get node.type = some definition) {resolve : ResolveSlots}
    (h : definition.resolveSlots = some resolve) :
    resolveSlots python astRaises definition resolve node =
      unlessRaised (sourceRaises astRaises node) (resolve node) := by
  by_cases htype : node.type = "code"
  · rw [htype, hregistry.code] at hdef
    cases hdef
    cases h
    exact resolve_code_slots_eq htype
  · have hcode := hregistry.others _ _ hdef htype
    rw [resolveSlots, sourceRaises, if_neg htype]
    cases hexecute : definition.execute with
    | code => exact absurd hexecute hcode
    | _ => rfl

theorem effective_inputs_eq (hregistry : CodeRegistered python registry)
    (hdef : registry.get node.type = some definition) :
    effectiveInputs python astRaises definition node =
      unlessRaised (sourceRaises astRaises node)
        (AgentGraphStudio.effectiveInputs definition node) := by
  rw [effectiveInputs, AgentGraphStudio.effectiveInputs]
  cases h : definition.resolveSlots with
  | none =>
      rw [source_raises_of_static hregistry hdef h]
      rfl
  | some resolve =>
      dsimp only
      rw [resolve_slots_eq hregistry hdef h]
      cases sourceRaises astRaises node <;> rfl

theorem effective_outputs_eq (hregistry : CodeRegistered python registry)
    (hdef : registry.get node.type = some definition) :
    effectiveOutputs python astRaises definition node =
      unlessRaised (sourceRaises astRaises node)
        (AgentGraphStudio.effectiveOutputs definition node) := by
  rw [effectiveOutputs, AgentGraphStudio.effectiveOutputs]
  cases h : definition.resolveSlots with
  | none =>
      rw [source_raises_of_static hregistry hdef h]
      rfl
  | some resolve =>
      dsimp only
      rw [resolve_slots_eq hregistry hdef h]
      cases sourceRaises astRaises node <;> rfl

/-- The model of the `code` type fails on a source text exactly as its reading does. -/
theorem code_config_model_eq (config : Config) :
    codeConfigModel python astRaises config =
      match ((config.get? "function_source").bind Json.str?).bind astRaises with
      | none => (readable (parseCodeConfig python) config).mapError .validationError
      | some (.valueError e) => .error (.validationError e)
      | some (.other e) => .error (.ast (.other e)) := by
  rw [codeConfigModel, readable, parseCodeConfig, Config.required]
  cases config.get? "function_source" with
  | none => rfl
  | some json =>
      dsimp only [Option.bind_some]
      cases json.str? with
      | none => rfl
      | some source =>
          simp only [Option.bind_some, parseFunction]
          cases astRaises source with
          | some e => cases e <;> rfl
          | none =>
              simp only [bind, Except.bind]
              cases AgentGraphStudio.parseFunction python source <;> rfl

/-- A configuration model turns a `ValueError` into a validation error. Other exceptions come
through. -/
theorem config_model_eq (hregistry : CodeRegistered python registry)
    (hdef : registry.get node.type = some definition) :
    configModel python astRaises definition node.config =
      match sourceRaises astRaises node with
      | none => (definition.configModel node.config).mapError .validationError
      | some (.valueError e) => .error (.validationError e)
      | some (.other e) => .error (.ast (.other e)) := by
  by_cases htype : node.type = "code"
  · rw [htype, hregistry.code] at hdef
    cases hdef
    rw [sourceRaises, if_pos htype]
    exact code_config_model_eq node.config
  · have hcode := hregistry.others _ _ hdef htype
    rw [configModel, sourceRaises, if_neg htype]
    cases hexecute : definition.execute with
    | code => exact absurd hexecute hcode
    | _ => rfl

end

/-! ## The nodes whose sources the rules read -/

/-- The definition of the node with an id. -/
def definition? (graph : GraphSpec) (registry : NodeRegistry Body) (id : String) :
    Option (NodeDefinition Body) :=
  (graph.node? id).bind fun node => registry.get node.type

/-- The node whose slots are the outputs of a node: the sub-node that it mirrors, or itself. -/
def outputsFrom (graph : GraphSpec) (definition : NodeDefinition Body) (id : String) :
    Option String :=
  match definition.resolveSlotsFromSubNode with
  | none => some id
  | some slot =>
    (graph.subNodeEdges.find? fun edge => edge.toNode = id ∧ edge.slot = slot).map
      SubNodeEdge.fromNode

/-- The slots of a node are read to find its required inputs, unless it is a sub-node, and for
every data edge between registered nodes that enters it or takes its outputs. -/
def SlotsRead (graph : GraphSpec) (registry : NodeRegistry Body) (id : String) : Prop :=
  id ∉ subNodeReferencedIds graph ∨
    ∃ edge ∈ graph.dataEdges, ∃ source target,
      definition? graph registry edge.fromNode = some source ∧
      definition? graph registry edge.toNode = some target ∧
      (outputsFrom graph source edge.fromNode = some id ∨ edge.toNode = id)

/-- The validation raises at a `code` node whose source cannot be read, unless the exception is
a `ValueError` and no rule reads the node's slots. -/
def RaisesAt (astRaises : String → Option AstException) (graph : GraphSpec)
    (registry : NodeRegistry Body) (node : NodeSpec) : Prop :=
  ∃ e, sourceRaises astRaises node = some e ∧
    (e.isValueError = false ∨ SlotsRead graph registry node.id)

section

variable {python : Python} {astRaises : String → Option AstException} {graph : GraphSpec}
  {registry : NodeRegistry Body}

/-- A node whose source cannot be read is a registered one. -/
theorem registered_of_raises (hregistry : CodeRegistered python registry) {node : NodeSpec}
    {e : AstException} (h : sourceRaises astRaises node = some e) :
    registry.get node.type = some (codeDefinition python) := by
  rw [sourceRaises] at h
  split at h
  · rename_i htype
    rw [htype, hregistry.code]
  · cases h

/-- The nodes without a registered type, by their ids. -/
theorem mem_unregistered_iff {node : NodeSpec} (hnode : node ∈ graph.nodes) :
    node.id ∈ (checkUnregisteredTypes graph registry).2 ↔ registry.get node.type = none := by
  simp only [checkUnregisteredTypes, List.mem_map, List.mem_filter, Option.isNone_iff_eq_none]
  constructor
  · rintro ⟨other, ⟨hother, hnone⟩, hid⟩
    have hfound := GraphSpec.node?_of_mem hother
    rw [hid, GraphSpec.node?_of_mem hnode] at hfound
    cases hfound
    exact hnone
  · exact fun hnone => ⟨node, ⟨hnode, hnone⟩, rfl⟩

/-- The data edges that the rules look at connect nodes of the graph. -/
theorem mem_valid_edges_iff {edge : DataEdge} :
    edge ∈ (checkStructural graph).2 ↔ edge ∈ graph.dataEdges ∧
      edge.fromNode ∈ graph.nodes.map NodeSpec.id ∧ edge.toNode ∈ graph.nodes.map NodeSpec.id := by
  rw [GraphSpec.mem_dataEdges, checkStructural]
  constructor
  · intro h
    obtain ⟨other, hmem, hother⟩ := List.mem_filterMap.mp h
    split at hother
    · rename_i hproblems
      cases other with
      | subNode edge => cases hother
      | data edge =>
          cases hother
          exact ⟨hmem, edge_problems_eq_nil_iff.mp hproblems⟩
    · cases hother
  · rintro ⟨hmem, hnodes⟩
    exact List.mem_filterMap.mpr ⟨.data edge, hmem, if_pos (edge_problems_eq_nil_iff.mpr hnodes)⟩

/-! ## The exceptions of the rules -/

/-- The rule on required inputs reads every node that is no sub-node. -/
theorem check_required_inputs_raises_iff (hregistry : CodeRegistered python registry)
    {validEdges : List DataEdge} :
    (∃ e, checkRequiredInputs python astRaises graph registry validEdges
      (checkUnregisteredTypes graph registry).2 (subNodeReferencedIds graph) = .error e) ↔
      ∃ node ∈ graph.nodes, (∃ e, sourceRaises astRaises node = some e) ∧
        node.id ∉ subNodeReferencedIds graph := by
  rw [checkRequiredInputs, flatten_mapM_raises_iff]
  refine exists_congr fun node => and_congr_right fun hnode => ?_
  by_cases hskip : node.id ∈ (checkUnregisteredTypes graph registry).2 ∨
      node.id ∈ subNodeReferencedIds graph
  · rw [if_pos hskip]
    constructor
    · rintro ⟨_, h⟩
      cases h
    · rintro ⟨⟨e, he⟩, hsub⟩
      have hnone := (mem_unregistered_iff hnode).mp (hskip.resolve_right hsub)
      rw [registered_of_raises hregistry he] at hnone
      cases hnone
  · rw [if_neg hskip]
    obtain ⟨hunregistered, hsub⟩ := not_or.mp hskip
    rw [mem_unregistered_iff hnode] at hunregistered
    obtain ⟨definition, hdef⟩ := Option.ne_none_iff_exists'.mp hunregistered
    rw [hdef]
    dsimp only
    rw [show (do
        let inputs ← effectiveInputs python astRaises definition node
        pure ((inputs.map (missingInputs (validEdges.map fun edge => (edge.toNode, edge.toSlot))
          node)).getD [])) = _ <$> effectiveInputs python astRaises definition node from rfl,
      map_raises_iff, effective_inputs_eq hregistry hdef, unless_raised_raises_iff]
    exact (and_iff_left hsub).symm

/-- The outputs of a root that mirrors a sub-node are read at that sub-node. -/
theorem effective_outputs_for_root_raises_iff (hregistry : CodeRegistered python registry)
    {node : NodeSpec} (hnode : node ∈ graph.nodes) {definition : NodeDefinition Body}
    (hdef : registry.get node.type = some definition) :
    (∃ e, effectiveOutputsForRoot python astRaises definition node graph registry = .error e) ↔
      ∃ other ∈ graph.nodes, (∃ e, sourceRaises astRaises other = some e) ∧
        outputsFrom graph definition node.id = some other.id := by
  rw [effectiveOutputsForRoot, outputsFrom]
  -- Without such a slot the outputs are read at the root itself.
  cases definition.resolveSlotsFromSubNode with
  | none =>
      dsimp only
      rw [effective_outputs_eq hregistry hdef, unless_raised_raises_iff]
      constructor
      · exact fun h => ⟨node, hnode, h, rfl⟩
      · rintro ⟨other, hother, h, hid⟩
        have hfound := GraphSpec.node?_of_mem hother
        rw [← Option.some.inj hid, GraphSpec.node?_of_mem hnode] at hfound
        exact Option.some.inj hfound ▸ h
  | some slot =>
      dsimp only
      cases graph.subNodeEdges.find? fun edge => edge.toNode = node.id ∧ edge.slot = slot with
      | none =>
          constructor
          · rintro ⟨_, h⟩
            cases h
          · rintro ⟨_, _, _, h⟩
            cases h
      | some subEdge =>
          dsimp only [Option.map_some]
          cases hsub : graph.node? subEdge.fromNode with
          | none =>
              constructor
              · rintro ⟨_, h⟩
                cases h
              · rintro ⟨other, hother, _, hid⟩
                rw [Option.some.inj hid, GraphSpec.node?_of_mem hother] at hsub
                cases hsub
          | some subNode =>
              -- Ids are unique, so the sub-node at the edge is the one that is read.
              have hread : (∃ other ∈ graph.nodes, (∃ e, sourceRaises astRaises other = some e) ∧
                  some subEdge.fromNode = some other.id) ↔
                    ∃ e, sourceRaises astRaises subNode = some e := by
                obtain ⟨hmem, hid⟩ := GraphSpec.mem_of_node? hsub
                constructor
                · rintro ⟨other, hother, h, hotherId⟩
                  rw [Option.some.inj hotherId, GraphSpec.node?_of_mem hother] at hsub
                  exact Option.some.inj hsub ▸ h
                · exact fun h => ⟨subNode, hmem, h, hid ▸ rfl⟩
              rw [hread]
              dsimp only
              cases hsubDef : registry.get subNode.type with
              | none =>
                  constructor
                  · rintro ⟨_, h⟩
                    cases h
                  · rintro ⟨e, he⟩
                    rw [registered_of_raises hregistry he] at hsubDef
                    cases hsubDef
              | some subDefinition =>
                  dsimp only
                  rw [effective_outputs_eq hregistry hsubDef, unless_raised_raises_iff]

/-- The check of a data edge reads the sources of its ends. -/
theorem edge_type_mismatch_raises_iff (hregistry : CodeRegistered python registry)
    {edge : DataEdge} {source target : NodeSpec} (hsource : source ∈ graph.nodes)
    (htarget : target ∈ graph.nodes) {srcDef dstDef : NodeDefinition Body}
    (hsrc : registry.get source.type = some srcDef)
    (hdst : registry.get target.type = some dstDef) :
    (∃ e, edgeTypeMismatch python astRaises graph registry edge source target srcDef dstDef =
      .error e) ↔
      ∃ node ∈ graph.nodes, (∃ e, sourceRaises astRaises node = some e) ∧
        (outputsFrom graph srcDef source.id = some node.id ∨ target.id = node.id) := by
  have hinputs : (∃ e, effectiveInputs python astRaises dstDef target = .error e) ↔
      ∃ node ∈ graph.nodes, (∃ e, sourceRaises astRaises node = some e) ∧ target.id = node.id := by
    rw [effective_inputs_eq hregistry hdst, unless_raised_raises_iff]
    constructor
    · exact fun h => ⟨target, htarget, h, rfl⟩
    · rintro ⟨node, hnode, h, hid⟩
      have hfound := GraphSpec.node?_of_mem hnode
      rw [← hid, GraphSpec.node?_of_mem htarget] at hfound
      exact Option.some.inj hfound ▸ h
  have hrest : ∀ outputs : Option (List OutputSlotSpec), (∃ e, (do
      let _ ← effectiveInputs python astRaises dstDef target
      pure (AgentGraphStudio.edgeTypeMismatch graph registry edge source target srcDef dstDef)) =
        Except.error e) ↔
      ∃ node ∈ graph.nodes, (∃ e, sourceRaises astRaises node = some e) ∧ target.id = node.id :=
    fun _ => map_raises_iff.trans hinputs
  rw [edgeTypeMismatch, bind_raises_iff hrest,
    effective_outputs_for_root_raises_iff hregistry hsource hsrc]
  simp only [and_or_left, exists_or]

/-- A data edge is looked at if its ends are nodes of registered types. -/
theorem check_data_edge_raises_iff (hregistry : CodeRegistered python registry) {edge : DataEdge} :
    (∃ e, checkDataEdge python astRaises graph registry (checkUnregisteredTypes graph registry).2
      edge = .error e) ↔
      ∃ source target, definition? graph registry edge.fromNode = some source ∧
        definition? graph registry edge.toNode = some target ∧
        ∃ node ∈ graph.nodes, (∃ e, sourceRaises astRaises node = some e) ∧
          (outputsFrom graph source edge.fromNode = some node.id ∨ edge.toNode = node.id) := by
  rw [checkDataEdge, definition?, definition?]
  -- An edge with an unknown end or an unregistered type is passed over.
  cases hsource : graph.node? edge.fromNode with
  | none =>
      constructor
      · rintro ⟨_, h⟩
        cases h
      · rintro ⟨_, _, h, _⟩
        cases h
  | some source =>
      cases htarget : graph.node? edge.toNode with
      | none =>
          constructor
          · rintro ⟨_, h⟩
            cases h
          · rintro ⟨_, _, _, h, _⟩
            cases h
      | some target =>
          obtain ⟨hsourceMem, hsourceId⟩ := GraphSpec.mem_of_node? hsource
          obtain ⟨htargetMem, htargetId⟩ := GraphSpec.mem_of_node? htarget
          dsimp only [Option.bind_some]
          rw [← hsourceId, ← htargetId]
          cases hsrc : registry.get source.type with
          | none =>
              rw [if_pos (.inl ((mem_unregistered_iff hsourceMem).mpr hsrc))]
              constructor
              · rintro ⟨_, h⟩
                cases h
              · rintro ⟨_, _, h, _⟩
                cases h
          | some srcDef =>
              cases hdst : registry.get target.type with
              | none =>
                  rw [if_pos (.inr ((mem_unregistered_iff htargetMem).mpr hdst))]
                  constructor
                  · rintro ⟨_, h⟩
                    cases h
                  · rintro ⟨_, _, _, h, _⟩
                    cases h
              | some dstDef =>
                  rw [if_neg (by simp [mem_unregistered_iff, hsourceMem, htargetMem, hsrc, hdst])]
                  refine (edge_type_mismatch_raises_iff hregistry hsourceMem htargetMem hsrc
                    hdst).trans ⟨fun h => ⟨_, _, rfl, rfl, h⟩, ?_⟩
                  rintro ⟨_, _, ⟨⟩, ⟨⟩, h⟩
                  exact h

/-- The rule on slot types reads both ends of every data edge between registered nodes. -/
theorem check_type_mismatches_raises_iff (hregistry : CodeRegistered python registry) :
    (∃ e, checkTypeMismatches python astRaises graph registry (checkStructural graph).2
      (checkUnregisteredTypes graph registry).2 = .error e) ↔
      ∃ edge ∈ graph.dataEdges, ∃ source target,
        definition? graph registry edge.fromNode = some source ∧
        definition? graph registry edge.toNode = some target ∧
        ∃ node ∈ graph.nodes, (∃ e, sourceRaises astRaises node = some e) ∧
          (outputsFrom graph source edge.fromNode = some node.id ∨ edge.toNode = node.id) := by
  rw [checkTypeMismatches, flatten_mapM_raises_iff]
  refine exists_congr fun edge => ?_
  rw [check_data_edge_raises_iff hregistry, mem_valid_edges_iff, and_assoc]
  refine and_congr_right fun _ => ⟨And.right, fun h => ⟨?_, h⟩⟩
  obtain ⟨source, target, hsource, htarget, _⟩ := h
  obtain ⟨srcNode, hsrcNode, _⟩ := Option.bind_eq_some_iff.mp hsource
  obtain ⟨dstNode, hdstNode, _⟩ := Option.bind_eq_some_iff.mp htarget
  exact ⟨GraphSpec.exists_node?_iff.mp ⟨srcNode, hsrcNode⟩,
    GraphSpec.exists_node?_iff.mp ⟨dstNode, hdstNode⟩⟩

/-- The rule on configurations lets through what is not a `ValueError`. -/
theorem check_config_schema_raises_iff (hregistry : CodeRegistered python registry) :
    (∃ e, checkConfigSchema python astRaises graph registry
      (checkUnregisteredTypes graph registry).2 = .error e) ↔
      ∃ node ∈ graph.nodes, ∃ e, sourceRaises astRaises node = some e ∧
        e.isValueError = false := by
  rw [checkConfigSchema, flatten_mapM_raises_iff]
  refine exists_congr fun node => and_congr_right fun hnode => ?_
  -- A node of an unregistered type is not looked at.
  cases hdef : registry.get node.type with
  | none =>
      rw [if_pos ((mem_unregistered_iff hnode).mpr hdef)]
      constructor
      · rintro ⟨_, h⟩
        cases h
      · rintro ⟨e, he, _⟩
        rw [registered_of_raises hregistry he] at hdef
        cases hdef
  | some definition =>
      rw [if_neg (by simp [mem_unregistered_iff, hnode, hdef])]
      dsimp only
      rw [config_model_eq hregistry hdef]
      cases sourceRaises astRaises node with
      | none =>
          cases definition.configModel node.config
          all_goals
            constructor
            · rintro ⟨_, h⟩
              cases h
            · rintro ⟨_, h, _⟩
              cases h
      | some e =>
          cases e with
          | valueError e =>
              constructor
              · rintro ⟨_, h⟩
                cases h
              · rintro ⟨_, ⟨⟩, h⟩
                cases h
          | other e => exact ⟨fun _ => ⟨_, rfl, rfl⟩, fun _ => ⟨_, rfl⟩⟩

/-- The validation raises exactly at a `code` node whose source cannot be read, unless the
exception is a `ValueError` and no rule reads the node's slots. -/
theorem validate_graph_raises_iff (hregistry : CodeRegistered python registry)
    {store : ConnectionStore} {userId : Option String} {slotMappings : Dict String String} :
    (∃ e, validateGraph python astRaises graph registry store userId slotMappings = .error e) ↔
      ∃ node ∈ graph.nodes, RaisesAt astRaises graph registry node := by
  have hrules : (∃ e, validateGraph python astRaises graph registry store userId slotMappings =
      .error e) ↔ _ :=
    bind_raises_iff fun _ => bind_raises_iff fun _ => map_raises_iff
  rw [hrules, check_required_inputs_raises_iff hregistry,
    check_type_mismatches_raises_iff hregistry, check_config_schema_raises_iff hregistry]
  constructor
  · rintro (⟨node, hnode, ⟨e, he⟩, hsub⟩ |
      ⟨edge, hedge, source, target, hsource, htarget, node, hnode, ⟨e, he⟩, hread⟩ |
      ⟨node, hnode, e, he, hother⟩)
    · exact ⟨node, hnode, e, he, .inr (.inl hsub)⟩
    · exact ⟨node, hnode, e, he, .inr (.inr ⟨edge, hedge, source, target, hsource, htarget, hread⟩)⟩
    · exact ⟨node, hnode, e, he, .inl hother⟩
  · rintro ⟨node, hnode, e, he, hother | hsub | ⟨edge, hedge, source, target, hsource, htarget,
      hread⟩⟩
    · exact .inr (.inr ⟨node, hnode, e, he, hother⟩)
    · exact .inl ⟨node, hnode, ⟨e, he⟩, hsub⟩
    · exact .inr (.inl
        ⟨edge, hedge, source, target, hsource, htarget, node, hnode, ⟨e, he⟩, hread⟩)

/-! ## Graphs whose sources can be read -/

section

variable (hregistry : CodeRegistered python registry)
  (hsources : ∀ node ∈ graph.nodes, sourceRaises astRaises node = none)

include hregistry hsources

theorem check_required_inputs_eq {validEdges : List DataEdge}
    {unregisteredIds subNodeIds : List String} :
    checkRequiredInputs python astRaises graph registry validEdges unregisteredIds subNodeIds =
      .ok (AgentGraphStudio.checkRequiredInputs graph registry validEdges unregisteredIds
        subNodeIds) := by
  refine flatten_mapM_of_ok fun node hnode => ?_
  by_cases hskip : node.id ∈ unregisteredIds ∨ node.id ∈ subNodeIds
  · rw [if_pos hskip, if_pos hskip]
    rfl
  · rw [if_neg hskip, if_neg hskip]
    cases hdef : registry.get node.type with
    | none => rfl
    | some definition =>
        dsimp only [Option.bind_some]
        rw [effective_inputs_eq hregistry hdef, hsources node hnode]
        cases AgentGraphStudio.effectiveInputs definition node with
        | none => rfl
        | some inputs =>
            show Except.ok (missingInputs _ node inputs) = _
            rw [missingInputs]
            simp only [List.any_eq_true, decide_eq_true_eq, exists_eq_right]

theorem effective_outputs_for_root_eq {node : NodeSpec} (hnode : node ∈ graph.nodes)
    {definition : NodeDefinition Body} (hdef : registry.get node.type = some definition) :
    effectiveOutputsForRoot python astRaises definition node graph registry =
      .ok (AgentGraphStudio.effectiveOutputsForRoot definition node graph registry) := by
  rw [effectiveOutputsForRoot, AgentGraphStudio.effectiveOutputsForRoot]
  cases definition.resolveSlotsFromSubNode with
  | none =>
      dsimp only
      rw [effective_outputs_eq hregistry hdef, hsources node hnode]
      rfl
  | some slot =>
      dsimp only
      cases graph.subNodeEdges.find? fun edge => edge.toNode = node.id ∧ edge.slot = slot with
      | none => rfl
      | some subEdge =>
          dsimp only
          cases hsub : graph.node? subEdge.fromNode with
          | none => rfl
          | some subNode =>
              dsimp only
              cases hsubDef : registry.get subNode.type with
              | none => rfl
              | some subDefinition =>
                  dsimp only
                  rw [effective_outputs_eq hregistry hsubDef,
                    hsources subNode (GraphSpec.mem_of_node? hsub).1]
                  rfl

theorem check_type_mismatches_eq {validEdges : List DataEdge} {unregisteredIds : List String} :
    checkTypeMismatches python astRaises graph registry validEdges unregisteredIds =
      .ok (AgentGraphStudio.checkTypeMismatches graph registry validEdges unregisteredIds) := by
  refine flatten_mapM_of_ok fun edge _ => ?_
  rw [checkDataEdge]
  cases hsource : graph.node? edge.fromNode with
  | none => rfl
  | some source =>
      cases htarget : graph.node? edge.toNode with
      | none => rfl
      | some target =>
          have hsourceMem := (GraphSpec.mem_of_node? hsource).1
          have htargetMem := (GraphSpec.mem_of_node? htarget).1
          dsimp only
          by_cases hskip : source.id ∈ unregisteredIds ∨ target.id ∈ unregisteredIds
          · rw [if_pos hskip, if_pos hskip]
            rfl
          · rw [if_neg hskip, if_neg hskip]
            cases hsrc : registry.get source.type with
            | none => rfl
            | some srcDef =>
                cases hdst : registry.get target.type with
                | none => rfl
                | some dstDef =>
                    dsimp only
                    rw [edgeTypeMismatch,
                      effective_outputs_for_root_eq hregistry hsources hsourceMem hsrc,
                      effective_inputs_eq hregistry hdst, hsources target htargetMem]
                    rfl

theorem check_config_schema_eq {unregisteredIds : List String} :
    checkConfigSchema python astRaises graph registry unregisteredIds =
      .ok (AgentGraphStudio.checkConfigSchema graph registry unregisteredIds) := by
  refine flatten_mapM_of_ok fun node hnode => ?_
  by_cases hskip : node.id ∈ unregisteredIds
  · rw [if_pos hskip, if_pos hskip]
    rfl
  · rw [if_neg hskip, if_neg hskip]
    cases hdef : registry.get node.type with
    | none => rfl
    | some definition =>
        dsimp only
        rw [config_model_eq hregistry hdef, hsources node hnode]
        cases definition.configModel node.config <;> rfl

/-- If every source can be read, the validation ends as `validateGraph` says. -/
theorem validate_graph_eq {store : ConnectionStore} {userId : Option String}
    {slotMappings : Dict String String} :
    validateGraph python astRaises graph registry store userId slotMappings =
      .ok (AgentGraphStudio.validateGraph graph registry store userId slotMappings) := by
  rw [validateGraph]
  dsimp only
  rw [check_required_inputs_eq hregistry hsources, check_type_mismatches_eq hregistry hsources,
    check_config_schema_eq hregistry hsources, AgentGraphStudio.validateGraph]
  show Except.ok (if (validationIssues graph registry store userId slotMappings).isEmpty then _
    else Except.error (validationIssues graph registry store userId slotMappings)) = _
  cases validationIssues graph registry store userId slotMappings <;> rfl

end

end

end Raising

end AgentGraphStudio
