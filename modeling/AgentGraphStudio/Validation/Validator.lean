import AgentGraphStudio.Validation.Rules

/-!
# Validating a graph

`backend/validation/validator.py`. `validateGraph` collects the issues of every rule. Its
verdict depends on the caller only through the connection rule: `validate_graph_ok_iff`
splits an acceptance into a caller-independent part, `WellFormed`, and the resolution of
every referenced name.
-/

namespace AgentGraphStudio

variable {Body : Type}

/-- The issues of every rule, in the order of the rules. -/
def validationIssues (graph : GraphSpec) (registry : NodeRegistry Body) (store : ConnectionStore)
    (userId : Option String) (slotMappings : Dict String String) : List ValidationIssue :=
  let structural := checkStructural graph
  let unregistered := checkUnregisteredTypes graph registry
  let subNodeIds := subNodeReferencedIds graph
  structural.1 ++ unregistered.1 ++
    checkRequiredInputs graph registry structural.2 unregistered.2 subNodeIds ++
    checkTypeMismatches graph registry structural.2 unregistered.2 ++
    checkCycles graph structural.2 ++
    checkConfigSchema graph registry unregistered.2 ++
    checkMissingConnections graph store userId slotMappings ++
    checkSubNodeEdges graph registry unregistered.2

/-- Validate a graph for a caller. A failure carries every issue found. -/
def validateGraph (graph : GraphSpec) (registry : NodeRegistry Body) (store : ConnectionStore)
    (userId : Option String) (slotMappings : Dict String String) :
    Except (List ValidationIssue) Unit :=
  match validationIssues graph registry store userId slotMappings with
  | [] => .ok ()
  | issues => .error issues

/-- One line of the failure's text. -/
def issueLine (issue : ValidationIssue) : String :=
  let place := match issue.nodeId with
    | none | some "" => "<graph>"
    | some nodeId => nodeId
  s!"  - [{issue.rule}] {place}: {issue.message}"

/-- The text of a validation failure (`str(GraphValidationError)`). -/
def graphValidationErrorText (issues : List ValidationIssue) : String :=
  s!"Graph validation failed with {issues.length} error(s):\n" ++
    "\n".intercalate (issues.map issueLine)

/-- The rules that do not look at connections. -/
structure WellFormed (graph : GraphSpec) (registry : NodeRegistry Body) : Prop where
  structural : (checkStructural graph).1 = []
  registered : (checkUnregisteredTypes graph registry).1 = []
  requiredInputs : checkRequiredInputs graph registry graph.dataEdges []
    (subNodeReferencedIds graph) = []
  typeMismatches : checkTypeMismatches graph registry graph.dataEdges [] = []
  cycles : checkCycles graph graph.dataEdges = []
  configSchema : checkConfigSchema graph registry [] = []
  subNodeEdges : checkSubNodeEdges graph registry [] = []

/-- A graph is accepted when it is well formed and every referenced connection resolves for
the caller. -/
theorem validate_graph_ok_iff {graph : GraphSpec} {registry : NodeRegistry Body}
    {store : ConnectionStore} {userId : Option String} {slotMappings : Dict String String} :
    validateGraph graph registry store userId slotMappings = .ok () ↔
      WellFormed graph registry ∧ ∀ name ∈ referencedConnectionNames graph,
        (resolveSlotAware store name userId slotMappings).isSome := by
  have hverdict : validateGraph graph registry store userId slotMappings = .ok () ↔
      validationIssues graph registry store userId slotMappings = [] := by
    rw [validateGraph]
    split <;> simp_all
  rw [← check_missing_connections_eq_nil_iff, hverdict]
  simp only [validationIssues, List.append_eq_nil_iff]
  constructor
  · rintro ⟨⟨⟨⟨⟨⟨⟨hstructural, hregistered⟩, hrequired⟩, htypes⟩, hcycles⟩, hconfig⟩,
      hconnections⟩, hsub⟩
    rw [valid_edges_eq hstructural] at hrequired htypes hcycles
    rw [unregistered_ids_eq_nil hregistered] at hrequired htypes hconfig hsub
    exact ⟨⟨hstructural, hregistered, hrequired, htypes, hcycles, hconfig, hsub⟩, hconnections⟩
  · rintro ⟨hformed, hconnections⟩
    rw [valid_edges_eq hformed.structural, unregistered_ids_eq_nil hformed.registered]
    exact ⟨⟨⟨⟨⟨⟨⟨hformed.structural, hformed.registered⟩, hformed.requiredInputs⟩,
      hformed.typeMismatches⟩, hformed.cycles⟩, hformed.configSchema⟩, hconnections⟩,
      hformed.subNodeEdges⟩

namespace WellFormed

variable {graph : GraphSpec} {registry : NodeRegistry Body}

/-- Every edge connects existing nodes. -/
theorem edge_nodes (h : WellFormed graph registry) {edge : EdgeSpec} (hedge : edge ∈ graph.edges) :
    edge.fromNode ∈ graph.nodes.map NodeSpec.id ∧ edge.toNode ∈ graph.nodes.map NodeSpec.id :=
  check_structural_eq_nil_iff.mp h.structural edge hedge

/-- Every node has a definition. -/
theorem definition (h : WellFormed graph registry) {node : NodeSpec} (hnode : node ∈ graph.nodes) :
    ∃ definition, registry.get node.type = some definition :=
  check_unregistered_types_eq_nil_iff.mp h.registered node hnode

/-- The position of an edge's source in the topological order is smaller than that of its
target, so the data edges form no cycle. -/
theorem idxOf_lt (h : WellFormed graph registry) {edge : DataEdge}
    (hedge : edge ∈ graph.dataEdges) :
    (kahnOrder (graph.nodes.map NodeSpec.id) graph.dataEdges).1.idxOf edge.fromNode <
      (kahnOrder (graph.nodes.map NodeSpec.id) graph.dataEdges).1.idxOf edge.toNode := by
  have hnodes := h.edge_nodes (GraphSpec.mem_dataEdges.mp hedge)
  exact acyclic_of_no_remaining graph.nodupIds (check_cycles_eq_nil_iff.mp h.cycles) edge
    (mem_knownEdges.mpr ⟨hedge, hnodes⟩)

end WellFormed

end AgentGraphStudio
