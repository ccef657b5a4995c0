import AgentGraphStudio.Validation.Exceptions

/-!
# The faults of a graph

What the rules of `backend/validation/rules.py` report, said of the graph: `Fault` has a constructor
for each kind of issue. A connection is a fault if it may be missing, since the store decides about
it. `validate_graph_reports_iff`: when the validation does not raise, the issues that it can report
are the faults.
-/

namespace AgentGraphStudio

namespace Raising

/-- A fault of a graph, with the issue that reports it. -/
inductive Fault (python : Python) (astRaises : String → Option AstException) (graph : GraphSpec)
    (registry : NodeRegistry Body) : ValidationIssue → Prop where
  | dangling {edge : EdgeSpec} {problem : String} (hedge : edge ∈ graph.edges)
      (hproblem : problem ∈ edgeProblems (graph.nodes.map NodeSpec.id) edge) :
      Fault python astRaises graph registry ⟨"structural", none, problem⟩
  | unregistered {node : NodeSpec} (hnode : node ∈ graph.nodes)
      (htype : registry.get node.type = none) :
      Fault python astRaises graph registry
        ⟨"unregistered_type", some node.id, s!"node type '{node.type}' is not registered"⟩
  | missingInput {node : NodeSpec} {definition : NodeDefinition Body}
      {inputs : List InputSlotSpec} {issue : ValidationIssue} (hnode : node ∈ graph.nodes)
      (hdef : registry.get node.type = some definition)
      (hsub : node.id ∉ subNodeReferencedIds graph)
      (hinputs : effectiveInputs python astRaises definition node = .ok (some inputs))
      (hmissing : issue ∈ missingInputs
        ((checkStructural graph).2.map fun edge => (edge.toNode, edge.toSlot)) node inputs) :
      Fault python astRaises graph registry issue
  | mismatch {edge : DataEdge} {source target : NodeSpec} {srcDef dstDef : NodeDefinition Body}
      {issue : ValidationIssue} (hedge : edge ∈ (checkStructural graph).2)
      (hsource : graph.node? edge.fromNode = some source)
      (htarget : graph.node? edge.toNode = some target)
      (hsrc : registry.get source.type = some srcDef)
      (hdst : registry.get target.type = some dstDef)
      (hissue : issue ∈
        AgentGraphStudio.edgeTypeMismatch graph registry edge source target srcDef dstDef) :
      Fault python astRaises graph registry issue
  | cycle {issue : ValidationIssue}
      (hissue : issue ∈ checkCycles graph (checkStructural graph).2) :
      Fault python astRaises graph registry issue
  | invalidConfig {node : NodeSpec} {definition : NodeDefinition Body} {message : String}
      (hnode : node ∈ graph.nodes) (hdef : registry.get node.type = some definition)
      (hconfig : configModel python astRaises definition node.config =
        .error (.validationError message)) :
      Fault python astRaises graph registry ⟨"invalid_config", some node.id, message⟩
  | connection {node : NodeSpec} {name : String} (hnode : node ∈ graph.nodes)
      (hname : name ∈ connectionReferenceNames node.config) :
      Fault python astRaises graph registry ⟨"missing_connection", some node.id,
        s!"references connection '{name}' which isn't configured on this machine"⟩
  | subNode {issue : ValidationIssue} (hissue : issue ∈
      checkSubNodeEdges graph registry (checkUnregisteredTypes graph registry).2) :
      Fault python astRaises graph registry issue

section

variable {python : Python} {astRaises : String → Option AstException} {graph : GraphSpec}
  {registry : NodeRegistry Body} {issue : ValidationIssue}

/-! ## What each rule reports -/

/-- A rule that checks one item after the other reports what the checks report. -/
theorem mem_flatten_mapM_iff {ε α β : Type} {f : α → Except ε (List β)} {items : List α}
    {result : List β} (h : List.flatten <$> items.mapM f = .ok result) {value : β} :
    value ∈ result ↔ ∃ item ∈ items, ∃ found, f item = .ok found ∧ value ∈ found := by
  obtain ⟨g, hg⟩ : ∃ g : α → List β, ∀ item ∈ items, f item = .ok (g item) := by
    refine ⟨fun item => ((f item).toOption).getD [], fun item hitem => ?_⟩
    cases hitemResult : f item with
    | ok found =>
        simp only [hitemResult]
        rfl
    | error e =>
        obtain ⟨_, herror⟩ := flatten_mapM_raises_iff.mpr ⟨item, hitem, e, hitemResult⟩
        cases h.symm.trans herror
  rw [flatten_mapM_of_ok hg] at h
  cases h
  rw [List.mem_flatMap]
  refine exists_congr fun item => and_congr_right fun hitem => ?_
  rw [hg item hitem]
  exact ⟨fun hvalue => ⟨_, rfl, hvalue⟩, fun ⟨_, hsame, hvalue⟩ => by cases hsame; exact hvalue⟩

theorem mem_check_structural_iff :
    issue ∈ (checkStructural graph).1 ↔ ∃ edge ∈ graph.edges,
      ∃ problem ∈ edgeProblems (graph.nodes.map NodeSpec.id) edge,
        ⟨"structural", none, problem⟩ = issue := by
  simp only [checkStructural, List.mem_flatMap, List.mem_map]

theorem mem_check_unregistered_types_iff :
    issue ∈ (checkUnregisteredTypes graph registry).1 ↔ ∃ node ∈ graph.nodes,
      registry.get node.type = none ∧
        ⟨"unregistered_type", some node.id, s!"node type '{node.type}' is not registered"⟩ =
          issue := by
  simp only [checkUnregisteredTypes, List.mem_map, List.mem_filter, Option.isNone_iff_eq_none,
    and_assoc]

/-- The missing inputs are those of the registered nodes that are no sub-nodes. -/
theorem mem_check_required_inputs_iff {issues : List ValidationIssue}
    (h : checkRequiredInputs python astRaises graph registry (checkStructural graph).2
      (checkUnregisteredTypes graph registry).2 (subNodeReferencedIds graph) = .ok issues) :
    issue ∈ issues ↔ ∃ node ∈ graph.nodes, ∃ definition inputs,
      registry.get node.type = some definition ∧ node.id ∉ subNodeReferencedIds graph ∧
      effectiveInputs python astRaises definition node = .ok (some inputs) ∧
      issue ∈ missingInputs
        ((checkStructural graph).2.map fun edge => (edge.toNode, edge.toSlot)) node inputs := by
  rw [mem_flatten_mapM_iff h]
  refine exists_congr fun node => and_congr_right fun hnode => ?_
  cases hdef : registry.get node.type with
  | none =>
      rw [if_pos (.inl ((mem_unregistered_iff hnode).mpr hdef))]
      simp [pure, Except.pure]
  | some definition =>
      by_cases hsub : node.id ∈ subNodeReferencedIds graph
      · rw [if_pos (.inr hsub)]
        simp [hsub, pure, Except.pure]
      · rw [if_neg (by simp [mem_unregistered_iff hnode, hdef, hsub])]
        dsimp only
        cases hinputs : effectiveInputs python astRaises definition node with
        | error e => simp [hsub, hinputs, bind, Except.bind]
        | ok inputs => cases inputs <;> simp [hsub, hinputs, bind, Except.bind, pure, Except.pure]

/-- The type mismatches are those of the data edges between registered nodes. -/
theorem mem_check_type_mismatches_iff {issues : List ValidationIssue}
    (h : checkTypeMismatches python astRaises graph registry (checkStructural graph).2
      (checkUnregisteredTypes graph registry).2 = .ok issues) :
    issue ∈ issues ↔ ∃ edge ∈ (checkStructural graph).2, ∃ source target srcDef dstDef,
      graph.node? edge.fromNode = some source ∧ graph.node? edge.toNode = some target ∧
      registry.get source.type = some srcDef ∧ registry.get target.type = some dstDef ∧
      issue ∈ AgentGraphStudio.edgeTypeMismatch graph registry edge source target srcDef
        dstDef := by
  rw [mem_flatten_mapM_iff h]
  refine exists_congr fun edge => and_congr_right fun hedge => ?_
  -- The rule has not raised, and so no check of an edge has.
  have hchecked : ∃ found, checkDataEdge python astRaises graph registry
      (checkUnregisteredTypes graph registry).2 edge = .ok found := by
    cases hcheck : checkDataEdge python astRaises graph registry
        (checkUnregisteredTypes graph registry).2 edge with
    | ok found => exact ⟨found, rfl⟩
    | error e =>
        obtain ⟨_, herror⟩ := flatten_mapM_raises_iff.mpr ⟨edge, hedge, e, hcheck⟩
        cases h.symm.trans herror
  obtain ⟨found, hfound⟩ := hchecked
  rw [hfound]
  rw [checkDataEdge] at hfound
  cases hsource : graph.node? edge.fromNode with
  | none =>
      rw [hsource] at hfound
      cases hfound
      simp
  | some source =>
      cases htarget : graph.node? edge.toNode with
      | none =>
          rw [hsource, htarget] at hfound
          cases hfound
          simp
      | some target =>
          rw [hsource, htarget] at hfound
          dsimp only at hfound
          have hsourceMem := (GraphSpec.mem_of_node? hsource).1
          have htargetMem := (GraphSpec.mem_of_node? htarget).1
          cases hsrc : registry.get source.type with
          | none =>
              rw [if_pos (.inl ((mem_unregistered_iff hsourceMem).mpr hsrc))] at hfound
              cases hfound
              simp [hsrc]
          | some srcDef =>
              cases hdst : registry.get target.type with
              | none =>
                  rw [if_pos (.inr ((mem_unregistered_iff htargetMem).mpr hdst))] at hfound
                  cases hfound
                  simp [hdst]
              | some dstDef =>
                  rw [if_neg (by simp [mem_unregistered_iff, hsourceMem, htargetMem, hsrc,
                    hdst]), hsrc, hdst] at hfound
                  obtain ⟨_, _, hfound⟩ := except_bind_eq_ok.mp hfound
                  obtain ⟨_, _, hfound⟩ := except_bind_eq_ok.mp hfound
                  cases hfound
                  simp [hsrc, hdst]

/-- The configurations that are refused are those of registered nodes. -/
theorem mem_check_config_schema_iff {issues : List ValidationIssue}
    (h : checkConfigSchema python astRaises graph registry
      (checkUnregisteredTypes graph registry).2 = .ok issues) :
    issue ∈ issues ↔ ∃ node ∈ graph.nodes, ∃ definition message,
      registry.get node.type = some definition ∧
      configModel python astRaises definition node.config = .error (.validationError message) ∧
      ⟨"invalid_config", some node.id, message⟩ = issue := by
  rw [mem_flatten_mapM_iff h]
  refine exists_congr fun node => and_congr_right fun hnode => ?_
  cases hdef : registry.get node.type with
  | none =>
      rw [if_pos ((mem_unregistered_iff hnode).mpr hdef)]
      simp [pure, Except.pure]
  | some definition =>
      rw [if_neg (by simp [mem_unregistered_iff hnode, hdef])]
      dsimp only
      cases hconfig : configModel python astRaises definition node.config with
      | ok accepted => simp [hconfig, pure, Except.pure]
      | error e => cases e <;> simp [hconfig, pure, Except.pure, eq_comm]

/-- Which connections are missing is up to the store. -/
theorem mem_check_missing_connections {store : ConnectionStore} {userId : Option String}
    {slotMappings : Dict String String}
    (h : issue ∈ checkMissingConnections graph store userId slotMappings) :
    Fault python astRaises graph registry issue := by
  obtain ⟨node, hnode, hissue⟩ := List.mem_flatMap.mp h
  obtain ⟨name, hname, rfl⟩ := List.mem_map.mp hissue
  exact .connection hnode (List.mem_of_mem_filter hname)

/-- In an empty store every connection is missing. -/
theorem mem_missing_connections_of_empty {node : NodeSpec} {name : String}
    (hnode : node ∈ graph.nodes) (hname : name ∈ connectionReferenceNames node.config)
    (userId : Option String) :
    ⟨"missing_connection", some node.id,
      s!"references connection '{name}' which isn't configured on this machine"⟩ ∈
        checkMissingConnections graph [] userId .empty := by
  refine List.mem_flatMap.mpr ⟨node, hnode, List.mem_map.mpr ⟨name, ?_, rfl⟩⟩
  refine List.mem_filter.mpr ⟨hname, ?_⟩
  cases userId <;> rfl

/-! ## What the validation reports -/

/-- The issues of a validation that ends, rule by rule. -/
theorem validate_graph_issues {store : ConnectionStore} {userId : Option String}
    {slotMappings : Dict String String} {verdict : Except (List ValidationIssue) Unit}
    (h : validateGraph python astRaises graph registry store userId slotMappings = .ok verdict) :
    ∃ requiredInputs typeMismatches configSchema,
      checkRequiredInputs python astRaises graph registry (checkStructural graph).2
        (checkUnregisteredTypes graph registry).2 (subNodeReferencedIds graph) =
          .ok requiredInputs ∧
      checkTypeMismatches python astRaises graph registry (checkStructural graph).2
        (checkUnregisteredTypes graph registry).2 = .ok typeMismatches ∧
      checkConfigSchema python astRaises graph registry (checkUnregisteredTypes graph registry).2 =
        .ok configSchema ∧
      ∃ issues, issues = (checkStructural graph).1 ++ (checkUnregisteredTypes graph registry).1 ++
          requiredInputs ++ typeMismatches ++ checkCycles graph (checkStructural graph).2 ++
          configSchema ++ checkMissingConnections graph store userId slotMappings ++
          checkSubNodeEdges graph registry (checkUnregisteredTypes graph registry).2 ∧
        verdict = if issues.isEmpty then .ok () else .error issues := by
  obtain ⟨requiredInputs, hinputs, h⟩ := except_bind_eq_ok.mp h
  obtain ⟨typeMismatches, htypes, h⟩ := except_bind_eq_ok.mp h
  obtain ⟨configSchema, hconfig, h⟩ := except_bind_eq_ok.mp h
  cases h
  exact ⟨_, _, _, hinputs, htypes, hconfig, _, rfl, rfl⟩

/-- Every issue is a fault. -/
theorem fault_of_reported {store : ConnectionStore} {userId : Option String}
    {slotMappings : Dict String String} {issues : List ValidationIssue}
    (h : validateGraph python astRaises graph registry store userId slotMappings =
      .ok (.error issues)) (hissue : issue ∈ issues) :
    Fault python astRaises graph registry issue := by
  obtain ⟨_, _, _, hinputs, htypes, hconfig, found, hfound, hverdict⟩ := validate_graph_issues h
  have hsame : issues = found := by
    split at hverdict
    · cases hverdict
    · cases hverdict
      rfl
  rw [hsame, hfound] at hissue
  simp only [List.mem_append] at hissue
  rcases hissue with ((((((hmem | hmem) | hmem) | hmem) | hmem) | hmem) | hmem) | hmem
  · obtain ⟨edge, hedge, problem, hproblem, rfl⟩ := mem_check_structural_iff.mp hmem
    exact .dangling hedge hproblem
  · obtain ⟨node, hnode, htype, rfl⟩ := mem_check_unregistered_types_iff.mp hmem
    exact .unregistered hnode htype
  · obtain ⟨node, hnode, _, _, hdef, hsub, hslots, hmissing⟩ :=
      (mem_check_required_inputs_iff hinputs).mp hmem
    exact .missingInput hnode hdef hsub hslots hmissing
  · obtain ⟨edge, hedge, _, _, _, _, hsource, htarget, hsrc, hdst, hmismatch⟩ :=
      (mem_check_type_mismatches_iff htypes).mp hmem
    exact .mismatch hedge hsource htarget hsrc hdst hmismatch
  · exact .cycle hmem
  · obtain ⟨node, hnode, _, _, hdef, hrefused, rfl⟩ :=
      (mem_check_config_schema_iff hconfig).mp hmem
    exact .invalidConfig hnode hdef hrefused
  · exact mem_check_missing_connections hmem
  · exact .subNode hmem

/-- With an empty store, every fault is an issue. -/
theorem reported_of_fault {userId : Option String} {verdict : Except (List ValidationIssue) Unit}
    (h : validateGraph python astRaises graph registry [] userId .empty = .ok verdict)
    (hfault : Fault python astRaises graph registry issue) :
    ∃ issues, verdict = .error issues ∧ issue ∈ issues := by
  obtain ⟨_, _, _, hinputs, htypes, hconfig, found, hfound, hverdict⟩ := validate_graph_issues h
  have hmem : issue ∈ found := by
    rw [hfound]
    simp only [List.mem_append]
    cases hfault with
    | dangling hedge hproblem =>
        have hmem := mem_check_structural_iff.mpr ⟨_, hedge, _, hproblem, rfl⟩
        tauto
    | unregistered hnode htype =>
        have hmem := mem_check_unregistered_types_iff.mpr ⟨_, hnode, htype, rfl⟩
        tauto
    | missingInput hnode hdef hsub hslots hmissing =>
        have hmem := (mem_check_required_inputs_iff hinputs).mpr
          ⟨_, hnode, _, _, hdef, hsub, hslots, hmissing⟩
        tauto
    | mismatch hedge hsource htarget hsrc hdst hmismatch =>
        have hmem := (mem_check_type_mismatches_iff htypes).mpr
          ⟨_, hedge, _, _, _, _, hsource, htarget, hsrc, hdst, hmismatch⟩
        tauto
    | cycle hmem => tauto
    | invalidConfig hnode hdef hrefused =>
        have hmem := (mem_check_config_schema_iff hconfig).mpr
          ⟨_, hnode, _, _, hdef, hrefused, rfl⟩
        tauto
    | connection hnode hname =>
        have hmem := mem_missing_connections_of_empty hnode hname userId
        tauto
    | subNode hmem => tauto
  refine ⟨found, ?_, hmem⟩
  rw [hverdict, if_neg]
  rw [List.isEmpty_iff]
  exact List.ne_nil_of_mem hmem

/-- The issues that the validation of a graph can report, whatever the store, are its faults. -/
theorem validate_graph_reports_iff
    (h : ∀ store userId slotMappings, ∃ verdict,
      validateGraph python astRaises graph registry store userId slotMappings = .ok verdict) :
    (∃ store userId slotMappings issues,
      validateGraph python astRaises graph registry store userId slotMappings =
        .ok (.error issues) ∧ issue ∈ issues) ↔ Fault python astRaises graph registry issue := by
  constructor
  · rintro ⟨_, _, _, _, hrun, hissue⟩
    exact fault_of_reported hrun hissue
  · intro hfault
    obtain ⟨verdict, hrun⟩ := h [] none .empty
    obtain ⟨issues, rfl, hissue⟩ := reported_of_fault hrun hfault
    exact ⟨_, _, _, issues, hrun, hissue⟩

end

end Raising

end AgentGraphStudio
