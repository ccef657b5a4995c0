import AgentGraphStudio.Api.Submission

/-!
# Which connections a run looks up

The resolver walks the nodes of the submitted graph, while a run also executes the nodes of
the sub-graphs of its loops. `Occurs` is the second walk, and a graph is `Covered` when it
finds no reference that the first walk misses. `lookups_resolved` says that a run of a covered
graph finds every name it looks up among the resolved ones.
-/

namespace AgentGraphStudio

variable {env : Environment}

/-- The nodes that a run of the graph can execute: its own, and those of every well-formed
sub-graph of a loop among them, at any depth. -/
inductive Occurs (env : Environment) (graph : GraphSpec) : NodeSpec → Prop where
  | node {node : NodeSpec} (h : node ∈ graph.nodes) : Occurs env graph node
  | nested {node inner : NodeSpec} {config : LoopConfig} (h : Occurs env graph node)
      (hloop : env.BodyOf node .loop) (hconfig : LoopConfig.parse node.config = .ok config)
      (hformed : WellFormed config.subGraph env.registry)
      (hinner : inner ∈ config.subGraph.nodes) : Occurs env graph inner

/-- Every name that an occurring node references is one that the graph's own nodes
reference. -/
def Covered (env : Environment) (graph : GraphSpec) : Prop :=
  ∀ node, Occurs env graph node → ∀ name ∈ connectionReferenceNames node.config,
    name ∈ referencedConnectionNames graph

/-! ## Seeding the entry node of an iteration -/

/-- A node as it occurs, up to the value that an iteration seeds. -/
structure Seeded (original node : NodeSpec) : Prop where
  type : node.type = original.type
  loop : LoopConfig.parse node.config = LoopConfig.parse original.config
  references : ∀ name, name ∈ connectionReferenceNames node.config ↔
    name ∈ connectionReferenceNames original.config

theorem Seeded.refl (node : NodeSpec) : Seeded node node := ⟨rfl, rfl, fun _ => Iff.rfl⟩

theorem Seeded.seed (node : NodeSpec) (entryNodeId : String) (value : Json) :
    Seeded node (seedNode entryNodeId value node) := by
  refine ⟨seedNode_type _ _ _, ?_, ?_⟩ <;> rw [seedNode] <;> split
  · exact loop_config_parse_seed _ _
  · rfl
  · exact reference_names_seed _ _
  · exact fun _ => Iff.rfl

/-! ## Runs of a covered graph -/

/-- The lookups of referenced names are permitted, and so is everything but a lookup. -/
def Op.LooksUpReferenced (graph : GraphSpec) : Op → Prop
  | .lookup _ name => name ∈ referencedConnectionNames graph
  | _ => True

/-- The nodes of a covered graph only look referenced names up. -/
def coverage {graph : GraphSpec} (hcovered : Covered env graph) : Discipline env :=
  .ofOps env (Op.LooksUpReferenced graph) (fun op h => by cases op <;> trivial)
    (fun op h => by cases op <;> trivial)
    (fun node => ∃ original, Occurs env graph original ∧ Seeded original node)
    (by
      rintro node ⟨original, hoccurs, hseeded⟩ key name hname history
      exact hcovered original hoccurs name ((hseeded.references name).mp hname))
    (by
      rintro node config ⟨original, hoccurs, hseeded⟩ ⟨definition, hdef, hbody⟩ hconfig hformed
        inner hinner entryNodeId value
      rw [hseeded.type] at hdef
      rw [hseeded.loop] at hconfig
      exact ⟨inner, .nested hoccurs ⟨definition, hdef, hbody⟩ hconfig hformed hinner,
        .seed inner entryNodeId value⟩)

/-- The resolved map that a lookup searches has this name. -/
def Resources.Resolves (resources : Resources) : ResourceKey → String → Prop
  | .connections, name => name ∈ resources.connections.keys
  | .connectionProfiles, name => name ∈ resources.connectionProfiles.keys

instance (resources : Resources) (key : ResourceKey) (name : String) :
    Decidable (resources.Resolves key name) := by
  cases key <;> exact inferInstanceAs (Decidable (_ ∈ _))

/-- In every run of an accepted and covered graph, every name that a body looks up was
resolved. -/
theorem lookups_resolved {stores : GraphStores} {store : ConnectionStore} {graph : GraphSpec}
    {graphId runBy : Option String} {resources : Resources} {depth : Nat}
    {modelDumpJson : RunResult → Except Raised String} {runId : String} {events : History}
    {rest : Program Op Res (Except Raised Unit)} (hcovered : Covered env graph)
    (hsubmit : submitRun env stores store graph graphId runBy = .ok resources)
    (hrun : Program.Run (executeRun env depth modelDumpJson runId graph resources).run events rest)
    {key : ResourceKey} {name : String}
    (hlookup : (⟨.lookup key name, ()⟩ : Event Op Res) ∈ events) : resources.Resolves key name := by
  have halways : (executeRun env depth modelDumpJson runId graph resources).Always
      (coverage hcovered).policy :=
    (coverage hcovered).execute_run_always (fun _ _ => trivial) (fun _ => trivial) trivial
      fun node hnode => ⟨node, .node hnode, .refl node⟩
  have hname : name ∈ referencedConnectionNames graph := Policy.ofOps_run halways hrun _ hlookup
  obtain ⟨slotMappings, _, _, hresources⟩ := submit_run_eq_ok_iff.mp hsubmit
  obtain ⟨_, _, hconnections, hprofiles⟩ := submitted_resources_eq_ok hresources
  cases key with
  | connections => exact (hconnections name).mpr hname
  | connectionProfiles => exact (hprofiles name).mpr hname

/-! ### A model call inside a loop -/

/-- The answers of a process that stores these connections and in which every model says
hello. Nothing else is available. -/
def helloAnswers (store : ConnectionStore) : (op : Op) → Res op
  | .utcnowIso => "2026-01-01T00:00:00+00:00"
  | .uuid4 => "0"
  | .readConnections => store
  | .lookup .. | .executeGenerated _ => ()
  | .complete .. => .ok { text := "hello" }
  | .completeWithTools .. => .ok { text := some "hello", toolCalls := [] }
  | .embed .. | .addChunks .. | .queryChunks .. | .execSource .. | .callFunction .. | .listTools ..
  | .callStdioTool .. | .callTool .. | .getApiKey .. | .getValidAccessToken ..
  | .terminalApproval .. => .error (.exception "not available")
  | .callTelegramApi .. => .error (.runtimeError "not available")
  | .getConnection name userId => getConnection store name userId
  | .approval op =>
    match op with
    | .checkRemembered .. => some false
    | .addPending approvalId runId toolName arguments => ⟨0, approvalId, runId, toolName, arguments⟩
    | .readDecision _ => false
    | .getPending _ => none
    | .listPending _ => []
    | .wait _ | .popPending _ | .setDecision .. | .remember .. | .setEvent _
    | .clearRemembered _ => ()
  | .updateRun .. => true

/-- A serialisation that always succeeds. -/
def dumpNothing (_ : RunResult) : Except Raised String := .ok "{}"

set_option maxRecDepth 20000 in
/-- `askGraph` has no loop. -/
theorem ask_graph_covered : Covered anthropicEnvironment askGraph := by
  have hmem : ∀ node, Occurs anthropicEnvironment askGraph node → node ∈ askGraph.nodes := by
    intro node hoccurs
    induction hoccurs with
    | node h => exact h
    | nested _ hloop _ _ _ ih =>
        obtain rfl := List.mem_singleton.mp ih
        obtain ⟨definition, hdef, hbody⟩ := hloop
        have hcall : anthropicEnvironment.registry.get "llm_call" = some llmCallDefinition := rfl
        cases hcall.symm.trans hdef
        cases hbody
  exact fun node hoccurs name hname =>
    mem_referencedConnectionNames.mpr ⟨node, hmem node hoccurs, hname⟩

set_option maxRecDepth 20000 in
/-- A run of `askGraph` finds the connection it looks up. -/
theorem ask_lookup_resolved : ∃ resources,
    submitRun anthropicEnvironment sharedStores [anthropicProfile "my-anthropic" none] askGraph
      none (some "runner") = .ok resources ∧
    resources.Resolves .connections "my-anthropic" :=
  ⟨_, rfl, lookups_resolved ask_graph_covered
    (show submitRun anthropicEnvironment sharedStores [anthropicProfile "my-anthropic" none]
      askGraph none (some "runner") = _ from rfl)
    (Program.ends_play (helloAnswers [anthropicProfile "my-anthropic" none])
      (executeRun anthropicEnvironment 3 dumpNothing "run" askGraph _).run)
    (@List.mem_of_getElem? _ _ 4 _ rfl)⟩

/-- The same model call in a graph of its own, as the configuration of a loop. -/
def askSubGraph : Json :=
  .obj [("version", .str "1.0"),
    ("nodes", .arr [
      .obj [("id", .str "start"), ("type", .str "text_input"),
        ("config", .obj [("value", .str "")])],
      .obj [("id", .str "ask"), ("type", .str "llm_call"),
        ("config", .obj [("connection", .str "my-anthropic"), ("model", .str "claude")])],
      .obj [("id", .str "end"), ("type", .str "text_output")]]),
    ("edges", .arr [
      .obj [("from", .obj [("node", .str "start"), ("slot", .str "text")]),
        ("to", .obj [("node", .str "ask"), ("slot", .str "prompt")])],
      .obj [("from", .obj [("node", .str "ask"), ("slot", .str "response")]),
        ("to", .obj [("node", .str "end"), ("slot", .str "text")])]])]

/-- A loop around the model call. -/
def askLoopGraph : GraphSpec where
  version := "1.0"
  nodes := [
    { id := "again", type := "loop"
      config := .ofList [("sub_graph", askSubGraph), ("max_iterations", .int 1)]
      inputValues := .ofList [("value", .str "hello")] }]
  edges := []
  nodupIds := by decide

set_option maxRecDepth 20000 in
/-- The loop's model call looks a connection up that was not resolved, although it is global. -/
theorem nested_lookup_unresolved : ∃ resources events ended,
    submitRun anthropicEnvironment sharedStores [anthropicProfile "my-anthropic" none] askLoopGraph
      none (some "runner") = .ok resources ∧
    Program.Ends (executeRun anthropicEnvironment 3 dumpNothing "run" askLoopGraph resources).run
      events ended ∧
    (⟨.lookup .connections "my-anthropic", ()⟩ : Event Op Res) ∈ events ∧
    ¬ resources.Resolves .connections "my-anthropic" :=
  ⟨_, _, _, rfl, Program.ends_play (helloAnswers [anthropicProfile "my-anthropic" none]) _,
    @List.mem_of_getElem? _ _ 10 _ rfl, by decide⟩

end AgentGraphStudio
