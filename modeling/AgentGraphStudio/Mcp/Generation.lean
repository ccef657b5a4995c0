import AgentGraphStudio.Mcp.ToolLists

/-!
# Generating node types

`unregister_for_connection` and `generate_node_types_for_connection` of
`backend/mcp/generated_nodes.py`. A generation discovers the tools of a connection, removes the
types that were generated before and registers one type per tool. A set of the names does not take
a list or an object, and the registry refuses a name that is taken; nothing puts the removed types
back then. `generation_atomic_iff` says when a generation is all or nothing.
-/

namespace AgentGraphStudio

open Stateful (stateOf)

/-- The types that were generated for a connection. -/
def Backend.typesOf (backend : Backend) (key : ConnectionKey) : List String :=
  backend.generatedTypes.getD key []

/-- Remove a generated type with its option bindings. -/
def Backend.removeType (backend : Backend) (typeName : String) : Backend :=
  { backend with
    registry := backend.registry.unregister typeName
    optionBindings := unregisterForNodeType backend.optionBindings typeName }

/-- Remove the types that were generated for a connection. -/
def unregisterForConnection (connectionName : String) (ownerUserId : Option String)
    (backend : Backend) : Backend :=
  (backend.typesOf (ownerUserId, connectionName)).foldl Backend.removeType
    { backend with
      generatedTypes := backend.generatedTypes.erase (ownerUserId, connectionName) }

/-- The set of the names of some tools. -/
def toolNames : List McpToolInfo → Except String (List String)
  | [] => .ok []
  | tool :: tools =>
    match tool.unhashable with
    | some typeName => .error s!"unhashable type: '{typeName}'"
    | none => (toolNames tools).map (tool.name :: ·)

/-- Do these names look like those of a Context7 server? -/
def isContext7Shaped (toolNames : List String) : Bool :=
  ["resolve-library-id", "query-docs"].all fun name => name ∈ toolNames

/-- Register the type of one tool. -/
def registerTool (connectionName : String) (ownerUserId : Option String) (context7 : Bool)
    (tool : McpToolInfo) : Step String := do
  let definition := generatedDefinition { connectionName, tool, ownerUserId }
  match (← get).registry.register definition with
  | .error e => throw e
  | .ok registry =>
    modify fun backend => { backend with registry }
    if context7 ∧ tool.name = "query-docs" then
      modify fun backend =>
        { backend with
          optionBindings := backend.optionBindings.set (definition.typeName, "libraryId")
            context7QueryDocsBinding }
    pure definition.typeName

/-- Register the types of some tools in order. -/
def registerTools (connectionName : String) (ownerUserId : Option String) (context7 : Bool) :
    List McpToolInfo → Step (List String)
  | [] => pure []
  | tool :: tools => do
    let typeName ← registerTool connectionName ownerUserId context7 tool
    let typeNames ← registerTools connectionName ownerUserId context7 tools
    pure (typeName :: typeNames)

/-- Replace the types of a connection: the part of `generate_node_types_for_connection` that comes
after the discovery. -/
def replaceTypes (connectionName : String) (ownerUserId : Option String)
    (tools : List McpToolInfo) : Step (List String) := do
  modify (unregisterForConnection connectionName ownerUserId)
  let names ← Stateful.ofExcept (toolNames tools)
  let created ← registerTools connectionName ownerUserId (isContext7Shaped names) tools
  modify fun backend =>
    { backend with
      generatedTypes := backend.generatedTypes.set (ownerUserId, connectionName) created }
  pure created

/-- Generate the types of a connection anew. -/
def generateNodeTypesForConnection (outside : Outside) (connectionName : String)
    (ownerUserId : Option String) (discoveryUserId : Option String := none) :
    Step (List String) := do
  let tools ← discoverTools outside connectionName ownerUserId discoveryUserId
  replaceTypes connectionName ownerUserId tools

/-! ## Removing types -/

section

variable {backend : Backend} {connectionName : String} {ownerUserId : Option String}

theorem get_removeType (typeName name : String) :
    (backend.removeType typeName).registry.get name =
      if name = typeName then none else backend.registry.get name := by
  show (backend.registry.defs.erase typeName).get? name = _
  rw [Dict.get?_erase]
  rfl

/-- What is left after the types of a connection were removed. -/
structure Removed (backend : Backend) (key : ConnectionKey) (result : Backend) : Prop where
  store : result.store = backend.store
  generatedTypes : result.generatedTypes = backend.generatedTypes.erase key
  registry : ∀ name, result.registry.get name =
    if name ∈ backend.typesOf key then none else backend.registry.get name
  optionBindings : ∀ name field, result.optionBindings.get? (name, field) =
    if name ∈ backend.typesOf key then none else backend.optionBindings.get? (name, field)

theorem remove_types_spec (typeNames : List String) (backend : Backend) :
    (typeNames.foldl Backend.removeType backend).store = backend.store ∧
    (typeNames.foldl Backend.removeType backend).generatedTypes = backend.generatedTypes ∧
    (∀ name, (typeNames.foldl Backend.removeType backend).registry.get name =
      if name ∈ typeNames then none else backend.registry.get name) ∧
    ∀ name field, (typeNames.foldl Backend.removeType backend).optionBindings.get? (name, field) =
      if name ∈ typeNames then none else backend.optionBindings.get? (name, field) := by
  induction typeNames generalizing backend with
  | nil => simp
  | cons typeName typeNames ih =>
      obtain ⟨hstore, htypes, hregistry, hbindings⟩ := ih (backend.removeType typeName)
      refine ⟨hstore, htypes, fun name => ?_, fun name field => ?_⟩
      · rw [List.foldl_cons, hregistry, get_removeType]
        by_cases hname : name = typeName <;> simp [hname]
      · have hget : (backend.removeType typeName).optionBindings.get? (name, field) =
            if name = typeName then none else backend.optionBindings.get? (name, field) :=
          get?_unregisterForNodeType _ _ _
        rw [List.foldl_cons, hbindings, hget]
        by_cases hname : name = typeName <;> simp [hname]

/-- Exactly the types of the connection are gone. -/
theorem unregister_for_connection_spec :
    Removed backend (ownerUserId, connectionName)
      (unregisterForConnection connectionName ownerUserId backend) := by
  obtain ⟨hstore, htypes, hregistry, hbindings⟩ := remove_types_spec
    (backend.typesOf (ownerUserId, connectionName))
    { backend with generatedTypes := backend.generatedTypes.erase (ownerUserId, connectionName) }
  exact ⟨hstore, htypes, hregistry, hbindings⟩

/-- What changes neither the node types nor what is tracked of them is the same after the
removal. -/
theorem unregister_for_connection_frame {τ : Type} {view : Backend → τ}
    (h : ∀ backend registry generatedTypes optionBindings,
      view { backend with registry, generatedTypes, optionBindings } = view backend)
    (connectionName : String) (ownerUserId : Option String) (backend : Backend) :
    view (unregisterForConnection connectionName ownerUserId backend) = view backend := by
  have hremove : ∀ typeNames backend,
      view (List.foldl Backend.removeType backend typeNames) = view backend := by
    intro typeNames
    induction typeNames with
    | nil => intro backend; rfl
    | cons typeName typeNames ih =>
        intro backend
        exact (ih _).trans (h backend _ backend.generatedTypes _)
  exact (hremove _ _).trans (h backend backend.registry _ backend.optionBindings)

/-- Nothing is removed for a connection without an entry. -/
theorem unregister_for_connection_of_notMem
    (h : (ownerUserId, connectionName) ∉ backend.generatedTypes.keys) :
    unregisterForConnection connectionName ownerUserId backend = backend := by
  unfold unregisterForConnection Backend.typesOf Dict.getD
  rw [Dict.get?_eq_none_iff.mpr h, Dict.erase_of_notMem h]
  rfl

end

/-! ## Registering types -/

/-- The name of the type of a tool. -/
def toolTypeName (key : ConnectionKey) (tool : McpToolInfo) : String :=
  typeNameFor key.2 tool.name key.1

/-- The type of a tool of a connection. -/
def toolType (key : ConnectionKey) (tool : McpToolInfo) : NodeDefinition Body :=
  generatedDefinition { connectionName := key.2, tool, ownerUserId := key.1 }

@[simp] theorem toolType_typeName (key : ConnectionKey) (tool : McpToolInfo) :
    (toolType key tool).typeName = toolTypeName key tool := rfl

/-- Every name is an element of a set. -/
def HashableNames (tools : List McpToolInfo) : Prop :=
  ∀ tool ∈ tools, tool.unhashable = none

instance (tools : List McpToolInfo) : Decidable (HashableNames tools) :=
  inferInstanceAs (Decidable (∀ tool ∈ tools, tool.unhashable = none))

/-- The types of these tools are new and have been registered, one after another. -/
structure RegisteredTools (backend : Backend) (key : ConnectionKey) (tools : List McpToolInfo)
    (result : Backend) : Prop where
  store : result.store = backend.store
  generatedTypes : result.generatedTypes = backend.generatedTypes
  distinct : (tools.map (toolTypeName key)).Nodup
  free : ∀ tool ∈ tools, backend.registry.get (toolTypeName key tool) = none
  defined : ∀ tool ∈ tools, result.registry.get (toolTypeName key tool) = some (toolType key tool)
  others : ∀ name, name ∉ tools.map (toolTypeName key) →
    result.registry.get name = backend.registry.get name ∧
      ∀ field, result.optionBindings.get? (name, field) = backend.optionBindings.get? (name, field)

section

variable {backend result : Backend} {key : ConnectionKey} {context7 : Bool}

/-- The names have a set exactly if each of them is an element of one. -/
theorem tool_names_spec (tools : List McpToolInfo) :
    match toolNames tools with
    | .ok _ => HashableNames tools
    | .error _ => ¬ HashableNames tools := by
  induction tools with
  | nil => exact nofun
  | cons tool tools ih =>
      unfold toolNames
      cases hname : tool.unhashable with
      | some typeName =>
          intro h
          rw [h tool List.mem_cons_self] at hname
          cases hname
      | none =>
          cases hrest : toolNames tools with
          | error e =>
              rw [hrest] at ih
              exact fun h => ih fun other hother => h other (List.mem_cons_of_mem _ hother)
          | ok names =>
              rw [hrest] at ih
              exact List.forall_mem_cons.mpr ⟨hname, ih⟩

theorem RegisteredTools.nil : RegisteredTools backend key [] backend :=
  ⟨rfl, rfl, List.nodup_nil, nofun, nofun, fun _ _ => ⟨rfl, fun _ => rfl⟩⟩

/-- What registering one tool does. -/
theorem register_tool_run (tool : McpToolInfo) :
    (registerTool key.2 key.1 context7 tool).run backend =
      match backend.registry.register (toolType key tool) with
      | .error e => .error e backend
      | .ok registry => .ok (toolTypeName key tool)
        { backend with
          registry
          optionBindings :=
            if context7 ∧ tool.name = "query-docs" then
              backend.optionBindings.set (toolTypeName key tool, "libraryId")
                context7QueryDocsBinding
            else backend.optionBindings } := by
  unfold registerTool
  show EStateM.run (match backend.registry.register (toolType key tool) with
    | .error e => _ | .ok registry => _) backend = _
  cases backend.registry.register (toolType key tool) with
  | error e => rfl
  | ok registry =>
      by_cases hshape : context7 ∧ tool.name = "query-docs"
      · simp only [if_pos hshape]
        rfl
      · simp only [if_neg hshape]
        rfl

/-- A taken name is refused, and nothing changes. -/
theorem register_tool_taken {tool : McpToolInfo}
    (h : (backend.registry.get (toolTypeName key tool)).isSome) :
    ∃ e, (registerTool key.2 key.1 context7 tool).run backend = .error e backend := by
  have htaken : toolTypeName key tool ∈ backend.registry.defs.keys := Dict.get?_isSome_iff.mp h
  refine ⟨s!"Duplicate node type registration: {toolTypeName key tool}", ?_⟩
  rw [register_tool_run, show backend.registry.register (toolType key tool) =
    .error s!"Duplicate node type registration: {toolTypeName key tool}" from if_pos htaken]

/-- A new name is registered. -/
theorem register_tool_free {tool : McpToolInfo}
    (h : backend.registry.get (toolTypeName key tool) = none) :
    ∃ result, (registerTool key.2 key.1 context7 tool).run backend =
      .ok (toolTypeName key tool) result ∧ RegisteredTools backend key [tool] result := by
  rw [register_tool_run]
  cases hregister : backend.registry.register (toolType key tool) with
  | error e =>
      rcases NodeRegistry.register_error hregister with htaken | hundeclared
      · rw [toolType_typeName, h] at htaken
        cases htaken
      · exact absurd (fun slot hslot => by cases hslot) hundeclared
  | ok registry =>
      obtain ⟨_, hget⟩ := NodeRegistry.get_register hregister
      refine ⟨_, rfl, rfl, rfl, List.nodup_singleton _, ?_, ?_, ?_⟩
      · simpa using h
      · intro other hother
        obtain rfl := List.mem_singleton.mp hother
        show registry.get _ = _
        rw [hget, h, Option.none_or, toolType_typeName, if_pos rfl]
      · intro name hname
        have hne : toolTypeName key tool ≠ name := fun heq =>
          hname (heq ▸ List.mem_singleton_self _)
        refine ⟨?_, fun field => ?_⟩
        · show registry.get name = _
          rw [hget, toolType_typeName, if_neg hne, Option.or_none]
        · show Dict.get? (if _ then _ else _) _ = _
          split
          · exact Dict.get?_set_of_ne _ _ fun heq => hne (congrArg Prod.fst heq).symm
          · rfl

/-- Registering a tool after others. -/
theorem RegisteredTools.cons {middle : Backend} {tool : McpToolInfo} {tools : List McpToolInfo}
    (hfirst : RegisteredTools backend key [tool] middle)
    (hrest : RegisteredTools middle key tools result) :
    RegisteredTools backend key (tool :: tools) result := by
  have hdefined := hfirst.defined tool (List.mem_singleton_self _)
  -- The first type is taken by now, so no later tool has its name.
  have hnew : toolTypeName key tool ∉ tools.map (toolTypeName key) := by
    intro hmem
    obtain ⟨other, hother, hname⟩ := List.mem_map.mp hmem
    have hfree := hrest.free other hother
    rw [hname, hdefined] at hfree
    cases hfree
  have hsingle : ∀ name, name ≠ toolTypeName key tool → name ∉ [tool].map (toolTypeName key) :=
    fun name hname hmem => hname (List.mem_singleton.mp hmem)
  refine ⟨hrest.store.trans hfirst.store, hrest.generatedTypes.trans hfirst.generatedTypes, ?_, ?_,
    ?_, ?_⟩
  · rw [List.map_cons, List.nodup_cons]
    exact ⟨hnew, hrest.distinct⟩
  · intro other hother
    rcases List.mem_cons.mp hother with rfl | hlater
    · exact hfirst.free other (List.mem_singleton_self _)
    · have hne : toolTypeName key other ≠ toolTypeName key tool := fun heq =>
        hnew (heq ▸ List.mem_map_of_mem hlater)
      rw [← (hfirst.others _ (hsingle _ hne)).1]
      exact hrest.free other hlater
  · intro other hother
    rcases List.mem_cons.mp hother with rfl | hlater
    · rw [(hrest.others _ hnew).1, hdefined]
    · exact hrest.defined other hlater
  · intro name hname
    rw [List.map_cons, List.mem_cons, not_or] at hname
    obtain ⟨hget, hbindings⟩ := hrest.others name hname.2
    obtain ⟨hget', hbindings'⟩ := hfirst.others name (hsingle _ hname.1)
    exact ⟨hget.trans hget', fun field => (hbindings field).trans (hbindings' field)⟩

/-- Registering some tools either registers all of them, or stops at the first one whose name is
taken, with the tools before it registered. -/
theorem register_tools_spec (tools : List McpToolInfo) (backend : Backend) :
    match (registerTools key.2 key.1 context7 tools).run backend with
    | .ok created result =>
      created = tools.map (toolTypeName key) ∧ RegisteredTools backend key tools result
    | .error _ result => ∃ before tool after, tools = before ++ tool :: after ∧
      RegisteredTools backend key before result ∧ (before = [] → result = backend) ∧
        (result.registry.get (toolTypeName key tool)).isSome := by
  induction tools generalizing backend with
  | nil => exact ⟨rfl, .nil⟩
  | cons tool tools ih =>
      unfold registerTools
      rw [EStateM.run_bind]
      cases hfirst : backend.registry.get (toolTypeName key tool) with
      | some definition =>
          obtain ⟨e, herror⟩ := @register_tool_taken backend key context7 tool (by rw [hfirst]; rfl)
          rw [herror]
          exact ⟨[], tool, tools, rfl, .nil, fun _ => rfl, by rw [hfirst]; rfl⟩
      | none =>
          obtain ⟨middle, hok, hregistered⟩ := @register_tool_free backend key context7 tool hfirst
          rw [hok]
          dsimp only
          rw [EStateM.run_bind]
          have hrest := ih middle
          cases hrun : (registerTools key.2 key.1 context7 tools).run middle with
          | ok created result =>
              rw [hrun] at hrest
              exact ⟨by rw [hrest.1]; rfl, hregistered.cons hrest.2⟩
          | error e result =>
              rw [hrun] at hrest
              obtain ⟨before, last, after, rfl, hbefore, _, htaken⟩ := hrest
              exact ⟨tool :: before, last, after, rfl, hregistered.cons hbefore, nofun, htaken⟩

end

/-! ## What a generation does -/

section

variable {outside : Outside} {backend result : Backend} {connectionName : String}
  {ownerUserId discoveryUserId : Option String} {key : ConnectionKey} {tools : List McpToolInfo}

/-- Where the registration of some tools stops after the old types were removed: at a name that is
no element of a set, before any type is registered, or at the first name that is taken, with the
tools before it registered. -/
inductive RegistrationStops (removed : Backend) (key : ConnectionKey) (tools : List McpToolInfo)
    (result : Backend) : Prop where
  | unhashable (hnames : ¬ HashableNames tools) (hsame : result = removed)
  | taken {before : List McpToolInfo} {tool : McpToolInfo} {after : List McpToolInfo}
      (hnames : HashableNames tools) (hsplit : tools = before ++ tool :: after)
      (hbefore : RegisteredTools removed key before result) (hnone : before = [] → result = removed)
      (htaken : (result.registry.get (toolTypeName key tool)).isSome)

/-- Replacing types either registers all new ones, or stops before that. -/
theorem replace_types_spec (connectionName : String) (ownerUserId : Option String)
    (tools : List McpToolInfo) (backend : Backend) :
    match (replaceTypes connectionName ownerUserId tools).run backend with
    | .ok created result => HashableNames tools ∧
      created = tools.map (toolTypeName (ownerUserId, connectionName)) ∧
      ∃ registered, RegisteredTools (unregisterForConnection connectionName ownerUserId backend)
        (ownerUserId, connectionName) tools registered ∧
      result = { registered with
        generatedTypes := registered.generatedTypes.set (ownerUserId, connectionName) created }
    | .error _ result =>
      RegistrationStops (unregisterForConnection connectionName ownerUserId backend)
        (ownerUserId, connectionName) tools result := by
  have hnames := tool_names_spec tools
  -- After the removal, the names are collected and then the types are registered.
  have hrun : (replaceTypes connectionName ownerUserId tools).run backend =
      match toolNames tools with
      | .error e => .error e (unregisterForConnection connectionName ownerUserId backend)
      | .ok names =>
        match (registerTools connectionName ownerUserId (isContext7Shaped names) tools).run
          (unregisterForConnection connectionName ownerUserId backend) with
        | .ok created registered => EStateM.Result.ok created
          { registered with
            generatedTypes := registered.generatedTypes.set (ownerUserId, connectionName) created }
        | .error e result => EStateM.Result.error e result := by
    unfold replaceTypes
    rw [EStateM.run_bind]
    show EStateM.run (Stateful.ofExcept (toolNames tools) >>= _) _ = _
    rw [EStateM.run_bind]
    cases toolNames tools with
    | error e => rfl
    | ok names =>
        show EStateM.run (registerTools _ _ _ _ >>= _) _ = _
        dsimp only
        rw [EStateM.run_bind]
        cases EStateM.run (registerTools _ _ _ _) _ <;> rfl
  rw [hrun]
  cases htoolNames : toolNames tools with
  | error e =>
      rw [htoolNames] at hnames
      exact .unhashable hnames rfl
  | ok names =>
      rw [htoolNames] at hnames
      have hspec := @register_tools_spec (ownerUserId, connectionName) (isContext7Shaped names)
        tools (unregisterForConnection connectionName ownerUserId backend)
      dsimp only
      cases hregister : (registerTools connectionName ownerUserId (isContext7Shaped names)
          tools).run (unregisterForConnection connectionName ownerUserId backend) with
      | ok created registered =>
          rw [hregister] at hspec
          exact ⟨hnames, hspec.1, registered, hspec.2, rfl⟩
      | error e result =>
          rw [hregister] at hspec
          obtain ⟨before, tool, after, hsplit, hbefore, hnone, htaken⟩ := hspec
          exact .taken hnames hsplit hbefore hnone htaken

/-- Replacing the types changes nothing else. -/
theorem replace_types_frame {τ : Type} {view : Backend → τ}
    (h : ∀ backend registry generatedTypes optionBindings,
      view { backend with registry, generatedTypes, optionBindings } = view backend) :
    Stateful.Frame view (replaceTypes connectionName ownerUserId tools) := by
  have hregister : ∀ context7 tool,
      Stateful.Frame view (registerTool connectionName ownerUserId context7 tool) := by
    intro context7 tool backend
    rw [@register_tool_run backend (ownerUserId, connectionName) context7 tool]
    cases backend.registry.register (toolType (ownerUserId, connectionName) tool) with
    | error e => rfl
    | ok registry => exact h backend registry backend.generatedTypes _
  have hregisterAll : ∀ context7 tools,
      Stateful.Frame view (registerTools connectionName ownerUserId context7 tools) := by
    intro context7 tools
    induction tools with
    | nil => exact Stateful.frame_pure _
    | cons tool tools ih =>
        exact Stateful.frame_bind (hregister context7 tool) fun _ =>
          Stateful.frame_bind ih fun _ => Stateful.frame_pure _
  refine Stateful.frame_bind (Stateful.frame_modify fun backend => ?_) fun _ =>
    Stateful.frame_bind (Stateful.frame_ofExcept _) fun _ =>
      Stateful.frame_bind (hregisterAll _ tools) fun _ =>
        Stateful.frame_bind (Stateful.frame_modify fun backend => ?_) fun _ => Stateful.frame_pure _
  · exact unregister_for_connection_frame h _ _ backend
  · exact h backend backend.registry _ backend.optionBindings

/-- Discovery leaves the saved connections and the node types alone. -/
theorem discover_tools_keeps {discovered : Backend}
    (h : stateOf ((discoverTools outside connectionName ownerUserId discoveryUserId).run backend) =
      discovered) : discovered.store = backend.store ∧
        nodeTypes discovered = nodeTypes backend := by
  have hframe := @discover_tools_frame outside _
    (fun backend => (backend.store, nodeTypes backend)) (fun _ _ => rfl) (fun _ _ => rfl)
    connectionName ownerUserId discoveryUserId backend
  rw [h] at hframe
  exact Prod.mk.inj hframe

/-- Only saved connections are discovered. -/
theorem discover_tools_exists {discovered : Backend}
    (h : (discoverTools outside connectionName ownerUserId discoveryUserId).run backend =
      .ok tools discovered) : (getConnection backend.store connectionName ownerUserId).isSome := by
  unfold discoverTools at h
  obtain ⟨_, _, hget, hrest⟩ := Stateful.run_bind_eq_ok.mp h
  cases hget
  split at hrest
  · cases hrest
  · rename_i profile hprofile
    rw [hprofile]
    rfl

/-- After the discovery, the types of the connection are removed. -/
theorem removed_of_discovered {discovered : Backend}
    (h : stateOf ((discoverTools outside connectionName ownerUserId discoveryUserId).run backend) =
      discovered) :
    Removed backend (ownerUserId, connectionName)
      (unregisterForConnection connectionName ownerUserId discovered) := by
  obtain ⟨hstore, hnodes⟩ := discover_tools_keeps h
  simp only [nodeTypes, Prod.mk.injEq] at hnodes
  obtain ⟨hregistry, htypes, hbindings⟩ := hnodes
  have hremoved := @unregister_for_connection_spec discovered connectionName ownerUserId
  have hnames : discovered.typesOf (ownerUserId, connectionName) =
      backend.typesOf (ownerUserId, connectionName) := by
    rw [Backend.typesOf, Backend.typesOf, htypes]
  refine ⟨hremoved.store.trans hstore, by rw [hremoved.generatedTypes, htypes],
    fun name => ?_, fun name field => ?_⟩
  · rw [hremoved.registry, hnames, hregistry]
  · rw [hremoved.optionBindings, hnames, hbindings]

/-! ## All or nothing -/

/-- The connection has exactly one registered and tracked type per tool, and the types of other
connections are as before. -/
structure OneTypePerTool (backend : Backend) (key : ConnectionKey) (tools : List McpToolInfo)
    (created : List String) (result : Backend) : Prop where
  names : created = tools.map (toolTypeName key)
  distinct : created.Nodup
  tracked : result.generatedTypes.get? key = some created
  registered : ∀ tool ∈ tools,
    result.registry.get (toolTypeName key tool) = some (toolType key tool)
  removed : ∀ name ∈ backend.typesOf key, name ∉ created → result.registry.get name = none
  replaced : ∀ name ∈ created, name ∈ backend.typesOf key ∨ backend.registry.get name = none
  others : ∀ name, name ∉ backend.typesOf key → name ∉ created →
    result.registry.get name = backend.registry.get name ∧
      ∀ field, result.optionBindings.get? (name, field) = backend.optionBindings.get? (name, field)
  otherConnections : ∀ other, other ≠ key →
    result.generatedTypes.get? other = backend.generatedTypes.get? other

/-- A generation gives the connection one type per discovered tool, or raises and leaves the node
types, what is tracked of them and the option bindings as they were. -/
def GenerationAtomic (outside : Outside) (connectionName : String)
    (ownerUserId discoveryUserId : Option String) (backend : Backend) : Prop :=
  match (generateNodeTypesForConnection outside connectionName ownerUserId discoveryUserId).run
    backend with
  | .ok created result => ∃ tools discovered,
    (discoverTools outside connectionName ownerUserId discoveryUserId).run backend =
      .ok tools discovered ∧
    OneTypePerTool backend (ownerUserId, connectionName) tools created result
  | .error _ result => nodeTypes result = nodeTypes backend

/-- No name is a list or an object, and the tools have distinct type names, each of them free or a
type of this connection. -/
structure NamesFree (backend : Backend) (key : ConnectionKey) (tools : List McpToolInfo) :
    Prop where
  hashable : HashableNames tools
  distinct : (tools.map (toolTypeName key)).Nodup
  free : ∀ tool ∈ tools, toolTypeName key tool ∈ backend.typesOf key ∨
    backend.registry.get (toolTypeName key tool) = none

/-- The connection has no entry in the tracking map, and a name is a list or an object, or the first
type is refused. -/
def RefusedAtOnce (backend : Backend) (key : ConnectionKey) (tools : List McpToolInfo) : Prop :=
  key ∉ backend.generatedTypes.keys ∧ (¬ HashableNames tools ∨ ∃ tool rest, tools = tool :: rest ∧
    (backend.registry.get (toolTypeName key tool)).isSome)

/-- Types are registered after the removal of the old ones exactly if the names were free. -/
theorem RegisteredTools.namesFree {removed : Backend} (hremoved : Removed backend key removed)
    (hnames : HashableNames tools) (h : RegisteredTools removed key tools result) :
    NamesFree backend key tools := by
  refine ⟨hnames, h.distinct, fun tool htool => ?_⟩
  have hfree := h.free tool htool
  rw [hremoved.registry] at hfree
  split at hfree
  · exact .inl ‹_›
  · exact .inr hfree

/-- With free names the registration does not stop. -/
theorem NamesFree.not_stops {removed : Backend} (hremoved : Removed backend key removed)
    (hfree : NamesFree backend key tools) : ¬ RegistrationStops removed key tools result := by
  intro hstops
  cases hstops with
  | unhashable hnames => exact hnames hfree.hashable
  | @taken before tool after _ hsplit hbefore _ htaken =>
      have hnew : toolTypeName key tool ∉ before.map (toolTypeName key) := by
        have hdistinct := hfree.distinct
        rw [hsplit, List.map_append, List.map_cons, List.nodup_append'] at hdistinct
        exact fun hmem => hdistinct.2.2 hmem List.mem_cons_self
      have hnone : result.registry.get (toolTypeName key tool) = none := by
        rw [(hbefore.others _ hnew).1, hremoved.registry]
        split
        · rfl
        · exact (hfree.free tool (by simp [hsplit])).resolve_left ‹_›
      rw [hnone] at htaken
      cases htaken

/-- The types that were registered after the removal of the old ones are those of the connection. -/
theorem RegisteredTools.oneTypePerTool {removed : Backend} (hremoved : Removed backend key removed)
    (hnames : HashableNames tools) (h : RegisteredTools removed key tools result) :
    OneTypePerTool backend key tools (tools.map (toolTypeName key))
      { result with
        generatedTypes := result.generatedTypes.set key (tools.map (toolTypeName key)) } := by
  refine ⟨rfl, h.distinct, Dict.get?_set_self _ _ _, h.defined, ?_, ?_, ?_, ?_⟩
  · intro name hname hother
    show result.registry.get name = none
    rw [(h.others name hother).1, hremoved.registry, if_pos hname]
  · intro name hname
    obtain ⟨tool, htool, rfl⟩ := List.mem_map.mp hname
    exact (h.namesFree hremoved hnames).free tool htool
  · intro name hname hother
    obtain ⟨hget, hbindings⟩ := h.others name hother
    refine ⟨?_, fun field => ?_⟩
    · show result.registry.get name = _
      rw [hget, hremoved.registry, if_neg hname]
    · show result.optionBindings.get? (name, field) = _
      rw [hbindings, hremoved.optionBindings, if_neg hname]
  · intro other hother
    show (result.generatedTypes.set key _).get? other = _
    rw [Dict.get?_set_of_ne _ _ hother, h.generatedTypes, hremoved.generatedTypes,
      Dict.get?_erase_of_ne _ hother]

/-- What stopped and left everything as it was, stopped before any removal or registration. -/
theorem RegistrationStops.refusedAtOnce {removed : Backend} (hremoved : Removed backend key removed)
    (hsame : nodeTypes result = nodeTypes backend)
    (h : RegistrationStops removed key tools result) : RefusedAtOnce backend key tools := by
  simp only [nodeTypes, Prod.mk.injEq] at hsame
  obtain ⟨hregistry, htypes, -⟩ := hsame
  have habsent : result.generatedTypes = removed.generatedTypes →
      key ∉ backend.generatedTypes.keys := by
    intro herased
    rw [← Dict.get?_eq_none_iff, ← htypes, herased, hremoved.generatedTypes, Dict.get?_erase_self]
  cases h with
  | unhashable hnames hremains => exact ⟨habsent (by rw [hremains]), .inl hnames⟩
  | @taken before tool after _ hsplit hbefore _ htaken =>
      refine ⟨habsent hbefore.generatedTypes, .inr ?_⟩
      cases before with
      | nil => exact ⟨tool, after, hsplit, by rwa [← hregistry]⟩
      | cons first rest =>
          -- The first type was new, but it was there before.
          refine ⟨first, rest ++ tool :: after, hsplit, ?_⟩
          rw [← hregistry, hbefore.defined first List.mem_cons_self]
          rfl

/-- A refusal at once changes nothing, as there was nothing to remove. -/
theorem RegistrationStops.same_of_refused {discovered : Backend}
    (hremoved : Removed backend (ownerUserId, connectionName)
      (unregisterForConnection connectionName ownerUserId discovered))
    (hnodes : nodeTypes discovered = nodeTypes backend)
    (hrefused : RefusedAtOnce backend (ownerUserId, connectionName) tools)
    (h : RegistrationStops (unregisterForConnection connectionName ownerUserId discovered)
      (ownerUserId, connectionName) tools result) :
    nodeTypes result = nodeTypes backend := by
  obtain ⟨habsent, hrefused⟩ := hrefused
  have hremains : nodeTypes (unregisterForConnection connectionName ownerUserId discovered) =
      nodeTypes backend := by
    have htypes : discovered.generatedTypes = backend.generatedTypes :=
      congrArg (fun view => view.2.1) hnodes
    rw [unregister_for_connection_of_notMem (by rwa [htypes]), hnodes]
  cases h with
  | unhashable _ hsame => rw [hsame, hremains]
  | @taken before tool after hnames hsplit hbefore hnone _ =>
      cases before with
      | nil => rw [hnone rfl, hremains]
      | cons head before =>
          obtain ⟨first, rest, hfirst, htaken⟩ := hrefused.resolve_left (not_not.mpr hnames)
          obtain rfl : head = first := (List.cons.inj (hsplit.symm.trans hfirst)).1
          have hfree := hbefore.free head List.mem_cons_self
          have hnothing : backend.typesOf (ownerUserId, connectionName) = [] := by
            rw [Backend.typesOf, Dict.getD, Dict.get?_eq_none_iff.mpr habsent]
            rfl
          rw [hremoved.registry, hnothing, if_neg List.not_mem_nil] at hfree
          rw [hfree] at htaken
          cases htaken

/-- After the discovery a generation succeeds exactly if the names are free. -/
theorem generate_of_discovered {discovered : Backend}
    (hdiscover : (discoverTools outside connectionName ownerUserId discoveryUserId).run backend =
      .ok tools discovered) :
    (NamesFree backend (ownerUserId, connectionName) tools ∧ ∃ created result,
      (generateNodeTypesForConnection outside connectionName ownerUserId discoveryUserId).run
        backend = .ok created result ∧
      OneTypePerTool backend (ownerUserId, connectionName) tools created result) ∨
    (¬ NamesFree backend (ownerUserId, connectionName) tools ∧ ∃ e result,
      (generateNodeTypesForConnection outside connectionName ownerUserId discoveryUserId).run
        backend = .error e result) := by
  have hremoved : Removed backend (ownerUserId, connectionName)
      (unregisterForConnection connectionName ownerUserId discovered) :=
    removed_of_discovered (congrArg stateOf hdiscover)
  have hspec := replace_types_spec connectionName ownerUserId tools discovered
  unfold generateNodeTypesForConnection
  rw [EStateM.run_bind, hdiscover]
  dsimp only
  cases hrun : (replaceTypes connectionName ownerUserId tools).run discovered with
  | ok created result =>
      rw [hrun] at hspec
      obtain ⟨hnames, rfl, registered, hregistered, rfl⟩ := hspec
      exact .inl ⟨hregistered.namesFree hremoved hnames, _, _, rfl,
        hregistered.oneTypePerTool hremoved hnames⟩
  | error e result =>
      rw [hrun] at hspec
      exact .inr ⟨fun hfree => hfree.not_stops hremoved hspec, e, result, rfl⟩

/-- A generation that raises after the discovery leaves the node types as they were exactly if
nothing was there to remove and nothing was registered. -/
theorem generate_error_same_iff {discovered : Backend} {e : String}
    (hdiscover : (discoverTools outside connectionName ownerUserId discoveryUserId).run backend =
      .ok tools discovered)
    (hrun : (generateNodeTypesForConnection outside connectionName ownerUserId discoveryUserId).run
      backend = .error e result) :
    nodeTypes result = nodeTypes backend ↔
      RefusedAtOnce backend (ownerUserId, connectionName) tools := by
  have hnodes := (discover_tools_keeps (congrArg stateOf hdiscover)).2
  have hremoved := removed_of_discovered (congrArg stateOf hdiscover)
  have hspec := replace_types_spec connectionName ownerUserId tools discovered
  unfold generateNodeTypesForConnection at hrun
  rw [EStateM.run_bind, hdiscover] at hrun
  dsimp only at hrun
  rw [hrun] at hspec
  exact ⟨fun hsame => hspec.refusedAtOnce hremoved hsame,
    fun hrefused => hspec.same_of_refused hremoved hnodes hrefused⟩

/-- A generation that raises in the discovery changes no node types. -/
theorem generate_of_undiscovered {e : String} {discovered : Backend}
    (hdiscover : (discoverTools outside connectionName ownerUserId discoveryUserId).run backend =
      .error e discovered) :
    (generateNodeTypesForConnection outside connectionName ownerUserId discoveryUserId).run
      backend = .error e discovered ∧ nodeTypes discovered = nodeTypes backend := by
  refine ⟨?_, (discover_tools_keeps (congrArg stateOf hdiscover)).2⟩
  unfold generateNodeTypesForConnection
  rw [EStateM.run_bind, hdiscover]

/-- A generation leaves the saved connections alone. -/
theorem generate_store_frame : Stateful.Frame Backend.store
    (generateNodeTypesForConnection outside connectionName ownerUserId discoveryUserId) :=
  Stateful.frame_bind (discover_tools_frame (fun _ _ => rfl) (fun _ _ => rfl) _ _ _)
    fun _ => replace_types_frame fun _ _ _ _ => rfl

/-- A generation is all or nothing exactly if it does not come to registering types, or all names
are free, or nothing was removed and nothing registered before the first refusal. -/
theorem generation_atomic_iff (outside : Outside) (connectionName : String)
    (ownerUserId discoveryUserId : Option String) (backend : Backend) :
    GenerationAtomic outside connectionName ownerUserId discoveryUserId backend ↔
      ∀ tools discovered,
        (discoverTools outside connectionName ownerUserId discoveryUserId).run backend =
          .ok tools discovered →
        NamesFree backend (ownerUserId, connectionName) tools ∨
          RefusedAtOnce backend (ownerUserId, connectionName) tools := by
  unfold GenerationAtomic
  cases hdiscover :
      (discoverTools outside connectionName ownerUserId discoveryUserId).run backend with
  | error e discovered =>
      obtain ⟨hrun, hsame⟩ := generate_of_undiscovered hdiscover
      rw [hrun]
      exact ⟨fun _ => nofun, fun _ => hsame⟩
  | ok tools discovered =>
      rcases generate_of_discovered hdiscover with
        ⟨hfree, created, result, hrun, htypes⟩ | ⟨hfree, e, result, hrun⟩
      · rw [hrun]
        refine ⟨fun _ _ _ h => ?_, fun _ => ⟨tools, discovered, rfl, htypes⟩⟩
        cases h
        exact .inl hfree
      · rw [hrun]
        refine (generate_error_same_iff hdiscover hrun).trans ⟨fun hrefused _ _ h => ?_,
          fun h => ?_⟩
        · cases h
          exact .inr hrefused
        · exact (h _ _ rfl).resolve_left hfree

end

/-! ### A tool that is listed twice -/

/-- A tool that sends a text. -/
def sendTool : McpToolInfo where
  name := "send_message"
  paramNames := ["text"]
  paramJsonTypes := .ofList [("text", "string")]
  requiredNames := ["text"]

/-- A world in which every server lists these tools, and nothing else answers. -/
def serving (tools : List McpToolInfo) : Outside where
  listTools _ := .ok tools
  callTool _ _ _ := .error "not available"
  discoverOAuthServer _ := .error (.oauthError "not available")
  registerClient _ _ _ := .error (.oauthError "not available")
  exchangeCode _ _ _ _ _ _ := .error (.oauthError "not available")
  refreshAccess _ _ _ _ := .error (.oauthError "not available")
  isExpiringSoon _ := false
  publicBaseUrl := none
  verifyStateToken _ := none

/-- A saved server without credentials. -/
def savedServer (name : String) (userId : Option String) : ConnectionProfile where
  name
  type := "mcp_server"
  config := .ofList [("command", .str "server")]
  userId

/-- The backend after a start without generated types. -/
def freshBackend (store : ConnectionStore) : Backend where
  store
  apiKeys := .empty
  tokens := .empty
  toolLists := .empty
  registry := processRegistry plainPython (fun _ _ => none) []
  generatedTypes := .empty
  optionBindings := .empty

/-- The generation of a server that lists its tool twice. -/
def doubledGeneration : EStateM.Result String Backend (List String) :=
  (generateNodeTypesForConnection (serving [sendTool, sendTool]) "test-mcp-server" none).run
    (freshBackend [savedServer "test-mcp-server" none])

set_option maxRecDepth 20000 in
/-- The second type is refused, and the first one stays registered without being tracked. -/
theorem doubled_tool_half_done :
    ¬ GenerationAtomic (serving [sendTool, sendTool]) "test-mcp-server" none none
        (freshBackend [savedServer "test-mcp-server" none]) ∧
    ((stateOf doubledGeneration).registry.get "mcp__test-mcp-server__send_message").isSome = true ∧
    (stateOf doubledGeneration).generatedTypes.keys = [] := by
  refine ⟨fun h => ?_, by decide +kernel, by decide +kernel⟩
  have hnames := (generation_atomic_iff _ _ _ _ _).mp h [sendTool, sendTool] _ rfl
  rcases hnames with hfree | hrefused
  · exact absurd hfree.distinct (by decide +kernel)
  · obtain ⟨_, hunhashable | ⟨first, rest, hsplit, htaken⟩⟩ := hrefused
    · exact hunhashable (by decide)
    · cases hsplit
      exact absurd htaken (by decide +kernel)

end AgentGraphStudio
