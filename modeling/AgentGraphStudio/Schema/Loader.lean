import AgentGraphStudio.Schema.JsonDumps
import AgentGraphStudio.Schema.Models

/-!
# Graph files

`backend/schema/loader.py` reads a graph from a text, and `model_dump` of the graph models gives
the value that is written for it: under the alias `from` where a graph is answered, and under the
field's own name `from_` where it is stored. Every graph is read back from its value
(`GraphSpec.parse_modelDump`), and what is read from a text can be written
(`GraphSpec.modelDump_loadable`).
-/

namespace AgentGraphStudio

/-! ## Writing a graph -/

/-- The dump of an `EdgeEndpoint`. -/
def dumpEndpoint (node : String) (slot : Option String) : Json :=
  .obj [("node", .str node), ("slot", slot.elim .null .str)]

/-- The key of the field `from_`, which has the alias `from`. -/
def fromKey (byAlias : Bool) : String := if byAlias then "from" else "from_"

/-- The fields of an edge, in the order in which the model declares them. -/
def dumpEdge (byAlias : Bool) (kind : String) (source target : Json) (slot : Option String) :
    Json :=
  .obj [("kind", .str kind), (fromKey byAlias, source), ("to", target),
    ("slot", slot.elim .null .str)]

/-- The dump of an edge. -/
def EdgeSpec.modelDump (byAlias : Bool) : EdgeSpec → Json
  | .data edge => dumpEdge byAlias "data" (dumpEndpoint edge.fromNode (some edge.fromSlot))
      (dumpEndpoint edge.toNode (some edge.toSlot)) none
  | .subNode edge => dumpEdge byAlias "sub_node" (dumpEndpoint edge.fromNode none)
      (dumpEndpoint edge.toNode none) (some edge.slot)

/-- The dump of a node. -/
def NodeSpec.modelDump (node : NodeSpec) : Json :=
  .obj [("id", .str node.id), ("type", .str node.type), ("config", .obj node.config.entries),
    ("input_values", .obj node.inputValues.entries)]

/-- The dump of a graph. -/
def GraphSpec.modelDump (byAlias : Bool) (graph : GraphSpec) : Json :=
  .obj [("version", .str graph.version), ("nodes", .arr (graph.nodes.map NodeSpec.modelDump)),
    ("edges", .arr (graph.edges.map (EdgeSpec.modelDump byAlias)))]

/-! ## Reading what was written -/

theorem Config.withDefault_of_get? {α : Type} {config : Config} {field : String} {json : Json}
    {read : Json → Option α} {value default : α} (hget : config.get? field = some json)
    (hread : read json = some value) : config.withDefault field read default = .ok value := by
  rw [Config.withDefault, hget]
  simp only [hread]

theorem EdgeSpec.parse_modelDump (byAlias : Bool) (edge : EdgeSpec) :
    EdgeSpec.parse (edge.modelDump byAlias) = .ok edge := by
  cases byAlias <;> cases edge <;> rfl

theorem NodeSpec.parse_modelDump (node : NodeSpec) : NodeSpec.parse node.modelDump = .ok node := by
  have hconfig : (Json.obj node.config.entries).obj? = some node.config :=
    congrArg some (Dict.ofList_entries _)
  have hinputs : (Json.obj node.inputValues.entries).obj? = some node.inputValues :=
    congrArg some (Dict.ofList_entries _)
  exact except_bind_eq_ok.mpr ⟨node.id, rfl, except_bind_eq_ok.mpr ⟨node.type, rfl,
    except_bind_eq_ok.mpr ⟨node.config, Config.withDefault_of_get? rfl hconfig,
      except_bind_eq_ok.mpr ⟨node.inputValues, Config.withDefault_of_get? rfl hinputs, rfl⟩⟩⟩⟩

/-- Reading the dumps of values gives the values. -/
theorem mapM_parse_dump {α : Type} {dump : α → Json} {parse : Json → Except String α}
    (h : ∀ value, parse (dump value) = .ok value) (values : List α) :
    (values.map dump).mapM parse = .ok values := by
  induction values with
  | nil => rfl
  | cons value values ih =>
      rw [List.map_cons, List.mapM_cons, h, ih]
      rfl

/-- A graph is read back from its dump, with either key. -/
theorem GraphSpec.parse_modelDump (byAlias : Bool) (graph : GraphSpec) :
    GraphSpec.parse (graph.modelDump byAlias) = .ok graph := by
  exact except_bind_eq_ok.mpr ⟨graph.version, rfl,
    except_bind_eq_ok.mpr ⟨graph.nodes.map NodeSpec.modelDump, rfl,
      except_bind_eq_ok.mpr ⟨graph.nodes, mapM_parse_dump NodeSpec.parse_modelDump _,
        except_bind_eq_ok.mpr ⟨graph.edges.map (EdgeSpec.modelDump byAlias), rfl,
          except_bind_eq_ok.mpr ⟨graph.edges, mapM_parse_dump (EdgeSpec.parse_modelDump byAlias) _,
            dif_pos graph.nodupIds⟩⟩⟩⟩⟩

/-! ## Reading a graph from a text -/

section

open JsonText

variable (nearestFloat : Int → Int → Int × Int)

/-- The graph of a text (`parse_graph_json`). An error is the text of the `GraphParseError`. -/
def parseGraphJson (text : List Char) : Except String GraphSpec :=
  match jsonLoads nearestFloat text with
  | .error e => .error s!"Invalid JSON: {e}"
  | .ok raw => (GraphSpec.parse raw).mapError fun e => s!"Graph schema invalid: {e}"

variable {nearestFloat}

theorem parse_graph_json_ok_iff {text : List Char} {graph : GraphSpec} :
    parseGraphJson nearestFloat text = .ok graph ↔
      ∃ raw, jsonLoads nearestFloat text = .ok raw ∧ GraphSpec.parse raw = .ok graph := by
  rw [parseGraphJson]
  cases hraw : jsonLoads nearestFloat text with
  | error e => simp
  | ok raw => simp [mapError_eq_ok]

/-- The values of an object are loadable when it is. -/
theorem loadable_of_get? {json value : Json} {fields : Config} {key : String}
    (h : Loadable nearestFloat json) (hobj : json.obj? = some fields)
    (hget : fields.get? key = some value) : Loadable nearestFloat value := by
  cases h with
  | obj hkeys hfields =>
      cases hobj
      exact hfields _ (Dict.mem_of_get?_ofList hget)
  | _ => cases hobj

/-- An object is written with loadable values when those it was read with are. -/
theorem loadable_entries {json : Json} {fields : Config} (h : Loadable nearestFloat json)
    (hobj : json.obj? = some fields) : Loadable nearestFloat (.obj fields.entries) := by
  refine .obj fields.nodupKeys fun field hfield => ?_
  exact loadable_of_get? h hobj (Dict.mem_entries_iff.mp hfield)

/-- A field that is an object, or is absent. -/
theorem loadable_withDefault {json : Json} {fields config : Config} {field : String}
    (h : Loadable nearestFloat json) (hobj : json.obj? = some fields)
    (hread : fields.withDefault field Json.obj? .empty = .ok config) :
    Loadable nearestFloat (.obj config.entries) := by
  unfold Config.withDefault at hread
  split at hread
  · cases hread
    exact .obj List.nodup_nil (by simp [Dict.empty])
  · rename_i value hget
    split at hread
    · cases hread
    · rename_i hconfig
      cases hread
      exact loadable_entries (loadable_of_get? h hobj hget) hconfig

/-- What is read from each of some values has a property. -/
theorem forall_of_mapM_ok {α : Type} {parse : Json → Except String α} {P : α → Prop}
    {values : List Json} (h : ∀ value ∈ values, ∀ result, parse value = .ok result → P result)
    {results : List α} (hresults : values.mapM parse = .ok results) :
    ∀ result ∈ results, P result := by
  induction values generalizing results with
  | nil =>
      cases hresults
      simp
  | cons value values ih =>
      rw [List.mapM_cons] at hresults
      obtain ⟨first, hfirst, hrest⟩ := except_bind_eq_ok.mp hresults
      obtain ⟨rest, htail, heq⟩ := except_bind_eq_ok.mp hrest
      cases heq
      rw [List.forall_mem_cons]
      exact ⟨h value List.mem_cons_self first hfirst,
        ih (fun value hvalue => h value (List.mem_cons_of_mem _ hvalue)) htail⟩

/-- A node that is read from a loadable value can be written. -/
theorem NodeSpec.modelDump_loadable {json : Json} {node : NodeSpec}
    (h : Loadable nearestFloat json) (hnode : NodeSpec.parse json = .ok node) :
    Loadable nearestFloat node.modelDump := by
  unfold NodeSpec.parse at hnode
  split at hnode
  · cases hnode
  · rename_i fields hobj
    obtain ⟨id, -, hnode⟩ := except_bind_eq_ok.mp hnode
    obtain ⟨type, -, hnode⟩ := except_bind_eq_ok.mp hnode
    obtain ⟨config, hconfig, hnode⟩ := except_bind_eq_ok.mp hnode
    obtain ⟨inputs, hinputs, hnode⟩ := except_bind_eq_ok.mp hnode
    cases hnode
    refine .obj (by simp) ?_
    simp only [List.forall_mem_cons]
    exact ⟨.str _, .str _, loadable_withDefault h hobj hconfig,
      loadable_withDefault h hobj hinputs, by simp⟩

theorem dumpEndpoint_loadable (node : String) (slot : Option String) :
    Loadable nearestFloat (dumpEndpoint node slot) := by
  refine .obj (by simp) ?_
  cases slot with
  | none => simpa using ⟨.str node, .null⟩
  | some slot => simpa using ⟨.str node, .str slot⟩

theorem EdgeSpec.modelDump_loadable (byAlias : Bool) (edge : EdgeSpec) :
    Loadable nearestFloat (edge.modelDump byAlias) := by
  have hdump : ∀ kind source target slot, Loadable nearestFloat source →
      Loadable nearestFloat target →
      Loadable nearestFloat (dumpEdge byAlias kind source target slot) := by
    intro kind source target slot hsource htarget
    refine .obj (by cases byAlias <;> simp [fromKey]) ?_
    simp only [List.forall_mem_cons]
    exact ⟨.str _, hsource, htarget, by cases slot <;> constructor, by simp⟩
  cases edge <;> exact hdump _ _ _ _ (dumpEndpoint_loadable _ _) (dumpEndpoint_loadable _ _)

/-- A graph that is read from a loadable value can be written. -/
theorem GraphSpec.modelDump_loadable (byAlias : Bool) {json : Json} {graph : GraphSpec}
    (h : Loadable nearestFloat json) (hgraph : GraphSpec.parse json = .ok graph) :
    Loadable nearestFloat (graph.modelDump byAlias) := by
  unfold GraphSpec.parse at hgraph
  split at hgraph
  · cases hgraph
  · rename_i fields hobj
    obtain ⟨version, -, hgraph⟩ := except_bind_eq_ok.mp hgraph
    obtain ⟨items, hitems, hgraph⟩ := except_bind_eq_ok.mp hgraph
    obtain ⟨nodes, hnodes, hgraph⟩ := except_bind_eq_ok.mp hgraph
    obtain ⟨edgeItems, -, hgraph⟩ := except_bind_eq_ok.mp hgraph
    obtain ⟨edges, -, hgraph⟩ := except_bind_eq_ok.mp hgraph
    have hloadable : ∀ item ∈ items, Loadable nearestFloat item := by
      unfold Config.required at hitems
      split at hitems
      · cases hitems
      · rename_i value hget
        have hvalue := loadable_of_get? h hobj hget
        split at hitems
        · cases hitems
        · rename_i hread
          cases hitems
          cases hvalue with
          | arr hitems =>
              cases hread
              exact hitems
          | _ => cases hread
    split at hgraph
    · cases hgraph
      refine .obj (by simp) ?_
      simp only [List.forall_mem_cons]
      refine ⟨.str _, .arr ?_, .arr ?_, by simp⟩
      · rw [List.forall_mem_map]
        exact forall_of_mapM_ok
          (fun item hitem node hnode => node.modelDump_loadable (hloadable item hitem) hnode) hnodes
      · rw [List.forall_mem_map]
        exact fun edge _ => edge.modelDump_loadable byAlias
    · cases hgraph

/-- A graph file that is accepted is written again as a text that is accepted as the same graph:
with either key of an edge's start, and with any indentation. Texts with `NaN`, `Infinity`, a lone
surrogate or a number too large for a float are left out. -/
theorem parse_graph_json_dumps {floatRepr : Int → Int → List Char}
    (hfloats : FloatsFaithful nearestFloat floatRepr) (byAlias : Bool) (indent : Option Nat)
    {text : List Char} {graph : GraphSpec} (h : parseGraphJson nearestFloat text = .ok graph) :
    ∃ dumped, jsonDumps floatRepr indent (graph.modelDump byAlias) = .ok dumped ∧
      parseGraphJson nearestFloat dumped = .ok graph := by
  obtain ⟨raw, hraw, hgraph⟩ := parse_graph_json_ok_iff.mp h
  have hloadable := graph.modelDump_loadable byAlias (json_loads_loadable hfloats hraw) hgraph
  obtain ⟨dumped, hdumped, hread⟩ := json_loads_dumps hfloats indent hloadable
  exact ⟨dumped, hdumped, parse_graph_json_ok_iff.mpr ⟨_, hread, graph.parse_modelDump byAlias⟩⟩

/-- A file whose edge starts under the field's own name, and which leaves out the fields with a
default. -/
def edgeFile : List Char :=
  ("\x7b\"version\": \"1\", \"nodes\": [\x7b\"id\": \"a\", \"type\": \"t\"\x7d], " ++
    "\"edges\": [\x7b\"from_\": \x7b\"node\": \"a\", \"slot\": \"o\"\x7d, " ++
      "\"to\": \x7b\"node\": \"a\", \"slot\": \"i\"\x7d\x7d]\x7d").toList

theorem edge_file_dumps :
    ∃ graph dumped, parseGraphJson exactFloat edgeFile = .ok graph ∧
      jsonDumps exactRepr (some 2) (graph.modelDump true) = .ok dumped ∧
      parseGraphJson exactFloat dumped = .ok graph := by
  have haccepted : (parseGraphJson exactFloat edgeFile).isOk = true := by decide +kernel
  cases hgraph : parseGraphJson exactFloat edgeFile with
  | error e =>
      rw [hgraph] at haccepted
      cases haccepted
  | ok graph =>
      obtain ⟨dumped, hdumped, hread⟩ :=
        parse_graph_json_dumps exact_floats_faithful true (some 2) hgraph
      exact ⟨graph, dumped, rfl, hdumped, hread⟩

end

end AgentGraphStudio
