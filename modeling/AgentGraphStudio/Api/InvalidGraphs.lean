import AgentGraphStudio.Api.Submission
import AgentGraphStudio.Mcp.RemoteClient
import AgentGraphStudio.Validation.Faults

/-!
# Answers to graphs that are not valid

The three routes of `backend/api/app.py` that validate a graph before they run or register it:
`submit_run`, `activate_graph` and `invoke_graph`. Each turns the failed validation into an
answer with the status 422, and none expects another exception. `invoke_graph` derives the
names of a graph's inputs and outputs first. The framework writes the detail of an answer down as
UTF-8, and answers with the status 500 when a text in it has no encoding. What a route does with an
accepted graph is not part of this module.
-/

namespace AgentGraphStudio

namespace Raising

/-! ## Answers -/

/-- What an answer says. Some end with the `repr` of a list of names, which escapes what has no
encoding. -/
inductive Detail where
  | issues (issues : List ValidationIssue)
  | missingSlots (missing : List SlotRow)
  | text (text : String)
  | fields (message : String) (names : List String)

/-- The texts of an issue that are not escaped. The message of a cycle ends with the `repr` of the
nodes. -/
def issueTexts (issue : ValidationIssue) : List String :=
  issue.nodeId.toList ++ if issue.rule = "cycle" then [] else [issue.message]

/-- The texts in a detail that are neither constant nor escaped. -/
def Detail.texts : Detail → List String
  | .issues found => found.flatMap issueTexts
  | .missingSlots slots => slots.flatMap fun slot => [slot.slotName, slot.connectionType]
  | .text value => [value]
  | .fields _ _ => []

/-- A route goes on with the graph, raises an `HTTPException`, or lets another exception through. -/
inductive Answer where
  | accepted
  | httpException (statusCode : Nat) (detail : Detail)
  | crashed

/-- The status of an answer. -/
def Answer.status (python : Python) : Answer → Option Nat
  | .accepted => none
  | .httpException statusCode detail =>
    if ∀ text ∈ detail.texts, python.encodes text then some statusCode else some 500
  | .crashed => some 500

/-- The answer to a validation. -/
def answer : Except PyException (Except (List ValidationIssue) Unit) → Answer
  | .ok (.ok ()) => .accepted
  | .ok (.error issues) => .httpException 422 (.issues issues)
  | .error _ => .crashed

/-! ## The contract of a graph -/

/-- A field of a contract. -/
structure InvokeContractField where
  name : String
  nodeId : String
  direction : String
  required : Bool
  default : Option String := none

/-- The names of a graph's inputs and outputs, and their fields. -/
structure InvokeContract where
  inputNameToNodeId : Dict String String := .empty
  outputNameToNodeId : Dict String String := .empty
  inputFields : List InvokeContractField := []
  outputFields : List InvokeContractField := []

/-- Why there is no contract: two nodes have one name, or a field is not the string that it
should be, which no route expects. -/
inductive ContractFailure where
  | contractError (message : String)
  | exception (e : String)

/-- Is a value neither a string nor empty? -/
def notText : Option Json → Bool
  | none | some (.str _) => false
  | some value => truthy value

/-- A field of a node, or nothing if it is empty. -/
def textOrNone (node : NodeSpec) (field : String) : Except ContractFailure (Option String) :=
  if notText (node.config.get? field) then
    .error (.exception s!"{field}: Input should be a valid string")
  else .ok (((node.config.get? field).bind Json.str?).filter fun text => text ≠ "")

/-- The text for two nodes with one name. -/
def collisionText (type name : String) : String :=
  s!"Two {type} nodes both resolve to external field name '{name}'"

/-- The name of a node, which no earlier one may have. A label that is not a string cannot be
looked up, or is refused by the field that is made of it. -/
def externalName (names : Dict String String) (node : NodeSpec) :
    Except ContractFailure String := do
  let name := (← textOrNone node "label").getD node.id
  if name ∈ names.keys then .error (.contractError (collisionText node.type name)) else .ok name

/-- Add a node to a contract. -/
def addNode (contract : InvokeContract) (node : NodeSpec) :
    Except ContractFailure InvokeContract :=
  if node.type = "text_input" then do
    let name ← externalName contract.inputNameToNodeId node
    let default ← textOrNone node "value"
    .ok { contract with
      inputNameToNodeId := contract.inputNameToNodeId.set name node.id
      inputFields := contract.inputFields ++ [⟨name, node.id, "input", default.isNone, default⟩] }
  else if node.type = "text_output" then do
    let name ← externalName contract.outputNameToNodeId node
    .ok { contract with
      outputNameToNodeId := contract.outputNameToNodeId.set name node.id
      outputFields := contract.outputFields ++ [⟨name, node.id, "output", false, none⟩] }
  else .ok contract

/-- Derive the contract of a graph (`_build_contract`). -/
def buildContract (nodes : List NodeSpec) : Except ContractFailure InvokeContract :=
  nodes.foldlM addNode {}

/-- Override the values of the `text_input` nodes (`_apply_inputs`). -/
def applyInputs (graph : GraphSpec) (inputNameToNodeId : Dict String String)
    (supplied : Dict String String) : GraphSpec :=
  supplied.entries.foldl (fun graph entry =>
    match inputNameToNodeId.get? entry.1 with
    | none => graph
    | some nodeId => iterationGraph graph nodeId (.str entry.2)) graph

/-- The names that the contract does not know. -/
def unknownFields (contract : InvokeContract) (inputs : Dict String String) : List String :=
  (inputs.keys.filter fun name =>
    name ∉ contract.inputNameToNodeId.keys).mergeSort fun a b => decide (a ≤ b)

/-- The required names that are not given. -/
def missingFields (contract : InvokeContract) (inputs : Dict String String) : List String :=
  ((contract.inputFields.filter fun field =>
    field.required ∧ field.name ∉ inputs.keys).map InvokeContractField.name).mergeSort
      fun a b => decide (a ≤ b)

/-! ## The routes -/

section

variable (python : Python) (astRaises : String → Option AstException)

/-- The answer to a submission that is refused. -/
def refusal : SubmitError → Answer
  | .missingSlots missing => .httpException 409 (.missingSlots missing)
  | .invalid issues => .httpException 422 (.issues issues)
  | .unresolved (.connectionNotFound name) => .httpException 422 (.text name)
  | .unresolved _ => .crashed

/-- Submit a run. The slots of a shared graph are mapped first. -/
def submitRun (registry : NodeRegistry Body) (stores : GraphStores) (store : ConnectionStore)
    (graph : GraphSpec) (graphId runBy : Option String) : Answer :=
  match slotMappingsFor stores graphId runBy with
  | .error error => refusal error
  | .ok slotMappings =>
    answer (validateGraph python astRaises graph registry store runBy slotMappings)

/-- Activate a graph. -/
def activateGraph (registry : NodeRegistry Body) (store : ConnectionStore) (graph : GraphSpec)
    (activatedBy : Option String) : Answer :=
  answer (validateGraph python astRaises graph registry store activatedBy .empty)

/-- Invoke a saved graph with some inputs, as its owner. -/
def invokeGraph (registry : NodeRegistry Body) (store : ConnectionStore) (graph : GraphSpec)
    (owner : Option String) (inputs : Dict String String) : Answer :=
  match buildContract graph.nodes with
  | .error (.contractError message) => .httpException 422 (.text message)
  | .error (.exception _) => .crashed
  | .ok contract =>
    if unknownFields contract inputs ≠ [] then
      .httpException 422 (.fields "Unrecognized input field(s): " (unknownFields contract inputs))
    else if missingFields contract inputs ≠ [] then
      .httpException 422
        (.fields "Missing required input field(s): " (missingFields contract inputs))
    else
      answer (validateGraph python astRaises
        (applyInputs graph contract.inputNameToNodeId inputs) registry store owner .empty)

end

/-! ## When a contract can be derived -/

/-- A label, or the value of an input, is neither a string nor empty. -/
def Unreadable (node : NodeSpec) : Prop :=
  (node.type = "text_input" ∨ node.type = "text_output") ∧
      notText (node.config.get? "label") = true ∨
    node.type = "text_input" ∧ notText (node.config.get? "value") = true

/-- The name under which a node is looked up: its label, whatever it is, or its id. -/
def lookupName (node : NodeSpec) : Json :=
  match node.config.get? "label" with
  | none => .str node.id
  | some label => if truthy label then label else .str node.id

/-- The names of the nodes of a type. -/
def namesOf (type : String) (nodes : List NodeSpec) : List Json :=
  (nodes.filter fun node => node.type = type).map lookupName

/-- Two inputs, or two outputs, have one name. -/
def Collides (nodes : List NodeSpec) : Prop :=
  ¬ (namesOf "text_input" nodes).Nodup ∨ ¬ (namesOf "text_output" nodes).Nodup

/-- Every node that cannot be read comes after a collision, or takes part in one. -/
def ContractReadable (nodes : List NodeSpec) : Prop :=
  ∀ before node after, nodes = before ++ node :: after → Unreadable node →
    Collides (before ++ [node])

/-- What is known of a contract: its names are those of the nodes so far, all of them strings. -/
structure DerivedFrom (contract : InvokeContract) (nodes : List NodeSpec) : Prop where
  inputs : namesOf "text_input" nodes = contract.inputNameToNodeId.keys.map Json.str
  outputs : namesOf "text_output" nodes = contract.outputNameToNodeId.keys.map Json.str

theorem names_of_snoc (type : String) (nodes : List NodeSpec) (node : NodeSpec) :
    namesOf type (nodes ++ [node]) =
      namesOf type nodes ++ if node.type = type then [lookupName node] else [] := by
  rw [namesOf, namesOf, List.filter_append, List.map_append]
  by_cases htype : node.type = type <;> simp [htype]

/-- The names of one more node are distinct if it has a new one. -/
theorem names_nodup_snoc_iff {type : String} {nodes : List NodeSpec} {node : NodeSpec} :
    (namesOf type (nodes ++ [node])).Nodup ↔
      (namesOf type nodes).Nodup ∧ (node.type = type → lookupName node ∉ namesOf type nodes) := by
  rw [names_of_snoc]
  by_cases htype : node.type = type
  · simp only [htype, if_true, true_imp_iff, List.nodup_append', List.nodup_singleton, true_and,
      List.disjoint_singleton]
  · simp only [htype, if_false, List.append_nil, false_imp_iff, and_true]

/-- A node collides if its name is taken by an earlier one of its type. -/
theorem collides_snoc_iff {nodes : List NodeSpec} {node : NodeSpec} (h : ¬ Collides nodes) :
    Collides (nodes ++ [node]) ↔ (node.type = "text_input" ∨ node.type = "text_output") ∧
      lookupName node ∈ namesOf node.type nodes := by
  obtain ⟨hinputs, houtputs⟩ := not_or.mp h
  rw [Collides, names_nodup_snoc_iff, names_nodup_snoc_iff]
  simp only [not_not.mp hinputs, not_not.mp houtputs, true_and, Classical.not_imp, not_not]
  constructor
  · rintro (⟨htype, hmem⟩ | ⟨htype, hmem⟩)
    · exact ⟨.inl htype, htype ▸ hmem⟩
    · exact ⟨.inr htype, htype ▸ hmem⟩
  · rintro ⟨htype | htype, hmem⟩
    · exact .inl ⟨htype, htype ▸ hmem⟩
    · exact .inr ⟨htype, htype ▸ hmem⟩

theorem Collides.snoc {nodes : List NodeSpec} (h : Collides nodes) (node : NodeSpec) :
    Collides (nodes ++ [node]) := by
  rw [Collides, names_nodup_snoc_iff, names_nodup_snoc_iff]
  exact h.imp (mt And.left) (mt And.left)

theorem Collides.append {nodes : List NodeSpec} (h : Collides nodes) (more : List NodeSpec) :
    Collides (nodes ++ more) := by
  induction more using List.reverseRecOn with
  | nil => rwa [List.append_nil]
  | append_singleton more node ih =>
      rw [← List.append_assoc]
      exact ih.snoc node

/-- The names of a contract do not collide. -/
theorem DerivedFrom.distinct {contract : InvokeContract} {nodes : List NodeSpec}
    (h : DerivedFrom contract nodes) : ¬ Collides nodes := by
  rw [Collides, h.inputs, h.outputs]
  have hinjective : Function.Injective Json.str := fun _ _ heq => Json.str.inj heq
  rintro (hcollides | hcollides)
  · exact hcollides (contract.inputNameToNodeId.nodupKeys.map hinjective)
  · exact hcollides (contract.outputNameToNodeId.nodupKeys.map hinjective)

/-- The last node decides, if the others can be read or come after a collision. -/
theorem contract_readable_snoc_iff {nodes : List NodeSpec} {node : NodeSpec} :
    ContractReadable (nodes ++ [node]) ↔
      ContractReadable nodes ∧ (Unreadable node → Collides (nodes ++ [node])) := by
  constructor
  · intro h
    refine ⟨fun before other after hnodes => ?_, h nodes node [] rfl⟩
    exact h before other (after ++ [node]) (by rw [hnodes, List.append_assoc, List.cons_append])
  · rintro ⟨hnodes, hnode⟩ before other after hsplit hother
    rcases List.eq_nil_or_concat after with rfl | ⟨after, last, rfl⟩
    · obtain ⟨rfl, hlast⟩ := List.append_inj' hsplit rfl
      cases hlast
      exact hnode hother
    · rw [List.concat_eq_append, ← List.cons_append, ← List.append_assoc] at hsplit
      obtain ⟨rfl, _⟩ := List.append_inj' hsplit rfl
      exact hnodes before other after rfl hother

/-- A value that is no string is refused if it is not empty. -/
theorem not_text_eq_truthy {json : Json} (h : json.str? = none) :
    notText (some json) = truthy json := by
  cases json with
  | str text => cases h
  | _ => rfl

/-- The label of a node if it is a string that is not empty, and its id otherwise. -/
def labelOrId (node : NodeSpec) : String :=
  (((node.config.get? "label").bind Json.str?).filter fun text => text ≠ "").getD node.id

/-- A field that is a string or empty is read. -/
theorem text_or_none_of_text {node : NodeSpec} {field : String}
    (h : notText (node.config.get? field) = false) :
    ∃ text, textOrNone node field = .ok text := by
  rw [textOrNone, h]
  exact ⟨_, rfl⟩

theorem text_or_none_of_not_text {node : NodeSpec} {field : String}
    (h : notText (node.config.get? field) = true) :
    ∃ e, textOrNone node field = .error (.exception e) := by
  rw [textOrNone, h]
  exact ⟨_, rfl⟩

/-- A label that is read is the name, if it is not empty. -/
theorem lookup_name_of_text {node : NodeSpec}
    (h : notText (node.config.get? "label") = false) :
    lookupName node = .str (labelOrId node) := by
  rw [lookupName, labelOrId]
  cases hlabel : node.config.get? "label" with
  | none => rfl
  | some label =>
      rw [hlabel] at h
      dsimp only [Option.bind_some]
      cases hstr : label.str? with
      | none =>
          rw [← not_text_eq_truthy hstr, h]
          rfl
      | some text =>
          have htext : label = .str text := by
            cases label with
            | str other =>
                cases hstr
                rfl
            | _ => cases hstr
          subst htext
          by_cases hempty : text = "" <;> simp [truthy, hempty, Option.filter_some]

/-- A label that is refused is not the name of another node. -/
theorem lookup_name_of_not_text {node : NodeSpec}
    (h : notText (node.config.get? "label") = true) (name : String) :
    lookupName node ≠ .str name := by
  rw [lookupName]
  cases hlabel : node.config.get? "label" with
  | none =>
      rw [hlabel] at h
      cases h
  | some label =>
      rw [hlabel] at h
      dsimp only
      cases hstr : label.str? with
      | none =>
          rw [← not_text_eq_truthy hstr, if_pos h]
          rintro rfl
          cases hstr
      | some text =>
          cases label with
          | str other => cases h
          | _ => cases hstr

section

variable {names : Dict String String} {node : NodeSpec} {nodes : List NodeSpec} {type : String}

theorem external_name_of_text (h : notText (node.config.get? "label") = false) :
    externalName names node =
      if labelOrId node ∈ names.keys then
        .error (.contractError (collisionText node.type (labelOrId node)))
      else .ok (labelOrId node) := by
  rw [externalName, textOrNone, h]
  rfl

/-- A name is given unless it is taken by a node before, or is no string. -/
theorem external_name_cases (h : namesOf type nodes = names.keys.map Json.str) :
    (∃ name, externalName names node = .ok name ∧ lookupName node = .str name ∧
      name ∉ names.keys ∧ notText (node.config.get? "label") = false) ∨
    (externalName names node =
        .error (.contractError (collisionText node.type (labelOrId node))) ∧
      lookupName node ∈ namesOf type nodes ∧ notText (node.config.get? "label") = false) ∨
    (∃ e, externalName names node = .error (.exception e) ∧
      lookupName node ∉ namesOf type nodes ∧ notText (node.config.get? "label") = true) := by
  rw [h]
  cases hlabel : notText (node.config.get? "label") with
  | true =>
      refine .inr (.inr ⟨_, by rw [externalName, textOrNone, hlabel]; rfl, fun hmem => ?_, rfl⟩)
      obtain ⟨name, _, hname⟩ := List.mem_map.mp hmem
      exact lookup_name_of_not_text hlabel name hname.symm
  | false =>
      rw [lookup_name_of_text hlabel, external_name_of_text hlabel]
      by_cases hmem : labelOrId node ∈ names.keys
      · exact .inr (.inl ⟨if_pos hmem, List.mem_map_of_mem hmem, rfl⟩)
      · exact .inl ⟨labelOrId node, if_neg hmem, rfl, hmem, rfl⟩

/-- A node is added to a contract, collides with an earlier one, or cannot be read. -/
theorem add_node_cases {contract : InvokeContract} (h : DerivedFrom contract nodes) :
    (∃ result, addNode contract node = .ok result ∧ DerivedFrom result (nodes ++ [node]) ∧
      ¬ Unreadable node) ∨
    (addNode contract node =
        .error (.contractError (collisionText node.type (labelOrId node))) ∧
      Collides (nodes ++ [node])) ∨
    (∃ e, addNode contract node = .error (.exception e) ∧ Unreadable node ∧
      ¬ Collides (nodes ++ [node])) := by
  rw [addNode, collides_snoc_iff h.distinct]
  by_cases hinput : node.type = "text_input"
  · rw [if_pos hinput]
    rcases external_name_cases h.inputs with ⟨name, hname, hlookup, hfree, hlabel⟩ |
      ⟨hname, htaken, hlabel⟩ | ⟨e, hname, hfree, hlabel⟩
    · rw [hname]
      cases hvalue : notText (node.config.get? "value") with
      | false =>
          obtain ⟨default, hdefault⟩ := text_or_none_of_text hvalue
          refine .inl ⟨_, by rw [hdefault]; rfl, ⟨?_, ?_⟩, ?_⟩
          · rw [names_of_snoc, if_pos hinput, h.inputs, hlookup,
              Dict.keys_set_of_notMem _ _ hfree, List.map_append]
            rfl
          · rw [names_of_snoc, if_neg (by rw [hinput]; decide), List.append_nil, h.outputs]
          · rintro (⟨_, hother⟩ | ⟨_, hother⟩)
            · rw [hlabel] at hother
              cases hother
            · rw [hvalue] at hother
              cases hother
      | true =>
          obtain ⟨e, he⟩ := text_or_none_of_not_text hvalue
          refine .inr (.inr ⟨e, by rw [he]; rfl, .inr ⟨hinput, hvalue⟩, fun hcollides => ?_⟩)
          rw [hinput, h.inputs, hlookup] at hcollides
          obtain ⟨_, hmem, ⟨⟩⟩ := List.mem_map.mp hcollides.2
          exact hfree hmem
    · rw [hname]
      exact .inr (.inl ⟨rfl, .inl hinput, hinput ▸ htaken⟩)
    · rw [hname]
      exact .inr (.inr ⟨e, rfl, .inl ⟨.inl hinput, hlabel⟩,
        fun hcollides => hfree (hinput ▸ hcollides.2)⟩)
  · rw [if_neg hinput]
    by_cases houtput : node.type = "text_output"
    · rw [if_pos houtput]
      rcases external_name_cases h.outputs with ⟨name, hname, hlookup, hfree, hlabel⟩ |
        ⟨hname, htaken, hlabel⟩ | ⟨e, hname, hfree, hlabel⟩
      · rw [hname]
        refine .inl ⟨_, rfl, ⟨?_, ?_⟩, ?_⟩
        · rw [names_of_snoc, if_neg hinput, List.append_nil, h.inputs]
        · rw [names_of_snoc, if_pos houtput, h.outputs, hlookup,
            Dict.keys_set_of_notMem _ _ hfree, List.map_append]
          rfl
        · rintro (⟨_, hother⟩ | ⟨hother, _⟩)
          · rw [hlabel] at hother
            cases hother
          · exact hinput hother
      · rw [hname]
        exact .inr (.inl ⟨rfl, .inr houtput, houtput ▸ htaken⟩)
      · rw [hname]
        exact .inr (.inr ⟨e, rfl, .inl ⟨.inr houtput, hlabel⟩,
          fun hcollides => hfree (houtput ▸ hcollides.2)⟩)
    · rw [if_neg houtput]
      refine .inl ⟨contract, rfl, ⟨?_, ?_⟩, ?_⟩
      · rw [names_of_snoc, if_neg hinput, List.append_nil, h.inputs]
      · rw [names_of_snoc, if_neg houtput, List.append_nil, h.outputs]
      · rintro (⟨hother, _⟩ | ⟨hother, _⟩)
        · exact hother.elim hinput houtput
        · exact hinput hother

/-- The node is the first one with the name of an earlier node of its type. -/
def FirstCollision (nodes : List NodeSpec) (node : NodeSpec) : Prop :=
  ∃ before after, nodes = before ++ node :: after ∧ ¬ Collides before ∧
    Collides (before ++ [node])

theorem FirstCollision.snoc (h : FirstCollision nodes node) (last : NodeSpec) :
    FirstCollision (nodes ++ [last]) node := by
  obtain ⟨before, after, rfl, hfree, hcollides⟩ := h
  exact ⟨before, after ++ [last], by simp, hfree, hcollides⟩

theorem FirstCollision.collides (h : FirstCollision nodes node) : Collides nodes := by
  obtain ⟨before, after, rfl, _, hcollides⟩ := h
  have happend := hcollides.append after
  rwa [List.append_assoc] at happend

theorem FirstCollision.unique {other : NodeSpec} (h : FirstCollision nodes node)
    (hother : FirstCollision nodes other) : other = node := by
  obtain ⟨before, after, rfl, hfree, hcollides⟩ := h
  obtain ⟨before', after', hsplit, hfree', hcollides'⟩ := hother
  -- The nodes before one of them would else begin with the other collision.
  rcases List.append_eq_append_iff.mp hsplit with ⟨between, rfl, hnode⟩ | ⟨between, rfl, hnode⟩
  · cases between with
    | nil => exact (List.cons.inj hnode).1.symm
    | cons first between =>
        obtain ⟨rfl, _⟩ := List.cons.inj hnode
        refine absurd (hcollides.append between) ?_
        rwa [List.append_assoc]
  · cases between with
    | nil => exact (List.cons.inj hnode).1
    | cons first between =>
        obtain ⟨rfl, _⟩ := List.cons.inj hnode
        refine absurd (hcollides'.append between) ?_
        rwa [List.append_assoc]

/-- The derivation of a contract fails with an exception exactly if a node cannot be read
before two others collide. -/
theorem build_contract_cases (nodes : List NodeSpec) :
    (∃ contract, buildContract nodes = .ok contract ∧ DerivedFrom contract nodes ∧
      ContractReadable nodes) ∨
    (∃ node, buildContract nodes =
        .error (.contractError (collisionText node.type (labelOrId node))) ∧
      FirstCollision nodes node ∧ ContractReadable nodes) ∨
    (∃ e, buildContract nodes = .error (.exception e) ∧ ¬ ContractReadable nodes) := by
  induction nodes using List.reverseRecOn with
  | nil =>
      refine .inl ⟨{}, rfl, ⟨rfl, rfl⟩, fun before node after hnodes => ?_⟩
      simp at hnodes
  | append_singleton nodes node ih =>
      have hsnoc : buildContract (nodes ++ [node]) =
          buildContract nodes >>= fun contract => addNode contract node := by
        simp only [buildContract, List.foldlM_append, List.foldlM_cons, List.foldlM_nil, bind_pure]
      rw [hsnoc, contract_readable_snoc_iff]
      rcases ih with ⟨contract, hcontract, hderived, hreadable⟩ |
        ⟨first, hcontract, hcollides, hreadable⟩ | ⟨e, hcontract, hreadable⟩
      · rw [hcontract]
        rcases @add_node_cases node nodes contract hderived with ⟨result, hadd, hresult, hread⟩ |
          ⟨hadd, hcollides⟩ | ⟨e, hadd, hunread, hfree⟩
        · exact .inl ⟨result, hadd, hresult, hreadable, fun hunread => absurd hunread hread⟩
        · exact .inr (.inl ⟨node, hadd, ⟨nodes, [], rfl, hderived.distinct, hcollides⟩, hreadable,
            fun _ => hcollides⟩)
        · exact .inr (.inr ⟨e, hadd, fun h => hfree (h.2 hunread)⟩)
      · rw [hcontract]
        exact .inr (.inl ⟨first, rfl, hcollides.snoc node, hreadable,
          fun _ => (hcollides.snoc node).collides⟩)
      · rw [hcontract]
        exact .inr (.inr ⟨e, rfl, fun h => hreadable h.1⟩)

end

/-! ## The inputs of an invocation -/

section

variable {astRaises : String → Option AstException} {registry : NodeRegistry Body}

/-- The value of an input is no source. -/
theorem source_raises_seed (nodeId : String) (value : Json) (node : NodeSpec) :
    sourceRaises astRaises (seedNode nodeId value node) = sourceRaises astRaises node := by
  rw [sourceRaises, sourceRaises, seedNode_type, seedNode]
  split
  · split
    · rw [Dict.get?_set_of_ne _ _ (by decide : "function_source" ≠ "value")]
    · rfl
  · rfl

theorem definition?_iteration_graph (graph : GraphSpec) (nodeId : String) (value : Json)
    (id : String) :
    definition? (iterationGraph graph nodeId value) registry id =
      definition? graph registry id := by
  rw [definition?, definition?, GraphSpec.node?, GraphSpec.node?]
  show ((graph.nodes.map (seedNode nodeId value)).find? fun node => node.id = id).bind _ = _
  rw [List.find?_map, Option.bind_map]
  simp only [Function.comp_def, seedNode_id, seedNode_type]

/-- The value of an input does not change at which nodes the validation raises. -/
theorem raises_at_iteration_iff (graph : GraphSpec) (nodeId : String) (value : Json) :
    (∃ node ∈ (iterationGraph graph nodeId value).nodes,
      RaisesAt astRaises (iterationGraph graph nodeId value) registry node) ↔
      ∃ node ∈ graph.nodes, RaisesAt astRaises graph registry node := by
  have hread : ∀ id, SlotsRead (iterationGraph graph nodeId value) registry id ↔
      SlotsRead graph registry id := by
    intro id
    simp only [SlotsRead, definition?_iteration_graph]
    exact Iff.rfl
  rw [show (iterationGraph graph nodeId value).nodes = graph.nodes.map (seedNode nodeId value)
    from rfl]
  simp only [List.mem_map, exists_exists_and_eq_and, RaisesAt, source_raises_seed, hread,
    seedNode_id]

theorem raises_at_apply_inputs_iff (graph : GraphSpec) (inputNameToNodeId : Dict String String)
    (supplied : Dict String String) :
    (∃ node ∈ (applyInputs graph inputNameToNodeId supplied).nodes,
      RaisesAt astRaises (applyInputs graph inputNameToNodeId supplied) registry node) ↔
      ∃ node ∈ graph.nodes, RaisesAt astRaises graph registry node := by
  rw [applyInputs]
  induction supplied.entries generalizing graph with
  | nil => exact Iff.rfl
  | cons entry entries ih =>
      rw [List.foldl_cons, ih]
      cases inputNameToNodeId.get? entry.1 with
      | none => exact Iff.rfl
      | some nodeId => exact raises_at_iteration_iff graph nodeId _

end

/-! ## Every graph that is not valid gets its answer -/

/-- The validation of a graph always ends, and the routes answer with the status 422 unless they
accept the graph. A submission comes to the validation when the slots are mapped. -/
structure AnswersInvalid (python : Python) (astRaises : String → Option AstException)
    (registry : NodeRegistry Body) (graph : GraphSpec) : Prop where
  validates : ∀ store userId slotMappings, ∃ verdict,
    validateGraph python astRaises graph registry store userId slotMappings = .ok verdict
  submits : ∀ stores store graphId runBy slotMappings,
    slotMappingsFor stores graphId runBy = .ok slotMappings →
    submitRun python astRaises registry stores store graph graphId runBy = .accepted ∨
      (submitRun python astRaises registry stores store graph graphId runBy).status python =
        some 422
  activates : ∀ store activatedBy,
    activateGraph python astRaises registry store graph activatedBy = .accepted ∨
      (activateGraph python astRaises registry store graph activatedBy).status python = some 422
  invokes : ∀ store owner inputs,
    invokeGraph python astRaises registry store graph owner inputs = .accepted ∨
      (invokeGraph python astRaises registry store graph owner inputs).status python = some 422

/-- UTF-8 has an encoding for what an issue says. -/
def IssueEncoded (python : Python) (issue : ValidationIssue) : Prop :=
  ∀ text ∈ issueTexts issue, python.encodes text

/-- A graph that is validated for another: itself, or what an invocation makes of it with inputs
that its contract takes. -/
inductive Seeded (graph : GraphSpec) : GraphSpec → Prop where
  | self : Seeded graph graph
  | invoked {contract : InvokeContract} {inputs : Dict String String}
      (hcontract : buildContract graph.nodes = .ok contract)
      (hknown : unknownFields contract inputs = [])
      (hgiven : missingFields contract inputs = []) :
      Seeded graph (applyInputs graph contract.inputNameToNodeId inputs)

section

variable {python : Python} {astRaises : String → Option AstException} {graph seeded : GraphSpec}
  {registry : NodeRegistry Body} {store : ConnectionStore} {userId : Option String}
  {slotMappings : Dict String String}

/-- The validation ends if it raises at no node. -/
theorem validates_iff (hregistry : CodeRegistered python registry) :
    (∃ verdict, validateGraph python astRaises graph registry store userId slotMappings =
      .ok verdict) ↔ ¬ ∃ node ∈ graph.nodes, RaisesAt astRaises graph registry node := by
  rw [← @validate_graph_raises_iff python astRaises graph registry hregistry store userId
    slotMappings]
  cases validateGraph python astRaises graph registry store userId slotMappings with
  | ok verdict =>
      refine ⟨fun _ => ?_, fun _ => ⟨verdict, rfl⟩⟩
      rintro ⟨_, ⟨⟩⟩
  | error e =>
      refine ⟨?_, fun h => absurd ⟨e, rfl⟩ h⟩
      rintro ⟨_, ⟨⟩⟩

/-- What is raised for a graph is raised for what an invocation makes of it. -/
theorem Seeded.raises_iff (h : Seeded graph seeded) :
    (∃ node ∈ seeded.nodes, RaisesAt astRaises seeded registry node) ↔
      ∃ node ∈ graph.nodes, RaisesAt astRaises graph registry node := by
  cases h with
  | self => exact Iff.rfl
  | invoked => exact raises_at_apply_inputs_iff graph _ _

/-- An answer keeps its status if the texts in its detail have an encoding. -/
theorem status_iff {detail : Detail} :
    (Answer.httpException 422 detail).status python = some 422 ↔
      ∀ text ∈ detail.texts, python.encodes text := by
  rw [Answer.status]
  by_cases htexts : ∀ text ∈ detail.texts, python.encodes text
  · exact iff_of_true (if_pos htexts) htexts
  · refine iff_of_false ?_ htexts
    rw [if_neg htexts]
    decide

/-- Issues are written down if they have an encoding. -/
theorem status_issues_iff {issues : List ValidationIssue} :
    (Answer.httpException 422 (.issues issues)).status python = some 422 ↔
      ∀ issue ∈ issues, IssueEncoded python issue := by
  rw [status_iff]
  exact List.forall_mem_flatMap

theorem status_text_iff {text : String} :
    (Answer.httpException 422 (.text text)).status python = some 422 ↔ python.encodes text := by
  simp [status_iff, Detail.texts]

/-- A validation that ends is an acceptance, or a refusal whose issues are faults. -/
theorem answer_of_ok (h : ∃ verdict,
      validateGraph python astRaises seeded registry store userId slotMappings = .ok verdict)
    (hencoded : ∀ issue, Fault python astRaises seeded registry issue →
      IssueEncoded python issue) :
    answer (validateGraph python astRaises seeded registry store userId slotMappings) =
        .accepted ∨
      (answer (validateGraph python astRaises seeded registry store userId
        slotMappings)).status python = some 422 := by
  obtain ⟨verdict, hverdict⟩ := h
  rw [hverdict]
  cases verdict with
  | ok accepted => exact .inl rfl
  | error issues =>
      exact .inr (status_issues_iff.mpr fun issue hissue =>
        hencoded issue (fault_of_reported hverdict hissue))

/-- In an empty store, a refusal that is written down names faults with an encoding only. -/
theorem encoded_of_answer {issue : ValidationIssue} (h : ∃ verdict,
      validateGraph python astRaises seeded registry [] userId .empty = .ok verdict)
    (hanswer : answer (validateGraph python astRaises seeded registry [] userId .empty) =
        .accepted ∨
      (answer (validateGraph python astRaises seeded registry [] userId .empty)).status python =
        some 422)
    (hfault : Fault python astRaises seeded registry issue) : IssueEncoded python issue := by
  obtain ⟨verdict, hverdict⟩ := h
  obtain ⟨issues, rfl, hissue⟩ := reported_of_fault hverdict hfault
  rw [hverdict] at hanswer
  rcases hanswer with haccepted | hstatus
  · cases haccepted
  · exact status_issues_iff.mp hstatus issue hissue

/-- An invocation with inputs that the contract takes validates the graph with these inputs. -/
theorem invoke_graph_eq {contract : InvokeContract} {inputs : Dict String String}
    (hcontract : buildContract graph.nodes = .ok contract)
    (hknown : unknownFields contract inputs = []) (hgiven : missingFields contract inputs = []) :
    invokeGraph python astRaises registry store graph userId inputs =
      answer (validateGraph python astRaises
        (applyInputs graph contract.inputNameToNodeId inputs) registry store userId .empty) := by
  rw [invokeGraph, hcontract]
  dsimp only
  rw [if_neg (not_not.mpr hknown), if_neg (not_not.mpr hgiven)]

/-- An invocation of a graph whose sources and names can be read is answered. -/
theorem invoke_graph_answers (hregistry : CodeRegistered python registry)
    (hraises : ¬ ∃ node ∈ graph.nodes, RaisesAt astRaises graph registry node)
    (hreadable : ContractReadable graph.nodes)
    (hcollision : ∀ node, FirstCollision graph.nodes node →
      python.encodes (collisionText node.type (labelOrId node)))
    (hencoded : ∀ seeded, Seeded graph seeded → ∀ issue,
      Fault python astRaises seeded registry issue → IssueEncoded python issue)
    (store : ConnectionStore) (owner : Option String) (inputs : Dict String String) :
    invokeGraph python astRaises registry store graph owner inputs = .accepted ∨
      (invokeGraph python astRaises registry store graph owner inputs).status python =
        some 422 := by
  rcases build_contract_cases graph.nodes with ⟨contract, hcontract, _⟩ |
    ⟨node, hcontract, hfirst, _⟩ | ⟨_, _, hunread⟩
  · by_cases hknown : unknownFields contract inputs = []
    · by_cases hgiven : missingFields contract inputs = []
      · have hseeded := Seeded.invoked hcontract hknown hgiven
        rw [invoke_graph_eq hcontract hknown hgiven]
        exact answer_of_ok
          ((validates_iff hregistry).mpr fun h => hraises (hseeded.raises_iff.mp h))
          (hencoded _ hseeded)
      · rw [invokeGraph, hcontract]
        dsimp only
        rw [if_neg (not_not.mpr hknown), if_pos hgiven]
        exact .inr (status_iff.mpr (List.forall_mem_nil _))
    · rw [invokeGraph, hcontract]
      dsimp only
      rw [if_pos hknown]
      exact .inr (status_iff.mpr (List.forall_mem_nil _))
  · rw [invokeGraph, hcontract]
    exact .inr (status_text_iff.mpr (hcollision node hfirst))
  · exact absurd hreadable hunread

end

/-- The routes answer with 422 to every graph that is not valid exactly if reading no source of
the graph raises within the validation, no name of an input or output is neither a string nor
empty, unless two names collide before, and what the answer quotes of the graph has an encoding: the
first name that two nodes have, and the issues that report its faults. -/
theorem answers_invalid_iff (python : Python) (astRaises : String → Option AstException)
    (listedTools : String → List String → Option (List McpToolInfo))
    (bindings : List GeneratedBinding) (graph : GraphSpec) :
    AnswersInvalid python astRaises (processRegistry python listedTools bindings) graph ↔
      (∀ node ∈ graph.nodes,
        ¬ RaisesAt astRaises graph (processRegistry python listedTools bindings) node) ∧
      ContractReadable graph.nodes ∧
      (∀ node, FirstCollision graph.nodes node →
        python.encodes (collisionText node.type (labelOrId node))) ∧
      ∀ seeded, Seeded graph seeded → ∀ issue,
        Fault python astRaises seeded (processRegistry python listedTools bindings) issue →
          IssueEncoded python issue := by
  have hregistry : CodeRegistered python (processRegistry python listedTools bindings) :=
    process_registry_code listedTools bindings
  constructor
  · intro h
    have hnone := (validates_iff hregistry).mp (h.validates [] none .empty)
    have hinvoke := h.invokes [] none .empty
    refine ⟨fun node hnode hraises => hnone ⟨node, hnode, hraises⟩, ?_, fun node hfirst => ?_,
      fun seeded hseeded issue hfault => ?_⟩
    · rcases build_contract_cases graph.nodes with ⟨_, _, _, hreadable⟩ | ⟨_, _, _, hreadable⟩ |
        ⟨e, hcontract, _⟩
      · exact hreadable
      · exact hreadable
      · rw [invokeGraph, hcontract] at hinvoke
        rcases hinvoke with hinvoke | hinvoke <;> cases hinvoke
    · rcases build_contract_cases graph.nodes with ⟨_, _, hderived, _⟩ |
        ⟨first, hcontract, hcollides, _⟩ | ⟨e, hcontract, _⟩
      · exact absurd hfirst.collides hderived.distinct
      · rw [invokeGraph, hcontract] at hinvoke
        rw [hcollides.unique hfirst]
        rcases hinvoke with hinvoke | hinvoke
        · cases hinvoke
        · exact status_text_iff.mp hinvoke
      · rw [invokeGraph, hcontract] at hinvoke
        rcases hinvoke with hinvoke | hinvoke <;> cases hinvoke
    · have hvalidates : ∃ verdict, validateGraph python astRaises seeded
          (processRegistry python listedTools bindings) [] none .empty = .ok verdict :=
        (validates_iff hregistry).mpr (mt hseeded.raises_iff.mp hnone)
      cases hseeded with
      | self => exact encoded_of_answer hvalidates (h.activates [] none) hfault
      | @invoked _ inputs hcontract hknown hgiven =>
          have hanswer := h.invokes [] none inputs
          rw [invoke_graph_eq hcontract hknown hgiven] at hanswer
          exact encoded_of_answer hvalidates hanswer hfault
  · rintro ⟨hraises, hreadable, hcollision, hencoded⟩
    have hnone : ¬ ∃ node ∈ graph.nodes,
        RaisesAt astRaises graph (processRegistry python listedTools bindings) node :=
      fun ⟨node, hnode, h⟩ => hraises node hnode h
    refine ⟨fun _ _ _ => (validates_iff hregistry).mpr hnone, fun stores store graphId runBy
      slotMappings hmapped => ?_,
      fun _ _ => answer_of_ok ((validates_iff hregistry).mpr hnone) (hencoded _ .self),
      invoke_graph_answers hregistry hnone hreadable hcollision hencoded⟩
    rw [submitRun, hmapped]
    exact answer_of_ok ((validates_iff hregistry).mpr hnone) (hencoded _ .self)

/-- A graph of one `code` node. -/
def codeGraph (source : String) : GraphSpec where
  version := "1"
  nodes := [{ id := "c", type := "code", config := .ofList [("function_source", .str source)] }]
  edges := []
  nodupIds := List.nodup_singleton _

/-- What the parser raises for the source of the node comes through. -/
theorem code_graph_not_answered {python : Python} {astRaises : String → Option AstException}
    {listedTools : String → List String → Option (List McpToolInfo)}
    {bindings : List GeneratedBinding} {source e : String}
    (h : astRaises source = some (.other e)) :
    ¬ AnswersInvalid python astRaises (processRegistry python listedTools bindings)
      (codeGraph source) := by
  intro hanswers
  have hraises : sourceRaises astRaises
      { id := "c", type := "code", config := .ofList [("function_source", .str source)] } =
        some (.other e) := h
  exact (validates_iff (process_registry_code listedTools bindings)).mp
    (hanswers.validates [] none .empty) ⟨_, List.mem_singleton_self _, _, hraises, .inl rfl⟩

/-- A function whose value is negated more often than the parser can follow. -/
def deepSource : String :=
  "def f(x):\n    return " ++ String.ofList (List.replicate 100000 '-') ++ "x"

/-- The parser raises a `MemoryError` for a function that is nested too deeply, which no rule
catches. -/
theorem deep_source_not_answered :
    ¬ AnswersInvalid plainPython
      (fun source => if source = deepSource then
        some (.other "MemoryError: Parser stack overflowed") else none)
      (processRegistry plainPython (fun _ _ => none) []) (codeGraph deepSource) :=
  code_graph_not_answered (if_pos rfl)

end Raising

end AgentGraphStudio
