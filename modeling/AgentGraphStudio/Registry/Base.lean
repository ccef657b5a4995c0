import AgentGraphStudio.Schema.Models

/-!
# Node definitions and the node registry

`backend/registry/base.py`. A `NodeDefinition` bundles the schema of a node type with its
body; the body's type is a parameter, because neither validation nor the scheduler looks
inside one. A `NodeRegistry` carries what `register` checks: every definition is stored
under its own type name, and a declared result slot of a static type is one of its inputs.
-/

namespace AgentGraphStudio

/-- A declared input slot. -/
structure InputSlotSpec where
  name : String
  type : SlotTypeSpec
  required : Bool := true
  deriving DecidableEq, Repr

/-- A declared output slot. -/
structure OutputSlotSpec where
  name : String
  type : SlotTypeSpec
  deriving DecidableEq, Repr

/-- How many sub-nodes a sub-node slot takes. -/
inductive Cardinality where
  | one | zeroOrOne | many
  deriving DecidableEq, Repr

/-- A sub-node slot of a root type. No accepted role means that any type fits. -/
structure SubNodeSlotSpec where
  cardinality : Cardinality
  acceptsRole : Option String := none
  deriving DecidableEq, Repr

/-- The slots of one node of a dynamic-schema type, or `none` when its configuration does
not determine them. -/
abbrev ResolveSlots := NodeSpec → Option (List InputSlotSpec × List OutputSlotSpec)

/-- A registered node type. `configModel` validates a configuration and names the offending
field. -/
structure NodeDefinition (Body : Type) where
  typeName : String
  inputs : List InputSlotSpec
  outputs : List OutputSlotSpec
  configModel : Config → Except String Unit
  execute : Body
  resultSlot : Option String := none
  resolveSlots : Option ResolveSlots := none
  subNodeSlots : Option (Dict String SubNodeSlotSpec) := none
  subNodeRole : Option String := none
  resolveSlotsFromSubNode : Option String := none

variable {Body : Type}

/-- The input slots of a node: the static ones, or those its resolver gives. -/
def effectiveInputs (definition : NodeDefinition Body) (node : NodeSpec) :
    Option (List InputSlotSpec) :=
  match definition.resolveSlots with
  | none => some definition.inputs
  | some resolve => (resolve node).map Prod.fst

/-- The output slots of a node: the static ones, or those its resolver gives. -/
def effectiveOutputs (definition : NodeDefinition Body) (node : NodeSpec) :
    Option (List OutputSlotSpec) :=
  match definition.resolveSlots with
  | none => some definition.outputs
  | some resolve => (resolve node).map Prod.snd

/-- The slots of a node type that is looked up as a root (`sub_node_slots or {}`). -/
def NodeDefinition.subNodeSlotsOrEmpty (definition : NodeDefinition Body) :
    Dict String SubNodeSlotSpec :=
  definition.subNodeSlots.getD .empty

/-- A declared result slot of a static type is one of its inputs. -/
def NodeDefinition.ResultSlotDeclared (definition : NodeDefinition Body) : Prop :=
  ∀ slot ∈ definition.resultSlot, definition.resolveSlots.isNone →
    slot ∈ definition.inputs.map InputSlotSpec.name

instance (definition : NodeDefinition Body) : Decidable definition.ResultSlotDeclared :=
  inferInstanceAs (Decidable (∀ slot ∈ definition.resultSlot, definition.resolveSlots.isNone →
    slot ∈ definition.inputs.map InputSlotSpec.name))

/-- The registered node types by name. -/
structure NodeRegistry (Body : Type) where
  defs : Dict String (NodeDefinition Body)
  keyed : ∀ name definition, defs.get? name = some definition → definition.typeName = name
  declared : ∀ name definition, defs.get? name = some definition → definition.ResultSlotDeclared

namespace NodeRegistry

/-- A registry without types. -/
def empty : NodeRegistry Body := ⟨.empty, by simp, by simp⟩

/-- The definition of a type. -/
def get (registry : NodeRegistry Body) (typeName : String) : Option (NodeDefinition Body) :=
  registry.defs.get? typeName

/-- The names of all types, in registration order. -/
def allTypes (registry : NodeRegistry Body) : List String := registry.defs.keys

/-- Register a type, unless its name is taken or its result slot is not an input. -/
def register (registry : NodeRegistry Body) (definition : NodeDefinition Body) :
    Except String (NodeRegistry Body) :=
  if definition.typeName ∈ registry.defs.keys then
    .error s!"Duplicate node type registration: {definition.typeName}"
  else if h : definition.ResultSlotDeclared then
    .ok
      { defs := registry.defs.set definition.typeName definition
        keyed := fun name other hget => by
          rw [Dict.get?_set] at hget
          split at hget
          · cases hget
            exact Eq.symm ‹_›
          · exact registry.keyed name other hget
        declared := fun name other hget => by
          rw [Dict.get?_set] at hget
          split at hget
          · cases hget
            exact h
          · exact registry.declared name other hget }
  else
    let slot := definition.resultSlot.getD "None"
    .error (s!"'{definition.typeName}' declares result_slot='{slot}' but has no matching " ++
      "input slot")

/-- Register a list of types in order, leaving out those that `register` refuses. -/
def ofList (definitions : List (NodeDefinition Body)) : NodeRegistry Body :=
  definitions.foldl (fun registry definition =>
    match registry.register definition with
    | .ok registry => registry
    | .error _ => registry) empty

/-- A new type is found under its name, which nothing was found under before. -/
theorem get_register {registry result : NodeRegistry Body} {definition : NodeDefinition Body}
    (h : registry.register definition = .ok result) :
    definition.ResultSlotDeclared ∧ ∀ name, result.get name =
      (registry.get name).or (if definition.typeName = name then some definition else none) := by
  rw [register] at h
  split at h
  · cases h
  · rename_i hfree
    split at h
    · rename_i hdeclared
      cases h
      refine ⟨hdeclared, fun name => ?_⟩
      rw [get, get, Dict.get?_set]
      by_cases hname : name = definition.typeName
      · subst hname
        simp [Dict.get?_eq_none_iff.mpr hfree]
      · simp [hname, Ne.symm hname]
    · cases h

/-- A type is refused when its name is taken or its result slot is not an input. -/
theorem register_error {registry : NodeRegistry Body} {definition : NodeDefinition Body}
    {message : String} (h : registry.register definition = .error message) :
    (registry.get definition.typeName).isSome ∨ ¬ definition.ResultSlotDeclared := by
  rw [register] at h
  split at h
  · exact .inl (Dict.get?_isSome_iff.mpr ‹_›)
  · split at h
    · cases h
    · exact .inr ‹_›

/-- Of the definitions under a name, the first acceptable one is registered. -/
theorem get_ofList (definitions : List (NodeDefinition Body)) (name : String) :
    (ofList definitions).get name = definitions.find? fun definition =>
      definition.typeName = name ∧ definition.ResultSlotDeclared := by
  suffices hfold : ∀ registry : NodeRegistry Body,
      (definitions.foldl (fun registry definition =>
        match registry.register definition with
        | .ok registry => registry
        | .error _ => registry) registry).get name =
        (registry.get name).or (definitions.find? fun definition =>
          definition.typeName = name ∧ definition.ResultSlotDeclared) by
    simpa [ofList, get, empty] using hfold empty
  induction definitions with
  | nil => simp
  | cons definition definitions ih =>
      intro registry
      rw [List.foldl_cons, ih, List.find?_cons]
      cases hregister : registry.register definition with
      | ok result =>
          obtain ⟨hdeclared, hget⟩ := get_register hregister
          dsimp only
          rw [hget, Option.or_assoc]
          by_cases hname : definition.typeName = name <;> simp [hname, hdeclared]
      | error message =>
          by_cases hmatch : definition.typeName = name ∧ definition.ResultSlotDeclared
          · obtain ⟨rfl, hdeclared⟩ := hmatch
            rcases register_error hregister with htaken | hundeclared
            · obtain ⟨other, hother⟩ := Option.isSome_iff_exists.mp htaken
              simp [hother]
            · contradiction
          · simp [hmatch]

/-- Remove a type if it is registered. -/
def unregister (registry : NodeRegistry Body) (typeName : String) : NodeRegistry Body where
  defs := registry.defs.erase typeName
  keyed := fun name definition hget => by
    rw [Dict.get?_erase] at hget
    split at hget
    · cases hget
    · exact registry.keyed name definition hget
  declared := fun name definition hget => by
    rw [Dict.get?_erase] at hget
    split at hget
    · cases hget
    · exact registry.declared name definition hget

end NodeRegistry

end AgentGraphStudio
