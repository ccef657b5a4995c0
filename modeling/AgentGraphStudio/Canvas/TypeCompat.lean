import AgentGraphStudio.Validation.Rules

/-!
# Slot types on the canvas

`frontend/src/canvas/typeCompat.ts` compares two slot types by walking through the JSON that the
API sends for them. `slot_typing_agrees` says that the canvas lets two slots be connected exactly
if the backend accepts the edge.
-/

namespace AgentGraphStudio

/-! ## Comparing JSON -/

namespace Json

/-- The mantissa and the exponent of a number. -/
def number? : Json → Option (Int × Int)
  | .int value => some (value, 0)
  | .float mantissa exponent => some (mantissa, exponent)
  | _ => none

/-- Are two numbers, written with exponents of ten, the same? -/
def sameNumber (first second : Int × Int) : Bool :=
  first.1 * 10 ^ (first.2 - min first.2 second.2).toNat =
    second.1 * 10 ^ (second.2 - min first.2 second.2).toNat

/-- `a === b` for parsed values. An array or an object is only the same as itself, and those of
two values are never shared. -/
def strictEqual : Json → Json → Bool
  | .null, .null => true
  | .bool a, .bool b => a = b
  | .str a, .str b => a = b
  | a, b =>
    match a.number?, b.number? with
    | some first, some second => sameNumber first second
    | _, _ => false

/-- `Object.keys`. The keys of an array are its indices. A value that is not an object has none. -/
def objectKeys : Json → List String
  | .arr items => (List.range items.length).map toString
  | .obj fields => (Dict.ofList fields).keys
  | _ => []

/-- The value of a property. -/
def property? (key : String) : Json → Option Json
  | .arr items => (items.zipIdx.find? fun entry => toString entry.2 = key).map Prod.fst
  | .obj fields => (Dict.ofList fields).get? key
  | _ => none

/-- Is a value an array or an object (`typeof value === "object"`, and not `null`)? -/
def isObject : Json → Bool
  | .arr _ | .obj _ => true
  | _ => false

mutual

/-- Compare two values through their properties. -/
def deepEqual : Json → Json → Bool
  | .arr items, b =>
    b.isObject && (objectKeys (.arr items)).length = b.objectKeys.length && everyItem 0 items b
  | .obj fields, b =>
    b.isObject && (objectKeys (.obj fields)).length = b.objectKeys.length && everyField fields b
  | a, b => strictEqual a b

/-- The items of an array, from this index on, are equal to properties of the other value. -/
def everyItem : Nat → List Json → Json → Bool
  | _, [], _ => true
  | index, item :: items, b =>
    (match b.property? (toString index) with
      | some other => deepEqual item other
      | none => false) && everyItem (index + 1) items b

/-- The fields of an object are equal to properties of the other value. A field is overridden by
a later one with its key. -/
def everyField : List (String × Json) → Json → Bool
  | [], _ => true
  | (key, value) :: fields, b =>
    (fields.any (fun field => field.1 = key) ||
      match b.property? key with
      | some other => deepEqual value other
      | none => false) && everyField fields b

end

end Json

/-- May an output of one type be connected to an input of the other? A slot that is not known has
no type. -/
def slotTypesCompatible (outputType inputType : Option Json) : Bool :=
  match outputType, inputType with
  | some outputType, some inputType => outputType.deepEqual inputType
  | _, _ => false

/-! ## The types that the API sends -/

namespace SlotTypeSpec

/-- The JSON of a slot type (`model_dump`). -/
def modelDump : SlotTypeSpec → Json
  | .plain base => .obj [("base", .str base.value), ("element_type", .null)]
  | .withElement base elementType =>
    .obj [("base", .str base.value), ("element_type", elementType.modelDump)]

/-- The element type of a dump. -/
def elementDump : SlotTypeSpec → Json
  | .plain _ => .null
  | .withElement _ elementType => elementType.modelDump

theorem model_dump_eq (type : SlotTypeSpec) :
    type.modelDump = .obj [("base", .str type.base.value), ("element_type", type.elementDump)] := by
  cases type <;> rfl

end SlotTypeSpec

/-- The members of the enumeration have different values. -/
theorem SlotType.value_injective : Function.Injective SlotType.value := by
  intro first second h
  cases first <;> cases second <;> simp_all [SlotType.value]

/-- The properties of a dump. -/
theorem object_keys_dump (type : SlotTypeSpec) :
    type.modelDump.objectKeys = ["base", "element_type"] := by
  rw [type.model_dump_eq]
  rfl

/-- Two dumps are compared by their bases and their element types. -/
theorem deep_equal_dump_iff (first second : SlotTypeSpec) :
    first.modelDump.deepEqual second.modelDump = true ↔
      first.base = second.base ∧ first.elementDump.deepEqual second.elementDump = true := by
  have hkeys : first.modelDump.objectKeys.length = second.modelDump.objectKeys.length := by
    rw [object_keys_dump, object_keys_dump]
  rw [first.model_dump_eq, second.model_dump_eq] at hkeys ⊢
  rw [Json.deepEqual, ← SlotType.value_injective.eq_iff]
  simp [hkeys, Json.deepEqual, Json.everyField, Json.isObject, Json.property?, Json.strictEqual,
    Dict.get?_ofList]

/-- A dump is an object. -/
theorem deep_equal_null_dump (type : SlotTypeSpec) :
    Json.deepEqual .null type.modelDump = false ∧ type.modelDump.deepEqual .null = false := by
  rw [type.model_dump_eq]
  simp [Json.deepEqual, Json.strictEqual, Json.number?, Json.isObject]

/-- The canvas compares two types as the backend does. -/
theorem slot_types_compatible_eq (outputType inputType : SlotTypeSpec) :
    slotTypesCompatible (some outputType.modelDump) (some inputType.modelDump) =
      outputType.isCompatibleWith inputType := by
  rw [Bool.eq_iff_iff, slotTypesCompatible, SlotTypeSpec.isCompatibleWith, decide_eq_true_iff]
  induction outputType generalizing inputType with
  | plain base =>
      rw [deep_equal_dump_iff]
      cases inputType with
      | plain other =>
          simp [SlotTypeSpec.base, SlotTypeSpec.elementDump, Json.deepEqual, Json.strictEqual]
      | withElement other elementType =>
          simp [SlotTypeSpec.elementDump, (deep_equal_null_dump elementType).1]
  | withElement base elementType ih =>
      rw [deep_equal_dump_iff]
      cases inputType with
      | plain other => simp [SlotTypeSpec.elementDump, (deep_equal_null_dump elementType).2]
      | withElement other otherType =>
          rw [SlotTypeSpec.elementDump, SlotTypeSpec.elementDump, ih otherType,
            SlotTypeSpec.withElement.injEq]
          rfl

/-! ## The rule of the backend -/

/-- The edge leads from an output slot of one type to an input slot of the other, and the types of
both nodes are registered. -/
structure ConnectsTypes {Body : Type} (graph : GraphSpec) (registry : NodeRegistry Body)
    (unregisteredIds : List String) (edge : DataEdge) (outputType inputType : SlotTypeSpec) :
    Prop where
  source : ∃ srcNode srcDef srcOutputs srcSlot, graph.node? edge.fromNode = some srcNode ∧
    srcNode.id ∉ unregisteredIds ∧ registry.get srcNode.type = some srcDef ∧
    effectiveOutputsForRoot srcDef srcNode graph registry = some srcOutputs ∧
    srcOutputs.find? (fun slot => slot.name = edge.fromSlot) = some srcSlot ∧
    srcSlot.type = outputType
  target : ∃ dstNode dstDef dstInputs dstSlot, graph.node? edge.toNode = some dstNode ∧
    dstNode.id ∉ unregisteredIds ∧ registry.get dstNode.type = some dstDef ∧
    effectiveInputs dstDef dstNode = some dstInputs ∧
    dstInputs.find? (fun slot => slot.name = edge.toSlot) = some dstSlot ∧
    dstSlot.type = inputType

/-- For two slot types of any depth, the canvas lets an output of the one be connected to an input
of the other exactly if the rule of the backend accepts the edge. -/
theorem slot_typing_agrees {Body : Type} {graph : GraphSpec} {registry : NodeRegistry Body}
    {unregisteredIds : List String} {edge : DataEdge} {outputType inputType : SlotTypeSpec}
    (h : ConnectsTypes graph registry unregisteredIds edge outputType inputType) :
    slotTypesCompatible (some outputType.modelDump) (some inputType.modelDump) = true ↔
      checkTypeMismatches graph registry [edge] unregisteredIds = [] := by
  obtain ⟨srcNode, srcDef, srcOutputs, srcSlot, hsrc, hsrcId, hsrcDef, houtputs, hsrcSlot, rfl⟩ :=
    h.source
  obtain ⟨dstNode, dstDef, dstInputs, dstSlot, hdst, hdstId, hdstDef, hinputs, hdstSlot, rfl⟩ :=
    h.target
  rw [slot_types_compatible_eq, checkTypeMismatches, List.flatMap_singleton]
  simp only [hsrc, hdst, hsrcId, hdstId, or_self, if_false, hsrcDef, hdstDef]
  rw [edgeTypeMismatch]
  simp only [houtputs, hinputs, hsrcSlot, hdstSlot]
  by_cases hcompatible : srcSlot.type.isCompatibleWith dstSlot.type = true
  · rw [if_pos hcompatible]
    exact iff_of_true hcompatible rfl
  · rw [if_neg hcompatible]
    exact iff_of_false hcompatible (List.cons_ne_nil _ _)

/-- A node type whose slots take lists of texts. -/
def listDefinition : NodeDefinition Unit where
  typeName := "lists"
  inputs := [⟨"in", .withElement .list TEXT, true⟩]
  outputs := [⟨"out", .withElement .list TEXT⟩]
  configModel _ := .ok ()
  execute := ()

/-- The registry of that type. -/
def listRegistry : NodeRegistry Unit where
  defs := .ofList [(listDefinition.typeName, listDefinition)]
  keyed name definition h := by
    obtain ⟨rfl, rfl⟩ := Prod.mk.inj (List.mem_singleton.mp (Dict.mem_of_get?_ofList h))
    rfl
  declared name definition h := by
    obtain ⟨rfl, rfl⟩ := Prod.mk.inj (List.mem_singleton.mp (Dict.mem_of_get?_ofList h))
    decide

/-- Two nodes of that type with an edge between them. -/
def listGraph : GraphSpec where
  version := "0.1"
  nodes := [{ id := "a", type := "lists" }, { id := "b", type := "lists" }]
  edges := [.data ⟨"a", "out", "b", "in"⟩]
  nodupIds := by decide

theorem lists_connect :
    ConnectsTypes listGraph listRegistry [] ⟨"a", "out", "b", "in"⟩ (.withElement .list TEXT)
        (.withElement .list TEXT) ∧
      (slotTypesCompatible (some (SlotTypeSpec.withElement .list TEXT).modelDump)
          (some (SlotTypeSpec.withElement .list TEXT).modelDump) = true ↔
        checkTypeMismatches listGraph listRegistry [⟨"a", "out", "b", "in"⟩] [] = []) := by
  have hconnects : ConnectsTypes listGraph listRegistry [] ⟨"a", "out", "b", "in"⟩
      (.withElement .list TEXT) (.withElement .list TEXT) :=
    ⟨⟨_, listDefinition, _, ⟨"out", .withElement .list TEXT⟩, rfl, List.not_mem_nil, rfl, rfl, rfl,
        rfl⟩,
      _, listDefinition, _, ⟨"in", .withElement .list TEXT, true⟩, rfl, List.not_mem_nil, rfl, rfl,
        rfl, rfl⟩
  exact ⟨hconnects, slot_typing_agrees hconnects⟩

end AgentGraphStudio
