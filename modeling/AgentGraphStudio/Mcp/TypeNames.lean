import AgentGraphStudio.Lib.Separators
import AgentGraphStudio.Mcp.GeneratedNodes

/-!
# The names of generated node types

`type_name_for` of `backend/mcp/generated_nodes.py` joins the owner of a connection, its name and
the name of a tool with `__`, which each of them may contain. `type_name_injective_iff` says which
tools of which connections get names of their own.
-/

namespace AgentGraphStudio

/-- A tool of a connection, which belongs to a user or is global. -/
structure OwnedTool where
  ownerUserId : Option String
  connectionName : String
  toolName : String
  deriving DecidableEq

namespace OwnedTool

/-- The name of the tool's node type. -/
def typeName (tool : OwnedTool) : String :=
  typeNameFor tool.connectionName tool.toolName tool.ownerUserId

/-- The name of the connection, with the owner in front. -/
def qualifiedName (tool : OwnedTool) : String :=
  match tool.ownerUserId with
  | none => tool.connectionName
  | some ownerUserId => "u_" ++ (ownerUserId ++ "__" ++ tool.connectionName)

end OwnedTool

/-! ## Names that are cut at another place -/

/-- The first name of another pair goes on where this one ends, over one underscore or over two,
with what the second name of this pair begins with. -/
def CutLater (first second other other' : String) : Prop :=
  other = first ++ "_" ∧ second = "_" ++ other' ∨
    ∃ middle, other = first ++ "__" ++ middle ∧ second = middle ++ "__" ++ other'

section

variable {first second other other' : String}

theorem toList_join_names (name rest : String) : (name ++ "__" ++ rest).toList =
    Separators.join '_' name.toList rest.toList := by
  simp [Separators.join]

theorem cut_later_iff :
    CutLater first second other other' ↔
      Separators.Recut '_' first.toList second.toList other.toList other'.toList := by
  refine or_congr ?_ ?_
  · rw [← String.toList_inj, ← String.toList_inj, String.toList_append, String.toList_append]
    rfl
  · constructor
    · rintro ⟨middle, rfl, rfl⟩
      exact ⟨middle.toList, toList_join_names _ _, toList_join_names _ _⟩
    · rintro ⟨middle, hother, hsecond⟩
      refine ⟨String.ofList middle, String.toList_inj.mp ?_, String.toList_inj.mp ?_⟩
      · rw [toList_join_names, String.toList_ofList, hother]
      · rw [toList_join_names, String.toList_ofList, hsecond]

/-- A name does not go on where it ends. -/
theorem CutLater.ne (h : CutLater first second other other') : first ≠ other := by
  rintro rfl
  exact Nat.lt_irrefl _ (cut_later_iff.mp h).length_lt

/-- Two pairs of names are joined to one text if they are the same or one is cut later. -/
theorem join_names_iff :
    first ++ "__" ++ second = other ++ "__" ++ other' ↔
      first = other ∧ second = other' ∨ CutLater first second other other' ∨
        CutLater other other' first second := by
  rw [← String.toList_inj, toList_join_names, toList_join_names, Separators.join_eq_join_iff,
    String.toList_inj, String.toList_inj, cut_later_iff, cut_later_iff]

end

namespace OwnedTool

variable (tool other : OwnedTool)

/-- One connection is named like the other one with its owner in front: a global connection like
that of a user, or a user's like that of a user whose id is cut later. -/
def Imitates : Prop :=
  match tool.ownerUserId, other.ownerUserId with
  | none, some otherUserId =>
    tool.connectionName = "u_" ++ (otherUserId ++ "__" ++ other.connectionName)
  | some ownerUserId, some otherUserId =>
    CutLater ownerUserId tool.connectionName otherUserId other.connectionName
  | _, none => False

/-- The same text is read as the names of both tools. -/
def Confusable : Prop :=
  CutLater tool.qualifiedName tool.toolName other.qualifiedName other.toolName ∨
    CutLater other.qualifiedName other.toolName tool.qualifiedName tool.toolName ∨
    tool.toolName = other.toolName ∧ (tool.Imitates other ∨ other.Imitates tool)

/-- The name of a type is the qualified name of the connection, joined with that of the tool. -/
theorem typeName_eq : tool.typeName = "mcp__" ++ (tool.qualifiedName ++ "__" ++ tool.toolName) := by
  obtain ⟨ownerUserId, connectionName, toolName⟩ := tool
  rw [← String.toList_inj]
  cases ownerUserId with
  | none =>
      simp [typeName, typeNameFor, qualifiedName]
      rfl
  | some ownerUserId =>
      simp [typeName, typeNameFor, qualifiedName]
      rfl

variable {tool other}

/-- Qualified names are those of one connection, or one imitates the other. -/
theorem qualifiedName_eq_iff : tool.qualifiedName = other.qualifiedName ↔
    (tool.ownerUserId = other.ownerUserId ∧ tool.connectionName = other.connectionName) ∨
      tool.Imitates other ∨ other.Imitates tool := by
  obtain ⟨owner, name, _⟩ := tool
  obtain ⟨owner', name', _⟩ := other
  cases owner with
  | none =>
      cases owner' with
      | none => simp [qualifiedName, Imitates]
      | some owner' => simp [qualifiedName, Imitates]
  | some owner =>
      cases owner' with
      | none => simp [qualifiedName, Imitates, eq_comm]
      | some owner' => simp [qualifiedName, Imitates, join_names_iff]

/-- No connection imitates itself. -/
theorem not_imitates_self : ¬ tool.Imitates tool := by
  obtain ⟨owner, name, _⟩ := tool
  cases owner with
  | none => exact id
  | some owner => exact fun h => h.ne rfl

/-- Two tools have one name if they are the same or if they are confusable. -/
theorem typeName_eq_iff :
    tool.typeName = other.typeName ↔ tool = other ∨ tool.Confusable other := by
  have hext : tool = other ↔ (tool.ownerUserId = other.ownerUserId ∧
      tool.connectionName = other.connectionName) ∧ tool.toolName = other.toolName := by
    obtain ⟨_, _, _⟩ := tool
    obtain ⟨_, _, _⟩ := other
    simp [and_assoc]
  rw [typeName_eq, typeName_eq, String.append_right_inj, join_names_iff, qualifiedName_eq_iff, hext,
    Confusable]
  tauto

/-- Confusable tools are not the same. -/
theorem Confusable.ne (h : tool.Confusable other) : tool ≠ other := by
  rintro rfl
  rcases h with hcut | hcut | ⟨-, himitates | himitates⟩
  · exact hcut.ne rfl
  · exact hcut.ne rfl
  · exact not_imitates_self himitates
  · exact not_imitates_self himitates

end OwnedTool

/-- For every two tools of connections, with any names and owners: equal names of their types mean
that the tools are the same exactly if the tools are not confusable. -/
theorem type_name_injective_iff (tool other : OwnedTool) :
    (tool.typeName = other.typeName → tool = other) ↔ ¬ tool.Confusable other := by
  rw [OwnedTool.typeName_eq_iff]
  constructor
  · exact fun h hconfusable => hconfusable.ne (h (.inr hconfusable))
  · exact fun h heq => heq.resolve_right h

/-- Two global connections whose tools get one name. -/
theorem mail_list_confused :
    OwnedTool.typeName ⟨none, "mail", "list__all"⟩ =
      OwnedTool.typeName ⟨none, "mail__list", "all"⟩ ∧
      (⟨none, "mail", "list__all"⟩ : OwnedTool) ≠ ⟨none, "mail__list", "all"⟩ :=
  ⟨rfl, by decide⟩

end AgentGraphStudio
