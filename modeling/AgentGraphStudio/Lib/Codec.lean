import Mathlib.Data.List.Basic

/-!
# Translations that keep their meaning

A sender translates its values, which may fail, and a receiver reads them in its own way.
`Faithful` says that every admissible value is translated and that what is read of it is its
meaning. It carries over from the items of a list to the list.
-/

variable {α β γ ε : Type}

/-- Every admissible value is translated, and it is read as what it means. -/
def Faithful (admissible : α → Prop) (encode : α → Except ε β) (read : β → Option γ)
    (meaning : α → γ) : Prop :=
  ∀ value, admissible value → ∃ code, encode value = .ok code ∧ read code = some (meaning value)

/-- A list is read as what its items mean exactly if each item is. -/
theorem mapM_read_iff {encode : α → β} {read : β → Option γ} {meaning : α → γ} {values : List α} :
    (values.map encode).mapM read = some (values.map meaning) ↔
      ∀ value ∈ values, read (encode value) = some (meaning value) := by
  induction values with
  | nil => simp
  | cons value values ih =>
      rw [List.forall_mem_cons, ← ih, List.map_cons, List.mapM_cons]
      cases read (encode value) with
      | none => simp
      | some first =>
          cases (values.map encode).mapM read with
          | none => simp
          | some rest => simp

/-- What holds of every translation holds of all translations of a list. -/
theorem forall_of_mapM {encode : α → Except ε β} {P : β → Prop}
    (h : ∀ value code, encode value = .ok code → P code) {values : List α} {codes : List β}
    (hcodes : values.mapM encode = .ok codes) : ∀ code ∈ codes, P code := by
  induction values generalizing codes with
  | nil =>
      cases hcodes
      exact fun _ hcode => nomatch hcode
  | cons value values ih =>
      rw [List.mapM_cons] at hcodes
      cases hencode : encode value with
      | error error =>
          rw [hencode] at hcodes
          cases hcodes
      | ok code =>
          cases hrest : values.mapM encode with
          | error error =>
              rw [hencode, hrest] at hcodes
              cases hcodes
          | ok rest =>
              rw [hencode, hrest] at hcodes
              cases hcodes
              exact List.forall_mem_cons.mpr ⟨h value code hencode, ih hrest⟩

namespace Faithful

variable {admissible : α → Prop} {encode : α → Except ε β} {read : β → Option γ}
  {meaning : α → γ}

/-- A list is translated item by item. -/
theorem list (h : Faithful admissible encode read meaning) :
    Faithful (fun values : List α => ∀ value ∈ values, admissible value) (List.mapM encode)
      (List.mapM read) (List.map meaning) := by
  intro values hvalues
  induction values with
  | nil => exact ⟨[], rfl, rfl⟩
  | cons value values ih =>
      rw [List.forall_mem_cons] at hvalues
      obtain ⟨code, hencode, hread⟩ := h value hvalues.1
      obtain ⟨codes, hcodes, hreads⟩ := ih hvalues.2
      refine ⟨code :: codes, ?_, ?_⟩
      · rw [List.mapM_cons, hencode, hcodes]
        rfl
      · rw [List.mapM_cons, hread, hreads]
        rfl

end Faithful
