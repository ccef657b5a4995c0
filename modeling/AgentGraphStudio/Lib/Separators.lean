import Mathlib.Data.List.Infix

/-!
# Joining with a doubled separator

Two lists joined by a separator that they may contain. The separator is one element twice, so that
it may overlap itself. `join_eq_join_iff` says which pairs of lists are joined to the same list.
-/

universe u

namespace Separators

variable {α : Type u} (sep : α) (first second other other' : List α)

/-- Two lists with the separator between them. -/
def join : List α := first ++ sep :: sep :: second

/-- The first list of another pair goes on where this one ends: over one half of the separator, or
over the whole of it and on to another separator. -/
def Recut : Prop :=
  other = first ++ [sep] ∧ second = sep :: other' ∨
    ∃ middle, other = join sep first middle ∧ second = join sep middle other'

variable {sep first second other other'}

/-- What is cut at another place is joined to the same list. -/
theorem Recut.join_eq (h : Recut sep first second other other') :
    join sep first second = join sep other other' := by
  rcases h with ⟨rfl, rfl⟩ | ⟨middle, rfl, rfl⟩
  · simp [join]
  · simp [join]

/-- The first list of the other pair is longer. -/
theorem Recut.length_lt (h : Recut sep first second other other') :
    first.length < other.length := by
  rcases h with ⟨rfl, -⟩ | ⟨middle, rfl, -⟩
  · simp
  · simp [join]

/-- A pair is joined like another one whose first list goes on with `rest`. -/
theorem join_eq_append_iff {rest : List α} :
    join sep first second = join sep (first ++ rest) other' ↔
      rest = [] ∧ second = other' ∨ Recut sep first second (first ++ rest) other' := by
  constructor
  · intro h
    rw [join, join, List.append_assoc, List.append_cancel_left_eq] at h
    cases rest with
    | nil => exact .inl ⟨rfl, by simpa using h⟩
    | cons head rest =>
        obtain ⟨rfl, htail⟩ := List.cons.inj h
        cases rest with
        | nil => exact .inr (.inl ⟨rfl, by simpa using htail⟩)
        | cons next rest =>
            obtain ⟨rfl, hsecond⟩ := List.cons.inj htail
            exact .inr (.inr ⟨rest, rfl, hsecond⟩)
  · rintro (⟨rfl, rfl⟩ | h)
    · rw [List.append_nil]
    · exact h.join_eq

/-- Two pairs are joined to the same list if they are the same, or if one is the other cut at
another place. -/
theorem join_eq_join_iff :
    join sep first second = join sep other other' ↔
      first = other ∧ second = other' ∨ Recut sep first second other other' ∨
        Recut sep other other' first second := by
  constructor
  · intro h
    rcases List.append_eq_append_iff.mp h with ⟨rest, rfl, -⟩ | ⟨rest, rfl, -⟩
    · rcases join_eq_append_iff.mp h with ⟨rfl, hsecond⟩ | hrecut
      · exact .inl ⟨(List.append_nil _).symm, hsecond⟩
      · exact .inr (.inl hrecut)
    · rcases join_eq_append_iff.mp h.symm with ⟨rfl, hsecond⟩ | hrecut
      · exact .inl ⟨List.append_nil _, hsecond.symm⟩
      · exact .inr (.inr hrecut)
  · rintro (⟨rfl, rfl⟩ | hrecut | hrecut)
    · rfl
    · exact hrecut.join_eq
    · exact hrecut.join_eq.symm

end Separators
