import Mathlib.Data.List.Nodup
import Mathlib.Order.Lattice

/-!
# Pages of an ordered listing

A listing is ordered by a key, the greatest first, and read a page at a time. Rows with the same
key come in any order. `mem_page_iff`: a row whose key no other row has is on the page exactly if
the number of rows with a greater key, its rank, lies within the page. A row that is added never
lowers a rank: `rank_mono`.
-/

universe u v

namespace Paging

variable {Row : Type u} {Key : Type v} [LinearOrder Key] {key : Row → Key}

/-- The sorting lists the same rows, the greatest keys first. -/
structure Sorts (key : Row → Key) (sort : List Row → List Row) : Prop where
  perm : ∀ rows, (sort rows).Perm rows
  descending : ∀ rows, (sort rows).Pairwise fun first second => key second ≤ key first

/-- The rows from an offset on, up to a limit. -/
def page (offset limit : Nat) (rows : List Row) : List Row := (rows.drop offset).take limit

/-- How many rows have a greater key. -/
def rank (key : Row → Key) (rows : List Row) (k : Key) : Nat :=
  rows.countP fun row => decide (k < key row)

/-- A row is on a page if it stands at one of the page's places. -/
theorem mem_page_iff_getElem? {offset limit : Nat} {rows : List Row} {row : Row} :
    row ∈ page offset limit rows ↔
      ∃ index, offset ≤ index ∧ index < offset + limit ∧ rows[index]? = some row := by
  rw [page, List.mem_iff_getElem?]
  constructor
  · intro ⟨place, hplace⟩
    rw [List.getElem?_take] at hplace
    split at hplace
    · rw [List.getElem?_drop] at hplace
      exact ⟨offset + place, by omega, by omega, hplace⟩
    · cases hplace
  · intro ⟨index, hle, hlt, hrow⟩
    refine ⟨index - offset, ?_⟩
    rw [List.getElem?_take, if_pos (by omega), List.getElem?_drop,
      show offset + (index - offset) = index by omega]
    exact hrow

/-- Every row of a page is one of the listing. -/
theorem mem_of_mem_page {offset limit : Nat} {rows : List Row} {row : Row}
    (h : row ∈ page offset limit rows) : row ∈ rows :=
  List.drop_subset _ _ (List.take_subset _ _ h)

/-- The rank counts keys. -/
theorem rank_eq_count (rows : List Row) (k : Key) :
    rank key rows k = (rows.map key).countP fun other => decide (k < other) := by
  rw [rank, List.countP_map]
  rfl

/-- The rank does not depend on the order. -/
theorem rank_perm {first second : List Row} (h : first.Perm second) (k : Key) :
    rank key first k = rank key second k := h.countP_eq _

/-- Further rows never lower the rank. -/
theorem rank_mono {before after : List Row} (h : (before.map key).Sublist (after.map key))
    (k : Key) : rank key before k ≤ rank key after k := by
  rw [rank_eq_count, rank_eq_count]
  exact h.countP_le

/-- A row of the listing is not counted in its own rank. -/
theorem rank_lt_length {rows : List Row} {row : Row} (h : row ∈ rows) :
    rank key rows (key row) < rows.length := by
  refine Nat.lt_of_le_of_ne List.countP_le_length fun hall => ?_
  have hself := List.countP_eq_length.mp hall row h
  exact lt_irrefl _ (of_decide_eq_true hself)

/-- In a listing that is ordered, the rank of a row whose key no other row has is its place. -/
theorem rank_of_split {before after : List Row} {row : Row}
    (hordered : (before ++ row :: after).Pairwise fun first second => key second ≤ key first)
    (halone : ∀ other ∈ before, key other ≠ key row) :
    rank key (before ++ row :: after) (key row) = before.length := by
  obtain ⟨-, hrest, hbefore⟩ := List.pairwise_append.mp hordered
  have hfirst : before.countP (fun other => decide (key row < key other)) = before.length := by
    rw [List.countP_eq_length]
    intro other hother
    have hle : key row ≤ key other := hbefore other hother row List.mem_cons_self
    exact decide_eq_true (lt_of_le_of_ne hle (Ne.symm (halone other hother)))
  have hlast : (row :: after).countP (fun other => decide (key row < key other)) = 0 := by
    rw [List.countP_eq_zero]
    intro other hother
    rw [decide_eq_true_eq, not_lt]
    rcases List.mem_cons.mp hother with rfl | hafter
    · exact le_refl _
    · exact (List.pairwise_cons.mp hrest).1 other hafter
  rw [rank, List.countP_append, hfirst, hlast, Nat.add_zero]

/-- A row whose key no other row has is on the page exactly if its rank lies within it. -/
theorem mem_page_iff {sort : List Row → List Row} (hsort : Sorts key sort) {rows : List Row}
    (hnodup : rows.Nodup) {row : Row} (hrow : row ∈ rows)
    (halone : ∀ other ∈ rows, key other = key row → other = row) (offset limit : Nat) :
    row ∈ page offset limit (sort rows) ↔
      offset ≤ rank key rows (key row) ∧ rank key rows (key row) < offset + limit := by
  have hperm := hsort.perm rows
  have hsorted : (sort rows).Nodup := hperm.nodup_iff.mpr hnodup
  obtain ⟨before, after, hsplit⟩ := List.append_of_mem (hperm.mem_iff.mpr hrow)
  have hordered := hsort.descending rows
  rw [hsplit] at hordered hsorted hperm
  have hfirst : row ∉ before := fun h =>
    (List.nodup_append.mp hsorted).2.2 row h row List.mem_cons_self rfl
  have hplace : rank key rows (key row) = before.length := by
    rw [← rank_perm hperm, rank_of_split hordered]
    intro other hother hkey
    have hsame := halone other (hperm.mem_iff.mp (List.mem_append_left _ hother)) hkey
    exact hfirst (hsame ▸ hother)
  have hat : (sort rows)[before.length]? = some row := by
    rw [hsplit, List.getElem?_append_right (Nat.le_refl _), Nat.sub_self]
    rfl
  rw [hplace, mem_page_iff_getElem?]
  constructor
  · intro ⟨index, hle, hlt, hindex⟩
    have hsame : index = before.length := by
      rw [← hsplit] at hsorted
      have hbound : index < (sort rows).length :=
        (List.getElem?_eq_some_iff.mp hindex).1
      exact (List.getElem?_inj hbound hsorted).mp (hindex.trans hat.symm)
    omega
  · intro ⟨hle, hlt⟩
    exact ⟨before.length, hle, hlt, hat⟩

end Paging
