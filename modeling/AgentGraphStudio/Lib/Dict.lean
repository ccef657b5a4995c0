import Mathlib.Data.List.Nodup

/-!
# Insertion-ordered dictionaries

`Dict K V` is a finite map that remembers the order in which its keys were first
inserted. Assigning to a present key overwrites the value in place, and a new key goes to
the end. The key list is duplicate-free by construction, so reading a dictionary by key
(`get?`) and reading it as a list (`entries`) agree: `mem_entries_iff`.
-/

universe u v

/-- A finite map with distinct keys, listed in insertion order. -/
@[ext] structure Dict (K : Type u) (V : Type v) where
  entries : List (K × V)
  nodupKeys : (entries.map Prod.fst).Nodup

namespace Dict

variable {K : Type u} {V : Type v}

/-- The dictionary with no entries. -/
def empty : Dict K V := ⟨[], List.nodup_nil⟩

instance : Inhabited (Dict K V) := ⟨empty⟩

/-- The keys in insertion order. -/
def keys (d : Dict K V) : List K := d.entries.map Prod.fst

/-- The values in insertion order. -/
def values (d : Dict K V) : List V := d.entries.map Prod.snd

variable [DecidableEq K]

instance [DecidableEq V] : DecidableEq (Dict K V) := fun first second =>
  decidable_of_iff (first.entries = second.entries) Dict.ext_iff.symm

/-- The value an association list gives to a key: that of the first entry with the key. -/
def lookup (k : K) : List (K × V) → Option V
  | [] => none
  | entry :: rest => if entry.1 = k then some entry.2 else lookup k rest

/-- The value stored at a key. -/
def get? (d : Dict K V) (k : K) : Option V := lookup k d.entries

/-- The value stored at a key, or the given default. -/
def getD (d : Dict K V) (k : K) (default : V) : V := (d.get? k).getD default

/-- Overwrite the value of a key in an association list. -/
def overwrite (k : K) (v : V) (entries : List (K × V)) : List (K × V) :=
  entries.map fun entry => if entry.1 = k then (entry.1, v) else entry

theorem overwrite_keys (k : K) (v : V) (entries : List (K × V)) :
    (overwrite k v entries).map Prod.fst = entries.map Prod.fst := by
  rw [overwrite, List.map_map]
  refine List.map_congr_left fun entry _ => ?_
  simp only [Function.comp_apply]
  split <;> rfl

/-- Assign a value to a key: in place when the key is present, at the end otherwise. -/
def set (d : Dict K V) (k : K) (v : V) : Dict K V :=
  if h : k ∈ d.keys then ⟨overwrite k v d.entries, by rw [overwrite_keys]; exact d.nodupKeys⟩
  else ⟨d.entries ++ [(k, v)], by
    rw [List.map_append, List.nodup_append']
    exact ⟨d.nodupKeys, List.nodup_singleton _, by simpa [keys] using h⟩⟩

/-- Remove a key and its value. -/
def erase (d : Dict K V) (k : K) : Dict K V :=
  ⟨d.entries.filter (fun entry => entry.1 ≠ k),
    (List.filter_sublist.map Prod.fst).nodup d.nodupKeys⟩

/-- Remove every key of a list. -/
def eraseAll (d : Dict K V) (keys : List K) : Dict K V := keys.foldl erase d

/-- Assign every entry of a list, from left to right. -/
def update (d : Dict K V) (entries : List (K × V)) : Dict K V :=
  entries.foldl (fun d entry => d.set entry.1 entry.2) d

/-- The dictionary built from a list of entries, later entries overriding earlier ones. -/
def ofList (entries : List (K × V)) : Dict K V := empty.update entries

/-! ## Reading association lists -/

@[simp] theorem lookup_nil (k : K) : lookup k ([] : List (K × V)) = none := rfl

@[simp] theorem lookup_cons (k : K) (entry : K × V) (rest : List (K × V)) :
    lookup k (entry :: rest) = if entry.1 = k then some entry.2 else lookup k rest := rfl

theorem lookup_isSome_iff {k : K} {entries : List (K × V)} :
    (lookup k entries).isSome ↔ k ∈ entries.map Prod.fst := by
  induction entries with
  | nil => simp
  | cons entry rest ih =>
      rw [lookup_cons, List.map_cons, List.mem_cons]
      by_cases hkey : entry.1 = k
      · simp [hkey]
      · simp [hkey, Ne.symm hkey, ih]

theorem mem_of_lookup {k : K} {v : V} {entries : List (K × V)}
    (h : lookup k entries = some v) : (k, v) ∈ entries := by
  induction entries with
  | nil => simp at h
  | cons entry rest ih =>
      rw [lookup_cons] at h
      split at h
      · rename_i hkey
        cases h
        exact hkey ▸ List.mem_cons_self
      · exact List.mem_cons_of_mem _ (ih h)

theorem lookup_of_mem {k : K} {v : V} {entries : List (K × V)}
    (hnodup : (entries.map Prod.fst).Nodup) (h : (k, v) ∈ entries) :
    lookup k entries = some v := by
  induction entries with
  | nil => simp at h
  | cons entry rest ih =>
      rw [List.map_cons, List.nodup_cons] at hnodup
      rw [lookup_cons]
      rcases List.mem_cons.mp h with rfl | hrest
      · simp
      · have hne : entry.1 ≠ k := fun hkey =>
          hnodup.1 (hkey ▸ List.mem_map_of_mem (f := Prod.fst) hrest)
        rw [if_neg hne]
        exact ih hnodup.2 hrest

theorem lookup_append (k : K) (first second : List (K × V)) :
    lookup k (first ++ second) = (lookup k first).or (lookup k second) := by
  induction first with
  | nil => simp
  | cons entry rest ih =>
      rw [List.cons_append, lookup_cons, lookup_cons, ih]
      split <;> simp

theorem lookup_overwrite (k : K) (v : V) (entries : List (K × V)) (key : K) :
    lookup key (overwrite k v entries) =
      if key = k then (lookup key entries).map fun _ => v else lookup key entries := by
  induction entries with
  | nil => simp [overwrite]
  | cons entry rest ih =>
      rw [overwrite, List.map_cons, lookup_cons, ← overwrite, ih, lookup_cons]
      by_cases hentry : entry.1 = k
      · by_cases hkey : key = k
        · simp [hentry, hkey]
        · simp [hentry, hkey, Ne.symm hkey]
      · by_cases hkey : entry.1 = key
        · subst hkey
          simp [hentry]
        · simp [hentry, hkey]

theorem lookup_filter_ne (k key : K) (entries : List (K × V)) :
    lookup key (entries.filter fun entry => entry.1 ≠ k) =
      if key = k then none else lookup key entries := by
  induction entries with
  | nil => simp
  | cons entry rest ih =>
      by_cases hentry : entry.1 = k <;> by_cases hkey : entry.1 = key <;> simp_all

/-! ## Reading dictionaries -/

/-- The entries as a list and the lookup determine each other. -/
theorem mem_entries_iff {d : Dict K V} {k : K} {v : V} :
    (k, v) ∈ d.entries ↔ d.get? k = some v :=
  ⟨lookup_of_mem d.nodupKeys, mem_of_lookup⟩

theorem get?_isSome_iff {d : Dict K V} {k : K} : (d.get? k).isSome ↔ k ∈ d.keys :=
  lookup_isSome_iff

theorem mem_keys_iff {d : Dict K V} {k : K} : k ∈ d.keys ↔ ∃ v, d.get? k = some v := by
  rw [← get?_isSome_iff, Option.isSome_iff_exists]

theorem get?_eq_none_iff {d : Dict K V} {k : K} : d.get? k = none ↔ k ∉ d.keys := by
  rw [← get?_isSome_iff, Option.not_isSome_iff_eq_none]

@[simp] theorem get?_empty (k : K) : (empty : Dict K V).get? k = none := rfl

omit [DecidableEq K] in
@[simp] theorem keys_empty : (empty : Dict K V).keys = [] := rfl

/-- Reading after an assignment. -/
theorem get?_set (d : Dict K V) (k : K) (v : V) (key : K) :
    (d.set k v).get? key = if key = k then some v else d.get? key := by
  rw [set]
  split
  · rename_i hmem
    obtain ⟨old, hold⟩ := mem_keys_iff.mp hmem
    rw [get?, lookup_overwrite]
    split
    · rename_i hkey
      rw [hkey, show lookup k d.entries = some old from hold, Option.map_some]
    · rfl
  · rename_i hmem
    have hnone : lookup k d.entries = none := get?_eq_none_iff.mpr hmem
    rw [get?, lookup_append, lookup_cons, lookup_nil]
    by_cases hkey : key = k
    · simp [hkey, hnone]
    · simp [hkey, Ne.symm hkey, get?]

@[simp] theorem get?_set_self (d : Dict K V) (k : K) (v : V) : (d.set k v).get? k = some v := by
  simp [get?_set]

theorem get?_set_of_ne (d : Dict K V) {k key : K} (v : V) (h : key ≠ k) :
    (d.set k v).get? key = d.get? key := by
  simp [get?_set, h]

theorem getD_set (d : Dict K V) (k : K) (v : V) (key : K) (default : V) :
    (d.set k v).getD key default = if key = k then v else d.getD key default := by
  rw [getD, get?_set]
  split <;> rfl

theorem mem_keys_set {d : Dict K V} {k key : K} {v : V} :
    key ∈ (d.set k v).keys ↔ key = k ∨ key ∈ d.keys := by
  rw [← get?_isSome_iff, ← get?_isSome_iff, get?_set]
  split <;> simp_all

/-- A new key comes after the others. -/
theorem keys_set_of_notMem (d : Dict K V) {k : K} (v : V) (h : k ∉ d.keys) :
    (d.set k v).keys = d.keys ++ [k] := by
  rw [set, dif_neg h, keys, List.map_append]
  rfl

/-- Reading after a removal. -/
theorem get?_erase (d : Dict K V) (k key : K) :
    (d.erase k).get? key = if key = k then none else d.get? key :=
  lookup_filter_ne k key d.entries

@[simp] theorem get?_erase_self (d : Dict K V) (k : K) : (d.erase k).get? k = none := by
  simp [get?_erase]

theorem get?_erase_of_ne (d : Dict K V) {k key : K} (h : key ≠ k) :
    (d.erase k).get? key = d.get? key := by
  simp [get?_erase, h]

/-- Removing an absent key changes nothing. -/
theorem erase_of_notMem {d : Dict K V} {k : K} (h : k ∉ d.keys) : d.erase k = d := by
  refine Dict.ext (List.filter_eq_self.mpr fun entry hentry => ?_)
  simp only [ne_eq, decide_not, Bool.not_eq_true', decide_eq_false_iff_not]
  exact fun hkey => h (hkey ▸ List.mem_map_of_mem hentry)

/-- Reading after the removal of a list of keys. -/
theorem get?_eraseAll (d : Dict K V) (keys : List K) (key : K) :
    (d.eraseAll keys).get? key = if key ∈ keys then none else d.get? key := by
  induction keys generalizing d with
  | nil => simp [eraseAll]
  | cons k keys ih =>
      show ((d.erase k).eraseAll keys).get? key = _
      rw [ih, get?_erase]
      by_cases hkey : key = k <;> simp [hkey]

@[simp] theorem update_nil (d : Dict K V) : d.update [] = d := rfl

@[simp] theorem update_cons (d : Dict K V) (entry : K × V) (rest : List (K × V)) :
    d.update (entry :: rest) = (d.set entry.1 entry.2).update rest := rfl

/-- Reading after a list of assignments: the last assignment to the key wins. -/
theorem get?_update (d : Dict K V) (entries : List (K × V)) (key : K) :
    (d.update entries).get? key =
      ((entries.filter fun entry => entry.1 = key).getLast?.map Prod.snd).or (d.get? key) := by
  induction entries generalizing d with
  | nil => simp
  | cons entry rest ih =>
      rw [update_cons, ih, get?_set, List.filter_cons]
      by_cases hkey : entry.1 = key
      · cases hlast : (rest.filter fun entry => entry.1 = key).getLast? <;>
          simp [hkey, hlast, List.getLast?_cons]
      · simp [hkey, Ne.symm hkey]

/-- What is read after a list of assignments was assigned, or was there and not assigned. -/
theorem mem_or_of_get?_update {d : Dict K V} {entries : List (K × V)} {key : K} {value : V}
    (h : (d.update entries).get? key = some value) :
    (key, value) ∈ entries ∨ (key ∉ entries.map Prod.fst ∧ d.get? key = some value) := by
  induction entries generalizing d with
  | nil => exact .inr ⟨List.not_mem_nil, h⟩
  | cons entry rest ih =>
      rcases ih h with hrest | ⟨hrest, hset⟩
      · exact .inl (List.mem_cons_of_mem _ hrest)
      · rw [get?_set] at hset
        split at hset
        · rename_i hkey
          cases hset
          exact .inl (hkey ▸ List.mem_cons_self)
        · rename_i hkey
          refine .inr ⟨fun hmem => ?_, hset⟩
          exact (List.mem_cons.mp hmem).elim hkey hrest

/-- Assignments to other keys leave a value alone. -/
theorem get?_update_of_notMem (d : Dict K V) {entries : List (K × V)} {key : K}
    (h : key ∉ entries.map Prod.fst) : (d.update entries).get? key = d.get? key := by
  have hnone : (entries.filter fun entry => entry.1 = key) = [] :=
    List.filter_eq_nil_iff.mpr fun entry hentry hkey =>
      h (List.mem_map.mpr ⟨entry, hentry, by simpa using hkey⟩)
  rw [get?_update, hnone]
  rfl

/-- Reading after all entries of another dictionary, under renamed keys, were assigned. -/
theorem get?_update_map {K' : Type u} [DecidableEq K'] (d : Dict K V) (other : Dict K' V)
    {f : K' → K} (hf : Function.Injective f) (key : K') :
    (d.update (other.entries.map fun entry => (f entry.1, entry.2))).get? (f key) =
      (other.get? key).or (d.get? (f key)) := by
  obtain ⟨entries, hnodup⟩ := other
  change _ = (lookup key entries).or _
  induction entries generalizing d with
  | nil => simp
  | cons entry rest ih =>
      rw [List.map_cons, List.nodup_cons] at hnodup
      rw [List.map_cons, update_cons, ih _ hnodup.2, get?_set, lookup_cons]
      by_cases hkey : entry.1 = key
      · have hrest : lookup key rest = none := by
          rw [← Option.not_isSome_iff_eq_none, lookup_isSome_iff]
          exact hkey ▸ hnodup.1
        simp [hkey, hrest]
      · simp [hkey, hf.eq_iff, Ne.symm hkey]

/-- Reading a dictionary built from a list: the last entry with the key wins. -/
theorem get?_ofList (entries : List (K × V)) (key : K) :
    (ofList entries).get? key =
      (entries.filter fun entry => entry.1 = key).getLast?.map Prod.snd := by
  rw [ofList, get?_update, get?_empty, Option.or_none]

/-- What a dictionary built from a list holds is in the list. -/
theorem mem_of_get?_ofList {entries : List (K × V)} {key : K} {value : V}
    (h : (ofList entries).get? key = some value) : (key, value) ∈ entries := by
  rcases mem_or_of_get?_update h with hmem | ⟨_, hempty⟩
  · exact hmem
  · cases hempty

theorem mem_keys_update {d : Dict K V} {entries : List (K × V)} {key : K} :
    key ∈ (d.update entries).keys ↔ key ∈ entries.map Prod.fst ∨ key ∈ d.keys := by
  induction entries generalizing d with
  | nil => simp
  | cons entry rest ih =>
      rw [update_cons, ih, mem_keys_set, List.map_cons, List.mem_cons]
      tauto

theorem mem_keys_ofList {entries : List (K × V)} {key : K} :
    key ∈ (ofList entries).keys ↔ key ∈ entries.map Prod.fst := by
  rw [ofList, mem_keys_update, keys_empty]
  simp

/-- New keys that differ come after the others. -/
theorem keys_update_of_disjoint {d : Dict K V} {entries : List (K × V)}
    (hnodup : (entries.map Prod.fst).Nodup) (hnew : ∀ key ∈ entries.map Prod.fst, key ∉ d.keys) :
    (d.update entries).keys = d.keys ++ entries.map Prod.fst := by
  induction entries generalizing d with
  | nil => simp
  | cons entry rest ih =>
      rw [List.map_cons, List.nodup_cons] at hnodup
      rw [List.map_cons, List.forall_mem_cons] at hnew
      have hkeys : (d.set entry.1 entry.2).keys = d.keys ++ [entry.1] :=
        keys_set_of_notMem d entry.2 hnew.1
      rw [update_cons, ih hnodup.2, hkeys, List.map_cons, List.append_assoc, List.singleton_append]
      intro key hkey hmem
      rw [hkeys, List.mem_append, List.mem_singleton] at hmem
      rcases hmem with hmem | rfl
      · exact hnew.2 key hkey hmem
      · exact hnodup.1 hkey

/-- A dictionary keeps the order of a list whose keys differ. -/
theorem keys_ofList {entries : List (K × V)} (hnodup : (entries.map Prod.fst).Nodup) :
    (ofList entries).keys = entries.map Prod.fst := by
  rw [ofList, keys_update_of_disjoint hnodup fun key _ => by simp, keys_empty, List.nil_append]

/-- New entries whose keys differ come after the others. -/
theorem entries_update_of_disjoint {d : Dict K V} {entries : List (K × V)}
    (hnodup : (entries.map Prod.fst).Nodup) (hnew : ∀ key ∈ entries.map Prod.fst, key ∉ d.keys) :
    (d.update entries).entries = d.entries ++ entries := by
  induction entries generalizing d with
  | nil => simp
  | cons entry rest ih =>
      rw [List.map_cons, List.nodup_cons] at hnodup
      rw [List.map_cons, List.forall_mem_cons] at hnew
      have hset : (d.set entry.1 entry.2).entries = d.entries ++ [entry] := by
        rw [set, dif_neg hnew.1]
      rw [update_cons, ih hnodup.2, hset, List.append_assoc, List.singleton_append]
      intro key hkey hmem
      rw [mem_keys_set] at hmem
      rcases hmem with rfl | hmem
      · exact hnodup.1 hkey
      · exact hnew.2 key hkey hmem

/-- A list of entries whose keys differ is a dictionary as it is. -/
theorem entries_ofList {entries : List (K × V)} (hnodup : (entries.map Prod.fst).Nodup) :
    (ofList entries).entries = entries :=
  entries_update_of_disjoint hnodup fun key _ => by simp

@[simp] theorem ofList_entries (d : Dict K V) : ofList d.entries = d :=
  Dict.ext (entries_ofList d.nodupKeys)

end Dict
