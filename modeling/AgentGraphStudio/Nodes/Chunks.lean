import AgentGraphStudio.Nodes.ModelCalls

/-!
# The chunks of a text

`_chunk_text` of `backend/nodes/ingest_document.py` cuts a text into overlapping chunks with a
`while` loop. `ChunkRun` is that loop without a bound on its iterations, and `chunk_text_covers`
says that it ends and which chunks it makes.
-/

namespace AgentGraphStudio

section

variable {α : Type} (items : List α) (chunkSize stride : Nat)

/-- The loop, from a start to its end, appends these chunks. -/
inductive ChunkRun : Nat → List (List α) → Prop where
  | done {start : Nat} (hend : items.length ≤ start) : ChunkRun start []
  | chunk {start : Nat} {rest : List (List α)} (hmore : start < items.length)
      (hrest : ChunkRun (start + stride) rest) :
      ChunkRun start ((items.drop start).take chunkSize :: rest)

variable {items chunkSize stride}

/-- As many iterations as there are items left are enough when the loop moves on. -/
theorem chunks_from_run (hstride : 0 < stride) (fuel start : Nat)
    (hfuel : items.length ≤ start + fuel) :
    ChunkRun items chunkSize stride start (chunksFrom items chunkSize stride fuel start) := by
  induction fuel generalizing start with
  | zero => exact .done hfuel
  | succ fuel ih =>
      rw [chunksFrom]
      split
      · rename_i hmore
        exact .chunk hmore (ih (start + stride) (by omega))
      · rename_i hend
        exact .done (Nat.le_of_not_lt hend)

namespace ChunkRun

variable {start : Nat} {chunks : List (List α)}

/-- Every chunk starts before the end, so it has an item if chunks may have items. -/
theorem bounds (h : ChunkRun items chunkSize stride start chunks) (hsize : 0 < chunkSize) :
    ∀ chunk ∈ chunks, chunk ≠ [] ∧ chunk.length ≤ chunkSize := by
  induction h with
  | done hend => exact fun _ hmem => absurd hmem List.not_mem_nil
  | @chunk start rest hmore hrest ih =>
      intro other hmem
      rcases List.mem_cons.mp hmem with rfl | hmem
      · refine ⟨fun hnil => ?_, List.length_take_le _ _⟩
        have hlength := congrArg List.length hnil
        rw [List.length_take, List.length_drop, List.length_nil] at hlength
        omega
      · exact ih other hmem

/-- The chunks start one stride after another. -/
theorem get_eq (h : ChunkRun items chunkSize stride start chunks) (i : Nat)
    (hi : i < chunks.length) :
    chunks[i] = (items.drop (start + i * stride)).take chunkSize := by
  induction h generalizing i with
  | done hend => exact absurd hi (Nat.not_lt_zero i)
  | @chunk start rest hmore hrest ih =>
      cases i with
      | zero => rw [List.getElem_cons_zero, Nat.zero_mul, Nat.add_zero]
      | succ i =>
          rw [List.getElem_cons_succ, ih i (Nat.lt_of_succ_lt_succ hi), Nat.succ_mul,
            Nat.add_comm (i * stride), Nat.add_assoc]

/-- The loop made no chunk only if it was at the end. -/
theorem at_end (h : ChunkRun items chunkSize stride start []) : items.length ≤ start := by
  cases h with
  | done hend => exact hend

/-- One stride of each chunk but the last, and the last one, are what was left of the items. -/
theorem cover (h : ChunkRun items chunkSize stride start chunks) (hle : stride ≤ chunkSize) :
    (chunks.dropLast.map (List.take stride)).flatten ++ chunks.getLast?.toList.flatten =
      items.drop start := by
  induction h with
  | done hend => exact (List.drop_eq_nil_of_le hend).symm
  | @chunk start rest hmore hrest ih =>
      cases rest with
      | nil =>
          -- The last chunk: the next start is past the end, so nothing is cut off.
          have hlast : (items.drop start).length ≤ chunkSize := by
            have := hrest.at_end
            rw [List.length_drop]
            omega
          simp [List.take_of_length_le hlast]
      | cons next rest =>
          rw [List.dropLast_cons_cons, List.map_cons, List.flatten_cons, List.getLast?_cons_cons,
            List.append_assoc, ih, List.take_take, Nat.min_eq_left hle, ← List.drop_drop,
            List.take_append_drop]

end ChunkRun

end

/-- A slice `text[start:stop]` with bounds that are not negative. -/
def textSlice (text : String) (start stop : Int) : String :=
  String.ofList ((text.toList.drop start.toNat).take (stop.toNat - start.toNat))

/-- The loop over a text ends for every size and every smaller overlap. Its chunks are not empty
and at most of that size, the i-th is the slice at `i` strides, and one stride of each chunk but
the last and the whole last one give the text back. -/
theorem chunk_text_covers (text : String) (chunkSize chunkOverlap : Int)
    (hoverlap : 0 ≤ chunkOverlap) (hsize : chunkOverlap < chunkSize) :
    ∃ chunks : List String,
      chunkText (.str text) chunkSize chunkOverlap = .ok (chunks.map .str) ∧
      ChunkRun text.toList chunkSize.toNat (chunkSize - chunkOverlap).toNat 0
        (chunks.map String.toList) ∧
      (∀ chunk ∈ chunks, chunk ≠ "" ∧ (chunk.length : Int) ≤ chunkSize) ∧
      (∀ i (hi : i < chunks.length),
        chunks[i] = textSlice text (i * (chunkSize - chunkOverlap))
          (i * (chunkSize - chunkOverlap) + chunkSize)) ∧
      String.join (chunks.dropLast.map (textSlice · 0 (chunkSize - chunkOverlap)) ++
        chunks.getLast?.toList) = text := by
  -- Everything is read off the run of the loop, on lists of characters.
  have hrun : ChunkRun text.toList chunkSize.toNat (chunkSize - chunkOverlap).toNat 0
      (chunkItems text.toList chunkSize chunkOverlap) :=
    chunks_from_run (by omega) _ _ (Nat.le_add_left _ _)
  refine ⟨(chunkItems text.toList chunkSize chunkOverlap).map String.ofList, ?_, ?_, ?_, ?_, ?_⟩
  · rw [chunkText, List.map_map]
    rfl
  · rw [List.map_map, String.toList_comp_ofList, List.map_id]
    exact hrun
  · intro chunk hmem
    obtain ⟨chars, hchars, rfl⟩ := List.mem_map.mp hmem
    obtain ⟨hne, hlength⟩ := hrun.bounds (by omega) chars hchars
    refine ⟨fun hempty => hne (String.ofList_eq_empty_iff.mp hempty), ?_⟩
    rw [String.length_ofList]
    omega
  · intro i hi
    rw [List.length_map] at hi
    rw [List.getElem_map, hrun.get_eq i hi, textSlice, Nat.zero_add]
    have hstart : ((i : Int) * (chunkSize - chunkOverlap)).toNat =
        i * (chunkSize - chunkOverlap).toNat := by
      rw [Int.toNat_mul (Int.natCast_nonneg i) (by omega), Int.toNat_natCast]
    rw [Int.toNat_add (Int.mul_nonneg (Int.natCast_nonneg i) (by omega)) (by omega), hstart,
      Nat.add_sub_cancel_left]
  · have hcover := hrun.cover (by omega)
    rw [List.drop_zero] at hcover
    have hslice : ∀ chunk : List Char,
        (textSlice (String.ofList chunk) 0 (chunkSize - chunkOverlap)).toList =
          chunk.take (chunkSize - chunkOverlap).toNat := by
      intro chunk
      rw [textSlice, String.toList_ofList, String.toList_ofList, Int.toNat_zero, List.drop_zero,
        Nat.sub_zero]
    generalize chunkItems text.toList chunkSize chunkOverlap = chunks at hcover
    rw [← String.toList_inj, ← hcover, String.toList_join, List.flatMap_append,
      ← List.map_dropLast, List.map_map, List.flatMap_map, List.getLast?_map, List.flatMap_def]
    simp only [Function.comp_apply, hslice]
    cases chunks.getLast? <;> simp

theorem chunk_text_covers_greeting :
    (0 : Int) ≤ 2 ∧ (2 : Int) < 5 ∧
      ∃ chunks : List String, chunkText (.str "hello world") 5 2 = .ok (chunks.map .str) ∧
        String.join (chunks.dropLast.map (textSlice · 0 (5 - 2)) ++ chunks.getLast?.toList) =
          "hello world" := by
  obtain ⟨chunks, hchunks, _, _, _, hjoin⟩ :=
    chunk_text_covers "hello world" 5 2 (by decide) (by decide)
  exact ⟨by decide, by decide, chunks, hchunks, hjoin⟩

end AgentGraphStudio
