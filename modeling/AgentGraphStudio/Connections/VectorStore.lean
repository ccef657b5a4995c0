import AgentGraphStudio.Lib.History
import AgentGraphStudio.Lib.Stateful

/-!
# The client of a vector store

`VectorStoreClient` of `backend/connections/vector_store_connection.py`. The connection sees its
own changes at once (`seen`) and the file has them when they are committed (`store`). An insert
opens a transaction, an insert that fails undoes nothing but itself, and a table is created and
dropped in one statement. `add_all_or_nothing_iff` says for which histories of calls the client
behaves like a store that has a document as a whole or not at all.
-/

namespace AgentGraphStudio

/-! ## Embeddings -/

/-- The arithmetic of an embedding's numbers, any of which may raise, and their packing into the
floats of the file. -/
structure FloatArithmetic where
  Number : Type
  Packed : Type
  zero : Number
  mul : Number → Number → Except String Number
  add : Number → Number → Except String Number
  sqrt : Number → Except String Number
  div : Number → Number → Except String Number
  isZero : Number → Bool
  pack : Number → Except String Packed

/-- The vector extension: which dimensions a table may have, and which of the rows are the nearest
ones, unless the search fails. -/
structure VectorExtension (floats : FloatArithmetic) (Row : Type) where
  creatable : Nat → Bool
  nearest : List Row → List floats.Packed → Int → Option (List Row)
  nearest_mem : ∀ {rows embedding topK found}, nearest rows embedding topK = some found →
    ∀ row ∈ found, row ∈ rows

section

variable (floats : FloatArithmetic)

/-- The vector of length one, unless it is zero. -/
def normalize (vector : List floats.Number) : Except String (List floats.Number) := do
  let total ← vector.foldlM (fun total x => do floats.add total (← floats.mul x x)) floats.zero
  let norm ← floats.sqrt total
  if floats.isZero norm then .ok vector else vector.mapM (floats.div · norm)

/-- The bytes of a vector, as the floats that they stand for. -/
def serialize (vector : List floats.Number) : Except String (List floats.Packed) :=
  vector.mapM floats.pack

/-- What is stored of an embedding, and searched for. -/
def packEmbedding (embedding : List floats.Number) : Except String (List floats.Packed) := do
  serialize floats (← normalize floats embedding)

/-! ## The table of chunks -/

/-- A chunk as a search tells it. -/
structure ChunkEntry where
  text : String
  documentName : Option String
  position : Nat
  deriving DecidableEq

/-- A row of the table. -/
structure ChunkRow where
  embedding : List floats.Packed
  entry : ChunkEntry

/-- The table `chunks`, which takes the embeddings of one dimension. -/
structure ChunkTable where
  dim : Nat
  rows : List (ChunkRow floats)

/-- A client: the table in the file, and the table that the connection sees. -/
structure VectorStoreClient where
  store : Option (ChunkTable floats)
  seen : Option (ChunkTable floats)

/-- The arguments of `add`, and the positions at which an insert fails for a reason that has
nothing to do with its row. -/
structure AddCall where
  chunks : List String
  embeddings : List (List floats.Number)
  documentName : Option String
  fails : Nat → Bool := fun _ => false

/-- A call of a client. -/
inductive VectorStoreCall where
  | add (call : AddCall floats)
  | query (embedding : List floats.Number) (topK : Int)
  | clear

/-- A method of the client. What it has changed stays changed when it raises. -/
abbrev ClientMethod (α : Type) := EStateM String (VectorStoreClient floats) α

end

section

variable {floats : FloatArithmetic}

/-- A client that has opened a file. -/
def VectorStoreClient.opened (table : Option (ChunkTable floats)) : VectorStoreClient floats :=
  ⟨table, table⟩

def VectorStoreClient.commit (client : VectorStoreClient floats) : VectorStoreClient floats :=
  { client with store := client.seen }

/-- The client with another table, which is not committed. -/
def VectorStoreClient.withTable (client : VectorStoreClient floats)
    (table : Option (ChunkTable floats)) : VectorStoreClient floats :=
  { client with seen := table }

variable (vec : VectorExtension floats (ChunkRow floats))

/-- Create the table unless there is one. -/
def ensureTable (dim : Nat) : ClientMethod floats Unit := do
  match (← get).seen with
  | some _ => pure ()
  | none =>
    if vec.creatable dim then
      modify fun client => (client.withTable (some ⟨dim, []⟩)).commit
    else throw "vec0 constructor error"

/-- Insert one row. The table rejects an embedding of another dimension. -/
def insertRow (call : AddCall floats) (position : Nat) (text : String)
    (embedding : List floats.Number) : ClientMethod floats Unit := do
  let packed ← Stateful.ofExcept (packEmbedding floats embedding)
  match (← get).seen with
  | none => throw "no such table: chunks"
  | some table =>
    if packed.length ≠ table.dim ∨ call.fails position then throw "insert failed"
    else
      modify fun client => client.withTable
        (some { table with rows := table.rows ++ [⟨packed, text, call.documentName, position⟩] })

/-- Insert the chunks from a position on, as far as there are embeddings. -/
def insertRows (call : AddCall floats) :
    Nat → List String → List (List floats.Number) → ClientMethod floats Unit
  | position, text :: texts, embedding :: embeddings => do
    insertRow call position text embedding
    insertRows call (position + 1) texts embeddings
  | _, _, _ => pure ()

namespace VectorStoreClient

/-- Add the chunks of a document, and tell how many they are. -/
def add (call : AddCall floats) : ClientMethod floats Nat :=
  if call.chunks = [] then pure 0
  else do
    match call.embeddings with
    | [] => throw "list index out of range"
    | first :: _ =>
      ensureTable vec first.length
      insertRows call 0 call.chunks call.embeddings
      modify VectorStoreClient.commit
      pure call.chunks.length

/-- The chunks nearest to an embedding. A search that fails finds nothing. -/
def query (client : VectorStoreClient floats) (embedding : List floats.Number) (topK : Int) :
    Except String (List ChunkEntry) := do
  let packed ← packEmbedding floats embedding
  match client.seen with
  | none => .ok []
  | some table =>
    if packed.length ≠ table.dim then .ok []
    else .ok (((vec.nearest table.rows packed topK).getD []).map ChunkRow.entry)

/-- Drop the table. -/
def clear (client : VectorStoreClient floats) : VectorStoreClient floats :=
  (client.withTable none).commit

end VectorStoreClient

end

/-! ## Stores of whole documents -/

section

variable {floats : FloatArithmetic} (vec : VectorExtension floats (ChunkRow floats))

/-- Chunks of a document, from a position on. -/
def AddCall.entriesFrom (call : AddCall floats) (position : Nat) (texts : List String) :
    List ChunkEntry :=
  (texts.zipIdx position).map fun (text, i) => ⟨text, call.documentName, i⟩

/-- Every chunk of the document of a call, at its position. -/
def AddCall.document (call : AddCall floats) : List ChunkEntry := call.entriesFrom 0 call.chunks

/-- The chunks in a table. -/
def entriesOf (table : Option (ChunkTable floats)) : List ChunkEntry :=
  match table with
  | none => []
  | some table => table.rows.map ChunkRow.entry

/-- A client, and the chunks of a store that has a document as a whole or not at all. -/
structure StoreRun (floats : FloatArithmetic) where
  client : VectorStoreClient floats
  expected : List ChunkEntry

/-- A run that starts with the opening of a file. -/
def StoreRun.opened (table : Option (ChunkTable floats)) : StoreRun floats where
  client := .opened table
  expected := entriesOf table

/-- One call. An `add` that returns has added its document, and one that raises has not. -/
def StoreRun.act : VectorStoreCall floats → StoreRun floats → StoreRun floats
  | .add call, run =>
    match (VectorStoreClient.add vec call).run run.client with
    | .ok _ client => ⟨client, run.expected ++ call.document⟩
    | .error _ client => ⟨client, run.expected⟩
  | .query _ _, run => run
  | .clear, run => ⟨run.client.clear, []⟩

/-- The connection and the file have the chunks of whole documents, and so has every answer. -/
structure AllOrNothing (run : StoreRun floats) : Prop where
  seen : entriesOf run.client.seen = run.expected
  store : entriesOf run.client.store = run.expected
  answers : ∀ embedding topK found, run.client.query vec embedding topK = .ok found →
    ∀ entry ∈ found, entry ∈ run.expected

/-- The dimension of the table that the rows of a call go to, if the call comes to that. -/
def tableDim (client : VectorStoreClient floats) (call : AddCall floats) : Option Nat :=
  match call.embeddings, client.seen with
  | [], _ => none
  | _ :: _, some table => some table.dim
  | first :: _, none => if vec.creatable first.length then some first.length else none

/-- The chunk at a position has an embedding that such a table accepts, and its insert does not
fail for another reason. -/
def AddCall.Inserts (call : AddCall floats) (dim position : Nat) : Prop :=
  ∃ embedding packed, call.embeddings[position]? = some embedding ∧
    packEmbedding floats embedding = .ok packed ∧ packed.length = dim ∧
    call.fails position = false

/-- If the first row of a call can be inserted, then the row of every chunk can. -/
def AddSound (run : StoreRun floats) : VectorStoreCall floats → Prop
  | .add call => ∀ dim, tableDim vec run.client call = some dim →
    call.Inserts dim 0 → ∀ position < call.chunks.length, call.Inserts dim position
  | _ => True

variable {vec}

@[simp] theorem AddCall.entries_from_nil (call : AddCall floats) (position : Nat) :
    call.entriesFrom position [] = [] := rfl

@[simp] theorem AddCall.entries_from_cons (call : AddCall floats) (position : Nat) (text : String)
    (texts : List String) :
    call.entriesFrom position (text :: texts) =
      ⟨text, call.documentName, position⟩ :: call.entriesFrom (position + 1) texts := rfl

@[simp] theorem AddCall.length_entries_from (call : AddCall floats) (position : Nat)
    (texts : List String) : (call.entriesFrom position texts).length = texts.length := by
  rw [entriesFrom, List.length_map, List.length_zipIdx]

/-- What is searched is what the connection sees. -/
theorem all_or_nothing_iff {run : StoreRun floats} : AllOrNothing vec run ↔
    entriesOf run.client.seen = run.expected ∧ entriesOf run.client.store = run.expected := by
  refine ⟨fun h => ⟨h.seen, h.store⟩, fun ⟨hseen, hstore⟩ => ⟨hseen, hstore, ?_⟩⟩
  intro embedding topK found hfound entry hentry
  rw [VectorStoreClient.query] at hfound
  rw [← hseen]
  -- A search that finds anything has packed its embedding and found a table.
  cases hpacked : packEmbedding floats embedding with
  | error e =>
      rw [hpacked] at hfound
      cases hfound
  | ok packed =>
      rw [hpacked] at hfound
      dsimp only [bind, Except.bind] at hfound
      cases htable : run.client.seen with
      | none =>
          rw [htable] at hfound
          cases hfound
          cases hentry
      | some table =>
          rw [htable] at hfound
          dsimp only at hfound
          split at hfound
          · cases hfound
            cases hentry
          · cases hfound
            obtain ⟨row, hrow, rfl⟩ := List.mem_map.mp hentry
            cases hnearest : vec.nearest table.rows packed topK with
            | none =>
                rw [hnearest] at hrow
                cases hrow
            | some nearest =>
                rw [hnearest] at hrow
                exact List.mem_map_of_mem (vec.nearest_mem hnearest row hrow)

/-! ## The rows of a call -/

/-- A row is inserted or the table stays as it is. -/
theorem insert_row_run {call : AddCall floats} {client : VectorStoreClient floats}
    {table : ChunkTable floats} (hseen : client.seen = some table) {position : Nat}
    {embedding : List floats.Number} (hembedding : call.embeddings[position]? = some embedding)
    (text : String) :
    (∃ row : ChunkRow floats, row.entry = ⟨text, call.documentName, position⟩ ∧
      (insertRow call position text embedding).run client =
        .ok () (client.withTable (some { table with rows := table.rows ++ [row] })) ∧
      call.Inserts table.dim position) ∨
    (∃ e, (insertRow call position text embedding).run client = .error e client ∧
      ¬ call.Inserts table.dim position) := by
  rw [insertRow]
  -- Packing may raise, and so may the insertion into a table of another dimension.
  cases hpacked : packEmbedding floats embedding with
  | error e =>
      refine .inr ⟨e, rfl, ?_⟩
      rintro ⟨other, packed, hother, hpacks, _⟩
      rw [hembedding] at hother
      cases hother
      rw [hpacked] at hpacks
      cases hpacks
  | ok packed =>
      have hrun : ∀ rest : List floats.Packed → ClientMethod floats Unit,
          (Stateful.ofExcept (Except.ok packed) >>= rest).run client = (rest packed).run client :=
        fun _ => rfl
      rw [hrun, Stateful.run_get_bind, hseen]
      dsimp only
      by_cases hreject : packed.length ≠ table.dim ∨ call.fails position = true
      · rw [if_pos hreject]
        refine .inr ⟨_, rfl, ?_⟩
        rintro ⟨other, otherPacked, hother, hpacks, hdim, hfails⟩
        rw [hembedding] at hother
        cases hother
        rw [hpacked] at hpacks
        cases hpacks
        rcases hreject with hreject | hreject
        · exact hreject hdim
        · rw [hfails] at hreject
          cases hreject
      · rw [if_neg hreject]
        rw [not_or, not_not, Bool.not_eq_true] at hreject
        exact .inl ⟨⟨packed, text, call.documentName, position⟩, rfl, rfl, embedding, packed,
          hembedding, hpacked, hreject⟩

/-- No more rows. -/
theorem with_no_rows {client : VectorStoreClient floats} {table : ChunkTable floats}
    (hseen : client.seen = some table) :
    client.withTable (some { table with rows := table.rows ++ [] }) = client := by
  rw [List.append_nil, VectorStoreClient.withTable, ← hseen]

/-- The rows of a call are inserted up to the first one that fails. -/
theorem insert_rows_run {call : AddCall floats} (texts : List String) (position : Nat)
    {client : VectorStoreClient floats} {table : ChunkTable floats}
    (hseen : client.seen = some table) :
    ∃ rows : List (ChunkRow floats),
      ((insertRows call position texts (call.embeddings.drop position)).run client =
          .ok () (client.withTable (some { table with rows := table.rows ++ rows })) ∧
        rows.map ChunkRow.entry =
          (call.entriesFrom position texts).take (call.embeddings.length - position) ∧
        ∀ i < texts.length, position + i < call.embeddings.length →
          call.Inserts table.dim (position + i)) ∨
      ((∃ e, (insertRows call position texts (call.embeddings.drop position)).run client =
          .error e (client.withTable (some { table with rows := table.rows ++ rows }))) ∧
        (rows ≠ [] ↔ call.Inserts table.dim position) ∧
        ∃ i < texts.length, ¬ call.Inserts table.dim (position + i)) := by
  -- By the texts, as `zip` takes them: with too few embeddings the rest is not inserted.
  induction texts generalizing position client table with
  | nil =>
      refine ⟨[], .inl ⟨?_, by simp, by simp⟩⟩
      rw [with_no_rows hseen, insertRows]
      · rfl
      · simp
  | cons text texts ih =>
      rcases Nat.lt_or_ge position call.embeddings.length with hlt | hge
      · have hembedding : call.embeddings[position]? = some call.embeddings[position] :=
          List.getElem?_eq_getElem hlt
        rw [List.drop_eq_getElem_cons hlt, insertRows, EStateM.run_bind]
        rcases insert_row_run hseen hembedding text with ⟨row, hentry, hrun, hinserts⟩ |
          ⟨e, hrun, hinserts⟩
        · rw [hrun]
          obtain ⟨rows, hrest⟩ := @ih (position + 1)
            (client.withTable (some { table with rows := table.rows ++ [row] }))
            { table with rows := table.rows ++ [row] } rfl
          refine ⟨row :: rows, ?_⟩
          rw [← List.append_cons] at hrest
          rcases hrest with ⟨hrest, hentries, hall⟩ | ⟨⟨e, hrest⟩, _, i, hi, hfails⟩
          · refine .inl ⟨hrest, ?_, ?_⟩
            · rw [List.map_cons, hentry, hentries, AddCall.entries_from_cons,
                ← Nat.sub_add_cancel (Nat.sub_pos_of_lt hlt), List.take_succ_cons, Nat.sub_sub]
            · rintro (_ | i) hi hlength
              · exact hinserts
              · rw [← Nat.succ_add_eq_add_succ] at hlength ⊢
                exact hall i (Nat.lt_of_succ_lt_succ hi) hlength
          · refine .inr ⟨⟨e, hrest⟩, by simpa using hinserts, i + 1, Nat.succ_lt_succ hi, ?_⟩
            rw [← Nat.succ_add_eq_add_succ]
            exact hfails
        · rw [hrun]
          refine ⟨[], .inr ⟨⟨e, ?_⟩, by simpa using hinserts, 0, Nat.succ_pos _, hinserts⟩⟩
          rw [with_no_rows hseen]
      · rw [List.drop_eq_nil_of_le hge, Nat.sub_eq_zero_of_le hge]
        refine ⟨[], .inl ⟨?_, rfl, fun i _ hlength => absurd hlength (by omega)⟩⟩
        rw [with_no_rows hseen, insertRows]
        · rfl
        · simp

/-- A call finds a table or creates one, unless there is none for it. -/
theorem ensure_table_run {client : VectorStoreClient floats} {call : AddCall floats}
    {first : List floats.Number} {rest : List (List floats.Number)}
    (hembeddings : call.embeddings = first :: rest)
    (hsame : entriesOf client.store = entriesOf client.seen) :
    (tableDim vec client call = none ∧
      ∃ e, (ensureTable vec first.length).run client = .error e client) ∨
    ∃ table final, tableDim vec client call = some table.dim ∧
      (ensureTable vec first.length).run client = .ok () final ∧ final.seen = some table ∧
      table.rows.map ChunkRow.entry = entriesOf client.seen ∧
      entriesOf final.store = entriesOf client.seen := by
  rw [ensureTable, Stateful.run_get_bind, tableDim, hembeddings]
  cases hseen : client.seen with
  | some table => exact .inr ⟨table, client, rfl, rfl, hseen, rfl, by rw [hsame, hseen]⟩
  | none =>
      dsimp only
      by_cases hcreatable : vec.creatable first.length = true
      · rw [if_pos hcreatable, if_pos hcreatable]
        exact .inr ⟨⟨first.length, []⟩, _, rfl, rfl, rfl, rfl, rfl⟩
      · rw [if_neg hcreatable, if_neg hcreatable]
        exact .inl ⟨rfl, _, rfl⟩

/-- Call the rest of `add` on a client and tell what is expected of it. -/
def storeRows (call : AddCall floats) (client : VectorStoreClient floats)
    (expected : List ChunkEntry) : StoreRun floats :=
  match (do
      insertRows call 0 call.chunks call.embeddings
      modify VectorStoreClient.commit
      pure call.chunks.length : ClientMethod floats Nat).run client with
  | .ok _ client => ⟨client, expected ++ call.document⟩
  | .error _ client => ⟨client, expected⟩

/-- The rows of a call are expected, all or none, unless one fails after another. -/
theorem store_rows_iff {call : AddCall floats} {client : VectorStoreClient floats}
    {table : ChunkTable floats} {expected : List ChunkEntry} (hseen : client.seen = some table)
    (hrows : table.rows.map ChunkRow.entry = expected) (hstore : entriesOf client.store = expected)
    (hchunks : call.chunks ≠ []) (hembeddings : call.embeddings ≠ []) :
    AllOrNothing vec (storeRows call client expected) ↔
      (call.Inserts table.dim 0 →
        ∀ position < call.chunks.length, call.Inserts table.dim position) := by
  have hposition : 0 < call.chunks.length := List.length_pos_iff.mpr hchunks
  have hlength : 0 < call.embeddings.length := List.length_pos_iff.mpr hembeddings
  -- `zip` may leave texts over; else every row is inserted, or one of them fails.
  obtain ⟨rows, hrun⟩ := @insert_rows_run floats call call.chunks 0 client table hseen
  rw [List.drop_zero] at hrun
  rw [storeRows, EStateM.run_bind, all_or_nothing_iff]
  rcases hrun with ⟨hrun, hentries, hinserts⟩ | ⟨⟨e, hrun⟩, hfirst, i, hi, hfails⟩
  · rw [Nat.sub_zero, ← AddCall.document] at hentries
    simp only [Nat.zero_add] at hinserts
    have hadded : (rows.map ChunkRow.entry = call.document) ↔
        call.chunks.length ≤ call.embeddings.length := by
      have hdocument : call.document.length = call.chunks.length := call.length_entries_from _ _
      rw [hentries, ← hdocument]
      refine ⟨fun htake => ?_, List.take_of_length_le⟩
      rw [← htake, List.length_take]
      exact Nat.min_le_left _ _
    have hstored : (table.rows ++ rows).map ChunkRow.entry = expected ++ call.document ↔
        call.chunks.length ≤ call.embeddings.length := by
      rw [List.map_append, hrows, List.append_cancel_left_eq, hadded]
    rw [hrun]
    refine (and_self_iff.trans hstored).trans ⟨fun hle _ position hlt => ?_, fun h => ?_⟩
    · exact hinserts position hlt (Nat.lt_of_lt_of_le hlt hle)
    · by_contra hlt
      obtain ⟨embedding, _, hget, _⟩ := h (hinserts 0 hposition hlength) _ (Nat.lt_of_not_le hlt)
      rw [List.getElem?_eq_none (Nat.le_refl _)] at hget
      cases hget
  · rw [Nat.zero_add] at hfails
    have hstored : (table.rows ++ rows).map ChunkRow.entry = expected ↔ rows = [] := by
      rw [List.map_append, hrows, List.append_right_eq_self, List.map_eq_nil_iff]
    rw [hrun]
    refine ((and_iff_left hstore).trans hstored).trans ⟨fun hnone hinserts => ?_, fun h => ?_⟩
    · exact absurd hnone (hfirst.mpr hinserts)
    · by_contra hrows
      exact hfails (h (hfirst.mp hrows) i hi)

/-- A call keeps the store one of whole documents exactly if a row that fails is its first. -/
theorem act_add_iff {run : StoreRun floats} (h : AllOrNothing vec run) (call : AddCall floats) :
    AllOrNothing vec (run.act vec (.add call)) ↔ AddSound vec run (.add call) := by
  have hsame : entriesOf run.client.store = entriesOf run.client.seen := h.store.trans h.seen.symm
  rw [StoreRun.act, VectorStoreClient.add, AddSound]
  by_cases hchunks : call.chunks = []
  · rw [if_pos hchunks, AddCall.document, hchunks, AddCall.entries_from_nil]
    simp only [EStateM.run_pure, List.append_nil, List.length_nil, Nat.not_lt_zero, false_imp_iff,
      implies_true, iff_true]
    exact h
  · rw [if_neg hchunks]
    cases hembeddings : call.embeddings with
    | nil =>
        rw [tableDim, hembeddings]
        exact ⟨fun _ dim hdim => (by cases hdim), fun _ => h⟩
    | cons first rest =>
        dsimp only
        rw [EStateM.run_bind]
        rcases @ensure_table_run floats vec run.client call first rest hembeddings hsame with
          ⟨hdim, e, hensure⟩ | ⟨table, final, hdim, hensure, hseen, hrows, hstore⟩
        · rw [hensure, hdim]
          exact ⟨fun _ dim hdim => (by cases hdim), fun _ => h⟩
        · rw [hensure, hdim]
          have hstored := @store_rows_iff floats vec call final table run.expected hseen
            (hrows.trans h.seen) (hstore.trans h.seen) hchunks (by rw [hembeddings]; simp)
          rw [storeRows, hembeddings] at hstored
          simp only [Option.some.injEq, forall_eq']
          exact hstored

/-- A call keeps the store one of whole documents exactly if it is sound. -/
theorem act_all_or_nothing_iff {run : StoreRun floats} {call : VectorStoreCall floats}
    (h : AllOrNothing vec run) : AllOrNothing vec (run.act vec call) ↔ AddSound vec run call := by
  cases call with
  | add call => exact act_add_iff h call
  | query embedding topK => exact ⟨fun _ => trivial, fun _ => h⟩
  | clear => exact ⟨fun _ => trivial, fun _ => all_or_nothing_iff.mpr ⟨rfl, rfl⟩⟩

end

/-- A client of any file has whole documents only, throughout a history of calls, exactly if in
each `add` whose first row can be inserted the row of every chunk can. -/
theorem add_all_or_nothing_iff {floats : FloatArithmetic}
    (vec : VectorExtension floats (ChunkRow floats)) (table : Option (ChunkTable floats))
    (history : List (VectorStoreCall floats)) :
    History.AllStates (StoreRun.act vec) history (.opened table) (AllOrNothing vec) ↔
      History.AllSteps (StoreRun.act vec) history (.opened table) (AddSound vec) :=
  History.all_states_iff (fun _ _ => act_all_or_nothing_iff)
    (all_or_nothing_iff.mpr ⟨rfl, rfl⟩)

/-! ### A document whose second chunk has another dimension -/

/-- Embeddings of whole numbers. -/
def wholeNumbers : FloatArithmetic where
  Number := Int
  Packed := Int
  zero := 0
  mul a b := .ok (a * b)
  add a b := .ok (a + b)
  sqrt a := .ok (Nat.sqrt a.toNat)
  div a b := if b = 0 then .error "float division by zero" else .ok (a / b)
  isZero a := a = 0
  pack := .ok

/-- An extension that finds the first rows. -/
def firstRows : VectorExtension wholeNumbers (ChunkRow wholeNumbers) where
  creatable dim := 0 < dim
  nearest rows _ topK := some (rows.take topK.toNat)
  nearest_mem := by
    rintro rows _ topK _ ⟨⟩ row hrow
    exact List.mem_of_mem_take hrow

/-- Two chunks whose embeddings differ in length. -/
def petsCall : AddCall wholeNumbers where
  chunks := ["cats", "dogs"]
  embeddings := [[(1 : Int)], [(1 : Int), (0 : Int)]]
  documentName := some "pets"

def stonesCall : AddCall wholeNumbers where
  chunks := ["granite"]
  embeddings := [[(1 : Int)]]
  documentName := some "stones"

/-- The run in which the first document fails. -/
def petsRun : StoreRun wholeNumbers := (StoreRun.opened none).act firstRows (.add petsCall)

/-- The first chunk of a document that failed is found, and stored with the next document. -/
theorem failed_document_stored :
    (∃ e client, (VectorStoreClient.add firstRows petsCall).run (.opened none) =
      .error e client) ∧
    petsRun.client.query firstRows [(1 : Int)] 5 = .ok [⟨"cats", some "pets", 0⟩] ∧
    entriesOf (petsRun.act firstRows (.add stonesCall)).client.store =
      [⟨"cats", some "pets", 0⟩, ⟨"granite", some "stones", 0⟩] ∧
    ¬ History.AllStates (StoreRun.act firstRows) [.add petsCall, .add stonesCall] (.opened none)
      (AllOrNothing firstRows) := by
  refine ⟨⟨_, _, rfl⟩, rfl, rfl, fun h => ?_⟩
  have hseen : [(⟨"cats", some "pets", 0⟩ : ChunkEntry)] = [] :=
    (h [.add petsCall] [.add stonesCall] rfl).seen
  cases hseen

end AgentGraphStudio
