import Mathlib.Data.List.Induction
import Mathlib.Data.List.Nodup
import Mathlib.Logic.Function.Defs

/-!
# Invoke keys

`backend/storage/invoke_keys_store.py`: the table of the keys that open one graph to machine
callers. A row holds the hash of a token and the graph that it was minted for. Randomness is an
argument of `generateInvokeKey`. `KeyLive` reads off a sequence of operations which keys were minted
and not revoked since; `stored_iff_live` says that these are the keys in the table.
-/

namespace AgentGraphStudio

/-! ## The table -/

/-- A stored key. -/
structure InvokeKeyRow where
  keyId : String
  graphId : String
  label : String
  keyHash : String
  keyPrefix : String
  timeoutSeconds : Int
  createdAt : String
  createdBy : Option String := none
  lastUsedAt : Option String := none
  deriving DecidableEq

/-- The table `graph_invoke_keys`, whose primary key is `key_id`. -/
structure InvokeKeyTable where
  rows : List InvokeKeyRow
  keyIds_nodup : (rows.map InvokeKeyRow.keyId).Nodup

/-- No keys. -/
def InvokeKeyTable.empty : InvokeKeyTable := ⟨[], List.nodup_nil⟩

/-- What `secrets` draws for a new key. -/
structure KeyDraw where
  token : String
  keyId : String
  deriving DecidableEq

/-- What a new key is called and who makes it. -/
structure KeyDescription where
  label : String
  createdAt : String
  timeoutSeconds : Int := 60
  createdBy : Option String := none
  deriving DecidableEq

/-- The token of a new key. -/
def generateToken (draw : KeyDraw) : String := "agsk_" ++ draw.token

section

variable (hashToken : String → String)

/-- The row of a new key. -/
def newInvokeKey (graphId : String) (description : KeyDescription) (draw : KeyDraw) :
    InvokeKeyRow where
  keyId := draw.keyId
  graphId
  label := description.label
  keyHash := hashToken (generateToken draw)
  keyPrefix := ((generateToken draw).take 12).toString
  timeoutSeconds := description.timeoutSeconds
  createdAt := description.createdAt
  createdBy := description.createdBy

/-- Insert a new key and hand out its token. The table refuses a key id that it has. -/
def generateInvokeKey (graphId : String) (description : KeyDescription) (draw : KeyDraw)
    (table : InvokeKeyTable) : Except String ((InvokeKeyRow × String) × InvokeKeyTable) :=
  if h : draw.keyId ∈ table.rows.map InvokeKeyRow.keyId then
    .error "UNIQUE constraint failed: graph_invoke_keys.key_id"
  else
    let row := newInvokeKey hashToken graphId description draw
    .ok ((row, generateToken draw),
      { rows := table.rows ++ [row]
        keyIds_nodup := by
          rw [List.map_append, List.nodup_append']
          refine ⟨table.keyIds_nodup, List.nodup_singleton _, fun keyId hmem hlast => h ?_⟩
          rw [List.map_singleton, List.mem_singleton] at hlast
          rwa [show draw.keyId = keyId from hlast.symm] })

/-- Write down when a key was used. -/
def stampInvokeKey (keyId now : String) (row : InvokeKeyRow) : InvokeKeyRow :=
  if row.keyId = keyId then { row with lastUsedAt := some now } else row

@[simp] theorem stampInvokeKey_keyId (keyId now : String) (row : InvokeKeyRow) :
    (stampInvokeKey keyId now row).keyId = row.keyId := by
  unfold stampInvokeKey
  split <;> rfl

@[simp] theorem stampInvokeKey_graphId (keyId now : String) (row : InvokeKeyRow) :
    (stampInvokeKey keyId now row).graphId = row.graphId := by
  unfold stampInvokeKey
  split <;> rfl

@[simp] theorem stampInvokeKey_keyHash (keyId now : String) (row : InvokeKeyRow) :
    (stampInvokeKey keyId now row).keyHash = row.keyHash := by
  unfold stampInvokeKey
  split <;> rfl

/-- The table after a key was used. -/
def InvokeKeyTable.stamp (table : InvokeKeyTable) (keyId now : String) : InvokeKeyTable where
  rows := table.rows.map (stampInvokeKey keyId now)
  keyIds_nodup := by
    rw [List.map_map]
    exact (List.map_congr_left fun row _ => stampInvokeKey_keyId keyId now row).symm ▸
      table.keyIds_nodup

/-- Look a token up among the keys of one graph. -/
def findInvokeKey (graphId token : String) (table : InvokeKeyTable) : Option InvokeKeyRow :=
  table.rows.find? fun row => row.graphId = graphId ∧ row.keyHash = hashToken token

/-- Look a token up among the keys of one graph, and write down when it was used. -/
def validateInvokeKey (graphId token : String) (now : Option String) (table : InvokeKeyTable) :
    Option InvokeKeyRow × InvokeKeyTable :=
  match findInvokeKey hashToken graphId token table, now with
  | none, _ => (none, table)
  | some row, none => (some row, table)
  | some row, some now =>
    (some { row with lastUsedAt := some now }, table.stamp row.keyId now)

end

/-- Remove a key of a graph. -/
def revokeInvokeKey (graphId keyId : String) (table : InvokeKeyTable) : Bool × InvokeKeyTable :=
  (table.rows.any fun row => row.graphId = graphId ∧ row.keyId = keyId,
    { rows := table.rows.filter fun row => ¬ (row.graphId = graphId ∧ row.keyId = keyId)
      keyIds_nodup := (List.filter_sublist.map InvokeKeyRow.keyId).nodup table.keyIds_nodup })

/-- What is minted: a key with the hash of the token that is handed out. -/
theorem generate_invoke_key_ok {hashToken : String → String} {graphId token : String}
    {description : KeyDescription} {draw : KeyDraw} {table after : InvokeKeyTable}
    {row : InvokeKeyRow}
    (h : generateInvokeKey hashToken graphId description draw table = .ok ((row, token), after)) :
    row = newInvokeKey hashToken graphId description draw ∧ token = generateToken draw ∧
      after.rows = table.rows ++ [row] := by
  unfold generateInvokeKey at h
  split at h
  · cases h
  · cases h
    exact ⟨rfl, rfl, rfl⟩

/-! ## Which keys are stored -/

/-- A key with this id and hash is stored for a graph. -/
def InvokeKeyTable.Stores (table : InvokeKeyTable) (graphId keyId keyHash : String) : Prop :=
  ∃ row ∈ table.rows, row.graphId = graphId ∧ row.keyId = keyId ∧ row.keyHash = keyHash

section

variable {hashToken : String → String} {table : InvokeKeyTable}

theorem not_stores_empty (graphId keyId keyHash : String) :
    ¬ InvokeKeyTable.empty.Stores graphId keyId keyHash :=
  fun ⟨_, hrow, _⟩ => List.not_mem_nil hrow

/-- A token is found exactly if a key with its hash is stored for the graph. -/
theorem find_invoke_key_isSome_iff {graphId token : String} :
    (findInvokeKey hashToken graphId token table).isSome ↔
      ∃ keyId, table.Stores graphId keyId (hashToken token) := by
  unfold findInvokeKey
  rw [List.find?_isSome]
  constructor
  · intro hfound
    obtain ⟨row, hrow, hmatches⟩ := hfound
    obtain ⟨hgraph, hhash⟩ := of_decide_eq_true hmatches
    exact ⟨row.keyId, row, hrow, hgraph, rfl, hhash⟩
  · intro hstored
    obtain ⟨_, row, hrow, hgraph, _, hhash⟩ := hstored
    exact ⟨row, hrow, decide_eq_true ⟨hgraph, hhash⟩⟩

theorem validate_invoke_key_isSome (graphId token : String) (now : Option String) :
    (validateInvokeKey hashToken graphId token now table).1.isSome =
      (findInvokeKey hashToken graphId token table).isSome := by
  unfold validateInvokeKey
  split <;> simp_all

/-- Using a key changes only its time. -/
theorem stores_validate_iff {graphId token : String} {now : Option String}
    {other keyId keyHash : String} :
    (validateInvokeKey hashToken graphId token now table).2.Stores other keyId keyHash ↔
      table.Stores other keyId keyHash := by
  unfold validateInvokeKey
  split
  · exact Iff.rfl
  · exact Iff.rfl
  · simp [InvokeKeyTable.Stores, InvokeKeyTable.stamp]

/-- Exactly the revoked key is gone. -/
theorem stores_revoke_iff {graphId revoked other keyId keyHash : String} :
    (revokeInvokeKey graphId revoked table).2.Stores other keyId keyHash ↔
      table.Stores other keyId keyHash ∧ ¬ (other = graphId ∧ keyId = revoked) := by
  unfold InvokeKeyTable.Stores revokeInvokeKey
  simp only [List.mem_filter, decide_eq_true_eq]
  constructor
  · intro hstored
    obtain ⟨row, ⟨hrow, hkept⟩, rfl, rfl, rfl⟩ := hstored
    exact ⟨⟨row, hrow, rfl, rfl, rfl⟩, hkept⟩
  · intro hstored
    obtain ⟨⟨row, hrow, rfl, rfl, rfl⟩, hkept⟩ := hstored
    exact ⟨row, ⟨hrow, hkept⟩, rfl, rfl, rfl⟩

end

/-! ## Sequences of operations -/

/-- An operation on the table. -/
inductive KeyOperation where
  | mint (graphId : String) (description : KeyDescription) (draw : KeyDraw)
  | revoke (graphId keyId : String)
  | validate (graphId token : String) (now : Option String)
  deriving DecidableEq

section

variable (hashToken : String → String)

/-- The table after an operation. A refused key changes nothing. -/
def KeyOperation.apply (table : InvokeKeyTable) : KeyOperation → InvokeKeyTable
  | .mint graphId description draw =>
    match generateInvokeKey hashToken graphId description draw table with
    | .ok (_, table) => table
    | .error _ => table
  | .revoke graphId keyId => (revokeInvokeKey graphId keyId table).2
  | .validate graphId token now => (validateInvokeKey hashToken graphId token now table).2

/-- The table after some operations on an empty one. -/
def keysAfter (operations : List KeyOperation) : InvokeKeyTable :=
  operations.foldl (KeyOperation.apply hashToken) .empty

/-- In this table, the operation mints a key and hands out this token. -/
def KeyOperation.Mints (table : InvokeKeyTable) (operation : KeyOperation)
    (graphId keyId token : String) : Prop :=
  ∃ description draw row after, operation = .mint graphId description draw ∧
    generateInvokeKey hashToken graphId description draw table = .ok ((row, token), after) ∧
    row.keyId = keyId

/-- Some operation minted the key for this graph, and none has revoked it since. -/
def KeyLive (operations : List KeyOperation) (graphId keyId token : String) : Prop :=
  ∃ before mint since, operations = before ++ mint :: since ∧
    mint.Mints hashToken (keysAfter hashToken before) graphId keyId token ∧
    .revoke graphId keyId ∉ since

end

section

variable {hashToken : String → String}

theorem keys_after_snoc (operations : List KeyOperation) (operation : KeyOperation) :
    keysAfter hashToken (operations ++ [operation]) =
      operation.apply hashToken (keysAfter hashToken operations) :=
  List.foldl_concat _ _ _ _

/-- After one more operation, a key is live if it was and is not revoked now, or is minted now. -/
theorem key_live_snoc_iff {operations : List KeyOperation} {operation : KeyOperation}
    {graphId keyId token : String} :
    KeyLive hashToken (operations ++ [operation]) graphId keyId token ↔
      KeyLive hashToken operations graphId keyId token ∧ operation ≠ .revoke graphId keyId ∨
        operation.Mints hashToken (keysAfter hashToken operations) graphId keyId token := by
  constructor
  · intro hlive
    obtain ⟨before, mint, since, hsplit, hmints, hsince⟩ := hlive
    cases since using List.reverseRecOn with
    | nil =>
        obtain ⟨rfl, hlast⟩ := List.append_inj' hsplit rfl
        cases hlast
        exact .inr hmints
    | append_singleton since last =>
        rw [← List.cons_append, ← List.append_assoc] at hsplit
        obtain ⟨rfl, hlast⟩ := List.append_inj' hsplit rfl
        cases hlast
        rw [List.mem_append, List.mem_singleton, not_or] at hsince
        exact .inl ⟨⟨before, mint, since, rfl, hmints, hsince.1⟩, Ne.symm hsince.2⟩
  · intro hcases
    rcases hcases with ⟨⟨before, mint, since, rfl, hmints, hsince⟩, hlast⟩ | hmints
    · refine ⟨before, mint, since ++ [operation], by simp, hmints, ?_⟩
      rw [List.mem_append, List.mem_singleton, not_or]
      exact ⟨hsince, Ne.symm hlast⟩
    · exact ⟨operations, operation, [], rfl, hmints, List.not_mem_nil⟩

/-- What one operation does to the stored keys. -/
theorem stores_apply_iff {table : InvokeKeyTable} {operation : KeyOperation}
    {graphId keyId keyHash : String} :
    (operation.apply hashToken table).Stores graphId keyId keyHash ↔
      table.Stores graphId keyId keyHash ∧ operation ≠ .revoke graphId keyId ∨
        ∃ token, operation.Mints hashToken table graphId keyId token ∧
          hashToken token = keyHash := by
  -- Minting alone adds a key, and revoking alone takes one away.
  cases operation with
  | mint minted description draw =>
      have happly : (KeyOperation.mint minted description draw).apply hashToken table =
          match generateInvokeKey hashToken minted description draw table with
          | .ok (_, table) => table
          | .error _ => table := rfl
      rw [happly]
      cases hgenerate : generateInvokeKey hashToken minted description draw table with
      | error e =>
          refine ⟨fun hstored => .inl ⟨hstored, nofun⟩, fun hcases => ?_⟩
          rcases hcases with hstored | ⟨_, ⟨_, _, _, _, heq, hminted, _⟩, _⟩
          · exact hstored.1
          · cases heq
            rw [hgenerate] at hminted
            cases hminted
      | ok made =>
          obtain ⟨⟨row, token⟩, after⟩ := made
          obtain ⟨rfl, rfl, hrows⟩ := generate_invoke_key_ok hgenerate
          show after.Stores graphId keyId keyHash ↔ _
          unfold InvokeKeyTable.Stores
          rw [hrows]
          constructor
          · intro hstored
            obtain ⟨row, hrow, rfl, rfl, rfl⟩ := hstored
            rcases List.mem_append.mp hrow with hold | hnew
            · exact .inl ⟨⟨row, hold, rfl, rfl, rfl⟩, nofun⟩
            · obtain rfl := List.mem_singleton.mp hnew
              exact .inr ⟨_, ⟨description, draw, _, _, rfl, hgenerate, rfl⟩, rfl⟩
          · intro hcases
            rcases hcases with ⟨⟨row, hrow, hends⟩, _⟩ | ⟨_, ⟨_, _, _, _, heq, hminted, hid⟩, hhash⟩
            · exact ⟨row, List.mem_append_left _ hrow, hends⟩
            · cases heq
              rw [hgenerate] at hminted
              cases hminted
              exact ⟨_, List.mem_append_right _ (List.mem_singleton_self _), rfl, hid, hhash⟩
  | revoke revokedGraph revokedKey =>
      refine stores_revoke_iff.trans ⟨fun hstored => .inl ⟨hstored.1, fun heq => ?_⟩,
        fun hcases => ?_⟩
      · cases heq
        exact hstored.2 ⟨rfl, rfl⟩
      · rcases hcases with ⟨hstored, hne⟩ | ⟨_, ⟨_, _, _, _, heq, _⟩, _⟩
        · refine ⟨hstored, fun hsame => hne ?_⟩
          rw [hsame.1, hsame.2]
        · cases heq
  | validate usedGraph token now =>
      refine stores_validate_iff.trans ⟨fun hstored => .inl ⟨hstored, nofun⟩, fun hcases => ?_⟩
      rcases hcases with hstored | ⟨_, ⟨_, _, _, _, heq, _⟩, _⟩
      · exact hstored.1
      · cases heq

/-- Exactly the live keys are stored. -/
theorem stored_iff_live (operations : List KeyOperation) {graphId keyId keyHash : String} :
    (keysAfter hashToken operations).Stores graphId keyId keyHash ↔
      ∃ token, KeyLive hashToken operations graphId keyId token ∧ hashToken token = keyHash := by
  induction operations using List.reverseRecOn with
  | nil =>
      refine ⟨fun hstored => absurd hstored (not_stores_empty _ _ _), fun hlive => ?_⟩
      obtain ⟨_, ⟨_, _, _, hsplit, _⟩, _⟩ := hlive
      simp at hsplit
  | append_singleton operations operation ih =>
      rw [keys_after_snoc, stores_apply_iff, ih]
      constructor
      · intro hcases
        rcases hcases with ⟨⟨token, hlive, hhash⟩, hne⟩ | ⟨token, hmints, hhash⟩
        · exact ⟨token, key_live_snoc_iff.mpr (.inl ⟨hlive, hne⟩), hhash⟩
        · exact ⟨token, key_live_snoc_iff.mpr (.inr hmints), hhash⟩
      · intro hlive
        obtain ⟨token, hlive, hhash⟩ := hlive
        rcases key_live_snoc_iff.mp hlive with ⟨hbefore, hne⟩ | hmints
        · exact .inl ⟨⟨token, hbefore, hhash⟩, hne⟩
        · exact .inr ⟨token, hmints, hhash⟩

/-- A token that opens a graph is that of a live key of the graph, if hashes tell tokens apart. -/
theorem opens_iff_live (hinjective : Function.Injective hashToken)
    (operations : List KeyOperation) {graphId token : String} {now : Option String} :
    (validateInvokeKey hashToken graphId token now (keysAfter hashToken operations)).1.isSome ↔
      ∃ keyId, KeyLive hashToken operations graphId keyId token := by
  rw [validate_invoke_key_isSome, find_invoke_key_isSome_iff]
  refine exists_congr fun keyId => (stored_iff_live operations).trans ⟨fun hlive => ?_,
    fun hlive => ⟨token, hlive, rfl⟩⟩
  obtain ⟨other, hlive, hhash⟩ := hlive
  rwa [← hinjective hhash]

/-- No token is empty. -/
theorem token_ne_empty {operations : List KeyOperation} {graphId keyId token : String}
    (h : KeyLive hashToken operations graphId keyId token) : token ≠ "" := by
  obtain ⟨_, _, _, _, ⟨_, draw, _, _, _, hgenerate, _⟩, _⟩ := h
  obtain ⟨_, rfl, _⟩ := generate_invoke_key_ok hgenerate
  unfold generateToken
  intro hempty
  have hlength := congrArg String.length hempty
  rw [String.length_append, show "agsk_".length = 5 from rfl] at hlength
  exact absurd hlength (by simp)

end

end AgentGraphStudio
