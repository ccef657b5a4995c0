import AgentGraphStudio.Lib.History
import AgentGraphStudio.Lib.Paging
import AgentGraphStudio.Storage.Runs
import Mathlib.Data.String.Basic

/-!
# The history of runs

The table of `backend/storage/runs_store.py` and its listing, `GET /runs`. A row is inserted when a
run starts and updated when it ends; no row is deleted, and an update never touches the columns that
`started_at` and the filters on graph and source read. A client pages through the listing, the
newest run first, while other runs start and end between its requests. `pages_miss_no_run`: what
matched at the start is on one of the pages by the time the offset has reached the total, although
the runs that start meanwhile push it from page to page.
-/

namespace AgentGraphStudio

/-! ## The table -/

/-- The table `runs`. `run_id` is its primary key. -/
structure RunsDb where
  rows : List RunRow
  runIds : (rows.map RunRow.runId).Nodup

namespace RunsDb

/-- The table without rows. -/
def empty : RunsDb := ⟨[], List.nodup_nil⟩

/-- `INSERT`, which fails when the primary key is taken. -/
def insert (db : RunsDb) (row : RunRow) : RunsDb :=
  if h : row.runId ∈ db.rows.map RunRow.runId then db
  else ⟨db.rows ++ [row], by
    rw [List.map_append, List.nodup_append']
    exact ⟨db.runIds, List.nodup_singleton _, by simpa using h⟩⟩

/-- `create_run_record`. `written` tells whether the store was there to be written to; whatever
`sqlite3.Error` comes of the statement is logged and forgotten. -/
def createRunRecord (db : RunsDb) (written : Bool) (runId : String) (graphId : Option String)
    (triggerSource startedAt : String) (runBy : Option String) : RunsDb :=
  if written then
    db.insert { runId, graphId, status := .running, triggerSource, startedAt, runBy }
  else db

/-- A row with the columns that the end of its run sets. -/
def completed (status : RunStatus) (finishedAt : String) (resultJson error : Option String)
    (row : RunRow) : RunRow :=
  { row with status, finishedAt := some finishedAt, resultJson, error }

theorem completed_run_id (status : RunStatus) (finishedAt : String)
    (resultJson error : Option String) (row : RunRow) :
    (completed status finishedAt resultJson error row).runId = row.runId := rfl

/-- `UPDATE ... WHERE run_id = ?`. -/
def update (db : RunsDb) (runId : String) (change : RunRow → RunRow)
    (hkey : ∀ row, (change row).runId = row.runId) : RunsDb where
  rows := db.rows.map fun row => if row.runId = runId then change row else row
  runIds := by
    have hkeys : (db.rows.map fun row => if row.runId = runId then change row else row).map
        RunRow.runId = db.rows.map RunRow.runId := by
      rw [List.map_map]
      refine List.map_congr_left fun row _ => ?_
      rw [Function.comp_apply]
      split
      · exact hkey row
      · rfl
    rw [hkeys]
    exact db.runIds

/-- `complete_run_record`. -/
def completeRunRecord (db : RunsDb) (written : Bool) (runId : String) (status : RunStatus)
    (finishedAt : String) (resultJson error : Option String) : RunsDb :=
  if written then
    db.update runId (completed status finishedAt resultJson error)
      (completed_run_id status finishedAt resultJson error)
  else db

end RunsDb

/-! ## The listing -/

/-- The text of a status in its column. -/
def RunStatus.text : RunStatus → String
  | .running => "running"
  | .completed => "completed"
  | .failed => "failed"

/-- A row of the listing: no result (`RunRowSummary`, and `RunSummary` of the answer). -/
structure RunRowSummary where
  runId : String
  graphId : Option String
  status : RunStatus
  triggerSource : String
  startedAt : String
  finishedAt : Option String
  deriving DecidableEq, Repr

/-- The columns that the listing selects. -/
def RunRow.summary (row : RunRow) : RunRowSummary where
  runId := row.runId
  graphId := row.graphId
  status := row.status
  triggerSource := row.triggerSource
  startedAt := row.startedAt
  finishedAt := row.finishedAt

/-- The filters of a listing. -/
structure RunFilter where
  graphId : Option String := none
  status : Option String := none
  triggerSource : Option String := none

/-- The `WHERE` clauses. A row without a graph satisfies no clause on `graph_id`. -/
def RunFilter.clauses (filter : RunFilter) : List (RunRow → Bool) :=
  (match filter.graphId with
    | none => []
    | some graphId => [fun row => decide (row.graphId = some graphId)]) ++
  (match filter.status with
    | none => []
    | some status => [fun row => decide (row.status.text = status)]) ++
  (match filter.triggerSource with
    | none => []
    | some triggerSource => [fun row => decide (row.triggerSource = triggerSource)])

/-- The row satisfies every clause. -/
def RunFilter.matches (filter : RunFilter) (row : RunRow) : Bool :=
  filter.clauses.all fun clause => clause row

/-- The rows that satisfy every clause. -/
def RunsDb.matching (db : RunsDb) (filter : RunFilter) : List RunRow :=
  db.rows.filter filter.matches

/-- An `int` bound to a parameter of a statement has 64 bits. -/
def sqliteInteger (value : Int) : Except String Int :=
  if -9223372036854775808 ≤ value ∧ value < 9223372036854775808 then .ok value
  else .error "Python int too large to convert to SQLite INTEGER"

/-- `LIMIT ? OFFSET ?`: a negative limit is none, and a negative offset is zero. -/
def limitOffset (limit offset : Int) (rows : List RunRow) : List RunRow :=
  if limit < 0 then rows.drop offset.toNat
  else Paging.page offset.toNat limit.toNat rows

/-- `list_run_records`: a page of summaries and the number of rows that match. `order` is
`ORDER BY started_at DESC`, which leaves the order of equal times open. -/
def RunsDb.listRunRecords (db : RunsDb) (order : List RunRow → List RunRow) (filter : RunFilter)
    (limit offset : Int) : Except String (List RunRowSummary × Nat) := do
  let total := (db.matching filter).length
  let limit ← sqliteInteger limit
  let offset ← sqliteInteger offset
  let rows := limitOffset limit offset (order (db.matching filter))
  return (rows.map RunRow.summary, total)

/-- The answer of `GET /runs`. -/
structure RunListResponse where
  runs : List RunRowSummary
  total : Nat
  limit : Int
  offset : Int

/-- `list_runs`. -/
def listRuns (db : RunsDb) (order : List RunRow → List RunRow) (filter : RunFilter)
    (limit offset : Int) : Except String RunListResponse := do
  let (runs, total) ← db.listRunRecords order filter limit offset
  return { runs, total, limit, offset }

/-- The rows come newest first. The times are ISO texts, compared as texts. -/
def NewestFirst (order : List RunRow → List RunRow) : Prop :=
  Paging.Sorts RunRow.startedAt order

/-! ## A client of the listing -/

/-- A write to the table. -/
inductive RunWrite where
  | createRunRecord (runId : String) (graphId : Option String)
      (triggerSource startedAt : String) (runBy : Option String)
  | completeRunRecord (runId : String) (status : RunStatus) (finishedAt : String)
      (resultJson error : Option String)

/-- Carry out a write. -/
def RunWrite.run (written : Bool) (db : RunsDb) : RunWrite → RunsDb
  | .createRunRecord runId graphId triggerSource startedAt runBy =>
    db.createRunRecord written runId graphId triggerSource startedAt runBy
  | .completeRunRecord runId status finishedAt resultJson error =>
    db.completeRunRecord written runId status finishedAt resultJson error

/-- The table and a client that pages through it: the offset of its next request, the total that it
was told last, and the pages it has. -/
structure RunBrowse where
  db : RunsDb
  offset : Nat := 0
  total : Option Nat := none
  pages : List (List RunRowSummary) := []

/-- Another request's write, or the client's next request. -/
inductive BrowseAction where
  | change (written : Bool) (write : RunWrite)
  | read (order : List RunRow → List RunRow)

/-- The client after the answer to a request for `limit` runs. After an error it asks again. -/
def RunBrowse.answered (limit : Nat) (state : RunBrowse) :
    Except String RunListResponse → RunBrowse
  | .error _ => state
  | .ok answer =>
    { state with
      offset := state.offset + limit
      total := some answer.total
      pages := state.pages ++ [answer.runs] }

/-- Carry out an action of a client that asks for `limit` runs at a time. -/
def RunBrowse.act (filter : RunFilter) (limit : Nat) (action : BrowseAction)
    (state : RunBrowse) : RunBrowse :=
  match action with
  | .change written write => { state with db := write.run written state.db }
  | .read order => state.answered limit (listRuns state.db order filter limit state.offset)

/-- The offset has reached the total. -/
def RunBrowse.Finished (state : RunBrowse) : Prop :=
  ∃ total, state.total = some total ∧ total ≤ state.offset

/-- The runs on the client's pages. -/
def RunBrowse.listed (state : RunBrowse) : List String :=
  state.pages.flatten.map RunRowSummary.runId

/-- The write takes a run out of the listing. -/
def RunWrite.Removes (write : RunWrite) (written : Bool) (filter : RunFilter) (db : RunsDb) :
    Prop :=
  ∃ row ∈ db.matching filter,
    ∀ other ∈ (write.run written db).matching filter, other.runId ≠ row.runId

/-- A request orders the rows as it says, and unless the filter leaves the status open no run is
taken out of the listing by its end. -/
def BrowseAction.Allowed (filter : RunFilter) (state : RunBrowse) : BrowseAction → Prop
  | .change written write => filter.status = none ∨ ¬write.Removes written filter state.db
  | .read order => NewestFirst order

/-- No write adds a run to the listing or takes one out of it. -/
def BrowseAction.Quiet (filter : RunFilter) (state : RunBrowse) : BrowseAction → Prop
  | .change written write =>
    ((write.run written state.db).matching filter).map RunRow.runId =
      (state.db.matching filter).map RunRow.runId
  | .read _ => True

/-! ## Rows -/

/-- The columns by which a listing finds and orders a run. -/
def RunRow.stamp (row : RunRow) : String × String := (row.runId, row.startedAt)

/-- The listing, reduced to these columns. -/
def RunsDb.stamps (db : RunsDb) (filter : RunFilter) : List (String × String) :=
  (db.matching filter).map RunRow.stamp

section Rows

variable {db : RunsDb} {filter : RunFilter}

/-- Two rows with the same key are one. -/
theorem RunsDb.row_unique {first second : RunRow} (hfirst : first ∈ db.rows)
    (hsecond : second ∈ db.rows) (h : first.runId = second.runId) : first = second :=
  List.inj_on_of_nodup_map db.runIds hfirst hsecond h

end Rows

/-! ## The listing under writes -/

section Listing

variable {filter : RunFilter} {db : RunsDb}

theorem RunsDb.mem_matching_iff {row : RunRow} :
    row ∈ db.matching filter ↔ row ∈ db.rows ∧ filter.matches row = true := List.mem_filter

/-- The listing holds a run once. -/
theorem RunsDb.matching_ids_nodup : ((db.matching filter).map RunRow.runId).Nodup :=
  (List.filter_sublist.map RunRow.runId).nodup db.runIds

theorem RunsDb.mem_stamps_iff {runId startedAt : String} :
    (runId, startedAt) ∈ db.stamps filter ↔
      ∃ row ∈ db.matching filter, row.runId = runId ∧ row.startedAt = startedAt := by
  rw [stamps, List.mem_map]
  constructor
  · intro ⟨row, hrow, hstamp⟩
    exact ⟨row, hrow, congrArg Prod.fst hstamp, congrArg Prod.snd hstamp⟩
  · intro ⟨row, hrow, hid, htime⟩
    exact ⟨row, hrow, by rw [RunRow.stamp, hid, htime]⟩

theorem RunsDb.stamps_ids : (db.stamps filter).map Prod.fst =
    (db.matching filter).map RunRow.runId := by
  rw [stamps, List.map_map]
  rfl

theorem RunsDb.stamps_times : (db.stamps filter).map Prod.snd =
    (db.matching filter).map RunRow.startedAt := by
  rw [stamps, List.map_map]
  rfl

/-- The rank of a run can be read off the stamps. -/
theorem RunsDb.rank_stamps (startedAt : String) :
    Paging.rank Prod.snd (db.stamps filter) startedAt =
      Paging.rank RunRow.startedAt (db.matching filter) startedAt := by
  rw [Paging.rank_eq_count, Paging.rank_eq_count, stamps_times]

/-- A filter that leaves the status open does not look at what the end of a run sets. -/
theorem RunFilter.matches_completed (hopen : filter.status = none) (status : RunStatus)
    (finishedAt : String) (resultJson error : Option String) (row : RunRow) :
    filter.matches (RunsDb.completed status finishedAt resultJson error row) =
      filter.matches row := by
  rw [RunFilter.matches, RunFilter.matches, RunFilter.clauses, hopen]
  cases filter.graphId <;> cases filter.triggerSource <;> rfl

/-- A new row takes none away. -/
theorem RunsDb.stamps_insert (row : RunRow) :
    (db.stamps filter).Sublist ((db.insert row).stamps filter) := by
  rw [insert]
  split
  · exact List.Sublist.refl _
  · rw [stamps, stamps, matching, matching, List.filter_append, List.map_append]
    exact List.sublist_append_left _ _

/-- An update that keeps the stamps, and keeps in the listing what is there, takes none away. -/
theorem RunsDb.stamps_update {key : String} {change : RunRow → RunRow}
    (hkey : ∀ row, (change row).runId = row.runId)
    (htime : ∀ row, (change row).startedAt = row.startedAt)
    (hkeeps : ∀ row ∈ db.matching filter, row.runId = key → filter.matches (change row) = true) :
    (db.stamps filter).Sublist ((db.update key change hkey).stamps filter) := by
  let changed (row : RunRow) : RunRow := if row.runId = key then change row else row
  have hstamp : RunRow.stamp ∘ changed = RunRow.stamp := by
    funext row
    show (changed row).stamp = row.stamp
    simp only [changed]
    split
    · rw [RunRow.stamp, RunRow.stamp, hkey, htime]
    · rfl
  have hafter : (db.update key change hkey).stamps filter =
      (db.rows.filter (filter.matches ∘ changed)).map RunRow.stamp := by
    rw [stamps, matching]
    show ((db.rows.map changed).filter filter.matches).map RunRow.stamp = _
    rw [List.filter_map, List.map_map, hstamp]
  have hbefore : db.matching filter =
      (db.rows.filter (filter.matches ∘ changed)).filter filter.matches := by
    rw [List.filter_filter, matching]
    refine List.filter_congr fun row hrow => ?_
    by_cases hmatches : filter.matches row = true
    · have hchanged : filter.matches (changed row) = true := by
        simp only [changed]
        split
        · exact hkeeps row (mem_matching_iff.mpr ⟨hrow, hmatches⟩) (by assumption)
        · exact hmatches
      rw [Function.comp_apply, hmatches, hchanged]
      rfl
    · rw [Bool.eq_false_iff.mpr hmatches]
      rfl
  rw [hafter, stamps, hbefore]
  exact List.filter_sublist.map RunRow.stamp

/-- Unless it removes a run, a write takes none away. -/
theorem RunWrite.stamps_grow (write : RunWrite) (written : Bool)
    (hkeeps : filter.status = none ∨ ¬write.Removes written filter db) :
    (db.stamps filter).Sublist ((write.run written db).stamps filter) := by
  cases written with
  | false => cases write <;> exact List.Sublist.refl _
  | true =>
      cases write with
      | createRunRecord runId graphId triggerSource startedAt runBy =>
          rw [RunWrite.run, RunsDb.createRunRecord, if_pos rfl]
          exact RunsDb.stamps_insert _
      | completeRunRecord runId status finishedAt resultJson error =>
          rw [RunWrite.run, RunsDb.completeRunRecord, if_pos rfl]
          refine RunsDb.stamps_update _ (fun row => rfl) fun row hrow hid => ?_
          have hmatches := (RunsDb.mem_matching_iff.mp hrow).2
          rcases hkeeps with hopen | hremoves
          · rw [RunFilter.matches_completed hopen]
            exact hmatches
          · -- the row is still listed, and it is the only one with its key
            by_contra hfails
            refine hremoves ⟨row, hrow, fun other hother hsame => hfails ?_⟩
            rw [RunWrite.run, RunsDb.completeRunRecord, if_pos rfl] at hother
            obtain ⟨hmem, hother_matches⟩ := RunsDb.mem_matching_iff.mp hother
            obtain ⟨source, hsource, hchanged⟩ := List.mem_map.mp hmem
            have hsource_id : source.runId = other.runId := by
              rw [← hchanged]
              split <;> rfl
            have hrow_source : source = row := RunsDb.row_unique hsource
              (RunsDb.mem_matching_iff.mp hrow).1 (hsource_id.trans hsame)
            rw [hrow_source, if_pos hid] at hchanged
            rw [hchanged]
            exact hother_matches

/-! ## A read -/

theorem sqlite_integer_ok {value bound : Int} (h : sqliteInteger value = .ok bound) :
    bound = value := by
  rw [sqliteInteger] at h
  split at h
  · exact (Except.ok.inj h).symm
  · cases h

/-- A natural limit and offset give a page, unless they are too large. -/
theorem list_runs_cases (db : RunsDb) (order : List RunRow → List RunRow) (filter : RunFilter)
    (limit offset : Nat) :
    (∃ text, listRuns db order filter limit offset = .error text) ∨
      ∃ answer, listRuns db order filter limit offset = .ok answer ∧
        answer.runs =
          (Paging.page offset limit (order (db.matching filter))).map RunRow.summary ∧
        answer.total = (db.matching filter).length := by
  rw [listRuns, RunsDb.listRunRecords]
  cases hlimit : sqliteInteger limit with
  | error text => exact .inl ⟨text, rfl⟩
  | ok bound =>
      cases hoffset : sqliteInteger offset with
      | error text => exact .inl ⟨text, rfl⟩
      | ok start =>
          refine .inr ⟨_, rfl, ?_, rfl⟩
          show (limitOffset bound start _).map RunRow.summary = _
          rw [sqlite_integer_ok hlimit, sqlite_integer_ok hoffset, limitOffset,
            if_neg (by omega), Int.toNat_natCast, Int.toNat_natCast]

/-- A read changes nothing, or it turns the page. -/
theorem RunBrowse.act_read (filter : RunFilter) (limit : Nat)
    (order : List RunRow → List RunRow) (state : RunBrowse) :
    state.act filter limit (.read order) = state ∨
      state.act filter limit (.read order) =
        { state with
          offset := state.offset + limit
          total := some (state.db.matching filter).length
          pages := state.pages ++
            [(Paging.page state.offset limit (order (state.db.matching filter))).map
              RunRow.summary] } := by
  have hact : state.act filter limit (.read order) =
      state.answered limit (listRuns state.db order filter limit state.offset) := rfl
  rw [hact]
  rcases list_runs_cases state.db order filter limit state.offset with
    ⟨text, herror⟩ | ⟨answer, hok, hruns, htotal⟩
  · rw [herror]
    exact .inl rfl
  · rw [hok, answered, hruns, htotal]
    exact .inr rfl

end Listing

/-! ## A whole browse -/

section Browse

variable {filter : RunFilter} {limit : Nat}

/-- No action but a write touches the table. -/
theorem RunBrowse.act_read_db (order : List RunRow → List RunRow) (state : RunBrowse) :
    (state.act filter limit (.read order)).db = state.db := by
  rcases act_read filter limit order state with h | h <;> rw [h]

/-- What is listed stays listed. -/
theorem RunBrowse.listed_grow (action : BrowseAction) (state : RunBrowse) {runId : String}
    (h : runId ∈ state.listed) : runId ∈ (state.act filter limit action).listed := by
  cases action with
  | change written write => exact h
  | read order =>
      rcases act_read filter limit order state with hact | hact
      · rw [hact]
        exact h
      · rw [hact, listed, List.flatten_append, List.map_append]
        exact List.mem_append_left _ h

/-- An allowed action takes no run out of the listing. -/
theorem RunBrowse.act_stamps (limit : Nat) {action : BrowseAction} {state : RunBrowse}
    (hallowed : action.Allowed filter state) :
    (state.db.stamps filter).Sublist ((state.act filter limit action).db.stamps filter) := by
  cases action with
  | change written write => exact write.stamps_grow written hallowed
  | read order =>
      rw [act_read_db]

/-- Nor do several. -/
theorem RunBrowse.after_stamps {history : List BrowseAction} {state : RunBrowse}
    (hallowed : History.AllSteps (RunBrowse.act filter limit) history state
      (BrowseAction.Allowed filter)) :
    (state.db.stamps filter).Sublist
      ((History.after (RunBrowse.act filter limit) history state).db.stamps filter) := by
  induction history generalizing state with
  | nil => exact List.Sublist.refl _
  | cons action history ih =>
      obtain ⟨hfirst, hrest⟩ := History.all_steps_cons.mp hallowed
      exact (act_stamps limit hfirst).trans (ih hrest)

/-- Where a run of the listing stands: it is on a page, or its rank is not behind the offset. -/
structure RunBrowse.Tracks (filter : RunFilter) (runId startedAt : String)
    (state : RunBrowse) : Prop where
  stamped : (runId, startedAt) ∈ state.db.stamps filter
  ahead : runId ∈ state.listed ∨
    state.offset ≤ Paging.rank Prod.snd (state.db.stamps filter) startedAt ∧
      ∀ total, state.total = some total → state.offset < total

/-- No other run of the listing started at this time. -/
def RunBrowse.Alone (filter : RunFilter) (runId startedAt : String) (state : RunBrowse) : Prop :=
  ∀ stamp ∈ state.db.stamps filter, stamp.2 = startedAt → stamp.1 = runId

/-- A run is on a page exactly if its rank lies within the page. -/
theorem RunBrowse.Alone.mem_page_iff {state : RunBrowse} {row : RunRow}
    (halone : state.Alone filter row.runId row.startedAt)
    {order : List RunRow → List RunRow} (horder : NewestFirst order)
    (hrow : row ∈ state.db.matching filter) (offset limit : Nat) :
    row ∈ Paging.page offset limit (order (state.db.matching filter)) ↔
      offset ≤ Paging.rank Prod.snd (state.db.stamps filter) row.startedAt ∧
        Paging.rank Prod.snd (state.db.stamps filter) row.startedAt < offset + limit := by
  rw [RunsDb.rank_stamps]
  refine Paging.mem_page_iff horder (List.Nodup.of_map _ RunsDb.matching_ids_nodup) hrow ?_
    offset limit
  intro other hother htime
  have hid : other.runId = row.runId :=
    halone other.stamp (List.mem_map_of_mem hother) htime
  exact RunsDb.row_unique (RunsDb.mem_matching_iff.mp hother).1
    (RunsDb.mem_matching_iff.mp hrow).1 hid

/-- One action keeps track of a run. -/
theorem RunBrowse.Tracks.act {runId startedAt : String} {state : RunBrowse}
    (h : state.Tracks filter runId startedAt) {action : BrowseAction}
    (hallowed : action.Allowed filter state) (halone : state.Alone filter runId startedAt) :
    (state.act filter limit action).Tracks filter runId startedAt := by
  have hgrow := RunBrowse.act_stamps limit hallowed
  refine ⟨hgrow.subset h.stamped, ?_⟩
  rcases h.ahead with hlisted | ⟨hrank, htotal⟩
  · exact .inl (RunBrowse.listed_grow action state hlisted)
  cases action with
  | change written write =>
      -- the offset stands still, and what is added can only push the run back
      exact .inr ⟨Nat.le_trans hrank (Paging.rank_mono (hgrow.map Prod.snd) startedAt), htotal⟩
  | read order =>
      rcases RunBrowse.act_read filter limit order state with hact | hact
      · rw [hact]
        exact .inr ⟨hrank, htotal⟩
      obtain ⟨row, hrow, rfl, rfl⟩ := RunsDb.mem_stamps_iff.mp h.stamped
      have hpage := halone.mem_page_iff hallowed hrow state.offset limit
      rw [hact]
      by_cases hwithin :
          Paging.rank Prod.snd (state.db.stamps filter) row.startedAt < state.offset + limit
      · refine .inl ?_
        rw [RunBrowse.listed, List.flatten_append, List.map_append, List.mem_append]
        refine .inr (List.mem_map.mpr ⟨row.summary, ?_, rfl⟩)
        rw [List.flatten_singleton]
        exact List.mem_map_of_mem (hpage.mpr ⟨hrank, hwithin⟩)
      · -- the run is behind this page, so there is more than the client has asked for
        have hmore : Paging.rank Prod.snd (state.db.stamps filter) row.startedAt <
            (state.db.matching filter).length := by
          rw [RunsDb.rank_stamps]
          exact Paging.rank_lt_length hrow
        refine .inr ⟨Nat.le_of_not_lt hwithin, fun total hlast => ?_⟩
        cases hlast
        show state.offset + limit < _
        omega

/-- A run that is on no page lies behind the offset, so the client goes on. -/
theorem RunBrowse.Tracks.listed_of_finished {runId startedAt : String} {state : RunBrowse}
    (h : state.Tracks filter runId startedAt) (hfinished : state.Finished) :
    runId ∈ state.listed := by
  rcases h.ahead with hlisted | ⟨-, hmore⟩
  · exact hlisted
  · obtain ⟨total, hlast, hle⟩ := hfinished
    have hlt := hmore total hlast
    omega

/-- What is on the pages is in the listing. -/
def RunBrowse.ListedMatch (filter : RunFilter) (state : RunBrowse) : Prop :=
  ∀ runId ∈ state.listed, ∃ startedAt, (runId, startedAt) ∈ state.db.stamps filter

theorem RunBrowse.ListedMatch.act {state : RunBrowse} (h : state.ListedMatch filter)
    {action : BrowseAction} (hallowed : action.Allowed filter state) :
    (state.act filter limit action).ListedMatch filter := by
  intro runId hlisted
  have hgrow := RunBrowse.act_stamps limit hallowed
  cases action with
  | change written write =>
      obtain ⟨startedAt, hstamp⟩ := h runId hlisted
      exact ⟨startedAt, hgrow.subset hstamp⟩
  | read order =>
      rw [RunBrowse.act_read_db]
      rcases RunBrowse.act_read filter limit order state with hact | hact
      · rw [hact] at hlisted
        exact h runId hlisted
      rw [hact, RunBrowse.listed, List.flatten_append, List.map_append, List.mem_append] at hlisted
      rcases hlisted with hbefore | hpage
      · exact h runId hbefore
      · rw [List.flatten_singleton, List.map_map] at hpage
        obtain ⟨row, hrow, hid⟩ := List.mem_map.mp hpage
        have hmatching := (hallowed.perm _).mem_iff.mp (Paging.mem_of_mem_page hrow)
        exact ⟨row.startedAt, RunsDb.mem_stamps_iff.mpr ⟨row, hmatching, hid, rfl⟩⟩

/-- The listing stands still, and each run on the pages is there once, its rank before the
offset. -/
structure RunBrowse.ListedOnce (filter : RunFilter) (stamps : List (String × String))
    (state : RunBrowse) : Prop where
  still : state.db.stamps filter = stamps
  nodup : state.listed.Nodup
  behind : ∀ runId ∈ state.listed, ∃ startedAt, (runId, startedAt) ∈ stamps ∧
    Paging.rank Prod.snd stamps startedAt < state.offset

/-- A quiet action changes no stamp. -/
theorem RunBrowse.act_stamps_of_quiet (limit : Nat) {action : BrowseAction}
    {state : RunBrowse}
    (hallowed : action.Allowed filter state) (hquiet : action.Quiet filter state) :
    (state.act filter limit action).db.stamps filter = state.db.stamps filter := by
  cases action with
  | read order => rw [act_read_db]
  | change written write =>
      have hlength : ((write.run written state.db).stamps filter).length =
          (state.db.stamps filter).length := by
        have hids := congrArg List.length hquiet
        rw [List.length_map, List.length_map] at hids
        rw [RunsDb.stamps, RunsDb.stamps, List.length_map, List.length_map, hids]
      exact ((write.stamps_grow written hallowed).eq_of_length hlength.symm).symm

/-- The ids of a page, which repeats none. -/
theorem RunBrowse.page_ids_nodup {order : List RunRow → List RunRow} (horder : NewestFirst order)
    (db : RunsDb) (offset limit : Nat) :
    ((Paging.page offset limit (order (db.matching filter))).map RunRow.runId).Nodup := by
  have hsorted : ((order (db.matching filter)).map RunRow.runId).Nodup :=
    ((horder.perm _).map RunRow.runId).nodup_iff.mpr RunsDb.matching_ids_nodup
  exact (((List.take_sublist _ _).trans (List.drop_sublist _ _)).map RunRow.runId).nodup hsorted

/-- In a listing whose times differ, no other run started at a run's time. -/
theorem RunBrowse.alone_of_distinct {state : RunBrowse}
    (htimes : ((state.db.stamps filter).map Prod.snd).Nodup) {row : RunRow}
    (hrow : row ∈ state.db.matching filter) : state.Alone filter row.runId row.startedAt := by
  intro stamp hstamp htime
  have hsame : stamp = row.stamp :=
    List.inj_on_of_nodup_map htimes hstamp (List.mem_map_of_mem hrow) htime
  rw [hsame]
  rfl

/-- A quiet action lists no run again. -/
theorem RunBrowse.ListedOnce.act {stamps : List (String × String)} {state : RunBrowse}
    (h : state.ListedOnce filter stamps) (htimes : (stamps.map Prod.snd).Nodup)
    {action : BrowseAction} (hallowed : action.Allowed filter state)
    (hquiet : action.Quiet filter state) :
    (state.act filter limit action).ListedOnce filter stamps := by
  have hstill := (RunBrowse.act_stamps_of_quiet limit hallowed hquiet).trans h.still
  cases action with
  | change written write => exact ⟨hstill, h.nodup, h.behind⟩
  | read order =>
      rcases RunBrowse.act_read filter limit order state with hact | hact
      · rw [hact]
        exact h
      have hdistinct : ((state.db.stamps filter).map Prod.snd).Nodup := by
        rw [h.still]
        exact htimes
      -- the runs on the new page have ranks from the offset on
      have hpage : ∀ row ∈ Paging.page state.offset limit (order (state.db.matching filter)),
          (row.runId, row.startedAt) ∈ stamps ∧
            state.offset ≤ Paging.rank Prod.snd stamps row.startedAt ∧
            Paging.rank Prod.snd stamps row.startedAt < state.offset + limit := by
        intro row hrow
        have hmatching := (hallowed.perm _).mem_iff.mp (Paging.mem_of_mem_page hrow)
        have halone := RunBrowse.alone_of_distinct hdistinct hmatching
        have hrank := (halone.mem_page_iff hallowed hmatching state.offset limit).mp hrow
        rw [h.still] at hrank
        refine ⟨?_, hrank⟩
        rw [← h.still]
        exact List.mem_map_of_mem hmatching
      have hids : (stamps.map Prod.fst).Nodup := by
        rw [← h.still, RunsDb.stamps_ids]
        exact RunsDb.matching_ids_nodup
      have hlisted : (state.act filter limit (.read order)).listed = state.listed ++
          (Paging.page state.offset limit (order (state.db.matching filter))).map RunRow.runId := by
        rw [hact, RunBrowse.listed, List.flatten_append, List.map_append, List.flatten_singleton,
          List.map_map]
        rfl
      refine ⟨hstill, ?_, ?_⟩
      · rw [hlisted]
        refine List.nodup_append.mpr
          ⟨h.nodup, RunBrowse.page_ids_nodup hallowed state.db _ _, ?_⟩
        intro runId hbefore other hother hsame
        obtain ⟨row, hrow, rfl⟩ := List.mem_map.mp hother
        obtain ⟨startedAt, hstamp, hlt⟩ := h.behind runId hbefore
        obtain ⟨hrow_stamp, hle, -⟩ := hpage row hrow
        have hone := List.inj_on_of_nodup_map hids hstamp hrow_stamp hsame
        have htime : startedAt = row.startedAt := congrArg Prod.snd hone
        rw [htime] at hlt
        exact Nat.not_lt_of_le hle hlt
      · intro runId hmem
        have hoffset : (state.act filter limit (.read order)).offset = state.offset + limit := by
          rw [hact]
        rw [hoffset]
        rw [hlisted, List.mem_append] at hmem
        rcases hmem with hbefore | hnew
        · obtain ⟨startedAt, hstamp, hlt⟩ := h.behind runId hbefore
          exact ⟨startedAt, hstamp, by omega⟩
        · obtain ⟨row, hrow, rfl⟩ := List.mem_map.mp hnew
          obtain ⟨hstamp, -, hlt⟩ := hpage row hrow
          exact ⟨row.startedAt, hstamp, hlt⟩

end Browse

/-! ## The result -/

/-- What a client that pages through the listing sees of it. -/
structure BrowsedWhole (filter : RunFilter) (limit : Nat) (db : RunsDb)
    (history : List BrowseAction) (final : RunBrowse) : Prop where
  /-- Once it has reached the total, it has every run that matched at the start and shares its time
  with no other. -/
  complete : final.Finished → ∀ row ∈ db.matching filter,
    (∀ other ∈ final.db.matching filter,
      other.startedAt = row.startedAt → other.runId = row.runId) →
    row.runId ∈ final.listed
  /-- It has only runs that match. -/
  sound : ∀ runId ∈ final.listed, ∃ row ∈ final.db.matching filter, row.runId = runId
  /-- While the listing stands still and no two of its runs share their time, it has no run
  twice. -/
  once : History.AllSteps (RunBrowse.act filter limit) history { db } (BrowseAction.Quiet filter) →
    ((db.matching filter).map RunRow.startedAt).Nodup → final.listed.Nodup

/-- A filter that leaves the status open allows every write. -/
theorem allowed_of_open {filter : RunFilter} {limit : Nat} {start : RunBrowse}
    {history : List BrowseAction} (hopen : filter.status = none)
    (horders : ∀ order, .read order ∈ history → NewestFirst order) :
    History.AllSteps (RunBrowse.act filter limit) history start (BrowseAction.Allowed filter) := by
  intro earlier action later hsplit
  cases action with
  | change written write => exact .inl hopen
  | read order =>
      refine horders order ?_
      rw [hsplit]
      exact List.mem_append_right _ List.mem_cons_self

/-- A sorting by time that is stable. -/
def newest (rows : List RunRow) : List RunRow :=
  rows.mergeSort fun first second => decide (second.startedAt ≤ first.startedAt)

theorem newest_first : NewestFirst newest where
  perm rows := List.mergeSort_perm rows _
  descending rows := by
    have hordered : (newest rows).Pairwise fun first second =>
        decide (second.startedAt ≤ first.startedAt) = true := by
      refine List.pairwise_mergeSort ?_ ?_ rows
      · intro first second third hfirst hsecond
        exact decide_eq_true (le_trans (of_decide_eq_true hsecond) (of_decide_eq_true hfirst))
      · intro first second
        rcases le_total second.startedAt first.startedAt with h | h
        · rw [decide_eq_true h]
          rfl
        · rw [decide_eq_true h, Bool.or_true]
    exact hordered.imp fun h => of_decide_eq_true h

/-- Two runs in progress. -/
def twoRuns : RunsDb :=
  (RunsDb.empty.createRunRecord true "first" (some "mail") "manual"
    "2026-01-01T08:00:00+00:00" none).createRunRecord true "second" none "schedule"
    "2026-01-01T09:00:00+00:00" none

/-- A run starts and one ends while a client reads a run at a time. -/
def browseBetween (order : List RunRow → List RunRow) : List BrowseAction :=
  [.read order,
    .change true (.createRunRecord "third" (some "mail") "webhook"
      "2026-01-01T10:00:00+00:00" none),
    .read order,
    .change true (.completeRunRecord "first" .completed "2026-01-01T10:00:01+00:00"
      (some "{}") none),
    .read order]

/-- A client that asks for the runs in progress can miss one: when a run ends, the others move to
places that it has read. -/
example :
    let history : List BrowseAction :=
      [.read List.reverse,
        .change true (.completeRunRecord "second" .completed "2026-01-01T10:00:01+00:00" none none),
        .read List.reverse]
    let final := History.after (RunBrowse.act { status := some "running" } 1) history
      { db := twoRuns }
    final.total = some 1 ∧ final.offset = 2 ∧ final.listed = ["second"] := by
  decide

end AgentGraphStudio
