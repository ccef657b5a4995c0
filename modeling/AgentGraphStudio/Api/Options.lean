import Mathlib.Algebra.Order.Field.Rat
import Mathlib.Data.List.Sort
import AgentGraphStudio.Api.Connections

/-!
# Live options

`resolve_node_type_options` of `backend/api/app.py`, which lists the values of an input slot by
calling a tool of a connection. For a minute the options are answered from a cache, under the name
of the connection, the field and the arguments of the call; neither the user nor the owner of the
connection is part of the key. `options_noninterference` says for which histories of requests the
answers to one user are nevertheless the same as if the others had asked nothing.
-/

namespace AgentGraphStudio

open Stateful (stateOf)

/-! ## The endpoint -/

/-- A value that may be part of a dictionary key. Booleans and numbers are compared as numbers. -/
inductive ScalarKey where
  | none
  | number (value : ℚ)
  | text (value : String)
  deriving DecidableEq

/-- The hash key of an argument. Arrays and objects have none. -/
def scalarKey : Json → Option ScalarKey
  | .null => some .none
  | .bool value => some (.number (if value then 1 else 0))
  | .int value => some (.number value)
  | .float mantissa exponent => some (.number (mantissa * 10 ^ exponent))
  | .str value => some (.text value)
  | .arr _ | .obj _ => none

/-- What options are remembered under: the name of the connection, the field and the arguments. -/
abbrev OptionKey := String × String × List (String × ScalarKey)

/-- The backend with the remembered options and the times at which they were listed. -/
structure OptionBackend where
  backend : Backend
  optionCache : Dict OptionKey (ℚ × List OptionItem)

/-- A request for the options of a field. -/
structure OptionRequest where
  typeName : String
  fieldName : String
  connectionName : String
  currentConfig : Config := .empty
  caller : Caller

/-- What a request comes down to: a call of a tool, and where its options are remembered. -/
structure OptionQuery where
  binding : OptionBinding
  config : McpServerConnectionConfig
  tokenUserId : Option String
  arguments : Config
  key : OptionKey

/-- The key of a call. -/
def optionKey (connectionName fieldName : String) (arguments : Config) : Option OptionKey :=
  ((arguments.entries.insertionSort fun a b => a.1 ≤ b.1).mapM fun entry =>
    (scalarKey entry.2).map fun value => (entry.1, value)).map fun items =>
      (connectionName, fieldName, items)

/-- The checks of a request, up to the key of its call. -/
def optionQuery (backend : Backend) (request : OptionRequest) : Except HttpError OptionQuery :=
  match backend.optionBindings.get? (request.typeName, request.fieldName) with
  | none => .error ⟨404,
      s!"'{request.typeName}' has no dynamic options for field '{request.fieldName}'"⟩
  | some binding =>
    let caller := callerUserId request.caller
    match resolveConnectionForUser backend.store request.connectionName caller with
    | none => .error ⟨404, s!"Unknown connection: {reprStr request.connectionName}"⟩
    | some profile =>
      if profile.type ≠ "mcp_server" then
        .error ⟨422, s!"Connection '{request.connectionName}' is not an mcp_server connection"⟩
      else
        match McpServerConnectionConfig.parse profile.config with
        | .error e => .error (internalError e)
        | .ok config =>
          let arguments := binding.buildArgs request.currentConfig
          match optionKey request.connectionName request.fieldName arguments with
          | none => .error (internalError "unhashable type")
          | some key => .ok
              { binding, config, arguments, key
                tokenUserId := if profile.userId = none then caller else profile.userId }

/-- The remembered options, if they are younger than a minute. -/
def freshOptions (state : OptionBackend) (key : OptionKey) (now : ℚ) : Option (List OptionItem) :=
  match state.optionCache.get? key with
  | none => none
  | some (listedAt, options) => if now - listedAt < 60 then some options else none

/-- A step on the backend, as part of the handling of a request. -/
def onBackend {α : Type} (act : Step α) :
    EStateM HttpError OptionBackend (Except String α) := fun state =>
  match act.run state.backend with
  | .ok value backend => .ok (.ok value) { state with backend }
  | .error e backend => .ok (.error e) { state with backend }

theorem run_onBackend {α : Type} (act : Step α) (state : OptionBackend) :
    (onBackend act).run state =
      match act.run state.backend with
      | .ok value backend => .ok (.ok value) { state with backend }
      | .error e backend => .ok (.error e) { state with backend } := rfl

/-- Call the tool, and remember its options. -/
def fetchOptions (outside : Outside) (doneAt : ℚ) (connectionName : String) (query : OptionQuery) :
    EStateM HttpError OptionBackend (List OptionItem) := do
  match ← onBackend (serverConfigOf outside query.config connectionName query.tokenUserId) with
  | .error e => throw ⟨502, s!"Failed to load options: {e}"⟩
  | .ok server =>
    match outside.callTool server query.binding.sourceTool query.arguments with
    | .error e => throw ⟨502, s!"Failed to load options: {e}"⟩
    | .ok raw =>
      let options := query.binding.parse raw
      modify fun state =>
        { state with optionCache := state.optionCache.set query.key (doneAt, options) }
      pure options

/-- `POST /node-types/{type_name}/options/{field_name}`, asked at one time and answered at
another. -/
def resolveNodeTypeOptions (outside : Outside) (now doneAt : ℚ) (request : OptionRequest) :
    EStateM HttpError OptionBackend (List OptionItem) := do
  let query ← Stateful.ofExcept (optionQuery (← get).backend request)
  match freshOptions (← get) query.key now with
  | some options => pure options
  | none => fetchOptions outside doneAt request.connectionName query

/-! ## Histories of requests -/

/-- A request in its world, with the times at which it is asked and answered. -/
structure OptionEvent where
  request : OptionRequest
  outside : Outside
  now : ℚ
  doneAt : ℚ

/-- Who asks. All callers with the shared key count as one. -/
def OptionEvent.user (event : OptionEvent) : Option String := callerUserId event.request.caller

/-- The handling of a request. -/
def OptionEvent.run (event : OptionEvent) (state : OptionBackend) :
    EStateM.Result HttpError OptionBackend (List OptionItem) :=
  (resolveNodeTypeOptions event.outside event.now event.doneAt event.request).run state

/-- The answer of a run. -/
def answerOf {ε σ α : Type} : EStateM.Result ε σ α → Except ε α
  | .ok value _ => .ok value
  | .error e _ => .error e

/-- The answers that one user gets in a history. -/
def answersTo (user : Option String) :
    OptionBackend → List OptionEvent → List (Except HttpError (List OptionItem))
  | _, [] => []
  | state, event :: events =>
    let rest := answersTo user (stateOf (event.run state)) events
    if event.user = user then answerOf (event.run state) :: rest else rest

/-- The clock does not run backwards in a history. -/
def Timed : ℚ → List OptionEvent → Prop
  | _, [] => True
  | clock, event :: events =>
    clock ≤ event.now ∧ event.now ≤ event.doneAt ∧ Timed event.doneAt events

/-- The key under which a request stores its options, if it does. -/
def storedKey (event : OptionEvent) (state : OptionBackend) : Option OptionKey :=
  match optionQuery state.backend event.request with
  | .error _ => none
  | .ok query =>
    match freshOptions state query.key event.now, event.run state with
    | none, .ok _ _ => some query.key
    | _, _ => none

/-- Who stored the options of a key. -/
abbrev Writers := OptionKey → Option (Option String)

/-- Who stored the options of a key, after a request. -/
def noteWriter (event : OptionEvent) (state : OptionBackend) (writers : Writers) : Writers :=
  fun key => if storedKey event state = some key then some event.user else writers key

/-- The request is not answered with remembered options that somebody else's request stored. -/
def OwnAnswer (writers : Writers) (event : OptionEvent) (state : OptionBackend) : Prop :=
  ∀ query, optionQuery state.backend event.request = .ok query →
    (freshOptions state query.key event.now).isSome →
    ∀ writer, writers query.key = some writer → writer = event.user

/-- No request of this user is answered with options that somebody else's request stored. -/
def OwnAnswers (user : Option String) : OptionBackend → Writers → List OptionEvent → Prop
  | _, _, [] => True
  | state, writers, event :: events =>
    (event.user = user → OwnAnswer writers event state) ∧
    OwnAnswers user (stateOf (event.run state)) (noteWriter event state writers) events

/-! ## What a request does -/

section

variable {event : OptionEvent} {state : OptionBackend} {query : OptionQuery}

theorem option_run_refused {e : HttpError}
    (h : optionQuery state.backend event.request = .error e) :
    event.run state = .error e state := by
  unfold OptionEvent.run resolveNodeTypeOptions
  show EStateM.run (Stateful.ofExcept (optionQuery state.backend event.request) >>= _) state = _
  rw [h]
  rfl

theorem option_run_remembered {options : List OptionItem}
    (h : optionQuery state.backend event.request = .ok query)
    (hfresh : freshOptions state query.key event.now = some options) :
    event.run state = .ok options state := by
  unfold OptionEvent.run resolveNodeTypeOptions
  show EStateM.run (Stateful.ofExcept (optionQuery state.backend event.request) >>= _) state = _
  rw [h]
  show EStateM.run (match freshOptions state query.key event.now with
    | some options => _ | none => _) state = _
  rw [hfresh]
  rfl

theorem option_run_fetch (h : optionQuery state.backend event.request = .ok query)
    (hfresh : freshOptions state query.key event.now = none) :
    event.run state = (fetchOptions event.outside event.doneAt event.request.connectionName
      query).run state := by
  unfold OptionEvent.run resolveNodeTypeOptions
  show EStateM.run (Stateful.ofExcept (optionQuery state.backend event.request) >>= _) state = _
  rw [h]
  show EStateM.run (match freshOptions state query.key event.now with
    | some options => _ | none => _) state = _
  rw [hfresh]

/-- A tool call either fails, with at most a refreshed token, or its options are stored. -/
theorem fetch_options_run (outside : Outside) (doneAt : ℚ) (connectionName : String)
    (query : OptionQuery) (state : OptionBackend) :
    (fetchOptions outside doneAt connectionName query).run state =
      match (serverConfigOf outside query.config connectionName query.tokenUserId).run
        state.backend with
      | .error e backend => .error ⟨502, s!"Failed to load options: {e}"⟩ { state with backend }
      | .ok server backend =>
        match outside.callTool server query.binding.sourceTool query.arguments with
        | .error e => .error ⟨502, s!"Failed to load options: {e}"⟩ { state with backend }
        | .ok raw => .ok (query.binding.parse raw)
          { backend
            optionCache := state.optionCache.set query.key (doneAt, query.binding.parse raw) } := by
  unfold fetchOptions
  rw [EStateM.run_bind, run_onBackend]
  cases (serverConfigOf outside query.config connectionName query.tokenUserId).run
      state.backend with
  | error e backend => rfl
  | ok server backend =>
      dsimp only
      cases outside.callTool server query.binding.sourceTool query.arguments <;> rfl

/-- The credential of a call is the caller's own. -/
theorem option_query_user (h : optionQuery state.backend event.request = .ok query) :
    query.tokenUserId = event.user := by
  unfold optionQuery at h
  split at h
  · cases h
  · dsimp only at h
    split at h
    · cases h
    · rename_i profile hresolve
      split at h
      · cases h
      · split at h
        · cases h
        · split at h
          · cases h
          · cases h
            show (if profile.userId = none then callerUserId event.request.caller
              else profile.userId) = callerUserId event.request.caller
            split
            · rfl
            · exact (resolve_connection_owner hresolve).resolve_left ‹_›

end

/-! ## What one user can see -/

/-- Two backends with the same connections, bindings and API keys, and the same tokens of this
user. -/
structure SameFor (user : Option String) (first second : Backend) : Prop where
  store : second.store = first.store
  optionBindings : second.optionBindings = first.optionBindings
  apiKeys : second.apiKeys = first.apiKeys
  tokens : ∀ userId, user = some userId → ∀ name,
    second.tokens.get? (userId, name) = first.tokens.get? (userId, name)

section

variable {user : Option String} {outside : Outside} {event : OptionEvent}
  {first second : Backend}

/-- The checks of a request depend on the connections and bindings only. -/
theorem SameFor.query (h : SameFor user first second) (request : OptionRequest) :
    optionQuery second request = optionQuery first request := by
  unfold optionQuery
  rw [h.store, h.optionBindings]

/-- A stored token is the same in both backends. -/
theorem store_token_response_alike {userId : String} (connectionName : String)
    (response : TokenResponse) (tokenEndpoint : String) (clientId clientSecret : Option String) :
    Stateful.Alike (SameFor (some userId))
      (storeTokenResponse userId connectionName response tokenEndpoint clientId clientSecret) := by
  unfold storeTokenResponse
  split
  · exact Stateful.alike_throw _
  · exact Stateful.alike_throw _
  · refine Stateful.alike_modify fun first second h =>
      ⟨h.store, h.optionBindings, h.apiKeys, fun other hother name => ?_⟩
    cases hother
    show (second.tokens.set _ _).get? _ = (first.tokens.set _ _).get? _
    rw [Dict.get?_set, Dict.get?_set, h.tokens userId rfl name]

/-- Reading one's own token gives the same in both backends. -/
theorem get_valid_access_token_alike {userId : String} (connectionName : String) :
    Stateful.Alike (SameFor (some userId)) (getValidAccessToken outside userId connectionName) := by
  refine Stateful.alike_get fun first second h => ?_
  rw [h.tokens userId rfl connectionName]
  cases first.tokens.get? (userId, connectionName) with
  | none => exact ⟨rfl, h⟩
  | some row =>
      dsimp only
      split
      · cases row.refreshToken with
        | none => exact ⟨rfl, h⟩
        | some refreshToken =>
            dsimp only
            cases outside.refreshAccess row.tokenEndpoint refreshToken (row.clientId.getD "")
                row.clientSecret with
            | error failure => cases failure <;> exact ⟨rfl, h⟩
            | ok refreshed =>
                exact Stateful.alike_bind (store_token_response_alike connectionName _ _ _ _)
                  (fun _ => Stateful.alike_pure _) first second h
      · exact ⟨rfl, h⟩

/-- Attaching one's own credential gives the same in both backends. -/
theorem server_config_of_alike (config : McpServerConnectionConfig) (connectionName : String) :
    Stateful.Alike (SameFor user) (serverConfigOf outside config connectionName user) := by
  unfold serverConfigOf
  split
  · cases user with
    | none => exact Stateful.alike_throw _
    | some userId =>
        refine Stateful.alike_get fun first second h => ?_
        rw [h.apiKeys]
        cases first.apiKeys.get? (userId, connectionName) <;> exact ⟨rfl, h⟩
  · split
    · cases user with
      | none => exact Stateful.alike_throw _
      | some userId =>
          exact Stateful.alike_bind (get_valid_access_token_alike connectionName) fun _ =>
            Stateful.alike_pure _
    · exact Stateful.alike_pure _

/-- What this user can see of the backend. -/
def userView (user : Option String) (backend : Backend) :
    ConnectionStore × OptionBindings × Dict (String × String) String ×
      (String → Option OAuthToken) :=
  (backend.store, backend.optionBindings, backend.apiKeys, fun name =>
    user.bind fun userId => backend.tokens.get? (userId, name))

theorem sameFor_of_userView (h : userView user second = userView user first) :
    SameFor user first second := by
  simp only [userView, Prod.mk.injEq] at h
  obtain ⟨hstore, hbindings, hkeys, htokens⟩ := h
  refine ⟨hstore, hbindings, hkeys, fun userId huser name => ?_⟩
  subst huser
  exact congrFun htokens name

/-- Attaching the credential of somebody else changes nothing that this user can see. -/
theorem server_config_of_other {other : Option String} (hother : other ≠ user)
    (config : McpServerConnectionConfig) (connectionName : String) :
    Stateful.Frame (userView user) (serverConfigOf outside config connectionName other) := by
  refine server_config_of_frame (fun userId huserId backend token => ?_) config
  unfold userView
  refine Prod.ext rfl (Prod.ext rfl (Prod.ext rfl (funext fun name => ?_)))
  cases user with
  | none => rfl
  | some me =>
      have hne : (me, name) ≠ (userId, connectionName) := by
        intro heq
        rw [huserId, (Prod.mk.inj heq).1] at hother
        exact hother rfl
      exact Dict.get?_set_of_ne _ _ hne

end

/-! ## The history without the others -/

/-- The state after a history and the one after this user's part of it. They have the same options
where the last ones were stored by this user, or by nobody; where somebody else stored the last
ones, the options that this user's part has are too old to be used. -/
structure Simulates (user : Option String) (clock : ℚ) (writers : Writers)
    (state own : OptionBackend) : Prop where
  backend : SameFor user state.backend own.backend
  mine : ∀ key, (∀ writer, writers key = some writer → writer = user) →
    own.optionCache.get? key = state.optionCache.get? key
  foreign : ∀ key writer, writers key = some writer → writer ≠ user →
    ∀ listedAt options, own.optionCache.get? key = some (listedAt, options) →
      60 ≤ clock - listedAt

section

variable {user : Option String} {clock later : ℚ} {writers : Writers} {event : OptionEvent}
  {state own : OptionBackend} {query : OptionQuery}

/-- Time may pass. -/
theorem Simulates.mono (h : Simulates user clock writers state own) (hle : clock ≤ later) :
    Simulates user later writers state own :=
  ⟨h.backend, h.mine, fun key writer hwriter hne listedAt options hentry =>
    (h.foreign key writer hwriter hne listedAt options hentry).trans (sub_le_sub_right hle _)⟩

/-- Old options are not used. -/
theorem freshOptions_eq_none_of_old {key : OptionKey} {now : ℚ}
    (h : ∀ listedAt options, state.optionCache.get? key = some (listedAt, options) →
      60 ≤ now - listedAt) : freshOptions state key now = none := by
  unfold freshOptions
  split
  · rfl
  · rename_i listedAt options hentry
    exact if_neg (not_lt.mpr (h listedAt options hentry))

theorem old_of_freshOptions_eq_none {key : OptionKey} {now : ℚ}
    (h : freshOptions state key now = none) (listedAt : ℚ) (options : List OptionItem)
    (hentry : state.optionCache.get? key = some (listedAt, options)) : 60 ≤ now - listedAt := by
  unfold freshOptions at h
  rw [hentry] at h
  by_contra hlt
  rw [not_le] at hlt
  dsimp only at h
  rw [if_pos hlt] at h
  cases h

/-- A request that is not answered with the options of others finds the same remembered options
without them. -/
theorem Simulates.freshOptions (h : Simulates user clock writers state own)
    (hclock : clock ≤ event.now) (huser : event.user = user)
    (hquery : optionQuery state.backend event.request = .ok query)
    (hanswer : OwnAnswer writers event state) :
    freshOptions own query.key event.now = freshOptions state query.key event.now := by
  by_cases hmine : ∀ writer, writers query.key = some writer → writer = user
  · unfold AgentGraphStudio.freshOptions
    rw [h.mine query.key hmine]
  · obtain ⟨writer, hexists⟩ := not_forall.mp hmine
    obtain ⟨hwriter, hne⟩ := Classical.not_imp.mp hexists
    -- What somebody else stored is too old here, and what was there before is older still.
    have hstate : AgentGraphStudio.freshOptions state query.key event.now = none := by
      rw [← Option.not_isSome_iff_eq_none]
      intro hfresh
      exact hne ((hanswer query hquery hfresh writer hwriter).trans huser)
    rw [hstate]
    exact freshOptions_eq_none_of_old fun listedAt options hentry =>
      ((h.mono hclock).foreign _ writer hwriter hne listedAt options hentry)

/-- Others may replace options that are too old. -/
theorem Simulates.replaced {key : OptionKey} {entry : ℚ × List OptionItem} {backend : Backend}
    (h : Simulates user clock writers state own) (hother : event.user ≠ user)
    (hbackend : SameFor user backend own.backend) (hstored : storedKey event state = some key)
    (hold : ∀ listedAt options, state.optionCache.get? key = some (listedAt, options) →
      60 ≤ clock - listedAt) :
    Simulates user clock (noteWriter event state writers)
      { backend, optionCache := state.optionCache.set key entry } own := by
  refine ⟨hbackend, fun other hmine => ?_,
    fun other writer hwriter hne listedAt options hentry => ?_⟩
  · have hkey : other ≠ key := by
      intro heq
      refine hother (hmine event.user ?_)
      unfold noteWriter
      rw [heq, if_pos hstored]
    have hwriters : noteWriter event state writers other = writers other := by
      unfold noteWriter
      rw [hstored, if_neg fun heq => hkey (Option.some.inj heq).symm]
    rw [hwriters] at hmine
    rw [h.mine other hmine]
    exact (Dict.get?_set_of_ne _ _ hkey).symm
  · by_cases hkey : other = key
    · subst hkey
      by_cases hmine : ∀ writer, writers other = some writer → writer = user
      · rw [h.mine other hmine] at hentry
        exact hold listedAt options hentry
      · obtain ⟨before, hexists⟩ := not_forall.mp hmine
        obtain ⟨hbefore, hnot⟩ := Classical.not_imp.mp hexists
        exact h.foreign other before hbefore hnot listedAt options hentry
    · unfold noteWriter at hwriter
      rw [hstored, if_neg fun heq => hkey (Option.some.inj heq).symm] at hwriter
      exact h.foreign other writer hwriter hne listedAt options hentry

/-- A request that stores nothing leaves the writers as they are. -/
theorem noteWriter_of_none (h : storedKey event state = none) :
    noteWriter event state writers = writers := by
  funext key
  unfold noteWriter
  rw [h]
  rfl

/-- Nothing is stored by a request that is refused. -/
theorem storedKey_refused {e : HttpError}
    (h : optionQuery state.backend event.request = .error e) : storedKey event state = none := by
  unfold storedKey
  rw [h]

/-- Nothing is stored by a request that is answered from the cache. -/
theorem storedKey_remembered {options : List OptionItem}
    (h : optionQuery state.backend event.request = .ok query)
    (hfresh : AgentGraphStudio.freshOptions state query.key event.now = some options) :
    storedKey event state = none := by
  unfold storedKey
  rw [h]
  dsimp only
  rw [hfresh]

/-- A call that succeeds stores its options, and one that fails stores nothing. -/
theorem storedKey_fetch (h : optionQuery state.backend event.request = .ok query)
    (hfresh : AgentGraphStudio.freshOptions state query.key event.now = none) :
    storedKey event state = match event.run state with
      | .ok _ _ => some query.key
      | .error _ _ => none := by
  unfold storedKey
  rw [h]
  dsimp only
  rw [hfresh]
  cases event.run state <;> rfl

/-- The requests of others change nothing for this user, except that they may replace options that
are too old. -/
theorem Simulates.other (h : Simulates user clock writers state own) (hother : event.user ≠ user)
    (hclock : clock ≤ event.now) (hdone : event.now ≤ event.doneAt) :
    Simulates user event.doneAt (noteWriter event state writers)
      (stateOf (event.run state)) own := by
  have hlater := h.mono (hclock.trans hdone)
  cases hquery : optionQuery state.backend event.request with
  | error e =>
      rw [noteWriter_of_none (storedKey_refused hquery), option_run_refused hquery]
      exact hlater
  | ok query =>
      cases hfresh : AgentGraphStudio.freshOptions state query.key event.now with
      | some options =>
          rw [noteWriter_of_none (storedKey_remembered hquery hfresh),
            option_run_remembered hquery hfresh]
          exact hlater
      | none =>
          have hstored := storedKey_fetch hquery hfresh
          have hrun := option_run_fetch hquery hfresh
          rw [fetch_options_run] at hrun
          have hview := @server_config_of_other user event.outside query.tokenUserId
            (by rw [option_query_user hquery]; exact hother) query.config
            event.request.connectionName state.backend
          have hbackend : ∀ final, userView user final = userView user state.backend →
              SameFor user final own.backend := fun final hfinal =>
            have hsame := sameFor_of_userView hfinal
            ⟨h.backend.store.trans hsame.store.symm,
              h.backend.optionBindings.trans hsame.optionBindings.symm,
              h.backend.apiKeys.trans hsame.apiKeys.symm, fun userId huser name =>
              (h.backend.tokens userId huser name).trans (hsame.tokens userId huser name).symm⟩
          -- Only a fetch that gets as far as the server can store anything.
          cases hserver : (serverConfigOf event.outside query.config
              event.request.connectionName query.tokenUserId).run state.backend with
          | error e final =>
              rw [hserver] at hrun hview
              rw [hrun] at hstored
              rw [noteWriter_of_none hstored, hrun]
              exact ⟨hbackend final hview, hlater.mine, hlater.foreign⟩
          | ok server final =>
              rw [hserver] at hrun hview
              dsimp only at hrun
              cases hcall : event.outside.callTool server query.binding.sourceTool
                  query.arguments with
              | error e =>
                  rw [hcall] at hrun
                  rw [hrun] at hstored
                  rw [noteWriter_of_none hstored, hrun]
                  exact ⟨hbackend final hview, hlater.mine, hlater.foreign⟩
              | ok raw =>
                  rw [hcall] at hrun
                  rw [hrun] at hstored
                  rw [hrun]
                  exact (hlater.replaced hother (hbackend final hview) hstored
                    fun listedAt options hentry => (old_of_freshOptions_eq_none hfresh
                      listedAt options hentry).trans (sub_le_sub_right hdone _))

/-- Options that this user stores are stored in both states. -/
theorem Simulates.stored {key : OptionKey} {entry : ℚ × List OptionItem} {backend other : Backend}
    (h : Simulates user clock writers state own) (huser : event.user = user)
    (hbackend : SameFor user backend other) (hstored : storedKey event state = some key) :
    Simulates user clock (noteWriter event state writers)
      { backend, optionCache := state.optionCache.set key entry }
      { backend := other, optionCache := own.optionCache.set key entry } := by
  refine ⟨hbackend, fun found hmine => ?_,
    fun found writer hwriter hne listedAt options hentry => ?_⟩
  · show (own.optionCache.set key entry).get? found = (state.optionCache.set key entry).get? found
    rw [Dict.get?_set, Dict.get?_set]
    by_cases hkey : found = key
    · rw [if_pos hkey, if_pos hkey]
    · unfold noteWriter at hmine
      rw [hstored, if_neg fun heq => hkey (Option.some.inj heq).symm] at hmine
      rw [if_neg hkey, if_neg hkey, h.mine found hmine]
  · unfold noteWriter at hwriter
    by_cases hkey : found = key
    · rw [hstored, hkey, if_pos rfl, huser] at hwriter
      exact absurd (Option.some.inj hwriter).symm hne
    · rw [hstored, if_neg fun heq => hkey (Option.some.inj heq).symm] at hwriter
      rw [show Dict.get? _ found = _ from Dict.get?_set_of_ne _ _ hkey] at hentry
      exact h.foreign found writer hwriter hne listedAt options hentry

/-- This user's requests get the same answers in both states. -/
theorem Simulates.step (h : Simulates user clock writers state own) (hclock : clock ≤ event.now)
    (hdone : event.now ≤ event.doneAt) (huser : event.user = user)
    (hanswer : OwnAnswer writers event state) :
    answerOf (event.run own) = answerOf (event.run state) ∧
    Simulates user event.doneAt (noteWriter event state writers) (stateOf (event.run state))
      (stateOf (event.run own)) := by
  have hlater := h.mono (hclock.trans hdone)
  cases hquery : optionQuery state.backend event.request with
  | error e =>
      have hown : optionQuery own.backend event.request = .error e := by
        rw [h.backend.query, hquery]
      rw [noteWriter_of_none (storedKey_refused hquery), option_run_refused hquery,
        option_run_refused hown]
      exact ⟨rfl, hlater⟩
  | ok query =>
      have hown : optionQuery own.backend event.request = .ok query := by
        rw [h.backend.query, hquery]
      have hsame := h.freshOptions hclock huser hquery hanswer
      cases hfresh : AgentGraphStudio.freshOptions state query.key event.now with
      | some options =>
          rw [noteWriter_of_none (storedKey_remembered hquery hfresh),
            option_run_remembered hquery hfresh, option_run_remembered hown (hsame.trans hfresh)]
          exact ⟨rfl, hlater⟩
      | none =>
          have hstored := storedKey_fetch hquery hfresh
          have hrun := option_run_fetch hquery hfresh
          have hrunOwn := option_run_fetch hown (hsame.trans hfresh)
          rw [fetch_options_run, option_query_user hquery, huser] at hrun hrunOwn
          have halike := @server_config_of_alike user event.outside query.config
            event.request.connectionName _ _ h.backend
          cases hserver : (serverConfigOf event.outside query.config
              event.request.connectionName user).run state.backend with
          | error e final =>
              cases hserverOwn : (serverConfigOf event.outside query.config
                  event.request.connectionName user).run own.backend with
              | ok server final' =>
                  rw [hserver, hserverOwn] at halike
                  exact halike.elim
              | error e' final' =>
                  rw [hserver, hserverOwn] at halike
                  obtain ⟨rfl, hbackend⟩ := halike
                  rw [hserver] at hrun
                  rw [hserverOwn] at hrunOwn
                  rw [hrun] at hstored
                  rw [noteWriter_of_none hstored, hrun, hrunOwn]
                  exact ⟨rfl, hbackend, hlater.mine, hlater.foreign⟩
          | ok server final =>
              cases hserverOwn : (serverConfigOf event.outside query.config
                  event.request.connectionName user).run own.backend with
              | error e' final' =>
                  rw [hserver, hserverOwn] at halike
                  exact halike.elim
              | ok server' final' =>
                  rw [hserver, hserverOwn] at halike
                  obtain ⟨rfl, hbackend⟩ := halike
                  rw [hserver] at hrun
                  rw [hserverOwn] at hrunOwn
                  dsimp only at hrun hrunOwn
                  cases hcall : event.outside.callTool server query.binding.sourceTool
                      query.arguments with
                  | error e =>
                      rw [hcall] at hrun hrunOwn
                      rw [hrun] at hstored
                      rw [noteWriter_of_none hstored, hrun, hrunOwn]
                      exact ⟨rfl, hbackend, hlater.mine, hlater.foreign⟩
                  | ok raw =>
                      rw [hcall] at hrun hrunOwn
                      rw [hrun] at hstored
                      rw [hrun, hrunOwn]
                      exact ⟨rfl, hlater.stored huser hbackend hstored⟩

end

/-- A user's answers in a history are those in this user's part of it. -/
theorem answers_to_own_part {user : Option String} {events : List OptionEvent} {clock : ℚ}
    {writers : Writers} {state own : OptionBackend} (h : Simulates user clock writers state own)
    (htimed : Timed clock events) (hanswers : OwnAnswers user state writers events) :
    answersTo user own (events.filter fun event => event.user = user) =
      answersTo user state events := by
  induction events generalizing clock writers state own with
  | nil => rfl
  | cons event events ih =>
      obtain ⟨hclock, hdone, hrest⟩ := htimed
      obtain ⟨hanswer, hothers⟩ := hanswers
      by_cases huser : event.user = user
      · obtain ⟨hsame, hnext⟩ := h.step hclock hdone huser (hanswer huser)
        rw [List.filter_cons_of_pos (by simpa using huser)]
        unfold answersTo
        dsimp only
        rw [if_pos huser, if_pos huser, hsame, ih hnext hrest hothers]
      · have hnext := h.other huser hclock hdone
        rw [List.filter_cons_of_neg (by simpa using huser), ih hnext hrest hothers]
        show _ = if event.user = user then _ else _
        rw [if_neg huser]

/-- At the start nobody has stored anything. -/
theorem simulates_start (user : Option String) (clock : ℚ) (state : OptionBackend) :
    Simulates user clock (fun _ => none) state state :=
  ⟨⟨rfl, rfl, rfl, fun _ _ _ => rfl⟩, fun _ _ => rfl, nofun⟩

/-- Two histories that differ only in the requests of others give a user the same answers, if in
neither of them a request of this user is answered with options that somebody else's request
stored. -/
theorem options_noninterference {user : Option String} {start : OptionBackend} {clock : ℚ}
    {first second : List OptionEvent} (hfirst : Timed clock first) (hsecond : Timed clock second)
    (hsame : (first.filter fun event => event.user = user) =
      second.filter fun event => event.user = user)
    (hownFirst : OwnAnswers user start (fun _ => none) first)
    (hownSecond : OwnAnswers user start (fun _ => none) second) :
    answersTo user start first = answersTo user start second := by
  rw [← answers_to_own_part (simulates_start user clock start) hfirst hownFirst,
    ← answers_to_own_part (simulates_start user clock start) hsecond hownSecond, hsame]

/-! ### A server that answers everybody differently -/

/-- A server that lists the libraries of the user whose key it is called with. -/
def personalDocs : Outside :=
  { serving [] with
    callTool := fun server _ _ =>
      if server.headers.get? "Authorization" = some "Bearer key-alice" then
        .ok "- Title: Notes of Alice\n- Context7-compatible library ID: /alice/notes"
      else .ok "- Title: Notes of Bob\n- Context7-compatible library ID: /bob/notes" }

/-- A global connection to it, for which two users have saved their keys. -/
def docsBackend : OptionBackend where
  backend :=
    { freshBackend [
        { name := "docs", type := "mcp_server"
          config := .ofList [("transport", .str "remote"), ("url", .str "https://docs"),
            ("auth_type", .str "api_key")] }] with
      apiKeys := .ofList [(("alice", "docs"), "key-alice"), (("bob", "docs"), "key-bob")]
      optionBindings :=
        .ofList [(("mcp__docs__query-docs", "libraryId"), context7QueryDocsBinding)] }
  optionCache := .empty

/-- A search by this user, which is answered at once. -/
def searchBy (userId : String) (now : ℚ) : OptionEvent where
  request :=
    { typeName := "mcp__docs__query-docs", fieldName := "libraryId", connectionName := "docs"
      currentConfig := .ofList [("query", .str "notes")], caller := some ⟨userId, "member"⟩ }
  outside := personalDocs
  now
  doneAt := now

set_option maxRecDepth 20000 in
/-- A minute after Alice's search, Bob finds what he would find without it. -/
theorem search_after_a_minute :
    answersTo (some "bob") docsBackend [searchBy "alice" 0, searchBy "bob" 60] =
      answersTo (some "bob") docsBackend [searchBy "bob" 60] := by
  refine @options_noninterference (some "bob") docsBackend 0 _ _ ?_ ?_ (by rfl)
    ⟨fun h => ?_, fun _ => ?_, trivial⟩ ⟨fun _ => ?_, trivial⟩
  · exact ⟨by decide +kernel, by decide +kernel, by decide +kernel, by decide +kernel, trivial⟩
  · exact ⟨by decide +kernel, by decide +kernel, trivial⟩
  · exact absurd h (by decide +kernel)
  · intro query hquery hfresh
    cases hquery
    exact absurd hfresh (by decide +kernel)
  · intro query hquery hfresh
    cases hquery
    exact absurd hfresh (by decide +kernel)

set_option maxRecDepth 20000 in
/-- Ten seconds after Alice's search, Bob is given her libraries. -/
theorem search_of_others_answers :
    Timed 0 [searchBy "alice" 0, searchBy "bob" 10] ∧ Timed 0 [searchBy "bob" 10] ∧
    ([searchBy "alice" 0, searchBy "bob" 10].filter fun event => event.user = some "bob") =
      [searchBy "bob" 10].filter (fun event => event.user = some "bob") ∧
    answersTo (some "bob") docsBackend [searchBy "alice" 0, searchBy "bob" 10] =
      [.ok [⟨"Notes of Alice (/alice/notes)", "/alice/notes"⟩]] ∧
    answersTo (some "bob") docsBackend [searchBy "alice" 0, searchBy "bob" 10] ≠
      answersTo (some "bob") docsBackend [searchBy "bob" 10] := by
  refine ⟨⟨?_, ?_, ?_, ?_, trivial⟩, ⟨?_, ?_, trivial⟩, by rfl, ?_, ?_⟩ <;> decide +kernel

end AgentGraphStudio
