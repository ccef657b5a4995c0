import AgentGraphStudio.Lib.Race
import AgentGraphStudio.Mcp.ToolLists

/-!
# Two uses of one OAuth connection at the same time

`get_valid_access_token` of `backend/mcp/oauth_flow.py` reads the stored row, sends its refresh
token if the access token is about to expire, and saves the answer. The nodes of a run may do so at
the same time. Against a provider for which a refresh token is spent when it is sent,
`token_race_iff` says for which schedules both calls get an access token and the stored row stays
the latest.
-/

namespace AgentGraphStudio

/-- The steps of a call outside the process: reading the row, sending a refresh token, saving a
row. -/
inductive TokenStep where
  | getToken
  | refresh (tokenEndpoint refreshToken clientId : String) (clientSecret : Option String)
  | saveToken (token : OAuthToken)

/-- What a step returns. -/
def TokenStep.Answer : TokenStep → Type
  | .getToken => Option OAuthToken
  | .refresh .. => Except OAuthFailure TokenResponse
  | .saveToken _ => Unit

/-- A call, with its name for the connection and what its clock says about an expiry. -/
structure TokenCall where
  connectionName : String
  isExpiringSoon : String → Bool

namespace TokenCall

variable (call : TokenCall)

/-- The call finds that the row is about to expire. -/
def Finds (row : OAuthToken) : Prop := row.expiresAt.any call.isExpiringSoon = true

instance (row : OAuthToken) : Decidable (call.Finds row) := inferInstanceAs (Decidable (_ = true))

/-- How a call goes on when the provider has answered. -/
def afterRefresh (row : OAuthToken) (refreshToken : String) :
    Except OAuthFailure TokenResponse →
      Program TokenStep TokenStep.Answer (Except String String)
  | .error (.oauthError e) =>
    .done (.error
      (s!"'{call.connectionName}''s access token expired and refreshing it failed ({e}) " ++
        "-- reconnect it."))
  | .error (.other e) => .done (.error e)
  | .ok refreshed =>
    match refreshed.accessToken with
    | none | some "" => .done (.error "Token response had no access_token")
    | some accessToken =>
      .perform (.saveToken
        { accessToken
          refreshToken := refreshed.refreshToken.getD (some refreshToken)
          expiresAt := refreshed.expiresAt
          tokenEndpoint := row.tokenEndpoint
          clientId := row.clientId
          clientSecret := row.clientSecret }) fun _ => .done (.ok accessToken)

/-- How a call goes on when it has read the row. -/
def afterGetToken :
    Option OAuthToken → Program TokenStep TokenStep.Answer (Except String String)
  | none =>
    .done (.error (s!"No OAuth connection found for '{call.connectionName}' -- connect it first " ++
      "(Settings -> Connections)."))
  | some row =>
    if call.Finds row then
      match row.refreshToken with
      | none =>
        .done (.error (
          s!"'{call.connectionName}''s access token has expired and there's no refresh token -- " ++
            "reconnect it (Settings -> Connections)."))
      | some refreshToken =>
        .perform (.refresh row.tokenEndpoint refreshToken (row.clientId.getD "") row.clientSecret)
          (call.afterRefresh row refreshToken)
    else .done (.ok row.accessToken)

/-- A call as a program of its steps. -/
def program : Program TokenStep TokenStep.Answer (Except String String) :=
  .perform .getToken call.afterGetToken

end TokenCall

section

variable {accessToken : String} {newToken : Option (Option String)} {expiresAt : Option String}

/-- A call saves an answer that has an access token. -/
theorem TokenCall.after_refresh_of_ne {call : TokenCall} {row : OAuthToken} {refreshToken : String}
    (haccess : accessToken ≠ "") :
    call.afterRefresh row refreshToken (.ok ⟨some accessToken, newToken, expiresAt⟩) =
      .perform (.saveToken
        { accessToken
          refreshToken := newToken.getD (some refreshToken)
          expiresAt
          tokenEndpoint := row.tokenEndpoint
          clientId := row.clientId
          clientSecret := row.clientSecret }) fun _ => .done (.ok accessToken) := by
  unfold TokenCall.afterRefresh
  dsimp only
  split
  · rename_i hnone
    cases hnone
  · rename_i hempty
    exact absurd (Option.some.inj hempty) haccess
  · rename_i heq
    cases heq
    rfl

end

/-! ## A call alone -/

/-- The backend and what is outside answer a step of a user's call. -/
def backendTokenStep (outside : Outside) (userId connectionName : String) :
    (step : TokenStep) → Backend → step.Answer × Backend
  | .getToken, backend => (backend.tokens.get? (userId, connectionName), backend)
  | .refresh tokenEndpoint refreshToken clientId clientSecret, backend =>
    (outside.refreshAccess tokenEndpoint refreshToken clientId clientSecret, backend)
  | .saveToken token, backend =>
    ((), { backend with tokens := backend.tokens.set (userId, connectionName) token })

/-- A result as what a computation ends with. -/
def tokenResult : Except String String × Backend → EStateM.Result String Backend String
  | (.ok accessToken, backend) => .ok accessToken backend
  | (.error e, backend) => .error e backend

/-- A call whose steps follow one another is `getValidAccessToken`. -/
theorem call_alone_eq (outside : Outside) (userId connectionName : String) (backend : Backend) :
    tokenResult ((TokenCall.program ⟨connectionName, outside.isExpiringSoon⟩).alone
      (backendTokenStep outside userId connectionName) backend) =
      (getValidAccessToken outside userId connectionName).run backend := by
  unfold getValidAccessToken
  rw [Stateful.run_get_bind]
  show tokenResult ((TokenCall.afterGetToken ⟨connectionName, outside.isExpiringSoon⟩
    (backend.tokens.get? (userId, connectionName))).alone _ backend) = _
  -- Each step of the call is one of the function, in its order.
  cases hrow : backend.tokens.get? (userId, connectionName) with
  | none => rfl
  | some row =>
      unfold TokenCall.afterGetToken
      dsimp only
      by_cases hexpiring : row.expiresAt.any outside.isExpiringSoon = true
      · rw [if_pos hexpiring]
        have hfinds : TokenCall.Finds ⟨connectionName, outside.isExpiringSoon⟩ row := hexpiring
        rw [if_pos hfinds]
        cases row.refreshToken with
        | none => rfl
        | some refreshToken =>
            show tokenResult ((TokenCall.afterRefresh _ row refreshToken (outside.refreshAccess
              row.tokenEndpoint refreshToken (row.clientId.getD "") row.clientSecret)).alone _
              backend) = _
            dsimp only
            cases outside.refreshAccess row.tokenEndpoint refreshToken (row.clientId.getD "")
                row.clientSecret with
            | error failure => cases failure <;> rfl
            | ok refreshed =>
                obtain ⟨accessToken, newToken, expiresAt⟩ := refreshed
                cases accessToken with
                | none => rfl
                | some accessToken =>
                    by_cases hempty : accessToken = ""
                    · subst hempty
                      rfl
                    · rw [TokenCall.after_refresh_of_ne hempty]
                      dsimp only
                      rw [EStateM.run_bind, store_token_response_of_ne hempty]
                      rfl
      · rw [if_neg hexpiring]
        have hfinds : ¬ TokenCall.Finds ⟨connectionName, outside.isExpiringSoon⟩ row := hexpiring
        rw [if_neg hfinds]
        rfl

/-! ## A provider that rotates refresh tokens -/

/-- The tokens of one answer of a provider. -/
structure TokenGrant where
  accessToken : String
  refreshToken : String
  expiresAt : Option String

/-- A provider that answers a refresh token, once, with new tokens, and refuses every other one. -/
structure RotatingProvider where
  grant : Nat → TokenGrant
  refresh_injective : Function.Injective fun generation => (grant generation).refreshToken
  access_ne : ∀ generation, (grant generation).accessToken ≠ ""
  refusal : String

/-- The row of a user and a connection, the number of the provider's latest tokens for them, and the
refresh tokens that were sent. -/
structure TokenWorld where
  row : Option OAuthToken
  generation : Nat
  sent : List String

namespace RotatingProvider

variable (provider : RotatingProvider)

/-- The row and the provider answer a step. -/
def step : (step : TokenStep) → TokenWorld → step.Answer × TokenWorld
  | .getToken, world => (world.row, world)
  | .refresh _ refreshToken _ _, world =>
    if refreshToken = (provider.grant world.generation).refreshToken then
      let next := provider.grant (world.generation + 1)
      (.ok ⟨some next.accessToken, some (some next.refreshToken), next.expiresAt⟩,
        { world with generation := world.generation + 1, sent := world.sent ++ [refreshToken] })
    else
      (.error (.oauthError provider.refusal), { world with sent := world.sent ++ [refreshToken] })
  | .saveToken token, world => ((), { world with row := some token })

/-- The row has the tokens of this generation. -/
structure Holds (row : OAuthToken) (generation : Nat) : Prop where
  accessToken : row.accessToken = (provider.grant generation).accessToken
  refreshToken : row.refreshToken = some (provider.grant generation).refreshToken
  expiresAt : row.expiresAt = (provider.grant generation).expiresAt

/-- The call returns an access token of the provider: a new one, or one that the call has not found
to be about to expire. -/
def ReturnsValid (call : TokenCall) (start : Nat) (final : TokenWorld)
    (result : Except String String) : Prop :=
  ∃ generation, start ≤ generation ∧ generation ≤ final.generation ∧
    result = .ok (provider.grant generation).accessToken ∧
    (start < generation ∨ (provider.grant generation).expiresAt.any call.isExpiringSoon = false)

/-- No refresh token was sent twice, both calls return a valid access token, and the row has the
latest tokens of the provider. -/
structure RefreshedOnce (call call' : TokenCall) (start : Nat)
    (result result' : Except String String)
    (final : TokenWorld) : Prop where
  sentOnce : final.sent.Nodup
  valid : provider.ReturnsValid call start final result
  valid' : provider.ReturnsValid call' start final result'
  latest : ∃ row, final.row = some row ∧ provider.Holds row final.generation

end RotatingProvider

/-- The calls do not both find the row to be about to expire, or one of them has read, refreshed and
saved before the other reads. -/
def HarmlessCalls (call call' : TokenCall) (row : OAuthToken) (schedule : List Bool) : Prop :=
  ¬ (call.Finds row ∧ call'.Finds row) ∨
    schedule.take 3 = [true, true, true] ∨ schedule.take 3 = [false, false, false]

/-! ## Refresh tokens that are sent -/

section

variable {provider : RotatingProvider} {call call' : TokenCall} {row : OAuthToken}
  {world final : TokenWorld} {schedule : List Bool} {result result' : Except String String}
  {program other : Program TokenStep TokenStep.Answer (Except String String)}

/-- The next step of the program is to send this refresh token. -/
def WillSend (program : Program TokenStep TokenStep.Answer (Except String String))
    (refreshToken : String) : Prop :=
  ∃ tokenEndpoint clientId clientSecret next,
    program = .perform (.refresh tokenEndpoint refreshToken clientId clientSecret) next

/-- A refresh token that is sent counts as sent, whatever the answer. -/
theorem sent_refresh (tokenEndpoint refreshToken clientId : String) (clientSecret : Option String) :
    (provider.step (.refresh tokenEndpoint refreshToken clientId clientSecret) world).2.sent =
      world.sent ++ [refreshToken] := by
  unfold RotatingProvider.step
  dsimp only
  split <;> rfl

/-- A step adds to what was sent. -/
theorem sent_step (provider : RotatingProvider) (step : TokenStep) (world : TokenWorld) :
    ∃ more, (Races.effect provider.step step world).sent = world.sent ++ more := by
  cases step with
  | getToken => exact ⟨[], (List.append_nil _).symm⟩
  | refresh tokenEndpoint refreshToken clientId clientSecret =>
      exact ⟨[refreshToken], sent_refresh _ _ _ _⟩
  | saveToken token => exact ⟨[], (List.append_nil _).symm⟩

/-- A race adds to what was sent. -/
theorem sent_race (h : Races provider.step program other world schedule result result' final) :
    ∃ more, final.sent = world.sent ++ more := by
  induction h with
  | done => exact ⟨[], (List.append_nil _).symm⟩
  | @first op _ _ world _ _ _ _ _ ih | @second op _ _ world _ _ _ _ _ ih =>
      obtain ⟨more, hmore⟩ := ih
      obtain ⟨now, hnow⟩ := sent_step provider op world
      refine ⟨now ++ more, ?_⟩
      rw [hmore, ← List.append_assoc, ← hnow]

/-- A refresh token that a program has to send will have been sent. -/
theorem sent_of_will_send {refreshToken : String} (hsend : WillSend program refreshToken)
    (h : Races provider.step program other world schedule result result' final) :
    ∃ between more, final.sent = world.sent ++ between ++ refreshToken :: more := by
  induction h with
  | done =>
      obtain ⟨_, _, _, _, hprogram⟩ := hsend
      cases hprogram
  | @first op next _ world _ _ _ _ hrest _ =>
      obtain ⟨_, _, _, _, hprogram⟩ := hsend
      cases hprogram
      obtain ⟨more, hmore⟩ := sent_race hrest
      refine ⟨[], more, ?_⟩
      rw [hmore, List.append_nil, sent_refresh, List.append_assoc]
      rfl
  | @second op next _ world _ _ _ _ _ ih =>
      obtain ⟨between, more, hmore⟩ := ih hsend
      obtain ⟨now, hnow⟩ := sent_step provider op world
      refine ⟨now ++ between, more, ?_⟩
      rw [hmore, show (provider.step op world).2.sent = world.sent ++ now from hnow]
      simp only [List.append_assoc]

/-- A refresh token that was sent and will be sent again is sent twice. -/
theorem sent_twice {refreshToken : String} (hsent : refreshToken ∈ world.sent)
    (hsend : WillSend program refreshToken)
    (h : Races provider.step program other world schedule result result' final) :
    ¬ final.sent.Nodup := by
  obtain ⟨between, more, hfinal⟩ := sent_of_will_send hsend h
  intro hnodup
  rw [hfinal] at hnodup
  have hapart := (List.nodup_append.mp hnodup).2.2
  exact hapart _ (List.mem_append_left _ hsent) _ List.mem_cons_self rfl

/-- A refresh token that both programs are about to send is sent twice. -/
theorem both_send {refreshToken : String} (hsend : WillSend program refreshToken)
    (hsend' : WillSend other refreshToken)
    (h : Races provider.step program other world schedule result result' final) :
    ¬ final.sent.Nodup := by
  have hmem : ∀ tokenEndpoint clientId clientSecret, refreshToken ∈
      (provider.step (.refresh tokenEndpoint refreshToken clientId clientSecret) world).2.sent := by
    intro tokenEndpoint clientId clientSecret
    rw [sent_refresh]
    exact List.mem_append_right _ (List.mem_singleton.mpr rfl)
  obtain ⟨tokenEndpoint, clientId, clientSecret, next, rfl⟩ := id hsend
  obtain ⟨tokenEndpoint', clientId', clientSecret', next', rfl⟩ := id hsend'
  cases h with
  | first h => exact sent_twice (hmem _ _ _) hsend' h.symm
  | second h => exact sent_twice (hmem _ _ _) hsend h

end

/-! ## A call that is left alone -/

section

variable {provider : RotatingProvider} {row : OAuthToken} {generation : Nat} {sent : List String}

/-- The row that a call saves for an answer of the provider. -/
def savedRow (provider : RotatingProvider) (row : OAuthToken) (generation : Nat) : OAuthToken where
  accessToken := (provider.grant generation).accessToken
  refreshToken := some (provider.grant generation).refreshToken
  expiresAt := (provider.grant generation).expiresAt
  tokenEndpoint := row.tokenEndpoint
  clientId := row.clientId
  clientSecret := row.clientSecret

/-- The row that is saved has the tokens of the answer. -/
theorem saved_row_holds (provider : RotatingProvider) (row : OAuthToken) (generation : Nat) :
    provider.Holds (savedRow provider row generation) generation :=
  ⟨rfl, rfl, rfl⟩

/-- A call that finds the row not to be about to expire is done when it has read it. -/
theorem after_get_token_fresh (call : TokenCall) (hrow : provider.Holds row generation)
    (hfinds : ¬ call.Finds row) :
    call.afterGetToken (some row) = .done (.ok (provider.grant generation).accessToken) := by
  unfold TokenCall.afterGetToken
  dsimp only
  rw [if_neg hfinds, hrow.accessToken]

/-- A call that finds the row to be about to expire sends its refresh token. -/
theorem after_get_token_expiring (call : TokenCall) (hrow : provider.Holds row generation)
    (hfinds : call.Finds row) :
    call.afterGetToken (some row) =
      .perform (.refresh row.tokenEndpoint (provider.grant generation).refreshToken
        (row.clientId.getD "") row.clientSecret)
        (call.afterRefresh row (provider.grant generation).refreshToken) := by
  unfold TokenCall.afterGetToken
  dsimp only
  rw [if_pos hfinds, hrow.refreshToken]

/-- The provider answers its latest refresh token with the next tokens. -/
theorem refresh_latest (tokenEndpoint clientId : String) (clientSecret : Option String)
    (world : TokenWorld) :
    provider.step (.refresh tokenEndpoint (provider.grant world.generation).refreshToken clientId
      clientSecret) world =
      (.ok ⟨some (provider.grant (world.generation + 1)).accessToken,
        some (some (provider.grant (world.generation + 1)).refreshToken),
        (provider.grant (world.generation + 1)).expiresAt⟩,
        { world with
          generation := world.generation + 1
          sent := world.sent ++ [(provider.grant world.generation).refreshToken] }) :=
  if_pos rfl

/-- When the provider has answered with new tokens, they are saved. -/
theorem after_refresh_ok (call : TokenCall) (refreshToken : String) :
    call.afterRefresh row refreshToken (.ok ⟨some (provider.grant generation).accessToken,
        some (some (provider.grant generation).refreshToken),
        (provider.grant generation).expiresAt⟩) =
      .perform (.saveToken (savedRow provider row generation))
        fun _ => .done (.ok (provider.grant generation).accessToken) :=
  TokenCall.after_refresh_of_ne (provider.access_ne generation)

/-- A call that is left alone with a fresh row changes nothing. -/
theorem alone_fresh (call : TokenCall) (hrow : provider.Holds row generation)
    (hfinds : ¬ call.Finds row) :
    call.program.alone provider.step ⟨some row, generation, sent⟩ =
      (.ok (provider.grant generation).accessToken, ⟨some row, generation, sent⟩) := by
  show (call.afterGetToken (some row)).alone provider.step ⟨some row, generation, sent⟩ = _
  rw [after_get_token_fresh call hrow hfinds]
  rfl

/-- A call that is left alone with an expiring row spends its refresh token and saves the next
tokens. -/
theorem alone_expiring (call : TokenCall) (hrow : provider.Holds row generation)
    (hfinds : call.Finds row) :
    call.program.alone provider.step ⟨some row, generation, sent⟩ =
      (.ok (provider.grant (generation + 1)).accessToken,
        ⟨some (savedRow provider row (generation + 1)), generation + 1,
          sent ++ [(provider.grant generation).refreshToken]⟩) := by
  show (call.afterGetToken (some row)).alone provider.step ⟨some row, generation, sent⟩ = _
  rw [after_get_token_expiring call hrow hfinds]
  show (call.afterRefresh row _ (provider.step (.refresh _ (provider.grant generation).refreshToken
    _ _) ⟨some row, generation, sent⟩).1).alone provider.step (provider.step _ _).2 = _
  rw [refresh_latest _ _ _ ⟨some row, generation, sent⟩]
  dsimp only
  rw [after_refresh_ok]
  rfl

end

/-! ## Two calls -/

section

variable {provider : RotatingProvider} {call call' : TokenCall} {row : OAuthToken}
  {start generation : Nat} {sent : List String} {world final : TokenWorld} {schedule : List Bool}
  {result result' : Except String String}

/-- What a call returns is still valid when the provider has issued more tokens. -/
theorem returns_valid_mono (hvalid : provider.ReturnsValid call start world result)
    (hgeneration : world.generation ≤ final.generation) :
    provider.ReturnsValid call start final result := by
  obtain ⟨generation, hstart, hend, hresult, hfresh⟩ := hvalid
  exact ⟨generation, hstart, Nat.le_trans hend hgeneration, hresult, hfresh⟩

/-- Of a row that is not about to expire, the call may return the access token. -/
theorem not_expiring_of_not_finds (hrow : provider.Holds row generation)
    (hfinds : ¬ call.Finds row) :
    (provider.grant generation).expiresAt.any call.isExpiringSoon = false := by
  rw [← hrow.expiresAt]
  exact Bool.eq_false_iff.mpr hfinds

/-- When one call has returned a valid access token and the row is the latest, the other call alone
does so too. -/
theorem refreshed_once_alone (hrow : provider.Holds row generation) (hstart : start ≤ generation)
    (hvalid : provider.ReturnsValid call start ⟨some row, generation, sent⟩ result)
    (honce : sent.Nodup)
    (hspent : ∀ refreshToken ∈ sent, ∃ spent < generation,
      refreshToken = (provider.grant spent).refreshToken)
    (halone : (result', final) =
      call'.program.alone provider.step ⟨some row, generation, sent⟩) :
    provider.RefreshedOnce call call' start result result' final := by
  by_cases hfinds : call'.Finds row
  · rw [alone_expiring call' hrow hfinds] at halone
    cases halone
    have hnew : (provider.grant generation).refreshToken ∉ sent := by
      intro hmem
      obtain ⟨spent, hlt, heq⟩ := hspent _ hmem
      have hsame : generation = spent := provider.refresh_injective heq
      omega
    refine ⟨?_, ?_, ?_, ?_⟩
    · exact List.nodup_append.mpr ⟨honce, List.nodup_singleton _, fun refreshToken hmem other
        hother heq => hnew (by rwa [heq, List.mem_singleton.mp hother] at hmem)⟩
    · exact returns_valid_mono hvalid (Nat.le_succ _)
    · exact ⟨generation + 1, by omega, Nat.le_refl _, rfl, .inl (by omega)⟩
    · exact ⟨_, rfl, saved_row_holds provider row (generation + 1)⟩
  · rw [alone_fresh call' hrow hfinds] at halone
    cases halone
    exact ⟨honce, hvalid, ⟨generation, hstart, Nat.le_refl _, rfl,
      .inr (not_expiring_of_not_finds hrow hfinds)⟩, ⟨row, rfl, hrow⟩⟩

/-- What holds of two calls holds of them changed about. -/
theorem RotatingProvider.RefreshedOnce.symm
    (h : provider.RefreshedOnce call call' start result result' final) :
    provider.RefreshedOnce call' call start result' result final :=
  ⟨h.sentOnce, h.valid', h.valid, h.latest⟩

/-- The schedules that are harmless are so for the calls changed about. -/
theorem harmless_calls_symm :
    HarmlessCalls call call' row schedule ↔ HarmlessCalls call' call row (schedule.map not) := by
  have hboth : (call.Finds row ∧ call'.Finds row) ↔ (call'.Finds row ∧ call.Finds row) := and_comm
  unfold HarmlessCalls
  rw [← List.map_take, hboth]
  constructor
  · rintro (hfinds | hfirst | hsecond)
    · exact .inl hfinds
    · exact .inr (.inr (congrArg (List.map not) hfirst))
    · exact .inr (.inl (congrArg (List.map not) hsecond))
  · rintro (hfinds | hfirst | hsecond)
    · exact .inl hfinds
    · exact .inr (.inr (Races.eq_of_map_not hfirst))
    · exact .inr (.inl (Races.eq_of_map_not hsecond))

/-- A race in which the first call has read the row. -/
theorem token_race_of_first (hrow : provider.Holds row generation)
    (h : Races provider.step (call.afterGetToken (some row)) call'.program
      ⟨some row, generation, []⟩ schedule result result' final) :
    provider.RefreshedOnce call call' generation result result' final ↔
      HarmlessCalls call call' row (true :: schedule) := by
  by_cases hfinds : call.Finds row
  · rw [after_get_token_expiring call hrow hfinds] at h
    cases h with
    | first h =>
        rw [refresh_latest _ _ _ ⟨some row, generation, []⟩] at h
        dsimp only at h
        rw [after_refresh_ok] at h
        have hvalid : provider.ReturnsValid call generation
            ⟨some (savedRow provider row (generation + 1)), generation + 1,
              [(provider.grant generation).refreshToken]⟩
            (.ok (provider.grant (generation + 1)).accessToken) :=
          ⟨generation + 1, by omega, Nat.le_refl _, rfl, .inl (by omega)⟩
        cases h with
        | first h =>
            -- The first call has saved the new tokens before the second one reads.
            obtain ⟨rfl, halone⟩ := h.of_done
            refine iff_of_true ?_ (.inr (.inl rfl))
            refine refreshed_once_alone (saved_row_holds provider row (generation + 1)) (by omega)
              hvalid (List.nodup_singleton _) ?_ halone
            intro refreshToken hmem
            exact ⟨generation, by omega, List.mem_singleton.mp hmem⟩
        | second h =>
            by_cases hfinds' : call'.Finds row
            · -- The refresh token is spent, and the second call has read it.
              refine iff_of_false (fun honce => ?_) (by simp [HarmlessCalls, hfinds, hfinds'])
              have hsend : WillSend (call'.afterGetToken (some row))
                  (provider.grant generation).refreshToken :=
                ⟨_, _, _, _, after_get_token_expiring call' hrow hfinds'⟩
              exact sent_twice (List.mem_singleton.mpr rfl) hsend h.symm honce.sentOnce
            · refine iff_of_true ?_ (.inl fun hboth => hfinds' hboth.2)
              rw [show (provider.step .getToken _).1 = some row from rfl,
                after_get_token_fresh call' hrow hfinds'] at h
              obtain ⟨rfl, halone⟩ := h.symm.of_done
              cases halone
              exact ⟨List.nodup_singleton _, hvalid, ⟨generation, Nat.le_refl _, Nat.le_succ _, rfl,
                .inr (not_expiring_of_not_finds hrow hfinds')⟩,
                ⟨_, rfl, saved_row_holds provider row (generation + 1)⟩⟩
    | second h =>
        rw [← after_get_token_expiring call hrow hfinds] at h
        by_cases hfinds' : call'.Finds row
        · -- Both calls have read the refresh token before either of them sends it.
          refine iff_of_false (fun honce => ?_) (by simp [HarmlessCalls, hfinds, hfinds'])
          exact both_send ⟨_, _, _, _, after_get_token_expiring call hrow hfinds⟩
            ⟨_, _, _, _, after_get_token_expiring call' hrow hfinds'⟩ h honce.sentOnce
        · refine iff_of_true ?_ (.inl fun hboth => hfinds' hboth.2)
          rw [show (provider.step .getToken _).1 = some row from rfl,
            after_get_token_fresh call' hrow hfinds'] at h
          obtain ⟨rfl, halone⟩ := h.symm.of_done
          have hvalid : provider.ReturnsValid call' generation ⟨some row, generation, []⟩
              (.ok (provider.grant generation).accessToken) :=
            ⟨generation, Nat.le_refl _, Nat.le_refl _, rfl,
              .inr (not_expiring_of_not_finds hrow hfinds')⟩
          exact (refreshed_once_alone hrow (Nat.le_refl _) hvalid List.nodup_nil
            (fun _ hmem => by cases hmem) halone).symm
  · refine iff_of_true ?_ (.inl fun hboth => hfinds hboth.1)
    rw [after_get_token_fresh call hrow hfinds] at h
    obtain ⟨rfl, halone⟩ := h.of_done
    have hvalid : provider.ReturnsValid call generation ⟨some row, generation, []⟩
        (.ok (provider.grant generation).accessToken) :=
      ⟨generation, Nat.le_refl _, Nat.le_refl _, rfl,
        .inr (not_expiring_of_not_finds hrow hfinds)⟩
    exact refreshed_once_alone hrow (Nat.le_refl _) hvalid List.nodup_nil
      (fun _ hmem => by cases hmem) halone

/-- Two calls whose row has the latest tokens of a provider that rotates refresh tokens send none
twice, return valid access tokens and leave the latest tokens in the row, exactly if they do not
both find the row about to expire, or one of them has read, refreshed and saved before the other
reads. -/
theorem token_race_iff (provider : RotatingProvider) (row : OAuthToken) (generation : Nat)
    (hrow : provider.Holds row generation) (call call' : TokenCall) (schedule : List Bool)
    (result result' : Except String String) (final : TokenWorld)
    (hrace : Races provider.step call.program call'.program ⟨some row, generation, []⟩ schedule
      result result' final) :
    provider.RefreshedOnce call call' generation result result' final ↔
      HarmlessCalls call call' row schedule := by
  cases hrace with
  | first h => exact token_race_of_first hrow h
  | @second _ _ _ _ _ schedule _ _ h =>
      -- The same with the calls changed about.
      have hchanged : provider.RefreshedOnce call' call generation result' result final ↔
          HarmlessCalls call' call row (true :: schedule.map not) :=
        token_race_of_first hrow h.symm
      have hharmless : HarmlessCalls call call' row (false :: schedule) ↔
          HarmlessCalls call' call row (true :: schedule.map not) := harmless_calls_symm
      rw [hharmless, ← hchanged]
      constructor
      · intro honce
        exact honce.symm
      · intro honce
        exact honce.symm

end

/-! ### Two nodes of one run -/

/-- A provider whose tokens get longer. -/
def growingTokens : RotatingProvider where
  grant generation :=
    ⟨"access" ++ String.ofList (List.replicate generation '1'),
      "refresh" ++ String.ofList (List.replicate generation '1'), some "soon"⟩
  refresh_injective generation generation' h := by
    simpa using congrArg String.length h
  access_ne generation h := by
    have hlength := congrArg String.length h
    simp at hlength
  refusal := "invalid_grant"

/-- The row of a user for a connection. -/
def soonExpiringRow : OAuthToken where
  accessToken := "access"
  refreshToken := some "refresh"
  expiresAt := some "soon"
  tokenEndpoint := "https://provider/token"
  clientId := none
  clientSecret := none

/-- A node's call, which finds the row to be about to expire. -/
def nodeCall : TokenCall := ⟨"mail", fun _ => true⟩

/-- Both nodes read the row, and then one refreshes and saves. -/
theorem both_read_first :
    Races growingTokens.step nodeCall.program nodeCall.program ⟨some soonExpiringRow, 0, []⟩
      [true, false, true, true, false] (.ok "access1")
      (.error ("'mail''s access token expired and refreshing it failed (invalid_grant) " ++
        "-- reconnect it."))
      ⟨some (savedRow growingTokens soonExpiringRow 1), 1, ["refresh", "refresh"]⟩ :=
  .first (.second (.first (.first (.second (.done _ _ _)))))

/-- The refresh token is sent twice, and the second node fails. -/
theorem refresh_token_is_sent_twice :
    ∃ final result',
      growingTokens.Holds soonExpiringRow 0 ∧
      Races growingTokens.step nodeCall.program nodeCall.program ⟨some soonExpiringRow, 0, []⟩
        [true, false, true, true, false] (.ok "access1") result' final ∧
      final.sent = ["refresh", "refresh"] ∧
      ¬ growingTokens.RefreshedOnce nodeCall nodeCall 0 (.ok "access1")
        result' final := by
  refine ⟨_, _, ⟨rfl, rfl, rfl⟩, both_read_first, rfl, fun honce => ?_⟩
  exact absurd honce.sentOnce (by decide)

/-- The race is settled by its schedule. -/
theorem both_read_first_harmful :
    growingTokens.RefreshedOnce nodeCall nodeCall 0 (.ok "access1")
      (.error ("'mail''s access token expired and refreshing it failed (invalid_grant) " ++
        "-- reconnect it."))
      ⟨some (savedRow growingTokens soonExpiringRow 1), 1, ["refresh", "refresh"]⟩ ↔
    HarmlessCalls nodeCall nodeCall soonExpiringRow [true, false, true, true, false] :=
  token_race_iff growingTokens soonExpiringRow 0 ⟨rfl, rfl, rfl⟩ nodeCall nodeCall _ _ _ _
    both_read_first

end AgentGraphStudio
