import AgentGraphStudio.Mcp.AccessTokens

/-!
# Access tokens as a request sees them

`get_valid_access_token` is embedded twice. `OAuthFlow` follows it value by value: the fields of an
answer, the readings of the clock, the text that a column keeps. What the endpoints say of
connections uses a narrower one, over `OAuthToken` and `TokenResponse`. As long as names, answers
and expiries can be kept by the table, they end alike.
-/

namespace AgentGraphStudio

namespace OAuthFlow

section

variable (isoformat : Datetime → String)

/-- What a request sees of a row. -/
def McpOAuthTokenRow.seen (row : McpOAuthTokenRow) : OAuthToken where
  accessToken := row.accessToken
  refreshToken := row.refreshToken
  expiresAt := row.expiresAt.map isoformat
  tokenEndpoint := row.tokenEndpoint
  clientId := row.clientId
  clientSecret := row.clientSecret

/-- The tokens of the backend are the rows of the table. -/
def Shows (tokens : TokenTable) (backend : Backend) : Prop :=
  ∀ key, backend.tokens.get? key = (tokens.get? key).map (McpOAuthTokenRow.seen isoformat)

/-- Two requests end alike: with the same token, or with the same exception, of whose text the
second leaves out the end, and over tokens that are still the rows. -/
inductive SameEnd : EStateM.Result OAuthFailure TokenTable AnswerValue →
    EStateM.Result String Backend String → Prop
  | handed {token : String} {tokens : TokenTable} {backend : Backend}
      (hshows : Shows isoformat tokens backend) :
      SameEnd (.ok (.json (.str token)) tokens) (.ok token backend)
  | raised {failure : OAuthFailure} {message rest : String} {tokens : TokenTable}
      {backend : Backend} (hshows : Shows isoformat tokens backend)
      (htext : failure.text = message ++ rest) :
      SameEnd (.error failure tokens) (.error message backend)

end

section

variable (python : Python) (realText : Int → Int → String) (clock : Clock)
  (isoformat : Datetime → String)

/-- A refresh token as an answer gives it. -/
def refreshTokenValue : Option String → AnswerValue
  | none => .json .null
  | some refreshToken => .json (.str refreshToken)

/-- What a request sees of the answer to a refresh that the table can keep. -/
inductive ShowsAnswer (previous : String) :
    Except OAuthFailure (Option TokenBody) → Except OAuthFailure TokenResponse → Prop
  | failed (failure : OAuthFailure) : ShowsAnswer previous (.error failure) (.error failure)
  | incomplete {body : TokenBody} {response : TokenResponse}
      (htoken : (body.getD "access_token" (.json .null)).truthy = false)
      (hresponse : response.accessToken = none) :
      ShowsAnswer previous (.ok (some body)) (.ok response)
  | complete {body : TokenBody} {accessToken : String} {refreshToken : Option (Option String)}
      {expiresAt : Option Datetime} {tokenType : String} {scope : Option String}
      (haccess : body.get? "access_token" = some (.json (.str accessToken)))
      (hgiven : accessToken ≠ "")
      (haccessEncoded : python.encodes accessToken)
      (hrefresh : body.get? "refresh_token" = refreshToken.map refreshTokenValue)
      (hrefreshEncoded : ∀ text, refreshToken.getD (some previous) = some text →
        python.encodes text)
      (hexpires : computeExpiresAt python clock.received
        (body.getD "expires_in" (.json .null)) = .ok expiresAt)
      (htype : answerText python realText (body.getD "token_type" (.json (.str "Bearer"))) =
        .ok (some tokenType))
      (hscope : answerText python realText (body.getD "scope" (.json .null)) = .ok scope) :
      ShowsAnswer previous (.ok (some body))
        (.ok ⟨some accessToken, refreshToken, expiresAt.map isoformat⟩)

/-- A request meets for a row what the row's own refresh would meet. -/
structure ShowsRow (endpoints : TokenEndpoints) (outside : Outside) (row : McpOAuthTokenRow) :
    Prop where
  expiring : ∀ expiresAt, row.expiresAt = some expiresAt →
    isExpiringSoon clock.checked expiresAt = .ok (outside.isExpiringSoon (isoformat expiresAt))
  answer : ∀ previous, row.refreshToken = some previous →
    ShowsAnswer python realText clock isoformat previous
      (refresh endpoints row.tokenEndpoint previous (row.clientId.getD "") row.clientSecret)
      (outside.refreshAccess row.tokenEndpoint previous (row.clientId.getD "") row.clientSecret)

end

section

variable {python : Python} {realText : Int → Int → String} {clock : Clock}
  {isoformat : Datetime → String} {endpoints : TokenEndpoints} {outside : Outside}
  {userId connectionName : String} {tokens : TokenTable} {backend : Backend}
  {row : McpOAuthTokenRow} {previous : String}

/-- A row that is set is seen. -/
theorem Shows.set (h : Shows isoformat tokens backend) (row : McpOAuthTokenRow)
    (key : String × String) :
    Shows isoformat (tokens.set key row)
      { backend with tokens := backend.tokens.set key (row.seen isoformat) } := by
  intro other
  by_cases hsame : other = key
  · subst hsame
    simp [Dict.get?_set_self]
  · simp [Dict.get?_set_of_ne _ _ hsame, h other]

/-- Two requests raise with the same text. -/
theorem SameEnd.raised_same {failure : OAuthFailure} {message : String}
    (hshows : Shows isoformat tokens backend) (htext : failure.text = message) :
    SameEnd isoformat (.error failure tokens) (.error message backend) :=
  .raised hshows (htext.trans String.append_empty.symm)

/-- The refresh token to keep is the one given, or else the previous one. -/
theorem encrypt_kept {body : TokenBody} {refreshToken : Option (Option String)}
    (hrefresh : body.get? "refresh_token" = refreshToken.map refreshTokenValue)
    (hencoded : ∀ text, refreshToken.getD (some previous) = some text → python.encodes text) :
    encrypt python ((merged previous body).getD "refresh_token" (.json .null)) =
      .ok (refreshToken.getD (some previous)) := by
  have hkept : (merged previous body).getD "refresh_token" (.json .null) =
      refreshTokenValue (refreshToken.getD (some previous)) := by
    rw [merged_refresh_token, Dict.getD, hrefresh]
    cases refreshToken <;> rfl
  rw [hkept]
  cases hvalue : refreshToken.getD (some previous) with
  | none => rfl
  | some text => exact encrypt_eq_ok_some.mpr ⟨rfl, hencoded text hvalue⟩

/-- An answer that the table can keep is stored as the row whose view the request stores. -/
theorem response_row_shown (row : McpOAuthTokenRow) {body : TokenBody} {response : TokenResponse}
    {accessToken : String}
    (hanswer : ShowsAnswer python realText clock isoformat previous (.ok (some body))
      (.ok response)) (haccess : response.accessToken = some accessToken) :
    accessToken ≠ "" ∧ body.get? "access_token" = some (.json (.str accessToken)) ∧
      ∃ held, responseRow python realText clock (merged previous body) row.tokenEndpoint
        row.clientId row.clientSecret = .ok held ∧
      held.accessToken = accessToken ∧ held.seen isoformat =
        { accessToken
          refreshToken := response.refreshToken.getD (some previous)
          expiresAt := response.expiresAt
          tokenEndpoint := row.tokenEndpoint
          clientId := row.clientId
          clientSecret := row.clientSecret } := by
  cases hanswer with
  | incomplete _ hresponse => cases hresponse.symm.trans haccess
  | @complete _ _ refreshToken expiresAt tokenType scope hgivenAccess hgiven hencoded hrefresh
      hrefreshEncoded hexpires htype hscope =>
      cases haccess
      refine ⟨hgiven, hgivenAccess, ⟨accessToken, refreshToken.getD (some previous), expiresAt,
        tokenType, scope, row.tokenEndpoint, row.clientId, row.clientSecret, clock.saved⟩,
        except_bind_eq_ok.mpr ⟨expiresAt, ?_, token_row_eq_ok.mpr ⟨accessToken, _, tokenType, scope,
          ⟨?_, hencoded⟩, encrypt_kept hrefresh hrefreshEncoded, ?_, ?_, rfl⟩⟩, rfl, rfl⟩
      · rw [merged_getD (by decide)]
        exact hexpires
      · rw [merged_getD (by decide)]
        exact getD_eq_str.mpr hgivenAccess
      · rw [merged_getD (by decide)]
        exact htype
      · rw [merged_getD (by decide)]
        exact hscope

/-- Storing the body of an answer is seen as storing what is seen of it. -/
theorem store_refreshed_seen {body : TokenBody} {response : TokenResponse}
    (hshows : Shows isoformat tokens backend)
    (hanswer : ShowsAnswer python realText clock isoformat previous (.ok (some body))
      (.ok response)) :
    SameEnd isoformat
      ((storeRefreshed python realText clock userId connectionName row previous (some body)).run
        tokens)
      ((AgentGraphStudio.storeTokenResponse userId connectionName
          { response with refreshToken := some (response.refreshToken.getD (some previous)) }
          row.tokenEndpoint row.clientId row.clientSecret >>= fun _ =>
        (pure (response.accessToken.getD "") : Step String)).run backend) := by
  obtain ⟨accessToken, newToken, expiresAt⟩ := response
  cases accessToken with
  | none =>
      have htoken : (body.getD "access_token" (.json .null)).truthy = false := by
        cases hanswer with
        | incomplete htoken _ => exact htoken
      have hmerged : ((merged previous body).getD "access_token" (.json .null)).truthy =
          false := by
        rw [merged_getD (by decide)]
        exact htoken
      simp only [storeRefreshed, storeTokenResponse, AgentGraphStudio.storeTokenResponse, hmerged]
      have htext : "Token response had no access_token: " ++
          bodyText python (merged previous body) =
            "Token response had no access_token" ++
              (": " ++ bodyText python (merged previous body)) := by
        rw [← String.append_assoc]
        rfl
      exact .raised hshows htext
  | some accessToken =>
      obtain ⟨hgiven, hbody, held, hheld, rfl, hseen⟩ := response_row_shown row hanswer rfl
      have htoken : (body.getD "access_token" (.json .null)).truthy = true := by
        rw [getD_eq_str.mpr hbody]
        simp [AnswerValue.truthy, truthy, hgiven]
      rw [run_store_refreshed_row htoken hheld, EStateM.run_bind,
        store_token_response_of_ne hgiven]
      have hset := hshows.set held (userId, connectionName)
      rw [hseen] at hset
      exact .handed hset

/-- The access token of a user is seen as it is handed out, refreshed and kept. -/
theorem get_valid_access_token_seen (hnames : NamesEncoded python userId connectionName)
    (hshows : Shows isoformat tokens backend)
    (hrow : ∀ row, tokens.get? (userId, connectionName) = some row →
      ShowsRow python realText clock isoformat endpoints outside row) :
    SameEnd isoformat
      ((getValidAccessToken python realText clock endpoints userId connectionName).run tokens)
      ((AgentGraphStudio.getValidAccessToken outside userId connectionName).run backend) := by
  unfold AgentGraphStudio.getValidAccessToken
  rw [Stateful.run_get_bind, hshows (userId, connectionName)]
  cases hget : tokens.get? (userId, connectionName) with
  | none =>
      unfold getValidAccessToken
      rw [EStateM.run_bind, run_get_token hnames, hget]
      exact .raised_same hshows rfl
  | some row =>
      obtain ⟨hexpiring, hanswer⟩ := hrow row hget
      simp only [Option.map_some, McpOAuthTokenRow.seen]
      cases hexpires : row.expiresAt with
      | none =>
          rw [run_of_no_expiry hnames hget hexpires]
          exact .handed hshows
      | some expiresAt =>
          rw [run_of_expiry hnames hget hexpires, hexpiring expiresAt hexpires]
          simp only [Option.map_some, Option.any_some]
          by_cases hsoon : outside.isExpiringSoon (isoformat expiresAt) = true
          · rw [if_pos hsoon, hsoon]
            show SameEnd isoformat ((refreshRow python realText clock endpoints userId
              connectionName row).run tokens) _
            unfold refreshRow
            cases hprevious : row.refreshToken with
            | none =>
                refine .raised_same hshows ?_
                simp only [OAuthFailure.text, toString, String.append_assoc]
                rfl
            | some previous =>
                have hshown := hanswer previous hprevious
                dsimp only
                generalize refresh endpoints row.tokenEndpoint previous (row.clientId.getD "")
                  row.clientSecret = answer at hshown
                generalize outside.refreshAccess row.tokenEndpoint previous
                  (row.clientId.getD "") row.clientSecret = response at hshown
                cases hshown with
                | failed failure =>
                    cases failure with
                    | oauthError e =>
                        refine .raised_same hshows ?_
                        simp only [OAuthFailure.text, toString, String.append_assoc]
                        rfl
                    | other e => exact .raised_same hshows rfl
                | incomplete htoken hresponse =>
                    exact store_refreshed_seen hshows (.incomplete htoken hresponse)
                | complete haccess hgiven haccessEncoded hrefresh hrefreshEncoded hexpires htype
                    hscope =>
                    exact store_refreshed_seen hshows (.complete haccess hgiven haccessEncoded
                      hrefresh hrefreshEncoded hexpires htype hscope)
          · rw [if_neg hsoon, Bool.eq_false_of_not_eq_true hsoon]
            exact .handed hshows

end

end OAuthFlow

end AgentGraphStudio
