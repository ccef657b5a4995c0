import AgentGraphStudio.Lib.Pool
import AgentGraphStudio.Mcp.AccessTokens
import AgentGraphStudio.Mcp.RemoteClient

/-!
# The Discord MCP server

`discord-mcp-server/main.py`: `/token` trades a consent for a token of the server's own and keeps
the webhook that Discord answers under it, and a request to the tools is let through with such a
token only. Requests run at the same time. `messages_reach_own_channel` says whom a message reaches
in every interleaving: the channel that the consent behind its token was given for.
-/

namespace AgentGraphStudio

namespace DiscordServer

/-- An HTTP response: the status, the text and what the text is as JSON. -/
structure HttpAnswer where
  status : Int
  text : String
  json : Option Json

/-- The table `webhook_tokens`: the webhook of a token and when it was stored. -/
abbrev WebhookTable := Dict String (String × String)

/-- What a request does outside of itself. -/
inductive DiscordOp where
  | exchange (form : Dict String String)
  | tokenUrlsafe
  | utcnowIso
  | storeWebhook (accessToken : String) (webhookUrl : Json) (createdAt : String)
  | lookupWebhook (accessToken : String)
  | postWebhook (webhookUrl content : String)

/-- The response of an operation, or what it raises. -/
abbrev DiscordRes : DiscordOp → Type
  | .exchange _ | .postWebhook .. => Except String HttpAnswer
  | .tokenUrlsafe | .utcnowIso => String
  | .storeWebhook .. => Except String Unit
  | .lookupWebhook _ => Option String

abbrev DiscordEvent := Event DiscordOp DiscordRes

abbrev DiscordProgram := Program DiscordOp DiscordRes

/-- Perform one operation. -/
def discordStep (op : DiscordOp) : DiscordProgram (DiscordRes op) := Program.op op

/-- What a request is answered: a JSON response with the header that asks for a token, if there is
one, what the tools answer, or an error. -/
inductive DiscordReply where
  | response (status : Int) (content : Json) (wwwAuthenticate : Option String)
  | served
  | raised (error : String)

/-! ## The store -/

section

variable (python : Python) (realText : Int → Int → String)

/-- Insert a row (`_store_webhook`). The token is the primary key. -/
def storeWebhook (table : WebhookTable) (accessToken : String) (webhookUrl : Json)
    (createdAt : String) : Except String WebhookTable := do
  match ← OAuthFlow.columnText python realText webhookUrl with
  | none => throw "NOT NULL constraint failed: webhook_tokens.webhook_url"
  | some webhookUrl =>
    if (table.get? accessToken).isSome then
      throw "UNIQUE constraint failed: webhook_tokens.access_token"
    else pure (table.set accessToken (webhookUrl, createdAt))

end

/-- The webhook of a token (`_lookup_webhook`). -/
def lookupWebhook (table : WebhookTable) (accessToken : String) : Option String :=
  (table.get? accessToken).map Prod.fst

/-! ## `/token` -/

/-- The body as JSON, or an error that tells it (`_safe_json`). -/
def safeJson (answer : HttpAnswer) : Json :=
  answer.json.getD (.obj [("error", .str "invalid_response"), ("detail", .str answer.text)])

/-- `value.get(key)`. -/
def getKey (value : Json) (key : String) : Except String (Option Json) :=
  match value.obj? with
  | none => .error "object has no attribute 'get'"
  | some fields => .ok (fields.get? key)

/-- The URL of the webhook in an answer of Discord, if it has one that is not empty. -/
def webhookUrl (body : Json) : Except String (Option Json) := do
  match (← getKey body "webhook").filter truthy with
  | none => pure none
  | some webhook => pure ((← getKey webhook "url").filter truthy)

/-- A token of the server's own for the webhook that Discord answers (`token_proxy`). -/
def tokenProxy (form : Dict String String) : DiscordProgram DiscordReply := do
  match ← discordStep (.exchange form) with
  | .error error => pure (.raised error)
  | .ok answer =>
    if answer.status ≠ 200 then pure (.response answer.status (safeJson answer) none)
    else
      match webhookUrl (safeJson answer) with
      | .error error => pure (.raised error)
      | .ok none => pure (.response 502 (.obj [("error", .str "discord_response_missing_webhook"),
          ("detail", .str ("Discord's token response had no webhook -- was 'webhook.incoming' " ++
            "actually the requested scope?"))]) none)
      | .ok (some webhookUrl) =>
        let opaqueToken ← discordStep .tokenUrlsafe
        let createdAt ← discordStep .utcnowIso
        match ← discordStep (.storeWebhook opaqueToken webhookUrl createdAt) with
        | .error error => pure (.raised error)
        | .ok () => pure (.response 200 (.obj [("access_token", .str opaqueToken),
            ("token_type", .str "Bearer"), ("scope", .str "webhook.incoming")]) none)

/-! ## The tool -/

/-- What an answer of Discord to a message tells the caller of the tool. -/
def told : Except String HttpAnswer → Except String String
  | .error error => .error error
  | .ok answer =>
    if answer.status = 200 ∨ answer.status = 204 then .ok "sent"
    else .error s!"Discord webhook POST failed: {answer.status} {answer.text}"

/-- Send a message to the webhook of the request (`send_message`). -/
def sendMessage (currentWebhookUrl : Option String) (content : String) :
    DiscordProgram (Except String String) :=
  match currentWebhookUrl with
  | none =>
    pure (.error "No Discord webhook associated with this connection -- reconnect it.")
  | some webhookUrl => do pure (told (← discordStep (.postWebhook webhookUrl content)))

/-- What the mounted application makes of a request: calls of the tool, each with what the one
before has told. -/
inductive McpApp where
  | finish
  | sendMessage (content : String) (next : Except String String → McpApp)

/-- Run the application. The context of a request, and of what it starts, is its own. -/
def McpApp.run (currentWebhookUrl : Option String) : McpApp → DiscordProgram Unit
  | .finish => pure ()
  | .sendMessage content next => do
    McpApp.run currentWebhookUrl (next (← DiscordServer.sendMessage currentWebhookUrl content))

/-! ## `BearerAuthMiddleware` -/

/-- A connection: its type and the headers, each with the text it decodes to. -/
structure Scope where
  type : String
  headers : List (String × Option String)

/-- The token of a request. A header that comes twice has its last value. -/
def bearerToken (headers : List (String × Option String)) : Except String (Option String) :=
  match (Dict.ofList headers).get? "authorization" with
  | none => .ok none
  | some none => .error "'utf-8' codec can't decode"
  | some (some header) =>
    if "Bearer ".toList.isPrefixOf header.toList then
      .ok (some (header.drop "Bearer ".length).toString |>.filter (· ≠ ""))
    else .ok none

/-- Where the server can be reached (`_base_url`). -/
def baseUrl (override : Option String) : Except String String :=
  match override.filter (· ≠ "") with
  | none => .error ("DISCORD_MCP_PUBLIC_BASE_URL must be set -- the real, externally-reachable " ++
      "URL this server is running at, used to build its own OAuth metadata.")
  | some url => .ok (url.dropEndWhile '/').toString

/-- Refuse a request without a token that is known. -/
def unauthorized (override : Option String) : DiscordReply :=
  match baseUrl override with
  | .error error => .raised error
  | .ok base => .response 401 (.obj [("error", .str "unauthorized")])
      (some ("Bearer resource_metadata=\"" ++ base ++ "/.well-known/oauth-protected-resource\""))

/-- The webhook of a token, if the request has one. -/
def webhookOf : Option String → DiscordProgram (Option String)
  | none => pure none
  | some token => discordStep (.lookupWebhook token)

/-- Let a request through with the webhook of its token (`BearerAuthMiddleware.__call__`). -/
def callMiddleware (override : Option String) (scope : Scope) (app : McpApp) :
    DiscordProgram DiscordReply := do
  if scope.type ≠ "http" then
    app.run none
    pure .served
  else
    match bearerToken scope.headers with
    | .error error => pure (.raised error)
    | .ok token =>
      match ← webhookOf token with
      | none => pure (unauthorized override)
      | some webhookUrl =>
        app.run (some webhookUrl)
        pure .served

/-! ## The server at work -/

/-- A request. -/
inductive DiscordThread where
  | token (form : Dict String String)
  | mcp (scope : Scope) (app : McpApp)

def DiscordThread.program (override : Option String) :
    DiscordThread → DiscordProgram DiscordReply
  | .token form => tokenProxy form
  | .mcp scope app => callMiddleware override scope app

/-- What an operation answers and does to the store. Nothing is said of Discord, nor of the tokens
that are drawn. -/
def discordEffect (python : Python) (realText : Int → Int → String) (table : WebhookTable) :
    DiscordEvent → WebhookTable → Prop
  | ⟨.storeWebhook accessToken webhookUrl createdAt, .ok ()⟩, next =>
    storeWebhook python realText table accessToken webhookUrl createdAt = .ok next
  | ⟨.storeWebhook accessToken webhookUrl createdAt, .error error⟩, next =>
    storeWebhook python realText table accessToken webhookUrl createdAt = .error error ∧
      next = table
  | ⟨.lookupWebhook accessToken, response⟩, next =>
    response = lookupWebhook table accessToken ∧ next = table
  | _, next => next = table

/-! ## What a request does -/

/-- The calls that the application makes, each with the answer of Discord, are these. -/
inductive McpApp.Calls : McpApp → List (String × Except String HttpAnswer) → Prop
  | finish : McpApp.Calls .finish []
  | sendMessage {content : String} {next : Except String String → McpApp}
      {answer : Except String HttpAnswer} {calls : List (String × Except String HttpAnswer)}
      (h : McpApp.Calls (next (told answer)) calls) :
      McpApp.Calls (.sendMessage content next) ((content, answer) :: calls)

/-- The message that is sent to a webhook, with the answer. -/
def posted (webhookUrl : String) (call : String × Except String HttpAnswer) : DiscordEvent :=
  ⟨.postWebhook webhookUrl call.1, call.2⟩

section

variable {override : Option String} {form : Dict String String} {scope : Scope} {app : McpApp}
  {events : List DiscordEvent} {rest : DiscordProgram DiscordReply}

/-- The steps of a request to `/token`: it stores what Discord has answered it, under the token
that it has drawn. -/
def TokenPermitted (form : Dict String String) (history : List DiscordEvent) : DiscordOp → Prop
  | .exchange other => other = form
  | .tokenUrlsafe | .utcnowIso => True
  | .storeWebhook token value _ => ∃ answer,
    (⟨.exchange form, .ok answer⟩ : DiscordEvent) ∈ history ∧ answer.status = 200 ∧
      webhookUrl (safeJson answer) = .ok (some value) ∧
      (⟨.tokenUrlsafe, token⟩ : DiscordEvent) ∈ history
  | .lookupWebhook _ | .postWebhook .. => False

/-- The token that a response hands out. -/
def issued (token : String) : Json :=
  .obj [("access_token", .str token), ("token_type", .str "Bearer"),
    ("scope", .str "webhook.incoming")]

/-- A token is handed out when its webhook has been stored. -/
def TokenPost (history : List DiscordEvent) (reply : DiscordReply) : Prop :=
  ∀ content header, reply = .response 200 content header → ∃ token value createdAt,
    content = issued token ∧
      (⟨.storeWebhook token value createdAt, .ok ()⟩ : DiscordEvent) ∈ history

theorem token_certified : Program.Certified (TokenPermitted form) (fun _ _ _ => True) []
    (tokenProxy form) TokenPost := by
  refine fun _ => ⟨rfl, fun exchanged _ => ?_⟩
  cases exchanged with
  | error error => exact Program.Certified.done fun _ _ _ hreply => nomatch hreply
  | ok answer =>
      show Program.Certified _ _ _ (if answer.status ≠ 200 then _ else _) _
      split
      · rename_i hstatus
        refine Program.Certified.done fun _ content header hreply => ?_
        exact absurd (DiscordReply.response.inj hreply).1 hstatus
      · rename_i hstatus
        split
        · exact Program.Certified.done fun _ _ _ hreply => nomatch hreply
        · refine Program.Certified.done fun _ content header hreply => ?_
          exact absurd (DiscordReply.response.inj hreply).1 (by decide)
        · rename_i value hwebhook
          refine fun _ => ⟨trivial, fun token _ _ => ⟨trivial, fun createdAt _ _ => ⟨?_, ?_⟩⟩⟩
          · exact ⟨answer, by simp, Decidable.not_not.mp hstatus, hwebhook, by simp⟩
          · intro stored _
            cases stored with
            | error error => exact Program.Certified.done fun _ _ _ hreply => nomatch hreply
            | ok _ =>
                refine Program.Certified.done fun _ content header hreply => ?_
                refine ⟨token, value, createdAt, (DiscordReply.response.inj hreply).2.1.symm, ?_⟩
                simp

/-- The steps of a request to the tools: it looks its own token up, and sends messages to the
webhook that it has found. -/
def McpPermitted (scope : Scope) (history : List DiscordEvent) : DiscordOp → Prop
  | .lookupWebhook token => bearerToken scope.headers = .ok (some token)
  | .postWebhook url _ => ∃ token, bearerToken scope.headers = .ok (some token) ∧
    (⟨.lookupWebhook token, some url⟩ : DiscordEvent) ∈ history
  | .exchange _ | .tokenUrlsafe | .utcnowIso | .storeWebhook .. => False

theorem app_certified {history : List DiscordEvent} {url token : String}
    (htoken : bearerToken scope.headers = .ok (some token))
    (hfound : (⟨.lookupWebhook token, some url⟩ : DiscordEvent) ∈ history) :
    Program.Certified (McpPermitted scope) (fun _ _ _ => True) history (app.run (some url))
      fun _ _ => True := by
  induction app generalizing history with
  | finish => exact Program.Certified.done fun _ => trivial
  | sendMessage content next ih =>
      refine fun others => ⟨⟨token, htoken, List.mem_append_left _ hfound⟩, fun answer _ => ?_⟩
      exact ih (told answer) (List.mem_append_left _ (List.mem_append_left _ hfound))

/-- Without a webhook the tool sends nothing. -/
theorem app_without_webhook : app.run none = .done () := by
  induction app with
  | finish => rfl
  | sendMessage content next ih => exact ih _

theorem mcp_certified : Program.Certified (McpPermitted scope) (fun _ _ _ => True) []
    (callMiddleware override scope app) fun _ _ => True := by
  unfold callMiddleware
  split
  · rw [app_without_webhook]
    exact Program.Certified.done fun _ => trivial
  · split
    · exact Program.Certified.done fun _ => trivial
    · rename_i token htoken
      cases token with
      | none => exact Program.Certified.done fun _ => trivial
      | some token =>
          refine fun _ => ⟨htoken, fun found _ => ?_⟩
          cases found with
          | none => exact Program.Certified.done fun _ => trivial
          | some url =>
              show Program.Certified _ _ _
                ((app.run (some url)).bind fun _ => .done DiscordReply.served) _
              refine Program.Certified.bind (app_certified htoken ?_) fun _ _ _ => ?_
              · exact List.mem_append_right _ (List.mem_singleton_self _)
              · exact Program.Certified.done fun _ => trivial

/-- The application runs to its end: as many messages as calls, in their order. -/
theorem app_ends {url : String} {value : Unit}
    (h : Program.Ends (app.run (some url)) events value) :
    ∃ calls, events = calls.map (posted url) ∧ app.Calls calls := by
  induction app generalizing events with
  | finish =>
      obtain ⟨rfl, -⟩ := Program.ends_done_iff.mp h
      exact ⟨[], rfl, .finish⟩
  | sendMessage content next ih =>
      obtain ⟨answer, later, rfl, hlater⟩ := Program.ends_perform_iff.mp h
      obtain ⟨calls, rfl, hcalls⟩ := ih (told answer) hlater
      exact ⟨(content, answer) :: calls, rfl, .sendMessage hcalls⟩

/-- What becomes of a request to the tools. It is served if its token has a webhook: a message for
each call, in their order. Else it is refused, or it raises where the server does not know its own
URL, and it sends nothing. -/
def Handled (override : Option String) (scope : Scope) (app : McpApp) (events : List DiscordEvent)
    (reply : DiscordReply) : Prop :=
  match bearerToken scope.headers with
  | .error error => events = [] ∧ reply = .raised error
  | .ok none => events = [] ∧ reply = unauthorized override
  | .ok (some token) =>
    (∃ url calls, events = ⟨.lookupWebhook token, some url⟩ :: calls.map (posted url) ∧
      app.Calls calls ∧ reply = .served) ∨
    events = [⟨.lookupWebhook token, none⟩] ∧ reply = unauthorized override

/-- A request to the tools that has come to its end. -/
theorem mcp_handled {reply : DiscordReply} (hhttp : scope.type = "http")
    (h : Program.Ends (callMiddleware override scope app) events reply) :
    Handled override scope app events reply := by
  unfold callMiddleware at h
  rw [if_neg (not_not.mpr hhttp)] at h
  unfold Handled
  cases htoken : bearerToken scope.headers with
  | error error =>
      rw [htoken] at h
      exact Program.ends_done_iff.mp h
  | ok token =>
      rw [htoken] at h
      cases token with
      | none => exact Program.ends_done_iff.mp h
      | some token =>
          obtain ⟨found, later, rfl, hlater⟩ := Program.ends_perform_iff.mp h
          cases found with
          | none =>
              obtain ⟨rfl, hreply⟩ := Program.ends_done_iff.mp hlater
              exact .inr ⟨rfl, hreply⟩
          | some url =>
              have hthrough : Program.Ends
                  ((app.run (some url)).bind fun _ => .done DiscordReply.served) later reply :=
                hlater
              obtain ⟨first, _, second, rfl, happ, hdone⟩ := Program.ends_bind_iff.mp hthrough
              obtain ⟨rfl, hreply⟩ := Program.ends_done_iff.mp hdone
              obtain ⟨calls, rfl, hcalls⟩ := app_ends happ
              exact .inl ⟨url, calls, by rw [List.append_nil], hcalls, hreply⟩

/-- Whoever was not refused was served with the webhook of a token. -/
theorem Handled.served (h : Handled override scope app events .served) :
    ∃ token url calls, bearerToken scope.headers = .ok (some token) ∧
      events = ⟨.lookupWebhook token, some url⟩ :: calls.map (posted url) ∧ app.Calls calls := by
  have hrefused : DiscordReply.served ≠ unauthorized override := by
    unfold unauthorized
    split <;> nofun
  unfold Handled at h
  split at h
  · cases h.2
  · exact absurd h.2 hrefused
  · rename_i token htoken
    rcases h with ⟨url, calls, hevents, hcalls, -⟩ | ⟨-, hreply⟩
    · exact ⟨token, url, calls, htoken, hevents, hcalls⟩
    · exact absurd hreply hrefused

/-- A request whose token was found is served. -/
theorem Handled.of_found {reply : DiscordReply} (h : Handled override scope app events reply)
    {token url : String}
    (hfound : (⟨.lookupWebhook token, some url⟩ : DiscordEvent) ∈ events) : reply = .served := by
  unfold Handled at h
  split at h
  · rw [h.1] at hfound
    cases hfound
  · rw [h.1] at hfound
    cases hfound
  · rcases h with ⟨_, _, -, -, hreply⟩ | ⟨hevents, -⟩
    · exact hreply
    · rw [hevents] at hfound
      cases List.mem_singleton.mp hfound

/-- Only a request over HTTP looks a token up. -/
theorem http_of_event {event : DiscordEvent} {program : DiscordProgram DiscordReply}
    (h : Program.Run (callMiddleware override scope app) events program)
    (hevent : event ∈ events) : scope.type = "http" := by
  by_contra hother
  unfold callMiddleware at h
  rw [if_pos hother, app_without_webhook] at h
  rw [(Program.run_done_iff.mp h).1] at hevent
  cases hevent

end

/-! ## What the store holds -/

section

variable {ι : Type} {python : Python} {realText : Int → Int → String} {table next : WebhookTable}
  {history : List (ι × DiscordEvent)}

/-- How a row comes into the table: under a token that it does not have yet. -/
theorem store_webhook_cases {token createdAt : String} {value : Json}
    (h : storeWebhook python realText table token value createdAt = .ok next) :
    ∃ url, OAuthFlow.columnText python realText value = .ok (some url) ∧ table.get? token = none ∧
      next = table.set token (url, createdAt) := by
  unfold storeWebhook at h
  cases hcolumn : OAuthFlow.columnText python realText value with
  | error error =>
      rw [hcolumn] at h
      cases h
  | ok text =>
      rw [hcolumn] at h
      cases text with
      | none => cases h
      | some url =>
          cases hrow : table.get? token with
          | some row =>
              simp only [hrow] at h
              cases h
          | none =>
              simp only [hrow] at h
              cases h
              exact ⟨url, rfl, rfl, rfl⟩

/-- The webhook was stored under the token. -/
def StoredUnder (python : Python) (realText : Int → Int → String)
    (history : List (ι × DiscordEvent)) (token url : String) : Prop :=
  ∃ thread value createdAt, (thread, (⟨.storeWebhook token value createdAt, .ok ()⟩ :
    DiscordEvent)) ∈ history ∧ OAuthFlow.columnText python realText value = .ok (some url)

/-- The table has what was stored, and has answered what was stored before. -/
structure StoreInvariant (python : Python) (realText : Int → Int → String) (table : WebhookTable)
    (history : List (ι × DiscordEvent)) : Prop where
  stored : ∀ token url, lookupWebhook table token = some url ↔
    StoredUnder python realText history token url
  answered : ∀ before thread token response after,
    history = before ++ (thread, (⟨.lookupWebhook token, response⟩ : DiscordEvent)) :: after →
    ∀ url, response = some url ↔ StoredUnder python realText before token url

theorem stored_under_concat {thread : ι} {event : DiscordEvent} {token url : String} :
    StoredUnder python realText (history ++ [(thread, event)]) token url ↔
      StoredUnder python realText history token url ∨
      ∃ value createdAt, event = ⟨.storeWebhook token value createdAt, .ok ()⟩ ∧
        OAuthFlow.columnText python realText value = .ok (some url) := by
  constructor
  · rintro ⟨other, value, createdAt, hmem, hcolumn⟩
    rcases List.mem_append.mp hmem with hold | hnew
    · exact .inl ⟨other, value, createdAt, hold, hcolumn⟩
    · cases List.mem_singleton.mp hnew
      exact .inr ⟨value, createdAt, rfl, hcolumn⟩
  · rintro (⟨other, value, createdAt, hmem, hcolumn⟩ | ⟨value, createdAt, rfl, hcolumn⟩)
    · exact ⟨other, value, createdAt, List.mem_append_left _ hmem, hcolumn⟩
    · exact ⟨thread, value, createdAt, by simp, hcolumn⟩

/-- What does not store leaves the table as it is. -/
theorem StoreInvariant.keep (h : StoreInvariant python realText table history) {thread : ι}
    {event : DiscordEvent}
    (hstore : ∀ token value createdAt, event ≠ ⟨.storeWebhook token value createdAt, .ok ()⟩)
    (hlookup : ∀ token response, event = ⟨.lookupWebhook token, response⟩ →
      response = lookupWebhook table token) :
    StoreInvariant python realText table (history ++ [(thread, event)]) where
  stored token url := by
    rw [stored_under_concat, h.stored]
    refine ⟨.inl, ?_⟩
    rintro (hold | ⟨value, createdAt, hevent, -⟩)
    · exact hold
    · exact absurd hevent (hstore _ _ _)
  answered before other token response after hsplit url := by
    rcases Pool.split_concat hsplit with ⟨rfl, hlast⟩ | ⟨rest, hrest⟩
    · cases hlast
      rw [hlookup token response rfl]
      exact h.stored token url
    · exact h.answered before other token response rest hrest url

theorem StoreInvariant.effect (h : StoreInvariant python realText table history) {thread : ι}
    {event : DiscordEvent} (heffect : discordEffect python realText table event next) :
    StoreInvariant python realText next (history ++ [(thread, event)]) := by
  obtain ⟨op, response⟩ := event
  cases op with
  | exchange form =>
      cases heffect
      exact h.keep nofun nofun
  | tokenUrlsafe =>
      cases heffect
      exact h.keep nofun nofun
  | utcnowIso =>
      cases heffect
      exact h.keep nofun nofun
  | postWebhook url content =>
      cases heffect
      exact h.keep nofun nofun
  | lookupWebhook token =>
      obtain ⟨hresponse, rfl⟩ := heffect
      refine h.keep nofun fun other answer hevent => ?_
      cases hevent
      exact hresponse
  | storeWebhook token value createdAt =>
      cases response with
      | error error =>
          obtain ⟨-, rfl⟩ := heffect
          exact h.keep nofun nofun
      | ok _ =>
          obtain ⟨url, hcolumn, hnone, rfl⟩ := store_webhook_cases heffect
          have hempty : ∀ other, ¬ StoredUnder python realText history token other := by
            intro other hstored
            have hlookup := (h.stored token other).mpr hstored
            unfold lookupWebhook at hlookup
            rw [hnone] at hlookup
            cases hlookup
          refine ⟨fun other found => ?_, fun before looking looked answer after hsplit => ?_⟩
          · rw [stored_under_concat, ← h.stored]
            unfold lookupWebhook
            rw [Dict.get?_set]
            by_cases hsame : other = token
            · subst hsame
              rw [if_pos rfl, hnone]
              constructor
              · intro hfound
                cases hfound
                exact .inr ⟨value, createdAt, rfl, hcolumn⟩
              · rintro (hfound | ⟨stored, at', hevent, hstored⟩)
                · cases hfound
                · cases hevent
                  rw [hcolumn] at hstored
                  cases hstored
                  rfl
            · rw [if_neg hsame]
              refine ⟨.inl, ?_⟩
              rintro (hfound | ⟨stored, at', hevent, -⟩)
              · exact hfound
              · cases hevent
                exact absurd rfl hsame
          · rcases Pool.split_concat hsplit with ⟨-, hlast⟩ | ⟨rest, hrest⟩
            · cases hlast
            · exact h.answered before looking looked answer rest hrest

end

/-! ## Every interleaving -/

section

variable {ι : Type} [DecidableEq ι]

/-- Requests at work. -/
abbrev DiscordPool (ι : Type) := Pool ι DiscordOp DiscordRes DiscordReply WebhookTable

/-- The requests to a server whose table is empty. -/
def startServer (override : Option String) (threads : ι → DiscordThread) : DiscordPool ι where
  threads thread := (threads thread).program override
  state := .empty

/-- The token is for this webhook: a request to `/token` has drawn it, has been answered the webhook
by Discord, for the consent of its form, and has stored it. -/
def Opened (python : Python) (realText : Int → Int → String) (threads : ι → DiscordThread)
    (pool : DiscordPool ι) (token url : String) : Prop :=
  ∃ thread form answer value createdAt, threads thread = .token form ∧
    (⟨.exchange form, .ok answer⟩ : DiscordEvent) ∈ pool.eventsOf thread ∧
    answer.status = 200 ∧ webhookUrl (safeJson answer) = .ok (some value) ∧
    OAuthFlow.columnText python realText value = .ok (some url) ∧
    (⟨.tokenUrlsafe, token⟩ : DiscordEvent) ∈ pool.eventsOf thread ∧
    (⟨.storeWebhook token value createdAt, .ok ()⟩ : DiscordEvent) ∈ pool.eventsOf thread

/-- Whom messages reach, and who is let through. -/
structure OwnChannels (python : Python) (realText : Int → Int → String) (override : Option String)
    (threads : ι → DiscordThread) (pool : DiscordPool ι) : Prop where
  delivered : ∀ thread url content answer,
    (⟨.postWebhook url content, answer⟩ : DiscordEvent) ∈ pool.eventsOf thread →
    ∃ scope app token, threads thread = .mcp scope app ∧
      bearerToken scope.headers = .ok (some token) ∧ Opened python realText threads pool token url
  single : ∀ token url url', Opened python realText threads pool token url →
    Opened python realText threads pool token url' → url = url'
  served : ∀ thread scope app, threads thread = .mcp scope app → scope.type = "http" →
    pool.threads thread = .done .served →
    ∃ token url calls, bearerToken scope.headers = .ok (some token) ∧
      Opened python realText threads pool token url ∧ app.Calls calls ∧
      pool.eventsOf thread = ⟨.lookupWebhook token, some url⟩ :: calls.map (posted url)
  handled : ∀ thread scope app reply, threads thread = .mcp scope app → scope.type = "http" →
    pool.threads thread = .done reply → Handled override scope app (pool.eventsOf thread) reply
  accepted : ∀ thread form content header, threads thread = .token form →
    pool.threads thread = .done (.response 200 content header) →
    ∃ token url value createdAt, content = issued token ∧
      Opened python realText threads pool token url ∧
      (⟨.storeWebhook token value createdAt, .ok ()⟩ : DiscordEvent) ∈ pool.eventsOf thread ∧
      ∀ before looking response after, pool.history = before ++
          (looking, (⟨.lookupWebhook token, response⟩ : DiscordEvent)) :: after →
        (thread, (⟨.storeWebhook token value createdAt, .ok ()⟩ : DiscordEvent)) ∈ before →
        response = some url ∧ ∀ reply, pool.threads looking = .done reply → reply = .served

variable {python : Python} {realText : Int → Int → String} {override : Option String}
  {threads : ι → DiscordThread} {pool : DiscordPool ι}

/-- The store keeps its invariant in every interleaving. -/
theorem store_invariant
    (hreach : Pool.Reachable (discordEffect python realText) (startServer override threads) pool) :
    StoreInvariant python realText pool.state pool.history := by
  refine Pool.Reachable.keeps (fun thread state history event state' h => h.effect) ?_ hreach
  refine ⟨fun token url => ⟨nofun, ?_⟩, fun before _ _ _ _ hsplit => ?_⟩
  · rintro ⟨_, _, _, hmem, -⟩
    cases hmem
  · cases before <;> cases hsplit

/-- A request to `/token` has made a run of its own. -/
theorem token_run
    (hreach : Pool.Reachable (discordEffect python realText) (startServer override threads) pool)
    {thread : ι} {form : Dict String String} (hthread : threads thread = .token form) :
    Program.Run (tokenProxy form) (pool.eventsOf thread) (pool.threads thread) := by
  have hrun := hreach.thread_run rfl thread
  have hprogram : (startServer override threads).threads thread = tokenProxy form := by
    show (threads thread).program override = _
    rw [hthread]
    rfl
  rwa [hprogram] at hrun

/-- A request to the tools has made a run of its own. -/
theorem mcp_run
    (hreach : Pool.Reachable (discordEffect python realText) (startServer override threads) pool)
    {thread : ι} {scope : Scope} {app : McpApp} (hthread : threads thread = .mcp scope app) :
    Program.Run (callMiddleware override scope app) (pool.eventsOf thread)
      (pool.threads thread) := by
  have hrun := hreach.thread_run rfl thread
  have hprogram : (startServer override threads).threads thread =
      callMiddleware override scope app := by
    show (threads thread).program override = _
    rw [hthread]
    rfl
  rwa [hprogram] at hrun

/-- What was stored was stored by a request to `/token`, for what it was answered. -/
theorem opened_of_stored
    (hreach : Pool.Reachable (discordEffect python realText) (startServer override threads) pool)
    {token url : String} (h : StoredUnder python realText pool.history token url) :
    Opened python realText threads pool token url := by
  obtain ⟨thread, value, createdAt, hmem, hcolumn⟩ := h
  have hevent := Pool.mem_eventsOf.mpr hmem
  obtain ⟨earlier, later, hsplit⟩ := List.append_of_mem hevent
  cases hthread : threads thread with
  | token form =>
      have hcertified := token_certified.run (token_run hreach hthread) fun _ _ _ _ => trivial
      obtain ⟨answer, hexchanged, hstatus, hwebhook, hdrawn⟩ :=
        hcertified.1 earlier _ later hsplit
      rw [List.nil_append] at hexchanged hdrawn
      have hearlier : ∀ event ∈ earlier, event ∈ pool.eventsOf thread := fun event hmem =>
        hsplit ▸ List.mem_append_left _ hmem
      exact ⟨thread, form, answer, value, createdAt, hthread, hearlier _ hexchanged, hstatus,
        hwebhook, hcolumn, hearlier _ hdrawn, hevent⟩
  | mcp scope app =>
      have hcertified := mcp_certified.run (mcp_run hreach hthread) fun _ _ _ _ => trivial
      exact (hcertified.1 earlier _ later hsplit).elim

theorem Opened.stored {token url : String} (h : Opened python realText threads pool token url) :
    StoredUnder python realText pool.history token url := by
  obtain ⟨thread, _, _, value, createdAt, -, -, -, -, hcolumn, -, hstored⟩ := h
  exact ⟨thread, value, createdAt, Pool.mem_eventsOf.mp hstored, hcolumn⟩

/-- A webhook that a lookup has found was opened for the token. -/
theorem opened_of_lookup
    (hreach : Pool.Reachable (discordEffect python realText) (startServer override threads) pool)
    {thread : ι} {token url : String}
    (h : (⟨.lookupWebhook token, some url⟩ : DiscordEvent) ∈ pool.eventsOf thread) :
    Opened python realText threads pool token url := by
  obtain ⟨before, after, hsplit⟩ := List.append_of_mem (Pool.mem_eventsOf.mp h)
  have hstored := ((store_invariant hreach).answered before thread token _ after hsplit url).mp rfl
  obtain ⟨storing, value, createdAt, hmem, hcolumn⟩ := hstored
  refine opened_of_stored hreach ⟨storing, value, createdAt, ?_, hcolumn⟩
  rw [hsplit]
  exact List.mem_append_left _ hmem

end

/-! ### A message is sent -/

/-- Somebody connects a channel and sends a message to it. -/
inductive PetsRequest where
  | connects | sends
  deriving DecidableEq

def petsRequests : PetsRequest → DiscordThread
  | .connects => .token (.ofList [("code", "consent")])
  | .sends => .mcp ⟨"http", [("authorization", some "Bearer t1")]⟩
      (.sendMessage "hello" fun _ => .finish)

/-- Discord answers a webhook and takes every message; the token that is drawn is `t1`. -/
def petsRespond (table : WebhookTable) :
    (op : DiscordOp) → Option (DiscordRes op × WebhookTable)
  | .exchange _ =>
    some (.ok ⟨200, "", some (.obj [("webhook", .obj [("url", .str "pets")])])⟩, table)
  | .tokenUrlsafe => some ("t1", table)
  | .utcnowIso => some ("2026-01-01", table)
  | .storeWebhook token value createdAt =>
    match storeWebhook plainPython (fun _ _ => "0.0") table token value createdAt with
    | .error error => some (.error error, table)
    | .ok next => some (.ok (), next)
  | .lookupWebhook token => some (lookupWebhook table token, table)
  | .postWebhook _ _ => some (.ok ⟨204, "", none⟩, table)

theorem pets_respond_effect {table next : WebhookTable} {op : DiscordOp} {response : DiscordRes op}
    (h : petsRespond table op = some (response, next)) :
    discordEffect plainPython (fun _ _ => "0.0") table ⟨op, response⟩ next := by
  cases op with
  | storeWebhook token value createdAt =>
      simp only [petsRespond] at h
      split at h
      · rename_i error herror
        cases h
        exact ⟨herror, rfl⟩
      · rename_i stored hstored
        cases h
        exact hstored
  | lookupWebhook token =>
      cases h
      exact ⟨rfl, rfl⟩
  | exchange form =>
      cases h
      rfl
  | tokenUrlsafe =>
      cases h
      rfl
  | utcnowIso =>
      cases h
      rfl
  | postWebhook url content =>
      cases h
      rfl

/-- The channel is connected, then the message is sent. -/
def petsSchedule : List PetsRequest :=
  List.replicate 4 .connects ++ List.replicate 2 .sends

end DiscordServer

end AgentGraphStudio
