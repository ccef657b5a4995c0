import AgentGraphStudio.Nodes.Builtin

/-!
# Calling a tool of a remote server

`call_tool` of `backend/mcp/remote_client.py`. A call goes through a session of the MCP SDK. When
that fails with any exception other than `McpConnectionError`, the client starts again by hand:
`_manual_streamable_http_request` initializes a session and posts the call itself. The SDK and the
server are a `RemoteServer`, which answers every operation and says whether a request has reached
it. `call_tool_at_most_once_iff` says when a tool call reaches the server at most once.
-/

namespace AgentGraphStudio

/-! ## Operations -/

/-- What the client raises. `cancelled` stands for the cancellation that `wait_for` raises inside
the call when the time is up; no `except Exception` catches it. -/
inductive RemoteRaised where
  | mcpConnectionError (message : String)
  | exception (message : String)
  | cancelled
  deriving DecidableEq

/-- A part of the content of a tool result: a text, or something else. -/
inductive ContentBlock where
  | text (text : String)
  | other
  deriving DecidableEq

/-- The result of a tool call as the SDK returns it. -/
structure CallToolResult where
  isError : Bool
  content : List ContentBlock

/-- An HTTP response. -/
structure HttpResponse where
  status : Nat
  headers : Dict String String
  text : String

/-- A step of the SDK's session, whose end is `close`, or a request of the client's own. -/
inductive RemoteOp where
  | connect (url : String) (headers : Dict String String)
  | initializeSession
  | callTool (toolName : String) (arguments : Config)
  | close
  | post (url : String) (headers : Dict String String) (body : Config)

/-- The answer to a request, and whether the request has reached the server. A request may have
reached it although its answer is an exception. -/
structure Delivery (α : Type) where
  delivered : Bool
  answer : Except RemoteRaised α

/-- The answer to an operation. -/
abbrev RemoteOp.Response : RemoteOp → Type
  | .connect _ _ | .initializeSession | .close => Except RemoteRaised Unit
  | .callTool _ _ => Delivery CallToolResult
  | .post _ _ _ => Delivery HttpResponse

/-- A behaviour of the SDK and of the server. No operation occurs twice in a call. -/
abbrev RemoteServer := (op : RemoteOp) → op.Response

/-- A part of a call. -/
abbrev Remote (α : Type) := ExceptT RemoteRaised (Program RemoteOp RemoteOp.Response) α

namespace Remote

/-- A value, or a raised exception. -/
def ofExcept {α : Type} (value : Except RemoteRaised α) : Remote α := ExceptT.mk (pure value)

/-- Perform an operation whose answer may be an exception. -/
def perform (op : RemoteOp) {α : Type} (answer : op.Response → Except RemoteRaised α) : Remote α :=
  ExceptT.mk ((Program.op op).bind fun response => .done (answer response))

/-- Send a request of the client's own. -/
def post (url : String) (headers : Dict String String) (body : Config) : Remote HttpResponse :=
  perform (.post url headers body) Delivery.answer

end Remote

/-! ## The session of the SDK -/

/-- The texts of a result, one below the other. -/
def contentToText (content : List ContentBlock) : Except RemoteRaised String :=
  let texts := content.filterMap fun
    | .text text => some text
    | .other => none
  if texts = [] then
    .error (.mcpConnectionError
      "MCP tool result had no text content (non-text content is not supported for MVP)")
  else .ok ("\n".intercalate texts)

/-- The text of a result, unless the tool reports an error. -/
def callToolText (toolName : String) (result : CallToolResult) : Except RemoteRaised String := do
  let text ← contentToText result.content
  if result.isError then
    .error (.mcpConnectionError s!"MCP tool '{toolName}' returned an error: {text}")
  else pure text

section

variable (url toolName : String) (arguments : Config) (headers : Dict String String)

/-- Call the tool in a session. -/
def callInSession : Remote String := do
  Remote.perform (.connect url headers) id
  Remote.perform .initializeSession id
  let result ← Remote.perform (.callTool toolName arguments) Delivery.answer
  Remote.perform .close id
  Remote.ofExcept (callToolText toolName result)

end

/-! ## The requests of the client -/

/-- Does this character end a line? -/
def isLineBreak (char : Char) : Bool :=
  char.toNat ∈ [0x0a, 0x0b, 0x0c, 0x0d, 0x1c, 0x1d, 0x1e, 0x85, 0x2028, 0x2029]

/-- The lines of a text whose current line starts with these characters, in reverse. -/
def splitlinesFrom (current : List Char) : List Char → List String
  | [] => if current = [] then [] else [String.ofList current.reverse]
  | '\r' :: '\n' :: rest => String.ofList current.reverse :: splitlinesFrom [] rest
  | char :: rest =>
    if isLineBreak char then String.ofList current.reverse :: splitlinesFrom [] rest
    else splitlinesFrom (char :: current) rest

/-- The lines of a text. -/
def splitlines (text : String) : List String := splitlinesFrom [] text.toList

section

variable (python : Python)

/-- The JSON of a response body, which is an event stream or plain JSON. -/
def parseStreamableHttpBody (text : String) : Except RemoteRaised Json :=
  let payload := match (splitlines text).find? ("data:".isPrefixOf ·) with
    | some line => python.strip (line.drop "data:".length).toString
    | none => text
  (python.jsonLoads payload).mapError .exception

/-- What a lookup in a JSON value raises. -/
def RemoteRaised.ofLookup : Raised → RemoteRaised
  | .exception message | .baseException message => .exception message
  | .unprintable raised => .ofLookup raised

/-- The value under a key of a JSON value that should be an object. -/
def fieldOf (name : String) (value : Json) : Except RemoteRaised Json :=
  ((Inputs.ofJson value).get name).mapError .ofLookup

/-- The result in a response to a call. -/
def resultOf (method : String) (response : Json) : Except RemoteRaised Json := do
  let failed ← ((Inputs.ofJson response).contains "error").mapError RemoteRaised.ofLookup
  if failed then
    let error ← fieldOf "error" response
    .error (.mcpConnectionError s!"{method} failed: {python.str error}")
  else fieldOf "result" response

end

/-- Responses outside 200 to 299 are refused. -/
def HttpResponse.isSuccess (response : HttpResponse) : Bool :=
  200 ≤ response.status ∧ response.status ≤ 299

/-- Refuse a response without success. -/
def raiseForStatus (response : HttpResponse) : Except RemoteRaised Unit :=
  if response.isSuccess then .ok () else .error (.exception s!"HTTP status {response.status}")

/-- The headers of the first request. -/
def requestHeaders (headers : Dict String String) : Dict String String :=
  headers.update [("Content-Type", "application/json"),
    ("Accept", "application/json, text/event-stream")]

/-- The headers of the later requests, which carry the session id. -/
def sessionHeaders (headers : Dict String String) (response : HttpResponse) :
    Dict String String :=
  match response.headers.get? "mcp-session-id" with
  | none | some "" => requestHeaders headers
  | some sessionId => (requestHeaders headers).set "Mcp-Session-Id" sessionId

/-- The request that opens a session. -/
def initializeBody : Config :=
  .ofList [("jsonrpc", .str "2.0"), ("id", .int 1), ("method", .str "initialize"),
    ("params", .obj [("protocolVersion", .str "2025-06-18"), ("capabilities", .obj []),
      ("clientInfo", .obj [("name", .str "agent-graph-studio"), ("version", .str "1.0")])])]

/-- The notification that the session is open. -/
def initializedBody : Config :=
  .ofList [("jsonrpc", .str "2.0"), ("method", .str "notifications/initialized")]

/-- The request of a method. -/
def methodBody (method : String) (params : Config) : Config :=
  .ofList [("jsonrpc", .str "2.0"), ("id", .int 2), ("method", .str method),
    ("params", .obj params.entries)]

section

variable (python : Python) (url : String) (headers : Dict String String)

/-- Open a session and request a method, one request after the other
(`_manual_streamable_http_request`). -/
def manualStreamableHttpRequest (method : String) (params : Config) : Remote Json := do
  let initResponse ← Remote.post url (requestHeaders headers) initializeBody
  Remote.ofExcept (raiseForStatus initResponse)
  let notifyResponse ← Remote.post url (sessionHeaders headers initResponse) initializedBody
  Remote.ofExcept (raiseForStatus notifyResponse)
  let callResponse ← Remote.post url (sessionHeaders headers initResponse)
    (methodBody method params)
  Remote.ofExcept (raiseForStatus callResponse)
  Remote.ofExcept (parseStreamableHttpBody python callResponse.text >>= resultOf python method)

/-- `bool(value)`. -/
def truthy : Json → Bool
  | .null => false
  | .bool value => value
  | .int value => value ≠ 0
  | .float mantissa _ => mantissa ≠ 0
  | .str text => text ≠ ""
  | .arr items => items ≠ []
  | .obj fields => fields ≠ []

/-- The text of a block of content, if it is one of text. -/
def rawBlockText (block : Json) : Except RemoteRaised (Option String) :=
  match block.obj? with
  | none => .error (.exception "object has no attribute 'get'")
  | some fields =>
    if fields.get? "type" = some (.str "text") then
      match fields.get? "text" with
      | none => .error (.exception "'text'")
      | some (.str text) => .ok (some text)
      | some _ => .error (.exception "sequence item: expected str instance")
    else .ok none

/-- The texts of a content that came as JSON, one below the other. -/
def rawContentToText (content : Json) : Except RemoteRaised String := do
  let texts ← match content with
    | .arr blocks => blocks.mapM rawBlockText
    | .obj [] | .str "" => .ok []
    | .obj _ | .str _ => .error (.exception "'str' object has no attribute 'get'")
    | _ => .error (.exception "object is not iterable")
  if texts.reduceOption = [] then
    .error (.mcpConnectionError
      "MCP tool result had no text content (non-text content is not supported for MVP)")
  else pure ("\n".intercalate texts.reduceOption)

/-- The text of a result that came as JSON, unless the tool reports an error. -/
def rawResultText (toolName : String) (result : Json) : Except RemoteRaised String :=
  match result.obj? with
  | none => .error (.exception "object has no attribute 'get'")
  | some fields => do
    let content ← fieldOf "content" result
    let text ← rawContentToText content
    if truthy (fields.getD "isError" .null) then
      .error (.mcpConnectionError s!"MCP tool '{toolName}' returned an error: {text}")
    else pure text

end

/-! ## The call -/

section

variable (python : Python) (url toolName : String) (arguments : Config)
  (headers : Dict String String)

/-- Call the tool by hand. -/
def callByHand : Remote String := do
  let result ← manualStreamableHttpRequest python url headers "tools/call"
    (.ofList [("name", .str toolName), ("arguments", .obj arguments.entries)])
  Remote.ofExcept (rawResultText toolName result)

/-- Call the tool in a session, or else by hand (`_call_tool_async`). -/
def callToolAsync : Remote String :=
  ExceptT.mk ((callInSession url toolName arguments headers).run.bind fun
    | .error (.exception _) => (callByHand python url toolName arguments headers).run
    | ending => .done ending)

/-- Call the tool of a remote server. -/
def callTool : Remote String :=
  ExceptT.mk ((callToolAsync python url toolName arguments headers).run.bind fun
    | .error (.exception e) => .done (.error (.mcpConnectionError
      s!"Remote MCP tool call to '{toolName}' failed: {e}"))
    | .error .cancelled => .done (.error (.mcpConnectionError
      s!"Remote MCP tool call to '{toolName}' failed: "))
    | ending => .done ending)

end

/-! ## What reaches the server -/

/-- Did the server get a tool call? -/
def deliversCall : Event RemoteOp RemoteOp.Response → Bool
  | ⟨.callTool _ _, delivery⟩ => delivery.delivered
  | ⟨.post _ _ body, delivery⟩ =>
    body.get? "method" = some (.str "tools/call") ∧ delivery.delivered
  | _ => false

section

variable {α β : Type} (server : RemoteServer)

/-- How a part of a call ends with this server. -/
def Remote.outcome (act : Remote α) : Except RemoteRaised α := (act.run.play server).2

/-- How many tool calls reach the server. -/
def Remote.deliveries (act : Remote α) : Nat := (act.run.play server).1.countP deliversCall

variable {server} {act : Remote α} {f : α → Remote β}

theorem Remote.run_bind_play :
    (act >>= f).run.play server = ((act.run.play server).1 ++
        match act.outcome server with
        | .ok value => ((f value).run.play server).1
        | .error _ => [],
      match act.outcome server with
      | .ok value => (f value).outcome server
      | .error raised => .error raised) := by
  unfold Remote.outcome
  show (act.run.bind (ExceptT.bindCont f)).play server = _
  rw [Program.play_bind]
  cases (act.run.play server).2 <;> rfl

/-- What follows a part is done only if that part ends with a value. -/
theorem Remote.outcome_bind : (act >>= f).outcome server =
    match act.outcome server with
    | .ok value => (f value).outcome server
    | .error raised => .error raised := congrArg Prod.snd Remote.run_bind_play

theorem Remote.deliveries_bind : (act >>= f).deliveries server = act.deliveries server +
    match act.outcome server with
    | .ok value => (f value).deliveries server
    | .error _ => 0 := by
  unfold Remote.deliveries
  rw [Remote.run_bind_play, List.countP_append]
  cases act.outcome server <;> rfl

@[simp] theorem Remote.outcome_perform {op : RemoteOp}
    {answer : op.Response → Except RemoteRaised α} :
    (Remote.perform op answer).outcome server = answer (server op) := rfl

theorem Remote.deliveries_perform {op : RemoteOp}
    {answer : op.Response → Except RemoteRaised α} :
    (Remote.perform op answer).deliveries server = (deliversCall ⟨op, server op⟩).toNat := by
  show List.countP deliversCall [⟨op, server op⟩] = _
  rw [List.countP_singleton]
  cases deliversCall ⟨op, server op⟩ <;> rfl

@[simp] theorem Remote.outcome_ofExcept {value : Except RemoteRaised α} :
    (Remote.ofExcept value).outcome server = value := rfl

@[simp] theorem Remote.deliveries_ofExcept {value : Except RemoteRaised α} :
    (Remote.ofExcept value).deliveries server = 0 := rfl

end

/-! ### The call in the session -/

section

variable (server : RemoteServer) (url toolName : String) (arguments : Config)
  (headers : Dict String String)

/-- The session is opened and its tool call reaches the server. -/
structure SessionDelivers : Prop where
  connected : server (.connect url headers) = .ok ()
  opened : server .initializeSession = .ok ()
  delivered : (server (.callTool toolName arguments)).delivered = true

/-- The tool call or the end of the session raises an exception other than `McpConnectionError`,
and the time is not up. -/
def SessionBreaks : Prop :=
  (∃ e, (server (.callTool toolName arguments)).answer = .error (.exception e)) ∨
    ∃ result e, (server (.callTool toolName arguments)).answer = .ok result ∧
      server .close = .error (.exception e)

variable {server url toolName arguments headers}

/-- The text of a result is read without starting again. -/
theorem call_tool_text_ne (toolName : String) (result : CallToolResult) (e : String) :
    callToolText toolName result ≠ .error (.exception e) := by
  unfold callToolText contentToText
  dsimp only
  split
  · exact nofun
  · show (if result.isError then _ else _) ≠ _
    split <;> exact nofun

/-- The session sends at most the one tool call. -/
theorem deliveries_session :
    (callInSession url toolName arguments headers).deliveries server ≤ 1 ∧
    ((callInSession url toolName arguments headers).deliveries server = 1 ↔
      SessionDelivers server url toolName arguments headers) := by
  unfold callInSession
  simp only [Remote.deliveries_bind, Remote.deliveries_perform, Remote.outcome_perform,
    Remote.deliveries_ofExcept, deliversCall, id]
  cases hconnect : server (.connect url headers) with
  | error raised =>
      refine ⟨by simp, by simp, fun h => ?_⟩
      rw [h.connected] at hconnect
      cases hconnect
  | ok connected =>
      cases hopen : server .initializeSession with
      | error raised =>
          refine ⟨by simp, by simp, fun h => ?_⟩
          rw [h.opened] at hopen
          cases hopen
      | ok opened =>
          have hdelivers : SessionDelivers server url toolName arguments headers ↔
              (server (.callTool toolName arguments)).delivered = true :=
            ⟨fun h => h.delivered, fun h => ⟨hconnect, hopen, h⟩⟩
          rw [hdelivers]
          cases (server (.callTool toolName arguments)).answer <;>
            cases (server (.callTool toolName arguments)).delivered <;>
            cases server .close <;> simp

/-- Once its call has reached the server, the session ends with such an exception if it breaks. -/
theorem session_outcome (h : SessionDelivers server url toolName arguments headers) :
    (∃ e, (callInSession url toolName arguments headers).outcome server =
      .error (.exception e)) ↔ SessionBreaks server toolName arguments := by
  unfold callInSession SessionBreaks
  simp only [Remote.outcome_bind, Remote.outcome_perform, Remote.outcome_ofExcept, id,
    h.connected, h.opened]
  cases hanswer : (server (.callTool toolName arguments)).answer with
  | error raised => simp
  | ok result =>
      cases hclose : server .close with
      | error raised => simp
      | ok closed => simp [call_tool_text_ne]

/-! ### The call by hand -/

variable (server url toolName arguments headers) in
/-- The server opens a session by hand, and the tool call that follows reaches it. -/
def HandDelivers : Prop :=
  ∃ opened, (server (.post url (requestHeaders headers) initializeBody)).answer = .ok opened ∧
    opened.isSuccess = true ∧
    ∃ notified, (server (.post url (sessionHeaders headers opened) initializedBody)).answer =
      .ok notified ∧ notified.isSuccess = true ∧
    (server (.post url (sessionHeaders headers opened) (methodBody "tools/call"
      (.ofList [("name", .str toolName), ("arguments", .obj arguments.entries)])))).delivered = true

theorem raise_for_status_eq_ok {response : HttpResponse} {value : Unit}
    (h : raiseForStatus response = .ok value) : response.isSuccess = true := by
  unfold raiseForStatus at h
  split at h
  · assumption
  · cases h

theorem raise_for_status_eq_error {response : HttpResponse} {raised : RemoteRaised}
    (h : raiseForStatus response = .error raised) : response.isSuccess ≠ true := by
  unfold raiseForStatus at h
  split at h
  · cases h
  · assumption

theorem deliversCall_initialize {delivery : Delivery HttpResponse} :
    deliversCall ⟨.post url headers initializeBody, delivery⟩ = false := rfl

theorem deliversCall_initialized {delivery : Delivery HttpResponse} :
    deliversCall ⟨.post url headers initializedBody, delivery⟩ = false := rfl

theorem deliversCall_tool {delivery : Delivery HttpResponse} {params : Config} :
    deliversCall ⟨.post url headers (methodBody "tools/call" params), delivery⟩ =
      delivery.delivered := by
  show decide (_ ∧ _) = _
  rw [show (methodBody "tools/call" params).get? "method" = some (.str "tools/call") from rfl]
  cases delivery.delivered <;> rfl

/-- By hand at most one tool call is sent. -/
theorem deliveries_by_hand {python : Python} :
    (callByHand python url toolName arguments headers).deliveries server ≤ 1 ∧
    ((callByHand python url toolName arguments headers).deliveries server = 1 ↔
      HandDelivers server url toolName arguments headers) := by
  unfold callByHand manualStreamableHttpRequest HandDelivers
  simp only [Remote.deliveries_bind, Remote.outcome_bind, Remote.post, Remote.deliveries_perform,
    Remote.outcome_perform, Remote.deliveries_ofExcept, Remote.outcome_ofExcept,
    deliversCall_initialize, deliversCall_initialized, deliversCall_tool]
  cases hopen : (server (.post url (requestHeaders headers) initializeBody)).answer with
  | error raised => simp
  | ok opened =>
      dsimp only
      cases hstatus : raiseForStatus opened with
      | error raised => simp [raise_for_status_eq_error hstatus]
      | ok status =>
          dsimp only
          cases hnotify :
              (server (.post url (sessionHeaders headers opened) initializedBody)).answer with
          | error raised => simp [raise_for_status_eq_ok hstatus, hnotify]
          | ok notified =>
              dsimp only
              cases hnotified : raiseForStatus notified with
              | error raised =>
                  simp [raise_for_status_eq_ok hstatus, hnotify,
                    raise_for_status_eq_error hnotified]
              | ok status =>
                  -- Both requests succeeded, so the tool call is sent; nothing follows it.
                  simp only [hnotify, raise_for_status_eq_ok hstatus,
                    raise_for_status_eq_ok hnotified, Except.ok.injEq, exists_eq_left', true_and]
                  generalize server (.post url (sessionHeaders headers opened) _) = call
                  obtain ⟨delivered, answer⟩ := call
                  cases answer with
                  | error raised => cases delivered <;> simp
                  | ok response =>
                      cases hreply : raiseForStatus response with
                      | error raised => cases delivered <;> simp [hreply]
                      | ok status =>
                          cases hresult : parseStreamableHttpBody python response.text >>=
                            resultOf python "tools/call" <;>
                          cases delivered <;> simp [hreply, hresult]

/-! ### The whole call -/

/-- The client starts again exactly if the session ends with such an exception. -/
theorem deliveries_call_tool {python : Python} :
    (callTool python url toolName arguments headers).deliveries server =
      (callInSession url toolName arguments headers).deliveries server +
        match (callInSession url toolName arguments headers).outcome server with
        | .error (.exception _) =>
          (callByHand python url toolName arguments headers).deliveries server
        | _ => 0 := by
  have hasync : (callToolAsync python url toolName arguments headers).deliveries server =
      (callInSession url toolName arguments headers).deliveries server +
        match (callInSession url toolName arguments headers).outcome server with
        | .error (.exception _) =>
          (callByHand python url toolName arguments headers).deliveries server
        | _ => 0 := by
    unfold Remote.deliveries Remote.outcome callToolAsync
    rw [ExceptT.run_mk, Program.play_bind, List.countP_append]
    congr 1
    split <;> rfl
  rw [← hasync]
  unfold Remote.deliveries callTool
  rw [ExceptT.run_mk, Program.play_bind, List.countP_append]
  -- What is left only translates the exception.
  refine Nat.add_eq_left.mpr ?_
  split <;> rfl

end

/-- At most one tool call reaches the server if and only if it is not the case that the session
breaks after its call has reached the server and the server takes the call by hand, too. -/
theorem call_tool_at_most_once_iff (python : Python) (server : RemoteServer)
    (url toolName : String) (arguments : Config) (headers : Dict String String) :
    (callTool python url toolName arguments headers).deliveries server ≤ 1 ↔
      ¬ (SessionDelivers server url toolName arguments headers ∧
        SessionBreaks server toolName arguments ∧
        HandDelivers server url toolName arguments headers) := by
  obtain ⟨hsession, hsessionIff⟩ := @deliveries_session server url toolName arguments headers
  obtain ⟨hhand, hhandIff⟩ := @deliveries_by_hand server url toolName arguments headers python
  rw [deliveries_call_tool]
  by_cases hdelivers : SessionDelivers server url toolName arguments headers
  · have hone := hsessionIff.mpr hdelivers
    by_cases hbreaks : SessionBreaks server toolName arguments
    · obtain ⟨e, houtcome⟩ := (session_outcome hdelivers).mpr hbreaks
      rw [houtcome, hone]
      simp only [hdelivers, hbreaks, true_and, ← hhandIff]
      omega
    · have hnone : ∀ e, (callInSession url toolName arguments headers).outcome server ≠
          .error (.exception e) := fun e he => hbreaks ((session_outcome hdelivers).mp ⟨e, he⟩)
      refine ⟨fun _ h => hbreaks h.2.1, fun _ => ?_⟩
      split
      · exact absurd ‹_› (hnone _)
      · omega
  · have hzero : (callInSession url toolName arguments headers).deliveries server = 0 := by
      have hne := mt hsessionIff.mp hdelivers
      omega
    refine ⟨fun _ h => hdelivers h.1, fun _ => ?_⟩
    rw [hzero]
    split <;> omega

/-! ### A tool that reports an error -/

/-- A server whose tool runs and then answers with a JSON-RPC error, which the SDK raises as its
own exception. Requests by hand get through. -/
def failingToolServer : RemoteServer
  | .connect _ _ => .ok ()
  | .initializeSession => .ok ()
  | .close => .ok ()
  | .callTool _ _ => ⟨true, .error (.exception "Internal error")⟩
  | .post _ _ _ => ⟨true, .ok ⟨200, .empty, "{}"⟩⟩

/-- The tool is called twice. -/
theorem failing_tool_called_twice :
    ¬ (callTool plainPython "https://mail.example/mcp" "send_message"
      (.ofList [("text", .str "hello")]) .empty).deliveries failingToolServer ≤ 1 := by
  decide +kernel

end AgentGraphStudio
