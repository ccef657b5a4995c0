import AgentGraphStudio.Triggers.Registration

/-!
# Registering webhooks with Telegram

`backend/triggers/webhook_sync.py`, its one handler in `backend/integrations/telegram/`, and
`_sync_webhooks_on_activate` and `_sync_webhooks_on_deactivate` of `backend/api/app.py`. A pair of a
`webhook_trigger` and a `telegram_adapter` has its URL registered under the token of the adapter's
bot. A call that fails registers nothing.
-/

namespace AgentGraphStudio

open Stateful (attempt)

/-! ## Pairs and handlers -/

/-- The adapter types with a registered handler. -/
def handledAdapterTypes : List String := ["telegram_adapter"]

/-- The adapter that an edge connects to a webhook, if its type has a handler. -/
def adapterOf (graph : GraphSpec) (webhookNode : NodeSpec) (edge : SubNodeEdge) :
    Option NodeSpec :=
  if edge.slot = "trigger_adapter" ∧ edge.toNode = webhookNode.id then
    (graph.node? edge.fromNode).filter (·.type ∈ handledAdapterTypes)
  else none

/-- The pairs of a webhook and its adapter. -/
def adapterPairsForGraph (graph : GraphSpec) : List (NodeSpec × NodeSpec) :=
  (graph.nodes.filter (·.type = "webhook_trigger")).flatMap fun webhookNode =>
    (graph.subNodeEdges.filterMap (adapterOf graph webhookNode)).map (webhookNode, ·)

/-- The client of a Telegram connection is its token. -/
def ConnectionClient.token? (client : ConnectionClient) : Option String :=
  if client.type = "telegram" then (client.config.get? "bot_token").bind Json.str? else none

/-- The token that an adapter refers to (`resolved_connections.get`). -/
def botToken (adapterNode : NodeSpec) (resolved : Dict String ConnectionClient) :
    Except SyncFailure (Option String) :=
  match adapterNode.config.get? "bot_token_connection" with
  | some (.str name) => .ok ((resolved.get? name).bind ConnectionClient.token?)
  | some (.arr _) => .error (.other "unhashable type: 'list'")
  | some (.obj _) => .error (.other "unhashable type: 'dict'")
  | _ => .ok none

/-- What a handler does for its adapters. -/
structure WebhookSyncHandler where
  syncOnActivate : NodeSpec → NodeSpec → String → Dict String ConnectionClient →
    EStateM SyncFailure GraphBackend Unit
  syncOnDeactivate : NodeSpec → NodeSpec → Dict String ConnectionClient →
    EStateM SyncFailure GraphBackend Unit

section

variable (surroundings : Surroundings)

/-- Register a URL under a token. -/
def setWebhook (token fullUrl : String) : EStateM SyncFailure GraphBackend Unit :=
  match surroundings.telegram token "setWebhook" (.ofList [("url", fullUrl)]) with
  | .error failure => throw failure
  | .ok () => modify fun backend => { backend with webhooks := backend.webhooks.set token fullUrl }

/-- Remove the URL under a token. -/
def deleteWebhook (token : String) : EStateM SyncFailure GraphBackend Unit :=
  match surroundings.telegram token "deleteWebhook" .empty with
  | .error failure => throw failure
  | .ok () => modify fun backend => { backend with webhooks := backend.webhooks.erase token }

/-- The handler of `telegram_adapter`. -/
def telegramHandler : WebhookSyncHandler where
  syncOnActivate _ adapterNode fullUrl resolved := do
    match ← Stateful.ofExcept (botToken adapterNode resolved) with
    | none =>
      let name := ((adapterNode.config.get? "bot_token_connection").map surroundings.repr).getD
        "None"
      throw (.runtimeError
        s!"telegram_adapter '{adapterNode.id}' references unresolved connection {name}")
    | some token => setWebhook surroundings token fullUrl
  syncOnDeactivate _ adapterNode resolved := do
    match ← Stateful.ofExcept (botToken adapterNode resolved) with
    | none => pure ()
    | some token => deleteWebhook surroundings token

/-- The handler of an adapter type. -/
def getHandler (adapterNodeType : String) : Option WebhookSyncHandler :=
  if adapterNodeType ∈ handledAdapterTypes then some (telegramHandler surroundings) else none

/-! ## Activation and deactivation -/

/-- How resolving connections fails. -/
inductive ResolutionFailure where
  | connectionNotFound (message : String)
  | other (message : String)

/-- The exception of a failed resolution. -/
def resolutionFailure : ResolveError → ResolutionFailure
  | .connectionNotFound name =>
    .connectionNotFound s!"No connection named '{name}' is configured on this machine"
  | .unknownType name type => .other s!"Connection '{name}' has unknown type '{type}'"
  | .invalidConfig message => .other message

/-- Resolve the connections of a graph. They are read only if there are any. -/
def resolveForSync (graph : GraphSpec) (userId : Option String) :
    Except ResolutionFailure (Dict String ConnectionClient) :=
  match surroundings.resolutionStore with
  | .ok store =>
    (resolveConnections graph store surroundings.connectionTypes userId .empty).mapError
      resolutionFailure
  | .error e => if referencedConnectionNames graph = [] then .ok .empty else .error (.other e)

/-- The URL under which the webhook of a node is reached from outside. -/
def fullWebhookUrl (publicBaseUrl : String) (record : TriggerRecord) : String :=
  publicBaseUrl ++ record.endpointOrSchedule

/-- Register the webhooks of pairs one after another. -/
def syncPairsOnActivate (publicBaseUrl : String) (triggers : Dict String TriggerRecord)
    (resolved : Dict String ConnectionClient) : List (NodeSpec × NodeSpec) → GraphRoute Unit
  | [] => pure ()
  | (webhookNode, adapterNode) :: pairs => do
    match getHandler surroundings adapterNode.type, triggers.get? webhookNode.id with
    | none, _ => throw (.exception "")
    | some _, none => throw (.exception (reprStr webhookNode.id))
    | some handler, some record =>
      match ← attempt (handler.syncOnActivate webhookNode adapterNode
        (fullWebhookUrl publicBaseUrl record) resolved) with
      | .error (.runtimeError e) => throw (.http ⟨502, e⟩)
      | .error (.other e) => throw (.exception e)
      | .ok () => syncPairsOnActivate publicBaseUrl triggers resolved pairs

/-- Register the webhooks of a graph, or refuse its activation. -/
def syncWebhooksOnActivate (graph : GraphSpec) (triggers : List TriggerRecord)
    (userId : Option String) : GraphRoute Unit :=
  if adapterPairsForGraph graph = [] then pure ()
  else
    match surroundings.publicBaseUrl with
    | .error e => throw (.exception e)
    | .ok none | .ok (some "") =>
      throw (.http ⟨422, "This graph has a trigger adapter that needs a registered webhook, but " ++
        "no public base URL is configured yet -- set one first (see Settings) before activating."⟩)
    | .ok (some publicBaseUrl) =>
      match resolveForSync surroundings graph userId with
      | .error (.connectionNotFound e) => throw (.http ⟨422, e⟩)
      | .error (.other e) => throw (.exception e)
      | .ok resolved =>
        syncPairsOnActivate surroundings publicBaseUrl
          (.ofList (triggers.map fun record => (record.nodeId, record))) resolved
          (adapterPairsForGraph graph)

/-- Remove the webhooks of pairs one after another. A call that Telegram refuses is skipped. -/
def syncPairsOnDeactivate (resolved : Dict String ConnectionClient) :
    List (NodeSpec × NodeSpec) → GraphRoute Unit
  | [] => pure ()
  | (webhookNode, adapterNode) :: pairs => do
    match getHandler surroundings adapterNode.type with
    | none => throw (.exception "")
    | some handler =>
      match ← attempt (handler.syncOnDeactivate webhookNode adapterNode resolved) with
      | .error (.other e) => throw (.exception e)
      | .error (.runtimeError _) | .ok () => syncPairsOnDeactivate resolved pairs

/-- Remove the webhooks of a graph, as far as its connections resolve for the caller. -/
def syncWebhooksOnDeactivate (graph : GraphSpec) (userId : Option String) : GraphRoute Unit :=
  if adapterPairsForGraph graph = [] then pure ()
  else
    match resolveForSync surroundings graph userId with
    | .error (.connectionNotFound _) => pure ()
    | .error (.other e) => throw (.exception e)
    | .ok resolved => syncPairsOnDeactivate surroundings resolved (adapterPairsForGraph graph)

end

/-! ## What an activation registers -/

/-- The error of a computation that fails. -/
def errorOf {ε α : Type} : Except ε α → Option ε
  | .error e => some e
  | .ok _ => none

section

variable (surroundings : Surroundings)

/-- The token and the URL of a pair, if Telegram accepts them. -/
def pairWebhook (publicBaseUrl : String) (triggers : Dict String TriggerRecord)
    (resolved : Dict String ConnectionClient) (pair : NodeSpec × NodeSpec) :
    Except HandlerError (String × String) :=
  match getHandler surroundings pair.2.type, triggers.get? pair.1.id with
  | none, _ => .error (.exception "")
  | some _, none => .error (.exception (reprStr pair.1.id))
  | some _, some record =>
    match botToken pair.2 resolved with
    | .error (.runtimeError e) => .error (.http ⟨502, e⟩)
    | .error (.other e) => .error (.exception e)
    | .ok none =>
      let name := ((pair.2.config.get? "bot_token_connection").map surroundings.repr).getD "None"
      .error (.http
        ⟨502, s!"telegram_adapter '{pair.2.id}' references unresolved connection {name}"⟩)
    | .ok (some token) =>
      let url := fullWebhookUrl publicBaseUrl record
      match surroundings.telegram token "setWebhook" (.ofList [("url", url)]) with
      | .error (.runtimeError e) => .error (.http ⟨502, e⟩)
      | .error (.other e) => .error (.exception e)
      | .ok () => .ok (token, url)

/-- Why the webhook of a pair is not registered. -/
def pairFailure (publicBaseUrl : String) (triggers : Dict String TriggerRecord)
    (resolved : Dict String ConnectionClient) (pair : NodeSpec × NodeSpec) : Option HandlerError :=
  errorOf (pairWebhook surroundings publicBaseUrl triggers resolved pair)

/-- The webhooks of pairs up to the first failure. -/
def pairWebhooks (publicBaseUrl : String) (triggers : Dict String TriggerRecord)
    (resolved : Dict String ConnectionClient) : List (NodeSpec × NodeSpec) → List (String × String)
  | [] => []
  | pair :: pairs =>
    match pairWebhook surroundings publicBaseUrl triggers resolved pair with
    | .error _ => []
    | .ok webhook => webhook :: pairWebhooks publicBaseUrl triggers resolved pairs

/-- The base of the URLs and the resolved connections. -/
def syncResources (graph : GraphSpec) (userId : Option String) :
    Except HandlerError (String × Dict String ConnectionClient) :=
  match surroundings.publicBaseUrl with
  | .error e => .error (.exception e)
  | .ok none | .ok (some "") =>
    .error (.http ⟨422, "This graph has a trigger adapter that needs a registered webhook, but " ++
      "no public base URL is configured yet -- set one first (see Settings) before activating."⟩)
  | .ok (some publicBaseUrl) =>
    match resolveForSync surroundings graph userId with
    | .error (.connectionNotFound e) => .error (.http ⟨422, e⟩)
    | .error (.other e) => .error (.exception e)
    | .ok resolved => .ok (publicBaseUrl, resolved)

/-- The triggers by their nodes. -/
def triggersByNode (triggers : List TriggerRecord) : Dict String TriggerRecord :=
  .ofList (triggers.map fun record => (record.nodeId, record))

/-- Why the webhooks of a graph are not all registered. -/
def syncFailure (graph : GraphSpec) (triggers : List TriggerRecord) (userId : Option String) :
    Option HandlerError :=
  if adapterPairsForGraph graph = [] then none
  else
    match syncResources surroundings graph userId with
    | .error e => some e
    | .ok (publicBaseUrl, resolved) =>
      (adapterPairsForGraph graph).findSome?
        (pairFailure surroundings publicBaseUrl (triggersByNode triggers) resolved)

/-- The webhooks of a graph that are registered, by the tokens of the bots. -/
def syncedWebhooks (graph : GraphSpec) (triggers : List TriggerRecord) (userId : Option String) :
    List (String × String) :=
  match syncResources surroundings graph userId with
  | .error _ => []
  | .ok (publicBaseUrl, resolved) =>
    pairWebhooks surroundings publicBaseUrl (triggersByNode triggers) resolved
      (adapterPairsForGraph graph)

end

section

variable {surroundings : Surroundings}

/-- The backend after webhooks were registered by their tokens. -/
def GraphBackend.setWebhooks (backend : GraphBackend) (webhooks : List (String × String)) :
    GraphBackend :=
  { backend with webhooks := backend.webhooks.update webhooks }

/-- The backend after the webhooks of tokens were cleared. -/
def GraphBackend.clearWebhooks (backend : GraphBackend) (tokens : List String) : GraphBackend :=
  { backend with webhooks := backend.webhooks.eraseAll tokens }

/-- There is one handler. -/
theorem get_handler_eq {adapterNodeType : String} {handler : WebhookSyncHandler}
    (h : getHandler surroundings adapterNodeType = some handler) :
    telegramHandler surroundings = handler := by
  unfold getHandler at h
  split at h
  · exact Option.some.inj h
  · cases h

/-- A token gets its URL, if Telegram accepts it. -/
theorem set_webhook_run (token fullUrl : String) (backend : GraphBackend) :
    (setWebhook surroundings token fullUrl).run backend =
      match surroundings.telegram token "setWebhook" (.ofList [("url", fullUrl)]) with
      | .error failure => .error failure backend
      | .ok () => .ok () (backend.setWebhooks [(token, fullUrl)]) := by
  unfold setWebhook
  cases surroundings.telegram token "setWebhook" (.ofList [("url", fullUrl)]) with
  | error failure => rfl
  | ok _ => rfl

/-- An adapter registers the URL under the token that it refers to. -/
theorem sync_on_activate_run (webhookNode adapterNode : NodeSpec) (fullUrl : String)
    (resolved : Dict String ConnectionClient) (backend : GraphBackend) :
    ((telegramHandler surroundings).syncOnActivate webhookNode adapterNode fullUrl resolved).run
        backend =
      match botToken adapterNode resolved with
      | .error failure => .error failure backend
      | .ok none =>
        let name :=
          ((adapterNode.config.get? "bot_token_connection").map surroundings.repr).getD "None"
        .error (.runtimeError
          s!"telegram_adapter '{adapterNode.id}' references unresolved connection {name}") backend
      | .ok (some token) => (setWebhook surroundings token fullUrl).run backend := by
  unfold telegramHandler
  dsimp only
  rw [EStateM.run_bind]
  cases botToken adapterNode resolved with
  | error failure => rfl
  | ok token =>
      cases token with
      | none => rfl
      | some token => rfl

/-- A token is cleared, if Telegram accepts it. -/
theorem delete_webhook_run (token : String) (backend : GraphBackend) :
    (deleteWebhook surroundings token).run backend =
      match surroundings.telegram token "deleteWebhook" .empty with
      | .error failure => .error failure backend
      | .ok () => .ok () (backend.clearWebhooks [token]) := by
  unfold deleteWebhook
  cases surroundings.telegram token "deleteWebhook" .empty with
  | error failure => rfl
  | ok _ => rfl

/-- An adapter clears the token that it refers to. -/
theorem sync_on_deactivate_run (webhookNode adapterNode : NodeSpec)
    (resolved : Dict String ConnectionClient) (backend : GraphBackend) :
    ((telegramHandler surroundings).syncOnDeactivate webhookNode adapterNode resolved).run backend =
      match botToken adapterNode resolved with
      | .error failure => .error failure backend
      | .ok none => .ok () backend
      | .ok (some token) => (deleteWebhook surroundings token).run backend := by
  unfold telegramHandler
  dsimp only
  rw [EStateM.run_bind]
  cases botToken adapterNode resolved with
  | error failure => rfl
  | ok token =>
      cases token with
      | none => rfl
      | some token => rfl

/-- Pairs are registered up to the first failure. -/
theorem sync_pairs_on_activate_run (publicBaseUrl : String)
    (triggers : Dict String TriggerRecord) (resolved : Dict String ConnectionClient)
    (pairs : List (NodeSpec × NodeSpec)) (backend : GraphBackend) :
    (syncPairsOnActivate surroundings publicBaseUrl triggers resolved pairs).run backend =
      Stateful.ended
        (pairs.findSome? (pairFailure surroundings publicBaseUrl triggers resolved)) ()
        (backend.setWebhooks
          (pairWebhooks surroundings publicBaseUrl triggers resolved pairs)) := by
  -- By the pairs: one that fails stops the loop, and those before it stay registered.
  induction pairs generalizing backend with
  | nil => rfl
  | cons pair pairs ih =>
      unfold syncPairsOnActivate pairWebhooks
      rw [List.findSome?_cons]
      unfold pairFailure pairWebhook
      cases hhandler : getHandler surroundings pair.2.type with
      | none => rfl
      | some handler =>
          obtain rfl := get_handler_eq hhandler
          cases triggers.get? pair.1.id with
          | none => rfl
          | some record =>
              dsimp only
              rw [EStateM.run_bind, Stateful.run_attempt, sync_on_activate_run]
              cases botToken pair.2 resolved with
              | error failure =>
                  cases failure with
                  | runtimeError e => rfl
                  | other e => rfl
              | ok token =>
                  cases token with
                  | none => rfl
                  | some token =>
                      dsimp only
                      rw [set_webhook_run]
                      cases surroundings.telegram token "setWebhook"
                        (.ofList [("url", fullWebhookUrl publicBaseUrl record)]) with
                      | error failure =>
                          cases failure with
                          | runtimeError e => rfl
                          | other e => rfl
                      | ok _ => exact ih _

/-- An activation registers the webhooks of the graph up to the first failure. -/
theorem sync_webhooks_on_activate_run (graph : GraphSpec) (triggers : List TriggerRecord)
    (userId : Option String) (backend : GraphBackend) :
    (syncWebhooksOnActivate surroundings graph triggers userId).run backend =
      Stateful.ended (syncFailure surroundings graph triggers userId) ()
        (backend.setWebhooks (syncedWebhooks surroundings graph triggers userId)) := by
  unfold syncWebhooksOnActivate syncFailure syncedWebhooks
  split
  · rename_i hpairs
    rw [hpairs]
    cases syncResources surroundings graph userId <;> rfl
  · unfold syncResources
    split
    · rfl
    · rfl
    · rfl
    · cases resolveForSync surroundings graph userId with
      | error failure =>
          cases failure with
          | connectionNotFound e => rfl
          | other e => rfl
      | ok resolved => exact sync_pairs_on_activate_run _ _ _ _ _

end

section

variable {surroundings : Surroundings} {token url : String}

/-- What a pair registers: the token of its adapter and the URL of its webhook. -/
theorem pair_webhook_ok {publicBaseUrl : String} {triggers : Dict String TriggerRecord}
    {resolved : Dict String ConnectionClient} {pair : NodeSpec × NodeSpec}
    (h : pairWebhook surroundings publicBaseUrl triggers resolved pair = .ok (token, url)) :
    botToken pair.2 resolved = .ok (some token) ∧
      ∃ record, triggers.get? pair.1.id = some record ∧
        url = fullWebhookUrl publicBaseUrl record := by
  unfold pairWebhook at h
  split at h
  · cases h
  · cases h
  · rename_i record _ hrecord
    split at h
    · cases h
    · cases h
    · cases h
    · rename_i found htoken
      dsimp only at h
      split at h
      · cases h
      · cases h
      · cases h
        exact ⟨htoken, record, hrecord, rfl⟩

/-- Each registered webhook is that of a pair. -/
theorem mem_pair_webhooks {publicBaseUrl : String} {triggers : Dict String TriggerRecord}
    {resolved : Dict String ConnectionClient} {pairs : List (NodeSpec × NodeSpec)}
    (h : (token, url) ∈ pairWebhooks surroundings publicBaseUrl triggers resolved pairs) :
    ∃ pair ∈ pairs,
      pairWebhook surroundings publicBaseUrl triggers resolved pair = .ok (token, url) := by
  induction pairs with
  | nil => cases h
  | cons pair pairs ih =>
      unfold pairWebhooks at h
      split at h
      · cases h
      · rename_i webhook hwebhook
        rcases List.mem_cons.mp h with hhere | hlater
        · exact ⟨pair, List.mem_cons_self, hhere ▸ hwebhook⟩
        · obtain ⟨found, hmem, hfound⟩ := ih hlater
          exact ⟨found, List.mem_cons_of_mem _ hmem, hfound⟩

/-- A trigger is found under its node. -/
theorem mem_of_triggers_by_node {triggers : List TriggerRecord} {nodeId : String}
    {record : TriggerRecord} (h : (triggersByNode triggers).get? nodeId = some record) :
    record ∈ triggers ∧ record.nodeId = nodeId := by
  unfold triggersByNode at h
  rw [Dict.get?_ofList] at h
  obtain ⟨entry, hlast, hentry⟩ := Option.map_eq_some_iff.mp h
  obtain ⟨hmem, hkey⟩ := List.mem_filter.mp (List.mem_of_getLast? hlast)
  obtain ⟨found, hfound, rfl⟩ := List.mem_map.mp hmem
  cases hentry
  exact ⟨hfound, of_decide_eq_true hkey⟩

/-- Each webhook that an activation registers is that of a pair of the graph, under the token that
its adapter refers to. -/
theorem mem_synced_webhooks {graph : GraphSpec} {triggers : List TriggerRecord}
    {userId : Option String}
    (h : (token, url) ∈ syncedWebhooks surroundings graph triggers userId) :
    ∃ pair ∈ adapterPairsForGraph graph,
      (∃ resolved, resolveForSync surroundings graph userId = .ok resolved ∧
        botToken pair.2 resolved = .ok (some token)) ∧
      ∃ record ∈ triggers, record.nodeId = pair.1.id ∧
        ∃ publicBaseUrl, url = fullWebhookUrl publicBaseUrl record := by
  unfold syncedWebhooks at h
  split at h
  · cases h
  · rename_i publicBaseUrl resolved hresources
    obtain ⟨pair, hpair, hwebhook⟩ := mem_pair_webhooks h
    obtain ⟨htoken, record, hrecord, hurl⟩ := pair_webhook_ok hwebhook
    obtain ⟨hmem, hnode⟩ := mem_of_triggers_by_node hrecord
    refine ⟨pair, hpair, ⟨resolved, ?_, htoken⟩, record, hmem, hnode, publicBaseUrl, hurl⟩
    unfold syncResources at hresources
    split at hresources
    · cases hresources
    · cases hresources
    · cases hresources
    · split at hresources
      · cases hresources
      · cases hresources
      · rename_i hresolved
        cases hresources
        exact hresolved

end

/-! ## What a deactivation removes -/

section

variable (surroundings : Surroundings)

/-- The token of a pair, if there is one and Telegram clears it. -/
def pairRemoval (resolved : Dict String ConnectionClient) (pair : NodeSpec × NodeSpec) :
    Except HandlerError (Option String) :=
  match getHandler surroundings pair.2.type with
  | none => .error (.exception "")
  | some _ =>
    match botToken pair.2 resolved with
    | .error (.other e) => .error (.exception e)
    | .error (.runtimeError _) | .ok none => .ok none
    | .ok (some token) =>
      match surroundings.telegram token "deleteWebhook" .empty with
      | .error (.other e) => .error (.exception e)
      | .error (.runtimeError _) => .ok none
      | .ok () => .ok (some token)

/-- The tokens of pairs that are cleared up to the first failure. -/
def pairRemovals (resolved : Dict String ConnectionClient) :
    List (NodeSpec × NodeSpec) → List String
  | [] => []
  | pair :: pairs =>
    match pairRemoval surroundings resolved pair with
    | .error _ => []
    | .ok token => token.toList ++ pairRemovals resolved pairs

/-- Why the deactivation of a graph fails. -/
def removalFailure (graph : GraphSpec) (userId : Option String) : Option HandlerError :=
  if adapterPairsForGraph graph = [] then none
  else
    match resolveForSync surroundings graph userId with
    | .error (.connectionNotFound _) => none
    | .error (.other e) => some (.exception e)
    | .ok resolved =>
      (adapterPairsForGraph graph).findSome? fun pair =>
        errorOf (pairRemoval surroundings resolved pair)

/-- The tokens that the deactivation of a graph clears. -/
def removedWebhooks (graph : GraphSpec) (userId : Option String) : List String :=
  match resolveForSync surroundings graph userId with
  | .error _ => []
  | .ok resolved => pairRemovals surroundings resolved (adapterPairsForGraph graph)

end

section

variable {surroundings : Surroundings}

/-- Pairs are cleared up to the first failure. -/
theorem sync_pairs_on_deactivate_run (resolved : Dict String ConnectionClient)
    (pairs : List (NodeSpec × NodeSpec)) (backend : GraphBackend) :
    (syncPairsOnDeactivate surroundings resolved pairs).run backend =
      Stateful.ended
        (pairs.findSome? fun pair => errorOf (pairRemoval surroundings resolved pair)) ()
        (backend.clearWebhooks (pairRemovals surroundings resolved pairs)) := by
  -- As on activation, but a `RuntimeError` of a pair is passed over.
  induction pairs generalizing backend with
  | nil => rfl
  | cons pair pairs ih =>
      unfold syncPairsOnDeactivate pairRemovals
      rw [List.findSome?_cons]
      unfold pairRemoval
      cases hhandler : getHandler surroundings pair.2.type with
      | none => rfl
      | some handler =>
          obtain rfl := get_handler_eq hhandler
          dsimp only
          rw [EStateM.run_bind, Stateful.run_attempt, sync_on_deactivate_run]
          cases botToken pair.2 resolved with
          | error failure =>
              cases failure with
              | runtimeError e => exact ih backend
              | other e => rfl
          | ok token =>
              cases token with
              | none => exact ih backend
              | some token =>
                  dsimp only
                  rw [delete_webhook_run]
                  cases surroundings.telegram token "deleteWebhook" .empty with
                  | error failure =>
                      cases failure with
                      | runtimeError e => exact ih backend
                      | other e => rfl
                  | ok _ => exact ih _

/-- A deactivation clears the webhooks of the graph up to the first failure. -/
theorem sync_webhooks_on_deactivate_run (graph : GraphSpec) (userId : Option String)
    (backend : GraphBackend) :
    (syncWebhooksOnDeactivate surroundings graph userId).run backend =
      Stateful.ended (removalFailure surroundings graph userId) ()
        (backend.clearWebhooks (removedWebhooks surroundings graph userId)) := by
  unfold syncWebhooksOnDeactivate removalFailure removedWebhooks
  split
  · rename_i hpairs
    rw [hpairs]
    cases resolveForSync surroundings graph userId <;> rfl
  · cases resolveForSync surroundings graph userId with
    | error failure =>
        cases failure with
        | connectionNotFound e => rfl
        | other e => rfl
    | ok resolved => exact sync_pairs_on_deactivate_run _ _ _

end

/-! ## What a synchronization leaves alone -/

section

variable {τ : Type} {view : GraphBackend → τ} {surroundings : Surroundings}

/-- An activation only changes what Telegram has registered. -/
theorem sync_webhooks_on_activate_frame
    (h : ∀ backend webhooks, view { backend with webhooks } = view backend) (graph : GraphSpec)
    (triggers : List TriggerRecord) (userId : Option String) :
    Stateful.Frame view (syncWebhooksOnActivate surroundings graph triggers userId) := by
  intro backend
  rw [sync_webhooks_on_activate_run, Stateful.stateOf_ended]
  exact h _ _

/-- So does a deactivation. -/
theorem sync_webhooks_on_deactivate_frame
    (h : ∀ backend webhooks, view { backend with webhooks } = view backend) (graph : GraphSpec)
    (userId : Option String) :
    Stateful.Frame view (syncWebhooksOnDeactivate surroundings graph userId) := by
  intro backend
  rw [sync_webhooks_on_deactivate_run, Stateful.stateOf_ended]
  exact h _ _

end

end AgentGraphStudio
