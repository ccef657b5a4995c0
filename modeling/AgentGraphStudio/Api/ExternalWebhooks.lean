import AgentGraphStudio.Api.Activation
import AgentGraphStudio.Api.Auth

/-!
# The webhooks that Telegram has registered

An activation registers URLs with Telegram and only an explicit deactivation removes them, as far as
the connections of its caller lead to the same tokens. `webhooks_match_iff` says when every
registered URL belongs to an active graph after every request of a history in which a token is used
by one adapter only.
-/

namespace AgentGraphStudio

section

variable (owner : String → String × String)

/-- The URL is that of a pair of the active graph, whose adapter the token belongs to. -/
def HasWebhook (graphId : String) (active : ActiveGraph) (token url : String) : Prop :=
  ∃ pair ∈ adapterPairsForGraph active.graph, owner token = (graphId, pair.2.id) ∧
    ∃ record ∈ active.triggers, record.nodeId = pair.1.id ∧
      ∃ publicBaseUrl, url = fullWebhookUrl publicBaseUrl record

/-- Every registered URL belongs to a pair of an active graph. -/
def GraphBackend.WebhooksMatch (backend : GraphBackend) : Prop :=
  ∀ token url, backend.webhooks.get? token = some url →
    ∃ graphId active, backend.active.get? graphId = some active ∧
      HasWebhook owner graphId active token url

/-- A token to which an adapter leads in an activation belongs to this adapter of this graph. -/
def TokensOwned (surroundings : Surroundings) : GraphRequest → Prop
  | .activate graphId graph caller =>
    ∀ resolved, resolveForSync surroundings graph (callerUserId caller) = .ok resolved →
    ∀ pair ∈ adapterPairsForGraph graph, ∀ token,
      botToken pair.2 resolved = .ok (some token) → owner token = (graphId, pair.2.id)
  | _ => True

/-- No webhook of a graph is registered. -/
def GraphBackend.NoWebhook (backend : GraphBackend) (graphId : String) : Prop :=
  ∀ token, (owner token).1 = graphId → backend.webhooks.get? token = none

/-- The request leaves no webhook without an active graph. An activation that fails has registered
none and finds none of its graph, and one that succeeds finds none but those that it registers again
or that still belong to a pair; a deactivation clears all webhooks of its graph; and a graph is
deleted when none of it is registered. -/
def KeepsWebhooks (surroundings : Surroundings) (backend : GraphBackend) : GraphRequest → Prop
  | .activate graphId graph caller =>
    validateForActivation surroundings graph (callerUserId caller) = .ok () →
      let webhooks := registeredWebhooks surroundings graphId (backend.vacate graphId).jobs graph
        (callerUserId caller)
      match registrationFailure surroundings graphId (backend.vacate graphId).jobs graph
        (callerUserId caller) with
      | some _ => webhooks = [] ∧ backend.NoWebhook owner graphId
      | none =>
        ∀ token url, backend.webhooks.get? token = some url → (owner token).1 = graphId →
          token ∈ webhooks.map Prod.fst ∨
            HasWebhook owner graphId
              ⟨graph, graphTriggers surroundings graphId graph, callerUserId caller⟩ token url
  | .deactivate graphId caller =>
    ∀ active, backend.active.get? graphId = some active →
      removalFailure surroundings active.graph (callerUserId caller) = none →
      ∀ token, (owner token).1 = graphId → (backend.webhooks.get? token).isSome →
        token ∈ removedWebhooks surroundings active.graph (callerUserId caller)
  | .delete graphId =>
    (backend.active.get? graphId).isSome → backend.NoWebhook owner graphId
  | _ => True

end

section

variable {owner : String → String × String} {hashToken : String → String}
  {surroundings : Surroundings} {backend after : GraphBackend} {graphId : String}

/-- Only the registry and the external webhooks count. -/
theorem webhooks_match_of_eq (h : backend.WebhooksMatch owner)
    (hactive : after.active = backend.active) (hwebhooks : after.webhooks = backend.webhooks) :
    after.WebhooksMatch owner := by
  unfold GraphBackend.WebhooksMatch
  rw [hactive, hwebhooks]
  exact h

theorem webhooks_match_of_frame {α : Type} {act : GraphRoute α} (h : backend.WebhooksMatch owner)
    (hframe : Stateful.Frame
      (fun backend : GraphBackend => (backend.active, backend.webhooks)) act) :
    (Stateful.stateOf (act.run backend)).WebhooksMatch owner := by
  obtain ⟨hactive, hwebhooks⟩ := Prod.mk.inj (hframe backend)
  exact webhooks_match_of_eq h hactive hwebhooks

/-- Where a graph left the registry, none of its webhooks may be registered. -/
theorem webhooks_match_erase_iff (h : backend.WebhooksMatch owner)
    (hactive : after.active = backend.active.erase graphId)
    (hwebhooks : ∀ token url, after.webhooks.get? token = some url → (owner token).1 ≠ graphId →
      backend.webhooks.get? token = some url) :
    after.WebhooksMatch owner ↔ after.NoWebhook owner graphId := by
  unfold GraphBackend.WebhooksMatch GraphBackend.NoWebhook
  rw [hactive]
  constructor
  · intro hafter token howner
    refine Option.eq_none_iff_forall_ne_some.mpr fun url hurl => ?_
    obtain ⟨otherId, active, hget, pair, _, htoken, _⟩ := hafter token url hurl
    rw [htoken] at howner
    rw [show otherId = graphId from howner, Dict.get?_erase_self] at hget
    cases hget
  · intro hnone token url hurl
    have hforeign : (owner token).1 ≠ graphId := by
      intro howner
      rw [hnone token howner] at hurl
      cases hurl
    obtain ⟨otherId, active, hget, hwebhook⟩ := h token url (hwebhooks token url hurl hforeign)
    refine ⟨otherId, active, ?_, hwebhook⟩
    obtain ⟨pair, _, htoken, _⟩ := hwebhook
    rw [htoken] at hforeign
    rw [Dict.get?_erase_of_ne _ hforeign]
    exact hget

/-- What a registration registers belongs to the graph. -/
theorem mem_registered_webhooks {jobs : List ScheduleJob} {graph : GraphSpec} {caller : Caller}
    {token url : String} (howned : TokensOwned owner surroundings (.activate graphId graph caller))
    (h : (token, url) ∈ registeredWebhooks surroundings graphId jobs graph (callerUserId caller)) :
    HasWebhook owner graphId ⟨graph, graphTriggers surroundings graphId graph, callerUserId caller⟩
      token url := by
  unfold registeredWebhooks at h
  split at h
  · cases h
  · obtain ⟨pair, hpair, ⟨resolved, hresolved, htoken⟩, hrecord⟩ := mem_synced_webhooks h
    exact ⟨pair, hpair, howned resolved hresolved pair hpair token htoken, hrecord⟩

/-- A failed activation must have registered nothing, and must have found nothing of its graph. -/
theorem webhooks_match_failed_iff (h : backend.WebhooksMatch owner)
    {webhooks : List (String × String)} {active : ActiveGraph}
    (howned : ∀ token url, (token, url) ∈ webhooks →
      HasWebhook owner graphId active token url)
    (hactive : after.active = backend.active.erase graphId)
    (hwebhooks : after.webhooks = backend.webhooks.update webhooks) :
    after.WebhooksMatch owner ↔ webhooks = [] ∧ backend.NoWebhook owner graphId := by
  have hforeign : ∀ token url, after.webhooks.get? token = some url →
      (owner token).1 ≠ graphId → backend.webhooks.get? token = some url := by
    intro token url hurl hne
    rw [hwebhooks] at hurl
    rcases Dict.mem_or_of_get?_update hurl with hmem | ⟨_, hbefore⟩
    · obtain ⟨pair, _, htoken, _⟩ := howned token url hmem
      exact absurd (congrArg Prod.fst htoken) hne
    · exact hbefore
  rw [webhooks_match_erase_iff h hactive hforeign]
  unfold GraphBackend.NoWebhook
  rw [hwebhooks]
  constructor
  · intro hnone
    cases webhooks with
    | nil => exact ⟨rfl, hnone⟩
    | cons webhook webhooks =>
        obtain ⟨pair, _, htoken, _⟩ := howned webhook.1 webhook.2 List.mem_cons_self
        have hregistered : webhook.1 ∈ (backend.webhooks.update (webhook :: webhooks)).keys :=
          Dict.mem_keys_update.mpr (.inl List.mem_cons_self)
        rw [← Dict.get?_isSome_iff, hnone webhook.1 (congrArg Prod.fst htoken)] at hregistered
        cases hregistered
  · intro hclean
    obtain ⟨rfl, hnone⟩ := hclean
    exact hnone

/-- A successful activation must have found nothing of its graph that it does not register again. -/
theorem webhooks_match_activated_iff (h : backend.WebhooksMatch owner)
    {webhooks : List (String × String)} {active : ActiveGraph}
    (howned : ∀ token url, (token, url) ∈ webhooks →
      HasWebhook owner graphId active token url)
    (hactive : after.active = (backend.active.erase graphId).set graphId active)
    (hwebhooks : after.webhooks = backend.webhooks.update webhooks) :
    after.WebhooksMatch owner ↔
      ∀ token url, backend.webhooks.get? token = some url → (owner token).1 = graphId →
        token ∈ webhooks.map Prod.fst ∨ HasWebhook owner graphId active token url := by
  unfold GraphBackend.WebhooksMatch
  rw [hactive, hwebhooks]
  constructor
  · intro hafter token url hbefore howner
    by_cases hmem : token ∈ webhooks.map Prod.fst
    · exact .inl hmem
    · right
      obtain ⟨otherId, other, hget, hother⟩ := hafter token url
        ((Dict.get?_update_of_notMem _ hmem).trans hbefore)
      obtain ⟨_, _, htoken, _⟩ := id hother
      rw [htoken] at howner
      obtain rfl : otherId = graphId := howner
      rw [Dict.get?_set_self] at hget
      cases hget
      exact hother
  · intro hkept token url hurl
    rcases Dict.mem_or_of_get?_update hurl with hmem | ⟨hmem, hbefore⟩
    · exact ⟨graphId, active, Dict.get?_set_self _ _ _, howned token url hmem⟩
    · obtain ⟨otherId, other, hget, hother⟩ := h token url hbefore
      obtain ⟨_, _, htoken, _⟩ := id hother
      by_cases hsame : otherId = graphId
      · refine ⟨graphId, active, Dict.get?_set_self _ _ _, ?_⟩
        rw [hsame] at htoken
        exact (hkept token url hbefore (congrArg Prod.fst htoken)).resolve_left hmem
      · refine ⟨otherId, other, ?_, hother⟩
        rw [Dict.get?_set_of_ne _ _ hsame, Dict.get?_erase_of_ne _ hsame]
        exact hget

theorem webhooks_match_activate_iff (h : backend.WebhooksMatch owner) (graph : GraphSpec)
    (caller : Caller) (howned : TokensOwned owner surroundings (.activate graphId graph caller)) :
    (Stateful.stateOf
      ((activateGraph surroundings graphId graph caller).run backend)).WebhooksMatch owner ↔
      KeepsWebhooks owner surroundings backend (.activate graphId graph caller) := by
  simp only [KeepsWebhooks]
  generalize hafter : Stateful.stateOf
    ((activateGraph surroundings graphId graph caller).run backend) = after
  rcases activate_graph_tables graphId graph caller hafter with
    ⟨⟨e, hinvalid⟩, rfl⟩ | ⟨hvalid, hwebhooks, hfailed | ⟨hregistered, hactive, _⟩⟩
  · exact iff_of_true h fun hvalid => nomatch hinvalid.symm.trans hvalid
  · obtain ⟨⟨e, hfailure⟩, hactive, _⟩ := hfailed
    rw [hfailure, webhooks_match_failed_iff h
      (fun _ _ hmem => mem_registered_webhooks howned hmem) hactive hwebhooks]
    exact ⟨fun hclean _ => hclean, fun hclean => hclean hvalid⟩
  · rw [hregistered, webhooks_match_activated_iff h
      (fun _ _ hmem => mem_registered_webhooks howned hmem) hactive hwebhooks]
    exact ⟨fun hkept _ => hkept, fun hkept => hkept hvalid⟩

/-- What is registered after tokens were cleared was registered before. -/
theorem of_get?_cleared {tokens : List String} {token url : String}
    (h : (backend.webhooks.eraseAll tokens).get? token = some url) :
    backend.webhooks.get? token = some url := by
  rw [Dict.get?_eraseAll] at h
  split at h
  · cases h
  · exact h

/-- Where nothing is registered, an activation that succeeds leaves no webhook without its graph. -/
theorem keeps_webhooks_of_none {graph : GraphSpec} {caller : Caller}
    (hnone : ∀ token, backend.webhooks.get? token = none)
    (hregistered : registrationFailure surroundings graphId (backend.vacate graphId).jobs graph
      (callerUserId caller) = none) :
    KeepsWebhooks owner surroundings backend (.activate graphId graph caller) := by
  intro _
  dsimp only
  rw [hregistered]
  intro token url hurl
  rw [hnone token] at hurl
  cases hurl

theorem webhooks_match_deactivate_iff (h : backend.WebhooksMatch owner) (caller : Caller) :
    (Stateful.stateOf
      ((deactivateGraph surroundings graphId caller).run backend)).WebhooksMatch owner ↔
      KeepsWebhooks owner surroundings backend (.deactivate graphId caller) := by
  simp only [KeepsWebhooks]
  rw [deactivate_graph_run]
  cases backend.active.get? graphId with
  | none => exact iff_of_true h fun _ hactive => nomatch hactive
  | some active =>
      dsimp only
      rw [Stateful.stateOf_ended]
      cases hremoval : removalFailure surroundings active.graph (callerUserId caller) with
      | some e =>
          refine iff_of_true (fun token url hurl => h token url (of_get?_cleared hurl)) ?_
          intro found hfound hremoved
          cases hfound
          cases hremoval.symm.trans hremoved
      | none =>
          rw [webhooks_match_erase_iff h rfl fun token url hurl _ => of_get?_cleared hurl]
          constructor
          · intro hnone found hfound _ token howner hregistered
            cases hfound
            by_contra hkept
            have hurl : (backend.webhooks.eraseAll (removedWebhooks surroundings active.graph
                (callerUserId caller))).get? token = none :=
              hnone token howner
            rw [Dict.get?_eraseAll, if_neg hkept] at hurl
            rw [hurl] at hregistered
            cases hregistered
          · intro hkept token howner
            refine (Dict.get?_eraseAll _ _ _).trans ?_
            split
            · rfl
            · rename_i hmem
              exact Option.not_isSome_iff_eq_none.mp fun hregistered =>
                hmem (hkept active rfl hremoval token howner hregistered)

theorem webhooks_match_delete_iff (h : backend.WebhooksMatch owner) :
    (Stateful.stateOf ((deleteGraph graphId).run backend)).WebhooksMatch owner ↔
      KeepsWebhooks owner surroundings backend (.delete graphId) := by
  have hdeleted : ∀ after : GraphBackend, after.active = (backend.vacate graphId).active →
      after.webhooks = (backend.vacate graphId).webhooks →
      (after.WebhooksMatch owner ↔
        ((backend.active.get? graphId).isSome → backend.NoWebhook owner graphId)) := by
    intro after hactive hwebhooks
    rw [vacate_active] at hactive
    rw [vacate_webhooks] at hwebhooks
    by_cases hsome : (backend.active.get? graphId).isSome
    · rw [webhooks_match_erase_iff h hactive fun token url hurl _ => by rwa [hwebhooks] at hurl]
      unfold GraphBackend.NoWebhook
      rw [hwebhooks]
      exact ⟨fun hnone _ => hnone, fun hnone => hnone hsome⟩
    · rw [Dict.erase_of_notMem fun hmem => hsome (Dict.get?_isSome_iff.mpr hmem)] at hactive
      exact iff_of_true (webhooks_match_of_eq h hactive hwebhooks) fun hsome' => absurd hsome' hsome
  simp only [KeepsWebhooks]
  rw [delete_graph_run]
  dsimp only
  split
  · exact hdeleted _ rfl rfl
  · exact hdeleted _ rfl rfl

/-- After a request every registered URL belongs to an active graph if and only if the request
leaves no webhook without one. -/
theorem webhooks_match_after_iff (h : backend.WebhooksMatch owner) (request : GraphRequest)
    (howned : TokensOwned owner surroundings request) :
    (afterGraphRequest hashToken surroundings request backend).WebhooksMatch owner ↔
      KeepsWebhooks owner surroundings backend request := by
  cases request with
  | activate graphId graph caller => exact webhooks_match_activate_iff h graph caller howned
  | deactivate graphId caller => exact webhooks_match_deactivate_iff h caller
  | delete graphId => exact webhooks_match_delete_iff h
  | save graphId request caller =>
      exact iff_of_true (webhooks_match_of_frame h (create_graph_frame (fun _ _ => rfl)
        (fun _ _ => rfl) graphId request caller)) trivial
  | update graphId request =>
      exact iff_of_true (webhooks_match_of_frame h (update_graph_frame (fun _ _ => rfl)
        (fun _ _ => rfl) graphId request)) trivial
  | mintKey graphId label timeoutSeconds draw caller =>
      exact iff_of_true (webhooks_match_of_frame h (create_invoke_key_frame (fun _ _ => rfl)
        hashToken graphId label timeoutSeconds draw caller)) trivial
  | revokeKey graphId keyId =>
      exact iff_of_true (webhooks_match_of_frame h (delete_invoke_key_frame (fun _ _ => rfl)
        graphId keyId)) trivial

end

/-- In a history in which each token is used by one adapter of one graph, every registered URL
belongs to an active graph after every request if and only if every request leaves no webhook
without one. -/
theorem webhooks_match_iff (hashToken : String → String) (owner : String → String × String)
    (history : List (Surroundings × GraphRequest))
    (howned : ∀ step ∈ history, TokensOwned owner step.1 step.2) :
    EveryState hashToken history .empty (GraphBackend.WebhooksMatch owner) ↔
      EveryStep hashToken history .empty (KeepsWebhooks owner) :=
  every_state_iff (fun step hmem _ h => webhooks_match_after_iff h step.2 (howned step hmem))
    fun _ _ h => (by cases h)

/-- The bot of the graph `mail` has the only token. -/
def mailOwner (_ : String) : String × String := ("mail", "bot")

/-- The graph `mail` is activated. -/
def botActivated : Surroundings × GraphRequest :=
  (plainSurroundings, .activate "mail" botGraph alice)

/-- The only adapter of the graph leads to the token. -/
theorem bot_owned : TokensOwned mailOwner plainSurroundings (.activate "mail" botGraph alice) := by
  intro resolved _ pair hpair token _
  have hadapter : ∀ pair ∈ adapterPairsForGraph botGraph, pair.2.id = "bot" := by
    decide +kernel
  rw [hadapter pair hpair]
  rfl

set_option maxRecDepth 20000 in
/-- After a deactivation by the same user no webhook is left. -/
theorem deactivated_bot_matches :
    EveryState plainAuth.hashToken [botActivated, (plainSurroundings, .deactivate "mail" alice)]
      .empty (GraphBackend.WebhooksMatch mailOwner) := by
  refine (webhooks_match_iff plainAuth.hashToken mailOwner _ fun step hstep => ?_).mpr
    (every_step_cons ?_ (every_step_cons ?_ (every_step_nil _)))
  · rcases List.mem_cons.mp hstep with rfl | hstep
    · exact bot_owned
    · cases List.mem_singleton.mp hstep
      trivial
  · have hregistered : (registrationFailure plainSurroundings "mail"
        (GraphBackend.empty.vacate "mail").jobs botGraph (callerUserId alice)).isNone := by
      decide +kernel
    exact keeps_webhooks_of_none (fun _ => rfl) (Option.isNone_iff_eq_none.mp hregistered)
  · intro active hactive _ token _ hregistered
    have hkeys : (afterGraphRequest plainAuth.hashToken plainSurroundings
        (.activate "mail" botGraph alice) .empty).webhooks.keys = ["123:abc"] := by
      decide +kernel
    have hremoved : ((afterGraphRequest plainAuth.hashToken plainSurroundings
        (.activate "mail" botGraph alice) .empty).active.get? "mail").map (fun active =>
          removedWebhooks plainSurroundings active.graph (callerUserId alice)) =
        some ["123:abc"] := by
      decide +kernel
    rw [show (afterGraphRequest plainAuth.hashToken plainSurroundings
      (.activate "mail" botGraph alice) .empty).active.get? "mail" = some active from hactive]
      at hremoved
    have htokens : removedWebhooks plainSurroundings active.graph (callerUserId alice) =
        ["123:abc"] :=
      Option.some.inj hremoved
    show token ∈ removedWebhooks plainSurroundings active.graph (callerUserId alice)
    rw [htokens, ← hkeys]
    exact Dict.get?_isSome_iff.mp hregistered

set_option maxRecDepth 20000 in
/-- A deletion leaves the webhook of the bot registered. -/
theorem deleted_bot_still_registered :
    (∀ step ∈ [botActivated, (plainSurroundings, .delete "mail")],
      TokensOwned mailOwner step.1 step.2) ∧
    ¬ EveryState plainAuth.hashToken [botActivated, (plainSurroundings, .delete "mail")] .empty
      (GraphBackend.WebhooksMatch mailOwner) := by
  constructor
  · intro step hstep
    rcases List.mem_cons.mp hstep with rfl | hstep
    · exact bot_owned
    · cases List.mem_singleton.mp hstep
      trivial
  · intro h
    have hregistered : ((afterGraphRequests plainAuth.hashToken
        [botActivated, (plainSurroundings, .delete "mail")] .empty).webhooks.get?
          "123:abc").isSome := by
      decide +kernel
    have hgone : (afterGraphRequests plainAuth.hashToken
        [botActivated, (plainSurroundings, .delete "mail")] .empty).active.keys = [] := by
      decide +kernel
    obtain ⟨url, hurl⟩ := Option.isSome_iff_exists.mp hregistered
    obtain ⟨graphId, active, hactive, _⟩ := h _ [] (List.append_nil _).symm "123:abc" url hurl
    have hmem : graphId ∈ (afterGraphRequests plainAuth.hashToken
        [botActivated, (plainSurroundings, .delete "mail")] .empty).active.keys :=
      Dict.mem_keys_iff.mpr ⟨active, hactive⟩
    rw [hgone] at hmem
    cases hmem

end AgentGraphStudio
