import AgentGraphStudio.Api.Activation
import AgentGraphStudio.Api.Auth

/-!
# Invoke keys of deleted graphs

Saving, activating and deleting graphs leaves the table of invoke keys alone. So the keys of a
graph outlive it, and they open a graph that is saved or activated again under the same id.
`invoke_keys_die_iff` says that exactly the keys that were revoked before a deletion are dead after
it.
-/

namespace AgentGraphStudio

/-! ## What a request does to the keys -/

section

variable (hashToken : String → String)

/-- The operation on the table of keys that a request comes to. A key is minted for a saved graph
only. -/
def GraphRequest.keyOperation (surroundings : Surroundings) (backend : GraphBackend) :
    GraphRequest → Option KeyOperation
  | .mintKey graphId label timeoutSeconds draw caller =>
    if (backend.rows.get? graphId).isNone then none
    else if ¬ (1 ≤ timeoutSeconds ∧ timeoutSeconds ≤ MAX_INVOKE_TIMEOUT_SECONDS) then none
    else some (.mint graphId
      { label, createdAt := surroundings.now, timeoutSeconds
        createdBy := callerUserId caller } draw)
  | .revokeKey graphId keyId => some (.revoke graphId keyId)
  | _ => none

/-- The operations on the table of keys in a history. -/
def keyOperations : List (Surroundings × GraphRequest) → GraphBackend → List KeyOperation
  | [], _ => []
  | (surroundings, request) :: history, backend =>
    (request.keyOperation surroundings backend).toList ++
      keyOperations history (afterGraphRequest hashToken surroundings request backend)

variable {hashToken} {surroundings : Surroundings} {backend : GraphBackend}

theorem insert_invoke_key_keys (graphId : String) (description : KeyDescription)
    (draw : KeyDraw) :
    (Stateful.stateOf
      ((insertInvokeKey hashToken graphId description draw).run backend)).keys =
      (KeyOperation.mint graphId description draw).apply hashToken backend.keys := by
  unfold insertInvokeKey KeyOperation.apply
  rw [Stateful.run_get_bind]
  dsimp only
  cases generateInvokeKey hashToken graphId description draw backend.keys with
  | error e => rfl
  | ok made => rfl

/-- A request changes the keys by its operation. -/
theorem after_request_keys (request : GraphRequest) :
    (afterGraphRequest hashToken surroundings request backend).keys =
      (request.keyOperation surroundings backend).toList.foldl (KeyOperation.apply hashToken)
        backend.keys := by
  cases request with
  | save graphId request caller =>
      exact create_graph_frame (fun _ _ => rfl) (fun _ _ => rfl) graphId request caller backend
  | update graphId request =>
      exact update_graph_frame (fun _ _ => rfl) (fun _ _ => rfl) graphId request backend
  | activate graphId graph caller =>
      exact activate_graph_frame (fun _ _ _ _ _ _ => rfl) graphId graph caller backend
  | deactivate graphId caller =>
      exact deactivate_graph_frame (fun _ _ _ _ _ _ => rfl) graphId caller backend
  | delete graphId =>
      exact delete_graph_frame (fun _ _ _ _ _ _ => rfl) (fun _ _ => rfl) graphId backend
  | mintKey graphId label timeoutSeconds draw caller =>
      show (Stateful.stateOf (EStateM.run (if (backend.rows.get? graphId).isNone then _ else
        if ¬ (1 ≤ timeoutSeconds ∧ timeoutSeconds ≤ MAX_INVOKE_TIMEOUT_SECONDS) then _ else _)
          backend)).keys =
        (if (backend.rows.get? graphId).isNone then none else
          if ¬ (1 ≤ timeoutSeconds ∧ timeoutSeconds ≤ MAX_INVOKE_TIMEOUT_SECONDS) then none
          else some _ : Option KeyOperation).toList.foldl
            (KeyOperation.apply hashToken) backend.keys
      by_cases hsaved : (backend.rows.get? graphId).isNone
      · rw [if_pos hsaved, if_pos hsaved]
        rfl
      · rw [if_neg hsaved, if_neg hsaved]
        by_cases htimeout : 1 ≤ timeoutSeconds ∧ timeoutSeconds ≤ MAX_INVOKE_TIMEOUT_SECONDS
        · rw [if_neg (not_not.mpr htimeout), if_neg (not_not.mpr htimeout)]
          exact insert_invoke_key_keys graphId _ draw
        · rw [if_pos htimeout, if_pos htimeout]
          rfl
  | revokeKey graphId keyId =>
      show (Stateful.stateOf (EStateM.run (if (revokeInvokeKey graphId keyId backend.keys).1 then _
        else _) { backend with keys := (revokeInvokeKey graphId keyId backend.keys).2 })).keys = _
      split <;> rfl

theorem key_operations_append (first rest : List (Surroundings × GraphRequest)) :
    keyOperations hashToken (first ++ rest) backend =
      keyOperations hashToken first backend ++
        keyOperations hashToken rest (afterGraphRequests hashToken first backend) := by
  induction first generalizing backend with
  | nil => rfl
  | cons step first ih =>
      show _ ++ keyOperations hashToken (first ++ rest) _ =
        (_ ++ keyOperations hashToken first _) ++ _
      rw [ih, List.append_assoc]
      rfl

/-- The keys after a history are those after its operations. -/
theorem after_requests_keys (history : List (Surroundings × GraphRequest)) :
    (afterGraphRequests hashToken history backend).keys =
      (keyOperations hashToken history backend).foldl (KeyOperation.apply hashToken)
        backend.keys := by
  induction history generalizing backend with
  | nil => rfl
  | cons step history ih =>
      show (afterGraphRequests hashToken history _).keys =
        (_ ++ keyOperations hashToken history _).foldl _ _
      rw [ih, after_request_keys, List.foldl_append]

/-- Without a key of a graph and without minting one, there is none. -/
theorem no_keys_kept {graphId : String} {operations : List KeyOperation} {table : InvokeKeyTable}
    (h : ∀ keyId keyHash, ¬ table.Stores graphId keyId keyHash)
    (hmint : ∀ description draw, .mint graphId description draw ∉ operations) :
    ∀ keyId keyHash,
      ¬ (operations.foldl (KeyOperation.apply hashToken) table).Stores graphId keyId keyHash := by
  induction operations generalizing table with
  | nil => exact h
  | cons operation operations ih =>
      refine ih (fun keyId keyHash hstored => ?_) fun description draw hmem =>
        hmint description draw (List.mem_cons_of_mem _ hmem)
      rcases stores_apply_iff.mp hstored with ⟨hold, _⟩ | ⟨_, ⟨description, draw, _, _, rfl, _⟩, _⟩
      · exact h keyId keyHash hold
      · exact hmint description draw List.mem_cons_self

end

/-! ## Deleting a graph -/

/-- The request asks for a key of this graph. -/
def GraphRequest.AsksForKey (graphId : String) : GraphRequest → Prop
  | .mintKey minted _ _ _ _ => minted = graphId
  | _ => False

/-- Some operation minted the key for this graph. -/
def KeyMinted (hashToken : String → String) (operations : List KeyOperation)
    (graphId keyId token : String) : Prop :=
  ∃ before mint since, operations = before ++ mint :: since ∧
    mint.Mints hashToken (keysAfter hashToken before) graphId keyId token

section

variable (hashToken : String → String) (before : List (Surroundings × GraphRequest))
  (surroundings : Surroundings) (graphId : String)

/-- After the graph is deleted, and until a new key is asked for, no key that was minted for it
before is accepted. -/
def KeysDie : Prop :=
  ∀ after, (∀ step ∈ after, ¬ step.2.AsksForKey graphId) →
  ∀ keyId token, KeyMinted hashToken (keyOperations hashToken before .empty) graphId keyId token →
  ∀ now, (validateInvokeKey hashToken graphId token now
    (afterGraphRequests hashToken (before ++ (surroundings, .delete graphId) :: after)
      .empty).keys).1 = none

end

section

variable {hashToken : String → String} {surroundings : Surroundings} {backend : GraphBackend}

/-- Only a request that asks for a key of the graph mints one. -/
theorem asks_for_key_of_mint {request : GraphRequest} {graphId : String}
    {description : KeyDescription} {draw : KeyDraw}
    (h : request.keyOperation surroundings backend = some (.mint graphId description draw)) :
    request.AsksForKey graphId := by
  cases request with
  | mintKey minted label timeoutSeconds drawn caller =>
      show minted = graphId
      unfold GraphRequest.keyOperation at h
      dsimp only at h
      split at h
      · cases h
      · split at h
        · cases h
        · cases h
          rfl
  | save | update | activate | deactivate | delete | revokeKey => cases h

/-- Requests that ask for no key of a graph mint none. -/
theorem not_minted_of_not_asked {graphId : String}
    {history : List (Surroundings × GraphRequest)}
    (h : ∀ step ∈ history, ¬ step.2.AsksForKey graphId)
    (description : KeyDescription) (draw : KeyDraw) :
    .mint graphId description draw ∉ keyOperations hashToken history backend := by
  induction history generalizing backend with
  | nil => exact List.not_mem_nil
  | cons step history ih =>
      intro hmem
      rcases List.mem_append.mp hmem with hfirst | hrest
      · exact h step List.mem_cons_self (asks_for_key_of_mint (Option.mem_toList.mp hfirst))
      · exact ih (fun step hstep => h step (List.mem_cons_of_mem _ hstep)) hrest

end

/-- The keys after a deletion and what follows it. -/
theorem keys_after_deletion (hashToken : String → String)
    (before after : List (Surroundings × GraphRequest)) (surroundings : Surroundings)
    (graphId : String) :
    ∃ deleted, (afterGraphRequests hashToken (before ++ (surroundings, .delete graphId) :: after)
      .empty).keys =
        (keyOperations hashToken after deleted).foldl (KeyOperation.apply hashToken)
          (keysAfter hashToken (keyOperations hashToken before .empty)) := by
  refine ⟨afterGraphRequest hashToken surroundings (.delete graphId)
    (afterGraphRequests hashToken before .empty), ?_⟩
  rw [after_requests_keys, key_operations_append, List.foldl_append]
  rfl

/-- No key of a deleted graph is accepted any more if and only if every key that was minted for the
graph had been revoked before. -/
theorem invoke_keys_die_iff (hashToken : String → String)
    (before : List (Surroundings × GraphRequest)) (surroundings : Surroundings)
    (graphId : String) :
    KeysDie hashToken before surroundings graphId ↔
      ∀ keyId token,
        ¬ KeyLive hashToken (keyOperations hashToken before .empty) graphId keyId token := by
  -- A live key is validated right after the deletion, which leaves the keys alone.
  constructor
  · intro h keyId token hlive
    have hminted : KeyMinted hashToken (keyOperations hashToken before .empty) graphId keyId
        token := by
      obtain ⟨first, mint, since, hsplit, hmints, _⟩ := hlive
      exact ⟨first, mint, since, hsplit, hmints⟩
    have hrefused := h [] (fun _ hmem => absurd hmem List.not_mem_nil) keyId token hminted none
    obtain ⟨deleted, hkeys⟩ := keys_after_deletion hashToken before [] surroundings graphId
    have haccepted : (validateInvokeKey hashToken graphId token none
        (keysAfter hashToken (keyOperations hashToken before .empty))).1.isSome = _ :=
      validate_invoke_key_isSome graphId token none
    rw [hkeys, show keyOperations hashToken [] deleted = [] from rfl, List.foldl_nil] at hrefused
    rw [hrefused, find_invoke_key_isSome_iff.mpr
      ⟨keyId, (stored_iff_live _).mpr ⟨token, hlive, rfl⟩⟩] at haccepted
    cases haccepted
  · intro h after hafter keyId token _ now
    obtain ⟨deleted, hkeys⟩ := keys_after_deletion hashToken before after surroundings graphId
    have hnone : ∀ keyId keyHash,
        ¬ (keysAfter hashToken (keyOperations hashToken before .empty)).Stores graphId keyId
          keyHash := by
      intro keyId keyHash hstored
      obtain ⟨token, hlive, _⟩ := (stored_iff_live _).mp hstored
      exact h keyId token hlive
    rw [hkeys, ← Option.not_isSome_iff_eq_none, validate_invoke_key_isSome,
      find_invoke_key_isSome_iff]
    intro hfound
    obtain ⟨found, hstored⟩ := hfound
    exact no_keys_kept hnone (not_minted_of_not_asked hafter) found _ hstored

/-- The graph `mail` is activated, and a key is minted for it. -/
def mailWithKey : List (Surroundings × GraphRequest) :=
  [(plainSurroundings, .activate "mail" (cronGraph "tick" "* * * * *") alice),
    (plainSurroundings, .mintKey "mail" "ci" 60 ⟨"secret", "k1"⟩ alice)]

set_option maxRecDepth 20000 in
/-- The key of a deleted graph opens the graph that is activated under its id later. -/
theorem recreated_mail_keeps_key :
    ¬ KeysDie plainAuth.hashToken mailWithKey plainSurroundings "mail" := by
  intro h
  have hoperations : keyOperations plainAuth.hashToken mailWithKey .empty =
      [.mint "mail" { label := "ci", createdAt := "2026-01-01T00:00:00Z", timeoutSeconds := 60
                      createdBy := some "alice" } ⟨"secret", "k1"⟩] := by
    decide +kernel
  have hminted : KeyMinted plainAuth.hashToken
      (keyOperations plainAuth.hashToken mailWithKey .empty) "mail" "k1" "agsk_secret" := by
    rw [hoperations]
    exact ⟨[], _, [], rfl, _, _, _, _, rfl, rfl, rfl⟩
  have hrefused := h
    [(plainSurroundings, .activate "mail" (cronGraph "tick" "* * * * *") alice)]
    (fun step hstep => by
      cases List.mem_singleton.mp hstep
      exact id)
    "k1" "agsk_secret" hminted none
  exact absurd hrefused (by decide +kernel)

end AgentGraphStudio
