import AgentGraphStudio.Api.Activation
import AgentGraphStudio.Api.Auth

/-!
# The registry and the stored activation state

A graph is active in memory exactly if its row is flagged active. An activation keeps this unless it
fails after it removed what was active under the id, or fails to store a graph that it has put into
the registry. `activation_agrees_iff` is about whole histories.
-/

namespace AgentGraphStudio

/-- Exactly the flagged graphs are in the registry. -/
def GraphBackend.ActivationAgrees (backend : GraphBackend) : Prop :=
  ∀ graphId, (backend.active.get? graphId).isSome ↔ backend.rows.Flagged graphId

/-- The request keeps the registry and the rows together. A graph that passes validation must either
be registered and stored, or fail to be registered while its id was inactive; the spec of a graph
that was active already need not be stored. -/
def KeepsActivation (surroundings : Surroundings) (backend : GraphBackend) :
    GraphRequest → Prop
  | .activate graphId graph caller =>
    validateForActivation surroundings graph (callerUserId caller) = .ok () →
      match registrationFailure surroundings graphId (backend.vacate graphId).jobs graph
        (callerUserId caller) with
      | some _ => backend.active.get? graphId = none
      | none => (backend.active.get? graphId).isSome ∨ ∃ text, surroundings.dump graph = .ok text
  | _ => True

section

variable {hashToken : String → String} {surroundings : Surroundings}
  {backend after : GraphBackend} {graphId : String}

/-- Only the registry and the rows count. -/
theorem agrees_of_eq (h : backend.ActivationAgrees) (hactive : after.active = backend.active)
    (hrows : after.rows = backend.rows) : after.ActivationAgrees := by
  intro graphId
  rw [hactive, hrows]
  exact h graphId

/-- A graph that is gone from the registry must not be flagged. -/
theorem agrees_erase_iff (h : backend.ActivationAgrees)
    (hactive : after.active = backend.active.erase graphId) (hrows : after.rows = backend.rows) :
    after.ActivationAgrees ↔ backend.active.get? graphId = none := by
  unfold GraphBackend.ActivationAgrees
  rw [hactive, hrows]
  constructor
  · intro hafter
    have hflagged := hafter graphId
    rw [Dict.get?_erase_self, ← h graphId] at hflagged
    exact Option.not_isSome_iff_eq_none.mp fun hsome => nomatch hflagged.mpr hsome
  · intro hnone other
    by_cases hsame : other = graphId
    · rw [← h other, hsame, Dict.get?_erase_self, hnone]
    · rw [Dict.get?_erase_of_ne _ hsame]
      exact h other

/-- A graph that is put into the registry must be flagged. -/
theorem agrees_set_iff (h : backend.ActivationAgrees) {active : ActiveGraph}
    (hactive : after.active = (backend.active.erase graphId).set graphId active)
    (hrows : after.rows = backend.rows) :
    after.ActivationAgrees ↔ (backend.active.get? graphId).isSome := by
  unfold GraphBackend.ActivationAgrees
  rw [hactive, hrows]
  constructor
  · intro hafter
    have hflagged := hafter graphId
    rw [Dict.get?_set_self] at hflagged
    exact (h graphId).mpr (hflagged.mp rfl)
  · intro hsome other
    by_cases hsame : other = graphId
    · rw [← h other, hsame, Dict.get?_set_self, hsome]
      rfl
    · rw [Dict.get?_set_of_ne _ _ hsame, Dict.get?_erase_of_ne _ hsame]
      exact h other

/-- What an activation does to the agreement. -/
theorem agrees_after_activate_iff (h : backend.ActivationAgrees) (graph : GraphSpec)
    (caller : Caller) :
    (Stateful.stateOf
      ((activateGraph surroundings graphId graph caller).run backend)).ActivationAgrees ↔
      KeepsActivation surroundings backend (.activate graphId graph caller) := by
  simp only [KeepsActivation]
  generalize hafter : Stateful.stateOf
    ((activateGraph surroundings graphId graph caller).run backend) = after
  rcases activate_graph_tables graphId graph caller hafter with
    ⟨⟨e, hinvalid⟩, rfl⟩ | ⟨hvalid, _, hfailed | ⟨hregistered, hactive, hrows⟩⟩
  · exact iff_of_true h fun hvalid => nomatch hinvalid.symm.trans hvalid
  · obtain ⟨⟨e, hfailure⟩, hactive, hrows⟩ := hfailed
    rw [hfailure, agrees_erase_iff h hactive hrows]
    exact ⟨fun hnone _ => hnone, fun hnone => hnone hvalid⟩
  · rw [hregistered]
    rcases hrows with ⟨⟨e, hdump⟩, hrows⟩ | ⟨text, hdump, hrows⟩
    · rw [agrees_set_iff h hactive hrows]
      constructor
      · exact fun hsome _ => .inl hsome
      · intro hkept
        rcases hkept hvalid with hsome | ⟨text, hstored⟩
        · exact hsome
        · cases hdump.symm.trans hstored
    · refine iff_of_true (fun other => ?_) fun _ => .inr ⟨text, hdump⟩
      obtain ⟨row, hrow, hflag, _⟩ := GraphsTable.set_active_state_eq backend.rows graphId
        text true surroundings.now
      rw [hactive, hrows, hrow, GraphsTable.flagged_set_iff]
      by_cases hsame : other = graphId
      · rw [if_pos hsame, hsame, Dict.get?_set_self]
        exact ⟨fun _ => hflag, fun _ => rfl⟩
      · rw [if_neg hsame, Dict.get?_set_of_ne _ _ hsame, Dict.get?_erase_of_ne _ hsame]
        exact h other

/-- A graph leaves the registry and loses its flag together. -/
theorem agrees_of_removed (h : backend.ActivationAgrees)
    (hactive : after.active = backend.active.erase graphId)
    (hrows : ∀ other, after.rows.Flagged other ↔ other ≠ graphId ∧ backend.rows.Flagged other) :
    after.ActivationAgrees := by
  intro other
  rw [hactive, hrows, ← h other]
  by_cases hsame : other = graphId
  · rw [hsame, Dict.get?_erase_self]
    exact ⟨nofun, fun hkept => absurd rfl hkept.1⟩
  · rw [Dict.get?_erase_of_ne _ hsame]
    exact ⟨fun hsome => ⟨hsame, hsome⟩, fun hkept => hkept.2⟩

theorem agrees_after_deactivate (h : backend.ActivationAgrees) (caller : Caller) :
    (Stateful.stateOf
      ((deactivateGraph surroundings graphId caller).run backend)).ActivationAgrees := by
  rw [deactivate_graph_run]
  cases backend.active.get? graphId with
  | none => exact h
  | some active =>
      dsimp only
      rw [Stateful.stateOf_ended]
      cases removalFailure surroundings active.graph (callerUserId caller) with
      | some e => exact h
      | none => exact agrees_of_removed h rfl fun _ => GraphsTable.flagged_set_is_active_iff

theorem agrees_after_delete (h : backend.ActivationAgrees) :
    (Stateful.stateOf ((deleteGraph graphId).run backend)).ActivationAgrees := by
  have hremoved : ∀ after : GraphBackend,
      after.active = (backend.vacate graphId).active →
      after.rows = (backend.rows.deleteGraph graphId).2 → after.ActivationAgrees := by
    intro after hactive hrows
    refine agrees_of_removed h (hactive.trans (vacate_active backend graphId)) fun other => ?_
    rw [hrows]
    exact GraphsTable.flagged_delete_iff
  rw [delete_graph_run]
  dsimp only
  split
  · exact hremoved _ rfl rfl
  · exact hremoved _ rfl rfl

/-- A new row is not flagged, and its graph was not active. -/
theorem agrees_after_create (h : backend.ActivationAgrees) (request : CreateGraphRequest)
    (caller : Caller) :
    (Stateful.stateOf
      ((createGraph surroundings graphId request caller).run backend)).ActivationAgrees := by
  have hactive : (Stateful.stateOf ((createGraph surroundings graphId request caller).run
      backend)).active = backend.active :=
    create_graph_frame (fun _ _ => rfl) (fun _ _ => rfl) graphId request caller backend
  rcases create_graph_rows graphId request caller with hrows | ⟨row, hnew, hinactive, hrows⟩
  · exact agrees_of_eq h hactive hrows
  · intro other
    rw [hactive, hrows, GraphsTable.flagged_set_iff, h other]
    split
    · rename_i hsame
      rw [hsame, hinactive]
      refine ⟨fun hflagged => ?_, nofun⟩
      obtain ⟨found, hfound, _⟩ := hflagged
      rw [hnew] at hfound
      cases hfound
    · exact Iff.rfl

/-- A change of a row keeps its flag. -/
theorem agrees_after_update (h : backend.ActivationAgrees) (request : UpdateGraphRequest) :
    (Stateful.stateOf
      ((updateGraph surroundings graphId request).run backend)).ActivationAgrees := by
  have hactive : (Stateful.stateOf ((updateGraph surroundings graphId request).run
      backend)).active = backend.active :=
    update_graph_frame (fun _ _ => rfl) (fun _ _ => rfl) graphId request backend
  rcases update_graph_rows graphId request with
    hrows | ⟨existing, row, _, hexisting, hflag, _, _, _, hrows⟩
  · exact agrees_of_eq h hactive hrows
  · intro other
    rw [hactive, hrows, GraphsTable.flagged_set_iff, h other]
    split
    · rename_i hsame
      rw [hsame, hflag]
      constructor
      · intro hflagged
        obtain ⟨found, hfound, hactive⟩ := hflagged
        cases hexisting.symm.trans hfound
        exact hactive
      · exact fun hactive => ⟨existing, hexisting, hactive⟩
    · exact Iff.rfl

/-- After a request the registry and the rows agree if and only if the request keeps them
together. -/
theorem agrees_after_iff (h : backend.ActivationAgrees) (request : GraphRequest) :
    (afterGraphRequest hashToken surroundings request backend).ActivationAgrees ↔
      KeepsActivation surroundings backend request := by
  cases request with
  | save graphId request caller => exact iff_of_true (agrees_after_create h request caller) trivial
  | update graphId request => exact iff_of_true (agrees_after_update h request) trivial
  | activate graphId graph caller => exact agrees_after_activate_iff h graph caller
  | deactivate graphId caller => exact iff_of_true (agrees_after_deactivate h caller) trivial
  | delete graphId => exact iff_of_true (agrees_after_delete h) trivial
  | mintKey graphId label timeoutSeconds draw caller =>
      refine iff_of_true (agrees_of_eq h ?_ ?_) trivial
      · exact create_invoke_key_frame (fun _ _ => rfl) hashToken graphId label timeoutSeconds draw
          caller backend
      · exact create_invoke_key_frame (fun _ _ => rfl) hashToken graphId label timeoutSeconds draw
          caller backend
  | revokeKey graphId keyId =>
      refine iff_of_true (agrees_of_eq h ?_ ?_) trivial
      · exact delete_invoke_key_frame (fun _ _ => rfl) graphId keyId backend
      · exact delete_invoke_key_frame (fun _ _ => rfl) graphId keyId backend

end

/-- In a history that starts with agreement, the registry and the rows agree after every request if
and only if every request keeps them together. -/
theorem activation_agrees_iff (hashToken : String → String)
    (history : List (Surroundings × GraphRequest)) (start : GraphBackend)
    (hstart : start.ActivationAgrees) :
    EveryState hashToken history start GraphBackend.ActivationAgrees ↔
      EveryStep hashToken history start KeepsActivation :=
  every_state_iff (fun step _ _ h => agrees_after_iff h step.2) hstart

/-- An empty backend has no active graph and no row. -/
theorem empty_agrees : GraphBackend.empty.ActivationAgrees := by
  intro graphId
  refine ⟨nofun, fun h => ?_⟩
  obtain ⟨row, hrow, _⟩ := h
  cases hrow

/-- A graph is activated and deleted. -/
def mailDeletedAgain : List (Surroundings × GraphRequest) :=
  [(plainSurroundings, .activate "mail" (cronGraph "tick" "* * * * *") alice),
    (plainSurroundings, .delete "mail")]

set_option maxRecDepth 20000 in
/-- The registry and the rows agree throughout. -/
theorem deleted_mail_agrees :
    EveryState plainAuth.hashToken mailDeletedAgain .empty GraphBackend.ActivationAgrees := by
  refine (activation_agrees_iff plainAuth.hashToken mailDeletedAgain .empty empty_agrees).mpr ?_
  refine every_step_cons (fun _ => ?_) (every_step_cons trivial (every_step_nil _))
  have hregistered : (registrationFailure plainSurroundings "mail" []
      (cronGraph "tick" "* * * * *") (callerUserId alice)).isNone := by
    decide +kernel
  show match registrationFailure plainSurroundings "mail" [] (cronGraph "tick" "* * * * *")
      (callerUserId alice) with
    | some _ => GraphBackend.empty.active.get? "mail" = none
    | none => (GraphBackend.empty.active.get? "mail").isSome ∨
        ∃ text, plainSurroundings.dump (cronGraph "tick" "* * * * *") = .ok text
  rw [Option.isNone_iff_eq_none.mp hregistered]
  exact .inr ⟨_, rfl⟩

/-- A graph is activated, and then its cron expression is changed to one that is refused. -/
def mailReactivated : List (Surroundings × GraphRequest) :=
  [(plainSurroundings, .activate "mail" (cronGraph "tick" "* * * * *") alice),
    (plainSurroundings, .activate "mail" (cronGraph "tick" "never") alice)]

set_option maxRecDepth 20000 in
/-- The refused re-activation removed the graph from the registry, and its row is still flagged. -/
theorem reactivated_mail_disagrees :
    ¬ EveryState plainAuth.hashToken mailReactivated .empty GraphBackend.ActivationAgrees := by
  intro h
  have hagrees := h mailReactivated [] (List.append_nil _).symm "mail"
  have hgone : ((afterGraphRequests plainAuth.hashToken mailReactivated .empty).active.get?
      "mail").isSome = false := by
    decide +kernel
  have hflagged : ((afterGraphRequests plainAuth.hashToken mailReactivated .empty).rows.get?
      "mail").map StoredGraph.isActive = some true := by
    decide +kernel
  obtain ⟨row, hrow, hactive⟩ := Option.map_eq_some_iff.mp hflagged
  rw [hgone] at hagrees
  exact nomatch hagrees.mpr ⟨row, hrow, hactive⟩

end AgentGraphStudio
