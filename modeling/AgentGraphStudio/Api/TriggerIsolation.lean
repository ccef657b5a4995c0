import AgentGraphStudio.Api.Activation
import AgentGraphStudio.Api.Auth

/-!
# Triggers of different graphs

Jobs and routes of a graph are removed by the beginning of their ids and paths. What belongs to
another graph can begin in the same way, and is removed with them: `triggers_isolated_iff`.
-/

namespace AgentGraphStudio

/-! ## Isolation -/

/-- The jobs, the routes and the registry entries of the other graphs are the same. -/
structure Isolated (graphId : String) (before after : GraphBackend) : Prop where
  jobs : after.jobs.filter (·.graphId ≠ graphId) = before.jobs.filter (·.graphId ≠ graphId)
  routes : after.routes.filter (·.graphId ≠ graphId) = before.routes.filter (·.graphId ≠ graphId)
  active : ∀ other, other ≠ graphId → after.active.get? other = before.active.get? other

/-- No job and no route of another graph begins like those of this graph. -/
structure GraphBackend.NoneCaught (backend : GraphBackend) (graphId : String) : Prop where
  jobs : ∀ job ∈ backend.jobs, startsWith job.id (graphId ++ ":") → job.graphId = graphId
  routes : ∀ route ∈ backend.routes,
    startsWith route.path ("/webhooks/" ++ graphId ++ "/") → route.graphId = graphId

/-- The request removes the jobs and routes of its graph. -/
def RemovesTriggers (surroundings : Surroundings) (backend : GraphBackend) :
    GraphRequest → Prop
  | .activate graphId graph caller =>
    validateForActivation surroundings graph (callerUserId caller) = .ok () ∧
      ((backend.active.get? graphId).isSome ∨
        (registrationFailure surroundings graphId (backend.vacate graphId).jobs graph
          (callerUserId caller)).any HandlerError.isHttpException)
  | .deactivate graphId caller =>
    ∃ active, backend.active.get? graphId = some active ∧
      removalFailure surroundings active.graph (callerUserId caller) = none
  | .delete graphId => (backend.active.get? graphId).isSome
  | _ => False

section

variable {α : Type}

/-- Filters can be swapped. -/
theorem filter_swap (first second : α → Bool) (items : List α) :
    (items.filter first).filter second = (items.filter second).filter first := by
  rw [List.filter_filter, List.filter_filter]
  exact List.filter_congr fun item _ => Bool.and_comm _ _

/-- Removing what is caught keeps what is foreign exactly if only what is own is caught. -/
theorem filter_caught_iff {caught own : α → Prop} [DecidablePred caught] [DecidablePred own]
    {items : List α} :
    (items.filter (¬ caught ·)).filter (¬ own ·) = items.filter (¬ own ·) ↔
      ∀ item ∈ items, caught item → own item := by
  rw [filter_swap, List.filter_eq_self]
  constructor
  · intro h item hitem hcaught
    by_contra hforeign
    have hkept := h item (List.mem_filter.mpr ⟨hitem, decide_eq_true hforeign⟩)
    exact of_decide_eq_true hkept hcaught
  · intro h item hitem
    obtain ⟨hmem, hforeign⟩ := List.mem_filter.mp hitem
    exact decide_eq_true fun hcaught => of_decide_eq_true hforeign (h item hmem hcaught)

end

section

variable {graphId : String} {before middle after backend : GraphBackend}

theorem Isolated.refl (graphId : String) (backend : GraphBackend) :
    Isolated graphId backend backend :=
  ⟨rfl, rfl, fun _ _ => rfl⟩

theorem Isolated.symm (h : Isolated graphId before after) : Isolated graphId after before :=
  ⟨h.jobs.symm, h.routes.symm, fun other hother => (h.active other hother).symm⟩

theorem Isolated.trans (h : Isolated graphId before middle) (h' : Isolated graphId middle after) :
    Isolated graphId before after :=
  ⟨h'.jobs.trans h.jobs, h'.routes.trans h.routes,
    fun other hother => (h'.active other hother).trans (h.active other hother)⟩

/-- What belongs to other graphs is kept exactly if none of it is caught. -/
theorem deactivate_isolated_iff :
    Isolated graphId backend (backend.deactivate graphId) ↔ backend.NoneCaught graphId := by
  constructor
  · exact fun h => ⟨filter_caught_iff.mp h.jobs, filter_caught_iff.mp h.routes⟩
  · exact fun h => ⟨filter_caught_iff.mpr h.jobs, filter_caught_iff.mpr h.routes,
      fun other hother => Dict.get?_erase_of_ne _ hother⟩

/-- A deactivation removes the same from backends that differ in one graph only. -/
theorem deactivate_isolated (h : Isolated graphId before after) :
    Isolated graphId (before.deactivate graphId) (after.deactivate graphId) := by
  refine ⟨?_, ?_, fun other hother => ?_⟩
  · show (after.jobs.filter _).filter _ = (before.jobs.filter _).filter _
    rw [filter_swap, h.jobs, filter_swap]
  · show (after.routes.filter _).filter _ = (before.routes.filter _).filter _
    rw [filter_swap, h.routes, filter_swap]
  · show (after.active.erase graphId).get? other = (before.active.erase graphId).get? other
    rw [Dict.get?_erase_of_ne _ hother, Dict.get?_erase_of_ne _ hother]
    exact h.active other hother

/-- Deactivating twice removes nothing more. -/
theorem deactivate_deactivate (backend : GraphBackend) (graphId : String) :
    (backend.deactivate graphId).deactivate graphId = backend.deactivate graphId := by
  have hactive : (backend.active.erase graphId).erase graphId = backend.active.erase graphId :=
    Dict.erase_of_notMem (Dict.get?_eq_none_iff.mp (Dict.get?_erase_self _ _))
  unfold GraphBackend.deactivate
  simp only [hactive, List.filter_filter, Bool.and_self]

/-- A registration only adds what belongs to its graph. -/
theorem register_isolated (nodes : List NodeSpec) :
    Isolated graphId backend (backend.register graphId nodes) := by
  have hjobs : (nodes.flatMap (triggerJobs graphId)).filter (·.graphId ≠ graphId) = [] := by
    refine List.filter_eq_nil_iff.mpr fun job hjob hforeign => ?_
    obtain ⟨node, _, hjob⟩ := List.mem_flatMap.mp hjob
    unfold triggerJobs at hjob
    split at hjob
    · cases List.mem_singleton.mp hjob
      exact of_decide_eq_true hforeign rfl
    · cases hjob
  have hroutes : (nodes.flatMap (triggerRoutes graphId)).filter (·.graphId ≠ graphId) = [] := by
    refine List.filter_eq_nil_iff.mpr fun route hroute hforeign => ?_
    obtain ⟨node, _, hroute⟩ := List.mem_flatMap.mp hroute
    unfold triggerRoutes at hroute
    split at hroute
    · cases List.mem_singleton.mp hroute
      exact of_decide_eq_true hforeign rfl
    · cases hroute
  refine ⟨?_, ?_, fun _ _ => rfl⟩
  · show (backend.jobs ++ _).filter _ = _
    rw [List.filter_append, hjobs, List.append_nil]
  · show (backend.routes ++ _).filter _ = _
    rw [List.filter_append, hroutes, List.append_nil]

/-- The registry entry of the graph is its own. -/
theorem set_active_isolated (active : ActiveGraph) :
    Isolated graphId backend (backend.setActive graphId active) :=
  ⟨rfl, rfl, fun _ hother => Dict.get?_set_of_ne _ _ hother⟩

end

/-! ## What a request does to the other graphs -/

section

variable {hashToken : String → String} {surroundings : Surroundings} {backend : GraphBackend}
  {graphId : String}

/-- The other graphs find the backend as it was, or as after a deactivation. -/
def LeavesOthers (removes : Prop) (graphId : String) (before after : GraphBackend) : Prop :=
  (¬ removes → Isolated graphId before after) ∧
    (removes → Isolated graphId (before.deactivate graphId) after)

theorem isolated_iff_of_leaves {removes : Prop} {after : GraphBackend}
    (h : LeavesOthers removes graphId backend after) :
    Isolated graphId backend after ↔ (removes → backend.NoneCaught graphId) := by
  constructor
  · exact fun hafter hremoves => deactivate_isolated_iff.mp (hafter.trans (h.2 hremoves).symm)
  · intro hnone
    by_cases hremoves : removes
    · exact (deactivate_isolated_iff.mpr (hnone hremoves)).trans (h.2 hremoves)
    · exact h.1 hremoves

/-- What follows the removal of an active graph leaves the others alone. -/
theorem leaves_of_vacate {after : GraphBackend}
    (h : Isolated graphId (backend.vacate graphId) after) :
    LeavesOthers ((backend.active.get? graphId).isSome) graphId backend after := by
  unfold GraphBackend.vacate at h
  constructor
  · intro hinactive
    rwa [if_neg hinactive] at h
  · intro hactive
    rwa [if_pos hactive] at h

/-- What follows the removal of a graph, active or not, leaves the others alone. -/
theorem vacate_deactivate :
    (backend.vacate graphId).deactivate graphId = backend.deactivate graphId := by
  unfold GraphBackend.vacate
  split
  · exact deactivate_deactivate backend graphId
  · rfl

/-- What changes no job, no route and no registry entry leaves the others alone. -/
theorem isolated_of_frame {α : Type} {act : GraphRoute α}
    (h : Stateful.Frame (fun backend : GraphBackend =>
      (backend.jobs, backend.routes, backend.active)) act) :
    Isolated graphId backend (Stateful.stateOf (act.run backend)) := by
  have hkept := h backend
  simp only [Prod.mk.injEq] at hkept
  obtain ⟨hjobs, hroutes, hactive⟩ := hkept
  refine ⟨?_, ?_, fun other _ => ?_⟩
  · rw [hjobs]
  · rw [hroutes]
  · rw [hactive]

theorem activate_graph_leaves (graph : GraphSpec) (caller : Caller) :
    LeavesOthers (RemovesTriggers surroundings backend (.activate graphId graph caller)) graphId
      backend (Stateful.stateOf
        ((activateGraph surroundings graphId graph caller).run backend)) := by
  have hregistered : Isolated graphId (backend.vacate graphId)
      ((backend.vacate graphId).registerGraph surroundings graphId graph (callerUserId caller)) :=
    ⟨(register_isolated _).jobs, (register_isolated _).routes, fun _ _ => rfl⟩
  rw [activate_graph_run]
  simp only [RemovesTriggers]
  cases validateForActivation surroundings graph (callerUserId caller) with
  | error e => exact ⟨fun _ => .refl _ _, fun h => nomatch h.1⟩
  | ok _ =>
      dsimp only
      simp only [true_and]
      cases registrationFailure surroundings graphId (backend.vacate graphId).jobs graph
        (callerUserId caller) with
      | some e =>
          cases hhttp : e.isHttpException with
          | true =>
              refine ⟨fun h => absurd (.inr hhttp) h, fun _ => ?_⟩
              dsimp only
              rw [← vacate_deactivate, if_pos hhttp]
              exact deactivate_isolated hregistered
          | false =>
              have hleaves := leaves_of_vacate hregistered
              simp only [Option.any_some, hhttp, Bool.false_eq_true, or_false]
              exact hleaves
      | none =>
          have hleaves := leaves_of_vacate (hregistered.trans (set_active_isolated
            ⟨graph, graphTriggers surroundings graphId graph, callerUserId caller⟩))
          simp only [Option.any_none, Bool.false_eq_true, or_false]
          rw [finish_activation_run]
          cases surroundings.dump graph with
          | error e => exact hleaves
          | ok specJson =>
              exact ⟨fun h => ⟨(hleaves.1 h).jobs, (hleaves.1 h).routes, (hleaves.1 h).active⟩,
                fun h => ⟨(hleaves.2 h).jobs, (hleaves.2 h).routes, (hleaves.2 h).active⟩⟩

theorem deactivate_graph_leaves (caller : Caller) :
    LeavesOthers (RemovesTriggers surroundings backend (.deactivate graphId caller)) graphId
      backend (Stateful.stateOf ((deactivateGraph surroundings graphId caller).run backend)) := by
  rw [deactivate_graph_run]
  simp only [RemovesTriggers]
  cases backend.active.get? graphId with
  | none =>
      refine ⟨fun _ => .refl _ _, fun h => ?_⟩
      obtain ⟨active, hactive, _⟩ := h
      cases hactive
  | some active =>
      dsimp only
      rw [Stateful.stateOf_ended]
      cases hremoval : removalFailure surroundings active.graph (callerUserId caller) with
      | some e =>
          refine ⟨fun _ => ⟨rfl, rfl, fun _ _ => rfl⟩, fun h => ?_⟩
          obtain ⟨found, hfound, hkept⟩ := h
          cases hfound
          rw [hremoval] at hkept
          cases hkept
      | none =>
          exact ⟨fun h => absurd ⟨active, rfl, hremoval⟩ h, fun _ => ⟨rfl, rfl, fun _ _ => rfl⟩⟩

theorem delete_graph_leaves :
    LeavesOthers (RemovesTriggers surroundings backend (.delete graphId)) graphId backend
      (Stateful.stateOf ((deleteGraph graphId).run backend)) := by
  have hleaves := leaves_of_vacate (Isolated.refl graphId (backend.vacate graphId))
  rw [delete_graph_run]
  dsimp only
  split
  · exact ⟨fun h => ⟨(hleaves.1 h).jobs, (hleaves.1 h).routes, (hleaves.1 h).active⟩,
      fun h => ⟨(hleaves.2 h).jobs, (hleaves.2 h).routes, (hleaves.2 h).active⟩⟩
  · exact ⟨fun h => ⟨(hleaves.1 h).jobs, (hleaves.1 h).routes, (hleaves.1 h).active⟩,
      fun h => ⟨(hleaves.2 h).jobs, (hleaves.2 h).routes, (hleaves.2 h).active⟩⟩

/-- A request leaves the other graphs alone exactly if nothing of theirs is caught when it removes
triggers. -/
theorem isolated_iff (request : GraphRequest) :
    Isolated request.graphId backend (afterGraphRequest hashToken surroundings request backend) ↔
      (RemovesTriggers surroundings backend request → backend.NoneCaught request.graphId) := by
  cases request with
  | activate graphId graph caller =>
    exact isolated_iff_of_leaves (activate_graph_leaves graph caller)
  | deactivate graphId caller => exact isolated_iff_of_leaves (deactivate_graph_leaves caller)
  | delete graphId => exact isolated_iff_of_leaves delete_graph_leaves
  | save graphId request caller =>
      exact iff_of_true (isolated_of_frame (create_graph_frame (fun _ _ => rfl) (fun _ _ => rfl)
        graphId request caller)) False.elim
  | update graphId request =>
      exact iff_of_true (isolated_of_frame (update_graph_frame (fun _ _ => rfl) (fun _ _ => rfl)
        graphId request)) False.elim
  | mintKey graphId label timeoutSeconds draw caller =>
      exact iff_of_true
        (isolated_of_frame (create_invoke_key_frame (fun _ _ => rfl) hashToken graphId
        label timeoutSeconds draw caller)) False.elim
  | revokeKey graphId keyId =>
      exact iff_of_true (isolated_of_frame (delete_invoke_key_frame (fun _ _ => rfl) graphId keyId))
        False.elim

end

/-- Every request of a history leaves the other graphs alone if and only if nothing of theirs is
caught by a request that removes triggers. -/
theorem triggers_isolated_iff (hashToken : String → String)
    (history : List (Surroundings × GraphRequest)) (start : GraphBackend) :
    EveryStep hashToken history start
        (fun surroundings backend request => Isolated request.graphId backend
          (afterGraphRequest hashToken surroundings request backend)) ↔
      EveryStep hashToken history start
        (fun surroundings backend request =>
          RemovesTriggers surroundings backend request → backend.NoneCaught request.graphId) :=
  forall_congr' fun _ => forall_congr' fun _ => forall_congr' fun _ => forall_congr' fun _ =>
    isolated_iff _

/-- The graphs `a` and `a:b` are activated, and `a` is deleted. -/
def nestedIds : List (Surroundings × GraphRequest) :=
  [(plainSurroundings, .activate "a" (cronGraph "tick" "* * * * *") alice),
    (plainSurroundings, .activate "a:b" (cronGraph "tick" "* * * * *") alice),
    (plainSurroundings, .delete "a")]

set_option maxRecDepth 20000 in
/-- With `a` the job of `a:b` is removed. -/
theorem nested_id_loses_job :
    ¬ EveryStep plainAuth.hashToken nestedIds .empty
      (fun surroundings backend request => Isolated request.graphId backend
        (afterGraphRequest plainAuth.hashToken surroundings request backend)) := by
  intro h
  have hisolated := h (nestedIds.take 2) (plainSurroundings, .delete "a") [] rfl
  exact absurd hisolated.jobs (by decide +kernel)

end AgentGraphStudio
