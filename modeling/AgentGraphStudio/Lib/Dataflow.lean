import Mathlib.Logic.Function.Basic
import Mathlib.Data.List.Nodup

/-!
# Dataflow networks

The nodes of a network read what other nodes did. `step id env` is what a node does when the others
did what `env` says; a node that does not run does nothing. Running the nodes one after the other,
each after those it reads, solves the equations `env id = step id env` (`runInOrder_eq`). A part of
a run in which every finished node is decided by finished ones agrees with every solution
(`Decided.agrees`), so that it does not matter how that part was scheduled.
-/

namespace Dataflow

variable {Node Done : Type}

/-- What a node does depends on the nodes it reads only. -/
def ReadsOnly (reads : Node → Node → Prop)
    (step : Node → (Node → Option Done) → Option Done) : Prop :=
  ∀ id env other, (∀ source, reads id source → env source = other source) →
    step id env = step id other

/-- No node stands before one that it reads, and none reads itself. -/
structure SourcesFirst (reads : Node → Node → Prop) (order : List Node) : Prop where
  nodup : order.Nodup
  apart : ∀ id ∈ order, ¬ reads id id
  first : order.Pairwise fun earlier later => ¬ reads earlier later

/-- Run the nodes one after the other. -/
def runInOrder [DecidableEq Node] (step : Node → (Node → Option Done) → Option Done) :
    List Node → (Node → Option Done) → Node → Option Done
  | [], env => env
  | id :: order, env => runInOrder step order (Function.update env id (step id env))

variable {reads : Node → Node → Prop} {step : Node → (Node → Option Done) → Option Done}

/-- A node that is not run keeps what it did. -/
theorem runInOrder_of_notMem [DecidableEq Node] {order : List Node} {id : Node} (h : id ∉ order)
    (env : Node → Option Done) : runInOrder step order env id = env id := by
  induction order generalizing env with
  | nil => rfl
  | cons head order ih =>
      rw [List.mem_cons, not_or] at h
      rw [runInOrder, ih h.2, Function.update_of_ne h.1]

/-- Running the nodes with sources first solves the equations of the network. -/
theorem runInOrder_eq [DecidableEq Node] (hreads : ReadsOnly reads step) {order : List Node}
    (horder : SourcesFirst reads order) (env : Node → Option Done) {id : Node} (hid : id ∈ order) :
    runInOrder step order env id = step id (runInOrder step order env) := by
  induction order generalizing env with
  | nil => cases hid
  | cons head order ih =>
      obtain ⟨hnodup, hapart, hfirst⟩ := horder
      rw [List.nodup_cons] at hnodup
      rw [List.pairwise_cons] at hfirst
      rw [List.forall_mem_cons] at hapart
      rcases List.mem_cons.mp hid with rfl | hid
      · rw [runInOrder, runInOrder_of_notMem hnodup.1, Function.update_self]
        -- What the head reads comes neither later nor from itself, and stays as it was.
        refine hreads _ _ _ fun source hsource => ?_
        have hlater : source ∉ order := fun hmem => hfirst.1 source hmem hsource
        have hself : source ≠ id := fun heq => hapart.1 (heq ▸ hsource)
        rw [runInOrder_of_notMem hlater, Function.update_of_ne hself]
      · exact ih ⟨hnodup.2, hapart.2, hfirst.2⟩ _ hid

/-- The nodes that are finished did what their finished sources decide, whatever the others do. -/
def Decided (reads : Node → Node → Prop) (step : Node → (Node → Option Done) → Option Done)
    (finished : Node → Prop) (run : Node → Option Done) : Prop :=
  ∀ id, finished id → ∀ env, (∀ source, reads id source → finished source →
    env source = run source) → step id env = run id

/-- A part of a run agrees with every solution of the equations. -/
theorem Decided.agrees {finished : Node → Prop} {run env : Node → Option Done}
    (h : Decided reads step finished run) (rank : Node → Nat)
    (hrank : ∀ id source, reads id source → rank source < rank id)
    (henv : ∀ id, finished id → env id = step id env) {id : Node} (hid : finished id) :
    run id = env id := by
  induction hlevel : rank id using Nat.strongRecOn generalizing id with
  | ind level ih =>
      rw [henv id hid]
      refine (h id hid env fun source hsource hfinished => ?_).symm
      exact (ih _ (hlevel ▸ hrank id source hsource) hfinished rfl).symm

end Dataflow
