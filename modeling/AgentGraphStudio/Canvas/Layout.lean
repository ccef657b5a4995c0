import AgentGraphStudio.Canvas.Serialization
import AgentGraphStudio.Schema.Topo

/-!
# The layout of a loaded graph

`computeLayout` of `frontend/src/graph/layout.ts`: a node's column is the longest path to it, and
its row the number of nodes before it in the column. The main loop is Kahn's algorithm with an
array as its queue (`LayoutState.kahn`), so what is known of that algorithm also holds here:
`layout_final_kahn`. The levels rise along every edge out of a visited node (`LevelsRise`).
-/

namespace AgentGraphStudio

structure LayoutPosition where
  x : Nat
  y : Nat
  deriving DecidableEq

def X_SPACING : Nat := 220
def Y_SPACING : Nat := 110
def X_OFFSET : Nat := 60
def Y_OFFSET : Nat := 80

/-- The object `positions`. An assignment to `__proto__` replaces its prototype, and gives it no key
of that name. The properties that it inherits are never read. -/
structure Positions where
  own : Dict String LayoutPosition := .empty
  prototype : Option LayoutPosition := none

namespace Positions

def set (positions : Positions) (id : String) (position : LayoutPosition) : Positions :=
  if id = "__proto__" then { positions with prototype := some position }
  else { positions with own := positions.own.set id position }

def get? (positions : Positions) (id : String) : Option LayoutPosition :=
  if id = "__proto__" then positions.prototype else positions.own.get? id

variable {id other : String} (positions : Positions) (position : LayoutPosition)

theorem get?_set_self : (positions.set id position).get? id = some position := by
  by_cases hproto : id = "__proto__"
  · rw [set, get?, if_pos hproto, if_pos hproto]
  · rw [set, get?, if_neg hproto, if_neg hproto]
    exact Dict.get?_set_self _ _ _

theorem get?_set_of_ne (h : other ≠ id) :
    (positions.set id position).get? other = positions.get? other := by
  by_cases hproto : id = "__proto__"
  · rw [set, get?, get?, if_pos hproto, if_neg (hproto ▸ h), if_neg (hproto ▸ h)]
  · rw [set, get?, get?, if_neg hproto, Dict.get?_set_of_ne _ _ h]

end Positions

namespace Layout

/-- The maps `adjacency` and `incoming`. -/
structure Tables where
  adjacency : Dict String (List String)
  incoming : Dict String Int

/-- Enter one edge, unless it names an unknown node. -/
def Tables.add (nodeIds : List String) (tables : Tables) (edge : GraphEdgeSpec) : Tables :=
  if edge.fromEnd.node ∉ nodeIds ∨ edge.toEnd.node ∉ nodeIds then tables
  else
    { adjacency := tables.adjacency.set edge.fromEnd.node
        (tables.adjacency.getD edge.fromEnd.node [] ++ [edge.toEnd.node])
      incoming := tables.incoming.set edge.toEnd.node
        (tables.incoming.getD edge.toEnd.node 0 + 1) }

def tables (nodeIds : List String) (edges : List GraphEdgeSpec) : Tables :=
  edges.foldl (Tables.add nodeIds)
    { adjacency := .ofList (nodeIds.map fun id => (id, []))
      incoming := .ofList (nodeIds.map fun id => (id, 0)) }

/-- The variables of the main loop. -/
structure LayoutState where
  level : Dict String Nat
  remaining : Dict String Int
  queue : List String
  head : Nat

namespace LayoutState

/-- Go along an edge from a node. -/
def relax (id : String) (state : LayoutState) (next : String) : LayoutState :=
  let level := state.level.set next
    (max (state.level.getD next 0) (state.level.getD id 0 + 1))
  let remaining := state.remaining.set next (state.remaining.getD next 1 - 1)
  { state with
    level, remaining
    queue := if remaining.getD next 0 ≤ 0 ∧ next ∉ state.queue then state.queue ++ [next]
      else state.queue }

/-- Take a node from the queue and go along its edges. -/
def visit (adjacency : Dict String (List String)) (state : LayoutState) (id : String) :
    LayoutState :=
  (adjacency.getD id []).foldl (relax id) { state with head := state.head + 1 }

/-- The main loop, for at most this many iterations. -/
def loop (adjacency : Dict String (List String)) : Nat → LayoutState → LayoutState
  | 0, state => state
  | fuel + 1, state =>
    match state.queue[state.head]? with
    | none => state
    | some id => loop adjacency fuel (visit adjacency state id)

end LayoutState

/-- The main loop without a bound: it goes on while there is a node in the queue. -/
inductive Loops (adjacency : Dict String (List String)) : LayoutState → LayoutState → Prop where
  | done {state : LayoutState} (h : state.queue[state.head]? = none) : Loops adjacency state state
  | next {state final : LayoutState} {id : String} (h : state.queue[state.head]? = some id)
      (hrest : Loops adjacency (state.visit adjacency id) final) : Loops adjacency state final

/-- The first state of the loop: the nodes without incoming edges are on level 0. -/
def start (nodeIds : List String) (edges : List GraphEdgeSpec) : LayoutState :=
  let incoming := (tables nodeIds edges).incoming
  let queue := nodeIds.filter fun id => incoming.getD id 0 = 0
  { level := queue.foldl (fun level id => level.set id 0) .empty
    remaining := incoming
    queue
    head := 0 }

/-- The state in which the loop stops, one iteration for each node at most. -/
def final (nodeIds : List String) (edges : List GraphEdgeSpec) : LayoutState :=
  LayoutState.loop (tables nodeIds edges).adjacency nodeIds.length (start nodeIds edges)

/-- The nodes that were never reached fall back to level 0. -/
def levels (nodeIds : List String) (edges : List GraphEdgeSpec) : Dict String Nat :=
  nodeIds.foldl (fun level id => if (level.get? id).isSome then level else level.set id 0)
    (final nodeIds edges).level

/-- How many nodes are on each level so far, and where the nodes are. -/
structure Placed where
  countPerLevel : Dict Nat Nat := .empty
  positions : Positions := {}

/-- Place one node below the others of its level. -/
def Placed.place (level : Dict String Nat) (placed : Placed) (id : String) : Placed :=
  let lvl := level.getD id 0
  let idx := placed.countPerLevel.getD lvl 0
  { countPerLevel := placed.countPerLevel.set lvl (idx + 1)
    positions := placed.positions.set id
      ⟨X_OFFSET + lvl * X_SPACING, Y_OFFSET + idx * Y_SPACING⟩ }

end Layout

def computeLayout (graph : GraphSpecFile) : Positions :=
  let nodeIds := graph.nodes.map GraphNodeSpec.id
  (nodeIds.foldl (Layout.Placed.place (Layout.levels nodeIds graph.edges)) {}).positions

namespace Layout

/-! ## Kahn's algorithm with an array -/

/-- An edge as Kahn's algorithm reads it. -/
def asDataEdge (edge : GraphEdgeSpec) : DataEdge :=
  ⟨edge.fromEnd.node, edge.fromEnd.slot.getD "", edge.toEnd.node, edge.toEnd.slot.getD ""⟩

/-- The variables of Kahn's algorithm: the nodes before the head are in order. -/
def LayoutState.kahn (state : LayoutState) : KahnState where
  indegree := state.remaining
  queue := state.queue.drop state.head
  order := state.queue.take state.head

section

variable {nodeIds : List String} {edges : List GraphEdgeSpec}

/-- The maps are the tables of Kahn's algorithm. -/
theorem tables_eq (nodeIds : List String) (edges : List GraphEdgeSpec) :
    (tables nodeIds edges).adjacency = (kahnTables nodeIds (edges.map asDataEdge)).adjacency ∧
      (tables nodeIds edges).incoming = (kahnTables nodeIds (edges.map asDataEdge)).indegree := by
  induction edges using List.reverseRecOn with
  | nil => exact ⟨rfl, rfl⟩
  | append_singleton edges edge ih =>
      have hspec := kahn_tables_spec nodeIds (edges.map asDataEdge)
      have hstep : tables nodeIds (edges ++ [edge]) = (tables nodeIds edges).add nodeIds edge := by
        rw [tables, List.foldl_append]
        rfl
      have hkahn : kahnTables nodeIds ((edges ++ [edge]).map asDataEdge) =
          (kahnTables nodeIds (edges.map asDataEdge)).add (asDataEdge edge) := by
        rw [List.map_append, kahnTables, List.foldl_append]
        rfl
      have hunknown : ((asDataEdge edge).fromNode ∉
          (kahnTables nodeIds (edges.map asDataEdge)).adjacency.keys ∨ (asDataEdge edge).toNode ∉
            (kahnTables nodeIds (edges.map asDataEdge)).indegree.keys) ↔
          (edge.fromEnd.node ∉ nodeIds ∨ edge.toEnd.node ∉ nodeIds) := by
        rw [hspec.1, hspec.2.1]
        rfl
      rw [hstep, hkahn, Tables.add, KahnTables.add]
      by_cases hskip : edge.fromEnd.node ∉ nodeIds ∨ edge.toEnd.node ∉ nodeIds
      · rw [if_pos hskip, if_pos (hunknown.mpr hskip)]
        exact ih
      · rw [if_neg hskip, if_neg (mt hunknown.mp hskip)]
        exact ⟨by rw [ih.1]; rfl, by rw [ih.2]; rfl⟩

variable {known : List DataEdge} {state : LayoutState} {id m : String} {owed : List String}

/-- Going along an edge releases its target. -/
theorem relax_kahn (h : KahnInvariant nodeIds known (m :: owed) state.kahn)
    (hhead : state.head ≤ state.queue.length) :
    (state.relax id m).kahn = state.kahn.release m := by
  have hpos : 0 < state.remaining.getD m 0 := h.owed_pos
  have hfresh : m ∉ state.queue := by
    have hsplit := h.owed_fresh
    rwa [LayoutState.kahn, List.take_append_drop] at hsplit
  have hdefault : state.remaining.getD m 1 = state.remaining.getD m 0 := by
    rw [Dict.getD, Dict.getD] at *
    cases hget : state.remaining.get? m with
    | none =>
        rw [hget] at hpos
        exact absurd hpos (Int.lt_irrefl 0)
    | some count => rfl
  have hcondition : ((state.remaining.set m (state.remaining.getD m 0 - 1)).getD m 0 ≤ 0 ∧
      m ∉ state.queue) ↔ (state.remaining.set m (state.remaining.getD m 0 - 1)).getD m 0 = 0 := by
    rw [Dict.getD_set, if_pos rfl]
    exact ⟨fun hle => by omega, fun heq => ⟨Int.le_of_eq heq, hfresh⟩⟩
  rw [LayoutState.relax, KahnState.release, LayoutState.kahn, LayoutState.kahn, hdefault]
  dsimp only
  by_cases hzero : (state.remaining.set m (state.remaining.getD m 0 - 1)).getD m 0 = 0
  · rw [if_pos hzero, if_pos (hcondition.mpr hzero), List.drop_append_of_le_length hhead,
      List.take_append_of_le_length hhead]
  · rw [if_neg hzero, if_neg (mt hcondition.mp hzero)]

end

/-! ## The levels -/

/-- What the loop maintains: what Kahn's algorithm does, and that the level rises along every edge
out of a visited node, but for the edges that are still owed by the node visited last. -/
structure LayoutInvariant (nodeIds : List String) (known : List DataEdge) (id : String)
    (owed : List String) (state : LayoutState) : Prop where
  kahn : KahnInvariant nodeIds known owed state.kahn
  head : state.head ≤ state.queue.length
  rises : ∀ edge ∈ known, edge.fromNode ∈ state.queue.take state.head →
    (edge.fromNode = id ∧ edge.toNode ∈ owed) ∨
      state.level.getD edge.fromNode 0 < state.level.getD edge.toNode 0

section

variable {nodeIds : List String} {known : List DataEdge} {state : LayoutState} {id m : String}
  {owed : List String}

/-- Going along an edge pays one debt. -/
theorem LayoutInvariant.relax (hm : m ∈ nodeIds)
    (h : LayoutInvariant nodeIds known id (m :: owed) state) :
    LayoutInvariant nodeIds known id owed (state.relax id m) := by
  -- On the order alone this is a step of the sorting, whose invariant is known.
  have hkahn := @relax_kahn nodeIds known state id m owed h.kahn h.head
  have htake : (state.relax id m).queue.take (state.relax id m).head =
      state.queue.take state.head := congrArg KahnState.order hkahn
  constructor
  · rw [hkahn]
    exact h.kahn.release hm
  · refine Nat.le_trans h.head ?_
    rw [LayoutState.relax]
    dsimp only
    split
    · rw [List.length_append]
      exact Nat.le_add_right _ _
    · exact Nat.le_refl _
  · intro edge hedge hfrom
    rw [htake] at hfrom
    have hfresh : edge.fromNode ≠ m := by
      rintro rfl
      exact h.kahn.owed_fresh (List.mem_append_left _ hfrom)
    have hlevel : (state.relax id m).level.getD edge.fromNode 0 =
        state.level.getD edge.fromNode 0 := by
      rw [LayoutState.relax, Dict.getD_set, if_neg hfresh]
    have htarget : (state.relax id m).level.getD edge.toNode 0 =
        if edge.toNode = m then max (state.level.getD m 0) (state.level.getD id 0 + 1)
        else state.level.getD edge.toNode 0 := by
      rw [LayoutState.relax, Dict.getD_set]
    rw [hlevel, htarget]
    rcases h.rises edge hedge hfrom with ⟨rfl, howed⟩ | hrises
    · rcases List.mem_cons.mp howed with rfl | howed
      · rw [if_pos rfl]
        exact .inr (Nat.lt_of_lt_of_le (Nat.lt_succ_self _) (Nat.le_max_right _ _))
      · exact .inl ⟨rfl, howed⟩
    · right
      split
      · rename_i hto
        rw [hto] at hrises
        exact Nat.lt_of_lt_of_le hrises (Nat.le_max_left _ _)
      · exact hrises

/-- Going along all edges of a node pays its debts. -/
theorem LayoutInvariant.relax_all (howed : ∀ m ∈ owed, m ∈ nodeIds)
    (h : LayoutInvariant nodeIds known id owed state) :
    LayoutInvariant nodeIds known id [] (owed.foldl (LayoutState.relax id) state) ∧
      (owed.foldl (LayoutState.relax id) state).kahn =
        owed.foldl KahnState.release state.kahn := by
  induction owed generalizing state with
  | nil => exact ⟨h, rfl⟩
  | cons m owed ih =>
      rw [List.forall_mem_cons] at howed
      rw [List.foldl_cons, List.foldl_cons, ← relax_kahn h.kahn h.head]
      exact ih howed.2 (h.relax howed.1)

/-- Without debts it does not matter which node was visited last. -/
theorem LayoutInvariant.any (h : LayoutInvariant nodeIds known id [] state) (other : String) :
    LayoutInvariant nodeIds known other [] state := by
  refine ⟨h.kahn, h.head, fun edge hedge hfrom => ?_⟩
  rcases h.rises edge hedge hfrom with ⟨_, hnone⟩ | hrises
  · cases hnone
  · exact .inr hrises

end

section

variable {nodeIds : List String} {edges : List DataEdge} {adjacency : Dict String (List String)}
  {state : LayoutState} {id : String}

/-- A visit of the next node of the queue is one of Kahn's algorithm. -/
theorem LayoutInvariant.visit
    (hadjacency : adjacency.getD id [] = successors (knownEdges nodeIds edges) id)
    (hnext : state.queue[state.head]? = some id)
    (h : LayoutInvariant nodeIds (knownEdges nodeIds edges) id [] state) :
    LayoutInvariant nodeIds (knownEdges nodeIds edges) id [] (state.visit adjacency id) ∧
      (state.visit adjacency id).kahn = KahnState.visit adjacency
        { state.kahn with queue := state.queue.drop (state.head + 1) } id := by
  obtain ⟨hlt, hget⟩ := List.getElem?_eq_some_iff.mp hnext
  have hdrop : state.kahn.queue = id :: state.queue.drop (state.head + 1) := by
    rw [← hget]
    exact List.drop_eq_getElem_cons hlt
  have htake : state.queue.take (state.head + 1) = state.queue.take state.head ++ [id] := by
    rw [← hget]
    exact List.take_succ_eq_append_getElem hlt
  have htaken : LayoutState.kahn { state with head := state.head + 1 } =
      { state.kahn with
        queue := state.queue.drop (state.head + 1), order := state.kahn.order ++ [id] } := by
    rw [LayoutState.kahn, htake]
    rfl
  have howes : LayoutInvariant nodeIds (knownEdges nodeIds edges) id
      (successors (knownEdges nodeIds edges) id) { state with head := state.head + 1 } := by
    refine ⟨?_, hlt, fun edge hedge hfrom => ?_⟩
    · rw [htaken]
      exact h.kahn.take hdrop
    · rw [htake, List.mem_append, List.mem_singleton] at hfrom
      rcases hfrom with hfrom | hfrom
      · exact (h.rises edge hedge hfrom).imp_left fun ⟨_, hnone⟩ => absurd hnone List.not_mem_nil
      · exact .inl ⟨hfrom, List.mem_map_of_mem (List.mem_filter.mpr ⟨hedge, by simpa using hfrom⟩)⟩
  rw [LayoutState.visit, KahnState.visit, hadjacency, ← htaken]
  exact howes.relax_all fun m hm => mem_of_mem_successors hm

/-- The loop is that of Kahn's algorithm. -/
theorem loop_kahn
    (hadjacency : ∀ n, adjacency.getD n [] = successors (knownEdges nodeIds edges) n) (fuel : Nat)
    (h : LayoutInvariant nodeIds (knownEdges nodeIds edges) id [] state) :
    LayoutInvariant nodeIds (knownEdges nodeIds edges) id [] (state.loop adjacency fuel) ∧
      (state.loop adjacency fuel).kahn = KahnState.loop adjacency fuel state.kahn := by
  induction fuel generalizing state with
  | zero => exact ⟨h, rfl⟩
  | succ fuel ih =>
      rw [LayoutState.loop, KahnState.loop]
      cases hnext : state.queue[state.head]? with
      | none =>
          have hqueue : state.kahn.queue = [] :=
            List.drop_eq_nil_of_le (List.getElem?_eq_none_iff.mp hnext)
          rw [hqueue]
          exact ⟨h, rfl⟩
      | some next =>
          obtain ⟨hlt, hget⟩ := List.getElem?_eq_some_iff.mp hnext
          have hqueue : state.kahn.queue = next :: state.queue.drop (state.head + 1) := by
            rw [← hget]
            exact List.drop_eq_getElem_cons hlt
          obtain ⟨hvisit, hkahn⟩ := (h.any next).visit (hadjacency next) hnext
          rw [hqueue]
          dsimp only
          rw [← hkahn]
          exact ih (hvisit.any id)

/-- A loop that comes to its end within a number of iterations comes to it anyway. -/
theorem loops_of_stopped (fuel : Nat)
    (h : (state.loop adjacency fuel).queue[(state.loop adjacency fuel).head]? = none) :
    Loops adjacency state (state.loop adjacency fuel) := by
  induction fuel generalizing state with
  | zero => exact .done h
  | succ fuel ih =>
      rw [LayoutState.loop] at h ⊢
      cases hnext : state.queue[state.head]? with
      | none => exact .done hnext
      | some next =>
          rw [hnext] at h
          exact .next hnext (ih h)

end

section

variable {nodeIds : List String} {edges : List GraphEdgeSpec}

/-- The first state satisfies the invariant. -/
theorem start_invariant (hnodup : nodeIds.Nodup) (edges : List GraphEdgeSpec) (id : String) :
    LayoutInvariant nodeIds (knownEdges nodeIds (edges.map asDataEdge)) id []
        (start nodeIds edges) ∧
      (start nodeIds edges).kahn = kahnStart nodeIds (edges.map asDataEdge) := by
  have hkahn : (start nodeIds edges).kahn = kahnStart nodeIds (edges.map asDataEdge) := by
    rw [LayoutState.kahn, start, kahnStart, (tables_eq nodeIds edges).2]
    rfl
  refine ⟨⟨?_, Nat.zero_le _, fun edge _ hfrom => ?_⟩, hkahn⟩
  · rw [hkahn]
    exact kahn_start_invariant hnodup _
  · rw [show (start nodeIds edges).head = 0 from rfl, List.take_zero] at hfrom
    cases hfrom

/-- The loop stops where Kahn's algorithm does. -/
theorem layout_final_kahn (hnodup : nodeIds.Nodup) (edges : List GraphEdgeSpec) (id : String) :
    LayoutInvariant nodeIds (knownEdges nodeIds (edges.map asDataEdge)) id []
        (final nodeIds edges) ∧
      (final nodeIds edges).kahn = kahnFinal nodeIds (edges.map asDataEdge) := by
  obtain ⟨hstart, hkahn⟩ := start_invariant hnodup edges id
  have hadjacency := (kahn_tables_spec nodeIds (edges.map asDataEdge)).2.2.1
  obtain ⟨hfinal, hsame⟩ := loop_kahn hadjacency nodeIds.length hstart
  rw [final, kahnFinal, (tables_eq nodeIds edges).1, ← hkahn]
  exact ⟨hfinal, hsame⟩

/-- The loop comes to its end. -/
theorem layout_terminates (hnodup : nodeIds.Nodup) (edges : List GraphEdgeSpec) :
    Loops (tables nodeIds edges).adjacency (start nodeIds edges) (final nodeIds edges) := by
  have hkahn := (layout_final_kahn hnodup edges "").2
  have hempty : (kahnFinal nodeIds (edges.map asDataEdge)).queue = [] :=
    (kahn_loop_spec (kahn_tables_spec nodeIds _).2.2.1 nodeIds.length
      (kahn_start_invariant hnodup _) (Nat.le_add_left _ _)).2
  refine loops_of_stopped nodeIds.length ?_
  rw [← final, List.getElem?_eq_none_iff, ← List.drop_eq_nil_iff]
  rw [← hkahn] at hempty
  exact hempty

/-- The fall-back changes no level that is read. -/
theorem levels_getD (nodeIds : List String) (edges : List GraphEdgeSpec) (id : String) :
    (levels nodeIds edges).getD id 0 = (final nodeIds edges).level.getD id 0 := by
  have hfold : ∀ (ids : List String) (level : Dict String Nat),
      (ids.foldl (fun level id => if (level.get? id).isSome then level else level.set id 0)
        level).getD id 0 = level.getD id 0 := by
    intro ids
    induction ids with
    | nil => exact fun _ => rfl
    | cons other ids ih =>
        intro level
        rw [List.foldl_cons, ih]
        by_cases hsome : (level.get? other).isSome = true
        · rw [if_pos hsome]
        · rw [if_neg hsome, Dict.getD_set]
          split
          · rename_i heq
            rw [heq, Dict.getD, Option.not_isSome_iff_eq_none.mp hsome]
            rfl
          · rfl
  exact hfold nodeIds _

/-- Without a cycle the levels rise along every edge between listed nodes. -/
theorem levels_rise (hnodup : nodeIds.Nodup)
    (hacyclic : ¬ HasCycle nodeIds (edges.map asDataEdge)) {edge : GraphEdgeSpec}
    (hedge : edge ∈ edges) (hfrom : edge.fromEnd.node ∈ nodeIds)
    (hto : edge.toEnd.node ∈ nodeIds) :
    (levels nodeIds edges).getD edge.fromEnd.node 0 <
      (levels nodeIds edges).getD edge.toEnd.node 0 := by
  obtain ⟨hfinal, hkahn⟩ := layout_final_kahn hnodup edges ""
  have hknown : asDataEdge edge ∈ knownEdges nodeIds (edges.map asDataEdge) :=
    mem_knownEdges.mpr ⟨List.mem_map_of_mem hedge, hfrom, hto⟩
  have hnone := (remaining_eq_nil_iff hnodup _).mpr hacyclic
  have hordered : edge.fromEnd.node ∈ (kahnFinal nodeIds (edges.map asDataEdge)).order := by
    have hkept := List.filter_eq_nil_iff.mp hnone _ hfrom
    simpa using hkept
  rw [← hkahn] at hordered
  rw [levels_getD, levels_getD]
  rcases hfinal.rises _ hknown hordered with ⟨_, hnone⟩ | hrises
  · cases hnone
  · exact hrises

end

/-! ## The positions -/

/-- What is known of the nodes placed so far: each has a position in the column of its level, above
the next free one, and no two have the same. -/
structure PlacedInvariant (level : Dict String Nat) (ids : List String) (placed : Placed) :
    Prop where
  column : ∀ id ∈ ids, ∃ idx < placed.countPerLevel.getD (level.getD id 0) 0,
    placed.positions.get? id =
      some ⟨X_OFFSET + level.getD id 0 * X_SPACING, Y_OFFSET + idx * Y_SPACING⟩
  distinct : ∀ first ∈ ids, ∀ second ∈ ids,
    placed.positions.get? first = placed.positions.get? second → first = second

section

variable {level : Dict String Nat} {ids : List String} {placed : Placed} {id : String}

/-- Positions tell the level and the index. -/
theorem position_inj {lvl lvl' idx idx' : Nat}
    (h : (⟨X_OFFSET + lvl * X_SPACING, Y_OFFSET + idx * Y_SPACING⟩ : LayoutPosition) =
      ⟨X_OFFSET + lvl' * X_SPACING, Y_OFFSET + idx' * Y_SPACING⟩) : lvl = lvl' ∧ idx = idx' := by
  rw [LayoutPosition.mk.injEq] at h
  simp only [X_OFFSET, X_SPACING, Y_OFFSET, Y_SPACING] at h
  omega

/-- The next free position of a level is that of no node before. -/
theorem PlacedInvariant.place (h : PlacedInvariant level ids placed) (hid : id ∉ ids) :
    PlacedInvariant level (ids ++ [id]) (placed.place level id) := by
  have hnew : (placed.place level id).positions.get? id =
      some ⟨X_OFFSET + level.getD id 0 * X_SPACING,
        Y_OFFSET + placed.countPerLevel.getD (level.getD id 0) 0 * Y_SPACING⟩ :=
    Positions.get?_set_self _ _
  have hold : ∀ other ∈ ids,
      (placed.place level id).positions.get? other = placed.positions.get? other := by
    intro other hother
    exact Positions.get?_set_of_ne _ _ fun heq => hid (heq ▸ hother)
  have hfree : ∀ other ∈ ids,
      (placed.place level id).positions.get? other ≠ (placed.place level id).positions.get? id := by
    intro other hother heq
    obtain ⟨idx, hidx, hposition⟩ := h.column other hother
    rw [hold other hother, hposition, hnew] at heq
    obtain ⟨hlevel, rfl⟩ := position_inj (Option.some.inj heq)
    rw [hlevel] at hidx
    exact Nat.lt_irrefl _ hidx
  have hcount : ∀ lvl, placed.countPerLevel.getD lvl 0 ≤
      (placed.place level id).countPerLevel.getD lvl 0 := by
    intro lvl
    rw [Placed.place, Dict.getD_set]
    split
    · rename_i hlevel
      rw [hlevel]
      exact Nat.le_succ _
    · exact Nat.le_refl _
  constructor
  · intro other hother
    rcases List.mem_append.mp hother with hother | hother
    · obtain ⟨idx, hidx, hposition⟩ := h.column other hother
      exact ⟨idx, Nat.lt_of_lt_of_le hidx (hcount _), by rw [hold other hother, hposition]⟩
    · cases List.mem_singleton.mp hother
      refine ⟨_, ?_, hnew⟩
      rw [Placed.place, Dict.getD_set, if_pos rfl]
      exact Nat.lt_succ_self _
  · intro first hfirst second hsecond heq
    rcases List.mem_append.mp hfirst with hfirst | hfirst <;>
      rcases List.mem_append.mp hsecond with hsecond | hsecond
    · rw [hold first hfirst, hold second hsecond] at heq
      exact h.distinct first hfirst second hsecond heq
    · cases List.mem_singleton.mp hsecond
      exact absurd heq (hfree first hfirst)
    · cases List.mem_singleton.mp hfirst
      exact absurd heq.symm (hfree second hsecond)
    · rw [List.mem_singleton.mp hfirst, List.mem_singleton.mp hsecond]

/-- All nodes are placed. -/
theorem placed_invariant (hnodup : ids.Nodup) :
    PlacedInvariant level ids (ids.foldl (Placed.place level) {}) := by
  induction ids using List.reverseRecOn with
  | nil => exact ⟨fun _ hid => (by cases hid), fun _ hid => (by cases hid)⟩
  | append_singleton ids id ih =>
      obtain ⟨hids, _, hdisjoint⟩ := List.nodup_append'.mp hnodup
      rw [List.foldl_append]
      exact (ih hids).place fun hid => hdisjoint hid (List.mem_singleton_self _)

end

end Layout

/-- A layout of distinct nodes, whatever the edges are: the loop comes to its end, each node has
one position of its own, and without a cycle the edges lead to the right. -/
theorem compute_layout_sound (graph : GraphSpecFile)
    (hnodup : (graph.nodes.map GraphNodeSpec.id).Nodup) :
    Layout.Loops (Layout.tables (graph.nodes.map GraphNodeSpec.id) graph.edges).adjacency
      (Layout.start (graph.nodes.map GraphNodeSpec.id) graph.edges)
      (Layout.final (graph.nodes.map GraphNodeSpec.id) graph.edges) ∧
    (∀ node ∈ graph.nodes, ∃ position, (computeLayout graph).get? node.id = some position) ∧
    (∀ first ∈ graph.nodes, ∀ second ∈ graph.nodes,
      (computeLayout graph).get? first.id = (computeLayout graph).get? second.id →
        first.id = second.id) ∧
    (¬ HasCycle (graph.nodes.map GraphNodeSpec.id) (graph.edges.map Layout.asDataEdge) →
      ∀ edge ∈ graph.edges, edge.fromEnd.node ∈ graph.nodes.map GraphNodeSpec.id →
        edge.toEnd.node ∈ graph.nodes.map GraphNodeSpec.id →
        ∃ source target, (computeLayout graph).get? edge.fromEnd.node = some source ∧
          (computeLayout graph).get? edge.toEnd.node = some target ∧ source.x < target.x) := by
  have hplaced := @Layout.placed_invariant
    (Layout.levels (graph.nodes.map GraphNodeSpec.id) graph.edges) _ hnodup
  refine ⟨Layout.layout_terminates hnodup _, fun node hnode => ?_,
    fun first hfirst second hsecond => ?_, fun hacyclic edge hedge hfrom hto => ?_⟩
  · obtain ⟨_, _, hposition⟩ := hplaced.column _ (List.mem_map_of_mem hnode)
    exact ⟨_, hposition⟩
  · exact hplaced.distinct _ (List.mem_map_of_mem hfirst) _ (List.mem_map_of_mem hsecond)
  · obtain ⟨_, _, hsource⟩ := hplaced.column _ hfrom
    obtain ⟨_, _, htarget⟩ := hplaced.column _ hto
    refine ⟨_, _, hsource, htarget, ?_⟩
    have hrise := Layout.levels_rise hnodup hacyclic hedge hfrom hto
    exact Nat.add_lt_add_left (Nat.mul_lt_mul_of_pos_right hrise (by decide)) X_OFFSET

/-- A chain with a shortcut, a cycle beside it, through a node that the object of the positions has
no key for, and an edge to a node that is not there. -/
def mixedGraph : GraphSpecFile where
  version := "0.1"
  nodes := ["2", "1", "c", "d", "__proto__"].map fun id => ⟨id, "text_input", .empty, none⟩
  edges := [("2", "1"), ("1", "c"), ("2", "c"), ("d", "__proto__"), ("__proto__", "d"),
    ("c", "z")].map fun edge =>
    { fromEnd := { node := edge.1, slot := some "out" }
      toEnd := { node := edge.2, slot := some "in" } }

/-- Its layout is sound. -/
theorem mixed_graph_placed :
    (∀ node ∈ mixedGraph.nodes, ∃ position,
      (computeLayout mixedGraph).get? node.id = some position) ∧
      ∀ first ∈ mixedGraph.nodes, ∀ second ∈ mixedGraph.nodes,
        (computeLayout mixedGraph).get? first.id = (computeLayout mixedGraph).get? second.id →
          first.id = second.id := by
  obtain ⟨_, hplaced, hdistinct, _⟩ := compute_layout_sound mixedGraph (by decide)
  exact ⟨hplaced, hdistinct⟩

end AgentGraphStudio
