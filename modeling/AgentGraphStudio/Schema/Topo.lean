import Mathlib.Data.Fintype.Card
import Mathlib.Data.Fintype.EquivFin
import Mathlib.Data.Fintype.Sets
import Mathlib.Data.List.Induction
import Mathlib.Data.List.Perm.Subperm
import AgentGraphStudio.Schema.Models

/-!
# Kahn's algorithm

`kahnOrder` is `backend/schema/topo.py`. The loop keeps the in-degree table, the queue and
the order; `KahnInvariant` says that the in-degree of a node counts its incoming edges from
nodes that are not yet in the order. Edges naming unknown nodes are skipped, so the
invariant is about `knownEdges`. `kahn_order_spec` collects what holds at the end: the loop
has emptied its queue, the order is a topological one, and every remaining node still has a
remaining predecessor. An empty remainder therefore excludes every cycle
(`acyclic_of_no_remaining`), and a remainder contains one, since going back from one predecessor
to the next comes to no end: `remaining_eq_nil_iff`.
-/

namespace AgentGraphStudio

/-- The in-degree of every node and its successors, one per edge. -/
structure KahnTables where
  indegree : Dict String Int
  adjacency : Dict String (List String)

/-- Count one edge, unless it names an unknown node. -/
def KahnTables.add (tables : KahnTables) (edge : DataEdge) : KahnTables :=
  if edge.fromNode ∉ tables.adjacency.keys ∨ edge.toNode ∉ tables.indegree.keys then tables
  else
    { adjacency := tables.adjacency.set edge.fromNode
        (tables.adjacency.getD edge.fromNode [] ++ [edge.toNode])
      indegree := tables.indegree.set edge.toNode (tables.indegree.getD edge.toNode 0 + 1) }

/-- The tables of a node list and an edge list. -/
def kahnTables (nodeIds : List String) (edges : List DataEdge) : KahnTables :=
  edges.foldl KahnTables.add
    { indegree := .ofList (nodeIds.map fun n => (n, 0))
      adjacency := .ofList (nodeIds.map fun n => (n, [])) }

/-- The variables of the main loop. -/
structure KahnState where
  indegree : Dict String Int
  queue : List String
  order : List String

namespace KahnState

/-- Remove one incoming edge of a node, and queue the node when it was the last one. -/
def release (state : KahnState) (m : String) : KahnState :=
  let indegree := state.indegree.set m (state.indegree.getD m 0 - 1)
  { state with
    indegree
    queue := if indegree.getD m 0 = 0 then state.queue ++ [m] else state.queue }

/-- Append a node that has left the queue to the order and release its successors. -/
def visit (adjacency : Dict String (List String)) (state : KahnState) (n : String) :
    KahnState :=
  (adjacency.getD n []).foldl release { state with order := state.order ++ [n] }

/-- The main loop, for at most this many iterations. -/
def loop (adjacency : Dict String (List String)) : Nat → KahnState → KahnState
  | 0, state => state
  | fuel + 1, state =>
    match state.queue with
    | [] => state
    | n :: queue => loop adjacency fuel (visit adjacency { state with queue } n)

end KahnState

/-- The loop's first state: the queue holds the nodes without incoming edges. -/
def kahnStart (nodeIds : List String) (edges : List DataEdge) : KahnState :=
  let indegree := (kahnTables nodeIds edges).indegree
  { indegree
    queue := nodeIds.filter fun n => indegree.getD n 0 = 0
    order := [] }

/-- The state in which the main loop stops. Every iteration orders one more node, so as many
iterations as there are nodes are enough. -/
def kahnFinal (nodeIds : List String) (edges : List DataEdge) : KahnState :=
  KahnState.loop (kahnTables nodeIds edges).adjacency nodeIds.length (kahnStart nodeIds edges)

/-- A topological order of the nodes, and the nodes that could not be ordered. -/
def kahnOrder (nodeIds : List String) (edges : List DataEdge) : List String × List String :=
  let order := (kahnFinal nodeIds edges).order
  (order, nodeIds.filter fun n => n ∉ order)

/-- The edges between listed nodes, which are the ones the algorithm counts. -/
def knownEdges (nodeIds : List String) (edges : List DataEdge) : List DataEdge :=
  edges.filter fun edge => edge.fromNode ∈ nodeIds ∧ edge.toNode ∈ nodeIds

/-! ## The tables -/

/-- The number of edges into `m` that start outside `order`. -/
def incoming (edges : List DataEdge) (order : List String) (m : String) : Nat :=
  edges.countP fun edge => edge.toNode = m ∧ edge.fromNode ∉ order

/-- The successors of `n`, one per edge. -/
def successors (edges : List DataEdge) (n : String) : List String :=
  (edges.filter fun edge => edge.fromNode = n).map DataEdge.toNode

theorem mem_knownEdges {nodeIds : List String} {edges : List DataEdge} {edge : DataEdge} :
    edge ∈ knownEdges nodeIds edges ↔
      edge ∈ edges ∧ edge.fromNode ∈ nodeIds ∧ edge.toNode ∈ nodeIds := by
  simp [knownEdges]

/-- The tables describe exactly the known edges. -/
theorem kahn_tables_spec (nodeIds : List String) (edges : List DataEdge) :
    (∀ n, n ∈ (kahnTables nodeIds edges).adjacency.keys ↔ n ∈ nodeIds) ∧
    (∀ n, n ∈ (kahnTables nodeIds edges).indegree.keys ↔ n ∈ nodeIds) ∧
    (∀ n, (kahnTables nodeIds edges).adjacency.getD n [] =
      successors (knownEdges nodeIds edges) n) ∧
    (∀ m, (kahnTables nodeIds edges).indegree.getD m 0 =
      incoming (knownEdges nodeIds edges) [] m) := by
  -- The edges are added one after the other; one with an unknown end changes nothing.
  induction edges using List.reverseRec with
  | nil =>
      have hconst : ∀ {V : Type} (v : V) (n : String),
          (Dict.ofList (nodeIds.map fun n => (n, v))).getD n v = v := by
        intro V v n
        rw [Dict.getD, Dict.get?_ofList]
        cases hlast : ((nodeIds.map fun n => (n, v)).filter fun entry => entry.1 = n).getLast?
          with
        | none => rfl
        | some entry =>
            have hmem := (List.mem_filter.mp (List.mem_of_getLast? hlast)).1
            obtain ⟨_, _, rfl⟩ := List.mem_map.mp hmem
            rfl
      refine ⟨fun n => ?_, fun n => ?_, fun n => ?_, fun m => ?_⟩
      · simp [kahnTables, Dict.mem_keys_ofList]
      · simp [kahnTables, Dict.mem_keys_ofList]
      · simpa [kahnTables, successors, knownEdges] using hconst ([] : List String) n
      · simpa [kahnTables, incoming, knownEdges] using hconst (0 : Int) m
  | append_singleton rest edge ih =>
      obtain ⟨hadjacency, hindegree, hsuccessors, hincoming⟩ := ih
      have hstep : kahnTables nodeIds (rest ++ [edge]) =
          (kahnTables nodeIds rest).add edge := by
        simp [kahnTables]
      have hknown : knownEdges nodeIds (rest ++ [edge]) = knownEdges nodeIds rest ++
          knownEdges nodeIds [edge] := by
        simp [knownEdges]
      rw [hstep, hknown, KahnTables.add]
      simp only [hadjacency, hindegree]
      by_cases hedge : edge.fromNode ∈ nodeIds ∧ edge.toNode ∈ nodeIds
      · have hone : knownEdges nodeIds [edge] = [edge] := by simp [knownEdges, hedge]
        rw [if_neg (by tauto), hone]
        refine ⟨fun n => ?_, fun n => ?_, fun n => ?_, fun m => ?_⟩
        · rw [Dict.mem_keys_set, hadjacency]
          exact ⟨fun h => h.elim (fun h => h ▸ hedge.1) id, Or.inr⟩
        · rw [Dict.mem_keys_set, hindegree]
          exact ⟨fun h => h.elim (fun h => h ▸ hedge.2) id, Or.inr⟩
        · rw [Dict.getD_set, hsuccessors]
          by_cases hn : n = edge.fromNode
          · simp [hn, successors]
          · simpa [hn, Ne.symm hn, successors] using hsuccessors n
        · rw [Dict.getD_set, hincoming]
          by_cases hm : m = edge.toNode
          · simp [hm, incoming]
          · simpa [hm, Ne.symm hm, incoming] using hincoming m
      · have hnone : knownEdges nodeIds [edge] = [] := by
          simp only [knownEdges, List.filter_cons, List.filter_nil, decide_eq_true_eq]
          rw [if_neg hedge]
        rw [if_pos (by tauto), hnone, List.append_nil]
        exact ⟨hadjacency, hindegree, hsuccessors, hincoming⟩

/-! ## The loop invariant -/

/-- What the loop maintains, with `owed` the successors still to be released for the node
visited last. -/
structure KahnInvariant (nodeIds : List String) (edges : List DataEdge) (owed : List String)
    (state : KahnState) : Prop where
  nodup : (state.order ++ state.queue).Nodup
  known : ∀ n ∈ state.order ++ state.queue, n ∈ nodeIds
  counts : ∀ m, state.indegree.getD m 0 = incoming edges state.order m + owed.count m
  settled : ∀ m ∈ state.order ++ state.queue, state.indegree.getD m 0 = 0
  complete : ∀ m ∈ nodeIds, state.indegree.getD m 0 = 0 → m ∈ state.order ++ state.queue
  sorted : ∀ pre m post, state.order = pre ++ m :: post →
    ∀ edge ∈ edges, edge.toNode = m → edge.fromNode ∈ pre

/-- The first state satisfies the invariant. -/
theorem kahn_start_invariant {nodeIds : List String} (hnodup : nodeIds.Nodup)
    (edges : List DataEdge) :
    KahnInvariant nodeIds (knownEdges nodeIds edges) [] (kahnStart nodeIds edges) where
  nodup := by simpa [kahnStart] using hnodup.filter _
  known := fun n hn => by
    simp only [kahnStart, List.nil_append, List.mem_filter] at hn
    exact hn.1
  counts := fun m => by
    have hcount := (kahn_tables_spec nodeIds edges).2.2.2 m
    simpa [kahnStart] using hcount
  settled := fun m hm => by simpa [kahnStart] using (List.mem_filter.mp hm).2
  complete := fun m hm hzero => by simpa [kahnStart, hm] using hzero
  sorted := fun pre m post h => by simp [kahnStart] at h

/-- A node that is still owed a release has incoming edges. -/
theorem KahnInvariant.owed_pos {nodeIds : List String} {edges : List DataEdge} {m : String}
    {owed : List String} {state : KahnState} (h : KahnInvariant nodeIds edges (m :: owed) state) :
    0 < state.indegree.getD m 0 := by
  rw [h.counts m, List.count_cons_self]
  omega

/-- So it is not queued yet. -/
theorem KahnInvariant.owed_fresh {nodeIds : List String} {edges : List DataEdge} {m : String}
    {owed : List String} {state : KahnState} (h : KahnInvariant nodeIds edges (m :: owed) state) :
    m ∉ state.order ++ state.queue := fun hmem =>
  absurd (h.settled m hmem) (Int.ne_of_gt h.owed_pos)

/-- Releasing an owed successor keeps the invariant and pays one debt. -/
theorem KahnInvariant.release {nodeIds : List String} {edges : List DataEdge} {m : String}
    {owed : List String} {state : KahnState} (hm : m ∈ nodeIds)
    (h : KahnInvariant nodeIds edges (m :: owed) state) :
    KahnInvariant nodeIds edges owed (state.release m) := by
  have hcount : state.indegree.getD m 0 =
      incoming edges state.order m + (owed.count m : Int) + 1 := by
    rw [h.counts m, List.count_cons_self]
    push_cast
    omega
  have hfresh := h.owed_fresh
  have hother : ∀ n, n ≠ m → (state.release m).indegree.getD n 0 = state.indegree.getD n 0 :=
    fun n hn => by simp [KahnState.release, Dict.getD_set, hn]
  have hself : (state.release m).indegree.getD m 0 = state.indegree.getD m 0 - 1 := by
    simp [KahnState.release, Dict.getD_set]
  have hqueue : (state.release m).queue =
      if state.indegree.getD m 0 - 1 = 0 then state.queue ++ [m] else state.queue := by
    simp [KahnState.release, Dict.getD_set]
  have horder : (state.release m).order = state.order := rfl
  -- The released node is queued when this was its last debt.
  have hmem : ∀ n, n ∈ (state.release m).order ++ (state.release m).queue ↔
      n ∈ state.order ++ state.queue ∨ n = m ∧ state.indegree.getD m 0 - 1 = 0 := by
    intro n
    rw [horder, hqueue]
    split <;> rename_i hzero <;> simp [hzero, or_assoc]
  constructor
  · rw [horder, hqueue]
    split
    · rw [← List.append_assoc, List.nodup_append']
      exact ⟨h.nodup, List.nodup_singleton m, by simpa using hfresh⟩
    · exact h.nodup
  · intro n hn
    rcases (hmem n).mp hn with hn | ⟨rfl, _⟩
    · exact h.known n hn
    · exact hm
  · intro n
    by_cases hn : n = m
    · subst hn
      rw [hself, hcount, horder]
      omega
    · rw [hother n hn, h.counts n, List.count_cons_of_ne (Ne.symm hn), horder]
  · intro n hn
    rcases (hmem n).mp hn with hn | ⟨rfl, hzero⟩
    · rw [hother n fun heq => hfresh (heq ▸ hn), h.settled n hn]
    · rw [hself, hzero]
  · intro n hn hzero
    rw [hmem]
    by_cases hnm : n = m
    · subst hnm
      exact Or.inr ⟨rfl, by rw [← hself, hzero]⟩
    · exact Or.inl (h.complete n hn (by rw [← hother n hnm, hzero]))
  · exact h.sorted

/-- Releasing every owed successor keeps the invariant. -/
theorem KahnInvariant.release_all {nodeIds : List String} {edges : List DataEdge}
    {owed : List String} {state : KahnState} (howed : ∀ m ∈ owed, m ∈ nodeIds)
    (h : KahnInvariant nodeIds edges owed state) :
    KahnInvariant nodeIds edges [] (owed.foldl KahnState.release state) := by
  induction owed generalizing state with
  | nil => exact h
  | cons m owed ih =>
      exact ih (fun n hn => howed n (List.mem_cons_of_mem m hn))
        (h.release (howed m List.mem_cons_self))

/-- Ordering a node turns its outgoing edges into debts. -/
theorem incoming_append {edges : List DataEdge} {order : List String} {n : String}
    (hn : n ∉ order) (m : String) :
    incoming edges order m = incoming edges (order ++ [n]) m + (successors edges n).count m := by
  induction edges with
  | nil => rfl
  | cons edge edges ih =>
      simp only [incoming, successors] at ih ⊢
      rw [List.countP_cons, List.countP_cons, List.filter_cons, ih]
      by_cases hto : edge.toNode = m <;> by_cases hfrom : edge.fromNode = n
      · simp [hto, hfrom, hn]
        omega
      · simp [hto, hfrom]
        omega
      · simp [hto, hfrom]
      · simp [hto, hfrom]

/-- A node that goes from the queue to the order owes a release to each of its successors. -/
theorem KahnInvariant.take {nodeIds : List String} {edges : List DataEdge} {state : KahnState}
    {n : String} {queue : List String} (hqueue : state.queue = n :: queue)
    (h : KahnInvariant nodeIds edges [] state) :
    KahnInvariant nodeIds edges (successors edges n)
      { state with queue, order := state.order ++ [n] } := by
  have hmem : ∀ m, m ∈ (state.order ++ [n]) ++ queue ↔ m ∈ state.order ++ state.queue := by
    simp [hqueue]
  have hfresh : n ∉ state.order := by
    have := h.nodup
    rw [hqueue, List.nodup_append'] at this
    exact fun hn => this.2.2 hn List.mem_cons_self
  have hzero : incoming edges state.order n = 0 := by
    have hcount := h.counts n
    rw [h.settled n (by simp [hqueue]), List.count_nil] at hcount
    omega
  constructor
  · simpa [hqueue] using h.nodup
  · exact fun m hm => h.known m ((hmem m).mp hm)
  · intro m
    have hcount := h.counts m
    have happend := @incoming_append edges _ _ hfresh m
    rw [List.count_nil] at hcount
    simp only
    omega
  · exact fun m hm => h.settled m ((hmem m).mp hm)
  · exact fun m hm hm' => (hmem m).mpr (h.complete m hm hm')
  · intro pre m post horder edge hedge hto
    rcases List.eq_nil_or_concat post with rfl | ⟨post, last, rfl⟩
    · obtain ⟨rfl, hmn⟩ := List.append_inj' horder rfl
      obtain rfl : n = m := by simpa using hmn
      -- The node leaves the queue with no incoming edge from outside the order.
      by_contra hpre
      have hpos : 0 < incoming edges state.order n :=
        List.countP_pos_iff.mpr ⟨edge, hedge, by simpa using ⟨hto, hpre⟩⟩
      omega
    · rw [List.concat_eq_append, ← List.cons_append, ← List.append_assoc] at horder
      obtain ⟨horder, _⟩ := List.append_inj' horder rfl
      exact h.sorted pre m post horder edge hedge hto

/-- The successors of a node are listed. -/
theorem mem_of_mem_successors {nodeIds : List String} {edges : List DataEdge} {n m : String}
    (h : m ∈ successors (knownEdges nodeIds edges) n) : m ∈ nodeIds := by
  obtain ⟨edge, hedge, rfl⟩ := List.mem_map.mp h
  exact (mem_knownEdges.mp (List.mem_filter.mp hedge).1).2.2

/-- Visiting the first node of the queue keeps the invariant. -/
theorem KahnInvariant.visit {nodeIds : List String} {edges : List DataEdge}
    {adjacency : Dict String (List String)} {state : KahnState} {n : String}
    {queue : List String}
    (hadjacency : adjacency.getD n [] = successors (knownEdges nodeIds edges) n)
    (hqueue : state.queue = n :: queue)
    (h : KahnInvariant nodeIds (knownEdges nodeIds edges) [] state) :
    KahnInvariant nodeIds (knownEdges nodeIds edges) []
      (KahnState.visit adjacency { state with queue } n) := by
  rw [KahnState.visit, hadjacency]
  exact (h.take hqueue).release_all fun m hm => mem_of_mem_successors hm

/-- The loop keeps the invariant and, given an iteration for every node that is not ordered
yet, stops with an empty queue. -/
theorem kahn_loop_spec {nodeIds : List String} {edges : List DataEdge}
    {adjacency : Dict String (List String)}
    (hadjacency : ∀ n, adjacency.getD n [] = successors (knownEdges nodeIds edges) n)
    (fuel : Nat) {state : KahnState}
    (h : KahnInvariant nodeIds (knownEdges nodeIds edges) [] state)
    (hfuel : nodeIds.length ≤ state.order.length + fuel) :
    KahnInvariant nodeIds (knownEdges nodeIds edges) []
        (KahnState.loop adjacency fuel state) ∧
      (KahnState.loop adjacency fuel state).queue = [] := by
  induction fuel generalizing state with
  | zero =>
      refine ⟨h, ?_⟩
      have hle := (List.subperm_of_subset h.nodup h.known).length_le
      rw [List.length_append] at hle
      exact List.eq_nil_of_length_eq_zero (by simp only [KahnState.loop]; omega)
  | succ fuel ih =>
      rw [KahnState.loop]
      split
      · rename_i hqueue
        exact ⟨h, hqueue⟩
      · rename_i n queue hqueue
        refine ih (h.visit (hadjacency n) hqueue) ?_
        have horder : ∀ (owed : List String) (state : KahnState),
            (owed.foldl KahnState.release state).order = state.order := by
          intro owed
          induction owed with
          | nil => exact fun _ => rfl
          | cons m owed ih => exact fun state => ih (state.release m)
        rw [KahnState.visit, horder, List.length_append, List.length_singleton]
        simp only
        omega

/-! ## The result -/

/-- What `kahnOrder` returns: the order lists distinct nodes, sources before targets; the
remaining nodes are the others, and each of them has a remaining predecessor. -/
structure KahnSpec (nodeIds : List String) (edges : List DataEdge)
    (order remaining : List String) : Prop where
  nodup : order.Nodup
  known : ∀ n ∈ order, n ∈ nodeIds
  remaining_iff : ∀ n, n ∈ remaining ↔ n ∈ nodeIds ∧ n ∉ order
  sorted : ∀ pre m post, order = pre ++ m :: post →
    ∀ edge ∈ knownEdges nodeIds edges, edge.toNode = m → edge.fromNode ∈ pre
  stuck : ∀ m ∈ remaining, ∃ edge ∈ knownEdges nodeIds edges,
    edge.toNode = m ∧ edge.fromNode ∈ remaining

/-- `kahnOrder` meets its specification on every list of distinct nodes. -/
theorem kahn_order_spec {nodeIds : List String} (hnodes : nodeIds.Nodup)
    (edges : List DataEdge) :
    KahnSpec nodeIds edges (kahnOrder nodeIds edges).1 (kahnOrder nodeIds edges).2 := by
  obtain ⟨h, hqueue⟩ := kahn_loop_spec (kahn_tables_spec nodeIds edges).2.2.1 nodeIds.length
    (kahn_start_invariant hnodes edges) (by omega)
  rw [← kahnFinal] at h hqueue
  have hnodup := h.nodup
  have hknown := h.known
  have hcomplete := h.complete
  rw [hqueue, List.append_nil] at hnodup hknown hcomplete
  have hremaining : ∀ n, n ∈ (kahnOrder nodeIds edges).2 ↔
      n ∈ nodeIds ∧ n ∉ (kahnFinal nodeIds edges).order := by
    simp [kahnOrder]
  refine ⟨hnodup, hknown, hremaining, h.sorted, ?_⟩
  intro m hm
  obtain ⟨hnode, hout⟩ := (hremaining m).mp hm
  have hpos : 0 < incoming (knownEdges nodeIds edges) (kahnFinal nodeIds edges).order m := by
    by_contra hzero
    have hcount := h.counts m
    rw [List.count_nil] at hcount
    exact hout (hcomplete m hnode (by omega))
  obtain ⟨edge, hedge, hprop⟩ := List.countP_pos_iff.mp hpos
  obtain ⟨hto, hfrom⟩ : edge.toNode = m ∧ edge.fromNode ∉ (kahnFinal nodeIds edges).order := by
    simpa using hprop
  exact ⟨edge, hedge, hto,
    (hremaining _).mpr ⟨(mem_knownEdges.mp hedge).2.1, hfrom⟩⟩

/-- The source of an edge comes before its target in the order. -/
theorem KahnSpec.idxOf_lt {nodeIds order remaining : List String} {edges : List DataEdge}
    (h : KahnSpec nodeIds edges order remaining) {edge : DataEdge}
    (hedge : edge ∈ knownEdges nodeIds edges) (hto : edge.toNode ∈ order) :
    order.idxOf edge.fromNode < order.idxOf edge.toNode := by
  obtain ⟨pre, post, horder⟩ := List.append_of_mem hto
  have hfrom := h.sorted pre edge.toNode post horder edge hedge rfl
  have hfresh : edge.toNode ∉ pre := fun hpre => by
    have hnodup := h.nodup
    rw [horder, List.nodup_append'] at hnodup
    exact hnodup.2.2 hpre List.mem_cons_self
  rw [horder, List.idxOf_append_of_mem hfrom, List.idxOf_append_of_notMem hfresh,
    List.idxOf_cons_self, Nat.add_zero]
  exact List.idxOf_lt_length_of_mem hfrom

/-- An empty remainder excludes every cycle of known edges: the position in the order
increases along each of them. -/
theorem acyclic_of_no_remaining {nodeIds : List String} (hnodup : nodeIds.Nodup)
    {edges : List DataEdge} (h : (kahnOrder nodeIds edges).2 = []) :
    ∀ edge ∈ knownEdges nodeIds edges,
      (kahnOrder nodeIds edges).1.idxOf edge.fromNode <
        (kahnOrder nodeIds edges).1.idxOf edge.toNode := by
  intro edge hedge
  have hspec := kahn_order_spec hnodup edges
  have hto : edge.toNode ∈ (kahnOrder nodeIds edges).1 := by
    by_contra hout
    have := (hspec.remaining_iff edge.toNode).mpr ⟨(mem_knownEdges.mp hedge).2.2, hout⟩
    simp [h] at this
  exact hspec.idxOf_lt hedge hto

/-! ## Cycles -/

/-- There is an edge from the one listed node to the other. -/
def Linked (nodeIds : List String) (edges : List DataEdge) (source target : String) : Prop :=
  ∃ edge ∈ knownEdges nodeIds edges, edge.fromNode = source ∧ edge.toNode = target

/-- Some listed node can be reached from itself along the edges between listed nodes. -/
def HasCycle (nodeIds : List String) (edges : List DataEdge) : Prop :=
  ∃ n, Relation.TransGen (Linked nodeIds edges) n n

/-- Without a remainder, every path goes up in the order. -/
theorem idxOf_lt_of_path {nodeIds : List String} (hnodup : nodeIds.Nodup)
    {edges : List DataEdge} (h : (kahnOrder nodeIds edges).2 = []) {source target : String}
    (hpath : Relation.TransGen (Linked nodeIds edges) source target) :
    (kahnOrder nodeIds edges).1.idxOf source < (kahnOrder nodeIds edges).1.idxOf target := by
  induction hpath with
  | single hlinked =>
      obtain ⟨edge, hedge, rfl, rfl⟩ := hlinked
      exact acyclic_of_no_remaining hnodup h edge hedge
  | tail _ hlinked ih =>
      obtain ⟨edge, hedge, rfl, rfl⟩ := hlinked
      exact Nat.lt_trans ih (acyclic_of_no_remaining hnodup h edge hedge)

/-- Nothing remains exactly if there is no cycle. -/
theorem remaining_eq_nil_iff {nodeIds : List String} (hnodup : nodeIds.Nodup)
    (edges : List DataEdge) :
    (kahnOrder nodeIds edges).2 = [] ↔ ¬ HasCycle nodeIds edges := by
  constructor
  · intro h hcycle
    obtain ⟨n, hpath⟩ := hcycle
    exact absurd (idxOf_lt_of_path hnodup h hpath) (Nat.lt_irrefl _)
  · intro hacyclic
    -- Among finitely many nodes without a cycle, the paths are well-founded.
    let reaches : {n // n ∈ (kahnOrder nodeIds edges).2} →
        {n // n ∈ (kahnOrder nodeIds edges).2} → Prop :=
      fun source target => Relation.TransGen (Linked nodeIds edges) source.1 target.1
    have htrans : IsTrans _ reaches := ⟨fun _ _ _ => Relation.TransGen.trans⟩
    have hirrefl : Std.Irrefl reaches := ⟨fun n hpath => hacyclic ⟨n.1, hpath⟩⟩
    have hfounded : WellFounded reaches := Finite.wellFounded_of_trans_of_irrefl reaches
    have hnone : ∀ n : {n // n ∈ (kahnOrder nodeIds edges).2}, False := by
      intro n
      induction n using hfounded.induction with
      | h n ih =>
          obtain ⟨edge, hedge, hto, hfrom⟩ := (kahn_order_spec hnodup edges).stuck n.1 n.2
          exact ih ⟨edge.fromNode, hfrom⟩ (.single ⟨edge, hedge, rfl, hto⟩)
    exact List.eq_nil_iff_forall_not_mem.mpr fun n hn => hnone ⟨n, hn⟩

/-- What a topological sort of these nodes and edges has to return. -/
structure TopologicallySorted (nodeIds : List String) (edges : List DataEdge)
    (order remaining : List String) : Prop where
  nodup : order.Nodup
  perm : (order ++ remaining).Perm nodeIds
  sourcesFirst : ∀ edge ∈ edges, edge.fromNode ∈ order → edge.toNode ∈ order →
    order.idxOf edge.fromNode < order.idxOf edge.toNode
  remaining_iff : remaining = [] ↔ ¬ HasCycle nodeIds edges

/-- `kahnOrder` sorts every list of distinct nodes, whatever the edges are. -/
theorem kahn_order_sorts {nodeIds : List String} (hnodup : nodeIds.Nodup)
    (edges : List DataEdge) :
    TopologicallySorted nodeIds edges (kahnOrder nodeIds edges).1 (kahnOrder nodeIds edges).2 := by
  have hspec := kahn_order_spec hnodup edges
  refine ⟨hspec.nodup, ?_, ?_, remaining_eq_nil_iff hnodup edges⟩
  · have hdisjoint : List.Disjoint (kahnOrder nodeIds edges).1 (kahnOrder nodeIds edges).2 :=
      fun n horder hremaining => ((hspec.remaining_iff n).mp hremaining).2 horder
    have hrest : (kahnOrder nodeIds edges).2.Nodup := hnodup.filter _
    refine (List.perm_ext_iff_of_nodup (hspec.nodup.append hrest hdisjoint) hnodup).mpr ?_
    intro n
    rw [List.mem_append, hspec.remaining_iff]
    constructor
    · intro hn
      rcases hn with horder | hremaining
      · exact hspec.known n horder
      · exact hremaining.1
    · intro hn
      by_cases horder : n ∈ (kahnOrder nodeIds edges).1
      · exact Or.inl horder
      · exact Or.inr ⟨hn, horder⟩
  · intro edge hedge hfrom hto
    exact hspec.idxOf_lt (mem_knownEdges.mpr ⟨hedge, hspec.known _ hfrom, hspec.known _ hto⟩) hto

end AgentGraphStudio
