import Mathlib.Logic.Function.Basic
import Mathlib.Logic.Relation
import AgentGraphStudio.Lib.Program

/-!
# Threads over a shared state

A `Pool` runs any number of threads, each of them a program, over one shared state. A step
lets one thread perform its next operation with a response that the shared state gives, or
take one side of a choice, and the pool records who performed what. `Reachable.sound` lifts
the certificates of the threads to every interleaving: it needs an invariant that relates the
shared state to the history and that every permitted operation keeps.
-/

variable {ι Op : Type} {Res : Op → Type} {α State : Type}

/-- Threads, their shared state and what they have performed so far. -/
structure Pool (ι Op : Type) (Res : Op → Type) (α State : Type) where
  threads : ι → Program Op Res α
  state : State
  history : List (ι × Event Op Res) := []

namespace Pool

variable [DecidableEq ι]

/-- What has happened, whoever did it. -/
def events (pool : Pool ι Op Res α State) : List (Event Op Res) := pool.history.map Prod.snd

/-- The pool after a thread performed an operation. -/
def perform (pool : Pool ι Op Res α State) (thread : ι) (event : Event Op Res) (state : State)
    (rest : Program Op Res α) : Pool ι Op Res α State where
  threads := Function.update pool.threads thread rest
  state
  history := pool.history ++ [(thread, event)]

/-- The pool after a thread made a choice. -/
def choose (pool : Pool ι Op Res α State) (thread : ι) (rest : Program Op Res α) :
    Pool ι Op Res α State :=
  { pool with threads := Function.update pool.threads thread rest }

theorem threads_perform (pool : Pool ι Op Res α State) (thread : ι) (event : Event Op Res)
    (state : State) (rest : Program Op Res α) :
    (pool.perform thread event state rest).threads = Function.update pool.threads thread rest := rfl

theorem threads_choose (pool : Pool ι Op Res α State) (thread : ι) (rest : Program Op Res α) :
    (pool.choose thread rest).threads = Function.update pool.threads thread rest := rfl

@[simp] theorem events_perform (pool : Pool ι Op Res α State) (thread : ι)
    (event : Event Op Res) (state : State) (rest : Program Op Res α) :
    (pool.perform thread event state rest).events = pool.events ++ [event] := by
  simp [events, perform]

variable (effect : State → Event Op Res → State → Prop)

/-- One step of one thread. -/
inductive Step : Pool ι Op Res α State → Pool ι Op Res α State → Prop where
  | perform {pool : Pool ι Op Res α State} {thread : ι} {op : Op}
      {next : Res op → Program Op Res α} {response : Res op} {state : State}
      (hthread : pool.threads thread = .perform op next)
      (heffect : effect pool.state ⟨op, response⟩ state) :
      Step pool (pool.perform thread ⟨op, response⟩ state (next response))
  | choose {pool : Pool ι Op Res α State} {thread : ι} {next : Bool → Program Op Res α}
      (hthread : pool.threads thread = .choose next) (choice : Bool) :
      Step pool (pool.choose thread (next choice))

/-- The pools that some interleaving reaches. -/
abbrev Reachable : Pool ι Op Res α State → Pool ι Op Res α State → Prop :=
  Relation.ReflTransGen (Step effect)

variable {effect}

/-- What every operation keeps, whoever performs it, holds of every pool that is reached. -/
theorem Reachable.keeps {invariant : State → List (ι × Event Op Res) → Prop}
    (hstep : ∀ thread state history event state', invariant state history →
      effect state event state' → invariant state' (history ++ [(thread, event)]))
    {init pool : Pool ι Op Res α State} (hinit : invariant init.state init.history)
    (hreach : Reachable effect init pool) : invariant pool.state pool.history := by
  induction hreach with
  | refl => exact hinit
  | tail _ hlast ih =>
      cases hlast with
      | perform hthread heffect => exact hstep _ _ _ _ _ ih heffect
      | choose hthread choice => exact ih

/-! ## One thread of a pool -/

/-- What one thread has performed. -/
def eventsOf (pool : Pool ι Op Res α State) (thread : ι) : List (Event Op Res) :=
  (pool.history.filter fun entry => entry.1 = thread).map Prod.snd

theorem mem_eventsOf {pool : Pool ι Op Res α State} {thread : ι} {event : Event Op Res} :
    event ∈ pool.eventsOf thread ↔ (thread, event) ∈ pool.history := by
  simp [eventsOf]

/-- An entry of the history splits what its thread has performed. -/
theorem eventsOf_at {pool : Pool ι Op Res α State} {thread : ι} {event : Event Op Res}
    {before after : List (ι × Event Op Res)}
    (h : pool.history = before ++ (thread, event) :: after) :
    ∃ earlier later, pool.eventsOf thread = earlier ++ event :: later ∧
      ∀ done, done ∈ earlier ↔ (thread, done) ∈ before := by
  refine ⟨(before.filter fun entry => entry.1 = thread).map Prod.snd,
    (after.filter fun entry => entry.1 = thread).map Prod.snd, ?_, fun done => by simp⟩
  unfold eventsOf
  rw [h]
  simp

/-- What a thread performed one after the other stands in this order in the history. -/
theorem eventsOf_split {pool : Pool ι Op Res α State} {thread : ι}
    {earlier later : List (Event Op Res)} {event : Event Op Res}
    (h : pool.eventsOf thread = earlier ++ event :: later) :
    ∃ before after, pool.history = before ++ (thread, event) :: after ∧
      ∀ done ∈ earlier, (thread, done) ∈ before := by
  unfold eventsOf at h
  obtain ⟨first, second, hfilter, hearlier, hlater⟩ := List.map_eq_append_iff.mp h
  obtain ⟨before, after, hhistory, hbefore, hafter⟩ := List.filter_eq_append_iff.mp hfilter
  obtain ⟨entry, rest, rfl, hentry, _⟩ := List.map_eq_cons_iff.mp hlater
  obtain ⟨skipped, last, rfl, _, howner, _⟩ := List.filter_eq_cons_iff.mp hafter
  have hthread : entry = (thread, event) := Prod.ext (of_decide_eq_true howner) hentry
  subst hthread
  refine ⟨before ++ skipped, last, by rw [hhistory, List.append_assoc], fun done hdone => ?_⟩
  rw [← hearlier] at hdone
  obtain ⟨⟨owner, _⟩, hmem, rfl⟩ := List.mem_map.mp hdone
  rw [← hbefore] at hmem
  obtain ⟨hbeforeMem, howned⟩ := List.mem_filter.mp hmem
  cases of_decide_eq_true howned
  exact List.mem_append_left _ hbeforeMem

theorem eventsOf_perform (pool : Pool ι Op Res α State) (thread other : ι)
    (event : Event Op Res) (state : State) (rest : Program Op Res α) :
    (pool.perform thread event state rest).eventsOf other =
      pool.eventsOf other ++ if other = thread then [event] else [] := by
  unfold eventsOf perform
  rw [List.filter_append, List.map_append]
  by_cases hthread : thread = other
  · simp [hthread]
  · simp [hthread, Ne.symm hthread]

/-- Whatever the interleaving, each thread has made a run of its own program. -/
theorem Reachable.thread_run {init pool : Pool ι Op Res α State} (hhistory : init.history = [])
    (hreach : Reachable effect init pool) (thread : ι) :
    Program.Run (init.threads thread) (pool.eventsOf thread) (pool.threads thread) := by
  induction hreach with
  | refl =>
      have hnone : init.eventsOf thread = [] := by rw [eventsOf, hhistory]; rfl
      rw [hnone]
      exact .refl _
  | tail _ hstep ih =>
      cases hstep with
      | @perform mover op next response state hthread heffect =>
          rw [eventsOf_perform, threads_perform]
          rcases eq_or_ne thread mover with rfl | hne
          · rw [hthread] at ih
            rw [Function.update_self, if_pos rfl]
            exact ih.trans (.perform (.refl _))
          · rw [Function.update_of_ne hne, if_neg hne, List.append_nil]
            exact ih
      | @choose mover next hthread choice =>
          rw [threads_choose]
          rcases eq_or_ne thread mover with rfl | hne
          · rw [hthread] at ih
            rw [Function.update_self]
            have hchosen : Program.Run (.choose next) [] (next choice) := .choose (.refl _)
            have hrun := ih.trans hchosen
            rwa [List.append_nil] at hrun
          · rw [Function.update_of_ne hne]
            exact ih

/-- A list is split at its last entry, or in what comes before it. -/
theorem split_concat {Entry : Type} {entries before after : List Entry} {last entry : Entry}
    (h : entries ++ [last] = before ++ entry :: after) :
    (entries = before ∧ last = entry) ∨ ∃ rest, entries = before ++ entry :: rest := by
  rcases List.eq_nil_or_concat after with rfl | ⟨rest, final, rfl⟩
  · obtain ⟨hbefore, hlast⟩ := List.append_inj' h rfl
    exact .inl ⟨hbefore, List.singleton_inj.mp hlast⟩
  · rw [List.concat_eq_append, ← List.cons_append, ← List.append_assoc] at h
    exact .inr ⟨rest, (List.append_inj' h rfl).1⟩

/-- When an entry of the history was made, some pool had come to the history before it. -/
theorem Reachable.at_entry {init pool : Pool ι Op Res α State} (hhistory : init.history = [])
    (hreach : Reachable effect init pool) {before after : List (ι × Event Op Res)} {thread : ι}
    {event : Event Op Res} (h : pool.history = before ++ (thread, event) :: after) :
    ∃ here state rest, Reachable effect init here ∧ here.history = before ∧
      effect here.state event state ∧
      Reachable effect (here.perform thread event state rest) pool := by
  induction hreach generalizing after with
  | refl =>
      rw [hhistory] at h
      exact absurd h (by simp)
  | @tail middle last hmiddle hstep ih =>
      cases hstep with
      | @perform mover op next response state hthread heffect =>
          replace h : middle.history ++ [(mover, ⟨op, response⟩)] =
            before ++ (thread, event) :: after := h
          rcases split_concat h with ⟨hbefore, hentry⟩ | ⟨rest, hearlier⟩
          · cases hentry
            exact ⟨middle, state, _, hmiddle, hbefore, heffect, .refl⟩
          · obtain ⟨here, state', rest', hhere, hbefore, hdone, hrest⟩ := ih hearlier
            exact ⟨here, state', rest', hhere, hbefore, hdone,
              hrest.tail (.perform hthread heffect)⟩
      | @choose mover next hthread choice =>
          obtain ⟨here, state', rest', hhere, hbefore, hdone, hrest⟩ := ih h
          exact ⟨here, state', rest', hhere, hbefore, hdone, hrest.tail (.choose hthread choice)⟩

/-- Of two entries of the history one was made when the other was there. -/
theorem Reachable.one_after_other {init pool : Pool ι Op Res α State}
    (hhistory : init.history = []) (hreach : Reachable effect init pool)
    {first second : ι × Event Op Res} (hfirst : first ∈ pool.history)
    (hsecond : second ∈ pool.history) (hne : first ≠ second) :
    (∃ here state, Reachable effect init here ∧ second ∈ here.history ∧
      effect here.state first.2 state) ∨
    ∃ here state, Reachable effect init here ∧ first ∈ here.history ∧
      effect here.state second.2 state := by
  obtain ⟨thread, event⟩ := first
  obtain ⟨other, done⟩ := second
  obtain ⟨before, after, hsplit⟩ := List.append_of_mem hfirst
  rw [hsplit] at hsecond
  rcases List.mem_append.mp hsecond with hbefore | hrest
  · obtain ⟨here, state, _, hhere, rfl, heffect, _⟩ := hreach.at_entry hhistory hsplit
    exact .inl ⟨here, state, hhere, hbefore, heffect⟩
  · rcases List.mem_cons.mp hrest with hsame | hafter
    · exact absurd hsame.symm hne
    · obtain ⟨between, last, rfl⟩ := List.append_of_mem hafter
      rw [← List.cons_append, ← List.append_assoc] at hsplit
      obtain ⟨here, state, _, hhere, hbefore, heffect, _⟩ := hreach.at_entry hhistory hsplit
      refine .inr ⟨here, state, hhere, ?_, heffect⟩
      rw [hbefore]
      exact List.mem_append_right _ List.mem_cons_self

/-! ## Following a schedule -/

/-- Let a thread make its next step, with the answer of the shared state. -/
def advance (respond : State → (op : Op) → Option (Res op × State))
    (pool : Pool ι Op Res α State) (thread : ι) : Option (Pool ι Op Res α State) :=
  match pool.threads thread with
  | .done _ => none
  | .perform op next =>
    (respond pool.state op).map fun answer =>
      pool.perform thread ⟨op, answer.1⟩ answer.2 (next answer.1)
  | .choose next => some (pool.choose thread (next true))

/-- Let the threads of a schedule make their steps. -/
def follow (respond : State → (op : Op) → Option (Res op × State))
    (pool : Pool ι Op Res α State) : List ι → Option (Pool ι Op Res α State)
  | [] => some pool
  | thread :: schedule => (pool.advance respond thread).bind fun pool =>
    pool.follow respond schedule

/-- A schedule that can be followed is an interleaving. -/
theorem reachable_of_follow {respond : State → (op : Op) → Option (Res op × State)}
    (hrespond : ∀ state op response state', respond state op = some (response, state') →
      effect state ⟨op, response⟩ state')
    {schedule : List ι} {pool pool' : Pool ι Op Res α State}
    (h : pool.follow respond schedule = some pool') : Reachable effect pool pool' := by
  induction schedule generalizing pool with
  | nil =>
      cases h
      exact .refl
  | cons thread schedule ih =>
      obtain ⟨next, hnext, hrest⟩ := Option.bind_eq_some_iff.mp h
      refine .head ?_ (ih hrest)
      unfold advance at hnext
      split at hnext
      · cases hnext
      · rename_i op rest hthread
        obtain ⟨answer, hanswer, rfl⟩ := Option.map_eq_some_iff.mp hnext
        exact .perform hthread (hrespond _ _ _ _ hanswer)
      · rename_i rest hthread
        cases hnext
        exact .choose hthread true

/-! ## Sound pools -/

section

variable (permitted : ι → List (Event Op Res) → Op → Prop)
  (allowed : List (Event Op Res) → (op : Op) → Res op → Prop)
  (invariant : State → List (Event Op Res) → Prop)
  (post : ι → List (Event Op Res) → α → Prop)

/-- What the certificates of the threads say about a pool. -/
structure Sound (pool : Pool ι Op Res α State) : Prop where
  state : invariant pool.state pool.events
  threads : ∀ thread, Program.Certified (permitted thread) allowed pool.events
    (pool.threads thread) (post thread)
  history : ∀ before thread event after, pool.history = before ++ (thread, event) :: after →
    permitted thread (before.map Prod.snd) event.op

/-- Every permitted operation keeps the invariant and has an allowed response. -/
def Preserves (effect : State → Event Op Res → State → Prop) : Prop :=
  ∀ thread state history event state', invariant state history →
    permitted thread history event.op → effect state event state' →
      allowed history event.op event.response ∧ invariant state' (history ++ [event])

end

variable {permitted : ι → List (Event Op Res) → Op → Prop}
  {allowed : List (Event Op Res) → (op : Op) → Res op → Prop}
  {invariant : State → List (Event Op Res) → Prop}
  {post : ι → List (Event Op Res) → α → Prop}

/-- One step keeps a pool sound: the thread that moves follows its certificate, and the
certificates of the others survive its operation. -/
theorem Sound.step (hpreserves : Preserves permitted allowed invariant effect)
    {pool pool' : Pool ι Op Res α State} (h : Sound permitted allowed invariant post pool)
    (hstep : Step effect pool pool') : Sound permitted allowed invariant post pool' := by
  cases hstep with
  | @perform thread op next response state hthread heffect =>
      have hcertified := h.threads thread
      rw [hthread] at hcertified
      obtain ⟨hpermitted, hnext⟩ := hcertified []
      rw [List.append_nil] at hpermitted hnext
      obtain ⟨hallowed, hstate⟩ := hpreserves thread _ _ ⟨op, response⟩ _ h.state hpermitted heffect
      refine ⟨?_, fun other => ?_, fun before other event after hhistory => ?_⟩
      · rwa [events_perform]
      · rw [events_perform]
        change Program.Certified _ _ _ (Function.update pool.threads thread _ other) _
        rcases eq_or_ne other thread with rfl | hne
        · rw [Function.update_self]
          exact hnext response hallowed
        · rw [Function.update_of_ne hne]
          exact (h.threads other).later _
      · change pool.history ++ [(thread, _)] = _ at hhistory
        rcases split_concat hhistory with ⟨rfl, hlast⟩ | ⟨rest, hearlier⟩
        · cases hlast
          exact hpermitted
        · exact h.history before other event rest hearlier
  | @choose thread next hthread choice =>
      refine ⟨h.state, fun other => ?_, h.history⟩
      have hcertified := h.threads thread
      rw [hthread] at hcertified
      change Program.Certified _ _ _ (Function.update pool.threads thread _ other) _
      rcases eq_or_ne other thread with rfl | hne
      · rw [Function.update_self]
        exact hcertified choice
      · rw [Function.update_of_ne hne]
        exact h.threads other

/-- Every pool that an interleaving of certified threads reaches is sound. -/
theorem Reachable.sound (hpreserves : Preserves permitted allowed invariant effect)
    {init pool : Pool ι Op Res α State} (hhistory : init.history = [])
    (hstate : invariant init.state [])
    (hthreads : ∀ thread, Program.Certified (permitted thread) allowed [] (init.threads thread)
      (post thread))
    (hreach : Reachable effect init pool) : Sound permitted allowed invariant post pool := by
  induction hreach with
  | refl =>
      have hevents : init.events = [] := by rw [events, hhistory, List.map_nil]
      refine ⟨by rwa [hevents], fun thread => by rw [hevents]; exact hthreads thread, ?_⟩
      intro before thread event after h
      rw [hhistory] at h
      exact absurd h (by simp)
  | tail _ hstep ih => exact ih.step hpreserves hstep

omit [DecidableEq ι] in
/-- A thread that came to its end satisfies its postcondition. -/
theorem Sound.finished {pool : Pool ι Op Res α State}
    (h : Sound permitted allowed invariant post pool) {thread : ι} {value : α}
    (hdone : pool.threads thread = .done value) : post thread pool.events value := by
  have hcertified := h.threads thread
  rw [hdone] at hcertified
  have := hcertified []
  rwa [List.append_nil] at this

end Pool
