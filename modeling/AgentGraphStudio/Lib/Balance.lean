import AgentGraphStudio.Lib.Pool
import Mathlib.Algebra.BigOperators.Group.Finset.Piecewise
import Mathlib.Algebra.Order.BigOperators.Group.Finset
import Mathlib.Algebra.Order.Ring.Int

/-!
# Balanced programs

Operations that open something weigh one and those that close it again weigh minus one. A
program `Settles` from a level to another if what it performs never takes the level below zero
and every end is at the other level, whatever it is answered; it is `Balanced` if it settles
from zero to zero. Balance passes through sequences and through programs that run side by side.

For a list of operations, `open_iff` says that one of them is still open exactly if the total is
positive, and for the threads of a pool `total_pos_iff` says that the total of all is positive
exactly if that of some thread is.
-/

variable {ι Op : Type} {Res : Op → Type} {α β γ State : Type}

namespace Program

/-! ## Totals -/

/-- What these events weigh together. -/
def total (weigh : Op → ℤ) (events : List (Event Op Res)) : ℤ :=
  (events.map fun event => weigh event.op).sum

section

variable {weigh : Op → ℤ}

@[simp] theorem total_nil : total weigh ([] : List (Event Op Res)) = 0 := rfl

@[simp] theorem total_cons (event : Event Op Res) (events : List (Event Op Res)) :
    total weigh (event :: events) = weigh event.op + total weigh events := by
  simp [total]

@[simp] theorem total_append (first second : List (Event Op Res)) :
    total weigh (first ++ second) = total weigh first + total weigh second := by
  simp [total]

/-- Some event opened something, and what came after it has not closed it. -/
def Open (weigh : Op → ℤ) (events : List (Event Op Res)) : Prop :=
  ∃ before event after, events = before ++ event :: after ∧ weigh event.op = 1 ∧
    ∀ start, start <+: after → 0 ≤ total weigh start

/-- What is open after a part of the events is open after all of them. -/
theorem Open.of_suffix (first : List (Event Op Res)) {second : List (Event Op Res)}
    (h : Open weigh second) :
    Open weigh (first ++ second) := by
  obtain ⟨before, event, after, rfl, hevent, hafter⟩ := h
  exact ⟨first ++ before, event, after, by simp, hevent, hafter⟩

/-- A positive total leaves something open: the first event does, unless it is closed at some
point, and what follows that point has a positive total again. -/
theorem open_of_total_pos (hweigh : ∀ op, weigh op ≤ 1) (events : List (Event Op Res))
    (h : 0 < total weigh events) : Open weigh events := by
  induction hlength : events.length using Nat.strong_induction_on generalizing events with
  | _ length ih =>
      cases events with
      | nil => simp at h
      | cons event rest =>
          rw [total_cons] at h
          have hone := hweigh event.op
          rw [List.length_cons] at hlength
          by_cases hrest : 0 < total weigh rest
          · exact Open.of_suffix [event] (ih rest.length (by omega) rest hrest rfl)
          · by_cases hclosed : ∀ start, start <+: rest → 0 ≤ total weigh start
            · exact ⟨[], event, rest, rfl, by omega, hclosed⟩
            · push Not at hclosed
              obtain ⟨start, ⟨later, rfl⟩, hstart⟩ := hclosed
              rw [total_append] at h hrest
              have hlater : 0 < total weigh later := by omega
              rw [List.length_append] at hlength
              have hopen := ih later.length (by omega) later hlater rfl
              exact Open.of_suffix (event :: start) hopen

/-- Where no part from the start on closes more than was opened, something is open exactly if
the total is positive. -/
theorem open_iff (hweigh : ∀ op, weigh op ≤ 1) {events : List (Event Op Res)}
    (hstarts : ∀ start, start <+: events → 0 ≤ total weigh start) :
    Open weigh events ↔ 0 < total weigh events := by
  constructor
  · intro h
    obtain ⟨before, event, after, rfl, hevent, hafter⟩ := h
    have hbefore := hstarts before (List.prefix_append _ _)
    have hlast := hafter after List.prefix_rfl
    rw [total_append, total_cons]
    omega
  · exact open_of_total_pos hweigh events

end

/-! ## Settling -/

section

variable (permits : Op → Prop) (weigh : Op → ℤ)

/-- From this level on, the program performs only permitted operations, never takes the level
below zero, and is at the last level whenever it ends. -/
def Settles (last : ℤ) : ℤ → Program Op Res α → Prop
  | level, .done _ => level = last
  | level, .perform op next => permits op ∧ 0 ≤ level + weigh op ∧
      ∀ response, Settles last (level + weigh op) (next response)
  | level, .choose next => ∀ choice, Settles last level (next choice)

/-- The program closes whatever it opens. -/
abbrev Balanced (program : Program Op Res α) : Prop := Settles permits weigh 0 0 program

end

namespace Settles

variable {permits : Op → Prop} {weigh : Op → ℤ} {level middle last : ℤ}
  {program : Program Op Res α}

theorem done (value : α) : Settles permits weigh level level (.done value : Program Op Res α) := rfl

/-- One operation. -/
theorem op {op : Op} (hpermits : permits op) (hlevel : 0 ≤ level + weigh op) :
    Settles permits weigh (level + weigh op) level (Program.op op : Program Op Res (Res op)) :=
  ⟨hpermits, hlevel, fun _ => rfl⟩

/-- Sequencing: the rest starts at the level at which the first program ends. -/
theorem bind {f : α → Program Op Res β} (h : Settles permits weigh middle level program)
    (hf : ∀ value, Settles permits weigh last middle (f value)) :
    Settles permits weigh last level (program.bind f) := by
  induction program generalizing level with
  | done value =>
      cases h
      exact hf value
  | perform op next ih => exact ⟨h.1, h.2.1, fun response => ih response (h.2.2 response)⟩
  | choose next ih => exact fun choice => ih choice (h choice)

/-- What is open besides does not disturb a program. -/
theorem frame {extra : ℤ} (hextra : 0 ≤ extra) (h : Settles permits weigh last level program) :
    Settles permits weigh (last + extra) (level + extra) program := by
  induction program generalizing level with
  | done value =>
      cases h
      exact done value
  | perform op next ih =>
      obtain ⟨hpermits, hlevel, hnext⟩ := h
      refine ⟨hpermits, by omega, fun response => ?_⟩
      rw [add_right_comm]
      exact ih response (hnext response)
  | choose next ih => exact fun choice => ih choice (h choice)

/-- A balanced program settles at any level. -/
theorem of_balanced (h : Balanced permits weigh program) (hlevel : 0 ≤ level) :
    Settles permits weigh level level program := by
  have hframed := h.frame hlevel
  rwa [zero_add] at hframed

/-- Running one program against another, which is at a level of its own. -/
theorem against {other : Program Op Res β} {left : Program Op Res β → Program Op Res γ}
    {finish : β → Program Op Res γ} {level' last' : ℤ} (hlevel : 0 ≤ level)
    (hleft : ∀ other level', 0 ≤ level' → Settles permits weigh last' level' other →
      Settles permits weigh (last + last') (level + level') (left other))
    (hfinish : 0 ≤ last' → ∀ value,
      Settles permits weigh (last + last') (level + last') (finish value))
    (hlevel' : 0 ≤ level') (h : Settles permits weigh last' level' other) :
    Settles permits weigh (last + last') (level + level') (Program.against left finish other) := by
  induction other generalizing level' with
  | done value =>
      cases h
      exact hfinish hlevel' value
  | perform op next ih =>
      intro first
      cases first with
      | true => exact hleft (.perform op next) level' hlevel' h
      | false =>
          obtain ⟨hpermits, hnonneg, hnext⟩ := h
          refine ⟨hpermits, by omega, fun response => ?_⟩
          rw [add_assoc]
          exact ih response hnonneg (hnext response)
  | choose next ih =>
      intro first
      cases first with
      | true => exact hleft (.choose next) level' hlevel' h
      | false => exact fun choice => ih choice hlevel' (h choice)

/-- Programs that run side by side add up their levels. -/
theorem interleave {other : Program Op Res β} {level' last' : ℤ}
    (hlevel : 0 ≤ level) (hlevel' : 0 ≤ level') (h : Settles permits weigh last level program)
    (hother : Settles permits weigh last' level' other) :
    Settles permits weigh (last + last') (level + level')
      (Program.interleave program other) := by
  induction program generalizing level level' other with
  | done value =>
      cases h
      have hframed := hother.frame hlevel
      rw [add_comm last' last, add_comm level' last] at hframed
      exact hframed.bind fun result => done _
  | perform op next ih =>
      obtain ⟨hpermits, hnonneg, hnext⟩ := h
      refine against hlevel (fun other level' hlevel' hother => ?_) (fun hlast' result => ?_)
        hlevel' hother
      · refine ⟨hpermits, by omega, fun response => ?_⟩
        rw [add_right_comm]
        exact ih response hnonneg hlevel' (hnext response) hother
      · refine ⟨hpermits, by omega, fun response => ?_⟩
        rw [add_right_comm]
        exact ((hnext response).frame hlast').bind fun value => done _
  | choose next ih =>
      refine against hlevel (fun other level' hlevel' hother => ?_) (fun hlast' result => ?_)
        hlevel' hother
      · exact fun choice => ih choice hlevel hlevel' (h choice) hother
      · exact fun choice => ((h choice).frame hlast').bind fun value => done _

/-- Balanced programs that run side by side are balanced together. -/
theorem gather {programs : List (Program Op Res α)}
    (h : ∀ program ∈ programs, Balanced permits weigh program) :
    Balanced permits weigh (Program.gather programs) := by
  induction programs with
  | nil => exact done []
  | cons program programs ih =>
      rw [List.forall_mem_cons] at h
      have hboth := interleave le_rfl le_rfl h.1 (ih h.2)
      rw [add_zero] at hboth
      exact hboth.bind fun values => done _

/-- Whatever a run was answered, it performed permitted operations only, its total has not
taken the level below zero, and what is left settles from the level it has come to. -/
theorem run {events : List (Event Op Res)} {rest : Program Op Res α} (hlevel : 0 ≤ level)
    (h : Settles permits weigh last level program) (hrun : Run program events rest) :
    (∀ event ∈ events, permits event.op) ∧ 0 ≤ level + total weigh events ∧
      Settles permits weigh last (level + total weigh events) rest := by
  induction hrun generalizing level with
  | refl program => exact ⟨by simp, by simpa using hlevel, by simpa using h⟩
  | perform _ ih =>
      obtain ⟨hpermits, hnonneg, hnext⟩ := h
      have hrest := ih hnonneg (hnext _)
      rw [add_assoc] at hrest
      rw [total_cons, List.forall_mem_cons]
      exact ⟨⟨hpermits, hrest.1⟩, hrest.2⟩
  | choose _ ih => exact ih hlevel (h _)

/-- A balanced program that has come to its end has closed what it opened. -/
theorem total_of_ends {events : List (Event Op Res)} {value : α}
    (h : Balanced permits weigh program) (hends : Ends program events value) :
    total weigh events = 0 := by
  have hlast := (h.run le_rfl hends).2.2
  rwa [zero_add] at hlast

/-- Balance passes through every construction, from operations that weigh nothing. -/
theorem compositional (permits : Op → Prop) (weigh : Op → ℤ) :
    Compositional (fun op => permits op ∧ weigh op = 0)
      fun _ (program : Program Op Res _) => Balanced permits weigh program where
  done := done
  op h := by
    refine ⟨h.1, by omega, fun _ => ?_⟩
    rw [h.2]
    rfl
  bind := bind
  gather := gather

end Settles

end Program

/-! ## The threads of a pool -/

namespace Pool

variable [DecidableEq ι] {weigh : Op → ℤ}

/-- The threads that have performed something. -/
def owners (pool : Pool ι Op Res α State) : Finset ι := (pool.history.map Prod.fst).toFinset

/-- What has happened weighs what the threads have performed. -/
theorem total_events (pool : Pool ι Op Res α State) :
    Program.total weigh pool.events =
      ∑ thread ∈ pool.owners, Program.total weigh (pool.eventsOf thread) := by
  have hsum : ∀ (history : List (ι × Event Op Res)) (owners : Finset ι),
      (∀ entry ∈ history, entry.1 ∈ owners) →
      Program.total weigh (history.map Prod.snd) = ∑ thread ∈ owners,
        Program.total weigh ((history.filter fun entry => entry.1 = thread).map Prod.snd) := by
    intro history owners howners
    induction history with
    | nil => simp
    | cons entry history ih =>
        rw [List.forall_mem_cons] at howners
        have hthread : ∀ thread, Program.total weigh
            (((entry :: history).filter fun entry => entry.1 = thread).map Prod.snd) =
            (if entry.1 = thread then weigh entry.2.op else 0) + Program.total weigh
              ((history.filter fun entry => entry.1 = thread).map Prod.snd) := by
          intro thread
          by_cases hentry : entry.1 = thread
          · simp [hentry]
          · simp [hentry]
        rw [List.map_cons, Program.total_cons, ih howners.2,
          Finset.sum_congr rfl fun thread _ => hthread thread, Finset.sum_add_distrib,
          Finset.sum_ite_eq, if_pos howners.1]
  refine hsum pool.history pool.owners fun entry hentry => ?_
  exact List.mem_toFinset.mpr (List.mem_map_of_mem hentry)

/-- If no thread has closed more than it opened, the total of all is positive exactly if that of
some thread is. -/
theorem total_pos_iff {pool : Pool ι Op Res α State}
    (h : ∀ thread, 0 ≤ Program.total weigh (pool.eventsOf thread)) :
    0 < Program.total weigh pool.events ↔
      ∃ thread, 0 < Program.total weigh (pool.eventsOf thread) := by
  rw [total_events]
  constructor
  · intro hpos
    by_contra hnone
    push Not at hnone
    exact absurd hpos (not_lt.mpr (Finset.sum_nonpos fun thread _ => hnone thread))
  · intro hsome
    obtain ⟨thread, hthread⟩ := hsome
    have howner : thread ∈ pool.owners := by
      by_contra hout
      have hnothing : pool.eventsOf thread = [] := by
        refine List.eq_nil_iff_forall_not_mem.mpr fun event hevent => hout ?_
        exact List.mem_toFinset.mpr (List.mem_map_of_mem (mem_eventsOf.mp hevent))
      rw [hnothing] at hthread
      exact absurd hthread (lt_irrefl 0)
    exact Finset.sum_pos' (fun thread _ => h thread) ⟨thread, howner, hthread⟩

/-- If no thread has closed more than it opened, all of them together have not. -/
theorem total_nonneg {pool : Pool ι Op Res α State}
    (h : ∀ thread, 0 ≤ Program.total weigh (pool.eventsOf thread)) :
    0 ≤ Program.total weigh pool.events := by
  rw [total_events]
  exact Finset.sum_nonneg fun thread _ => h thread

end Pool
