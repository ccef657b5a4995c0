import Mathlib.Control.Monad.Writer
import AgentGraphStudio.Lib.Program

/-!
# Programs that keep a log

A `Logged` program performs operations and writes entries into a log that no operation reads.
`erase` forgets the log. What is built from logged programs in the usual ways is, once erased,
built in the same way from the erased programs, so a program and its logged version have the
same runs (`ends_erase_iff`). `Yields` says of a logged program with which value and which log
it can end.
-/

namespace Program

variable {Op : Type} {Res : Op → Type} {α β γ δ : Type}

/-! ## Changing the values of programs -/

@[simp] theorem map_bind' (f : β → γ) (program : Program Op Res α) (g : α → Program Op Res β) :
    f <$> program.bind g = program.bind fun value => f <$> g value :=
  bind_assoc program g _

@[simp] theorem bind_map (f : α → β) (program : Program Op Res α) (g : β → Program Op Res γ) :
    (f <$> program).bind g = program.bind fun value => g (f value) :=
  bind_assoc program _ g

/-- A program against another one, with changed values. -/
theorem against_map {left : Program Op Res β → Program Op Res γ}
    {left' : Program Op Res δ → Program Op Res α} {finish : β → Program Op Res γ}
    {finish' : δ → Program Op Res α} {g : β → δ} {h : γ → α}
    (hleft : ∀ other, left' (g <$> other) = h <$> left other)
    (hfinish : ∀ value, finish' (g value) = h <$> finish value) (other : Program Op Res β) :
    against left' finish' (g <$> other) = h <$> against left finish other := by
  induction other with
  | done value => exact hfinish value
  | perform op next ih =>
      refine congrArg Program.choose (funext fun first => ?_)
      cases first with
      | true => exact hleft (.perform op next)
      | false => exact congrArg (Program.perform op) (funext ih)
  | choose next ih =>
      refine congrArg Program.choose (funext fun first => ?_)
      cases first with
      | true => exact hleft (.choose next)
      | false => exact congrArg Program.choose (funext ih)

/-- What is left of two programs when one of them has come to its end. -/
theorem map_beside (f : α → β) (pair : α → γ) (pair' : β → δ) (h : γ → δ)
    (hpair : ∀ value, pair' (f value) = h (pair value)) (program : Program Op Res α) :
    (f <$> program).bind (fun value => .done (pair' value)) =
      h <$> program.bind fun value => .done (pair value) := by
  rw [bind_map, map_bind']
  exact congrArg program.bind (funext fun value => congrArg Program.done (hpair value))

/-- Running side by side does not look at the values. -/
theorem interleave_map (f : α → γ) (g : β → δ) (program : Program Op Res α)
    (other : Program Op Res β) :
    interleave (f <$> program) (g <$> other) = Prod.map f g <$> interleave program other := by
  induction program generalizing other with
  | done value => exact map_beside g (value, ·) (f value, ·) (Prod.map f g) (fun _ => rfl) other
  | perform op next ih =>
      refine against_map (fun other => ?_) (fun result => ?_) other
      · exact congrArg (Program.perform op) (funext fun response => ih response other)
      · exact congrArg (Program.perform op) (funext fun response =>
          map_beside f (·, result) (·, g result) (Prod.map f g) (fun _ => rfl) (next response))
  | choose next ih =>
      refine against_map (fun other => ?_) (fun result => ?_) other
      · exact congrArg Program.choose (funext fun choice => ih choice other)
      · exact congrArg Program.choose (funext fun choice =>
          map_beside f (·, result) (·, g result) (Prod.map f g) (fun _ => rfl) (next choice))

/-- Nor does running a list of programs. -/
theorem gather_map (f : α → β) (programs : List (Program Op Res α)) :
    gather (programs.map (f <$> ·)) = List.map f <$> gather programs := by
  induction programs with
  | nil => rfl
  | cons program programs ih =>
      rw [List.map_cons, gather, ih, interleave_map, gather, bind_map, map_bind']
      rfl

/-! ## What a program ends with -/

/-- Every run that comes to its end has such a value. -/
def Yields (program : Program Op Res α) (post : α → Prop) : Prop :=
  ∀ history, Certified (fun _ _ => True) (fun _ _ _ => True) history program fun _ => post

namespace Yields

variable {program : Program Op Res α} {f : α → Program Op Res β} {post post' : α → Prop}
  {last : β → Prop}

theorem done {value : α} (h : post value) : Yields (.done value : Program Op Res α) post :=
  fun _ _ => h

theorem perform {op : Op} {next : Res op → Program Op Res α}
    (h : ∀ response, Yields (next response) post) : Yields (.perform op next) post :=
  fun _ _ => ⟨trivial, fun response _ => h response _⟩

theorem choose {next : Bool → Program Op Res α} (h : ∀ choice, Yields (next choice) post) :
    Yields (.choose next) post :=
  fun _ choice => h choice _

theorem mono (h : Yields program post) (hpost : ∀ value, post value → post' value) :
    Yields program post' :=
  fun history => (h history).mono fun _ value => hpost value

theorem bind (h : Yields program post) (hf : ∀ value, post value → Yields (f value) last) :
    Yields (program.bind f) last :=
  fun history => (h history).bind fun _ value hvalue => hf value (hvalue []) _

theorem any (program : Program Op Res α) : Yields program fun _ => True := by
  induction program with
  | done value => exact done trivial
  | perform op next ih => exact perform ih
  | choose next ih => exact choose ih

theorem map {g : α → β} (h : Yields program fun value => last (g value)) :
    Yields (g <$> program) last :=
  h.bind fun _ => done

theorem gather {programs : List (Program Op Res α)}
    (h : ∀ program ∈ programs, Yields program post) :
    Yields (Program.gather programs) fun values => ∀ value ∈ values, post value :=
  fun history => Certified.gather fun program hprogram => h program hprogram history

/-- Programs that run side by side yield a value each. -/
theorem gather_length (programs : List (Program Op Res α)) :
    Yields (Program.gather programs) fun values => values.length = programs.length := by
  induction programs with
  | nil => exact done rfl
  | cons program programs ih =>
      have hboth : Yields (Program.interleave program (Program.gather programs))
          fun values => True ∧ values.2.length = programs.length :=
        fun history => ((any program) history).interleave (ih history)
      exact hboth.bind fun values hvalues => done (congrArg (· + 1) hvalues.2)

/-- What a program yields holds at the end of its runs. -/
theorem ends (h : Yields program post) {events : List (Event Op Res)} {value : α}
    (hends : Ends program events value) : post value :=
  ((h []).run hends fun _ _ _ _ => trivial).2 []

end Yields

end Program

/-! ## Logs -/

/-- A program that keeps a log. -/
abbrev Logged (Op : Type) (Res : Op → Type) (Log : Type) := WriterT Log (Program Op Res)

namespace Logged

variable {Op : Type} {Res : Op → Type} {Log α β : Type}

/-- The program without its log. -/
def erase (program : Logged Op Res Log α) : Program Op Res α := Prod.fst <$> program.run

/-- A program has the runs of its logged version. -/
theorem ends_erase_iff {program : Logged Op Res Log α} {events : List (Event Op Res)} {value : α} :
    Program.Ends program.erase events value ↔
      ∃ log, Program.Ends program.run events (value, log) := by
  show Program.Ends (program.run.bind fun result => .done result.1) events value ↔ _
  rw [Program.ends_bind_iff]
  constructor
  · intro ⟨first, result, second, hevents, hfirst, hsecond⟩
    obtain ⟨rfl, rfl⟩ := Program.ends_done_iff.mp hsecond
    rw [hevents, List.append_nil]
    exact ⟨result.2, hfirst⟩
  · intro ⟨log, h⟩
    exact ⟨events, (value, log), [], (List.append_nil events).symm, h, .refl _⟩

/-- Write into the log. -/
def note (entry : Log) : Logged Op Res Log Unit := WriterT.mk (.done ((), entry))

@[simp] theorem erase_note (entry : Log) :
    (note entry : Logged Op Res Log Unit).erase = .done () := rfl

/-- Every run that comes to its end has such a value and such a log. -/
def Yields (program : Logged Op Res Log α) (post : α → Log → Prop) : Prop :=
  Program.Yields program.run fun result => post result.1 result.2

theorem Yields.note {entry : Log} {post : Unit → Log → Prop} (h : post () entry) :
    Yields (Logged.note entry : Logged Op Res Log Unit) post :=
  Program.Yields.done h

theorem Yields.mono {program : Logged Op Res Log α} {post post' : α → Log → Prop}
    (h : Yields program post) (hpost : ∀ value log, post value log → post' value log) :
    Yields program post' :=
  Program.Yields.mono h fun result => hpost result.1 result.2

theorem Yields.ends {program : Logged Op Res Log α} {post : α → Log → Prop}
    (h : Yields program post) {events : List (Event Op Res)} {value : α} {log : Log}
    (hends : Program.Ends program.run events (value, log)) : post value log :=
  Program.Yields.ends h hends

/-! ### Performing without writing -/

section

variable [EmptyCollection Log]

/-- Perform what another program performs and write nothing. -/
def lift (program : Program Op Res α) : Logged Op Res Log α :=
  WriterT.mk ((fun value => (value, ∅)) <$> program)

@[simp] theorem erase_lift (program : Program Op Res α) :
    (lift program : Logged Op Res Log α).erase = program := by
  show Prod.fst <$> (fun value => (value, (∅ : Log))) <$> program = program
  rw [← comp_map]
  exact id_map program

theorem Yields.lift {plain : Program Op Res α} {known : α → Prop} {post : α → Log → Prop}
    (h : Program.Yields plain known) (hpost : ∀ value, known value → post value ∅) :
    Yields (Logged.lift plain : Logged Op Res Log α) post :=
  Program.Yields.map (h.mono hpost)

theorem Yields.silent (plain : Program Op Res α) :
    Yields (Logged.lift plain : Logged Op Res Log α) fun _ log => log = ∅ :=
  .lift (.any plain) fun _ _ => rfl

end

/-! ### One program after another, and side by side -/

section

variable [EmptyCollection Log] [Append Log]

/-- Run a list of programs side by side. Their logs follow each other in the order of the
list. -/
def gather (programs : List (Logged Op Res Log α)) : Logged Op Res Log (List α) :=
  WriterT.mk ((fun results => (results.map Prod.fst, (results.map Prod.snd).foldr (· ++ ·) ∅)) <$>
    Program.gather (programs.map WriterT.run))

@[simp] theorem erase_pure (value : α) :
    (pure value : Logged Op Res Log α).erase = .done value := rfl

@[simp] theorem erase_bind (program : Logged Op Res Log α) (f : α → Logged Op Res Log β) :
    (program >>= f).erase = program.erase.bind fun value => (f value).erase := by
  show Prod.fst <$> program.run.bind (fun result =>
    (fun last => (last.1, result.2 ++ last.2)) <$> (f result.1).run) = _
  rw [erase, Program.bind_map, Program.map_bind']
  refine congrArg program.run.bind (funext fun result => ?_)
  rw [← comp_map]
  rfl

@[simp] theorem erase_gather (programs : List (Logged Op Res Log α)) :
    (gather programs).erase = Program.gather (programs.map erase) := by
  have herase : programs.map erase = (programs.map WriterT.run).map (Prod.fst <$> ·) := by
    rw [List.map_map]
    rfl
  rw [herase, Program.gather_map]
  show Prod.fst <$> _ <$> Program.gather (programs.map WriterT.run) = _
  rw [← comp_map]
  rfl

namespace Yields

variable {program : Logged Op Res Log α} {f : α → Logged Op Res Log β}
  {post : α → Log → Prop} {last : β → Log → Prop}

theorem pure {value : α} (h : post value ∅) : Yields (Pure.pure value : Logged Op Res Log α) post :=
  Program.Yields.done h

theorem bind (h : Yields program post)
    (hf : ∀ value log, post value log →
      Yields (f value) fun result more => last result (log ++ more)) :
    Yields (program >>= f) last :=
  Program.Yields.bind h fun result hresult => Program.Yields.map (hf result.1 result.2 hresult)

/-- Programs side by side: each value comes with the part of the log that its program wrote. -/
theorem gather {programs : List (Logged Op Res Log α)}
    (h : ∀ program ∈ programs, Yields program post) :
    Yields (Logged.gather programs) fun values log => ∃ results : List (α × Log),
      values = results.map Prod.fst ∧ log = (results.map Prod.snd).foldr (· ++ ·) ∅ ∧
        ∀ result ∈ results, post result.1 result.2 := by
  refine Program.Yields.map ((Program.Yields.gather fun program hprogram => ?_).mono
    fun results hresults => ⟨results, rfl, rfl, hresults⟩)
  obtain ⟨logged, hlogged, rfl⟩ := List.mem_map.mp hprogram
  exact h logged hlogged

end Yields

end

end Logged
