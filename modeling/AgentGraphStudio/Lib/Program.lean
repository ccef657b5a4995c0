import Mathlib.Logic.Basic

/-!
# Programs over operations

A `Program` performs operations one after another and continues with their responses. It is
a tree: what an operation does, and to what, is left to whoever runs the program. A `choose`
node leaves a choice to the scheduler, which is how two programs run side by side
(`interleave`): at every point either of them may perform its next operation.

`Certified` is the program logic. It reads a program against everything that has happened so
far, to which others may add between any two operations: each operation the program performs
must be permitted by the history at that moment, whatever responses the history allows. The
rules follow the ways of building programs.
-/

/-- A program whose operations `op` have responses of type `Res op`. -/
inductive Program (Op : Type) (Res : Op → Type) (α : Type) : Type where
  | done (value : α)
  | perform (op : Op) (next : Res op → Program Op Res α)
  | choose (next : Bool → Program Op Res α)

/-- An operation that was performed, with its response. -/
structure Event (Op : Type) (Res : Op → Type) where
  op : Op
  response : Res op

namespace Program

variable {Op : Type} {Res : Op → Type} {α β γ : Type}

/-! ## Building programs -/

/-- Run a program and continue with its value. -/
def bind : Program Op Res α → (α → Program Op Res β) → Program Op Res β
  | .done value, f => f value
  | .perform op next, f => .perform op fun response => bind (next response) f
  | .choose next, f => .choose fun choice => bind (next choice) f

instance : Monad (Program Op Res) where
  pure := .done
  bind := bind

/-- Perform one operation. -/
def op (op : Op) : Program Op Res (Res op) := .perform op .done

@[simp] theorem pure_eq (value : α) : (pure value : Program Op Res α) = .done value := rfl

@[simp] theorem bind_eq (program : Program Op Res α) (f : α → Program Op Res β) :
    program >>= f = program.bind f := rfl

theorem bind_done (program : Program Op Res α) : program.bind .done = program := by
  induction program with
  | done value => rfl
  | perform op next ih => exact congrArg (Program.perform op) (funext ih)
  | choose next ih => exact congrArg Program.choose (funext ih)

theorem bind_assoc (program : Program Op Res α) (f : α → Program Op Res β)
    (g : β → Program Op Res γ) :
    (program.bind f).bind g = program.bind fun value => (f value).bind g := by
  induction program with
  | done value => rfl
  | perform op next ih => exact congrArg (Program.perform op) (funext ih)
  | choose next ih => exact congrArg Program.choose (funext ih)

instance : LawfulMonad (Program Op Res) := LawfulMonad.mk'
  (Program Op Res) bind_done (fun _ _ => rfl) bind_assoc

/-! ## Running programs side by side -/

/-- Run a program against another one, whose next step is `left` and which has already come
to its end in `finish`. -/
def against (left : Program Op Res β → Program Op Res γ) (finish : β → Program Op Res γ) :
    Program Op Res β → Program Op Res γ
  | .done value => finish value
  | .perform op next => .choose fun first =>
    if first then left (.perform op next)
    else .perform op fun response => against left finish (next response)
  | .choose next => .choose fun first =>
    if first then left (.choose next)
    else .choose fun choice => against left finish (next choice)

/-- Run two programs side by side, in any order of their operations. -/
def interleave : Program Op Res α → Program Op Res β → Program Op Res (α × β)
  | .done value, other => other.bind fun result => .done (value, result)
  | .perform op next, other =>
    against (fun other => .perform op fun response => interleave (next response) other)
      (fun result => .perform op fun response =>
        (next response).bind fun value => .done (value, result)) other
  | .choose next, other =>
    against (fun other => .choose fun choice => interleave (next choice) other)
      (fun result => .choose fun choice =>
        (next choice).bind fun value => .done (value, result)) other

/-- Run a list of programs side by side and collect their values in order. -/
def gather : List (Program Op Res α) → Program Op Res (List α)
  | [] => .done []
  | program :: programs =>
    (interleave program (gather programs)).bind fun values => .done (values.1 :: values.2)

/-! ## Runs -/

/-- A run of a program, with any responses and choices: the operations it performed so far,
in order, and what is left of it. -/
inductive Run : Program Op Res α → List (Event Op Res) → Program Op Res α → Prop where
  | refl (program : Program Op Res α) : Run program [] program
  | perform {op : Op} {next : Res op → Program Op Res α} {response : Res op}
      {events : List (Event Op Res)} {rest : Program Op Res α}
      (h : Run (next response) events rest) : Run (.perform op next) (⟨op, response⟩ :: events) rest
  | choose {next : Bool → Program Op Res α} {choice : Bool} {events : List (Event Op Res)}
      {rest : Program Op Res α} (h : Run (next choice) events rest) :
      Run (.choose next) events rest

/-- A run that goes on. -/
theorem Run.trans {program middle rest : Program Op Res α} {first second : List (Event Op Res)}
    (h : Run program first middle) (hrest : Run middle second rest) :
    Run program (first ++ second) rest := by
  induction h with
  | refl => exact hrest
  | perform _ ih => exact .perform (ih hrest)
  | choose _ ih => exact .choose (ih hrest)

/-- What a run performed first, it performed in a run as well. -/
theorem Run.earlier {program rest : Program Op Res α} {events start : List (Event Op Res)}
    (h : Run program events rest) (hstart : start <+: events) :
    ∃ middle, Run program start middle := by
  induction h generalizing start with
  | refl program =>
      obtain rfl := List.prefix_nil.mp hstart
      exact ⟨program, .refl _⟩
  | perform _ ih =>
      cases start with
      | nil => exact ⟨_, .refl _⟩
      | cons event start =>
          obtain ⟨rfl, htail⟩ := List.cons_prefix_cons.mp hstart
          obtain ⟨middle, hmiddle⟩ := ih htail
          exact ⟨middle, .perform hmiddle⟩
  | choose _ ih =>
      obtain ⟨middle, hmiddle⟩ := ih hstart
      exact ⟨middle, .choose hmiddle⟩

/-- A finished program makes no more steps. -/
theorem run_done_iff {value : α} {events : List (Event Op Res)} {rest : Program Op Res α} :
    Run (.done value) events rest ↔ events = [] ∧ rest = .done value := by
  constructor
  · intro h
    cases h
    exact ⟨rfl, rfl⟩
  · intro h
    obtain ⟨rfl, rfl⟩ := h
    exact .refl _

/-- A program about to perform an operation is still there, or has performed it. -/
theorem run_perform_iff {op : Op} {next : Res op → Program Op Res α}
    {events : List (Event Op Res)} {rest : Program Op Res α} :
    Run (.perform op next) events rest ↔ (events = [] ∧ rest = .perform op next) ∨
      ∃ response tail, events = ⟨op, response⟩ :: tail ∧ Run (next response) tail rest := by
  constructor
  · intro h
    cases h with
    | refl => exact .inl ⟨rfl, rfl⟩
    | perform hrest => exact .inr ⟨_, _, rfl, hrest⟩
  · intro h
    rcases h with ⟨rfl, rfl⟩ | ⟨response, tail, rfl, hrest⟩
    · exact .refl _
    · exact .perform hrest

/-- A run that came to its end: what was performed and the value. -/
abbrev Ends (program : Program Op Res α) (events : List (Event Op Res)) (value : α) : Prop :=
  Run program events (.done value)

theorem ends_done_iff {value result : α} {events : List (Event Op Res)} :
    Ends (.done value : Program Op Res α) events result ↔ events = [] ∧ result = value := by
  constructor
  · rintro ⟨⟩
    exact ⟨rfl, rfl⟩
  · rintro ⟨rfl, rfl⟩
    exact .refl _

theorem ends_perform_iff {op : Op} {next : Res op → Program Op Res α}
    {events : List (Event Op Res)} {result : α} :
    Ends (.perform op next) events result ↔
      ∃ response rest, events = ⟨op, response⟩ :: rest ∧ Ends (next response) rest result := by
  constructor
  · rintro ⟨⟩
    exact ⟨_, _, rfl, ‹_›⟩
  · rintro ⟨response, rest, rfl, h⟩
    exact .perform h

theorem ends_choose_iff {next : Bool → Program Op Res α} {events : List (Event Op Res)}
    {result : α} :
    Ends (.choose next) events result ↔ ∃ choice, Ends (next choice) events result := by
  constructor
  · rintro ⟨⟩
    exact ⟨_, ‹_›⟩
  · rintro ⟨choice, h⟩
    exact .choose h

theorem ends_op_iff {op : Op} {events : List (Event Op Res)} {result : Res op} :
    Ends (Program.op op) events result ↔ events = [⟨op, result⟩] := by
  rw [Program.op, ends_perform_iff]
  constructor
  · rintro ⟨response, rest, rfl, hrest⟩
    obtain ⟨rfl, rfl⟩ := ends_done_iff.mp hrest
    rfl
  · rintro rfl
    exact ⟨result, [], rfl, .refl _⟩

/-- A sequence ends when its first program ends and then the rest does. -/
theorem ends_bind_iff {program : Program Op Res α} {f : α → Program Op Res β}
    {events : List (Event Op Res)} {result : β} :
    Ends (program.bind f) events result ↔
      ∃ first value second, events = first ++ second ∧ Ends program first value ∧
        Ends (f value) second result := by
  induction program generalizing events with
  | done value =>
      constructor
      · exact fun h => ⟨[], value, events, rfl, .refl _, h⟩
      · rintro ⟨first, other, second, rfl, hfirst, hsecond⟩
        obtain ⟨rfl, rfl⟩ := ends_done_iff.mp hfirst
        exact hsecond
  | perform op next ih =>
      constructor
      · intro h
        obtain ⟨response, rest, rfl, hrest⟩ := ends_perform_iff.mp h
        obtain ⟨first, value, second, rfl, hfirst, hsecond⟩ := (ih response).mp hrest
        exact ⟨_, value, second, rfl, .perform hfirst, hsecond⟩
      · rintro ⟨first, value, second, rfl, hfirst, hsecond⟩
        obtain ⟨response, rest, rfl, hrest⟩ := ends_perform_iff.mp hfirst
        exact .perform ((ih response).mpr ⟨rest, value, second, rfl, hrest, hsecond⟩)
  | choose next ih =>
      constructor
      · intro h
        obtain ⟨choice, hchoice⟩ := ends_choose_iff.mp h
        obtain ⟨first, value, second, rfl, hfirst, hsecond⟩ := (ih choice).mp hchoice
        exact ⟨first, value, second, rfl, .choose hfirst, hsecond⟩
      · rintro ⟨first, value, second, rfl, hfirst, hsecond⟩
        obtain ⟨choice, hchoice⟩ := ends_choose_iff.mp hfirst
        exact .choose ((ih choice).mpr ⟨first, value, second, rfl, hchoice, hsecond⟩)

/-- Run a program with these answers, letting the first of two sides go first. -/
def play (answer : (op : Op) → Res op) : Program Op Res α → List (Event Op Res) × α
  | .done value => ([], value)
  | .perform op next =>
    let rest := play answer (next (answer op))
    (⟨op, answer op⟩ :: rest.1, rest.2)
  | .choose next => play answer (next true)

/-- A sequence is played one part after the other. -/
theorem play_bind (answer : (op : Op) → Res op) (program : Program Op Res α)
    (f : α → Program Op Res β) :
    play answer (program.bind f) =
      ((play answer program).1 ++ (play answer (f (play answer program).2)).1,
        (play answer (f (play answer program).2)).2) := by
  induction program with
  | done value => rfl
  | perform op next ih =>
      show (_ :: (play answer ((next (answer op)).bind f)).1, _) = _
      rw [ih]
      rfl
  | choose next ih => exact ih true

/-- Playing a program is one of its runs. -/
theorem ends_play (answer : (op : Op) → Res op) (program : Program Op Res α) :
    Ends program (play answer program).1 (play answer program).2 := by
  induction program with
  | done value => exact .refl _
  | perform op next ih => exact .perform (ih (answer op))
  | choose next ih => exact .choose (ih true)

/-- In a play, every operation gets its answer. -/
theorem response_of_mem_play {answer : (op : Op) → Res op} {program : Program Op Res α}
    {event : Event Op Res} (h : event ∈ (play answer program).1) :
    event.response = answer event.op := by
  induction program with
  | done value => cases h
  | perform op next ih =>
      rcases List.mem_cons.mp h with rfl | hrest
      · rfl
      · exact ih (answer op) hrest
  | choose next ih => exact ih true h

/-- Run a program whose operations are answered from a state, letting the first of two sides go
first. -/
def serve {σ : Type} (handler : (op : Op) → σ → Res op × σ) :
    Program Op Res α → σ → List (Event Op Res) × α × σ
  | .done value, state => ([], value, state)
  | .perform op next, state =>
    let answer := handler op state
    let rest := serve handler (next answer.1) answer.2
    (⟨op, answer.1⟩ :: rest.1, rest.2)
  | .choose next, state => serve handler (next true) state

section

variable {σ : Type} {handler : (op : Op) → σ → Res op × σ}

/-- A sequence is served one part after the other. -/
theorem serve_bind (program : Program Op Res α) (f : α → Program Op Res β) (state : σ) :
    serve handler (program.bind f) state =
      ((serve handler program state).1 ++
          (serve handler (f (serve handler program state).2.1) (serve handler program state).2.2).1,
        (serve handler (f (serve handler program state).2.1)
          (serve handler program state).2.2).2) := by
  induction program generalizing state with
  | done value => rfl
  | perform op next ih =>
      show (_ :: (serve handler ((next (handler op state).1).bind f) _).1, _) = _
      rw [ih]
      rfl
  | choose next ih => exact ih true state

/-- Serving a program is one of its runs. -/
theorem ends_serve (program : Program Op Res α) (state : σ) :
    Ends program (serve handler program state).1 (serve handler program state).2.1 := by
  induction program generalizing state with
  | done value => exact .refl _
  | perform op next ih => exact .perform (ih _ _)
  | choose next ih => exact .choose (ih true state)

/-- What every answer keeps is kept. -/
theorem serve_keeps {invariant : σ → Prop}
    (hhandler : ∀ op state, invariant state → invariant (handler op state).2)
    (program : Program Op Res α) {state : σ} (h : invariant state) :
    invariant (serve handler program state).2.2 := by
  induction program generalizing state with
  | done value => exact h
  | perform op next ih => exact ih _ (hhandler op state h)
  | choose next ih => exact ih true h

end

/-! ## Certificates -/

section

variable (permitted : List (Event Op Res) → Op → Prop)
  (allowed : List (Event Op Res) → (op : Op) → Res op → Prop)

/-- From this history on, whatever others do in between, the program performs only permitted
operations and ends with `post`, provided that every response is an allowed one. -/
def Certified : List (Event Op Res) → Program Op Res α →
    (List (Event Op Res) → α → Prop) → Prop
  | history, .done value, post => ∀ others, post (history ++ others) value
  | history, .perform op next, post => ∀ others, permitted (history ++ others) op ∧
      ∀ response, allowed (history ++ others) op response →
        Certified (history ++ others ++ [⟨op, response⟩]) (next response) post
  | history, .choose next, post => ∀ choice, Certified history (next choice) post

end

namespace Certified

variable {permitted : List (Event Op Res) → Op → Prop}
  {allowed : List (Event Op Res) → (op : Op) → Res op → Prop}
  {history : List (Event Op Res)} {program : Program Op Res α}
  {post post' : List (Event Op Res) → α → Prop}

/-- A certificate stays valid while others add to the history. -/
theorem later (h : Certified permitted allowed history program post)
    (others : List (Event Op Res)) :
    Certified permitted allowed (history ++ others) program post := by
  induction program generalizing history with
  | done value =>
      intro more
      rw [List.append_assoc]
      exact h (others ++ more)
  | perform op next ih =>
      intro more
      rw [List.append_assoc]
      exact h (others ++ more)
  | choose next ih => exact fun choice => ih choice (h choice)

/-- A weaker postcondition, which may use whatever stays true of the history. -/
theorem weaken (frame : List (Event Op Res) → Prop) (hframe : ∀ others, frame (history ++ others))
    (h : Certified permitted allowed history program post)
    (hpost : ∀ history value, frame history → post history value → post' history value) :
    Certified permitted allowed history program post' := by
  induction program generalizing history with
  | done value => exact fun others => hpost _ _ (hframe others) (h others)
  | perform op next ih =>
      intro others
      refine ⟨(h others).1, fun response hallowed => ?_⟩
      refine ih response (fun more => ?_) ((h others).2 response hallowed)
      rw [List.append_assoc, List.append_assoc]
      exact hframe _
  | choose next ih => exact fun choice => ih choice hframe (h choice)

/-- A consequence of the postcondition is a postcondition. -/
theorem mono (h : Certified permitted allowed history program post)
    (hpost : ∀ history value, post history value → post' history value) :
    Certified permitted allowed history program post' :=
  h.weaken (fun _ => True) (fun _ => trivial) fun history value _ => hpost history value

theorem done {value : α} (h : ∀ others, post (history ++ others) value) :
    Certified permitted allowed history (.done value) post := h

/-- Sequencing: the rest is certified from every history the first program can end in. -/
theorem bind {f : α → Program Op Res β} {last : List (Event Op Res) → β → Prop}
    (h : Certified permitted allowed history program post)
    (hf : ∀ more value, (∀ others, post (history ++ more ++ others) value) →
      Certified permitted allowed (history ++ more) (f value) last) :
    Certified permitted allowed history (program.bind f) last := by
  induction program generalizing history with
  | done value =>
      have hvalue := hf [] value fun others => by
        rw [List.append_nil]
        exact h others
      rwa [List.append_nil] at hvalue
  | perform op next ih =>
      intro others
      refine ⟨(h others).1, fun response hallowed => ?_⟩
      refine ih response ((h others).2 response hallowed) fun more value hpost => ?_
      simp only [List.append_assoc] at hpost ⊢
      exact hf _ value (by simpa only [List.append_assoc] using hpost)
  | choose next ih => exact fun choice => ih choice (h choice) hf

/-- Two continuations that agree on every value the program can return are the same. -/
theorem bind_congr {f g : α → Program Op Res β}
    (h : Certified permitted (fun _ _ _ => True) history program post)
    (hfg : ∀ history value, post history value → f value = g value) :
    program.bind f = program.bind g := by
  induction program generalizing history with
  | done value => exact hfg _ value (h [])
  | perform op next ih =>
      exact congrArg (Program.perform op) (funext fun response => ih response ((h []).2 _ trivial))
  | choose next ih => exact congrArg Program.choose (funext fun choice => ih choice (h choice))

/-- One operation. -/
theorem op {op : Op} {last : List (Event Op Res) → Res op → Prop}
    (h : ∀ others, permitted (history ++ others) op)
    (hlast : ∀ others response more, allowed (history ++ others) op response →
      last (history ++ others ++ [⟨op, response⟩] ++ more) response) :
    Certified permitted allowed history (Program.op op) last :=
  fun others => ⟨h others, fun response hallowed more => hlast others response more hallowed⟩

/-- Running one program against another keeps both certificates. -/
theorem against {other : Program Op Res β} {left : Program Op Res β → Program Op Res γ}
    {finish : β → Program Op Res γ} {postOther : List (Event Op Res) → β → Prop}
    {last : List (Event Op Res) → γ → Prop}
    (hleft : ∀ more other, Certified permitted allowed (history ++ more) other postOther →
      Certified permitted allowed (history ++ more) (left other) last)
    (hfinish : ∀ more value, (∀ others, postOther (history ++ more ++ others) value) →
      Certified permitted allowed (history ++ more) (finish value) last)
    (h : Certified permitted allowed history other postOther) :
    Certified permitted allowed history (Program.against left finish other) last := by
  -- By the other program, whose steps may be taken before any of this one.
  induction other generalizing history with
  | done value =>
      have hvalue := hfinish [] value fun others => by
        rw [List.append_nil]
        exact h others
      rwa [List.append_nil] at hvalue
  | perform op next ih =>
      intro first
      cases first with
      | true => simpa using hleft [] (.perform op next) (by simpa using h)
      | false =>
          intro others
          refine ⟨(h others).1, fun response hallowed => ?_⟩
          refine ih response (fun more other hother => ?_) (fun more value hvalue => ?_)
            ((h others).2 response hallowed)
          · simp only [List.append_assoc] at hother ⊢
            exact hleft _ other hother
          · simp only [List.append_assoc] at hvalue ⊢
            exact hfinish _ value (by simpa only [List.append_assoc] using hvalue)
  | choose next ih =>
      intro first
      cases first with
      | true => simpa using hleft [] (.choose next) (by simpa using h)
      | false => exact fun choice => ih choice hleft hfinish (h choice)

/-- Two programs that run side by side keep their certificates. -/
theorem interleave {other : Program Op Res β} {postOther : List (Event Op Res) → β → Prop}
    (h : Certified permitted allowed history program post)
    (hother : Certified permitted allowed history other postOther) :
    Certified permitted allowed history (Program.interleave program other)
      fun history values => post history values.1 ∧ postOther history values.2 := by
  -- By the first program; the second may run between any two of its steps.
  induction program generalizing history other with
  | done value =>
      refine hother.bind fun more result hresult => done fun others => ?_
      refine ⟨?_, hresult others⟩
      rw [List.append_assoc]
      exact h _
  | perform op next ih =>
      refine hother.against (fun more other hother others => ?_)
        fun more result hresult others => ?_
      · obtain ⟨hpermitted, hnext⟩ := h (more ++ others)
        rw [← List.append_assoc] at hpermitted hnext
        refine ⟨hpermitted, fun response hallowed => ?_⟩
        refine ih response (hnext response hallowed) ?_
        rw [List.append_assoc (history ++ more)]
        exact hother.later _
      · obtain ⟨hpermitted, hnext⟩ := h (more ++ others)
        rw [← List.append_assoc] at hpermitted hnext
        refine ⟨hpermitted, fun response hallowed => ?_⟩
        refine (hnext response hallowed).bind fun last value hvalue => done fun rest => ?_
        refine ⟨hvalue rest, ?_⟩
        simp only [List.append_assoc] at hresult ⊢
        exact hresult _
  | choose next ih =>
      refine hother.against (fun more other hother choice => ?_)
        fun more result hresult choice => ?_
      · exact ih choice ((h choice).later more) hother
      · refine ((h choice).later more).bind fun last value hvalue => done fun rest => ?_
        refine ⟨hvalue rest, ?_⟩
        rw [List.append_assoc]
        exact hresult _

/-- Programs that run side by side keep a common certificate. -/
theorem gather {programs : List (Program Op Res α)}
    (h : ∀ program ∈ programs, Certified permitted allowed history program post) :
    Certified permitted allowed history (Program.gather programs)
      fun history values => ∀ value ∈ values, post history value := by
  induction programs with
  | nil => exact done fun _ => by simp
  | cons program programs ih =>
      rw [List.forall_mem_cons] at h
      refine (h.1.interleave (ih h.2)).bind fun more values hvalues => done fun others => ?_
      exact List.forall_mem_cons.mpr (hvalues others)

/-- What a certificate says about a run with allowed responses: every operation was permitted
when it was performed, and what is left is still certified. -/
theorem run {events : List (Event Op Res)} {rest : Program Op Res α}
    (h : Certified permitted allowed history program post) (hrun : Run program events rest)
    (hallowed : ∀ before event after, events = before ++ event :: after →
      allowed (history ++ before) event.op event.response) :
    (∀ before event after, events = before ++ event :: after →
      permitted (history ++ before) event.op) ∧
    Certified permitted allowed (history ++ events) rest post := by
  induction hrun generalizing history with
  | refl program =>
      refine ⟨fun before event after hevents => ?_, by rwa [List.append_nil]⟩
      cases before <;> cases hevents
  | @perform op next response events rest _ ih =>
      have hhere := h []
      rw [List.append_nil] at hhere
      have hnext := hhere.2 response (by simpa using hallowed [] _ events rfl)
      obtain ⟨hpermitted, hrest⟩ := ih hnext fun before event after hevents => by
        simpa using hallowed (⟨op, response⟩ :: before) event after (by rw [hevents]; rfl)
      refine ⟨fun before event after hevents => ?_, by simpa using hrest⟩
      cases before with
      | nil =>
          cases hevents
          simpa using hhere.1
      | cons head before =>
          cases hevents
          simpa using hpermitted before event after rfl
  | @choose next choice events rest _ ih => exact ih (h choice) hallowed

end Certified

/-! ## Programs without a protocol -/

/-- A program whose operations are permitted whatever has happened before. -/
def Always (permitted : List (Event Op Res) → Op → Prop)
    (allowed : List (Event Op Res) → (op : Op) → Res op → Prop) (program : Program Op Res α) :
    Prop :=
  ∀ history, Certified permitted allowed history program fun _ _ => True

namespace Always

variable {permitted : List (Event Op Res) → Op → Prop}
  {allowed : List (Event Op Res) → (op : Op) → Res op → Prop}
  {program : Program Op Res α} {f : α → Program Op Res β}

theorem done (value : α) : Always permitted allowed (.done value : Program Op Res α) :=
  fun _ _ => trivial

theorem op {op : Op} (h : ∀ history, permitted history op) :
    Always permitted allowed (Program.op op) :=
  fun _ => Certified.op (fun _ => h _) fun _ _ _ _ => trivial

theorem bind (h : Always permitted allowed program)
    (hf : ∀ value, Always permitted allowed (f value)) :
    Always permitted allowed (program.bind f) :=
  fun history => (h history).bind fun _ value _ => hf value _

/-- A program that is certified from every history has no protocol to others. -/
theorem of_certified {post : List (Event Op Res) → α → Prop}
    (h : ∀ history, Certified permitted allowed history program post) :
    Always permitted allowed program :=
  fun history => (h history).mono fun _ _ _ => trivial

theorem gather {programs : List (Program Op Res α)}
    (h : ∀ program ∈ programs, Always permitted allowed program) :
    Always permitted allowed (Program.gather programs) :=
  of_certified fun history => Certified.gather fun program hprogram => h program hprogram history

/-- Every operation of a run is permitted. -/
theorem run {events : List (Event Op Res)} {rest : Program Op Res α}
    (h : Always permitted allowed program) (hrun : Run program events rest)
    (hallowed : ∀ before event after, events = before ++ event :: after →
      allowed before event.op event.response) {before after : List (Event Op Res)}
    {event : Event Op Res} (hevents : events = before ++ event :: after) :
    permitted before event.op :=
  ((h []).run hrun hallowed).1 before event after hevents

end Always

/-! ## Properties that pass through every construction -/

/-- A property that permitted operations have and that every way of building programs keeps. -/
structure Compositional (permits : Op → Prop) (P : ∀ α : Type, Program Op Res α → Prop) :
    Prop where
  done : ∀ {α : Type} (value : α), P α (.done value)
  op : ∀ {op : Op}, permits op → P (Res op) (Program.op op)
  bind : ∀ {α β : Type} {program : Program Op Res α} {f : α → Program Op Res β},
    P α program → (∀ value, P β (f value)) → P β (program.bind f)
  gather : ∀ {α : Type} {programs : List (Program Op Res α)},
    (∀ program ∈ programs, P α program) → P (List α) (Program.gather programs)

/-- Performing permitted operations only is such a property. -/
theorem Always.compositional (permitted : List (Event Op Res) → Op → Prop)
    (allowed : List (Event Op Res) → (op : Op) → Res op → Prop) :
    Compositional (fun op => ∀ history, permitted history op)
      fun _ program => Always permitted allowed program where
  done := Always.done
  op := Always.op
  bind := Always.bind
  gather := Always.gather

end Program
