import AgentGraphStudio.Execution.Operations

/-!
# Runs of computations that may raise

How a computation came to its end: with a value, or with an exception that left it. There is one
lemma for each way of building computations, which takes such a run apart.
-/

namespace AgentGraphStudio

namespace Act

variable {α β : Type} {act : Act α} {f : α → Act β} {events : History}

/-- The computation came to its end with this outcome, and these operations were performed. -/
abbrev Runs (act : Act α) (events : History) (outcome : Except Raised α) : Prop :=
  Program.Ends act.run events outcome

theorem runs_pure_iff {value : α} {outcome : Except Raised α} :
    (pure value : Act α).Runs events outcome ↔ events = [] ∧ outcome = .ok value :=
  Program.ends_done_iff

theorem runs_raise_iff {message : String} {outcome : Except Raised α} :
    (Act.raise message : Act α).Runs events outcome ↔
      events = [] ∧ outcome = .error (.exception message) :=
  Program.ends_done_iff

theorem runs_ofExcept_iff {value outcome : Except Raised α} :
    (Act.ofExcept value).Runs events outcome ↔ events = [] ∧ outcome = value :=
  Program.ends_done_iff

theorem runs_perform_iff {op : Op} {outcome : Except Raised (Res op)} :
    (Act.perform op).Runs events outcome ↔
      ∃ response, events = [⟨op, response⟩] ∧ outcome = .ok response := by
  have hbind : (Act.perform op).Runs events outcome ↔ ∃ first response second,
      events = first ++ second ∧ Program.Ends (Program.op op) first response ∧
        Program.Ends (.done (.ok response)) second outcome :=
    Program.ends_bind_iff
  rw [hbind]
  constructor
  · rintro ⟨first, response, second, rfl, hfirst, hsecond⟩
    obtain ⟨rfl, rfl⟩ := Program.ends_done_iff.mp hsecond
    rw [Program.ends_op_iff.mp hfirst, List.append_nil]
    exact ⟨response, rfl, rfl⟩
  · rintro ⟨response, rfl, rfl⟩
    exact ⟨_, response, [], rfl, Program.ends_op_iff.mpr rfl, .refl _⟩

/-- A sequence ends with the exception of its first part, or in its second part. -/
theorem runs_bind_iff {outcome : Except Raised β} :
    (act >>= f).Runs events outcome ↔
      (∃ raised, act.Runs events (.error raised) ∧ outcome = .error raised) ∨
      ∃ first value second, events = first ++ second ∧ act.Runs first (.ok value) ∧
        (f value).Runs second outcome := by
  have hbind : (act >>= f).Runs events outcome ↔ ∃ first ended second, events = first ++ second ∧
      act.Runs first ended ∧ Program.Ends (ExceptT.bindCont f ended) second outcome :=
    Program.ends_bind_iff
  rw [hbind]
  constructor
  · rintro ⟨first, ended, second, rfl, hfirst, hsecond⟩
    cases ended with
    | ok value => exact .inr ⟨first, value, second, rfl, hfirst, hsecond⟩
    | error raised =>
        obtain ⟨rfl, rfl⟩ := Program.ends_done_iff.mp hsecond
        rw [List.append_nil]
        exact .inl ⟨raised, hfirst, rfl⟩
  · rintro (⟨raised, hraised, rfl⟩ | ⟨first, value, second, rfl, hfirst, hsecond⟩)
    · exact ⟨events, .error raised, [], (List.append_nil events).symm, hraised, .refl _⟩
    · exact ⟨first, .ok value, second, rfl, hfirst, hsecond⟩

/-- An operation is performed before the rest. -/
theorem runs_perform_bind_iff {op : Op} {f : Res op → Act β} {outcome : Except Raised β} :
    (Act.perform op >>= f).Runs events outcome ↔
      ∃ response rest, events = ⟨op, response⟩ :: rest ∧ (f response).Runs rest outcome := by
  rw [runs_bind_iff]
  constructor
  · rintro (⟨raised, hraised, -⟩ | ⟨first, value, rest, rfl, hfirst, hrest⟩)
    · obtain ⟨_, _, hended⟩ := runs_perform_iff.mp hraised
      cases hended
    · obtain ⟨response, rfl, hended⟩ := runs_perform_iff.mp hfirst
      cases hended
      exact ⟨value, rest, rfl, hrest⟩
  · rintro ⟨response, rest, rfl, hrest⟩
    exact .inr ⟨_, response, rest, rfl, runs_perform_iff.mpr ⟨response, rfl, rfl⟩, hrest⟩

/-- A value that may be an exception, before the rest. -/
theorem runs_ofExcept_bind_iff {value : Except Raised α} {outcome : Except Raised β} :
    (Act.ofExcept value >>= f).Runs events outcome ↔
      (∃ raised, value = .error raised ∧ events = [] ∧ outcome = .error raised) ∨
      ∃ result, value = .ok result ∧ (f result).Runs events outcome := by
  rw [runs_bind_iff]
  constructor
  · rintro (⟨raised, hraised, rfl⟩ | ⟨first, result, rest, rfl, hfirst, hrest⟩)
    · obtain ⟨rfl, hvalue⟩ := runs_ofExcept_iff.mp hraised
      exact .inl ⟨raised, hvalue.symm, rfl, rfl⟩
    · obtain ⟨rfl, hvalue⟩ := runs_ofExcept_iff.mp hfirst
      exact .inr ⟨result, hvalue.symm, hrest⟩
  · rintro (⟨raised, rfl, rfl, rfl⟩ | ⟨result, rfl, hrest⟩)
    · exact .inl ⟨raised, runs_ofExcept_iff.mpr ⟨rfl, rfl⟩, rfl⟩
    · exact .inr ⟨[], result, events, rfl, runs_ofExcept_iff.mpr ⟨rfl, rfl⟩, hrest⟩

/-- A handler takes over from an `Exception`, and from nothing else. -/
theorem runs_catchException_iff {handler : Except Raised String → Act α}
    {outcome : Except Raised α} :
    (catchException act handler).Runs events outcome ↔
      (∃ first raised text second, events = first ++ second ∧ act.Runs first (.error raised) ∧
        raised.caught = some text ∧ (handler text).Runs second outcome) ∨
      act.Runs events outcome ∧ ∀ raised, outcome = .error raised → raised.caught = none := by
  constructor
  · intro h
    obtain ⟨first, ended, second, rfl, hfirst, hsecond⟩ := Program.ends_bind_iff.mp h
    cases ended with
    | ok value =>
        obtain ⟨rfl, rfl⟩ := Program.ends_done_iff.mp hsecond
        rw [List.append_nil]
        exact .inr ⟨hfirst, nofun⟩
    | error raised =>
        cases raised with
        | exception message => exact .inl ⟨first, _, _, second, rfl, hfirst, rfl, hsecond⟩
        | unprintable raised => exact .inl ⟨first, _, _, second, rfl, hfirst, rfl, hsecond⟩
        | baseException message =>
            obtain ⟨rfl, rfl⟩ := Program.ends_done_iff.mp hsecond
            rw [List.append_nil]
            exact .inr ⟨hfirst, fun _ h => by cases h; rfl⟩
  · rintro (⟨first, raised, text, second, rfl, hfirst, hcaught, hsecond⟩ | ⟨hact, hother⟩)
    · refine Program.ends_bind_iff.mpr ⟨first, .error raised, second, rfl, hfirst, ?_⟩
      cases raised <;> cases hcaught <;> exact hsecond
    · refine Program.ends_bind_iff.mpr
        ⟨events, outcome, [], (List.append_nil events).symm, hact, ?_⟩
      cases outcome with
      | ok value => exact .refl _
      | error raised =>
          have hcaught := hother raised rfl
          cases raised with
          | exception message => cases hcaught
          | unprintable raised => cases hcaught
          | baseException message => exact .refl _

/-- A handler that begins with the text takes over from an exception that has one. -/
theorem runs_exceptException_iff {handler : String → Act α} {outcome : Except Raised α} :
    (exceptException act handler).Runs events outcome ↔
      (∃ first message second, events = first ++ second ∧
        act.Runs first (.error (.exception message)) ∧ (handler message).Runs second outcome) ∨
      ∃ ended, act.Runs events ended ∧ (∀ message, ended ≠ .error (.exception message)) ∧
        outcome = ended.mapError (Raised.rephrase id) := by
  unfold exceptException
  rw [runs_catchException_iff]
  constructor
  · rintro (⟨first, raised, text, second, rfl, hfirst, hcaught, hsecond⟩ | ⟨hact, hother⟩)
    · cases raised with
      | exception message =>
          cases hcaught
          rcases runs_ofExcept_bind_iff.mp hsecond with ⟨_, hcontra, -⟩ | ⟨_, hsame, hhandled⟩
          · cases hcontra
          · cases hsame
            exact .inl ⟨first, message, second, rfl, hfirst, hhandled⟩
      | unprintable raised =>
          cases hcaught
          rcases runs_ofExcept_bind_iff.mp hsecond with ⟨_, hsame, rfl, rfl⟩ | ⟨_, hcontra, -⟩
          · cases hsame
            rw [List.append_nil]
            exact .inr ⟨_, hfirst, nofun, rfl⟩
          · cases hcontra
      | baseException message => cases hcaught
    · refine .inr ⟨outcome, hact, fun message hsame => ?_, ?_⟩
      · cases hother _ hsame
      · cases outcome with
        | ok value => rfl
        | error raised =>
            have hcaught := hother raised rfl
            cases raised with
            | exception message => cases hcaught
            | unprintable raised => cases hcaught
            | baseException message => rfl
  · rintro (⟨first, message, second, rfl, hfirst, hhandled⟩ | ⟨ended, hact, hother, rfl⟩)
    · exact .inl ⟨first, _, _, second, rfl, hfirst, rfl,
        runs_ofExcept_bind_iff.mpr (.inr ⟨message, rfl, hhandled⟩)⟩
    · cases ended with
      | ok value => exact .inr ⟨hact, nofun⟩
      | error raised =>
          cases raised with
          | exception message => exact absurd rfl (hother message)
          | unprintable raised =>
              exact .inl ⟨events, _, _, [], (List.append_nil events).symm, hact, rfl,
                runs_ofExcept_bind_iff.mpr (.inl ⟨raised, rfl, rfl, rfl⟩)⟩
          | baseException message => exact .inr ⟨hact, fun _ h => by cases h; rfl⟩

/-- A handler that raises an exception with the text in it. -/
theorem runs_rephrase_iff {rephrased : String → String} {outcome : Except Raised α} :
    (exceptException act fun e => raise (rephrased e)).Runs events outcome ↔
      ∃ ended, act.Runs events ended ∧ outcome = ended.mapError (Raised.rephrase rephrased) := by
  rw [runs_exceptException_iff]
  constructor
  · rintro (⟨first, message, second, rfl, hfirst, hsecond⟩ | ⟨ended, hact, hother, rfl⟩)
    · obtain ⟨rfl, rfl⟩ := runs_raise_iff.mp hsecond
      rw [List.append_nil]
      exact ⟨_, hfirst, rfl⟩
    · refine ⟨ended, hact, ?_⟩
      rcases ended with raised | value
      · cases raised with
        | exception message => exact absurd rfl (hother message)
        | baseException message => rfl
        | unprintable raised => rfl
      · rfl
  · rintro ⟨ended, hact, rfl⟩
    rcases ended with raised | value
    · cases raised with
      | exception message =>
          exact .inl ⟨events, message, [], (List.append_nil events).symm, hact,
            runs_raise_iff.mpr ⟨rfl, rfl⟩⟩
      | baseException message => exact .inr ⟨_, hact, nofun, rfl⟩
      | unprintable raised => exact .inr ⟨_, hact, nofun, rfl⟩
    · exact .inr ⟨_, hact, nofun, rfl⟩

/-- A cleanup that does not raise leaves the outcome as it is. -/
theorem runs_finallyDo_iff {cleanup : Act Unit} {outcome : Except Raised α}
    (hcleanup : ∀ events ended, cleanup.Runs events ended → ended = .ok ()) :
    (finallyDo act cleanup).Runs events outcome ↔
      ∃ first second, events = first ++ second ∧ act.Runs first outcome ∧
        cleanup.Runs second (.ok ()) := by
  constructor
  · intro h
    obtain ⟨first, ended, second, rfl, hfirst, hsecond⟩ := Program.ends_bind_iff.mp h
    obtain ⟨clean, cleaned, rest, rfl, hclean, hrest⟩ := Program.ends_bind_iff.mp hsecond
    obtain rfl := hcleanup _ _ hclean
    obtain ⟨rfl, rfl⟩ := Program.ends_done_iff.mp hrest
    rw [List.append_nil]
    exact ⟨first, clean, rfl, hfirst, hclean⟩
  · rintro ⟨first, second, rfl, hfirst, hsecond⟩
    refine Program.ends_bind_iff.mpr ⟨first, outcome, second, rfl, hfirst, ?_⟩
    exact Program.ends_bind_iff.mpr ⟨second, .ok (), [], (List.append_nil second).symm, hsecond,
      .refl _⟩

end Act

/-! ## Runs that have not ended -/

/-- Every operation has a response. -/
theorem response_nonempty (op : Op) : Nonempty (Res op) := by
  cases op with
  | utcnowIso => exact ⟨""⟩
  | uuid4 => exact ⟨""⟩
  | readConnections => exact ⟨[]⟩
  | lookup key name => exact ⟨()⟩
  | executeGenerated binding => exact ⟨()⟩
  | callTelegramApi token method params => exact ⟨.ok .null⟩
  | execSource nodeId source => exact ⟨.ok ()⟩
  | getConnection name userId => exact ⟨none⟩
  | approval op =>
      cases op with
      | checkRemembered runId toolName => exact ⟨none⟩
      | addPending approvalId runId toolName arguments =>
          exact ⟨⟨0, approvalId, runId, toolName, arguments⟩⟩
      | readDecision pending => exact ⟨false⟩
      | getPending approvalId => exact ⟨none⟩
      | listPending => exact ⟨[]⟩
      | _ => exact ⟨()⟩
  | updateRun runId update => exact ⟨true⟩
  | _ => exact ⟨.error (.exception "")⟩

/-- Every computation can come to its end. -/
theorem exists_runs {α : Type} (act : Act α) : ∃ events outcome, act.Runs events outcome :=
  ⟨_, _, Program.ends_play (fun op => (response_nonempty op).some) act.run⟩

/-- What has begun can come to its end. -/
theorem run_completes {α : Type} {program rest : Program Op Res α} {events : History}
    (h : Program.Run program events rest) :
    ∃ later value, Program.Ends program (events ++ later) value :=
  ⟨_, _, h.trans (Program.ends_play (fun op => (response_nonempty op).some) rest)⟩

end AgentGraphStudio
