import AgentGraphStudio.Execution.ActRuns
import AgentGraphStudio.Nodes.Builtin

/-!
# The call of a `code` node's function

`execute_code` of `backend/nodes/code.py` calls the author's function with keyword arguments only:
the inputs that the derived slots took. `code_call_binds_iff` says when Python can bind such a call
to the parameters of the function.
-/

namespace AgentGraphStudio

open Act (runs_bind_iff runs_pure_iff runs_ofExcept_iff runs_ofExcept_bind_iff
  runs_perform_bind_iff)

/-! ## How Python binds a call -/

/-- Why a call with keyword arguments raises a `TypeError`. -/
inductive BindingError where
  | positionalOnly (names : List String)
  | unexpected (name : String)
  | missingPositional (names : List String)
  | missingKeywordOnly (names : List String)
  deriving DecidableEq

namespace FunctionArguments

variable (arguments : FunctionArguments)

/-- The parameters that a keyword argument may fill. -/
def keywordNames : List String := arguments.args ++ arguments.kwonlyargs.map Prod.fst

/-- The positional parameters, in order. -/
def positional : List String := arguments.posonlyargs ++ arguments.args

/-- The positional parameters without a default, which come first. -/
def requiredPositional : List String :=
  arguments.positional.take (arguments.positional.length - arguments.defaults)

/-- Bind a call that has keyword arguments only. A keyword that names no parameter for keywords goes
to `**kwargs`, if the function has it. -/
def bindKeywords (keywords : List String) : Except BindingError Unit :=
  match keywords.find? fun keyword =>
      keyword ∉ arguments.keywordNames ∧ arguments.kwarg.isNone with
  | some keyword =>
    let passed := arguments.posonlyargs.filter fun name => name ∈ keywords
    if passed ≠ [] then .error (.positionalOnly passed) else .error (.unexpected keyword)
  | none =>
    let missing := arguments.requiredPositional.filter fun name =>
      ¬ (name ∈ arguments.keywordNames ∧ name ∈ keywords)
    let missingKeywordOnly := (arguments.kwonlyargs.filter fun parameter =>
      ¬ (parameter.2 ∨ parameter.1 ∈ keywords)).map Prod.fst
    if missing ≠ [] then .error (.missingPositional missing)
    else if missingKeywordOnly ≠ [] then .error (.missingKeywordOnly missingKeywordOnly)
    else .ok ()

/-- A call binds if every keyword has its parameter and every parameter without a default its
keyword. -/
theorem bind_keywords_iff {keywords : List String} (hkwarg : arguments.kwarg = none) :
    arguments.bindKeywords keywords = .ok () ↔
      (∀ keyword ∈ keywords, keyword ∈ arguments.keywordNames) ∧
      (∀ name ∈ arguments.requiredPositional,
        name ∈ arguments.keywordNames ∧ name ∈ keywords) ∧
      ∀ parameter ∈ arguments.kwonlyargs, parameter.2 = true ∨ parameter.1 ∈ keywords := by
  rw [bindKeywords]
  -- An unknown keyword is looked for first, and then what is missing.
  cases hfind : keywords.find? fun keyword =>
      decide (keyword ∉ arguments.keywordNames ∧ arguments.kwarg.isNone = true) with
  | some keyword =>
      have hmem := List.mem_of_find?_eq_some hfind
      have hkeyword := List.find?_some hfind
      refine iff_of_false ?_ fun h => (of_decide_eq_true hkeyword).1 (h.1 keyword hmem)
      dsimp only
      split
      · exact fun h => by cases h
      · exact fun h => by cases h
  | none =>
      have hkeywords : ∀ keyword ∈ keywords, keyword ∈ arguments.keywordNames := by
        intro keyword hmem
        have hnone := List.find?_eq_none.mp hfind keyword hmem
        simpa [hkwarg] using hnone
      have hmissing : (arguments.requiredPositional.filter fun name =>
          ¬ (name ∈ arguments.keywordNames ∧ name ∈ keywords)) = [] ↔
          ∀ name ∈ arguments.requiredPositional,
            name ∈ arguments.keywordNames ∧ name ∈ keywords := by
        simp only [List.filter_eq_nil_iff, decide_eq_true_eq, not_not]
      have hkeywordOnly : (arguments.kwonlyargs.filter fun parameter =>
          ¬ (parameter.2 ∨ parameter.1 ∈ keywords)).map Prod.fst = [] ↔
          ∀ parameter ∈ arguments.kwonlyargs, parameter.2 = true ∨ parameter.1 ∈ keywords := by
        simp only [List.map_eq_nil_iff, List.filter_eq_nil_iff, decide_eq_true_eq, not_not]
      dsimp only
      rw [← hmissing, ← hkeywordOnly]
      split
      · rename_i hne
        exact iff_of_false (fun h => by cases h) fun h => hne h.2.1
      · rename_i heq
        split
        · rename_i hne
          exact iff_of_false (fun h => by cases h) fun h => hne h.2.2
        · rename_i heq'
          exact iff_of_true rfl ⟨hkeywords, not_not.mp heq, not_not.mp heq'⟩

end FunctionArguments

/-! ## The call that the node makes -/

section

variable {python : Python} {source : String} {signature : FunctionSignature}

/-- The parameters of the function that a source text defines. -/
def functionArguments? (python : Python) (source : String) : Option FunctionArguments :=
  match python.astParse source with
  | .ok [.functionDef _ arguments _] => some arguments
  | _ => none

/-- What an accepted source text defines. -/
structure DefinesFunction (python : Python) (source : String) (signature : FunctionSignature)
    (arguments : FunctionArguments) : Prop where
  parsed : functionArguments? python source = some arguments
  noKwarg : arguments.kwarg = none
  paramNames : signature.paramNames = arguments.positional ++ arguments.kwonlyargs.map Prod.fst
  distinct : signature.paramNames.Nodup
  optionalNames : signature.optionalNames =
    arguments.positional.drop (arguments.positional.length - arguments.defaults) ++
      (arguments.kwonlyargs.filter Prod.snd).map Prod.fst

theorem parse_function_defines (h : parseFunction python source = .ok signature) :
    ∃ arguments, DefinesFunction python source signature arguments := by
  rw [parseFunction] at h
  split at h
  · cases h
  · rename_i name arguments decorators hparse
    dsimp only at h
    split at h
    · cases h
    · split at h
      · cases h
      · rename_i hstar
        split at h
        · cases h
        · rename_i hdistinct
          cases h
          refine ⟨arguments, ?_, ?_, rfl, not_not.mp hdistinct, rfl⟩
          · rw [functionArguments?, hparse]
          · exact Option.not_isSome_iff_eq_none.mp fun hsome => hstar (.inr hsome)
  · cases h

/-- The arguments are the inputs that have the name of a parameter. -/
theorem select_dict (values : Config) (names : List String) :
    ∃ kwargs : Config, (Inputs.dict values).select names = .ok kwargs ∧
      ∀ name, name ∈ kwargs.keys ↔ name ∈ names ∧ name ∈ values.keys := by
  induction names with
  | nil => exact ⟨.empty, rfl, fun name => by simp⟩
  | cons first names ih =>
      obtain ⟨rest, hrest, hkeys⟩ := ih
      rw [Inputs.select, hrest]
      cases hget : values.get? first with
      | none =>
          refine ⟨rest, ?_, fun name => ?_⟩
          · simp [Inputs.contains, hget, bind, Except.bind, pure, Except.pure]
          · have hfirst : first ∉ values.keys := Dict.get?_eq_none_iff.mp hget
            rw [hkeys, List.mem_cons]
            refine and_congr_left fun hname => (or_iff_right ?_).symm
            exact fun heq => hfirst (heq ▸ hname)
      | some value =>
          refine ⟨.ofList ((first, value) :: rest.entries), ?_, fun name => ?_⟩
          · simp [Inputs.contains, Inputs.get, hget, bind, Except.bind, pure, Except.pure]
          · have hfirst : first ∈ values.keys := Dict.mem_keys_iff.mpr ⟨value, hget⟩
            have hrest : name ∈ rest.entries.map Prod.fst ↔ name ∈ names ∧ name ∈ values.keys :=
              hkeys name
            rw [Dict.mem_keys_ofList, List.map_cons, List.mem_cons, hrest, List.mem_cons,
              or_and_right]
            refine or_congr_left ⟨fun heq => ⟨heq, heq ▸ hfirst⟩, And.left⟩

/-- What the call of a program does with the parameters of the function, if it is a call. -/
def CallBinds (python : Python) : Op → Prop
  | .callFunction source _ kwargs =>
    ∃ arguments, functionArguments? python source = some arguments ∧
      arguments.bindKeywords kwargs.keys = .ok ()
  | _ => True

/-- The part of the body whose exceptions are caught. -/
def callAuthored (python : Python) (ctx : ExecutionContext) (source : String) : Act Returned := do
  let signature ← Act.ofExcept (validated (parseFunction python source))
  Act.ofExcept (← Act.perform (.execSource ctx.node.id source))
  let kwargs ← Act.ofExcept (ctx.inputs.select signature.paramNames)
  Act.ofExcept (← Act.perform (.callFunction source signature.name kwargs))

section

variable {ctx : ExecutionContext} {kwargs : Config} {events : History}
  (hparse : parseFunction python source = .ok signature)
  (hkwargs : ctx.inputs.select signature.paramNames = .ok kwargs)

include hparse hkwargs

/-- It runs the source text, and then calls the function with the selected arguments. -/
theorem call_authored_runs_iff {ended : Except Raised Returned} :
    (callAuthored python ctx source).Runs events ended ↔
      (∃ raised, events = [⟨.execSource ctx.node.id source, .error raised⟩] ∧
        ended = .error raised) ∨
      ∃ response, events = [⟨.execSource ctx.node.id source, .ok ()⟩,
        ⟨.callFunction source signature.name kwargs, response⟩] ∧ ended = response := by
  unfold callAuthored
  rw [hparse]
  -- First the source is executed, and if that does not raise the function is called.
  constructor
  · intro h
    rcases runs_ofExcept_bind_iff.mp h with ⟨_, hraised, -⟩ | ⟨_, hsignature, hexec⟩
    · cases hraised
    cases hsignature
    obtain ⟨executed, rest, rfl, hrest⟩ := runs_perform_bind_iff.mp hexec
    rcases runs_ofExcept_bind_iff.mp hrest with ⟨raised, rfl, rfl, rfl⟩ | ⟨_, rfl, hselect⟩
    · exact .inl ⟨raised, rfl, rfl⟩
    rw [hkwargs] at hselect
    rcases runs_ofExcept_bind_iff.mp hselect with ⟨_, hraised, -⟩ | ⟨_, hvalues, hcall⟩
    · cases hraised
    cases hvalues
    obtain ⟨response, last, rfl, hlast⟩ := runs_perform_bind_iff.mp hcall
    obtain ⟨rfl, rfl⟩ := runs_ofExcept_iff.mp hlast
    exact .inr ⟨_, rfl, rfl⟩
  · rintro (⟨raised, rfl, rfl⟩ | ⟨_, rfl, rfl⟩)
    · refine runs_ofExcept_bind_iff.mpr (.inr ⟨signature, rfl, ?_⟩)
      refine runs_perform_bind_iff.mpr ⟨.error raised, [], rfl, ?_⟩
      exact runs_ofExcept_bind_iff.mpr (.inl ⟨raised, rfl, rfl, rfl⟩)
    · refine runs_ofExcept_bind_iff.mpr (.inr ⟨signature, rfl, ?_⟩)
      refine runs_perform_bind_iff.mpr ⟨.ok (), _, rfl, ?_⟩
      refine runs_ofExcept_bind_iff.mpr (.inr ⟨(), rfl, ?_⟩)
      rw [hkwargs]
      refine runs_ofExcept_bind_iff.mpr (.inr ⟨kwargs, rfl, ?_⟩)
      exact runs_perform_bind_iff.mpr ⟨_, [], rfl, runs_ofExcept_iff.mpr ⟨rfl, rfl⟩⟩

variable (hconfig : parseCodeConfig python ctx.node.config = .ok source)

include hconfig

/-- The body does nothing else. -/
theorem execute_code_events {ended : Except Raised NodeResult}
    (hrun : (executeCode python ctx).Runs events ended) :
    ∀ event ∈ events, event.op = .execSource ctx.node.id source ∨
      event.op = .callFunction source signature.name kwargs := by
  have hauthored : ∀ {events ended}, (callAuthored python ctx source).Runs events ended →
      ∀ event ∈ events, event.op = .execSource ctx.node.id source ∨
        event.op = .callFunction source signature.name kwargs := by
    intro events ended h
    rcases (call_authored_runs_iff hparse hkwargs).mp h with ⟨_, rfl, -⟩ | ⟨_, rfl, -⟩
    · exact List.forall_mem_singleton.mpr (.inl rfl)
    · exact List.forall_mem_cons.mpr ⟨.inl rfl, List.forall_mem_singleton.mpr (.inr rfl)⟩
  -- The handler of exceptions performs nothing.
  have hguarded : ∀ {events ended}, (Act.exceptException (callAuthored python ctx source)
      fun e => Act.raise s!"code node execution failed: {e}").Runs events ended →
      ∀ event ∈ events, event.op = .execSource ctx.node.id source ∨
        event.op = .callFunction source signature.name kwargs := by
    intro events ended h
    obtain ⟨_, hended, -⟩ := Act.runs_rephrase_iff.mp h
    exact hauthored hended
  unfold executeCode at hrun
  rw [hconfig] at hrun
  rcases runs_ofExcept_bind_iff.mp hrun with ⟨_, hraised, -⟩ | ⟨_, hsource, hcalled⟩
  · cases hraised
  cases hsource
  rcases runs_bind_iff.mp hcalled with ⟨_, hraised, -⟩ | ⟨_, returned, _, rfl, hfirst, hrest⟩
  · exact hguarded hraised
  cases returned with
  | str value =>
      rw [(runs_pure_iff.mp hrest).1, List.append_nil]
      exact hguarded hfirst
  | other typeName =>
      rw [(Act.runs_raise_iff.mp hrest).1, List.append_nil]
      exact hguarded hfirst

/-- If the source text runs, the function is called. -/
theorem execute_code_calls (value : String) :
    ∃ ended, (executeCode python ctx).Runs
      [⟨.execSource ctx.node.id source, .ok ()⟩,
        ⟨.callFunction source signature.name kwargs, .ok (.str value)⟩] ended := by
  refine ⟨.ok (.single "result" (.str value)), ?_⟩
  unfold executeCode
  rw [hconfig, runs_ofExcept_bind_iff]
  refine .inr ⟨source, rfl, ?_⟩
  rw [runs_bind_iff]
  refine .inr ⟨_, .str value, [], (List.append_nil _).symm, ?_, runs_pure_iff.mpr ⟨rfl, rfl⟩⟩
  refine Act.runs_rephrase_iff.mpr ⟨.ok (.str value), ?_, rfl⟩
  exact (call_authored_runs_iff hparse hkwargs).mpr (.inr ⟨_, rfl, rfl⟩)

end

/-! ## When the call binds -/

/-- The positional-only parameters of the function. -/
def positionalOnly (python : Python) (source : String) : List String :=
  ((functionArguments? python source).map FunctionArguments.posonlyargs).getD []

/-- The inputs of a node have every slot that is not optional. -/
def CoversSlots (python : Python) (node : NodeSpec) (values : Config) : Prop :=
  ∀ slots ∈ codeSlots python node, ∀ slot ∈ slots.1, slot.required = true →
    slot.name ∈ values.keys

namespace DefinesFunction

variable {arguments : FunctionArguments}
  (h : DefinesFunction python source signature arguments) {name : String}

include h

/-- The parameters are the positional-only ones and those that a keyword may fill. -/
theorem mem_param_names : name ∈ signature.paramNames ↔
    name ∈ arguments.posonlyargs ∨ name ∈ arguments.keywordNames := by
  rw [h.paramNames, FunctionArguments.positional, FunctionArguments.keywordNames,
    List.append_assoc, List.mem_append]

/-- No keyword may fill a positional-only parameter. -/
theorem not_mem_keyword_names (hname : name ∈ arguments.posonlyargs) :
    name ∉ arguments.keywordNames := by
  have hdistinct := h.distinct
  rw [h.paramNames, FunctionArguments.positional, List.append_assoc,
    List.nodup_append'] at hdistinct
  exact hdistinct.2.2 hname

/-- A positional parameter that has to be given is a required slot. -/
theorem required_of_positional (hname : name ∈ arguments.requiredPositional) :
    name ∈ signature.paramNames ∧ name ∉ signature.optionalNames := by
  have hpositional := List.mem_of_mem_take hname
  have hdistinct := h.distinct
  rw [h.paramNames, List.nodup_append'] at hdistinct
  obtain ⟨hpositionals, -, hdisjoint⟩ := hdistinct
  refine ⟨h.paramNames ▸ List.mem_append_left _ hpositional, fun hoptional => ?_⟩
  rw [h.optionalNames] at hoptional
  rcases List.mem_append.mp hoptional with hdrop | hkeywordOnly
  · rw [← List.take_append_drop (arguments.positional.length - arguments.defaults)
      arguments.positional, List.nodup_append'] at hpositionals
    exact hpositionals.2.2 hname hdrop
  · exact hdisjoint hpositional ((List.filter_sublist.map Prod.fst).subset hkeywordOnly)

/-- So is a keyword-only one. -/
theorem required_of_keyword_only {parameter : String × Bool}
    (hmem : parameter ∈ arguments.kwonlyargs) (hdefault : parameter.2 = false) :
    parameter.1 ∈ signature.paramNames ∧ parameter.1 ∉ signature.optionalNames := by
  have hname := List.mem_map_of_mem (f := Prod.fst) hmem
  have hdistinct := h.distinct
  rw [h.paramNames, List.nodup_append'] at hdistinct
  obtain ⟨-, hkeywordOnly, hdisjoint⟩ := hdistinct
  refine ⟨h.paramNames ▸ List.mem_append_right _ hname, fun hoptional => ?_⟩
  rw [h.optionalNames] at hoptional
  rcases List.mem_append.mp hoptional with hdrop | hfilter
  · exact hdisjoint (List.mem_of_mem_drop hdrop) hname
  · obtain ⟨other, hother, heq⟩ := List.mem_map.mp hfilter
    obtain ⟨hother, htrue⟩ := List.mem_filter.mp hother
    obtain rfl := List.inj_on_of_nodup_map hkeywordOnly hother hmem heq
    rw [hdefault] at htrue
    cases htrue

end DefinesFunction

/-- A call with the covered slots binds if no positional-only parameter is among them. -/
theorem bind_selected_iff {arguments : FunctionArguments} {values kwargs : Config}
    (hdefines : DefinesFunction python source signature arguments)
    (hrequired : ∀ name ∈ signature.paramNames, name ∉ signature.optionalNames →
      name ∈ values.keys)
    (hkeys : ∀ name, name ∈ kwargs.keys ↔ name ∈ signature.paramNames ∧ name ∈ values.keys) :
    arguments.bindKeywords kwargs.keys = .ok () ↔
      ∀ name ∈ arguments.posonlyargs, name ∉ values.keys := by
  rw [arguments.bind_keywords_iff hdefines.noKwarg]
  constructor
  · rintro ⟨hkeywords, -, -⟩ name hname hvalue
    have hparam := hdefines.mem_param_names.mpr (.inl hname)
    exact hdefines.not_mem_keyword_names hname (hkeywords name ((hkeys name).mpr ⟨hparam, hvalue⟩))
  · intro h
    have hselected : ∀ name, name ∈ signature.paramNames → name ∈ values.keys →
        name ∈ arguments.keywordNames ∧ name ∈ kwargs.keys := by
      intro name hparam hvalue
      refine ⟨(hdefines.mem_param_names.mp hparam).resolve_left fun hname =>
        h name hname hvalue, ?_⟩
      exact (hkeys name).mpr ⟨hparam, hvalue⟩
    refine ⟨fun keyword hkeyword => ?_, fun name hname => ?_, fun parameter hmem => ?_⟩
    · obtain ⟨hparam, hvalue⟩ := (hkeys keyword).mp hkeyword
      exact (hselected keyword hparam hvalue).1
    · obtain ⟨hparam, hnot⟩ := hdefines.required_of_positional hname
      exact hselected name hparam (hrequired name hparam hnot)
    · refine or_iff_not_imp_left.mpr fun hdefault => ?_
      obtain ⟨hparam, hnot⟩ :=
        hdefines.required_of_keyword_only hmem (Bool.eq_false_of_not_eq_true hdefault)
      exact (hselected _ hparam (hrequired _ hparam hnot)).2

/-- For every accepted source text and all inputs that have the slots that are not optional: the
call of the function binds, in every run of the body, exactly if none of the inputs has the name of
a positional-only parameter. -/
theorem code_call_binds_iff {ctx : ExecutionContext} {values : Config}
    (hsource : ctx.node.config.get? "function_source" = some (.str source))
    (hparse : parseFunction python source = .ok signature) (hinputs : ctx.inputs = .dict values)
    (hcovers : CoversSlots python ctx.node values) :
    (∀ events ended, (executeCode python ctx).Runs events ended →
      ∀ event ∈ events, CallBinds python event.op) ↔
      ∀ name ∈ positionalOnly python source, name ∉ values.keys := by
  have hconfig : parseCodeConfig python ctx.node.config = .ok source := by
    rw [parseCodeConfig, Config.required, hsource]
    dsimp only [Json.str?, bind, Except.bind]
    rw [hparse]
    rfl
  obtain ⟨arguments, hdefines⟩ := parse_function_defines hparse
  obtain ⟨kwargs, hselect, hkeys⟩ := select_dict values signature.paramNames
  rw [← hinputs] at hselect
  have hrequired : ∀ name ∈ signature.paramNames, name ∉ signature.optionalNames →
      name ∈ values.keys := by
    intro name hparam hnot
    have hslots : codeSlots python ctx.node = some
        (signature.paramNames.map fun name => ⟨name, TEXT, name ∉ signature.optionalNames⟩,
          [⟨"result", TEXT⟩]) := by
      rw [codeSlots, hsource, Option.bind_some, Json.str?]
      dsimp only
      rw [hparse]
    exact hcovers _ hslots ⟨name, TEXT, name ∉ signature.optionalNames⟩
      (List.mem_map_of_mem hparam) (decide_eq_true hnot)
  have hposonly : positionalOnly python source = arguments.posonlyargs := by
    rw [positionalOnly, hdefines.parsed]
    rfl
  rw [hposonly, ← bind_selected_iff hdefines hrequired hkeys]
  constructor
  · intro h
    obtain ⟨ended, hrun⟩ := execute_code_calls hparse hselect hconfig ""
    obtain ⟨other, hother, hbinds⟩ :=
      h _ _ hrun _ (List.mem_cons_of_mem _ (List.mem_singleton.mpr rfl))
    rw [hdefines.parsed] at hother
    cases hother
    exact hbinds
  · intro hbinds events ended hrun event hmem
    rcases execute_code_events hparse hselect hconfig hrun event hmem with hop | hop
    · rw [hop]
      trivial
    · rw [hop]
      exact ⟨arguments, hdefines.parsed, hbinds⟩

/-! ### A positional-only parameter -/

/-- A function with a positional-only parameter. -/
def positionalSource : String := "def shout(text, /):\n    return text.upper()"

/-- Python, which parses that function. -/
def positionalPython : Python :=
  { plainPython with
    astParse := fun source =>
      if source = positionalSource then .ok [.functionDef "shout" { posonlyargs := ["text"] } 0]
      else .error "invalid syntax" }

/-- An execution of the node with that function on an input. -/
def positionalContext : ExecutionContext where
  node := { id := "shout", type := "code",
            config := .ofList [("function_source", .str positionalSource)] }
  inputs := .dict (.ofList [("text", .str "hello")])
  resources := {}

theorem positional_parsed :
    parseFunction positionalPython positionalSource = .ok ⟨"shout", ["text"], []⟩ := rfl

theorem positional_covered :
    CoversSlots positionalPython positionalContext.node (.ofList [("text", .str "hello")]) := by
  intro slots hslots slot hslot _
  have heq : codeSlots positionalPython positionalContext.node =
      some ([⟨"text", TEXT, true⟩], [⟨"result", TEXT⟩]) := rfl
  rw [heq] at hslots
  cases hslots
  rw [List.mem_singleton.mp hslot]
  decide

/-- The slot of the parameter is derived and not optional, but the call with it raises. -/
theorem positional_only_not_bound :
    parseFunction positionalPython positionalSource = .ok ⟨"shout", ["text"], []⟩ ∧
      CoversSlots positionalPython positionalContext.node (.ofList [("text", .str "hello")]) ∧
      ∃ events ended, (executeCode positionalPython positionalContext).Runs events ended ∧
        ∃ event ∈ events, ¬ CallBinds positionalPython event.op := by
  obtain ⟨ended, hrun⟩ := @execute_code_calls _ _ _ positionalContext _ positional_parsed rfl rfl ""
  refine ⟨positional_parsed, positional_covered, _, ended, hrun, _,
    List.mem_cons_of_mem _ (List.mem_singleton.mpr rfl), ?_⟩
  rintro ⟨arguments, hparsed, hbinds⟩
  cases hparsed
  revert hbinds
  decide

theorem positional_binds_iff :
    (∀ events ended, (executeCode positionalPython positionalContext).Runs events ended →
      ∀ event ∈ events, CallBinds positionalPython event.op) ↔
      ∀ name ∈ positionalOnly positionalPython positionalSource,
        name ∉ (Dict.ofList [("text", Json.str "hello")]).keys :=
  code_call_binds_iff rfl positional_parsed rfl positional_covered

end

end AgentGraphStudio
