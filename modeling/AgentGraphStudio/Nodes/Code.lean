import AgentGraphStudio.Execution.Discipline
import AgentGraphStudio.Nodes.Core
import AgentGraphStudio.Registry.Base

/-!
# The `code` node

`backend/nodes/code.py`: a node type whose slots are the parameters of a function that the
graph's author wrote, and whose body runs that function.
-/

namespace AgentGraphStudio

/-- The name and parameters of the function that a source text defines. -/
structure FunctionSignature where
  name : String
  paramNames : List String
  optionalNames : List String

/-- Read the one function of a source text, without running it. -/
def parseFunction (python : Python) (source : String) : Except String FunctionSignature :=
  match python.astParse source with
  | .error e => .error s!"function_source is not valid Python: {e}"
  | .ok [.functionDef name arguments decorators] =>
    let positional := arguments.posonlyargs ++ arguments.args
    let optionalNames := positional.drop (positional.length - arguments.defaults) ++
      (arguments.kwonlyargs.filter Prod.snd).map Prod.fst
    let paramNames := positional ++ arguments.kwonlyargs.map Prod.fst
    if decorators ≠ 0 then .error "function_source function must not have decorators"
    else if arguments.vararg.isSome ∨ arguments.kwarg.isSome then
      .error "function_source function must not use *args/**kwargs"
    else if ¬ paramNames.Nodup then
      .error "function_source function has duplicate parameter names"
    else .ok { name, paramNames, optionalNames }
  | .ok _ =>
    .error ("function_source must contain exactly one top-level 'def' function " ++
      "(async functions, classes, and extra top-level statements are not supported)")

/-- Validate a configuration (`CodeConfig`). -/
def parseCodeConfig (python : Python) (config : Config) : Except String String := do
  let functionSource ← config.required "function_source" Json.str?
  let _ ← parseFunction python functionSource
  pure functionSource

/-- The slots of a `code` node: one input for each parameter. -/
def codeSlots (python : Python) : ResolveSlots := fun node =>
  match (node.config.get? "function_source").bind Json.str? with
  | none => none
  | some source =>
    match parseFunction python source with
    | .error _ => none
    | .ok signature =>
      some (signature.paramNames.map fun name => ⟨name, TEXT, name ∉ signature.optionalNames⟩,
        [⟨"result", TEXT⟩])

def executeCode (python : Python) (ctx : ExecutionContext) : Act NodeResult := do
  let source ← Act.ofExcept (validated (parseCodeConfig python ctx.node.config))
  let result ← Act.exceptException
    (do
      let signature ← Act.ofExcept (validated (parseFunction python source))
      Act.ofExcept (← Act.perform (.execSource ctx.node.id source))
      let kwargs ← Act.ofExcept (ctx.inputs.select signature.paramNames)
      Act.ofExcept (← Act.perform (.callFunction source signature.name kwargs)))
    fun e => Act.raise s!"code node execution failed: {e}"
  match result with
  | .str value => pure (.single "result" (.str value))
  | .other typeName =>
    Act.raise ("code node function must return a string (result slot is type text), " ++
      s!"got {typeName}")

theorem execute_code_keeps {permits : Op → Prop} {P : ∀ α : Type, Program Op Res α → Prop}
    (rules : Rules permits P) {python : Python} {ctx : ExecutionContext} :
    P _ (executeCode python ctx).run := by
  refine rules.act_bind (rules.act_ofExcept _) fun source => ?_
  refine rules.act_bind (rules.act_exceptException ?_ fun _ => rules.act_raise _) fun result => ?_
  · refine rules.act_bind (rules.act_ofExcept _) fun signature => ?_
    refine rules.act_bind (rules.act_silent trivial) fun response => ?_
    refine rules.act_bind (rules.act_ofExcept _) fun _ => ?_
    refine rules.act_bind (rules.act_ofExcept _) fun kwargs => ?_
    exact rules.act_bind (rules.act_silent trivial) fun _ => rules.act_ofExcept _
  · cases result with
    | str value => exact rules.act_pure _
    | other typeName => exact rules.act_raise _

end AgentGraphStudio
