import AgentGraphStudio.Connections.Resolver

/-!
# What the engine and the node bodies exchange

`backend/execution/types.py` and `backend/execution/trace.py`. A body reads an
`ExecutionContext` and ends in a `NodeResult` or in a raised exception, and the engine turns
either into a `TraceRecord`. Only an `Exception` is caught along the way; a `BaseException`
leaves every `except Exception` handler.
-/

namespace AgentGraphStudio

/-- A raised exception. An `Exception` mostly has a text; an `unprintable` one has a `__str__`
that raises an exception in its turn. `baseException` stands for the exceptions outside
`Exception`, such as `SystemExit`. -/
inductive Raised where
  | exception (message : String)
  | baseException (message : String)
  | unprintable (raised : Raised)
  deriving DecidableEq, Repr

/-- What an `except Exception as e` has of an exception that it catches: `str(e)`. -/
def Raised.caught : Raised → Option (Except Raised String)
  | .exception message => some (.ok message)
  | .unprintable raised => some (.error raised)
  | .baseException _ => none

/-- What leaves a handler that raises another exception with the text of this one in it. -/
def Raised.rephrase (rephrased : String → String) : Raised → Raised
  | .exception message => .exception (rephrased message)
  | .baseException message => .baseException message
  | .unprintable raised => raised

/-- The tokens of a model call. -/
structure TokenCost where
  inputTokens : Int := 0
  outputTokens : Int := 0
  deriving DecidableEq, Repr

/-- The record of one execution, with the records of the nodes it executed itself. -/
structure TraceRecord where
  runId : String
  nodeId : String
  nodeType : String
  startedAt : String
  finishedAt : String
  inputs : Config
  outputs : Config
  tokenCost : TokenCost := {}
  sideEffect : Bool := false
  childTraces : Option (List (List TraceRecord)) := none
  error : Option String := none

/-- What a run returns. -/
structure RunResult where
  result : Config
  trace : List TraceRecord

/-- What a body returns. -/
structure NodeResult where
  outputs : Config := .empty
  tokenCost : TokenCost := {}
  sideEffect : Bool := false
  childTraces : Option (List (List TraceRecord)) := none

/-- The resource bag. The caller fills it, `run_graph` adds the nodes and sub-nodes of the
graph being run, and every body of the run reads the same bag. The two callbacks of a run
that the API started are closures over its id: `onSubNodeActivity` is the run whose record
listens, and `approvalPrompt` the run whose approvals answer the gate, or `none` when the
terminal does. `text` gives the text of an entry under any other key. -/
structure Resources where
  connections : Dict String ConnectionClient := .empty
  connectionProfiles : Dict String ConnectionProfile := .empty
  runningUserId : Option String := none
  slotMappings : Dict String String := .empty
  triggerPayloads : Dict String Json := .empty
  onSubNodeActivity : Option String := none
  approvalPrompt : Option String := none
  text : String → Option String := fun _ => none
  nodesById : Dict String NodeSpec := .empty
  subNodes : Dict (String × String) (List String) := .empty

/-- The inputs of a body. The scheduler and `webhook_trigger` pass dictionaries; an agent
passes whatever arguments its model chose, which need not be one. -/
inductive Inputs where
  | dict (values : Config)
  | other (value : Json)

namespace Inputs

/-- The inputs an agent passes for a model's arguments. -/
def ofJson (arguments : Json) : Inputs :=
  match arguments.obj? with
  | some values => .dict values
  | none => .other arguments

/-- `name in inputs`. -/
def contains (name : String) : Inputs → Except Raised Bool
  | .dict values => .ok (values.get? name).isSome
  | .other (.arr items) => .ok (items.any fun item => item.str? = some name)
  | .other (.str text) => .ok (text.toList.tails.any fun rest => name.toList.isPrefixOf rest)
  | .other _ => .error (.exception "argument is not iterable")

/-- `inputs[name]`. -/
def get (name : String) : Inputs → Except Raised Json
  | .dict values =>
    match values.get? name with
    | some value => .ok value
    | none => .error (.exception s!"'{name}'")
  | .other (.arr _) => .error (.exception "list indices must be integers or slices, not str")
  | .other (.str _) => .error (.exception "string indices must be integers, not 'str'")
  | .other _ => .error (.exception "object is not subscriptable")

/-- `{name: inputs[name] for name in names if name in inputs}`. -/
def select (inputs : Inputs) : List String → Except Raised Config
  | [] => .ok .empty
  | name :: names => do
    let rest ← inputs.select names
    if ← inputs.contains name then
      let value ← inputs.get name
      pure (.ofList ((name, value) :: rest.entries))
    else pure rest

end Inputs

/-- What a body reads. -/
structure ExecutionContext where
  node : NodeSpec
  inputs : Inputs
  resources : Resources

end AgentGraphStudio
