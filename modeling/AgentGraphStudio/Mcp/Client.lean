import AgentGraphStudio.Execution.Types

/-!
# Tools of an MCP server

The parts of `backend/mcp/client.py` and `backend/mcp/transport.py` that do not talk to a
server: the description of a tool, the conversion of a text value to the type a tool
declares, and the details of a server that a call needs.
-/

namespace AgentGraphStudio

/-- A discovered tool with its parameters. The fallback for remote servers takes whatever JSON value
is listed as a name: `name` is then the text that the value formats to, and `unhashable` the type of
a list or an object, which is no element of a set. -/
structure McpToolInfo where
  name : String
  paramNames : List String
  paramJsonTypes : Dict String String
  requiredNames : List String := []
  unhashable : Option String := none

/-- The first tool of this name. -/
def findTool (tools : List McpToolInfo) (toolName : String) : Option McpToolInfo :=
  tools.find? fun tool => tool.name = toolName

/-- Where a server is reached. -/
structure McpServerConfig where
  transport : String
  command : String := ""
  args : List String := []
  url : String := ""
  headers : Dict String String := .empty

/-- Convert an input value to the JSON type its parameter declares. -/
def coerceValue (python : Python) (value : Json) (jsonType : String) : Except Raised Json :=
  let fails {α : Type} (result : Except String α) : Except Raised α :=
    result.mapError Raised.exception
  if jsonType = "integer" then
    match value with
    | .str text => fails (python.int text)
    | .int number => .ok (.int number)
    | .bool flag => .ok (.int (if flag then 1 else 0))
    | .float mantissa exponent =>
      .ok (.int (if 0 ≤ exponent then mantissa * 10 ^ exponent.toNat
        else mantissa.tdiv (10 ^ (-exponent).toNat)))
    | _ => .error (.exception "int() argument must be a string or a real number")
  else if jsonType = "number" then
    match value with
    | .str text => fails (python.float text)
    | .int number => .ok (.float number 0)
    | .bool flag => .ok (.float (if flag then 1 else 0) 0)
    | .float mantissa exponent => .ok (.float mantissa exponent)
    | _ => .error (.exception "float() argument must be a string or a real number")
  else if jsonType = "boolean" then
    match value with
    | .str text => .ok (.bool (python.lower (python.strip text) ∈ ["true", "1", "yes"]))
    | _ => .error (.exception "object has no attribute 'strip'")
  else if jsonType = "object" ∨ jsonType = "array" then
    match value with
    | .str text =>
      if python.strip text = "" then .ok (if jsonType = "array" then .arr [] else .obj [])
      else fails (python.jsonLoads text)
    | _ => .error (.exception "object has no attribute 'strip'")
  else .ok value

/-- The entries of the arguments for these parameters: the inputs among them, converted. -/
def argumentEntries (python : Python) (tool : McpToolInfo) (inputs : Inputs) :
    List String → Except Raised (List (String × Json))
  | [] => .ok []
  | name :: names => do
    if ← inputs.contains name then
      let value ← inputs.get name
      let coerced ← coerceValue python value (tool.paramJsonTypes.getD name "string")
      let rest ← argumentEntries python tool inputs names
      pure ((name, coerced) :: rest)
    else argumentEntries python tool inputs names

/-- The arguments of a tool call. A parameter without an input is left to the server. -/
def toolArguments (python : Python) (tool : McpToolInfo) (inputs : Inputs) :
    Except Raised Config :=
  (argumentEntries python tool inputs tool.paramNames).map Dict.ofList

end AgentGraphStudio
