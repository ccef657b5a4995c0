import AgentGraphStudio.Schema.Json

/-!
# Live options for input slots

`backend/mcp/option_bindings.py`: which tool of a connection lists the values of an input slot,
which arguments it is called with, and how its text is read. The only curated binding is that of
the Context7 server, whose text has one library in every block.
-/

namespace AgentGraphStudio

/-- An option of a slot. -/
structure OptionItem where
  label : String
  value : String
  deriving DecidableEq, Repr

/-- Where the options of a slot come from. -/
structure OptionBinding where
  sourceTool : String
  buildArgs : Config → Config
  parse : String → List OptionItem

/-- The bindings by node type and field. -/
abbrev OptionBindings := Dict (String × String) OptionBinding

/-- Forget the bindings of a node type. -/
def unregisterForNodeType (bindings : OptionBindings) (nodeType : String) : OptionBindings :=
  bindings.eraseAll (bindings.keys.filter fun key => key.1 = nodeType)

/-- The bindings of other types stay. -/
theorem get?_unregisterForNodeType (bindings : OptionBindings) (nodeType : String)
    (key : String × String) : (unregisterForNodeType bindings nodeType).get? key =
      if key.1 = nodeType then none else bindings.get? key := by
  rw [unregisterForNodeType, Dict.get?_eraseAll]
  by_cases hkey : key ∈ bindings.keys
  · simp [hkey]
  · simp [hkey, Dict.get?_eq_none_iff.mpr hkey]

/-! ## Context7 -/

/-- The characters that `\s` matches. -/
def isSpace (c : Char) : Bool :=
  let n := c.toNat
  (9 ≤ n && n ≤ 13) || (28 ≤ n && n ≤ 32) || n == 133 || n == 160 || n == 5760 ||
    (8192 ≤ n && n ≤ 8202) || n == 8232 || n == 8233 || n == 8239 || n == 8287 || n == 12288

/-- `str.strip()`. -/
def stripSpace (text : List Char) : List Char :=
  ((text.dropWhile isSpace).reverse.dropWhile isSpace).reverse

/-- The rest of a text after a prefix. -/
def afterPrefix : List Char → List Char → Option (List Char)
  | [], text => some text
  | _ :: _, [] => none
  | p :: rest, c :: text => if p = c then afterPrefix rest text else none

/-- `re.search` with `^` and `re.MULTILINE` of a pattern that starts with this prefix. `rest`
matches what follows the prefix. -/
def searchLines (linePrefix : List Char) (rest : List Char → Option (List Char)) :
    Bool → List Char → Option (List Char)
  | atStart, [] => if atStart then (afterPrefix linePrefix []).bind rest else none
  | atStart, c :: text =>
    match if atStart then (afterPrefix linePrefix (c :: text)).bind rest else none with
    | some found => some found
    | none => searchLines linePrefix rest (c == '\n') text

/-- `\s*(.+)$`: the longest run of blanks that leaves something on the line. -/
def restOfLine (text : List Char) : Option (List Char) :=
  let blanks := (text.takeWhile isSpace).length
  ((List.range (blanks + 1)).reverse.map fun skipped => text.drop skipped).findSome? fun rest =>
    match rest.takeWhile (· ≠ '\n') with
    | [] => none
    | found => some found

/-- `\s*(\S+)$`: a word that ends its line. -/
def wordOfLine (text : List Char) : Option (List Char) :=
  let rest := text.dropWhile isSpace
  let word := rest.takeWhile fun c => ! isSpace c
  match word, rest.drop word.length with
  | [], _ => none
  | _, [] => some word
  | _, c :: _ => if c = '\n' then some word else none

/-- The library of one block, if it has a title and an id. -/
def parseContext7Block (block : List Char) : Option OptionItem := do
  let title ← searchLines "- Title:".toList restOfLine true block
  let id ← searchLines "- Context7-compatible library ID:".toList wordOfLine true block
  pure { label := String.ofList (stripSpace title) ++ " (" ++ String.ofList id ++ ")"
         value := String.ofList id }

/-- `str.split` of a text by a separator. `skip` characters belong to a separator that was found. -/
def splitText (separator : List Char) : (skip : Nat) → List Char → List (List Char)
  | _, [] => [[]]
  | skip + 1, _ :: text => splitText separator skip text
  | 0, c :: text =>
    if (afterPrefix separator (c :: text)).isSome then
      [] :: splitText separator (separator.length - 1) text
    else
      match splitText separator 0 text with
      | [] => [[c]]
      | block :: blocks => (c :: block) :: blocks

/-- The libraries of a text (`_parse_context7_library_list`). -/
def parseContext7LibraryList (raw : String) : List OptionItem :=
  (splitText "----------".toList 0 raw.toList).filterMap parseContext7Block

/-- The binding of the libraries of the `query-docs` tool. -/
def context7QueryDocsBinding : OptionBinding where
  sourceTool := "resolve-library-id"
  buildArgs currentConfig :=
    let query := currentConfig.getD "query" (.str "")
    .ofList [("query", query), ("libraryName", query)]
  parse := parseContext7LibraryList

end AgentGraphStudio
