import Mathlib.Algebra.Ring.Int.Defs
import AgentGraphStudio.Lib.Dict

/-!
# JSON values and typed field access

Graph files, node configurations and the values that flow along edges are JSON. A number is
an integer or a decimal `mantissa * 10 ^ exponent`, as `json.loads` distinguishes them.
The readers below follow pydantic's lax mode for the field types the node configurations
use: `str` accepts strings only, `int` also accepts booleans, integral decimals and numerals,
and `bool` also accepts the numbers 0 and 1 and some words. A failed read names the field.
-/

namespace AgentGraphStudio

/-- A JSON value. -/
inductive Json where
  | null
  | bool (value : Bool)
  | int (value : Int)
  | float (mantissa exponent : Int)
  | str (value : String)
  | arr (items : List Json)
  | obj (fields : List (String × Json))
  deriving Inhabited

/-- A node's `config` or `input_values`: a JSON object read as a dictionary. -/
abbrev Config := Dict String Json

namespace Json

mutual

/-- Structural equality of values is decidable. -/
def decEq : (first second : Json) → Decidable (first = second)
  | .null, .null => isTrue rfl
  | .bool a, .bool b => decidable_of_iff (a = b) (by simp)
  | .int a, .int b => decidable_of_iff (a = b) (by simp)
  | .float a e, .float b f => decidable_of_iff (a = b ∧ e = f) (by simp)
  | .str a, .str b => decidable_of_iff (a = b) (by simp)
  | .arr a, .arr b => @decidable_of_iff _ (a = b) (by simp) (decEqItems a b)
  | .obj a, .obj b => @decidable_of_iff _ (a = b) (by simp) (decEqFields a b)
  | .null, .bool _ | .null, .int _ | .null, .float .. | .null, .str _ | .null, .arr _
  | .null, .obj _ | .bool _, .null | .bool _, .int _ | .bool _, .float .. | .bool _, .str _
  | .bool _, .arr _ | .bool _, .obj _ | .int _, .null | .int _, .bool _ | .int _, .float ..
  | .int _, .str _ | .int _, .arr _ | .int _, .obj _ | .float .., .null | .float .., .bool _
  | .float .., .int _ | .float .., .str _ | .float .., .arr _ | .float .., .obj _
  | .str _, .null | .str _, .bool _ | .str _, .int _ | .str _, .float .. | .str _, .arr _
  | .str _, .obj _ | .arr _, .null | .arr _, .bool _ | .arr _, .int _ | .arr _, .float ..
  | .arr _, .str _ | .arr _, .obj _ | .obj _, .null | .obj _, .bool _ | .obj _, .int _
  | .obj _, .float .. | .obj _, .str _ | .obj _, .arr _ => isFalse nofun

/-- Equality of arrays is decidable. -/
def decEqItems : (first second : List Json) → Decidable (first = second)
  | [], [] => isTrue rfl
  | a :: as, b :: bs =>
    @decidable_of_iff _ (a = b ∧ as = bs) (by simp)
      (@instDecidableAnd _ _ (decEq a b) (decEqItems as bs))
  | [], _ :: _ | _ :: _, [] => isFalse nofun

/-- Equality of objects, as lists of fields, is decidable. -/
def decEqFields : (first second : List (String × Json)) → Decidable (first = second)
  | [], [] => isTrue rfl
  | (key, a) :: as, (other, b) :: bs =>
    @decidable_of_iff _ ((key = other ∧ a = b) ∧ as = bs) (by simp)
      (@instDecidableAnd _ _ (@instDecidableAnd _ _ (inferInstanceAs (Decidable (key = other)))
        (decEq a b)) (decEqFields as bs))
  | [], _ :: _ | _ :: _, [] => isFalse nofun

end

instance : DecidableEq Json := decEq

/-- The text of a JSON string. -/
def str? : Json → Option String
  | .str value => some value
  | _ => none

/-- The fields of a JSON object. A repeated key keeps its last value. -/
def obj? : Json → Option Config
  | .obj fields => some (Dict.ofList fields)
  | _ => none

/-- The items of a JSON array. -/
def arr? : Json → Option (List Json)
  | .arr items => some items
  | _ => none

/-- The strings of a JSON array of strings. -/
def strList? : Json → Option (List String)
  | .arr items => items.mapM str?
  | _ => none

/-- The entries of a JSON object whose values are strings. -/
def strDict? (json : Json) : Option (Dict String String) :=
  json.obj?.bind fun fields =>
    (fields.entries.mapM fun (entry : String × Json) =>
      entry.2.str?.map fun value => (entry.1, value)).map Dict.ofList

/-- The integer a decimal stands for, if it is integral. -/
def integral? (mantissa exponent : Int) : Option Int :=
  if 0 ≤ exponent then some (mantissa * 10 ^ exponent.toNat)
  else if mantissa % 10 ^ (-exponent).toNat = 0 then
    some (mantissa / 10 ^ (-exponent).toNat)
  else none

/-- Read the digits behind a number. A single underscore may stand before a digit. -/
def digitsFrom? (value : Nat) : List Char → Option Nat
  | [] => some value
  | '_' :: digit :: rest =>
    if digit.isDigit then digitsFrom? (10 * value + (digit.toNat - 48)) rest else none
  | digit :: rest =>
    if digit.isDigit then digitsFrom? (10 * value + (digit.toNat - 48)) rest else none

/-- Read a numeral without a sign, which may have zeros behind a decimal point. -/
def numeral? (text : List Char) : Option Nat :=
  if (text.dropWhile (· ≠ '.')).tail.all (· = '0') then
    match text.takeWhile (· ≠ '.') with
    | [] | '_' :: _ => none
    | digits => digitsFrom? 0 digits
  else none

/-- Read the text of an integer, with blanks around it. -/
def intText? (text : String) : Option Int :=
  let trimmed := ((text.toList.dropWhile Char.isWhitespace).reverse.dropWhile
    Char.isWhitespace).reverse
  if 4300 < trimmed.length then none
  else
    match trimmed with
    | '-' :: rest => (numeral? rest).map fun value => -value
    | '+' :: rest => (numeral? rest).map Int.ofNat
    | text => (numeral? text).map Int.ofNat

/-- The integer a lax `int` field reads. A decimal has to fit into 64 bits. -/
def int? : Json → Option Int
  | .int value => some value
  | .bool value => some (if value then 1 else 0)
  | .float mantissa exponent => (integral? mantissa exponent).filter fun value =>
    -2 ^ 63 < value ∧ value < 2 ^ 63
  | .str value => intText? value
  | _ => none

/-- The Boolean that a number stands for. -/
def zeroOrOne? (value : Int) : Option Bool :=
  if value = 0 then some false else if value = 1 then some true else none

/-- The Boolean that a word stands for, in upper or lower case. -/
def boolWord? (word : String) : Option Bool :=
  let lower := String.ofList (word.toList.map Char.toLower)
  if ["0", "f", "n", "no", "off", "false"].contains lower then some false
  else if ["1", "t", "y", "on", "yes", "true"].contains lower then some true
  else none

/-- The Boolean a lax `bool` field reads. -/
def bool? : Json → Option Bool
  | .bool value => some value
  | .int value => zeroOrOne? value
  | .float mantissa exponent => (integral? mantissa exponent).bind zeroOrOne?
  | .str value => boolWord? value
  | _ => none

end Json

/-- A computation in `Except` succeeds when each of its steps does. -/
theorem except_bind_eq_ok {ε α β : Type} {first : Except ε α} {rest : α → Except ε β} {value : β} :
    first >>= rest = .ok value ↔ ∃ result, first = .ok result ∧ rest result = .ok value := by
  cases first with
  | ok result => exact ⟨fun h => ⟨result, rfl, h⟩, by rintro ⟨_, ⟨⟩, h⟩; exact h⟩
  | error error => exact ⟨nofun, by rintro ⟨_, ⟨⟩, _⟩⟩

/-- Renaming the error of a computation does not change when it succeeds. -/
theorem mapError_eq_ok {ε ε' α : Type} {f : ε → ε'} {result : Except ε α} {value : α} :
    result.mapError f = .ok value ↔ result = .ok value := by
  cases result <;> simp [Except.mapError]

/-! ## Fields of a configuration model -/

namespace Config

/-- Read a required field of a configuration model. -/
def required {α : Type} (config : Config) (field : String) (read : Json → Option α) :
    Except String α :=
  match config.get? field with
  | none => .error s!"{field}: Field required"
  | some json =>
    match read json with
    | none => .error s!"{field}: Input has the wrong type"
    | some value => .ok value

/-- Read a field with a default. -/
def withDefault {α : Type} (config : Config) (field : String) (read : Json → Option α)
    (default : α) : Except String α :=
  match config.get? field with
  | none => .ok default
  | some json =>
    match read json with
    | none => .error s!"{field}: Input has the wrong type"
    | some value => .ok value

/-- Read an optional string field, which may be absent or null. -/
def optionalStr (config : Config) (field : String) : Except String (Option String) :=
  match config.get? field with
  | none | some .null => .ok none
  | some (.str value) => .ok (some value)
  | some _ => .error s!"{field}: Input has the wrong type"

/-- Read an integer field declared `Field(gt=0)`. -/
def positive (config : Config) (field : String) (default : Int) : Except String Int := do
  let value ← withDefault config field Json.int? default
  if 0 < value then .ok value
  else .error s!"{field}: Input should be greater than 0"

/-- What is read is positive. -/
theorem positive_pos {config : Config} {field : String} {default value : Int}
    (h : config.positive field default = .ok value) : 0 < value := by
  obtain ⟨read, _, hread⟩ := except_bind_eq_ok.mp h
  split at hread
  · cases hread
    assumption
  · cases hread

/-- Read a field declared as one of some literals, with a default. -/
def literal (config : Config) (field : String) (literals : List String) (default : String) :
    Except String String :=
  match config.get? field with
  | none => .ok default
  | some (.str value) =>
    if value ∈ literals then .ok value else .error s!"{field}: Input should be a known literal"
  | some _ => .error s!"{field}: Input should be a known literal"

end Config

/-! ## Python's functions on texts -/

/-- The arguments of a function definition, as `ast.arguments` lists them. A keyword-only
argument comes with whether it has a default. -/
structure FunctionArguments where
  posonlyargs : List String := []
  args : List String := []
  vararg : Option String := none
  kwonlyargs : List (String × Bool) := []
  kwarg : Option String := none
  defaults : Nat := 0

/-- A top-level statement of a module, as far as the `code` node looks at it. -/
inductive Statement where
  | functionDef (name : String) (arguments : FunctionArguments) (decorators : Nat)
  | other

/-- Functions of Python's standard library on texts and values, which the node bodies call
and which the development leaves abstract. A failure carries the exception's text. A `String`
stands for any text of Python; `encodes` tells whether UTF-8 has an encoding for it, which it has
not for a text with a lone surrogate. -/
structure Python where
  jsonLoads : String → Except String Json
  jsonDumps : Json → String
  repr : Json → String
  str : Json → String
  int : String → Except String Json
  float : String → Except String Json
  upper : String → String
  lower : String → String
  strip : String → String
  isWordChar : Char → Bool
  astParse : String → Except String (List Statement)
  encodes : String → Bool := fun _ => true

end AgentGraphStudio
