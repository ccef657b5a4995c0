import AgentGraphStudio.Lib.Scanner
import AgentGraphStudio.Schema.Json
import Mathlib.Data.List.Chain

/-!
# Reading JSON texts

`json.loads` of Python's standard library, as far as a text determines its value: a scanner of one
value, with blanks around it. `nearestFloat` rounds a decimal. `NaN`, `Infinity` and surrogates that
stand alone are refused, for they have no value here, and no exception says more than that the
text was refused. `ValueText` says that a text is read as a value whatever delimiter follows it,
and `scan_once_sound` that the scanner reads nothing else, so that a text which goes on after a
value has that value or none (`json_loads_append`).
-/

namespace AgentGraphStudio

namespace JsonText

open Scanner

/-! ## The scanner -/

/-- The blanks between the parts of a value. -/
def isWhitespace (c : Char) : Bool := c = ' ' ∨ c = '\t' ∨ c = '\n' ∨ c = '\r'

/-- Where the scanner is in a string: in the text, after a backslash, or in the digits of a code
unit, the first of which may ask for a second. -/
inductive StringState where
  | plain
  | escape
  | unit (value digits : Nat)
  | high (first : Nat)
  | highEscape (first : Nat)
  | low (first value digits : Nat)
  deriving DecidableEq

/-- The value of a hexadecimal digit. -/
def hexDigit (c : Char) : Option Nat :=
  if '0' ≤ c ∧ c ≤ '9' then some (c.toNat - '0'.toNat)
  else if 'a' ≤ c ∧ c ≤ 'f' then some (c.toNat - 'a'.toNat + 10)
  else if 'A' ≤ c ∧ c ≤ 'F' then some (c.toNat - 'A'.toNat + 10)
  else none

/-- What a character stands for after a backslash. -/
def backslash : List (Char × Char) :=
  [('"', '"'), ('\\', '\\'), ('/', '/'), ('b', '\x08'), ('f', '\x0c'), ('n', '\n'), ('r', '\r'),
    ('t', '\t')]

/-- The state after a code unit, and its character. -/
def StringState.ofUnit (value : Nat) : Option (StringState × List Char) :=
  if 0xd800 ≤ value ∧ value ≤ 0xdbff then some (.high value, [])
  else if 0xdc00 ≤ value ∧ value ≤ 0xdfff then none
  else some (.plain, [Char.ofNat value])

/-- The state after a second code unit, and the character of both. -/
def StringState.ofPair (first value : Nat) : Option (StringState × List Char) :=
  if 0xdc00 ≤ value ∧ value ≤ 0xdfff then
    some (.plain, [Char.ofNat (0x10000 + (first - 0xd800) * 0x400 + (value - 0xdc00))])
  else none

/-- The state after one more character of a string, and the character that is complete. -/
def StringState.next : StringState → Char → Option (StringState × List Char)
  | .plain, c =>
    if c = '\\' then some (.escape, []) else if c.toNat < 0x20 then none else some (.plain, [c])
  | .escape, c =>
    if c = 'u' then some (.unit 0 0, [])
    else (backslash.lookup c).map fun char => (.plain, [char])
  | .unit value digits, c => (hexDigit c).bind fun digit =>
    if digits < 3 then some (.unit (16 * value + digit) (digits + 1), [])
    else StringState.ofUnit (16 * value + digit)
  | .high first, c => if c = '\\' then some (.highEscape first, []) else none
  | .highEscape first, c => if c = 'u' then some (.low first 0 0, []) else none
  | .low first value digits, c => (hexDigit c).bind fun digit =>
    if digits < 3 then some (.low first (16 * value + digit) (digits + 1), [])
    else StringState.ofPair first (16 * value + digit)

/-- The rest of a string, up to its closing quote. -/
def scanString : StringState → Scan (List Char)
  | _, [] => none
  | state, c :: rest =>
    if state = .plain ∧ c = '"' then some ([], rest)
    else
      match state.next c with
      | none => none
      | some (next, out) => (scanString next rest).map fun (text, rest) => (out ++ text, rest)

/-- The characters of numbers. -/
def isNumberChar (c : Char) : Bool :=
  c.isDigit || c = '-' || c = '+' || c = '.' || c = 'e' || c = 'E'

/-- The longest integer text that `int` converts. -/
def INT_MAX_STR_DIGITS : Nat := 4300

def natOf (digits : List Char) : Nat :=
  digits.foldl (fun value c => 10 * value + (c.toNat - '0'.toNat)) 0

def signed (negative : Bool) (value : Nat) : Int := if negative then -value else value

/-- The digits after a decimal point, and what follows them. -/
def fractionOf : List Char → Option (Option (List Char) × List Char)
  | '.' :: rest =>
    if rest.takeWhile Char.isDigit = [] then none
    else some (some (rest.takeWhile Char.isDigit), rest.dropWhile Char.isDigit)
  | rest => some (none, rest)

/-- The exponent at the end of a number. -/
def exponentOf : List Char → Option (Option Int)
  | [] => some none
  | e :: rest =>
    let (negative, digits) := match rest with
      | '-' :: digits => (true, digits)
      | '+' :: digits => (false, digits)
      | digits => (false, digits)
    if (e = 'e' ∨ e = 'E') ∧ digits ≠ [] ∧ digits.all Char.isDigit then
      some (some (signed negative (natOf digits)))
    else none

section

variable (nearestFloat : Int → Int → Int × Int)

/-- The number that is written with these characters. -/
def parseNumber (run : List Char) : Option Json := do
  let (negative, body) := match run with
    | '-' :: body => (true, body)
    | body => (false, body)
  let integer := body.takeWhile Char.isDigit
  if integer = [] ∨ (integer.head? = some '0' ∧ integer ≠ ['0']) then none
  else do
    let (fraction, rest) ← fractionOf (body.dropWhile Char.isDigit)
    match fraction, ← exponentOf rest with
    | none, none =>
      if integer.length ≤ INT_MAX_STR_DIGITS then some (.int (signed negative (natOf integer)))
      else none
    | fraction, exponent =>
      let digits := fraction.getD []
      let (mantissa, exponent) := nearestFloat (signed negative (natOf (integer ++ digits)))
        (exponent.getD 0 - digits.length)
      some (.float mantissa exponent)

/-- A number. The source stops before a character with which a number cannot go on, and then
fails there, as no character of numbers may follow a value. -/
def scanNumber : Scan Json := fun chars =>
  (parseNumber nearestFloat (chars.takeWhile isNumberChar)).map
    (·, chars.dropWhile isNumberChar)

/-- The constants. -/
def literals : List (List Char × Json) :=
  [("null".toList, .null), ("true".toList, .bool true), ("false".toList, .bool false)]

def scanLiteral : Scan Json := fun chars =>
  (literals.find? fun literal => literal.1.isPrefixOf chars).map fun literal =>
    (literal.2, chars.drop literal.1.length)

/-- A key and its value. -/
def scanMember (value : Scan Json) : Scan (String × Json) := fun chars => do
  let rest ← expect '"' chars
  let (key, rest) ← scanString .plain rest
  let rest ← expect ':' (skip isWhitespace rest)
  let (member, rest) ← value (skip isWhitespace rest)
  some ((String.ofList key, member), rest)

/-- The rest of an object. A repeated key keeps its last value. -/
def scanObject (value : Scan Json) : Scan Json := fun chars =>
  (items isWhitespace (scanMember value) ',' '}' chars).map fun (members, rest) =>
    (.obj (Dict.ofList members).entries, rest)

/-- The rest of an array. -/
def scanArray (value : Scan Json) : Scan Json := fun chars =>
  (items isWhitespace value ',' ']' chars).map fun (values, rest) => (.arr values, rest)

/-- One value (`scan_once`). The values inside it are scanned with less fuel. -/
def scanOnce : Nat → Scan Json
  | 0, _ | _ + 1, [] => none
  | fuel + 1, c :: rest =>
    if c = '"' then
      (scanString .plain rest).map fun (text, rest) => (.str (String.ofList text), rest)
    else if c = '{' then scanObject (scanOnce fuel) rest
    else if c = '[' then scanArray (scanOnce fuel) rest
    else (scanLiteral (c :: rest)).or (scanNumber nearestFloat (c :: rest))

/-- The value of a text (`json.loads`). The library also reads `NaN`, `Infinity` and escapes of lone
surrogates, which are refused here, and reads a number that is too large for a float as infinity,
which `nearestFloat` does not know. -/
def jsonLoads (text : List Char) : Except String Json :=
  let chars := skip isWhitespace text
  match scanOnce nearestFloat chars.length chars with
  | none => .error "Expecting value"
  | some (value, rest) =>
    if skip isWhitespace rest = [] then .ok value else .error "Extra data"

end

/-! ## The texts of values -/

/-- The character is a visible one of ASCII. -/
def Visible (c : Char) : Prop := 0x21 ≤ c.toNat ∧ c.toNat ≤ 0x7e

instance (c : Char) : Decidable (Visible c) := inferInstanceAs (Decidable (_ ∧ _))

/-- A number may end before this text. -/
def Delimited (rest : List Char) : Prop := ∀ c ∈ rest.head?, isNumberChar c = false

/-- No line of the text begins with a `d`, nor does the text. -/
def NoDataLine (text : List Char) : Prop :=
  ('\n' :: text).IsChain fun char next => (char = '\n' ∨ char = '\r') → next ≠ 'd'

/-- The rest of a string is read, whatever follows it. -/
structure StringText (text string : List Char) : Prop where
  ends : ∃ body, text = body ++ ['"']
  printable : ∀ c ∈ text, 0x20 ≤ c.toNat
  reads : ∀ rest, scanString .plain (text ++ rest) = some (string, rest)

/-- A text is read as a value, whatever delimiter follows it. -/
structure ValueText (nearestFloat : Int → Int → Int × Int) (text : List Char) (value : Json) :
    Prop where
  starts : ∃ first tail, text = first :: tail ∧ Visible first
  ends : ∃ body last, text = body ++ [last] ∧ Visible last
  noDataLine : NoDataLine text
  reads : ∀ fuel rest, text.length ≤ fuel → Delimited rest →
    scanOnce nearestFloat fuel (text ++ rest) = some (value, rest)

/-- A key and a value, as they are written. -/
def MemberText (nearestFloat : Int → Int → Int × Int) (text : List Char)
    (member : String × Json) : Prop :=
  ∃ key keyText blanks blanks' valueText, text = '"' :: (keyText ++ (blanks ++ ':' ::
      (blanks' ++ valueText))) ∧ member.1 = String.ofList key ∧ StringText keyText key ∧
    (∀ c ∈ blanks, isWhitespace c = true) ∧ (∀ c ∈ blanks', isWhitespace c = true) ∧
    ValueText nearestFloat valueText member.2

theorem Visible.not_whitespace {c : Char} (h : Visible c) : isWhitespace c = false := by
  have hne : ∀ d : Char, ¬ Visible d → c ≠ d := fun d hd heq => hd (heq ▸ h)
  simp [isWhitespace, hne ' ' (by decide), hne '\t' (by decide), hne '\n' (by decide),
    hne '\r' (by decide)]

theorem isWhitespace_delimits {c : Char} (h : isWhitespace c = true) : isNumberChar c = false := by
  simp only [isWhitespace, decide_eq_true_eq] at h
  rcases h with rfl | rfl | rfl | rfl <;> decide

/-- A number may end before a blank, a comma or a closing bracket. -/
theorem delimited_of_end {c close : Char} {following : List Char}
    (hclose : isNumberChar close = false) (hc : isWhitespace c = true ∨ c = ',' ∨ c = close) :
    Delimited (c :: following) := by
  rintro _ ⟨⟩
  rcases hc with hc | rfl | rfl
  · exact isWhitespace_delimits hc
  · decide
  · exact hclose

/-! ### Lines -/

section

variable {text other : List Char}

/-- Texts in a row have no other lines. -/
theorem NoDataLine.append (htext : NoDataLine text) (hother : NoDataLine other) :
    NoDataLine (text ++ other) := by
  have hhead : ∀ c ∈ other.head?, c ≠ 'd' := fun c hc =>
    (List.isChain_cons.mp hother).1 c hc (.inl rfl)
  exact List.isChain_append.mpr ⟨htext, (List.isChain_cons.mp hother).2,
    fun _ _ c hc _ => hhead c hc⟩

theorem noDataLine_of_no_d (h : 'd' ∉ text) : NoDataLine text :=
  List.isChain_iff_forall_rel_of_append_cons_cons.mpr fun char next left right heq _ hd => by
    rcases left with _ | ⟨_, left⟩
    · rw [List.nil_append, List.cons.injEq] at heq
      exact h (by rw [heq.2, hd]; exact List.mem_cons_self)
    · rw [List.cons_append, List.cons.injEq] at heq
      exact h (by rw [heq.2, hd]; simp)

theorem noDataLine_of_blanks (h : ∀ c ∈ text, isWhitespace c = true) : NoDataLine text :=
  noDataLine_of_no_d fun hd => by cases h 'd' hd

/-- A text without line breaks is one line. -/
theorem noDataLine_of_printable {first : Char} (hfirst : first ≠ 'd')
    (h : ∀ c ∈ first :: text, 0x20 ≤ c.toNat) : NoDataLine (first :: text) := by
  refine List.isChain_cons.mpr ⟨fun c hc _ => ?_,
    List.isChain_iff_forall_rel_of_append_cons_cons.mpr fun char next left right heq hbreak => ?_⟩
  · cases hc
    exact hfirst
  · have hprintable := h char (by rw [heq]; simp)
    rcases hbreak with rfl | rfl <;> exact absurd hprintable (by decide)

end

/-- A string has no control characters. -/
theorem StringState.printable {state next : StringState} {c : Char} {out : List Char}
    (h : state.next c = some (next, out)) : 0x20 ≤ c.toNat := by
  have hunit : c = 'u' → 0x20 ≤ c.toNat := fun hc => by rw [hc]; decide
  have hslash : c = '\\' → 0x20 ≤ c.toNat := fun hc => by rw [hc]; decide
  have hhex : ∀ {digit : Nat}, hexDigit c = some digit → 0x20 ≤ c.toNat := by
    intro digit hdigit
    rw [hexDigit] at hdigit
    split_ifs at hdigit with hdecimal hlower hupper
    · exact Nat.le_trans (by decide) hdecimal.1
    · exact Nat.le_trans (by decide) hlower.1
    · exact Nat.le_trans (by decide) hupper.1
  cases state with
  | plain =>
      rw [StringState.next] at h
      split_ifs at h with hc hcontrol
      · exact hslash hc
      · exact Nat.le_of_not_lt hcontrol
  | escape =>
      rw [StringState.next] at h
      split_ifs at h with hc
      · exact hunit hc
      · obtain ⟨char, hchar, -⟩ := Option.map_eq_some_iff.mp h
        obtain ⟨left, right, hslashes, -⟩ := List.lookup_eq_some_iff.mp hchar
        have hkeys : ∀ pair ∈ backslash, 0x20 ≤ pair.1.toNat := by decide
        exact hkeys (c, char) (by rw [hslashes]; simp)
  | unit value digits =>
      obtain ⟨digit, hdigit, -⟩ := Option.bind_eq_some_iff.mp h
      exact hhex hdigit
  | high first =>
      rw [StringState.next] at h
      split_ifs at h with hc
      exact hslash hc
  | highEscape first =>
      rw [StringState.next] at h
      split_ifs at h with hc
      exact hunit hc
  | low first value digits =>
      obtain ⟨digit, hdigit, -⟩ := Option.bind_eq_some_iff.mp h
      exact hhex hdigit

/-- The rest of a string depends on its own characters. -/
theorem scan_string_sound {state : StringState} {chars string rest : List Char}
    (h : scanString state chars = some (string, rest)) :
    ∃ text, chars = text ++ rest ∧ (∃ body, text = body ++ ['"']) ∧
      (∀ c ∈ text, 0x20 ≤ c.toNat) ∧
        ∀ other, scanString state (text ++ other) = some (string, other) := by
  induction chars generalizing state string with
  | nil => cases h
  | cons c chars ih =>
      rw [scanString] at h
      by_cases hclose : state = .plain ∧ c = '"'
      · rw [if_pos hclose] at h
        cases h
        refine ⟨[c], rfl, ⟨[], by rw [hclose.2]; rfl⟩, fun other hother => ?_, fun other => ?_⟩
        · rw [List.mem_singleton.mp hother, hclose.2]
          decide
        · rw [List.singleton_append, scanString, if_pos hclose]
      · rw [if_neg hclose] at h
        cases hnext : state.next c with
        | none =>
            rw [hnext] at h
            cases h
        | some step =>
            obtain ⟨next, out⟩ := step
            rw [hnext] at h
            obtain ⟨⟨string', rest'⟩, hscan, heq⟩ := Option.map_eq_some_iff.mp h
            cases heq
            obtain ⟨text, rfl, ⟨body, rfl⟩, hprintable, hreads⟩ := ih hscan
            refine ⟨c :: (body ++ ['"']), rfl, ⟨c :: body, rfl⟩, fun other hother => ?_,
              fun other => ?_⟩
            · rcases List.mem_cons.mp hother with rfl | hother
              · exact StringState.printable hnext
              · exact hprintable other hother
            · rw [List.cons_append, scanString, if_neg hclose, hnext]
              dsimp only
              rw [hreads other]
              rfl

section

variable {nearestFloat : Int → Int → Int × Int} {chars rest : List Char}

/-- A number depends on its own characters. -/
theorem scan_number_sound {value : Json}
    (h : scanNumber nearestFloat chars = some (value, rest)) :
    ∃ text, chars = text ++ rest ∧ text ≠ [] ∧ (∀ c ∈ text, isNumberChar c = true) ∧
      ∀ other, Delimited other → scanNumber nearestFloat (text ++ other) = some (value, other) := by
  obtain ⟨number, hnumber, heq⟩ := Option.map_eq_some_iff.mp h
  cases heq
  have hall : ∀ c ∈ chars.takeWhile isNumberChar, isNumberChar c = true :=
    fun c hc => List.mem_takeWhile_imp hc
  refine ⟨chars.takeWhile isNumberChar, List.takeWhile_append_dropWhile.symm, ?_, hall, ?_⟩
  · intro hnil
    rw [hnil] at hnumber
    cases hnumber
  · intro other hother
    have htake : (chars.takeWhile isNumberChar ++ other).takeWhile isNumberChar =
        chars.takeWhile isNumberChar := by
      rw [List.takeWhile_append_of_pos hall]
      cases other with
      | nil => simp
      | cons c other =>
          rw [List.takeWhile_cons_of_neg (by simp [hother c rfl]), List.append_nil]
    have hdrop : (chars.takeWhile isNumberChar ++ other).dropWhile isNumberChar = other := by
      rw [List.dropWhile_append_of_pos hall]
      cases other with
      | nil => rfl
      | cons c other => rw [List.dropWhile_cons_of_neg (by simp [hother c rfl])]
    rw [scanNumber, htake, hdrop, hnumber]
    rfl

/-- A constant depends on its own characters. -/
theorem scan_literal_sound {value : Json} (h : scanLiteral chars = some (value, rest)) :
    ∃ literal ∈ literals, literal.2 = value ∧ chars = literal.1 ++ rest := by
  obtain ⟨literal, hliteral, heq⟩ := Option.map_eq_some_iff.mp h
  cases heq
  have hprefix := List.find?_some hliteral
  refine ⟨literal, List.mem_of_find?_eq_some hliteral, rfl, ?_⟩
  exact (List.prefix_iff_eq_append.mp (List.isPrefixOf_iff_prefix.mp hprefix)).symm

/-! ### Texts that are read as values -/

/-- A text that is longer than nothing asks for fuel. -/
theorem exists_fuel {fuel : Nat} {c : Char} {text : List Char}
    (h : (c :: text).length ≤ fuel) : ∃ left, fuel = left + 1 ∧ text.length ≤ left := by
  cases fuel with
  | zero => cases h
  | succ left => exact ⟨left, rfl, Nat.le_of_succ_le_succ h⟩

theorem StringText.noDataLine {text string : List Char} (h : StringText text string) :
    NoDataLine ('"' :: text) := by
  refine noDataLine_of_printable (by decide) fun c hc => ?_
  rcases List.mem_cons.mp hc with rfl | hc
  · decide
  · exact h.printable c hc

theorem StringText.value {text string : List Char} (h : StringText text string) :
    ValueText nearestFloat ('"' :: text) (.str (String.ofList string)) := by
  obtain ⟨⟨body, rfl⟩, hprintable, hreads⟩ := h
  refine ⟨⟨_, _, rfl, by decide⟩, ⟨'"' :: body, '"', rfl, by decide⟩,
    StringText.noDataLine ⟨⟨body, rfl⟩, hprintable, hreads⟩, fun fuel rest hfuel _ => ?_⟩
  obtain ⟨fuel, rfl, -⟩ := exists_fuel hfuel
  rw [List.cons_append, scanOnce, if_pos rfl, hreads]
  rfl

theorem literal_value {literal : List Char × Json} (h : literal ∈ literals) :
    ValueText nearestFloat literal.1 literal.2 := by
  simp only [literals, List.mem_cons, List.not_mem_nil, or_false] at h
  refine ⟨?_, ?_, ?_, fun fuel rest hfuel _ => ?_⟩
  · rcases h with rfl | rfl | rfl <;> exact ⟨_, _, rfl, by decide⟩
  · rcases h with rfl | rfl | rfl
    · exact ⟨"nul".toList, 'l', rfl, by decide⟩
    · exact ⟨"tru".toList, 'e', rfl, by decide⟩
    · exact ⟨"fals".toList, 'e', rfl, by decide⟩
  · rcases h with rfl | rfl | rfl <;> exact noDataLine_of_no_d (by decide)
  · cases fuel with
    | zero => rcases h with rfl | rfl | rfl <;> simp at hfuel
    | succ fuel => rcases h with rfl | rfl | rfl <;> rfl

theorem visible_of_number {c : Char} (h : isNumberChar c = true) : Visible c := by
  simp only [isNumberChar, Char.isDigit, Bool.or_eq_true, Bool.and_eq_true, decide_eq_true_eq] at h
  rcases h with ((((⟨hlow, hhigh⟩ | rfl) | rfl) | rfl) | rfl) | rfl
  · exact ⟨Nat.le_trans (by decide) hlow, Nat.le_trans hhigh (by decide)⟩
  all_goals decide

/-- A text of number characters that is scanned as a number is a number. -/
theorem number_value {text : List Char} {value : Json} (hne : text ≠ [])
    (hall : ∀ c ∈ text, isNumberChar c = true)
    (hreads : ∀ other, Delimited other →
      scanNumber nearestFloat (text ++ other) = some (value, other)) :
    ValueText nearestFloat text value := by
  obtain ⟨first, tail, rfl⟩ := List.exists_cons_of_ne_nil hne
  have hfirst : isNumberChar first = true := hall first List.mem_cons_self
  have hother : ∀ c, isNumberChar c = false → first ≠ c := by
    rintro c hc rfl
    rw [hfirst] at hc
    cases hc
  refine ⟨⟨first, tail, rfl, visible_of_number hfirst⟩, ?_, ?_, fun fuel rest hfuel hrest => ?_⟩
  · obtain ⟨body, last, hlast⟩ := List.eq_nil_or_concat (first :: tail) |>.resolve_left hne
    rw [List.concat_eq_append] at hlast
    exact ⟨body, last, hlast, visible_of_number (hall last (by rw [hlast]; simp))⟩
  · exact noDataLine_of_no_d fun hd => by cases hall 'd' hd
  · obtain ⟨fuel, rfl, -⟩ := exists_fuel hfuel
    have hhead : ∀ c (word : List Char),
        (c :: word).isPrefixOf (first :: (tail ++ rest)) = true → first = c := by
      intro c word hprefix
      rw [List.isPrefixOf_cons_cons, Bool.and_eq_true, beq_iff_eq] at hprefix
      exact hprefix.1.symm
    -- No constant begins like a number.
    have hliteral : scanLiteral (first :: (tail ++ rest)) = none := by
      rw [scanLiteral, Option.map_eq_none_iff, List.find?_eq_none]
      intro literal hliteral hprefix
      simp only [literals, List.mem_cons, List.not_mem_nil, or_false] at hliteral
      rcases hliteral with rfl | rfl | rfl
      · exact hother 'n' (by decide) (hhead _ "ull".toList hprefix)
      · exact hother 't' (by decide) (hhead _ "rue".toList hprefix)
      · exact hother 'f' (by decide) (hhead _ "alse".toList hprefix)
    rw [List.cons_append, scanOnce, if_neg (hother '"' (by decide)),
      if_neg (hother '{' (by decide)), if_neg (hother '[' (by decide)), hliteral, Option.none_or]
    exact hreads rest hrest

/-- A key and a value are read, up to a delimiter. -/
theorem MemberText.reads {text : List Char} {member : String × Json}
    (h : MemberText nearestFloat text member) {fuel : Nat} (hfuel : text.length ≤ fuel)
    (hrest : Delimited rest) :
    scanMember (scanOnce nearestFloat fuel) (text ++ rest) = some (member, rest) := by
  obtain ⟨key, keyText, blanks, blanks', valueText, rfl, hkey, hstring, hblanks, hblanks',
    hvalue⟩ := h
  obtain ⟨first, tail, hfirst, hvisible⟩ := hvalue.starts
  have hlength : valueText.length ≤ fuel := by
    simp only [List.length_cons, List.length_append] at hfuel
    omega
  have hskip : skip isWhitespace (blanks' ++ (valueText ++ rest)) = valueText ++ rest := by
    rw [hfirst, List.cons_append, skip_append hblanks' hvisible.not_whitespace]
  rw [scanMember, List.cons_append, List.append_assoc, List.append_assoc, List.cons_append,
    List.append_assoc]
  simp only [Option.bind_eq_bind, Option.bind_some, expect_self, hstring.reads,
    skip_append hblanks (by decide : isWhitespace ':' = false), hskip,
    hvalue.reads fuel rest hlength hrest]
  rw [← hkey]

theorem MemberText.noDataLine {text : List Char} {member : String × Json}
    (h : MemberText nearestFloat text member) : NoDataLine text := by
  obtain ⟨key, keyText, blanks, blanks', valueText, rfl, -, hstring, hblanks, hblanks', hvalue⟩ := h
  have hcolon : NoDataLine [':'] := noDataLine_of_no_d (by decide)
  exact hstring.noDataLine.append ((noDataLine_of_blanks hblanks).append
    (hcolon.append ((noDataLine_of_blanks hblanks').append hvalue.noDataLine)))

/-- Members are read, whatever follows the object. -/
theorem members_read {text : List Char} {members : List (String × Json)}
    (h : ItemsText isWhitespace (MemberText nearestFloat) ',' '}' text members) {fuel : Nat}
    (hfuel : text.length ≤ fuel) (rest : List Char) :
    scanObject (scanOnce nearestFloat fuel) (text ++ rest) =
      some (.obj (Dict.ofList members).entries, rest) := by
  have hread : items isWhitespace (scanMember (scanOnce nearestFloat fuel)) ',' '}' (text ++ rest) =
      some (members, rest) := by
    refine items_complete (by decide) (by decide) (by decide) ?_ h ?_ rest
    · rintro _ _ ⟨_, _, _, _, _, rfl, _⟩
      exact ⟨_, _, rfl, by decide⟩
    · intro other member hmember hle c following hc
      exact hmember.reads (Nat.le_trans hle hfuel) (delimited_of_end (by decide) hc)
  rw [scanObject, hread]
  rfl

/-- Items are read, whatever follows the array. -/
theorem values_read {text : List Char} {values : List Json}
    (h : ItemsText isWhitespace (ValueText nearestFloat) ',' ']' text values) {fuel : Nat}
    (hfuel : text.length ≤ fuel) (rest : List Char) :
    scanArray (scanOnce nearestFloat fuel) (text ++ rest) = some (.arr values, rest) := by
  have hread : items isWhitespace (scanOnce nearestFloat fuel) ',' ']' (text ++ rest) =
      some (values, rest) := by
    refine items_complete (by decide) (by decide) (by decide) ?_ h ?_ rest
    · intro other value hvalue
      obtain ⟨first, tail, rfl, hvisible⟩ := hvalue.starts
      exact ⟨first, tail, rfl, hvisible.not_whitespace⟩
    · intro other value hvalue hle c following hc
      exact hvalue.reads fuel _ (Nat.le_trans hle hfuel) (delimited_of_end (by decide) hc)
  rw [scanArray, hread]
  rfl

/-! ### What the scanner reads -/

/-- A member that is scanned is one, if values are. -/
theorem scan_member_sound {value : Scan Json}
    (hvalue : ∀ chars json rest, value chars = some (json, rest) →
      ∃ text, chars = text ++ rest ∧ ValueText nearestFloat text json)
    {member : String × Json} (h : scanMember value chars = some (member, rest)) :
    ∃ text, chars = text ++ rest ∧ MemberText nearestFloat text member := by
  rw [scanMember, Option.bind_eq_bind, Option.bind_eq_some_iff] at h
  obtain ⟨afterQuote, hquote, h⟩ := h
  rw [Option.bind_eq_bind, Option.bind_eq_some_iff] at h
  obtain ⟨⟨key, afterKey⟩, hkey, h⟩ := h
  rw [Option.bind_eq_bind, Option.bind_eq_some_iff] at h
  obtain ⟨afterColon, hcolon, h⟩ := h
  rw [Option.bind_eq_some_iff] at h
  obtain ⟨⟨json, last⟩, hjson, h⟩ := h
  cases h
  obtain ⟨keyText, hkeyText, hends, hprintable, hreads⟩ := scan_string_sound hkey
  obtain ⟨blanks, hblanks, hafterKey⟩ := exists_blanks isWhitespace afterKey
  obtain ⟨blanks', hblanks', hafterColon⟩ := exists_blanks isWhitespace afterColon
  obtain ⟨valueText, hvalueText, hform⟩ := hvalue _ _ _ hjson
  refine ⟨_, ?_, key, keyText, blanks, blanks', valueText, rfl, rfl,
    ⟨hends, hprintable, hreads⟩, hblanks,
    hblanks', hform⟩
  rw [expect_eq_some_iff.mp hcolon, hafterColon, hvalueText] at hafterKey
  rw [expect_eq_some_iff.mp hquote, hkeyText, hafterKey]
  simp

/-- An object that is scanned is the text of a value, if the values in it are. -/
theorem scan_object_sound {value : Scan Json}
    (hvalue : ∀ chars json rest, value chars = some (json, rest) →
      ∃ text, chars = text ++ rest ∧ ValueText nearestFloat text json)
    {object : Json} (h : scanObject value chars = some (object, rest)) :
    ∃ text, chars = text ++ rest ∧ ValueText nearestFloat ('{' :: text) object := by
  obtain ⟨⟨members, after⟩, hmembers, heq⟩ := Option.map_eq_some_iff.mp h
  cases heq
  obtain ⟨text, rfl, hform⟩ :=
    items_sound (fun _ _ _ hmember => scan_member_sound hvalue hmember) hmembers
  obtain ⟨body, hbody⟩ := hform.ends
  have hopen : NoDataLine ['{'] := noDataLine_of_no_d (by decide)
  have hlines : NoDataLine text := hform.closed (fun _ _ => NoDataLine.append)
    (fun _ _ hmember => hmember.noDataLine) (fun _ => noDataLine_of_blanks)
    (noDataLine_of_no_d (by decide)) (noDataLine_of_no_d (by decide))
  refine ⟨text, rfl, ⟨_, _, rfl, by decide⟩, ⟨'{' :: body, '}', by rw [hbody]; rfl, by decide⟩,
    hopen.append hlines, fun fuel other hfuel _ => ?_⟩
  obtain ⟨fuel, rfl, hlength⟩ := exists_fuel hfuel
  rw [List.cons_append, scanOnce, if_neg (by decide), if_pos rfl]
  exact members_read hform hlength other

/-- An array that is scanned is the text of a value, if the values in it are. -/
theorem scan_array_sound {value : Scan Json}
    (hvalue : ∀ chars json rest, value chars = some (json, rest) →
      ∃ text, chars = text ++ rest ∧ ValueText nearestFloat text json)
    {array : Json} (h : scanArray value chars = some (array, rest)) :
    ∃ text, chars = text ++ rest ∧ ValueText nearestFloat ('[' :: text) array := by
  obtain ⟨⟨values, after⟩, hvalues, heq⟩ := Option.map_eq_some_iff.mp h
  cases heq
  obtain ⟨text, rfl, hform⟩ := items_sound hvalue hvalues
  obtain ⟨body, hbody⟩ := hform.ends
  have hopen : NoDataLine ['['] := noDataLine_of_no_d (by decide)
  have hlines : NoDataLine text := hform.closed (fun _ _ => NoDataLine.append)
    (fun _ _ hitem => hitem.noDataLine) (fun _ => noDataLine_of_blanks)
    (noDataLine_of_no_d (by decide)) (noDataLine_of_no_d (by decide))
  refine ⟨text, rfl, ⟨_, _, rfl, by decide⟩, ⟨'[' :: body, ']', by rw [hbody]; rfl, by decide⟩,
    hopen.append hlines, fun fuel other hfuel _ => ?_⟩
  obtain ⟨fuel, rfl, hlength⟩ := exists_fuel hfuel
  rw [List.cons_append, scanOnce, if_neg (by decide), if_neg (by decide), if_pos rfl]
  exact values_read hform hlength other

/-- What is scanned is the text of a value. -/
theorem scan_once_sound {fuel : Nat} {value : Json}
    (h : scanOnce nearestFloat fuel chars = some (value, rest)) :
    ∃ text, chars = text ++ rest ∧ ValueText nearestFloat text value := by
  -- On the fuel: the values in an object or an array are scanned with less.
  induction fuel generalizing chars value rest with
  | zero => cases h
  | succ fuel ih =>
      cases chars with
      | nil => cases h
      | cons c chars =>
          rw [scanOnce] at h
          by_cases hquote : c = '"'
          · rw [if_pos hquote] at h
            obtain ⟨⟨string, after⟩, hstring, heq⟩ := Option.map_eq_some_iff.mp h
            cases heq
            obtain ⟨text, rfl, hends, hprintable, hreads⟩ := scan_string_sound hstring
            exact ⟨'"' :: text, by rw [hquote]; rfl,
              StringText.value ⟨hends, hprintable, hreads⟩⟩
          rw [if_neg hquote] at h
          by_cases hobject : c = '{'
          · rw [if_pos hobject] at h
            obtain ⟨text, rfl, hform⟩ := scan_object_sound (fun _ _ _ => ih) h
            exact ⟨'{' :: text, by rw [hobject]; rfl, hform⟩
          rw [if_neg hobject] at h
          by_cases harray : c = '['
          · rw [if_pos harray] at h
            obtain ⟨text, rfl, hform⟩ := scan_array_sound (fun _ _ _ => ih) h
            exact ⟨'[' :: text, by rw [harray]; rfl, hform⟩
          rw [if_neg harray] at h
          -- What begins with none of these is a constant or a number.
          rcases Option.or_eq_some_iff.mp h with hliteral | ⟨-, hnumber⟩
          · obtain ⟨literal, hmem, rfl, hchars⟩ := scan_literal_sound hliteral
            exact ⟨literal.1, hchars, literal_value hmem⟩
          · obtain ⟨text, hchars, hne, hall, hreads⟩ := scan_number_sound hnumber
            exact ⟨text, hchars, number_value hne hall hreads⟩

/-! ### Whole texts -/

theorem skip_eq_nil_iff : skip isWhitespace chars = [] ↔ ∀ c ∈ chars, isWhitespace c = true :=
  List.dropWhile_eq_nil_iff

/-- A text has a value if it is the text of one, with blanks around it. -/
theorem json_loads_ok_iff {text : List Char} {value : Json} :
    jsonLoads nearestFloat text = .ok value ↔
      ∃ blanks body blanks', text = blanks ++ (body ++ blanks') ∧
        (∀ c ∈ blanks, isWhitespace c = true) ∧ ValueText nearestFloat body value ∧
        ∀ c ∈ blanks', isWhitespace c = true := by
  constructor
  · intro h
    rw [jsonLoads] at h
    cases hscan : scanOnce nearestFloat (skip isWhitespace text).length
        (skip isWhitespace text) with
    | none =>
        rw [hscan] at h
        cases h
    | some scanned =>
        obtain ⟨scanned, after⟩ := scanned
        rw [hscan] at h
        dsimp only at h
        by_cases hafter : skip isWhitespace after = []
        · rw [if_pos hafter] at h
          cases h
          obtain ⟨blanks, hblanks, htext⟩ := exists_blanks isWhitespace text
          obtain ⟨body, hbody, hform⟩ := scan_once_sound hscan
          exact ⟨blanks, body, after, by rw [← hbody]; exact htext, hblanks, hform,
            skip_eq_nil_iff.mp hafter⟩
        · rw [if_neg hafter] at h
          cases h
  · rintro ⟨blanks, body, blanks', rfl, hblanks, hform, hblanks'⟩
    obtain ⟨first, tail, hfirst, hvisible⟩ := hform.starts
    have hskip : skip isWhitespace (blanks ++ (body ++ blanks')) = body ++ blanks' := by
      rw [hfirst, List.cons_append, skip_append hblanks hvisible.not_whitespace]
    have hdelimited : Delimited blanks' := fun c hc =>
      isWhitespace_delimits (hblanks' c (List.mem_of_mem_head? hc))
    rw [jsonLoads]
    rw [hskip, hform.reads _ _ (by rw [List.length_append]; omega) hdelimited]
    dsimp only
    rw [if_pos (skip_eq_nil_iff.mpr hblanks')]

/-- A text that goes on behind the text of a value has that value or none. -/
theorem json_loads_append {before body after : List Char} {value other : Json}
    (hbefore : ∀ c ∈ before, ¬ Visible c) (hform : ValueText nearestFloat body value)
    (hafter : Delimited after)
    (h : jsonLoads nearestFloat (before ++ (body ++ after)) = .ok other) :
    other = value ∧ (∀ c ∈ before, isWhitespace c = true) ∧
      ∀ c ∈ after, isWhitespace c = true := by
  obtain ⟨blanks, hblanks, hskipped⟩ := exists_blanks isWhitespace before
  rw [jsonLoads] at h
  cases hrest : skip isWhitespace before with
  | nil =>
      have hwhite := skip_eq_nil_iff.mp hrest
      obtain ⟨first, tail, hfirst, hvisible⟩ := hform.starts
      have hskip : skip isWhitespace (before ++ (body ++ after)) = body ++ after := by
        rw [hfirst, List.cons_append, skip_append hwhite hvisible.not_whitespace]
      rw [hskip, hform.reads _ _ (by rw [List.length_append]; omega) hafter] at h
      dsimp only at h
      by_cases hempty : skip isWhitespace after = []
      · rw [if_pos hempty] at h
        cases h
        exact ⟨rfl, hwhite, skip_eq_nil_iff.mp hempty⟩
      · rw [if_neg hempty] at h
        cases h
  | cons c more =>
      -- No value begins with an invisible character.
      rw [hrest] at hskipped
      have hinvisible : ¬ Visible c := hbefore c (by rw [hskipped]; simp)
      have hskip : skip isWhitespace (before ++ (body ++ after)) =
          c :: (more ++ (body ++ after)) := by
        rw [hskipped, List.append_assoc, List.cons_append, skip_append hblanks (skip_head hrest)]
      rw [hskip] at h
      cases hscan : scanOnce nearestFloat (c :: (more ++ (body ++ after))).length
          (c :: (more ++ (body ++ after))) with
      | none =>
          rw [hscan] at h
          cases h
      | some scanned =>
          obtain ⟨text, htext, hscanned⟩ := scan_once_sound hscan
          obtain ⟨first, tail, hfirst, hvisible⟩ := hscanned.starts
          rw [hfirst, List.cons_append] at htext
          exact absurd ((List.cons.inj htext).1 ▸ hvisible) hinvisible

/-- No line of a text with a value begins like a data field of an event stream. -/
theorem noDataLine_of_json_loads {text : List Char} {value : Json}
    (h : jsonLoads nearestFloat text = .ok value) : NoDataLine text := by
  obtain ⟨blanks, body, blanks', rfl, hblanks, hform, hblanks'⟩ := json_loads_ok_iff.mp h
  exact (noDataLine_of_blanks hblanks).append (hform.noDataLine.append
    (noDataLine_of_blanks hblanks'))

end

end JsonText

end AgentGraphStudio
