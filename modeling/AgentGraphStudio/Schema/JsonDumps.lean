import AgentGraphStudio.Schema.JsonText
import Mathlib.Algebra.Group.Nat.Defs

/-!
# Writing JSON texts

`json.dumps` of Python's standard library, in the two forms the source asks for: on one line, and
with an indentation. Only ASCII is written, a character beyond it as one or two code units.
`floatRepr` is the text of a float, and an integer with too many digits is refused. `Loadable` are
the values that a text can have (`json_loads_loadable`): all of them can be written, and each is
read as it was written (`json_loads_dumps`).
-/

namespace AgentGraphStudio

namespace JsonText

open Scanner

/-! ## The writer -/

/-- The characters that are written after a backslash (`ESCAPE_DCT`). -/
def ESCAPE_DCT : List (Char × Char) :=
  [('\\', '\\'), ('"', '"'), ('\x08', 'b'), ('\x0c', 'f'), ('\n', 'n'), ('\r', 'r'), ('\t', 't')]

/-- A code unit as four hexadecimal digits. -/
def unitEscape (value : Nat) : List Char :=
  ['\\', 'u', (value / 0x1000).digitChar, (value / 0x100 % 16).digitChar,
    (value / 16 % 16).digitChar, (value % 16).digitChar]

/-- A character of a string. -/
def escapeChar (c : Char) : List Char :=
  match ESCAPE_DCT.lookup c with
  | some letter => ['\\', letter]
  | none =>
    if 0x20 ≤ c.toNat ∧ c.toNat ≤ 0x7e then [c]
    else if c.toNat < 0x10000 then unitEscape c.toNat
    else unitEscape (0xd800 + (c.toNat - 0x10000) / 0x400) ++
      unitEscape (0xdc00 + (c.toNat - 0x10000) % 0x400)

/-- A string between its quotes (`py_encode_basestring_ascii`). -/
def encodeBasestringAscii (text : String) : List Char :=
  '"' :: (text.toList.flatMap escapeChar ++ ['"'])

/-- An integer (`int.__repr__`). -/
def intRepr (value : Int) : Except String (List Char) :=
  let digits := Nat.toDigits 10 value.natAbs
  if INT_MAX_STR_DIGITS < digits.length then
    .error "Exceeds the limit (4300 digits) for integer string conversion"
  else .ok (if value < 0 then '-' :: digits else digits)

section

variable (floatRepr : Int → Int → List Char) (indent : Option Nat)

/-- The line break before an item at a level, if the text is indented. -/
def newlineIndent (level : Nat) : List Char :=
  match indent with
  | none => []
  | some width => '\n' :: List.replicate (width * level) ' '

/-- What follows the comma between items at a level. -/
def afterSeparator (level : Nat) : List Char :=
  match indent with
  | none => [' ']
  | some _ => newlineIndent indent level

/-- The texts of the items of an array or an object at a level. -/
def enclose (close : Char) (level : Nat) (texts : List (List Char)) : List Char :=
  written ',' close (newlineIndent indent (level + 1)) (afterSeparator indent (level + 1))
    (newlineIndent indent level) texts

mutual

/-- A value at a level (`_iterencode`). -/
def iterencode (level : Nat) : Json → Except String (List Char)
  | .null => .ok "null".toList
  | .bool true => .ok "true".toList
  | .bool false => .ok "false".toList
  | .int value => intRepr value
  | .float mantissa exponent => .ok (floatRepr mantissa exponent)
  | .str text => .ok (encodeBasestringAscii text)
  | .arr items => (iterencodeList (level + 1) items).map fun texts =>
    '[' :: enclose indent ']' level texts
  | .obj fields => (iterencodeDict (level + 1) fields).map fun texts =>
    '{' :: enclose indent '}' level texts

/-- The items of an array. -/
def iterencodeList (level : Nat) : List Json → Except String (List (List Char))
  | [] => .ok []
  | item :: items => do
    let text ← iterencode level item
    let texts ← iterencodeList level items
    .ok (text :: texts)

/-- The members of an object. -/
def iterencodeDict (level : Nat) : List (String × Json) → Except String (List (List Char))
  | [] => .ok []
  | (key, value) :: fields => do
    let text ← iterencode level value
    let texts ← iterencodeDict level fields
    .ok ((encodeBasestringAscii key ++ (':' :: ' ' :: text)) :: texts)

end

/-- The text of a value (`json.dumps`). -/
def jsonDumps (value : Json) : Except String (List Char) := iterencode floatRepr indent 0 value

end

/-! ## Strings -/

theorem hexDigit_digitChar : ∀ value < 16, hexDigit value.digitChar = some value := by decide

/-- One more character of a string, which does not close it. -/
theorem scan_string_cons {state next : StringState} {c : Char} {out : List Char}
    (hopen : ¬ (state = .plain ∧ c = '"')) (h : state.next c = some (next, out))
    (rest : List Char) :
    scanString state (c :: rest) =
      (scanString next rest).map fun (text, rest) => (out ++ text, rest) := by
  rw [scanString, if_neg hopen, h]

/-- A character that completes nothing. -/
theorem scan_string_silent {state next : StringState} {c : Char}
    (hopen : ¬ (state = .plain ∧ c = '"')) (h : state.next c = some (next, []))
    (rest : List Char) : scanString state (c :: rest) = scanString next rest := by
  rw [scan_string_cons hopen h]
  cases scanString next rest <;> rfl

/-- The digits of a code unit, the first of a character or the second. -/
theorem scan_digits (start : Nat → Nat → StringState)
    (finish : Nat → Option (StringState × List Char))
    (hstart : ∀ total digits, start total digits ≠ .plain)
    (hnext : ∀ total digits c, (start total digits).next c = (hexDigit c).bind fun digit =>
      if digits < 3 then some (start (16 * total + digit) (digits + 1), [])
      else finish (16 * total + digit))
    {value : Nat} (hvalue : value < 0x10000) {next : StringState} {out : List Char}
    (hfinish : finish value = some (next, out)) (rest : List Char) :
    scanString (start 0 0) ((value / 0x1000).digitChar :: (value / 0x100 % 16).digitChar ::
        (value / 16 % 16).digitChar :: (value % 16).digitChar :: rest) =
      (scanString next rest).map fun (text, rest) => (out ++ text, rest) := by
  have hopen : ∀ total digits (c : Char), ¬ (start total digits = .plain ∧ c = '"') :=
    fun total digits c h => hstart total digits h.1
  have hdigit : ∀ {total digits digit : Nat}, digits < 3 → digit < 16 →
      (start total digits).next digit.digitChar =
        some (start (16 * total + digit) (digits + 1), []) := by
    intro total digits digit hdigits hdigit
    rw [hnext, hexDigit_digitChar digit hdigit]
    simp [hdigits]
  rw [scan_string_silent (hopen _ _ _) (hdigit (by omega) (by omega)),
    scan_string_silent (hopen _ _ _) (hdigit (by omega) (by omega)),
    scan_string_silent (hopen _ _ _) (hdigit (by omega) (by omega))]
  refine scan_string_cons (hopen _ _ _) ?_ rest
  have hsum : 16 * (16 * (16 * (16 * 0 + value / 0x1000) + value / 0x100 % 16) +
      value / 16 % 16) + value % 16 = value := by omega
  rw [hnext, hexDigit_digitChar _ (by omega)]
  simp only [Option.bind_some]
  rw [hsum]
  simpa using hfinish

/-- A code unit that is no surrogate is a character. -/
theorem scan_unit {c : Char} (hc : c.toNat < 0x10000) (rest : List Char) :
    scanString .plain (unitEscape c.toNat ++ rest) =
      (scanString .plain rest).map fun (text, rest) => (c :: text, rest) := by
  have hvalid : c.toNat < 0xd800 ∨ 0xdfff < c.toNat ∧ c.toNat < 0x110000 := c.valid
  have hunit : StringState.ofUnit c.toNat = some (.plain, [c]) := by
    rw [StringState.ofUnit, if_neg (by omega), if_neg (by omega), Char.ofNat_toNat]
  show scanString .plain ('\\' :: 'u' :: _ :: _ :: _ :: _ :: rest) = _
  rw [scan_string_silent (by decide) rfl,
    scan_string_silent (by decide) rfl]
  exact scan_digits StringState.unit StringState.ofUnit (by simp) (fun _ _ _ => rfl) hc hunit rest

/-- Two code units are the character they were made of. -/
theorem scan_pair {c : Char} (hc : 0x10000 ≤ c.toNat) (rest : List Char) :
    scanString .plain (unitEscape (0xd800 + (c.toNat - 0x10000) / 0x400) ++
        (unitEscape (0xdc00 + (c.toNat - 0x10000) % 0x400) ++ rest)) =
      (scanString .plain rest).map fun (text, rest) => (c :: text, rest) := by
  have hvalid : c.toNat < 0xd800 ∨ 0xdfff < c.toNat ∧ c.toNat < 0x110000 := c.valid
  have hhigh : StringState.ofUnit (0xd800 + (c.toNat - 0x10000) / 0x400) =
      some (.high (0xd800 + (c.toNat - 0x10000) / 0x400), []) := by
    rw [StringState.ofUnit, if_pos (by omega)]
  have hpair : StringState.ofPair (0xd800 + (c.toNat - 0x10000) / 0x400)
      (0xdc00 + (c.toNat - 0x10000) % 0x400) = some (.plain, [c]) := by
    have hsum : 0x10000 + (0xd800 + (c.toNat - 0x10000) / 0x400 - 0xd800) * 0x400 +
        (0xdc00 + (c.toNat - 0x10000) % 0x400 - 0xdc00) = c.toNat := by omega
    rw [StringState.ofPair, if_pos (by omega), hsum, Char.ofNat_toNat]
  show scanString .plain ('\\' :: 'u' :: _ :: _ :: _ :: _ :: (unitEscape _ ++ rest)) = _
  rw [scan_string_silent (by decide) rfl,
    scan_string_silent (by decide) rfl,
    scan_digits StringState.unit StringState.ofUnit (by simp) (fun _ _ _ => rfl) (by omega)
      hhigh]
  show Option.map _ (scanString (.high _) ('\\' :: 'u' :: _ :: _ :: _ :: _ :: rest)) = _
  rw [scan_string_silent (by simp) rfl,
    scan_string_silent (by simp) rfl,
    scan_digits (StringState.low _) (StringState.ofPair _) (by simp) (fun _ _ _ => rfl) (by omega)
      hpair]
  cases scanString .plain rest <;> rfl

/-- A character is read as it was written, whatever follows it. -/
theorem scan_string_escape (c : Char) (rest : List Char) :
    scanString .plain (escapeChar c ++ rest) =
      (scanString .plain rest).map fun (text, rest) => (c :: text, rest) := by
  unfold escapeChar
  cases hletter : ESCAPE_DCT.lookup c with
  | some letter =>
      -- What stands behind a backslash stands for the character, in the other table.
      have hback : ∀ entry ∈ ESCAPE_DCT, entry.2 ≠ 'u' ∧
          backslash.lookup entry.2 = some entry.1 := by decide
      obtain ⟨left, right, hentries, -⟩ := List.lookup_eq_some_iff.mp hletter
      obtain ⟨hunit, hlookup⟩ := hback (c, letter) (by rw [hentries]; simp)
      show scanString .plain ('\\' :: letter :: rest) = _
      rw [scan_string_silent (by decide) rfl]
      have hstep : StringState.next .escape letter = some (.plain, [c]) := by
        rw [StringState.next, if_neg hunit, hlookup]
        rfl
      exact scan_string_cons (by simp) hstep rest
  | none =>
      dsimp only
      split_ifs with hplain hunit
      · have hne : ∀ d letter, (d, letter) ∈ ESCAPE_DCT → c ≠ d := by
          rintro d letter hmem rfl
          rw [List.lookup_eq_none_iff] at hletter
          simpa using hletter _ hmem
        have hquote : c ≠ '"' := hne _ '"' (by decide)
        have hslash : c ≠ '\\' := hne _ '\\' (by decide)
        have hstep : StringState.next .plain c = some (.plain, [c]) := by
          rw [StringState.next, if_neg hslash, if_neg (by omega)]
        exact scan_string_cons (by simp [hquote]) hstep rest
      · exact scan_unit hunit rest
      · rw [List.append_assoc]
        exact scan_pair (by omega) rest

/-- The characters that are written are visible ones or the blank. -/
theorem escapeChar_printable (c : Char) : ∀ d ∈ escapeChar c, 0x20 ≤ d.toNat ∧ d.toNat ≤ 0x7e := by
  have hdigit : ∀ value < 16, 0x20 ≤ value.digitChar.toNat ∧ value.digitChar.toNat ≤ 0x7e := by
    decide
  have hunit : ∀ value < 0x10000, ∀ d ∈ unitEscape value, 0x20 ≤ d.toNat ∧ d.toNat ≤ 0x7e := by
    intro value hvalue d hd
    simp only [unitEscape, List.mem_cons, List.not_mem_nil, or_false] at hd
    rcases hd with rfl | rfl | rfl | rfl | rfl | rfl
    · decide
    · decide
    all_goals exact hdigit _ (by omega)
  have hvalid : c.toNat < 0xd800 ∨ 0xdfff < c.toNat ∧ c.toNat < 0x110000 := c.valid
  unfold escapeChar
  intro d hd
  split at hd
  · rename_i letter hletter
    have hletters : ∀ entry ∈ ESCAPE_DCT, 0x20 ≤ entry.2.toNat ∧ entry.2.toNat ≤ 0x7e := by decide
    obtain ⟨left, right, hentries, -⟩ := List.lookup_eq_some_iff.mp hletter
    simp only [List.mem_cons, List.not_mem_nil, or_false] at hd
    rcases hd with rfl | rfl
    · decide
    · exact hletters (c, d) (by rw [hentries]; simp)
  · split_ifs at hd with hplain hlow
    · rw [List.mem_singleton.mp hd]
      exact hplain
    · exact hunit _ hlow d hd
    · rcases List.mem_append.mp hd with hd | hd
      · exact hunit _ (by omega) d hd
      · exact hunit _ (by omega) d hd

/-- A string is read as it was written. -/
theorem stringText_encode (text : String) :
    StringText (text.toList.flatMap escapeChar ++ ['"']) text.toList where
  ends := ⟨_, rfl⟩
  printable c hc := by
    rcases List.mem_append.mp hc with hc | hc
    · obtain ⟨d, -, hd⟩ := List.mem_flatMap.mp hc
      exact (escapeChar_printable d c hd).1
    · rw [List.mem_singleton.mp hc]
      decide
  reads rest := by
    induction text.toList with
    | nil => rfl
    | cons c chars ih =>
        rw [List.flatMap_cons, List.append_assoc, List.append_assoc, scan_string_escape]
        rw [← List.append_assoc, ih]
        rfl

/-! ## Numbers -/

/-- Only zero begins with a zero. -/
theorem toDigits_head {value : Nat} (h : (Nat.toDigits 10 value).head? = some '0') :
    Nat.toDigits 10 value = ['0'] := by
  induction value using Nat.strongRecOn with
  | _ value ih =>
      by_cases hlow : value < 10
      · rw [Nat.toDigits_of_lt_base hlow] at h ⊢
        simpa using h
      · rw [Nat.toDigits_of_base_le (by decide) (by omega),
          List.head?_append_of_ne_nil _ Nat.toDigits_ne_nil] at h
        have hvalue := congrArg (Nat.ofDigitChars 10 · 0) (ih (value / 10) (by omega) h)
        simp only [Nat.ofDigitChars_ten_toDigits] at hvalue
        have hzero : Nat.ofDigitChars 10 ['0'] 0 = 0 := by decide
        omega

section

variable {nearestFloat : Int → Int → Int × Int}

/-- The text of a number is that of a value. -/
theorem parsed_value {text : List Char} {value : Json}
    (hall : ∀ c ∈ text, isNumberChar c = true)
    (hparse : parseNumber nearestFloat text = some value) :
    ValueText nearestFloat text value := by
  have hscan : scanNumber nearestFloat text = some (value, []) := by
    rw [scanNumber, List.takeWhile_eq_self_iff.mpr hall, List.dropWhile_eq_nil_iff.mpr hall, hparse]
    rfl
  obtain ⟨own, htext, hne, hnumber, hreads⟩ := scan_number_sound hscan
  rw [List.append_nil] at htext
  rw [htext]
  exact number_value hne hnumber hreads

/-- Digits without an exponent are an integer. -/
theorem parse_digits (nearestFloat : Int → Int → Int × Int) {digits : List Char}
    (hall : ∀ c ∈ digits, c.isDigit = true)
    (hne : digits ≠ []) (hhead : digits.head? = some '0' → digits = ['0'])
    (hlength : digits.length ≤ INT_MAX_STR_DIGITS) (negative : Bool) :
    parseNumber nearestFloat (if negative then '-' :: digits else digits) =
      some (.int (signed negative (natOf digits))) := by
  have htake : digits.takeWhile Char.isDigit = digits := List.takeWhile_eq_self_iff.mpr hall
  have hdrop : digits.dropWhile Char.isDigit = [] := List.dropWhile_eq_nil_iff.mpr hall
  have hzero : ¬ (digits = [] ∨ digits.head? = some '0' ∧ digits ≠ ['0']) := by tauto
  cases negative with
  | true =>
      rw [if_pos rfl, parseNumber]
      simp only [htake, hdrop, if_neg hzero, fractionOf, exponentOf, if_pos hlength,
        Option.bind_eq_bind, Option.bind_some]
  | false =>
      rw [if_neg (by decide)]
      obtain ⟨first, rest, rfl⟩ := List.exists_cons_of_ne_nil hne
      have hminus : first ≠ '-' := by
        rintro rfl
        exact absurd (hall '-' List.mem_cons_self) (by decide)
      rw [parseNumber]
      · simp only [htake, hdrop, if_neg hzero, fractionOf, exponentOf, if_pos hlength,
          Option.bind_eq_bind, Option.bind_some]
      · rintro body heq
        exact hminus (List.cons.inj heq).1

/-- An integer is read as it was written. -/
theorem int_text_value {value : Int} {text : List Char} (h : intRepr value = .ok text) :
    ValueText nearestFloat text (.int value) := by
  rw [intRepr] at h
  split at h
  · cases h
  · rename_i hlength
    cases h
    have hdigits : ∀ c ∈ Nat.toDigits 10 value.natAbs, c.isDigit = true := fun c hc =>
      Nat.isDigit_of_mem_toDigits (by decide) (by decide) hc
    have hnat : natOf (Nat.toDigits 10 value.natAbs) = value.natAbs :=
      Nat.ofDigitChars_ten_toDigits
    have hsigned : signed (decide (value < 0)) value.natAbs = value := by
      unfold signed
      by_cases hnegative : value < 0
      · rw [if_pos (decide_eq_true hnegative)]
        omega
      · rw [if_neg (fun h => hnegative (of_decide_eq_true h))]
        omega
    have hparse := parse_digits nearestFloat hdigits Nat.toDigits_ne_nil
      toDigits_head (by omega) (decide (value < 0))
    simp only [decide_eq_true_eq, hnat, hsigned] at hparse
    refine parsed_value (fun c hc => ?_) hparse
    split at hc
    · rcases List.mem_cons.mp hc with rfl | hc
      · decide
      · simp [isNumberChar, hdigits c hc]
    · simp [isNumberChar, hdigits c hc]

/-! ## Values -/

/-- An array of texts of values is the text of a value. -/
theorem array_value {text : List Char} {values : List Json}
    (h : ItemsText isWhitespace (ValueText nearestFloat) ',' ']' text values) :
    ValueText nearestFloat ('[' :: text) (.arr values) := by
  have hread := values_read h (Nat.le_refl _) []
  rw [List.append_nil] at hread
  obtain ⟨own, htext, hvalue⟩ := scan_array_sound (fun _ _ _ => scan_once_sound) hread
  rw [List.append_nil] at htext
  rwa [htext]

/-- An object of texts of members is the text of a value. -/
theorem object_value {text : List Char} {members : List (String × Json)}
    (h : ItemsText isWhitespace (MemberText nearestFloat) ',' '}' text members) :
    ValueText nearestFloat ('{' :: text) (.obj (Dict.ofList members).entries) := by
  have hread := members_read h (Nat.le_refl _) []
  rw [List.append_nil] at hread
  obtain ⟨own, htext, hvalue⟩ := scan_object_sound (fun _ _ _ => scan_once_sound) hread
  rw [List.append_nil] at htext
  rwa [htext]

/-- No value begins with the bracket that closes an array. -/
theorem ValueText.not_closing {text : List Char} {value : Json}
    (h : ValueText nearestFloat text value) : text ≠ [] ∧ text.head? ≠ some ']' := by
  obtain ⟨first, tail, rfl, -⟩ := h.starts
  refine ⟨by simp, fun hfirst => ?_⟩
  cases hfirst
  have hread := h.reads (tail.length + 1) [] (by simp) (by simp [Delimited])
  have hliteral : scanLiteral (']' :: (tail ++ [])) = none := rfl
  have hnumber : scanNumber nearestFloat (']' :: (tail ++ [])) = none := rfl
  rw [List.cons_append, scanOnce, if_neg (by decide), if_neg (by decide), if_neg (by decide),
    hliteral, hnumber] at hread
  cases hread

/-- A text can have this value: the keys of an object differ, an integer has few digits, and a float
is one. -/
inductive Loadable (nearestFloat : Int → Int → Int × Int) : Json → Prop where
  | null : Loadable nearestFloat .null
  | bool (value : Bool) : Loadable nearestFloat (.bool value)
  | int {value : Int} (h : (Nat.toDigits 10 value.natAbs).length ≤ INT_MAX_STR_DIGITS) :
      Loadable nearestFloat (.int value)
  | float {mantissa exponent : Int} (h : nearestFloat mantissa exponent = (mantissa, exponent)) :
      Loadable nearestFloat (.float mantissa exponent)
  | str (text : String) : Loadable nearestFloat (.str text)
  | arr {items : List Json} (hitems : ∀ item ∈ items, Loadable nearestFloat item) :
      Loadable nearestFloat (.arr items)
  | obj {fields : List (String × Json)} (hkeys : (fields.map Prod.fst).Nodup)
      (hfields : ∀ field ∈ fields, Loadable nearestFloat field.2) :
      Loadable nearestFloat (.obj fields)

/-- Rounding a float changes nothing, and the text of a float is a number that is read as it. -/
structure FloatsFaithful (nearestFloat : Int → Int → Int × Int)
    (floatRepr : Int → Int → List Char) : Prop where
  rounded : ∀ mantissa exponent,
    nearestFloat (nearestFloat mantissa exponent).1 (nearestFloat mantissa exponent).2 =
      nearestFloat mantissa exponent
  chars : ∀ mantissa exponent, nearestFloat mantissa exponent = (mantissa, exponent) →
    ∀ c ∈ floatRepr mantissa exponent, isNumberChar c = true
  reads : ∀ mantissa exponent, nearestFloat mantissa exponent = (mantissa, exponent) →
    parseNumber nearestFloat (floatRepr mantissa exponent) = some (.float mantissa exponent)

variable {floatRepr : Int → Int → List Char} {indent : Option Nat}

/-- The items of an array are written one by one. -/
theorem iterencode_list_ok {level : Nat} {items : List Json} {texts : List (List Char)}
    (h : iterencodeList floatRepr indent level items = .ok texts) :
    List.Forall₂ (fun text item => iterencode floatRepr indent level item = .ok text) texts
      items := by
  induction items generalizing texts with
  | nil =>
      cases h
      exact .nil
  | cons item items ih =>
      rw [iterencodeList] at h
      obtain ⟨text, htext, h⟩ := except_bind_eq_ok.mp h
      obtain ⟨others, hothers, h⟩ := except_bind_eq_ok.mp h
      cases h
      exact .cons htext (ih hothers)

/-- The members of an object are written one by one. -/
theorem iterencode_dict_ok {level : Nat} {fields : List (String × Json)}
    {texts : List (List Char)} (h : iterencodeDict floatRepr indent level fields = .ok texts) :
    List.Forall₂ (fun text field => ∃ value,
      iterencode floatRepr indent level field.2 = .ok value ∧
        text = encodeBasestringAscii field.1 ++ (':' :: ' ' :: value)) texts fields := by
  induction fields generalizing texts with
  | nil =>
      cases h
      exact .nil
  | cons field fields ih =>
      rw [iterencodeDict] at h
      obtain ⟨value, hvalue, h⟩ := except_bind_eq_ok.mp h
      obtain ⟨others, hothers, h⟩ := except_bind_eq_ok.mp h
      cases h
      exact .cons ⟨value, hvalue, rfl⟩ (ih hothers)

/-- Lines are broken by blanks only. -/
theorem newlineIndent_blank (level : Nat) :
    ∀ c ∈ newlineIndent indent level, isWhitespace c = true := by
  intro c hc
  cases indent with
  | none => cases hc
  | some width =>
      rcases List.mem_cons.mp hc with rfl | hc
      · decide
      · rw [(List.mem_replicate.mp hc).2]
        decide

theorem afterSeparator_blank (level : Nat) :
    ∀ c ∈ afterSeparator indent level, isWhitespace c = true := by
  cases indent with
  | none =>
      intro c hc
      rw [List.mem_singleton.mp hc]
      decide
  | some width =>
      show ∀ c ∈ newlineIndent (some width) level, isWhitespace c = true
      exact newlineIndent_blank level

/-- A key and the text of a value are a member. -/
theorem member_text {key : String} {text : List Char} {value : Json}
    (h : ValueText nearestFloat text value) :
    MemberText nearestFloat (encodeBasestringAscii key ++ (':' :: ' ' :: text)) (key, value) := by
  refine ⟨key.toList, key.toList.flatMap escapeChar ++ ['"'], [], [' '], text, ?_,
    (String.ofList_toList).symm, stringText_encode key, by simp, ?_, h⟩
  · simp [encodeBasestringAscii]
  · intro char hchar
    rw [List.mem_singleton.mp hchar]
    decide

/-- What is written for a value is its text, at every level and with every indentation. -/
theorem iterencode_value_text (hfloats : FloatsFaithful nearestFloat floatRepr) {value : Json}
    (hvalue : Loadable nearestFloat value) {level : Nat} {text : List Char}
    (h : iterencode floatRepr indent level value = .ok text) :
    ValueText nearestFloat text value := by
  induction hvalue generalizing level text with
  | null =>
      rw [iterencode] at h
      cases h
      have hliteral : ("null".toList, Json.null) ∈ literals := by decide
      exact literal_value hliteral
  | bool value =>
      cases value with
      | false =>
          rw [iterencode] at h
          cases h
          have hliteral : ("false".toList, Json.bool false) ∈ literals := by decide
          exact literal_value hliteral
      | true =>
          rw [iterencode] at h
          cases h
          have hliteral : ("true".toList, Json.bool true) ∈ literals := by decide
          exact literal_value hliteral
  | int _ =>
      rw [iterencode] at h
      exact int_text_value h
  | float hfloat =>
      rw [iterencode] at h
      cases h
      exact parsed_value (hfloats.chars _ _ hfloat) (hfloats.reads _ _ hfloat)
  | str string =>
      rw [iterencode] at h
      cases h
      have hvalue : ValueText nearestFloat _ _ := (stringText_encode string).value
      rwa [String.ofList_toList] at hvalue
  | @arr items _ ih =>
      rw [iterencode] at h
      cases htexts : iterencodeList floatRepr indent (level + 1) items with
      | error e =>
          rw [htexts] at h
          cases h
      | ok texts =>
          rw [htexts] at h
          cases h
          have hvalues : List.Forall₂ (ValueText nearestFloat) texts items :=
            List.forall₂_iff_zip.mpr ⟨(iterencode_list_ok htexts).length_eq, fun hmem =>
              ih _ (List.of_mem_zip hmem).2
                ((List.forall₂_iff_zip.mp (iterencode_list_ok htexts)).2 hmem)⟩
          have hform : ItemsText isWhitespace (ValueText nearestFloat) ',' ']'
              (enclose indent ']' level texts) items :=
            itemsText_written (newlineIndent_blank _) (afterSeparator_blank _)
              (newlineIndent_blank _) (fun _ _ => ValueText.not_closing) hvalues
          exact array_value hform
  | @obj fields hkeys _ ih =>
      rw [iterencode] at h
      cases htexts : iterencodeDict floatRepr indent (level + 1) fields with
      | error e =>
          rw [htexts] at h
          cases h
      | ok texts =>
          rw [htexts] at h
          cases h
          have hmembers : List.Forall₂ (MemberText nearestFloat) texts fields := by
            refine List.forall₂_iff_zip.mpr ⟨(iterencode_dict_ok htexts).length_eq, ?_⟩
            rintro text ⟨key, value⟩ hmem
            obtain ⟨valueText, hvalue, rfl⟩ :=
              (List.forall₂_iff_zip.mp (iterencode_dict_ok htexts)).2 hmem
            exact member_text (ih _ (List.of_mem_zip hmem).2 hvalue)
          have hform : ItemsText isWhitespace (MemberText nearestFloat) ',' '}'
              (enclose indent '}' level texts) fields := by
            refine itemsText_written (newlineIndent_blank _) (afterSeparator_blank _)
              (newlineIndent_blank _) ?_ hmembers
            rintro _ _ ⟨_, _, _, _, _, rfl, _⟩
            simp
          have hobject := object_value hform
          rwa [Dict.entries_ofList hkeys] at hobject

/-- The items of an array can be written if each of them can. -/
theorem iterencode_list_total {level : Nat} {items : List Json}
    (h : ∀ item ∈ items, ∃ text, iterencode floatRepr indent level item = .ok text) :
    ∃ texts, iterencodeList floatRepr indent level items = .ok texts := by
  induction items with
  | nil => exact ⟨[], rfl⟩
  | cons item items ih =>
      rw [List.forall_mem_cons] at h
      obtain ⟨text, htext⟩ := h.1
      obtain ⟨texts, htexts⟩ := ih h.2
      exact ⟨text :: texts, by rw [iterencodeList, htext, htexts]; rfl⟩

/-- The members of an object can be written if the value of each can. -/
theorem iterencode_dict_total {level : Nat} {fields : List (String × Json)}
    (h : ∀ field ∈ fields, ∃ text, iterencode floatRepr indent level field.2 = .ok text) :
    ∃ texts, iterencodeDict floatRepr indent level fields = .ok texts := by
  induction fields with
  | nil => exact ⟨[], rfl⟩
  | cons field fields ih =>
      rw [List.forall_mem_cons] at h
      obtain ⟨text, htext⟩ := h.1
      obtain ⟨texts, htexts⟩ := ih h.2
      exact ⟨_, by rw [iterencodeDict, htext, htexts]; rfl⟩

/-- A loadable value can be written at every level. -/
theorem iterencode_total {value : Json} (h : Loadable nearestFloat value) (level : Nat) :
    ∃ text, iterencode floatRepr indent level value = .ok text := by
  induction h generalizing level with
  | null | str _ | float _ => exact ⟨_, by rw [iterencode]⟩
  | bool value => cases value <;> exact ⟨_, by rw [iterencode]⟩
  | int hshort =>
      rw [iterencode, intRepr, if_neg (by omega)]
      exact ⟨_, rfl⟩
  | arr _ ih =>
      obtain ⟨texts, htexts⟩ := iterencode_list_total fun item hitem => ih item hitem (level + 1)
      exact ⟨_, by rw [iterencode, htexts]; rfl⟩
  | obj _ _ ih =>
      obtain ⟨texts, htexts⟩ :=
        iterencode_dict_total fun field hfield => ih field hfield (level + 1)
      exact ⟨_, by rw [iterencode, htexts]; rfl⟩

/-- A loadable value is written, and read from what is written for it. -/
theorem json_loads_dumps (hfloats : FloatsFaithful nearestFloat floatRepr) (indent : Option Nat)
    {value : Json} (h : Loadable nearestFloat value) :
    ∃ text, jsonDumps floatRepr indent value = .ok text ∧
      jsonLoads nearestFloat text = .ok value := by
  obtain ⟨text, htext⟩ := iterencode_total h 0
  exact ⟨text, htext, json_loads_ok_iff.mpr ⟨[], text, [], by simp, by simp,
    iterencode_value_text hfloats h htext, by simp⟩⟩

/-! ## Values that are read -/

/-- As many digits make a number below that power of ten. -/
theorem natOf_lt {digits : List Char} (h : ∀ c ∈ digits, c.isDigit = true) :
    natOf digits < 10 ^ digits.length := by
  have hbound : ∀ (digits : List Char) (init : Nat), (∀ c ∈ digits, c.isDigit = true) →
      digits.foldl (fun value c => 10 * value + (c.toNat - '0'.toNat)) init <
        (init + 1) * 10 ^ digits.length := by
    intro digits
    induction digits with
    | nil => intro init _; simp
    | cons c digits ih =>
        intro init h
        rw [List.forall_mem_cons] at h
        have hdigit : c.toNat - '0'.toNat ≤ 9 := by
          have hc := h.1
          simp only [Char.isDigit, Bool.and_eq_true, decide_eq_true_eq] at hc
          have hhigh : c.toNat ≤ 57 := hc.2
          have hzero : '0'.toNat = 48 := rfl
          omega
        have hrest := ih (10 * init + (c.toNat - '0'.toNat)) h.2
        rw [List.foldl_cons, List.length_cons, Nat.pow_succ']
        calc digits.foldl (fun value c => 10 * value + (c.toNat - '0'.toNat))
              (10 * init + (c.toNat - '0'.toNat))
            < (10 * init + (c.toNat - '0'.toNat) + 1) * 10 ^ digits.length := hrest
          _ ≤ (10 * init + 10) * 10 ^ digits.length := Nat.mul_le_mul_right _ (by omega)
          _ = (init + 1) * (10 * 10 ^ digits.length) := by
            rw [← Nat.mul_assoc, show (init + 1) * 10 = 10 * init + 10 by omega]
  have hdigits := hbound digits 0 h
  rwa [Nat.zero_add, Nat.one_mul] at hdigits

/-- A number that is read is an integer with few digits, or a float. -/
theorem parse_number_cases {run : List Char} {value : Json}
    (h : parseNumber nearestFloat run = some value) :
    (∃ negative digits, value = .int (signed negative (natOf digits)) ∧
      digits.length ≤ INT_MAX_STR_DIGITS ∧ digits ≠ [] ∧ ∀ c ∈ digits, c.isDigit = true) ∨
    ∃ mantissa exponent, value = .float (nearestFloat mantissa exponent).1
      (nearestFloat mantissa exponent).2 := by
  rw [parseNumber.eq_def] at h
  split at h
  rename_i negative body _
  dsimp only at h
  split at h
  · cases h
  · rename_i hinteger
    rw [Option.bind_eq_bind, Option.bind_eq_some_iff] at h
    obtain ⟨⟨fraction, rest⟩, -, h⟩ := h
    rw [Option.bind_eq_bind, Option.bind_eq_some_iff] at h
    obtain ⟨exponent, -, h⟩ := h
    split at h
    · split at h
      · rename_i hlength
        cases h
        exact .inl ⟨negative, _, rfl, hlength, fun hnil => hinteger (.inl hnil),
          fun c hc => List.mem_takeWhile_imp hc⟩
      · cases h
    · cases h
      exact .inr ⟨_, _, rfl⟩

/-- A number that is read is loadable. -/
theorem number_loadable (hfloats : FloatsFaithful nearestFloat floatRepr) {run : List Char}
    {value : Json} (h : parseNumber nearestFloat run = some value) :
    Loadable nearestFloat value := by
  rcases parse_number_cases h with ⟨negative, digits, rfl, hlength, hne, hdigits⟩ |
    ⟨mantissa, exponent, rfl⟩
  · have habs : (signed negative (natOf digits)).natAbs = natOf digits := by
      unfold signed
      split <;> simp
    have hpos : 0 < digits.length := List.length_pos_of_ne_nil hne
    have hshort : (Nat.toDigits 10 (natOf digits)).length ≤ digits.length :=
      (Nat.length_toDigits_le_iff (by decide) hpos).mpr (natOf_lt hdigits)
    exact .int (by rw [habs]; omega)
  · exact .float (hfloats.rounded _ _)

/-- The value of a member is scanned. -/
theorem scan_member_value {value : Scan Json} {member : String × Json}
    (h : scanMember value chars = some (member, rest)) :
    ∃ before, value before = some (member.2, rest) := by
  rw [scanMember, Option.bind_eq_bind, Option.bind_eq_some_iff] at h
  obtain ⟨afterQuote, -, h⟩ := h
  rw [Option.bind_eq_bind, Option.bind_eq_some_iff] at h
  obtain ⟨⟨key, afterKey⟩, -, h⟩ := h
  rw [Option.bind_eq_bind, Option.bind_eq_some_iff] at h
  obtain ⟨afterColon, -, h⟩ := h
  rw [Option.bind_eq_some_iff] at h
  obtain ⟨⟨json, last⟩, hjson, h⟩ := h
  cases h
  exact ⟨_, hjson⟩

/-- What is scanned is loadable. -/
theorem scan_once_loadable (hfloats : FloatsFaithful nearestFloat floatRepr) {fuel : Nat}
    {value : Json} (h : scanOnce nearestFloat fuel chars = some (value, rest)) :
    Loadable nearestFloat value := by
  -- On the fuel, as the scanner reads the values inside a value.
  induction fuel generalizing chars value rest with
  | zero => cases h
  | succ fuel ih =>
      cases chars with
      | nil => cases h
      | cons c chars =>
          rw [scanOnce] at h
          split_ifs at h
          · obtain ⟨⟨string, after⟩, -, heq⟩ := Option.map_eq_some_iff.mp h
            cases heq
            exact .str _
          · obtain ⟨⟨members, after⟩, hmembers, heq⟩ := Option.map_eq_some_iff.mp h
            cases heq
            have hsound : ∀ chars member rest,
                scanMember (scanOnce nearestFloat fuel) chars = some (member, rest) →
                ∃ text, chars = text ++ rest ∧ Loadable nearestFloat member.2 := by
              intro chars member rest hmember
              obtain ⟨text, htext, -⟩ := scan_member_sound (fun _ _ _ => scan_once_sound) hmember
              obtain ⟨before, hvalue⟩ := scan_member_value hmember
              exact ⟨text, htext, ih hvalue⟩
            obtain ⟨text, -, hform⟩ := items_sound hsound hmembers
            have hmember : ∀ member ∈ members, Loadable nearestFloat member.2 :=
              hform.forall_values fun _ _ hmember => hmember
            refine .obj (Dict.ofList members).nodupKeys fun field hfield => ?_
            exact hmember _ (Dict.mem_of_get?_ofList (Dict.mem_entries_iff.mp hfield))
          · obtain ⟨⟨values, after⟩, hvalues, heq⟩ := Option.map_eq_some_iff.mp h
            cases heq
            have hsound : ∀ chars item rest, scanOnce nearestFloat fuel chars = some (item, rest) →
                ∃ text, chars = text ++ rest ∧ Loadable nearestFloat item := by
              intro chars item rest hitem
              obtain ⟨text, htext, -⟩ := scan_once_sound hitem
              exact ⟨text, htext, ih hitem⟩
            obtain ⟨text, -, hform⟩ := items_sound hsound hvalues
            exact .arr (hform.forall_values fun _ _ hitem => hitem)
          · rcases Option.or_eq_some_iff.mp h with hliteral | ⟨-, hnumber⟩
            · obtain ⟨literal, hmem, rfl, -⟩ := scan_literal_sound hliteral
              simp only [literals, List.mem_cons, List.not_mem_nil, or_false] at hmem
              rcases hmem with rfl | rfl | rfl
              · exact .null
              · exact .bool true
              · exact .bool false
            · obtain ⟨number, hparse, heq⟩ := Option.map_eq_some_iff.mp hnumber
              cases heq
              exact number_loadable hfloats hparse

/-- What is read from a text is loadable. -/
theorem json_loads_loadable (hfloats : FloatsFaithful nearestFloat floatRepr) {text : List Char}
    {value : Json} (h : jsonLoads nearestFloat text = .ok value) : Loadable nearestFloat value := by
  obtain ⟨blanks, body, blanks', -, -, hform, -⟩ := json_loads_ok_iff.mp h
  have hscan := hform.reads body.length [] (Nat.le_refl _) (by simp [Delimited])
  exact scan_once_loadable hfloats hscan

end

/-! ## Exact decimals -/

/-- A number that is not rounded. -/
def exactFloat (mantissa exponent : Int) : Int × Int := (mantissa, exponent)

/-- The digits of an integer after its sign. -/
def decimalText (value : Int) : List Char :=
  let digits := Nat.toDigits 10 value.natAbs
  if value < 0 then '-' :: digits else digits

/-- A decimal with its exponent written out. -/
def exactRepr (mantissa exponent : Int) : List Char :=
  decimalText mantissa ++ 'e' :: decimalText exponent

theorem toDigits_isDigit {value : Nat} : ∀ c ∈ Nat.toDigits 10 value, c.isDigit = true :=
  fun _ hc => Nat.isDigit_of_mem_toDigits (by decide) (by decide) hc

theorem natOf_toDigits (value : Nat) : natOf (Nat.toDigits 10 value) = value :=
  Nat.ofDigitChars_ten_toDigits

theorem decimalText_numberChar {value : Int} : ∀ c ∈ decimalText value, isNumberChar c = true := by
  intro c hc
  unfold decimalText at hc
  split at hc
  · rcases List.mem_cons.mp hc with rfl | hc
    · decide
    · simp [isNumberChar, toDigits_isDigit c hc]
  · simp [isNumberChar, toDigits_isDigit c hc]

/-- An exponent is read as it was written. -/
theorem exponentOf_decimalText (value : Int) :
    exponentOf ('e' :: decimalText value) = some (some value) := by
  have hall : (Nat.toDigits 10 value.natAbs).all Char.isDigit = true :=
    List.all_eq_true.mpr toDigits_isDigit
  have hne : Nat.toDigits 10 value.natAbs ≠ [] := Nat.toDigits_ne_nil
  have hnat := natOf_toDigits value.natAbs
  unfold decimalText exponentOf
  generalize Nat.toDigits 10 value.natAbs = digits at hall hne hnat
  by_cases hneg : value < 0
  · simp only [if_pos hneg, true_or, hne, ne_eq, not_false_eq_true, hall, and_self, if_true, hnat,
      signed]
    congr 2
    omega
  · simp only [if_neg hneg]
    split
    · simp [Char.isDigit] at hall
    · simp [Char.isDigit] at hall
    · simp only [true_or, hne, ne_eq, not_false_eq_true, hall, and_self, if_true, hnat, signed]
      congr 2
      simp
      omega

/-- A decimal is read as it was written. -/
theorem parse_exactRepr (mantissa exponent : Int) :
    parseNumber exactFloat (exactRepr mantissa exponent) = some (.float mantissa exponent) := by
  have hall : ∀ c ∈ Nat.toDigits 10 mantissa.natAbs, c.isDigit = true := toDigits_isDigit
  have hne : Nat.toDigits 10 mantissa.natAbs ≠ [] := Nat.toDigits_ne_nil
  have hhead : (Nat.toDigits 10 mantissa.natAbs).head? = some '0' →
      Nat.toDigits 10 mantissa.natAbs = ['0'] := toDigits_head
  have hnat := natOf_toDigits mantissa.natAbs
  have hexponent := exponentOf_decimalText exponent
  unfold exactRepr
  generalize hrest : 'e' :: decimalText exponent = rest at hexponent
  have hfraction : fractionOf rest = some (none, rest) := by rw [← hrest]; rfl
  have hstop : rest.takeWhile Char.isDigit = [] := by rw [← hrest]; rfl
  have hdrop : rest.dropWhile Char.isDigit = rest := by rw [← hrest]; rfl
  unfold decimalText
  generalize Nat.toDigits 10 mantissa.natAbs = digits at hall hne hhead hnat
  have hzero : ¬ (digits = [] ∨ digits.head? = some '0' ∧ digits ≠ ['0']) := by tauto
  have htake : (digits ++ rest).takeWhile Char.isDigit = digits := by
    rw [List.takeWhile_append_of_pos hall, hstop, List.append_nil]
  have hleft : (digits ++ rest).dropWhile Char.isDigit = rest := by
    rw [List.dropWhile_append_of_pos hall, hdrop]
  unfold parseNumber
  by_cases hneg : mantissa < 0
  · simp only [if_pos hneg, List.cons_append, htake, hleft, if_neg hzero, hfraction, hexponent,
      Option.bind_eq_bind, Option.bind_some, exactFloat, Option.getD_none, Option.getD_some,
      List.append_nil, hnat, signed, if_true, List.length_nil]
    congr 2
    · omega
    · simp
  · obtain ⟨first, others, rfl⟩ := List.exists_cons_of_ne_nil hne
    have hminus : first ≠ '-' := by
      rintro rfl
      exact absurd (hall '-' List.mem_cons_self) (by decide)
    simp only [if_neg hneg]
    rw [List.cons_append] at htake hleft ⊢
    split
    · rename_i hcons
      exact absurd (List.cons.inj hcons).1 hminus
    · simp only [htake, hleft, if_neg hzero, hfraction, hexponent, Option.bind_eq_bind,
        Option.bind_some, exactFloat, Option.getD_none, Option.getD_some, List.append_nil, hnat,
        signed, List.length_nil]
      congr 2
      · simp
        omega
      · simp

/-- Exact decimals are faithful. -/
theorem exact_floats_faithful : FloatsFaithful exactFloat exactRepr where
  rounded _ _ := rfl
  chars mantissa exponent _ c hc := by
    rcases List.mem_append.mp hc with hc | hc
    · exact decimalText_numberChar c hc
    · rcases List.mem_cons.mp hc with rfl | hc
      · decide
      · exact decimalText_numberChar c hc
  reads mantissa exponent _ := parse_exactRepr mantissa exponent

end JsonText

end AgentGraphStudio
