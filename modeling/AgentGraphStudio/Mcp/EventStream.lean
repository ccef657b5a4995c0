import AgentGraphStudio.Lib.Lines
import AgentGraphStudio.Mcp.OptionBindings
import AgentGraphStudio.Mcp.RemoteClient
import AgentGraphStudio.Schema.JsonText

/-!
# Bodies of the streamable transport

`_parse_streamable_http_body` of `backend/mcp/remote_client.py` on the bodies that carry a response:
as plain JSON, or as an event of a stream. The function reads the first line that starts with
`data:`, as `str.splitlines` breaks lines, and no other line of a stream. `parse_body_iff` says
when that is the response.
-/

namespace AgentGraphStudio

open Lines

/-! ## Bodies -/

section

variable (nearestFloat : Int → Int → Int × Int)

/-- Python with the JSON decoder and the blanks of its own library. -/
def Python.standard (python : Python) : Python :=
  { python with
    jsonLoads := fun text => JsonText.jsonLoads nearestFloat text.toList
    strip := fun text => String.ofList (stripSpace text.toList) }

/-- The fields of a message, if it is one. -/
def messageFields : Json → Option (List (String × Json))
  | .obj fields => if fields.lookup "jsonrpc" = some (.str "2.0") then some fields else none
  | _ => none

/-- A response has the id of its request, and a result or an error. -/
def isResponse (message : Json) : Bool :=
  match messageFields message with
  | none => false
  | some fields => (fields.lookup "id").isSome && (fields.lookup "method").isNone &&
      ((fields.lookup "result").isSome != (fields.lookup "error").isSome)

/-- A notification has a method and no id. -/
def isNotification (message : Json) : Bool :=
  match messageFields message with
  | none => false
  | some fields => (fields.lookup "method").isSome && (fields.lookup "id").isNone

/-- Does this character end a line of an event stream? -/
def isStreamBreak (c : Char) : Bool := c = '\n' ∨ c = '\r'

/-- The field that carries data. -/
def dataField : List Char := "data:".toList

/-- The data of a line, if it has some. One blank behind the colon is not part of it. -/
def dataOf (line : List Char) : Option (List Char) :=
  if line = "data".toList then some []
  else
    match afterPrefix dataField line with
    -- Event streams take one blank off, `str.strip` all of them.
    | some (' ' :: value) => some value
    | value => value

/-- The data of an event, if a line of it had some. -/
def dispatch (values : List (List Char)) : List (List Char) :=
  if values = [] then [] else [['\n'].intercalate values]

/-- The data of the events, the first of which has these values already. An empty line ends an
event, and so does the end of the stream. -/
def eventsFrom (values : List (List Char)) : List (List Char) → List (List Char)
  | [] => dispatch values
  | [] :: lines => dispatch values ++ eventsFrom [] lines
  | line :: lines => eventsFrom (values ++ (dataOf line).toList) lines

/-- The data of the events of a stream. -/
def eventData (text : List Char) : List (List Char) :=
  eventsFrom [] (linesFrom isStreamBreak [] text)

/-- The bodies that carry a response. -/
inductive Carries (text : String) (response : Json) : Prop where
  | bare (hresponse : isResponse response = true)
      (htext : JsonText.jsonLoads nearestFloat text.toList = .ok response)
  | eventStream (before after : List Json) (hresponse : isResponse response = true)
      (hnotifications : ∀ message ∈ before ++ after, isNotification message = true)
      (hevents : (eventData text.toList).map (JsonText.jsonLoads nearestFloat) =
        (before ++ response :: after).map .ok)

/-- The first line with data, as `str.splitlines` breaks lines. -/
def firstDataLine (text : String) : Option (List Char) :=
  findLine dataField (linesFrom isLineBreak [] text.toList)

/-- Where a line has data, the first such line has the whole of the first event, up to blanks, and
this event is the response's. -/
def TakenWhole (text : String) (response : Json) : Prop :=
  ∀ line, firstDataLine text = some line → ∃ data, (eventData text.toList).head? = some data ∧
    JsonText.jsonLoads nearestFloat data = .ok response ∧
    stripSpace data = stripSpace (line.drop dataField.length)

/-- Data stands behind a line break that event streams do not know. -/
def StrayData (text : String) : Prop := Stray isLineBreak isStreamBreak dataField text.toList

end

/-! ## Blanks -/

section

variable {text before body after : List Char}

theorem strip_surrounded (hbefore : ∀ c ∈ before, isSpace c = true)
    (hafter : ∀ c ∈ after, isSpace c = true) :
    stripSpace (before ++ (body ++ after)) = stripSpace body := by
  have hreverse : ∀ c ∈ after.reverse, isSpace c = true := fun c hc =>
    hafter c (List.mem_reverse.mp hc)
  rw [stripSpace, stripSpace, List.dropWhile_append_of_pos hbefore, List.dropWhile_append]
  by_cases hbody : (body.dropWhile isSpace).isEmpty = true
  · rw [if_pos hbody, List.dropWhile_eq_nil_iff.mpr hafter, List.isEmpty_iff.mp hbody]
  · rw [if_neg hbody, List.reverse_append, List.dropWhile_append_of_pos hreverse]

/-- A text is what is left of it, with blanks around. -/
theorem exists_strip (text : List Char) :
    ∃ before after, (∀ c ∈ before, isSpace c = true) ∧ (∀ c ∈ after, isSpace c = true) ∧
      text = before ++ (stripSpace text ++ after) := by
  refine ⟨text.takeWhile isSpace, ((text.dropWhile isSpace).reverse.takeWhile isSpace).reverse,
    fun _ hc => List.mem_takeWhile_imp hc,
    fun _ hc => List.mem_takeWhile_imp (List.mem_reverse.mp hc), ?_⟩
  rw [stripSpace, ← List.reverse_append, List.takeWhile_append_dropWhile, List.reverse_reverse,
    List.takeWhile_append_dropWhile]

theorem strip_strip (text : List Char) : stripSpace (stripSpace text) = stripSpace text := by
  obtain ⟨before, after, hbefore, hafter, htext⟩ := exists_strip text
  conv_rhs => rw [htext, strip_surrounded hbefore hafter]

theorem JsonText.Visible.not_space {c : Char} (h : JsonText.Visible c) : isSpace c = false := by
  obtain ⟨hlow, hhigh⟩ := h
  simp only [isSpace, Bool.or_eq_false_iff, Bool.and_eq_false_iff, decide_eq_false_iff_not,
    beq_eq_false_iff_ne]
  omega

theorem space_of_whitespace {c : Char} (h : JsonText.isWhitespace c = true) :
    isSpace c = true := by
  simp only [JsonText.isWhitespace, decide_eq_true_eq] at h
  rcases h with rfl | rfl | rfl | rfl <;> decide

theorem space_of_lineBreak {c : Char} (h : isLineBreak c = true) : isSpace c = true := by
  simp only [isLineBreak, List.mem_cons, List.not_mem_nil, or_false, decide_eq_true_eq] at h
  simp only [isSpace, Bool.or_eq_true, Bool.and_eq_true, decide_eq_true_eq, beq_iff_eq]
  omega

/-- No blank is a part of a number. -/
theorem number_not_space {c : Char} (h : isSpace c = true) : JsonText.isNumberChar c = false := by
  cases hnumber : JsonText.isNumberChar c with
  | false => rfl
  | true =>
      rw [(JsonText.visible_of_number hnumber).not_space] at h
      cases h

section

variable {nearestFloat : Int → Int → Int × Int} {value : Json}

/-- The text of a value has no blanks around it. -/
theorem strip_value (h : JsonText.ValueText nearestFloat text value) : stripSpace text = text := by
  obtain ⟨first, tail, hfirst, hvisible⟩ := h.starts
  obtain ⟨body, last, hlast, hvisible'⟩ := h.ends
  have hdrop : text.dropWhile isSpace = text := by
    rw [hfirst, List.dropWhile_cons_of_neg (by simp [hvisible.not_space])]
  rw [stripSpace, hdrop, hlast, List.reverse_append, List.reverse_singleton, List.singleton_append,
    List.dropWhile_cons_of_neg (by simp [hvisible'.not_space]), List.reverse_cons,
    List.reverse_reverse]

/-- A text with a value is the text of the value without its blanks. -/
theorem strip_of_json_loads (h : JsonText.jsonLoads nearestFloat text = .ok value) :
    JsonText.ValueText nearestFloat (stripSpace text) value := by
  obtain ⟨blanks, body, blanks', rfl, hblanks, hform, hblanks'⟩ := JsonText.json_loads_ok_iff.mp h
  rwa [strip_surrounded (fun c hc => space_of_whitespace (hblanks c hc))
    (fun c hc => space_of_whitespace (hblanks' c hc)), strip_value hform]

/-- Blanks are no value. -/
theorem json_loads_spaces (htext : ∀ c ∈ text, isSpace c = true) :
    JsonText.jsonLoads nearestFloat text ≠ .ok value := by
  intro h
  obtain ⟨blanks, body, blanks', rfl, -, hform, -⟩ := JsonText.json_loads_ok_iff.mp h
  obtain ⟨first, tail, rfl, hvisible⟩ := hform.starts
  have hspace := htext first (by simp)
  rw [hvisible.not_space] at hspace
  cases hspace

/-- The text of a value has this value. -/
theorem json_loads_value (h : JsonText.ValueText nearestFloat text value) :
    JsonText.jsonLoads nearestFloat text = .ok value :=
  JsonText.json_loads_ok_iff.mpr ⟨[], text, [], by simp, fun _ hc => (by cases hc), h,
    fun _ hc => (by cases hc)⟩

/-- Where a text and a piece of it with only blanks before it have values, the piece is all of the
text but blanks. -/
theorem whole_of_values {other : Json} (hbefore : ∀ c ∈ before, isSpace c = true)
    (hafter : ∀ c ∈ after.head?, isSpace c = true)
    (hbody : JsonText.jsonLoads nearestFloat (stripSpace body) = .ok value)
    (htext : JsonText.jsonLoads nearestFloat (before ++ (body ++ after)) = .ok other) :
    other = value ∧ stripSpace (before ++ (body ++ after)) = stripSpace body := by
  obtain ⟨left, right, hleft, hright, hsplit⟩ := exists_strip body
  have hform := strip_of_json_loads hbody
  rw [strip_strip] at hform
  have hsurrounded : before ++ (body ++ after) =
      (before ++ left) ++ (stripSpace body ++ (right ++ after)) := by
    conv_lhs => rw [hsplit]
    simp only [List.append_assoc]
  have hspaces : ∀ c ∈ before ++ left, isSpace c = true := fun c hc =>
    (List.mem_append.mp hc).elim (hbefore c) (hleft c)
  have hinvisible : ∀ c ∈ before ++ left, ¬ JsonText.Visible c := fun c hc hvisible => by
    have hspace := hspaces c hc
    rw [hvisible.not_space] at hspace
    cases hspace
  have hdelimited : JsonText.Delimited (right ++ after) := by
    intro c hc
    cases right with
    | nil => exact number_not_space (hafter c hc)
    | cons head right =>
        cases hc
        exact number_not_space (hright _ List.mem_cons_self)
  rw [hsurrounded] at htext ⊢
  obtain ⟨hvalue, -, hwhite⟩ := JsonText.json_loads_append hinvisible hform hdelimited htext
  rw [strip_surrounded hspaces fun c hc => space_of_whitespace (hwhite c hc), strip_strip]
  exact ⟨hvalue, rfl⟩

end

end

/-! ## Events -/

section

variable {values lines : List (List Char)} {line : List Char}

/-- An event whose lines had data is dispatched with it. -/
theorem events_from_open (hvalues : values ≠ []) (lines : List (List Char)) :
    ∃ more others, eventsFrom values lines = ['\n'].intercalate (values ++ more) :: others := by
  fun_induction eventsFrom values lines with
  | case1 values => exact ⟨[], [], by rw [dispatch, if_neg hvalues, List.append_nil]⟩
  | case2 values lines ih =>
      exact ⟨[], _, by rw [dispatch, if_neg hvalues, List.append_nil, List.singleton_append]⟩
  | case3 values line lines _ ih =>
      obtain ⟨more, others, hmore⟩ := ih fun h => hvalues (List.append_eq_nil_iff.mp h).1
      exact ⟨_, others, by rw [hmore, List.append_assoc]⟩

/-- Data from empty values begins with line feeds. -/
theorem intercalate_blank (hvalues : ∀ value ∈ values, value = []) (value : List Char)
    (more : List (List Char)) :
    ∃ feeds rest, ['\n'].intercalate (values ++ value :: more) = feeds ++ (value ++ rest) ∧
      (∀ c ∈ feeds, c = '\n') ∧ ∀ c ∈ rest.head?, c = '\n' := by
  induction values with
  | nil =>
      cases more with
      | nil => exact ⟨[], [], by simp, fun _ hc => (by cases hc), fun _ hc => (by cases hc)⟩
      | cons next more =>
          refine ⟨[], '\n' :: ['\n'].intercalate (next :: more), ?_, fun _ hc => (by cases hc), ?_⟩
          · rw [List.nil_append, List.intercalate_cons_cons]
            simp
          · rintro c ⟨⟩
            rfl
  | cons first values ih =>
      obtain ⟨feeds, rest, hrest, hfeeds, hhead⟩ :=
        ih fun value hvalue => hvalues value (List.mem_cons_of_mem _ hvalue)
      refine ⟨'\n' :: feeds, rest, ?_, ?_, hhead⟩
      · rw [List.cons_append, List.intercalate_cons_of_ne_nil (by simp), hrest,
          hvalues first List.mem_cons_self]
        simp
      · rintro c (_ | ⟨_, hc⟩)
        · rfl
        · exact hfeeds c hc

theorem afterPrefix_eq_some_iff {start text rest : List Char} :
    afterPrefix start text = some rest ↔ text = start ++ rest := by
  fun_induction afterPrefix start text with
  | case1 text => exact ⟨fun h => Option.some.inj h, fun h => congrArg some h⟩
  | case2 => exact ⟨fun h => (by cases h), fun h => (by cases h)⟩
  | case3 char start text ih =>
      rw [ih, List.cons_append, List.cons.injEq]
      exact ⟨fun h => ⟨rfl, h⟩, And.right⟩
  | case4 char start other text hne =>
      rw [List.cons_append, List.cons.injEq]
      exact ⟨fun h => (by cases h), fun h => absurd h.1.symm hne⟩

/-- A data field has the data behind the colon, up to a blank. -/
theorem dataOf_field (value : List Char) :
    ∃ lead data, (∀ c ∈ lead, c = ' ') ∧ value = lead ++ data ∧
      dataOf (dataField ++ value) = some data := by
  have hafter : afterPrefix dataField (dataField ++ value) = some value :=
    afterPrefix_eq_some_iff.mpr rfl
  rw [dataOf, if_neg (by intro h; cases h), hafter]
  by_cases hblank : ∃ data, value = ' ' :: data
  · obtain ⟨data, rfl⟩ := hblank
    exact ⟨[' '], data, fun c hc => List.mem_singleton.mp hc, rfl, rfl⟩
  · refine ⟨[], value, fun _ hc => (by cases hc), rfl, ?_⟩
    split
    · next data heq => exact absurd ⟨data, Option.some.inj heq⟩ hblank
    · rfl

/-- A line that does not start with the data field has no data, or empty data. -/
theorem dataOf_other (h : ¬ dataField <+: line) : ∀ value ∈ dataOf line, value = [] := by
  intro value hvalue
  rw [dataOf] at hvalue
  by_cases hdata : line = "data".toList
  · rw [if_pos hdata] at hvalue
    exact (Option.some.inj hvalue).symm
  · have hnone : afterPrefix dataField line = none := by
      cases hafter : afterPrefix dataField line with
      | none => rfl
      | some rest => exact absurd ⟨rest, (afterPrefix_eq_some_iff.mp hafter).symm⟩ h
    rw [if_neg hdata, hnone] at hvalue
    cases hvalue

/-- An event with empty values has only line feeds for data. -/
theorem dispatch_blank (hvalues : ∀ value ∈ values, value = []) :
    ∀ data ∈ dispatch values, ∀ c ∈ data, c = '\n' := by
  have hfeeds : ∀ c ∈ ['\n'].intercalate values, c = '\n' := by
    induction values with
    | nil =>
        intro c hc
        cases hc
    | cons value values ih =>
        have hvalue := hvalues value List.mem_cons_self
        by_cases hempty : values = []
        · intro c hc
          rw [hempty, List.intercalate_singleton, hvalue] at hc
          cases hc
        · rw [List.intercalate_cons_of_ne_nil hempty, hvalue, List.nil_append]
          rintro c (_ | ⟨_, hc⟩)
          · rfl
          · exact ih (fun value hvalue => hvalues value (List.mem_cons_of_mem _ hvalue)) c hc
  intro data hdata
  rw [dispatch] at hdata
  by_cases hempty : values = []
  · rw [if_pos hempty] at hdata
    cases hdata
  · rw [if_neg hempty, List.mem_singleton] at hdata
    rwa [hdata]

theorem values_blank (hvalues : ∀ value ∈ values, value = []) (h : ¬ dataField <+: line) :
    ∀ value ∈ values ++ (dataOf line).toList, value = [] := fun value hvalue =>
  (List.mem_append.mp hvalue).elim (hvalues value) fun hdata =>
    dataOf_other h value (Option.mem_toList.mp hdata)

theorem not_field_nil : ¬ dataField <+: [] := fun h => by cases List.prefix_nil.mp h

/-- Without a line that has the data field, events have only line feeds for data. -/
theorem events_without_field (hvalues : ∀ value ∈ values, value = [])
    (hlines : findLine dataField lines = none) :
    ∀ data ∈ eventsFrom values lines, ∀ c ∈ data, c = '\n' := by
  fun_induction eventsFrom values lines with
  | case1 values => exact dispatch_blank hvalues
  | case2 values lines ih =>
      rw [find_line_cons, if_neg not_field_nil] at hlines
      exact fun data hdata => (List.mem_append.mp hdata).elim (dispatch_blank hvalues data)
        (ih (fun value hvalue => by cases hvalue) hlines data)
  | case3 values line lines _ ih =>
      rw [find_line_cons] at hlines
      by_cases hfield : dataField <+: line
      · rw [if_pos hfield] at hlines
        cases hlines
      · rw [if_neg hfield] at hlines
        exact ih (values_blank hvalues hfield) hlines

/-- The first line with the data field is in the first event, unless an event before it has only
line feeds for data. -/
theorem first_event (hvalues : ∀ value ∈ values, value = [])
    (hlines : findLine dataField lines = some line) :
    (∃ data ∈ eventsFrom values lines, ∀ c ∈ data, c = '\n') ∨
      ∃ value feeds rest, dataOf line = some value ∧ (∀ c ∈ feeds, c = '\n') ∧
        (∀ c ∈ rest.head?, c = '\n') ∧
        (eventsFrom values lines).head? = some (feeds ++ (value ++ rest)) := by
  fun_induction eventsFrom values lines with
  | case1 values => cases hlines
  | case2 values lines ih =>
      rw [find_line_cons, if_neg not_field_nil] at hlines
      by_cases hempty : values = []
      · rw [dispatch, if_pos hempty, List.nil_append]
        exact ih (fun value hvalue => by cases hvalue) hlines
      -- An event of empty data lines comes first.
      · have hdispatch : ['\n'].intercalate values ∈ dispatch values := by
          rw [dispatch, if_neg hempty]
          exact List.mem_singleton_self _
        exact .inl ⟨_, List.mem_append_left _ hdispatch, dispatch_blank hvalues _ hdispatch⟩
  | case3 values first lines _ ih =>
      rw [find_line_cons] at hlines
      by_cases hfield : dataField <+: first
      · rw [if_pos hfield] at hlines
        cases hlines
        obtain ⟨value, rfl⟩ := hfield
        obtain ⟨_, data, -, -, hdata⟩ := dataOf_field value
        have hopen : values ++ (dataOf (dataField ++ value)).toList = values ++ [data] := by
          rw [hdata]
          rfl
        obtain ⟨more, others, hevents⟩ := events_from_open
          (List.append_ne_nil_of_right_ne_nil values (List.cons_ne_nil data [])) lines
        obtain ⟨feeds, rest, hblank, hfeeds, hrest⟩ := intercalate_blank hvalues data more
        rw [List.append_assoc, List.singleton_append, hblank] at hevents
        exact .inr ⟨data, feeds, rest, hdata, hfeeds, hrest, by rw [hopen, hevents]; rfl⟩
      · rw [if_neg hfield] at hlines
        exact ih (values_blank hvalues hfield) hlines

end

/-! ## What the function reads -/

/-- The text that is decoded. -/
def payload (text : String) : List Char :=
  match firstDataLine text with
  | some line => stripSpace (line.drop dataField.length)
  | none => text.toList

theorem splitlines_from (current text : List Char) :
    splitlinesFrom current text = (linesFrom isLineBreak current text).map String.ofList := by
  fun_induction splitlinesFrom current text with
  | case1 => rfl
  | case2 current h => rw [linesFrom, if_neg h, List.map_singleton]
  | case3 current rest ih => rw [linesFrom, List.map_cons, ih]
  | case4 current char rest hcrlf hbreak ih =>
      rw [lines_from_cons hcrlf, if_pos hbreak, List.map_cons, ih]
  | case5 current char rest hcrlf hbreak ih => rw [lines_from_cons hcrlf, if_neg hbreak, ih]

theorem starts_with_data (line : List Char) :
    "data:".isPrefixOf (String.ofList line) = dataField.isPrefixOf line := by
  have hline : (String.ofList line).toList = line := String.toList_ofList
  rw [Bool.eq_iff_iff, List.isPrefixOf_iff_prefix, String.isPrefixOf, String.startsWith_string_iff,
    hline]
  rfl

theorem find_data_line (text : String) :
    (splitlines text).find? ("data:".isPrefixOf ·) = (firstDataLine text).map String.ofList := by
  rw [splitlines, splitlines_from, List.find?_map, firstDataLine, findLine]
  congr 2
  funext line
  exact starts_with_data line

theorem parse_body_eq (nearestFloat : Int → Int → Int × Int) (python : Python) (text : String) :
    parseStreamableHttpBody (python.standard nearestFloat) text =
      (JsonText.jsonLoads nearestFloat (payload text)).mapError .exception := by
  rw [parseStreamableHttpBody, find_data_line, payload]
  cases firstDataLine text with
  | none => rfl
  | some line =>
      have hdrop : ((String.ofList line).drop "data:".length).toString.toList =
          line.drop dataField.length := by
        rw [String.Slice.toString_eq, String.toList_copy_drop, String.toList_ofList]
        rfl
      simp only [Option.map_some, Python.standard, String.toList_ofList, hdrop]

section

variable {nearestFloat : Int → Int → Int × Int} {text : String} {response : Json}

theorem parse_body_ok_iff (python : Python) :
    parseStreamableHttpBody (python.standard nearestFloat) text = .ok response ↔
      JsonText.jsonLoads nearestFloat (payload text) = .ok response := by
  rw [parse_body_eq]
  cases JsonText.jsonLoads nearestFloat (payload text) with
  | error message => exact ⟨fun h => (by cases h), fun h => (by cases h)⟩
  | ok value => exact ⟨fun h => (by cases h; rfl), fun h => (by cases h; rfl)⟩

/-- The data of every event of a stream is a message. -/
theorem event_value {messages : List Json}
    (hevents : (eventData text.toList).map (JsonText.jsonLoads nearestFloat) =
      messages.map .ok) {data : List Char} (hdata : data ∈ eventData text.toList) :
    ∃ message, JsonText.jsonLoads nearestFloat data = .ok message := by
  have hmem := List.mem_map_of_mem (f := JsonText.jsonLoads nearestFloat) hdata
  rw [hevents] at hmem
  obtain ⟨message, -, hmessage⟩ := List.mem_map.mp hmem
  exact ⟨message, hmessage.symm⟩

theorem space_of_feed {c : Char} (h : c = '\n') : isSpace c = true := by
  rw [h]
  rfl

theorem dataField_unbroken : ∀ c ∈ dataField, isLineBreak c = false := by
  intro c hc
  have hletters : c ∈ ['d', 'a', 't', 'a', ':'] := hc
  simp only [List.mem_cons, List.not_mem_nil, or_false] at hletters
  rcases hletters with rfl | rfl | rfl | rfl | rfl <;> rfl

/-- A data line of a stream is one for `str.splitlines` too, cut off at the first break that the
stream does not know, unless there is stray data. -/
theorem firstDataLine_matches (text : String) :
    Matches isLineBreak isStreamBreak dataField text.toList (firstDataLine text)
      (findLine dataField (linesFrom isStreamBreak [] text.toList)) := by
  refine find_line (List.cons_ne_nil _ _) dataField_unbroken (fun c hc => ?_) text.toList
  simp only [isStreamBreak, decide_eq_true_eq] at hc
  rcases hc with rfl | rfl <;> rfl

/-- A stream with an event has a line with data. -/
theorem stream_has_dataLine {messages : List Json} (hmessages : messages ≠ [])
    (hevents : (eventData text.toList).map (JsonText.jsonLoads nearestFloat) =
      messages.map .ok) : firstDataLine text ≠ none := by
  intro hnone
  have hlines : findLine dataField (linesFrom isStreamBreak [] text.toList) = none := by
    rcases firstDataLine_matches text with heq | ⟨-, hsome⟩
    · rw [hnone] at heq
      exact Option.map_eq_none_iff.mp heq.symm
    · rw [hnone] at hsome
      cases hsome
  have hne : eventData text.toList ≠ [] := by
    intro hnil
    rw [hnil] at hevents
    exact hmessages (List.map_eq_nil_iff.mp hevents.symm)
  obtain ⟨data, hdata⟩ := List.exists_mem_of_ne_nil _ hne
  obtain ⟨message, hmessage⟩ := event_value hevents hdata
  have hblank := events_without_field (fun _ h => by cases h) hlines data hdata
  exact json_loads_spaces (fun c hc => space_of_feed (hblank c hc)) hmessage

/-- The response is read where the first line with data has the whole of it. -/
theorem parse_of_takenWhole (h : Carries nearestFloat text response)
    (hwhole : TakenWhole nearestFloat text response) :
    JsonText.jsonLoads nearestFloat (payload text) = .ok response := by
  rw [payload]
  cases hline : firstDataLine text with
  | some line =>
      obtain ⟨data, -, hdata, hstrip⟩ := hwhole line hline
      dsimp only
      rw [← hstrip]
      exact json_loads_value (strip_of_json_loads hdata)
  | none =>
      cases h with
      | bare _ htext => exact htext
      | eventStream before after _ _ hevents =>
          exact absurd hline (stream_has_dataLine (by simp) hevents)

/-- What is read of a line with data. -/
theorem strip_cut {lead : List Char} (hlead : ∀ c ∈ lead, c = ' ') (data : List Char) :
    stripSpace (((dataField ++ (lead ++ data)).takeWhile fun c => !isLineBreak c).drop
      dataField.length) = stripSpace (data.takeWhile fun c => !isLineBreak c) := by
  have hunbroken : ∀ c ∈ lead, (!isLineBreak c) = true := fun c hc => by rw [hlead c hc]; rfl
  have hspaces : ∀ c ∈ lead, isSpace c = true := fun c hc => by rw [hlead c hc]; rfl
  have hstrip : stripSpace (lead ++ (data.takeWhile (fun c => !isLineBreak c) ++ [])) =
      stripSpace (data.takeWhile fun c => !isLineBreak c) :=
    strip_surrounded hspaces fun c hc => by cases hc
  have hfield : ∀ c ∈ dataField, (!isLineBreak c) = true := fun c hc => by
    rw [dataField_unbroken c hc]; rfl
  rw [List.takeWhile_append_of_pos hfield, List.drop_left, List.takeWhile_append_of_pos hunbroken]
  rwa [List.append_nil] at hstrip

/-- A response that is read from a stream without stray data was in the first line with data, as a
whole. -/
theorem takenWhole_of_parse {messages : List Json}
    (hevents : (eventData text.toList).map (JsonText.jsonLoads nearestFloat) =
      messages.map .ok) (hstray : ¬ StrayData text)
    (h : JsonText.jsonLoads nearestFloat (payload text) = .ok response) :
    TakenWhole nearestFloat text response := by
  intro line hline
  rcases firstDataLine_matches text with heq | ⟨hstray', -⟩
  · rw [hline] at heq
    obtain ⟨written, hwritten, rfl⟩ := Option.map_eq_some_iff.mp heq.symm
    obtain ⟨value, rfl⟩ := List.isPrefixOf_iff_prefix.mp (List.find?_some hwritten)
    obtain ⟨lead, data, hlead, rfl, hdata⟩ := dataOf_field value
    have hread := strip_cut hlead data
    rw [payload, hline] at h
    dsimp only at h
    rw [hread] at h
    have hvalue : ∀ event ∈ eventData text.toList,
        ∃ message, JsonText.jsonLoads nearestFloat event = .ok message :=
      fun event => event_value hevents
    -- The writer's line is in the first event, for an event of line feeds has no value.
    rcases @first_event [] _ _ (fun _ h => by cases h) hwritten with
      ⟨blank, hblank, hfeeds⟩ | ⟨_, feeds, rest, hfirst, hfeeds, hrest, hhead⟩
    · obtain ⟨message, hmessage⟩ := hvalue blank hblank
      exact absurd hmessage (json_loads_spaces fun c hc => space_of_feed (hfeeds c hc))
    · rw [hdata] at hfirst
      cases hfirst
      obtain ⟨message, hmessage⟩ := hvalue _ (List.mem_of_mem_head? hhead)
      have hsplit : feeds ++ (data ++ rest) = feeds ++ (data.takeWhile (fun c => !isLineBreak c) ++
          (data.dropWhile (fun c => !isLineBreak c) ++ rest)) := by
        rw [← List.append_assoc (data.takeWhile _), List.takeWhile_append_dropWhile]
      have hafter : ∀ c ∈ (data.dropWhile (fun c => !isLineBreak c) ++ rest).head?,
          isSpace c = true := by
        intro c hc
        cases hdrop : data.dropWhile (fun c => !isLineBreak c) with
        | nil =>
            rw [hdrop, List.nil_append] at hc
            exact space_of_feed (hrest c hc)
        | cons head tail =>
            have hbreak := List.head?_dropWhile_not (fun c => !isLineBreak c) data
            rw [hdrop] at hc hbreak
            cases hc
            exact space_of_lineBreak (by simpa using hbreak)
      -- The first event goes on behind what is read, and both have values.
      rw [hsplit] at hmessage hhead
      obtain ⟨rfl, hwhole⟩ :=
        whole_of_values (fun c hc => space_of_feed (hfeeds c hc)) hafter h hmessage
      exact ⟨_, hhead, hmessage, by rw [hread, hwhole]⟩
  · exact absurd hstray' hstray

/-- No line of plain JSON is a data line, unless there is stray data. -/
theorem json_without_dataLine (htext : JsonText.jsonLoads nearestFloat text.toList = .ok response)
    (hstray : ¬ StrayData text) : firstDataLine text = none := by
  rcases firstDataLine_matches text with heq | ⟨hstray', -⟩
  · rw [heq, Option.map_eq_none_iff]
    by_contra hfound
    obtain ⟨line, hline⟩ := Option.ne_none_iff_exists'.mp hfound
    obtain ⟨value, rfl⟩ := List.isPrefixOf_iff_prefix.mp (List.find?_some hline)
    have hlines := JsonText.noDataLine_of_json_loads htext
    rw [JsonText.NoDataLine, List.isChain_iff_forall_rel_of_append_cons_cons] at hlines
    rcases line_start (List.mem_of_find?_eq_some hline) with
      ⟨_, ⟨tail, hstart⟩, rfl⟩ | ⟨char, tail, hchar, before, hbehind⟩
    · have hfirst : '\n' :: text.toList =
          [] ++ '\n' :: 'd' :: ("ata:".toList ++ value ++ tail) := by
        rw [← hstart]
        rfl
      exact hlines hfirst (.inl rfl) rfl
    · have hbreak : char = '\n' ∨ char = '\r' := hchar.elim .inl of_decide_eq_true
      have hlater : '\n' :: text.toList =
          ('\n' :: before) ++ char :: 'd' :: ("ata:".toList ++ value ++ tail) := by
        rw [← hbehind]
        rfl
      exact hlines hlater hbreak rfl
  · exact absurd hstray' hstray

end

/-- The response is read if the first line with data has the whole of it, and on bodies without
stray data only then. -/
theorem parse_body_iff (nearestFloat : Int → Int → Int × Int) (python : Python) {text : String}
    {response : Json} (h : Carries nearestFloat text response) :
    (TakenWhole nearestFloat text response →
      parseStreamableHttpBody (python.standard nearestFloat) text = .ok response) ∧
    (¬ StrayData text →
      parseStreamableHttpBody (python.standard nearestFloat) text = .ok response →
        TakenWhole nearestFloat text response) := by
  rw [parse_body_ok_iff]
  refine ⟨parse_of_takenWhole h, fun hstray hparse => ?_⟩
  cases h with
  | bare _ htext =>
      intro line hline
      rw [json_without_dataLine htext hstray] at hline
      cases hline
  | eventStream before after _ _ hevents => exact takenWhole_of_parse hevents hstray hparse

/-- A response to the call. -/
def toolsResponse : Json := .obj [("jsonrpc", .str "2.0"), ("id", .int 2), ("result", .obj [])]

def progressNotification : Json :=
  .obj [("jsonrpc", .str "2.0"), ("method", .str "notifications/progress")]

def responseEvent : String := "data: \x7b\"jsonrpc\":\"2.0\",\"id\":2,\"result\":\x7b\x7d\x7d\n\n"

def progressEvent : String :=
  "data: \x7b\"jsonrpc\":\"2.0\",\"method\":\"notifications/progress\"\x7d\n\n"

theorem lone_response_read :
    parseStreamableHttpBody (plainPython.standard fun mantissa exponent => (mantissa, exponent))
      responseEvent = .ok toolsResponse := by
  refine (parse_body_iff _ plainPython (.eventStream [] [] (by decide +kernel) ?_ ?_)).1 ?_
  · intro message hmessage
    cases hmessage
  · rfl
  · intro line hline
    have hfirst : firstDataLine responseEvent = some (responseEvent.toList.takeWhile (· ≠ '\n')) :=
      rfl
    rw [hfirst] at hline
    cases hline
    exact ⟨_, rfl, rfl, rfl⟩

/-- A notification in front of the response is returned. -/
theorem notification_returned : ¬ ∀ (nearestFloat : Int → Int → Int × Int) (python : Python)
    (text : String) (response : Json), Carries nearestFloat text response →
      parseStreamableHttpBody (python.standard nearestFloat) text = .ok response := by
  intro h
  have hread := h (fun mantissa exponent => (mantissa, exponent)) plainPython
    (progressEvent ++ responseEvent) toolsResponse
    (.eventStream [progressNotification] [] (by decide +kernel) (by decide +kernel) rfl)
  rw [parse_body_ok_iff] at hread
  have hfirst : JsonText.jsonLoads (fun mantissa exponent => (mantissa, exponent))
      (payload (progressEvent ++ responseEvent)) = .ok progressNotification := rfl
  rw [hfirst] at hread
  exact absurd (Except.ok.inj hread) (by decide +kernel)

end AgentGraphStudio
