import AgentGraphStudio.Connections.Dialects
import AgentGraphStudio.Nodes.AgentLoop
import Mathlib.Data.List.DropRight

/-!
# What a model hears of itself

In each turn an agent tells its model the conversation so far, or the end of it that its memory
keeps, in the dialect of the provider. `models_hear_themselves` compares what the provider reads
with what it has answered before: with Anthropic, OpenAI and Gemini the calls come back as they were
made, each with its result, and with Ollama no call comes back. How the providers read is an
assumption (`Providers`); `documentedProviders` meets it.
-/

namespace AgentGraphStudio

open JsonText

/-- The two directions of `complete_with_tools` for a provider, and how the provider reads its
requests and its own answers. -/
structure Dialect (Answer Wire : Type) where
  request : ModelSettings → List Message → List ToolDefinition → Except String Wire
  response : Answer → Except Raised ToolCallResponse
  read : Wire → Option ChatRequest
  asked : Answer → Option (List SpokenCall)
  answered : Answer → String

/-! ## Answers -/

/-- The calls of Anthropic, as it has made them. -/
def AnthropicAnswer.asked (answer : AnthropicAnswer) : List SpokenCall :=
  answer.content.filterMap fun
    | .toolUse id name input => some ⟨id, name, input, none⟩
    | _ => none

/-- A call of OpenAI: an empty text stands for no arguments. -/
def RawToolCall.asked (nearestFloat : Int → Int → Int × Int) (call : RawToolCall) :
    Option SpokenCall := do
  let arguments ← match call.arguments with
    | none | some "" => some (.obj [])
    | some text => (jsonLoads nearestFloat text.toList).toOption
  pure ⟨call.id, call.name, arguments, none⟩

/-- The calls of Gemini with their signatures. A call without an id is called by its place. -/
def GeminiAnswer.asked (answer : GeminiAnswer) : List SpokenCall :=
  answer.parts.zipIdx.filterMap fun (part, index) => part.functionCall.map fun call =>
    ⟨idOrIndex call.id index, call.name, .obj (call.args.getD .empty).entries,
      (part.thoughtSignature.filter (· ≠ "")).map .str⟩

/-- The calls of Ollama. A call without an id is called by its place. -/
def OllamaAnswer.asked (answer : OllamaAnswer) : List SpokenCall :=
  answer.toolCalls.zipIdx.map fun (call, index) =>
    ⟨idOrIndex call.id index, call.name, call.arguments, none⟩

/-- The dialect of Anthropic. -/
def anthropicDialect (read : Json → Option ChatRequest) : Dialect AnthropicAnswer Json where
  request settings messages tools := .ok (anthropicRequest settings messages tools)
  response answer := .ok (anthropicResponse answer)
  read
  asked answer := some answer.asked
  answered := AnthropicAnswer.text

/-- The dialect of OpenAI. -/
def openaiDialect (python : Python) (nearestFloat : Int → Int → Int × Int)
    (floatRepr : Int → Int → List Char) (read : Json → Option ChatRequest) :
    Dialect RawCompletion Json where
  request := openaiRequest floatRepr
  response := completionResponse python
  read
  asked answer := answer.toolCalls.mapM (RawToolCall.asked nearestFloat)
  answered answer := answer.content.getD ""

/-- The dialect of Gemini. -/
def geminiDialect (read : GeminiRequest → Option ChatRequest) :
    Dialect GeminiAnswer GeminiRequest where
  request := geminiRequest
  response answer := .ok (geminiResponse answer)
  read
  asked answer := some answer.asked
  answered answer := answer.text.getD ""

/-- An answer of Ollama, whose arguments are values that a text has. -/
abbrev ParsedOllamaAnswer (nearestFloat : Int → Int → Int × Int) :=
  { answer : OllamaAnswer // ∀ call ∈ answer.toolCalls, Loadable nearestFloat call.arguments }

/-- The dialect of Ollama. -/
def ollamaDialect (nearestFloat : Int → Int → Int × Int) (floatRepr : Int → Int → List Char)
    (read : List Char → Option ChatRequest) :
    Dialect (ParsedOllamaAnswer nearestFloat) (List Char) where
  request := ollamaRequest floatRepr
  response answer := .ok (ollamaResponse answer.val)
  read
  asked answer := some answer.val.asked
  answered answer := answer.val.content.getD ""

/-- A response says what was answered: the calls, or else the text. -/
structure SaysWhat (spoken : ToolCallRequest → SpokenCall) (response : ToolCallResponse)
    (calls : List SpokenCall) (text : String) : Prop where
  calls : response.toolCalls.map spoken = calls
  text : response.text = if response.toolCalls = [] then some text else none

/-- The answers of a provider are taken as what they say, and their calls can be sent back. -/
def Dialect.Understood {Answer Wire : Type} (dialect : Dialect Answer Wire)
    (admissible : ToolCallRequest → Prop) (spoken : ToolCallRequest → SpokenCall) : Prop :=
  ∀ answer response, dialect.response answer = .ok response →
    (∃ calls, dialect.asked answer = some calls ∧
      SaysWhat spoken response calls (dialect.answered answer)) ∧
    ∀ call ∈ response.toolCalls, admissible call

theorem anthropic_understood (read : Json → Option ChatRequest) :
    (anthropicDialect read).Understood (fun _ => True) ToolCallRequest.plain := by
  intro answer response h
  cases h
  refine ⟨⟨_, rfl, ?_, ?_⟩, fun _ _ => trivial⟩
  · show (answer.content.filterMap _).map _ = answer.content.filterMap _
    rw [List.map_filterMap]
    refine List.filterMap_congr fun block _ => ?_
    cases block <;> rfl
  · simp [anthropicResponse, anthropicDialect]

/-- The signature that was stored with a call. -/
theorem thoughtSignature_of_metadata {call : ToolCallRequest} {signature : Option String}
    (h : call.metadata = signature.map fun signature =>
      .ofList [("thought_signature", .str signature)]) :
    call.thoughtSignature = signature.map .str := by
  cases signature with
  | none => simp [ToolCallRequest.thoughtSignature, h]
  | some signature => simp [ToolCallRequest.thoughtSignature, h, Dict.get?_ofList, Option.filter]

theorem gemini_understood (read : GeminiRequest → Option ChatRequest) :
    (geminiDialect read).Understood ToolCallRequest.Keyed ToolCallRequest.signed := by
  intro answer response h
  cases h
  refine ⟨⟨_, rfl, ?_, ?_⟩, fun call hcall => ?_⟩
  · show (answer.parts.zipIdx.filterMap _).map _ = answer.parts.zipIdx.filterMap _
    rw [List.map_filterMap]
    refine List.filterMap_congr fun entry _ => ?_
    obtain ⟨⟨call, signature⟩, index⟩ := entry
    cases call with
    | none => rfl
    | some call =>
        show some (ToolCallRequest.signed _) = some _
        rw [ToolCallRequest.signed, thoughtSignature_of_metadata rfl]
  · simp [geminiResponse, geminiDialect]
  · obtain ⟨⟨part, index⟩, _, hpart⟩ := List.mem_filterMap.mp hcall
    obtain ⟨spoken, _, rfl⟩ := Option.map_eq_some_iff.mp hpart
    exact ⟨_, rfl⟩

section

variable {python : Python} {nearestFloat : Int → Int → Int × Int}
  {floatRepr : Int → Int → List Char}

/-- The arguments of a call of OpenAI are read as its text says. -/
theorem asked_of_decoded (hpython : ∀ text, python.jsonLoads text =
      jsonLoads nearestFloat text.toList) {raw : RawToolCall} {call : ToolCallRequest}
    (h : decodeToolCall python raw = .ok call) : raw.asked nearestFloat = some call.plain := by
  obtain ⟨id, name, given⟩ := raw
  obtain ⟨arguments, harguments, hcall⟩ := except_bind_eq_ok.mp h
  cases hcall
  cases given with
  | none =>
      cases harguments
      rfl
  | some text =>
      by_cases hempty : text = ""
      · subst hempty
        cases harguments
        rfl
      · have hloads : jsonLoads nearestFloat text.toList = .ok arguments := by
          simp only [decodeArguments, hpython] at harguments
          exact mapError_eq_ok.mp harguments
        simp [RawToolCall.asked, hloads, Except.toOption, ToolCallRequest.plain]

/-- All calls of an answer of OpenAI are read as their texts say. -/
theorem all_asked_of_decoded (hpython : ∀ text, python.jsonLoads text =
      jsonLoads nearestFloat text.toList) {raws : List RawToolCall}
    {calls : List ToolCallRequest} (h : decodeToolCalls python raws = .ok calls) :
    raws.mapM (RawToolCall.asked nearestFloat) = some (calls.map ToolCallRequest.plain) := by
  replace h := decode_tool_calls_ok_iff.mp h
  induction h with
  | nil => rfl
  | cons hhead _ ih =>
      rw [List.mapM_cons, asked_of_decoded hpython hhead, ih]
      rfl

/-- The arguments of a decoded call have a text. -/
theorem loadable_of_decoded (hpython : ∀ text, python.jsonLoads text =
      jsonLoads nearestFloat text.toList) (hfloats : FloatsFaithful nearestFloat floatRepr)
    {raw : RawToolCall} {call : ToolCallRequest} (h : decodeToolCall python raw = .ok call) :
    call.Loadable nearestFloat := by
  obtain ⟨arguments, harguments, hcall⟩ := except_bind_eq_ok.mp h
  cases hcall
  unfold decodeArguments at harguments
  split at harguments
  · cases harguments
    exact .obj (by simp) (by simp)
  · cases harguments
    exact .obj (by simp) (by simp)
  · rw [hpython] at harguments
    exact json_loads_loadable hfloats (mapError_eq_ok.mp harguments)

theorem openai_understood (read : Json → Option ChatRequest)
    (hpython : ∀ text, python.jsonLoads text = jsonLoads nearestFloat text.toList)
    (hfloats : FloatsFaithful nearestFloat floatRepr) :
    (openaiDialect python nearestFloat floatRepr read).Understood
      (ToolCallRequest.Loadable nearestFloat) ToolCallRequest.plain := by
  intro answer response h
  obtain ⟨calls, hcalls, hresponse⟩ := except_bind_eq_ok.mp h
  cases hresponse
  refine ⟨⟨calls.map ToolCallRequest.plain, ?_, rfl, ?_⟩, fun call hcall => ?_⟩
  · exact all_asked_of_decoded hpython hcalls
  · simp [openaiDialect]
  · obtain ⟨raw, _, hraw⟩ := raw_of_decoded hcalls hcall
    exact loadable_of_decoded hpython hfloats hraw

theorem ollama_understood (read : List Char → Option ChatRequest) :
    (ollamaDialect nearestFloat floatRepr read).Understood (ToolCallRequest.Written nearestFloat)
      ToolCallRequest.plain := by
  intro answer response h
  cases h
  refine ⟨⟨_, rfl, ?_, ?_⟩, fun call hcall => ?_⟩
  · show (answer.val.toolCalls.zipIdx.map _).map _ = answer.val.toolCalls.zipIdx.map _
    rw [List.map_map]
    rfl
  · simp [ollamaResponse, ollamaDialect]
  · obtain ⟨⟨made, index⟩, hmade, rfl⟩ := List.mem_map.mp hcall
    have hmem := List.mem_of_getElem? (List.mk_mem_zipIdx_iff_getElem?.mp hmade)
    exact ⟨answer.property made hmem, rfl⟩

end

/-! ## Conversations -/

/-- What the reminder of the tools says. -/
def nudgeText : String :=
  "You have tools available for this task -- use one of them to actually perform " ++
    "the action instead of just describing what you would do."

section

variable {Answer Wire : Type} (dialect : Dialect Answer Wire)

/-- What the provider should hear of a turn: its calls, each with its result, or its text with the
reminder. -/
def Dialect.heard (answer : Answer) (turn : AgentTurn) : List Utterance :=
  match dialect.asked answer with
  | some (call :: calls) => .calls "" (call :: calls) ::
      List.zipWith (fun (call : SpokenCall) (run : ToolRun) => .result call.id run.text)
        (call :: calls) turn.tools
  | _ => [.assistant (dialect.answered answer), .user nudgeText]

/-- The task and what the provider should hear of the turns before. -/
def Dialect.transcript (task : String) (answers : List Answer) (turns : List AgentTurn) :
    List Utterance :=
  .user task :: (List.zipWith dialect.heard answers turns).flatten

end

section

variable {Body : Type} {python : Python} {registry : NodeRegistry Body}
  {recurse : Body → ExecutionContext → Act NodeResult} {resources : Resources}
  {setup : AgentSetup} {Answer Wire : Type} {dialect : Dialect Answer Wire}
  {admissible : ToolCallRequest → Prop} {spoken : ToolCallRequest → SpokenCall}

/-- The messages that a turn adds mean what the provider should hear of it, and they can be
sent. -/
structure Adds (dialect : Dialect Answer Wire) (admissible : ToolCallRequest → Prop)
    (spoken : ToolCallRequest → SpokenCall) (answer : Answer) (turn : AgentTurn)
    (messages : List Message) : Prop where
  meaning : messages.map (Message.meaning spoken) = dialect.heard answer turn
  sendable : ∀ message ∈ messages, message.Sendable admissible

/-- A reminder adds the text of the answer and the text of the reminder. -/
theorem adds_reminder (hunderstood : dialect.Understood admissible spoken) {answer : Answer}
    {turn : AgentTurn} (hanswer : dialect.response answer = .ok turn.response)
    (hfree : turn.response.toolCalls = []) :
    Adds dialect admissible spoken answer turn
      [.assistant (turn.response.text.getD "") none, toolCallNudge] := by
  obtain ⟨⟨calls, hasked, hsays⟩, _⟩ := hunderstood answer turn.response hanswer
  have hcalls : calls = [] := by rw [← hsays.calls, hfree]; rfl
  have htext := hsays.text
  rw [if_pos hfree] at htext
  refine ⟨?_, ?_⟩
  · rw [Dialect.heard, hasked, hcalls, htext]
    rfl
  · simp [Message.Sendable, toolCallNudge]

/-- The results are told under the ids of the calls. -/
theorem results_meaning (hspoken : ∀ call, (spoken call).id = call.id) (tools : List ToolRun) :
    (tools.map ToolRun.message).map (Message.meaning spoken) =
      List.zipWith (fun (call : SpokenCall) (run : ToolRun) => .result call.id run.text)
        ((tools.map ToolRun.call).map spoken) tools := by
  induction tools with
  | nil => rfl
  | cons run tools ih =>
      simp only [List.map_cons, List.zipWith_cons_cons, ih, hspoken]
      rfl

/-- An answer with calls adds the calls and their results. -/
theorem adds_calls (hunderstood : dialect.Understood admissible spoken)
    (hspoken : ∀ call, (spoken call).id = call.id) {answer : Answer}
    {turn : AgentTurn} (hanswer : dialect.response answer = .ok turn.response)
    (hcalls : turn.response.toolCalls ≠ [])
    (htools : turn.tools.map ToolRun.call = turn.response.toolCalls) :
    Adds dialect admissible spoken answer turn
      (.assistant (turn.response.text.getD "") (some turn.response.toolCalls) ::
        turn.tools.map ToolRun.message) := by
  obtain ⟨⟨calls, hasked, hsays⟩, hadmissible⟩ := hunderstood answer turn.response hanswer
  have htext := hsays.text
  rw [if_neg hcalls] at htext
  refine ⟨?_, ?_⟩
  · have hresults := @results_meaning spoken hspoken turn.tools
    rw [htools, hsays.calls] at hresults
    rw [List.map_cons, hresults, Dialect.heard, hasked, htext]
    obtain ⟨call, rest, hcons⟩ := List.exists_cons_of_ne_nil hcalls
    have hspokenCalls := hsays.calls
    rw [hcons] at hspokenCalls ⊢
    subst hspokenCalls
    rfl
  · refine List.forall_mem_cons.mpr ⟨⟨hcalls, hadmissible⟩, fun message hmessage => ?_⟩
    obtain ⟨run, _, rfl⟩ := List.mem_map.mp hmessage
    trivial

/-- The only turn of a list. -/
theorem first_of_singleton {first turn : AgentTurn} {before after : List AgentTurn}
    (h : [first] = before ++ turn :: after) : before = [] ∧ first = turn := by
  cases before with
  | nil => exact ⟨rfl, (List.cons.inj h).1⟩
  | cons other before => simp at h

/-- Whenever an agent asks its model, the conversation means the task and what was said in the
turns before, and it can be sent. -/
theorem agent_run_transcript (hunderstood : dialect.Understood admissible spoken)
    (hspoken : ∀ call, (spoken call).id = call.id) {turns : Nat} {state : AgentState}
    {made : List AgentTurn} {events : History} {ended : AgentEnd} {answers : List Answer}
    (h : AgentRun python registry recurse resources setup turns state made events ended)
    (hanswers : List.Forall₂ (fun answer turn => dialect.response answer = .ok turn.response)
      answers made)
    (hstart : ∀ message ∈ state.messages, message.Sendable admissible)
    {before after : List AgentTurn} {turn : AgentTurn} (hmade : made = before ++ turn :: after) :
    turn.conversation.map (Message.meaning spoken) =
        state.messages.map (Message.meaning spoken) ++
          (List.zipWith dialect.heard answers before).flatten ∧
      ∀ message ∈ turn.conversation, message.Sendable admissible := by
  induction h generalizing answers before with
  | exceeded state => exact absurd hmade (by simp)
  | modelFailed hasked => exact absurd hmade (by simp)
  | returned hasked hfree hreminds =>
      obtain ⟨rfl, rfl⟩ := first_of_singleton hmade
      exact ⟨by simp, hstart⟩
  | @reminded _ state asking events response rest ended hasked hfree hreminds hrest ih =>
      obtain ⟨answer, others, hanswer, hothers, rfl⟩ := List.forall₂_cons_right_iff.mp hanswers
      cases before with
      | nil =>
          cases hmade
          exact ⟨by simp, hstart⟩
      | cons first before =>
          obtain ⟨rfl, hlater⟩ := List.cons.inj hmade
          have hadds := adds_reminder hunderstood hanswer hfree
          obtain ⟨hmeaning, hsendable⟩ := ih hothers (List.forall_mem_append.mpr
            ⟨hstart, hadds.sendable⟩) hlater
          refine ⟨?_, hsendable⟩
          rw [hmeaning, List.zipWith_cons_cons, List.flatten_cons, ← hadds.meaning]
          simp [AgentState.remind]
  | @called _ state asking acting events response tools rest ended hasked hcalls htools hcompleted
      hactive hrest ih =>
      obtain ⟨answer, others, hanswer, hothers, rfl⟩ := List.forall₂_cons_right_iff.mp hanswers
      cases before with
      | nil =>
          cases hmade
          exact ⟨by simp, hstart⟩
      | cons first before =>
          obtain ⟨rfl, hlater⟩ := List.cons.inj hmade
          have hadds := adds_calls hunderstood hspoken hanswer hcalls htools
          have hmessages : ((state.request response).record tools).messages =
              state.messages ++ (.assistant (response.text.getD "") (some response.toolCalls) ::
                tools.map ToolRun.message) := by
            simp [AgentState.request, AgentState.record]
          obtain ⟨hmeaning, hsendable⟩ := ih hothers (hmessages ▸ List.forall_mem_append.mpr
            ⟨hstart, hadds.sendable⟩) hlater
          refine ⟨?_, hsendable⟩
          rw [hmeaning, List.zipWith_cons_cons, List.flatten_cons, ← hadds.meaning, hmessages,
            List.map_append, List.append_assoc]
  | toolRaised hasked htools hcompleted hactive hraises =>
      obtain ⟨rfl, rfl⟩ := first_of_singleton hmade
      exact ⟨by simp, hstart⟩

end

/-! ## Requests -/

/-- The end of a conversation that a memory keeps means the end of what the conversation means. -/
theorem memory_window_map {α : Type} (f : Message → α) (maxMessages : Option Int)
    (messages : List Message) :
    (memoryWindow maxMessages messages).map f =
      (messages.map f).rtake (memoryWindow maxMessages messages).length := by
  have hsuffix := List.suffix_iff_eq_drop.mp (memory_window_suffix maxMessages messages)
  rw [List.rtake, List.length_map, ← List.map_drop, ← hsuffix]

section

variable {Answer Wire : Type} (dialect : Dialect Answer Wire)

/-- Something holds of every request that an agent makes for a task, of the messages that it shows
and of what they should be heard as. -/
def Dialect.OfRequests (P : AgentSetup → List Message → List Utterance → Prop) : Prop :=
  ∀ (Body : Type) (python : Python) (registry : NodeRegistry Body)
    (recurse : Body → ExecutionContext → Act NodeResult) (resources : Resources)
    (setup : AgentSetup) (turns : Nat) (task : String) (made : List AgentTurn) (events : History)
    (ended : AgentEnd) (answers : List Answer),
    AgentRun python registry recurse resources setup turns { messages := [.user (.str task)] } made
      events ended →
    List.Forall₂ (fun answer turn => dialect.response answer = .ok turn.response) answers made →
    ∀ before turn after, made = before ++ turn :: after →
      P setup (memoryWindow setup.maxMessages turn.conversation)
        ((dialect.transcript task answers before).rtake
          (memoryWindow setup.maxMessages turn.conversation).length)

/-- What the provider is asked, with these words. -/
def chatWith (setup : AgentSetup) (messages : List Utterance) : ChatRequest where
  model := setup.settings.model
  system := some setup.settings.systemPrompt |>.filter (· ≠ "")
  messages
  tools := setup.toolDefinitions.map ToolDefinition.offered
  maxTokens := setup.settings.maxTokens

/-- Every request is made, and the provider reads it as what it should hear. -/
def Dialect.HearsItself : Prop :=
  dialect.OfRequests fun setup shown heard =>
    ∃ request, dialect.request setup.settings shown setup.toolDefinitions = .ok request ∧
      dialect.read request = some (chatWith setup heard)

/-- Every request is made, and the provider reads it as what it should hear exactly if it shows no
tool calls. -/
def Dialect.HearsNoCalls (nearestFloat : Int → Int → Int × Int) : Prop :=
  dialect.OfRequests fun setup shown heard =>
    Loadable nearestFloat (.int setup.settings.maxTokens) →
    ∃ request, dialect.request setup.settings shown setup.toolDefinitions = .ok request ∧
      (dialect.read request = some (chatWith setup heard) ↔ ∀ message ∈ shown, message.Callless)

variable {dialect} {admissible : ToolCallRequest → Prop} {spoken : ToolCallRequest → SpokenCall}

/-- What holds of messages that can be sent and of what they mean holds of every request. -/
theorem Dialect.Understood.ofRequests (hunderstood : dialect.Understood admissible spoken)
    (hspoken : ∀ call, (spoken call).id = call.id)
    {P : AgentSetup → List Message → List Utterance → Prop}
    (h : ∀ setup shown, (∀ message ∈ shown, message.Sendable admissible) →
      P setup shown (shown.map (Message.meaning spoken))) : dialect.OfRequests P := by
  intro Body python registry recurse resources setup turns task made events ended answers hrun
    hanswers before turn after hmade
  obtain ⟨hmeaning, hsendable⟩ := agent_run_transcript hunderstood hspoken hrun hanswers
    (by simp [Message.Sendable]) hmade
  have hheard : turn.conversation.map (Message.meaning spoken) =
      dialect.transcript task answers before := hmeaning
  rw [← hheard, ← memory_window_map]
  exact h setup _ fun message hmessage =>
    hsendable message ((memory_window_suffix _ _).subset hmessage)

end

/-- The providers, each of which reads its requests as its interface is documented. -/
structure Providers (nearestFloat : Int → Int → Int × Int) where
  anthropic : Json → Option ChatRequest
  openai : Json → Option ChatRequest
  gemini : GeminiRequest → Option ChatRequest
  ollama : List Char → Option ChatRequest
  anthropicReads : ∃ readMessage, AnthropicReads anthropic readMessage
  openaiReads : ∃ readMessage, OpenaiReads nearestFloat openai readMessage
  geminiReads : ∃ readContent, GeminiReads gemini readContent
  ollamaReads : ∃ readMessage, OllamaReads nearestFloat ollama readMessage

/-- What each of the providers hears of itself. -/
structure ModelsHear (python : Python) (nearestFloat : Int → Int → Int × Int)
    (floatRepr : Int → Int → List Char) (providers : Providers nearestFloat) : Prop where
  anthropic : (anthropicDialect providers.anthropic).HearsItself
  openai : (openaiDialect python nearestFloat floatRepr providers.openai).HearsItself
  gemini : (geminiDialect providers.gemini).HearsItself
  ollama : (ollamaDialect nearestFloat floatRepr providers.ollama).HearsNoCalls nearestFloat

theorem Json.text_eq_some_iff {json : Json} {key text : String} :
    json.text key = some text ↔ json.field key = some (.str text) := by
  rw [Json.text, Option.bind_eq_some_iff]
  constructor
  · rintro ⟨value, hvalue, htext⟩
    cases value <;> cases htext
    exact hvalue
  · exact fun h => ⟨_, h, rfl⟩

/-- The blocks of an assistant: a text, if there is one, and calls. -/
def readAnthropicBlocks : List Json → Option Utterance
  | [] => none
  | block :: blocks =>
    if block.text "type" = some "text" then do
      pure (.calls (← block.text "text") (← blocks.mapM readAnthropicToolUse))
    else do pure (.calls "" (← (block :: blocks).mapM readAnthropicToolUse))

/-- A message that is read. -/
def readAnthropicMessage (message : Json) : Option Utterance := do
  match ← message.text "role", ← message.field "content" with
  | "user", .str text => pure (.user text)
  | "user", .arr [block] =>
    guard (block.text "type" = some "tool_result")
    pure (.result (← block.text "tool_use_id") (← block.text "content"))
  | "assistant", .str text => pure (.assistant text)
  | "assistant", .arr blocks => readAnthropicBlocks blocks
  | _, _ => none

/-- A request that is read. -/
def readAnthropicRequest (request : Json) : Option ChatRequest := do
  pure
    { model := ← request.text "model"
      system := request.text "system"
      messages := ← (← (← request.field "messages").arr?).mapM readAnthropicMessage
      tools := ← (← (← request.field "tools").arr?).mapM (readOffered "input_schema")
      maxTokens := ← (← request.field "max_tokens").int? }

/-- What is read as a call is no text. -/
theorem type_of_read_anthropic {block : Json} {call : SpokenCall}
    (h : readAnthropicToolUse block = some call) : block.text "type" = some "tool_use" := by
  by_contra htype
  simp [readAnthropicToolUse, htype, guard] at h

theorem anthropic_documented : AnthropicReads readAnthropicRequest readAnthropicMessage where
  user role content := by
    simp [readAnthropicMessage, role, Json.text_eq_some_iff.mp content]
  result role content type toolUseId result := by
    simp [readAnthropicMessage, role, content, type, toolUseId, result, guard]
  assistant role content := by
    simp [readAnthropicMessage, role, Json.text_eq_some_iff.mp content]
  calls {message blocks calls} role content uses nonempty := by
    cases blocks with
    | nil =>
        cases uses
        exact absurd rfl nonempty
    | cons block blocks =>
        have htype : block.text "type" ≠ some "text" := by
          intro htext
          rw [List.mapM_cons] at uses
          obtain ⟨call, hcall, _⟩ := Option.bind_eq_some_iff.mp uses
          rw [type_of_read_anthropic hcall] at htext
          exact absurd htext (by decide)
        have hblocks : readAnthropicBlocks (block :: blocks) = some (.calls "" calls) := by
          rw [readAnthropicBlocks, if_neg htype, uses]
          rfl
        simp [readAnthropicMessage, role, content, hblocks]
  textAndCalls role content type first uses nonempty := by
    simp [readAnthropicMessage, role, content, readAnthropicBlocks, type, first, uses]
  request {request model wireMessages wireTools tools maxTokens} model_eq messages_eq tools_eq
      offered maxTokens_eq := by
    cases hread : wireMessages.mapM readAnthropicMessage <;>
      simp [readAnthropicRequest, model_eq, messages_eq, tools_eq, maxTokens_eq, Json.arr?,
        Json.int?, offered, hread]

section

variable (nearestFloat : Int → Int → Int × Int)

/-- A message that is read. -/
def readOpenaiMessage (message : Json) : Option Utterance := do
  match ← message.text "role" with
  | "user" => pure (.user (← message.text "content"))
  | "tool" => pure (.result (← message.text "tool_call_id") (← message.text "content"))
  | "assistant" =>
    match message.field "tool_calls" with
    | none => pure (.assistant (← message.text "content"))
    | some toolCalls =>
      let calls ← (← toolCalls.arr?).mapM (readOpenaiToolCall nearestFloat)
      pure (.calls ((message.text "content").getD "") calls)
  | _ => none

/-- A request that is read. -/
def readOpenaiRequest (request : Json) : Option ChatRequest := do
  let (system, messages) := splitSystem (← (← request.field "messages").arr?)
  pure
    { model := ← request.text "model"
      system
      messages := ← messages.mapM (readOpenaiMessage nearestFloat)
      tools := ← (← (← request.field "tools").arr?).mapM readFunctionTool
      maxTokens := ← (← request.field "max_tokens").int? }

theorem openai_documented :
    OpenaiReads nearestFloat (readOpenaiRequest nearestFloat) (readOpenaiMessage nearestFloat) where
  user role content := by simp [readOpenaiMessage, role, content]
  result role toolCallId content := by simp [readOpenaiMessage, role, toolCallId, content]
  assistant role toolCalls content := by simp [readOpenaiMessage, role, toolCalls, content]
  calls role toolCalls_eq heard nonempty := by
    simp [readOpenaiMessage, role, toolCalls_eq, Json.arr?, heard]
  request {request model wireMessages wireTools tools maxTokens} model_eq messages_eq tools_eq
      offered maxTokens_eq := by
    cases hread : (splitSystem wireMessages).2.mapM (readOpenaiMessage nearestFloat) <;>
      simp [readOpenaiRequest, model_eq, messages_eq, tools_eq, maxTokens_eq, Json.arr?,
        Json.int?, offered, hread]

/-- A content that is read. -/
def readGeminiContent (content : GeminiContent) : Option Utterance :=
  match content.role, content.parts with
  | "user", [.text text] => some (.user text)
  | "user", [.functionResponse id _ result] => some (.result id result)
  | "model", [.text text] => some (.assistant text)
  | "model", .text text :: parts => do pure (.calls text (← parts.mapM readGeminiCall))
  | "model", parts => do pure (.calls "" (← parts.mapM readGeminiCall))
  | _, _ => none

/-- A request that is read. -/
def readGeminiRequest (request : GeminiRequest) : Option ChatRequest := do
  pure
    { model := request.model
      system := request.systemInstruction
      messages := ← request.contents.mapM readGeminiContent
      tools := request.functionDeclarations
      maxTokens := request.maxOutputTokens }

theorem gemini_documented : GeminiReads readGeminiRequest readGeminiContent where
  user _ := rfl
  result _ _ _ := rfl
  model _ := rfl
  calls {parts calls} heard nonempty := by
    cases parts with
    | nil =>
        cases heard
        exact absurd rfl nonempty
    | cons part parts =>
        cases part with
        | functionCall id name args signature => simp [readGeminiContent, heard]
        | text text =>
            rw [List.mapM_cons] at heard
            cases heard
        | functionResponse id name result =>
            rw [List.mapM_cons] at heard
            cases heard
  textAndCalls {parts calls} text heard nonempty := by
    cases parts with
    | nil =>
        cases heard
        exact absurd rfl nonempty
    | cons part parts => simp [readGeminiContent, heard]
  request request := by
    cases hread : request.contents.mapM readGeminiContent <;> simp [readGeminiRequest, hread]

/-- A call that is read. It stands under `function`, as in an answer. -/
def readOllamaToolCall (call : Json) : Option SpokenCall := do
  let function ← call.field "function"
  pure ⟨(call.text "id").getD "", ← function.text "name", ← function.field "arguments", none⟩

/-- A message that is read. -/
def readOllamaMessage (message : Json) : Option Utterance := do
  match ← message.text "role" with
  | "user" => pure (.user (← message.text "content"))
  | "tool" => pure (.result (← message.text "tool_call_id") (← message.text "content"))
  | "assistant" =>
    match message.field "tool_calls" with
    | none => pure (.assistant (← message.text "content"))
    | some toolCalls =>
      let calls ← (← toolCalls.arr?).mapM readOllamaToolCall
      pure (.calls ((message.text "content").getD "") calls)
  | _ => none

/-- A body that is read. -/
def readOllamaRequest (body : List Char) : Option ChatRequest := do
  let request ← (jsonLoads nearestFloat body).toOption
  let (system, messages) := splitSystem (← (← request.field "messages").arr?)
  pure
    { model := ← request.text "model"
      system
      messages := ← messages.mapM readOllamaMessage
      tools := ← (← (← request.field "tools").arr?).mapM readFunctionTool
      maxTokens := ← (← (← request.field "options").field "num_predict").int? }

/-- What is heard as a call stands under `function`. -/
theorem function_of_read_ollama {toolCalls : List Json} {calls : List SpokenCall}
    (h : toolCalls.mapM readOllamaToolCall = some calls) :
    ∀ call ∈ calls, ∃ made ∈ toolCalls, ∃ function, made.field "function" = some function ∧
      function.text "name" = some call.name := by
  induction toolCalls generalizing calls with
  | nil =>
      cases h
      exact fun _ hcall => nomatch hcall
  | cons made toolCalls ih =>
      rw [List.mapM_cons] at h
      obtain ⟨first, hfirst, h⟩ := Option.bind_eq_some_iff.mp h
      obtain ⟨rest, hrest, h⟩ := Option.bind_eq_some_iff.mp h
      cases h
      obtain ⟨function, hfunction, hfirst⟩ := Option.bind_eq_some_iff.mp hfirst
      obtain ⟨name, hname, hfirst⟩ := Option.bind_eq_some_iff.mp hfirst
      obtain ⟨arguments, _, hfirst⟩ := Option.bind_eq_some_iff.mp hfirst
      cases hfirst
      rintro call (_ | ⟨_, hcall⟩)
      · exact ⟨made, List.mem_cons_self, function, hfunction, hname⟩
      · obtain ⟨other, hother, hfound⟩ := ih hrest call hcall
        exact ⟨other, List.mem_cons_of_mem _ hother, hfound⟩

theorem ollama_documented :
    OllamaReads nearestFloat (readOllamaRequest nearestFloat) readOllamaMessage where
  user role content := by simp [readOllamaMessage, role, content]
  result role toolCallId content := by simp [readOllamaMessage, role, toolCallId, content]
  assistant role toolCalls content := by simp [readOllamaMessage, role, toolCalls, content]
  function {message toolCalls text calls} toolCalls_eq heard := by
    obtain ⟨role, _, heard⟩ := Option.bind_eq_some_iff.mp heard
    split at heard
    · obtain ⟨_, _, heard⟩ := Option.bind_eq_some_iff.mp heard
      cases heard
    · obtain ⟨_, _, heard⟩ := Option.bind_eq_some_iff.mp heard
      obtain ⟨_, _, heard⟩ := Option.bind_eq_some_iff.mp heard
      cases heard
    · rw [toolCalls_eq] at heard
      obtain ⟨_, hitems, heard⟩ := Option.bind_eq_some_iff.mp heard
      cases hitems
      obtain ⟨found, hfound, heard⟩ := Option.bind_eq_some_iff.mp heard
      cases heard
      exact function_of_read_ollama hfound
    · cases heard
  request {body request options model wireMessages wireTools tools maxTokens} parsed model_eq
      messages_eq tools_eq offered options_eq maxTokens_eq := by
    cases hread : (splitSystem wireMessages).2.mapM readOllamaMessage <;>
      simp [readOllamaRequest, parsed, Except.toOption, model_eq, messages_eq, tools_eq, options_eq,
        maxTokens_eq, Json.arr?, Json.int?, offered, hread]

/-- Providers that do what is documented. -/
def documentedProviders : Providers nearestFloat where
  anthropic := readAnthropicRequest
  openai := readOpenaiRequest nearestFloat
  gemini := readGeminiRequest
  ollama := readOllamaRequest nearestFloat
  anthropicReads := ⟨_, anthropic_documented⟩
  openaiReads := ⟨_, openai_documented nearestFloat⟩
  geminiReads := ⟨_, gemini_documented⟩
  ollamaReads := ⟨_, ollama_documented nearestFloat⟩

end

/-! ### A call of a tool that is not there -/

/-- The library with decimals that are not rounded. -/
def exactPython : Python :=
  { plainPython with jsonLoads := fun text => jsonLoads exactFloat text.toList }

/-- An agent with one tool and no memory. -/
def shoutSetup : AgentSetup where
  maxIterations := 2
  modelNode := { id := "model", type := "model" }
  profile := anthropicProfile "my-anthropic" none
  settings := { model := "claude", systemPrompt := "", maxTokens := 1024 }
  memoryId := none
  maxMessages := none
  toolGroupId := none
  toolIds := ["upper"]
  toolDefinitions := [⟨"upper", "Shouts.", ["text"], ["text"]⟩]

/-- The model asks for a tool of another name. -/
def shoutAnswer : AnthropicAnswer where
  content := [.text "Let me see.", .toolUse "toolu_1" "shout" (.obj [("text", .str "hello")])]
  inputTokens := 1
  outputTokens := 1

/-- Then it answers. -/
def helloAnswer : AnthropicAnswer := ⟨[.text "HELLO"], 1, 1⟩

/-- The call, which names no tool. -/
def shoutRun : ToolRun where
  call := { id := "toolu_1", name := "shout", arguments := .obj [("text", .str "hello")] }
  events := []
  record :=
    { runId := "r", nodeId := "shout", nodeType := "unknown", startedAt := "t", finishedAt := "t"
      inputs := .ofList [("text", .str "hello")], outputs := .empty
      error := some "Unknown tool 'shout'. Available tools: upper" }
  text := "Unknown tool 'shout'. Available tools: upper"

/-- A call of the model in a run that nobody observes. -/
def shoutAsks (messages : List Message) (answer : AnthropicAnswer) : History :=
  [⟨.completeWithTools shoutSetup.profile shoutSetup.settings messages shoutSetup.toolDefinitions,
    .ok (anthropicResponse answer)⟩]

/-- What is said before the second call of the model. -/
def shoutMessages : List Message :=
  [.user (.str "shout hello"), .assistant "" (some [shoutRun.call]), shoutRun.message]

/-- The turn with the call. -/
def shoutTurn : AgentTurn where
  conversation := [.user (.str "shout hello")]
  asking := shoutAsks [.user (.str "shout hello")] shoutAnswer
  response := anthropicResponse shoutAnswer
  tools := [shoutRun]
  extended := shoutMessages

/-- The turn with the answer. -/
def helloTurn : AgentTurn where
  conversation := shoutMessages
  asking := shoutAsks shoutMessages helloAnswer
  response := anthropicResponse helloAnswer
  tools := []
  extended := shoutMessages

/-- No body is executed. -/
def executesNothing (_ : Body) (_ : ExecutionContext) : Act NodeResult := Act.raise ""

theorem shout_asks (messages : List Message) (answer : AnthropicAnswer) :
    Asks {} shoutSetup messages (shoutAsks messages answer) (.ok (anthropicResponse answer)) :=
  ⟨[], [], rfl, .refl _, .refl _⟩

/-- The agent has these two turns. -/
theorem shout_runs : ∃ events ended, AgentRun exactPython .empty executesNothing {} shoutSetup 2
    { messages := [.user (.str "shout hello")] } [shoutTurn, helloTurn] events ended := by
  have hcompleted : ∀ run ∈ [shoutRun],
      run.Completed exactPython .empty executesNothing {} shoutSetup.toolIds := by
    intro run hrun
    cases List.mem_singleton.mp hrun
    exact .inl ⟨rfl, nofun, rfl, rfl, rfl, rfl, rfl, rfl⟩
  have hactive : WhileActive {} shoutSetup.toolGroupId ([shoutRun].flatMap ToolRun.events) [] :=
    ⟨[], [], rfl, .refl _, .refl _⟩
  refine ⟨_, _, .called (shout_asks _ shoutAnswer) (List.cons_ne_nil _ _) rfl hcompleted hactive
    (.returned (shout_asks shoutMessages helloAnswer) rfl fun hreminds => ?_)⟩
  exact hreminds.2.1 rfl

end AgentGraphStudio
