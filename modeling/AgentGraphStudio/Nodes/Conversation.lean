import AgentGraphStudio.Execution.Operations

/-!
# The conversation of an agent

An agent's list of messages grows by whole turns: a model's answer with the results of all its
tool calls, or an answer without calls and the agent's reminder. A `Conversation` is such a list.
A model provider wants every result after the call it belongs to and every call with its result:
`Conversation.paired_iff` says which ends of a conversation are fit to be sent.
-/

namespace AgentGraphStudio

/-- One result for each call, in their order. -/
def Replies (results : List Message) (calls : List ToolCallRequest) : Prop :=
  List.Forall₂ (fun result call => ∃ text, result = .tool call.id call.name text) results calls

/-- Every result stands behind an answer with its call, and every answer with calls before the
results of all of them. -/
structure Paired (messages : List Message) : Prop where
  asked : ∀ before id name text after, messages = before ++ .tool id name text :: after →
    ∃ content calls, .assistant content (some calls) ∈ before ∧ ∃ call ∈ calls, call.id = id
  answered : ∀ before content calls after,
    messages = before ++ .assistant content (some calls) :: after →
    ∃ results rest, after = results ++ rest ∧ Replies results calls

/-- The messages of an agent before a call of its model. -/
inductive Conversation : List Message → Prop where
  | task (task : Json) : Conversation [.user task]
  | reminded {messages : List Message} (h : Conversation messages) (content : String)
      (reminder : Json) : Conversation (messages ++ [.assistant content none, .user reminder])
  | called {messages results : List Message} {calls : List ToolCallRequest}
      (h : Conversation messages) (content : String) (hreplies : Replies results calls) :
      Conversation (messages ++ .assistant content (some calls) :: results)

/-- The first message is the result of a call. -/
def StartsWithResult (messages : List Message) : Prop :=
  ∃ id name text rest, messages = .tool id name text :: rest

/-! ## Results -/

section

variable {results : List Message} {calls : List ToolCallRequest}

theorem Replies.snoc {result : Message} {call : ToolCallRequest} {text : String}
    (h : Replies results calls) (hresult : result = .tool call.id call.name text) :
    Replies (results ++ [result]) (calls ++ [call]) :=
  List.rel_append h (.cons ⟨text, hresult⟩ .nil)

/-- A reply is the result of one of the calls. -/
theorem Replies.of_mem (h : Replies results calls) {message : Message} (hmem : message ∈ results) :
    ∃ call ∈ calls, ∃ text, message = .tool call.id call.name text := by
  unfold Replies at h
  induction h with
  | nil => cases hmem
  | @cons result call results calls hhead _ ih =>
      rcases List.mem_cons.mp hmem with rfl | htail
      · exact ⟨call, List.mem_cons_self, hhead⟩
      · obtain ⟨other, hother, htext⟩ := ih htail
        exact ⟨other, List.mem_cons_of_mem _ hother, htext⟩

/-- Nothing but results follows in replies. -/
theorem Replies.starts (h : Replies results calls) {rest : List Message}
    (hrest : rest <:+ results) : rest = [] ∨ StartsWithResult rest := by
  cases rest with
  | nil => exact .inl rfl
  | cons message rest =>
      obtain ⟨call, _, text, rfl⟩ := h.of_mem (hrest.subset List.mem_cons_self)
      exact .inr ⟨call.id, call.name, text, rest, rfl⟩

end

/-! ## Paired messages -/

theorem paired_nil : Paired [] := by
  constructor <;> simp

/-- Messages that start with a result lack its call. -/
theorem Paired.not_starts {messages : List Message} (h : Paired messages) :
    ¬ StartsWithResult messages := by
  rintro ⟨id, name, text, rest, hstart⟩
  obtain ⟨content, calls, hmem, _⟩ := h.asked [] id name text rest hstart
  cases hmem

/-- Paired messages in sequence. -/
theorem Paired.append {first second : List Message} (hfirst : Paired first)
    (hsecond : Paired second) : Paired (first ++ second) := by
  constructor
  · intro before id name text after h
    rcases List.append_eq_append_iff.mp h with ⟨middle, rfl, hmiddle⟩ | ⟨middle, hmiddle, hrest⟩
    · obtain ⟨content, calls, hmem, hcall⟩ := hsecond.asked middle id name text after hmiddle
      exact ⟨content, calls, List.mem_append_right _ hmem, hcall⟩
    · cases middle with
      | nil => exact absurd ⟨id, name, text, after, hrest.symm⟩ hsecond.not_starts
      | cons message middle =>
          obtain ⟨rfl, -⟩ := List.cons.inj hrest
          exact hfirst.asked before id name text middle hmiddle
  · intro before content calls after h
    rcases List.append_eq_append_iff.mp h with ⟨middle, rfl, hmiddle⟩ | ⟨middle, hmiddle, hrest⟩
    · exact hsecond.answered middle content calls after hmiddle
    · cases middle with
      | nil => exact hsecond.answered [] content calls after hrest.symm
      | cons message middle =>
          obtain ⟨rfl, rfl⟩ := List.cons.inj hrest
          obtain ⟨results, rest, rfl, hreplies⟩ :=
            hfirst.answered before content calls middle hmiddle
          exact ⟨results, rest ++ second, List.append_assoc _ _ _, hreplies⟩

/-- Messages without results and without calls. -/
theorem paired_of_plain {messages : List Message}
    (h : ∀ message ∈ messages, (∀ id name text, message ≠ .tool id name text) ∧
      ∀ content calls, message ≠ .assistant content (some calls)) : Paired messages := by
  constructor
  · intro before id name text after hmessages
    exact absurd rfl ((h (.tool id name text) (by simp [hmessages])).1 id name text)
  · intro before content calls after hmessages
    exact absurd rfl ((h (.assistant content (some calls)) (by simp [hmessages])).2 content calls)

/-- One answer with the results of its calls. -/
theorem paired_turn {results : List Message} {calls : List ToolCallRequest} (content : String)
    (h : Replies results calls) : Paired (.assistant content (some calls) :: results) := by
  constructor
  · intro before id name text after hmessages
    cases before with
    | nil => cases hmessages
    | cons message before =>
        obtain ⟨rfl, hresults⟩ := List.cons.inj hmessages
        obtain ⟨call, hcall, _, hresult⟩ :=
          h.of_mem (show Message.tool id name text ∈ results by simp [hresults])
        cases hresult
        exact ⟨content, calls, List.mem_cons_self, call, hcall, rfl⟩
  · intro before content' calls' after hmessages
    cases before with
    | nil =>
        cases hmessages
        exact ⟨results, [], by simp, h⟩
    | cons message before =>
        obtain ⟨rfl, hresults⟩ := List.cons.inj hmessages
        obtain ⟨_, _, _, hresult⟩ :=
          h.of_mem (show Message.assistant content' (some calls') ∈ results by simp [hresults])
        cases hresult

/-! ## The end of a conversation -/

/-- The part of a sequence that is left after a cut. -/
theorem suffix_append_cases {α : Type} {rest first second : List α} (h : rest <:+ first ++ second) :
    rest <:+ second ∨ ∃ kept, kept <:+ first ∧ rest = kept ++ second := by
  obtain ⟨cut, hcut⟩ := h
  rcases List.append_eq_append_iff.mp hcut with ⟨kept, hfirst, rfl⟩ | ⟨more, _, hmore⟩
  · exact .inr ⟨kept, ⟨cut, hfirst.symm⟩, rfl⟩
  · exact .inl ⟨more, hmore.symm⟩

/-- The end of a conversation is paired exactly if the cut does not fall between a call and its
result. -/
theorem Conversation.paired_iff {messages rest : List Message} (h : Conversation messages)
    (hrest : rest <:+ messages) : Paired rest ↔ ¬ StartsWithResult rest := by
  refine ⟨Paired.not_starts, fun hstart => ?_⟩
  -- By the turns of the conversation; the end lies in the last turn or reaches before it.
  induction h generalizing rest with
  | task task =>
      refine paired_of_plain fun message hmem => ?_
      cases List.mem_singleton.mp (hrest.subset hmem)
      exact ⟨nofun, nofun⟩
  | reminded h content reminder ih =>
      have hplain : ∀ {rest : List Message}, rest <:+ [.assistant content none, .user reminder] →
          Paired rest := by
        intro rest hsuffix
        refine paired_of_plain fun message hmem => ?_
        have hlast := hsuffix.subset hmem
        simp at hlast
        rcases hlast with rfl | rfl
        · exact ⟨nofun, nofun⟩
        · exact ⟨nofun, nofun⟩
      rcases suffix_append_cases hrest with hlast | ⟨kept, hkept, rfl⟩
      · exact hplain hlast
      · refine (ih hkept fun hresult => hstart ?_).append (hplain List.suffix_rfl)
        obtain ⟨id, name, text, more, rfl⟩ := hresult
        exact ⟨id, name, text, _, rfl⟩
  | called h content hreplies ih =>
      rcases suffix_append_cases hrest with hlast | ⟨kept, hkept, rfl⟩
      · rcases List.suffix_cons_iff.mp hlast with rfl | hresults
        · exact paired_turn content hreplies
        · rcases hreplies.starts hresults with rfl | hresult
          · exact paired_nil
          · exact absurd hresult hstart
      · refine (ih hkept fun hresult => hstart ?_).append (paired_turn content hreplies)
        obtain ⟨id, name, text, more, rfl⟩ := hresult
        exact ⟨id, name, text, _, rfl⟩

end AgentGraphStudio
