import AgentGraphStudio.Api.ConnectionCoverage

/-!
# Whose connections a run uses

A generated type captures the owner of its connection. A run by somebody else looks the
connection up under that owner all the same, unless a slot mapping redirects it. `Owned` says
of which types a run can do no harm, and `credentials_owned` that a run that executes only
these uses no connection and no credential of another user.
-/

namespace AgentGraphStudio

variable {env : Environment}

/-! ## Using a connection -/

/-- A connection that was read before, and which the user may use, has this configuration. -/
def ReadBefore (history : History) (userId : String) (config : McpServerConnectionConfig) : Prop :=
  ∃ name owner profile,
    (⟨.getConnection name owner, some profile⟩ : Event Op Res) ∈ history ∧
    profile.UsableBy userId ∧ McpServerConnectionConfig.parse profile.config = .ok config

theorem ReadBefore.append {history : History} {userId : String}
    {config : McpServerConnectionConfig} (h : ReadBefore history userId config)
    (more : History) : ReadBefore (history ++ more) userId config := by
  obtain ⟨name, owner, profile, hmem, husable, hconfig⟩ := h
  exact ⟨name, owner, profile, List.mem_append_left _ hmem, husable, hconfig⟩

/-- All connections and credentials that were used are global ones or the user's own. -/
structure CredentialsOwned (userId : String) (events : History) : Prop where
  profiles : ∀ name owner profile,
    (⟨.getConnection name owner, some profile⟩ : Event Op Res) ∈ events → profile.UsableBy userId
  apiKeys : ∀ owner name response,
    (⟨.getApiKey owner name, response⟩ : Event Op Res) ∈ events → owner = userId
  tokens : ∀ owner name response,
    (⟨.getValidAccessToken owner name, response⟩ : Event Op Res) ∈ events → owner = userId
  calls : ∀ config server toolName arguments response before after,
    events = before ++ (⟨.callTool config server toolName arguments, response⟩ : Event Op Res) ::
      after → ReadBefore before userId config ∧ Attached before (some userId) config server

/-! ## Types that do no harm -/

section

variable (stores : ConnectionStore → Prop) (userId : String) (slotMappings : Dict String String)

/-- The generated type belongs to a global connection or to one of the user's own, or its slot is
mapped, or its connection is nowhere to be found. -/
def Owned (binding : GeneratedBinding) : Prop :=
  binding.ownerUserId = none ∨ binding.ownerUserId = some userId ∨
    (slotMappings.get? binding.connectionName).isSome ∨
    ∀ store, stores store → getConnection store binding.connectionName binding.ownerUserId = none

/-- All generated types that were executed do no harm. -/
def AllOwned (history : History) : Prop :=
  ∀ binding, (⟨.executeGenerated binding, ()⟩ : Event Op Res) ∈ history →
    Owned stores userId slotMappings binding

/-- While no harmful type has been executed, only connections and credentials of the user are
used. -/
def UsesOwned (history : History) : Op → Prop
  | .getConnection name owner => AllOwned stores userId slotMappings history →
    ∀ store, stores store → ∀ profile ∈ getConnection store name owner, profile.UsableBy userId
  | .getApiKey owner _ | .getValidAccessToken owner _ =>
    AllOwned stores userId slotMappings history → owner = userId
  | .callTool config server _ _ => AllOwned stores userId slotMappings history →
    ReadBefore history userId config ∧ Attached history (some userId) config server
  | _ => True

/-- A connection is read from one of these stores. -/
def ReadFrom (_ : History) : (op : Op) → Res op → Prop
  | .getConnection name owner, response => ∃ store, stores store ∧
    response = getConnection store name owner
  | _, _ => True

def ownershipPolicy : Policy where
  permitted := UsesOwned stores userId slotMappings
  allowed := ReadFrom stores
  routine _ op h := by cases op <;> trivial

end

section

variable {stores : ConnectionStore → Prop} {userId : String} {slotMappings : Dict String String}
  {resources : Resources} {binding : GeneratedBinding}

theorem AllOwned.of_append {history more : History}
    (h : AllOwned stores userId slotMappings (history ++ more)) :
    AllOwned stores userId slotMappings history :=
  fun binding hmem => h binding (List.mem_append_left _ hmem)

/-- A harmless type resolves to a connection that the user may use. -/
theorem resolve_target_owner (huser : resources.runningUserId = some userId)
    (hmappings : resources.slotMappings = slotMappings)
    (howned : Owned stores userId slotMappings binding) {store : ConnectionStore}
    (hstore : stores store) {profile : ConnectionProfile}
    (hfound : getConnection store (resolveTarget binding resources).1
      (resolveTarget binding resources).2 = some profile) :
    (resolveTarget binding resources).2 = none ∨
    (resolveTarget binding resources).2 = some userId := by
  unfold resolveTarget at hfound ⊢
  rw [huser, hmappings] at hfound ⊢
  dsimp only at hfound ⊢
  split at hfound
  · rename_i hforeign
    rw [if_pos hforeign]
    cases hmapped : slotMappings.get? binding.connectionName with
    | some mappedName => exact .inr rfl
    | none =>
        rw [hmapped] at hfound
        rcases howned with hglobal | hown | hmap | hnowhere
        · exact .inl hglobal
        · exact .inr hown
        · rw [hmapped] at hmap
          cases hmap
        · cases (hnowhere store hstore).symm.trans hfound
  · rename_i hown
    rw [if_neg hown]
    exact .inr (not_not.mp hown).symm

/-- The credential that is attached for a usable profile is the user's own. -/
theorem token_user_id_owner (huser : resources.runningUserId = some userId)
    {profile : ConnectionProfile}
    (htarget : (resolveTarget binding resources).2 = none ∨
      (resolveTarget binding resources).2 = some userId) {user : String}
    (htoken : tokenUserId binding resources profile = some user) : user = userId := by
  unfold tokenUserId at htoken
  split at htoken
  · rw [huser] at htoken
    exact (Option.some.inj htoken).symm
  · rcases htarget with hnone | hown
    · rw [hnone] at htoken
      cases htoken
    · rw [hown] at htoken
      exact (Option.some.inj htoken).symm

/-- The body of a generated type uses only what the user owns, as long as no harmful type has
been executed. -/
theorem execute_generated_owned {python : Python} {ctx : ExecutionContext}
    (huser : ctx.resources.runningUserId = some userId)
    (hmappings : ctx.resources.slotMappings = slotMappings) :
    (executeGenerated python binding ctx).Always
      (ownershipPolicy stores userId slotMappings) := by
  intro history others
  refine ⟨trivial, fun _ _ => ?_⟩
  intro others₁
  refine ⟨?_, fun found hfound => ?_⟩
  · intro hall store hstore profile hprofile
    unfold ConnectionProfile.UsableBy
    rw [(get_connection_eq_some hprofile).2.2]
    exact resolve_target_owner huser hmappings (hall binding (by simp)) hstore hprofile
  · cases found with
    | none => exact Program.Always.done _ _
    | some profile =>
        obtain ⟨store, hstore, hread⟩ := hfound
        have htarget := fun howned =>
          resolve_target_owner huser hmappings howned hstore hread.symm
        -- The type that is executing is on record, so a later step knows it to be harmless.
        refine execute_with_profile_certified (fun user name more htoken => ?_)
          fun more name config server arguments hconfig hattached =>
            call_gated_certified fun later => ?_
        · exact ⟨fun hall => token_user_id_owner huser (htarget (hall binding (by simp))) htoken,
            fun hall => token_user_id_owner huser (htarget (hall binding (by simp))) htoken⟩
        · intro hall
          have howned := htarget (hall binding (by simp))
          have husable : profile.UsableBy userId := by
            unfold ConnectionProfile.UsableBy
            rw [(get_connection_eq_some hread.symm).2.2]
            exact howned
          refine ⟨⟨(resolveTarget binding ctx.resources).1, (resolveTarget binding ctx.resources).2,
            profile, by simp, husable, hconfig⟩, ?_⟩
          rcases hattached later with hplain | ⟨user, keyName, credential, htoken, hserver, hmem⟩
          · exact .inl hplain
          · have hsame := token_user_id_owner huser howned htoken
            exact .inr ⟨user, keyName, credential, congrArg some hsame.symm, hserver, hmem⟩

end

/-! ## Runs -/

section

variable {userId : String} {resources : Resources} {graph : GraphSpec} {depth : Nat}
  {modelDumpJson : RunResult → Except Raised String} {runId : String}

/-- Every node of a run of this user keeps to what the user owns. -/
def ownership (env : Environment) (stores : ConnectionStore → Prop) (userId : String)
    (slotMappings : Dict String String) : Discipline env where
  policy := ownershipPolicy stores userId slotMappings
  Fixed resources := resources.runningUserId = some userId ∧ resources.slotMappings = slotMappings
  Good _ := True
  fixed_withGraph h _ := h
  looksUp _ _ _ _ _ := trivial
  converses _ _ _ _ _ _ _ _ _ _ := trivial
  nested _ _ _ _ _ _ _ _ := trivial
  generated _ _ h := execute_generated_owned h.1 h.2
  mcpCall _ _ := execute_mcp_call_keeps (Policy.rules _) fun _ _ _ =>
    call_stdio_gated_keeps (Policy.rules _) fun _ => trivial

/-- A run of a user that executes harmless generated types only uses no connection and no
credential of another user. -/
theorem credentials_owned {stores : ConnectionStore → Prop} {events : History}
    {rest : Program Op Res (Except Raised Unit)} (huser : resources.runningUserId = some userId)
    (hrun : Program.Run (executeRun env depth modelDumpJson runId graph resources).run events rest)
    (hstores : ∀ event ∈ events, ReadFrom stores [] event.op event.response)
    (howned : AllOwned stores userId resources.slotMappings events) :
    CredentialsOwned userId events := by
  have halways : (executeRun env depth modelDumpJson runId graph resources).Always
      (ownershipPolicy stores userId resources.slotMappings) :=
    (ownership env stores userId resources.slotMappings).execute_run_always (fun _ _ => trivial)
      (fun _ => trivial) ⟨huser, rfl⟩ fun _ _ => trivial
  have hpermitted : ∀ before event after, events = before ++ event :: after →
      UsesOwned stores userId resources.slotMappings before event.op := by
    intro before event after hevents
    refine halways.run hrun (fun before event after hevents => ?_) hevents
    exact hstores event (hevents ▸ by simp)
  have hearlier : ∀ before event after, events = before ++ event :: after →
      AllOwned stores userId resources.slotMappings before := by
    intro before event after hevents
    exact (hevents ▸ howned).of_append
  refine ⟨fun name owner profile hmem => ?_, fun owner name response hmem => ?_,
    fun owner name response hmem => ?_, fun config server toolName arguments response before after
      hevents => hpermitted _ _ _ hevents (hearlier _ _ _ hevents)⟩
  all_goals obtain ⟨before, after, hevents⟩ := List.append_of_mem hmem
  · obtain ⟨store, hstore, hread⟩ := hstores _ hmem
    exact hpermitted _ _ _ hevents (hearlier _ _ _ hevents) store hstore profile hread.symm
  · exact hpermitted _ _ _ hevents (hearlier _ _ _ hevents)
  · exact hpermitted _ _ _ hevents (hearlier _ _ _ hevents)

end

/-! ### Somebody else's mail -/

/-- A Gmail connection that needs an OAuth token. -/
def gmailProfile (userId : Option String) : ConnectionProfile where
  name := "my-gmail"
  type := "mcp_server"
  config := .ofList [("transport", .str "remote"), ("url", .str "https://gmail"),
    ("requires_oauth", .bool true), ("trusted", .bool true)]
  userId

/-- The type generated for a tool of the connection. -/
def listThreads (ownerUserId : Option String) : GeneratedBinding :=
  ⟨"my-gmail", { name := "list_threads", paramNames := [], paramJsonTypes := .empty }, ownerUserId⟩

/-- A process with the types of Alice's connection and of the global one. -/
def gmailEnvironment : Environment where
  registry := processRegistry plainPython (fun _ _ => none)
    [listThreads (some "alice"), listThreads none]
  connectionTypes := .empty
  python := plainPython

/-- Lists the threads of a connection. -/
def mailGraph (ownerUserId : Option String) : GraphSpec where
  version := "1.0"
  nodes := [{ id := "mail", type := typeNameFor "my-gmail" "list_threads" ownerUserId }]
  edges := []
  nodupIds := List.nodup_singleton _

/-- A process that stores these connections and has a token for each user. -/
def mailAnswers (store : ConnectionStore) : (op : Op) → Res op
  | .getValidAccessToken userId _ => .ok s!"token of {userId}"
  | .callTool .. => .ok "[]"
  | op => helloAnswers store op

theorem mail_answers_read_from (store : ConnectionStore) (op : Op) :
    ReadFrom (· = store) [] op (mailAnswers store op) := by
  cases op <;> try trivial
  exact ⟨store, rfl, rfl⟩

/-- The generated type whose execution starts. -/
def Op.generated? : Op → Option GeneratedBinding
  | .executeGenerated binding => some binding
  | _ => none

set_option maxRecDepth 20000 in
/-- Through the global connection Bob uses his own token. -/
theorem global_mail_owned : CredentialsOwned "bob"
    (Program.play (mailAnswers [gmailProfile none]) (executeRun gmailEnvironment 3 dumpNothing
      "run" (mailGraph none) { runningUserId := some "bob" }).run).1 := by
  refine @credentials_owned gmailEnvironment "bob" _ _ 3 dumpNothing "run" (· = [gmailProfile none])
    _ _ rfl (Program.ends_play _ _) (fun event hevent => ?_) fun binding hbinding => ?_
  · rw [Program.response_of_mem_play hevent]
    exact mail_answers_read_from _ _
  · have hexecuted : (Program.play (mailAnswers [gmailProfile none])
        (executeRun gmailEnvironment 3 dumpNothing "run" (mailGraph none)
          { runningUserId := some "bob" }).run).1.filterMap (fun event => event.op.generated?) =
        [listThreads none] := rfl
    have hmem : binding ∈ [listThreads none] :=
      hexecuted ▸ List.mem_filterMap.mpr ⟨_, hbinding, rfl⟩
    rw [List.mem_singleton.mp hmem]
    exact .inl rfl

set_option maxRecDepth 20000 in
/-- Bob may submit a graph with the type of Alice's connection, and its run reads her mail with
her token. -/
theorem private_mail_leaks : ∃ resources events ended,
    submitRun gmailEnvironment sharedStores [gmailProfile (some "alice")] (mailGraph (some "alice"))
      none (some "bob") = .ok resources ∧
    Program.Ends (executeRun gmailEnvironment 3 dumpNothing "run" (mailGraph (some "alice"))
      resources).run events ended ∧
    (∀ event ∈ events, ReadFrom (· = [gmailProfile (some "alice")]) [] event.op event.response) ∧
    ¬ CredentialsOwned "bob" events := by
  refine ⟨_, _, _, rfl, Program.ends_play (mailAnswers [gmailProfile (some "alice")]) _,
    fun event hevent => ?_, fun h => ?_⟩
  · rw [Program.response_of_mem_play hevent]
    exact mail_answers_read_from _ _
  · have huser := h.tokens "alice" "my-gmail" (.ok "token of alice")
      (@List.mem_of_getElem? _ _ 6 _ rfl)
    exact absurd huser (by decide)

end AgentGraphStudio
