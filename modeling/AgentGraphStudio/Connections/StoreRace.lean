import AgentGraphStudio.Connections.StoreMutations
import AgentGraphStudio.Lib.Race

/-!
# Two mutations of the connection store at the same time

The mutations of `backend/connections/store.py` read all profiles, change them and write all of
them, in requests that run in several threads, and nothing keeps one of them from reading between
the other's read and write. `store_race_iff` says for which schedules both changes survive.
-/

namespace AgentGraphStudio

/-- The steps of a mutation: `_load_all` and `_save_all`. -/
inductive StoreStep where
  | load
  | save (profiles : ConnectionStore)

/-- What a step returns. -/
def StoreStep.Answer : StoreStep → Type
  | .load => ConnectionStore
  | .save _ => Unit

/-- The store answers a step. -/
def storeStep : (step : StoreStep) → ConnectionStore → step.Answer × ConnectionStore
  | .load, store => (store, store)
  | .save profiles, _ => ((), profiles)

namespace StoreMutation

/-- How a mutation goes on when the profiles are loaded. -/
def afterLoad : Except StoreError (StoreAnswer × Option ConnectionStore) →
    Program StoreStep StoreStep.Answer (Except StoreError StoreAnswer)
  | .error e => .done (.error e)
  | .ok (answer, none) => .done (.ok answer)
  | .ok (answer, some profiles) => .perform (.save profiles) fun _ => .done (.ok answer)

/-- A mutation as a program of its steps. -/
def program (mutation : StoreMutation) :
    Program StoreStep StoreStep.Answer (Except StoreError StoreAnswer) :=
  .perform .load fun profiles => afterLoad (mutation.change profiles)

/-- The mutation succeeds on these profiles: it saves others. -/
def Succeeds (mutation : StoreMutation) (store : ConnectionStore) : Prop :=
  ∃ answer, mutation.change store = .ok (answer, some (mutation.apply store)) ∧ answer.succeeded

/-- The mutation gives a profile the configuration that it has. -/
def WritesBack (store : ConnectionStore) : StoreMutation → Prop
  | updateConfig name userId config =>
    ∃ profile, getConnection store name userId = some profile ∧ profile.config = config
  | _ => False

end StoreMutation

/-- Both mutations succeed, one after the other, and leave these profiles. -/
def AfterBoth (first second : StoreMutation) (start final : ConnectionStore) : Prop :=
  first.Succeeds start ∧ second.Succeeds (first.apply start) ∧
    final = second.apply (first.apply start)

/-- Neither mutation loads the profiles between the other's steps, or the one that saves first
writes back what was there. -/
def HarmlessSchedule (first second : StoreMutation) (start : ConnectionStore) : List Bool → Prop
  | [reader, reader', saver, _] =>
    reader = reader' ∨ (if saver then first else second).WritesBack start
  | _ => False

/-! ## Which mutations succeed -/

section

variable {mutation other : StoreMutation} {store : ConnectionStore} {answer : StoreAnswer}

namespace StoreMutation

/-- A mutation answers with success exactly if it saves something. -/
theorem succeeded_iff_saves {saved : Option ConnectionStore}
    (h : mutation.change store = .ok (answer, saved)) : answer.succeeded = saved.isSome := by
  cases mutation with
  | add name typeName config userId =>
      rw [change] at h
      cases hadd : addConnection store name typeName config userId with
      | none =>
          rw [hadd] at h
          cases h
      | some result =>
          rw [hadd] at h
          cases h
          rfl
  | delete name userId =>
      unfold change at h
      dsimp only at h
      split at h
      · cases h
        rfl
      · cases h
        rfl
  | updateConfig name userId config =>
      rw [change] at h
      cases h
      cases updateConnectionConfig store name userId config <;> rfl
  | setOwner name currentUserId newUserId =>
      rw [change] at h
      cases h
      cases setConnectionOwner store name currentUserId newUserId <;> rfl

/-- With distinct keys, the mutations that succeed are the possible ones. -/
theorem succeeds_iff (hdistinct : KeysDistinct store) :
    mutation.Succeeds store ↔ mutation.Possible (storeView store) := by
  rcases change_cases hdistinct mutation with ⟨hpossible, hrewrites⟩ | ⟨himpossible, hfails⟩
  · refine iff_of_true ?_ hpossible
    obtain ⟨answer, first, last, hchange, hanswer, _⟩ := hrewrites
    refine ⟨answer, ?_, hanswer⟩
    rw [apply, hchange]
  · refine iff_of_false (fun hsucceeds => ?_) himpossible
    obtain ⟨answer, hchange, hanswer⟩ := hsucceeds
    rcases hfails with ⟨e, herror⟩ | ⟨answer', hnone, _⟩
    · cases hchange.symm.trans herror
    · cases hchange.symm.trans hnone

/-- A mutation that ends with success loads profiles on which it succeeds, and saves. -/
theorem reads_then_writes (hanswer : answer.succeeded) :
    ReadsThenWrites mutation.program (.ok answer) StoreStep.load
      (fun store => mutation.Succeeds store)
      fun store => StoreStep.save (mutation.apply store) := by
  refine ⟨_, rfl, ?_⟩
  intro (store : ConnectionStore) hrun
  obtain ⟨events, hrun⟩ := hrun
  cases hchange : mutation.change store with
  | error e =>
      rw [hchange] at hrun
      cases (Program.run_done_iff.mp hrun).2
  | ok changed =>
      obtain ⟨found, saved⟩ := changed
      rw [hchange] at hrun
      cases saved with
      | none =>
          cases (Program.run_done_iff.mp hrun).2
          cases (succeeded_iff_saves hchange).symm.trans hanswer
      | some profiles =>
          obtain ⟨_, _, _, hdone⟩ := (Program.run_perform_iff.mp hrun).resolve_left
            fun hstopped => by cases hstopped.2
          cases (Program.run_done_iff.mp hdone).2
          have happly : mutation.apply store = profiles := by
            unfold StoreMutation.apply
            rw [hchange]
          refine ⟨⟨answer, ?_, hanswer⟩, ?_⟩
          · rw [happly]
            exact hchange
          · show afterLoad _ = .perform (.save (mutation.apply store)) fun _ => .done (.ok answer)
            rw [happly]
            rfl

/-! ## What a mutation leaves under its own key -/

/-- What is under the key of a mutation afterwards depends on what was there. -/
def effectOnKey : StoreMutation → Option ConnectionProfile → Option ConnectionProfile
  | setOwner .., _ => none
  | mutation, found => mutation.rewrite found

/-- A possible mutation leaves its effect under its key. -/
theorem view_apply_key (hdistinct : KeysDistinct store)
    (h : mutation.Possible (storeView store)) :
    storeView (mutation.apply store) mutation.key =
      mutation.effectOnKey (storeView store mutation.key) := by
  rw [view_apply hdistinct h, onView]
  cases mutation with
  | add | delete | updateConfig => exact if_pos rfl
  | setOwner name currentUserId newUserId =>
      have hne : (setOwner name currentUserId newUserId).key ≠
          (setOwner name currentUserId newUserId).targetKey := by
        intro heq
        have hfound := h.2
        rw [heq, h.1] at hfound
        cases hfound
      rw [if_neg hne, if_pos rfl]
      rfl

/-- A possible mutation leaves what is under other keys than its two. -/
theorem view_apply_of_ne (hdistinct : KeysDistinct store)
    (h : mutation.Possible (storeView store)) {key : ConnectionKey} (hkey : key ≠ mutation.key)
    (htarget : key ≠ mutation.targetKey) :
    storeView (mutation.apply store) key = storeView store key := by
  rw [view_apply hdistinct h, onView, if_neg htarget, if_neg hkey]

/-- The effect of a possible mutation on its key changes nothing only if it writes back a
configuration. -/
theorem effectOnKey_eq_iff (h : mutation.Possible (storeView store)) :
    mutation.effectOnKey (storeView store mutation.key) = storeView store mutation.key ↔
      mutation.WritesBack store := by
  cases mutation with
  | add name typeName config userId =>
      have hnone : storeView store (add name typeName config userId).key = none := h
      rw [hnone]
      exact iff_of_false (Option.some_ne_none _) id
  | delete name userId =>
      have hfound : storeView store (delete name userId).key ≠ none :=
        Option.isSome_iff_ne_none.mp h
      exact iff_of_false hfound.symm id
  | updateConfig name userId config =>
      obtain ⟨profile, hprofile⟩ := Option.isSome_iff_exists.mp h
      have hget : getConnection store name userId = some profile := hprofile
      show Option.map _ (storeView store (updateConfig name userId config).key) = _ ↔
        ∃ found, getConnection store name userId = some found ∧ found.config = config
      rw [hprofile, hget, Option.map_some, Option.some.injEq]
      constructor
      · intro heq
        exact ⟨profile, rfl, congrArg ConnectionProfile.config heq.symm⟩
      · intro h
        obtain ⟨found, hfound, rfl⟩ := h
        cases hfound
        rfl
  | setOwner name currentUserId newUserId =>
      have hfound : storeView store (setOwner name currentUserId newUserId).key ≠ none :=
        Option.isSome_iff_ne_none.mp h.2
      exact iff_of_false hfound.symm id

/-- What is written back leaves the profiles as they are. -/
theorem apply_of_writes_back (hdistinct : KeysDistinct store)
    (hwrites : mutation.WritesBack store) : mutation.apply store = store := by
  cases mutation with
  | add | delete | setOwner => exact hwrites.elim
  | updateConfig name userId config =>
      obtain ⟨profile, hprofile, rfl⟩ := hwrites
      have hview : storeView store (updateConfig name userId profile.config).key = some profile :=
        hprofile
      have hpossible : (updateConfig name userId profile.config).Possible (storeView store) :=
        Option.isSome_of_eq_some hview
      obtain ⟨first, last, hstore, happly⟩ := apply_splits hdistinct hpossible
      rw [hview] at hstore happly
      exact happly.trans hstore.symm

/-- Where a possible mutation makes a new profile, there is none. -/
theorem target_free_of_ne (h : mutation.Possible (storeView store))
    (hne : mutation.targetKey ≠ mutation.key) : storeView store mutation.targetKey = none :=
  (target_key_free h).resolve_left hne

end StoreMutation

end

/-! ## Both changes survive, or one is lost -/

section

variable {first second : StoreMutation} {start : ConnectionStore}

/-- A mutation that is overwritten by another one, which loaded the profiles before, is lost unless
it has written back what was there. -/
theorem overwritten_iff (hdistinct : KeysDistinct start) (hkeys : first.key ≠ second.key)
    (hfirst : first.Succeeds start) (hsecond : second.Succeeds start) :
    (AfterBoth first second start (second.apply start) ∨
      AfterBoth second first start (second.apply start)) ↔ first.WritesBack start := by
  have hpossible := (StoreMutation.succeeds_iff hdistinct).mp hfirst
  have hpossible' := (StoreMutation.succeeds_iff hdistinct).mp hsecond
  have hdistinctFirst := StoreMutation.apply_distinct hdistinct first
  have hdistinctSecond := StoreMutation.apply_distinct hdistinct second
  constructor
  · rintro (⟨_, hlater, hfinal⟩ | ⟨_, hlater, hfinal⟩)
    · -- The second one after the first one has left the same under the first one's key.
      have hpossibleLater := (StoreMutation.succeeds_iff hdistinctFirst).mp hlater
      have heffect := StoreMutation.view_apply_key hdistinct hpossible
      rw [← StoreMutation.effectOnKey_eq_iff hpossible, ← heffect]
      by_cases htarget : first.key = second.targetKey
      · have hne : second.targetKey ≠ second.key := fun heq => hkeys (htarget.trans heq)
        rw [htarget, StoreMutation.target_free_of_ne hpossibleLater hne,
          StoreMutation.target_free_of_ne hpossible' hne]
      · rw [← StoreMutation.view_apply_of_ne hdistinctFirst hpossibleLater hkeys htarget,
          ← hfinal, StoreMutation.view_apply_of_ne hdistinct hpossible' hkeys htarget]
    · -- The first one after the second one has changed nothing.
      have hpossibleLater := (StoreMutation.succeeds_iff hdistinctSecond).mp hlater
      have heffect := StoreMutation.view_apply_key hdistinctSecond hpossibleLater
      rw [← hfinal] at heffect
      have hwrites := (StoreMutation.effectOnKey_eq_iff hpossibleLater).mp heffect.symm
      by_cases htarget : first.key = second.targetKey
      · have hne : second.targetKey ≠ second.key := fun heq => hkeys (htarget.trans heq)
        have hfree := StoreMutation.target_free_of_ne hpossible' hne
        rw [← htarget] at hfree
        cases first with
        | updateConfig =>
            exact absurd hfree (Option.isSome_iff_ne_none.mp hpossible)
        | add | delete | setOwner => exact hwrites.elim
      · have hsame := StoreMutation.view_apply_of_ne hdistinct hpossible' hkeys htarget
        rw [← StoreMutation.effectOnKey_eq_iff hpossible, ← hsame]
        exact heffect.symm
  · intro hwrites
    have hsame := StoreMutation.apply_of_writes_back hdistinct hwrites
    exact .inl ⟨hfirst, by rwa [hsame], by rw [hsame]⟩

/-- Two mutations of different profiles that both succeed leave both changes, as after running them
one after the other, exactly if neither loads the profiles between the other's steps, or the one
that saves first writes back the configuration that was there. -/
theorem store_race_iff (start : ConnectionStore) (hdistinct : KeysDistinct start)
    (first second : StoreMutation) (hkeys : first.key ≠ second.key) (schedule : List Bool)
    (answer answer' : StoreAnswer) (final : ConnectionStore) (hanswer : answer.succeeded)
    (hanswer' : answer'.succeeded)
    (hrace : Races storeStep first.program second.program start schedule (.ok answer) (.ok answer')
      final) :
    (AfterBoth first second start final ∨ AfterBoth second first start final) ↔
      HarmlessSchedule first second start schedule := by
  have hload : ∀ store, Races.effect storeStep .load store = store := fun _ => rfl
  have houtcome := Races.read_write (StoreMutation.reads_then_writes hanswer)
    (StoreMutation.reads_then_writes hanswer') hload hload hrace
  rcases houtcome with ⟨rfl, hfirst, hsecond, rfl⟩ | ⟨rfl, hsecond, hfirst, rfl⟩ |
    ⟨hschedule, hfirst, hsecond, rfl⟩ | ⟨hschedule, hfirst, hsecond, rfl⟩
  · exact iff_of_true (.inl ⟨hfirst, hsecond, rfl⟩) (.inl rfl)
  · exact iff_of_true (.inr ⟨hsecond, hfirst, rfl⟩) (.inl rfl)
  · refine (overwritten_iff hdistinct hkeys hfirst hsecond).trans ?_
    rcases hschedule with rfl | rfl <;> simp [HarmlessSchedule]
  · refine or_comm.trans ((overwritten_iff hdistinct hkeys.symm hsecond hfirst).trans ?_)
    rcases hschedule with rfl | rfl <;> simp [HarmlessSchedule]

end

/-! ### Two connections are added at the same time -/

/-- A connection of Alice's is added. -/
def aliceAdds : StoreMutation := .add "mail" "smtp" .empty (some "alice")

/-- A connection of Carol's is added. -/
def carolAdds : StoreMutation := .add "news" "rss" .empty (some "carol")

/-- Both requests load the empty store before either of them saves. -/
def bothLoadFirst : List Bool := [true, false, true, false]

/-- How that race ends. -/
theorem both_load_first_races :
    Races storeStep aliceAdds.program carolAdds.program [] bothLoadFirst
      (.ok (.profile (some ⟨"mail", "smtp", .empty, some "alice"⟩)))
      (.ok (.profile (some ⟨"news", "rss", .empty, some "carol"⟩)))
      [⟨"news", "rss", .empty, some "carol"⟩] :=
  .first (.second (.first (.second (.done _ _ _))))

/-- Both requests succeed, and Alice's connection is lost. -/
theorem added_connection_is_lost :
    ∃ answer answer' final, answer.succeeded ∧ answer'.succeeded ∧
      Races storeStep aliceAdds.program carolAdds.program [] bothLoadFirst (.ok answer)
        (.ok answer') final ∧
      getConnection final "mail" (some "alice") = none ∧
      ¬ (AfterBoth aliceAdds carolAdds [] final ∨ AfterBoth carolAdds aliceAdds [] final) := by
  refine ⟨_, _, _, rfl, rfl, both_load_first_races, rfl, ?_⟩
  rintro (⟨_, _, hfinal⟩ | ⟨_, _, hfinal⟩)
  · exact absurd (congrArg List.length hfinal) (by decide)
  · exact absurd (congrArg List.length hfinal) (by decide)

/-- The race is settled by its schedule. -/
theorem both_load_first_harmful :
    (AfterBoth aliceAdds carolAdds [] [⟨"news", "rss", .empty, some "carol"⟩] ∨
      AfterBoth carolAdds aliceAdds [] [⟨"news", "rss", .empty, some "carol"⟩]) ↔
    HarmlessSchedule aliceAdds carolAdds [] bothLoadFirst :=
  store_race_iff [] List.nodup_nil aliceAdds carolAdds (by decide) bothLoadFirst _ _ _ rfl rfl
    both_load_first_races

end AgentGraphStudio
