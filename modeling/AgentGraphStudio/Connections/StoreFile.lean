import AgentGraphStudio.Connections.StoreMutations
import AgentGraphStudio.Lib.History
import AgentGraphStudio.Lib.Stateful

/-!
# The file of the connection store

`_load_all` and `_save_all` of `backend/connections/store.py` and the mutations between them. The
file holds the profiles encrypted; one that was written before there was encryption is read as it
is, and rewritten at once. Encryption and the reading of JSON are a parameter, and how a write ends
is up to the disk: `write_bytes` empties the file before it writes, so that a write which breaks off
loses what was there. `connection_store_kept` says of every history of mutations what each of them
does to the profiles in the file.
-/

namespace AgentGraphStudio

open Stateful (Ends)

/-! ## Writing a file -/

/-- How writing a file ends. Either it cannot be opened, or the writing breaks off after opening has
emptied it, with so many bytes in it. -/
inductive WriteOutcome where
  | written
  | refused (reason : String)
  | broken (bytes : Nat) (reason : String)

/-- How each write ends, given what is in the file and what is written. -/
abbrev Disk (Byte : Type) := Option (List Byte) → List Byte → WriteOutcome

/-- No write breaks off. -/
def Disk.Whole {Byte : Type} (disk : Disk Byte) : Prop :=
  ∀ file contents bytes reason, disk file contents ≠ .broken bytes reason

/-- A disk that takes every write. -/
def writable {Byte : Type} : Disk Byte := fun _ _ => .written

/-- Write the file. -/
def writeBytes {Byte : Type} (disk : Disk Byte) (contents : List Byte) :
    EStateM StoreError (Option (List Byte)) Unit := do
  match disk (← get) contents with
  | .written => set (some contents)
  | .refused reason => throw (.unwritable reason)
  | .broken bytes reason =>
    set (some (contents.take bytes))
    throw (.unwritable reason)

/-! ## Reading and saving profiles -/

/-- What the store uses to read and write its file: `Fernet`, which says what is wrong with a key
that is not valid and decrypts what was encrypted with the same key, and JSON. -/
structure StoreCodec (Byte : Type) where
  invalidKey : String → Option String
  encrypt : String → List Byte → List Byte
  decrypt : String → List Byte → Option (List Byte)
  dumps : ConnectionStore → List Byte
  loads : List Byte → Except String ConnectionStore

/-- What is encrypted is decrypted with the same key and is never empty, and JSON is read as it was
written. The beginning of an encrypted text is neither decrypted nor JSON. -/
structure StoreCodec.Faithful {Byte : Type} (codec : StoreCodec Byte) : Prop where
  decrypt_encrypt : ∀ key text, codec.invalidKey key = none →
    codec.decrypt key (codec.encrypt key text) = some text
  encrypt_nonempty : ∀ key text, codec.invalidKey key = none → codec.encrypt key text ≠ []
  loads_dumps : ∀ profiles, codec.loads (codec.dumps profiles) = .ok profiles
  torn : ∀ key text bytes, codec.invalidKey key = none → 0 < bytes →
    bytes < (codec.encrypt key text).length →
    codec.decrypt key ((codec.encrypt key text).take bytes) = none ∧
      ∃ e, codec.loads ((codec.encrypt key text).take bytes) = .error e

/-- A mutation, and how the writes of the file end meanwhile. -/
structure StoreAction (Byte : Type) where
  mutation : StoreMutation
  disk : Disk Byte

namespace StoreCodec

variable {Byte : Type} (codec : StoreCodec Byte) (environment : Option String)

/-- The encryption key, from the environment variable. -/
def encryptionKey : Except StoreError String :=
  match environment with
  | none | some "" => .error (.missingEncryptionKey "no value set")
  | some raw =>
    match codec.invalidKey raw with
    | some e => .error (.missingEncryptionKey s!"not a valid Fernet key ({e})")
    | none => .ok raw

/-- Write the profiles. -/
def saveAll (disk : Disk Byte) (profiles : ConnectionStore) :
    EStateM StoreError (Option (List Byte)) Unit := do
  let key ← Stateful.ofExcept (codec.encryptionKey environment)
  writeBytes disk (codec.encrypt key (codec.dumps profiles))

/-- Read the profiles of a file that is not empty. What does not decrypt is read as it is, and
written again. -/
def loadRaw (disk : Disk Byte) (raw : List Byte) :
    EStateM StoreError (Option (List Byte)) ConnectionStore := do
  let key ← Stateful.ofExcept (codec.encryptionKey environment)
  match codec.decrypt key raw with
  | some decrypted => Stateful.ofExcept ((codec.loads decrypted).mapError .unreadable)
  | none => do
    let profiles ← Stateful.ofExcept ((codec.loads raw).mapError .unreadable)
    codec.saveAll environment disk profiles
    pure profiles

/-- Read the profiles. No file, or an empty one, has none. -/
def loadAll (disk : Disk Byte) : EStateM StoreError (Option (List Byte)) ConnectionStore := do
  match ← get with
  | none => pure []
  | some raw => if raw.isEmpty then pure [] else codec.loadRaw environment disk raw

/-- Carry out a mutation: read all profiles, change them, and write them if they are changed. -/
def mutate (step : StoreAction Byte) : EStateM StoreError (Option (List Byte)) StoreAnswer := do
  let profiles ← codec.loadAll environment step.disk
  let (answer, saved) ← Stateful.ofExcept (step.mutation.change profiles)
  match saved with
  | none => pure answer
  | some profiles => do
    codec.saveAll environment step.disk profiles
    pure answer

/-- The file after a mutation, whether it returns or raises. -/
def act (step : StoreAction Byte) (file : Option (List Byte)) : Option (List Byte) :=
  Stateful.stateOf ((codec.mutate environment step).run file)

/-- The mutation raises. -/
def Raises (step : StoreAction Byte) (file : Option (List Byte)) : Prop :=
  ∃ e after, (codec.mutate environment step).run file = .error e after

/-- The file holds these profiles: they are what is read. -/
def Holds (file : Option (List Byte)) (profiles : ConnectionStore) : Prop :=
  ∃ after, (codec.loadAll environment writable).run file = .ok profiles after

/-- After an exception the file holds what it held before. -/
def UnchangedWhenRaised (step : StoreAction Byte) (file : Option (List Byte)) : Prop :=
  codec.Raises environment step file → ∀ profiles, codec.Holds environment file profiles →
    codec.Holds environment (codec.act environment step file) profiles

end StoreCodec

section

variable {Byte : Type} {codec : StoreCodec Byte} {environment : Option String} {disk : Disk Byte}
  {file : Option (List Byte)} {profiles : ConnectionStore}

/-- A write ends with the contents in the file. If it raises, then it broke off or has left the
file. -/
theorem write_bytes_ends (contents : List Byte) :
    Ends (writeBytes disk contents) file (fun _ after => after = some contents) fun after =>
      (disk.Whole → after = file) ∧
        (after = file ∨ ∃ bytes, after = some (contents.take bytes)) := by
  unfold writeBytes
  refine Stateful.ends_bind (Stateful.ends_get ?_)
  cases hwrite : disk file contents with
  | written => exact rfl
  | refused reason => exact ⟨fun _ => rfl, .inl rfl⟩
  | broken bytes reason =>
      exact ⟨fun hwhole => absurd hwrite (hwhole _ _ _ _), .inr ⟨bytes, rfl⟩⟩

/-- A key is one that `Fernet` takes. -/
theorem valid_of_encryption_key {key : String}
    (h : codec.encryptionKey environment = .ok key) : codec.invalidKey key = none := by
  unfold StoreCodec.encryptionKey at h
  split at h
  · cases h
  · cases h
  · rename_i raw _
    cases hvalid : codec.invalidKey raw with
    | none =>
        rw [hvalid] at h
        cases h
        exact hvalid
    | some e =>
        rw [hvalid] at h
        cases h

/-! ## What a file holds -/

/-- Reading a file leaves it, or writes what was read without encryption, or raises. Which of these
happens is not up to the disk. -/
inductive Contents (codec : StoreCodec Byte) (environment : Option String)
    (file : Option (List Byte)) : Prop where
  | read (profiles : ConnectionStore)
      (hrun : ∀ disk, (codec.loadAll environment disk).run file = .ok profiles file)
  | plain (profiles : ConnectionStore) {key : String}
      (hkey : codec.encryptionKey environment = .ok key)
      (hrun : ∀ disk, (codec.loadAll environment disk).run file =
        (codec.saveAll environment disk profiles >>= fun _ => pure profiles).run file)
  | unreadable (e : StoreError)
      (hrun : ∀ disk, (codec.loadAll environment disk).run file = .error e file)

theorem load_all_cases (codec : StoreCodec Byte) (environment : Option String)
    (file : Option (List Byte)) : Contents codec environment file := by
  cases file with
  | none => exact .read [] fun _ => rfl
  | some raw =>
      have hload : ∀ disk, (codec.loadAll environment disk).run (some raw) =
          (if raw.isEmpty then (pure [] : EStateM _ _ _)
            else codec.loadRaw environment disk raw).run (some raw) := fun _ => rfl
      cases hempty : raw.isEmpty with
      | true => exact .read [] fun disk => by rw [hload, hempty, if_pos rfl]; rfl
      | false =>
          have hraw : ∀ disk, (codec.loadAll environment disk).run (some raw) =
              (codec.loadRaw environment disk raw).run (some raw) := fun disk => by
            rw [hload, hempty, if_neg Bool.false_ne_true]
          unfold StoreCodec.loadRaw at hraw
          cases hkey : codec.encryptionKey environment with
          | error e => exact .unreadable e fun disk => by rw [hraw, hkey]; rfl
          | ok key =>
              simp only [hkey, Stateful.ofExcept, pure_bind] at hraw
              cases hdecrypt : codec.decrypt key raw with
              | some decrypted =>
                  simp only [hdecrypt] at hraw
                  cases hloads : codec.loads decrypted with
                  | error e =>
                      exact .unreadable (.unreadable e) fun disk => by rw [hraw, hloads]; rfl
                  | ok profiles => exact .read profiles fun disk => by rw [hraw, hloads]; rfl
              | none =>
                  simp only [hdecrypt] at hraw
                  cases hloads : codec.loads raw with
                  | error e =>
                      exact .unreadable (.unreadable e) fun disk => by rw [hraw, hloads]; rfl
                  | ok profiles => exact .plain profiles hkey fun disk => by rw [hraw, hloads]; rfl

/-- A file holds one list of profiles at most. -/
theorem holds_unique {other : ConnectionStore} (h : codec.Holds environment file profiles)
    (hother : codec.Holds environment file other) : other = profiles := by
  obtain ⟨_, hrun⟩ := h
  obtain ⟨_, hrun'⟩ := hother
  cases hrun.symm.trans hrun'
  rfl

/-- What is written with a key is read with it. -/
theorem holds_encrypted (hfaithful : codec.Faithful) {key : String}
    (hkey : codec.encryptionKey environment = .ok key) :
    codec.Holds environment (some (codec.encrypt key (codec.dumps profiles))) profiles := by
  have hvalid := valid_of_encryption_key hkey
  refine ⟨some (codec.encrypt key (codec.dumps profiles)), ?_⟩
  unfold StoreCodec.loadAll
  rw [Stateful.run_get_bind]
  dsimp only
  rw [if_neg (by simpa using hfaithful.encrypt_nonempty key _ hvalid)]
  unfold StoreCodec.loadRaw
  rw [hkey, Stateful.ofExcept, pure_bind, hfaithful.decrypt_encrypt key _ hvalid]
  dsimp only
  rw [hfaithful.loads_dumps]
  rfl

/-- What is left of a write that broke off is empty, complete or unreadable. -/
theorem holds_torn (hfaithful : codec.Faithful) {key : String} {bytes : Nat}
    {other : ConnectionStore} (hkey : codec.encryptionKey environment = .ok key)
    (h : codec.Holds environment (some ((codec.encrypt key (codec.dumps profiles)).take bytes))
      other) : other = [] ∨ other = profiles := by
  have hvalid := valid_of_encryption_key hkey
  by_cases hall : (codec.encrypt key (codec.dumps profiles)).length ≤ bytes
  · rw [List.take_of_length_le hall] at h
    exact .inr (holds_unique (holds_encrypted hfaithful hkey) h)
  obtain ⟨_, hrun⟩ := h
  unfold StoreCodec.loadAll at hrun
  rw [Stateful.run_get_bind] at hrun
  dsimp only at hrun
  split at hrun
  · cases hrun
    exact .inl rfl
  · rename_i hnonempty
    have hpositive : 0 < bytes := by
      by_contra hzero
      rw [Nat.eq_zero_of_not_pos hzero] at hnonempty
      exact hnonempty rfl
    obtain ⟨hdecrypt, e, hloads⟩ := hfaithful.torn key (codec.dumps profiles) bytes hvalid hpositive
      (Nat.lt_of_not_le hall)
    unfold StoreCodec.loadRaw at hrun
    rw [hkey, Stateful.ofExcept, pure_bind, hdecrypt] at hrun
    dsimp only at hrun
    rw [hloads] at hrun
    cases hrun

/-! ## One mutation -/

/-- Saving ends with the profiles in the file. If it raises, then the file is as it was, or a write
broke off, and then it holds nothing else than no profiles or these. -/
theorem save_all_ends (hfaithful : codec.Faithful) :
    Ends (codec.saveAll environment disk profiles) file
      (fun _ after => codec.Holds environment after profiles) fun after =>
        (disk.Whole → after = file) ∧ (after = file ∨
          ∀ other, codec.Holds environment after other → other = [] ∨ other = profiles) := by
  unfold StoreCodec.saveAll
  refine Stateful.ends_bind (Stateful.ends_ofExcept (fun key hkey => ?_) ⟨fun _ => rfl, .inl rfl⟩)
  refine (write_bytes_ends _).mono (fun _ after hafter => ?_) fun after hafter => ?_
  · rw [hafter]
    exact holds_encrypted hfaithful hkey
  · refine ⟨hafter.1, hafter.2.imp_right fun hbroken other hother => ?_⟩
    obtain ⟨bytes, rfl⟩ := hbroken
    exact holds_torn hfaithful hkey hother

/-- Reading what the file holds ends with it, and the file still holds it, unless a write breaks
off. -/
theorem load_all_ends (hfaithful : codec.Faithful) (h : codec.Holds environment file profiles) :
    Ends (codec.loadAll environment disk) file
      (fun read after => read = profiles ∧ codec.Holds environment after profiles) fun after =>
        (disk.Whole → codec.Holds environment after profiles) ∧
          ∀ other, codec.Holds environment after other → other = [] ∨ other = profiles := by
  have hsame : ∀ other, codec.Holds environment file other → other = [] ∨ other = profiles :=
    fun other hother => .inr (holds_unique h hother)
  obtain ⟨final, hwritable⟩ := id h
  cases load_all_cases codec environment file with
  | read read hrun =>
    cases (hrun writable).symm.trans hwritable
    rw [Ends, hrun disk]
    exact ⟨rfl, h⟩
  | plain read hkey hrun =>
    -- The same profiles are read with every disk, and written again.
    have hread : read = profiles := by
      rw [hrun writable, EStateM.run_bind] at hwritable
      cases hsave : (codec.saveAll environment writable read).run file with
      | ok _ after =>
          rw [hsave] at hwritable
          cases hwritable
          rfl
      | error e after =>
          rw [hsave] at hwritable
          cases hwritable
    subst hread
    rw [Ends, hrun disk]
    refine Stateful.ends_bind ((save_all_ends hfaithful).mono (fun _ after hafter => ?_)
      fun after hafter => ⟨fun hwhole => ?_, ?_⟩)
    · exact ⟨rfl, hafter⟩
    · rw [hafter.1 hwhole]
      exact h
    · rcases hafter.2 with rfl | hbroken
      · exact hsame
      · exact hbroken
  | unreadable e hrun => cases (hrun writable).symm.trans hwritable

/-- A mutation that returns has changed the profiles in the file as it should, and one that raises
has left them, unless a write breaks off. -/
theorem mutate_ends (hfaithful : codec.Faithful) (h : codec.Holds environment file profiles)
    (step : StoreAction Byte) :
    Ends (codec.mutate environment step) file
      (fun _ after => codec.Holds environment after (step.mutation.apply profiles)) fun after =>
        (step.disk.Whole → codec.Holds environment after profiles) ∧
          ∀ other, codec.Holds environment after other →
            other = [] ∨ other = profiles ∨ other = step.mutation.apply profiles := by
  unfold StoreCodec.mutate
  refine Stateful.ends_bind ((load_all_ends hfaithful h).mono (fun read middle hread => ?_)
    fun after hafter => ⟨hafter.1, fun other hother => (hafter.2 other hother).imp_right .inl⟩)
  obtain ⟨rfl, hmiddle⟩ := hread
  have hsame : ∀ other, codec.Holds environment middle other →
      other = [] ∨ other = read ∨ other = step.mutation.apply read :=
    fun other hother => .inr (.inl (holds_unique hmiddle hother))
  refine Stateful.ends_bind (Stateful.ends_ofExcept (fun changed hchanged => ?_)
    ⟨fun _ => hmiddle, hsame⟩)
  obtain ⟨answer, saved⟩ := changed
  cases saved with
  | none =>
      have happly : step.mutation.apply read = read := by rw [StoreMutation.apply, hchanged]
      rw [happly]
      exact hmiddle
  | some result =>
      have happly : step.mutation.apply read = result := by rw [StoreMutation.apply, hchanged]
      rw [happly] at hsame ⊢
      refine Stateful.ends_bind ((save_all_ends hfaithful).mono (fun _ _ hafter => hafter)
        fun after hafter => ⟨fun hwhole => ?_, ?_⟩)
      · rw [hafter.1 hwhole]
        exact hmiddle
      · rcases hafter.2 with rfl | hbroken
        · exact hsame
        · exact fun other hother => (hbroken other hother).imp_right .inr

/-- With a valid key and a disk that takes every write, what the file holds after a mutation is what
the mutation makes of it. -/
theorem act_holds (hfaithful : codec.Faithful) {key : String}
    (hkey : codec.encryptionKey environment = .ok key) (h : codec.Holds environment file profiles)
    (mutation : StoreMutation) :
    codec.Holds environment (codec.act environment ⟨mutation, writable⟩ file)
      (mutation.apply profiles) := by
  have hends : Ends (codec.mutate environment ⟨mutation, writable⟩) file
      (fun _ after => codec.Holds environment after (mutation.apply profiles))
      fun after => codec.Holds environment after (mutation.apply profiles) := by
    unfold StoreCodec.mutate
    obtain ⟨middle, hload⟩ := id h
    have hmiddle : codec.Holds environment middle profiles :=
      ((load_all_ends hfaithful h).of_ok hload).2
    refine Stateful.ends_bind (Stateful.ends_of_run (fun read final hread => ?_)
      fun e final herror => ?_)
    · cases hload.symm.trans hread
      refine Stateful.ends_bind ?_
      cases hchange : mutation.change profiles with
      | error e =>
          have happly : mutation.apply profiles = profiles := by rw [StoreMutation.apply, hchange]
          rw [happly]
          exact Stateful.ends_throw hmiddle
      | ok changed =>
          obtain ⟨answer, saved⟩ := changed
          cases saved with
          | none =>
              have happly : mutation.apply profiles = profiles := by
                rw [StoreMutation.apply, hchange]
              rw [happly]
              exact Stateful.ends_pure hmiddle
          | some result =>
              have happly : mutation.apply profiles = result := by rw [StoreMutation.apply, hchange]
              rw [happly]
              refine Stateful.ends_pure (Stateful.ends_bind ?_)
              unfold StoreCodec.saveAll
              rw [hkey, Stateful.ofExcept, pure_bind]
              exact holds_encrypted hfaithful hkey
    · cases hload.symm.trans herror
  exact hends.stateOf

/-- With a valid key and a disk that takes every write, a history of mutations of the file makes of
the profiles in it what the same history makes of the profiles. -/
theorem after_holds (hfaithful : codec.Faithful) {key : String}
    (hkey : codec.encryptionKey environment = .ok key) (h : codec.Holds environment file profiles)
    (history : List StoreMutation) :
    codec.Holds environment
      (History.after (codec.act environment)
        (history.map fun mutation => ⟨mutation, writable⟩) file)
      (History.after StoreMutation.apply history profiles) := by
  induction history generalizing file profiles with
  | nil => exact h
  | cons mutation history ih => exact ih (act_holds hfaithful hkey h mutation)

end

/-! ## Histories of mutations -/

/-- The profiles differ at most in one place, where the profile that the mutation names was before
and the one that it leaves is afterwards. All others keep their contents and their order. -/
def ChangesOnly (mutation : StoreMutation) (before after : ConnectionStore) : Prop :=
  ∃ (first last : ConnectionStore) (old new : Option ConnectionProfile),
    before = first ++ old.toList ++ last ∧ after = first ++ new.toList ++ last ∧
      (∀ profile ∈ old, profile.key = mutation.key) ∧
      ∀ profile ∈ new, profile.key = mutation.targetKey

theorem changes_only_refl (mutation : StoreMutation) (store : ConnectionStore) :
    ChangesOnly mutation store store :=
  ⟨store, [], none, none, by simp, by simp, by simp, by simp⟩

/-- What a mutation does to a file, whatever becomes of its writes. The profiles that can be read
have distinct keys before and after it; if it returns, it changes only the profile that it names; if
it raises, it changes nothing unless a write breaks off, and then nothing else can be read than no
profiles or such a change. A file that cannot be read stays as it is. -/
structure MutationKept {Byte : Type} (codec : StoreCodec Byte) (environment : Option String)
    (step : StoreAction Byte) (file : Option (List Byte)) : Prop where
  distinctBefore : ∀ profiles, codec.Holds environment file profiles → KeysDistinct profiles
  distinctAfter : ∀ profiles, codec.Holds environment (codec.act environment step file) profiles →
    KeysDistinct profiles
  returns : ∀ before, codec.Holds environment file before → ¬ codec.Raises environment step file →
    ∃ after, codec.Holds environment (codec.act environment step file) after ∧
      ChangesOnly step.mutation before after
  raises : step.disk.Whole → codec.UnchangedWhenRaised environment step file
  breaks : ∀ before after, codec.Holds environment file before →
    codec.Holds environment (codec.act environment step file) after →
    after = [] ∨ ChangesOnly step.mutation before after
  unreadable : (∀ profiles, ¬ codec.Holds environment file profiles) →
    codec.Raises environment step file ∧ codec.act environment step file = file

namespace StoreMutation

variable {mutation : StoreMutation} {store : ConnectionStore}

/-- A mutation changes only the profile that it names. -/
theorem apply_changes_only (hdistinct : KeysDistinct store) (mutation : StoreMutation) :
    ChangesOnly mutation store (mutation.apply store) := by
  by_cases h : mutation.Possible (storeView store)
  · obtain ⟨first, last, hstore, happly⟩ := apply_splits hdistinct h
    exact ⟨first, last, _, _, hstore, happly, fun _ hold => (key_of_store_view hold).2,
      fun _ => key_of_rewrite⟩
  · rw [apply_of_not_possible hdistinct h]
    exact changes_only_refl mutation store

end StoreMutation

section

variable {Byte : Type} {codec : StoreCodec Byte} {environment : Option String}
  {file : Option (List Byte)} {before : ConnectionStore}

/-- What a file whose profiles have distinct keys can hold after a mutation. -/
theorem act_ends (hfaithful : codec.Faithful) (hheld : codec.Holds environment file before)
    (step : StoreAction Byte) :
    (¬ codec.Raises environment step file →
      codec.Holds environment (codec.act environment step file) (step.mutation.apply before)) ∧
    (step.disk.Whole → codec.Raises environment step file →
      codec.Holds environment (codec.act environment step file) before) ∧
    ∀ after, codec.Holds environment (codec.act environment step file) after →
      after = [] ∨ after = before ∨ after = step.mutation.apply before := by
  have hends := mutate_ends hfaithful hheld step
  unfold StoreCodec.act StoreCodec.Raises
  cases hrun : (codec.mutate environment step).run file with
  | ok answer final =>
      have hfinal := hends.of_ok hrun
      refine ⟨fun _ => hfinal, fun _ hraises => ?_,
        fun after hafter => .inr (.inr (holds_unique hfinal hafter))⟩
      obtain ⟨_, _, herror⟩ := hraises
      cases herror
  | error e final =>
      have hfinal := hends.of_error hrun
      exact ⟨fun hreturns => absurd ⟨e, final, rfl⟩ hreturns, fun hwhole _ => hfinal.1 hwhole,
        hfinal.2⟩

/-- A file that cannot be read makes every mutation raise. -/
theorem act_unreadable (h : ∀ profiles, ¬ codec.Holds environment file profiles)
    (step : StoreAction Byte) :
    codec.Raises environment step file ∧ codec.act environment step file = file := by
  cases load_all_cases codec environment file with
  | read profiles hrun => exact absurd ⟨_, hrun writable⟩ (h profiles)
  | @plain profiles key hkey hrun =>
    refine absurd ⟨some (codec.encrypt key (codec.dumps profiles)), ?_⟩ (h profiles)
    rw [hrun writable]
    unfold StoreCodec.saveAll
    rw [hkey]
    rfl
  | unreadable e hrun =>
    have hmutate : (codec.mutate environment step).run file = .error e file := by
      unfold StoreCodec.mutate
      rw [EStateM.run_bind, hrun step.disk]
    exact ⟨⟨e, file, hmutate⟩, by rw [StoreCodec.act, hmutate]; rfl⟩

/-- One mutation of a file whose profiles have distinct keys. -/
theorem mutation_kept (hfaithful : codec.Faithful)
    (hdistinct : ∀ profiles, codec.Holds environment file profiles → KeysDistinct profiles)
    (step : StoreAction Byte) : MutationKept codec environment step file := by
  by_cases hread : ∃ before, codec.Holds environment file before
  · obtain ⟨before, hheld⟩ := hread
    have hbefore := hdistinct before hheld
    have hchanges := StoreMutation.apply_changes_only hbefore step.mutation
    obtain ⟨hreturns, hraises, hholds⟩ := act_ends hfaithful hheld step
    refine ⟨hdistinct, fun after hafter => ?_, fun other hother hreturned => ?_,
      fun hwhole hraised other hother => ?_, fun other after hother hafter => ?_,
      fun hunreadable => absurd hheld (hunreadable before)⟩
    · rcases hholds after hafter with rfl | rfl | rfl
      · exact List.nodup_nil
      · exact hbefore
      · exact StoreMutation.apply_distinct hbefore step.mutation
    · rw [holds_unique hheld hother]
      exact ⟨_, hreturns hreturned, hchanges⟩
    · rw [holds_unique hheld hother]
      exact hraises hwhole hraised
    · rw [holds_unique hheld hother]
      refine (hholds after hafter).imp_right fun hchanged => ?_
      rcases hchanged with rfl | rfl
      · exact changes_only_refl step.mutation after
      · exact hchanges
  · have hunreadable : ∀ profiles, ¬ codec.Holds environment file profiles :=
      fun profiles hheld => hread ⟨profiles, hheld⟩
    have hsame := act_unreadable hunreadable step
    refine ⟨hdistinct, ?_, fun before hheld => absurd hheld (hunreadable before),
      fun _ _ before hheld => absurd hheld (hunreadable before),
      fun before _ hheld => absurd hheld (hunreadable before), fun _ => hsame⟩
    rw [hsame.2]
    exact hdistinct

/-- From a file whose profiles have distinct keys, every mutation of every history keeps them
distinct and changes only the profile that it names. It changes nothing when it raises, unless the
writing of the file breaks off. -/
theorem connection_store_kept (codec : StoreCodec Byte) (hfaithful : codec.Faithful)
    (environment : Option String) (history : List (StoreAction Byte)) (start : Option (List Byte))
    (profiles : ConnectionStore) (hstart : codec.Holds environment start profiles)
    (hdistinct : KeysDistinct profiles) :
    History.AllSteps (codec.act environment) history start fun file step =>
      MutationKept codec environment step file := by
  have hkept : ∀ file,
      (∀ profiles, codec.Holds environment file profiles → KeysDistinct profiles) →
      History.AllSteps (codec.act environment) history file fun file step =>
        MutationKept codec environment step file := by
    induction history with
    | nil => exact fun _ _ => History.all_steps_nil
    | cons step history ih =>
        intro file hfile
        have hstep := mutation_kept hfaithful hfile step
        exact History.all_steps_cons.mpr ⟨hstep, ih _ hstep.distinctAfter⟩
  refine hkept start fun other hother => ?_
  rw [holds_unique hstart hother]
  exact hdistinct

end

/-! ### A file from before there was encryption -/

/-- What a file is made of: the version that starts an encrypted text, the text itself, sealed with
a key, or profiles as JSON. -/
inductive StoreToken where
  | version
  | sealed (key : String) (text : List StoreToken)
  | json (profiles : ConnectionStore)

/-- Encryption with one valid key. -/
def sealedCodec : StoreCodec StoreToken where
  invalidKey key := if key = "key" then none else some "Fernet key must be 32 bytes"
  encrypt key text := [.version, .sealed key text]
  decrypt key
    | [.version, .sealed other text] => if other = key then some text else none
    | _ => none
  dumps profiles := [.json profiles]
  loads
    | [.json profiles] => .ok profiles
    | _ => .error "Expecting value"

theorem sealed_codec_faithful : sealedCodec.Faithful where
  decrypt_encrypt _ _ _ := if_pos rfl
  encrypt_nonempty _ _ _ := nofun
  loads_dumps _ := rfl
  torn _ _ bytes _ hpositive hless := by
    obtain rfl : bytes = 1 := Nat.le_antisymm (Nat.le_of_lt_succ hless) hpositive
    exact ⟨rfl, _, rfl⟩

/-- The profiles of the file, which has not been encrypted yet. -/
def plainProfiles : ConnectionStore :=
  [⟨"mail", "smtp", .empty, some "alice"⟩, ⟨"mail", "smtp", .empty, none⟩]

/-- A disk on which every write breaks off after so many bytes. -/
def breaking (bytes : Nat) : Disk StoreToken := fun _ _ => .broken bytes "No space left on device"

/-- A taken name, a change, a hand-over to an owner who has the name, and a deletion whose write
breaks off. -/
def plainHistory : List (StoreAction StoreToken) :=
  [⟨.add "mail" "smtp" .empty none, writable⟩,
    ⟨.updateConfig "mail" none (.ofList [("host", .str "h")]), writable⟩,
    ⟨.setOwner "mail" (some "alice") none, writable⟩, ⟨.delete "mail" none, breaking 1⟩]

/-- The history keeps the keys of that file distinct. -/
theorem plain_history_kept :
    History.AllSteps (sealedCodec.act (some "key")) plainHistory (some [.json plainProfiles])
      fun file step => MutationKept sealedCodec (some "key") step file :=
  connection_store_kept sealedCodec sealed_codec_faithful (some "key") plainHistory _ plainProfiles
    ⟨_, rfl⟩ (by unfold KeysDistinct; decide)

/-- A deletion that cannot write the rest leaves an empty file: both profiles are lost. -/
theorem broken_write_empties_store :
    ¬ sealedCodec.UnchangedWhenRaised (some "key") ⟨.delete "mail" none, breaking 0⟩
      (some [.version, .sealed "key" [.json plainProfiles]]) := by
  intro hunchanged
  obtain ⟨_, hread⟩ := hunchanged ⟨_, _, rfl⟩ plainProfiles ⟨_, rfl⟩
  cases hread

end AgentGraphStudio
