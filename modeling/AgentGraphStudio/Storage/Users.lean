import AgentGraphStudio.Lib.Dict
import Mathlib.Data.List.Nodup

/-!
# Accounts and invitations

`backend/storage/users_store.py`: the table of the accounts and the table of the addresses that
may have one. An account is inserted once and its row never changes; an invitation is inserted or
updated. `UserRow.Vouched` is what makes an account legitimate: a chain of admins, each inviting
the next, from an address that was bootstrapped.
-/

namespace AgentGraphStudio

/-- A row of the table `users`. -/
structure UserRow where
  id : String
  email : String
  displayName : String
  role : String
  createdAt : String
  invitedBy : Option String
  deriving DecidableEq

/-- A row of the table `invited_emails`. -/
structure InviteRow where
  email : String
  role : String
  invitedBy : Option String
  invitedAt : String
  deriving DecidableEq

/-- The database: the accounts in the order of their insertion, with their unique columns, and the
invitations by their primary key. -/
structure UsersDb where
  users : List UserRow
  invites : Dict String InviteRow
  ids_nodup : (users.map UserRow.id).Nodup
  emails_nodup : (users.map UserRow.email).Nodup
  invites_keyed : ∀ email invite, invites.get? email = some invite → invite.email = email

namespace UsersDb

/-- No accounts and no invitations. -/
def empty : UsersDb where
  users := []
  invites := .empty
  ids_nodup := List.nodup_nil
  emails_nodup := List.nodup_nil
  invites_keyed _ _ h := nomatch h

/-- Write an invitation under its address. -/
def putInvite (db : UsersDb) (invite : InviteRow) : UsersDb where
  users := db.users
  invites := db.invites.set invite.email invite
  ids_nodup := db.ids_nodup
  emails_nodup := db.emails_nodup
  invites_keyed email row h := by
    rw [Dict.get?_set] at h
    split at h
    · rename_i hemail
      cases h
      exact hemail.symm
    · exact db.invites_keyed email row h

/-- Invite an address. A row that is there keeps its date, whatever the answer says. -/
def addInvite (db : UsersDb) (email role : String) (invitedBy : Option String)
    (invitedAt : String) : InviteRow × UsersDb :=
  let invite : InviteRow := { email, role, invitedBy, invitedAt }
  let stored := (db.invites.get? email).elim invitedAt InviteRow.invitedAt
  (invite, db.putInvite { invite with invitedAt := stored })

/-- The invitation of an address. -/
def getInvite (db : UsersDb) (email : String) : Option InviteRow := db.invites.get? email

/-- Insert an account. The table refuses an id and an address that it has. -/
def createUser (db : UsersDb) (row : UserRow) : Except String (UserRow × UsersDb) :=
  if hid : row.id ∈ db.users.map UserRow.id then
    .error "UNIQUE constraint failed: users.id"
  else if hemail : row.email ∈ db.users.map UserRow.email then
    .error "UNIQUE constraint failed: users.email"
  else
    .ok (row,
      { users := db.users ++ [row]
        invites := db.invites
        ids_nodup := by
          rw [List.map_append, List.map_singleton, ← List.concat_eq_append]
          exact db.ids_nodup.concat hid
        emails_nodup := by
          rw [List.map_append, List.map_singleton, ← List.concat_eq_append]
          exact db.emails_nodup.concat hemail
        invites_keyed := db.invites_keyed })

/-- The account with an address. -/
def getUserByEmail (db : UsersDb) (email : String) : Option UserRow :=
  db.users.find? (·.email = email)

/-- The account with an id. -/
def getUserById (db : UsersDb) (id : String) : Option UserRow :=
  db.users.find? (·.id = id)

/-- Invite the configured admin, unless the address has an invitation. -/
def ensureAdminBootstrapped (db : UsersDb) (adminEmail bootstrappedAt : String) : UsersDb :=
  if (db.invites.get? adminEmail).isSome then db
  else db.putInvite ⟨adminEmail, "admin", none, bootstrappedAt⟩

/-! ## What the operations do -/

variable {db db' : UsersDb} {row row' : UserRow} {invite : InviteRow} {id email : String}

/-- Each account is found under its id. -/
theorem getUserById_of_mem (hmem : row ∈ db.users) : db.getUserById row.id = some row := by
  have hfound : (db.getUserById row.id).isSome := by
    rw [getUserById, List.find?_isSome]
    exact ⟨row, hmem, decide_eq_true rfl⟩
  obtain ⟨found, hget⟩ := Option.isSome_iff_exists.mp hfound
  unfold getUserById at hget ⊢
  have hid : found.id = row.id := by simpa using List.find?_some hget
  have heq : found = row :=
    List.inj_on_of_nodup_map db.ids_nodup (List.mem_of_find?_eq_some hget) hmem hid
  rw [hget, heq]

/-- What is found under an address is an account with this address. -/
theorem mem_of_getUserByEmail (h : db.getUserByEmail email = some row) :
    row ∈ db.users ∧ row.email = email := by
  unfold getUserByEmail at h
  exact ⟨List.mem_of_find?_eq_some h, by simpa using List.find?_some h⟩

/-- A new account stands behind those that were there. -/
theorem createUser_eq_ok (h : db.createUser row = .ok (row', db')) :
    row' = row ∧ db'.users = db.users ++ [row] ∧ db'.invites = db.invites := by
  unfold createUser at h
  split at h
  · cases h
  · split at h
    · cases h
    · cases h
      exact ⟨rfl, rfl, rfl⟩

@[simp] theorem users_putInvite (db : UsersDb) (invite : InviteRow) :
    (db.putInvite invite).users = db.users := rfl

@[simp] theorem invites_putInvite (db : UsersDb) (invite : InviteRow) :
    (db.putInvite invite).invites = db.invites.set invite.email invite := rfl

@[simp] theorem users_addInvite (role : String) (invitedBy : Option String) (invitedAt : String) :
    (db.addInvite email role invitedBy invitedAt).2.users = db.users := rfl

/-- Bootstrapping leaves the accounts alone. -/
@[simp] theorem users_ensureAdminBootstrapped (db : UsersDb) (adminEmail bootstrappedAt : String) :
    (db.ensureAdminBootstrapped adminEmail bootstrappedAt).users = db.users := by
  unfold ensureAdminBootstrapped
  split <;> rfl

end UsersDb

/-! ## Legitimate accounts -/

/-- An account is vouched for by the configuration or by an admin who is vouched for. -/
inductive UserRow.Vouched (users : List UserRow) (bootstrapped : String → Prop) :
    UserRow → Prop where
  | admin {row : UserRow} (hmem : row ∈ users) (hrole : row.role = "admin")
      (hinvitedBy : row.invitedBy = none) (hbootstrapped : bootstrapped row.email) :
      Vouched users bootstrapped row
  | invited {row inviter : UserRow} (hmem : row ∈ users)
      (hinviter : Vouched users bootstrapped inviter) (hadmin : inviter.role = "admin")
      (hinvitedBy : row.invitedBy = some inviter.id) : Vouched users bootstrapped row

/-- An invitation is the one of the configured admin or made by an admin who is vouched for. -/
def InviteRow.Vouched (users : List UserRow) (bootstrapped : String → Prop) (invite : InviteRow) :
    Prop :=
  (invite.role = "admin" ∧ invite.invitedBy = none ∧ bootstrapped invite.email) ∨
    ∃ inviter, UserRow.Vouched users bootstrapped inviter ∧ inviter.role = "admin" ∧
      invite.invitedBy = some inviter.id

section

variable {users more : List UserRow} {bootstrapped : String → Prop} {row : UserRow}
  {invite : InviteRow}

/-- What is vouched for is an account. -/
theorem UserRow.Vouched.mem (h : row.Vouched users bootstrapped) : row ∈ users := by
  cases h with
  | admin hmem => exact hmem
  | invited hmem => exact hmem

/-- An account is vouched for by what was there before as well. -/
theorem UserRow.Vouched.append (h : row.Vouched users bootstrapped) :
    row.Vouched (users ++ more) bootstrapped := by
  induction h with
  | admin hmem hrole hinvitedBy hbootstrapped =>
      exact .admin (List.mem_append_left _ hmem) hrole hinvitedBy hbootstrapped
  | invited hmem _ hadmin hinvitedBy ih =>
      exact .invited (List.mem_append_left _ hmem) ih hadmin hinvitedBy

theorem InviteRow.Vouched.append (h : invite.Vouched users bootstrapped) :
    invite.Vouched (users ++ more) bootstrapped := by
  rcases h with hadmin | ⟨inviter, hinviter, hadmin, hinvitedBy⟩
  · exact .inl hadmin
  · exact .inr ⟨inviter, hinviter.append, hadmin, hinvitedBy⟩

/-- The invitation vouches for the account that is made of it. -/
theorem InviteRow.Vouched.user (h : invite.Vouched users bootstrapped) (hmem : row ∈ users)
    (hemail : row.email = invite.email) (hrole : row.role = invite.role)
    (hinvitedBy : row.invitedBy = invite.invitedBy) : row.Vouched users bootstrapped := by
  rcases h with ⟨hadmin, hnone, hbootstrapped⟩ | ⟨inviter, hinviter, hadmin, hsome⟩
  · exact .admin hmem (hrole.trans hadmin) (hinvitedBy.trans hnone) (hemail ▸ hbootstrapped)
  · exact .invited hmem hinviter hadmin (hinvitedBy.trans hsome)

end

/-- Every account and every invitation is vouched for. -/
structure UsersDb.Vouched (bootstrapped : String → Prop) (db : UsersDb) : Prop where
  users : ∀ row ∈ db.users, row.Vouched db.users bootstrapped
  invites : ∀ email invite, db.invites.get? email = some invite →
    invite.Vouched db.users bootstrapped

namespace UsersDb.Vouched

variable {db db' : UsersDb} {bootstrapped : String → Prop} {row row' : UserRow}
  {invite : InviteRow}

theorem empty : UsersDb.empty.Vouched bootstrapped where
  users _ h := nomatch h
  invites _ _ h := nomatch h

/-- An invitation that is vouched for may be written. -/
theorem putInvite (h : db.Vouched bootstrapped) (hinvite : invite.Vouched db.users bootstrapped) :
    (db.putInvite invite).Vouched bootstrapped where
  users := h.users
  invites email row hget := by
    rw [invites_putInvite, Dict.get?_set] at hget
    split at hget
    · cases hget
      exact hinvite
    · exact h.invites email row hget

/-- Bootstrapping keeps everything vouched for. -/
theorem ensureAdminBootstrapped (h : db.Vouched bootstrapped) {adminEmail : String}
    (hadmin : bootstrapped adminEmail) (bootstrappedAt : String) :
    (db.ensureAdminBootstrapped adminEmail bootstrappedAt).Vouched bootstrapped := by
  unfold UsersDb.ensureAdminBootstrapped
  split
  · exact h
  · exact h.putInvite (.inl ⟨rfl, rfl, hadmin⟩)

/-- An admin may invite. -/
theorem addInvite (h : db.Vouched bootstrapped) {inviter : UserRow} (hmem : inviter ∈ db.users)
    (hadmin : inviter.role = "admin") (email role invitedAt : String) :
    (db.addInvite email role (some inviter.id) invitedAt).2.Vouched bootstrapped :=
  h.putInvite (.inr ⟨inviter, h.users _ hmem, hadmin, rfl⟩)

/-- An account may be made of an invitation that is vouched for. -/
theorem createUser (h : db.Vouched bootstrapped) (hinvite : invite.Vouched db.users bootstrapped)
    (hemail : row.email = invite.email) (hrole : row.role = invite.role)
    (hinvitedBy : row.invitedBy = invite.invitedBy)
    (hcreate : db.createUser row = .ok (row', db')) :
    db'.Vouched bootstrapped := by
  obtain ⟨_, husers, hinvites⟩ := createUser_eq_ok hcreate
  refine ⟨fun other hother => ?_, fun email other hother => ?_⟩
  · rw [husers] at hother ⊢
    rcases List.mem_append.mp hother with hold | hnew
    · exact (h.users other hold).append
    · cases List.mem_singleton.mp hnew
      exact hinvite.append.user hother hemail hrole hinvitedBy
  · rw [hinvites] at hother
    rw [husers]
    exact (h.invites email other hother).append

end UsersDb.Vouched

end AgentGraphStudio
