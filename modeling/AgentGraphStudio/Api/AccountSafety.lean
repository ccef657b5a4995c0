import AgentGraphStudio.Api.Accounts

/-!
# No account without an admin's invitation

Whatever the interleaving of sign-ins, invitations, consents and restarts, every account goes back
to a configured admin by a chain of invitations, every session that verifies is that of an account,
and a sign-in ends where it began: `accounts_safe`.
-/

namespace AgentGraphStudio

section

variable {Token : Type}

/-- A step that was taken, with its answer. -/
abbrev AccountEvent (Token : Type) := Event (AccountOp Token) (AccountRes Token)

/-- What has happened to the accounts. -/
abbrev AccountHistory (Token : Type) := List (AccountEvent Token)

/-- The claims of a session of the account. -/
def UserRow.session (row : UserRow) : SessionClaims := ⟨.str row.id, .str row.email, .str row.role⟩

/-- What the account is shown as to its user. -/
def UserRow.me (row : UserRow) : MeResponse := ⟨row.id, row.email, row.displayName, row.role⟩

/-- The token verified as a session with these claims. -/
def Verified (history : AccountHistory Token) (token : Token) (claims : SessionClaims) : Prop :=
  (⟨.verifyToken token, .ok (some claims)⟩ : AccountEvent Token) ∈ history

/-- The state was handed out to lead back there. -/
def HandedOut (history : AccountHistory Token) (redirectTo : String) (state : Token) : Prop :=
  (⟨.issueStateToken redirectTo, .ok state⟩ : AccountEvent Token) ∈ history

/-- The address was found to be invited. -/
def FoundInvited (history : AccountHistory Token) (email : String) (invite : InviteRow) : Prop :=
  (⟨.getInvite email, some invite⟩ : AccountEvent Token) ∈ history

/-- The store has shown the account, when it was looked for or when it was made. -/
def Shown (history : AccountHistory Token) (row : UserRow) : Prop :=
  (∃ email, (⟨.getUserByEmail email, some row⟩ : AccountEvent Token) ∈
      history) ∨
    ∃ new, (⟨.createUser new, .ok row⟩ : AccountEvent Token) ∈ history

/-! ## What the threads may do -/

/-- The steps that a thread may take: an account is made for an invitation, a session is for an
account, an invitation is made with the session of an admin. -/
def AccountThread.Permitted (thread : AccountThread Token) (history : AccountHistory Token) :
    AccountOp Token → Prop
  | .issueToken userId email role =>
    ∃ row, Shown history row ∧ userId = row.id ∧ email = row.email ∧ role = row.role
  | .issueStateToken redirectTo => thread = .googleLogin redirectTo
  | .addInvite _ _ invitedBy _ => ∃ token claims, Verified history token claims ∧
    claims.role = .str "admin" ∧ claims.userId = invitedBy
  | .createUser row => ∃ invite, FoundInvited history row.email invite ∧
    row.role = invite.role ∧ row.invitedBy = invite.invitedBy
  | .ensureAdminBootstrapped adminEmail _ => thread = .lifespan adminEmail
  | _ => True

/-- What the answers say, whoever asked. -/
def AccountAnswers (history : AccountHistory Token) :
    (op : AccountOp Token) → AccountRes Token op → Prop
  | .getInvite email, response => ∀ invite, response = some invite → invite.email = email
  | .addInvite email role invitedBy _, response =>
    response.email = email ∧ response.role = role ∧
      ∃ id, invitedBy = .str id ∧ response.invitedBy = some id
  | .getUserByEmail email, response => ∀ row, response = some row → row.email = email
  | .getUserById userId, response => ∀ token claims, Verified history token claims →
    claims.userId = userId →
      ∃ row, response = some row ∧ userId = .str row.id ∧ claims = row.session
  | .createUser row, response => ∀ user, response = .ok user → user = row
  | _, _ => True

/-- What a sign-in has behind it: the cookie, a state that was verified, the word of Google, an
invitation and an account with this address, for which the token was issued. -/
def SignedIn (history : AccountHistory Token) (code : String) (state : Token)
    (oauthState : Option Token) (redirectTo : Json) (token : Token) : Prop :=
  oauthState = some state ∧
    (⟨.verifyStateToken state, .ok (some redirectTo)⟩ : AccountEvent Token) ∈
      history ∧
    ∃ redirectUri userinfo invite row,
      (⟨.exchangeCodeForUserinfo code redirectUri, .ok userinfo⟩ :
        AccountEvent Token) ∈ history ∧
      FoundInvited history userinfo.email invite ∧ Shown history row ∧
      row.email = userinfo.email ∧
      (⟨.issueToken row.id row.email row.role, .ok token⟩ :
        AccountEvent Token) ∈ history

/-- `GET /auth/me` refuses a session only if it does not verify: its account is still there. -/
def KeepsAccount (reply : AccountReply Token) : Prop :=
  ∀ error, reply = .refused error → error = ⟨401, "Missing or invalid credential"⟩

/-- What an invitation was made with. -/
def InvitedWith (history : AccountHistory Token) (credential : AccountCredential Token)
    (email role : String) (invite : InviteRow) : Prop :=
  ∃ token claims id, credential = .session token ∧ Verified history token claims ∧
    claims.role = .str "admin" ∧ claims.userId = .str id ∧
    invite.email = email ∧ invite.role = role ∧ invite.invitedBy = some id

/-- What a thread ends with. -/
def AccountThread.Post (thread : AccountThread Token) (history : AccountHistory Token)
    (reply : AccountReply Token) : Prop :=
  match thread, reply with
  | .googleCallback code state oauthState, .signedIn redirectTo token =>
    SignedIn history code state oauthState redirectTo token
  | .getMe (.session _), reply => KeepsAccount reply
  | .inviteUser credential email role, .invited invite =>
    InvitedWith history credential email role invite
  | _, _ => True

/-! ## The state -/

/-- What a token was signed as. -/
inductive Signed (settings : AccountSettings Token) (users : List UserRow)
    (history : AccountHistory Token) (token : Token) : Prop where
  | session (row : UserRow) (hmem : row ∈ users) (now : Datetime)
      (hissue : settings.pyjwt.issueToken (some settings.secret) now row.id row.email row.role =
        .ok token)
  | signIn (redirectTo : String) (hhanded : HandedOut history redirectTo token) (now : Datetime)
      (hissue : settings.pyjwt.issueStateToken (some settings.secret) now redirectTo = .ok token)
  | consent (hissue : settings.pyjwt.Issues (some settings.secret) token .consent)

/-- What an answer on record says about the accounts. -/
def Recorded (bootstrapped : String → Prop) (users : List UserRow)
    (history : AccountHistory Token) : AccountEvent Token → Prop
  | ⟨.verifyToken _, response⟩ =>
    ∀ claims, response = .ok (some claims) → ∃ row ∈ users, claims = row.session
  | ⟨.verifyStateToken state, response⟩ => ∀ redirect, response = .ok (some redirect) →
    ∃ redirectTo, redirect = .str redirectTo ∧ HandedOut history redirectTo state
  | ⟨.getInvite email, response⟩ => ∀ invite, response = some invite →
    invite.email = email ∧ invite.Vouched users bootstrapped
  | ⟨.getUserByEmail _, response⟩ => ∀ row, response = some row → row ∈ users
  | ⟨.getUserById userId, response⟩ =>
    ∀ id, userId = .str id → ∀ row, response = some row → row ∈ users ∧ row.id = id
  | ⟨.createUser _, response⟩ => ∀ row, response = .ok row → row ∈ users
  | _ => True

/-- Accounts and invitations are vouched for, tokens were signed as what they are, and what was
answered still holds. -/
structure AccountsInvariant (settings : AccountSettings Token) (bootstrapped : String → Prop)
    (state : AccountsState Token) (history : AccountHistory Token) : Prop where
  vouched : state.db.Vouched bootstrapped
  signed : ∀ token ∈ state.issued, Signed settings state.db.users history token
  recorded : ∀ event ∈ history, Recorded bootstrapped state.db.users history event

variable {settings : AccountSettings Token} {bootstrapped : String → Prop}
  {state next : AccountsState Token} {users more : List UserRow}
  {history : AccountHistory Token} {event : AccountEvent Token}
  {token : Token}

theorem Verified.later {claims : SessionClaims} (h : Verified history token claims)
    (others : AccountHistory Token) : Verified (history ++ others) token claims :=
  List.mem_append_left _ h

theorem FoundInvited.later {email : String} {invite : InviteRow}
    (h : FoundInvited history email invite) (others : AccountHistory Token) :
    FoundInvited (history ++ others) email invite := List.mem_append_left _ h

theorem Shown.looked {row : UserRow} (email : String) :
    Shown (history ++ [⟨.getUserByEmail email, some row⟩]) row := .inl ⟨email, by simp⟩

theorem Shown.made {row : UserRow} (new : UserRow) :
    Shown (history ++ [⟨.createUser new, .ok row⟩]) row := .inr ⟨new, by simp⟩

theorem Shown.later {row : UserRow} (h : Shown history row) (others : AccountHistory Token) :
    Shown (history ++ others) row := by
  rcases h with ⟨email, hmem⟩ | ⟨new, hmem⟩
  · exact .inl ⟨email, List.mem_append_left _ hmem⟩
  · exact .inr ⟨new, List.mem_append_left _ hmem⟩

/-- A token stays signed as what it is. -/
theorem Signed.later (h : Signed settings users history token)
    (others : AccountHistory Token) :
    Signed settings (users ++ more) (history ++ others) token := by
  cases h with
  | session row hmem now hissue => exact .session row (List.mem_append_left _ hmem) now hissue
  | signIn redirectTo hhanded now hissue =>
      exact .signIn redirectTo (List.mem_append_left _ hhanded) now hissue
  | consent hissue => exact .consent hissue

/-- What was answered holds later as well. -/
theorem Recorded.later (h : Recorded bootstrapped users history event)
    (others : AccountHistory Token) :
    Recorded bootstrapped (users ++ more) (history ++ others) event := by
  obtain ⟨op, response⟩ := event
  cases op with
  | verifyToken token =>
      intro claims hclaims
      obtain ⟨row, hrow, heq⟩ := h claims hclaims
      exact ⟨row, List.mem_append_left _ hrow, heq⟩
  | verifyStateToken state =>
      intro redirect hredirect
      obtain ⟨redirectTo, heq, hhanded⟩ := h redirect hredirect
      exact ⟨redirectTo, heq, List.mem_append_left _ hhanded⟩
  | getInvite email =>
      exact fun invite hinvite => ⟨(h invite hinvite).1, (h invite hinvite).2.append⟩
  | getUserByEmail email =>
      exact fun row hrow => List.mem_append_left _ (h row hrow)
  | getUserById userId =>
      exact fun id hid row hrow =>
        ⟨List.mem_append_left _ (h id hid row hrow).1, (h id hid row hrow).2⟩
  | createUser new => exact fun row hrow => List.mem_append_left _ (h row hrow)
  | _ => trivial

/-- A step keeps the invariant if it keeps everything vouched for, removes no account, signs what
it may and is answered by what holds. -/
theorem AccountsInvariant.step (h : AccountsInvariant settings bootstrapped state history)
    (hvouched : next.db.Vouched bootstrapped) (husers : next.db.users = state.db.users ++ more)
    (hissued : ∀ token ∈ next.issued, token ∈ state.issued ∨
      Signed settings next.db.users (history ++ [event]) token)
    (hrecorded : Recorded bootstrapped next.db.users (history ++ [event]) event) :
    AccountsInvariant settings bootstrapped next (history ++ [event]) where
  vouched := hvouched
  signed token htoken := by
    rcases hissued token htoken with hold | hnew
    · rw [husers]
      exact (h.signed token hold).later [event]
    · exact hnew
  recorded entry hentry := by
    rcases List.mem_append.mp hentry with hold | hlast
    · rw [husers]
      exact (h.recorded entry hold).later [event]
    · cases List.mem_singleton.mp hlast
      exact hrecorded

/-- A step that changes nothing keeps the invariant if its answer holds. -/
theorem AccountsInvariant.read (h : AccountsInvariant settings bootstrapped state history)
    (hrecorded : Recorded bootstrapped state.db.users (history ++ [event]) event) :
    AccountsInvariant settings bootstrapped state (history ++ [event]) :=
  @AccountsInvariant.step _ settings bootstrapped state state [] history event h h.vouched
    (List.append_nil _).symm (fun _ => .inl) hrecorded

/-- A step that writes the invitations keeps the invariant if they stay vouched for. -/
theorem AccountsInvariant.write (h : AccountsInvariant settings bootstrapped state history)
    {db : UsersDb} (hvouched : db.Vouched bootstrapped) (husers : db.users = state.db.users)
    (hrecorded : Recorded bootstrapped db.users (history ++ [event]) event) :
    AccountsInvariant settings bootstrapped { state with db } (history ++ [event]) :=
  @AccountsInvariant.step _ settings bootstrapped state { state with db } [] history event h
    hvouched (husers.trans (List.append_nil _).symm) (fun _ => .inl) hrecorded

/-- A step that signs keeps the invariant if it signs what it may. -/
theorem AccountsInvariant.issue (h : AccountsInvariant settings bootstrapped state history)
    {response : Except TokenError Token}
    (hsigned : ∀ token, response = .ok token →
      Signed settings state.db.users (history ++ [event]) token)
    (hrecorded : Recorded bootstrapped state.db.users (history ++ [event]) event) :
    AccountsInvariant settings bootstrapped (state.issue response) (history ++ [event]) := by
  cases response with
  | error error => exact h.read hrecorded
  | ok token =>
      refine @AccountsInvariant.step _ settings bootstrapped state _ [] history event h h.vouched
        (List.append_nil _).symm (fun other hother => ?_) hrecorded
      rcases List.mem_append.mp hother with hold | hnew
      · exact .inl hold
      · cases List.mem_singleton.mp hnew
        exact .inr (hsigned token rfl)

/-- What has been shown is an account. -/
theorem AccountsInvariant.shown (h : AccountsInvariant settings bootstrapped state history)
    {row : UserRow} (hshown : Shown history row) : row ∈ state.db.users := by
  rcases hshown with ⟨email, hmem⟩ | ⟨new, hmem⟩
  · exact h.recorded _ hmem row rfl
  · exact h.recorded _ hmem row rfl

/-- What has verified is the session of an account. -/
theorem AccountsInvariant.verified (h : AccountsInvariant settings bootstrapped state history)
    {claims : SessionClaims} (hverified : Verified history token claims) :
    ∃ row ∈ state.db.users, claims = row.session :=
  h.recorded _ hverified claims rfl

/-! ## What verifies -/

/-- What verifies as a session was signed for an account. -/
theorem Signed.claims (h : Signed settings users history token)
    (hfaithful : settings.pyjwt.Faithful settings.secret) {now : Datetime} {claims : SessionClaims}
    (hverify : settings.pyjwt.verifyToken (some settings.secret) now token = .ok (some claims)) :
    ∃ row ∈ users, claims = row.session := by
  obtain ⟨payload, hpayload, hread⟩ := PyJwt.read_payload_eq_ok_some_iff.mp hverify
  have htyp := typ_of_session_claims hread
  cases h with
  | session row hmem issued hissue =>
      obtain ⟨expires, rfl⟩ := PyJwt.payload_of_issued hfaithful (plain_session_fields _ _ _) hissue
        hpayload
      rw [session_claims_token_payload] at hread
      exact ⟨row, hmem, (Option.some.inj hread).symm⟩
  | signIn redirectTo _ issued hissue =>
      have hkind := @PyJwt.typ_of_issues _ _ _ hfaithful .signIn _ ⟨issued, redirectTo, hissue⟩ _ _
        _ hpayload
      cases hkind.symm.trans htyp
  | consent hissue => cases (PyJwt.typ_of_issues hfaithful hissue hpayload).symm.trans htyp

/-- What verifies as the state of a sign-in was handed out for one. -/
theorem Signed.redirect (h : Signed settings users history token)
    (hfaithful : settings.pyjwt.Faithful settings.secret) {now : Datetime} {redirect : Json}
    (hverify : settings.pyjwt.verifyStateToken (some settings.secret) now token =
      .ok (some redirect)) :
    ∃ redirectTo, redirect = .str redirectTo ∧ HandedOut history redirectTo token := by
  obtain ⟨payload, hpayload, hread⟩ := PyJwt.read_payload_eq_ok_some_iff.mp hverify
  have htyp := typ_of_state_redirect hread
  cases h with
  | session row _ issued hissue =>
      have hkind := @PyJwt.typ_of_issues _ _ _ hfaithful .session _ ⟨issued, _, _, _, _, hissue⟩ _ _
        _ hpayload
      cases hkind.symm.trans htyp
  | signIn redirectTo hhanded issued hissue =>
      obtain ⟨expires, rfl⟩ := PyJwt.payload_of_issued hfaithful (plain_sign_in_fields _) hissue
        hpayload
      rw [state_redirect_token_payload] at hread
      exact ⟨redirectTo, (Option.some.inj hread).symm, hhanded⟩
  | consent hissue =>
      have hkind := PyJwt.typ_of_issues hfaithful hissue hpayload
      have htyps := hkind.symm.trans htyp
      simp [TokenKind.typ] at htyps

/-- A token that verifies as anything was signed here. -/
theorem AccountsState.Unforged.mem {now : Datetime} (h : state.Unforged settings now token)
    {payload : Dict String Json}
    (hpayload : settings.pyjwt.payload? (some settings.secret) now token = .ok (some payload)) :
    token ∈ state.issued := by
  obtain ⟨secret, ⟨hsecret, _⟩, hdecode⟩ := PyJwt.payload?_eq_ok_some_iff.mp hpayload
  cases hsecret
  exact h payload hdecode

/-! ## Steps -/

/-- Every step that a thread may take keeps the invariant, and its answer is as promised. -/
theorem accounts_preserved (hfaithful : settings.pyjwt.Faithful settings.secret)
    {thread : AccountThread Token}
    (hbootstrapped : ∀ adminEmail, thread = .lifespan adminEmail → bootstrapped adminEmail)
    (h : AccountsInvariant settings bootstrapped state history)
    (hpermitted : thread.Permitted history event.op)
    (heffect : accountsEffect settings state event next) :
    AccountAnswers history event.op event.response ∧
      AccountsInvariant settings bootstrapped next (history ++ [event]) := by
  obtain ⟨op, response⟩ := event
  cases op with
  | utcnowIso =>
      cases (show next = state from heffect)
      exact ⟨trivial, h.read trivial⟩
  | uuid4 =>
      cases (show next = state from heffect)
      exact ⟨trivial, h.read trivial⟩
  | getPublicBaseUrl =>
      cases (show next = state from heffect)
      exact ⟨trivial, h.read trivial⟩
  | exchangeCodeForUserinfo code redirectUri =>
      cases (show next = state from heffect)
      exact ⟨trivial, h.read trivial⟩
  | issueToken userId email role =>
      obtain ⟨⟨now, hissue⟩, rfl⟩ := heffect
      obtain ⟨row, hshown, rfl, rfl, rfl⟩ := hpermitted
      refine ⟨trivial, h.issue (fun token htoken => ?_) trivial⟩
      exact .session row (h.shown hshown) now (hissue.symm.trans htoken)
  | issueStateToken redirectTo =>
      obtain ⟨⟨now, hissue⟩, rfl⟩ := heffect
      refine ⟨trivial, h.issue (fun token htoken => ?_) trivial⟩
      refine .signIn redirectTo (List.mem_append_right _ ?_) now (hissue.symm.trans htoken)
      exact htoken ▸ List.mem_singleton_self _
  | issueMcpOauthStateToken userId connectionName codeVerifier redirectTo popup =>
      obtain ⟨⟨now, hissue⟩, rfl⟩ := heffect
      refine ⟨trivial, h.issue (fun token htoken => ?_) trivial⟩
      exact .consent ⟨now, _, _, _, _, _, hissue.symm.trans htoken⟩
  | verifyToken token =>
      obtain ⟨⟨now, hunforged, hverify⟩, rfl⟩ := heffect
      refine ⟨trivial, h.read fun claims hclaims => ?_⟩
      have haccepted := hverify.symm.trans hclaims
      obtain ⟨_, hpayload, _⟩ := PyJwt.read_payload_eq_ok_some_iff.mp haccepted
      exact (h.signed token (hunforged.mem hpayload)).claims hfaithful haccepted
  | verifyStateToken token =>
      obtain ⟨⟨now, hunforged, hverify⟩, rfl⟩ := heffect
      refine ⟨trivial, h.read fun redirect hredirect => ?_⟩
      have haccepted := hverify.symm.trans hredirect
      obtain ⟨_, hpayload, _⟩ := PyJwt.read_payload_eq_ok_some_iff.mp haccepted
      obtain ⟨redirectTo, heq, hhanded⟩ :=
        (h.signed token (hunforged.mem hpayload)).redirect hfaithful haccepted
      exact ⟨redirectTo, heq, List.mem_append_left _ hhanded⟩
  | getInvite email =>
      obtain ⟨rfl, rfl⟩ := heffect
      have hkeyed := next.db.invites_keyed email
      refine ⟨hkeyed, h.read fun invite hinvite => ?_⟩
      exact ⟨hkeyed invite hinvite, h.vouched.invites email invite hinvite⟩
  | addInvite email role invitedBy invitedAt =>
      obtain ⟨token, claims, hverified, hrole, rfl⟩ := hpermitted
      obtain ⟨inviter, hmem, rfl⟩ := h.verified hverified
      obtain ⟨rfl, rfl⟩ := heffect inviter.id rfl
      have hadmin : inviter.role = "admin" := Json.str.inj hrole
      refine ⟨⟨rfl, rfl, inviter.id, rfl, rfl⟩, h.write ?_ rfl trivial⟩
      exact h.vouched.addInvite hmem hadmin email role invitedAt
  | getUserByEmail email =>
      obtain ⟨rfl, rfl⟩ := heffect
      refine ⟨fun row hrow => (UsersDb.mem_of_getUserByEmail hrow).2, h.read ?_⟩
      exact fun row hrow => (UsersDb.mem_of_getUserByEmail hrow).1
  | getUserById userId =>
      obtain ⟨hresponse, rfl⟩ := heffect
      refine ⟨fun token claims hverified hid => ?_, h.read fun id hid row hrow => ?_⟩
      · obtain ⟨row, hmem, rfl⟩ := h.verified hverified
        refine ⟨row, ?_, hid.symm, rfl⟩
        exact (hresponse row.id hid.symm).trans (UsersDb.getUserById_of_mem hmem)
      · have hfound := (hresponse id hid).symm.trans hrow
        exact ⟨List.mem_of_find?_eq_some hfound, of_decide_eq_true (List.find?_some hfound :)⟩
  | createUser row =>
      cases response with
      | error text =>
          obtain ⟨_, rfl⟩ := heffect
          refine ⟨fun user huser => ?_, h.read fun user huser => ?_⟩
          · cases huser
          · cases huser
      | ok user =>
          obtain ⟨db, hcreate, rfl⟩ := heffect
          obtain ⟨rfl, husers, _⟩ := UsersDb.createUser_eq_ok hcreate
          obtain ⟨invite, hinvite, hrole, hinvitedBy⟩ := hpermitted
          obtain ⟨hemail, hvouches⟩ := h.recorded _ hinvite invite rfl
          have hvouched :=
            h.vouched.createUser hvouches hemail.symm hrole hinvitedBy hcreate
          refine ⟨fun made hmade => (Except.ok.inj hmade).symm,
            @AccountsInvariant.step _ settings bootstrapped state _ [user] history _ h hvouched
              husers (fun _ => .inl) fun made hmade => ?_⟩
          cases hmade
          show user ∈ db.users
          rw [husers]
          simp
  | ensureAdminBootstrapped adminEmail bootstrappedAt =>
      cases (show next = _ from heffect)
      refine ⟨trivial, h.write ?_ (UsersDb.users_ensureAdminBootstrapped _ _ _) trivial⟩
      exact h.vouched.ensureAdminBootstrapped (hbootstrapped adminEmail hpermitted) bootstrappedAt

/-! ## The threads -/

section

variable [DecidableEq Token] {thread : AccountThread Token}

/-- A part of a request in the surroundings of its thread. -/
abbrev AccountCertified (thread : AccountThread Token) (history : AccountHistory Token) {α : Type}
    (program : AccountProgram Token α) (post : AccountHistory Token → α → Prop) : Prop :=
  Program.Certified thread.Permitted AccountAnswers history program post

omit [DecidableEq Token] in
/-- The account of an invited user is one that was shown, with the user's address. -/
theorem find_or_create_user_certified {userinfo : GoogleUserInfo} {invite : InviteRow}
    (hinvite : FoundInvited history userinfo.email invite) :
    AccountCertified thread history (findOrCreateUser userinfo invite) fun history found =>
      ∀ user, found = .ok user → Shown history user ∧ user.email = userinfo.email := by
  intro others
  refine ⟨trivial, fun found hfound => ?_⟩
  cases found with
  | some user =>
      refine Program.Certified.done fun more shown hshown => ?_
      cases hshown
      exact ⟨(Shown.looked _).later more, hfound user rfl⟩
  | none =>
      intro others'
      refine ⟨trivial, fun userId _ more => ⟨trivial, fun createdAt _ last => ?_⟩⟩
      refine ⟨⟨invite, ?_, rfl, rfl⟩, fun response hresponse rest shown hshown => ?_⟩
      · exact ((((((hinvite.later _).later _).later _).later _).later _).later _).later _
      · subst hshown
        refine ⟨(Shown.made _).later rest, ?_⟩
        rw [hresponse shown rfl]

omit [DecidableEq Token] in
/-- A sign-in of a user whom Google vouches for ends with a session of an account that has this
user's address, which is invited. -/
theorem sign_in_certified (redirectTo : Json) (userinfo : GoogleUserInfo) :
    AccountCertified thread history (signIn redirectTo userinfo) fun history reply =>
      ∀ redirect token, reply = .signedIn redirect token → redirect = redirectTo ∧
        ∃ invite row, FoundInvited history userinfo.email invite ∧ Shown history row ∧
          row.email = userinfo.email ∧
          (⟨.issueToken row.id row.email row.role, .ok token⟩ :
            AccountEvent Token) ∈ history := by
  intro others
  refine ⟨trivial, fun found _ => ?_⟩
  cases found with
  | none =>
      refine Program.Certified.done fun _ redirect token hreply => ?_
      cases hreply
  | some invite =>
      have hinvite : FoundInvited (history ++ others ++ [⟨.getInvite userinfo.email, some invite⟩])
          userinfo.email invite := List.mem_append_right _ (List.mem_singleton_self _)
      refine (find_or_create_user_certified hinvite).bind fun more found hfound => ?_
      cases found with
      | error text =>
          refine Program.Certified.done fun _ redirect token hreply => ?_
          cases hreply
      | ok user =>
          intro last
          obtain ⟨hshown, hemail⟩ := hfound last user rfl
          refine ⟨⟨user, hshown, rfl, rfl, rfl⟩, fun response _ => ?_⟩
          cases response with
          | error error =>
              refine Program.Certified.done fun _ redirect token hreply => ?_
              cases hreply
          | ok token =>
              refine Program.Certified.done fun rest redirect issued hreply => ?_
              cases hreply
              refine ⟨rfl, invite, user, ?_, ?_, hemail, ?_⟩
              · exact (((hinvite.later _).later _).later _).later _
              · exact (hshown.later _).later _
              · exact List.mem_append_left _ (List.mem_append_right _ (List.mem_singleton_self _))

/-- A callback that signs in has everything behind it. -/
theorem google_callback_certified (code : String) (state : Token) (oauthState : Option Token) :
    AccountCertified thread history (googleCallback code state oauthState) fun history reply =>
      ∀ redirectTo token, reply = .signedIn redirectTo token →
        SignedIn history code state oauthState redirectTo token := by
  unfold googleCallback
  by_cases hcookie : oauthState = some state
  · rw [if_neg (not_not_intro hcookie)]
    intro others
    refine ⟨trivial, fun verified _ => ?_⟩
    cases verified with
    | error error =>
        refine Program.Certified.done fun _ redirectTo token hreply => ?_
        cases hreply
    | ok verified =>
        cases verified with
        | none =>
            refine Program.Certified.done fun _ redirectTo token hreply => ?_
            cases hreply
        | some redirectTo =>
            refine fun others' =>
              ⟨trivial, fun publicBaseUrl _ last => ⟨trivial, fun found _ => ?_⟩⟩
            cases found with
            | error failure =>
                cases failure with
                | oauth text =>
                    refine Program.Certified.done fun _ redirectTo token hreply => ?_
                    cases hreply
                | other text =>
                    refine Program.Certified.done fun _ redirectTo token hreply => ?_
                    cases hreply
            | ok userinfo =>
                let verified : AccountEvent Token :=
                  ⟨.verifyStateToken state, .ok (some redirectTo)⟩
                let exchanged : AccountEvent Token :=
                  ⟨.exchangeCodeForUserinfo code (googleRedirectUri (publicBaseUrl.getD "")),
                    .ok userinfo⟩
                refine (sign_in_certified redirectTo userinfo).weaken
                  (fun later => verified ∈ later ∧ exchanged ∈ later)
                  (fun rest => ⟨by simp [verified], by simp [exchanged]⟩) ?_
                intro later reply hbefore hpost redirect token hreply
                obtain ⟨rfl, invite, row, hinvite, hshown, hemail, hissued⟩ :=
                  hpost redirect token hreply
                exact ⟨hcookie, hbefore.1, _, userinfo, invite, row, hbefore.2, hinvite, hshown,
                  hemail, hissued⟩
  · rw [if_pos hcookie]
    refine Program.Certified.done fun _ redirectTo token hreply => ?_
    cases hreply

omit [DecidableEq Token] in
/-- Only a signed-in user may be asked for; what verifies is on record. -/
theorem require_user_certified {credential : AccountCredential Token}
    {route : Option SessionClaims → AccountProgram Token (AccountReply Token)}
    {post : AccountHistory Token → AccountReply Token → Prop}
    (hanonymous : credential = .apiKey → AccountCertified thread history (route none) post)
    (hfailed : ∀ later error, post later (.failed error))
    (hrefused : ∀ later token, credential = .session token →
      post later (.refused ⟨401, "Missing or invalid credential"⟩))
    (hroute : ∀ token claims later, credential = .session token → Verified later token claims →
      AccountCertified thread later (route (some claims)) post) :
    AccountCertified thread history (requireUser credential route) post := by
  cases credential with
  | apiKey => exact hanonymous rfl
  | session token =>
      intro others
      refine ⟨trivial, fun verified _ => ?_⟩
      cases verified with
      | error error => exact Program.Certified.done fun _ => hfailed _ _
      | ok verified =>
          cases verified with
          | none => exact Program.Certified.done fun _ => hrefused _ token rfl
          | some claims =>
              refine hroute token claims _ rfl ?_
              exact List.mem_append_right _ (List.mem_singleton_self _)

omit [DecidableEq Token] in
/-- The account of a session that has verified is found. -/
theorem get_me_certified {claims : SessionClaims} (hverified : Verified history token claims) :
    AccountCertified thread history (getMe (some claims)) fun _ reply => KeepsAccount reply := by
  intro others
  refine ⟨trivial, fun found hfound => ?_⟩
  obtain ⟨row, rfl, -⟩ := hfound token claims (hverified.later others) rfl
  refine Program.Certified.done fun more error hreply => ?_
  cases hreply

omit [DecidableEq Token] in
/-- An invitation is made with the session of an admin. -/
theorem invite_user_certified {claims : SessionClaims} {credential : AccountCredential Token}
    (hcredential : credential = .session token) (hverified : Verified history token claims)
    (email role : String) :
    AccountCertified thread history (inviteUser email role (some claims)) fun history reply =>
      ∀ invite, reply = .invited invite → InvitedWith history credential email role invite := by
  show Program.Certified _ _ _ (if claims.role ≠ .str "admin" then _ else _) _
  split
  · refine Program.Certified.done fun _ invite hreply => ?_
    cases hreply
  · rename_i hadmin
    replace hadmin : claims.role = .str "admin" := not_not.mp hadmin
    refine fun others => ⟨trivial, fun invitedAt _ more => ⟨?_, fun made hmade => ?_⟩⟩
    · exact ⟨token, claims, ((hverified.later _).later _).later _, hadmin, rfl⟩
    · obtain ⟨hemail, hrole, id, hid, hinvitedBy⟩ := hmade
      refine Program.Certified.done fun rest invite hreply => ?_
      cases hreply
      exact ⟨token, claims, id, hcredential,
        ((((hverified.later _).later _).later _).later _).later _, hadmin, hid, hemail, hrole,
        hinvitedBy⟩

omit [DecidableEq Token] in
/-- Whoever is led to Google is handed a state that leads back. -/
theorem google_login_certified (redirectTo : String) :
    AccountCertified (.googleLogin redirectTo) [] (AgentGraphStudio.googleLogin redirectTo)
      (AccountThread.googleLogin redirectTo : AccountThread Token).Post := by
  refine fun _ => ⟨trivial, fun publicBaseUrl _ => ?_⟩
  cases hbase : publicBaseUrl.filter (· ≠ "") with
  | none =>
      simp only [Program.bind, hbase]
      exact Program.Certified.done fun _ => trivial
  | some url =>
      simp only [Program.bind, hbase]
      refine fun _ => ⟨rfl, fun response _ => ?_⟩
      cases response with
      | error error => exact Program.Certified.done fun _ => trivial
      | ok state => exact Program.Certified.done fun _ => trivial

/-- Every thread is certified for its part. -/
theorem AccountThread.certified (thread : AccountThread Token) :
    AccountCertified thread [] thread.program thread.Post := by
  cases thread with
  | lifespan adminEmail =>
      refine fun _ => ⟨trivial, fun bootstrappedAt _ _ => ⟨rfl, fun _ _ => ?_⟩⟩
      exact Program.Certified.done fun _ => trivial
  | googleLogin redirectTo => exact google_login_certified redirectTo
  | googleCallback code state oauthState =>
      refine (google_callback_certified code state oauthState).mono fun history reply hpost => ?_
      cases reply with
      | signedIn redirectTo token => exact hpost redirectTo token rfl
      | _ => trivial
  | getMe credential =>
      cases credential with
      | apiKey => exact Program.Certified.done fun _ => trivial
      | session token =>
          have hroute : AccountCertified (.getMe (.session token)) []
              (requireUser (.session token) AgentGraphStudio.getMe)
              fun _ reply => KeepsAccount reply := by
            refine require_user_certified nofun (fun _ _ => nofun) (fun _ _ _ error hreply => ?_) ?_
            · cases hreply
              rfl
            intro other claims later hcredential hverified
            cases hcredential
            exact get_me_certified hverified
          exact hroute
  | inviteUser credential email role =>
      refine require_user_certified ?_ (fun _ _ => trivial) (fun _ _ _ => trivial) ?_
      · exact fun _ => Program.Certified.done fun _ => trivial
      · intro token claims later hcredential hverified
        refine (invite_user_certified hcredential hverified email role).mono ?_
        intro history reply hpost
        cases reply with
        | invited invite => exact hpost invite rfl
        | _ => trivial
  | consent userId connectionName codeVerifier redirectTo popup =>
      refine fun _ => ⟨trivial, fun response _ => ?_⟩
      cases response with
      | error error => exact Program.Certified.done fun _ => trivial
      | ok state => exact Program.Certified.done fun _ => trivial

end

/-! ## Pools -/

section

variable [DecidableEq Token] {ι : Type} [DecidableEq ι]

/-- Threads at work on the accounts. -/
abbrev AccountPool (ι Token : Type) :=
  Pool ι (AccountOp Token) (AccountRes Token) (AccountReply Token) (AccountsState Token)

/-- The threads before the first start of the process. -/
def startAccounts (threads : ι → AccountThread Token) : AccountPool ι Token where
  threads thread := (threads thread).program
  state := ⟨.empty, []⟩

/-- A process is started with this address as the admin's. -/
def Bootstraps (threads : ι → AccountThread Token) (email : String) : Prop :=
  ∃ thread, threads thread = .lifespan email

/-- What `GET /auth/me` answers a session, after what its token has verified as: its account, unless
the token does not verify. -/
def AnswersSession (users : List UserRow) (reply : AccountReply Token) :
    Except TokenError (Option SessionClaims) → Prop
  | .ok (some claims) => ∃ row ∈ users, claims = row.session ∧ reply = .me row.me
  | .ok none => reply = .refused ⟨401, "Missing or invalid credential"⟩
  | .error error => reply = .failed error

/-- What holds of the accounts and of the answers that were given. -/
structure AccountsSafe (threads : ι → AccountThread Token) (pool : AccountPool ι Token) : Prop where
  vouched : ∀ row ∈ pool.state.db.users, row.Vouched pool.state.db.users (Bootstraps threads)
  invited : ∀ thread email role invitedBy invitedAt invite,
    (thread, (⟨.addInvite email role invitedBy invitedAt, invite⟩ : AccountEvent Token)) ∈
      pool.history →
    ∃ inviter ∈ pool.state.db.users, inviter.role = "admin" ∧ invitedBy = .str inviter.id
  sessions : ∀ token claims, Verified pool.events token claims →
    ∃ row ∈ pool.state.db.users, claims = row.session
  signedIn : ∀ thread code state oauthState redirectTo token,
    threads thread = .googleCallback code state oauthState →
    pool.threads thread = .done (.signedIn redirectTo token) → oauthState = some state ∧
    ∃ login target redirectUri userinfo row, redirectTo = .str target ∧
      threads login = .googleLogin target ∧
      (login, (⟨.issueStateToken target, .ok state⟩ : AccountEvent Token)) ∈ pool.history ∧
      (⟨.exchangeCodeForUserinfo code redirectUri, .ok userinfo⟩ : AccountEvent Token) ∈
        pool.events ∧
      row ∈ pool.state.db.users ∧ row.email = userinfo.email ∧
      (⟨.issueToken row.id row.email row.role, .ok token⟩ : AccountEvent Token) ∈ pool.events
  me : ∀ thread token reply, threads thread = .getMe (.session token) →
    pool.threads thread = .done reply →
    ∃ answer, (thread, (⟨.verifyToken token, answer⟩ : AccountEvent Token)) ∈ pool.history ∧
      AnswersSession pool.state.db.users reply answer

variable {settings : AccountSettings Token} {threads : ι → AccountThread Token}
  {pool : AccountPool ι Token}

/-- In every interleaving the threads keep their parts. -/
theorem accounts_sound (hfaithful : settings.pyjwt.Faithful settings.secret)
    (hreach : Pool.Reachable (accountsEffect settings) (startAccounts threads) pool) :
    Pool.Sound (fun thread => (threads thread).Permitted) AccountAnswers
      (AccountsInvariant settings (Bootstraps threads))
      (fun thread => (threads thread).Post) pool := by
  refine hreach.sound ?_ rfl ?_ fun thread => (threads thread).certified
  · intro thread state history event next hinvariant hpermitted heffect
    exact accounts_preserved hfaithful (fun _ hlifespan => ⟨thread, hlifespan⟩) hinvariant
      hpermitted heffect
  · exact ⟨.empty, nofun, nofun⟩

omit [DecidableEq Token] [DecidableEq ι] in
/-- What `GET /auth/me` answers a session, read off what the request has done itself. -/
def AnsweredMe (token : Token) (own : AccountHistory Token) : AccountReply Token → Prop
  | .me response => ∃ claims row, Verified own token claims ∧
    (⟨.getUserById claims.userId, some row⟩ : AccountEvent Token) ∈ own ∧ response = row.me
  | .refused error => (⟨.verifyToken token, .ok none⟩ : AccountEvent Token) ∈ own ∨
    error = ⟨401, "User no longer exists"⟩
  | .failed error => (⟨.verifyToken token, .error error⟩ : AccountEvent Token) ∈ own
  | _ => False

omit [DecidableEq Token] [DecidableEq ι] in
/-- A request to `GET /auth/me` answers what its own steps were answered. -/
theorem me_answered (token : Token) :
    Program.Certified (fun _ _ => True) (fun _ _ _ => True) []
      (requireUser (.session token) AgentGraphStudio.getMe) (AnsweredMe token) := by
  refine fun others => ⟨trivial, fun verified _ => ?_⟩
  cases verified with
  | error error =>
      exact Program.Certified.done fun _ =>
        List.mem_append_left _ (List.mem_append_right _ (List.mem_singleton_self _))
  | ok verified =>
      cases verified with
      | none =>
          exact Program.Certified.done fun _ =>
            .inl (List.mem_append_left _ (List.mem_append_right _ (List.mem_singleton_self _)))
      | some claims =>
          refine fun more => ⟨trivial, fun found _ => ?_⟩
          cases found with
          | none => exact Program.Certified.done fun _ => .inr rfl
          | some row =>
              refine Program.Certified.done fun last => ⟨claims, row, ?_, ?_, rfl⟩
              · exact List.mem_append_left _ (List.mem_append_left _ (List.mem_append_left _
                  (List.mem_append_right _ (List.mem_singleton_self _))))
              · exact List.mem_append_left _ (List.mem_append_right _ (List.mem_singleton_self _))

/-- In every interleaving of sign-ins, invitations, consents and restarts, the accounts are safe. -/
theorem accounts_safe (settings : AccountSettings Token) (threads : ι → AccountThread Token)
    (pool : AccountPool ι Token) (hfaithful : settings.pyjwt.Faithful settings.secret)
    (hreach : Pool.Reachable (accountsEffect settings) (startAccounts threads) pool) :
    AccountsSafe threads pool := by
  have hsound := accounts_sound hfaithful hreach
  have hinvariant := hsound.state
  have hbefore : ∀ thread event, (thread, event) ∈ pool.history →
      ∃ before, before <+: pool.events ∧ (threads thread).Permitted before event.op := by
    intro thread event hmem
    obtain ⟨before, after, hhistory⟩ := List.append_of_mem hmem
    refine ⟨before.map Prod.snd, ?_, hsound.history before thread event after hhistory⟩
    rw [Pool.events, hhistory, List.map_append]
    exact List.prefix_append _ _
  refine ⟨hinvariant.vouched.users, ?_, fun token claims => hinvariant.verified, ?_, ?_⟩
  · intro thread email role invitedBy invitedAt invite hmem
    obtain ⟨before, hearlier, token, claims, hverified, hadmin, rfl⟩ := hbefore thread _ hmem
    obtain ⟨row, hrow, rfl⟩ := hinvariant.verified (hearlier.subset hverified)
    exact ⟨row, hrow, Json.str.inj hadmin, rfl⟩
  · intro thread code state oauthState redirectTo token hthread hdone
    have hpost := hsound.finished hdone
    rw [hthread] at hpost
    obtain ⟨hcookie, hverified, redirectUri, userinfo, invite, row, hexchanged, _, hshown, hemail,
      hissued⟩ := hpost
    obtain ⟨target, htarget, hhanded⟩ := hinvariant.recorded _ hverified redirectTo rfl
    obtain ⟨⟨login, _⟩, hlogin, rfl⟩ := List.mem_map.mp hhanded
    obtain ⟨_, _, hpermitted⟩ := hbefore login _ hlogin
    exact ⟨hcookie, login, target, redirectUri, userinfo, row, htarget, hpermitted, hlogin,
      hexchanged, hinvariant.shown hshown, hemail, hissued⟩
  · intro thread token reply hthread hdone
    have hkeeps := hsound.finished hdone
    rw [hthread] at hkeeps
    have hrun := hreach.thread_run rfl thread
    rw [hdone, show (startAccounts threads).threads thread = _ from
      congrArg AccountThread.program hthread] at hrun
    have hanswered := ((me_answered token).run hrun fun _ _ _ _ => trivial).2 []
    rw [List.nil_append, List.append_nil] at hanswered
    have hevents : ∀ event, event ∈ pool.eventsOf thread → event ∈ pool.events := fun event hmem =>
      List.mem_map.mpr ⟨_, Pool.mem_eventsOf.mp hmem, rfl⟩
    cases reply with
    | me response =>
        obtain ⟨claims, row, hverified, hfound, rfl⟩ := hanswered
        refine ⟨_, Pool.mem_eventsOf.mp hverified, ?_⟩
        obtain ⟨account, haccount, rfl⟩ := hinvariant.recorded _ (hevents _ hverified) claims rfl
        obtain ⟨hrow, hid⟩ :=
          hinvariant.recorded _ (hevents _ hfound) account.id rfl row rfl
        have hsame : row = account :=
          List.inj_on_of_nodup_map pool.state.db.ids_nodup hrow haccount hid
        exact ⟨account, haccount, rfl, by rw [hsame]⟩
    | refused error =>
        have herror := hkeeps error rfl
        rcases hanswered with hnone | hgone
        · exact ⟨_, Pool.mem_eventsOf.mp hnone, congrArg _ herror⟩
        · exact absurd (herror.symm.trans hgone) (by simp)
    | failed error => exact ⟨_, Pool.mem_eventsOf.mp hanswered, rfl⟩
    | _ => exact hanswered.elim

end

end

/-! ### The admin signs in -/

/-- The library that keeps its tokens, with a secret. -/
def plainSettings : AccountSettings (Dict String Json × String) := ⟨plainJwt, "secret"⟩

/-- The beginning of the epoch. -/
def epoch : Datetime := ⟨0, by decide⟩

/-- Answers of which Google always vouches for Ada, at the beginning of the epoch. -/
def adaRespond (state : AccountsState (Dict String Json × String)) :
    (op : AccountOp (Dict String Json × String)) →
      Option (AccountRes (Dict String Json × String) op × AccountsState (Dict String Json × String))
  | .utcnowIso => some ("1970-01-01", state)
  | .uuid4 => some ("a1", state)
  | .getPublicBaseUrl => some (some "https://lab/", state)
  | .exchangeCodeForUserinfo .. => some (.ok ⟨"ada@lab", true, "Ada"⟩, state)
  | .issueToken userId email role =>
    let response := plainJwt.issueToken (some "secret") epoch userId email role
    some (response, state.issue response)
  | .issueStateToken redirectTo =>
    let response := plainJwt.issueStateToken (some "secret") epoch redirectTo
    some (response, state.issue response)
  | .issueMcpOauthStateToken .. => none
  | .verifyToken token =>
    if token ∈ state.issued then some (plainJwt.verifyToken (some "secret") epoch token, state)
    else none
  | .verifyStateToken token =>
    if token ∈ state.issued then some (plainJwt.verifyStateToken (some "secret") epoch token, state)
    else none
  | .getInvite email => some (state.db.getInvite email, state)
  | .addInvite .. => none
  | .getUserByEmail email => some (state.db.getUserByEmail email, state)
  | .getUserById (.str id) => some (state.db.getUserById id, state)
  | .getUserById _ => none
  | .createUser row =>
    match state.db.createUser row with
    | .error text => some (.error text, state)
    | .ok (user, db) => some (.ok user, { state with db })
  | .ensureAdminBootstrapped adminEmail bootstrappedAt =>
    some ((), { state with db := state.db.ensureAdminBootstrapped adminEmail bootstrappedAt })

/-- Those answers are among the ones that may be given. -/
theorem ada_respond_effect {state next : AccountsState (Dict String Json × String)}
    {op : AccountOp (Dict String Json × String)}
    {response : AccountRes (Dict String Json × String) op}
    (h : adaRespond state op = some (response, next)) :
    accountsEffect plainSettings state ⟨op, response⟩ next := by
  cases op with
  | issueToken userId email role =>
      cases h
      exact ⟨⟨epoch, rfl⟩, rfl⟩
  | issueStateToken redirectTo =>
      cases h
      exact ⟨⟨epoch, rfl⟩, rfl⟩
  | verifyToken token =>
      simp only [adaRespond] at h
      split at h
      · rename_i hissued
        cases h
        exact ⟨⟨epoch, fun _ _ => hissued, rfl⟩, rfl⟩
      · cases h
  | verifyStateToken token =>
      simp only [adaRespond] at h
      split at h
      · rename_i hissued
        cases h
        exact ⟨⟨epoch, fun _ _ => hissued, rfl⟩, rfl⟩
      · cases h
  | getInvite email =>
      cases h
      exact ⟨rfl, rfl⟩
  | getUserByEmail email =>
      cases h
      exact ⟨rfl, rfl⟩
  | getUserById userId =>
      cases userId with
      | str id =>
          cases h
          refine ⟨fun other hid => ?_, rfl⟩
          cases hid
          rfl
      | _ => cases h
  | createUser row =>
      simp only [adaRespond] at h
      split at h
      · rename_i hcreate
        cases h
        exact ⟨hcreate, rfl⟩
      · rename_i hcreate
        cases h
        exact ⟨_, hcreate, rfl⟩
  | issueMcpOauthStateToken => cases h
  | addInvite => cases h
  | _ =>
      cases h
      rfl

/-- The state of Ada's sign-in. -/
def adaState : Dict String Json × String :=
  (.ofList [("typ", .str "oauth_state"), ("redirect_to", .str "https://app"), ("iat", .int 0),
    ("exp", .int 300)], "secret")

/-- The token of Ada's session. -/
def adaToken : Dict String Json × String :=
  (.ofList [("sub", .str "a1"), ("email", .str "ada@lab"), ("role", .str "admin"), ("iat", .int 0),
    ("exp", .int 43200)], "secret")

/-- What happens when Ada signs in. -/
inductive AdaThread where
  | starts | leaves | returns | asks
  deriving DecidableEq

/-- The process starts with Ada as its admin; she signs in and asks who she is. -/
def adaThreads : AdaThread → AccountThread (Dict String Json × String)
  | .starts => .lifespan "ada@lab"
  | .leaves => .googleLogin "https://app"
  | .returns => .googleCallback "code" adaState (some adaState)
  | .asks => .getMe (.session adaToken)

/-- One after the other. -/
def adaSchedule : List AdaThread :=
  List.replicate 2 .starts ++ List.replicate 2 .leaves ++ List.replicate 9 .returns ++
    List.replicate 2 .asks

set_option maxRecDepth 20000 in
/-- She is answered with the account that her sign-in has made. -/
theorem ada_signs_in : ∃ pool,
    (startAccounts adaThreads).follow adaRespond adaSchedule = some pool ∧
    pool.threads .returns = .done (.signedIn (.str "https://app") adaToken) ∧
    pool.threads .asks = .done (.me ⟨"a1", "ada@lab", "Ada", "admin"⟩) ∧
    AccountsSafe adaThreads pool :=
  ⟨_, rfl, rfl, rfl, accounts_safe plainSettings adaThreads _ (plain_jwt_faithful "secret")
    (Pool.reachable_of_follow (fun _ _ _ _ => ada_respond_effect)
      (show (startAccounts adaThreads).follow adaRespond adaSchedule = some _ from rfl))⟩

end AgentGraphStudio
