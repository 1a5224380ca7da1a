import RcOnline.Web.AccountStore
import RcOnline.Lib.Results
import RcOnline.Lib.Steps

/-!
# Action tokens of accounts

Every transaction of the account store either spends tokens or issues one (`Spends`, `Issues`). A
user with a token has a credential (`Backed.owned`), so a registration never meets a token of its
user; that is why the store needs no constraint on unconsumed tokens. What each transaction writes
is said once (`Registers`, `Consumes`, `Rotates`, `Resets`, `CleansUp`), with what all that issue or
use tokens spare (`Spares`).
-/

namespace RcOnline.Web

open RcOnline.Lib RcOnline.Accounts

/-- A token has verified an email or replaced a password. -/
structure TokenEffect where
  tokenHash : String
  kind : AccountActionTokenKind
  userId : Uuid
  now : Int
  deriving DecidableEq

/-- The database, with every token that was issued and every effect of one. -/
structure AccountSystem where
  db : Database
  issued : List AccountActionToken
  effects : List TokenEffect

/-- A transaction of the account store, or a write of another store to tables without tokens. -/
inductive AccountEvent where
  | registerPendingAccount (input : PendingAccountRegistration) (occurredAt : Int) (userId : Uuid)
      (nicknameUuids : List Uuid)
  | createOrRotateActionToken (input : ActionTokenRequest)
  | consumeActionToken (input : ActionTokenUse)
  | replacePasswordAndRevokeSessions (input : PasswordReplacement)
  | deleteOwnAccount (authenticatedSubject : Uuid) (disabledAt : Int) (deletedUuid : Uuid)
  | cleanupExpiredAccountData (now : Int) (batchSize : Number) (choice : CleanupChoice)
  | others (users : Table User) (oauthIdentities : Table OauthIdentity)
      (authSessions : Table AuthSession)

/-- The hash of the token that a transaction is to issue. -/
def AccountEvent.issues : AccountEvent → Option String
  | .registerPendingAccount input _ _ _ => some input.verificationTokenHash
  | .createOrRotateActionToken input => some input.tokenHash
  | _ => none

namespace AccountSystem

/-- A database without tokens. -/
def start (db : Database) : AccountSystem where
  db := { db with accountActionTokens := .empty }
  issued := []
  effects := []

/-- A transaction that fails is rolled back. -/
def step (folding : CaseFolding) (system : AccountSystem) : AccountEvent → AccountSystem
  | .registerPendingAccount input occurredAt userId nicknameUuids =>
    match registerPendingAccount folding system.db input occurredAt userId nicknameUuids with
    | .ok (result, db) =>
      { system with
        db, issued := system.issued ++ [verificationToken result.userId input occurredAt] }
    | .error _ => system
  | .createOrRotateActionToken input =>
    match createOrRotateActionToken folding system.db input with
    | .ok (some result, db) =>
      { system with db, issued := system.issued ++ [actionToken result.userId input] }
    | .ok (none, db) => { system with db }
    | .error _ => system
  | .consumeActionToken input =>
    match consumeActionToken folding system.db input with
    | .ok (some result, db) =>
      { system with
        db
        effects :=
          match input.kind with
          | .verifyEmail =>
            system.effects ++ [⟨input.tokenHash, .verifyEmail, result.userId, input.now⟩]
          | .resetPassword => system.effects }
    | .ok (none, db) => { system with db }
    | .error _ => system
  | .replacePasswordAndRevokeSessions input =>
    match replacePasswordAndRevokeSessions folding system.db input with
    | .ok (some result, db) =>
      { system with
        db
        effects :=
          system.effects ++ [⟨input.resetTokenHash, .resetPassword, result.userId, input.now⟩] }
    | .ok (none, db) => { system with db }
    | .error _ => system
  | .deleteOwnAccount authenticatedSubject disabledAt deletedUuid =>
    { system with db := (deleteOwnAccount system.db authenticatedSubject disabledAt deletedUuid).2 }
  | .cleanupExpiredAccountData now batchSize choice =>
    match cleanupExpiredAccountData system.db now batchSize choice with
    | .ok (_, db) => { system with db }
    | .error _ => system
  | .others users oauthIdentities authSessions =>
    { system with db := { system.db with users, oauthIdentities, authSessions } }

/-- A step that issues no token hash again. -/
def DistinctStep (folding : CaseFolding) (system : AccountSystem) (event : AccountEvent)
    (after : AccountSystem) : Prop :=
  (∀ hash ∈ event.issues, hash ∉ system.issued.map AccountActionToken.tokenHash) ∧
    after = system.step folding event

end AccountSystem

/-! ## What the transactions write -/

section Store

variable {folding : CaseFolding} {db db' : Database}

theorem insertRow_eq_ok {α κ : Type} [Row α κ] [DecidableEq κ] {table table' : Table α}
    {clash : α → Bool} {r : α} (h : insertRow table clash r = .ok table') :
    table.insert? clash r = some table' := ofOption_eq_ok.1 h

/-- The address of a user, as mails are sent to it. -/
def address (folding : CaseFolding) (db : Database) (userId : Uuid) : Option String :=
  (db.users.get? userId).map (normalizeAccountEmail folding ·.email)

theorem address_of_mem {user : User} (h : user ∈ db.users.rows) :
    address folding db user.id = some (normalizeAccountEmail folding user.email) :=
  congrArg (Option.map _) (Table.get?_eq_some_iff.2 ⟨h, rfl⟩)

/-- What every transaction spares that issues a token or uses one. -/
structure Spares (db db' : Database) : Prop where
  /-- The rows of disabled users stay. -/
  users : ∀ user ∈ db.users.rows, user.disabledAt.isSome = true → user ∈ db'.users.rows
  nicknames : ∀ row ∈ db.nicknames.rows, row ∈ db'.nicknames.rows
  sessions : ∀ session ∈ db'.authSessions.rows, session ∈ db.authSessions.rows
  counters : db'.authRateLimits = db.authRateLimits

theorem Spares.refl (db : Database) : Spares db db :=
  ⟨fun _ hmem _ => hmem, fun _ hmem => hmem, fun _ hmem => hmem, rfl⟩

/-- A registration adds a credential and a token of one user, who may be new. -/
structure Registers (folding : CaseFolding) (db db' : Database)
    (input : PendingAccountRegistration) (occurredAt : Int) (account : AccountActionResult) :
    Prop where
  credential : db.passwordCredentials.insert? (fun _ => false)
    (pendingCredential account.userId input occurredAt) = some db'.passwordCredentials
  token : db.accountActionTokens.insert? (fun _ => false)
    (verificationToken account.userId input occurredAt) = some db'.accountActionTokens
  users : ∀ user ∈ db.users.rows, user ∈ db'.users.rows
  nicknames : ∀ row ∈ db.nicknames.rows, row ∈ db'.nicknames.rows
  address : Web.address folding db' account.userId = some account.email
  others : db' =
    { db with
      users := db'.users
      passwordCredentials := db'.passwordCredentials
      accountBalances := db'.accountBalances
      nicknames := db'.nicknames
      consents := db'.consents
      accountActionTokens := db'.accountActionTokens }

theorem registers_of_existing {input : PendingAccountRegistration} {occurredAt : Int}
    {existingUser : User} {account : AccountActionResult} (hmem : existingUser ∈ db.users.rows)
    (h : registerExisting folding db input occurredAt existingUser = .ok (account, db')) :
    Registers folding db db' input occurredAt account := by
  unfold registerExisting at h
  split_ifs at h
  obtain ⟨passwordCredentials, hcredential, h⟩ := bind_eq_ok.1 h
  obtain ⟨accountActionTokens, htoken, h⟩ := bind_eq_ok.1 h
  cases h
  exact ⟨insertRow_eq_ok hcredential, insertRow_eq_ok htoken, fun _ huser => huser,
    fun _ hrow => hrow, address_of_mem hmem, rfl⟩

theorem subset_of_insertNickname {nicknames nicknames' : Table Nickname} {userId : Uuid}
    {uuids : List Uuid} (h : insertNickname folding nicknames userId uuids = .ok nicknames') :
    ∀ row ∈ nicknames.rows, row ∈ nicknames'.rows := by
  unfold insertNickname at h
  split at h
  · next hfound =>
    cases h
    obtain ⟨uuid, -, hinsert⟩ := List.exists_of_findSome?_eq_some hfound
    exact fun row hrow => (Table.mem_insert? hinsert).2 (.inl hrow)
  · cases h

theorem registers_of_new {input : PendingAccountRegistration} {email : String} {occurredAt : Int}
    {userId : Uuid} {nicknameUuids : List Uuid} {account : AccountActionResult}
    (h : registerNew folding db input email occurredAt userId nicknameUuids = .ok (account, db')) :
    Registers folding db db' input occurredAt account := by
  obtain ⟨users, husers, h⟩ := bind_eq_ok.1 h
  obtain ⟨passwordCredentials, hcredential, h⟩ := bind_eq_ok.1 h
  obtain ⟨accountBalances, -, h⟩ := bind_eq_ok.1 h
  obtain ⟨nicknames, hnicknames, h⟩ := bind_eq_ok.1 h
  obtain ⟨accountActionTokens, htoken, h⟩ := bind_eq_ok.1 h
  cases h
  have husers := insertRow_eq_ok husers
  have hnew : newUser userId email occurredAt ∈ users.rows :=
    (Table.mem_insert? husers).2 (.inr rfl)
  exact ⟨insertRow_eq_ok hcredential, insertRow_eq_ok htoken,
    fun _ huser => (Table.mem_insert? husers).2 (.inl huser), subset_of_insertNickname hnicknames,
    @address_of_mem folding _ (newUser userId email occurredAt) hnew, rfl⟩

theorem registers_of_ok {input : PendingAccountRegistration} {occurredAt : Int} {userId : Uuid}
    {nicknameUuids : List Uuid} {account : AccountActionResult}
    (h : registerPendingAccount folding db input occurredAt userId nicknameUuids =
      .ok (account, db')) : Registers folding db db' input occurredAt account := by
  unfold registerPendingAccount at h
  dsimp only at h
  split at h
  · cases h
  · split at h
    · next hfind => exact registers_of_existing (List.mem_of_find?_eq_some hfind) h
    · exact registers_of_new h

theorem registerPendingAccount_spares {input : PendingAccountRegistration} {occurredAt : Int}
    {userId : Uuid} {nicknameUuids : List Uuid} {account : AccountActionResult}
    (h : registerPendingAccount folding db input occurredAt userId nicknameUuids =
      .ok (account, db')) : Spares db db' := by
  have hregisters := registers_of_ok h
  have hsessions := congrArg Database.authSessions hregisters.others
  have hcounters := congrArg Database.authRateLimits hregisters.others
  exact ⟨fun user hmem _ => hregisters.users user hmem, hregisters.nicknames,
    fun _ hmem => hsessions ▸ hmem, hcounters⟩

/-- A use that is met consumes one token; a verification is of that token's user. -/
structure Consumes (db db' : Database) (input : ActionTokenUse)
    (result : Option AccountActionResult) (token : AccountActionToken) : Prop where
  mem : token ∈ db.accountActionTokens.rows
  usable : usable input.kind input.tokenHash input.now token = true
  tokens : db'.accountActionTokens =
    db.accountActionTokens.update (Web.usable input.kind input.tokenHash input.now)
      ({ · with consumedAt := some input.now })
  credentials : db'.passwordCredentials = db.passwordCredentials ∨
    (input.kind = .verifyEmail ∧ db'.passwordCredentials =
      db.passwordCredentials.update (fun r => r.userId = token.userId && r.verifiedAt.isNone)
        ({ · with verifiedAt := some input.now, updatedAt := input.now }))
  verified : input.kind = .verifyEmail → ∃ email, result = some ⟨token.userId, email⟩
  users : ∀ user ∈ db.users.rows, user.disabledAt.isSome = true → user ∈ db'.users.rows
  others : db' =
    { db with
      users := db'.users
      passwordCredentials := db'.passwordCredentials
      accountActionTokens := db'.accountActionTokens }

/-- An update of users that are enabled. -/
theorem mem_of_update_enabled {p : User → Bool} {f : User → User} {users : Table User}
    (hp : ∀ user, p user = true → user.disabledAt = none)
    (h : users.rows = db.users.rows.map (patch p f)) :
    ∀ user ∈ db.users.rows, user.disabledAt.isSome = true → user ∈ users.rows := by
  intro user hmem hdisabled
  have hnot : ¬ p user = true := fun hpu => by rw [hp user hpu] at hdisabled; cases hdisabled
  rw [h, List.mem_map]
  exact ⟨user, hmem, patch_of_not hnot⟩

theorem consumes_of_ok {input : ActionTokenUse} {result : Option AccountActionResult}
    (h : consumeActionToken folding db input = .ok (result, db')) :
    (result = none ∧ db' = db) ∨ ∃ token, Consumes db db' input result token := by
  unfold consumeActionToken at h
  split at h
  · cases h
    exact .inl ⟨rfl, rfl⟩
  · next token hfind =>
    have hmem := List.mem_of_find?_eq_some hfind
    have husable : usable input.kind input.tokenHash input.now token = true :=
      List.find?_some hfind
    dsimp only at h
    split at h
    · next hkind =>
      split at h
      · cases h
      · next verifiedUser huser =>
        have hid : verifiedUser.id = token.userId := by
          have henabled := List.find?_some huser
          simp only [Bool.and_eq_true, decide_eq_true_eq] at henabled
          exact henabled.1
        split at h
        · cases h
          exact .inr ⟨token, hmem, husable, rfl, .inr ⟨hkind, rfl⟩, fun _ => ⟨_, by rw [hid]⟩,
            mem_of_update_enabled (fun user henabled => by simp_all) rfl, rfl⟩
        · cases h
    · next hkind =>
      cases h
      refine .inr ⟨token, hmem, husable, rfl, .inl rfl, fun hverify => ?_,
        fun _ huser _ => huser, rfl⟩
      rw [hverify] at hkind
      cases hkind

theorem consumeActionToken_spares {input : ActionTokenUse} {result : Option AccountActionResult}
    (h : consumeActionToken folding db input = .ok (result, db')) : Spares db db' := by
  obtain ⟨-, rfl⟩ | ⟨token, hconsumes⟩ := consumes_of_ok h
  · exact .refl _
  · have hnicknames := congrArg Database.nicknames hconsumes.others
    have hsessions := congrArg Database.authSessions hconsumes.others
    have hcounters := congrArg Database.authRateLimits hconsumes.others
    exact ⟨hconsumes.users, fun _ hmem => hnicknames ▸ hmem, fun _ hmem => hsessions ▸ hmem,
      hcounters⟩

theorem findAccount_eq_some {p : User → PasswordCredential → Bool} {user : User}
    {credential : PasswordCredential} (h : findAccount db p = some (user, credential)) :
    user ∈ db.users.rows ∧ credential ∈ db.passwordCredentials.rows ∧
      credential.userId = user.id ∧ p user credential = true := by
  obtain ⟨found, hfound, h⟩ := List.exists_of_findSome?_eq_some h
  obtain ⟨met, hmet, heq⟩ := Option.map_eq_some_iff.1 h
  obtain ⟨rfl, rfl⟩ := Prod.mk.inj heq
  obtain ⟨hget, hp⟩ := Option.filter_eq_some_iff.1 hmet
  obtain ⟨hmem, hkey⟩ := Table.get?_eq_some_iff.1 hget
  exact ⟨hfound, hmem, hkey, hp⟩

/-- A rotation drops what is unconsumed and adds a token; the user has a credential. -/
structure Rotates (folding : CaseFolding) (db db' : Database) (input : ActionTokenRequest)
    (account : AccountActionResult) : Prop where
  credential : ∃ credential ∈ db.passwordCredentials.rows, credential.userId = account.userId
  tokens : (db.accountActionTokens.delete fun r =>
      r.userId = account.userId && r.kind = input.kind && r.consumedAt.isNone).insert?
    (fun _ => false) (actionToken account.userId input) = some db'.accountActionTokens
  address : Web.address folding db account.userId = some account.email
  others : db' = { db with accountActionTokens := db'.accountActionTokens }

theorem Rotates.credentials {input : ActionTokenRequest} {account : AccountActionResult}
    (h : Rotates folding db db' input account) :
    db'.passwordCredentials = db.passwordCredentials := by rw [h.others]

theorem rotates_of_ok {input : ActionTokenRequest} {result : Option AccountActionResult}
    (h : createOrRotateActionToken folding db input = .ok (result, db')) :
    (result = none ∧ db' = db) ∨
      ∃ account, result = some account ∧ Rotates folding db db' input account := by
  unfold createOrRotateActionToken at h
  dsimp only at h
  split at h
  · cases h
    exact .inl ⟨rfl, rfl⟩
  · next user credential hfind =>
    obtain ⟨hfound, hmem, huser, -⟩ := findAccount_eq_some hfind
    obtain ⟨accountActionTokens, htokens, h⟩ := bind_eq_ok.1 h
    cases h
    exact .inr ⟨_, rfl, ⟨credential, hmem, huser⟩, insertRow_eq_ok htokens, address_of_mem hfound,
      rfl⟩

theorem createOrRotateActionToken_spares {input : ActionTokenRequest}
    {result : Option AccountActionResult}
    (h : createOrRotateActionToken folding db input = .ok (result, db')) : Spares db db' := by
  obtain ⟨-, rfl⟩ | ⟨account, -, hrotates⟩ := rotates_of_ok h
  · exact .refl _
  · rw [hrotates.others]
    exact ⟨fun _ hmem _ => hmem, fun _ hmem => hmem, fun _ hmem => hmem, rfl⟩

/-- A reset consumes a token and deletes every reset token of its user. -/
structure Resets (db db' : Database) (input : PasswordReplacement)
    (token : AccountActionToken) : Prop where
  mem : token ∈ db.accountActionTokens.rows
  usable : usable .resetPassword input.resetTokenHash input.now token = true
  tokens : db'.accountActionTokens =
    (db.accountActionTokens.update (resettable db input)
      ({ · with consumedAt := some input.now })).delete fun r =>
        r.userId = token.userId && r.kind = .resetPassword
  credentials : db'.passwordCredentials =
    db.passwordCredentials.update (fun r => r.userId = token.userId && r.verifiedAt.isSome)
      ({ · with
        passwordHash := input.newPasswordHash
        passwordChangedAt := input.now
        updatedAt := input.now })
  sessions : db'.authSessions = db.authSessions.delete (·.userId = token.userId)
  others : db' =
    { db with
      passwordCredentials := db'.passwordCredentials
      authSessions := db'.authSessions
      accountActionTokens := db'.accountActionTokens }

theorem resets_of_ok {input : PasswordReplacement} {result : Option AccountActionResult}
    (h : replacePasswordAndRevokeSessions folding db input = .ok (result, db')) :
    (result = none ∧ db' = db) ∨
      ∃ token email, result = some ⟨token.userId, email⟩ ∧ Resets db db' input token := by
  unfold replacePasswordAndRevokeSessions at h
  split at h
  · cases h
    exact .inl ⟨rfl, rfl⟩
  · next token hfind =>
    have hresettable : resettable db input token = true := List.find?_some hfind
    unfold resettable at hresettable
    rw [Bool.and_eq_true, List.any_eq_true] at hresettable
    obtain ⟨husable, user, huser, hverified⟩ := hresettable
    simp only [Bool.and_eq_true, decide_eq_true_eq] at hverified
    dsimp only at h
    split at h
    · have hfound : (db.users.rows.find? fun r =>
          r.id = token.userId && r.disabledAt.isNone).isSome := by
        rw [List.find?_isSome]
        exact ⟨user, huser, by simp [hverified.1.1, hverified.1.2]⟩
      obtain ⟨found, hfound⟩ := Option.isSome_iff_exists.1 hfound
      rw [hfound] at h
      cases h
      exact .inr ⟨token, _, rfl, List.mem_of_find?_eq_some hfind, husable, rfl, rfl, rfl, rfl⟩
    · cases h

theorem replacePasswordAndRevokeSessions_spares {input : PasswordReplacement}
    {result : Option AccountActionResult}
    (h : replacePasswordAndRevokeSessions folding db input = .ok (result, db')) :
    Spares db db' := by
  obtain ⟨-, rfl⟩ | ⟨token, email, -, hresets⟩ := resets_of_ok h
  · exact .refl _
  · have husers := congrArg Database.users hresets.others
    have hnicknames := congrArg Database.nicknames hresets.others
    have hcounters := congrArg Database.authRateLimits hresets.others
    exact ⟨fun _ hmem _ => husers ▸ hmem, fun _ hmem => hnicknames ▸ hmem,
      fun _ hmem => (Table.mem_delete.1 (hresets.sessions ▸ hmem)).1, hcounters⟩

/-- A session is added, and nothing else. -/
theorem createSession_eq_ok {session created : AuthSession}
    (h : createSession db session = .ok (created, db')) :
    created = session ∧
      db.authSessions.insert? (fun _ => false) session = some db'.authSessions ∧
      db' = { db with authSessions := db'.authSessions } := by
  unfold createSession at h
  split at h
  · cases h
  · obtain ⟨authSessions, hinsert, h⟩ := bind_eq_ok.1 h
    cases h
    exact ⟨rfl, insertRow_eq_ok hinsert, rfl⟩

/-- A clean-up deletes tokens, and the accounts of some users who are enabled. -/
structure CleansUp (db db' : Database) (expired : List AccountActionToken) (ids : List Uuid) :
    Prop where
  tokens : db'.accountActionTokens =
    (db.accountActionTokens.delete (· ∈ expired)).delete (·.userId ∈ ids)
  credentials : db'.passwordCredentials = db.passwordCredentials.delete (·.userId ∈ ids)
  sessions : db'.authSessions = db.authSessions.delete (·.userId ∈ ids)
  users : db'.users = db.users.delete (·.id ∈ ids)
  enabled : ∀ user ∈ db.users.rows, user.id ∈ ids → user.disabledAt = none

theorem cleansUp_of_ok {now : Int} {batchSize : Number} {choice : CleanupChoice}
    {result : AccountCleanupResult}
    (h : cleanupExpiredAccountData db now batchSize choice = .ok (result, db')) :
    ∃ expired ids, CleansUp db db' expired ids := by
  unfold cleanupExpiredAccountData at h
  split at h
  · cases h
    refine ⟨_, _, rfl, rfl, rfl, rfl, fun user hmem hdeleted => ?_⟩
    -- The row that is deleted is of an enabled account, and ids are unique.
    obtain ⟨other, hother, hid⟩ := List.mem_map.1 hdeleted
    have hselected := List.mem_of_mem_take hother
    rw [Table.select, List.mem_filter] at hselected
    obtain ⟨hrow, hstale⟩ := hselected
    obtain rfl := db.users.eq_of_key hrow hmem hid
    simp_all [stale]
  · cases h

end Store

end RcOnline.Web
