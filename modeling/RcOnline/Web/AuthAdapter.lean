import RcOnline.Lib.Interleave
import RcOnline.Web.Identities
import RcOnline.Web.RateLimits

/-!
# The auth adapter

`createRcAuthAdapter` of `apps/web/auth/adapter.ts` over `postgres-auth-store.ts`. Every statement,
or transaction, is one action of a call, and the calls share the database with the transactions of
the account store. The times that a call reads are arguments. `linkIdentity` does the statements of
a link, which are modelled by themselves (`linkIdentity_follows`).
-/

namespace RcOnline.Web

open RcOnline.Lib RcOnline.Accounts

inductive UserRole where
  | user
  | admin
  deriving DecidableEq

def normalizeUserRole (value : String) : UserRole := if value = "admin" then .admin else .user

structure StoredAuthUser where
  id : Uuid
  email : String
  displayName : String
  role : UserRole
  emailVerifiedAt : Option Int
  disabledAt : Option Int
  deriving DecidableEq

structure AdapterUser where
  id : Uuid
  email : String
  emailVerified : Option Int
  name : String
  deriving DecidableEq

structure AdapterSession where
  sessionToken : String
  userId : Uuid
  expires : Int
  deriving DecidableEq

/-- A lookup by a call of `getSessionAndUser`. -/
structure SessionLookup where
  number : Nat
  sessionToken : String
  result : Except AccountError (Option (AdapterSession × AdapterUser))

/-- A profile that a call of `getSessionProfile` has returned. -/
structure ProfileLookup where
  number : Nat
  userId : Uuid
  result : Except AccountError SessionProfile

/-- The database, and what lookups have returned. -/
structure AuthState where
  db : Database
  lookups : List SessionLookup
  profiles : List ProfileLookup

def AuthState.setDb (state : AuthState) (db : Database) : AuthState := { state with db }

/-! ## The store -/

namespace AuthStore

def mapUser (row : User) : StoredAuthUser where
  id := row.id
  email := row.email
  displayName := row.displayName
  role := normalizeUserRole row.role
  emailVerifiedAt := row.emailVerifiedAt
  disabledAt := row.disabledAt

/-- A statement, or a transaction that an error rolls back. -/
def statement {α : Type} (f : Database → Except AccountError (α × Database)) :
    Prog AuthState (Except AccountError α) :=
  .stmt fun state =>
    match f state.db with
    | .ok (a, db) => (.ok a, state.setDb db)
    | .error error => (.error error, state)

/-- `createDefaultNickname`, with the number of the attempt as a suffix from the second on. -/
def profileNickname (userId : Uuid) (attempt : Nat) : String :=
  if attempt = 0 then createDefaultNickname userId
  else createDefaultNickname userId ++ "-" ++ toString attempt

def profileCreationAttempts : Nat := 10

/-- `insert … on conflict do nothing returning …`. -/
def insertProfile (folding : CaseFolding) (userId : Uuid) (attempt : Nat)
    (nicknames : Table Nickname) : Option (SessionProfile × Table Nickname) :=
  let nickname := profileNickname userId attempt
  (nicknames.insert? (fun r => folding.lower r.nickname = folding.lower nickname)
    { userId, nickname, avatarKey := defaultAvatarKey }).map fun nicknames =>
      ({ nickname, avatarKey := defaultAvatarKey }, nicknames)

/-- What a user is inserted with. -/
structure NewAuthUser where
  id : Uuid
  email : String
  displayName : String
  emailVerifiedAt : Int

def createUser (folding : CaseFolding) (user : NewAuthUser) (now : Int) (db : Database) :
    Except AccountError (StoredAuthUser × Database) := do
  let created : User :=
    { id := user.id, email := user.email, displayName := user.displayName, role := "user"
      emailVerifiedAt := some user.emailVerifiedAt, disabledAt := none
      createdAt := now, updatedAt := now }
  let users ← insertRow db.users (fun r => folding.lower r.email = folding.lower user.email) created
  let accountBalances ← insertRow db.accountBalances (fun _ => false)
    { userId := user.id, currency := "USD", amountMinor := 0 }
  match (List.range profileCreationAttempts).findSome? fun attempt =>
      insertProfile folding user.id attempt db.nicknames with
  | some (_, nicknames) => .ok (mapUser created, { db with users, accountBalances, nicknames })
  | none => .error (.failed "Session profile is unavailable")

def getUser (id : Uuid) (db : Database) : Option StoredAuthUser := (db.users.get? id).map mapUser

def getUserByEmail (folding : CaseFolding) (email : String) (db : Database) :
    Option StoredAuthUser :=
  (db.users.rows.find? (·.email = folding.toLowerCase (trim email))).map mapUser

def getUserByIdentity (provider subject : String) (db : Database) : Option StoredAuthUser := do
  let identity ← db.oauthIdentities.get? (provider, subject)
  getUser identity.userId db

/-- A user's row is found by its id alone. -/
def updateUser (folding : CaseFolding) (user : StoredAuthUser) (now : Int) (db : Database) :
    Except AccountError (StoredAuthUser × Database) :=
  let set (row : User) : User :=
    { row with
      email := user.email
      displayName := user.displayName
      emailVerifiedAt := user.emailVerifiedAt
      disabledAt := user.disabledAt
      updatedAt := now }
  match db.users.get? user.id with
  | none => .error (.failed "User does not exist")
  | some row =>
    if db.users.rows.any fun other =>
        other.id ≠ user.id && folding.lower other.email = folding.lower user.email then
      .error .uniqueViolation
    else .ok (mapUser (set row), { db with users := db.users.update (·.id = user.id) set })

/-- The insert of `linkIdentity`. -/
def insertIdentity (identity : OauthIdentity) (db : Database) :
    Except AccountError (Unit × Database) :=
  if !db.users.rows.any (·.id = identity.userId) then .error .foreignKeyViolation
  else do
    let oauthIdentities ← insertRow db.oauthIdentities (fun _ => false) identity
    .ok ((), { db with oauthIdentities })

/-- A transaction whose statements see what others commit meanwhile. -/
def linkIdentity (userId : Uuid) (provider subject : String) :
    Prog AuthState (Except AccountError Unit) := do
  match ← .read fun state => state.db.oauthIdentities.get? (provider, subject) with
  | some subjectIdentity =>
    if subjectIdentity.userId ≠ userId then
      return .error (.failed "OAuth identity belongs to another user")
    else return .ok ()
  | none =>
    let userIdentity ← .read fun state => state.db.oauthIdentities.rows.find? fun r =>
      r.userId = userId && r.provider = provider
    if userIdentity.any (·.providerSubject ≠ subject) then
      return .error (.failed "User already has a different OAuth identity")
    else statement (insertIdentity { userId, provider, providerSubject := subject })

def getSession (tokenHash : String) (db : Database) : Option AuthSession :=
  db.authSessions.get? tokenHash

def updateSession (session : AuthSession) (db : Database) :
    Except AccountError (AuthSession × Database) :=
  match db.authSessions.get? session.tokenHash with
  | none => .error (.failed "Session does not exist")
  | some _ =>
    if !db.users.rows.any (·.id = session.userId) then .error .foreignKeyViolation
    else
      .ok (session, { db with
        authSessions := db.authSessions.update (·.tokenHash = session.tokenHash) fun row =>
          { row with
            userId := session.userId
            expiresAt := session.expiresAt
            lastSeenAt := session.lastSeenAt } })

def deleteSession (tokenHash : String) (db : Database) : Option AuthSession × Database :=
  (db.authSessions.get? tokenHash,
    { db with authSessions := db.authSessions.delete (·.tokenHash = tokenHash) })

/-- `insert … on conflict do nothing`. -/
def insertBalance (userId : Uuid) (db : Database) : Except AccountError (Unit × Database) :=
  match db.accountBalances.insert? (fun _ => false)
    { userId, currency := "USD", amountMinor := 0 } with
  | none => .ok ((), db)
  | some accountBalances =>
    if db.users.rows.any (·.id = userId) then .ok ((), { db with accountBalances })
    else .error .foreignKeyViolation

/-- The amount of the balance, in the minor units of USD. -/
def getBalance (userId : Uuid) : Prog AuthState (Except AccountError Int) := do
  match ← statement (insertBalance userId) with
  | .error error => return .error error
  | .ok () =>
    let row ← .read fun state => state.db.accountBalances.get? userId
    match row.filter (·.currency = "USD") with
    | some row => return .ok row.amountMinor
    | none => return .error (.failed "USD account balance is unavailable")

def selectProfile (userId : Uuid) (db : Database) : Option SessionProfile :=
  (db.nicknames.get? userId).map fun row => ⟨row.nickname, row.avatarKey⟩

/-- One attempt of `getSessionProfile`. -/
def createProfile (folding : CaseFolding) (userId : Uuid) (attempt : Nat) :
    Prog AuthState (Except AccountError (Option SessionProfile)) :=
  statement fun db =>
    match insertProfile folding userId attempt db.nicknames with
    | none => .ok (none, db)
    | some (profile, nicknames) =>
      if db.users.rows.any (·.id = userId) then .ok (some profile, { db with nicknames })
      else .error .foreignKeyViolation

/-- The attempts of `getSessionProfile` that are left. -/
def attemptProfiles (folding : CaseFolding) (userId : Uuid) :
    List Nat → Prog AuthState (Except AccountError SessionProfile)
  | [] => return .error (.failed "Session profile is unavailable")
  | attempt :: attempts => do
    match ← createProfile folding userId attempt with
    | .error error => return .error error
    | .ok (some created) => return .ok created
    | .ok none =>
      match ← .read fun state => selectProfile userId state.db with
      | some racedProfile => return .ok racedProfile
      | none => attemptProfiles folding userId attempts

def getSessionProfile (folding : CaseFolding) (userId : Uuid) :
    Prog AuthState (Except AccountError SessionProfile) := do
  match ← .read fun state => selectProfile userId state.db with
  | some existing => return .ok existing
  | none => attemptProfiles folding userId (List.range profileCreationAttempts)

end AuthStore

/-! ## The adapter -/

def toAdapterUser (user : Option StoredAuthUser) : Option AdapterUser :=
  (user.filter (·.disabledAt.isNone)).map fun user =>
    { id := user.id, email := user.email, emailVerified := user.emailVerifiedAt,
      name := user.displayName }

def toAdapterSession (session : AuthSession) (rawToken : String) : AdapterSession where
  sessionToken := rawToken
  userId := session.userId
  expires := session.expiresAt

/-- What Auth.js creates a user with. -/
structure AdapterUserInput where
  id : Uuid
  email : String
  name : Option String
  emailVerified : Option Int

/-- What Auth.js updates of a user. -/
structure AdapterUserUpdate where
  id : Uuid
  email : Option String
  name : Option String
  emailVerified : Option Int

structure AdapterSessionUpdate where
  sessionToken : String
  userId : Option Uuid
  expires : Option Int

namespace AuthAdapter

variable (folding : CaseFolding) (sha256 : String → String)

def hashSessionToken (token : String) : Except AccountError String :=
  if token = "" then .error (.failed "Session token is required") else .ok (sha256 token)

/-- The name as it is kept, unless it is blank. -/
def keptName (name : Option String) : Option String := (name.map trim).filter (· ≠ "")

def createUser (user : AdapterUserInput) (now : Int) :
    Prog AuthState (Except AccountError StoredAuthUser) :=
  AuthStore.statement (AuthStore.createUser folding
    { id := user.id
      email := folding.toLowerCase (trim user.email)
      displayName := (keptName user.name).getD user.email
      emailVerifiedAt := user.emailVerified.getD now } now)

def getUser (id : Uuid) : Prog AuthState (Option AdapterUser) :=
  .read fun state => toAdapterUser (AuthStore.getUser id state.db)

def getUserByEmail (email : String) : Prog AuthState (Option AdapterUser) :=
  .read fun state =>
    toAdapterUser (AuthStore.getUserByEmail folding (folding.toLowerCase (trim email)) state.db)

def getUserByAccount (provider providerAccountId : String) : Prog AuthState (Option AdapterUser) :=
  .read fun state => toAdapterUser (AuthStore.getUserByIdentity provider providerAccountId state.db)

def updateUser (update : AdapterUserUpdate) (now : Int) :
    Prog AuthState (Except AccountError (Option AdapterUser)) := do
  match ← .read fun state => AuthStore.getUser update.id state.db with
  | none => return .error (.failed "User is unavailable")
  | some current =>
    if current.disabledAt.isSome then return .error (.failed "User is unavailable")
    else
      let saved ← AuthStore.statement (AuthStore.updateUser folding
        { current with
          email := (update.email.map fun email => folding.toLowerCase (trim email)).getD
            current.email
          displayName := (keptName update.name).getD current.displayName
          emailVerifiedAt := update.emailVerified.or current.emailVerifiedAt } now)
      return saved.map fun saved => toAdapterUser (some saved)

def linkAccount (userId : Uuid) (provider providerAccountId : String) :
    Prog AuthState (Except AccountError Unit) :=
  AuthStore.linkIdentity userId provider providerAccountId

def createSession (sessionToken : String) (userId : Uuid) (expires now : Int) :
    Prog AuthState (Except AccountError AdapterSession) :=
  match hashSessionToken sha256 sessionToken with
  | .error error => return .error error
  | .ok tokenHash => do
    let stored ← AuthStore.statement fun db => Web.createSession db
      { userId, tokenHash, expiresAt := expires, lastSeenAt := now }
    return stored.map fun stored => toAdapterSession stored sessionToken

/-- `store.deleteSession`. -/
def dropSession (tokenHash : String) : Prog AuthState (Option AuthSession) :=
  .stmt fun state =>
    let (deleted, db) := AuthStore.deleteSession tokenHash state.db
    (deleted, state.setDb db)

def getSessionAndUser (sessionToken : String) (now : Int) :
    Prog AuthState (Except AccountError (Option (AdapterSession × AdapterUser))) :=
  match hashSessionToken sha256 sessionToken with
  | .error error => return .error error
  | .ok tokenHash => do
    match ← .read fun state => AuthStore.getSession tokenHash state.db with
    | none => return .ok none
    | some session =>
      if session.expiresAt ≤ now then do
        let _ ← dropSession tokenHash
        return .ok none
      else
        match toAdapterUser (← .read fun state => AuthStore.getUser session.userId state.db) with
        | none => do
          let _ ← dropSession tokenHash
          return .ok none
        | some user => return .ok (some (toAdapterSession session sessionToken, user))

def updateSession (update : AdapterSessionUpdate) (now : Int) :
    Prog AuthState (Except AccountError (Option AdapterSession)) :=
  match hashSessionToken sha256 update.sessionToken with
  | .error error => return .error error
  | .ok tokenHash => do
    match ← .read fun state => AuthStore.getSession tokenHash state.db with
    | none => return .ok none
    | some current =>
      let saved ← AuthStore.statement (AuthStore.updateSession
        { current with
          userId := update.userId.getD current.userId
          expiresAt := update.expires.getD current.expiresAt
          lastSeenAt := now })
      return saved.map fun saved => some (toAdapterSession saved update.sessionToken)

def deleteSession (sessionToken : String) :
    Prog AuthState (Except AccountError (Option AdapterSession)) :=
  match hashSessionToken sha256 sessionToken with
  | .error error => return .error error
  | .ok tokenHash => do
    let deleted ← dropSession tokenHash
    return .ok (deleted.map fun deleted => toAdapterSession deleted sessionToken)

end AuthAdapter

/-! ## Calls -/

/-- A transaction of the account store, or its upsert of a counter. -/
inductive AccountTransaction where
  | registerPendingAccount (input : PendingAccountRegistration) (occurredAt : Int) (userId : Uuid)
      (nicknameUuids : List Uuid)
  | createOrRotateActionToken (input : ActionTokenRequest)
  | consumeActionToken (input : ActionTokenUse)
  | replacePasswordAndRevokeSessions (input : PasswordReplacement)
  | updateOwnProfile (authenticatedSubject : Uuid) (profile : SessionProfile)
  | deleteOwnAccount (authenticatedSubject : Uuid) (disabledAt : Int) (deletedUuid : Uuid)
  | takeRateLimitAttempt (input : RateLimitRequest)
  | cleanupExpiredAccountData (now : Int) (batchSize : Number) (choice : CleanupChoice)

/-- What the transaction leaves when it commits. -/
def AccountTransaction.commit (folding : CaseFolding) (db : Database) :
    AccountTransaction → Except AccountError Database
  | .registerPendingAccount input occurredAt userId nicknameUuids =>
    (Web.registerPendingAccount folding db input occurredAt userId nicknameUuids).map Prod.snd
  | .createOrRotateActionToken input =>
    (Web.createOrRotateActionToken folding db input).map Prod.snd
  | .consumeActionToken input => (Web.consumeActionToken folding db input).map Prod.snd
  | .replacePasswordAndRevokeSessions input =>
    (Web.replacePasswordAndRevokeSessions folding db input).map Prod.snd
  | .updateOwnProfile authenticatedSubject profile =>
    (Web.updateOwnProfile folding db authenticatedSubject profile).map Prod.snd
  | .deleteOwnAccount authenticatedSubject disabledAt deletedUuid =>
    .ok (Web.deleteOwnAccount db authenticatedSubject disabledAt deletedUuid).2
  | .takeRateLimitAttempt input =>
    (Web.takeRateLimitAttempt db.authRateLimits input).map fun (_, authRateLimits) =>
      { db with authRateLimits }
  | .cleanupExpiredAccountData now batchSize choice =>
    (Web.cleanupExpiredAccountData db now batchSize choice).map Prod.snd

inductive AuthCall where
  | createUser (user : AdapterUserInput) (now : Int)
  | getUser (id : Uuid)
  | getUserByEmail (email : String)
  | getUserByAccount (provider providerAccountId : String)
  | updateUser (update : AdapterUserUpdate) (now : Int)
  | linkAccount (userId : Uuid) (provider providerAccountId : String)
  | createSession (sessionToken : String) (userId : Uuid) (expires now : Int)
  | getSessionAndUser (number : Nat) (sessionToken : String) (now : Int)
  | updateSession (update : AdapterSessionUpdate) (now : Int)
  | deleteSession (sessionToken : String)
  | getBalance (userId : Uuid)
  | getSessionProfile (number : Nat) (userId : Uuid)
  | account (transaction : AccountTransaction)

/-- A call returns to its caller. -/
def returns {α : Type} (call : Prog AuthState α) (record : α → AuthState → AuthState) :
    Prog AuthState Unit := do
  let result ← call
  .stmt fun state => ((), record result state)

def AuthCall.code (folding : CaseFolding) (sha256 : String → String) :
    AuthCall → Prog AuthState Unit
  | .createUser user now => returns (AuthAdapter.createUser folding user now) fun _ state => state
  | .getUser id => returns (AuthAdapter.getUser id) fun _ state => state
  | .getUserByEmail email => returns (AuthAdapter.getUserByEmail folding email) fun _ state => state
  | .getUserByAccount provider providerAccountId =>
    returns (AuthAdapter.getUserByAccount provider providerAccountId) fun _ state => state
  | .updateUser update now =>
    returns (AuthAdapter.updateUser folding update now) fun _ state => state
  | .linkAccount userId provider providerAccountId =>
    returns (AuthAdapter.linkAccount userId provider providerAccountId) fun _ state => state
  | .createSession sessionToken userId expires now =>
    returns (AuthAdapter.createSession sha256 sessionToken userId expires now) fun _ state => state
  | .getSessionAndUser number sessionToken now =>
    returns (AuthAdapter.getSessionAndUser sha256 sessionToken now) fun result state =>
      { state with lookups := state.lookups ++ [⟨number, sessionToken, result⟩] }
  | .updateSession update now =>
    returns (AuthAdapter.updateSession sha256 update now) fun _ state => state
  | .deleteSession sessionToken =>
    returns (AuthAdapter.deleteSession sha256 sessionToken) fun _ state => state
  | .getBalance userId => returns (AuthStore.getBalance userId) fun _ state => state
  | .getSessionProfile number userId =>
    returns (AuthStore.getSessionProfile folding userId) fun result state =>
      { state with profiles := state.profiles ++ [⟨number, userId, result⟩] }
  | .account transaction =>
    returns (AuthStore.statement fun db =>
      (transaction.commit folding db).map fun db => ((), db)) fun _ state => state

/-! ## What the calls keep -/

section calls

variable {folding : CaseFolding} {sha256 : String → String} {R : AuthState → AuthState → Prop}
  {α : Type}

/-- `R` allows the writes of the two stores, but for those of `createSession` and `updateUser`. -/
structure StoresMove (folding : CaseFolding) (R : AuthState → AuthState → Prop) : Prop where
  refl : ∀ state, R state state
  createUser : ∀ {state user now created db},
    AuthStore.createUser folding user now state.db = .ok (created, db) → R state (state.setDb db)
  updateSession : ∀ {state session saved db},
    AuthStore.updateSession session state.db = .ok (saved, db) → R state (state.setDb db)
  deleteSession : ∀ {state tokenHash},
    R state (state.setDb (AuthStore.deleteSession tokenHash state.db).2)
  identities : ∀ {state oauthIdentities}, R state (state.setDb { state.db with oauthIdentities })
  balances : ∀ {state accountBalances}, R state (state.setDb { state.db with accountBalances })
  insertProfile : ∀ {state userId attempt profile nicknames},
    AuthStore.insertProfile folding userId attempt state.db.nicknames = some (profile, nicknames) →
    R state (state.setDb { state.db with nicknames })

theorem keeps_statement (hrefl : ∀ state, R state state)
    {f : Database → Except AccountError (α × Database)}
    (h : ∀ {state a db}, f state.db = .ok (a, db) → R state (state.setDb db)) :
    Prog.Keeps (fun _ => True) R (AuthStore.statement f) := by
  refine .stmt fun state _ => ⟨trivial, ?_⟩
  split
  · next hok => exact h hok
  · exact hrefl state

theorem keeps_returns {call : Prog AuthState α} {record : α → AuthState → AuthState}
    (hcall : Prog.Keeps (fun _ => True) R call) (hrecord : ∀ a state, R state (record a state)) :
    Prog.Keeps (fun _ => True) R (returns call record) :=
  hcall.bind fun a => .stmt fun state _ => ⟨trivial, hrecord a state⟩

theorem keeps_dropSession (hstore : StoresMove folding R) (tokenHash : String) :
    Prog.Keeps (fun _ => True) R (AuthAdapter.dropSession tokenHash) :=
  .stmt fun _ _ => ⟨trivial, hstore.deleteSession⟩

theorem keeps_linkIdentity (hstore : StoresMove folding R) (userId : Uuid)
    (provider subject : String) :
    Prog.Keeps (fun _ => True) R (AuthStore.linkIdentity userId provider subject) := by
  refine .bind (.read hstore.refl _) fun subjectIdentity => ?_
  split
  · split_ifs
    · exact .pure _
    · exact .pure _
  · refine .bind (.read hstore.refl _) fun userIdentity => ?_
    split_ifs
    · exact .pure _
    · refine keeps_statement hstore.refl fun {state a db} hok => ?_
      unfold AuthStore.insertIdentity at hok
      split_ifs at hok
      obtain ⟨oauthIdentities, -, hok⟩ := bind_eq_ok.1 hok
      cases hok
      exact hstore.identities

theorem keeps_getBalance (hstore : StoresMove folding R) (userId : Uuid) :
    Prog.Keeps (fun _ => True) R (AuthStore.getBalance userId) := by
  refine .bind (keeps_statement hstore.refl fun {state a db} hok => ?_) fun inserted => ?_
  · unfold AuthStore.insertBalance at hok
    split at hok
    · cases hok
      exact hstore.refl state
    · split_ifs at hok
      cases hok
      exact hstore.balances
  · split
    · exact .pure _
    · refine .bind (.read hstore.refl _) fun row => ?_
      split
      · exact .pure _
      · exact .pure _

theorem keeps_createProfile (hstore : StoresMove folding R) (userId : Uuid) (attempt : Nat) :
    Prog.Keeps (fun _ => True) R (AuthStore.createProfile folding userId attempt) := by
  refine keeps_statement hstore.refl fun {state a db} hok => ?_
  split at hok
  · cases hok
    exact hstore.refl state
  · next hinsert =>
    split at hok
    · cases hok
      exact hstore.insertProfile hinsert
    · cases hok

theorem keeps_attemptProfiles (hstore : StoresMove folding R) (userId : Uuid)
    (attempts : List Nat) :
    Prog.Keeps (fun _ => True) R (AuthStore.attemptProfiles folding userId attempts) := by
  induction attempts with
  | nil => exact .pure _
  | cons attempt attempts ih =>
    refine .bind (keeps_createProfile hstore userId attempt) fun created => ?_
    split
    · exact .pure _
    · exact .pure _
    · refine .bind (.read hstore.refl _) fun raced => ?_
      split
      · exact .pure _
      · exact ih

theorem keeps_getSessionProfile (hstore : StoresMove folding R) (userId : Uuid) :
    Prog.Keeps (fun _ => True) R (AuthStore.getSessionProfile folding userId) := by
  refine .bind (.read hstore.refl _) fun existing => ?_
  split
  · exact .pure _
  · exact keeps_attemptProfiles hstore userId _

theorem keeps_getSessionAndUser (hstore : StoresMove folding R) (sessionToken : String)
    (now : Int) :
    Prog.Keeps (fun _ => True) R (AuthAdapter.getSessionAndUser sha256 sessionToken now) := by
  unfold AuthAdapter.getSessionAndUser
  split
  · exact .pure _
  · next tokenHash _ =>
    refine .bind (.read hstore.refl _) fun found => ?_
    split
    · exact .pure _
    · split
      · exact .bind (keeps_dropSession hstore tokenHash) fun _ => .pure _
      · refine .bind (.read hstore.refl _) fun user => ?_
        split
        · exact .bind (keeps_dropSession hstore tokenHash) fun _ => .pure _
        · exact .pure _

theorem keeps_updateSession (hstore : StoresMove folding R) (update : AdapterSessionUpdate)
    (now : Int) :
    Prog.Keeps (fun _ => True) R (AuthAdapter.updateSession sha256 update now) := by
  unfold AuthAdapter.updateSession
  split
  · exact .pure _
  · refine .bind (.read hstore.refl _) fun found => ?_
    split
    · exact .pure _
    · exact .bind (keeps_statement hstore.refl hstore.updateSession) fun _ => .pure _

theorem keeps_deleteSession (hstore : StoresMove folding R) (sessionToken : String) :
    Prog.Keeps (fun _ => True) R (AuthAdapter.deleteSession sha256 sessionToken) := by
  unfold AuthAdapter.deleteSession
  split
  · exact .pure _
  · exact .bind (keeps_dropSession hstore _) fun _ => .pure _

theorem keeps_createSession (hrefl : ∀ state, R state state) {sessionToken : String}
    {userId : Uuid} {expires now : Int}
    (hsession : ∀ {state session created db}, session.tokenHash = sha256 sessionToken →
      createSession state.db session = .ok (created, db) → R state (state.setDb db)) :
    Prog.Keeps (fun _ => True) R
      (AuthAdapter.createSession sha256 sessionToken userId expires now) := by
  unfold AuthAdapter.createSession AuthAdapter.hashSessionToken
  split_ifs
  · exact .pure _
  · exact .bind (keeps_statement hrefl fun hok => hsession rfl hok) fun _ => .pure _

/-- The user that `updateUser` writes has the id that it was asked for. -/
theorem keeps_updateUser (hrefl : ∀ state, R state state) {update : AdapterUserUpdate} {now : Int}
    (huser : ∀ {state user now saved db}, user.id = update.id →
      AuthStore.updateUser folding user now state.db = .ok (saved, db) →
      R state (state.setDb db)) :
    Prog.Keeps (fun _ => True) R (AuthAdapter.updateUser folding update now) := by
  have hread : Prog.Yields (fun _ => True) (fun found => ∀ current, found = some current →
      current.id = update.id)
      (Prog.read fun state : AuthState => AuthStore.getUser update.id state.db) := by
    refine .stmt fun state _ current hcurrent => ?_
    obtain ⟨row, hrow, rfl⟩ := Option.map_eq_some_iff.1 hcurrent
    exact (Table.get?_eq_some_iff.1 hrow).2
  refine .bind_of (.read hrefl _) hread fun found hfound => ?_
  split
  · exact .pure _
  · next current =>
    split
    · exact .pure _
    · refine .bind (keeps_statement hrefl fun hok => ?_) fun _ => .pure _
      exact huser (by exact hfound current rfl) hok

/-- Every action of a call moves the state as `R` allows. -/
theorem keeps_code (hstore : StoresMove folding R) {call : AuthCall}
    (hsession : ∀ {sessionToken userId expires now},
      call = .createSession sessionToken userId expires now →
      ∀ {state session created db}, session.tokenHash = sha256 sessionToken →
        createSession state.db session = .ok (created, db) → R state (state.setDb db))
    (huser : ∀ {update now}, call = .updateUser update now →
      ∀ {state user now saved db}, user.id = update.id →
        AuthStore.updateUser folding user now state.db = .ok (saved, db) →
        R state (state.setDb db))
    (hlookup : ∀ {number sessionToken now}, call = .getSessionAndUser number sessionToken now →
      ∀ result state,
        R state { state with lookups := state.lookups ++ [⟨number, sessionToken, result⟩] })
    (hprofile : ∀ {number userId}, call = .getSessionProfile number userId →
      ∀ result state,
        R state { state with profiles := state.profiles ++ [⟨number, userId, result⟩] })
    (haccount : ∀ {transaction}, call = .account transaction →
      ∀ {state db}, transaction.commit folding state.db = .ok db → R state (state.setDb db)) :
    Prog.Keeps (fun _ => True) R (call.code folding sha256) := by
  have hrefl := hstore.refl
  cases call with
  | createUser => exact keeps_returns (keeps_statement hrefl hstore.createUser) fun _ => hrefl
  | getUser | getUserByEmail | getUserByAccount =>
    exact keeps_returns (.read hrefl _) fun _ => hrefl
  | linkAccount userId provider providerAccountId =>
    exact keeps_returns (keeps_linkIdentity hstore userId provider providerAccountId) fun _ => hrefl
  | getBalance userId => exact keeps_returns (keeps_getBalance hstore userId) fun _ => hrefl
  | updateUser => exact keeps_returns (keeps_updateUser hrefl (huser rfl)) fun _ => hrefl
  | createSession => exact keeps_returns (keeps_createSession hrefl (hsession rfl)) fun _ => hrefl
  | getSessionAndUser number sessionToken now =>
    exact keeps_returns (keeps_getSessionAndUser hstore sessionToken now) (hlookup rfl)
  | updateSession update now =>
    exact keeps_returns (keeps_updateSession hstore update now) fun _ => hrefl
  | deleteSession sessionToken =>
    exact keeps_returns (keeps_deleteSession hstore sessionToken) fun _ => hrefl
  | getSessionProfile number userId =>
    exact keeps_returns (keeps_getSessionProfile hstore userId) (hprofile rfl)
  | account transaction =>
    refine keeps_returns (keeps_statement hrefl fun {state a db} hok => ?_) fun _ => hrefl
    cases hcommit : transaction.commit folding state.db with
    | error error =>
      rw [hcommit] at hok
      cases hok
    | ok committed =>
      rw [hcommit] at hok
      cases hok
      exact haccount rfl hcommit

end calls

/-! ## Links of identities -/

/-- What the caller of `linkIdentity` is thrown. -/
def LinkError.thrown (error : LinkError) : AccountError :=
  match error.message? with
  | some message => .failed message
  | none => .uniqueViolation

/-- A statement of a link, in the database. -/
def IdentitySystem.move (link : IdentityLink) (state : AuthState) (phase : LinkPhase) :
    AuthState × LinkPhase :=
  let (oauthIdentities, phase) := statement state.db.oauthIdentities link phase
  (state.setDb { state.db with oauthIdentities }, phase)

/-- A link has ended as a call has. -/
def LinkPhase.Ends (phase : LinkPhase) (result : Except AccountError Unit) : Prop :=
  ∃ ended, phase = .finished ended ∧ result = ended.mapError LinkError.thrown

namespace AuthStore

variable (link : IdentityLink)

/-- The call is for a user that there is. -/
def ForUser (state : AuthState) : Prop := state.db.users.rows.any (·.id = link.userId) = true

theorem insertIdentity_follows :
    (statement (insertIdentity (IdentitySystem.row link))).Follows (ForUser link)
      (IdentitySystem.move link) LinkPhase.Ends .insert := by
  refine .stmt fun state huser => ?_
  have hforeign : (!state.db.users.rows.any (·.id = (IdentitySystem.row link).userId)) = false :=
    congrArg Bool.not huser
  rw [insertIdentity, hforeign, if_neg Bool.false_ne_true]
  dsimp only [IdentitySystem.move, IdentitySystem.statement]
  cases hinsert : state.db.oauthIdentities.insert? (fun _ => false) (IdentitySystem.row link) with
  | none =>
    have hrow : insertRow state.db.oauthIdentities (fun _ => false) (IdentitySystem.row link) =
        .error .uniqueViolation := by rw [insertRow, hinsert]; rfl
    rw [hrow]
    exact ⟨rfl, .error .uniqueViolation, rfl, rfl⟩
  | some oauthIdentities =>
    have hrow : insertRow state.db.oauthIdentities (fun _ => false) (IdentitySystem.row link) =
        .ok oauthIdentities := by rw [insertRow, hinsert]; rfl
    rw [hrow]
    exact ⟨rfl, .ok (), rfl, rfl⟩

/-- A call does the statements of a link. -/
theorem linkIdentity_follows :
    (linkIdentity link.userId link.provider link.subject).Follows (ForUser link)
      (IdentitySystem.move link) LinkPhase.Ends .selectSubject := by
  refine .stmt_bind fun state _ => ?_
  have hsubject : state.db.oauthIdentities.get? (link.provider, link.subject) =
      state.db.oauthIdentities.rows.find? fun r =>
        r.provider = link.provider && r.providerSubject = link.subject := by
    refine congrArg (state.db.oauthIdentities.rows.find? ·) (funext fun r => ?_)
    rw [← Bool.decide_and]
    exact decide_eq_decide.2 Prod.mk_inj
  dsimp only [IdentitySystem.move, IdentitySystem.statement]
  rw [← hsubject]
  cases state.db.oauthIdentities.get? (link.provider, link.subject) with
  | some subjectIdentity =>
    dsimp only
    split
    · exact ⟨rfl, .pure ⟨.error .subjectOfAnother, rfl, rfl⟩⟩
    · exact ⟨rfl, .pure ⟨.ok (), rfl, rfl⟩⟩
  | none =>
    refine ⟨rfl, .stmt_bind fun state _ => ?_⟩
    dsimp only [IdentitySystem.move, IdentitySystem.statement]
    cases state.db.oauthIdentities.rows.find? fun r =>
      r.userId = link.userId && r.provider = link.provider with
    | some userIdentity =>
      simp only [Option.any_some, decide_eq_true_eq]
      split
      · exact ⟨rfl, .pure ⟨.error .differentIdentity, rfl, rfl⟩⟩
      · exact ⟨rfl, insertIdentity_follows link⟩
    | none => exact ⟨rfl, insertIdentity_follows link⟩

end AuthStore

end RcOnline.Web
