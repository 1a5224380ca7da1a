import RcOnline.Database.Accounts
import RcOnline.Lib.Host
import RcOnline.Lib.Number
import RcOnline.Lib.Results

/-!
# The account store

`createPostgresAccountStore` of `apps/web/auth/postgres-account-store.ts` and `createSession` of
`postgres-auth-store.ts`. A function is one transaction: an error rolls it back. The times and the
random uuids that a function draws are arguments.
-/

namespace RcOnline.Web

open RcOnline.Lib RcOnline.Accounts

/-- What is done to a text by the host (`toLowerCase`, `normalize("NFKC")`) and by the database
(`lower`). -/
structure CaseFolding where
  toLowerCase : String → String
  normalizeNfkc : String → String
  lower : String → String

inductive AccountError where
  | registrationUnavailable
  | uniqueViolation
  | foreignKeyViolation
  | failed (message : String)
  deriving DecidableEq

structure PendingAccountRegistration where
  email : String
  passwordHash : String
  verificationTokenHash : String
  verificationExpiresAt : Int
  legalRevision : String

structure AccountActionResult where
  userId : Uuid
  email : String
  deriving DecidableEq

structure PasswordSignInCandidate extends AccountActionResult where
  passwordHash : String
  deriving DecidableEq

structure SessionProfile where
  nickname : String
  avatarKey : String
  deriving DecidableEq

structure OwnProfile where
  email : String
  nickname : String
  avatarKey : String

structure ActionTokenRequest where
  email : String
  kind : AccountActionTokenKind
  tokenHash : String
  expiresAt : Int
  now : Int

structure ActionTokenUse where
  kind : AccountActionTokenKind
  tokenHash : String
  now : Int

structure PasswordReplacement where
  resetTokenHash : String
  newPasswordHash : String
  now : Int

structure AccountCleanupResult where
  tokensDeleted : Nat
  rateLimitRowsDeleted : Nat
  accountsDeleted : Nat
  deriving DecidableEq

def normalizeAccountEmail (folding : CaseFolding) (email : String) : String :=
  folding.toLowerCase (trim email)

def normalizeAccountNickname (folding : CaseFolding) (nickname : String) : String :=
  trim (folding.normalizeNfkc nickname)

/-- `createDefaultNickname` without a suffix; a uuid is in ASCII. -/
def createDefaultNickname (uuid : Uuid) : String :=
  "Driver-" ++ .ofList (((uuid.toList.filter (· ≠ '-')).take 8).map Char.toUpper)

def defaultAvatarKey : String := "racer-red"

/-- `insert …`; a taken unique value is an error. -/
def insertRow {α κ : Type} [Row α κ] [DecidableEq κ] (table : Table α) (clash : α → Bool) (r : α) :
    Except AccountError (Table α) :=
  ofOption .uniqueViolation (table.insert? clash r)

/-! ## Registration -/

def insertLegalNotices (consents : Table Consent) (userId : Uuid) (legalRevision : String)
    (occurredAt : Int) : Table Consent :=
  ["terms_of_service", "privacy_policy_notice"].foldl
    (fun consents kind =>
      (consents.insert? (fun _ => false)
        { userId
          kind
          documentVersion := legalRevision
          accepted := true
          occurredAt
          evidence := [("presentation", "registration_notice")] }).getD consents)
    consents

def verificationToken (userId : Uuid) (input : PendingAccountRegistration) (createdAt : Int) :
    AccountActionToken where
  userId := userId
  kind := .verifyEmail
  tokenHash := input.verificationTokenHash
  expiresAt := input.verificationExpiresAt
  consumedAt := none
  createdAt := createdAt

def insertVerificationToken (tokens : Table AccountActionToken) (userId : Uuid)
    (input : PendingAccountRegistration) (createdAt : Int) :
    Except AccountError (Table AccountActionToken) :=
  insertRow tokens (fun _ => false) (verificationToken userId input createdAt)

/-- The credential of a registration, not yet verified. -/
def pendingCredential (userId : Uuid) (input : PendingAccountRegistration) (occurredAt : Int) :
    PasswordCredential where
  userId := userId
  passwordHash := input.passwordHash
  passwordChangedAt := occurredAt
  verifiedAt := none
  createdAt := occurredAt
  updatedAt := occurredAt

def newUser (userId : Uuid) (email : String) (occurredAt : Int) : User where
  id := userId
  email := email
  displayName := "RC Mania driver"
  role := "user"
  emailVerifiedAt := none
  disabledAt := none
  createdAt := occurredAt
  updatedAt := occurredAt

/-- At most ten nicknames are tried. -/
def insertNickname (folding : CaseFolding) (nicknames : Table Nickname) (userId : Uuid)
    (uuids : List Uuid) : Except AccountError (Table Nickname) :=
  match (uuids.take 10).findSome? fun uuid =>
      nicknames.insert?
        (fun r => folding.lower r.nickname = folding.lower (createDefaultNickname uuid))
        { userId, nickname := createDefaultNickname uuid, avatarKey := defaultAvatarKey } with
  | some nicknames => .ok nicknames
  | none => .error (.failed "Account profile creation returned no row")

/-- A user who signs in with Google already gets a password. -/
def registerExisting (folding : CaseFolding) (db : Database) (input : PendingAccountRegistration)
    (occurredAt : Int) (existingUser : User) :
    Except AccountError (AccountActionResult × Database) :=
  if existingUser.disabledAt.isSome then .error .registrationUnavailable
  else if db.passwordCredentials.rows.any (·.userId = existingUser.id) then
    .error .registrationUnavailable
  else if !db.oauthIdentities.rows.any fun r =>
      r.userId = existingUser.id && r.provider = "google" then
    .error .registrationUnavailable
  else do
    let passwordCredentials ← insertRow db.passwordCredentials (fun _ => false)
      (pendingCredential existingUser.id input occurredAt)
    let consents := insertLegalNotices db.consents existingUser.id input.legalRevision occurredAt
    let accountActionTokens ←
      insertVerificationToken db.accountActionTokens existingUser.id input occurredAt
    .ok ({ userId := existingUser.id, email := normalizeAccountEmail folding existingUser.email },
      { db with passwordCredentials, consents, accountActionTokens })

def registerNew (folding : CaseFolding) (db : Database) (input : PendingAccountRegistration)
    (email : String) (occurredAt : Int) (userId : Uuid) (nicknameUuids : List Uuid) :
    Except AccountError (AccountActionResult × Database) := do
  let users ← insertRow db.users (fun r => folding.lower r.email = folding.lower email)
    (newUser userId email occurredAt)
  let passwordCredentials ← insertRow db.passwordCredentials (fun _ => false)
    (pendingCredential userId input occurredAt)
  let accountBalances ← insertRow db.accountBalances (fun _ => false)
    { userId, currency := "USD", amountMinor := 0 }
  let nicknames ← insertNickname folding db.nicknames userId nicknameUuids
  let consents := insertLegalNotices db.consents userId input.legalRevision occurredAt
  let accountActionTokens ←
    insertVerificationToken db.accountActionTokens userId input occurredAt
  .ok ({ userId, email := normalizeAccountEmail folding email },
    { db with
      users, passwordCredentials, accountBalances, nicknames, consents, accountActionTokens })

def registerPendingAccount (folding : CaseFolding) (db : Database)
    (input : PendingAccountRegistration) (occurredAt : Int) (userId : Uuid)
    (nicknameUuids : List Uuid) : Except AccountError (AccountActionResult × Database) :=
  let email := normalizeAccountEmail folding input.email
  let registered :=
    match db.users.rows.find? (folding.lower ·.email = email) with
    | some existingUser => registerExisting folding db input occurredAt existingUser
    | none => registerNew folding db input email occurredAt userId nicknameUuids
  match registered with
  | .error .uniqueViolation => .error .registrationUnavailable
  | registered => registered

/-! ## Action tokens -/

/-- A token that a use may consume. -/
def usable (kind : AccountActionTokenKind) (tokenHash : String) (now : Int)
    (r : AccountActionToken) : Bool :=
  r.tokenHash = tokenHash && r.kind = kind && r.consumedAt.isNone && decide (now < r.expiresAt)

def consumeActionToken (folding : CaseFolding) (db : Database) (input : ActionTokenUse) :
    Except AccountError (Option AccountActionResult × Database) :=
  match db.accountActionTokens.rows.find? (usable input.kind input.tokenHash input.now) with
  | none => .ok (none, db)
  | some token =>
    let accountActionTokens :=
      db.accountActionTokens.update (usable input.kind input.tokenHash input.now)
        ({ · with consumedAt := some input.now })
    let enabled := fun r : User => r.id = token.userId && r.disabledAt.isNone
    match input.kind with
    | .verifyEmail =>
      match db.users.rows.find? enabled with
      | none => .error (.failed "Verification user is unavailable")
      | some verifiedUser =>
        let pending := fun r : PasswordCredential =>
          r.userId = token.userId && r.verifiedAt.isNone
        if db.passwordCredentials.rows.any pending then
          .ok (some
              { userId := verifiedUser.id
                email := normalizeAccountEmail folding verifiedUser.email },
            { db with
              accountActionTokens
              users := db.users.update enabled
                ({ · with emailVerifiedAt := some input.now, updatedAt := input.now })
              passwordCredentials := db.passwordCredentials.update pending
                ({ · with verifiedAt := some input.now, updatedAt := input.now }) })
        else .error (.failed "Verification credential is unavailable")
    | .resetPassword =>
      .ok ((db.users.rows.find? enabled).map fun user =>
          { userId := user.id, email := normalizeAccountEmail folding user.email },
        { db with accountActionTokens })

/-- The first user, with the credential, that a join of the two tables meets. -/
def findAccount (db : Database) (p : User → PasswordCredential → Bool) :
    Option (User × PasswordCredential) :=
  db.users.rows.findSome? fun user =>
    ((db.passwordCredentials.get? user.id).filter (p user)).map fun credential =>
      (user, credential)

def actionToken (userId : Uuid) (input : ActionTokenRequest) : AccountActionToken where
  userId := userId
  kind := input.kind
  tokenHash := input.tokenHash
  expiresAt := input.expiresAt
  consumedAt := none
  createdAt := input.now

def createOrRotateActionToken (folding : CaseFolding) (db : Database)
    (input : ActionTokenRequest) :
    Except AccountError (Option AccountActionResult × Database) :=
  let email := normalizeAccountEmail folding input.email
  let eligible := findAccount db fun user credential =>
    folding.lower user.email = email && user.disabledAt.isNone &&
      match input.kind with
      | .verifyEmail => credential.verifiedAt.isNone
      | .resetPassword => credential.verifiedAt.isSome && user.emailVerifiedAt.isSome
  match eligible with
  | none => .ok (none, db)
  | some (user, _) => do
    let others := db.accountActionTokens.delete fun r =>
      r.userId = user.id && r.kind = input.kind && r.consumedAt.isNone
    let accountActionTokens ← insertRow others (fun _ => false) (actionToken user.id input)
    .ok (some { userId := user.id, email := normalizeAccountEmail folding user.email },
      { db with accountActionTokens })

/-! ## Passwords and sessions -/

def findPasswordSignIn (folding : CaseFolding) (db : Database) (rawEmail : String) :
    Option PasswordSignInCandidate :=
  let email := normalizeAccountEmail folding rawEmail
  (findAccount db fun user credential =>
    folding.lower user.email = email && user.disabledAt.isNone &&
      credential.verifiedAt.isSome).map fun (user, credential) =>
    { userId := user.id
      email := normalizeAccountEmail folding user.email
      passwordHash := credential.passwordHash }

/-- A reset token that may be used: its user is enabled, with a verified password. -/
def resettable (db : Database) (input : PasswordReplacement) (r : AccountActionToken) : Bool :=
  usable .resetPassword input.resetTokenHash input.now r &&
    db.users.rows.any fun user =>
      user.id = r.userId && user.disabledAt.isNone &&
        (db.passwordCredentials.get? user.id).any (·.verifiedAt.isSome)

def replacePasswordAndRevokeSessions (folding : CaseFolding) (db : Database)
    (input : PasswordReplacement) : Except AccountError (Option AccountActionResult × Database) :=
  match db.accountActionTokens.rows.find? (resettable db input) with
  | none => .ok (none, db)
  | some token =>
    let consumed := db.accountActionTokens.update (resettable db input)
      ({ · with consumedAt := some input.now })
    let verified := fun r : PasswordCredential => r.userId = token.userId && r.verifiedAt.isSome
    if db.passwordCredentials.rows.any verified then
      let user := db.users.rows.find? fun r => r.id = token.userId && r.disabledAt.isNone
      .ok (user.map fun user =>
          { userId := token.userId, email := normalizeAccountEmail folding user.email },
        { db with
          passwordCredentials := db.passwordCredentials.update verified
            ({ · with
              passwordHash := input.newPasswordHash
              passwordChangedAt := input.now
              updatedAt := input.now })
          authSessions := db.authSessions.delete (·.userId = token.userId)
          accountActionTokens := consumed.delete fun r =>
            r.userId = token.userId && r.kind = .resetPassword })
    else .error (.failed "Reset credential invariant failed")

def createSession (db : Database) (session : AuthSession) :
    Except AccountError (AuthSession × Database) :=
  if !db.users.rows.any (·.id = session.userId) then .error .foreignKeyViolation
  else do
    let authSessions ← insertRow db.authSessions (fun _ => false) session
    .ok (session, { db with authSessions })

/-! ## Profiles -/

def getOwnProfile (db : Database) (authenticatedSubject : Uuid) : Option OwnProfile := do
  let user ← (db.users.get? authenticatedSubject).filter (·.disabledAt.isNone)
  let nickname ← db.nicknames.get? authenticatedSubject
  some { email := user.email, nickname := nickname.nickname, avatarKey := nickname.avatarKey }

def updateOwnProfile (folding : CaseFolding) (db : Database) (authenticatedSubject : Uuid)
    (profile : SessionProfile) : Except AccountError (Option OwnProfile × Database) :=
  let own := fun r : Nickname => r.userId = authenticatedSubject &&
    db.users.rows.any fun user => user.id = r.userId && user.disabledAt.isNone
  let nickname := normalizeAccountNickname folding profile.nickname
  if !db.nicknames.rows.any own then .ok (none, db)
  else if db.nicknames.rows.any fun r =>
      r.userId ≠ authenticatedSubject && folding.lower r.nickname = folding.lower nickname then
    .error .uniqueViolation
  else
    let db :=
      { db with
        nicknames := db.nicknames.update own
          ({ · with nickname, avatarKey := profile.avatarKey }) }
    .ok (getOwnProfile db authenticatedSubject, db)

/-! ## Deletion -/

def deletedEmailDomain : String := "invalid.rcmania"

/-- The email of a deleted account has a uuid that no other has. -/
def deleteOwnAccount (db : Database) (authenticatedSubject : Uuid) (disabledAt : Int)
    (deletedUuid : Uuid) : Bool × Database :=
  let own := fun r : User => r.id = authenticatedSubject && r.disabledAt.isNone
  (db.users.rows.any own,
    { db with
      authSessions := db.authSessions.delete (·.userId = authenticatedSubject)
      passwordCredentials := db.passwordCredentials.delete (·.userId = authenticatedSubject)
      accountActionTokens := db.accountActionTokens.delete (·.userId = authenticatedSubject)
      oauthIdentities := db.oauthIdentities.delete (·.userId = authenticatedSubject)
      nicknames := db.nicknames.delete (·.userId = authenticatedSubject)
      consents := db.consents.delete fun r =>
        r.userId = authenticatedSubject && r.kind ≠ "terms_of_service"
      users := db.users.update own
        ({ · with
          email := "deleted+" ++ deletedUuid ++ "@" ++ deletedEmailDomain
          displayName := "Deleted driver"
          emailVerifiedAt := none
          disabledAt := some disabledAt
          updatedAt := disabledAt }) })

/-- Which of the rows that match the database returns under a limit, and which it finds locked. -/
structure CleanupChoice where
  token : AccountActionToken → Bool
  rateLimit : AuthRateLimit → Bool
  account : User → Bool

/-- `Math.min(250, Math.max(1, Math.floor(batchSize)))`. -/
def cleanupBatchSize (q : ℚ) : Nat := (min 250 (max 1 ⌊q⌋)).toNat

/-- An account that was not verified within seven days. -/
def stale (db : Database) (now : Int) (user : User) : Bool :=
  user.emailVerifiedAt.isNone && user.disabledAt.isNone &&
    (db.passwordCredentials.get? user.id).any (·.verifiedAt.isNone) &&
    decide (user.createdAt < now - 7 * 24 * 60 * 60 * 1000) &&
    !db.oauthIdentities.rows.any (·.userId = user.id)

/-- The rows of accounts that are deleted; balances go with their users. -/
def deleteAccounts (db : Database) (ids : List Uuid) : Database :=
  { db with
    authSessions := db.authSessions.delete (·.userId ∈ ids)
    accountActionTokens := db.accountActionTokens.delete (·.userId ∈ ids)
    passwordCredentials := db.passwordCredentials.delete (·.userId ∈ ids)
    nicknames := db.nicknames.delete (·.userId ∈ ids)
    consents := db.consents.delete (·.userId ∈ ids)
    users := db.users.delete (·.id ∈ ids)
    accountBalances := db.accountBalances.delete (·.userId ∈ ids) }

def cleanupExpiredAccountData (db : Database) (now : Int) (batchSize : Number)
    (choice : CleanupChoice) : Except AccountError (AccountCleanupResult × Database) :=
  match batchSize with
  | .finite q =>
    let limit := cleanupBatchSize q
    let tokens := (db.accountActionTokens.select fun r =>
      decide (r.expiresAt < now) && choice.token r).take limit
    let rateLimits := (db.authRateLimits.select fun r =>
      decide (r.expiresAt < now) && choice.rateLimit r).take limit
    let db :=
      { db with
        accountActionTokens := db.accountActionTokens.delete (· ∈ tokens)
        authRateLimits := db.authRateLimits.delete (· ∈ rateLimits) }
    let accounts :=
      (db.users.select fun user => stale db now user && choice.account user).take limit
    .ok (⟨tokens.length, rateLimits.length, accounts.length⟩,
      deleteAccounts db (accounts.map User.id))
  | _ => .error (.failed "Cleanup batch size must be finite")

end RcOnline.Web
