import RcOnline.Web.PasswordReset
import RcOnline.Web.RateLimits

/-!
# The account service

`createAccountService` of `apps/web/auth/account-service.ts`: any number of requests, with every
call of the store, every hashing of a password and every delivery a step of its own. A delivery is
retained until after the response. What a request draws (tokens, salts, uuids) comes with the event.
-/

namespace RcOnline.Web

open RcOnline.Lib RcOnline.Accounts

/-! ## Policies -/

namespace AccountPolicies

def verificationTtlMs : Int := 24 * 60 * 60 * 1000

def passwordResetTtlMs : Int := 30 * 60 * 1000

def registration : RateLimitPolicy := ⟨.ofInt 5, .ofInt (60 * 60 * 1000)⟩

def signIn : RateLimitPolicy := ⟨.ofInt 10, .ofInt (15 * 60 * 1000)⟩

def resend : RateLimitPolicy := ⟨.ofInt 3, .ofInt (60 * 60 * 1000)⟩

def passwordResetRequest : RateLimitPolicy := ⟨.ofInt 3, .ofInt (60 * 60 * 1000)⟩

def passwordResetSubmit : RateLimitPolicy := ⟨.ofInt 5, .ofInt (15 * 60 * 1000)⟩

def deletion : RateLimitPolicy := ⟨.ofInt 3, .ofInt (15 * 60 * 1000)⟩

/-- The limit of the nickname route. -/
def nickname : RateLimitPolicy := ⟨.ofInt 5, .ofInt 60000⟩

end AccountPolicies

/-! ## Requests -/

structure RateLimitedInput where
  ipKeyHash : String
  accountKeyHash : String

inductive AccountRequest where
  | register (email password legalRevision : String)
  | resendVerification (email : String)
  | requestPasswordReset (email : String)
  | verifyEmail (token : String)
  | resetPassword (token password : String)
  | signInPassword (email password : String)
  | deleteAccount (authenticatedSubject : Uuid)

/-- The kind of a request's attempts, with their policy. -/
def AccountRequest.limit? : AccountRequest → Option (String × RateLimitPolicy)
  | .register .. => some ("registration", AccountPolicies.registration)
  | .resendVerification _ => some ("resend", AccountPolicies.resend)
  | .requestPasswordReset _ => some ("password_reset_request", AccountPolicies.passwordResetRequest)
  | .verifyEmail _ => none
  | .resetPassword .. => some ("password_reset_submit", AccountPolicies.passwordResetSubmit)
  | .signInPassword .. => some ("sign_in", AccountPolicies.signIn)
  | .deleteAccount _ => some ("deletion", AccountPolicies.deletion)

/-- The results of the service's methods. -/
inductive AccountResponse where
  | accepted
  | rateLimited
  | verified
  | invalid
  | reset
  | authenticated (token : String) (expiresAt : Int)
  | deleted
  | unavailable
  /-- The method throws. -/
  | failed
  deriving DecidableEq

/-- What a request waits for. -/
inductive AccountPhase where
  /-- Its attempts; those that have ended were allowed, or not. -/
  | limiting (allowed : Bool)
  | hashing
  /-- A delivery is retained next. -/
  | scheduling (passwordHash : Option String)
  | consuming
  | replacing (newPasswordHash : String)
  | finding
  | verifying (candidate : Option PasswordSignInCandidate)
  | creating (candidate : PasswordSignInCandidate)
  | loading
  | deleting (ownEmail : String)
  | finished

/-- What a request does once its attempts are allowed. -/
def AccountRequest.admitted : AccountRequest → AccountPhase
  | .register .. | .resetPassword .. => .hashing
  | .resendVerification _ | .requestPasswordReset _ => .scheduling none
  | .verifyEmail _ => .consuming
  | .signInPassword .. => .finding
  | .deleteAccount _ => .loading

/-- The two attempts of a request, which are made side by side. -/
inductive RateLimitKey where
  | ip
  | account
  deriving DecidableEq

structure AccountRun where
  request : AccountRequest
  limited : RateLimitedInput
  now : Int
  /-- The attempts that are under way. -/
  pending : RateLimitKey → Bool
  phase : AccountPhase

namespace AccountRun

def keyHash (run : AccountRun) : RateLimitKey → String
  | .ip => run.limited.ipKeyHash
  | .account => run.limited.accountKeyHash

/-- The input of an attempt. -/
def attempt? (run : AccountRun) (key : RateLimitKey) : Option RateLimitRequest :=
  if run.pending key then
    run.request.limit?.map fun (kind, policy) =>
      { keyHash := run.keyHash key, kind, now := some run.now, windowMs := policy.windowMs
        limit := policy.limit }
  else none

def ended (run : AccountRun) (key : RateLimitKey) : AccountRun :=
  { run with pending := Function.update run.pending key false }

/-- The request waits for a call of a store. -/
def calls (run : AccountRun) : Bool :=
  match run.phase, run.request with
  | .consuming, .verifyEmail _ | .replacing _, .resetPassword .. | .finding, .signInPassword ..
  | .creating _, .signInPassword .. | .loading, .deleteAccount _
  | .deleting _, .deleteAccount _ => true
  | _, _ => false

def waits (run : AccountRun) : Bool := run.pending .ip || run.pending .account

end AccountRun

/-! ## Deliveries -/

inductive TransactionalEmailTemplateKind where
  | verification
  | passwordReset
  | passwordChanged
  | accountDeleted
  deriving DecidableEq

inductive DeliveryStatusClass where
  | success
  | network
  | clientError
  | serverError
  | other
  deriving DecidableEq

/-- What a delivery throws: a `TransactionalEmailError`, or anything else. -/
inductive DeliveryError where
  | transactional (status : Option Int)
  | other

def deliveryFailureClass : DeliveryError → DeliveryStatusClass
  | .other => .other
  | .transactional none => .network
  | .transactional (some status) =>
    if 400 ≤ status ∧ status < 500 then .clientError
    else if 500 ≤ status ∧ status < 600 then .serverError
    else .other

structure AccountDeliverySignal where
  templateKind : TransactionalEmailTemplateKind
  success : Bool
  statusClass : DeliveryStatusClass

/-- A call of the email service. -/
structure AccountMail where
  kind : TransactionalEmailTemplateKind
  recipient : String
  token : Option String

/-- The kind of the mail that carries a token. -/
def templateKind : AccountActionTokenKind → TransactionalEmailTemplateKind
  | .verifyEmail => .verification
  | .resetPassword => .passwordReset

/-- What a retained delivery does next. -/
inductive DeliveryTask where
  | registering (input : PendingAccountRegistration) (token : String)
  | rotating (input : ActionTokenRequest) (token : String)
  | sending (mail : AccountMail)
  | finished

def DeliveryTask.kind? : DeliveryTask → Option TransactionalEmailTemplateKind
  | .registering _ _ => some .verification
  | .rotating input _ => some (templateKind input.kind)
  | .sending mail => some mail.kind
  | .finished => none

/-! ## The service -/

/-- The store has inserted a token, for a user whose address was this. -/
structure TokenIssue where
  tokenHash : String
  userId : Uuid
  address : Option String
  deriving DecidableEq

/-- A request has used a token on a user. -/
structure TokenUse where
  token : String
  userId : Uuid
  deriving DecidableEq

/-- The answer of a request. -/
structure AccountAnswer where
  number : Nat
  request : AccountRequest
  response : AccountResponse

structure AccountServer where
  db : Database
  runs : Nat → Option AccountRun
  tasks : Nat → Option DeliveryTask
  answers : List AccountAnswer
  /-- What has been mailed, by the requests that it is due to. -/
  mail : List (Nat × AccountMail)
  signals : List (Nat × AccountDeliverySignal)
  /-- The requests that a password was hashed for, or verified. -/
  worked : List Nat
  issues : List TokenIssue
  uses : List TokenUse

inductive AccountServerEvent where
  | arrives (number : Nat) (request : AccountRequest) (limited : RateLimitedInput) (now : Int)
  | attempt (number : Nat) (key : RateLimitKey)
  /-- The database does not answer. -/
  | attemptFails (number : Nat) (key : RateLimitKey)
  /-- None when `hashPassword` throws. -/
  | hashes (number : Nat) (passwordHash : Option String)
  /-- `createAccountToken` and `scheduleAfterResponse`, which may throw. -/
  | schedules (number : Nat) (token : String) (accepted : Bool)
  | consumes (number : Nat)
  | replaces (number : Nat) (accepted : Bool)
  | finds (number : Nat)
  | verifies (number : Nat)
  | creates (number : Nat) (token : String)
  | loads (number : Nat)
  | deletes (number : Nat) (disabledAt : Int) (deletedUuid : Uuid) (accepted : Bool)
  | storeFails (number : Nat)
  | registers (number : Nat) (occurredAt : Int) (userId : Uuid) (nicknameUuids : List Uuid)
  | rotates (number : Nat)
  | taskFails (number : Nat)
  | delivers (number : Nat) (outcome : Except DeliveryError Unit)
  /-- An attempt of the nickname route. -/
  | nicknameAttempt (keyHash : String) (now : Int)
  /-- A cleanup deletes tokens and accounts, and its counters later. -/
  | cleansUp (now : Int) (batchSize : Number) (choice : CleanupChoice)
  | cleanupDeletes (key : CounterKey)
  /-- Other parts of the application leave these tables; the counters are not theirs. -/
  | elsewhere (db : Database)

namespace AccountServer

def start (db : Database) : AccountServer where
  db := db
  runs := fun _ => none
  tasks := fun _ => none
  answers := []
  mail := []
  signals := []
  worked := []
  issues := []
  uses := []

variable (server : AccountServer)

def enter (number : Nat) (run : AccountRun) : AccountServer :=
  { server with runs := Function.update server.runs number (some run) }

def answer (number : Nat) (run : AccountRun) (response : AccountResponse) : AccountServer :=
  { server.enter number { run with phase := .finished } with
    answers := server.answers ++ [⟨number, run.request, response⟩] }

/-- `Promise.all` of the two attempts: it waits for both, and throws at once when one does. -/
def attempted (number : Nat) (run : AccountRun) (outcome : Option Bool) : AccountServer :=
  match run.phase, outcome with
  | .limiting _, none => server.answer number run .failed
  | .limiting before, some allowed =>
    let allowed := before && allowed
    if run.waits then server.enter number { run with phase := .limiting allowed }
    else if allowed then server.enter number { run with phase := run.request.admitted }
    else server.answer number run .rateLimited
  | _, _ => server.enter number run

def setCounters (authRateLimits : Table AuthRateLimit) : AccountServer :=
  { server with db := { server.db with authRateLimits } }

def setDb (db : Database) : AccountServer := { server with db }

/-- A token has been used on a user. -/
def spend (token : String) (account : AccountActionResult) (db : Database) : AccountServer :=
  { server with db, uses := server.uses ++ [⟨token, account.userId⟩] }

def retain (number : Nat) (task : DeliveryTask) : AccountServer :=
  { server with tasks := Function.update server.tasks number (some task) }

def report (number : Nat) (signal : AccountDeliverySignal) : AccountServer :=
  { server with signals := server.signals ++ [(number, signal)] }

def works (number : Nat) : AccountServer := { server with worked := server.worked ++ [number] }

/-- The work of a request's delivery. -/
def delivery? (folding : CaseFolding) (hashAccountToken : String → String) (run : AccountRun)
    (passwordHash : Option String) (token : String) : Option DeliveryTask :=
  match run.request, passwordHash with
  | .register email _ legalRevision, some passwordHash =>
    some (.registering
      { email := normalizeAccountEmail folding email
        passwordHash
        verificationTokenHash := hashAccountToken token
        verificationExpiresAt := run.now + AccountPolicies.verificationTtlMs
        legalRevision } token)
  | .resendVerification email, _ =>
    some (.rotating
      { email := normalizeAccountEmail folding email
        kind := .verifyEmail
        tokenHash := hashAccountToken token
        expiresAt := run.now + AccountPolicies.verificationTtlMs
        now := run.now } token)
  | .requestPasswordReset email, _ =>
    some (.rotating
      { email := normalizeAccountEmail folding email
        kind := .resetPassword
        tokenHash := hashAccountToken token
        expiresAt := run.now + AccountPolicies.passwordResetTtlMs
        now := run.now } token)
  | _, _ => none

/-- A token of the task has been inserted; its mail is sent next. -/
def issue (folding : CaseFolding) (number : Nat) (kind : AccountActionTokenKind)
    (tokenHash token : String)
    (account : AccountActionResult) (db : Database) : AccountServer :=
  { server.retain number
      (.sending { kind := templateKind kind, recipient := account.email, token := some token }) with
    db
    issues := server.issues ++ [
      { tokenHash
        userId := account.userId
        address := (db.users.get? account.userId).map (normalizeAccountEmail folding ·.email) }] }

/-- The work of a delivery throws. -/
def taskFails (number : Nat) (kind : TransactionalEmailTemplateKind) (error : DeliveryError) :
    AccountServer :=
  (server.retain number .finished).report number ⟨kind, false, deliveryFailureClass error⟩

variable (folding : CaseFolding) (dependencies : AccountServiceDependencies)

/-- A step of a request after its attempts; none when it waits for something else. -/
def advance (number : Nat) (run : AccountRun) : AccountServerEvent → Option AccountServer
  | .hashes _ passwordHash =>
    match run.phase, passwordHash, run.request with
    | .hashing, none, _ => some ((server.works number).answer number run .failed)
    | .hashing, some passwordHash, .resetPassword .. =>
      some ((server.works number).enter number { run with phase := .replacing passwordHash })
    | .hashing, some passwordHash, _ =>
      some ((server.works number).enter number
        { run with phase := .scheduling (some passwordHash) })
    | _, _, _ => none
  | .schedules _ token accepted =>
    match run.phase with
    | .scheduling passwordHash =>
      (delivery? folding dependencies.hashAccountToken run passwordHash token).map fun task =>
        if accepted then (server.retain number task).answer number run .accepted
        else server.answer number run .failed
    | _ => none
  | .consumes _ =>
    match run.phase, run.request with
    | .consuming, .verifyEmail token =>
      match consumeActionToken folding server.db
        { kind := .verifyEmail, tokenHash := dependencies.hashAccountToken token
          now := run.now } with
      | .ok (some account, db) =>
        some ((server.spend token account db).answer number run .verified)
      | .ok (none, db) => some ((server.setDb db).answer number run .invalid)
      | .error _ => some (server.answer number run .failed)
    | _, _ => none
  | .replaces _ accepted =>
    match run.phase, run.request with
    | .replacing newPasswordHash, .resetPassword token _ =>
      let resetTokenHash := dependencies.hashAccountToken token
      match replacePasswordAndRevokeSessions folding server.db
        { resetTokenHash, newPasswordHash, now := run.now } with
      | .ok (some account, db) =>
        let server := server.spend token account db
        let mail : AccountMail :=
          { kind := .passwordChanged, recipient := account.email, token := none }
        some (if accepted then (server.retain number (.sending mail)).answer number run .reset
          else server.answer number run .failed)
      | .ok (none, db) => some ((server.setDb db).answer number run .invalid)
      | .error _ => some (server.answer number run .failed)
    | _, _ => none
  | .finds _ =>
    match run.phase, run.request with
    | .finding, .signInPassword email _ =>
      let candidate := findPasswordSignIn folding server.db (normalizeAccountEmail folding email)
      some (server.enter number { run with phase := .verifying candidate })
    | _, _ => none
  | .verifies _ =>
    match run.phase, run.request with
    | .verifying candidate, .signInPassword _ password =>
      let checkedHash := (candidate.map (·.passwordHash)).getD dependencies.dummyPasswordHash
      match candidate, dependencies.verifyPassword checkedHash password with
      | some candidate, true =>
        some ((server.works number).enter number { run with phase := .creating candidate })
      | _, _ => some ((server.works number).answer number run .invalid)
    | _, _ => none
  | .creates _ token =>
    match run.phase, run.request with
    | .creating candidate, .signInPassword .. =>
      match createSession server.db
        (PasswordSystem.session dependencies run.now candidate token) with
      | .ok (_, db) =>
        some ((server.setDb db).answer number run (.authenticated token (run.now + sessionTtlMs)))
      | .error _ => some (server.answer number run .failed)
    | _, _ => none
  | .loads _ =>
    match run.phase, run.request with
    | .loading, .deleteAccount authenticatedSubject =>
      match getOwnProfile server.db authenticatedSubject with
      | some profile => some (server.enter number { run with phase := .deleting profile.email })
      | none => some (server.answer number run .unavailable)
    | _, _ => none
  | .deletes _ disabledAt deletedUuid accepted =>
    match run.phase, run.request with
    | .deleting ownEmail, .deleteAccount authenticatedSubject =>
      match deleteOwnAccount server.db authenticatedSubject disabledAt deletedUuid with
      | (true, db) =>
        let server := server.setDb db
        let mail : AccountMail := { kind := .accountDeleted, recipient := ownEmail, token := none }
        let server := if accepted then server.retain number (.sending mail)
          else server.report number ⟨.accountDeleted, false, .other⟩
        some (server.answer number run .deleted)
      | (false, db) => some ((server.setDb db).answer number run .unavailable)
    | _, _ => none
  | .storeFails _ =>
    if run.calls then some (server.answer number run .failed) else none
  | _ => none

/-- A step of a retained delivery. -/
def deliver (number : Nat) (task : DeliveryTask) : AccountServerEvent → Option AccountServer
  | .registers _ occurredAt userId nicknameUuids =>
    match task with
    | .registering input token =>
      match registerPendingAccount folding server.db input occurredAt userId nicknameUuids with
      | .ok (account, db) =>
        some (server.issue folding number .verifyEmail input.verificationTokenHash token account db)
      | .error .registrationUnavailable => some (server.retain number .finished)
      | .error _ => some (server.taskFails number .verification .other)
    | _ => none
  | .rotates _ =>
    match task with
    | .rotating input token =>
      match createOrRotateActionToken folding server.db input with
      | .ok (some account, db) =>
        some (server.issue folding number input.kind input.tokenHash token account db)
      | .ok (none, db) => some ((server.setDb db).retain number .finished)
      | .error _ => some (server.taskFails number (templateKind input.kind) .other)
    | _ => none
  | .taskFails _ =>
    match task with
    | .registering _ _ => some (server.taskFails number .verification .other)
    | .rotating input _ => some (server.taskFails number (templateKind input.kind) .other)
    | _ => none
  | .delivers _ outcome =>
    match task with
    | .sending mail =>
      let server := { server with mail := server.mail ++ [(number, mail)] }
      some (match outcome with
        | .ok () => (server.retain number .finished).report number ⟨mail.kind, true, .success⟩
        | .error error => server.taskFails number mail.kind error)
    | _ => none
  | _ => none

/-- The request that an event is a step of. -/
def AccountServerEvent.run? : AccountServerEvent → Option Nat
  | .hashes number _ | .schedules number _ _ | .consumes number | .replaces number _
  | .finds number | .verifies number | .creates number _ | .loads number | .deletes number _ _ _
  | .storeFails number => some number
  | _ => none

/-- The delivery that an event is a step of. -/
def AccountServerEvent.task? : AccountServerEvent → Option Nat
  | .registers number _ _ _ | .rotates number | .taskFails number | .delivers number _ =>
    some number
  | _ => none

def step (server : AccountServer) : AccountServerEvent → Option AccountServer
  | .arrives number request limited now =>
    if (server.runs number).isNone then
      some (server.enter number
        { request, limited, now
          pending := fun _ => request.limit?.isSome
          phase := if request.limit?.isSome then .limiting true else request.admitted })
    else none
  | .attempt number key => do
    let run ← server.runs number
    let input ← run.attempt? key
    match takeRateLimitAttempt server.db.authRateLimits input with
    | .ok (attempt, authRateLimits) =>
      some ((server.setCounters authRateLimits).attempted number (run.ended key)
        (some attempt.allowed))
    | .error _ => some (server.attempted number (run.ended key) none)
  | .attemptFails number key => do
    let run ← server.runs number
    let _ ← run.attempt? key
    some (server.attempted number (run.ended key) none)
  | .nicknameAttempt keyHash now =>
    match takeRateLimitAttempt server.db.authRateLimits
      { keyHash, kind := "nickname", now := some now, windowMs := AccountPolicies.nickname.windowMs
        limit := AccountPolicies.nickname.limit } with
    | .ok (_, authRateLimits) => some (server.setCounters authRateLimits)
    | .error _ => some server
  | .cleansUp now batchSize choice =>
    match cleanupExpiredAccountData server.db now batchSize choice with
    | .ok (_, db) => some (server.setDb { db with authRateLimits := server.db.authRateLimits })
    | .error _ => some server
  | .cleanupDeletes key =>
    some (server.setCounters (server.db.authRateLimits.delete (Row.key · = key)))
  | .elsewhere db =>
    some { server with db := { db with authRateLimits := server.db.authRateLimits } }
  | e =>
    match AccountServerEvent.run? e, AccountServerEvent.task? e with
    | some number, _ => (server.runs number).bind fun run =>
      server.advance folding dependencies number run e
    | none, some number => (server.tasks number).bind fun task =>
      server.deliver folding number task e
    | none, none => none

/-! ## What a step of a request and of a delivery does -/

/-- What a step of a request does: one case for each way out of `advance`. -/
inductive Advanced (folding : CaseFolding) (dependencies : AccountServiceDependencies)
    (server : AccountServer) (number : Nat) (run : AccountRun) :
    AccountServerEvent → AccountServer → Prop where
  | hashFails {i : Nat} : run.phase = .hashing →
      Advanced folding dependencies server number run (.hashes i none)
        ((server.works number).answer number run .failed)
  | hashedReset {i : Nat} {token password passwordHash : String} : run.phase = .hashing →
      run.request = .resetPassword token password →
      Advanced folding dependencies server number run (.hashes i (some passwordHash))
        ((server.works number).enter number { run with phase := .replacing passwordHash })
  | hashed {i : Nat} {passwordHash : String} : run.phase = .hashing →
      (∀ token password, run.request ≠ .resetPassword token password) →
      Advanced folding dependencies server number run (.hashes i (some passwordHash))
        ((server.works number).enter number
          { run with phase := .scheduling (some passwordHash) })
  | scheduled {i : Nat} {passwordHash : Option String} {token : String} {task : DeliveryTask} :
      run.phase = .scheduling passwordHash →
      delivery? folding dependencies.hashAccountToken run passwordHash token = some task →
      Advanced folding dependencies server number run (.schedules i token true)
        ((server.retain number task).answer number run .accepted)
  | unscheduled {i : Nat} {passwordHash : Option String} {token : String} {task : DeliveryTask} :
      run.phase = .scheduling passwordHash →
      delivery? folding dependencies.hashAccountToken run passwordHash token = some task →
      Advanced folding dependencies server number run (.schedules i token false)
        (server.answer number run .failed)
  | consumed {i : Nat} {token : String} {account : AccountActionResult} {db : Database} :
      run.phase = .consuming → run.request = .verifyEmail token →
      consumeActionToken folding server.db
        { kind := .verifyEmail, tokenHash := dependencies.hashAccountToken token
          now := run.now } = .ok (some account, db) →
      Advanced folding dependencies server number run (.consumes i)
        ((server.spend token account db).answer number run .verified)
  | unconsumed {i : Nat} {token : String} {db : Database} :
      run.phase = .consuming → run.request = .verifyEmail token →
      consumeActionToken folding server.db
        { kind := .verifyEmail, tokenHash := dependencies.hashAccountToken token
          now := run.now } = .ok (none, db) →
      Advanced folding dependencies server number run (.consumes i)
        ((server.setDb db).answer number run .invalid)
  | consumeFails {i : Nat} {token : String} :
      run.phase = .consuming → run.request = .verifyEmail token →
      Advanced folding dependencies server number run (.consumes i)
        (server.answer number run .failed)
  | replaced {i : Nat} {accepted : Bool} {token password newPasswordHash : String}
      {account : AccountActionResult} {db : Database} :
      run.phase = .replacing newPasswordHash → run.request = .resetPassword token password →
      replacePasswordAndRevokeSessions folding server.db
        { resetTokenHash := dependencies.hashAccountToken token, newPasswordHash
          now := run.now } = .ok (some account, db) →
      Advanced folding dependencies server number run (.replaces i accepted)
        (if accepted then
          ((server.spend token account db).retain number
            (.sending ⟨.passwordChanged, account.email, none⟩)).answer number run .reset
        else (server.spend token account db).answer number run .failed)
  | unreplaced {i : Nat} {accepted : Bool} {token password newPasswordHash : String}
      {db : Database} :
      run.phase = .replacing newPasswordHash → run.request = .resetPassword token password →
      replacePasswordAndRevokeSessions folding server.db
        { resetTokenHash := dependencies.hashAccountToken token, newPasswordHash
          now := run.now } = .ok (none, db) →
      Advanced folding dependencies server number run (.replaces i accepted)
        ((server.setDb db).answer number run .invalid)
  | replaceFails {i : Nat} {accepted : Bool} {token password newPasswordHash : String} :
      run.phase = .replacing newPasswordHash → run.request = .resetPassword token password →
      Advanced folding dependencies server number run (.replaces i accepted)
        (server.answer number run .failed)
  | found {i : Nat} {email password : String} :
      run.phase = .finding → run.request = .signInPassword email password →
      Advanced folding dependencies server number run (.finds i)
        (server.enter number { run with
          phase := .verifying
            (findPasswordSignIn folding server.db (normalizeAccountEmail folding email)) })
  | verified {i : Nat} {email password : String} {candidate : PasswordSignInCandidate} :
      run.phase = .verifying (some candidate) → run.request = .signInPassword email password →
      Advanced folding dependencies server number run (.verifies i)
        ((server.works number).enter number { run with phase := .creating candidate })
  | unverified {i : Nat} {email password : String} {candidate : Option PasswordSignInCandidate} :
      run.phase = .verifying candidate → run.request = .signInPassword email password →
      Advanced folding dependencies server number run (.verifies i)
        ((server.works number).answer number run .invalid)
  | created {i : Nat} {token email password : String} {candidate : PasswordSignInCandidate}
      {created : AuthSession} {db : Database} :
      run.phase = .creating candidate → run.request = .signInPassword email password →
      createSession server.db (PasswordSystem.session dependencies run.now candidate token) =
        .ok (created, db) →
      Advanced folding dependencies server number run (.creates i token)
        ((server.setDb db).answer number run (.authenticated token (run.now + sessionTtlMs)))
  | createFails {i : Nat} {token email password : String} {candidate : PasswordSignInCandidate} :
      run.phase = .creating candidate → run.request = .signInPassword email password →
      Advanced folding dependencies server number run (.creates i token)
        (server.answer number run .failed)
  | loaded {i : Nat} {authenticatedSubject : Uuid} {profile : OwnProfile} :
      run.phase = .loading → run.request = .deleteAccount authenticatedSubject →
      getOwnProfile server.db authenticatedSubject = some profile →
      Advanced folding dependencies server number run (.loads i)
        (server.enter number { run with phase := .deleting profile.email })
  | unloaded {i : Nat} {authenticatedSubject : Uuid} :
      run.phase = .loading → run.request = .deleteAccount authenticatedSubject →
      Advanced folding dependencies server number run (.loads i)
        (server.answer number run .unavailable)
  | deleted {i : Nat} {disabledAt : Int} {deletedUuid : Uuid} {accepted : Bool}
      {ownEmail : String} {authenticatedSubject : Uuid} {db : Database} :
      run.phase = .deleting ownEmail → run.request = .deleteAccount authenticatedSubject →
      deleteOwnAccount server.db authenticatedSubject disabledAt deletedUuid = (true, db) →
      Advanced folding dependencies server number run (.deletes i disabledAt deletedUuid accepted)
        ((if accepted then
          (server.setDb db).retain number (.sending ⟨.accountDeleted, ownEmail, none⟩)
        else (server.setDb db).report number ⟨.accountDeleted, false, .other⟩).answer number run
          .deleted)
  | undeleted {i : Nat} {disabledAt : Int} {deletedUuid : Uuid} {accepted : Bool}
      {ownEmail : String} {authenticatedSubject : Uuid} {db : Database} :
      run.phase = .deleting ownEmail → run.request = .deleteAccount authenticatedSubject →
      deleteOwnAccount server.db authenticatedSubject disabledAt deletedUuid = (false, db) →
      Advanced folding dependencies server number run (.deletes i disabledAt deletedUuid accepted)
        ((server.setDb db).answer number run .unavailable)
  | storeFails {i : Nat} : run.calls = true →
      Advanced folding dependencies server number run (.storeFails i)
        (server.answer number run .failed)

theorem advanced {folding : CaseFolding} {dependencies : AccountServiceDependencies}
    {server after : AccountServer} {number : Nat} {run : AccountRun} {e : AccountServerEvent}
    (h : server.advance folding dependencies number run e = some after) :
    Advanced folding dependencies server number run e after := by
  cases e with
  | hashes i passwordHash =>
    simp only [advance] at h
    split at h
    · next hphase =>
      obtain rfl := Option.some.inj h
      exact .hashFails hphase
    · next hphase hrequest =>
      obtain rfl := Option.some.inj h
      exact .hashedReset hphase hrequest
    · next hphase hother =>
      obtain rfl := Option.some.inj h
      exact .hashed hphase hother
    · cases h
  | schedules i token accepted =>
    simp only [advance] at h
    split at h
    · next hphase =>
      obtain ⟨task, htask, rfl⟩ := Option.map_eq_some_iff.1 h
      cases accepted with
      | true => exact .scheduled hphase htask
      | false => exact .unscheduled hphase htask
    · cases h
  | consumes i =>
    simp only [advance] at h
    split at h
    · next hphase hrequest =>
      split at h
      · next hstore =>
        obtain rfl := Option.some.inj h
        exact .consumed hphase hrequest hstore
      · next hstore =>
        obtain rfl := Option.some.inj h
        exact .unconsumed hphase hrequest hstore
      · obtain rfl := Option.some.inj h
        exact .consumeFails hphase hrequest
    · cases h
  | replaces i accepted =>
    simp only [advance] at h
    split at h
    · next hphase hrequest =>
      split at h
      · next hstore =>
        obtain rfl := Option.some.inj h
        exact .replaced hphase hrequest hstore
      · next hstore =>
        obtain rfl := Option.some.inj h
        exact .unreplaced hphase hrequest hstore
      · obtain rfl := Option.some.inj h
        exact .replaceFails hphase hrequest
    · cases h
  | finds i =>
    simp only [advance] at h
    split at h
    · next hphase hrequest =>
      obtain rfl := Option.some.inj h
      exact .found hphase hrequest
    · cases h
  | verifies i =>
    simp only [advance] at h
    split at h
    · next hphase hrequest =>
      split at h
      · obtain rfl := Option.some.inj h
        exact .verified hphase hrequest
      · obtain rfl := Option.some.inj h
        exact .unverified hphase hrequest
    · cases h
  | creates i token =>
    simp only [advance] at h
    split at h
    · next hphase hrequest =>
      split at h
      · next hstore =>
        obtain rfl := Option.some.inj h
        exact .created hphase hrequest hstore
      · obtain rfl := Option.some.inj h
        exact .createFails hphase hrequest
    · cases h
  | loads i =>
    simp only [advance] at h
    split at h
    · next hphase hrequest =>
      split at h
      · next hprofile =>
        obtain rfl := Option.some.inj h
        exact .loaded hphase hrequest hprofile
      · obtain rfl := Option.some.inj h
        exact .unloaded hphase hrequest
    · cases h
  | deletes i disabledAt deletedUuid accepted =>
    simp only [advance] at h
    split at h
    · next hphase hrequest =>
      split at h
      · next hdelete =>
        obtain rfl := Option.some.inj h
        exact .deleted hphase hrequest hdelete
      · next hdelete =>
        obtain rfl := Option.some.inj h
        exact .undeleted hphase hrequest hdelete
    · cases h
  | storeFails i =>
    obtain ⟨hcalls, ⟨⟩⟩ := Option.ite_none_right_eq_some.1 h
    exact .storeFails hcalls
  | _ => cases h

/-- What a step of a delivery does: one case for each way out of `deliver`, all failures in one. -/
inductive DeliveryMove (folding : CaseFolding) (server : AccountServer) (number : Nat) :
    DeliveryTask → AccountServerEvent → AccountServer → Prop where
  | registered {i : Nat} {occurredAt : Int} {userId : Uuid} {nicknameUuids : List Uuid}
      {input : PendingAccountRegistration} {token : String} {account : AccountActionResult}
      {db : Database} :
      registerPendingAccount folding server.db input occurredAt userId nicknameUuids =
        .ok (account, db) →
      DeliveryMove folding server number (.registering input token)
        (.registers i occurredAt userId nicknameUuids)
        (server.issue folding number .verifyEmail input.verificationTokenHash token account db)
  | turnedAway {i : Nat} {occurredAt : Int} {userId : Uuid} {nicknameUuids : List Uuid}
      {input : PendingAccountRegistration} {token : String} :
      DeliveryMove folding server number (.registering input token)
        (.registers i occurredAt userId nicknameUuids) (server.retain number .finished)
  | rotated {i : Nat} {input : ActionTokenRequest} {token : String}
      {account : AccountActionResult} {db : Database} :
      createOrRotateActionToken folding server.db input = .ok (some account, db) →
      DeliveryMove folding server number (.rotating input token) (.rotates i)
        (server.issue folding number input.kind input.tokenHash token account db)
  | unrotated {i : Nat} {input : ActionTokenRequest} {token : String} {db : Database} :
      createOrRotateActionToken folding server.db input = .ok (none, db) →
      DeliveryMove folding server number (.rotating input token) (.rotates i)
        ((server.setDb db).retain number .finished)
  | fails {task : DeliveryTask} {e : AccountServerEvent}
      {kind : TransactionalEmailTemplateKind} : task.kind? = some kind →
      DeliveryMove folding server number task e (server.taskFails number kind .other)
  | mailed {i : Nat} {mail : AccountMail} :
      DeliveryMove folding server number (.sending mail) (.delivers i (.ok ()))
        (({ server with mail := server.mail ++ [(number, mail)] }.retain number .finished).report
          number ⟨mail.kind, true, .success⟩)
  | unmailed {i : Nat} {mail : AccountMail} {error : DeliveryError} :
      DeliveryMove folding server number (.sending mail) (.delivers i (.error error))
        ({ server with mail := server.mail ++ [(number, mail)] }.taskFails number mail.kind error)

theorem delivery_moves {folding : CaseFolding} {server after : AccountServer} {number : Nat}
    {task : DeliveryTask} {e : AccountServerEvent}
    (h : server.deliver folding number task e = some after) :
    DeliveryMove folding server number task e after := by
  cases e with
  | registers i occurredAt userId nicknameUuids =>
    simp only [deliver] at h
    split at h
    · split at h
      · next hstore =>
        obtain rfl := Option.some.inj h
        exact .registered hstore
      · obtain rfl := Option.some.inj h
        exact .turnedAway
      · obtain rfl := Option.some.inj h
        exact .fails rfl
    · cases h
  | rotates i =>
    simp only [deliver] at h
    split at h
    · split at h
      · next hstore =>
        obtain rfl := Option.some.inj h
        exact .rotated hstore
      · next hstore =>
        obtain rfl := Option.some.inj h
        exact .unrotated hstore
      · obtain rfl := Option.some.inj h
        exact .fails rfl
    · cases h
  | taskFails i =>
    simp only [deliver] at h
    split at h
    · obtain rfl := Option.some.inj h
      exact .fails rfl
    · obtain rfl := Option.some.inj h
      exact .fails rfl
    · cases h
  | delivers i outcome =>
    simp only [deliver] at h
    split at h
    · obtain rfl := Option.some.inj h
      cases outcome with
      | ok => exact .mailed
      | error error => exact .unmailed
    · cases h
  | _ => cases h

end AccountServer

end RcOnline.Web
