import RcOnline.Web.AccountTokens

/-!
# Password sign-ins beside password resets

`signInPassword` and `resetPassword` of `apps/web/auth/account-service.ts`, each store call a step
of its own. A sign-in reads the hash, verifies the password against it and inserts the session; a
reset replaces the hash and deletes the sessions at once. The model counts the replacements of each
user's password, so that a session can be told to be granted on a replaced one (`Evicted`).
-/

namespace RcOnline.Web

open RcOnline.Lib RcOnline.Accounts

/-- What the service is created with; `hashPassword` draws a salt, so its result is of the event. -/
structure AccountServiceDependencies where
  verifyPassword : (hash password : String) → Bool
  hashAccountToken : String → String
  hashSessionToken : String → String
  dummyPasswordHash : String

inductive PasswordSignInResult where
  | invalid
  | rateLimited
  | authenticated (token : String) (expiresAt : Int)

inductive ResetPasswordResult where
  | reset
  | invalid
  | rateLimited

/-- What a sign-in does next: `findPasswordSignIn`, `verifyPassword` or `createSession`. A candidate
comes with the number of replacements of its password so far. -/
inductive SignInRun where
  | finding (email password : String) (now : Int)
  | verifying (password : String) (now : Int) (candidate : Option (PasswordSignInCandidate × Nat))
  | creating (now : Int) (candidate : PasswordSignInCandidate) (seen : Nat)
  | finished (result : Except AccountError PasswordSignInResult)

/-- What a reset does next: `hashPassword` or `replacePasswordAndRevokeSessions`. -/
inductive ResetRun where
  | hashing (token password : String) (now : Int)
  | replacing (token newPasswordHash : String) (now : Int)
  | finished (result : Except AccountError ResetPasswordResult)

structure PasswordSystem where
  db : Database
  signIns : List SignInRun
  resets : List ResetRun
  /-- The users whose passwords have been replaced, once for each time. -/
  replaced : List Uuid
  /-- For a session, the replacements that its sign-in had seen. -/
  grantedOn : String → Nat

inductive PasswordEvent where
  | signInPassword (email password : String) (now : Int) (allowed : Bool)
  | findPasswordSignIn (run : Nat)
  | verifyPassword (run : Nat)
  | createSession (run : Nat) (rawToken : String)
  | resetPassword (token password : String) (now : Int) (allowed : Bool)
  | hashPassword (run : Nat) (newPasswordHash : String)
  | replacePasswordAndRevokeSessions (run : Nat)
  | createOrRotateActionToken (input : ActionTokenRequest)

/-- `accountPolicies.sessionTtlMs`. -/
def sessionTtlMs : Int := 7 * 24 * 60 * 60 * 1000

namespace PasswordSystem

def start (db : Database) : PasswordSystem where
  db := db
  signIns := []
  resets := []
  replaced := []
  grantedOn := fun _ => 0

def setSignIn (system : PasswordSystem) (run : Nat) (signIn : SignInRun) : PasswordSystem :=
  { system with signIns := system.signIns.set run signIn }

def setReset (system : PasswordSystem) (run : Nat) (reset : ResetRun) : PasswordSystem :=
  { system with resets := system.resets.set run reset }

/-- The session that a sign-in inserts. -/
def session (dependencies : AccountServiceDependencies) (now : Int)
    (candidate : PasswordSignInCandidate) (rawToken : String) : AuthSession where
  userId := candidate.userId
  tokenHash := dependencies.hashSessionToken rawToken
  expiresAt := now + sessionTtlMs
  lastSeenAt := now

variable (folding : CaseFolding) (dependencies : AccountServiceDependencies)

def step (system : PasswordSystem) : PasswordEvent → PasswordSystem
  | .signInPassword email password now allowed =>
    { system with
      signIns := system.signIns ++
        [if allowed then .finding email password now else .finished (.ok .rateLimited)] }
  | .findPasswordSignIn run =>
    match system.signIns[run]? with
    | some (.finding email password now) =>
      let candidate := findPasswordSignIn folding system.db (normalizeAccountEmail folding email)
      system.setSignIn run (.verifying password now
        (candidate.map fun candidate => (candidate, system.replaced.count candidate.userId)))
    | _ => system
  | .verifyPassword run =>
    match system.signIns[run]? with
    | some (.verifying password now candidate) =>
      let checkedHash :=
        (candidate.map (·.1.passwordHash)).getD dependencies.dummyPasswordHash
      let valid := dependencies.verifyPassword checkedHash password
      match candidate, valid with
      | some (candidate, seen), true => system.setSignIn run (.creating now candidate seen)
      | _, _ => system.setSignIn run (.finished (.ok .invalid))
    | _ => system
  | .createSession run rawToken =>
    match system.signIns[run]? with
    | some (.creating now candidate seen) =>
      match createSession system.db (session dependencies now candidate rawToken) with
      | .ok (created, db) =>
        { system with db, grantedOn := Function.update system.grantedOn created.tokenHash seen }
          |>.setSignIn run (.finished (.ok (.authenticated rawToken (now + sessionTtlMs))))
      | .error error => system.setSignIn run (.finished (.error error))
    | _ => system
  | .resetPassword token password now allowed =>
    { system with
      resets := system.resets ++
        [if allowed then .hashing token password now else .finished (.ok .rateLimited)] }
  | .hashPassword run newPasswordHash =>
    match system.resets[run]? with
    | some (.hashing token _ now) => system.setReset run (.replacing token newPasswordHash now)
    | _ => system
  | .replacePasswordAndRevokeSessions run =>
    match system.resets[run]? with
    | some (.replacing token newPasswordHash now) =>
      let resetTokenHash := dependencies.hashAccountToken token
      match replacePasswordAndRevokeSessions folding system.db
        { resetTokenHash, newPasswordHash, now } with
      | .ok (some account, db) =>
        { system with db, replaced := system.replaced ++ [account.userId] }
          |>.setReset run (.finished (.ok .reset))
      | .ok (none, db) => { system with db } |>.setReset run (.finished (.ok .invalid))
      | .error error => system.setReset run (.finished (.error error))
    | _ => system
  | .createOrRotateActionToken input =>
    match createOrRotateActionToken folding system.db input with
    | .ok (_, db) => { system with db }
    | .error _ => system

/-- No session was granted on a password that has been replaced. -/
def Evicted (system : PasswordSystem) : Prop :=
  ∀ session ∈ system.db.authSessions.rows,
    system.replaced.count session.userId ≤ system.grantedOn session.tokenHash

/-- The session that an event is to insert, and the replacements that its sign-in has seen. -/
def granting? (system : PasswordSystem) : PasswordEvent → Option (AuthSession × Nat)
  | .createSession run rawToken =>
    match system.signIns[run]? with
    | some (.creating now candidate seen) =>
      some (session dependencies now candidate rawToken, seen)
    | _ => none
  | _ => none

/-- A session that is inserted is of a user whose password was not replaced since the sign-in has
read its hash. -/
def Undisturbed (system : PasswordSystem) (event : PasswordEvent) : Prop :=
  ∀ grant ∈ system.granting? dependencies event, (createSession system.db grant.1).isOk →
    system.replaced.count grant.1.userId ≤ grant.2

variable {folding dependencies} {system : PasswordSystem}

theorem Evicted.of_eq (h : Evicted system) {other : PasswordSystem}
    (hsessions : other.db.authSessions = system.db.authSessions)
    (hreplaced : other.replaced = system.replaced) (hgranted : other.grantedOn = system.grantedOn) :
    Evicted other := by
  unfold Evicted
  rw [hsessions, hreplaced, hgranted]
  exact h

/-- A reset that goes through deletes the sessions of its user. -/
theorem Evicted.reset (h : Evicted system) {db : Database} {input : PasswordReplacement}
    {token : AccountActionToken} (hresets : Resets system.db db input token) :
    Evicted { system with db, replaced := system.replaced ++ [token.userId] } := by
  intro session hmem
  dsimp only at hmem
  rw [hresets.sessions] at hmem
  obtain ⟨hold, hother⟩ := Table.mem_delete.1 hmem
  have hne : token.userId ≠ session.userId := fun heq => by simp [heq] at hother
  rw [List.count_append, List.count_singleton, if_neg (by simpa using hne), Nat.add_zero]
  exact h session hold

/-- A session that is inserted is granted on the current password if and only if its sign-in has
seen every replacement. -/
theorem Evicted.create_iff (h : Evicted system) {db : Database} {session created : AuthSession}
    (hcreate : createSession system.db session = .ok (created, db)) (seen : Nat) :
    Evicted
        { system with db, grantedOn := Function.update system.grantedOn created.tokenHash seen } ↔
      system.replaced.count session.userId ≤ seen := by
  obtain ⟨rfl, hinsert, -⟩ := createSession_eq_ok hcreate
  have hfree := (Table.insert?_eq_some hinsert).1
  constructor
  · intro hevicted
    have hnew := hevicted created ((Table.mem_insert? hinsert).2 (.inr rfl))
    dsimp only at hnew
    rwa [Function.update_self] at hnew
  · intro hseen other hmem
    rcases (Table.mem_insert? hinsert).1 hmem with hold | rfl
    · have hhash : other.tokenHash ≠ created.tokenHash := (hfree other hold).1
      dsimp only
      rw [Function.update_of_ne hhash]
      exact h other hold
    · dsimp only
      rw [Function.update_self]
      exact hseen

theorem Evicted.step_iff (h : Evicted system) (event : PasswordEvent) :
    Evicted (step folding dependencies system event) ↔ Undisturbed dependencies system event := by
  have hother : granting? dependencies system event = none →
      Evicted (step folding dependencies system event) →
      (Evicted (step folding dependencies system event) ↔
        Undisturbed dependencies system event) := by
    intro hnone hevicted
    refine ⟨fun _ grant hgrant => ?_, fun _ => hevicted⟩
    rw [hnone] at hgrant
    cases hgrant
  cases event with
  | signInPassword email password now allowed => exact hother rfl (h.of_eq rfl rfl rfl)
  | findPasswordSignIn run =>
    refine hother rfl ?_
    simp only [step]
    split
    · exact h.of_eq rfl rfl rfl
    · exact h
  | verifyPassword run =>
    refine hother rfl ?_
    simp only [step]
    split
    · split <;> exact h.of_eq rfl rfl rfl
    · exact h
  | createSession run rawToken =>
    by_cases hnone : granting? dependencies system (.createSession run rawToken) = none
    · refine hother hnone ?_
      simp only [step]
      split
      · next hrun => simp [granting?, hrun] at hnone
      · exact h
    · simp only [granting?] at hnone
      split at hnone
      · next now candidate seen hrun =>
        simp only [step, Undisturbed, granting?, hrun, Option.mem_def, Option.some.injEq,
          forall_eq']
        cases hcreate : createSession system.db (session dependencies now candidate rawToken) with
        | error error =>
          refine ⟨fun _ hok => ?_, fun _ => h.of_eq rfl rfl rfl⟩
          cases hok
        | ok result =>
          obtain ⟨created, db⟩ := result
          have hiff := h.create_iff hcreate seen
          exact ⟨fun hevicted _ => hiff.1 (hevicted.of_eq rfl rfl rfl),
            fun hseen => (hiff.2 (hseen rfl)).of_eq rfl rfl rfl⟩
      · exact absurd rfl hnone
  | resetPassword token password now allowed => exact hother rfl (h.of_eq rfl rfl rfl)
  | hashPassword run newPasswordHash =>
    refine hother rfl ?_
    simp only [step]
    split
    · exact h.of_eq rfl rfl rfl
    · exact h
  | replacePasswordAndRevokeSessions run =>
    refine hother rfl ?_
    simp only [step]
    split
    · split
      · next account db hok =>
        obtain ⟨hnone, -⟩ | ⟨token, email, hsome, hresets⟩ := resets_of_ok hok
        · cases hnone
        · obtain rfl := Option.some.inj hsome
          exact (h.reset hresets).of_eq rfl rfl rfl
      · next db hok =>
        obtain ⟨-, rfl⟩ | ⟨_, _, hsome, -⟩ := resets_of_ok hok
        · exact h.of_eq rfl rfl rfl
        · cases hsome
      · exact h.of_eq rfl rfl rfl
    · exact h
  | createOrRotateActionToken input =>
    refine hother rfl ?_
    simp only [step]
    split
    · next result db hok =>
      obtain ⟨-, rfl⟩ | ⟨account, -, hrotates⟩ := rotates_of_ok hok
      · exact h.of_eq rfl rfl rfl
      · have hsessions := congrArg Database.authSessions hrotates.others
        exact h.of_eq hsessions rfl rfl
    · exact h

/-- **Main result.** However sign-ins and resets are interleaved, no session stands on a replaced
password throughout the run if and only if no reset comes between what a sign-in reads and the
session that it inserts. -/
theorem evicted_iff (db : Database) (events : List PasswordEvent) :
    Throughout (step folding dependencies)
        (fun system event => Evicted (step folding dependencies system event)) (start db) events ↔
      Throughout (step folding dependencies) (Undisturbed dependencies) (start db) events :=
  throughout_congr (J := Evicted) (fun _ event h => h.step_iff event)
    (fun _ event h hundisturbed => (h.step_iff event).2 hundisturbed)
    (fun _ _ => Nat.zero_le _) events

/-- Passwords that are their hashes, and tokens too. -/
def plainDependencies : AccountServiceDependencies where
  verifyPassword hash password := hash = password
  hashAccountToken token := token
  hashSessionToken token := token
  dummyPasswordHash := ""

def plainFolding : CaseFolding where
  toLowerCase text := text
  normalizeNfkc text := text
  lower text := text

/-- A verified account with a reset token. -/
def resettableAccount : Database where
  users := ⟨[⟨"ada", "ada@example.com", "Ada", "user", some 0, none, 0, 0⟩], by decide⟩
  oauthIdentities := .empty
  authSessions := .empty
  passwordCredentials := ⟨[⟨"ada", "old", 0, some 0, 0, 0⟩], by decide⟩
  accountActionTokens := ⟨[⟨"ada", .resetPassword, "token", 100, none, 0⟩], by decide⟩
  accountBalances := .empty
  nicknames := .empty
  consents := .empty
  authRateLimits := .empty

/-- The password is replaced while the sign-in verifies the old one. -/
theorem resetWhileVerifying_not_evicted :
    ¬Throughout (step plainFolding plainDependencies)
      (fun system event => Evicted (step plainFolding plainDependencies system event))
      (start resettableAccount)
      [.signInPassword "ada@example.com" "old" 10 true, .findPasswordSignIn 0,
        .resetPassword "token" "new" 20 true, .hashPassword 0 "new",
        .replacePasswordAndRevokeSessions 0, .verifyPassword 0, .createSession 0 "session"] := by
  rintro ⟨-, -, -, -, -, -, hevicted, -⟩
  have hgranted := hevicted ⟨"ada", "session", 10 + sessionTtlMs, 10⟩ (by decide +kernel)
  exact absurd hgranted (by decide +kernel)

end PasswordSystem

end RcOnline.Web
