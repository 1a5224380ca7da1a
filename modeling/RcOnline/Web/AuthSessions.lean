import RcOnline.Web.AccountDeliveries
import RcOnline.Web.AuthAdapter

/-!
# Sessions that are over

A session that is gone does not come back, whatever calls are half way (`signed_out_stays`), and
neither does an account that is closed, unless a call of `updateUser` has read it before
(`closed_for_good`). Lookups that begin afterwards return nothing.
-/

namespace RcOnline.Web

open RcOnline.Lib RcOnline.Accounts

section calls

variable {folding : CaseFolding} {sha256 : String → String} {I : Database → Prop}
  {P : SessionLookup → Prop} {α : Type}

/-! ## What the calls keep -/

/-- Lookups are added that `P` allows. -/
def Adds (P : SessionLookup → Prop) (state state' : AuthState) : Prop :=
  ∃ new, state'.lookups = state.lookups ++ new ∧ ∀ lookup ∈ new, P lookup

theorem Adds.refl (state : AuthState) : Adds P state state := ⟨[], (List.append_nil _).symm, nofun⟩

theorem Adds.trans {state state' state'' : AuthState} (h : Adds P state state')
    (h' : Adds P state' state'') : Adds P state state'' := by
  obtain ⟨new, hnew, hall⟩ := h
  obtain ⟨new', hnew', hall'⟩ := h'
  refine ⟨new ++ new', by rw [hnew', hnew, List.append_assoc], fun lookup hmem => ?_⟩
  rcases List.mem_append.1 hmem with hmem | hmem
  · exact hall lookup hmem
  · exact hall' lookup hmem

/-- An action keeps what it finds, and adds such lookups. -/
def AuthMoves (I : Database → Prop) (P : SessionLookup → Prop) (state state' : AuthState) : Prop :=
  (I state.db → I state'.db) ∧ Adds P state state'

theorem AuthMoves.refl (state : AuthState) : AuthMoves I P state state := ⟨id, .refl state⟩

/-- A call that runs under `I`, if it does so from anywhere. -/
theorem keeps_of_moves {call : Prog AuthState α}
    (h : Prog.Keeps (fun _ => True) (AuthMoves I P) call) :
    Prog.Keeps (fun state => I state.db) (Adds P) call :=
  h.imp (fun _ _ => trivial) fun _ _ hs _ hmoves => ⟨hmoves.1 hs, hmoves.2⟩

/-- What every write of the two stores keeps, but for those of `createSession` and `updateUser`. -/
structure StoresKeep (folding : CaseFolding) (I : Database → Prop) : Prop where
  createUser : ∀ {user now db created db'}, I db →
    AuthStore.createUser folding user now db = .ok (created, db') → I db'
  updateSession : ∀ {session db saved db'}, I db →
    AuthStore.updateSession session db = .ok (saved, db') → I db'
  deleteSession : ∀ {tokenHash db}, I db → I (AuthStore.deleteSession tokenHash db).2
  identities : ∀ {db oauthIdentities}, I db → I { db with oauthIdentities }
  balances : ∀ {db accountBalances}, I db → I { db with accountBalances }
  nicknames : ∀ {db nicknames}, I db → I { db with nicknames }
  commit : ∀ {transaction : AccountTransaction} {db db'}, I db →
    transaction.commit folding db = .ok db' → I db'

theorem StoresKeep.moves (h : StoresKeep folding I) : StoresMove folding (AuthMoves I P) where
  refl := .refl
  createUser hok := ⟨fun hs => h.createUser hs hok, .refl _⟩
  updateSession hok := ⟨fun hs => h.updateSession hs hok, .refl _⟩
  deleteSession := ⟨fun hs => h.deleteSession hs, .refl _⟩
  identities := ⟨fun hs => h.identities hs, .refl _⟩
  balances := ⟨fun hs => h.balances hs, .refl _⟩
  insertProfile _ := ⟨fun hs => h.nicknames hs, .refl _⟩

/-- What a call keeps from anywhere. -/
theorem StoresKeep.code (h : StoresKeep folding I) {call : AuthCall}
    (hsession : ∀ {sessionToken userId expires now},
      call = .createSession sessionToken userId expires now →
      ∀ {session db created db'}, session.tokenHash = sha256 sessionToken → I db →
        createSession db session = .ok (created, db') → I db')
    (huser : ∀ {update now}, call = .updateUser update now →
      ∀ {user now db saved db'}, user.id = update.id → I db →
        AuthStore.updateUser folding user now db = .ok (saved, db') → I db')
    (hlookup : ∀ {number sessionToken now}, call = .getSessionAndUser number sessionToken now →
      ∀ result, P ⟨number, sessionToken, result⟩) :
    Prog.Keeps (fun _ => True) (AuthMoves I P) (call.code folding sha256) := by
  refine keeps_code h.moves
    (fun heq _ _ _ _ hhash hok => ⟨fun hs => hsession heq hhash hs hok, .refl _⟩)
    (fun heq _ _ _ _ _ hid hok => ⟨fun hs => huser heq hid hs hok, .refl _⟩)
    (fun {number sessionToken now} heq result state =>
      ⟨id, [⟨number, sessionToken, result⟩], rfl, fun lookup hmem => ?_⟩)
    (fun _ _ state => ⟨id, .refl state⟩) (fun _ _ _ hok => ⟨fun hs => h.commit hs hok, .refl _⟩)
  obtain rfl := List.mem_singleton.1 hmem
  exact hlookup heq result

/-- A lookup that `I` holds throughout adds what it is bound to return. -/
theorem keeps_lookup (hstore : StoresKeep folding I) {number : Nat} {sessionToken : String}
    {now : Int} {post : Except AccountError (Option (AdapterSession × AdapterUser)) → Prop}
    (hyields : Prog.Yields (fun state : AuthState => I state.db) post
      (AuthAdapter.getSessionAndUser sha256 sessionToken now))
    (hpost : ∀ result, post result → P ⟨number, sessionToken, result⟩) :
    Prog.Keeps (fun state => I state.db) (Adds P)
      ((AuthCall.getSessionAndUser number sessionToken now).code folding sha256) := by
  refine .bind_of (keeps_of_moves (keeps_getSessionAndUser hstore.moves sessionToken now)) hyields
    fun result hresult => .stmt fun state hs =>
      ⟨hs, [⟨number, sessionToken, result⟩], rfl, fun lookup hmem => ?_⟩
  obtain rfl := List.mem_singleton.1 hmem
  exact hpost result hresult

/-- The calls under way are what is left of such calls. -/
def UnderWay (folding : CaseFolding) (sha256 : String → String) (allowed : AuthCall → Prop)
    (pool : Pool AuthState) : Prop :=
  ∀ p ∈ pool.running, ∃ call, allowed call ∧ (call.code folding sha256).Residual p

/-- In every interleaving `I` stays, and the lookups are those that `P` allows. -/
theorem adds_of_run {allowed : AuthCall → Prop} {pool pool' : Pool AuthState}
    {events : List (PoolEvent AuthCall)} (hs : I pool.shared.db)
    (hrunning : UnderWay folding sha256 allowed pool)
    (hallowed : ∀ {call}, allowed call →
      Prog.Keeps (fun _ => True) (AuthMoves I P) (call.code folding sha256))
    (hcalls : ∀ call, .start call ∈ events →
      Prog.Keeps (fun state => I state.db) (Adds P) (call.code folding sha256))
    (h : Run (StepOf (Pool.step (AuthCall.code folding sha256))) pool events pool') :
    I pool'.shared.db ∧ Adds P pool.shared pool'.shared := by
  have hsafe : Pool.Safe (fun state : AuthState => I state.db) (Adds P) pool := by
    refine ⟨hs, fun p hp => ?_⟩
    obtain ⟨call, hcall, hresidual⟩ := hrunning p hp
    exact keeps_of_moves ((hallowed hcall).residual (fun _ => trivial) hresidual)
  obtain ⟨hafter, hadds⟩ := hsafe.path hcalls .refl (fun h h' => h.trans h') h
  exact ⟨hafter.shared, hadds⟩

/-! ## What a transaction of the account store writes -/

/-- The transaction issues a token or uses one. -/
def AccountTransaction.onTokens : AccountTransaction → Bool
  | .registerPendingAccount .. | .createOrRotateActionToken _ | .consumeActionToken _
  | .replacePasswordAndRevokeSessions _ => true
  | _ => false

variable {db db' : Database}

theorem commit_spares {transaction : AccountTransaction} (hon : transaction.onTokens = true)
    (h : transaction.commit folding db = .ok db') : Spares db db' := by
  cases transaction with
  | registerPendingAccount =>
    obtain ⟨⟨account, committed⟩, hcommit, rfl⟩ := map_eq_ok h
    exact registerPendingAccount_spares hcommit
  | createOrRotateActionToken =>
    obtain ⟨⟨result, committed⟩, hcommit, rfl⟩ := map_eq_ok h
    exact createOrRotateActionToken_spares hcommit
  | consumeActionToken =>
    obtain ⟨⟨result, committed⟩, hcommit, rfl⟩ := map_eq_ok h
    exact consumeActionToken_spares hcommit
  | replacePasswordAndRevokeSessions =>
    obtain ⟨⟨result, committed⟩, hcommit, rfl⟩ := map_eq_ok h
    exact replacePasswordAndRevokeSessions_spares hcommit
  | _ => cases hon

/-- An update of a profile writes the row of its user. -/
theorem updateOwnProfile_ok {subject : Uuid} {profile : SessionProfile}
    {result : Option OwnProfile}
    (h : updateOwnProfile folding db subject profile = .ok (result, db')) :
    db' = { db with nicknames := db'.nicknames } ∧
      ∀ row ∈ db.nicknames.rows, row.userId ≠ subject → row ∈ db'.nicknames.rows := by
  unfold updateOwnProfile at h
  dsimp only at h
  split_ifs at h
  · cases h
    exact ⟨rfl, fun _ hrow _ => hrow⟩
  · cases h
    refine ⟨rfl, fun row hrow hother => List.mem_map.2 ⟨row, hrow, patch_of_not ?_⟩⟩
    simp [hother]

end calls

/-! ## Sessions -/

/-- The session has no row. -/
def NoSession (tokenHash : String) (db : Database) : Prop :=
  db.authSessions.get? tokenHash = none

section sessions

variable {folding : CaseFolding} {sha256 : String → String} {tokenHash : String}
  {db db' : Database}

theorem noSession_iff :
    NoSession tokenHash db ↔ ∀ r ∈ db.authSessions.rows, r.tokenHash ≠ tokenHash := by
  simp [NoSession, Table.get?, Row.key]

theorem NoSession.of_subset (h : NoSession tokenHash db)
    (hsub : ∀ r ∈ db'.authSessions.rows, r ∈ db.authSessions.rows) : NoSession tokenHash db' :=
  noSession_iff.2 fun r hr => noSession_iff.1 h r (hsub r hr)

theorem NoSession.of_eq (h : NoSession tokenHash db) (heq : db'.authSessions = db.authSessions) :
    NoSession tokenHash db' := h.of_subset fun _ hr => heq ▸ hr

theorem commit_sessions {transaction : AccountTransaction}
    (h : transaction.commit folding db = .ok db') :
    ∀ r ∈ db'.authSessions.rows, r ∈ db.authSessions.rows := by
  cases transaction with
  | updateOwnProfile =>
    obtain ⟨⟨result, committed⟩, hcommit, rfl⟩ := map_eq_ok h
    have hsessions := congrArg Database.authSessions (updateOwnProfile_ok hcommit).1
    exact fun r hr => hsessions ▸ hr
  | deleteOwnAccount =>
    cases h
    exact fun r hr => (Table.mem_delete.1 hr).1
  | takeRateLimitAttempt =>
    obtain ⟨⟨attempt, authRateLimits⟩, -, rfl⟩ := map_eq_ok h
    exact fun _ hr => hr
  | cleanupExpiredAccountData =>
    obtain ⟨⟨result, committed⟩, hcommit, rfl⟩ := map_eq_ok h
    obtain ⟨expired, ids, hcleans⟩ := cleansUp_of_ok hcommit
    exact fun r hr => (Table.mem_delete.1 (hcleans.sessions ▸ hr)).1
  | registerPendingAccount | createOrRotateActionToken | consumeActionToken
  | replacePasswordAndRevokeSessions => exact (commit_spares rfl h).sessions

theorem createUser_ok {user : AuthStore.NewAuthUser} {now : Int} {created : StoredAuthUser}
    (h : AuthStore.createUser folding user now db = .ok (created, db')) :
    db'.authSessions = db.authSessions ∧ ∀ row ∈ db.users.rows, row ∈ db'.users.rows := by
  obtain ⟨users, husers, h⟩ := bind_eq_ok.1 h
  obtain ⟨accountBalances, -, h⟩ := bind_eq_ok.1 h
  split at h
  · cases h
    exact ⟨rfl, fun row hrow => (Table.mem_insert? (insertRow_eq_ok husers)).2 (.inl hrow)⟩
  · cases h

theorem updateSession_ok {session saved : AuthSession}
    (h : AuthStore.updateSession session db = .ok (saved, db')) :
    db'.users = db.users ∧ ∃ f : AuthSession → AuthSession, (∀ r, (f r).tokenHash = r.tokenHash) ∧
      db'.authSessions.rows =
        db.authSessions.rows.map (patch (·.tokenHash = session.tokenHash) f) := by
  unfold AuthStore.updateSession at h
  split at h
  · cases h
  · split at h
    · cases h
    · cases h
      refine ⟨rfl, _, ?_, rfl⟩
      exact fun _ => rfl

theorem noSession_stores : StoresKeep folding (NoSession tokenHash) where
  createUser hs h := hs.of_eq (createUser_ok h).1
  updateSession hs h := by
    obtain ⟨-, f, hf, hrows⟩ := updateSession_ok h
    rw [noSession_iff] at hs ⊢
    intro r' hr'
    rw [hrows] at hr'
    obtain ⟨r, hr, rfl⟩ := List.mem_map.1 hr'
    rw [patch_column hf]
    exact hs r hr
  deleteSession hs := hs.of_subset fun _ hr => (Table.mem_delete.1 hr).1
  identities hs := hs
  balances hs := hs
  nicknames hs := hs
  commit hs h := hs.of_subset (commit_sessions h)

theorem updateUser_ok {user saved : StoredAuthUser} {now : Int}
    (h : AuthStore.updateUser folding user now db = .ok (saved, db')) :
    db'.authSessions = db.authSessions ∧ ∃ f : User → User,
      db'.users.rows = db.users.rows.map (patch (·.id = user.id) f) := by
  unfold AuthStore.updateUser at h
  dsimp only at h
  split at h
  · cases h
  · split at h
    · cases h
    · cases h
      exact ⟨rfl, _, rfl⟩

theorem noSession_createSession {session created : AuthSession}
    (h : createSession db session = .ok (created, db')) (hother : session.tokenHash ≠ tokenHash)
    (hs : NoSession tokenHash db) : NoSession tokenHash db' := by
  obtain ⟨-, hinsert, -⟩ := createSession_eq_ok h
  rw [noSession_iff] at hs ⊢
  intro r hr
  rcases (Table.mem_insert? hinsert).1 hr with hr | rfl
  · exact hs r hr
  · exact hother

/-- A lookup of a session that is gone returns nothing. -/
theorem yields_noSession {sessionToken : String} {now : Int} (htoken : sessionToken ≠ "")
    (hhash : sha256 sessionToken = tokenHash) :
    Prog.Yields (fun state : AuthState => NoSession tokenHash state.db) (· = .ok none)
      (AuthAdapter.getSessionAndUser sha256 sessionToken now) := by
  unfold AuthAdapter.getSessionAndUser AuthAdapter.hashSessionToken
  rw [if_neg htoken, hhash]
  have hread : Prog.Yields (fun state : AuthState => NoSession tokenHash state.db) (· = none)
      (Prog.read fun state : AuthState => AuthStore.getSession tokenHash state.db) :=
    .stmt fun _ hs => hs
  refine hread.bind fun found hfound => ?_
  rw [hfound]
  exact .pure rfl

/-- What may be half way when the session goes: no call that creates it; the lookups that have
begun have these numbers. -/
def AuthCall.NotCreating (sha256 : String → String) (tokenHash : String) (begun : Nat → Prop) :
    AuthCall → Prop
  | .createSession sessionToken _ _ _ => sha256 sessionToken ≠ tokenHash
  | .getSessionAndUser number _ _ => begun number
  | _ => True

/-- Once a session is gone, in every interleaving that does not create it anew it stays gone, and
every lookup of it that begins afterwards returns nothing. A refresh that is half way does not bring
it back. -/
theorem signed_out_stays (folding : CaseFolding) {begun : Nat → Prop}
    {pool pool' : Pool AuthState} {events : List (PoolEvent AuthCall)}
    (hgone : NoSession tokenHash pool.shared.db)
    (hrunning : UnderWay folding sha256 (AuthCall.NotCreating sha256 tokenHash begun) pool)
    (hevents : ∀ sessionToken userId expires now,
      .start (.createSession sessionToken userId expires now) ∈ events →
      sha256 sessionToken ≠ tokenHash)
    (h : Run (StepOf (Pool.step (AuthCall.code folding sha256))) pool events pool') :
    NoSession tokenHash pool'.shared.db ∧
      ∃ new, pool'.shared.lookups = pool.shared.lookups ++ new ∧
        ∀ lookup ∈ new, begun lookup.number ∨ (lookup.sessionToken ≠ "" →
          sha256 lookup.sessionToken = tokenHash → lookup.result = .ok none) := by
  have hkeeps : ∀ call : AuthCall, call.NotCreating sha256 tokenHash begun →
      Prog.Keeps (fun _ => True) (AuthMoves (NoSession tokenHash) fun lookup =>
        begun lookup.number ∨ (lookup.sessionToken ≠ "" →
          sha256 lookup.sessionToken = tokenHash → lookup.result = .ok none))
        (call.code folding sha256) := by
    intro call hcall
    refine noSession_stores.code ?_ ?_ ?_
    · rintro sessionToken userId expires now rfl session db created db' hhash hs hok
      exact noSession_createSession hok (hhash ▸ hcall) hs
    · rintro update now rfl user now' db saved db' - hs hok
      exact hs.of_eq (updateUser_ok hok).1
    · rintro number sessionToken now rfl result
      exact .inl hcall
  refine adds_of_run hgone hrunning (hkeeps _) (fun call hmem => ?_) h
  cases call with
  | getSessionAndUser number sessionToken now =>
    by_cases hlookup : sessionToken ≠ "" ∧ sha256 sessionToken = tokenHash
    · exact keeps_lookup noSession_stores (yields_noSession hlookup.1 hlookup.2)
        fun result hresult => .inr fun _ _ => hresult
    · refine keeps_of_moves (noSession_stores.code nofun nofun ?_)
      rintro _ _ _ ⟨⟩ result
      exact .inr fun htoken hhash => absurd ⟨htoken, hhash⟩ hlookup
  | createSession sessionToken userId expires now =>
    exact keeps_of_moves (hkeeps (.createSession sessionToken userId expires now)
      (hevents _ _ _ _ hmem))
  | createUser | getUser | getUserByEmail | getUserByAccount | updateUser | linkAccount
  | updateSession | deleteSession | getBalance | getSessionProfile | account =>
    refine keeps_of_moves (hkeeps _ ?_)
    trivial

/-- A database with one user, who is signed in. -/
def signedIn : Database where
  users := PasswordSystem.resettableAccount.users
  oauthIdentities := .empty
  authSessions := ⟨[⟨"ada", "token", 1000, 0⟩], by decide⟩
  passwordCredentials := .empty
  accountActionTokens := .empty
  accountBalances := .empty
  nicknames := .empty
  consents := .empty
  authRateLimits := .empty

/-- A refresh has read the session when a sign-out deletes it. -/
def refreshedAndSignedOut : List (PoolEvent AuthCall) :=
  [.start (.updateSession ⟨"token", none, some 2000⟩ 10), .advance 0,
    .start (.deleteSession "token"), .advance 1]

/-- The refresh goes on, and the session is looked up. -/
def lookedUp : List (PoolEvent AuthCall) :=
  [.advance 0, .start (.getSessionAndUser 0 "token" 20), .advance 2, .advance 2]

theorem refreshedAndSignedOut_gone :
    ∃ pool pool', Run (StepOf (Pool.step (AuthCall.code PasswordSystem.plainFolding id)))
        ⟨⟨signedIn, [], []⟩, []⟩ refreshedAndSignedOut pool ∧
      Run (StepOf (Pool.step (AuthCall.code PasswordSystem.plainFolding id))) pool lookedUp pool' ∧
      pool'.shared.lookups.length = 1 ∧ NoSession "token" pool'.shared.db := by
  have hall : (runList (Pool.step (AuthCall.code PasswordSystem.plainFolding id))
      ⟨⟨signedIn, [], []⟩, []⟩ refreshedAndSignedOut).any (fun pool =>
        (pool.shared.db.authSessions.get? "token").isNone &&
        (runList (Pool.step (AuthCall.code PasswordSystem.plainFolding id)) pool lookedUp).any
          fun pool' => pool'.shared.lookups.length = 1) = true := by decide +kernel
  obtain ⟨pool, hfirst, hall⟩ := (Option.any_eq_true _ _).1 hall
  obtain ⟨hgone, hall⟩ := Bool.and_eq_true_iff.1 hall
  obtain ⟨pool', hrest, hlookups⟩ := (Option.any_eq_true _ _).1 hall
  have hbefore := run_of_runList hfirst
  have hafter := run_of_runList hrest
  have hrunning : UnderWay PasswordSystem.plainFolding id
      (AuthCall.NotCreating id "token" fun _ => False) pool := by
    intro p hp
    obtain ⟨call, hcall, hresidual⟩ := Pool.residual_of_run hbefore p hp
    refine ⟨call, ?_, hresidual⟩
    simp only [refreshedAndSignedOut, List.mem_cons, PoolEvent.start.injEq, reduceCtorEq,
      false_or, List.not_mem_nil, or_false] at hcall
    rcases hcall with rfl | rfl <;> trivial
  have hsigned := signed_out_stays PasswordSystem.plainFolding (Option.isNone_iff_eq_none.1 hgone)
    hrunning (fun _ _ _ _ hmem => by simp [lookedUp] at hmem) hafter
  exact ⟨pool, pool', hbefore, hafter, of_decide_eq_true hlookups, hsigned.1⟩

end sessions

/-! ## Accounts -/

section accounts

variable {folding : CaseFolding} {sha256 : String → String} {subject : Uuid} {db db' : Database}

open AccountServer (Closed Stays)

theorem commit_stays {transaction : AccountTransaction}
    (h : transaction.commit folding db = .ok db') : Stays db db' := by
  cases transaction with
  | updateOwnProfile =>
    obtain ⟨⟨result, committed⟩, hcommit, rfl⟩ := map_eq_ok h
    have husers := congrArg Database.users (updateOwnProfile_ok hcommit).1
    exact .of_users husers
  | deleteOwnAccount =>
    cases h
    exact AccountServer.deleteOwnAccount_stays db _ _ _
  | takeRateLimitAttempt =>
    obtain ⟨⟨attempt, authRateLimits⟩, -, rfl⟩ := map_eq_ok h
    exact .of_users rfl
  | cleanupExpiredAccountData =>
    obtain ⟨⟨result, committed⟩, hcommit, rfl⟩ := map_eq_ok h
    exact AccountServer.cleanup_stays hcommit
  | registerPendingAccount | createOrRotateActionToken | consumeActionToken
  | replacePasswordAndRevokeSessions => exact (commit_spares rfl h).users

theorem closed_stores : StoresKeep folding (Closed · subject) where
  createUser hs h := by
    have hstays : Stays _ _ := fun row hrow _ => (createUser_ok h).2 row hrow
    exact hstays.closed hs
  updateSession hs h := (Stays.of_users (updateSession_ok h).1).closed hs
  deleteSession hs := hs
  identities hs := hs
  balances hs := hs
  nicknames hs := hs
  commit hs h := (commit_stays h).closed hs

/-- A row of another user is written. -/
theorem closed_updateUser {user saved : StoredAuthUser} {now : Int} (hother : user.id ≠ subject)
    (hs : Closed db subject) (h : AuthStore.updateUser folding user now db = .ok (saved, db')) :
    Closed db' subject := by
  obtain ⟨-, f, hrows⟩ := updateUser_ok h
  obtain ⟨row, hrow, hid, hdisabled⟩ := hs
  have hkept : patch (fun r => decide (r.id = user.id)) f row = row :=
    patch_of_not fun hof => hother ((of_decide_eq_true hof).symm.trans hid)
  exact ⟨row, hrows ▸ List.mem_map.2 ⟨row, hrow, hkept⟩, hid, hdisabled⟩

/-- A user of a closed account is read as disabled. -/
theorem disabled_of_closed (hs : Closed db subject) {user : StoredAuthUser}
    (h : AuthStore.getUser subject db = some user) : user.disabledAt.isSome = true := by
  obtain ⟨row, hrow, hid, hdisabled⟩ := hs
  obtain ⟨found, hfound, rfl⟩ := Option.map_eq_some_iff.1 h
  obtain ⟨hmem, hkey⟩ := Table.get?_eq_some_iff.1 hfound
  obtain rfl := db.users.eq_of_key hrow hmem (hid.trans hkey.symm)
  exact hdisabled

/-- A call of `updateUser` that begins when the account is closed writes nothing. -/
theorem keeps_closed_updateUser {update : AdapterUserUpdate} {now : Int}
    (hsubject : update.id = subject) {P : SessionLookup → Prop} :
    Prog.Keeps (fun state => Closed state.db subject) (Adds P)
      ((AuthCall.updateUser update now).code folding sha256) := by
  have hread : Prog.Yields (fun state : AuthState => Closed state.db subject)
      (fun found => ∀ current, found = some current → current.disabledAt.isSome = true)
      (Prog.read fun state : AuthState => AuthStore.getUser update.id state.db) :=
    .stmt fun state hs current hcurrent => disabled_of_closed hs (hsubject ▸ hcurrent)
  refine .bind (.bind_of (.read .refl _) hread fun found hfound => ?_) fun _ =>
    .stmt fun state hs => ⟨hs, .refl state⟩
  split
  · exact .pure _
  · next current => rw [if_pos (hfound current rfl)]; exact .pure _

/-- A lookup that begins when the account is closed does not return its user. -/
theorem yields_closed {sessionToken : String} {now : Int} :
    Prog.Yields (fun state : AuthState => Closed state.db subject)
      (fun result => ∀ session user, result = .ok (some (session, user)) → user.id ≠ subject)
      (AuthAdapter.getSessionAndUser sha256 sessionToken now) := by
  have hdrop : ∀ tokenHash, Prog.Yields (fun state : AuthState => Closed state.db subject)
      (fun _ => True) (AuthAdapter.dropSession tokenHash) := fun _ => .stmt fun _ _ => trivial
  have hfind : ∀ tokenHash, Prog.Yields (fun state : AuthState => Closed state.db subject)
      (fun _ => True)
      (Prog.read fun state : AuthState => AuthStore.getSession tokenHash state.db) :=
    fun _ => .stmt fun _ _ => trivial
  have hread : ∀ id, Prog.Yields (fun state : AuthState => Closed state.db subject)
      (fun found => ∀ user, toAdapterUser found = some user → user.id ≠ subject)
      (Prog.read fun state : AuthState => AuthStore.getUser id state.db) := by
    refine fun id => .stmt fun state hs user huser hid => ?_
    obtain ⟨stored, hstored, rfl⟩ := Option.map_eq_some_iff.1 huser
    obtain ⟨hfound, henabled⟩ := Option.filter_eq_some_iff.1 hstored
    have hkey : stored.id = id := by
      obtain ⟨row, hrow, rfl⟩ := Option.map_eq_some_iff.1 hfound
      exact (Table.get?_eq_some_iff.1 hrow).2
    have hdisabled := disabled_of_closed hs ((hkey.symm.trans hid) ▸ hfound)
    simp_all
  unfold AuthAdapter.getSessionAndUser
  split
  · exact .pure nofun
  · refine (hfind _).bind fun found _ => ?_
    split
    · exact .pure nofun
    · split
      · exact (hdrop _).bind fun _ _ => .pure nofun
      · refine (hread _).bind fun stored hstored => ?_
        split
        · exact (hdrop _).bind fun _ _ => .pure nofun
        · next huser =>
          refine .pure fun session user heq => ?_
          cases heq
          exact hstored _ huser

/-- What may be half way when the account is closed: no call of `updateUser` on it; the lookups that
have begun have these numbers. -/
def AuthCall.NotUpdating (subject : Uuid) (begun : Nat → Prop) : AuthCall → Prop
  | .updateUser update _ => update.id ≠ subject
  | .getSessionAndUser number _ _ => begun number
  | _ => True

/-- Once an account is closed, and no call of `updateUser` on it is half way, it stays closed in
every interleaving, and no lookup that begins afterwards returns its user. -/
theorem closed_for_good (folding : CaseFolding) (sha256 : String → String) {begun : Nat → Prop}
    {pool pool' : Pool AuthState} {events : List (PoolEvent AuthCall)}
    (hclosed : Closed pool.shared.db subject)
    (hrunning : UnderWay folding sha256 (AuthCall.NotUpdating subject begun) pool)
    (h : Run (StepOf (Pool.step (AuthCall.code folding sha256))) pool events pool') :
    Closed pool'.shared.db subject ∧
      ∃ new, pool'.shared.lookups = pool.shared.lookups ++ new ∧
        ∀ lookup ∈ new, begun lookup.number ∨ ∀ session user,
          lookup.result = .ok (some (session, user)) → user.id ≠ subject := by
  have hkeeps : ∀ call : AuthCall, call.NotUpdating subject begun →
      Prog.Keeps (fun _ => True) (AuthMoves (Closed · subject) fun lookup =>
        begun lookup.number ∨ ∀ session user,
          lookup.result = .ok (some (session, user)) → user.id ≠ subject)
        (call.code folding sha256) := by
    intro call hcall
    refine closed_stores.code ?_ ?_ ?_
    · rintro sessionToken userId expires now rfl session db created db' - hs hok
      exact (AccountServer.createSession_stays hok).closed hs
    · rintro update now rfl user now' db saved db' hid hs hok
      exact closed_updateUser (hid ▸ hcall) hs hok
    · rintro number sessionToken now rfl result
      exact .inl hcall
  refine adds_of_run hclosed hrunning (hkeeps _) (fun call hmem => ?_) h
  cases call with
  | getSessionAndUser number sessionToken now =>
    exact keeps_lookup closed_stores yields_closed fun _ hresult => .inr hresult
  | updateUser update now =>
    by_cases hsubject : update.id = subject
    · exact keeps_closed_updateUser hsubject
    · exact keeps_of_moves (hkeeps (.updateUser update now) hsubject)
  | createUser | getUser | getUserByEmail | getUserByAccount | linkAccount | createSession
  | updateSession | deleteSession | getBalance | getSessionProfile | account =>
    refine keeps_of_moves (hkeeps _ ?_)
    trivial

instance (db : Database) (subject : Uuid) : Decidable (Closed db subject) :=
  inferInstanceAs (Decidable (∃ user ∈ db.users.rows,
    user.id = subject ∧ user.disabledAt.isSome = true))

/-- An account is deleted. -/
def deletedAccount : List (PoolEvent AuthCall) :=
  [.start (.account (.deleteOwnAccount "ada" 10 "gone")), .advance 0]

/-- It is updated, and signed in to. -/
def updatedAndSignedIn : List (PoolEvent AuthCall) :=
  [.start (.updateUser ⟨"ada", none, some "Ada", none⟩ 20), .advance 1,
    .start (.createSession "token" "ada" 1000 20), .advance 2,
    .start (.getSessionAndUser 0 "token" 30),
    .advance 3, .advance 3, .advance 3, .advance 3]

theorem deletedAccount_closed :
    ∃ pool pool', Run (StepOf (Pool.step (AuthCall.code PasswordSystem.plainFolding id)))
        ⟨⟨signedIn, [], []⟩, []⟩ deletedAccount pool ∧
      Run (StepOf (Pool.step (AuthCall.code PasswordSystem.plainFolding id))) pool
        updatedAndSignedIn pool' ∧
      pool'.shared.lookups.length = 1 ∧ Closed pool'.shared.db "ada" := by
  have hall : (runList (Pool.step (AuthCall.code PasswordSystem.plainFolding id))
      ⟨⟨signedIn, [], []⟩, []⟩ deletedAccount).any (fun pool =>
        decide (Closed pool.shared.db "ada") &&
        (runList (Pool.step (AuthCall.code PasswordSystem.plainFolding id)) pool
          updatedAndSignedIn).any fun pool' => pool'.shared.lookups.length = 1) = true := by
    decide +kernel
  obtain ⟨pool, hfirst, hall⟩ := (Option.any_eq_true _ _).1 hall
  obtain ⟨hclosed, hall⟩ := Bool.and_eq_true_iff.1 hall
  obtain ⟨pool', hrest, hlookups⟩ := (Option.any_eq_true _ _).1 hall
  have hbefore := run_of_runList hfirst
  have hafter := run_of_runList hrest
  have hrunning : UnderWay PasswordSystem.plainFolding id
      (AuthCall.NotUpdating "ada" fun _ => False) pool := by
    intro p hp
    obtain ⟨call, hcall, hresidual⟩ := Pool.residual_of_run hbefore p hp
    refine ⟨call, ?_, hresidual⟩
    simp only [deletedAccount, List.mem_cons, PoolEvent.start.injEq, reduceCtorEq,
      List.not_mem_nil, or_false] at hcall
    subst hcall
    trivial
  have hgood := closed_for_good PasswordSystem.plainFolding id (of_decide_eq_true hclosed) hrunning
    hafter
  exact ⟨pool, pool', hbefore, hafter, of_decide_eq_true hlookups, hgood.1⟩

/-- A call of `updateUser` that has read the account before opens it again. -/
theorem staleUpdate_reopens :
    (runList (Pool.step (AuthCall.code PasswordSystem.plainFolding id)) ⟨⟨signedIn, [], []⟩, []⟩
      [.start (.updateUser ⟨"ada", none, some "Ada", none⟩ 20), .advance 0,
        .start (.account (.deleteOwnAccount "ada" 10 "gone")), .advance 1, .advance 0]).any
      (fun pool => ¬ Closed pool.shared.db "ada") = true := by decide +kernel

end accounts

end RcOnline.Web
