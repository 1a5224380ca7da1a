import RcOnline.Web.AccountDeliveries

/-!
# Addresses of account tokens

A token reaches a request from the mail that carried it. Whoever uses a token does so on the account
that it was issued for, and to whose address it was mailed (`tokens_addressed`), over every
interleaving of requests, deliveries, clean-ups and deletions, as long as no two drawn tokens have
one hash.
-/

namespace RcOnline.Web

open RcOnline.Lib RcOnline.Accounts

/-- The token that a delivery will insert, with its hash. -/
def DeliveryTask.draws? : DeliveryTask → Option (String × String)
  | .registering input token => some (input.verificationTokenHash, token)
  | .rotating input token => some (input.tokenHash, token)
  | _ => none

/-- A token that is mailed was issued for a user with the address of the mail. -/
def AccountMail.Addressed (hashAccountToken : String → String) (issues : List TokenIssue)
    (mail : AccountMail) : Prop :=
  ∀ token, mail.token = some token → ∃ issue ∈ issues,
    issue.tokenHash = hashAccountToken token ∧ issue.address = some mail.recipient

theorem AccountMail.Addressed.mono {hashAccountToken : String → String}
    {issues issues' : List TokenIssue} {mail : AccountMail}
    (h : mail.Addressed hashAccountToken issues) (hsub : issues ⊆ issues') :
    mail.Addressed hashAccountToken issues' := by
  intro token htoken
  obtain ⟨issue, hmem, hissue⟩ := h token htoken
  exact ⟨issue, hsub hmem, hissue⟩

/-! ## What the transactions do to the tokens of users -/

section Store

variable {folding : CaseFolding} {db db' : Database}

/-- Every token was there before, for the same user. -/
def TokensOf (db db' : Database) : Prop :=
  ∀ r' ∈ db'.accountActionTokens.rows, ∃ r ∈ db.accountActionTokens.rows,
    r.tokenHash = r'.tokenHash ∧ r.userId = r'.userId

/-- Every token was there before but one, which is new. -/
def TokensAnd (db db' : Database) (tokenHash : String) (userId : Uuid) : Prop :=
  ∀ r' ∈ db'.accountActionTokens.rows,
    (∃ r ∈ db.accountActionTokens.rows, r.tokenHash = r'.tokenHash ∧ r.userId = r'.userId) ∨
      (r'.tokenHash = tokenHash ∧ r'.userId = userId)

theorem TokensOf.of_subset
    (h : ∀ r ∈ db'.accountActionTokens.rows, r ∈ db.accountActionTokens.rows) : TokensOf db db' :=
  fun r hr => ⟨r, h r hr, rfl, rfl⟩

theorem Registers.tokens {input : PendingAccountRegistration} {occurredAt : Int}
    {account : AccountActionResult} (h : Registers folding db db' input occurredAt account) :
    TokensAnd db db' input.verificationTokenHash account.userId := by
  intro r hr
  rcases (Table.mem_insert? h.token).1 hr with hr | rfl
  · exact .inl ⟨r, hr, rfl, rfl⟩
  · exact .inr ⟨rfl, rfl⟩

theorem Rotates.tokensAnd {input : ActionTokenRequest} {account : AccountActionResult}
    (h : Rotates folding db db' input account) :
    TokensAnd db db' input.tokenHash account.userId := by
  intro r hr
  rcases (Table.mem_insert? h.tokens).1 hr with hr | rfl
  · exact .inl ⟨r, (Table.mem_delete.1 hr).1, rfl, rfl⟩
  · exact .inr ⟨rfl, rfl⟩

theorem tokensOf_update {p : AccountActionToken → Bool} {now : Int}
    {tokens : Table AccountActionToken}
    (h : tokens = db.accountActionTokens.update p ({ · with consumedAt := some now }))
    (hsub : ∀ r ∈ db'.accountActionTokens.rows, r ∈ tokens.rows) : TokensOf db db' := by
  intro r' hr'
  have hmem := hsub r' hr'
  rw [h] at hmem
  obtain ⟨r, hr, rfl⟩ := Table.mem_update.1 hmem
  have htoken := patch_column (p := p) (f := ({ · with consumedAt := some now })) (r := r)
    (g := AccountActionToken.tokenHash) fun _ => rfl
  have huser := patch_column (p := p) (f := ({ · with consumedAt := some now })) (r := r)
    (g := AccountActionToken.userId) fun _ => rfl
  exact ⟨r, hr, htoken.symm, huser.symm⟩

theorem Consumes.tokensOf {input : ActionTokenUse} {result : Option AccountActionResult}
    {token : AccountActionToken} (h : Consumes db db' input result token) : TokensOf db db' :=
  tokensOf_update h.tokens fun _ hr => hr

theorem Resets.tokensOf {input : PasswordReplacement} {token : AccountActionToken}
    (h : Resets db db' input token) : TokensOf db db' :=
  tokensOf_update rfl fun _ hr => (Table.mem_delete.1 (h.tokens ▸ hr)).1

theorem tokenHash_of_usable {kind : AccountActionTokenKind} {tokenHash : String} {now : Int}
    {r : AccountActionToken} (h : usable kind tokenHash now r = true) :
    r.tokenHash = tokenHash := by
  simp only [usable, Bool.and_eq_true, decide_eq_true_eq] at h
  exact h.1.1.1

theorem createSession_tokens {session created : AuthSession}
    (h : createSession db session = .ok (created, db')) : TokensOf db db' :=
  have htokens := congrArg Database.accountActionTokens (createSession_eq_ok h).2.2
  .of_subset fun _ hr => htokens ▸ hr

theorem cleanup_tokens {now : Int} {batchSize : Number} {choice : CleanupChoice}
    {result : AccountCleanupResult}
    (h : cleanupExpiredAccountData db now batchSize choice = .ok (result, db')) :
    TokensOf db db' := by
  obtain ⟨expired, ids, hcleans⟩ := cleansUp_of_ok h
  refine .of_subset fun r hr => ?_
  rw [hcleans.tokens] at hr
  exact (Table.mem_delete.1 (Table.mem_delete.1 hr).1).1

theorem deleteOwnAccount_tokens (db : Database) (subject : Uuid) (disabledAt : Int)
    (deletedUuid : Uuid) : TokensOf db (deleteOwnAccount db subject disabledAt deletedUuid).2 :=
  .of_subset fun _ hr => (Table.mem_delete.1 hr).1

end Store

namespace AccountServer

/-! ## The invariant -/

/-- Every token of the database, of a mail and of a use was issued, and what a delivery is about to
insert was not. -/
structure Addressed (hashAccountToken : String → String) (server : AccountServer) : Prop where
  issued : (server.issues.map TokenIssue.tokenHash).Nodup
  rows : ∀ r ∈ server.db.accountActionTokens.rows, ∃ issue ∈ server.issues,
    issue.tokenHash = r.tokenHash ∧ issue.userId = r.userId
  uses : ∀ use ∈ server.uses, ∃ issue ∈ server.issues,
    issue.tokenHash = hashAccountToken use.token ∧ issue.userId = use.userId
  pending : ∀ {number task tokenHash token}, server.tasks number = some task →
    task.draws? = some (tokenHash, token) →
    tokenHash = hashAccountToken token ∧ tokenHash ∉ server.issues.map TokenIssue.tokenHash
  apart : ∀ {number number' task task' tokenHash token token'}, server.tasks number = some task →
    server.tasks number' = some task' → task.draws? = some (tokenHash, token) →
    task'.draws? = some (tokenHash, token') → number = number'
  sending : ∀ {number mail}, server.tasks number = some (.sending mail) →
    mail.Addressed hashAccountToken server.issues
  mail : ∀ entry ∈ server.mail, entry.2.Addressed hashAccountToken server.issues

/-- No token has the hash. -/
structure Unused (server : AccountServer) (tokenHash : String) : Prop where
  issues : tokenHash ∉ server.issues.map TokenIssue.tokenHash
  tasks : ∀ {number task token}, server.tasks number = some task →
    task.draws? ≠ some (tokenHash, token)

/-- The condition on a step: a token that is drawn has a hash of its own, and other parts of the
application insert no tokens. -/
def FreshStep (folding : CaseFolding) (dependencies : AccountServiceDependencies)
    (server : AccountServer) (e : AccountServerEvent) (after : AccountServer) : Prop :=
  (∀ number token accepted, e = .schedules number token accepted →
    server.Unused (dependencies.hashAccountToken token)) ∧
    (∀ db, e = .elsewhere db → TokensOf server.db db) ∧
    server.step folding dependencies e = some after

variable {folding : CaseFolding} {dependencies : AccountServiceDependencies}
  {hashAccountToken : String → String} {server after : AccountServer} {number : Nat}
  {run : AccountRun}

theorem addressed_start {db : Database} (h : db.accountActionTokens = .empty) :
    Addressed hashAccountToken (start db) where
  issued := List.nodup_nil
  rows := fun r hr => by
    rw [start, h] at hr
    cases hr
  uses := by nofun
  pending := by nofun
  apart := by nofun
  sending := by nofun
  mail := by nofun

theorem retain_tasks (server : AccountServer) (number : Nat) (task : DeliveryTask) (other : Nat) :
    (server.retain number task).tasks other =
      if other = number then some task else server.tasks other := Function.update_apply ..

theorem issue_tasks (server : AccountServer) (number : Nat) (kind : AccountActionTokenKind)
    (tokenHash token : String) (account : AccountActionResult) (db : Database) (other : Nat) :
    (server.issue folding number kind tokenHash token account db).tasks other =
      if other = number then some (.sending ⟨templateKind kind, account.email, some token⟩)
      else server.tasks other := Function.update_apply ..

namespace Addressed

theorem enter (h : Addressed hashAccountToken server) (number : Nat) (run : AccountRun) :
    Addressed hashAccountToken (server.enter number run) :=
  ⟨h.issued, h.rows, h.uses, h.pending, h.apart, h.sending, h.mail⟩

theorem answer (h : Addressed hashAccountToken server) (number : Nat) (run : AccountRun)
    (response : AccountResponse) :
    Addressed hashAccountToken (server.answer number run response) :=
  ⟨h.issued, h.rows, h.uses, h.pending, h.apart, h.sending, h.mail⟩

theorem works (h : Addressed hashAccountToken server) (number : Nat) :
    Addressed hashAccountToken (server.works number) :=
  ⟨h.issued, h.rows, h.uses, h.pending, h.apart, h.sending, h.mail⟩

theorem report (h : Addressed hashAccountToken server) (number : Nat)
    (signal : AccountDeliverySignal) : Addressed hashAccountToken (server.report number signal) :=
  ⟨h.issued, h.rows, h.uses, h.pending, h.apart, h.sending, h.mail⟩

theorem setCounters (h : Addressed hashAccountToken server)
    (authRateLimits : Table AuthRateLimit) :
    Addressed hashAccountToken (server.setCounters authRateLimits) :=
  ⟨h.issued, h.rows, h.uses, h.pending, h.apart, h.sending, h.mail⟩

theorem setDb (h : Addressed hashAccountToken server) {db : Database}
    (hdb : TokensOf server.db db) : Addressed hashAccountToken (server.setDb db) := by
  refine ⟨h.issued, fun r hr => ?_, h.uses, h.pending, h.apart, h.sending, h.mail⟩
  obtain ⟨old, hold, htoken, huser⟩ := hdb r hr
  obtain ⟨issue, hmem, hissue, hof⟩ := h.rows old hold
  exact ⟨issue, hmem, hissue.trans htoken, hof.trans huser⟩

/-- The token that is used has a row. -/
theorem spend (h : Addressed hashAccountToken server) {db : Database} {r : AccountActionToken}
    {token : String} {account : AccountActionResult} (hdb : TokensOf server.db db)
    (hr : r ∈ server.db.accountActionTokens.rows) (htoken : r.tokenHash = hashAccountToken token)
    (huser : r.userId = account.userId) :
    Addressed hashAccountToken (server.spend token account db) := by
  refine ⟨h.issued, (h.setDb hdb).rows, fun use hmem => ?_, h.pending, h.apart, h.sending, h.mail⟩
  rcases List.mem_append.1 hmem with hmem | hmem
  · exact h.uses use hmem
  · obtain rfl := List.mem_singleton.1 hmem
    obtain ⟨issue, hissue, hhash, hof⟩ := h.rows r hr
    exact ⟨issue, hissue, hhash.trans htoken, hof.trans huser⟩

/-- A delivery that will insert no token is retained. -/
theorem retain (h : Addressed hashAccountToken server) (number : Nat) {task : DeliveryTask}
    (hdraws : task.draws? = none)
    (hsending : ∀ mail, task = .sending mail → mail.Addressed hashAccountToken server.issues) :
    Addressed hashAccountToken (server.retain number task) := by
  have hother : ∀ {other found drawn}, Function.update server.tasks number (some task) other =
      some found → found.draws? = some drawn → server.tasks other = some found := by
    intro other found drawn hfound hdrawn
    rw [Function.update_apply] at hfound
    split at hfound
    · cases hfound
      rw [hdraws] at hdrawn
      cases hdrawn
    · exact hfound
  refine ⟨h.issued, h.rows, h.uses, fun hfound hdrawn => h.pending (hother hfound hdrawn) hdrawn,
    fun hfound hfound' hdrawn hdrawn' =>
      h.apart (hother hfound hdrawn) (hother hfound' hdrawn') hdrawn hdrawn', ?_, h.mail⟩
  intro other mail hfound
  rw [retain_tasks] at hfound
  split at hfound
  · exact hsending mail (Option.some.inj hfound)
  · exact h.sending hfound

/-- A mail that carries no token is due. -/
theorem retain_plain (h : Addressed hashAccountToken server) (number : Nat) {mail : AccountMail}
    (hmail : mail.token = none) :
    Addressed hashAccountToken (server.retain number (.sending mail)) := by
  refine h.retain number rfl fun other heq token htoken => ?_
  cases heq
  rw [hmail] at htoken
  cases htoken

theorem finish (h : Addressed hashAccountToken server) (number : Nat) :
    Addressed hashAccountToken (server.retain number .finished) := h.retain number rfl nofun

theorem taskFails (h : Addressed hashAccountToken server) (number : Nat)
    (kind : TransactionalEmailTemplateKind) (error : DeliveryError) :
    Addressed hashAccountToken (server.taskFails number kind error) := (h.finish number).report _ _

/-- A delivery is retained whose token has a hash of its own. -/
theorem retain_drawn (h : Addressed hashAccountToken server) (number : Nat) {task : DeliveryTask}
    {token : String} (hunused : server.Unused (hashAccountToken token))
    (hdraws : task.draws? = some (hashAccountToken token, token)) :
    Addressed hashAccountToken (server.retain number task) := by
  refine ⟨h.issued, h.rows, h.uses, ?_, ?_, ?_, h.mail⟩
  · intro other found tokenHash drawn hfound hdrawn
    rw [retain_tasks] at hfound
    split at hfound
    · cases hfound
      cases hdraws.symm.trans hdrawn
      exact ⟨rfl, hunused.issues⟩
    · exact h.pending hfound hdrawn
  · intro other other' found found' tokenHash drawn drawn' hfound hfound' hdrawn hdrawn'
    rw [retain_tasks] at hfound hfound'
    split at hfound
    · next hother =>
      cases hfound
      cases hdraws.symm.trans hdrawn
      split at hfound'
      · next hother' => rw [hother, hother']
      · exact absurd hdrawn' (hunused.tasks hfound')
    · split at hfound'
      · cases hfound'
        cases hdraws.symm.trans hdrawn'
        exact absurd hdrawn (hunused.tasks hfound)
      · exact h.apart hfound hfound' hdrawn hdrawn'
  · intro other mail hfound
    rw [retain_tasks] at hfound
    split at hfound
    · cases hfound
      cases hdraws
    · exact h.sending hfound

/-- The token of a delivery is inserted, for a user whose address the mail goes to. -/
theorem issue (h : Addressed hashAccountToken server) {task : DeliveryTask}
    {kind : AccountActionTokenKind} {tokenHash token : String} {account : AccountActionResult}
    {db : Database} (htask : server.tasks number = some task)
    (hdraws : task.draws? = some (tokenHash, token))
    (hrows : TokensAnd server.db db tokenHash account.userId)
    (haddress : address folding db account.userId = some account.email) :
    Addressed hashAccountToken
      (server.issue folding number kind tokenHash token account db) := by
  obtain ⟨hhash, hfresh⟩ := h.pending htask hdraws
  have hold :
      server.issues ⊆ (server.issue folding number kind tokenHash token account db).issues :=
    List.subset_append_left ..
  refine ⟨?_, ?_, ?_, ?_, ?_, ?_, fun entry hmem => (h.mail entry hmem).mono hold⟩
  · simp only [AccountServer.issue, List.map_append, List.map_cons, List.map_nil, List.nodup_append]
    refine ⟨h.issued, List.nodup_singleton _, ?_⟩
    rintro _ hmem _ hlast rfl
    exact hfresh (List.mem_singleton.1 hlast ▸ hmem)
  · intro r hr
    rcases hrows r hr with ⟨old, hmem, htoken, huser⟩ | ⟨htoken, huser⟩
    · obtain ⟨issue, hissue, hof⟩ := h.rows old hmem
      exact ⟨issue, hold hissue, hof.1.trans htoken, hof.2.trans huser⟩
    · exact ⟨_, List.mem_append_right _ (List.mem_singleton_self _), htoken.symm, huser.symm⟩
  · intro use hmem
    obtain ⟨issue, hissue, hof⟩ := h.uses use hmem
    exact ⟨issue, hold hissue, hof⟩
  · intro other found drawnHash drawn hfound hdrawn
    rw [issue_tasks] at hfound
    split at hfound
    · cases hfound
      cases hdrawn
    · next hother =>
      obtain ⟨heq, hnew⟩ := h.pending hfound hdrawn
      refine ⟨heq, ?_⟩
      simp only [AccountServer.issue, List.map_append, List.map_cons, List.map_nil, List.mem_append,
        List.mem_singleton, not_or]
      refine ⟨hnew, ?_⟩
      rintro rfl
      exact hother (h.apart hfound htask hdrawn hdraws)
  · intro other other' found found' drawnHash drawn drawn' hfound hfound' hdrawn hdrawn'
    rw [issue_tasks] at hfound hfound'
    split at hfound
    · cases hfound
      cases hdrawn
    · split at hfound'
      · cases hfound'
        cases hdrawn'
      · exact h.apart hfound hfound' hdrawn hdrawn'
  · intro other mail hfound
    rw [issue_tasks] at hfound
    split at hfound
    · cases hfound
      rintro sent hsent
      cases hsent
      exact ⟨_, List.mem_append_right _ (List.mem_singleton_self _), hhash, haddress⟩
    · exact (h.sending hfound).mono hold

theorem attempted (h : Addressed hashAccountToken server) (number : Nat) (run : AccountRun)
    (outcome : Option Bool) : Addressed hashAccountToken (server.attempted number run outcome) := by
  unfold AccountServer.attempted
  split
  · exact h.answer number run _
  · dsimp only
    split
    · exact h.enter number _
    · split
      · exact h.enter number _
      · exact h.answer number run _
  · exact h.enter number _

/-- The mail of a delivery is sent. -/
theorem mailed (h : Addressed hashAccountToken server) {mail : AccountMail}
    (htask : server.tasks number = some (.sending mail)) :
    Addressed hashAccountToken { server with mail := server.mail ++ [(number, mail)] } := by
  refine ⟨h.issued, h.rows, h.uses, h.pending, h.apart, h.sending, fun entry hmem => ?_⟩
  rcases List.mem_append.1 hmem with hmem | hmem
  · exact h.mail entry hmem
  · obtain rfl := List.mem_singleton.1 hmem
    exact h.sending htask

end Addressed

/-! ## Steps -/

theorem draws_of_delivery {passwordHash : Option String} {token : String} {task : DeliveryTask}
    (h : delivery? folding hashAccountToken run passwordHash token = some task) :
    task.draws? = some (hashAccountToken token, token) := by
  unfold delivery? at h
  split at h
  · obtain rfl := Option.some.inj h
    rfl
  · obtain rfl := Option.some.inj h
    rfl
  · obtain rfl := Option.some.inj h
    rfl
  · cases h

theorem addressed_advance (h : Addressed dependencies.hashAccountToken server)
    {e : AccountServerEvent}
    (hunused : ∀ number token accepted, e = .schedules number token accepted →
      server.Unused (dependencies.hashAccountToken token))
    (hstep : server.advance folding dependencies number run e = some after) :
    Addressed dependencies.hashAccountToken after := by
  cases advanced hstep with
  | hashFails | unverified => exact (h.works number).answer number run _
  | hashedReset | hashed | verified => exact (h.works number).enter number _
  | scheduled _ htask =>
    exact (h.retain_drawn number (hunused _ _ _ rfl) (draws_of_delivery htask)).answer number run _
  | unscheduled | consumeFails | replaceFails | createFails | unloaded | storeFails =>
    exact h.answer number run _
  | consumed _ _ hstore =>
    obtain ⟨hnone, -⟩ | ⟨r, hconsumes⟩ := consumes_of_ok hstore
    · cases hnone
    · obtain ⟨email, hverified⟩ := hconsumes.verified rfl
      cases hverified
      exact (h.spend hconsumes.tokensOf hconsumes.mem
        (tokenHash_of_usable hconsumes.usable) rfl).answer number run _
  | unconsumed _ _ hstore =>
    obtain ⟨-, rfl⟩ | ⟨r, hconsumes⟩ := consumes_of_ok hstore
    · exact (h.setDb (.of_subset fun _ hr => hr)).answer number run _
    · exact (h.setDb hconsumes.tokensOf).answer number run _
  | replaced _ _ hstore =>
    obtain ⟨hnone, -⟩ | ⟨r, email, hresult, hresets⟩ := resets_of_ok hstore
    · cases hnone
    · cases hresult
      have huser : r.userId = (⟨r.userId, email⟩ : AccountActionResult).userId := rfl
      have hspent := h.spend hresets.tokensOf hresets.mem
        (tokenHash_of_usable hresets.usable) huser
      split
      · exact (hspent.retain_plain number rfl).answer number run _
      · exact hspent.answer number run _
  | unreplaced _ _ hstore =>
    obtain ⟨-, rfl⟩ | ⟨r, email, hresult, -⟩ := resets_of_ok hstore
    · exact (h.setDb (.of_subset fun _ hr => hr)).answer number run _
    · cases hresult
  | found | loaded => exact h.enter number _
  | created _ _ hstore => exact (h.setDb (createSession_tokens hstore)).answer number run _
  | @deleted _ disabledAt deletedUuid _ _ subject _ _ _ hdelete =>
    have htokens := deleteOwnAccount_tokens server.db subject disabledAt deletedUuid
    rw [hdelete] at htokens
    split
    · exact ((h.setDb htokens).retain_plain number rfl).answer number run _
    · exact ((h.setDb htokens).report number _).answer number run _
  | @undeleted _ disabledAt deletedUuid _ _ subject _ _ _ hdelete =>
    have htokens := deleteOwnAccount_tokens server.db subject disabledAt deletedUuid
    rw [hdelete] at htokens
    exact (h.setDb htokens).answer number run _

theorem addressed_deliver (h : Addressed dependencies.hashAccountToken server)
    {task : DeliveryTask} (htask : server.tasks number = some task) {e : AccountServerEvent}
    (hstep : server.deliver folding number task e = some after) :
    Addressed dependencies.hashAccountToken after := by
  cases delivery_moves hstep with
  | registered hstore =>
    have hregisters := registers_of_ok hstore
    exact h.issue htask rfl hregisters.tokens hregisters.address
  | turnedAway => exact h.finish number
  | rotated hstore =>
    obtain ⟨hnone, -⟩ | ⟨account, hresult, hrotates⟩ := rotates_of_ok hstore
    · cases hnone
    · cases hresult
      -- A rotation writes no user.
      have husers := congrArg Database.users hrotates.others
      have haddress := hrotates.address
      rw [address, ← husers] at haddress
      exact h.issue htask rfl hrotates.tokensAnd haddress
  | unrotated hstore =>
    obtain ⟨-, rfl⟩ | ⟨account, hresult, -⟩ := rotates_of_ok hstore
    · exact (h.setDb (.of_subset fun _ hr => hr)).finish number
    · cases hresult
  | fails => exact h.taskFails number _ _
  | mailed => exact ((h.mailed htask).finish number).report _ _
  | unmailed => exact (h.mailed htask).taskFails number _ _

theorem addressed_step (h : Addressed dependencies.hashAccountToken server)
    {e : AccountServerEvent} (hstep : FreshStep folding dependencies server e after) :
    Addressed dependencies.hashAccountToken after := by
  obtain ⟨hunused, helsewhere, hstep⟩ := hstep
  cases e with
  | arrives number request limited now =>
    obtain ⟨-, ⟨⟩⟩ := Option.ite_none_right_eq_some.1 hstep
    exact h.enter number _
  | attempt number key =>
    obtain ⟨run, -, hstep⟩ := Option.bind_eq_some_iff.1 hstep
    obtain ⟨input, -, hstep⟩ := Option.bind_eq_some_iff.1 hstep
    split at hstep
    · obtain rfl := Option.some.inj hstep
      exact (h.setCounters _).attempted number _ _
    · obtain rfl := Option.some.inj hstep
      exact h.attempted number _ _
  | attemptFails number key =>
    obtain ⟨run, -, hstep⟩ := Option.bind_eq_some_iff.1 hstep
    obtain ⟨input, -, hstep⟩ := Option.bind_eq_some_iff.1 hstep
    obtain rfl := Option.some.inj hstep
    exact h.attempted number _ _
  | nicknameAttempt keyHash now =>
    simp only [step] at hstep
    split at hstep
    · obtain rfl := Option.some.inj hstep
      exact h.setCounters _
    · obtain rfl := Option.some.inj hstep
      exact h
  | cleansUp now batchSize choice =>
    simp only [step] at hstep
    split at hstep
    · next hok =>
      obtain rfl := Option.some.inj hstep
      exact (h.setDb (cleanup_tokens hok)).setCounters _
    · obtain rfl := Option.some.inj hstep
      exact h
  | cleanupDeletes key =>
    obtain rfl := Option.some.inj hstep
    exact h.setCounters _
  | elsewhere db =>
    obtain rfl := Option.some.inj hstep
    have hset := h.setDb (helsewhere db rfl)
    exact hset.setCounters _
  | hashes number | schedules number | verifies number | consumes number | replaces number
  | finds number | creates number | loads number | deletes number | storeFails number =>
    obtain ⟨run, -, hstep⟩ := Option.bind_eq_some_iff.1 hstep
    exact addressed_advance h hunused hstep
  | registers number | rotates number | taskFails number | delivers number =>
    obtain ⟨task, htask, hstep⟩ := Option.bind_eq_some_iff.1 hstep
    exact addressed_deliver h htask hstep

/-- In every run that starts without tokens and draws no hash again, a token is used on a user only
if it was issued for this user, and each mail that carried it went to the address which the user
then had. -/
theorem tokens_addressed (folding : CaseFolding) (dependencies : AccountServiceDependencies)
    {db : Database} (htokens : db.accountActionTokens = .empty) {events : List AccountServerEvent}
    (h : Run (FreshStep folding dependencies) (start db) events server) :
    ∀ use ∈ server.uses,
      (∃ issue ∈ server.issues, issue.tokenHash = dependencies.hashAccountToken use.token ∧
        issue.userId = use.userId) ∧
      ∀ entry ∈ server.mail, ∀ token, entry.2.token = some token →
        dependencies.hashAccountToken token = dependencies.hashAccountToken use.token →
        ∃ issue ∈ server.issues, issue.tokenHash = dependencies.hashAccountToken token ∧
          issue.userId = use.userId ∧ issue.address = some entry.2.recipient := by
  have haddressed : Addressed dependencies.hashAccountToken server :=
    h.invariant (addressed_start htokens) fun hs hstep => addressed_step hs hstep
  intro use huse
  obtain ⟨used, hused, husedHash, hof⟩ := haddressed.uses use huse
  refine ⟨⟨used, hused, husedHash, hof⟩, fun entry hentry token htoken hhash => ?_⟩
  obtain ⟨mailed, hmailed, hmailedHash, hto⟩ := haddressed.mail entry hentry token htoken
  -- One issue has the hash.
  have hsame : used = mailed := List.inj_on_of_nodup_map haddressed.issued hused hmailed
    (husedHash.trans (hhash.symm.trans hmailedHash.symm))
  exact ⟨mailed, hmailed, hmailedHash, hsame ▸ hof, hto⟩

/-- A reset is requested. -/
def requested : List AccountServerEvent :=
  let keyHash := String.ofList (List.replicate 64 'a')
  [.arrives 0 (.requestPasswordReset "ada@example.com") ⟨keyHash, keyHash⟩ 1000,
    .attempt 0 .account,
    .attempt 0 .ip]

/-- Its token is mailed, and used. -/
def mailedAndUsed : List AccountServerEvent :=
  let keyHash := String.ofList (List.replicate 64 'b')
  [.rotates 0, .delivers 0 (.ok ()),
    .arrives 1 (.resetPassword "raw" "new") ⟨keyHash, keyHash⟩ 2000,
    .attempt 1 .ip, .attempt 1 .account, .hashes 1 (some "hash"), .replaces 1 true]

theorem mailedAndUsed_addressed :
    ∃ events server, Run (FreshStep PasswordSystem.plainFolding PasswordSystem.plainDependencies)
        (start deletableAccount) events server ∧
      server.uses = [⟨"raw", "ada"⟩] ∧ server.mail.map (·.2.token) = [some "raw"] ∧
      ∀ use ∈ server.uses,
        (∃ issue ∈ server.issues, issue.tokenHash = use.token ∧ issue.userId = use.userId) ∧
        ∀ entry ∈ server.mail, ∀ token, entry.2.token = some token → token = use.token →
          ∃ issue ∈ server.issues, issue.tokenHash = token ∧
            issue.userId = use.userId ∧ issue.address = some entry.2.recipient := by
  have hall : (runList (step PasswordSystem.plainFolding PasswordSystem.plainDependencies)
      (start deletableAccount) requested).any (fun s => s.answers.isEmpty && s.issues.isEmpty &&
        (s.step PasswordSystem.plainFolding PasswordSystem.plainDependencies
          (.schedules 0 "raw" true)).any fun t =>
          (runList (step PasswordSystem.plainFolding PasswordSystem.plainDependencies) t
            mailedAndUsed).any fun server =>
              server.uses = [⟨"raw", "ada"⟩] &&
                server.mail.map (·.2.token) = [some "raw"]) = true := by
    decide +kernel
  obtain ⟨s, hfirst, hall⟩ := (Option.any_eq_true _ _).1 hall
  simp only [Bool.and_eq_true, List.isEmpty_iff] at hall
  obtain ⟨⟨hanswers, hissues⟩, hall⟩ := hall
  obtain ⟨t, hschedule, hall⟩ := (Option.any_eq_true _ _).1 hall
  obtain ⟨server, hrest, hend⟩ := (Option.any_eq_true _ _).1 hall
  simp only [Bool.and_eq_true, decide_eq_true_eq] at hend
  have hreached := run_of_runList hfirst
  -- Nothing is answered, so nothing is retained.
  have hdelivered : Delivered s :=
    hreached.invariant (delivered_start _) fun hs hstep => hs.step (progress hstep)
  have hunused : s.Unused "raw" := by
    refine ⟨by rw [hissues]; nofun, fun {number task token} htask => ?_⟩
    obtain ⟨answer, hmem, -⟩ := hdelivered.tasks number task htask
    rw [hanswers] at hmem
    cases hmem
  have hrun : Run (FreshStep PasswordSystem.plainFolding PasswordSystem.plainDependencies)
      (start deletableAccount) (requested ++ .schedules 0 "raw" true :: mailedAndUsed) server := by
    refine Run.append (hreached.mono_of_mem fun hmem hstep => ⟨?_, ?_, hstep⟩)
      (.cons ⟨?_, ?_, hschedule⟩
      ((run_of_runList hrest).mono_of_mem fun hmem hstep => ⟨?_, ?_, hstep⟩))
    · rintro number token accepted rfl
      simp [requested] at hmem
    · rintro db rfl
      simp [requested] at hmem
    · rintro number token accepted heq
      cases heq
      exact hunused
    · nofun
    · rintro number token accepted rfl
      simp [mailedAndUsed] at hmem
    · rintro db rfl
      simp [mailedAndUsed] at hmem
  exact ⟨_, server, hrun, hend.1, hend.2, tokens_addressed _ _ rfl hrun⟩

end AccountServer

end RcOnline.Web
