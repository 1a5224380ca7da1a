import RcOnline.Lib.Unwinding
import RcOnline.Web.AccountPasswords

/-!
# Answers that tell nothing of an account

A registration, a resent verification and a requested reset are answered before their deliveries
look at any account. So their answers, and who is turned away at the rate limit, are functions of
the counters and of what is requested: two services with different accounts, whatever happens to
these meanwhile, cannot be told apart by them, nor by the passwords that they hash and verify
(`answers_independent`).
-/

namespace RcOnline.Web

open RcOnline.Lib RcOnline.Accounts

/-! ## What is seen -/

/-- A request whose answer tells nothing. -/
def AccountRequest.generic : AccountRequest → Bool
  | .register .. | .resendVerification _ | .requestPasswordReset _ => true
  | _ => false

/-- An answer that anyone may know of: one of a generic request, or that of the rate limit. -/
def isSeen (answer : AccountAnswer) : Bool :=
  answer.request.generic || answer.response = .rateLimited

/-- What a request waits for, as far as no account decides it. -/
def AccountPhase.shown (_ : AccountRequest) : AccountPhase → AccountPhase
  | .limiting allowed => .limiting allowed
  | .hashing => .hashing
  | .scheduling passwordHash => .scheduling passwordHash
  | _ => .finished

/-- What a request is seen to wait for: a password is hashed unseen, and what follows the attempts
of the other requests is not seen. -/
def AccountPhase.seen (request : AccountRequest) : AccountPhase → AccountPhase
  | .limiting allowed => .limiting allowed
  | .hashing | .scheduling _ => if request.generic then .scheduling none else .finished
  | _ => .finished

/-- A view of phases that tells the attempts from what follows them. -/
structure PhaseView (view : AccountRequest → AccountPhase → AccountPhase) : Prop where
  limiting : ∀ request allowed, view request (.limiting allowed) = .limiting allowed
  others : ∀ {request phase allowed}, view request phase = .limiting allowed →
    phase = .limiting allowed
  finished : ∀ request, view request .finished = .finished

theorem phaseView_shown : PhaseView AccountPhase.shown where
  limiting _ _ := rfl
  others {_ phase _} h := by
    cases phase <;> cases h
    rfl
  finished _ := rfl

theorem phaseView_seen : PhaseView AccountPhase.seen where
  limiting _ _ := rfl
  others {request phase allowed} h := by
    cases phase with
    | limiting => exact h
    | hashing | scheduling =>
      rw [AccountPhase.seen] at h
      split at h <;> cases h
    | _ => cases h
  finished _ := rfl

/-- What is seen is seen of what is shown. -/
theorem seen_shown (request : AccountRequest) (phase : AccountPhase) :
    (phase.shown request).seen request = phase.seen request := by cases phase <;> rfl

def AccountRun.through (view : AccountRequest → AccountPhase → AccountPhase) (run : AccountRun) :
    AccountRun :=
  { run with phase := view run.request run.phase }

@[ext]
structure SeenAccounts where
  authRateLimits : Table AuthRateLimit
  runs : Nat → Option AccountRun
  answers : List AccountAnswer

/-- An event that is seen, without what it draws. -/
inductive SeenAccountEvent where
  | arrives (number : Nat) (request : AccountRequest) (limited : RateLimitedInput) (now : Int)
  | attempt (number : Nat) (key : RateLimitKey)
  | attemptFails (number : Nat) (key : RateLimitKey)
  | hashFails (number : Nat)
  | schedules (number : Nat) (accepted : Bool)
  | nicknameAttempt (keyHash : String) (now : Int)
  | cleanupDeletes (key : CounterKey)

namespace AccountServerEvent

def seen? : AccountServerEvent → Option SeenAccountEvent
  | .arrives number request limited now => some (.arrives number request limited now)
  | .attempt number key => some (.attempt number key)
  | .attemptFails number key => some (.attemptFails number key)
  | .hashes number none => some (.hashFails number)
  | .schedules number _ accepted => some (.schedules number accepted)
  | .nicknameAttempt keyHash now => some (.nicknameAttempt keyHash now)
  | .cleanupDeletes key => some (.cleanupDeletes key)
  | _ => none

/-- A step that no account decides. -/
def kept : AccountServerEvent → Bool
  | .arrives .. | .attempt .. | .attemptFails .. | .hashes .. | .schedules .. | .nicknameAttempt ..
  | .cleanupDeletes _ => true
  | _ => false

theorem kept_of_seen {e : AccountServerEvent} {label : SeenAccountEvent}
    (h : e.seen? = some label) : e.kept = true := by
  cases e with
  | arrives | attempt | attemptFails | hashes | schedules | nicknameAttempt | cleanupDeletes => rfl
  | _ => cases h

end AccountServerEvent

/-! ## The service as it is seen -/

namespace SeenAccounts

variable (seen : SeenAccounts)

def enter (number : Nat) (run : AccountRun) : SeenAccounts :=
  { seen with runs := Function.update seen.runs number (some run) }

def answer (number : Nat) (run : AccountRun) (response : AccountResponse) : SeenAccounts :=
  { seen.enter number { run with phase := .finished } with
    answers := seen.answers ++ [⟨number, run.request, response⟩].filter isSeen }

def attempted (view : AccountRequest → AccountPhase → AccountPhase) (number : Nat)
    (run : AccountRun) (outcome : Option Bool) : SeenAccounts :=
  match run.phase, outcome with
  | .limiting _, none => seen.answer number run .failed
  | .limiting before, some allowed =>
    let allowed := before && allowed
    if run.waits then seen.enter number { run with phase := .limiting allowed }
    else if allowed then
      seen.enter number { run with phase := view run.request run.request.admitted }
    else seen.answer number run .rateLimited
  | _, _ => seen.enter number run

variable {seen} in
theorem attempted_of_other {view : AccountRequest → AccountPhase → AccountPhase} {number : Nat}
    {run : AccountRun} (h : ∀ before, run.phase ≠ .limiting before) (outcome : Option Bool) :
    seen.attempted view number run outcome = seen.enter number run := by
  unfold attempted
  split
  · next hlimiting => exact absurd hlimiting (h _)
  · next hlimiting => exact absurd hlimiting (h _)
  · rfl

/-- A service without accounts: it has its counters and what is requested, and nothing else. -/
def step : SeenAccountEvent → Option SeenAccounts
  | .arrives number request limited now =>
    let phase := if request.limit?.isSome then .limiting true else request.admitted.seen request
    some (seen.enter number
      { request, limited, now, pending := fun _ => request.limit?.isSome, phase })
  | .attempt number key => do
    let run ← seen.runs number
    let input ← run.attempt? key
    match takeRateLimitAttempt seen.authRateLimits input with
    | .ok (attempt, authRateLimits) =>
      some ({ seen with authRateLimits }.attempted AccountPhase.seen number (run.ended key)
        (some attempt.allowed))
    | .error _ => some (seen.attempted AccountPhase.seen number (run.ended key) none)
  | .attemptFails number key =>
    (seen.runs number).map fun run =>
      seen.attempted AccountPhase.seen number (run.ended key) none
  | .hashFails number => (seen.runs number).map fun run => seen.answer number run .failed
  | .schedules number accepted =>
    (seen.runs number).map fun run =>
      seen.answer number run (if accepted then .accepted else .failed)
  | .nicknameAttempt keyHash now =>
    match takeRateLimitAttempt seen.authRateLimits
      { keyHash, kind := "nickname", now := some now, windowMs := AccountPolicies.nickname.windowMs
        limit := AccountPolicies.nickname.limit } with
    | .ok (_, authRateLimits) => some { seen with authRateLimits }
    | .error _ => some seen
  | .cleanupDeletes key =>
    some { seen with authRateLimits := seen.authRateLimits.delete (Row.key · = key) }

end SeenAccounts

namespace AccountServer

def through (view : AccountRequest → AccountPhase → AccountPhase) (server : AccountServer) :
    SeenAccounts where
  authRateLimits := server.db.authRateLimits
  runs number := (server.runs number).map (AccountRun.through view)
  answers := server.answers.filter isSeen

variable {view : AccountRequest → AccountPhase → AccountPhase}
  {server server' after after' : AccountServer} {number : Nat} {run run' : AccountRun}

theorem through_run (hrun : server.runs number = some run) :
    (server.through view).runs number = some (run.through view) :=
  congrArg (Option.map (AccountRun.through view)) hrun

theorem through_enter (server : AccountServer) (number : Nat) (run : AccountRun) :
    (server.enter number run).through view =
      (server.through view).enter number (run.through view) := by
  refine SeenAccounts.ext rfl (funext fun other => ?_) rfl
  simp only [through, enter, SeenAccounts.enter, Function.update_apply]
  split <;> rfl

theorem through_finished (hview : PhaseView view) (run : AccountRun) :
    ({ run with phase := .finished } : AccountRun).through view =
      { run.through view with phase := .finished } := by
  rw [AccountRun.through, hview.finished]
  rfl

theorem through_answer (hview : PhaseView view) (server : AccountServer) (number : Nat)
    (run : AccountRun) (response : AccountResponse) :
    (server.answer number run response).through view =
      (server.through view).answer number (run.through view) response := by
  have henter : (server.enter number { run with phase := .finished }).through view = _ :=
    through_enter ..
  have hruns := congrArg SeenAccounts.runs henter
  rw [through_finished hview] at hruns
  exact SeenAccounts.ext rfl hruns (List.filter_append ..)

theorem through_attempted (hview : PhaseView view) (server : AccountServer) (number : Nat)
    (run : AccountRun) (outcome : Option Bool) :
    (server.attempted number run outcome).through view =
      (server.through view).attempted view number (run.through view) outcome := by
  have hphase : (run.through view).phase = view run.request run.phase := rfl
  by_cases hlimiting : ∃ before, run.phase = .limiting before
  · obtain ⟨before, hlimiting⟩ := hlimiting
    have hwaits : (run.through view).waits = run.waits := rfl
    unfold attempted SeenAccounts.attempted
    rw [hphase, hwaits, hlimiting, hview.limiting]
    cases outcome with
    | none => exact through_answer hview ..
    | some allowed =>
      dsimp only
      split
      · rw [through_enter, AccountRun.through, hview.limiting]
        rfl
      · split
        · exact through_enter ..
        · exact through_answer hview ..
  · -- The view does not take the phase for one of the attempts.
    have hother : ∀ before, (run.through view).phase ≠ .limiting before :=
      fun before heq => hlimiting ⟨before, hview.others heq⟩
    rw [attempted_of_other (fun before heq => hlimiting ⟨before, heq⟩),
      SeenAccounts.attempted_of_other hother, through_enter]

/-- A step that enters what looks the same is not seen. -/
theorem through_enter_of_same (hsame : server.through view = server'.through view)
    (hrun : server.runs number = some run) (hseen : run'.through view = run.through view) :
    (server.enter number run').through view = server'.through view := by
  rw [← hsame, through_enter]
  refine SeenAccounts.ext rfl ?_ rfl
  rw [SeenAccounts.enter, Function.update_eq_self_iff, hseen, through_run hrun]

/-- An answer of a request whose later phases are not seen, and that nobody may know of. -/
theorem through_answer_of_hidden (hview : PhaseView view)
    (hsame : server.through view = server'.through view) (hrun : server.runs number = some run)
    (hphase : view run.request run.phase = .finished) {response : AccountResponse}
    (hanswer : isSeen ⟨number, run.request, response⟩ = false) :
    (server.answer number run response).through view = server'.through view := by
  have hfinished : ({ run with phase := .finished } : AccountRun).through view =
      run.through view := by
    rw [through_finished hview, AccountRun.through, hphase]
  have hruns := congrArg SeenAccounts.runs (through_enter_of_same rfl hrun hfinished)
  rw [← hsame]
  refine SeenAccounts.ext rfl hruns ?_
  rw [through_answer hview]
  simp [SeenAccounts.answer, AccountRun.through, hanswer]

/-- Services that are shown to be alike are seen to be. -/
theorem seen_of_shown (h : server.through .shown = server'.through .shown) :
    server.through .seen = server'.through .seen := by
  have hseen : ∀ run : AccountRun, (run.through .shown).through .seen = run.through .seen := by
    intro run
    rw [AccountRun.through, AccountRun.through, AccountRun.through, seen_shown]
  have hruns : ∀ (server : AccountServer) number, (server.through .seen).runs number =
      ((server.through .shown).runs number).map (AccountRun.through .seen) := by
    intro server number
    rw [through, through, Option.map_map]
    exact congrArg (server.runs number).map (funext fun run => (hseen run).symm)
  have hcounters := congrArg SeenAccounts.authRateLimits h
  have hanswers := congrArg SeenAccounts.answers h
  refine SeenAccounts.ext hcounters (funext fun number => ?_) hanswers
  rw [hruns, hruns, h]

/-! ## Steps of which nothing is seen -/

variable {folding : CaseFolding} {dependencies : AccountServiceDependencies}

theorem through_setDb {db : Database} (h : db.authRateLimits = server.db.authRateLimits) :
    (server.setDb db).through view = server.through view := SeenAccounts.ext h rfl rfl

theorem through_spend {db : Database} (h : db.authRateLimits = server.db.authRateLimits)
    (token : String) (account : AccountActionResult) :
    (server.spend token account db).through view = server.through view :=
  SeenAccounts.ext h rfl rfl

theorem hidden_of_calls (h : run.calls = true) :
    run.phase.shown run.request = .finished ∧ run.request.generic = false := by
  unfold AccountRun.calls at h
  split at h <;> simp_all [AccountPhase.shown, AccountRequest.generic]

/-- A step of a request that an account may decide. -/
theorem shown_advance_of_dropped (hrun : server.runs number = some run) {e : AccountServerEvent}
    (hdropped : e.kept = false)
    (h : server.advance folding dependencies number run e = some after) :
    after.through .shown = server.through .shown := by
  have hworks : (server.works number).through .shown = server.through .shown := rfl
  cases advanced h with
  | hashFails | hashedReset | hashed | scheduled | unscheduled => cases hdropped
  | verified hphase =>
    exact through_enter_of_same hworks hrun
      (by rw [AccountRun.through, AccountRun.through, hphase]; rfl)
  | unverified hphase hrequest =>
    exact through_answer_of_hidden phaseView_shown hworks hrun (by rw [hphase]; rfl)
      (by rw [hrequest]; rfl)
  | consumed hphase hrequest hstore =>
    have hcounters := (consumeActionToken_spares hstore).counters
    exact through_answer_of_hidden phaseView_shown (through_spend hcounters _ _) hrun
      (by rw [hphase]; rfl) (by rw [hrequest]; rfl)
  | unconsumed hphase hrequest hstore =>
    have hcounters := (consumeActionToken_spares hstore).counters
    exact through_answer_of_hidden phaseView_shown (through_setDb hcounters) hrun
      (by rw [hphase]; rfl) (by rw [hrequest]; rfl)
  | consumeFails hphase hrequest | replaceFails hphase hrequest | createFails hphase hrequest
  | unloaded hphase hrequest =>
    exact through_answer_of_hidden phaseView_shown rfl hrun (by rw [hphase]; rfl)
      (by rw [hrequest]; rfl)
  | @replaced _ _ token _ _ account db hphase hrequest hstore =>
    have hseen : run.phase.shown run.request = .finished := by rw [hphase]; rfl
    have hspent : (server.spend token account db).through .shown = server.through .shown :=
      through_spend (replacePasswordAndRevokeSessions_spares hstore).counters token account
    split
    · exact through_answer_of_hidden phaseView_shown hspent hrun hseen (by rw [hrequest]; rfl)
    · exact through_answer_of_hidden phaseView_shown hspent hrun hseen (by rw [hrequest]; rfl)
  | unreplaced hphase hrequest hstore =>
    have hcounters := (replacePasswordAndRevokeSessions_spares hstore).counters
    exact through_answer_of_hidden phaseView_shown (through_setDb hcounters) hrun
      (by rw [hphase]; rfl) (by rw [hrequest]; rfl)
  | found hphase hrequest | loaded hphase hrequest =>
    exact through_enter_of_same rfl hrun
      (by rw [AccountRun.through, AccountRun.through, hphase]; rfl)
  | created hphase hrequest hstore =>
    have hcounters := congrArg Database.authRateLimits (createSession_eq_ok hstore).2.2
    exact through_answer_of_hidden phaseView_shown (through_setDb hcounters) hrun
      (by rw [hphase]; rfl) (by rw [hrequest]; rfl)
  | @deleted _ disabledAt deletedUuid _ _ subject _ hphase hrequest hdelete =>
    have hseen : run.phase.shown run.request = .finished := by rw [hphase]; rfl
    have hdb : (deleteOwnAccount server.db subject disabledAt deletedUuid).2.authRateLimits =
        server.db.authRateLimits := rfl
    rw [hdelete] at hdb
    split <;>
      exact through_answer_of_hidden phaseView_shown (through_setDb hdb) hrun hseen
        (by rw [hrequest]; rfl)
  | @undeleted _ disabledAt deletedUuid _ _ subject _ hphase hrequest hdelete =>
    have hdb : (deleteOwnAccount server.db subject disabledAt deletedUuid).2.authRateLimits =
        server.db.authRateLimits := rfl
    rw [hdelete] at hdb
    exact through_answer_of_hidden phaseView_shown (through_setDb hdb) hrun (by rw [hphase]; rfl)
      (by rw [hrequest]; rfl)
  | storeFails hcalls =>
    obtain ⟨hphase, hrequest⟩ := hidden_of_calls hcalls
    exact through_answer_of_hidden phaseView_shown rfl hrun hphase (by rw [isSeen, hrequest]; rfl)

theorem through_deliver (task : DeliveryTask) {e : AccountServerEvent}
    (h : server.deliver folding number task e = some after) :
    after.through view = server.through view := by
  cases delivery_moves h with
  | registered hstore =>
    exact SeenAccounts.ext (registerPendingAccount_spares hstore).counters rfl rfl
  | rotated hstore | unrotated hstore =>
    exact SeenAccounts.ext (createOrRotateActionToken_spares hstore).counters rfl rfl
  | turnedAway | fails | mailed | unmailed => rfl

theorem shown_of_dropped {e : AccountServerEvent} (hdropped : e.kept = false)
    (h : server.step folding dependencies e = some after) :
    after.through .shown = server.through .shown := by
  cases e with
  | arrives | attempt | attemptFails | hashes | schedules | nicknameAttempt | cleanupDeletes =>
    cases hdropped
  | elsewhere db =>
    obtain rfl := Option.some.inj h
    rfl
  | cleansUp now batchSize choice =>
    simp only [step] at h
    split at h
    · obtain rfl := Option.some.inj h
      rfl
    · obtain rfl := Option.some.inj h
      rfl
  | consumes number | replaces number | finds number | verifies number | creates number
  | loads number | deletes number | storeFails number =>
    obtain ⟨run, hrun, h⟩ := Option.bind_eq_some_iff.1 h
    exact shown_advance_of_dropped hrun rfl h
  | registers number | rotates number | taskFails number | delivers number =>
    obtain ⟨task, -, h⟩ := Option.bind_eq_some_iff.1 h
    exact through_deliver task h

/-! ## Steps that every service takes -/

/-- A service that looks the same has a run that does. -/
theorem exists_run (hsame : server.through view = server'.through view)
    (hrun : server.runs number = some run) :
    ∃ run', server'.runs number = some run' ∧ run.through view = run'.through view := by
  have hruns := congrFun (congrArg SeenAccounts.runs hsame) number
  rw [through_run hrun] at hruns
  obtain ⟨run', hrun', hview⟩ := Option.map_eq_some_iff.1 hruns.symm
  exact ⟨run', hrun', hview.symm⟩

theorem alike_enter (hsame : server.through view = server'.through view)
    (hrun : run.through view = run'.through view) :
    (server.enter number run).through view = (server'.enter number run').through view := by
  rw [through_enter, through_enter, hsame, hrun]

theorem alike_answer (hview : PhaseView view) (hsame : server.through view = server'.through view)
    (hrun : run.through view = run'.through view) (response : AccountResponse) :
    (server.answer number run response).through view =
      (server'.answer number run' response).through view := by
  rw [through_answer hview, through_answer hview, hsame, hrun]

theorem alike_attempted (hview : PhaseView view)
    (hsame : server.through view = server'.through view)
    (hrun : run.through view = run'.through view) (key : RateLimitKey) (outcome : Option Bool) :
    (server.attempted number (run.ended key) outcome).through view =
      (server'.attempted number (run'.ended key) outcome).through view := by
  have hended : (run.ended key).through view = (run'.ended key).through view :=
    congrArg (·.ended key) hrun
  rw [through_attempted hview, through_attempted hview, hsame, hended]

theorem alike_phase (hrun : run.through view = run'.through view) (phase : AccountPhase) :
    ({ run with phase } : AccountRun).through view =
      ({ run' with phase } : AccountRun).through view :=
  congrArg (fun run : AccountRun => { run with phase := view run.request phase }) hrun

theorem alike_setCounters (hsame : server.through view = server'.through view)
    (authRateLimits : Table AuthRateLimit) :
    (server.setCounters authRateLimits).through view =
      (server'.setCounters authRateLimits).through view :=
  congrArg (fun seen : SeenAccounts => { seen with authRateLimits }) hsame

theorem shown_eq_or (request : AccountRequest) (phase : AccountPhase) :
    phase.shown request = .finished ∨ phase.shown request = phase := by
  cases phase with
  | limiting | hashing | scheduling => exact .inr rfl
  | _ => exact .inl rfl

theorem eq_of_shown {phase : AccountPhase} (hrun : run.through .shown = run'.through .shown)
    (hphase : run.phase = phase) (hlive : phase.shown run.request ≠ .finished) :
    run'.phase = phase := by
  have hshown : run.phase.shown run.request = run'.phase.shown run'.request :=
    congrArg AccountRun.phase hrun
  rw [hphase] at hshown
  have hsame := (shown_eq_or run.request phase).resolve_left hlive
  have hsame' := (shown_eq_or run'.request run'.phase).resolve_left (hshown ▸ hlive)
  rw [← hsame', ← hshown, hsame]

theorem eq_delivery {passwordHash : Option String} {token : String} {task : DeliveryTask}
    (hrun : run.through view = run'.through view)
    (h : delivery? folding dependencies.hashAccountToken run passwordHash token = some task) :
    delivery? folding dependencies.hashAccountToken run' passwordHash token = some task := by
  have heq := congrArg
    (delivery? folding dependencies.hashAccountToken · passwordHash token) hrun
  exact heq.symm.trans h

theorem alike_advance (hsame : server.through .shown = server'.through .shown)
    (hrun : run.through .shown = run'.through .shown) {e : AccountServerEvent}
    (hkept : e.kept = true) (h : server.advance folding dependencies number run e = some after) :
    ∃ after', server'.advance folding dependencies number run' e = some after' ∧
      after.through .shown = after'.through .shown := by
  have hworks : (server.works number).through .shown = (server'.works number).through .shown :=
    hsame
  have hretain : ∀ task, (server.retain number task).through .shown =
      (server'.retain number task).through .shown := fun _ => hsame
  have hrequest := congrArg AccountRun.request hrun
  cases advanced h with
  | hashFails hphase =>
    have hphase' := eq_of_shown hrun hphase (by simp [AccountPhase.shown])
    refine ⟨(server'.works number).answer number run' .failed, ?_,
      alike_answer phaseView_shown hworks hrun _⟩
    simp only [advance, hphase']
  | @hashedReset _ token password passwordHash hphase hreset =>
    have hphase' := eq_of_shown hrun hphase (by simp [AccountPhase.shown])
    have hreset' : run'.request = .resetPassword token password := hrequest.symm.trans hreset
    refine ⟨(server'.works number).enter number { run' with phase := .replacing passwordHash }, ?_,
      alike_enter hworks (alike_phase hrun _)⟩
    simp only [advance, hphase', hreset']
  | @hashed _ passwordHash hphase hother =>
    have hphase' := eq_of_shown hrun hphase (by simp [AccountPhase.shown])
    refine ⟨(server'.works number).enter number
      { run' with phase := .scheduling (some passwordHash) }, ?_,
      alike_enter hworks (alike_phase hrun _)⟩
    cases hrequest' : run'.request with
    | resetPassword => exact (hother _ _ (hrequest.trans hrequest')).elim
    | _ => simp only [advance, hphase', hrequest']
  | @scheduled _ _ _ task hphase htask =>
    have hphase' := eq_of_shown hrun hphase (by simp [AccountPhase.shown])
    refine ⟨(server'.retain number task).answer number run' .accepted, ?_,
      alike_answer phaseView_shown (hretain task) hrun _⟩
    simp only [advance, hphase', eq_delivery hrun htask, Option.map_some, if_true]
  | unscheduled hphase htask =>
    have hphase' := eq_of_shown hrun hphase (by simp [AccountPhase.shown])
    refine ⟨server'.answer number run' .failed, ?_, alike_answer phaseView_shown hsame hrun _⟩
    simp only [advance, hphase', eq_delivery hrun htask, Option.map_some]
    rfl
  | _ => cases hkept

/-- A step that no account decides is one of every service that is shown to be alike. -/
theorem alike_step (hsame : server.through .shown = server'.through .shown)
    {e : AccountServerEvent} (hkept : e.kept = true)
    (h : server.step folding dependencies e = some after) :
    ∃ after', server'.step folding dependencies e = some after' ∧
      after.through .shown = after'.through .shown := by
  have hcounters : server.db.authRateLimits = server'.db.authRateLimits :=
    congrArg SeenAccounts.authRateLimits hsame
  cases e with
  | arrives number request limited now =>
    obtain ⟨hnone, ⟨⟩⟩ := Option.ite_none_right_eq_some.1 h
    have hruns := congrArg Option.isNone (congrFun (congrArg SeenAccounts.runs hsame) number)
    simp only [through, Option.isNone_map] at hruns
    exact ⟨_, if_pos (hruns.symm.trans hnone), alike_enter hsame rfl⟩
  | attempt number key =>
    obtain ⟨run, hrun, h⟩ := Option.bind_eq_some_iff.1 h
    obtain ⟨input, hinput, h⟩ := Option.bind_eq_some_iff.1 h
    obtain ⟨run', hrun', hview⟩ := exists_run hsame hrun
    have hinput' : run'.attempt? key = some input :=
      (congrArg (·.attempt? key) hview).symm.trans hinput
    cases hattempt : takeRateLimitAttempt server.db.authRateLimits input with
    | ok answer =>
      obtain ⟨attempt, authRateLimits⟩ := answer
      rw [hattempt] at h
      obtain rfl := Option.some.inj h
      refine ⟨_, ?_, alike_attempted phaseView_shown (alike_setCounters hsame _) hview key _⟩
      simp only [step, hrun', hinput', ← hcounters, hattempt, Option.bind_eq_bind, Option.bind_some]
    | error error =>
      rw [hattempt] at h
      obtain rfl := Option.some.inj h
      refine ⟨_, ?_, alike_attempted phaseView_shown hsame hview key _⟩
      simp only [step, hrun', hinput', ← hcounters, hattempt, Option.bind_eq_bind, Option.bind_some]
  | attemptFails number key =>
    obtain ⟨run, hrun, h⟩ := Option.bind_eq_some_iff.1 h
    obtain ⟨input, hinput, h⟩ := Option.bind_eq_some_iff.1 h
    obtain rfl := Option.some.inj h
    obtain ⟨run', hrun', hview⟩ := exists_run hsame hrun
    have hinput' : run'.attempt? key = some input :=
      (congrArg (·.attempt? key) hview).symm.trans hinput
    refine ⟨_, ?_, alike_attempted phaseView_shown hsame hview key _⟩
    simp only [step, hrun', hinput', Option.bind_eq_bind, Option.bind_some]
  | nicknameAttempt keyHash now =>
    simp only [step] at h ⊢
    rw [← hcounters]
    cases hattempt : takeRateLimitAttempt server.db.authRateLimits
      { keyHash, kind := "nickname", now := some now, windowMs := AccountPolicies.nickname.windowMs
        limit := AccountPolicies.nickname.limit } with
    | ok answer =>
      obtain ⟨attempt, authRateLimits⟩ := answer
      rw [hattempt] at h
      obtain rfl := Option.some.inj h
      exact ⟨_, rfl, alike_setCounters hsame _⟩
    | error error =>
      rw [hattempt] at h
      obtain rfl := Option.some.inj h
      exact ⟨_, rfl, hsame⟩
  | cleanupDeletes key =>
    obtain rfl := Option.some.inj h
    refine ⟨_, rfl, ?_⟩
    rw [← hcounters]
    exact alike_setCounters hsame _
  | hashes number | schedules number =>
    obtain ⟨run, hrun, h⟩ := Option.bind_eq_some_iff.1 h
    obtain ⟨run', hrun', hview⟩ := exists_run hsame hrun
    obtain ⟨after', hafter, hsame⟩ := alike_advance hsame hview rfl h
    exact ⟨after', Option.bind_eq_some_iff.2 ⟨run', hrun', hafter⟩, hsame⟩
  | _ => cases hkept

theorem mirrors (folding : CaseFolding) (dependencies : AccountServiceDependencies) :
    Mirrors (StepOf (step folding dependencies)) (through .shown) AccountServerEvent.kept where
  kept hsame hkept hstep := alike_step hsame hkept hstep
  dropped := shown_of_dropped

/-! ## Steps that are seen -/

/-- A password is hashed unseen. -/
theorem seen_hashes (hrun : server.runs number = some run) {passwordHash : String}
    (h : server.advance folding dependencies number run (.hashes number (some passwordHash)) =
      some after) :
    after.through .seen = server.through .seen := by
  have hworks : (server.works number).through .seen = server.through .seen := rfl
  cases advanced h with
  | hashedReset hphase hrequest =>
    exact through_enter_of_same hworks hrun
      (by rw [AccountRun.through, AccountRun.through, hphase, hrequest]; rfl)
  | hashed hphase =>
    exact through_enter_of_same hworks hrun
      (by rw [AccountRun.through, AccountRun.through, hphase]; rfl)

theorem seen_of_hidden {e : AccountServerEvent} (hlabel : e.seen? = none)
    (h : server.step folding dependencies e = some after) :
    after.through .seen = server.through .seen := by
  cases hkept : e.kept with
  | false => exact seen_of_shown (shown_of_dropped hkept h)
  | true =>
    cases e with
    | hashes number passwordHash =>
      obtain ⟨run, hrun, h⟩ := Option.bind_eq_some_iff.1 h
      cases passwordHash with
      | none => cases hlabel
      | some passwordHash => exact seen_hashes hrun h
    | arrives | attempt | attemptFails | schedules | nicknameAttempt | cleanupDeletes =>
      cases hlabel
    | _ => cases hkept

/-- A step that is seen is one of the service without accounts. -/
theorem seen_step {e : AccountServerEvent} {label : SeenAccountEvent}
    (hlabel : e.seen? = some label)
    (h : server.step folding dependencies e = some after) :
    (server.through .seen).step label = some (after.through .seen) := by
  have hcounters : (server.through .seen).authRateLimits = server.db.authRateLimits := rfl
  cases e with
  | arrives number request limited now =>
    obtain rfl := Option.some.inj hlabel
    obtain ⟨-, ⟨⟩⟩ := Option.ite_none_right_eq_some.1 h
    have hphase : (if request.limit?.isSome then AccountPhase.limiting true
        else request.admitted).seen request =
        if request.limit?.isSome then .limiting true else request.admitted.seen request := by
      split <;> rfl
    rw [through_enter, SeenAccounts.step, AccountRun.through, hphase]
  | attempt number key =>
    obtain rfl := Option.some.inj hlabel
    obtain ⟨run, hrun, h⟩ := Option.bind_eq_some_iff.1 h
    obtain ⟨input, hinput, h⟩ := Option.bind_eq_some_iff.1 h
    refine Option.bind_eq_some_iff.2 ⟨run.through .seen, through_run hrun, ?_⟩
    refine Option.bind_eq_some_iff.2 ⟨input, hinput, ?_⟩
    rw [hcounters]
    cases hattempt : takeRateLimitAttempt server.db.authRateLimits input with
    | ok answer =>
      obtain ⟨attempt, authRateLimits⟩ := answer
      rw [hattempt] at h
      obtain rfl := Option.some.inj h
      rw [through_attempted phaseView_seen]
      rfl
    | error error =>
      rw [hattempt] at h
      obtain rfl := Option.some.inj h
      rw [through_attempted phaseView_seen]
      rfl
  | attemptFails number key =>
    obtain rfl := Option.some.inj hlabel
    obtain ⟨run, hrun, h⟩ := Option.bind_eq_some_iff.1 h
    obtain ⟨input, -, h⟩ := Option.bind_eq_some_iff.1 h
    obtain rfl := Option.some.inj h
    rw [through_attempted phaseView_seen, SeenAccounts.step, through_run hrun]
    rfl
  | hashes number passwordHash =>
    obtain ⟨run, hrun, h⟩ := Option.bind_eq_some_iff.1 h
    cases passwordHash with
    | none =>
      obtain rfl := Option.some.inj hlabel
      refine Option.map_eq_some_iff.2 ⟨run.through .seen, through_run hrun, ?_⟩
      cases advanced h with
      | hashFails => exact (through_answer phaseView_seen (server.works number) ..).symm
    | some passwordHash => cases hlabel
  | schedules number token accepted =>
    obtain rfl := Option.some.inj hlabel
    obtain ⟨run, hrun, h⟩ := Option.bind_eq_some_iff.1 h
    refine Option.map_eq_some_iff.2 ⟨run.through .seen, through_run hrun, ?_⟩
    cases advanced h with
    | scheduled => exact (through_answer phaseView_seen (server.retain number _) ..).symm
    | unscheduled => exact (through_answer phaseView_seen ..).symm
  | nicknameAttempt keyHash now =>
    obtain rfl := Option.some.inj hlabel
    simp only [step] at h
    rw [SeenAccounts.step, hcounters]
    cases hattempt : takeRateLimitAttempt server.db.authRateLimits
      { keyHash, kind := "nickname", now := some now, windowMs := AccountPolicies.nickname.windowMs
        limit := AccountPolicies.nickname.limit } with
    | ok answer =>
      obtain ⟨attempt, authRateLimits⟩ := answer
      rw [hattempt] at h
      obtain rfl := Option.some.inj h
      rfl
    | error error =>
      rw [hattempt] at h
      obtain rfl := Option.some.inj h
      rfl
  | cleanupDeletes key =>
    obtain rfl := Option.some.inj hlabel
    obtain rfl := Option.some.inj h
    rfl
  | _ => cases hlabel

/-- The service, seen so, is the service without accounts. -/
theorem unwinds (folding : CaseFolding) (dependencies : AccountServiceDependencies) :
    Unwinds (StepOf (step folding dependencies)) (through .seen) AccountServerEvent.seen? where
  hidden := seen_of_hidden
  seen hview hlabel hlabel' hstep hstep' := by
    have hseen := seen_step hlabel hstep
    rw [hview, seen_step hlabel' hstep'] at hseen
    exact (Option.some.inj hseen).symm

/-! ## Main result -/

/-- Whatever accounts there are, a request has the passwords hashed or verified that its kind takes;
and a service with other accounts and the same counters can go through the same steps, and whenever
it does, it answers the generic requests alike and turns the same requests away, whatever happens to
the accounts and however the deliveries come out. -/
theorem answers_independent (folding : CaseFolding) (dependencies : AccountServiceDependencies)
    {db db' : Database} (hcounters : db.authRateLimits = db'.authRateLimits)
    {events : List AccountServerEvent}
    (h : Run (StepOf (step folding dependencies)) (start db) events server) :
    (∀ answer ∈ server.answers, answer.After (server.worked.count answer.number)) ∧
      (∃ events' server', events'.filterMap AccountServerEvent.seen? =
          events.filterMap AccountServerEvent.seen? ∧
        Run (StepOf (step folding dependencies)) (start db') events' server') ∧
      ∀ events' server', events'.filterMap AccountServerEvent.seen? =
          events.filterMap AccountServerEvent.seen? →
        Run (StepOf (step folding dependencies)) (start db') events' server' →
        server'.answers.filter isSeen = server.answers.filter isSeen ∧
          server'.db.authRateLimits = server.db.authRateLimits := by
  have hstart : ∀ view, (start db).through view = (start db').through view :=
    fun view => SeenAccounts.ext hcounters rfl rfl
  refine ⟨?_, ?_, fun events' server' hevents h' => ?_⟩
  · have hboth : Delivered server ∧ Worked server :=
      h.invariant (I := fun server => Delivered server ∧ Worked server)
        ⟨delivered_start db, worked_start db⟩
        fun hs hstep => ⟨hs.1.step (progress hstep), worked_step hs.2 hs.1 hstep⟩
    exact hboth.2.answers
  · obtain ⟨server', hrun, -⟩ := (mirrors folding dependencies).run (hstart _) h
    refine ⟨_, server', ?_, hrun⟩
    rw [List.filterMap_filter]
    refine List.filterMap_congr fun e _ => ?_
    cases hlabel : e.seen? with
    | none => exact ite_self _
    | some label => exact if_pos (AccountServerEvent.kept_of_seen hlabel)
  · have hend := (unwinds folding dependencies).run (hstart _).symm h' h hevents
    exact ⟨congrArg SeenAccounts.answers hend, congrArg SeenAccounts.authRateLimits hend⟩

/-- With an account a mail is sent, and without one it is not; the answer is the same. -/
theorem requestedReset_independent :
    ∃ server server',
      Run (StepOf (step PasswordSystem.plainFolding PasswordSystem.plainDependencies))
        (start PasswordSystem.resettableAccount) (requestedReset [.rotates 0, .delivers 0 (.ok ())])
        server ∧
      Run (StepOf (step PasswordSystem.plainFolding PasswordSystem.plainDependencies))
        (start AccountSystem.emptyDatabase) (requestedReset [.rotates 0]) server' ∧
      server.mail.length = 1 ∧ server'.mail.length = 0 ∧
      server'.answers.filter isSeen = server.answers.filter isSeen := by
  have hall : (runList (step PasswordSystem.plainFolding PasswordSystem.plainDependencies)
      (start PasswordSystem.resettableAccount)
      (requestedReset [.rotates 0, .delivers 0 (.ok ())])).any
      (fun server => server.mail.length = 1) = true := by decide +kernel
  have hall' : (runList (step PasswordSystem.plainFolding PasswordSystem.plainDependencies)
      (start AccountSystem.emptyDatabase) (requestedReset [.rotates 0])).any
      (fun server => server.mail.length = 0) = true := by decide +kernel
  obtain ⟨server, hrun, hmail⟩ := (Option.any_eq_true _ _).1 hall
  obtain ⟨server', hrun', hmail'⟩ := (Option.any_eq_true _ _).1 hall'
  have hreached := run_of_runList hrun
  have hreached' := run_of_runList hrun'
  have hcounters : PasswordSystem.resettableAccount.authRateLimits =
    AccountSystem.emptyDatabase.authRateLimits := rfl
  have hevents : (requestedReset [.rotates 0]).filterMap AccountServerEvent.seen? =
      (requestedReset [.rotates 0, .delivers 0 (.ok ())]).filterMap AccountServerEvent.seen? := rfl
  exact ⟨server, server', hreached, hreached', of_decide_eq_true hmail, of_decide_eq_true hmail',
    ((answers_independent _ _ hcounters hreached).2.2 _ _ hevents hreached').1⟩

end AccountServer

end RcOnline.Web
