import RcOnline.Web.AccountService
import RcOnline.Web.AccountTokensOnce

/-!
# Deliveries of the account service

A request is answered at most once, and mailed about at most once, after an answer that the mail is
due to (`mails_once`); an account is deleted at most once (`deleted_once`). Both hold over every
interleaving of any number of requests and deliveries.
-/

namespace RcOnline.Web

open RcOnline.Lib RcOnline.Accounts

/-- The answers that a mail may follow. -/
def mailsAfter : TransactionalEmailTemplateKind → AccountRequest → AccountResponse → Bool
  | .verification, .register .., .accepted => true
  | .verification, .resendVerification _, .accepted => true
  | .passwordReset, .requestPasswordReset _, .accepted => true
  | .passwordChanged, .resetPassword .., .reset => true
  | .accountDeleted, .deleteAccount _, .deleted => true
  | _, _, _ => false

/-- The mail of a delivery, if there is still one, may follow the answer. -/
def DeliveryTask.follows (task : DeliveryTask) (request : AccountRequest)
    (response : AccountResponse) : Bool :=
  task.kind?.all fun kind => mailsAfter kind request response

/-- The account that an answer reports as deleted. -/
def AccountAnswer.deleted? (answer : AccountAnswer) : Option Uuid :=
  match answer.request, answer.response with
  | .deleteAccount authenticatedSubject, .deleted => some authenticatedSubject
  | _, _ => none

namespace AccountServer

variable {folding : CaseFolding} {dependencies : AccountServiceDependencies}
  {server after : AccountServer} {number : Nat} {run : AccountRun}

/-! ## What a step does -/

/-- What a step does to requests, deliveries and mails. -/
inductive Progress (server after : AccountServer) : Prop where
  | idle : after.runs = server.runs → after.tasks = server.tasks → after.answers = server.answers →
      after.mail = server.mail → Progress server after
  | arrives {number : Nat} {run : AccountRun} : server.runs number = none →
      after.runs = Function.update server.runs number (some run) → run.phase ≠ .finished →
      after.tasks = server.tasks → after.answers = server.answers → after.mail = server.mail →
      Progress server after
  /-- A request goes on; one that is finished stays so. -/
  | enters {number : Nat} {run run' : AccountRun} : server.runs number = some run →
      after.runs = Function.update server.runs number (some run') →
      (run.phase = .finished → run'.phase = .finished) →
      after.tasks = server.tasks → after.answers = server.answers → after.mail = server.mail →
      Progress server after
  /-- A request is answered, and a delivery may be retained. -/
  | answers {number : Nat} {run run' : AccountRun} {response : AccountResponse} :
      server.runs number = some run → run.phase ≠ .finished →
      after.runs = Function.update server.runs number (some run') → run'.phase = .finished →
      after.answers = server.answers ++ [⟨number, run.request, response⟩] →
      (after.tasks = server.tasks ∨ ∃ task, task.follows run.request response = true ∧
        after.tasks = Function.update server.tasks number (some task)) →
      after.mail = server.mail → Progress server after
  /-- A delivery goes on. -/
  | delivers {number : Nat} {task task' : DeliveryTask} : server.tasks number = some task →
      task ≠ .finished →
      (∀ request response, task.follows request response = true →
        task'.follows request response = true) →
      after.runs = server.runs → after.tasks = Function.update server.tasks number (some task') →
      after.answers = server.answers → after.mail = server.mail → Progress server after
  | mails {number : Nat} {mail : AccountMail} : server.tasks number = some (.sending mail) →
      after.runs = server.runs →
      after.tasks = Function.update server.tasks number (some .finished) →
      after.answers = server.answers → after.mail = server.mail ++ [(number, mail)] →
      Progress server after

/-- Another server with the same requests, deliveries and mails. -/
structure Same (server server' : AccountServer) : Prop where
  runs : server'.runs = server.runs
  tasks : server'.tasks = server.tasks
  answers : server'.answers = server.answers
  mail : server'.mail = server.mail

variable {server' : AccountServer} {run' : AccountRun}

theorem Same.enters (h : Same server server') (hrun : server.runs number = some run)
    (hphase : run.phase = .finished → run'.phase = .finished) :
    Progress server (server'.enter number run') := by
  refine .enters hrun ?_ hphase h.tasks h.answers h.mail
  rw [enter, h.runs]

theorem Same.answers_run (h : Same server server') (hrun : server.runs number = some run)
    (hphase : run.phase ≠ .finished) (hrequest : run'.request = run.request)
    (response : AccountResponse) : Progress server (server'.answer number run' response) := by
  have hruns : (server'.answer number run' response).runs =
      Function.update server.runs number (some { run' with phase := .finished }) := by
    rw [answer, enter, h.runs]
  have hanswers : (server'.answer number run' response).answers =
      server.answers ++ [⟨number, run.request, response⟩] := by
    rw [answer, h.answers, hrequest]
  exact .answers hrun hphase hruns rfl hanswers (.inl h.tasks) h.mail

theorem Same.retains (h : Same server server') (hrun : server.runs number = some run)
    (hphase : run.phase ≠ .finished) {task : DeliveryTask} {response : AccountResponse}
    (htask : task.follows run.request response = true) :
    Progress server ((server'.retain number task).answer number run response) := by
  have hruns : ((server'.retain number task).answer number run response).runs =
      Function.update server.runs number (some { run with phase := .finished }) := by
    rw [answer, enter, retain, h.runs]
  have hanswers : ((server'.retain number task).answer number run response).answers =
      server.answers ++ [⟨number, run.request, response⟩] := by
    rw [answer, retain, h.answers]
  have htasks : ((server'.retain number task).answer number run response).tasks =
      Function.update server.tasks number (some task) := by
    rw [answer, enter, retain, h.tasks]
  exact .answers hrun hphase hruns rfl hanswers (.inr ⟨task, htask, htasks⟩) h.mail

theorem progress_attempted (hrun : server.runs number = some run) (key : RateLimitKey)
    (outcome : Option Bool) (h : Same server server') :
    Progress server (server'.attempted number (run.ended key) outcome) := by
  have hphase : (run.ended key).phase = run.phase := rfl
  have hrequest : (run.ended key).request = run.request := rfl
  unfold attempted
  rw [hphase]
  split
  · next hlimiting => exact h.answers_run hrun (by rw [hlimiting]; nofun) hrequest _
  · next before allowed hlimiting =>
    have hlive : run.phase ≠ .finished := by rw [hlimiting]; nofun
    dsimp only
    split
    · exact h.enters hrun fun hfinished => absurd hfinished hlive
    · split
      · exact h.enters hrun fun hfinished => absurd hfinished hlive
      · exact h.answers_run hrun hlive hrequest _
  · exact h.enters hrun fun hfinished => hfinished

theorem follows_of_delivery {passwordHash : Option String} {token : String} {task : DeliveryTask}
    {hashAccountToken : String → String}
    (h : delivery? folding hashAccountToken run passwordHash token = some task) :
    task.follows run.request .accepted = true := by
  unfold delivery? at h
  cases hrequest : run.request with
  | register email password legalRevision =>
    rw [hrequest] at h
    cases passwordHash with
    | none => cases h
    | some passwordHash =>
      obtain rfl := Option.some.inj h
      rfl
  | resendVerification email =>
    rw [hrequest] at h
    obtain rfl := Option.some.inj h
    rfl
  | requestPasswordReset email =>
    rw [hrequest] at h
    obtain rfl := Option.some.inj h
    rfl
  | _ =>
    rw [hrequest] at h
    cases h

theorem calls_live (h : run.calls = true) : run.phase ≠ .finished := by
  intro hfinished
  rw [AccountRun.calls, hfinished] at h
  cases h

theorem progress_advance (hrun : server.runs number = some run) {e : AccountServerEvent}
    (h : server.advance folding dependencies number run e = some after) :
    Progress server after := by
  have hsame : Same server server := ⟨rfl, rfl, rfl, rfl⟩
  have hworks : Same server (server.works number) := ⟨rfl, rfl, rfl, rfl⟩
  have hdb : ∀ db, Same server (server.setDb db) := fun _ => ⟨rfl, rfl, rfl, rfl⟩
  have hspend : ∀ token account db, Same server (server.spend token account db) :=
    fun _ _ _ => ⟨rfl, rfl, rfl, rfl⟩
  cases advanced h with
  | hashFails hphase | unverified hphase =>
    exact hworks.answers_run hrun (by simp [hphase]) rfl _
  | hashedReset hphase | hashed hphase | verified hphase =>
    exact hworks.enters hrun fun hfinished => by simp [hphase] at hfinished
  | scheduled hphase htask =>
    exact hsame.retains hrun (by simp [hphase]) (follows_of_delivery htask)
  | unscheduled hphase | consumeFails hphase | replaceFails hphase | createFails hphase
  | unloaded hphase => exact hsame.answers_run hrun (by simp [hphase]) rfl _
  | consumed hphase => exact (hspend _ _ _).answers_run hrun (by simp [hphase]) rfl _
  | unconsumed hphase | unreplaced hphase | created hphase | undeleted hphase =>
    exact (hdb _).answers_run hrun (by simp [hphase]) rfl _
  | replaced hphase hrequest =>
    split
    · exact (hspend _ _ _).retains hrun (by simp [hphase]) (by rw [hrequest]; rfl)
    · exact (hspend _ _ _).answers_run hrun (by simp [hphase]) rfl _
  | found hphase | loaded hphase =>
    exact hsame.enters hrun fun hfinished => by simp [hphase] at hfinished
  | deleted hphase hrequest =>
    have hreport : ∀ db signal, Same server ((server.setDb db).report number signal) :=
      fun _ _ => ⟨rfl, rfl, rfl, rfl⟩
    split
    · exact (hdb _).retains hrun (by simp [hphase]) (by rw [hrequest]; rfl)
    · exact (hreport _ _).answers_run hrun (by simp [hphase]) rfl _
  | storeFails hcalls => exact hsame.answers_run hrun (calls_live hcalls) rfl _

theorem progress_deliver {task : DeliveryTask} (htask : server.tasks number = some task)
    {e : AccountServerEvent} (h : server.deliver folding number task e = some after) :
    Progress server after := by
  cases delivery_moves h with
  | registered | rotated =>
    refine .delivers htask (by simp) ?_ rfl rfl rfl rfl
    exact fun _ _ hfollows => hfollows
  | turnedAway | unrotated => exact .delivers htask (by simp) (fun _ _ _ => rfl) rfl rfl rfl rfl
  | fails hkind =>
    have hlive : task ≠ .finished := by
      rintro rfl
      cases hkind
    exact .delivers htask hlive (fun _ _ _ => rfl) rfl rfl rfl rfl
  | mailed | unmailed => exact .mails htask rfl rfl rfl rfl

theorem progress {e : AccountServerEvent} (h : server.step folding dependencies e = some after) :
    Progress server after := by
  cases e with
  | arrives number request limited now =>
    obtain ⟨hnone, ⟨⟩⟩ := Option.ite_none_right_eq_some.1 h
    refine .arrives (Option.isNone_iff_eq_none.1 hnone) rfl ?_ rfl rfl rfl
    dsimp only
    split
    · nofun
    · cases request <;> nofun
  | attempt number key =>
    obtain ⟨run, hrun, h⟩ := Option.bind_eq_some_iff.1 h
    obtain ⟨input, -, h⟩ := Option.bind_eq_some_iff.1 h
    split at h
    · obtain rfl := Option.some.inj h
      exact progress_attempted hrun key _ ⟨rfl, rfl, rfl, rfl⟩
    · obtain rfl := Option.some.inj h
      exact progress_attempted hrun key _ ⟨rfl, rfl, rfl, rfl⟩
  | attemptFails number key =>
    obtain ⟨run, hrun, h⟩ := Option.bind_eq_some_iff.1 h
    obtain ⟨input, -, h⟩ := Option.bind_eq_some_iff.1 h
    obtain rfl := Option.some.inj h
    exact progress_attempted hrun key _ ⟨rfl, rfl, rfl, rfl⟩
  | nicknameAttempt | cleansUp =>
    simp only [step] at h
    split at h
    · obtain rfl := Option.some.inj h
      exact .idle rfl rfl rfl rfl
    · obtain rfl := Option.some.inj h
      exact .idle rfl rfl rfl rfl
  | cleanupDeletes key =>
    obtain rfl := Option.some.inj h
    exact .idle rfl rfl rfl rfl
  | elsewhere db =>
    obtain rfl := Option.some.inj h
    exact .idle rfl rfl rfl rfl
  | hashes number | schedules number | verifies number | consumes number | replaces number
  | finds number | creates number | loads number | deletes number | storeFails number =>
    obtain ⟨run, hrun, h⟩ := Option.bind_eq_some_iff.1 h
    exact progress_advance hrun h
  | registers number | rotates number | taskFails number | delivers number =>
    obtain ⟨task, htask, h⟩ := Option.bind_eq_some_iff.1 h
    exact progress_deliver htask h

/-! ## Answers and mails -/

/-- A request that is answered is finished, a delivery belongs to an answer that its mail may
follow, and a mail to a delivery that is over. -/
structure Delivered (server : AccountServer) : Prop where
  answers : (server.answers.map AccountAnswer.number).Nodup
  finished : ∀ answer ∈ server.answers, ∃ run, server.runs answer.number = some run ∧
    run.phase = .finished
  tasks : ∀ number task, server.tasks number = some task → ∃ answer ∈ server.answers,
    answer.number = number ∧ task.follows answer.request answer.response = true
  mails : (server.mail.map Prod.fst).Nodup
  mail : ∀ entry ∈ server.mail, server.tasks entry.1 = some .finished ∧
    ∃ answer ∈ server.answers, answer.number = entry.1 ∧
      mailsAfter entry.2.kind answer.request answer.response = true

theorem delivered_start (db : Database) : Delivered (start db) where
  answers := List.nodup_nil
  finished := by nofun
  tasks := by nofun
  mails := List.nodup_nil
  mail := by nofun

/-- A request that is not finished has no answer. -/
theorem Delivered.unanswered (h : Delivered server) (hrun : server.runs number = some run)
    (hlive : run.phase ≠ .finished) : ∀ answer ∈ server.answers, answer.number ≠ number := by
  rintro answer hmem rfl
  obtain ⟨run', hrun', hfinished⟩ := h.finished answer hmem
  obtain rfl := Option.some.inj (hrun.symm.trans hrun')
  exact hlive hfinished

/-- A task that is set follows an answer, if it does, and so do the others still. -/
theorem Delivered.follows_update (h : Delivered server) {answers : List AccountAnswer}
    (hkept : ∀ answer ∈ server.answers, answer ∈ answers) {task : DeliveryTask}
    (hnew : ∃ answer ∈ answers, answer.number = number ∧
      task.follows answer.request answer.response = true) {other : Nat} {found : DeliveryTask}
    (hfound : Function.update server.tasks number (some task) other = some found) :
    ∃ answer ∈ answers, answer.number = other ∧
      found.follows answer.request answer.response = true := by
  rw [Function.update_apply] at hfound
  split at hfound
  · next hnumber =>
    obtain rfl := Option.some.inj hfound
    exact hnumber ▸ hnew
  · obtain ⟨answer, hmem, hanswer⟩ := h.tasks other found hfound
    exact ⟨answer, hkept answer hmem, hanswer⟩

/-- Numbers stay distinct when one is added that is not among them. -/
theorem nodup_snoc {α : Type} {f : α → Nat} {l : List α} {a : α} (hl : (l.map f).Nodup)
    (hnew : ∀ b ∈ l, f b ≠ f a) : ((l ++ [a]).map f).Nodup := by
  rw [List.map_append, List.nodup_append]
  refine ⟨hl, List.nodup_singleton _, ?_⟩
  rintro _ hmem _ hlast rfl
  obtain ⟨b, hb, heq⟩ := List.mem_map.1 hmem
  exact hnew b hb (heq.trans (List.mem_singleton.1 hlast))

theorem Delivered.step (h : Delivered server) (hprogress : Progress server after) :
    Delivered after := by
  cases hprogress with
  | idle hruns htasks hanswers hmail =>
    exact ⟨hanswers ▸ h.answers, hanswers ▸ hruns ▸ h.finished, hanswers ▸ htasks ▸ h.tasks,
      hmail ▸ h.mails, hanswers ▸ htasks ▸ hmail ▸ h.mail⟩
  | @arrives number run hnone hruns _ htasks hanswers hmail =>
    refine ⟨hanswers ▸ h.answers, fun answer hmem => ?_, hanswers ▸ htasks ▸ h.tasks,
      hmail ▸ h.mails, hanswers ▸ htasks ▸ hmail ▸ h.mail⟩
    rw [hanswers] at hmem
    obtain ⟨run', hrun', hfinished⟩ := h.finished answer hmem
    have hother : answer.number ≠ number := by
      rintro rfl
      rw [hnone] at hrun'
      cases hrun'
    exact ⟨run', by rw [hruns, Function.update_of_ne hother, hrun'], hfinished⟩
  | @enters number run run' hrun hruns hstays htasks hanswers hmail =>
    refine ⟨hanswers ▸ h.answers, fun answer hmem => ?_, hanswers ▸ htasks ▸ h.tasks,
      hmail ▸ h.mails, hanswers ▸ htasks ▸ hmail ▸ h.mail⟩
    rw [hanswers] at hmem
    obtain ⟨found, hfound, hfinished⟩ := h.finished answer hmem
    by_cases hnumber : answer.number = number
    · rw [hnumber, hrun] at hfound
      obtain rfl := Option.some.inj hfound
      exact ⟨run', by rw [hruns, hnumber, Function.update_self], hstays hfinished⟩
    · exact ⟨found, by rw [hruns, Function.update_of_ne hnumber, hfound], hfinished⟩
  | @answers number run run' response hrun hlive hruns hfinished hanswers htasks hmail =>
    have hnew := h.unanswered hrun hlive
    have hfresh : ∀ task, server.tasks number ≠ some task := by
      intro task htask
      obtain ⟨answer, hmem, hnumber, -⟩ := h.tasks number task htask
      exact hnew answer hmem hnumber
    have hkept : ∀ answer ∈ server.answers, answer ∈ after.answers := fun answer hmem =>
      hanswers ▸ List.mem_append_left _ hmem
    have hlast : ⟨number, run.request, response⟩ ∈ after.answers :=
      hanswers ▸ List.mem_append_right _ (List.mem_singleton_self _)
    refine ⟨?_, ?_, ?_, hmail ▸ h.mails, ?_⟩
    · rw [hanswers]
      exact nodup_snoc h.answers hnew
    · intro answer hmem
      rw [hanswers] at hmem
      rcases List.mem_append.1 hmem with hmem | hmem
      · obtain ⟨found, hfound, hphase⟩ := h.finished answer hmem
        exact ⟨found, by rw [hruns, Function.update_of_ne (hnew answer hmem), hfound], hphase⟩
      · obtain rfl := List.mem_singleton.1 hmem
        exact ⟨run', by rw [hruns, Function.update_self], hfinished⟩
    · intro other task htask
      rcases htasks with heq | ⟨retained, hfollows, heq⟩
      · rw [heq] at htask
        obtain ⟨answer, hmem, hanswer⟩ := h.tasks other task htask
        exact ⟨answer, hkept answer hmem, hanswer⟩
      · rw [heq] at htask
        exact h.follows_update hkept ⟨_, hlast, rfl, hfollows⟩ htask
    · intro entry hmem
      rw [hmail] at hmem
      obtain ⟨htask, answer, hanswer, hdue⟩ := h.mail entry hmem
      refine ⟨?_, answer, hkept answer hanswer, hdue⟩
      rcases htasks with heq | ⟨retained, -, heq⟩
      · rw [heq, htask]
      · have hother : entry.1 ≠ number := fun hnumber => hfresh _ (hnumber ▸ htask)
        rw [heq, Function.update_of_ne hother, htask]
  | @delivers number task task' htask hlive hfollows hruns htasks hanswers hmail =>
    refine ⟨hanswers ▸ h.answers, hanswers ▸ hruns ▸ h.finished, ?_, hmail ▸ h.mails, ?_⟩
    · intro other found hfound
      rw [htasks] at hfound
      rw [hanswers]
      obtain ⟨answer, hmem, hanswer, hdue⟩ := h.tasks number task htask
      exact h.follows_update (fun _ hmem => hmem) ⟨answer, hmem, hanswer, hfollows _ _ hdue⟩ hfound
    · intro entry hmem
      rw [hmail] at hmem
      obtain ⟨hover, hanswer⟩ := h.mail entry hmem
      have hother : entry.1 ≠ number := by
        rintro rfl
        exact hlive (Option.some.inj (htask.symm.trans hover))
      rw [hanswers, htasks, Function.update_of_ne hother]
      exact ⟨hover, hanswer⟩
  | @mails number mail htask hruns htasks hanswers hmail =>
    obtain ⟨answer, hmem, hanswer, hdue⟩ := h.tasks number _ htask
    have hunmailed : ∀ entry ∈ server.mail, entry.1 ≠ number := by
      rintro entry hentry rfl
      have hover := htask.symm.trans (h.mail entry hentry).1
      cases hover
    refine ⟨hanswers ▸ h.answers, hanswers ▸ hruns ▸ h.finished, ?_, ?_, ?_⟩
    · intro other found hfound
      rw [htasks] at hfound
      rw [hanswers]
      exact h.follows_update (fun _ hmem => hmem) ⟨answer, hmem, hanswer, rfl⟩ hfound
    · rw [hmail]
      exact nodup_snoc h.mails hunmailed
    · intro entry hentry
      rw [hmail] at hentry
      rw [hanswers, htasks]
      rcases List.mem_append.1 hentry with hentry | hentry
      · rw [Function.update_of_ne (hunmailed entry hentry)]
        exact h.mail entry hentry
      · obtain rfl := List.mem_singleton.1 hentry
        exact ⟨Function.update_self .., answer, hmem, hanswer, hdue⟩

/-- In every run a request is answered at most once and mailed about at most once, and a mail
follows an answer that it is due to. -/
theorem mails_once (folding : CaseFolding) (dependencies : AccountServiceDependencies)
    (db : Database) {events : List AccountServerEvent}
    (h : Run (StepOf (step folding dependencies)) (start db) events server) :
    (server.answers.map AccountAnswer.number).Nodup ∧ (server.mail.map Prod.fst).Nodup ∧
      ∀ entry ∈ server.mail, ∃ answer ∈ server.answers, answer.number = entry.1 ∧
        mailsAfter entry.2.kind answer.request answer.response = true := by
  have hdelivered : Delivered server :=
    h.invariant (delivered_start db) fun hs hstep => hs.step (progress hstep)
  exact ⟨hdelivered.answers, hdelivered.mails, fun entry hmem => (hdelivered.mail entry hmem).2⟩

/-- A reset is requested for an address, and its delivery looks the address up. -/
def requestedReset (delivery : List AccountServerEvent) : List AccountServerEvent :=
  let keyHash := String.ofList (List.replicate 64 'a')
  [.arrives 0 (.requestPasswordReset "ada@example.com") ⟨keyHash, keyHash⟩ 1000,
    .attempt 0 .account,
    .attempt 0 .ip, .schedules 0 "raw" true] ++ delivery

theorem requestedReset_mailed :
    ∃ server, Run (StepOf (step PasswordSystem.plainFolding PasswordSystem.plainDependencies))
        (start PasswordSystem.resettableAccount) (requestedReset [.rotates 0, .delivers 0 (.ok ())])
        server ∧
      server.mail.length = 1 ∧
      ∀ entry ∈ server.mail, ∃ answer ∈ server.answers, answer.number = entry.1 ∧
        mailsAfter entry.2.kind answer.request answer.response = true := by
  have hall : (runList (step PasswordSystem.plainFolding PasswordSystem.plainDependencies)
      (start PasswordSystem.resettableAccount)
      (requestedReset [.rotates 0, .delivers 0 (.ok ())])).any
      (fun server => server.mail.length = 1) = true := by decide +kernel
  obtain ⟨server, hrun, hmail⟩ := (Option.any_eq_true _ _).1 hall
  have hreached := run_of_runList hrun
  exact ⟨server, hreached, of_decide_eq_true hmail, (mails_once _ _ _ hreached).2.2⟩

/-! ## Deletions -/

/-- The account has a row, and it is disabled. -/
def Closed (db : Database) (subject : Uuid) : Prop :=
  ∃ user ∈ db.users.rows, user.id = subject ∧ user.disabledAt.isSome = true

/-- The rows of disabled users stay. -/
def Stays (db db' : Database) : Prop :=
  ∀ user ∈ db.users.rows, user.disabledAt.isSome = true → user ∈ db'.users.rows

variable {db db' : Database}

theorem Stays.closed (h : Stays db db') {subject : Uuid} (hclosed : Closed db subject) :
    Closed db' subject := by
  obtain ⟨user, hmem, hid, hdisabled⟩ := hclosed
  exact ⟨user, h user hmem hdisabled, hid, hdisabled⟩

theorem Stays.of_users (h : db'.users = db.users) : Stays db db' := fun _ hmem _ => h ▸ hmem

theorem createSession_stays {session created : AuthSession}
    (h : createSession db session = .ok (created, db')) : Stays db db' := by
  have husers := congrArg Database.users (createSession_eq_ok h).2.2
  exact .of_users husers

/-- A user that is deleted is enabled. -/
theorem cleanup_stays {now : Int} {batchSize : Number} {choice : CleanupChoice}
    {result : AccountCleanupResult}
    (h : cleanupExpiredAccountData db now batchSize choice = .ok (result, db')) : Stays db db' := by
  obtain ⟨expired, ids, hcleans⟩ := cleansUp_of_ok h
  intro user hmem hdisabled
  rw [hcleans.users]
  refine Table.mem_delete.2 ⟨hmem, decide_eq_false fun hdeleted => ?_⟩
  rw [hcleans.enabled user hmem hdeleted] at hdisabled
  cases hdisabled

theorem deleteOwnAccount_stays (db : Database) (subject : Uuid) (disabledAt : Int)
    (deletedUuid : Uuid) : Stays db (deleteOwnAccount db subject disabledAt deletedUuid).2 :=
  mem_of_update_enabled (fun user hown => by simp_all) rfl

/-- An account that is deleted was open, and is closed. -/
theorem deleteOwnAccount_closes {subject : Uuid} {disabledAt : Int} {deletedUuid : Uuid}
    (h : (deleteOwnAccount db subject disabledAt deletedUuid).1 = true) :
    ¬ Closed db subject ∧
      Closed (deleteOwnAccount db subject disabledAt deletedUuid).2 subject := by
  obtain ⟨user, hmem, hown⟩ := List.any_eq_true.1 h
  obtain ⟨hid, henabled⟩ := Bool.and_eq_true_iff.1 hown
  refine ⟨?_, ?_⟩
  · rintro ⟨other, hother, hid', hdisabled⟩
    obtain rfl := db.users.eq_of_key hother hmem (hid'.trans (of_decide_eq_true hid).symm)
    rw [Option.isNone_iff_eq_none.1 henabled] at hdisabled
    cases hdisabled
  · exact ⟨_, List.mem_map.2 ⟨user, hmem, patch_of hown⟩, of_decide_eq_true hid, rfl⟩

/-- The condition on a step: other parts of the application open no account that is closed. -/
def KeptStep (folding : CaseFolding) (dependencies : AccountServiceDependencies)
    (server : AccountServer) (e : AccountServerEvent) (after : AccountServer) : Prop :=
  (∀ db, e = .elsewhere db → ∀ subject, Closed server.db subject → Closed db subject) ∧
    server.step folding dependencies e = some after

/-- The accounts that have been reported as deleted. -/
def deletions (server : AccountServer) : List Uuid :=
  server.answers.filterMap AccountAnswer.deleted?

/-- What a step does to closed accounts. -/
inductive Closes (server after : AccountServer) : Prop where
  | keeps : (∀ subject, Closed server.db subject → Closed after.db subject) →
      after.deletions = server.deletions → Closes server after
  | closes {subject : Uuid} : (∀ subject, Closed server.db subject → Closed after.db subject) →
      ¬ Closed server.db subject → Closed after.db subject →
      after.deletions = server.deletions ++ [subject] → Closes server after

theorem deletions_answer (server : AccountServer) (number : Nat) (run : AccountRun)
    (response : AccountResponse) :
    (server.answer number run response).deletions =
      server.deletions ++ [⟨number, run.request, response⟩].filterMap AccountAnswer.deleted? :=
  List.filterMap_append

/-- Another server with the same answers, in whose database the rows of disabled users stay. -/
structure Kept (server server' : AccountServer) : Prop where
  stays : Stays server.db server'.db
  answers : server'.answers = server.answers

theorem Kept.keeps (h : Kept server after) : Closes server after :=
  .keeps (fun _ => h.stays.closed) (congrArg (·.filterMap AccountAnswer.deleted?) h.answers)

theorem Kept.retain (h : Kept server server') (number : Nat) (task : DeliveryTask) :
    Kept server (server'.retain number task) := ⟨h.stays, h.answers⟩

theorem Kept.enter (h : Kept server server') (number : Nat) (run : AccountRun) :
    Kept server (server'.enter number run) := ⟨h.stays, h.answers⟩

theorem Kept.answer (h : Kept server server') (number : Nat) (run : AccountRun)
    {response : AccountResponse} (hresponse : response ≠ .deleted) :
    Closes server (server'.answer number run response) := by
  refine .keeps (fun _ => h.stays.closed) ?_
  have hnone : (⟨number, run.request, response⟩ : AccountAnswer).deleted? = none := by
    unfold AccountAnswer.deleted?
    split
    · next hdeleted => exact absurd hdeleted hresponse
    · rfl
  rw [deletions_answer, List.filterMap_cons_none hnone, List.filterMap_nil, List.append_nil,
    deletions, h.answers, deletions]

theorem Kept.deleted (h : Kept server server') (number : Nat) {subject : Uuid}
    (hrequest : run.request = .deleteAccount subject) (hopen : ¬ Closed server.db subject)
    (hclosed : Closed server'.db subject) : Closes server (server'.answer number run .deleted) := by
  refine .closes (fun _ => h.stays.closed) hopen hclosed ?_
  have hdeleted : (⟨number, run.request, .deleted⟩ : AccountAnswer).deleted? = some subject := by
    rw [AccountAnswer.deleted?, hrequest]
  rw [deletions_answer, List.filterMap_cons_some hdeleted, List.filterMap_nil, deletions, h.answers,
    deletions]

theorem Kept.attempted (h : Kept server server') (number : Nat) (run : AccountRun)
    (outcome : Option Bool) : Closes server (server'.attempted number run outcome) := by
  unfold AccountServer.attempted
  split
  · exact h.answer number run nofun
  · dsimp only
    split
    · exact (h.enter number _).keeps
    · split
      · exact (h.enter number _).keeps
      · exact h.answer number run nofun
  · exact (h.enter number _).keeps

theorem closes_advance {e : AccountServerEvent}
    (h : server.advance folding dependencies number run e = some after) : Closes server after := by
  have hsame : Kept server server := ⟨.of_users rfl, rfl⟩
  have hworks : Kept server (server.works number) := ⟨.of_users rfl, rfl⟩
  have hdb : ∀ {db}, Stays server.db db → Kept server (server.setDb db) := fun h => ⟨h, rfl⟩
  have hspend : ∀ {db}, Stays server.db db → ∀ token account,
      Kept server (server.spend token account db) := fun h _ _ => ⟨h, rfl⟩
  cases advanced h with
  | hashFails | unverified => exact hworks.answer number run (by simp)
  | hashedReset | hashed | verified => exact (hworks.enter number _).keeps
  | scheduled => exact (hsame.retain number _).answer number run (by simp)
  | unscheduled | consumeFails | replaceFails | createFails | unloaded | storeFails =>
    exact hsame.answer number run (by simp)
  | consumed _ _ hstore =>
    exact (hspend (consumeActionToken_spares hstore).users _ _).answer number run (by simp)
  | unconsumed _ _ hstore =>
    exact (hdb (consumeActionToken_spares hstore).users).answer number run (by simp)
  | replaced _ _ hstore =>
    have hused := hspend (replacePasswordAndRevokeSessions_spares hstore).users
    split
    · exact ((hused _ _).retain number _).answer number run (by simp)
    · exact (hused _ _).answer number run (by simp)
  | unreplaced _ _ hstore =>
    exact (hdb (replacePasswordAndRevokeSessions_spares hstore).users).answer number run (by simp)
  | found | loaded => exact (hsame.enter number _).keeps
  | created _ _ hstore => exact (hdb (createSession_stays hstore)).answer number run (by simp)
  | @deleted _ disabledAt deletedUuid _ _ subject _ _ hrequest hdelete =>
    have hstays := deleteOwnAccount_stays server.db subject disabledAt deletedUuid
    obtain ⟨hopen, hclosed⟩ := deleteOwnAccount_closes (congrArg Prod.fst hdelete)
    rw [hdelete] at hstays hclosed
    have hreport : ∀ signal, Kept server ((server.setDb _).report number signal) :=
      fun _ => ⟨hstays, rfl⟩
    split
    · exact ((hdb hstays).retain number _).deleted number hrequest hopen hclosed
    · exact (hreport _).deleted number hrequest hopen hclosed
  | @undeleted _ disabledAt deletedUuid _ _ subject _ _ _ hdelete =>
    have hstays := deleteOwnAccount_stays server.db subject disabledAt deletedUuid
    rw [hdelete] at hstays
    exact (hdb hstays).answer number run (by simp)

theorem closes_deliver {task : DeliveryTask} {e : AccountServerEvent}
    (h : server.deliver folding number task e = some after) : Closes server after := by
  cases delivery_moves h with
  | registered hstore =>
    exact .keeps (fun _ => Stays.closed (registerPendingAccount_spares hstore).users) rfl
  | rotated hstore | unrotated hstore =>
    exact .keeps (fun _ => Stays.closed (createOrRotateActionToken_spares hstore).users) rfl
  | turnedAway | fails | mailed | unmailed => exact .keeps (fun _ hclosed => hclosed) rfl

theorem closes {e : AccountServerEvent} (h : KeptStep folding dependencies server e after) :
    Closes server after := by
  obtain ⟨hkept, h⟩ := h
  have hsame : Kept server server := ⟨.of_users rfl, rfl⟩
  have hcounters : ∀ authRateLimits, Kept server (server.setCounters authRateLimits) :=
    fun _ => ⟨.of_users rfl, rfl⟩
  cases e with
  | arrives number request limited now =>
    obtain ⟨-, ⟨⟩⟩ := Option.ite_none_right_eq_some.1 h
    exact (hsame.enter number _).keeps
  | attempt number key =>
    obtain ⟨run, hrun, h⟩ := Option.bind_eq_some_iff.1 h
    obtain ⟨input, -, h⟩ := Option.bind_eq_some_iff.1 h
    split at h
    · obtain rfl := Option.some.inj h
      exact (hcounters _).attempted number _ _
    · obtain rfl := Option.some.inj h
      exact hsame.attempted number _ _
  | attemptFails number key =>
    obtain ⟨run, hrun, h⟩ := Option.bind_eq_some_iff.1 h
    obtain ⟨input, -, h⟩ := Option.bind_eq_some_iff.1 h
    obtain rfl := Option.some.inj h
    exact hsame.attempted number _ _
  | nicknameAttempt keyHash now =>
    simp only [step] at h
    split at h
    · obtain rfl := Option.some.inj h
      exact (hcounters _).keeps
    · obtain rfl := Option.some.inj h
      exact hsame.keeps
  | cleansUp now batchSize choice =>
    simp only [step] at h
    split at h
    · next db hok =>
      obtain rfl := Option.some.inj h
      have hstays : Stays server.db db := cleanup_stays hok
      exact .keeps (fun _ => hstays.closed) rfl
    · obtain rfl := Option.some.inj h
      exact hsame.keeps
  | cleanupDeletes key =>
    obtain rfl := Option.some.inj h
    exact (hcounters _).keeps
  | elsewhere db =>
    obtain rfl := Option.some.inj h
    exact .keeps (hkept db rfl) rfl
  | hashes number | schedules number | verifies number | consumes number | replaces number
  | finds number | creates number | loads number | deletes number | storeFails number =>
    obtain ⟨run, hrun, h⟩ := Option.bind_eq_some_iff.1 h
    exact closes_advance h
  | registers number | rotates number | taskFails number | delivers number =>
    obtain ⟨task, htask, h⟩ := Option.bind_eq_some_iff.1 h
    exact closes_deliver h

/-- In every run an account is reported as deleted at most once, and is closed from then on. -/
theorem deleted_once (folding : CaseFolding) (dependencies : AccountServiceDependencies)
    (db : Database) {events : List AccountServerEvent}
    (h : Run (KeptStep folding dependencies) (start db) events server) :
    server.deletions.Nodup ∧ ∀ subject ∈ server.deletions, Closed server.db subject := by
  refine h.invariant (I := fun server => server.deletions.Nodup ∧
    ∀ subject ∈ server.deletions, Closed server.db subject) ⟨List.nodup_nil, by nofun⟩ ?_
  rintro server after e ⟨hnodup, hclosed⟩ hstep
  cases closes hstep with
  | keeps hkeeps heq =>
    rw [heq]
    exact ⟨hnodup, fun subject hmem => hkeeps subject (hclosed subject hmem)⟩
  | @closes subject hkeeps hopen hnow heq =>
    rw [heq]
    refine ⟨?_, fun other hmem => ?_⟩
    · rw [List.nodup_append]
      refine ⟨hnodup, List.nodup_singleton _, ?_⟩
      rintro other hmem _ hlast rfl
      exact hopen (hclosed _ (List.mem_singleton.1 hlast ▸ hmem))
    · rcases List.mem_append.1 hmem with hmem | hmem
      · exact hkeeps other (hclosed other hmem)
      · exact List.mem_singleton.1 hmem ▸ hnow

def deletableAccount : Database where
  users := PasswordSystem.resettableAccount.users
  oauthIdentities := .empty
  authSessions := .empty
  passwordCredentials := PasswordSystem.resettableAccount.passwordCredentials
  accountActionTokens := .empty
  accountBalances := .empty
  nicknames := ⟨[⟨"ada", "Driver-ada", "racer-red"⟩], by decide⟩
  consents := .empty
  authRateLimits := .empty

/-- Two requests have both found the account when the first deletes it. -/
def deletedTwice : List AccountServerEvent :=
  let ipKeyHash := String.ofList (List.replicate 64 'a')
  let accountKeyHash := String.ofList (List.replicate 64 'b')
  [.arrives 0 (.deleteAccount "ada") ⟨ipKeyHash, accountKeyHash⟩ 1000, .attempt 0 .ip,
    .arrives 1 (.deleteAccount "ada") ⟨ipKeyHash, accountKeyHash⟩ 1000, .attempt 1 .account,
    .attempt 0 .account, .loads 0, .attempt 1 .ip, .loads 1, .deletes 0 1001 "gone" true,
    .deletes 1 1002 "again" true, .delivers 0 (.ok ())]

theorem deletedTwice_once :
    ∃ server, Run (KeptStep PasswordSystem.plainFolding PasswordSystem.plainDependencies)
        (start deletableAccount) deletedTwice server ∧
      server.deletions = ["ada"] ∧ Closed server.db "ada" := by
  have hall : (runList (step PasswordSystem.plainFolding PasswordSystem.plainDependencies)
      (start deletableAccount) deletedTwice).any
      (fun server => server.deletions = ["ada"]) = true := by decide +kernel
  obtain ⟨server, hrun, hdeletions⟩ := (Option.any_eq_true _ _).1 hall
  have hreached : Run (KeptStep PasswordSystem.plainFolding PasswordSystem.plainDependencies)
      (start deletableAccount) deletedTwice server := by
    refine (run_of_runList hrun).mono_of_mem fun hmem hstep => ⟨?_, hstep⟩
    rintro db rfl
    simp [deletedTwice] at hmem
  have hada := of_decide_eq_true hdeletions
  exact ⟨server, hreached, hada, (deleted_once _ _ _ hreached).2 _ (by rw [hada]; simp)⟩

end AccountServer

end RcOnline.Web
