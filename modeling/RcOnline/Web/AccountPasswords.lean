import RcOnline.Web.AccountDeliveries

/-!
# Passwords of account requests

To hash or verify a password takes time that anyone can measure. A request has as many hashed or
verified as its kind takes before it is answered, a sign-in to an unknown address too, unless it is
turned away or fails (`Worked`).
-/

namespace RcOnline.Web

open RcOnline.Lib RcOnline.Accounts

/-! ## What a request takes -/

/-- The passwords that are hashed or verified for a request. -/
def AccountRequest.work : AccountRequest → Nat
  | .register .. | .resetPassword .. | .signInPassword .. => 1
  | _ => 0

/-- How many of them have been when a request waits for this. -/
def AccountPhase.work (request : AccountRequest) : AccountPhase → Nat
  | .limiting _ | .hashing | .finding | .verifying _ => 0
  | _ => request.work

/-- An answer may come after so many passwords: after those that its request takes, unless this is
turned away or fails. -/
def AccountAnswer.After (answer : AccountAnswer) (passwords : Nat) : Prop :=
  match answer.response with
  | .rateLimited => passwords = 0
  | .failed => passwords ≤ answer.request.work
  | _ => passwords = answer.request.work

/-- A request has had so many passwords hashed or verified; only one that takes a password waits for
a hash. -/
def AccountRun.After (run : AccountRun) (passwords : Nat) : Prop :=
  (run.phase ≠ .finished → passwords = run.phase.work run.request) ∧
    (run.phase = .hashing → run.request.work = 1)

theorem AccountPhase.work_le (request : AccountRequest) (phase : AccountPhase) :
    phase.work request ≤ request.work := by
  cases phase with
  | limiting | hashing | finding | verifying => exact Nat.zero_le _
  | _ => exact Nat.le_refl _

theorem AccountRequest.work_admitted (request : AccountRequest) :
    request.admitted.work request = 0 := by cases request <;> rfl

theorem AccountRequest.work_of_hashing {request : AccountRequest}
    (h : request.admitted = .hashing) : request.work = 1 := by
  cases request with
  | register | resetPassword => rfl
  | _ => cases h

theorem AccountRun.after_start (request : AccountRequest) (limited : RateLimitedInput) (now : Int)
    (pending : RateLimitKey → Bool) :
    AccountRun.After
      { request, limited, now, pending
        phase := if request.limit?.isSome then .limiting true else request.admitted } 0 := by
  unfold AccountRun.After
  dsimp only
  split
  · exact ⟨fun _ => rfl, nofun⟩
  · exact ⟨fun _ => (AccountRequest.work_admitted request).symm, AccountRequest.work_of_hashing⟩

namespace AccountServer

variable {folding : CaseFolding} {dependencies : AccountServiceDependencies}
  {server server' after : AccountServer} {number : Nat} {run : AccountRun}

/-! ## Steps -/

/-- Every request has had the passwords hashed or verified that it has come past. -/
structure Worked (server : AccountServer) : Prop where
  fresh : ∀ number, server.runs number = none → server.worked.count number = 0
  running : ∀ number run, server.runs number = some run → run.After (server.worked.count number)
  answers : ∀ answer ∈ server.answers, answer.After (server.worked.count answer.number)

theorem worked_start (db : Database) : Worked (start db) where
  fresh _ _ := List.count_nil
  running := by nofun
  answers := by nofun

theorem enter_runs (server : AccountServer) (number : Nat) (run : AccountRun) (other : Nat) :
    (server.enter number run).runs other =
      if other = number then some run else server.runs other := Function.update_apply ..

/-- Another server with the same requests and answers, after more passwords of a request. -/
structure Works (server server' : AccountServer) (number : Nat) (passwords : Nat) : Prop where
  runs : server'.runs = server.runs
  answers : server'.answers = server.answers
  worked : server'.worked = server.worked ++ List.replicate passwords number

namespace Works

variable {passwords : Nat}

theorem count (h : Works server server' number passwords) (other : Nat) :
    server'.worked.count other =
      server.worked.count other + if other = number then passwords else 0 := by
  rw [h.worked, List.count_append, List.count_replicate]
  by_cases hother : other = number
  · simp [hother]
  · simp [hother, Ne.symm hother]

/-- A request goes on, after more passwords if it has no answer. -/
theorem enters (h : Works server server' number passwords) (hworked : Worked server)
    (hlive : passwords = 0 ∨ ∀ answer ∈ server.answers, answer.number ≠ number)
    {run' : AccountRun} (hafter : run'.After (server.worked.count number + passwords)) :
    Worked (server'.enter number run') := by
  have hcount : ∀ other, other ≠ number →
      server'.worked.count other = server.worked.count other := by
    intro other hother
    rw [h.count, if_neg hother, Nat.add_zero]
  refine ⟨fun other hnone => ?_, fun other found hfound => ?_, fun answer hmem => ?_⟩
  · rw [enter_runs, h.runs] at hnone
    split at hnone
    · cases hnone
    · next hother => exact (hcount other hother).trans (hworked.fresh other hnone)
  · rw [enter_runs, h.runs] at hfound
    split at hfound
    · next hnumber =>
      obtain rfl := Option.some.inj hfound
      have hafter' : run'.After (server'.worked.count number) := by rwa [h.count, if_pos rfl]
      rw [hnumber]
      exact hafter'
    · next hother => exact hcount other hother ▸ hworked.running other found hfound
  · have hanswer := hworked.answers answer (h.answers ▸ hmem)
    have hsame : server'.worked.count answer.number = server.worked.count answer.number := by
      rcases hlive with rfl | hlive
      · rw [h.count, ite_self, Nat.add_zero]
      · exact hcount _ (hlive answer (h.answers ▸ hmem))
    exact hsame ▸ hanswer

/-- A request that waits goes on. -/
theorem proceeds (h : Works server server' number passwords) (hworked : Worked server)
    (hdelivered : Delivered server) (hrun : server.runs number = some run) {phase : AccountPhase}
    (hphase : run.phase = phase) (hlive : phase ≠ .finished) {run' : AccountRun}
    (hafter : run'.After (phase.work run.request + passwords)) :
    Worked (server'.enter number run') := by
  refine h.enters hworked (.inr (hdelivered.unanswered hrun (hphase ▸ hlive))) ?_
  rw [(hworked.running number run hrun).1 (hphase ▸ hlive), hphase]
  exact hafter

/-- A request that waits is answered. -/
theorem answered (h : Works server server' number passwords) (hworked : Worked server)
    (hdelivered : Delivered server) (hrun : server.runs number = some run) {phase : AccountPhase}
    (hphase : run.phase = phase) (hlive : phase ≠ .finished) {run' : AccountRun}
    {response : AccountResponse}
    (hanswer : AccountAnswer.After ⟨number, run'.request, response⟩
      (phase.work run.request + passwords)) :
    Worked (server'.answer number run' response) := by
  have hentered : Worked (server'.enter number { run' with phase := .finished }) :=
    h.proceeds hworked hdelivered hrun hphase hlive ⟨fun hnot => absurd rfl hnot, nofun⟩
  refine ⟨hentered.fresh, hentered.running, fun answer hmem => ?_⟩
  rcases List.mem_append.1 hmem with hmem | hmem
  · exact hentered.answers answer hmem
  · obtain rfl := List.mem_singleton.1 hmem
    have hcount : server'.worked.count number = _ := h.count number
    rw [if_pos rfl, (hworked.running number run hrun).1 (hphase ▸ hlive), hphase] at hcount
    have hafter : AccountAnswer.After ⟨number, run'.request, response⟩
        (server'.worked.count number) := hcount ▸ hanswer
    exact hafter

end Works

theorem attempted_of_other (h : ∀ before, run.phase ≠ .limiting before) (outcome : Option Bool) :
    server.attempted number run outcome = server.enter number run := by
  unfold attempted
  split
  · next hlimiting => exact absurd hlimiting (h _)
  · next hlimiting => exact absurd hlimiting (h _)
  · rfl

theorem worked_attempted (hworked : Worked server) (hdelivered : Delivered server)
    (hrun : server.runs number = some run) (key : RateLimitKey) (outcome : Option Bool)
    (h : Works server server' number 0) :
    Worked (server'.attempted number (run.ended key) outcome) := by
  by_cases hlimiting : ∃ before, (run.ended key).phase = .limiting before
  · obtain ⟨before, hlimiting⟩ := hlimiting
    have hphase : run.phase = .limiting before := hlimiting
    unfold attempted
    rw [hlimiting]
    cases outcome with
    | none => exact h.answered hworked hdelivered hrun hphase nofun (Nat.zero_le _)
    | some allowed =>
      dsimp only
      split
      · exact h.proceeds hworked hdelivered hrun hphase nofun ⟨fun _ => rfl, nofun⟩
      · split
        · refine h.proceeds hworked hdelivered hrun hphase nofun
            ⟨fun _ => ?_, AccountRequest.work_of_hashing⟩
          exact (AccountRequest.work_admitted _).symm
        · exact h.answered hworked hdelivered hrun hphase nofun rfl
  · rw [attempted_of_other fun before heq => hlimiting ⟨before, heq⟩]
    exact h.enters hworked (.inl rfl) (hworked.running number run hrun)

theorem worked_advance (hworked : Worked server) (hdelivered : Delivered server)
    (hrun : server.runs number = some run) {e : AccountServerEvent}
    (h : server.advance folding dependencies number run e = some after) : Worked after := by
  have hworks : Works server (server.works number) number 1 := ⟨rfl, rfl, rfl⟩
  have hsame : ∀ {server'}, server'.runs = server.runs → server'.answers = server.answers →
      server'.worked = server.worked → Works server server' number 0 := by
    intro server' hruns hanswers heq
    exact ⟨hruns, hanswers, by rw [heq, List.replicate_zero, List.append_nil]⟩
  have hspent : ∀ token account db, Works server (server.spend token account db) number 0 :=
    fun _ _ _ => hsame rfl rfl rfl
  have hset : ∀ db, Works server (server.setDb db) number 0 := fun _ => hsame rfl rfl rfl
  cases advanced h with
  | hashFails hphase =>
    have hwork := (hworked.running number run hrun).2 hphase
    exact hworks.answered hworked hdelivered hrun hphase nofun hwork.ge
  | hashedReset hphase hrequest =>
    refine hworks.proceeds hworked hdelivered hrun hphase nofun ⟨fun _ => ?_, nofun⟩
    rw [hrequest]
    rfl
  | hashed hphase =>
    have hwork := (hworked.running number run hrun).2 hphase
    exact hworks.proceeds hworked hdelivered hrun hphase nofun ⟨fun _ => hwork.symm, nofun⟩
  | @scheduled _ _ _ task hphase =>
    have hretained : Works server (server.retain number task) number 0 := hsame rfl rfl rfl
    exact hretained.answered hworked hdelivered hrun hphase nofun rfl
  | unscheduled hphase | consumeFails hphase | replaceFails hphase | createFails hphase =>
    exact (hsame rfl rfl rfl).answered hworked hdelivered hrun hphase nofun (Nat.le_refl _)
  | unloaded hphase =>
    exact (hsame rfl rfl rfl).answered hworked hdelivered hrun hphase nofun rfl
  | consumed hphase =>
    exact (hspent _ _ _).answered hworked hdelivered hrun hphase nofun rfl
  | unconsumed hphase | unreplaced hphase | created hphase | undeleted hphase =>
    exact (hset _).answered hworked hdelivered hrun hphase nofun rfl
  | @replaced _ _ token _ _ account db hphase =>
    have hretained : ∀ task,
        Works server ((server.spend token account db).retain number task) number 0 :=
      fun _ => hsame rfl rfl rfl
    split
    · exact (hretained _).answered hworked hdelivered hrun hphase nofun rfl
    · exact (hspent _ _ _).answered hworked hdelivered hrun hphase nofun (Nat.le_refl _)
  | found hphase =>
    exact (hsame rfl rfl rfl).proceeds hworked hdelivered hrun hphase nofun ⟨fun _ => rfl, nofun⟩
  | verified hphase hrequest =>
    refine hworks.proceeds hworked hdelivered hrun hphase nofun ⟨fun _ => ?_, nofun⟩
    rw [hrequest]
    rfl
  | unverified hphase hrequest =>
    refine hworks.answered hworked hdelivered hrun hphase nofun ?_
    rw [hrequest]
    rfl
  | loaded hphase =>
    exact (hsame rfl rfl rfl).proceeds hworked hdelivered hrun hphase nofun ⟨fun _ => rfl, nofun⟩
  | @deleted _ _ _ _ _ _ db hphase =>
    have hretained : ∀ task, Works server ((server.setDb db).retain number task) number 0 :=
      fun _ => hsame rfl rfl rfl
    have hreported : ∀ signal, Works server ((server.setDb db).report number signal) number 0 :=
      fun _ => hsame rfl rfl rfl
    split
    · exact (hretained _).answered hworked hdelivered hrun hphase nofun rfl
    · exact (hreported _).answered hworked hdelivered hrun hphase nofun rfl
  | storeFails hcalls =>
    exact (hsame rfl rfl rfl).answered hworked hdelivered hrun rfl (calls_live hcalls)
      (AccountPhase.work_le ..)

theorem Worked.of_eq (h : Worked server) (hruns : after.runs = server.runs)
    (hanswers : after.answers = server.answers) (hworked : after.worked = server.worked) :
    Worked after := by
  refine ⟨?_, ?_, ?_⟩
  · rw [hruns, hworked]
    exact h.fresh
  · rw [hruns, hworked]
    exact h.running
  · rw [hanswers, hworked]
    exact h.answers

theorem worked_step (hworked : Worked server) (hdelivered : Delivered server)
    {e : AccountServerEvent} (h : server.step folding dependencies e = some after) :
    Worked after := by
  have hsame : ∀ authRateLimits number,
      Works server (server.setCounters authRateLimits) number 0 :=
    fun _ _ => ⟨rfl, rfl, (List.append_nil _).symm⟩
  cases e with
  | arrives number request limited now =>
    obtain ⟨hnone, ⟨⟩⟩ := Option.ite_none_right_eq_some.1 h
    have hfresh := hworked.fresh number (Option.isNone_iff_eq_none.1 hnone)
    have hkept : Works server server number 0 := ⟨rfl, rfl, (List.append_nil _).symm⟩
    refine hkept.enters hworked (.inl rfl) ?_
    rw [hfresh]
    exact AccountRun.after_start ..
  | attempt number key =>
    obtain ⟨run, hrun, h⟩ := Option.bind_eq_some_iff.1 h
    obtain ⟨input, -, h⟩ := Option.bind_eq_some_iff.1 h
    split at h
    · obtain rfl := Option.some.inj h
      exact worked_attempted hworked hdelivered hrun key _ (hsame _ number)
    · obtain rfl := Option.some.inj h
      exact worked_attempted hworked hdelivered hrun key _ (hsame _ number)
  | attemptFails number key =>
    obtain ⟨run, hrun, h⟩ := Option.bind_eq_some_iff.1 h
    obtain ⟨input, -, h⟩ := Option.bind_eq_some_iff.1 h
    obtain rfl := Option.some.inj h
    exact worked_attempted hworked hdelivered hrun key _ (hsame _ number)
  | nicknameAttempt | cleansUp =>
    simp only [step] at h
    split at h
    · obtain rfl := Option.some.inj h
      exact hworked.of_eq rfl rfl rfl
    · obtain rfl := Option.some.inj h
      exact hworked
  | cleanupDeletes | elsewhere =>
    obtain rfl := Option.some.inj h
    exact hworked.of_eq rfl rfl rfl
  | hashes number | schedules number | verifies number | consumes number | replaces number
  | finds number | creates number | loads number | deletes number | storeFails number =>
    obtain ⟨run, hrun, h⟩ := Option.bind_eq_some_iff.1 h
    exact worked_advance hworked hdelivered hrun h
  | registers number | rotates number | taskFails number | delivers number =>
    obtain ⟨task, -, h⟩ := Option.bind_eq_some_iff.1 h
    cases delivery_moves h <;> exact hworked.of_eq rfl rfl rfl

end AccountServer

end RcOnline.Web
