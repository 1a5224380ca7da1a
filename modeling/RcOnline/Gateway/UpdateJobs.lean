import RcOnline.Gateway.UpdateStore
import RcOnline.Web.DeviceUpdate

/-!
# The life of an update job

Two programs write `device_update_jobs`: the web application requests a job, the gateway claims it,
records what the device reports and settles what it was applying when it authenticates again. Each
statement moves every row one step at most (`JobsMove`), so in every interleaving a job runs through
its statuses once, with its columns in step (`update_job_lifecycle`).
-/

namespace RcOnline.Gateway

open RcOnline.Lib RcOnline.Schema RcOnline.Web

/-! ## One row -/

/-- The steps of a job. -/
inductive NextStatus : DeviceUpdateStatus → DeviceUpdateStatus → Prop where
  | claim : NextStatus .pending .downloading
  | apply : NextStatus .downloading .applying
  | refuse : NextStatus .downloading .failed
  | interrupt : NextStatus .applying .failed
  | succeed : NextStatus .applying .succeeded

/-- The columns that go with a job's status. -/
structure JobRow (job : DeviceUpdateJob) : Prop where
  attemptCount : job.attemptCount = if job.status = .pending then 0 else 1
  finishedAt : job.finishedAt.isSome = !job.status.active

/-- What one statement makes of a job. -/
structure JobMoves (old new : DeviceUpdateJob) : Prop where
  id : new.id = old.id
  deviceId : new.deviceId = old.deviceId
  status : new.status = old.status ∨ NextStatus old.status new.status
  row : JobRow old → JobRow new

theorem JobMoves.refl (job : DeviceUpdateJob) : JobMoves job job :=
  ⟨rfl, rfl, .inl rfl, fun h => h⟩

theorem NextStatus.active {old new : DeviceUpdateStatus} (h : NextStatus old new) :
    old.active = true := by
  cases h <;> rfl

/-- A finished job stays as it is. -/
theorem JobMoves.active {old new : DeviceUpdateJob} (h : JobMoves old new)
    (hactive : new.status.active = true) : old.status.active = true := by
  rcases h.status with heq | hnext
  · rw [← heq]
    exact hactive
  · exact hnext.active

/-! ## The table -/

/-- What one statement makes of the jobs: each row moves in its place, and new ones are pending. -/
def JobsMove (old new : List DeviceUpdateJob) : Prop :=
  ∃ moved added, new = old.map moved ++ added ∧ (∀ job ∈ old, JobMoves job (moved job)) ∧
    ∀ job ∈ added, job.status = .pending ∧ JobRow job

theorem JobsMove.refl (rows : List DeviceUpdateJob) : JobsMove rows rows :=
  ⟨id, [], by rw [List.map_id, List.append_nil], fun job _ => .refl job,
    fun _ hjob => absurd hjob List.not_mem_nil⟩

structure JobsConsistent (jobs : Table DeviceUpdateJob) : Prop where
  row : ∀ job ∈ jobs.rows, JobRow job
  oneActive : ∀ a ∈ jobs.rows, ∀ b ∈ jobs.rows, a.deviceId = b.deviceId →
    a.status.active = true → b.status.active = true → a = b

/-- A statement on the jobs keeps them consistent and moves them. -/
def Moved (jobs jobs' : Table DeviceUpdateJob) : Prop :=
  JobsConsistent jobs' ∧ JobsMove jobs.rows jobs'.rows

section table

variable {jobs jobs' : Table DeviceUpdateJob}

/-- Rows that move in their places keep the active jobs of each device apart. -/
theorem Moved.of_map (h : JobsConsistent jobs) {moved : DeviceUpdateJob → DeviceUpdateJob}
    (hrows : jobs'.rows = jobs.rows.map moved)
    (hmoves : ∀ job ∈ jobs.rows, JobMoves job (moved job)) : Moved jobs jobs' := by
  have hold : ∀ job ∈ jobs'.rows, ∃ old ∈ jobs.rows, JobMoves old job := by
    intro job hjob
    rw [hrows] at hjob
    obtain ⟨old, hold, rfl⟩ := List.mem_map.1 hjob
    exact ⟨old, hold, hmoves old hold⟩
  refine ⟨⟨?_, ?_⟩, moved, [], by rw [hrows, List.append_nil], hmoves,
    fun _ hjob => absurd hjob List.not_mem_nil⟩
  · intro job hjob
    obtain ⟨old, hold, hmove⟩ := hold job hjob
    exact hmove.row (h.row old hold)
  · intro a ha b hb hdevice hactive hactive'
    obtain ⟨olda, holda, hmovea⟩ := hold a ha
    obtain ⟨oldb, holdb, hmoveb⟩ := hold b hb
    have hsame : olda = oldb := by
      apply h.oneActive olda holda oldb holdb
      · rw [← hmovea.deviceId, ← hmoveb.deviceId, hdevice]
      · exact hmovea.active hactive
      · exact hmoveb.active hactive'
    apply Table.eq_of_key ha hb
    exact hmovea.id.trans (hsame ▸ hmoveb.id.symm)

/-- An update moves each row that it meets. -/
theorem Moved.of_patch (h : JobsConsistent jobs) {p : DeviceUpdateJob → Bool}
    {f : DeviceUpdateJob → DeviceUpdateJob} (hrows : jobs'.rows = jobs.rows.map (patch p f))
    (hmoves : ∀ job, p job = true → JobMoves job (f job)) : Moved jobs jobs' := by
  refine Moved.of_map h hrows fun job _ => ?_
  unfold patch
  split
  · next hp => exact hmoves job hp
  · exact .refl job

theorem Moved.refl (h : JobsConsistent jobs) : Moved jobs jobs := ⟨h, .refl _⟩

end table

/-! ## The statements -/

section statements

variable {db : Database}

theorem candidateOffer_updateId {job : DeviceUpdateJob} {firmware : FirmwareVersion}
    {offer : DeviceUpdateOffer} (h : candidateOffer job firmware = some offer) :
    offer.updateId = job.id := by
  obtain ⟨_, -, h⟩ := Option.bind_eq_some_iff.1 h
  obtain ⟨_, -, h⟩ := Option.bind_eq_some_iff.1 h
  obtain ⟨_, -, h⟩ := Option.bind_eq_some_iff.1 h
  obtain rfl := Option.some.inj h
  rfl

/-- What a claim returns is a job that was pending. -/
theorem claim_some {pick : Nat} {deviceId : Uuid} {runtimeGeneration now : Int}
    {offer : DeviceUpdateOffer}
    (h : (claimTransaction pick deviceId runtimeGeneration now db).1 = some offer) :
    ∃ job ∈ db.deviceUpdateJobs.rows,
      job.id = offer.updateId ∧ job.deviceId = deviceId ∧ job.status = .pending := by
  unfold claimTransaction at h
  dsimp only at h
  split at h
  · cases h
  · next offer' hcandidate =>
    obtain ⟨⟨job, firmware⟩, hpick, hoffer⟩ := Option.bind_eq_some_iff.1 hcandidate
    obtain ⟨row, hrow, hjoin⟩ := List.mem_flatMap.1 (limitOne_mem hpick)
    obtain ⟨_, -, heq⟩ := List.mem_map.1 hjoin
    obtain ⟨rfl, rfl⟩ := Prod.mk.inj heq
    obtain ⟨hmem, hp⟩ := List.mem_filter.1 hrow
    rw [Bool.and_eq_true, Bool.and_eq_true, decide_eq_true_eq, decide_eq_true_eq] at hp
    obtain ⟨-, heq⟩ := Option.ite_none_right_eq_some.1 h
    obtain rfl := Option.some.inj heq
    exact ⟨row, hmem, (candidateOffer_updateId hoffer).symm, hp.1.1, hp.1.2⟩

theorem claim_moved (h : JobsConsistent db.deviceUpdateJobs) (pick : Nat) (deviceId : Uuid)
    (runtimeGeneration now : Int) :
    Moved db.deviceUpdateJobs
      (claimTransaction pick deviceId runtimeGeneration now db).2.deviceUpdateJobs := by
  unfold claimTransaction
  dsimp only
  split
  · exact .refl h
  · refine Moved.of_patch h rfl fun job hp => ?_
    simp only [Bool.and_eq_true, decide_eq_true_eq] at hp
    obtain ⟨⟨-, hstatus⟩, -⟩ := hp
    refine ⟨rfl, rfl, .inr (hstatus ▸ .claim), fun hrow => ⟨rfl, ?_⟩⟩
    have hfinished := hrow.finishedAt
    rw [hstatus] at hfinished
    exact hfinished

/-- A report is allowed where it repeats the status or takes the next step. -/
theorem allowedCurrent_next {status : UpdateProgressStatus} {current : DeviceUpdateStatus}
    (h : current ∈ allowedCurrent status) :
    current ≠ .pending ∧ (status.jobStatus = current ∨ NextStatus current status.jobStatus) := by
  cases status with
  | downloading =>
    obtain rfl := List.mem_singleton.1 h
    exact ⟨nofun, .inl rfl⟩
  | applying =>
    obtain rfl := List.mem_singleton.1 h
    exact ⟨nofun, .inr .apply⟩
  | failed =>
    rcases List.mem_pair.1 h with rfl | rfl
    · exact ⟨nofun, .inr .refuse⟩
    · exact ⟨nofun, .inr .interrupt⟩

theorem record_moved (h : JobsConsistent db.deviceUpdateJobs) (deviceId updateId : Uuid)
    (status : UpdateProgressStatus) (reason : Option String) (now : Int) :
    Moved db.deviceUpdateJobs
      (recordStatus deviceId updateId status reason now db).2.deviceUpdateJobs := by
  refine Moved.of_patch h rfl fun job hp => ?_
  simp only [Bool.and_eq_true, decide_eq_true_eq] at hp
  obtain ⟨hpending, hnext⟩ := allowedCurrent_next hp.2
  refine ⟨rfl, rfl, hnext, fun hrow => ⟨?_, ?_⟩⟩
  · have hattempts := hrow.attemptCount
    rw [if_neg hpending] at hattempts
    cases status <;> exact hattempts
  · cases status <;> rfl

/-- A job as the next authentication of its device leaves it. -/
def Settles (old new : DeviceUpdateJob) : Prop :=
  new = old ∨ (new.id = old.id ∧ new.deviceId = old.deviceId ∧ old.status = .applying ∧
    (new.status = .succeeded ∨ new.status = .failed) ∧ new.attemptCount = old.attemptCount ∧
    new.finishedAt.isSome = true)

theorem Settles.moves {old new : DeviceUpdateJob} (h : Settles old new) : JobMoves old new := by
  rcases h with rfl | ⟨hid, hdevice, happlying, hstatus, hattempts, hfinished⟩
  · exact .refl _
  · refine ⟨hid, hdevice, .inr ?_, fun hrow => ⟨?_, ?_⟩⟩
    · rcases hstatus with hstatus | hstatus
      · rw [happlying, hstatus]
        exact .succeed
      · rw [happlying, hstatus]
        exact .interrupt
    · have := hrow.attemptCount
      rw [happlying] at this
      rcases hstatus with hstatus | hstatus <;> rw [hstatus, hattempts, this] <;> rfl
    · rcases hstatus with hstatus | hstatus <;> rw [hstatus, hfinished] <;> rfl

/-- A job that has been settled is not settled again. -/
theorem Settles.trans {a b c : DeviceUpdateJob} (hab : Settles a b) (hbc : Settles b c) :
    Settles a c := by
  rcases hab with rfl | hab
  · exact hbc
  · rcases hbc with rfl | ⟨-, -, happlying, -⟩
    · exact .inr hab
    · obtain ⟨-, -, -, hstatus, -⟩ := hab
      rw [happlying] at hstatus
      rcases hstatus with hstatus | hstatus <;> cases hstatus

theorem foldl_settles {ι : Type*} {step : Table DeviceUpdateJob → ι → Table DeviceUpdateJob}
    (hstep : ∀ jobs target, ∃ settled, (step jobs target).rows = jobs.rows.map settled ∧
      ∀ job, Settles job (settled job)) (targets : List ι) (jobs : Table DeviceUpdateJob) :
    ∃ settled, (targets.foldl step jobs).rows = jobs.rows.map settled ∧
      ∀ job, Settles job (settled job) := by
  induction targets generalizing jobs with
  | nil => exact ⟨id, (List.map_id _).symm, fun job => .inl rfl⟩
  | cons target targets ih =>
    obtain ⟨first, hfirst, hsettles⟩ := hstep jobs target
    obtain ⟨rest, hrest, hsettles'⟩ := ih (step jobs target)
    refine ⟨rest ∘ first, ?_, fun job => (hsettles job).trans (hsettles' _)⟩
    rw [List.foldl_cons, hrest, hfirst, List.map_map]

theorem resolveApplying_settles (deviceId : Uuid) (agentVersion : String) (now : Int)
    (db : Database) :
    ∃ settled, (resolveApplying deviceId agentVersion now db).rows =
        db.deviceUpdateJobs.rows.map settled ∧
      ∀ job, Settles job (settled job) := by
  apply foldl_settles
  rintro jobs ⟨id, targetVersion⟩
  refine ⟨patch _ _, rfl, fun job => ?_⟩
  unfold patch
  split
  · next hp =>
    rw [Bool.and_eq_true, decide_eq_true_eq, decide_eq_true_eq] at hp
    refine .inr ⟨rfl, rfl, hp.2, ?_, rfl, rfl⟩
    by_cases hversion : targetVersion = agentVersion
    · exact .inl (if_pos hversion)
    · exact .inr (if_neg hversion)
  · exact .inl rfl

theorem authenticate_moved (h : JobsConsistent db.deviceUpdateJobs) (credential : CredentialRow)
    (device : AuthenticatedDevice) (now : Int) :
    Moved db.deviceUpdateJobs
      (authenticateTransaction credential device now db).deviceUpdateJobs := by
  obtain ⟨settled, hrows, hsettles⟩ :=
    resolveApplying_settles device.deviceId device.agentVersion now db
  exact .of_map h hrows fun job _ => (hsettles job).moves

/-- A requested job is the only active one of its device. -/
theorem request_moved (h : JobsConsistent db.deviceUpdateJobs) (parseUrl : String → Option Url)
    (request : DeviceUpdateRequest) :
    Moved db.deviceUpdateJobs
      (requestTransaction parseUrl request db).2.deviceUpdateJobs := by
  unfold requestTransaction
  split
  · exact .refl h
  · next device _ =>
    dsimp only
    split
    · exact .refl h
    · next release _ =>
      split
      · exact .refl h
      · split
        · exact .refl h
        · next jobs hinsert =>
          obtain ⟨hfree, hrows⟩ := Table.insert?_eq_some hinsert
          have hnew : JobRow (newUpdateJob request device release) := ⟨rfl, rfl⟩
          -- an active row of the device would have clashed
          have hclash : ∀ job ∈ db.deviceUpdateJobs.rows,
              job.deviceId = device.id → job.status.active = false := by
            intro job hjob hdevice
            have hfree := (hfree job hjob).2
            rw [DeviceUpdateJob.clash, Bool.and_eq_false_iff, Bool.and_eq_false_iff] at hfree
            rcases hfree with (hpending | hactive) | hother
            · cases hpending
            · exact hactive
            · exact absurd hdevice.symm (of_decide_eq_false hother)
          have hmem : ∀ job ∈ jobs.rows,
              job ∈ db.deviceUpdateJobs.rows ∨ job = newUpdateJob request device release :=
            fun job hjob => (Table.mem_insert? hinsert).1 hjob
          refine ⟨⟨?_, ?_⟩, id, [newUpdateJob request device release], ?_, ?_, ?_⟩
          · intro job hjob
            rcases hmem job hjob with hjob | rfl
            · exact h.row job hjob
            · exact hnew
          · intro a ha b hb hdevice hactive hactive'
            rcases hmem a ha with ha | rfl <;> rcases hmem b hb with hb | rfl
            · exact h.oneActive a ha b hb hdevice hactive hactive'
            · rw [hclash a ha hdevice] at hactive
              cases hactive
            · rw [hclash b hb hdevice.symm] at hactive'
              cases hactive'
            · rfl
          · rw [hrows, List.map_id]
          · exact fun job _ => .refl job
          · intro job hjob
            obtain rfl := List.mem_singleton.1 hjob
            exact ⟨rfl, hnew⟩

end statements

/-! ## Every interleaving -/

/-- The calls that write update jobs. -/
inductive JobCall where
  | requestDeviceUpdate (request : DeviceUpdateRequest)
  | claimPendingUpdate (pick : Nat) (deviceId : Uuid) (runtimeGeneration : Option Int) (now : Int)
  | recordUpdateStatus (deviceId updateId : Uuid) (status : UpdateProgressStatus)
    (reason : Option String) (now : Int)
  | authenticateDevice (pick : Nat) (deviceId : Uuid) (suppliedSecretHash agentVersion : String)
    (capabilities : DeviceCapabilities) (now : Int)

section runs

variable (parseUrl : String → Option Url)

/-- The code of a call, its result dropped. -/
def JobCall.code : JobCall → Prog Database Unit
  | .requestDeviceUpdate request => do let _ ← Web.requestDeviceUpdate parseUrl request
  | .claimPendingUpdate pick deviceId runtimeGeneration now => do
    let _ ← Gateway.claimPendingUpdate pick deviceId runtimeGeneration now
  | .recordUpdateStatus deviceId updateId status reason now => do
    let _ ← Gateway.recordUpdateStatus deviceId updateId status reason now
  | .authenticateDevice pick deviceId suppliedSecretHash agentVersion capabilities now => do
    let _ ← Gateway.authenticateDevice pick deviceId suppliedSecretHash agentVersion capabilities
      now

/-- A program whose statements keep the jobs consistent and move them forward. -/
abbrev KeepsJobs {α : Type} (p : Prog Database α) : Prop :=
  p.Keeps (fun db => JobsConsistent db.deviceUpdateJobs)
    fun db db' => JobsMove db.deviceUpdateJobs.rows db'.deviceUpdateJobs.rows

theorem authenticateDevice_keepsJobs (pick : Nat) (deviceId : Uuid)
    (suppliedSecretHash agentVersion : String) (capabilities : DeviceCapabilities) (now : Int) :
    KeepsJobs
      (authenticateDevice pick deviceId suppliedSecretHash agentVersion capabilities now) := by
  apply Prog.Keeps.bind
  · exact .read (fun db => .refl _) _
  · intro credential
    split
    · exact .pure _
    · split
      · exact .pure _
      · split
        · refine .bind (.stmt fun db h => authenticate_moved h _ _ _) fun _ => .pure _
        · exact .pure _

theorem JobCall.code_keepsJobs (call : JobCall) : KeepsJobs (call.code parseUrl) := by
  cases call with
  | requestDeviceUpdate request =>
    exact .bind (.stmt fun _ h => request_moved h parseUrl request) fun _ => .pure _
  | claimPendingUpdate pick deviceId runtimeGeneration now =>
    refine .bind ?_ fun _ => .pure _
    cases runtimeGeneration with
    | none => exact .pure _
    | some runtimeGeneration => exact .stmt fun _ h => claim_moved h _ _ _ _
  | recordUpdateStatus deviceId updateId status reason now =>
    exact .bind (.stmt fun _ h => record_moved h _ _ _ _ _) fun _ => .pure _
  | authenticateDevice pick deviceId suppliedSecretHash agentVersion capabilities now =>
    exact .bind (authenticateDevice_keepsJobs _ _ _ _ _ _) fun _ => .pure _

variable {parseUrl}

theorem JobsMove.next {old new : List DeviceUpdateJob} (h : JobsMove old new)
    {job : DeviceUpdateJob} (hjob : job ∈ old) : ∃ later ∈ new, JobMoves job later := by
  obtain ⟨moved, added, rfl, hmoves, -⟩ := h
  exact ⟨moved job, List.mem_append_left added (List.mem_map_of_mem hjob), hmoves job hjob⟩

/-- A job that has left pending does not come back. -/
theorem pending_of_path {old new : DeviceUpdateStatus}
    (h : Relation.ReflTransGen NextStatus old new) (hnew : new = .pending) : old = .pending := by
  subst hnew
  rcases h.cases_tail with heq | ⟨status, -, hnext⟩
  · exact heq.symm
  · cases hnext

/-- Along a run a job keeps its place on the path of its statuses. -/
theorem job_path {pool pool' : Pool Database} {events : List (PoolEvent JobCall)}
    (hsafe : Pool.Safe (fun db => JobsConsistent db.deviceUpdateJobs)
      (fun db db' => JobsMove db.deviceUpdateJobs.rows db'.deviceUpdateJobs.rows) pool)
    (hrun : Run (StepOf (Pool.step (JobCall.code parseUrl))) pool events pool')
    {job : DeviceUpdateJob} (hjob : job ∈ pool.shared.deviceUpdateJobs.rows) :
    ∃ later ∈ pool'.shared.deviceUpdateJobs.rows, later.id = job.id ∧
      later.deviceId = job.deviceId ∧ Relation.ReflTransGen NextStatus job.status later.status := by
  induction hrun with
  | nil => exact ⟨job, hjob, rfl, rfl, .refl⟩
  | snoc hrun hstep ih =>
    obtain ⟨mid, hmid, hid, hdevice, hpath⟩ := ih
    have hsafe := hsafe.run (JobCall.code_keepsJobs parseUrl) (fun _ => .refl _) hrun
    have hmove := (hsafe.step (JobCall.code_keepsJobs parseUrl) (fun _ => .refl _) hstep).2
    obtain ⟨later, hlater, hmoves⟩ := hmove.next hmid
    refine ⟨later, hlater, hmoves.id.trans hid, hmoves.deviceId.trans hdevice, ?_⟩
    rcases hmoves.status with heq | hnext
    · rw [heq]
      exact hpath
    · exact hpath.tail hnext

/-- **Main result.** In every interleaving the columns of each job agree with its status and a
device has one active job at most; the next event moves every job one step at most and adds pending
ones only; a job that has been claimed stays claimed, and no later claim returns it. -/
theorem update_job_lifecycle {start : Database} {events : List (PoolEvent JobCall)}
    {pool : Pool Database} (hstart : JobsConsistent start.deviceUpdateJobs)
    (hrun : Run (StepOf (Pool.step (JobCall.code parseUrl))) ⟨start, []⟩ events pool) :
    JobsConsistent pool.shared.deviceUpdateJobs ∧
      (∀ event pool', pool.step (JobCall.code parseUrl) event = some pool' →
        JobsMove pool.shared.deviceUpdateJobs.rows pool'.shared.deviceUpdateJobs.rows) ∧
      ∀ events' pool', Run (StepOf (Pool.step (JobCall.code parseUrl))) pool events' pool' →
        ∀ job ∈ pool.shared.deviceUpdateJobs.rows, ∃ later ∈ pool'.shared.deviceUpdateJobs.rows,
          later.id = job.id ∧ later.deviceId = job.deviceId ∧
          Relation.ReflTransGen NextStatus job.status later.status ∧
          (job.attemptCount = 1 → later.attemptCount = 1 ∧
            ∀ pick deviceId runtimeGeneration now offer,
              (claimTransaction pick deviceId runtimeGeneration now pool'.shared).1 = some offer →
              offer.updateId ≠ job.id) := by
  have hsafe : Pool.Safe _ _ pool :=
    Pool.Safe.run (JobCall.code_keepsJobs parseUrl) (fun _ => .refl _) ⟨hstart, by simp⟩ hrun
  refine ⟨hsafe.shared, fun event pool' hstep => ?_, fun events' pool' hrun' job hjob => ?_⟩
  · exact (hsafe.step (JobCall.code_keepsJobs parseUrl) (fun _ => .refl _) hstep).2
  · obtain ⟨later, hlater, hid, hdevice, hpath⟩ := job_path hsafe hrun' hjob
    refine ⟨later, hlater, hid, hdevice, hpath, fun hclaimed => ?_⟩
    have hsafe' := hsafe.run (JobCall.code_keepsJobs parseUrl) (fun _ => .refl _) hrun'
    have hpending : later.status ≠ .pending := by
      intro hpending
      have hattempts := (hsafe.shared.row job hjob).attemptCount
      rw [hclaimed, if_pos (pending_of_path hpath hpending)] at hattempts
      cases hattempts
    refine ⟨by rw [(hsafe'.shared.row later hlater).attemptCount, if_neg hpending], ?_⟩
    intro pick deviceId runtimeGeneration now offer hclaim hupdate
    obtain ⟨row, hrow, hrowId, -, hstatus⟩ := claim_some hclaim
    have hsame : Row.key row = Row.key later := hrowId.trans (hupdate.trans hid.symm)
    obtain rfl := Table.eq_of_key hrow hlater hsame
    exact hpending hstatus

/-- A pending job of a device that can install it. -/
def pendingJob : DeviceUpdateJob :=
  { id := 1, deviceId := 2, firmwareVersionId := 3, status := .pending, attemptCount := 0,
    failureReason := none, requestedBy := 4, requestedAt := 0, startedAt := none,
    finishedAt := none, createdAt := 0, updatedAt := 0 }

def pendingDb : Database where
  cars := .empty
  devices := .empty
  deviceCredentials := .empty
  firmwareVersions := ⟨[⟨3, "pi-agent", "0.4.1", "digest", "signature",
    some "https://rcmania.live/agent-releases/agent.pyz", some 1024, some 1⟩], by decide⟩
  deviceUpdateJobs := ⟨[pendingJob], by decide⟩
  queueEntries := .empty
  driveSessions := .empty

theorem pendingDb_consistent : JobsConsistent pendingDb.deviceUpdateJobs where
  row job hjob := by
    obtain rfl := List.mem_singleton.1 hjob
    exact ⟨rfl, rfl⟩
  oneActive a ha b hb _ _ _ := (List.mem_singleton.1 ha).trans (List.mem_singleton.1 hb).symm

/-- The device claims the job and reports that it applies it. -/
def claimAndApply : List (PoolEvent JobCall) :=
  [.start (.claimPendingUpdate 0 2 (some 1) 1000),
    .advance 0,
    .start (.recordUpdateStatus 2 1 .applying none 2000),
    .advance 1]

theorem claimAndApply_lifecycle :
    ∃ pool, runList (Pool.step (JobCall.code fun _ => none)) ⟨pendingDb, []⟩ claimAndApply =
        some pool ∧
      pool.shared.deviceUpdateJobs.rows.map (fun job => (job.status, job.attemptCount)) =
        [(.applying, 1)] ∧
      JobsConsistent pool.shared.deviceUpdateJobs := by
  have heq : runList (Pool.step (JobCall.code fun _ => none)) ⟨pendingDb, []⟩ claimAndApply =
      some _ := rfl
  exact ⟨_, heq, rfl, (update_job_lifecycle pendingDb_consistent (run_of_runList heq)).1⟩

end runs

end RcOnline.Gateway
