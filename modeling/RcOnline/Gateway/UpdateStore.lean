import RcOnline.Gateway.Protocol
import RcOnline.Gateway.Store

/-!
# Update jobs in the gateway's store

The calls of `PostgresGatewayStore` that move a device's update job: a device that is ready claims
its pending job, and reports how the installation goes. What it was applying is settled when it
authenticates again (`resolveApplying`).
-/

namespace RcOnline.Gateway

open RcOnline.Lib RcOnline.Schema

/-- The pending jobs of a device that it can install, joined with their firmware. -/
def claimCandidates (deviceId : Uuid) (runtimeGeneration : Int) (db : Database) :
    List (DeviceUpdateJob × FirmwareVersion) :=
  (db.deviceUpdateJobs.select fun job =>
    job.deviceId = deviceId && job.status = .pending && job.attemptCount = 0).flatMap fun job =>
    (db.firmwareVersions.select fun firmware =>
      firmware.id = job.firmwareVersionId && firmware.componentKind = "pi-agent" &&
        firmware.runtimeGeneration = some runtimeGeneration).map fun firmware => (job, firmware)

/-- The columns of a candidate, when none that the offer needs is missing. -/
def candidateOffer (job : DeviceUpdateJob) (firmware : FirmwareVersion) :
    Option DeviceUpdateOffer := do
  let runtimeGeneration ← firmware.runtimeGeneration.filter (· ≠ 0)
  let artifactUrl ← firmware.artifactUrl.filter (· ≠ "")
  let artifactSizeBytes ← firmware.artifactSizeBytes.filter (· ≠ 0)
  return { updateId := job.id, version := firmware.version, runtimeGeneration, artifactUrl,
           artifactSizeBytes, digestSha256 := firmware.digestSha256,
           signature := firmware.signature }

/-- The update of `claimPendingUpdate`: it meets a job that is still pending. -/
def claimJob (updateId : Uuid) (now : Int) (jobs : Table DeviceUpdateJob) :
    Bool × Table DeviceUpdateJob :=
  let p (job : DeviceUpdateJob) : Bool :=
    job.id = updateId && job.status = .pending && job.attemptCount = 0
  (jobs.rows.any p, jobs.update p fun job =>
    { job with status := .downloading, attemptCount := 1, startedAt := some now, updatedAt := now })

/-- The transaction of `claimPendingUpdate`. -/
def claimTransaction (pick : Nat) (deviceId : Uuid) (runtimeGeneration : Int) (now : Int)
    (db : Database) : Option DeviceUpdateOffer × Database :=
  let candidate := limitOne pick (claimCandidates deviceId runtimeGeneration db)
  match candidate.bind fun (job, firmware) => candidateOffer job firmware with
  | none => (none, db)
  | some offer =>
    let (claimed, deviceUpdateJobs) := claimJob offer.updateId now db.deviceUpdateJobs
    (if claimed then some offer else none, { db with deviceUpdateJobs })

def claimPendingUpdate (pick : Nat) (deviceId : Uuid) (runtimeGeneration : Option Int)
    (now : Int) : Prog Database (Option DeviceUpdateOffer) :=
  match runtimeGeneration with
  | none => return none
  | some runtimeGeneration => .stmt (claimTransaction pick deviceId runtimeGeneration now)

/-- The job status of the same name. -/
def UpdateProgressStatus.jobStatus : UpdateProgressStatus → DeviceUpdateStatus
  | .downloading => .downloading
  | .applying => .applying
  | .failed => .failed

/-- The statuses that a report may find its job in. -/
def allowedCurrent : UpdateProgressStatus → List DeviceUpdateStatus
  | .downloading => [.downloading]
  | .applying => [.downloading]
  | .failed => [.downloading, .applying]

def recordStatus (deviceId updateId : Uuid) (status : UpdateProgressStatus)
    (reason : Option String) (now : Int) (db : Database) : Bool × Database :=
  let boundedReason := (reason.map fun reason => slice (trim reason) 256).filter (· ≠ "")
  let p (job : DeviceUpdateJob) : Bool :=
    job.id = updateId && job.deviceId = deviceId && decide (job.status ∈ allowedCurrent status)
  (db.deviceUpdateJobs.rows.any p,
    { db with
      deviceUpdateJobs := db.deviceUpdateJobs.update p fun job =>
        { job with
          status := status.jobStatus
          failureReason :=
            if status = .failed then some (boundedReason.getD "device rejected update") else none
          finishedAt := if status = .failed then some now else none
          updatedAt := now } })

def recordUpdateStatus (deviceId updateId : Uuid) (status : UpdateProgressStatus)
    (reason : Option String) (now : Int) : Prog Database Bool :=
  .stmt (recordStatus deviceId updateId status reason now)

end RcOnline.Gateway
