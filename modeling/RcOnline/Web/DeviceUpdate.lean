import RcOnline.Lib.Host
import RcOnline.Lib.Interleave
import RcOnline.Database.Schema

/-!
# Requesting a device update

`createPostgresDeviceUpdateStore` of `apps/web/app/device-update-store.ts`: an administrator asks
for a release to be installed on a car's device, unless the car is being driven or an update of the
device is under way. Parsing a URL is the host's.
-/

namespace RcOnline.Web

open RcOnline.Lib RcOnline.Schema

/-- The parts of a `URL` that are read. -/
structure Url where
  protocol : String
  origin : String
  pathname : String

/-- `/^\d+\.\d+\.\d+$/u`. -/
def isReleaseVersion (version : String) : Bool :=
  match version.toList.splitOn '.' with
  | [major, minor, fix] => [major, minor, fix].all fun part => part ≠ [] && part.all Char.isDigit
  | _ => false

/-- `/^[0-9a-f]{64}$/u`. -/
def isSha256 (digest : String) : Bool :=
  digest.toList.length = 64 && digest.toList.all fun c => c.isDigit || ('a' ≤ c && c ≤ 'f')

/-- `/^[A-Za-z0-9_-]{80,128}$/u`. -/
def isSignature (signature : String) : Bool :=
  80 ≤ signature.toList.length && signature.toList.length ≤ 128 &&
    signature.toList.all fun c => c.isAlphanum || c = '_' || c = '-'

/-- The conditions on the URL of an artifact; `parseUrl` is `new URL`, none when it throws. -/
def isArtifactUrl (parseUrl : String → Option Url) (artifactUrl : String) : Bool :=
  (parseUrl artifactUrl).any fun url =>
    url.protocol = "https:" && url.origin = "https://rcmania.live" &&
      startsWith url.pathname "/agent-releases/"

def isCompleteAgentRelease (parseUrl : String → Option Url) (value : FirmwareVersion) : Bool :=
  value.componentKind = "pi-agent" && isReleaseVersion value.version &&
    value.artifactUrl.any (isArtifactUrl parseUrl) &&
    value.artifactSizeBytes.any (fun bytes => 1 ≤ bytes && bytes ≤ 8 * 1024 * 1024) &&
    value.runtimeGeneration.any (fun generation => 1 ≤ generation && generation ≤ 32767) &&
    isSha256 value.digestSha256 && isSignature value.signature

inductive DeviceUpdateRequestResult where
  | created (updateId : Uuid)
  | notFound
  | conflict
  deriving DecidableEq

/-- What `requestDeviceUpdate` is called with and what it meets: the id that a new job gets, and
the rows that its `limit 1` queries return. -/
structure DeviceUpdateRequest where
  adminId : Uuid
  carId : Uuid
  version : String
  now : Int
  updateId : Uuid
  devicePick : Nat
  releasePick : Nat

/-- The job that `requestDeviceUpdate` inserts. -/
def newUpdateJob (request : DeviceUpdateRequest) (device : Device) (release : FirmwareVersion) :
    DeviceUpdateJob :=
  { id := request.updateId, deviceId := device.id, firmwareVersionId := release.id,
    status := .pending, attemptCount := 0, failureReason := none, requestedBy := request.adminId,
    requestedAt := request.now, startedAt := none, finishedAt := none, createdAt := request.now,
    updatedAt := request.now }

/-- The transaction of `requestDeviceUpdate`; none when the insert breaks a constraint and the
transaction is rolled back. -/
def requestTransaction (parseUrl : String → Option Url) (request : DeviceUpdateRequest)
    (db : Database) : Option DeviceUpdateRequestResult × Database :=
  match limitOne request.devicePick (db.devices.select (·.carId = some request.carId)) with
  | none => (some .notFound, db)
  | some device =>
    let releases := db.firmwareVersions.select fun firmware =>
      firmware.componentKind = "pi-agent" && firmware.version = request.version
    match (limitOne request.releasePick releases).filter (isCompleteAgentRelease parseUrl) with
    | none => (some .notFound, db)
    | some release =>
      let activeDrive := db.driveSessions.rows.any fun session =>
        session.carId = request.carId && session.status.live &&
          decide (request.now < session.expiresAt)
      let activeUpdate := db.deviceUpdateJobs.rows.any fun job =>
        job.deviceId = device.id && job.status.active
      if activeDrive || activeUpdate then (some .conflict, db)
      else
        let job := newUpdateJob request device release
        match db.deviceUpdateJobs.insert? job.clash job with
        | none => (none, db)
        | some deviceUpdateJobs => (some (.created job.id), { db with deviceUpdateJobs })

def requestDeviceUpdate (parseUrl : String → Option Url) (request : DeviceUpdateRequest) :
    Prog Database (Option DeviceUpdateRequestResult) :=
  .stmt (requestTransaction parseUrl request)

end RcOnline.Web
