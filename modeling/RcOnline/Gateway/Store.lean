import RcOnline.Lib.Host
import RcOnline.Lib.Interleave
import RcOnline.Database.Schema

/-!
# The gateway's store

The calls of `PostgresGatewayStore` (`apps/gateway/src/postgres-store.ts`) on devices, cars and
drive sessions. A transaction is one action, and so is a statement outside of one: between two
statements of a call other calls may run. `pick` says which of several rows a `limit 1` without a
complete order returns.
-/

namespace RcOnline.Gateway

open RcOnline.Lib RcOnline.Schema

def driveConnectionTimeoutMs : Int := 20000

/-- `CONNECTING_DRIVE_SESSION_STATUSES`. -/
def connecting : DriveSessionStatus → Bool
  | .created | .negotiating => true
  | _ => false

structure AuthenticatedDevice where
  deviceId : Uuid
  carId : Uuid
  agentVersion : String
  capabilities : DeviceCapabilities
  deriving DecidableEq

/-- The columns that `authenticateDevice` selects. -/
structure CredentialRow where
  credentialId : Uuid
  secretHash : String
  carId : Option Uuid
  metadata : Json

def safeDigestEqual (left right : String) : Bool := decodeBase64url left = decodeBase64url right

/-- The active credentials of a device, joined with the device. -/
def credentialRows (deviceId : Uuid) (db : Database) : List CredentialRow :=
  (db.deviceCredentials.select fun credential =>
    credential.deviceId = deviceId && credential.status = "active" &&
      credential.revokedAt.isNone).flatMap fun credential =>
    (db.devices.select (·.id = credential.deviceId)).map fun device =>
      { credentialId := credential.id, secretHash := credential.secretHash, carId := device.carId,
        metadata := device.metadata }

/-- Settle the update jobs that the device was applying when it authenticates again. -/
def resolveApplying (deviceId : Uuid) (agentVersion : String) (now : Int) (db : Database) :
    Table DeviceUpdateJob :=
  let applying := (db.deviceUpdateJobs.select fun job =>
    job.deviceId = deviceId && job.status = .applying).flatMap fun job =>
      (db.firmwareVersions.select (·.id = job.firmwareVersionId)).map fun firmware =>
        (job.id, firmware.version)
  applying.foldl (fun jobs (id, targetVersion) =>
    let succeeded := targetVersion = agentVersion
    jobs.update (fun job => job.id = id && job.status = .applying) fun job =>
      { job with
        status := if succeeded then .succeeded else .failed
        -- a version has at most 64 characters, so the slice to 256 keeps the whole text
        failureReason := if succeeded then none else some ("device rolled back to " ++ agentVersion)
        finishedAt := some now
        updatedAt := now }) db.deviceUpdateJobs

/-- The transaction of `authenticateDevice`. -/
def authenticateTransaction (credential : CredentialRow) (device : AuthenticatedDevice) (now : Int)
    (db : Database) : Database :=
  { db with
    deviceCredentials := db.deviceCredentials.update (·.id = credential.credentialId) fun row =>
      { row with lastAuthenticatedAt := some now, updatedAt := now }
    devices := db.devices.update (·.id = device.deviceId) fun row =>
      { row with
        state := .initializing
        connectedAt := some now
        agentVersion := some device.agentVersion
        metadata := Json.withField (credential.metadata.record?.getD []) "capabilities"
          device.capabilities.toJson
        updatedAt := now }
    cars := db.cars.update (fun car => car.id = device.carId && !car.adminBlocked) fun car =>
      { car with state := .initializing, updatedAt := now }
    deviceUpdateJobs := resolveApplying device.deviceId device.agentVersion now db }

def authenticateDevice (pick : Nat) (deviceId : Uuid) (suppliedSecretHash agentVersion : String)
    (capabilities : DeviceCapabilities) (now : Int) :
    Prog Database (Option AuthenticatedDevice) := do
  let credential ← .read fun db => limitOne pick (credentialRows deviceId db)
  match credential with
  | none => return none
  | some credential =>
    match credential.carId with
    | none => return none
    | some carId =>
      if safeDigestEqual suppliedSecretHash credential.secretHash then
        let device := { deviceId, carId, agentVersion, capabilities }
        .stmt fun db => ((), authenticateTransaction credential device now db)
        return some device
      else return none

/-- `update devices set … where id = … returning car_id`. -/
def updateDevice (deviceId : Uuid) (f : Device → Device) (hf : ∀ r, Row.key (f r) = Row.key r)
    (db : Database) : Option Uuid × Database :=
  ((db.devices.get? deviceId).bind (·.carId),
    { db with devices := db.devices.update (·.id = deviceId) f hf })

/-- `update cars set … where id = … and …`. -/
def updateCar (carId : Uuid) (p : Database → Bool) (f : Car → Car)
    (hf : ∀ r, Row.key (f r) = Row.key r) (db : Database) : Unit × Database :=
  ((), { db with cars := db.cars.update (fun car => car.id = carId && p db) f hf })

def recordHeartbeat (deviceId : Uuid) (health : DeviceHealth) (now : Int) :
    Prog Database (Option (Uuid × Bool)) := do
  let carId ← .stmt (updateDevice deviceId (fun row =>
    { row with health := some health, lastSeenAt := some now, updatedAt := now }) fun _ => rfl)
  match carId with
  | none => return none
  | some carId =>
    match health.batteryPercent with
    | none => pure ()
    | some batteryPercent =>
      .stmt (updateCar carId (fun _ => true) (fun car =>
        { car with batteryPercent, updatedAt := now }) fun _ => rfl)
    let adminBlocked ← .read fun db => (db.cars.get? carId).map (·.adminBlocked)
    return adminBlocked.map fun adminBlocked => (carId, adminBlocked)

/-- No live drive session on the car. -/
def noLiveSession (carId : Uuid) (db : Database) : Bool :=
  db.driveSessions.rows.all fun session => !(session.carId = carId && session.status.live)

def setPresenceState (deviceId : Uuid) (state : PresenceState) (now : Int) :
    Prog Database Unit := do
  let carId ← .stmt (updateDevice deviceId (fun row =>
    { row with state, updatedAt := now }) fun _ => rfl)
  match carId with
  | none => return
  | some carId =>
    let adminBlocked ← .read fun db => (db.cars.get? carId).any (·.adminBlocked)
    let carState := if adminBlocked then .adminBlocked else state.carState
    .stmt (updateCar carId (noLiveSession carId) (fun car =>
      { car with state := carState, updatedAt := now }) fun _ => rfl)

def markDeviceOffline (deviceId : Uuid) (now : Int) : Prog Database Unit := do
  let carId ← .stmt (updateDevice deviceId (fun row =>
    { row with state := .offline, connectedAt := none, updatedAt := now }) fun _ => rfl)
  match carId with
  | none => return
  | some carId =>
    .stmt (updateCar carId (fun _ => true) (fun car =>
      { car with state := if car.adminBlocked then .adminBlocked else .offline, updatedAt := now })
      fun _ => rfl)

/-- A device with no heartbeat since the cutoff that is not offline yet. -/
def stale (cutoff : Int) (device : Device) : Bool :=
  device.lastSeenAt.all (· < cutoff) && device.state ≠ .offline

def expireStaleDevices (cutoff now : Int) : Prog Database Nat := do
  let stale ← .read fun db => db.devices.select (stale cutoff)
  stale.forM fun device => markDeviceOffline device.id now
  return stale.length

structure AuthorizeDriveSessionInput where
  sessionId : Uuid
  userId : Uuid
  carId : Uuid
  now : Int

/-- `update drive_sessions set … where id = … and … returning …`, with the row as it was. -/
def updateSession (sessionId : Uuid) (p : DriveSession → Bool) (f : DriveSession → DriveSession)
    (hf : ∀ r, Row.key (f r) = Row.key r) (db : Database) : Option (DriveSession × Database) :=
  match db.driveSessions.get? sessionId with
  | none => none
  | some session =>
    if p session then
      some (session,
        { db with
          driveSessions := db.driveSessions.update (fun row => row.id = sessionId && p row) f hf })
    else none

/-- Set the state of a session's car. -/
def setCarState (carId : Uuid) (state : Car → CarState) (now : Int) (db : Database) : Database :=
  { db with
    cars := db.cars.update (·.id = carId) fun car =>
      { car with state := state car, updatedAt := now } }

def authorizeTransaction (input : AuthorizeDriveSessionInput) (db : Database) :
    Option Int × Database :=
  match updateSession input.sessionId (fun session =>
      session.userId = input.userId && session.carId = input.carId && session.status = .created &&
        decide (input.now < session.expiresAt))
      (fun session =>
        { session with
          status := .negotiating, startedAt := some input.now, updatedAt := input.now })
      (fun _ => rfl) db with
  | none => (none, db)
  | some (session, db) =>
    (some session.expiresAt, setCarState session.carId (fun _ => .connecting) input.now db)

def authorizeDriveSession (input : AuthorizeDriveSessionInput) : Prog Database (Option Int) :=
  .stmt (authorizeTransaction input)

def markActiveTransaction (sessionId : Uuid) (now : Int) (db : Database) : Bool × Database :=
  let connectionCutoff := now - driveConnectionTimeoutMs
  match updateSession sessionId (fun session =>
      session.status = .negotiating && decide (connectionCutoff < session.updatedAt) &&
        decide (now < session.expiresAt))
      (fun session => { session with status := .active, updatedAt := now }) (fun _ => rfl) db with
  | none => (false, db)
  | some (session, db) => (true, setCarState session.carId (fun _ => .active) now db)

def markDriveSessionActive (sessionId : Uuid) (now : Int) : Prog Database Bool :=
  .stmt (markActiveTransaction sessionId now)

/-- The devices of a car seen last, among those seen after the cutoff. -/
def freshDevices (freshnessCutoff : Int) (carId : Uuid) (db : Database) : List Device :=
  let seen := db.devices.select fun device =>
    device.carId = some carId && device.lastSeenAt.any (freshnessCutoff < ·)
  seen.filter fun device => seen.all fun other =>
    decide (other.lastSeenAt.getD 0 ≤ device.lastSeenAt.getD 0)

/-- `freshDeviceStateSql`. -/
def freshDeviceState (pick : Uuid → Nat) (freshnessCutoff : Int) (db : Database) (car : Car) :
    CarState :=
  if car.adminBlocked then .adminBlocked
  else
    match limitOne (pick car.id) (freshDevices freshnessCutoff car.id db) with
    | some device => device.state.carState
    | none => .offline

/-- What ending a session does to its queue entry and its car. -/
def releaseSession (pick : Uuid → Nat) (now : Int) (db : Database) (session : DriveSession) :
    Database :=
  let queueEntries := match session.queueEntryId with
    | none => db.queueEntries
    | some queueEntryId => db.queueEntries.update (·.id = queueEntryId) fun row =>
      { row with status := .left, expiresAt := now, updatedAt := now }
  let freshnessCutoff := now - 15000
  setCarState session.carId (freshDeviceState pick freshnessCutoff db) now { db with queueEntries }

def endTransaction (pick : Uuid → Nat) (sessionId : Uuid) (now : Int) (db : Database) :
    Unit × Database :=
  match updateSession sessionId (·.status.live)
      (fun session => { session with status := .ended, endedAt := some now, updatedAt := now })
      (fun _ => rfl) db with
  | none => ((), db)
  | some (session, db) => ((), releaseSession pick now db session)

def endDriveSession (pick : Uuid → Nat) (sessionId : Uuid) (now : Int) : Prog Database Unit :=
  .stmt (endTransaction pick sessionId now)

/-- The sessions that `expireDriveSessions` ends. -/
def expires (now : Int) (session : DriveSession) : Bool :=
  let connectionCutoff := now - driveConnectionTimeoutMs
  session.status.live && (decide (session.expiresAt ≤ now) ||
    (connecting session.status && decide (session.updatedAt ≤ connectionCutoff)))

/-- `update drive_sessions set status = 'ended' where p`. -/
def endSessions (p : DriveSession → Bool) (now : Int) (db : Database) : Database :=
  { db with
    driveSessions := db.driveSessions.update p fun session =>
      { session with status := .ended, endedAt := some now, updatedAt := now } }

def expireTransaction (pick : Uuid → Nat) (now : Int) (db : Database) : Nat × Database :=
  let expired := db.driveSessions.select (expires now)
  (expired.length, expired.foldl (releaseSession pick now) (endSessions (expires now) now db))

def expireDriveSessions (pick : Uuid → Nat) (now : Int) : Prog Database Nat :=
  .stmt (expireTransaction pick now)

end RcOnline.Gateway
