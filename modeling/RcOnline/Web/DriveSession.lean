import RcOnline.Lib.Interleave
import RcOnline.Web.LiveQueue

/-!
# Creating a drive session

`createPostgresDriveSessionStore` of `apps/web/app/drive-session-store.ts`: one transaction under
the queue lock turns an offer into a drive session and reserves the car.
-/

namespace RcOnline.Web

open RcOnline.Lib RcOnline.Schema

def driveSessionDurationMs : Int := 5 * 60000

structure CreatedDriveSession where
  sessionId : Uuid
  expiresAt : Int
  steeringTrimPercent : Int
  controlProtocolVersion : Nat
  deriving DecidableEq

def controlProtocolVersionFromMetadata (metadata : Json) : Nat :=
  match metadata.field? "capabilities" with
  | none => 3
  | some capabilities =>
    match capabilities.field? "controlProtocolVersion" with
    | some (.number version) =>
      if version = .ofInt 5 then 5 else if version = .ofInt 4 then 4 else 3
    | _ => 3

/-- What `create` is called with and what it meets: the two readings of its clock, the id that a
new session gets, the device row that the join returns, and the database's collation. -/
structure CreateInput where
  userId : Uuid
  carId : Uuid
  lockedAt : Int
  checkedAt : Int
  sessionId : Uuid
  pick : Nat
  collate : String → String → Int

/-- The cars and devices that `create` may reserve. -/
def availableDevices (db : Database) (carId : Uuid) (now : Int) : List (Car × Device) :=
  let freshnessCutoff := now - 15000
  (db.cars.select fun car =>
    car.id = carId && car.state = .available && !car.adminBlocked).flatMap fun car =>
      (db.devices.select fun device =>
        device.carId = some car.id && device.state = .available &&
          device.lastSeenAt.any (freshnessCutoff < ·)).map fun device => (car, device)

/-- The session that `create` inserts. -/
def newSession (input : CreateInput) (entry : QueueRow) : DriveSession :=
  { id := input.sessionId, userId := input.userId, carId := input.carId,
    queueEntryId := some entry.id, status := .created,
    expiresAt := input.checkedAt + driveSessionDurationMs, startedAt := none, endedAt := none,
    createdAt := input.checkedAt, updatedAt := input.checkedAt }

/-- The last statements of `create`: the insert, and what follows it when a row went in. -/
def insertSession (db : Database) (input : CreateInput) (entry : QueueRow) (car : Car)
    (device : Device) : Option CreatedDriveSession × Database :=
  let session := newSession input entry
  match db.driveSessions.insert? session.clash session with
  | none => (none, db)
  | some driveSessions =>
    let queueEntries := db.queueEntries.update (·.id = entry.id) fun row =>
      { row with status := .accepted, updatedAt := input.checkedAt }
    let cars := db.cars.update (·.id = input.carId) fun row =>
      { row with state := .reserved, updatedAt := input.checkedAt }
    (some
      { sessionId := session.id, expiresAt := session.expiresAt,
        steeringTrimPercent := car.steeringTrimPercent,
        controlProtocolVersion := controlProtocolVersionFromMetadata device.metadata },
      { db with driveSessions, queueEntries, cars })

/-- The transaction of `create`. -/
def createTransaction (input : CreateInput) (db : Database) :
    Option CreatedDriveSession × Database :=
  let now := input.lockedAt
  let (db, queue) := advanceLiveQueue input.collate db now
  match queue.entries.find? (·.userId = input.userId) with
  | none => (none, db)
  | some entry =>
    if entry.status ≠ .offered ∨ entry.expiresAt ≤ now then (none, db)
    else
      match limitOne input.pick (availableDevices db input.carId now) with
      | none => (none, db)
      | some (car, device) =>
        if (db.driveSessions.select fun session =>
            session.status.live && decide (now < session.expiresAt) &&
              (session.carId = input.carId || session.userId = input.userId)) ≠ [] then (none, db)
        else
          -- Device/car row locks may wait behind a heartbeat or session cleanup.
          let now := input.checkedAt
          if entry.expiresAt ≤ now then (none, (advanceLiveQueue input.collate db now).1)
          else if device.lastSeenAt.all fun lastSeenAt => decide (lastSeenAt ≤ now - 15000) then
            (none, db)
          else insertSession db input entry car device

def create (input : CreateInput) : Prog Database (Option CreatedDriveSession) :=
  .stmt (createTransaction input)

end RcOnline.Web
