import RcOnline.Lib.Table
import RcOnline.Lib.Json

/-!
# The database

The tables of `packages/database/src/schema.ts` that the drive services share, with the columns
they read or write. Instants are milliseconds: every writer of these columns passes a `Date`.
Primary keys are part of a table; partial unique indexes are enforced where rows are inserted.
-/

namespace RcOnline.Schema

open RcOnline.Lib

/-- A uuid, of which only equality and order are used. -/
abbrev Uuid := Nat

/-- `CarStateSchema` of `packages/contracts`. -/
inductive CarState where
  | offline
  | initializing
  | available
  | reserved
  | connecting
  | active
  | reconnectGrace
  | returnRequired
  | operatorRecovery
  | safetyBlocked
  | adminBlocked
  deriving DecidableEq

/-- `PresenceState` of the gateway: what a device can report itself to be. -/
inductive PresenceState where
  | initializing
  | available
  | safetyBlocked
  | adminBlocked
  | offline
  deriving DecidableEq

/-- The car state of the same name. -/
def PresenceState.carState : PresenceState → CarState
  | .initializing => .initializing
  | .available => .available
  | .safetyBlocked => .safetyBlocked
  | .adminBlocked => .adminBlocked
  | .offline => .offline

structure Car where
  id : Uuid
  slug : String
  name : String
  state : CarState
  batteryPercent : Option Int
  adminBlocked : Bool
  steeringTrimPercent : Int
  updatedAt : Int
  deriving DecidableEq

/-- `DeviceHealthSchema`; none in an optional field is `undefined`, then null. -/
structure DeviceHealth where
  cameraReady : Bool
  gpioReady : Bool
  watchdogReady : Bool
  batteryVoltage : Option (Option Number)
  batteryPercent : Option (Option Int)
  deriving DecidableEq

/-- `DeviceCapabilitiesSchema`. -/
structure DeviceCapabilities where
  controlProtocolVersion : Option Int
  otaRuntimeGeneration : Option Int
  deriving DecidableEq

def DeviceCapabilities.toJson (capabilities : DeviceCapabilities) : Json :=
  .object
    ((capabilities.controlProtocolVersion.toList.map
        fun version => ("controlProtocolVersion", .number (.ofInt version))) ++
      capabilities.otaRuntimeGeneration.toList.map
        fun generation => ("otaRuntimeGeneration", .number (.ofInt generation)))

structure Device where
  id : Uuid
  carId : Option Uuid
  state : PresenceState
  lastSeenAt : Option Int
  metadata : Json
  agentVersion : Option String
  /-- The last health reported; none is the default `{}`. -/
  health : Option DeviceHealth
  connectedAt : Option Int
  updatedAt : Int

structure DeviceCredential where
  id : Uuid
  deviceId : Uuid
  secretHash : String
  status : String
  revokedAt : Option Int
  lastAuthenticatedAt : Option Int
  updatedAt : Int

structure FirmwareVersion where
  id : Uuid
  componentKind : String
  version : String
  digestSha256 : String
  signature : String
  artifactUrl : Option String
  artifactSizeBytes : Option Int
  runtimeGeneration : Option Int

inductive DeviceUpdateStatus where
  | pending
  | downloading
  | applying
  | succeeded
  | failed
  deriving DecidableEq

/-- The statuses of `device_update_jobs_one_active_device_uidx`. -/
def DeviceUpdateStatus.active : DeviceUpdateStatus → Bool
  | .pending | .downloading | .applying => true
  | .succeeded | .failed => false

structure DeviceUpdateJob where
  id : Uuid
  deviceId : Uuid
  firmwareVersionId : Uuid
  status : DeviceUpdateStatus
  attemptCount : Int
  failureReason : Option String
  requestedBy : Uuid
  requestedAt : Int
  startedAt : Option Int
  finishedAt : Option Int
  createdAt : Int
  updatedAt : Int

inductive QueueStatus where
  | waiting
  | offered
  | accepted
  | missed
  | expired
  | left
  deriving DecidableEq

/-- `LIVE_QUEUE_STATUSES`. -/
def QueueStatus.live : QueueStatus → Bool
  | .waiting | .offered => true
  | _ => false

structure QueueEntry where
  id : Uuid
  userId : Uuid
  status : QueueStatus
  joinedAt : Int
  expiresAt : Int
  createdAt : Int
  updatedAt : Int
  deriving DecidableEq

inductive DriveSessionStatus where
  | created
  | negotiating
  | active
  | ended
  deriving DecidableEq

/-- `ACTIVE_DRIVE_SESSION_STATUSES`. -/
def DriveSessionStatus.live : DriveSessionStatus → Bool
  | .created | .negotiating | .active => true
  | .ended => false

structure DriveSession where
  id : Uuid
  userId : Uuid
  carId : Uuid
  queueEntryId : Option Uuid
  status : DriveSessionStatus
  expiresAt : Int
  startedAt : Option Int
  endedAt : Option Int
  createdAt : Int
  updatedAt : Int
  deriving DecidableEq

instance : Row Car Uuid := ⟨Car.id⟩
instance : Row Device Uuid := ⟨Device.id⟩
instance : Row DeviceCredential Uuid := ⟨DeviceCredential.id⟩
instance : Row FirmwareVersion Uuid := ⟨FirmwareVersion.id⟩
instance : Row DeviceUpdateJob Uuid := ⟨DeviceUpdateJob.id⟩
instance : Row QueueEntry Uuid := ⟨QueueEntry.id⟩
instance : Row DriveSession Uuid := ⟨DriveSession.id⟩

structure Database where
  cars : Table Car
  devices : Table Device
  deviceCredentials : Table DeviceCredential
  firmwareVersions : Table FirmwareVersion
  deviceUpdateJobs : Table DeviceUpdateJob
  queueEntries : Table QueueEntry
  driveSessions : Table DriveSession

/-- The rows that `queue_entries_one_live_user_uidx` keeps apart from a new one. -/
def QueueEntry.clash (new row : QueueEntry) : Bool :=
  new.status.live && row.status.live && new.userId = row.userId

/-- The rows that the unique indexes on `drive_sessions` keep apart from a new one. -/
def DriveSession.clash (new row : DriveSession) : Bool :=
  (new.status.live && row.status.live && (new.carId = row.carId || new.userId = row.userId)) ||
    (new.queueEntryId.isSome && new.queueEntryId = row.queueEntryId)

/-- The rows that the unique index on `device_update_jobs` keeps apart from a new one. -/
def DeviceUpdateJob.clash (new row : DeviceUpdateJob) : Bool :=
  new.status.active && row.status.active && new.deviceId = row.deviceId

/-- The row that `limit 1` returns where no order is asked for: any one. -/
def limitOne {α : Type*} (pick : Nat) (rows : List α) : Option α := rows[pick % rows.length]?

theorem limitOne_mem {α : Type*} {pick : Nat} {rows : List α} {r : α}
    (h : limitOne pick rows = some r) : r ∈ rows := List.mem_of_getElem? h

theorem limitOne_eq_none_iff {α : Type*} {pick : Nat} {rows : List α} :
    limitOne pick rows = none ↔ rows = [] := by
  rw [limitOne, List.getElem?_eq_none_iff]
  constructor
  · intro h
    by_contra hne
    exact absurd (Nat.mod_lt pick (List.length_pos_iff.2 hne)) (Nat.not_lt.2 h)
  · rintro rfl
    exact Nat.zero_le _

end RcOnline.Schema
