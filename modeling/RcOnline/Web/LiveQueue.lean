import RcOnline.Database.Schema

/-!
# The live queue

`apps/web/app/live-queue-store.ts`: drivers wait in order of joining, the first of them hold a
timed offer for each available car. `advanceLiveQueue` brings the rows up to an instant: it
expires waiting rows, takes back offers that were missed, and promotes or demotes the rest.
-/

namespace RcOnline.Web

open RcOnline.Lib RcOnline.Schema

def queueLeaseMs : Int := 60000

def queueOfferMs : Int := 15000

def deviceFreshnessMs : Int := 15000

inductive Availability where
  | available
  | inUse
  deriving DecidableEq

structure QueueCar where
  id : Uuid
  slug : String
  name : String
  batteryPercent : Option Int
  availability : Availability
  deriving DecidableEq

/-- The columns that `listQueueCars` selects. -/
structure QueueCarRow where
  id : Uuid
  slug : String
  name : String
  batteryPercent : Option Int
  carState : CarState
  driveSessionId : Option Uuid
  deriving DecidableEq

/-- The columns that `advanceLiveQueue` selects. -/
structure QueueRow where
  id : Uuid
  userId : Uuid
  status : QueueStatus
  expiresAt : Int
  deriving DecidableEq

def queueRow (entry : QueueEntry) : QueueRow :=
  { id := entry.id, userId := entry.userId, status := entry.status, expiresAt := entry.expiresAt }

/-- The left join of a car with its live, unexpired drive sessions. -/
def carSessions (db : Database) (now : Int) (car : Car) : List (Option Uuid) :=
  match db.driveSessions.select fun session =>
      session.carId = car.id && session.status.live && decide (now < session.expiresAt) with
  | [] => [none]
  | sessions => sessions.map (some ·.id)

/-- The select distinct of `listQueueCars`. `collate` compares two texts in the database's
collation. -/
def queueCarRows (collate : String → String → Int) (db : Database) (now : Int) :
    List QueueCarRow :=
  let freshnessCutoff := now - deviceFreshnessMs
  let rows := db.cars.rows.flatMap fun car =>
    (db.devices.select fun device =>
      device.carId = some car.id && !car.adminBlocked && device.state = .available &&
        device.lastSeenAt.any (freshnessCutoff < ·)).flatMap fun _ =>
      (carSessions db now car).map fun driveSessionId =>
        { id := car.id, slug := car.slug, name := car.name, batteryPercent := car.batteryPercent,
          carState := car.state, driveSessionId }
  rows.dedup.insertionSort fun a b =>
    collate a.name b.name < 0 ∨ (collate a.name b.name = 0 ∧ a.id ≤ b.id)

def listQueueCars (collate : String → String → Int) (db : Database) (now : Int) :
    List QueueCar :=
  (queueCarRows collate db now).map fun row =>
    { id := row.id, slug := row.slug, name := row.name, batteryPercent := row.batteryPercent,
      availability :=
        if row.carState = .available ∧ row.driveSessionId = none then .available else .inUse }

/-- `cars.filter((car) => car.availability === "available").length`. -/
def capacity (cars : List QueueCar) : Nat := (cars.filter (·.availability = .available)).length

/-- The order of the queue: `order by joined_at asc, id asc`. -/
def Before (a b : QueueEntry) : Prop :=
  a.joinedAt < b.joinedAt ∨ (a.joinedAt = b.joinedAt ∧ a.id ≤ b.id)

instance : DecidableRel Before := fun a b => by unfold Before; infer_instance

/-- The live rows, in the order of the queue. -/
def liveQueue (table : Table QueueEntry) : List QueueEntry :=
  (table.select (·.status.live)).insertionSort Before

/-- Expire the waiting rows whose lease has run out. -/
def expireWaiting (now : Int) (table : Table QueueEntry) : Table QueueEntry :=
  table.update (fun entry => entry.status = .waiting && decide (entry.expiresAt ≤ now))
    fun entry => { entry with status := .expired, updatedAt := now }

/-- The body of the loop of `advanceLiveQueue`, on the stored rows and the ones kept so far. -/
def advanceEntry (capacity : Nat) (now : Int) (state : Table QueueEntry × List QueueRow)
    (entry : QueueRow) : Table QueueEntry × List QueueRow :=
  let (table, entries) := state
  let eligible := decide (entries.length < capacity)
  if entry.status = .offered ∧ eligible ∧ entry.expiresAt ≤ now then
    let table := table.update (·.id = entry.id) fun row =>
      { row with status := .missed, updatedAt := now }
    (table, entries)
  else
    let status : QueueStatus := if eligible then .offered else .waiting
    -- Loss of capacity cancels the clock without penalizing the driver.
    if entry.status ≠ status then
      let expiresAt := now + if eligible then queueOfferMs else queueLeaseMs
      let table := table.update (·.id = entry.id) fun row =>
        { row with status, expiresAt, updatedAt := now }
      (table, entries ++ [{ entry with status, expiresAt }])
    else (table, entries ++ [entry])

structure QueueState where
  entries : List QueueRow
  cars : List QueueCar

def advanceLiveQueue (collate : String → String → Int) (db : Database) (now : Int) :
    Database × QueueState :=
  let table := expireWaiting now db.queueEntries
  let rows := (liveQueue table).map queueRow
  let cars := listQueueCars collate db now
  let (table, entries) := rows.foldl (advanceEntry (capacity cars) now) (table, [])
  ({ db with queueEntries := table }, { entries, cars })

end RcOnline.Web
