import RcOnline.Lib.Interleave
import RcOnline.Web.LiveQueue

/-!
# The live queue's store

`createPostgresLiveQueueStore` of `apps/web/app/live-queue-store.ts`. `join` and `read` bring the
queue up to an instant, give the user a place or renew its lease, and answer with what the user
sees; `leave` gives the place up. Each is one transaction under the queue lock, and an error undoes
it.
-/

namespace RcOnline.Web

open RcOnline.Lib RcOnline.Schema

inductive SnapshotStatus where
  | waiting
  | ready
  | driving
  | expired
  deriving DecidableEq

/-- Instants stand for their ISO texts. -/
structure LiveQueueSnapshot where
  entryId : Uuid
  position : Nat
  count : Nat
  availableCarCount : Nat
  status : SnapshotStatus
  offerExpiresAt : Option Int
  serverNow : Int
  cars : List QueueCar
  deriving DecidableEq

/-- The store passes rows that carry a status and a deadline. -/
def queueSnapshotFromState (userId : Uuid) (entries : List QueueRow) (cars : List QueueCar)
    (now : Int) : Except String LiveQueueSnapshot :=
  match entries.find? (·.userId = userId) with
  | none => .error "Live queue entry is missing"
  | some entry =>
    let position := entries.findIdx (·.userId = userId) + 1
    let ready := 0 < capacity cars ∧ position ≤ capacity cars ∧ entry.status = .offered
    .ok
      { entryId := entry.id, position, count := entries.length,
        availableCarCount := capacity cars,
        status := if ready then .ready else .waiting,
        offerExpiresAt := if ready then some entry.expiresAt else none, serverNow := now, cars }

/-- What `join` and `read` are called with and meet: the clock once the lock is held, the id that a
new row gets, the session that the query for one returns, and the database's collation. -/
structure QueueInput where
  userId : Uuid
  now : Int
  entryId : Uuid
  pick : Nat
  collate : String → String → Int

/-- The live, unexpired sessions of the user. -/
def drivingSessions (db : Database) (userId : Uuid) (now : Int) : List DriveSession :=
  db.driveSessions.select fun session =>
    session.userId = userId && session.status.live && decide (now < session.expiresAt)

/-- `order by joined_at desc, id desc limit 1`. -/
def lastEntry (userId : Uuid) (table : Table QueueEntry) : Option QueueEntry :=
  ((table.select (·.userId = userId)).insertionSort fun a b => Before b a).head?

/-- The row that `joinOrRefresh` inserts. -/
def newEntry (input : QueueInput) : QueueEntry :=
  { id := input.entryId, userId := input.userId, status := .waiting, joinedAt := input.now,
    expiresAt := input.now + queueLeaseMs, createdAt := input.now, updatedAt := input.now }

/-- `insert … on conflict do nothing`. -/
def insertEntry (entry : QueueEntry) (db : Database) : Database :=
  match db.queueEntries.insert? entry.clash entry with
  | none => db
  | some queueEntries => { db with queueEntries }

/-- Renew the lease of a waiting row. -/
def refreshLease (id : Uuid) (now : Int) (db : Database) : Database :=
  { db with
    queueEntries := db.queueEntries.update (·.id = id) fun row =>
      { row with expiresAt := now + queueLeaseMs, updatedAt := now } }

/-- The end of `joinOrRefresh`: the queue is advanced once more and the user's row is read. An
error takes the transaction back to `start`. -/
def placedSnapshot (input : QueueInput) (start db : Database) :
    Except String LiveQueueSnapshot × Database :=
  let (db, next) := advanceLiveQueue input.collate db input.now
  match queueSnapshotFromState input.userId next.entries next.cars input.now with
  | .error error => (.error error, start)
  | .ok snapshot => (.ok snapshot, db)

/-- What a user sees who has no place in the queue. -/
def unplacedSnapshot (entryId : Uuid) (status : SnapshotStatus) (state : QueueState) (now : Int) :
    LiveQueueSnapshot :=
  { entryId, position := 0, count := state.entries.length,
    availableCarCount := capacity state.cars, status, offerExpiresAt := none, serverNow := now,
    cars := state.cars }

def joinOrRefresh (explicitJoin : Bool) (input : QueueInput) (start : Database) :
    Except String LiveQueueSnapshot × Database :=
  let now := input.now
  let (db, state) := advanceLiveQueue input.collate start now
  let driving := limitOne input.pick (drivingSessions db input.userId now)
  match driving.bind (·.queueEntryId) with
  | some queueEntryId => (.ok (unplacedSnapshot queueEntryId .driving state now), db)
  | none =>
    match state.entries.find? (·.userId = input.userId) with
    | some entry =>
      if entry.status = .waiting then placedSnapshot input start (refreshLease entry.id now db)
      else placedSnapshot input start db
    | none =>
      -- Polling and page reloads must not silently rejoin a missed offer.
      match (lastEntry input.userId db.queueEntries).filter fun last =>
          !explicitJoin && last.status = .missed with
      | some last => (.ok (unplacedSnapshot last.id .expired state now), db)
      | none => placedSnapshot input start (insertEntry (newEntry input) db)

def join (input : QueueInput) : Prog Database (Except String LiveQueueSnapshot) :=
  .stmt (joinOrRefresh true input)

def read (input : QueueInput) : Prog Database (Except String LiveQueueSnapshot) :=
  .stmt (joinOrRefresh false input)

/-- Leaving keeps the row's key. -/
theorem key_left (now : Int) (row : QueueEntry) :
    Row.key { row with status := .left, updatedAt := now, expiresAt := now } = Row.key row := rfl

/-- The rows without the user's place. -/
def leaveQueue (userId : Uuid) (now : Int) (table : Table QueueEntry) : Table QueueEntry :=
  table.update (fun row => row.userId = userId && row.status.live)
    (fun row => { row with status := .left, updatedAt := now, expiresAt := now }) (key_left now)

def leaveTransaction (userId : Uuid) (now : Int) (collate : String → String → Int)
    (db : Database) : Database :=
  let queueEntries := leaveQueue userId now db.queueEntries
  (advanceLiveQueue collate { db with queueEntries } now).1

def leave (userId : Uuid) (now : Int) (collate : String → String → Int) : Prog Database Unit :=
  .stmt fun db => ((), leaveTransaction userId now collate db)

end RcOnline.Web
