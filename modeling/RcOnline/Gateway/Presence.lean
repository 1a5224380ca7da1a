import RcOnline.Gateway.Server

/-!
# Presence

`PresenceRegistry` (`apps/gateway/src/presence.ts`) with the calls that are under way on it. A call
runs up to its first `await` when it is made, and from one `await` to the next when the store has
answered; a store call takes effect at one moment in between. `disconnect_converges` says that a
device is offline once a disconnect that began after its last heartbeat is done, as long as no
heartbeat is overtaken by a disconnect; `overtaken_available` is a heartbeat that is.
-/

namespace RcOnline.Gateway

open RcOnline.Lib RcOnline.Schema

/-- An entry of `lastSeen`. The place orders the entries as they were put in, so that a sweep knows
where it stands in a map that changes under it. -/
structure Seen where
  seenAt : Int
  place : Nat
  deriving DecidableEq

structure Presence where
  lastSeen : OrdMap Uuid Seen
  /-- The place of the next new entry. -/
  places : Nat
  store : Database

/-- What a call under way does next. -/
inductive PresenceTask where
  | recordHeartbeat (deviceId : Uuid) (health : DeviceHealth) (now : Int)
  | remember (deviceId : Uuid) (health : DeviceHealth) (now : Int) (device : Option (Uuid × Bool))
  | setPresenceState (deviceId : Uuid) (state : PresenceState) (now : Int)
  | markDeviceOffline (deviceId : Uuid) (now : Int)
  | sweepOffline (deviceId : Uuid) (cutoffMs now : Int) (place : Nat)
  | sweep (cutoffMs now : Int) (place : Nat)
  | expireStaleDevices (cutoffMs now : Int)
  | finished

namespace Presence

variable (s : Presence)

/-- A store call. -/
def call {α : Type} (p : Prog Database α) : α × Presence :=
  ((p.run s.store).1, { s with store := (p.run s.store).2 })

/-- `lastSeen.set`. -/
def see (deviceId : Uuid) (now : Int) : Presence :=
  match s.lastSeen.get? deviceId with
  | some seen =>
    { s with lastSeen := s.lastSeen.set deviceId { seenAt := now, place := seen.place } }
  | none =>
    { s with
      lastSeen := s.lastSeen.set deviceId { seenAt := now, place := s.places }
      places := s.places + 1 }

def forget (deviceId : Uuid) : Presence := { s with lastSeen := s.lastSeen.delete deviceId }

def heartbeat (deviceId : Uuid) (health : DeviceHealth) (now : Int) : Presence × PresenceTask :=
  (s, .recordHeartbeat deviceId health now)

def disconnect (deviceId : Uuid) (now : Int) : Presence × PresenceTask :=
  (s.forget deviceId, .markDeviceOffline deviceId now)

/-- The sweep's loop from an entry on, up to the first one that is stale. -/
def sweepFrom (cutoffMs now : Int) (place : Nat) : Presence × PresenceTask :=
  match s.lastSeen.entries.find? fun entry =>
      place ≤ entry.2.place && entry.2.seenAt < cutoffMs with
  | some (deviceId, seen) =>
    (s.forget deviceId, .sweepOffline deviceId cutoffMs now (seen.place + 1))
  | none => (s, .expireStaleDevices cutoffMs now)

def sweep (staleAfterMs now : Int) : Presence × PresenceTask :=
  s.sweepFrom (now - staleAfterMs) now 0

/-- The next step of a call: a store call, or what the code does when it has answered. -/
def advance : PresenceTask → Presence × PresenceTask
  | .recordHeartbeat deviceId health now =>
    let (device, s') := s.call (Gateway.recordHeartbeat deviceId health now)
    (s', .remember deviceId health now device)
  -- the call throws: the device is no longer active
  | .remember _ _ _ none => (s, .finished)
  | .remember deviceId health now (some (_, adminBlocked)) =>
    (s.see deviceId now, .setPresenceState deviceId (Server.chooseState adminBlocked health) now)
  | .setPresenceState deviceId state now =>
    ((s.call (Gateway.setPresenceState deviceId state now)).2, .finished)
  | .markDeviceOffline deviceId now =>
    ((s.call (Gateway.markDeviceOffline deviceId now)).2, .finished)
  | .sweepOffline deviceId cutoffMs now place =>
    ((s.call (Gateway.markDeviceOffline deviceId now)).2, .sweep cutoffMs now place)
  | .sweep cutoffMs now place => s.sweepFrom cutoffMs now place
  | .expireStaleDevices cutoffMs now =>
    ((s.call (Gateway.expireStaleDevices cutoffMs now)).2, .finished)
  | .finished => (s, .finished)

end Presence

inductive PresenceCall where
  | heartbeat (deviceId : Uuid) (health : DeviceHealth) (now : Int)
  | disconnect (deviceId : Uuid) (now : Int)
  | sweep (now : Int)

/-- What a call does when it is made. -/
def PresenceCall.begin (staleAfterMs : Int) (s : Presence) : PresenceCall → Presence × PresenceTask
  | .heartbeat deviceId health now => s.heartbeat deviceId health now
  | .disconnect deviceId now => s.disconnect deviceId now
  | .sweep now => s.sweep staleAfterMs now

/-- The registry with the calls made so far, in their order. -/
structure PresenceCalls where
  presence : Presence
  tasks : List PresenceTask

inductive PresenceEvent where
  | start (call : PresenceCall)
  | advance (i : Nat)

/-- A call is made, or one of them goes on. -/
def PresenceCalls.step (staleAfterMs : Int) (s : PresenceCalls) :
    PresenceEvent → Option PresenceCalls
  | .start call =>
    let (presence, task) := call.begin staleAfterMs s.presence
    some { presence, tasks := s.tasks ++ [task] }
  | .advance i =>
    s.tasks[i]?.map fun task =>
      let (presence, next) := s.presence.advance task
      { presence, tasks := s.tasks.set i next }

/-! ## The store -/

/-- The car of each device. -/
def carOf (db : Database) (deviceId : Uuid) : Option Uuid :=
  (db.devices.get? deviceId).bind (·.carId)

/-- The cars of the devices are as they were, and a car is not blocked. -/
structure Watched (cars : Uuid → Option Uuid) (carId : Uuid) (db : Database) : Prop where
  devices : ∀ deviceId, carOf db deviceId = cars deviceId
  car : ∃ car, db.cars.get? carId = some car ∧ car.adminBlocked = false

/-- A device and a car are offline. -/
structure Offline (deviceId carId : Uuid) (db : Database) : Prop where
  device : (db.devices.get? deviceId).map (·.state) = some .offline
  car : (db.cars.get? carId).map (·.state) = some .offline

section store

variable {cars : Uuid → Option Uuid} {deviceId carId other : Uuid} {db : Database}

theorem Watched.updateDevice (h : Watched cars carId db) {f : Device → Device}
    (hf : ∀ r, Row.key (f r) = Row.key r) (hcar : ∀ row, (f row).carId = row.carId) :
    Watched cars carId (updateDevice other f hf db).2 where
  devices := by
    intro id
    rw [← h.devices id, carOf, carOf, Gateway.updateDevice, Table.get?_update, Option.bind_map]
    exact congrArg _ (funext fun row => patch_column hcar)
  car := h.car

theorem Watched.updateCar (h : Watched cars carId db) {p : Database → Bool} {f : Car → Car}
    (hf : ∀ r, Row.key (f r) = Row.key r)
    (hblocked : ∀ car, (f car).adminBlocked = car.adminBlocked) :
    Watched cars carId (updateCar other p f hf db).2 where
  devices := h.devices
  car := by
    obtain ⟨car, hcar, hfree⟩ := h.car
    have hget : (Gateway.updateCar other p f hf db).2.cars.get? carId =
        some (patch (fun car => car.id = other && p db) f car) := by
      rw [Gateway.updateCar, Table.get?_update, hcar]
      rfl
    exact ⟨_, hget, (patch_column hblocked).trans hfree⟩

theorem Watched.not_blocked (h : Watched cars carId db) {car : Car}
    (hcar : db.cars.get? carId = some car) : ¬ car.adminBlocked = true := by
  obtain ⟨free, hfree, hblocked⟩ := h.car
  obtain rfl := Option.some.inj (hcar.symm.trans hfree)
  exact Bool.eq_false_iff.1 hblocked

/-- An update of a device leaves an offline one offline, where it sets no other state. -/
theorem Offline.updateDevice (h : Offline deviceId carId db) {f : Device → Device}
    (hf : ∀ r, Row.key (f r) = Row.key r)
    (hstate : other = deviceId → ∀ row, row.state = .offline → (f row).state = .offline) :
    Offline deviceId carId (updateDevice other f hf db).2 where
  device := by
    obtain ⟨row, hrow, hoffline⟩ := Option.map_eq_some_iff.1 h.device
    rw [Gateway.updateDevice, Table.get?_update, hrow]
    refine congrArg some ?_
    unfold patch
    split
    · next hid =>
      have hkey := (Table.get?_eq_some_iff.1 hrow).2
      exact hstate ((of_decide_eq_true hid).symm.trans hkey) row hoffline
    · exact hoffline
  car := h.car

theorem Offline.updateCar (h : Offline deviceId carId db) {p : Database → Bool} {f : Car → Car}
    (hf : ∀ r, Row.key (f r) = Row.key r)
    (hstate : other = carId → ∀ car, db.cars.get? carId = some car → car.state = .offline →
      (f car).state = .offline) :
    Offline deviceId carId (updateCar other p f hf db).2 where
  device := h.device
  car := by
    obtain ⟨car, hcar, hoffline⟩ := Option.map_eq_some_iff.1 h.car
    rw [Gateway.updateCar, Table.get?_update, hcar]
    refine congrArg some ?_
    unfold patch
    split
    · next hid =>
      rw [Bool.and_eq_true, decide_eq_true_eq] at hid
      have hkey := (Table.get?_eq_some_iff.1 hcar).2
      exact hstate (hid.1.symm.trans hkey) car hcar hoffline
    · exact hoffline

/-! ### The calls -/

/-- What the calls keep: the cars of the devices, and that a car is not blocked. -/
abbrev Watches (cars : Uuid → Option Uuid) (carId : Uuid) {α : Type} (p : Prog Database α) : Prop :=
  p.Keeps (Watched cars carId) fun _ _ => True

/-- What a call keeps that sets no device's state but to offline. -/
abbrev LeavesOffline (cars : Uuid → Option Uuid) (deviceId carId : Uuid) {α : Type}
    (p : Prog Database α) : Prop :=
  p.Keeps (fun db => Watched cars carId db ∧ Offline deviceId carId db) fun _ _ => True

theorem recordHeartbeat_watches (health : DeviceHealth) (now : Int) :
    Watches cars carId (recordHeartbeat other health now) := by
  apply Prog.Keeps.bind (.stmt fun db h => ⟨h.updateDevice _ fun _ => rfl, trivial⟩)
  intro id
  split
  · exact .pure _
  · split
    · exact .bind (.read (fun _ => trivial) _) fun _ => .pure _
    · refine .bind (.stmt fun db h => ⟨h.updateCar _ fun _ => rfl, trivial⟩) fun _ => ?_
      exact .bind (.read (fun _ => trivial) _) fun _ => .pure _

theorem recordHeartbeat_leavesOffline (health : DeviceHealth) (now : Int) :
    LeavesOffline cars deviceId carId (recordHeartbeat other health now) := by
  refine .bind (.stmt fun db h => ⟨⟨h.1.updateDevice _ fun _ => rfl, ?_⟩, trivial⟩) fun id => ?_
  · exact h.2.updateDevice _ fun _ _ hrow => hrow
  split
  · exact .pure _
  · split
    · exact .bind (.read (fun _ => trivial) _) fun _ => .pure _
    · refine .bind (.stmt fun db h => ⟨⟨h.1.updateCar _ fun _ => rfl, ?_⟩, trivial⟩) fun _ => ?_
      · exact h.2.updateCar _ fun _ _ _ hoffline => hoffline
      · exact .bind (.read (fun _ => trivial) _) fun _ => .pure _

theorem setPresenceState_watches (state : PresenceState) (now : Int) :
    Watches cars carId (setPresenceState other state now) := by
  apply Prog.Keeps.bind (.stmt fun db h => ⟨h.updateDevice _ fun _ => rfl, trivial⟩)
  intro id
  split
  · exact .pure _
  · refine .bind (.read (fun _ => trivial) _) fun _ => ?_
    exact .stmt fun db h => ⟨h.updateCar _ fun _ => rfl, trivial⟩

theorem markDeviceOffline_watches (now : Int) :
    Watches cars carId (markDeviceOffline other now) := by
  apply Prog.Keeps.bind (.stmt fun db h => ⟨h.updateDevice _ fun _ => rfl, trivial⟩)
  intro id
  split
  · exact .pure _
  · exact .stmt fun db h => ⟨h.updateCar _ fun _ => rfl, trivial⟩

/-- The car is not blocked, so that it is set to offline. -/
theorem markDeviceOffline_leavesOffline (now : Int) :
    LeavesOffline cars deviceId carId (markDeviceOffline other now) := by
  refine .bind (.stmt fun db h => ⟨⟨h.1.updateDevice _ fun _ => rfl, ?_⟩, trivial⟩) fun id => ?_
  · exact h.2.updateDevice _ fun _ _ _ => rfl
  split
  · exact .pure _
  · refine .stmt fun db h => ⟨⟨h.1.updateCar _ fun _ => rfl, h.2.updateCar _ ?_⟩, trivial⟩
    intro _ car hcar _
    exact if_neg (h.1.not_blocked hcar)

theorem expireStaleDevices_watches (cutoff now : Int) :
    Watches cars carId (expireStaleDevices cutoff now) := by
  refine .bind (.read (fun _ => trivial) _) fun _ => ?_
  exact .bind (.forM fun _ => markDeviceOffline_watches now) fun _ => .pure _

theorem expireStaleDevices_leavesOffline (cutoff now : Int) :
    LeavesOffline cars deviceId carId (expireStaleDevices cutoff now) := by
  refine .bind (.read (fun _ => trivial) _) fun _ => ?_
  exact .bind (.forM fun _ => markDeviceOffline_leavesOffline now) fun _ => .pure _

/-- A device of another car leaves a device and its car as they are. -/
theorem setPresenceState_offline (h : Offline deviceId carId db) (hother : other ≠ deviceId)
    (hcar : carOf db other ≠ some carId) (state : PresenceState) (now : Int) :
    Offline deviceId carId ((setPresenceState other state now).run db).2 := by
  rw [setPresenceState, Prog.run_bind, Prog.run_stmt]
  have hdevice : Offline deviceId carId (updateDevice other (fun row =>
      { row with state, updatedAt := now }) (fun _ => rfl) db).2 :=
    h.updateDevice _ fun heq => absurd heq hother
  have hread : (updateDevice other (fun row =>
      { row with state, updatedAt := now }) (fun _ => rfl) db).1 = carOf db other := rfl
  rw [hread]
  cases hid : carOf db other with
  | none => exact hdevice
  | some id => exact hdevice.updateCar _ fun heq => absurd (hid.trans (congrArg some heq)) hcar

/-- A device that is marked is offline, and its car with it. -/
theorem markDeviceOffline_offline (h : Watched cars carId db) (hcar : cars deviceId = some carId)
    (now : Int) : Offline deviceId carId ((markDeviceOffline deviceId now).run db).2 := by
  have hid : carOf db deviceId = some carId := (h.devices deviceId).trans hcar
  obtain ⟨row, hrow, hrowCar⟩ := Option.bind_eq_some_iff.1 hid
  obtain ⟨car, hget, hblocked⟩ := h.car
  have hkeys := (Table.get?_eq_some_iff.1 hrow).2
  have hkey := (Table.get?_eq_some_iff.1 hget).2
  rw [markDeviceOffline, Prog.run_bind, Prog.run_stmt]
  have hread : (updateDevice deviceId (fun row =>
      { row with state := .offline, connectedAt := none, updatedAt := now }) (fun _ => rfl) db).1 =
        some carId := hid
  rw [hread]
  dsimp only
  rw [Prog.run_stmt]
  constructor
  · rw [updateCar, updateDevice, Table.get?_update, hrow]
    exact congrArg (some ∘ Device.state) (patch_of (decide_eq_true hkeys))
  · rw [updateCar, updateDevice, Table.get?_update, hget]
    refine (congrArg (some ∘ Car.state) (patch_of ?_)).trans (congrArg some (if_neg ?_))
    · exact (Bool.and_true _).trans (decide_eq_true hkey)
    · exact Bool.eq_false_iff.1 hblocked

end store

/-! ## The steps of a call -/

/-- The device that a heartbeat is of. -/
def PresenceTask.heartbeatOf : PresenceTask → Option Uuid
  | .recordHeartbeat deviceId _ _ | .remember deviceId _ _ _ | .setPresenceState deviceId _ _ =>
    some deviceId
  | _ => none

/-- A heartbeat that has the device still to remember. -/
def PresenceTask.remembers (deviceId : Uuid) : PresenceTask → Bool
  | .recordHeartbeat id _ _ | .remember id _ _ _ => id = deviceId
  | _ => false

section steps

variable {cars : Uuid → Option Uuid} {deviceId carId : Uuid} {s : Presence} {task : PresenceTask}

theorem forget_forgotten (other : Uuid) (h : s.lastSeen.get? deviceId = none) :
    (s.forget other).lastSeen.get? deviceId = none := by
  rw [Presence.forget, OrdMap.get?_delete, h, ite_self]

/-- The loop of a sweep touches `lastSeen` only, and forgets at most. -/
theorem sweepFrom_cases (cutoffMs now : Int) (place : Nat) :
    (∃ other, (s.sweepFrom cutoffMs now place).1 = s.forget other ∧
      ∃ place', (s.sweepFrom cutoffMs now place).2 = .sweepOffline other cutoffMs now place') ∨
    s.sweepFrom cutoffMs now place = (s, .expireStaleDevices cutoffMs now) := by
  unfold Presence.sweepFrom
  split
  · next other seen hfind => exact .inl ⟨other, rfl, _, rfl⟩
  · exact .inr rfl

theorem sweepFrom_store (cutoffMs now : Int) (place : Nat) :
    (s.sweepFrom cutoffMs now place).1.store = s.store := by
  rcases sweepFrom_cases (s := s) cutoffMs now place with ⟨other, heq, -⟩ | heq
  · rw [heq, Presence.forget]
  · rw [heq]

theorem sweepFrom_forgotten (cutoffMs now : Int) (place : Nat)
    (h : s.lastSeen.get? deviceId = none) :
    (s.sweepFrom cutoffMs now place).1.lastSeen.get? deviceId = none := by
  rcases sweepFrom_cases (s := s) cutoffMs now place with ⟨other, heq, -⟩ | heq
  · rw [heq]
    exact forget_forgotten other h
  · rw [heq]
    exact h

theorem sweepFrom_heartbeatOf (cutoffMs now : Int) (place : Nat) :
    (s.sweepFrom cutoffMs now place).2.heartbeatOf = none := by
  rcases sweepFrom_cases (s := s) cutoffMs now place with ⟨other, -, place', heq⟩ | heq
  · rw [heq]
    rfl
  · rw [heq]
    rfl

/-- A heartbeat that has a device to remember is a heartbeat of it. -/
theorem PresenceTask.heartbeatOf_of_remembers (h : task.remembers deviceId = true) :
    task.heartbeatOf = some deviceId := by
  cases task with
  | recordHeartbeat id health now | remember id health now device =>
    exact congrArg some (of_decide_eq_true h)
  | _ => cases h

theorem advance_watched (h : Watched cars carId s.store) :
    Watched cars carId (s.advance task).1.store := by
  cases task with
  | recordHeartbeat id health now => exact (recordHeartbeat_watches health now).run h
  | remember id health now device =>
    cases device with
    | none => exact h
    | some device =>
      rw [Presence.advance, Presence.see]
      split <;> exact h
  | setPresenceState id state now => exact (setPresenceState_watches state now).run h
  | markDeviceOffline id now => exact (markDeviceOffline_watches now).run h
  | sweepOffline id cutoffMs now place => exact (markDeviceOffline_watches now).run h
  | sweep cutoffMs now place =>
    rw [Presence.advance, sweepFrom_store]
    exact h
  | expireStaleDevices cutoffMs now => exact (expireStaleDevices_watches cutoffMs now).run h
  | finished => exact h

/-- A call stays the heartbeat that it is. -/
theorem advance_heartbeatOf (h : (s.advance task).2.heartbeatOf = some deviceId) :
    task.heartbeatOf = some deviceId := by
  cases task with
  | recordHeartbeat id health now => exact h
  | remember id health now device =>
    cases device with
    | none => cases h
    | some device => exact h
  | sweep cutoffMs now place =>
    rw [Presence.advance, sweepFrom_heartbeatOf] at h
    cases h
  | _ => cases h

theorem advance_remembers (h : (s.advance task).2.remembers deviceId = true) :
    task.remembers deviceId = true := by
  cases task with
  | recordHeartbeat id health now => exact h
  | remember id health now device =>
    cases device with
    | none => cases h
    | some device => cases h
  | sweep cutoffMs now place =>
    have hbeat := PresenceTask.heartbeatOf_of_remembers h
    rw [Presence.advance, sweepFrom_heartbeatOf] at hbeat
    cases hbeat
  | _ => cases h

/-- Only a heartbeat of the device remembers it. -/
theorem advance_forgotten (h : s.lastSeen.get? deviceId = none)
    (htask : ¬ task.remembers deviceId = true) :
    (s.advance task).1.lastSeen.get? deviceId = none := by
  cases task with
  | remember id health now device =>
    cases device with
    | none => exact h
    | some device =>
      have hid : id ≠ deviceId := fun heq => htask (decide_eq_true heq)
      rw [Presence.advance, Presence.see]
      split
      · exact (OrdMap.get?_set_of_ne _ _ hid).trans h
      · exact (OrdMap.get?_set_of_ne _ _ hid).trans h
  | sweep cutoffMs now place => exact sweepFrom_forgotten cutoffMs now place h
  | _ => exact h

/-- Only a heartbeat of the device, or of another one of its car, sets it to another state. -/
theorem advance_offline (hwatched : Watched cars carId s.store)
    (h : Offline deviceId carId s.store) (htask : ∀ id, task.heartbeatOf = some id →
      id ≠ deviceId ∧ cars id ≠ some carId) :
    Offline deviceId carId (s.advance task).1.store := by
  cases task with
  | recordHeartbeat id health now =>
    exact ((recordHeartbeat_leavesOffline health now).run ⟨hwatched, h⟩).2
  | remember id health now device =>
    cases device with
    | none => exact h
    | some device =>
      rw [Presence.advance, Presence.see]
      split <;> exact h
  | setPresenceState id state now =>
    obtain ⟨hother, hcar⟩ := htask id rfl
    exact setPresenceState_offline h hother (by rwa [hwatched.devices]) state now
  | markDeviceOffline id now | sweepOffline id cutoffMs now place =>
    exact ((markDeviceOffline_leavesOffline now).run ⟨hwatched, h⟩).2
  | sweep cutoffMs now place =>
    rw [Presence.advance, sweepFrom_store]
    exact h
  | expireStaleDevices cutoffMs now =>
    exact ((expireStaleDevices_leavesOffline cutoffMs now).run ⟨hwatched, h⟩).2
  | finished => exact h

variable {staleAfterMs : Int} {call : PresenceCall}

theorem begin_store : (call.begin staleAfterMs s).1.store = s.store := by
  cases call with
  | heartbeat id health now => rfl
  | disconnect id now => rfl
  | sweep now => exact sweepFrom_store _ _ _

theorem begin_heartbeatOf (h : (call.begin staleAfterMs s).2.heartbeatOf = some deviceId) :
    ∃ health now, call = .heartbeat deviceId health now := by
  cases call with
  | heartbeat id health now =>
    obtain rfl := Option.some.inj h
    exact ⟨health, now, rfl⟩
  | disconnect id now => cases h
  | sweep now =>
    rw [PresenceCall.begin, Presence.sweep, sweepFrom_heartbeatOf] at h
    cases h

theorem begin_forgotten (h : s.lastSeen.get? deviceId = none) :
    (call.begin staleAfterMs s).1.lastSeen.get? deviceId = none := by
  cases call with
  | heartbeat id health now => exact h
  | disconnect id now => exact forget_forgotten id h
  | sweep now => exact sweepFrom_forgotten _ _ _ h

end steps

/-! ## Runs -/

/-- When a disconnect of the device begins, no heartbeat has it still to remember; when the
disconnect marks it offline, no heartbeat that was made before is under way. -/
def NotOvertaken (deviceId : Uuid) (s : PresenceCalls) : PresenceEvent → Prop
  | .start (.disconnect id _) => id = deviceId → ∀ task ∈ s.tasks, ¬ task.remembers deviceId = true
  | .start _ => True
  | .advance j => ∀ now, s.tasks[j]? = some (.markDeviceOffline deviceId now) →
    ∀ i task, i < j → s.tasks[i]? = some task → task.heartbeatOf ≠ some deviceId

/-- A step of a run in which no heartbeat of the device is overtaken. -/
def InOrder (staleAfterMs : Int) (deviceId : Uuid) (s : PresenceCalls) (event : PresenceEvent)
    (t : PresenceCalls) : Prop :=
  NotOvertaken deviceId s event ∧ StepOf (PresenceCalls.step staleAfterMs) s event t

section runs

variable {staleAfterMs : Int} {cars : Uuid → Option Uuid} {deviceId carId : Uuid}
  {s t : PresenceCalls} {event : PresenceEvent}

/-- A heartbeat is of the device, or of one of another car. -/
def Apart (cars : Uuid → Option Uuid) (deviceId carId : Uuid) (event : PresenceEvent) : Prop :=
  ∀ id health now, event = .start (.heartbeat id health now) → id = deviceId ∨ cars id ≠ some carId

/-- What holds all along. -/
structure Tracked (cars : Uuid → Option Uuid) (deviceId carId : Uuid) (s : PresenceCalls) :
    Prop where
  store : Watched cars carId s.presence.store
  apart : ∀ task ∈ s.tasks, ∀ id, task.heartbeatOf = some id → id = deviceId ∨ cars id ≠ some carId

/-- How far a disconnect is that began after the last heartbeat: it has forgotten the device, and
marks it offline when the heartbeats before it are done. -/
inductive Leaving (deviceId carId : Uuid) (s : PresenceCalls) : Prop where
  | marking (j : Nat) (now : Int) (htask : s.tasks[j]? = some (.markDeviceOffline deviceId now))
    (hbefore : ∀ task ∈ s.tasks, ¬ task.remembers deviceId = true)
    (hafter : ∀ i task, j < i → s.tasks[i]? = some task → task.heartbeatOf ≠ some deviceId)
  | marked (hoffline : Offline deviceId carId s.presence.store)
    (hnone : ∀ task ∈ s.tasks, task.heartbeatOf ≠ some deviceId)

/-- What an event does to the calls. -/
theorem step_cases (h : PresenceCalls.step staleAfterMs s event = some t) :
    (∃ call, event = .start call ∧ t.presence = (call.begin staleAfterMs s.presence).1 ∧
      t.tasks = s.tasks ++ [(call.begin staleAfterMs s.presence).2]) ∨
    ∃ i task, event = .advance i ∧ s.tasks[i]? = some task ∧
      t.presence = (s.presence.advance task).1 ∧
      t.tasks = s.tasks.set i (s.presence.advance task).2 := by
  cases event with
  | start call =>
    obtain rfl := Option.some.inj h
    exact .inl ⟨call, rfl, rfl, rfl⟩
  | advance i =>
    obtain ⟨task, htask, rfl⟩ := Option.map_eq_some_iff.1 h
    exact .inr ⟨i, task, rfl, htask, rfl, rfl⟩

theorem Tracked.step (h : Tracked cars deviceId carId s) (hevent : Apart cars deviceId carId event)
    (hstep : PresenceCalls.step staleAfterMs s event = some t) : Tracked cars deviceId carId t := by
  rcases step_cases hstep with ⟨call, rfl, hpresence, htasks⟩ |
    ⟨i, task, rfl, htask, hpresence, htasks⟩
  · constructor
    · rw [hpresence, begin_store]
      exact h.store
    · intro task hmem id hid
      rw [htasks, List.mem_append, List.mem_singleton] at hmem
      rcases hmem with hmem | rfl
      · exact h.apart task hmem id hid
      · obtain ⟨health, now, rfl⟩ := begin_heartbeatOf hid
        exact hevent id health now rfl
  · constructor
    · rw [hpresence]
      exact advance_watched h.store
    · intro other hmem id hid
      rw [htasks] at hmem
      rcases List.mem_or_eq_of_mem_set hmem with hmem | rfl
      · exact h.apart other hmem id hid
      · exact h.apart task (List.mem_of_getElem? htask) id (advance_heartbeatOf hid)

/-- The disconnect begins. -/
theorem Leaving.begin {now : Int}
    (hevent : NotOvertaken deviceId s (.start (.disconnect deviceId now)))
    (hstep : PresenceCalls.step staleAfterMs s (.start (.disconnect deviceId now)) = some t) :
    t.presence.lastSeen.get? deviceId = none ∧ Leaving deviceId carId t := by
  obtain rfl := Option.some.inj hstep
  refine ⟨OrdMap.get?_delete_self _ _, ?_⟩
  refine .marking s.tasks.length now List.getElem?_concat_length ?_ ?_
  · intro task hmem
    rcases List.mem_append.1 hmem with hmem | hmem
    · exact hevent rfl task hmem
    · rw [List.mem_singleton.1 hmem]
      exact Bool.false_ne_true
  · intro i task hi htask
    have hlength := (List.getElem?_eq_some_iff.1 htask).1
    rw [List.length_append, List.length_singleton] at hlength
    omega

theorem Leaving.not_remembers (h : Leaving deviceId carId s) {task : PresenceTask}
    (hmem : task ∈ s.tasks) : ¬ task.remembers deviceId = true := by
  cases h with
  | marking j now htask hbefore hafter => exact hbefore task hmem
  | marked hoffline hnone =>
    exact fun hremembers => hnone task hmem (task.heartbeatOf_of_remembers hremembers)

/-- Another call is made. -/
theorem Leaving.start (h : Leaving deviceId carId s) {call : PresenceCall}
    (hbeat : (call.begin staleAfterMs s.presence).2.heartbeatOf ≠ some deviceId)
    (hpresence : t.presence = (call.begin staleAfterMs s.presence).1)
    (htasks : t.tasks = s.tasks ++ [(call.begin staleAfterMs s.presence).2]) :
    Leaving deviceId carId t := by
  cases h with
  | marking j now htask hbefore hafter =>
    have hj := (List.getElem?_eq_some_iff.1 htask).1
    refine .marking j now ?_ ?_ ?_
    · rw [htasks, List.getElem?_append_left hj, htask]
    · intro task hmem
      rw [htasks, List.mem_append, List.mem_singleton] at hmem
      rcases hmem with hmem | rfl
      · exact hbefore task hmem
      · exact fun hremembers => hbeat (PresenceTask.heartbeatOf_of_remembers hremembers)
    · intro i task hi hget
      rw [htasks] at hget
      rcases Nat.lt_or_ge i s.tasks.length with hlt | hge
      · rw [List.getElem?_append_left hlt] at hget
        exact hafter i task hi hget
      · rw [List.getElem?_append_right hge] at hget
        rwa [List.mem_singleton.1 (List.mem_of_getElem? hget)]
  | marked hoffline hnone =>
    refine .marked ?_ fun task hmem => ?_
    · rw [hpresence, begin_store]
      exact hoffline
    · rw [htasks, List.mem_append, List.mem_singleton] at hmem
      rcases hmem with hmem | rfl
      · exact hnone task hmem
      · exact hbeat

/-- A call goes on. -/
theorem Leaving.advance (htracked : Tracked cars deviceId carId s)
    (hcar : cars deviceId = some carId) (h : Leaving deviceId carId s) {i : Nat}
    {task : PresenceTask} (hevent : NotOvertaken deviceId s (.advance i))
    (htask : s.tasks[i]? = some task) (hpresence : t.presence = (s.presence.advance task).1)
    (htasks : t.tasks = s.tasks.set i (s.presence.advance task).2) :
    Leaving deviceId carId t := by
  have hmem := List.mem_of_getElem? htask
  cases h with
  | marking j now hmark hbefore hafter =>
    by_cases hij : i = j
    · -- the disconnect marks the device, and what is left are no heartbeats of it
      subst hij
      obtain rfl := Option.some.inj (htask.symm.trans hmark)
      refine .marked ?_ fun other hother => ?_
      · rw [hpresence]
        exact markDeviceOffline_offline htracked.store hcar now
      · rw [htasks] at hother
        obtain ⟨k, hk⟩ := List.mem_iff_getElem?.1 hother
        rcases Nat.lt_trichotomy i k with hlt | rfl | hlt
        · rw [List.getElem?_set_ne hlt.ne] at hk
          exact hafter k other hlt hk
        · rw [List.getElem?_set_self (List.getElem?_eq_some_iff.1 htask).1] at hk
          obtain rfl := Option.some.inj hk
          exact nofun
        · rw [List.getElem?_set_ne hlt.ne'] at hk
          exact hevent now hmark k other hlt hk
    · refine .marking j now ?_ ?_ ?_
      · rw [htasks, List.getElem?_set_ne hij, hmark]
      · intro other hother
        rw [htasks] at hother
        rcases List.mem_or_eq_of_mem_set hother with hother | rfl
        · exact hbefore other hother
        · exact fun hremembers => hbefore task hmem (advance_remembers hremembers)
      · intro k other hk hget
        rw [htasks, List.getElem?_set] at hget
        split at hget
        · next hik =>
          subst hik
          split at hget
          · obtain rfl := Option.some.inj hget
            exact fun hbeat => hafter i task hk htask (advance_heartbeatOf hbeat)
          · cases hget
        · exact hafter k other hk hget
  | marked hoffline hnone =>
    refine .marked ?_ fun other hother => ?_
    · rw [hpresence]
      refine advance_offline htracked.store hoffline fun id hid => ?_
      have hne : id ≠ deviceId := fun heq => hnone task hmem (heq ▸ hid)
      exact ⟨hne, (htracked.apart task hmem id hid).resolve_left hne⟩
    · rw [htasks] at hother
      rcases List.mem_or_eq_of_mem_set hother with hother | rfl
      · exact hnone other hother
      · exact fun hbeat => hnone task hmem (advance_heartbeatOf hbeat)

/-- No event but a heartbeat of the device brings it back. -/
theorem Leaving.step (htracked : Tracked cars deviceId carId s)
    (hcar : cars deviceId = some carId) (hforgotten : s.presence.lastSeen.get? deviceId = none)
    (h : Leaving deviceId carId s) (hevent : NotOvertaken deviceId s event)
    (hbeat : ∀ health now, event ≠ .start (.heartbeat deviceId health now))
    (hstep : PresenceCalls.step staleAfterMs s event = some t) :
    t.presence.lastSeen.get? deviceId = none ∧ Leaving deviceId carId t := by
  rcases step_cases hstep with ⟨call, rfl, hpresence, htasks⟩ |
    ⟨i, task, rfl, htask, hpresence, htasks⟩
  · constructor
    · rw [hpresence]
      exact begin_forgotten hforgotten
    · refine h.start (fun hid => ?_) hpresence htasks
      obtain ⟨health, now, rfl⟩ := begin_heartbeatOf hid
      exact hbeat health now rfl
  · constructor
    · rw [hpresence]
      exact advance_forgotten hforgotten (h.not_remembers (List.mem_of_getElem? htask))
    · exact h.advance htracked hcar hevent htask hpresence htasks

end runs

/-- **Main result.** Where no heartbeat is overtaken, a device whose last disconnect began after its
last heartbeat is offline with its car, and no longer tracked, once all calls are done. -/
theorem disconnect_converges {staleAfterMs : Int} {deviceId carId : Uuid} {s t : PresenceCalls}
    {car : Car} (hidle : s.tasks = []) (hdevice : carOf s.presence.store deviceId = some carId)
    (hcar : s.presence.store.cars.get? carId = some car) (hblocked : car.adminBlocked = false)
    {before after : List PresenceEvent} {now : Int}
    (h : Run (InOrder staleAfterMs deviceId) s
      (before ++ .start (.disconnect deviceId now) :: after) t)
    (hothers : ∀ event ∈ before ++ .start (.disconnect deviceId now) :: after,
      Apart (carOf s.presence.store) deviceId carId event)
    (hlast : ∀ health now, .start (.heartbeat deviceId health now) ∉ after)
    (hdone : ∀ task ∈ t.tasks, task = .finished) :
    t.presence.lastSeen.get? deviceId = none ∧ Offline deviceId carId t.presence.store := by
  have htracked : Tracked (carOf s.presence.store) deviceId carId s :=
    ⟨⟨fun _ => rfl, car, hcar, hblocked⟩,
      fun task hmem => absurd (hidle ▸ hmem) List.not_mem_nil⟩
  rw [← List.singleton_append, ← List.append_assoc] at h
  obtain ⟨u, hfirst, hrest⟩ := h.split
  obtain ⟨v, hbefore, hdisconnect⟩ := hfirst.last
  have hv : Tracked (carOf s.presence.store) deviceId carId v := by
    refine hbefore.invariant_of_mem htracked fun hmem hs hstep => ?_
    exact hs.step (hothers _ (List.mem_append_left _ hmem)) hstep.2
  have hu : Tracked (carOf s.presence.store) deviceId carId u :=
    hv.step (hothers _ (List.mem_append_right _ List.mem_cons_self)) hdisconnect.2
  obtain ⟨-, hforgotten, hleaving⟩ : Tracked (carOf s.presence.store) deviceId carId t ∧
      t.presence.lastSeen.get? deviceId = none ∧ Leaving deviceId carId t := by
    refine hrest.invariant_of_mem
      (I := fun w => Tracked (carOf s.presence.store) deviceId carId w ∧
        w.presence.lastSeen.get? deviceId = none ∧ Leaving deviceId carId w)
      ⟨hu, Leaving.begin hdisconnect.1 hdisconnect.2⟩ ?_
    rintro x y event hmem ⟨hx, hforgotten, hleaving⟩ hstep
    refine ⟨hx.step (hothers _ ?_) hstep.2, ?_⟩
    · exact List.mem_append_right _ (List.mem_cons_of_mem _ hmem)
    · exact hleaving.step hx hdevice hforgotten hstep.1
        (fun health now heq => hlast health now (heq ▸ hmem)) hstep.2
  refine ⟨hforgotten, ?_⟩
  cases hleaving with
  | marking j now' htask =>
    cases hdone _ (List.mem_of_getElem? htask)
  | marked hoffline => exact hoffline

/-! ## A parked car -/

def parkedCar : Car :=
  { id := 1, slug := "one", name := "One", state := .offline, batteryPercent := none,
    adminBlocked := false, steeringTrimPercent := 0, updatedAt := 0 }

def parkedDevice : Device :=
  { id := 2, carId := some 1, state := .offline, lastSeenAt := none, metadata := .null,
    agentVersion := none, health := none, connectedAt := none, updatedAt := 0 }

def parkedDb : Database where
  cars := ⟨[parkedCar], List.nodup_singleton _⟩
  devices := ⟨[parkedDevice], List.nodup_singleton _⟩
  deviceCredentials := .empty
  firmwareVersions := .empty
  deviceUpdateJobs := .empty
  queueEntries := .empty
  driveSessions := .empty

def parked : PresenceCalls :=
  { presence := { lastSeen := ∅, places := 0, store := parkedDb }, tasks := [] }

def healthy : DeviceHealth :=
  { cameraReady := true, gpioReady := true, watchdogReady := true, batteryVoltage := none,
    batteryPercent := none }

/-- A heartbeat from its start to its end. -/
def beat : List PresenceEvent :=
  [.start (.heartbeat 2 healthy 1000), .advance 0, .advance 0, .advance 0]

/-- A heartbeat that is done before the device disconnects. -/
theorem parked_converges :
    ∃ t, Run (InOrder 15000 2) parked (beat ++ .start (.disconnect 2 2000) :: [.advance 1]) t ∧
      t.presence.lastSeen.get? 2 = none ∧ Offline 2 1 t.presence.store := by
  obtain ⟨t, hrun, hdone⟩ : ∃ t, Run (InOrder 15000 2) parked
      (beat ++ .start (.disconnect 2 2000) :: [.advance 1]) t ∧
      t.tasks = [.finished, .finished] := by
    refine ⟨_, .cons ⟨trivial, rfl⟩ (.cons ⟨by rintro _ ⟨⟩, rfl⟩ (.cons ⟨by rintro _ ⟨⟩, rfl⟩
      (.cons ⟨by rintro _ ⟨⟩, rfl⟩ (.cons ⟨?_, rfl⟩ (.cons ⟨?_, rfl⟩ .nil))))), rfl⟩
    · intro _ task hmem
      obtain rfl := List.mem_singleton.1 hmem
      exact Bool.false_ne_true
    · intro _ _ i task hi htask
      obtain rfl := Nat.lt_one_iff.1 hi
      obtain rfl := Option.some.inj htask
      exact nofun
  refine ⟨t, hrun, disconnect_converges rfl rfl rfl rfl hrun ?_ ?_ ?_⟩
  · intro event hmem id health now heq
    subst heq
    have hbeat : id = 2 ∧ health = healthy ∧ now = 1000 := by simpa [beat] using hmem
    exact .inl hbeat.1
  · simp
  · intro task hmem
    rw [hdone] at hmem
    simpa using hmem

/-- A disconnect that comes between the steps of a heartbeat: when all is done, the device is
tracked, and it and its car can be driven. -/
theorem overtaken_available :
    ∃ t, runList (PresenceCalls.step 15000) parked
        [.start (.heartbeat 2 healthy 1000), .advance 0, .start (.disconnect 2 1001), .advance 1,
          .advance 0, .advance 0] = some t ∧
      t.tasks = [.finished, .finished] ∧ (t.presence.lastSeen.get? 2).isSome = true ∧
      (t.presence.store.devices.get? 2).map (·.state) = some .available ∧
      (t.presence.store.cars.get? 1).map (·.state) = some .available :=
  ⟨_, rfl, rfl, rfl, rfl, rfl⟩

end RcOnline.Gateway
