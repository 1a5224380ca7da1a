import RcOnline.Gateway.Store
import RcOnline.Web.DriveSession

/-!
# Cars and drive sessions agree

The web store's `create` and the calls of the gateway's store run against one database, their
statements interleaved. `Consistent` says that a car or a user has at most one live session, that
an available car has none, and that a reserved, connecting or active car has one. Each statement
keeps it and moves sessions forward only (`SessionsMove`), so every interleaving does
(`store_consistent`).
-/

namespace RcOnline.Gateway

open RcOnline.Lib RcOnline.Schema RcOnline.Web

/-! ## The invariant -/

/-- A live session on the car. -/
def LiveFor (sessions : Table DriveSession) (carId : Uuid) : Prop :=
  ∃ session ∈ sessions.rows, session.carId = carId ∧ session.status.live = true

/-- The states of a car that a session has taken. -/
def driving : CarState → Bool
  | .reserved | .connecting | .active => true
  | _ => false

/-- At most one live session per car and per user. -/
structure OneLive (sessions : Table DriveSession) : Prop where
  car : ∀ a ∈ sessions.rows, ∀ b ∈ sessions.rows, a.status.live = true → b.status.live = true →
    a.carId = b.carId → a = b
  user : ∀ a ∈ sessions.rows, ∀ b ∈ sessions.rows, a.status.live = true → b.status.live = true →
    a.userId = b.userId → a = b

/-- A car's state agrees with the sessions. -/
structure CarAgrees (sessions : Table DriveSession) (car : Car) : Prop where
  available : car.state = .available → ¬ LiveFor sessions car.id
  driving : driving car.state = true → LiveFor sessions car.id

structure Consistent (db : Database) : Prop where
  oneLive : OneLive db.driveSessions
  cars : ∀ car ∈ db.cars.rows, CarAgrees db.driveSessions car

/-- One move of a session's status. -/
inductive StatusMove : DriveSessionStatus → DriveSessionStatus → Prop where
  | negotiating : StatusMove .created .negotiating
  | active : StatusMove .negotiating .active
  | ended {status : DriveSessionStatus} : status.live = true → StatusMove status .ended

/-- Every session is still there, and its status is the same or one move on. -/
def SessionsMove (db db' : Database) : Prop :=
  ∀ session ∈ db.driveSessions.rows, ∃ session' ∈ db'.driveSessions.rows,
    session'.id = session.id ∧ session'.userId = session.userId ∧ session'.carId = session.carId ∧
      (session'.status = session.status ∨ StatusMove session.status session'.status)

theorem SessionsMove.refl (db : Database) : SessionsMove db db :=
  fun session h => ⟨session, h, rfl, rfl, rfl, .inl rfl⟩

/-- A statement that leaves the sessions alone. -/
theorem SessionsMove.of_eq {db db' : Database} (h : db'.driveSessions = db.driveSessions) :
    SessionsMove db db' := by
  intro session hs
  exact ⟨session, h ▸ hs, rfl, rfl, rfl, .inl rfl⟩

/-! ## Statements on cars -/

/-- A car state that says nothing about sessions. -/
def Neutral (state : CarState) : Prop := state ≠ .available ∧ driving state = false

theorem CarAgrees.neutral {sessions : Table DriveSession} {car : Car} (h : Neutral car.state) :
    CarAgrees sessions car where
  available := fun hs => absurd hs h.1
  driving := fun hs => by rw [h.2] at hs; cases hs

/-- The sessions stay, and every car keeps its state or agrees with them in its new one. -/
theorem Consistent.of_cars {db db' : Database} (h : Consistent db)
    (hsessions : db'.driveSessions = db.driveSessions)
    (hcars : ∀ car' ∈ db'.cars.rows, CarAgrees db.driveSessions car' ∨
      ∃ car ∈ db.cars.rows, car'.id = car.id ∧ car'.state = car.state) : Consistent db' where
  oneLive := hsessions ▸ h.oneLive
  cars := by
    intro car' hcar'
    rw [hsessions]
    rcases hcars car' hcar' with hagrees | ⟨car, hcar, hid, hstate⟩
    · exact hagrees
    · have hagrees := h.cars car hcar
      exact ⟨fun hs => hid ▸ hagrees.available (hstate ▸ hs),
        fun hs => hid ▸ hagrees.driving (hstate ▸ hs)⟩

/-- An update of cars that leaves each one's state, or one in which the car agrees. -/
theorem Consistent.update_cars {db : Database} (h : Consistent db) {p : Car → Bool} {f : Car → Car}
    {hf : ∀ r, Row.key (f r) = Row.key r}
    (hcars : ∀ car ∈ db.cars.rows, p car = true →
      (f car).state = car.state ∨ CarAgrees db.driveSessions (f car)) :
    Consistent { db with cars := db.cars.update p f hf } := by
  refine Consistent.of_cars h ?_ ?_
  · rfl
  intro car' hcar'
  rcases Table.of_mem_update hcar' with ⟨car, hcar, hp, rfl⟩ | ⟨hcar, -⟩
  · rcases hcars car hcar hp with hstate | hagrees
    · exact .inr ⟨car, hcar, hf car, hstate⟩
    · exact .inl hagrees
  · exact .inr ⟨car', hcar, rfl, rfl⟩

/-- A car after a state is set: the car named has it, and every other its old one. -/
theorem mem_setCarState {carId : Uuid} {state : Car → CarState} {now : Int} {db : Database}
    {car' : Car} (h : car' ∈ (setCarState carId state now db).cars.rows) :
    ∃ car ∈ db.cars.rows, car'.id = car.id ∧
      ((car.id = carId ∧ car'.state = state car) ∨ (car.id ≠ carId ∧ car'.state = car.state)) := by
  rcases Table.of_mem_update h with ⟨car, hcar, hid, rfl⟩ | ⟨hcar, hid⟩
  · exact ⟨car, hcar, rfl, .inl ⟨of_decide_eq_true hid, rfl⟩⟩
  · exact ⟨car', hcar, rfl, .inr ⟨fun heq => hid (decide_eq_true heq), rfl⟩⟩

/-- What a device reports is a neutral state, or that it is available. -/
theorem driving_presence (state : PresenceState) : driving state.carState = false := by
  cases state <;> rfl

theorem noLiveSession_iff {carId : Uuid} {db : Database} :
    noLiveSession carId db = true ↔ ¬ LiveFor db.driveSessions carId := by
  unfold noLiveSession LiveFor
  simp [imp_iff_not_or]

/-! ## Statements on sessions -/

section sessions

variable {sessions : Table DriveSession} {p : DriveSession → Bool}
  {f : DriveSession → DriveSession} {hf : ∀ r, Row.key (f r) = Row.key r}

/-- What an update that moves live sessions keeps of each. -/
structure KeepsLive (p : DriveSession → Bool) (f : DriveSession → DriveSession) : Prop where
  userId : ∀ session, (f session).userId = session.userId
  carId : ∀ session, (f session).carId = session.carId
  live : ∀ session, p session = true → (f session).status.live = session.status.live

theorem KeepsLive.patch_live (h : KeepsLive p f) (session : DriveSession) :
    (patch p f session).status.live = session.status.live := by
  unfold patch
  split
  · next hp => exact h.live session hp
  · rfl

theorem KeepsLive.liveFor (h : KeepsLive p f) (hf : ∀ r, Row.key (f r) = Row.key r) (carId : Uuid) :
    LiveFor (sessions.update p f hf) carId ↔ LiveFor sessions carId := by
  constructor
  · rintro ⟨session', hs', hcar, hlive⟩
    obtain ⟨session, hs, rfl⟩ := Table.mem_update.1 hs'
    rw [patch_column h.carId] at hcar
    rw [h.patch_live] at hlive
    exact ⟨session, hs, hcar, hlive⟩
  · rintro ⟨session, hs, hcar, hlive⟩
    refine ⟨patch p f session, Table.mem_update.2 ⟨session, hs, rfl⟩, ?_, ?_⟩
    · rw [patch_column h.carId, hcar]
    · rw [h.patch_live, hlive]

theorem KeepsLive.oneLive (h : KeepsLive p f) (hf : ∀ r, Row.key (f r) = Row.key r)
    (hone : OneLive sessions) :
    OneLive (sessions.update p f hf) := by
  constructor
  case car =>
    intro a' ha' b' hb' hlive hlive' hcar
    obtain ⟨a, ha, rfl⟩ := Table.mem_update.1 ha'
    obtain ⟨b, hb, rfl⟩ := Table.mem_update.1 hb'
    rw [h.patch_live] at hlive hlive'
    rw [patch_column h.carId, patch_column h.carId] at hcar
    rw [hone.car a ha b hb hlive hlive' hcar]
  case user =>
    intro a' ha' b' hb' hlive hlive' huser
    obtain ⟨a, ha, rfl⟩ := Table.mem_update.1 ha'
    obtain ⟨b, hb, rfl⟩ := Table.mem_update.1 hb'
    rw [h.patch_live] at hlive hlive'
    rw [patch_column h.userId, patch_column h.userId] at huser
    rw [hone.user a ha b hb hlive hlive' huser]

/-- Moving live sessions on leaves the database consistent. -/
theorem KeepsLive.consistent {db : Database} (h : KeepsLive p f)
    (hf : ∀ r, Row.key (f r) = Row.key r) (hdb : Consistent db) :
    Consistent { db with driveSessions := db.driveSessions.update p f hf } where
  oneLive := h.oneLive hf hdb.oneLive
  cars := by
    intro car hcar
    have hagrees := hdb.cars car hcar
    exact ⟨fun hs hlive => hagrees.available hs ((h.liveFor hf car.id).1 hlive),
      fun hs => (h.liveFor hf car.id).2 (hagrees.driving hs)⟩

end sessions

/-- An update that moves the status of the sessions it meets. -/
theorem sessionsMove_update {db db' : Database} {p : DriveSession → Bool}
    {f : DriveSession → DriveSession}
    (hdb : db'.driveSessions.rows = db.driveSessions.rows.map (patch p f))
    (hcolumns : ∀ session, (f session).id = session.id ∧ (f session).userId = session.userId ∧
      (f session).carId = session.carId)
    (hmove : ∀ session, p session = true → StatusMove session.status (f session).status) :
    SessionsMove db db' := by
  intro session hs
  refine ⟨patch p f session, hdb ▸ List.mem_map_of_mem hs, ?_⟩
  by_cases hp : p session = true
  · rw [patch_of hp]
    obtain ⟨hid, huser, hcar⟩ := hcolumns session
    exact ⟨hid, huser, hcar, .inr (hmove session hp)⟩
  · rw [patch_of_not hp]
    exact ⟨rfl, rfl, rfl, .inl rfl⟩

/-! ## Ending sessions -/

/-- The cars of ended sessions, which are still to be released. -/
structure Releasing (carIds : List Uuid) (db : Database) : Prop where
  oneLive : OneLive db.driveSessions
  free : ∀ carId ∈ carIds, ¬ LiveFor db.driveSessions carId
  available : ∀ car ∈ db.cars.rows, car.state = .available → ¬ LiveFor db.driveSessions car.id
  driving : ∀ car ∈ db.cars.rows, driving car.state = true → car.id ∉ carIds →
    LiveFor db.driveSessions car.id

theorem Releasing.consistent {db : Database} (h : Releasing [] db) : Consistent db where
  oneLive := h.oneLive
  cars := fun car hcar => ⟨h.available car hcar, fun hs => h.driving car hcar hs (List.not_mem_nil)⟩

theorem mem_endSessions {p : DriveSession → Bool} {now : Int} {db : Database} {carId : Uuid} :
    LiveFor (endSessions p now db).driveSessions carId ↔
      ∃ session ∈ db.driveSessions.rows, session.carId = carId ∧ session.status.live = true ∧
        ¬ p session = true := by
  constructor
  · rintro ⟨session', hs', hcar, hlive⟩
    rcases Table.of_mem_update hs' with ⟨session, -, -, rfl⟩ | ⟨hs, hp⟩
    · cases hlive
    · exact ⟨session', hs, hcar, hlive, hp⟩
  · rintro ⟨session, hs, hcar, hlive, hp⟩
    exact ⟨session, List.mem_map.2 ⟨session, hs, patch_of_not hp⟩, hcar, hlive⟩

/-- Ending sessions frees their cars, which then wait for their release. -/
theorem releasing_endSessions (now : Int) (carIds : List Uuid) {p : DriveSession → Bool}
    {db : Database} (h : Consistent db)
    (hp : ∀ session, p session = true → session.status.live = true)
    (hcars : ∀ carId, carId ∈ carIds ↔
      ∃ session ∈ db.driveSessions.rows, p session = true ∧ session.carId = carId) :
    Releasing carIds (endSessions p now db) := by
  constructor
  case oneLive =>
    -- a session live after the update is one that the update left alone
    have hold : ∀ {session' : DriveSession},
        session' ∈ (endSessions p now db).driveSessions.rows → session'.status.live = true →
        session' ∈ db.driveSessions.rows := by
      intro session' hs' hlive
      rcases Table.of_mem_update hs' with ⟨session, -, -, rfl⟩ | ⟨hs, -⟩
      · cases hlive
      · exact hs
    exact ⟨fun a ha b hb hlive hlive' hcar =>
        h.oneLive.car a (hold ha hlive) b (hold hb hlive') hlive hlive' hcar,
      fun a ha b hb hlive hlive' huser =>
        h.oneLive.user a (hold ha hlive) b (hold hb hlive') hlive hlive' huser⟩
  case free =>
    intro carId hmem hlive
    obtain ⟨ended, he, hpe, hcar⟩ := (hcars carId).1 hmem
    obtain ⟨session, hs, hcar', hlive, hps⟩ := mem_endSessions.1 hlive
    have heq := h.oneLive.car session hs ended he hlive (hp ended hpe) (hcar'.trans hcar.symm)
    exact hps (heq ▸ hpe)
  case available =>
    intro car hcar hs hlive
    obtain ⟨session, hsession, hcarId, hlive, -⟩ := mem_endSessions.1 hlive
    exact (h.cars car hcar).available hs ⟨session, hsession, hcarId, hlive⟩
  case driving =>
    intro car hcar hs hnot
    obtain ⟨session, hsession, hcarId, hlive⟩ := (h.cars car hcar).driving hs
    refine mem_endSessions.2 ⟨session, hsession, hcarId, hlive, fun hps => hnot ?_⟩
    exact (hcars car.id).2 ⟨session, hsession, hps, hcarId⟩

theorem freshDeviceState_presence (pick : Uuid → Nat) (cutoff : Int) (db : Database) (car : Car) :
    ∃ state : PresenceState, freshDeviceState pick cutoff db car = state.carState := by
  unfold freshDeviceState
  split
  · exact ⟨.adminBlocked, rfl⟩
  · split
    · exact ⟨_, rfl⟩
    · exact ⟨.offline, rfl⟩

/-- Releasing one car takes it off the list. -/
theorem Releasing.release {pick : Uuid → Nat} {now : Int} {session : DriveSession}
    {carIds : List Uuid} {db : Database} (h : Releasing (session.carId :: carIds) db) :
    Releasing carIds (releaseSession pick now db session) := by
  constructor
  case oneLive => exact h.oneLive
  case free => exact fun carId hmem => h.free carId (List.mem_cons_of_mem _ hmem)
  case available =>
    intro car' hcar' hs
    obtain ⟨car, hcar, hid, ⟨hsession, -⟩ | ⟨-, hstate⟩⟩ := mem_setCarState hcar'
    · rw [hid, hsession]
      exact h.free session.carId List.mem_cons_self
    · rw [hid]
      exact h.available car hcar (hstate ▸ hs)
  case driving =>
    intro car' hcar' hs hnot
    obtain ⟨car, hcar, hid, ⟨-, hstate⟩ | ⟨hne, hstate⟩⟩ := mem_setCarState hcar'
    · obtain ⟨state, hpresence⟩ := freshDeviceState_presence pick (now - 15000) _ car
      rw [hstate, hpresence, driving_presence] at hs
      cases hs
    · rw [hid] at hnot ⊢
      exact h.driving car hcar (hstate ▸ hs) fun hmem => (List.mem_cons.1 hmem).elim hne hnot

theorem Releasing.foldl {pick : Uuid → Nat} {now : Int} {sessions : List DriveSession}
    {db : Database} (h : Releasing (sessions.map (·.carId)) db) :
    Consistent (sessions.foldl (releaseSession pick now) db) := by
  induction sessions generalizing db with
  | nil => exact h.consistent
  | cons session rest ih => exact ih h.release

/-- A release leaves the sessions alone. -/
theorem releaseSession_foldl {pick : Uuid → Nat} {now : Int} (sessions : List DriveSession)
    (db : Database) :
    (sessions.foldl (releaseSession pick now) db).driveSessions = db.driveSessions := by
  induction sessions generalizing db with
  | nil => rfl
  | cons session rest ih => exact (ih _).trans rfl

/-! ## Transactions -/

/-- The row that an update of one session by its id meets. -/
theorem updateSession_eq_some {sessionId : Uuid} {p : DriveSession → Bool}
    {f : DriveSession → DriveSession} {hf : ∀ r, Row.key (f r) = Row.key r} {db db' : Database}
    {session : DriveSession} (h : updateSession sessionId p f hf db = some (session, db')) :
    session ∈ db.driveSessions.rows ∧ session.id = sessionId ∧ p session = true ∧
      db' = { db with
        driveSessions :=
          db.driveSessions.update (fun row => row.id = sessionId && p row) f hf } := by
  unfold updateSession at h
  split at h
  · cases h
  · next found hget =>
    split at h
    · next hp =>
      simp only [Option.some.injEq, Prod.mk.injEq] at h
      obtain ⟨rfl, rfl⟩ := h
      obtain ⟨hmem, hid⟩ := Table.get?_eq_some_iff.1 hget
      exact ⟨hmem, hid, hp, rfl⟩
    · cases h

/-- Moving a live session on, and its car to a state that a session takes. -/
theorem consistent_moved {sessionId : Uuid} {p : DriveSession → Bool}
    {f : DriveSession → DriveSession} {hf : ∀ r, Row.key (f r) = Row.key r} {db db' : Database}
    {session : DriveSession} {state : CarState} {now : Int} (hdb : Consistent db)
    (h : updateSession sessionId p f hf db = some (session, db'))
    (hkeeps : KeepsLive (fun row => row.id = sessionId && p row) f)
    (hlive : p session = true → session.status.live = true) (hstate : state ≠ .available) :
    Consistent (setCarState session.carId (fun _ => state) now db') := by
  obtain ⟨hmem, -, hp, rfl⟩ := updateSession_eq_some h
  refine Consistent.of_cars (hkeeps.consistent hf hdb) ?_ ?_
  · rfl
  intro car' hcar'
  obtain ⟨car, hcar, hid, ⟨hsession, hnew⟩ | ⟨-, hold⟩⟩ := mem_setCarState hcar'
  · refine .inl ⟨fun hs => absurd (hnew.symm.trans hs) hstate, fun _ => ?_⟩
    rw [hid, hsession]
    exact (hkeeps.liveFor hf _).2 ⟨session, hmem, rfl, hlive hp⟩
  · exact .inr ⟨car, hcar, hid, hold⟩

theorem authorizeTransaction_keeps (input : AuthorizeDriveSessionInput) {db : Database}
    (h : Consistent db) :
    Consistent (authorizeTransaction input db).2 ∧
      SessionsMove db (authorizeTransaction input db).2 := by
  unfold authorizeTransaction
  split
  · exact ⟨h, .refl db⟩
  · next session db' hupdate =>
    have hcreated : ∀ session : DriveSession, (session.userId = input.userId &&
        session.carId = input.carId && session.status = .created &&
        decide (input.now < session.expiresAt)) = true → session.status = .created := by
      intro session hp
      simp only [Bool.and_eq_true, decide_eq_true_eq] at hp
      exact hp.1.2
    refine ⟨consistent_moved h hupdate ⟨fun _ => rfl, fun _ => rfl, fun session hp => ?_⟩
      (fun hp => ?_) nofun, ?_⟩
    · rw [hcreated session (Bool.and_elim_right hp)]
      rfl
    · rw [hcreated session hp]
      rfl
    · obtain ⟨-, -, -, rfl⟩ := updateSession_eq_some hupdate
      apply sessionsMove_update
      · rfl
      · exact fun _ => ⟨rfl, rfl, rfl⟩
      · intro session hp
        rw [hcreated session (Bool.and_elim_right hp)]
        exact .negotiating

theorem markActiveTransaction_keeps (sessionId : Uuid) (now : Int) {db : Database}
    (h : Consistent db) :
    Consistent (markActiveTransaction sessionId now db).2 ∧
      SessionsMove db (markActiveTransaction sessionId now db).2 := by
  unfold markActiveTransaction
  dsimp only
  split
  · exact ⟨h, .refl db⟩
  · next session db' hupdate =>
    have hnegotiating : ∀ session : DriveSession, (session.status = .negotiating &&
        decide (now - driveConnectionTimeoutMs < session.updatedAt) &&
        decide (now < session.expiresAt)) = true → session.status = .negotiating := by
      intro session hp
      simp only [Bool.and_eq_true, decide_eq_true_eq] at hp
      exact hp.1.1
    refine ⟨consistent_moved h hupdate ⟨fun _ => rfl, fun _ => rfl, fun session hp => ?_⟩
      (fun hp => ?_) nofun, ?_⟩
    · rw [hnegotiating session (Bool.and_elim_right hp)]
      rfl
    · rw [hnegotiating session hp]
      rfl
    · obtain ⟨-, -, -, rfl⟩ := updateSession_eq_some hupdate
      apply sessionsMove_update
      · rfl
      · exact fun _ => ⟨rfl, rfl, rfl⟩
      · intro session hp
        rw [hnegotiating session (Bool.and_elim_right hp)]
        exact .active

theorem endTransaction_keeps (pick : Uuid → Nat) (sessionId : Uuid) (now : Int) {db : Database}
    (h : Consistent db) :
    Consistent (endTransaction pick sessionId now db).2 ∧
      SessionsMove db (endTransaction pick sessionId now db).2 := by
  unfold endTransaction
  split
  · exact ⟨h, .refl db⟩
  · next session db' hupdate =>
    obtain ⟨hmem, hid, hlive, rfl⟩ := updateSession_eq_some hupdate
    have hrow : ∀ row ∈ db.driveSessions.rows,
        (row.id = sessionId && row.status.live) = true → row = session := by
      intro row hrow hp
      exact Table.eq_of_key hrow hmem
        ((of_decide_eq_true (Bool.and_elim_left hp)).trans hid.symm)
    constructor
    · refine ((releasing_endSessions now [session.carId] h
        (fun row hp => Bool.and_elim_right hp) ?_).release).consistent
      intro carId
      rw [List.mem_singleton]
      constructor
      · rintro rfl
        exact ⟨session, hmem, by rw [decide_eq_true hid, hlive]; rfl, rfl⟩
      · rintro ⟨row, hmem', hp, rfl⟩
        rw [hrow row hmem' hp]
    · apply sessionsMove_update
      · rfl
      · exact fun _ => ⟨rfl, rfl, rfl⟩
      · exact fun row hp => .ended (Bool.and_elim_right hp)

theorem expireTransaction_keeps (pick : Uuid → Nat) (now : Int) {db : Database}
    (h : Consistent db) :
    Consistent (expireTransaction pick now db).2 ∧
      SessionsMove db (expireTransaction pick now db).2 := by
  have hlive : ∀ session, expires now session = true → session.status.live = true :=
    fun session hp => Bool.and_elim_left hp
  constructor
  · refine (releasing_endSessions now _ h hlive ?_).foldl
    intro carId
    simp only [Table.select, List.mem_map, List.mem_filter, and_assoc]
  · apply sessionsMove_update
    · exact congrArg Table.rows (releaseSession_foldl _ _)
    · exact fun _ => ⟨rfl, rfl, rfl⟩
    · exact fun session hp => .ended (hlive session hp)

/-- What a unique index on live sessions rules out. -/
theorem clash_eq_false {new row : DriveSession} (h : new.clash row = false)
    (hnew : new.status.live = true) (hrow : row.status.live = true) :
    new.carId ≠ row.carId ∧ new.userId ≠ row.userId := by
  unfold DriveSession.clash at h
  simp only [hnew, hrow, Bool.and_self, Bool.true_and, Bool.or_eq_false_iff,
    decide_eq_false_iff_not] at h
  exact h.1

theorem OneLive.insert {sessions sessions' : Table DriveSession} {new : DriveSession}
    (h : OneLive sessions) (hnew : new.status.live = true)
    (hinsert : sessions.insert? new.clash new = some sessions') : OneLive sessions' := by
  have hfree : ∀ row ∈ sessions.rows, row.status.live = true →
      new.carId ≠ row.carId ∧ new.userId ≠ row.userId := fun row hrow hlive =>
    clash_eq_false ((Table.insert?_eq_some hinsert).1 row hrow).2 hnew hlive
  constructor
  case car =>
    intro a ha b hb hlive hlive' hcar
    rcases (Table.mem_insert? hinsert).1 ha with ha | rfl
    · rcases (Table.mem_insert? hinsert).1 hb with hb | rfl
      · exact h.car a ha b hb hlive hlive' hcar
      · exact absurd hcar.symm (hfree a ha hlive).1
    · rcases (Table.mem_insert? hinsert).1 hb with hb | rfl
      · exact absurd hcar (hfree b hb hlive').1
      · rfl
  case user =>
    intro a ha b hb hlive hlive' huser
    rcases (Table.mem_insert? hinsert).1 ha with ha | rfl
    · rcases (Table.mem_insert? hinsert).1 hb with hb | rfl
      · exact h.user a ha b hb hlive hlive' huser
      · exact absurd huser.symm (hfree a ha hlive).2
    · rcases (Table.mem_insert? hinsert).1 hb with hb | rfl
      · exact absurd huser (hfree b hb hlive').2
      · rfl

/-- The session goes in, and its car is reserved. -/
theorem insertSession_keeps (input : CreateInput) (entry : QueueRow) (car : Car) (device : Device)
    {db : Database} (h : Consistent db) :
    Consistent (insertSession db input entry car device).2 ∧
      SessionsMove db (insertSession db input entry car device).2 := by
  unfold insertSession
  dsimp only
  split
  · exact ⟨h, .refl db⟩
  · next sessions hinsert =>
    have hmem : ∀ {session : DriveSession},
        session ∈ sessions.rows ↔
          session ∈ db.driveSessions.rows ∨ session = newSession input entry :=
      Table.mem_insert? hinsert
    constructor
    · refine ⟨h.oneLive.insert rfl hinsert, ?_⟩
      intro car' hcar'
      rcases Table.of_mem_update hcar' with ⟨old, hold, hid, rfl⟩ | ⟨hold, hid⟩
      · refine ⟨nofun, fun _ => ⟨newSession input entry, hmem.2 (.inr rfl), ?_, rfl⟩⟩
        exact (of_decide_eq_true hid).symm
      · have hagrees := h.cars car' hold
        constructor
        · rintro hs ⟨session, hsession, hcar, hlive⟩
          rcases hmem.1 hsession with hsession | rfl
          · exact hagrees.available hs ⟨session, hsession, hcar, hlive⟩
          · exact hid (decide_eq_true hcar.symm)
        · intro hs
          obtain ⟨session, hsession, hcar, hlive⟩ := hagrees.driving hs
          exact ⟨session, hmem.2 (.inl hsession), hcar, hlive⟩
    · intro session hsession
      exact ⟨session, hmem.2 (.inl hsession), rfl, rfl, rfl, .inl rfl⟩

/-- An advance of the queue touches neither cars nor sessions. -/
theorem advanceLiveQueue_keeps (collate : String → String → Int) (now : Int) {db : Database}
    (h : Consistent db) :
    Consistent (advanceLiveQueue collate db now).1 ∧
      SessionsMove db (advanceLiveQueue collate db now).1 :=
  ⟨⟨h.oneLive, h.cars⟩, .of_eq rfl⟩

theorem createTransaction_keeps (input : CreateInput) {db : Database} (h : Consistent db) :
    Consistent (createTransaction input db).2 ∧ SessionsMove db (createTransaction input db).2 := by
  have hadvanced := advanceLiveQueue_keeps input.collate input.lockedAt h
  unfold createTransaction
  dsimp only
  split
  · exact hadvanced
  · split
    · exact hadvanced
    · split
      · exact hadvanced
      · split
        · exact hadvanced
        · split
          · exact ⟨⟨h.oneLive, h.cars⟩, .of_eq rfl⟩
          · split
            · exact hadvanced
            · exact insertSession_keeps input _ _ _ hadvanced.1

/-! ## Every interleaving -/

/-- The calls of the two stores. -/
inductive StoreCall where
  | create (input : CreateInput)
  | authenticateDevice (pick : Nat) (deviceId : Uuid) (suppliedSecretHash agentVersion : String)
      (capabilities : DeviceCapabilities) (now : Int)
  | recordHeartbeat (deviceId : Uuid) (health : DeviceHealth) (now : Int)
  | setPresenceState (deviceId : Uuid) (state : PresenceState) (now : Int)
  | markDeviceOffline (deviceId : Uuid) (now : Int)
  | authorizeDriveSession (input : AuthorizeDriveSessionInput)
  | markDriveSessionActive (sessionId : Uuid) (now : Int)
  | endDriveSession (pick : Uuid → Nat) (sessionId : Uuid) (now : Int)
  | expireDriveSessions (pick : Uuid → Nat) (now : Int)

/-- The code of a call, its result dropped. -/
def StoreCall.code : StoreCall → Prog Database Unit
  | .create input => do let _ ← Web.create input
  | .authenticateDevice pick deviceId suppliedSecretHash agentVersion capabilities now => do
    let _ ← Gateway.authenticateDevice pick deviceId suppliedSecretHash agentVersion capabilities
      now
  | .recordHeartbeat deviceId health now => do let _ ← Gateway.recordHeartbeat deviceId health now
  | .setPresenceState deviceId state now => Gateway.setPresenceState deviceId state now
  | .markDeviceOffline deviceId now => Gateway.markDeviceOffline deviceId now
  | .authorizeDriveSession input => do let _ ← Gateway.authorizeDriveSession input
  | .markDriveSessionActive sessionId now => do
    let _ ← Gateway.markDriveSessionActive sessionId now
  | .endDriveSession pick sessionId now => Gateway.endDriveSession pick sessionId now
  | .expireDriveSessions pick now => do let _ ← Gateway.expireDriveSessions pick now

/-- A program whose statements keep the database consistent and move sessions forward. -/
abbrev Keeps {α : Type} (p : Prog Database α) : Prop := p.Keeps Consistent SessionsMove

theorem Keeps.read {α : Type} (f : Database → α) : Keeps (.read f) :=
  Prog.Keeps.read SessionsMove.refl f

theorem updateDevice_keeps (deviceId : Uuid) (f : Device → Device)
    (hf : ∀ r, Row.key (f r) = Row.key r) : Keeps (.stmt (updateDevice deviceId f hf)) :=
  Prog.Keeps.stmt fun _ h => ⟨⟨h.oneLive, h.cars⟩, .of_eq rfl⟩

/-- An update of one car that leaves its state, or one in which the car agrees. -/
theorem updateCar_keeps (carId : Uuid) (p : Database → Bool) (f : Car → Car)
    (hf : ∀ r, Row.key (f r) = Row.key r)
    (hstate : ∀ db car, p db = true → car.id = carId →
      (f car).state = car.state ∨ CarAgrees db.driveSessions (f car)) :
    Keeps (.stmt (updateCar carId p f hf)) := by
  apply Prog.Keeps.stmt
  intro db h
  refine ⟨h.update_cars fun car _ hp => ?_, .of_eq rfl⟩
  simp only [Bool.and_eq_true, decide_eq_true_eq] at hp
  exact hstate db car hp.2 hp.1

theorem authenticateTransaction_keeps (credential : CredentialRow) (device : AuthenticatedDevice)
    (now : Int) :
    Keeps (.stmt fun db => ((), authenticateTransaction credential device now db)) := by
  apply Prog.Keeps.stmt
  intro db h
  refine ⟨Consistent.of_cars h rfl fun car' hcar' => ?_, .of_eq rfl⟩
  rcases Table.of_mem_update hcar' with ⟨car, hcar, -, rfl⟩ | ⟨hcar, -⟩
  · exact .inl (.neutral ⟨nofun, rfl⟩)
  · exact .inr ⟨car', hcar, rfl, rfl⟩

theorem authenticateDevice_keeps (pick : Nat) (deviceId : Uuid)
    (suppliedSecretHash agentVersion : String) (capabilities : DeviceCapabilities) (now : Int) :
    Keeps (authenticateDevice pick deviceId suppliedSecretHash agentVersion capabilities now) := by
  apply Prog.Keeps.bind (Keeps.read _)
  intro credential
  split
  · exact .pure _
  · split
    · exact .pure _
    · split
      · exact .bind (authenticateTransaction_keeps _ _ now) fun _ => .pure _
      · exact .pure _

theorem recordHeartbeat_keeps (deviceId : Uuid) (health : DeviceHealth) (now : Int) :
    Keeps (recordHeartbeat deviceId health now) := by
  apply Prog.Keeps.bind (updateDevice_keeps deviceId _ _)
  intro carId
  split
  · exact .pure _
  · split
    · exact .bind (Keeps.read _) fun _ => .pure _
    · refine .bind (updateCar_keeps _ _ _ _ ?_) fun _ => .bind (Keeps.read _) fun _ => .pure _
      exact fun _ _ _ _ => .inl rfl

/-- What setting the presence does to the car: it is set only when no session has the car. -/
theorem setPresenceState_keeps (deviceId : Uuid) (state : PresenceState) (now : Int) :
    Keeps (setPresenceState deviceId state now) := by
  apply Prog.Keeps.bind (updateDevice_keeps deviceId _ _)
  intro carId
  split
  · exact .pure _
  · next carId =>
    apply Prog.Keeps.bind (Keeps.read _)
    intro adminBlocked
    apply updateCar_keeps
    rintro db car hfree rfl
    right
    refine ⟨fun _ => noLiveSession_iff.1 hfree, fun hs => ?_⟩
    dsimp only at hs
    split at hs
    · cases hs
    · rw [driving_presence] at hs
      cases hs

theorem markDeviceOffline_keeps (deviceId : Uuid) (now : Int) :
    Keeps (markDeviceOffline deviceId now) := by
  apply Prog.Keeps.bind (updateDevice_keeps deviceId _ _)
  intro carId
  split
  · exact .pure _
  · apply updateCar_keeps
    intro db car _ _
    right
    apply CarAgrees.neutral
    dsimp only
    split <;> exact ⟨nofun, rfl⟩

theorem StoreCall.code_keeps (call : StoreCall) : Keeps call.code := by
  cases call with
  | create input =>
    exact .bind (.stmt fun _ h => createTransaction_keeps input h) fun _ => .pure _
  | authenticateDevice pick deviceId suppliedSecretHash agentVersion capabilities now =>
    exact .bind (authenticateDevice_keeps _ _ _ _ _ _) fun _ => .pure _
  | recordHeartbeat deviceId health now =>
    exact .bind (recordHeartbeat_keeps _ _ _) fun _ => .pure _
  | setPresenceState deviceId state now => exact setPresenceState_keeps _ _ _
  | markDeviceOffline deviceId now => exact markDeviceOffline_keeps _ _
  | authorizeDriveSession input =>
    exact .bind (.stmt fun _ h => authorizeTransaction_keeps input h) fun _ => .pure _
  | markDriveSessionActive sessionId now =>
    exact .bind (.stmt fun _ h => markActiveTransaction_keeps sessionId now h) fun _ => .pure _
  | endDriveSession pick sessionId now =>
    exact .stmt fun _ h => endTransaction_keeps pick sessionId now h
  | expireDriveSessions pick now =>
    exact .bind (.stmt fun _ h => expireTransaction_keeps pick now h) fun _ => .pure _

/-- **Main result.** From a consistent database and in every interleaving of the calls, every
database reached is consistent, and the next event moves sessions forward only. -/
theorem store_consistent {start : Database} {events : List (PoolEvent StoreCall)}
    {pool : Pool Database} (hstart : Consistent start)
    (hrun : Run (StepOf (Pool.step StoreCall.code)) ⟨start, []⟩ events pool) :
    Consistent pool.shared ∧
      ∀ event pool', pool.step StoreCall.code event = some pool' →
        SessionsMove pool.shared pool'.shared := by
  have hsafe : Pool.Safe Consistent SessionsMove pool :=
    Pool.Safe.run StoreCall.code_keeps SessionsMove.refl ⟨hstart, by simp⟩ hrun
  refine ⟨hsafe.shared, fun event pool' hstep => ?_⟩
  exact (hsafe.step StoreCall.code_keeps SessionsMove.refl hstep).2

def availableCar : Car :=
  { id := 1, slug := "rc-one", name := "RC 01", state := .available, batteryPercent := some 47,
    adminBlocked := false, steeringTrimPercent := 0, updatedAt := 0 }

def availableDevice : Device :=
  { id := 2, carId := some 1, state := .available, lastSeenAt := some 1000, metadata := .object [],
    agentVersion := none, health := none, connectedAt := none, updatedAt := 0 }

def offeredEntry : QueueEntry :=
  { id := 3, userId := 4, status := .offered, joinedAt := 0, expiresAt := 16000, createdAt := 0,
    updatedAt := 0 }

/-- A database with one available car and a driver who holds an offer. -/
def offeredDb : Database where
  cars := ⟨[availableCar], by decide⟩
  devices := ⟨[availableDevice], by decide⟩
  deviceCredentials := .empty
  firmwareVersions := .empty
  deviceUpdateJobs := .empty
  queueEntries := ⟨[offeredEntry], by decide⟩
  driveSessions := .empty

theorem offeredDb_consistent : Consistent offeredDb where
  oneLive := ⟨fun _ h => absurd h List.not_mem_nil, fun _ h => absurd h List.not_mem_nil⟩
  cars := by
    intro car hcar
    obtain rfl := List.mem_singleton.1 hcar
    refine ⟨fun _ hlive => ?_, nofun⟩
    obtain ⟨session, hsession, -⟩ := hlive
    exact absurd hsession List.not_mem_nil

/-- The driver accepts the offer and connects. -/
def acceptAndConnect : List (PoolEvent StoreCall) :=
  [.start (.create ⟨4, 1, 2000, 2000, 5, 0, fun _ _ => 0⟩),
    .advance 0,
    .start (.authorizeDriveSession ⟨5, 4, 1, 3000⟩),
    .advance 1]

theorem acceptAndConnect_consistent :
    ∃ pool, runList (Pool.step StoreCall.code) ⟨offeredDb, []⟩ acceptAndConnect = some pool ∧
      pool.shared.driveSessions.rows.map (·.status) = [.negotiating] ∧
      pool.shared.cars.rows.map (·.state) = [.connecting] ∧ Consistent pool.shared := by
  have hrun : Run (StepOf (Pool.step StoreCall.code)) ⟨offeredDb, []⟩ acceptAndConnect _ :=
    run_of_runList rfl
  exact ⟨_, rfl, rfl, rfl, (store_consistent offeredDb_consistent hrun).1⟩

end RcOnline.Gateway
