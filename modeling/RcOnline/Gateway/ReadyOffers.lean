import RcOnline.Gateway.StoreOutside
import RcOnline.Web.Acceptance

/-!
# Ready means acceptable

A user whom `read` calls ready and shows an available car calls `create` for it, with no transaction
in between. `create` meets the same offer and the same cars as `read` did, but the index on
`drive_sessions` also counts a session that has run out and is not ended yet: a session is created
exactly when the user has no such session (`ready_accepts_iff`).
-/

namespace RcOnline.Gateway

open RcOnline.Lib RcOnline.Schema RcOnline.Web

/-! ## What a ready answer says -/

section ready

variable {explicitJoin : Bool} {input : QueueInput} {start after : Database}
  {snapshot : LiveQueueSnapshot}

/-- The state of the queue behind a ready answer: the user holds an offer in it. -/
structure ReadyState (input : QueueInput) (start after : Database) (snapshot : LiveQueueSnapshot)
    (entry : QueueRow) : Prop where
  rest : ∃ table, after = { start with queueEntries := table }
  again : (advanceLiveQueue input.collate after input.now).1 = after
  found : (advanceLiveQueue input.collate after input.now).2.entries.find?
    (·.userId = input.userId) = some entry
  offered : entry.status = .offered
  cars : snapshot.cars = listQueueCars input.collate start input.now
  free : (limitOne input.pick (drivingSessions start input.userId input.now)).bind
    (·.queueEntryId) = none

theorem queueSnapshot_ready {userId : Uuid} {entries : List QueueRow} {cars : List QueueCar}
    {now : Int} (h : queueSnapshotFromState userId entries cars now = .ok snapshot)
    (hready : snapshot.status = .ready) :
    snapshot.cars = cars ∧
      ∃ entry, entries.find? (·.userId = userId) = some entry ∧ entry.status = .offered := by
  unfold queueSnapshotFromState at h
  split at h
  · cases h
  · next entry hfind =>
    obtain rfl := Except.ok.inj h
    refine ⟨rfl, entry, hfind, ?_⟩
    dsimp only at hready
    split at hready
    · next h => exact h.2.2
    · cases hready

/-- A ready answer from the end of `joinOrRefresh`. -/
theorem placedSnapshot_ready {table : Table QueueEntry}
    (h : placedSnapshot input start { start with queueEntries := table } = (.ok snapshot, after))
    (hready : snapshot.status = .ready)
    (hfree : (limitOne input.pick (drivingSessions start input.userId input.now)).bind
      (·.queueEntryId) = none) :
    ∃ entry, ReadyState input start after snapshot entry := by
  obtain ⟨-, hcars, hagain⟩ :=
    advanceLiveQueue_spec input.collate { start with queueEntries := table } input.now
  unfold placedSnapshot at h
  dsimp only at h
  split at h
  · cases congrArg Prod.fst h
  · next hsnapshot =>
    obtain ⟨hok, rfl⟩ := Prod.mk.inj h
    obtain rfl := Except.ok.inj hok
    obtain ⟨hcars', entry, hfind, hoffered⟩ := queueSnapshot_ready hsnapshot hready
    refine ⟨entry, ⟨_, advanceLiveQueue_table ..⟩, ?_, ?_, hoffered, hcars'.trans hcars, hfree⟩
    · rw [hagain]
    · rw [hagain]
      exact hfind

theorem joinOrRefresh_ready
    (h : joinOrRefresh explicitJoin input start = (.ok snapshot, after))
    (hready : snapshot.status = .ready) : ∃ entry, ReadyState input start after snapshot entry := by
  have hfirst : (advanceLiveQueue input.collate start input.now).1 =
      { start with queueEntries := firstAdvance input.collate input.now start } :=
    advanceLiveQueue_table ..
  unfold joinOrRefresh at h
  dsimp only at h
  rw [hfirst] at h
  split at h
  · obtain ⟨hok, -⟩ := Prod.mk.inj h
    obtain rfl := Except.ok.inj hok
    cases hready
  · next hfree =>
    split at h
    · split at h
      · exact placedSnapshot_ready h hready hfree
      · exact placedSnapshot_ready h hready hfree
    · split at h
      · obtain ⟨hok, -⟩ := Prod.mk.inj h
        obtain rfl := Except.ok.inj hok
        cases hready
      · unfold insertEntry at h
        split at h
        · exact placedSnapshot_ready h hready hfree
        · exact placedSnapshot_ready h hready hfree

end ready

/-! ## What `create` meets next -/

section accepts

variable {db : Database} {collate : String → String → Int} {now : Int}

/-- An available car on the list is vacant. -/
theorem vacant_of_listed {shown : QueueCar} (h : shown ∈ listQueueCars collate db now)
    (havailable : shown.availability = .available) :
    ∃ car ∈ db.cars.rows, car.id = shown.id ∧ vacant db now car = true := by
  unfold listQueueCars at h
  obtain ⟨row, hrow, rfl⟩ := List.mem_map.1 h
  dsimp only at havailable
  split at havailable
  · next hfree =>
    obtain ⟨car, hcar, hblocked, hdevice, hsession, rfl⟩ := (mem_queueCarRows hfree.2).1 hrow
    have hstate : car.state = .available := hfree.1
    refine ⟨car, hcar, rfl, ?_⟩
    rw [vacant, hblocked, hdevice, hsession, hstate]
    rfl
  · cases havailable

/-- A vacant car can be joined with a device. -/
theorem availableDevices_of_vacant {car : Car} (hcar : car ∈ db.cars.rows)
    (h : vacant db now car = true) (pick : Nat) :
    ∃ row device, limitOne pick (availableDevices db car.id now) = some (row, device) ∧
      device.lastSeenAt.any (now - 15000 < ·) = true := by
  simp only [vacant, Bool.and_eq_true, Bool.not_eq_true', decide_eq_true_eq, List.any_eq_true,
    readyDevice] at h
  obtain ⟨⟨⟨hstate, hblocked⟩, device, hdevice, ⟨hcarId, hready⟩, hseen⟩, -⟩ := h
  have hmem : (car, device) ∈ availableDevices db car.id now := by
    unfold availableDevices Table.select
    simp only [List.mem_flatMap, List.mem_filter, List.mem_map, Bool.and_eq_true,
      decide_eq_true_eq, Bool.not_eq_true', Prod.mk.injEq]
    exact ⟨car, ⟨hcar, ⟨rfl, hstate⟩, hblocked⟩, device,
      ⟨hdevice, ⟨hcarId, hready⟩, hseen⟩, rfl, rfl⟩
  cases hpick : limitOne pick (availableDevices db car.id now) with
  | none => exact absurd (limitOne_eq_none_iff.1 hpick ▸ hmem) List.not_mem_nil
  | some found =>
    obtain ⟨row, other⟩ := found
    refine ⟨row, other, rfl, ?_⟩
    have hfound := limitOne_mem hpick
    unfold availableDevices Table.select at hfound
    simp only [List.mem_flatMap, List.mem_filter, List.mem_map, Bool.and_eq_true,
      Prod.mk.injEq] at hfound
    obtain ⟨_, -, _, ⟨-, -, hseen'⟩, -, rfl⟩ := hfound
    exact hseen'

/-- Without a session to drive in, every live session of the user has run out. -/
theorem drivingSessions_of_free {pick : Nat} {userId : Uuid} (hheld : Held db)
    (h : (limitOne pick (drivingSessions db userId now)).bind (·.queueEntryId) = none) :
    drivingSessions db userId now = [] := by
  cases hpick : limitOne pick (drivingSessions db userId now) with
  | none => exact limitOne_eq_none_iff.1 hpick
  | some session =>
    have hsession := (List.mem_filter.1 (limitOne_mem hpick)).1
    obtain ⟨entry, -, hid, -⟩ := hheld session hsession
    rw [hpick, Option.bind_some, hid] at h
    cases h

/-- No unexpired session holds the car or the user. -/
theorem no_session_in_use {userId : Uuid} {car : Car} (hcar : vacant db now car = true)
    (huser : drivingSessions db userId now = []) :
    (db.driveSessions.select fun session =>
      session.status.live && decide (now < session.expiresAt) &&
        (session.carId = car.id || session.userId = userId)) = [] := by
  simp only [vacant, Bool.and_eq_true, Bool.not_eq_true'] at hcar
  refine List.filter_eq_nil_iff.2 fun session hsession huses => ?_
  simp only [Bool.and_eq_true, Bool.or_eq_true, decide_eq_true_eq] at huses
  obtain ⟨⟨hlive, hexpires⟩, hid | hid⟩ := huses
  · have hholds := List.any_eq_false.1 hcar.2 session hsession
    rw [holds, hid, hlive, decide_eq_true rfl, decide_eq_true hexpires] at hholds
    exact hholds rfl
  · have hnot := List.filter_eq_nil_iff.1 huser session hsession
    rw [hid, hlive, decide_eq_true rfl, decide_eq_true hexpires] at hnot
    exact hnot rfl

/-- A new session goes in unless the user has a live one: the car has none, and no session has an
entry that is in the queue. -/
theorem insert_isSome_iff (hconsistent : Consistent db) (hheld : Held db) {input : CreateInput}
    {entry : QueueRow} {car : Car} (hcar : car ∈ db.cars.rows) (hvacant : vacant db now car = true)
    (hid : car.id = input.carId)
    (hentry : ∃ row ∈ db.queueEntries.rows, row.id = entry.id ∧ row.status.live = true)
    (hfresh : ∀ session ∈ db.driveSessions.rows, session.id ≠ input.sessionId) :
    (db.driveSessions.insert? (newSession input entry).clash (newSession input entry)).isSome =
        true ↔
      ∀ session ∈ db.driveSessions.rows, session.userId = input.userId →
        session.status.live = false := by
  constructor
  · intro hsome session hsession huser
    obtain ⟨sessions, hinsert⟩ := Option.isSome_iff_exists.1 hsome
    have hclash := ((Table.insert?_eq_some hinsert).1 session hsession).2
    refine Bool.eq_false_iff.2 fun hlive => ?_
    exact (clash_eq_false hclash rfl hlive).2 huser.symm
  · intro hfree
    rw [Option.isSome_iff_ne_none]
    intro hnone
    obtain ⟨session, hsession, hkey | hclash⟩ := Table.insert?_eq_none_iff.1 hnone
    · exact hfresh session hsession hkey
    · simp only [DriveSession.clash, Bool.or_eq_true, Bool.and_eq_true,
        newSession] at hclash
      rcases hclash with ⟨⟨-, hlive⟩, hcarId | huserId⟩ | ⟨-, hentryId⟩
      · simp only [vacant, Bool.and_eq_true, decide_eq_true_eq] at hvacant
        exact (hconsistent.cars car hcar).available hvacant.1.1.1
          ⟨session, hsession, (of_decide_eq_true hcarId).symm.trans hid.symm, hlive⟩
      · rw [hfree session hsession (of_decide_eq_true huserId).symm] at hlive
        cases hlive
      · obtain ⟨held, hrow, hheldId, htaken⟩ := hheld session hsession
        obtain ⟨row, hrow', hrowId, hlive⟩ := hentry
        have hsame := (of_decide_eq_true hentryId).trans hheldId
        obtain rfl := Table.eq_of_key hrow hrow'
          ((Option.some.inj hsame).symm.trans hrowId.symm)
        rw [htaken.not_live] at hlive
        cases hlive

end accepts

/-! ## The answer and the next call -/

/-- When the queue is up to date and every check passes, `create` comes to its insert. -/
theorem createTransaction_accepts {input : CreateInput} {db : Database} {now : Int}
    {entry : QueueRow} {car : Car} {device : Device} (hlocked : input.lockedAt = now)
    (hchecked : input.checkedAt = now)
    (hagain : (advanceLiveQueue input.collate db now).1 = db)
    (hfound : (advanceLiveQueue input.collate db now).2.entries.find? (·.userId = input.userId) =
      some entry)
    (hoffered : entry.status = .offered) (hfresh : now < entry.expiresAt)
    (hpick : limitOne input.pick (availableDevices db input.carId now) = some (car, device))
    (hseen : device.lastSeenAt.any (now - 15000 < ·) = true)
    (hfree : (db.driveSessions.select fun session =>
      session.status.live && decide (now < session.expiresAt) &&
        (session.carId = input.carId || session.userId = input.userId)) = []) :
    createTransaction input db = insertSession db input entry car device := by
  have hoffer : ¬ (entry.status ≠ .offered ∨ entry.expiresAt ≤ now) := by
    rw [not_or, not_not]
    exact ⟨hoffered, Int.not_le.2 hfresh⟩
  have hheartbeat :
      ¬ device.lastSeenAt.all (fun lastSeenAt => decide (lastSeenAt ≤ now - 15000)) = true := by
    cases hlast : device.lastSeenAt with
    | none =>
      rw [hlast] at hseen
      cases hseen
    | some lastSeenAt =>
      rw [hlast, Option.any_some, decide_eq_true_eq] at hseen
      rw [Option.all_some, decide_eq_true_eq, Int.not_le]
      exact hseen
  unfold createTransaction
  dsimp only
  rw [hlocked, hchecked, hagain, hfound]
  dsimp only
  rw [if_neg hoffer, hpick]
  dsimp only
  rw [if_neg (not_not.2 hfree), if_neg (Int.not_le.2 hfresh), if_neg hheartbeat]

theorem insertSession_isSome (db : Database) (input : CreateInput) (entry : QueueRow) (car : Car)
    (device : Device) :
    (insertSession db input entry car device).1.isSome =
      (db.driveSessions.insert? (newSession input entry).clash
        (newSession input entry)).isSome := by
  unfold insertSession
  dsimp only
  split
  · next hinsert => rw [hinsert]; rfl
  · next hinsert => rw [hinsert]; rfl

/-- The call that accepts a car at the instant of a `read`. -/
def acceptInput (input : QueueInput) (carId sessionId : Uuid) (pick : Nat) : CreateInput :=
  { userId := input.userId, carId, lockedAt := input.now, checkedAt := input.now, sessionId, pick,
    collate := input.collate }

/-- After a ready answer `create` fails where the user has a live session, and only there. -/
theorem ReadyState.create_isSome_iff {input : QueueInput} {start after : Database}
    {snapshot : LiveQueueSnapshot} {entry : QueueRow}
    (hready : ReadyState input start after snapshot entry) (hconsistent : Consistent after)
    (hheld : Held after) {shown : QueueCar} (hshown : shown ∈ snapshot.cars)
    (havailable : shown.availability = .available) {sessionId : Uuid} (pick : Nat)
    (hfresh : ∀ session ∈ start.driveSessions.rows, session.id ≠ sessionId) :
    (createTransaction (acceptInput input shown.id sessionId pick) after).1.isSome = true ↔
      ∀ session ∈ start.driveSessions.rows, session.userId = input.userId →
        session.status.live = false := by
  obtain ⟨hadvance, -⟩ := advanceLiveQueue_spec input.collate after input.now
  obtain ⟨table, hafter⟩ := hready.rest
  have hsessions : after.driveSessions = start.driveSessions := by rw [hafter]
  -- the car that was shown is vacant
  obtain ⟨car, hcar, hid, hvacant⟩ : ∃ car ∈ after.cars.rows,
      car.id = shown.id ∧ vacant after input.now car = true := by
    rw [hafter]
    exact vacant_of_listed (hready.cars ▸ hshown) havailable
  obtain ⟨row, device, hpick, hseen⟩ := availableDevices_of_vacant hcar hvacant pick
  -- the offer still stands
  have hentry := List.mem_of_find?_eq_some hready.found
  have hlive : ∃ r ∈ after.queueEntries.rows, r.id = entry.id ∧ r.status.live = true := by
    have hstored := hadvance.stored ▸ hentry
    rw [hready.again] at hstored
    obtain ⟨r, hr, rfl⟩ := List.mem_map.1 hstored
    exact ⟨r, (mem_liveQueue.1 hr).1, rfl, (mem_liveQueue.1 hr).2⟩
  have hdriving : drivingSessions after input.userId input.now = [] := by
    apply drivingSessions_of_free hheld
    rw [drivingSessions, hsessions]
    exact hready.free
  have hfree := no_session_in_use hvacant hdriving
  rw [hid] at hpick hfree
  have haccepts : createTransaction (acceptInput input shown.id sessionId pick) after =
      insertSession after (acceptInput input shown.id sessionId pick) entry row device :=
    createTransaction_accepts rfl rfl hready.again hready.found hready.offered
      (hadvance.fresh entry hentry) hpick hseen hfree
  rw [haccepts, insertSession_isSome, insert_isSome_iff hconsistent hheld hcar hvacant hid hlive,
    hsessions]
  · rfl
  · rw [hsessions]
    exact hfresh

/-- **Main result.** In every database that the calls of the stores reach, in any order and with
sweeps at any time: when `read` answers that the user is ready and shows an available car, the next
`create` for it returns a session if and only if no session of the user's has a live status. -/
theorem ready_accepts_iff {start : Database} {events : List (PoolEvent QueueStoreCall)}
    {pool : Pool Database} (hstart : Consistent start) (hheld : Held start)
    (hrun : Run (StepOf (Pool.step QueueStoreCall.code)) ⟨start, []⟩ events pool)
    {input : QueueInput} {snapshot : LiveQueueSnapshot} {after : Database}
    (hread : (Web.read input).run pool.shared = (.ok snapshot, after))
    (hready : snapshot.status = .ready) {car : QueueCar} (hcar : car ∈ snapshot.cars)
    (havailable : car.availability = .available) {sessionId : Uuid} (pick : Nat)
    (hfresh : ∀ session ∈ pool.shared.driveSessions.rows, session.id ≠ sessionId) :
    ((Web.create (acceptInput input car.id sessionId pick)).run after).1.isSome = true ↔
      ∀ session ∈ pool.shared.driveSessions.rows, session.userId = input.userId →
        session.status.live = false := by
  obtain ⟨entry, hstate⟩ := joinOrRefresh_ready hread hready
  have hkept := joinOrRefresh_keeps false input (queue_held hstart hheld hrun)
  have hafter : (joinOrRefresh false input pool.shared).2 = after := congrArg Prod.snd hread
  rw [hafter] at hkept
  exact hstate.create_isSome_iff hkept.1 hkept.2 hcar havailable pick hfresh

/-- Two free cars, and nobody in the queue. -/
def twoCars : Database :=
  { offeredDb with
    cars := ⟨[availableCar, { availableCar with id := 11, slug := "rc-two", name := "RC 02" }],
      by decide⟩
    devices := ⟨[availableDevice, { availableDevice with id := 12, carId := some 11 }], by decide⟩
    queueEntries := .empty }

theorem twoCars_consistent : Consistent twoCars where
  oneLive := ⟨fun _ h => absurd h List.not_mem_nil, fun _ h => absurd h List.not_mem_nil⟩
  cars := by
    intro car hcar
    have hnone : ¬ LiveFor twoCars.driveSessions car.id :=
      fun ⟨_, h, _⟩ => absurd h List.not_mem_nil
    refine ⟨fun _ => hnone, fun hs => ?_⟩
    have hall : ∀ car ∈ twoCars.cars.rows, driving car.state = false := by decide
    rw [hall car hcar] at hs
    cases hs

theorem twoCars_held : Held twoCars := fun _ h => absurd h List.not_mem_nil

/-- The `read` of the driver, who has joined. -/
def pollAt (now : Int) : QueueInput := ⟨4, now, 7, 0, fun _ _ => 0⟩

theorem ready_accepts_first_ride :
    ∃ pool snapshot after, runList (Pool.step QueueStoreCall.code) ⟨twoCars, []⟩
        [.start (.join ⟨4, 1000, 3, 0, fun _ _ => 0⟩), .advance 0] = some pool ∧
      (Web.read (pollAt 2000)).run pool.shared = (.ok snapshot, after) ∧
      snapshot.status = .ready ∧
      ((Web.create (acceptInput (pollAt 2000) 1 5 0)).run after).1.isSome = true := by
  have hrun : Run (StepOf (Pool.step QueueStoreCall.code)) ⟨twoCars, []⟩
      [.start (.join ⟨4, 1000, 3, 0, fun _ _ => 0⟩), .advance 0] _ := run_of_runList rfl
  refine ⟨_, _, _, rfl, rfl, rfl, ?_⟩
  have hiff := @ready_accepts_iff _ _ _ twoCars_consistent twoCars_held hrun (pollAt 2000) _ _ rfl
    rfl ⟨1, "rc-one", "RC 01", some 47, .available⟩ (List.Mem.head _) rfl 5 0
    fun _ h => absurd h List.not_mem_nil
  exact hiff.2 fun _ h => absurd h List.not_mem_nil

/-- The driver rides, the session runs out with no sweep, and the driver joins again for the car
that has reported since. -/
def rideThenJoin : List (PoolEvent QueueStoreCall) :=
  [.start (.join ⟨4, 1000, 3, 0, fun _ _ => 0⟩), .advance 0, .lose 0,
    .start (.store (.create ⟨4, 1, 2000, 2000, 5, 0, fun _ _ => 0⟩)), .advance 0, .lose 0,
    .start (.store (.recordHeartbeat 12 ⟨true, true, true, none, none⟩ 400000)), .advance 0,
    .lose 0, .start (.join ⟨4, 400000, 6, 0, fun _ _ => 0⟩), .advance 0]

/-- A session that has run out makes the next acceptance fail. -/
theorem expired_session_refuses :
    ∃ pool snapshot after,
      runList (Pool.step QueueStoreCall.code) ⟨twoCars, []⟩ rideThenJoin = some pool ∧
      (Web.read (pollAt 400000)).run pool.shared = (.ok snapshot, after) ∧
      snapshot.status = .ready ∧
      (∃ car ∈ snapshot.cars, car.id = 11 ∧ car.availability = .available) ∧
      (∀ session ∈ pool.shared.driveSessions.rows, session.id ≠ 8) ∧
      ((Web.create (acceptInput (pollAt 400000) 11 8 0)).run after).1 = none := by
  refine ⟨_, _, _, rfl, rfl, rfl, ?_, ?_, rfl⟩
  · exact ⟨⟨11, "rc-two", "RC 02", some 47, .available⟩, List.Mem.head _, rfl, rfl⟩
  · intro session hsession
    obtain rfl := List.mem_singleton.1 hsession
    decide

end RcOnline.Gateway
