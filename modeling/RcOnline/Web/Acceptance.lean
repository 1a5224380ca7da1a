import RcOnline.Web.DriveSession
import RcOnline.Web.LiveQueueAdvance

/-!
# Accepting an offer

What `create` does when its clock stands still for the length of the transaction. The capacity of
the queue is the number of vacant cars (`capacity_eq`), so an acceptance takes one unit of
capacity (`capacity_accepted`) and one offered entry (`liveQueue_accepted`) together, and the
offers of the other drivers stay within the capacity (`survivors_accepted`).
-/

namespace RcOnline.Web

open RcOnline.Lib RcOnline.Schema

/-! ## Vacant cars -/

/-- A device that `listQueueCars` and `create` may join with a car. -/
def readyDevice (now : Int) (carId : Uuid) (device : Device) : Bool :=
  device.carId = some carId && device.state = .available &&
    device.lastSeenAt.any (now - deviceFreshnessMs < ·)

/-- A session that holds a car at an instant. -/
def holds (now : Int) (carId : Uuid) (session : DriveSession) : Bool :=
  session.carId = carId && session.status.live && decide (now < session.expiresAt)

/-- A car that the queue counts as available. -/
def vacant (db : Database) (now : Int) (car : Car) : Bool :=
  car.state = .available && !car.adminBlocked &&
    db.devices.rows.any (readyDevice now car.id) && !db.driveSessions.rows.any (holds now car.id)

section capacity

variable {collate : String → String → Int} {db : Database} {now : Int}

theorem none_mem_carSessions {car : Car} :
    none ∈ carSessions db now car ↔ db.driveSessions.rows.any (holds now car.id) = false := by
  unfold carSessions
  rw [List.any_eq_false]
  split
  · next hnone =>
    refine ⟨fun _ session hsession => ?_, fun _ => List.mem_singleton_self _⟩
    exact List.filter_eq_nil_iff.1 hnone session hsession
  · next sessions hne =>
    refine ⟨fun h => ?_, fun h => ?_⟩
    · simp at h
    · exact absurd (List.filter_eq_nil_iff.2 h) hne

/-- The distinct rows of the join with no drive session. -/
theorem mem_queueCarRows {row : QueueCarRow} (hnone : row.driveSessionId = none) :
    row ∈ queueCarRows collate db now ↔
      ∃ car ∈ db.cars.rows, car.adminBlocked = false ∧
        db.devices.rows.any (readyDevice now car.id) = true ∧
        db.driveSessions.rows.any (holds now car.id) = false ∧
        row = ⟨car.id, car.slug, car.name, car.batteryPercent, car.state, none⟩ := by
  unfold queueCarRows Table.select
  rw [(List.perm_insertionSort _ _).mem_iff, List.mem_dedup, List.mem_flatMap]
  refine exists_congr fun car => and_congr_right fun _ => ?_
  rw [← none_mem_carSessions, List.any_eq_true]
  simp only [List.mem_flatMap, List.mem_filter, List.mem_map, Bool.and_eq_true, decide_eq_true_eq,
    Bool.not_eq_true', readyDevice]
  constructor
  · rintro ⟨device, ⟨hdevice, ⟨⟨hcar, hblocked⟩, hstate⟩, hseen⟩, sessionId, hsession, rfl⟩
    obtain rfl : sessionId = none := hnone
    exact ⟨hblocked, ⟨device, hdevice, ⟨hcar, hstate⟩, hseen⟩, hsession, rfl⟩
  · rintro ⟨hblocked, ⟨device, hdevice, ⟨hcar, hstate⟩, hseen⟩, hsession, rfl⟩
    exact ⟨device, ⟨hdevice, ⟨⟨hcar, hblocked⟩, hstate⟩, hseen⟩, none, hsession, rfl⟩

/-- The capacity is the number of vacant cars. -/
theorem capacity_eq :
    capacity (listQueueCars collate db now) = db.cars.rows.countP (vacant db now) := by
  let free (row : QueueCarRow) : Bool := row.carState = .available ∧ row.driveSessionId = none
  let row (car : Car) : QueueCarRow :=
    ⟨car.id, car.slug, car.name, car.batteryPercent, car.state, none⟩
  have hcapacity : capacity (listQueueCars collate db now) =
      ((queueCarRows collate db now).filter free).length := by
    unfold capacity listQueueCars
    rw [List.filter_map, List.length_map]
    congr 2
    funext r
    by_cases h : r.carState = .available ∧ r.driveSessionId = none
    · simp [free, h]
    · simpa [free, h] using not_and.1 h
  have hrows : ((queueCarRows collate db now).filter free).Nodup := by
    apply List.Nodup.filter
    exact (List.perm_insertionSort _ _).nodup_iff.2 (List.nodup_dedup _)
  have hcars : ((db.cars.rows.filter (vacant db now)).map row).Nodup := by
    apply List.Nodup.of_map QueueCarRow.id
    rw [List.map_map]
    exact (List.filter_sublist.map Car.id).nodup db.cars.nodup
  rw [hcapacity, List.countP_eq_length_filter, ← List.length_map (f := row)]
  apply List.Perm.length_eq
  rw [List.perm_ext_iff_of_nodup hrows hcars]
  intro r
  simp only [List.mem_filter, List.mem_map, vacant, Bool.and_eq_true, Bool.not_eq_true',
    decide_eq_true_eq, free]
  constructor
  · rintro ⟨hr, havailable, hnone⟩
    obtain ⟨car, hcar, hblocked, hdevice, hsession, rfl⟩ := (mem_queueCarRows hnone).1 hr
    exact ⟨car, ⟨hcar, ⟨⟨havailable, hblocked⟩, hdevice⟩, hsession⟩, rfl⟩
  · rintro ⟨car, ⟨hcar, ⟨⟨havailable, hblocked⟩, hdevice⟩, hsession⟩, rfl⟩
    exact ⟨(mem_queueCarRows rfl).2 ⟨car, hcar, hblocked, hdevice, hsession, rfl⟩, havailable, rfl⟩

/-- A vacant car is on the queue's list of cars. -/
theorem listQueueCars_of_vacant {car : Car} (hcar : car ∈ db.cars.rows)
    (h : vacant db now car = true) :
    ∃ shown ∈ listQueueCars collate db now,
      shown.id = car.id ∧ shown.availability = .available := by
  simp only [vacant, Bool.and_eq_true, Bool.not_eq_true', decide_eq_true_eq] at h
  obtain ⟨⟨⟨havailable, hblocked⟩, hdevice⟩, hsession⟩ := h
  refine ⟨_, List.mem_map_of_mem
    ((mem_queueCarRows rfl).2 ⟨car, hcar, hblocked, hdevice, hsession, rfl⟩), rfl, ?_⟩
  exact if_pos ⟨havailable, rfl⟩

end capacity

/-! ## One car and one entry fewer -/

section accepted

variable {k : Nat} {now : Int}

/-- Offered rows that fit into the capacity stay as they are. -/
theorem survivors_offered {offers : List QueueEntry} (rest : List QueueEntry) {kept : Nat}
    (hstatus : ∀ entry ∈ offers, entry.status = .offered ∧ now < entry.expiresAt)
    (hk : kept + offers.length ≤ k) :
    survivors k now kept (offers ++ rest) =
      offers ++ survivors k now (kept + offers.length) rest := by
  induction offers generalizing kept with
  | nil => rfl
  | cons offer offers ih =>
    rw [List.length_cons] at hk
    obtain ⟨hoffered, hfresh⟩ := hstatus offer List.mem_cons_self
    have hsettled : Settled k now kept offer := ⟨by rw [if_pos (by omega), hoffered], hfresh⟩
    have hrest := ih (fun e he => hstatus e (List.mem_cons_of_mem offer he))
      (show kept + 1 + offers.length ≤ k by omega)
    rw [List.cons_append, survivors_cons, advanceRow_settled hsettled, if_pos hsettled.live, hrest,
      List.length_cons, List.cons_append, Nat.add_assoc, Nat.add_comm 1]

/-- After an advance the offered rows come first, as many as there is capacity for at most. -/
theorem Advance.split {old new : Table QueueEntry} {entries : List QueueRow}
    (h : Advance k now old new entries) :
    ∃ offers rest, liveQueue new = offers ++ rest ∧ offers.length ≤ k ∧
      (∀ entry ∈ offers, entry.status = .offered ∧ now < entry.expiresAt) ∧
      ∀ entry ∈ rest, entry.status = .waiting := by
  have hstatuses := h.statuses
  rw [← h.stored, List.map_map, List.map_eq_append_iff] at hstatuses
  obtain ⟨offers, rest, heq, hoffers, hrest⟩ := hstatuses
  refine ⟨offers, rest, heq, ?_, ?_, ?_⟩
  · have hlength := congrArg List.length hoffers
    rw [List.length_map, List.length_replicate] at hlength
    omega
  · intro entry hentry
    refine ⟨List.eq_of_mem_replicate (hoffers ▸ List.mem_map_of_mem hentry), ?_⟩
    have hmem : queueRow entry ∈ entries :=
      h.stored ▸ List.mem_map_of_mem (heq ▸ List.mem_append_left rest hentry)
    exact h.fresh _ hmem
  · intro entry hentry
    exact List.eq_of_mem_replicate (hrest ▸ List.mem_map_of_mem hentry)

/-- The rows with one entry accepted. -/
def accept (now : Int) (id : Uuid) (table : Table QueueEntry) : Table QueueEntry :=
  table.update (·.id = id) fun row => { row with status := .accepted, updatedAt := now }

/-- An accepted entry leaves the queue. -/
theorem liveQueue_accept {table : Table QueueEntry} {entry : QueueEntry}
    {before after : List QueueEntry} (h : liveQueue table = before ++ entry :: after) :
    liveQueue (accept now entry.id table) = before ++ after := by
  have hsublist : (before ++ after).Sublist (liveQueue table) := by
    rw [h]
    exact (List.Sublist.refl before).append (List.sublist_cons_self entry after)
  have hnd := liveQueue_nodup table
  rw [h, List.map_append, List.map_cons, List.nodup_middle, List.nodup_cons,
    ← List.map_append] at hnd
  apply liveQueue_eq
  · exact hnd.2
  · exact (liveQueue_sorted table).sublist hsublist
  · intro row
    constructor
    · intro hrow
      have hlive := mem_liveQueue.1 (hsublist.subset hrow)
      refine ⟨Table.mem_update.2 ⟨row, hlive.1, patch_of_not ?_⟩, hlive.2⟩
      rw [decide_eq_true_eq]
      exact fun hid => hnd.1 (List.mem_map.2 ⟨row, hrow, hid⟩)
    · rintro ⟨hrow, hlive⟩
      rcases Table.of_mem_update hrow with ⟨old, -, -, rfl⟩ | ⟨hrow, hid⟩
      · cases hlive
      · rw [decide_eq_true_eq] at hid
        have hmem := mem_liveQueue.2 ⟨hrow, hlive⟩
        rw [h, List.mem_append, List.mem_cons] at hmem
        rcases hmem with hmem | rfl | hmem
        · exact List.mem_append_left _ hmem
        · exact absurd rfl hid
        · exact List.mem_append_right _ hmem

/-- An acceptance keeps the other offers where the capacity shrinks by one at most. -/
theorem survivors_accept {old new : Table QueueEntry} {entries : List QueueRow}
    (h : Advance (k + 1) now old new entries) {entry offer : QueueEntry}
    (hentry : entry ∈ liveQueue new) (hoffered : entry.status = .offered)
    (hoffer : offer ∈ liveQueue new) (hne : offer ≠ entry) (hstatus : offer.status = .offered) :
    offer ∈ survivors k now 0 (liveQueue (expireWaiting now (accept now entry.id new))) := by
  obtain ⟨offers, rest, heq, hlength, hoffers, hrest⟩ := h.split
  -- an offered row is one of the first
  have hfirst : ∀ row ∈ liveQueue new, row.status = .offered → row ∈ offers := by
    intro row hrow hrow'
    rw [heq, List.mem_append] at hrow
    refine hrow.resolve_right fun hw => ?_
    rw [hrest row hw] at hrow'
    cases hrow'
  have hfresh : ∀ row ∈ (accept now entry.id new).rows,
      row.status = .waiting → now < row.expiresAt := by
    intro row hrow hw
    rcases Table.of_mem_update hrow with ⟨old, -, -, rfl⟩ | ⟨hrow, -⟩
    · cases hw
    · have hlive : row ∈ liveQueue new := mem_liveQueue.2 ⟨hrow, by rw [hw]; rfl⟩
      exact h.fresh (queueRow row) (h.stored ▸ List.mem_map_of_mem hlive)
  obtain ⟨before, after, hsplit⟩ := List.append_of_mem (hfirst entry hentry hoffered)
  have hqueue : liveQueue (accept now entry.id new) = (before ++ after) ++ rest := by
    rw [hsplit, List.append_assoc, List.cons_append] at heq
    rw [liveQueue_accept heq, List.append_assoc]
  have hmem : offer ∈ before ++ after := by
    have := hfirst offer hoffer hstatus
    rw [hsplit, List.mem_append, List.mem_cons] at this
    rw [List.mem_append]
    exact this.imp_right fun h => h.resolve_left hne
  rw [expireWaiting_of_fresh hfresh, hqueue, survivors_offered rest]
  · exact List.mem_append_left _ hmem
  · intro row hrow
    apply hoffers row
    rw [hsplit, List.mem_append, List.mem_cons]
    exact (List.mem_append.1 hrow).imp_right .inr
  · rw [hsplit, List.length_append, List.length_cons] at hlength
    rw [List.length_append]
    omega

end accepted

/-- A reservation of a vacant car takes one unit of the capacity. -/
theorem capacity_reserve (collate : String → String → Int) {db after : Database} {now : Int}
    {car : Car} {session : DriveSession} (hcar : car ∈ db.cars.rows)
    (hvacant : vacant db now car = true) (hsession : session.carId = car.id)
    (hdevices : after.devices = db.devices)
    (hsessions : after.driveSessions.rows = db.driveSessions.rows ++ [session])
    (hcars : after.cars = db.cars.update (·.id = car.id) fun row =>
      { row with state := .reserved, updatedAt := now }) :
    capacity (listQueueCars collate after now) + 1 = capacity (listQueueCars collate db now) := by
  rw [capacity_eq, capacity_eq, hcars]
  apply Table.countP_update hcar
  · intro row _
    exact decide_eq_true_iff
  · exact hvacant
  · rfl
  · intro row _ hid
    have hother : holds now row.id session = false := by
      have hid' : ¬ car.id = row.id := fun h => hid h.symm
      rw [holds, hsession, decide_eq_false hid', Bool.false_and, Bool.false_and]
    simp only [vacant, hdevices, hsessions, List.any_append, List.any_cons, List.any_nil, hother,
      Bool.or_false]

/-! ## The transaction -/

/-- The same call under a clock that stands still. -/
def CreateInput.frozen (input : CreateInput) (now : Int) : CreateInput :=
  { input with lockedAt := now, checkedAt := now }

/-- A row of the join is a car of that id with a ready device. -/
theorem mem_availableDevices {db : Database} {carId : Uuid} {now : Int} {car : Car}
    {device : Device} (h : (car, device) ∈ availableDevices db carId now) :
    car ∈ db.cars.rows ∧ car.id = carId ∧ car.state = .available ∧ car.adminBlocked = false ∧
      db.devices.rows.any (readyDevice now car.id) = true := by
  unfold availableDevices Table.select at h
  simp only [List.mem_flatMap, List.mem_filter, List.mem_map, Bool.and_eq_true, decide_eq_true_eq,
    Bool.not_eq_true', Prod.mk.injEq] at h
  obtain ⟨row, ⟨hrow, ⟨hid, hstate⟩, hblocked⟩, found, ⟨hdevice, hready⟩, rfl, rfl⟩ := h
  refine ⟨hrow, hid, hstate, hblocked, List.any_eq_true.2 ⟨found, hdevice, ?_⟩⟩
  rw [readyDevice, Bool.and_eq_true, Bool.and_eq_true, decide_eq_true_eq, decide_eq_true_eq]
  exact hready

/-- No session that `create` would meet holds the car. -/
theorem holds_of_free {sessions : Table DriveSession} {now : Int} {userId carId : Uuid}
    (h : (sessions.select fun session =>
      session.status.live && decide (now < session.expiresAt) &&
        (session.carId = carId || session.userId = userId)) = []) :
    sessions.rows.any (holds now carId) = false := by
  rw [List.any_eq_false]
  intro session hsession hholds
  rw [holds, Bool.and_eq_true, Bool.and_eq_true] at hholds
  apply List.filter_eq_nil_iff.1 h session hsession
  rw [hholds.1.1, hholds.1.2, hholds.2]
  rfl

/-- What `create` leaves of an advanced database when it returns a session. -/
structure Accepted (input : CreateInput) (now : Int) (before after : Database) (entry : QueueRow)
    (created : CreatedDriveSession) : Prop where
  queueEntries : after.queueEntries = accept now entry.id before.queueEntries
  cars : after.cars = before.cars.update (·.id = input.carId) fun row =>
    { row with state := .reserved, updatedAt := now }
  session : ∃ session, after.driveSessions.rows = before.driveSessions.rows ++ [session] ∧
    session.id = created.sessionId ∧ session.status.live = true ∧ session.userId = input.userId ∧
    session.carId = input.carId ∧ session.queueEntryId = some entry.id
  devices : after.devices = before.devices

/-- The transaction leaves the advanced queue, or turns an offer and a vacant car into a session. -/
theorem createTransaction_cases (input : CreateInput) (now : Int) (db : Database)
    (hlocked : input.lockedAt = now) (hchecked : input.checkedAt = now) :
    createTransaction input db = (none, (advanceLiveQueue input.collate db now).1) ∨
    ∃ entry car created after,
      createTransaction input db = (some created, after) ∧
      (advanceLiveQueue input.collate db now).2.entries.find? (·.userId = input.userId) =
        some entry ∧
      entry.status = .offered ∧ now < entry.expiresAt ∧
      car ∈ (advanceLiveQueue input.collate db now).1.cars.rows ∧ car.id = input.carId ∧
      vacant (advanceLiveQueue input.collate db now).1 now car = true ∧
      Accepted input now (advanceLiveQueue input.collate db now).1 after entry created := by
  unfold createTransaction
  rw [hlocked, hchecked]
  dsimp only
  split
  · exact .inl rfl
  · next entry hentry =>
    split
    · exact .inl rfl
    · next hoffer =>
      rw [not_or, not_not, Int.not_le] at hoffer
      split
      · exact .inl rfl
      · next car device hpick =>
        split
        · exact .inl rfl
        · next hsessions =>
          rw [if_neg (Int.not_le.2 hoffer.2)]
          split
          · exact .inl rfl
          · obtain ⟨hcar, hid, hstate, hblocked, hready⟩ :=
              mem_availableDevices (limitOne_mem hpick)
            have hfree := holds_of_free (not_not.1 hsessions)
            have hvacant : vacant (advanceLiveQueue input.collate db now).1 now car = true := by
              rw [vacant, hstate, hblocked, hready, hid, hfree]
              rfl
            unfold insertSession
            dsimp only
            split
            · exact .inl rfl
            · next sessions hinsert =>
              right
              refine ⟨entry, car, _, _, rfl, hentry, hoffer.1, hoffer.2, hcar, hid, hvacant, ?_⟩
              exact
                { queueEntries := by rw [hchecked]; rfl
                  cars := by rw [hchecked]
                  session := ⟨_, (Table.insert?_eq_some hinsert).2, rfl, rfl, rfl, rfl, rfl⟩
                  devices := rfl }

/-- After an acceptance the other offers stand through the next advance. -/
theorem Accepted.offers {input : CreateInput} {now : Int} {before after : Database}
    {old : Table QueueEntry} {entries : List QueueRow} {entry : QueueRow} {car : Car}
    {created : CreatedDriveSession} (h : Accepted input now before after entry created)
    (hadvance : Advance (capacity (listQueueCars input.collate before now)) now old
      before.queueEntries entries)
    (hentry : entry ∈ entries) (hoffered : entry.status = .offered)
    (hcar : car ∈ before.cars.rows) (hid : car.id = input.carId)
    (hvacant : vacant before now car = true) {offer : QueueRow} (hoffer : offer ∈ entries)
    (hne : offer ≠ entry) (hstatus : offer.status = .offered) :
    offer ∈ (advanceLiveQueue input.collate after now).2.entries := by
  obtain ⟨session, hsessions, -, -, -, hcarId, -⟩ := h.session
  have hcapacity := capacity_reserve input.collate hcar hvacant
    (hcarId.trans hid.symm) h.devices hsessions (by rw [h.cars, hid])
  rw [← hcapacity] at hadvance
  rw [← hadvance.stored, List.mem_map] at hentry hoffer
  obtain ⟨row, hrow, rfl⟩ := hentry
  obtain ⟨other, hother, rfl⟩ := hoffer
  have hkept := survivors_accept hadvance hrow hoffered hother (fun h => hne (h ▸ rfl)) hstatus
  rw [advanceLiveQueue_eq, h.queueEntries]
  exact List.mem_map_of_mem hkept

/-- **Main result.** Under a clock that stands still `create` turns the user's standing offer and
an available car into one live session, or changes no session and no car; the other drivers' offers
stand through the next advance at that instant in either case. -/
theorem create_accepts (input : CreateInput) (now : Int) (db : Database) :
    let queue := advanceLiveQueue input.collate db now
    let outcome := createTransaction (input.frozen now) db
    (∀ created, outcome.1 = some created →
      ∃ entry, queue.2.entries.find? (·.userId = input.userId) = some entry ∧
        entry.status = .offered ∧ now < entry.expiresAt ∧
        (∃ car ∈ queue.2.cars, car.id = input.carId ∧ car.availability = .available) ∧
        (∃ row ∈ outcome.2.queueEntries.rows,
          row.id = entry.id ∧ row.userId = input.userId ∧ row.status = .accepted) ∧
        (∃ car ∈ outcome.2.cars.rows, car.id = input.carId ∧ car.state = .reserved) ∧
        ∃ session, outcome.2.driveSessions.rows = db.driveSessions.rows ++ [session] ∧
          session.id = created.sessionId ∧ session.status.live = true ∧
          session.userId = input.userId ∧ session.carId = input.carId ∧
          session.queueEntryId = some entry.id) ∧
    (outcome.1 = none →
      outcome.2.driveSessions = db.driveSessions ∧ outcome.2.cars = db.cars) ∧
    ∀ offer ∈ queue.2.entries, offer.userId ≠ input.userId → offer.status = .offered →
      offer ∈ (advanceLiveQueue input.collate outcome.2 now).2.entries := by
  intro queue outcome
  obtain ⟨hadvance, hcars, hagain⟩ := advanceLiveQueue_spec input.collate db now
  rcases createTransaction_cases (input.frozen now) now db rfl rfl with
    hnone | ⟨entry, car, created, after, hsome, hfind, hoffered, hfresh, hcar, hid, hvacant,
      haccepted⟩
  · have houtcome : outcome = (none, queue.1) := hnone
    rw [houtcome]
    refine ⟨nofun, fun _ => ⟨rfl, rfl⟩, fun offer hoffer _ _ => ?_⟩
    rw [show advanceLiveQueue input.collate queue.1 now = queue from hagain]
    exact hoffer
  · have houtcome : outcome = (some created, after) := hsome
    have hentry : entry ∈ queue.2.entries := List.mem_of_find?_eq_some hfind
    have huser : entry.userId = input.userId := by
      have h := List.find?_some hfind
      exact of_decide_eq_true h
    rw [houtcome]
    refine ⟨?_, nofun, fun offer hoffer hne hstatus => ?_⟩
    · rintro _ ⟨⟩
      refine ⟨entry, hfind, hoffered, hfresh, ?_, ?_, ?_, haccepted.session⟩
      · obtain ⟨shown, hshown, hshownId, havailable⟩ := listQueueCars_of_vacant hcar hvacant
        exact ⟨shown, hcars ▸ hshown, hshownId.trans hid, havailable⟩
      · have hstored := hadvance.stored ▸ hentry
        obtain ⟨row, hrow, rfl⟩ := List.mem_map.1 hstored
        have hnew : { row with status := .accepted, updatedAt := now } ∈
            (accept now row.id queue.1.queueEntries).rows :=
          Table.mem_update_of (mem_liveQueue.1 hrow).1 (decide_eq_true rfl)
        rw [haccepted.queueEntries]
        exact ⟨_, hnew, rfl, huser, rfl⟩
      · rw [haccepted.cars]
        exact ⟨_, Table.mem_update_of hcar (decide_eq_true hid), hid, rfl⟩
    · apply haccepted.offers hadvance hentry hoffered hcar hid hvacant hoffer _ hstatus
      rintro rfl
      exact hne huser

end RcOnline.Web
