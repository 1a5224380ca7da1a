import RcOnline.Web.QueueTurns

/-!
# The transactions of the queue

How the rows evolve over each transaction: `join` and `read` (`joinOrRefresh_evolves`), `leave`,
and `create` with one reading of its clock or two. What the rest of the system does to the rows is
`Outside`: it ends the entries of drive sessions, and these are out of the queue (`Held`).
-/

namespace RcOnline.Web

open RcOnline.Lib RcOnline.Schema

/-! ## Join and read -/

section joins

variable {explicitJoin : Bool} {input : QueueInput} {start : Database}

/-- The rows after the first advance of a transaction. -/
def firstAdvance (collate : String → String → Int) (now : Int) (db : Database) :
    Table QueueEntry :=
  advancedTable (capacity (listQueueCars collate db now)) now db.queueEntries

/-- The user for whom `join` and `read` may insert a row. -/
def MayCome (explicitJoin : Bool) (input : QueueInput) (start : Database) (userId : Uuid) : Prop :=
  userId = input.userId ∧ (explicitJoin = true ∨ ¬ LatestMissed userId start.queueEntries)

/-- The rows that `join` and `read` leave. -/
inductive Rejoins (explicitJoin : Bool) (input : QueueInput) (start : Database) :
    Table QueueEntry → Prop where
  | undone : Rejoins explicitJoin input start start.queueEntries
  | advanced : Rejoins explicitJoin input start (firstAdvance input.collate input.now start)
  | refreshed {entry : QueueEntry}
      (hentry : entry ∈ (firstAdvance input.collate input.now start).rows)
      (hwaiting : entry.status = .waiting) :
      Rejoins explicitJoin input start
        ((firstAdvance input.collate input.now start).update (·.id = entry.id) fun row =>
          { row with expiresAt := input.now + queueLeaseMs, updatedAt := input.now })
  | inserted {table : Table QueueEntry} (hcomes : MayCome explicitJoin input start input.userId)
      (hinsert : (firstAdvance input.collate input.now start).insert? (newEntry input).clash
        (newEntry input) = some table) :
      Rejoins explicitJoin input start
        (advancedTable (capacity (listQueueCars input.collate start input.now)) input.now table)

/-- The second advance, and the read of the user's row. -/
theorem placedSnapshot_db (input : QueueInput) (start : Database) (table : Table QueueEntry) :
    (placedSnapshot input start { start with queueEntries := table }).2 = start ∨
    (placedSnapshot input start { start with queueEntries := table }).2 =
      { start with
        queueEntries :=
          advancedTable (capacity (listQueueCars input.collate start input.now)) input.now
            table } := by
  unfold placedSnapshot
  dsimp only
  split
  · exact .inl rfl
  · right
    exact advanceLiveQueue_table ..

/-- A missed last entry is still the last one after the first advance. -/
theorem lastEntry_firstAdvance (collate : String → String → Int) (now : Int) {userId : Uuid}
    (h : LatestMissed userId start.queueEntries) :
    ∃ last, lastEntry userId (firstAdvance collate now start) = some last ∧
      last.status = .missed := by
  obtain ⟨entry, hlatest, hmissed⟩ := h
  have hevolves : Evolves now (fun _ => False) start.queueEntries
      (firstAdvance collate now start) :=
    .of_corresponds (advancedTable_turns _)
  exact ⟨entry, lastEntry_of_latest (hlatest.evolves hmissed hevolves id), hmissed⟩

/-- **What `join` and `read` leave**: other rows of the queue, and no other change. -/
theorem joinOrRefresh_rejoins (explicitJoin : Bool) (input : QueueInput) (start : Database) :
    ∃ table, Rejoins explicitJoin input start table ∧
      (joinOrRefresh explicitJoin input start).2 = { start with queueEntries := table } := by
  have hfirst : (advanceLiveQueue input.collate start input.now).1 =
      { start with queueEntries := firstAdvance input.collate input.now start } :=
    advanceLiveQueue_table ..
  have hstored := (advanceLiveQueue_spec input.collate start input.now).1.stored
  unfold joinOrRefresh
  dsimp only
  rw [hfirst] at hstored ⊢
  -- the second advance ends in one of two ways
  have hplaced : ∀ {table table' : Table QueueEntry},
      advancedTable (capacity (listQueueCars input.collate start input.now)) input.now table =
        table' → Rejoins explicitJoin input start table' →
      ∃ table', Rejoins explicitJoin input start table' ∧
        (placedSnapshot input start { start with queueEntries := table }).2 =
          { start with queueEntries := table' } := by
    intro table table' heq hrejoins
    rcases placedSnapshot_db input start table with hundone | hdone
    · exact ⟨_, .undone, hundone⟩
    · exact ⟨_, hrejoins, heq ▸ hdone⟩
  have hsettled := advancedTable_settled
    (capacity (listQueueCars input.collate start input.now)) input.now start.queueEntries
  split
  · exact ⟨_, .advanced, rfl⟩
  · split
    · next entry hfind =>
      have hentry := List.mem_of_find?_eq_some hfind
      rw [← hstored] at hentry
      obtain ⟨row, hrow, rfl⟩ := List.mem_map.1 hentry
      split
      · next hwaiting =>
        exact hplaced (advancedTable_eq_self hsettled.refresh)
          (.refreshed (mem_liveQueue.1 hrow).1 hwaiting)
      · exact hplaced (advancedTable_eq_self hsettled) .advanced
    · split
      · exact ⟨_, .advanced, rfl⟩
      · next hlast =>
        unfold insertEntry
        split
        · exact hplaced (advancedTable_eq_self hsettled) .advanced
        · next hinsert =>
          refine hplaced rfl (.inserted ⟨rfl, ?_⟩ hinsert)
          refine or_iff_not_imp_left.2 fun hread hmissed => ?_
          obtain ⟨last, hfound, hstatus⟩ := lastEntry_firstAdvance input.collate input.now hmissed
          rw [hfound, Option.filter_some, Bool.eq_false_iff.2 hread, hstatus] at hlast
          cases hlast

/-- A row of the queue keeps the user's rows out. -/
theorem clash_of_live {new row : QueueEntry} (hnew : new.status.live = true)
    (hrow : row.status.live = true) (huser : row.userId = new.userId) : new.clash row = true := by
  rw [QueueEntry.clash, hnew, hrow, huser, decide_eq_true rfl]
  rfl

/-- The rows evolve over a `join` or a `read`, and only the caller may come. -/
theorem Rejoins.evolves {table : Table QueueEntry} (h : Rejoins explicitJoin input start table) :
    Evolves input.now (MayCome explicitJoin input start) start.queueEntries table := by
  have hfirst : start.queueEntries.Corresponds (Turn input.now)
      (firstAdvance input.collate input.now start) := advancedTable_turns _
  cases h with
  | undone => exact .refl _
  | advanced => exact .of_corresponds hfirst
  | refreshed hentry hwaiting =>
    refine .of_corresponds (hfirst.comp (Table.corresponds_update
      (fun row hrow hid => ?_) fun _ => .same) Turn.settle)
    obtain rfl := Table.eq_of_key hrow hentry (of_decide_eq_true hid)
    have hsame : { row with expiresAt := input.now + queueLeaseMs, updatedAt := input.now } =
        { row with
          status := .waiting, expiresAt := input.now + queueLeaseMs, updatedAt := input.now } := by
      rw [← hwaiting]
    rw [hsame]
    exact .waits (by rw [hwaiting]; rfl)
  | @inserted inserted hcomes hinsert =>
    have hsettled := advancedTable_settled
      (capacity (listQueueCars input.collate start input.now)) input.now start.queueEntries
    have hlease : input.now < (newEntry input).expiresAt := by
      simp only [newEntry, queueLeaseMs]
      omega
    have hpending : Pending input.now (newEntry input) := ⟨rfl, fun _ => hlease⟩
    obtain ⟨hafter, hbefore⟩ := advancedTable_insert hsettled hinsert rfl hlease
    constructor
    · intro before hmem
      obtain ⟨middle, hmiddle, hturn⟩ := hfirst.after before hmem
      obtain ⟨after, hmem', hsettles⟩ := hafter middle hmiddle
      exact ⟨after, hmem', hturn.settle hsettles⟩
    · intro after hmem
      rcases hbefore after hmem with ⟨middle, hmiddle, hsettles⟩ | ⟨n, rfl⟩
      · obtain ⟨before, hmem', hturn⟩ := hfirst.before middle hmiddle
        exact .inl ⟨before, hmem', hturn.settle hsettles⟩
      · right
        have hcolumns := advanceRow_columns
          (capacity (listQueueCars input.collate start input.now)) input.now n (newEntry input)
        refine ⟨hcolumns.2.2.1, ?_, hcolumns.2.1 ▸ hcomes, fun other hother huser hlive => ?_⟩
        · have hoffered : ¬ (newEntry input).status = .offered := fun h => by cases h
          unfold advanceRow
          rw [if_neg hoffered]
          split
          · exact .inr ⟨rfl, rfl⟩
          · left
            split <;> rfl
        · rcases hbefore other hother with ⟨middle, hmiddle, hsettles⟩ | ⟨m, rfl⟩
          · have hclash := ((Table.insert?_eq_some hinsert).1 middle hmiddle).2
            rw [clash_of_live rfl (hsettles.live hlive)
              (hsettles.columns.2.1.symm.trans (huser.trans hcolumns.2.1))] at hclash
            cases hclash
          · apply Table.eq_of_key hother hmem
            rw [advanceRow_key, advanceRow_key]

end joins

/-! ## Leave -/

/-- What an update of live rows does to one of them. -/
inductive Drops (f : QueueEntry → QueueEntry) (entry : QueueEntry) : QueueEntry → Prop where
  | same : Drops f entry entry
  | dropped : entry.status.live = true → Drops f entry (f entry)

theorem leaveTransaction_db (userId : Uuid) (now : Int) (collate : String → String → Int)
    (db : Database) :
    leaveTransaction userId now collate db =
      { db with
        queueEntries := advancedTable (capacity (listQueueCars collate db now)) now
          (leaveQueue userId now db.queueEntries) } := by
  unfold leaveTransaction
  exact advanceLiveQueue_table ..

theorem leaveTransaction_turns (userId : Uuid) (now : Int) (collate : String → String → Int)
    (db : Database) :
    db.queueEntries.Corresponds (Turn now)
      (leaveTransaction userId now collate db).queueEntries := by
  have hleave : db.queueEntries.Corresponds
      (Drops fun row => { row with status := .left, updatedAt := now, expiresAt := now })
      (leaveQueue userId now db.queueEntries) :=
    Table.corresponds_update (fun row _ hp => .dropped (Bool.and_elim_right hp)) fun _ => .same
  rw [leaveTransaction_db]
  refine hleave.comp (advancedTable_advances _) fun hdrops hadvances => ?_
  cases hdrops with
  | same => exact hadvances.turn
  | dropped hlive =>
    rw [hadvances.idle rfl]
    exact .left hlive

/-! ## Create -/

section creates

variable {input : CreateInput} {db : Database}

/-- What `create` leaves, for any two readings of its clock. -/
inductive Creates (input : CreateInput) (db : Database) :
    Option CreatedDriveSession × Database → Prop where
  | refused : Creates input db (none, (advanceLiveQueue input.collate db input.lockedAt).1)
  /-- The offer ran out between the two readings. -/
  | late (hlate : input.lockedAt < input.checkedAt) :
      Creates input db
        (none, (advanceLiveQueue input.collate
          (advanceLiveQueue input.collate db input.lockedAt).1 input.checkedAt).1)
  | created {entry : QueueRow} {created : CreatedDriveSession} {after : Database}
      (hentry : entry ∈ (advanceLiveQueue input.collate db input.lockedAt).2.entries)
      (hinsert : db.driveSessions.insert? (newSession input entry).clash (newSession input entry) =
        some after.driveSessions)
      (hentries : after.queueEntries = accept input.checkedAt entry.id
        (advanceLiveQueue input.collate db input.lockedAt).1.queueEntries) :
      Creates input db (some created, after)

theorem createTransaction_creates (input : CreateInput) (db : Database) :
    Creates input db (createTransaction input db) := by
  unfold createTransaction
  dsimp only
  split
  · exact .refused
  · next entry hfind =>
    split
    · exact .refused
    · next hoffer =>
      rw [not_or, Int.not_le] at hoffer
      split
      · exact .refused
      · split
        · exact .refused
        · split
          · next hlate => exact .late (Int.lt_of_lt_of_le hoffer.2 hlate)
          · split
            · exact .refused
            · unfold insertSession
              dsimp only
              split
              · exact .refused
              · next hinsert => exact .created (List.mem_of_find?_eq_some hfind) hinsert rfl

/-- The first advance of `create`. -/
theorem create_locked (input : CreateInput) (db : Database) :
    db.queueEntries.Corresponds (Turn input.lockedAt)
      (advanceLiveQueue input.collate db input.lockedAt).1.queueEntries := by
  rw [advanceLiveQueue_table]
  exact advancedTable_turns _

/-- The update that accepts an entry meets a row of the queue. -/
theorem accept_drops {collate : String → String → Int} {now : Int} (at' : Int) {entry : QueueRow}
    (hentry : entry ∈ (advanceLiveQueue collate db now).2.entries) :
    (advanceLiveQueue collate db now).1.queueEntries.Corresponds
      (Drops fun row => { row with status := .accepted, updatedAt := at' })
      (accept at' entry.id (advanceLiveQueue collate db now).1.queueEntries) := by
  rw [← (advanceLiveQueue_spec collate db now).1.stored] at hentry
  obtain ⟨row, hrow, rfl⟩ := List.mem_map.1 hentry
  obtain ⟨hrow, hlive⟩ := mem_liveQueue.1 hrow
  refine Table.corresponds_update (fun other hother hid => ?_) fun _ => .same
  obtain rfl := Table.eq_of_key hother hrow (of_decide_eq_true hid)
  exact .dropped hlive

/-- What `create` does after its first advance. -/
theorem Creates.checked {outcome : Option CreatedDriveSession × Database}
    (h : Creates input db outcome) :
    (advanceLiveQueue input.collate db input.lockedAt).1.queueEntries.Corresponds
      (Turn input.checkedAt) outcome.2.queueEntries := by
  cases h with
  | refused => exact .refl (fun _ => .same) _
  | late =>
    rw [advanceLiveQueue_table input.collate (advanceLiveQueue input.collate db input.lockedAt).1]
    exact advancedTable_turns _
  | created hentry hinsert hentries =>
    rw [hentries]
    refine (accept_drops input.checkedAt hentry).mono fun hdrops => ?_
    cases hdrops with
    | same => exact .same
    | dropped hlive => exact .accepted _ hlive

/-- The whole of `create`, when its clock stands still. -/
theorem Creates.frozen {outcome : Option CreatedDriveSession × Database}
    (h : Creates input db outcome) (hfrozen : input.lockedAt = input.checkedAt) :
    db.queueEntries.Corresponds (Turn input.checkedAt) outcome.2.queueEntries := by
  have hlocked := create_locked input db
  cases h with
  | refused => exact hfrozen ▸ hlocked
  | late hlate => exact absurd hfrozen hlate.ne
  | created hentry hinsert hentries =>
    rw [hentries]
    refine hlocked.comp (accept_drops input.checkedAt hentry) fun hturn hdrops => ?_
    rw [hfrozen] at hturn
    cases hdrops with
    | same => exact hturn
    | dropped hlive => exact hturn.accept hlive

end creates

/-! ## The rest of the system -/

/-- The entry of every drive session is out of the queue. -/
def Held (db : Database) : Prop :=
  ∀ session ∈ db.driveSessions.rows, ∃ entry ∈ db.queueEntries.rows,
    session.queueEntryId = some entry.id ∧ Taken entry

/-- What other code does to the rows: it may end the entries of drive sessions. Cars, devices and
sessions change in any way, but no session gets another entry. -/
structure Outside (before after : Database) : Prop where
  entries : before.queueEntries.Corresponds (fun entry entry' => entry' = entry ∨
    ((∃ session ∈ before.driveSessions.rows, session.queueEntryId = some entry.id) ∧
      ∃ endedAt, entry' =
        { entry with status := .left, expiresAt := endedAt, updatedAt := endedAt }))
    after.queueEntries
  sessions : ∀ session' ∈ after.driveSessions.rows, ∃ session ∈ before.driveSessions.rows,
    session'.queueEntryId = session.queueEntryId

section held

variable {now : Int} {db db' : Database}

theorem Held.turns (h : Held db)
    (hturns : ∀ before ∈ db.queueEntries.rows, ∃ after ∈ db'.queueEntries.rows,
      Turn now before after)
    (hsessions : ∀ session' ∈ db'.driveSessions.rows, ∃ session ∈ db.driveSessions.rows,
      session'.queueEntryId = session.queueEntryId) : Held db' := by
  intro session' hsession'
  obtain ⟨session, hsession, hsame⟩ := hsessions session' hsession'
  obtain ⟨entry, hentry, hid, htaken⟩ := h session hsession
  obtain ⟨after, hafter, hturn⟩ := hturns entry hentry
  exact ⟨after, hafter, by rw [hsame, hid, hturn.columns.1], hturn.taken htaken⟩

theorem Outside.turns (h : Outside db db') (hheld : Held db) :
    db.queueEntries.Corresponds (Turn now) db'.queueEntries := by
  have hrow : ∀ entry ∈ db.queueEntries.rows, ∀ session ∈ db.driveSessions.rows,
      session.queueEntryId = some entry.id → Taken entry := by
    intro entry hentry session hsession hid
    obtain ⟨held, hheld, hid', htaken⟩ := hheld session hsession
    obtain rfl := Table.eq_of_key hentry hheld (Option.some.inj (hid.symm.trans hid'))
    exact htaken
  constructor
  · intro entry hentry
    obtain ⟨after, hafter, rfl | ⟨⟨session, hsession, hid⟩, endedAt, rfl⟩⟩ :=
      h.entries.after entry hentry
    · exact ⟨_, hafter, .same⟩
    · exact ⟨_, hafter, .released endedAt (hrow entry hentry session hsession hid)⟩
  · intro after hafter
    obtain ⟨entry, hentry, rfl | ⟨⟨session, hsession, hid⟩, endedAt, rfl⟩⟩ :=
      h.entries.before after hafter
    · exact ⟨_, hentry, .same⟩
    · exact ⟨_, hentry, .released endedAt (hrow entry hentry session hsession hid)⟩

theorem Creates.held {input : CreateInput} {outcome : Option CreatedDriveSession × Database}
    (h : Creates input db outcome) (hheld : Held db) : Held outcome.2 := by
  have hfirst : Held (advanceLiveQueue input.collate db input.lockedAt).1 :=
    hheld.turns (create_locked input db).after fun session h => ⟨session, h, rfl⟩
  have hchecked := h.checked
  cases h with
  | refused => exact hfirst
  | late => exact hfirst.turns hchecked.after fun session h => ⟨session, h, rfl⟩
  | @created entry _ after hentry hinsert hentries =>
    intro session hsession
    rcases (Table.mem_insert? hinsert).1 hsession with hold | rfl
    · obtain ⟨row, hrow, hid, htaken⟩ := hfirst session hold
      obtain ⟨row', hrow', hturn⟩ := hchecked.after row hrow
      exact ⟨row', hrow', by rw [hid, hturn.columns.1], hturn.taken htaken⟩
    · rw [← (advanceLiveQueue_spec input.collate db input.lockedAt).1.stored] at hentry
      obtain ⟨row, hrow, rfl⟩ := List.mem_map.1 hentry
      rw [hentries]
      exact ⟨_, Table.mem_update_of (mem_liveQueue.1 hrow).1 (decide_eq_true rfl), rfl, .inl rfl⟩

end held

end RcOnline.Web
