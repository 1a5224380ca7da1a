import RcOnline.Lib.Steps
import RcOnline.Web.QueueTransactions

/-!
# Offers over whole runs

Any calls of any users, in any order and at instants that never go back, with cars, devices and
sessions changing in between. A run keeps the rows of every instant at which a transaction read its
clock (`QueueMoment`); each moment follows from the one before it (`Follows`), and what the queue
promises its drivers is proved of such histories (`offers_fair`).
-/

namespace RcOnline.Web

open RcOnline.Lib RcOnline.Schema

/-! ## Histories -/

/-- Who has written the rows. -/
inductive QueueCall where
  | join (userId : Uuid)
  | read (userId : Uuid)
  | leave (userId : Uuid)
  | create (userId : Uuid)
  | outside
  deriving DecidableEq

/-- The rows at an instant. -/
structure QueueMoment where
  now : Int
  call : QueueCall
  table : Table QueueEntry

/-- The user whose row the call may insert. -/
def QueueCall.Admits : QueueCall → Table QueueEntry → Uuid → Prop
  | .join caller, _, userId => userId = caller
  | .read caller, table, userId => userId = caller ∧ ¬ LatestMissed userId table
  | .leave _, _, _ | .create _, _, _ | .outside, _, _ => False

/-- A moment that follows another. -/
structure Next (v w : QueueMoment) : Prop where
  now : v.now ≤ w.now
  rows : Evolves w.now (w.call.Admits v.table) v.table w.table

/-- The steps of a history, whose events are its moments. -/
def Follows (v w w' : QueueMoment) : Prop := Next v w ∧ w' = w

/-- The moment before anyone has joined. -/
def QueueMoment.initial (now : Int) : QueueMoment := ⟨now, .outside, .empty⟩

/-- The entry is offered, with that deadline. -/
def OfferedUntil (id : Uuid) (deadline : Int) (moment : QueueMoment) : Prop :=
  ∃ entry ∈ moment.table.rows,
    entry.id = id ∧ entry.status = .offered ∧ entry.expiresAt = deadline

def Missed (id : Uuid) (moment : QueueMoment) : Prop :=
  ∃ entry ∈ moment.table.rows, entry.id = id ∧ entry.status = .missed

/-- The user is waiting or holds an offer. -/
def InQueue (userId : Uuid) (moment : QueueMoment) : Prop :=
  ∃ entry ∈ moment.table.rows, entry.userId = userId ∧ entry.status.live = true

/-! ## What a history promises -/

section promises

variable (moments : List QueueMoment)

/-- As long as an entry stays offered, its deadline stays. -/
def DeadlinesFixed : Prop :=
  ∀ before v during after id deadline, moments = before ++ v :: during ++ after →
    OfferedUntil id deadline v → (∀ w ∈ during, ∃ deadline', OfferedUntil id deadline' w) →
    ∀ w ∈ during, OfferedUntil id deadline w

/-- When an entry is marked missed, it has been offered without interruption and with one deadline
for as long as an offer lasts. -/
def MissedInTime : Prop :=
  ∀ before w after id, moments = before ++ w :: after → Missed id w →
    (∀ v ∈ before, ¬ Missed id v) →
    ∃ earlier v during deadline, before = earlier ++ v :: during ∧
      (∀ m ∈ v :: during, OfferedUntil id deadline m) ∧ v.now + queueOfferMs ≤ w.now

/-- Every entry, whatever happens to its offer, keeps its user and its joining time, and nobody who
was not there comes before it. -/
def PlacesKept : Prop :=
  ∀ before v during w after, moments = before ++ v :: (during ++ w :: after) →
    ∀ entry ∈ v.table.rows, ∃ entry' ∈ w.table.rows, entry'.id = entry.id ∧
      entry'.userId = entry.userId ∧ entry'.joinedAt = entry.joinedAt ∧
      ∀ other ∈ w.table.rows, other.joinedAt < entry'.joinedAt →
        ∃ old ∈ v.table.rows, old.id = other.id

/-- Between a moment when a user's latest entry is missed and one when the user is in the queue,
the user has called `join`. -/
def NeverRequeued : Prop :=
  ∀ before v during w after userId, moments = before ++ v :: (during ++ w :: after) →
    LatestMissed userId v.table → InQueue userId w → ∃ m ∈ during ++ [w], m.call = .join userId

end promises

/-! ## One step -/

section next

variable {v w : QueueMoment} {id userId : Uuid} {deadline : Int}

/-- An entry that was and is offered has one deadline. -/
theorem Next.offered (h : Next v w) (hv : OfferedUntil id deadline v)
    (hw : ∃ deadline', OfferedUntil id deadline' w) : OfferedUntil id deadline w := by
  obtain ⟨before, hbefore, hid, hoffered, hdeadline⟩ := hv
  obtain ⟨_, after, hafter, hid', hoffered', -⟩ := hw
  refine ⟨after, hafter, hid', hoffered', ?_⟩
  rcases (h.rows.of_id hbefore hafter (hid'.trans hid.symm)).of_offered hoffered' with
    rfl | ⟨hwaiting, -⟩
  · exact hdeadline
  · cases hoffered.symm.trans hwaiting

/-- An entry that is missed and was not had an offer that has run out. -/
theorem Next.missed (h : Next v w) (hw : Missed id w) (hv : ¬ Missed id v) :
    ∃ entry ∈ v.table.rows, entry.id = id ∧ entry.status = .offered ∧ entry.expiresAt ≤ w.now := by
  obtain ⟨after, hafter, rfl, hmissed⟩ := hw
  rcases h.rows.source after hafter with ⟨before, hbefore, hturn⟩ | hnew
  · rcases hturn.of_missed hmissed with rfl | ⟨hoffered, hexpires, -⟩
    · exact absurd ⟨_, hbefore, rfl, hmissed⟩ hv
    · exact ⟨before, hbefore, hturn.columns.1.symm, hoffered, hexpires⟩
  · rcases hnew.status with hs | ⟨hs, -⟩ <;> cases hmissed.symm.trans hs

/-- What every table of a history meets at its instant. -/
structure Sound (now : Int) (table : Table QueueEntry) : Prop where
  joined : ∀ entry ∈ table.rows, entry.joinedAt ≤ now
  offered : ∀ entry ∈ table.rows, entry.status = .offered →
    entry.joinedAt + queueOfferMs ≤ entry.expiresAt
  missed : ∀ entry ∈ table.rows, entry.status = .missed → entry.joinedAt + queueOfferMs ≤ now
  single : ∀ a ∈ table.rows, ∀ b ∈ table.rows, a.status.live = true → b.status.live = true →
    a.userId = b.userId → a = b
  later : ∀ a ∈ table.rows, ∀ b ∈ table.rows, a.status = .missed → b.status.live = true →
    a.userId = b.userId → a.joinedAt < b.joinedAt

theorem Sound.next (h : Sound v.now v.table) (hnext : Next v w) : Sound w.now w.table := by
  have hnow := hnext.now
  constructor
  case joined =>
    intro after hafter
    rcases hnext.rows.source after hafter with ⟨before, hbefore, hturn⟩ | hnew
    · rw [hturn.columns.2.2]
      exact (h.joined before hbefore).trans hnow
    · exact hnew.joinedAt.le
  case offered =>
    intro after hafter hoffered
    rcases hnext.rows.source after hafter with ⟨before, hbefore, hturn⟩ | hnew
    · rcases hturn.of_offered hoffered with rfl | ⟨-, hdeadline⟩
      · exact h.offered _ hbefore hoffered
      · rw [hdeadline, hturn.columns.2.2]
        exact Int.add_le_add_right ((h.joined before hbefore).trans hnow) _
    · rcases hnew.status with hs | ⟨-, hdeadline⟩
      · cases hoffered.symm.trans hs
      · rw [hdeadline, hnew.joinedAt]
  case missed =>
    intro after hafter hmissed
    rcases hnext.rows.source after hafter with ⟨before, hbefore, hturn⟩ | hnew
    · rcases hturn.of_missed hmissed with rfl | ⟨hoffered, hexpires, -⟩
      · exact (h.missed _ hbefore hmissed).trans hnow
      · rw [hturn.columns.2.2]
        exact (h.offered before hbefore hoffered).trans hexpires
    · rcases hnew.status with hs | ⟨hs, -⟩ <;> cases hmissed.symm.trans hs
  case single =>
    intro a ha b hb hlive hlive' huser
    rcases hnext.rows.source b hb with ⟨b', hb', hturnb⟩ | hnew
    · rcases hnext.rows.source a ha with ⟨a', ha', hturna⟩ | hnew
      · have hsame := h.single a' ha' b' hb' (hturna.live hlive) (hturnb.live hlive')
          (by rw [← hturna.columns.2.1, ← hturnb.columns.2.1, huser])
        exact Table.eq_of_key ha hb
          (hturna.columns.1.trans ((congrArg QueueEntry.id hsame).trans hturnb.columns.1.symm))
      · exact (hnew.alone b hb huser.symm hlive').symm
    · exact hnew.alone a ha huser hlive
  case later =>
    intro a ha b hb hmissed hlive huser
    rcases hnext.rows.source a ha with ⟨a', ha', hturna⟩ | hnew
    · rcases hnext.rows.source b hb with ⟨b', hb', hturnb⟩ | hnew
      · have huser' : a'.userId = b'.userId := by
          rw [← hturna.columns.2.1, ← hturnb.columns.2.1, huser]
        rcases hturna.of_missed hmissed with rfl | ⟨hoffered, -⟩
        · rw [hturnb.columns.2.2]
          exact h.later _ ha' b' hb' hmissed (hturnb.live hlive) huser'
        · -- the user's only live entry has just been missed
          obtain rfl := h.single a' ha' b' hb' (by rw [hoffered]; rfl) (hturnb.live hlive) huser'
          obtain rfl := Table.eq_of_key ha hb (hturna.columns.1.trans hturnb.columns.1.symm)
          rw [hmissed] at hlive
          cases hlive
      · have hjoined := hnew.joinedAt
        have hbefore : a.joinedAt + queueOfferMs ≤ w.now := by
          rcases hturna.of_missed hmissed with rfl | ⟨hoffered, hexpires, -⟩
          · exact (h.missed _ ha' hmissed).trans hnow
          · rw [hturna.columns.2.2]
            exact (h.offered a' ha' hoffered).trans hexpires
        simp only [queueOfferMs] at hbefore
        omega
    · rcases hnew.status with hs | ⟨hs, -⟩ <;> cases hmissed.symm.trans hs

/-- Without a `join` of the user's a missed latest entry stays the latest, and the user out. -/
theorem Next.stays_out (h : Next v w) (hsound : Sound v.now v.table)
    (hlatest : LatestMissed userId v.table) (hcall : w.call ≠ .join userId) :
    LatestMissed userId w.table ∧ ¬ InQueue userId w := by
  have hno : ¬ w.call.Admits v.table userId := by
    intro hadmits
    cases hc : w.call with
    | join caller =>
      rw [hc] at hadmits hcall
      exact hcall (congrArg QueueCall.join hadmits.symm)
    | read caller =>
      rw [hc] at hadmits
      exact hadmits.2 hlatest
    | leave | create | outside =>
      rw [hc] at hadmits
      exact hadmits
  obtain ⟨entry, hentry, hmissed⟩ := hlatest
  refine ⟨⟨entry, hentry.evolves hmissed h.rows hno, hmissed⟩, ?_⟩
  rintro ⟨after, hafter, huser, hlive⟩
  rcases h.rows.source after hafter with ⟨before, hbefore, hturn⟩ | hnew
  · have huser' : before.userId = userId := hturn.columns.2.1.symm.trans huser
    have hlater := hsound.later entry hentry.mem before hbefore hmissed (hturn.live hlive)
      (hentry.user.trans huser'.symm)
    rcases hentry.last before hbefore huser' with hlt | ⟨heq, -⟩
    · exact absurd hlt hlater.asymm
    · exact absurd heq hlater.ne'
  · exact hno (huser ▸ hnew.comes)

end next

/-! ## Whole histories -/

section histories

variable {now : Int} {first last v w : QueueMoment} {moments during : List QueueMoment}
  {id userId : Uuid} {deadline : Int}

theorem sound_of_history (h : Run Follows (.initial now) moments last) :
    Sound last.now last.table := by
  refine h.invariant (I := fun m => Sound m.now m.table) ?_ ?_
  · have hempty : ∀ {p : QueueEntry → Prop},
        ∀ entry ∈ (QueueMoment.initial now).table.rows, p entry :=
      fun _ h => absurd h List.not_mem_nil
    exact ⟨hempty, hempty, hempty, hempty, hempty⟩
  · rintro v w _ hsound ⟨hnext, rfl⟩
    exact hsound.next hnext

/-- The two parts of a history around one of its moments. -/
theorem history_split {before after : List QueueMoment} (h : Run Follows first moments last)
    (hsplit : first :: moments = before ++ v :: after) :
    ∃ past, Run Follows first past v ∧ before ++ [v] = first :: past ∧
      Run Follows v after last := by
  cases before with
  | nil =>
    obtain ⟨rfl, rfl⟩ := List.cons.inj hsplit
    exact ⟨[], .nil, rfl, h⟩
  | cons m before =>
    obtain rfl : first = m := (List.cons.inj hsplit).1
    have hrest : moments = (before ++ [v]) ++ after := by
      rw [List.append_assoc, List.singleton_append]
      exact (List.cons.inj hsplit).2
    rw [hrest] at h
    obtain ⟨s, hpast, hfuture⟩ := h.split
    obtain ⟨_, -, -, rfl⟩ := hpast.last
    exact ⟨before ++ [s], hpast, rfl, hfuture⟩

/-- The last moment of a history is one of its moments. -/
theorem history_last (h : Run Follows first moments last) :
    ∃ before, first :: moments = before ++ [last] := by
  cases h with
  | nil => exact ⟨[], rfl⟩
  | snoc hrun hstep =>
    obtain ⟨-, rfl⟩ := hstep
    exact ⟨_, (List.cons_append ..).symm⟩

theorem deadlinesFixed_of_history (h : Run Follows first moments last) :
    DeadlinesFixed (first :: moments) := by
  intro before v during after id deadline hsplit hv hduring w hw
  rw [List.append_assoc, List.cons_append] at hsplit
  obtain ⟨-, -, -, hfuture⟩ := history_split h hsplit
  obtain ⟨until', from', rfl⟩ := List.append_of_mem hw
  rw [List.append_assoc, List.cons_append, ← List.singleton_append, ← List.append_assoc] at hfuture
  obtain ⟨s, hrun, -⟩ := hfuture.split
  obtain ⟨_, -, -, rfl⟩ := hrun.last
  refine hrun.invariant_of_mem (I := OfferedUntil id deadline) hv ?_
  rintro m m' _ hmem hoffered ⟨hnext, rfl⟩
  refine hnext.offered hoffered (hduring m' ?_)
  rw [List.mem_append, List.mem_singleton] at hmem
  rw [List.mem_append, List.mem_cons]
  exact hmem.imp_right .inl

/-- Every offer was made for the length of an offer, and has stood since. -/
theorem offer_of_history (h : Run Follows (.initial now) moments last) :
    ∀ entry ∈ last.table.rows, entry.status = .offered →
      ∃ earlier v during, .initial now :: moments = earlier ++ v :: during ∧
        (∀ m ∈ v :: during, OfferedUntil entry.id entry.expiresAt m) ∧
        entry.expiresAt = v.now + queueOfferMs := by
  induction h with
  | nil => exact fun _ h => absurd h List.not_mem_nil
  | @snoc past v w _ hrun hstep ih =>
    obtain ⟨hnext, rfl⟩ := hstep
    intro after hafter hoffered
    have hhere : OfferedUntil after.id after.expiresAt w := ⟨after, hafter, rfl, hoffered, rfl⟩
    -- the offer is made at this moment
    have hmade : after.expiresAt = w.now + queueOfferMs →
        ∃ earlier v during, .initial now :: (past ++ [w]) = earlier ++ v :: during ∧
          (∀ m ∈ v :: during, OfferedUntil after.id after.expiresAt m) ∧
          after.expiresAt = v.now + queueOfferMs := by
      intro hdeadline
      refine ⟨.initial now :: past, w, [], rfl, fun m hm => ?_, hdeadline⟩
      obtain rfl := List.mem_singleton.1 hm
      exact hhere
    rcases hnext.rows.source after hafter with ⟨before, hbefore, hturn⟩ | hnew
    · rcases hturn.of_offered hoffered with rfl | ⟨-, hdeadline⟩
      · obtain ⟨earlier, v', during, hsplit, hall, hdeadline⟩ := ih _ hbefore hoffered
        refine ⟨earlier, v', during ++ [w], ?_, fun m hm => ?_, hdeadline⟩
        · rw [← List.cons_append, hsplit, List.append_assoc, List.cons_append]
        · rw [← List.cons_append, List.mem_append, List.mem_singleton] at hm
          rcases hm with hm | rfl
          · exact hall m hm
          · exact hhere
      · exact hmade hdeadline
    · rcases hnew.status with hs | ⟨-, hdeadline⟩
      · cases hoffered.symm.trans hs
      · exact hmade hdeadline

theorem missedInTime_of_history (h : Run Follows (.initial now) moments last) :
    MissedInTime (.initial now :: moments) := by
  intro before w after id hsplit hmissed hnot
  obtain ⟨past, hpast, hbefore, -⟩ := history_split h hsplit
  cases hpast with
  | nil =>
    obtain ⟨entry, hentry, -⟩ := hmissed
    exact absurd hentry List.not_mem_nil
  | @snoc past v _ _ hrun hstep =>
    obtain ⟨hnext, rfl⟩ := hstep
    rw [← List.cons_append] at hbefore
    obtain ⟨rfl, -⟩ := List.append_inj' hbefore rfl
    obtain ⟨earlier, hlast⟩ := history_last hrun
    have hv : ¬ Missed id v := hnot v (hlast ▸ List.mem_append_right _ (List.mem_singleton_self v))
    obtain ⟨entry, hentry, rfl, hoffered, hexpires⟩ := hnext.missed hmissed hv
    obtain ⟨earlier, v', during, hsplit, hall, hdeadline⟩ :=
      offer_of_history hrun entry hentry hoffered
    exact ⟨earlier, v', during, _, hsplit, hall, hdeadline ▸ hexpires⟩

/-- What a later moment has kept of an earlier one. -/
structure KeepsEntries (v w : QueueMoment) : Prop where
  now : v.now ≤ w.now
  kept : ∀ entry ∈ v.table.rows, ∃ entry' ∈ w.table.rows,
    entry'.id = entry.id ∧ entry'.userId = entry.userId ∧ entry'.joinedAt = entry.joinedAt
  new : ∀ other ∈ w.table.rows, (∃ old ∈ v.table.rows, old.id = other.id) ∨ v.now ≤ other.joinedAt

theorem keeps_of_history (h : Run Follows v during w) : KeepsEntries v w := by
  refine h.invariant (I := KeepsEntries v) ?_ ?_
  · exact ⟨le_rfl, fun entry h => ⟨entry, h, rfl, rfl, rfl⟩, fun other h => .inl ⟨other, h, rfl⟩⟩
  · rintro m m' _ hkeeps ⟨hnext, rfl⟩
    refine ⟨hkeeps.now.trans hnext.now, fun entry hentry => ?_, fun other hother => ?_⟩
    · obtain ⟨middle, hmiddle, hid, huser, hjoined⟩ := hkeeps.kept entry hentry
      obtain ⟨after, hafter, hturn⟩ := hnext.rows.turn middle hmiddle
      obtain ⟨hid', huser', hjoined'⟩ := hturn.columns
      exact ⟨after, hafter, hid'.trans hid, huser'.trans huser, hjoined'.trans hjoined⟩
    · rcases hnext.rows.source other hother with ⟨middle, hmiddle, hturn⟩ | hnew
      · obtain ⟨hid, -, hjoined⟩ := hturn.columns
        rw [hid, hjoined]
        exact hkeeps.new middle hmiddle
      · right
        rw [hnew.joinedAt]
        exact hkeeps.now.trans hnext.now

/-- The history between two of its moments. -/
theorem history_between {before after : List QueueMoment} (h : Run Follows first moments last)
    (hsplit : first :: moments = before ++ v :: (during ++ w :: after)) :
    (∃ past, Run Follows first past v) ∧ Run Follows v (during ++ [w]) w := by
  obtain ⟨past, hpast, -, hfuture⟩ := history_split h hsplit
  rw [← List.singleton_append, ← List.append_assoc] at hfuture
  obtain ⟨s, hrun, -⟩ := hfuture.split
  obtain ⟨_, -, -, rfl⟩ := hrun.last
  exact ⟨⟨past, hpast⟩, hrun⟩

theorem placesKept_of_history (h : Run Follows (.initial now) moments last) :
    PlacesKept (.initial now :: moments) := by
  intro before v during w after hsplit entry hentry
  obtain ⟨⟨past, hpast⟩, hrun⟩ := history_between h hsplit
  have hkeeps := keeps_of_history hrun
  obtain ⟨entry', hentry', hid, huser, hjoined⟩ := hkeeps.kept entry hentry
  refine ⟨entry', hentry', hid, huser, hjoined, fun other hother hlt => ?_⟩
  refine (hkeeps.new other hother).resolve_right fun hnew => ?_
  have hsound := (sound_of_history hpast).joined entry hentry
  omega

theorem neverRequeued_of_history (h : Run Follows (.initial now) moments last) :
    NeverRequeued (.initial now :: moments) := by
  intro before v during w after userId hsplit hlatest hqueue
  obtain ⟨⟨past, hpast⟩, hrun⟩ := history_between h hsplit
  by_contra hno
  push Not at hno
  obtain ⟨s, hbefore, hnext, -⟩ := hrun.last
  have hout : Sound s.now s.table ∧ LatestMissed userId s.table := by
    refine hbefore.invariant_of_mem
      (I := fun m => Sound m.now m.table ∧ LatestMissed userId m.table)
      ⟨sound_of_history hpast, hlatest⟩ ?_
    rintro m m' _ hmem ⟨hsound, hlatest⟩ ⟨hnext, rfl⟩
    exact ⟨hsound.next hnext,
      (hnext.stays_out hsound hlatest (hno m' (List.mem_append_left _ hmem))).1⟩
  have hlast := hno w (List.mem_append_right _ (List.mem_singleton_self w))
  exact (hnext.stays_out hout.1 hout.2 hlast).2 hqueue

end histories

/-! ## Runs -/

/-- The database, the last instant read from a clock, and the history so far. -/
structure QueueLog where
  db : Database
  clock : Int
  moments : List QueueMoment

namespace QueueLog

def start (db : Database) (clock : Int) : QueueLog :=
  ⟨db, clock, [⟨clock, .outside, db.queueEntries⟩]⟩

/-- A transaction leaves a database at an instant. -/
def write (log : QueueLog) (now : Int) (call : QueueCall) (db : Database) : QueueLog :=
  ⟨db, now, log.moments ++ [⟨now, call, db.queueEntries⟩]⟩

end QueueLog

/-- A call of a user's, or a change from elsewhere. -/
inductive QueueEvent where
  | join (input : QueueInput)
  | read (input : QueueInput)
  | leave (userId : Uuid) (now : Int) (collate : String → String → Int)
  | create (input : CreateInput)
  | outside (db : Database)

namespace QueueLog

/-- The clock never goes back. -/
def Possible (log : QueueLog) : QueueEvent → Prop
  | .join input => log.clock ≤ input.now
  | .read input => log.clock ≤ input.now
  | .leave _ now _ => log.clock ≤ now
  | .create input => log.clock ≤ input.lockedAt ∧ input.lockedAt ≤ input.checkedAt
  | .outside db => Outside log.db db

/-- A transaction has one moment, but `create` has two when its readings of the clock differ. -/
def perform (log : QueueLog) : QueueEvent → QueueLog
  | .join input => log.write input.now (.join input.userId) (joinOrRefresh true input log.db).2
  | .read input => log.write input.now (.read input.userId) (joinOrRefresh false input log.db).2
  | .leave userId now collate =>
    log.write now (.leave userId) (leaveTransaction userId now collate log.db)
  | .create input =>
    let locked :=
      if input.lockedAt = input.checkedAt then log
      else log.write input.lockedAt (.create input.userId)
        (advanceLiveQueue input.collate log.db input.lockedAt).1
    locked.write input.checkedAt (.create input.userId) (createTransaction input log.db).2
  | .outside db => log.write log.clock .outside db

def Step (log : QueueLog) (event : QueueEvent) (after : QueueLog) : Prop :=
  log.Possible event ∧ after = log.perform event

/-- The log is a history of the database. -/
structure Recorded (log : QueueLog) : Prop where
  history : ∃ now moments last, log.moments = .initial now :: moments ∧
    Run Follows (.initial now) moments last ∧ last.now = log.clock ∧
    last.table = log.db.queueEntries
  held : Held log.db

section recorded

variable {log : QueueLog}

theorem Recorded.write (h : log.Recorded) {now : Int} {call : QueueCall} {db : Database}
    (hnow : log.clock ≤ now)
    (hrows : Evolves now (call.Admits log.db.queueEntries) log.db.queueEntries db.queueEntries)
    (hheld : Held db) : (log.write now call db).Recorded where
  history := by
    obtain ⟨first, moments, last, hmoments, hrun, hclock, htable⟩ := h.history
    refine ⟨first, moments ++ [⟨now, call, db.queueEntries⟩], _, ?_,
      hrun.snoc ⟨⟨?_, ?_⟩, rfl⟩, rfl, rfl⟩
    · rw [QueueLog.write, hmoments, List.cons_append]
    · rwa [hclock]
    · rwa [htable]
  held := hheld

theorem Recorded.rejoin (h : log.Recorded) (explicitJoin : Bool) (input : QueueInput)
    {call : QueueCall} (hcall : ∀ userId, MayCome explicitJoin input log.db userId →
      call.Admits log.db.queueEntries userId) (hnow : log.clock ≤ input.now) :
    (log.write input.now call (joinOrRefresh explicitJoin input log.db).2).Recorded := by
  obtain ⟨table, hrejoins, hdb⟩ := joinOrRefresh_rejoins explicitJoin input log.db
  have hevolves := hrejoins.evolves
  rw [hdb]
  refine h.write hnow ⟨hevolves.turn, fun after hafter => ?_⟩
    (h.held.turns hevolves.turn fun session h => ⟨session, h, rfl⟩)
  refine (hevolves.source after hafter).imp_right fun hnew => ?_
  exact ⟨hnew.joinedAt, hnew.status, hcall _ hnew.comes, hnew.alone⟩

theorem Recorded.perform (h : log.Recorded) {event : QueueEvent} (hpossible : log.Possible event) :
    (log.perform event).Recorded := by
  cases event with
  | join input => exact h.rejoin true input (fun _ hcomes => hcomes.1) hpossible
  | read input =>
    refine h.rejoin false input (fun _ hcomes => ⟨hcomes.1, hcomes.2.resolve_left nofun⟩) hpossible
  | leave userId now collate =>
    have hturns := leaveTransaction_turns userId now collate log.db
    have hdb := leaveTransaction_db userId now collate log.db
    refine h.write hpossible (.of_corresponds hturns) ?_
    refine h.held.turns hturns.after fun session hsession => ?_
    rw [hdb] at hsession
    exact ⟨session, hsession, rfl⟩
  | create input =>
    have hcreates := createTransaction_creates input log.db
    unfold QueueLog.perform
    dsimp only
    split
    · next hfrozen =>
      exact h.write (hfrozen ▸ hpossible.1) (.of_corresponds (hcreates.frozen hfrozen))
        (hcreates.held h.held)
    · have hlocked := create_locked input log.db
      refine (h.write hpossible.1 (.of_corresponds hlocked) ?_).write hpossible.2
        (.of_corresponds hcreates.checked) (hcreates.held h.held)
      exact h.held.turns hlocked.after fun session h => ⟨session, h, rfl⟩
  | outside db =>
    have hturns : log.db.queueEntries.Corresponds (Turn log.clock) db.queueEntries :=
      Outside.turns hpossible h.held
    exact h.write le_rfl (.of_corresponds hturns)
      (h.held.turns hturns.after (Outside.sessions hpossible))

end recorded

end QueueLog

/-- **Main result.** From a database in which nobody has joined yet, and over every run: an entry's
deadline is fixed while it stays offered, an entry is marked missed only after a full offer, an
entry keeps its place in the order of joining, and no `read` puts back a user who missed one. -/
theorem offers_fair {db : Database} {clock : Int} {events : List QueueEvent} {log : QueueLog}
    (hentries : db.queueEntries = .empty) (hsessions : db.driveSessions = .empty)
    (hrun : Run QueueLog.Step (.start db clock) events log) :
    DeadlinesFixed log.moments ∧ MissedInTime log.moments ∧ PlacesKept log.moments ∧
      NeverRequeued log.moments := by
  have hstart : (QueueLog.start db clock).Recorded := by
    refine ⟨⟨clock, [], .initial clock, ?_, .nil, rfl, hentries.symm⟩, ?_⟩
    · rw [QueueLog.start, hentries]
      rfl
    · intro session hsession
      rw [QueueLog.start, hsessions] at hsession
      exact absurd hsession List.not_mem_nil
  have hrecorded : log.Recorded := by
    refine hrun.invariant hstart ?_
    rintro before _ event h ⟨hpossible, rfl⟩
    exact h.perform hpossible
  obtain ⟨now, moments, last, heq, hhistory, -, -⟩ := hrecorded.history
  rw [heq]
  exact ⟨deadlinesFixed_of_history hhistory, missedInTime_of_history hhistory,
    placesKept_of_history hhistory, neverRequeued_of_history hhistory⟩

/-- A database with one free car, in which nobody has joined. -/
def idleDb : Database where
  cars :=
    ⟨[{ id := 1, slug := "rc-one", name := "RC 01", state := .available, batteryPercent := some 47,
        adminBlocked := false, steeringTrimPercent := 0, updatedAt := 0 }], by decide⟩
  devices :=
    ⟨[{ id := 2, carId := some 1, state := .available, lastSeenAt := some 10000,
        metadata := .object [], agentVersion := none, health := none, connectedAt := none,
        updatedAt := 0 }], by decide⟩
  deviceCredentials := .empty
  firmwareVersions := .empty
  deviceUpdateJobs := .empty
  queueEntries := .empty
  driveSessions := .empty

/-- A driver joins and lets the offer go by, and two polls later joins again. -/
def missedOffer : List QueueEvent :=
  [.join ⟨4, 1000, 3, 0, fun _ _ => 0⟩, .read ⟨4, 16000, 5, 0, fun _ _ => 0⟩,
    .read ⟨4, 17000, 6, 0, fun _ _ => 0⟩, .join ⟨4, 18000, 7, 0, fun _ _ => 0⟩]

theorem missedOffer_fair :
    let log := missedOffer.foldl QueueLog.perform (.start idleDb 0)
    log.moments.map (fun moment => moment.table.rows.map (·.status)) =
      [[], [.offered], [.missed], [.missed], [.missed, .offered]] ∧
    DeadlinesFixed log.moments ∧ MissedInTime log.moments ∧ PlacesKept log.moments ∧
      NeverRequeued log.moments := by
  intro log
  have hrun : Run QueueLog.Step (.start idleDb 0) missedOffer log :=
    .cons ⟨show (0 : Int) ≤ 1000 by decide, rfl⟩ <|
    .cons ⟨show (1000 : Int) ≤ 16000 by decide, rfl⟩ <|
    .cons ⟨show (16000 : Int) ≤ 17000 by decide, rfl⟩ <|
    .cons ⟨show (17000 : Int) ≤ 18000 by decide, rfl⟩ .nil
  exact ⟨rfl, offers_fair rfl rfl hrun⟩

end RcOnline.Web
