import RcOnline.Web.Acceptance
import RcOnline.Web.QueueStore

/-!
# What a transaction does to an entry

An advance, and each transaction of the queue, does one of a few things to an entry (`Turn`), and
lets in one newcomer at most (`Evolves`). The second advance of `joinOrRefresh` meets a queue that
the first has settled, so all that it can do to an entry that was there before is to let it wait
(`Settles`).
-/

namespace RcOnline.Web

open RcOnline.Lib RcOnline.Schema

/-! ## One entry -/

/-- What can happen to an entry at an instant. -/
inductive Turn (now : Int) (entry : QueueEntry) : QueueEntry → Prop where
  | same : Turn now entry entry
  | expired : entry.status = .waiting →
      Turn now entry { entry with status := .expired, updatedAt := now }
  | missed : entry.status = .offered → entry.expiresAt ≤ now →
      Turn now entry { entry with status := .missed, updatedAt := now }
  | offered : entry.status = .waiting →
      Turn now entry
        { entry with status := .offered, expiresAt := now + queueOfferMs, updatedAt := now }
  | waits : entry.status.live = true →
      Turn now entry
        { entry with status := .waiting, expiresAt := now + queueLeaseMs, updatedAt := now }
  | left : entry.status.live = true →
      Turn now entry { entry with status := .left, updatedAt := now, expiresAt := now }
  | accepted (deadline : Int) : entry.status.live = true →
      Turn now entry
        { entry with status := .accepted, expiresAt := deadline, updatedAt := now }
  /-- The gateway has ended the entry's session. -/
  | released (endedAt : Int) : entry.status = .accepted ∨ entry.status = .left →
      Turn now entry { entry with status := .left, expiresAt := endedAt, updatedAt := endedAt }

/-- What the second advance of a transaction can do to an entry that the first has settled. -/
inductive Settles (now : Int) (entry : QueueEntry) : QueueEntry → Prop where
  | same : Settles now entry entry
  | waits : entry.status.live = true →
      Settles now entry
        { entry with status := .waiting, expiresAt := now + queueLeaseMs, updatedAt := now }

theorem live_cases {status : QueueStatus} (h : status.live = true) :
    status = .waiting ∨ status = .offered := by
  cases status with
  | waiting => exact .inl rfl
  | offered => exact .inr rfl
  | accepted | missed | expired | left => cases h

section turns

variable {now : Int} {before after later : QueueEntry}

theorem Turn.columns (h : Turn now before after) :
    after.id = before.id ∧ after.userId = before.userId ∧ after.joinedAt = before.joinedAt := by
  cases h <;> exact ⟨rfl, rfl, rfl⟩

theorem Turn.key (h : Turn now before after) : Row.key after = Row.key before := h.columns.1

/-- An entry that is out of the queue stays out. -/
theorem Turn.live (h : Turn now before after) (hlive : after.status.live = true) :
    before.status.live = true := by
  cases h with
  | same => exact hlive
  | expired | missed | left | accepted | released => cases hlive
  | offered hwaiting => rw [hwaiting]; rfl
  | waits hbefore => exact hbefore

/-- An offer is the one that was there, or a new one. -/
theorem Turn.of_offered (h : Turn now before after) (hoffered : after.status = .offered) :
    after = before ∨ (before.status = .waiting ∧ after.expiresAt = now + queueOfferMs) := by
  cases h with
  | same => exact .inl rfl
  | offered hwaiting => exact .inr ⟨hwaiting, rfl⟩
  | expired | missed | waits | left | accepted | released => cases hoffered

/-- A missed entry was missed before, or its offer has run out. -/
theorem Turn.of_missed (h : Turn now before after) (hmissed : after.status = .missed) :
    after = before ∨
      (before.status = .offered ∧ before.expiresAt ≤ now ∧ after.expiresAt = before.expiresAt) := by
  cases h with
  | same => exact .inl rfl
  | missed hoffered hexpires => exact .inr ⟨hoffered, hexpires, rfl⟩
  | expired | offered | waits | left | accepted | released => cases hmissed

theorem Turn.missed_stays (h : Turn now before after) (hmissed : before.status = .missed) :
    after = before := by
  cases h with
  | same => rfl
  | expired hs | missed hs | offered hs => cases hmissed.symm.trans hs
  | waits hlive | left hlive | accepted _ hlive => rw [hmissed] at hlive; cases hlive
  | released _ hs => rcases hs with hs | hs <;> cases hmissed.symm.trans hs

/-- The entry of a drive session. -/
def Taken (entry : QueueEntry) : Prop := entry.status = .accepted ∨ entry.status = .left

theorem Taken.not_live (h : Taken before) : before.status.live = false := by
  rcases h with h | h <;> rw [h] <;> rfl

theorem Turn.taken (h : Turn now before after) (htaken : Taken before) : Taken after := by
  have hdead := htaken.not_live
  cases h with
  | same => exact htaken
  | expired hs | offered hs => rw [hs] at hdead; cases hdead
  | missed hs => rw [hs] at hdead; cases hdead
  | waits hlive | left hlive | accepted _ hlive => cases hdead.symm.trans hlive
  | released => exact .inr rfl

theorem Settles.live (h : Settles now before after) (hlive : after.status.live = true) :
    before.status.live = true := by
  cases h with
  | same => exact hlive
  | waits hbefore => exact hbefore

theorem Settles.columns (h : Settles now before after) :
    after.id = before.id ∧ after.userId = before.userId ∧ after.joinedAt = before.joinedAt := by
  cases h <;> exact ⟨rfl, rfl, rfl⟩

/-- A turn, and what the second advance makes of it, is one turn. -/
theorem Turn.settle (h : Turn now before after) (hsettles : Settles now after later) :
    Turn now before later := by
  cases hsettles with
  | same => exact h
  | waits hafter =>
    have hbefore := h.live hafter
    cases h with
    | same | offered | waits => exact .waits hbefore
    | expired | missed | left | accepted | released => cases hafter

/-- A turn of an entry that stays live, and its acceptance, is one turn. -/
theorem Turn.accept (h : Turn now before after) (hlive : after.status.live = true) :
    Turn now before { after with status := .accepted, updatedAt := now } := by
  have hbefore := h.live hlive
  cases h with
  | same | offered | waits => exact .accepted _ hbefore
  | expired | missed | left | accepted | released => cases hlive

/-- What an advance does to an entry: an entry out of the queue is left alone. -/
structure Advances (now : Int) (before after : QueueEntry) : Prop where
  turn : Turn now before after
  idle : before.status.live = false → after = before

theorem advanceRow_advances (k kept : Nat) (h : Pending now before) :
    Advances now before (advanceRow k now kept before) := by
  refine ⟨?_, fun hdead => ?_⟩
  · unfold advanceRow
    split
    · split
      · next hoffered =>
        split
        · next hexpires => exact .missed hoffered hexpires
        · exact .same
      · next hoffered => exact .offered ((live_cases h.1).resolve_right hoffered)
    · split
      · exact .same
      · exact .waits h.1
  · cases hdead.symm.trans h.1

end turns

/-! ## One advance -/

section advance

variable {k : Nat} {now : Int}

/-- Every row's new version is in the list, and nothing else. -/
theorem mem_advanced_rows (k : Nat) (now : Int) (kept : Nat) (rows : List QueueEntry) :
    (∀ entry ∈ rows, ∃ n, advanceRow k now n entry ∈ advanced k now kept rows) ∧
      ∀ after ∈ advanced k now kept rows,
        ∃ entry ∈ rows, ∃ n, after = advanceRow k now n entry := by
  induction rows generalizing kept with
  | nil => exact ⟨fun _ h => absurd h List.not_mem_nil, fun _ h => absurd h List.not_mem_nil⟩
  | cons first rest ih =>
    rw [advanced]
    obtain ⟨hafter, hbefore⟩ :=
      ih (if (advanceRow k now kept first).status.live then kept + 1 else kept)
    constructor
    · intro entry hentry
      rcases List.mem_cons.1 hentry with rfl | hentry
      · exact ⟨kept, List.mem_cons_self⟩
      · obtain ⟨n, hn⟩ := hafter entry hentry
        exact ⟨n, List.mem_cons_of_mem _ hn⟩
    · intro after hmem
      rcases List.mem_cons.1 hmem with rfl | hmem
      · exact ⟨first, List.mem_cons_self, kept, rfl⟩
      · obtain ⟨entry, hentry, hn⟩ := hbefore after hmem
        exact ⟨entry, List.mem_cons_of_mem _ hentry, hn⟩

/-- The rows after an advance, as the loop stores them. -/
def advancedTable (k : Nat) (now : Int) (table : Table QueueEntry) : Table QueueEntry :=
  (expireWaiting now table).replace (advanced k now 0 (liveQueue (expireWaiting now table)))

theorem advanceLiveQueue_table (collate : String → String → Int) (db : Database) (now : Int) :
    (advanceLiveQueue collate db now).1 =
      { db with
        queueEntries :=
          advancedTable (capacity (listQueueCars collate db now)) now db.queueEntries } := by
  rw [advanceLiveQueue_eq]
  rfl

/-- An advance does one of its things to each row. -/
theorem advancedTable_advances (table : Table QueueEntry) :
    table.Corresponds (Advances now) (advancedTable k now table) := by
  obtain ⟨hafter, hbefore⟩ := mem_advanced_rows k now 0 (liveQueue (expireWaiting now table))
  constructor
  · intro entry hentry
    by_cases hp : Pending now entry
    · obtain ⟨n, hn⟩ := hafter entry (mem_pending.2 ⟨hentry, hp⟩)
      exact ⟨_, mem_advanced.2 (.inl hn), advanceRow_advances k n hp⟩
    · by_cases hexpired : entry.status = .waiting ∧ entry.expiresAt ≤ now
      · refine ⟨_, mem_advanced.2 (.inr ⟨mem_expireWaiting.2 (.inr ⟨entry, hentry, hexpired.1,
          hexpired.2, rfl⟩), rfl⟩), .expired hexpired.1, fun hdead => ?_⟩
        rw [hexpired.1] at hdead
        cases hdead
      · have hdead : entry.status.live = false := by
          rw [Bool.eq_false_iff]
          exact fun hlive => hp ⟨hlive, fun hw => Int.not_le.1 fun h => hexpired ⟨hw, h⟩⟩
        exact ⟨entry, mem_advanced.2 (.inr ⟨mem_expireWaiting.2 (.inl ⟨hentry, hexpired⟩), hdead⟩),
          .same, fun _ => rfl⟩
  · intro after hmem
    rcases mem_advanced.1 hmem with hmem | ⟨hmem, hdead⟩
    · obtain ⟨entry, hentry, n, rfl⟩ := hbefore after hmem
      obtain ⟨hrow, hp⟩ := mem_pending.1 hentry
      exact ⟨entry, hrow, advanceRow_advances k n hp⟩
    · rcases mem_expireWaiting.1 hmem with ⟨hrow, -⟩ | ⟨entry, hrow, hw, -, rfl⟩
      · exact ⟨after, hrow, .same, fun _ => rfl⟩
      · refine ⟨entry, hrow, .expired hw, fun hdead => ?_⟩
        rw [hw] at hdead
        cases hdead

theorem advancedTable_turns (table : Table QueueEntry) :
    table.Corresponds (Turn now) (advancedTable k now table) :=
  (advancedTable_advances table).mono (·.turn)

/-! ## The second advance -/

/-- Every row is settled where it stands, `kept` rows coming before the first. -/
def SettledFrom (k : Nat) (now : Int) : Nat → List QueueEntry → Prop
  | _, [] => True
  | kept, entry :: rest => Settled k now kept entry ∧ SettledFrom k now (kept + 1) rest

theorem survivors_settled {rows : List QueueEntry} (hp : ∀ entry ∈ rows, Pending now entry)
    (kept : Nat) : SettledFrom k now kept (survivors k now kept rows) := by
  induction rows generalizing kept with
  | nil => trivial
  | cons first rest ih =>
    have hrest := fun e he => hp e (List.mem_cons_of_mem first he)
    rw [survivors_cons]
    rcases advanceRow_cases k kept (hp first List.mem_cons_self) with
      ⟨-, -, -, hmissed⟩ | hsettled
    · rw [hmissed]
      exact ih hrest kept
    · rw [if_pos hsettled.live]
      exact ⟨hsettled, ih hrest (kept + 1)⟩

theorem advancedTable_settled (k : Nat) (now : Int) (table : Table QueueEntry) :
    SettledFrom k now 0 (liveQueue (advancedTable k now table)) := by
  rw [advancedTable, liveQueue_advanced]
  exact survivors_settled (fun entry h => (mem_pending.1 h).2) 0

theorem SettledFrom.fresh {kept : Nat} {rows : List QueueEntry} (h : SettledFrom k now kept rows)
    {entry : QueueEntry} (hentry : entry ∈ rows) :
    entry.status.live = true ∧ now < entry.expiresAt := by
  induction rows generalizing kept with
  | nil => cases hentry
  | cons first rest ih =>
    rcases List.mem_cons.1 hentry with rfl | hentry
    · exact ⟨h.1.live, h.1.fresh⟩
    · exact ih h.2 hentry

theorem SettledFrom.append {kept : Nat} {before rows : List QueueEntry}
    (h : SettledFrom k now kept (before ++ rows)) :
    SettledFrom k now kept before ∧ SettledFrom k now (kept + before.length) rows := by
  induction before generalizing kept with
  | nil => exact ⟨trivial, h⟩
  | cons first rest ih =>
    obtain ⟨hrest, hrows⟩ := ih h.2
    refine ⟨⟨h.1, hrest⟩, ?_⟩
    rwa [List.length_cons, Nat.add_comm rest.length, ← Nat.add_assoc]

/-- Settled rows stay as they are. -/
theorem SettledFrom.advanced {kept : Nat} {rows : List QueueEntry}
    (h : SettledFrom k now kept rows) : advanced k now kept rows = rows := by
  induction rows generalizing kept with
  | nil => rfl
  | cons first rest ih =>
    rw [Web.advanced, advanceRow_settled h.1, if_pos h.1.live, ih h.2]

theorem SettledFrom.survivors {kept : Nat} {rows : List QueueEntry}
    (h : SettledFrom k now kept rows) : survivors k now kept rows = rows := by
  rw [Web.survivors, h.advanced, List.filter_eq_self]
  exact fun entry hentry => (h.fresh hentry).1

/-- A settled row that one more row comes before. -/
theorem Settled.shift {kept : Nat} {entry : QueueEntry} (h : Settled k now kept entry) :
    Settles now entry (advanceRow k now (kept + 1) entry) ∧
      Settled k now (kept + 1) (advanceRow k now (kept + 1) entry) := by
  have hstatus := h.status
  have hpending : Pending now entry := ⟨h.live, fun _ => h.fresh⟩
  refine ⟨?_, (advanceRow_cases k (kept + 1) hpending).resolve_left fun hmissed => ?_⟩
  · unfold advanceRow
    split
    · next hk =>
      rw [if_pos (by omega)] at hstatus
      rw [if_pos hstatus, if_neg (Int.not_le.2 h.fresh)]
      exact .same
    · split
      · exact .same
      · exact .waits h.live
  · exact absurd h.fresh (Int.not_lt.2 hmissed.2.1)

/-- Settled rows that one more row comes before. -/
theorem SettledFrom.shift {kept : Nat} {rows : List QueueEntry} (h : SettledFrom k now kept rows) :
    List.Forall₂ (Settles now) rows (Web.advanced k now (kept + 1) rows) := by
  induction rows generalizing kept with
  | nil => exact .nil
  | cons first rest ih =>
    obtain ⟨hsettles, hsettled⟩ := h.1.shift
    rw [Web.advanced, if_pos hsettled.live]
    exact .cons hsettles (ih h.2)

/-- A new row that goes into the queue finds its place, and the others keep their order. -/
theorem liveQueue_insert {table table' : Table QueueEntry} {clash : QueueEntry → Bool}
    {entry : QueueEntry} (hinsert : table.insert? clash entry = some table')
    (hlive : entry.status.live = true) :
    ∃ before after, liveQueue table = before ++ after ∧
      liveQueue table' = before ++ entry :: after := by
  have hmem : ∀ {row}, row ∈ table'.rows ↔ row ∈ table.rows ∨ row = entry :=
    Table.mem_insert? hinsert
  obtain ⟨before, after, hsplit⟩ :=
    List.append_of_mem (mem_liveQueue.2 ⟨hmem.2 (.inr rfl), hlive⟩)
  refine ⟨before, after, ?_, hsplit⟩
  have hsublist : (before ++ after).Sublist (liveQueue table') := by
    rw [hsplit]
    exact (List.Sublist.refl before).append (List.sublist_cons_self entry after)
  have hnd := liveQueue_nodup table'
  rw [hsplit, List.map_append, List.map_cons, List.nodup_middle, List.nodup_cons,
    ← List.map_append] at hnd
  apply liveQueue_eq
  · exact hnd.2
  · exact (liveQueue_sorted table').sublist hsublist
  · intro row
    constructor
    · intro hrow
      obtain ⟨hrow', hlive'⟩ := mem_liveQueue.1 (hsublist.subset hrow)
      refine ⟨(hmem.1 hrow').resolve_right ?_, hlive'⟩
      rintro rfl
      exact hnd.1 (List.mem_map_of_mem hrow)
    · rintro ⟨hrow, hlive'⟩
      have hqueue := mem_liveQueue.2 ⟨hmem.2 (.inl hrow), hlive'⟩
      rw [hsplit, List.mem_append, List.mem_cons] at hqueue
      rcases hqueue with hbefore | rfl | hafter
      · exact List.mem_append_left _ hbefore
      · exact absurd rfl ((Table.insert?_eq_some hinsert).1 row hrow).1
      · exact List.mem_append_right _ hafter

theorem exists_of_forall₂ {α β : Type*} {R : α → β → Prop} {l : List α} {l' : List β}
    (h : List.Forall₂ R l l') : (∀ a ∈ l, ∃ b ∈ l', R a b) ∧ ∀ b ∈ l', ∃ a ∈ l, R a b := by
  induction h with
  | nil => exact ⟨fun _ h => absurd h List.not_mem_nil, fun _ h => absurd h List.not_mem_nil⟩
  | cons hab hrest ih =>
    constructor
    · intro a ha
      rcases List.mem_cons.1 ha with rfl | ha
      · exact ⟨_, List.mem_cons_self, hab⟩
      · obtain ⟨b, hb, h⟩ := ih.1 a ha
        exact ⟨b, List.mem_cons_of_mem _ hb, h⟩
    · intro b hb
      rcases List.mem_cons.1 hb with rfl | hb
      · exact ⟨_, List.mem_cons_self, hab⟩
      · obtain ⟨a, ha, h⟩ := ih.2 b hb
        exact ⟨a, List.mem_cons_of_mem _ ha, h⟩

/-- A newcomer and an advance leave of a settled queue what `Settles` says, and the newcomer. -/
theorem advancedTable_insert {table table' : Table QueueEntry} {clash : QueueEntry → Bool}
    {entry : QueueEntry} (hsettled : SettledFrom k now 0 (liveQueue table))
    (hinsert : table.insert? clash entry = some table') (hwaiting : entry.status = .waiting)
    (hfresh : now < entry.expiresAt) :
    (∀ before ∈ table.rows, ∃ after ∈ (advancedTable k now table').rows,
      Settles now before after) ∧
    ∀ after ∈ (advancedTable k now table').rows,
      (∃ before ∈ table.rows, Settles now before after) ∨
        ∃ n, after = advanceRow k now n entry := by
  have hlive : entry.status.live = true := by rw [hwaiting]; rfl
  have hmem : ∀ {row}, row ∈ table'.rows ↔ row ∈ table.rows ∨ row = entry :=
    Table.mem_insert? hinsert
  obtain ⟨before, after, hqueue, hqueue'⟩ := liveQueue_insert hinsert hlive
  -- no lease has run out
  have hexpire : expireWaiting now table' = table' := by
    refine expireWaiting_of_fresh fun row hrow hw => ?_
    rcases hmem.1 hrow with hrow | rfl
    · exact (hsettled.fresh (mem_liveQueue.2 ⟨hrow, by rw [hw]; rfl⟩)).2
    · exact hfresh
  rw [hqueue] at hsettled
  obtain ⟨hbefore, hafter⟩ := hsettled.append
  rw [Nat.zero_add] at hafter
  have hentry : Settled k now before.length (advanceRow k now before.length entry) := by
    refine (advanceRow_cases k before.length ⟨hlive, fun _ => hfresh⟩).resolve_left fun h => ?_
    cases hwaiting.symm.trans h.1
  have hadvanced : advanced k now 0 (before ++ entry :: after) =
      before ++ advanceRow k now before.length entry ::
        advanced k now (before.length + 1) after := by
    rw [advanced_append, hbefore.advanced, hbefore.survivors, Nat.zero_add, advanced,
      if_pos hentry.live]
  obtain ⟨hshift, hshift'⟩ := exists_of_forall₂ hafter.shift
  have hrows : ∀ {row}, row ∈ (advancedTable k now table').rows ↔
      (row ∈ before ∨ row = advanceRow k now before.length entry ∨
        row ∈ advanced k now (before.length + 1) after) ∨
      (row ∈ table'.rows ∧ row.status.live = false) := by
    intro row
    rw [advancedTable, mem_advanced, hexpire, hqueue', hadvanced, List.mem_append, List.mem_cons]
  constructor
  · intro row hrow
    cases hdead : row.status.live with
    | false => exact ⟨row, hrows.2 (.inr ⟨hmem.2 (.inl hrow), hdead⟩), .same⟩
    | true =>
      have hplace := mem_liveQueue.2 ⟨hrow, hdead⟩
      rw [hqueue, List.mem_append] at hplace
      rcases hplace with hplace | hplace
      · exact ⟨row, hrows.2 (.inl (.inl hplace)), .same⟩
      · obtain ⟨row', hrow', hsettles⟩ := hshift row hplace
        exact ⟨row', hrows.2 (.inl (.inr (.inr hrow'))), hsettles⟩
  · intro row hrow
    rcases hrows.1 hrow with (hplace | rfl | hplace) | ⟨hrow, hdead⟩
    · have hrow := mem_liveQueue.1 (hqueue ▸ List.mem_append_left after hplace)
      exact .inl ⟨row, hrow.1, .same⟩
    · exact .inr ⟨_, rfl⟩
    · obtain ⟨row', hrow', hsettles⟩ := hshift' row hplace
      exact .inl ⟨row', (mem_liveQueue.1 (hqueue ▸ List.mem_append_right before hrow')).1, hsettles⟩
    · rcases hmem.1 hrow with hrow | rfl
      · exact .inl ⟨row, hrow, .same⟩
      · cases hdead.symm.trans hlive

theorem SettledFrom.map {kept : Nat} {rows : List QueueEntry} (h : SettledFrom k now kept rows)
    {g : QueueEntry → QueueEntry} (hstatus : ∀ row, (g row).status = row.status)
    (hfresh : ∀ row, now < row.expiresAt → now < (g row).expiresAt) :
    SettledFrom k now kept (rows.map g) := by
  induction rows generalizing kept with
  | nil => trivial
  | cons first rest ih =>
    exact ⟨⟨(hstatus first).trans h.1.status, hfresh first h.1.fresh⟩, ih h.2⟩

/-- An update that moves no row of the queue and changes no status. -/
theorem liveQueue_update {table : Table QueueEntry} {p : QueueEntry → Bool}
    {f : QueueEntry → QueueEntry} {hf : ∀ row, Row.key (f row) = Row.key row}
    (hjoined : ∀ row, (f row).joinedAt = row.joinedAt)
    (hstatus : ∀ row, (f row).status = row.status) :
    liveQueue (table.update p f hf) = (liveQueue table).map (patch p f) := by
  have hkey : ∀ row, (patch p f row).id = row.id := fun row => patch_column hf
  apply liveQueue_eq
  · rw [List.map_map, show Row.key ∘ patch p f = Row.key from funext fun row => patch_column hf]
    exact liveQueue_nodup table
  · rw [List.pairwise_map]
    refine (liveQueue_sorted table).imp fun {a b} hab => ?_
    unfold Before at hab ⊢
    rwa [hkey, hkey, patch_column hjoined, patch_column hjoined]
  · intro row
    rw [List.mem_map, Table.mem_update]
    constructor
    · rintro ⟨old, hold, rfl⟩
      obtain ⟨hrow, hlive⟩ := mem_liveQueue.1 hold
      exact ⟨⟨old, hrow, rfl⟩, by rwa [patch_column hstatus]⟩
    · rintro ⟨⟨old, hrow, rfl⟩, hlive⟩
      rw [patch_column hstatus] at hlive
      exact ⟨old, mem_liveQueue.2 ⟨hrow, hlive⟩, rfl⟩

/-- Advancing a settled queue changes nothing. -/
theorem advancedTable_eq_self {table : Table QueueEntry}
    (hsettled : SettledFrom k now 0 (liveQueue table)) : advancedTable k now table = table := by
  have hexpire : expireWaiting now table = table := expireWaiting_of_fresh fun row hrow hw =>
    (hsettled.fresh (mem_liveQueue.2 ⟨hrow, by rw [hw]; rfl⟩)).2
  rw [advancedTable, hexpire, hsettled.advanced]
  exact Table.replace_self (liveQueue_nodup table) fun row hrow => (mem_liveQueue.1 hrow).1

/-- A settled queue, in which a lease is renewed, stays settled. -/
theorem SettledFrom.refresh {table : Table QueueEntry} {p : QueueEntry → Bool}
    (h : SettledFrom k now 0 (liveQueue table)) :
    SettledFrom k now 0 (liveQueue (table.update p fun row =>
      { row with expiresAt := now + queueLeaseMs, updatedAt := now })) := by
  rw [liveQueue_update]
  · refine h.map (fun row => patch_column fun _ => rfl) fun row hfresh => ?_
    unfold patch
    split
    · simp only [queueLeaseMs]
      omega
    · exact hfresh
  · exact fun _ => rfl
  · exact fun _ => rfl

end advance

/-! ## The rows at two instants -/

/-- An entry that was not there before, of a user who may come. -/
structure Newcomer (now : Int) (comes : Uuid → Prop) (table : Table QueueEntry)
    (entry : QueueEntry) : Prop where
  joinedAt : entry.joinedAt = now
  status : entry.status = .waiting ∨
    (entry.status = .offered ∧ entry.expiresAt = now + queueOfferMs)
  comes : comes entry.userId
  alone : ∀ other ∈ table.rows, other.userId = entry.userId → other.status.live = true →
    other = entry

/-- Every entry takes a turn, and the entries that come are newcomers. -/
structure Evolves (now : Int) (comes : Uuid → Prop) (old new : Table QueueEntry) : Prop where
  turn : ∀ before ∈ old.rows, ∃ after ∈ new.rows, Turn now before after
  source : ∀ after ∈ new.rows,
    (∃ before ∈ old.rows, Turn now before after) ∨ Newcomer now comes new after

/-- The entry that `lastEntry` finds. -/
structure Latest (userId : Uuid) (table : Table QueueEntry) (entry : QueueEntry) : Prop where
  mem : entry ∈ table.rows
  user : entry.userId = userId
  last : ∀ other ∈ table.rows, other.userId = userId → Before other entry

/-- The user has let the last offer go by. -/
def LatestMissed (userId : Uuid) (table : Table QueueEntry) : Prop :=
  ∃ entry, Latest userId table entry ∧ entry.status = .missed

section evolves

variable {now : Int} {comes : Uuid → Prop} {old new : Table QueueEntry} {userId : Uuid}

theorem Evolves.of_corresponds (h : old.Corresponds (Turn now) new) : Evolves now comes old new :=
  ⟨h.after, fun after hafter => .inl (h.before after hafter)⟩

theorem Evolves.refl (table : Table QueueEntry) : Evolves now comes table table :=
  .of_corresponds (.refl (fun _ => .same) table)

/-- Entries with one id are one entry's versions. -/
theorem Evolves.of_id (h : Evolves now comes old new) {before after : QueueEntry}
    (hbefore : before ∈ old.rows) (hafter : after ∈ new.rows) (hid : after.id = before.id) :
    Turn now before after := by
  obtain ⟨after', hafter', hturn⟩ := h.turn before hbefore
  obtain rfl := Table.eq_of_key hafter hafter' (hid.trans hturn.columns.1.symm)
  exact hturn

theorem lastEntry_of_latest {table : Table QueueEntry} {entry : QueueEntry}
    (h : Latest userId table entry) : lastEntry userId table = some entry := by
  have htotal : Std.Total fun a b : QueueEntry => Before b a := ⟨fun a b => Std.Total.total b a⟩
  have htrans : IsTrans QueueEntry fun a b => Before b a :=
    ⟨fun _ _ _ hab hbc => IsTrans.trans _ _ _ hbc hab⟩
  have hmem : ∀ {row}, row ∈ (table.select (·.userId = userId)).insertionSort
      (fun a b => Before b a) ↔ row ∈ table.rows ∧ row.userId = userId := by
    intro row
    rw [(List.perm_insertionSort _ _).mem_iff, Table.select, List.mem_filter, decide_eq_true_eq]
  have hsorted := List.pairwise_insertionSort (fun a b => Before b a)
    (table.select (·.userId = userId))
  have hentry := hmem.2 ⟨h.mem, h.user⟩
  unfold lastEntry
  generalize (table.select (·.userId = userId)).insertionSort (fun a b => Before b a) = rows
    at hmem hsorted hentry
  cases rows with
  | nil => cases hentry
  | cons first rest =>
    rw [List.head?_cons]
    rcases List.mem_cons.1 hentry with rfl | hrest
    · rfl
    · obtain ⟨hfirst, huser⟩ := hmem.1 List.mem_cons_self
      have hbefore : Before entry first := (List.pairwise_cons.1 hsorted).1 entry hrest
      rw [Table.eq_of_key hfirst h.mem (key_of_before (h.last first hfirst huser) hbefore)]

/-- A missed entry stays the user's last until the user comes again. -/
theorem Latest.evolves {entry : QueueEntry} (h : Latest userId old entry)
    (hmissed : entry.status = .missed) (hevolves : Evolves now comes old new)
    (hno : ¬ comes userId) : Latest userId new entry := by
  obtain ⟨after, hafter, hturn⟩ := hevolves.turn entry h.mem
  obtain rfl := hturn.missed_stays hmissed
  refine ⟨hafter, h.user, fun other hother huser => ?_⟩
  rcases hevolves.source other hother with ⟨before, hbefore, hturn'⟩ | hnew
  · obtain ⟨hid, huser', hjoined⟩ := hturn'.columns
    have hlast := h.last before hbefore (huser'.symm.trans huser)
    unfold Before at hlast ⊢
    rwa [hid, hjoined]
  · exact absurd (huser ▸ hnew.comes) hno

end evolves

end RcOnline.Web
