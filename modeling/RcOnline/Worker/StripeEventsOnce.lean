import RcOnline.Worker.StripeEvents

/-!
# Every event is credited once

Whatever calls run side by side, wait for each other or are lost, a Stripe event ends up with at
most one lot and one ledger entry, of one wallet and one amount, both there exactly when the event
is marked processed, and then nothing about it changes again (`process_exactly_once`). The row lock
carries the proof: a call that has read an unprocessed event is the only one that can process it
(`Good.locks`), so what its commit adds is all there is (`Move`, `Settled`).
-/

namespace RcOnline.Worker

open RcOnline.Lib RcOnline.Billing RcOnline.Api

/-! ## Credits of an event -/

def lotsOf (db : Database) (id : String) : List WalletLot := db.walletLots.select (isLotOf id)

def entriesOf (db : Database) (id : String) : List LedgerEntry :=
  db.ledgerEntries.select (·.idempotencyKey = creditKey id)

/-- The audit trail of an event's processing. -/
def auditsOf (db : Database) (id : String) : List AuditEvent :=
  db.auditEvents.filter fun audit =>
    audit.action = "stripe_event_processed" && audit.targetId = id

/-- The event is in the table, processed, and of a type that credits. -/
def Paid (db : Database) (id : String) : Prop :=
  ∃ event ∈ db.stripeEvents.rows, event.stripeEventId = id ∧ event.status = .processed ∧
    isCrediting event.eventType = true

/-- One event's credits, whichever event it is. -/
structure ExactlyOnce (db : Database) (id : String) : Prop where
  lots : (lotsOf db id).length ≤ 1
  entries : (entriesOf db id).length ≤ 1
  agree : ∀ lot ∈ lotsOf db id, ∀ entry ∈ entriesOf db id,
    entry.walletId = lot.walletId ∧ entry.seconds = lot.grantedSeconds
  processed : ∀ event ∈ db.stripeEvents.rows, event.stripeEventId = id →
    isCrediting event.eventType = true →
    (event.status = .processed ↔ lotsOf db id ≠ [] ∧ entriesOf db id ≠ [])

/-- The unique constraints hold, and the events' credits are those of the processed ones. -/
structure Settled (db : Database) : Prop where
  sources : (db.walletLots.rows.map fun lot => (lot.sourceType, lot.sourceId)).Nodup
  keys : (db.ledgerEntries.rows.map (·.idempotencyKey)).Nodup
  credited : ∀ id, Paid db id →
    ∃ lot ∈ db.walletLots.rows, isLotOf id lot = true ∧
      ∃ entry ∈ db.ledgerEntries.rows, entry.idempotencyKey = creditKey id ∧
        entry.walletId = lot.walletId ∧ entry.seconds = lot.grantedSeconds
  lots : ∀ lot ∈ db.walletLots.rows, ∀ id, isLotOf id lot = true → Paid db id
  entries : ∀ entry ∈ db.ledgerEntries.rows, ∀ id, entry.idempotencyKey = creditKey id → Paid db id

theorem isLotOf_iff {id : String} {lot : WalletLot} :
    isLotOf id lot = true ↔ (lot.sourceType, lot.sourceId) = ("stripe", id) := by
  simp [isLotOf]

theorem creditKey_inj {a b : String} : creditKey a = creditKey b ↔ a = b := by
  simp [creditKey, ← String.toList_inj]

/-- A database in which no event has been processed and nothing credited for one. -/
theorem settled_of_received {db : Database}
    (hsources : (db.walletLots.rows.map fun lot => (lot.sourceType, lot.sourceId)).Nodup)
    (hkeys : (db.ledgerEntries.rows.map (·.idempotencyKey)).Nodup)
    (hevents : ∀ event ∈ db.stripeEvents.rows, event.status ≠ .processed)
    (hlots : ∀ lot ∈ db.walletLots.rows, lot.sourceType ≠ "stripe")
    (hentries : ∀ entry ∈ db.ledgerEntries.rows, ∀ id, entry.idempotencyKey ≠ creditKey id) :
    Settled db where
  sources := hsources
  keys := hkeys
  credited := by
    rintro id ⟨event, hevent, -, hprocessed, -⟩
    exact absurd hprocessed (hevents event hevent)
  lots := by
    intro lot hlot id hid
    exact absurd (Prod.mk.inj (isLotOf_iff.1 hid)).1 (hlots lot hlot)
  entries := fun entry hentry id hid => absurd hid (hentries entry hentry id)

namespace Settled

variable {db : Database}

theorem lot_eq (h : Settled db) {id : String} {a b : WalletLot} (ha : a ∈ lotsOf db id)
    (hb : b ∈ lotsOf db id) : a = b := by
  obtain ⟨ha, hida⟩ := List.mem_filter.1 ha
  obtain ⟨hb, hidb⟩ := List.mem_filter.1 hb
  exact List.inj_on_of_nodup_map h.sources ha hb
    ((isLotOf_iff.1 hida).trans (isLotOf_iff.1 hidb).symm)

theorem entry_eq (h : Settled db) {id : String} {a b : LedgerEntry} (ha : a ∈ entriesOf db id)
    (hb : b ∈ entriesOf db id) : a = b := by
  obtain ⟨ha, hida⟩ := List.mem_filter.1 ha
  obtain ⟨hb, hidb⟩ := List.mem_filter.1 hb
  exact List.inj_on_of_nodup_map h.keys ha hb
    ((of_decide_eq_true hida).trans (of_decide_eq_true hidb).symm)

/-- The credits of a settled database. -/
theorem exactlyOnce (h : Settled db) (id : String) : ExactlyOnce db id where
  lots := Table.length_select_le_one fun a ha b hb hpa hpb =>
    h.lot_eq (List.mem_filter.2 ⟨ha, hpa⟩) (List.mem_filter.2 ⟨hb, hpb⟩)
  entries := Table.length_select_le_one fun a ha b hb hpa hpb =>
    h.entry_eq (List.mem_filter.2 ⟨ha, hpa⟩) (List.mem_filter.2 ⟨hb, hpb⟩)
  agree := by
    intro lot hlot entry hentry
    obtain ⟨hlot', hid⟩ := List.mem_filter.1 hlot
    obtain ⟨lot', hmem, hid', entry', hmem', hkey, hagree⟩ :=
      h.credited id (h.lots lot hlot' id hid)
    obtain rfl := h.lot_eq hlot (List.mem_filter.2 ⟨hmem, hid'⟩)
    obtain rfl := h.entry_eq hentry (List.mem_filter.2 ⟨hmem', decide_eq_true hkey⟩)
    exact hagree
  processed := by
    intro event hevent hid hcrediting
    constructor
    · intro hprocessed
      obtain ⟨lot, hlot, hidl, entry, hentry, hkey, -⟩ :=
        h.credited id ⟨event, hevent, hid, hprocessed, hcrediting⟩
      exact ⟨List.ne_nil_of_mem (List.mem_filter.2 ⟨hlot, hidl⟩),
        List.ne_nil_of_mem (List.mem_filter.2 ⟨hentry, decide_eq_true hkey⟩)⟩
    · rintro ⟨hlots, -⟩
      obtain ⟨lot, hlot⟩ := List.exists_mem_of_ne_nil _ hlots
      obtain ⟨hlot, hidl⟩ := List.mem_filter.1 hlot
      obtain ⟨event', hevent', hid', hprocessed, -⟩ := h.lots lot hlot id hidl
      obtain rfl := Table.eq_of_key hevent hevent' (hid.trans hid'.symm)
      exact hprocessed

end Settled

/-! ## What a step does to the database -/

/-- What a call writes for an event beside its row and the audit: a lot and an entry of the event's
credit, or nothing when the event is not of a type that credits. -/
inductive Writes (readers : Readers) (wallets : Table Wallet) (event : StripeEvent) (now : Int) :
    Option WalletLot → Option LedgerEntry → Prop where
  | credit {credit : Credit} {lotId entryId : Uuid} :
    isCrediting event.eventType = true → creditOf readers wallets event.payload = some credit →
    Writes readers wallets event now (some (stripeLot lotId event.stripeEventId credit now))
      (some (stripeEntry entryId event.stripeEventId credit lotId))
  | nothing : isCrediting event.eventType = false → Writes readers wallets event now none none

/-- An event is processed. -/
structure Processes (readers : Readers) (db db' : Database) (event : StripeEvent) : Prop where
  mem : event ∈ db.stripeEvents.rows
  unprocessed : event.status ≠ .processed
  writes : ∃ now lot entry, Writes readers db.wallets event now lot entry ∧
    (∀ l ∈ lot, ∀ other ∈ db.walletLots.rows, lotsClash l other = false) ∧
    (∀ e ∈ entry, ∀ other ∈ db.ledgerEntries.rows, entriesClash e other = false) ∧
    db'.stripeEvents = db.stripeEvents.replace [processedRow event now] ∧
    db'.walletLots.rows = db.walletLots.rows ++ lot.toList ∧
    db'.ledgerEntries.rows = db.ledgerEntries.rows ++ entry.toList
  audits : db'.auditEvents = db.auditEvents ++ [processedAudit event]
  wallets : db'.wallets = db.wallets

/-- All that a step can do to the database, with the event that it brings in. -/
inductive Move (readers : Readers) (incoming : Option IncomingEvent) (db : Database) :
    Database → Prop where
  | same : Move readers incoming db db
  | received {event : IncomingEvent} {stripeEvents : Table StripeEvent} :
    event ∈ incoming → insertEvent event db.stripeEvents = some stripeEvents →
    Move readers incoming db { db with stripeEvents }
  | processed {db' : Database} {event : StripeEvent} :
    Processes readers db db' event → Move readers incoming db db'

section moves

variable {readers : Readers} {incoming : Option IncomingEvent} {db db' : Database}
  {event : StripeEvent}

theorem mem_received {new : IncomingEvent} {stripeEvents : Table StripeEvent}
    (h : insertEvent new db.stripeEvents = some stripeEvents) :
    event ∈ stripeEvents.rows ↔ event ∈ db.stripeEvents.rows ∨ event = receivedRow new :=
  Table.mem_insert? h

/-- The events after one is processed. -/
theorem mem_processed {now : Int} (hmem : event ∈ db.stripeEvents.rows) {other : StripeEvent} :
    other ∈ (db.stripeEvents.replace [processedRow event now]).rows ↔
      other = processedRow event now ∨
        (other ∈ db.stripeEvents.rows ∧ other.stripeEventId ≠ event.stripeEventId) := by
  have hnodup : ([processedRow event now].map Row.key).Nodup := List.nodup_singleton _
  have hsub : ∀ n ∈ [processedRow event now], ∃ r ∈ db.stripeEvents.rows, Row.key r = Row.key n :=
    fun n hn => ⟨event, hmem, List.mem_singleton.1 hn ▸ rfl⟩
  rw [Table.mem_replace hnodup hsub]
  simp only [List.mem_singleton, List.map_singleton]
  rfl

/-- The paid events after one is processed. -/
theorem Processes.paid_iff (h : Processes readers db db' event) {id : String} :
    Paid db' id ↔
      Paid db id ∨ (id = event.stripeEventId ∧ isCrediting event.eventType = true) := by
  obtain ⟨now, lot, entry, -, -, -, hevents, -⟩ := h.writes
  unfold Paid
  rw [hevents]
  constructor
  · rintro ⟨other, hother, rfl, hprocessed, hcrediting⟩
    rcases (mem_processed h.mem).1 hother with rfl | ⟨hother, -⟩
    · exact .inr ⟨rfl, hcrediting⟩
    · exact .inl ⟨other, hother, rfl, hprocessed, hcrediting⟩
  · rintro (⟨other, hother, rfl, hprocessed, hcrediting⟩ | ⟨rfl, hcrediting⟩)
    · refine ⟨other, (mem_processed h.mem).2 (.inr ⟨hother, fun heq => ?_⟩), rfl, hprocessed,
        hcrediting⟩
      obtain rfl := Table.eq_of_key hother h.mem heq
      exact h.unprocessed hprocessed
    · exact ⟨_, (mem_processed h.mem).2 (.inl rfl), rfl, rfl, hcrediting⟩

theorem nodup_append_toList {α β : Type*} {f : α → β} {rows : List α} {new : Option α}
    (h : (rows.map f).Nodup) (hnew : ∀ x ∈ new, ∀ r ∈ rows, f r ≠ f x) :
    ((rows ++ new.toList).map f).Nodup := by
  cases new with
  | none => simpa using h
  | some x =>
    rw [Option.toList_some, List.map_append, List.map_singleton, List.nodup_append]
    refine ⟨h, List.nodup_singleton _, ?_⟩
    intro a ha b hb heq
    obtain ⟨r, hr, rfl⟩ := List.mem_map.1 ha
    exact hnew x rfl r hr (heq.trans (List.mem_singleton.1 hb))

theorem Settled.processed (hs : Settled db) (h : Processes readers db db' event) : Settled db' := by
  obtain ⟨now, lot, entry, hwrites, hlot, hentry, -, hlots, hentries⟩ := h.writes
  constructor
  case sources =>
    rw [hlots]
    refine nodup_append_toList hs.sources fun l hl other hother heq => ?_
    have hclash := hlot l hl other hother
    obtain ⟨htype, hid⟩ := Prod.mk.inj heq
    simp [lotsClash, htype, hid] at hclash
  case keys =>
    rw [hentries]
    refine nodup_append_toList hs.keys fun e he other hother heq => ?_
    have hclash := hentry e he other hother
    simp [entriesClash, heq] at hclash
  case credited =>
    intro id hid
    rcases h.paid_iff.1 hid with hid | ⟨rfl, hcrediting⟩
    · obtain ⟨l, hl, hidl, e, he, hkey, hagree⟩ := hs.credited id hid
      rw [hlots, hentries]
      exact ⟨l, List.mem_append_left _ hl, hidl, e, List.mem_append_left _ he, hkey, hagree⟩
    · rw [hlots, hentries]
      cases hwrites with
      | credit _ hcredit =>
        exact ⟨_, List.mem_append_right _ (List.mem_singleton_self _), isLotOf_iff.2 rfl, _,
          List.mem_append_right _ (List.mem_singleton_self _), rfl, rfl, rfl⟩
      | nothing hno => rw [hcrediting] at hno; cases hno
  case lots =>
    intro l hl id hid
    rw [hlots, List.mem_append] at hl
    rcases hl with hl | hl
    · exact h.paid_iff.2 (.inl (hs.lots l hl id hid))
    · cases hwrites with
      | credit hcrediting _ =>
        obtain rfl := List.mem_singleton.1 hl
        exact h.paid_iff.2 (.inr ⟨(Prod.mk.inj (isLotOf_iff.1 hid)).2.symm, hcrediting⟩)
      | nothing => cases hl
  case entries =>
    intro e he id hid
    rw [hentries, List.mem_append] at he
    rcases he with he | he
    · exact h.paid_iff.2 (.inl (hs.entries e he id hid))
    · cases hwrites with
      | credit hcrediting _ =>
        obtain rfl := List.mem_singleton.1 he
        exact h.paid_iff.2 (.inr ⟨(creditKey_inj.1 hid).symm, hcrediting⟩)
      | nothing => cases he

theorem paid_received {new : IncomingEvent} {stripeEvents : Table StripeEvent}
    (h : insertEvent new db.stripeEvents = some stripeEvents) {id : String} :
    Paid { db with stripeEvents } id ↔ Paid db id := by
  unfold Paid
  simp only [mem_received h]
  constructor
  · rintro ⟨event, hevent | rfl, hid, hprocessed, hcrediting⟩
    · exact ⟨event, hevent, hid, hprocessed, hcrediting⟩
    · cases hprocessed
  · rintro ⟨event, hevent, hid⟩
    exact ⟨event, .inl hevent, hid⟩

theorem Settled.move (hs : Settled db) (h : Move readers incoming db db') : Settled db' := by
  cases h with
  | same => exact hs
  | processed h => exact hs.processed h
  | received _ h =>
    refine ⟨hs.sources, hs.keys, fun id hid => ?_, fun lot hlot id hid => ?_,
      fun entry hentry id hid => ?_⟩
    · exact hs.credited id ((paid_received h).1 hid)
    · exact (paid_received h).2 (hs.lots lot hlot id hid)
    · exact (paid_received h).2 (hs.entries entry hentry id hid)

/-- Nothing of a processed event changes: its row, its lots, its entries and its audit trail. -/
structure Frozen (db db' : Database) (event : StripeEvent) : Prop where
  row : event ∈ db'.stripeEvents.rows
  lots : lotsOf db' event.stripeEventId = lotsOf db event.stripeEventId
  entries : entriesOf db' event.stripeEventId = entriesOf db event.stripeEventId
  audits : auditsOf db' event.stripeEventId = auditsOf db event.stripeEventId

theorem Move.frozen (h : Move readers incoming db db') (hmem : event ∈ db.stripeEvents.rows)
    (hprocessed : event.status = .processed) : Frozen db db' event := by
  cases h with
  | same => exact ⟨hmem, rfl, rfl, rfl⟩
  | received _ h => exact ⟨(mem_received h).2 (.inl hmem), rfl, rfl, rfl⟩
  | @processed _ other h =>
    have hne : other.stripeEventId ≠ event.stripeEventId := by
      intro heq
      obtain rfl := Table.eq_of_key h.mem hmem heq
      exact h.unprocessed hprocessed
    obtain ⟨now, lot, entry, hwrites, -, -, hevents, hlots, hentries⟩ := h.writes
    constructor
    case row =>
      rw [hevents]
      exact (mem_processed h.mem).2 (.inr ⟨hmem, hne.symm⟩)
    case lots =>
      unfold lotsOf Table.select
      rw [hlots, List.filter_append]
      cases hwrites <;> simp [isLotOf, stripeLot, hne]
    case entries =>
      unfold entriesOf Table.select
      rw [hentries, List.filter_append]
      cases hwrites <;> simp [stripeEntry, creditKey_inj, hne]
    case audits =>
      unfold auditsOf
      rw [h.audits, List.filter_append]
      simp [processedAudit, hne]

end moves

/-! ## The calls in progress -/

/-- A call has no pending write. -/
structure Transaction.Clean (tx : Transaction) : Prop where
  lot : tx.lot = none
  entry : tx.entry = none
  event : tx.event = none
  audit : tx.audit = none

/-- A call holds the lock of an unprocessed event. -/
structure Transaction.Holds (db : Database) (tx : Transaction) (event : StripeEvent) : Prop where
  locked : tx.locked = true
  id : event.stripeEventId = tx.stripeEventId
  mem : event ∈ db.stripeEvents.rows
  unprocessed : event.status ≠ .processed

/-- What is known of a call at each of its statements. -/
inductive Transaction.Good (readers : Readers) (db : Database) (tx : Transaction) : Prop where
  | begun : tx.stage = .begun → tx.locked = false → tx.Clean → Good readers db tx
  | fetched {event : StripeEvent} :
    tx.stage = .fetched event → tx.Holds db event → tx.Clean → Good readers db tx
  | priced {event : StripeEvent} {credit : Credit} :
    tx.stage = .priced event credit → tx.Holds db event → tx.Clean →
    isCrediting event.eventType = true → creditOf readers db.wallets event.payload = some credit →
    Good readers db tx
  | granted {event : StripeEvent} {credit : Credit} {id : Uuid} :
    tx.stage = .granted event credit → tx.Holds db event →
    tx.lot = some (stripeLot id event.stripeEventId credit tx.now) → tx.entry = none →
    tx.event = none → tx.audit = none →
    isCrediting event.eventType = true → creditOf readers db.wallets event.payload = some credit →
    Good readers db tx
  | credited {event : StripeEvent} :
    tx.stage = .credited event → tx.Holds db event →
    Writes readers db.wallets event tx.now tx.lot tx.entry → tx.event = none → tx.audit = none →
    Good readers db tx
  | marked {event : StripeEvent} :
    tx.stage = .marked event → tx.Holds db event →
    Writes readers db.wallets event tx.now tx.lot tx.entry →
    tx.event = some (processedRow event tx.now) → tx.audit = none → Good readers db tx
  | audited {event : StripeEvent} :
    tx.stage = .audited event → tx.Holds db event →
    Writes readers db.wallets event tx.now tx.lot tx.entry →
    tx.event = some (processedRow event tx.now) → tx.audit = some (processedAudit event) →
    Good readers db tx
  | skipped : tx.stage = .skipped → tx.Clean → Good readers db tx

section statements

variable {readers : Readers} {db db' : Database} {others : List Transaction}
  {tx tx' : Transaction} {event : StripeEvent}

/-- A lock is taken only when no other call has it. -/
theorem fetch_good (hclean : tx.Clean)
    (h : fetch db others tx = .proceeds tx') :
    tx'.Good readers db ∧ tx'.stripeEventId = tx.stripeEventId ∧
      ∀ other ∈ others, ¬ (other.locked = true ∧ other.stripeEventId = tx.stripeEventId) := by
  unfold fetch at h
  split at h
  · cases h
  · next hfree =>
    have hfree : ∀ other ∈ others,
        ¬ (other.locked = true ∧ other.stripeEventId = tx.stripeEventId) := by
      simpa using hfree
    split at h
    · obtain rfl := Outcome.proceeds.inj h
      exact ⟨.skipped rfl ⟨hclean.lot, hclean.entry, hclean.event, hclean.audit⟩, rfl, hfree⟩
    · next event hget =>
      obtain ⟨hmem, hid⟩ := Table.get?_eq_some_iff.1 hget
      split at h
      · obtain rfl := Outcome.proceeds.inj h
        exact ⟨.skipped rfl ⟨hclean.lot, hclean.entry, hclean.event, hclean.audit⟩, rfl, hfree⟩
      · next hunprocessed =>
        obtain rfl := Outcome.proceeds.inj h
        exact ⟨.fetched rfl ⟨rfl, hid, hmem, hunprocessed⟩
          ⟨hclean.lot, hclean.entry, hclean.event, hclean.audit⟩, rfl, hfree⟩

theorem price_good (hholds : tx.Holds db event) (hclean : tx.Clean)
    (h : price readers db tx event = .proceeds tx') :
    tx'.Good readers db ∧ tx'.stripeEventId = tx.stripeEventId ∧ tx'.locked = tx.locked := by
  unfold price at h
  obtain ⟨hlocked, hid, hmem, hunprocessed⟩ := hholds
  obtain ⟨hlot, hentry, hevent, haudit⟩ := hclean
  split at h
  · next hcrediting =>
    split at h
    · cases h
    · next credit hcredit =>
      obtain rfl := Outcome.proceeds.inj h
      exact ⟨.priced rfl ⟨hlocked, hid, hmem, hunprocessed⟩ ⟨hlot, hentry, hevent, haudit⟩
        hcrediting hcredit, rfl, rfl⟩
  · next hcrediting =>
    obtain rfl := Outcome.proceeds.inj h
    refine ⟨.credited rfl ⟨hlocked, hid, hmem, hunprocessed⟩ ?_ hevent haudit, rfl, rfl⟩
    simp only [hlot, hentry]
    exact .nothing (Bool.not_eq_true _ ▸ hcrediting)

/-- An unprocessed event has no lot and no entry yet, so neither insert meets a conflict. -/
theorem Transaction.Holds.not_paid (hholds : tx.Holds db event) :
    ¬ Paid db event.stripeEventId := by
  rintro ⟨other, hother, hid, hprocessed, -⟩
  obtain rfl := Table.eq_of_key hother hholds.mem hid
  exact hholds.unprocessed hprocessed

theorem insertLot_good {credit : Credit} {id : Uuid} (hs : Settled db) (hholds : tx.Holds db event)
    (hclean : tx.Clean) (hcrediting : isCrediting event.eventType = true)
    (hcredit : creditOf readers db.wallets event.payload = some credit)
    (h : insertLot db others tx event credit id = .proceeds tx') :
    tx'.Good readers db ∧ tx'.stripeEventId = tx.stripeEventId ∧ tx'.locked = tx.locked := by
  unfold insertLot at h
  dsimp only at h
  split at h
  · cases h
  split at h
  · cases h
  split at h
  · next htaken =>
    obtain ⟨lot, hlot, hid⟩ := List.any_eq_true.1 htaken
    exact absurd (hs.lots lot hlot _ hid) hholds.not_paid
  split at h
  · cases h
  · obtain rfl := Outcome.proceeds.inj h
    exact ⟨.granted rfl ⟨hholds.locked, hholds.id, hholds.mem, hholds.unprocessed⟩ rfl hclean.entry
      hclean.event hclean.audit hcrediting hcredit, rfl, rfl⟩

theorem insertEntry_good {credit : Credit} {id lotId : Uuid} (hs : Settled db)
    (hholds : tx.Holds db event)
    (hlot : tx.lot = some (stripeLot lotId event.stripeEventId credit tx.now))
    (hevent : tx.event = none) (haudit : tx.audit = none)
    (hcrediting : isCrediting event.eventType = true)
    (hcredit : creditOf readers db.wallets event.payload = some credit)
    (h : insertEntry db others tx event credit id = .proceeds tx') :
    tx'.Good readers db ∧ tx'.stripeEventId = tx.stripeEventId ∧ tx'.locked = tx.locked := by
  have hown :
      isLotOf event.stripeEventId (stripeLot lotId event.stripeEventId credit tx.now) = true :=
    isLotOf_iff.2 rfl
  have hfind : (db.walletLots.rows ++ tx.lot.toList).find? (isLotOf event.stripeEventId) =
      some (stripeLot lotId event.stripeEventId credit tx.now) := by
    rw [List.find?_append, hlot, Option.toList_some, List.find?_singleton, if_pos hown]
    have hnone : db.walletLots.rows.find? (isLotOf event.stripeEventId) = none := by
      rw [List.find?_eq_none]
      exact fun lot hmem hid => hholds.not_paid (hs.lots lot hmem _ hid)
    rw [hnone, Option.none_or]
  unfold insertEntry at h
  rw [hfind] at h
  dsimp only at h
  split at h
  · cases h
  split at h
  · next htaken =>
    obtain ⟨entry, hentry, hkey⟩ := List.any_eq_true.1 htaken
    exact absurd (hs.entries entry hentry _ (of_decide_eq_true hkey)) hholds.not_paid
  split at h
  · cases h
  · obtain rfl := Outcome.proceeds.inj h
    refine ⟨.credited rfl ⟨hholds.locked, hholds.id, hholds.mem, hholds.unprocessed⟩ ?_ hevent
      haudit, rfl, rfl⟩
    simp only [hlot]
    exact .credit hcrediting hcredit

theorem updateEvent_good (hholds : tx.Holds db event)
    (hwrites : Writes readers db.wallets event tx.now tx.lot tx.entry) (haudit : tx.audit = none)
    (h : updateEvent tx event = .proceeds tx') :
    tx'.Good readers db ∧ tx'.stripeEventId = tx.stripeEventId ∧ tx'.locked = tx.locked := by
  unfold updateEvent at h
  split at h
  · cases h
  · obtain rfl := Outcome.proceeds.inj h
    exact ⟨.marked rfl ⟨hholds.locked, hholds.id, hholds.mem, hholds.unprocessed⟩ hwrites rfl
      haudit, rfl, rfl⟩

theorem insertAudit_good (hholds : tx.Holds db event)
    (hwrites : Writes readers db.wallets event tx.now tx.lot tx.entry)
    (hevent : tx.event = some (processedRow event tx.now))
    (h : insertAudit tx event = .proceeds tx') :
    tx'.Good readers db ∧ tx'.stripeEventId = tx.stripeEventId ∧ tx'.locked = tx.locked := by
  obtain rfl := Outcome.proceeds.inj h
  exact ⟨.audited rfl ⟨hholds.locked, hholds.id, hholds.mem, hholds.unprocessed⟩ hwrites hevent rfl,
    rfl, rfl⟩

theorem insertPending_eq_some {α κ : Type} [Row α κ] [DecidableEq κ] {clash : α → α → Bool}
    {rows rows' : Table α} {new : Option α} (h : insertPending clash rows new = some rows') :
    (∀ x ∈ new, ∀ other ∈ rows.rows, clash x other = false) ∧
      rows'.rows = rows.rows ++ new.toList := by
  cases new with
  | none =>
    obtain rfl := Option.some.inj h
    exact ⟨nofun, (List.append_nil _).symm⟩
  | some x =>
    obtain ⟨hfree, hrows⟩ := Table.insert?_eq_some h
    refine ⟨?_, hrows⟩
    rintro _ ⟨⟩ other hother
    exact (hfree other hother).2

/-- The commit of a call: it leaves the database alone, or processes the event it has locked. -/
theorem commit_move {number : Nat} {id : Uuid} {s : System} (hgood : tx.Good readers s.database)
    (hlast : s.statement readers number tx id = none) (h : tx.commit s.database = some db') :
    db' = s.database ∨
      ∃ event, Processes readers s.database db' event ∧ tx.Holds s.database event := by
  unfold Transaction.commit at h
  obtain ⟨lots, hlots, h⟩ := Option.bind_eq_some_iff.1 h
  obtain ⟨entries, hentries, h⟩ := Option.bind_eq_some_iff.1 h
  obtain rfl := Option.some.inj h
  unfold System.statement at hlast
  cases hgood with
  | skipped _ hclean =>
    rw [hclean.lot] at hlots
    rw [hclean.entry] at hentries
    obtain rfl := Option.some.inj hlots
    obtain rfl := Option.some.inj hentries
    left
    rw [hclean.event, hclean.audit, Option.toList_none, Option.toList_none, Table.replace_nil,
      List.append_nil]
  | audited _ hholds hwrites hevent haudit =>
    obtain ⟨hlot, hlots⟩ := insertPending_eq_some hlots
    obtain ⟨hentry, hentries⟩ := insertPending_eq_some hentries
    refine .inr ⟨_, ⟨hholds.mem, hholds.unprocessed, ?_, ?_, rfl⟩, hholds⟩
    · exact ⟨_, _, _, hwrites, hlot, hentry, by rw [hevent]; rfl, hlots, hentries⟩
    · rw [haudit]
      rfl
  | begun hstage => simp [hstage] at hlast
  | fetched hstage => simp [hstage] at hlast
  | priced hstage => simp [hstage] at hlast
  | granted hstage => simp [hstage] at hlast
  | credited hstage => simp [hstage] at hlast
  | marked hstage => simp [hstage] at hlast

/-- A statement of a call keeps what is known of it, and takes a lock only when it is free. -/
theorem statement_good {number : Nat} {id : Uuid} {s : System} (hs : Settled s.database)
    (hgood : tx.Good readers s.database)
    (h : s.statement readers number tx id = some (.proceeds tx')) :
    tx'.Good readers s.database ∧ tx'.stripeEventId = tx.stripeEventId ∧
      (tx'.locked = tx.locked ∨ ∀ other ∈ s.others number,
        ¬ (other.locked = true ∧ other.stripeEventId = tx.stripeEventId)) := by
  have hkept : tx'.Good readers s.database ∧ tx'.stripeEventId = tx.stripeEventId ∧
      tx'.locked = tx.locked → tx'.Good readers s.database ∧
      tx'.stripeEventId = tx.stripeEventId ∧ (tx'.locked = tx.locked ∨ ∀ other ∈ s.others number,
        ¬ (other.locked = true ∧ other.stripeEventId = tx.stripeEventId)) :=
    fun ⟨hgood, hid, hlocked⟩ => ⟨hgood, hid, .inl hlocked⟩
  unfold System.statement at h
  cases hgood with
  | begun hstage hlocked hclean =>
    rw [hstage] at h
    obtain ⟨hgood, hid, hfree⟩ := fetch_good hclean (Option.some.inj h)
    exact ⟨hgood, hid, .inr hfree⟩
  | fetched hstage hholds hclean =>
    rw [hstage] at h
    exact hkept (price_good hholds hclean (Option.some.inj h))
  | priced hstage hholds hclean hcrediting hcredit =>
    rw [hstage] at h
    exact hkept (insertLot_good hs hholds hclean hcrediting hcredit (Option.some.inj h))
  | granted hstage hholds hlot _ hevent haudit hcrediting hcredit =>
    rw [hstage] at h
    exact hkept
      (insertEntry_good hs hholds hlot hevent haudit hcrediting hcredit (Option.some.inj h))
  | credited hstage hholds hwrites _ haudit =>
    rw [hstage] at h
    exact hkept (updateEvent_good hholds hwrites haudit (Option.some.inj h))
  | marked hstage hholds hwrites hevent _ =>
    rw [hstage] at h
    exact hkept (insertAudit_good hholds hwrites hevent (Option.some.inj h))
  | audited hstage => simp [hstage] at h
  | skipped hstage => simp [hstage] at h

/-- What is known of a call survives while the row that it has locked does. -/
theorem Transaction.Good.mono (hgood : tx.Good readers db) (hwallets : db'.wallets = db.wallets)
    (hmem : ∀ event, tx.Holds db event → event ∈ db'.stripeEvents.rows) :
    tx.Good readers db' := by
  have hholds : ∀ {event}, tx.Holds db event → tx.Holds db' event := fun h =>
    ⟨h.locked, h.id, hmem _ h, h.unprocessed⟩
  cases hgood with
  | begun hstage hlocked hclean => exact .begun hstage hlocked hclean
  | fetched hstage h hclean => exact .fetched hstage (hholds h) hclean
  | priced hstage h hclean hcrediting hcredit =>
    exact .priced hstage (hholds h) hclean hcrediting (hwallets ▸ hcredit)
  | granted hstage h hlot hentry hevent haudit hcrediting hcredit =>
    exact .granted hstage (hholds h) hlot hentry hevent haudit hcrediting (hwallets ▸ hcredit)
  | credited hstage h hwrites hevent haudit =>
    exact .credited hstage (hholds h) (hwallets ▸ hwrites) hevent haudit
  | marked hstage h hwrites hevent haudit =>
    exact .marked hstage (hholds h) (hwallets ▸ hwrites) hevent haudit
  | audited hstage h hwrites hevent haudit =>
    exact .audited hstage (hholds h) (hwallets ▸ hwrites) hevent haudit
  | skipped hstage hclean => exact .skipped hstage hclean

end statements

/-! ## Runs -/

namespace System

/-- A settled database, calls of which everything is known, and one call for each lock. -/
structure Good (readers : Readers) (s : System) : Prop where
  settled : Settled s.database
  transactions : ∀ n tx, s.transactions.get? n = some tx → tx.Good readers s.database
  locks : ∀ m n a b, s.transactions.get? m = some a → s.transactions.get? n = some b →
    a.locked = true → b.locked = true → a.stripeEventId = b.stripeEventId → m = n

variable {readers : Readers} {s s' : System}

theorem mem_others {number : Nat} {tx : Transaction} :
    tx ∈ s.others number ↔ ∃ n, n ≠ number ∧ s.transactions.get? n = some tx := by
  unfold others
  simp only [List.mem_map, Prod.exists, exists_eq_right, OrdMap.mem_entries_iff, OrdMap.get?_delete]
  refine exists_congr fun n => ?_
  by_cases h : number = n
  · simp [h]
  · simp [h, Ne.symm h]

/-- The end of a call, with nothing written. -/
theorem Good.delete (h : s.Good readers) (number : Nat) :
    Good readers { s with transactions := s.transactions.delete number } where
  settled := h.settled
  transactions := fun n tx htx => h.transactions n tx (OrdMap.get?_of_get?_delete htx).2
  locks := fun m n a b ha hb =>
    h.locks m n a b (OrdMap.get?_of_get?_delete ha).2 (OrdMap.get?_of_get?_delete hb).2

/-- A call goes on, with no lock or with one that no other call has. -/
theorem Good.set (h : s.Good readers) {number : Nat} {tx : Transaction}
    (htx : tx.Good readers s.database)
    (hlock : tx.locked = true → ∀ other ∈ s.others number,
      ¬ (other.locked = true ∧ other.stripeEventId = tx.stripeEventId)) :
    Good readers { s with transactions := s.transactions.set number tx } where
  settled := h.settled
  transactions := by
    intro n other hother
    rw [OrdMap.get?_set] at hother
    split at hother
    · obtain rfl := Option.some.inj hother
      exact htx
    · exact h.transactions n other hother
  locks := by
    intro m n a b ha hb hlocked hlocked' hid
    rw [OrdMap.get?_set] at ha hb
    split at ha <;> split at hb
    · next hm hn => exact hm.symm.trans hn
    · next hm hn =>
      obtain rfl := Option.some.inj ha
      exact absurd ⟨hlocked', hid.symm⟩ (hlock hlocked b (mem_others.2 ⟨n, Ne.symm hn, hb⟩))
    · next hm hn =>
      obtain rfl := Option.some.inj hb
      exact absurd ⟨hlocked, hid⟩ (hlock hlocked' a (mem_others.2 ⟨m, Ne.symm hm, ha⟩))
    · exact h.locks m n a b ha hb hlocked hlocked' hid

/-- The webhook stores the event that a step brings in, or leaves the table alone. -/
theorem webhook_stripeEvents {w w' : Webhook} {step : WebhookStep} (h : w.step step = some w') :
    w'.stripeEvents = w.stripeEvents ∨ ∃ event ∈ (SystemStep.webhook step).incoming,
      insertEvent event w.stripeEvents = some w'.stripeEvents := by
  cases step with
  | insert delivery effect =>
    simp only [Webhook.step] at h
    split at h
    · cases h
    · obtain rfl := Option.some.inj h
      unfold Webhook.insert
      dsimp only
      split
      · cases hinsert : insertEvent delivery.event w.stripeEvents with
        | none => exact .inl rfl
        | some stripeEvents => exact .inr ⟨_, rfl, hinsert⟩
      · exact .inl rfl
  | add number effect =>
    simp only [Webhook.step] at h
    split at h
    · obtain rfl := Option.some.inj h
      exact .inl rfl
    · cases h
  | crash number =>
    simp only [Webhook.step] at h
    split at h
    · obtain rfl := Option.some.inj h
      exact .inl rfl
    · cases h

theorem Good.withWebhook (h : s.Good readers) {w : Webhook} {step : WebhookStep}
    (hstep : s.webhook.step step = some w) :
    Good readers (s.withWebhook w) ∧
      Move readers (SystemStep.webhook step).incoming s.database (s.withWebhook w).database := by
  have hmove : Move readers (SystemStep.webhook step).incoming s.database
      (s.withWebhook w).database := by
    rcases webhook_stripeEvents hstep with heq | ⟨event, hevent, hinsert⟩
    · unfold System.withWebhook
      rw [heq]
      exact .same
    · exact .received hevent hinsert
  refine ⟨⟨h.settled.move hmove, fun n tx htx => ?_, h.locks⟩, hmove⟩
  refine (h.transactions n tx htx).mono rfl fun event hholds => ?_
  rcases webhook_stripeEvents hstep with heq | ⟨new, -, hinsert⟩
  · change event ∈ w.stripeEvents.rows
    rw [heq]
    exact hholds.mem
  · exact (mem_received hinsert).2 (.inl hholds.mem)

theorem Good.commit (h : s.Good readers) {number : Nat} {id : Uuid} {tx : Transaction}
    {db : Database} (htx : s.transactions.get? number = some tx)
    (hlast : s.statement readers number tx id = none) (hcommit : tx.commit s.database = some db) :
    Good readers { s with database := db, transactions := s.transactions.delete number } ∧
      Move readers none s.database db := by
  rcases commit_move (h.transactions number tx htx) hlast hcommit with
    rfl | ⟨event, hprocesses, hholds⟩
  · exact ⟨h.delete number, .same⟩
  refine ⟨⟨h.settled.processed hprocesses, fun n other hother => ?_, (h.delete number).locks⟩,
    .processed hprocesses⟩
  obtain ⟨hne, hother⟩ := OrdMap.get?_of_get?_delete hother
  refine (h.transactions n other hother).mono hprocesses.wallets fun event' hholds' => ?_
  obtain ⟨now, lot, entry, -, -, -, hevents, -⟩ := hprocesses.writes
  rw [hevents]
  refine (mem_processed hprocesses.mem).2 (.inr ⟨hholds'.mem, fun hid => hne ?_⟩)
  -- two calls with the lock of one row are one call
  rw [hholds.id, hholds'.id] at hid
  exact h.locks number n tx other htx hother hholds.locked hholds'.locked hid.symm

/-- One step: everything stays known, and the database moves as `Move` says. -/
theorem step_good {step : SystemStep} (h : s.Good readers)
    (hstep : s.step readers step = some s') :
    s'.Good readers ∧ Move readers step.incoming s.database s'.database := by
  cases step with
  | webhook step =>
    obtain ⟨w, hw, rfl⟩ := Option.map_eq_some_iff.1 hstep
    exact h.withWebhook hw
  | begin number job now =>
    simp only [System.step] at hstep
    split at hstep
    · cases hstep
    · obtain rfl := Option.some.inj hstep
      refine ⟨h.set ?_ nofun, .same⟩
      exact .begun rfl rfl ⟨rfl, rfl, rfl, rfl⟩
  | abort number =>
    obtain rfl := Option.some.inj hstep
    exact ⟨h.delete number, .same⟩
  | advance number id =>
    simp only [System.step] at hstep
    split at hstep
    · cases hstep
    next tx htx =>
    unfold System.advance at hstep
    split at hstep
    · cases hstep
    · obtain rfl := Option.some.inj hstep
      exact ⟨h.delete number, .same⟩
    · next tx' hstatement =>
      obtain rfl := Option.some.inj hstep
      obtain ⟨hgood, hid, hlock⟩ :=
        statement_good h.settled (h.transactions number tx htx) hstatement
      refine ⟨h.set hgood fun hlocked other hother => ?_, .same⟩
      rw [hid]
      rcases hlock with hlock | hfree
      · rintro ⟨hlocked', hid'⟩
        obtain ⟨n, hne, hget⟩ := mem_others.1 hother
        exact hne (h.locks n number other tx hget htx hlocked' (hlock ▸ hlocked) hid')
      · exact hfree other hother
    · next hlast =>
      obtain ⟨db, hcommit, rfl⟩ := Option.map_eq_some_iff.1 hstep
      exact h.commit htx hlast hcommit

theorem good_of_run {start : System} {steps : List SystemStep}
    (hstart : start.transactions = ∅) (hsettled : Settled start.database)
    (hrun : Run (StepOf (System.step readers)) start steps s) : s.Good readers := by
  refine hrun.invariant ?_ fun h hstep => (step_good h hstep).1
  exact ⟨hsettled, by simp [hstart], by simp [hstart]⟩

end System

/-- **Main result.** From a settled database, in every run of deliveries and of calls that wait,
throw, repeat and are lost, every event is credited at most once and consistently, is marked
processed exactly when it is credited, and stays as it is from then on. -/
theorem process_exactly_once {readers : Readers} {start s : System} {steps : List SystemStep}
    (hstart : start.transactions = ∅) (hsettled : Settled start.database)
    (hrun : Run (StepOf (System.step readers)) start steps s) :
    (∀ id, ExactlyOnce s.database id) ∧
      ∀ step s', s.step readers step = some s' →
        ∀ event ∈ s.database.stripeEvents.rows, event.status = .processed →
          Frozen s.database s'.database event := by
  have hgood := System.good_of_run hstart hsettled hrun
  refine ⟨hgood.settled.exactlyOnce, fun step s' hstep event hevent hprocessed => ?_⟩
  exact (System.step_good hgood hstep).2.frozen hevent hprocessed

/-! ## Two calls for one event -/

def demoUserId : String := "20000000-0000-4000-8000-000000000001"

def demoReaders : Readers where
  toNumber text := (text.toInt?.map Number.ofInt).getD .nan
  uuid? text := if text = demoUserId then some 1 else none

def checkoutEvent : IncomingEvent :=
  { id := "evt_1", type := "checkout.session.completed", livemode := false, apiVersion := none,
    json := .object [("id", .string "evt_1")] }

def demoWallets : Table Wallet := ⟨[{ id := 7, userId := 1 }], List.nodup_singleton _⟩

/-- The user has a wallet and the event is stored. -/
def checkoutSystem : System where
  database :=
    { stripeEvents := ⟨[receivedRow checkoutEvent], List.nodup_singleton _⟩
      wallets := demoWallets, walletLots := .empty, ledgerEntries := .empty, auditEvents := [] }
  jobs := []
  deliveries := []
  transactions := ∅

def checkoutJob : StripeJob :=
  { stripeEventId := "evt_1", eventType := "checkout.session.completed" }

/-- Two calls of one job; the second reads the event once the first has committed. -/
def checkoutRun : List SystemStep :=
  [.begin 0 checkoutJob 0, .begin 1 checkoutJob 1, .advance 0 0, .advance 0 0, .advance 0 100,
    .advance 0 200, .advance 0 0, .advance 0 0, .advance 0 0, .advance 1 0, .advance 1 0]

theorem checkoutRun_once :
    ∃ s, Run (StepOf (System.step demoReaders)) checkoutSystem checkoutRun s ∧
      lotsOf s.database "evt_1" = [stripeLot 100 "evt_1" ⟨7, 300⟩ 0] ∧
      (∀ id, ExactlyOnce s.database id) ∧
      ∀ step s', s.step demoReaders step = some s' →
        ∀ event ∈ s.database.stripeEvents.rows, event.status = .processed →
          Frozen s.database s'.database event := by
  have hsettled : Settled checkoutSystem.database := by
    refine settled_of_received List.nodup_nil List.nodup_nil ?_ nofun nofun
    intro event hevent
    obtain rfl := List.mem_singleton.1 hevent
    decide
  have hrun : Run (StepOf (System.step demoReaders)) checkoutSystem checkoutRun _ :=
    run_of_runList rfl
  exact ⟨_, hrun, rfl, process_exactly_once rfl hsettled hrun⟩

end RcOnline.Worker
