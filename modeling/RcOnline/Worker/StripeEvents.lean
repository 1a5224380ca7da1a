import RcOnline.Api.Webhook
import RcOnline.Lib.OrdMap

/-!
# Processing Stripe events

`StripeEventsWorker.process` (`apps/worker/src/stripe-events.worker.ts`), one statement at a time.
Every call is a transaction with its own pending writes: other transactions wait for its row lock
and for its pending unique values, and see its writes once it commits. A call may be made for any
job, any number of times, and may be lost before each of its statements.
-/

namespace RcOnline.Worker

open RcOnline.Lib RcOnline.Billing RcOnline.Api

/-! ## What a payment is worth -/

/-- How the host reads a number, and the database a uuid. -/
structure Readers where
  /-- `Number(text)`. -/
  toNumber : String → Number
  /-- A text as a value of type `uuid`; none when the statement fails on it. -/
  uuid? : String → Option Uuid

/-- The event types that credit a wallet. -/
def isCrediting (eventType : String) : Bool :=
  eventType = "checkout.session.completed" || eventType = "invoice.paid"

/-- `value[name]` when it is an object (an array counts as one), else `{}`. -/
def objectField (value : Json) (name : String) : Json :=
  match value.field? name with
  | some (.object fields) => .object fields
  | some (.array items) => .array items
  | _ => .object []

/-- `payload.data.object.metadata`. -/
def payloadMetadata (payload : Json) : Json :=
  objectField (objectField (objectField payload "data") "object") "metadata"

def payloadUserId (metadata : Json) : String :=
  match metadata.field? "user_id" with
  | some (.string userId) => userId
  | _ => "20000000-0000-4000-8000-000000000001"

def secondsRaw (readers : Readers) (metadata : Json) : Number :=
  match metadata.field? "seconds" with
  | some (.string text) => readers.toNumber text
  | some (.number x) => x
  | _ => .ofInt 300

def payloadSeconds (readers : Readers) (metadata : Json) : Int :=
  match (secondsRaw readers metadata).safeInteger? with
  | some n => if 0 < n then n else 300
  | none => 300

/-- The wallet and the seconds that an event is credited with. -/
structure Credit where
  walletId : Uuid
  seconds : Int
  deriving DecidableEq

/-- The credit of a payload; none when the call throws: a payload without fields to read, a user id
that is no uuid, or a user without a wallet. -/
def creditOf (readers : Readers) (wallets : Table Wallet) (payload : Json) : Option Credit :=
  match payload with
  | .null => none
  | payload =>
    let metadata := payloadMetadata payload
    (readers.uuid? (payloadUserId metadata)).bind fun userId =>
      (wallets.rows.find? (·.userId = userId)).map fun wallet =>
        { walletId := wallet.id, seconds := payloadSeconds readers metadata }

/-! ## The rows of one event -/

/-- The largest value of an `integer` column. -/
def maxInteger : Int := 2147483647

/-- `now() + interval '90 days'`, in milliseconds. -/
def lotExpiry (now : Int) : Int := now + 90 * 24 * 60 * 60 * 1000

def creditKey (stripeEventId : String) : String := "stripe:" ++ stripeEventId ++ ":credit"

def stripeLot (id : Uuid) (stripeEventId : String) (credit : Credit) (now : Int) : WalletLot :=
  { id, walletId := credit.walletId, sourceType := "stripe", sourceId := stripeEventId,
    grantedSeconds := credit.seconds, expiresAt := some (lotExpiry now) }

def stripeEntry (id : Uuid) (stripeEventId : String) (credit : Credit) (lotId : Uuid) :
    LedgerEntry :=
  { id, walletId := credit.walletId, lotId := some lotId, kind := "purchase",
    seconds := credit.seconds, idempotencyKey := creditKey stripeEventId,
    reason := "Stripe payment settled", metadata := [("stripeEventId", stripeEventId)] }

def processedRow (event : StripeEvent) (now : Int) : StripeEvent :=
  { event with
    status := .processed, processedAt := some now, attempts := event.attempts + 1,
    lastError := none }

def processedAudit (event : StripeEvent) : AuditEvent :=
  { actorType := "system", action := "stripe_event_processed", targetType := "stripe_event",
    targetId := event.stripeEventId, reason := "Asynchronous verified webhook processing",
    metadata := [("eventType", event.eventType)] }

/-- `source_type = 'stripe' and source_id = …`. -/
def isLotOf (stripeEventId : String) (lot : WalletLot) : Bool :=
  lot.sourceType = "stripe" && lot.sourceId = stripeEventId

/-- Two lots that the unique constraints do not let stand together. -/
def lotsClash (lot other : WalletLot) : Bool :=
  other.id = lot.id || (other.sourceType = lot.sourceType && other.sourceId = lot.sourceId)

def entriesClash (entry other : LedgerEntry) : Bool :=
  other.id = entry.id || other.idempotencyKey = entry.idempotencyKey

/-! ## A call -/

/-- The statement that a call does next. -/
inductive Stage where
  /-- `select … from stripe_events … for update`. -/
  | begun
  /-- The event is read; its wallet is looked up next, if it credits one. -/
  | fetched (event : StripeEvent)
  /-- `insert into wallet_lots`. -/
  | priced (event : StripeEvent) (credit : Credit)
  /-- `insert into ledger_entries`. -/
  | granted (event : StripeEvent) (credit : Credit)
  /-- `update stripe_events`. -/
  | credited (event : StripeEvent)
  /-- `insert into audit_events`. -/
  | marked (event : StripeEvent)
  /-- The commit of a processed event. -/
  | audited (event : StripeEvent)
  /-- The commit of a call that returned early. -/
  | skipped

/-- A call in progress, with its row lock and its pending writes. -/
structure Transaction where
  stripeEventId : String
  now : Int
  stage : Stage
  locked : Bool
  lot : Option WalletLot
  entry : Option LedgerEntry
  event : Option StripeEvent
  audit : Option AuditEvent

/-- `sql.begin`. -/
def Transaction.begin (job : StripeJob) (now : Int) : Transaction :=
  { stripeEventId := job.stripeEventId, now, stage := .begun, locked := false, lot := none,
    entry := none, event := none, audit := none }

/-- How a statement ends. -/
inductive Outcome where
  | waits
  | throws
  | proceeds (tx : Transaction)

section statements

variable (readers : Readers) (db : Database) (others : List Transaction) (tx : Transaction)

def fetch : Outcome :=
  if others.any fun other => other.locked && other.stripeEventId = tx.stripeEventId then .waits
  else
    match db.stripeEvents.get? tx.stripeEventId with
    | none => .proceeds { tx with stage := .skipped }
    | some event =>
      if event.status = .processed then .proceeds { tx with locked := true, stage := .skipped }
      else .proceeds { tx with locked := true, stage := .fetched event }

def price (event : StripeEvent) : Outcome :=
  if isCrediting event.eventType then
    match creditOf readers db.wallets event.payload with
    | none => .throws
    | some credit => .proceeds { tx with stage := .priced event credit }
  else .proceeds { tx with stage := .credited event }

/-- `on conflict (source_type, source_id) do nothing`; a taken id throws. -/
def insertLot (event : StripeEvent) (credit : Credit) (id : Uuid) : Outcome :=
  let lot := stripeLot id event.stripeEventId credit tx.now
  if maxInteger < credit.seconds then .throws
  else if others.any fun other => other.lot.any (lotsClash lot) then .waits
  else if db.walletLots.rows.any (isLotOf event.stripeEventId) then
    .proceeds { tx with stage := .granted event credit }
  else if db.walletLots.rows.any (lotsClash lot) then .throws
  else .proceeds { tx with lot := some lot, stage := .granted event credit }

/-- `on conflict (idempotency_key) do nothing`; the lot is read among the committed ones and the
call's own. -/
def insertEntry (event : StripeEvent) (credit : Credit) (id : Uuid) : Outcome :=
  match (db.walletLots.rows ++ tx.lot.toList).find? (isLotOf event.stripeEventId) with
  | none => .proceeds { tx with stage := .credited event }
  | some lot =>
    let entry := stripeEntry id event.stripeEventId credit lot.id
    if others.any fun other => other.entry.any (entriesClash entry) then .waits
    else if db.ledgerEntries.rows.any (·.idempotencyKey = creditKey event.stripeEventId) then
      .proceeds { tx with stage := .credited event }
    else if db.ledgerEntries.rows.any (entriesClash entry) then .throws
    else .proceeds { tx with entry := some entry, stage := .credited event }

def updateEvent (event : StripeEvent) : Outcome :=
  if maxInteger ≤ event.attempts then .throws
  else .proceeds { tx with event := some (processedRow event tx.now), stage := .marked event }

def insertAudit (event : StripeEvent) : Outcome :=
  .proceeds { tx with audit := some (processedAudit event), stage := .audited event }

end statements

/-- A pending row goes into its table. -/
def insertPending {α κ : Type} [Row α κ] [DecidableEq κ] (clash : α → α → Bool) (rows : Table α) :
    Option α → Option (Table α)
  | none => some rows
  | some row => rows.insert? (clash row) row

/-- The pending writes go in. The waits and checks before leave nothing to refuse here. -/
def Transaction.commit (tx : Transaction) (db : Database) : Option Database := do
  let walletLots ← insertPending lotsClash db.walletLots tx.lot
  let ledgerEntries ← insertPending entriesClash db.ledgerEntries tx.entry
  some
    { db with
      walletLots, ledgerEntries
      stripeEvents := db.stripeEvents.replace tx.event.toList
      auditEvents := db.auditEvents ++ tx.audit.toList }

/-! ## The system -/

/-- The database, the webhook's jobs and deliveries, and the calls in progress. -/
structure System where
  database : Database
  jobs : List StripeJob
  deliveries : List (Delivery × DeliveryState)
  transactions : OrdMap Nat Transaction

inductive SystemStep where
  | webhook (step : WebhookStep)
  | begin (number : Nat) (job : StripeJob) (now : Int)
  /-- The next statement of a call; `id` is the uuid it draws, if it draws one. -/
  | advance (number : Nat) (id : Uuid)
  /-- The process or the connection is lost. -/
  | abort (number : Nat)

/-- The event that a step brings in. -/
def SystemStep.incoming : SystemStep → Option IncomingEvent
  | .webhook (.insert delivery _) => some delivery.event
  | _ => none

namespace System

def webhook (s : System) : Webhook :=
  { stripeEvents := s.database.stripeEvents, jobs := s.jobs, deliveries := s.deliveries }

def withWebhook (s : System) (w : Webhook) : System :=
  { s with
    database := { s.database with stripeEvents := w.stripeEvents }
    jobs := w.jobs
    deliveries := w.deliveries }

def others (s : System) (number : Nat) : List Transaction :=
  (s.transactions.delete number).entries.map Prod.snd

/-- The next statement of a call; none when its next step is the commit. -/
def statement (readers : Readers) (s : System) (number : Nat) (tx : Transaction) (id : Uuid) :
    Option Outcome :=
  match tx.stage with
  | .begun => some (fetch s.database (s.others number) tx)
  | .fetched event => some (price readers s.database tx event)
  | .priced event credit => some (insertLot s.database (s.others number) tx event credit id)
  | .granted event credit => some (insertEntry s.database (s.others number) tx event credit id)
  | .credited event => some (updateEvent tx event)
  | .marked event => some (insertAudit tx event)
  | .audited _ => none
  | .skipped => none

/-- A call's next step; none while it waits. -/
def advance (readers : Readers) (s : System) (number : Nat) (tx : Transaction) (id : Uuid) :
    Option System :=
  match s.statement readers number tx id with
  | some .waits => none
  | some .throws => some { s with transactions := s.transactions.delete number }
  | some (.proceeds tx') => some { s with transactions := s.transactions.set number tx' }
  | none =>
    (tx.commit s.database).map fun database =>
      { s with database, transactions := s.transactions.delete number }

def step (readers : Readers) (s : System) : SystemStep → Option System
  | .webhook step => (s.webhook.step step).map s.withWebhook
  | .begin number job now =>
    if s.transactions.has number then none
    else some { s with transactions := s.transactions.set number (.begin job now) }
  | .advance number id =>
    match s.transactions.get? number with
    | none => none
    | some tx => s.advance readers number tx id
  | .abort number => some { s with transactions := s.transactions.delete number }

end System

end RcOnline.Worker
