import RcOnline.Api.Checkout
import RcOnline.Worker.StripeEventsOnce

/-!
# What a purchase is credited with

A Checkout session, the events that Stripe sends for it, the webhook and the worker together. The
worker reads `metadata.seconds`, which `createCheckout` never writes, so the completed session
credits 300 seconds whatever the price grants; and a subscription is credited for the completed
session beside every invoice. `createCheckout_credited_iff` says that nothing else comes out right:
the buyer gets what was paid for exactly when a one-time price of 300 seconds was bought.
-/

namespace RcOnline.Worker

open RcOnline.Lib RcOnline.Billing RcOnline.Api

/-! ## Purchases -/

/-- Stripe's sessions: creating one, and the parameters that it keeps under a session's id. -/
structure Stripe where
  create : CheckoutParams → String → Except String StripeSession
  paramsOf : String → CheckoutParams
  keeps : ∀ params key session, create params key = .ok session → paramsOf session.id = params

/-- Metadata as it comes back in an event. -/
def metadataJson (metadata : List (String × String)) : Json :=
  .object (metadata.map fun field => (field.1, .string field.2))

/-- A purchase made through `createCheckout`, with the events that Stripe sends for it: the
completed session, which echoes the session's parameters, and the paid invoices, which need not. -/
structure Purchase where
  stripe : Stripe
  env : BillingEnvironment
  suffix : String
  input : CheckoutInput
  response : CheckoutResponse
  bought : createCheckout env suffix stripe.create input = .ok response
  provider : response.provider = "stripe"
  /-- `prices.seconds` of the price. -/
  seconds : Int
  completed : IncomingEvent
  completed_type : completed.type = "checkout.session.completed"
  data : Json
  data_field : completed.json.field? "data" = some data
  object : Json
  object_field : data.field? "object" = some object
  client_reference_id : object.field? "client_reference_id" =
    some (.string (stripe.paramsOf response.providerSessionId).clientReferenceId)
  metadata : object.field? "metadata" =
    some (metadataJson (stripe.paramsOf response.providerSessionId).metadata)
  invoices : List IncomingEvent
  invoices_type : ∀ event ∈ invoices, event.type = "invoice.paid"

namespace Purchase

/-- All events of the purchase; a one-time payment has no invoices. -/
def events (p : Purchase) : List IncomingEvent :=
  match p.input.kind with
  | .oneTime => [p.completed]
  | .subscription => p.completed :: p.invoices

/-- How often the price is paid. -/
def periods (p : Purchase) : Nat :=
  match p.input.kind with
  | .oneTime => 1
  | .subscription => p.invoices.length

/-- The ledger entries of the purchase's events. -/
def entryCredits (p : Purchase) (db : Database) : List Credit :=
  (p.events.flatMap fun event => entriesOf db event.id).map fun entry =>
    { walletId := entry.walletId, seconds := entry.seconds }

/-- The lots of the purchase's events. -/
def lotCredits (p : Purchase) (db : Database) : List Credit :=
  (p.events.flatMap fun event => lotsOf db event.id).map fun lot =>
    { walletId := lot.walletId, seconds := lot.grantedSeconds }

end Purchase

/-- The purchase's events credited the buyer's wallet with the price's seconds, once for each time
that it was paid, and nobody else's. -/
def CreditedAsPaid (readers : Readers) (p : Purchase) (db : Database) : Prop :=
  ∃ wallet ∈ db.wallets.rows, readers.uuid? p.input.userId = some wallet.userId ∧
    p.entryCredits db = List.replicate p.periods ⟨wallet.id, p.seconds⟩ ∧
    p.lotCredits db = List.replicate p.periods ⟨wallet.id, p.seconds⟩

/-! ## What the completed session is worth -/

theorem objectField_of_field {value inner next : Json} {name name' : String}
    (h : value.field? name = some inner) (h' : inner.field? name' = some next) :
    objectField value name = inner := by
  unfold objectField
  rw [h]
  cases inner with
  | object fields => rfl
  | array items => rfl
  | null => cases h'
  | bool b => cases h'
  | number x => cases h'
  | string s => cases h'

/-- A paid session was created with the parameters of `checkoutParams`. -/
theorem params_of_bought {stripe : Stripe} {env : BillingEnvironment} {suffix : String}
    {input : CheckoutInput} {response : CheckoutResponse}
    (h : createCheckout env suffix stripe.create input = .ok response)
    (hprovider : response.provider = "stripe") :
    stripe.paramsOf response.providerSessionId = checkoutParams env suffix input := by
  unfold createCheckout at h
  split at h
  · obtain rfl := Except.ok.inj h
    simp at hprovider
  split at h
  · cases h
  split at h
  · cases h
  next session hsession =>
  split at h
  · cases h
  · obtain rfl := Except.ok.inj h
    exact stripe.keeps _ _ session hsession

/-- The credit of any event is that of its payload's metadata. -/
theorem creditOf_eq {readers : Readers} {wallets : Table Wallet} {payload : Json} {credit : Credit}
    (h : creditOf readers wallets payload = some credit) :
    ∃ wallet ∈ wallets.rows,
      readers.uuid? (payloadUserId (payloadMetadata payload)) = some wallet.userId ∧
      credit = ⟨wallet.id, payloadSeconds readers (payloadMetadata payload)⟩ := by
  unfold creditOf at h
  split at h
  · cases h
  · obtain ⟨userId, huser, h⟩ := Option.bind_eq_some_iff.1 h
    obtain ⟨wallet, hwallet, rfl⟩ := Option.map_eq_some_iff.1 h
    have hid : wallet.userId = userId := by simpa using List.find?_some hwallet
    exact ⟨wallet, List.mem_of_find?_eq_some hwallet, hid ▸ huser, rfl⟩

theorem Purchase.payloadMetadata_completed (p : Purchase) :
    payloadMetadata p.completed.json =
      metadataJson [("user_id", p.input.userId), ("idempotency_key", p.input.idempotencyKey)] := by
  have hmetadata := p.metadata
  rw [params_of_bought p.bought p.provider] at hmetadata
  unfold payloadMetadata
  rw [objectField_of_field p.data_field p.object_field,
    objectField_of_field p.object_field hmetadata]
  unfold objectField
  rw [hmetadata]
  rfl

/-- The completed session credits the buyer, always with 300 seconds. -/
theorem Purchase.credit_completed {readers : Readers} {wallets : Table Wallet} {credit : Credit}
    (p : Purchase) (h : creditOf readers wallets p.completed.json = some credit) :
    ∃ wallet ∈ wallets.rows, readers.uuid? p.input.userId = some wallet.userId ∧
      credit = ⟨wallet.id, 300⟩ := by
  obtain ⟨wallet, hwallet, huser, rfl⟩ := creditOf_eq h
  rw [p.payloadMetadata_completed] at huser
  refine ⟨wallet, hwallet, huser, ?_⟩
  rw [p.payloadMetadata_completed]
  rfl

/-! ## What the purchase's events leave behind -/

/-- The rows under an event's id carry it, and a processed one has the lot and the entry of its
payload's credit. -/
structure CarriedOut (readers : Readers) (event : IncomingEvent) (db : Database) : Prop where
  carried : ∀ row ∈ db.stripeEvents.rows, row.stripeEventId = event.id →
    row.payload = event.json ∧ row.eventType = event.type
  credited : ∀ row ∈ db.stripeEvents.rows, row.stripeEventId = event.id →
    row.status = .processed → isCrediting row.eventType = true →
    ∃ credit, creditOf readers db.wallets row.payload = some credit ∧
      (∃ lot ∈ lotsOf db event.id, lot.walletId = credit.walletId ∧
        lot.grantedSeconds = credit.seconds) ∧
      ∃ entry ∈ entriesOf db event.id, entry.walletId = credit.walletId ∧
        entry.seconds = credit.seconds

section moves

variable {readers : Readers} {incoming : Option IncomingEvent} {db db' : Database}
  {event : IncomingEvent}

theorem CarriedOut.processed {row : StripeEvent} (h : CarriedOut readers event db)
    (hprocesses : Processes readers db db' row) : CarriedOut readers event db' := by
  obtain ⟨now, lot, entry, hwrites, -, -, hevents, hlots, hentries⟩ := hprocesses.writes
  have hlot : ∀ l, l ∈ lotsOf db event.id ∨ (l ∈ lot ∧ isLotOf event.id l = true) →
      l ∈ lotsOf db' event.id := by
    intro l hl
    unfold lotsOf Table.select
    rw [hlots, List.filter_append]
    rcases hl with hl | ⟨hl, hid⟩
    · exact List.mem_append_left _ hl
    · exact List.mem_append_right _ (List.mem_filter.2 ⟨Option.mem_toList.2 hl, hid⟩)
  have hentry : ∀ e, e ∈ entriesOf db event.id ∨
      (e ∈ entry ∧ e.idempotencyKey = creditKey event.id) → e ∈ entriesOf db' event.id := by
    intro e he
    unfold entriesOf Table.select
    rw [hentries, List.filter_append]
    rcases he with he | ⟨he, hkey⟩
    · exact List.mem_append_left _ he
    · exact List.mem_append_right _
        (List.mem_filter.2 ⟨Option.mem_toList.2 he, decide_eq_true hkey⟩)
  constructor
  case carried =>
    intro other hother hid
    rw [hevents] at hother
    rcases (mem_processed hprocesses.mem).1 hother with rfl | ⟨hother, -⟩
    · exact h.carried row hprocesses.mem hid
    · exact h.carried other hother hid
  case credited =>
    intro other hother hid hprocessed hcrediting
    rw [hprocesses.wallets]
    rw [hevents] at hother
    rcases (mem_processed hprocesses.mem).1 hother with rfl | ⟨hother, -⟩
    · cases hwrites with
      | credit _ hcredit =>
        refine ⟨_, hcredit, ⟨_, hlot _ (.inr ⟨rfl, isLotOf_iff.2 ?_⟩), rfl, rfl⟩, _,
          hentry _ (.inr ⟨rfl, ?_⟩), rfl, rfl⟩
        · exact congrArg (Prod.mk "stripe") hid
        · exact congrArg creditKey hid
      | nothing hno => exact absurd hcrediting (Bool.eq_false_iff.1 hno)
    · obtain ⟨credit, hcredit, ⟨l, hl, hlot'⟩, e, he, hentry'⟩ :=
        h.credited other hother hid hprocessed hcrediting
      exact ⟨credit, hcredit, ⟨l, hlot l (.inl hl), hlot'⟩, e, hentry e (.inl he), hentry'⟩

theorem CarriedOut.move (h : CarriedOut readers event db)
    (hincoming : ∀ new ∈ incoming, new.id = event.id → new = event)
    (hmove : Move readers incoming db db') : CarriedOut readers event db' := by
  cases hmove with
  | same => exact h
  | processed hprocesses => exact h.processed hprocesses
  | received hnew hinsert =>
    constructor
    case carried =>
      intro row hrow hid
      rcases (mem_received hinsert).1 hrow with hrow | rfl
      · exact h.carried row hrow hid
      · obtain rfl := hincoming _ hnew hid
        exact ⟨rfl, rfl⟩
    case credited =>
      intro row hrow hid hprocessed
      rcases (mem_received hinsert).1 hrow with hrow | rfl
      · exact h.credited row hrow hid hprocessed
      · cases hprocessed

end moves

/-- Every event of a purchase is of a type that credits. -/
theorem Purchase.isCrediting_type {p : Purchase} {event : IncomingEvent} (h : event ∈ p.events) :
    isCrediting event.type = true := by
  have htype : event.type = "checkout.session.completed" ∨ event.type = "invoice.paid" := by
    unfold Purchase.events at h
    split at h
    · obtain rfl := List.mem_singleton.1 h
      exact .inl p.completed_type
    · rcases List.mem_cons.1 h with rfl | h
      · exact .inl p.completed_type
      · exact .inr (p.invoices_type event h)
  rcases htype with htype | htype <;> simp [isCrediting, htype]

theorem eq_singleton_of_mem {α : Type*} {l : List α} {a : α} (h : a ∈ l) (hlen : l.length ≤ 1) :
    l = [a] := by
  obtain ⟨b, rfl⟩ := List.length_eq_one_iff.1 (le_antisymm hlen (List.length_pos_of_mem h))
  rw [List.mem_singleton.1 h]

/-- A processed event of a purchase has one lot and one entry, those of its payload's credit. -/
theorem CarriedOut.singletons {readers : Readers} {db : Database} {event : IncomingEvent}
    (h : CarriedOut readers event db) (hs : Settled db) (hcrediting : isCrediting event.type = true)
    (hprocessed : ∃ row ∈ db.stripeEvents.rows, row.stripeEventId = event.id ∧
      row.status = .processed) :
    ∃ credit, creditOf readers db.wallets event.json = some credit ∧
      (lotsOf db event.id).map (fun lot => ⟨lot.walletId, lot.grantedSeconds⟩) = [credit] ∧
      (entriesOf db event.id).map (fun entry => ⟨entry.walletId, entry.seconds⟩) = [credit] := by
  obtain ⟨row, hrow, hid, hprocessed⟩ := hprocessed
  obtain ⟨hpayload, htype⟩ := h.carried row hrow hid
  obtain ⟨credit, hcredit, ⟨lot, hlot, hlw, hls⟩, entry, hentry, hew, hes⟩ :=
    h.credited row hrow hid hprocessed (htype ▸ hcrediting)
  refine ⟨credit, hpayload ▸ hcredit, ?_, ?_⟩
  · rw [eq_singleton_of_mem hlot (hs.exactlyOnce event.id).lots, List.map_singleton, hlw, hls]
  · rw [eq_singleton_of_mem hentry (hs.exactlyOnce event.id).entries, List.map_singleton, hew, hes]

/-! ## The whole purchase -/

/-- In a run that starts before the event is known, its rows carry it. -/
theorem carriedOut_of_run {readers : Readers} {event : IncomingEvent} {start s : System}
    {steps : List SystemStep} (hstart : start.transactions = ∅) (hsettled : Settled start.database)
    (hnew : ∀ row ∈ start.database.stripeEvents.rows, row.stripeEventId ≠ event.id)
    (hdelivered : ∀ step ∈ steps, ∀ new ∈ step.incoming, new.id = event.id → new = event)
    (hrun : Run (StepOf (System.step readers)) start steps s) :
    s.Good readers ∧ CarriedOut readers event s.database := by
  refine hrun.invariant_of_mem
    (I := fun s => s.Good readers ∧ CarriedOut readers event s.database) ?_ ?_
  · refine ⟨System.good_of_run hstart hsettled .nil, fun row hrow hid => ?_,
      fun row hrow hid => ?_⟩
    · exact absurd hid (hnew row hrow)
    · exact absurd hid (hnew row hrow)
  · rintro s t step hstep ⟨hgood, hcarried⟩ hs
    obtain ⟨hgood', hmove⟩ := System.step_good hgood hs
    exact ⟨hgood', hcarried.move (hdelivered step hstep) hmove⟩

/-- A purchase has one entry for each of its events. -/
theorem Purchase.length_entryCredits {p : Purchase} {db : Database}
    (h : ∀ event ∈ p.events, (entriesOf db event.id).length = 1) :
    (p.entryCredits db).length = p.events.length := by
  unfold Purchase.entryCredits
  rw [List.length_map, List.length_flatMap, List.map_congr_left h]
  simp

/-- **Main result.** Let all events of a purchase, none of them known before, be delivered in any
order and number and be processed in the end. Then the buyer was credited with what was paid for,
and nobody else, exactly when a one-time price of 300 seconds was bought. -/
theorem createCheckout_credited_iff {readers : Readers} (p : Purchase) {start s : System}
    {steps : List SystemStep} (hstart : start.transactions = ∅) (hsettled : Settled start.database)
    (hnew : ∀ event ∈ p.events, ∀ row ∈ start.database.stripeEvents.rows,
      row.stripeEventId ≠ event.id)
    (hdelivered : ∀ step ∈ steps, ∀ new ∈ step.incoming, ∀ event ∈ p.events,
      new.id = event.id → new = event)
    (hrun : Run (StepOf (System.step readers)) start steps s)
    (hprocessed : ∀ event ∈ p.events, ∃ row ∈ s.database.stripeEvents.rows,
      row.stripeEventId = event.id ∧ row.status = .processed) :
    CreditedAsPaid readers p s.database ↔ p.input.kind = .oneTime ∧ p.seconds = 300 := by
  have hcredit : ∀ event ∈ p.events, ∃ credit,
      creditOf readers s.database.wallets event.json = some credit ∧
      (lotsOf s.database event.id).map (fun lot => ⟨lot.walletId, lot.grantedSeconds⟩) = [credit] ∧
      (entriesOf s.database event.id).map (fun entry => ⟨entry.walletId, entry.seconds⟩) =
        [credit] := by
    intro event hevent
    obtain ⟨hgood, hcarried⟩ := carriedOut_of_run hstart hsettled (hnew event hevent)
      (fun step hstep new hnew' => hdelivered step hstep new hnew' event hevent) hrun
    exact hcarried.singletons hgood.settled (Purchase.isCrediting_type hevent)
      (hprocessed event hevent)
  cases hkind : p.input.kind with
  | oneTime =>
    have hevents : p.events = [p.completed] := by simp [Purchase.events, hkind]
    obtain ⟨credit, hcompleted, hlots, hentries⟩ := hcredit p.completed (by simp [hevents])
    obtain ⟨wallet, hwallet, huser, rfl⟩ := p.credit_completed hcompleted
    unfold CreditedAsPaid Purchase.entryCredits Purchase.lotCredits Purchase.periods
    simp only [hevents, hkind, List.flatMap_singleton, hlots, hentries, List.replicate_one,
      List.singleton_inj, Credit.mk.injEq, true_and]
    constructor
    · rintro ⟨-, -, -, ⟨-, hseconds⟩, -⟩
      exact hseconds.symm
    · intro hseconds
      exact ⟨wallet, hwallet, huser, ⟨rfl, hseconds.symm⟩, rfl, hseconds.symm⟩
  | subscription =>
    -- the completed session is one credit too many
    refine ⟨?_, fun h => nomatch h.1⟩
    rintro ⟨wallet, -, -, hentries, -⟩
    have hlength : (p.entryCredits s.database).length = p.events.length := by
      refine p.length_entryCredits fun event hevent => ?_
      obtain ⟨credit, -, -, hentry⟩ := hcredit event hevent
      simpa using congrArg List.length hentry
    rw [hentries, List.length_replicate] at hlength
    simp [Purchase.periods, Purchase.events, hkind] at hlength

/-! ## One purchase -/

def demoInput : CheckoutInput :=
  { userId := demoUserId, priceId := "price_1", kind := .oneTime, idempotencyKey := "key-0001" }

def demoEnvironment : BillingEnvironment :=
  { paymentProvider := some "stripe", stripeRestrictedKey := some "rk_1", appOrigin := none }

def demoParams : CheckoutParams := checkoutParams demoEnvironment "00000000" demoInput

/-- Stripe, as far as one session goes. -/
def demoStripe : Stripe where
  create params _ :=
    if params = demoParams then .ok { id := "cs_1", url := some "https://checkout.stripe.com/cs_1" }
    else .error "unexpected parameters"
  paramsOf _ := demoParams
  keeps := by
    intro params key session h
    split at h
    · next heq => exact heq.symm
    · cases h

def demoObject : Json :=
  .object [("client_reference_id", .string demoUserId),
    ("metadata", metadataJson demoParams.metadata)]

def demoCompleted : IncomingEvent :=
  { id := "evt_1", type := "checkout.session.completed", livemode := true, apiVersion := none,
    json := .object [("id", .string "evt_1"), ("data", .object [("object", demoObject)])] }

/-- A one-time purchase of a price that grants the seconds. -/
def demoPurchase (seconds : Int) : Purchase where
  stripe := demoStripe
  env := demoEnvironment
  suffix := "00000000"
  input := demoInput
  response :=
    { provider := "stripe", providerSessionId := "cs_1", url := "https://checkout.stripe.com/cs_1" }
  bought := rfl
  provider := rfl
  seconds := seconds
  completed := demoCompleted
  completed_type := rfl
  data := .object [("object", demoObject)]
  data_field := rfl
  object := demoObject
  object_field := rfl
  client_reference_id := rfl
  metadata := rfl
  invoices := []
  invoices_type := nofun

/-- The buyer has a wallet, and nothing has happened yet. -/
def demoStart : System where
  database :=
    { stripeEvents := .empty, wallets := demoWallets, walletLots := .empty, ledgerEntries := .empty
      auditEvents := [] }
  jobs := []
  deliveries := []
  transactions := ∅

/-- The event is delivered and its job runs. -/
def demoRun : List SystemStep :=
  [.webhook (.insert ⟨0, demoCompleted⟩ .done), .webhook (.add 0 .done),
    .begin 0 { stripeEventId := "evt_1", eventType := "checkout.session.completed" } 0,
    .advance 0 0, .advance 0 0, .advance 0 100, .advance 0 200, .advance 0 0, .advance 0 0,
    .advance 0 0]

/-- What the run leaves behind. -/
def demoEnd : System where
  database :=
    { stripeEvents := ⟨[processedRow (receivedRow demoCompleted) 0], List.nodup_singleton _⟩
      wallets := demoWallets
      walletLots := ⟨[stripeLot 100 "evt_1" ⟨7, 300⟩ 0], List.nodup_singleton _⟩
      ledgerEntries := ⟨[stripeEntry 200 "evt_1" ⟨7, 300⟩ 100], List.nodup_singleton _⟩
      auditEvents := [processedAudit (receivedRow demoCompleted)] }
  jobs := [{ stripeEventId := "evt_1", eventType := "checkout.session.completed" }]
  deliveries := [(⟨0, demoCompleted⟩, .answered .accepted)]
  transactions := ∅

theorem demoRun_demoEnd : Run (StepOf (System.step demoReaders)) demoStart demoRun demoEnd :=
  run_of_runList rfl

theorem demoEnd_processed {seconds : Int} : ∀ event ∈ (demoPurchase seconds).events,
    ∃ row ∈ demoEnd.database.stripeEvents.rows,
      row.stripeEventId = event.id ∧ row.status = .processed := by
  intro event hevent
  obtain rfl := List.mem_singleton.1 hevent
  exact ⟨_, List.mem_singleton_self _, rfl, rfl⟩

/-- Ten minutes are paid for and five are credited. -/
theorem demoRun_short :
    Run (StepOf (System.step demoReaders)) demoStart demoRun demoEnd ∧
      (∀ event ∈ (demoPurchase 600).events, ∃ row ∈ demoEnd.database.stripeEvents.rows,
        row.stripeEventId = event.id ∧ row.status = .processed) ∧
      (demoPurchase 600).entryCredits demoEnd.database = [⟨7, 300⟩] ∧
      ¬ CreditedAsPaid demoReaders (demoPurchase 600) demoEnd.database := by
  refine ⟨demoRun_demoEnd, demoEnd_processed, rfl, ?_⟩
  rintro ⟨wallet, -, -, hentries, -⟩
  have hcredit : (⟨7, 300⟩ : Credit) = ⟨wallet.id, 600⟩ := List.singleton_inj.1 hentries
  simp at hcredit

theorem demoRun_credited :
    CreditedAsPaid demoReaders (demoPurchase 300) demoEnd.database ↔
      (demoPurchase 300).input.kind = .oneTime ∧ (demoPurchase 300).seconds = 300 := by
  have hsettled : Settled demoStart.database :=
    settled_of_received List.nodup_nil List.nodup_nil nofun nofun nofun
  have hdelivered : ∀ step ∈ demoRun, ∀ new ∈ step.incoming,
      ∀ event ∈ (demoPurchase 300).events, new.id = event.id → new = event := by
    intro step hstep new hnew event hevent hid
    obtain rfl := List.mem_singleton.1 hevent
    simp only [demoRun, List.mem_cons, List.not_mem_nil, or_false] at hstep
    rcases hstep with rfl | rfl | rfl | rfl | rfl | rfl | rfl | rfl | rfl | rfl <;> cases hnew
    rfl
  exact createCheckout_credited_iff (demoPurchase 300) rfl hsettled
    (fun _ _ row hrow => nomatch hrow) hdelivered demoRun_demoEnd demoEnd_processed

end RcOnline.Worker
