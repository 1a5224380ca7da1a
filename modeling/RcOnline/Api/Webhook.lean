import RcOnline.Database.Billing
import RcOnline.Lib.Steps

/-!
# Receiving Stripe events

`StripeWebhookService.persistAndEnqueue` (`apps/api/src/billing/stripe-webhook.service.ts`): a
delivery inserts the event's row and then adds a job for it. Deliveries run side by side, either
effect may fail with or without having been applied, and the process may crash between them.
-/

namespace RcOnline.Api

open RcOnline.Lib RcOnline.Billing

/-- The event that a delivery carries; `json` is the whole event. -/
structure IncomingEvent where
  id : String
  type : String
  livemode : Bool
  apiVersion : Option String
  json : Json

/-- One request of Stripe to the webhook. -/
structure Delivery where
  number : Nat
  event : IncomingEvent

inductive Answer where
  | accepted
  | duplicate
  deriving DecidableEq

/-- Where a delivery is: before `queue.add`, answered, or failed (thrown, or lost in a crash). -/
inductive DeliveryState where
  | adding
  | answered (answer : Answer)
  | failed
  deriving DecidableEq

/-- How an effect outside the process ends: its promise resolves, or rejects with the effect
applied or not. -/
inductive Effect where
  | done
  | failed (applied : Bool)
  deriving DecidableEq

def Effect.applied : Effect → Bool
  | .done => true
  | .failed applied => applied

/-- A job of the `stripe-events` queue; its id is the event's. -/
structure StripeJob where
  stripeEventId : String
  eventType : String
  deriving DecidableEq

structure Webhook where
  stripeEvents : Table StripeEvent
  jobs : List StripeJob
  deliveries : List (Delivery × DeliveryState)

/-- The row that an event is inserted as. -/
def receivedRow (event : IncomingEvent) : StripeEvent :=
  { stripeEventId := event.id, eventType := event.type, livemode := event.livemode,
    apiVersion := event.apiVersion, payload := event.json, status := .received, attempts := 0,
    processedAt := none, lastError := none }

/-- `insert into stripe_events … on conflict (stripe_event_id) do nothing`. -/
def insertEvent (event : IncomingEvent) (stripeEvents : Table StripeEvent) :
    Option (Table StripeEvent) :=
  stripeEvents.insert? (fun _ => false) (receivedRow event)

/-- `queue.add` under the event's id: a job that is there already stays. -/
def addJob (event : IncomingEvent) (jobs : List StripeJob) : List StripeJob :=
  if jobs.any (·.stripeEventId = event.id) then jobs
  else jobs ++ [{ stripeEventId := event.id, eventType := event.type }]

/-- What a delivery does next; after its insert it goes by its number. -/
inductive WebhookStep where
  | insert (delivery : Delivery) (effect : Effect)
  | add (number : Nat) (effect : Effect)
  | crash (number : Nat)

namespace Webhook

def empty : Webhook := { stripeEvents := .empty, jobs := [], deliveries := [] }

/-- A delivery with its state, by its number. -/
def delivery? (w : Webhook) (number : Nat) : Option (Delivery × DeliveryState) :=
  w.deliveries.find? (·.1.number = number)

def setState (w : Webhook) (number : Nat) (state : DeliveryState) : Webhook :=
  { w with
    deliveries := w.deliveries.map fun entry =>
      if entry.1.number = number then (entry.1, state) else entry }

/-- The insert of a delivery: a row that went in is followed by `queue.add`, one that was there
already is answered at once. -/
def insert (w : Webhook) (delivery : Delivery) (effect : Effect) : Webhook :=
  let inserted := insertEvent delivery.event w.stripeEvents
  let state : DeliveryState :=
    match effect with
    | .failed _ => .failed
    | .done => if inserted.isNone then .answered .duplicate else .adding
  { w with
    stripeEvents := if effect.applied then inserted.getD w.stripeEvents else w.stripeEvents
    deliveries := w.deliveries ++ [(delivery, state)] }

/-- `queue.add` of a delivery. -/
def add (w : Webhook) (delivery : Delivery) (effect : Effect) : Webhook :=
  let jobs := if effect.applied then addJob delivery.event w.jobs else w.jobs
  { w with jobs }.setState delivery.number
    (match effect with
      | .failed _ => .failed
      | .done => .answered .accepted)

/-- One step of a delivery; none when the delivery is not where the step starts. -/
def step (w : Webhook) : WebhookStep → Option Webhook
  | .insert delivery effect =>
    if (w.delivery? delivery.number).isSome then none else some (w.insert delivery effect)
  | .add number effect =>
    match w.delivery? number with
    | some (delivery, .adding) => some (w.add delivery effect)
    | _ => none
  | .crash number =>
    match w.delivery? number with
    | some (_, .adding) => some (w.setState number .failed)
    | _ => none

end Webhook

end RcOnline.Api
