import RcOnline.Lib.Host
import RcOnline.Lib.Json

/-!
# Checkout sessions

`BillingService.createCheckout` (`apps/api/src/billing/billing.service.ts`): the parameters that a
Checkout session is created with, and the answer. Creating the session is Stripe's.
-/

namespace RcOnline.Api

open RcOnline.Lib

inductive PurchaseKind where
  | oneTime
  | subscription
  deriving DecidableEq

structure CheckoutInput where
  userId : String
  priceId : String
  kind : PurchaseKind
  idempotencyKey : String
  deriving DecidableEq

/-- The variables of the process that the service reads. -/
structure BillingEnvironment where
  paymentProvider : Option String
  stripeRestrictedKey : Option String
  appOrigin : Option String

structure LineItem where
  price : String
  quantity : Nat
  deriving DecidableEq

structure CheckoutParams where
  mode : String
  lineItems : List LineItem
  successUrl : String
  cancelUrl : String
  clientReferenceId : String
  integrationIdentifier : String
  metadata : List (String × String)
  deriving DecidableEq

/-- What Stripe answers to a session that it created. -/
structure StripeSession where
  id : String
  url : Option String

structure CheckoutResponse where
  provider : String
  providerSessionId : String
  url : String
  deriving DecidableEq

/-- The parameters of a session; `suffix` is the eight hex digits drawn. -/
def checkoutParams (env : BillingEnvironment) (suffix : String) (input : CheckoutInput) :
    CheckoutParams :=
  let appOrigin := env.appOrigin.getD "http://localhost:3000"
  { mode := if input.kind = .subscription then "subscription" else "payment"
    lineItems := [{ price := input.priceId, quantity := 1 }]
    successUrl := appOrigin ++ "/pricing?checkout=success&session_id=\x7bCHECKOUT_SESSION_ID\x7d"
    cancelUrl := appOrigin ++ "/pricing?checkout=cancelled"
    clientReferenceId := input.userId
    integrationIdentifier := "rc-racing-" ++ suffix
    metadata := [("user_id", input.userId), ("idempotency_key", input.idempotencyKey)] }

/-- `create params idempotencyKey` is Stripe's answer, or the error of its call. -/
def createCheckout (env : BillingEnvironment) (suffix : String)
    (create : CheckoutParams → String → Except String StripeSession) (input : CheckoutInput) :
    Except String CheckoutResponse :=
  if env.paymentProvider.getD "mock" = "mock" then
    .ok
      { provider := "mock"
        providerSessionId := "cs_mock_" ++ input.idempotencyKey
        url := "/pricing?checkout=success&price=" ++ encodeURIComponent input.priceId }
  else if env.stripeRestrictedKey.getD "" = "" then
    .error "STRIPE_RESTRICTED_KEY is required for Stripe checkout"
  else
    match create (checkoutParams env suffix input) input.idempotencyKey with
    | .error error => .error error
    | .ok session =>
      if session.url.getD "" = "" then .error "Stripe did not return a Checkout URL"
      else .ok { provider := "stripe", providerSessionId := session.id, url := session.url.getD "" }

end RcOnline.Api
