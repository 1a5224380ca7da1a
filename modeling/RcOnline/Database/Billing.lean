import RcOnline.Lib.Table
import RcOnline.Lib.Json

/-!
# The billing tables

The tables of `packages/database/migrations/0001_simulation_core.sql` that a payment goes through,
with the columns that the webhook and the worker read or write. A Stripe event is kept under its
Stripe id; lots and ledger entries carry their unique columns beside their keys.
-/

namespace RcOnline.Billing

open RcOnline.Lib

abbrev Uuid := Nat

inductive EventStatus where
  | received
  | processed
  deriving DecidableEq

structure StripeEvent where
  stripeEventId : String
  eventType : String
  livemode : Bool
  apiVersion : Option String
  payload : Json
  status : EventStatus
  attempts : Nat
  processedAt : Option Int
  lastError : Option String

structure Wallet where
  id : Uuid
  userId : Uuid
  deriving DecidableEq

structure WalletLot where
  id : Uuid
  walletId : Uuid
  sourceType : String
  sourceId : String
  grantedSeconds : Int
  expiresAt : Option Int
  deriving DecidableEq

structure LedgerEntry where
  id : Uuid
  walletId : Uuid
  lotId : Option Uuid
  kind : String
  seconds : Int
  idempotencyKey : String
  reason : String
  metadata : List (String × String)
  deriving DecidableEq

structure AuditEvent where
  actorType : String
  action : String
  targetType : String
  targetId : String
  reason : String
  metadata : List (String × String)
  deriving DecidableEq

instance : Row StripeEvent String := ⟨StripeEvent.stripeEventId⟩
instance : Row Wallet Uuid := ⟨Wallet.id⟩
instance : Row WalletLot Uuid := ⟨WalletLot.id⟩
instance : Row LedgerEntry Uuid := ⟨LedgerEntry.id⟩

structure Database where
  stripeEvents : Table StripeEvent
  wallets : Table Wallet
  walletLots : Table WalletLot
  ledgerEntries : Table LedgerEntry
  auditEvents : List AuditEvent

end RcOnline.Billing
