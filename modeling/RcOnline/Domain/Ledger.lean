import RcOnline.Lib.Number
import RcOnline.Lib.OrdMap
import RcOnline.Lib.Host

/-!
# The time ledger

`TimeLedger` of `packages/domain/src/ledger.ts`: wallets hold lots of driving time, credits and
debits are append-only entries, and balances are sums over entries. An operation returns its
result, or the error it throws, together with the ledger it leaves behind: `debitFifo` can throw
after it has appended.
-/

namespace RcOnline.Domain

open RcOnline.Lib

inductive LedgerEntryKind where
  | purchase
  | subscriptionCredit
  | promotion
  | rideDebit
  | compensation
  | adminAdjustment
  | expiry
  deriving DecidableEq

inductive MetadataValue where
  | string (s : String)
  | number (x : Number)
  | boolean (b : Bool)
  deriving DecidableEq

abbrev Metadata := List (String × MetadataValue)

structure LedgerEntry where
  id : String
  walletId : String
  lotId : Option String
  kind : LedgerEntryKind
  seconds : Int
  idempotencyKey : String
  reason : String
  /-- The time value of the instant that the stored ISO text denotes. -/
  occurredAt : Int
  metadata : Metadata
  deriving DecidableEq

structure WalletLot where
  id : String
  walletId : String
  grantedSeconds : Number
  expiresAt : Option String
  createdAt : String
  deriving DecidableEq

structure LedgerAppend where
  id : String
  walletId : String
  lotId : Option String := none
  kind : LedgerEntryKind
  seconds : Number
  idempotencyKey : String
  reason : String
  occurredAt : Option Date := none
  metadata : Metadata := []

inductive LedgerError where
  | lotNotPositive
  | lotExists (id : String)
  | entrySeconds
  | reasonTooShort
  | invalidTime
  | debitSeconds
  | insufficientBalance
  | lotInvariant
  /-- The caller's `idFactory` threw. -/
  | idFactory
  deriving DecidableEq

/-- The text of an error; the caller's own error has its own. -/
def LedgerError.message : LedgerError → Option String
  | .lotNotPositive => some "Wallet lot must grant positive seconds"
  | .lotExists id => some ("Wallet lot already exists: " ++ id)
  | .entrySeconds => some "Ledger seconds must be a non-zero safe integer"
  | .reasonTooShort => some "Admin adjustments require a meaningful reason"
  | .invalidTime => some "Invalid time value"
  | .debitSeconds => some "Debit seconds must be a positive safe integer"
  | .insufficientBalance => some "Insufficient time balance"
  | .lotInvariant => some "Ledger lot invariant violated"
  | .idFactory => none

structure TimeLedger where
  entries : List LedgerEntry
  lots : List WalletLot
  byIdempotencyKey : OrdMap String LedgerEntry
  deriving DecidableEq

/-- What a call returns or throws, and the ledger after it. -/
abbrev Outcome (α : Type) := Except LedgerError α × TimeLedger

namespace TimeLedger

def empty : TimeLedger := ⟨[], [], ∅⟩

def addLot (L : TimeLedger) (lot : WalletLot) : Outcome WalletLot :=
  if lot.grantedSeconds.leZero then (.error .lotNotPositive, L)
  else if L.lots.any (·.id = lot.id) then (.error (.lotExists lot.id), L)
  else (.ok lot, { L with lots := L.lots ++ [lot] })

/-- Push an entry and index it. -/
def push (L : TimeLedger) (entry : LedgerEntry) : TimeLedger :=
  { L with
    entries := L.entries ++ [entry]
    byIdempotencyKey := L.byIdempotencyKey.set entry.idempotencyKey entry }

/-- `now` is the clock that a missing `occurredAt` is read from. -/
def append (L : TimeLedger) (now : Date) (input : LedgerAppend) : Outcome LedgerEntry :=
  match L.byIdempotencyKey.get? input.idempotencyKey with
  | some duplicate => (.ok duplicate, L)
  | none =>
    match input.seconds.safeInteger? with
    | none => (.error .entrySeconds, L)
    | some seconds =>
      if seconds = 0 then (.error .entrySeconds, L)
      else if input.kind = .adminAdjustment ∧ utf16Length (trim input.reason) < 8 then
        (.error .reasonTooShort, L)
      else
        -- `toISOString` of an invalid date throws before anything is pushed
        match input.occurredAt.getD now with
        | none => (.error .invalidTime, L)
        | some occurredAt =>
          let entry : LedgerEntry :=
            { id := input.id, walletId := input.walletId, lotId := input.lotId, kind := input.kind,
              seconds, idempotencyKey := input.idempotencyKey, reason := input.reason, occurredAt,
              metadata := input.metadata }
          (.ok entry, L.push entry)

end TimeLedger

/-- `lot.expiresAt !== null && new Date(lot.expiresAt).getTime() <= at.getTime()`. -/
def WalletLot.expired (host : Host) (at' : Date) (lot : WalletLot) : Bool :=
  match lot.expiresAt with
  | none => false
  | some text => Date.le (host.parseDate text) at'

/-- `lot.expiresAt === null || new Date(lot.expiresAt).getTime() > at.getTime()`. -/
def WalletLot.live (host : Host) (at' : Date) (lot : WalletLot) : Bool :=
  match lot.expiresAt with
  | none => true
  | some text => Date.gt (host.parseDate text) at'

/-- The expiry a lot is sorted by; none is `Infinity`, which the empty text also stands for. -/
def WalletLot.expiry (host : Host) (lot : WalletLot) : Option Int :=
  match lot.expiresAt with
  | none => none
  | some text => if text = "" then none else host.parseDate text

/-- The comparator of the lot sort: `expiryA - expiryB || a.createdAt.localeCompare(b.createdAt)`,
where `Infinity - Infinity` is NaN and so falls through to the creation times. -/
def compareLots (host : Host) (a b : WalletLot) : Int :=
  match a.expiry host, b.expiry host with
  | some x, some y => if x - y = 0 then host.localeCompare a.createdAt b.createdAt else x - y
  | some _, none => -1
  | none, some _ => 1
  | none, none => host.localeCompare a.createdAt b.createdAt

structure DebitInput where
  /-- What the call number `n` of the caller's `idFactory` returns; none is a throw. -/
  idFactory : Nat → Option String
  walletId : String
  seconds : Number
  idempotencyKey : String
  reason : String
  /-- The debit's instant, already defaulted to the clock. -/
  at' : Date

/-- `input.seconds`, unless `input.seconds <= 0 || !Number.isSafeInteger(input.seconds)`. -/
def DebitInput.validSeconds? (input : DebitInput) : Option Int :=
  if input.seconds.leZero then none else input.seconds.safeInteger?

/-- The key of a debit's entry number `n`. -/
def debitKey (key : String) (n : Nat) : String := key ++ ":" ++ n.repr

/-- The request that a debit's loop makes for one lot. -/
def debitAppend (input : DebitInput) (n : Nat) (id : String) (lot : WalletLot) (taken : Int) :
    LedgerAppend :=
  { id, walletId := input.walletId, lotId := some lot.id, kind := .rideDebit,
    seconds := .ofInt (-taken), idempotencyKey := debitKey input.idempotencyKey n,
    reason := input.reason, occurredAt := some input.at' }

namespace TimeLedger

variable (host : Host)

def expiredLots (L : TimeLedger) (walletId : String) (at' : Date) : List String :=
  (L.lots.filter fun lot => lot.walletId = walletId && lot.expired host at').map (·.id)

def balance (L : TimeLedger) (walletId : String) (at' : Date) : Int :=
  let expiredLots := L.expiredLots host walletId at'
  sumFrom 0 ((L.entries.filter fun entry =>
    entry.walletId = walletId && entry.lotId.all (!expiredLots.contains ·)).map (·.seconds))

/-- What a wallet's entries on one lot sum to. -/
def available (L : TimeLedger) (walletId lotId : String) : Int :=
  sumFrom 0 ((L.entries.filter fun entry =>
    entry.walletId = walletId && entry.lotId = some lotId).map (·.seconds))

/-- The wallet's lots that are live at the debit's instant, soonest expiry first; the host's sort
is stable, and so is this one. -/
def debitableLots (L : TimeLedger) (walletId : String) (at' : Date) : List WalletLot :=
  (L.lots.filter fun lot => lot.walletId = walletId && lot.live host at').insertionSort
    fun a b => compareLots host a b ≤ 0

/-- Earlier entries under the debit's key. -/
def existing (L : TimeLedger) (idempotencyKey : String) : List LedgerEntry :=
  L.entries.filter fun entry => startsWith entry.idempotencyKey (idempotencyKey ++ ":")

/-- The lot loop of `debitFifo`, with what remains to be taken and the entries made so far. -/
def debitLots (input : DebitInput) :
    List WalletLot → TimeLedger → Int → List LedgerEntry → Outcome (Int × List LedgerEntry)
  | [], L, remaining, result => (.ok (remaining, result), L)
  | lot :: lots, L, remaining, result =>
    if remaining = 0 then (.ok (remaining, result), L)
    else
      let available := L.available input.walletId lot.id
      if available ≤ 0 then debitLots input lots L remaining result
      else
        let taken := min available remaining
        match input.idFactory result.length with
        | none => (.error .idFactory, L)
        | some id =>
          match L.append input.at' (debitAppend input result.length id lot taken) with
          | (.error e, L) => (.error e, L)
          | (.ok entry, L) => debitLots input lots L (sub remaining taken) (result ++ [entry])

def debitFifo (L : TimeLedger) (input : DebitInput) : Outcome (List LedgerEntry) :=
  let existing := L.existing input.idempotencyKey
  if existing ≠ [] then (.ok existing, L)
  else
    match input.validSeconds? with
    | none => (.error .debitSeconds, L)
    | some seconds =>
      if L.balance host input.walletId input.at' < seconds then (.error .insufficientBalance, L)
      else
        match debitLots input (L.debitableLots host input.walletId input.at') L seconds [] with
        | (.error e, L) => (.error e, L)
        | (.ok (remaining, result), L) =>
          if remaining ≠ 0 then (.error .lotInvariant, L) else (.ok result, L)

end TimeLedger

/-! ## Runs -/

/-- A call on the ledger; an `append` carries the clock it reads. -/
inductive LedgerCall where
  | addLot (lot : WalletLot)
  | append (now : Date) (input : LedgerAppend)
  | debitFifo (input : DebitInput)

/-- The ledger after a call, whether it returned or threw. -/
def TimeLedger.after (host : Host) (L : TimeLedger) : LedgerCall → TimeLedger
  | .addLot lot => (L.addLot lot).2
  | .append now input => (L.append now input).2
  | .debitFifo input => (L.debitFifo host input).2

/-- The ledger after a sequence of calls on a new one. -/
def runLedger (host : Host) (calls : List LedgerCall) : TimeLedger :=
  calls.foldl (TimeLedger.after host) .empty

end RcOnline.Domain
