import RcOnline.Domain.LedgerDebit

/-!
# When a debit is all or nothing

The balance that a debit checks counts every entry of the wallet that is not on an expired lot of
its own: credits without a lot, and credits on lots of other wallets. The loop draws on the
wallet's live lots alone. When those fall short the loop has already appended when it gives up,
the ledger keeps the entries, and a repeat of the call is answered with them. The same happens when
the caller's `idFactory` throws after the first entry. `debitFifo_atomic_iff` says that these are
the only ways: otherwise a failed debit leaves no trace.
-/

namespace RcOnline.Domain

open RcOnline.Lib

variable (host : Host)

/-- The same debit, asked for again; the instant and the ids are those of the new attempt. -/
structure SameDebit (input again : DebitInput) : Prop where
  walletId : again.walletId = input.walletId
  seconds : again.seconds = input.seconds
  idempotencyKey : again.idempotencyKey = input.idempotencyKey
  reason : again.reason = input.reason

/-- A debit is atomic: if it throws, nothing has changed, and a repeat of a debit that was not
itself a replay never returns entries that sum to anything but the amount asked for. -/
structure DebitAtomic (L : TimeLedger) (input : DebitInput) : Prop where
  entries : ∀ e L', L.debitFifo host input = (.error e, L') → L'.entries = L.entries
  lots : ∀ e L', L.debitFifo host input = (.error e, L') → L'.lots = L.lots
  index : ∀ e L', L.debitFifo host input = (.error e, L') →
    L'.byIdempotencyKey = L.byIdempotencyKey
  balance : ∀ e L', L.debitFifo host input = (.error e, L') →
    ∀ walletId at', L'.balance host walletId at' = L.balance host walletId at'
  retry : L.existing input.idempotencyKey = [] → ∀ again, SameDebit input again → ∀ es L',
    (L.debitFifo host input).2.debitFifo host again = (.ok es, L') →
      .ofInt (-(es.map (·.seconds)).sum) = input.seconds

/-- The debit's loop either finds nothing to draw on, or is refused its first id, or finds enough
on the wallet's live lots and gets an id for each of the lots that it draws on. -/
def LoopCompletes (L : TimeLedger) (input : DebitInput) (seconds : Int) : Prop :=
  capacity (liveStocks host L input.walletId input.at') = 0 ∨
  input.idFactory 0 = none ∨
  (seconds ≤ capacity (liveStocks host L input.walletId input.at') ∧
    ∀ n < (loopDraws host L input seconds).length, input.idFactory n ≠ none)

variable {host} {L : TimeLedger} {input : DebitInput}

theorem existing_pushAll (es : List LedgerEntry) (key : String) :
    (L.pushAll es).existing key =
      L.existing key ++ es.filter fun e => startsWith e.idempotencyKey (key ++ ":") := by
  simp [TimeLedger.existing, List.filter_append]

theorem filter_debitEntries {t : Int} {n : Nat} {draws : List (WalletLot × Int)} :
    ((debitEntries input t n draws).1.filter fun e =>
      startsWith e.idempotencyKey (input.idempotencyKey ++ ":")) =
      (debitEntries input t n draws).1 := by
  rw [List.filter_eq_self]
  intro e he
  obtain ⟨m, id, lot, taken, -, -, rfl⟩ := mem_debitEntries he
  exact startsWith_debitKey _ _

/-- A debit that is not a replay and returns, returns entries for its whole amount. -/
theorem sum_of_debitFifo_ok (hwf : WellFormed L) (hfresh : L.existing input.idempotencyKey = [])
    {es : List LedgerEntry} {L' : TimeLedger} (h : L.debitFifo host input = (.ok es, L')) :
    ∃ t seconds, EntersLoop host L input t seconds ∧
      (debitEntries input t 0 (loopDraws host L input seconds)).2 = false ∧
      seconds ≤ capacity (liveStocks host L input.walletId input.at') ∧
      es = (debitEntries input t 0 (loopDraws host L input seconds)).1 ∧ L' = L.pushAll es ∧
      .ofInt (-(es.map (·.seconds)).sum) = input.seconds := by
  rcases debitFifo_cases host hwf input with ⟨hne, -⟩ | ⟨-, -, e, he⟩ | ⟨t, seconds, hl⟩
  · exact absurd hfresh hne
  · rw [he] at h; cases h
  · rw [hl.debitFifo_eq hwf, Prod.mk.injEq] at h
    obtain ⟨hes, rfl⟩ := h
    split at hes
    · cases hes
    · next hthrow =>
      rw [Bool.not_eq_true] at hthrow
      split at hes
      · next hcap =>
        obtain rfl := Except.ok.inj hes
        refine ⟨t, seconds, hl, hthrow, hcap, rfl, rfl, ?_⟩
        obtain ⟨heq, hpos, -⟩ := validSeconds?_eq_some hl.valid
        rw [heq, Number.ofInt_inj, map_seconds_debitEntries hthrow, ← List.sum_neg, neg_neg,
          loopDraws, sum_draw _ hpos.le]
        omega
      · cases hes

/-- Once a debit has returned, its key's entries are its own. -/
theorem existing_of_debitFifo_ok (hwf : WellFormed L)
    (hfresh : L.existing input.idempotencyKey = []) {es : List LedgerEntry} {L' : TimeLedger}
    (h : L.debitFifo host input = (.ok es, L')) :
    L'.existing input.idempotencyKey = es ∧ es ≠ [] := by
  obtain ⟨t, seconds, hl, hthrow, hcap, rfl, rfl, -⟩ := sum_of_debitFifo_ok hwf hfresh h
  obtain ⟨-, hpos, -⟩ := validSeconds?_eq_some hl.valid
  constructor
  · rw [existing_pushAll, hfresh, List.nil_append, filter_debitEntries]
  · rw [ne_eq, debitEntries_eq_nil_iff]
    have hdraws : loopDraws host L input seconds ≠ [] := by
      rw [loopDraws, ne_eq, draw_eq_nil_iff hpos]
      omega
    rintro (hnil | hid)
    · exact hdraws hnil
    · exact debitEntries_throws_iff.1 hthrow 0 (List.length_pos_iff.2 hdraws) (by simpa using hid)

theorem entries_pushAll_eq_iff {es : List LedgerEntry} :
    (L.pushAll es).entries = L.entries ↔ es = [] := by
  simp

/-- A loop that gives up and has appended nothing had nothing to draw on, or got no first id. -/
theorem EntersLoop.completes {t seconds : Int} (hl : EntersLoop host L input t seconds)
    (hwf : WellFormed L) (hatomic : DebitAtomic host L input) :
    LoopCompletes host L input seconds := by
  obtain ⟨-, hpos, -⟩ := validSeconds?_eq_some hl.valid
  have heq := hl.debitFifo_eq hwf
  have hnothing : ∀ e, L.debitFifo host input =
      (.error e, L.pushAll (debitEntries input t 0 (loopDraws host L input seconds)).1) →
      LoopCompletes host L input seconds := by
    intro e herror
    have hnil := entries_pushAll_eq_iff.1 (hatomic.entries _ _ herror)
    rcases debitEntries_eq_nil_iff.1 hnil with hdraws | hid
    · exact .inl ((draw_eq_nil_iff hpos).1 hdraws)
    · exact .inr (.inl hid)
  by_cases hthrow : (debitEntries input t 0 (loopDraws host L input seconds)).2 = false
  · by_cases hcap : seconds ≤ capacity (liveStocks host L input.walletId input.at')
    · have hids := debitEntries_throws_iff.1 hthrow
      simp only [Nat.zero_add] at hids
      exact .inr (.inr ⟨hcap, hids⟩)
    · rw [hthrow, if_neg (by simp), if_neg hcap] at heq
      exact hnothing _ heq
  · rw [Bool.not_eq_false] at hthrow
    rw [hthrow, if_pos rfl] at heq
    exact hnothing _ heq

/-- A debit that throws leaves the ledger itself, so every part of it is as before. -/
theorem debitFifo_error_eq (hwf : WellFormed L)
    (hcond : ∀ t seconds, EntersLoop host L input t seconds → LoopCompletes host L input seconds)
    {e : LedgerError} {L' : TimeLedger} (h : L.debitFifo host input = (.error e, L')) : L' = L := by
  rcases debitFifo_cases host hwf input with ⟨-, he⟩ | ⟨-, -, e', he⟩ | ⟨t, seconds, hl⟩
  · rw [he] at h; cases h
  · rw [he] at h; exact (Prod.mk.inj h).2.symm
  · rw [hl.debitFifo_eq hwf, Prod.mk.injEq] at h
    obtain ⟨herr, rfl⟩ := h
    obtain ⟨-, hpos, -⟩ := validSeconds?_eq_some hl.valid
    have hnil : (debitEntries input t 0 (loopDraws host L input seconds)).1 = [] := by
      rw [debitEntries_eq_nil_iff]
      rcases hcond t seconds hl with hcap | hid | ⟨hcap, hids⟩
      · exact .inl ((draw_eq_nil_iff hpos).2 hcap)
      · exact .inr hid
      · have hthrow : (debitEntries input t 0 (loopDraws host L input seconds)).2 = false :=
          debitEntries_throws_iff.2 fun m hm => by simpa using hids m hm
        rw [hthrow, if_neg (by simp), if_pos hcap] at herr
        cases herr
    rw [hnil]
    rfl

/-- **Exactly when a debit is atomic**, at every ledger that calls can reach: unless its loop runs,
and gives up after it has appended. -/
theorem debitFifo_atomic_iff (host : Host) (calls : List LedgerCall) (input : DebitInput) :
    DebitAtomic host (runLedger host calls) input ↔
      ∀ t seconds, EntersLoop host (runLedger host calls) input t seconds →
        LoopCompletes host (runLedger host calls) input seconds := by
  have hwf : WellFormed (runLedger host calls) := wellFormed_runLedger calls
  generalize runLedger host calls = L at hwf ⊢
  refine ⟨fun hatomic t seconds hl => hl.completes hwf hatomic, fun hcond => ?_⟩
  have hsame : ∀ e L', L.debitFifo host input = (.error e, L') → L' = L :=
    fun e L' h => debitFifo_error_eq hwf hcond h
  refine ⟨fun e L' h => by rw [hsame e L' h], fun e L' h => by rw [hsame e L' h],
    fun e L' h => by rw [hsame e L' h], fun e L' h w t => by rw [hsame e L' h], ?_⟩
  intro hfresh again hagain es L' hretry
  rcases hfirst : L.debitFifo host input with ⟨e | made, L₁⟩
  · -- the failed call left the ledger alone, so the retry is a first attempt
    rw [hfirst, hsame e L₁ hfirst] at hretry
    rw [← hagain.seconds]
    obtain ⟨-, -, -, -, -, -, -, hsum⟩ :=
      sum_of_debitFifo_ok hwf (hagain.idempotencyKey ▸ hfresh) hretry
    exact hsum
  · -- the call returned, so the retry replays its entries
    obtain ⟨hex, hne⟩ := existing_of_debitFifo_ok hwf hfresh hfirst
    rw [hfirst, debitFifo_replay host (by rw [hagain.idempotencyKey, hex]; exact hne),
      hagain.idempotencyKey, hex] at hretry
    obtain rfl := Except.ok.inj (Prod.mk.inj hretry).1
    obtain ⟨-, -, -, -, -, -, -, hsum⟩ := sum_of_debitFifo_ok hwf hfresh hfirst
    exact hsum

/-! ## The debit that leaves an entry behind -/

/-- A host whose dates and collation no example below depends on. -/
def plainHost : Host where
  parseDate _ := none
  localeCompare a b := if a < b then -1 else if a = b then 0 else 1

/-- A credit of a number of seconds, on a lot or on none. -/
def creditOf (walletId : String) (lotId : Option String) (seconds : Int) (key : String) :
    LedgerCall :=
  .append (some 0)
    { id := key, walletId, lotId, kind := .purchase, seconds := .ofInt seconds,
      idempotencyKey := key, reason := "starter pack" }

/-- A lot that never expires. -/
def lotOf (id walletId : String) : LedgerCall :=
  .addLot ⟨id, walletId, .ofInt 100, none, "2026-01-01T00:00:00.000Z"⟩

def debitOf (walletId : String) (seconds : Int) (key : String) : DebitInput where
  idFactory n := some ("debit-" ++ n.repr)
  walletId := walletId
  seconds := .ofInt seconds
  idempotencyKey := key
  reason := "ride settlement"
  at' := some 0

/-- A wallet with 100 seconds on a lot and 100 seconds on none. -/
def mixedWallet : List LedgerCall :=
  [lotOf "lot-a" "wallet", creditOf "wallet" (some "lot-a") 100 "purchase-a",
    creditOf "wallet" none 100 "purchase-b"]

/-- A debit of 150 seconds from `mixedWallet` throws after it has appended 100, and asked again
returns those 100 as its result. -/
theorem mixedWallet_not_atomic :
    ¬DebitAtomic plainHost (runLedger plainHost mixedWallet) (debitOf "wallet" 150 "ride-1") := by
  intro h
  have hthrow : ((runLedger plainHost mixedWallet).debitFifo plainHost
      (debitOf "wallet" 150 "ride-1")).1 = .error .lotInvariant := by decide
  have hmade : ((runLedger plainHost mixedWallet).debitFifo plainHost
      (debitOf "wallet" 150 "ride-1")).2.entries.map (·.seconds) = [100, 100, -100] := by decide
  have hsame : ((runLedger plainHost mixedWallet).debitFifo plainHost
      (debitOf "wallet" 150 "ride-1")).2.entries = (runLedger plainHost mixedWallet).entries :=
    h.entries .lotInvariant _ (Prod.ext hthrow rfl)
  rw [hsame] at hmade
  exact absurd hmade (by decide)

end RcOnline.Domain
