import RcOnline.Domain.LedgerAtomicity

/-!
# When debits under different keys stay apart

A debit takes every entry whose key begins with its own key and a colon for an earlier answer to
itself. Its own entries have such keys, but so has any entry under a longer key that continues the
same way. `debitFifo_keys_iff` says exactly which entries spoil a debit: for a first use of its key
those already there, for a repeat those added since the debit it repeats.
-/

namespace RcOnline.Domain

open RcOnline.Lib

/-- A debit after a sequence of calls is independent of the calls under other keys: a first use of
its key takes its whole amount from its own wallet, and a repeat of a debit that returned returns
the same entries and changes nothing. -/
structure KeyIndependent (host : Host) (calls : List LedgerCall) (input : DebitInput) : Prop where
  first : (∀ earlier, .debitFifo earlier ∈ calls →
      earlier.idempotencyKey ≠ input.idempotencyKey) →
    ∀ es L', (runLedger host calls).debitFifo host input = (.ok es, L') →
      L'.entries = (runLedger host calls).entries ++ es ∧
      (∀ e ∈ es, e.walletId = input.walletId) ∧
      .ofInt (-(es.map (·.seconds)).sum) = input.seconds
  again : ∀ before earlier after es L₁, calls = before ++ .debitFifo earlier :: after →
    earlier.idempotencyKey = input.idempotencyKey →
    (runLedger host before).debitFifo host earlier = (.ok es, L₁) →
      (runLedger host calls).debitFifo host input = (.ok es, runLedger host calls)

/-- No foreign entry has a key that begins with the debit's key and a colon: none at all when the
key is first used, and none added since an earlier debit under the key returned. -/
structure KeyUntouched (host : Host) (calls : List LedgerCall) (input : DebitInput) : Prop where
  first : (∀ earlier, .debitFifo earlier ∈ calls →
      earlier.idempotencyKey ≠ input.idempotencyKey) →
    ∀ e ∈ (runLedger host calls).entries,
      startsWith e.idempotencyKey (input.idempotencyKey ++ ":") = false
  again : ∀ before earlier after es L₁, calls = before ++ .debitFifo earlier :: after →
    earlier.idempotencyKey = input.idempotencyKey →
    (runLedger host before).debitFifo host earlier = (.ok es, L₁) →
      ∀ e ∈ (runLedger host calls).entries.drop L₁.entries.length,
        startsWith e.idempotencyKey (input.idempotencyKey ++ ":") = false

variable {host : Host} {L : TimeLedger} {input : DebitInput}

/-- Whether it replayed or drew, a debit that returned returned the entries now under its key. -/
theorem debitFifo_ok_existing (hwf : WellFormed L) {es : List LedgerEntry} {L' : TimeLedger}
    (h : L.debitFifo host input = (.ok es, L')) :
    L'.existing input.idempotencyKey = es ∧ es ≠ [] := by
  by_cases hfresh : L.existing input.idempotencyKey = []
  · exact existing_of_debitFifo_ok hwf hfresh h
  · rw [debitFifo_replay host hfresh, Prod.mk.injEq] at h
    obtain ⟨hes, rfl⟩ := h
    obtain rfl := Except.ok.inj hes
    exact ⟨rfl, hfresh⟩

/-- The ledger after a debit and further calls has the entries it had after the debit, and then
those added since. -/
theorem entries_runLedger_debit {before after : List LedgerCall} {es : List LedgerEntry}
    {L₁ : TimeLedger} (h : (runLedger host before).debitFifo host input = (.ok es, L₁)) :
    (runLedger host (before ++ .debitFifo input :: after)).entries =
      L₁.entries ++
        (runLedger host (before ++ .debitFifo input :: after)).entries.drop L₁.entries.length := by
  have hL₁ : TimeLedger.after host (runLedger host before) (.debitFifo input) = L₁ := by
    rw [TimeLedger.after, h]
  have hwf : WellFormed L₁ := hL₁ ▸ (wellFormed_runLedger before).after _
  have hle : L₁.entries <+: (runLedger host (before ++ .debitFifo input :: after)).entries := by
    rw [runLedger_append, List.foldl_cons, hL₁]
    exact entries_isPrefix_foldl hwf after
  obtain ⟨more, hmore⟩ := hle
  rw [← hmore, List.drop_left]

/-- **Exactly when a debit is independent of the other keys.** -/
theorem debitFifo_keys_iff (host : Host) (calls : List LedgerCall) (input : DebitInput) :
    KeyIndependent host calls input ↔ KeyUntouched host calls input := by
  have hwf : WellFormed (runLedger host calls) := wellFormed_runLedger calls
  constructor
  · intro h
    constructor
    · intro hnew
      rw [← existing_eq_nil_iff]
      by_contra hne
      -- a replay returns entries that it did not create
      have hreplay := (h.first hnew _ _ (debitFifo_replay host hne)).1
      exact hne (List.self_eq_append_right.1 hreplay)
    · intro before earlier after es L₁ hcalls hkey hran
      obtain ⟨hes, hne⟩ := debitFifo_ok_existing (wellFormed_runLedger before) hran
      have hnow := h.again before earlier after es L₁ hcalls hkey hran
      have hall := (debitFifo_ok_existing hwf hnow).1
      subst hcalls
      rw [TimeLedger.existing, entries_runLedger_debit hran, List.filter_append,
        ← TimeLedger.existing, ← hkey, hes, List.append_right_eq_self,
        List.filter_eq_nil_iff] at hall
      intro e he
      rw [← Bool.not_eq_true, ← hkey]
      exact hall e he
  · intro h
    constructor
    · intro hnew es L' hran
      have hfresh := existing_eq_nil_iff.2 (h.first hnew)
      obtain ⟨t, seconds, -, -, -, hes, rfl, hsum⟩ := sum_of_debitFifo_ok hwf hfresh hran
      refine ⟨TimeLedger.pushAll_entries _ _, fun e he => ?_, hsum⟩
      rw [hes] at he
      obtain ⟨m, id, lot, taken, -, -, rfl⟩ := mem_debitEntries he
      rfl
    · intro before earlier after es L₁ hcalls hkey hran
      obtain ⟨hes, hne⟩ := debitFifo_ok_existing (wellFormed_runLedger before) hran
      have hsince := h.again before earlier after es L₁ hcalls hkey hran
      have hall : (runLedger host calls).existing input.idempotencyKey = es := by
        have hnil : ((runLedger host calls).entries.drop L₁.entries.length).filter
            (fun e => startsWith e.idempotencyKey (input.idempotencyKey ++ ":")) = [] :=
          List.filter_eq_nil_iff.2 fun e he => by rw [hsince e he]; simp
        subst hcalls
        rw [TimeLedger.existing, entries_runLedger_debit hran, List.filter_append, hnil,
          List.append_nil, ← TimeLedger.existing, ← hkey, hes]
      rw [debitFifo_replay host (by rw [hall]; exact hne), hall]

/-- Two wallets with a lot each, and a debit of 60 seconds from the first under `ride:1`. -/
def ridePrefixCalls : List LedgerCall :=
  [lotOf "lot-a" "wallet-a", creditOf "wallet-a" (some "lot-a") 100 "purchase-a",
    lotOf "lot-b" "wallet-b", creditOf "wallet-b" (some "lot-b") 100 "purchase-b",
    .debitFifo (debitOf "wallet-a" 60 "ride:1")]

/-- A first debit under `ride` from the second wallet returns the first wallet's entry. -/
theorem ridePrefix_not_independent :
    ¬KeyIndependent plainHost ridePrefixCalls (debitOf "wallet-b" 30 "ride") := by
  intro h
  have hnew : ∀ earlier, LedgerCall.debitFifo earlier ∈ ridePrefixCalls →
      earlier.idempotencyKey ≠ (debitOf "wallet-b" 30 "ride").idempotencyKey := by
    intro earlier hmem
    simp only [ridePrefixCalls, lotOf, creditOf, List.mem_cons, reduceCtorEq,
      LedgerCall.debitFifo.injEq, List.not_mem_nil, or_false, false_or] at hmem
    subst hmem
    decide
  have hne : (runLedger plainHost ridePrefixCalls).existing
      (debitOf "wallet-b" 30 "ride").idempotencyKey ≠ [] := by decide
  have hwallet := (h.first hnew _ _ (debitFifo_replay plainHost hne)).2.1
  revert hwallet
  decide

end RcOnline.Domain
