import RcOnline.Domain.LedgerDebit
import RcOnline.Lib.Steps

/-!
# The history of the ledger

The ledger only grows, and its index follows its entries. Every entry comes from an `append`, those
of a debit's loop too, so whatever an append keeps, every call keeps (`debitLots_keeps`).
-/

namespace RcOnline.Domain

open RcOnline.Lib

/-- A call on the ledger, or a reading of a balance, which changes nothing. -/
inductive LedgerAct where
  | call (call : LedgerCall)
  | balance (walletId : String) (at' : Date)

/-- The ledger after one, whether it returned or threw. -/
def TimeLedger.act (host : Host) (L : TimeLedger) : LedgerAct → TimeLedger
  | .call call => L.after host call
  | .balance _ _ => L

/-- No lot or entry is there twice, the index finds exactly the entries, by their keys, and every
entry moves some seconds. -/
structure Chronicled (L : TimeLedger) : Prop where
  wellFormed : WellFormed L
  keys : (L.entries.map (·.idempotencyKey)).Nodup
  seconds : ∀ e ∈ L.entries, e.seconds ≠ 0 ∧ |e.seconds| ≤ Number.maxSafeInteger

/-- A ledger that another has grown from. -/
structure Extends (L L' : TimeLedger) : Prop where
  entries : L.entries <+: L'.entries
  lots : L.lots <+: L'.lots

namespace Extends

variable {L L₁ L₂ : TimeLedger}

theorem refl (L : TimeLedger) : Extends L L := ⟨List.prefix_rfl, List.prefix_rfl⟩

theorem trans (h : Extends L L₁) (h' : Extends L₁ L₂) : Extends L L₂ :=
  ⟨h.entries.trans h'.entries, h.lots.trans h'.lots⟩

theorem push (L : TimeLedger) (e : LedgerEntry) : Extends L (L.push e) :=
  ⟨List.prefix_append _ _, List.prefix_rfl⟩

end Extends

/-- An entry that is appended is not among those before it, and moves some seconds. -/
theorem append_pushes (L : TimeLedger) (now : Date) (input : LedgerAppend) :
    (L.append now input).2 = L ∨
      ∃ e, (L.append now input).2 = L.push e ∧
        L.byIdempotencyKey.get? e.idempotencyKey = none ∧
        e.seconds ≠ 0 ∧ |e.seconds| ≤ Number.maxSafeInteger := by
  unfold TimeLedger.append
  split
  · exact .inl rfl
  · next hfree =>
    split
    · exact .inl rfl
    · next seconds hseconds =>
      split
      · exact .inl rfl
      · next hne =>
        split
        · exact .inl rfl
        · split
          · exact .inl rfl
          · exact .inr ⟨_, rfl, hfree, hne, (Number.safeInteger?_eq_some hseconds).2⟩

/-- The loop of a debit changes the ledger by appends alone. -/
theorem debitLots_keeps {P : TimeLedger → Prop}
    (happend : ∀ L now input, P L → P (L.append now input).2) {input : DebitInput}
    {lots : List WalletLot} {L : TimeLedger} {remaining : Int} {result : List LedgerEntry}
    (h : P L) : P (TimeLedger.debitLots input lots L remaining result).2 := by
  induction lots generalizing L remaining result with
  | nil => exact h
  | cons lot lots ih =>
    unfold TimeLedger.debitLots
    split
    · exact h
    · dsimp only
      split
      · exact ih h
      · split
        · exact h
        · next id _ =>
          have hnext := happend L input.at' (debitAppend input result.length id lot
            (min (L.available input.walletId lot.id) remaining)) h
          split
          · next e L' heq => rwa [heq] at hnext
          · next entry L' heq =>
            rw [heq] at hnext
            exact ih hnext

/-- So does the whole debit, whether it returns or throws. -/
theorem debitFifo_keeps {P : TimeLedger → Prop}
    (happend : ∀ L now input, P L → P (L.append now input).2) (host : Host) (input : DebitInput)
    {L : TimeLedger} (h : P L) : P (L.debitFifo host input).2 := by
  unfold TimeLedger.debitFifo
  dsimp only
  split
  · exact h
  · split
    · exact h
    · next seconds _ =>
      split
      · exact h
      · have hloop : P (TimeLedger.debitLots input (L.debitableLots host input.walletId input.at')
            L seconds []).2 := debitLots_keeps happend h
        split
        · next heq => rwa [heq] at hloop
        · next heq =>
          rw [heq] at hloop
          split <;> exact hloop

namespace Chronicled

variable {L : TimeLedger}

theorem empty : Chronicled .empty := ⟨.empty, List.nodup_nil, nofun⟩

theorem push (h : Chronicled L) {e : LedgerEntry}
    (hfree : L.byIdempotencyKey.get? e.idempotencyKey = none) (hne : e.seconds ≠ 0)
    (hsafe : |e.seconds| ≤ Number.maxSafeInteger) : Chronicled (L.push e) where
  wellFormed := h.wellFormed.push hfree
  keys := by
    rw [TimeLedger.push_entries, List.map_append, List.map_singleton]
    refine List.nodup_append'.2 ⟨h.keys, List.nodup_singleton _, ?_⟩
    rw [List.disjoint_singleton]
    intro hmem
    obtain ⟨other, hother, hkey⟩ := List.mem_map.1 hmem
    rw [(h.wellFormed.index _ other).2 ⟨hother, hkey⟩] at hfree
    cases hfree
  seconds := by
    intro other hother
    rcases List.mem_append.1 hother with hother | hother
    · exact h.seconds other hother
    · obtain rfl := List.mem_singleton.1 hother
      exact ⟨hne, hsafe⟩

theorem append (h : Chronicled L) (now : Date) (input : LedgerAppend) :
    Chronicled (L.append now input).2 := by
  rcases append_pushes L now input with hsame | ⟨e, hpush, hfree, hne, hsafe⟩
  · rwa [hsame]
  · rw [hpush]
    exact h.push hfree hne hsafe

theorem addLot (h : Chronicled L) (lot : WalletLot) : Chronicled (L.addLot lot).2 := by
  refine ⟨h.wellFormed.addLot lot, ?_, ?_⟩
  all_goals
    unfold TimeLedger.addLot
    split
    · first | exact h.keys | exact h.seconds
    · split <;> first | exact h.keys | exact h.seconds

theorem act (h : Chronicled L) (host : Host) (act : LedgerAct) : Chronicled (L.act host act) := by
  cases act with
  | balance walletId at' => exact h
  | call call =>
    cases call with
    | addLot lot => exact h.addLot lot
    | append now input => exact h.append now input
    | debitFifo input =>
      exact debitFifo_keeps (fun _ now input h => h.append now input) host input h

/-- A known key is answered with its entry, and nothing is added. -/
theorem append_known (h : Chronicled L) {e : LedgerEntry} (he : e ∈ L.entries) (now : Date)
    {input : LedgerAppend} (hkey : e.idempotencyKey = input.idempotencyKey) :
    L.append now input = (.ok e, L) := by
  unfold TimeLedger.append
  rw [(h.wellFormed.index _ e).2 ⟨he, hkey⟩]

end Chronicled

namespace Extends

variable {L L' : TimeLedger}

theorem append (h : Extends L L') (now : Date) (input : LedgerAppend) :
    Extends L (L'.append now input).2 := by
  rcases append_pushes L' now input with hsame | ⟨e, hpush, -⟩
  · rwa [hsame]
  · rw [hpush]
    exact h.trans (push L' e)

theorem addLot (L : TimeLedger) (lot : WalletLot) : Extends L (L.addLot lot).2 := by
  unfold TimeLedger.addLot
  split
  · exact refl L
  · split
    · exact refl L
    · exact ⟨List.prefix_rfl, List.prefix_append _ _⟩

theorem act (h : Extends L L') (host : Host) (act : LedgerAct) : Extends L (L'.act host act) := by
  cases act with
  | balance walletId at' => exact h
  | call call =>
    cases call with
    | addLot lot => exact h.trans (addLot L' lot)
    | append now input => exact h.append now input
    | debitFifo input =>
      exact debitFifo_keeps (fun _ now input h => h.append now input) host input h

end Extends

/-- **Main result.** Whatever is called, and whether it returns or throws: what was in the ledger
stays where it was, keys and ids are there once, the index finds exactly the entries, no entry is
empty, and a known key is answered with its entry. -/
theorem ledger_append_only (host : Host) (acts more : List LedgerAct) :
    let L := acts.foldl (TimeLedger.act host) .empty
    let L' := more.foldl (TimeLedger.act host) L
    Extends L L' ∧ Chronicled L' ∧
      ∀ e ∈ L'.entries, ∀ now input, e.idempotencyKey = input.idempotencyKey →
        L'.append now input = (.ok e, L') := by
  intro L L'
  have hchronicled : Chronicled L' := by
    have hall := run_foldl (TimeLedger.act host) .empty (acts ++ more)
    rw [List.foldl_append] at hall
    exact hall.invariant .empty fun h hstep => hstep ▸ h.act host _
  have hextends : Extends L L' :=
    (run_foldl (TimeLedger.act host) L more).invariant (.refl L) fun h hstep => hstep ▸ h.act host _
  exact ⟨hextends, hchronicled, fun e he now _ hkey => hchronicled.append_known he now hkey⟩

end RcOnline.Domain
