import RcOnline.Domain.Ledger
import RcOnline.Lib.Draw

/-!
# What a debit does

A debit is answered by the entries already under its key, is refused before its loop, or runs the
loop (`debitFifo_replay`, `debitFifo_refused`, `debitFifo_loop`). The loop pushes one entry for
each lot of `draw`, the amounts drawn in order from the lots' sums, until the caller's `idFactory`
throws (`debitLots_eq`); what it leaves unpaid is what the lots cannot give.
-/

namespace RcOnline.Domain

open RcOnline.Lib

/-! ## Keys -/

theorem startsWith_debitKey (key : String) (n : Nat) :
    startsWith (debitKey key n) (key ++ ":") = true := startsWith_append _ _

theorem debitKey_inj {key : String} {m n : Nat} : debitKey key m = debitKey key n ↔ m = n := by
  constructor
  · intro h
    have h' := congrArg String.toList h
    simp only [debitKey, String.toList_append] at h'
    exact Nat.repr_injective (String.toList_inj.1 (List.append_cancel_left h'))
  · rintro rfl
    rfl

/-! ## Well-formed ledgers -/

/-- Lots are told apart by their ids, and the index finds exactly the entries, by their keys. -/
structure WellFormed (L : TimeLedger) : Prop where
  lotIds : (L.lots.map (·.id)).Nodup
  index : ∀ k e, L.byIdempotencyKey.get? k = some e ↔ e ∈ L.entries ∧ e.idempotencyKey = k

namespace TimeLedger

@[simp] theorem push_entries (L : TimeLedger) (e : LedgerEntry) :
    (L.push e).entries = L.entries ++ [e] := rfl

@[simp] theorem push_lots (L : TimeLedger) (e : LedgerEntry) : (L.push e).lots = L.lots := rfl

theorem push_get? (L : TimeLedger) (e : LedgerEntry) (k : String) :
    (L.push e).byIdempotencyKey.get? k =
      if e.idempotencyKey = k then some e else L.byIdempotencyKey.get? k :=
  OrdMap.get?_set ..

/-- Push several entries in order. -/
def pushAll (L : TimeLedger) (es : List LedgerEntry) : TimeLedger := es.foldl push L

@[simp] theorem pushAll_nil (L : TimeLedger) : L.pushAll [] = L := rfl

@[simp] theorem pushAll_cons (L : TimeLedger) (e : LedgerEntry) (es : List LedgerEntry) :
    L.pushAll (e :: es) = (L.push e).pushAll es := rfl

@[simp] theorem pushAll_entries (L : TimeLedger) (es : List LedgerEntry) :
    (L.pushAll es).entries = L.entries ++ es := by
  induction es generalizing L with
  | nil => simp
  | cons e es ih => simp [ih]

@[simp] theorem pushAll_lots (L : TimeLedger) (es : List LedgerEntry) :
    (L.pushAll es).lots = L.lots := by
  induction es generalizing L with
  | nil => rfl
  | cons e es ih => simp [ih]

end TimeLedger

namespace WellFormed

variable {L : TimeLedger}

theorem empty : WellFormed .empty :=
  ⟨List.nodup_nil, fun k e => by simp [TimeLedger.empty]⟩

/-- A key without an entry is free in the index. -/
theorem get?_eq_none (h : WellFormed L) {k : String}
    (hk : ∀ e ∈ L.entries, e.idempotencyKey ≠ k) : L.byIdempotencyKey.get? k = none := by
  cases hg : L.byIdempotencyKey.get? k with
  | none => rfl
  | some e =>
    obtain ⟨he, hek⟩ := (h.index k e).1 hg
    exact absurd hek (hk e he)

/-- Pushing an entry under a free key keeps the ledger well formed. -/
theorem push (h : WellFormed L) {e : LedgerEntry}
    (hfree : L.byIdempotencyKey.get? e.idempotencyKey = none) : WellFormed (L.push e) := by
  refine ⟨h.lotIds, fun k d => ?_⟩
  have hold : ∀ d ∈ L.entries, d.idempotencyKey ≠ e.idempotencyKey := fun d hd hk => by
    rw [(h.index _ d).2 ⟨hd, hk⟩] at hfree
    cases hfree
  rw [TimeLedger.push_get?, TimeLedger.push_entries, List.mem_append, List.mem_singleton]
  split
  · next hk =>
    subst hk
    constructor
    · intro hd
      obtain rfl := Option.some.inj hd
      exact ⟨.inr rfl, rfl⟩
    · rintro ⟨hd | rfl, hk⟩
      · exact absurd hk (hold d hd)
      · rfl
  · next hk =>
    rw [h.index]
    constructor
    · exact fun hd => ⟨.inl hd.1, hd.2⟩
    · rintro ⟨hd | rfl, hdk⟩
      · exact ⟨hd, hdk⟩
      · exact absurd hdk hk

theorem addLot (h : WellFormed L) (lot : WalletLot) : WellFormed (L.addLot lot).2 := by
  unfold TimeLedger.addLot
  split
  · exact h
  · split
    · exact h
    · next hany =>
      refine ⟨?_, h.index⟩
      simp only [Bool.not_eq_true, List.any_eq_false, decide_eq_true_eq] at hany
      rw [List.map_append, List.nodup_append]
      refine ⟨h.lotIds, List.nodup_singleton _, ?_⟩
      intro a ha b hb
      obtain ⟨existing, hmem, rfl⟩ := List.mem_map.1 ha
      obtain rfl : b = lot.id := by simpa using hb
      exact hany existing hmem

end WellFormed

/-! ## Appending -/

/-- An append leaves the ledger alone, or pushes one entry under the free key it was given. -/
theorem append_cases (L : TimeLedger) (now : Date) (input : LedgerAppend) :
    (L.append now input).2 = L ∨
      ∃ e, L.byIdempotencyKey.get? e.idempotencyKey = none ∧
        L.append now input = (.ok e, L.push e) ∧
        e.idempotencyKey = input.idempotencyKey := by
  unfold TimeLedger.append
  split
  · exact .inl rfl
  · next hfree =>
    split
    · exact .inl rfl
    · split
      · exact .inl rfl
      · split
        · exact .inl rfl
        · split
          · exact .inl rfl
          · exact .inr ⟨_, hfree, rfl, rfl⟩

theorem WellFormed.append {L : TimeLedger} (h : WellFormed L) (now : Date) (input : LedgerAppend) :
    WellFormed (L.append now input).2 := by
  rcases append_cases L now input with hL | ⟨e, hfree, he, -⟩
  · rw [hL]; exact h
  · rw [he]; exact h.push hfree

/-- The entry that a debit's loop appends for one lot. -/
def debitEntry (input : DebitInput) (t : Int) (n : Nat) (id : String) (lot : WalletLot)
    (taken : Int) : LedgerEntry :=
  { id, walletId := input.walletId, lotId := some lot.id, kind := .rideDebit, seconds := -taken,
    idempotencyKey := debitKey input.idempotencyKey n, reason := input.reason, occurredAt := t,
    metadata := [] }

theorem append_debitAppend {L : TimeLedger} {input : DebitInput} {n : Nat} {id : String}
    {lot : WalletLot} {taken : Int} (hpos : 0 < taken) (hsafe : taken ≤ Number.maxSafeInteger)
    (hfree : L.byIdempotencyKey.get? (debitKey input.idempotencyKey n) = none) :
    L.append input.at' (debitAppend input n id lot taken) =
      match input.at' with
      | none => (.error .invalidTime, L)
      | some t => (.ok (debitEntry input t n id lot taken),
          L.push (debitEntry input t n id lot taken)) := by
  have hseconds : (Number.ofInt (-taken)).safeInteger? = some (-taken) := by
    rw [Number.safeInteger?_ofInt, if_pos (by rw [abs_neg, abs_of_pos hpos]; exact hsafe)]
  have hne : ¬(-taken = 0) := by omega
  simp only [TimeLedger.append, debitAppend, hfree, hseconds, hne, if_false, reduceCtorEq,
    false_and, Option.getD_some]
  cases input.at' <;> rfl

/-! ## The loop -/

/-- The entries made for a list of draws, numbered from `n`, up to the first throw of the caller's
`idFactory`; and whether it threw. -/
def debitEntries (input : DebitInput) (t : Int) :
    Nat → List (WalletLot × Int) → List LedgerEntry × Bool
  | _, [] => ([], false)
  | n, (lot, taken) :: draws =>
    match input.idFactory n with
    | none => ([], true)
    | some id =>
      let rest := debitEntries input t (n + 1) draws
      (debitEntry input t n id lot taken :: rest.1, rest.2)

theorem mem_debitEntries {input : DebitInput} {t : Int} {e : LedgerEntry} :
    ∀ {n : Nat} {draws : List (WalletLot × Int)}, e ∈ (debitEntries input t n draws).1 →
      ∃ m id lot taken, n ≤ m ∧ (lot, taken) ∈ draws ∧ e = debitEntry input t m id lot taken := by
  intro n draws he
  induction draws generalizing n with
  | nil => cases he
  | cons d draws ih =>
    obtain ⟨lot, taken⟩ := d
    rw [debitEntries] at he
    split at he
    · cases he
    · rcases List.mem_cons.1 he with rfl | he
      · exact ⟨n, _, lot, taken, Nat.le_refl n, List.mem_cons_self, rfl⟩
      · obtain ⟨m, id, lot', taken', hm, hmem, rfl⟩ := ih he
        exact ⟨m, id, lot', taken', by omega, List.mem_cons_of_mem _ hmem, rfl⟩

theorem debitEntries_throws_iff {input : DebitInput} {t : Int} {n : Nat}
    {draws : List (WalletLot × Int)} :
    (debitEntries input t n draws).2 = false ↔
      ∀ m < draws.length, input.idFactory (n + m) ≠ none := by
  induction draws generalizing n with
  | nil => simp [debitEntries]
  | cons d draws ih =>
    obtain ⟨lot, taken⟩ := d
    rw [debitEntries]
    split
    · next hid =>
      simp only [Bool.true_eq_false, false_iff]
      exact fun h => h 0 (by simp) hid
    · next id hid =>
      rw [ih]
      constructor
      · intro h m hm
        cases m with
        | zero => rw [Nat.add_zero, hid]; exact Option.some_ne_none id
        | succ m =>
          have := h m (by simpa using hm)
          rwa [Nat.add_right_comm] at this
      · intro h m hm
        have := h (m + 1) (by simpa using hm)
        rwa [← Nat.add_assoc, Nat.add_right_comm] at this

theorem debitEntries_eq_nil_iff {input : DebitInput} {t : Int} {n : Nat}
    {draws : List (WalletLot × Int)} :
    (debitEntries input t n draws).1 = [] ↔ draws = [] ∨ input.idFactory n = none := by
  cases draws with
  | nil => simp [debitEntries]
  | cons d draws =>
    obtain ⟨lot, taken⟩ := d
    rw [debitEntries]
    split <;> simp_all

/-- When `idFactory` does not throw, there is one entry for each draw, for the amount drawn. -/
theorem map_seconds_debitEntries {input : DebitInput} {t : Int} {n : Nat}
    {draws : List (WalletLot × Int)} (h : (debitEntries input t n draws).2 = false) :
    (debitEntries input t n draws).1.map (·.seconds) =
      (draws.map Prod.snd).map Neg.neg := by
  induction draws generalizing n with
  | nil => rfl
  | cons d draws ih =>
    obtain ⟨lot, taken⟩ := d
    rw [debitEntries] at h ⊢
    split at h
    · cases h
    · simp only [List.map_cons, ih h]
      rfl

/-- The entries name the lots drawn on, in order. -/
theorem map_lotId_debitEntries {input : DebitInput} {t : Int} {n : Nat}
    {draws : List (WalletLot × Int)} (h : (debitEntries input t n draws).2 = false) :
    (debitEntries input t n draws).1.map (·.lotId) =
      (draws.map Prod.fst).map fun lot => some lot.id := by
  induction draws generalizing n with
  | nil => rfl
  | cons d draws ih =>
    obtain ⟨lot, taken⟩ := d
    rw [debitEntries] at h ⊢
    split at h
    · cases h
    · simp only [List.map_cons, ih h]
      rfl

/-- The lots of the loop with what the wallet has on each. -/
def stocks (L : TimeLedger) (walletId : String) (lots : List WalletLot) : List (WalletLot × Int) :=
  lots.map fun lot => (lot, L.available walletId lot.id)

@[simp] theorem stocks_nil (L : TimeLedger) (walletId : String) : stocks L walletId [] = [] := rfl

@[simp] theorem stocks_cons (L : TimeLedger) (walletId : String) (lot : WalletLot)
    (lots : List WalletLot) :
    stocks L walletId (lot :: lots) =
      (lot, L.available walletId lot.id) :: stocks L walletId lots :=
  rfl

theorem available_push_of_ne {L : TimeLedger} {e : LedgerEntry} {walletId lotId : String}
    (h : e.lotId ≠ some lotId) :
    (L.push e).available walletId lotId = L.available walletId lotId := by
  simp [TimeLedger.available, List.filter_append, h]

theorem stocks_push {L : TimeLedger} {e : LedgerEntry} {walletId : String} {lots : List WalletLot}
    (h : ∀ lot ∈ lots, e.lotId ≠ some lot.id) :
    stocks (L.push e) walletId lots = stocks L walletId lots :=
  List.map_congr_left fun lot hlot => by rw [available_push_of_ne (h lot hlot)]

variable {input : DebitInput} {L : TimeLedger}

theorem debitLots_cons_of_nonpos {lot : WalletLot} {lots : List WalletLot} {remaining : Int}
    {result : List LedgerEntry} (hr : remaining ≠ 0)
    (h : L.available input.walletId lot.id ≤ 0) :
    TimeLedger.debitLots input (lot :: lots) L remaining result =
      TimeLedger.debitLots input lots L remaining result := by
  simp [TimeLedger.debitLots, hr, h]

theorem debitLots_cons_of_pos {lot : WalletLot} {lots : List WalletLot} {remaining : Int}
    {result : List LedgerEntry} (hr : remaining ≠ 0)
    (h : 0 < L.available input.walletId lot.id) :
    TimeLedger.debitLots input (lot :: lots) L remaining result =
      match input.idFactory result.length with
      | none => (.error .idFactory, L)
      | some id =>
        match L.append input.at' (debitAppend input result.length id lot
            (min (L.available input.walletId lot.id) remaining)) with
        | (.error e, L') => (.error e, L')
        | (.ok entry, L') => TimeLedger.debitLots input lots L'
            (sub remaining (min (L.available input.walletId lot.id) remaining))
            (result ++ [entry]) := by
  rw [TimeLedger.debitLots, if_neg hr]
  exact if_neg (not_le.2 h)

/-- **The loop at a valid instant** pushes the entries of `draw` up to the first throw of the
caller's `idFactory`. By induction on the lots: an entry made for one lot changes neither what the
wallet has on the later ones nor which of the later keys are free. -/
theorem debitLots_eq {t : Int} (ht : input.at' = some t) {lots : List WalletLot}
    (hlots : (lots.map (·.id)).Nodup) {remaining : Int} (h0 : 0 ≤ remaining)
    (hsafe : remaining ≤ Number.maxSafeInteger) {result : List LedgerEntry}
    (hfree : ∀ n, result.length ≤ n →
      L.byIdempotencyKey.get? (debitKey input.idempotencyKey n) = none) :
    let draws := draw (stocks L input.walletId lots) remaining
    let made := debitEntries input t result.length draws
    TimeLedger.debitLots input lots L remaining result =
      (if made.2 then .error .idFactory
        else .ok (remaining - (draws.map Prod.snd).sum, result ++ made.1),
        L.pushAll made.1) := by
  induction lots generalizing L remaining result with
  | nil => simp [TimeLedger.debitLots, debitEntries]
  | cons lot lots ih =>
    rw [List.map_cons, List.nodup_cons] at hlots
    by_cases hr : remaining = 0
    · simp [TimeLedger.debitLots, hr, debitEntries]
    by_cases hav : L.available input.walletId lot.id ≤ 0
    · rw [debitLots_cons_of_nonpos hr hav, ih hlots.2 h0 hsafe hfree]
      simp only [stocks_cons, draw_cons_of_nonpos hav]
    have hpos : 0 < L.available input.walletId lot.id := by omega
    rw [debitLots_cons_of_pos hr hpos]
    simp only [stocks_cons, draw_cons_of_pos hr hpos, debitEntries, List.map_cons]
    generalize htaken : min (L.available input.walletId lot.id) remaining = taken
    cases hid : input.idFactory result.length with
    | none => rfl
    | some id =>
      let entry := debitEntry input t result.length id lot taken
      have happend : L.append input.at' (debitAppend input result.length id lot taken) =
          (.ok entry, L.push entry) := by
        rw [append_debitAppend (by omega) (by omega) (hfree _ (Nat.le_refl _))]
        simp only [ht, entry]
      have hnext : ∀ n, (result ++ [entry]).length ≤ n →
          (L.push entry).byIdempotencyKey.get? (debitKey input.idempotencyKey n) = none := by
        intro n hn
        rw [List.length_append, List.length_singleton] at hn
        have hne : ¬entry.idempotencyKey = debitKey input.idempotencyKey n := fun h => by
          have := debitKey_inj.1 h
          omega
        rw [TimeLedger.push_get?, if_neg hne]
        exact hfree n (by omega)
      have hsub : sub remaining taken = remaining - taken := by
        refine sub_of_le (abs_le.2 ⟨?_, ?_⟩) <;> rw [Number.maxSafeInteger] at hsafe <;> omega
      have hlater : ∀ lot' ∈ lots, entry.lotId ≠ some lot'.id := fun lot' hlot' h =>
        hlots.1 (List.mem_map.2 ⟨lot', hlot', (Option.some.inj h).symm⟩)
      have hrest := @ih (L.push entry) hlots.2 (remaining - taken) (by omega) (by omega)
        (result ++ [entry]) hnext
      rw [stocks_push hlater, List.length_append, List.length_singleton] at hrest
      simp only [happend, hsub, hrest, List.sum_cons,
        TimeLedger.pushAll_cons, List.append_assoc, List.singleton_append, Int.sub_sub]
      rfl

/-- The loop at an invalid instant throws at its first draw, before anything is pushed. -/
theorem debitLots_invalid (ht : input.at' = none) {lots : List WalletLot} {remaining : Int}
    (h0 : 0 ≤ remaining) (hsafe : remaining ≤ Number.maxSafeInteger) {result : List LedgerEntry}
    (hfree : L.byIdempotencyKey.get? (debitKey input.idempotencyKey result.length) = none) :
    if draw (stocks L input.walletId lots) remaining = [] then
      TimeLedger.debitLots input lots L remaining result = (.ok (remaining, result), L)
    else ∃ e, TimeLedger.debitLots input lots L remaining result = (.error e, L) := by
  induction lots with
  | nil => simp [TimeLedger.debitLots]
  | cons lot lots ih =>
    by_cases hr : remaining = 0
    · simp [TimeLedger.debitLots, hr]
    by_cases hav : L.available input.walletId lot.id ≤ 0
    · rw [debitLots_cons_of_nonpos hr hav]
      simpa only [stocks_cons, draw_cons_of_nonpos hav] using ih
    have hpos : 0 < L.available input.walletId lot.id := by omega
    rw [debitLots_cons_of_pos hr hpos]
    simp only [stocks_cons, draw_cons_of_pos hr hpos, reduceCtorEq, if_false]
    cases input.idFactory result.length with
    | none => exact ⟨_, rfl⟩
    | some id =>
      simp only
      rw [append_debitAppend (by omega) (by omega) hfree]
      simp only [ht]
      exact ⟨_, rfl⟩

/-! ## The whole call -/

section Call

variable (host : Host)

theorem existing_eq_nil_iff {key : String} :
    L.existing key = [] ↔ ∀ e ∈ L.entries, startsWith e.idempotencyKey (key ++ ":") = false := by
  simp [TimeLedger.existing, List.filter_eq_nil_iff]

/-- With no entry under a debit's key, every key its loop can use is free. -/
theorem WellFormed.debitKey_free (h : WellFormed L) {key : String} (hkey : L.existing key = [])
    (n : Nat) : L.byIdempotencyKey.get? (debitKey key n) = none :=
  h.get?_eq_none fun e he hek => by
    have hout := existing_eq_nil_iff.1 hkey e he
    rw [hek, startsWith_debitKey] at hout
    cases hout

theorem mem_debitableLots {walletId : String} {at' : Date} {lot : WalletLot} :
    lot ∈ L.debitableLots host walletId at' ↔
      lot ∈ L.lots ∧ lot.walletId = walletId ∧ lot.live host at' = true := by
  rw [TimeLedger.debitableLots, (List.perm_insertionSort _ _).mem_iff, List.mem_filter,
    Bool.and_eq_true, decide_eq_true_eq]

theorem WellFormed.debitableLots_nodup (h : WellFormed L) (walletId : String) (at' : Date) :
    ((L.debitableLots host walletId at').map (·.id)).Nodup :=
  (((List.perm_insertionSort _ _).map _).nodup_iff).2 ((List.filter_sublist.map _).nodup h.lotIds)

/-- What the wallet has on its lots that are live at the debit's instant, in the order drawn. -/
def liveStocks (L : TimeLedger) (walletId : String) (at' : Date) : List (WalletLot × Int) :=
  stocks L walletId (L.debitableLots host walletId at')

theorem validSeconds?_eq_some {seconds : Int} (h : input.validSeconds? = some seconds) :
    input.seconds = .ofInt seconds ∧ 0 < seconds ∧ seconds ≤ Number.maxSafeInteger := by
  unfold DebitInput.validSeconds? at h
  split at h
  · cases h
  · next hle =>
    obtain ⟨heq, habs⟩ := Number.safeInteger?_eq_some h
    rw [heq, Number.leZero_ofInt, decide_eq_true_eq] at hle
    exact ⟨heq, by omega, (abs_le.1 habs).2⟩

/-- A debit whose key has entries returns them and changes nothing. -/
theorem debitFifo_replay (hkey : L.existing input.idempotencyKey ≠ []) :
    L.debitFifo host input = (.ok (L.existing input.idempotencyKey), L) := by
  rw [TimeLedger.debitFifo, if_pos hkey]

/-- A debit for an invalid amount, or for more than the balance, throws and changes nothing. -/
theorem debitFifo_refused (hkey : L.existing input.idempotencyKey = [])
    (h : ∀ seconds, input.validSeconds? = some seconds →
      L.balance host input.walletId input.at' < seconds) :
    ∃ e, L.debitFifo host input = (.error e, L) := by
  rw [TimeLedger.debitFifo, if_neg (not_not.2 hkey)]
  cases hs : input.validSeconds? with
  | none => exact ⟨_, rfl⟩
  | some seconds => exact ⟨.insufficientBalance, by simp only [if_pos (h seconds hs)]⟩

variable {seconds : Int}

/-- A debit that reaches its loop at a valid instant. -/
theorem debitFifo_loop (hwf : WellFormed L) (hkey : L.existing input.idempotencyKey = [])
    (hs : input.validSeconds? = some seconds)
    (hb : seconds ≤ L.balance host input.walletId input.at') {t : Int} (ht : input.at' = some t) :
    let draws := draw (liveStocks host L input.walletId input.at') seconds
    let made := debitEntries input t 0 draws
    L.debitFifo host input =
      (if made.2 then .error .idFactory
        else if seconds ≤ capacity (liveStocks host L input.walletId input.at') then .ok made.1
        else .error .lotInvariant,
        L.pushAll made.1) := by
  intro draws made
  obtain ⟨-, hpos, hsafe⟩ := validSeconds?_eq_some hs
  have hsum : (draws.map Prod.snd).sum =
      min seconds (capacity (liveStocks host L input.walletId input.at')) := sum_draw _ hpos.le
  have hloop : TimeLedger.debitLots input (L.debitableLots host input.walletId input.at') L seconds
      [] = (if made.2 then .error .idFactory
        else .ok (seconds - (draws.map Prod.snd).sum, made.1), L.pushAll made.1) :=
    debitLots_eq ht (hwf.debitableLots_nodup host input.walletId input.at') hpos.le hsafe
      fun n _ => hwf.debitKey_free hkey n
  rw [TimeLedger.debitFifo, if_neg (not_not.2 hkey)]
  simp only [hs, if_neg (not_lt.2 hb), hloop, hsum]
  cases made.2 with
  | true => rfl
  | false =>
    by_cases hcap : seconds ≤ capacity (liveStocks host L input.walletId input.at')
    · simp [hcap]
    · have hne :
          seconds - min seconds (capacity (liveStocks host L input.walletId input.at')) ≠ 0 := by
        omega
      simp [hcap, hne]

/-- At an invalid instant a debit throws and changes nothing. -/
theorem debitFifo_invalid (hwf : WellFormed L) (hkey : L.existing input.idempotencyKey = [])
    (ht : input.at' = none) : ∃ e, L.debitFifo host input = (.error e, L) := by
  rw [TimeLedger.debitFifo, if_neg (not_not.2 hkey)]
  cases hs : input.validSeconds? with
  | none => exact ⟨_, rfl⟩
  | some seconds =>
    obtain ⟨-, hpos, hsafe⟩ := validSeconds?_eq_some hs
    simp only
    split
    · exact ⟨_, rfl⟩
    · have hloop := @debitLots_invalid input L ht (L.debitableLots host input.walletId input.at')
        seconds hpos.le hsafe [] (hwf.debitKey_free hkey 0)
      split at hloop
      · rw [hloop]
        exact ⟨.lotInvariant, by simp [hpos.ne']⟩
      · obtain ⟨e, he⟩ := hloop
        rw [he]
        exact ⟨e, rfl⟩

/-- A debit gets past the replay test and its checks, and enters its loop. -/
structure EntersLoop (L : TimeLedger) (input : DebitInput) (t seconds : Int) : Prop where
  fresh : L.existing input.idempotencyKey = []
  time : input.at' = some t
  valid : input.validSeconds? = some seconds
  funded : seconds ≤ L.balance host input.walletId input.at'

/-- **What a debit can do**: replay, throw with the ledger as it was, or run its loop. -/
theorem debitFifo_cases (hwf : WellFormed L) (input : DebitInput) :
    (L.existing input.idempotencyKey ≠ [] ∧
      L.debitFifo host input = (.ok (L.existing input.idempotencyKey), L)) ∨
    (L.existing input.idempotencyKey = [] ∧ (∀ t seconds, ¬EntersLoop host L input t seconds) ∧
      ∃ e, L.debitFifo host input = (.error e, L)) ∨
    ∃ t seconds, EntersLoop host L input t seconds := by
  by_cases hkey : L.existing input.idempotencyKey = []
  · by_cases hloop : ∃ t seconds, EntersLoop host L input t seconds
    · exact .inr (.inr hloop)
    · refine .inr (.inl ⟨hkey, fun t seconds h => hloop ⟨t, seconds, h⟩, ?_⟩)
      cases ht : input.at' with
      | none => exact debitFifo_invalid host hwf hkey ht
      | some t =>
        refine debitFifo_refused host hkey fun seconds hs => ?_
        rw [← not_le]
        exact fun hb => hloop ⟨t, seconds, hkey, ht, hs, hb⟩
  · exact .inl ⟨hkey, debitFifo_replay host hkey⟩

/-- The draws of a debit that enters its loop, and the entries it then makes. -/
def loopDraws (L : TimeLedger) (input : DebitInput) (seconds : Int) : List (WalletLot × Int) :=
  draw (liveStocks host L input.walletId input.at') seconds

theorem EntersLoop.debitFifo_eq {host : Host} {t : Int} (h : EntersLoop host L input t seconds)
    (hwf : WellFormed L) :
    L.debitFifo host input =
      (if (debitEntries input t 0 (loopDraws host L input seconds)).2 then .error .idFactory
        else if seconds ≤ capacity (liveStocks host L input.walletId input.at') then
          .ok (debitEntries input t 0 (loopDraws host L input seconds)).1
        else .error .lotInvariant,
        L.pushAll (debitEntries input t 0 (loopDraws host L input seconds)).1) :=
  debitFifo_loop host hwf h.fresh h.valid h.funded h.time

end Call

/-! ## Runs -/

section Runs

variable {host : Host}

theorem WellFormed.pushAll_debitEntries {t : Int} {draws : List (WalletLot × Int)} {n : Nat}
    (h : WellFormed L) (hfree : ∀ m, n ≤ m →
      L.byIdempotencyKey.get? (debitKey input.idempotencyKey m) = none) :
    WellFormed (L.pushAll (debitEntries input t n draws).1) := by
  induction draws generalizing L n with
  | nil => exact h
  | cons d draws ih =>
    obtain ⟨lot, taken⟩ := d
    rw [debitEntries]
    split
    · exact h
    · next id _ =>
      refine ih (h.push (hfree n (Nat.le_refl n))) fun m hm => ?_
      have hne : ¬debitKey input.idempotencyKey n = debitKey input.idempotencyKey m := fun hk => by
        have := debitKey_inj.1 hk
        omega
      exact (TimeLedger.push_get? ..).trans ((if_neg hne).trans (hfree m (by omega)))

theorem WellFormed.debitFifo (h : WellFormed L) (input : DebitInput) :
    WellFormed (L.debitFifo host input).2 := by
  rcases debitFifo_cases host h input with ⟨-, he⟩ | ⟨-, -, e, he⟩ | ⟨t, seconds, hl⟩
  · rw [he]; exact h
  · rw [he]; exact h
  · rw [hl.debitFifo_eq h]
    exact h.pushAll_debitEntries fun m _ => h.debitKey_free hl.fresh m

theorem WellFormed.after (h : WellFormed L) (call : LedgerCall) :
    WellFormed (L.after host call) := by
  cases call with
  | addLot lot => exact h.addLot lot
  | append now input => exact h.append now input
  | debitFifo input => exact h.debitFifo input

/-- **Every ledger that a sequence of calls can reach is well formed.** -/
theorem wellFormed_runLedger (calls : List LedgerCall) : WellFormed (runLedger host calls) := by
  suffices h : ∀ L, WellFormed L → WellFormed (calls.foldl (TimeLedger.after host) L) from
    h _ .empty
  induction calls with
  | nil => exact fun L h => h
  | cons call calls ih => exact fun L h => ih _ (h.after call)

theorem runLedger_append (calls more : List LedgerCall) :
    runLedger host (calls ++ more) = more.foldl (TimeLedger.after host) (runLedger host calls) :=
  List.foldl_append

/-- Entries are only ever added. -/
theorem entries_isPrefix_after (h : WellFormed L) (call : LedgerCall) :
    L.entries <+: (L.after host call).entries := by
  cases call with
  | addLot lot =>
    rw [TimeLedger.after, TimeLedger.addLot]
    split
    · exact List.prefix_rfl
    · split <;> exact List.prefix_rfl
  | append now input =>
    rw [TimeLedger.after]
    rcases append_cases L now input with hL | ⟨e, -, he, -⟩
    · rw [hL]
    · rw [he]; exact List.prefix_append _ _
  | debitFifo input =>
    rw [TimeLedger.after]
    rcases debitFifo_cases host h input with ⟨-, he⟩ | ⟨-, -, e, he⟩ | ⟨t, seconds, hl⟩
    · rw [he]
    · rw [he]
    · rw [hl.debitFifo_eq h, TimeLedger.pushAll_entries]
      exact List.prefix_append _ _

theorem entries_isPrefix_foldl (h : WellFormed L) (calls : List LedgerCall) :
    L.entries <+: (calls.foldl (TimeLedger.after host) L).entries := by
  induction calls generalizing L with
  | nil => exact List.prefix_rfl
  | cons call calls ih => exact (entries_isPrefix_after h call).trans (ih (h.after call))

end Runs

end RcOnline.Domain
