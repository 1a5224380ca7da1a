import RcOnline.Domain.LedgerAtomicity

/-!
# What a successful debit takes

A debit that is not a replay and returns takes its amount from live lots of its wallet, one entry a
lot, without overdrawing any of them. The wallet's balance falls by the amount as long as it was a
safe integer: beyond `2^53` the sum over the entries is itself rounded, and the fall with it
(`hugeWallet_debit_rounds`).
-/

namespace RcOnline.Domain

open RcOnline.Lib

/-- What a debit that returns `es` and leaves `L'` behind has done. -/
structure FifoDebit (host : Host) (L : TimeLedger) (input : DebitInput) (es : List LedgerEntry)
    (L' : TimeLedger) : Prop where
  appended : L'.entries = L.entries ++ es
  negative : ∀ e ∈ es, e.seconds < 0
  lots : ∀ e ∈ es, ∃ lot ∈ L.lots, e.lotId = some lot.id ∧ lot.walletId = input.walletId ∧
    lot.expired host input.at' = false
  distinct : (es.map (·.lotId)).Nodup
  total : .ofInt (-(es.map (·.seconds)).sum) = input.seconds
  others : ∀ walletId, walletId ≠ input.walletId → ∀ at',
    L'.balance host walletId at' = L.balance host walletId at'
  nets : ∀ e ∈ es, ∀ lotId, e.lotId = some lotId → 0 ≤ L'.available input.walletId lotId

/-- The balance of the debit's wallet at its instant falls by the amount asked for. -/
def FallsByAmount (host : Host) (L : TimeLedger) (input : DebitInput) (L' : TimeLedger) : Prop :=
  .ofInt (L.balance host input.walletId input.at' - L'.balance host input.walletId input.at') =
    input.seconds

variable {host : Host} {L : TimeLedger} {input : DebitInput}

theorem expired_of_live {lot : WalletLot} {at' : Date} (h : lot.live host at' = true) :
    lot.expired host at' = false := by
  unfold WalletLot.live at h
  unfold WalletLot.expired
  split
  · rfl
  · next text heq =>
    rw [heq] at h
    simp only at h
    cases hp : host.parseDate text with
    | none => rfl
    | some p =>
      cases at' with
      | none => rfl
      | some t =>
        rw [hp] at h
        simp only [Date.gt, decide_eq_true_eq] at h
        simp only [Date.le, decide_eq_false_iff_not]
        omega

/-- A lot that is live is not among the expired ones: its id is its own. -/
theorem not_mem_expiredLots (hwf : WellFormed L) {lot : WalletLot} {walletId : String} {at' : Date}
    (hmem : lot ∈ L.lots) (hlive : lot.live host at' = true) :
    lot.id ∉ L.expiredLots host walletId at' := by
  intro hexp
  obtain ⟨other, hother, hid⟩ := List.mem_map.1 hexp
  obtain ⟨hmem', hcond⟩ := List.mem_filter.1 hother
  obtain rfl : other = lot := List.inj_on_of_nodup_map hwf.lotIds hmem' hmem hid
  rw [expired_of_live hlive, Bool.and_false] at hcond
  cases hcond

theorem expiredLots_pushAll (es : List LedgerEntry) (walletId : String) (at' : Date) :
    (L.pushAll es).expiredLots host walletId at' = L.expiredLots host walletId at' := by
  simp [TimeLedger.expiredLots]

/-- Entries of another wallet leave a balance alone. -/
theorem balance_pushAll_other {es : List LedgerEntry} {walletId : String} {at' : Date}
    (h : ∀ e ∈ es, e.walletId ≠ walletId) :
    (L.pushAll es).balance host walletId at' = L.balance host walletId at' := by
  have hnil : es.filter (fun e => e.walletId = walletId &&
      e.lotId.all (!(L.expiredLots host walletId at').contains ·)) = [] :=
    List.filter_eq_nil_iff.2 fun e he => by simp [h e he]
  simp only [TimeLedger.balance, expiredLots_pushAll, TimeLedger.pushAll_entries,
    List.filter_append, hnil, List.append_nil]

/-- Entries of the wallet that are on none of its expired lots are all counted. -/
theorem balance_pushAll_own {es : List LedgerEntry} {walletId : String} {at' : Date}
    (h : ∀ e ∈ es, e.walletId = walletId ∧
      ∀ lotId, e.lotId = some lotId → lotId ∉ L.expiredLots host walletId at') :
    (L.pushAll es).balance host walletId at' =
      sumFrom (L.balance host walletId at') (es.map (·.seconds)) := by
  have hall : es.filter (fun e => e.walletId = walletId &&
      e.lotId.all (!(L.expiredLots host walletId at').contains ·)) = es := by
    rw [List.filter_eq_self]
    intro e he
    obtain ⟨hw, hlot⟩ := h e he
    rw [Bool.and_eq_true, decide_eq_true_eq, Option.all_eq_true]
    exact ⟨hw, fun lotId hl => by simpa using hlot lotId hl⟩
  simp only [TimeLedger.balance, expiredLots_pushAll, TimeLedger.pushAll_entries,
    List.filter_append, hall, List.map_append, sumFrom_append]

/-- The entry of a list that has a given value, when no two entries share one. -/
theorem filter_eq_singleton {α β : Type} [DecidableEq β] {f : α → β} {xs : List α}
    (h : (xs.map f).Nodup) {x : α} (hx : x ∈ xs) : xs.filter (fun y => f y = f x) = [x] := by
  induction xs with
  | nil => cases hx
  | cons y ys ih =>
    rw [List.map_cons, List.nodup_cons] at h
    rcases List.mem_cons.1 hx with rfl | hx
    · have hrest : ys.filter (fun z => f z = f x) = [] := List.filter_eq_nil_iff.2 fun z hz heq =>
        h.1 (List.mem_map.2 ⟨z, hz, by simpa using heq⟩)
      simp [hrest]
    · have hne : ¬f y = f x := fun heq => h.1 (List.mem_map.2 ⟨x, hx, heq.symm⟩)
      rw [List.filter_cons_of_neg (by simpa using hne), ih h.2 hx]

/-! ## The entries of a debit -/

/-- The draw of one live lot, within what the wallet has on it. -/
def DrawsOnLot (host : Host) (L : TimeLedger) (input : DebitInput) (t : Int) (e : LedgerEntry) :
    Prop :=
  ∃ n id lot taken, e = debitEntry input t n id lot taken ∧ 0 < taken ∧ lot ∈ L.lots ∧
    lot.walletId = input.walletId ∧ lot.live host input.at' = true ∧
    taken ≤ L.available input.walletId lot.id

variable {t seconds : Int}

theorem drawsOnLot_of_mem (hpos : 0 < seconds) {e : LedgerEntry}
    (he : e ∈ (debitEntries input t 0 (loopDraws host L input seconds)).1) :
    DrawsOnLot host L input t e := by
  obtain ⟨n, id, lot, taken, -, hdraw, rfl⟩ := mem_debitEntries he
  obtain ⟨stock, hstock, hle⟩ := le_stock_of_mem_draw hdraw
  obtain ⟨lot', hlot', hpair⟩ := List.mem_map.1 hstock
  obtain ⟨rfl, rfl⟩ := Prod.mk.inj hpair
  obtain ⟨hmem, hw, hlive⟩ := (mem_debitableLots host).1 hlot'
  exact ⟨n, id, lot', taken, rfl, pos_of_mem_draw hpos.le hdraw, hmem, hw, hlive, hle⟩

/-- A loop draws on each lot once. -/
theorem nodup_loopDraws (hwf : WellFormed L) (input : DebitInput) (seconds : Int) :
    ((loopDraws host L input seconds).map fun d => some d.1.id).Nodup := by
  have hids :
      ((L.debitableLots host input.walletId input.at').map fun lot => some lot.id).Nodup := by
    have := (hwf.debitableLots_nodup host input.walletId input.at').map
      (Option.some_injective String)
    rwa [List.map_map] at this
  have hsub := draw_sublist (liveStocks host L input.walletId input.at') seconds
  rw [liveStocks, stocks, List.map_map] at hsub
  have hdrawn := (hsub.map fun lot : WalletLot => some lot.id).nodup
  rw [List.map_map, List.map_map] at hdrawn
  exact hdrawn hids

/-- The entries are on lots of their own. -/
theorem nodup_debitEntries (hwf : WellFormed L)
    (hthrow : (debitEntries input t 0 (loopDraws host L input seconds)).2 = false) :
    ((debitEntries input t 0 (loopDraws host L input seconds)).1.map (·.lotId)).Nodup := by
  rw [map_lotId_debitEntries hthrow, List.map_map]
  exact nodup_loopDraws hwf input seconds

/-- The one entry on a lot is added to what the wallet has on it. -/
theorem available_pushAll_of_mem {es : List LedgerEntry}
    (hown : ∀ d ∈ es, d.walletId = input.walletId) (hdistinct : (es.map (·.lotId)).Nodup)
    {e : LedgerEntry} (he : e ∈ es) {lotId : String} (hlot : e.lotId = some lotId) :
    (L.pushAll es).available input.walletId lotId =
      add (L.available input.walletId lotId) e.seconds := by
  have honly :
      es.filter (fun d => d.walletId = input.walletId && d.lotId = some lotId) = [e] := by
    rw [← filter_eq_singleton hdistinct he, hlot]
    exact List.filter_congr fun d hd => by simp [hown d hd]
  rw [TimeLedger.available, TimeLedger.pushAll_entries, List.filter_append, honly,
    List.map_append, sumFrom_append]
  rfl

/-- The debit takes from a lot no more than the wallet has on it. -/
theorem available_pushAll_nonneg {es : List LedgerEntry}
    (hentry : ∀ e ∈ es, DrawsOnLot host L input t e) (hdistinct : (es.map (·.lotId)).Nodup)
    {e : LedgerEntry} (he : e ∈ es) {lotId : String} (hlot : e.lotId = some lotId) :
    0 ≤ (L.pushAll es).available input.walletId lotId := by
  have hown : ∀ d ∈ es, d.walletId = input.walletId := fun d hd => by
    obtain ⟨n, id, lot, taken, rfl, -⟩ := hentry d hd
    rfl
  rw [available_pushAll_of_mem hown hdistinct he hlot]
  obtain ⟨n, id, lot, taken, rfl, -, -, -, -, hle⟩ := hentry e he
  obtain rfl : lot.id = lotId := Option.some.inj hlot
  refine add_nonneg ?_
  have : L.available input.walletId lot.id + -taken ≥ 0 := by omega
  exact this

/-- A balance that is a safe integer falls by the sum of the draws. -/
theorem balance_pushAll_debit (hwf : WellFormed L) (hpos : 0 < seconds)
    (hthrow : (debitEntries input t 0 (loopDraws host L input seconds)).2 = false)
    (hcap : seconds ≤ capacity (liveStocks host L input.walletId input.at'))
    (hfunded : seconds ≤ L.balance host input.walletId input.at')
    (hbal : L.balance host input.walletId input.at' ≤ Number.maxSafeInteger) :
    (L.pushAll (debitEntries input t 0 (loopDraws host L input seconds)).1).balance host
        input.walletId input.at' =
      L.balance host input.walletId input.at' - seconds := by
  have hcounted : ∀ e ∈ (debitEntries input t 0 (loopDraws host L input seconds)).1,
      e.walletId = input.walletId ∧ ∀ lotId, e.lotId = some lotId →
        lotId ∉ L.expiredLots host input.walletId input.at' := by
    intro e he
    obtain ⟨n, id, lot, taken, rfl, -, hmem, -, hlive, -⟩ := drawsOnLot_of_mem hpos he
    refine ⟨rfl, fun lotId hlot => ?_⟩
    obtain rfl : lot.id = lotId := Option.some.inj hlot
    exact not_mem_expiredLots hwf hmem hlive
  have htotal : ((loopDraws host L input seconds).map Prod.snd).sum = seconds := by
    rw [loopDraws, sum_draw _ hpos.le, min_eq_left hcap]
  have hstart : L.balance host input.walletId input.at' ≤ 2 ^ 53 := by
    rw [Number.maxSafeInteger] at hbal
    omega
  rw [balance_pushAll_own hcounted, map_seconds_debitEntries hthrow, sumFrom_neg_of_le hstart,
    htotal]
  · intro x hx
    obtain ⟨d, hd, rfl⟩ := List.mem_map.1 hx
    exact (pos_of_mem_draw hpos.le hd).le
  · rw [htotal]
    exact hfunded

/-- **A debit that is not a replay and returns**, at every ledger that calls can reach. -/
theorem debitFifo_takes_amount (host : Host) (calls : List LedgerCall) (input : DebitInput)
    (es : List LedgerEntry) (L' : TimeLedger)
    (hran : (runLedger host calls).debitFifo host input = (.ok es, L'))
    (hfresh : ∀ e ∈ (runLedger host calls).entries,
      startsWith e.idempotencyKey (input.idempotencyKey ++ ":") = false) :
    FifoDebit host (runLedger host calls) input es L' ∧
      ((runLedger host calls).balance host input.walletId input.at' ≤ Number.maxSafeInteger →
        FallsByAmount host (runLedger host calls) input L') := by
  have hwf : WellFormed (runLedger host calls) := wellFormed_runLedger calls
  generalize runLedger host calls = L at hwf hran hfresh ⊢
  obtain ⟨t, seconds, hl, hthrow, hcap, rfl, rfl, hsum⟩ :=
    sum_of_debitFifo_ok hwf (existing_eq_nil_iff.2 hfresh) hran
  obtain ⟨heq, hpos, -⟩ := validSeconds?_eq_some hl.valid
  have hentry : ∀ e ∈ (debitEntries input t 0 (loopDraws host L input seconds)).1,
      DrawsOnLot host L input t e := fun e he => drawsOnLot_of_mem hpos he
  have hdistinct := nodup_debitEntries hwf hthrow
  refine ⟨⟨TimeLedger.pushAll_entries _ _, ?_, ?_, hdistinct, hsum, ?_, ?_⟩, fun hbal => ?_⟩
  · intro e he
    obtain ⟨n, id, lot, taken, rfl, htaken, -⟩ := hentry e he
    exact neg_neg_of_pos htaken
  · intro e he
    obtain ⟨n, id, lot, taken, rfl, -, hmem, hw, hlive, -⟩ := hentry e he
    exact ⟨lot, hmem, rfl, hw, expired_of_live hlive⟩
  · intro walletId hne at'
    refine balance_pushAll_other fun e he hw => ?_
    obtain ⟨n, id, lot, taken, rfl, -⟩ := hentry e he
    exact hne hw.symm
  · exact fun e he lotId hlot => available_pushAll_nonneg hentry hdistinct he hlot
  · rw [FallsByAmount, balance_pushAll_debit hwf hpos hthrow hcap hl.funded hbal, heq,
      Number.ofInt_inj]
    omega

/-! ## A debit in the safe range, and one beyond it -/

/-- A host that reads the one expiry date of `starterPack`. -/
def starterHost : Host where
  parseDate text := if text = "2026-08-01T00:00:00.000Z" then some 1785542400000 else none
  localeCompare := plainHost.localeCompare

/-- A wallet with 300 seconds on a lot that expires and 600 seconds on one that does not. -/
def starterPack : List LedgerCall :=
  [.addLot ⟨"lot-a", "wallet", .ofInt 300, some "2026-08-01T00:00:00.000Z",
      "2026-01-01T00:00:00.000Z"⟩,
    .addLot ⟨"lot-b", "wallet", .ofInt 600, none, "2026-01-02T00:00:00.000Z"⟩,
    creditOf "wallet" (some "lot-a") 300 "purchase-a",
    creditOf "wallet" (some "lot-b") 600 "purchase-b"]

def starterDebit : DebitInput := { debitOf "wallet" 420 "ride-1" with at' := some 1784937600000 }

/-- The entries of a debit of 420 seconds: the expiring lot is emptied first. -/
def starterEntries : List LedgerEntry :=
  [{ id := "debit-0", walletId := "wallet", lotId := some "lot-a", kind := .rideDebit,
      seconds := -300, idempotencyKey := "ride-1:0", reason := "ride settlement",
      occurredAt := 1784937600000, metadata := [] },
    { id := "debit-1", walletId := "wallet", lotId := some "lot-b", kind := .rideDebit,
      seconds := -120, idempotencyKey := "ride-1:1", reason := "ride settlement",
      occurredAt := 1784937600000, metadata := [] }]

theorem starterPack_debit :
    FifoDebit starterHost (runLedger starterHost starterPack) starterDebit starterEntries
        ((runLedger starterHost starterPack).debitFifo starterHost starterDebit).2 ∧
      FallsByAmount starterHost (runLedger starterHost starterPack) starterDebit
        ((runLedger starterHost starterPack).debitFifo starterHost starterDebit).2 := by
  obtain ⟨hdebit, hfalls⟩ := debitFifo_takes_amount starterHost starterPack starterDebit
    starterEntries _ (Prod.ext (by decide) rfl) (by decide)
  exact ⟨hdebit, hfalls (by decide)⟩

/-- A wallet whose two credits sum to `2^54 - 2`. -/
def hugeWallet : List LedgerCall :=
  [lotOf "lot-a" "wallet", creditOf "wallet" (some "lot-a") Number.maxSafeInteger "purchase-a",
    creditOf "wallet" (some "lot-a") Number.maxSafeInteger "purchase-b"]

/-- A debit of one second from `hugeWallet` lowers its balance by two. -/
theorem hugeWallet_debit_rounds :
    ∃ es L', (runLedger plainHost hugeWallet).debitFifo plainHost (debitOf "wallet" 1 "ride-1") =
        (.ok es, L') ∧
      (∀ e ∈ (runLedger plainHost hugeWallet).entries,
        startsWith e.idempotencyKey ("ride-1" ++ ":") = false) ∧
      ¬FallsByAmount plainHost (runLedger plainHost hugeWallet) (debitOf "wallet" 1 "ride-1")
        L' := by
  refine ⟨[debitEntry (debitOf "wallet" 1 "ride-1") 0 0 "debit-0"
    ⟨"lot-a", "wallet", .ofInt 100, none, ""⟩ 1], _, Prod.ext (by decide) rfl, by decide, ?_⟩
  rw [FallsByAmount]
  decide

end RcOnline.Domain
