import RcOnline.Domain.LedgerBalance
import RcOnline.Lib.Sorting

/-!
# The order of a debit

The loop of a debit goes through the wallet's live lots in the order of `Precedes`, and goes on only
from a lot that it has emptied or that had nothing to give. So whatever it appends, and whether it
returns or throws, at most one of its lots is left partly used (`debitFifo_in_order`).
-/

namespace RcOnline.Domain

open RcOnline.Lib

/-- One lot comes before another: it expires earlier, or was created earlier where both expire at
one time. A lot that never expires comes last. -/
def Precedes (host : Host) (a b : WalletLot) : Prop :=
  match a.expiry host, b.expiry host with
  | some x, some y => x < y ∨ x = y ∧ host.localeCompare a.createdAt b.createdAt < 0
  | some _, none => True
  | none, some _ => False
  | none, none => host.localeCompare a.createdAt b.createdAt < 0

/-- What a debit that appends some entries does to the wallet's lots. -/
structure InOrder (host : Host) (L : TimeLedger) (input : DebitInput) (made : List LedgerEntry)
    (after : TimeLedger) : Prop where
  earlier : ∀ e ∈ made, ∀ lot ∈ L.lots, e.lotId = some lot.id →
    ∀ other ∈ L.lots, other.walletId = input.walletId → other.live host input.at' = true →
      Precedes host other lot →
        L.available input.walletId other.id ≤ 0 ∨ after.available input.walletId other.id = 0
  partly : ∀ e ∈ made, ∀ e' ∈ made, ∀ lotId lotId', e.lotId = some lotId →
    e'.lotId = some lotId' → after.available input.walletId lotId ≠ 0 →
      after.available input.walletId lotId' ≠ 0 → lotId = lotId'
  unexpired : ∀ e ∈ made, ∃ lot ∈ L.lots, e.lotId = some lot.id ∧
    lot.walletId = input.walletId ∧ lot.live host input.at' = true ∧
    lot.expired host input.at' = false

variable {host : Host} {L : TimeLedger} {input : DebitInput}

/-! ## The comparator -/

section Comparator

variable {a b c : WalletLot}

theorem not_compareLots_of_precedes (h : Collates host) (hab : Precedes host a b) :
    ¬ compareLots host b a ≤ 0 := by
  unfold Precedes at hab
  unfold compareLots
  cases ha : a.expiry host with
  | none =>
    cases hb : b.expiry host with
    | none =>
      simp only [ha, hb] at hab ⊢
      exact Int.not_le.2 ((h.swap _ _).1 hab)
    | some y =>
      simp only [ha, hb] at hab
  | some x =>
    cases hb : b.expiry host with
    | none => simp
    | some y =>
      simp only [ha, hb] at hab ⊢
      rcases hab with hlt | ⟨rfl, hcreated⟩
      · rw [if_neg (by omega)]
        omega
      · rw [if_pos (by omega)]
        exact Int.not_le.2 ((h.swap _ _).1 hcreated)

theorem compareLots_total (h : Collates host) (a b : WalletLot) :
    compareLots host a b ≤ 0 ∨ compareLots host b a ≤ 0 := by
  have hcreated := h.total a.createdAt b.createdAt
  unfold compareLots
  cases a.expiry host with
  | none =>
    cases b.expiry host with
    | none => exact hcreated
    | some y => simp
  | some x =>
    cases b.expiry host with
    | none => simp
    | some y =>
      dsimp only
      by_cases hxy : x = y
      · rw [if_pos (by omega), if_pos (by omega)]
        exact hcreated
      · rw [if_neg (by omega), if_neg (by omega)]
        omega

theorem compareLots_trans (h : Collates host) (hab : compareLots host a b ≤ 0)
    (hbc : compareLots host b c ≤ 0) : compareLots host a c ≤ 0 := by
  have hcreated := h.trans a.createdAt b.createdAt c.createdAt
  unfold compareLots at *
  cases ha : a.expiry host <;> cases hb : b.expiry host <;> cases hc : c.expiry host <;>
    simp only [ha, hb, hc] at * <;> omega

end Comparator

/-- The lots of the loop are in order. -/
theorem pairwise_debitableLots (h : Collates host) (walletId : String) (at' : Date) :
    (L.debitableLots host walletId at').Pairwise fun a b => compareLots host a b ≤ 0 := by
  have htotal : Std.Total fun a b : WalletLot => compareLots host a b ≤ 0 :=
    ⟨compareLots_total h⟩
  have htrans : IsTrans WalletLot fun a b => compareLots host a b ≤ 0 :=
    ⟨fun _ _ _ => compareLots_trans h⟩
  exact List.pairwise_insertionSort _ _

/-! ## The entries of the loop -/

section Entries

variable {t seconds : Int}

/-- The entries are the draws up to some number of them. -/
theorem debitEntries_eq_take (input : DebitInput) (t : Int) (n : Nat)
    (draws : List (WalletLot × Int)) :
    ∃ k, (debitEntries input t n draws).1.map (fun e => (e.lotId, e.seconds)) =
      (draws.take k).map fun d => (some d.1.id, -d.2) := by
  induction draws generalizing n with
  | nil => exact ⟨0, rfl⟩
  | cons d draws ih =>
    obtain ⟨lot, taken⟩ := d
    rw [debitEntries]
    split
    · exact ⟨0, rfl⟩
    · obtain ⟨k, hk⟩ := ih (n + 1)
      refine ⟨k + 1, ?_⟩
      rw [List.take_succ_cons, List.map_cons, List.map_cons, hk]
      rfl

/-- The draw that an entry is made for, with entries for all that come before it. -/
theorem draw_of_debitEntries {draws : List (WalletLot × Int)} {n : Nat} {e : LedgerEntry}
    {first rest : List LedgerEntry}
    (h : (debitEntries input t n draws).1 = first ++ e :: rest) :
    ∃ before d after, draws = before ++ d :: after ∧ e.lotId = some d.1.id ∧
      first.map (fun e => (e.lotId, e.seconds)) = before.map fun d => (some d.1.id, -d.2) := by
  obtain ⟨k, hk⟩ := debitEntries_eq_take input t n draws
  rw [h, List.map_append, List.map_cons] at hk
  obtain ⟨before, tail, htake, hbefore, htail⟩ := List.map_eq_append_iff.1 hk.symm
  obtain ⟨d, after, rfl, hd, -⟩ := List.map_eq_cons_iff.1 htail
  refine ⟨before, d, after ++ draws.drop k, ?_, (congrArg Prod.fst hd).symm, hbefore.symm⟩
  rw [← List.cons_append, ← List.append_assoc, ← htake, List.take_append_drop]

/-- The entries are on lots of their own, also where the caller's `idFactory` throws. -/
theorem nodup_lotId_debitEntries (hwf : WellFormed L) :
    ((debitEntries input t 0 (loopDraws host L input seconds)).1.map (·.lotId)).Nodup := by
  obtain ⟨k, hk⟩ := debitEntries_eq_take input t 0 (loopDraws host L input seconds)
  have hlots := congrArg (List.map Prod.fst) hk
  rw [List.map_map, List.map_map] at hlots
  change ((debitEntries input t 0 (loopDraws host L input seconds)).1.map
    (Prod.fst ∘ fun e => (e.lotId, e.seconds))).Nodup
  rw [hlots, List.map_take]
  exact (List.take_sublist _ _).nodup (nodup_loopDraws hwf input seconds)

/-- Before a lot is drawn on, those before it have nothing to give, or an entry empties them. -/
theorem emptied_of_draw (hwf : WellFormed L) {first rest : List LedgerEntry} {e : LedgerEntry}
    (h : (debitEntries input t 0 (loopDraws host L input seconds)).1 = first ++ e :: rest) :
    (∀ e' ∈ first, ∀ lotId, e'.lotId = some lotId →
      (L.pushAll (first ++ e :: rest)).available input.walletId lotId = 0) ∧
    ∃ before lot after, L.debitableLots host input.walletId input.at' = before ++ lot :: after ∧
      e.lotId = some lot.id ∧ ∀ other ∈ before, L.available input.walletId other.id ≤ 0 ∨
        ∃ e' ∈ first, e'.lotId = some other.id := by
  obtain ⟨draws, d, draws', hdraws, hlot, hfirst⟩ := draw_of_debitEntries h
  obtain ⟨stocksBefore, stock, stocksAfter, hstocks, hfull⟩ := draw_split hdraws
  obtain ⟨before, tail, hlots, hbefore, htail⟩ := List.map_eq_append_iff.1 hstocks
  obtain ⟨lot, after, rfl, hpair, -⟩ := List.map_eq_cons_iff.1 htail
  have hown : ∀ d ∈ first ++ e :: rest, d.walletId = input.walletId := by
    rw [← h]
    intro d hd
    obtain ⟨m, id, lot, taken, -, -, rfl⟩ := mem_debitEntries hd
    rfl
  have hdistinct : ((first ++ e :: rest).map (·.lotId)).Nodup := by
    rw [← h]
    exact nodup_lotId_debitEntries hwf
  refine ⟨fun e' he' lotId hlotId => ?_, before, lot, after, hlots, ?_, fun other hother => ?_⟩
  · -- the entry takes the whole sum of its lot
    have hentry := List.mem_map_of_mem (f := fun e : LedgerEntry => (e.lotId, e.seconds)) he'
    rw [hfirst, hfull, ← hbefore] at hentry
    obtain ⟨draw, hdraw, heq⟩ := List.mem_map.1 hentry
    obtain ⟨other, -, rfl⟩ := List.mem_map.1 (List.mem_filter.1 hdraw).1
    obtain ⟨hid, hseconds⟩ := Prod.mk.inj heq
    obtain rfl := Option.some.inj (hid.trans hlotId)
    rw [available_pushAll_of_mem hown hdistinct (List.mem_append_left _ he') hlotId, ← hseconds,
      add_of_le (by simp), add_neg_cancel]
  · rw [hlot, ← congrArg Prod.fst hpair]
  · by_cases hgives : 0 < L.available input.walletId other.id
    · have hdrawn : (other, L.available input.walletId other.id) ∈ draws := by
        rw [hfull, ← hbefore, List.mem_filter]
        exact ⟨List.mem_map_of_mem hother, by simpa using hgives⟩
      have hentry : (some other.id, -L.available input.walletId other.id) ∈
          first.map fun e => (e.lotId, e.seconds) := by
        rw [hfirst]
        exact List.mem_map_of_mem (f := fun d : WalletLot × Int => (some d.1.id, -d.2)) hdrawn
      obtain ⟨e', he', hpair'⟩ := List.mem_map.1 hentry
      exact .inr ⟨e', he', congrArg Prod.fst hpair'⟩
    · exact .inl (Int.not_lt.1 hgives)

end Entries

/-- The loop keeps the order, whether it is finished or given up. -/
theorem EntersLoop.inOrder {t seconds : Int} (hl : EntersLoop host L input t seconds)
    (hwf : WellFormed L) (hcollates : Collates host) :
    InOrder host L input (debitEntries input t 0 (loopDraws host L input seconds)).1
      (L.pushAll (debitEntries input t 0 (loopDraws host L input seconds)).1) := by
  obtain ⟨-, hpos, -⟩ := validSeconds?_eq_some hl.valid
  have htotal : Std.Total fun a b : WalletLot => compareLots host a b ≤ 0 :=
    ⟨compareLots_total hcollates⟩
  have hsorted := pairwise_debitableLots (L := L) hcollates input.walletId input.at'
  have hids := hwf.debitableLots_nodup host input.walletId input.at'
  generalize hmade : (debitEntries input t 0 (loopDraws host L input seconds)).1 = made
  constructor
  case earlier =>
    intro e he lot hlot hlotId other hother hwallet hlive hprecedes
    obtain ⟨first, rest, rfl⟩ := List.append_of_mem he
    obtain ⟨hemptied, before, lot', after, hlots, hlotId', hgiven⟩ := emptied_of_draw hwf hmade
    have hmem : lot' ∈ L.debitableLots host input.walletId input.at' := by simp [hlots]
    have hsame : lot' = lot := by
      refine List.inj_on_of_nodup_map hwf.lotIds ((mem_debitableLots host).1 hmem).1 hlot ?_
      exact Option.some.inj (hlotId'.symm.trans hlotId)
    have hother' := (mem_debitableLots host).2 ⟨hother, hwallet, hlive⟩
    rw [hlots, hsame] at hsorted hother'
    have hbefore := mem_before_of_sorted hsorted
      (not_compareLots_of_precedes hcollates hprecedes) hother'
    refine (hgiven other hbefore).imp_right ?_
    rintro ⟨e', he', hother''⟩
    exact hemptied e' he' other.id hother''
  case partly =>
    -- the later of two entries finds the lot of the earlier one emptied
    have hlater : ∀ first e rest, made = first ++ e :: rest → ∀ e' ∈ first, ∀ lotId,
        e'.lotId = some lotId → (L.pushAll made).available input.walletId lotId = 0 := by
      rintro first e rest rfl
      exact (emptied_of_draw hwf hmade).1
    intro e he e' he' lotId lotId' hlotId hlotId' hleft hleft'
    obtain ⟨first, rest, hsplit⟩ := List.append_of_mem he
    rw [hsplit] at he'
    rcases List.mem_append.1 he' with he' | he'
    · exact absurd (hlater first e rest hsplit e' he' lotId' hlotId') hleft'
    · rcases List.mem_cons.1 he' with rfl | he'
      · exact Option.some.inj (hlotId.symm.trans hlotId')
      · obtain ⟨mid, rest', rfl⟩ := List.append_of_mem he'
        refine absurd (hlater (first ++ e :: mid) e' rest' (by simp [hsplit]) e ?_ lotId hlotId)
          hleft
        simp
  case unexpired =>
    intro e he
    subst hmade
    obtain ⟨n, id, lot, taken, rfl, -, hmem, hwallet, hlive, -⟩ := drawsOnLot_of_mem hpos he
    exact ⟨lot, hmem, rfl, hwallet, hlive, expired_of_live hlive⟩

/-- **Main result.** At every ledger that calls can reach, whatever a debit appends it takes from
the wallet's live lots in order, one after the other is empty. -/
theorem debitFifo_in_order {host : Host} (hcollates : Collates host) (calls : List LedgerCall)
    (input : DebitInput) (made : List LedgerEntry)
    (hmade : ((runLedger host calls).debitFifo host input).2.entries =
      (runLedger host calls).entries ++ made) :
    InOrder host (runLedger host calls) input made
      ((runLedger host calls).debitFifo host input).2 := by
  have hwf : WellFormed (runLedger host calls) := wellFormed_runLedger calls
  generalize runLedger host calls = L at hwf hmade ⊢
  have hnothing : ∀ after, L.entries = L.entries ++ made → InOrder host L input made after := by
    intro after hsame
    obtain rfl := List.self_eq_append_right.1 hsame
    exact ⟨nofun, nofun, nofun⟩
  rcases debitFifo_cases host hwf input with ⟨-, he⟩ | ⟨-, -, e, he⟩ | ⟨t, seconds, hl⟩
  · rw [he] at hmade
    exact hnothing _ hmade
  · rw [he] at hmade
    exact hnothing _ hmade
  · have heq := congrArg Prod.snd (hl.debitFifo_eq hwf)
    rw [heq] at hmade ⊢
    rw [TimeLedger.pushAll_entries] at hmade
    obtain rfl := List.append_cancel_left hmade
    exact hl.inOrder hwf hcollates

theorem starterHost_collates : Collates starterHost := .of_lt fun _ _ => rfl

/-- The starter pack's expiring lot is emptied before the other is drawn on. -/
theorem starterPack_in_order :
    starterEntries ≠ [] ∧
      InOrder starterHost (runLedger starterHost starterPack) starterDebit starterEntries
        ((runLedger starterHost starterPack).debitFifo starterHost starterDebit).2 :=
  ⟨nofun, debitFifo_in_order starterHost_collates starterPack starterDebit starterEntries
    (by decide)⟩

end RcOnline.Domain
