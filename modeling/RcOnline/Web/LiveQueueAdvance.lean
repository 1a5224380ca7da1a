import RcOnline.Web.LiveQueue

/-!
# Advancing the live queue

`advanceLiveQueue_spec` says what one advance leaves behind, for any rows, cars and instant. The
loop is first compared with `advanced`, the new versions of the live rows in queue order
(`advanceRows_eq`); the facts about survivors are then inductions over that list, with the number
of rows kept so far generalized.
-/

namespace RcOnline.Web

open RcOnline.Lib RcOnline.Schema

/-! ## One row -/

section rows

variable (k : Nat) (now : Int)

/-- What an advance makes of a live row before which `kept` rows were kept. -/
def advanceRow (kept : Nat) (entry : QueueEntry) : QueueEntry :=
  if kept < k then
    if entry.status = .offered then
      if entry.expiresAt ≤ now then { entry with status := .missed, updatedAt := now } else entry
    else { entry with status := .offered, expiresAt := now + queueOfferMs, updatedAt := now }
  else if entry.status = .waiting then entry
  else { entry with status := .waiting, expiresAt := now + queueLeaseMs, updatedAt := now }

/-- The new versions of the live rows. -/
def advanced : Nat → List QueueEntry → List QueueEntry
  | _, [] => []
  | kept, entry :: rest =>
    let entry := advanceRow k now kept entry
    entry :: advanced (if entry.status.live then kept + 1 else kept) rest

/-- The rows that an advance keeps. -/
def survivors (kept : Nat) (rows : List QueueEntry) : List QueueEntry :=
  (advanced k now kept rows).filter (·.status.live)

/-- A row that an advance may meet: live, and not a waiting row whose lease has run out. -/
def Pending (entry : QueueEntry) : Prop :=
  entry.status.live ∧ (entry.status = .waiting → now < entry.expiresAt)

/-- A row that `kept` rows come before, as an advance leaves it. -/
structure Settled (kept : Nat) (entry : QueueEntry) : Prop where
  status : entry.status = if kept < k then .offered else .waiting
  fresh : now < entry.expiresAt

variable {k now}

theorem Settled.live {kept : Nat} {entry : QueueEntry} (h : Settled k now kept entry) :
    entry.status.live = true := by
  rw [h.status]
  split <;> rfl

/-- An advance takes back a missed offer, and settles any other row. -/
theorem advanceRow_cases (k kept : Nat) {entry : QueueEntry} (h : Pending now entry) :
    (entry.status = .offered ∧ entry.expiresAt ≤ now ∧ kept < k ∧
      advanceRow k now kept entry = { entry with status := .missed, updatedAt := now }) ∨
    Settled k now kept (advanceRow k now kept entry) := by
  unfold advanceRow
  split
  · next hk =>
    split
    · next ho =>
      split
      · next hexp => exact .inl ⟨ho, hexp, hk, rfl⟩
      · next hexp => exact .inr ⟨by rw [if_pos hk, ho], Int.not_le.1 hexp⟩
    · exact .inr ⟨(if_pos hk).symm, by simp only [queueOfferMs]; omega⟩
  · next hk =>
    split
    · next hw => exact .inr ⟨by rw [if_neg hk, hw], h.2 hw⟩
    · exact .inr ⟨(if_neg hk).symm, by simp only [queueLeaseMs]; omega⟩

/-- A settled row stays as it is. -/
theorem advanceRow_settled {kept : Nat} {entry : QueueEntry} (h : Settled k now kept entry) :
    advanceRow k now kept entry = entry := by
  have hstatus := h.status
  unfold advanceRow
  split
  · next hk =>
    rw [if_pos hk] at hstatus
    rw [if_pos hstatus, if_neg (Int.not_le.2 h.fresh)]
  · next hk =>
    rw [if_neg hk] at hstatus
    rw [if_pos hstatus]

/-- The columns that an advance leaves alone. -/
theorem advanceRow_columns (k : Nat) (now : Int) (kept : Nat) (entry : QueueEntry) :
    (advanceRow k now kept entry).id = entry.id ∧
      (advanceRow k now kept entry).userId = entry.userId ∧
      (advanceRow k now kept entry).joinedAt = entry.joinedAt ∧
      (advanceRow k now kept entry).createdAt = entry.createdAt := by
  unfold advanceRow
  split
  · split
    · split <;> exact ⟨rfl, rfl, rfl, rfl⟩
    · exact ⟨rfl, rfl, rfl, rfl⟩
  · split <;> exact ⟨rfl, rfl, rfl, rfl⟩

/-! ## The live rows -/

theorem survivors_cons (kept : Nat) (entry : QueueEntry) (rest : List QueueEntry) :
    survivors k now kept (entry :: rest) =
      if (advanceRow k now kept entry).status.live then
        advanceRow k now kept entry :: survivors k now (kept + 1) rest
      else survivors k now kept rest := by
  unfold survivors
  rw [advanced, List.filter_cons]
  split <;> rfl

/-- A column that an advance leaves alone. -/
theorem advanced_column {β : Type*} {g : QueueEntry → β}
    (hg : ∀ kept entry, g (advanceRow k now kept entry) = g entry) (kept : Nat)
    (rows : List QueueEntry) : (advanced k now kept rows).map g = rows.map g := by
  induction rows generalizing kept with
  | nil => rfl
  | cons entry rest ih => rw [advanced, List.map_cons, List.map_cons, hg, ih]

theorem advanced_append (kept : Nat) (before rows : List QueueEntry) :
    advanced k now kept (before ++ rows) =
      advanced k now kept before ++
        advanced k now (kept + (survivors k now kept before).length) rows := by
  induction before generalizing kept with
  | nil => rfl
  | cons entry rest ih =>
    rw [List.cons_append, advanced, advanced, List.cons_append, survivors_cons, ih]
    split
    · rw [List.length_cons, Nat.add_assoc, Nat.add_comm 1]
    · rfl

theorem survivors_append (kept : Nat) (before rows : List QueueEntry) :
    survivors k now kept (before ++ rows) =
      survivors k now kept before ++
        survivors k now (kept + (survivors k now kept before).length) rows := by
  conv_lhs => unfold survivors
  rw [advanced_append, List.filter_append]
  rfl

/-- Every survivor is the new version of a row, at the row's place in the queue. -/
theorem old_of_mem_survivors {rows : List QueueEntry} {kept : Nat} {entry : QueueEntry}
    (h : entry ∈ survivors k now kept rows) :
    ∃ old ∈ rows,
      entry.id = old.id ∧ entry.userId = old.userId ∧ entry.joinedAt = old.joinedAt := by
  have hmem := List.mem_map_of_mem (f := fun e : QueueEntry => (e.id, e.userId, e.joinedAt))
    (List.mem_filter.1 h).1
  rw [advanced_column fun kept entry => by
    obtain ⟨hid, huser, hjoined, -⟩ := advanceRow_columns k now kept entry
    rw [hid, huser, hjoined]] at hmem
  obtain ⟨old, hold, heq⟩ := List.mem_map.1 hmem
  simp only [Prod.mk.injEq] at heq
  exact ⟨old, hold, heq.1.symm, heq.2.1.symm, heq.2.2.symm⟩

/-- Every survivor is a live row's new version, settled at its place. -/
theorem mem_survivors {rows : List QueueEntry} (hp : ∀ entry ∈ rows, Pending now entry) {kept : Nat}
    {entry : QueueEntry} (h : entry ∈ survivors k now kept rows) :
    ∃ old ∈ rows, ∃ n, entry = advanceRow k now n old ∧ Settled k now n entry := by
  induction rows generalizing kept with
  | nil => cases h
  | cons first rest ih =>
    have hrest := fun e he => hp e (List.mem_cons_of_mem first he)
    rw [survivors_cons] at h
    split at h
    · next hlive =>
      rcases List.mem_cons.1 h with rfl | h
      · refine ⟨first, List.mem_cons_self, kept, rfl, ?_⟩
        rcases advanceRow_cases k kept (hp first List.mem_cons_self) with
          ⟨-, -, -, hmissed⟩ | hsettled
        · rw [hmissed] at hlive
          cases hlive
        · exact hsettled
      · obtain ⟨old, hold, hn⟩ := ih hrest h
        exact ⟨old, List.mem_cons_of_mem first hold, hn⟩
    · obtain ⟨old, hold, hn⟩ := ih hrest h
      exact ⟨old, List.mem_cons_of_mem first hold, hn⟩

/-- The first survivors are offered as far as the capacity goes, and the others wait. -/
theorem survivors_status {rows : List QueueEntry} (hp : ∀ entry ∈ rows, Pending now entry)
    (kept : Nat) :
    (survivors k now kept rows).map (·.status) =
      List.replicate (min (k - kept) (survivors k now kept rows).length) .offered ++
        List.replicate ((survivors k now kept rows).length - (k - kept)) .waiting := by
  induction rows generalizing kept with
  | nil => simp [survivors, advanced]
  | cons first rest ih =>
    have hrest := fun e he => hp e (List.mem_cons_of_mem first he)
    rw [survivors_cons]
    rcases advanceRow_cases k kept (hp first List.mem_cons_self) with
      ⟨-, -, -, hmissed⟩ | hsettled
    · rw [hmissed]
      exact ih hrest kept
    · rw [if_pos hsettled.live, List.map_cons, ih hrest, hsettled.status, List.length_cons]
      split
      · next hk =>
        rw [show k - kept = k - (kept + 1) + 1 by omega, Nat.add_min_add_right,
          List.replicate_succ, Nat.add_sub_add_right]
        rfl
      · next hk =>
        rw [show k - kept = 0 by omega, show k - (kept + 1) = 0 by omega, Nat.zero_min,
          Nat.zero_min, Nat.sub_zero, Nat.sub_zero, List.replicate_succ]
        rfl

/-- Advancing the survivors again changes none of them. -/
theorem advanced_survivors {rows : List QueueEntry} (hp : ∀ entry ∈ rows, Pending now entry)
    (kept : Nat) :
    advanced k now kept (survivors k now kept rows) = survivors k now kept rows := by
  induction rows generalizing kept with
  | nil => rfl
  | cons first rest ih =>
    have hrest := fun e he => hp e (List.mem_cons_of_mem first he)
    rw [survivors_cons]
    rcases advanceRow_cases k kept (hp first List.mem_cons_self) with
      ⟨-, -, -, hmissed⟩ | hsettled
    · rw [hmissed]
      exact ih hrest kept
    · rw [if_pos hsettled.live, advanced, advanceRow_settled hsettled, if_pos hsettled.live,
        ih hrest]

theorem survivors_survivors {rows : List QueueEntry} (hp : ∀ entry ∈ rows, Pending now entry)
    (kept : Nat) :
    survivors k now kept (survivors k now kept rows) = survivors k now kept rows := by
  conv_lhs => unfold survivors
  rw [show (advanced k now kept rows).filter (·.status.live) = survivors k now kept rows from rfl,
    advanced_survivors hp, survivors, List.filter_filter]
  simp only [Bool.and_self]

theorem advanceRow_key (kept : Nat) (entry : QueueEntry) :
    Row.key (advanceRow k now kept entry) = Row.key entry := (advanceRow_columns k now kept entry).1

end rows

/-! ## The loop -/

/-- One pass of the loop stores the row's new version, and keeps it if it is live. -/
theorem advanceEntry_eq {k : Nat} {now : Int} {table : Table QueueEntry} {entries : List QueueRow}
    {entry : QueueEntry} (h : entry ∈ table.rows) :
    advanceEntry k now (table, entries) (queueRow entry) =
      (table.replace [advanceRow k now entries.length entry],
        entries ++ if (advanceRow k now entries.length entry).status.live then
          [queueRow (advanceRow k now entries.length entry)] else []) := by
  have hsame : ∀ r : QueueEntry, decide (r.id = entry.id) = true ↔ Row.key r = Row.key entry :=
    fun r => decide_eq_true_iff
  have hself : table.replace [entry] = table :=
    Table.replace_self (List.nodup_singleton _) fun n hn => List.mem_singleton.1 hn ▸ h
  unfold advanceEntry advanceRow
  by_cases hk : entries.length < k
  · by_cases ho : entry.status = .offered
    · by_cases hexp : entry.expiresAt ≤ now
      · simp [hk, ho, hexp, queueRow, Table.update_eq_replace hsame h, QueueStatus.live]
      · simp [hk, ho, hexp, queueRow, hself, QueueStatus.live]
    · simp [hk, ho, queueRow, QueueStatus.live]
      exact Table.update_eq_replace hsame h
  · by_cases hw : entry.status = .waiting
    · simp [hk, hw, queueRow, hself, QueueStatus.live]
    · simp [hk, hw, queueRow, QueueStatus.live]
      exact Table.update_eq_replace hsame h

/-- The loop stores the new versions of the live rows and returns the survivors. -/
theorem advanceEntries_eq {k : Nat} {now : Int} {rows : List QueueEntry} {table : Table QueueEntry}
    {entries : List QueueRow} (hnd : (rows.map Row.key).Nodup)
    (hsub : ∀ entry ∈ rows, entry ∈ table.rows) :
    (rows.map queueRow).foldl (advanceEntry k now) (table, entries) =
      (table.replace (advanced k now entries.length rows),
        entries ++ (survivors k now entries.length rows).map queueRow) := by
  induction rows generalizing table entries with
  | nil => simp [advanced, survivors, Table.replace_nil]
  | cons first rest ih =>
    rw [List.map_cons, List.nodup_cons] at hnd
    have hkey : ∀ kept, Row.key (advanceRow k now entries.length first) ∉
        (advanced k now kept rest).map Row.key := by
      intro kept
      rw [advanced_column advanceRow_key, advanceRow_key]
      exact hnd.1
    -- the pass over the first row leaves the others where they are
    have hrest : ∀ entry ∈ rest,
        entry ∈ (table.replace [advanceRow k now entries.length first]).rows := by
      intro entry hentry
      refine List.mem_map.2 ⟨entry, hsub entry (List.mem_cons_of_mem first hentry), ?_⟩
      apply Table.standIn_of_notMem
      rw [List.map_singleton, List.mem_singleton, advanceRow_key]
      intro h
      exact hnd.1 (h ▸ List.mem_map_of_mem hentry)
    rw [List.map_cons, List.foldl_cons, advanceEntry_eq (hsub first List.mem_cons_self),
      ih hnd.2 hrest, Table.replace_replace (hkey _), survivors_cons, advanced]
    split
    · rw [List.length_append, List.length_singleton, List.append_assoc, List.map_cons]
      rfl
    · rw [List.append_nil]

/-! ## The order of the queue -/

instance : Std.Total Before where
  total a b := by
    rcases lt_trichotomy a.joinedAt b.joinedAt with hlt | heq | hgt
    · exact .inl (.inl hlt)
    · rcases le_total a.id b.id with hle | hle
      · exact .inl (.inr ⟨heq, hle⟩)
      · exact .inr (.inr ⟨heq.symm, hle⟩)
    · exact .inr (.inl hgt)

instance : IsTrans QueueEntry Before where
  trans a b c hab hbc := by
    rcases hab with hab | ⟨hab, hid⟩ <;> rcases hbc with hbc | ⟨hbc, hid'⟩
    · exact .inl (hab.trans hbc)
    · exact .inl (hab.trans_eq hbc)
    · exact .inl (hab.trans_lt hbc)
    · exact .inr ⟨hab.trans hbc, hid.trans hid'⟩

theorem mem_liveQueue {table : Table QueueEntry} {entry : QueueEntry} :
    entry ∈ liveQueue table ↔ entry ∈ table.rows ∧ entry.status.live = true := by
  unfold liveQueue Table.select
  rw [(List.perm_insertionSort _ _).mem_iff, List.mem_filter]

theorem liveQueue_nodup (table : Table QueueEntry) : ((liveQueue table).map Row.key).Nodup :=
  ((List.perm_insertionSort _ _).map _).nodup_iff.2 ((List.filter_sublist.map _).nodup table.nodup)

theorem liveQueue_sorted (table : Table QueueEntry) : (liveQueue table).Pairwise Before :=
  List.pairwise_insertionSort _ _

/-- Rows with one key that come before each other are one row of the queue. -/
theorem key_of_before {a b : QueueEntry} (hab : Before a b) (hba : Before b a) :
    Row.key a = Row.key b := by
  rcases hab with hab | ⟨hab, hid⟩ <;> rcases hba with hba | ⟨hba, hid'⟩
  · exact absurd hba hab.asymm
  · exact absurd hba hab.ne'
  · exact absurd hab hba.ne'
  · exact le_antisymm hid hid'

/-- The queue is strictly ordered by joining time, then by id. -/
theorem liveQueue_strict (table : Table QueueEntry) :
    (liveQueue table).Pairwise fun a b =>
      a.joinedAt < b.joinedAt ∨ (a.joinedAt = b.joinedAt ∧ a.id < b.id) := by
  have hids : (liveQueue table).Pairwise fun a b => a.id ≠ b.id :=
    List.pairwise_map.1 (liveQueue_nodup table)
  refine ((liveQueue_sorted table).and hids).imp ?_
  rintro a b ⟨hbefore, hne⟩
  exact hbefore.imp_right (And.imp_right fun hle => lt_of_le_of_ne hle hne)

/-- A sorted listing of the live rows is the queue. -/
theorem liveQueue_eq {table : Table QueueEntry} {rows : List QueueEntry}
    (hnd : (rows.map Row.key).Nodup) (hsorted : rows.Pairwise Before)
    (hmem : ∀ entry, entry ∈ rows ↔ entry ∈ table.rows ∧ entry.status.live = true) :
    liveQueue table = rows := by
  have hperm : (liveQueue table).Perm rows :=
    (List.perm_ext_iff_of_nodup (List.Nodup.of_map _ (liveQueue_nodup table))
      (List.Nodup.of_map _ hnd)).2 fun entry => mem_liveQueue.trans (hmem entry).symm
  apply hperm.eq_of_pairwise _ (liveQueue_sorted table) hsorted
  intro a b ha hb hab hba
  exact Table.eq_of_key (mem_liveQueue.1 ha).1 ((hmem b).1 hb).1 (key_of_before hab hba)

/-! ## One advance -/

/-- What an advance leaves of the rows `old`: the rows `new` and the entries it returns. -/
structure Advance (k : Nat) (now : Int) (old new : Table QueueEntry) (entries : List QueueRow) :
    Prop where
  stored : (liveQueue new).map queueRow = entries
  ordered : (liveQueue new).Pairwise fun a b =>
    a.joinedAt < b.joinedAt ∨ (a.joinedAt = b.joinedAt ∧ a.id < b.id)
  statuses : entries.map (·.status) =
    List.replicate (min k entries.length) .offered ++
      List.replicate (entries.length - k) .waiting
  fresh : ∀ entry ∈ entries, now < entry.expiresAt
  /-- A live row is kept, or expires, or was offered in vain where there was room for it. -/
  dropped : ∀ entry ∈ old.rows, entry.status.live = true →
    (∃ kept ∈ liveQueue new,
      kept.id = entry.id ∧ kept.userId = entry.userId ∧ kept.joinedAt = entry.joinedAt) ∨
    (entry.status = .waiting ∧ entry.expiresAt ≤ now ∧
      { entry with status := .expired, updatedAt := now } ∈ new.rows) ∨
    (entry.status = .offered ∧ entry.expiresAt ≤ now ∧
      (liveQueue new).countP (Before · entry) < k ∧
      { entry with status := .missed, updatedAt := now } ∈ new.rows)
  /-- Nothing comes to the queue. -/
  source : ∀ kept ∈ liveQueue new, ∃ entry ∈ old.rows, entry.status.live = true ∧
    kept.id = entry.id ∧ kept.userId = entry.userId ∧ kept.joinedAt = entry.joinedAt
  frame : ∀ entry ∈ old.rows, entry.status.live = false → entry ∈ new.rows

section advance

variable {k : Nat} {now : Int} {table : Table QueueEntry}

/-- What the first statement leaves of a row. -/
theorem mem_expireWaiting {entry : QueueEntry} :
    entry ∈ (expireWaiting now table).rows ↔
      (entry ∈ table.rows ∧ ¬ (entry.status = .waiting ∧ entry.expiresAt ≤ now)) ∨
      ∃ old ∈ table.rows, old.status = .waiting ∧ old.expiresAt ≤ now ∧
        entry = { old with status := .expired, updatedAt := now } := by
  unfold expireWaiting
  rw [Table.mem_update]
  constructor
  · rintro ⟨old, hold, rfl⟩
    by_cases hp : old.status = .waiting ∧ old.expiresAt ≤ now
    · rw [patch_of (by simpa using hp)]
      exact .inr ⟨old, hold, hp.1, hp.2, rfl⟩
    · rw [patch_of_not (by simpa using hp)]
      exact .inl ⟨hold, hp⟩
  · rintro (⟨hentry, hp⟩ | ⟨old, hold, hw, hexp, rfl⟩)
    · exact ⟨entry, hentry, patch_of_not (by simpa using hp)⟩
    · exact ⟨old, hold, patch_of (by simpa using ⟨hw, hexp⟩)⟩

/-- The rows that the loop meets. -/
theorem mem_pending {entry : QueueEntry} :
    entry ∈ liveQueue (expireWaiting now table) ↔ entry ∈ table.rows ∧ Pending now entry := by
  rw [mem_liveQueue, mem_expireWaiting]
  constructor
  · rintro ⟨⟨hentry, hp⟩ | ⟨old, -, -, -, rfl⟩, hlive⟩
    · exact ⟨hentry, hlive, fun hw => Int.not_le.1 fun hexp => hp ⟨hw, hexp⟩⟩
    · cases hlive
  · rintro ⟨hentry, hlive, hw⟩
    exact ⟨.inl ⟨hentry, fun h => absurd (hw h.1) (Int.not_lt.2 h.2)⟩, hlive⟩

/-- The stored rows after the loop: the new versions of the pending rows, and the rest. -/
theorem mem_advanced {entry : QueueEntry} :
    entry ∈ ((expireWaiting now table).replace
        (advanced k now 0 (liveQueue (expireWaiting now table)))).rows ↔
      entry ∈ advanced k now 0 (liveQueue (expireWaiting now table)) ∨
        (entry ∈ (expireWaiting now table).rows ∧ entry.status.live = false) := by
  have hkeys : (advanced k now 0 (liveQueue (expireWaiting now table))).map Row.key =
      (liveQueue (expireWaiting now table)).map Row.key := advanced_column advanceRow_key _ _
  rw [Table.mem_replace (by rw [hkeys]; exact liveQueue_nodup _), hkeys]
  · refine or_congr_right (and_congr_right fun hentry => ?_)
    constructor
    · intro hkey
      rw [Bool.eq_false_iff]
      exact fun hlive => hkey (List.mem_map_of_mem (mem_liveQueue.2 ⟨hentry, hlive⟩))
    · rintro hdead hkey
      obtain ⟨row, hrow, heq⟩ := List.mem_map.1 hkey
      obtain rfl := Table.eq_of_key (mem_liveQueue.1 hrow).1 hentry heq
      rw [(mem_liveQueue.1 hrow).2] at hdead
      cases hdead
  · intro n hn
    have hkey : Row.key n ∈ (liveQueue (expireWaiting now table)).map Row.key :=
      hkeys ▸ List.mem_map_of_mem hn
    obtain ⟨row, hrow, heq⟩ := List.mem_map.1 hkey
    exact ⟨row, (mem_liveQueue.1 hrow).1, heq⟩

/-- The survivors come in the order of the queue. -/
theorem survivors_sorted (kept : Nat) {rows : List QueueEntry} (h : rows.Pairwise Before) :
    (survivors k now kept rows).Pairwise Before := by
  have hmap : ((advanced k now kept rows).map fun e => (e.joinedAt, e.id)).Pairwise fun a b =>
      a.1 < b.1 ∨ (a.1 = b.1 ∧ a.2 ≤ b.2) := by
    rw [advanced_column fun kept entry => by
      rw [(advanceRow_columns k now kept entry).1, (advanceRow_columns k now kept entry).2.2.1]]
    exact List.pairwise_map.2 h
  exact (List.pairwise_map.1 hmap).filter _

/-- The live rows after the loop are the survivors. -/
theorem liveQueue_advanced :
    liveQueue ((expireWaiting now table).replace
        (advanced k now 0 (liveQueue (expireWaiting now table)))) =
      survivors k now 0 (liveQueue (expireWaiting now table)) := by
  apply liveQueue_eq
  · apply (List.filter_sublist.map _).nodup
    rw [advanced_column advanceRow_key]
    exact liveQueue_nodup _
  · exact survivors_sorted 0 (liveQueue_sorted _)
  · intro entry
    rw [mem_advanced, survivors, List.mem_filter]
    constructor
    · rintro ⟨hentry, hlive⟩
      exact ⟨.inl hentry, hlive⟩
    · rintro ⟨hentry | ⟨-, hdead⟩, hlive⟩
      · exact ⟨hentry, hlive⟩
      · rw [hdead] at hlive
        cases hlive

/-- The survivors that come before a dropped row are those of the rows before it. -/
theorem countP_survivors {before after : List QueueEntry} {entry : QueueEntry} (kept : Nat)
    (hsorted : (before ++ entry :: after).Pairwise Before)
    (hnd : ((before ++ entry :: after).map Row.key).Nodup)
    (hdropped : (advanceRow k now (kept + (survivors k now kept before).length) entry).status.live
      = false) :
    (survivors k now kept (before ++ entry :: after)).countP (Before · entry) =
      (survivors k now kept before).length := by
  rw [List.pairwise_append, List.pairwise_cons] at hsorted
  rw [List.map_append, List.map_cons, List.nodup_append, List.nodup_cons] at hnd
  obtain ⟨-, ⟨hafter, -⟩, hbefore⟩ := hsorted
  have hall : (survivors k now kept before).countP (Before · entry) =
      (survivors k now kept before).length := by
    rw [List.countP_eq_length]
    intro e he
    obtain ⟨old, hold, hid, -, hjoined⟩ := old_of_mem_survivors he
    have hb := hbefore old hold entry List.mem_cons_self
    apply decide_eq_true
    unfold Before at hb ⊢
    rwa [hid, hjoined]
  rw [survivors_append, survivors_cons, hdropped, if_neg Bool.false_ne_true, List.countP_append,
    hall, Nat.add_eq_left, List.countP_eq_zero]
  intro e he hb
  obtain ⟨old, hold, hid, -, hjoined⟩ := old_of_mem_survivors he
  have hold' : Before old entry := by
    have hb := of_decide_eq_true hb
    unfold Before at hb ⊢
    rwa [hid, hjoined] at hb
  exact hnd.2.1.1 (key_of_before hold' (hafter old hold) ▸ List.mem_map_of_mem hold)

/-- The loop over the pending rows is an advance. -/
theorem advance_of_loop (k : Nat) (now : Int) (table : Table QueueEntry) :
    Advance k now table
      ((expireWaiting now table).replace (advanced k now 0 (liveQueue (expireWaiting now table))))
      ((survivors k now 0 (liveQueue (expireWaiting now table))).map queueRow) := by
  have hpending : ∀ entry ∈ liveQueue (expireWaiting now table), Pending now entry :=
    fun entry h => (mem_pending.1 h).2
  constructor
  case stored => rw [liveQueue_advanced]
  case ordered => exact liveQueue_strict _
  case statuses =>
    have h := survivors_status (k := k) hpending 0
    simp only [List.map_map, List.length_map]
    exact h
  case fresh =>
    intro row hrow
    obtain ⟨entry, hentry, rfl⟩ := List.mem_map.1 hrow
    obtain ⟨_, _, _, _, hsettled⟩ := mem_survivors hpending hentry
    exact hsettled.fresh
  case dropped =>
    intro entry hentry hlive
    by_cases hexpired : entry.status = .waiting ∧ entry.expiresAt ≤ now
    · right; left
      refine ⟨hexpired.1, hexpired.2, mem_advanced.2 (.inr ⟨?_, rfl⟩)⟩
      exact mem_expireWaiting.2 (.inr ⟨entry, hentry, hexpired.1, hexpired.2, rfl⟩)
    · have hp : Pending now entry :=
        ⟨hlive, fun hw => Int.not_le.1 fun hexp => hexpired ⟨hw, hexp⟩⟩
      obtain ⟨before, after, heq⟩ := List.append_of_mem (mem_pending.2 ⟨hentry, hp⟩)
      have hnew : advanceRow k now (0 + (survivors k now 0 before).length) entry ∈
          advanced k now 0 (liveQueue (expireWaiting now table)) := by
        rw [heq, advanced_append, advanced]
        exact List.mem_append_right _ List.mem_cons_self
      rcases advanceRow_cases k _ hp with ⟨ho, hexp, hk, hmissed⟩ | hsettled
      · right; right
        refine ⟨ho, hexp, ?_, mem_advanced.2 (.inl (hmissed ▸ hnew))⟩
        rw [liveQueue_advanced, heq, countP_survivors 0 (heq ▸ liveQueue_sorted _)
          (heq ▸ liveQueue_nodup _) (by rw [hmissed]; rfl)]
        omega
      · left
        have hcolumns := advanceRow_columns k now
          (0 + (survivors k now 0 before).length) entry
        refine ⟨_, ?_, hcolumns.1, hcolumns.2.1, hcolumns.2.2.1⟩
        rw [liveQueue_advanced]
        exact List.mem_filter.2 ⟨hnew, hsettled.live⟩
  case source =>
    intro kept hkept
    rw [liveQueue_advanced] at hkept
    obtain ⟨old, hold, hcolumns⟩ := old_of_mem_survivors hkept
    obtain ⟨hrow, hp⟩ := mem_pending.1 hold
    exact ⟨old, hrow, hp.1, hcolumns⟩
  case frame =>
    intro entry hentry hdead
    refine mem_advanced.2 (.inr ⟨mem_expireWaiting.2 (.inl ⟨hentry, ?_⟩), hdead⟩)
    rintro ⟨hw, -⟩
    rw [hw] at hdead
    cases hdead

/-- Rows whose leases all run on are not expired. -/
theorem expireWaiting_of_fresh
    (h : ∀ entry ∈ table.rows, entry.status = .waiting → now < entry.expiresAt) :
    expireWaiting now table = table := by
  apply Table.update_eq_self
  intro entry hentry hp
  rw [Bool.and_eq_true, decide_eq_true_eq, decide_eq_true_eq] at hp
  exact absurd hp.2 (Int.not_le.2 (h entry hentry hp.1))

/-- A table that holds nothing but settled live rows is left as it is. -/
theorem expireWaiting_advanced :
    expireWaiting now ((expireWaiting now table).replace
        (advanced k now 0 (liveQueue (expireWaiting now table)))) =
      (expireWaiting now table).replace
        (advanced k now 0 (liveQueue (expireWaiting now table))) := by
  apply expireWaiting_of_fresh
  intro entry hentry hw
  have hmem : entry ∈ survivors k now 0 (liveQueue (expireWaiting now table)) := by
    rw [← liveQueue_advanced, mem_liveQueue, hw]
    exact ⟨hentry, rfl⟩
  obtain ⟨_, _, _, _, hsettled⟩ := mem_survivors (fun e h => (mem_pending.1 h).2) hmem
  exact hsettled.fresh

/-- Storing the survivors again changes nothing. -/
theorem replace_survivors :
    ((expireWaiting now table).replace
        (advanced k now 0 (liveQueue (expireWaiting now table)))).replace
        (survivors k now 0 (liveQueue (expireWaiting now table))) =
      (expireWaiting now table).replace
        (advanced k now 0 (liveQueue (expireWaiting now table))) := by
  rw [← liveQueue_advanced]
  exact Table.replace_self (liveQueue_nodup _) fun entry h => (mem_liveQueue.1 h).1

end advance

section database

variable (collate : String → String → Int) (db : Database) (now : Int)

/-- An advance stores the new versions of the live rows and touches no other table. -/
theorem advanceLiveQueue_eq :
    let cars := listQueueCars collate db now
    let table := expireWaiting now db.queueEntries
    advanceLiveQueue collate db now =
      ({ db with queueEntries := table.replace (advanced (capacity cars) now 0 (liveQueue table)) },
        { entries := (survivors (capacity cars) now 0 (liveQueue table)).map queueRow, cars }) := by
  intro cars table
  unfold advanceLiveQueue
  dsimp only
  rw [advanceEntries_eq (liveQueue_nodup _) fun entry h => (mem_liveQueue.1 h).1]
  rfl

/-- **Main result.** An advance leaves the live rows as `Advance` says, for the number of cars
that it finds available; the same advance again changes nothing and returns the same. -/
theorem advanceLiveQueue_spec :
    Advance (capacity (listQueueCars collate db now)) now db.queueEntries
        (advanceLiveQueue collate db now).1.queueEntries
        (advanceLiveQueue collate db now).2.entries ∧
      (advanceLiveQueue collate db now).2.cars = listQueueCars collate db now ∧
      advanceLiveQueue collate (advanceLiveQueue collate db now).1 now =
        advanceLiveQueue collate db now := by
  have hpending : ∀ entry ∈ liveQueue (expireWaiting now db.queueEntries), Pending now entry :=
    fun entry h => (mem_pending.1 h).2
  refine ⟨?_, ?_, ?_⟩
  · rw [advanceLiveQueue_eq]
    exact advance_of_loop _ _ _
  · rw [advanceLiveQueue_eq]
  · rw [advanceLiveQueue_eq collate db now, advanceLiveQueue_eq]
    -- the cars are found in tables that the first advance leaves alone
    have hcars : ∀ table, listQueueCars collate { db with queueEntries := table } now =
        listQueueCars collate db now := fun _ => rfl
    simp only [hcars, expireWaiting_advanced, liveQueue_advanced, advanced_survivors hpending,
      survivors_survivors hpending, replace_survivors]

end database

end RcOnline.Web
