import RcOnline.Lib.Number
import RcOnline.Lib.Table

/-!
# The outbox of the edge

`EdgeOutbox` of `apps/edge/src/outbox.ts`: a table of events in a file that outlives the process.
The next sequence number and the replay test are read from the rows, so what a run keeps is an
invariant of the table (`Ordered`); what it gives to the callers is `Delivers`.

The text that `JSON.stringify` makes of a payload is the host's: the model takes any function that
gives a text or throws.
-/

namespace RcOnline.Edge

open RcOnline.Lib

inductive OutboxStatus where
  | pending
  | acknowledged
  deriving DecidableEq

structure EdgeOutboxEvent (τ : Type) where
  id : String
  producer : String
  producerSequence : Int
  topic : String
  payload : τ
  idempotencyKey : String
  createdMonotonicNs : String
  status : OutboxStatus
  deriving DecidableEq

/-- A row of the table: an event and the column that no reader selects. -/
structure EdgeOutboxRow (τ : Type) extends EdgeOutboxEvent τ where
  acknowledgedAt : Option Int
  deriving DecidableEq

instance {τ : Type} : Row (EdgeOutboxRow τ) String := ⟨fun row => row.id⟩

variable {τ π : Type}

def mapRow (row : EdgeOutboxRow τ) : EdgeOutboxEvent τ := row.toEdgeOutboxEvent

/-- An open or a closed handle on the file with the table. -/
structure EdgeOutbox (τ : Type) where
  producer : String
  table : Table (EdgeOutboxRow τ)
  isOpen : Bool

/-- What an append draws: `randomUUID()` and `process.hrtime.bigint()`. -/
structure AppendDraw where
  id : String
  monotonicNs : Int

namespace EdgeOutbox

def rows (outbox : EdgeOutbox τ) : List (EdgeOutboxRow τ) := outbox.table.rows

/-- The outbox of a new file. -/
def new (producer : String) : EdgeOutbox τ := { producer, table := .empty, isOpen := true }

/-- `select coalesce(max(producer_sequence), 0) + 1 … where producer = ?`, read as a number. -/
def nextSequence (outbox : EdgeOutbox τ) : Int :=
  let sequences := (outbox.table.select (·.producer = outbox.producer)).map (·.producerSequence)
  roundInt (sequences.max?.getD 0 + 1)

/-- The unique constraints other than the primary key. -/
def clash (event : EdgeOutboxRow τ) (row : EdgeOutboxRow τ) : Bool :=
  row.idempotencyKey = event.idempotencyKey ||
    (row.producer = event.producer && row.producerSequence = event.producerSequence)

def newEvent (outbox : EdgeOutbox τ) (topic : String) (text : τ) (idempotencyKey : String)
    (draw : AppendDraw) : EdgeOutboxRow τ where
  id := draw.id
  producer := outbox.producer
  producerSequence := outbox.nextSequence
  topic := topic
  payload := text
  idempotencyKey := idempotencyKey
  createdMonotonicNs := toString draw.monotonicNs
  status := .pending
  acknowledgedAt := none

def insertRow (outbox : EdgeOutbox τ) (event : EdgeOutboxRow τ) :
    Except String (EdgeOutboxEvent τ) × EdgeOutbox τ :=
  match outbox.table.insert? (clash event) event with
  | none => (.error "UNIQUE constraint failed", outbox)
  | some table => (.ok (mapRow event), { outbox with table })

def notOpen : String := "The database connection is not open"

def append (stringify : π → Except String τ) (outbox : EdgeOutbox τ) (topic : String)
    (payload : π) (idempotencyKey : String) (draw : AppendDraw) :
    Except String (EdgeOutboxEvent τ) × EdgeOutbox τ :=
  if !outbox.isOpen then (.error notOpen, outbox)
  else match outbox.rows.find? (·.idempotencyKey = idempotencyKey) with
    | some existing => (.ok (mapRow existing), outbox)
    | none =>
      match stringify payload with
      | .error error => (.error error, outbox)
      | .ok text => outbox.insertRow (outbox.newEvent topic text idempotencyKey draw)

/-- `limit ?`: a negative bound is none, and a number that is no 64-bit integer is refused. -/
def limitRows {α : Type} (limit : Number) (rows : List α) : Option (List α) :=
  match limit with
  | .finite q =>
    if q.den = 1 ∧ |q.num| < 2 ^ 63 then
      some (if q.num < 0 then rows else rows.take q.num.toNat)
    else none
  | _ => none

def pending (outbox : EdgeOutbox τ) (limit : Number) : Except String (List (EdgeOutboxEvent τ)) :=
  if !outbox.isOpen then .error notOpen
  else
    let rows := (outbox.table.select (·.status = .pending)).mergeSort
      fun a b => a.producerSequence ≤ b.producerSequence
    match limitRows limit rows with
    | none => .error "datatype mismatch"
    | some rows => .ok (rows.map mapRow)

/-- `acknowledge`, which throws when the file is closed. -/
def acknowledge (outbox : EdgeOutbox τ) (eventId : String) (now : Int) : EdgeOutbox τ :=
  if !outbox.isOpen then outbox
  else
    { outbox with
      table := outbox.table.update (·.id = eventId)
        (fun row => { row with status := .acknowledged, acknowledgedAt := some now }) }

def close (outbox : EdgeOutbox τ) : EdgeOutbox τ := { outbox with isOpen := false }

/-- `new EdgeOutbox(path, producer)` on the file: the table that exists stays. -/
def reopen (outbox : EdgeOutbox τ) : EdgeOutbox τ := { outbox with isOpen := true }

end EdgeOutbox

/-! ## Runs -/

inductive OutboxCall (π : Type) where
  | append (topic : String) (payload : π) (idempotencyKey : String) (draw : AppendDraw)
  | pending (limit : Number)
  | acknowledge (eventId : String) (now : Int)
  | close
  | reopen

namespace EdgeOutbox

variable (stringify : π → Except String τ)

def call (outbox : EdgeOutbox τ) : OutboxCall π → EdgeOutbox τ
  | .append topic payload idempotencyKey draw =>
    (append stringify outbox topic payload idempotencyKey draw).2
  | .pending _ => outbox
  | .acknowledge eventId now => outbox.acknowledge eventId now
  | .close => outbox.close
  | .reopen => outbox.reopen

/-- The outbox after the calls, from a new file on. -/
def run (producer : String) (calls : List (OutboxCall π)) : EdgeOutbox τ :=
  calls.foldl (call stringify) (new producer)

/-- The first sequence numbers. -/
def firstNumbers (n : Nat) : List Int := (List.range n).map fun i : Nat => (i : Int) + 1

/-- What the rows of a file keep: one producer, consecutive numbers that a number can hold, one
event for each key. -/
structure Ordered (outbox : EdgeOutbox τ) : Prop where
  produced : ∀ row ∈ outbox.rows, row.producer = outbox.producer
  numbered : outbox.rows.map (·.producerSequence) = firstNumbers outbox.rows.length
  bounded : outbox.rows.length ≤ 2 ^ 53
  keyed : (outbox.rows.map (·.idempotencyKey)).Nodup

variable {stringify} {outbox : EdgeOutbox τ} {topic : String} {payload : π}
  {idempotencyKey : String} {draw : AppendDraw} {calls : List (OutboxCall π)}

/-! ## Appending -/

theorem append_closed (h : outbox.isOpen = false) :
    append stringify outbox topic payload idempotencyKey draw = (.error notOpen, outbox) := by
  simp [append, h]

theorem append_new (hopen : outbox.isOpen = true)
    (hnew : ∀ row ∈ outbox.rows, row.idempotencyKey ≠ idempotencyKey) :
    append stringify outbox topic payload idempotencyKey draw =
      match stringify payload with
      | .error error => (.error error, outbox)
      | .ok text => outbox.insertRow (outbox.newEvent topic text idempotencyKey draw) := by
  have hfind : outbox.rows.find? (·.idempotencyKey = idempotencyKey) = none :=
    List.find?_eq_none.2 fun row hrow => by simpa using hnew row hrow
  simp [append, hopen, hfind]

theorem append_found (stringify : π → Except String τ) (topic : String) (payload : π)
    (draw : AppendDraw) (hopen : outbox.isOpen = true) {row : EdgeOutboxRow τ}
    (hrow : row ∈ outbox.rows) :
    ∃ existing ∈ outbox.rows, existing.idempotencyKey = row.idempotencyKey ∧
      append stringify outbox topic payload row.idempotencyKey draw =
        (.ok (mapRow existing), outbox) := by
  cases hfind : outbox.rows.find? (·.idempotencyKey = row.idempotencyKey) with
  | none => exact absurd (decide_eq_true rfl) (List.find?_eq_none.1 hfind row hrow)
  | some existing =>
    have hkey : existing.idempotencyKey = row.idempotencyKey := by simpa using List.find?_some hfind
    exact ⟨existing, List.mem_of_find?_eq_some hfind, hkey, by simp [append, hopen, hfind]⟩

theorem insertRow_cases (event : EdgeOutboxRow τ) :
    (∃ error, outbox.insertRow event = (.error error, outbox)) ∨
    ∃ table, outbox.table.insert? (clash event) event = some table ∧
      outbox.insertRow event = (.ok (mapRow event), { outbox with table }) := by
  unfold insertRow
  split
  · exact .inl ⟨_, rfl⟩
  · next table hinsert => exact .inr ⟨table, hinsert, rfl⟩

/-- An append throws and changes nothing, finds the event under its key, or adds one. -/
theorem append_cases (stringify : π → Except String τ) (outbox : EdgeOutbox τ) (topic : String)
    (payload : π) (idempotencyKey : String) (draw : AppendDraw) :
    (∃ error, append stringify outbox topic payload idempotencyKey draw = (.error error, outbox)) ∨
    (∃ row ∈ outbox.rows, row.idempotencyKey = idempotencyKey ∧
      append stringify outbox topic payload idempotencyKey draw = (.ok (mapRow row), outbox)) ∨
    ((∀ row ∈ outbox.rows, row.idempotencyKey ≠ idempotencyKey) ∧
      ∃ text table, stringify payload = .ok text ∧
        outbox.table.insert? (clash (outbox.newEvent topic text idempotencyKey draw))
          (outbox.newEvent topic text idempotencyKey draw) = some table ∧
        append stringify outbox topic payload idempotencyKey draw =
          (.ok (mapRow (outbox.newEvent topic text idempotencyKey draw)),
            { outbox with table })) := by
  by_cases hopen : outbox.isOpen = true
  · by_cases hnew : ∀ row ∈ outbox.rows, row.idempotencyKey ≠ idempotencyKey
    · rw [append_new hopen hnew]
      cases htext : stringify payload with
      | error error => exact .inl ⟨error, rfl⟩
      | ok text =>
        rcases outbox.insertRow_cases (outbox.newEvent topic text idempotencyKey draw) with
          herror | ⟨table, hinsert, heq⟩
        · exact .inl herror
        · exact .inr (.inr ⟨hnew, text, table, rfl, hinsert, heq⟩)
    · push Not at hnew
      obtain ⟨row, hrow, rfl⟩ := hnew
      exact .inr (.inl (append_found stringify topic payload draw hopen hrow))
  · exact .inl ⟨notOpen, append_closed (Bool.eq_false_iff.2 hopen)⟩

theorem call_append_cases (stringify : π → Except String τ) (outbox : EdgeOutbox τ) (topic : String)
    (payload : π) (idempotencyKey : String) (draw : AppendDraw) :
    outbox.call stringify (.append topic payload idempotencyKey draw) = outbox ∨
    ((∀ row ∈ outbox.rows, row.idempotencyKey ≠ idempotencyKey) ∧ ∃ text table,
      outbox.table.insert? (clash (outbox.newEvent topic text idempotencyKey draw))
        (outbox.newEvent topic text idempotencyKey draw) = some table ∧
      outbox.call stringify (.append topic payload idempotencyKey draw) =
        { outbox with table }) := by
  rcases append_cases stringify outbox topic payload idempotencyKey draw with
    ⟨_, heq⟩ | ⟨_, -, -, heq⟩ | ⟨hnew, text, table, -, hinsert, heq⟩
  · exact .inl (congrArg Prod.snd heq)
  · exact .inl (congrArg Prod.snd heq)
  · exact .inr ⟨hnew, text, table, hinsert, congrArg Prod.snd heq⟩

theorem mem_firstNumbers {n : Nat} {x : Int} : x ∈ firstNumbers n ↔ 1 ≤ x ∧ x ≤ n := by
  simp only [firstNumbers, List.mem_map, List.mem_range]
  constructor
  · rintro ⟨i, hi, rfl⟩
    omega
  · intro h
    exact ⟨x.toNat - 1, by omega, by omega⟩

theorem firstNumbers_succ (n : Nat) : firstNumbers (n + 1) = firstNumbers n ++ [(n : Int) + 1] := by
  simp [firstNumbers, List.range_succ]

theorem max_firstNumbers (n : Nat) : (firstNumbers n).max?.getD 0 = n := by
  cases n with
  | zero => rfl
  | succ n =>
    have hmax : (firstNumbers (n + 1)).max? = some ((n : Int) + 1) := by
      rw [List.max?_eq_some_iff]
      simp only [mem_firstNumbers]
      exact ⟨by omega, fun x hx => by omega⟩
    rw [hmax]
    rfl

theorem pairwise_firstNumbers (n : Nat) : (firstNumbers n).Pairwise (· ≤ ·) := by
  rw [firstNumbers, List.pairwise_map]
  exact List.pairwise_lt_range.imp fun h => by omega

/-- The rows of a file are the rows of its only producer. -/
theorem Ordered.nextSequence_eq (h : Ordered outbox) :
    outbox.nextSequence = roundInt (outbox.rows.length + 1) := by
  have hselect : outbox.table.select (·.producer = outbox.producer) = outbox.rows :=
    List.filter_eq_self.2 fun row hrow => decide_eq_true (h.produced row hrow)
  rw [nextSequence, hselect, h.numbered, max_firstNumbers]

/-- Where numbers end, the next one is taken: `2^53 + 1` is read as `2^53`. -/
theorem Ordered.room (h : Ordered outbox) {text : τ} {table : Table (EdgeOutboxRow τ)}
    (hinsert : outbox.table.insert? (clash (outbox.newEvent topic text idempotencyKey draw))
      (outbox.newEvent topic text idempotencyKey draw) = some table) :
    outbox.rows.length < 2 ^ 53 := by
  refine lt_of_le_of_ne h.bounded fun hfull => ?_
  have hnext : outbox.nextSequence = 2 ^ 53 := by
    rw [h.nextSequence_eq, hfull]
    decide +kernel
  have hlast : (2 ^ 53 : Int) ∈ outbox.rows.map (·.producerSequence) := by
    rw [h.numbered, hfull, mem_firstNumbers]
    norm_num
  obtain ⟨row, hrow, hsequence⟩ := List.mem_map.1 hlast
  have hfree := ((Table.insert?_eq_some hinsert).1 row hrow).2
  simp [clash, newEvent, h.produced row hrow, hsequence, hnext] at hfree

theorem Ordered.nextSequence_of_lt (h : Ordered outbox) (hroom : outbox.rows.length < 2 ^ 53) :
    outbox.nextSequence = outbox.rows.length + 1 := by
  rw [h.nextSequence_eq, roundInt_of_le]
  rw [abs_of_nonneg (by omega)]
  omega

/-- An event that is added has the next number. -/
theorem Ordered.insert (h : Ordered outbox) {text : τ} {table : Table (EdgeOutboxRow τ)}
    (hnew : ∀ row ∈ outbox.rows, row.idempotencyKey ≠ idempotencyKey)
    (hinsert : outbox.table.insert? (clash (outbox.newEvent topic text idempotencyKey draw))
      (outbox.newEvent topic text idempotencyKey draw) = some table) :
    Ordered { outbox with table } := by
  have hroom := h.room hinsert
  have hrows : table.rows = outbox.rows ++ [outbox.newEvent topic text idempotencyKey draw] :=
    (Table.insert?_eq_some hinsert).2
  constructor
  case produced =>
    intro row hrow
    rw [rows, hrows, List.mem_append, List.mem_singleton] at hrow
    rcases hrow with hrow | rfl
    · exact h.produced row hrow
    · rfl
  case numbered =>
    simp only [rows, hrows, List.map_append, List.length_append, List.length_singleton,
      List.map_singleton, firstNumbers_succ]
    rw [← rows, h.numbered]
    exact congrArg _ (congrArg (· :: []) (h.nextSequence_of_lt hroom))
  case bounded =>
    simp only [rows, hrows, List.length_append, List.length_singleton]
    exact hroom
  case keyed =>
    simp only [rows, hrows, List.map_append, List.map_singleton]
    refine List.nodup_append.2 ⟨h.keyed, List.nodup_singleton _, ?_⟩
    rintro _ hkey _ hkey' rfl
    obtain ⟨row, hrow, hrowkey⟩ := List.mem_map.1 hkey
    exact hnew row hrow (hrowkey.trans (List.mem_singleton.1 hkey'))

/-! ## What a run keeps -/

/-- An acknowledgement sets columns that no constraint reads. -/
theorem acknowledge_rows (eventId : String) (now : Int) :
    ∃ f : EdgeOutboxRow τ → EdgeOutboxRow τ,
      (outbox.acknowledge eventId now).rows = outbox.rows.map f ∧
      (∀ row, f row = row ∨
        f row = { row with status := .acknowledged, acknowledgedAt := some now }) ∧
      (outbox.isOpen = true → ∀ row, row.id = eventId → (f row).status = .acknowledged) := by
  unfold acknowledge
  split
  · next hclosed =>
    exact ⟨id, (List.map_id _).symm, fun row => .inl rfl, fun hopen => by simp [hopen] at hclosed⟩
  · refine ⟨patch (·.id = eventId) _, rfl, fun row => ?_, fun _ row hid => ?_⟩
    · by_cases hid : row.id = eventId
      · exact .inr (patch_of (decide_eq_true hid))
      · exact .inl (patch_of_not (by simpa using hid))
    · simp [patch, hid]

theorem Ordered.acknowledge (h : Ordered outbox) (eventId : String) (now : Int) :
    Ordered (outbox.acknowledge eventId now) := by
  obtain ⟨f, hrows, hf, -⟩ := outbox.acknowledge_rows eventId now
  have hproducer : (outbox.acknowledge eventId now).producer = outbox.producer := by
    unfold EdgeOutbox.acknowledge
    split <;> rfl
  have hcolumn : ∀ {β : Type} (g : EdgeOutboxRow τ → β),
      (∀ row : EdgeOutboxRow τ,
        g { row with status := .acknowledged, acknowledgedAt := some now } = g row) →
      ∀ row, g (f row) = g row := by
    intro β g hg row
    rcases hf row with heq | heq
    · rw [heq]
    · rw [heq, hg]
  constructor
  case produced =>
    intro row hrow
    rw [hrows] at hrow
    obtain ⟨before, hbefore, rfl⟩ := List.mem_map.1 hrow
    rw [hproducer, hcolumn (·.producer) fun _ => rfl]
    exact h.produced before hbefore
  case numbered =>
    rw [hrows, List.map_map, List.length_map, ← h.numbered]
    exact List.map_congr_left fun row _ => hcolumn (·.producerSequence) (fun _ => rfl) row
  case bounded =>
    rw [hrows, List.length_map]
    exact h.bounded
  case keyed =>
    rw [hrows, List.map_map]
    exact (List.map_congr_left fun row _ =>
      hcolumn (·.idempotencyKey) (fun _ => rfl) row) ▸ h.keyed

/-- Each call keeps the rows ordered. -/
theorem Ordered.call (h : Ordered outbox) (c : OutboxCall π) :
    Ordered (outbox.call stringify c) := by
  cases c with
  | append topic payload idempotencyKey draw =>
    rcases call_append_cases stringify outbox topic payload idempotencyKey draw with
      heq | ⟨hnew, text, table, hinsert, heq⟩
    · rw [heq]
      exact h
    · rw [heq]
      exact h.insert hnew hinsert
  | pending limit => exact h
  | acknowledge eventId now => exact h.acknowledge eventId now
  | close => exact ⟨h.produced, h.numbered, h.bounded, h.keyed⟩
  | reopen => exact ⟨h.produced, h.numbered, h.bounded, h.keyed⟩

theorem ordered_new (producer : String) : Ordered (new producer : EdgeOutbox τ) :=
  ⟨fun _ h => (List.not_mem_nil h).elim, rfl, Nat.zero_le _, List.nodup_nil⟩

theorem ordered_run (producer : String) (calls : List (OutboxCall π)) :
    Ordered (run stringify producer calls) := by
  induction calls using List.reverseRecOn with
  | nil => exact ordered_new producer
  | append_singleton calls c ih =>
    rw [run, List.foldl_append]
    exact ih.call c

/-- The same event, which stays acknowledged once it is. -/
def Later (row row' : EdgeOutboxRow τ) : Prop :=
  row' = { row with status := row'.status, acknowledgedAt := row'.acknowledgedAt } ∧
    (row.status = .acknowledged → row'.status = .acknowledged)

theorem Later.refl (row : EdgeOutboxRow τ) : Later row row := ⟨rfl, id⟩

theorem Later.trans {a b c : EdgeOutboxRow τ} (h : Later a b) (h' : Later b c) : Later a c := by
  refine ⟨?_, h'.2 ∘ h.2⟩
  rw [h'.1, h.1]

theorem later_call (stringify : π → Except String τ) (c : OutboxCall π) {row : EdgeOutboxRow τ}
    (hrow : row ∈ outbox.rows) :
    ∃ row' ∈ (outbox.call stringify c).rows, Later row row' := by
  cases c with
  | append topic payload idempotencyKey draw =>
    rcases call_append_cases stringify outbox topic payload idempotencyKey draw with
      heq | ⟨hnew, text, table, hinsert, heq⟩
    · rw [heq]
      exact ⟨row, hrow, .refl row⟩
    · rw [heq]
      exact ⟨row, (Table.mem_insert? hinsert).2 (.inl hrow), .refl row⟩
  | pending limit => exact ⟨row, hrow, .refl row⟩
  | acknowledge eventId now =>
    obtain ⟨f, hrows, hf, -⟩ := outbox.acknowledge_rows eventId now
    refine ⟨f row, hrows ▸ List.mem_map_of_mem hrow, ?_⟩
    rcases hf row with heq | heq
    · rw [heq]
      exact .refl row
    · rw [heq]
      exact ⟨rfl, fun _ => rfl⟩
  | close => exact ⟨row, hrow, .refl row⟩
  | reopen => exact ⟨row, hrow, .refl row⟩

theorem later_calls (stringify : π → Except String τ) (calls : List (OutboxCall π))
    {row : EdgeOutboxRow τ} (hrow : row ∈ outbox.rows) :
    ∃ row' ∈ (calls.foldl (call stringify) outbox).rows, Later row row' := by
  induction calls generalizing outbox row with
  | nil => exact ⟨row, hrow, .refl row⟩
  | cons c calls ih =>
    obtain ⟨next, hnext, hlater⟩ := later_call stringify c hrow
    obtain ⟨last, hlast, hlater'⟩ := ih hnext
    exact ⟨last, hlast, hlater.trans hlater'⟩

/-! ## Reading -/

theorem Ordered.sorted (h : Ordered outbox) :
    outbox.rows.Pairwise fun a b => a.producerSequence ≤ b.producerSequence := by
  have hsorted := pairwise_firstNumbers outbox.rows.length
  rw [← h.numbered, List.pairwise_map] at hsorted
  exact hsorted

/-- The rows are in order, so sorting them changes nothing. -/
theorem Ordered.pending_eq (h : Ordered outbox) (hopen : outbox.isOpen = true) (limit : Number) :
    outbox.pending limit =
      match limitRows limit (outbox.rows.filter (·.status = .pending)) with
      | none => .error "datatype mismatch"
      | some rows => .ok (rows.map mapRow) := by
  have hsort : (outbox.table.select (·.status = .pending)).mergeSort
      (fun a b => a.producerSequence ≤ b.producerSequence) =
        outbox.rows.filter (·.status = .pending) := by
    apply List.mergeSort_of_pairwise
    simpa [Table.select, rows] using h.sorted.filter (·.status = .pending)
  rw [pending, hopen, Bool.not_true, if_neg Bool.false_ne_true, hsort]

theorem limitRows_natCast {α : Type} {n : Nat} (hn : n < 2 ^ 63) (rows : List α) :
    limitRows (.ofInt n) rows = some (rows.take n) := by
  have hbound : |(n : Int)| < 2 ^ 63 := by
    rw [abs_of_nonneg (by omega)]
    omega
  have hsign : ¬ ((n : Int) : ℚ).num < 0 := by simp
  have hq : ((n : Int) : ℚ).den = 1 ∧ |((n : Int) : ℚ).num| < 2 ^ 63 := ⟨rfl, hbound⟩
  change (if _ then _ else _) = _
  rw [if_pos hq, if_neg hsign]
  rfl

theorem mem_of_mem_limitRows {α : Type} {limit : Number} {all read : List α}
    (h : limitRows limit all = some read) {a : α} (ha : a ∈ read) : a ∈ all := by
  unfold limitRows at h
  split at h
  · split_ifs at h
    · cases h
      exact ha
    · cases h
      exact List.mem_of_mem_take ha
  · cases h

/-- What an outbox gives to its callers. -/
structure Delivers (stringify : π → Except String τ) (outbox : EdgeOutbox τ) : Prop where
  numbered : outbox.rows.map (·.producerSequence) = firstNumbers outbox.rows.length
  keyed : (outbox.rows.map (·.idempotencyKey)).Nodup
  /-- A known key gives its event and adds none. -/
  known : outbox.isOpen = true → ∀ row ∈ outbox.rows, ∀ topic payload draw,
    append stringify outbox topic payload row.idempotencyKey draw = (.ok (mapRow row), outbox)
  /-- A new key gives the event that it adds, under the next number. -/
  added : ∀ topic payload idempotencyKey draw event after,
    (∀ row ∈ outbox.rows, row.idempotencyKey ≠ idempotencyKey) →
    append stringify outbox topic payload idempotencyKey draw = (.ok event, after) →
      event.producerSequence = outbox.rows.length + 1 ∧ event.topic = topic ∧
      event.idempotencyKey = idempotencyKey ∧ event.status = .pending ∧
      stringify payload = .ok event.payload ∧
      ∃ row, mapRow row = event ∧ after.rows = outbox.rows ++ [row]
  refused : ∀ topic payload idempotencyKey draw error after,
    append stringify outbox topic payload idempotencyKey draw = (.error error, after) →
      after = outbox
  /-- An append fails only on a closed file, a payload without a text, an id that repeats or where
  numbers end. -/
  succeeds : outbox.isOpen = true → ∀ topic payload idempotencyKey draw text,
    stringify payload = .ok text → (∀ row ∈ outbox.rows, row.id ≠ draw.id) →
    outbox.rows.length < 2 ^ 53 →
      ∃ event after,
        append stringify outbox topic payload idempotencyKey draw = (.ok event, after)
  /-- The first unacknowledged events, in the order of their numbers. -/
  reads : outbox.isOpen = true → ∀ n : Nat, n < 2 ^ 63 →
    outbox.pending (.ofInt n) =
      .ok (((outbox.rows.filter (·.status = .pending)).take n).map mapRow)
  /-- Any other limit is no limit or an error. -/
  readsAll : ∀ limit events, (∀ n : Nat, n < 2 ^ 63 → limit ≠ .ofInt n) →
    outbox.pending limit = .ok events →
    events = (outbox.rows.filter (·.status = .pending)).map mapRow

theorem Ordered.known (h : Ordered outbox) (hopen : outbox.isOpen = true) {row : EdgeOutboxRow τ}
    (hrow : row ∈ outbox.rows) :
    append stringify outbox topic payload row.idempotencyKey draw =
      (.ok (mapRow row), outbox) := by
  obtain ⟨existing, hexisting, hkey, heq⟩ := 
    append_found stringify topic payload draw hopen hrow
  obtain rfl := List.inj_on_of_nodup_map h.keyed hexisting hrow hkey
  exact heq

theorem Ordered.insertRow_ok (h : Ordered outbox) {text : τ}
    (hnew : ∀ row ∈ outbox.rows, row.idempotencyKey ≠ idempotencyKey)
    (hid : ∀ row ∈ outbox.rows, row.id ≠ draw.id) (hroom : outbox.rows.length < 2 ^ 53) :
    ∃ event after,
      outbox.insertRow (outbox.newEvent topic text idempotencyKey draw) = (.ok event, after) := by
  cases hinsert : outbox.table.insert? (clash (outbox.newEvent topic text idempotencyKey draw))
    (outbox.newEvent topic text idempotencyKey draw) with
  | some table => exact ⟨_, _, by rw [insertRow, hinsert]⟩
  | none =>
    obtain ⟨row, hrow, hrowid | hclash⟩ := Table.insert?_eq_none_iff.1 hinsert
    · exact absurd hrowid (hid row hrow)
    · have hsequence : row.producerSequence ∈ outbox.rows.map (·.producerSequence) :=
        List.mem_map_of_mem hrow
      rw [h.numbered, mem_firstNumbers] at hsequence
      simp only [clash, newEvent, h.nextSequence_of_lt hroom, Bool.or_eq_true, Bool.and_eq_true,
        decide_eq_true_eq] at hclash
      rcases hclash with hkey | ⟨-, hnumber⟩
      · exact absurd hkey (hnew row hrow)
      · omega

theorem Ordered.readsAll (h : Ordered outbox) {limit : Number} {events : List (EdgeOutboxEvent τ)}
    (hlimit : ∀ n : Nat, n < 2 ^ 63 → limit ≠ .ofInt n) (heq : outbox.pending limit = .ok events) :
    events = (outbox.rows.filter (·.status = .pending)).map mapRow := by
  by_cases hopen : outbox.isOpen = true
  · rw [h.pending_eq hopen] at heq
    cases limit with
    | finite q =>
      unfold limitRows at heq
      dsimp only at heq
      split_ifs at heq with hq hneg
      · cases heq
        rfl
      · have hbound : q.num.toNat < 2 ^ 63 := by
          have := abs_lt.1 hq.2
          omega
        refine absurd ?_ (hlimit q.num.toNat hbound)
        rw [Number.ofInt, Int.toNat_of_nonneg (not_lt.1 hneg), Rat.coe_int_num_of_den_eq_one hq.1]
    | nan => cases heq
    | posInf => cases heq
    | negInf => cases heq
  · simp [pending, hopen] at heq

theorem Ordered.delivers (h : Ordered outbox) : Delivers stringify outbox where
  numbered := h.numbered
  keyed := h.keyed
  known hopen row hrow topic payload draw := h.known hopen hrow
  added topic payload idempotencyKey draw event after hnew heq := by
    rcases append_cases stringify outbox topic payload idempotencyKey draw with
      ⟨error, heq'⟩ | ⟨existing, hexisting, hkey, -⟩ | ⟨-, text, table, htext, hinsert, heq'⟩
    · rw [heq'] at heq
      cases heq
    · exact absurd hkey (hnew existing hexisting)
    · rw [heq'] at heq
      cases heq
      exact ⟨h.nextSequence_of_lt (h.room hinsert), rfl, rfl, rfl, htext, _, rfl,
        (Table.insert?_eq_some hinsert).2⟩
  refused topic payload idempotencyKey draw error after heq := by
    rcases append_cases stringify outbox topic payload idempotencyKey draw with
      ⟨error', heq'⟩ | ⟨existing, -, -, heq'⟩ | ⟨-, text, table, -, -, heq'⟩
    · rw [heq'] at heq
      cases heq
      rfl
    · rw [heq'] at heq
      cases heq
    · rw [heq'] at heq
      cases heq
  succeeds hopen topic payload idempotencyKey draw text htext hid hroom := by
    by_cases hnew : ∀ row ∈ outbox.rows, row.idempotencyKey ≠ idempotencyKey
    · rw [append_new hopen hnew, htext]
      exact h.insertRow_ok hnew hid hroom
    · push Not at hnew
      obtain ⟨row, hrow, rfl⟩ := hnew
      exact ⟨_, _, h.known hopen hrow⟩
  reads hopen n hn := by
    rw [h.pending_eq hopen, limitRows_natCast hn]
  readsAll limit events := h.readsAll

theorem mem_of_mem_pending {limit : Number} {events : List (EdgeOutboxEvent τ)}
    (h : outbox.pending limit = .ok events) {event : EdgeOutboxEvent τ} (hevent : event ∈ events) :
    ∃ row ∈ outbox.rows, row.status = .pending ∧ event = mapRow row := by
  unfold pending at h
  split at h
  · cases h
  · dsimp only at h
    split at h
    · cases h
    · next read hread =>
      cases h
      obtain ⟨row, hrow, rfl⟩ := List.mem_map.1 hevent
      have hmem := mem_of_mem_limitRows hread hrow
      rw [List.mem_mergeSort] at hmem
      obtain ⟨hrows, hstatus⟩ := List.mem_filter.1 hmem
      exact ⟨row, hrows, of_decide_eq_true hstatus, rfl⟩

/-- An acknowledged event is not read again, whatever is called after it. -/
theorem not_pending_of_acknowledged {row : EdgeOutboxRow τ} (hopen : outbox.isOpen = true)
    (hrow : row ∈ outbox.rows) (now : Int) (after : List (OutboxCall π)) {limit : Number}
    {events : List (EdgeOutboxEvent τ)}
    (hread : (after.foldl (call stringify) (outbox.acknowledge row.id now)).pending limit =
      .ok events) :
    ∀ event ∈ events, event.id ≠ row.id := by
  intro event hevent hid
  obtain ⟨f, hrows, hf, hstatus⟩ := outbox.acknowledge_rows row.id now
  have hacknowledged : f row ∈ (outbox.acknowledge row.id now).rows :=
    hrows ▸ List.mem_map_of_mem hrow
  obtain ⟨last, hlast, hlater⟩ := later_calls stringify after hacknowledged
  obtain ⟨read, hmem, hpending, rfl⟩ := mem_of_mem_pending hread hevent
  have hlastid : last.id = row.id := by
    rw [hlater.1]
    rcases hf row with heq | heq <;> rw [heq]
  obtain rfl : read = last := Table.eq_of_key hmem hlast (hid.trans hlastid.symm)
  rw [hlater.2 (hstatus hopen row rfl)] at hpending
  cases hpending

/-- **Main result.** After any calls the rows are numbered and keyed and the calls answer as they
should; every event stays for the rest of the run, and is not read again once it is
acknowledged. -/
theorem outbox_delivers (stringify : π → Except String τ) (producer : String)
    (calls : List (OutboxCall π)) :
    Delivers stringify (run stringify producer calls) ∧
    ∀ row ∈ (run stringify producer calls).rows, ∀ after : List (OutboxCall π),
      (∃ row' ∈ (run stringify producer (calls ++ after)).rows, Later row row') ∧
      ((run stringify producer calls).isOpen = true → ∀ now limit events,
        (run stringify producer (calls ++ .acknowledge row.id now :: after)).pending limit =
          .ok events →
        ∀ event ∈ events, event.id ≠ row.id) := by
  refine ⟨(ordered_run producer calls).delivers, fun row hrow after => ⟨?_, ?_⟩⟩
  · rw [run, List.foldl_append]
    exact later_calls stringify after hrow
  · intro hopen now limit events hread
    rw [run, List.foldl_append, List.foldl_cons] at hread
    exact not_pending_of_acknowledged hopen hrow now after hread

end EdgeOutbox

end RcOnline.Edge
