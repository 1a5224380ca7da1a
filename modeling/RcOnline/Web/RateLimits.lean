import RcOnline.Lib.Rounding
import RcOnline.Lib.Steps
import RcOnline.Web.AccountStore

/-!
# Rate limits

`takeRateLimitAttempt` of `apps/web/auth/postgres-account-store.ts` and the part of
`cleanupExpiredAccountData` that deletes its counters. An attempt is one upsert; a cleanup selects
expired counters and deletes them later, one by one, while other attempts are made. As a counter is
deleted only when its window is over, the limit holds exactly (`attempts_allowed`).
-/

namespace RcOnline.Web

open RcOnline.Lib RcOnline.Accounts

structure RateLimitRequest where
  keyHash : String
  kind : String
  now : Date
  windowMs : Number
  limit : Number

structure RateLimitAttempt where
  allowed : Bool
  remaining : Number
  retryAfterMs : Number
  deriving DecidableEq

/-- `/^[a-f0-9]{64}$/i`. -/
def isHmacDigest (keyHash : String) : Bool :=
  keyHash.toList.length = 64 && keyHash.toList.all fun c =>
    ('0' ≤ c && c ≤ '9') || ('a' ≤ c && c ≤ 'f') || ('A' ≤ c && c ≤ 'F')

/-- `Math.floor(x)`. -/
def mathFloor : Number → Number
  | .finite q => .ofInt ⌊q⌋
  | x => x

/-- `new Date(Math.floor(now.getTime() / windowMs) * windowMs)`. -/
def windowStart (now : Date) (windowMs : Int) : Date :=
  now.bind fun time => ((mathFloor (.round (time / windowMs))).mul (.ofInt windowMs)).timeClip

/-- `new Date(windowStartedAt.getTime() + windowMs)`. -/
def windowEnd (windowStartedAt : Date) (windowMs : Int) : Date :=
  windowStartedAt.bind fun start => ((Number.ofInt start).add (.ofInt windowMs)).timeClip

/-- The largest value of an `integer` column. -/
def maxInteger : Nat := 2147483647

/-- The row of a first attempt. A date that is not valid has no text, so that the statement is not
sent. -/
def rateLimitRow (input : RateLimitRequest) : Except AccountError AuthRateLimit :=
  if !isHmacDigest input.keyHash then .error (.failed "Rate-limit key must be an HMAC digest")
  else
    match input.windowMs.safeInteger?.filter (0 < ·), input.limit.safeInteger?.filter (0 < ·) with
    | none, _ => .error (.failed "Rate-limit window must be positive")
    | some _, none => .error (.failed "Rate-limit limit must be positive")
    | some windowMs, some _ =>
      let windowStartedAt := windowStart input.now windowMs
      match windowStartedAt, windowEnd windowStartedAt windowMs with
      | some windowStartedAt, some expiresAt =>
        .ok
          { keyHash := .ofList (input.keyHash.toList.map Char.toLower)
            kind := input.kind
            windowStartedAt
            attemptCount := 1
            expiresAt }
      | _, _ => .error (.failed "Invalid time value")

/-- `insert … on conflict do update`, which returns the count. -/
def countAttempt (limits : Table AuthRateLimit) (row : AuthRateLimit) :
    Except AccountError (Nat × Table AuthRateLimit) :=
  match limits.get? (Row.key row) with
  | some counter =>
    if counter.attemptCount + 1 ≤ maxInteger then
      .ok (counter.attemptCount + 1,
        limits.update (fun r => Row.key r = Row.key row)
          fun r => { r with attemptCount := r.attemptCount + 1, expiresAt := row.expiresAt })
    else .error (.failed "integer out of range")
  | none => do
    let limits ← insertRow limits (fun _ => false) row
    .ok (row.attemptCount, limits)

def takeRateLimitAttempt (limits : Table AuthRateLimit) (input : RateLimitRequest) :
    Except AccountError (RateLimitAttempt × Table AuthRateLimit) := do
  let row ← rateLimitRow input
  let (attemptCount, limits) ← countAttempt limits row
  .ok
    ({ allowed := (Number.ofInt attemptCount).le input.limit
       remaining := (Number.ofInt 0).max (input.limit.sub (.ofInt attemptCount))
       retryAfterMs := (Number.ofInt 0).max
         ((Number.ofInt row.expiresAt).sub (input.now.elim .nan .ofInt)) },
      limits)

/-! ## Attempts and cleanups -/

/-- The limit and the window of a kind of attempts. -/
structure RateLimitPolicy where
  limit : Number
  windowMs : Number

/-- The key of a counter: whose attempts of which kind in which window. -/
abbrev CounterKey := String × String × Int

/-- An attempt that was sent to the database, and its result where the counter could be raised. -/
structure RateLimitEntry where
  key : CounterKey
  now : Int
  attempt : Option RateLimitAttempt

/-- The counters, the latest time so far, the counters that each cleanup still has to delete, and
the attempts. -/
structure RateLimits where
  counters : Table AuthRateLimit
  clock : Int
  cleanups : List (List CounterKey)
  entries : List RateLimitEntry

inductive RateLimitEvent where
  | attempt (keyHash kind : String) (now : Int)
  | cleanupSelects (now : Int) (batchSize : Number) (choice : AuthRateLimit → Bool)
  | cleanupDeletes (index : Nat)
  | cleanupEnds (index : Nat)

namespace RateLimits

def start (clock : Int) : RateLimits where
  counters := .empty
  clock := clock
  cleanups := []
  entries := []

def request (policy : String → RateLimitPolicy) (keyHash kind : String) (now : Int) :
    RateLimitRequest where
  keyHash := keyHash
  kind := kind
  now := some now
  windowMs := (policy kind).windowMs
  limit := (policy kind).limit

/-- An attempt. One that throws before its upsert leaves no entry. -/
def attempt (policy : String → RateLimitPolicy) (limits : RateLimits) (keyHash kind : String)
    (now : Int) : RateLimits :=
  let input := request policy keyHash kind now
  match rateLimitRow input with
  | .error _ => { limits with clock := now }
  | .ok row =>
    match takeRateLimitAttempt limits.counters input with
    | .ok (attempt, counters) =>
      { limits with
        counters
        clock := now
        entries := limits.entries ++ [⟨Row.key row, now, some attempt⟩] }
    | .error _ =>
      { limits with clock := now, entries := limits.entries ++ [⟨Row.key row, now, none⟩] }

/-- The largest time of a date. -/
def maxTime : Int := 8640000000000000

/-- Attempts come at times that do not go back. A cleanup may have read the clock before. -/
def step (policy : String → RateLimitPolicy) (limits : RateLimits) :
    RateLimitEvent → Option RateLimits
  | .attempt keyHash kind now =>
    if limits.clock ≤ now ∧ |now| ≤ maxTime then some (limits.attempt policy keyHash kind now)
    else none
  | .cleanupSelects now batchSize choice =>
    match batchSize with
    | .finite q =>
      let rows := (limits.counters.select fun r => decide (r.expiresAt < now) && choice r).take
        (cleanupBatchSize q)
      some
        { limits with
          clock := max limits.clock now
          cleanups := limits.cleanups ++ [rows.map Row.key] }
    | _ => some limits
  | .cleanupDeletes index =>
    match limits.cleanups[index]? with
    | some (key :: rest) =>
      some
        { limits with
          counters := limits.counters.delete (Row.key · = key)
          cleanups := limits.cleanups.set index rest }
    | _ => none
  | .cleanupEnds index => some { limits with cleanups := limits.cleanups.eraseIdx index }

/-- The attempts on a counter. -/
def made (limits : RateLimits) (key : CounterKey) : Nat :=
  limits.entries.countP (·.key = key)

/-- Those that were answered. -/
def answered (limits : RateLimits) (key : CounterKey) : Nat :=
  limits.entries.countP fun entry => entry.key = key && entry.attempt.isSome

/-- Those that were allowed. -/
def allowed (limits : RateLimits) (key : CounterKey) : Nat :=
  limits.entries.countP fun entry => entry.key = key && entry.attempt.any (·.allowed)

end RateLimits

/-! ## Windows -/

theorem finite_of_timeClip {x : Number} {time : Int} (h : x.timeClip = some time) :
    ∃ r : ℚ, x = .finite r ∧ |r| ≤ 8640000000000000 := by
  cases x with
  | finite r => exact ⟨r, rfl, (Option.ite_none_right_eq_some.1 h).1⟩
  | nan => cases h
  | posInf => cases h
  | negInf => cases h

/-- A whole number that is a time has not been rounded: beyond the exact range a number is rounded
to one that is no time either. -/
theorem timeClip_round {n time : Int} (h : (Number.round (n : ℚ)).timeClip = some time) :
    time = n := by
  obtain ⟨r, hround, hr⟩ := finite_of_timeClip h
  have hle : n ≤ 2 ^ 53 := by
    by_contra hlt
    have hmono := Number.round_le_round (p := ((2 ^ 53 : Int) : ℚ)) (q := n)
      (by exact_mod_cast (not_le.1 hlt).le)
    rw [Number.round_intCast (by decide), hround] at hmono
    have hbig : ((2 ^ 53 : Int) : ℚ) ≤ r := by simpa [Number.le, Number.ofInt] using hmono
    push_cast at hbig
    linarith [(abs_le.1 hr).2]
  have hge : -2 ^ 53 ≤ n := by
    by_contra hlt
    have hmono := Number.round_le_round (p := (n : ℚ)) (q := ((-2 ^ 53 : Int) : ℚ))
      (by exact_mod_cast (not_le.1 hlt).le)
    rw [hround, Number.round_intCast (by decide)] at hmono
    have hsmall : r ≤ ((-2 ^ 53 : Int) : ℚ) := by simpa [Number.le, Number.ofInt] using hmono
    push_cast at hsmall
    linarith [(abs_le.1 hr).1]
  rw [Number.round_intCast (abs_le.2 ⟨hge, hle⟩), Number.ofInt, Number.timeClip] at h
  obtain ⟨-, heq⟩ := Option.ite_none_right_eq_some.1 h
  simpa using (Option.some.inj heq).symm

/-- A window starts at the multiple of its length before the attempt, although the quotient is
rounded. -/
theorem windowStart_eq {time windowMs windowStartedAt : Int} (htime : |time| ≤ RateLimits.maxTime)
    (hpos : 0 < windowMs) (hsafe : windowMs ≤ Number.maxSafeInteger)
    (h : windowStart (some time) windowMs = some windowStartedAt) :
    windowStartedAt = time / windowMs * windowMs := by
  obtain ⟨r, hround, hfloor⟩ := Number.floor_round_div (t := time) (w := windowMs)
    (htime.trans_lt (by decide)) hpos (hsafe.trans (by decide))
  rw [windowStart, Option.bind_some, hround, mathFloor, hfloor] at h
  refine timeClip_round ?_
  rw [← h, Int.cast_mul]
  rfl

theorem windowEnd_eq {windowStartedAt windowMs expiresAt : Int}
    (h : windowEnd (some windowStartedAt) windowMs = some expiresAt) :
    expiresAt = windowStartedAt + windowMs := by
  rw [windowEnd, Option.bind_some] at h
  refine timeClip_round ?_
  rw [← h, Int.cast_add]
  rfl

/-- What the checks let through. -/
structure Checked (policy : RateLimitPolicy) (now : Int) (row : AuthRateLimit) (windowMs : Int) :
    Prop where
  windowMs_eq : policy.windowMs = .ofInt windowMs
  windowMs_pos : 0 < windowMs
  limit : ∃ limit : Int, policy.limit = .ofInt limit ∧ 0 < limit
  starts : row.windowStartedAt = now / windowMs * windowMs
  expires : row.expiresAt = row.windowStartedAt + windowMs
  first : row.attemptCount = 1

/-- An attempt falls into its window. -/
theorem Checked.inside {policy : RateLimitPolicy} {now windowMs : Int} {row : AuthRateLimit}
    (h : Checked policy now row windowMs) :
    row.windowStartedAt ≤ now ∧ now < row.windowStartedAt + windowMs := by
  rw [h.starts]
  refine ⟨Int.ediv_mul_le now h.windowMs_pos.ne', ?_⟩
  have hlt := Int.lt_ediv_add_one_mul_self now h.windowMs_pos
  linarith

theorem rateLimitRow_checked {policy : String → RateLimitPolicy} {keyHash kind : String} {now : Int}
    {row : AuthRateLimit} (hnow : |now| ≤ RateLimits.maxTime)
    (h : rateLimitRow (RateLimits.request policy keyHash kind now) = .ok row) :
    row.kind = kind ∧ ∃ windowMs, Checked (policy kind) now row windowMs := by
  unfold rateLimitRow at h
  split at h
  · cases h
  · split at h
    · cases h
    · cases h
    · next windowMs limit hwindow hlimit =>
      obtain ⟨hsafe, hpos⟩ := Option.filter_eq_some_iff.1 hwindow
      obtain ⟨hsafe', hpos'⟩ := Option.filter_eq_some_iff.1 hlimit
      obtain ⟨hwindowMs, hle⟩ := Number.safeInteger?_eq_some hsafe
      dsimp only at h
      split at h
      · next windowStartedAt expiresAt hstart hend =>
        obtain rfl := Except.ok.inj h
        rw [hstart] at hend
        have hpos := of_decide_eq_true hpos
        exact ⟨rfl, windowMs, hwindowMs, hpos,
          ⟨limit, (Number.safeInteger?_eq_some hsafe').1, of_decide_eq_true hpos'⟩,
          windowStart_eq hnow hpos (abs_le.1 hle).2 hstart, windowEnd_eq hend, rfl⟩
      · cases h

/-! ## Counters -/

/-- A first attempt inserts its row; a later one raises the counter, unless the column is full. -/
theorem countAttempt_cases (counters : Table AuthRateLimit) (row : AuthRateLimit) :
    (counters.get? (Row.key row) = none ∧
      ∃ counters', countAttempt counters row = .ok (row.attemptCount, counters') ∧
        ∀ key, counters'.get? key = if Row.key row = key then some row else counters.get? key) ∨
    ∃ counter, counters.get? (Row.key row) = some counter ∧
      ((counter.attemptCount + 1 ≤ maxInteger ∧
        ∃ counters', countAttempt counters row = .ok (counter.attemptCount + 1, counters') ∧
          ∀ key, counters'.get? key =
            if Row.key row = key then
              some { counter with
                attemptCount := counter.attemptCount + 1, expiresAt := row.expiresAt }
            else counters.get? key) ∨
      (maxInteger < counter.attemptCount + 1 ∧
        countAttempt counters row = .error (.failed "integer out of range"))) := by
  unfold countAttempt
  cases hget : counters.get? (Row.key row) with
  | none =>
    refine .inl ⟨rfl, ?_⟩
    cases hinsert : counters.insert? (fun _ => false) row with
    | none =>
      obtain ⟨a, ha, hkey | hclash⟩ := Table.insert?_eq_none_iff.1 hinsert
      · rw [Table.get?_eq_some_iff.2 ⟨ha, hkey⟩] at hget
        cases hget
      · cases hclash
    | some counters' =>
      refine ⟨counters', ?_, Table.get?_insert? hinsert⟩
      rw [insertRow, hinsert]
      rfl
  | some counter =>
    refine .inr ⟨counter, rfl, ?_⟩
    dsimp only
    split
    · next hfree =>
      refine .inl ⟨hfree, _, rfl, fun key => ?_⟩
      rw [Table.get?_update]
      by_cases hkey : Row.key row = key
      · obtain ⟨-, hcounter⟩ := Table.get?_eq_some_iff.1 hget
        rw [if_pos hkey, ← hkey, hget, Option.map_some]
        exact congrArg some (patch_of (decide_eq_true hcounter))
      · rw [if_neg hkey]
        cases hother : counters.get? key with
        | none => rfl
        | some other =>
          obtain ⟨-, hother⟩ := Table.get?_eq_some_iff.1 hother
          rw [Option.map_some, patch_of_not]
          exact fun heq => hkey ((of_decide_eq_true heq).symm.trans hother)
    · next hfull => exact .inr ⟨not_le.1 hfull, rfl⟩

theorem takeRateLimitAttempt_of_row (counters : Table AuthRateLimit) {input : RateLimitRequest}
    {row : AuthRateLimit} (h : rateLimitRow input = .ok row) :
    (∀ n counters', countAttempt counters row = .ok (n, counters') →
      ∃ attempt, takeRateLimitAttempt counters input = .ok (attempt, counters') ∧
        attempt.allowed = (Number.ofInt n).le input.limit) ∧
    ∀ error, countAttempt counters row = .error error →
      takeRateLimitAttempt counters input = .error error := by
  unfold takeRateLimitAttempt
  rw [h]
  refine ⟨fun n counters' hcount => ?_, fun error hcount => ?_⟩
  · simp only [bind, Except.bind, hcount]
    exact ⟨_, rfl, rfl⟩
  · simp only [bind, Except.bind, hcount]

namespace RateLimits

variable {policy : String → RateLimitPolicy} {limits after : RateLimits}

/-- The counters agree with the entries; one that is missing counts nothing, or its window is
over. -/
structure Counts (policy : String → RateLimitPolicy) (limits : RateLimits) : Prop where
  counter : ∀ key row, limits.counters.get? key = some row →
    row.attemptCount = limits.answered key ∧
      ∃ windowMs : Int, (policy key.2.1).windowMs = .ofInt windowMs ∧
        row.expiresAt = key.2.2 + windowMs
  missing : ∀ key (windowMs : Int), (policy key.2.1).windowMs = .ofInt windowMs →
    limits.counters.get? key = none →
      limits.answered key = 0 ∨ key.2.2 + windowMs < limits.clock
  expired : ∀ keys ∈ limits.cleanups, ∀ key ∈ keys, ∃ windowMs : Int,
    (policy key.2.1).windowMs = .ofInt windowMs ∧ key.2.2 + windowMs < limits.clock
  capped : ∀ key, limits.answered key = min (limits.made key) maxInteger
  limited : ∀ key (limit : Nat), (policy key.2.1).limit = .ofInt limit →
    limits.allowed key = min limit (limits.answered key)
  windows : ∀ entry ∈ limits.entries, ∃ windowMs : Int, 0 < windowMs ∧
    (policy entry.key.2.1).windowMs = .ofInt windowMs ∧
      entry.key.2.2 = entry.now / windowMs * windowMs

theorem counts_start (clock : Int) : Counts policy (start clock) where
  counter := fun _ _ hget => by cases hget
  missing := fun _ _ _ _ => .inl rfl
  expired := fun _ hmem => absurd hmem List.not_mem_nil
  capped := fun _ => rfl
  limited := fun _ limit _ => (Nat.min_zero limit).symm
  windows := fun _ hmem => absurd hmem List.not_mem_nil

/-- Time passes. -/
theorem Counts.later (h : Counts policy limits) {clock : Int} (hle : limits.clock ≤ clock) :
    Counts policy { limits with clock } where
  counter := h.counter
  missing := fun key windowMs hwindow hget =>
    (h.missing key windowMs hwindow hget).imp_right fun hlt => hlt.trans_le hle
  expired := by
    intro keys hkeys key hkey
    obtain ⟨windowMs, hwindow, hlt⟩ := h.expired keys hkeys key hkey
    exact ⟨windowMs, hwindow, hlt.trans_le hle⟩
  capped := h.capped
  limited := h.limited
  windows := h.windows

section snoc

variable {entry : RateLimitEntry}

theorem made_snoc (h : after.entries = limits.entries ++ [entry]) (key : CounterKey) :
    after.made key = limits.made key + if entry.key = key then 1 else 0 := by
  simp [made, h, List.countP_append, List.countP_singleton]

theorem answered_snoc (h : after.entries = limits.entries ++ [entry]) (key : CounterKey) :
    after.answered key =
      limits.answered key + if entry.key = key ∧ entry.attempt.isSome = true then 1 else 0 := by
  simp [answered, h, List.countP_append, List.countP_singleton]

theorem allowed_snoc (h : after.entries = limits.entries ++ [entry]) (key : CounterKey) :
    after.allowed key =
      limits.allowed key +
        if entry.key = key ∧ entry.attempt.any (·.allowed) = true then 1 else 0 := by
  simp [allowed, h, List.countP_append, List.countP_singleton]

end snoc

/-- An attempt that passed its checks starts its window where it should. -/
theorem Counts.windows_snoc (h : Counts policy limits) {row : AuthRateLimit} {now windowMs : Int}
    (hchecked : Checked (policy row.kind) now row windowMs) (attempt : Option RateLimitAttempt) :
    ∀ entry ∈ limits.entries ++ [⟨Row.key row, now, attempt⟩], ∃ windowMs : Int, 0 < windowMs ∧
      (policy entry.key.2.1).windowMs = .ofInt windowMs ∧
        entry.key.2.2 = entry.now / windowMs * windowMs := by
  intro entry hmem
  rcases List.mem_append.1 hmem with hmem | hmem
  · exact h.windows entry hmem
  · obtain rfl := List.mem_singleton.1 hmem
    exact ⟨windowMs, hchecked.windowMs_pos, hchecked.windowMs_eq, hchecked.starts⟩

/-- The counter of an attempt is raised to the number of those that were answered. -/
theorem Counts.raise (h : Counts policy limits) {row counter : AuthRateLimit} {now windowMs : Int}
    {attempt : RateLimitAttempt} {counters : Table AuthRateLimit}
    (hchecked : Checked (policy row.kind) now row windowMs)
    (hfree : limits.answered (Row.key row) + 1 ≤ maxInteger)
    (hget : ∀ key, counters.get? key =
      if Row.key row = key then some counter else limits.counters.get? key)
    (hcount : counter.attemptCount = limits.answered (Row.key row) + 1)
    (hexpires : counter.expiresAt = row.expiresAt)
    (hallowed : attempt.allowed = (Number.ofInt counter.attemptCount).le (policy row.kind).limit) :
    Counts policy
      { limits with
        counters
        entries := limits.entries ++ [⟨Row.key row, now, some attempt⟩] } := by
  have hanswered : ∀ key, answered
      { limits with
        counters
        entries := limits.entries ++ [⟨Row.key row, now, some attempt⟩] } key =
        limits.answered key + if Row.key row = key then 1 else 0 := by
    intro key
    rw [answered_snoc rfl]
    simp
  constructor
  case counter =>
    intro key found hfound
    rw [hanswered]
    rw [hget] at hfound
    split at hfound
    · next hkey =>
      obtain rfl := Option.some.inj hfound
      subst hkey
      rw [if_pos rfl]
      refine ⟨hcount, windowMs, hchecked.windowMs_eq, ?_⟩
      rw [hexpires, hchecked.expires]
      rfl
    · next hkey =>
      rw [if_neg hkey, add_zero]
      exact h.counter key found hfound
  case missing =>
    intro key other hwindow hnone
    rw [hanswered]
    rw [hget] at hnone
    split at hnone
    · cases hnone
    · next hkey =>
      rw [if_neg hkey, add_zero]
      exact h.missing key other hwindow hnone
  case expired => exact h.expired
  case capped =>
    intro key
    have hcapped := h.capped key
    rw [hanswered, made_snoc rfl]
    dsimp only
    split
    · next hkey =>
      subst hkey
      omega
    · exact hcapped
  case limited =>
    intro key limit hlimit
    have hold := h.limited key limit hlimit
    rw [hanswered, allowed_snoc rfl]
    by_cases hkey : Row.key row = key
    · subst hkey
      have hle : attempt.allowed = decide (limits.answered (Row.key row) + 1 ≤ limit) := by
        have hlimit : (policy row.kind).limit = .ofInt limit := hlimit
        rw [hallowed, hlimit, hcount]
        simp only [Number.le, Number.ofInt, decide_eq_decide]
        exact_mod_cast Iff.rfl
      simp only [Option.any_some, true_and, if_true, hle, decide_eq_true_eq]
      split <;> omega
    · rw [if_neg fun hboth => hkey hboth.1, if_neg hkey, add_zero, add_zero]
      exact hold
  case windows => exact h.windows_snoc hchecked _

/-- A counter that is full refuses the attempt. -/
theorem Counts.refuse (h : Counts policy limits) {row : AuthRateLimit} {now windowMs : Int}
    (hchecked : Checked (policy row.kind) now row windowMs)
    (hfull : maxInteger ≤ limits.answered (Row.key row)) :
    Counts policy { limits with entries := limits.entries ++ [⟨Row.key row, now, none⟩] } := by
  have hanswered : ∀ key, answered
      { limits with entries := limits.entries ++ [⟨Row.key row, now, none⟩] } key =
        limits.answered key := by
    intro key
    rw [answered_snoc rfl, if_neg (by simp), add_zero]
  constructor
  case counter =>
    intro key found hfound
    rw [hanswered]
    exact h.counter key found hfound
  case missing =>
    intro key other hwindow hnone
    rw [hanswered]
    exact h.missing key other hwindow hnone
  case expired => exact h.expired
  case capped =>
    intro key
    have hcapped := h.capped key
    rw [hanswered, made_snoc rfl]
    dsimp only
    split
    · next hkey =>
      subst hkey
      omega
    · exact hcapped
  case limited =>
    intro key limit hlimit
    rw [hanswered, allowed_snoc rfl, if_neg (by simp), add_zero]
    exact h.limited key limit hlimit
  case windows => exact h.windows_snoc hchecked _

theorem Counts.attempt (h : Counts policy limits) {keyHash kind : String} {now : Int}
    (hclock : limits.clock ≤ now) (hnow : |now| ≤ maxTime) :
    Counts policy (limits.attempt policy keyHash kind now) := by
  have hlater := h.later hclock
  unfold RateLimits.attempt
  dsimp only
  cases hrow : rateLimitRow (request policy keyHash kind now) with
  | error error => exact hlater
  | ok row =>
    obtain ⟨hkind, windowMs, hchecked⟩ := rateLimitRow_checked hnow hrow
    obtain ⟨hok, herror⟩ := takeRateLimitAttempt_of_row limits.counters hrow
    rw [← hkind] at hchecked
    have hinput : (request policy keyHash kind now).limit = (policy row.kind).limit := by
      rw [hkind]
      rfl
    rcases countAttempt_cases limits.counters row with
      ⟨hnone, counters, hcount, hget⟩ | ⟨counter, hsome, hcounted⟩
    · -- a window that can still receive attempts has not lost its counter
      have hzero : limits.answered (Row.key row) = 0 := by
        refine (h.missing _ windowMs hchecked.windowMs_eq hnone).resolve_right fun hover => ?_
        exact absurd (hover.trans_le hclock) (not_lt.2 hchecked.inside.2.le)
      obtain ⟨attempt, htake, hallowed⟩ := hok _ _ hcount
      simp only [htake]
      refine hlater.raise hchecked ?_ hget ?_ rfl ?_
      · change limits.answered (Row.key row) + 1 ≤ maxInteger
        rw [hzero]
        decide
      · change row.attemptCount = limits.answered (Row.key row) + 1
        rw [hzero, hchecked.first]
      · rw [hallowed, hinput]
    · obtain ⟨hnumber, -⟩ := h.counter _ counter hsome
      rcases hcounted with ⟨hfree, counters, hcount, hget⟩ | ⟨hfull, hcount⟩
      · obtain ⟨attempt, htake, hallowed⟩ := hok _ _ hcount
        simp only [htake]
        refine hlater.raise hchecked ?_ hget ?_ rfl ?_
        · exact hnumber ▸ hfree
        · exact congrArg (· + 1) hnumber
        · rw [hallowed, hinput]
      · simp only [herror _ hcount]
        refine hlater.refuse hchecked ?_
        rw [hnumber] at hfull
        exact Nat.lt_succ_iff.1 hfull

/-- A counter is selected when its window is over, and may be deleted any time after. -/
theorem Counts.cleanupSelects (h : Counts policy limits) {now : Int} {keys : List CounterKey}
    (hkeys : ∀ key ∈ keys, ∃ row, limits.counters.get? key = some row ∧ row.expiresAt < now) :
    Counts policy
      { limits with clock := max limits.clock now, cleanups := limits.cleanups ++ [keys] } := by
  have hlater := h.later (le_max_left limits.clock now)
  refine { hlater with expired := ?_ }
  intro selected hselected key hkey
  rcases List.mem_append.1 hselected with hold | hnew
  · exact hlater.expired selected hold key hkey
  · rw [List.mem_singleton.1 hnew] at hkey
    obtain ⟨row, hget, hexpired⟩ := hkeys key hkey
    obtain ⟨-, windowMs, hwindow, hexpires⟩ := h.counter key row hget
    refine ⟨windowMs, hwindow, ?_⟩
    rw [← hexpires]
    exact hexpired.trans_le (le_max_right _ _)

theorem Counts.cleanupDeletes (h : Counts policy limits) {index : Nat} {key : CounterKey}
    {rest : List CounterKey} (hcleanup : limits.cleanups[index]? = some (key :: rest)) :
    Counts policy
      { limits with
        counters := limits.counters.delete (Row.key · = key)
        cleanups := limits.cleanups.set index rest } := by
  have hmem := List.mem_of_getElem? hcleanup
  refine { h with counter := ?_, missing := ?_, expired := ?_ }
  · intro other row hget
    rw [Table.get?_delete_key] at hget
    split at hget
    · cases hget
    · exact h.counter other row hget
  · intro other windowMs hwindow hnone
    rw [Table.get?_delete_key] at hnone
    split at hnone
    · next hkey =>
      subst hkey
      obtain ⟨deleted, hdeleted, hover⟩ := h.expired _ hmem key List.mem_cons_self
      obtain rfl := Number.ofInt_inj.1 (hdeleted.symm.trans hwindow)
      exact .inr hover
    · exact h.missing other windowMs hwindow hnone
  · intro keys hkeys other hother
    rcases List.mem_or_eq_of_mem_set hkeys with hold | rfl
    · exact h.expired keys hold other hother
    · exact h.expired _ hmem other (List.mem_cons_of_mem key hother)

theorem Counts.step (h : Counts policy limits) {event : RateLimitEvent}
    (hstep : step policy limits event = some after) : Counts policy after := by
  cases event with
  | attempt keyHash kind now =>
    obtain ⟨⟨hclock, hnow⟩, heq⟩ := Option.ite_none_right_eq_some.1 hstep
    cases heq
    exact h.attempt hclock hnow
  | cleanupSelects now batchSize choice =>
    cases batchSize with
    | finite q =>
      cases hstep
      refine h.cleanupSelects fun key hkey => ?_
      obtain ⟨row, hrow, rfl⟩ := List.mem_map.1 hkey
      obtain ⟨hmem, hselected⟩ := List.mem_filter.1 (List.mem_of_mem_take hrow)
      simp only [Bool.and_eq_true, decide_eq_true_eq] at hselected
      exact ⟨row, Table.get?_eq_some_iff.2 ⟨hmem, rfl⟩, hselected.1⟩
    | nan =>
      cases hstep
      exact h
    | posInf =>
      cases hstep
      exact h
    | negInf =>
      cases hstep
      exact h
  | cleanupDeletes index =>
    simp only [RateLimits.step] at hstep
    split at hstep
    · next hcleanup =>
      cases hstep
      exact h.cleanupDeletes hcleanup
    · cases hstep
  | cleanupEnds index =>
    cases hstep
    exact { h with expired := fun keys hkeys => h.expired keys (List.mem_of_mem_eraseIdx hkeys) }

/-- **Main result.** In every window of every kind exactly the limit of the attempts is allowed, or
all of them, whatever is cleaned up meanwhile. An attempt is not answered only where its counter
is at the largest integer of the column. -/
theorem attempts_allowed {policy : String → RateLimitPolicy} {clock : Int}
    {events : List RateLimitEvent} {limits : RateLimits}
    (h : Run (StepOf (step policy)) (start clock) events limits) :
    (∀ entry ∈ limits.entries, ∃ windowMs : Int, 0 < windowMs ∧
      (policy entry.key.2.1).windowMs = .ofInt windowMs ∧
        entry.key.2.2 = entry.now / windowMs * windowMs) ∧
    ∀ key (limit : Nat), (policy key.2.1).limit = .ofInt limit →
      limits.allowed key = min limit (limits.answered key) ∧
      limits.answered key = min (limits.made key) maxInteger ∧
      (limit ≤ maxInteger → limits.allowed key = min limit (limits.made key)) := by
  have hcounts : Counts policy limits :=
    h.invariant (counts_start clock) fun hbefore hstep => hbefore.step hstep
  refine ⟨hcounts.windows, fun key limit hlimit => ?_⟩
  have hallowed := hcounts.limited key limit hlimit
  have hanswered := hcounts.capped key
  exact ⟨hallowed, hanswered, fun hle => by omega⟩

/-- Attempts on one key around a cleanup: the third in the first window is refused, and the counter
of the second window stays. -/
def aroundCleanup : List RateLimitEvent :=
  let keyHash := String.ofList (List.replicate 64 'A')
  [.attempt keyHash "sign_in" 500, .attempt keyHash "sign_in" 600, .attempt keyHash "sign_in" 999,
    .cleanupSelects 1500 (.ofInt 20) fun _ => true, .attempt keyHash "sign_in" 1600,
    .cleanupDeletes 0, .attempt keyHash "sign_in" 1700]

theorem aroundCleanup_allowed :
    ∃ limits, Run (StepOf (step fun _ => ⟨.ofInt 2, .ofInt 1000⟩)) (start 0) aroundCleanup limits ∧
      limits.made (String.ofList (List.replicate 64 'a'), "sign_in", 0) = 3 ∧
      limits.allowed (String.ofList (List.replicate 64 'a'), "sign_in", 0) = 2 := by
  have hall : (runList (step fun _ => ⟨.ofInt 2, .ofInt 1000⟩) (start 0) aroundCleanup).any
      (fun limits =>
        limits.made (String.ofList (List.replicate 64 'a'), "sign_in", 0) = 3) = true := by
    decide +kernel
  obtain ⟨limits, hrun, hmade⟩ := (Option.any_eq_true _ _).1 hall
  have hreached := run_of_runList hrun
  have hmade := of_decide_eq_true hmade
  have hallowed := ((attempts_allowed hreached).2
    (String.ofList (List.replicate 64 'a'), "sign_in", 0) 2 rfl).2.2 (by decide)
  rw [hmade] at hallowed
  exact ⟨limits, hreached, hmade, hallowed⟩

/-! ## A cleanup that is not interrupted -/

theorem rows_deletes (keys : List CounterKey) (counters : Table AuthRateLimit) :
    (keys.foldl (fun counters key => counters.delete (Row.key · = key)) counters).rows =
      counters.rows.filter fun row => !decide (Row.key row ∈ keys) := by
  induction keys generalizing counters with
  | nil => simp
  | cons key keys ih =>
    rw [List.foldl_cons, ih, Table.delete, List.filter_filter]
    refine List.filter_congr fun row _ => ?_
    simp [Bool.and_comm]

theorem run_deletes (policy : String → RateLimitPolicy) {index : Nat} {keys : List CounterKey}
    (limits : RateLimits) (h : limits.cleanups[index]? = some keys) :
    Run (StepOf (step policy)) limits (List.replicate keys.length (.cleanupDeletes index))
      { limits with
        counters :=
          keys.foldl (fun counters key => counters.delete (Row.key · = key)) limits.counters
        cleanups := limits.cleanups.set index [] } := by
  induction keys generalizing limits with
  | nil =>
    obtain ⟨hlt, hget⟩ := List.getElem?_eq_some_iff.1 h
    have hself := List.set_getElem_self hlt
    rw [hget] at hself
    rw [hself]
    exact .nil
  | cons key keys ih =>
    obtain ⟨hlt, -⟩ := List.getElem?_eq_some_iff.1 h
    have hnext := ih
      { limits with
        counters := limits.counters.delete (Row.key · = key)
        cleanups := limits.cleanups.set index keys } (by simp [hlt])
    have hfirst : StepOf (step policy) limits (.cleanupDeletes index)
        { limits with
          counters := limits.counters.delete (Row.key · = key)
          cleanups := limits.cleanups.set index keys } := by
      simp only [StepOf, RateLimits.step, h]
    rw [List.set_set] at hnext
    exact .cons hfirst hnext

/-- Alone, a cleanup leaves the counters that the transaction leaves. -/
theorem cleanup_alone {db db' : Database} {now : Int} {batchSize : Number} {choice : CleanupChoice}
    {result : AccountCleanupResult}
    (h : cleanupExpiredAccountData db now batchSize choice = .ok (result, db'))
    (hcounters : limits.counters = db.authRateLimits) :
    ∃ after, Run (StepOf (step policy)) limits
        (.cleanupSelects now batchSize choice.rateLimit ::
          List.replicate result.rateLimitRowsDeleted (.cleanupDeletes limits.cleanups.length))
        after ∧
      after.counters = db'.authRateLimits := by
  cases batchSize with
  | finite q =>
    cases h
    obtain ⟨rows, hrows⟩ : ∃ rows, rows = (db.authRateLimits.select fun r =>
      decide (r.expiresAt < now) && choice.rateLimit r).take (cleanupBatchSize q) := ⟨_, rfl⟩
    have hselects : StepOf (step policy) limits (.cleanupSelects now (.finite q) choice.rateLimit)
        { limits with
          clock := max limits.clock now
          cleanups := limits.cleanups ++ [rows.map Row.key] } := by
      rw [hrows, ← hcounters]
      rfl
    have hdeletes := run_deletes policy
      { limits with
        clock := max limits.clock now
        cleanups := limits.cleanups ++ [rows.map Row.key] } List.getElem?_concat_length
    rw [List.length_map] at hdeletes
    dsimp only [deleteAccounts]
    rw [← hrows]
    refine ⟨_, .cons hselects hdeletes, Table.ext ?_⟩
    rw [rows_deletes, Table.delete, ← hcounters]
    refine List.filter_congr fun row hrow => ?_
    have hmem : ∀ other ∈ rows, other ∈ limits.counters.rows := by
      rw [hrows, hcounters]
      exact fun other hother => (List.mem_filter.1 (List.mem_of_mem_take hother)).1
    have hiff : Row.key row ∈ rows.map Row.key ↔ row ∈ rows := by
      refine ⟨fun hkey => ?_, List.mem_map_of_mem⟩
      obtain ⟨other, hother, heq⟩ := List.mem_map.1 hkey
      rwa [← Table.eq_of_key (hmem other hother) hrow heq]
    simp only [hiff]
  | nan => cases h
  | posInf => cases h
  | negInf => cases h

end RateLimits

end RcOnline.Web
