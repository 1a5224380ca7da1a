import RcOnline.Lib.Host

/-!
# The nickname backfill

The block `account_profile_backfill` of `packages/database/migrations/0007_account_profiles.sql`.
Each enabled user without a nickname gets the first free one of its candidates, which no other
user's longer candidates meet (`lower_suffixName_iff`). The counter is an `integer` column, so the
block completes exactly when no user finds all its candidates taken (`backfill_completes_iff`).
-/

namespace RcOnline.Backfill

open RcOnline.Lib

/-! ## Tables -/

/-- A uuid, ordered as its bytes are. -/
abbrev Uuid := Fin (16 ^ 32)

/-- The hexadecimal digits of a number, a given count of them. -/
def hexDigits : Nat → Nat → List Nat
  | 0, _ => []
  | count + 1, n => hexDigits count (n / 16) ++ [n % 16]

/-- `id::text`. -/
def uuidText (id : Uuid) : String :=
  let digits := (hexDigits 32 id).map fun digit => (hexDigit digit).toLower
  .ofList (digits.take 8 ++ '-' :: ((digits.drop 8).take 4 ++ '-' :: ((digits.drop 12).take 4 ++
    '-' :: ((digits.drop 16).take 4 ++ '-' :: digits.drop 20))))

structure User where
  id : Uuid
  disabledAt : Option Int
  deriving DecidableEq

structure Nickname where
  userId : Uuid
  nickname : String
  avatarKey : String
  deriving DecidableEq

/-- Both tables, with the unique indexes that they have before the block; `lower` is the
database's. -/
structure Profiles (lower : String → String) where
  users : List User
  nicknames : List Nickname
  users_nodup : (users.map User.id).Nodup
  owners_nodup : (nicknames.map Nickname.userId).Nodup
  names_nodup : (nicknames.map fun row => lower row.nickname).Nodup

inductive BackfillError where
  /-- A duplicate in `unique (user_id)`. -/
  | userIdUnique
  /-- A duplicate in `nicknames_lower_uidx`. -/
  | nicknamesLowerUidx
  | integerOutOfRange
  deriving DecidableEq

/-- The largest value of an `integer`. -/
def maxInteger : Nat := 2147483647

/-! ## The block -/

/-- `replace(id::text, '-', '')`. -/
def bareText (id : Uuid) : List Char := (uuidText id).toList.filter (· ≠ '-')

def baseNickname (id : Uuid) : String :=
  "Driver-" ++ .ofList (((bareText id).take 8).map Char.toUpper)

def uuidSuffix (id : Uuid) : String := .ofList ((((bareText id).drop 8).take 24).map Char.toUpper)

section Block

variable (lower : String → String)

/-- `exists (select 1 from nicknames n where lower(n.nickname) = lower(name))`. -/
def taken (nicknames : List Nickname) (name : String) : Bool :=
  nicknames.any fun row => lower row.nickname = lower name

/-- The collision loop, from an attempt and its candidate on. -/
def nextFree (nicknames : List Nickname) (id : Uuid) (attempt : Nat) (candidate : String) :
    Except BackfillError String :=
  if taken lower nicknames candidate = true then
    if attempt + 1 ≤ maxInteger then
      nextFree nicknames id (attempt + 1)
        (baseNickname id ++ "-" ++ uuidSuffix id ++ "-" ++ toString (attempt + 1))
    else .error .integerOutOfRange
  else .ok candidate
termination_by maxInteger - attempt

/-- The insert, under both unique indexes. -/
def insertNickname (nicknames : List Nickname) (row : Nickname) :
    Except BackfillError (List Nickname) :=
  if row.userId ∈ nicknames.map Nickname.userId then .error .userIdUnique
  else if taken lower nicknames row.nickname = true then .error .nicknamesLowerUidx
  else .ok (nicknames ++ [row])

/-- The body of the loop for one user. -/
def fill (nicknames : List Nickname) (id : Uuid) : Except BackfillError (List Nickname) :=
  let first :=
    if taken lower nicknames (baseNickname id) = true then baseNickname id ++ "-" ++ uuidSuffix id
    else baseNickname id
  (nextFree lower nicknames id 0 first).bind fun candidate =>
    insertNickname lower nicknames { userId := id, nickname := candidate, avatarKey := "racer-red" }

end Block

/-- The enabled users without a nickname, in order. -/
def missing (users : List User) (nicknames : List Nickname) : List Uuid :=
  ((users.filter fun user =>
    user.disabledAt = none ∧ user.id ∉ nicknames.map Nickname.userId).map User.id).mergeSort
      fun a b => a ≤ b

/-- The whole block; the users are selected before the first of them is filled. -/
def backfill {lower : String → String} (profiles : Profiles lower) :
    Except BackfillError (List Nickname) :=
  (missing profiles.users profiles.nicknames).foldlM (fill lower) profiles.nicknames

/-! ## Candidates -/

/-- A candidate with the whole uuid: without a number, or with one. -/
def suffixName (id : Uuid) (attempt : Nat) : String :=
  baseNickname id ++ "-" ++ uuidSuffix id ++
    (if attempt = 0 then "" else "-" ++ toString attempt)

theorem hexDigits_length (count n : Nat) : (hexDigits count n).length = count := by
  induction count generalizing n with
  | zero => rfl
  | succ count ih => rw [hexDigits, List.length_append, ih]; rfl

theorem hexDigits_lt (count n : Nat) : ∀ digit ∈ hexDigits count n, digit < 16 := by
  induction count generalizing n with
  | zero => simp [hexDigits]
  | succ count ih =>
    intro digit hdigit
    rw [hexDigits, List.mem_append, List.mem_singleton] at hdigit
    rcases hdigit with hdigit | rfl
    · exact ih _ digit hdigit
    · omega

/-- Numbers below a power of sixteen are told apart by their digits. -/
theorem hexDigits_inj {count m n : Nat} (hm : m < 16 ^ count) (hn : n < 16 ^ count)
    (h : hexDigits count m = hexDigits count n) : m = n := by
  induction count generalizing m n with
  | zero => omega
  | succ count ih =>
    rw [pow_succ] at hm hn
    obtain ⟨hinit, hlast⟩ := List.append_inj' h rfl
    have hdiv := ih (Nat.div_lt_of_lt_mul (by omega)) (Nat.div_lt_of_lt_mul (by omega)) hinit
    have hmod : m % 16 = n % 16 := by simpa using hlast
    omega

/-- The digits of a uuid, in upper case. -/
def upperDigits (id : Uuid) : List Char := (hexDigits 32 id).map hexDigit

theorem upperDigits_length (id : Uuid) : (upperDigits id).length = 32 := by
  rw [upperDigits, List.length_map, hexDigits_length]

/-- The characters of a candidate after `Driver-`. -/
def nameChars : List Char :=
  ['0', '1', '2', '3', '4', '5', '6', '7', '8', '9', 'A', 'B', 'C', 'D', 'E', 'F', '-']

theorem hexDigit_facts {digit : Nat} (h : digit < 16) :
    (hexDigit digit).toLower.toUpper = hexDigit digit ∧ (hexDigit digit).toLower ≠ '-' ∧
      hexDigit digit ∈ nameChars ∧ hexDigit digit ≠ '-' := by
  have hall : ∀ d : Fin 16, (hexDigit d).toLower.toUpper = hexDigit d ∧
      (hexDigit d).toLower ≠ '-' ∧ hexDigit d ∈ nameChars ∧ hexDigit d ≠ '-' := by decide
  exact hall ⟨digit, h⟩

theorem hexDigit_inj {m n : Nat} (hm : m < 16) (hn : n < 16) (h : hexDigit m = hexDigit n) :
    m = n := by
  have hall : ∀ a b : Fin 16, hexDigit a = hexDigit b → a = b := by decide
  exact congrArg Fin.val (hall ⟨m, hm⟩ ⟨n, hn⟩ h)

theorem upperDigits_mem (id : Uuid) : ∀ c ∈ upperDigits id, c ∈ nameChars := by
  intro c hc
  obtain ⟨digit, hdigit, rfl⟩ := List.mem_map.1 hc
  exact (hexDigit_facts (hexDigits_lt 32 id digit hdigit)).2.2.1

/-- A list of digits is its numbers. -/
theorem map_hexDigit_inj : ∀ {ms ns : List Nat}, (∀ m ∈ ms, m < 16) → (∀ n ∈ ns, n < 16) →
    ms.map hexDigit = ns.map hexDigit → ms = ns
  | [], [], _, _, _ => rfl
  | [], _ :: _, _, _, h => by cases h
  | _ :: _, [], _, _, h => by cases h
  | m :: ms, n :: ns, hm, hn, h => by
    rw [List.map_cons, List.map_cons, List.cons.injEq] at h
    rw [hexDigit_inj (hm m (by simp)) (hn n (by simp)) h.1,
      map_hexDigit_inj (fun k hk => hm k (by simp [hk])) (fun k hk => hn k (by simp [hk])) h.2]

theorem upperDigits_inj {a b : Uuid} (h : upperDigits a = upperDigits b) : a = b :=
  Fin.ext (hexDigits_inj a.isLt b.isLt
    (map_hexDigit_inj (hexDigits_lt 32 a) (hexDigits_lt 32 b) h))

/-- The text of a uuid without its hyphens. -/
theorem bareText_eq (id : Uuid) :
    bareText id = (hexDigits 32 id).map fun digit => (hexDigit digit).toLower := by
  have hkeep : ∀ l : List Char, (∀ c ∈ l, c ≠ '-') → l.filter (· ≠ '-') = l := fun l hl =>
    List.filter_eq_self.2 fun c hc => by simpa using hl c hc
  have hchars : ∀ c ∈ (hexDigits 32 id).map fun digit => (hexDigit digit).toLower, c ≠ '-' := by
    intro c hc
    obtain ⟨digit, hdigit, rfl⟩ := List.mem_map.1 hc
    exact (hexDigit_facts (hexDigits_lt 32 id digit hdigit)).2.1
  unfold bareText uuidText
  generalize (hexDigits 32 id).map (fun digit => (hexDigit digit).toLower) = text at hchars ⊢
  have htake : ∀ n, (text.drop n).take 4 ++ text.drop (n + 4) = text.drop n := fun n => by
    rw [← List.drop_drop, List.take_append_drop]
  rw [String.toList_ofList]
  simp only [List.filter_append, List.filter_cons_of_neg, ne_eq, not_true_eq_false, decide_false,
    Bool.false_eq_true, not_false_eq_true]
  rw [← List.filter_append, ← List.filter_append, ← List.filter_append, ← List.filter_append,
    htake 16, htake 12, htake 8, List.take_append_drop]
  exact hkeep text hchars

theorem upper_bareText (id : Uuid) : (bareText id).map Char.toUpper = upperDigits id := by
  rw [bareText_eq, List.map_map, upperDigits]
  exact List.map_congr_left fun digit hdigit =>
    (hexDigit_facts (hexDigits_lt 32 id digit hdigit)).1

theorem baseNickname_eq (id : Uuid) :
    baseNickname id = "Driver-" ++ .ofList ((upperDigits id).take 8) := by
  rw [baseNickname, List.map_take, upper_bareText]

theorem uuidSuffix_eq (id : Uuid) : uuidSuffix id = .ofList ((upperDigits id).drop 8) := by
  rw [uuidSuffix, List.map_take, List.map_drop, upper_bareText,
    List.take_of_length_le (by rw [List.length_drop, upperDigits_length])]

/-- The number at the end of a candidate. -/
def tail (attempt : Nat) : List Char :=
  if attempt = 0 then [] else '-' :: (toString attempt).toList

theorem suffixName_eq (id : Uuid) (attempt : Nat) :
    suffixName id attempt =
      "Driver-" ++ .ofList ((upperDigits id).take 8 ++ '-' :: ((upperDigits id).drop 8 ++
        tail attempt)) := by
  rw [suffixName, baseNickname_eq, uuidSuffix_eq, tail]
  apply String.toList_inj.1
  split <;> simp

theorem tail_mem (attempt : Nat) : ∀ c ∈ tail attempt, c ∈ nameChars := by
  intro c hc
  rw [tail] at hc
  split at hc
  · cases hc
  · rcases List.mem_cons.1 hc with rfl | hc
    · decide
    · have hdigit : c.isDigit = true := by
        refine Nat.isDigit_of_mem_toDigits (b := 10) (n := attempt) (by decide) (by decide) ?_
        rwa [← Nat.toList_repr]
      obtain ⟨hlow, hhigh⟩ := Char.isDigit_iff_toNat.1 hdigit
      have hall : ∀ d : Fin 10, Char.ofNat (48 + d) ∈ nameChars := by decide
      have hlow : 48 ≤ c.toNat := hlow
      have hhigh : c.toNat ≤ 57 := hhigh
      have hmem := hall ⟨c.toNat - 48, by omega⟩
      rwa [Nat.add_sub_cancel' hlow, Char.ofNat_toNat] at hmem

theorem tail_inj {j k : Nat} (h : tail j = tail k) : j = k := by
  unfold tail at h
  split at h <;> split at h
  · next hj hk => rw [hj, hk]
  · cases h
  · cases h
  · exact Nat.repr_injective (String.toList_inj.1 (List.cons.inj h).2)

theorem suffixName_mem (id : Uuid) (attempt : Nat) :
    ∀ c ∈ (upperDigits id).take 8 ++ '-' :: ((upperDigits id).drop 8 ++ tail attempt),
      c ∈ nameChars := by
  intro c hc
  rw [List.mem_append, List.mem_cons, List.mem_append] at hc
  rcases hc with hc | rfl | hc | hc
  · exact upperDigits_mem id c (List.mem_of_mem_take hc)
  · decide
  · exact upperDigits_mem id c (List.mem_of_mem_drop hc)
  · exact tail_mem attempt c hc

theorem baseNickname_mem (id : Uuid) : ∀ c ∈ (upperDigits id).take 8, c ∈ nameChars :=
  fun c hc => upperDigits_mem id c (List.mem_of_mem_take hc)

/-- The database's `lower` takes the letters of candidates one by one, as every locale does. -/
def LowersNames (lower : String → String) : Prop :=
  ∀ text : List Char, (∀ c ∈ text, c ∈ nameChars) →
    lower ("Driver-" ++ .ofList text) = "driver-" ++ .ofList (text.map Char.toLower)

section Lower

variable {lower : String → String} (hlower : LowersNames lower)

include hlower

/-- Different candidates differ in more than case. -/
theorem lower_inj {s t : List Char} (hs : ∀ c ∈ s, c ∈ nameChars) (ht : ∀ c ∈ t, c ∈ nameChars)
    (h : lower ("Driver-" ++ .ofList s) = lower ("Driver-" ++ .ofList t)) : s = t := by
  have hback : ∀ c ∈ nameChars, c.toLower.toUpper = c := by
    intro c hc
    fin_cases hc <;> rfl
  have hupper : ∀ l : List Char, (∀ c ∈ l, c ∈ nameChars) →
      (l.map Char.toLower).map Char.toUpper = l := by
    intro l hl
    rw [List.map_map]
    calc l.map (Char.toUpper ∘ Char.toLower) = l.map id :=
          List.map_congr_left fun c hc => hback c (hl c hc)
      _ = l := List.map_id l
  rw [hlower s hs, hlower t ht] at h
  have hchars := congrArg String.toList h
  simp only [String.toList_append, String.toList_ofList, List.append_cancel_left_eq] at hchars
  rw [← hupper s hs, hchars, hupper t ht]

/-- A candidate with the whole uuid is one user's at one attempt. -/
theorem lower_suffixName_iff {a b : Uuid} {j k : Nat} :
    lower (suffixName a j) = lower (suffixName b k) ↔ a = b ∧ j = k := by
  constructor
  · intro h
    rw [suffixName_eq, suffixName_eq] at h
    have hlists := lower_inj hlower (suffixName_mem a j) (suffixName_mem b k) h
    obtain ⟨hfirst, hrest⟩ := List.append_inj hlists (by simp [upperDigits_length])
    obtain ⟨hsuffix, htail⟩ :=
      List.append_inj (List.cons.inj hrest).2 (by simp [upperDigits_length])
    have hdigits : upperDigits a = upperDigits b := by
      rw [← List.take_append_drop 8 (upperDigits a), hfirst, hsuffix, List.take_append_drop]
    exact ⟨upperDigits_inj hdigits, tail_inj htail⟩
  · rintro ⟨rfl, rfl⟩
    rfl

/-- A candidate with the whole uuid is longer than a first candidate. -/
theorem lower_suffixName_ne (a b : Uuid) (k : Nat) :
    lower (suffixName a k) ≠ lower (baseNickname b) := by
  intro h
  rw [suffixName_eq, baseNickname_eq] at h
  have hlists := lower_inj hlower (suffixName_mem a k) (baseNickname_mem b) h
  have hlength := congrArg List.length hlists
  simp only [List.length_append, List.length_cons, List.length_take, List.length_drop,
    upperDigits_length] at hlength
  omega

theorem lower_baseNickname_iff {a b : Uuid} :
    lower (baseNickname a) = lower (baseNickname b) ↔ baseNickname a = baseNickname b := by
  constructor
  · intro h
    rw [baseNickname_eq, baseNickname_eq] at h ⊢
    rw [lower_inj hlower (baseNickname_mem a) (baseNickname_mem b) h]
  · intro h
    rw [h]

end Lower

/-! ## One user -/

section Turn

variable {lower : String → String} {nicknames : List Nickname} {id : Uuid}

theorem taken_iff {name : String} :
    taken lower nicknames name = true ↔ ∃ row ∈ nicknames, lower row.nickname = lower name := by
  simp [taken, List.any_eq_true]

/-- The names that the loop gives: a free one among the candidate and those after it. -/
theorem nextFree_ok {attempt : Nat} {candidate name : String}
    (h : nextFree lower nicknames id attempt candidate = .ok name) :
    taken lower nicknames name = false ∧
      (name = candidate ∨ ∃ k ≤ maxInteger, name = suffixName id k) := by
  fun_induction nextFree lower nicknames id attempt candidate with
  | case1 attempt candidate htaken hle ih =>
    obtain ⟨hfree, heq | hname⟩ := ih h
    · refine ⟨hfree, .inr ⟨attempt + 1, hle, ?_⟩⟩
      rw [heq, suffixName, if_neg (Nat.succ_ne_zero attempt), ← String.append_assoc]
    · exact ⟨hfree, .inr hname⟩
  | case2 attempt candidate htaken hle => cases h
  | case3 attempt candidate hfree =>
    obtain rfl : candidate = name := by simpa using h
    exact ⟨Bool.not_eq_true _ ▸ hfree, .inl rfl⟩

/-- The loop fails exactly when the candidate and all after it are taken. -/
theorem nextFree_error_iff {attempt : Nat} {candidate : String} {e : BackfillError} :
    nextFree lower nicknames id attempt candidate = .error e ↔
      e = .integerOutOfRange ∧ taken lower nicknames candidate = true ∧
        ∀ k, attempt < k → k ≤ maxInteger → taken lower nicknames (suffixName id k) = true := by
  fun_induction nextFree lower nicknames id attempt candidate with
  | case1 attempt candidate htaken hle ih =>
    have hname : baseNickname id ++ "-" ++ uuidSuffix id ++ "-" ++ toString (attempt + 1) =
        suffixName id (attempt + 1) := by
      rw [suffixName, if_neg (Nat.succ_ne_zero attempt), ← String.append_assoc]
    rw [ih, hname]
    constructor
    · rintro ⟨he, hnext, hrest⟩
      refine ⟨he, htaken, fun k hk hmax => ?_⟩
      rcases Nat.lt_or_eq_of_le (Nat.succ_le_of_lt hk) with hlt | rfl
      · exact hrest k hlt hmax
      · exact hnext
    · rintro ⟨he, -, hall⟩
      exact ⟨he, hall _ (Nat.lt_succ_self _) hle, fun k hk => hall k (by omega)⟩
  | case2 attempt candidate htaken hle =>
    constructor
    · intro h
      refine ⟨by cases h; rfl, htaken, fun k hk hmax => ?_⟩
      omega
    · rintro ⟨rfl, -⟩
      rfl
  | case3 attempt candidate hfree =>
    constructor
    · intro h
      cases h
    · rintro ⟨-, htaken, -⟩
      exact absurd htaken hfree

/-- The candidate that the loop starts from. -/
def firstName (lower : String → String) (nicknames : List Nickname) (id : Uuid) : String :=
  if taken lower nicknames (baseNickname id) = true then suffixName id 0 else baseNickname id

theorem fill_eq : fill lower nicknames id =
    (nextFree lower nicknames id 0 (firstName lower nicknames id)).bind fun candidate =>
      insertNickname lower nicknames
        { userId := id, nickname := candidate, avatarKey := "racer-red" } := by
  simp [fill, firstName, suffixName]

/-- A name that the loop gives is the first candidate unless that was taken. -/
theorem nextFree_first_ok {name : String}
    (h : nextFree lower nicknames id 0 (firstName lower nicknames id) = .ok name) :
    taken lower nicknames name = false ∧
      (name = baseNickname id ∨ taken lower nicknames (baseNickname id) = true ∧
        ∃ k ≤ maxInteger, name = suffixName id k) := by
  obtain ⟨hfree, hname⟩ := nextFree_ok h
  refine ⟨hfree, ?_⟩
  by_cases hbase : taken lower nicknames (baseNickname id) = true
  · refine .inr ⟨hbase, ?_⟩
    rw [firstName, if_pos hbase] at hname
    rcases hname with rfl | hname
    · exact ⟨0, Nat.zero_le _, rfl⟩
    · exact hname
  · rw [firstName, if_neg hbase, nextFree, if_neg hbase] at h
    exact .inl (Except.ok.inj h).symm

/-- What filling a user adds. -/
theorem fill_ok {after : List Nickname} (h : fill lower nicknames id = .ok after) :
    ∃ name, after = nicknames ++ [{ userId := id, nickname := name, avatarKey := "racer-red" }] ∧
      taken lower nicknames name = false ∧
      (name = baseNickname id ∨ taken lower nicknames (baseNickname id) = true ∧
        ∃ k ≤ maxInteger, name = suffixName id k) := by
  rw [fill_eq] at h
  cases hnext : nextFree lower nicknames id 0 (firstName lower nicknames id) with
  | error e =>
    rw [hnext] at h
    cases h
  | ok name =>
    rw [hnext, Except.bind, insertNickname] at h
    split at h
    · cases h
    · have hname := nextFree_first_ok hnext
      rw [if_neg (by simp [hname.1])] at h
      exact ⟨name, (Except.ok.inj h).symm, hname⟩

/-- A user without a nickname cannot be filled exactly when all its candidates are taken. -/
theorem fill_error_iff {e : BackfillError} (hid : id ∉ nicknames.map Nickname.userId) :
    fill lower nicknames id = .error e ↔
      e = .integerOutOfRange ∧ taken lower nicknames (baseNickname id) = true ∧
        ∀ k ≤ maxInteger, taken lower nicknames (suffixName id k) = true := by
  have hnext : ∀ e, nextFree lower nicknames id 0 (firstName lower nicknames id) = .error e ↔
      e = .integerOutOfRange ∧ taken lower nicknames (baseNickname id) = true ∧
        ∀ k ≤ maxInteger, taken lower nicknames (suffixName id k) = true := by
    intro e
    rw [nextFree_error_iff]
    by_cases hbase : taken lower nicknames (baseNickname id) = true
    · rw [firstName, if_pos hbase]
      constructor
      · rintro ⟨he, hzero, hrest⟩
        refine ⟨he, hbase, fun k hk => ?_⟩
        rcases Nat.eq_zero_or_pos k with rfl | hpos
        · exact hzero
        · exact hrest k hpos hk
      · rintro ⟨he, -, hall⟩
        exact ⟨he, hall 0 (Nat.zero_le _), fun k _ hk => hall k hk⟩
    · rw [firstName, if_neg hbase]
      constructor
      · rintro ⟨-, hfree, -⟩
        exact absurd hfree hbase
      · rintro ⟨-, hfree, -⟩
        exact absurd hfree hbase
  rw [← hnext, fill_eq]
  cases hloop : nextFree lower nicknames id 0 (firstName lower nicknames id) with
  | error e' => constructor <;> intro h <;> cases h <;> rfl
  | ok name =>
    rw [Except.bind, insertNickname, if_neg hid,
      if_neg (by simp [(nextFree_first_ok hloop).1])]
    constructor <;> intro h <;> cases h

end Turn

/-! ## All users -/

section Folds

variable {σ α ε : Type} {f : σ → α → Except ε σ}

theorem foldlM_append_ok {before rest : List α} {s t : σ}
    (h : (before ++ rest).foldlM f s = .ok t) :
    ∃ u, before.foldlM f s = .ok u ∧ rest.foldlM f u = .ok t := by
  rw [List.foldlM_append] at h
  cases hbefore : before.foldlM f s with
  | error e =>
    rw [hbefore] at h
    cases h
  | ok u =>
    rw [hbefore] at h
    exact ⟨u, rfl, h⟩

/-- A fold that fails does so at one entry. -/
theorem foldlM_error : ∀ {l : List α} {s : σ} {e : ε}, l.foldlM f s = .error e →
    ∃ before a rest u, l = before ++ a :: rest ∧ before.foldlM f s = .ok u ∧ f u a = .error e
  | [], s, e, h => by cases h
  | a :: l, s, e, h => by
    rw [List.foldlM_cons] at h
    cases hstep : f s a with
    | error e' =>
      rw [hstep] at h
      obtain rfl : e' = e := by
        cases h
        rfl
      exact ⟨[], a, l, s, rfl, rfl, hstep⟩
    | ok t =>
      rw [hstep] at h
      obtain ⟨before, b, rest, u, rfl, hbefore, hfail⟩ := foldlM_error h
      refine ⟨a :: before, b, rest, u, rfl, ?_, hfail⟩
      rw [List.foldlM_cons, hstep]
      exact hbefore

end Folds

/-- What the block has added once it has filled some users. -/
structure Filled (lower : String → String) (initial : List Nickname) (done : List Uuid)
    (added : List Nickname) : Prop where
  owners : added.map Nickname.userId = done
  names : ∀ row ∈ added, row.nickname = baseNickname row.userId ∨
    ∃ k ≤ maxInteger, row.nickname = suffixName row.userId k
  base_taken : ∀ id ∈ done, taken lower (initial ++ added) (baseNickname id) = true
  names_nodup : ((initial ++ added).map fun row => lower row.nickname).Nodup

section Run

variable {lower : String → String} {initial added : List Nickname} {done : List Uuid} {id : Uuid}

theorem taken_append {rows : List Nickname} {name : String} :
    taken lower (initial ++ rows) name = true ↔
      taken lower initial name = true ∨ taken lower rows name = true := by
  rw [taken, List.any_append, Bool.or_eq_true]
  rfl

/-- Filling one more user. -/
theorem Filled.fill {after : List Nickname} (h : Filled lower initial done added)
    (hfill : fill lower (initial ++ added) id = .ok after) :
    ∃ row, after = initial ++ (added ++ [row]) ∧
      Filled lower initial (done ++ [id]) (added ++ [row]) := by
  obtain ⟨name, rfl, hfree, hname⟩ := fill_ok hfill
  refine ⟨_, List.append_assoc _ _ _, ?_⟩
  have hnew : taken lower [{ userId := id, nickname := name, avatarKey := "racer-red" }] name =
      true := by simp [taken]
  constructor
  · rw [List.map_append, h.owners]
    rfl
  · intro row hrow
    rcases List.mem_append.1 hrow with hrow | hrow
    · exact h.names row hrow
    · obtain rfl := List.mem_singleton.1 hrow
      exact hname.imp_right And.right
  · intro other hother
    rw [← List.append_assoc, taken_append]
    rcases List.mem_append.1 hother with hother | hother
    · exact .inl (h.base_taken other hother)
    · obtain rfl := List.mem_singleton.1 hother
      rcases hname with rfl | ⟨hbase, -⟩
      · exact .inr hnew
      · exact .inl hbase
  · rw [← List.append_assoc, List.map_append, List.nodup_append]
    refine ⟨h.names_nodup, List.nodup_singleton _, ?_⟩
    intro a ha b hb heq
    obtain ⟨row, hrow, rfl⟩ := List.mem_map.1 ha
    obtain rfl : b = lower name := by simpa using hb
    rw [taken_iff.2 ⟨row, hrow, heq⟩] at hfree
    cases hfree

/-- Filling users one after another. -/
theorem Filled.run {todo : List Uuid} {after : List Nickname} (h : Filled lower initial done added)
    (hrun : todo.foldlM (RcOnline.Backfill.fill lower) (initial ++ added) = .ok after) :
    ∃ more, after = initial ++ more ∧ Filled lower initial (done ++ todo) more := by
  induction todo generalizing done added with
  | nil =>
    obtain rfl : initial ++ added = after := Except.ok.inj hrun
    exact ⟨added, rfl, by rwa [List.append_nil]⟩
  | cons id todo ih =>
    rw [List.foldlM_cons] at hrun
    cases hfill : RcOnline.Backfill.fill lower (initial ++ added) id with
    | error e =>
      rw [hfill] at hrun
      cases hrun
    | ok next =>
      rw [hfill] at hrun
      obtain ⟨row, rfl, hnext⟩ := h.fill hfill
      obtain ⟨more, hmore, hfilled⟩ := ih hnext hrun
      exact ⟨more, hmore, by rwa [List.append_assoc, List.singleton_append] at hfilled⟩

/-- Names that the block adds meet a long candidate of another user never, and its first candidate
only as a first candidate. -/
theorem Filled.not_taken_suffix (h : Filled lower initial done added) (hlower : LowersNames lower)
    (hid : id ∉ done) (k : Nat) : taken lower added (suffixName id k) = false := by
  rw [Bool.eq_false_iff]
  intro htaken
  obtain ⟨row, hrow, heq⟩ := taken_iff.1 htaken
  have howner : row.userId ∈ done := h.owners ▸ List.mem_map_of_mem hrow
  rcases h.names row hrow with hname | ⟨j, -, hname⟩
  · rw [hname] at heq
    exact lower_suffixName_ne hlower id row.userId k heq.symm
  · rw [hname, lower_suffixName_iff hlower] at heq
    exact hid (heq.1 ▸ howner)

theorem Filled.taken_base (h : Filled lower initial done added) (hlower : LowersNames lower)
    (htaken : taken lower added (baseNickname id) = true) :
    ∃ earlier ∈ done, baseNickname earlier = baseNickname id := by
  obtain ⟨row, hrow, heq⟩ := taken_iff.1 htaken
  have howner : row.userId ∈ done := h.owners ▸ List.mem_map_of_mem hrow
  rcases h.names row hrow with hname | ⟨j, -, hname⟩
  · rw [hname, lower_baseNickname_iff hlower] at heq
    exact ⟨row.userId, howner, heq⟩
  · rw [hname] at heq
    exact absurd heq (lower_suffixName_ne hlower row.userId id j)

end Run

/-! ## The block as a whole -/

section Whole

variable {lower : String → String} (profiles : Profiles lower)

/-- All 2147483649 candidates of a user are taken: its names with the whole uuid before the block,
and its first candidate then or by a user that is filled earlier. -/
def Exhausted (id : Uuid) : Prop :=
  (taken lower profiles.nicknames (baseNickname id) = true ∨
    ∃ earlier ∈ missing profiles.users profiles.nicknames,
      earlier < id ∧ baseNickname earlier = baseNickname id) ∧
  ∀ k ≤ maxInteger, taken lower profiles.nicknames (suffixName id k) = true

/-- What the block is for. -/
structure Complete (after : List Nickname) : Prop where
  /-- Every nickname row stays as it is. -/
  kept : profiles.nicknames <+: after
  owners_nodup : (after.map Nickname.userId).Nodup
  names_nodup : (after.map fun row => lower row.nickname).Nodup
  /-- Every enabled user has exactly one nickname. -/
  one : ∀ user ∈ profiles.users, user.disabledAt = none →
    ∃! row, row ∈ after ∧ row.userId = user.id
  /-- A new row belongs to an enabled user that had none. -/
  only : ∀ row ∈ after, row ∈ profiles.nicknames ∨
    row.userId ∉ profiles.nicknames.map Nickname.userId ∧
      ∃ user ∈ profiles.users, user.id = row.userId ∧ user.disabledAt = none

variable {profiles}

theorem mem_missing {id : Uuid} :
    id ∈ missing profiles.users profiles.nicknames ↔
      id ∉ profiles.nicknames.map Nickname.userId ∧
        ∃ user ∈ profiles.users, user.id = id ∧ user.disabledAt = none := by
  rw [missing, List.mem_mergeSort, List.mem_map]
  constructor
  · rintro ⟨user, huser, rfl⟩
    rw [List.mem_filter, decide_eq_true_eq] at huser
    exact ⟨huser.2.2, user, huser.1, rfl, huser.2.1⟩
  · rintro ⟨hid, user, huser, rfl, henabled⟩
    exact ⟨user, List.mem_filter.2 ⟨huser, by simp [henabled, hid]⟩, rfl⟩

theorem missing_nodup : (missing profiles.users profiles.nicknames).Nodup :=
  (List.mergeSort_perm _ _).nodup_iff.2
    (profiles.users_nodup.sublist (List.filter_sublist.map User.id))

theorem missing_sorted :
    (missing profiles.users profiles.nicknames).Pairwise fun a b => a ≤ b := by
  have htrans : ∀ a b c : Uuid, decide (a ≤ b) = true → decide (b ≤ c) = true →
      decide (a ≤ c) = true := by
    intro a b c hab hbc
    exact decide_eq_true ((of_decide_eq_true hab).trans (of_decide_eq_true hbc))
  have htotal : ∀ a b : Uuid, (decide (a ≤ b) || decide (b ≤ a)) = true := by
    intro a b
    rw [Bool.or_eq_true, decide_eq_true_eq, decide_eq_true_eq]
    exact le_total a b
  exact (List.pairwise_mergeSort htrans htotal _).imp fun h => of_decide_eq_true h

theorem filled_nil : Filled lower profiles.nicknames [] [] where
  owners := rfl
  names := by simp
  base_taken := by simp
  names_nodup := by simpa using profiles.names_nodup

/-- Filling some users from the start. -/
theorem filled_of_run {todo : List Uuid} {rows : List Nickname}
    (h : todo.foldlM (fill lower) profiles.nicknames = .ok rows) :
    ∃ added, rows = profiles.nicknames ++ added ∧
      Filled lower profiles.nicknames todo added := by
  obtain ⟨added, hrows, hfilled⟩ := filled_nil.run (by rwa [List.append_nil])
  exact ⟨added, hrows, by rwa [List.nil_append] at hfilled⟩

/-- After the block everything that it is for holds. -/
theorem complete_of_backfill {after : List Nickname} (h : backfill profiles = .ok after) :
    Complete profiles after := by
  obtain ⟨added, rfl, hfilled⟩ := filled_of_run h
  have hmissing : ∀ row ∈ added, row.userId ∉ profiles.nicknames.map Nickname.userId ∧
      ∃ user ∈ profiles.users, user.id = row.userId ∧ user.disabledAt = none := fun row hrow =>
    mem_missing.1 (hfilled.owners ▸ List.mem_map_of_mem hrow)
  have howners : ((profiles.nicknames ++ added).map Nickname.userId).Nodup := by
    rw [List.map_append, List.nodup_append, hfilled.owners]
    refine ⟨profiles.owners_nodup, missing_nodup, ?_⟩
    rintro a ha b hb rfl
    exact (mem_missing.1 hb).1 ha
  refine ⟨List.prefix_append _ _, howners, hfilled.names_nodup, ?_, ?_⟩
  · intro user huser henabled
    have hsome : ∃ row ∈ profiles.nicknames ++ added, row.userId = user.id := by
      by_cases hold : user.id ∈ profiles.nicknames.map Nickname.userId
      · obtain ⟨row, hrow, heq⟩ := List.mem_map.1 hold
        exact ⟨row, List.mem_append_left _ hrow, heq⟩
      · have hid := mem_missing.2 ⟨hold, user, huser, rfl, henabled⟩
        rw [← hfilled.owners] at hid
        obtain ⟨row, hrow, heq⟩ := List.mem_map.1 hid
        exact ⟨row, List.mem_append_right _ hrow, heq⟩
    obtain ⟨row, hrow, heq⟩ := hsome
    refine ⟨row, ⟨hrow, heq⟩, ?_⟩
    rintro other ⟨hother, heq'⟩
    exact List.inj_on_of_nodup_map howners hother hrow (heq'.trans heq.symm)
  · intro row hrow
    exact (List.mem_append.1 hrow).imp_right (hmissing row)

/-- The turn of one user: the users before it, and what they have added. -/
theorem turn_of_prefix {before rest : List Uuid} {id : Uuid} {rows : List Nickname}
    (hmissing : missing profiles.users profiles.nicknames = before ++ id :: rest)
    (hbefore : before.foldlM (fill lower) profiles.nicknames = .ok rows) :
    ∃ added, rows = profiles.nicknames ++ added ∧ Filled lower profiles.nicknames before added ∧
      id ∉ before ∧ id ∉ rows.map Nickname.userId := by
  obtain ⟨added, rfl, hfilled⟩ := filled_of_run hbefore
  have hnodup := @missing_nodup _ profiles
  rw [hmissing, List.nodup_append] at hnodup
  have hid : id ∉ before := fun hmem => hnodup.2.2 id hmem id (by simp) rfl
  refine ⟨added, rfl, hfilled, hid, ?_⟩
  rw [List.map_append, List.mem_append, hfilled.owners, not_or]
  exact ⟨(mem_missing.1 (hmissing ▸ by simp)).1, hid⟩

/-- A failure is the counter's, at a user whose candidates are all taken. -/
theorem exhausted_of_error (hlower : LowersNames lower) {e : BackfillError}
    (h : backfill profiles = .error e) :
    e = .integerOutOfRange ∧
      ∃ id ∈ missing profiles.users profiles.nicknames, Exhausted profiles id := by
  obtain ⟨before, id, rest, rows, hmissing, hbefore, hfail⟩ := foldlM_error h
  obtain ⟨added, rfl, hfilled, hid, howner⟩ := turn_of_prefix hmissing hbefore
  obtain ⟨he, hbase, hall⟩ := (fill_error_iff howner).1 hfail
  refine ⟨he, id, hmissing ▸ by simp, ?_, fun k hk => ?_⟩
  · rcases taken_append.1 hbase with hbase | hbase
    · exact .inl hbase
    · obtain ⟨earlier, hearlier, heq⟩ := hfilled.taken_base hlower hbase
      have hsorted := @missing_sorted _ profiles
      rw [hmissing, List.pairwise_append] at hsorted
      have hle := hsorted.2.2 earlier hearlier id (by simp)
      have hne : earlier ≠ id := fun heq => hid (heq ▸ hearlier)
      exact .inr ⟨earlier, hmissing ▸ by simp [hearlier], lt_of_le_of_ne hle hne, heq⟩
  · rcases taken_append.1 (hall k hk) with htaken | htaken
    · exact htaken
    · rw [hfilled.not_taken_suffix hlower hid k] at htaken
      cases htaken

/-- A user whose candidates are all taken stops the block. -/
theorem not_ok_of_exhausted {id : Uuid} {after : List Nickname}
    (hid : id ∈ missing profiles.users profiles.nicknames) (hexhausted : Exhausted profiles id) :
    backfill profiles ≠ .ok after := by
  intro h
  obtain ⟨before, rest, hmissing⟩ := List.append_of_mem hid
  rw [backfill, hmissing] at h
  obtain ⟨rows, hbefore, hrest⟩ := foldlM_append_ok h
  obtain ⟨added, rfl, hfilled, -, howner⟩ := turn_of_prefix hmissing hbefore
  have hbase : taken lower (profiles.nicknames ++ added) (baseNickname id) = true := by
    rcases hexhausted.1 with htaken | ⟨earlier, hearlier, hlt, heq⟩
    · exact taken_append.2 (.inl htaken)
    · have hmem : earlier ∈ before := by
        have hsorted := @missing_sorted _ profiles
        rw [hmissing, List.pairwise_append, List.pairwise_cons] at hsorted
        rw [hmissing, List.mem_append, List.mem_cons] at hearlier
        rcases hearlier with hmem | rfl | hmem
        · exact hmem
        · exact absurd hlt (lt_irrefl _)
        · exact absurd (hsorted.2.1.1 earlier hmem) (not_le_of_gt hlt)
      rw [← heq]
      exact hfilled.base_taken earlier hmem
  have hfail : fill lower (profiles.nicknames ++ added) id = .error .integerOutOfRange :=
    (fill_error_iff howner).2
      ⟨rfl, hbase, fun k hk => taken_append.2 (.inl (hexhausted.2 k hk))⟩
  rw [List.foldlM_cons, hfail] at hrest
  cases hrest

variable (profiles)

/-- The block completes, with all that it is for, exactly when no user without a nickname finds
all its candidates taken; it never violates a unique index. -/
theorem backfill_completes_iff (hlower : LowersNames lower) :
    ((∃ after, backfill profiles = .ok after ∧ Complete profiles after) ↔
      ∀ id ∈ missing profiles.users profiles.nicknames, ¬ Exhausted profiles id) ∧
    ∀ e, backfill profiles = .error e → e = .integerOutOfRange := by
  refine ⟨⟨?_, ?_⟩, fun e h => (exhausted_of_error hlower h).1⟩
  · rintro ⟨after, hafter, -⟩ id hid hexhausted
    exact not_ok_of_exhausted hid hexhausted hafter
  · intro hnone
    cases h : backfill profiles with
    | error e =>
      obtain ⟨-, id, hid, hexhausted⟩ := exhausted_of_error hlower h
      exact absurd hexhausted (hnone id hid)
    | ok after => exact ⟨after, rfl, complete_of_backfill h⟩

end Whole

/-! ## Two tables -/

/-- `lower` on ASCII letters. -/
def asciiLower (text : String) : String := .ofList (text.toList.map Char.toLower)

theorem lowersNames_asciiLower : LowersNames asciiLower := by
  intro text _
  apply String.toList_inj.1
  simp [asciiLower]

def uuidOf (k : Nat) : Uuid := ⟨k % 16 ^ 32, Nat.mod_lt _ (by decide)⟩

theorem uuidOf_inj {j k : Nat} (hj : j ≤ maxInteger + 2) (hk : k ≤ maxInteger + 2)
    (h : uuidOf j = uuidOf k) : j = k := by
  have hlt : maxInteger + 2 < 16 ^ 32 := by decide
  have hval : j % 16 ^ 32 = k % 16 ^ 32 := congrArg Fin.val h
  rwa [Nat.mod_eq_of_lt (hj.trans_lt hlt), Nat.mod_eq_of_lt (hk.trans_lt hlt)] at hval

theorem nodup_map_range {β : Type} {f : Nat → β} {count : Nat}
    (hf : ∀ j < count, ∀ k < count, f j = f k → j = k) : ((List.range count).map f).Nodup :=
  List.nodup_range.map_on fun j hj k hk h =>
    hf j (List.mem_range.1 hj) k (List.mem_range.1 hk) h

/-- Two enabled users whose uuids begin alike, and no nicknames. -/
def alike : Profiles asciiLower where
  users := (List.range 2).map fun k => { id := uuidOf k, disabledAt := none }
  nicknames := []
  users_nodup := by decide
  owners_nodup := List.nodup_nil
  names_nodup := List.nodup_nil

theorem alike_completes : ∃ after, backfill alike = .ok after ∧ Complete alike after :=
  (backfill_completes_iff alike lowersNames_asciiLower).1.2 fun _ _ hexhausted =>
    Bool.false_ne_true (hexhausted.2 0 (Nat.zero_le _))

/-- The last user of the table. -/
def crowdedOut : Uuid := uuidOf (maxInteger + 2)

/-- The nickname of a user before the last one: a candidate of the last user. -/
def crowdedName (k : Nat) : String :=
  if k ≤ maxInteger then suffixName crowdedOut k else baseNickname crowdedOut

theorem crowdedName_inj {j k : Nat} (hj : j < maxInteger + 2) (hk : k < maxInteger + 2)
    (h : asciiLower (crowdedName j) = asciiLower (crowdedName k)) : j = k := by
  unfold crowdedName at h
  split at h <;> split at h
  · exact ((lower_suffixName_iff lowersNames_asciiLower).1 h).2
  · exact absurd h (lower_suffixName_ne lowersNames_asciiLower _ _ _)
  · exact absurd h.symm (lower_suffixName_ne lowersNames_asciiLower _ _ _)
  · omega

def crowdedUser (k : Nat) : User := { id := uuidOf k, disabledAt := none }

def crowdedRow (k : Nat) : Nickname :=
  { userId := uuidOf k, nickname := crowdedName k, avatarKey := "racer-red" }

/-- Every user has a nickname but the last one, whose candidates the others have. -/
def crowded : Profiles asciiLower where
  users := (List.range (maxInteger + 3)).map crowdedUser
  nicknames := (List.range (maxInteger + 2)).map crowdedRow
  users_nodup := by
    rw [List.map_map]
    exact nodup_map_range fun j hj k hk h => uuidOf_inj (by omega) (by omega) h
  owners_nodup := by
    rw [List.map_map]
    exact nodup_map_range fun j hj k hk h => uuidOf_inj (by omega) (by omega) h
  names_nodup := by
    rw [List.map_map]
    exact nodup_map_range fun j hj k hk h => crowdedName_inj hj hk h

theorem mem_crowded_users {user : User} :
    user ∈ crowded.users ↔ ∃ k < maxInteger + 3, crowdedUser k = user := by
  simp only [crowded, List.mem_map, List.mem_range]

theorem mem_crowded_nicknames {row : Nickname} :
    row ∈ crowded.nicknames ↔ ∃ k < maxInteger + 2, crowdedRow k = row := by
  simp only [crowded, List.mem_map, List.mem_range]

theorem crowded_taken {k : Nat} (hk : k < maxInteger + 2) :
    taken asciiLower crowded.nicknames (crowdedName k) = true :=
  taken_iff.2 ⟨crowdedRow k, mem_crowded_nicknames.2 ⟨k, hk, rfl⟩, rfl⟩

theorem crowdedOut_missing : crowdedOut ∈ missing crowded.users crowded.nicknames := by
  refine mem_missing.2 ⟨?_, crowdedUser (maxInteger + 2), ?_, rfl, rfl⟩
  · intro howner
    obtain ⟨row, hrow, heq⟩ := List.mem_map.1 howner
    obtain ⟨k, hk, rfl⟩ := mem_crowded_nicknames.1 hrow
    have hsame : k = maxInteger + 2 := uuidOf_inj (by omega) le_rfl heq
    omega
  · exact mem_crowded_users.2 ⟨maxInteger + 2, by omega, rfl⟩

theorem crowdedOut_exhausted : Exhausted crowded crowdedOut := by
  constructor
  · have hbase := @crowded_taken (maxInteger + 1) (by omega)
    rw [crowdedName, if_neg (by omega)] at hbase
    exact .inl hbase
  · intro k hk
    have hname := @crowded_taken k (by omega)
    rwa [crowdedName, if_pos hk] at hname

/-- With 2147483649 nicknames in the way the counter leaves its range, and the block fails. -/
theorem crowded_aborts : backfill crowded = .error .integerOutOfRange ∧
    ¬ ∃ after, backfill crowded = .ok after ∧ Complete crowded after := by
  have hfails := fun after => @not_ok_of_exhausted _ crowded _ after crowdedOut_missing
    crowdedOut_exhausted
  constructor
  · cases h : backfill crowded with
    | error e => rw [(exhausted_of_error lowersNames_asciiLower h).1]
    | ok after => exact absurd h (hfails after)
  · rintro ⟨after, hafter, -⟩
    exact hfails after hafter

end RcOnline.Backfill
