import Mathlib

/-!
# Numbers of the host language

A number is a binary64 value. Sums of integers are rounded to 53 significant bits, ties to even
(`roundInt`), so a long sum can drift once it leaves the safe range; inside the range arithmetic is
exact (`add_of_le`, `sub_of_le`). Comparisons with `nan` are false.
-/

namespace RcOnline.Lib

/-! ## Values -/

/-- A number value. The two zeros are one value; no modelled comparison tells them apart. -/
inductive Number where
  | nan
  | posInf
  | negInf
  | finite (q : ℚ)
  deriving DecidableEq

namespace Number

/-- The number that an integer literal denotes. -/
def ofInt (n : Int) : Number := .finite n

/-- `Number.MAX_SAFE_INTEGER`, that is `2^53 - 1`. -/
def maxSafeInteger : Int := 9007199254740991

/-- `x <= 0`. -/
def leZero : Number → Bool
  | .nan => false
  | .posInf => false
  | .negInf => true
  | .finite q => decide (q ≤ 0)

/-- `x <= y`. -/
def le : Number → Number → Bool
  | .nan, _ | _, .nan => false
  | .negInf, _ | _, .posInf => true
  | .posInf, _ | _, .negInf => false
  | .finite p, .finite q => decide (p ≤ q)

/-- `x < y`. -/
def lt (x y : Number) : Bool := x.le y && !y.le x

/-- `Math.max(x, y)`. -/
def max (x y : Number) : Number :=
  if x = .nan ∨ y = .nan then .nan else if x.le y then y else x

/-- `Math.min(x, y)`. -/
def min (x y : Number) : Number :=
  if x = .nan ∨ y = .nan then .nan else if x.le y then x else y

/-- `Number.isSafeInteger(x)`, with the integer it then is. -/
def safeInteger? : Number → Option Int
  | .finite q => if q.den = 1 ∧ |q.num| ≤ maxSafeInteger then some q.num else none
  | _ => none

@[simp] theorem ofInt_inj {m n : Int} : ofInt m = ofInt n ↔ m = n := by
  simp [ofInt]

@[simp] theorem leZero_ofInt (n : Int) : leZero (ofInt n) = decide (n ≤ 0) := by
  simp only [leZero, ofInt, Int.cast_nonpos]

theorem le_refl {x : Number} (h : x ≠ .nan) : x.le x = true := by
  cases x <;> simp_all [le]

theorem le_trans {x y z : Number} (hxy : x.le y = true) (hyz : y.le z = true) :
    x.le z = true := by
  cases x <;> cases y <;> cases z <;> simp_all [le]
  exact hxy.trans hyz

/-- Numbers that are not `nan` compare one way or the other. -/
theorem le_of_not_le {x y : Number} (hx : x ≠ .nan) (hy : y ≠ .nan) (h : x.le y = false) :
    y.le x = true := by
  cases x <;> cases y <;> simp_all [le]
  exact h.le

theorem le_of_not_lt {x y : Number} (hx : x ≠ .nan) (hy : y ≠ .nan) (h : x.lt y = false) :
    y.le x = true := by
  rcases Bool.and_eq_false_iff.1 h with hle | hle
  · exact le_of_not_le hx hy hle
  · rwa [Bool.not_eq_false'] at hle

theorem lt_of_le_of_not_le {x y z : Number} (hy : y ≠ .nan) (hz : z ≠ .nan)
    (hxy : x.le y = true) (hzy : z.le y = false) : x.lt z = true := by
  have hxz := le_trans hxy (le_of_not_le hz hy hzy)
  refine Bool.and_eq_true_iff.2 ⟨hxz, ?_⟩
  rw [Bool.not_eq_true', Bool.eq_false_iff]
  intro hzx
  rw [le_trans hzx hxy] at hzy
  cases hzy

theorem safeInteger?_ofInt (n : Int) :
    safeInteger? (ofInt n) = if |n| ≤ maxSafeInteger then some n else none := by
  simp [safeInteger?, ofInt]

/-- A safe integer is the number of the integer it is read as. -/
theorem safeInteger?_eq_some {x : Number} {n : Int} (h : safeInteger? x = some n) :
    x = ofInt n ∧ |n| ≤ maxSafeInteger := by
  cases x with
  | finite q =>
    simp only [safeInteger?] at h
    split at h
    · next hq =>
      obtain rfl := Option.some.inj h
      refine ⟨?_, hq.2⟩
      rw [ofInt, Rat.coe_int_num_of_den_eq_one hq.1]
    · cases h
  | nan => cases h
  | posInf => cases h
  | negInf => cases h

end Number

/-! ## Rounded arithmetic -/

/-- The natural number nearest to a rational that is not negative, ties to even. -/
def roundHalfEven (q : ℚ) : Nat :=
  let n := ⌊q⌋₊
  let r := q - n
  if 1 / 2 < r ∨ (r = 1 / 2 ∧ n % 2 = 1) then n + 1 else n

/-- The number nearest to a rational: 53 significant bits, exponents from -1022 on. -/
def Number.round (q : ℚ) : Number :=
  let ulp : ℚ := 2 ^ (Max.max (Int.log 2 |q|) (-1022) - 52)
  let magnitude := roundHalfEven (|q| / ulp) * ulp
  if 2 ^ 1024 ≤ magnitude then (if q < 0 then .negInf else .posInf)
  else .finite (if q < 0 then -magnitude else magnitude)

/-- `x - y`. -/
def Number.sub : Number → Number → Number
  | .finite p, .finite q => .round (p - q)
  | .posInf, .finite _ | .posInf, .negInf | .finite _, .negInf => .posInf
  | .negInf, .finite _ | .negInf, .posInf | .finite _, .posInf => .negInf
  | _, _ => .nan

/-- `x + y`. -/
def Number.add : Number → Number → Number
  | .finite p, .finite q => .round (p + q)
  | .posInf, .finite _ | .posInf, .posInf | .finite _, .posInf => .posInf
  | .negInf, .finite _ | .negInf, .negInf | .finite _, .negInf => .negInf
  | _, _ => .nan

/-- The sign of a number; a nan has none. -/
def Number.sign : Number → Int
  | .nan => 0
  | .posInf => 1
  | .negInf => -1
  | .finite q => q.num.sign

/-- `x * y`. -/
def Number.mul : Number → Number → Number
  | .finite p, .finite q => .round (p * q)
  | x, y =>
    if 0 < x.sign * y.sign then .posInf
    else if x.sign * y.sign < 0 then .negInf
    else .nan

/-- `x / k`, for a positive `k`. -/
def Number.divNat (x : Number) (k : Nat) : Number :=
  match x with
  | .finite q => .round (q / k)
  | x => x

/-- `Math.ceil(x)`. -/
def Number.ceil : Number → Number
  | .finite q => .ofInt ⌈q⌉
  | x => x

/-- The time value of `new Date(x)`. -/
def Number.timeClip : Number → Option Int
  | .finite q => if |q| ≤ 8640000000000000 then some (q.num.tdiv q.den) else none
  | _ => none

/-! ## Integers are numbers -/

theorem roundHalfEven_natCast (k : Nat) : roundHalfEven k = k := by
  simp [roundHalfEven]

/-- The spacing of the numbers around a natural number in the safe range divides it. -/
theorem exists_mul_ulp {m : Nat} (h : m ≤ 2 ^ 53) :
    ∃ k : Nat, (m : ℚ) = k * 2 ^ (max (Int.log 2 (m : ℚ)) (-1022) - 52) := by
  rw [Int.log_natCast, max_eq_left (by omega)]
  rcases Nat.lt_or_eq_of_le h with hlt | rfl
  · have hlog : Nat.log 2 m ≤ 52 := by
      rcases Nat.eq_zero_or_pos m with rfl | hpos
      · simp
      · exact Nat.lt_succ_iff.1 (Nat.log_lt_of_lt_pow hpos.ne' hlt)
    refine ⟨m * 2 ^ (52 - Nat.log 2 m), ?_⟩
    have hinv : (2 : ℚ) ^ (52 - Nat.log 2 m) * 2 ^ ((Nat.log 2 m : Int) - 52) = 1 := by
      rw [← zpow_natCast, ← zpow_add₀ two_ne_zero, Nat.cast_sub hlog]
      simp
    rw [Nat.cast_mul, Nat.cast_pow, Nat.cast_ofNat, mul_assoc, hinv, mul_one]
  · refine ⟨2 ^ 52, ?_⟩
    rw [Nat.log_pow (by decide)]
    norm_num

/-- Integers in the safe range are numbers. -/
theorem Number.round_intCast {n : Int} (h : |n| ≤ 2 ^ 53) : Number.round n = .ofInt n := by
  have habs : |(n : ℚ)| = (n.natAbs : ℚ) := by
    rw [← Int.cast_abs, Int.abs_eq_natAbs, Int.cast_natCast]
  have hnat : n.natAbs ≤ 2 ^ 53 := by
    rw [Int.abs_eq_natAbs] at h
    exact_mod_cast h
  obtain ⟨k, hk⟩ := exists_mul_ulp hnat
  unfold Number.round
  rw [habs]
  have hulp : (2 : ℚ) ^ (Max.max (Int.log 2 (n.natAbs : ℚ)) (-1022) - 52) ≠ 0 :=
    zpow_ne_zero _ two_ne_zero
  generalize (2 : ℚ) ^ (Max.max (Int.log 2 (n.natAbs : ℚ)) (-1022) - 52) = ulp at hk hulp
  have hquotient : (n.natAbs : ℚ) / ulp = k := by
    rw [hk, mul_div_cancel_right₀ _ hulp]
  simp only [hquotient, roundHalfEven_natCast, ← hk]
  have hsmall : ¬ (2 : ℚ) ^ 1024 ≤ (n.natAbs : ℚ) := by
    refine not_le_of_gt (lt_of_le_of_lt (Nat.cast_le.2 hnat) ?_)
    rw [Nat.cast_pow, Nat.cast_ofNat]
    exact pow_lt_pow_right₀ one_lt_two (by decide)
  rw [if_neg hsmall, ofInt]
  split
  · next hneg =>
    rw [← habs, abs_of_neg hneg, neg_neg]
  · next hnonneg => rw [← habs, abs_of_nonneg (not_lt.1 hnonneg)]

theorem Number.add_ofInt {m n : Int} (h : |m + n| ≤ 2 ^ 53) :
    (Number.ofInt m).add (.ofInt n) = .ofInt (m + n) := by
  rw [← round_intCast h, Int.cast_add]
  rfl

theorem Number.sub_ofInt {m n : Int} (h : |m - n| ≤ 2 ^ 53) :
    (Number.ofInt m).sub (.ofInt n) = .ofInt (m - n) := by
  rw [← round_intCast h, Int.cast_sub]
  rfl

theorem Number.mul_ofInt {m n : Int} (h : |m * n| ≤ 2 ^ 53) :
    (Number.ofInt m).mul (.ofInt n) = .ofInt (m * n) := by
  rw [← round_intCast h, Int.cast_mul]
  rfl

theorem Number.min_finite (p q : ℚ) :
    (Number.finite p).min (.finite q) = .finite (Min.min p q) := by
  rw [Number.min, if_neg (by simp), Number.le]
  by_cases h : p ≤ q
  · rw [decide_eq_true h, if_pos rfl, min_eq_left h]
  · rw [decide_eq_false h, if_neg Bool.false_ne_true, min_eq_right (not_le.1 h).le]

theorem Number.max_finite (p q : ℚ) :
    (Number.finite p).max (.finite q) = .finite (Max.max p q) := by
  rw [Number.max, if_neg (by simp), Number.le]
  by_cases h : p ≤ q
  · rw [decide_eq_true h, if_pos rfl, max_eq_right h]
  · rw [decide_eq_false h, if_neg Bool.false_ne_true, max_eq_left (not_le.1 h).le]

theorem Number.min_ofInt (m n : Int) : (Number.ofInt m).min (.ofInt n) = .ofInt (Min.min m n) := by
  rw [ofInt, ofInt, min_finite, ofInt, Int.cast_min]

theorem Number.max_ofInt (m n : Int) : (Number.ofInt m).max (.ofInt n) = .ofInt (Max.max m n) := by
  rw [ofInt, ofInt, max_finite, ofInt, Int.cast_max]

theorem Number.timeClip_ofInt {n : Int} (h : |n| ≤ 8640000000000000) :
    (Number.ofInt n).timeClip = some n := by
  have h' : |(n : ℚ)| ≤ 8640000000000000 := by
    rw [← Int.cast_abs]
    exact_mod_cast h
  rw [ofInt, timeClip, if_pos h']
  simp

/-! ## Exact results -/

/-- A rational that is a number. -/
def Number.Exact (q : ℚ) : Prop := Number.round q = .finite q

theorem Number.exact_intCast {n : Int} (h : |n| ≤ 2 ^ 53) : Number.Exact n := round_intCast h

theorem Number.exact_zero : Number.Exact 0 := by
  have h := exact_intCast (n := 0) (by decide)
  rwa [Int.cast_zero] at h

/-- A difference that is not negative is exact if and only if it is a number. -/
theorem Number.max_round_iff {q : ℚ} (h : 0 ≤ q) :
    (Number.ofInt 0).max (Number.round q) = .finite q ↔ Number.Exact q := by
  have hzero : Number.ofInt 0 = .finite 0 := by simp [ofInt]
  constructor
  · intro hmax
    rw [Number.max, hzero] at hmax
    split at hmax
    · cases hmax
    · split at hmax
      · exact hmax
      · obtain rfl := Number.finite.inj hmax
        exact exact_zero
  · intro hexact
    rw [Exact] at hexact
    rw [hexact, hzero, max_finite, max_eq_right h]

/-! ## Rounded integer arithmetic -/

/-- `n` rounded to 53 significant bits, ties to even. -/
def roundNat (n : Nat) : Nat :=
  if n ≤ 2 ^ 53 then n
  else
    let e := n.log2 - 52
    let q := n / 2 ^ e
    let r := n % 2 ^ e
    let half := 2 ^ (e - 1)
    if half < r ∨ (r = half ∧ q % 2 = 1) then (q + 1) * 2 ^ e else q * 2 ^ e

/-- The binary64 value nearest to an integer. -/
def roundInt (n : Int) : Int := n.sign * roundNat n.natAbs

/-- `a + b` on numbers that are integers. -/
def add (a b : Int) : Int := roundInt (a + b)

/-- `a - b` on numbers that are integers. -/
def sub (a b : Int) : Int := roundInt (a - b)

/-- `xs.reduce((sum, x) => sum + x, 0)`. -/
def sumFrom (start : Int) (xs : List Int) : Int := xs.foldl add start

theorem roundInt_of_le {n : Int} (h : |n| ≤ 2 ^ 53) : roundInt n = n := by
  have hn : n.natAbs ≤ 2 ^ 53 := by
    have : ((n.natAbs : Int)) ≤ 2 ^ 53 := by rw [Int.natCast_natAbs]; exact h
    exact_mod_cast this
  rw [roundInt, roundNat, if_pos hn, Int.sign_mul_natAbs]

theorem roundInt_nonneg {n : Int} (h : 0 ≤ n) : 0 ≤ roundInt n :=
  mul_nonneg (Int.sign_nonneg_iff.2 h) (Int.natCast_nonneg _)

theorem add_of_le {a b : Int} (h : |a + b| ≤ 2 ^ 53) : add a b = a + b := roundInt_of_le h

theorem sub_of_le {a b : Int} (h : |a - b| ≤ 2 ^ 53) : sub a b = a - b := roundInt_of_le h

theorem add_nonneg {a b : Int} (h : 0 ≤ a + b) : 0 ≤ add a b := roundInt_nonneg h

@[simp] theorem sumFrom_nil (start : Int) : sumFrom start [] = start := rfl

@[simp] theorem sumFrom_append (start : Int) (xs ys : List Int) :
    sumFrom start (xs ++ ys) = sumFrom (sumFrom start xs) ys := List.foldl_append

/-- Taking amounts from a safe total stays exact while the total covers them. -/
theorem sumFrom_neg_of_le {start : Int} (hs : start ≤ 2 ^ 53) :
    ∀ {xs : List Int}, (∀ x ∈ xs, 0 ≤ x) → xs.sum ≤ start →
      sumFrom start (xs.map Neg.neg) = start - xs.sum := by
  intro xs
  induction xs generalizing start with
  | nil => intro _ _; simp
  | cons x xs ih =>
    intro hx hsum
    rw [List.sum_cons] at hsum ⊢
    have hx0 : 0 ≤ x := hx x List.mem_cons_self
    have hrest : ∀ y ∈ xs, 0 ≤ y := fun y hy => hx y (List.mem_cons_of_mem x hy)
    have hrest0 : 0 ≤ xs.sum := List.sum_nonneg hrest
    have hexact : add start (-x) = start - x := add_of_le (by rw [abs_le]; omega)
    have hstep : sumFrom start ((x :: xs).map Neg.neg) = sumFrom (start - x) (xs.map Neg.neg) := by
      rw [← hexact]; rfl
    rw [hstep, ih (by omega) hrest (by omega)]
    omega

-- the first odd integer beyond the safe range rounds to its even neighbour
example : add (2 ^ 53) 1 = 2 ^ 53 := by decide

end RcOnline.Lib
