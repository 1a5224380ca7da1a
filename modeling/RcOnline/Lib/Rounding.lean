import RcOnline.Lib.Number

/-!
# Rounding is monotone

A larger rational is not rounded to a smaller number (`Number.round_le_round`). So a difference with
a later instant is not smaller (`Number.sub_mono_left`), although differences are rounded. A
quotient of safe integers stays on its side of every whole number (`Number.round_div`).
-/

namespace RcOnline.Lib

/-! ## Whole numbers -/

theorem floor_le_roundHalfEven (q : ℚ) : ⌊q⌋₊ ≤ roundHalfEven q := by
  unfold roundHalfEven
  dsimp only
  split <;> omega

theorem roundHalfEven_le_succ (q : ℚ) : roundHalfEven q ≤ ⌊q⌋₊ + 1 := by
  unfold roundHalfEven
  dsimp only
  split <;> omega

theorem roundHalfEven_mono {p q : ℚ} (h : p ≤ q) : roundHalfEven p ≤ roundHalfEven q := by
  rcases (Nat.floor_mono h).lt_or_eq with hlt | heq
  · exact (roundHalfEven_le_succ p).trans ((Nat.succ_le_of_lt hlt).trans (floor_le_roundHalfEven q))
  · unfold roundHalfEven
    dsimp only
    rw [heq]
    by_cases hup : 1 / 2 < q - ⌊q⌋₊ ∨ q - ⌊q⌋₊ = 1 / 2 ∧ ⌊q⌋₊ % 2 = 1
    · rw [if_pos hup]
      split <;> omega
    · rw [if_neg hup, if_neg]
      rintro (hlt | ⟨htie, hodd⟩)
      · exact hup (.inl (by linarith))
      · -- below the tie that rounds up there is only the tie itself
        rcases h.lt_or_eq with hlt | rfl
        · exact hup (.inl (by linarith))
        · exact hup (.inr ⟨htie, hodd⟩)

theorem roundHalfEven_le {q : ℚ} {k : Nat} (h : q ≤ k) : roundHalfEven q ≤ k :=
  (roundHalfEven_mono h).trans (roundHalfEven_natCast k).le

theorem le_roundHalfEven {q : ℚ} {k : Nat} (h : (k : ℚ) ≤ q) : k ≤ roundHalfEven q :=
  (roundHalfEven_natCast k).symm.le.trans (roundHalfEven_mono h)

theorem roundHalfEven_near {q : ℚ} (h : 0 ≤ q) : |(roundHalfEven q : ℚ) - q| ≤ 1 / 2 := by
  have hle := Nat.floor_le h
  have hlt := Nat.lt_floor_add_one q
  rw [abs_le]
  unfold roundHalfEven
  dsimp only
  split
  · next hup =>
    have hhalf : 1 / 2 ≤ q - ⌊q⌋₊ := hup.elim le_of_lt fun htie => htie.1.ge
    push_cast
    constructor <;> linarith
  · next hdown =>
    have hhalf : q - ⌊q⌋₊ ≤ 1 / 2 := not_lt.1 fun hlt => hdown (.inl hlt)
    constructor <;> linarith

/-- Half of an odd number is a tie, which is rounded to the even neighbour. -/
theorem roundHalfEven_half (k : Nat) :
    ∃ m, roundHalfEven ((k : ℚ) / 2) = m ∧ (2 * m ≤ k + 1 ∧ k ≤ 2 * m + 1) ∧
      (k % 2 = 0 → 2 * m = k) ∧ (k % 2 = 1 → m % 2 = 0) := by
  have hfloor : ⌊(k : ℚ) / 2⌋₊ = k / 2 := by
    have h := Nat.floor_div_natCast (k : ℚ) 2
    rw [Nat.floor_natCast] at h
    exact_mod_cast h
  have hsplit : (k : ℚ) = 2 * ((k / 2 : Nat) : ℚ) + ((k % 2 : Nat) : ℚ) := by
    exact_mod_cast (Nat.div_add_mod k 2).symm
  refine ⟨_, rfl, ?_⟩
  unfold roundHalfEven
  dsimp only
  rw [hfloor]
  rcases Nat.mod_two_eq_zero_or_one k with hk | hk
  · rw [hk, Nat.cast_zero, add_zero] at hsplit
    rw [if_neg (by rw [hsplit]; norm_num)]
    omega
  · rw [hk, Nat.cast_one] at hsplit
    have hhalf : (k : ℚ) / 2 - ((k / 2 : Nat) : ℚ) = 1 / 2 := by linarith
    rw [hhalf]
    split
    · next hup =>
      have hodd : k / 2 % 2 = 1 := by simpa using hup
      omega
    · next hdown =>
      have heven : ¬ k / 2 % 2 = 1 := by simpa using hdown
      omega

/-! ## Magnitudes -/

/-- The exponent of the numbers around a rational that is not negative. -/
def exponent (x : ℚ) : Int := max (Int.log 2 x) (-1022)

/-- The spacing of the numbers around it. -/
def ulp (x : ℚ) : ℚ := 2 ^ (exponent x - 52)

/-- What it is rounded to. -/
def magnitude (x : ℚ) : ℚ := roundHalfEven (x / ulp x) * ulp x

theorem ulp_pos (x : ℚ) : 0 < ulp x := zpow_pos two_pos _

theorem magnitude_nonneg (x : ℚ) : 0 ≤ magnitude x :=
  mul_nonneg (Nat.cast_nonneg _) (ulp_pos x).le

theorem pow_mul_ulp (x : ℚ) (k : Nat) : (2 : ℚ) ^ k * ulp x = 2 ^ (exponent x - 52 + k) := by
  rw [ulp, zpow_add₀ two_ne_zero, zpow_natCast, mul_comm]

/-- A magnitude is at most the next power of two. -/
theorem magnitude_le (x : ℚ) : magnitude x ≤ 2 ^ (exponent x + 1) := by
  have hlt : x < 2 ^ (Int.log 2 x + 1) := by
    exact_mod_cast Int.lt_zpow_succ_log_self one_lt_two x
  have hpow : (2 : ℚ) ^ (Int.log 2 x + 1) ≤ 2 ^ (exponent x + 1) :=
    zpow_le_zpow_right₀ one_le_two (by unfold exponent; omega)
  have hbound : x / ulp x ≤ ((2 ^ 53 : Nat) : ℚ) := by
    rw [div_le_iff₀ (ulp_pos x), Nat.cast_pow, Nat.cast_ofNat, pow_mul_ulp]
    have hexponent : exponent x - 52 + (53 : Nat) = exponent x + 1 := by push_cast; ring
    rw [hexponent]
    exact (hlt.trans_le hpow).le
  calc magnitude x ≤ ((2 ^ 53 : Nat) : ℚ) * ulp x :=
        mul_le_mul_of_nonneg_right (Nat.cast_le.2 (roundHalfEven_le hbound)) (ulp_pos x).le
    _ = 2 ^ (exponent x + 1) := by
        rw [Nat.cast_pow, Nat.cast_ofNat, pow_mul_ulp]
        congr 1
        push_cast
        ring

/-- A magnitude is at least the power of two below it, where the exponents still go down. -/
theorem le_magnitude {x : ℚ} (hx : 0 < x) (hlog : -1022 < exponent x) :
    2 ^ exponent x ≤ magnitude x := by
  have hexponent : exponent x = Int.log 2 x := by
    unfold exponent at hlog ⊢
    omega
  have hle : (2 : ℚ) ^ exponent x ≤ x := by
    rw [hexponent]
    exact_mod_cast Int.zpow_log_le_self one_lt_two hx
  have hbound : ((2 ^ 52 : Nat) : ℚ) ≤ x / ulp x := by
    rw [le_div_iff₀ (ulp_pos x), Nat.cast_pow, Nat.cast_ofNat, pow_mul_ulp]
    have heq : exponent x - 52 + (52 : Nat) = exponent x := by push_cast; ring
    rwa [heq]
  calc (2 : ℚ) ^ exponent x = ((2 ^ 52 : Nat) : ℚ) * ulp x := by
        rw [Nat.cast_pow, Nat.cast_ofNat, pow_mul_ulp]
        congr 1
        push_cast
        ring
    _ ≤ magnitude x :=
        mul_le_mul_of_nonneg_right (Nat.cast_le.2 (le_roundHalfEven hbound)) (ulp_pos x).le

theorem magnitude_zero : magnitude 0 = 0 := by
  have hzero : roundHalfEven 0 = 0 := by simpa using roundHalfEven_natCast 0
  rw [magnitude, zero_div, hzero, Nat.cast_zero, zero_mul]

/-- Magnitudes with one exponent are rounded alike; between two exponents lies a power of two. -/
theorem magnitude_mono {x y : ℚ} (hx : 0 ≤ x) (h : x ≤ y) : magnitude x ≤ magnitude y := by
  rcases hx.eq_or_lt with rfl | hpos
  · rw [magnitude_zero]
    exact magnitude_nonneg y
  · have hlog : Int.log 2 x ≤ Int.log 2 y := Int.log_mono_right hpos h
    have hexponent : exponent x ≤ exponent y := by
      unfold exponent
      omega
    rcases hexponent.lt_or_eq with hlt | heq
    · calc magnitude x ≤ 2 ^ (exponent x + 1) := magnitude_le x
        _ ≤ 2 ^ exponent y := zpow_le_zpow_right₀ one_le_two hlt
        _ ≤ magnitude y := by
            refine le_magnitude (hpos.trans_le h) ?_
            have hmin : -1022 ≤ exponent x := le_max_right _ _
            omega
    · have hulp : ulp x = ulp y := by rw [ulp, ulp, heq]
      rw [magnitude, magnitude, hulp]
      exact mul_le_mul_of_nonneg_right
        (Nat.cast_le.2 (roundHalfEven_mono (div_le_div_of_nonneg_right h (ulp_pos y).le)))
        (ulp_pos y).le

theorem magnitude_near {x : ℚ} (h : 0 ≤ x) : |magnitude x - x| ≤ ulp x / 2 := by
  have hulp := ulp_pos x
  have hsplit : magnitude x - x = (roundHalfEven (x / ulp x) - x / ulp x) * ulp x := by
    rw [magnitude, sub_mul, div_mul_cancel₀ _ hulp.ne']
  rw [hsplit, abs_mul, abs_of_pos hulp]
  have hnear := mul_le_mul_of_nonneg_right (roundHalfEven_near (div_nonneg h hulp.le)) hulp.le
  linarith

/-- Around a normal number the spacing is a share of it. -/
theorem ulp_le {x : ℚ} (h : (2 : ℚ) ^ (-1022 : Int) ≤ x) : ulp x ≤ x / 2 ^ 52 := by
  have hpos : 0 < x := lt_of_lt_of_le (zpow_pos two_pos _) h
  have hlog : -1022 ≤ Int.log 2 x := by
    have hmono := Int.log_mono_right (b := 2) (zpow_pos two_pos _) h
    rwa [show (2 : ℚ) = ((2 : Nat) : ℚ) from rfl, Int.log_zpow one_lt_two] at hmono
  have hexponent : exponent x = Int.log 2 x := max_eq_left hlog
  have hle : (2 : ℚ) ^ exponent x ≤ x := by
    rw [hexponent]
    exact_mod_cast Int.zpow_log_le_self one_lt_two hpos
  rw [ulp, le_div_iff₀ (by positivity), ← zpow_natCast, ← zpow_add₀ two_ne_zero]
  push_cast
  rwa [sub_add_cancel]

/-! ## Numbers -/

namespace Number

theorem round_eq (q : ℚ) :
    round q =
      if 2 ^ 1024 ≤ magnitude |q| then (if q < 0 then .negInf else .posInf)
      else .finite (if q < 0 then -magnitude |q| else magnitude |q|) := rfl

/-- A larger rational is not rounded to a smaller number. -/
theorem round_le_round {p q : ℚ} (h : p ≤ q) : (round p).le (round q) = true := by
  rw [round_eq, round_eq]
  by_cases hp : p < 0
  · rw [if_pos hp, if_pos hp]
    by_cases hq : q < 0
    · have hmono : magnitude |q| ≤ magnitude |p| :=
        magnitude_mono (abs_nonneg q) (by rw [abs_of_neg hp, abs_of_neg hq]; linarith)
      rw [if_pos hq, if_pos hq]
      split
      · split <;> rfl
      · next hbig =>
        rw [if_neg fun hbig' => hbig (hbig'.trans hmono)]
        simpa [le] using hmono
    · have hle : -magnitude |p| ≤ magnitude |q| :=
        (neg_nonpos.2 (magnitude_nonneg _)).trans (magnitude_nonneg _)
      rw [if_neg hq, if_neg hq]
      split <;> split
      · rfl
      · rfl
      · rfl
      · simpa [le] using hle
  · have hq : ¬ q < 0 := by linarith
    have hmono : magnitude |p| ≤ magnitude |q| :=
      magnitude_mono (abs_nonneg p)
        (by rwa [abs_of_nonneg (not_lt.1 hp), abs_of_nonneg (not_lt.1 hq)])
    rw [if_neg hp, if_neg hp, if_neg hq, if_neg hq]
    split
    · next hbig =>
      rw [if_pos (hbig.trans hmono)]
      rfl
    · split
      · rfl
      · simpa [le] using hmono

theorem round_ne_nan (q : ℚ) : round q ≠ .nan := by
  rw [round_eq]
  split
  · split <;> simp
  · simp

/-- What lies between two whole numbers is rounded to a number between them. -/
theorem round_mem {m n : Int} {q : ℚ} (hm : |m| ≤ 2 ^ 53) (hn : |n| ≤ 2 ^ 53)
    (hlow : (m : ℚ) ≤ q) (hhigh : q ≤ n) : ∃ r : ℚ, round q = .finite r ∧ m ≤ r ∧ r ≤ n := by
  have hmono := round_le_round hlow
  have hmono' := round_le_round hhigh
  rw [round_intCast hm] at hmono
  rw [round_intCast hn] at hmono'
  cases hround : round q with
  | finite r =>
    rw [hround] at hmono hmono'
    exact ⟨r, rfl, by simpa [le, ofInt] using hmono, by simpa [le, ofInt] using hmono'⟩
  | nan => exact absurd hround (round_ne_nan q)
  | posInf =>
    rw [hround] at hmono'
    cases hmono'
  | negInf =>
    rw [hround] at hmono
    cases hmono

/-- A normal number is rounded by at most a share of it. -/
theorem round_near {q r : ℚ} (h : round q = .finite r) (hq : (2 : ℚ) ^ (-1022 : Int) ≤ |q|) :
    |r - q| ≤ |q| / 2 ^ 53 := by
  have hnear := magnitude_near (abs_nonneg q)
  have hulp := ulp_le hq
  have hbound : abs (magnitude |q| - |q|) ≤ |q| / 2 ^ 53 := by
    have hhalf : |q| / 2 ^ 53 = |q| / 2 ^ 52 / 2 := by ring
    rw [hhalf]
    linarith
  rw [round_eq] at h
  split at h
  · split at h <;> cases h
  · obtain rfl := Number.finite.inj h
    split
    · next hneg =>
      have hsub : -magnitude |q| - q = -(magnitude |q| - |q|) := by
        rw [abs_of_neg hneg]
        ring
      rwa [hsub, abs_neg]
    · next hpos =>
      rw [abs_of_nonneg (not_lt.1 hpos)] at hbound ⊢
      exact hbound

/-- A quotient of whole numbers that are exact is rounded by less than a share of the divisor. -/
theorem round_div_near {t w : Int} (ht : |t| < 2 ^ 53) (hw : 0 < w) (hw' : w ≤ 2 ^ 53) :
    ∃ r : ℚ, round (t / w) = .finite r ∧ |r| ≤ 2 ^ 53 ∧ |r - t / w| < 1 / w := by
  have hpos : (0 : ℚ) < w := Int.cast_pos.2 hw
  have hone : (1 : ℚ) ≤ w := by exact_mod_cast hw
  have hle : |(t : ℚ) / w| ≤ 2 ^ 53 := by
    rw [abs_div, abs_of_pos hpos, div_le_iff₀ hpos, ← Int.cast_abs]
    have hlt : ((|t| : Int) : ℚ) ≤ 2 ^ 53 := by exact_mod_cast ht.le
    nlinarith
  obtain ⟨hlow, hhigh⟩ := abs_le.1 hle
  obtain ⟨r, hround, hle, hle'⟩ := round_mem (q := (t : ℚ) / w) (m := -2 ^ 53) (n := 2 ^ 53)
    (by decide) (by decide) (by exact_mod_cast hlow) (by exact_mod_cast hhigh)
  refine ⟨r, hround, abs_le.2 ⟨by exact_mod_cast hle, by exact_mod_cast hle'⟩, ?_⟩
  by_cases hzero : t = 0
  · subst hzero
    rw [Int.cast_zero, zero_div, ← Int.cast_zero, round_intCast (by decide)] at hround
    obtain rfl := Number.finite.inj hround
    simpa using hpos
  · have habs : (1 : ℚ) ≤ |(t : ℚ)| := by
      rw [← Int.cast_abs]
      exact_mod_cast Int.one_le_abs hzero
    have hnormal : (2 : ℚ) ^ (-1022 : Int) ≤ |(t : ℚ) / w| := by
      rw [abs_div, abs_of_pos hpos, le_div_iff₀ hpos]
      have hw'' : (w : ℚ) ≤ 2 ^ 53 := by exact_mod_cast hw'
      calc (2 : ℚ) ^ (-1022 : Int) * w ≤ (2 : ℚ) ^ (-1022 : Int) * 2 ^ 53 :=
            mul_le_mul_of_nonneg_left hw'' (by positivity)
        _ = (2 : ℚ) ^ (-969 : Int) := by
            rw [← zpow_natCast, ← zpow_add₀ two_ne_zero]
            rfl
        _ ≤ 1 := zpow_le_one_of_nonpos₀ one_le_two (by decide)
        _ ≤ |(t : ℚ)| := habs
    refine (round_near hround hnormal).trans_lt ?_
    rw [abs_div, abs_of_pos hpos, div_div, mul_comm, ← div_div]
    refine div_lt_div_of_pos_right ?_ hpos
    rw [div_lt_one (by positivity), ← Int.cast_abs]
    exact_mod_cast ht

/-- So it stays on its side of every whole number. -/
theorem round_div {t w : Int} (ht : |t| < 2 ^ 53) (hw : 0 < w) (hw' : w ≤ 2 ^ 53) :
    ∃ r : ℚ, round (t / w) = .finite r ∧
      ∀ n : Int, ((n : ℚ) ≤ r ↔ n * w ≤ t) ∧ (r ≤ n ↔ t ≤ n * w) := by
  obtain ⟨r, hround, hbound, hnear⟩ := round_div_near ht hw hw'
  obtain ⟨hlow, hhigh⟩ := abs_le.1 hbound
  obtain ⟨hnear, hnear'⟩ := abs_lt.1 hnear
  have hpos : (0 : ℚ) < w := Int.cast_pos.2 hw
  -- a whole number beyond the quotient is a share of the divisor away from it
  have hbelow : ∀ n : Int, t < n * w → (t : ℚ) / w + 1 / w ≤ n := by
    intro n hlt
    rw [← add_div, div_le_iff₀ hpos]
    exact_mod_cast Int.add_one_le_iff.2 hlt
  have habove : ∀ n : Int, n * w < t → (n : ℚ) ≤ t / w - 1 / w := by
    intro n hlt
    rw [← sub_div, le_div_iff₀ hpos]
    exact_mod_cast Int.le_sub_one_of_lt hlt
  refine ⟨r, hround, fun n => ⟨⟨fun hle => ?_, fun hle => ?_⟩, ⟨fun hle => ?_, fun hle => ?_⟩⟩⟩
  · by_contra hlt
    have := hbelow n (not_le.1 hlt)
    linarith
  · by_cases hn : -2 ^ 53 ≤ n
    · have hquotient : (n : ℚ) ≤ t / w := by
        rw [le_div_iff₀ hpos]
        exact_mod_cast hle
      have hn' : n ≤ 2 ^ 53 := by
        have hlt := (abs_lt.1 ht).2
        nlinarith
      have hmono := round_le_round hquotient
      rw [round_intCast (abs_le.2 ⟨hn, hn'⟩), hround] at hmono
      simpa [le, ofInt] using hmono
    · have hn' : (n : ℚ) ≤ -2 ^ 53 := by exact_mod_cast (not_le.1 hn).le
      exact hn'.trans hlow
  · by_contra hlt
    have := habove n (not_le.1 hlt)
    linarith
  · by_cases hn : n ≤ 2 ^ 53
    · have hquotient : (t : ℚ) / w ≤ n := by
        rw [div_le_iff₀ hpos]
        exact_mod_cast hle
      have hn' : -2 ^ 53 ≤ n := by
        have hlt := (abs_lt.1 ht).1
        nlinarith
      have hmono := round_le_round hquotient
      rw [round_intCast (abs_le.2 ⟨hn', hn⟩), hround] at hmono
      simpa [le, ofInt] using hmono
    · have hn' : (2 ^ 53 : ℚ) ≤ n := by exact_mod_cast (not_le.1 hn).le
      exact hhigh.trans hn'

/-- Its floor is the one it had before it was rounded. -/
theorem floor_round_div {t w : Int} (ht : |t| < 2 ^ 53) (hw : 0 < w) (hw' : w ≤ 2 ^ 53) :
    ∃ r : ℚ, round (t / w) = .finite r ∧ ⌊r⌋ = t / w := by
  obtain ⟨r, hround, hside⟩ := round_div ht hw hw'
  refine ⟨r, hround, eq_of_forall_le_iff fun n => ?_⟩
  rw [Int.le_floor, (hside n).1, Int.le_ediv_iff_mul_le hw]

/-- So is its ceiling. -/
theorem ceil_round_div {t w : Int} (ht : |t| < 2 ^ 53) (hw : 0 < w) (hw' : w ≤ 2 ^ 53) :
    ∃ r : ℚ, round (t / w) = .finite r ∧ ⌈r⌉ = ⌈(t : ℚ) / w⌉ := by
  obtain ⟨r, hround, hside⟩ := round_div ht hw hw'
  refine ⟨r, hround, eq_of_forall_ge_iff fun n => ?_⟩
  rw [Int.ceil_le, (hside n).2, Int.ceil_le, div_le_iff₀ (Int.cast_pos.2 hw)]
  exact_mod_cast Iff.rfl

/-- Beyond the safe range, up to its double, even whole numbers are numbers, and an odd one is
rounded to the multiple of four next to it. -/
theorem round_beyond {n : Int} (hlow : 2 ^ 53 < n) (hhigh : n < 2 ^ 54) :
    ∃ m : Int, round n = .ofInt m ∧ |m - n| ≤ 1 ∧ (n % 2 = 0 → m = n) ∧
      (n % 2 = 1 → m % 4 = 0) := by
  obtain ⟨k, rfl⟩ := Int.eq_ofNat_of_zero_le (show 0 ≤ n by omega)
  have hlog : Nat.log 2 k = 53 := by
    rw [Nat.log_eq_iff (.inl (by decide))]
    omega
  have hulp : ulp (k : ℚ) = 2 := by
    rw [ulp, exponent, Int.log_natCast, hlog]
    norm_num
  obtain ⟨m, hm, hnear, heven, hodd⟩ := roundHalfEven_half k
  have hnonneg : (0 : ℚ) ≤ ((k : Int) : ℚ) := by positivity
  have hmagnitude : magnitude |((k : Int) : ℚ)| = (((2 * m : Nat) : Int) : ℚ) := by
    rw [abs_of_nonneg hnonneg, Int.cast_natCast, magnitude, hulp, hm]
    push_cast
    ring
  refine ⟨(2 * m : Nat), ?_, ?_, by omega, by omega⟩
  · have hsmall : ¬ (2 : ℚ) ^ 1024 ≤ (((2 * m : Nat) : Int) : ℚ) := by
      rw [not_le]
      have hle : ((2 * m : Nat) : Int) ≤ 2 ^ 54 := by omega
      refine lt_of_le_of_lt (Int.cast_le.2 hle) ?_
      rw [Int.cast_pow, Int.cast_ofNat]
      exact pow_lt_pow_right₀ one_lt_two (by decide)
    rw [round_eq, hmagnitude, if_neg hsmall, if_neg (not_lt.2 hnonneg)]
    rfl
  · rw [abs_le]
    omega

/-- What is not positive is not rounded to a positive number. -/
theorem leZero_round {q : ℚ} (h : q ≤ 0) : (round q).leZero = true := by
  have hmono := round_le_round h
  rw [← Int.cast_zero, round_intCast (by decide)] at hmono
  cases hround : round q with
  | nan => exact absurd hround (round_ne_nan q)
  | negInf => rfl
  | posInf =>
    rw [hround] at hmono
    cases hmono
  | finite r =>
    rw [hround] at hmono
    simpa [le, ofInt, leZero] using hmono

/-- A positive normal number is rounded to a positive one. -/
theorem leZero_round_pos {q : ℚ} (h : (2 : ℚ) ^ (-1022 : Int) ≤ q) : (round q).leZero = false := by
  have hpos : 0 < q := lt_of_lt_of_le (zpow_pos two_pos _) h
  have habs : |q| = q := abs_of_pos hpos
  cases hround : round q with
  | nan => exact absurd hround (round_ne_nan q)
  | posInf => rfl
  | negInf =>
    have hmono := round_le_round hpos.le
    rw [hround, ← Int.cast_zero, round_intCast (by decide)] at hmono
    cases hmono
  | finite r =>
    have hnear := round_near hround (by rwa [habs])
    have hlow := (abs_le.1 hnear).1
    rw [habs] at hlow
    have hshare : q / 2 ^ 53 < q := div_lt_self hpos (by norm_num)
    exact decide_eq_false (not_le.2 (by linarith))

/-- The difference with a later instant is not smaller. -/
theorem sub_mono_left {p q : ℚ} (h : (finite p).le (finite q) = true) (r : ℚ) :
    ((finite p).sub (finite r)).le ((finite q).sub (finite r)) = true := by
  have hle : p ≤ q := by simpa [le] using h
  exact round_le_round (sub_le_sub_right hle r)

/-! ### There are finitely many -/

/-- A finite number is a multiple of the smallest one, and below `2 ^ 1024`. -/
theorem multiple_of_round {q r : ℚ} (h : round q = .finite r) :
    (∃ k : Int, r = k * 2 ^ (-1074 : Int)) ∧ r < 2 ^ 1024 := by
  have hmagnitude : ∃ k : Nat, magnitude |q| = k * 2 ^ (-1074 : Int) := by
    have hmin : -1022 ≤ exponent |q| := le_max_right _ _
    refine ⟨roundHalfEven (|q| / ulp |q|) * 2 ^ (exponent |q| + 1022).toNat, ?_⟩
    have hulp : ulp |q| = (2 : ℚ) ^ (exponent |q| + 1022).toNat * 2 ^ (-1074 : Int) := by
      rw [ulp, ← zpow_natCast, ← zpow_add₀ two_ne_zero]
      congr 1
      omega
    rw [magnitude, hulp, Nat.cast_mul, Nat.cast_pow, Nat.cast_ofNat, mul_assoc]
  obtain ⟨k, hk⟩ := hmagnitude
  rw [round_eq] at h
  split at h
  · split at h <;> cases h
  · next hsmall =>
    obtain rfl := Number.finite.inj h
    have hnonneg := magnitude_nonneg |q|
    split
    · refine ⟨⟨-k, ?_⟩, lt_of_le_of_lt (neg_nonpos.2 hnonneg) (by positivity)⟩
      rw [hk, Int.cast_neg, Int.cast_natCast, neg_mul]
    · refine ⟨⟨k, ?_⟩, not_le.1 hsmall⟩
      rw [hk, Int.cast_natCast]

/-- So no sequence of finite numbers increases for ever. -/
theorem not_increasing {f : Nat → ℚ} (hround : ∀ n, ∃ q, round q = .finite (f n))
    (hlt : ∀ n, f n < f (n + 1)) : False := by
  have hpos : (0 : ℚ) < 2 ^ (-1074 : Int) := zpow_pos two_pos _
  have hmultiple : ∀ n, ∃ k : Int, f n = k * 2 ^ (-1074 : Int) := by
    intro n
    obtain ⟨q, hq⟩ := hround n
    exact (multiple_of_round hq).1
  choose k hk using hmultiple
  have hsucc : ∀ n, k n + 1 ≤ k (n + 1) := by
    intro n
    have hstep := hlt n
    rw [hk, hk, mul_lt_mul_iff_left₀ hpos, Int.cast_lt] at hstep
    exact hstep
  have hgrows : ∀ n : Nat, k 0 + n ≤ k n := by
    intro n
    induction n with
    | zero => simp
    | succ n ih =>
      push_cast
      have := hsucc n
      omega
  obtain ⟨bound, hbound⟩ := exists_int_gt ((2 : ℚ) ^ 1024 / 2 ^ (-1074 : Int))
  have hbounded : ∀ n, k n < bound := by
    intro n
    obtain ⟨q, hq⟩ := hround n
    have hbelow := (multiple_of_round hq).2
    rw [hk, ← lt_div_iff₀ hpos] at hbelow
    exact Int.cast_lt.1 (hbelow.trans hbound)
  have hlast := hgrows (bound - k 0).toNat
  have hless := hbounded (bound - k 0).toNat
  omega

end Number

end RcOnline.Lib
