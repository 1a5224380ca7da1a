import RcOnline.Domain.Rides
import RcOnline.Lib.Rounding

/-!
# The seconds of a ride

The end of a ride counts the seconds since its start from the difference of two dates, which is a
number: it is rounded beyond `2 ^ 53` milliseconds, which two dates can be apart. The seconds are
none if and only if the end is not after the start (`secondsBetween_eq_zero_iff`), and otherwise
those begun (`secondsBetween_eq`), but for a last one of a single millisecond that the difference
drops.
-/

namespace RcOnline.Domain

open RcOnline.Lib

/-! ## Any dates -/

theorem secondsBetween_some (startedAt endedAt : Int) :
    secondsBetween (some startedAt) (some endedAt) =
      (Number.ofInt 0).max ((Number.round ((endedAt - startedAt : Int) : ℚ)).divNat 1000).ceil := by
  rw [Int.cast_sub]
  rfl

/-- The seconds between two dates. -/
theorem secondsBetween_cases (startedAt endedAt : Date) :
    (secondsBetween startedAt endedAt = .nan ∧ (startedAt = none ∨ endedAt = none)) ∨
      secondsBetween startedAt endedAt = .posInf ∨
      ∃ seconds : Int, 0 ≤ seconds ∧ secondsBetween startedAt endedAt = .ofInt seconds := by
  have hmax : ∀ x : Number, x ≠ .nan →
      (Number.ofInt 0).max x.ceil = .posInf ∨
        ∃ seconds : Int, 0 ≤ seconds ∧ (Number.ofInt 0).max x.ceil = .ofInt seconds := by
    intro x hx
    cases x with
    | nan => exact absurd rfl hx
    | posInf => exact .inl rfl
    | negInf => exact .inr ⟨0, le_rfl, rfl⟩
    | finite q =>
      refine .inr ⟨max 0 ⌈q⌉, le_max_left _ _, ?_⟩
      rw [Number.ceil, Number.max_ofInt]
  cases startedAt with
  | none => exact .inl ⟨by cases endedAt <;> rfl, .inl rfl⟩
  | some startedAt =>
    cases endedAt with
    | none => exact .inl ⟨rfl, .inr rfl⟩
    | some endedAt =>
      rw [secondsBetween_some]
      refine .inr (hmax _ ?_)
      cases hround : Number.round ((endedAt - startedAt : Int) : ℚ) with
      | nan => exact absurd hround (Number.round_ne_nan _)
      | posInf | negInf => exact Number.noConfusion
      | finite q => exact Number.round_ne_nan _

/-- The seconds are none if and only if the quotient is not positive. -/
theorem max_ceil_eq_zero_iff (x : Number) :
    (Number.ofInt 0).max x.ceil = .ofInt 0 ↔ x.leZero = true := by
  cases x with
  | nan => exact iff_of_false (fun h => by cases h) nofun
  | posInf => exact iff_of_false (fun h => by cases h) nofun
  | negInf => exact iff_of_true rfl rfl
  | finite q =>
    rw [Number.ceil, Number.max_ofInt, Number.ofInt_inj, max_eq_left_iff, Int.ceil_le,
      Int.cast_zero, Number.leZero, decide_eq_true_eq]

/-- A second is not begun if and only if the end is not after the start. -/
theorem secondsBetween_eq_zero_iff {startedAt endedAt : Int} :
    secondsBetween (some startedAt) (some endedAt) = .ofInt 0 ↔ endedAt ≤ startedAt := by
  rw [secondsBetween_some, max_ceil_eq_zero_iff]
  rcases le_or_gt endedAt startedAt with hle | hlt
  · refine iff_of_true ?_ hle
    have hzero := Number.leZero_round (q := ((endedAt - startedAt : Int) : ℚ))
      (Int.cast_nonpos.2 (sub_nonpos.2 hle))
    cases hround : Number.round ((endedAt - startedAt : Int) : ℚ) with
    | negInf => rfl
    | nan | posInf =>
      rw [hround] at hzero
      cases hzero
    | finite r =>
      rw [hround] at hzero
      have hr : r ≤ 0 := of_decide_eq_true hzero
      exact Number.leZero_round (div_nonpos_of_nonpos_of_nonneg hr (by norm_num))
  · refine iff_of_false (Bool.not_eq_true _ ▸ ?_) (not_le.2 hlt)
    have hone : ((1 : Int) : ℚ) ≤ ((endedAt - startedAt : Int) : ℚ) := Int.cast_le.2 (by omega)
    have hmono := Number.round_le_round hone
    rw [Number.round_intCast (by decide)] at hmono
    cases hround : Number.round ((endedAt - startedAt : Int) : ℚ) with
    | posInf => rfl
    | nan | negInf =>
      rw [hround] at hmono
      cases hmono
    | finite r =>
      rw [hround] at hmono
      have hr : (1 : ℚ) ≤ r := by simpa [Number.le, Number.ofInt] using hmono
      refine Number.leZero_round_pos ?_
      calc (2 : ℚ) ^ (-1022 : Int) ≤ 2 ^ (-10 : Int) :=
            zpow_le_zpow_right₀ one_le_two (by decide)
        _ ≤ 1 / 1000 := by norm_num
        _ ≤ r / ((1000 : Nat) : ℚ) := by
            push_cast
            exact div_le_div_of_nonneg_right hr (by norm_num)

/-! ## Dates that there are -/

/-- The seconds from an instant to another, the last one begun included. -/
def wholeSeconds (startedAt endedAt : Int) : Int := ⌈((endedAt - startedAt : Int) : ℚ) / 1000⌉

theorem wholeSeconds_eq (startedAt endedAt : Int) :
    wholeSeconds startedAt endedAt = -((startedAt - endedAt) / 1000) := by
  have h := Rat.ceil_intCast_div_natCast (endedAt - startedAt) 1000
  rwa [neg_sub] at h

/-- The last second begun is a single millisecond, which is lost in a difference that is rounded. -/
def LosesSecond (startedAt endedAt : Int) : Prop :=
  2 ^ 53 < endedAt - startedAt ∧ (endedAt - startedAt) % 1000 = 1

instance (startedAt endedAt : Int) : Decidable (LosesSecond startedAt endedAt) :=
  inferInstanceAs (Decidable (_ ∧ _))

/-- The seconds begun, but for one that is lost. -/
def secondsBegun (startedAt endedAt : Int) : Int :=
  if LosesSecond startedAt endedAt then wholeSeconds startedAt endedAt - 1
  else wholeSeconds startedAt endedAt

theorem secondsBegun_cases (startedAt endedAt : Int) :
    (2 ^ 53 < endedAt - startedAt ∧ (endedAt - startedAt) % 1000 = 1) ∧
        secondsBegun startedAt endedAt = -((startedAt - endedAt) / 1000) - 1 ∨
      ¬ (2 ^ 53 < endedAt - startedAt ∧ (endedAt - startedAt) % 1000 = 1) ∧
        secondsBegun startedAt endedAt = -((startedAt - endedAt) / 1000) := by
  unfold secondsBegun
  rw [wholeSeconds_eq]
  split
  · next hlost => exact .inl ⟨hlost, rfl⟩
  · next hkept => exact .inr ⟨hkept, rfl⟩

theorem secondsBegun_nonneg {startedAt endedAt : Int} (h : startedAt ≤ endedAt) :
    0 ≤ secondsBegun startedAt endedAt := by
  rcases secondsBegun_cases startedAt endedAt with ⟨hlost, heq⟩ | ⟨-, heq⟩ <;> omega

/-- The whole seconds of a quotient of whole numbers that are exact. -/
theorem max_ceil_divNat {t : Int} {w : Nat} (ht : |t| < 2 ^ 53) (hw : 0 < w) (hw' : w ≤ 2 ^ 53) :
    (Number.ofInt 0).max ((Number.round ((t : ℚ) / w)).ceil) = .ofInt (max 0 (-(-t / w))) := by
  obtain ⟨r, hround, hceil⟩ := Number.ceil_round_div (t := t) (w := w) ht
    (Int.natCast_pos.2 hw) (by exact_mod_cast hw')
  rw [Int.cast_natCast] at hround hceil
  rw [hround, Number.ceil, hceil, Number.max_ofInt, Rat.ceil_intCast_div_natCast]

/-- What the difference of dates that are far apart is rounded to is even, and loses a last second
of a single millisecond only. -/
theorem round_difference {startedAt endedAt : Int} (hlow : 2 ^ 53 ≤ endedAt - startedAt)
    (hhigh : endedAt - startedAt ≤ 17280000000000000) :
    ∃ half : Int, Number.round ((endedAt - startedAt : Int) : ℚ) = .ofInt (2 * half) ∧
      |half| < 2 ^ 53 ∧ -(-half / 500) = secondsBegun startedAt endedAt := by
  have hcases := secondsBegun_cases startedAt endedAt
  rcases hlow.eq_or_lt with heq | hlt
  · refine ⟨2 ^ 52, ?_, by decide, ?_⟩
    · rw [← heq]
      exact Number.round_intCast (by decide)
    · rcases hcases with ⟨hlost, hbegun⟩ | ⟨-, hbegun⟩ <;> omega
  · obtain ⟨m, hround, hnear, heven, hodd⟩ := Number.round_beyond hlt (by omega)
    rw [abs_le] at hnear
    refine ⟨m / 2, ?_, ?_, ?_⟩
    · rw [hround, Int.mul_ediv_cancel' (by omega)]
    · rw [abs_lt]
      omega
    · rcases hcases with ⟨hlost, hbegun⟩ | ⟨hkept, hbegun⟩ <;> omega

/-- Between dates that there are, the clock not going back, the seconds begun are counted. -/
theorem secondsBetween_eq {startedAt endedAt : Int} (hstart : Date.Valid (some startedAt))
    (hend : Date.Valid (some endedAt)) (hle : startedAt ≤ endedAt) :
    secondsBetween (some startedAt) (some endedAt) = .ofInt (secondsBegun startedAt endedAt) := by
  have hstart := abs_le.1 (hstart startedAt rfl)
  have hend := abs_le.1 (hend endedAt rfl)
  have hnonneg := secondsBegun_nonneg hle
  rw [secondsBetween_some]
  rcases lt_or_ge (endedAt - startedAt) (2 ^ 53) with hlow | hhigh
  · have habs : |endedAt - startedAt| < 2 ^ 53 := by
      rw [abs_of_nonneg (by omega)]
      exact hlow
    have hbegun : -(-(endedAt - startedAt) / ((1000 : Nat) : Int)) =
        secondsBegun startedAt endedAt := by
      rcases secondsBegun_cases startedAt endedAt with ⟨hlost, heq⟩ | ⟨-, heq⟩ <;> omega
    rw [Number.round_intCast habs.le]
    change (Number.ofInt 0).max (Number.round _).ceil = _
    rw [max_ceil_divNat habs (by decide) (by decide), hbegun, max_eq_right hnonneg]
  · obtain ⟨half, hround, hbound, hbegun⟩ := round_difference hhigh (by omega)
    have hquotient : ((2 * half : Int) : ℚ) / ((1000 : Nat) : ℚ) = half / ((500 : Nat) : ℚ) := by
      push_cast
      ring
    rw [hround]
    change (Number.ofInt 0).max (Number.round _).ceil = _
    rw [hquotient, max_ceil_divNat hbound (by decide) (by decide)]
    rw [Nat.cast_ofNat, hbegun, max_eq_right hnonneg]

end RcOnline.Domain
