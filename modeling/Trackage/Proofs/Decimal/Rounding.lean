import Mathlib.Algebra.Order.Field.Power
import Mathlib.Algebra.Order.Floor.Semifield
import Mathlib.Data.Int.Log
import Mathlib.Data.Rat.Floor
import Mathlib.Tactic.FieldSimp
import Mathlib.Tactic.Linarith
import Mathlib.Tactic.Positivity
import Mathlib.Tactic.Ring
import Trackage.Decimal.Binary64

/-!
Rounding by value. The number nearest to a fraction depends on the rational that the fraction stands
for and on nothing else, and every rational that is close to a finite number is rounded to it.
-/

namespace Trackage.Binary64

/-- The rational that a fraction stands for. -/
def Fraction.value (fraction : Fraction) : ℚ := fraction.numerator / fraction.denominator

theorem twoTo_eq (power : Nat) : twoTo power = 2 ^ power := rfl

theorem tenTo_eq (power : Nat) : tenTo power = 10 ^ power := rfl

theorem denominator_scaled_pos (significand : Nat) (exponent : Int) :
    0 < (scaled significand exponent).denominator := by
  unfold scaled
  split
  · exact Nat.one_pos
  · exact Nat.two_pow_pos _

theorem value_scaled (significand : Nat) (exponent : Int) :
    (scaled significand exponent).value = significand * 2 ^ exponent := by
  unfold scaled Fraction.value
  split_ifs with whole
  · lift exponent to ℕ using whole
    simp [twoTo_eq]
  · obtain ⟨power, rfl⟩ := Int.exists_eq_neg_ofNat (not_le.mp whole).le
    simp [twoTo_eq, div_eq_mul_inv]

theorem Fraction.value_lt_iff {x y : Fraction} (x_pos : 0 < x.denominator)
    (y_pos : 0 < y.denominator) :
    x.value < y.value ↔ x.numerator * y.denominator < x.denominator * y.numerator := by
  unfold value
  rw [div_lt_div_iff₀ (by exact_mod_cast x_pos) (by exact_mod_cast y_pos),
    mul_comm (y.numerator : ℚ)]
  exact_mod_cast Iff.rfl

/-- A fraction of two positive naturals. -/
structure Fraction.Positive (fraction : Fraction) : Prop where
  numerator : 0 < fraction.numerator
  denominator : 0 < fraction.denominator

theorem Fraction.Positive.value_pos {fraction : Fraction} (positive : fraction.Positive) :
    0 < fraction.value :=
  div_pos (by exact_mod_cast positive.numerator) (by exact_mod_cast positive.denominator)

/-- A positive natural lies between the powers of two next to it. -/
theorem log2_bounds {n : Nat} (positive : 0 < n) :
    (2 : ℚ) ^ (Nat.log2 n : ℤ) ≤ n ∧ (n : ℚ) < 2 ^ (Nat.log2 n + 1 : ℤ) := by
  constructor
  · exact_mod_cast Nat.log2_self_le (Nat.pos_iff_ne_zero.mp positive)
  · exact_mod_cast Nat.lt_log2_self

/-- The binary logarithms of the parts of a fraction leave two places for its own. -/
theorem log_value_bounds {fraction : Fraction} (positive : fraction.Positive) :
    (Nat.log2 fraction.numerator : ℤ) - Nat.log2 fraction.denominator - 1 ≤
        Int.log 2 fraction.value ∧
      Int.log 2 fraction.value ≤
        (Nat.log2 fraction.numerator : ℤ) - Nat.log2 fraction.denominator := by
  obtain ⟨top_ge, top_lt⟩ := log2_bounds positive.numerator
  obtain ⟨bottom_ge, bottom_lt⟩ := log2_bounds positive.denominator
  generalize (Nat.log2 fraction.numerator : ℤ) = top at top_ge top_lt ⊢
  generalize (Nat.log2 fraction.denominator : ℤ) = bottom at bottom_ge bottom_lt ⊢
  have bottom_pos : (0 : ℚ) < fraction.denominator := by exact_mod_cast positive.denominator
  constructor
  · apply (Int.zpow_le_iff_le_log Nat.one_lt_two positive.value_pos).mp
    rw [Fraction.value, le_div_iff₀ bottom_pos]
    calc (2 : ℚ) ^ (top - bottom - 1) * fraction.denominator
        ≤ 2 ^ (top - bottom - 1) * 2 ^ (bottom + 1) := by gcongr
      _ = 2 ^ top := by rw [← zpow_add₀ two_ne_zero]; congr 1; ring
      _ ≤ fraction.numerator := top_ge
  · apply Int.lt_add_one_iff.mp
    apply (Int.lt_zpow_iff_log_lt Nat.one_lt_two positive.value_pos).mp
    rw [Fraction.value, div_lt_iff₀ bottom_pos]
    calc (fraction.numerator : ℚ)
        < 2 ^ (top + 1) := top_lt
      _ = 2 ^ (top - bottom + 1) * 2 ^ bottom := by rw [← zpow_add₀ two_ne_zero]; congr 1; ring
      _ ≤ 2 ^ (top - bottom + 1) * fraction.denominator := by gcongr

/-- The significand fills its bits at one exponent, which is that of the value. -/
theorem fillingExponent_eq (bits : Nat) {fraction : Fraction} (positive : fraction.Positive) :
    fillingExponent bits fraction = Int.log 2 fraction.value + 1 - bits := by
  obtain ⟨log_ge, log_le⟩ := log_value_bounds positive
  have fits_iff (power : ℤ) :
      fraction.numerator * (scaled 1 power).denominator <
          fraction.denominator * (scaled 1 power).numerator ↔
        Int.log 2 fraction.value < power := by
    rw [← Fraction.value_lt_iff positive.denominator (denominator_scaled_pos 1 power),
      value_scaled, Nat.cast_one, one_mul]
    exact Int.lt_zpow_iff_log_lt Nat.one_lt_two positive.value_pos
  unfold fillingExponent
  simp only [fits_iff]
  split <;> omega

/-- The natural nearest to a rational, a tie to the even one. -/
def roundEven (value : ℚ) : Nat :=
  let low := ⌊value⌋₊
  if 1 / 2 < value - low ∨ (value - low = 1 / 2 ∧ low % 2 = 1) then low + 1 else low

theorem roundQuotient_eq (numerator : Nat) {denominator : Nat} (positive : 0 < denominator) :
    roundQuotient numerator denominator = roundEven ((numerator : ℚ) / denominator) := by
  have bottom_pos : (0 : ℚ) < denominator := by exact_mod_cast positive
  have rest : (numerator : ℚ) / denominator - (numerator / denominator : Nat) =
      (numerator % denominator : Nat) / denominator := by
    rw [div_sub' bottom_pos.ne']
    congr 1
    rw [sub_eq_iff_eq_add]
    exact_mod_cast (Nat.mod_add_div numerator denominator).symm
  have above : 1 / 2 < (numerator % denominator : Nat) / (denominator : ℚ) ↔
      denominator < 2 * (numerator % denominator) := by
    rw [div_lt_div_iff₀ two_pos bottom_pos, one_mul, mul_comm]
    exact_mod_cast Iff.rfl
  have between : (numerator % denominator : Nat) / (denominator : ℚ) = 1 / 2 ↔
      2 * (numerator % denominator) = denominator := by
    rw [div_eq_div_iff bottom_pos.ne' two_ne_zero, one_mul, mul_comm]
    exact_mod_cast Iff.rfl
  unfold roundQuotient roundEven
  simp only [Nat.floor_div_eq_div, rest, above, between]

theorem abs_sub_roundEven_le {value : ℚ} (nonneg : 0 ≤ value) :
    |value - roundEven value| ≤ 1 / 2 := by
  have low_le := Nat.floor_le nonneg
  have lt_high := Nat.lt_floor_add_one value
  unfold roundEven
  dsimp only
  rw [abs_le]
  split_ifs with up
  · have half : 1 / 2 ≤ value - ⌊value⌋₊ := by
      rcases up with above | ⟨between, -⟩
      · exact above.le
      · exact between.ge
    push_cast
    constructor <;> linarith
  · have half : value - ⌊value⌋₊ ≤ 1 / 2 := by
      by_contra above
      exact up (.inl (not_le.mp above))
    constructor <;> linarith

/-- Of two naturals, no more than one is nearer than a half. -/
theorem roundEven_eq {value : ℚ} (nonneg : 0 ≤ value) {n : Nat} (near : |value - n| < 1 / 2) :
    roundEven value = n := by
  have rounded := abs_sub_roundEven_le nonneg
  rw [abs_le] at rounded
  rw [abs_lt] at near
  have below : (roundEven value : ℚ) < n + 1 := by linarith
  have above : (n : ℚ) < roundEven value + 1 := by linarith
  have below' : roundEven value < n + 1 := by exact_mod_cast below
  have above' : n < roundEven value + 1 := by exact_mod_cast above
  omega

theorem significandAt_eq {fraction : Fraction} (positive : 0 < fraction.denominator)
    (exponent : Int) : significandAt fraction exponent = roundEven (fraction.value / 2 ^ exponent) := by
  unfold significandAt Fraction.value
  split_ifs with whole
  · lift exponent to ℕ using whole
    rw [twoTo_eq, roundQuotient_eq _ (Nat.mul_pos positive (Nat.two_pow_pos _)), div_div]
    simp
  · obtain ⟨power, rfl⟩ := Int.exists_eq_neg_ofNat (not_le.mp whole).le
    rw [roundQuotient_eq _ positive, zpow_neg, div_inv_eq_mul, div_mul_eq_mul_div]
    simp [twoTo_eq]

/-- The exponent at which a positive rational is rounded. -/
def exponentAt (value : ℚ) : Int := max (Int.log 2 value + 1 - precision) minExponent

/-- The number nearest to a rational that is not negative. -/
def rounded (negative : Bool) (value : ℚ) : Binary64 :=
  if value = 0 then .finite negative 0 0
  else
    let significand := roundEven (value / 2 ^ exponentAt value)
    let (significand, exponent) :=
      if significand = twoTo precision then (twoTo (precision - 1), exponentAt value + 1)
      else (significand, exponentAt value)
    if significand = 0 then .finite negative 0 0
    else if maxExponent < exponent then .infinite negative
    else .finite negative significand exponent

/-- The number nearest to a fraction is the one nearest to its value. -/
theorem nearest_eq_rounded (negative : Bool) {fraction : Fraction}
    (positive : 0 < fraction.denominator) :
    nearest negative fraction = rounded negative fraction.value := by
  have bottom_pos : (0 : ℚ) < fraction.denominator := by exact_mod_cast positive
  unfold nearest rounded
  by_cases zero : fraction.numerator = 0
  · rw [if_pos zero, if_pos (by rw [Fraction.value, zero, Nat.cast_zero, zero_div])]
  have exponent_eq : exponentFor fraction = exponentAt fraction.value := by
    rw [exponentFor, exponentAt, fillingExponent_eq _ ⟨Nat.pos_of_ne_zero zero, positive⟩]
  have nonzero : fraction.value ≠ 0 := div_ne_zero (by exact_mod_cast zero) bottom_pos.ne'
  rw [if_neg zero, if_neg nonzero, exponent_eq]
  simp only [significandAt_eq positive]

/-- The significand and the exponent of a positive finite number. -/
structure Standard (significand : Nat) (exponent : Int) : Prop where
  positive : 0 < significand
  below : significand < 2 ^ 53
  least : minExponent ≤ exponent
  greatest : exponent ≤ maxExponent
  filled : 2 ^ 52 ≤ significand ∨ exponent = minExponent

/-- A positive rational is rounded at the exponent at which it fills the precision, or at the
least one. -/
theorem exponentAt_eq {value : ℚ} {exponent : Int} (positive : 0 < value)
    (least : minExponent ≤ exponent) (below : value < 2 ^ (53 : ℤ) * 2 ^ exponent)
    (filled : 2 ^ (52 : ℤ) * 2 ^ exponent ≤ value ∨ exponent = minExponent) :
    exponentAt value = exponent := by
  rw [← zpow_add₀ two_ne_zero] at below filled
  have log_lt := (Int.lt_zpow_iff_log_lt Nat.one_lt_two positive).mp below
  unfold exponentAt precision
  rcases filled with filled | rfl
  · have le_log := (Int.zpow_le_iff_le_log Nat.one_lt_two positive).mp filled
    omega
  · omega

theorem rounded_of_standard (negative : Bool) {value : ℚ} {significand : Nat} {exponent : Int}
    (positive : 0 < value) (standard : Standard significand exponent)
    (at_exponent : exponentAt value = exponent)
    (to_significand : roundEven (value / 2 ^ exponent) = significand) :
    rounded negative value = .finite negative significand exponent := by
  have not_carried : significand ≠ twoTo precision := standard.below.ne
  unfold rounded
  simp only [if_neg positive.ne', at_exponent, to_significand, if_neg not_carried,
    if_neg standard.positive.ne', if_neg standard.greatest.not_gt]

/-- A significand that is rounded up to the next power of two moves to the next exponent. -/
theorem rounded_of_carried (negative : Bool) {value : ℚ} {exponent : Int} (positive : 0 < value)
    (greatest : exponent + 1 ≤ maxExponent) (at_exponent : exponentAt value = exponent)
    (carried : roundEven (value / 2 ^ exponent) = 2 ^ 53) :
    rounded negative value = .finite negative (2 ^ 52) (exponent + 1) := by
  have power : 2 ^ 53 = twoTo precision := rfl
  have half_power : twoTo (precision - 1) = 2 ^ 52 := rfl
  unfold rounded
  simp only [if_neg positive.ne', at_exponent, carried, power, half_power, if_true,
    if_neg greatest.not_gt]
  rfl

/-- Where the exponent is that of the number, the nearest significand is that of the number. -/
theorem rounded_of_filled (negative : Bool) {significand : Nat} {exponent : Int}
    (standard : Standard significand exponent) {units : ℚ}
    (near : |units - significand| < significand / 2 ^ 54)
    (filled : 2 ^ (52 : ℤ) ≤ units ∨ exponent = minExponent) :
    rounded negative (units * 2 ^ exponent) = .finite negative significand exponent := by
  have unit_pos : (0 : ℚ) < 2 ^ exponent := by positivity
  have at_least_one : (1 : ℚ) ≤ significand := by exact_mod_cast standard.positive
  have below : (significand : ℚ) + 1 ≤ 2 ^ 53 := by exact_mod_cast standard.below
  obtain ⟨above_units, below_units⟩ := abs_lt.mp near
  have units_pos : 0 < units := by linarith
  have positive : 0 < units * 2 ^ exponent := mul_pos units_pos unit_pos
  have at_exponent : exponentAt (units * 2 ^ exponent) = exponent := by
    apply exponentAt_eq positive standard.least
    · gcongr
      norm_num
      linarith
    · apply filled.imp_left
      intro le_units
      gcongr
  apply rounded_of_standard negative positive standard at_exponent
  rw [mul_div_cancel_right₀ units unit_pos.ne']
  apply roundEven_eq units_pos.le
  linarith

/-- Below a power of two the units are half as large, and the power is reached by a carry. -/
theorem rounded_below_power (negative : Bool) {exponent : Int} (above_least : minExponent < exponent)
    (greatest : exponent ≤ maxExponent) {units : ℚ} (near : 2 ^ 52 - 1 / 4 < units)
    (below : units < 2 ^ 52) :
    rounded negative (units * 2 ^ exponent) = .finite negative (2 ^ 52) exponent := by
  have doubled : units * 2 ^ exponent = 2 * units * 2 ^ (exponent - 1) := by
    rw [zpow_sub_one₀ two_ne_zero]
    ring
  have half_unit_pos : (0 : ℚ) < 2 ^ (exponent - 1) := by positivity
  norm_num at near below
  have positive : 0 < units * 2 ^ exponent := mul_pos (by linarith) (by positivity)
  have at_exponent : exponentAt (units * 2 ^ exponent) = exponent - 1 := by
    apply exponentAt_eq positive (by omega)
    · rw [doubled]
      gcongr
      norm_num
      linarith
    · left
      rw [doubled]
      gcongr
      norm_num
      linarith
  have to_power : roundEven (units * 2 ^ exponent / 2 ^ (exponent - 1)) = 2 ^ 53 := by
    rw [doubled, mul_div_cancel_right₀ _ half_unit_pos.ne']
    apply roundEven_eq (by linarith)
    rw [abs_lt]
    norm_num
    constructor <;> linarith
  have carried := rounded_of_carried negative positive (by omega) at_exponent to_power
  rwa [sub_add_cancel] at carried

/-- A rational that is closer to a finite number than a part of it in two to the fifty-fourth is
rounded to the number. -/
theorem rounded_near (negative : Bool) {significand : Nat} {exponent : Int}
    (standard : Standard significand exponent) {value : ℚ}
    (near : |value - significand * 2 ^ exponent| < significand * 2 ^ exponent / 2 ^ 54) :
    rounded negative value = .finite negative significand exponent := by
  have unit_pos : (0 : ℚ) < 2 ^ exponent := by positivity
  obtain ⟨units, rfl⟩ : ∃ units, value = units * 2 ^ exponent :=
    ⟨value / 2 ^ exponent, (div_mul_cancel₀ value unit_pos.ne').symm⟩
  replace near : |units - significand| < significand / 2 ^ 54 := by
    rw [← sub_mul, abs_mul, abs_of_pos unit_pos, mul_div_right_comm] at near
    exact lt_of_mul_lt_mul_right near unit_pos.le
  by_cases filled : 2 ^ (52 : ℤ) ≤ units ∨ exponent = minExponent
  · exact rounded_of_filled negative standard near filled
  · rw [not_or, not_le] at filled
    obtain ⟨units_lt, not_least⟩ := filled
    have above_least := lt_of_le_of_ne standard.least (Ne.symm not_least)
    have above_units := (abs_lt.mp near).1
    have below : (significand : ℚ) + 1 ≤ 2 ^ 53 := by exact_mod_cast standard.below
    -- A significand that fills the precision, and fits this close to a smaller one, is the power.
    have power : significand = 2 ^ 52 := by
      have fills := standard.filled.resolve_right not_least
      have not_above : (significand : ℚ) < 2 ^ 52 + 1 := by
        norm_num at units_lt
        linarith
      have not_above' : significand < 2 ^ 52 + 1 := by exact_mod_cast not_above
      omega
    subst power
    apply rounded_below_power negative above_least standard.greatest
    · norm_num at above_units ⊢
      linarith
    · exact_mod_cast units_lt

/-- What a rational is rounded to is infinite, zero, or has a significand that fills the precision. -/
def IsStandard : Binary64 → Prop
  | .finite _ significand exponent => significand = 0 ∧ exponent = 0 ∨ Standard significand exponent
  | _ => True

/-- The significand that a rational is rounded to is no greater than the next power of two, and
fills the precision unless the exponent is the least. -/
theorem roundEven_bounds {value : ℚ} (positive : 0 < value) :
    roundEven (value / 2 ^ exponentAt value) ≤ 2 ^ 53 ∧
      (2 ^ 52 ≤ roundEven (value / 2 ^ exponentAt value) ∨ exponentAt value = minExponent) := by
  have unit_pos : (0 : ℚ) < 2 ^ exponentAt value := by positivity
  have near := abs_le.mp (abs_sub_roundEven_le (div_pos positive unit_pos).le)
  have exponent_eq : exponentAt value = max (Int.log 2 value + 1 - 53) minExponent := rfl
  constructor
  · have below : value / 2 ^ exponentAt value < 2 ^ 53 := by
      rw [div_lt_iff₀ unit_pos, ← zpow_natCast, ← zpow_add₀ two_ne_zero]
      apply (Int.lt_zpow_iff_log_lt Nat.one_lt_two positive).mpr
      push_cast
      omega
    have rounded_lt : (roundEven (value / 2 ^ exponentAt value) : ℚ) < 2 ^ 53 + 1 := by linarith
    exact Nat.lt_succ_iff.mp (by exact_mod_cast rounded_lt)
  · rw [or_iff_not_imp_right]
    intro above_least
    have filled : 2 ^ 52 ≤ value / 2 ^ exponentAt value := by
      rw [le_div_iff₀ unit_pos, ← zpow_natCast, ← zpow_add₀ two_ne_zero]
      apply (Int.zpow_le_iff_le_log Nat.one_lt_two positive).mpr
      push_cast
      omega
    have lt_rounded : (2 : ℚ) ^ 52 < roundEven (value / 2 ^ exponentAt value) + 1 := by linarith
    exact Nat.lt_succ_iff.mp (by exact_mod_cast lt_rounded)

theorem isStandard_rounded (negative : Bool) {value : ℚ} (nonneg : 0 ≤ value) :
    (rounded negative value).IsStandard := by
  rcases nonneg.eq_or_lt with rfl | positive
  · exact .inl ⟨rfl, rfl⟩
  obtain ⟨le_power, filled⟩ := roundEven_bounds positive
  have least : minExponent ≤ exponentAt value := le_max_right _ _
  have power : twoTo precision = 2 ^ 53 := rfl
  have half_power : twoTo (precision - 1) = 2 ^ 52 := rfl
  unfold rounded
  rw [if_neg positive.ne']
  generalize roundEven (value / 2 ^ exponentAt value) = significand at le_power filled ⊢
  by_cases carried : significand = 2 ^ 53
  · simp only [carried, power, half_power, if_true]
    rw [if_neg (by decide)]
    split_ifs with beyond
    · trivial
    · exact .inr ⟨by decide, by decide, by omega, by omega, .inl (by decide)⟩
  · simp only [power, if_neg carried]
    split_ifs with none_left beyond
    · exact .inl ⟨rfl, rfl⟩
    · trivial
    · exact .inr ⟨Nat.pos_of_ne_zero none_left, by omega, least, by omega, filled⟩

theorem isStandard_nearest (negative : Bool) {fraction : Fraction}
    (positive : 0 < fraction.denominator) : (nearest negative fraction).IsStandard := by
  rw [nearest_eq_rounded negative positive]
  apply isStandard_rounded
  unfold Fraction.value
  positivity

/-- The sign of a number plays no part in its rounding. -/
theorem rounded_negative {value : ℚ} {significand : Nat} {exponent : Int} (negative : Bool)
    (to_number : rounded false value = .finite false significand exponent) :
    rounded negative value = .finite negative significand exponent := by
  unfold rounded at to_number ⊢
  split at to_number
  next =>
    cases to_number
    rw [if_pos ‹_›]
  next =>
    rw [if_neg ‹_›]
    dsimp only at to_number ⊢
    split_ifs at to_number ⊢ <;> cases to_number <;> rfl

end Trackage.Binary64
