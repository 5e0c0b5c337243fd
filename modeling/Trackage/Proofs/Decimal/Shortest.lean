import Trackage.Decimal.Shortest
import Trackage.Proofs.Decimal.Rounding

/-!
Decimals that read back. A decimal is read as the number nearest to its value, and the shortest
decimal of a finite number is read as that number.
-/

namespace Trackage.Binary64

/-- Powers of two bases are compared by any powers of the bases that compare. -/
theorem pow_le_pow_of_pow_le {a b m n s t : Nat} (b_pos : 0 < b) (m_ne : m ≠ 0)
    (bases : a ^ m ≤ b ^ n) (powers : n * s ≤ m * t) : a ^ s ≤ b ^ t := by
  apply (Nat.pow_le_pow_iff_left m_ne).mp
  calc (a ^ s) ^ m
      = (a ^ m) ^ s := by rw [← Nat.pow_mul, ← Nat.pow_mul, Nat.mul_comm]
    _ ≤ (b ^ n) ^ s := Nat.pow_le_pow_left bases s
    _ = b ^ (n * s) := (Nat.pow_mul b n s).symm
    _ ≤ b ^ (m * t) := Nat.pow_le_pow_right b_pos powers
    _ = (b ^ t) ^ m := by rw [← Nat.pow_mul, Nat.mul_comm]

theorem two_pow_le_ten_pow {s t : Nat} (powers : s ≤ 3 * t) : 2 ^ s ≤ 10 ^ t :=
  pow_le_pow_of_pow_le (by norm_num) (by norm_num) (by norm_num : 2 ^ 3 ≤ 10 ^ 1) (by omega)

/-- The value of a decimal. -/
def decimalValue (digits : Nat) (exponent : Int) : ℚ := digits * 10 ^ exponent

theorem decimalValue_pos {digits : Nat} (positive : 0 < digits) (exponent : Int) :
    0 < decimalValue digits exponent := by
  have positive' : (0 : ℚ) < digits := by exact_mod_cast positive
  unfold decimalValue
  positivity

theorem rounded_eq_infinite (negative : Bool) {value : ℚ} (above : 2 ^ (1024 : ℤ) ≤ value) :
    rounded negative value = .infinite negative := by
  have positive : 0 < value := lt_of_lt_of_le (by positivity) above
  have le_log := (Int.zpow_le_iff_le_log Nat.one_lt_two positive).mp above
  have exponent_gt : maxExponent < exponentAt value := by
    unfold exponentAt precision maxExponent
    omega
  have not_least : exponentAt value ≠ minExponent := by
    unfold maxExponent at exponent_gt
    unfold minExponent
    omega
  have filled := (roundEven_bounds positive).2.resolve_right not_least
  unfold rounded
  rw [if_neg positive.ne']
  dsimp only
  have some_power : twoTo (precision - 1) ≠ 0 := by decide
  split_ifs <;> first | rfl | omega

theorem rounded_eq_zero (negative : Bool) {value : ℚ} (nonneg : 0 ≤ value)
    (below : value < 2 ^ (-1075 : ℤ)) : rounded negative value = .finite negative 0 0 := by
  rcases nonneg.eq_or_lt with rfl | positive
  · rfl
  have log_lt := (Int.lt_zpow_iff_log_lt Nat.one_lt_two positive).mp below
  have exponent_eq : exponentAt value = minExponent := by
    unfold exponentAt precision minExponent
    omega
  have nothing : roundEven (value / 2 ^ exponentAt value) = 0 := by
    apply roundEven_eq (by positivity)
    rw [Nat.cast_zero, sub_zero, abs_of_nonneg (by positivity), div_lt_iff₀ (by positivity),
      exponent_eq]
    calc value < 2 ^ (-1075 : ℤ) := below
      _ = 1 / 2 * 2 ^ minExponent := by
        unfold minExponent
        rw [show (-1075 : ℤ) = -1074 - 1 from rfl, zpow_sub_one₀ two_ne_zero]
        ring
  have no_power : ¬ 0 = twoTo precision := by decide
  unfold rounded
  rw [if_neg positive.ne', nothing]
  simp only [if_neg no_power, if_true]

theorem infinite_of_reach {digits : Nat} (positive : 0 < digits) {exponent : Int}
    (beyond : decimalReach < exponent + (Nat.log2 digits : Int) / 4) :
    2 ^ (1024 : ℤ) ≤ decimalValue digits exponent := by
  have quarter : 10 ^ (Nat.log2 digits / 4) ≤ digits :=
    (pow_le_pow_of_pow_le two_pos one_ne_zero (by norm_num : 10 ^ 1 ≤ 2 ^ 4) (by omega)).trans
      (Nat.log2_self_le (Nat.pos_iff_ne_zero.mp positive))
  have quarter' : (10 : ℚ) ^ ((Nat.log2 digits / 4 : ℕ) : ℤ) ≤ digits := by exact_mod_cast quarter
  unfold decimalReach at beyond
  calc (2 : ℚ) ^ (1024 : ℤ)
      ≤ 10 ^ (400 : ℤ) := by exact_mod_cast two_pow_le_ten_pow (by omega)
    _ ≤ 10 ^ (((Nat.log2 digits / 4 : ℕ) : ℤ) + exponent) := by
      apply zpow_le_zpow_right₀ (by norm_num)
      omega
    _ = 10 ^ ((Nat.log2 digits / 4 : ℕ) : ℤ) * 10 ^ exponent := zpow_add₀ (by norm_num) _ _
    _ ≤ digits * 10 ^ exponent := by gcongr

theorem zero_of_reach {digits : Nat} {exponent : Int}
    (beyond : exponent + (Nat.log2 digits : Int) / 3 < -decimalReach) :
    decimalValue digits exponent < 2 ^ (-1075 : ℤ) := by
  have third : digits < 10 ^ (Nat.log2 digits / 3 + 1) :=
    Nat.lt_log2_self.trans_le (two_pow_le_ten_pow (by omega))
  have third' : (digits : ℚ) < 10 ^ ((Nat.log2 digits / 3 + 1 : ℕ) : ℤ) := by exact_mod_cast third
  unfold decimalReach at beyond
  calc decimalValue digits exponent
      < 10 ^ ((Nat.log2 digits / 3 + 1 : ℕ) : ℤ) * 10 ^ exponent := by
        unfold decimalValue
        gcongr
    _ = 10 ^ (((Nat.log2 digits / 3 + 1 : ℕ) : ℤ) + exponent) := (zpow_add₀ (by norm_num) _ _).symm
    _ ≤ 10 ^ (-400 : ℤ) := by
      apply zpow_le_zpow_right₀ (by norm_num)
      omega
    _ ≤ 2 ^ (-1075 : ℤ) := by
      rw [zpow_neg, zpow_neg]
      gcongr
      exact_mod_cast two_pow_le_ten_pow (by omega)

/-- A decimal is read as the number nearest to its value. -/
theorem ofDecimal_eq_rounded (negative : Bool) (digits : Nat) (exponent : Int) :
    ofDecimal negative digits exponent = rounded negative (decimalValue digits exponent) := by
  unfold ofDecimal
  dsimp only
  split_ifs with zero above below whole
  · rw [zero, decimalValue, Nat.cast_zero, zero_mul]
    rfl
  · exact (rounded_eq_infinite negative (infinite_of_reach (Nat.pos_of_ne_zero zero) above)).symm
  · exact (rounded_eq_zero negative (decimalValue_pos (Nat.pos_of_ne_zero zero) _).le
      (zero_of_reach below)).symm
  · lift exponent to ℕ using whole
    rw [nearest_eq_rounded negative Nat.one_pos]
    simp [Fraction.value, decimalValue, tenTo_eq]
  · obtain ⟨power, rfl⟩ := Int.exists_eq_neg_ofNat (not_le.mp whole).le
    rw [nearest_eq_rounded negative (Nat.pow_pos (by norm_num))]
    simp [Fraction.value, decimalValue, tenTo_eq, div_eq_mul_inv]

/-- The estimate of a decimal magnitude falls short of it, or is right. -/
theorem ten_zpow_le_two_zpow {bits : Int} (above : -1100 < bits) (below : bits < 1100) :
    (10 : ℚ) ^ (bits * 30103 / 100000 - 2) ≤ 2 ^ bits := by
  generalize estimate_eq : bits * 30103 / 100000 - 2 = estimate
  rcases le_total 0 bits with nonneg | nonpos
  · rcases le_total 0 estimate with some_digits | no_digits
    · lift bits to ℕ using nonneg
      lift estimate to ℕ using some_digits
      have natural : 10 ^ estimate ≤ 2 ^ bits :=
        pow_le_pow_of_pow_le (by norm_num) (by norm_num) (by norm_num : 10 ^ 3 ≤ 2 ^ 10) (by omega)
      exact_mod_cast natural
    · calc (10 : ℚ) ^ estimate ≤ 1 := zpow_le_one_of_nonpos₀ (by norm_num) no_digits
        _ ≤ 2 ^ bits := one_le_zpow₀ (by norm_num) nonneg
  · obtain ⟨lower, rfl⟩ := Int.exists_eq_neg_ofNat nonpos
    obtain ⟨places, rfl⟩ := Int.exists_eq_neg_ofNat (show estimate ≤ 0 by omega)
    have natural : 2 ^ lower ≤ 10 ^ places :=
      pow_le_pow_of_pow_le (by norm_num) (by norm_num) (by norm_num : 2 ^ 53 ≤ 10 ^ 16) (by omega)
    rw [zpow_neg, zpow_neg]
    gcongr
    exact_mod_cast natural

/-- Whether a fraction is below a power of ten. -/
def belowPower (fraction : Fraction) (exponent : Int) : Bool :=
  if 0 ≤ exponent then fraction.numerator < fraction.denominator * tenTo exponent.toNat
  else fraction.numerator * tenTo (-exponent).toNat < fraction.denominator

theorem belowPower_iff {fraction : Fraction} (positive : 0 < fraction.denominator)
    (exponent : Int) : belowPower fraction exponent = true ↔ fraction.value < 10 ^ exponent := by
  have bottom_pos : (0 : ℚ) < fraction.denominator := by exact_mod_cast positive
  unfold belowPower Fraction.value
  rw [div_lt_iff₀ bottom_pos]
  split_ifs with whole
  · lift exponent to ℕ using whole
    rw [decide_eq_true_eq, mul_comm, zpow_natCast, Int.toNat_natCast, tenTo_eq]
    exact_mod_cast Iff.rfl
  · obtain ⟨power, rfl⟩ := Int.exists_eq_neg_ofNat (not_le.mp whole).le
    rw [decide_eq_true_eq, zpow_neg, inv_mul_eq_div, lt_div_iff₀ (by positivity), neg_neg,
      zpow_natCast, Int.toNat_natCast, tenTo_eq]
    exact_mod_cast Iff.rfl

theorem decimalMagnitude_eq (fraction : Fraction) {estimate : Int}
    (estimate_eq : estimate = ((Nat.log2 fraction.numerator : Int) -
      Nat.log2 fraction.denominator - 1) * 30103 / 100000 - 1) :
    decimalMagnitude fraction =
      match [0, 1, 2, 3].find? fun step => belowPower fraction (estimate + step) with
      | some step => estimate + step
      | none => estimate + 4 := by
  subst estimate_eq
  rfl

/-- The search for a decimal magnitude stops at the first power above the number. -/
theorem not_belowPower_decimalMagnitude (fraction : Fraction) {estimate : Int}
    (estimate_eq : estimate = ((Nat.log2 fraction.numerator : Int) -
      Nat.log2 fraction.denominator - 1) * 30103 / 100000 - 1)
    (not_below : belowPower fraction (estimate - 1) = false) :
    belowPower fraction (decimalMagnitude fraction - 1) = false := by
  rw [decimalMagnitude_eq fraction estimate_eq]
  simp only [List.find?_cons, List.find?_nil]
  cases first : belowPower fraction (estimate + 0)
  · cases second : belowPower fraction (estimate + 1)
    · cases third : belowPower fraction (estimate + 2)
      · cases fourth : belowPower fraction (estimate + 3)
        · rwa [show estimate + 4 - 1 = estimate + 3 by ring]
        · rwa [show estimate + 3 - 1 = estimate + 2 by ring]
      · rwa [show estimate + 2 - 1 = estimate + 1 by ring]
    · rwa [show estimate + 1 - 1 = estimate + 0 by ring]
  · change belowPower fraction (estimate + 0 - 1) = false
    rwa [add_zero]

/-- A decimal magnitude is no greater than the first power of ten above the number. -/
theorem ten_zpow_decimalMagnitude_le {fraction : Fraction} (positive : fraction.Positive)
    (log_gt : -1090 < Int.log 2 fraction.value) (log_lt : Int.log 2 fraction.value < 1090) :
    (10 : ℚ) ^ (decimalMagnitude fraction - 1) ≤ fraction.value := by
  obtain ⟨log_ge, log_le⟩ := log_value_bounds positive
  have not_below (exponent : ℤ) :
      belowPower fraction exponent = false ↔ 10 ^ exponent ≤ fraction.value := by
    rw [← Bool.not_eq_true, belowPower_iff positive.denominator, not_lt]
  apply (not_below _).mp
  apply not_belowPower_decimalMagnitude fraction rfl
  apply (not_below _).mpr
  rw [sub_sub, one_add_one_eq_two]
  calc (10 : ℚ) ^ (((Nat.log2 fraction.numerator : Int) - Nat.log2 fraction.denominator - 1) *
          30103 / 100000 - 2)
      ≤ 2 ^ ((Nat.log2 fraction.numerator : Int) - Nat.log2 fraction.denominator - 1) :=
        ten_zpow_le_two_zpow (by omega) (by omega)
    _ ≤ 2 ^ Int.log 2 fraction.value := zpow_le_zpow_right₀ (by norm_num) log_ge
    _ ≤ fraction.value := Int.zpow_log_le_self Nat.one_lt_two positive.value_pos

/-- The decimal on a grid that is tried first is the nearest one. -/
theorem nearestNeighbour_eq {fraction : Fraction} (positive : 0 < fraction.denominator)
    (grid : Int) {low high : Nat} {upward : Bool}
    (next_to : neighbours fraction grid = (low, high, upward)) :
    (if upward then high else low) = roundEven (fraction.value / 10 ^ grid) := by
  have of_quotient (top : Nat) {bottom : Nat} (bottom_pos : 0 < bottom)
      (parts : (top / bottom, top / bottom + 1, decide (bottom < 2 * (top % bottom) ∨
        (2 * (top % bottom) = bottom ∧ top / bottom % 2 = 1))) = (low, high, upward)) :
      (if upward then high else low) = roundEven ((top : ℚ) / bottom) := by
    cases parts
    rw [← roundQuotient_eq top bottom_pos]
    simp only [decide_eq_true_eq]
    rfl
  unfold neighbours at next_to
  split_ifs at next_to with whole
  · rw [of_quotient _ (Nat.mul_pos positive (Nat.pow_pos (by norm_num))) next_to]
    lift grid to ℕ using whole
    simp [Fraction.value, div_div]
  · rw [of_quotient _ positive next_to]
    obtain ⟨power, rfl⟩ := Int.exists_eq_neg_ofNat (not_le.mp whole).le
    simp [Fraction.value, tenTo_eq, div_mul_eq_mul_div]

/-- A decimal that is tried is read as the number, once a grid is fine enough. -/
theorem ofDecimal_nearestNeighbour {significand : Nat} {exponent : Int}
    (standard : Standard significand exponent) {grid : Int}
    (fine : (2 : ℚ) ^ 53 * 10 ^ grid < significand * 2 ^ exponent) :
    ofDecimal false (roundEven (significand * 2 ^ exponent / 10 ^ grid)) grid =
      .finite false significand exponent := by
  have grid_pos : (0 : ℚ) < 10 ^ grid := by positivity
  rw [ofDecimal_eq_rounded]
  apply rounded_near false standard
  generalize (significand : ℚ) * 2 ^ exponent = value at fine ⊢
  have value_pos : 0 < value := lt_trans (by positivity) fine
  have near := abs_sub_roundEven_le (div_pos value_pos grid_pos).le
  unfold decimalValue
  calc |(roundEven (value / 10 ^ grid) : ℚ) * 10 ^ grid - value|
      = |value / 10 ^ grid - roundEven (value / 10 ^ grid)| * 10 ^ grid := by
        rw [abs_sub_comm, ← abs_of_pos grid_pos, ← abs_mul, abs_of_pos grid_pos, sub_mul,
          div_mul_cancel₀ value grid_pos.ne']
    _ ≤ 1 / 2 * 10 ^ grid := by gcongr
    _ < value / 2 ^ 54 := by
      rw [lt_div_iff₀ (by positivity)]
      linarith

/-- One step of the search: the nearest decimal on the grid is tried before its neighbour. -/
theorem shortestFrom_succ (significand : Nat) (exponent : Int) {fraction : Fraction}
    (positive : 0 < fraction.denominator) (size : Int) (tries count : Nat) :
    ∃ other, shortestFrom significand exponent fraction size (tries + 1) count =
      let nearest := roundEven (fraction.value / 10 ^ (size - count))
      if ofDecimal false nearest (size - count) = .finite false significand exponent then
        (nearest, size - count)
      else if ofDecimal false other (size - count) = .finite false significand exponent then
        (other, size - count)
      else shortestFrom significand exponent fraction size tries (count + 1) := by
  obtain ⟨low, high, upward, next_to⟩ :
      ∃ low high upward, neighbours fraction (size - count) = (low, high, upward) :=
    ⟨_, _, _, rfl⟩
  have first_eq := nearestNeighbour_eq positive _ next_to
  dsimp only
  rw [← first_eq, shortestFrom]
  simp only [next_to, decide_eq_true_eq]
  cases upward
  · exact ⟨high, rfl⟩
  · exact ⟨low, rfl⟩

/-- The search for the shortest decimal stops at one that is read as the number. -/
theorem ofDecimal_shortestFrom {significand : Nat} {exponent : Int}
    (standard : Standard significand exponent) {size : Int}
    (reached : (2 : ℚ) ^ 53 * 10 ^ (size - 17) < significand * 2 ^ exponent) {tries count : Nat}
    (to_last : tries + count = 17) :
    let found :=
      shortestFrom significand exponent (scaled significand exponent) size (tries + 1) count
    ofDecimal false found.1 found.2 = .finite false significand exponent := by
  induction tries generalizing count with
  | zero =>
    obtain ⟨other, step⟩ := shortestFrom_succ significand exponent
      (denominator_scaled_pos significand exponent) size 0 count
    have last : count = 17 := by omega
    subst last
    have hit := ofDecimal_nearestNeighbour standard reached
    rw [step, value_scaled]
    dsimp only [Nat.cast_ofNat]
    rw [if_pos hit]
    exact hit
  | succ tries ih =>
    obtain ⟨other, step⟩ := shortestFrom_succ significand exponent
      (denominator_scaled_pos significand exponent) size (tries + 1) count
    rw [step]
    dsimp only
    split_ifs with first second
    · exact first
    · exact second
    · exact ih (by omega)

theorem Standard.scaled_positive {significand : Nat} {exponent : Int}
    (standard : Standard significand exponent) : (scaled significand exponent).Positive := by
  refine ⟨?_, denominator_scaled_pos _ _⟩
  unfold scaled
  split
  · exact Nat.mul_pos standard.positive (Nat.two_pow_pos _)
  · exact standard.positive

theorem Standard.log_bounds {significand : Nat} {exponent : Int}
    (standard : Standard significand exponent) :
    minExponent ≤ Int.log 2 (significand * 2 ^ exponent : ℚ) ∧
      Int.log 2 (significand * 2 ^ exponent : ℚ) < 1024 := by
  have unit_pos : (0 : ℚ) < 2 ^ exponent := by positivity
  have at_least_one : (1 : ℚ) ≤ significand := by exact_mod_cast standard.positive
  have below : (significand : ℚ) < 2 ^ (53 : ℤ) := by exact_mod_cast standard.below
  have positive : (0 : ℚ) < significand * 2 ^ exponent := by positivity
  have greatest := standard.greatest
  unfold maxExponent at greatest
  constructor
  · apply (Int.zpow_le_iff_le_log Nat.one_lt_two positive).mp
    calc (2 : ℚ) ^ minExponent
        ≤ 2 ^ exponent := zpow_le_zpow_right₀ (by norm_num) standard.least
      _ ≤ significand * 2 ^ exponent := le_mul_of_one_le_left unit_pos.le at_least_one
  · apply (Int.lt_zpow_iff_log_lt Nat.one_lt_two positive).mp
    calc (significand : ℚ) * 2 ^ exponent
        < 2 ^ (53 : ℤ) * 2 ^ exponent := by gcongr
      _ = 2 ^ (53 + exponent) := (zpow_add₀ two_ne_zero _ _).symm
      _ ≤ 2 ^ (1024 : ℤ) := by
        apply zpow_le_zpow_right₀ (by norm_num)
        omega

/-- The shortest decimal of a finite number is read as the number: seventeen digits suffice. -/
theorem ofDecimal_shortest {significand : Nat} {exponent : Int}
    (standard : Standard significand exponent) :
    ofDecimal false (shortest significand exponent).1 (shortest significand exponent).2 =
      .finite false significand exponent := by
  obtain ⟨log_ge, log_lt⟩ := standard.log_bounds
  have magnitude := ten_zpow_decimalMagnitude_le standard.scaled_positive
  rw [value_scaled] at magnitude
  unfold minExponent at log_ge
  replace magnitude := magnitude (by omega) (by omega)
  apply ofDecimal_shortestFrom standard
  · generalize decimalMagnitude (scaled significand exponent) = size at magnitude ⊢
    calc (2 : ℚ) ^ 53 * 10 ^ (size - 17)
        < 10 ^ (16 : ℤ) * 10 ^ (size - 17) := by
          gcongr
          norm_num
      _ = 10 ^ (size - 1) := by
        rw [← zpow_add₀ (by norm_num)]
        congr 1
        ring
      _ ≤ significand * 2 ^ exponent := magnitude
  · rfl

theorem decimalValue_dropZeros (fuel digits : Nat) (exponent : Int) :
    decimalValue (dropZeros fuel digits exponent).1 (dropZeros fuel digits exponent).2 =
      decimalValue digits exponent := by
  induction fuel generalizing digits exponent with
  | zero => rfl
  | succ fuel ih =>
    unfold dropZeros
    split_ifs with ends_in_zero
    · obtain ⟨digits, rfl⟩ := Nat.dvd_of_mod_eq_zero ends_in_zero.2
      rw [ih, Nat.mul_div_cancel_left digits (by norm_num), decimalValue, decimalValue,
        zpow_add_one₀ (by norm_num)]
      push_cast
      ring
    · rfl

theorem text_finite (negative : Bool) {significand : Nat} (nonzero : significand ≠ 0)
    (exponent : Int) {digits : Nat} {scale : Int}
    (dropped : dropZeros 17 (shortest significand exponent).1 (shortest significand exponent).2 =
      (digits, scale)) :
    text (.finite negative significand exponent) =
      withSign negative (layOut plainLayout digits scale) := by
  rw [text, if_neg nonzero]
  generalize shortest significand exponent = found at dropped ⊢
  obtain ⟨found_digits, found_scale⟩ := found
  dsimp only at dropped ⊢
  rw [dropped]

/-- The text of a finite number lays out a decimal that is rounded to the number. -/
theorem exists_text_eq_layOut (negative : Bool) {significand : Nat} {exponent : Int}
    (standard : Standard significand exponent) :
    ∃ digits scale, 0 < digits ∧
      text (.finite negative significand exponent) =
        withSign negative (layOut plainLayout digits scale) ∧
      rounded negative (decimalValue digits scale) = .finite negative significand exponent := by
  obtain ⟨digits, scale, dropped⟩ : ∃ digits scale,
      dropZeros 17 (shortest significand exponent).1 (shortest significand exponent).2 =
        (digits, scale) := ⟨_, _, rfl⟩
  have read := ofDecimal_shortest standard
  rw [ofDecimal_eq_rounded, ← decimalValue_dropZeros 17, dropped] at read
  refine ⟨digits, scale, Nat.pos_of_ne_zero ?_, text_finite negative standard.positive.ne' _ dropped,
    rounded_negative negative read⟩
  rintro rfl
  rw [decimalValue, Nat.cast_zero, zero_mul] at read
  cases read
  exact absurd standard.positive (Nat.lt_irrefl 0)

end Trackage.Binary64
