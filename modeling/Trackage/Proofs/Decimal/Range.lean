import Trackage.Allocation.Basic

/-!
Lengths within the range of double-precision numbers. A natural number below a bound far above every
length that a track can have is rounded to a finite number, so that a share of such lengths is always
answered.
-/

namespace Trackage

namespace Binary64

/-- A length below which every number is rounded to a finite one. -/
def safeLength : Nat := tenTo 300

theorem nearest_eq_finite (negative : Bool) {value : Fraction}
    (within : exponentFor value < maxExponent) :
    ∃ significand exponent, nearest negative value = .finite negative significand exponent := by
  unfold nearest
  by_cases zero : value.numerator = 0
  · exact ⟨0, 0, if_pos zero⟩
  rw [if_neg zero]
  -- Rounding moves to the next exponent at most.
  by_cases carried : significandAt value (exponentFor value) = twoTo precision
  · simp only [carried, if_true]
    rw [if_neg (by decide), if_neg (by omega)]
    exact ⟨_, _, rfl⟩
  · simp only [if_neg carried]
    by_cases none_left : significandAt value (exponentFor value) = 0
    · exact ⟨0, 0, if_pos none_left⟩
    · rw [if_neg none_left, if_neg (by omega)]
      exact ⟨_, _, rfl⟩

/-- The third power of ten is below the tenth power of two. -/
theorem tenTo_le_twoTo (count : Nat) : tenTo (3 * count) ≤ twoTo (10 * count) := by
  unfold tenTo twoTo
  rw [Nat.pow_eq, Nat.pow_eq, Nat.pow_mul, Nat.pow_mul]
  exact Nat.pow_le_pow_left (by decide) count

theorem length_toDigits_le {n count bound : Nat} (below : n < tenTo count) (within : count ≤ bound)
    (positive : 0 < bound) : (Nat.toDigits 10 n).length ≤ bound := by
  rw [Nat.length_toDigits_le_iff (by decide) positive, ← Nat.pow_eq]
  exact Nat.lt_of_lt_of_le below (Nat.pow_le_pow_right (by decide) within)

theorem log2_lt_of_lt_twoTo {n bits : Nat} (positive : 0 < bits) (below : n < twoTo bits) :
    Nat.log2 n < bits := by
  rcases Nat.eq_zero_or_pos n with rfl | nonzero
  · exact positive
  · exact (Nat.log2_lt (Nat.pos_iff_ne_zero.mp nonzero)).mpr below

theorem exponentFor_natural_lt {n : Nat} (within : n < safeLength) :
    exponentFor ⟨n, 1⟩ < maxExponent := by
  have bits : Nat.log2 n < 10 * 100 := log2_lt_of_lt_twoTo (by decide)
    (Nat.lt_of_lt_of_le within (tenTo_le_twoTo 100))
  have unit : Nat.log2 1 = 0 := by decide
  unfold exponentFor fillingExponent precision minExponent maxExponent
  simp only [unit]
  split <;> omega

theorem ofInt?_natural {n : Nat} (within : n < safeLength) :
    ∃ x, ofInt? (n : Int) = some x := by
  obtain ⟨significand, exponent, rounded⟩ :=
    nearest_eq_finite (decide ((n : Int) < 0)) (exponentFor_natural_lt within)
  unfold ofInt?
  rw [Int.natAbs_natCast, rounded]
  exact ⟨_, rfl⟩

end Binary64

/-- A part of a safe length has a share in it. -/
theorem exists_percentage? {part whole : Nat} (part_le : part ≤ whole)
    (within : whole < Binary64.safeLength) : ∃ ratio, percentage? part whole = some ratio := by
  unfold percentage?
  split
  next => exact ⟨_, rfl⟩
  next =>
    obtain ⟨x, x_eq⟩ := Binary64.ofInt?_natural (Nat.lt_of_le_of_lt part_le within)
    obtain ⟨y, y_eq⟩ := Binary64.ofInt?_natural within
    rw [x_eq, y_eq]
    exact ⟨_, rfl⟩

end Trackage
