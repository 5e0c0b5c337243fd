import Mathlib.Algebra.Group.Nat.Defs
import Mathlib.Data.List.Basic
import Mathlib.Data.List.TakeWhile
import Trackage.Text.Numeral

/-!
Numerals read back. The decimal digits of a number are a strict numeral and a free one with the value
of the number, and the value of a strict numeral has no more digits than the limit. What is read as a
strict numeral is exactly a row of digits behind one sign at most.
-/

namespace Trackage.Text

/-- What a digit stands for. -/
def digitOf (c : Char) : Nat := c.toNat - '0'.toNat

theorem ofDigits_map_digitOf (row : List Char) :
    ofDigits (row.map digitOf) = Nat.ofDigitChars 10 row 0 := by
  rw [ofDigits, List.foldl_map]
  rfl

theorem asciiDigit?_of_isDigit {c : Char} (digit : c.isDigit = true) :
    asciiDigit? c = some (digitOf c) := by
  simp only [Char.isDigit, Bool.and_eq_true, decide_eq_true_eq] at digit
  exact if_pos digit

theorem toNat_of_isDigit {c : Char} (digit : c.isDigit = true) : 48 ≤ c.toNat ∧ c.toNat ≤ 57 := by
  simpa [Char.isDigit, UInt32.le_iff_toNat_le] using digit

theorem isDigit_toDigits {n : Nat} : ∀ c ∈ Nat.toDigits 10 n, c.isDigit = true :=
  fun _ => Nat.isDigit_of_mem_toDigits (by decide) (by decide)

theorem toString_natural_injective {m n : Nat} (same : toString m = toString n) : m = n := by
  have digits : Nat.toDigits 10 m = Nat.toDigits 10 n := by
    have characters := congrArg String.toList same
    simpa only [Nat.toString_eq_repr, Nat.toList_repr] using characters
  calc m = Nat.ofDigitChars 10 (Nat.toDigits 10 m) 0 := Nat.ofDigitChars_ten_toDigits.symm
    _ = n := by rw [digits, Nat.ofDigitChars_ten_toDigits]

theorem digitChar_ne_zero : ∀ digit < 10, 0 < digit → Nat.digitChar digit ≠ '0' := by decide

/-- Only zero is written with a zero in front. -/
theorem head_toDigits_ne_zero {n : Nat} (positive : 0 < n) :
    (Nat.toDigits 10 n).head? ≠ some '0' := by
  induction n using Nat.strongRecOn with
  | ind n ih =>
    rcases Nat.lt_or_ge n 10 with digit | longer
    · rw [Nat.toDigits_of_lt_base digit, List.head?_cons, ne_eq, Option.some.injEq]
      exact digitChar_ne_zero n digit positive
    -- The front of a longer number is that of its tenth.
    · rw [Nat.toDigits_of_base_le (by decide) longer,
        List.head?_append_of_ne_nil _ Nat.toDigits_ne_nil]
      exact ih (n / 10) (by omega) (by omega)

theorem lt_ten_of_asciiDigit? {c : Char} {digit : Nat} (read : asciiDigit? c = some digit) :
    digit < 10 := by
  unfold asciiDigit? at read
  split at read
  next within =>
    have below : c.toNat ≤ '9'.toNat := within.2
    cases read
    change c.toNat - 48 < 10
    change c.toNat ≤ 57 at below
    omega
  · cases read

theorem mapM_asciiDigit? {row : List Char} (digits : ∀ c ∈ row, c.isDigit = true) :
    row.mapM asciiDigit? = some (row.map digitOf) := by
  induction row with
  | nil => rfl
  | cons c row ih =>
    have first := asciiDigit?_of_isDigit (digits c List.mem_cons_self)
    have others := ih fun d later => digits d (List.mem_cons_of_mem c later)
    simp [List.mapM_cons, first, others]

theorem lt_ten_of_mapM {row : List Char} {digits : List Nat}
    (read : row.mapM asciiDigit? = some digits) : ∀ digit ∈ digits, digit < 10 := by
  induction row generalizing digits with
  | nil =>
    cases read
    simp
  | cons c row ih =>
    simp only [List.mapM_cons, Option.bind_eq_bind, Option.bind_eq_some_iff] at read
    obtain ⟨first, first_read, others, others_read, made⟩ := read
    cases made
    exact List.forall_mem_cons.mpr ⟨lt_ten_of_asciiDigit? first_read, ih others_read⟩

theorem splitSign_of_isDigit {row : List Char} (digits : ∀ c ∈ row, c.isDigit = true) :
    splitSign row = (false, row) := by
  unfold splitSign
  split
  · exact absurd (digits '-' List.mem_cons_self) (by decide)
  · exact absurd (digits '+' List.mem_cons_self) (by decide)
  · rfl

/-- The digits of a number are read back as the number. -/
theorem strictNumeral?_toDigits (n : Nat) (within : (Nat.toDigits 10 n).length ≤ digitLimit) :
    ∃ digits, strictNumeral? (Nat.toDigits 10 n) = some (false, digits) ∧
      strictValue false digits = .ok n := by
  have digits : ∀ c ∈ Nat.toDigits 10 n, c.isDigit = true :=
    fun c member => Nat.isDigit_of_mem_toDigits (by decide) (by decide) member
  have nonempty : (Nat.toDigits 10 n).isEmpty = false := by simp
  refine ⟨(Nat.toDigits 10 n).map digitOf, ?_, ?_⟩
  · simp only [strictNumeral?, splitSign_of_isDigit digits, nonempty, mapM_asciiDigit? digits]
    rfl
  · have value : ofDigits ((Nat.toDigits 10 n).map digitOf) = n := by
      rw [ofDigits_map_digitOf, Nat.ofDigitChars_ten_toDigits]
    rw [strictValue, if_neg (by simpa using within), signed, value]
    rfl

/-- A number can be written that has no more digits than a numeral may have. -/
theorem isWritable_iff {value : Int} :
    isWritable value = true ↔ (Nat.toDigits 10 value.natAbs).length ≤ digitLimit := by
  have limit_pos : 0 < digitLimit := by decide
  rw [Nat.length_toDigits_le_iff (by decide) limit_pos, isWritable, decide_eq_true_eq]
  unfold numeralBound
  generalize digitLimit = limit
  exact Iff.rfl

theorem isWritable_of_natAbs_le {m n : Int} (le : m.natAbs ≤ n.natAbs)
    (writable : isWritable n = true) : isWritable m = true := by
  rw [isWritable, decide_eq_true_eq] at writable ⊢
  exact Nat.lt_of_le_of_lt le writable

theorem isWritable_of_le {m n : Nat} (le : m ≤ n) (writable : isWritable n = true) :
    isWritable m = true :=
  isWritable_of_natAbs_le (by rwa [Int.natAbs_natCast, Int.natAbs_natCast]) writable

theorem foldl_digits_lt {digits : List Nat} (below : ∀ digit ∈ digits, digit < 10) (value : Nat) :
    digits.foldl (fun value digit => 10 * value + digit) value <
      (value + 1) * 10 ^ digits.length := by
  induction digits generalizing value with
  | nil => simp
  | cons digit digits ih =>
    obtain ⟨first, others⟩ := List.forall_mem_cons.mp below
    calc digits.foldl (fun value digit => 10 * value + digit) (10 * value + digit)
        < (10 * value + digit + 1) * 10 ^ digits.length := ih others _
      _ ≤ (10 * (value + 1)) * 10 ^ digits.length := Nat.mul_le_mul_right _ (by omega)
      _ = (value + 1) * 10 ^ (digits.length + 1) := by
        rw [Nat.pow_succ', ← Nat.mul_assoc, Nat.mul_comm 10]

/-- What is read from a strict numeral can be written within the limit. -/
theorem length_toDigits_le {text : List Char} {negative : Bool} {digits : List Nat} {value : Int}
    (read : strictNumeral? text = some (negative, digits))
    (valued : strictValue negative digits = .ok value) :
    (Nat.toDigits 10 value.toNat).length ≤ digitLimit := by
  obtain ⟨row, row_read⟩ : ∃ row : List Char, row.mapM asciiDigit? = some digits := by
    simp only [strictNumeral?] at read
    split at read
    · cases read
    · obtain ⟨found, row_read, made⟩ := Option.map_eq_some_iff.mp read
      cases made
      exact ⟨_, row_read⟩
  have bounded : ofDigits digits < 10 ^ digits.length := by
    simpa [ofDigits] using foldl_digits_lt (lt_ten_of_mapM row_read) 0
  unfold strictValue at valued
  split at valued
  · cases valued
  next few =>
    cases valued
    have below : (signed negative digits).toNat ≤ ofDigits digits := by
      unfold signed
      split <;> omega
    have limit_pos : 0 < digitLimit := by decide
    rw [Nat.length_toDigits_le_iff (by decide) limit_pos]
    calc (signed negative digits).toNat ≤ ofDigits digits := below
      _ < 10 ^ digits.length := bounded
      _ ≤ 10 ^ digitLimit := Nat.pow_le_pow_right (by decide) (Nat.le_of_not_lt few)

/-- Decimal numerals and their values: one sign at most, and one ASCII digit or more. -/
inductive IsNumeral : List Char → Int → Prop
  | plain {row : List Char} (nonempty : row ≠ []) (digits : ∀ c ∈ row, c.isDigit = true) :
    IsNumeral row (Nat.ofDigitChars 10 row 0)
  | plus {row : List Char} (nonempty : row ≠ []) (digits : ∀ c ∈ row, c.isDigit = true) :
    IsNumeral ('+' :: row) (Nat.ofDigitChars 10 row 0)
  | minus {row : List Char} (nonempty : row ≠ []) (digits : ∀ c ∈ row, c.isDigit = true) :
    IsNumeral ('-' :: row) (-(Nat.ofDigitChars 10 row 0 : Int))

theorem isDigit_of_asciiDigit? {c : Char} {digit : Nat} (read : asciiDigit? c = some digit) :
    c.isDigit = true := by
  unfold asciiDigit? at read
  split at read
  next within =>
    rw [Char.isDigit, Bool.and_eq_true, decide_eq_true_eq, decide_eq_true_eq]
    exact within
  · cases read

theorem isDigit_of_mapM {row : List Char} {digits : List Nat}
    (read : row.mapM asciiDigit? = some digits) : ∀ c ∈ row, c.isDigit = true := by
  induction row generalizing digits with
  | nil => simp
  | cons c row ih =>
    simp only [List.mapM_cons, Option.bind_eq_bind, Option.bind_eq_some_iff] at read
    obtain ⟨first, first_read, others, others_read, -⟩ := read
    exact List.forall_mem_cons.mpr ⟨isDigit_of_asciiDigit? first_read, ih others_read⟩

/-- A strict numeral has its digits behind its sign. -/
theorem strictNumeral?_eq_some_iff {text : List Char} {negative : Bool} {digits : List Nat} :
    strictNumeral? text = some (negative, digits) ↔
      (splitSign text).1 = negative ∧ (splitSign text).2 ≠ [] ∧
        (∀ c ∈ (splitSign text).2, c.isDigit = true) ∧
        digits = (splitSign text).2.map digitOf := by
  simp only [strictNumeral?]
  constructor
  · intro read
    split at read
    · cases read
    next nonempty =>
      obtain ⟨row, row_read, made⟩ := Option.map_eq_some_iff.mp read
      cases made
      have all_digits := isDigit_of_mapM row_read
      rw [mapM_asciiDigit? all_digits] at row_read
      exact ⟨rfl, by simpa using nonempty, all_digits, (Option.some.inj row_read).symm⟩
  · rintro ⟨rfl, nonempty, all_digits, rfl⟩
    rw [if_neg (by simpa using nonempty), mapM_asciiDigit? all_digits, Option.map_some]

theorem signed_map_digit (negative : Bool) (row : List Char) :
    signed negative (row.map digitOf) =
      if negative then -(Nat.ofDigitChars 10 row 0 : Int) else Nat.ofDigitChars 10 row 0 := by
  rw [signed, ofDigits_map_digitOf]

/-- The strict numerals are the decimal numerals, and are read as their values. -/
theorem isNumeral_iff {text : List Char} {value : Int} :
    IsNumeral text value ↔
      ∃ negative digits, strictNumeral? text = some (negative, digits) ∧
        signed negative digits = value := by
  simp only [strictNumeral?_eq_some_iff]
  constructor
  · intro isNumeral
    cases isNumeral with
    | plain nonempty all_digits =>
      have unsigned := splitSign_of_isDigit all_digits
      exact ⟨false, text.map _, by rw [unsigned]; exact ⟨rfl, nonempty, all_digits, rfl⟩,
        signed_map_digit false text⟩
    | @plus row nonempty all_digits =>
      exact ⟨false, row.map _, ⟨rfl, nonempty, all_digits, rfl⟩, signed_map_digit false row⟩
    | @minus row nonempty all_digits =>
      exact ⟨true, row.map _, ⟨rfl, nonempty, all_digits, rfl⟩, signed_map_digit true row⟩
  · rintro ⟨negative, digits, ⟨rfl, nonempty, all_digits, rfl⟩, rfl⟩
    rw [signed_map_digit]
    revert nonempty all_digits
    unfold splitSign
    split
    · exact .minus
    · exact .plus
    · exact .plain

theorem length_digits {text : List Char} {negative : Bool} {digits : List Nat}
    (read : strictNumeral? text = some (negative, digits)) :
    digits.length = text.countP Char.isDigit := by
  obtain ⟨-, -, all_digits, rfl⟩ := strictNumeral?_eq_some_iff.mp read
  rw [List.length_map, ← List.countP_eq_length.mpr all_digits]
  unfold splitSign
  split <;> rfl

theorem IsNumeral.value_unique {text : List Char} {value other : Int}
    (isNumeral : IsNumeral text value) (also : IsNumeral text other) : value = other := by
  obtain ⟨negative, digits, read, rfl⟩ := isNumeral_iff.mp isNumeral
  obtain ⟨negative', digits', read', rfl⟩ := isNumeral_iff.mp also
  obtain ⟨rfl, rfl⟩ := Prod.mk.inj (Option.some.inj (read.symm.trans read'))
  rfl

theorem filterMap_asciiDigit? {row : List Char} (digits : ∀ c ∈ row, c.isDigit = true) :
    row.filterMap asciiDigit? = row.map digitOf := by
  rw [← List.filterMap_eq_map]
  exact List.filterMap_congr fun c member => asciiDigit?_of_isDigit (digits c member)

/-- No underscore stands in a row of digits. -/
theorem wellSpaced_of_isDigit {row : List Char} (digits : ∀ c ∈ row, c.isDigit = true) :
    wellSpaced row = true := by
  induction row with
  | nil => rfl
  | cons c row ih =>
    obtain ⟨first, others⟩ := List.forall_mem_cons.mp digits
    unfold wellSpaced
    split
    · rfl
    next same =>
      obtain ⟨rfl, -⟩ := List.cons.inj same
      exact absurd first (by decide)
    · rfl
    next same =>
      obtain ⟨-, rfl⟩ := List.cons.inj same
      exact absurd (others '_' List.mem_cons_self) (by decide)
    next same =>
      obtain ⟨-, rfl⟩ := List.cons.inj same
      exact ih others

theorem isNumeralBlank_of_isDigit {c : Char} (digit : c.isDigit = true) :
    isNumeralBlank c = false := by
  have within := toNat_of_isDigit digit
  have blank : c ≠ ' ' := by
    rintro rfl
    exact absurd digit (by decide)
  simp only [isNumeralBlank, Bool.or_eq_false_iff, beq_eq_false_iff_ne, ne_eq, blank,
    not_false_eq_true, true_and, Bool.and_eq_false_iff, decide_eq_false_iff_not]
  omega

theorem isNumeral_toDigits (n : Nat) : IsNumeral (Nat.toDigits 10 n) n := by
  have nonempty : Nat.toDigits 10 n ≠ [] := by simp
  have isNumeral := IsNumeral.plain nonempty isDigit_toDigits
  rwa [Nat.ofDigitChars_ten_toDigits] at isNumeral

theorem IsNumeral.sign_or_digit {text : List Char} {value : Int} (isNumeral : IsNumeral text value) :
    ∀ c ∈ text, c = '+' ∨ c = '-' ∨ c.isDigit = true := by
  cases isNumeral with
  | plain _ digits => exact fun c member => .inr (.inr (digits c member))
  | plus _ digits =>
    exact List.forall_mem_cons.mpr ⟨.inl rfl, fun c member => .inr (.inr (digits c member))⟩
  | minus _ digits =>
    exact List.forall_mem_cons.mpr ⟨.inr (.inl rfl), fun c member => .inr (.inr (digits c member))⟩

/-- A strict numeral is also a free one, and read as the same number. -/
theorem readNumeral_of_isNumeral {text : List Char} {value : Int} (isNumeral : IsNumeral text value)
    (few : text.countP Char.isDigit ≤ digitLimit) : readNumeral (String.ofList text) = .ok value := by
  -- All of its characters are ASCII, and none of them is a blank.
  have plain : plainNumeral text = text := by
    refine if_pos (List.all_eq_true.mpr fun c member => decide_eq_true ?_)
    rcases isNumeral.sign_or_digit c member with rfl | rfl | digit
    · decide
    · decide
    · have within := toNat_of_isDigit digit
      omega
  have trimmed : text.dropWhile isNumeralBlank = text := by
    refine List.dropWhile_eq_self_iff.mpr fun nonempty => ?_
    rcases isNumeral.sign_or_digit _ (List.getElem_mem nonempty) with sign | sign | digit
    · simp [sign, isNumeralBlank]
    · simp [sign, isNumeralBlank]
    · simp [isNumeralBlank_of_isDigit digit]
  obtain ⟨negative, digits, read, valued⟩ := isNumeral_iff.mp isNumeral
  have count := length_digits read
  obtain ⟨sign, nonempty, all_digits, rfl⟩ := strictNumeral?_eq_some_iff.mp read
  rcases cut : splitSign text with ⟨minus, row⟩
  simp only [cut] at sign nonempty all_digits count valued
  subst sign
  -- Behind the sign there is a row of digits and nothing else.
  have in_row : ∀ c ∈ row, ((asciiDigit? c).isSome || c == '_') = true :=
    fun c member => by simp [asciiDigit?_of_isDigit (all_digits c member)]
  have taken := List.takeWhile_eq_self_iff.mpr in_row
  have behind := List.dropWhile_eq_nil_iff.mpr in_row
  simp only [readNumeral, String.toList_ofList, plain, trimmed, cut, taken, behind,
    filterMap_asciiDigit? all_digits, wellSpaced_of_isDigit all_digits, List.all_nil, if_true,
    valued]
  rw [if_neg (by simpa using nonempty), if_neg (Nat.not_lt.mpr (count.trans_le few))]

/-- The digits of a number are also a free numeral, and read as the number. -/
theorem readNumeral_toDigits {n : Nat} (within : (Nat.toDigits 10 n).length ≤ digitLimit) :
    readNumeral (String.ofList (Nat.toDigits 10 n)) = .ok n := by
  apply readNumeral_of_isNumeral (isNumeral_toDigits n)
  rwa [List.countP_eq_length.mpr isDigit_toDigits]

end Trackage.Text
