import Trackage.Json.Writer
import Trackage.Json.Reader
import Trackage.Proofs.Decimal.Shortest
import Trackage.Proofs.Text.Numeral

/-!
Numbers read back. The digits of a number are read up to the first character that is none, and each of
the ways to lay a decimal out is read as that decimal.
-/

namespace Trackage

open Text (ofDigits asciiDigit?)
open Binary64 (rounded decimalValue)

/-- A row of digits, at least one of them. -/
structure Text.IsRow (row : List Char) : Prop where
  nonempty : row ≠ []
  digits : ∀ c ∈ row, c.isDigit = true

/-- A row of digits that starts with a zero only if it is nothing else. -/
structure Text.IsPlainRow (row : List Char) : Prop extends Text.IsRow row where
  front : row = ['0'] ∨ row.head? ≠ some '0'

namespace Text

theorem isRow_toDigits (n : Nat) : IsRow (Nat.toDigits 10 n) :=
  ⟨Nat.toDigits_ne_nil, isDigit_toDigits⟩

theorem isPlainRow_toDigits (n : Nat) : IsPlainRow (Nat.toDigits 10 n) := by
  refine ⟨isRow_toDigits n, ?_⟩
  rcases Nat.eq_zero_or_pos n with rfl | positive
  · exact .inl rfl
  · exact .inr (head_toDigits_ne_zero positive)

theorem isPlainRow_zero : IsPlainRow ['0'] := isPlainRow_toDigits 0

theorem isDigit_replicate (count : Nat) : ∀ c ∈ List.replicate count '0', c.isDigit = true := by
  intro c member
  rw [List.eq_of_mem_replicate member]
  rfl

theorem IsRow.append_zeros {row : List Char} (row_is : IsRow row) (count : Nat) :
    IsRow (row ++ List.replicate count '0') := by
  constructor
  · simp [row_is.nonempty]
  · exact List.forall_mem_append.mpr ⟨row_is.digits, isDigit_replicate count⟩

theorem IsRow.zeros_append {row : List Char} (row_is : IsRow row) (count : Nat) :
    IsRow (List.replicate count '0' ++ row) := by
  constructor
  · simp [row_is.nonempty]
  · exact List.forall_mem_append.mpr ⟨isDigit_replicate count, row_is.digits⟩

end Text

namespace Json

/-- No number goes on into what stands behind it. -/
def Ends (rest : List Char) : Prop := ∀ c ∈ rest.head?, c = ',' ∨ c = ']' ∨ c = '\x7d'

theorem Ends.nil : Ends [] := by
  intro c absent
  cases absent

theorem Ends.cons {c : Char} (rest : List Char) (stops : c = ',' ∨ c = ']' ∨ c = '\x7d') :
    Ends (c :: rest) := by
  intro d first
  cases first
  exact stops

/-- No row of digits goes on into what stands behind it. -/
def EndsDigits (rest : List Char) : Prop := ∀ c ∈ rest.head?, asciiDigit? c = none

theorem EndsDigits.cons {c : Char} (rest : List Char) (other : asciiDigit? c = none) :
    EndsDigits (c :: rest) := by
  intro d first
  cases first
  exact other

theorem Ends.digits {rest : List Char} (ends : Ends rest) : EndsDigits rest := by
  intro c first
  rcases ends c first with rfl | rfl | rfl <;> rfl

theorem leadingDigits_append {row rest : List Char} (digits : ∀ c ∈ row, c.isDigit = true)
    (ends : EndsDigits rest) : leadingDigits (row ++ rest) = (row.map Text.digitOf, rest) := by
  have inside : ∀ c ∈ row, (asciiDigit? c).isSome = true := by
    intro c member
    rw [Text.asciiDigit?_of_isDigit (digits c member)]
    rfl
  have valued : row.filterMap asciiDigit? = row.map Text.digitOf := by
    rw [← List.filterMap_eq_map]
    exact List.filterMap_congr fun c member => Text.asciiDigit?_of_isDigit (digits c member)
  unfold leadingDigits
  rw [List.takeWhile_append_of_pos inside, List.dropWhile_append_of_pos inside]
  cases rest with
  | nil => rw [List.takeWhile_nil, List.append_nil, valued, List.dropWhile_nil]
  | cons c rest =>
    simp [ends c rfl, valued]

theorem isEmpty_map_digitOf {row : List Char} (row_is : Text.IsRow row) :
    (row.map Text.digitOf).isEmpty = false := by
  rw [List.isEmpty_map, List.isEmpty_eq_false_iff]
  exact row_is.nonempty

theorem wholePart?_append {row rest : List Char} (row_is : Text.IsPlainRow row)
    (ends : EndsDigits rest) : wholePart? (row ++ rest) = some (row.map Text.digitOf, rest) := by
  rcases row_is.front with rfl | front
  · rfl
  · unfold wholePart?
    split
    next other text_eq =>
      cases row with
      | nil => exact absurd rfl row_is.nonempty
      | cons c row =>
        cases text_eq
        exact absurd rfl front
    next =>
      rw [leadingDigits_append row_is.digits ends]
      simp only [isEmpty_map_digitOf row_is.toIsRow, Bool.false_eq_true, if_false]

theorem fractionPart_append {row rest : List Char} (row_is : Text.IsRow row)
    (ends : EndsDigits rest) :
    fractionPart ('.' :: (row ++ rest)) = (row.map Text.digitOf, rest) := by
  simp only [fractionPart, leadingDigits_append row_is.digits ends, isEmpty_map_digitOf row_is,
    Bool.false_eq_true, if_false]

theorem fractionPart_of_head_ne {text : List Char} (pointless : text.head? ≠ some '.') :
    fractionPart text = ([], text) := by
  unfold fractionPart
  split
  next => exact absurd rfl pointless
  next => rfl

theorem exponentPart_append (below : Prop) [Decidable below] {row rest : List Char}
    (row_is : Text.IsRow row) (ends : EndsDigits rest) :
    exponentPart ('e' :: (if below then '-' else '+') :: (row ++ rest)) =
      (some (Text.signed (decide below) (row.map Text.digitOf)), rest) := by
  have signs : Text.splitSign ((if below then '-' else '+') :: (row ++ rest)) =
      (decide below, row ++ rest) := by
    by_cases holds : below <;> simp only [holds, if_true, if_false] <;> rfl
  simp only [exponentPart, true_or, if_true, signs, leadingDigits_append row_is.digits ends,
    isEmpty_map_digitOf row_is, Bool.false_eq_true, if_false]

theorem Ends.fractionPart {rest : List Char} (ends : Ends rest) :
    Json.fractionPart rest = ([], rest) := by
  apply fractionPart_of_head_ne
  intro first
  rcases ends '.' first with same | same | same <;> cases same

theorem Ends.exponentPart {rest : List Char} (ends : Ends rest) :
    Json.exponentPart rest = (none, rest) := by
  cases rest with
  | nil => rfl
  | cons c rest =>
    rcases ends c rfl with rfl | rfl | rfl <;> rfl

theorem readNumber_int (negative : Bool) {row rest : List Char} (row_is : Text.IsPlainRow row)
    (few : row.length ≤ Text.digitLimit) (ends : Ends rest) :
    readNumber negative (row ++ rest) =
      .ok (.int (Text.signed negative (row.map Text.digitOf)), rest) := by
  have value : Text.strictValue negative (row.map Text.digitOf) =
      .ok (Text.signed negative (row.map Text.digitOf)) := by
    rw [Text.strictValue, if_neg (by rw [List.length_map]; omega)]
  simp only [readNumber, wholePart?_append row_is ends.digits, ends.fractionPart,
    ends.exponentPart, value]
  rfl

/-- A number with a fraction or an exponent is rounded from the decimal that these stand for. -/
theorem readNumber_float {negative : Bool} {text first second rest : List Char}
    {whole fraction : List Nat} {exponent : Option Int}
    (whole_read : wholePart? text = some (whole, first))
    (fraction_read : fractionPart first = (fraction, second))
    (exponent_read : exponentPart second = (exponent, rest))
    (some_part : fraction ≠ [] ∨ exponent ≠ none) :
    readNumber negative text = .ok (.float (rounded negative
      (decimalValue (ofDigits (whole ++ fraction)) (exponent.getD 0 - fraction.length))), rest) := by
  have not_whole : ¬ (fraction.isEmpty = true ∧ exponent.isNone = true) := by
    simpa [List.isEmpty_iff, imp_iff_or_not, or_comm] using some_part
  simp only [readNumber, whole_read, fraction_read, exponent_read, if_neg not_whole,
    Binary64.ofDecimal_eq_rounded]

theorem readNumber_point (negative : Bool) {whole fraction rest : List Char}
    (whole_is : Text.IsPlainRow whole) (fraction_is : Text.IsRow fraction) (ends : Ends rest) :
    readNumber negative (whole ++ '.' :: (fraction ++ rest)) = .ok (.float (rounded negative
      (decimalValue (Nat.ofDigitChars 10 (whole ++ fraction) 0) (-(fraction.length : Int)))),
        rest) := by
  have some_digit : fraction.map Text.digitOf ≠ [] := by
    simpa using fraction_is.nonempty
  rw [readNumber_float (wholePart?_append whole_is (.cons _ rfl))
    (fractionPart_append fraction_is ends.digits) ends.exponentPart (.inl some_digit),
    ← List.map_append, Text.ofDigits_map_digitOf, List.length_map]
  simp

theorem readNumber_power (negative : Bool) (below : Prop) [Decidable below]
    {whole power rest : List Char} (whole_is : Text.IsPlainRow whole) (power_is : Text.IsRow power)
    (ends : Ends rest) :
    readNumber negative (whole ++ 'e' :: (if below then '-' else '+') :: (power ++ rest)) =
      .ok (.float (rounded negative (decimalValue (Nat.ofDigitChars 10 whole 0)
        (Text.signed (decide below) (power.map Text.digitOf)))), rest) := by
  rw [readNumber_float (wholePart?_append whole_is (.cons _ rfl))
    (fractionPart_of_head_ne (by simp)) (exponentPart_append below power_is ends.digits)
    (.inr (Option.some_ne_none _)), List.append_nil, Text.ofDigits_map_digitOf]
  simp

theorem readNumber_pointPower (negative : Bool) (below : Prop) [Decidable below]
    {whole fraction power rest : List Char} (whole_is : Text.IsPlainRow whole)
    (fraction_is : Text.IsRow fraction) (power_is : Text.IsRow power) (ends : Ends rest) :
    readNumber negative
        (whole ++ '.' :: (fraction ++ 'e' :: (if below then '-' else '+') :: (power ++ rest))) =
      .ok (.float (rounded negative (decimalValue (Nat.ofDigitChars 10 (whole ++ fraction) 0)
        (Text.signed (decide below) (power.map Text.digitOf) - fraction.length))), rest) := by
  have some_digit : fraction.map Text.digitOf ≠ [] := by
    simpa using fraction_is.nonempty
  rw [readNumber_float (wholePart?_append whole_is (.cons _ rfl))
    (fractionPart_append fraction_is (.cons _ rfl))
    (exponentPart_append below power_is ends.digits) (.inl some_digit),
    ← List.map_append, Text.ofDigits_map_digitOf, List.length_map, Option.getD_some]

/-- An exponent is read from its digits, filled with zeros or not. -/
theorem signed_fill (width : Nat) (exponent : Int) :
    Text.IsRow (Binary64.fill width (Nat.toDigits 10 exponent.natAbs)) ∧
      Text.signed (decide (exponent < 0))
        ((Binary64.fill width (Nat.toDigits 10 exponent.natAbs)).map Text.digitOf) = exponent := by
  unfold Binary64.fill
  constructor
  · exact (Text.isRow_toDigits exponent.natAbs).zeros_append _
  · rw [Text.signed_map_digit, Nat.ofDigitChars_append, Nat.ofDigitChars_replicate_zero,
      Nat.mul_zero, Nat.ofDigitChars_ten_toDigits]
    simp only [decide_eq_true_eq]
    split <;> omega

/-- The digits of a decimal with a point behind the first. -/
def mantissa (layout : Binary64.Layout) : List Char → List Char
  | [] => []
  | [digit] => if layout.fractionAlways then [digit, '.', '0'] else [digit]
  | digit :: more => digit :: '.' :: more

/-! The ways to lay a row of digits out, each of which is read as the decimal of the row. -/

section Layouts

variable {row rest : List Char} {n : Nat} (negative : Bool) (row_is : Text.IsRow row)
  (front : row.head? ≠ some '0') (stands : Nat.ofDigitChars 10 row 0 = n) (ends : Ends rest)
include row_is front stands ends

theorem readNumber_place (zeros : Nat) :
    readNumber negative (row ++ List.replicate zeros '0' ++ '.' :: (['0'] ++ rest)) =
      .ok (.float (rounded negative (decimalValue n zeros)), rest) := by
  have whole_is : Text.IsPlainRow (row ++ List.replicate zeros '0') := by
    refine ⟨row_is.append_zeros zeros, .inr ?_⟩
    rwa [List.head?_append_of_ne_nil _ row_is.nonempty]
  have all_zeros : List.replicate zeros '0' ++ ['0'] = List.replicate (zeros + 1) '0' :=
    List.replicate_succ'.symm
  -- The place behind the point is taken into the digits, and out again by the exponent.
  have tenfold : decimalValue (10 ^ (zeros + 1) * n) (-1) = decimalValue n zeros := by
    unfold decimalValue
    push_cast
    rw [zpow_neg_one, zpow_natCast, pow_succ]
    field_simp
  rw [readNumber_point negative whole_is Text.isPlainRow_zero.toIsRow ends, List.append_assoc,
    all_zeros, Nat.ofDigitChars_append, Nat.ofDigitChars_replicate_zero, stands,
    List.length_singleton, Nat.cast_one, tenfold]

theorem readNumber_split {whole : Nat} (positive : 0 < whole) (inside : whole < row.length) :
    readNumber negative (row.take whole ++ '.' :: (row.drop whole ++ rest)) =
      .ok (.float (rounded negative (decimalValue n (whole - row.length))), rest) := by
  have before_is : Text.IsRow (row.take whole) :=
    ⟨List.ne_nil_of_length_pos (by rw [List.length_take]; omega),
      fun c member => row_is.digits c (List.mem_of_mem_take member)⟩
  have behind_is : Text.IsRow (row.drop whole) :=
    ⟨List.ne_nil_of_length_pos (by rw [List.length_drop]; omega),
      fun c member => row_is.digits c (List.mem_of_mem_drop member)⟩
  have front_kept : (row.take whole).head? ≠ some '0' := by
    rwa [List.head?_take, if_neg (Nat.pos_iff_ne_zero.mp positive)]
  have places : (-((row.length - whole : Nat) : Int)) = whole - row.length := by omega
  rw [readNumber_point negative ⟨before_is, .inr front_kept⟩ behind_is ends,
    List.take_append_drop, stands, List.length_drop, places]

omit front in
theorem readNumber_small (zeros : Nat) :
    readNumber negative ('0' :: '.' :: (List.replicate zeros '0' ++ row ++ rest)) =
      .ok (.float (rounded negative (decimalValue n (-(zeros + row.length : Nat)))), rest) := by
  have all_zeros : ['0'] ++ (List.replicate zeros '0' ++ row) =
      List.replicate (zeros + 1) '0' ++ row := rfl
  have read : readNumber negative (['0'] ++ '.' :: (List.replicate zeros '0' ++ row ++ rest)) = _ :=
    readNumber_point negative Text.isPlainRow_zero (row_is.zeros_append zeros) ends
  rw [all_zeros, Nat.ofDigitChars_append, Nat.ofDigitChars_replicate_zero, Nat.mul_zero, stands,
    List.length_append, List.length_replicate] at read
  exact read

theorem readNumber_scientific (layout : Binary64.Layout) (leading : Int) :
    readNumber negative (mantissa layout row ++ 'e' :: (if leading < 0 then '-' else '+') ::
        (Binary64.fill layout.exponentDigits (Nat.toDigits 10 leading.natAbs) ++ rest)) =
      .ok (.float (rounded negative (decimalValue n (leading + 1 - row.length))), rest) := by
  obtain ⟨power_is, power_eq⟩ := signed_fill layout.exponentDigits leading
  cases row with
  | nil => exact absurd rfl row_is.nonempty
  | cons digit more =>
    cases more with
    | nil =>
      have places : leading + 1 - ([digit].length : Nat) = leading := by simp
      rw [places]
      -- A single digit has a zero behind its point, if anything.
      by_cases always : layout.fractionAlways = true
      · have tenfold : decimalValue (10 * n) (leading - 1) = decimalValue n leading := by
          unfold decimalValue
          rw [zpow_sub_one₀ (by norm_num)]
          push_cast
          field_simp
        have read := readNumber_pointPower negative (leading < 0) ⟨row_is, .inr front⟩
          Text.isPlainRow_zero.toIsRow power_is ends
        have zero_behind : Nat.ofDigitChars 10 ([digit] ++ ['0']) 0 = 10 * n := by
          rw [Nat.ofDigitChars_append, stands]
          rfl
        rw [mantissa, if_pos always]
        rw [power_eq, zero_behind, List.length_singleton, Nat.cast_one, tenfold] at read
        exact read
      · rw [mantissa, if_neg always,
          readNumber_power negative (leading < 0) ⟨row_is, .inr front⟩ power_is ends, power_eq,
          stands]
    | cons next more =>
      have first_is : Text.IsRow [digit] :=
        ⟨List.cons_ne_nil _ _, fun c only => row_is.digits c (by simp_all)⟩
      have more_is : Text.IsRow (next :: more) :=
        ⟨List.cons_ne_nil _ _, fun c later => row_is.digits c (List.mem_cons_of_mem digit later)⟩
      have places : leading - ((next :: more).length : Nat) =
          leading + 1 - ((digit :: next :: more).length : Nat) := by
        simp only [List.length_cons]
        omega
      have read := readNumber_pointPower negative (leading < 0) ⟨first_is, .inr front⟩ more_is
        power_is ends
      have all_digits : Nat.ofDigitChars 10 ([digit] ++ next :: more) 0 = n := stands
      rw [power_eq, places, all_digits] at read
      exact read

end Layouts

/-- However a decimal is laid out, it is the number nearest to it that is read. -/
theorem readNumber_layOut (negative : Bool) (layout : Binary64.Layout) {digits : Nat}
    (positive : 0 < digits) (exponent : Int) {rest : List Char} (ends : Ends rest) :
    readNumber negative (Binary64.layOut layout digits exponent ++ rest) =
      .ok (.float (rounded negative (decimalValue digits exponent)), rest) := by
  have row_is := Text.isRow_toDigits digits
  have front := Text.head_toDigits_ne_zero positive
  have stands : Nat.ofDigitChars 10 (Nat.toDigits 10 digits) 0 = digits :=
    Nat.ofDigitChars_ten_toDigits
  have row_length : 0 < (Nat.toDigits 10 digits).length := List.length_pos_of_ne_nil row_is.nonempty
  unfold Binary64.layOut
  dsimp only
  generalize Nat.toDigits 10 digits = row at row_is front stands row_length ⊢
  generalize leading_eq : exponent + (row.length : Int) - 1 = leading
  by_cases positional : layout.leastPositional ≤ leading ∧ leading < layout.firstScientific
  · rw [if_pos positional]
    by_cases whole : 0 ≤ exponent
    · have place := readNumber_place negative row_is front stands ends exponent.toNat
      rw [Int.toNat_of_nonneg whole] at place
      simpa [whole] using place
    rw [if_neg whole]
    by_cases inside : 0 ≤ leading
    · have point : ((leading.toNat + 1 : Nat) : Int) - row.length = exponent := by omega
      have split := readNumber_split negative row_is front stands ends
        (Nat.succ_pos leading.toNat) (by omega)
      rw [point] at split
      simpa [inside] using split
    · have places : -(((-leading - 1).toNat + row.length : Nat) : Int) = exponent := by omega
      have small := readNumber_small negative row_is stands ends (-leading - 1).toNat
      rw [places] at small
      simpa [inside] using small
  · rw [if_neg positional]
    have power : leading + 1 - row.length = exponent := by omega
    have scientific := readNumber_scientific negative row_is front stands ends layout leading
    rw [power] at scientific
    change readNumber negative (mantissa layout row ++ _ ++ rest) = _
    simpa using scientific

/-- No word starts with a digit, or with a minus sign and a digit. -/
theorem readWord?_digit {c : Char} (digit : c.isDigit = true) (text : List Char) :
    readWord? (c :: text) = none ∧ readWord? ('-' :: c :: text) = none := by
  have other {letter : Char} (no_digit : letter.isDigit = false) : letter ≠ c := by
    rintro rfl
    rw [digit] at no_digit
    cases no_digit
  constructor <;> simp [readWord?, wordValues, other]

/-- What starts with a digit behind a sign is read as a number. -/
theorem readPlain_sign (negative : Bool) {c : Char} (digit : c.isDigit = true) (text : List Char) :
    readPlain ((if negative then ['-'] else []) ++ c :: text) = readNumber negative (c :: text) := by
  obtain ⟨no_word, no_word'⟩ := readWord?_digit digit text
  cases negative
  · change readPlain (c :: text) = _
    rw [readPlain, no_word]
    rintro rest same
    cases same
    cases digit
  · change readPlain ('-' :: c :: text) = _
    rw [readPlain, no_word']

theorem toList_toString_int (value : Int) :
    (toString value).toList =
      (if decide (value < 0) then ['-'] else []) ++ Nat.toDigits 10 value.natAbs := by
  cases value with
  | ofNat n => exact Nat.toList_repr
  | negSucc n =>
    change ("-" ++ Nat.repr (n + 1)).toList = _
    have negative : decide (Int.negSucc n < 0) = true := decide_eq_true (Int.negSucc_lt_zero n)
    rw [String.toList_append, Nat.toList_repr, negative]
    rfl

/-- A whole number is read back. -/
theorem readPlain_int {value : Int} (writable : Text.isWritable value = true) {rest : List Char}
    (ends : Ends rest) : readPlain ((toString value).toList ++ rest) = .ok (.int value, rest) := by
  have few := Text.isWritable_iff.mp writable
  have row_is := Text.isPlainRow_toDigits value.natAbs
  have read := readNumber_int (decide (value < 0)) row_is few ends
  have signed : Text.signed (decide (value < 0)) ((Nat.toDigits 10 value.natAbs).map Text.digitOf) =
      value := by
    rw [Text.signed_map_digit, Nat.ofDigitChars_ten_toDigits]
    simp only [decide_eq_true_eq]
    split <;> omega
  rw [signed] at read
  rw [toList_toString_int, List.append_assoc, ← read]
  generalize Nat.toDigits 10 value.natAbs = row at row_is
  cases row with
  | nil => exact absurd rfl row_is.nonempty
  | cons c row => exact readPlain_sign _ (row_is.digits c List.mem_cons_self) (row ++ rest)

theorem exists_layOut_eq_cons (layout : Binary64.Layout) (digits : Nat) (exponent : Int) :
    ∃ c text, Binary64.layOut layout digits exponent = c :: text ∧ c.isDigit = true := by
  have row_is := Text.isRow_toDigits digits
  unfold Binary64.layOut
  generalize Nat.toDigits 10 digits = row at row_is
  cases row with
  | nil => exact absurd rfl row_is.nonempty
  | cons c row =>
    have digit := row_is.digits c List.mem_cons_self
    dsimp only
    split_ifs
    · exact ⟨c, _, rfl, digit⟩
    · exact ⟨c, _, rfl, digit⟩
    · exact ⟨'0', _, rfl, rfl⟩
    all_goals
      cases row with
      | nil => exact ⟨c, _, rfl, digit⟩
      | cons next row => exact ⟨c, _, rfl, digit⟩

theorem toList_withSign (negative : Bool) (text : List Char) :
    (Binary64.withSign negative text).toList = (if negative then ['-'] else []) ++ text := by
  unfold Binary64.withSign
  rw [String.toList_ofList]
  cases negative <;> rfl

/-- A double-precision number is read back. -/
theorem readPlain_float {value : Binary64} (standard : value.IsStandard) {rest : List Char}
    (ends : Ends rest) :
    readPlain ((writtenFloat value).toList ++ rest) = .ok (.float value, rest) := by
  cases value with
  | notANumber => rfl
  | infinite negative => cases negative <;> rfl
  | finite negative significand exponent =>
    change readPlain ((Binary64.text _).toList ++ rest) = _
    rcases standard with ⟨rfl, rfl⟩ | standard
    -- Zero has no shortest decimal, and is written with a place of its own.
    · have zero_value : rounded negative (decimalValue 0 (-1)) = .finite negative 0 0 := by
        rw [decimalValue, Nat.cast_zero, zero_mul]
        rfl
      have read : readNumber negative (['0'] ++ '.' :: (['0'] ++ rest)) =
          .ok (.float (rounded negative (decimalValue 0 (-1))), rest) :=
        readNumber_point negative Text.isPlainRow_zero Text.isPlainRow_zero.toIsRow ends
      rw [zero_value] at read
      rw [Binary64.text, if_pos rfl, toList_withSign, List.append_assoc, ← read]
      exact readPlain_sign negative rfl _
    · obtain ⟨digits, scale, positive, text_eq, rounds⟩ :=
        Binary64.exists_text_eq_layOut negative standard
      have read := readNumber_layOut negative Binary64.plainLayout positive scale ends
      rw [rounds] at read
      rw [text_eq, toList_withSign, List.append_assoc, ← read]
      obtain ⟨c, text, starts, digit⟩ :=
        exists_layOut_eq_cons Binary64.plainLayout digits scale
      rw [starts]
      exact readPlain_sign negative digit (text ++ rest)

end Json

end Trackage
