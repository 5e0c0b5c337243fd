import Mathlib.Data.List.Basic
import Trackage.Json.Reader
import Trackage.Json.Writer

/-!
Texts read back. What is kept of a text between its quotes is read as the text, whatever stands behind
the closing quote.
-/

namespace Trackage.Json

theorem hexUnit?_append {digits : List Char} {unit : Nat}
    (read : hexUnit? digits = some (unit, [])) (rest : List Char) :
    hexUnit? (digits ++ rest) = some (unit, rest) := by
  unfold hexUnit? at read
  split at read
  next a b c d tail =>
    simp only [Option.bind_eq_bind, Option.bind_eq_some_iff, Option.some.injEq, Prod.mk.injEq]
      at read
    obtain ⟨a', a_read, b', b_read, c', c_read, d', d_read, rfl, rfl⟩ := read
    simp [hexUnit?, a_read, b_read, c_read, d_read]
  next => cases read

theorem hexUnit?_hexDigits : ∀ n < 32, hexUnit? (Text.hexDigits 4 n) = some (n, []) := by decide

/-- A control character is a symbol of its own. -/
theorem unitSymbol_control {c : Char} (control : c.toNat < 32) (rest : List Char) :
    unitSymbol c.toNat rest = (.char c, rest) ∧ (Text.Symbol.char c).spelling = [c] := by
  have unpaired : ¬ (0xd800 ≤ c.toNat ∧ c.toNat < 0xdc00) := by omega
  have no_half : ¬ (Text.leastHalf ≤ c.toNat ∧ c.toNat < Text.aboveHalves) := by
    unfold Text.leastHalf
    omega
  have unmarked : c ≠ Text.halfMark := by
    rintro rfl
    exact absurd control (by decide)
  constructor
  · rw [unitSymbol, if_neg unpaired, Text.Symbol.ofUnit, if_neg no_half, Char.ofNat_toNat]
  · exact if_neg unmarked

theorem bind_cons (c : Char) (result : Option (List Char × List Char)) :
    (do
      let (chars, rest) ← result
      some (c :: chars, rest)) = result.map fun read => (c :: read.1, read.2) := by
  cases result <;> rfl

theorem readChars_unit (fuel : Nat) (text : List Char) :
    readChars (fuel + 1) ('\\' :: 'u' :: text) = (do
      let (unit, rest) ← hexUnit? text
      let (symbol, rest) := unitSymbol unit rest
      let (chars, rest) ← readChars fuel rest
      some (symbol.spelling ++ chars, rest)) :=
  rfl

/-- A character that is kept is read before what stands behind it. -/
theorem readChars_keptChar (fuel : Nat) (c : Char) (rest : List Char) :
    readChars (fuel + 1) (keptChar c ++ rest) =
      (readChars fuel rest).map fun read => (c :: read.1, read.2) := by
  unfold keptChar
  split_ifs with quote backslash line_feed carriage_return tab backspace form_feed control
  -- The letters of escapes are read by the table.
  iterate 7
    subst c
    exact bind_cons _ _
  · have unit := hexUnit?_append (hexUnit?_hexDigits c.toNat control) rest
    obtain ⟨symbol_eq, spelled⟩ := unitSymbol_control control rest
    rw [Text.unitEscape, List.cons_append, List.cons_append, readChars_unit, unit,
      Option.bind_eq_bind, Option.bind_some]
    simp only [symbol_eq, spelled]
    exact bind_cons c _
  · rw [List.singleton_append, readChars]
    · rw [if_neg (by simp [control, backslash])]
      exact bind_cons c _
    · exact fun same => quote same
    · rintro _ same -
      exact backslash same
    · rintro _ _ same -
      exact backslash same

theorem readChars_flatMap (text rest : List Char) {fuel : Nat} (enough : text.length ≤ fuel) :
    readChars fuel (text.flatMap keptChar ++ '"' :: rest) = some (text, rest) := by
  induction text generalizing fuel with
  | nil => cases fuel <;> rfl
  | cons c text ih =>
    cases fuel with
    | zero => cases enough
    | succ fuel =>
      rw [List.flatMap_cons, List.append_assoc, readChars_keptChar,
        ih (Nat.le_of_succ_le_succ enough)]
      rfl

theorem length_le_flatMap_keptChar (text : List Char) :
    text.length ≤ (text.flatMap keptChar).length := by
  induction text with
  | nil => exact Nat.le_refl 0
  | cons c text ih =>
    have positive : 0 < (keptChar c).length := by
      unfold keptChar
      split_ifs <;> simp [Text.unitEscape]
    rw [List.flatMap_cons, List.length_append, List.length_cons]
    omega

/-- A kept text is read back. -/
theorem readText_keptText (text : String) (rest : List Char) :
    readText (keptText text ++ rest) = .ok (text, rest) := by
  unfold readText keptText
  have inside := length_le_flatMap_keptChar text.toList
  have enough : text.toList.length ≤ (text.toList.flatMap keptChar ++ ['"'] ++ rest).length := by
    rw [List.append_assoc, List.length_append]
    omega
  rw [List.append_assoc] at enough ⊢
  rw [List.singleton_append] at enough ⊢
  rw [readChars_flatMap _ _ enough]
  exact congrArg (fun read => Except.ok (read, rest)) String.ofList_toList

end Trackage.Json
