import Mathlib.Data.List.Basic
import Trackage.Text.Half

/-!
Texts as bytes. A text that is spelled from characters alone is written in bytes and read back as
the same text.
-/

namespace Trackage.Text

/-- A text that can be put into bytes: it spells characters alone, and no half of a pair. -/
def Encodable (text : List Char) : Prop :=
  ∃ row : List Char, (row.map Symbol.char).flatMap Symbol.spelling = text

theorem Encodable.nil : Encodable [] := ⟨[], rfl⟩

theorem Encodable.append {text rest : List Char} (encodable : Encodable text)
    (rest_encodable : Encodable rest) : Encodable (text ++ rest) := by
  obtain ⟨row, rfl⟩ := encodable
  obtain ⟨others, rfl⟩ := rest_encodable
  exact ⟨row ++ others, by rw [List.map_append, List.flatMap_append]⟩

theorem Encodable.intercalate {separator : List Char} {parts : List (List Char)}
    (of_separator : Encodable separator) (of_parts : ∀ part ∈ parts, Encodable part) :
    Encodable (separator.intercalate parts) := by
  induction parts with
  | nil => exact .nil
  | cons part parts ih =>
    obtain ⟨first, others⟩ := List.forall_mem_cons.mp of_parts
    cases parts with
    | nil => simpa using first
    | cons next parts =>
      rw [List.intercalate_cons_cons]
      exact (first.append of_separator).append (ih others)

/-- Characters other than the mark spell themselves. -/
theorem encodable_of_not_mem {text : List Char} (unmarked : halfMark ∉ text) : Encodable text := by
  refine ⟨text, ?_⟩
  induction text with
  | nil => rfl
  | cons c text ih =>
    obtain ⟨other, rest⟩ := not_or.mp (mt List.mem_cons.mpr unmarked)
    rw [List.map_cons, List.flatMap_cons, ih rest, Symbol.spelling, if_neg (Ne.symm other)]
    rfl

theorem characters_of_spelled {row : List Char} {text : String}
    (spelled : (row.map Symbol.char).flatMap Symbol.spelling = text.toList) :
    characters text = row := by
  have valid : ∀ symbol ∈ row.map Symbol.char, symbol.Valid := by
    rintro symbol member
    obtain ⟨c, -, rfl⟩ := List.mem_map.mp member
    trivial
  rw [characters, ← spelled, symbols_flatMap_spelling _ valid, List.map_map]
  exact List.map_id row

theorem mem_of_mem_spelled {row text : List Char} {c : Char}
    (spelled : (row.map Symbol.char).flatMap Symbol.spelling = text) (member : c ∈ row) :
    c ∈ text := by
  rw [← spelled, List.mem_flatMap]
  refine ⟨.char c, List.mem_map_of_mem member, ?_⟩
  by_cases marked : c = halfMark <;> simp [Symbol.spelling, marked]

theorem fromUTF8?_toUTF8 (text : String) : String.fromUTF8? text.toUTF8 = some text :=
  dif_pos text.isValidUTF8

end Trackage.Text
