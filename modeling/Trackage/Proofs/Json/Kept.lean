import Trackage.Proofs.Json.Number
import Trackage.Proofs.Json.Text

/-!
Kept data read back. Data in which every number can be written, no object has a key twice, and
nothing is nested too deep is kept in a form that is read as the data.
-/

namespace Trackage.Json

/-- What can be kept inside so many containers and be read back. -/
inductive Keepable : Nat → Json → Prop
  | null {depth : Nat} : Keepable depth .null
  | bool {depth : Nat} (value : Bool) : Keepable depth (.bool value)
  | int {depth : Nat} {value : Int} (writable : Text.isWritable value = true) :
    Keepable depth (.int value)
  | float {depth : Nat} {value : Binary64} (standard : value.IsStandard) :
    Keepable depth (.float value)
  | string {depth : Nat} (value : String) : Keepable depth (.string value)
  | array {depth : Nat} {items : List Json} (shallow : depth < deepestNesting)
    (each : ∀ item ∈ items, Keepable (depth + 1) item) : Keepable depth (.array items)
  | object {depth : Nat} {fields : List (String × Json)} (shallow : depth < deepestNesting)
    (distinct : (fields.map Prod.fst).Nodup)
    (each : ∀ field ∈ fields, Keepable (depth + 1) field.2) : Keepable depth (.object fields)

/-- What a number or a word can start with. -/
def startsPlain (c : Char) : Bool := c.isDigit || c.isAlpha || c == '-'

def OpensPlain (text : List Char) : Prop := ∃ c rest, text = c :: rest ∧ startsPlain c = true

theorem startsPlain_ne {c other : Char} (starts : startsPlain c = true)
    (different : startsPlain other = false) : c ≠ other := by
  rintro rfl
  rw [starts] at different
  cases different

theorem opensPlain_sign (negative : Bool) {c : Char} (digit : c.isDigit = true) (text : List Char) :
    OpensPlain ((if negative then ['-'] else []) ++ c :: text) := by
  cases negative
  · exact ⟨c, text, rfl, by rw [startsPlain, digit]; rfl⟩
  · exact ⟨'-', c :: text, rfl, rfl⟩

theorem opensPlain_int (value : Int) : OpensPlain (toString value).toList := by
  have row_is := Text.isRow_toDigits value.natAbs
  rw [toList_toString_int]
  generalize Nat.toDigits 10 value.natAbs = row at row_is
  cases row with
  | nil => exact absurd rfl row_is.nonempty
  | cons c row => exact opensPlain_sign _ (row_is.digits c List.mem_cons_self) row

theorem opensPlain_float (value : Binary64) : OpensPlain (writtenFloat value).toList := by
  cases value with
  | notANumber => exact ⟨'N', _, rfl, rfl⟩
  | infinite negative =>
    cases negative
    · exact ⟨'I', _, rfl, rfl⟩
    · exact ⟨'-', _, rfl, rfl⟩
  | finite negative significand exponent =>
    change OpensPlain (Binary64.text _).toList
    unfold Binary64.text
    dsimp only
    split
    · rw [toList_withSign]
      exact opensPlain_sign negative rfl _
    · obtain ⟨c, text, starts, digit⟩ := exists_layOut_eq_cons Binary64.plainLayout _ _
      rw [toList_withSign, starts]
      exact opensPlain_sign negative digit text

/-- What kept data opens with is neither a blank nor the end of an array. -/
def Opens (text : List Char) : Prop := ∃ c rest, text = c :: rest ∧ isGap c = false ∧ c ≠ ']'

theorem OpensPlain.opens {text : List Char} (plain : OpensPlain text) : Opens text := by
  obtain ⟨c, rest, rfl, starts⟩ := plain
  have no_gap {blank : Char} (different : startsPlain blank = false) : (c == blank) = false :=
    beq_eq_false_iff_ne.mpr (startsPlain_ne starts different)
  refine ⟨c, rest, rfl, ?_, startsPlain_ne starts rfl⟩
  rw [isGap, no_gap rfl, no_gap rfl, no_gap rfl, no_gap rfl]
  rfl

theorem opens_keptChars (value : Json) : Opens (keptChars value) := by
  match value with
  | .null => exact OpensPlain.opens ⟨_, _, rfl, rfl⟩
  | .bool true => exact OpensPlain.opens ⟨_, _, rfl, rfl⟩
  | .bool false => exact OpensPlain.opens ⟨_, _, rfl, rfl⟩
  | .int value => exact (opensPlain_int value).opens
  | .float value => exact (opensPlain_float value).opens
  | .string value => exact ⟨'"', _, rfl, rfl, by decide⟩
  | .array [] => exact ⟨'[', _, rfl, rfl, by decide⟩
  | .array (item :: items) => exact ⟨'[', _, rfl, rfl, by decide⟩
  | .object [] => exact ⟨'\x7b', _, rfl, rfl, by decide⟩
  | .object (field :: fields) => exact ⟨'\x7b', _, rfl, rfl, by decide⟩

theorem Opens.skipGap {text : List Char} (opens : Opens text) (rest : List Char) :
    Json.skipGap (text ++ rest) = text ++ rest := by
  obtain ⟨c, text, rfl, no_gap, -⟩ := opens
  exact List.dropWhile_cons_of_neg (by simp [no_gap])

theorem skipGap_space {text : List Char} (opens : Opens text) (rest : List Char) :
    skipGap (' ' :: (text ++ rest)) = text ++ rest := by
  change skipGap (text ++ rest) = _
  exact opens.skipGap rest

theorem length_keptChars_pos (value : Json) : 0 < (keptChars value).length := by
  obtain ⟨c, text, starts, -⟩ := opens_keptChars value
  rw [starts]
  exact Nat.succ_pos _

theorem ends_keptItems (items : List Json) (rest : List Char) : Ends (keptItems items ++ rest) := by
  cases items with
  | nil => exact .cons _ (.inr (.inl rfl))
  | cons item items => exact .cons _ (.inl rfl)

theorem ends_keptFields (fields : List (String × Json)) (rest : List Char) :
    Ends (keptFields fields ++ rest) := by
  cases fields with
  | nil => exact .cons _ (.inr (.inr rfl))
  | cons field fields => exact .cons _ (.inl rfl)

-- Two calls for each character are enough: one takes the item or the field, the other its value.
/-- A value is read from what is kept of it, whatever stands behind it. -/
def ReadBack (depth : Nat) (value : Json) : Prop :=
  ∀ fuel rest, 2 * (keptChars value).length ≤ fuel → Ends rest →
    readValue depth fuel (keptChars value ++ rest) = .ok (value, rest)

theorem readValue_plain (depth fuel : Nat) {text : List Char} (plain : OpensPlain text) :
    readValue depth (fuel + 1) text = readPlain text := by
  obtain ⟨c, rest, rfl, starts⟩ := plain
  have other {d : Char} (different : startsPlain d = false) (tail : List Char) :
      c :: rest ≠ d :: tail :=
    fun same => startsPlain_ne starts different (List.cons.inj same).1
  rw [readValue]
  · exact other rfl
  · exact other rfl
  · exact other rfl

theorem readBack_plain {depth : Nat} {value : Json} (plain : OpensPlain (keptChars value))
    (read : ∀ rest, Ends rest → readPlain (keptChars value ++ rest) = .ok (value, rest)) :
    ReadBack depth value := by
  intro fuel rest enough ends
  have positive := length_keptChars_pos value
  obtain ⟨fuel, rfl⟩ := Nat.exists_eq_add_one_of_ne_zero (show fuel ≠ 0 by omega)
  obtain ⟨c, text, opens, starts⟩ := plain
  rw [readValue_plain depth fuel ⟨c, text ++ rest, by rw [opens]; rfl, starts⟩, read rest ends]

theorem readValue_quote (depth fuel : Nat) (text : List Char) :
    readValue depth (fuel + 1) ('"' :: text) = (do
      let (text, rest) ← readText text
      return (.string text, rest)) := by
  rw [readValue]

theorem readBack_string (depth : Nat) (value : String) : ReadBack depth (.string value) := by
  intro fuel rest enough ends
  cases fuel with
  | zero => cases enough
  | succ fuel =>
    rw [keptChars, List.cons_append, readValue_quote, readText_keptText]
    rfl

theorem readItems_next {depth fuel : Nat} {item next : Json} {text behind : List Char}
    (read : readValue depth fuel text =
      .ok (item, ',' :: ' ' :: (keptChars next ++ behind))) :
    readItems depth (fuel + 1) text = (do
      let (items, rest) ← readItems depth fuel (keptChars next ++ behind)
      return (item :: items, rest)) := by
  rw [readItems, read]
  conv_rhs => rw [← skipGap_space (opens_keptChars next) behind]
  rfl

/-- The items are read one after the other, and the end of the array behind the last. -/
theorem readItems_kept {depth : Nat} (item : Json) (items : List Json)
    (each : ∀ i ∈ item :: items, ReadBack depth i) (fuel : Nat) (rest : List Char)
    (enough : 2 * (keptChars item ++ keptItems items).length < fuel) :
    readItems depth fuel (keptChars item ++ (keptItems items ++ rest)) =
      .ok (item :: items, rest) := by
  induction items generalizing item fuel with
  | nil =>
    obtain ⟨fuel, rfl⟩ := Nat.exists_eq_add_one_of_ne_zero (show fuel ≠ 0 by omega)
    rw [List.length_append] at enough
    rw [readItems, each item List.mem_cons_self fuel _ (by omega) (ends_keptItems [] rest)]
    rfl
  | cons next items ih =>
    -- The separator of the next item leaves more calls than it needs.
    obtain ⟨fuel, rfl⟩ := Nat.exists_eq_add_one_of_ne_zero (show fuel ≠ 0 by omega)
    simp only [keptItems, List.length_append, List.length_cons] at enough
    have item_read : ReadBack depth item := each item List.mem_cons_self
    have read := item_read fuel _ (by omega) (ends_keptItems (next :: items) rest)
    have others := ih next (fun i member => each i (List.mem_cons_of_mem item member)) fuel (by
      rw [List.length_append]
      omega)
    simp only [keptItems, List.cons_append, List.append_assoc] at read ⊢
    rw [readItems_next read, others]
    rfl

theorem readFields_key (depth fuel : Nat) (key : String) (value : Json) (behind : List Char) :
    readFields depth (fuel + 1)
        ('"' :: (keptText key ++ ':' :: ' ' :: (keptChars value ++ behind))) = (do
      let (value, rest) ← readValue depth fuel (keptChars value ++ behind)
      match skipGap rest with
      | '\x7d' :: rest => return ([(key, value)], rest)
      | ',' :: rest =>
        let (fields, rest) ← readFields depth fuel (skipGap rest)
        return ((key, value) :: fields, rest)
      | _ => .error .malformed) := by
  rw [readFields, readText_keptText]
  conv_rhs => rw [← skipGap_space (opens_keptChars value) behind]
  rfl

/-- The fields are read one after the other, and the end of the object behind the last. -/
theorem readFields_kept {depth : Nat} (key : String) (value : Json) (fields : List (String × Json))
    (each : ∀ field ∈ (key, value) :: fields, ReadBack depth field.2) (fuel : Nat)
    (rest : List Char) (enough : 2 * (keptChars value ++ keptFields fields).length < fuel) :
    readFields depth fuel
        ('"' :: (keptText key ++ ':' :: ' ' :: (keptChars value ++ (keptFields fields ++ rest)))) =
      .ok ((key, value) :: fields, rest) := by
  induction fields generalizing key value fuel with
  | nil =>
    obtain ⟨fuel, rfl⟩ := Nat.exists_eq_add_one_of_ne_zero (show fuel ≠ 0 by omega)
    have value_read : ReadBack depth value := each (key, value) List.mem_cons_self
    rw [List.length_append] at enough
    rw [readFields_key, value_read fuel _ (by omega) (ends_keptFields [] rest)]
    rfl
  | cons next fields ih =>
    obtain ⟨fuel, rfl⟩ := Nat.exists_eq_add_one_of_ne_zero (show fuel ≠ 0 by omega)
    obtain ⟨next_key, next_value⟩ := next
    have value_read : ReadBack depth value := each (key, value) List.mem_cons_self
    simp only [keptFields, List.length_append, List.length_cons] at enough
    have others := ih next_key next_value
      (fun field member => each field (List.mem_cons_of_mem _ member)) fuel (by
        rw [List.length_append]
        omega)
    rw [readFields_key, value_read fuel _ (by omega) (ends_keptFields _ rest)]
    change (do
      let (fields, rest) ← readFields depth fuel ('"' :: (keptText next_key ++ ':' :: ' ' ::
        (keptChars next_value ++ keptFields fields) ++ rest))
      return ((key, value) :: fields, rest)) = _
    rw [List.append_assoc, List.cons_append, List.cons_append, List.append_assoc, others]
    rfl

theorem putField_of_notMem {key : String} {fields : List (String × Json)}
    (absent : key ∉ fields.map Prod.fst) (value : Json) :
    putField key value fields = fields ++ [(key, value)] := by
  induction fields with
  | nil => rfl
  | cons field fields ih =>
    rw [List.map_cons, List.mem_cons, not_or] at absent
    rw [putField, if_neg (Ne.symm absent.1), ih absent.2, List.cons_append]

theorem foldl_putField {known fields : List (String × Json)}
    (distinct : ((known ++ fields).map Prod.fst).Nodup) :
    fields.foldl (fun known field => putField field.1 field.2 known) known = known ++ fields := by
  induction fields generalizing known with
  | nil => rw [List.append_nil, List.foldl_nil]
  | cons field fields ih =>
    have moved : known ++ field :: fields = known ++ [field] ++ fields := by
      rw [List.append_assoc, List.singleton_append]
    have absent : field.1 ∉ known.map Prod.fst := by
      rw [List.map_append, List.nodup_append] at distinct
      intro member
      exact distinct.2.2 _ member _ List.mem_cons_self rfl
    rw [moved] at distinct ⊢
    rw [List.foldl_cons, putField_of_notMem absent]
    exact ih distinct

/-- Fields that have a key each are kept as they are. -/
theorem ofFields_eq {fields : List (String × Json)} (distinct : (fields.map Prod.fst).Nodup) :
    ofFields fields = .object fields := by
  have row : ([] ++ fields : List (String × Json)) = fields := List.nil_append fields
  rw [ofFields, foldl_putField (row ▸ distinct), row]

theorem readBack_array {depth : Nat} {items : List Json} (shallow : depth < deepestNesting)
    (each : ∀ item ∈ items, ReadBack (depth + 1) item) : ReadBack depth (.array items) := by
  intro fuel rest enough ends
  have positive := length_keptChars_pos (.array items)
  obtain ⟨fuel, rfl⟩ := Nat.exists_eq_add_one_of_ne_zero (show fuel ≠ 0 by omega)
  cases items with
  | nil =>
    rw [keptChars, List.cons_append, readValue, if_neg shallow.not_ge]
    rfl
  | cons item items =>
    have opens := opens_keptChars item
    rw [keptChars, List.length_cons] at enough
    rw [keptChars, List.cons_append, List.append_assoc, readValue, if_neg shallow.not_ge,
      opens.skipGap]
    split
    -- No item starts as the array ends.
    next ended =>
      obtain ⟨c, text, starts, -, no_end⟩ := opens
      rw [starts] at ended
      cases ended
      exact absurd rfl no_end
    next =>
      rw [readItems_kept item items each fuel rest (by omega)]
      rfl

theorem readBack_object {depth : Nat} {fields : List (String × Json)}
    (shallow : depth < deepestNesting) (distinct : (fields.map Prod.fst).Nodup)
    (each : ∀ field ∈ fields, ReadBack (depth + 1) field.2) : ReadBack depth (.object fields) := by
  intro fuel rest enough ends
  have positive := length_keptChars_pos (.object fields)
  obtain ⟨fuel, rfl⟩ := Nat.exists_eq_add_one_of_ne_zero (show fuel ≠ 0 by omega)
  cases fields with
  | nil =>
    rw [keptChars, List.cons_append, readValue, if_neg shallow.not_ge]
    rfl
  | cons field fields =>
    obtain ⟨key, value⟩ := field
    simp only [keptChars, List.length_cons, List.length_append] at enough
    have read := readFields_kept key value fields each fuel rest (by
      rw [List.length_append]
      omega)
    rw [keptChars, List.cons_append, readValue, if_neg shallow.not_ge]
    change (do
      let (fields, rest) ← readFields (depth + 1) fuel ('"' :: (keptText key ++ ':' :: ' ' ::
        (keptChars value ++ keptFields fields) ++ rest))
      return (ofFields fields, rest)) = _
    rw [List.append_assoc, List.cons_append, List.cons_append, List.append_assoc, read]
    exact congrArg (fun value => Except.ok (value, rest)) (ofFields_eq distinct)

/-- Data that can be kept is read from what is kept of it. -/
theorem Keepable.readBack {depth : Nat} {value : Json} (keepable : Keepable depth value) :
    ReadBack depth value := by
  induction keepable with
  | null => exact readBack_plain ⟨_, _, rfl, rfl⟩ fun _ _ => rfl
  | bool value =>
    cases value
    · exact readBack_plain ⟨_, _, rfl, rfl⟩ fun _ _ => rfl
    · exact readBack_plain ⟨_, _, rfl, rfl⟩ fun _ _ => rfl
  | int writable => exact readBack_plain (opensPlain_int _) fun _ => readPlain_int writable
  | float standard => exact readBack_plain (opensPlain_float _) fun _ => readPlain_float standard
  | string value => exact readBack_string _ value
  | array shallow _ each_read => exact readBack_array shallow each_read
  | object shallow distinct _ each_read => exact readBack_object shallow distinct each_read

/-- Data is read from the text that is kept of it. -/
theorem read_kept {value : Json} (keepable : Keepable 0 value) : read (kept value) = .ok value := by
  have read := keepable.readBack (2 * (keptChars value).length + 2) [] (by omega) .nil
  rw [List.append_nil] at read
  have opens := (opens_keptChars value).skipGap []
  rw [List.append_nil] at opens
  unfold Json.read kept
  rw [String.toList_ofList]
  dsimp only
  rw [opens, read]
  rfl

end Trackage.Json
