import Trackage.Proofs.Payload.RoundTrip
import Trackage.Proofs.Text.Numeral
import Trackage.Proofs.Text.Words
import Trackage.Service.Http

/-!
Bodies that are made of what the service has shown. Numbers that it wrote as keys are read back, and
of rows of segments the parts are kept that name them.
-/

namespace Trackage

namespace Service

/-- A row of digits is read unless it starts with a zero that is not all of it. -/
theorem plainInt?_eq_some {row : List Char} (digits : ∀ c ∈ row, c.isDigit = true)
    (nonempty : row ≠ []) (front : row.head? = some '0' → row.length = 1)
    (few : row.length ≤ Text.digitLimit) :
    plainInt? row = some (Nat.ofDigitChars 10 row 0 : Int) := by
  have read := Text.mapM_asciiDigit? digits
  have value := Text.signed_map_digit false row
  unfold plainInt?
  split
  next negative other unsigned =>
    split at unsigned
    · exact absurd (digits '-' List.mem_cons_self) (by decide)
    obtain ⟨rfl, rfl⟩ := Prod.mk.inj unsigned
    dsimp only
    split
    · exact absurd rfl nonempty
    · cases front rfl
    · rw [if_pos few, read, Option.map_some, value]
      rfl

theorem plainInt?_toDigits {n : Nat} (few : (Nat.toDigits 10 n).length ≤ Text.digitLimit) :
    plainInt? (Nat.toDigits 10 n) = some (n : Int) := by
  rw [plainInt?_eq_some Text.isDigit_toDigits Nat.toDigits_ne_nil ?_ few,
    Nat.ofDigitChars_ten_toDigits]
  intro front
  obtain rfl := Nat.eq_zero_of_not_pos fun positive => Text.head_toDigits_ne_zero positive front
  rw [Nat.toDigits_zero]
  rfl

theorem dropWhile_isRequestBlank {row : List Char} (digits : ∀ c ∈ row, c.isDigit = true) :
    row.dropWhile isRequestBlank = row := by
  cases row with
  | nil => rfl
  | cons c row =>
    have not_blank : isRequestBlank c = false := by
      rw [isRequestBlank, Text.isBlank_of_isDigit (digits c List.mem_cons_self), Bool.false_and]
    exact List.dropWhile_cons_of_neg (by simp [not_blank])

/-- A number that is written as a text is read from it. -/
theorem textInt?_toString {n : Nat} (few : (Nat.toDigits 10 n).length ≤ Text.digitLimit) :
    textInt? (toString n) = some (n : Int) := by
  have digits := Text.isDigit_toDigits (n := n)
  have reversed : ∀ c ∈ (Nat.toDigits 10 n).reverse, c.isDigit = true :=
    fun c member => digits c (List.mem_reverse.mp member)
  have text_eq : (toString n).toList = Nat.toDigits 10 n := Nat.toList_repr
  unfold textInt?
  rw [text_eq, dropWhile_isRequestBlank digits, dropWhile_isRequestBlank reversed,
    List.reverse_reverse]
  simp only [plainInt?_toDigits few, Option.some_or]

theorem mapM_write {α β γ : Type} {read : γ → Option β} {write : α → γ} {f : α → β} {row : List α}
    (reads : ∀ a ∈ row, read (write a) = some (f a)) :
    (row.map write).mapM read = some (row.map f) := by
  induction row with
  | nil => rfl
  | cons a row ih =>
    obtain ⟨first, others⟩ := List.forall_mem_cons.mp reads
    simp [List.mapM_cons, first, ih others]

theorem row?_ofList {α β : Type} {read : Json → Option β} {write : α → Json} {f : α → β}
    (reads : ∀ a, read (write a) = some (f a)) (row : List α) :
    row? read (.ofList write row) = some (row.map f) := mapM_write fun a _ => reads a

/-- Of rows of segments that are shown, a request keeps what names the segments. -/
theorem rows?_ofList (rows : List (List Segment)) :
    row? (row? segment?) (.ofList Segment.rowToJson rows) =
      some (rows.map (·.map Segment.request)) :=
  row?_ofList (row?_ofList Segment.segment?_toJson) rows

end Service

end Trackage
