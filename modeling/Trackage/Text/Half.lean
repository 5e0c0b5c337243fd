/-!
Halves of surrogate pairs. An escape may name half a pair alone, which is no character and cannot be
put into bytes. Texts are kept as strings in which such halves are spelled: a mark and a private
character are half a pair, and two marks are the mark itself. All other characters spell themselves,
so that texts are told apart, cut into words and joined as they are spelled. Main statements: what is
spelled is read back, and texts that stand at one place in the order of texts are one text.
-/

namespace Trackage.Text

/-- The least unit that is half a pair. -/
def leastHalf : Nat := 0xd800

/-- The least unit that is the second half of a pair. -/
def leastSecondHalf : Nat := 0xdc00

/-- The least unit above all halves. -/
def aboveHalves : Nat := 0xe000

/-- What a text is made of: a character, or half a pair that stands alone. -/
inductive Symbol where
  | char (c : Char)
  | half (unit : Nat)
deriving DecidableEq, Repr

/-- The character that begins the spelling of half a pair. -/
def halfMark : Char := Char.ofNat 0x10ffff

/-- The private character that spells the least half; those after it spell the others. -/
def halfBlock : Nat := 0xf5000

/-- The character that spells half a pair behind the mark. -/
def halfChar (unit : Nat) : Char := Char.ofNat (halfBlock + (unit - leastHalf))

/-- The half that a character spells behind the mark. -/
def halfOf? (c : Char) : Option Nat :=
  if halfBlock ≤ c.toNat ∧ c.toNat < halfBlock + (aboveHalves - leastHalf) then
    some (c.toNat - halfBlock + leastHalf)
  else none

namespace Symbol

/-- Whether a symbol is a character or indeed half a pair. -/
def Valid : Symbol → Prop
  | .char _ => True
  | .half unit => leastHalf ≤ unit ∧ unit < aboveHalves

/-- The symbol of a unit that is half a pair or a character. -/
def ofUnit (unit : Nat) : Symbol :=
  if leastHalf ≤ unit ∧ unit < aboveHalves then .half unit else .char (Char.ofNat unit)

/-- The characters that spell a symbol. -/
def spelling : Symbol → List Char
  | .char c => if c = halfMark then [halfMark, halfMark] else [c]
  | .half unit => [halfMark, halfChar unit]

def isChar : Symbol → Bool
  | .char _ => true
  | .half _ => false

/-- The code point or the unit of a symbol. -/
def code : Symbol → Nat
  | .char c => c.toNat
  | .half unit => unit

/-- What stands for a symbol where only characters can. -/
def replaced : Symbol → Char
  | .char c => c
  | .half _ => '\ufffd'

end Symbol

/-- The symbols that characters spell. -/
def symbols : List Char → List Symbol
  | [] => []
  | [c] => [.char c]
  | c :: d :: rest =>
    if c = halfMark then
      if d = halfMark then .char halfMark :: symbols rest
      else
        match halfOf? d with
        | some unit => .half unit :: symbols rest
        | none => .char halfMark :: symbols (d :: rest)
    else .char c :: symbols (d :: rest)

/-- The text of symbols. -/
def spell (row : List Symbol) : String := String.ofList (row.flatMap Symbol.spelling)

/-- The text of characters that are written as they are. -/
def ofCharacters (row : List Char) : String := spell (row.map .char)

/-- The characters of a text, with a replacement for each half. -/
def characters (text : String) : List Char := (symbols text.toList).map Symbol.replaced

/-- What texts are ordered by: the codes of their symbols, each greater than the end of the text. The
characters that spell the text come last, so that no two texts have one key. -/
def orderKey (text : String) : List Nat :=
  (symbols text.toList).map (fun symbol => symbol.code + 1) ++ 0 :: text.toList.map Char.toNat

/-- Whether a text can be put into bytes: it holds no half. -/
def isWhole (text : String) : Bool := (symbols text.toList).all Symbol.isChar

/-- Behind rows without a zero, a zero leads on to the same rest. -/
theorem eq_of_append_zero_cons_eq {α : Type} (f : α → Nat) {a b : List α} {x y : List Nat}
    (same : a.map (fun i => f i + 1) ++ 0 :: x = b.map (fun i => f i + 1) ++ 0 :: y) : x = y := by
  induction a generalizing b with
  | nil => cases b <;> simp_all
  | cons i a ih =>
    cases b with
    | nil => simp at same
    | cons j b =>
      simp only [List.map_cons, List.cons_append, List.cons.injEq] at same
      exact ih same.2

/-- Texts with one key are one text. -/
theorem eq_of_orderKey_eq {a b : String} (same : orderKey a = orderKey b) : a = b := by
  have characters := eq_of_append_zero_cons_eq Symbol.code same
  exact String.toList_injective ((List.map_inj_right fun _ _ => Char.toNat_inj.mp).mp characters)

theorem toNat_halfChar {unit : Nat} (valid : leastHalf ≤ unit ∧ unit < aboveHalves) :
    (halfChar unit).toNat = halfBlock + (unit - leastHalf) := by
  unfold leastHalf aboveHalves at valid
  have isScalar : (halfBlock + (unit - leastHalf)).isValidChar := by
    unfold halfBlock leastHalf Nat.isValidChar
    omega
  unfold halfChar Char.ofNat
  rw [dif_pos isScalar]
  rfl

theorem halfOf?_halfChar {unit : Nat} (valid : leastHalf ≤ unit ∧ unit < aboveHalves) :
    halfOf? (halfChar unit) = some unit := by
  unfold halfOf?
  rw [toNat_halfChar valid, if_pos (by omega)]
  simp only [Option.some.injEq]
  omega

theorem halfChar_ne_halfMark {unit : Nat} (valid : leastHalf ≤ unit ∧ unit < aboveHalves) :
    halfChar unit ≠ halfMark := by
  intro same
  have half := halfOf?_halfChar valid
  rw [same] at half
  simp [halfOf?, halfMark, halfBlock, aboveHalves, leastHalf] at half

theorem symbols_spelling_append (symbol : Symbol) (valid : symbol.Valid) (rest : List Char) :
    symbols (symbol.spelling ++ rest) = symbol :: symbols rest := by
  cases symbol with
  | half unit =>
    simp [Symbol.spelling, symbols, halfChar_ne_halfMark valid, halfOf?_halfChar valid]
  | char c =>
    by_cases marked : c = halfMark
    · simp [Symbol.spelling, symbols, marked]
    · cases rest <;> simp [Symbol.spelling, symbols, marked]

/-- What is spelled is read back. -/
theorem symbols_flatMap_spelling (row : List Symbol) (valid : ∀ symbol ∈ row, symbol.Valid) :
    symbols (row.flatMap Symbol.spelling) = row := by
  induction row with
  | nil => rfl
  | cons symbol rest ih =>
    rw [List.flatMap_cons, symbols_spelling_append symbol (valid symbol (by simp)),
      ih fun other member => valid other (by simp [member])]

end Trackage.Text
