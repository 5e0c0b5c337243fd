/-!
Characters and the pieces of a text. Sets of characters are given as runs of code points, and decimal
digits by the zeros of their scripts. A text is cut into parts at every separator, so that some may be
empty; into lines at line breaks, of which one at the very end opens no further line; and into words
at runs of blanks, so that no word is empty and none holds a blank.
-/

namespace Trackage.Text

/-! ### Sets of characters -/

/-- Runs of code points: the first, the last, and the step from one to the next. -/
abbrev Runs := List (Nat × Nat × Nat)

/-- Whether a number belongs to the run from a first to a last one by a step. -/
def inRun (first last step number : Nat) : Bool :=
  first ≤ number && number ≤ last && (number - first) % step == 0

/-- Whether a character belongs to one of the runs. -/
def Runs.covers (runs : Runs) (c : Char) : Bool :=
  runs.any fun (first, last, step) => inRun first last step c.toNat

/-- What goes with the run that a character belongs to, if there is one. -/
def runValue? (runs : List (Nat × Nat × Nat × Nat)) (c : Char) : Option Nat :=
  (runs.find? fun (first, last, step, _) => inRun first last step c.toNat).map (·.2.2.2)

/-- The character that a character is mapped to by runs that keep their distance: each goes with what
its first one is mapped to. -/
def runTarget? (runs : List (Nat × Nat × Nat × Nat)) (c : Char) : Option Char :=
  (runs.find? fun (first, last, step, _) => inRun first last step c.toNat).map
    fun (first, _, _, target) => Char.ofNat (target + (c.toNat - first))

/-! ### Digits -/

/-- The code points of the decimal zeros of Unicode 14. Each script has its ten digits in a row. -/
def decimalZeros : List Nat := [
  48, 1632, 1776, 1984, 2406, 2534, 2662, 2790, 2918, 3046, 3174, 3302, 3430, 3558, 3664, 3792,
  3872, 4160, 4240, 6112, 6160, 6470, 6608, 6784, 6800, 6992, 7088, 7232, 7248, 42528, 43216,
  43264, 43472, 43504, 43600, 44016, 65296, 66720, 68912, 69734, 69872, 69942, 70096, 70384,
  70736, 70864, 71248, 71360, 71472, 71904, 72016, 72784, 73040, 73120, 92768, 92864, 93008,
  120782, 120792, 120802, 120812, 120822, 123200, 123632, 125264, 130032]

/-- The value of a decimal digit of any script. -/
def digitValue? (c : Char) : Option Nat :=
  let n := c.toNat
  (decimalZeros.find? fun start => start ≤ n && n < start + 10).map (n - ·)

/-- The value of a digit from 0 to 9 as ASCII writes them. -/
def asciiDigit? (c : Char) : Option Nat :=
  if '0' ≤ c ∧ c ≤ '9' then some (c.toNat - '0'.toNat) else none

/-! ### Parts, lines and words -/

/-- The parts of a text between the characters that pass a test. -/
def partsBetween (separates : Char → Bool) : List Char → List (List Char)
  | [] => [[]]
  | c :: rest =>
    if separates c then [] :: partsBetween separates rest
    else match partsBetween separates rest with
      | part :: parts => (c :: part) :: parts
      | [] => [[c]]

/-- The parts of a text between a separator. -/
def partsAt (separator : Char) (text : List Char) : List (List Char) :=
  partsBetween (· == separator) text

/-- The characters that end a line on their own. -/
def isLineBreak (c : Char) : Bool :=
  let n := c.toNat
  (10 ≤ n && n ≤ 13) || (28 ≤ n && n ≤ 30) || n == 0x85 || n == 0x2028 || n == 0x2029

/-- The lines of a text without their ends. -/
def linesOf : List Char → List (List Char)
  | [] => []
  | '\r' :: '\n' :: rest => [] :: linesOf rest
  | c :: rest =>
    if isLineBreak c then [] :: linesOf rest
    else match linesOf rest with
      | [] => [[c]]
      | line :: lines => (c :: line) :: lines

/-- The lines of a text, as texts. -/
def lines (text : String) : List String :=
  (linesOf text.toList).map String.ofList

/-- Writes every carriage return, alone or before a line feed, as one line feed. -/
def unifyNewlines : List Char → List Char
  | [] => []
  | '\r' :: '\n' :: rest => '\n' :: unifyNewlines rest
  | c :: rest => (if c = '\r' then '\n' else c) :: unifyNewlines rest

/-- The characters that separate words: the controls from tab to carriage return and from file to
unit separator, next line, and every space, line and paragraph separator of Unicode. -/
def isBlank (c : Char) : Bool :=
  let n := c.toNat
  (9 ≤ n && n ≤ 13) || (28 ≤ n && n ≤ 32) || n == 0x85 || n == 0xa0 || n == 0x1680 ||
    (0x2000 ≤ n && n ≤ 0x200a) || n == 0x2028 || n == 0x2029 || n == 0x202f || n == 0x205f ||
    n == 0x3000

/-- The word that a text starts with, empty when it starts with a blank, and the words after it. -/
def leadingWord : List Char → List Char × List (List Char)
  | [] => ([], [])
  | c :: rest =>
    let (word, others) := leadingWord rest
    if isBlank c then ([], if word.isEmpty then others else word :: others) else (c :: word, others)

/-- The words of a text in order. -/
def wordsOf (text : List Char) : List (List Char) :=
  let (word, others) := leadingWord text
  if word.isEmpty then others else word :: others

/-- The words of a text, as texts. -/
def words (text : String) : List String :=
  (wordsOf text.toList).map String.ofList

end Trackage.Text
