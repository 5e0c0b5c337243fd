import Trackage.Text.Basic

/-!
Characters of all scripts in ASCII. The ASCII characters of a text come first, and behind a hyphen
each other character, in the order of their code points, as a number: how many places are passed on
the way from the one before it. A place is a code point together with a position in the text. The
numbers have digits to the base of thirty-six, the least first, and each digit has a threshold below
which it is the last one.
-/

namespace Trackage.Text.Punycode

def base : Nat := 36
def leastThreshold : Nat := 1
def greatestThreshold : Nat := 26

/-- The threshold of the digits before anything is known about the numbers. -/
def firstBias : Nat := 72

/-- The least code point beyond ASCII. -/
def firstCode : Nat := 128

/-- The greatest code point. -/
def lastCode : Nat := 0x10ffff

/-- The threshold of a digit, given its place as a multiple of the base. -/
def threshold (place bias : Nat) : Nat :=
  min greatestThreshold (max leastThreshold (place - bias))

theorem one_le_threshold (place bias : Nat) : 1 ≤ threshold place bias := by
  unfold threshold greatestThreshold leastThreshold
  omega

/-- The bias for a number: its places, counted while it is divided until it is small, and a share of
what is left of it then. -/
def settleBias (number places : Nat) : Nat :=
  if ((base - leastThreshold) * greatestThreshold) / 2 < number then
    settleBias (number / (base - leastThreshold)) (places + base)
  else places + base * number / (number + 38)
termination_by number
decreasing_by exact Nat.div_lt_self (by omega) (by decide)

/-- The bias behind a number, for a text that has so many characters by then. -/
def adapt (number : Nat) (isFirst : Bool) (size : Nat) : Nat :=
  let number := if isFirst then number / 700 else number / 2
  settleBias (number + number / size) 0

/-! ### Writing -/

/-- The character of a digit: a letter, or from the twenty-sixth on a figure. -/
def digitChar (digit : Nat) : Char :=
  Char.ofNat (if digit < 26 then 'a'.toNat + digit else '0'.toNat + (digit - 26))

/-- The digits of a number from a place on. -/
def writeNumber (bias place number : Nat) : List Char :=
  let least := threshold place bias
  if number < least then [digitChar number]
  else
    digitChar (least + (number - least) % (base - least)) ::
      writeNumber bias (place + base) ((number - least) / (base - least))
termination_by number
decreasing_by
  have := one_le_threshold place bias
  calc (number - threshold place bias) / (base - threshold place bias)
      ≤ number - threshold place bias := Nat.div_le_self _ _
    _ < number := by omega

/-- What is written of a text: the numbers, the places passed since the last one, the bias, and how
many characters are written. -/
structure Written where
  digits : List Char
  passed : Nat
  bias : Nat
  size : Nat

/-- Passes one character of a text while those of a code point are written. -/
def Written.pass (plain code : Nat) (written : Written) (c : Char) : Written :=
  if c.toNat < code then { written with passed := written.passed + 1 }
  else if c.toNat = code then
    { digits := written.digits ++ writeNumber written.bias base written.passed
      passed := 0
      bias := adapt written.passed (written.size == plain) (written.size + 1)
      size := written.size + 1 }
  else written

/-- Writes the characters of the given code points, which rise from the next one on. -/
def writeCodes (text : List Char) (plain next : Nat) (written : Written) : List Nat → Written
  | [] => written
  | code :: codes =>
    let reached :=
      { written with passed := written.passed + (code - next) * (written.size + 1) }
    let done := text.foldl (Written.pass plain code) reached
    writeCodes text plain (code + 1) { done with passed := done.passed + 1 } codes

def isAscii (c : Char) : Bool := c.toNat < firstCode

/-- A text in ASCII. -/
def encode (text : List Char) : List Char :=
  let plain := text.filter isAscii
  let codes := (((text.filter (!isAscii ·)).map Char.toNat).eraseDups).mergeSort
  let written := writeCodes text plain.length firstCode ⟨[], 0, firstBias, plain.length⟩ codes
  (if plain.isEmpty then [] else plain ++ ['-']) ++ written.digits

/-! ### Reading -/

/-- The value of a digit. -/
def digit? (c : Char) : Option Nat :=
  if 'a' ≤ c ∧ c ≤ 'z' then some (c.toNat - 'a'.toNat)
  else if 'A' ≤ c ∧ c ≤ 'Z' then some (c.toNat - 'A'.toNat)
  else (asciiDigit? c).map (· + 26)

/-- Reads a number from a place on, where a digit counts by a weight. -/
def readNumber? (bias : Nat) (place weight number : Nat) : List Char → Option (Nat × List Char)
  | [] => none
  | c :: rest =>
    match digit? c with
    | none => none
    | some digit =>
      let least := threshold place bias
      if digit < least then some (number + digit * weight, rest)
      else
        readNumber? bias (place + base) (weight * (base - least)) (number + digit * weight) rest

/-- A number takes at least one digit. -/
theorem length_lt_of_readNumber? {bias place weight number value : Nat} {row rest : List Char}
    (found : readNumber? bias place weight number row = some (value, rest)) :
    rest.length < row.length := by
  induction row generalizing place weight number with
  | nil => simp [readNumber?] at found
  | cons c row ih =>
    rw [readNumber?] at found
    split at found
    · cases found
    · dsimp only at found
      split at found
      · cases found
        exact Nat.lt_succ_self _
      · exact Nat.lt_succ_of_lt (ih found)

/-- Puts in the characters that the numbers stand for; nothing when a number is cut off or leads
beyond the last code point. -/
def insertAll? (isFirst : Bool) (bias code position : Nat) (text digits : List Char) :
    Option (List Char) :=
  if digits.isEmpty then some text
  else
    match _found : readNumber? bias base 1 0 digits with
    | none => none
    | some (number, rest) =>
      let places := text.length + 1
      let code := code + (position + number) / places
      let position := (position + number) % places
      if lastCode < code then none
      else
        insertAll? false (adapt number isFirst places) code (position + 1)
          (text.take position ++ Char.ofNat code :: text.drop position) rest
termination_by digits.length
decreasing_by exact length_lt_of_readNumber? _found

/-- The text that ASCII characters stand for. The last hyphen divides them. -/
def decode? (row : List Char) : Option (List Char) :=
  let digits := (row.reverse.takeWhile (· != '-')).reverse
  let plain := row.take (row.length - digits.length - 1)
  insertAll? true firstBias firstCode 0 plain digits

end Trackage.Text.Punycode
