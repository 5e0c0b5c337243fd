import Trackage.Text.Half

/-!
Texts from bytes. A text in bytes of eight bits is read leniently: what is no character counts as the
replacement character, once for each run of bytes that starts like one. A text in units of sixteen or
thirty-two bits is read strictly, though half a pair may stand alone in it.
-/

namespace Trackage.Text

/-- What stands for bytes that are no character. -/
def replacement : Char := '\ufffd'

/-- A character of which some bytes are taken: the bits so far, how many bytes are missing, and the
range in which the next one has to lie. -/
structure Begun where
  bits : Nat
  missing : Nat
  low : Nat
  high : Nat

/-- What a byte is that starts a character: a whole character, a begun one, or none at all. -/
inductive Leading where
  | whole (c : Char)
  | begun (b : Begun)
  | none

/-- The ranges of the second byte leave out long spellings, halves of pairs, and what is beyond the
last character. -/
def leading (byte : Nat) : Leading :=
  if byte < 0x80 then .whole (Char.ofNat byte)
  else if 0xc2 ≤ byte ∧ byte ≤ 0xdf then .begun ⟨byte - 0xc0, 1, 0x80, 0xbf⟩
  else if byte = 0xe0 then .begun ⟨0, 2, 0xa0, 0xbf⟩
  else if byte = 0xed then .begun ⟨13, 2, 0x80, 0x9f⟩
  else if 0xe1 ≤ byte ∧ byte ≤ 0xef then .begun ⟨byte - 0xe0, 2, 0x80, 0xbf⟩
  else if byte = 0xf0 then .begun ⟨0, 3, 0x90, 0xbf⟩
  else if 0xf1 ≤ byte ∧ byte ≤ 0xf3 then .begun ⟨byte - 0xf0, 3, 0x80, 0xbf⟩
  else if byte = 0xf4 then .begun ⟨4, 3, 0x80, 0x8f⟩
  else .none

/-- The character of a begun one and its next byte, or what is begun then. -/
def Begun.take (b : Begun) (byte : Nat) : Leading :=
  let bits := b.bits * 0x40 + (byte - 0x80)
  if b.missing ≤ 1 then .whole (Char.ofNat bits) else .begun ⟨bits, b.missing - 1, 0x80, 0xbf⟩

/-- Reads bytes leniently, after a character that may have begun. -/
def readOctets : Option Begun → List Nat → List Char
  | none, [] => []
  | some _, [] => [replacement]
  | begun, byte :: bytes =>
    let (lost, found) := match begun with
      | some b => if b.low ≤ byte ∧ byte ≤ b.high then (false, b.take byte) else (true, leading byte)
      | none => (false, leading byte)
    (if lost then [replacement] else []) ++
      match found with
      | .whole c => c :: readOctets none bytes
      | .begun b => readOctets (some b) bytes
      | .none => replacement :: readOctets none bytes

/-- The text of bytes, read leniently. -/
def ofOctets (bytes : List Nat) : String := ofCharacters (readOctets none bytes)

/-- The bytes of characters. -/
def charOctets (row : List Char) : List Nat := (String.ofList row).toUTF8.toList.map UInt8.toNat

/-- The bytes of a text. -/
def octets (text : String) : List Nat := charOctets (characters text)

/-- The units of two bytes each, the greater byte first; nothing for an odd number of bytes. -/
def pairUnits? : List Nat → Option (List Nat)
  | [] => some []
  | high :: low :: bytes => (pairUnits? bytes).map ((high * 0x100 + low) :: ·)
  | _ => none

/-- The same units with the lesser byte first. -/
def pairUnitsReversed? : List Nat → Option (List Nat)
  | [] => some []
  | low :: high :: bytes => (pairUnitsReversed? bytes).map ((high * 0x100 + low) :: ·)
  | _ => none

/-- The character of the two halves of a pair. -/
def joined (first second : Nat) : Char :=
  Char.ofNat (0x10000 + (first - leastHalf) * 0x400 + (second - leastSecondHalf))

/-- The symbols of units of sixteen bits. Two halves that follow one another are one character. -/
def ofPairUnits : List Nat → List Symbol
  | [] => []
  | first :: second :: units =>
    if leastHalf ≤ first ∧ first < leastSecondHalf ∧ leastSecondHalf ≤ second ∧ second < aboveHalves
    then .char (joined first second) :: ofPairUnits units
    else .ofUnit first :: ofPairUnits (second :: units)
  | [unit] => [.ofUnit unit]

/-- The symbols of units of thirty-two bits, each of two units of sixteen; nothing when a unit is
beyond the last character or is incomplete. -/
def ofQuadUnits? : List (Nat × Nat) → Option (List Symbol)
  | [] => some []
  | (high, low) :: units =>
    if high ≤ 0x10 then
      (ofQuadUnits? units).map (Symbol.ofUnit (high * 0x10000 + low) :: ·)
    else none

/-- The units two by two. -/
def pairs? : List Nat → Option (List (Nat × Nat))
  | [] => some []
  | first :: second :: units => (pairs? units).map ((first, second) :: ·)
  | _ => none

/-- The text of bytes whose zeros tell how wide its units are. Data starts with two characters of one
byte each, so that zeros among the first four bytes can only be the upper parts of wider units. -/
def ofData? (bytes : List Nat) : Option String :=
  let wide (units : Option (List Nat)) : Option (List Symbol) := units.map ofPairUnits
  let row := match bytes with
    | 0 :: 0 :: _ :: _ :: _ => do ofQuadUnits? (← pairs? (← pairUnits? bytes))
    | 0 :: _ :: _ :: _ :: _ | [0, _] => wide (pairUnits? bytes)
    | _ :: 0 :: 0 :: 0 :: _ => do
      let units ← pairs? (← pairUnitsReversed? bytes)
      ofQuadUnits? (units.map Prod.swap)
    | _ :: 0 :: _ :: _ :: _ | [_, 0] => wide (pairUnitsReversed? bytes)
    | _ => some ((readOctets none bytes).map .char)
  row.map spell

end Trackage.Text
