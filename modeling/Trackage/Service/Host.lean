import Trackage.Fault
import Trackage.Text.Basic
import Trackage.Text.Lower
import Trackage.Text.NameChar
import Trackage.Text.Punycode

/-!
Hosts of addresses: four numbers, eight numbers in brackets, or a name. A host that looks like one of
the first two has to be one. A name is a row of labels between points, in any script. Each label follows
the rules for names, and one that is not in ASCII is written in it, behind a mark of its own.
-/

namespace Trackage.HostName

/-- The points that divide labels: that of ASCII and those of Chinese and Japanese. -/
def isPoint (c : Char) : Bool := ['.', '。', '．', '｡'].contains c

/-- What stands in front of a label that is written in ASCII. -/
def asciiMark : List Char := "xn--".toList

/-- Whether the hyphens of a label stand where they may: not at its ends, and no two where a mark
would have them. -/
def keepsHyphens (label : List Char) : Bool :=
  label.head? != some '-' && label.getLast? != some '-' && (label.drop 2).take 2 != ['-', '-']

/-- Whether a label follows the rules for names. -/
def isLabel (label : List Char) : Bool :=
  !label.isEmpty && Text.isComposed label && keepsHyphens label &&
    !label.head?.any Text.isMark && Text.areNameChars [] label && Text.keepsDirection label

/-- The most characters of a label in ASCII. -/
def longestLabel : Nat := 63

/-- Whether a label in ASCII follows the rules: what it stands for has to, if it has the mark. -/
def isAsciiLabel (label : List Char) : Bool :=
  if asciiMark.isPrefixOf label then
    let marked := label.drop asciiMark.length
    !marked.isEmpty && marked.getLast? != some '-' &&
      (Text.Punycode.decode? marked).any isLabel
  else isLabel label

/-- A label in ASCII, if it follows the rules and is not too long. -/
def labelInAscii? (label : List Char) : Option (List Char) :=
  let (follows, written) :=
    if label.all Text.Punycode.isAscii then (isAsciiLabel label, label)
    else (isLabel label, asciiMark ++ Text.Punycode.encode label)
  if follows && written.length ≤ longestLabel then some written else none

/-- The most characters of a name in ASCII, without a point at its end. -/
def longestName : Nat := 253

/-- A name in ASCII, if it follows the rules. One point may stand at the end. -/
def inAscii? (name : List Char) : Option (List Char) := do
  let name := Text.lower name
  -- A name only grows in ASCII.
  if longestName + 1 < name.length then none
  let labels := Text.partsBetween isPoint name
  let ended := labels.getLast? == some []
  let written ← (if ended then labels.dropLast else labels).mapM labelInAscii?
  let row := ['.'].intercalate written
  if written.isEmpty || longestName < row.length then none
  else return row ++ (if ended then ['.'] else [])

end Trackage.HostName

namespace Trackage.Host

def isFigure (c : Char) : Bool := (Text.asciiDigit? c).isSome

/-- Whether a text looks like four numbers: four rows of figures with a character between each two,
which may be a figure itself. -/
def looksLikeFour (text : List Char) : Bool :=
  let rows := Text.partsBetween (!isFigure ·) text
  -- A row of figures has a figure to spare for each two behind its first one.
  let spare := (rows.map fun row => (row.length - 1) / 2).foldl (· + ·) 0
  rows.all (!·.isEmpty) && rows.length ≤ 4 && 4 ≤ rows.length + spare

/-- Whether a text is a number of eight bits, without zeros in front of it. -/
def isOctet (text : List Char) : Bool :=
  !text.isEmpty && text.all isFigure && text.length ≤ 3 &&
    (text.head? != some '0' || text.length == 1) &&
    Text.ofDigits (text.filterMap Text.asciiDigit?) < 256

/-- Whether a text is four numbers between points. -/
def isFour (text : List Char) : Bool :=
  let parts := Text.partsAt '.' text
  parts.length == 4 && parts.all isOctet

/-- Whether a text is a number of sixteen bits to the base of sixteen. -/
def isPair (text : List Char) : Bool :=
  !text.isEmpty && text.length ≤ 4 && text.all fun c => (Json.hexValue? c).isSome

/-- How many parts a row of eight numbers has. -/
def pairCount : Nat := 8

/-- Whether parts between colons are eight numbers. In one place, two colons may stand for numbers
that are left out; they leave an empty part, and one more at an end of the row. -/
def areEight (parts : List (List Char)) : Bool :=
  let inner := (parts.drop 1).dropLast
  match inner.findIdx? (·.isEmpty) with
  | none => parts.length == pairCount && parts.all isPair
  | some position =>
    let before := parts.take (position + 1)
    let behind := parts.drop (position + 2)
    let before := if before == [[]] then [] else before
    let behind := if behind == [[]] then [] else behind
    (before ++ behind).all isPair && before.length + behind.length < pairCount

/-- Whether a text is eight numbers between colons. The last two may be written as four, and the name
of a zone may stand at the end, behind a percent sign. -/
def isEight (text : List Char) : Bool :=
  let numbers := text.takeWhile (· != '%')
  let zone := text.drop numbers.length
  let parts := Text.partsAt ':' numbers
  let last := parts.getLastD []
  let isMixed := last.contains '.'
  let parts := if isMixed then parts.dropLast ++ [['0'], ['0']] else parts
  !text.contains '/' && 3 ≤ (Text.partsAt ':' numbers).length &&
    (zone.isEmpty || (zone.length != 1 && zone.count '%' == 1)) &&
    (!isMixed || isFour last) && areEight parts

end Trackage.Host
