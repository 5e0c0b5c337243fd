import Trackage.Text.Mark

/-!
The direction in which characters of names are written, by Unicode 14, and the rule for words that
are written from the right to the left.
-/

namespace Trackage.Text

/-- How a character is written. -/
inductive Direction where
  | left
  | right
  /-- A digit that is written like those of Europe. -/
  | digit
  /-- A digit that is written like those of Arabia. -/
  | arabicDigit
  /-- A sign that goes with what is around it. -/
  | neutral
  /-- A mark that goes with the character in front of it. -/
  | mark
deriving DecidableEq, Repr

/-- Characters that are written from the right to the left. -/
def rightRuns : Runs := [
  (1488, 1514, 1), (1519, 1524, 1), (1568, 1599, 1), (1601, 1610, 1), (1646, 1647, 1),
  (1649, 1652, 1), (1657, 1747, 1), (1749, 1749, 1), (1765, 1766, 1), (1774, 1775, 1),
  (1786, 1791, 1), (1808, 1808, 1), (1810, 1839, 1), (1869, 1957, 1), (1969, 1969, 1),
  (1984, 2026, 1), (2036, 2037, 1), (2048, 2069, 1), (2074, 2074, 1), (2084, 2084, 1),
  (2088, 2088, 1), (2112, 2136, 1), (2144, 2154, 1), (2160, 2183, 1), (2185, 2190, 1),
  (2208, 2249, 1), (65139, 65139, 1), (67584, 67589, 1), (67592, 67592, 1), (67594, 67637, 1),
  (67639, 67640, 1), (67644, 67644, 1), (67647, 67669, 1), (67680, 67702, 1), (67712, 67742, 1),
  (67808, 67826, 1), (67828, 67829, 1), (67840, 67861, 1), (67872, 67897, 1), (67968, 68023, 1),
  (68030, 68031, 1), (68096, 68096, 1), (68112, 68115, 1), (68117, 68119, 1), (68121, 68149, 1),
  (68192, 68220, 1), (68224, 68252, 1), (68288, 68295, 1), (68297, 68324, 1), (68352, 68405, 1),
  (68416, 68437, 1), (68448, 68466, 1), (68480, 68497, 1), (68608, 68680, 1), (68800, 68850, 1),
  (68864, 68899, 1), (69248, 69289, 1), (69296, 69297, 1), (69376, 69404, 1), (69415, 69415, 1),
  (69424, 69445, 1), (69488, 69505, 1), (69552, 69572, 1), (69600, 69622, 1), (124928, 125124, 1),
  (125218, 125251, 1), (125259, 125259, 1), (125264, 125273, 1)]

/-- Digits that are written like those of Europe. -/
def digitRuns : Runs := [
  (48, 57, 1), (1776, 1785, 1)]

/-- Digits that are written like those of Arabia. -/
def arabicDigitRuns : Runs := [
  (1632, 1641, 1), (68912, 68921, 1)]

/-- Signs that go with what is around them. -/
def neutralRuns : Runs := [
  (45, 45, 1), (183, 183, 1), (697, 698, 1), (710, 719, 1), (748, 748, 1), (885, 885, 1),
  (8204, 8205, 1), (11823, 11823, 1), (12539, 12539, 1), (42623, 42623, 1), (42775, 42783, 1),
  (42888, 42888, 1)]

def direction (c : Char) : Direction :=
  if digitRuns.covers c then .digit
  else if neutralRuns.covers c then .neutral
  else if rightRuns.covers c then .right
  else if arabicDigitRuns.covers c then .arabicDigit
  else if isNonspacing c then .mark
  else .left

/-- Whether characters keep the rule for directions. A word with a character from the right starts
with one and has none from the left, its digits are of one kind, and it ends, apart from marks, in
such a character or a digit. -/
def keepsDirection (row : List Char) : Bool :=
  let directions := row.map direction
  let isFromRight := directions.contains .right || directions.contains .arabicDigit
  let last := (directions.reverse.dropWhile (· == .mark)).head?
  !isFromRight ||
    (directions.head? == some .right && !directions.contains .left &&
      !(directions.contains .digit && directions.contains .arabicDigit) &&
      [some .right, some .digit, some .arabicDigit].contains last)

end Trackage.Text
