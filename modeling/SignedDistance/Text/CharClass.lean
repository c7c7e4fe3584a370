import SignedDistance.Text.Letter
import SignedDistance.Text.Lowercase
import SignedDistance.Text.Numeric
import SignedDistance.Text.Hidden

/-!
# Character classes

The classes of characters that names, numbers and quoted texts are made of. Each class answers ASCII
characters by a direct test and looks the others up in a table of code points, so that a statement
about ASCII text never meets a table.
-/

namespace SignedDistance.Text

/-- Whether a code point lies in one of the closed ranges. -/
def inRanges (ranges : List (Nat × Nat)) (code : Nat) : Bool :=
  ranges.any fun range => range.1 ≤ code && code ≤ range.2

/-- Whether a code point is a member of one of the runs `(first, last, step)`. -/
def inRuns (runs : List (Nat × Nat × Nat)) (code : Nat) : Bool :=
  runs.any fun (first, last, step) => first ≤ code && code ≤ last && (code - first) % step == 0

/-- White space in the wide sense: what is cut off at both ends of a text. -/
def isBlank (c : Char) : Bool :=
  inRanges [(9, 13), (28, 32), (0x85, 0x85), (0xA0, 0xA0), (0x1680, 0x1680), (0x2000, 0x200A),
    (0x2028, 0x2029), (0x202F, 0x202F), (0x205F, 0x205F), (0x3000, 0x3000)] c.toNat

/-- The value of a decimal digit of any script, `none` for any other character. -/
def digitValue? (c : Char) : Option Nat :=
  if c.toNat < 128 then
    if c.isDigit then some (c.toNat - '0'.toNat) else none
  else
    (digitZeros.find? fun first => first ≤ c.toNat && c.toNat < first + 10).map (c.toNat - ·)

/-- A decimal digit of any script. -/
def isDecimal (c : Char) : Bool :=
  (digitValue? c).isSome

/-- A character that continues a word: a letter, a numeral or an underscore. -/
def isWordChar (c : Char) : Bool :=
  if c.toNat < 128 then c.isAlphanum || c == '_'
  else inRanges letterRanges c.toNat || inRanges numericRanges c.toNat

/-- A letter that is in lower case. -/
def isLowerLetter (c : Char) : Bool :=
  if c.toNat < 128 then c.isLower else inRuns lowercaseRuns c.toNat

/-- A character that quoted text shows as itself. -/
def isShown (c : Char) : Bool :=
  if c.toNat < 128 then 32 ≤ c.toNat && c.toNat < 127 else !inRanges hiddenRanges c.toNat

/-- A character that can start an identifier: an ASCII letter or an underscore. -/
def isIdentStart (c : Char) : Bool :=
  c.isAlpha || c == '_'

/-- A character that can continue an identifier. -/
def isIdentChar (c : Char) : Bool :=
  c.isAlphanum || c == '_'

/-- The characters without the blanks at both ends. -/
def trim (cs : List Char) : List Char :=
  ((cs.dropWhile isBlank).reverse.dropWhile isBlank).reverse

end SignedDistance.Text
