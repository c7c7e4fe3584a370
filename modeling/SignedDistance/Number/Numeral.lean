import SignedDistance.Text.CharClass
import SignedDistance.Number.Double

/-!
# Numerals

Numbers as they are written in text: decimal digits of any script, with an optional sign, point and
exponent, single underscores between digits, and the words for infinity and not-a-number. Reading is
exact: a numeral keeps its digits, and only `Numeral.toDouble` rounds.
-/

namespace SignedDistance

open Text

/-- A number as written. -/
inductive Numeral where
  /-- The number `± digits * 10 ^ exponent`. -/
  | decimal (negative : Bool) (digits : Nat) (exponent : Int)
  /-- An infinity. -/
  | infinite (negative : Bool)
  /-- Not a number. -/
  | nan
deriving DecidableEq, Repr

namespace Numeral

/-- Whether the text goes on with a digit. -/
def startsWithDigit : List Char → Bool
  | c :: _ => isDecimal c
  | [] => false

/-- The digits at the front of a text, and the rest. One underscore may stand between two digits. -/
def digitRun : List Char → List Nat × List Char
  | [] => ([], [])
  | c :: cs =>
    match digitValue? c with
    | none => ([], c :: cs)
    | some d =>
      match cs with
      | '_' :: rest =>
        if startsWithDigit rest then
          let (ds, rest) := digitRun rest
          (d :: ds, rest)
        else ([d], cs)
      | cs =>
        let (ds, rest) := digitRun cs
        (d :: ds, rest)

/-- The number that a list of decimal digits stands for. -/
def ofDigits (ds : List Nat) : Nat :=
  ds.foldl (fun n d => 10 * n + d) 0

/-- The sign at the front of a text, and the rest. -/
def sign : List Char → Bool × List Char
  | '-' :: cs => (true, cs)
  | '+' :: cs => (false, cs)
  | cs => (false, cs)

/-- The exponent that makes up a whole text: nothing, or a mark, a sign and digits. -/
def exponent? : List Char → Option Int
  | [] => some 0
  | c :: cs =>
    if c == 'e' || c == 'E' then
      let (negative, cs) := sign cs
      match digitRun cs with
      | (d :: ds, []) =>
        let n : Int := ofDigits (d :: ds)
        some (if negative then -n else n)
      | _ => none
    else none

/-- The digits after a point, if there is one, and the rest. -/
def fraction : List Char → List Nat × List Char
  | '.' :: cs => digitRun cs
  | cs => ([], cs)

/-- An unsigned number: digits, of which there must be some before or after the point, and an
exponent. -/
def unsigned? (negative : Bool) (cs : List Char) : Option Numeral :=
  let (whole, cs) := digitRun cs
  let (part, cs) := fraction cs
  if whole.isEmpty && part.isEmpty then none
  else
    (exponent? cs).map fun e => .decimal negative (ofDigits (whole ++ part)) (e - part.length)

/-- The blanks that may stand around a numeral: all but the separators among the control
characters. -/
def isMargin (c : Char) : Bool :=
  isBlank c && !inRanges [(28, 31)] c.toNat

/-- The characters without the blanks that may stand around a numeral. -/
def withoutMargins (cs : List Char) : List Char :=
  ((cs.dropWhile isMargin).reverse.dropWhile isMargin).reverse

/-- The numeral that makes up a whole text, blanks at both ends apart. -/
def parse? (text : String) : Option Numeral :=
  let (negative, cs) := sign (withoutMargins text.toList)
  let word := String.ofList (cs.map Char.toLower)
  if word == "inf" || word == "infinity" then some (.infinite negative)
  else if word == "nan" then some .nan
  else unsigned? negative cs

/-- The double nearest to a numeral. -/
def toDouble : Numeral → Double
  | decimal negative digits exponent => Double.ofDecimal negative digits exponent
  | infinite negative => Double.infinity negative
  | nan => Double.nan

/-- The greatest number of digits of an integer, leading zeros included. -/
def maxIntegerDigits : Nat := 4300

/-- The integer that makes up a whole text, blanks at both ends apart. It may not have too many
digits. -/
def integer? (text : String) : Option Int :=
  let (negative, cs) := sign (withoutMargins text.toList)
  match digitRun cs with
  | (d :: ds, []) =>
    if (d :: ds).length ≤ maxIntegerDigits then
      let n : Int := ofDigits (d :: ds)
      some (if negative then -n else n)
    else none
  | _ => none

/-- The text of an integer, unless it has too many digits. -/
def integerText? (n : Int) : Option String :=
  if n.natAbs < pow10 maxIntegerDigits then some (toString n) else none

end Numeral

/-- The double that a text denotes, if it is a numeral. -/
def Double.parse? (text : String) : Option Double :=
  (Numeral.parse? text).map Numeral.toDouble

end SignedDistance
