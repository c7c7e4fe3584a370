import SignedDistance.Text.CharClass

/-!
# Quoted text

The form in which messages show a text: between quotes, with escapes for the characters that would
not be visible. A single quote is used unless the text itself has one and no double quote.
-/

namespace SignedDistance.Text

/-- The digits of `n` in lower-case hexadecimal, padded with zeros to `width`. -/
def hexPadded (width n : Nat) : List Char :=
  let digits := Nat.toDigits 16 n
  List.replicate (width - digits.length) '0' ++ digits

/-- One character of a quoted text, where `quote` is the quote around it. -/
def quoteChar (quote c : Char) : List Char :=
  if c == quote || c == '\\' then ['\\', c]
  else if c == '\n' then ['\\', 'n']
  else if c == '\r' then ['\\', 'r']
  else if c == '\t' then ['\\', 't']
  else if isShown c then [c]
  else if c.toNat < 0x100 then '\\' :: 'x' :: hexPadded 2 c.toNat
  else if c.toNat < 0x10000 then '\\' :: 'u' :: hexPadded 4 c.toNat
  else '\\' :: 'U' :: hexPadded 8 c.toNat

/-- The quote chosen for a text. -/
def quoteOf (cs : List Char) : Char :=
  if cs.contains '\'' && !cs.contains '"' then '"' else '\''

/-- The text between quotes, with escapes. -/
def quoted (text : String) : String :=
  let cs := text.toList
  let quote := quoteOf cs
  String.ofList (quote :: cs.flatMap (quoteChar quote) ++ [quote])

end SignedDistance.Text
