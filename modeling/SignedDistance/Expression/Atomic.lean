import SignedDistance.Text.CharClass

/-!
# Texts that need no parentheses

A text can stand as an operand without parentheses if it is a single name (with selections after
points), a single unsigned number, one call, or one group in parentheses.
-/

namespace SignedDistance

open Text

/-- Names joined by points. The flag says that a name has to start here. -/
def isDottedName : Bool → List Char → Bool
  | true, [] => false
  | true, c :: cs => isIdentStart c && isDottedName false cs
  | false, [] => true
  | false, c :: cs =>
    if c == '.' then isDottedName true cs else isWordChar c && isDottedName false cs

/-- At least one digit, and nothing else. -/
def isDigits (cs : List Char) : Bool :=
  !cs.isEmpty && cs.all isDecimal

/-- Nothing, or an exponent. -/
def isExponentOrEmpty : List Char → Bool
  | [] => true
  | mark :: cs =>
    (mark == 'e' || mark == 'E') &&
      match cs with
      | '+' :: ds => isDigits ds
      | '-' :: ds => isDigits ds
      | ds => isDigits ds

/-- A number without a sign. -/
def isUnsignedNumber (cs : List Char) : Bool :=
  let whole := cs.takeWhile isDecimal
  match cs.dropWhile isDecimal with
  | '.' :: rest =>
    let part := rest.takeWhile isDecimal
    !(whole.isEmpty && part.isEmpty) && isExponentOrEmpty (rest.dropWhile isDecimal)
  | rest => !whole.isEmpty && isExponentOrEmpty rest

/-- Whether the parenthesis that closes the innermost of `depth` open ones, and with it all of them,
is the last character. -/
def closesAtEnd : Nat → List Char → Bool
  | _, [] => false
  | depth, c :: cs =>
    if c == '(' then closesAtEnd (depth + 1) cs
    else if c == ')' then
      if depth ≤ 1 then cs.isEmpty else closesAtEnd (depth - 1) cs
    else closesAtEnd depth cs

/-- One call: a name, and an opening parenthesis that is closed at the end; `none` if the text does
not start like a call. -/
def isCall? : List Char → Option Bool
  | [] => none
  | c :: cs =>
    if isIdentStart c then
      match cs.dropWhile isWordChar with
      | '(' :: rest => some (closesAtEnd 1 rest)
      | _ => none
    else none

/-- Whether a text can be used as an operand without parentheses. -/
def isAtomic (text : String) : Bool :=
  let cs := trim text.toList
  if isDottedName true cs || isUnsignedNumber cs then true
  else
    match isCall? cs with
    | some closes => closes
    | none =>
      match cs with
      | '(' :: rest => closesAtEnd 1 rest
      | _ => false

end SignedDistance
