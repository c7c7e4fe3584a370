import SignedDistance.Text.CharClass

/-!
# Tokens of expression texts

An expression text is cut into names, unsigned numbers and signs, with blanks between them. A point
after an operand always selects components; elsewhere it may start a number. So the scanner keeps
one bit about what it has read: whether the last token ended an operand.
-/

namespace SignedDistance

open Text

/-- A place in a text, counted from one; columns count characters since the last line break. -/
structure Position where
  /-- The line. -/
  line : Nat
  /-- The column. -/
  column : Nat
deriving DecidableEq, Repr

/-- The start of a text. -/
def Position.start : Position := ⟨1, 1⟩

/-- The position after a character. -/
def Position.after (place : Position) (c : Char) : Position :=
  if c = '\n' then ⟨place.line + 1, 1⟩ else ⟨place.line, place.column + 1⟩

/-- A token. -/
inductive Token where
  | name (ident : String)
  | number (text : String)
  | plus
  | minus
  | star
  | slash
  | dot
  | comma
  | opening
  | closing
deriving DecidableEq, Repr

/-- Whether an operand can end with the token. -/
def Token.endsOperand : Token → Bool
  | name _ => true
  | number _ => true
  | closing => true
  | _ => false

namespace Token

/-- The blanks between tokens. -/
def isSpace (c : Char) : Bool :=
  c == ' ' || c == '\t' || c == '\n' || c == '\r' || c == '\x0c'

/-- The digits at the front of a text. -/
def digits (cs : List Char) : List Char :=
  cs.takeWhile Char.isDigit

/-- The digits and the point of a number at the front of a text; empty if there is none. -/
def mantissa (cs : List Char) : List Char :=
  let whole := digits cs
  match cs.drop whole.length with
  | '.' :: rest =>
    let part := digits rest
    if whole.isEmpty && part.isEmpty then [] else whole ++ '.' :: part
  | _ => whole

/-- An exponent at the front of a text; empty if there is none. -/
def exponent : List Char → List Char
  | [] => []
  | mark :: cs =>
    if mark == 'e' || mark == 'E' then
      match cs with
      | [] => []
      | c :: rest =>
        if c == '+' || c == '-' then
          if (digits rest).isEmpty then [] else mark :: c :: digits rest
        else if (digits cs).isEmpty then [] else mark :: digits cs
    else []

/-- The longest number at the front of a text; empty if there is none. -/
def numeral (cs : List Char) : List Char :=
  let m := mantissa cs
  if m.isEmpty then [] else m ++ exponent (cs.drop m.length)

/-- The token for a single sign. -/
def ofSign? (c : Char) : Option Token :=
  if c == '+' then some plus
  else if c == '-' then some minus
  else if c == '*' then some star
  else if c == '/' then some slash
  else if c == '.' then some dot
  else if c == ',' then some comma
  else if c == '(' then some opening
  else if c == ')' then some closing
  else none

/-- The token at the front of the text `c :: cs` and the number of its characters beyond the first.
The flag says that an operand has just ended, so that a point does not start a number. -/
def next? (afterOperand : Bool) (c : Char) (cs : List Char) : Option (Token × Nat) :=
  if isIdentStart c then
    let tail := cs.takeWhile isIdentChar
    some (name (String.ofList (c :: tail)), tail.length)
  else
    let number := if afterOperand && c == '.' then [] else numeral (c :: cs)
    if number.isEmpty then (ofSign? c).map fun token => (token, 0)
    else some (.number (String.ofList number), number.length - 1)

end Token

/-- A scanned text: its tokens with their places, and the place of a character that starts no token,
if the scanner met one. -/
structure Scanned where
  /-- The tokens, each with the place of its first character. -/
  tokens : List (Token × Position)
  /-- Where the scanner stopped, if not at the end. -/
  stuck : Option Position

/-- The tokens of a text that starts at the given place. -/
def scan (afterOperand : Bool) (place : Position) (cs : List Char) : Scanned :=
  match cs with
  | [] => ⟨[], none⟩
  | c :: cs =>
    if Token.isSpace c then
      scan afterOperand (place.after c) cs
    else
      match Token.next? afterOperand c cs with
      | none => ⟨[], some place⟩
      | some (token, extra) =>
        let rest := scan token.endsOperand ⟨place.line, place.column + extra + 1⟩ (cs.drop extra)
        ⟨(token, place) :: rest.tokens, rest.stuck⟩
termination_by cs.length
decreasing_by
  all_goals simp only [List.length_cons, List.length_drop]; omega

end SignedDistance
