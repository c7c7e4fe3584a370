/-!
# Templates

A note on an option is a template: a percent sign starts a placeholder, which is filled when the
note is shown. A placeholder consists of a name in parentheses, flags, a width, a precision, a
letter for the size and a letter that says how the value is written; all but the last may be
missing. Without a name it takes the value at hand, which is everything known about the option until
a name is met, and which can be taken once. Two percent signs stand for one.

Whether all placeholders of a template can be filled is found out from left to right, one character
at a time.
-/

namespace SignedDistance.CommandLine

/-- A value that a placeholder can be filled with. -/
inductive Filler where
  /-- Something that can only be shown. -/
  | shown
  /-- A truth value, which counts as a number. -/
  | truth
deriving DecidableEq, Repr

/-- Why a template cannot be filled. -/
inductive TemplateFault where
  /-- A placeholder is not well formed. -/
  | malformed
  /-- No value has the name. -/
  | noSuchName (name : String)
  /-- There is no value at hand, or none that can be written in the demanded way. -/
  | noSuchValue
deriving DecidableEq, Repr

/-- The part of a template in which the next character stands. -/
inductive Stage where
  /-- Outside of placeholders. -/
  | text
  /-- Right after the percent sign. -/
  | start
  /-- In a name, within so many parentheses; its characters come last first. -/
  | name (depth : Nat) (chars : List Char)
  /-- Among the flags. -/
  | flags
  /-- In the digits of a width. -/
  | width (n : Nat)
  /-- After a width. -/
  | afterWidth
  /-- Right after the point of a precision. -/
  | point
  /-- In the digits of a precision. -/
  | precision (n : Nat)
  /-- After a precision. -/
  | afterPrecision
  /-- After the letter for the size. -/
  | size
deriving DecidableEq, Repr

/-- How far a template has been looked at. -/
structure Filling where
  /-- The part in which the next character stands. -/
  stage : Stage
  /-- The value at hand. -/
  hand : Option Filler
deriving DecidableEq, Repr

namespace Filling

/-- The letters for which any value can be written. -/
def showing : List Char := ['s', 'r', 'a']

/-- The letters for which a number can be written. -/
def counting : List Char :=
  ['d', 'i', 'u', 'o', 'x', 'X', 'e', 'E', 'f', 'F', 'g', 'G', 'c']

/-- The greatest width. -/
def maxWidth : Nat := 0x7fffffffffffffff

/-- The greatest precision. -/
def maxPrecision : Nat := 0x7fffffff

/-- The end of a placeholder: a letter that takes the value at hand. -/
def finish (hand : Option Filler) (c : Char) : Except TemplateFault Filling :=
  match hand with
  | none => .error .noSuchValue
  | some filler =>
    if showing.contains c then .ok ⟨.text, none⟩
    else if counting.contains c then
      if filler = .truth then .ok ⟨.text, none⟩ else .error .noSuchValue
    else .error .malformed

/-- The number at hand, which an asterisk takes as a width or a precision. -/
def takeNumber (hand : Option Filler) (next : Stage) : Except TemplateFault Filling :=
  if hand = some .truth then .ok ⟨next, none⟩ else .error .noSuchValue

/-- One more digit of a number that may not be greater than `bound`. -/
def addDigit (bound n : Nat) (c : Char) (next : Nat → Stage) (hand : Option Filler) :
    Except TemplateFault Filling :=
  let n := 10 * n + (c.toNat - '0'.toNat)
  if bound < n then .error .malformed else .ok ⟨next n, hand⟩

/-- A letter for the size, or the end. -/
def sizeOrEnd (hand : Option Filler) (c : Char) : Except TemplateFault Filling :=
  if c = 'h' ∨ c = 'l' ∨ c = 'L' then .ok ⟨.size, hand⟩ else finish hand c

/-- A precision, or what may follow it. -/
def precisionOrLater (hand : Option Filler) (c : Char) : Except TemplateFault Filling :=
  if c = '.' then .ok ⟨.point, hand⟩ else sizeOrEnd hand c

/-- A flag, or what may follow the flags. -/
def flagOrLater (hand : Option Filler) (c : Char) : Except TemplateFault Filling :=
  if ['-', '+', ' ', '#', '0'].contains c then .ok ⟨.flags, hand⟩
  else if c = '*' then takeNumber hand .afterWidth
  else if c.isDigit then addDigit maxWidth 0 c .width hand
  else precisionOrLater hand c

/-- One more character of a name; after the last parenthesis its value is at hand. -/
def nameOrLater (value? : String → Option Filler) (hand : Option Filler) (depth : Nat)
    (chars : List Char) (c : Char) : Except TemplateFault Filling :=
  if c = ')' ∧ depth ≤ 1 then
    let name := String.ofList chars.reverse
    match value? name with
    | some filler => .ok ⟨.flags, some filler⟩
    | none => .error (.noSuchName name)
  else
    let depth := if c = ')' then depth - 1 else if c = '(' then depth + 1 else depth
    .ok ⟨.name depth (c :: chars), hand⟩

/-- One more character of a template. -/
def step (value? : String → Option Filler) (s : Filling) (c : Char) :
    Except TemplateFault Filling :=
  match s.stage with
  | .text => .ok (if c = '%' then ⟨.start, s.hand⟩ else s)
  | .start =>
    if c = '%' then .ok ⟨.text, s.hand⟩
    else if c = '(' then .ok ⟨.name 1 [], s.hand⟩
    else flagOrLater s.hand c
  | .name depth chars => nameOrLater value? s.hand depth chars c
  | .flags => flagOrLater s.hand c
  | .width n => if c.isDigit then addDigit maxWidth n c .width s.hand else precisionOrLater s.hand c
  | .afterWidth => precisionOrLater s.hand c
  | .point =>
    if c = '*' then takeNumber s.hand .afterPrecision
    else if c.isDigit then addDigit maxPrecision 0 c .precision s.hand
    else sizeOrEnd s.hand c
  | .precision n =>
    if c.isDigit then addDigit maxPrecision n c .precision s.hand else sizeOrEnd s.hand c
  | .afterPrecision => sizeOrEnd s.hand c
  | .size => finish s.hand c

end Filling

/-- Why a template cannot be filled with the given values, if it cannot. -/
def checkTemplate (value? : String → Option Filler) (template : String) :
    Except TemplateFault Unit := do
  let s ← template.toList.foldlM (Filling.step value?) ⟨.text, some .shown⟩
  if s.stage = .text then return () else throw .malformed

/-- What the placeholders of a note on an option with a value can name. -/
def noteValue? (name : String) : Option Filler :=
  if name = "required" then some .truth
  else if ["option_strings", "dest", "nargs", "const", "default", "type", "choices", "help",
      "metavar", "container", "prog"].contains name then some .shown
  else none

end SignedDistance.CommandLine
