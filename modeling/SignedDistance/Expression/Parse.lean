import SignedDistance.Expression.Basic
import SignedDistance.Expression.Token

/-!
# Parsing expressions

The grammar is

    sum     = product | sum "+" product | sum "-" product
    product = unary | product "*" unary | product "/" unary
    unary   = postfix | "-" unary | "+" unary
    postfix = primary | postfix "." name
    primary = number | name | name "(" ")" | name "(" sum ("," sum)* ")" | "(" sum ")"

and a text is parsed by a machine that takes one token at a time. Between two brackets the machine
holds at most one unfinished sum, one unfinished product and some minus signs (`Pending`); around
that, the brackets that are still open. A token that the machine refuses is the first one with which
no sentence goes on, because every state it reaches can still be completed.
-/

namespace SignedDistance

/-- The unfinished operations between two brackets, from the loosest to the tightest. -/
structure Pending where
  /-- A sum or difference that waits for its right operand. -/
  sum : Option (Operator × Expr) := none
  /-- A product or quotient that waits for its right operand. -/
  product : Option (Operator × Expr) := none
  /-- The number of minus signs that wait for their operand. -/
  minuses : Nat := 0

namespace Pending

/-- An operation that waits for a right operand, given that operand. -/
def apply (waiting : Option (Operator × Expr)) (e : Expr) : Expr :=
  match waiting with
  | none => e
  | some (op, lhs) => .binary op lhs e

/-- An operand under some minus signs. -/
def negate : Nat → Expr → Expr
  | 0, e => e
  | n + 1, e => negate n (.neg e)

/-- The product that ends with an operand. -/
def closeProduct (p : Pending) (e : Expr) : Expr :=
  apply p.product (negate p.minuses e)

/-- The sum that ends with an operand. -/
def closeSum (p : Pending) (e : Expr) : Expr :=
  apply p.sum (p.closeProduct e)

end Pending

/-- An open bracket, with what was unfinished outside of it. -/
inductive Bracket where
  /-- A parenthesis around an operand. -/
  | group (outer : Pending)
  /-- The parenthesis of a call, with the arguments that are complete. -/
  | call (fn : String) (args : List Expr) (outer : Pending)

/-- What the machine has just read. -/
inductive Focus where
  /-- An operand has to follow; after the opening parenthesis of a call it may also be closed. -/
  | wanted (closable : Bool)
  /-- An operand. -/
  | operand (e : Expr)
  /-- A name, which is an operand or the name of a call. -/
  | ident (name : String)
  /-- A point after an operand; a name has to follow. -/
  | point (e : Expr)

/-- A state of the machine. -/
structure ParseState where
  /-- The open brackets, innermost first. -/
  brackets : List Bracket
  /-- The unfinished operations inside the innermost bracket. -/
  pending : Pending
  /-- What was read last. -/
  focus : Focus

namespace ParseState

/-- The state before the first token. -/
def init : ParseState :=
  ⟨[], {}, .wanted false⟩

/-- The operand that was just read, if there is one. -/
def operand? (s : ParseState) : Option Expr :=
  match s.focus with
  | .operand e => some e
  | .ident name => some (.name name)
  | _ => none

/-- A token where an operand has to follow. -/
def stepWanted (s : ParseState) (closable : Bool) : Token → Option ParseState
  | .name ident => some { s with focus := .ident ident }
  | .number text => some { s with focus := .operand (.number text) }
  | .plus => some { s with focus := .wanted false }
  | .minus =>
    some { s with
      pending := { s.pending with minuses := s.pending.minuses + 1 }, focus := .wanted false }
  | .opening => some ⟨.group s.pending :: s.brackets, {}, .wanted false⟩
  | .closing =>
    match closable, s.brackets with
    | true, .call fn args outer :: rest => some ⟨rest, outer, .operand (.call fn args)⟩
    | _, _ => none
  | _ => none

/-- A token after the operand `e`. -/
def stepOperand (s : ParseState) (e : Expr) : Token → Option ParseState
  | .plus =>
    some { s with
      pending := { sum := some (.add, s.pending.closeSum e) }, focus := .wanted false }
  | .minus =>
    some { s with
      pending := { sum := some (.sub, s.pending.closeSum e) }, focus := .wanted false }
  | .star =>
    some { s with
      pending := { sum := s.pending.sum, product := some (.mul, s.pending.closeProduct e) },
      focus := .wanted false }
  | .slash =>
    some { s with
      pending := { sum := s.pending.sum, product := some (.div, s.pending.closeProduct e) },
      focus := .wanted false }
  | .dot => some { s with focus := .point e }
  | .comma =>
    match s.brackets with
    | .call fn args outer :: rest =>
      some ⟨.call fn (args ++ [s.pending.closeSum e]) outer :: rest, {}, .wanted false⟩
    | _ => none
  | .closing =>
    match s.brackets with
    | .group outer :: rest => some ⟨rest, outer, .operand (s.pending.closeSum e)⟩
    | .call fn args outer :: rest =>
      some ⟨rest, outer, .operand (.call fn (args ++ [s.pending.closeSum e]))⟩
    | [] => none
  | _ => none

/-- The state after one more token, `none` if no sentence goes on with it. -/
def step (s : ParseState) (token : Token) : Option ParseState :=
  match s.focus with
  | .wanted closable => s.stepWanted closable token
  | .operand e => s.stepOperand e token
  | .ident name =>
    if token = .opening then some ⟨.call name [] s.pending :: s.brackets, {}, .wanted true⟩
    else s.stepOperand (.name name) token
  | .point e =>
    match token with
    | .name fields => some { s with focus := .operand (.swizzle e fields) }
    | _ => none

/-- The expression that was read, if the tokens so far are a sentence. -/
def finish? (s : ParseState) : Option Expr :=
  match s.brackets, s.operand? with
  | [], some e => some (s.pending.closeSum e)
  | _, _ => none

end ParseState

/-- Why an expression text is refused: a token or a character that no sentence goes on with. At the
end of a text that is not complete, the place is that of its last token. -/
inductive ParseError where
  /-- A token that cannot follow, or an incomplete text. -/
  | unexpectedToken (place : Position)
  /-- A character that starts no token. -/
  | unexpectedCharacter (place : Position)
deriving DecidableEq, Repr

/-- Runs the machine over tokens, where `last` is the place of the token before them. -/
def ParseState.run (s : ParseState) (last : Position) :
    List (Token × Position) → Except ParseError (ParseState × Position)
  | [] => .ok (s, last)
  | (token, place) :: rest =>
    match s.step token with
    | none => .error (.unexpectedToken place)
    | some s => s.run place rest

/-- The expression of a text. -/
def parse (text : String) : Except ParseError Expr := do
  let scanned := scan false .start text.toList
  let (s, last) ← ParseState.init.run .start scanned.tokens
  match scanned.stuck, s.finish? with
  | some place, _ => throw (.unexpectedCharacter place)
  | none, some e => return e
  | none, none => throw (.unexpectedToken last)

end SignedDistance
