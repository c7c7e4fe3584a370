import SignedDistance.Expression.Atomic
import SignedDistance.Expression.Basic

/-!
# Rendering expressions

An expression is rendered as text with parentheses only around operands that bind less tightly than
their place asks for. Binary operators group to the left, so a right operand must bind strictly more
tightly than the operator; so must the operand of a minus, which keeps two minus signs apart.
-/

namespace SignedDistance

open Text

/-- How tightly a form of expression binds. -/
abbrev Precedence := Nat

namespace Precedence

/-- Text of unknown structure. -/
def lowest : Precedence := 0

/-- Sums and differences. -/
def additive : Precedence := 10

/-- Products and quotients. -/
def multiplicative : Precedence := 20

/-- Unary minus. -/
def unary : Precedence := 30

/-- Selection of components. -/
def postfixed : Precedence := 40

/-- Names, numbers, calls and groups. -/
def atom : Precedence := 50

end Precedence

/-- Why an expression cannot be rendered. -/
inductive RenderError where
  /-- It contains an operator that is not known. -/
  | unknownOperator (name : String)
  /-- It contains an expression without content. -/
  | blank
  /-- It contains a value that is not text. -/
  | notText

/-- The wording for an operator that is not known. -/
def unknownOperatorMessage (name : String) : String :=
  "unknown operator " ++ quoted name

/-- The wording of a render error. -/
def RenderError.message : RenderError → String
  | unknownOperator name => unknownOperatorMessage name
  | blank => "an expression without content has no text"
  | notText => "not a text"

/-- How tightly an operator binds. -/
def Operator.precedence : Operator → Precedence
  | .mul => .multiplicative
  | .div => .multiplicative
  | _ => .additive

namespace Expr

/-- How tightly an expression binds. -/
def precedence : Expr → Precedence
  | .lit text => if isAtomic text then .atom else .lowest
  | .stray _ => .lowest
  | .binary op _ _ => op.precedence
  | .neg _ => .unary
  | .swizzle _ _ => .postfixed
  | _ => .atom

/-- The rendered text of an operand, in parentheses if it binds less tightly than `least`. -/
def asOperand (e : Expr) (least : Precedence) (text : String) : String :=
  if e.precedence < least then "(" ++ text ++ ")" else text

mutual

/-- The text of an expression. -/
def render : Expr → Except RenderError String
  | .coord label => .ok label
  | .lit text => .ok text
  | .stray _ => .error .notText
  | .name ident => .ok ident
  | .number text => .ok text
  | .pending op => .error (.unknownOperator op)
  | .blank => .error .blank
  | .call fn args => do
    let texts ← renderAll args
    return fn ++ "(" ++ ", ".intercalate texts ++ ")"
  | .binary op lhs rhs => do
    let l ← render lhs
    let r ← render rhs
    return lhs.asOperand op.precedence l ++ " " ++ op.symbol ++ " "
      ++ rhs.asOperand (op.precedence + 1) r
  | .neg operand => do
    let text ← render operand
    return "-" ++ operand.asOperand (.unary + 1) text
  | .swizzle operand fields => do
    let text ← render operand
    return operand.asOperand .postfixed text ++ "." ++ fields

/-- The texts of several expressions. -/
def renderAll : List Expr → Except RenderError (List String)
  | [] => .ok []
  | e :: es => do
    let text ← render e
    let texts ← renderAll es
    return text :: texts

end

end Expr

end SignedDistance
