import SignedDistance.Scene.Shown

/-!
# Distance expressions

The expressions that scenes are compiled to and that expression texts are read as. A coordinate
stands for the point at which the distance is asked; transforms substitute another expression for
it. Literals are texts taken over as they are.
-/

namespace SignedDistance

open Text

/-- The operators written between their operands. -/
inductive Operator where
  | add
  | sub
  | mul
  | div
  /-- Any other symbol; it binds like an addition and has no meaning. -/
  | other (symbol : String)
deriving DecidableEq, Repr

namespace Operator

/-- The symbol of an operator. -/
def symbol : Operator → String
  | add => "+"
  | sub => "-"
  | mul => "*"
  | div => "/"
  | other s => s

/-- The operator with a symbol. -/
def ofSymbol (s : String) : Operator :=
  if s = "+" then add
  else if s = "-" then sub
  else if s = "*" then mul
  else if s = "/" then div
  else other s

end Operator

/-- A distance expression. -/
inductive Expr where
  /-- The point at which the distance is asked. -/
  | coord (label : String)
  /-- Text taken over as it is. -/
  | lit (text : String)
  /-- A value that stands where text should; it can neither be rendered nor evaluated. -/
  | stray (value : Datum)
  /-- A variable. -/
  | name (ident : String)
  /-- An unsigned number. -/
  | number (text : String)
  /-- The place of an operator that is not known. -/
  | pending (op : String)
  /-- An expression without content. -/
  | blank
  /-- A function applied to arguments. -/
  | call (fn : String) (args : List Expr)
  /-- An operator between two operands. -/
  | binary (op : Operator) (lhs rhs : Expr)
  /-- Unary minus. -/
  | neg (operand : Expr)
  /-- A selection of components. -/
  | swizzle (operand : Expr) (fields : String)

namespace Expr

instance : Inhabited Expr := ⟨.blank⟩

instance : Add Expr := ⟨.binary .add⟩

instance : Sub Expr := ⟨.binary .sub⟩

instance : Mul Expr := ⟨.binary .mul⟩

instance : Div Expr := ⟨.binary .div⟩

instance : Neg Expr := ⟨.neg⟩

/-- The coordinate, with its usual label. -/
def here : Expr :=
  .coord "x"

/-! ## Substitution -/

mutual

/-- The expression with `point` in place of every coordinate. -/
def substitute (e point : Expr) : Expr :=
  match e with
  | .coord _ => point
  | .call fn args => .call fn (substituteAll args point)
  | .binary op lhs rhs => .binary op (lhs.substitute point) (rhs.substitute point)
  | .neg operand => .neg (operand.substitute point)
  | .swizzle operand fields => .swizzle (operand.substitute point) fields
  | e => e

/-- Substitution in each of several expressions. -/
def substituteAll (es : List Expr) (point : Expr) : List Expr :=
  match es with
  | [] => []
  | e :: es => e.substitute point :: substituteAll es point

end

/-! ## Walking -/

mutual

/-- An expression and everything below it, parents first and operands in order. -/
def walk : Expr → List Expr
  | .call fn args => .call fn args :: walkAll args
  | .binary op lhs rhs => .binary op lhs rhs :: (walk lhs ++ walk rhs)
  | .neg operand => .neg operand :: walk operand
  | .swizzle operand fields => .swizzle operand fields :: walk operand
  | e => [e]

/-- Several expressions and everything below them. -/
def walkAll : List Expr → List Expr
  | [] => []
  | e :: es => walk e ++ walkAll es

end

/-! ## Showing -/

mutual

/-- The text that shows the structure of an expression. -/
def shown? : Expr → Option String
  | .coord label => some ("Coord(label=" ++ quoted label ++ ")")
  | .lit text => some ("Lit(text=" ++ quoted text ++ ")")
  | .stray value => do return "Lit(text=" ++ (← value.shown?) ++ ")"
  | .name ident => some ("Name(ident=" ++ quoted ident ++ ")")
  | .number text => some ("Number(text=" ++ quoted text ++ ")")
  | .pending op => some ("Pending(name=" ++ quoted op ++ ")")
  | .blank => some "Expr()"
  | .call fn args => do
    let items ← shownAll? args
    return "Call(name=" ++ quoted fn ++ ", args=" ++ shownTuple items ++ ")"
  | .binary op lhs rhs => do
    let left ← shown? lhs
    let right ← shown? rhs
    return "BinOp(op=" ++ quoted op.symbol ++ ", lhs=" ++ left ++ ", rhs=" ++ right ++ ")"
  | .neg operand => do return "Neg(operand=" ++ (← shown? operand) ++ ")"
  | .swizzle operand fields => do
    return "Swizzle(operand=" ++ (← shown? operand) ++ ", fields=" ++ quoted fields ++ ")"

/-- The texts that show several expressions. -/
def shownAll? : List Expr → Option (List String)
  | [] => some []
  | e :: es => do return (← shown? e) :: (← shownAll? es)

end

end Expr

/-- The value cannot be used as an expression. -/
inductive NotExpression where
  /-- The value, as it is shown. -/
  | value (got : String)
  /-- The value cannot be shown either. -/
  | unshown

/-- The wording of the refusal. -/
def NotExpression.message : NotExpression → String
  | value got => "cannot use " ++ got ++ " as a shader expression"
  | unshown => unshownMessage

/-- The refusal of a value. -/
def NotExpression.about (d : Datum) : NotExpression :=
  match d.shown? with
  | some got => .value got
  | none => .unshown

/-- A text as a literal; nothing else is an expression. -/
def Datum.toExpr : Datum → Except NotExpression Expr
  | .text s => .ok (.lit s)
  | d => .error (.about d)

end SignedDistance
