import SignedDistance.Compiled.Basic
import SignedDistance.Evaluation.Builtin

/-!
# Evaluation

The value of an expression, given a library of primitives and values for names. The recursion is
`Expr.evalWith`, which also takes the answers for the two kinds of leaves that refer to something
else: the coordinate and the literals. A literal is parsed and evaluated where it is met; since
parsing yields neither coordinates nor literals, the answers for these do not matter there.
-/

namespace SignedDistance

/-- The values of names. -/
abbrev Environment (α : Type) := List (String × Value α)

/-- The values of bound names. -/
def Environment.ofBindings {α : Type} (bindings : List (String × Binding α)) :
    Evaluated (Environment α) :=
  bindings.mapM fun (name, binding) => do return (name, ← Value.ofBinding name binding)

section Calls

variable {α : Type} [Scalar α]

/-- A function applied to values. Functions on components come first, then the builtin ones, then
the library. -/
def callFunction (library : Library α) (fn : String) (args : List (Value α)) :
    Evaluated (Value α) :=
  match Componentwise.all.lookup fn with
  | some c => c.call fn args
  | none =>
    match Builtin.all.lookup fn with
    | some builtin =>
      (builtin args).mapError (.failedCall fn)
    | none =>
      match library fn with
      | some primitive =>
        match primitive (args.map (·.data)) with
        | .ok data => .ok (.float data)
        | .error (.argumentCount names given) =>
          .error (.failedCall fn (.parameters fn names given))
        | .error (.shape e) => .error (.shape e)
      | none => .error (.unknownFunction fn)

/-- The value of a number. -/
def numberValue (text : String) : Evaluated (Value α) :=
  match Numeral.parse? text with
  | some n => .ok (.float (.scalar (Scalar.ofNumeral n)))
  | none => .error (.badNumber text)

/-- The value of a name. -/
def Environment.find (env : Environment α) (name : String) : Evaluated (Value α) :=
  match env.lookup name with
  | some v => .ok v
  | none => .error (.unbound name)

end Calls

namespace Expr

variable {α : Type} [Scalar α]

section Recursion

variable (library : Library α) (env : Environment α)
  (here : Evaluated (Value α)) (literal : String → Evaluated (Value α))

mutual

/-- The value of an expression, where `here` is the value of the coordinate and `literal` gives the
values of literals. -/
def evalWith : Expr → Evaluated (Value α)
  | .coord _ => here
  | .lit text => literal text
  | .stray _ => .error .notText
  | .name ident => env.find ident
  | .number text => numberValue text
  | .pending op => .error (.unknownOperator op)
  | .blank => .error .notEvaluable
  | .call fn args => do callFunction library fn (← evalAllWith args)
  | .binary op lhs rhs => do
    let a ← evalWith lhs
    let b ← evalWith rhs
    Value.binary op a b
  | .neg operand => do return (← evalWith operand).negate
  | .swizzle operand fields => do (← evalWith operand).select fields

/-- The values of several expressions. -/
def evalAllWith : List Expr → Evaluated (List (Value α))
  | [] => .ok []
  | e :: es => do
    let v ← evalWith e
    let vs ← evalAllWith es
    return v :: vs

end

end Recursion

variable (library : Library α) (env : Environment α)

/-- The value of an expression without coordinates and literals. -/
def evalParsed (e : Expr) : Evaluated (Value α) :=
  e.evalWith library env (.error .unboundCoordinate) fun _ => .error .notEvaluable

/-- The value of an expression text. -/
def evalText (text : String) : Evaluated (Value α) :=
  match parse text with
  | .ok e => evalParsed library env e
  | .error error => .error (.unparsable text error)

/-- The value of an expression at a coordinate with the given value. -/
def evalAt (here : Evaluated (Value α)) (e : Expr) : Evaluated (Value α) :=
  e.evalWith library env here (evalText library env)

/-- The value of an expression whose coordinates have been substituted. -/
def eval (e : Expr) : Evaluated (Value α) :=
  e.evalAt library env (.error .unboundCoordinate)

end Expr

variable {α : Type} [Scalar α]

/-- The array of a compiled scene's distances at points. -/
def Compiled.evaluate (library : Library α) (c : Compiled) (points : Tensor α)
    (coordinate : String) : Evaluated (Tensor α) := do
  let value ← Value.ofArray coordinate points
  return (← (c.expr.substitute (.name coordinate)).eval library [(coordinate, value)]).data

end SignedDistance
