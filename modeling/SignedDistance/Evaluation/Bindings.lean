import SignedDistance.Evaluation.Basic

/-!
# Evaluation on given data

Expressions evaluated in double precision with the standard primitives, where the values of names
are given as plain data.
-/

namespace SignedDistance

/-- The array of machine numbers that nested lists stand for. -/
def Datum.toFloats (d : Datum) : Evaluated (Tensor Float) :=
  match d.toTensor with
  | .ok t => .ok (t.map Double.toFloat)
  | .error e => .error (.array e)

/-- The values of names given as data. -/
def Environment.ofData (bindings : List (String × Datum)) : Evaluated (Environment Float) :=
  Environment.ofBindings (bindings.map fun (name, d) => (name, .data d.toFloats))

/-- The numbers of an expression. -/
def evaluate (e : Expr) (bindings : List (String × Datum)) : Evaluated (Tensor Float) := do
  return (← e.eval Library.standard (← Environment.ofData bindings)).data

/-- The numbers of an expression text. The text is parsed before the data are looked at. -/
def evaluateText (text : String) (bindings : List (String × Datum)) : Evaluated (Tensor Float) :=
  match parse text with
  | .ok e => evaluate e bindings
  | .error error => .error (.unparsable text error)

/-- The distances of a compiled scene at points given as data. -/
def Compiled.evaluateData (c : Compiled) (points : Datum) (coordinate : String) :
    Evaluated (Tensor Float) := do
  c.evaluate Library.standard (← points.toFloats) coordinate

end SignedDistance
