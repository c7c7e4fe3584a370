import SignedDistance.Evaluation.Value

/-!
# Functions of the shading language

A function that yields a number, as it is written into a shader.
-/

namespace SignedDistance.Shader

/-- A parameter of a function. -/
structure Parameter where
  /-- The kind of values that it takes. -/
  kind : Kind
  /-- The name. -/
  name : String

/-- A function that yields a number. -/
structure Function where
  /-- The name. -/
  name : String
  /-- Whether blanks stand inside the parentheses around the parameters. -/
  padded : Bool := false
  /-- Whether the parameters are marked as input. -/
  marked : Bool := false
  /-- The parameters. -/
  params : List Parameter
  /-- The lines of the body. -/
  body : List String

namespace Function

/-- The parameters with their kinds, separated by commas. -/
def paramText (f : Function) : String :=
  let mark := if f.marked then "in " else ""
  ", ".intercalate (f.params.map fun p => mark ++ p.kind.name ++ " " ++ p.name)

/-- The text of a function. -/
def text (f : Function) : String :=
  let params := if f.padded then " " ++ f.paramText ++ " " else f.paramText
  "float " ++ f.name ++ "(" ++ params ++ ") \x7b\n" ++ "\n".intercalate f.body ++ "\n\x7d\n"

end Function

/-- The texts of some functions, set apart by empty lines. -/
def sourceText (functions : List Function) : String :=
  "\n".intercalate (functions.map Function.text)

end SignedDistance.Shader
