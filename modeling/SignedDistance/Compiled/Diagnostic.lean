import SignedDistance.Scene.Error

/-!
# Diagnostics

While it works through a scene the compiler reports each operator with its place: the known ones
when their expression is made, the unknown ones when they are met.
-/

namespace SignedDistance

open Text

/-- How important a message is. -/
inductive Level where
  | debug
  | info
  | warning
  | error
  | critical
deriving DecidableEq, Repr

/-- The name of a level. -/
def Level.name : Level → String
  | debug => "DEBUG"
  | info => "INFO"
  | warning => "WARNING"
  | error => "ERROR"
  | critical => "CRITICAL"

/-- The rank of a level; more important levels have greater ranks. -/
def Level.rank : Level → Nat
  | debug => 10
  | info => 20
  | warning => 30
  | error => 40
  | critical => 50

/-- A report of the compiler. -/
inductive Diagnostic where
  /-- An operator was compiled. -/
  | applied (keyword : String) (path : Path)
  /-- An operator is not known. -/
  | unknownOperator (name : String) (path : Path)
deriving DecidableEq, Repr

namespace Diagnostic

/-- The level of a report. -/
def level : Diagnostic → Level
  | applied .. => .debug
  | unknownOperator .. => .warning

/-- The wording of a report. -/
def message : Diagnostic → String
  | applied keyword path => keyword ++ " at " ++ path.text
  | unknownOperator name path =>
    "unknown operator " ++ quoted name ++ " at " ++ path.text ++ "; output is not renderable"

end Diagnostic

end SignedDistance
