import SignedDistance.Expression.Parse
import SignedDistance.Expression.Render
import SignedDistance.Primitive.Library
import SignedDistance.Tensor.OfDatum

/-!
# Values of expressions

An expression is evaluated at many points at once. A value has a kind (a number, a vector, a matrix)
and an array with one entry, vector or matrix per point: the components of a vector are along the
innermost axis, and so are the columns of a matrix, whose rows are along the next axis.
-/

namespace SignedDistance

open Text

/-- The kinds of values. -/
inductive Kind where
  /-- A number. -/
  | float
  /-- A vector with the given number of components. -/
  | vec (size : Nat)
  /-- A matrix with two rows and columns. -/
  | mat2
deriving DecidableEq, Repr

/-- The name of a kind. -/
def Kind.name : Kind → String
  | float => "float"
  | vec size => "vec" ++ toString size
  | mat2 => "mat2"

/-- The number of components of a vector kind, zero for the other kinds. -/
def Kind.size : Kind → Nat
  | vec size => size
  | _ => 0

/-- A value of an expression. -/
structure Value (α : Type) where
  /-- The kind. -/
  kind : Kind
  /-- The numbers. -/
  data : Tensor α

/-- Why a function cannot be called with some arguments. -/
inductive CallFault where
  /-- There are too few arguments. -/
  | tooFew (expected given : Nat)
  /-- There are too many arguments. -/
  | tooMany (expected : Nat)
  /-- The arguments have kinds for which the function is not defined. -/
  | kinds (fn : String) (kinds : List Kind)
  /-- A constructor of vectors does not take parts of such a kind. -/
  | badPart (size : Nat) (kind : Kind)
  /-- A constructor of vectors has not got the right number of components. -/
  | componentCount (size given : Nat)
  /-- A matrix has no inverse. -/
  | singular
  /-- Shapes do not fit together. -/
  | shape (error : ShapeError)
  /-- A primitive with the given parameters has the wrong number of arguments. -/
  | parameters (fn : String) (names : List String) (given : Nat)
deriving DecidableEq, Repr

/-- Why an expression has no value. -/
inductive EvalError where
  /-- A text is not an expression. -/
  | unparsable (text : String) (error : ParseError)
  /-- A name has no value. -/
  | unbound (name : String)
  /-- A function is not known. -/
  | unknownFunction (name : String)
  /-- A selection has a letter that names no component. -/
  | invalidSwizzle (fields : String)
  /-- A value does not have the selected components. -/
  | badSwizzle (kind : Kind) (fields : String)
  /-- A selection selects nothing. -/
  | emptySwizzle
  /-- A function that works on each component has the wrong number of arguments. -/
  | wrongArity (fn : String) (arity given : Nat)
  /-- A matrix where only numbers and vectors are combined. -/
  | matrixComponent
  /-- Vectors of different sizes are combined. -/
  | mismatchedSizes (sizes : List Nat)
  /-- A bound array is neither a number nor holds vectors. -/
  | badBinding (name : String)
  /-- An array cannot be made from data. -/
  | array (error : ArrayError)
  /-- The coordinate has no value. -/
  | unboundCoordinate
  /-- An expression without content has no value. -/
  | notEvaluable
  /-- A call cannot be made with its arguments. -/
  | failedCall (fn : String) (fault : CallFault)
  /-- An operator of the scene is not known. -/
  | unknownOperator (name : String)
  /-- A number is not a numeral. -/
  | badNumber (text : String)
  /-- Shapes do not fit together. -/
  | shape (error : ShapeError)
  /-- An operator between operands has no meaning. -/
  | noSuchOperator (symbol : String)
  /-- A value stands where text should. -/
  | notText
deriving DecidableEq, Repr

/-- A list of numbers as it is shown. -/
def shownNats (ns : List Nat) : String :=
  "[" ++ ", ".intercalate (ns.map toString) ++ "]"

/-- Quoted names in a row, the last one after the word "and". -/
def quotedRow : List String → String
  | [] => ""
  | [a] => quoted a
  | [a, b] => quoted a ++ " and " ++ quoted b
  | a :: rest => quoted a ++ ", " ++ row rest
where
  /-- The names after the first of three or more. -/
  row : List String → String
    | [] => ""
    | [a] => "and " ++ quoted a
    | a :: rest => quoted a ++ ", " ++ row rest

/-- A number of things, with the word for them in the singular or the plural. -/
def counted (n : Nat) (word : String) : String :=
  toString n ++ " " ++ word ++ (if n = 1 then "" else "s")

/-- The wording of a wrong number of arguments of a primitive with the given parameters. -/
def parametersMessage (fn : String) (names : List String) (given : Nat) : String :=
  if given < names.length then
    let missing := names.drop given
    fn ++ "() missing " ++ counted missing.length "required positional argument" ++ ": "
      ++ quotedRow missing
  else
    fn ++ "() takes " ++ counted names.length "positional argument" ++ " but " ++ toString given
      ++ (if given = 1 then " was given" else " were given")

/-- The wording of a call fault. -/
def CallFault.message : CallFault → String
  | tooFew expected given =>
    "not enough values to unpack (expected " ++ toString expected ++ ", got " ++ toString given
      ++ ")"
  | tooMany expected => "too many values to unpack (expected " ++ toString expected ++ ")"
  | kinds fn given => fn ++ "(" ++ ", ".intercalate (given.map Kind.name) ++ ")"
  | badPart size kind => "vec" ++ toString size ++ "() does not accept " ++ kind.name
  | componentCount size given =>
    "vec" ++ toString size ++ "() needs " ++ toString size ++ " components, got " ++ toString given
  | singular => "Singular matrix"
  | shape _ => "shapes do not fit together"
  | parameters fn names given => parametersMessage fn names given

/-- The wording of an evaluation error. -/
def EvalError.message : EvalError → String
  | unparsable text _ => "cannot parse expression " ++ quoted text
  | unbound name => "unbound name " ++ quoted name
  | unknownFunction name => "unknown function " ++ quoted name
  | invalidSwizzle fields => "invalid swizzle ." ++ fields
  | badSwizzle kind fields => "cannot swizzle " ++ kind.name ++ " with ." ++ fields
  | emptySwizzle => "empty swizzle"
  | wrongArity fn arity given =>
    fn ++ "() takes " ++ toString arity ++ " arguments, got " ++ toString given
  | matrixComponent => "componentwise operation on mat2"
  | mismatchedSizes sizes => "mismatched vector sizes " ++ shownNats sizes
  | badBinding name =>
    "binding " ++ quoted name ++ " must be a float or a (..., 2..4) vector array"
  | array _ => "not an array of numbers"
  | unboundCoordinate => "expression still contains an unbound coordinate"
  | notEvaluable => "cannot evaluate"
  | failedCall fn fault => fn ++ ": " ++ fault.message
  | unknownOperator name => unknownOperatorMessage name
  | badNumber text => "not a number: " ++ quoted text
  | shape _ => "shapes do not fit together"
  | noSuchOperator symbol => "no such operator: " ++ symbol
  | notText => "not a text"

/-- Results of evaluation. -/
abbrev Evaluated := Except EvalError

/-- A shape result as a result of evaluation. -/
def ofShaped {α : Type} (result : Shaped α) : Evaluated α :=
  result.mapError .shape

/-- What a name can be bound to. -/
inductive Binding (α : Type) where
  /-- Data, with the array that is made of them. -/
  | data (array : Evaluated (Tensor α))
  /-- A value, which is taken as it is. -/
  | value (v : Value α)

namespace Value

variable {α : Type}

/-- A value that is a number at each point. -/
def float (data : Tensor α) : Value α :=
  ⟨.float, data⟩

/-- The value of a bound array: a number if it has no axes, else vectors with two to four
components. -/
def ofArray (name : String) (data : Tensor α) : Evaluated (Value α) :=
  match data.axes with
  | [] => .ok ⟨.float, data⟩
  | n :: _ => if 2 ≤ n ∧ n ≤ 4 then .ok ⟨.vec n, data⟩ else .error (.badBinding name)

/-- The value of a bound name. -/
def ofBinding (name : String) : Binding α → Evaluated (Value α)
  | .data array => do ofArray name (← array)
  | .value v => .ok v

end Value

end SignedDistance
