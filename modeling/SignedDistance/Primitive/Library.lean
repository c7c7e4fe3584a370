import SignedDistance.Primitive.Basic

/-!
# Libraries of primitives

Scenes call primitives by name. A library says which names have a meaning; the standard one holds
the primitives of this project.
-/

namespace SignedDistance

/-- Why a call of a primitive has no result. -/
inductive CallError where
  /-- The number of arguments is not that of the parameters. -/
  | argumentCount (parameters : List String) (given : Nat)
  /-- The shapes of the arguments do not fit. -/
  | shape (error : ShapeError)
deriving DecidableEq, Repr

/-- A function from the arguments of a call to its result. -/
abbrev CallMeaning (α : Type) := List (Tensor α) → Except CallError (Tensor α)

/-- The meaning of the names of primitives. -/
abbrev Library (α : Type) := String → Option (CallMeaning α)

namespace Primitive

variable {α : Type} [Scalar α]

/-- A shape result as the result of a call. -/
def toCall (result : Shaped (Tensor α)) : Except CallError (Tensor α) :=
  result.mapError .shape

/-- The meaning of a primitive with one parameter of the given name. -/
def takes1 (p : String) (f : Tensor α → Shaped (Tensor α)) : CallMeaning α
  | [x] => toCall (f x)
  | args => .error (.argumentCount [p] args.length)

/-- The meaning of a primitive with two parameters of the given names. -/
def takes2 (p q : String) (f : Tensor α → Tensor α → Shaped (Tensor α)) : CallMeaning α
  | [x, y] => toCall (f x y)
  | args => .error (.argumentCount [p, q] args.length)

/-- The meaning of a primitive with three parameters of the given names. -/
def takes3 (p q r : String) (f : Tensor α → Tensor α → Tensor α → Shaped (Tensor α)) :
    CallMeaning α
  | [x, y, z] => toCall (f x y z)
  | args => .error (.argumentCount [p, q, r] args.length)

/-- The meaning of a primitive with four parameters of the given names. -/
def takes4 (p q r s : String)
    (f : Tensor α → Tensor α → Tensor α → Tensor α → Shaped (Tensor α)) : CallMeaning α
  | [x, y, z, w] => toCall (f x y z w)
  | args => .error (.argumentCount [p, q, r, s] args.length)

/-- The primitives with their names. -/
def all : List (String × CallMeaning α) :=
  [("sdCornerCircle", takes1 "p" cornerCircle), ("boxAtom", takes3 "p" "b" "r" roundedBox),
    ("plainBox", takes2 "p" "b" plainBox), ("circle", takes2 "p" "r" circle),
    ("heart", takes1 "p" heart), ("moon", takes4 "p" "d" "ra" "rb" moon),
    ("star", takes3 "p" "r" "rf" star), ("triangle", takes2 "p" "r" triangle),
    ("coolS", takes1 "p" pointedS), ("ellipse", takes2 "p" "ab" ellipse)]

end Primitive

/-- The library of the primitives of this project. -/
def Library.standard {α : Type} [Scalar α] : Library α :=
  fun name => Primitive.all.lookup name

end SignedDistance
