import SignedDistance.Scene.Amount

/-!
# What can be wrong with a scene

A defect says what is wrong at one place; a scene error adds the place, as the argument indices that
lead to it from the root. The wording of a defect shows the value at fault. Where that cannot be
shown, this is the error, without a place.
-/

namespace SignedDistance

open Text

/-- Argument indices leading from the root of a tree to a place in it. -/
abbrev Path := List Int

/-- A path as text. -/
def Path.text (path : Path) : String :=
  "root" ++ String.join (path.map fun i => ".args[" ++ toString i ++ "]")

/-- What a literal is used for. -/
inductive LiteralRole where
  /-- An argument of an operator. -/
  | argument (op : String)
  /-- The offset of a move. -/
  | offset
  /-- The blend radius of a combination. -/
  | radius (op : String)

/-- The name of a literal's role. -/
def LiteralRole.text : LiteralRole → String
  | argument op => "argument of " ++ op
  | offset => TransformKind.translate.keyword ++ " offset"
  | radius op => op ++ " blend radius"

/-- What is wrong at one place of a scene. -/
inductive Defect where
  /-- A record was expected. -/
  | notRecord (got : Datum)
  /-- The operator is missing, empty or not a text. -/
  | badOperator (got : Datum)
  /-- A record has no arguments. -/
  | noArguments (op : String)
  /-- The arguments are not a list. -/
  | argumentsNotList (op : String)
  /-- A literal is neither text nor a finite number. -/
  | badLiteral (role : LiteralRole) (got : Datum)
  /-- A transform does not have a parameter and a child. -/
  | transformArity (op : String) (given : Nat)
  /-- A combination has the wrong number of operands. -/
  | operandCount (op : String) (expected given : Nat)
  /-- A primitive's name does not start with a lower-case letter. -/
  | badName (name : String)
  /-- The child of a transform is not a scene. -/
  | childNotScene (kind : TransformKind)
  /-- A transform has not exactly one parameter. -/
  | paramCount (kind : TransformKind) (given : Nat)
  /-- The parameter of a transform by a number is not one. -/
  | notNumeric (kind : TransformKind) (got : Datum)
  /-- An operand of a combination is not a scene. -/
  | operandNotScene (kind : CombinationKind) (side : String)
  /-- A blended combination has no radius. -/
  | radiusMissing (kind : CombinationKind)
  /-- A sharp combination has a radius. -/
  | radiusUnexpected (kind : CombinationKind)
  /-- A constant stands where only an operator can. -/
  | loneConstant (text : String)
  /-- A value stands where a scene should. -/
  | notScene (got : Datum)

/-- The wording of a defect, unless the value at fault cannot be shown. -/
def Defect.reason? : Defect → Option String
  | notRecord got => got.shown?.map ("expected a node record, got " ++ ·)
  | badOperator got => got.shown?.map ("missing or invalid 'op': " ++ ·)
  | noArguments op => some (op ++ " record has no 'args'")
  | argumentsNotList op => some ("'args' of " ++ op ++ " must be a list")
  | badLiteral role got =>
    got.shown?.map (role.text ++ " must be text or a finite number, got " ++ ·)
  | transformArity op given =>
    some (op ++ " takes [param, child], got " ++ toString given ++ " args")
  | operandCount op expected given =>
    some (op ++ " takes " ++ toString expected ++ " operands, got " ++ toString given)
  | badName name =>
    some ("primitive name " ++ quoted name ++ " must start with a lower-case letter")
  | childNotScene kind => some (kind.keyword ++ " child must be a scene node")
  | paramCount kind given => some (kind.keyword ++ " takes one parameter, got " ++ toString given)
  | notNumeric kind got => got.shown?.map (kind.keyword ++ " parameter must be numeric, got " ++ ·)
  | operandNotScene kind side =>
    some (kind.keyword ++ " " ++ side ++ " operand must be a scene node")
  | radiusMissing kind => some (kind.keyword ++ " requires a blend radius node")
  | radiusUnexpected kind => some (kind.keyword ++ " does not take a blend radius")
  | loneConstant text => some ("constant " ++ quoted text ++ " only appears as an operand")
  | notScene got => got.shown?.map ("not a scene node: " ++ ·)

/-- Why a scene cannot be read or built. -/
inductive SceneError where
  /-- Something is wrong at a place of the scene. -/
  | malformed (path : Path) (defect : Defect)
  /-- Something is wrong, and the value at fault cannot be shown. -/
  | unshown
  /-- A number cannot be taken or written; only integers beyond the largest double come this far. -/
  | number (error : NumberError)
  /-- No transform has the keyword. -/
  | noSuchTransform (word : String)
  /-- No combination has the keyword. -/
  | noSuchCombination (word : String)

/-- The error for a defect at a place. It is worded at once. -/
def Defect.errorAt (path : Path) (defect : Defect) : SceneError :=
  if defect.reason?.isSome then .malformed path defect else .unshown

/-- The wording of a malformed place. -/
def Defect.messageAt (path : Path) (defect : Defect) : String :=
  path.text ++ ": " ++ defect.reason?.getD unshownMessage

/-- The wording of a scene error. -/
def SceneError.message : SceneError → String
  | malformed path defect => defect.messageAt path
  | unshown => unshownMessage
  | number error => error.message
  | noSuchTransform word => quoted word ++ " is not a valid TransformKind"
  | noSuchCombination word => quoted word ++ " is not a valid BooleanKind"

end SignedDistance
