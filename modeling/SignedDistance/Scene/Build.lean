import SignedDistance.Scene.Error

/-!
# Building scenes from parts

The constructors that check their parts. A defect is reported at a path relative to the scene being
built: the empty path for the scene itself, an argument index for one of its parts.
-/

namespace SignedDistance

open Text

/-- Primitive names start with a lower-case letter. -/
def isPrimitiveName (name : String) : Bool :=
  match name.toList with
  | c :: _ => isLowerLetter c
  | [] => false

namespace Scene

/-- A primitive called with arguments. -/
def ofPrimitive (name : String) (args : List Datum) : Except SceneError Scene :=
  if isPrimitiveName name then .ok (.primitive name args)
  else .error ((Defect.badName name).errorAt [])

/-- A scene changed by the number that a value denotes. -/
def ofAdjustment (kind : Adjustment) (written : Datum) (child : Scene) :
    Except SceneError Scene :=
  match written.isNumeric, written.scalarText with
  | .error e, _ => .error (.number e)
  | .ok false, _ => .error ((Defect.notNumeric (.adjust kind) written).errorAt [0])
  | .ok true, .error e => .error (.number e)
  | .ok true, .ok amount => .ok (.adjust kind written amount child)

/-- A transform with a keyword, a list of parameters and a child. -/
def ofTransform (word : String) (params : List Datum) (child : Datum) : Except SceneError Scene :=
  match TransformKind.ofKeyword? word, child, params with
  | none, _, _ => .error (.noSuchTransform word)
  | some kind, .scene s, [param] =>
    match kind with
    | .annotate => .ok (.annotate param s)
    | .translate => .ok (.translate param s)
    | .adjust a => ofAdjustment a param s
  | some kind, .scene _, params => .error ((Defect.paramCount kind params.length).errorAt [])
  | some kind, _, _ => .error ((Defect.childNotScene kind).errorAt [1])

/-- A combination with a keyword, two operands and a blend radius, which is null if there is
none. -/
def ofCombination (word : String) (left right radius : Datum) : Except SceneError Scene :=
  match CombinationKind.ofKeyword? word, left, right with
  | none, _, _ => .error (.noSuchCombination word)
  | some kind, .scene l, .scene r =>
    match kind.smooth, radius with
    | true, .scene k => .ok (.blend kind.op l r k)
    | true, _ => .error ((Defect.radiusMissing kind).errorAt [2])
    | false, .null => .ok (.combine kind.op l r)
    | false, _ => .error ((Defect.radiusUnexpected kind).errorAt [2])
  | some kind, .scene _, _ => .error ((Defect.operandNotScene kind "right").errorAt [1])
  | some kind, _, _ => .error ((Defect.operandNotScene kind "left").errorAt [0])

end Scene

/-! ## Fusing -/

/-- Why two scenes cannot be fused. -/
inductive FuseError where
  /-- A coordinate of the offset is not a number. -/
  | number (error : NumberError)
  /-- The offset has not exactly two coordinates. -/
  | offsetLength

/-- The coordinates of an offset as text. They are looked at in order and at most one beyond the
second, so that a bad one among these is reported before a wrong count. -/
def offsetTexts (offset : List Datum) : Except FuseError (String × String) :=
  match (offset.take 3).mapM Datum.scalarText with
  | .error e => .error (.number e)
  | .ok [dx, dy] => .ok (dx, dy)
  | .ok _ => .error .offsetLength

/-- The first scene united with the second one moved by an offset. -/
def Scene.fuse (primary secondary : Scene) (offset : List Datum) : Except FuseError Scene := do
  let (dx, dy) ← offsetTexts offset
  let moved := Scene.translate (.text ("vec2(" ++ dx ++ ", " ++ dy ++ ")")) secondary
  return .combine .unite primary moved

end SignedDistance
