import SignedDistance.Number.Double

/-!
# Scenes

A scene is a tree of plane shapes. Its leaves are primitives, called by name with arguments, and
constants; its inner nodes are transforms of one scene and combinations of two. Operators that are
not known are kept with their operands, so that a tool can still show them.

Scenes are exchanged as plain data: texts, numbers, lists and records (`Datum`). Since a record may
hold a finished scene in place of a record for one, and some operators carry arbitrary data, the two
types are defined together.
-/

namespace SignedDistance

/-- The transforms whose parameter is one number. -/
inductive Adjustment where
  | rotate
  | scale
  | hollow
  | melt
  | bend
  | displace
deriving DecidableEq, Repr

/-- The transforms of one scene. -/
inductive TransformKind where
  /-- Leaves the shape as it is; the parameter is a remark. -/
  | annotate
  /-- Moves the shape by an offset given as text. -/
  | translate
  /-- Changes the shape by a number. -/
  | adjust (kind : Adjustment)
deriving DecidableEq, Repr

/-- The ways to combine two shapes. -/
inductive Combination where
  /-- The points of either. -/
  | unite
  /-- The points of the second that are not in the first. -/
  | subtract
  /-- The points of both. -/
  | intersect
deriving DecidableEq, Repr

/-- A combination, with sharp seams or with seams blended over a radius. -/
structure CombinationKind where
  /-- What is combined how. -/
  op : Combination
  /-- Whether the seam is blended. -/
  smooth : Bool
deriving DecidableEq, Repr

mutual

/-- Plain data. -/
inductive Datum where
  /-- The absent value. -/
  | null
  /-- A truth value. -/
  | bool (b : Bool)
  /-- An integer of any size. -/
  | int (n : Int)
  /-- A double-precision number. -/
  | float (x : Double)
  /-- A text. -/
  | text (s : String)
  /-- A list. -/
  | list (items : List Datum)
  /-- A record; its keys are distinct and keep their order. -/
  | record (fields : List (String × Datum))
  /-- A finished scene. -/
  | scene (s : Scene)

/-- A plane scene. -/
inductive Scene where
  /-- A call of a primitive distance function; only texts can be compiled as arguments. -/
  | primitive (name : String) (args : List Datum)
  /-- A text that does not depend on the point. -/
  | constant (text : String)
  /-- A scene with a remark. -/
  | annotate (note : Datum) (child : Scene)
  /-- A scene moved by an offset; only a text can be compiled as one. -/
  | translate (offset : Datum) (child : Scene)
  /-- A scene changed by a number: the parameter as it was given, and its text with three places. -/
  | adjust (kind : Adjustment) (written : Datum) (amount : String) (child : Scene)
  /-- Two scenes combined sharply. -/
  | combine (op : Combination) (left right : Scene)
  /-- Two scenes combined with a blended seam. -/
  | blend (op : Combination) (left right radius : Scene)
  /-- An operator that is not known; operands are scenes unless they were put in directly. -/
  | unknown (name : String) (operands : List Datum)

end

instance : Inhabited Datum := ⟨.null⟩

instance : Inhabited Scene := ⟨.constant ""⟩

/-! ## Keywords -/

/-- The keyword of a transform by a number. -/
def Adjustment.keyword : Adjustment → String
  | rotate => "ROTATE"
  | scale => "SCALE"
  | hollow => "HOLLOW"
  | melt => "MELT"
  | bend => "BEND"
  | displace => "DISPLACE"

namespace TransformKind

/-- The keyword of a transform. -/
def keyword : TransformKind → String
  | annotate => "NOOP"
  | translate => "TRANSLATE"
  | adjust kind => kind.keyword

/-- Whether the parameter is a number. -/
def scalar : TransformKind → Bool
  | adjust _ => true
  | _ => false

/-- All transforms. -/
def all : List TransformKind :=
  [annotate, translate, adjust .rotate, adjust .scale, adjust .hollow, adjust .melt, adjust .bend,
    adjust .displace]

/-- The transform with a keyword. -/
def ofKeyword? (word : String) : Option TransformKind :=
  all.find? fun kind => kind.keyword == word

end TransformKind

namespace CombinationKind

/-- The keyword of a combination. -/
def keyword : CombinationKind → String
  | ⟨.unite, false⟩ => "UNITE"
  | ⟨.subtract, false⟩ => "SUBTRACT"
  | ⟨.intersect, false⟩ => "INTERSECT"
  | ⟨.unite, true⟩ => "SMUNITE"
  | ⟨.subtract, true⟩ => "SMUTRACT"
  | ⟨.intersect, true⟩ => "SMUSECT"

/-- All combinations. -/
def all : List CombinationKind :=
  [⟨.unite, false⟩, ⟨.subtract, false⟩, ⟨.intersect, false⟩, ⟨.unite, true⟩, ⟨.subtract, true⟩,
    ⟨.intersect, true⟩]

/-- The combination with a keyword. -/
def ofKeyword? (word : String) : Option CombinationKind :=
  all.find? fun kind => kind.keyword == word

end CombinationKind

/-- Whether a text is one of the fixed keywords. -/
def isKeyword (word : String) : Bool :=
  (TransformKind.ofKeyword? word).isSome || (CombinationKind.ofKeyword? word).isSome

/-! ## Walking a scene -/

mutual

/-- A scene and everything below it, parents first and operands in order. -/
def Scene.walk : Scene → List Datum
  | .primitive name args => [.scene (.primitive name args)]
  | .constant text => [.scene (.constant text)]
  | .annotate note child => .scene (.annotate note child) :: child.walk
  | .translate offset child => .scene (.translate offset child) :: child.walk
  | .adjust kind written amount child => .scene (.adjust kind written amount child) :: child.walk
  | .combine op left right => .scene (.combine op left right) :: (left.walk ++ right.walk)
  | .blend op left right radius =>
    .scene (.blend op left right radius) :: (left.walk ++ right.walk ++ radius.walk)
  | .unknown name operands => .scene (.unknown name operands) :: Datum.walkOperands operands

/-- An operand and everything below it. -/
def Datum.walk : Datum → List Datum
  | .scene s => s.walk
  | d => [d]

/-- Several operands and everything below them. -/
def Datum.walkOperands : List Datum → List Datum
  | [] => []
  | d :: ds => d.walk ++ Datum.walkOperands ds

end

mutual

/-- The number of nodes on the longest way from the root to a leaf. -/
def Scene.depth : Scene → Nat
  | .primitive .. => 1
  | .constant _ => 1
  | .annotate _ child => child.depth + 1
  | .translate _ child => child.depth + 1
  | .adjust _ _ _ child => child.depth + 1
  | .combine _ left right => max left.depth right.depth + 1
  | .blend _ left right radius => max (max left.depth right.depth) radius.depth + 1
  | .unknown _ operands => Datum.depthOperands operands + 1

/-- The depth of an operand. -/
def Datum.depth : Datum → Nat
  | .scene s => s.depth
  | _ => 1

/-- The greatest depth of several operands, zero if there are none. -/
def Datum.depthOperands : List Datum → Nat
  | [] => 0
  | d :: ds => max d.depth (Datum.depthOperands ds)

end

end SignedDistance
