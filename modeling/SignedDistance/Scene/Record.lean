import SignedDistance.Scene.Build

/-!
# Records of scenes

A scene is exchanged as a record with an operator `op` and a list of arguments `args`, whose items
are literals and further records. `Datum.read` builds the scene of a record and reports the first
defect together with its place; `Scene.toRecord` writes the record of a scene.
-/

namespace SignedDistance

open Text

/-- A literal as text: a text as it is, a finite number with three places. -/
def Datum.literal (d : Datum) (path : Path) (role : LiteralRole) : Except SceneError String :=
  match d with
  | .text s => .ok s
  | .int _ | .float _ =>
    match d.isNumeric, d.scalarText with
    | .error e, _ => .error (.number e)
    | .ok false, _ => .error ((Defect.badLiteral role d).errorAt path)
    | .ok true, .error e => .error (.number e)
    | .ok true, .ok s => .ok s
  | _ => .error ((Defect.badLiteral role d).errorAt path)

/-- The literals of a list, whose first item has the given index. -/
def Datum.literals (path : Path) (role : LiteralRole) :
    Nat → List Datum → Except SceneError (List Datum)
  | _, [] => .ok []
  | i, d :: ds => do
    let s ← d.literal (path ++ [(i : Int)]) role
    let rest ← Datum.literals path role (i + 1) ds
    return .text s :: rest

/-- The operator and the arguments of a record. -/
def operatorAndArgs (fields : List (String × Datum)) : Except Defect (String × List Datum) :=
  match fields.lookup "op" with
  | some (.text op) =>
    if op = "" then .error (.badOperator (.text op))
    else
      match fields.lookup "args" with
      | none => .error (.noArguments op)
      | some (.list args) => .ok (op, args)
      | some _ => .error (.argumentsNotList op)
  | some d => .error (.badOperator d)
  | none => .error (.badOperator .null)

/-- A value found in a record is smaller than the record. -/
theorem sizeOf_lt_of_lookup {fields : List (String × Datum)} {key : String} {d : Datum}
    (h : fields.lookup key = some d) : sizeOf d < sizeOf fields := by
  induction fields with
  | nil => simp at h
  | cons field rest ih =>
    obtain ⟨name, value⟩ := field
    rw [List.lookup_cons] at h
    split at h
    · cases h; simp; omega
    · have := ih h; simp; omega

/-- The arguments of a record are smaller than the record. -/
theorem sizeOf_args_lt {fields : List (String × Datum)} {op : String} {args : List Datum}
    (h : operatorAndArgs fields = .ok (op, args)) : sizeOf args < sizeOf fields := by
  unfold operatorAndArgs at h
  split at h
  · split at h
    · cases h
    · split at h
      · cases h
      · next hargs =>
        cases h
        have := sizeOf_lt_of_lookup hargs
        simp at this
        omega
      · cases h
  · cases h
  · cases h

mutual

/-- The scene that a value stands for; the path is where the value was found. -/
def Datum.read (d : Datum) (path : Path) : Except SceneError Scene :=
  match d with
  | .scene s => .ok s
  | .record fields =>
    match _h : operatorAndArgs fields with
    | .error defect => .error (defect.errorAt path)
    | .ok (op, args) =>
      have := sizeOf_args_lt _h
      if isPrimitiveName op then do
        return .primitive op (← Datum.literals path (.argument op) 0 args)
      else
        match TransformKind.ofKeyword? op with
        | some kind => Datum.readTransform kind args path
        | none =>
          match CombinationKind.ofKeyword? op with
          | some kind => Datum.readCombination kind args path
          | none => do
            return .unknown op (← Datum.readOperands (.argument op) path 0 args)
  | d => .error ((Defect.notRecord d).errorAt path)
termination_by (sizeOf d, 0)

/-- The transform of a kind with the given arguments. The child is read before a numeric parameter
is looked at. -/
def Datum.readTransform (kind : TransformKind) (args : List Datum) (path : Path) :
    Except SceneError Scene :=
  match args with
  | [param, child] =>
    match kind with
    | .annotate => do
      return .annotate param (← child.read (path ++ [1]))
    | .translate => do
      let offset ← param.literal (path ++ [0]) .offset
      return .translate (.text offset) (← child.read (path ++ [1]))
    | .adjust a => do
      let child ← child.read (path ++ [1])
      match Scene.ofAdjustment a param child with
      | .error (.malformed inner defect) => .error (.malformed (path ++ inner) defect)
      | result => result
  | args => .error ((Defect.transformArity kind.keyword args.length).errorAt path)
termination_by (sizeOf args, 1)

/-- The combination of a kind with the given arguments. -/
def Datum.readCombination (kind : CombinationKind) (args : List Datum) (path : Path) :
    Except SceneError Scene :=
  if kind.smooth then
    match args with
    | [left, right, radius] => do
      let l ← left.read (path ++ [0])
      let r ← right.read (path ++ [1])
      let k ← radius.readOperand (.radius kind.keyword) (path ++ [2])
      return .blend kind.op l r k
    | args => .error ((Defect.operandCount kind.keyword 3 args.length).errorAt path)
  else
    match args with
    | [left, right] => do
      let l ← left.read (path ++ [0])
      let r ← right.read (path ++ [1])
      return .combine kind.op l r
    | args => .error ((Defect.operandCount kind.keyword 2 args.length).errorAt path)
termination_by (sizeOf args, 1)

/-- The scene of an operand that may also be a literal, which is then a constant. -/
def Datum.readOperand (d : Datum) (role : LiteralRole) (path : Path) : Except SceneError Scene :=
  match d with
  | .scene s => .ok s
  | .record fields => Datum.read (.record fields) path
  | d => do
    return .constant (← d.literal path role)
termination_by (sizeOf d, 1)

/-- The operands of an unknown operator; the first one has the given index. -/
def Datum.readOperands (role : LiteralRole) (path : Path) (i : Nat) (ds : List Datum) :
    Except SceneError (List Datum) :=
  match ds with
  | [] => .ok []
  | d :: ds => do
    let s ← d.readOperand role (path ++ [(i : Int)])
    let rest ← Datum.readOperands role path (i + 1) ds
    return .scene s :: rest
termination_by (sizeOf ds, 1)

end

/-! ## Writing -/

/-- The record of an operator. -/
def Datum.ofCall (op : String) (args : List Datum) : Datum :=
  .record [("op", .text op), ("args", .list args)]

mutual

/-- The record of a scene. -/
def Scene.toRecord : Scene → Except SceneError Datum
  | .primitive name args => .ok (Datum.ofCall name args)
  | .constant text => .error ((Defect.loneConstant text).errorAt [])
  | .annotate note child => do
    return Datum.ofCall TransformKind.annotate.keyword [note, ← child.toRecord]
  | .translate offset child => do
    return Datum.ofCall TransformKind.translate.keyword [offset, ← child.toRecord]
  | .adjust kind _ amount child => do
    return Datum.ofCall kind.keyword [.text amount, ← child.toRecord]
  | .combine op left right => do
    let l ← left.toRecord
    let r ← right.toRecord
    return Datum.ofCall (CombinationKind.keyword ⟨op, false⟩) [l, r]
  | .blend op left right (.constant text) => do
    let l ← left.toRecord
    let r ← right.toRecord
    return Datum.ofCall (CombinationKind.keyword ⟨op, true⟩) [l, r, .text text]
  | .blend op left right radius => do
    let l ← left.toRecord
    let r ← right.toRecord
    let k ← radius.toRecord
    return Datum.ofCall (CombinationKind.keyword ⟨op, true⟩) [l, r, k]
  | .unknown name operands => do
    return Datum.ofCall name (← Datum.toOperands operands)

/-- The records of the operands of an unknown operator. -/
def Datum.toOperands : List Datum → Except SceneError (List Datum)
  | [] => .ok []
  | .scene (.constant text) :: ds => do
    return .text text :: (← Datum.toOperands ds)
  | .scene s :: ds => do
    let r ← s.toRecord
    return r :: (← Datum.toOperands ds)
  | d :: _ => .error ((Defect.notScene d).errorAt [])

end

end SignedDistance
