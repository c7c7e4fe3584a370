import SignedDistance.Scene.Amount
import SignedDistance.Scene.Record

/-!
# Operator records as text

A record with an operator and operands, written for a reader: `(a + b)` for an operator that stands
between its operands, `f(a, b)` for any other. Nothing is known about the meaning of the operators;
what is not such a record is written as it is shown.
-/

namespace SignedDistance

/-- Why a record cannot be written. -/
inductive OperatorTextError where
  /-- An operator that stands between two operands does not have two. -/
  | arity (op : String) (given : Nat)
  /-- A number cannot be written. -/
  | number (error : NumberError)
  /-- The operands of a record are not given one by one. -/
  | badOperands
  /-- The operator of a record is or holds a list or a record. -/
  | badOperator
  /-- A value cannot be shown. -/
  | unshown

/-- The wording of the error. -/
def OperatorTextError.message : OperatorTextError → String
  | arity op given =>
    "Infix operator " ++ op ++ " must have exactly 2 arguments (got " ++ toString given ++ ")"
  | number e => e.message
  | badOperands => "operands must be a list"
  | badOperator => "operator must be a name"
  | unshown => unshownMessage

/-- The operators that stand between two operands. -/
def binaryOperators : List String :=
  ["+", "-", "*", "/", "==", "!=", "<", ">", "<=", ">=", "&&", "||"]

/-- The places with which numbers in records are written. -/
def operandPlaces : Int := 2

mutual

/-- Whether a value is or holds a list or a record. -/
def Datum.holdsList : Datum → Bool
  | .list _ => true
  | .record _ => true
  | .scene s => s.holdsList
  | _ => false

/-- Whether a scene holds a list or a record. -/
def Scene.holdsList : Scene → Bool
  | .primitive _ args => Datum.anyHoldsList args
  | .constant _ => false
  | .annotate note child => note.holdsList || child.holdsList
  | .translate offset child => offset.holdsList || child.holdsList
  | .adjust _ written _ child => written.holdsList || child.holdsList
  | .combine _ left right => left.holdsList || right.holdsList
  | .blend _ left right radius => left.holdsList || right.holdsList || radius.holdsList
  | .unknown _ operands => Datum.anyHoldsList operands

/-- Whether one of several values is or holds a list or a record. -/
def Datum.anyHoldsList : List Datum → Bool
  | [] => false
  | d :: ds => d.holdsList || Datum.anyHoldsList ds

end

/-- A value as plain text. -/
def Datum.plainText (d : Datum) : Except OperatorTextError String :=
  match d.plain? with
  | some shown => .ok shown
  | none => .error .unshown

/-- An operator with the texts of its operands, of which there are `count`. The operator and the
number of operands are looked at before the texts. -/
def operatorCallText (op : Datum) (count : Nat)
    (operands : Except OperatorTextError (List String)) : Except OperatorTextError String :=
  if op.holdsList then .error .badOperator
  else
    match op with
    | .text symbol =>
      if symbol ∈ binaryOperators then
        if count = 2 then do
          return "(" ++ (" " ++ symbol ++ " ").intercalate (← operands) ++ ")"
        else .error (.arity symbol count)
      else do return symbol ++ "(" ++ ", ".intercalate (← operands) ++ ")"
    | op => do return (← op.plainText) ++ "(" ++ ", ".intercalate (← operands) ++ ")"

mutual

/-- The text of a value: a text as it is, numbers with two places, and operator records. The
operands are the items of a list, the characters of a text or the keys of a record. -/
def Datum.operatorText (d : Datum) : Except OperatorTextError String :=
  match d with
  | .text s => .ok s
  | .bool b => .ok (if b then "true" else "false")
  | .int n => (Datum.fixedText (.int n) operandPlaces).mapError .number
  | .float x => (Datum.fixedText (.float x) operandPlaces).mapError .number
  | .null => .ok "null"
  | .list items => Datum.plainText (.list items)
  | .scene s => Datum.plainText (.scene s)
  | .record fields =>
    match fields.lookup "op" with
    | none => Datum.plainText (.record fields)
    | some op =>
      match _h : fields.lookup "args" with
      | none => operatorCallText op 0 (.ok [])
      | some (.list items) =>
        have : sizeOf items < sizeOf fields := by
          have := sizeOf_lt_of_lookup _h
          simp only [Datum.list.sizeOf_spec] at this
          omega
        operatorCallText op items.length (Datum.operatorTexts items)
      | some (.text s) => operatorCallText op s.length (.ok (s.toList.map String.singleton))
      | some (.record entries) => operatorCallText op entries.length (.ok (entries.map (·.1)))
      | some _ => .error .badOperands
termination_by sizeOf d

/-- The texts of several values. -/
def Datum.operatorTexts (ds : List Datum) : Except OperatorTextError (List String) :=
  match ds with
  | [] => .ok []
  | d :: ds => do
    let text ← d.operatorText
    let texts ← Datum.operatorTexts ds
    return text :: texts
termination_by sizeOf ds

end

end SignedDistance
