import SignedDistance.Text.Quoted
import SignedDistance.Number.Numeral
import SignedDistance.Number.Shortest
import SignedDistance.Scene.Basic

/-!
# The text that shows a value

Messages show the value they complain about: texts quoted, numbers with the fewest digits that read
back, lists and records with their items, and scenes by the names of their parts. A value cannot be
shown if an integer somewhere in it has too many digits.
-/

namespace SignedDistance

open Text

/-- Items in round brackets; a single item keeps a comma. -/
def shownTuple : List String → String
  | [item] => "(" ++ item ++ ",)"
  | items => "(" ++ ", ".intercalate items ++ ")"

/-- How a transform's kind is shown. -/
def TransformKind.shown (kind : TransformKind) : String :=
  "<TransformKind." ++ kind.keyword ++ ": '" ++ kind.keyword ++ "'>"

/-- How a combination's kind is shown. -/
def CombinationKind.shown (kind : CombinationKind) : String :=
  "<BooleanKind." ++ kind.keyword ++ ": '" ++ kind.keyword ++ "'>"

/-- How a transform is shown, given the texts of its parameter and its child. -/
def shownTransform (kind : TransformKind) (param child : String) : String :=
  "Transform(kind=" ++ kind.shown ++ ", params=" ++ shownTuple [param] ++ ", child=" ++ child ++ ")"

/-- How a combination is shown, given the texts of its operands. -/
def shownCombination (kind : CombinationKind) (left right radius : String) : String :=
  "BooleanOp(kind=" ++ kind.shown ++ ", left=" ++ left ++ ", right=" ++ right ++ ", blend="
    ++ radius ++ ")"

mutual

/-- The text that shows a value. -/
def Datum.shown? : Datum → Option String
  | .null => some "None"
  | .bool b => some (if b then "True" else "False")
  | .int n => Numeral.integerText? n
  | .float x => some x.shown
  | .text s => some (quoted s)
  | .list items => do return "[" ++ ", ".intercalate (← Datum.shownItems? items) ++ "]"
  | .record fields => do return "\x7b" ++ ", ".intercalate (← Datum.shownFields? fields) ++ "\x7d"
  | .scene s => s.shown?

/-- The texts that show several values. -/
def Datum.shownItems? : List Datum → Option (List String)
  | [] => some []
  | d :: ds => do return (← d.shown?) :: (← Datum.shownItems? ds)

/-- The texts that show the fields of a record. -/
def Datum.shownFields? : List (String × Datum) → Option (List String)
  | [] => some []
  | (key, d) :: fields => do
    return (quoted key ++ ": " ++ (← d.shown?)) :: (← Datum.shownFields? fields)

/-- The text that shows a scene. -/
def Scene.shown? : Scene → Option String
  | .primitive name args => do
    let items ← Datum.shownItems? args
    return "AtomCall(name=" ++ quoted name ++ ", args=" ++ shownTuple items ++ ")"
  | .constant text => some ("Constant(text=" ++ quoted text ++ ")")
  | .annotate note child => do return shownTransform .annotate (← note.shown?) (← child.shown?)
  | .translate offset child => do
    return shownTransform .translate (← offset.shown?) (← child.shown?)
  | .adjust kind written _ child => do
    return shownTransform (.adjust kind) (← written.shown?) (← child.shown?)
  | .combine op left right => do
    return shownCombination ⟨op, false⟩ (← left.shown?) (← right.shown?) "None"
  | .blend op left right radius => do
    return shownCombination ⟨op, true⟩ (← left.shown?) (← right.shown?) (← radius.shown?)
  | .unknown name operands => do
    let items ← Datum.shownItems? operands
    return "Unknown(name=" ++ quoted name ++ ", args=" ++ shownTuple items ++ ")"

end

/-- A value as plain text: a text as it is, anything else as it is shown. -/
def Datum.plain? : Datum → Option String
  | .text s => some s
  | d => d.shown?

/-- What is said of a value that cannot be shown. -/
def unshownMessage : String := "an integer has too many digits"

end SignedDistance
