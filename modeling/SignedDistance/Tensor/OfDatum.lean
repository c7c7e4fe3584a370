import SignedDistance.Number.Numeral
import SignedDistance.Scene.Basic
import SignedDistance.Tensor.Basic

/-!
# Arrays from plain data

Nested lists of numbers are an array, the innermost lists lying along the innermost axis. All lists
at one depth must have the same shape. An absent value counts as not a number, and a truth value as
one or zero.
-/

namespace SignedDistance

/-- Why an array cannot be made from data. -/
inductive ArrayError where
  /-- The lists at one depth are not all of the same shape. -/
  | ragged
  /-- The lists are nested too deeply. -/
  | tooDeep
  /-- A text is not a numeral. -/
  | notNumeral
  /-- An integer is beyond the largest double. -/
  | tooLarge
  /-- A record or a scene is not a number. -/
  | notNumber
deriving DecidableEq, Repr

namespace Datum

mutual

/-- The axes of nested lists, `none` if they are ragged. -/
def axes? : Datum → Option Axes
  | .list items => do return (← itemAxes? items) ++ [items.length]
  | _ => some []

/-- The common axes of some values, `none` if they differ. -/
def itemAxes? : List Datum → Option Axes
  | [] => some []
  | [d] => axes? d
  | d :: e :: ds => do
    let axes ← axes? d
    if axes = (← itemAxes? (e :: ds)) then some axes else none

end

mutual

/-- The values in nested lists that are not lists themselves, from first to last. -/
def leaves : Datum → List Datum
  | .list items => leavesOfAll items
  | d => [d]

/-- The values in several nested lists that are not lists themselves, from first to last. -/
def leavesOfAll : List Datum → List Datum
  | [] => []
  | d :: ds => leaves d ++ leavesOfAll ds

end

/-- The number that an entry of an array stands for. -/
def toEntry : Datum → Except ArrayError Double
  | .null => .ok Double.nan
  | .bool b => .ok (if b then Double.ofRatio false 1 1 else Double.zero false)
  | .int n =>
    match Double.ofInt? n with
    | some x => .ok x
    | none => .error .tooLarge
  | .float x => .ok x
  | .text s =>
    match Double.parse? s with
    | some x => .ok x
    | none => .error .notNumeral
  | _ => .error .notNumber

/-- The greatest number of axes of an array. -/
def maxAxes : Nat := 32

/-- The array that nested lists stand for. -/
def toTensor (d : Datum) : Except ArrayError (Tensor Double) :=
  match d.axes? with
  | none => .error .ragged
  | some axes => do
    if maxAxes < axes.length then throw .tooDeep
    let entries ← d.leaves.mapM toEntry
    if h : entries.toArray.size = volume axes then return ⟨axes, ⟨entries.toArray, h⟩⟩
    else throw .ragged

end Datum

end SignedDistance
