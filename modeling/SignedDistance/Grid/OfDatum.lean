import SignedDistance.Grid.Basic
import SignedDistance.Scene.Amount

/-!
# Grids from plain data

The ends of the sides and the numbers of cells, checked in the order in which a grid is laid out.
-/

namespace SignedDistance

/-- Why data do not describe a grid. -/
inductive GridError where
  /-- There are not two sides with two ends each, or not two numbers of cells. -/
  | wrongLength
  /-- A number of cells is not positive. The numbers are as they are shown. -/
  | notPositive (resolution : List String)
  /-- A number of cells is not positive, and the numbers cannot be shown. -/
  | unshown
  /-- An end is not a number, or a number of cells is not an integer. -/
  | notNumber
  /-- An end is a text. -/
  | text
  /-- An integer is beyond the largest double. -/
  | tooLarge
  /-- There are more cells than can be counted. -/
  | tooManyCells
  /-- There are more cells than fit into memory. -/
  | noMemory

/-- The wording of a grid error. -/
def GridError.message : GridError → String
  | wrongLength => "a grid has two sides"
  | notPositive resolution => "resolution must be positive, got " ++ shownTuple resolution
  | unshown => unshownMessage
  | notNumber => "not a number"
  | text => "not a number but a text"
  | tooLarge => "integer too large"
  | tooManyCells => "too many cells"
  | noMemory => "not enough memory"

namespace Datum

/-- Two values from a list of two. -/
def toPair : Datum → Except GridError (Datum × Datum)
  | .list [a, b] => .ok (a, b)
  | .list _ => .error .wrongLength
  | _ => .error .notNumber

/-- A value as a machine number; truth values count as one and zero. -/
def toEnd (d : Datum) : Except GridError Float :=
  match d.toInteger?, d with
  | some n, _ =>
    match Double.ofInt? n with
    | some x => .ok x.toFloat
    | none => .error .tooLarge
  | none, .float x => .ok x.toFloat
  | none, .text _ => .error .text
  | none, _ => .error .notNumber

/-- Whether a number of cells is zero or less. -/
def isNotPositive (d : Datum) : Except GridError Bool :=
  match d.toInteger?, d with
  | some n, _ => .ok (n ≤ 0)
  | none, .float x => .ok (x.toFloat ≤ 0.0)
  | none, _ => .error .notNumber

/-- A positive number of cells. -/
def toCount (d : Datum) : Except GridError Nat :=
  match d.toInteger? with
  | some n => .ok n.toNat
  | none => .error .notNumber

end Datum

/-- The number of entries from which on an array cannot be addressed. -/
def addressableEntries : Nat := pow2 60

/-- The number of entries from which on an array does not fit into memory. -/
def storableEntries : Nat := pow2 36

/-- Demands that an array with so many entries can be made. -/
def demandEntries (n : Nat) : Except GridError Unit :=
  if (Double.ofInt? n).isNone then .error .tooLarge
  else if addressableEntries ≤ n then .error .tooManyCells
  else if storableEntries ≤ n then .error .noMemory
  else .ok ()

/-- The side between two given ends, with its number of cells. The length of a side between integers
is rounded once. -/
def Extent.ofData (lo hi count : Datum) : Except GridError (Extent Float × Nat) := do
  let n ← count.toCount
  let a ← lo.toEnd
  let b ← hi.toEnd
  demandEntries n
  match lo.toInteger?, hi.toInteger? with
  | some l, some h => return (⟨a, b, ← (Datum.int (h - l)).toEnd⟩, n)
  | _, _ => return (.between a b, n)

/-- The error for numbers of cells that are not all positive. -/
def GridError.ofResolution (resolution : List Datum) : GridError :=
  match Datum.shownItems? resolution with
  | some items => .notPositive items
  | none => .unshown

/-- The grid with the given sides and numbers of cells. -/
def Grid.ofData (bounds resolution : Datum) : Except GridError (Grid Float) := do
  let (xs, ys) ← bounds.toPair
  let (x0, x1) ← xs.toPair
  let (y0, y1) ← ys.toPair
  let (nx, ny) ← resolution.toPair
  if ← nx.isNotPositive then throw (.ofResolution [nx, ny])
  if ← ny.isNotPositive then throw (.ofResolution [nx, ny])
  let (x, nx) ← Extent.ofData x0 x1 nx
  let (y, ny) ← Extent.ofData y0 y1 ny
  demandEntries (nx * ny)
  return { x, y, nx, ny }

end SignedDistance
