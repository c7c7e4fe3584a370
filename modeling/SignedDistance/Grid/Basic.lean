import SignedDistance.Evaluation.Basic

/-!
# Grids

A rectangle divided into equal cells. Scenes are sampled at the centres of the cells, and the
samples are an array with a row for each step along the second side, as pictures are.
-/

namespace SignedDistance

/-- One side of a rectangle. -/
structure Extent (α : Type) where
  /-- Where the side starts. -/
  lo : α
  /-- Where the side ends. -/
  hi : α
  /-- The length of the side. It is kept beside the ends because it may be known more exactly than
  the difference of their roundings. -/
  span : α

/-- A rectangle divided into equal cells. -/
structure Grid (α : Type) where
  /-- The first side. -/
  x : Extent α
  /-- The second side. -/
  y : Extent α
  /-- The number of cells along the first side. -/
  nx : Nat
  /-- The number of cells along the second side. -/
  ny : Nat

section

variable {α : Type} [Scalar α]

namespace Extent

/-- The side between two ends. -/
def between (lo hi : α) : Extent α :=
  ⟨lo, hi, Scalar.sub hi lo⟩

open Scalar in
/-- How far cell `i` of `n` equal cells starts from the start of the side. A side so short that a
cell has no size is multiplied by a fraction instead. -/
def offset (e : Extent α) (n i : Nat) : α :=
  let step := (e.hi - e.lo) / Scalar.ofNat n
  if equal step 0.0 then Scalar.ofNat i / Scalar.ofNat n * (e.hi - e.lo) else Scalar.ofNat i * step

open Scalar in
/-- The centre of cell `i` of `n` equal cells: the start of the cell and half a cell. -/
def centre (e : Extent α) (n i : Nat) : α :=
  (e.offset n i + e.lo) + e.span / (2.0 * Scalar.ofNat n)

end Extent

namespace Grid

/-- The axes of the samples, innermost first. -/
def axes (g : Grid α) : Axes :=
  [g.nx, g.ny]

/-- The centre of a cell as a vector with two components. -/
def centreAt (g : Grid α) (i j : Nat) (component : Nat) : α :=
  if component = 0 then g.x.centre g.nx i else g.y.centre g.ny j

/-- The array of the centres of all cells. -/
def centres (g : Grid α) : Tensor α :=
  Tensor.ofFn (2 :: g.axes) fun (component, i, j, _) => g.centreAt i j component

end Grid

/-- The name that stands for the points where scenes are sampled. -/
def sampleCoordinate : String := "p"

/-- The distances of a compiled scene at the centres of all cells. -/
def Compiled.sample (library : Library α) (c : Compiled) (g : Grid α) : Evaluated (Tensor α) := do
  let distances ← c.evaluate library g.centres sampleCoordinate
  ofShaped (distances.broadcastTo g.axes)

end

end SignedDistance
