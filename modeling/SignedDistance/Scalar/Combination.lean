import SignedDistance.Scalar.Basic

/-!
# Combinations of two distances

The distance of a combined shape from the distances of its parts. The smooth combinations take off
`h * h / (4 * k)` near the seam, where `h` is what the gap between the two distances is short of
`k`.
-/

namespace SignedDistance.Scalar

variable {α : Type} [Scalar α]

/-- The points of either shape. -/
def union (d1 d2 : α) : α :=
  minimum d1 d2

/-- The points of the second shape that are not in the first. -/
def subtraction (d1 d2 : α) : α :=
  maximum (-d1) d2

/-- The points of both shapes. -/
def intersection (d1 d2 : α) : α :=
  maximum d1 d2

/-- What a blend over `k` takes off, where `gap` vanishes on the seam. -/
def blendCorrection (k gap : α) : α :=
  let h := maximum (k - abs gap) 0.0
  h * h * 0.25 / k

/-- The union with a seam blended over `k`. -/
def smoothUnion (d1 d2 k : α) : α :=
  minimum d1 d2 - blendCorrection k (d1 - d2)

/-- The subtraction with a seam blended over `k`. -/
def smoothSubtraction (d1 d2 k : α) : α :=
  maximum (-d1) d2 - blendCorrection k (d1 + d2)

/-- The intersection with a seam blended over `k`. -/
def smoothIntersection (d1 d2 k : α) : α :=
  maximum d1 d2 - blendCorrection k (d2 - d1)

/-- A shell around the outline of a shape. -/
def onion (d thickness : α) : α :=
  abs d - thickness

end SignedDistance.Scalar
