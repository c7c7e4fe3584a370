import SignedDistance.Primitive.Library

/-!
# Combinations of arrays of distances

The combinations of `Scalar` applied to distances at many points, and the scaling of a primitive.
-/

namespace SignedDistance.Primitive

variable {α : Type} [Scalar α]

/-- Numbers held between bounds. -/
def clamp (x lo hi : Tensor α) : Shaped (Tensor α) :=
  Tensor.zipWith3 Scalar.clamp x lo hi

/-- Division that keeps away from zero divisors. -/
def safeDiv (n d : Tensor α) : Shaped (Tensor α) :=
  Tensor.zipWith Scalar.safeDiv n d

/-- Division that keeps away from divisors closer to zero than a margin. -/
def safeDivWithin (n d margin : Tensor α) : Shaped (Tensor α) :=
  Tensor.zipWith3 (fun n d eps => Scalar.div n (Scalar.divisor eps d)) n d margin

/-- The points of either shape. -/
def union (d1 d2 : Tensor α) : Shaped (Tensor α) :=
  Tensor.zipWith Scalar.union d1 d2

/-- The points of the second shape that are not in the first. -/
def subtraction (d1 d2 : Tensor α) : Shaped (Tensor α) :=
  Tensor.zipWith Scalar.subtraction d1 d2

/-- The points of both shapes. -/
def intersection (d1 d2 : Tensor α) : Shaped (Tensor α) :=
  Tensor.zipWith Scalar.intersection d1 d2

/-- The union with a seam blended over `k`. -/
def smoothUnion (d1 d2 k : Tensor α) : Shaped (Tensor α) :=
  Tensor.zipWith3 Scalar.smoothUnion d1 d2 k

/-- The subtraction with a seam blended over `k`. -/
def smoothSubtraction (d1 d2 k : Tensor α) : Shaped (Tensor α) :=
  Tensor.zipWith3 Scalar.smoothSubtraction d1 d2 k

/-- The intersection with a seam blended over `k`. -/
def smoothIntersection (d1 d2 k : Tensor α) : Shaped (Tensor α) :=
  Tensor.zipWith3 Scalar.smoothIntersection d1 d2 k

/-- A shell around the outline of a shape. -/
def onion (d thickness : Tensor α) : Shaped (Tensor α) :=
  Tensor.zipWith Scalar.onion d thickness

/-- A primitive grown by a factor: its distance at the shrunken points, grown again. -/
def scale (primitive : CallMeaning α) (extra : List (Tensor α)) (p s : Tensor α) :
    Except CallError (Tensor α) := do
  let inner ← toCall (Tensor.zipWith Scalar.div p s)
  toCall (Tensor.zipWith Scalar.mul (← primitive (inner :: extra)) s)

end SignedDistance.Primitive
