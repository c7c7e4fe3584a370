import SignedDistance.Scalar.Outline
import SignedDistance.Tensor.Arithmetic

/-!
# Primitives

The primitive shapes as functions on arrays. The first argument holds points, with the coordinates
along the innermost axis; the parameters are arrays too, with vectors along the innermost axis, and
everything is stretched to common axes. What an array does not have (a coordinate, an axis) is
missed in the order in which it is asked for.
-/

namespace SignedDistance.Primitive

open Scalar

variable {α : Type} [Scalar α]

/-- The arc of a rounded corner, in coordinates in which its radius is the square root of two. -/
def cornerCircle (p : Tensor α) : Shaped (Tensor α) := do
  let centre : Tensor α := .ofFn [2] fun (c, _) => if c = 0 then 0.0 else -1.0
  let d ← (← p.zipWith Scalar.sub centre).norm
  return d.map (· - sqrt 2.0)

/-- A box with half extents `b` and corner radii `r`, in the order top right, bottom right, top
left, bottom left. -/
def roundedBox (p b r : Tensor α) : Shaped (Tensor α) := do
  let px ← p.component 0
  let py ← p.component 1
  let right := px.map (less 0.0)
  let radii ← right.expand.select (← r.slice 0 2) (← r.slice 2 4)
  let radius ← (py.map (less 0.0)).select (← radii.component 0) (← radii.component 1)
  let inner ← p.zipWith (fun x extent => Scalar.abs x - extent) b
  let q ← inner.zipWith Scalar.add radius.expand
  Tensor.zipWith3 roundedCorner (← q.component 0) (← q.component 1) radius

/-- A box with half extents `b` and hairline corners. -/
def plainBox (p b : Tensor α) : Shaped (Tensor α) :=
  roundedBox p b (.ofFn [4] fun _ => 0.01)

/-- A circle of radius `r`. -/
def circle (p r : Tensor α) : Shaped (Tensor α) := do
  (← p.norm).zipWith Scalar.sub r

/-- A heart. -/
def heart (p : Tensor α) : Shaped (Tensor α) := do
  Tensor.zipWith Scalar.heart (← p.component 0) (← p.component 1)

/-- A crescent: a disc of radius `ra` less one of radius `rb` at distance `d`. -/
def moon (p d ra rb : Tensor α) : Shaped (Tensor α) := do
  Tensor.zipWith5 Scalar.moon (← p.component 0) (← p.component 1) d ra rb

/-- An ellipse with semi-axes `ab`. -/
def ellipse (p ab : Tensor α) : Shaped (Tensor α) := do
  let x ← p.component 0
  let y ← p.component 1
  let b ← ab.component 1
  let a ← ab.component 0
  Tensor.zipWith4 Scalar.ellipse x y a b

/-- A star with five points, outer radius `r` and inner factor `rf`. -/
def star (p r rf : Tensor α) : Shaped (Tensor α) := do
  Tensor.zipWith4 Scalar.star (← p.component 0) (← p.component 1) r rf

/-- An equilateral triangle with half side length `r`. -/
def triangle (p r : Tensor α) : Shaped (Tensor α) := do
  let x ← (← p.component 0).zipWith (fun x r => Scalar.abs x - r) r
  let y ← (← p.component 1).zipWith (fun y r => y + r / sqrt 3.0) r
  Tensor.zipWith3 triangleFromCorner x y r

/-- A pointed S. -/
def pointedS (p : Tensor α) : Shaped (Tensor α) := do
  let y ← p.component 1
  let x ← p.component 0
  Tensor.zipWith Scalar.pointedS x y

end SignedDistance.Primitive
