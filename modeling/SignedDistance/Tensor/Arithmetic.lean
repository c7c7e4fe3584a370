import SignedDistance.Scalar.Combination
import SignedDistance.Tensor.Broadcast

/-!
# Arithmetic on arrays

Functions of numbers applied entry by entry, and the few operations along the innermost axis. An
operation on several arrays fails if their shapes do not fit together.
-/

namespace SignedDistance

/-- Results of operations on arrays: a value, or the reason why the shapes have none. -/
abbrev Shaped := Except ShapeError

namespace Tensor

variable {α β γ δ ε ζ : Type}

/-- A function of three arguments, entry by entry. -/
def zipWith3 (f : α → β → γ → δ) (a : Tensor α) (b : Tensor β) (c : Tensor γ) :
    Shaped (Tensor δ) := do
  zipWith (fun g x => g x) (← zipWith f a b) c

/-- A function of four arguments, entry by entry. -/
def zipWith4 (f : α → β → γ → δ → ε) (a : Tensor α) (b : Tensor β) (c : Tensor γ) (d : Tensor δ) :
    Shaped (Tensor ε) := do
  zipWith (fun g x => g x) (← zipWith3 f a b c) d

/-- A function of five arguments, entry by entry. -/
def zipWith5 (f : α → β → γ → δ → ε → ζ) (a : Tensor α) (b : Tensor β) (c : Tensor γ)
    (d : Tensor δ) (e : Tensor ε) : Shaped (Tensor ζ) := do
  zipWith (fun g x => g x) (← zipWith4 f a b c d) e

/-- The first array where the condition holds, the second elsewhere. -/
def select (condition : Tensor Bool) (yes no : Tensor α) : Shaped (Tensor α) :=
  zipWith3 (fun choice a b => if choice then a else b) condition yes no

variable [Scalar α]

/-- The sum of the components of a vector. -/
def sum (t : Tensor α) : Tensor α :=
  t.foldInner Scalar.sum

/-- The length of a vector. -/
def norm (t : Tensor α) : Shaped (Tensor α) :=
  match t.axes with
  | [] => .error .noAxis
  | _ :: _ => .ok (t.foldInner Scalar.norm)

/-- The inner product of two vectors. -/
def dot (s t : Tensor α) : Shaped (Tensor α) := do
  return (← zipWith Scalar.mul s t).sum

/-- The square of the length of a vector. -/
def dot2 (t : Tensor α) : Shaped (Tensor α) :=
  t.dot t

/-- Two arrays as the components of vectors. -/
def vec2 (x y : Tensor α) : Shaped (Tensor α) :=
  stack [x, y]

end Tensor

end SignedDistance
