import SignedDistance.Expression.Basic

/-!
# Formulas of the operators

The distance expression of a transform or a combination, given those of its operands. A transform
that moves points substitutes the inverse motion for the coordinate of its child, so that nested
transforms see the coordinate that their parents have changed already. Moves and rotations change
nothing else; a scaling also multiplies the distance back. Bending and displacing are deliberate
approximations.
-/

namespace SignedDistance.Formula

/-- A function of one argument. -/
def app (fn : String) (e : Expr) : Expr :=
  .call fn [e]

/-- The smaller of two distances. -/
def minimum (a b : Expr) : Expr :=
  .call "min" [a, b]

/-- The greater of two distances. -/
def maximum (a b : Expr) : Expr :=
  .call "max" [a, b]

/-- The matrix that turns by minus an angle; `mat2` takes its entries column by column. -/
def inverseRotation (angle : Expr) : Expr :=
  let c := app "cos" angle
  let s := app "sin" angle
  .call "mat2" [c, -s, s, c]

/-- One component of the coordinate. -/
def component (field : String) : Expr :=
  .swizzle .here field

/-- A scene moved by an offset. -/
def translate (offset child : Expr) : Expr :=
  child.substitute (.here - offset)

/-- A scene changed by an amount. -/
def adjust (kind : Adjustment) (amount child : Expr) : Expr :=
  match kind with
  | .rotate => child.substitute (inverseRotation amount * .here)
  | .scale => amount * child.substitute (.here / amount)
  | .hollow => app "abs" child - amount
  | .melt => child - amount
  | .bend => child.substitute (inverseRotation (amount * component "x") * .here)
  | .displace => child + app "sin" (amount * component "x") * app "sin" (amount * component "y")

/-- Two scenes combined sharply. -/
def combine (op : Combination) (a b : Expr) : Expr :=
  match op with
  | .unite => minimum a b
  | .subtract => maximum (-a) b
  | .intersect => maximum a b

/-- What a blend over `k` takes off the distance, where `gap` vanishes on the seam: `h * h / (4 *
k)` with `h` the part of the gap that is missing to `k`. -/
def blendCorrection (k gap : Expr) : Expr :=
  let h := maximum (k - app "abs" gap) (.lit "0.0")
  h * h * .lit "0.25" / k

/-- Two scenes combined with a seam blended over `k`. -/
def blend (op : Combination) (a b k : Expr) : Expr :=
  match op with
  | .unite => minimum a b - blendCorrection k (a - b)
  | .subtract => -minimum a (-b) - blendCorrection k (a + b)
  | .intersect => -minimum (-a) (-b) - blendCorrection k (-a + b)

end SignedDistance.Formula
