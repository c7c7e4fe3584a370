import SignedDistance.Number.Numeral

/-!
# Numbers that distances are computed with

Everything that is computed is computed over a type with the operations below, so that the same
definitions can be run on machine numbers and be studied over exact ones. Inside the namespace
`Scalar` the operations are written with the usual signs.
-/

namespace SignedDistance

/-- The operations on numbers that distances need. -/
class Scalar (α : Type) where
  /-- The number that a numeral stands for. -/
  ofNumeral : Numeral → α
  /-- Sum. -/
  add : α → α → α
  /-- Difference. -/
  sub : α → α → α
  /-- Product. -/
  mul : α → α → α
  /-- Quotient. -/
  div : α → α → α
  /-- Minus. -/
  neg : α → α
  /-- Absolute value. -/
  abs : α → α
  /-- One, zero or minus one. -/
  sign : α → α
  /-- Square root. -/
  sqrt : α → α
  /-- Sine. -/
  sin : α → α
  /-- Cosine. -/
  cos : α → α
  /-- Inverse cosine. -/
  acos : α → α
  /-- The greatest integer that is not greater. -/
  floor : α → α
  /-- Power. -/
  power : α → α → α
  /-- The smaller of two numbers. -/
  minimum : α → α → α
  /-- The greater of two numbers. -/
  maximum : α → α → α
  /-- Whether the first number is less than the second. -/
  less : α → α → Bool
  /-- Whether two numbers are equal. -/
  equal : α → α → Bool

/-- Machine numbers; an undefined operand makes the result of `minimum` and `maximum` undefined, and
of zeros with different signs they take the second. -/
instance : Scalar Float where
  ofNumeral n := n.toDouble.toFloat
  add := Float.add
  sub := Float.sub
  mul := Float.mul
  div := Float.div
  neg := Float.neg
  abs := Float.abs
  sign x := if 0.0 < x then 1.0 else if x < 0.0 then -1.0 else if x.isNaN then x else 0.0
  sqrt := Float.sqrt
  sin := Float.sin
  cos := Float.cos
  acos := Float.acos
  floor := Float.floor
  power := Float.pow
  minimum a b := if a.isNaN || a < b then a else b
  maximum a b := if a.isNaN || b < a then a else b
  less a b := a < b
  equal a b := a == b

namespace Scalar

variable {α : Type} [Scalar α]

scoped instance instAdd : Add α := ⟨add⟩

scoped instance instSub : Sub α := ⟨sub⟩

scoped instance instMul : Mul α := ⟨mul⟩

scoped instance instDiv : Div α := ⟨div⟩

scoped instance instNeg : Neg α := ⟨neg⟩

scoped instance instOfScientific : OfScientific α where
  ofScientific digits negative exponent :=
    ofNumeral (.decimal false digits (if negative then -exponent else exponent))

/-- A natural number among the numbers. -/
def ofNat (n : Nat) : α :=
  ofNumeral (.decimal false n 0)

/-- Eight running sums, each increased by every eighth number, and the numbers that are left. -/
def runningSums (sums xs : List α) : List α × List α :=
  if 8 ≤ xs.length then runningSums (List.zipWith add sums (xs.take 8)) (xs.drop 8)
  else (sums, xs)
termination_by xs.length
decreasing_by simp only [List.length_drop]; omega

/-- Eight numbers added in pairs. -/
def pairedSum : List α → α
  | [a, b, c, d, e, f, g, h] => ((a + b) + (c + d)) + ((e + f) + (g + h))
  | xs => xs.foldl add 0.0

/-- The sum of eight or more numbers by blocks of at most 128, which keeps rounding errors small. In
a block eight sums run side by side. -/
def blockSum (xs : List α) : α :=
  if xs.length ≤ 128 then
    let (sums, rest) := runningSums (xs.take 8) (xs.drop 8)
    rest.foldl add (pairedSum sums)
  else
    let half := xs.length / 2
    let cut := half - half % 8
    blockSum (xs.take cut) + blockSum (xs.drop cut)
termination_by xs.length
decreasing_by all_goals simp only [List.length_take, List.length_drop]; omega

/-- The sum of a list of numbers, added to zero: from the first to the last if there are few of
them, else by blocks. A sum of negative zeros is a positive zero. -/
def sum (xs : List α) : α :=
  if xs.length < 8 then xs.foldl add 0.0 else add 0.0 (blockSum xs)

/-- The length of a vector with the given components. -/
def norm (components : List α) : α :=
  sqrt (sum (components.map fun x => x * x))

/-- The square of the length of a vector in the plane. -/
def dot2 (x y : α) : α :=
  x * x + y * y

/-- The length of a vector in the plane. -/
def length2 (x y : α) : α :=
  sqrt (dot2 x y)

/-- A number cut off below and above. -/
def clamp (x lo hi : α) : α :=
  minimum (maximum x lo) hi

/-- The nearest integer, a half going away from zero. -/
def round (x : α) : α :=
  sign x * floor (abs x + 0.5)

/-- The number on the way from `a` to `b`, for `t` from zero to one. -/
def mix (a b t : α) : α :=
  a * (1.0 - t) + b * t

/-- A smooth step from zero at `e0` to one at `e1`. -/
def smoothstep (e0 e1 x : α) : α :=
  let t := clamp ((x - e0) / (e1 - e0)) 0.0 1.0
  t * t * (3.0 - 2.0 * t)

/-- What is divided by in place of `d`: itself unless it is closer to zero than `eps`. -/
def divisor (eps d : α) : α :=
  if less (abs d) eps then sign d * eps + eps else d

/-- Division that keeps away from a zero divisor. -/
def safeDiv (n d : α) : α :=
  n / divisor 1e-12 d

end Scalar

end SignedDistance
