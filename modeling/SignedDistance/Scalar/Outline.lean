import SignedDistance.Scalar.Basic

/-!
# Distances to outlines at one point

The distance from the point `(x, y)` to the outline of a shape around the origin, negative inside.
-/

namespace SignedDistance.Scalar

variable {α : Type} [Scalar α]

/-! ## Boxes -/

/-- The arc of a rounded corner, in coordinates in which its radius is the square root of two. -/
def cornerCircle (x y : α) : α :=
  length2 (x - 0.0) (y - -1.0) - sqrt 2.0

/-- A box with corner radius `r`, where `(qx, qy)` is the point folded into the first quadrant and
counted from the corner's centre. -/
def roundedCorner (qx qy r : α) : α :=
  let side := maximum qx qy - r
  let corner := cornerCircle (abs (qx - qy) / r) ((qx + qy - r) / r) * r * sqrt 0.5
  if less (minimum qx qy) 0.0 then side else corner

/-! ## Curved shapes -/

/-- A heart of about unit size, standing on the origin. -/
def heart (x y : α) : α :=
  let x := abs x
  let lobe := sqrt (dot2 (x - 0.25) (y - 0.75)) - sqrt 2.0 / 4.0
  let s := 0.5 * maximum (x + y) 0.0
  let flank := sqrt (minimum (dot2 x (y - 1.0)) (dot2 (x - s) (y - s))) * sign (x - y)
  if less 1.0 (x + y) then lobe else flank

/-- A crescent: a disc of radius `ra` less one of radius `rb` at distance `d`. -/
def moon (x y d ra rb : α) : α :=
  let y := abs y
  let a := (ra * ra - rb * rb + d * d) / (2.0 * d)
  let b := sqrt (maximum (ra * ra - a * a) 0.0)
  let horn := less (d * d * maximum (b - y) 0.0) (d * (x * b - y * a))
  if horn then length2 (x - a) (y - b)
  else maximum (length2 x y - ra) (-(length2 (x - d) y - rb))

/-- The cube root, with its sign. -/
def cubeRoot (x : α) : α :=
  sign x * power (abs x) (1.0 / 3.0)

/-- The coefficients of the cubic equation for the nearest point of an ellipse. -/
structure EllipseCubic (α : Type) where
  /-- The difference of the squared semi-axes. -/
  l : α
  /-- The scaled first coordinate. -/
  m : α
  /-- The scaled second coordinate. -/
  n : α
  /-- A third of `m² + n² - 1`. -/
  c : α
  /-- `c³ + 2 m² n²`. -/
  q : α
  /-- The discriminant `c³ + m² n²`. -/
  d : α
  /-- `m + m n²`. -/
  g : α

/-- The cubic equation for a point `(x, y)` and semi-axes `a` and `b`. -/
def EllipseCubic.ofPoint (x y a b : α) : EllipseCubic α :=
  let l := b * b - a * a
  let m := a * x / l
  let m2 := m * m
  let n := b * y / l
  let n2 := n * n
  let c := (m2 + n2 - 1.0) / 3.0
  let c3 := c * c * c
  { l, m, n, c, q := c3 + m2 * n2 * 2.0, d := c3 + m2 * n2, g := m + m * n2 }

/-- The cube of `c`. -/
def EllipseCubic.cube (e : EllipseCubic α) : α :=
  e.c * e.c * e.c

/-- The cosine of the nearest point's angle if the equation has three real solutions. -/
def EllipseCubic.threeSolutions (e : EllipseCubic α) : α :=
  let m2 := e.m * e.m
  let h := acos (clamp (safeDiv e.q e.cube) (-1.0) 1.0) / 3.0
  let s := cos h
  let t := sin h * sqrt 3.0
  let rx := sqrt (maximum (-e.c * (s + t + 2.0) + m2) 0.0)
  let ry := sqrt (maximum (-e.c * (s - t + 2.0) + m2) 0.0)
  (ry + sign e.l * rx + abs e.g / maximum (rx * ry) 1e-30 - e.m) / 2.0

/-- The complex number whose square root leads to the only real solution. -/
structure EllipseRoot (α : Type) where
  /-- The real part. -/
  re : α
  /-- The imaginary part. -/
  im : α

/-- The complex number for an equation with one real solution. -/
def EllipseCubic.root (e : EllipseCubic α) : EllipseRoot α :=
  let m2 := e.m * e.m
  let h := 2.0 * e.m * e.n * sqrt (maximum e.d 0.0)
  let s := cubeRoot (e.q + h)
  let u := cubeRoot (e.q - h)
  { re := -s - u - e.c * 4.0 + 2.0 * m2, im := (s - u) * sqrt 3.0 }

/-- The absolute value of the complex number. -/
def EllipseRoot.modulus (r : EllipseRoot α) : α :=
  sqrt (maximum (r.re * r.re + r.im * r.im) 0.0)

/-- The square root of what the real part is short of the absolute value. -/
def EllipseRoot.gap (r : EllipseRoot α) : α :=
  sqrt (maximum (r.modulus - r.re) 0.0)

/-- The cosine of the nearest point's angle if the equation has one real solution. -/
def EllipseCubic.oneSolution (e : EllipseCubic α) : α :=
  let r := e.root
  (safeDiv r.im r.gap + 2.0 * e.g / maximum r.modulus 1e-30 - e.m) / 2.0

/-- An ellipse with semi-axes `a` and `b`, for a point with `0 ≤ x ≤ y`. -/
def ellipseFolded (x y a b : α) : α :=
  let e := EllipseCubic.ofPoint x y a b
  let co := if less e.d 0.0 then e.threeSolutions else e.oneSolution
  let rx := a * co
  let ry := b * sqrt (maximum (1.0 - co * co) 0.0)
  length2 (rx - x) (ry - y) * sign (y - ry)

/-- An ellipse with semi-axes `a` and `b`; the point is folded and, with the axes, swapped so that
its first coordinate is not the greater one. -/
def ellipse (x y a b : α) : α :=
  let x := abs x
  let y := abs y
  if less y x then ellipseFolded y x b a else ellipseFolded x y a b

/-! ## Polygonal shapes -/

/-- A star with five points, outer radius `r` and inner factor `rf`. -/
def star (x y r rf : α) : α :=
  let kx : α := 0.809016994375
  let ky : α := -0.587785252292
  let x := abs x
  let t := 2.0 * maximum (kx * x + ky * y) 0.0
  let x := x - t * kx
  let y := y - t * ky
  let t := 2.0 * maximum (-kx * x + ky * y) 0.0
  let x := x - t * -kx
  let y := y - t * ky
  let x := abs x
  let y := y - r
  let bax := rf * -ky
  let bay := rf * kx - 1.0
  let h := clamp ((x * bax + y * bay) / (bax * bax + bay * bay)) 0.0 r
  length2 (x - bax * h) (y - bay * h) * sign (y * bax - x * bay)

/-- An equilateral triangle with half side length `r`, for a point counted from its lower corner on
the right. -/
def triangleFromCorner (x y r : α) : α :=
  let k : α := sqrt 3.0
  let beyond := less 0.0 (x + k * y)
  let foldedX := if beyond then (x - k * y) / 2.0 else x
  let foldedY := if beyond then (-k * x - y) / 2.0 else y
  let x := foldedX - clamp foldedX (-2.0 * r) 0.0
  (-length2 x foldedY) * sign foldedY

/-- A pointed S made of straight strokes. -/
def pointedS (x y : α) : α :=
  let six := if less y 0.0 then -x else x
  let x := abs x
  let y := abs y - 0.2
  let rex := x - minimum (floor (x / 0.4 + 0.5)) 0.4
  let aby := abs (y - 0.2) - 0.6
  let slant := clamp (0.5 * (six - y)) 0.0 0.2
  let d := dot2 (six - slant) (-y - slant)
  let roof := clamp (0.5 * (x - aby)) 0.0 0.4
  let d := minimum d (dot2 (x - roof) (-aby - roof))
  let d := minimum d (dot2 rex (y - clamp y 0.0 0.4))
  let s := 2.0 * x + aby + abs (aby + 0.4) - 0.4
  sqrt d * sign s

end SignedDistance.Scalar
