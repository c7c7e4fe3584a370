import SignedDistance.Number.Fixed

/-!
# Shortest decimal text of a double

A finite double is shown with the fewest digits that read back as the same double; among those, with
the digits nearest to it. The reals that round to a double form an interval whose ends belong to it
exactly when the mantissa is even. For each count of digits the two grid points around the value are
tried; if any point of a grid lies in the interval, one of these does.
-/

namespace SignedDistance.Double

/-- A positive rational number scaled by a power of two: `num * 2 ^ exponent`. -/
structure Scaled where
  /-- The numerator. -/
  num : Nat
  /-- The power of two. -/
  exponent : Int

/-- Compares `n * 10 ^ power` with a scaled number. -/
def compareGrid (n : Nat) (power : Int) (x : Scaled) : Ordering :=
  compare (n * pow10 power.toNat * pow2 (-x.exponent).toNat)
    (x.num * pow2 x.exponent.toNat * pow10 (-power).toNat)

/-- The greatest `n` with `n * 10 ^ power` at most the scaled number. -/
def gridFloor (power : Int) (x : Scaled) : Nat :=
  x.num * pow2 x.exponent.toNat * pow10 (-power).toNat
    / (pow10 power.toNat * pow2 (-x.exponent).toNat)

/-- The power of ten of the first digit of a positive scaled number. -/
def leadingPower (x : Scaled) : Int :=
  let guess := (((x.num.log2 : Int) + x.exponent) * 30103).fdiv 100000
  if compareGrid 1 guess x == .gt then guess - 1
  else if compareGrid 1 (guess + 1) x == .gt then guess
  else guess + 1

/-- The reals that round to a double, given by four times its value and its interval's ends. -/
structure Neighbourhood where
  /-- The double itself. -/
  value : Scaled
  /-- The lower end. -/
  lower : Scaled
  /-- The upper end. -/
  upper : Scaled
  /-- Whether the ends round to the double too. -/
  closed : Bool

/-- The interval of a positive finite double. Below a power of two the doubles lie twice as
dense. -/
def neighbourhood (mantissa : Nat) (exponent : Int) : Neighbourhood :=
  let gap := if mantissa = pow2 52 ∧ -1074 < exponent then 1 else 2
  { value := ⟨4 * mantissa, exponent - 2⟩
    lower := ⟨4 * mantissa - gap, exponent - 2⟩
    upper := ⟨4 * mantissa + 2, exponent - 2⟩
    closed := mantissa % 2 = 0 }

/-- Whether `n * 10 ^ power` rounds to the double. -/
def Neighbourhood.has (i : Neighbourhood) (n : Nat) (power : Int) : Bool :=
  match compareGrid n power i.lower, compareGrid n power i.upper with
  | .gt, .lt => true
  | .eq, _ => i.closed
  | _, .eq => i.closed
  | _, _ => false

/-- The point of the grid `10 ^ power` that reads back and is nearest to the double, the even one in
a tie. -/
def Neighbourhood.nearest? (i : Neighbourhood) (power : Int) : Option Nat :=
  let below := gridFloor power i.value
  match i.has below power, i.has (below + 1) power with
  | false, false => none
  | true, false => some below
  | false, true => some (below + 1)
  | true, true =>
    match compareGrid (2 * below + 1) power ⟨i.value.num, i.value.exponent + 1⟩ with
    | .gt => some below
    | .lt => some (below + 1)
    | .eq => some (below + below % 2)

/-- The first of the grids with `count`, `count + 1`, … digits that has a point which reads back. -/
def Neighbourhood.search (i : Neighbourhood) (leading : Int) : Nat → Nat → Nat × Int
  | 0, count => (gridFloor (leading - count) i.value, leading - count)
  | fuel + 1, count =>
    match i.nearest? (leading - count) with
    | some n => (n, leading - count)
    | none => i.search leading fuel (count + 1)

/-- Removes trailing zeros, raising the power of ten. -/
def dropZeros : Nat → Nat → Int → Nat × Int
  | 0, n, power => (n, power)
  | fuel + 1, n, power =>
    if n ≠ 0 ∧ n % 10 = 0 then dropZeros fuel (n / 10) (power + 1) else (n, power)

/-- The shortest digits of a positive finite double and the power of ten of the last one. -/
def shortestDigits (mantissa : Nat) (exponent : Int) : Nat × Int :=
  let i := neighbourhood mantissa exponent
  let (n, power) := i.search (leadingPower i.value) 17 0
  dropZeros 20 n power

/-- Digits laid out as a number is shown: positionally when the first digit stands for a power of
ten from -4 to 15, with a digit after the point; else with an exponent of at least two digits. -/
def layOut (n : Nat) (power : Int) : List Char :=
  let digits := Nat.toDigits 10 n
  let left : Int := power + digits.length
  if -4 < left ∧ left ≤ 16 then
    if (digits.length : Int) ≤ left then
      Decimal.placePoint digits left ++ ['.', '0']
    else Decimal.placePoint digits left
  else
    let e := left - 1
    let expDigits := Nat.toDigits 10 e.natAbs
    Decimal.placePoint digits 1 ++ 'e' :: (if e < 0 then '-' else '+')
      :: (List.replicate (2 - expDigits.length) '0' ++ expDigits)

/-- The text that shows a double. -/
def shown (x : Double) : String :=
  match x.view with
  | .nan => "nan"
  | .infinite negative => if negative then "-inf" else "inf"
  | .finite negative mantissa exponent =>
    let chars :=
      if mantissa = 0 then ['0', '.', '0']
      else
        let (n, power) := shortestDigits mantissa exponent
        layOut n power
    String.ofList (if negative then '-' :: chars else chars)

end SignedDistance.Double
