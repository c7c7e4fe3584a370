import SignedDistance.Number.Power

/-!
# Double-precision numbers

A double is its bit pattern: a sign bit, eleven bits of exponent and fifty-two bits of fraction. Its
meaning is read through `Double.view`, which gives a finite number as `± mantissa * 2 ^ exponent`.
Doubles are made from exact quotients by `Double.ofRatio`, which rounds to the nearest one and takes
the even neighbour in a tie; every other way to make one goes through it.
-/

namespace SignedDistance

/-- A double-precision number. -/
structure Double where
  /-- The bit pattern, sign bit first. -/
  bits : UInt64
deriving DecidableEq, Inhabited

namespace Double

/-- What a bit pattern stands for. -/
inductive View where
  /-- The number `± mantissa * 2 ^ exponent`. -/
  | finite (negative : Bool) (mantissa : Nat) (exponent : Int)
  /-- An infinity. -/
  | infinite (negative : Bool)
  /-- Not a number. -/
  | nan
deriving DecidableEq, Repr

/-- The meaning of a bit pattern. -/
def view (x : Double) : View :=
  let bits := x.bits.toNat
  let negative : Bool := pow2 63 ≤ bits
  let biased : Nat := bits / pow2 52 % pow2 11
  let fraction := bits % pow2 52
  if biased = 2047 then
    if fraction = 0 then .infinite negative else .nan
  else if biased = 0 then
    .finite negative fraction (-1074)
  else
    .finite negative (fraction + pow2 52) ((biased : Int) - 1075)

/-- Neither infinite nor not-a-number. -/
def isFinite (x : Double) : Bool :=
  match x.view with
  | .finite .. => true
  | _ => false

/-- The pattern of `± mantissa * 2 ^ exponent`, for an exponent from -1074 to 971 and a mantissa
that is at least `2 ^ 52` unless the exponent is the least one. A mantissa of `2 ^ 53` carries into
the exponent, which is the pattern of the next power of two. -/
def pack (negative : Bool) (mantissa : Nat) (exponent : Int) : Double :=
  ⟨UInt64.ofNat ((if negative then pow2 63 else 0) + (exponent + 1074).toNat * pow2 52 + mantissa)⟩

/-- Zero, with a sign. -/
def zero (negative : Bool) : Double :=
  pack negative 0 (-1074)

/-- Infinity, with a sign. -/
def infinity (negative : Bool) : Double :=
  pack negative (pow2 52) 972

/-- The pattern used for not-a-number. -/
def nan : Double :=
  ⟨0x7FF8000000000000⟩

/-- The natural number nearest to `num / den`, the even one in a tie. -/
def divNearestEven (num den : Nat) : Nat :=
  let quotient := num / den
  let twice := 2 * (num % den)
  if twice < den then quotient
  else if den < twice then quotient + 1
  else quotient + quotient % 2

/-- The exponent `e` for which `num / den / 2 ^ e` lies in `[2 ^ 52, 2 ^ 53)`. -/
def binade (num den : Nat) : Int :=
  let guess : Int := (num.log2 : Int) - den.log2 - 52
  if num * pow2 (-guess).toNat < den * pow2 guess.toNat * pow2 52 then guess - 1 else guess

/-- The double nearest to `± num / den`, the one with an even mantissa in a tie. -/
def ofRatio (negative : Bool) (num den : Nat) : Double :=
  if num = 0 then zero negative
  else
    let exponent := max (-1074) (binade num den)
    if 971 < exponent then infinity negative
    else
      pack negative
        (divNearestEven (num * pow2 (-exponent).toNat) (den * pow2 exponent.toNat)) exponent

/-- The number of decimal digits of a natural number, one for zero. -/
def digitCount (n : Nat) : Nat :=
  (Nat.toDigits 10 n).length

/-- The double nearest to `± digits * 10 ^ exponent`. Numbers far outside the range of doubles are
answered without forming the power of ten. -/
def ofDecimal (negative : Bool) (digits : Nat) (exponent : Int) : Double :=
  let magnitude := exponent + digitCount digits
  if digits = 0 then zero negative
  else if 400 < magnitude then infinity negative
  else if magnitude < -400 then zero negative
  else ofRatio negative (digits * pow10 exponent.toNat) (pow10 (-exponent).toNat)

/-- The double nearest to an integer, `none` if that is beyond the largest double. -/
def ofInt? (n : Int) : Option Double :=
  let x := ofRatio (n < 0) n.natAbs 1
  if x.isFinite then some x else none

/-- The same double without the sign of a negative zero. -/
def foldZero (x : Double) : Double :=
  if x = zero true then zero false else x

/-- The machine number with this pattern. -/
def toFloat (x : Double) : Float :=
  Float.ofBits x.bits

/-- The pattern of a machine number; every not-a-number has the one pattern `Double.nan`. -/
def ofFloat (x : Float) : Double :=
  if x.isNaN then nan else ⟨x.toBits⟩

/-- The product, rounded to nearest. -/
def mul (x y : Double) : Double :=
  ofFloat (x.toFloat * y.toFloat)

end Double

end SignedDistance
