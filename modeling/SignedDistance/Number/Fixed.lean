import SignedDistance.Number.Double

/-!
# Numbers with a fixed number of places

`Double.rounded` scales the exact value of a double by a power of ten and rounds it to a natural
number, a half going away from zero. `Decimal.text` lays such a coefficient out: positionally unless
the exponent is positive or the first digit stands more than six places after the point.
-/

namespace SignedDistance

/-- The decimal number `± coefficient * 10 ^ exponent`. -/
structure Decimal where
  /-- The sign; a negative zero keeps it. -/
  negative : Bool
  /-- The digits, as a number. -/
  coefficient : Nat
  /-- The power of ten of the last digit. -/
  exponent : Int
deriving DecidableEq, Repr

namespace Decimal

/-- An integer with its sign always written. -/
def signed (n : Int) : List Char :=
  (if n < 0 then '-' else '+') :: Nat.toDigits 10 n.natAbs

/-- Digits with a point so that `left` of them stand before it. -/
def placePoint (digits : List Char) (left : Int) : List Char :=
  if left ≤ 0 then
    '0' :: '.' :: (List.replicate (-left).toNat '0' ++ digits)
  else if (digits.length : Int) ≤ left then
    digits ++ List.replicate (left.toNat - digits.length) '0'
  else
    digits.take left.toNat ++ '.' :: digits.drop left.toNat

/-- The digits of a decimal number, without its sign. -/
def unsignedChars (x : Decimal) : List Char :=
  let digits := Nat.toDigits 10 x.coefficient
  let left : Int := x.exponent + digits.length
  if x.exponent ≤ 0 ∧ -6 < left then placePoint digits left
  else
    placePoint digits 1 ++ (if left = 1 then [] else 'E' :: signed (left - 1))

/-- The text of a decimal number. -/
def text (x : Decimal) : String :=
  String.ofList ((if x.negative then ['-'] else []) ++ x.unsignedChars)

end Decimal

namespace Double

/-- The value `mantissa * 2 ^ exponent * 10 ^ places`, rounded to a natural number; a half goes
up. -/
def scaledRound (mantissa : Nat) (exponent places : Int) : Nat :=
  let num := mantissa * pow2 exponent.toNat * pow10 places.toNat
  let den := pow2 (-exponent).toNat * pow10 (-places).toNat
  (2 * num + den) / (2 * den)

/-- Why a double cannot be written with a number of places. -/
inductive FixedFault where
  /-- That takes too many digits, or the double is not finite. -/
  | tooManyDigits
  /-- The unit of the last place is too large. -/
  | unitTooLarge
deriving DecidableEq, Repr

/-- The most digits that a number with fixed places may have. -/
def maxFixedDigits : Nat := 400

/-- The greatest power of ten that may be the unit of the last place. -/
def maxUnitPower : Int := 999999

/-- The most places that are written; a smaller unit than theirs counts as theirs. -/
def maxPlaces : Int := 1000026

/-- The greatest distance of the last place from the point that can be asked for. -/
def maxPlaceDistance : Nat := 2000054

/-- A finite double with `places` digits after the point, its sign kept unless it is zero. -/
def fixed (x : Double) (places : Int) : Except FixedFault Decimal :=
  if maxPlaceDistance < places.natAbs then .error .tooManyDigits
  else if maxUnitPower < -places then .error .unitTooLarge
  else
    let places := min places maxPlaces
    match x.foldZero.view with
    | .finite negative mantissa exponent =>
      let coefficient := scaledRound mantissa exponent places
      if pow10 maxFixedDigits ≤ coefficient then .error .tooManyDigits
      else .ok ⟨negative, coefficient, -places⟩
    | _ => .error .tooManyDigits

end Double

end SignedDistance
