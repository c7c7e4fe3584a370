import Mathlib
import SignedDistance.Scalar.Basic

/-!
# Exact numbers

Distances can be studied over any ordered field whose elements are computed with exactly
(`ExactScalar`). Of the circular functions only `cos t ^ 2 + sin t ^ 2 = 1` is asked. The real
numbers are such a field. Where distances are not compared, no order is needed (`ExactField`).
-/

-- The signs below are those of the field, so the namespace `Scalar` stays closed.
namespace SignedDistance

/-- A field that is computed with exactly. -/
class ExactField (K : Type) [Field K] [Scalar K] : Prop where
  ofNumeral_decimal : ∀ (negative : Bool) (digits : Nat) (exponent : Int),
    Scalar.ofNumeral (.decimal negative digits exponent) =
      (if negative then -1 else 1) * (digits : K) * (10 : K) ^ exponent
  add_eq : ∀ a b : K, Scalar.add a b = a + b
  sub_eq : ∀ a b : K, Scalar.sub a b = a - b
  mul_eq : ∀ a b : K, Scalar.mul a b = a * b
  div_eq : ∀ a b : K, Scalar.div a b = a / b
  neg_eq : ∀ a : K, Scalar.neg a = -a
  cos_sq_add_sin_sq : ∀ t : K, Scalar.cos t ^ 2 + Scalar.sin t ^ 2 = 1

theorem ExactField.ofNat_eq {K : Type} [Field K] [Scalar K] [ExactField K] (n : Nat) :
    (Scalar.ofNat n : K) = n := by
  rw [Scalar.ofNat, ofNumeral_decimal, zpow_zero, mul_one]
  exact one_mul _

/-- An ordered field that is computed with exactly. -/
class ExactScalar (K : Type) [Field K] [LinearOrder K] [IsStrictOrderedRing K] [Scalar K] : Prop
    extends ExactField K where
  abs_eq : ∀ a : K, Scalar.abs a = |a|
  minimum_eq : ∀ a b : K, Scalar.minimum a b = min a b
  maximum_eq : ∀ a b : K, Scalar.maximum a b = max a b

/-- The real numbers; what is not a number counts as zero. -/
noncomputable instance : Scalar ℝ where
  ofNumeral
    | .decimal negative digits exponent => (if negative then -1 else 1) * digits * 10 ^ exponent
    | _ => 0
  add a b := a + b
  sub a b := a - b
  mul a b := a * b
  div a b := a / b
  neg a := -a
  abs a := |a|
  sign a := SignType.sign a
  sqrt := Real.sqrt
  sin := Real.sin
  cos := Real.cos
  acos := Real.arccos
  floor a := ⌊a⌋
  power a b := a ^ b
  minimum := min
  maximum := max
  less a b := decide (a < b)
  equal a b := decide (a = b)

instance : ExactScalar ℝ where
  ofNumeral_decimal _ _ _ := rfl
  add_eq _ _ := rfl
  sub_eq _ _ := rfl
  mul_eq _ _ := rfl
  div_eq _ _ := rfl
  neg_eq _ := rfl
  abs_eq _ := rfl
  minimum_eq _ _ := rfl
  maximum_eq _ _ := rfl
  cos_sq_add_sin_sq := Real.cos_sq_add_sin_sq

end SignedDistance
