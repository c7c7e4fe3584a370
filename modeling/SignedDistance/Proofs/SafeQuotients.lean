import Mathlib
import SignedDistance.Primitive.Combination
import SignedDistance.Proofs.ExactScalars
import SignedDistance.Proofs.SinglePoints

/-!
# Divisors near zero

A safe quotient divides by `Scalar.divisor eps d` in place of `d`. Over the real numbers this is `d`
itself if `d` is not closer to zero than `eps`, and positive if `d` is not negative. But a negative
`d` that is closer to zero than `eps` is replaced by zero (`divisor_eq_zero_iff`), because the two
margins added in its place cancel. Of the two quotients that the distance to an ellipse needs, the
one with a square root below it is never divided by zero. The other is, for all semi-axes: there are
points on the second axis where the cube in its denominator is negative and too small.
-/

-- The signs below are those of the real numbers, so the namespace `Scalar` stays closed.
namespace SignedDistance

/-! ## What is divided by -/

section Divisors

variable {eps d : ℝ}

theorem divisor_real (eps d : ℝ) : Scalar.divisor eps d =
    if |d| < eps then (SignType.sign d : ℝ) * eps + eps else d := by
  show (if decide (|d| < eps) = true then (SignType.sign d : ℝ) * eps + eps else d) = _
  simp only [decide_eq_true_eq]

theorem divisor_of_le_abs (h : eps ≤ |d|) : Scalar.divisor eps d = d := by
  rw [divisor_real, if_neg (not_lt.mpr h)]

/-- The two margins in place of a small negative number cancel. -/
theorem divisor_of_neg (h : -eps < d) (hd : d < 0) : Scalar.divisor eps d = 0 := by
  have habs : |d| < eps := by
    rw [abs_of_neg hd]
    linarith
  rw [divisor_real, if_pos habs, sign_neg hd, SignType.coe_neg_one]
  ring

theorem divisor_pos (heps : 0 < eps) (hd : 0 ≤ d) : 0 < Scalar.divisor eps d := by
  by_cases hsmall : |d| < eps
  · rw [divisor_real, if_pos hsmall]
    rcases hd.eq_or_lt with rfl | hpos
    · rw [sign_zero, SignType.coe_zero, zero_mul, zero_add]
      exact heps
    · rw [sign_pos hpos, SignType.coe_one, one_mul]
      exact add_pos heps heps
  · have hle : eps ≤ |d| := not_lt.mp hsmall
    rw [divisor_of_le_abs hle]
    rw [abs_of_nonneg hd] at hle
    exact heps.trans_le hle

theorem divisor_of_le_neg (heps : 0 < eps) (h : d ≤ -eps) : Scalar.divisor eps d = d := by
  apply divisor_of_le_abs
  rw [abs_of_neg (by linarith)]
  linarith

theorem divisor_eq_zero_iff (heps : 0 < eps) :
    Scalar.divisor eps d = 0 ↔ -eps < d ∧ d < 0 := by
  constructor
  · intro hzero
    have hneg : d < 0 := by
      by_contra hd
      exact (divisor_pos heps (not_lt.mp hd)).ne' hzero
    refine ⟨?_, hneg⟩
    by_contra hle
    rw [divisor_of_le_neg heps (not_lt.mp hle)] at hzero
    exact hneg.ne hzero
  · rintro ⟨hlow, hneg⟩
    exact divisor_of_neg hlow hneg

theorem divisor_neg_iff (heps : 0 < eps) : Scalar.divisor eps d < 0 ↔ d ≤ -eps := by
  constructor
  · intro hneg
    by_contra hle
    rcases lt_or_ge d 0 with hd | hd
    · rw [divisor_of_neg (not_le.mp hle) hd] at hneg
      exact lt_irrefl 0 hneg
    · exact lt_asymm hneg (divisor_pos heps hd)
  · intro hle
    rw [divisor_of_le_neg heps hle]
    linarith

/-- A safe quotient of two numbers, with the margin given. -/
theorem safeDivWithin_scalar (n d eps : ℝ) :
    Primitive.safeDivWithin (.scalar n) (.scalar d) (.scalar eps) =
      .ok (.scalar (n / Scalar.divisor eps d)) := by
  rw [Primitive.safeDivWithin, Tensor.zipWith3, Tensor.zipWith_scalar, ok_bind,
    Tensor.zipWith_scalar]
  rfl

/-- A safe quotient has a margin of `10⁻¹²`. -/
theorem safeDiv_real (n d : ℝ) : Scalar.safeDiv n d = n / Scalar.divisor 1e-12 d := by
  have hmargin : (Scalar.ofNumeral (.decimal false 1 (-12)) : ℝ) = 1e-12 := by
    rw [ExactField.ofNumeral_decimal]
    norm_num
  rw [← hmargin]
  rfl

end Divisors

/-! ## The quotients of an ellipse -/

open Scalar (EllipseCubic EllipseRoot)

theorem gap_nonneg (r : EllipseRoot ℝ) : 0 ≤ r.gap :=
  Real.sqrt_nonneg _

/-- On the second axis, only the second coordinate enters the cubic equation. -/
theorem ofPoint_zero (y a b : ℝ) :
    (EllipseCubic.ofPoint 0 y a b).c = ((b * y / (b * b - a * a)) ^ 2 - 1) / 3 ∧
      (EllipseCubic.ofPoint 0 y a b).d = (EllipseCubic.ofPoint 0 y a b).cube := by
  have hone : (Scalar.ofNumeral (.decimal false 10 (-1)) : ℝ) = 1 := by
    rw [ExactField.ofNumeral_decimal]
    norm_num
  have hthree : (Scalar.ofNumeral (.decimal false 30 (-1)) : ℝ) = 3 := by
    rw [ExactField.ofNumeral_decimal]
    norm_num
  have hc : (EllipseCubic.ofPoint 0 y a b).c =
      (a * 0 / (b * b - a * a) * (a * 0 / (b * b - a * a)) +
        b * y / (b * b - a * a) * (b * y / (b * b - a * a)) -
          Scalar.ofNumeral (.decimal false 10 (-1))) / Scalar.ofNumeral (.decimal false 30 (-1)) :=
    rfl
  have hd : (EllipseCubic.ofPoint 0 y a b).d = (EllipseCubic.ofPoint 0 y a b).cube +
      a * 0 / (b * b - a * a) * (a * 0 / (b * b - a * a)) *
        (b * y / (b * b - a * a) * (b * y / (b * b - a * a))) := rfl
  rw [hc, hd, hone, hthree]
  constructor
  · ring
  · ring

theorem cube_eq_pow (e : EllipseCubic ℝ) : e.cube = e.c ^ 3 := by
  have hcube : e.cube = e.c * e.c * e.c := rfl
  rw [hcube]
  ring

/-- A point of the second axis is not swapped. -/
theorem ellipse_zero {y : ℝ} (hy : 0 < y) (a b : ℝ) :
    Scalar.ellipse 0 y a b = Scalar.ellipseFolded 0 y a b := by
  show (if decide (|y| < |(0 : ℝ)|) = true then Scalar.ellipseFolded |y| |0| b a
    else Scalar.ellipseFolded |0| |y| a b) = _
  rw [abs_zero, abs_of_pos hy, if_neg (by simpa using hy.le)]

/-- For all semi-axes some cube is negative and closer to zero than the margin. -/
theorem exists_cube_small {a b : ℝ} (ha : 0 < a) (hb : 0 < b) (hab : a ≠ b) :
    ∃ y : ℝ, 0 < y ∧ -1e-12 < (EllipseCubic.ofPoint 0 y a b).cube ∧
      (EllipseCubic.ofPoint 0 y a b).cube < 0 := by
  have hl : b * b - a * a ≠ 0 := by
    intro hzero
    apply hab
    nlinarith
  refine ⟨|b * b - a * a| * (1 - 1e-5) / b, ?_, ?_⟩
  · have habs : 0 < |b * b - a * a| := abs_pos.mpr hl
    have hfactor : (0 : ℝ) < 1 - 1e-5 := by norm_num
    positivity
  · have hratio : (b * (|b * b - a * a| * (1 - 1e-5) / b) / (b * b - a * a)) ^ 2 =
        (1 - 1e-5) ^ 2 := by
      rw [mul_div_cancel₀ _ hb.ne', div_pow, mul_pow, sq_abs,
        mul_div_cancel_left₀ _ (pow_ne_zero 2 hl)]
    rw [cube_eq_pow, (ofPoint_zero _ a b).1, hratio]
    norm_num

/-- A safe quotient divides by its denominator unless that is closer to zero than the margin, by a
negative number only if the denominator is negative and not that close, and by zero exactly if the
denominator is negative and that close. So of the two quotients of an ellipse, the one below which a
square root stands is always defined, and the other is undefined exactly where the cube below it is
negative and closer to zero than the margin, which happens at some point for all semi-axes. -/
theorem divisors_of_safe_quotients {eps : ℝ} (heps : 0 < eps) (n d : ℝ) {a b : ℝ} (ha : 0 < a)
    (hb : 0 < b) (hab : a ≠ b) :
    (Primitive.safeDivWithin (.scalar n) (.scalar d) (.scalar eps) =
        .ok (.scalar (n / Scalar.divisor eps d)) ∧
      (eps ≤ |d| → Scalar.divisor eps d = d) ∧
      (Scalar.divisor eps d < 0 ↔ d ≤ -eps) ∧
      (Scalar.divisor eps d = 0 ↔ -eps < d ∧ d < 0)) ∧
    (∀ e : EllipseCubic ℝ,
      Scalar.safeDiv e.root.im e.root.gap = e.root.im / Scalar.divisor 1e-12 e.root.gap ∧
        0 < Scalar.divisor 1e-12 e.root.gap ∧
        Scalar.safeDiv e.q e.cube = e.q / Scalar.divisor 1e-12 e.cube ∧
        (Scalar.divisor 1e-12 e.cube = 0 ↔ -1e-12 < e.cube ∧ e.cube < 0)) ∧
    ∃ y : ℝ, 0 < y ∧ Scalar.ellipse 0 y a b = Scalar.ellipseFolded 0 y a b ∧
      (EllipseCubic.ofPoint 0 y a b).d < 0 ∧
      Scalar.divisor 1e-12 (EllipseCubic.ofPoint 0 y a b).cube = 0 := by
  have hmargin : (0 : ℝ) < 1e-12 := by norm_num
  refine ⟨⟨safeDivWithin_scalar n d eps, divisor_of_le_abs, divisor_neg_iff heps,
    divisor_eq_zero_iff heps⟩, fun e => ?_, ?_⟩
  · exact ⟨safeDiv_real _ _, divisor_pos hmargin (gap_nonneg _), safeDiv_real _ _,
      divisor_eq_zero_iff hmargin⟩
  · obtain ⟨y, hy, hsmall⟩ := exists_cube_small ha hb hab
    refine ⟨y, hy, ellipse_zero hy a b, ?_, (divisor_eq_zero_iff hmargin).mpr hsmall⟩
    rw [(ofPoint_zero y a b).2]
    exact hsmall.2

/-- A tenth of the margin below zero, and an ellipse that is twice as high as it is wide. -/
theorem divisors_of_safe_quotients_below_zero :
    Primitive.safeDivWithin (.scalar (1 : ℝ)) (.scalar (-1e-13)) (.scalar 1e-12) =
        .ok (.scalar (1 / Scalar.divisor 1e-12 (-1e-13))) ∧
      Scalar.divisor 1e-12 (-1e-13 : ℝ) = 0 ∧
      ∃ y : ℝ, 0 < y ∧ (EllipseCubic.ofPoint 0 y 1 2).d < 0 ∧
        Scalar.divisor 1e-12 (EllipseCubic.ofPoint 0 y 1 2).cube = 0 := by
  obtain ⟨⟨hquotient, -, -, hzero⟩, -, y, hy, -, hd, hcube⟩ :=
    @divisors_of_safe_quotients 1e-12 (by norm_num) 1 (-1e-13) 1 2 (by norm_num) (by norm_num)
      (by norm_num)
  exact ⟨hquotient, hzero.mpr (by norm_num), y, hy, hd, hcube⟩

end SignedDistance
