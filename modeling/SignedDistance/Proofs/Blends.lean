import Mathlib
import SignedDistance.Primitive.Combination
import SignedDistance.Proofs.Lipschitz

/-!
# Blended combinations

A blend over `k` takes at most `k / 4` off the sharp distance, and nothing where the two distances
are at least `k` apart (`evaluate_blend`). The expressions of blends write maxima as minima with
minus signs around them; they have the values of the combinations of `Primitive`, which do not.
-/

namespace SignedDistance

/-! ## What a blend takes off -/

section Depth

variable {K : Type} [Field K] [LinearOrder K] [IsStrictOrderedRing K] {k gap : K}

/-- What a blend over `k` takes off at a gap. -/
def blendDepth (k gap : K) : K :=
  min gap 0 - smoothMin k gap 0

omit [IsStrictOrderedRing K] in
theorem blendDepth_eq (k gap : K) : blendDepth k gap = max (k - |gap|) 0 ^ 2 / (4 * k) := by
  rw [blendDepth, smoothMin, sub_zero, sub_sub_cancel]

omit [IsStrictOrderedRing K] in
theorem smoothMin_eq_sub_blendDepth (k a b : K) :
    smoothMin k a b = min a b - blendDepth k (a - b) := by
  rw [blendDepth_eq, smoothMin]

theorem blendDepth_nonneg (hk : 0 < k) : 0 ≤ blendDepth k gap := by
  rw [blendDepth_eq]
  positivity

theorem blendDepth_le (hk : 0 < k) : blendDepth k gap ≤ k / 4 := by
  have hrest : max (k - |gap|) 0 ≤ k := max_le (sub_le_self k (abs_nonneg gap)) hk.le
  have hsquare : max (k - |gap|) 0 ^ 2 ≤ k ^ 2 := pow_le_pow_left₀ (le_max_right _ _) hrest 2
  calc blendDepth k gap
      = max (k - |gap|) 0 ^ 2 / (4 * k) := blendDepth_eq k gap
    _ ≤ k ^ 2 / (4 * k) := div_le_div_of_nonneg_right hsquare (by linarith)
    _ = k / 4 := by field_simp

theorem blendDepth_eq_zero_iff (hk : 0 < k) : blendDepth k gap = 0 ↔ k ≤ |gap| := by
  have hdivisor : 4 * k ≠ 0 := by positivity
  rw [blendDepth_eq, div_eq_zero_iff, or_iff_left hdivisor, sq_eq_zero_iff, max_eq_right_iff,
    sub_nonpos]

end Depth

/-! ## Combinations of distances -/

namespace Combination

/-- The combination with a blended seam, of arrays of distances. -/
def smooth {α : Type} [Scalar α] (op : Combination) (d1 d2 k : Tensor α) : Shaped (Tensor α) :=
  match op with
  | .unite => Primitive.smoothUnion d1 d2 k
  | .subtract => Primitive.smoothSubtraction d1 d2 k
  | .intersect => Primitive.smoothIntersection d1 d2 k

variable {K : Type} [Field K] [LinearOrder K]

/-- The distance of the sharp combination. -/
def hard (op : Combination) (a b : K) : K :=
  match op with
  | .unite => min a b
  | .subtract => max (-a) b
  | .intersect => max a b

/-- How far two distances are from the seam of their combination. -/
def seam (op : Combination) (a b : K) : K :=
  match op with
  | .unite => a - b
  | .subtract => a + b
  | .intersect => b - a

variable [IsStrictOrderedRing K] [Scalar K] [ExactScalar K]

open ExactField ExactScalar

theorem blendCorrection_eq_blendDepth (k gap : K) :
    Scalar.blendCorrection k gap = blendDepth k gap := by
  have hzero : (Scalar.ofNumeral (.decimal false 0 (-1)) : K) = 0 := by
    rw [ofNumeral_decimal]
    simp
  have hquarter : (Scalar.ofNumeral (.decimal false 25 (-2)) : K) = 1 / 4 := by
    rw [ofNumeral_decimal]
    norm_num
  show Scalar.div (Scalar.mul (Scalar.mul
    (Scalar.maximum (Scalar.sub k (Scalar.abs gap)) (Scalar.ofNumeral (.decimal false 0 (-1))))
    (Scalar.maximum (Scalar.sub k (Scalar.abs gap)) (Scalar.ofNumeral (.decimal false 0 (-1)))))
    (Scalar.ofNumeral (.decimal false 25 (-2)))) k = _
  rw [hzero, hquarter, div_eq, mul_eq, mul_eq, maximum_eq, sub_eq, ExactScalar.abs_eq,
    blendDepth_eq]
  ring

theorem smooth_scalar (op : Combination) (a b k : K) :
    op.smooth (.scalar a) (.scalar b) (.scalar k) =
      .ok (.scalar (op.hard a b - blendDepth k (op.seam a b))) := by
  have hzip : ∀ f : K → K → K → K, Tensor.zipWith3 f (.scalar a) (.scalar b) (.scalar k) =
      .ok (.scalar (f a b k)) := by
    intro f
    rw [Tensor.zipWith3, Tensor.zipWith_scalar, ok_bind, Tensor.zipWith_scalar]
  cases op with
  | unite =>
    have hvalue : Scalar.smoothUnion a b k = Scalar.sub (Scalar.minimum a b)
        (Scalar.blendCorrection k (Scalar.sub a b)) := rfl
    rw [smooth, Primitive.smoothUnion, hzip, hvalue, blendCorrection_eq_blendDepth, sub_eq, sub_eq,
      minimum_eq]
    rfl
  | subtract =>
    have hvalue : Scalar.smoothSubtraction a b k = Scalar.sub (Scalar.maximum (Scalar.neg a) b)
        (Scalar.blendCorrection k (Scalar.add a b)) := rfl
    rw [smooth, Primitive.smoothSubtraction, hzip, hvalue, blendCorrection_eq_blendDepth, sub_eq,
      add_eq, maximum_eq, neg_eq]
    rfl
  | intersect =>
    have hvalue : Scalar.smoothIntersection a b k = Scalar.sub (Scalar.maximum a b)
        (Scalar.blendCorrection k (Scalar.sub b a)) := rfl
    rw [smooth, Primitive.smoothIntersection, hzip, hvalue, blendCorrection_eq_blendDepth, sub_eq,
      sub_eq, maximum_eq]
    rfl

theorem seamed_number (library : Library K) (op : Combination) (a b : K) :
    op.seamed library (.number a) (.number b) = .ok (.number (op.hard a b)) := by
  cases op with
  | unite => rw [seamed, callFunction_min, hard]
  | subtract =>
    have hmax : -min a (-b) = max (-a) b := by rw [← max_neg_neg, neg_neg]
    simp only [seamed, hard, Value.negate_number, neg_eq, callFunction_min, ok_bind, hmax]
    rfl
  | intersect =>
    have hmax : -min (-a) (-b) = max a b := by rw [← max_neg_neg, neg_neg, neg_neg]
    simp only [seamed, hard, Value.negate_number, neg_eq, callFunction_min, ok_bind, hmax]
    rfl

theorem gap_number (op : Combination) (a b : K) :
    op.gap (.number a) (.number b) = .ok (.number (op.seam a b)) := by
  cases op with
  | unite => exact Value.number_sub_number a b
  | subtract => exact Value.number_add_number a b
  | intersect =>
    rw [gap, Value.negate_number, neg_eq, Value.number_add_number, seam, neg_add_eq_sub]

end Combination

/-! ## Compiled blends -/

section Compiled

variable {K : Type} [Field K] [LinearOrder K] [IsStrictOrderedRing K] [Scalar K] [ExactScalar K]

/-- The formula of a blend, at operands that are numbers. -/
theorem evalAt_blend_number {library : Library K} {env : Environment K}
    {here : Evaluated (Value K)} (op : Combination) {left right radius : Expr} {a b k : K}
    (ha : left.evalAt library env here = .ok (.number a))
    (hb : right.evalAt library env here = .ok (.number b))
    (hk : radius.evalAt library env here = .ok (.number k)) :
    (Formula.blend op left right radius).evalAt library env here =
      .ok (.number (op.hard a b - blendDepth k (op.seam a b))) := by
  rw [evalAt_blend, ha, hb, hk]
  simp only [ok_bind, op.seamed_number, op.gap_number, blendCorrection_number,
    Value.number_sub_number, blendDepth_eq]

/-- Two scenes and a radius that can be compiled can be blended, by the formula of the blend. -/
theorem exists_compilesTo_blend (op : Combination) {left right radius : Scene}
    (hl : left.WellFormed) (hr : right.WellFormed) (hk : radius.WellFormed) {policy : Policy}
    {cl cr ck : Compiled} (hcl : left.CompilesTo policy cl) (hcr : right.CompilesTo policy cr)
    (hck : radius.CompilesTo policy ck) :
    ∃ c, (Scene.blend op left right radius).CompilesTo policy c ∧
      c.expr = Formula.blend op cl.expr cr.expr ck.expr := by
  have hknown : policy = .fail → (Scene.blend op left right radius).firstUnknown? = none := by
    intro hpolicy
    rw [Scene.firstUnknown?_blend, hcl.firstUnknown? hl hpolicy, hcr.firstUnknown? hr hpolicy,
      hck.firstUnknown? hk hpolicy]
    rfl
  obtain ⟨c, hc, hexpr⟩ := (Scene.WellFormed.blend op hl hr hk).exists_compilesTo policy hknown
  refine ⟨c, hc, ?_⟩
  rw [hexpr, hcl.expr hl, hcr.expr hr, hck.expr hk]
  rfl

/-- Two scenes and a radius that can be compiled can be blended. Wherever they are numbers and the
radius is positive, the blend has the distance of the combination with a blended seam, which is at
most a quarter of the radius below the sharp one and equals it where the radius does not reach. -/
theorem evaluate_blend (op : Combination) {left right radius : Scene} (hl : left.WellFormed)
    (hr : right.WellFormed) (hk : radius.WellFormed) {policy : Policy} {cl cr ck : Compiled}
    (hcl : left.CompilesTo policy cl) (hcr : right.CompilesTo policy cr)
    (hck : radius.CompilesTo policy ck) :
    ∃ c, (Scene.blend op left right radius).CompilesTo policy c ∧
      ∀ (library : Library K) (env : Environment K) (here : Evaluated (Value K)) (a b k : K),
        0 < k →
        cl.expr.evalAt library env here = .ok (.number a) →
        cr.expr.evalAt library env here = .ok (.number b) →
        ck.expr.evalAt library env here = .ok (.number k) →
        ∃ d, c.expr.evalAt library env here = .ok (.number d) ∧
          op.smooth (.scalar a) (.scalar b) (.scalar k) = .ok (.scalar d) ∧
          op.hard a b - k / 4 ≤ d ∧ d ≤ op.hard a b ∧
          (d = op.hard a b ↔ k ≤ |op.seam a b|) := by
  obtain ⟨c, hc, hexpr⟩ := exists_compilesTo_blend op hl hr hk hcl hcr hck
  refine ⟨c, hc, fun library env here a b k hpos ha hb hradius => ?_⟩
  have hnonneg : 0 ≤ blendDepth k (op.seam a b) := blendDepth_nonneg hpos
  have hle : blendDepth k (op.seam a b) ≤ k / 4 := blendDepth_le hpos
  refine ⟨op.hard a b - blendDepth k (op.seam a b), ?_, op.smooth_scalar a b k, by linarith,
    by linarith, ?_⟩
  · rw [hexpr]
    exact evalAt_blend_number op ha hb hradius
  · rw [sub_eq_self]
    exact blendDepth_eq_zero_iff hpos

end Compiled

/-- Two circles around the origin, blended over two. -/
theorem evaluate_blend_circles :
    ∃ cl cr ck c, (Scene.primitive "circle" [.text "1.0"]).CompilesTo .fail cl ∧
      (Scene.primitive "circle" [.text "2.0"]).CompilesTo .fail cr ∧
      (Scene.constant "2.0").CompilesTo .fail ck ∧
      (Scene.blend .unite (.primitive "circle" [.text "1.0"]) (.primitive "circle" [.text "2.0"])
        (.constant "2.0")).CompilesTo .fail c ∧
      cl.expr.evalAt (Library.standard : Library ℝ) [] (.ok (.pair 3 4)) = .ok (.number 4) ∧
      cr.expr.evalAt (Library.standard : Library ℝ) [] (.ok (.pair 3 4)) = .ok (.number 3) ∧
      ck.expr.evalAt (Library.standard : Library ℝ) [] (.ok (.pair 3 4)) = .ok (.number 2) ∧
      ∃ d, c.expr.evalAt (Library.standard : Library ℝ) [] (.ok (.pair 3 4)) = .ok (.number d) ∧
        Primitive.smoothUnion (.scalar 4) (.scalar 3) (.scalar 2) = .ok (.scalar d) ∧
        min (4 : ℝ) 3 - 2 / 4 ≤ d ∧ d ≤ min 4 3 ∧ (d = min 4 3 ↔ (2 : ℝ) ≤ |4 - 3|) := by
  have hone : Expr.evalText (Library.standard : Library ℝ) [] "1.0" = .ok (.number 1) := by
    rw [@evalText_decimal ℝ _ _ _ _ _ "1.0" 10 (-1) (by cbv) (by cbv)]
    norm_num
  have htwo : Expr.evalText (Library.standard : Library ℝ) [] "2.0" = .ok (.number 2) := by
    rw [@evalText_decimal ℝ _ _ _ _ _ "2.0" 20 (-1) (by cbv) (by cbv)]
    norm_num
  have hlength : √(3 * 3 + 4 * 4 : ℝ) = 5 := by
    rw [show (3 * 3 + 4 * 4 : ℝ) = 5 ^ 2 by norm_num, Real.sqrt_sq (by norm_num)]
  have hl : (Scene.primitive "circle" [.text "1.0"]).WellFormed := .primitive "circle" ["1.0"]
  have hr : (Scene.primitive "circle" [.text "2.0"]).WellFormed := .primitive "circle" ["2.0"]
  have hk : (Scene.constant "2.0").WellFormed := .constant "2.0"
  obtain ⟨cl, hcl, hexprl⟩ := hl.exists_compilesTo .fail (fun _ => rfl)
  obtain ⟨cr, hcr, hexprr⟩ := hr.exists_compilesTo .fail (fun _ => rfl)
  obtain ⟨ck, hck, hexprk⟩ := hk.exists_compilesTo .fail (fun _ => rfl)
  have ha : cl.expr.evalAt (Library.standard : Library ℝ) [] (.ok (.pair 3 4)) =
      .ok (.number 4) := by
    rw [hexprl, hl.evalAt_expr, meaning_circle hone, hlength]
    norm_num
  have hb : cr.expr.evalAt (Library.standard : Library ℝ) [] (.ok (.pair 3 4)) =
      .ok (.number 3) := by
    rw [hexprr, hr.evalAt_expr, meaning_circle htwo, hlength]
    norm_num
  have hradius : ck.expr.evalAt (Library.standard : Library ℝ) [] (.ok (.pair 3 4)) =
      .ok (.number 2) := by
    rw [hexprk]
    exact htwo
  obtain ⟨c, hc, hblend⟩ := evaluate_blend (K := ℝ) .unite hl hr hk hcl hcr hck
  exact ⟨cl, cr, ck, c, hcl, hcr, hck, hc, ha, hb, hradius,
    hblend _ _ _ 4 3 2 (by norm_num) ha hb hradius⟩

end SignedDistance
