import Mathlib
import SignedDistance.Proofs.Blends
import SignedDistance.Shader.Combination

/-!
# Blended combinations in shaders

A shader carries the combinations twice: inside the distance of its scene, and as functions of its
own, whose bodies are expressions (`Shader.Helper`). This module runs those bodies with the
evaluator. Both agree on blended unions. The functions for blended subtractions and intersections
are the negative of a blended union, so they put on the distance what the distance of a scene takes
off, and agree with it only where nothing is blended (`evaluate_blend_eq_helper_iff`).
-/

namespace SignedDistance

open Shader

/-! ## Running helpers -/

section Running

variable {α : Type} [Scalar α]

namespace Shader.Helper

/-- The values of names, with an intermediate result added. -/
def bindLocal (library : Library α) (env : Environment α) (entry : String × String) :
    Evaluated (Environment α) := do
  return (entry.1, ← Expr.evalText library env entry.2) :: env

/-- What the body of a helper computes from values of its parameters. -/
def run (library : Library α) (h : Helper) (args : List (Value α)) : Evaluated (Value α) := do
  let env ← h.locals.foldlM (bindLocal library) (h.params.zip args)
  Expr.evalText library env h.result

/-- A helper as a function that can be called. It takes numbers, so what a call can get wrong are
the count of the arguments and their shapes. -/
def meaning (library : Library α) (h : Helper) : CallMeaning α := fun args =>
  match h.run library (args.map .float) with
  | .ok v => .ok v.data
  | .error (.shape e) => .error (.shape e)
  | .error _ => .error (.argumentCount h.params args.length)

end Shader.Helper

namespace Library

/-- A library with one more function. -/
def withHelper (library : Library α) (h : Helper) : Library α := fun name =>
  if name = h.name then some (h.meaning library) else library name

/-- A library with more functions, each of which can call the ones before it. -/
def withHelpers (library : Library α) (hs : List Helper) : Library α :=
  hs.foldl withHelper library

end Library

/-- A call of a helper whose name is not taken runs its body. -/
theorem callFunction_withHelper {library : Library α} {h : Helper} {as : List α} {r : α}
    (hcomponents : Componentwise.all.lookup h.name = (none : Option (Componentwise α)))
    (hbuiltin : Builtin.all.lookup h.name =
      (none : Option (List (Value α) → Builtin.Called (Value α))))
    (hrun : h.run library (as.map .number) = .ok (.number r)) :
    callFunction (library.withHelper h) h.name (as.map .number) = .ok (.number r) := by
  refine callFunction_library hcomponents hbuiltin (if_pos rfl) ?_
  have hargs : ((as.map Value.number).map (·.data)).map Value.float = as.map Value.number := by
    rw [List.map_map, List.map_map]
    rfl
  rw [Helper.meaning, hargs, hrun]
  rfl

/-- A function keeps its meaning when another one is added. -/
theorem callFunction_withHelper_of_ne {library : Library α} {h : Helper} {fn : String}
    (hne : fn ≠ h.name) (args : List (Value α)) :
    callFunction (library.withHelper h) fn args = callFunction library fn args := by
  have hlookup : library.withHelper h fn = library fn := if_neg hne
  simp only [callFunction, hlookup]

end Running

/-! ## The blended combinations -/

namespace Combination

/-- The helper for a combination with a blended seam. -/
def helper : Combination → Helper
  | .unite => smoothUnion
  | .subtract => smoothSubtraction
  | .intersect => smoothIntersection

end Combination

section Blends

variable {K : Type} [Field K] [LinearOrder K] [IsStrictOrderedRing K] [Scalar K] [ExactScalar K]

attribute [local simp] Expr.evalParsed Expr.evalWith Expr.evalAllWith Environment.find ok_bind

theorem run_smoothUnion (library : Library K) (a b k : K) :
    smoothUnion.run library [.number a, .number b, .number k] =
      .ok (.number (smoothMin k a b)) := by
  have hlocal : parse "max(k-abs(d1-d2),0.0)" =
      .ok (.call "max" [.binary .sub (.name "k")
        (.call "abs" [.binary .sub (.name "d1") (.name "d2")]), .number "0.0"]) := by cbv
  have hresult : parse "min(d1, d2) - h*h*0.25/k" =
      .ok (.binary .sub (.call "min" [.name "d1", .name "d2"])
        (.binary .div (.binary .mul (.binary .mul (.name "h") (.name "h")) (.number "0.25"))
          (.name "k"))) := by cbv
  have hrest : Expr.evalText library [("d1", .number a), ("d2", .number b), ("k", .number k)]
      "max(k-abs(d1-d2),0.0)" = .ok (.number (max (k - |a - b|) 0)) := by
    rw [Expr.evalText, hlocal]
    simp [List.lookup, numberValue_zero]
  have henv : smoothUnion.locals.foldlM (Helper.bindLocal library)
      (smoothUnion.params.zip [.number a, .number b, .number k]) =
        .ok [("h", .number (max (k - |a - b|) 0)), ("d1", .number a), ("d2", .number b),
          ("k", .number k)] := by
    simp only [smoothUnion, List.foldlM_cons, List.foldlM_nil, Helper.bindLocal,
      List.zip_cons_cons, List.zip_nil_right, hrest]
    rfl
  have hvalue : min a b - max (k - |a - b|) 0 * max (k - |a - b|) 0 * (1 / 4) / k =
      smoothMin k a b := by
    rw [smoothMin]
    ring
  rw [Helper.run, henv, ok_bind, ← hvalue]
  show Expr.evalText library _ "min(d1, d2) - h*h*0.25/k" = _
  rw [Expr.evalText, hresult]
  simp [List.lookup, numberValue_quarter]

theorem run_smoothSubtraction {library : Library K} {a b k r : K}
    (h : callFunction library "smoothUnion" [.number a, .number (-b), .number k] =
      .ok (.number r)) :
    smoothSubtraction.run library [.number a, .number b, .number k] = .ok (.number (-r)) := by
  have hresult : parse "-smoothUnion(d1, -d2, k)" =
      .ok (.neg (.call "smoothUnion" [.name "d1", .neg (.name "d2"), .name "k"])) := by cbv
  show Expr.evalText library [("d1", .number a), ("d2", .number b), ("k", .number k)]
    "-smoothUnion(d1, -d2, k)" = _
  rw [Expr.evalText, hresult]
  simp [List.lookup, ExactField.neg_eq, h]

theorem run_smoothIntersection {library : Library K} {a b k r : K}
    (h : callFunction library "smoothUnion" [.number (-a), .number (-b), .number k] =
      .ok (.number r)) :
    smoothIntersection.run library [.number a, .number b, .number k] = .ok (.number (-r)) := by
  have hresult : parse "-smoothUnion(-d1, -d2, k)" =
      .ok (.neg (.call "smoothUnion" [.neg (.name "d1"), .neg (.name "d2"), .name "k"])) := by cbv
  show Expr.evalText library [("d1", .number a), ("d2", .number b), ("k", .number k)]
    "-smoothUnion(-d1, -d2, k)" = _
  rw [Expr.evalText, hresult]
  simp [List.lookup, ExactField.neg_eq, h]

namespace Combination

/-- What the helper of a blended combination gives: a union is lowered near its seam, the other
combinations are raised. -/
def shaded (op : Combination) (a b k : K) : K :=
  match op with
  | .unite => op.hard a b - blendDepth k (op.seam a b)
  | _ => op.hard a b + blendDepth k (op.seam a b)

/-- A call of the helper of a blended combination. -/
theorem callFunction_helper (library : Library K) (op : Combination) (a b k : K) :
    callFunction (library.withHelpers combinationHelpers) op.helper.name
      [.number a, .number b, .number k] = .ok (.number (op.shaded a b k)) := by
  set sharp := library.withHelpers [Shader.unite, subtraction, intersection]
  have hunion : ∀ x y : K, callFunction (sharp.withHelper smoothUnion) "smoothUnion"
      [.number x, .number y, .number k] = .ok (.number (smoothMin k x y)) := by
    intro x y
    exact @callFunction_withHelper K _ sharp smoothUnion [x, y, k] _ rfl rfl
      (run_smoothUnion sharp x y k)
  -- the other two call the union, which the helpers added after it leave alone
  set united := sharp.withHelper smoothUnion
  have hall : library.withHelpers combinationHelpers =
      (united.withHelper smoothSubtraction).withHelper smoothIntersection := rfl
  rw [hall]
  cases op with
  | unite =>
    have hvalue : Combination.unite.shaded a b k = smoothMin k a b :=
      (smoothMin_eq_sub_blendDepth k a b).symm
    rw [hvalue, callFunction_withHelper_of_ne (by decide),
      callFunction_withHelper_of_ne (by decide)]
    exact hunion a b
  | subtract =>
    have hvalue : Combination.subtract.shaded a b k = -smoothMin k a (-b) := by
      rw [smoothMin_eq_sub_blendDepth, sub_neg_eq_add, neg_sub, sub_eq_add_neg, ← max_neg_neg,
        neg_neg, add_comm]
      rfl
    rw [hvalue, callFunction_withHelper_of_ne (by decide)]
    exact @callFunction_withHelper K _ united smoothSubtraction [a, b, k] _ rfl rfl
      (run_smoothSubtraction (hunion a (-b)))
  | intersect =>
    have hvalue : Combination.intersect.shaded a b k = -smoothMin k (-a) (-b) := by
      rw [smoothMin_eq_sub_blendDepth, sub_neg_eq_add, neg_add_eq_sub, neg_sub, sub_eq_add_neg,
        ← max_neg_neg, neg_neg, neg_neg, add_comm]
      rfl
    have hkept : callFunction (united.withHelper smoothSubtraction) "smoothUnion"
        [.number (-a), .number (-b), .number k] = .ok (.number (smoothMin k (-a) (-b))) := by
      rw [callFunction_withHelper_of_ne (by decide)]
      exact hunion (-a) (-b)
    rw [hvalue]
    exact @callFunction_withHelper K _ (united.withHelper smoothSubtraction) smoothIntersection
      [a, b, k] _ rfl rfl (run_smoothIntersection hkept)

omit [IsStrictOrderedRing K] [Scalar K] [ExactScalar K] in
theorem shaded_sub_hard {op : Combination} (hop : op ≠ .unite) (a b k : K) :
    op.shaded a b k - op.hard a b = blendDepth k (op.seam a b) := by
  cases op with
  | unite => exact absurd rfl hop
  | subtract => exact add_sub_cancel_left _ _
  | intersect => exact add_sub_cancel_left _ _

end Combination

/-- Two scenes and a radius that can be compiled can be blended. Wherever they are numbers and the
radius is positive, the helper of the combination gives a number too. For a union it is the distance
of the blend; for the other combinations it lies as far above the sharp distance as that of the
blend lies below, so they agree only where the radius does not reach. -/
theorem evaluate_blend_eq_helper_iff (op : Combination) {left right radius : Scene}
    (hl : left.WellFormed) (hr : right.WellFormed) (hk : radius.WellFormed) {policy : Policy}
    {cl cr ck : Compiled} (hcl : left.CompilesTo policy cl) (hcr : right.CompilesTo policy cr)
    (hck : radius.CompilesTo policy ck) :
    ∃ c, (Scene.blend op left right radius).CompilesTo policy c ∧
      ∀ (library : Library K) (env : Environment K) (here : Evaluated (Value K)) (a b k : K),
        0 < k →
        cl.expr.evalAt library env here = .ok (.number a) →
        cr.expr.evalAt library env here = .ok (.number b) →
        ck.expr.evalAt library env here = .ok (.number k) →
        ∃ d v, c.expr.evalAt library env here = .ok (.number d) ∧
          callFunction (library.withHelpers combinationHelpers) op.helper.name
            [.number a, .number b, .number k] = .ok (.number v) ∧
          (op = .unite → v = d) ∧
          (op ≠ .unite → v - op.hard a b = op.hard a b - d) ∧
          (v = d ↔ op = .unite ∨ k ≤ |op.seam a b|) := by
  obtain ⟨c, hc, hexpr⟩ := exists_compilesTo_blend op hl hr hk hcl hcr hck
  refine ⟨c, hc, fun library env here a b k hpos ha hb hradius => ?_⟩
  have hzero := @blendDepth_eq_zero_iff K _ _ _ k (op.seam a b) hpos
  refine ⟨op.hard a b - blendDepth k (op.seam a b), op.shaded a b k, ?_,
    op.callFunction_helper library a b k, ?_, ?_, ?_⟩
  · rw [hexpr]
    exact evalAt_blend_number op ha hb hradius
  · rintro rfl
    rfl
  · intro hop
    rw [Combination.shaded_sub_hard hop, sub_sub_cancel]
  · by_cases hop : op = .unite
    · subst hop
      exact iff_of_true rfl (Or.inl rfl)
    · have hraised := Combination.shaded_sub_hard hop a b k
      rw [or_iff_right hop, ← hzero]
      constructor
      · intro heq
        linarith
      · intro hnone
        linarith

end Blends

/-- On the outline of two equal circles, subtracted with a blend over one. -/
theorem evaluate_blend_eq_helper_iff_circles :
    ∃ cl ck c, (Scene.primitive "circle" [.text "5.0"]).CompilesTo .fail cl ∧
      (Scene.constant "1.0").CompilesTo .fail ck ∧
      (Scene.blend .subtract (.primitive "circle" [.text "5.0"])
        (.primitive "circle" [.text "5.0"]) (.constant "1.0")).CompilesTo .fail c ∧
      cl.expr.evalAt (Library.standard : Library ℝ) [] (.ok (.pair 3 4)) = .ok (.number 0) ∧
      ck.expr.evalAt (Library.standard : Library ℝ) [] (.ok (.pair 3 4)) = .ok (.number 1) ∧
      ∃ d v, c.expr.evalAt (Library.standard : Library ℝ) [] (.ok (.pair 3 4)) = .ok (.number d) ∧
        callFunction (Library.standard.withHelpers combinationHelpers) "smoothSubtraction"
          [.number 0, .number 0, .number 1] = .ok (.number v) ∧ v - 0 = 0 - d ∧ v ≠ d := by
  have hfive : Expr.evalText (Library.standard : Library ℝ) [] "5.0" = .ok (.number 5) := by
    rw [@evalText_decimal ℝ _ _ _ _ _ "5.0" 50 (-1) (by cbv) (by cbv)]
    norm_num
  have hone : Expr.evalText (Library.standard : Library ℝ) [] "1.0" = .ok (.number 1) := by
    rw [@evalText_decimal ℝ _ _ _ _ _ "1.0" 10 (-1) (by cbv) (by cbv)]
    norm_num
  have hlength : √(3 * 3 + 4 * 4 : ℝ) = 5 := by
    rw [show (3 * 3 + 4 * 4 : ℝ) = 5 ^ 2 by norm_num, Real.sqrt_sq (by norm_num)]
  have hl : (Scene.primitive "circle" [.text "5.0"]).WellFormed := .primitive "circle" ["5.0"]
  have hk : (Scene.constant "1.0").WellFormed := .constant "1.0"
  obtain ⟨cl, hcl, hexprl⟩ := hl.exists_compilesTo .fail (fun _ => rfl)
  obtain ⟨ck, hck, hexprk⟩ := hk.exists_compilesTo .fail (fun _ => rfl)
  have ha : cl.expr.evalAt (Library.standard : Library ℝ) [] (.ok (.pair 3 4)) =
      .ok (.number 0) := by
    rw [hexprl, hl.evalAt_expr, meaning_circle hfive, hlength, sub_self]
  have hradius : ck.expr.evalAt (Library.standard : Library ℝ) [] (.ok (.pair 3 4)) =
      .ok (.number 1) := by
    rw [hexprk]
    exact hone
  obtain ⟨c, hc, hblend⟩ := evaluate_blend_eq_helper_iff (K := ℝ) .subtract hl hl hk hcl hcl hck
  obtain ⟨d, v, hd, hv, -, hmirror, hiff⟩ := hblend _ _ _ 0 0 1 one_pos ha ha hradius
  have hhard : Combination.subtract.hard (0 : ℝ) 0 = 0 := by simp [Combination.hard]
  rw [hhard] at hmirror
  refine ⟨cl, ck, c, hcl, hck, hc, ha, hradius, d, v, hd, hv, hmirror (by decide), ?_⟩
  intro heq
  rcases hiff.mp heq with hop | hgap
  · cases hop
  · norm_num [Combination.seam] at hgap

end SignedDistance
