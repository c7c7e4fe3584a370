import Mathlib
import SignedDistance.Proofs.UnknownOperators

/-!
# The meaning of scenes

`Scene.meaning` gives the distance of a scene at a point by recursion on the scene: transforms hand
their child a changed point, and no expression, text or substitution is involved. Points are handed
on as computations, since changing a point can fail and a scene need not look at its point. The
expression that a scene is compiled to has this meaning at every point, errors included
(`evalAt_expr`).
-/

namespace SignedDistance

variable {α : Type} [Scalar α]

/-! ## Meaning -/

section Meaning

variable (library : Library α) (env : Environment α)

/-- The value of an argument or an offset. -/
def Datum.value : Datum → Evaluated (Value α)
  | .text s => Expr.evalText library env s
  | _ => .error .notText

/-- The matrix that turns by minus an angle. -/
def inverseRotation (angle : Value α) : Evaluated (Value α) := do
  let c ← callFunction library "cos" [angle]
  let s ← callFunction library "sin" [angle]
  callFunction library "mat2" [c, s.negate, s, c]

/-- How much of `k` a gap leaves: `max(k - abs(gap), 0.0)`. -/
def blendRest (k gap : Value α) : Evaluated (Value α) := do
  let missing ← Value.binary .sub k (← callFunction library "abs" [gap])
  callFunction library "max" [missing, ← numberValue "0.0"]

/-- What a blend over `k` takes off the distance: `h * h * 0.25 / k`, where `h` is what the gap
leaves of `k`. -/
def blendCorrection (k gap : Value α) : Evaluated (Value α) := do
  let h ← blendRest library k gap
  let square ← Value.binary .mul h h
  Value.binary .div (← Value.binary .mul square (← numberValue "0.25")) k

/-- Two distances combined sharply. -/
def Combination.sharp (op : Combination) (a b : Value α) : Evaluated (Value α) :=
  match op with
  | .unite => callFunction library "min" [a, b]
  | .subtract => callFunction library "max" [a.negate, b]
  | .intersect => callFunction library "max" [a, b]

/-- The distance that a blend starts from: `min`, with minus signs around it. -/
def Combination.seamed (op : Combination) (a b : Value α) : Evaluated (Value α) :=
  match op with
  | .unite => callFunction library "min" [a, b]
  | .subtract => do return (← callFunction library "min" [a, b.negate]).negate
  | .intersect => do return (← callFunction library "min" [a.negate, b.negate]).negate

/-- The difference of two distances that vanishes on the seam of a blend. -/
def Combination.gap (op : Combination) (a b : Value α) : Evaluated (Value α) :=
  match op with
  | .unite => Value.binary .sub a b
  | .subtract => Value.binary .add a b
  | .intersect => Value.binary .add a.negate b

/-- The distance of a scene at a point that is still to be computed. -/
def Scene.meaning : Scene → Evaluated (Value α) → Evaluated (Value α)
  | .primitive name args, x => do
    let point ← x
    let values ← args.mapM (Datum.value library env)
    callFunction library name (point :: values)
  | .constant text, _ => Expr.evalText library env text
  | .annotate _ child, x => child.meaning x
  | .translate offset child, x =>
    child.meaning do Value.binary .sub (← x) (← offset.value library env)
  | .adjust .rotate _ amount child, x =>
    child.meaning do
      let turn ← inverseRotation library (← Expr.evalText library env amount)
      Value.binary .mul turn (← x)
  | .adjust .scale _ amount child, x => do
    let s ← Expr.evalText library env amount
    Value.binary .mul s (← child.meaning do Value.binary .div (← x) s)
  | .adjust .hollow _ amount child, x => do
    let distance ← callFunction library "abs" [← child.meaning x]
    Value.binary .sub distance (← Expr.evalText library env amount)
  | .adjust .melt _ amount child, x => do
    let distance ← child.meaning x
    Value.binary .sub distance (← Expr.evalText library env amount)
  | .adjust .bend _ amount child, x =>
    child.meaning do
      let k ← Expr.evalText library env amount
      let point ← x
      let turn ← inverseRotation library (← Value.binary .mul k (← point.select "x"))
      Value.binary .mul turn point
  | .adjust .displace _ amount child, x => do
    let distance ← child.meaning x
    let k ← Expr.evalText library env amount
    let point ← x
    let u ← callFunction library "sin" [← Value.binary .mul k (← point.select "x")]
    let v ← callFunction library "sin" [← Value.binary .mul k (← point.select "y")]
    Value.binary .add distance (← Value.binary .mul u v)
  | .combine op left right, x => do
    let a ← left.meaning x
    let b ← right.meaning x
    op.sharp library a b
  | .blend op left right radius, x => do
    let a ← left.meaning x
    let b ← right.meaning x
    let distance ← op.seamed library a b
    let k ← radius.meaning x
    Value.binary .sub distance (← blendCorrection library k (← op.gap a b))
  | .unknown name _, _ => .error (.unknownOperator name)

end Meaning

/-! ## Formulas -/

section Formulas

variable {library : Library α} {env : Environment α} {here : Evaluated (Value α)}

@[simp] theorem evalAt_here : Expr.here.evalAt library env here = here := rfl

@[simp] theorem evalAt_lit (text : String) :
    (Expr.lit text).evalAt library env here = Expr.evalText library env text := rfl

@[simp] theorem evalAt_binary (op : Operator) (a b : Expr) :
    (Expr.binary op a b).evalAt library env here = (do
      Value.binary op (← a.evalAt library env here) (← b.evalAt library env here)) := rfl

@[simp] theorem evalAt_neg (a : Expr) :
    (Expr.neg a).evalAt library env here = (do return (← a.evalAt library env here).negate) := rfl

@[simp] theorem evalAt_component (field : String) :
    (Formula.component field).evalAt library env here = (do (← here).select field) := rfl

@[simp] theorem evalAt_call (fn : String) (args : List Expr) :
    (Expr.call fn args).evalAt library env here =
      args.mapM (Expr.evalAt library env here) >>= callFunction library fn := by
  rw [Expr.evalAt, Expr.evalWith, Expr.evalAllWith_eq_mapM]
  rfl

@[simp] theorem evalAt_app (fn : String) (a : Expr) :
    (Formula.app fn a).evalAt library env here =
      (do callFunction library fn [← a.evalAt library env here]) := by
  simp [Formula.app]

@[simp] theorem evalAt_minimum (a b : Expr) : (Formula.minimum a b).evalAt library env here = (do
    callFunction library "min" [← a.evalAt library env here, ← b.evalAt library env here]) := by
  simp [Formula.minimum]

@[simp] theorem evalAt_maximum (a b : Expr) : (Formula.maximum a b).evalAt library env here = (do
    callFunction library "max" [← a.evalAt library env here, ← b.evalAt library env here]) := by
  simp [Formula.maximum]

@[simp] theorem evalAt_inverseRotation (angle : Expr) :
    (Formula.inverseRotation angle).evalAt library env here =
      angle.evalAt library env here >>= inverseRotation library := by
  simp only [Formula.inverseRotation, evalAt_call, List.mapM_cons, List.mapM_nil, Expr.neg_eq,
    evalAt_neg, evalAt_app, bind_assoc, pure_bind]
  -- The angle, its cosine and its sine are computed more than once, with the same outcome.
  cases angle.evalAt library env here with
  | error e => rfl
  | ok t =>
    cases hc : callFunction library "cos" [t] with
    | error e => simp [inverseRotation, hc]
    | ok c => cases hs : callFunction library "sin" [t] <;> simp [inverseRotation, hc, hs]

theorem evalText_numeral {text : String} (h : parse text = .ok (.number text)) :
    Expr.evalText library env text = numberValue text := by
  rw [Expr.evalText, h]
  rfl

@[simp] theorem evalAt_blendCorrection (k gap : Expr) :
    (Formula.blendCorrection k gap).evalAt library env here = (do
      blendCorrection library (← k.evalAt library env here) (← gap.evalAt library env here)) := by
  have hzero : Expr.evalText library env "0.0" = numberValue "0.0" := evalText_numeral (by cbv)
  have hquarter : Expr.evalText library env "0.25" = numberValue "0.25" :=
    evalText_numeral (by cbv)
  have hrest : (Formula.maximum (k - Formula.app "abs" gap) (.lit "0.0")).evalAt library env here =
      (do blendRest library (← k.evalAt library env here) (← gap.evalAt library env here)) := by
    simp [hzero, blendRest]
  simp only [Formula.blendCorrection, Expr.div_eq, Expr.mul_eq, evalAt_binary, evalAt_lit, hrest,
    hquarter]
  cases k.evalAt library env here with
  | error e => rfl
  | ok k =>
    cases gap.evalAt library env here with
    | error e => rfl
    | ok gap => cases h : blendRest library k gap <;> simp [blendCorrection, h]

theorem evalAt_combine (op : Combination) (a b : Expr) :
    (Formula.combine op a b).evalAt library env here = (do
      op.sharp library (← a.evalAt library env here) (← b.evalAt library env here)) := by
  cases op with
  | unite => simp [Formula.combine, Combination.sharp]
  | subtract => simp [Formula.combine, Combination.sharp]
  | intersect => simp [Formula.combine, Combination.sharp]

/-- The formula of a blend computes both distances twice. -/
theorem evalAt_blend (op : Combination) (a b k : Expr) :
    (Formula.blend op a b k).evalAt library env here = (do
      let u ← a.evalAt library env here
      let v ← b.evalAt library env here
      let distance ← op.seamed library u v
      let w ← k.evalAt library env here
      Value.binary .sub distance (← blendCorrection library w (← op.gap u v))) := by
  cases ha : a.evalAt library env here with
  | error e => cases op <;> simp [Formula.blend, ha]
  | ok u =>
    cases hb : b.evalAt library env here with
    | error e => cases op <;> simp [Formula.blend, ha, hb]
    | ok v => cases op <;> simp [Formula.blend, Combination.seamed, Combination.gap, ha, hb]

end Formulas

/-! ## Compiled scenes -/

/-- The expression of a well-formed scene has the meaning of the scene. -/
theorem Scene.WellFormed.evalAt_expr {library : Library α} {env : Environment α} {s : Scene}
    (h : s.WellFormed) (x : Evaluated (Value α)) :
    s.expr.evalAt library env x = s.meaning library env x := by
  induction h generalizing x with
  | primitive name args =>
    have hvalue : Expr.evalAt library env x ∘ Datum.toOffset ∘ Datum.text =
        Datum.value library env ∘ Datum.text := rfl
    simp [Scene.expr, Scene.meaning, hvalue]
  | constant text => rfl
  | annotate note h ih => exact ih x
  | translate offset h ih =>
    rw [Scene.expr, Formula.translate, Expr.evalAt_substitute, ih]
    rfl
  | @adjust kind written amount child hamount h ih =>
    cases kind with
    | rotate =>
      rw [Scene.expr, Formula.adjust, Expr.evalAt_substitute, ih]
      simp [Scene.meaning]
    | scale =>
      simp only [Scene.expr, Formula.adjust, Expr.mul_eq, Expr.div_eq, evalAt_binary,
        Expr.evalAt_substitute, ih, evalAt_here, evalAt_lit, Scene.meaning]
      cases Expr.evalText library env amount <;> rfl
    | hollow => simp [Scene.expr, Formula.adjust, Scene.meaning, ih]
    | melt => simp [Scene.expr, Formula.adjust, Scene.meaning, ih]
    | bend =>
      rw [Scene.expr, Formula.adjust, Expr.evalAt_substitute, ih, Scene.meaning]
      congr 1
      cases hk : Expr.evalText library env amount with
      | error e => simp [hk]
      | ok k => cases x <;> simp [hk]
    | displace =>
      cases hd : child.meaning library env x with
      | error e => simp [Scene.expr, Formula.adjust, Scene.meaning, ih, hd]
      | ok distance =>
        cases hk : Expr.evalText library env amount with
        | error e => simp [Scene.expr, Formula.adjust, Scene.meaning, ih, hd, hk]
        | ok k => cases x <;> simp [Scene.expr, Formula.adjust, Scene.meaning, ih, hd, hk]
  | combine op hl hr ihl ihr => rw [Scene.expr, evalAt_combine, ihl, ihr, Scene.meaning]
  | blend op hl hr hk ihl ihr ihk => rw [Scene.expr, evalAt_blend, ihl, ihr, ihk, Scene.meaning]
  | unknown name h ih => rfl

/-- The distances of a scene at the points that a coordinate stands for. -/
def Scene.distances (library : Library α) (s : Scene) (points : Tensor α) (coordinate : String) :
    Evaluated (Tensor α) := do
  let value ← Value.ofArray coordinate points
  let env := [(coordinate, value)]
  return (← s.meaning library env (Environment.find env coordinate)).data

/-- Whatever has the expression of a scene has its distances. -/
theorem Scene.WellFormed.evaluate_eq_distances {library : Library α} {s : Scene} {c : Compiled}
    (h : s.WellFormed) (hexpr : c.expr = s.expr) (points : Tensor α) (coordinate : String) :
    c.evaluate library points coordinate = s.distances library points coordinate := by
  have heval : ∀ env : Environment α, (s.expr.substitute (.name coordinate)).eval library env =
      s.meaning library env (env.find coordinate) := fun env => by
    rw [Expr.eval, Expr.evalAt_substitute, h.evalAt_expr]
    rfl
  simp only [Compiled.evaluate, Scene.distances, hexpr, heval]

/-- Compilation preserves the meaning of the scene of plain data. A deferring compilation has the
distances of the scene, or fails as they do; a failing one has the same distances wherever there are
any. -/
theorem evaluate_compileScene (library : Library α) {d : Datum} {s : Scene} (hplain : d.Plain)
    (hread : d.read [] = .ok s) (points : Tensor α) (coordinate : String) :
    (∃ c, (compileScene d "defer").result.1 = .ok c ∧
      c.evaluate library points coordinate = s.distances library points coordinate) ∧
    (∀ distances, (∃ c, (compileScene d "raise").result.1 = .ok c ∧
      c.evaluate library points coordinate = .ok distances) ↔
        s.distances library points coordinate = .ok distances) := by
  have hwell := Scene.WellFormed.of_read hplain hread
  obtain ⟨c, hdefer, hexpr⟩ := compileScene_eq_ok .defer hplain hread (by simp)
  have heval : c.evaluate library points coordinate = s.distances library points coordinate :=
    hwell.evaluate_eq_distances hexpr points coordinate
  refine ⟨⟨c, hdefer, heval⟩, fun distances => ?_⟩
  cases hfirst : s.firstUnknown? with
  | none =>
    obtain ⟨c', hraise, hexpr'⟩ := compileScene_eq_ok .fail hplain hread fun _ => hfirst
    rw [← hwell.evaluate_eq_distances hexpr' points coordinate]
    constructor
    · rintro ⟨c'', hc'', h⟩
      cases hraise.symm.trans hc''
      exact h
    · exact fun h => ⟨c', hraise, h⟩
  | some name =>
    -- One side fails in compilation, the other one in evaluation.
    constructor
    · rintro ⟨c', hc', -⟩
      cases (compileScene_eq_error hplain hread hfirst).symm.trans hc'
    · intro h
      have hclosed := firstPending?_of_evaluate (heval.trans h)
      rw [hexpr, hwell.firstPending?_expr, hfirst] at hclosed
      cases hclosed

/-- The distance of a moved and scaled circle from one point. -/
theorem evaluate_compileScene_scaled_circle :
    ∃ c, (compileScene (.ofCall "SCALE" [.text "0.5",
        .ofCall "TRANSLATE" [.text "c", .ofCall "circle" [.text "1.0"]]])
        "defer").result.1 = .ok c ∧
      c.evaluate Library.standard (.ofFn [2] fun _ => (1.5 : Float)) "c" =
        Scene.distances Library.standard (.adjust .scale (.text "0.5") "0.500"
          (.translate (.text "c") (.primitive "circle" [.text "1.0"])))
          (.ofFn [2] fun _ => (1.5 : Float)) "c" :=
  (evaluate_compileScene Library.standard (read_scaled_circle "c").1 (read_scaled_circle "c").2
    (.ofFn [2] fun _ => (1.5 : Float)) "c").1

end SignedDistance
