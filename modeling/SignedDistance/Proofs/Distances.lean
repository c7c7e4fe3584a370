import Mathlib
import SignedDistance.Proofs.Amounts
import SignedDistance.Proofs.FixedPlaces
import SignedDistance.Proofs.Meaning
import SignedDistance.Proofs.SinglePoints

/-!
# Distances at single points

The distance of a scene at a point is what its compiled form evaluates to there
(`Scene.HasDistanceAt`). If no literal of the scene mentions the coordinate, this is the meaning of
the scene at the point in an empty environment (`Scene.Avoids.hasDistanceAt_iff`). Amounts are
numbers: they were rounded to three places when the scene was built.
-/

namespace SignedDistance

/-! ## Scenes that avoid the coordinate -/

theorem Decimal.name_notMem_walk_expr (x : Decimal) (name : String) :
    Expr.name name ∉ x.expr.walk := by
  unfold Decimal.expr
  split <;> simp [Expr.walk]

/-- The vocabulary without unknown operators and without literals that mention a name. -/
def Vocabulary.without (name : String) : Vocabulary where
  literal text := ∀ e, parse text = .ok e → Expr.name name ∉ e.walk
  function _ := True
  unknown _ := False
  amount := by
    intro written text h e hparse
    obtain ⟨x, decimal, -, -, rfl⟩ := Datum.scalarText_eq_ok_iff.mp h
    rw [decimal.parse_text] at hparse
    cases hparse
    exact decimal.name_notMem_walk_expr name
  zero := by
    have hzero : parse "0.0" = .ok (.number "0.0") := by cbv
    simp [hzero, Expr.walk]
  quarter := by
    have hquarter : parse "0.25" = .ok (.number "0.25") := by cbv
    simp [hquarter, Expr.walk]
  builtin _ _ := trivial

theorem Vocabulary.without_literal {name text : String} {e : Expr} (hparse : parse text = .ok e)
    (hname : Expr.name name ∉ e.walk) : (Vocabulary.without name).literal text := by
  intro e' hparse'
  cases hparse.symm.trans hparse'
  exact hname

/-- A scene that can be compiled and whose literals do not mention the coordinate. -/
structure Scene.Avoids (s : Scene) (coordinate : String) : Prop where
  wellFormed : s.WellFormed
  uses : ∀ d ∈ s.walk, d.Uses (.without coordinate)

theorem Scene.Avoids.firstUnknown? {s : Scene} {coordinate : String} (h : s.Avoids coordinate) :
    s.firstUnknown? = none := by
  refine List.findSome?_eq_none_iff.mpr fun n hn => ?_
  have huses := h.uses n hn
  unfold Datum.unknownName?
  split
  · exact huses.elim
  · rfl

section Evaluation

variable {α : Type} [Scalar α] {library : Library α} {coordinate : String}

/-- What a name is bound to does not matter to an expression that does not mention it. -/
theorem Expr.evalWith_binding {v : Value α} {here : Evaluated (Value α)}
    {literal literal' : String → Evaluated (Value α)} {e : Expr}
    (h : ∀ n ∈ e.walk, n ≠ .name coordinate ∧
      ∀ text, n = .lit text → literal text = literal' text) :
    e.evalWith library [(coordinate, v)] here literal = e.evalWith library [] here literal' := by
  induction e with
  | name ident =>
    have hident : (ident == coordinate) = false := by
      rw [beq_eq_false_iff_ne]
      rintro rfl
      exact (h _ (mem_walk_self _)).1 rfl
    simp only [evalWith, Environment.find, List.lookup_cons, hident, List.lookup_nil]
  | lit text => exact (h _ (mem_walk_self _)).2 text rfl
  | call fn args ih =>
    obtain ⟨-, hargs⟩ := forall_walk_call.mp h
    have hall : ∀ es : List Expr, (∀ a ∈ es, a ∈ args) →
        evalAllWith library [(coordinate, v)] here literal es =
          evalAllWith library [] here literal' es := by
      intro es hes
      induction es with
      | nil => rfl
      | cons a es ihes =>
        have ha := hes a List.mem_cons_self
        rw [evalAllWith, evalAllWith, ih a ha (hargs a ha),
          ihes fun b hb => hes b (List.mem_cons_of_mem a hb)]
    rw [evalWith, evalWith, hall args fun a ha => ha]
  | binary op lhs rhs ihl ihr =>
    obtain ⟨-, hl, hr⟩ := forall_walk_binary.mp h
    rw [evalWith, evalWith, ihl hl, ihr hr]
  | neg operand ih => rw [evalWith, evalWith, ih (forall_walk_neg.mp h).2]
  | swizzle operand fields ih => rw [evalWith, evalWith, ih (forall_walk_swizzle.mp h).2]
  | _ => rfl

theorem evalText_binding {v : Value α} {text : String}
    (h : (Vocabulary.without coordinate).literal text) :
    Expr.evalText library [(coordinate, v)] text = Expr.evalText library [] text := by
  rw [Expr.evalText, Expr.evalText]
  cases hparse : parse text with
  | error e => rfl
  | ok e =>
    refine Expr.evalWith_binding fun n hn => ⟨?_, fun _ _ => rfl⟩
    rintro rfl
    exact h e hparse hn

theorem Expr.UsesOnly.evalAt_binding {vocabulary : Vocabulary} {e : Expr}
    (h : e.UsesOnly vocabulary)
    (hliteral : ∀ text, vocabulary.literal text → (Vocabulary.without coordinate).literal text)
    {v : Value α} {here : Evaluated (Value α)} :
    e.evalAt library [(coordinate, v)] here = e.evalAt library [] here := by
  refine evalWith_binding fun n hn => ?_
  have huses := h n hn
  constructor
  · rintro rfl
    exact huses
  · rintro text rfl
    exact evalText_binding (hliteral text huses)

/-- A compiled scene whose literals do not mention the coordinate is evaluated at points to the
meaning of the scene there. -/
theorem Scene.WellFormed.evaluate_eq_meaning {vocabulary : Vocabulary} {s : Scene}
    (h : s.WellFormed) (huses : ∀ d ∈ s.walk, d.Uses vocabulary)
    (hliteral : ∀ text, vocabulary.literal text → (Vocabulary.without coordinate).literal text)
    {c : Compiled} (hexpr : c.expr = s.expr) {points : Tensor α} {batch : List Nat}
    (hpoints : points.axes = 2 :: batch) :
    c.evaluate library points coordinate =
      (s.meaning library [] (.ok ⟨.vec 2, points⟩)).map (·.data) := by
  have hbinding : Value.ofArray coordinate points = .ok ⟨.vec 2, points⟩ := by
    rw [Value.ofArray, hpoints]
    rfl
  have hfind : Environment.find [(coordinate, ⟨.vec 2, points⟩)] coordinate =
      .ok ⟨.vec 2, points⟩ := by
    simp [Environment.find]
  have hmeaning : s.meaning library [(coordinate, ⟨.vec 2, points⟩)] (.ok ⟨.vec 2, points⟩) =
      s.meaning library [] (.ok ⟨.vec 2, points⟩) := by
    rw [← h.evalAt_expr, ← h.evalAt_expr, (h.usesOnly_expr huses).evalAt_binding hliteral]
  rw [h.evaluate_eq_distances hexpr, Scene.distances, hbinding, ok_bind]
  simp only [hfind, hmeaning]
  cases s.meaning library [] (.ok ⟨.vec 2, points⟩) <;> rfl

theorem fitsKind_evalAt_pair {x y : α} {e : Expr} {v : Value α}
    (h : e.evalAt library [] (.ok (.pair x y)) = .ok v) : v.FitsKind := by
  refine Expr.fitsKind_evalAt ?_ (fun _ _ hfind => by cases hfind) h
  rintro _ ⟨⟩
  exact ⟨by simp [Value.pair, Kind.all], [], rfl⟩

theorem evalAt_number {env : Environment α} (text : String) (here : Evaluated (Value α)) :
    (Expr.number text).evalAt library env here = numberValue text := rfl

/-! ## Distances -/

/-- The compiled scene has a distance at a single point. -/
def Scene.HasDistanceAt (library : Library α) (coordinate : String) (s : Scene) (x y d : α) :
    Prop :=
  ∃ c, (compileScene (.scene s) "raise").result.1 = .ok c ∧
    c.evaluate library (point x y) coordinate = .ok (.scalar d)

/-- The compiled scene cannot be evaluated at a single point. -/
def Scene.FailsAt (library : Library α) (coordinate : String) (s : Scene) (x y : α) : Prop :=
  ∃ c e, (compileScene (.scene s) "raise").result.1 = .ok c ∧
    c.evaluate library (point x y) coordinate = .error e

namespace Scene.Avoids

variable {s : Scene} {x y d : α}

theorem exists_compiled (h : s.Avoids coordinate) :
    ∃ c, (compileScene (.scene s) "raise").result.1 = .ok c ∧ c.expr = s.expr := by
  obtain ⟨c, hc, hexpr⟩ :=
    @Scene.WellFormed.compile .fail s h.wellFormed (fun _ => h.firstUnknown?) []
  have hcompile : compileScene (.scene s) Policy.fail.name = s.compile .fail [] :=
    compileScene_of_read .fail (by rw [Datum.read])
  exact ⟨c, (congrArg (·.result.1) hcompile).trans (hc []), hexpr⟩

/-- A compiled scene is evaluated at a point to the meaning of the scene there. -/
theorem evaluate_eq_meaning (h : s.Avoids coordinate) {c : Compiled} (hexpr : c.expr = s.expr)
    (x y : α) :
    c.evaluate library (point x y) coordinate =
      (s.meaning library [] (.ok (.pair x y))).map (·.data) :=
  h.wellFormed.evaluate_eq_meaning h.uses (fun _ => id) hexpr rfl

theorem evaluate_of_compileScene (h : s.Avoids coordinate) {c : Compiled}
    (hc : (compileScene (.scene s) "raise").result.1 = .ok c) (x y : α) :
    c.evaluate library (point x y) coordinate =
      (s.meaning library [] (.ok (.pair x y))).map (·.data) := by
  obtain ⟨c', hc', hexpr⟩ := h.exists_compiled
  cases hc.symm.trans hc'
  exact h.evaluate_eq_meaning hexpr x y

/-- The distance of a scene at a point is its meaning there. -/
theorem hasDistanceAt_iff (h : s.Avoids coordinate) :
    s.HasDistanceAt library coordinate x y d ↔
      s.meaning library [] (.ok (.pair x y)) = .ok (.number d) := by
  constructor
  · rintro ⟨c, hc, hdistance⟩
    rw [h.evaluate_of_compileScene hc] at hdistance
    cases hmeaning : s.meaning library [] (.ok (.pair x y)) with
    | error e =>
      rw [hmeaning] at hdistance
      cases hdistance
    | ok v =>
      rw [hmeaning] at hdistance
      have hfits : v.FitsKind :=
        fitsKind_evalAt_pair ((h.wellFormed.evalAt_expr _).trans hmeaning)
      exact congrArg Except.ok (hfits.eq_number (Except.ok.inj hdistance))
  · intro hmeaning
    obtain ⟨c, hc, hexpr⟩ := h.exists_compiled
    refine ⟨c, hc, ?_⟩
    rw [h.evaluate_eq_meaning hexpr, hmeaning]
    rfl

theorem failsAt_iff (h : s.Avoids coordinate) :
    s.FailsAt library coordinate x y ↔
      ∃ e, s.meaning library [] (.ok (.pair x y)) = .error e := by
  constructor
  · rintro ⟨c, e, hc, hfails⟩
    rw [h.evaluate_of_compileScene hc] at hfails
    cases hmeaning : s.meaning library [] (.ok (.pair x y)) with
    | error e' => exact ⟨e', rfl⟩
    | ok v =>
      rw [hmeaning] at hfails
      cases hfails
  · rintro ⟨e, hmeaning⟩
    obtain ⟨c, hc, hexpr⟩ := h.exists_compiled
    refine ⟨c, e, hc, ?_⟩
    rw [h.evaluate_eq_meaning hexpr, hmeaning]
    rfl

end Scene.Avoids

end Evaluation

/-! ## Amounts -/

/-- A number rounded to three places, a half going away from zero. -/
def toThousandths (q : ℚ) : ℚ :=
  (if q < 0 then -1 else 1) * ⌊|q| * 1000 + 1 / 2⌋ / 1000

theorem Double.floor_dyadic (m : Nat) (e : Int) :
    ⌊dyadic m e * 1000 + 1 / 2⌋ = (scaledRound m e (3 : Nat) : Int) := by
  obtain ⟨hlow, hhigh⟩ := scaledRound_spec m e 3
  rw [Int.floor_eq_iff]
  norm_num at hlow hhigh ⊢
  exact ⟨hlow, hhigh⟩

/-- The digits that are written for a double are those of the double rounded to three places. -/
theorem Double.toThousandths_exact {x : Double} {negative : Bool} {m : Nat} {e : Int}
    (h : x.view = .finite negative m e) :
    toThousandths x.exact =
      (if negative && m != 0 then -1 else 1) * (scaledRound m e (3 : Nat) : ℚ) / 1000 := by
  have hexact : x.exact = (if negative then -1 else 1) * dyadic m e := by rw [exact, h]
  have hnonneg := dyadic_nonneg m e
  have hfloor := floor_dyadic m e
  rw [hexact, toThousandths]
  cases negative with
  | false =>
    simp only [Bool.false_eq_true, ↓reduceIte, one_mul, Bool.false_and, not_lt.mpr hnonneg,
      abs_of_nonneg hnonneg, hfloor, Int.cast_natCast]
  | true =>
    rw [if_pos rfl, abs_mul, abs_neg, abs_one, one_mul, abs_of_nonneg hnonneg, hfloor,
      Int.cast_natCast]
    by_cases hm : m = 0
    · subst hm
      rw [scaledRound_zero, Nat.cast_zero, mul_zero, mul_zero]
    · have hpos : 0 < dyadic m e :=
        mul_pos (Nat.cast_pos.mpr (Nat.pos_of_ne_zero hm)) (zpow_pos (by norm_num) e)
      rw [if_pos (by linarith), if_pos (by simpa using hm)]

theorem Decimal.parse?_unsignedChars {x : Decimal} (h : x.exponent = -3) :
    Numeral.parse? (String.ofList x.unsignedChars) = some (.decimal false x.coefficient (-3)) := by
  have hparse := (Decimal.parse?_text { x with negative := false }).2
  rw [← h]
  exact hparse

section Numbers

variable {α : Type} [Scalar α]

theorem Decimal.evalText_text (library : Library α) (env : Environment α) {x : Decimal}
    (h : x.exponent = -3) :
    Expr.evalText library env x.text =
      .ok (.number (if x.negative then
        Scalar.neg (Scalar.ofNumeral (.decimal false x.coefficient (-3)))
      else Scalar.ofNumeral (.decimal false x.coefficient (-3)))) := by
  have hnumber : numberValue (String.ofList x.unsignedChars) =
      .ok (.number (Scalar.ofNumeral (.decimal false x.coefficient (-3)) : α)) := by
    rw [numberValue, Decimal.parse?_unsignedChars h]
    rfl
  rw [evalText_of_parse x.parse_text (.error .unboundCoordinate)]
  unfold Decimal.expr
  split_ifs
  · rw [evalAt_neg, evalAt_number, hnumber, ← Value.negate_number]
    rfl
  · rw [evalAt_number, hnumber]

/-- An amount is a number. -/
theorem exists_amount (library : Library α) (env : Environment α) {written : Datum}
    {amount : String} (h : written.scalarText = .ok amount) :
    ∃ a, Expr.evalText library env amount = .ok (.number a) := by
  obtain ⟨x, decimal, hx, hfixed, rfl⟩ := Datum.scalarText_eq_ok_iff.mp h
  obtain ⟨negative, m, e, hview⟩ :=
    Double.exists_view_of_isFinite (Datum.toDouble_eq_ok_iff.mp hx).2
  rw [Double.fixed_of_view hview] at hfixed
  cases hfixed
  exact ⟨_, Decimal.evalText_text library env rfl⟩

end Numbers

section ExactField

variable {K : Type} [Field K] [Scalar K] [ExactField K] {library : Library K}
  {env : Environment K}

theorem evalText_decimal {text : String} {m : Nat} {e : Int}
    (hparse : parse text = .ok (.number text))
    (h : Numeral.parse? text = some (.decimal false m e)) :
    Expr.evalText library env text = .ok (.number ((m : K) * 10 ^ e)) :=
  (evalText_numeral hparse).trans (numberValue_of_parse h)

theorem inverseRotation_number (t : K) :
    inverseRotation library (.number t) =
      .ok (.square (Scalar.cos t) (Scalar.sin t) (-Scalar.sin t) (Scalar.cos t)) := by
  have hcos : callFunction library "cos" [.number t] = .ok (.number (Scalar.cos t)) :=
    callFunction_one rfl t
  have hsin : callFunction library "sin" [.number t] = .ok (.number (Scalar.sin t)) :=
    callFunction_one rfl t
  rw [inverseRotation, hcos, hsin]
  simp only [ok_bind, Value.negate_number, callFunction_mat2, ExactField.neg_eq]

end ExactField

section Exact

variable {K : Type} [Field K] [LinearOrder K] [IsStrictOrderedRing K] [Scalar K] [ExactScalar K]
  {library : Library K} {env : Environment K}

/-- An amount has as its value the number that was given, rounded to three places. -/
theorem evalText_amount {d : Datum} {x : Double} {amount : String} (hx : d.toDouble = .ok x)
    (hamount : d.scalarText = .ok amount) :
    Expr.evalText library env amount = .ok (.number (toThousandths x.exact : K)) := by
  obtain ⟨x', decimal, hx', hfixed, rfl⟩ := Datum.scalarText_eq_ok_iff.mp hamount
  cases hx.symm.trans hx'
  obtain ⟨negative, m, e, hview⟩ :=
    Double.exists_view_of_isFinite (Datum.toDouble_eq_ok_iff.mp hx).2
  rw [Double.fixed_of_view hview] at hfixed
  cases hfixed
  rw [Decimal.evalText_text library env rfl, Double.toThousandths_exact hview]
  simp only [ExactField.neg_eq, ExactField.ofNumeral_decimal]
  split <;> push_cast <;> congr 2 <;> norm_num [div_eq_mul_inv]

end Exact

/-! ## Circles -/

theorem callFunction_circle (x y r : ℝ) :
    callFunction Library.standard "circle" [.pair x y, .number r] =
      .ok (.number (√(x * x + y * y) - r)) := by
  have hnorm : (point x y).norm = .ok (.scalar (√(x * x + y * y))) := by
    have hfold : (point x y).foldInner Scalar.norm = .scalar (Scalar.norm [x, y]) :=
      Tensor.foldInner_ofFn Scalar.norm _
    have hlength : Scalar.norm [x, y] = √(Scalar.sum [x * x, y * y]) := rfl
    show Except.ok ((point x y).foldInner Scalar.norm) = _
    rw [hfold, hlength, ExactField.sum_pair]
  have hcircle : Primitive.circle (point x y) (.scalar r) =
      .ok (.scalar (√(x * x + y * y) - r)) := by
    rw [Primitive.circle, hnorm, ok_bind, Tensor.zipWith_scalar]
    rfl
  have hcall : Primitive.takes2 "p" "r" Primitive.circle [point x y, .scalar r] =
      .ok (.scalar (√(x * x + y * y) - r)) := by
    rw [Primitive.takes2, hcircle]
    rfl
  exact callFunction_library rfl rfl rfl hcall

theorem meaning_circle {text : String} {r : ℝ}
    (hr : Expr.evalText Library.standard [] text = .ok (.number r)) (x y : ℝ) :
    (Scene.primitive "circle" [.text text]).meaning Library.standard [] (.ok (.pair x y)) =
      .ok (.number (√(x * x + y * y) - r)) := by
  simp only [Scene.meaning, List.mapM_cons, List.mapM_nil, Datum.value, hr, ok_bind]
  exact callFunction_circle x y r

theorem circle_avoids {coordinate text : String}
    (huses : (Vocabulary.without coordinate).literal text) :
    (Scene.primitive "circle" [.text text]).Avoids coordinate :=
  ⟨.primitive "circle" [text], List.forall_mem_singleton.mpr ⟨trivial, by simpa using huses⟩⟩

/-- The distance of a circle in the plane of real numbers. -/
theorem hasDistanceAt_circle {coordinate text : String} {r : ℝ}
    (huses : (Vocabulary.without coordinate).literal text)
    (hr : Expr.evalText Library.standard [] text = .ok (.number r)) (x y : ℝ) :
    (Scene.primitive "circle" [.text text]).HasDistanceAt Library.standard coordinate x y
      (√(x * x + y * y) - r) := by
  rw [(circle_avoids huses).hasDistanceAt_iff]
  exact meaning_circle hr x y

end SignedDistance
