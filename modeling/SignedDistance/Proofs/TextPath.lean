import Mathlib
import SignedDistance.Proofs.Amounts
import SignedDistance.Proofs.UnknownOperators

/-!
# Distance texts

A compiled scene can be evaluated as the expression it is, or it can be applied to the text of a
coordinate and the distance text be parsed and evaluated. Both ways have the same outcome
(`evaluateText_apply`): the text of the expression is parsed as the expression with its literals
resolved, which changes no value, and substituting a text is substituting what it stands for.
-/

namespace SignedDistance

open Text

variable {α : Type} [Scalar α] {library : Library α} {env : Environment α}

namespace Expr

/-- Replacing literals by what they stand for changes no value. -/
theorem evalAt_resolved (e : Expr) (here : Evaluated (Value α)) :
    e.resolved.evalAt library env here = e.evalAt library env here := by
  unfold evalAt
  induction e with
  | lit text =>
    cases h : parse text with
    | error error => rw [resolved, h]
    | ok e =>
      rw [resolved_lit h]
      exact (evalText_of_parse h here).symm
  | call fn args ih => rw [resolved, resolvedAll_eq_map, evalWith, evalWith, evalAllWith_congr ih]
  | binary op lhs rhs ihl ihr => rw [resolved, evalWith, evalWith, ihl, ihr]
  | neg operand ih => rw [resolved, evalWith, evalWith, ih]
  | swizzle operand fields ih => rw [resolved, evalWith, evalWith, ih]
  | _ => rfl

/-- Substituting a text is substituting what it stands for. -/
theorem eval_substitute_lit {text : String} {point : Expr} (h : parse text = .ok point)
    (e : Expr) :
    (e.substitute (.lit text)).eval library env = (e.substitute point).eval library env := by
  have hlit : (lit text).evalAt library env (.error .unboundCoordinate) =
      point.evalAt library env (.error .unboundCoordinate) := evalText_of_parse h _
  rw [eval, eval, evalAt_substitute, evalAt_substitute, hlit]

end Expr

/-- The vocabulary of expressions whose texts can be read back: literals can be parsed, functions
have identifiers, and there are no unknown operators. -/
def Vocabulary.readable : Vocabulary where
  literal text := ∃ e, parse text = .ok e
  function fn := isIdentifier fn = true
  unknown _ := False
  amount := exists_parse_of_scalarText
  zero := ⟨.number "0.0", by cbv⟩
  quarter := ⟨.number "0.25", by cbv⟩
  builtin := by decide

theorem Expr.UsesOnly.isWritable {e point : Expr} {text : String} (h : e.UsesOnly .readable)
    (hparse : parse text = .ok point) (hdigits : isDigits (trim text.toList) = false) :
    ∀ n ∈ (e.substitute (.lit text)).walk, n.IsWritable ∧ n.selectsInteger = false := by
  refine forall_walk_substitute (List.forall_mem_singleton.mpr ⟨⟨point, hparse⟩, rfl⟩) ?_
  intro n hn
  have huses := h n hn
  cases n with
  | coord label => exact Or.inl ⟨label, rfl⟩
  | swizzle operand fields =>
    refine Or.inr ⟨huses.2, ?_⟩
    have hselectable := huses.1
    cases operand with
    | coord label => exact hdigits
    | binary op lhs rhs => rfl
    | _ => cases hselectable
  | lit text => exact Or.inr ⟨huses, rfl⟩
  | call fn args => exact Or.inr ⟨huses, rfl⟩
  | binary op lhs rhs => exact Or.inr ⟨huses, rfl⟩
  | neg operand => exact Or.inr ⟨trivial, rfl⟩
  | _ => exact huses.elim

/-- A scene that can be read back has no unknown operators. -/
theorem firstUnknown?_of_readable {s : Scene} (h : ∀ n ∈ s.walk, n.Uses .readable) :
    s.firstUnknown? = none := by
  refine List.findSome?_eq_none_iff.mpr fun n hn => ?_
  have huses := h n hn
  unfold Datum.unknownName?
  split
  · exact huses.elim
  · rfl

theorem parse_identifier {name : String} (h : isIdentifier name = true) :
    parse name = .ok (.name name) := by
  refine parse_eq_ok_iff.mpr ⟨_, lex_identifier h, ?_⟩
  exact .product (.unary (.postfixed (.primary (.name name))))

/-- An identifier is no number. -/
theorem isDigits_identifier {name : String} (h : isIdentifier name = true) :
    isDigits (trim name.toList) = false := by
  have hname := lex_trim (@lex_identifier false name h)
  by_contra hdigits
  rw [Bool.not_eq_false] at hdigits
  have hnumber : IsNumber (String.ofList (trim name.toList)) :=
    ⟨_, [], .whole (isDigits_of_ascii (toNat_lt_of_lex hname) hdigits), .none, by simp⟩
  have hlex := lex_number hnumber
  rw [String.toList_ofList, hname] at hlex
  cases hlex

/-- The text of an expression at a coordinate has the value of the expression there. -/
theorem evalText_render {e point : Expr} {coordinate : String} (h : e.UsesOnly .readable)
    (hparse : parse coordinate = .ok point)
    (hdigits : isDigits (trim coordinate.toList) = false) :
    ∃ text, (e.substitute (.lit coordinate)).render = .ok text ∧
      (∃ e', parse text = .ok e') ∧
      ∀ {α : Type} [Scalar α] (library : Library α) (env : Environment α),
        Expr.evalText library env text = (e.substitute point).eval library env := by
  obtain ⟨text, hrender, htext⟩ := parse_of_render (h.isWritable hparse hdigits)
  refine ⟨text, hrender, ⟨_, htext⟩, fun library env => ?_⟩
  calc Expr.evalText library env text
    _ = (e.substitute (.lit coordinate)).resolved.eval library env :=
      evalText_of_parse htext _
    _ = (e.substitute (.lit coordinate)).eval library env := Expr.evalAt_resolved _ _
    _ = (e.substitute point).eval library env := Expr.eval_substitute_lit hparse e

/-- A text that can be parsed is evaluated in the environment of its data. -/
theorem evaluateText_eq {text : String} {e : Expr} (h : parse text = .ok e)
    (bindings : List (String × Datum)) :
    evaluateText text bindings = (do
      return (← Expr.evalText Library.standard (← Environment.ofData bindings) text).data) := by
  simp only [evaluateText, h, evaluate, Expr.eval, evalText_of_parse h (.error .unboundCoordinate)]

/-- Distances at points are the values at a name bound to the points. -/
theorem evaluateData_eq_evaluate (c : Compiled) (points : Datum) (name : String) :
    c.evaluateData points name = evaluate (c.expr.substitute (.name name)) [(name, points)] := by
  have hbinding : Environment.ofData [(name, points)] = (do
      let value ← Value.ofArray name (← points.toFloats)
      return [(name, value)]) := by
    simp [Environment.ofData, Environment.ofBindings, Value.ofBinding]
  simp [Compiled.evaluateData, Compiled.evaluate, evaluate, hbinding]

/-- The text of a compiled scene and its expression have the same values, whatever the names are
bound to. The scene is one of plain data that can be read back, under either policy; the coordinate
is any text that can be parsed and is not a number of digits only. In particular, the distances at
points are the values of the text at a name that is bound to them. -/
theorem evaluateText_apply {d : Datum} {s : Scene} (hplain : d.Plain) (hread : d.read [] = .ok s)
    (hreadable : ∀ n ∈ s.walk, n.Uses .readable) (policy : Policy) :
    ∃ c, (compileScene d policy.name).result.1 = .ok c ∧
      (∀ coordinate point, parse coordinate = .ok point →
        isDigits (trim coordinate.toList) = false →
        ∃ text, c.apply coordinate = .ok text ∧
          (∀ {α : Type} [Scalar α] (library : Library α) (env : Environment α),
            Expr.evalText library env text = (c.expr.substitute point).eval library env) ∧
          ∀ bindings, evaluateText text bindings = evaluate (c.expr.substitute point) bindings) ∧
      (∀ name, isIdentifier name = true → ∃ text, c.apply name = .ok text ∧
        (∀ {α : Type} [Scalar α] (library : Library α) (points : Tensor α) (v : Value α),
          Value.ofArray name points = .ok v →
          c.evaluate library points name =
            (Expr.evalText library [(name, v)] text).map (·.data)) ∧
        ∀ points, c.evaluateData points name = evaluateText text [(name, points)]) := by
  have hwell := Scene.WellFormed.of_read hplain hread
  obtain ⟨c, hc, hexpr⟩ := compileScene_eq_ok policy hplain hread
    fun _ => firstUnknown?_of_readable hreadable
  have huses : c.expr.UsesOnly .readable := hexpr ▸ hwell.usesOnly_expr hreadable
  refine ⟨c, hc, fun coordinate point hparse hdigits => ?_, fun name hname => ?_⟩
  · obtain ⟨text, happly, ⟨e, he⟩, heval⟩ := evalText_render huses hparse hdigits
    refine ⟨text, happly, heval, fun bindings => ?_⟩
    simp only [evaluateText_eq he, evaluate, heval]
  · obtain ⟨text, happly, ⟨e, he⟩, heval⟩ :=
      evalText_render huses (parse_identifier hname) (isDigits_identifier hname)
    refine ⟨text, happly, fun library points v hv => ?_, fun points => ?_⟩
    · rw [Compiled.evaluate, hv, ok_bind, heval]
      cases (c.expr.substitute (.name name)).eval library [(name, v)] <;> rfl
    · rw [evaluateData_eq_evaluate]
      simp only [evaluateText_eq he, evaluate, heval]

/-- A moved and scaled circle at a coordinate that is a sum: the text and the expression have the
same distance. -/
theorem evaluateText_apply_scaled_circle :
    ∃ c, (compileScene (.ofCall "SCALE" [.text "0.5",
        .ofCall "TRANSLATE" [.text "c", .ofCall "circle" [.text "1.0"]]])
        "defer").result.1 = .ok c ∧
      ∃ text, c.apply "p + q" = .ok text ∧
        ∃ distance : Tensor Float, distance.axes = [] ∧
          let bindings := [("p", .list [.int 1, .int 2]), ("q", .list [.int 3, .int 4]),
            ("c", .list [.int 5, .int 6])]
          evaluateText text bindings = .ok distance ∧
          evaluate (c.expr.substitute (.binary .add (.name "p") (.name "q"))) bindings =
            .ok distance := by
  have hcoordinate : parse "p + q" = .ok (.binary .add (.name "p") (.name "q")) := by cbv
  have hc : parse "c" = .ok (.name "c") := by cbv
  have hamount : parse "0.500" = .ok (.number "0.500") := by cbv
  have hradius : parse "1.0" = .ok (.number "1.0") := by cbv
  have hreadable : ∀ n ∈ (Scene.adjust .scale (.text "0.5") "0.500"
      (.translate (.text "c") (.primitive "circle" [.text "1.0"]))).walk, n.Uses .readable := by
    have hname : isIdentifier "circle" = true := by decide
    simp only [Scene.walk, List.forall_mem_cons]
    refine ⟨trivial, ⟨_, hc⟩, ⟨hname, ?_⟩, by simp⟩
    rintro s (⟨⟩ | ⟨_, ⟨⟩⟩)
    exact ⟨_, hradius⟩
  obtain ⟨hplain, hread⟩ := read_scaled_circle "c"
  obtain ⟨c, hcompile, hvalue, -⟩ := evaluateText_apply hplain hread hreadable .defer
  obtain ⟨text, happly, -, heval⟩ := hvalue "p + q" _ hcoordinate (by decide)
  refine ⟨c, hcompile, text, happly, ?_⟩
  simp only [heval, and_self]
  obtain ⟨c', hcompile', hexpr⟩ := compileScene_eq_ok .defer hplain hread (by simp)
  cases hcompile.symm.trans hcompile'
  have hnumbers : (c.expr.substitute (.binary .add (.name "p") (.name "q"))).resolved =
      .binary .mul (.number "0.500") (.call "circle" [.binary .sub (.binary .div
        (.binary .add (.name "p") (.name "q")) (.number "0.500")) (.name "c"), .number "1.0"]) := by
    rw [hexpr]
    simp [Scene.expr, Formula.adjust, Formula.translate, Datum.toOffset, Expr.here, Expr.substitute,
      Expr.substituteAll, Expr.resolved, Expr.resolvedAll, hc, hamount, hradius]
  simp only [evaluate, Expr.eval, ← Expr.evalAt_resolved (c.expr.substitute _), hnumbers]
  exact ⟨_, rfl, rfl⟩

end SignedDistance
