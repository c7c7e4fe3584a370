import Mathlib
import SignedDistance.Proofs.Distances
import SignedDistance.Proofs.TextPath

/-!
# The coordinate as a bound variable

The name that stands for the coordinate while a compiled scene is evaluated can be chosen freely, as
long as no literal of the scene mentions it (`evaluate_rename_coordinate`). Functions are not
variables: a scene that calls a function of this name does not mention it.
-/

namespace SignedDistance

/-- The literals that stand in a node of a scene itself. Amounts are left out: they are numbers, so
there is nothing that they could mention. -/
def Datum.ownLiterals : Datum → List Datum
  | .scene (.primitive _ args) => args
  | .scene (.constant s) => [.text s]
  | .scene (.translate offset _) => [offset]
  | _ => []

/-- A name occurs as a variable in a literal of the scene. -/
def Scene.Mentions (s : Scene) (name : String) : Prop :=
  ∃ d ∈ s.walk, ∃ text, .text text ∈ d.ownLiterals ∧ ∃ e, parse text = .ok e ∧ .name name ∈ e.walk

/-- The vocabulary without literals that mention a name. Operators may be unknown. -/
def Vocabulary.avoiding (name : String) : Vocabulary :=
  { Vocabulary.without name with unknown := fun _ => True }

theorem Scene.uses_avoiding {s : Scene} {name : String} (h : ¬ s.Mentions name) :
    ∀ d ∈ s.walk, d.Uses (.avoiding name) := by
  intro d hd
  have hliteral : ∀ text, .text text ∈ d.ownLiterals → (Vocabulary.avoiding name).literal text :=
    fun text htext e hparse hname => h ⟨d, hd, text, htext, e, hparse, hname⟩
  unfold Datum.Uses
  split
  · exact ⟨trivial, hliteral⟩
  · exact hliteral _ (by simp [Datum.ownLiterals])
  · exact hliteral _ (by simp [Datum.ownLiterals])
  · trivial
  · trivial

@[simp] theorem Scene.mentions_adjust {kind : Adjustment} {written : Datum} {amount : String}
    {child : Scene} {name : String} :
    (adjust kind written amount child).Mentions name ↔ child.Mentions name := by
  simp [Mentions, walk, Datum.ownLiterals]

theorem Scene.mentions_translate {offset : String} {child : Scene} {name : String} :
    (translate (.text offset) child).Mentions name ↔
      (∃ e, parse offset = .ok e ∧ .name name ∈ e.walk) ∨ child.Mentions name := by
  simp [Mentions, walk, Datum.ownLiterals]

section Evaluation

variable {α : Type} [Scalar α] (library : Library α) {s : Scene}

/-- Where no literal mentions the coordinate, only the points matter to a compiled scene. -/
theorem Scene.WellFormed.evaluate_of_not_mentions (h : s.WellFormed) {coordinate : String}
    (hcoordinate : ¬ s.Mentions coordinate) {c : Compiled} (hexpr : c.expr = s.expr)
    {points : Tensor α} {batch : List Nat} (hpoints : points.axes = 2 :: batch) :
    c.evaluate library points coordinate =
      (s.meaning library [] (.ok ⟨.vec 2, points⟩)).map (·.data) :=
  h.evaluate_eq_meaning (uses_avoiding hcoordinate) (fun _ => id) hexpr hpoints

/-- The scene of plain data can be compiled, and the name of the coordinate does not matter to the
values or the errors of what it is compiled to. -/
theorem evaluate_rename_coordinate {d : Datum} (hplain : d.Plain) (hread : d.read [] = .ok s)
    {coordinate coordinate' : String} (hcoordinate : ¬ s.Mentions coordinate)
    (hcoordinate' : ¬ s.Mentions coordinate') :
    (∃ c, (compileScene d "defer").result.1 = .ok c) ∧
    ∀ (policy : Policy) (c : Compiled), (compileScene d policy.name).result.1 = .ok c →
      ∀ (points : Tensor α) (batch : List Nat), points.axes = 2 :: batch →
        c.evaluate library points coordinate = c.evaluate library points coordinate' := by
  have hwell := Scene.WellFormed.of_read hplain hread
  constructor
  · obtain ⟨c, hc, -⟩ := hwell.exists_compileScene hread .defer (by simp)
    exact ⟨c, hc⟩
  · intro policy c hc points batch hpoints
    have hexpr := hwell.expr_of_compileScene hread hc
    rw [hwell.evaluate_of_not_mentions library hcoordinate hexpr hpoints,
      hwell.evaluate_of_not_mentions library hcoordinate' hexpr hpoints]

end Evaluation

/-- A scene that calls `circle` has the same distances with the coordinate named `circle` or `q`. -/
theorem evaluate_rename_coordinate_scaled_circle :
    ∃ c, (compileScene (.ofCall "SCALE" [.text "0.5",
        .ofCall "TRANSLATE" [.text "vec2(2.0, 3.0)", .ofCall "circle" [.text "1.0"]]])
        "defer").result.1 = .ok c ∧
      ∃ distances : Tensor Float, distances.axes = [3] ∧
        c.evaluate Library.standard (.ofFn [2, 3] fun _ => 1.5) "circle" = .ok distances ∧
        c.evaluate Library.standard (.ofFn [2, 3] fun _ => 1.5) "q" = .ok distances := by
  have hoffset : parse "vec2(2.0, 3.0)" = .ok (.call "vec2" [.number "2.0", .number "3.0"]) := by
    cbv
  have hradius : parse "1.0" = .ok (.number "1.0") := by cbv
  have hamount : parse "0.500" = .ok (.number "0.500") := by cbv
  have hmentions : ∀ name, ¬ (Scene.adjust .scale (.text "0.5") "0.500"
      (.translate (.text "vec2(2.0, 3.0)") (.primitive "circle" [.text "1.0"]))).Mentions name := by
    rintro name ⟨d, hd, text, htext, e, hparse, he⟩
    simp only [Scene.walk, List.mem_cons, List.not_mem_nil, or_false] at hd
    rcases hd with rfl | rfl | rfl
    · cases htext
    · simp only [Datum.ownLiterals, List.mem_singleton, Datum.text.injEq] at htext
      cases htext
      cases hoffset.symm.trans hparse
      simp [Expr.walk, Expr.walkAll] at he
    · simp only [Datum.ownLiterals, List.mem_singleton, Datum.text.injEq] at htext
      cases htext
      cases hradius.symm.trans hparse
      simp [Expr.walk] at he
  obtain ⟨hplain, hread⟩ := read_scaled_circle "vec2(2.0, 3.0)"
  obtain ⟨⟨c, hc⟩, hrename⟩ := evaluate_rename_coordinate (Library.standard : Library Float)
    hplain hread (hmentions "circle") (hmentions "q")
  have hsame := hrename .defer c hc (.ofFn [2, 3] fun _ => 1.5) [3] rfl
  refine ⟨c, hc, ?_⟩
  simp only [hsame, and_self]
  have hdefer : (compileScene _ Policy.defer.name).result.1 = .ok c := hc
  have hexpr := (Scene.WellFormed.of_read hplain hread).expr_of_compileScene hread hdefer
  have hnumbers : (c.expr.substitute (.name "q")).resolved =
      .binary .mul (.number "0.500") (.call "circle" [.binary .sub (.binary .div (.name "q")
        (.number "0.500")) (.call "vec2" [.number "2.0", .number "3.0"]), .number "1.0"]) := by
    rw [hexpr]
    simp [Scene.expr, Formula.adjust, Formula.translate, Datum.toOffset, Expr.here, Expr.substitute,
      Expr.substituteAll, Expr.resolved, Expr.resolvedAll, hoffset, hamount, hradius]
  simp only [Compiled.evaluate, Expr.eval, ← Expr.evalAt_resolved (c.expr.substitute _), hnumbers]
  exact ⟨_, rfl, rfl⟩

end SignedDistance
