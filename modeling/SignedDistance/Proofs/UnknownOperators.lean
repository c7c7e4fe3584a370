import Mathlib
import SignedDistance.Evaluation.Bindings
import SignedDistance.Proofs.Substitution
import SignedDistance.Proofs.Vocabulary

/-!
# Unknown operators

An unknown operator that is kept in an expression is met again when the expression is rendered or
evaluated. Rendering goes through an expression as a walk does, so the first open place of the
expression is its error (`failsWith_render`), and evaluation succeeds for no expression with an open
place (`firstPending?_of_evalWith`). The formulas of the operators repeat and negate their operands
but never move one in front of another, so the first open place of a scene's expression is the
first unknown operator of the scene (`Scene.WellFormed.firstPending?_expr`).
-/

namespace SignedDistance

theorem findSome?_cons_eq_or {α β : Type} (f : α → Option β) (a : α) (as : List α) :
    (a :: as).findSome? f = (f a).or (as.findSome? f) := by
  rw [List.findSome?_cons]
  cases f a <;> rfl

namespace Expr

/-! ## The first open place -/

/-- The operator whose place is kept open. -/
def pendingName? : Expr → Option String
  | .pending op => some op
  | _ => none

/-- The operator of the first open place that a walk meets. -/
def firstPending? (e : Expr) : Option String :=
  e.walk.findSome? pendingName?

@[simp] theorem firstPending?_call (fn : String) (args : List Expr) :
    (call fn args).firstPending? = args.findSome? firstPending? := by
  have hargs : (args.flatMap walk).findSome? pendingName? = args.findSome? firstPending? := by
    induction args with
    | nil => rfl
    | cons a args ih =>
      rw [List.flatMap_cons, List.findSome?_append, ih, findSome?_cons_eq_or, firstPending?]
  rw [firstPending?, walk, walkAll_eq_flatMap, List.findSome?_cons, hargs]
  rfl

theorem firstPending?_call_pair (fn : String) (a b : Expr) :
    (call fn [a, b]).firstPending? = a.firstPending?.or b.firstPending? := by
  rw [firstPending?_call, findSome?_cons_eq_or, findSome?_cons_eq_or, List.findSome?_nil,
    Option.or_none]

@[simp] theorem firstPending?_binary (op : Operator) (lhs rhs : Expr) :
    (binary op lhs rhs).firstPending? = lhs.firstPending?.or rhs.firstPending? := by
  rw [firstPending?, walk, List.findSome?_cons, List.findSome?_append]
  rfl

@[simp] theorem firstPending?_neg (operand : Expr) :
    (neg operand).firstPending? = operand.firstPending? := by
  rw [firstPending?, walk, List.findSome?_cons]
  rfl

@[simp] theorem firstPending?_swizzle (operand : Expr) (fields : String) :
    (swizzle operand fields).firstPending? = operand.firstPending? := by
  rw [firstPending?, walk, List.findSome?_cons]
  rfl

@[simp] theorem firstPending?_here : here.firstPending? = none := rfl

@[simp] theorem firstPending?_lit (text : String) : (lit text).firstPending? = none := rfl

/-- A point without open places brings none in. -/
theorem firstPending?_substitute (e : Expr) {point : Expr} (h : point.firstPending? = none) :
    (e.substitute point).firstPending? = e.firstPending? := by
  induction e with
  | coord label => exact h
  | call fn args ih =>
    rw [substitute, substituteAll_eq_map, firstPending?_call, firstPending?_call]
    induction args with
    | nil => rfl
    | cons a args iha =>
      rw [List.map_cons, List.findSome?_cons, List.findSome?_cons, ih a (by simp),
        iha fun b hb => ih b (by simp [hb])]
  | binary op lhs rhs ihl ihr =>
    rw [substitute, firstPending?_binary, firstPending?_binary, ihl, ihr]
  | neg operand ih => rw [substitute, firstPending?_neg, firstPending?_neg, ih]
  | swizzle operand fields ih => rw [substitute, firstPending?_swizzle, firstPending?_swizzle, ih]
  | _ => rfl

/-! ## Rendering -/

/-- A result fails with an unknown operator, if one is given, and with nothing else. -/
def FailsWith {β : Type} (op? : Option String) (result : Except RenderError β) : Prop :=
  match op? with
  | none => ∃ b, result = .ok b
  | some op => result = .error (.unknownOperator op)

theorem failsWith_ok {β : Type} (b : β) : FailsWith none (.ok b) := ⟨b, rfl⟩

/-- In a sequence, the first failure counts. -/
theorem FailsWith.bind {β γ : Type} {op? op'? : Option String} {result : Except RenderError β}
    {next : β → Except RenderError γ} (h : FailsWith op? result)
    (hnext : ∀ b, FailsWith op'? (next b)) : FailsWith (op?.or op'?) (result >>= next) := by
  cases op? with
  | none =>
    obtain ⟨b, rfl⟩ := h
    exact hnext b
  | some op =>
    cases h
    rfl

/-- A last step that cannot fail changes nothing. -/
theorem FailsWith.map {β γ : Type} {op? : Option String} {result : Except RenderError β}
    (h : FailsWith op? result) (f : β → γ) : FailsWith op? (do return f (← result)) := by
  have hbind := h.bind fun b => failsWith_ok (f b)
  rwa [Option.or_none] at hbind

/-- Whether a node has no text for a reason other than an unknown operator. -/
def isVoid : Expr → Bool
  | .stray _ => true
  | .blank => true
  | _ => false

theorem failsWith_renderAll {args : List Expr}
    (h : ∀ a ∈ args, FailsWith a.firstPending? a.render) :
    FailsWith (args.findSome? firstPending?) (renderAll args) := by
  induction args with
  | nil => exact failsWith_ok []
  | cons a args ih =>
    rw [List.forall_mem_cons] at h
    rw [findSome?_cons_eq_or]
    exact h.1.bind fun text => (ih h.2).map (text :: ·)

/-- Rendering an expression fails with its first open place, if there is one. -/
theorem failsWith_render {e : Expr} (h : ∀ n ∈ e.walk, n.isVoid = false) :
    FailsWith e.firstPending? e.render := by
  induction e with
  | coord label => exact failsWith_ok label
  | lit text => exact failsWith_ok text
  | name ident => exact failsWith_ok ident
  | number text => exact failsWith_ok text
  | pending op => rfl
  | call fn args ih =>
    rw [firstPending?_call]
    exact (failsWith_renderAll fun a ha => ih a ha ((forall_walk_call.mp h).2 a ha)).map _
  | binary op lhs rhs ihl ihr =>
    obtain ⟨-, hl, hr⟩ := forall_walk_binary.mp h
    rw [firstPending?_binary]
    exact (ihl hl).bind fun l => (ihr hr).map _
  | neg operand ih =>
    rw [firstPending?_neg]
    exact (ih (forall_walk_neg.mp h).2).map _
  | swizzle operand fields ih =>
    rw [firstPending?_swizzle]
    exact (ih (forall_walk_swizzle.mp h).2).map _
  | _ => cases h _ (mem_walk_self _)

/-! ## Evaluating -/

section Evaluation

variable {α : Type} [Scalar α] {library : Library α} {env : Environment α}
  {here : Evaluated (Value α)} {literal : String → Evaluated (Value α)}

theorem exists_evalWith_of_mem {es : List Expr} {e : Expr} {vs : List (Value α)}
    (h : evalAllWith library env here literal es = .ok vs) (he : e ∈ es) :
    ∃ v, e.evalWith library env here literal = .ok v := by
  induction es generalizing vs with
  | nil => cases he
  | cons a es ih =>
    rw [evalAllWith] at h
    obtain ⟨v, hv, h⟩ := bind_eq_ok_iff.mp h
    obtain ⟨vs', hvs', -⟩ := bind_eq_ok_iff.mp h
    rcases List.mem_cons.mp he with rfl | he
    · exact ⟨v, hv⟩
    · exact ih hvs' he

/-- An expression with an open place has no value. -/
theorem firstPending?_of_evalWith {e : Expr} {v : Value α}
    (h : e.evalWith library env here literal = .ok v) : e.firstPending? = none := by
  induction e generalizing v with
  | pending op => cases h
  | call fn args ih =>
    rw [evalWith] at h
    obtain ⟨vs, hvs, -⟩ := bind_eq_ok_iff.mp h
    rw [firstPending?_call, List.findSome?_eq_none_iff]
    intro a ha
    obtain ⟨v, hv⟩ := exists_evalWith_of_mem hvs ha
    exact ih a ha hv
  | binary op lhs rhs ihl ihr =>
    rw [evalWith] at h
    obtain ⟨a, ha, h⟩ := bind_eq_ok_iff.mp h
    obtain ⟨b, hb, -⟩ := bind_eq_ok_iff.mp h
    rw [firstPending?_binary, ihl ha, ihr hb]
    rfl
  | neg operand ih =>
    rw [evalWith] at h
    obtain ⟨a, ha, -⟩ := bind_eq_ok_iff.mp h
    rw [firstPending?_neg, ih ha]
  | swizzle operand fields ih =>
    rw [evalWith] at h
    obtain ⟨a, ha, -⟩ := bind_eq_ok_iff.mp h
    rw [firstPending?_swizzle, ih ha]
  | _ => rfl

end Evaluation

end Expr

/-! ## Scenes with unknown operators -/

namespace Formula

open SignedDistance.Expr

@[simp] theorem firstPending?_app (fn : String) (a : Expr) :
    (app fn a).firstPending? = a.firstPending? := by
  rw [app, firstPending?_call, findSome?_cons_eq_or, List.findSome?_nil, Option.or_none]

@[simp] theorem firstPending?_inverseRotation (angle : Expr) :
    (inverseRotation angle).firstPending? = angle.firstPending? := by
  simp only [inverseRotation, firstPending?_call, List.findSome?_cons, List.findSome?_nil, neg_eq,
    firstPending?_neg, firstPending?_app]
  cases angle.firstPending? <;> rfl

/-- An amount and the coordinate bring no open places in. -/
theorem firstPending?_adjust (kind : Adjustment) (amount : String) (child : Expr) :
    (adjust kind (.lit amount) child).firstPending? = child.firstPending? := by
  have hcomponent : ∀ field, (component field).firstPending? = none := fun _ => rfl
  cases kind with
  | rotate => exact firstPending?_substitute child (by simp [mul_eq])
  | scale =>
    rw [adjust, mul_eq, firstPending?_binary, firstPending?_substitute child (by simp [div_eq])]
    rfl
  | hollow => simp [adjust, sub_eq]
  | melt => simp [adjust, sub_eq]
  | bend => exact firstPending?_substitute child (by simp [mul_eq, hcomponent])
  | displace => simp [adjust, add_eq, mul_eq, hcomponent]

/-- Both operands are met in their order. -/
theorem firstPending?_combine (op : Combination) (a b : Expr) :
    (combine op a b).firstPending? = a.firstPending?.or b.firstPending? := by
  cases op with
  | unite => exact firstPending?_call_pair "min" a b
  | subtract => exact firstPending?_call_pair "max" (-a) b
  | intersect => exact firstPending?_call_pair "max" a b

theorem firstPending?_blendCorrection (k gap : Expr) :
    (blendCorrection k gap).firstPending? = k.firstPending?.or gap.firstPending? := by
  simp only [blendCorrection, maximum, firstPending?_call_pair, sub_eq, mul_eq, div_eq,
    firstPending?_binary, firstPending?_app, firstPending?_lit]
  cases k.firstPending? <;> cases gap.firstPending? <;> rfl

/-- The two operands are met in their order before the radius. -/
theorem firstPending?_blend (op : Combination) (a b k : Expr) :
    (blend op a b k).firstPending? = a.firstPending?.or (b.firstPending?.or k.firstPending?) := by
  have hgap : ∀ {distance gap : Expr},
      distance.firstPending? = a.firstPending?.or b.firstPending? →
      gap.firstPending? = a.firstPending?.or b.firstPending? →
      (distance - blendCorrection k gap).firstPending? =
        a.firstPending?.or (b.firstPending?.or k.firstPending?) := by
    intro distance gap hdistance hgap
    rw [sub_eq, firstPending?_binary, firstPending?_blendCorrection, hdistance, hgap]
    cases a.firstPending? <;> cases b.firstPending? <;> cases k.firstPending? <;> rfl
  cases op with
  | unite => exact hgap (firstPending?_call_pair "min" a b) (firstPending?_binary .sub a b)
  | subtract => exact hgap (firstPending?_call_pair "min" a (-b)) (firstPending?_binary .add a b)
  | intersect =>
    exact hgap (firstPending?_call_pair "min" (-a) (-b)) (firstPending?_binary .add (-a) b)

end Formula

/-- The first open place of a scene's expression is the first unknown operator of the scene. -/
theorem Scene.WellFormed.firstPending?_expr {s : Scene} (h : s.WellFormed) :
    s.expr.firstPending? = s.firstUnknown? := by
  induction h with
  | primitive name args =>
    rw [Scene.expr, Expr.firstPending?_call, List.findSome?_cons, Expr.firstPending?_here,
      List.map_map]
    simp only [Scene.firstUnknown?, walk, List.findSome?_cons, List.findSome?_nil,
      Datum.unknownName?, List.findSome?_eq_none_iff, List.forall_mem_map]
    exact fun _ _ => rfl
  | constant text => rfl
  | annotate note h ih => rw [Scene.expr, ih, firstUnknown?_annotate]
  | translate offset h ih =>
    rw [Scene.expr, Formula.translate, Expr.firstPending?_substitute _ rfl, ih,
      firstUnknown?_translate]
  | adjust kind hamount h ih =>
    rw [Scene.expr, Formula.firstPending?_adjust, ih, firstUnknown?_adjust]
  | combine op hl hr ihl ihr =>
    rw [Scene.expr, Formula.firstPending?_combine, ihl, ihr, firstUnknown?_combine]
  | blend op hl hr hk ihl ihr ihk =>
    rw [Scene.expr, Formula.firstPending?_blend, ihl, ihr, ihk, firstUnknown?_blend]
  | unknown name h ih =>
    rw [firstUnknown?_unknown]
    rfl

/-- A compiled scene that has distances has no open places. -/
theorem firstPending?_of_evaluate {α : Type} [Scalar α] {library : Library α} {c : Compiled}
    {points distances : Tensor α} {coordinate : String}
    (h : c.evaluate library points coordinate = .ok distances) : c.expr.firstPending? = none := by
  obtain ⟨value, -, h⟩ := bind_eq_ok_iff.mp h
  obtain ⟨v, hv, -⟩ := bind_eq_ok_iff.mp h
  have hname : (Expr.name coordinate).firstPending? = none := rfl
  rw [← Expr.firstPending?_substitute c.expr hname]
  exact Expr.firstPending?_of_evalWith hv

/-! ## The two policies -/

/-- The vocabulary of all expressions. -/
def Vocabulary.all : Vocabulary where
  literal _ := True
  function _ := True
  unknown _ := True
  amount _ := trivial
  zero := trivial
  quarter := trivial
  builtin _ _ := trivial

theorem Datum.uses_all (d : Datum) : d.Uses .all := by
  unfold Datum.Uses
  split <;> simp [Vocabulary.all]

/-- Nothing but unknown operators keeps the expression of a scene from having a text. -/
theorem Scene.WellFormed.isVoid_eq_false {s : Scene} (h : s.WellFormed) (coordinate : String) :
    ∀ n ∈ (s.expr.substitute (.lit coordinate)).walk, n.isVoid = false := by
  refine Expr.forall_walk_substitute (by simp [Expr.walk, Expr.isVoid]) fun n hn => ?_
  have huses := h.usesOnly_expr (fun d _ => d.uses_all) n hn
  cases n with
  | coord label => exact Or.inl ⟨label, rfl⟩
  | stray value => exact huses.elim
  | blank => exact huses.elim
  | _ => exact Or.inr rfl

/-- Both policies agree about the scene of plain data. If it has no unknown operator, both give a
compiled scene, with the same text at every coordinate. If it has one, then the one policy fails
with the first that a walk meets, the other defers it, and what it gives fails with the same one at
every coordinate and has distances at no points. -/
theorem compileScene_policies_agree {d : Datum} {s : Scene} (hplain : d.Plain)
    (hread : d.read [] = .ok s) :
    (s.firstUnknown? = none → ∃ c c',
      (compileScene d "raise").result.1 = .ok c ∧ (compileScene d "defer").result.1 = .ok c' ∧
      ∀ coordinate, ∃ text, c.apply coordinate = .ok text ∧ c'.apply coordinate = .ok text) ∧
    (∀ name, s.firstUnknown? = some name →
      (compileScene d "raise").result.1 = .error (.unknownOperator name) ∧
      ∃ c, (compileScene d "defer").result.1 = .ok c ∧
        (∀ coordinate, c.apply coordinate = .error (.unknownOperator name)) ∧
        (∀ points coordinate distances, c.evaluateData points coordinate ≠ .ok distances) ∧
        ∀ (α : Type) [Scalar α] (library : Library α) (points : Tensor α) (coordinate : String)
          (distances : Tensor α), c.evaluate library points coordinate ≠ .ok distances) := by
  have hwell := Scene.WellFormed.of_read hplain hread
  obtain ⟨c', hdefer, hexpr'⟩ :=
    compileScene_eq_ok .defer hplain hread (by simp)
  -- Substituting a text leaves the first open place where it was.
  have hrender : ∀ coordinate : String,
      Expr.FailsWith s.firstUnknown? (s.expr.substitute (.lit coordinate)).render := by
    intro coordinate
    have h := Expr.failsWith_render (hwell.isVoid_eq_false coordinate)
    rwa [Expr.firstPending?_substitute _ rfl, hwell.firstPending?_expr] at h
  refine ⟨fun hnone => ?_, fun name hname => ?_⟩
  · obtain ⟨c, hfail, hexpr⟩ := compileScene_eq_ok .fail hplain hread fun _ => hnone
    refine ⟨c, c', hfail, hdefer, fun coordinate => ?_⟩
    obtain ⟨text, htext⟩ : ∃ text, (s.expr.substitute (.lit coordinate)).render = .ok text := by
      simpa only [hnone, Expr.FailsWith] using hrender coordinate
    exact ⟨text, by rw [Compiled.apply, hexpr, htext], by rw [Compiled.apply, hexpr', htext]⟩
  · have hvalue : ∀ (α : Type) [Scalar α] (library : Library α) (points : Tensor α)
        (coordinate : String) (distances : Tensor α),
        c'.evaluate library points coordinate ≠ .ok distances := by
      intro α _ library points coordinate distances heval
      have hclosed := firstPending?_of_evaluate heval
      rw [hexpr', hwell.firstPending?_expr, hname] at hclosed
      cases hclosed
    refine ⟨compileScene_eq_error hplain hread hname, c', hdefer, fun coordinate => ?_,
      fun points coordinate distances heval => ?_, hvalue⟩
    · rw [Compiled.apply, hexpr']
      simpa only [hname, Expr.FailsWith] using hrender coordinate
    · obtain ⟨floats, -, heval⟩ := bind_eq_ok_iff.mp heval
      exact hvalue Float Library.standard floats coordinate distances heval

/-- Of two unknown operators in a blend, the one in the second operand comes before the one in the
radius. -/
theorem compileScene_policies_agree_blend :
    (compileScene (.ofCall "SMUTRACT" [.ofCall "circle" [.text "1.0"],
        .ofCall "TRANSLATE" [.text "c", .ofCall "WARP" [.text "2"]], .ofCall "TWIST" []])
      "raise").result.1 = .error (.unknownOperator "WARP") ∧
    ∃ c, (compileScene (.ofCall "SMUTRACT" [.ofCall "circle" [.text "1.0"],
        .ofCall "TRANSLATE" [.text "c", .ofCall "WARP" [.text "2"]], .ofCall "TWIST" []])
      "defer").result.1 = .ok c ∧ c.apply "p" = .error (.unknownOperator "WARP") := by
  have hplain : (Datum.ofCall "SMUTRACT" [.ofCall "circle" [.text "1.0"],
      .ofCall "TRANSLATE" [.text "c", .ofCall "WARP" [.text "2"]], .ofCall "TWIST" []]).Plain := by
    have hcircle : (Datum.ofCall "circle" [.text "1.0"]).Plain :=
      .ofCall (by simp [Datum.Plain.text])
    have hwarp : (Datum.ofCall "WARP" [.text "2"]).Plain := .ofCall (by simp [Datum.Plain.text])
    have hmoved : (Datum.ofCall "TRANSLATE" [.text "c", .ofCall "WARP" [.text "2"]]).Plain :=
      .ofCall (by simp [Datum.Plain.text, hwarp])
    have htwist : (Datum.ofCall "TWIST" []).Plain := .ofCall (by simp)
    exact .ofCall (by simp [hcircle, hmoved, htwist])
  have hread : (Datum.ofCall "SMUTRACT" [.ofCall "circle" [.text "1.0"],
      .ofCall "TRANSLATE" [.text "c", .ofCall "WARP" [.text "2"]], .ofCall "TWIST" []]).read [] =
      .ok (.blend .subtract (.primitive "circle" [.text "1.0"])
        (.translate (.text "c") (.unknown "WARP" [.scene (.constant "2")]))
        (.unknown "TWIST" [])) := by
    simp +decide [Datum.read_ofCall, Datum.readOperand_ofCall, Datum.readTransform,
      Datum.readCombination, Datum.readOperand, Datum.readOperands, Datum.literals, Datum.literal,
      TransformKind.ofKeyword?, TransformKind.all, TransformKind.keyword, Adjustment.keyword,
      CombinationKind.ofKeyword?, CombinationKind.all, CombinationKind.keyword]
  obtain ⟨hraise, c, hdefer, happly, -⟩ :=
    (compileScene_policies_agree hplain hread).2 "WARP" (by decide)
  exact ⟨hraise, c, hdefer, happly "p"⟩

end SignedDistance
