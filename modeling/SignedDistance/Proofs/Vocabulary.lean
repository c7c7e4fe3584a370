import Mathlib
import SignedDistance.Proofs.Compilation
import SignedDistance.Proofs.Tokens
import SignedDistance.Proofs.Trees

/-!
# What expressions of scenes are made of

A vocabulary says which texts, functions and unknown operators may occur in an expression. The
formulas of the operators bring a few of their own, which every vocabulary includes, so the
expression of a scene keeps to every vocabulary that the scene keeps to
(`Scene.WellFormed.usesOnly_expr`). Components are only ever selected from the coordinate or from
results of operators.
-/

namespace SignedDistance

/-- What may occur in an expression. It includes everything that the formulas of the operators bring
along. -/
structure Vocabulary where
  /-- The texts that may be literals. -/
  literal : String → Prop
  /-- The functions that may be called. -/
  function : String → Prop
  /-- The unknown operators that may be left open. -/
  unknown : String → Prop
  amount {written : Datum} {text : String} (h : written.scalarText = .ok text) : literal text
  zero : literal "0.0"
  quarter : literal "0.25"
  builtin : ∀ fn ∈ ["abs", "cos", "mat2", "max", "min", "sin"], function fn

namespace Expr

/-- Whether a node may have components selected from it: the formulas do so at the coordinate only,
for which transforms substitute results of operators. -/
def isSelectable : Expr → Bool
  | .coord _ => true
  | .binary .. => true
  | _ => false

/-- A node of an expression of a scene. -/
def Uses (v : Vocabulary) : Expr → Prop
  | .coord _ => True
  | .lit text => v.literal text
  | .pending op => v.unknown op
  | .call fn _ => v.function fn
  | .binary op _ _ => ∀ symbol, op ≠ .other symbol
  | .neg _ => True
  | .swizzle operand fields => operand.isSelectable = true ∧ isIdentifier fields = true
  | _ => False

/-- All nodes of an expression keep to a vocabulary. -/
def UsesOnly (v : Vocabulary) (e : Expr) : Prop :=
  ∀ n ∈ e.walk, n.Uses v

namespace UsesOnly

variable {v : Vocabulary} {a b : Expr}

attribute [local simp] walk Uses

theorem here : here.UsesOnly v := by
  simp [UsesOnly, Expr.here]

theorem lit {text : String} (h : v.literal text) : (lit text).UsesOnly v := by
  simpa [UsesOnly] using h

theorem call {fn : String} {args : List Expr} (hfn : v.function fn)
    (h : ∀ a ∈ args, a.UsesOnly v) : (call fn args).UsesOnly v :=
  forall_walk_call.mpr ⟨hfn, h⟩

theorem add (ha : a.UsesOnly v) (hb : b.UsesOnly v) : (a + b).UsesOnly v :=
  forall_walk_binary.mpr ⟨by simp, ha, hb⟩

theorem sub (ha : a.UsesOnly v) (hb : b.UsesOnly v) : (a - b).UsesOnly v :=
  forall_walk_binary.mpr ⟨by simp, ha, hb⟩

theorem mul (ha : a.UsesOnly v) (hb : b.UsesOnly v) : (a * b).UsesOnly v :=
  forall_walk_binary.mpr ⟨by simp, ha, hb⟩

theorem div (ha : a.UsesOnly v) (hb : b.UsesOnly v) : (a / b).UsesOnly v :=
  forall_walk_binary.mpr ⟨by simp, ha, hb⟩

theorem neg (ha : a.UsesOnly v) : (-a).UsesOnly v :=
  forall_walk_neg.mpr ⟨trivial, ha⟩

theorem app {fn : String} (hfn : fn ∈ ["abs", "cos", "mat2", "max", "min", "sin"])
    (ha : a.UsesOnly v) : (Formula.app fn a).UsesOnly v :=
  call (v.builtin fn hfn) (by simpa using ha)

theorem minimum (ha : a.UsesOnly v) (hb : b.UsesOnly v) : (Formula.minimum a b).UsesOnly v :=
  call (v.builtin _ (by simp)) (by simpa using ⟨ha, hb⟩)

theorem maximum (ha : a.UsesOnly v) (hb : b.UsesOnly v) : (Formula.maximum a b).UsesOnly v :=
  call (v.builtin _ (by simp)) (by simpa using ⟨ha, hb⟩)

theorem component {field : String} (h : isIdentifier field = true) :
    (Formula.component field).UsesOnly v :=
  forall_walk_swizzle.mpr ⟨⟨rfl, h⟩, here⟩

theorem inverseRotation (ha : a.UsesOnly v) : (Formula.inverseRotation a).UsesOnly v := by
  have hcos : (Formula.app "cos" a).UsesOnly v := app (by simp) ha
  have hsin : (Formula.app "sin" a).UsesOnly v := app (by simp) ha
  exact call (v.builtin _ (by simp)) (by simpa using ⟨hcos, hsin.neg, hsin, hcos⟩)

/-- Substituting the result of an operator keeps to the vocabulary. -/
theorem substitute {op : Operator} {l r : Expr} (ha : a.UsesOnly v)
    (hpoint : (binary op l r).UsesOnly v) : (a.substitute (binary op l r)).UsesOnly v := by
  refine forall_walk_substitute hpoint fun n hn => ?_
  have huses := ha n hn
  cases n with
  | coord label => exact Or.inl ⟨label, rfl⟩
  | swizzle operand fields =>
    refine Or.inr ⟨?_, huses.2⟩
    have hselectable := huses.1
    cases operand with
    | coord label => rfl
    | binary op a b => rfl
    | _ => cases hselectable
  | _ => exact Or.inr huses

end UsesOnly

end Expr

/-! ## Formulas -/

namespace Formula

variable {v : Vocabulary} {a b k : Expr}

theorem usesOnly_adjust {kind : Adjustment} {amount child : Expr} (ha : amount.UsesOnly v)
    (hc : child.UsesOnly v) : (adjust kind amount child).UsesOnly v := by
  have hx : (component "x").UsesOnly v := .component (by decide)
  have hy : (component "y").UsesOnly v := .component (by decide)
  cases kind with
  | rotate => exact hc.substitute (ha.inverseRotation.mul .here)
  | scale => exact ha.mul (hc.substitute (Expr.UsesOnly.here.div ha))
  | hollow => exact (hc.app (by simp)).sub ha
  | melt => exact hc.sub ha
  | bend => exact hc.substitute ((ha.mul hx).inverseRotation.mul .here)
  | displace => exact hc.add (((ha.mul hx).app (by simp)).mul ((ha.mul hy).app (by simp)))

theorem usesOnly_combine {op : Combination} (ha : a.UsesOnly v) (hb : b.UsesOnly v) :
    (combine op a b).UsesOnly v := by
  cases op with
  | unite => exact ha.minimum hb
  | subtract => exact ha.neg.maximum hb
  | intersect => exact ha.maximum hb

theorem usesOnly_blendCorrection {gap : Expr} (hk : k.UsesOnly v) (hgap : gap.UsesOnly v) :
    (blendCorrection k gap).UsesOnly v := by
  have hrest : (maximum (k - app "abs" gap) (.lit "0.0")).UsesOnly v :=
    (hk.sub (hgap.app (by simp))).maximum (.lit v.zero)
  exact ((hrest.mul hrest).mul (.lit v.quarter)).div hk

theorem usesOnly_blend {op : Combination} (ha : a.UsesOnly v) (hb : b.UsesOnly v)
    (hk : k.UsesOnly v) : (blend op a b k).UsesOnly v := by
  cases op with
  | unite => exact (ha.minimum hb).sub (usesOnly_blendCorrection hk (ha.sub hb))
  | subtract => exact (ha.minimum hb.neg).neg.sub (usesOnly_blendCorrection hk (ha.add hb))
  | intersect =>
    exact (ha.neg.minimum hb.neg).neg.sub (usesOnly_blendCorrection hk (ha.neg.add hb))

end Formula

/-! ## Scenes -/

/-- A node of a scene that keeps to a vocabulary. -/
def Datum.Uses (v : Vocabulary) : Datum → Prop
  | .scene (.primitive name args) => v.function name ∧ ∀ s, .text s ∈ args → v.literal s
  | .scene (.constant s) => v.literal s
  | .scene (.translate (.text offset) _) => v.literal offset
  | .scene (.unknown name _) => v.unknown name
  | _ => True

/-- The expression of a well-formed scene keeps to the vocabulary of the scene. -/
theorem Scene.WellFormed.usesOnly_expr {v : Vocabulary} {s : Scene} (h : s.WellFormed)
    (huses : ∀ d ∈ s.walk, d.Uses v) : s.expr.UsesOnly v := by
  induction h with
  | primitive name args =>
    obtain ⟨hname, hargs⟩ := huses (.scene (.primitive name (args.map .text))) (by simp [walk])
    refine .call hname (List.forall_mem_cons.mpr ⟨.here, ?_⟩)
    simp only [List.map_map, List.forall_mem_map]
    exact fun text htext => .lit (hargs text (List.mem_map_of_mem htext))
  | constant text => exact .lit (huses (.scene (.constant text)) (by simp [walk]))
  | annotate note h ih =>
    rw [walk, List.forall_mem_cons] at huses
    exact ih huses.2
  | translate offset h ih =>
    rw [walk, List.forall_mem_cons] at huses
    exact (ih huses.2).substitute (Expr.UsesOnly.here.sub (.lit huses.1))
  | adjust kind hamount h ih =>
    rw [walk, List.forall_mem_cons] at huses
    exact Formula.usesOnly_adjust (.lit (v.amount hamount)) (ih huses.2)
  | combine op hl hr ihl ihr =>
    rw [walk, List.forall_mem_cons, List.forall_mem_append] at huses
    exact Formula.usesOnly_combine (ihl huses.2.1) (ihr huses.2.2)
  | blend op hl hr hk ihl ihr ihk =>
    rw [walk, List.forall_mem_cons, List.forall_mem_append, List.forall_mem_append] at huses
    exact Formula.usesOnly_blend (ihl huses.2.1.1) (ihr huses.2.1.2) (ihk huses.2.2)
  | unknown name h ih =>
    rw [walk, List.forall_mem_cons] at huses
    exact List.forall_mem_singleton.mpr huses.1

end SignedDistance
