import Mathlib
import SignedDistance.Evaluation.Basic
import SignedDistance.Proofs.Grammar
import SignedDistance.Proofs.Trees

/-!
# Evaluation and substitution

To evaluate an expression with a point substituted for its coordinates is to evaluate it at the
value of the point (`evalAt_substitute`), errors included. So substitutions compose like functions,
with the coordinate as the identity (`substitute_laws`). What a text is parsed as has neither
coordinates nor literals, so its value does not depend on theirs (`evalText_of_parse`).
-/

namespace SignedDistance

variable {α : Type} [Scalar α] {library : Library α} {env : Environment α}

namespace Expr

theorem evalAllWith_eq_mapM {here : Evaluated (Value α)} {literal : String → Evaluated (Value α)}
    (es : List Expr) :
    evalAllWith library env here literal es = es.mapM (evalWith library env here literal) := by
  induction es with
  | nil => rfl
  | cons e es ih => rw [evalAllWith, ih, List.mapM_cons]

theorem evalAllWith_congr {here here' : Evaluated (Value α)}
    {literal literal' : String → Evaluated (Value α)} {es : List Expr} {f : Expr → Expr}
    (h : ∀ e ∈ es,
      (f e).evalWith library env here literal = e.evalWith library env here' literal') :
    evalAllWith library env here literal (es.map f) =
      evalAllWith library env here' literal' es := by
  induction es with
  | nil => rfl
  | cons e es ih =>
    rw [List.map_cons, evalAllWith, evalAllWith, h e (by simp),
      ih fun e he => h e (by simp [he])]

/-- Substituting a point and moving to its value are the same. -/
theorem evalAt_substitute (e point : Expr) (here : Evaluated (Value α)) :
    (e.substitute point).evalAt library env here =
      e.evalAt library env (point.evalAt library env here) := by
  unfold evalAt
  induction e with
  | call fn args ih =>
    rw [substitute, substituteAll_eq_map, evalWith, evalWith, evalAllWith_congr ih]
  | binary op lhs rhs ihl ihr => rw [substitute, evalWith, evalWith, ihl, ihr]
  | neg operand ih => rw [substitute, evalWith, evalWith, ih]
  | swizzle operand fields ih => rw [substitute, evalWith, evalWith, ih]
  | _ => rfl

/-! ## Composing substitutions -/

theorem substitute_substitute (e point origin : Expr) :
    (e.substitute point).substitute origin = e.substitute (point.substitute origin) := by
  induction e with
  | call fn args ih =>
    have hargs : (args.map (·.substitute point)).map (·.substitute origin) =
        args.map (·.substitute (point.substitute origin)) := by
      rw [List.map_map]
      exact List.map_congr_left ih
    simp only [substitute, substituteAll_eq_map, hargs]
  | binary op lhs rhs ihl ihr => simp only [substitute, ihl, ihr]
  | neg operand ih => simp only [substitute, ih]
  | swizzle operand fields ih => simp only [substitute, ih]
  | _ => rfl

/-- The usual coordinate changes nothing if it is the only one. -/
theorem substitute_here_iff {e : Expr} :
    e.substitute here = e ↔ ∀ n ∈ e.walk, ∀ label, n = coord label → n = here := by
  induction e with
  | coord label =>
    have hwalk : (coord label).walk = [coord label] := rfl
    rw [substitute, hwalk, List.forall_mem_singleton]
    constructor
    · intro h _ _
      exact h.symm
    · intro h
      exact (h label rfl).symm
  | call fn args ih =>
    have hargs : args.map (·.substitute here) = args ↔ ∀ a ∈ args, a.substitute here = a := by
      rw [← List.map_inj_left, List.map_id']
    rw [substitute, substituteAll_eq_map, forall_walk_call, call.injEq, hargs]
    constructor
    · rintro ⟨-, h⟩
      exact ⟨by simp, fun a ha => (ih a ha).mp (h a ha)⟩
    · rintro ⟨-, h⟩
      exact ⟨rfl, fun a ha => (ih a ha).mpr (h a ha)⟩
  | binary op lhs rhs ihl ihr =>
    rw [substitute, forall_walk_binary, binary.injEq, ihl, ihr]
    constructor
    · rintro ⟨-, hl, hr⟩
      exact ⟨by simp, hl, hr⟩
    · rintro ⟨-, hl, hr⟩
      exact ⟨rfl, hl, hr⟩
  | neg operand ih =>
    rw [substitute, forall_walk_neg, neg.injEq, ih]
    exact (and_iff_right (by simp)).symm
  | swizzle operand fields ih =>
    rw [substitute, forall_walk_swizzle, swizzle.injEq, ih]
    constructor
    · rintro ⟨h, -⟩
      exact ⟨by simp, h⟩
    · rintro ⟨-, h⟩
      exact ⟨h, rfl⟩
  | _ => simp [substitute, walk]

/-- Substitutions one after the other are the substitution of the substituted point; substituting
the usual coordinate changes nothing exactly if an expression has no other; and an expression with a
point substituted has the value, or fails with the error, that it has where every coordinate answers
what the point evaluates to. -/
theorem substitute_laws (e point origin : Expr) :
    (e.substitute point).substitute origin = e.substitute (point.substitute origin) ∧
      (e.substitute here = e ↔ ∀ label, coord label ∈ e.walk → label = "x") ∧
      ∀ {α : Type} [Scalar α] (library : Library α) (env : Environment α),
        (e.substitute point).eval library env =
          e.evalAt library env (point.eval library env) := by
  refine ⟨substitute_substitute e point origin, ?_, fun library env => ?_⟩
  · rw [substitute_here_iff]
    constructor
    · intro h label hlabel
      exact coord.inj (h _ hlabel label rfl)
    · rintro h n hn label rfl
      rw [h label hn]
      rfl
  · exact evalAt_substitute e point _

/-! ## Parsed expressions -/

/-- Whether a node is a coordinate or a literal, whose values are given from outside. -/
def isOpen : Expr → Bool
  | .coord _ => true
  | .lit _ => true
  | _ => false

/-- The value of an expression without coordinates and literals does not depend on theirs. -/
theorem evalWith_congr {e : Expr} (h : ∀ n ∈ e.walk, n.isOpen = false)
    (here here' : Evaluated (Value α)) (literal literal' : String → Evaluated (Value α)) :
    e.evalWith library env here literal = e.evalWith library env here' literal' := by
  induction e with
  | coord label => cases h _ (mem_walk_self _)
  | lit text => cases h _ (mem_walk_self _)
  | call fn args ih =>
    obtain ⟨-, hargs⟩ := forall_walk_call.mp h
    have hall := @evalAllWith_congr _ _ library env here here' literal literal' args id
      fun a ha => ih a ha (hargs a ha)
    rw [List.map_id] at hall
    rw [evalWith, evalWith, hall]
  | binary op lhs rhs ihl ihr =>
    obtain ⟨-, hl, hr⟩ := forall_walk_binary.mp h
    rw [evalWith, evalWith, ihl hl, ihr hr]
  | neg operand ih => rw [evalWith, evalWith, ih (forall_walk_neg.mp h).2]
  | swizzle operand fields ih => rw [evalWith, evalWith, ih (forall_walk_swizzle.mp h).2]
  | _ => rfl

end Expr

/-- Phrases stand for expressions without coordinates and literals. -/
theorem Derives.isOpen_eq_false {p : Phrase} {ts : List Token} {e : Expr} (h : Derives p ts e) :
    ∀ n ∈ e.walk, n.isOpen = false := by
  induction h with
  | additive ht hl hr ihl ihr => exact Expr.forall_walk_binary.mpr ⟨rfl, ihl, ihr⟩
  | multiplicative ht hl hr ihl ihr => exact Expr.forall_walk_binary.mpr ⟨rfl, ihl, ihr⟩
  | minus h ih => exact Expr.forall_walk_neg.mpr ⟨rfl, ih⟩
  | swizzle h ih => exact Expr.forall_walk_swizzle.mpr ⟨rfl, ih⟩
  | number text => simp [Expr.walk, Expr.isOpen]
  | name ident => simp [Expr.walk, Expr.isOpen]
  | call h ih =>
    refine Expr.forall_walk_call.mpr ⟨rfl, fun a ha => ?_⟩
    obtain ⟨arg, harg, rfl⟩ := List.mem_map.mp ha
    exact ih arg harg
  | _ => assumption

/-- The value of a text is that of the expression it is parsed as. -/
theorem evalText_of_parse {text : String} {e : Expr} (h : parse text = .ok e)
    (here : Evaluated (Value α)) :
    Expr.evalText library env text = e.evalAt library env here := by
  obtain ⟨ts, -, hderives⟩ := parse_eq_ok_iff.mp h
  rw [Expr.evalText, h]
  exact Expr.evalWith_congr hderives.isOpen_eq_false _ _ _ _

end SignedDistance
