import Mathlib
import SignedDistance.Expression.Render

/-!
# Trees of expressions

Induction over expressions, whose calls have lists of arguments, and how walking, substituting and
rendering go through them. Properties of expressions are mostly stated for all nodes that a walk
meets; `walk_substitute` says which nodes these are after a substitution.
-/

namespace SignedDistance

namespace Expr

/-- Induction over expressions. -/
@[elab_as_elim, induction_eliminator]
theorem inductionOn {motive : Expr → Prop} (coord : ∀ label, motive (.coord label))
    (lit : ∀ text, motive (.lit text)) (stray : ∀ value, motive (.stray value))
    (name : ∀ ident, motive (.name ident)) (number : ∀ text, motive (.number text))
    (pending : ∀ op, motive (.pending op)) (blank : motive .blank)
    (call : ∀ fn args, (∀ arg ∈ args, motive arg) → motive (.call fn args))
    (binary : ∀ op lhs rhs, motive lhs → motive rhs → motive (.binary op lhs rhs))
    (neg : ∀ operand, motive operand → motive (.neg operand))
    (swizzle : ∀ operand fields, motive operand → motive (.swizzle operand fields))
    (e : Expr) : motive e :=
  @Expr.rec motive (fun es => ∀ e ∈ es, motive e) coord lit stray name number pending blank call
    binary neg swizzle (by simp) (fun e es he hes => by simpa using ⟨he, hes⟩) e

/-! ## Operators as nodes -/

@[simp] theorem add_eq (a b : Expr) : a + b = binary .add a b := rfl

@[simp] theorem sub_eq (a b : Expr) : a - b = binary .sub a b := rfl

@[simp] theorem mul_eq (a b : Expr) : a * b = binary .mul a b := rfl

@[simp] theorem div_eq (a b : Expr) : a / b = binary .div a b := rfl

@[simp] theorem neg_eq (a : Expr) : -a = neg a := rfl

/-! ## Lists of arguments -/

theorem substituteAll_eq_map (es : List Expr) (point : Expr) :
    substituteAll es point = es.map (·.substitute point) := by
  induction es with
  | nil => rfl
  | cons e es ih => rw [substituteAll, ih, List.map_cons]

theorem walkAll_eq_flatMap (es : List Expr) : walkAll es = es.flatMap walk := by
  induction es with
  | nil => rfl
  | cons e es ih => rw [walkAll, ih, List.flatMap_cons]

/-! ## Nodes -/

attribute [local simp] walk

theorem mem_walk_self (e : Expr) : e ∈ e.walk := by
  cases e <;> simp

theorem walk_subset {e n : Expr} (h : n ∈ e.walk) : n.walk ⊆ e.walk := by
  induction e with
  | call fn args ih =>
    simp only [walk, walkAll_eq_flatMap, List.mem_cons, List.mem_flatMap] at h
    rcases h with rfl | ⟨a, ha, hn⟩
    · exact List.Subset.refl _
    · rw [walk, walkAll_eq_flatMap]
      exact fun m hm => List.mem_cons_of_mem _ (List.mem_flatMap.mpr ⟨a, ha, ih a ha hn hm⟩)
  | binary op lhs rhs ihl ihr =>
    simp only [walk, List.mem_cons, List.mem_append] at h
    rcases h with rfl | hn | hn
    · exact List.Subset.refl _
    · exact List.subset_cons_of_subset _ (List.subset_append_of_subset_left _ (ihl hn))
    · exact List.subset_cons_of_subset _ (List.subset_append_of_subset_right _ (ihr hn))
  | neg operand ih =>
    rcases List.mem_cons.mp h with rfl | hn
    · exact List.Subset.refl _
    · exact List.subset_cons_of_subset _ (ih hn)
  | swizzle operand fields ih =>
    rcases List.mem_cons.mp h with rfl | hn
    · exact List.Subset.refl _
    · exact List.subset_cons_of_subset _ (ih hn)
  | _ =>
    rw [List.mem_singleton.mp h]
    exact List.Subset.refl _

section Nodes

variable {p : Expr → Prop}

theorem forall_walk_call {fn : String} {args : List Expr} :
    (∀ n ∈ (call fn args).walk, p n) ↔ p (call fn args) ∧ ∀ a ∈ args, ∀ n ∈ a.walk, p n := by
  simp only [walk, walkAll_eq_flatMap, List.mem_cons, List.mem_flatMap]
  constructor
  · intro h
    exact ⟨h _ (Or.inl rfl), fun a ha n hn => h n (Or.inr ⟨a, ha, hn⟩)⟩
  · rintro ⟨hself, hargs⟩ n (rfl | ⟨a, ha, hn⟩)
    · exact hself
    · exact hargs a ha n hn

theorem forall_walk_binary {op : Operator} {lhs rhs : Expr} :
    (∀ n ∈ (binary op lhs rhs).walk, p n) ↔
      p (binary op lhs rhs) ∧ (∀ n ∈ lhs.walk, p n) ∧ ∀ n ∈ rhs.walk, p n := by
  simp only [walk, List.forall_mem_cons, List.forall_mem_append]

theorem forall_walk_neg {operand : Expr} :
    (∀ n ∈ (neg operand).walk, p n) ↔ p (neg operand) ∧ ∀ n ∈ operand.walk, p n := by
  simp only [walk, List.forall_mem_cons]

theorem forall_walk_swizzle {operand : Expr} {fields : String} :
    (∀ n ∈ (swizzle operand fields).walk, p n) ↔
      p (swizzle operand fields) ∧ ∀ n ∈ operand.walk, p n := by
  simp only [walk, List.forall_mem_cons]

end Nodes

/-- A node after a substitution is a node of what was substituted, or the substituted form of a node
that was there before. -/
theorem forall_walk_substitute {p : Expr → Prop} {e point : Expr}
    (hpoint : ∀ n ∈ point.walk, p n)
    (h : ∀ n ∈ e.walk, (∃ label, n = coord label) ∨ p (n.substitute point)) :
    ∀ n ∈ (e.substitute point).walk, p n := by
  have hnode : ∀ {n : Expr}, ((∃ label, n = coord label) ∨ p (n.substitute point)) →
      (∀ label, n ≠ coord label) → p (n.substitute point) := by
    rintro n (⟨label, rfl⟩ | hn) hne
    · exact absurd rfl (hne label)
    · exact hn
  induction e with
  | coord label => exact hpoint
  | call fn args ih =>
    obtain ⟨hself, hargs⟩ := forall_walk_call.mp h
    rw [substitute, substituteAll_eq_map, forall_walk_call]
    refine ⟨?_, ?_⟩
    · simpa [substitute, substituteAll_eq_map] using hnode hself (by simp)
    · intro a ha
      obtain ⟨b, hb, rfl⟩ := List.mem_map.mp ha
      exact ih b hb (hargs b hb)
  | binary op lhs rhs ihl ihr =>
    obtain ⟨hself, hl, hr⟩ := forall_walk_binary.mp h
    exact forall_walk_binary.mpr ⟨hnode hself (by simp), ihl hl, ihr hr⟩
  | neg operand ih =>
    obtain ⟨hself, ho⟩ := forall_walk_neg.mp h
    exact forall_walk_neg.mpr ⟨hnode hself (by simp), ih ho⟩
  | swizzle operand fields ih =>
    obtain ⟨hself, ho⟩ := forall_walk_swizzle.mp h
    exact forall_walk_swizzle.mpr ⟨hnode hself (by simp), ih ho⟩
  | _ =>
    have hself := h _ (mem_walk_self _)
    simpa [substitute, walk] using hnode hself (by simp)

end Expr

end SignedDistance
