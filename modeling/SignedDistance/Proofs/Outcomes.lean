import Mathlib
import SignedDistance.Proofs.Substitution

/-!
# Outcomes of evaluation

What can be said of the outcome of an evaluation, be it a value or an error, follows from what its
single steps do (`Expr.settles_evalWith`). The step of a node is what happens there once its
operands have values.
-/

namespace SignedDistance

/-- A computation has a good result, or it fails in an allowed way. -/
inductive Settles {ε β : Type} (Good : β → Prop) (Allowed : ε → Prop) : Except ε β → Prop where
  | ok {b : β} (h : Good b) : Settles Good Allowed (.ok b)
  | error {e : ε} (h : Allowed e) : Settles Good Allowed (.error e)

namespace Settles

variable {ε β γ : Type} {Good : β → Prop} {Next : γ → Prop} {Allowed : ε → Prop}

theorem good {outcome : Except ε β} (h : Settles Good Allowed outcome) {b : β}
    (hb : outcome = .ok b) : Good b := by
  subst hb
  cases h with
  | ok h => exact h

theorem of_ok {outcome : Except ε β} (h : ∀ b, outcome = .ok b → Good b) :
    Settles Good (fun _ => True) outcome := by
  cases outcome with
  | error e => exact .error trivial
  | ok b => exact .ok (h b rfl)

theorem mono {Good' : β → Prop} {outcome : Except ε β} (h : Settles Good Allowed outcome)
    (hgood : ∀ b, Good b → Good' b) : Settles Good' Allowed outcome := by
  cases h with
  | error h => exact .error h
  | ok h => exact .ok (hgood _ h)

theorem bind {outcome : Except ε β} {next : β → Except ε γ} (h : Settles Good Allowed outcome)
    (hnext : ∀ b, outcome = .ok b → Good b → Settles Next Allowed (next b)) :
    Settles Next Allowed (outcome >>= next) := by
  cases h with
  | error h => exact .error h
  | ok h => exact hnext _ rfl h

theorem mapM {xs : List γ} {f : γ → Except ε β} (h : ∀ x ∈ xs, Settles Good Allowed (f x)) :
    Settles (fun ys => ∀ y ∈ ys, Good y) Allowed (xs.mapM f) := by
  induction xs with
  | nil => exact .ok (by simp)
  | cons x xs ih =>
    rw [List.mapM_cons]
    refine (h x List.mem_cons_self).bind fun y _ hy => ?_
    refine (ih fun z hz => h z (List.mem_cons_of_mem x hz)).bind fun ys _ hys => ?_
    exact .ok (List.forall_mem_cons.mpr ⟨hy, hys⟩)

end Settles

namespace Expr

section Evaluation

variable {α : Type} [Scalar α] (library : Library α) (env : Environment α)
  (here : Evaluated (Value α)) (literal : String → Evaluated (Value α)) (Good : Value α → Prop)
  (Allowed : EvalError → Prop)

/-- What the step of a node has to do so that it settles: given good values of its operands, it has
a good value or fails in an allowed way. -/
def StepSettles : Expr → Prop
  | .coord _ => Settles Good Allowed here
  | .lit text => Settles Good Allowed (literal text)
  | .stray _ => Allowed .notText
  | .name ident => Settles Good Allowed (env.find ident)
  | .number text => Settles Good Allowed (numberValue text)
  | .pending op => Allowed (.unknownOperator op)
  | .blank => Allowed .notEvaluable
  | .call fn args =>
    ∀ vs, args.mapM (evalWith library env here literal) = .ok vs → (∀ v ∈ vs, Good v) →
      Settles Good Allowed (callFunction library fn vs)
  | .binary op _ _ => ∀ v w, Good v → Good w → Settles Good Allowed (Value.binary op v w)
  | .neg _ => ∀ v, Good v → Good v.negate
  | .swizzle _ fields => ∀ v, Good v → Settles Good Allowed (v.select fields)

variable {library env here literal Good Allowed}

/-- An evaluation settles if the steps of all its nodes do. -/
theorem settles_evalWith {e : Expr}
    (h : ∀ n ∈ e.walk, n.StepSettles library env here literal Good Allowed) :
    Settles Good Allowed (e.evalWith library env here literal) := by
  induction e with
  | call fn args ih =>
    obtain ⟨hself, hargs⟩ := forall_walk_call.mp h
    rw [evalWith, evalAllWith_eq_mapM]
    have hvalues := Settles.mapM fun a ha => ih a ha (hargs a ha)
    exact hvalues.bind fun vs hvs hgood => hself vs hvs hgood
  | binary op lhs rhs ihl ihr =>
    obtain ⟨hself, hl, hr⟩ := forall_walk_binary.mp h
    rw [evalWith]
    refine (ihl hl).bind fun v _ hv => ?_
    exact (ihr hr).bind fun w _ hw => hself v w hv hw
  | neg operand ih =>
    obtain ⟨hself, hoperand⟩ := forall_walk_neg.mp h
    rw [evalWith]
    exact (ih hoperand).bind fun v _ hv => .ok (hself v hv)
  | swizzle operand fields ih =>
    obtain ⟨hself, hoperand⟩ := forall_walk_swizzle.mp h
    rw [evalWith]
    exact (ih hoperand).bind fun v _ hv => hself v hv
  | coord label => exact h _ (mem_walk_self _)
  | lit text => exact h _ (mem_walk_self _)
  | name ident => exact h _ (mem_walk_self _)
  | number text => exact h _ (mem_walk_self _)
  | stray value => exact .error (h _ (mem_walk_self _))
  | pending op => exact .error (h _ (mem_walk_self _))
  | blank => exact .error (h _ (mem_walk_self _))

end Evaluation

end Expr

end SignedDistance
