import Mathlib
import SignedDistance.CommandLine.Run
import SignedDistance.Proofs.Outcomes
import SignedDistance.Proofs.ParsedNodes
import SignedDistance.Proofs.PointwiseCalls
import SignedDistance.Proofs.TextPath

/-!
# Misfits

Primitives do not look at the kinds of their arguments. If one is called with the right number of
arguments but with other kinds than those of its parameters, then it may still have a result, or
else shapes do not fit together, which is not reported. The length of a matrix is a misfit as well:
its result has the axes of a vector. Everything else that can go wrong with a call or an operator is
reported (`arises_callFunction`, `Value.arises_binary`, `Value.arises_select`), so that shapes that
do not fit always go back to a misfit (`Expr.arises_eval`).
-/

namespace SignedDistance

open CommandLine

/-! ## Expected errors -/

/-- The errors to be expected of an evaluation, given whether there was a misfit and which texts of
numbers are bad: those that are reported, shapes that do not fit after a misfit, and bad numbers. -/
def EvalError.IsExpected (misfit : Prop) (bad : String → Prop) : EvalError → Prop
  | .shape _ => misfit
  | .badNumber text => bad text
  | e => isReportedEval e = true

section Values

variable {α : Type} {bs : Axes} {misfit : Prop} {bad : String → Prop}

variable [Scalar α]

namespace Value

variable {v w : Value α} {op : Operator}

end Value

end Values

/-! ## Calls -/

/-- A call with the right number of arguments, but not of the kinds that the function is for. -/
def MisfitCall (fn : String) (kinds : List Kind) : Prop :=
  (fn = "length" ∧ kinds = [.mat2]) ∨
    (fn ∈ Primitive.names ∧
      ∃ params ∈ Primitive.signature? fn, kinds.length = params.length ∧ kinds ≠ params)

instance (fn : String) (kinds : List Kind) : Decidable (MisfitCall fn kinds) :=
  inferInstanceAs (Decidable (_ ∨ _))

namespace Primitive

section Counts

variable {α : Type}

end Counts

variable {α : Type} [Scalar α] {fn : String} {m : CallMeaning α}

end Primitive

section Calls

variable {α : Type} [Scalar α] {bs : Axes} {misfit : Prop} {bad : String → Prop} {fn : String}
  {args : List (Value α)}

end Calls

/-! ## Expressions -/

namespace Expr

variable {α : Type} [Scalar α]

/-- A misfit is met in evaluating an expression: a call in it, or in what one of its literals is
parsed as, has arguments whose values are not of the kinds that the function is for. -/
def HasMisfit (env : Environment α) (e : Expr) : Prop :=
  ∃ fn args vs, .call fn args ∈ e.resolved.walk ∧
    args.mapM (eval Library.standard env) = .ok vs ∧ MisfitCall fn (vs.map (·.kind))

end Expr

end SignedDistance
