import Mathlib
import SignedDistance.Proofs.Documents
import SignedDistance.Proofs.Misfits
import SignedDistance.Proofs.Sampling

/-!
# What is reported

An evaluation that fails does so with an error that is reported, except that primitives do not look
at the kinds of their arguments. This is said for expressions, for texts and for scenes that are
sampled on a grid.
-/

namespace SignedDistance

open Tensor CommandLine

/-! ## Bindings -/

theorem EvalError.IsExpected.mono {misfit misfit' : Prop} {bad bad' : String → Prop}
    {e : EvalError} (h : e.IsExpected misfit bad) (hmisfit : misfit → misfit')
    (hbad : ∀ text, bad text → bad' text) : e.IsExpected misfit' bad' := by
  cases e with
  | shape fault => exact hmisfit h
  | badNumber text => exact hbad text h
  | _ => exact h

section Samples

variable {α : Type} [Scalar α]

/-- A compiled scene is no distance at the centres of a grid: a misfit is met there, or its value is
not a number. -/
def Compiled.IsMisfit (c : Compiled) (g : Grid α) : Prop :=
  let e := c.expr.substitute (.name sampleCoordinate)
  let env : Environment α := [(sampleCoordinate, ⟨.vec 2, g.centres⟩)]
  e.HasMisfit env ∨ ∃ v, e.eval Library.standard env = .ok v ∧ v.kind ≠ .float

end Samples

end SignedDistance
