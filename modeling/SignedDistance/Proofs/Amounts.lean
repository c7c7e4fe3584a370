import Mathlib
import SignedDistance.Proofs.PlainScenes
import SignedDistance.Proofs.RoundTrip

/-!
# Texts of amounts

Numbers are written as decimal texts, positionally or with an exponent. Every such text is read back
as one number, or as the minus of one (`Decimal.parse_text`), so the amounts of a scene can stand as
literals in its expression.
-/

namespace SignedDistance

namespace Decimal

theorem isMantissa_placePoint {digits : List Char} (hdigits : IsDigits digits) (left : Int) :
    IsMantissa (placePoint digits left) := by
  obtain ⟨hne, hdigit⟩ := hdigits
  have hzero : ∀ n, ∀ c ∈ List.replicate n '0', c.isDigit = true := by
    intro n c hc
    rw [List.eq_of_mem_replicate hc]
    rfl
  unfold placePoint
  split
  · refine @IsMantissa.point ['0'] _ ⟨by simp, by simp⟩ ?_
    exact List.forall_mem_append.mpr ⟨hzero _, hdigit⟩
  · split
    · exact .whole ⟨by simp [hne], List.forall_mem_append.mpr ⟨hdigit, hzero _⟩⟩
    · next hpos hlength =>
      refine .point ⟨?_, fun c hc => hdigit c (List.mem_of_mem_take hc)⟩
        fun c hc => hdigit c (List.mem_of_mem_drop hc)
      rw [Ne, List.take_eq_nil_iff, not_or]
      exact ⟨by omega, hne⟩

/-- What follows the sign of a decimal number is a number. -/
theorem isNumber_unsignedChars (x : Decimal) : IsNumber (String.ofList x.unsignedChars) := by
  have hdigits : ∀ n, IsDigits (Nat.toDigits 10 n) := fun n =>
    ⟨Nat.toDigits_ne_nil, fun c hc => Nat.isDigit_of_mem_toDigits (by simp) (by simp) hc⟩
  have hplaced := isMantissa_placePoint (hdigits x.coefficient)
  rw [IsNumber, String.toList_ofList, unsignedChars]
  split
  · exact ⟨_, [], hplaced _, .none, (List.append_nil _).symm⟩
  · refine ⟨_, _, hplaced 1, ?_, rfl⟩
    split
    · exact .none
    · refine .signed (Or.inr rfl) ?_ (hdigits _)
      split
      · exact Or.inr rfl
      · exact Or.inl rfl

/-- The expression that the text of a decimal number stands for. -/
def expr (x : Decimal) : Expr :=
  if x.negative then .neg (.number (String.ofList x.unsignedChars))
  else .number (String.ofList x.unsignedChars)

/-- The text of a decimal number can stand wherever an operand with a sign can. -/
theorem derives_text (x : Decimal) :
    ∃ ts, lex false x.text.toList = some ts ∧ Derives .unary ts x.expr := by
  have hlex := lex_number x.isNumber_unsignedChars
  have hderives : Derives .unary [.number (String.ofList x.unsignedChars)] (.number _) :=
    .postfixed (.primary (.number _))
  rw [String.toList_ofList] at hlex
  rw [text, String.toList_ofList, expr]
  cases x.negative with
  | false => exact ⟨_, hlex, hderives⟩
  | true => exact ⟨_, lex_minus hlex, .minus hderives⟩

theorem parse_text (x : Decimal) : parse x.text = .ok x.expr := by
  obtain ⟨ts, hlex, hderives⟩ := x.derives_text
  exact parse_eq_ok_iff.mpr ⟨ts, hlex, .product (.unary hderives)⟩

end Decimal

/-- The amounts of a scene can be parsed. -/
theorem exists_parse_of_scalarText {d : Datum} {text : String} (h : d.scalarText = .ok text) :
    ∃ e, parse text = .ok e := by
  rw [Datum.scalarText, Datum.fixedText] at h
  obtain ⟨x, -, h⟩ := bind_eq_ok_iff.mp h
  obtain ⟨decimal, -, h⟩ := bind_eq_ok_iff.mp h
  cases h
  exact ⟨_, decimal.parse_text⟩

end SignedDistance
