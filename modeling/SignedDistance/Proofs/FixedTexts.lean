import Mathlib
import SignedDistance.Proofs.FixedPlaces

/-!
# Numbers written with any number of places

A number is written with a number of places by rounding the exact value of its double to that place,
a half going away from zero. Up to a thousand places on either side of the point, this fails exactly
if the rounded value takes more digits than may be written, and otherwise the text is the numeral of
that value (`Datum.fixedText_rounds`). Up to six places after the point it never fails, and the text
is written out with that many digits.
-/

namespace SignedDistance

namespace Double

/-- The absolute value of a double in units of a decimal place, rounded to a natural number; a half
goes up. -/
def units (x : Double) (places : Int) : Nat :=
  ⌊|x.exact| * 10 ^ places + 1 / 2⌋₊

variable {x : Double} {negative : Bool} {m : Nat} {e : Int}

theorem units_eq (h : x.view = .finite negative m e) (places : Int) :
    x.units places = scaledRound m e places := by
  obtain ⟨hlow, hhigh⟩ := scaledRound_bounds m e places
  have hnonneg : (0 : ℚ) ≤ dyadic m e * 10 ^ places + 1 / 2 :=
    le_trans (Nat.cast_nonneg _) hlow
  rw [units, abs_exact h, Nat.floor_eq_iff hnonneg]
  exact ⟨hlow, hhigh⟩

/-- What is written for a finite double. -/
theorem fixed_of_isFinite {places : Int} (hx : x.isFinite = true)
    (hplaces : places.natAbs ≤ 1000) :
    x.fixed places =
      if maxFixedDigits < digitCount (x.units places) then .error .tooManyDigits
      else .ok ⟨decide (x.exact < 0), x.units places, -places⟩ := by
  obtain ⟨negative, m, e, hview⟩ := exists_view_of_isFinite hx
  have hcount : maxFixedDigits < digitCount (x.units places) ↔
      pow10 maxFixedDigits ≤ x.units places := by
    rw [digitCount, ← not_le, Nat.length_toDigits_le_iff (by norm_num) (by decide), not_lt,
      pow10_eq]
  have hsign : (negative && m != 0) = decide (x.exact < 0) := by
    rw [Bool.eq_iff_iff, decide_eq_true_eq, exact_neg_iff hview]
  rw [fixed_eq hview hplaces, ← units_eq hview, hsign]
  simp only [hcount]

theorem digitCount_units_le {places : Int} (hx : x.isFinite = true) (hplaces : places ≤ 15) :
    digitCount (x.units places) ≤ maxFixedDigits := by
  obtain ⟨negative, m, e, hview⟩ := exists_view_of_isFinite hx
  have hsize := scaledRound_lt (onGrid_of_view hview) hplaces
  rw [← units_eq hview, pow10_eq] at hsize
  exact (Nat.length_toDigits_le_iff (by norm_num) (by decide)).mpr hsize

end Double

namespace Datum

theorem fixedText_eq {d : Datum} {x : Double} (h : d.toDouble = .ok x) (places : Int) :
    d.fixedText places = (x.fixed places).mapError .fixed >>= fun decimal => .ok decimal.text := by
  rw [fixedText, h]
  rfl

/-- A number is written with places by rounding the exact value of its double, a half going away
from zero. It cannot be written if that takes too many digits; otherwise its text is the numeral of
the rounded value, with a minus sign if the double is below zero. With one to six places it can
always be written, as digits without a zero in front, a point and as many digits as places. -/
theorem fixedText_rounds {d : Datum} {x : Double} {places : Int} (hd : d.toDouble = .ok x)
    (hplaces : places.natAbs ≤ 1000) :
    (d.fixedText places = .error (.fixed .tooManyDigits) ↔
      400 < Double.digitCount (x.units places)) ∧
    (Double.digitCount (x.units places) ≤ 400 →
      ∃ text, d.fixedText places = .ok text ∧
        Numeral.parse? text =
          some (.decimal (decide (x.exact < 0)) (x.units places) (-places)) ∧
        (text.toList.head? = some '-' ↔ x.exact < 0)) ∧
    (1 ≤ places → places ≤ 6 →
      ∃ text ds es, d.fixedText places = .ok text ∧
        text.toList = (if x.exact < 0 then ['-'] else []) ++ (ds ++ '.' :: es) ∧
        IsDigits ds ∧ (ds = ['0'] ∨ ds.head? ≠ some '0') ∧
        (∀ c ∈ es, c.isDigit = true) ∧ (es.length : Int) = places) := by
  have hfinite := (toDouble_eq_ok_iff.mp hd).2
  have hfixed := Double.fixed_of_isFinite hfinite hplaces
  have htext := fixedText_eq hd places
  have hwritten : ∀ {decimal : Decimal}, x.fixed places = .ok decimal →
      d.fixedText places = .ok decimal.text := by
    intro decimal hdecimal
    rw [htext, hdecimal]
    rfl
  rw [show 400 = Double.maxFixedDigits from rfl]
  refine ⟨?_, ?_, ?_⟩
  · by_cases hcount : Double.maxFixedDigits < Double.digitCount (x.units places)
    · rw [if_pos hcount] at hfixed
      refine iff_of_true ?_ hcount
      rw [htext, hfixed]
      rfl
    · rw [if_neg hcount] at hfixed
      refine iff_of_false ?_ hcount
      rw [hwritten hfixed]
      simp
  · intro hcount
    rw [if_neg (not_lt.mpr hcount)] at hfixed
    refine ⟨_, hwritten hfixed, (Decimal.parse?_text _).2, ?_⟩
    rw [Decimal.head_text, decide_eq_true_eq]
  · intro hone hsix
    rw [if_neg (not_lt.mpr (Double.digitCount_units_le hfinite (by omega)))] at hfixed
    obtain ⟨ds, es, hchars, hds, hfront, hes, hlength⟩ :=
      @Decimal.unsignedChars_of_places ⟨decide (x.exact < 0), x.units places, -places⟩
        (by dsimp only; omega) (by dsimp only; omega)
    refine ⟨_, ds, es, hwritten hfixed, ?_, hds, hfront, hes, by simpa using hlength⟩
    rw [Decimal.text, String.toList_ofList, hchars]
    simp

/-- A tie below zero. -/
theorem fixedText_rounds_eighth :
    (Datum.text "-0.125").toDouble = .ok ⟨0xBFC0000000000000⟩ ∧
      ∃ text, (Datum.text "-0.125").fixedText 2 = .ok text ∧
        Numeral.parse? text = some (.decimal true 13 (-2)) ∧ text.toList.head? = some '-' := by
  have hd : (Datum.text "-0.125").toDouble = .ok ⟨0xBFC0000000000000⟩ :=
    eq_ok_of_toOption (by decide +kernel)
  have hview : Double.view ⟨0xBFC0000000000000⟩ = .finite true (2 ^ 52) (-55) := by decide
  have hexact : Double.exact ⟨0xBFC0000000000000⟩ = -1 / 8 := by
    rw [Double.exact, hview]
    norm_num [dyadic]
  have hunits : Double.units ⟨0xBFC0000000000000⟩ 2 = 13 := by
    rw [Double.units, hexact]
    norm_num
  obtain ⟨-, hwritten, -⟩ := fixedText_rounds hd (by decide : (2 : Int).natAbs ≤ 1000)
  rw [hunits, hexact] at hwritten
  obtain ⟨text, htext, hparse, hhead⟩ := hwritten (by decide)
  refine ⟨hd, text, htext, ?_, hhead.mpr (by norm_num)⟩
  rw [hparse, decide_eq_true (by norm_num)]

end Datum

end SignedDistance
