import Mathlib
import SignedDistance.Proofs.FixedTexts
import SignedDistance.Proofs.NearestDoubles

/-!
# Order and stability of written numbers

Writing a number rounds it twice, to a double and to a decimal place. Both keep the order, so of two
numbers the greater one is never written as the smaller one, whether they are compared as they are
given or as doubles. What was written is written the same way again, but for the sign of a zero
(`Datum.scalarText_stable_mono`).
-/

namespace SignedDistance

/-- The number that is written for a double with a number of places. -/
def Double.written (x : Double) (places : Int) : ℚ :=
  (if x.exact < 0 then -1 else 1) * (x.units places * 10 ^ (-places))

theorem Double.units_mono {x y : Double} (h : |x.exact| ≤ |y.exact|) (places : Int) :
    x.units places ≤ y.units places := by
  have hpower : (0 : ℚ) < 10 ^ places := zpow_pos (by norm_num) places
  unfold units
  gcongr

/-- Rounding to a decimal place keeps the order. -/
theorem Double.written_mono {x y : Double} (h : x.exact ≤ y.exact) (places : Int) :
    x.written places ≤ y.written places := by
  have hunit : (0 : ℚ) < 10 ^ (-places) := zpow_pos (by norm_num) (-places)
  have hx : (0 : ℚ) ≤ x.units places * 10 ^ (-places) := by positivity
  have hy : (0 : ℚ) ≤ y.units places * 10 ^ (-places) := by positivity
  unfold written
  by_cases hxneg : x.exact < 0
  · rw [if_pos hxneg]
    by_cases hyneg : y.exact < 0
    · have hle : y.units places ≤ x.units places := by
        refine units_mono ?_ places
        rw [abs_of_neg hxneg, abs_of_neg hyneg]
        linarith
      have hscaled : (y.units places : ℚ) * 10 ^ (-places) ≤ x.units places * 10 ^ (-places) :=
        mul_le_mul_of_nonneg_right (by exact_mod_cast hle) hunit.le
      rw [if_pos hyneg]
      linarith
    · rw [if_neg hyneg]
      linarith
  · have hxnonneg := not_lt.mp hxneg
    have hyneg : ¬ y.exact < 0 := not_lt.mpr (hxnonneg.trans h)
    have hle : x.units places ≤ y.units places := by
      refine units_mono ?_ places
      rwa [abs_of_nonneg hxnonneg, abs_of_nonneg (not_lt.mp hyneg)]
    rw [if_neg hxneg, if_neg hyneg, one_mul, one_mul]
    exact mul_le_mul_of_nonneg_right (by exact_mod_cast hle) hunit.le

namespace Datum

/-- The number that a written decimal number denotes. -/
theorem number?_text (x : Decimal) :
    (Datum.text x.text).number? =
      some ((if x.negative then -1 else 1) * ((x.coefficient : ℚ) * 10 ^ x.exponent)) := by
  obtain ⟨htrim, hparse⟩ := x.parse?_text
  rw [number?, htrim, String.ofList_toList, hparse]
  rfl

/-- The text of a number denotes the rounded value of its double. -/
theorem number?_scalarText {d : Datum} {x : Double} {text : String} (hd : d.toDouble = .ok x)
    (h : d.scalarText = .ok text) :
    (Datum.text text).number? = some (x.written scalarPlaces) := by
  obtain ⟨x', decimal, hx', hfixed, rfl⟩ := scalarText_eq_ok_iff.mp h
  cases hd.symm.trans hx'
  have hfinite := (toDouble_eq_ok_iff.mp hd).2
  rw [Double.fixed_of_isFinite hfinite (by decide), if_neg (not_lt.mpr
    (Double.digitCount_units_le hfinite (by decide)))] at hfixed
  cases hfixed
  rw [number?_text, Double.written]
  simp only [decide_eq_true_eq]

/-- A number that is accepted is written as a text that is accepted too and written as the same text
again, but a negative zero loses its sign. Of two numbers the greater one, compared as given or as a
double, is not written as the smaller one. -/
theorem scalarText_stable_mono {v w : Datum} {x y : Double} (hv : v.toDouble = .ok x)
    (hw : w.toDouble = .ok y) :
    ∃ s t p q a b, v.scalarText = .ok s ∧ w.scalarText = .ok t ∧
      (∃ z, (Datum.text s).toDouble = .ok z) ∧
      (Datum.text s).scalarText = .ok (if s = "-0.000" then "0.000" else s) ∧
      v.number? = some p ∧ w.number? = some q ∧
      (Datum.text s).number? = some a ∧ (Datum.text t).number? = some b ∧
      (p ≤ q ∨ x.exact ≤ y.exact → a ≤ b) := by
  obtain ⟨s, hs⟩ := exists_scalarText hv
  obtain ⟨t, ht⟩ := exists_scalarText hw
  obtain ⟨p, hp, hpfinite, hpx⟩ := exact_toDouble hv
  obtain ⟨q, hq, hqfinite, hqy⟩ := exact_toDouble hw
  have hagain := (scalarText_text hs).2
  obtain ⟨z, -, hz, -⟩ := scalarText_eq_ok_iff.mp hagain
  refine ⟨s, t, p, q, _, _, hs, ht, ⟨z, hz⟩, hagain, hp, hq, number?_scalarText hv hs,
    number?_scalarText hw ht, fun horder => Double.written_mono ?_ scalarPlaces⟩
  rcases horder with hgiven | hdoubles
  · rw [hpx, hqy]
    exact Double.nearest_mono hpfinite hqfinite hgiven
  · exact hdoubles

/-- The greatest double below zero, and one. -/
theorem scalarText_stable_mono_least :
    (Datum.float ⟨0x8000000000000001⟩).toDouble = .ok ⟨0x8000000000000001⟩ ∧
      (Datum.int 1).toDouble = .ok ⟨0x3FF0000000000000⟩ ∧
      (Datum.float ⟨0x8000000000000001⟩).scalarText = .ok "-0.000" ∧
      (Datum.text "-0.000").scalarText = .ok "0.000" ∧
      ∃ t a b, (Datum.int 1).scalarText = .ok t ∧ (Datum.text "-0.000").number? = some a ∧
        (Datum.text t).number? = some b ∧ a ≤ b := by
  have hv : (Datum.float ⟨0x8000000000000001⟩).toDouble = .ok ⟨0x8000000000000001⟩ :=
    toDouble_eq_ok_iff.mpr ⟨rfl, by decide⟩
  have hw : (Datum.int 1).toDouble = .ok ⟨0x3FF0000000000000⟩ :=
    eq_ok_of_toOption (by decide +kernel)
  have hzero : (Datum.float ⟨0x8000000000000001⟩).scalarText = .ok "-0.000" :=
    scalarText_eq_ok_iff.mpr ⟨_, ⟨true, 0, -3⟩, hv, by decide +kernel, by decide⟩
  have hviewv : Double.view ⟨0x8000000000000001⟩ = .finite true 1 (-1074) := by decide
  have hvieww : Double.view ⟨0x3FF0000000000000⟩ = .finite false (2 ^ 52) (-52) := by decide
  have hbelow : Double.exact ⟨0x8000000000000001⟩ ≤ Double.exact ⟨0x3FF0000000000000⟩ :=
    le_trans ((Double.exact_neg_iff hviewv).mpr rfl).le
      (not_lt.mp (mt (Double.exact_neg_iff hvieww).mp (by decide)))
  obtain ⟨s, t, p, q, a, b, hs, ht, -, hagain, -, -, ha, hb, hle⟩ := scalarText_stable_mono hv hw
  cases hzero.symm.trans hs
  exact ⟨hv, hw, hzero, hagain, t, a, b, ht, ha, hb, hle (Or.inr hbelow)⟩

end Datum

end SignedDistance
