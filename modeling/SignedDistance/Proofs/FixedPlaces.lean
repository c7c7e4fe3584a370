import Mathlib
import SignedDistance.Proofs.DecimalTexts
import SignedDistance.Proofs.Doubles
import SignedDistance.Proofs.PlainScenes

/-!
# Numbers written with three places

Every finite double can be written with three places. The written text is a numeral again, and the
double that it denotes is written the same way, except that a negative number that was rounded to
zero loses its sign (`Datum.scalarText_text`).

The argument for the round trip does not look at digits. Let `c` be the rounded value of `x` in
thousandths. The text denotes a double `y` nearest to `c / 1000`, so `y` is at least as near to it
as `x` is, which is within half a thousandth. Hence `y` is rounded to `c` again, unless `y` is half
a thousandth above and `x` half a thousandth below; but then `y - x` would be a thousandth, which is
no difference of two doubles.
-/

namespace SignedDistance

open Text

namespace Double

/-! ## Rounding to places -/

/-- A scaled value is rounded to the nearest natural number, a half going up. -/
theorem scaledRound_bounds (m : Nat) (e places : Int) :
    (scaledRound m e places : ℚ) ≤ dyadic m e * 10 ^ places + 1 / 2 ∧
      dyadic m e * 10 ^ places + 1 / 2 < scaledRound m e places + 1 := by
  set num := m * pow2 e.toNat * pow10 places.toNat with hnum
  set den := pow2 (-e).toNat * pow10 (-places).toNat with hden
  have hdenPos : 0 < den := by rw [hden, pow2_eq, pow10_eq]; positivity
  have hdenq : (0 : ℚ) < den := by exact_mod_cast hdenPos
  have hround : scaledRound m e places = (2 * num + den) / (2 * den) := rfl
  have hvalue : dyadic m e * 10 ^ places + 1 / 2 =
      ((2 * num + den : Nat) : ℚ) / (2 * den : Nat) := by
    rw [dyadic, zpow_eq_div two_ne_zero e, zpow_eq_div (by norm_num : (10 : ℚ) ≠ 0) places, hnum,
      hden, pow2_eq, pow2_eq, pow10_eq, pow10_eq]
    push_cast
    field_simp
  rw [hvalue, hround]
  constructor
  · exact Nat.cast_div_le
  · rw [div_lt_iff₀ (by positivity)]
    exact_mod_cast Nat.lt_mul_of_div_lt (Nat.lt_succ_self _) (by omega)

theorem scaledRound_spec (m : Nat) (e : Int) (places : Nat) :
    (scaledRound m e places : ℚ) ≤ dyadic m e * 10 ^ places + 1 / 2 ∧
      dyadic m e * 10 ^ places + 1 / 2 < scaledRound m e places + 1 := by
  have hbounds := scaledRound_bounds m e places
  rwa [zpow_natCast] at hbounds

theorem scaledRound_zero (e : Int) (places : Nat) : scaledRound 0 e places = 0 := by
  have hspec := (scaledRound_spec 0 e places).1
  rw [dyadic, Nat.cast_zero, zero_mul, zero_mul, zero_add] at hspec
  have hlt : (scaledRound 0 e places : ℚ) < 1 := by linarith
  exact Nat.lt_one_iff.mp (by exact_mod_cast hlt)

theorem dyadic_mul_two_pow (m : Nat) {e : Int} {a : Nat} (h : -e ≤ a) :
    dyadic m e * 2 ^ a = ((m * 2 ^ (e + a).toNat : Int) : ℚ) := by
  have hsum : ((e + a).toNat : Int) = e + a := by omega
  have hpower : (2 : ℚ) ^ e * 2 ^ a = 2 ^ (e + a).toNat := by
    rw [← zpow_natCast, ← zpow_natCast, hsum, zpow_add₀ (by norm_num)]
  rw [dyadic, mul_assoc, hpower]
  push_cast
  rfl

/-- Two dyadic numbers never differ by one unit of a decimal place. -/
theorem dyadic_sub_mul_ne_one (m m' : Nat) (e e' : Int) {places : Nat} (hplaces : 0 < places) :
    (dyadic m e - dyadic m' e') * 10 ^ places ≠ 1 := by
  intro hone
  obtain ⟨a, ha, ha'⟩ : ∃ a : Nat, -e ≤ a ∧ -e' ≤ a :=
    ⟨(-e).toNat + (-e').toNat, by omega, by omega⟩
  set N : Int := m * 2 ^ (e + a).toNat - m' * 2 ^ (e' + a).toNat with hN
  have hdiff : (dyadic m e - dyadic m' e') * 2 ^ a = (N : ℚ) := by
    rw [sub_mul, dyadic_mul_two_pow m ha, dyadic_mul_two_pow m' ha', hN, Int.cast_sub]
  have hpower : N * 10 ^ places = 2 ^ a := by
    have : (N : ℚ) * 10 ^ places = 2 ^ a := by
      rw [← hdiff, mul_right_comm, hone, one_mul]
    exact_mod_cast this
  -- five divides the left side only
  have hfive : (5 : Int) ∣ 2 ^ a := by
    rw [← hpower]
    exact Dvd.dvd.mul_left (dvd_pow (by norm_num) hplaces.ne') N
  have htwo : (5 : Int) ∣ 2 := Int.Prime.dvd_pow' (by norm_num) hfive
  omega

/-- A number on the grid that is as near to the rounded value of another one as that one is has the
same rounded value. -/
theorem scaledRound_of_nearest {m m' : Nat} {e e' : Int} {places : Nat} (hplaces : 0 < places)
    (hnear : |dyadic m' e' - (scaledRound m e places : ℚ) / 10 ^ places| ≤
      |dyadic m e - (scaledRound m e places : ℚ) / 10 ^ places|) :
    scaledRound m' e' places = scaledRound m e places := by
  obtain ⟨hlow, hhigh⟩ := scaledRound_spec m e places
  obtain ⟨hlow', hhigh'⟩ := scaledRound_spec m' e' places
  set c := scaledRound m e places
  set u := dyadic m e * 10 ^ places with hu
  set w := dyadic m' e' * 10 ^ places with hw
  have hT : (0 : ℚ) < 10 ^ places := by positivity
  have hscale : ∀ v : ℚ, |v - c / 10 ^ places| * 10 ^ places = |v * 10 ^ places - c| := by
    intro v
    have hsub : (v - c / 10 ^ places) * 10 ^ places = v * 10 ^ places - c := by
      rw [sub_mul, div_mul_cancel₀ _ hT.ne']
    rw [← hsub, abs_mul, abs_of_pos hT]
  have hdistance : |w - c| ≤ |u - c| := by
    have hscaled := mul_le_mul_of_nonneg_right hnear hT.le
    rwa [hscale, hscale] at hscaled
  have hhalf : |u - c| ≤ 1 / 2 := by
    rw [abs_le]
    constructor <;> linarith
  obtain ⟨hw1, hw2⟩ := abs_le.mp (hdistance.trans hhalf)
  have hbelow : w < c + 1 / 2 := by
    by_contra htop
    have hwc : w - c = 1 / 2 := by linarith
    have huc : u - c = -(1 / 2) := by
      rw [hwc, abs_of_pos (by norm_num)] at hdistance
      rcases abs_cases (u - c) with ⟨habs, -⟩ | ⟨habs, -⟩
      · linarith
      · linarith
    refine dyadic_sub_mul_ne_one m' m e' e hplaces ?_
    rw [sub_mul, ← hu, ← hw]
    linarith
  have hle : c < scaledRound m' e' places + 1 := by
    have : (c : ℚ) < scaledRound m' e' places + 1 := by linarith
    exact_mod_cast this
  have hge : scaledRound m' e' places < c + 1 := by
    have : (scaledRound m' e' places : ℚ) < c + 1 := by linarith
    exact_mod_cast this
  omega

/-! ## Doubles with three places -/

theorem dyadic_lt_of_onGrid {m : Nat} {e : Int} (h : OnGrid m e) : dyadic m e ≤ 10 ^ 384 := by
  have hsum : (53 : Int) + 971 = (8 * 128 : Nat) := by norm_num
  calc dyadic m e ≤ dyadic (2 ^ 53) 971 := dyadic_le_dyadic h.mantissa_lt.le h.le_greatest
    _ = 2 ^ (53 : Int) * 2 ^ (971 : Int) := by rw [dyadic, Nat.cast_pow]; rfl
    _ = (2 ^ 8) ^ 128 := by rw [← zpow_add₀ (by norm_num), hsum, zpow_natCast, pow_mul]
    _ ≤ (10 ^ 3) ^ 128 := pow_le_pow_left₀ (by norm_num) (by norm_num) 128
    _ = 10 ^ 384 := by rw [← pow_mul]

theorem scaledRound_lt {m : Nat} {e places : Int} (h : OnGrid m e) (hplaces : places ≤ 15) :
    scaledRound m e places < pow10 maxFixedDigits := by
  have hround := (scaledRound_bounds m e places).1
  have hsplit : ((10 : Nat) : ℚ) ^ maxFixedDigits = 10 ^ 384 * 10 ^ 16 := by
    rw [Nat.cast_ofNat, ← pow_add]
    rfl
  have hone : (1 : ℚ) ≤ 10 ^ 384 := one_le_pow₀ (by norm_num)
  have hpower : (10 : ℚ) ^ places ≤ 10 ^ 15 := by
    exact_mod_cast zpow_le_zpow_right₀ (by norm_num : (1 : ℚ) ≤ 10) hplaces
  have hvalue : dyadic m e * 10 ^ places ≤ 10 ^ 384 * 10 ^ 15 :=
    mul_le_mul (dyadic_lt_of_onGrid h) hpower (zpow_pos (by norm_num) places).le (by positivity)
  rw [pow10_eq, ← Nat.cast_lt (α := ℚ), Nat.cast_pow, hsplit]
  generalize (10 : ℚ) ^ 384 = bound at hvalue hone ⊢
  generalize scaledRound m e places = c at hround ⊢
  linarith

/-- Only the zero with a minus sign is folded. -/
theorem view_foldZero {x : Double} {negative : Bool} {m : Nat} {e : Int}
    (h : x.view = .finite negative m e) :
    x.foldZero.view = .finite (negative && m != 0) m e := by
  unfold foldZero
  split
  · next hzero =>
    rw [hzero, view_zero] at h
    cases h
    exact view_zero false
  · next hzero =>
    have hsign : (negative && m != 0) = negative := by
      by_contra hne
      have hcase : negative = true ∧ m = 0 := by
        cases negative <;> simp_all
      obtain ⟨rfl, rfl⟩ := hcase
      -- the only pattern with the value zero and a minus sign
      apply hzero
      have h52 : pow2 52 = 4503599627370496 := rfl
      have h63 : pow2 63 = 9223372036854775808 := rfl
      have h11 : pow2 11 = 2048 := rfl
      have hbits := x.bits.toNat_lt
      unfold view at h
      rw [h52, h63, h11] at h
      dsimp only at h
      split at h
      · split at h <;> cases h
      · split at h
        · simp only [View.finite.injEq, decide_eq_true_eq] at h
          obtain ⟨hnegative, hfraction, -⟩ := h
          have heq : x.bits.toNat = 9223372036854775808 := by omega
          cases x with
          | mk bits => exact congrArg Double.mk (UInt64.toNat_inj.mp heq)
        · simp at h
    rw [hsign]
    exact h

/-- A finite double with any number of places for which the power of ten is formed. -/
theorem fixed_eq {x : Double} {negative : Bool} {m : Nat} {e places : Int}
    (h : x.view = .finite negative m e) (hplaces : places.natAbs ≤ 1000) :
    x.fixed places =
      if pow10 maxFixedDigits ≤ scaledRound m e places then .error .tooManyDigits
      else .ok ⟨negative && m != 0, scaledRound m e places, -places⟩ := by
  have hmin : min places maxPlaces = places := min_eq_left (by rw [maxPlaces]; omega)
  unfold fixed
  rw [if_neg (by rw [maxPlaceDistance]; omega), if_neg (by rw [maxUnitPower]; omega)]
  dsimp only
  rw [view_foldZero h, hmin]

/-- A finite double is written with three places. -/
theorem fixed_of_view {x : Double} {negative : Bool} {m : Nat} {e : Int}
    (h : x.view = .finite negative m e) :
    x.fixed Datum.scalarPlaces = .ok ⟨negative && m != 0, scaledRound m e (3 : Nat), -3⟩ := by
  have hplaces : ((3 : Nat) : Int) ≤ 15 := by norm_num
  have hsize := not_le.mpr (scaledRound_lt (onGrid_of_view h) hplaces)
  rw [fixed_eq h (by decide)]
  exact if_neg hsize

theorem exists_view_of_isFinite {x : Double} (h : x.isFinite = true) :
    ∃ negative m e, x.view = .finite negative m e := by
  unfold isFinite at h
  split at h
  · next negative m e hview => exact ⟨negative, m, e, hview⟩
  · cases h

theorem isFinite_of_view {x : Double} {negative : Bool} {m : Nat} {e : Int}
    (h : x.view = .finite negative m e) : x.isFinite = true := by
  rw [isFinite, h]

/-- Reading back what was written with three places and writing it again. -/
theorem fixed_ofDecimal {x : Double} {d : Decimal} (hx : x.isFinite = true)
    (h : x.fixed Datum.scalarPlaces = .ok d) :
    (ofDecimal d.negative d.coefficient d.exponent).isFinite = true ∧
      (ofDecimal d.negative d.coefficient d.exponent).fixed Datum.scalarPlaces =
        .ok { d with negative := d.negative && d.coefficient != 0 } := by
  obtain ⟨negative, m, e, hview⟩ := exists_view_of_isFinite hx
  have hgrid := onGrid_of_view hview
  rw [fixed_of_view hview] at h
  cases h
  dsimp only
  set sign := negative && m != 0
  set c := scaledRound m e (3 : Nat) with hc
  by_cases hzero : c = 0
  · have hvalue : ofDecimal sign c (-3) = zero sign := by
      rw [ofDecimal]
      simp [hzero]
    rw [hvalue]
    refine ⟨isFinite_of_view (view_zero sign), ?_⟩
    rw [fixed_of_view (view_zero sign), scaledRound_zero, hzero]
  · have hcount : digitCount c ≤ maxFixedDigits :=
      (Nat.length_toDigits_le_iff (by norm_num) (by decide)).mpr
        (pow10_eq _ ▸ scaledRound_lt hgrid (by norm_num))
    rw [maxFixedDigits] at hcount
    have hvalue : ofDecimal sign c (-3) = ofRatio sign c 1000 := by
      rw [ofDecimal, if_neg hzero, if_neg (by omega), if_neg (by omega)]
      exact congrArg (ofRatio sign · 1000) (Nat.mul_one c)
    have hlow : (c : ℚ) ≤ dyadic m e * 10 ^ 3 + 1 / 2 := (scaledRound_spec m e 3).1
    have hrange : (c : ℚ) / (1000 : Nat) < maxRounded := by
      have hmax := hgrid.dyadic_le
      have hunit : (1 : ℚ) ≤ 2 ^ (971 : Int) := one_le_zpow₀ (by norm_num) (by norm_num)
      rw [div_lt_iff₀ (by norm_num), maxRounded]
      rw [dyadic.eq_def (2 ^ 53 - 1)] at hmax
      generalize (2 : ℚ) ^ (971 : Int) = unit at hmax hunit ⊢
      norm_num at hmax ⊢
      linarith
    obtain ⟨m', e', hview', hnear⟩ :=
      ofRatio_nearest (Nat.pos_of_ne_zero hzero) (by norm_num : 0 < 1000) sign hrange
    have hround : scaledRound m' e' (3 : Nat) = c := by
      refine scaledRound_of_nearest (by norm_num) ?_
      have := hnear m e hgrid
      norm_num at this ⊢
      exact this
    have hm' : m' ≠ 0 := by
      rintro rfl
      exact hzero (hround.symm.trans (scaledRound_zero e' 3))
    rw [hvalue]
    refine ⟨isFinite_of_view hview', ?_⟩
    rw [fixed_of_view hview', hround, bne_iff_ne.mpr hm', bne_iff_ne.mpr hzero]

end Double

/-! ## Amounts -/

/-- The text of a number that is negative and was rounded to zero. -/
def Datum.negativeZero : String := "-0.000"

/-- The text that is written for a number that was given by its text. -/
def Datum.respelledAmount (text : String) : String :=
  if text = negativeZero then "0.000" else text

theorem Decimal.text_eq_respelledAmount {x : Decimal} (hexponent : x.exponent = -3) :
    Decimal.text { x with negative := x.negative && x.coefficient != 0 } =
      Datum.respelledAmount x.text := by
  obtain ⟨sign, coefficient, exponent⟩ := x
  dsimp only at hexponent
  subst hexponent
  unfold Datum.respelledAmount
  by_cases hzero : sign = true ∧ coefficient = 0
  · obtain ⟨rfl, rfl⟩ := hzero
    decide
  · have hsign : (sign && coefficient != 0) = sign := by
      cases sign <;> simp_all
    -- the digits of the text tell it from that of a negative zero
    have htext : Decimal.text ⟨sign, coefficient, -3⟩ ≠ Datum.negativeZero := by
      intro heq
      have hparse := (parse?_text ⟨sign, coefficient, -3⟩).2
      have hzeroText : Numeral.parse? Datum.negativeZero = some (.decimal true 0 (-3)) := by decide
      rw [heq, hzeroText] at hparse
      cases hparse
      exact hzero ⟨rfl, rfl⟩
    rw [if_neg htext]
    exact congrArg (fun s => Decimal.text ⟨s, coefficient, -3⟩) hsign

namespace Datum

theorem toDouble_eq_ok_iff {d : Datum} {x : Double} :
    d.toDouble = .ok x ↔ d.toAnyDouble = .ok x ∧ x.isFinite = true := by
  rw [toDouble, bind_eq_ok_iff]
  constructor
  · rintro ⟨y, hy, h⟩
    split at h
    · next hfinite =>
      cases h
      exact ⟨hy, hfinite⟩
    · cases h
  · rintro ⟨hx, hfinite⟩
    exact ⟨x, hx, by rw [if_pos hfinite]; rfl⟩

theorem isNumeric_of_toDouble {d : Datum} {x : Double} (h : d.toDouble = .ok x) :
    d.isNumeric = .ok true := by
  rw [isNumeric, h]

/-- The text of a number is that of the double it denotes. -/
theorem scalarText_eq_ok_iff {d : Datum} {text : String} :
    d.scalarText = .ok text ↔
      ∃ x decimal, d.toDouble = .ok x ∧ x.fixed scalarPlaces = .ok decimal ∧
        decimal.text = text := by
  rw [scalarText, fixedText, bind_eq_ok_iff]
  constructor
  · rintro ⟨x, hx, h⟩
    cases hfixed : x.fixed scalarPlaces with
    | error fault => simp [hfixed, Except.mapError] at h
    | ok decimal =>
      rw [hfixed] at h
      cases h
      exact ⟨x, decimal, hx, hfixed, rfl⟩
  · rintro ⟨x, decimal, hx, hfixed, rfl⟩
    exact ⟨x, hx, by rw [hfixed]; rfl⟩

/-- Every finite number can be written. -/
theorem exists_scalarText {d : Datum} {x : Double} (h : d.toDouble = .ok x) :
    ∃ text, d.scalarText = .ok text := by
  obtain ⟨negative, m, e, hview⟩ :=
    Double.exists_view_of_isFinite (toDouble_eq_ok_iff.mp h).2
  exact ⟨_, scalarText_eq_ok_iff.mpr ⟨x, _, h, Double.fixed_of_view hview, rfl⟩⟩

/-- The text of a number denotes a number, which has the same text. Only a zero loses its sign. -/
theorem scalarText_text {d : Datum} {text : String} (h : d.scalarText = .ok text) :
    (Datum.text text).isNumeric = .ok true ∧
      (Datum.text text).scalarText = .ok (respelledAmount text) := by
  obtain ⟨x, decimal, hx, hfixed, rfl⟩ := scalarText_eq_ok_iff.mp h
  have hfinite := (toDouble_eq_ok_iff.mp hx).2
  obtain ⟨negative, m, e, hview⟩ := Double.exists_view_of_isFinite hfinite
  obtain ⟨hfinite', hfixed'⟩ := Double.fixed_ofDecimal hfinite hfixed
  have hexponent : decimal.exponent = -3 := by
    rw [Double.fixed_of_view hview] at hfixed
    cases hfixed
    rfl
  obtain ⟨htrim, hparse⟩ := decimal.parse?_text
  have hdouble : (Datum.text decimal.text).toDouble =
      .ok (Double.ofDecimal decimal.negative decimal.coefficient decimal.exponent) := by
    refine toDouble_eq_ok_iff.mpr ⟨?_, hfinite'⟩
    rw [toAnyDouble, htrim, String.ofList_toList, Double.parse?, hparse]
    rfl
  exact ⟨isNumeric_of_toDouble hdouble, scalarText_eq_ok_iff.mpr
    ⟨_, _, hdouble, hfixed', Decimal.text_eq_respelledAmount hexponent⟩⟩

end Datum

end SignedDistance
