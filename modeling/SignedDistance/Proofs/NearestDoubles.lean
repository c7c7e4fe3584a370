import Mathlib
import SignedDistance.Proofs.FixedPlaces

/-!
# The double nearest to a number

Rounding a quotient depends on its value only, not on how it is written (`Double.ofRatio_congr`), so
every number has one double nearest to it (`Double.nearest`), and a greater number never has a
smaller one (`Double.nearest_mono`). A value that denotes a number exactly, as an integer, a double
or a numeral does, is taken as the double nearest to that number (`Datum.exact_toDouble`).
-/

namespace SignedDistance

namespace Double

/-! ## Rounding and the value of a quotient -/

theorem divNearestEven_mul_right (num den : Nat) {k : Nat} (hk : 0 < k) :
    divNearestEven (num * k) (den * k) = divNearestEven num den := by
  have hquotient : num * k / (den * k) = num / den := Nat.mul_div_mul_right num den hk
  have hrest : num * k % (den * k) = num % den * k := Nat.mul_mod_mul_right k num den
  have hless : 2 * (num % den * k) < den * k ↔ 2 * (num % den) < den := by
    rw [← mul_assoc]
    exact Nat.mul_lt_mul_right hk
  have hgreater : den * k < 2 * (num % den * k) ↔ den < 2 * (num % den) := by
    rw [← mul_assoc]
    exact Nat.mul_lt_mul_right hk
  simp only [divNearestEven, hquotient, hrest, hless, hgreater]

theorem binade_le_of_bounds {q : ℚ} {a b : Int} (ha : 2 ^ 52 ≤ q / 2 ^ a)
    (hb : q / 2 ^ b < 2 ^ 53) : a ≤ b := by
  have hapos : (0 : ℚ) < 2 ^ a := zpow_pos (by norm_num) a
  have hbpos : (0 : ℚ) < 2 ^ b := zpow_pos (by norm_num) b
  rw [le_div_iff₀ hapos] at ha
  rw [div_lt_iff₀ hbpos] at hb
  have hlt : (2 : ℚ) ^ (52 + a) < 2 ^ (53 + b) := by
    rw [zpow_add₀ two_ne_zero, zpow_add₀ two_ne_zero]
    exact_mod_cast ha.trans_lt hb
  have := (zpow_lt_zpow_iff_right₀ (by norm_num : (1 : ℚ) < 2)).mp hlt
  omega

theorem binade_mul_right {num den k : Nat} (hnum : 0 < num) (hden : 0 < den) (hk : 0 < k) :
    binade (num * k) (den * k) = binade num den := by
  have hquotient : ((num * k : Nat) : ℚ) / (den * k : Nat) = num / den := by
    rw [Nat.cast_mul, Nat.cast_mul, mul_div_mul_right _ _ (Nat.cast_ne_zero.mpr hk.ne')]
  obtain ⟨hlow, hhigh⟩ := binade_spec hnum hden
  obtain ⟨hlow', hhigh'⟩ := binade_spec (Nat.mul_pos hnum hk) (Nat.mul_pos hden hk)
  rw [hquotient] at hlow' hhigh'
  exact le_antisymm (binade_le_of_bounds hlow' hhigh) (binade_le_of_bounds hlow hhigh')

theorem ofRatio_zero (negative : Bool) (den : Nat) : ofRatio negative 0 den = zero negative :=
  if_pos rfl

theorem ofRatio_mul_right (negative : Bool) (num : Nat) {den k : Nat} (hden : 0 < den)
    (hk : 0 < k) : ofRatio negative (num * k) (den * k) = ofRatio negative num den := by
  rcases Nat.eq_zero_or_pos num with rfl | hnum
  · rw [Nat.zero_mul, ofRatio_zero, ofRatio_zero]
  · have hexponent : roundingExponent (num * k) (den * k) = roundingExponent num den := by
      rw [roundingExponent, binade_mul_right hnum hden hk]
      rfl
    have hmantissa : roundedMantissa (num * k) (den * k) = roundedMantissa num den := by
      rw [roundedMantissa, hexponent, mul_right_comm num, mul_right_comm den,
        divNearestEven_mul_right _ _ hk]
      rfl
    rw [ofRatio_eq negative (Nat.mul_pos hnum hk), ofRatio_eq negative hnum, hexponent, hmantissa]

/-- Equal quotients are rounded to the same double. -/
theorem ofRatio_congr (negative : Bool) {num den num' den' : Nat} (hden : 0 < den)
    (hden' : 0 < den') (h : num * den' = num' * den) :
    ofRatio negative num den = ofRatio negative num' den' := by
  rw [← ofRatio_mul_right negative num hden hden', ← ofRatio_mul_right negative num' hden' hden, h,
    mul_comm den]

/-! ## The nearest double -/

/-- The double nearest to a number, the one with an even mantissa in a tie. -/
def nearest (q : ℚ) : Double :=
  ofRatio (decide (q < 0)) q.num.natAbs q.den

theorem abs_eq_div (q : ℚ) : |q| = (q.num.natAbs : ℚ) / q.den := by
  conv_lhs => rw [← Rat.num_div_den q]
  rw [abs_div, Nat.abs_cast, Nat.cast_natAbs, Int.cast_abs]

/-- A quotient with a sign is rounded to the nearest double. -/
theorem ofRatio_eq_nearest (negative : Bool) {num den : Nat} (hnum : 0 < num) (hden : 0 < den) :
    ofRatio negative num den = nearest ((if negative then -1 else 1) * ((num : ℚ) / den)) := by
  set q : ℚ := (if negative then -1 else 1) * ((num : ℚ) / den) with hq
  have hpos : (0 : ℚ) < (num : ℚ) / den := by positivity
  have hsign : decide (q < 0) = negative := by
    rw [hq]
    cases negative with
    | false => simpa using hpos.le
    | true => simpa using hpos
  have habs : |q| = (num : ℚ) / den := by
    rw [hq, abs_mul, abs_of_pos hpos]
    cases negative <;> simp
  have hcross : num * q.den = q.num.natAbs * den := by
    rw [abs_eq_div, div_eq_div_iff (Nat.cast_ne_zero.mpr q.den_ne_zero)
      (Nat.cast_ne_zero.mpr hden.ne')] at habs
    exact_mod_cast habs.symm
  rw [nearest, hsign]
  exact ofRatio_congr negative hden q.den_pos hcross

theorem nearest_zero : nearest 0 = zero false := rfl

theorem exact_zero (negative : Bool) : (zero negative).exact = 0 := by
  rw [exact, view_zero]
  simp [dyadic]

/-- No finite double is nearer to a number than the nearest one. -/
theorem abs_nearest_sub_le {q : ℚ} (h : (nearest q).isFinite = true) {y : Double}
    (hy : y.isFinite = true) : |(nearest q).exact - q| ≤ |y.exact - q| := by
  by_cases hzero : q = 0
  · subst hzero
    rw [nearest_zero, exact_zero, sub_self, abs_zero]
    exact abs_nonneg _
  · have hnum : 0 < q.num.natAbs := Int.natAbs_pos.mpr (Rat.num_ne_zero.mpr hzero)
    obtain ⟨m, e, hview, hnear⟩ := ofRatio_nearest_of_isFinite hnum q.den_pos _ h
    obtain ⟨negative, m', e', hview'⟩ := exists_view_of_isFinite hy
    have hbest := hnear m' e' (onGrid_of_view hview')
    rw [← abs_eq_div, ← abs_exact hview'] at hbest
    have hsame : (nearest q).exact - q = (if q < 0 then -1 else 1) * (dyadic m e - |q|) := by
      rw [exact, nearest, hview]
      by_cases hneg : q < 0
      · simp only [hneg, decide_true, if_true, abs_of_neg hneg]
        ring
      · simp only [hneg, decide_false, if_false, abs_of_nonneg (not_lt.mp hneg)]
        simp
    calc |(nearest q).exact - q| = abs (dyadic m e - |q|) := by
          rw [hsame, abs_mul]
          split <;> simp
      _ ≤ abs (|y.exact| - |q|) := hbest
      _ ≤ |y.exact - q| := abs_abs_sub_abs_le _ _

/-- Of two numbers the greater one does not have the smaller nearest double. -/
theorem nearest_mono {p q : ℚ} (hp : (nearest p).isFinite = true) (hq : (nearest q).isFinite = true)
    (h : p ≤ q) : (nearest p).exact ≤ (nearest q).exact := by
  rcases h.eq_or_lt with rfl | hlt
  · exact le_rfl
  · by_contra hcross
    rw [not_le] at hcross
    -- the mean of the two doubles would separate the numbers the wrong way
    have hleft := sq_le_sq.mpr (abs_nearest_sub_le hp hq)
    have hright := sq_le_sq.mpr (abs_nearest_sub_le hq hp)
    generalize (nearest p).exact = x at hleft hright hcross
    generalize (nearest q).exact = y at hleft hright hcross
    have hp' : x + y ≤ 2 * p := by nlinarith only [hleft, hcross]
    have hq' : 2 * q ≤ x + y := by nlinarith only [hright, hcross]
    linarith

theorem isFinite_nearest {q : ℚ} (h : |q| < maxRounded) : (nearest q).isFinite = true := by
  by_cases hzero : q = 0
  · subst hzero
    exact isFinite_of_view (view_zero false)
  · have hnum : 0 < q.num.natAbs := Int.natAbs_pos.mpr (Rat.num_ne_zero.mpr hzero)
    rw [abs_eq_div] at h
    obtain ⟨m, e, hview, -⟩ := ofRatio_nearest hnum q.den_pos (decide (q < 0)) h
    exact isFinite_of_view hview

theorem lt_maxRounded {x : Double} (h : x.isFinite = true) : |x.exact| < maxRounded := by
  obtain ⟨negative, m, e, hview⟩ := exists_view_of_isFinite h
  have hmax := (onGrid_of_view hview).dyadic_le
  have hunit : (0 : ℚ) < 2 ^ (971 : Int) := zpow_pos (by norm_num) _
  rw [abs_exact hview, maxRounded]
  rw [dyadic.eq_def (2 ^ 53 - 1)] at hmax
  generalize (2 : ℚ) ^ (971 : Int) = unit at hmax hunit ⊢
  norm_num at hmax ⊢
  linarith

/-- A double is the one nearest to its own value. -/
theorem exact_nearest_exact {x : Double} (h : x.isFinite = true) :
    (nearest x.exact).isFinite = true ∧ (nearest x.exact).exact = x.exact := by
  have hfinite := isFinite_nearest (lt_maxRounded h)
  have hnear := abs_nearest_sub_le hfinite h
  rw [sub_self, abs_zero] at hnear
  exact ⟨hfinite, sub_eq_zero.mp (abs_nonpos_iff.mp hnear)⟩

/-- A number less than half of the least double that is not zero is rounded to zero. -/
theorem nearest_of_tiny {q : ℚ} (h : |q| < 2 ^ (-1075 : Int)) :
    (nearest q).isFinite = true ∧ (nearest q).exact = 0 := by
  have hrange : |q| < maxRounded := by
    have hone : (2 : ℚ) ^ (-1075 : Int) ≤ 1 := zpow_le_one_of_nonpos₀ (by norm_num) (by norm_num)
    have hunit : (1 : ℚ) ≤ 2 ^ (971 : Int) := one_le_zpow₀ (by norm_num) (by norm_num)
    rw [maxRounded]
    generalize (2 : ℚ) ^ (971 : Int) = unit at hunit
    linarith
  have hfinite := isFinite_nearest hrange
  have hnear := abs_nearest_sub_le hfinite (isFinite_of_view (view_zero false))
  rw [exact_zero, zero_sub, abs_neg] at hnear
  obtain ⟨negative, m, e, hview⟩ := exists_view_of_isFinite hfinite
  have hgrid := onGrid_of_view hview
  have hsmall : dyadic m e < 2 ^ (-1074 : Int) := by
    have htriangle := abs_sub_abs_le_abs_sub (nearest q).exact q
    have hdouble : (2 : ℚ) ^ (-1074 : Int) = 2 * 2 ^ (-1075 : Int) := by
      rw [show (-1074 : Int) = 1 + -1075 by norm_num, zpow_add₀ two_ne_zero, zpow_one]
    rw [abs_exact hview] at htriangle
    linarith
  have hm : m = 0 := by
    by_contra hne
    have hle := @dyadic_le_dyadic 1 m (-1074) e (by omega) hgrid.least_le
    rw [dyadic, Nat.cast_one, one_mul] at hle
    exact absurd (hle.trans_lt hsmall) (lt_irrefl _)
  refine ⟨hfinite, abs_eq_zero.mp ?_⟩
  rw [abs_exact hview, hm]
  simp [dyadic]

end Double

/-! ## Numbers that are given exactly -/

/-- The number that a numeral stands for, if it is finite. -/
def Numeral.value? : Numeral → Option ℚ
  | .decimal negative digits exponent =>
    some ((if negative then -1 else 1) * (digits * 10 ^ exponent))
  | _ => none

/-- The number that a value denotes, before it is rounded to a double. -/
def Datum.number? : Datum → Option ℚ
  | .int n => some n
  | .float x => if x.isFinite then some x.exact else none
  | .text s => (Numeral.parse? (String.ofList (Text.trim s.toList))).bind Numeral.value?
  | _ => none

namespace Double

theorem lt_pow_digitCount (n : Nat) : n < 10 ^ digitCount n :=
  (Nat.length_toDigits_le_iff (by norm_num) Nat.length_toDigits_pos).mp le_rfl

/-- Decimal numbers that are taken as zero without forming the power of ten are too small for any
other double. -/
theorem abs_decimal_lt {digits : Nat} {exponent : Int} (h : exponent + digitCount digits < -400) :
    (digits : ℚ) * 10 ^ exponent < 2 ^ (-1075 : Int) := by
  have hten : (0 : ℚ) < 10 ^ exponent := zpow_pos (by norm_num) exponent
  have hdigits : (digits : ℚ) < 10 ^ digitCount digits := by exact_mod_cast lt_pow_digitCount digits
  have hpowers : (2 : ℚ) ^ 1075 ≤ 10 ^ 401 :=
    calc (2 : ℚ) ^ 1075 ≤ 2 ^ (3 * 401) := pow_le_pow_right₀ (by norm_num) (by norm_num)
      _ = (2 ^ 3) ^ 401 := pow_mul 2 3 401
      _ ≤ 10 ^ 401 := pow_le_pow_left₀ (by norm_num) (by norm_num) 401
  calc (digits : ℚ) * 10 ^ exponent < 10 ^ digitCount digits * 10 ^ exponent :=
        mul_lt_mul_of_pos_right hdigits hten
    _ = 10 ^ (exponent + digitCount digits) := by
        rw [zpow_add₀ (by norm_num), zpow_natCast, mul_comm]
    _ ≤ 10 ^ (-401 : Int) := zpow_le_zpow_right₀ (by norm_num) (by omega)
    _ ≤ 2 ^ (-1075 : Int) := by
        rw [zpow_neg, zpow_neg]
        exact inv_anti₀ (by positivity) (by exact_mod_cast hpowers)

/-- A decimal number that is taken as a finite double is taken as the nearest one. -/
theorem exact_ofDecimal {negative : Bool} {digits : Nat} {exponent : Int}
    (h : (ofDecimal negative digits exponent).isFinite = true) :
    let q : ℚ := (if negative then -1 else 1) * (digits * 10 ^ exponent)
    (nearest q).isFinite = true ∧
      (ofDecimal negative digits exponent).exact = (nearest q).exact := by
  intro q
  unfold ofDecimal at h ⊢
  dsimp only at h ⊢
  split_ifs at h ⊢ with hzero hlarge hsmall
  · have hq : q = 0 := by simp [q, hzero]
    rw [hq, nearest_zero, exact_zero, exact_zero]
    exact ⟨isFinite_of_view (view_zero false), rfl⟩
  · cases negative <;> exact absurd h (by decide)
  · have habs : |q| < 2 ^ (-1075 : Int) := by
      have hnonneg : (0 : ℚ) ≤ digits * 10 ^ exponent := by positivity
      have hsign : |q| = digits * 10 ^ exponent := by
        rw [abs_mul, abs_of_nonneg hnonneg]
        cases negative <;> simp
      rw [hsign]
      exact abs_decimal_lt hsmall
    obtain ⟨hfinite, hexact⟩ := nearest_of_tiny habs
    exact ⟨hfinite, (exact_zero negative).trans hexact.symm⟩
  · have hquotient : ((digits * pow10 exponent.toNat : Nat) : ℚ) / (pow10 (-exponent).toNat : Nat) =
        digits * 10 ^ exponent := by
      rw [zpow_eq_div (by norm_num : (10 : ℚ) ≠ 0) exponent, pow10_eq, pow10_eq]
      push_cast
      ring
    have hten : ∀ n, 0 < pow10 n := fun n => by
      rw [pow10_eq]
      positivity
    have hsame := ofRatio_eq_nearest negative
      (Nat.mul_pos (Nat.pos_of_ne_zero hzero) (hten exponent.toNat)) (hten (-exponent).toNat)
    rw [hquotient] at hsame
    rw [hsame] at h ⊢
    exact ⟨h, rfl⟩

end Double

/-- A value that is taken as a number is taken as the double nearest to the number it denotes. -/
theorem Datum.exact_toDouble {d : Datum} {x : Double} (h : d.toDouble = .ok x) :
    ∃ q, d.number? = some q ∧ (Double.nearest q).isFinite = true ∧
      x.exact = (Double.nearest q).exact := by
  obtain ⟨hany, hfinite⟩ := toDouble_eq_ok_iff.mp h
  cases d with
  | int n =>
    have hnearest : Double.nearest n = Double.ofRatio (n < 0) n.natAbs 1 := by
      simp [Double.nearest]
    rw [toAnyDouble, Double.ofInt?] at hany
    split at hany
    · next y hy =>
      split at hy
      · cases hany
        cases hy
        refine ⟨n, rfl, ?_, ?_⟩
        · rw [hnearest]
          exact hfinite
        · rw [hnearest]
      · cases hy
    · cases hany
  | float y =>
    cases hany
    obtain ⟨hnearest, hexact⟩ := Double.exact_nearest_exact hfinite
    exact ⟨x.exact, if_pos hfinite, hnearest, hexact.symm⟩
  | text s =>
    rw [toAnyDouble, Double.parse?] at hany
    cases hparse : Numeral.parse? (String.ofList (Text.trim s.toList)) with
    | none =>
      rw [hparse] at hany
      cases hany
    | some numeral =>
      rw [hparse] at hany
      cases hany
      cases numeral with
      | decimal negative digits exponent =>
        refine ⟨_, ?_, Double.exact_ofDecimal hfinite⟩
        rw [number?, hparse]
        rfl
      | infinite negative => cases negative <;> exact absurd hfinite (by decide)
      | nan => exact absurd hfinite (by decide)
  | _ => cases hany

end SignedDistance
