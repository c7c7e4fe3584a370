import Mathlib
import SignedDistance.Number.Double

/-!
# Doubles as rational numbers

The finite doubles are the numbers `± m * 2 ^ e` with `m < 2 ^ 53` and `e` from -1074 to 971
(`Double.OnGrid`). A quotient that is not beyond the largest double is rounded to a nearest one of
them: no number on the grid is closer to it (`Double.ofRatio_nearest`).
-/

namespace SignedDistance

theorem pow2_eq (n : Nat) : pow2 n = 2 ^ n := rfl

theorem pow10_eq (n : Nat) : pow10 n = 10 ^ n := rfl

/-- The number `mantissa * 2 ^ exponent`. -/
def dyadic (mantissa : Nat) (exponent : Int) : ℚ :=
  mantissa * 2 ^ exponent

theorem dyadic_le_dyadic {m n : Nat} {e f : Int} (hm : m ≤ n) (he : e ≤ f) :
    dyadic m e ≤ dyadic n f := by
  have hmantissa : (m : ℚ) ≤ n := by exact_mod_cast hm
  have hpower : (2 : ℚ) ^ e ≤ 2 ^ f := zpow_le_zpow_right₀ (by norm_num) he
  exact mul_le_mul hmantissa hpower (zpow_pos (by norm_num) e).le (Nat.cast_nonneg n)

theorem zpow_eq_div {b : ℚ} (hb : b ≠ 0) (e : Int) : b ^ e = b ^ e.toNat / b ^ (-e).toNat := by
  have hsplit : e = (e.toNat : Int) - ((-e).toNat : Int) := by omega
  conv_lhs => rw [hsplit]
  rw [zpow_sub₀ hb, zpow_natCast, zpow_natCast]

/-- Scaling a quotient by a power of two in natural numbers, as the rounding does it. -/
theorem scaled_quotient (num den : Nat) (e : Int) :
    ((num * pow2 (-e).toNat : Nat) : ℚ) / ((den * pow2 e.toNat : Nat) : ℚ) =
      (num : ℚ) / den / 2 ^ e := by
  rw [zpow_eq_div two_ne_zero, pow2_eq, pow2_eq]
  push_cast
  rw [div_div_div_eq]

namespace Double

/-! ## Bit patterns -/

theorem view_fields (negative : Bool) {biased fraction : Nat} (hb : biased < 2048)
    (hf : fraction < 2 ^ 52) :
    view ⟨UInt64.ofNat ((if negative then pow2 63 else 0) + biased * pow2 52 + fraction)⟩ =
      if biased = 2047 then if fraction = 0 then .infinite negative else .nan
      else if biased = 0 then .finite negative fraction (-1074)
      else .finite negative (fraction + pow2 52) ((biased : Int) - 1075) := by
  have h52 : pow2 52 = 4503599627370496 := rfl
  have h63 : pow2 63 = 9223372036854775808 := rfl
  have h11 : pow2 11 = 2048 := rfl
  have hsize : (if negative then pow2 63 else 0) + biased * pow2 52 + fraction < 2 ^ 64 := by
    rw [h63, h52]
    split <;> omega
  unfold view
  rw [UInt64.toNat_ofNat_of_lt' hsize, h63, h52, h11]
  have hbiased : ((if negative = true then 9223372036854775808 else 0) +
      biased * 4503599627370496 + fraction) / 4503599627370496 % 2048 = biased := by
    split <;> omega
  have hfraction : ((if negative = true then 9223372036854775808 else 0) +
      biased * 4503599627370496 + fraction) % 4503599627370496 = fraction := by
    split <;> omega
  have hnegative : decide (9223372036854775808 ≤
      (if negative = true then 9223372036854775808 else 0) + biased * 4503599627370496 + fraction) =
        negative := by
    cases negative
    · simp; omega
    · simp; omega
  simp only [hbiased, hfraction, hnegative]

/-- The mantissas and exponents of finite doubles. -/
structure OnGrid (mantissa : Nat) (exponent : Int) : Prop where
  mantissa_lt : mantissa < 2 ^ 53
  least_le : -1074 ≤ exponent
  le_greatest : exponent ≤ 971

theorem onGrid_of_view {x : Double} {negative : Bool} {mantissa : Nat} {exponent : Int}
    (h : x.view = .finite negative mantissa exponent) : OnGrid mantissa exponent := by
  have h52 : pow2 52 = 4503599627370496 := rfl
  have h11 : pow2 11 = 2048 := rfl
  unfold view at h
  rw [h52, h11] at h
  dsimp only at h
  split at h
  · split at h <;> cases h
  · split at h
    · cases h
      exact ⟨by omega, by omega, by omega⟩
    · cases h
      exact ⟨by omega, by omega, by omega⟩

/-- No number on the grid is beyond the largest double. -/
theorem OnGrid.dyadic_le {m : Nat} {e : Int} (h : OnGrid m e) :
    dyadic m e ≤ dyadic (2 ^ 53 - 1) 971 :=
  dyadic_le_dyadic (Nat.le_sub_one_of_lt h.mantissa_lt) h.le_greatest

/-- A packed number is read back as the same number, though its mantissa may have carried. -/
theorem view_pack (negative : Bool) {m : Nat} {e : Int} (hm : m ≤ 2 ^ 53)
    (hnormal : 2 ^ 52 ≤ m ∨ e = -1074) (hleast : -1074 ≤ e) (hgreatest : e ≤ 971)
    (hfits : m < 2 ^ 53 ∨ e < 971) :
    ∃ m' e', (pack negative m e).view = .finite negative m' e' ∧ dyadic m' e' = dyadic m e := by
  have h52 : pow2 52 = 4503599627370496 := rfl
  by_cases hsmall : m < 2 ^ 52
  · -- a number below the least normal one
    have he : e = -1074 := by omega
    subst he
    refine ⟨m, -1074, ?_, rfl⟩
    exact view_fields negative (by norm_num : 0 < 2048) hsmall
  · by_cases hcarry : m < 2 ^ 53
    · refine ⟨m, e, ?_, rfl⟩
      have hview := @view_fields negative ((e + 1074).toNat + 1) (m - 2 ^ 52) (by omega) (by omega)
      have hbits : (e + 1074).toNat * pow2 52 + m =
          ((e + 1074).toNat + 1) * pow2 52 + (m - 2 ^ 52) := by
        rw [h52]
        omega
      have hmantissa : m - 2 ^ 52 + pow2 52 = m := by omega
      have hexponent : (((e + 1074).toNat + 1 : Nat) : Int) - 1075 = e := by omega
      rw [pack, add_assoc, hbits, ← add_assoc, hview, if_neg (by omega), if_neg (by omega),
        hmantissa, hexponent]
    · -- the mantissa carries into the exponent
      have hm' : m = 2 ^ 53 := by omega
      subst hm'
      refine ⟨2 ^ 52, e + 1, ?_, ?_⟩
      · have hview := @view_fields negative ((e + 1074).toNat + 2) 0 (by omega) (by omega)
        have hbits : (e + 1074).toNat * pow2 52 + 2 ^ 53 =
            ((e + 1074).toNat + 2) * pow2 52 + 0 := by
          rw [h52]
          omega
        have hexponent : (((e + 1074).toNat + 2 : Nat) : Int) - 1075 = e + 1 := by omega
        rw [pack, add_assoc, hbits, ← add_assoc, hview, if_neg (by omega), if_neg (by omega),
          hexponent, zero_add, pow2_eq]
      · rw [dyadic, dyadic, zpow_add₀ (by norm_num)]
        norm_num
        ring

theorem view_zero (negative : Bool) : (zero negative).view = .finite negative 0 (-1074) :=
  view_fields negative (by norm_num : 0 < 2048) (by norm_num : 0 < 2 ^ 52)

/-- The exact value of a double, zero if it is not finite. -/
def exact (x : Double) : ℚ :=
  match x.view with
  | .finite negative m e => (if negative then -1 else 1) * dyadic m e
  | _ => 0

theorem dyadic_nonneg (m : Nat) (e : Int) : 0 ≤ dyadic m e :=
  mul_nonneg (Nat.cast_nonneg m) (zpow_pos (by norm_num) e).le

theorem abs_exact {x : Double} {negative : Bool} {m : Nat} {e : Int}
    (h : x.view = .finite negative m e) : |x.exact| = dyadic m e := by
  have hnonneg := dyadic_nonneg m e
  rw [exact, h]
  cases negative with
  | false =>
    show |1 * dyadic m e| = _
    rw [one_mul, abs_of_nonneg hnonneg]
  | true =>
    show |-1 * dyadic m e| = _
    rw [neg_one_mul, abs_neg, abs_of_nonneg hnonneg]

/-- A double is below zero if it has the sign and is not zero. -/
theorem exact_neg_iff {x : Double} {negative : Bool} {m : Nat} {e : Int}
    (h : x.view = .finite negative m e) : x.exact < 0 ↔ (negative && m != 0) = true := by
  have hpower : (0 : ℚ) < 2 ^ e := zpow_pos (by norm_num) e
  rw [exact, h]
  cases negative with
  | false =>
    have hnonneg := dyadic_nonneg m e
    simp [not_lt.mpr hnonneg]
  | true => simp [dyadic, hpower, Nat.pos_iff_ne_zero]

/-! ## Rounding -/

theorem abs_sub_div_le_half {M num den : Nat} (hden : 0 < den)
    (hlow : 2 * num ≤ 2 * (M * den) + den) (hhigh : 2 * (M * den) ≤ 2 * num + den) :
    |(M : ℚ) - num / den| ≤ 1 / 2 := by
  have hdenq : (0 : ℚ) < den := by exact_mod_cast hden
  have hlow' : (2 * num : ℚ) ≤ 2 * (M * den) + den := by exact_mod_cast hlow
  have hhigh' : (2 * (M * den) : ℚ) ≤ 2 * num + den := by exact_mod_cast hhigh
  have hsub : (M : ℚ) - num / den = (M * den - num) / den := by field_simp
  rw [hsub, abs_le]
  constructor
  · rw [le_div_iff₀ hdenq]
    linarith
  · rw [div_le_iff₀ hdenq]
    linarith

theorem abs_divNearestEven_sub_le (num : Nat) {den : Nat} (hden : 0 < den) :
    |(divNearestEven num den : ℚ) - num / den| ≤ 1 / 2 := by
  have hnum : num = num / den * den + num % den := (Nat.div_add_mod' num den).symm
  have hmod : num % den < den := Nat.mod_lt _ hden
  have hdown : 2 * (num % den) ≤ den → |((num / den : Nat) : ℚ) - num / den| ≤ 1 / 2 :=
    fun h => abs_sub_div_le_half hden (by omega) (by omega)
  have hup : den ≤ 2 * (num % den) → |((num / den + 1 : Nat) : ℚ) - num / den| ≤ 1 / 2 := by
    intro h
    have hproduct : (num / den + 1) * den = num / den * den + den := by ring
    exact abs_sub_div_le_half hden (by omega) (by omega)
  unfold divNearestEven
  dsimp only
  split
  · exact hdown (by omega)
  · split
    · exact hup (by omega)
    · -- a tie goes to the even neighbour, and both are near enough
      rcases Nat.mod_two_eq_zero_or_one (num / den) with heven | hodd
      · rw [heven]
        exact hdown (by omega)
      · rw [hodd]
        exact hup (by omega)

/-- An integer within one half of a number is a nearest one. -/
theorem abs_sub_le_of_le_half {M : Int} {x : ℚ} (h : |(M : ℚ) - x| ≤ 1 / 2) (k : Int) :
    |(M : ℚ) - x| ≤ |(k : ℚ) - x| := by
  by_cases hk : k = M
  · rw [hk]
  · have hone : (1 : ℚ) ≤ |(M : ℚ) - k| := by
      have : (1 : Int) ≤ |M - k| := Int.one_le_abs (sub_ne_zero.mpr (Ne.symm hk))
      exact_mod_cast this
    have htriangle : |(M : ℚ) - k| ≤ |(M : ℚ) - x| + |(k : ℚ) - x| := by
      rw [abs_sub_comm (k : ℚ) x]
      exact abs_sub_le _ _ _
    linarith

theorem binade_spec {num den : Nat} (hnum : 0 < num) (hden : 0 < den) :
    (2 : ℚ) ^ 52 ≤ (num : ℚ) / den / 2 ^ binade num den ∧
      (num : ℚ) / den / 2 ^ binade num den < 2 ^ 53 := by
  have hdenq : (0 : ℚ) < den := by exact_mod_cast hden
  have hnlow : (2 : ℚ) ^ num.log2 ≤ num := by exact_mod_cast Nat.log2_self_le hnum.ne'
  have hnhigh : (num : ℚ) < 2 ^ (num.log2 + 1) := by exact_mod_cast Nat.lt_log2_self
  have hdlow : (2 : ℚ) ^ den.log2 ≤ den := by exact_mod_cast Nat.log2_self_le hden.ne'
  have hdhigh : (den : ℚ) < 2 ^ (den.log2 + 1) := by exact_mod_cast Nat.lt_log2_self
  set guess : Int := (num.log2 : Int) - den.log2 - 52 with hguess
  have hpos : (0 : ℚ) < 2 ^ guess := zpow_pos (by norm_num) _
  have hpower : (2 : ℚ) ^ guess * 2 ^ 52 * 2 ^ den.log2 = 2 ^ num.log2 := by
    have : (2 : ℚ) ^ guess * 2 ^ (52 : Int) * 2 ^ (den.log2 : Int) = 2 ^ (num.log2 : Int) := by
      rw [← zpow_add₀ (by norm_num), ← zpow_add₀ (by norm_num)]
      congr 1
      omega
    exact_mod_cast this
  -- the quotient lies within a factor of two of the guess, on either side
  have hlow : (2 : ℚ) ^ 51 * 2 ^ guess < (num : ℚ) / den := by
    rw [lt_div_iff₀ hdenq]
    calc (2 : ℚ) ^ 51 * 2 ^ guess * den < 2 ^ 51 * 2 ^ guess * 2 ^ (den.log2 + 1) := by gcongr
      _ = 2 ^ guess * 2 ^ 52 * 2 ^ den.log2 := by ring
      _ = 2 ^ num.log2 := hpower
      _ ≤ num := hnlow
  have hhigh : (num : ℚ) / den < 2 ^ 53 * 2 ^ guess := by
    rw [div_lt_iff₀ hdenq]
    calc (num : ℚ) < 2 ^ (num.log2 + 1) := hnhigh
      _ = 2 * (2 ^ guess * 2 ^ 52 * 2 ^ den.log2) := by rw [hpower]; ring
      _ = 2 ^ 53 * 2 ^ guess * 2 ^ den.log2 := by ring
      _ ≤ 2 ^ 53 * 2 ^ guess * den := by gcongr
  have htest : num * pow2 (-guess).toNat < den * pow2 guess.toNat * pow2 52 ↔
      (num : ℚ) / den / 2 ^ guess < 2 ^ 52 := by
    have h52 : (2 : ℚ) ^ 52 = (pow2 52 : Nat) := by norm_num [pow2]
    rw [← scaled_quotient, div_lt_iff₀ (by rw [pow2_eq]; positivity), h52, ← Nat.cast_mul,
      Nat.cast_lt, mul_comm (pow2 52)]
  unfold binade
  simp only [← hguess, htest]
  split
  · next hless =>
    have hhalf : (2 : ℚ) ^ (guess - 1) = 2 ^ guess / 2 := by
      rw [zpow_sub_one₀ (by norm_num)]
      rfl
    rw [hhalf]
    rw [div_lt_iff₀ hpos] at hless
    constructor
    · rw [le_div_iff₀ (by positivity)]
      linarith
    · rw [div_lt_iff₀ (by positivity)]
      linarith
  · next hless =>
    refine ⟨not_lt.mp hless, ?_⟩
    rwa [div_lt_iff₀ hpos]

/-- The exponent to which a quotient is rounded. -/
def roundingExponent (num den : Nat) : Int :=
  max (-1074) (binade num den)

/-- Every number on the grid is a multiple of the unit of rounding or lies below the binade of the
quotient, whose least number is such a multiple. -/
theorem nearest_on_grid {num den : Nat} (hnum : 0 < num) (hden : 0 < den) {M : Nat}
    (hM : |(M : ℚ) - (num : ℚ) / den / 2 ^ roundingExponent num den| ≤ 1 / 2)
    {m : Nat} {e : Int} (hgrid : OnGrid m e) :
    |dyadic M (roundingExponent num den) - (num : ℚ) / den| ≤ |dyadic m e - (num : ℚ) / den| := by
  set E := roundingExponent num den with hE
  have hpos : (0 : ℚ) < 2 ^ E := zpow_pos (by norm_num) _
  have hscale : ∀ k : ℚ, |k * 2 ^ E - (num : ℚ) / den| =
      |k - (num : ℚ) / den / 2 ^ E| * 2 ^ E := by
    intro k
    rw [← abs_of_pos hpos, ← abs_mul, abs_of_pos hpos, sub_mul, div_mul_cancel₀ _ hpos.ne']
  -- no multiple of the unit is nearer
  have hmultiple : ∀ k : Int, |dyadic M E - (num : ℚ) / den| ≤ |k * 2 ^ E - (num : ℚ) / den| := by
    intro k
    rw [dyadic, hscale, hscale]
    have := abs_sub_le_of_le_half (M := M) (by exact_mod_cast hM) k
    exact mul_le_mul_of_nonneg_right (by exact_mod_cast this) hpos.le
  by_cases he : E ≤ e
  · have hsame : dyadic m e = ((m * 2 ^ (e - E).toNat : Int) : ℚ) * 2 ^ E := by
      have hsplit : e = ((e - E).toNat : Int) + E := by omega
      rw [dyadic]
      conv_lhs => rw [hsplit, zpow_add₀ (by norm_num), zpow_natCast]
      push_cast
      ring
    rw [hsame]
    exact hmultiple _
  · -- below the binade: its least number lies between
    have hbinade : binade num den = E := by
      have := hgrid.least_le
      have hEdef : E = max (-1074) (binade num den) := hE
      omega
    have hleast : (2 : ℚ) ^ 52 * 2 ^ E ≤ (num : ℚ) / den := by
      have := (binade_spec hnum hden).1
      rw [hbinade, le_div_iff₀ hpos] at this
      exact this
    have hbelow : dyadic m e ≤ 2 ^ 52 * 2 ^ E := by
      have hm : (m : ℚ) ≤ 2 ^ 53 := by exact_mod_cast hgrid.mantissa_lt.le
      have hpow : (2 : ℚ) ^ e ≤ 2 ^ (E - 1) := zpow_le_zpow_right₀ (by norm_num) (by omega)
      have hhalf : (2 : ℚ) ^ (E - 1) = 2 ^ E / 2 := by
        rw [zpow_sub_one₀ (by norm_num)]
        rfl
      calc dyadic m e ≤ 2 ^ 53 * (2 ^ E / 2) := by
            rw [dyadic, ← hhalf]
            gcongr
        _ = 2 ^ 52 * 2 ^ E := by ring
    have hnear := hmultiple (2 ^ 52 : Nat)
    rw [Int.cast_natCast, Nat.cast_pow, Nat.cast_ofNat,
      abs_of_nonpos (by linarith : (2 : ℚ) ^ 52 * 2 ^ E - num / den ≤ 0)] at hnear
    rw [abs_of_nonpos (by linarith : dyadic m e - (num : ℚ) / den ≤ 0)]
    linarith

/-- Quotients that round to a finite double: those less than half a unit above the largest one. -/
def maxRounded : ℚ :=
  (2 ^ 53 - 1 / 2) * 2 ^ (971 : Int)

/-- The mantissa to which a quotient is rounded. It may have carried. -/
def roundedMantissa (num den : Nat) : Nat :=
  divNearestEven (num * pow2 (-roundingExponent num den).toNat)
    (den * pow2 (roundingExponent num den).toNat)

theorem ofRatio_eq (negative : Bool) {num : Nat} (hnum : 0 < num) (den : Nat) :
    ofRatio negative num den =
      if 971 < roundingExponent num den then infinity negative
      else pack negative (roundedMantissa num den) (roundingExponent num den) :=
  if_neg hnum.ne'

theorem abs_roundedMantissa_sub_le (num : Nat) {den : Nat} (hden : 0 < den) :
    |(roundedMantissa num den : ℚ) - (num : ℚ) / den / 2 ^ roundingExponent num den| ≤ 1 / 2 := by
  rw [← scaled_quotient]
  exact abs_divNearestEven_sub_le _ (by rw [pow2_eq]; positivity)

section Quotient

variable {num den : Nat} (hnum : 0 < num) (hden : 0 < den)
include hnum hden

theorem quotient_lt : (num : ℚ) / den / 2 ^ roundingExponent num den < 2 ^ 53 := by
  have hhigh := (binade_spec hnum hden).2
  have hpos : (0 : ℚ) < 2 ^ roundingExponent num den := zpow_pos (by norm_num) _
  have hbinadePos : (0 : ℚ) < 2 ^ binade num den := zpow_pos (by norm_num) _
  rw [div_lt_iff₀ hpos]
  rw [div_lt_iff₀ hbinadePos] at hhigh
  refine lt_of_lt_of_le hhigh ?_
  gcongr
  · norm_num
  · exact le_max_right _ _

theorem roundedMantissa_le : roundedMantissa num den ≤ 2 ^ 53 := by
  have hquotient := quotient_lt hnum hden
  have hhalf := (abs_le.mp (abs_roundedMantissa_sub_le num hden)).2
  have : (roundedMantissa num den : ℚ) < 2 ^ 53 + 1 := by linarith
  have : roundedMantissa num den < 2 ^ 53 + 1 := by exact_mod_cast this
  omega

/-- A rounded mantissa is one of a double, unless it has carried beyond the largest one. -/
theorem view_rounded (negative : Bool) (hmax : roundingExponent num den ≤ 971)
    (hfits : roundedMantissa num den < 2 ^ 53 ∨ roundingExponent num den < 971) :
    ∃ m e, (ofRatio negative num den).view = .finite negative m e ∧
      dyadic m e = dyadic (roundedMantissa num den) (roundingExponent num den) := by
  have hlow := (binade_spec hnum hden).1
  have hhalf := (abs_le.mp (abs_roundedMantissa_sub_le num hden)).1
  have hEdef : roundingExponent num den = max (-1074) (binade num den) := rfl
  have hnormal : 2 ^ 52 ≤ roundedMantissa num den ∨ roundingExponent num den = -1074 := by
    by_cases hleast : roundingExponent num den = -1074
    · exact Or.inr hleast
    · left
      have hbinade : binade num den = roundingExponent num den := by omega
      rw [hbinade] at hlow
      have : (2 : ℚ) ^ 52 < (roundedMantissa num den + 1 : Nat) := by push_cast; linarith
      have : 2 ^ 52 < roundedMantissa num den + 1 := by exact_mod_cast this
      omega
  rw [ofRatio_eq negative hnum, if_neg (not_lt.mpr hmax)]
  exact view_pack negative (roundedMantissa_le hnum hden) hnormal (by omega) hmax hfits

/-- A quotient that is rounded to a finite double is rounded to a nearest one: no number on the grid
is nearer to it. -/
theorem ofRatio_nearest_of_fits (negative : Bool) (hmax : roundingExponent num den ≤ 971)
    (hfits : roundedMantissa num den < 2 ^ 53 ∨ roundingExponent num den < 971) :
    ∃ m e, (ofRatio negative num den).view = .finite negative m e ∧
      ∀ m' e', OnGrid m' e' →
        |dyadic m e - (num : ℚ) / den| ≤ |dyadic m' e' - (num : ℚ) / den| := by
  obtain ⟨m, e, hview, hvalue⟩ := view_rounded hnum hden negative hmax hfits
  refine ⟨m, e, hview, fun m' e' hgrid => ?_⟩
  rw [hvalue]
  exact nearest_on_grid hnum hden (abs_roundedMantissa_sub_le num hden) hgrid

/-- A quotient that is not beyond the largest double is rounded to a finite one, and no number on
the grid is nearer to it. -/
theorem ofRatio_nearest (negative : Bool) (hrange : (num : ℚ) / den < maxRounded) :
    ∃ m e, (ofRatio negative num den).view = .finite negative m e ∧
      ∀ m' e', OnGrid m' e' →
        |dyadic m e - (num : ℚ) / den| ≤ |dyadic m' e' - (num : ℚ) / den| := by
  have hlow := (binade_spec hnum hden).1
  have hbinadePos : (0 : ℚ) < 2 ^ binade num den := zpow_pos (by norm_num) _
  have hEdef : roundingExponent num den = max (-1074) (binade num den) := rfl
  -- the binade is one of those that doubles have
  have hmax : roundingExponent num den ≤ 971 := by
    by_contra hbig
    have hbinade : (972 : Int) ≤ binade num den := by omega
    have hle : (2 : ℚ) ^ 52 * 2 ^ (972 : Int) ≤ (num : ℚ) / den := by
      rw [le_div_iff₀ hbinadePos] at hlow
      refine le_trans ?_ hlow
      gcongr
      norm_num
    have hsplit : (2 : ℚ) ^ (972 : Int) = 2 * 2 ^ (971 : Int) := by
      rw [show (972 : Int) = 1 + 971 by norm_num, zpow_add₀ (by norm_num)]
      rfl
    have hunit : (0 : ℚ) < 2 ^ (971 : Int) := zpow_pos (by norm_num) _
    rw [hsplit] at hle
    have hmax : (2 ^ 53 - 1 / 2) * (2 : ℚ) ^ (971 : Int) < 2 ^ 52 * (2 * 2 ^ (971 : Int)) := by
      generalize (2 : ℚ) ^ (971 : Int) = unit at hunit
      linarith
    exact absurd (lt_of_lt_of_le (lt_of_lt_of_le hmax hle) hrange.le) (lt_irrefl _)
  have hfits : roundedMantissa num den < 2 ^ 53 ∨ roundingExponent num den < 971 := by
    by_cases htop : roundingExponent num den < 971
    · exact Or.inr htop
    · left
      have hE971 : roundingExponent num den = 971 := by omega
      have hhalf := (abs_le.mp (abs_roundedMantissa_sub_le num hden)).2
      have hpos : (0 : ℚ) < 2 ^ roundingExponent num den := zpow_pos (by norm_num) _
      rw [maxRounded, ← hE971, ← div_lt_iff₀ hpos] at hrange
      have : (roundedMantissa num den : ℚ) < 2 ^ 53 := by linarith
      exact_mod_cast this
  exact ofRatio_nearest_of_fits hnum hden negative hmax hfits

/-- The same for a quotient of which it is known that the result is finite. -/
theorem ofRatio_nearest_of_isFinite (negative : Bool)
    (hfinite : (ofRatio negative num den).isFinite = true) :
    ∃ m e, (ofRatio negative num den).view = .finite negative m e ∧
      ∀ m' e', OnGrid m' e' →
        |dyadic m e - (num : ℚ) / den| ≤ |dyadic m' e' - (num : ℚ) / den| := by
  have hmax : roundingExponent num den ≤ 971 := by
    by_contra hbig
    rw [ofRatio_eq negative hnum, if_pos (not_le.mp hbig)] at hfinite
    cases negative <;> exact absurd hfinite (by decide)
  have hMle := roundedMantissa_le hnum hden
  refine ofRatio_nearest_of_fits hnum hden negative hmax ?_
  by_contra hcarried
  have hM : roundedMantissa num den = 2 ^ 53 := by omega
  have hE : roundingExponent num den = 971 := by omega
  rw [ofRatio_eq negative hnum, if_neg (not_lt.mpr hmax), hM, hE] at hfinite
  cases negative <;> exact absurd hfinite (by decide)

end Quotient

end Double

end SignedDistance
