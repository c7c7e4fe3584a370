import Mathlib
import SignedDistance.Number.Fixed
import SignedDistance.Number.Numeral
import SignedDistance.Proofs.Atomic

/-!
# Texts of decimal numbers

A decimal number is written positionally or with an exponent. Either way its text is a numeral with
the same sign, digits and exponent, and has no blanks around it (`Decimal.parse?_text`). Both
layouts are digits, a point with more digits if there are any, and perhaps an exponent
(`Decimal.unsignedChars_eq`).
-/

namespace SignedDistance

open Text

/-! ## Digits -/

theorem isDigit_toNat_lt {c : Char} (h : c.isDigit = true) : c.toNat < 128 := by
  rw [isDigit_iff] at h
  omega

theorem digitValue?_of_isDigit {c : Char} (h : c.isDigit = true) :
    digitValue? c = some (c.toNat - '0'.toNat) := by
  rw [digitValue?, if_pos (isDigit_toNat_lt h), if_pos h]

namespace Numeral

/-- The values of the characters of a run of digits. -/
def values (ds : List Char) : List Nat :=
  ds.map fun c => c.toNat - '0'.toNat

/-- A text that does not go on with a digit. -/
def Stops (cs : List Char) : Prop :=
  ∀ c ∈ cs.head?, digitValue? c = none ∧ c ≠ '_'

@[simp] theorem stops_nil : Stops [] := by simp [Stops]

theorem stops_point (cs : List Char) : Stops ('.' :: cs) := by
  intro c hc
  cases hc
  decide

theorem digitRun_of_stops {rest : List Char} (h : Stops rest) : digitRun rest = ([], rest) := by
  cases rest with
  | nil => rfl
  | cons c cs => rw [digitRun, (h c rfl).1]

theorem digitRun_append {ds rest : List Char} (hds : ∀ c ∈ ds, c.isDigit = true)
    (hrest : Stops rest) : digitRun (ds ++ rest) = (values ds, rest) := by
  induction ds with
  | nil => exact digitRun_of_stops hrest
  | cons d ds ih =>
    have hd := digitValue?_of_isDigit (hds d (by simp))
    have ih := ih fun c hc => hds c (by simp [hc])
    -- no underscore follows: neither a digit nor the rest starts with one
    have hunderscore : ∀ cs, ds ++ rest ≠ '_' :: cs := by
      intro cs hcs
      cases ds with
      | nil =>
        rw [List.nil_append] at hcs
        exact (hrest '_' (by rw [hcs]; rfl)).2 rfl
      | cons d' ds' =>
        rw [List.cons_append, List.cons.injEq] at hcs
        have hdigit := hds d' (by simp)
        rw [hcs.1] at hdigit
        exact absurd hdigit (by decide)
    rw [List.cons_append, digitRun, hd]
    dsimp only
    split
    · next cs hcs => exact absurd hcs (hunderscore cs)
    · rw [ih]
      rfl

theorem ofDigits_values (ds : List Char) : ofDigits (values ds) = Nat.ofDigitChars 10 ds 0 := by
  rw [ofDigits, values, List.foldl_map, Nat.ofDigitChars_eq_foldl]

theorem values_isEmpty {ds : List Char} (h : IsDigits ds) : (values ds).isEmpty = false := by
  obtain ⟨d, rest, rfl⟩ := List.exists_cons_of_ne_nil h.1
  rfl

theorem digitRun_of_isDigits {ds : List Char} (h : IsDigits ds) :
    ∃ n ns, digitRun ds = (n :: ns, []) ∧ ofDigits (n :: ns) = Nat.ofDigitChars 10 ds 0 := by
  have hrun := digitRun_append h.2 stops_nil
  have hvalue := ofDigits_values ds
  rw [List.append_nil] at hrun
  obtain ⟨d, rest, rfl⟩ := List.exists_cons_of_ne_nil h.1
  exact ⟨_, _, hrun, hvalue⟩

theorem isDigits_toDigits (n : Nat) : IsDigits (Nat.toDigits 10 n) :=
  ⟨Nat.toDigits_ne_nil, fun _ hc => Nat.isDigit_of_mem_toDigits (by norm_num) (by norm_num) hc⟩

/-- The digits after a point, with the point; nothing if there are none. -/
def pointed (es : List Char) : List Char :=
  if es = [] then [] else '.' :: es

theorem fraction_of_head {cs : List Char} (h : '.' ∉ cs.head?) : fraction cs = ([], cs) := by
  unfold fraction
  split
  · next rest => exact absurd rfl h
  · rfl

/-- Digits, a point if there are more of them, and what follows a mantissa. -/
theorem unsigned?_pointed (negative : Bool) {ds es rest : List Char} {n : Int} (hds : IsDigits ds)
    (hes : ∀ c ∈ es, c.isDigit = true) (hstops : Stops rest) (hpoint : '.' ∉ rest.head?)
    (hexponent : exponent? rest = some n) :
    unsigned? negative (ds ++ (pointed es ++ rest)) =
      some (.decimal negative (Nat.ofDigitChars 10 (ds ++ es) 0) (n - es.length)) := by
  have hempty := values_isEmpty hds
  have hsplit : values ds ++ values es = values (ds ++ es) := (List.map_append).symm
  unfold pointed
  split
  · next hnone =>
    subst hnone
    simp only [unsigned?, List.nil_append, digitRun_append hds.2 hstops, fraction_of_head hpoint,
      hempty, Bool.false_and, hexponent, Option.map_some, List.append_nil, ofDigits_values]
    simp
  · simp only [unsigned?, List.cons_append, digitRun_append hds.2 (stops_point _), fraction,
      digitRun_append hes hstops, hempty, Bool.false_and, hexponent, Option.map_some, hsplit,
      ofDigits_values]
    simp [values]

/-- A digit or a point is no sign. -/
theorem sign_of_head {d : Char} (rest : List Char) (hd : d.isDigit = true ∨ d = '.') :
    sign (d :: rest) = (false, d :: rest) := by
  have hminus : d ≠ '-' := by
    rintro rfl
    exact absurd hd (by decide)
  have hplus : d ≠ '+' := by
    rintro rfl
    exact absurd hd (by decide)
  simp [sign, hminus, hplus]

/-- A written exponent is read back. -/
theorem exponent?_signed (n : Int) : exponent? ('E' :: Decimal.signed n) = some n := by
  obtain ⟨d, ds, hrun, hvalue⟩ := digitRun_of_isDigits (isDigits_toDigits n.natAbs)
  rw [Nat.ofDigitChars_ten_toDigits] at hvalue
  unfold Decimal.signed
  split
  · next hneg =>
    have habs : (n.natAbs : Int) = -n := by omega
    simp [exponent?, sign, hrun, hvalue, habs]
  · next hpos =>
    have habs : (n.natAbs : Int) = n := by omega
    simp [exponent?, sign, hrun, hvalue, habs]

end Numeral

theorem isBlank_eq_false {c : Char} (hlow : 32 < c.toNat) (hhigh : c.toNat < 128) :
    isBlank c = false := by
  by_contra hblank
  have := toNat_of_isBlank (Bool.not_eq_false _ ▸ hblank)
  omega

theorem isBlank_of_isDigit {c : Char} (h : c.isDigit = true) : isBlank c = false := by
  rw [isDigit_iff] at h
  exact isBlank_eq_false (by omega) (by omega)

theorem toLower_of_isDigit {c : Char} (h : c.isDigit = true) : c.toLower = c := by
  rw [isDigit_iff] at h
  rw [Char.toLower, dif_neg]
  simp only [ge_iff_le, UInt32.le_iff_toNat_le, not_and, not_le]
  intro hupper
  have : 65 ≤ c.toNat := hupper
  omega

/-- Nothing is cut off at the ends of a text without blanks. -/
theorem trim_of_not_isBlank {cs : List Char} (h : ∀ c ∈ cs, isBlank c = false) :
    trim cs = cs ∧ Numeral.withoutMargins cs = cs := by
  have hdrop : ∀ (p : Char → Bool) (ds : List Char), (∀ c ∈ ds, p c = false) →
      ds.dropWhile p = ds := by
    intro p ds hds
    cases ds with
    | nil => rfl
    | cons d ds => exact List.dropWhile_cons_of_neg (by simp [hds d (by simp)])
  have hmargin : ∀ c ∈ cs, Numeral.isMargin c = false := by
    intro c hc
    simp [Numeral.isMargin, h c hc]
  constructor
  · rw [trim, hdrop _ cs h, hdrop _ cs.reverse (by simpa using h), List.reverse_reverse]
  · rw [Numeral.withoutMargins, hdrop _ cs hmargin, hdrop _ cs.reverse (by simpa using hmargin),
      List.reverse_reverse]

/-- What starts with a digit or a point is none of the words for infinity and not-a-number. -/
theorem Numeral.parse?_of_head {text : String} {negative : Bool} {d : Char} {rest : List Char}
    (hsign : sign (withoutMargins text.toList) = (negative, d :: rest))
    (hd : d.isDigit = true ∨ d = '.') : parse? text = unsigned? negative (d :: rest) := by
  have hlower : d.toLower = d := by
    rcases hd with hd | rfl
    · exact toLower_of_isDigit hd
    · rfl
  have hword : ∀ (c : Char) (cs : List Char), c.isDigit = false ∧ c ≠ '.' →
      (String.ofList ((d :: rest).map Char.toLower) == String.ofList (c :: cs)) = false := by
    rintro c cs ⟨hdigit, hpoint⟩
    rw [beq_eq_false_iff_ne]
    intro heq
    have hlists := congrArg String.toList heq
    rw [String.toList_ofList, String.toList_ofList, List.map_cons, hlower] at hlists
    obtain rfl := (List.cons.inj hlists).1
    rcases hd with hd | hd
    · rw [hd] at hdigit
      cases hdigit
    · exact hpoint hd
  have hinf := hword 'i' ['n', 'f'] (by decide)
  have hinfinity := hword 'i' ['n', 'f', 'i', 'n', 'i', 't', 'y'] (by decide)
  have hnan := hword 'n' ['a', 'n'] (by decide)
  rw [parse?, hsign]
  dsimp only
  rw [if_neg, if_neg]
  · exact (Bool.eq_false_iff.mp hnan)
  · rw [Bool.or_eq_true, not_or]
    exact ⟨Bool.eq_false_iff.mp hinf, Bool.eq_false_iff.mp hinfinity⟩

namespace Decimal

theorem head_toDigits {n : Nat} (hn : 0 < n) : (Nat.toDigits 10 n).head? ≠ some '0' := by
  induction n using Nat.strong_induction_on with
  | _ n ih =>
    by_cases hsmall : n < 10
    · rw [Nat.toDigits_of_lt_base hsmall]
      interval_cases n <;> decide
    · rw [Nat.toDigits_of_base_le (by norm_num) (by omega),
        List.head?_append_of_ne_nil _ Nat.toDigits_ne_nil]
      exact ih (n / 10) (by omega) (by omega)

/-- The first digits of a number do not start with a zero, except the zero itself. -/
theorem head_of_prefix_toDigits {n : Nat} {ds : List Char} (h : ds <+: Nat.toDigits 10 n)
    (hne : ds ≠ []) : ds = ['0'] ∨ ds.head? ≠ some '0' := by
  obtain ⟨d, rest, rfl⟩ := List.exists_cons_of_ne_nil hne
  obtain ⟨more, hdigits⟩ := h
  rcases Nat.eq_zero_or_pos n with rfl | hn
  · rw [Nat.toDigits_zero, List.cons_append, List.cons.injEq] at hdigits
    obtain ⟨rfl, hnil⟩ := hdigits
    rw [(List.append_eq_nil_iff.mp hnil).1]
    exact Or.inl rfl
  · right
    have hhead := head_toDigits hn
    rw [← hdigits] at hhead
    exact hhead

/-- The layout of digits with a point: all of them in their order, of which those after the point
are the ones beyond `left`. A part before the point that is made up is a single zero. -/
theorem placePoint_eq {digits : List Char} (hdigits : IsDigits digits) {left : Int}
    (hleft : left ≤ digits.length) :
    ∃ ds es, placePoint digits left = ds ++ Numeral.pointed es ∧ IsDigits ds ∧
      (∀ c ∈ es, c.isDigit = true) ∧
      Nat.ofDigitChars 10 (ds ++ es) 0 = Nat.ofDigitChars 10 digits 0 ∧
      (es.length : Int) = digits.length - left ∧ (ds = ['0'] ∨ ds <+: digits) := by
  obtain ⟨hne, hdigit⟩ := hdigits
  have hpointed : ∀ {es : List Char}, es ≠ [] → Numeral.pointed es = '.' :: es := fun h => if_neg h
  unfold placePoint
  split
  · next hsmall =>
    set zeros := List.replicate (-left).toNat '0'
    refine ⟨['0'], zeros ++ digits, ?_, ⟨by simp, by simp⟩, ?_, ?_, ?_, Or.inl rfl⟩
    · rw [hpointed (by simp [hne])]
      rfl
    · refine List.forall_mem_append.mpr ⟨fun c hc => ?_, hdigit⟩
      rw [List.eq_of_mem_replicate hc]
      rfl
    · have hzeros : Nat.ofDigitChars 10 zeros 0 = 0 := by
        rw [Nat.ofDigitChars_replicate_zero, mul_zero]
      rw [List.singleton_append, Nat.ofDigitChars_cons, Nat.ofDigitChars_append]
      exact congrArg (Nat.ofDigitChars 10 digits) hzeros
    · simp only [List.length_append, zeros, List.length_replicate]
      omega
  · split
    · next hlarge =>
      have hnone : left.toNat - digits.length = 0 := by omega
      refine ⟨digits, [], ?_, ⟨hne, hdigit⟩, by simp, by simp, ?_, Or.inr List.prefix_rfl⟩
      · rw [hnone]
        rfl
      · rw [List.length_nil]
        omega
    · next hpos hinside =>
      have hlength : (digits.drop left.toNat).length = digits.length - left.toNat :=
        List.length_drop
      refine ⟨digits.take left.toNat, digits.drop left.toNat, ?_, ⟨?_, ?_⟩, ?_, ?_, ?_,
        Or.inr (List.take_prefix _ _)⟩
      · rw [hpointed (List.ne_nil_of_length_pos (by omega))]
      · rw [Ne, List.take_eq_nil_iff, not_or]
        exact ⟨by omega, hne⟩
      · exact fun c hc => hdigit c (List.mem_of_mem_take hc)
      · exact fun c hc => hdigit c (List.mem_of_mem_drop hc)
      · rw [List.take_append_drop]
      · omega

/-- The layout of a decimal number without its sign: digits, more of them after a point, and an
exponent if it is not written positionally. -/
theorem unsignedChars_eq (x : Decimal) :
    ∃ ds es rest n, x.unsignedChars = ds ++ (Numeral.pointed es ++ rest) ∧ IsDigits ds ∧
      (∀ c ∈ es, c.isDigit = true) ∧ Nat.ofDigitChars 10 (ds ++ es) 0 = x.coefficient ∧
      n - (es.length : Int) = x.exponent ∧ Numeral.exponent? rest = some n ∧
      (rest = [] ∨ rest = 'E' :: signed n) := by
  have hdigits := Numeral.isDigits_toDigits x.coefficient
  have hlength : 0 < (Nat.toDigits 10 x.coefficient).length := Nat.length_toDigits_pos
  have hvalue : Nat.ofDigitChars 10 (Nat.toDigits 10 x.coefficient) 0 = x.coefficient :=
    Nat.ofDigitChars_ten_toDigits
  unfold unsignedChars
  generalize Nat.toDigits 10 x.coefficient = digits at hdigits hlength hvalue ⊢
  dsimp only
  split
  · next hpositional =>
    obtain ⟨ds, es, hplaced, hds, hes, hsame, hcount, -⟩ :=
      @placePoint_eq digits hdigits (x.exponent + digits.length) (by omega)
    refine ⟨ds, es, [], 0, ?_, hds, hes, hsame.trans hvalue, by omega, rfl, Or.inl rfl⟩
    rw [hplaced, List.append_nil]
  · next hscientific =>
    obtain ⟨ds, es, hplaced, hds, hes, hsame, hcount, -⟩ :=
      @placePoint_eq digits hdigits 1 (by omega)
    refine ⟨ds, es, _, _, ?_, hds, hes, hsame.trans hvalue, ?_, Numeral.exponent?_signed
      (x.exponent + digits.length - 1), Or.inr rfl⟩
    · rw [if_neg (by omega), hplaced, List.append_assoc]
    · omega

/-- With up to six places there is a point and no exponent, and the part before the point has no
zero in front unless it is that zero alone. -/
theorem unsignedChars_of_places {x : Decimal} (hleast : -6 ≤ x.exponent) (hneg : x.exponent < 0) :
    ∃ ds es, x.unsignedChars = ds ++ '.' :: es ∧ IsDigits ds ∧
      (ds = ['0'] ∨ ds.head? ≠ some '0') ∧ (∀ c ∈ es, c.isDigit = true) ∧
      (es.length : Int) = -x.exponent := by
  have hlength : 0 < (Nat.toDigits 10 x.coefficient).length := Nat.length_toDigits_pos
  obtain ⟨ds, es, hplaced, hds, hes, -, hcount, hfront⟩ :=
    @placePoint_eq _ (Numeral.isDigits_toDigits x.coefficient)
      (x.exponent + (Nat.toDigits 10 x.coefficient).length) (by omega)
  have hpoint : Numeral.pointed es = '.' :: es :=
    if_neg (List.ne_nil_of_length_pos (by omega))
  have hchars : x.unsignedChars = placePoint (Nat.toDigits 10 x.coefficient)
      (x.exponent + (Nat.toDigits 10 x.coefficient).length) :=
    if_pos ⟨hneg.le, by omega⟩
  refine ⟨ds, es, by rw [hchars, hplaced, hpoint], hds, ?_, hes, by omega⟩
  rcases hfront with hzero | hprefix
  · exact Or.inl hzero
  · exact head_of_prefix_toDigits hprefix hds.1

theorem isBlank_signed {n : Int} : ∀ c ∈ signed n, isBlank c = false := by
  refine List.forall_mem_cons.mpr ⟨?_, fun c hc => ?_⟩
  · split <;> decide
  · exact isBlank_of_isDigit ((Numeral.isDigits_toDigits _).2 c hc)

theorem head_text (x : Decimal) : x.text.toList.head? = some '-' ↔ x.negative = true := by
  obtain ⟨ds, es, rest, n, hchars, hds, -⟩ := x.unsignedChars_eq
  obtain ⟨d, more, rfl⟩ := List.exists_cons_of_ne_nil hds.1
  have hd : d.isDigit = true := hds.2 d (by simp)
  rw [text, String.toList_ofList, hchars]
  cases x.negative with
  | true => simp
  | false =>
    have hminus : d ≠ '-' := by
      rintro rfl
      exact absurd hd (by decide)
    simp [hminus]

/-- The text of a decimal number is read back digit by digit. -/
theorem parse?_text (x : Decimal) :
    trim x.text.toList = x.text.toList ∧
      Numeral.parse? x.text = some (.decimal x.negative x.coefficient x.exponent) := by
  obtain ⟨ds, es, rest, n, hchars, hds, hes, hvalue, hpower, hexponent, hrest⟩ :=
    x.unsignedChars_eq
  have htext : x.text.toList =
      (if x.negative then ['-'] else []) ++ (ds ++ (Numeral.pointed es ++ rest)) := by
    rw [text, String.toList_ofList, hchars]
  have hblank : ∀ c ∈ x.text.toList, isBlank c = false := by
    rw [htext]
    refine List.forall_mem_append.mpr ⟨?_, List.forall_mem_append.mpr ⟨?_,
      List.forall_mem_append.mpr ⟨?_, ?_⟩⟩⟩
    · cases x.negative
      · simp
      · exact List.forall_mem_singleton.mpr (by decide)
    · exact fun c hc => isBlank_of_isDigit (hds.2 c hc)
    · unfold Numeral.pointed
      split
      · simp
      · exact List.forall_mem_cons.mpr ⟨by decide, fun c hc => isBlank_of_isDigit (hes c hc)⟩
    · rcases hrest with rfl | rfl
      · simp
      · exact List.forall_mem_cons.mpr ⟨by decide, isBlank_signed⟩
  have hstops : Numeral.Stops rest ∧ '.' ∉ rest.head? := by
    rcases hrest with rfl | rfl
    · exact ⟨Numeral.stops_nil, by simp⟩
    · refine ⟨?_, by simp⟩
      intro c hc
      cases hc
      decide
  obtain ⟨htrim, hmargins⟩ := trim_of_not_isBlank hblank
  have hunsigned := Numeral.unsigned?_pointed x.negative hds hes hstops.1 hstops.2 hexponent
  rw [hvalue, hpower] at hunsigned
  obtain ⟨d, more, rfl⟩ : ∃ d more, ds = d :: more := List.exists_cons_of_ne_nil hds.1
  have hd : d.isDigit = true := hds.2 d (by simp)
  have hsign : Numeral.sign (Numeral.withoutMargins x.text.toList) =
      (x.negative, d :: (more ++ (Numeral.pointed es ++ rest))) := by
    rw [hmargins, htext]
    cases x.negative with
    | true => rfl
    | false => exact Numeral.sign_of_head _ (Or.inl hd)
  exact ⟨htrim, (Numeral.parse?_of_head hsign (Or.inl hd)).trans hunsigned⟩

end Decimal

end SignedDistance
