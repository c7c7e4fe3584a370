import Mathlib
import SignedDistance.Expression.Token

/-!
# Tokens of concatenated texts

`lex` forgets the places of the scanned tokens. The main result, `lex_append`, says when a text can
be cut in two and each part scanned on its own: no token may reach over the cut. A name or a number
goes on with letters, digits and underscores, an exponent also with a sign, and a number without a
point also with a point; all other tokens are single characters.
-/

namespace SignedDistance

open Text

/-! ## Classes of characters by code point -/

theorem isDigit_iff {c : Char} : c.isDigit = true ↔ 48 ≤ c.toNat ∧ c.toNat ≤ 57 := by
  simp [Char.isDigit, UInt32.le_iff_toNat_le]

theorem isIdentStart_iff {c : Char} : isIdentStart c = true ↔
    (65 ≤ c.toNat ∧ c.toNat ≤ 90) ∨ (97 ≤ c.toNat ∧ c.toNat ≤ 122) ∨ c.toNat = 95 := by
  simp [isIdentStart, Char.isAlpha, Char.isUpper, Char.isLower, UInt32.le_iff_toNat_le,
    ← Char.toNat_inj, or_assoc]

theorem isIdentChar_iff {c : Char} :
    isIdentChar c = true ↔ isIdentStart c = true ∨ c.isDigit = true := by
  simp only [isIdentChar, isIdentStart, Char.isAlphanum, Bool.or_eq_true]
  tauto

/-- No digit starts a name. -/
theorem not_isIdentStart_of_isDigit {c : Char} (h : c.isDigit = true) : isIdentStart c = false := by
  rw [isDigit_iff] at h
  by_contra hs
  rw [Bool.not_eq_false, isIdentStart_iff] at hs
  omega

theorem isSpace_iff {c : Char} : Token.isSpace c = true ↔
    c.toNat = 32 ∨ c.toNat = 9 ∨ c.toNat = 10 ∨ c.toNat = 13 ∨ c.toNat = 12 := by
  simp [Token.isSpace, ← Char.toNat_inj, or_assoc]

/-! ## Scanning without places -/

/-- The tokens of a whole text; `none` if the scanner gets stuck. -/
def lex (afterOperand : Bool) (cs : List Char) : Option (List Token) :=
  let scanned := scan afterOperand .start cs
  if scanned.stuck = none then some (scanned.tokens.map Prod.fst) else none

/-- The tokens, and whether the scanner gets stuck, do not depend on where the text starts. -/
theorem scan_place (flag : Bool) (p q : Position) (cs : List Char) :
    (scan flag p cs).tokens.map Prod.fst = (scan flag q cs).tokens.map Prod.fst ∧
      ((scan flag p cs).stuck = none ↔ (scan flag q cs).stuck = none) := by
  induction flag, p, cs using scan.induct generalizing q with
  | case1 flag p => simp [scan]
  | case2 flag p c cs hc ih =>
    rw [scan, scan, if_pos hc, if_pos hc]
    exact ih (q.after c)
  | case3 flag p c cs hc hnext => simp [scan, hc, hnext]
  | case4 flag p c cs hc token extra hnext ih =>
    rw [scan, scan, if_neg hc, if_neg hc, hnext]
    obtain ⟨htokens, hstuck⟩ := ih ⟨q.line, q.column + extra + 1⟩
    exact ⟨by simp [htokens], hstuck⟩

/-- The place from which a text is scanned can be chosen freely. -/
theorem lex_eq_scan (flag : Bool) (p : Position) (cs : List Char) :
    lex flag cs = if (scan flag p cs).stuck = none then some ((scan flag p cs).tokens.map Prod.fst)
      else none := by
  obtain ⟨htokens, hstuck⟩ := scan_place flag .start p cs
  rw [lex]
  simp only [htokens, hstuck]

@[simp] theorem lex_nil (flag : Bool) : lex flag [] = some [] := by
  simp [lex, scan]

theorem lex_space {flag : Bool} {c : Char} {cs : List Char} (hc : Token.isSpace c = true) :
    lex flag (c :: cs) = lex flag cs := by
  rw [lex, scan, if_pos hc, lex_eq_scan flag (Position.start.after c) cs]

theorem lex_stuck {flag : Bool} {c : Char} {cs : List Char} (hc : ¬ Token.isSpace c = true)
    (hnext : Token.next? flag c cs = none) : lex flag (c :: cs) = none := by
  simp [lex, scan, hc, hnext]

theorem lex_token {flag : Bool} {c : Char} {cs : List Char} {token : Token} {extra : Nat}
    (hc : ¬ Token.isSpace c = true) (hnext : Token.next? flag c cs = some (token, extra)) :
    lex flag (c :: cs) = (lex token.endsOperand (cs.drop extra)).map (token :: ·) := by
  rw [lex, scan, if_neg hc, hnext,
    lex_eq_scan token.endsOperand ⟨Position.start.line, Position.start.column + extra + 1⟩]
  by_cases h : (scan token.endsOperand ⟨Position.start.line, Position.start.column + extra + 1⟩
      (cs.drop extra)).stuck = none
  · simp [h]
  · simp [h]

/-- Induction along the scanner: a blank is skipped, the scanner is stuck, or it takes a token. -/
theorem lex_induction {motive : Bool → List Char → Prop} (nil : ∀ flag, motive flag [])
    (space : ∀ flag c cs, Token.isSpace c = true → motive flag cs → motive flag (c :: cs))
    (stuck : ∀ flag c cs, ¬ Token.isSpace c = true → Token.next? flag c cs = none →
      motive flag (c :: cs))
    (token : ∀ flag c cs token extra, ¬ Token.isSpace c = true →
      Token.next? flag c cs = some (token, extra) →
      motive token.endsOperand (cs.drop extra) → motive flag (c :: cs))
    (flag : Bool) (cs : List Char) : motive flag cs :=
  scan.induct (fun flag _ cs => motive flag cs) (fun flag _ => nil flag)
    (fun flag _ c cs => space flag c cs) (fun flag _ c cs => stuck flag c cs)
    (fun flag _ c cs hc t extra => token flag c cs t extra hc) flag .start cs

/-! ## Characters after which no token goes on -/

/-- Whether a text starts, if at all, with a character that goes on no name and no exponent. A point
is among these characters; it can only go on a number. -/
def Breaks (cs : List Char) : Prop :=
  ∀ c ∈ cs.head?, isIdentChar c = false ∧ c ≠ '+' ∧ c ≠ '-'

theorem breaks_cons {c : Char} {cs : List Char} :
    Breaks (c :: cs) ↔ isIdentChar c = false ∧ c ≠ '+' ∧ c ≠ '-' := by
  simp [Breaks]

/-- A run of characters that all satisfy `p` ends where a text starts with a character that does
not. -/
theorem takeWhile_append_of_head {p : Char → Bool} (xs : List Char) {ys : List Char}
    (h : ∀ c ∈ ys.head?, p c = false) : (xs ++ ys).takeWhile p = xs.takeWhile p := by
  have hys : ys.takeWhile p = [] := by
    cases ys with
    | nil => rfl
    | cons c cs => exact List.takeWhile_cons_of_neg (by simp [h c (by simp)])
  rw [List.takeWhile_append, hys, List.append_nil]
  split
  · next hlen => exact (List.IsPrefix.eq_of_length ( List.takeWhile_prefix p) hlen).symm
  · rfl

namespace Token

theorem digits_append (xs : List Char) {ys : List Char} (h : Breaks ys) :
    digits (xs ++ ys) = digits xs := by
  refine takeWhile_append_of_head xs fun c hc => ?_
  by_contra hd
  have hident := isIdentChar_iff.mpr (Or.inr (by simpa using hd))
  simp [(h c hc).1] at hident

theorem digits_isPrefix (cs : List Char) : digits cs <+: cs :=
  List.takeWhile_prefix _

theorem exponent_append (xs : List Char) {ys : List Char} (h : Breaks ys) :
    exponent (xs ++ ys) = exponent xs := by
  cases xs with
  | nil =>
    cases ys with
    | nil => rfl
    | cons c cs =>
      have hc : ¬ (c == 'e' || c == 'E') = true := by
        intro he
        have hident := (breaks_cons.mp h).1
        rcases (by simpa using he : c = 'e' ∨ c = 'E') with rfl | rfl <;>
          exact absurd hident (by decide)
      simp [exponent, hc]
  | cons mark xs =>
    cases xs with
    | nil =>
      cases ys with
      | nil => rfl
      | cons c cs =>
        obtain ⟨hident, hplus, hminus⟩ := breaks_cons.mp h
        have hdigits : digits (c :: cs) = [] := digits_append [] h
        simp [exponent, hplus, hminus, hdigits]
    | cons c xs =>
      have hrest : digits (xs ++ ys) = digits xs := digits_append xs h
      have hall : digits (c :: (xs ++ ys)) = digits (c :: xs) := digits_append (c :: xs) h
      simp only [List.cons_append, exponent, hrest, hall]

theorem mantissa_isPrefix (cs : List Char) : mantissa cs <+: cs := by
  have hwhole : cs = digits cs ++ cs.drop (digits cs).length :=
    List.prefix_iff_eq_append.mp (digits_isPrefix cs) |>.symm
  simp only [mantissa]
  split
  · next rest hrest =>
    split
    · exact List.nil_prefix
    · have hpart := List.prefix_iff_eq_append.mp (digits_isPrefix rest)
      refine ⟨rest.drop (digits rest).length, ?_⟩
      rw [hrest] at hwhole
      conv_rhs => rw [hwhole, ← hpart]
      simp
  · exact digits_isPrefix cs

/-- A point goes on the number before it only if this number has digits and nothing else. -/
theorem mantissa_append (xs : List Char) {ys : List Char} (h : Breaks ys)
    (hpoint : ys.head? = some '.' → ¬ xs.all Char.isDigit = true) :
    mantissa (xs ++ ys) = mantissa xs := by
  have hdrop : (xs ++ ys).drop (digits xs).length = xs.drop (digits xs).length ++ ys :=
    List.drop_append_of_le_length (digits_isPrefix xs).length_le
  unfold mantissa
  rw [digits_append xs h]
  simp only [hdrop]
  cases hrest : xs.drop (digits xs).length with
  | cons c rest =>
    by_cases hc : c = '.'
    · subst hc
      simp [digits_append rest h]
    · simp [hc]
  | nil =>
    -- The digits reach to the end, so that only a point could follow them.
    have hall : xs.all Char.isDigit = true := by
      have hxs : digits xs = xs :=
        (digits_isPrefix xs).eq_of_length (Nat.le_antisymm (digits_isPrefix xs).length_le
          (List.drop_eq_nil_iff.mp hrest))
      rw [← hxs]
      simp [digits]
    cases ys with
    | nil => simp
    | cons c cs =>
      have hc : c ≠ '.' := by
        rintro rfl
        exact hpoint rfl hall
      simp [hc]

theorem numeral_append (xs : List Char) {ys : List Char} (h : Breaks ys)
    (hpoint : ys.head? = some '.' → ¬ xs.all Char.isDigit = true) :
    numeral (xs ++ ys) = numeral xs := by
  have hdrop : (xs ++ ys).drop (mantissa xs).length = xs.drop (mantissa xs).length ++ ys :=
    List.drop_append_of_le_length (mantissa_isPrefix xs).length_le
  simp only [numeral, mantissa_append xs h hpoint, hdrop, exponent_append _ h]

theorem numeral_of_all_digits {cs : List Char} (h : cs.all Char.isDigit = true) :
    numeral cs = cs := by
  have hdigits : digits cs = cs := List.takeWhile_eq_self_iff.mpr (by simpa using h)
  have hmantissa : mantissa cs = cs := by simp [mantissa, hdigits]
  cases cs with
  | nil => rfl
  | cons c cs => simp [numeral, hmantissa, exponent]

theorem next?_append {flag : Bool} {c : Char} {cs ys : List Char} (h : Breaks ys)
    (hpoint : ys.head? = some '.' → ¬ (c :: cs).all Char.isDigit = true) :
    next? flag c (cs ++ ys) = next? flag c cs := by
  have htail : (cs ++ ys).takeWhile isIdentChar = cs.takeWhile isIdentChar :=
    takeWhile_append_of_head cs fun c hc => (h c hc).1
  have hnumeral : numeral (c :: (cs ++ ys)) = numeral (c :: cs) :=
    numeral_append (c :: cs) h hpoint
  simp only [next?, htail, hnumeral]

/-- A text of digits is a single number. -/
theorem next?_of_all_digits {flag : Bool} {c : Char} {cs : List Char}
    (h : (c :: cs).all Char.isDigit = true) :
    next? flag c cs = some (number (String.ofList (c :: cs)), cs.length) := by
  have hc : c.isDigit = true := by
    rw [List.all_cons, Bool.and_eq_true] at h
    exact h.1
  have hdot : (flag && c == '.') = false := by
    have : c ≠ '.' := by rintro rfl; exact absurd hc (by decide)
    simp [this]
  simp [next?, not_isIdentStart_of_isDigit hc, hdot, numeral_of_all_digits h]

theorem sign_of_ofSign? {c : Char} {token : Token} (h : ofSign? c = some token) :
    c = '+' ∨ c = '-' ∨ c = '*' ∨ c = '/' ∨ c = '.' ∨ c = ',' ∨ c = '(' ∨ c = ')' := by
  unfold ofSign? at h
  grind

/-- The sign tokens other than the point never depend on what surrounds them. -/
theorem next?_of_ofSign? {flag : Bool} {c : Char} {cs : List Char} {token : Token}
    (h : ofSign? c = some token) (hdot : flag = true ∨ c ≠ '.') :
    next? flag c cs = some (token, 0) := by
  rcases sign_of_ofSign? h with rfl | rfl | rfl | rfl | rfl | rfl | rfl | rfl
  all_goals simp_all [next?, numeral, mantissa, digits, isIdentStart_iff, ofSign?]

theorem exponent_isPrefix (cs : List Char) : exponent cs <+: cs := by
  cases cs with
  | nil => exact List.nil_prefix
  | cons mark cs =>
    cases cs with
    | nil => simp [exponent]
    | cons c rest =>
      simp only [exponent]
      split_ifs
      · exact List.nil_prefix
      · exact List.cons_prefix_cons.mpr ⟨rfl, List.cons_prefix_cons.mpr ⟨rfl, digits_isPrefix rest⟩⟩
      · exact List.nil_prefix
      · exact List.cons_prefix_cons.mpr ⟨rfl, digits_isPrefix (c :: rest)⟩
      · exact List.nil_prefix

theorem numeral_isPrefix (cs : List Char) : numeral cs <+: cs := by
  simp only [numeral]
  split_ifs
  · exact List.nil_prefix
  · obtain ⟨rest, hrest⟩ := mantissa_isPrefix cs
    have hdrop : cs.drop (mantissa cs).length = rest := by
      have hleft : (mantissa cs ++ rest).drop (mantissa cs).length = rest := List.drop_left
      rwa [hrest] at hleft
    obtain ⟨tail, htail⟩ := exponent_isPrefix rest
    refine ⟨tail, ?_⟩
    rw [hdrop, List.append_assoc, htail, hrest]

/-- The token at the front of a text is a name, a number or a sign, made of the characters that it
takes from the text. -/
theorem next?_cases {flag : Bool} {c : Char} {cs : List Char} {token : Token} {extra : Nat}
    (h : next? flag c cs = some (token, extra)) :
    (isIdentStart c = true ∧ cs.take extra = cs.takeWhile isIdentChar ∧
      token = name (String.ofList (c :: cs.take extra))) ∨
    (c :: cs.take extra = numeral (c :: cs) ∧ token = number (String.ofList (c :: cs.take extra))) ∨
    (extra = 0 ∧ ofSign? c = some token) := by
  have htail : cs.take (cs.takeWhile isIdentChar).length = cs.takeWhile isIdentChar :=
    (List.prefix_iff_eq_take.mp ( List.takeWhile_prefix _)).symm
  have hnumeral : numeral (c :: cs) ≠ [] →
      c :: cs.take ((numeral (c :: cs)).length - 1) = numeral (c :: cs) := by
    intro hne
    have hlen : (numeral (c :: cs)).length - 1 + 1 = (numeral (c :: cs)).length := by
      have := List.length_pos_iff.mpr hne
      omega
    rw [← List.take_succ_cons, hlen]
    exact (List.prefix_iff_eq_take.mp (numeral_isPrefix (c :: cs))).symm
  simp only [next?] at h
  split at h
  · next hident =>
    simp only [Option.some.injEq, Prod.mk.injEq] at h
    obtain ⟨rfl, rfl⟩ := h
    exact Or.inl ⟨hident, htail, by rw [htail]⟩
  · have hsign : (ofSign? c).map (fun token => (token, 0)) = some (token, extra) →
        extra = 0 ∧ ofSign? c = some token := by
      intro hmap
      obtain ⟨t, ht, heq⟩ := Option.map_eq_some_iff.mp hmap
      simp only [Prod.mk.injEq] at heq
      exact ⟨heq.2.symm, by rw [ht, heq.1]⟩
    split at h
    · exact Or.inr (Or.inr (hsign (by simpa using h)))
    · split at h
      · exact Or.inr (Or.inr (hsign h))
      · next hempty =>
        simp only [Option.some.injEq, Prod.mk.injEq] at h
        obtain ⟨rfl, rfl⟩ := h
        have htake := hnumeral (by simpa using hempty)
        exact Or.inr (Or.inl ⟨htake, by rw [htake]⟩)

/-- A token is no longer than the text. -/
theorem next?_extra_le {flag : Bool} {c : Char} {cs : List Char} {token : Token} {extra : Nat}
    (h : next? flag c cs = some (token, extra)) : extra ≤ cs.length := by
  have hlength := (numeral_isPrefix (c :: cs)).length_le
  simp only [next?] at h
  split_ifs at h with hident hdot hempty
  all_goals simp at h
  · rw [← h.2]
    exact ( List.takeWhile_prefix _).length_le
  all_goals grind

theorem isDigit_of_mem_digits {c : Char} {cs : List Char} (h : c ∈ digits cs) : c.isDigit = true :=
  List.mem_takeWhile_imp h

/-- The characters of a number. -/
theorem mem_numeral {c : Char} {cs : List Char} (h : c ∈ numeral cs) :
    c.isDigit = true ∨ c = '.' ∨ c = 'e' ∨ c = 'E' ∨ c = '+' ∨ c = '-' := by
  have hmantissa : ∀ {c : Char}, c ∈ mantissa cs → c.isDigit = true ∨ c = '.' := by
    intro c hc
    simp only [mantissa] at hc
    split at hc
    · next rest hrest =>
      split at hc
      · simp at hc
      · rcases List.mem_append.mp hc with hc | hc
        · exact Or.inl (isDigit_of_mem_digits hc)
        · rcases List.mem_cons.mp hc with rfl | hc
          · exact Or.inr rfl
          · exact Or.inl (isDigit_of_mem_digits hc)
    · exact Or.inl (isDigit_of_mem_digits hc)
  have hexponent : ∀ {c : Char} {cs : List Char}, c ∈ exponent cs →
      c.isDigit = true ∨ c = 'e' ∨ c = 'E' ∨ c = '+' ∨ c = '-' := by
    intro c cs hc
    have hdigits : ∀ ds, c ∈ digits ds → c.isDigit = true := fun _ => isDigit_of_mem_digits
    unfold exponent at hc
    grind
  simp only [numeral] at h
  split at h
  · simp at h
  · rcases List.mem_append.mp h with h | h
    · rcases hmantissa h with h | h <;> simp [h]
    · rcases hexponent h with h | h | h | h | h <;> simp [h]

end Token

/-! ## Cutting a text in two -/

/-- Whether a token is a number that has digits and nothing else. -/
def Token.isInteger : Token → Bool
  | .number text => text.toList.all Char.isDigit
  | _ => false

/-- Whether an operand has just ended after some tokens, given whether one had before them. -/
def flagAfter (flag : Bool) (ts : List Token) : Bool :=
  (ts.getLast?.map Token.endsOperand).getD flag

theorem flagAfter_cons (flag : Bool) (t : Token) (ts : List Token) :
    flagAfter flag (t :: ts) = flagAfter t.endsOperand ts := by
  cases ts with
  | nil => rfl
  | cons u us =>
    rw [flagAfter, flagAfter, List.getLast?_cons_cons, List.getLast?_eq_some_getLast (by simp)]
    rfl

theorem flagAfter_append (flag : Bool) (ts us : List Token) :
    flagAfter flag (ts ++ us) = flagAfter (flagAfter flag ts) us := by
  induction ts generalizing flag with
  | nil => rfl
  | cons t ts ih => rw [List.cons_append, flagAfter_cons, ih, flagAfter_cons]

/-- Two texts can be scanned one after the other if no token reaches over the cut: the second text
breaks off names and exponents, and if it starts with a point, then the first one does not end with
a number that the point would go on. -/
theorem lex_append {flag : Bool} {xs ys : List Char} (h : Breaks ys)
    (hpoint : ys.head? = some '.' →
      ∀ ts, lex flag xs = some ts → ∀ t ∈ ts.getLast?, t.isInteger = false) :
    lex flag (xs ++ ys) =
      (lex flag xs).bind fun ts => (lex (flagAfter flag ts) ys).map (ts ++ ·) := by
  induction flag, xs using lex_induction with
  | nil flag => simp [flagAfter]
  | space flag c cs hc ih =>
    rw [lex_space hc] at hpoint ⊢
    rw [List.cons_append, lex_space hc, ih hpoint]
  | stuck flag c cs hc hnext =>
    have hdigits : ¬ (c :: cs).all Char.isDigit = true := by
      intro hall
      rw [Token.next?_of_all_digits hall] at hnext
      exact absurd hnext (by simp)
    rw [List.cons_append, lex_stuck hc hnext, lex_stuck hc]
    · rfl
    · rw [Token.next?_append h fun _ => hdigits, hnext]
  | token flag c cs token extra hc hnext ih =>
    have hdigits : ys.head? = some '.' → ¬ (c :: cs).all Char.isDigit = true := by
      intro hhead hall
      have hnumber : Token.next? flag c cs = some _ := Token.next?_of_all_digits hall
      have hlex : lex flag (c :: cs) = some [.number (String.ofList (c :: cs))] := by
        simp [lex_token hc hnumber]
      have hinteger : Token.isInteger (.number (String.ofList (c :: cs))) = false :=
        hpoint hhead _ hlex _ rfl
      rw [Token.isInteger, String.toList_ofList, hall] at hinteger
      exact absurd hinteger (by simp)
    have hle := Token.next?_extra_le hnext
    have hnext' : Token.next? flag c (cs ++ ys) = some (token, extra) := by
      rw [Token.next?_append h hdigits, hnext]
    rw [lex_token hc hnext] at hpoint ⊢
    rw [List.cons_append, lex_token hc hnext', List.drop_append_of_le_length hle, ih]
    · cases lex token.endsOperand (cs.drop extra) with
      | none => rfl
      | some ts => simp [flagAfter_cons, Function.comp_def]
    · intro hhead ts hts t ht
      refine hpoint hhead (token :: ts) (by simp [hts]) t ?_
      cases ts with
      | nil => simp at ht
      | cons u us => simpa using ht

/-! ## Texts of single tokens -/

/-- Whether a text is a name: a letter or an underscore, then letters, digits and underscores. -/
def isIdentifier (text : String) : Bool :=
  match text.toList with
  | [] => false
  | c :: cs => isIdentStart c && cs.all isIdentChar

/-- At least one digit, and nothing else. -/
def IsDigits (cs : List Char) : Prop :=
  cs ≠ [] ∧ ∀ c ∈ cs, c.isDigit = true

/-- Digits with at most one point among them. -/
inductive IsMantissa : List Char → Prop where
  /-- Digits alone. -/
  | whole {ds : List Char} (h : IsDigits ds) : IsMantissa ds
  /-- Digits, a point and perhaps more digits. -/
  | point {ds es : List Char} (h : IsDigits ds) (he : ∀ c ∈ es, c.isDigit = true) :
      IsMantissa (ds ++ '.' :: es)
  /-- A point and digits. -/
  | fraction {es : List Char} (h : IsDigits es) : IsMantissa ('.' :: es)

theorem IsMantissa.ne_nil {m : List Char} (h : IsMantissa m) : m ≠ [] := by
  cases h with
  | whole hds => exact hds.1
  | point hds hes => simp
  | fraction hes => simp

theorem IsMantissa.isDigit_or_point {m : List Char} (h : IsMantissa m) :
    ∀ c ∈ m, c.isDigit = true ∨ c = '.' := by
  intro c hc
  cases h with
  | whole hds => exact Or.inl (hds.2 c hc)
  | point hds hes =>
    rcases List.mem_append.mp hc with hc | hc
    · exact Or.inl (hds.2 c hc)
    · rcases List.mem_cons.mp hc with rfl | hc
      · exact Or.inr rfl
      · exact Or.inl (hes c hc)
  | fraction hes =>
    rcases List.mem_cons.mp hc with rfl | hc
    · exact Or.inr rfl
    · exact Or.inl (hes.2 c hc)

/-- Nothing, or an exponent with a mark, perhaps a sign, and digits. -/
inductive IsExponent : List Char → Prop where
  /-- No exponent. -/
  | none : IsExponent []
  /-- An exponent without a sign. -/
  | unsigned {mark : Char} {ds : List Char} (hm : mark = 'e' ∨ mark = 'E') (h : IsDigits ds) :
      IsExponent (mark :: ds)
  /-- An exponent with a sign. -/
  | signed {mark sign : Char} {ds : List Char} (hm : mark = 'e' ∨ mark = 'E')
      (hs : sign = '+' ∨ sign = '-') (h : IsDigits ds) : IsExponent (mark :: sign :: ds)

/-- Whether a text is an unsigned number. -/
def IsNumber (text : String) : Prop :=
  ∃ m x, IsMantissa m ∧ IsExponent x ∧ text.toList = m ++ x

namespace Token

theorem digits_append_of_digits {ds cs : List Char} (h : ∀ c ∈ ds, c.isDigit = true)
    (hcs : ∀ c ∈ cs.head?, c.isDigit = false) : digits (ds ++ cs) = ds := by
  rw [digits, takeWhile_append_of_head ds hcs]
  exact List.takeWhile_eq_self_iff.mpr h

theorem exponent_of_isExponent {cs : List Char} (h : IsExponent cs) : exponent cs = cs := by
  have hself : ∀ ds : List Char, IsDigits ds → digits ds = ds := fun ds hds =>
    List.takeWhile_eq_self_iff.mpr hds.2
  cases h with
  | none => rfl
  | @unsigned mark ds hm hds =>
    obtain ⟨hne, hall⟩ := hds
    cases ds with
    | nil => exact absurd rfl hne
    | cons d ds =>
      have hdigit : d.isDigit = true := hall d (by simp)
      have hd : d ≠ '+' ∧ d ≠ '-' := by
        constructor <;> rintro rfl <;> exact absurd hdigit (by decide)
      rcases hm with rfl | rfl <;> simp [exponent, hd, hself (d :: ds) ⟨hne, hall⟩]
  | @signed mark sign ds hm hs hds =>
    rcases hm with rfl | rfl <;> rcases hs with rfl | rfl <;>
      simp [exponent, hself ds hds, hds.1]

/-- An exponent does not start like the digits or the point of a number. -/
theorem head_of_isExponent {cs : List Char} (h : IsExponent cs) :
    ∀ c ∈ cs.head?, c.isDigit = false ∧ c ≠ '.' := by
  cases h with
  | none => simp
  | unsigned hm hds => rcases hm with rfl | rfl <;> simp
  | signed hm hs hds => rcases hm with rfl | rfl <;> simp

theorem mantissa_of_isMantissa {m x : List Char} (h : IsMantissa m)
    (hx : ∀ c ∈ x.head?, c.isDigit = false ∧ c ≠ '.') : mantissa (m ++ x) = m := by
  have hdigit : ∀ c ∈ x.head?, c.isDigit = false := fun c hc => (hx c hc).1
  cases h with
  | whole hds =>
    have hdigits := digits_append_of_digits hds.2 hdigit
    simp only [mantissa, hdigits, List.drop_left]
    cases x with
    | nil => rfl
    | cons c cs => simp [(hx c rfl).2]
  | @point ds es hds hes =>
    have hwhole : digits (ds ++ '.' :: (es ++ x)) = ds :=
      digits_append_of_digits hds.2 (by simp)
    have hpart := digits_append_of_digits hes hdigit
    simp [mantissa, hwhole, hpart, hds.1]
  | @fraction es hes =>
    have hwhole : digits ('.' :: (es ++ x)) = [] := by simp [digits]
    have hpart := digits_append_of_digits hes.2 hdigit
    simp [mantissa, hwhole, hpart, hes.1]

theorem numeral_of_isNumber {text : String} (h : IsNumber text) :
    numeral text.toList = text.toList := by
  obtain ⟨m, x, hm, hx, htext⟩ := h
  have hmantissa := mantissa_of_isMantissa hm (head_of_isExponent hx)
  simp [htext, numeral, hmantissa, hm.ne_nil, exponent_of_isExponent hx]

/-- A number starts with a digit or a point. -/
theorem head_of_isNumber {text : String} (h : IsNumber text) :
    ∃ c cs, text.toList = c :: cs ∧ (c.isDigit = true ∨ c = '.') := by
  obtain ⟨m, x, hm, hx, htext⟩ := h
  rw [htext]
  cases hm with
  | whole hds =>
    cases m with
    | nil => exact absurd rfl hds.1
    | cons d ds => exact ⟨d, ds ++ x, rfl, Or.inl (hds.2 d (by simp))⟩
  | @point ds es hds hes =>
    cases ds with
    | nil => exact absurd rfl hds.1
    | cons d ds => exact ⟨d, ds ++ '.' :: es ++ x, rfl, Or.inl (hds.2 d (by simp))⟩
  | @fraction es hes => exact ⟨'.', es ++ x, rfl, Or.inr rfl⟩

end Token

/-- A name is read to its end. -/
theorem lex_name {flag : Bool} {c : Char} {cs : List Char} (hc : isIdentStart c = true) :
    lex flag (c :: cs) = (lex true (cs.dropWhile isIdentChar)).map
      (.name (String.ofList (c :: cs.takeWhile isIdentChar)) :: ·) := by
  have hspace : ¬ Token.isSpace c = true := by
    rw [isIdentStart_iff] at hc
    rw [isSpace_iff]
    omega
  have hnext : Token.next? flag c cs = some (.name (String.ofList (c :: cs.takeWhile isIdentChar)),
      (cs.takeWhile isIdentChar).length) := by
    simp [Token.next?, hc]
  have hdrop : cs.drop (cs.takeWhile isIdentChar).length = cs.dropWhile isIdentChar := by
    have hleft : (cs.takeWhile isIdentChar ++ cs.dropWhile isIdentChar).drop
        (cs.takeWhile isIdentChar).length = cs.dropWhile isIdentChar := List.drop_left
    rwa [List.takeWhile_append_dropWhile] at hleft
  rw [lex_token hspace hnext, hdrop]
  rfl

theorem lex_identifier {flag : Bool} {text : String} (h : isIdentifier text = true) :
    lex flag text.toList = some [.name text] := by
  unfold isIdentifier at h
  cases htext : text.toList with
  | nil => simp [htext] at h
  | cons c cs =>
    simp only [htext, Bool.and_eq_true] at h
    obtain ⟨hc, hcs⟩ := h
    have htake : cs.takeWhile isIdentChar = cs :=
      List.takeWhile_eq_self_iff.mpr (by simpa using hcs)
    have hdrop : cs.dropWhile isIdentChar = [] :=
      List.dropWhile_eq_nil_iff.mpr (by simpa using hcs)
    rw [lex_name hc, htake, hdrop, ← htext, String.ofList_toList, lex_nil]
    rfl

/-- A number is read to its end, and an operand has ended there. -/
theorem lex_numeral {c : Char} {cs rest : List Char} (hc : c.isDigit = true ∨ c = '.')
    (h : Token.numeral (c :: cs ++ rest) = c :: cs) :
    lex false (c :: cs ++ rest) = (lex true rest).map (.number (String.ofList (c :: cs)) :: ·) := by
  have hc' : ¬ Token.isSpace c = true ∧ isIdentStart c = false := by
    rcases hc with hc | rfl
    · refine ⟨?_, not_isIdentStart_of_isDigit hc⟩
      rw [isDigit_iff] at hc
      rw [isSpace_iff]
      omega
    · decide
  rw [List.cons_append] at h ⊢
  have hnext : Token.next? false c (cs ++ rest) =
      some (.number (String.ofList (c :: cs)), cs.length) := by
    simp [Token.next?, hc'.2, h]
  rw [lex_token hc'.1 hnext, List.drop_left]
  rfl

theorem lex_number {text : String} (h : IsNumber text) :
    lex false text.toList = some [.number text] := by
  obtain ⟨c, cs, htext, hc⟩ := Token.head_of_isNumber h
  have hnumeral := Token.numeral_of_isNumber h
  rw [htext] at hnumeral
  have hlex := @lex_numeral c cs [] hc (by rw [List.append_nil, hnumeral])
  rw [List.append_nil, ← htext, String.ofList_toList, lex_nil] at hlex
  exact hlex

/-- A sign is a token of its own wherever it stands; a point only after an operand. -/
theorem lex_sign {flag : Bool} {c : Char} {cs : List Char} {token : Token}
    (h : Token.ofSign? c = some token) (hdot : flag = true ∨ c ≠ '.') :
    lex flag (c :: cs) = (lex token.endsOperand cs).map (token :: ·) := by
  have hspace : ¬ Token.isSpace c = true := by
    rcases Token.sign_of_ofSign? h with rfl | rfl | rfl | rfl | rfl | rfl | rfl | rfl <;> decide
  rw [lex_token hspace (Token.next?_of_ofSign? h hdot), List.drop_zero]

end SignedDistance
