import Mathlib
import SignedDistance.Proofs.Tokens

/-!
# Lexemes of expression texts

A text is cut into lexemes and blanks from left to right, and each lexeme is the longest one that
can stand there: a name, an unsigned number or a sign. After an operand no number starts with a
point, so that the point is a sign there. `Tokenizes` says this without the scanner, and the scanner
finds exactly these tokens (`lex_eq_some_iff`).
-/

namespace SignedDistance

open Text

/-! ## Longest numbers -/

namespace Token

theorem digits_append_digits {ds : List Char} (h : ∀ c ∈ ds, c.isDigit = true) (cs : List Char) :
    digits (ds ++ cs) = ds ++ digits cs :=
  List.takeWhile_append_of_pos h

theorem length_digits_le_mantissa (cs : List Char) :
    (digits cs).length ≤ (mantissa cs).length := by
  simp only [mantissa]
  split
  · split
    · next hempty =>
      have hwhole : digits cs = [] := by simpa using (Bool.and_eq_true_iff.mp hempty).1
      simp [hwhole]
    · simp
  · exact le_rfl

theorem isMantissa_mantissa {cs : List Char} (h : mantissa cs ≠ []) : IsMantissa (mantissa cs) := by
  have hdigits : ∀ ds, ∀ c ∈ digits ds, c.isDigit = true := fun ds c => isDigit_of_mem_digits
  simp only [mantissa] at h ⊢
  split at h
  · next rest hrest =>
    split at h
    · exact absurd rfl h
    · next hempty =>
      rw [if_neg hempty]
      by_cases hwhole : digits cs = []
      · rw [hwhole] at hempty ⊢
        exact .fraction ⟨by simpa using hempty, hdigits rest⟩
      · exact .point ⟨hwhole, hdigits cs⟩ (hdigits rest)
  · exact .whole ⟨h, hdigits cs⟩

theorem isExponent_exponent (cs : List Char) : IsExponent (exponent cs) := by
  have hdigits : ∀ ds, ¬ (digits ds).isEmpty = true → IsDigits (digits ds) := fun ds hne =>
    ⟨by simpa using hne, fun c => isDigit_of_mem_digits⟩
  cases cs with
  | nil => exact .none
  | cons mark cs =>
    cases cs with
    | nil => simpa [exponent] using IsExponent.none
    | cons c rest =>
      simp only [exponent]
      split_ifs with hmark hsign hrest hdigit
      · exact .none
      · exact .signed (by simpa using hmark) (by simpa using hsign) (hdigits rest hrest)
      · exact .none
      · exact .unsigned (by simpa using hmark) (hdigits (c :: rest) hdigit)
      · exact .none

theorem isNumber_numeral {cs : List Char} (h : numeral cs ≠ []) :
    IsNumber (String.ofList (numeral cs)) := by
  simp only [numeral] at h ⊢
  split at h
  · exact absurd rfl h
  · next hne =>
    rw [if_neg hne]
    exact ⟨mantissa cs, exponent (cs.drop (mantissa cs).length),
      isMantissa_mantissa (by simpa using hne), isExponent_exponent _, by simp⟩

/-- No longer text of this kind is at the front. -/
theorem length_le_mantissa {m cs : List Char} (h : IsMantissa m) :
    m.length ≤ (mantissa (m ++ cs)).length := by
  cases h with
  | whole hds =>
    have hle := length_digits_le_mantissa (m ++ cs)
    rw [digits_append_digits hds.2, List.length_append] at hle
    omega
  | @point ds es hds hes =>
    have hwhole : digits (ds ++ '.' :: (es ++ cs)) = ds :=
      digits_append_of_digits hds.2 (by simp)
    have hpart := digits_append_digits hes cs
    simp [mantissa, hwhole, hpart, hds.1]
  | @fraction es hes =>
    have hwhole : digits ('.' :: (es ++ cs)) = [] := by simp [digits]
    have hpart := digits_append_digits hes.2 cs
    simp [mantissa, hwhole, hpart, hes.1]

theorem length_le_exponent {x cs : List Char} (h : IsExponent x) :
    x.length ≤ (exponent (x ++ cs)).length := by
  cases h with
  | none => simp
  | @unsigned mark ds hm hds =>
    have hdigits := digits_append_digits hds.2 cs
    obtain ⟨hne, hall⟩ := hds
    cases ds with
    | nil => exact absurd rfl hne
    | cons d ds =>
      have hdigit : d.isDigit = true := hall d (by simp)
      have hd : d ≠ '+' ∧ d ≠ '-' := by
        constructor <;> rintro rfl <;> exact absurd hdigit (by decide)
      rw [List.cons_append] at hdigits
      rcases hm with rfl | rfl <;> simp [exponent, hd, hdigits]
  | @signed mark sign ds hm hs hds =>
    have hdigits := digits_append_digits hds.2 cs
    rcases hm with rfl | rfl <;> rcases hs with rfl | rfl <;> simp [exponent, hdigits, hds.1]

/-- A number with an exponent has the longest mantissa, since the mark of the exponent ends it. -/
theorem length_le_numeral {text : String} {cs : List Char} (h : IsNumber text) :
    text.toList.length ≤ (numeral (text.toList ++ cs)).length := by
  obtain ⟨m, x, hm, hx, htext⟩ := h
  rw [htext, List.append_assoc]
  have hne := hm.ne_nil
  have hlong := @length_le_mantissa m (x ++ cs) hm
  have hpos : 0 < m.length := List.length_pos_iff.mpr hne
  have hmantissa : ¬ (mantissa (m ++ (x ++ cs))).isEmpty = true := by
    intro hempty
    rw [List.isEmpty_iff.mp hempty] at hlong
    simp at hlong
    exact hne hlong
  simp only [numeral]
  rw [if_neg hmantissa, List.length_append, List.length_append]
  by_cases hnone : x = []
  · subst hnone
    simp at hlong ⊢
    omega
  · have hhead : ∀ c ∈ (x ++ cs).head?, c.isDigit = false ∧ c ≠ '.' := by
      rw [List.head?_append_of_ne_nil x hnone]
      exact head_of_isExponent hx
    rw [mantissa_of_isMantissa hm hhead, List.drop_left]
    have hexponent := @length_le_exponent x cs hx
    omega

end Token

/-! ## Lexemes -/

/-- The characters of a token. After an operand, a number does not start with a point. -/
inductive Lexeme (afterOperand : Bool) : List Char → Token → Prop where
  | name {text : String} (h : isIdentifier text = true) :
      Lexeme afterOperand text.toList (.name text)
  | number {text : String} (h : IsNumber text)
      (hpoint : afterOperand = true → text.toList.head? ≠ some '.') :
      Lexeme afterOperand text.toList (.number text)
  | sign {c : Char} {token : Token} (h : Token.ofSign? c = some token) :
      Lexeme afterOperand [c] token

/-- The longest lexeme at the front of a text. -/
structure IsLongest (afterOperand : Bool) (cs lexeme : List Char) (token : Token) : Prop where
  isLexeme : Lexeme afterOperand lexeme token
  isPrefix : lexeme <+: cs
  longest : ∀ other token', Lexeme afterOperand other token' → other <+: cs →
    other.length ≤ lexeme.length

/-- Cutting a text into tokens. The flag says whether an operand has just ended. -/
inductive Tokenizes : Bool → List Char → List Token → Prop where
  | nil (afterOperand : Bool) : Tokenizes afterOperand [] []
  | space {afterOperand : Bool} {c : Char} {cs : List Char} {ts : List Token}
      (hc : Token.isSpace c = true) (h : Tokenizes afterOperand cs ts) :
      Tokenizes afterOperand (c :: cs) ts
  | token {afterOperand : Bool} {lexeme rest : List Char} {token : Token} {ts : List Token}
      (hlexeme : IsLongest afterOperand (lexeme ++ rest) lexeme token)
      (h : Tokenizes token.endsOperand rest ts) :
      Tokenizes afterOperand (lexeme ++ rest) (token :: ts)

section Lexemes

variable {flag : Bool} {c : Char} {cs lexeme : List Char} {token : Token}

/-- What a lexeme starts with tells its kind. -/
theorem Lexeme.head (h : Lexeme flag lexeme token) : ∃ c cs, lexeme = c :: cs ∧
    ((isIdentStart c = true ∧ (∀ d ∈ cs, isIdentChar d = true) ∧
      token = .name (String.ofList lexeme)) ∨
    ((c.isDigit = true ∨ c = '.') ∧ IsNumber (String.ofList lexeme) ∧
      (flag = true → c ≠ '.') ∧ token = .number (String.ofList lexeme)) ∨
    (cs = [] ∧ Token.ofSign? c = some token)) := by
  cases h with
  | @name text h =>
    unfold isIdentifier at h
    cases htext : text.toList with
    | nil => simp [htext] at h
    | cons c cs =>
      simp only [htext, Bool.and_eq_true, List.all_eq_true] at h
      refine ⟨c, cs, rfl, Or.inl ⟨h.1, h.2, ?_⟩⟩
      rw [← htext, String.ofList_toList]
  | @number text h hpoint =>
    obtain ⟨c, cs, htext, hc⟩ := Token.head_of_isNumber h
    refine ⟨c, cs, htext, Or.inr (Or.inl ⟨hc, ?_, ?_, ?_⟩)⟩
    · rwa [String.ofList_toList]
    · intro hflag hdot
      exact hpoint hflag (by rw [htext, hdot]; rfl)
    · rw [String.ofList_toList]
  | @sign c token h => exact ⟨c, [], rfl, Or.inr (Or.inr ⟨rfl, h⟩)⟩

/-- No character starts lexemes of two kinds, except that a point is also a sign. -/
theorem isIdentStart_eq_false_of_ofSign? (h : Token.ofSign? c = some token) :
    isIdentStart c = false ∧ c.isDigit = false ∧ Token.isSpace c = false := by
  rcases Token.sign_of_ofSign? h with rfl | rfl | rfl | rfl | rfl | rfl | rfl | rfl <;> decide

theorem Lexeme.isSpace_eq_false (h : Lexeme flag (c :: cs) token) : Token.isSpace c = false := by
  obtain ⟨d, ds, heq, hkind⟩ := h.head
  cases heq
  rcases hkind with ⟨hident, -⟩ | ⟨hdigit | rfl, -⟩ | ⟨-, hsign⟩
  · rw [isIdentStart_iff] at hident
    by_contra hspace
    rw [Bool.not_eq_false, isSpace_iff] at hspace
    omega
  · rw [isDigit_iff] at hdigit
    by_contra hspace
    rw [Bool.not_eq_false, isSpace_iff] at hspace
    omega
  · decide
  · exact (isIdentStart_eq_false_of_ofSign? hsign).2.2

/-- A lexeme is the lexeme of one token only. -/
theorem Lexeme.unique {token' : Token} (h : Lexeme flag lexeme token)
    (h' : Lexeme flag lexeme token') : token = token' := by
  obtain ⟨c, cs, rfl, hkind⟩ := h.head
  obtain ⟨d, ds, heq, hkind'⟩ := h'.head
  cases heq
  have hident : isIdentStart c = true → ¬ (c.isDigit = true ∨ c = '.') := by
    rintro hident (hdigit | rfl)
    · rw [not_isIdentStart_of_isDigit hdigit] at hident
      cases hident
    · exact absurd hident (by decide)
  -- A point alone is no number.
  have hpoint : (c.isDigit = true ∨ c = '.') → IsNumber (String.ofList (c :: cs)) →
      ∀ t, ¬ (cs = [] ∧ Token.ofSign? c = some t) := by
    rintro (hdigit | rfl) hnumber t ⟨rfl, hsign⟩
    · rw [(isIdentStart_eq_false_of_ofSign? hsign).2.1] at hdigit
      cases hdigit
    · have hnumeral := Token.numeral_of_isNumber hnumber
      rw [String.toList_ofList] at hnumeral
      exact absurd hnumeral (by decide)
  rcases hkind with ⟨hc, -, rfl⟩ | ⟨hc, hnumber, -, rfl⟩ | hsign
  · rcases hkind' with ⟨-, -, rfl⟩ | ⟨hc', -⟩ | ⟨-, hsign'⟩
    · rfl
    · exact absurd hc' (hident hc)
    · rw [(isIdentStart_eq_false_of_ofSign? hsign').1] at hc
      cases hc
  · rcases hkind' with ⟨hc', -⟩ | ⟨-, -, -, rfl⟩ | hsign'
    · exact absurd hc (hident hc')
    · rfl
    · exact absurd hsign' (hpoint hc hnumber _)
  · rcases hkind' with ⟨hc', -⟩ | ⟨hc', hnumber, -⟩ | hsign'
    · rw [(isIdentStart_eq_false_of_ofSign? hsign.2).1] at hc'
      cases hc'
    · exact absurd hsign (hpoint hc' hnumber _)
    · exact Option.some.inj (hsign.2.symm.trans hsign'.2)

theorem IsLongest.unique {lexeme' : List Char} {token' : Token}
    (h : IsLongest flag cs lexeme token) (h' : IsLongest flag cs lexeme' token') :
    lexeme = lexeme' ∧ token = token' := by
  have hlength : lexeme.length = lexeme'.length :=
    Nat.le_antisymm (h'.longest _ _ h.isLexeme h.isPrefix) (h.longest _ _ h'.isLexeme h'.isPrefix)
  have heq : lexeme = lexeme' :=
    (List.prefix_of_prefix_length_le h.isPrefix h'.isPrefix hlength.le).eq_of_length hlength
  subst heq
  exact ⟨rfl, h.isLexeme.unique h'.isLexeme⟩

/-! ## The scanner takes the longest lexeme -/

theorem next?_name (hc : isIdentStart c = true) : Token.next? flag c cs =
    some (.name (String.ofList (c :: cs.takeWhile isIdentChar)),
      (cs.takeWhile isIdentChar).length) := by
  simp [Token.next?, hc]

theorem next?_number (hc : isIdentStart c = false) (hpoint : flag = true → c ≠ '.')
    (hne : Token.numeral (c :: cs) ≠ []) : Token.next? flag c cs =
      some (.number (String.ofList (Token.numeral (c :: cs))),
        (Token.numeral (c :: cs)).length - 1) := by
  have hdot : (flag && c == '.') = false := by
    cases flag with
    | false => rfl
    | true => simpa using hpoint rfl
  simp [Token.next?, hc, hdot, hne]

theorem next?_sign (hc : isIdentStart c = false)
    (h : flag = true ∧ c = '.' ∨ Token.numeral (c :: cs) = []) :
    Token.next? flag c cs = (Token.ofSign? c).map fun token => (token, 0) := by
  rcases h with ⟨rfl, rfl⟩ | h
  · simp [Token.next?, hc]
  · simp [Token.next?, hc, h]

theorem isLongest_name (hc : isIdentStart c = true) :
    IsLongest flag (c :: cs) (c :: cs.takeWhile isIdentChar)
      (.name (String.ofList (c :: cs.takeWhile isIdentChar))) := by
  have hident : isIdentifier (String.ofList (c :: cs.takeWhile isIdentChar)) = true := by
    simp [isIdentifier, hc]
  refine ⟨?_, List.cons_prefix_cons.mpr ⟨rfl, List.takeWhile_prefix _⟩, ?_⟩
  · have h := @Lexeme.name flag _ hident
    rwa [String.toList_ofList] at h
  · intro other token' hother hprefix
    obtain ⟨d, ds, rfl, hkind⟩ := hother.head
    obtain ⟨rfl, hds⟩ := List.cons_prefix_cons.mp hprefix
    rcases hkind with ⟨-, hall, -⟩ | ⟨hdigit | rfl, -⟩ | ⟨rfl, -⟩
    · obtain ⟨rest, rfl⟩ := hds
      rw [List.takeWhile_append_of_pos hall]
      simp
    · rw [not_isIdentStart_of_isDigit hdigit] at hc
      cases hc
    · exact absurd hc (by decide)
    · simp

theorem isLongest_number (hpoint : flag = true → c ≠ '.')
    (hne : Token.numeral (c :: cs) ≠ []) :
    IsLongest flag (c :: cs) (Token.numeral (c :: cs))
      (.number (String.ofList (Token.numeral (c :: cs)))) := by
  have hnumber := Token.isNumber_numeral hne
  have hprefix := Token.numeral_isPrefix (c :: cs)
  -- The number starts with the first character of the text.
  obtain ⟨d, ds, hnumeral, hd⟩ := Token.head_of_isNumber hnumber
  rw [String.toList_ofList] at hnumeral
  obtain rfl : d = c := by
    rw [hnumeral] at hprefix
    exact (List.cons_prefix_cons.mp hprefix).1
  refine ⟨?_, hprefix, ?_⟩
  · have h := @Lexeme.number flag _ hnumber fun hflag hhead => by
      rw [String.toList_ofList, hnumeral] at hhead
      exact hpoint hflag (Option.some.inj hhead)
    rwa [String.toList_ofList] at h
  · intro other token' hother hotherPrefix
    obtain ⟨b, bs, rfl, hkind⟩ := hother.head
    obtain ⟨rfl, hbs⟩ := List.cons_prefix_cons.mp hotherPrefix
    rcases hkind with ⟨hident, -⟩ | ⟨-, hother, -⟩ | ⟨rfl, -⟩
    · rcases hd with hdigit | rfl
      · rw [not_isIdentStart_of_isDigit hdigit] at hident
        cases hident
      · exact absurd hident (by decide)
    · obtain ⟨rest, hrest⟩ := hotherPrefix
      have hle := @Token.length_le_numeral _ rest hother
      rwa [String.toList_ofList, hrest] at hle
    · rw [hnumeral]
      simp

theorem isLongest_sign (h : flag = true ∧ c = '.' ∨ Token.numeral (c :: cs) = [])
    (hsign : Token.ofSign? c = some token) : IsLongest flag (c :: cs) [c] token := by
  refine ⟨.sign hsign, List.cons_prefix_cons.mpr ⟨rfl, List.nil_prefix⟩, ?_⟩
  intro other token' hother hprefix
  obtain ⟨d, ds, rfl, hkind⟩ := hother.head
  obtain ⟨rfl, hds⟩ := List.cons_prefix_cons.mp hprefix
  rcases hkind with ⟨hident, -⟩ | ⟨-, hnumber, hpoint, -⟩ | ⟨rfl, -⟩
  · rw [(isIdentStart_eq_false_of_ofSign? hsign).1] at hident
    cases hident
  · rcases h with ⟨hflag, hdot⟩ | hnumeral
    · exact absurd hdot (hpoint hflag)
    · obtain ⟨rest, hrest⟩ := hprefix
      have hle := @Token.length_le_numeral _ rest hnumber
      rw [String.toList_ofList, hrest, hnumeral] at hle
      simp at hle
  · simp

theorem cons_take_of_isPrefix (h : lexeme <+: c :: cs) (hne : lexeme ≠ []) :
    c :: cs.take (lexeme.length - 1) = lexeme := by
  cases lexeme with
  | nil => exact absurd rfl hne
  | cons d ds =>
    obtain ⟨rfl, hds⟩ := List.cons_prefix_cons.mp h
    rw [List.length_cons, Nat.add_sub_cancel, ← List.prefix_iff_eq_take.mp hds]

/-- The scanner finds the longest lexeme, or there is none. -/
theorem next?_spec (flag : Bool) (c : Char) (cs : List Char) :
    (∃ token extra, Token.next? flag c cs = some (token, extra) ∧
      IsLongest flag (c :: cs) (c :: cs.take extra) token) ∨
    (Token.next? flag c cs = none ∧
      ∀ lexeme token, lexeme <+: c :: cs → ¬ Lexeme flag lexeme token) := by
  by_cases hident : isIdentStart c = true
  · have hlongest : IsLongest flag (c :: cs) _ _ := isLongest_name hident
    have htake := cons_take_of_isPrefix hlongest.isPrefix (by simp)
    rw [List.length_cons, Nat.add_sub_cancel] at htake
    exact Or.inl ⟨_, _, next?_name hident, by rw [htake]; exact hlongest⟩
  have hc : isIdentStart c = false := by simpa using hident
  by_cases hsign : flag = true ∧ c = '.' ∨ Token.numeral (c :: cs) = []
  · cases hs : Token.ofSign? c with
    | some token =>
      refine Or.inl ⟨token, 0, by rw [next?_sign hc hsign, hs]; rfl, ?_⟩
      simpa using isLongest_sign hsign hs
    | none =>
      refine Or.inr ⟨by rw [next?_sign hc hsign, hs]; rfl, fun lexeme token hlexeme h => ?_⟩
      obtain ⟨d, ds, rfl, hkind⟩ := h.head
      obtain ⟨rfl, -⟩ := List.cons_prefix_cons.mp hlexeme
      rcases hkind with ⟨hstart, -⟩ | ⟨-, hnumber, -⟩ | ⟨-, hsome⟩
      · exact hident hstart
      · have hnumeral : Token.numeral (d :: cs) = [] := by
          rcases hsign with ⟨-, rfl⟩ | hnumeral
          · cases hs
          · exact hnumeral
        obtain ⟨rest, hrest⟩ := hlexeme
        have hle := @Token.length_le_numeral _ rest hnumber
        rw [String.toList_ofList, hrest, hnumeral] at hle
        simp at hle
      · rw [hs] at hsome
        cases hsome
  · have hpoint : flag = true → c ≠ '.' := fun hflag hdot => hsign (Or.inl ⟨hflag, hdot⟩)
    have hne : Token.numeral (c :: cs) ≠ [] := fun hnumeral => hsign (Or.inr hnumeral)
    have hlongest : IsLongest flag (c :: cs) _ _ := isLongest_number hpoint hne
    have htake := cons_take_of_isPrefix hlongest.isPrefix hne
    exact Or.inl ⟨_, _, next?_number hc hpoint hne, by rw [htake]; exact hlongest⟩

/-- The scanner takes exactly the characters of the longest lexeme. -/
theorem IsLongest.next? {rest : List Char} (h : IsLongest flag (c :: cs ++ rest) (c :: cs) token) :
    Token.next? flag c (cs ++ rest) = some (token, cs.length) := by
  rcases next?_spec flag c (cs ++ rest) with ⟨token', extra, hnext, hlongest⟩ | ⟨-, hnone⟩
  · obtain ⟨heq, rfl⟩ := h.unique hlongest
    have htake : cs = (cs ++ rest).take extra := (List.cons.inj heq).2
    have hextra : extra = cs.length := by
      have hle := Token.next?_extra_le hnext
      have hlength := congrArg List.length htake
      rw [List.length_take, Nat.min_eq_left hle] at hlength
      exact hlength.symm
    rw [hnext, hextra]
  · exact absurd h.isLexeme (hnone _ _ h.isPrefix)

end Lexemes

/-- The scanner cuts a text into its tokens. -/
theorem lex_eq_some_iff {flag : Bool} {cs : List Char} {ts : List Token} :
    lex flag cs = some ts ↔ Tokenizes flag cs ts := by
  constructor
  · intro h
    induction flag, cs using lex_induction generalizing ts with
    | nil flag =>
      rw [lex_nil] at h
      cases h
      exact .nil flag
    | space flag c cs hc ih =>
      rw [lex_space hc] at h
      exact .space hc (ih h)
    | stuck flag c cs hc hnext =>
      rw [lex_stuck hc hnext] at h
      cases h
    | token flag c cs token extra hc hnext ih =>
      rw [lex_token hc hnext] at h
      obtain ⟨us, hus, rfl⟩ := Option.map_eq_some_iff.mp h
      have hsplit : c :: cs = (c :: cs.take extra) ++ cs.drop extra := by simp
      rcases next?_spec flag c cs with ⟨token', extra', hnext', hlongest⟩ | ⟨hnone, -⟩
      · rw [hnext] at hnext'
        cases hnext'
        rw [hsplit] at hlongest ⊢
        exact .token hlongest (ih hus)
      · rw [hnext] at hnone
        cases hnone
  · intro h
    induction h with
    | nil flag => exact lex_nil flag
    | space hc h ih => rw [lex_space hc, ih]
    | @token flag lexeme rest token ts hlexeme h ih =>
      obtain ⟨c, cs, rfl, -⟩ := hlexeme.isLexeme.head
      have hspace : ¬ Token.isSpace c = true := by simp [hlexeme.isLexeme.isSpace_eq_false]
      rw [List.cons_append, lex_token hspace hlexeme.next?, List.drop_left, ih]
      rfl

end SignedDistance
