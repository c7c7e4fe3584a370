import Mathlib
import SignedDistance.Expression.Atomic
import SignedDistance.Proofs.Grammar

/-!
# Texts that need no parentheses

A text that parses and counts as atomic is a postfixed phrase of the grammar, so that it can stand
wherever an operand can. The reason is the same for names with selections, numbers, calls and
groups: outside of all parentheses their tokens have no operator (`outside`), and the only phrases
without such an operator are the postfixed ones.
-/

namespace SignedDistance

open Text

/-! ## Tokens outside of parentheses -/

/-- Whether a token is an operator or a sign. -/
def Token.isOperator : Token → Bool
  | plus => true
  | minus => true
  | star => true
  | slash => true
  | _ => false

/-- The tokens that stand outside of all parentheses, of which `depth` are open already. -/
def outside : Nat → List Token → List Token
  | _, [] => []
  | depth, .opening :: ts => outside (depth + 1) ts
  | depth, .closing :: ts => outside (depth - 1) ts
  | 0, t :: ts => t :: outside 0 ts
  | depth + 1, _ :: ts => outside (depth + 1) ts

/-- A token that is no parenthesis. -/
theorem outside_cons {t : Token} (ho : t ≠ .opening) (hc : t ≠ .closing) (depth : Nat)
    (ts : List Token) : outside depth (t :: ts) =
      if depth = 0 then t :: outside 0 ts else outside depth ts := by
  cases depth <;> cases t <;> simp_all [outside]

/-- A part of a row of tokens is closed if it opens and closes its own parentheses only. -/
def Closed (ts : List Token) : Prop :=
  (∀ us, outside 0 (ts ++ us) = outside 0 ts ++ outside 0 us) ∧
    ∀ depth us, outside (depth + 1) (ts ++ us) = outside (depth + 1) us

namespace Closed

theorem nil : Closed [] := by
  simp [Closed, outside]

theorem append {ts us : List Token} (hts : Closed ts) (hus : Closed us) : Closed (ts ++ us) := by
  refine ⟨fun vs => ?_, fun depth vs => ?_⟩
  · rw [List.append_assoc, hts.1, hus.1, hts.1, List.append_assoc]
  · rw [List.append_assoc, hts.2, hus.2]

theorem single {t : Token} (ho : t ≠ .opening) (hc : t ≠ .closing) : Closed [t] := by
  refine ⟨fun us => ?_, fun depth us => ?_⟩
  · simp [outside_cons ho hc, outside]
  · simp [outside_cons ho hc]

theorem parentheses {ts : List Token} (h : Closed ts) :
    Closed (.opening :: (ts ++ [.closing])) := by
  have hdepth : ∀ depth us,
      outside depth (.opening :: (ts ++ [.closing]) ++ us) = outside depth us := by
    intro depth us
    rw [List.cons_append, outside, List.append_assoc, h.2]
    rfl
  refine ⟨fun us => ?_, fun depth us => hdepth (depth + 1) us⟩
  have hnone : outside 0 (.opening :: (ts ++ [.closing])) = [] := by
    simpa [outside] using hdepth 0 []
  rw [hdepth, hnone, List.nil_append]

theorem intercalate {tss : List (List Token)} (h : ∀ ts ∈ tss, Closed ts) :
    Closed ([.comma].intercalate tss) := by
  induction tss with
  | nil => exact nil
  | cons ts rest ih =>
    have hts := h ts (by simp)
    have hrest := ih fun us hus => h us (List.mem_cons_of_mem _ hus)
    have hcomma : Closed [.comma] := single (by simp) (by simp)
    cases rest with
    | nil => rwa [List.intercalate_singleton]
    | cons next rest =>
      rw [List.intercalate_cons_cons]
      exact (hts.append hcomma).append hrest

end Closed

/-- Every phrase closes the parentheses that it opens. -/
theorem Derives.closed {p : Phrase} {ts : List Token} {e : Expr} (h : Derives p ts e) :
    Closed ts := by
  induction h with
  | product h ih => exact ih
  | @additive ts us t op a b ht hl hr ihl ihr =>
    have ht' : Closed [t] := .single (by rintro rfl; cases ht) (by rintro rfl; cases ht)
    exact ihl.append (ht'.append ihr)
  | unary h ih => exact ih
  | @multiplicative ts us t op a b ht hl hr ihl ihr =>
    have ht' : Closed [t] := .single (by rintro rfl; cases ht) (by rintro rfl; cases ht)
    exact ihl.append (ht'.append ihr)
  | postfixed h ih => exact ih
  | minus h ih => exact (Closed.single (by simp) (by simp)).append ih
  | plus h ih => exact (Closed.single (by simp) (by simp)).append ih
  | primary h ih => exact ih
  | @swizzle ts e fields h ih =>
    have hdot : Closed [.dot] := .single (by simp) (by simp)
    have hfields : Closed [.name fields] := .single (by simp) (by simp)
    exact ih.append (hdot.append hfields)
  | number text => exact .single (by simp) (by simp)
  | name ident => exact .single (by simp) (by simp)
  | @call fn args h ih =>
    have hfn : Closed [.name fn] := .single (by simp) (by simp)
    refine hfn.append (Closed.parentheses (Closed.intercalate ?_))
    intro ts hts
    obtain ⟨arg, harg, rfl⟩ := List.mem_map.mp hts
    exact ih arg harg
  | group h ih => exact ih.parentheses

/-- A phrase without operators outside of parentheses is postfixed. -/
theorem Derives.postfixed_of_outside {ts : List Token} {e : Expr} (h : Derives .sum ts e)
    (hout : ∀ t ∈ outside 0 ts, t.isOperator = false) : Derives .postfixed ts e := by
  have hbetween : ∀ {us vs : List Token} {t : Token}, ts = us ++ t :: vs → Closed us →
      t.isOperator = true → False := by
    rintro us vs t rfl hus ht
    have hne : t ≠ .opening ∧ t ≠ .closing := by
      constructor <;> rintro rfl <;> cases ht
    have hmem : t ∈ outside 0 (us ++ t :: vs) := by
      rw [hus.1, outside_cons hne.1 hne.2]
      simp
    rw [hout t hmem] at ht
    exact absurd ht (by simp)
  have hadditive : ∀ {t : Token} {op : Operator}, t.additive? = some op → t.isOperator = true := by
    intro t op ht
    cases t <;> cases ht <;> rfl
  have hmultiplicative : ∀ {t : Token} {op : Operator}, t.multiplicative? = some op →
      t.isOperator = true := by
    intro t op ht
    cases t <;> cases ht <;> rfl
  cases h with
  | additive ht hl hr => exact (hbetween rfl hl.closed (hadditive ht)).elim
  | product h =>
    cases h with
    | multiplicative ht hl hr => exact (hbetween rfl hl.closed (hmultiplicative ht)).elim
    | unary h =>
      cases h with
      | postfixed h => exact h
      | @minus us e h => exact (hbetween (List.nil_append _).symm .nil rfl).elim
      | @plus us e h => exact (hbetween (List.nil_append _).symm .nil rfl).elim

/-! ## Blanks around a text -/

theorem toNat_of_isBlank {c : Char} (h : isBlank c = true) : c.toNat ≤ 32 ∨ 128 ≤ c.toNat := by
  simp only [isBlank, inRanges, List.any_cons, List.any_nil, Bool.or_false, Bool.or_eq_true,
    Bool.and_eq_true, decide_eq_true_eq] at h
  omega

/-- The code points of the characters that tokens are made of. -/
theorem toNat_of_ofSign? {c : Char} {t : Token} (h : Token.ofSign? c = some t) :
    32 < c.toNat ∧ c.toNat < 128 := by
  rcases Token.sign_of_ofSign? h with rfl | rfl | rfl | rfl | rfl | rfl | rfl | rfl <;> decide

theorem toNat_of_isIdentChar {c : Char} (h : isIdentChar c = true) :
    32 < c.toNat ∧ c.toNat < 128 := by
  rw [isIdentChar_iff, isIdentStart_iff, isDigit_iff] at h
  omega

theorem toNat_of_mem_numeral {c : Char} {cs : List Char} (h : c ∈ Token.numeral cs) :
    32 < c.toNat ∧ c.toNat < 128 := by
  rcases Token.mem_numeral h with h | rfl | rfl | rfl | rfl | rfl
  · rw [isDigit_iff] at h
    omega
  all_goals decide

/-- The characters that a token takes are visible ASCII characters. -/
theorem toNat_of_next? {flag : Bool} {c : Char} {cs : List Char} {t : Token} {extra : Nat}
    (h : Token.next? flag c cs = some (t, extra)) :
    ∀ x ∈ c :: cs.take extra, 32 < x.toNat ∧ x.toNat < 128 := by
  intro x hx
  rcases Token.next?_cases h with ⟨hc, htake, -⟩ | ⟨htake, -⟩ | ⟨hextra, hsign⟩
  · rw [htake] at hx
    rcases List.mem_cons.mp hx with rfl | hx
    · exact toNat_of_isIdentChar (isIdentChar_iff.mpr (Or.inl hc))
    · exact toNat_of_isIdentChar (List.mem_takeWhile_imp hx)
  · rw [htake] at hx
    exact toNat_of_mem_numeral hx
  · rw [hextra] at hx
    rw [List.mem_singleton.mp hx]
    exact toNat_of_ofSign? hsign

/-- A text that can be scanned has ASCII characters only. -/
theorem toNat_lt_of_lex {flag : Bool} {cs : List Char} {ts : List Token}
    (h : lex flag cs = some ts) : ∀ c ∈ cs, c.toNat < 128 := by
  induction flag, cs using lex_induction generalizing ts with
  | nil flag => simp
  | space flag c cs hc ih =>
    rw [lex_space hc] at h
    rw [isSpace_iff] at hc
    intro x hx
    rcases List.mem_cons.mp hx with rfl | hx
    · omega
    · exact ih h x hx
  | stuck flag c cs hc hnext =>
    rw [lex_stuck hc hnext] at h
    cases h
  | token flag c cs t extra hc hnext ih =>
    rw [lex_token hc hnext] at h
    obtain ⟨us, hus, -⟩ := Option.map_eq_some_iff.mp h
    intro x hx
    rw [← List.take_append_drop extra cs, ← List.cons_append] at hx
    rcases List.mem_append.mp hx with hx | hx
    · exact (toNat_of_next? hnext x hx).2
    · exact ih hus x hx

/-- A blank at the front of a text that can be scanned is skipped. -/
theorem lex_blank {flag : Bool} {c : Char} {cs : List Char} {ts : List Token}
    (hc : isBlank c = true) (h : lex flag (c :: cs) = some ts) : lex flag cs = some ts := by
  by_cases hspace : Token.isSpace c = true
  · rwa [lex_space hspace] at h
  · exfalso
    cases hnext : Token.next? flag c cs with
    | none =>
      rw [lex_stuck hspace hnext] at h
      cases h
    | some result =>
      have hcode := toNat_of_next? hnext c (by simp)
      have := toNat_of_isBlank hc
      omega

theorem lex_blanks {flag : Bool} {bs cs : List Char} {ts : List Token}
    (hbs : ∀ c ∈ bs, isBlank c = true) (h : lex flag (bs ++ cs) = some ts) :
    lex flag cs = some ts := by
  induction bs with
  | nil => exact h
  | cons b bs ih =>
    refine ih (fun c hc => hbs c (List.mem_cons_of_mem _ hc)) (lex_blank (hbs b (by simp)) h)

/-- Blanks at both ends of a text do not change its tokens. -/
theorem lex_trim {flag : Bool} {cs : List Char} {ts : List Token} (h : lex flag cs = some ts) :
    lex flag (trim cs) = some ts := by
  set inner := cs.dropWhile isBlank with hinner
  have hfront : lex flag inner = some ts := by
    rw [← List.takeWhile_append_dropWhile (p := isBlank) (l := cs)] at h
    exact lex_blanks (fun c hc => List.mem_takeWhile_imp hc) h
  set back := (inner.reverse.takeWhile isBlank).reverse with hback
  have hsplit : inner = trim cs ++ back := by
    rw [trim, hback, ← List.reverse_append, ← hinner, List.takeWhile_append_dropWhile,
      List.reverse_reverse]
  have hblank : ∀ c ∈ back, isBlank c = true := by
    intro c hc
    rw [hback, List.mem_reverse] at hc
    exact List.mem_takeWhile_imp hc
  have hcode : ∀ c ∈ back.head?, c.toNat ≤ 32 ∨ 128 ≤ c.toNat := fun c hc =>
    toNat_of_isBlank (hblank c (List.mem_of_mem_head? hc))
  have hbreaks : Breaks back := by
    intro c hc
    have := hcode c hc
    refine ⟨?_, ?_, ?_⟩
    · by_contra hident
      have := toNat_of_isIdentChar (Bool.not_eq_false _ ▸ hident)
      omega
    · rintro rfl
      revert this
      decide
    · rintro rfl
      revert this
      decide
  have hpoint : back.head? = some '.' → False := by
    intro hhead
    have := hcode '.' hhead
    revert this
    decide
  rw [hsplit, lex_append hbreaks fun hhead => (hpoint hhead).elim] at hfront
  obtain ⟨us, hus, hmap⟩ := Option.bind_eq_some_iff.mp hfront
  obtain ⟨vs, hvs, rfl⟩ := Option.map_eq_some_iff.mp hmap
  have hnil : lex (flagAfter flag us) [] = some vs :=
    lex_blanks hblank (by rwa [List.append_nil])
  rw [lex_nil] at hnil
  cases hnil
  rw [hus, List.append_nil]

/-! ## Calls and groups -/

/-- Whether the token that closes all of `depth` open parentheses is the last one. -/
def closesLast : Nat → List Token → Bool
  | _, [] => false
  | depth, .opening :: ts => closesLast (depth + 1) ts
  | depth, .closing :: ts => if depth ≤ 1 then ts.isEmpty else closesLast (depth - 1) ts
  | depth, _ :: ts => closesLast depth ts

/-- Characters other than parentheses do not matter for where parentheses are closed. -/
theorem closesAtEnd_append {depth : Nat} {xs ys : List Char} (h : ∀ c ∈ xs, c ≠ '(' ∧ c ≠ ')') :
    closesAtEnd depth (xs ++ ys) = closesAtEnd depth ys := by
  induction xs with
  | nil => rfl
  | cons c xs ih =>
    obtain ⟨hopen, hclose⟩ := h c (by simp)
    rw [List.cons_append, closesAtEnd, if_neg (by simpa using hopen),
      if_neg (by simpa using hclose)]
    exact ih fun x hx => h x (List.mem_cons_of_mem _ hx)

/-- Parentheses in a text are tokens of their own. -/
theorem next?_parentheses {flag : Bool} {c : Char} {cs : List Char} {t : Token} {extra : Nat}
    (h : Token.next? flag c cs = some (t, extra)) :
    (c = '(' ∧ t = .opening ∧ extra = 0) ∨ (c = ')' ∧ t = .closing ∧ extra = 0) ∨
      (t ≠ .opening ∧ t ≠ .closing ∧ ∀ x ∈ c :: cs.take extra, x ≠ '(' ∧ x ≠ ')') := by
  rcases Token.next?_cases h with ⟨hc, htake, rfl⟩ | ⟨htake, rfl⟩ | ⟨rfl, hsign⟩
  · refine Or.inr (Or.inr ⟨by simp, by simp, fun x hx => ?_⟩)
    have hident : isIdentChar x = true := by
      rw [htake] at hx
      rcases List.mem_cons.mp hx with rfl | hx
      · exact isIdentChar_iff.mpr (Or.inl hc)
      · exact List.mem_takeWhile_imp hx
    constructor <;> rintro rfl <;> exact absurd hident (by decide)
  · refine Or.inr (Or.inr ⟨by simp, by simp, fun x hx => ?_⟩)
    rw [htake] at hx
    rcases Token.mem_numeral hx with h | rfl | rfl | rfl | rfl | rfl
    · constructor <;> rintro rfl <;> exact absurd h (by decide)
    all_goals decide
  · rcases Token.sign_of_ofSign? hsign with rfl | rfl | rfl | rfl | rfl | rfl | rfl | rfl
    all_goals
      simp only [Token.ofSign?, Char.reduceBEq, Bool.false_eq_true, if_false, if_true,
        Option.some.injEq] at hsign
      subst hsign
      simp

theorem closesLast_of_closesAtEnd {flag : Bool} {cs : List Char} {ts : List Token} {depth : Nat}
    (hlex : lex flag cs = some ts) (h : closesAtEnd depth cs = true) :
    closesLast depth ts = true := by
  induction flag, cs using lex_induction generalizing ts depth with
  | nil flag => simp [closesAtEnd] at h
  | space flag c cs hc ih =>
    rw [lex_space hc] at hlex
    have hne : ∀ x ∈ [c], x ≠ '(' ∧ x ≠ ')' := by
      intro x hx
      rw [List.mem_singleton.mp hx]
      constructor <;> rintro rfl <;> exact absurd hc (by decide)
    rw [← List.singleton_append, closesAtEnd_append hne] at h
    exact ih hlex h
  | stuck flag c cs hc hnext =>
    rw [lex_stuck hc hnext] at hlex
    cases hlex
  | token flag c cs t extra hc hnext ih =>
    rw [lex_token hc hnext] at hlex
    obtain ⟨us, hus, rfl⟩ := Option.map_eq_some_iff.mp hlex
    rcases next?_parentheses hnext with ⟨rfl, rfl, rfl⟩ | ⟨rfl, rfl, rfl⟩ | ⟨ho, hcl, hchars⟩
    · rw [closesLast]
      exact ih hus (by simpa [closesAtEnd] using h)
    · rw [List.drop_zero] at hus ih
      have hclose : (if depth ≤ 1 then cs.isEmpty else closesAtEnd (depth - 1) cs) = true := by
        simpa [closesAtEnd] using h
      rw [closesLast]
      split at hclose
      · next hdepth =>
        have hnil : cs = [] := by simpa using hclose
        subst hnil
        rw [lex_nil] at hus
        cases hus
        simp [hdepth]
      · next hdepth =>
        rw [if_neg hdepth]
        exact ih hus hclose
    · have hrest : closesAtEnd depth (cs.drop extra) = true := by
        rw [← closesAtEnd_append hchars, List.cons_append, List.take_append_drop]
        exact h
      have hcons : closesLast depth (t :: us) = closesLast depth us := by
        cases t <;> simp_all [closesLast]
      rw [hcons]
      exact ih hus hrest

/-- Nothing stands outside of parentheses that are closed by the last token. -/
theorem outside_of_closesLast {depth : Nat} {ts : List Token}
    (h : closesLast (depth + 1) ts = true) :
    outside (depth + 1) ts = [] := by
  induction ts generalizing depth with
  | nil => simp [closesLast] at h
  | cons t ts ih =>
    by_cases ho : t = .opening
    · subst ho
      exact ih h
    by_cases hc : t = .closing
    · subst hc
      cases depth with
      | zero =>
        have hnil : ts = [] := by simpa [closesLast] using h
        rw [hnil]
        rfl
      | succ depth => exact ih (by simpa [closesLast] using h)
    · have hcons : closesLast (depth + 1) (t :: ts) = closesLast (depth + 1) ts := by
        cases t <;> simp_all [closesLast]
      rw [outside_cons ho hc, if_neg (by omega)]
      exact ih (hcons ▸ h)

/-! ## Names with selections -/

theorem isWordChar_of_toNat_lt {c : Char} (h : c.toNat < 128) : isWordChar c = isIdentChar c := by
  simp [isWordChar, isIdentChar, h]

theorem isIdentChar_of_isDottedName {start : Bool} {cs : List Char}
    (hascii : ∀ c ∈ cs, c.toNat < 128) (h : isDottedName start cs = true) :
    ∀ c ∈ cs, isIdentChar c = true ∨ c = '.' := by
  induction cs generalizing start with
  | nil => simp
  | cons d cs ih =>
    have hrest : ∀ start, isDottedName start cs = true → ∀ c ∈ cs, isIdentChar c = true ∨ c = '.' :=
      fun _ hs => ih (fun c hc => hascii c (List.mem_cons_of_mem _ hc)) hs
    intro c hc
    cases start with
    | true =>
      simp only [isDottedName, Bool.and_eq_true] at h
      rcases List.mem_cons.mp hc with rfl | hc
      · exact Or.inl (isIdentChar_iff.mpr (Or.inl h.1))
      · exact hrest false h.2 c hc
    | false =>
      simp only [isDottedName, beq_iff_eq] at h
      split at h
      · next hdot =>
        rcases List.mem_cons.mp hc with rfl | hc
        · exact Or.inr hdot
        · exact hrest true h c hc
      · rw [Bool.and_eq_true] at h
        rcases List.mem_cons.mp hc with rfl | hc
        · rw [← isWordChar_of_toNat_lt (hascii c (by simp))]
          exact Or.inl h.1
        · exact hrest false h.2 c hc

/-- A text of letters, digits, underscores and points has no operators. -/
theorem isOperator_of_lex {flag : Bool} {cs : List Char} {ts : List Token}
    (hlex : lex flag cs = some ts) (h : ∀ c ∈ cs, isIdentChar c = true ∨ c = '.') :
    ∀ t ∈ ts, t.isOperator = false := by
  induction flag, cs using lex_induction generalizing ts with
  | nil flag =>
    rw [lex_nil] at hlex
    cases hlex
    simp
  | space flag c cs hc ih =>
    rw [lex_space hc] at hlex
    exact ih hlex fun x hx => h x (List.mem_cons_of_mem _ hx)
  | stuck flag c cs hc hnext =>
    rw [lex_stuck hc hnext] at hlex
    cases hlex
  | token flag c cs t extra hc hnext ih =>
    rw [lex_token hc hnext] at hlex
    obtain ⟨us, hus, rfl⟩ := Option.map_eq_some_iff.mp hlex
    have ht : t.isOperator = false := by
      rcases Token.next?_cases hnext with ⟨-, -, rfl⟩ | ⟨-, rfl⟩ | ⟨-, hsign⟩
      · rfl
      · rfl
      · have hchar := h c (by simp)
        rcases Token.sign_of_ofSign? hsign with rfl | rfl | rfl | rfl | rfl | rfl | rfl | rfl
        iterate 4 exact absurd hchar (by decide)
        all_goals
          cases hsign
          rfl
    intro u hu
    rcases List.mem_cons.mp hu with rfl | hu
    · exact ht
    · exact ih hus (fun x hx => h x (List.mem_cons_of_mem _ (List.mem_of_mem_drop hx))) u hu

theorem mem_of_mem_outside {t : Token} {depth : Nat} {ts : List Token}
    (h : t ∈ outside depth ts) : t ∈ ts := by
  fun_induction outside depth ts with
  | case1 => simp at h
  | case2 depth ts ih => exact List.mem_cons_of_mem _ (ih h)
  | case3 depth ts ih => exact List.mem_cons_of_mem _ (ih h)
  | case4 u ts ho hc ih =>
    rcases List.mem_cons.mp h with rfl | h
    · exact List.mem_cons_self
    · exact List.mem_cons_of_mem _ (ih h)
  | case5 depth u ts ho hc ih => exact List.mem_cons_of_mem _ (ih h)

/-! ## Numbers -/

theorem isDecimal_of_toNat_lt {c : Char} (h : c.toNat < 128) : isDecimal c = c.isDigit := by
  cases hc : c.isDigit <;> simp [isDecimal, digitValue?, h, hc]

theorem isDigits_of_ascii {cs : List Char} (hascii : ∀ c ∈ cs, c.toNat < 128)
    (h : isDigits cs = true) : IsDigits cs := by
  simp only [isDigits, Bool.and_eq_true, Bool.not_eq_true', List.isEmpty_eq_false_iff,
    List.all_eq_true] at h
  exact ⟨h.1, fun c hc => by rw [← isDecimal_of_toNat_lt (hascii c hc)]; exact h.2 c hc⟩

theorem isExponent_of_ascii {cs : List Char} (hascii : ∀ c ∈ cs, c.toNat < 128)
    (h : isExponentOrEmpty cs = true) : IsExponent cs := by
  cases cs with
  | nil => exact .none
  | cons mark cs =>
    simp only [isExponentOrEmpty, Bool.and_eq_true, Bool.or_eq_true, beq_iff_eq] at h
    obtain ⟨hmark, h⟩ := h
    split at h
    · next ds =>
      exact .signed hmark (Or.inl rfl) (isDigits_of_ascii (fun c hc => hascii c (by simp [hc])) h)
    · next ds =>
      exact .signed hmark (Or.inr rfl) (isDigits_of_ascii (fun c hc => hascii c (by simp [hc])) h)
    · exact .unsigned hmark (isDigits_of_ascii (fun c hc => hascii c (by simp [hc])) h)

theorem isNumber_of_ascii {cs : List Char} (hascii : ∀ c ∈ cs, c.toNat < 128)
    (h : isUnsignedNumber cs = true) : IsNumber (String.ofList cs) := by
  have hdigits : ∀ {ds : List Char}, (∀ c ∈ ds, c.toNat < 128) →
      ∀ c ∈ ds.takeWhile isDecimal, c.isDigit = true := by
    intro ds hds c hc
    rw [← isDecimal_of_toNat_lt (hds c (( List.takeWhile_prefix _).mem hc))]
    exact List.mem_takeWhile_imp hc
  have hsplit := List.takeWhile_append_dropWhile (p := isDecimal) (l := cs)
  simp only [isUnsignedNumber] at h
  split at h
  · next rest hrest =>
    have hmem : ∀ c ∈ rest, c ∈ cs := fun c hc =>
      (List.dropWhile_suffix isDecimal).mem (by rw [hrest]; simp [hc])
    have hpart := List.takeWhile_append_dropWhile (p := isDecimal) (l := rest)
    have hrestascii : ∀ c ∈ rest, c.toNat < 128 := fun c hc => hascii c (hmem c hc)
    simp only [Bool.and_eq_true, Bool.not_eq_true', Bool.and_eq_false_iff,
      List.isEmpty_eq_false_iff] at h
    obtain ⟨hne, hexp⟩ := h
    have hexponent := isExponent_of_ascii
      (fun c hc => hrestascii c ((List.dropWhile_suffix isDecimal).mem hc)) hexp
    have htext : cs = (cs.takeWhile isDecimal ++ '.' :: rest.takeWhile isDecimal) ++
        rest.dropWhile isDecimal := by
      rw [List.append_assoc, List.cons_append, hpart, ← hrest, hsplit]
    refine ⟨_, _, ?_, hexponent, by rw [String.toList_ofList]; exact htext⟩
    by_cases hwhole : cs.takeWhile isDecimal = []
    · rw [hwhole, List.nil_append]
      exact .fraction ⟨hne.resolve_left (fun h => h hwhole), hdigits hrestascii⟩
    · exact .point ⟨hwhole, hdigits hascii⟩ (hdigits hrestascii)
  · simp only [Bool.and_eq_true, Bool.not_eq_true', List.isEmpty_eq_false_iff] at h
    obtain ⟨hne, hexp⟩ := h
    have hexponent := isExponent_of_ascii
      (fun c hc => hascii c ((List.dropWhile_suffix isDecimal).mem hc)) hexp
    exact ⟨_, _, .whole ⟨hne, hdigits hascii⟩, hexponent, by rw [String.toList_ofList, hsplit]⟩

/-! ## Atomic texts -/

theorem dropWhile_isWordChar {cs : List Char} (h : ∀ c ∈ cs, c.toNat < 128) :
    cs.dropWhile isWordChar = cs.dropWhile isIdentChar := by
  induction cs with
  | nil => rfl
  | cons c cs ih =>
    rw [List.dropWhile_cons, List.dropWhile_cons, isWordChar_of_toNat_lt (h c (by simp)),
      ih fun x hx => h x (List.mem_cons_of_mem _ hx)]

/-- A text that starts like a call has the name and the opening parenthesis as its first tokens. -/
theorem lex_of_isCall? {cs : List Char} {ts : List Token} (hlex : lex false cs = some ts)
    (h : isCall? cs = some true) :
    ∃ fn us, ts = .name fn :: .opening :: us ∧ closesLast 1 us = true := by
  have hascii := toNat_lt_of_lex hlex
  cases cs with
  | nil => simp [isCall?] at h
  | cons c cs =>
    rw [isCall?, dropWhile_isWordChar fun x hx => hascii x (List.mem_cons_of_mem _ hx)] at h
    split at h
    · next hc =>
      split at h
      · next rest hrest =>
        rw [lex_name hc, hrest, lex_sign rfl (Or.inr (by decide))] at hlex
        obtain ⟨us, hus, rfl⟩ := Option.map_eq_some_iff.mp hlex
        obtain ⟨vs, hvs, rfl⟩ := Option.map_eq_some_iff.mp hus
        exact ⟨_, vs, rfl, closesLast_of_closesAtEnd hvs (by simpa using h)⟩
      · cases h
    · cases h

/-- An atomic text that parses is a postfixed phrase. -/
theorem Derives.postfixed_of_isAtomic {text : String} {ts : List Token} {e : Expr}
    (hatomic : isAtomic text = true) (hlex : lex false text.toList = some ts)
    (h : Derives .sum ts e) : Derives .postfixed ts e := by
  refine h.postfixed_of_outside ?_
  have htrim := lex_trim hlex
  have hascii := toNat_lt_of_lex htrim
  simp only [isAtomic] at hatomic
  split at hatomic
  · next hsimple =>
    rw [Bool.or_eq_true] at hsimple
    rcases hsimple with hname | hnumber
    · have hchars := isIdentChar_of_isDottedName hascii hname
      exact fun t ht => isOperator_of_lex htrim hchars t (mem_of_mem_outside ht)
    · have hsingle := lex_number (isNumber_of_ascii hascii hnumber)
      rw [String.toList_ofList, htrim] at hsingle
      cases hsingle
      simp [outside, Token.isOperator]
  · split at hatomic
    · next closes hcall =>
      subst hatomic
      obtain ⟨fn, us, rfl, hcloses⟩ := lex_of_isCall? htrim hcall
      simp [outside, outside_of_closesLast hcloses, Token.isOperator]
    · split at hatomic
      · next rest hrest =>
        rw [hrest, lex_sign rfl (Or.inr (by decide))] at htrim
        obtain ⟨us, hus, rfl⟩ := Option.map_eq_some_iff.mp htrim
        simp [outside, outside_of_closesLast (closesLast_of_closesAtEnd hus hatomic)]
      · cases hatomic

/-! ## Texts that a point would go on -/

theorem not_isBlank_head_trim {c : Char} {cs : List Char} (h : (trim cs).head? = some c) :
    isBlank c = false := by
  have hfront : trim cs <+: cs.dropWhile isBlank := by
    rw [trim, ← List.reverse_suffix, List.reverse_reverse]
    exact List.dropWhile_suffix _
  obtain ⟨rest, hrest⟩ := hfront
  have hhead : (cs.dropWhile isBlank).head? = some c := by
    rw [← hrest, List.head?_append, h]
    rfl
  have hnot := List.head?_dropWhile_not isBlank cs
  rwa [hhead] at hnot

theorem not_isBlank_getLast_trim {c : Char} {cs : List Char} (h : (trim cs).getLast? = some c) :
    isBlank c = false := by
  rw [trim, List.getLast?_reverse] at h
  have hnot := List.head?_dropWhile_not isBlank (cs.dropWhile isBlank).reverse
  rwa [h] at hnot

theorem isBlank_of_isSpace {c : Char} (h : Token.isSpace c = true) : isBlank c = true := by
  rw [isSpace_iff] at h
  simp only [isBlank, inRanges, List.any_cons, List.any_nil, Bool.or_false, Bool.or_eq_true,
    Bool.and_eq_true, decide_eq_true_eq]
  omega

/-- Only blanks have no tokens. -/
theorem isSpace_of_lex_nil {flag : Bool} {cs : List Char} (h : lex flag cs = some []) :
    ∀ c ∈ cs, Token.isSpace c = true := by
  induction cs with
  | nil => simp
  | cons c cs ih =>
    by_cases hc : Token.isSpace c = true
    · rw [lex_space hc] at h
      intro x hx
      rcases List.mem_cons.mp hx with rfl | hx
      · exact hc
      · exact ih h x hx
    · exfalso
      cases hnext : Token.next? flag c cs with
      | none =>
        rw [lex_stuck hc hnext] at h
        cases h
      | some result =>
        rw [lex_token hc hnext] at h
        obtain ⟨us, -, hnil⟩ := Option.map_eq_some_iff.mp h
        cases hnil

/-- A text whose only token is a number of digits has only digits between its blanks. -/
theorem isDigits_trim_of_lex {text : String} {cs : List Char}
    (hlex : lex false cs = some [.number text]) (h : Token.isInteger (.number text) = true) :
    isDigits (trim cs) = true := by
  have htrim := lex_trim hlex
  cases hcs : trim cs with
  | nil =>
    rw [hcs, lex_nil] at htrim
    cases htrim
  | cons c rest =>
    have hc : ¬ Token.isSpace c = true := by
      intro hspace
      have hhead : (trim cs).head? = some c := by
        rw [hcs]
        rfl
      have hblank := not_isBlank_head_trim hhead
      rw [isBlank_of_isSpace hspace] at hblank
      cases hblank
    rw [hcs] at htrim
    cases hnext : Token.next? false c rest with
    | none =>
      rw [lex_stuck hc hnext] at htrim
      cases htrim
    | some result =>
      obtain ⟨t, extra⟩ := result
      rw [lex_token hc hnext] at htrim
      obtain ⟨us, hus, heq⟩ := Option.map_eq_some_iff.mp htrim
      cases heq
      have hdrop : rest.drop extra = [] := by
        -- What is left after the number are blanks, and a trimmed text does not end with one.
        by_contra hne
        obtain ⟨x, hx⟩ := List.getLast?_isSome.mpr hne |> Option.isSome_iff_exists.mp
        have hspace := isSpace_of_lex_nil hus x (List.mem_of_getLast? hx)
        have hlast : (trim cs).getLast? = some x := by
          rw [hcs, ← List.take_append_drop extra rest, ← List.cons_append, List.getLast?_append, hx]
          rfl
        have hblank := not_isBlank_getLast_trim hlast
        rw [isBlank_of_isSpace hspace] at hblank
        cases hblank
      have hwhole : text = String.ofList (c :: rest) := by
        have htake : rest.take extra = rest := by
          rw [← List.append_nil (rest.take extra), ← hdrop, List.take_append_drop]
        rcases Token.next?_cases hnext with ⟨-, -, ht⟩ | ⟨-, ht⟩ | ⟨-, hsign⟩
        · cases ht
        · rw [htake] at ht
          exact Token.number.inj ht
        · rcases Token.sign_of_ofSign? hsign with rfl | rfl | rfl | rfl | rfl | rfl | rfl | rfl <;>
            cases hsign
      rw [Token.isInteger, hwhole, String.toList_ofList, List.all_eq_true] at h
      simp only [isDigits, List.isEmpty_cons, Bool.not_false, Bool.true_and, List.all_eq_true]
      intro x hx
      have hdigit := h x hx
      rw [isDecimal_of_toNat_lt (by rw [isDigit_iff] at hdigit; omega)]
      exact hdigit

/-- The only postfixed phrase that ends with a number is the number itself. -/
theorem Derives.eq_number_of_getLast {ts : List Token} {e : Expr} {text : String}
    (h : Derives .postfixed ts e) (hlast : ts.getLast? = some (.number text)) :
    ts = [.number text] := by
  cases h with
  | @swizzle us e fields h => simp at hlast
  | primary h =>
    cases h with
    | number t => simpa using hlast
    | name ident => simp at hlast
    | @call fn args h =>
      rw [← List.cons_append, ← List.cons_append, List.getLast?_append] at hlast
      simp at hlast
    | @group us e h =>
      rw [← List.cons_append, List.getLast?_append] at hlast
      simp at hlast

/-- A point after a postfixed phrase is a token of its own unless the phrase is a number of digits
only. -/
theorem isInteger_getLast {text : String} {ts : List Token} {e : Expr}
    (hlex : lex false text.toList = some ts) (h : Derives .postfixed ts e)
    (hdigits : isDigits (trim text.toList) = false) : ∀ t ∈ ts.getLast?, t.isInteger = false := by
  intro t ht
  by_contra hint
  rw [Bool.not_eq_false] at hint
  cases t with
  | number n =>
    rw [h.eq_number_of_getLast ht] at hlex
    rw [isDigits_trim_of_lex hlex hint] at hdigits
    cases hdigits
  | _ => cases hint

end SignedDistance
