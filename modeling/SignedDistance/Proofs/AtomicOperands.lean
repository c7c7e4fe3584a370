import Mathlib
import SignedDistance.Proofs.Lexemes
import SignedDistance.Proofs.RoundTrip

/-!
# Parentheses around atomic operands

An atomic text that parses can stand as an operand without parentheses: wherever it is put in the
place of the same text in parentheses, the whole is parsed as the same expression, and conversely
(`parse_parentheses_iff`). Two facts are behind this. The machine goes on in the same way after any
two postfixed phrases for one expression (`Derives.replace`). And no token reaches over the ends of
an operand: what stands before it ends with a sign, which no number takes as that of its exponent,
because in no sentence a name follows a number directly.
-/

namespace SignedDistance

open Text

/-! ## Places of operands -/

/-- Whether an operand can follow the token: an operator or a sign, an opening parenthesis or a
comma. -/
def Token.opensOperand : Token → Bool
  | plus | minus | star | slash | opening | comma => true
  | _ => false

/-- Whether the token can follow an operand: an operator, a point, a comma or a closing
parenthesis. -/
def Token.followsOperand : Token → Bool
  | plus | minus | star | slash | dot | comma | closing => true
  | _ => false

/-- The text `before ++ operand ++ after` is parsed as `tree`, and `operand` is an operand in it. It
is made of whole tokens; before it stand an operator or a sign, an opening parenthesis, a comma or
nothing, and after it an operator, a point, a comma, a closing parenthesis or nothing. -/
structure OperandIn (before operand after : String) (tree : Expr) : Prop where
  parse_eq : parse (before ++ operand ++ after) = .ok tree
  cut : ∃ ts us vs, Tokenizes false (before ++ operand ++ after).toList (ts ++ us ++ vs) ∧
    Tokenizes false before.toList ts ∧ Tokenizes false operand.toList us ∧
    Tokenizes true after.toList vs ∧ (∀ t ∈ ts.getLast?, t.opensOperand = true) ∧
    ∀ t ∈ vs.head?, t.followsOperand = true

/-- Whether the last character of a text, blanks apart, belongs to a name or a number. An opening
parenthesis after a name is that of a call. -/
def endsWithName (text : String) : Bool :=
  (text.toList.reverse.dropWhile Token.isSpace).head?.any isIdentChar

/-! ## The machine at an operand -/

namespace ParseState

variable {s s' : ParseState} {t : Token}

/-- An operand is wanted after a token that opens one. -/
theorem focus_of_opensOperand (ht : t.opensOperand = true) (hstep : s.step t = some s') :
    ∃ closable, s'.focus = .wanted closable := by
  have hoperand : ∀ e, s.stepOperand e t = some s' → ∃ closable, s'.focus = .wanted closable := by
    intro e h
    cases t with
    | comma =>
      unfold stepOperand at h
      dsimp only at h
      split at h
      · cases h
        exact ⟨false, rfl⟩
      · cases h
    | plus => cases h; exact ⟨false, rfl⟩
    | minus => cases h; exact ⟨false, rfl⟩
    | star => cases h; exact ⟨false, rfl⟩
    | slash => cases h; exact ⟨false, rfl⟩
    | opening => cases h
    | _ => cases ht
  unfold step at hstep
  split at hstep
  · cases t with
    | plus => cases hstep; exact ⟨false, rfl⟩
    | minus => cases hstep; exact ⟨false, rfl⟩
    | opening => cases hstep; exact ⟨false, rfl⟩
    | star => cases hstep
    | slash => cases hstep
    | comma => cases hstep
    | _ => cases ht
  · exact hoperand _ hstep
  · split at hstep
    · cases hstep
      exact ⟨true, rfl⟩
    · exact hoperand _ hstep
  · cases t with
    | name ident => cases ht
    | _ => cases hstep

theorem exists_of_steps_concat {ts : List Token} (h : s.steps (ts ++ [t]) = some s') :
    ∃ s₀, s.steps ts = some s₀ ∧ s₀.step t = some s' := by
  rw [steps_append] at h
  obtain ⟨s₀, hs₀, hlast⟩ := Option.bind_eq_some_iff.mp h
  rw [steps_cons] at hlast
  obtain ⟨s₁, hstep, hnil⟩ := Option.bind_eq_some_iff.mp hlast
  cases hnil
  exact ⟨s₀, hs₀, hstep⟩

/-- After a token that opens an operand, or before the first one, an operand is wanted. -/
theorem focus_of_steps {ts : List Token} (hts : ∀ t ∈ ts.getLast?, t.opensOperand = true)
    (hsteps : init.steps ts = some s) : ∃ closable, s.focus = .wanted closable := by
  rcases List.eq_nil_or_concat ts with rfl | ⟨us, t, rfl⟩
  · cases hsteps
    exact ⟨false, rfl⟩
  · rw [List.concat_eq_append] at hsteps
    obtain ⟨s₀, -, hstep⟩ := exists_of_steps_concat hsteps
    exact focus_of_opensOperand (hts t (by simp)) hstep

/-- Where an operand has been read, the machine goes on with what is pending around it. -/
theorem finish_congr {e : Expr} {ts : List Token} (hbrackets : s.brackets = s'.brackets)
    (hpending : s.pending = s'.pending) (h : s.operand? = some e) (h' : s'.operand? = some e)
    (hts : ∀ t ∈ ts.head?, t.followsOperand = true) :
    (s.steps ts).bind finish? = (s'.steps ts).bind finish? := by
  cases ts with
  | nil =>
    rw [steps_nil, steps_nil, Option.bind_some, Option.bind_some, finish?, finish?, h, h',
      hbrackets, hpending]
  | cons t ts =>
    have hopening : t ≠ .opening := by
      rintro rfl
      cases hts _ rfl
    have hstep : s.stepOperand e t = s'.stepOperand e t := by
      obtain ⟨brackets, pending, focus⟩ := s
      obtain ⟨brackets', pending', focus'⟩ := s'
      cases hbrackets
      cases hpending
      cases t <;> rfl
    rw [steps_cons, steps_cons, step_of_operand? h hopening, step_of_operand? h' hopening, hstep]

end ParseState

/-- Postfixed phrases for one expression can replace each other as operands. -/
theorem Derives.replace {ts us us' vs : List Token} {e tree : Expr} (hus : Derives .postfixed us e)
    (hus' : Derives .postfixed us' e) (hts : ∀ t ∈ ts.getLast?, t.opensOperand = true)
    (hvs : ∀ t ∈ vs.head?, t.followsOperand = true) (h : Derives .sum (ts ++ us ++ vs) tree) :
    Derives .sum (ts ++ us' ++ vs) tree := by
  have hfinish : ∀ ws, Derives .sum ws tree ↔
      (ParseState.init.steps ws).bind ParseState.finish? = some tree := fun ws => by
    rw [derives_iff_steps, Option.bind_eq_some_iff]
  rw [hfinish, ParseState.steps_append, ParseState.steps_append] at h ⊢
  cases hs : ParseState.init.steps ts with
  | none =>
    rw [hs] at h
    cases h
  | some s =>
    obtain ⟨closable, hfocus⟩ := ParseState.focus_of_steps hts hs
    obtain ⟨brackets, pending, focus⟩ := s
    cases hfocus
    obtain ⟨s₁, hsteps, hbrackets, hpending, hoperand⟩ := hus.reads brackets pending closable
    obtain ⟨s₂, hsteps', hbrackets', hpending', hoperand'⟩ := hus'.reads brackets pending closable
    rw [hs, Option.bind_some, hsteps, Option.bind_some] at h
    rw [Option.bind_some, hsteps', Option.bind_some, ← h]
    exact ParseState.finish_congr (hbrackets'.trans hbrackets.symm) (hpending'.trans hpending.symm)
      hoperand' hoperand hvs

/-- No sentence has a name directly after a number. -/
theorem ParseState.steps_number_name (s : ParseState) (us : List Token) (n m : String) :
    s.steps (us ++ [.number n, .name m]) = none := by
  rw [steps_append]
  cases s.steps us with
  | none => rfl
  | some s₀ =>
    obtain ⟨brackets, pending, focus⟩ := s₀
    cases focus <;> rfl

/-! ## Signs after numbers -/

/-- The only sign inside of a number stands after the mark of its exponent. -/
theorem IsNumber.before_sign {text : String} (h : IsNumber text) {c : Char} {sign : Token}
    (hsign : Token.ofSign? c = some sign) (hdot : c ≠ '.') {xs ys : List Char}
    (htext : text.toList = xs ++ c :: ys) :
    ∃ m mark, IsMantissa m ∧ (mark = 'e' ∨ mark = 'E') ∧ xs = m ++ [mark] := by
  obtain ⟨m, x, hm, hx, hmx⟩ := h
  have hdigit : c.isDigit = false := (isIdentStart_eq_false_of_ofSign? hsign).2.1
  have hmark : ∀ mark : Char, mark = 'e' ∨ mark = 'E' → c ≠ mark := by
    rintro mark (rfl | rfl) rfl <;> cases hsign
  have hdigits : ∀ ds : List Char, IsDigits ds → c ∉ ds := by
    intro ds hds hc
    rw [hds.2 c hc] at hdigit
    cases hdigit
  rw [htext] at hmx
  rcases List.append_eq_append_iff.mp hmx with ⟨bs, hbs, hcx⟩ | ⟨bs, hbs, hcx⟩
  · -- the sign would be among the digits or start the exponent
    cases bs with
    | nil =>
      cases hx with
      | none => cases hcx
      | unsigned hm' hds => exact absurd (List.cons.inj hcx).1 (hmark _ hm')
      | signed hm' hs hds => exact absurd (List.cons.inj hcx).1 (hmark _ hm')
    | cons b bs =>
      have hc : c ∈ m := by
        rw [hbs, (List.cons.inj hcx).1]
        simp
      rcases hm.isDigit_or_point c hc with hc | hc
      · rw [hc] at hdigit
        cases hdigit
      · exact absurd hc hdot
  · cases hx with
    | none => simp at hcx
    | @unsigned mark ds hm' hds =>
      cases bs with
      | nil => exact absurd (List.cons.inj hcx).1.symm (hmark _ hm')
      | cons b bs =>
        have hc : c ∈ ds := by
          rw [(List.cons.inj hcx).2]
          simp
        exact absurd hc (hdigits ds hds)
    | @signed mark sign' ds hm' hs hds =>
      rcases bs with _ | ⟨b, _ | ⟨b', bs⟩⟩
      · exact absurd (List.cons.inj hcx).1.symm (hmark _ hm')
      · rw [← (List.cons.inj hcx).1] at hbs
        exact ⟨m, mark, hm, hm', hbs⟩
      · have hc : c ∈ ds := by
          rw [(List.cons.inj (List.cons.inj hcx).2).2]
          simp
        exact absurd hc (hdigits ds hds)

section Cutting

variable {flag : Bool} {lexeme rest xs ys : List Char} {c : Char} {t sign : Token}
  {ts us vs : List Token}

theorem isIdentChar_eq_false_of_ofSign? (hsign : Token.ofSign? c = some sign) :
    isIdentChar c = false := by
  obtain ⟨hstart, hdigit, -⟩ := isIdentStart_eq_false_of_ofSign? hsign
  by_contra hident
  rw [Bool.not_eq_false, isIdentChar_iff, hstart, hdigit] at hident
  simp at hident

theorem isSpace_eq_false_of_isIdentChar (h : isIdentChar c = true) : Token.isSpace c = false := by
  have hvisible := toNat_of_isIdentChar h
  by_contra hspace
  rw [Bool.not_eq_false, isSpace_iff] at hspace
  omega

/-- The mark of an exponent alone does not go on a number. -/
theorem isLongest_mantissa {m : List Char} {mark : Char} (hm : IsMantissa m)
    (hmark : mark = 'e' ∨ mark = 'E') (hpoint : flag = true → m.head? ≠ some '.') :
    IsLongest flag (m ++ [mark]) m (.number (String.ofList m)) := by
  have hhead : ∀ c ∈ [mark].head?, c.isDigit = false ∧ c ≠ '.' := by
    rcases hmark with rfl | rfl <;> simp
  have hmantissa : Token.mantissa (m ++ [mark]) = m := Token.mantissa_of_isMantissa hm hhead
  have hexponent : Token.exponent [mark] = [] := by
    rcases hmark with rfl | rfl <;> rfl
  have hne := hm.ne_nil
  have hnumeral : Token.numeral (m ++ [mark]) = m := by
    simp [Token.numeral, hmantissa, hexponent, hne]
  obtain ⟨d, ds, hd⟩ := List.exists_cons_of_ne_nil hne
  rw [hd, List.cons_append] at hnumeral ⊢
  have hlongest := @isLongest_number flag d (ds ++ [mark])
    (fun hflag hdot => hpoint hflag (by rw [hd, hdot]; rfl)) (by simp [hnumeral])
  rwa [hnumeral] at hlongest

/-- A sign does not go on the longest lexeme of a text, unless the text is a number with the mark of
an exponent after it. -/
theorem IsLongest.append_sign (h : IsLongest flag (lexeme ++ rest) lexeme t)
    (hsign : Token.ofSign? c = some sign) (hdot : c ≠ '.')
    (hmark : ∀ text, t = .number text → rest ≠ ['e'] ∧ rest ≠ ['E']) (ys : List Char) :
    IsLongest flag (lexeme ++ (rest ++ c :: ys)) lexeme t := by
  refine ⟨h.isLexeme, List.prefix_append _ _, fun other t' hother hprefix => ?_⟩
  rw [← List.append_assoc] at hprefix
  by_cases hshort : other.length ≤ (lexeme ++ rest).length
  · have hwithin : other <+: lexeme ++ rest :=
      List.prefix_of_prefix_length_le hprefix (List.prefix_append _ _) hshort
    exact h.longest other t' hother hwithin
  -- a longer lexeme would hold the sign, so it would be a number with this sign in its exponent
  exfalso
  obtain ⟨more, rfl⟩ : ∃ more, other = (lexeme ++ rest) ++ c :: more := by
    obtain ⟨more, rfl⟩ : lexeme ++ rest <+: other :=
      List.prefix_of_prefix_length_le (List.prefix_append _ _) hprefix (by omega)
    cases more with
    | nil => simp at hshort
    | cons d more =>
      have hd := (List.prefix_append_right_inj _).mp hprefix
      rw [(List.cons_prefix_cons.mp hd).1]
      exact ⟨more, rfl⟩
  obtain ⟨d, ds, rfl, -⟩ := h.isLexeme.head
  obtain ⟨b, bs, hb, hkind⟩ := hother.head
  obtain ⟨rfl, rfl⟩ := List.cons.inj hb
  rcases hkind with ⟨-, hident, -⟩ | ⟨-, hnumber, hpoint, -⟩ | ⟨hnil, -⟩
  · have hc := hident c (by simp)
    rw [isIdentChar_eq_false_of_ofSign? hsign] at hc
    cases hc
  · obtain ⟨m, mark, hm, hmark', heq⟩ :=
      hnumber.before_sign hsign hdot (by rw [String.toList_ofList])
    have hfirst : m.head? = some d := by
      rw [← List.head?_append_of_ne_nil m (hm.ne_nil), ← heq]
      rfl
    have hlongest : IsLongest flag (m ++ [mark]) m (.number (String.ofList m)) :=
      isLongest_mantissa hm hmark' (by rw [hfirst]; simpa using hpoint)
    rw [heq] at h
    obtain ⟨hlexeme, ht⟩ := h.unique hlongest
    have hrest : rest = [mark] := by
      rw [hlexeme] at heq
      exact List.append_cancel_left heq
    rcases hmark' with rfl | rfl
    · exact (hmark _ ht).1 hrest
    · exact (hmark _ ht).2 hrest
  · simp at hnil

/-- A sign after tokens of which no last one is a name after a number. -/
theorem Tokenizes.append_sign (h : Tokenizes flag xs ts) (hsign : Token.ofSign? c = some sign)
    (hdot : c ≠ '.') (hname : ∀ us n m, ts ≠ us ++ [.number n, .name m])
    (hys : Tokenizes sign.endsOperand ys vs) :
    Tokenizes flag (xs ++ c :: ys) (ts ++ sign :: vs) := by
  induction h with
  | nil flag =>
    have hlex := @lex_sign flag c ys sign hsign (Or.inr hdot)
    rw [lex_eq_some_iff.mpr hys] at hlex
    exact lex_eq_some_iff.mp hlex
  | space hc h ih => exact .space hc (ih hname)
  | @token flag lexeme rest t ts hlexeme h ih =>
    have hmark : ∀ mark : Char, isIdentifier (String.ofList [mark]) = true →
        ∀ text, t = .number text → rest ≠ [mark] := by
      rintro mark hident text rfl rfl
      have hlex := @lex_identifier (Token.endsOperand (.number text)) _ hident
      rw [String.toList_ofList, lex_eq_some_iff.mpr h] at hlex
      exact hname [] text _ (by rw [Option.some.inj hlex]; rfl)
    rw [List.append_assoc, List.cons_append]
    refine .token (hlexeme.append_sign hsign hdot (fun text ht => ?_) ys) (ih fun us n m heq => ?_)
    · exact ⟨hmark 'e' (by decide) text ht, hmark 'E' (by decide) text ht⟩
    · exact hname (t :: us) n m (by rw [heq]; rfl)

/-- The last token of a text and what stands before it. -/
theorem Tokenizes.last (h : Tokenizes flag xs (us ++ [t])) :
    ∃ xs' lexeme blanks, xs = xs' ++ (lexeme ++ blanks) ∧ (∃ flag', Lexeme flag' lexeme t) ∧
      (∀ b ∈ blanks, Token.isSpace b = true) ∧ Tokenizes flag xs' us := by
  generalize hts : us ++ [t] = ts at h
  induction h generalizing us with
  | nil flag => simp at hts
  | @space flag c cs ts hc h ih =>
    obtain ⟨xs', lexeme, blanks, rfl, hlexeme, hblanks, hxs'⟩ := ih hts
    exact ⟨c :: xs', lexeme, blanks, rfl, hlexeme, hblanks, .space hc hxs'⟩
  | @token flag first rest t' ts hfirst h ih =>
    cases us with
    | nil =>
      obtain ⟨rfl, rfl⟩ := List.cons.inj hts
      exact ⟨[], first, rest, rfl, ⟨flag, hfirst.isLexeme⟩,
        isSpace_of_lex_nil (lex_eq_some_iff.mpr h), .nil flag⟩
    | cons u us =>
      obtain ⟨rfl, hrest⟩ := List.cons.inj hts
      obtain ⟨xs', lexeme, blanks, rfl, hlexeme, hblanks, hxs'⟩ := ih hrest
      refine ⟨first ++ xs', lexeme, blanks, by simp, hlexeme, hblanks, .token ?_ hxs'⟩
      -- the longest lexeme stays the longest if the text is cut behind it
      refine ⟨hfirst.isLexeme, List.prefix_append _ _, fun other t'' hother hfront => ?_⟩
      exact hfirst.longest other t'' hother (hfront.trans ⟨lexeme ++ blanks, by simp⟩)

/-! ## The ends of an operand -/

theorem lex_spaces (h : ∀ b ∈ xs, Token.isSpace b = true) (ys : List Char) :
    lex flag (xs ++ ys) = lex flag ys := by
  induction xs with
  | nil => rfl
  | cons b xs ih =>
    obtain ⟨hb, hxs⟩ := List.forall_mem_cons.mp h
    rw [List.cons_append, lex_space hb, ih hxs]

/-- The tokens that open an operand are signs other than the point. -/
theorem Lexeme.sign_of_opensOperand (h : Lexeme flag lexeme t) (ht : t.opensOperand = true) :
    ∃ c, lexeme = [c] ∧ Token.ofSign? c = some t ∧ c ≠ '.' := by
  cases h with
  | name h => cases ht
  | number h hpoint => cases ht
  | @sign c token hsign =>
    refine ⟨c, rfl, hsign, ?_⟩
    rintro rfl
    cases hsign
    cases ht

theorem Token.endsOperand_of_opensOperand (h : t.opensOperand = true) : t.endsOperand = false := by
  cases t with
  | name ident => cases h
  | number text => cases h
  | closing => cases h
  | _ => rfl

theorem ne_number_name_of_steps {s s' : ParseState} (h : s.steps ts = some s') :
    ∀ us n m, ts ≠ us ++ [.number n, .name m] := by
  rintro us n m rfl
  rw [s.steps_number_name] at h
  cases h

/-- What stands before an operand ends where the operand starts. -/
theorem lex_before {s : ParseState} (hlex : lex false xs = some ts)
    (hsteps : ParseState.init.steps ts = some s) (hts : ∀ t ∈ ts.getLast?, t.opensOperand = true)
    (hys : lex false ys = some vs) : lex false (xs ++ ys) = some (ts ++ vs) := by
  rcases List.eq_nil_or_concat ts with rfl | ⟨us, t, rfl⟩
  · rw [lex_spaces (isSpace_of_lex_nil hlex), hys]
    rfl
  · rw [List.concat_eq_append] at hlex hsteps hts ⊢
    have ht : t.opensOperand = true := hts t (by simp)
    obtain ⟨s₀, hs₀, -⟩ := ParseState.exists_of_steps_concat hsteps
    obtain ⟨xs', lexeme, blanks, rfl, ⟨flag', hlexeme⟩, hblanks, hxs'⟩ :=
      (lex_eq_some_iff.mp hlex).last
    obtain ⟨c, rfl, hsign, hdot⟩ := hlexeme.sign_of_opensOperand ht
    have hrest : Tokenizes t.endsOperand (blanks ++ ys) vs := by
      rw [Token.endsOperand_of_opensOperand ht, ← lex_eq_some_iff, lex_spaces hblanks, hys]
    have hall := hxs'.append_sign hsign hdot (ne_number_name_of_steps hs₀) hrest
    rw [lex_eq_some_iff]
    simpa using hall

/-- An operand ends where what follows it starts. -/
theorem lex_after {e : Expr} (hlex : lex false xs = some us) (hus : Derives .postfixed us e)
    (hpoint : ys.head? = some '.' → ∀ t ∈ us.getLast?, t.isInteger = false)
    (hys : lex true ys = some vs) (hvs : ∀ t ∈ vs.head?, t.followsOperand = true) :
    lex false (xs ++ ys) = some (us ++ vs) := by
  -- a blank, a point or nothing breaks off every token of the operand
  have hbreaks : Breaks ys → lex false (xs ++ ys) = some (us ++ vs) := by
    intro hbreaks
    have hlast : ys.head? = some '.' →
        ∀ ts, lex false xs = some ts → ∀ t ∈ ts.getLast?, t.isInteger = false := by
      intro hhead ts hts
      rw [hlex] at hts
      cases hts
      exact hpoint hhead
    rw [lex_append hbreaks hlast, hlex, Option.bind_some, hus.flagAfter, hys]
    rfl
  cases ys with
  | nil => exact hbreaks (by simp [Breaks])
  | cons c cs =>
    by_cases hc : Token.isSpace c = true
    · refine hbreaks (breaks_cons.mpr ⟨?_, ?_, ?_⟩)
      · by_contra hident
        rw [isSpace_eq_false_of_isIdentChar (by simpa using hident)] at hc
        cases hc
      · rintro rfl
        exact absurd hc (by decide)
      · rintro rfl
        exact absurd hc (by decide)
    · cases hnext : Token.next? true c cs with
      | none =>
        rw [lex_stuck hc hnext] at hys
        cases hys
      | some result =>
        obtain ⟨v, extra⟩ := result
        rw [lex_token hc hnext] at hys
        obtain ⟨ws, hws, rfl⟩ := Option.map_eq_some_iff.mp hys
        have hv : v.followsOperand = true := hvs v rfl
        rcases Token.next?_cases hnext with ⟨-, -, rfl⟩ | ⟨-, rfl⟩ | ⟨rfl, hsign⟩
        · cases hv
        · cases hv
        · by_cases hdot : c = '.'
          · subst hdot
            exact hbreaks (breaks_cons.mpr (by decide))
          · obtain ⟨s, hsteps, -⟩ := derives_iff_steps.mp hus.postfixed.unary.product
            rw [List.drop_zero] at hws
            exact lex_eq_some_iff.mpr ((lex_eq_some_iff.mp hlex).append_sign hsign hdot
              (ne_number_name_of_steps hsteps) (lex_eq_some_iff.mp hws))

/-- The tokens of a text with a part in parentheses. -/
theorem lex_group {before text after : List Char} (htext : lex false text = some us) :
    lex false (before ++ '(' :: (text ++ ')' :: after)) =
      (lex false before).bind fun ts => (lex true after).map fun vs =>
        ts ++ (.opening :: (us ++ [.closing])) ++ vs := by
  have hclosing : Token.endsOperand .closing = true := rfl
  have hopening : Token.endsOperand .opening = false := rfl
  have hinner : lex false (text ++ ')' :: after) =
      (lex true after).map fun vs => us ++ .closing :: vs := by
    rw [lex_append (breaks_cons.mpr (by decide)) (by simp), htext, Option.bind_some,
      lex_sign rfl (by simp), hclosing, Option.map_map]
    rfl
  rw [lex_append (breaks_cons.mpr (by decide)) (by simp)]
  congr 1
  funext ts
  rw [lex_sign rfl (by simp), hopening, hinner, Option.map_map, Option.map_map]
  congr 1
  funext vs
  simp

end Cutting

/-! ## Parentheses that are not those of a call -/

namespace ParseState

variable {s s' : ParseState} {t : Token} {ts : List Token}

theorem focus_of_closing (hstep : s.step .closing = some s') : ∃ e, s'.focus = .operand e := by
  have hoperand : ∀ e, s.stepOperand e .closing = some s' → ∃ e, s'.focus = .operand e := by
    intro e h
    unfold stepOperand at h
    dsimp only at h
    split at h
    · cases h
      exact ⟨_, rfl⟩
    · cases h
      exact ⟨_, rfl⟩
    · cases h
  unfold step at hstep
  split at hstep
  · unfold stepWanted at hstep
    dsimp only at hstep
    split at hstep
    · cases hstep
      exact ⟨_, rfl⟩
    · cases hstep
  · exact hoperand _ hstep
  · exact hoperand _ hstep
  · cases hstep

/-- A parenthesis can be opened only where an operand is wanted, or after a name. -/
theorem opensOperand_of_opening (hstep : s.step t = some s') (hopening : s'.step .opening ≠ none)
    (hname : ∀ n, t ≠ .name n) : t.opensOperand = true := by
  cases t with
  | name n => exact absurd rfl (hname n)
  | closing =>
    obtain ⟨e, hfocus⟩ := focus_of_closing hstep
    rw [step, hfocus] at hopening
    exact absurd rfl hopening
  | number text =>
    obtain ⟨brackets, pending, focus⟩ := s
    cases focus with
    | wanted closable => cases hstep; exact absurd rfl hopening
    | _ => cases hstep
  | dot =>
    obtain ⟨brackets, pending, focus⟩ := s
    cases focus with
    | operand e => cases hstep; exact absurd rfl hopening
    | ident name => cases hstep; exact absurd rfl hopening
    | _ => cases hstep
  | _ => rfl

theorem opensOperand_of_steps (hsteps : init.steps ts = some s) (hopening : s.step .opening ≠ none)
    (hname : ∀ n, ts.getLast? ≠ some (.name n)) : ∀ t ∈ ts.getLast?, t.opensOperand = true := by
  intro t ht
  obtain ⟨us, rfl⟩ := List.getLast?_eq_some_iff.mp ht
  obtain ⟨s₀, -, hstep⟩ := exists_of_steps_concat hsteps
  refine opensOperand_of_opening hstep hopening ?_
  rintro n rfl
  exact hname n ht

theorem followsOperand_of_steps {e : Expr} (hfocus : s.focus = .operand e)
    (hsteps : s.steps ts = some s') : ∀ t ∈ ts.head?, t.followsOperand = true := by
  intro t ht
  cases ts with
  | nil => cases ht
  | cons u us =>
    cases ht
    rw [steps_cons] at hsteps
    obtain ⟨s₁, hstep, -⟩ := Option.bind_eq_some_iff.mp hsteps
    rw [step, hfocus] at hstep
    cases t with
    | name n => cases hstep
    | number n => cases hstep
    | opening => cases hstep
    | _ => rfl

end ParseState

/-- The last character of a text, apart from blanks, is the last one of its last token. -/
theorem endsWithName_of_lexeme {text : String} {xs lexeme blanks : List Char} {c : Char}
    (htext : text.toList = xs ++ (lexeme ++ [c] ++ blanks)) (hc : Token.isSpace c = false)
    (hblanks : ∀ b ∈ blanks, Token.isSpace b = true) : endsWithName text = isIdentChar c := by
  have hreverse : text.toList.reverse = blanks.reverse ++ c :: (lexeme.reverse ++ xs.reverse) := by
    rw [htext]
    simp
  rw [endsWithName, hreverse, List.dropWhile_append_of_pos (by simpa using hblanks),
    List.dropWhile_cons_of_neg (by simp [hc])]
  rfl

section Parentheses

variable {before text after : String} {ts us vs : List Token} {e tree : Expr}

theorem endsWithName_of_opensOperand (hlex : Tokenizes false before.toList ts)
    (hts : ∀ t ∈ ts.getLast?, t.opensOperand = true) : endsWithName before = false := by
  rcases List.eq_nil_or_concat ts with rfl | ⟨us, t, rfl⟩
  · have hblanks := isSpace_of_lex_nil (lex_eq_some_iff.mpr hlex)
    rw [endsWithName, List.dropWhile_eq_nil_iff.mpr (by simpa using hblanks)]
    rfl
  · rw [List.concat_eq_append] at hlex hts
    obtain ⟨xs, lexeme, blanks, htext, ⟨flag, hlexeme⟩, hblanks, -⟩ := hlex.last
    obtain ⟨c, rfl, hsign, -⟩ := hlexeme.sign_of_opensOperand (hts t (by simp))
    rw [@endsWithName_of_lexeme before xs [] blanks c htext
      (isIdentStart_eq_false_of_ofSign? hsign).2.2 hblanks]
    exact isIdentChar_eq_false_of_ofSign? hsign

theorem endsWithName_of_name {n : String} (hlex : Tokenizes false before.toList ts)
    (hlast : ts.getLast? = some (.name n)) : endsWithName before = true := by
  obtain ⟨us, rfl⟩ := List.getLast?_eq_some_iff.mp hlast
  obtain ⟨xs, lexeme, blanks, htext, ⟨flag, hlexeme⟩, hblanks, -⟩ := hlex.last
  have hident : ∀ c ∈ lexeme, isIdentChar c = true := by
    obtain ⟨b, bs, rfl, hkind⟩ := hlexeme.head
    rcases hkind with ⟨hb, hbs, -⟩ | ⟨-, -, -, hnumber⟩ | ⟨-, hsign⟩
    · exact List.forall_mem_cons.mpr ⟨isIdentChar_iff.mpr (Or.inl hb), hbs⟩
    · cases hnumber
    · rcases Token.sign_of_ofSign? hsign with rfl | rfl | rfl | rfl | rfl | rfl | rfl | rfl <;>
        cases hsign
  rcases List.eq_nil_or_concat lexeme with rfl | ⟨cs, c, rfl⟩
  · obtain ⟨b, bs, hnil, -⟩ := hlexeme.head
    cases hnil
  · rw [List.concat_eq_append] at htext hident
    have hc : isIdentChar c = true := hident c (by simp)
    rw [endsWithName_of_lexeme htext (isSpace_eq_false_of_isIdentChar hc) hblanks, hc]

/-- The text with the parentheses, character by character. -/
theorem toList_parentheses (before text after : String) :
    (before ++ "(" ++ text ++ ")" ++ after).toList =
      before.toList ++ '(' :: (text.toList ++ ')' :: after.toList) := by
  simp

theorem toList_operand (before text after : String) :
    (before ++ text ++ after).toList = before.toList ++ (text.toList ++ after.toList) := by
  simp

/-- Without its parentheses, which are not those of a call, a text is an operand. -/
theorem OperandIn.of_parentheses (hlex : lex false text.toList = some us)
    (hus : Derives .postfixed us e)
    (hpoint : after.toList.head? = some '.' → ∀ t ∈ us.getLast?, t.isInteger = false)
    (hparse : parse (before ++ "(" ++ text ++ ")" ++ after) = .ok tree)
    (hname : endsWithName before = false) : OperandIn before text after tree := by
  obtain ⟨all, hall, hderives⟩ := parse_eq_ok_iff.mp hparse
  rw [toList_parentheses, lex_group hlex] at hall
  obtain ⟨ts, hts, hmap⟩ := Option.bind_eq_some_iff.mp hall
  obtain ⟨vs, hvs, rfl⟩ := Option.map_eq_some_iff.mp hmap
  -- the tokens around the parentheses are those that can stand around an operand
  obtain ⟨s, hsteps, -⟩ := derives_iff_steps.mp hderives
  rw [ParseState.steps_append, ParseState.steps_append] at hsteps
  obtain ⟨s₂, hgroup, hrest⟩ := Option.bind_eq_some_iff.mp hsteps
  obtain ⟨s₀, hs₀, hgroup⟩ := Option.bind_eq_some_iff.mp hgroup
  rw [← List.cons_append] at hgroup
  obtain ⟨s₁, hinner, hclosing⟩ := ParseState.exists_of_steps_concat hgroup
  have hopens : ∀ t ∈ ts.getLast?, t.opensOperand = true := by
    refine ParseState.opensOperand_of_steps hs₀ (fun hnone => ?_) fun n hlast => ?_
    · rw [ParseState.steps_cons, hnone] at hinner
      cases hinner
    · rw [endsWithName_of_name (lex_eq_some_iff.mp hts) hlast] at hname
      cases hname
  have hfollows : ∀ t ∈ vs.head?, t.followsOperand = true := by
    obtain ⟨e', hfocus⟩ := ParseState.focus_of_closing hclosing
    exact ParseState.followsOperand_of_steps hfocus hrest
  have hsum : Derives .sum us e := hus.postfixed.unary.product
  have hwhole : lex false (before ++ text ++ after).toList = some (ts ++ us ++ vs) := by
    rw [toList_operand, List.append_assoc]
    exact lex_before hts hs₀ hopens (lex_after hlex hus hpoint hvs hfollows)
  have hreplaced : Derives .sum (ts ++ us ++ vs) tree :=
    hsum.group.primary.replace hus hopens hfollows hderives
  exact ⟨parse_eq_ok_iff.mpr ⟨_, hwhole, hreplaced⟩, ts, us, vs, lex_eq_some_iff.mp hwhole,
    lex_eq_some_iff.mp hts, lex_eq_some_iff.mp hlex, lex_eq_some_iff.mp hvs, hopens, hfollows⟩

/-- An operand can be put in parentheses. -/
theorem OperandIn.parentheses (hlex : lex false text.toList = some us)
    (hus : Derives .postfixed us e) (h : OperandIn before text after tree) :
    parse (before ++ "(" ++ text ++ ")" ++ after) = .ok tree ∧ endsWithName before = false := by
  obtain ⟨ts, us', vs, hall, hts, htext, hvs, hopens, hfollows⟩ := h.cut
  obtain rfl : us = us' := Option.some.inj (hlex.symm.trans (lex_eq_some_iff.mpr htext))
  obtain ⟨all, hall', hderives⟩ := parse_eq_ok_iff.mp h.parse_eq
  obtain rfl : ts ++ us ++ vs = all :=
    Option.some.inj ((lex_eq_some_iff.mpr hall).symm.trans hall')
  have hsum : Derives .sum us e := hus.postfixed.unary.product
  refine ⟨parse_eq_ok_iff.mpr ⟨ts ++ (.opening :: (us ++ [.closing])) ++ vs, ?_, ?_⟩, ?_⟩
  · rw [toList_parentheses, lex_group hlex, lex_eq_some_iff.mpr hts, lex_eq_some_iff.mpr hvs]
    rfl
  · exact hus.replace hsum.group.primary hopens hfollows hderives
  · exact endsWithName_of_opensOperand hts hopens

/-- An atomic text that parses needs no parentheses as an operand: a text is parsed as `tree` with
parentheses around the operand that are not those of a call if and only if it is parsed as `tree`
without them. Only before the point of a selection, a text of digits keeps its parentheses. -/
theorem parse_parentheses_iff (hparse : parse text = .ok e) (hatomic : isAtomic text = true)
    (hpoint : after.toList.head? = some '.' → isDigits (trim text.toList) = false) :
    (parse (before ++ "(" ++ text ++ ")" ++ after) = .ok tree ∧ endsWithName before = false) ↔
      OperandIn before text after tree := by
  obtain ⟨us, hlex, hsum⟩ := parse_eq_ok_iff.mp hparse
  have hus : Derives .postfixed us e := .postfixed_of_isAtomic hatomic hlex hsum
  constructor
  · rintro ⟨hparentheses, hname⟩
    exact .of_parentheses hlex hus (fun hhead => isInteger_getLast hlex hus (hpoint hhead))
      hparentheses hname
  · exact OperandIn.parentheses hlex hus

end Parentheses

-- without its parentheses the text of digits would take the point
example : parse "(5).x" = .ok (.swizzle (.number "5") "x") := by cbv

example : (parse "5.x").toOption = none := by cbv

/-- A selection from a call on the right of a minus, with blanks around the call. -/
theorem parse_parentheses_iff_call :
    parse " f(x, 1) " = .ok (.call "f" [.name "x", .number "1"]) ∧ isAtomic " f(x, 1) " = true ∧
      parse "a -( f(x, 1) ).y*2" = .ok (.binary .sub (.name "a") (.binary .mul
        (.swizzle (.call "f" [.name "x", .number "1"]) "y") (.number "2"))) ∧
      OperandIn "a -" " f(x, 1) " ".y*2" (.binary .sub (.name "a") (.binary .mul
        (.swizzle (.call "f" [.name "x", .number "1"]) "y") (.number "2"))) := by
  have hparse : parse " f(x, 1) " = .ok (.call "f" [.name "x", .number "1"]) := by cbv
  have hatomic : isAtomic " f(x, 1) " = true := by decide
  have hwhole : parse ("a -" ++ "(" ++ " f(x, 1) " ++ ")" ++ ".y*2") = .ok (.binary .sub (.name "a")
      (.binary .mul (.swizzle (.call "f" [.name "x", .number "1"]) "y") (.number "2"))) := by cbv
  refine ⟨hparse, hatomic, by cbv, ?_⟩
  exact (parse_parentheses_iff hparse hatomic fun _ => by decide).mp ⟨hwhole, by decide⟩

end SignedDistance
