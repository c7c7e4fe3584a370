import Mathlib
import SignedDistance.Proofs.Atomic
import SignedDistance.Proofs.ParseTrees
import SignedDistance.Proofs.PlainScenes

/-!
# Where parsing fails

The machine has the valid-prefix property: it takes some tokens exactly if a sentence starts with
them (`isViable_iff_steps`), because from every state it reaches the open brackets can be closed. So
a text is refused at the first token with which no sentence goes on, or at the first character that
starts no token, or at its end (`parse_eq_error_iff`). The places are counted in the text itself
(`Position.past`).
-/

namespace SignedDistance

/-! ## Sentences and how they start -/

/-- The tokens are those of a sentence of the grammar. -/
def IsSentence (ts : List Token) : Prop :=
  ∃ t : Tree .sum, t.tokens = ts

/-- Some sentence starts with the tokens. -/
def IsViable (ts : List Token) : Prop :=
  ∃ rest, IsSentence (ts ++ rest)

theorem isSentence_iff_steps {ts : List Token} :
    IsSentence ts ↔ ∃ s e, ParseState.init.steps ts = some s ∧ s.finish? = some e := by
  constructor
  · rintro ⟨t, rfl⟩
    obtain ⟨s, hsteps, hfinish⟩ := derives_iff_steps.mp t.derives
    exact ⟨s, t.expr, hsteps, hfinish⟩
  · rintro ⟨s, e, hsteps, hfinish⟩
    obtain ⟨t, ht, -⟩ := (derives_iff_steps.mpr ⟨s, hsteps, hfinish⟩).exists_tree
    exact ⟨t, ht⟩

namespace ParseState

variable {s : ParseState}

/-- After an operand, closing every open bracket completes a sentence. -/
theorem exists_finish_of_operand? {o : Expr} (h : s.operand? = some o) :
    ∃ rest s' e, s.steps rest = some s' ∧ s'.finish? = some e := by
  obtain ⟨brackets, pending, focus⟩ := s
  induction brackets generalizing pending focus o with
  | nil => exact ⟨[], _, _, rfl, by rw [finish?, h]⟩
  | cons bracket brackets ih =>
    have hclosing := step_of_operand? h (t := .closing) (by simp)
    cases bracket with
    | group outer =>
      obtain ⟨rest, s', e, hsteps, hfinish⟩ :=
        ih outer (.operand (pending.closeSum o)) rfl
      exact ⟨.closing :: rest, s', e, by rw [steps_cons, hclosing]; exact hsteps, hfinish⟩
    | call fn args outer =>
      obtain ⟨rest, s', e, hsteps, hfinish⟩ :=
        ih outer (.operand (.call fn (args ++ [pending.closeSum o]))) rfl
      exact ⟨.closing :: rest, s', e, by rw [steps_cons, hclosing]; exact hsteps, hfinish⟩

/-- Every state can be completed to a sentence. -/
theorem exists_finish (s : ParseState) :
    ∃ rest s' e, s.steps rest = some s' ∧ s'.finish? = some e := by
  -- one more token makes an operand where none was read last
  have hone : ∀ (t : Token) {s₁ : ParseState} {o : Expr}, s.step t = some s₁ →
      s₁.operand? = some o → ∃ rest s' e, s.steps rest = some s' ∧ s'.finish? = some e := by
    intro t s₁ o hstep ho
    obtain ⟨rest, s', e, hsteps, hfinish⟩ := exists_finish_of_operand? ho
    exact ⟨t :: rest, s', e, by rw [steps_cons, hstep]; exact hsteps, hfinish⟩
  cases hfocus : s.focus with
  | wanted closable =>
    exact hone (.number "0") (by rw [step, hfocus]; rfl) rfl
  | operand e => exact exists_finish_of_operand? (by rw [operand?, hfocus])
  | ident name => exact exists_finish_of_operand? (by rw [operand?, hfocus])
  | point e => exact hone (.name "x") (by rw [step, hfocus]) rfl

end ParseState

/-- The machine takes exactly the tokens with which sentences start. -/
theorem isViable_iff_steps {ts : List Token} :
    IsViable ts ↔ ∃ s, ParseState.init.steps ts = some s := by
  constructor
  · rintro ⟨rest, hsentence⟩
    obtain ⟨s, e, hsteps, -⟩ := isSentence_iff_steps.mp hsentence
    rw [ParseState.steps_append] at hsteps
    obtain ⟨s', hs', -⟩ := Option.bind_eq_some_iff.mp hsteps
    exact ⟨s', hs'⟩
  · rintro ⟨s, hs⟩
    obtain ⟨rest, s', e, hsteps, hfinish⟩ := s.exists_finish
    refine ⟨rest, isSentence_iff_steps.mpr ⟨s', e, ?_, hfinish⟩⟩
    rw [ParseState.steps_append, hs, Option.bind_some, hsteps]

/-! ## Places in a text -/

/-- The place that follows a text: one line more than it has line breaks, and one column more than
it has characters after the last of them. -/
def Position.past (cs : List Char) : Position :=
  ⟨cs.count '\n' + 1, (cs.reverse.takeWhile (· ≠ '\n')).length + 1⟩

namespace Position

theorem past_append_singleton (cs : List Char) (c : Char) :
    past (cs ++ [c]) = (past cs).after c := by
  unfold past after
  by_cases hc : c = '\n'
  · subst hc
    simp
  · simp [hc]

/-- A text without line breaks only adds columns. -/
theorem past_append {cs ds : List Char} (h : '\n' ∉ ds) :
    past (cs ++ ds) = ⟨(past cs).line, (past cs).column + ds.length⟩ := by
  induction ds using List.reverseRecOn with
  | nil => simp
  | append_singleton ds d ih =>
    rw [List.mem_append, not_or, List.mem_singleton] at h
    rw [← List.append_assoc, past_append_singleton, ih h.1, after, if_neg (Ne.symm h.2),
      List.length_append]
    rfl

end Position

/-! ## Cutting a text from the left -/

/-- The text has been cut up to some place: what stands before it makes the tokens, and the rest is
still to be cut. Blanks are skipped, and each token is the longest that can stand there. -/
inductive Cuts (text : List Char) : List Char → List Token → List Char → Prop where
  | start : Cuts text [] [] text
  | space {before rest : List Char} {ts : List Token} {c : Char}
      (h : Cuts text before ts (c :: rest)) (hc : Token.isSpace c = true) :
      Cuts text (before ++ [c]) ts rest
  | token {before lexeme rest : List Char} {ts : List Token} {t : Token}
      (h : Cuts text before ts (lexeme ++ rest))
      (hlexeme : IsLongest (flagAfter false ts) (lexeme ++ rest) lexeme t) :
      Cuts text (before ++ lexeme) (ts ++ [t]) rest

/-- The first place from which a text is not the start of a sentence any more. -/
inductive FirstError (text : List Char) : ParseError → Prop where
  /-- No sentence goes on with the next token. -/
  | token {before lexeme rest : List Char} {ts : List Token} {t : Token}
      (hcut : Cuts text before ts (lexeme ++ rest))
      (hlexeme : IsLongest (flagAfter false ts) (lexeme ++ rest) lexeme t)
      (hviable : IsViable ts) (hstop : ¬ IsViable (ts ++ [t])) :
      FirstError text (.unexpectedToken (.past before))
  /-- No token at all starts with the next character. -/
  | character {before rest : List Char} {ts : List Token} {c : Char}
      (hcut : Cuts text before ts (c :: rest)) (hspace : Token.isSpace c = false)
      (hnone : ∀ flag lexeme t, lexeme <+: c :: rest → ¬ Lexeme flag lexeme t)
      (hviable : IsViable ts) : FirstError text (.unexpectedCharacter (.past before))
  /-- The text ends before the sentence does; the place is that of the last token. -/
  | incomplete {before lexeme blanks : List Char} {ts : List Token} {t : Token}
      (hcut : Cuts text before ts (lexeme ++ blanks))
      (hlexeme : IsLongest (flagAfter false ts) (lexeme ++ blanks) lexeme t)
      (hblanks : ∀ c ∈ blanks, Token.isSpace c = true)
      (hviable : IsViable (ts ++ [t])) (hopen : ¬ IsSentence (ts ++ [t])) :
      FirstError text (.unexpectedToken (.past before))
  /-- There are no tokens. -/
  | blank (hblanks : ∀ c ∈ text, Token.isSpace c = true) :
      FirstError text (.unexpectedToken .start)

section Scanning

variable {text before rest lexeme : List Char} {ts : List Token} {t : Token} {flag : Bool}

theorem flagAfter_concat (flag : Bool) (ts : List Token) (t : Token) :
    flagAfter flag (ts ++ [t]) = t.endsOperand := by
  rw [flagAfter_append, flagAfter_cons]
  rfl

theorem Cuts.text_eq (h : Cuts text before ts rest) : text = before ++ rest := by
  induction h with
  | start => rfl
  | space h hc ih => rw [ih, List.append_assoc, List.singleton_append]
  | token h hlexeme ih => rw [ih, List.append_assoc]

/-- Blanks are all that can follow the last token that was cut. -/
theorem Cuts.last (h : Cuts text before ts rest) :
    (ts = [] ∧ ∀ c ∈ before, Token.isSpace c = true) ∨
    ∃ before' us t lexeme blanks, ts = us ++ [t] ∧
      Cuts text before' us (lexeme ++ (blanks ++ rest)) ∧
      IsLongest (flagAfter false us) (lexeme ++ (blanks ++ rest)) lexeme t ∧
      ∀ c ∈ blanks, Token.isSpace c = true := by
  induction h with
  | start => exact Or.inl ⟨rfl, by simp⟩
  | @space before rest ts c h hc ih =>
    rcases ih with ⟨rfl, hbefore⟩ | ⟨before', us, t, lexeme, blanks, rfl, hcut, hlexeme, hblanks⟩
    · refine Or.inl ⟨rfl, ?_⟩
      simpa [or_imp, forall_and] using ⟨hbefore, hc⟩
    · refine Or.inr ⟨before', us, t, lexeme, blanks ++ [c], rfl, ?_, ?_, ?_⟩
      · simpa using hcut
      · simpa using hlexeme
      · simpa [or_imp, forall_and] using ⟨hblanks, hc⟩
  | @token before lexeme rest ts t h hlexeme ih =>
    exact Or.inr ⟨before, ts, t, lexeme, [], rfl, h, hlexeme, by simp⟩

/-- A character that starts a token after an operand starts one elsewhere, and conversely. -/
theorem Lexeme.exists_of_flag (h : Lexeme flag lexeme t) (flag' : Bool) :
    ∃ lexeme' t', lexeme' <+: lexeme ∧ Lexeme flag' lexeme' t' := by
  cases h with
  | name h => exact ⟨_, _, List.prefix_refl _, .name h⟩
  | sign h => exact ⟨_, _, List.prefix_refl _, .sign h⟩
  | @number text h hpoint =>
    by_cases hdot : text.toList.head? = some '.'
    · -- the point itself is a sign
      obtain ⟨c, cs, htext, -⟩ := Token.head_of_isNumber h
      rw [htext] at hdot ⊢
      cases hdot
      exact ⟨['.'], .dot, ⟨cs, rfl⟩, .sign rfl⟩
    · exact ⟨_, _, List.prefix_refl _, .number h fun _ => hdot⟩

theorem Lexeme.notMem_newline (h : Lexeme flag lexeme t) : '\n' ∉ lexeme := by
  intro hmem
  obtain ⟨c, cs, rfl, hkind⟩ := h.head
  have hvisible : 32 < '\n'.toNat := by
    rcases hkind with ⟨hc, hcs, -⟩ | ⟨-, hnumber, -⟩ | ⟨rfl, hsign⟩
    · rcases List.mem_cons.mp hmem with rfl | hmem
      · exact (toNat_of_isIdentChar (isIdentChar_iff.mpr (Or.inl hc))).1
      · exact (toNat_of_isIdentChar (hcs _ hmem)).1
    · have hnumeral := Token.numeral_of_isNumber hnumber
      rw [String.toList_ofList] at hnumeral
      exact (toNat_of_mem_numeral (hnumeral ▸ hmem)).1
    · rw [List.mem_singleton.mp hmem]
      exact (toNat_of_ofSign? hsign).1
  exact absurd hvisible (by decide)

theorem scan_blanks {blanks : List Char} (h : ∀ c ∈ blanks, Token.isSpace c = true)
    (place : Position) : scan flag place blanks = ⟨[], none⟩ := by
  induction blanks generalizing place with
  | nil => rw [scan]
  | cons c cs ih =>
    obtain ⟨hc, hcs⟩ := List.forall_mem_cons.mp h
    rw [scan, if_pos hc, ih hcs]

theorem scan_token (h : IsLongest flag (lexeme ++ rest) lexeme t) (before : List Char) :
    scan flag (.past before) (lexeme ++ rest) =
      ⟨(t, .past before) :: (scan t.endsOperand (.past (before ++ lexeme)) rest).tokens,
        (scan t.endsOperand (.past (before ++ lexeme)) rest).stuck⟩ := by
  have hpast := @Position.past_append before lexeme h.isLexeme.notMem_newline
  obtain ⟨c, cs, rfl, -⟩ := h.isLexeme.head
  have hspace : ¬ Token.isSpace c = true := by simp [h.isLexeme.isSpace_eq_false]
  rw [hpast, List.cons_append, scan, if_neg hspace, h.next?]
  simp only [List.drop_left, List.length_cons, Nat.add_assoc]

/-- The scanner finds what was cut, with its places, and goes on from there. -/
theorem Cuts.scan (h : Cuts text before ts rest) :
    ∃ located : List (Token × Position), located.map Prod.fst = ts ∧
      SignedDistance.scan false .start text =
        ⟨located ++ (SignedDistance.scan (flagAfter false ts) (.past before) rest).tokens,
          (SignedDistance.scan (flagAfter false ts) (.past before) rest).stuck⟩ := by
  induction h with
  | start => exact ⟨[], rfl, rfl⟩
  | @space before rest ts c h hc ih =>
    obtain ⟨located, hlocated, hscan⟩ := ih
    refine ⟨located, hlocated, ?_⟩
    rw [hscan, SignedDistance.scan, if_pos hc, Position.past_append_singleton]
  | @token before lexeme rest ts t h hlexeme ih =>
    obtain ⟨located, hlocated, hscan⟩ := ih
    refine ⟨located ++ [(t, .past before)], by simp [hlocated], ?_⟩
    rw [hscan, scan_token hlexeme, flagAfter_concat]
    simp

end Scanning

/-! ## The place of the error -/

theorem ParseState.run_append (s : ParseState) (last : Position)
    (xs ys : List (Token × Position)) :
    s.run last (xs ++ ys) = s.run last xs >>= fun reached => reached.1.run reached.2 ys := by
  induction xs generalizing s last with
  | nil => rfl
  | cons x xs ih =>
    obtain ⟨t, place⟩ := x
    rw [List.cons_append, run, run]
    cases s.step t with
    | none => rfl
    | some s' => exact ih s' place

section Errors

variable {text : String} {before rest : List Char} {ts : List Token}

/-- Parsing a text that was cut up to some place goes on from the state that its tokens lead to. -/
theorem Cuts.parse {s : ParseState} (h : Cuts text.toList before ts rest)
    (hs : ParseState.init.steps ts = some s) :
    ∃ last, SignedDistance.parse text = (do
      let scanned := SignedDistance.scan (flagAfter false ts) (.past before) rest
      let (s, last) ← s.run last scanned.tokens
      match scanned.stuck, s.finish? with
      | some place, _ => throw (.unexpectedCharacter place)
      | none, some e => return e
      | none, none => throw (.unexpectedToken last)) := by
  obtain ⟨located, rfl, hscan⟩ := h.scan
  obtain ⟨last, hrun⟩ := (ParseState.run_eq_ok_iff .init s .start located).mpr hs
  refine ⟨last, ?_⟩
  rw [SignedDistance.parse]
  simp only [hscan, ParseState.run_append, hrun]
  rfl

/-- What the first error is, parsing reports. -/
theorem FirstError.parse {error : ParseError} (h : FirstError text.toList error) :
    SignedDistance.parse text = .error error := by
  cases h with
  | @token before lexeme rest ts t hcut hlexeme hviable hstop =>
    obtain ⟨s, hs⟩ := isViable_iff_steps.mp hviable
    have hrefused : s.step t = none := by
      by_contra hne
      obtain ⟨s', hs'⟩ := Option.ne_none_iff_exists'.mp hne
      refine hstop (isViable_iff_steps.mpr ⟨s', ?_⟩)
      rw [ParseState.steps_append, hs, Option.bind_some, ParseState.steps_cons, hs']
      rfl
    obtain ⟨last, hparse⟩ := hcut.parse hs
    rw [hparse, scan_token hlexeme]
    simp only [ParseState.run, hrefused]
    rfl
  | @character before rest ts c hcut hspace hnone hviable =>
    obtain ⟨s, hs⟩ := isViable_iff_steps.mp hviable
    obtain ⟨last, hparse⟩ := hcut.parse hs
    have hnext : Token.next? (flagAfter false ts) c rest = none := by
      rcases next?_spec (flagAfter false ts) c rest with ⟨t, extra, -, hlongest⟩ | ⟨hnext, -⟩
      · exact absurd hlongest.isLexeme (hnone _ _ _ hlongest.isPrefix)
      · exact hnext
    have hscan :
        scan (flagAfter false ts) (.past before) (c :: rest) = ⟨[], some (.past before)⟩ := by
      simp [scan, hspace, hnext]
    rw [hparse, hscan]
    rfl
  | @incomplete before lexeme blanks ts t hcut hlexeme hblanks hviable hopen =>
    obtain ⟨s, hs⟩ := isViable_iff_steps.mp hviable
    have hunfinished : s.finish? = none := by
      by_contra hne
      obtain ⟨e, he⟩ := Option.ne_none_iff_exists'.mp hne
      exact hopen (isSentence_iff_steps.mpr ⟨s, e, hs, he⟩)
    rw [ParseState.steps_append] at hs
    obtain ⟨s₀, hs₀, hstep⟩ := Option.bind_eq_some_iff.mp hs
    obtain ⟨last, hparse⟩ := hcut.parse hs₀
    have hstep : s₀.step t = some s := by
      rw [ParseState.steps_cons] at hstep
      simpa using hstep
    rw [hparse, scan_token hlexeme, scan_blanks hblanks]
    simp only [ParseState.run, hstep, ok_bind, hunfinished]
    rfl
  | blank hblanks =>
    rw [SignedDistance.parse, scan_blanks hblanks]
    rfl

/-- Either a whole text is cut into a sentence, or there is a first error. -/
theorem Cuts.isSentence_or_firstError {text : List Char} (hcut : Cuts text before ts rest)
    (hviable : IsViable ts) :
    (∃ before us, Cuts text before us [] ∧ IsSentence us) ∨ ∃ error, FirstError text error := by
  -- along the scanner, which takes the next token or is stuck
  generalize hflag : flagAfter false ts = flag
  induction flag, rest using lex_induction generalizing before ts with
  | nil flag =>
    by_cases hsentence : IsSentence ts
    · exact Or.inl ⟨before, ts, hcut, hsentence⟩
    · rcases hcut.last with ⟨-, hblanks⟩ | ⟨_, us, t, lexeme, blanks, rfl, hus, hlexeme, hblanks⟩
      · refine Or.inr ⟨_, .blank ?_⟩
        rwa [hcut.text_eq, List.append_nil]
      · rw [List.append_nil] at hus hlexeme
        exact Or.inr ⟨_, .incomplete hus hlexeme hblanks hviable hsentence⟩
  | space flag c cs hc ih => exact ih (hcut.space hc) hviable hflag
  | stuck flag c cs hc hnext =>
    subst hflag
    rcases next?_spec (flagAfter false ts) c cs with ⟨t, extra, hsome, -⟩ | ⟨-, hnone⟩
    · rw [hnext] at hsome
      cases hsome
    · refine Or.inr ⟨_, .character hcut (by simpa using hc) ?_ hviable⟩
      intro flag lexeme t hprefix hlexeme
      obtain ⟨lexeme', t', hprefix', hlexeme'⟩ := hlexeme.exists_of_flag (flagAfter false ts)
      exact hnone lexeme' t' (hprefix'.trans hprefix) hlexeme'
  | token flag c cs t extra hc hnext ih =>
    subst hflag
    rcases next?_spec (flagAfter false ts) c cs with ⟨t', extra', hsome, hlongest⟩ | ⟨hnone, -⟩
    · rw [hnext] at hsome
      cases hsome
      have hsplit : c :: cs = (c :: cs.take extra) ++ cs.drop extra := by simp
      rw [hsplit] at hcut hlongest
      by_cases hgoes : IsViable (ts ++ [t])
      · exact ih (hcut.token hlongest) hgoes (flagAfter_concat false ts t)
      · exact Or.inr ⟨_, .token hcut hlongest hviable hgoes⟩
    · rw [hnext] at hnone
      cases hnone

/-- A text is refused at the first place from which it is not the start of a sentence any more, and
nowhere else. -/
theorem parse_eq_error_iff (text : String) (error : ParseError) :
    parse text = .error error ↔ FirstError text.toList error := by
  refine ⟨fun h => ?_, FirstError.parse⟩
  have hviable : IsViable [] := isViable_iff_steps.mpr ⟨_, rfl⟩
  rcases (@Cuts.start text.toList).isSentence_or_firstError hviable with
    ⟨before, us, hcut, hsentence⟩ | ⟨error', hfirst⟩
  · obtain ⟨s, e, hs, hfinish⟩ := isSentence_iff_steps.mp hsentence
    obtain ⟨last, hparse⟩ := hcut.parse hs
    rw [hparse] at h
    simp only [scan, ParseState.run, ok_bind, hfinish] at h
    cases h
  · cases h.symm.trans hfirst.parse
    exact hfirst

end Errors

end SignedDistance
