import Mathlib
import SignedDistance.Expression.Parse
import SignedDistance.Proofs.Tokens

/-!
# The grammar of expressions

`Derives` is the grammar as a relation between a phrase, its tokens and the expression it stands
for. The machine that parses texts follows it exactly: a derivation drives the machine from a state
that wants an operand to one that has read the derived expression (`Derives.reads`), and the tokens
that the machine has taken so far are at any time a row of derived phrases, some of them unfinished
(`Explains.step`). Together they say that a text parses as an expression if and only if the grammar
derives it from the tokens of the text (`parse_eq_ok_iff`).
-/

namespace SignedDistance

/-! ## Derivations -/

/-- The phrases of the grammar, from the loosest to the tightest. -/
inductive Phrase where
  | sum
  | product
  | unary
  | postfixed
  | primary

/-- The operator of a sum or a difference. -/
def Token.additive? : Token → Option Operator
  | plus => some .add
  | minus => some .sub
  | _ => none

/-- The operator of a product or a quotient. -/
def Token.multiplicative? : Token → Option Operator
  | star => some .mul
  | slash => some .div
  | _ => none

/-- The grammar: which tokens make up a phrase, and which expression it stands for. -/
inductive Derives : Phrase → List Token → Expr → Prop where
  /-- A product is a sum. -/
  | product {ts : List Token} {e : Expr} (h : Derives .product ts e) : Derives .sum ts e
  /-- A sum or a difference groups to the left. -/
  | additive {ts us : List Token} {t : Token} {op : Operator} {a b : Expr}
      (ht : t.additive? = some op) (hl : Derives .sum ts a) (hr : Derives .product us b) :
      Derives .sum (ts ++ t :: us) (.binary op a b)
  /-- A signed operand is a product. -/
  | unary {ts : List Token} {e : Expr} (h : Derives .unary ts e) : Derives .product ts e
  /-- A product or a quotient groups to the left. -/
  | multiplicative {ts us : List Token} {t : Token} {op : Operator} {a b : Expr}
      (ht : t.multiplicative? = some op) (hl : Derives .product ts a) (hr : Derives .unary us b) :
      Derives .product (ts ++ t :: us) (.binary op a b)
  /-- An operand needs no sign. -/
  | postfixed {ts : List Token} {e : Expr} (h : Derives .postfixed ts e) : Derives .unary ts e
  /-- A minus. -/
  | minus {ts : List Token} {e : Expr} (h : Derives .unary ts e) :
      Derives .unary (.minus :: ts) (.neg e)
  /-- A plus, which leaves no trace. -/
  | plus {ts : List Token} {e : Expr} (h : Derives .unary ts e) : Derives .unary (.plus :: ts) e
  /-- A primary expression without a selection. -/
  | primary {ts : List Token} {e : Expr} (h : Derives .primary ts e) : Derives .postfixed ts e
  /-- A selection of components. -/
  | swizzle {ts : List Token} {e : Expr} {fields : String} (h : Derives .postfixed ts e) :
      Derives .postfixed (ts ++ [.dot, .name fields]) (.swizzle e fields)
  /-- A number. -/
  | number (text : String) : Derives .primary [.number text] (.number text)
  /-- A name. -/
  | name (ident : String) : Derives .primary [.name ident] (.name ident)
  /-- A call with any number of arguments. -/
  | call {fn : String} {args : List (List Token × Expr)}
      (h : ∀ arg ∈ args, Derives .sum arg.1 arg.2) :
      Derives .primary
        (.name fn :: .opening :: ([.comma].intercalate (args.map Prod.fst) ++ [.closing]))
        (.call fn (args.map Prod.snd))
  /-- Parentheses, which leave no trace. -/
  | group {ts : List Token} {e : Expr} (h : Derives .sum ts e) :
      Derives .primary (.opening :: (ts ++ [.closing])) e

/-! ## Running the machine without places -/

namespace ParseState

/-- The state after several tokens, `none` if one of them is refused. -/
def steps (s : ParseState) (ts : List Token) : Option ParseState :=
  ts.foldlM step s

@[simp] theorem steps_nil (s : ParseState) : s.steps [] = some s := rfl

@[simp] theorem steps_cons (s : ParseState) (t : Token) (ts : List Token) :
    s.steps (t :: ts) = (s.step t).bind (·.steps ts) := rfl

theorem steps_append (s : ParseState) (ts us : List Token) :
    s.steps (ts ++ us) = (s.steps ts).bind (·.steps us) :=
  List.foldlM_append

/-- Whether tokens are refused does not depend on their places. -/
theorem run_eq_ok_iff (s t : ParseState) (last : Position) (tokens : List (Token × Position)) :
    (∃ last', s.run last tokens = .ok (t, last')) ↔ s.steps (tokens.map Prod.fst) = some t := by
  induction tokens generalizing s last with
  | nil => simp [run]
  | cons token rest ih =>
    obtain ⟨token, place⟩ := token
    rw [run, List.map_cons, steps_cons]
    cases s.step token with
    | none => simp
    | some s' => exact ih s' place

end ParseState

/-- A text parses if it can be scanned, the machine takes its tokens, and it can finish there. -/
theorem parse_eq_ok_iff_steps {text : String} {e : Expr} : parse text = .ok e ↔
    ∃ ts s, lex false text.toList = some ts ∧ ParseState.init.steps ts = some s ∧
      s.finish? = some e := by
  have hrun := fun t : ParseState =>
    ParseState.run_eq_ok_iff .init t .start (scan false .start text.toList).tokens
  rw [parse, lex]
  cases h : ParseState.init.run .start (scan false .start text.toList).tokens with
  | error error =>
    have hnone : ∀ t, ParseState.init.steps
        ((scan false .start text.toList).tokens.map Prod.fst) ≠ some t := by
      intro t ht
      obtain ⟨last, hlast⟩ := (hrun t).mpr ht
      rw [h] at hlast
      exact absurd hlast (by simp)
    constructor
    · intro hparse
      simp [bind, Except.bind] at hparse
    · rintro ⟨ts, s, hlex, hsteps, hfinish⟩
      split at hlex
      · cases hlex
        exact absurd hsteps (hnone s)
      · cases hlex
  | ok result =>
    obtain ⟨s, last⟩ := result
    have hsteps := (hrun s).mp ⟨last, h⟩
    cases hstuck : (scan false .start text.toList).stuck with
    | some place => simp [bind, Except.bind]
    | none =>
      cases hfinish : s.finish? with
      | none => simp [bind, Except.bind, hsteps, hfinish]
      | some e' => simp [bind, Except.bind, hsteps, hfinish, pure, Except.pure]

/-! ## Every derived phrase is read -/

namespace ParseState

/-- After an operand, a token other than an opening parenthesis is taken as such. -/
theorem step_of_operand? {s : ParseState} {o : Expr} {t : Token} (h : s.operand? = some o)
    (ht : t ≠ .opening) : s.step t = s.stepOperand o t := by
  unfold operand? at h
  unfold step
  split at h
  · next e hfocus =>
    cases h
    simp [hfocus]
  · next name hfocus =>
    cases h
    simp [hfocus, ht]
  · cases h

/-- A sum or a difference closes everything that is pending. -/
theorem stepOperand_additive {s : ParseState} {o : Expr} {t : Token} {op : Operator}
    (ht : t.additive? = some op) : s.stepOperand o t =
      some ⟨s.brackets, { sum := some (op, s.pending.closeSum o) }, .wanted false⟩ := by
  cases t <;> cases ht <;> rfl

/-- A product or a quotient leaves a sum pending. -/
theorem stepOperand_multiplicative {s : ParseState} {o : Expr} {t : Token} {op : Operator}
    (ht : t.multiplicative? = some op) : s.stepOperand o t =
      some ⟨s.brackets, { sum := s.pending.sum, product := some (op, s.pending.closeProduct o) },
        .wanted false⟩ := by
  cases t <;> cases ht <;> rfl

end ParseState

theorem Pending.negate_neg (n : Nat) (e : Expr) : negate n (.neg e) = negate (n + 1) e := rfl

/-- What it means that the machine reads the tokens of a phrase as an expression: where an operand
is wanted it takes them, leaves everything around the phrase as it was, and what has become pending
inside the phrase makes the expression out of the last operand. -/
def Reads : Phrase → List Token → Expr → Prop
  | .sum, ts, e => ∀ bs wanted, ∃ s o, ParseState.steps ⟨bs, {}, .wanted wanted⟩ ts = some s ∧
      s.brackets = bs ∧ s.operand? = some o ∧ s.pending.closeSum o = e
  | .product, ts, e => ∀ bs sum wanted, ∃ s o,
      ParseState.steps ⟨bs, { sum }, .wanted wanted⟩ ts = some s ∧
      s.brackets = bs ∧ s.pending.sum = sum ∧ s.operand? = some o ∧ s.pending.closeProduct o = e
  | .unary, ts, e => ∀ bs p wanted, ∃ s o, ParseState.steps ⟨bs, p, .wanted wanted⟩ ts = some s ∧
      s.brackets = bs ∧ s.pending.sum = p.sum ∧ s.pending.product = p.product ∧
      s.operand? = some o ∧ Pending.negate s.pending.minuses o = Pending.negate p.minuses e
  | .postfixed, ts, e => ∀ bs p wanted, ∃ s, ParseState.steps ⟨bs, p, .wanted wanted⟩ ts = some s ∧
      s.brackets = bs ∧ s.pending = p ∧ s.operand? = some e
  | .primary, ts, e => ∀ bs p wanted, ∃ s, ParseState.steps ⟨bs, p, .wanted wanted⟩ ts = some s ∧
      s.brackets = bs ∧ s.pending = p ∧ s.operand? = some e

/-- The arguments of a call that are still to come, with the closing parenthesis. -/
theorem reads_arguments {fn : String} {outer : Pending} {bs : List Bracket}
    {arg : List Token × Expr} {args : List (List Token × Expr)}
    (h : ∀ a ∈ arg :: args, Reads .sum a.1 a.2) (done : List Expr) (wanted : Bool) :
    ParseState.steps ⟨.call fn done outer :: bs, {}, .wanted wanted⟩
        ([.comma].intercalate ((arg :: args).map Prod.fst) ++ [.closing]) =
      some ⟨bs, outer, .operand (.call fn (done ++ (arg :: args).map Prod.snd))⟩ := by
  induction args generalizing arg done wanted with
  | nil =>
    obtain ⟨s, o, hsteps, hbs, ho, hclose⟩ := h arg (by simp) (.call fn done outer :: bs) wanted
    rw [List.map_singleton, List.intercalate_singleton, ParseState.steps_append, hsteps]
    simp [ParseState.step_of_operand? ho, ParseState.stepOperand, hbs, hclose]
  | cons next args ih =>
    obtain ⟨s, o, hsteps, hbs, ho, hclose⟩ := h arg (by simp) (.call fn done outer :: bs) wanted
    have hcomma : s.step .comma =
        some ⟨.call fn (done ++ [arg.2]) outer :: bs, {}, .wanted false⟩ := by
      simp [ParseState.step_of_operand? ho, ParseState.stepOperand, hbs, hclose]
    have hrest := ih (fun a ha => h a (List.mem_cons_of_mem _ ha)) (done ++ [arg.2]) false
    have hsplit : [.comma].intercalate ((arg :: next :: args).map Prod.fst) ++ [.closing] =
        arg.1 ++ .comma :: ([.comma].intercalate ((next :: args).map Prod.fst) ++ [.closing]) := by
      simp
    rw [hsplit, ParseState.steps_append, hsteps, Option.bind_some, ParseState.steps_cons, hcomma,
      Option.bind_some, hrest]
    simp

/-- The machine reads every phrase that the grammar derives. -/
theorem Derives.reads {p : Phrase} {ts : List Token} {e : Expr} (h : Derives p ts e) :
    Reads p ts e := by
  induction h with
  | product h ih =>
    intro bs wanted
    obtain ⟨s, o, hsteps, hbs, hsum, ho, hclose⟩ := ih bs none wanted
    refine ⟨s, o, hsteps, hbs, ho, ?_⟩
    rw [Pending.closeSum, hsum, hclose]
    rfl
  | @additive ts us t op a b ht hl hr ihl ihr =>
    intro bs wanted
    obtain ⟨s, o, hsteps, hbs, ho, hclose⟩ := ihl bs wanted
    have hopening : t ≠ .opening := by
      rintro rfl
      cases ht
    have hstep : s.step t = some ⟨bs, { sum := some (op, a) }, .wanted false⟩ := by
      rw [ParseState.step_of_operand? ho hopening, ParseState.stepOperand_additive ht, hbs, hclose]
    obtain ⟨s', o', hsteps', hbs', hsum', ho', hclose'⟩ := ihr bs (some (op, a)) false
    refine ⟨s', o', ?_, hbs', ho', ?_⟩
    · rw [ParseState.steps_append, hsteps, Option.bind_some, ParseState.steps_cons, hstep,
        Option.bind_some, hsteps']
    · rw [Pending.closeSum, hsum', hclose']
      rfl
  | unary h ih =>
    intro bs sum wanted
    obtain ⟨s, o, hsteps, hbs, hsum, hproduct, ho, hneg⟩ := ih bs { sum } wanted
    refine ⟨s, o, hsteps, hbs, hsum, ho, ?_⟩
    rw [Pending.closeProduct, hproduct, hneg]
    rfl
  | @multiplicative ts us t op a b ht hl hr ihl ihr =>
    intro bs sum wanted
    obtain ⟨s, o, hsteps, hbs, hsum, ho, hclose⟩ := ihl bs sum wanted
    have hopening : t ≠ .opening := by
      rintro rfl
      cases ht
    have hstep : s.step t = some ⟨bs, { sum, product := some (op, a) }, .wanted false⟩ := by
      rw [ParseState.step_of_operand? ho hopening, ParseState.stepOperand_multiplicative ht, hbs,
        hsum, hclose]
    obtain ⟨s', o', hsteps', hbs', hsum', hproduct', ho', hneg'⟩ :=
      ihr bs { sum, product := some (op, a) } false
    refine ⟨s', o', ?_, hbs', hsum', ho', ?_⟩
    · rw [ParseState.steps_append, hsteps, Option.bind_some, ParseState.steps_cons, hstep,
        Option.bind_some, hsteps']
    · rw [Pending.closeProduct, hproduct', hneg']
      rfl
  | postfixed h ih =>
    intro bs p wanted
    obtain ⟨s, hsteps, hbs, hp, ho⟩ := ih bs p wanted
    exact ⟨s, _, hsteps, hbs, by rw [hp], by rw [hp], ho, by rw [hp]⟩
  | minus h ih =>
    intro bs p wanted
    obtain ⟨s, o, hsteps, hbs, hsum, hproduct, ho, hneg⟩ :=
      ih bs { p with minuses := p.minuses + 1 } false
    refine ⟨s, o, ?_, hbs, hsum, hproduct, ho, ?_⟩
    · rw [ParseState.steps_cons]
      exact hsteps
    · rw [Pending.negate_neg, hneg]
  | plus h ih =>
    intro bs p wanted
    obtain ⟨s, o, hsteps, hrest⟩ := ih bs p false
    refine ⟨s, o, ?_, hrest⟩
    rw [ParseState.steps_cons]
    exact hsteps
  | primary h ih => exact ih
  | @swizzle ts e fields h ih =>
    intro bs p wanted
    obtain ⟨s, hsteps, hbs, hp, ho⟩ := ih bs p wanted
    refine ⟨⟨bs, p, .operand (.swizzle e fields)⟩, ?_, rfl, rfl, rfl⟩
    have hdot : s.step .dot = some ⟨bs, p, .point e⟩ := by
      simp [ParseState.step_of_operand? ho, ParseState.stepOperand, hbs, hp]
    rw [ParseState.steps_append, hsteps, Option.bind_some, ParseState.steps_cons, hdot]
    rfl
  | number text =>
    intro bs p wanted
    exact ⟨⟨bs, p, .operand (.number text)⟩, rfl, rfl, rfl, rfl⟩
  | name ident =>
    intro bs p wanted
    exact ⟨⟨bs, p, .ident ident⟩, rfl, rfl, rfl, rfl⟩
  | @call fn args h ih =>
    intro bs p wanted
    refine ⟨⟨bs, p, .operand (.call fn (args.map Prod.snd))⟩, ?_, rfl, rfl, rfl⟩
    cases args with
    | nil => rfl
    | cons arg args =>
      have hname : ParseState.step ⟨bs, p, .wanted wanted⟩ (.name fn) =
          some ⟨bs, p, .ident fn⟩ := rfl
      have hopen : ParseState.step ⟨bs, p, .ident fn⟩ .opening =
          some ⟨.call fn [] p :: bs, {}, .wanted true⟩ := rfl
      rw [ParseState.steps_cons, hname, Option.bind_some, ParseState.steps_cons, hopen,
        Option.bind_some, reads_arguments ih [] true]
      rfl
  | @group ts e h ih =>
    intro bs p wanted
    obtain ⟨s, o, hsteps, hbs, ho, hclose⟩ := ih (.group p :: bs) false
    refine ⟨⟨bs, p, .operand e⟩, ?_, rfl, rfl, rfl⟩
    have hopen : ParseState.step ⟨bs, p, .wanted wanted⟩ .opening =
        some ⟨.group p :: bs, {}, .wanted false⟩ := rfl
    rw [ParseState.steps_cons, hopen, Option.bind_some, ParseState.steps_append, hsteps]
    simp [ParseState.step_of_operand? ho, ParseState.stepOperand, hbs, hclose]

/-! ## What has been read is derived -/

/-- A row of signs with the given number of minuses. -/
inductive Signs : Nat → List Token → Prop where
  /-- No sign. -/
  | nil : Signs 0 []
  /-- One more minus. -/
  | minus {n : Nat} {ts : List Token} (h : Signs n ts) : Signs (n + 1) (ts ++ [.minus])
  /-- One more plus, which does not count. -/
  | plus {n : Nat} {ts : List Token} (h : Signs n ts) : Signs n (ts ++ [.plus])

/-- The tokens of an operation that waits for its right operand: a phrase and an operator. -/
def Awaits (operator? : Token → Option Operator) (p : Phrase) :
    Option (Operator × Expr) → List Token → Prop
  | none, ts => ts = []
  | some (op, lhs), ts => ∃ us t, ts = us ++ [t] ∧ operator? t = some op ∧ Derives p us lhs

/-- The tokens of everything that is unfinished between two brackets. -/
def Pending.Explains (p : Pending) (ts : List Token) : Prop :=
  ∃ sums products signs, ts = sums ++ products ++ signs ∧
    Awaits Token.additive? .sum p.sum sums ∧
    Awaits Token.multiplicative? .product p.product products ∧ Signs p.minuses signs

/-- The tokens of the complete arguments of a call, each with the comma after it. -/
def ExplainsArguments (args : List Expr) (ts : List Token) : Prop :=
  ∃ pairs : List (List Token × Expr), args = pairs.map Prod.snd ∧
    (∀ arg ∈ pairs, Derives .sum arg.1 arg.2) ∧ ts = pairs.flatMap fun arg => arg.1 ++ [.comma]

/-- The tokens up to the innermost open bracket. -/
inductive ExplainsBrackets : List Bracket → List Token → Prop where
  /-- Nothing is open. -/
  | nil : ExplainsBrackets [] []
  /-- An open parenthesis. -/
  | group {bs : List Bracket} {outer : Pending} {ts us : List Token} (h : ExplainsBrackets bs ts)
      (ho : outer.Explains us) : ExplainsBrackets (.group outer :: bs) (ts ++ us ++ [.opening])
  /-- An open call. -/
  | call {bs : List Bracket} {outer : Pending} {fn : String} {args : List Expr}
      {ts us vs : List Token} (h : ExplainsBrackets bs ts) (ho : outer.Explains us)
      (ha : ExplainsArguments args vs) :
      ExplainsBrackets (.call fn args outer :: bs) (ts ++ us ++ .name fn :: .opening :: vs)

/-- The tokens of what was read last. -/
def Focus.Explains : Focus → List Token → Prop
  | .wanted _, ts => ts = []
  | .operand e, ts => Derives .postfixed ts e
  | .ident name, ts => ts = [.name name]
  | .point e, ts => ∃ us, ts = us ++ [.dot] ∧ Derives .postfixed us e

/-- The tokens that lead to a state, cut into what each part of the state stands for. A call can be
closed at once only right after its opening parenthesis. -/
structure ParseState.Explains (s : ParseState) (outer inner last : List Token) : Prop where
  brackets : ExplainsBrackets s.brackets outer
  pending : s.pending.Explains inner
  focus : s.focus.Explains last
  closable : s.focus = .wanted true →
    inner = [] ∧ ∃ fn p bs, s.brackets = .call fn [] p :: bs

theorem Signs.derives {n : Nat} {ts us : List Token} {e : Expr} (h : Signs n ts)
    (he : Derives .unary us e) : Derives .unary (ts ++ us) (Pending.negate n e) := by
  induction h generalizing us e with
  | nil => exact he
  | minus h ih =>
    rw [List.append_assoc]
    exact ih he.minus
  | plus h ih =>
    rw [List.append_assoc]
    exact ih he.plus

namespace Pending

variable {p : Pending} {e : Expr} {us : List Token}

theorem explains_none : ({} : Pending).Explains [] :=
  ⟨[], [], [], rfl, rfl, rfl, .nil⟩

/-- The product that an operand closes. -/
theorem derives_closeProduct {products signs : List Token}
    (hproducts : Awaits Token.multiplicative? .product p.product products)
    (hsigns : Signs p.minuses signs) (he : Derives .postfixed us e) :
    Derives .product (products ++ signs ++ us) (p.closeProduct e) := by
  have hunary := hsigns.derives he.postfixed
  unfold closeProduct
  cases hp : p.product with
  | none =>
    rw [hp] at hproducts
    have hnil : products = [] := hproducts
    rw [hnil, List.nil_append]
    exact hunary.unary
  | some waiting =>
    obtain ⟨op, lhs⟩ := waiting
    rw [hp] at hproducts
    obtain ⟨ts, t, rfl, ht, hlhs⟩ := hproducts
    simpa [Pending.apply] using hlhs.multiplicative ht hunary

/-- The sum that an operand closes. -/
theorem derives_closeSum {ts : List Token} (h : p.Explains ts) (he : Derives .postfixed us e) :
    Derives .sum (ts ++ us) (p.closeSum e) := by
  obtain ⟨sums, products, signs, rfl, hsums, hproducts, hsigns⟩ := h
  have hproduct := derives_closeProduct hproducts hsigns he
  unfold closeSum
  cases hp : p.sum with
  | none =>
    rw [hp] at hsums
    have hnil : sums = [] := hsums
    rw [hnil, List.nil_append]
    exact hproduct.product
  | some waiting =>
    obtain ⟨op, lhs⟩ := waiting
    rw [hp] at hsums
    obtain ⟨vs, t, rfl, ht, hlhs⟩ := hsums
    simpa [Pending.apply] using hlhs.additive ht hproduct

end Pending

namespace ExplainsArguments

variable {args : List Expr} {ts us : List Token} {e : Expr}

/-- One more argument and the comma after it. -/
theorem comma (h : ExplainsArguments args ts) (he : Derives .sum us e) :
    ExplainsArguments (args ++ [e]) (ts ++ us ++ [.comma]) := by
  obtain ⟨pairs, rfl, hpairs, rfl⟩ := h
  refine ⟨pairs ++ [(us, e)], by simp, ?_, by simp⟩
  intro arg harg
  rcases List.mem_append.mp harg with harg | harg
  · exact hpairs arg harg
  · rw [List.mem_singleton.mp harg]
    exact he

/-- The last argument and the closing parenthesis. -/
theorem closing (h : ExplainsArguments args ts) (he : Derives .sum us e) (fn : String) :
    Derives .primary (.name fn :: .opening :: (ts ++ us ++ [.closing]))
      (.call fn (args ++ [e])) := by
  obtain ⟨pairs, rfl, hpairs, rfl⟩ := h
  have hseparated : [.comma].intercalate ((pairs ++ [(us, e)]).map Prod.fst) =
      (pairs.flatMap fun arg => arg.1 ++ [.comma]) ++ us := by
    clear hpairs
    induction pairs with
    | nil => simp
    | cons arg rest ih =>
      rw [List.cons_append, List.map_cons, List.intercalate_cons_of_ne_nil (by simp), ih]
      simp
  have hargs : ∀ arg ∈ pairs ++ [(us, e)], Derives .sum arg.1 arg.2 := by
    intro arg harg
    rcases List.mem_append.mp harg with harg | harg
    · exact hpairs arg harg
    · rw [List.mem_singleton.mp harg]
      exact he
  have hcall : Derives .primary _ (.call fn _) := Derives.call hargs
  rw [hseparated] at hcall
  simpa using hcall

end ExplainsArguments

namespace ParseState

variable {s s' : ParseState} {t : Token} {outer inner last : List Token}

/-- An operand was read last, whichever way the machine holds it. -/
theorem Explains.derives_operand {o : Expr} (h : s.Explains outer inner last)
    (ho : s.operand? = some o) : Derives .postfixed last o := by
  have hfocus := h.focus
  unfold operand? at ho
  split at ho
  · next e he =>
    cases ho
    rwa [he] at hfocus
  · next name hname =>
    cases ho
    rw [hname] at hfocus
    have hlast : last = [.name name] := hfocus
    rw [hlast]
    exact (Derives.name name).primary
  · cases ho

/-- A token after an operand: what the new state stands for. -/
theorem Explains.stepOperand {e : Expr} (hbrackets : ExplainsBrackets s.brackets outer)
    (hpending : s.pending.Explains inner) (he : Derives .postfixed last e)
    (hstep : s.stepOperand e t = some s') :
    ∃ outer' inner' last', outer ++ inner ++ last ++ [t] = outer' ++ inner' ++ last' ∧
      s'.Explains outer' inner' last' := by
  have hsum := Pending.derives_closeSum hpending he
  have hadditive : ∀ {op}, t.additive? = some op → ∃ outer' inner' last',
      outer ++ inner ++ last ++ [t] = outer' ++ inner' ++ last' ∧
        s'.Explains outer' inner' last' := by
    intro op ht
    rw [stepOperand_additive ht] at hstep
    cases hstep
    refine ⟨outer, inner ++ last ++ [t], [], by simp, hbrackets, ?_, rfl, by simp⟩
    exact ⟨_, [], [], by simp, ⟨inner ++ last, t, rfl, ht, hsum⟩, rfl, .nil⟩
  have hmultiplicative : ∀ {op}, t.multiplicative? = some op → ∃ outer' inner' last',
      outer ++ inner ++ last ++ [t] = outer' ++ inner' ++ last' ∧
        s'.Explains outer' inner' last' := by
    intro op ht
    rw [stepOperand_multiplicative ht] at hstep
    cases hstep
    obtain ⟨sums, products, signs, rfl, hsums, hproducts, hsigns⟩ := hpending
    have hproduct := Pending.derives_closeProduct hproducts hsigns he
    refine ⟨outer, sums ++ (products ++ signs ++ last ++ [t]), [], by simp, hbrackets, ?_, rfl,
      by simp⟩
    exact ⟨sums, _, [], by simp, hsums, ⟨products ++ signs ++ last, t, rfl, ht, hproduct⟩, .nil⟩
  cases t with
  | plus => exact hadditive rfl
  | minus => exact hadditive rfl
  | star => exact hmultiplicative rfl
  | slash => exact hmultiplicative rfl
  | dot =>
    cases hstep
    exact ⟨outer, inner, last ++ [.dot], by simp, hbrackets, hpending, ⟨last, rfl, he⟩, by simp⟩
  | comma =>
    unfold ParseState.stepOperand at hstep
    dsimp only at hstep
    split at hstep
    · next fn args p bs hbs =>
      rw [hbs] at hbrackets
      cases hbrackets with
      | @call _ _ _ _ ts us vs hbs' hp hargs =>
        cases hstep
        refine ⟨_, [], [], ?_, .call hbs' hp (hargs.comma hsum), Pending.explains_none, rfl,
          by simp⟩
        simp
    · cases hstep
  | closing =>
    unfold ParseState.stepOperand at hstep
    dsimp only at hstep
    split at hstep
    · next p bs hbs =>
      rw [hbs] at hbrackets
      cases hbrackets with
      | @group _ _ ts us hbs' hp =>
        cases hstep
        refine ⟨ts, us, _, ?_, hbs', hp, hsum.group.primary, by simp⟩
        simp
    · next fn args p bs hbs =>
      rw [hbs] at hbrackets
      cases hbrackets with
      | @call _ _ _ _ ts us vs hbs' hp hargs =>
        cases hstep
        refine ⟨ts, us, _, ?_, hbs', hp, (hargs.closing hsum fn).primary, by simp⟩
        simp
    · cases hstep
  | name ident => cases hstep
  | number text => cases hstep
  | opening => cases hstep

/-- A token where an operand is wanted: what the new state stands for. -/
theorem Explains.stepWanted {closable : Bool} (h : s.Explains outer inner last)
    (hfocus : s.focus = .wanted closable) (hstep : s.stepWanted closable t = some s') :
    ∃ outer' inner' last', outer ++ inner ++ last ++ [t] = outer' ++ inner' ++ last' ∧
      s'.Explains outer' inner' last' := by
  obtain ⟨hbrackets, hpending, hlast, hclosable⟩ := h
  rw [hfocus] at hlast hclosable
  have hnil : last = [] := hlast
  subst hnil
  cases t with
  | name ident =>
    cases hstep
    exact ⟨outer, inner, [.name ident], by simp, hbrackets, hpending, rfl, by simp⟩
  | number text =>
    cases hstep
    exact ⟨outer, inner, [.number text], by simp, hbrackets, hpending,
      (Derives.number text).primary, by simp⟩
  | plus =>
    cases hstep
    obtain ⟨sums, products, signs, rfl, hsums, hproducts, hsigns⟩ := hpending
    exact ⟨outer, sums ++ products ++ (signs ++ [.plus]), [], by simp, hbrackets,
      ⟨sums, products, _, rfl, hsums, hproducts, hsigns.plus⟩, rfl, by simp⟩
  | minus =>
    cases hstep
    obtain ⟨sums, products, signs, rfl, hsums, hproducts, hsigns⟩ := hpending
    exact ⟨outer, sums ++ products ++ (signs ++ [.minus]), [], by simp, hbrackets,
      ⟨sums, products, _, rfl, hsums, hproducts, hsigns.minus⟩, rfl, by simp⟩
  | opening =>
    cases hstep
    exact ⟨_, [], [], by simp, .group hbrackets hpending, Pending.explains_none, rfl, by simp⟩
  | closing =>
    unfold ParseState.stepWanted at hstep
    dsimp only at hstep
    split at hstep
    · next fn args p bs hbs =>
      obtain ⟨hinner, fn', p', bs', hbs'⟩ := hclosable rfl
      rw [hbs'] at hbs
      cases hbs
      rw [hbs'] at hbrackets
      cases hbrackets with
      | @call _ _ _ _ ts us vs hbrackets' hp hargs =>
        cases hstep
        obtain ⟨pairs, hpairs, -, rfl⟩ := hargs
        have hempty : pairs = [] := List.map_eq_nil_iff.mp hpairs.symm
        subst hempty
        have hcall : Derives .primary [.name fn, .opening, .closing] (.call fn []) :=
          @Derives.call fn [] (by simp)
        exact ⟨ts, us, _, by simp [hinner], hbrackets', hp, hcall.primary, by simp⟩
    · cases hstep
  | star => cases hstep
  | slash => cases hstep
  | dot => cases hstep
  | comma => cases hstep

/-- One token of the machine: the tokens read so far stay a row of derived phrases. -/
theorem Explains.step (h : s.Explains outer inner last) (hstep : s.step t = some s') :
    ∃ outer' inner' last', outer ++ inner ++ last ++ [t] = outer' ++ inner' ++ last' ∧
      s'.Explains outer' inner' last' := by
  have hoperand : ∀ {o}, s.operand? = some o → s.stepOperand o t = some s' →
      ∃ outer' inner' last', outer ++ inner ++ last ++ [t] = outer' ++ inner' ++ last' ∧
        s'.Explains outer' inner' last' := fun ho hs =>
    Explains.stepOperand h.brackets h.pending (h.derives_operand ho) hs
  unfold ParseState.step at hstep
  split at hstep
  · next closable hfocus => exact h.stepWanted hfocus hstep
  · next e hfocus => exact hoperand (by simp [operand?, hfocus]) hstep
  · next name hfocus =>
    split at hstep
    · next ht =>
      cases hstep
      have hlast := h.focus
      rw [hfocus] at hlast
      have hname : last = [.name name] := hlast
      subst hname ht
      exact ⟨outer ++ inner ++ [.name name, .opening], [], [], by simp,
        .call h.brackets h.pending ⟨[], rfl, by simp, rfl⟩, Pending.explains_none, rfl,
        fun _ => ⟨rfl, name, s.pending, s.brackets, rfl⟩⟩
    · exact hoperand (by simp [operand?, hfocus]) hstep
  · next e hfocus =>
    split at hstep
    · next fields =>
      cases hstep
      have hlast := h.focus
      rw [hfocus] at hlast
      obtain ⟨us, rfl, he⟩ := hlast
      have hswizzle : Derives .postfixed (us ++ [.dot, .name fields]) (.swizzle e fields) :=
        he.swizzle
      exact ⟨outer, inner, _, by simp, h.brackets, h.pending, hswizzle, by simp⟩
    · cases hstep

/-- Several tokens of the machine. -/
theorem Explains.steps {ts : List Token} (h : s.Explains outer inner last)
    (hsteps : s.steps ts = some s') :
    ∃ outer' inner' last', outer ++ inner ++ last ++ ts = outer' ++ inner' ++ last' ∧
      s'.Explains outer' inner' last' := by
  induction ts generalizing s outer inner last with
  | nil =>
    cases hsteps
    exact ⟨outer, inner, last, by simp, h⟩
  | cons t ts ih =>
    rw [steps_cons] at hsteps
    obtain ⟨u, hstep, hrest⟩ := Option.bind_eq_some_iff.mp hsteps
    obtain ⟨outer', inner', last', heq, hu⟩ := h.step hstep
    obtain ⟨outer'', inner'', last'', heq', hs'⟩ := ih hu hrest
    refine ⟨outer'', inner'', last'', ?_, hs'⟩
    rw [← heq', ← heq]
    simp

theorem explains_init : init.Explains [] [] [] :=
  ⟨.nil, Pending.explains_none, rfl, by simp [init]⟩

end ParseState

/-- The machine takes the tokens of a sentence and can finish there, with the derived expression. -/
theorem derives_iff_steps {ts : List Token} {e : Expr} : Derives .sum ts e ↔
    ∃ s, ParseState.init.steps ts = some s ∧ s.finish? = some e := by
  constructor
  · intro hderives
    obtain ⟨s, o, hsteps, hbs, ho, hclose⟩ := hderives.reads [] false
    exact ⟨s, hsteps, by simp [ParseState.finish?, hbs, ho, hclose]⟩
  · rintro ⟨s, hsteps, hfinish⟩
    obtain ⟨outer, inner, last, heq, h⟩ := ParseState.explains_init.steps hsteps
    unfold ParseState.finish? at hfinish
    split at hfinish
    · next o hbs ho =>
      cases hfinish
      have hbrackets := h.brackets
      rw [hbs] at hbrackets
      cases hbrackets
      have hts : ts = inner ++ last := by simpa using heq
      rw [hts]
      exact Pending.derives_closeSum h.pending (h.derives_operand ho)
    · cases hfinish

/-- A text parses as an expression if and only if the grammar derives the expression from the tokens
of the text. -/
theorem parse_eq_ok_iff {text : String} {e : Expr} : parse text = .ok e ↔
    ∃ ts, lex false text.toList = some ts ∧ Derives .sum ts e := by
  simp only [parse_eq_ok_iff_steps, derives_iff_steps, exists_and_left]

end SignedDistance
