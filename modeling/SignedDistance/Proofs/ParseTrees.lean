import Mathlib
import SignedDistance.Proofs.Grammar
import SignedDistance.Proofs.Lexemes

/-!
# Parse trees

A parse tree records which rules of the grammar were used, with one constructor for each of them.
The tokens of a tree determine it (`Tree.eq_of_tokens`), so that the grammar gives each sentence
exactly one tree. Sums, products and selections nest to the left; read from the front they are
chains of tighter phrases, and a chain ends where the next token goes on none of its links.
-/

namespace SignedDistance

/-! ## Trees -/

/-- A token that stands for an operator. -/
structure OperatorToken (read : Token → Option Operator) where
  token : Token
  op : Operator
  reads : read token = some op

/-- A parse tree of a phrase. -/
inductive Tree : Phrase → Type where
  | product (t : Tree .product) : Tree .sum
  | additive (sign : OperatorToken Token.additive?) (left : Tree .sum) (right : Tree .product) :
      Tree .sum
  | unary (t : Tree .unary) : Tree .product
  | multiplicative (sign : OperatorToken Token.multiplicative?) (left : Tree .product)
      (right : Tree .unary) : Tree .product
  | postfixed (t : Tree .postfixed) : Tree .unary
  | minus (t : Tree .unary) : Tree .unary
  | plus (t : Tree .unary) : Tree .unary
  | primary (t : Tree .primary) : Tree .postfixed
  | swizzle (t : Tree .postfixed) (fields : String) : Tree .postfixed
  | number (text : String) : Tree .primary
  | name (ident : String) : Tree .primary
  | call (fn : String) (args : List (Tree .sum)) : Tree .primary
  | group (t : Tree .sum) : Tree .primary

namespace Tree

mutual

/-- The tokens at the leaves of a tree. -/
def tokens : {p : Phrase} → Tree p → List Token
  | _, product t => t.tokens
  | _, additive sign left right => left.tokens ++ sign.token :: right.tokens
  | _, unary t => t.tokens
  | _, multiplicative sign left right => left.tokens ++ sign.token :: right.tokens
  | _, postfixed t => t.tokens
  | _, minus t => .minus :: t.tokens
  | _, plus t => .plus :: t.tokens
  | _, primary t => t.tokens
  | _, swizzle t fields => t.tokens ++ [.dot, .name fields]
  | _, number text => [.number text]
  | _, name ident => [.name ident]
  | _, call fn args => .name fn :: .opening :: ([.comma].intercalate (tokensAll args) ++ [.closing])
  | _, group t => .opening :: (t.tokens ++ [.closing])

def tokensAll : List (Tree .sum) → List (List Token)
  | [] => []
  | t :: ts => t.tokens :: tokensAll ts

end

mutual

/-- The expression that a tree stands for: signs of plus and parentheses leave no trace. -/
def expr : {p : Phrase} → Tree p → Expr
  | _, product t => t.expr
  | _, additive sign left right => .binary sign.op left.expr right.expr
  | _, unary t => t.expr
  | _, multiplicative sign left right => .binary sign.op left.expr right.expr
  | _, postfixed t => t.expr
  | _, minus t => .neg t.expr
  | _, plus t => t.expr
  | _, primary t => t.expr
  | _, swizzle t fields => .swizzle t.expr fields
  | _, number text => .number text
  | _, name ident => .name ident
  | _, call fn args => .call fn (exprAll args)
  | _, group t => t.expr

def exprAll : List (Tree .sum) → List Expr
  | [] => []
  | t :: ts => t.expr :: exprAll ts

end

theorem tokensAll_eq_map (ts : List (Tree .sum)) : tokensAll ts = ts.map tokens := by
  induction ts with
  | nil => rfl
  | cons t ts ih => rw [tokensAll, ih, List.map_cons]

theorem exprAll_eq_map (ts : List (Tree .sum)) : exprAll ts = ts.map expr := by
  induction ts with
  | nil => rfl
  | cons t ts ih => rw [exprAll, ih, List.map_cons]

/-- A tree is a derivation of its tokens. -/
theorem derives {p : Phrase} (t : Tree p) : Derives p t.tokens t.expr := by
  cases t with
  | product t => exact .product t.derives
  | additive sign left right => exact .additive sign.reads left.derives right.derives
  | unary t => exact .unary t.derives
  | multiplicative sign left right => exact .multiplicative sign.reads left.derives right.derives
  | postfixed t => exact .postfixed t.derives
  | minus t => exact .minus t.derives
  | plus t => exact .plus t.derives
  | primary t => exact .primary t.derives
  | swizzle t fields => exact .swizzle t.derives
  | number text => exact .number text
  | name ident => exact .name ident
  | call fn args =>
    have hargs : ∀ arg ∈ args, Derives .sum arg.tokens arg.expr := fun arg _ => arg.derives
    have h := @Derives.call fn (args.map fun arg => (arg.tokens, arg.expr)) (by simpa using hargs)
    rw [tokens, expr, tokensAll_eq_map, exprAll_eq_map]
    simpa [Function.comp_def] using h
  | group t => exact .group t.derives

end Tree

/-- Every derivation has a tree. -/
theorem Derives.exists_tree {p : Phrase} {ts : List Token} {e : Expr} (h : Derives p ts e) :
    ∃ t : Tree p, t.tokens = ts ∧ t.expr = e := by
  induction h with
  | product h ih =>
    obtain ⟨t, rfl, rfl⟩ := ih
    exact ⟨.product t, rfl, rfl⟩
  | additive ht hl hr ihl ihr =>
    obtain ⟨l, rfl, rfl⟩ := ihl
    obtain ⟨r, rfl, rfl⟩ := ihr
    exact ⟨.additive ⟨_, _, ht⟩ l r, rfl, rfl⟩
  | unary h ih =>
    obtain ⟨t, rfl, rfl⟩ := ih
    exact ⟨.unary t, rfl, rfl⟩
  | multiplicative ht hl hr ihl ihr =>
    obtain ⟨l, rfl, rfl⟩ := ihl
    obtain ⟨r, rfl, rfl⟩ := ihr
    exact ⟨.multiplicative ⟨_, _, ht⟩ l r, rfl, rfl⟩
  | postfixed h ih =>
    obtain ⟨t, rfl, rfl⟩ := ih
    exact ⟨.postfixed t, rfl, rfl⟩
  | minus h ih =>
    obtain ⟨t, rfl, rfl⟩ := ih
    exact ⟨.minus t, rfl, rfl⟩
  | plus h ih =>
    obtain ⟨t, rfl, rfl⟩ := ih
    exact ⟨.plus t, rfl, rfl⟩
  | primary h ih =>
    obtain ⟨t, rfl, rfl⟩ := ih
    exact ⟨.primary t, rfl, rfl⟩
  | @swizzle ts e fields h ih =>
    obtain ⟨t, rfl, rfl⟩ := ih
    exact ⟨.swizzle t fields, rfl, rfl⟩
  | number text => exact ⟨.number text, rfl, rfl⟩
  | name ident => exact ⟨.name ident, rfl, rfl⟩
  | @call fn args h ih =>
    have hargs : ∃ ts : List (Tree .sum),
        ts.map Tree.tokens = args.map Prod.fst ∧ ts.map Tree.expr = args.map Prod.snd := by
      clear h
      induction args with
      | nil => exact ⟨[], rfl, rfl⟩
      | cons arg args ihargs =>
        obtain ⟨t, htokens, hexpr⟩ := ih arg (by simp)
        obtain ⟨ts, htokensAll, hexprAll⟩ := ihargs fun arg harg => ih arg (by simp [harg])
        exact ⟨t :: ts, by simp [htokens, htokensAll], by simp [hexpr, hexprAll]⟩
    obtain ⟨ts, htokens, hexpr⟩ := hargs
    refine ⟨.call fn ts, ?_, ?_⟩
    · rw [Tree.tokens, Tree.tokensAll_eq_map, htokens]
    · rw [Tree.expr, Tree.exprAll_eq_map, hexpr]
  | group h ih =>
    obtain ⟨t, rfl, rfl⟩ := ih
    exact ⟨.group t, rfl, rfl⟩

/-! ## Where phrases start and stop -/

/-- Whether a phrase can go on with a token after it could have ended. -/
def Phrase.goesOn : Phrase → Token → Bool
  | .primary, t => t = .opening
  | .postfixed, t => t = .opening || t = .dot
  | .unary, t => t = .opening || t = .dot
  | .product, t => t = .opening || t = .dot || t.multiplicative?.isSome
  | .sum, t => t = .opening || t = .dot || t.multiplicative?.isSome || t.additive?.isSome

/-- A phrase ends before these tokens. -/
def Phrase.Stops (p : Phrase) (rest : List Token) : Prop :=
  ∀ t ∈ rest.head?, p.goesOn t = false

theorem Phrase.stops_cons {p : Phrase} {t : Token} {rest : List Token} :
    p.Stops (t :: rest) ↔ p.goesOn t = false := by
  simp [Phrase.Stops]

theorem Phrase.stops_sum_closing (rest : List Token) : Phrase.sum.Stops (.closing :: rest) := by
  simp [stops_cons, goesOn, Token.additive?, Token.multiplicative?]

/-- Whether an operand can start with the token. -/
def Token.startsOperand : Token → Bool
  | name _ => true
  | number _ => true
  | opening => true
  | _ => false

/-- Whether a phrase can start with a token. -/
def Phrase.starts : Phrase → Token → Bool
  | .primary, t => t.startsOperand
  | .postfixed, t => t.startsOperand
  | _, t => t = .minus || t = .plus || t.startsOperand

theorem Tree.exists_head {p : Phrase} (t : Tree p) :
    ∃ c cs, t.tokens = c :: cs ∧ p.starts c = true := by
  cases t with
  | product t => exact t.exists_head
  | additive sign left right =>
    obtain ⟨c, cs, htokens, hstarts⟩ := left.exists_head
    exact ⟨c, _, by rw [tokens, htokens]; rfl, hstarts⟩
  | unary t => exact t.exists_head
  | multiplicative sign left right =>
    obtain ⟨c, cs, htokens, hstarts⟩ := left.exists_head
    exact ⟨c, _, by rw [tokens, htokens]; rfl, hstarts⟩
  | postfixed t =>
    obtain ⟨c, cs, htokens, hstarts⟩ := t.exists_head
    exact ⟨c, cs, htokens, by simp_all [Phrase.starts]⟩
  | minus t => exact ⟨.minus, t.tokens, rfl, rfl⟩
  | plus t => exact ⟨.plus, t.tokens, rfl, rfl⟩
  | primary t => exact t.exists_head
  | swizzle t fields =>
    obtain ⟨c, cs, htokens, hstarts⟩ := t.exists_head
    exact ⟨c, _, by rw [tokens, htokens]; rfl, hstarts⟩
  | number text => exact ⟨_, _, rfl, rfl⟩
  | name ident => exact ⟨_, _, rfl, rfl⟩
  | call fn args => exact ⟨_, _, rfl, rfl⟩
  | group t => exact ⟨_, _, rfl, rfl⟩

/-! ## Chains -/

theorem Tree.exists_summands (t : Tree .sum) : ∃ (first : Tree .product)
    (links : List (OperatorToken Token.additive? × Tree .product)),
    t = List.foldl (fun t link => .additive link.1 t link.2) (.product first) links := by
  cases t with
  | product t => exact ⟨t, [], rfl⟩
  | additive sign left right =>
    obtain ⟨first, links, h⟩ := left.exists_summands
    exact ⟨first, links ++ [(sign, right)], by rw [List.foldl_append, ← h]; rfl⟩

theorem Tree.exists_factors (t : Tree .product) : ∃ (first : Tree .unary)
    (links : List (OperatorToken Token.multiplicative? × Tree .unary)),
    t = List.foldl (fun t link => .multiplicative link.1 t link.2) (.unary first) links := by
  cases t with
  | unary t => exact ⟨t, [], rfl⟩
  | multiplicative sign left right =>
    obtain ⟨first, links, h⟩ := left.exists_factors
    exact ⟨first, links ++ [(sign, right)], by rw [List.foldl_append, ← h]; rfl⟩

theorem Tree.exists_selections (t : Tree .postfixed) : ∃ (first : Tree .primary)
    (selections : List String), t = List.foldl .swizzle (.primary first) selections := by
  cases t with
  | primary t => exact ⟨t, [], rfl⟩
  | swizzle t fields =>
    obtain ⟨first, selections, h⟩ := t.exists_selections
    exact ⟨first, selections ++ [fields], by rw [List.foldl_append, ← h]; rfl⟩

section Links

variable {β : Type} {g : β → List Token} {R S : List Token → Prop}

theorem length_le_flatMap (g : β → List Token) {b : β} {bs : List β} (hb : b ∈ bs) :
    (g b).length ≤ (bs.flatMap g).length := by
  rw [List.length_flatMap]
  exact List.single_le_sum (by simp) _ (List.mem_map_of_mem hb)

/-- What follows the links still ends what stands before them. -/
theorem rest_flatMap {bs : List β} {r : List Token} (hR : ∀ b r, R (g b ++ r))
    (hSR : ∀ r, S r → R r) (hr : S r) : R (bs.flatMap g ++ r) := by
  cases bs with
  | nil => exact hSR r hr
  | cons b bs =>
    rw [List.flatMap_cons, List.append_assoc]
    exact hR b _

/-- If each link can be read in one way only, before what may follow a link, so can a row of links
before what ends it. -/
theorem links_unique {bs : List β}
    (hlink : ∀ b ∈ bs, ∀ b' r r', R r → R r' → g b ++ r = g b' ++ r' → b = b' ∧ r = r')
    (hR : ∀ b r, R (g b ++ r)) (hSR : ∀ r, S r → R r) (hS : ∀ b r, ¬ S (g b ++ r))
    {bs' : List β} {r r' : List Token} (hr : S r) (hr' : S r')
    (h : bs.flatMap g ++ r = bs'.flatMap g ++ r') : bs = bs' ∧ r = r' := by
  induction bs generalizing bs' with
  | nil =>
    cases bs' with
    | nil => exact ⟨rfl, h⟩
    | cons b' bs' =>
      rw [List.flatMap_nil, List.nil_append, List.flatMap_cons, List.append_assoc] at h
      rw [h] at hr
      exact absurd hr (hS b' _)
  | cons b bs ih =>
    cases bs' with
    | nil =>
      rw [List.flatMap_nil, List.nil_append, List.flatMap_cons, List.append_assoc] at h
      rw [← h] at hr'
      exact absurd hr' (hS b _)
    | cons b' bs' =>
      rw [List.flatMap_cons, List.flatMap_cons, List.append_assoc, List.append_assoc] at h
      obtain ⟨rfl, hrest⟩ := hlink b (by simp) b' _ _ (rest_flatMap hR hSR hr)
        (rest_flatMap hR hSR hr') h
      obtain ⟨rfl, rfl⟩ := ih (fun b hb => hlink b (by simp [hb])) hrest
      exact ⟨rfl, rfl⟩

end Links

/-- Trees with fewer than `n` tokens are determined by a text that they start, if they end where the
phrase has to stop. -/
def UniqueBelow (n : Nat) (p : Phrase) : Prop :=
  ∀ (t t' : Tree p) (rest rest' : List Token), t.tokens.length < n → p.Stops rest → p.Stops rest' →
    t.tokens ++ rest = t'.tokens ++ rest' → t = t' ∧ rest = rest'

/-- A loose phrase that is a chain of links after a tight phrase. -/
structure IsChain (tight loose : Phrase) {β : Type} (first : Tree tight → Tree loose)
    (link : Tree loose → β → Tree loose) (g : β → List Token) : Prop where
  tokens_first : ∀ a, (first a).tokens = a.tokens
  tokens_link : ∀ t b, (link t b).tokens = t.tokens ++ g b
  exists_links : ∀ t : Tree loose, ∃ a bs, t = List.foldl link (first a) bs
  /-- A link ends what stands before it. -/
  stops_link : ∀ b r, tight.Stops (g b ++ r)
  stops_of_stops : ∀ r, loose.Stops r → tight.Stops r
  /-- The chain does not end before a link. -/
  not_stops_link : ∀ b r, ¬ loose.Stops (g b ++ r)

section Chains

variable {tight loose : Phrase} {β : Type} {first : Tree tight → Tree loose}
  {link : Tree loose → β → Tree loose} {g : β → List Token} {n : Nat}

theorem IsChain.tokens_foldl (h : IsChain tight loose first link g) (a : Tree tight) (bs : List β) :
    (List.foldl link (first a) bs).tokens = a.tokens ++ bs.flatMap g := by
  have hfold : ∀ t : Tree loose, (List.foldl link t bs).tokens = t.tokens ++ bs.flatMap g := by
    induction bs with
    | nil => simp
    | cons b bs ih =>
      intro t
      rw [List.foldl_cons, ih, h.tokens_link, List.flatMap_cons, List.append_assoc]
  rw [hfold, h.tokens_first]

/-- A chain is determined by its text if its parts are. -/
theorem IsChain.unique (h : IsChain tight loose first link g) (htight : UniqueBelow n tight)
    (hlink : ∀ b b' r r', (g b).length < n → tight.Stops r → tight.Stops r' →
      g b ++ r = g b' ++ r' → b = b' ∧ r = r') : UniqueBelow n loose := by
  intro t t' rest rest' hlength hstops hstops' heq
  obtain ⟨a, bs, rfl⟩ := h.exists_links t
  obtain ⟨a', bs', rfl⟩ := h.exists_links t'
  rw [h.tokens_foldl] at heq hlength
  rw [h.tokens_foldl, List.append_assoc, List.append_assoc] at heq
  rw [List.length_append] at hlength
  obtain ⟨rfl, hrest⟩ := htight a a' _ _ (by omega)
    (rest_flatMap h.stops_link h.stops_of_stops hstops)
    (rest_flatMap h.stops_link h.stops_of_stops hstops') heq
  have hshort : ∀ b ∈ bs, (g b).length < n := by
    intro b hb
    have hle : (g b).length ≤ (bs.flatMap g).length := length_le_flatMap g hb
    omega
  obtain ⟨rfl, rfl⟩ := links_unique (fun b hb b' r r' => hlink b b' r r' (hshort b hb))
    h.stops_link h.stops_of_stops h.not_stops_link hstops hstops' hrest
  exact ⟨rfl, rfl⟩

end Chains

/-! ## One tree for each sentence -/

theorem OperatorToken.eq_of_token {read : Token → Option Operator} {s s' : OperatorToken read}
    (h : s.token = s'.token) : s = s' := by
  obtain ⟨token, op, hop⟩ := s
  obtain ⟨token', op', hop'⟩ := s'
  cases h
  rw [hop] at hop'
  cases hop'
  rfl

/-- An operator and its right operand, which have to follow a left operand. -/
def OperatorToken.linkTokens {read : Token → Option Operator} {p : Phrase}
    (link : OperatorToken read × Tree p) : List Token :=
  link.1.token :: link.2.tokens

theorem OperatorToken.linkTokens_unique {read : Token → Option Operator} {p : Phrase} {n : Nat}
    (h : UniqueBelow n p) (link link' : OperatorToken read × Tree p) (r r' : List Token)
    (hlength : (linkTokens link).length < n) (hr : p.Stops r) (hr' : p.Stops r')
    (heq : linkTokens link ++ r = linkTokens link' ++ r') : link = link' ∧ r = r' := by
  obtain ⟨sign, t⟩ := link
  obtain ⟨sign', t'⟩ := link'
  simp only [linkTokens, List.cons_append, List.cons.injEq] at heq
  simp only [linkTokens, List.length_cons] at hlength
  obtain rfl := eq_of_token heq.1
  obtain ⟨rfl, rfl⟩ := h t t' r r' (by omega) hr hr' heq.2
  exact ⟨rfl, rfl⟩

theorem Token.not_multiplicative?_of_additive? {t : Token} {op : Operator}
    (h : t.additive? = some op) : t.multiplicative? = none ∧ t ≠ .opening ∧ t ≠ .dot := by
  cases t <;> simp_all [additive?, multiplicative?]

theorem Token.ne_of_multiplicative? {t : Token} {op : Operator}
    (h : t.multiplicative? = some op) : t ≠ .opening ∧ t ≠ .dot := by
  cases t <;> simp_all [multiplicative?]

theorem isChain_sum : IsChain .product .sum Tree.product
    (fun t link => .additive link.1 t link.2) OperatorToken.linkTokens where
  tokens_first _ := rfl
  tokens_link _ _ := rfl
  exists_links := Tree.exists_summands
  stops_link link r := by
    have h := Token.not_multiplicative?_of_additive? link.1.reads
    simp [OperatorToken.linkTokens, Phrase.stops_cons, Phrase.goesOn, h]
  stops_of_stops r h t ht := by
    have hstop := h t ht
    simp_all [Phrase.goesOn]
  not_stops_link link r := by
    simp [OperatorToken.linkTokens, Phrase.stops_cons, Phrase.goesOn, link.1.reads]

theorem isChain_product : IsChain .unary .product Tree.unary
    (fun t link => .multiplicative link.1 t link.2) OperatorToken.linkTokens where
  tokens_first _ := rfl
  tokens_link _ _ := rfl
  exists_links := Tree.exists_factors
  stops_link link r := by
    have h := Token.ne_of_multiplicative? link.1.reads
    simp [OperatorToken.linkTokens, Phrase.stops_cons, Phrase.goesOn, h]
  stops_of_stops r h t ht := by
    have hstop := h t ht
    simp_all [Phrase.goesOn]
  not_stops_link link r := by
    simp [OperatorToken.linkTokens, Phrase.stops_cons, Phrase.goesOn, link.1.reads]

theorem isChain_postfixed : IsChain .primary .postfixed Tree.primary Tree.swizzle
    (fun fields => [.dot, .name fields]) where
  tokens_first _ := rfl
  tokens_link _ _ := rfl
  exists_links := Tree.exists_selections
  stops_link fields r := by simp [Phrase.stops_cons, Phrase.goesOn]
  stops_of_stops r h t ht := by
    have hstop := h t ht
    simp_all [Phrase.goesOn]
  not_stops_link fields r := by simp [Phrase.stops_cons, Phrase.goesOn]

theorem intercalate_comma (ts : List Token) (tss : List (List Token)) :
    [Token.comma].intercalate (ts :: tss) = ts ++ tss.flatMap (Token.comma :: ·) := by
  induction tss generalizing ts with
  | nil => simp
  | cons us tss ih =>
    rw [List.intercalate_cons_cons, ih, List.flatMap_cons]
    simp

/-- The arguments of a call end at the closing parenthesis, with which no sum starts. -/
theorem arguments_unique {n : Nat} (h : UniqueBelow n .sum) {args args' : List (Tree .sum)}
    {r r' : List Token} (hlength : ([Token.comma].intercalate (args.map Tree.tokens)).length < n)
    (heq : [Token.comma].intercalate (args.map Tree.tokens) ++ .closing :: r =
      [Token.comma].intercalate (args'.map Tree.tokens) ++ .closing :: r') :
    args = args' ∧ r = r' := by
  have hends : ∀ us, (∃ vs, us = Token.closing :: vs) → Phrase.sum.Stops us := by
    rintro us ⟨vs, rfl⟩
    exact Phrase.stops_sum_closing vs
  have hcomma : ∀ (t : Tree .sum) us, Phrase.sum.Stops ((.comma :: t.tokens) ++ us) := by
    intro t us
    simp [Phrase.stops_cons, Phrase.goesOn, Token.additive?, Token.multiplicative?]
  have hclosing : ∀ (t : Tree .sum) (us vs : List Token), t.tokens ++ us ≠ .closing :: vs := by
    intro t us vs heq
    obtain ⟨c, cs, htokens, hstarts⟩ := t.exists_head
    rw [htokens] at heq
    cases heq
    cases hstarts
  cases args with
  | nil =>
    cases args' with
    | nil => exact ⟨rfl, by simpa using heq⟩
    | cons t' ts' =>
      rw [List.map_cons, intercalate_comma, List.append_assoc] at heq
      exact absurd heq.symm (hclosing t' _ _)
  | cons t ts =>
    rw [List.map_cons, intercalate_comma, List.flatMap_map] at heq hlength
    rw [List.append_assoc] at heq
    rw [List.length_append] at hlength
    cases args' with
    | nil => exact absurd heq (hclosing t _ _)
    | cons t' ts' =>
      rw [List.map_cons, intercalate_comma, List.flatMap_map, List.append_assoc] at heq
      -- After the first argument, each one is a link that starts with a comma.
      have hrest : ∀ (ts : List (Tree .sum)) us,
          Phrase.sum.Stops (ts.flatMap (fun t => Token.comma :: t.tokens) ++ .closing :: us) :=
        fun ts us => rest_flatMap hcomma hends ⟨us, rfl⟩
      obtain ⟨rfl, hmore⟩ := h t t' _ _ (by omega) (hrest ts r) (hrest ts' r') heq
      have hlink : ∀ u ∈ ts, ∀ (u' : Tree .sum) us us', Phrase.sum.Stops us →
          Phrase.sum.Stops us' →
          (Token.comma :: u.tokens) ++ us = (Token.comma :: u'.tokens) ++ us' →
          u = u' ∧ us = us' := by
        intro u hu u' us us' hus hus' heq
        have hle := length_le_flatMap (fun t : Tree .sum => Token.comma :: t.tokens) hu
        rw [List.length_cons] at hle
        exact h u u' us us' (by omega) hus hus' (List.cons.inj heq).2
      obtain ⟨rfl, hclosed⟩ := links_unique hlink hcomma hends (by simp) ⟨r, rfl⟩ ⟨r', rfl⟩ hmore
      exact ⟨rfl, (List.cons.inj hclosed).2⟩

/-- A primary expression is told by its first token; a name is a call if a parenthesis follows. -/
theorem unique_primary {n : Nat} (h : UniqueBelow n .sum) : UniqueBelow (n + 1) .primary := by
  intro t t' rest rest' hlength hstops hstops' heq
  have hopening : ∀ us, ¬ Phrase.primary.Stops (.opening :: us) := by
    intro us
    simp [Phrase.stops_cons, Phrase.goesOn]
  cases t with
  | number text =>
    cases t' with
    | number text' =>
      simp only [Tree.tokens, List.cons_append, List.nil_append, List.cons.injEq,
        Token.number.injEq] at heq
      exact ⟨by rw [heq.1], heq.2⟩
    | _ => simp [Tree.tokens] at heq
  | name ident =>
    cases t' with
    | name ident' =>
      simp only [Tree.tokens, List.cons_append, List.nil_append, List.cons.injEq,
        Token.name.injEq] at heq
      exact ⟨by rw [heq.1], heq.2⟩
    | call fn args =>
      simp only [Tree.tokens, List.cons_append, List.nil_append, List.cons.injEq] at heq
      rw [heq.2] at hstops
      exact absurd hstops (hopening _)
    | _ => simp [Tree.tokens] at heq
  | call fn args =>
    cases t' with
    | name ident =>
      simp only [Tree.tokens, List.cons_append, List.nil_append, List.cons.injEq] at heq
      rw [← heq.2] at hstops'
      exact absurd hstops' (hopening _)
    | call fn' args' =>
      simp only [Tree.tokens, Tree.tokensAll_eq_map, List.cons_append, List.append_assoc,
        List.nil_append, List.cons.injEq, Token.name.injEq, true_and] at heq
      simp only [Tree.tokens, Tree.tokensAll_eq_map, List.length_cons, List.length_append]
        at hlength
      obtain ⟨rfl, rfl⟩ := arguments_unique h (by omega) heq.2
      exact ⟨by rw [heq.1], rfl⟩
    | _ => simp [Tree.tokens] at heq
  | group t =>
    cases t' with
    | group t' =>
      simp only [Tree.tokens, List.cons_append, List.append_assoc, List.nil_append, List.cons.injEq,
        true_and] at heq
      simp only [Tree.tokens, List.length_cons, List.length_append] at hlength
      obtain ⟨rfl, hrest⟩ := h t t' _ _ (by omega) (Phrase.stops_sum_closing _)
        (Phrase.stops_sum_closing _) heq
      exact ⟨rfl, (List.cons.inj hrest).2⟩
    | _ => simp [Tree.tokens] at heq

/-- Signs are read one by one, and no operand starts with one. -/
theorem unique_unary {n : Nat} (h : UniqueBelow n .postfixed) : UniqueBelow n .unary := by
  induction n with
  | zero =>
    intro t t' rest rest' hlength
    omega
  | succ n ih =>
    have hsmall : UniqueBelow n .unary :=
      ih fun t t' rest rest' hlength => h t t' rest rest' (by omega)
    have hsign : ∀ (t : Tree .postfixed) (sign : Token) (us vs : List Token),
        sign = .minus ∨ sign = .plus → t.tokens ++ us ≠ sign :: vs := by
      intro t sign us vs hsign heq
      obtain ⟨c, cs, htokens, hstarts⟩ := t.exists_head
      rw [htokens] at heq
      cases heq
      rcases hsign with rfl | rfl <;> cases hstarts
    intro t t' rest rest' hlength hstops hstops' heq
    cases t with
    | postfixed t =>
      cases t' with
      | postfixed t' =>
        obtain ⟨rfl, rfl⟩ := h t t' rest rest' hlength hstops hstops' heq
        exact ⟨rfl, rfl⟩
      | minus t' => exact absurd heq (hsign t .minus _ _ (Or.inl rfl))
      | plus t' => exact absurd heq (hsign t .plus _ _ (Or.inr rfl))
    | minus t =>
      cases t' with
      | postfixed t' => exact absurd heq.symm (hsign t' .minus _ _ (Or.inl rfl))
      | minus t' =>
        simp only [Tree.tokens, List.length_cons] at hlength
        obtain ⟨rfl, rfl⟩ := hsmall t t' rest rest' (by omega) hstops hstops' (List.cons.inj heq).2
        exact ⟨rfl, rfl⟩
      | plus t' => cases heq
    | plus t =>
      cases t' with
      | postfixed t' => exact absurd heq.symm (hsign t' .plus _ _ (Or.inr rfl))
      | minus t' => cases heq
      | plus t' =>
        simp only [Tree.tokens, List.length_cons] at hlength
        obtain ⟨rfl, rfl⟩ := hsmall t t' rest rest' (by omega) hstops hstops' (List.cons.inj heq).2
        exact ⟨rfl, rfl⟩

theorem uniqueBelow_sum (n : Nat) : UniqueBelow n .sum := by
  induction n with
  | zero =>
    intro t t' rest rest' hlength
    omega
  | succ n ih =>
    have hpostfixed : UniqueBelow (n + 1) .postfixed := by
      refine isChain_postfixed.unique (unique_primary ih) ?_
      intro fields fields' r r' hlength hr hr' heq
      simpa using heq
    have hproduct : UniqueBelow (n + 1) .product :=
      isChain_product.unique (unique_unary hpostfixed)
        (OperatorToken.linkTokens_unique (unique_unary hpostfixed))
    exact isChain_sum.unique hproduct (OperatorToken.linkTokens_unique hproduct)

/-- The grammar gives each sentence one tree. -/
theorem Tree.eq_of_tokens {t t' : Tree .sum} (h : t.tokens = t'.tokens) : t = t' := by
  have hstops : Phrase.sum.Stops [] := by simp [Phrase.Stops]
  exact (uniqueBelow_sum (t.tokens.length + 1) t t' [] [] (by omega) hstops hstops (by rw [h])).1

/-- A text parses exactly if it is a sentence of the grammar over its tokens. A sentence has one
tree, and the result is the expression of that tree. -/
theorem parse_eq_tree (text : String) :
    ((∃ e, parse text = .ok e) ↔ ∃ t : Tree .sum, Tokenizes false text.toList t.tokens) ∧
    ∀ t : Tree .sum, Tokenizes false text.toList t.tokens →
      parse text = .ok t.expr ∧
        ∀ t' : Tree .sum, Tokenizes false text.toList t'.tokens → t' = t := by
  refine ⟨⟨?_, ?_⟩, fun t ht => ⟨?_, fun t' ht' => ?_⟩⟩
  · rintro ⟨e, he⟩
    obtain ⟨ts, hlex, hderives⟩ := parse_eq_ok_iff.mp he
    obtain ⟨t, rfl, -⟩ := hderives.exists_tree
    exact ⟨t, lex_eq_some_iff.mp hlex⟩
  · rintro ⟨t, ht⟩
    exact ⟨t.expr, parse_eq_ok_iff.mpr ⟨t.tokens, lex_eq_some_iff.mpr ht, t.derives⟩⟩
  · exact parse_eq_ok_iff.mpr ⟨t.tokens, lex_eq_some_iff.mpr ht, t.derives⟩
  · -- The text has one row of tokens, and these have one tree.
    have htokens := (lex_eq_some_iff.mpr ht').symm.trans (lex_eq_some_iff.mpr ht)
    exact Tree.eq_of_tokens (Option.some.inj htokens)

end SignedDistance
