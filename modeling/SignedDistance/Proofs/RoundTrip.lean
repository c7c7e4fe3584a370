import Mathlib
import SignedDistance.Proofs.Atomic
import SignedDistance.Proofs.Trees

/-!
# Parsing undoes rendering

The text of an expression is scanned into the tokens of its parts, with parentheses exactly where
the grammar needs them (`Scans.of_writable`), so the parser gives the expression back, with every
literal replaced by what its text stands for (`parse_of_render`). The one exception is a selection
from a number without a point, such as `1` in `1.x`: the point goes on the number, and an integer is
lost. Counting integers shows that no such expression is read back (`countP_tokens`).
-/

namespace SignedDistance

open Text

/-! ## Expressions that can be read back -/

namespace Expr

/-- What a node asks of the texts that it holds for its expression to be written as one text: names
are identifiers, numbers are numbers, literals can be parsed, and operators are the known ones. -/
def IsWritable : Expr → Prop
  | .lit text => ∃ e, parse text = .ok e
  | .name ident => isIdentifier ident = true
  | .number text => IsNumber text
  | .call fn _ => isIdentifier fn = true
  | .binary op _ _ => ∀ symbol, op ≠ .other symbol
  | .neg _ => True
  | .swizzle _ fields => isIdentifier fields = true
  | _ => False

/-- Whether an expression is a number or a literal that has, up to blanks around it, digits only. -/
def isBareInteger : Expr → Bool
  | .lit text => isDigits (trim text.toList)
  | .number text => isDigits (trim text.toList)
  | _ => false

/-- Whether a node selects components of a number or a literal of digits only. -/
def selectsInteger : Expr → Bool
  | .swizzle operand _ => operand.isBareInteger
  | _ => false

/-- Whether a node is a literal. -/
def isLit : Expr → Bool
  | .lit _ => true
  | _ => false

/-- Whether a node selects components of a literal of digits only. -/
def selectsIntegerLit : Expr → Bool
  | .swizzle operand _ => operand.isLit && operand.isBareInteger
  | _ => false

theorem selectsIntegerLit_eq_false {n : Expr} (h : n.selectsInteger = false) :
    n.selectsIntegerLit = false := by
  cases n with
  | swizzle operand fields =>
    rw [selectsInteger] at h
    rw [selectsIntegerLit, h, Bool.and_false]
  | _ => rfl

mutual

/-- The expression with every literal replaced by what its text stands for. -/
def resolved : Expr → Expr
  | .lit text =>
    match parse text with
    | .ok e => e
    | .error _ => .lit text
  | .call fn args => .call fn (resolvedAll args)
  | .binary op lhs rhs => .binary op lhs.resolved rhs.resolved
  | .neg operand => .neg operand.resolved
  | .swizzle operand fields => .swizzle operand.resolved fields
  | e => e

/-- Several expressions with every literal replaced. -/
def resolvedAll : List Expr → List Expr
  | [] => []
  | e :: es => e.resolved :: resolvedAll es

end

theorem resolvedAll_eq_map (es : List Expr) : resolvedAll es = es.map resolved := by
  induction es with
  | nil => rfl
  | cons e es ih => rw [resolvedAll, ih, List.map_cons]

theorem resolved_lit {text : String} {e : Expr} (h : parse text = .ok e) :
    (lit text).resolved = e := by
  rw [resolved, h]

end Expr

/-! ## A point that goes on a number -/

/-- An exponent at the front of a name ends the name or is followed by another one. -/
theorem Token.exponent_of_isIdentifier {c : Char} {cs : List Char} (hc : isIdentStart c = true)
    (hcs : ∀ d ∈ cs, isIdentChar d = true) :
    ∃ rest, c :: cs = exponent (c :: cs) ++ rest ∧
      (rest = [] ∨
        ∃ d ds, rest = d :: ds ∧ isIdentStart d = true ∧ ∀ x ∈ ds, isIdentChar x = true) := by
  have hwhole : ∃ d ds, c :: cs = d :: ds ∧ isIdentStart d = true ∧
      ∀ x ∈ ds, isIdentChar x = true := ⟨c, cs, rfl, hc, hcs⟩
  cases cs with
  | nil => exact ⟨[c], by simp [exponent], Or.inr hwhole⟩
  | cons d ds =>
    have hd : d ≠ '+' ∧ d ≠ '-' := by
      have := hcs d (by simp)
      constructor <;> rintro rfl <;> exact absurd this (by decide)
    by_cases hmark : (c = 'e' ∨ c = 'E') ∧ digits (d :: ds) ≠ []
    · obtain ⟨hmark, hdigits⟩ := hmark
      have hexponent : exponent (c :: d :: ds) = c :: digits (d :: ds) := by
        rcases hmark with rfl | rfl <;> simp [exponent, hd, hdigits]
      refine ⟨(d :: ds).dropWhile Char.isDigit, ?_, ?_⟩
      · rw [hexponent, digits, List.cons_append, List.takeWhile_append_dropWhile]
      · cases hrest : (d :: ds).dropWhile Char.isDigit with
        | nil => exact Or.inl rfl
        | cons x xs =>
          have hmem : ∀ y ∈ x :: xs, isIdentChar y = true := fun y hy =>
            hcs y (List.dropWhile_sublist _ |>.subset (hrest ▸ hy))
          have hx : x.isDigit = false := by
            have := List.head?_dropWhile_not Char.isDigit (d :: ds)
            simpa [hrest] using this
          have hstart : isIdentStart x = true :=
            (isIdentChar_iff.mp (hmem x (by simp))).resolve_right (by simp [hx])
          exact Or.inr ⟨x, xs, rfl, hstart, fun y hy => hmem y (by simp [hy])⟩
    · have hexponent : exponent (c :: d :: ds) = [] := by
        by_cases hm : c = 'e' ∨ c = 'E'
        · have hdigits : digits (d :: ds) = [] := by
            by_contra hne
            exact hmark ⟨hm, hne⟩
          simp [exponent, hd, hdigits]
        · rw [not_or] at hm
          simp [exponent, hm]
      exact ⟨c :: d :: ds, by rw [hexponent, List.nil_append], Or.inr hwhole⟩

/-- A point after digits goes on the number, and so does an exponent at the front of the name that
follows. What is left of the name, if anything, is a name. No integer is left. -/
theorem lex_digits_point {ds : List Char} {fields : String} (hds : IsDigits ds)
    (hfields : isIdentifier fields = true) :
    ∃ ts, lex false (ds ++ '.' :: fields.toList) = some ts ∧
      (∀ t ∈ ts, t.isInteger = false) ∧ flagAfter false ts = true := by
  unfold isIdentifier at hfields
  cases htext : fields.toList with
  | nil => simp [htext] at hfields
  | cons c cs =>
    simp only [htext, Bool.and_eq_true, List.all_eq_true] at hfields
    obtain ⟨hc, hcs⟩ := hfields
    obtain ⟨rest, hsplit, hrest⟩ := Token.exponent_of_isIdentifier hc hcs
    have hhead : ∀ x ∈ (c :: cs).head?, x.isDigit = false ∧ x ≠ '.' := by
      rintro x ⟨⟩
      rw [isIdentStart_iff] at hc
      refine ⟨?_, by rintro rfl; simp at hc⟩
      by_contra hdigit
      rw [Bool.not_eq_false, isDigit_iff] at hdigit
      omega
    have hmantissa : Token.mantissa (ds ++ '.' :: c :: cs) = ds ++ ['.'] := by
      simpa using Token.mantissa_of_isMantissa (@IsMantissa.point ds [] hds (by simp)) hhead
    have hnumeral : Token.numeral (ds ++ '.' :: c :: cs) =
        ds ++ '.' :: Token.exponent (c :: cs) := by
      simp [Token.numeral, hmantissa]
    obtain ⟨d, ds', rfl⟩ := List.exists_cons_of_ne_nil hds.1
    have hcut : d :: ds' ++ '.' :: c :: cs =
        d :: (ds' ++ '.' :: Token.exponent (c :: cs)) ++ rest := by
      rw [hsplit]
      simp [← hsplit]
    have hlex := lex_numeral (Or.inl (hds.2 d (by simp))) (hcut ▸ hnumeral)
    rw [hcut, hlex]
    have hnumber : Token.isInteger
        (.number (String.ofList (d :: (ds' ++ '.' :: Token.exponent (c :: cs))))) = false := by
      simp [Token.isInteger]
    rcases hrest with rfl | ⟨x, xs, rfl, hx, hxs⟩
    · exact ⟨_, by rw [lex_nil]; rfl, List.forall_mem_singleton.mpr hnumber, rfl⟩
    · have hname : isIdentifier (String.ofList (x :: xs)) = true := by
        simpa [isIdentifier, hx] using hxs
      have hlex := @lex_identifier true _ hname
      rw [String.toList_ofList] at hlex
      exact ⟨_, by rw [hlex]; rfl,
        List.forall_mem_cons.mpr ⟨hnumber, by simp [Token.isInteger]⟩, rfl⟩

/-! ## Tokens of rendered expressions -/

/-- The sign of an operator; operators that are not known have none. -/
def Operator.token? : Operator → Option Token
  | add => some .plus
  | sub => some .minus
  | mul => some .star
  | div => some .slash
  | other _ => none

namespace Expr

/-- The tokens of an operand, in parentheses if it binds less tightly than `least`. -/
def wrapped (e : Expr) (least : Precedence) (ts : List Token) : List Token :=
  if e.precedence < least then .opening :: (ts ++ [.closing]) else ts

mutual

/-- The tokens of the text of an expression. Where a point would go on a number, they are what the
scanner makes of both. -/
def tokens : Expr → List Token
  | .lit text => (lex false text.toList).getD []
  | .name ident => [.name ident]
  | .number text => [.number text]
  | .call fn args =>
    .name fn :: .opening :: ([Token.comma].intercalate (tokensAll args) ++ [.closing])
  | .binary op lhs rhs =>
    lhs.wrapped op.precedence lhs.tokens ++
      (op.token?.toList ++ rhs.wrapped (op.precedence + 1) rhs.tokens)
  | .neg operand => .minus :: operand.wrapped (.unary + 1) operand.tokens
  | .swizzle operand fields =>
    match operand with
    | .number text =>
      if isDigits (trim text.toList) then
        (lex false (text.toList ++ '.' :: fields.toList)).getD []
      else [.number text, .dot, .name fields]
    | operand => operand.wrapped .postfixed operand.tokens ++ [.dot, .name fields]
  | _ => []

/-- The tokens of the texts of several expressions. -/
def tokensAll : List Expr → List (List Token)
  | [] => []
  | e :: es => e.tokens :: tokensAll es

end

theorem tokensAll_eq_map (es : List Expr) : tokensAll es = es.map tokens := by
  induction es with
  | nil => rfl
  | cons e es ih => rw [tokensAll, ih, List.map_cons]

/-- A point after anything but an integer is a token of its own. -/
theorem tokens_swizzle {operand : Expr} {fields : String} (h : operand.isBareInteger = false) :
    (swizzle operand fields).tokens =
      operand.wrapped .postfixed operand.tokens ++ [.dot, .name fields] := by
  cases operand with
  | number text =>
    rw [isBareInteger] at h
    simp [tokens, wrapped, precedence, h, Precedence.atom, Precedence.postfixed]
  | _ => simp only [tokens]

end Expr

/-- An operand has ended where a phrase ends. -/
theorem Derives.flagAfter {p : Phrase} {ts : List Token} {e : Expr} (h : Derives p ts e)
    (flag : Bool) : flagAfter flag ts = true := by
  induction h generalizing flag with
  | product h ih => exact ih flag
  | unary h ih => exact ih flag
  | postfixed h ih => exact ih flag
  | primary h ih => exact ih flag
  | additive ht hl hr ihl ihr => rw [flagAfter_append, flagAfter_cons, ihr]
  | multiplicative ht hl hr ihl ihr => rw [flagAfter_append, flagAfter_cons, ihr]
  | minus h ih => rw [flagAfter_cons, ih]
  | plus h ih => rw [flagAfter_cons, ih]
  | swizzle h ih => rw [flagAfter_append]; rfl
  | number text => rfl
  | name ident => rfl
  | call h ih => rw [flagAfter_cons, flagAfter_cons, flagAfter_append]; rfl
  | group h ih => rw [flagAfter_cons, flagAfter_append]; rfl

theorem lex_parentheses {flag : Bool} {cs : List Char} {ts : List Token}
    (h : lex false cs = some ts) :
    lex flag ('(' :: (cs ++ [')'])) = some (.opening :: (ts ++ [.closing])) := by
  have hopening : Token.endsOperand .opening = false := rfl
  have hclosing : ∀ flag, lex flag [')'] = some [.closing] := fun flag =>
    (lex_sign rfl (by simp)).trans (by simp)
  rw [lex_sign rfl (by simp), hopening, lex_append (breaks_cons.mpr (by decide)) (by simp), h,
    Option.bind_some, hclosing]
  rfl

theorem Operator.exists_token? {op : Operator} (h : ∀ symbol, op ≠ .other symbol) :
    ∃ t, op.token? = some t := by
  cases op with
  | other symbol => exact absurd rfl (h symbol)
  | _ => exact ⟨_, rfl⟩

/-- A known operator is one of a sum or one of a product. -/
theorem Operator.level_of_token? {op : Operator} {t : Token} (h : op.token? = some t) :
    t.additive? = some op ∧ op.precedence = .additive ∨
      t.multiplicative? = some op ∧ op.precedence = .multiplicative := by
  cases op with
  | add => cases h; exact Or.inl ⟨rfl, rfl⟩
  | sub => cases h; exact Or.inl ⟨rfl, rfl⟩
  | mul => cases h; exact Or.inr ⟨rfl, rfl⟩
  | div => cases h; exact Or.inr ⟨rfl, rfl⟩
  | other s => cases h

/-- The symbol of a known operator is the sign that is its token. -/
theorem Operator.symbol_of_token? {op : Operator} {t : Token} (h : op.token? = some t) :
    ∃ c, op.symbol.toList = [c] ∧ Token.ofSign? c = some t ∧ c ≠ '.' ∧ t.endsOperand = false := by
  cases op with
  | add => cases h; exact ⟨'+', rfl, rfl, by decide, rfl⟩
  | sub => cases h; exact ⟨'-', rfl, rfl, by decide, rfl⟩
  | mul => cases h; exact ⟨'*', rfl, rfl, by decide, rfl⟩
  | div => cases h; exact ⟨'/', rfl, rfl, by decide, rfl⟩
  | other s => cases h

theorem lex_minus {cs : List Char} {ts : List Token} (h : lex false cs = some ts) :
    lex false ('-' :: cs) = some (.minus :: ts) := by
  rw [lex_sign rfl (by simp), show Token.endsOperand .minus = false from rfl, h]
  rfl

/-- Two texts with an operator between them. -/
theorem lex_binary {op : Operator} {t : Token} {l r : String} {ts us : List Token}
    (hop : op.token? = some t) (hl : lex false l.toList = some ts)
    (hr : lex false r.toList = some us) :
    lex false (l ++ " " ++ op.symbol ++ " " ++ r).toList = some (ts ++ t :: us) := by
  obtain ⟨c, hsymbol, hsign, hdot, hends⟩ := Operator.symbol_of_token? hop
  have hrest : ∀ flag, lex flag (' ' :: c :: ' ' :: r.toList) = some (t :: us) := by
    intro flag
    rw [lex_space (by decide), lex_sign hsign (Or.inr hdot), hends, lex_space (by decide), hr]
    rfl
  have htext : (l ++ " " ++ op.symbol ++ " " ++ r).toList =
      l.toList ++ ' ' :: c :: ' ' :: r.toList := by
    simp [hsymbol]
  rw [htext, lex_append (breaks_cons.mpr (by decide)) (by simp), hl, Option.bind_some, hrest]
  rfl

/-- Texts with commas between them. -/
theorem lex_arguments {texts : List String} {tss : List (List Token)}
    (h : List.Forall₂ (fun text ts => lex false text.toList = some ts) texts tss) :
    lex false (", ".intercalate texts).toList = some ([Token.comma].intercalate tss) := by
  induction h with
  | nil => simp
  | @cons text ts texts tss htext hrest ih =>
    cases hrest with
    | nil => simpa using htext
    | @cons first us others more hfirst hmore =>
      have hcomma : Token.endsOperand .comma = false := rfl
      have hsplit : (", ".intercalate (text :: first :: others)).toList =
          text.toList ++ ',' :: ' ' :: (", ".intercalate (first :: others)).toList := by
        simp [String.intercalate_cons_cons]
      rw [hsplit, lex_append (breaks_cons.mpr (by decide)) (by simp), htext, Option.bind_some,
        lex_sign rfl (by simp), hcomma, lex_space (by decide), ih]
      simp

theorem lex_call {fn inner : String} {ts : List Token} (hfn : isIdentifier fn = true)
    (h : lex false inner.toList = some ts) :
    lex false (fn ++ "(" ++ inner ++ ")").toList =
      some (.name fn :: .opening :: (ts ++ [.closing])) := by
  have htext : (fn ++ "(" ++ inner ++ ")").toList =
      fn.toList ++ '(' :: (inner.toList ++ [')']) := by
    simp
  rw [htext, lex_append (breaks_cons.mpr (by decide)) (by simp), lex_identifier hfn,
    Option.bind_some, lex_parentheses h]
  rfl

/-- A point and a name after a text that does not end with an integer. -/
theorem lex_selection {text fields : String} {ts : List Token}
    (hlex : lex false text.toList = some ts) (hends : flagAfter false ts = true)
    (hlast : ∀ t ∈ ts.getLast?, t.isInteger = false) (hfields : isIdentifier fields = true) :
    lex false (text ++ "." ++ fields).toList = some (ts ++ [.dot, .name fields]) := by
  have hdot : lex true ('.' :: fields.toList) = some [.dot, .name fields] := by
    rw [lex_sign rfl (Or.inl rfl), lex_identifier hfields]
    rfl
  have hpoint : ∀ us, lex false text.toList = some us → ∀ t ∈ us.getLast?, t.isInteger = false := by
    intro us hus
    rw [hlex] at hus
    cases hus
    exact hlast
  rw [String.toList_append, String.toList_append, List.append_assoc,
    show ".".toList ++ fields.toList = '.' :: fields.toList from rfl,
    lex_append (breaks_cons.mpr (by decide)) (fun _ => hpoint), hlex, Option.bind_some, hends, hdot]
  rfl

/-- A number is an integer if it has digits only; blanks around it are no part of it. -/
theorem isDigits_of_isNumber {text : String} (h : IsNumber text)
    (hdigits : isDigits (trim text.toList) = true) : IsDigits text.toList := by
  have hvisible : ∀ c ∈ text.toList, 32 < c.toNat ∧ c.toNat < 128 := by
    intro c hc
    rw [← Token.numeral_of_isNumber h] at hc
    exact toNat_of_mem_numeral hc
  have hblank : ∀ cs : List Char, (∀ c ∈ cs, c ∈ text.toList) → cs.dropWhile isBlank = cs := by
    intro cs hcs
    cases cs with
    | nil => rfl
    | cons c cs =>
      refine List.dropWhile_cons_of_neg fun hc => ?_
      have := hvisible c (hcs c (by simp))
      rcases toNat_of_isBlank hc with hc | hc <;> omega
  rw [trim, hblank _ (fun _ => id), hblank _ (by simp), List.reverse_reverse] at hdigits
  exact isDigits_of_ascii (fun c hc => (hvisible c hc).2) hdigits

/-- What scanning makes of the text of an expression: its tokens, after which an operand has ended
and, if the expression is a postfixed phrase other than an integer, a point can follow. -/
structure Scans (e : Expr) (text : String) : Prop where
  /-- The expression has the text. -/
  render : e.render = .ok text
  /-- The text has the tokens of the expression. -/
  lexes : lex false text.toList = some e.tokens
  /-- The last token ends an operand. -/
  ends : flagAfter false e.tokens = true
  /-- The last token is no integer that a point would go on. -/
  last : Precedence.unary < e.precedence → e.isBareInteger = false →
    ∀ t ∈ e.tokens.getLast?, t.isInteger = false

namespace Scans

variable {e : Expr} {text : String}

/-- Scanning an operand, which may stand in parentheses. -/
theorem asOperand (h : Scans e text) (least : Precedence) :
    lex false (e.asOperand least text).toList = some (e.wrapped least e.tokens) ∧
      flagAfter false (e.wrapped least e.tokens) = true := by
  unfold Expr.asOperand Expr.wrapped
  split
  · refine ⟨?_, ?_⟩
    · simpa using lex_parentheses h.lexes
    · rw [flagAfter_cons, flagAfter_append]
      rfl
  · exact ⟨h.lexes, h.ends⟩

theorem last_asOperand (h : Scans e text) (hbare : e.isBareInteger = false) :
    ∀ t ∈ (e.wrapped .postfixed e.tokens).getLast?, t.isInteger = false := by
  unfold Expr.wrapped
  split
  · intro t ht
    rw [← List.cons_append, List.getLast?_concat] at ht
    cases ht
    rfl
  · next hprecedence =>
    refine h.last ?_ hbare
    rw [Nat.not_lt] at hprecedence
    exact Nat.lt_of_lt_of_le (by decide) hprecedence

theorem name {ident : String} (h : isIdentifier ident = true) : Scans (.name ident) ident where
  render := rfl
  lexes := lex_identifier h
  ends := rfl
  last := by simp [Expr.tokens, Token.isInteger]

theorem lit (h : parse text = .ok e) : Scans (.lit text) text := by
  obtain ⟨ts, hlex, hderives⟩ := parse_eq_ok_iff.mp h
  have htokens : (Expr.lit text).tokens = ts := by rw [Expr.tokens, hlex, Option.getD_some]
  refine ⟨rfl, htokens ▸ hlex, htokens ▸ hderives.flagAfter false, ?_⟩
  intro hprecedence hbare
  have hatomic : isAtomic text = true := by
    by_contra hnot
    simp [Expr.precedence, hnot, Precedence.lowest] at hprecedence
  rw [htokens]
  exact isInteger_getLast hlex (hderives.postfixed_of_isAtomic hatomic hlex) hbare

theorem number (h : IsNumber text) : Scans (.number text) text where
  render := rfl
  lexes := lex_number h
  ends := rfl
  last _ hbare :=
    isInteger_getLast (lex_number h) (Derives.primary (Derives.number text)) hbare

theorem neg (h : Scans e text) :
    Scans (.neg e) ("-" ++ e.asOperand (.unary + 1) text) := by
  obtain ⟨hlex, hends⟩ := h.asOperand (.unary + 1)
  refine ⟨by rw [Expr.render, h.render]; rfl, ?_, ?_, fun hlt => absurd hlt (Nat.lt_irrefl _)⟩
  · rw [String.toList_append]
    exact lex_minus hlex
  · rw [Expr.tokens, flagAfter_cons]
    exact hends

theorem binary {op : Operator} {t : Token} {lhs rhs : Expr} {l r : String}
    (hop : op.token? = some t) (hl : Scans lhs l) (hr : Scans rhs r) :
    Scans (.binary op lhs rhs) (lhs.asOperand op.precedence l ++ " " ++ op.symbol ++ " "
      ++ rhs.asOperand (op.precedence + 1) r) := by
  obtain ⟨-, -, -, -, hends⟩ := Operator.symbol_of_token? hop
  obtain ⟨hlexl, -⟩ := hl.asOperand op.precedence
  obtain ⟨hlexr, hendsr⟩ := hr.asOperand (op.precedence + 1)
  refine ⟨by rw [Expr.render, hl.render, hr.render]; rfl, ?_, ?_, ?_⟩
  · rw [lex_binary hop hlexl hlexr, Expr.tokens, hop]
    rfl
  · rw [Expr.tokens, hop, flagAfter_append, Option.toList_some, List.singleton_append,
      flagAfter_cons, hends]
    exact hendsr
  · intro hlt
    exact absurd hlt (by cases op <;> simp [Expr.precedence, Operator.precedence,
      Precedence.unary, Precedence.additive, Precedence.multiplicative])

theorem swizzle {fields : String} (h : Scans e text) (hfields : isIdentifier fields = true)
    (hbare : e.isBareInteger = false) :
    Scans (.swizzle e fields) (e.asOperand .postfixed text ++ "." ++ fields) := by
  obtain ⟨hlex, hends⟩ := h.asOperand .postfixed
  have htokens : (Expr.swizzle e fields).tokens = _ := Expr.tokens_swizzle hbare
  refine ⟨by rw [Expr.render, h.render]; rfl, ?_, ?_, ?_⟩
  · rw [htokens]
    exact lex_selection hlex hends (h.last_asOperand hbare) hfields
  · rw [htokens, flagAfter_append]
    rfl
  · intro _ _ t ht
    rw [htokens, List.getLast?_append] at ht
    cases ht
    rfl

/-- The point goes on the number. -/
theorem swizzle_number {fields : String} (h : IsNumber text) (hfields : isIdentifier fields = true)
    (hbare : isDigits (trim text.toList) = true) :
    Scans (.swizzle (.number text) fields) (text ++ "." ++ fields) := by
  obtain ⟨ts, hlex, hinteger, hends⟩ := lex_digits_point (isDigits_of_isNumber h hbare) hfields
  have htokens : (Expr.swizzle (.number text) fields).tokens = ts := by
    rw [Expr.tokens, if_pos hbare, hlex, Option.getD_some]
  refine ⟨rfl, ?_, htokens ▸ hends, ?_⟩
  · rw [htokens, ← hlex, String.toList_append, String.toList_append, List.append_assoc]
    rfl
  · intro _ _ t ht
    rw [htokens] at ht
    exact hinteger t (List.mem_of_getLast? ht)

/-- The texts of arguments, with commas between them. -/
theorem arguments {args : List Expr} (h : ∀ a ∈ args, ∃ text, Scans a text) :
    ∃ texts, Expr.renderAll args = .ok texts ∧
      lex false (", ".intercalate texts).toList =
        some ([Token.comma].intercalate (Expr.tokensAll args)) := by
  have hall : ∃ texts, Expr.renderAll args = .ok texts ∧
      List.Forall₂ (fun text ts => lex false text.toList = some ts) texts
        (Expr.tokensAll args) := by
    induction args with
    | nil => exact ⟨[], rfl, .nil⟩
    | cons a rest ih =>
      obtain ⟨text, ha⟩ := h a (by simp)
      obtain ⟨texts, hrender, hlexes⟩ := ih fun b hb => h b (by simp [hb])
      exact ⟨text :: texts, by rw [Expr.renderAll, ha.render, hrender]; rfl, .cons ha.lexes hlexes⟩
  obtain ⟨texts, hrender, hlexes⟩ := hall
  exact ⟨texts, hrender, lex_arguments hlexes⟩

theorem call {fn : String} {args : List Expr} (hfn : isIdentifier fn = true)
    (h : ∀ a ∈ args, ∃ text, Scans a text) : ∃ text, Scans (.call fn args) text := by
  obtain ⟨texts, hrender, hlex⟩ := arguments h
  refine ⟨fn ++ "(" ++ ", ".intercalate texts ++ ")", by rw [Expr.render, hrender]; rfl, ?_, ?_, ?_⟩
  · rw [Expr.tokens]
    exact lex_call hfn hlex
  · rw [Expr.tokens, flagAfter_cons, flagAfter_cons, flagAfter_append]
    rfl
  · intro _ _ t ht
    rw [Expr.tokens, ← List.cons_append, ← List.cons_append, List.getLast?_concat] at ht
    cases ht
    rfl

/-- Every expression that can be written is scanned into its tokens. -/
theorem of_writable {e : Expr}
    (h : ∀ n ∈ e.walk, n.IsWritable ∧ n.selectsIntegerLit = false) : ∃ text, Scans e text := by
  induction e with
  | lit text =>
    obtain ⟨e, he⟩ := (h _ (Expr.mem_walk_self _)).1
    exact ⟨text, lit he⟩
  | name ident => exact ⟨ident, name (h _ (Expr.mem_walk_self _)).1⟩
  | number text => exact ⟨text, number (h _ (Expr.mem_walk_self _)).1⟩
  | call fn args ih =>
    obtain ⟨⟨hfn, -⟩, hargs⟩ := Expr.forall_walk_call.mp h
    exact call hfn fun a ha => ih a ha (hargs a ha)
  | binary op lhs rhs ihl ihr =>
    obtain ⟨⟨hop, -⟩, hl, hr⟩ := Expr.forall_walk_binary.mp h
    obtain ⟨l, hl⟩ := ihl hl
    obtain ⟨r, hr⟩ := ihr hr
    obtain ⟨t, ht⟩ := Operator.exists_token? hop
    exact ⟨_, binary ht hl hr⟩
  | neg operand ih =>
    obtain ⟨text, ho⟩ := ih (Expr.forall_walk_neg.mp h).2
    exact ⟨_, ho.neg⟩
  | swizzle operand fields ih =>
    obtain ⟨⟨hfields, hlit⟩, hnodes⟩ := Expr.forall_walk_swizzle.mp h
    obtain ⟨text, ho⟩ := ih hnodes
    cases hbare : operand.isBareInteger with
    | false => exact ⟨_, ho.swizzle hfields hbare⟩
    | true =>
      cases operand with
      | number text =>
        exact ⟨_, swizzle_number (hnodes _ (Expr.mem_walk_self _)).1 hfields hbare⟩
      | lit text => simp [Expr.selectsIntegerLit, Expr.isLit, hbare] at hlit
      | _ => cases hbare
  | _ => exact (h _ (Expr.mem_walk_self _)).1.elim

end Scans

/-! ## Deriving the expression back -/

/-- The phrase that may stand where an operand must bind at least so tightly. -/
def Phrase.ofPrecedence (least : Precedence) : Phrase :=
  if least ≤ .additive then .sum
  else if least ≤ .multiplicative then .product
  else if least ≤ .unary then .unary
  else .postfixed

namespace Derives

variable {ts : List Token} {e : Expr}

theorem of_postfixed (h : Derives .postfixed ts e) (least : Precedence) :
    Derives (.ofPrecedence least) ts e := by
  unfold Phrase.ofPrecedence
  split_ifs
  · exact .product (.unary (.postfixed h))
  · exact .unary (.postfixed h)
  · exact .postfixed h
  · exact h

/-- A phrase may stand where less is asked for. -/
theorem loosen {least tight : Precedence} (h : Derives (.ofPrecedence tight) ts e)
    (hle : least ≤ tight) : Derives (.ofPrecedence least) ts e := by
  unfold Phrase.ofPrecedence at h
  split_ifs at h with hsum hproduct hunary
  · rw [Phrase.ofPrecedence, if_pos (Nat.le_trans hle hsum)]
    exact h
  · unfold Phrase.ofPrecedence
    split_ifs with h₁ h₂
    · exact .product h
    · exact h
    · exact absurd (Nat.le_trans hle hproduct) h₂
    · exact absurd (Nat.le_trans hle hproduct) h₂
  · unfold Phrase.ofPrecedence
    split_ifs with h₁ h₂ h₃
    · exact .product (.unary h)
    · exact .unary h
    · exact h
    · exact absurd (Nat.le_trans hle hunary) h₃
  · exact h.of_postfixed least

/-- Parentheses make a phrase of any kind. -/
theorem wrapped {operand : Expr} (h : Derives (.ofPrecedence operand.precedence) ts e)
    (least : Precedence) : Derives (.ofPrecedence least) (operand.wrapped least ts) e := by
  unfold Expr.wrapped
  split
  · exact (Derives.primary (.group (h.loosen (Nat.zero_le _)))).of_postfixed least
  · next hle => exact h.loosen (Nat.not_lt.mp hle)

end Derives

/-- Two phrases with an operator between them. -/
theorem Derives.binary {op : Operator} {t : Token} {ts us : List Token} {a b : Expr}
    (hop : op.token? = some t) (hl : Derives (.ofPrecedence op.precedence) ts a)
    (hr : Derives (.ofPrecedence (op.precedence + 1)) us b) :
    Derives (.ofPrecedence op.precedence) (ts ++ t :: us) (.binary op a b) := by
  rcases Operator.level_of_token? hop with ⟨ht, hlevel⟩ | ⟨ht, hlevel⟩
  · rw [hlevel] at hl hr ⊢
    exact .additive ht hl hr
  · rw [hlevel] at hl hr ⊢
    exact .multiplicative ht hl hr

/-- The grammar derives an expression, with its literals replaced, from its tokens, as the phrase
that its precedence stands for. -/
theorem derives_tokens {e : Expr}
    (h : ∀ n ∈ e.walk, n.IsWritable ∧ n.selectsInteger = false) :
    Derives (.ofPrecedence e.precedence) e.tokens e.resolved := by
  induction e with
  | lit text =>
    obtain ⟨e, he⟩ := (h _ (Expr.mem_walk_self _)).1
    obtain ⟨ts, hlex, hderives⟩ := parse_eq_ok_iff.mp he
    rw [Expr.resolved_lit he, Expr.tokens, hlex, Option.getD_some, Expr.precedence]
    split
    · next hatomic => exact hderives.postfixed_of_isAtomic hatomic hlex
    · exact hderives
  | name ident => exact .primary (.name ident)
  | number text => exact .primary (.number text)
  | call fn args ih =>
    obtain ⟨-, hargs⟩ := Expr.forall_walk_call.mp h
    have hparts : ∀ part ∈ args.map (fun a => (a.tokens, a.resolved)),
        Derives .sum part.1 part.2 := by
      intro part hpart
      obtain ⟨a, ha, rfl⟩ := List.mem_map.mp hpart
      exact (ih a ha (hargs a ha)).loosen (Nat.zero_le _)
    have hcall := @Derives.call fn _ hparts
    rw [List.map_map, List.map_map] at hcall
    rw [Expr.tokens, Expr.tokensAll_eq_map, Expr.resolved, Expr.resolvedAll_eq_map]
    exact .primary hcall
  | binary op lhs rhs ihl ihr =>
    obtain ⟨⟨hop, -⟩, hl, hr⟩ := Expr.forall_walk_binary.mp h
    have hlhs := (ihl hl).wrapped op.precedence
    have hrhs := (ihr hr).wrapped (op.precedence + 1)
    obtain ⟨t, ht⟩ := Operator.exists_token? hop
    rw [Expr.tokens, ht]
    exact .binary ht hlhs hrhs
  | neg operand ih =>
    exact .minus (.postfixed ((ih (Expr.forall_walk_neg.mp h).2).wrapped (Precedence.unary + 1)))
  | swizzle operand fields ih =>
    obtain ⟨⟨-, hbare⟩, ho⟩ := Expr.forall_walk_swizzle.mp h
    rw [Expr.tokens_swizzle hbare]
    exact .swizzle ((ih ho).wrapped .postfixed)
  | _ => exact (h _ (Expr.mem_walk_self _)).1.elim

/-- An expression that selects components of no integer is read back from its text, with its
literals replaced by what they stand for. -/
theorem parse_of_render {e : Expr}
    (h : ∀ n ∈ e.walk, n.IsWritable ∧ n.selectsInteger = false) :
    ∃ text, e.render = .ok text ∧ parse text = .ok e.resolved := by
  have hlit : ∀ n ∈ e.walk, n.IsWritable ∧ n.selectsIntegerLit = false := fun n hn =>
    ⟨(h n hn).1, Expr.selectsIntegerLit_eq_false (h n hn).2⟩
  obtain ⟨text, hscans⟩ := Scans.of_writable hlit
  exact ⟨text, hscans.render, parse_eq_ok_iff.mpr
    ⟨e.tokens, hscans.lexes, (derives_tokens h).loosen (Nat.zero_le _)⟩⟩

/-! ## Counting integers -/

/-- Whether a node is a number without a point and an exponent. -/
def Expr.isInteger : Expr → Bool
  | .number text => Token.isInteger (.number text)
  | _ => false

theorem countP_intercalate (tss : List (List Token)) :
    ([Token.comma].intercalate tss).countP Token.isInteger =
      (tss.map (List.countP Token.isInteger)).sum := by
  induction tss with
  | nil => rfl
  | cons ts rest ih =>
    cases rest with
    | nil => simp
    | cons us more =>
      rw [List.intercalate_cons_cons, List.countP_append, List.countP_append, ih]
      simp [Token.isInteger]

/-- A phrase has as many integers as the expression that it stands for. -/
theorem Derives.countP_isInteger {p : Phrase} {ts : List Token} {e : Expr} (h : Derives p ts e) :
    ts.countP Token.isInteger = e.walk.countP Expr.isInteger := by
  have hoperator : ∀ {t : Token} {op : Operator},
      t.additive? = some op ∨ t.multiplicative? = some op → t.isInteger = false := by
    intro t op ht
    cases t with
    | number text => rcases ht with ht | ht <;> cases ht
    | _ => rfl
  induction h with
  | additive ht hl hr ihl ihr =>
    simp [Expr.walk, Expr.isInteger, ihl, ihr, hoperator (Or.inl ht)]
  | multiplicative ht hl hr ihl ihr =>
    simp [Expr.walk, Expr.isInteger, ihl, ihr, hoperator (Or.inr ht)]
  | minus h ih => simp [Expr.walk, Expr.isInteger, Token.isInteger, ih]
  | plus h ih => simp [Token.isInteger, ih]
  | swizzle h ih => simp [Expr.walk, Expr.isInteger, Token.isInteger, ih]
  | number text => rfl
  | name ident => simp [Expr.walk, Expr.isInteger, Token.isInteger]
  | @call fn args h ih =>
    have hargs : args.map (fun arg => arg.1.countP Token.isInteger) =
        args.map (fun arg => arg.2.walk.countP Expr.isInteger) := List.map_congr_left ih
    simp [Expr.walk, Expr.walkAll_eq_flatMap, Expr.isInteger, Token.isInteger, List.countP_flatMap,
      countP_intercalate, Function.comp_def, hargs]
  | group h ih => simp [Token.isInteger, ih]
  | _ => assumption

theorem countP_wrapped (e : Expr) (least : Precedence) (ts : List Token) :
    (e.wrapped least ts).countP Token.isInteger = ts.countP Token.isInteger := by
  unfold Expr.wrapped
  split <;> simp [Token.isInteger]

/-- The text of an expression without literals has an integer less for every selection from an
integer. -/
theorem countP_tokens {e : Expr} (h : ∀ n ∈ e.walk, n.IsWritable ∧ n.isLit = false) :
    e.tokens.countP Token.isInteger + e.walk.countP Expr.selectsInteger =
      e.walk.countP Expr.isInteger := by
  induction e with
  | lit text => cases (h _ (Expr.mem_walk_self _)).2
  | name ident => rfl
  | number text => rfl
  | call fn args ih =>
    obtain ⟨-, hargs⟩ := Expr.forall_walk_call.mp h
    have hsum : (args.map fun a => a.tokens.countP Token.isInteger +
        a.walk.countP Expr.selectsInteger) = args.map fun a => a.walk.countP Expr.isInteger :=
      List.map_congr_left fun a ha => ih a ha (hargs a ha)
    simp [Expr.tokens, Expr.tokensAll_eq_map, Expr.walk, Expr.walkAll_eq_flatMap, Expr.isInteger,
      Expr.selectsInteger, Token.isInteger, List.countP_flatMap, countP_intercalate,
      Function.comp_def, ← hsum, List.sum_map_add]
  | binary op lhs rhs ihl ihr =>
    obtain ⟨⟨hop, -⟩, hl, hr⟩ := Expr.forall_walk_binary.mp h
    have hsign : op.token?.toList.countP Token.isInteger = 0 := by
      cases op <;> rfl
    have hl := ihl hl
    have hr := ihr hr
    simp only [Expr.tokens, Expr.walk, List.countP_append, List.countP_cons, countP_wrapped, hsign,
      Expr.isInteger, Expr.selectsInteger]
    simp only [Bool.false_eq_true, if_false]
    omega
  | neg operand ih =>
    have ho := ih (Expr.forall_walk_neg.mp h).2
    simpa [Expr.tokens, Expr.walk, countP_wrapped, Expr.isInteger, Expr.selectsInteger,
      Token.isInteger] using ho
  | swizzle operand fields ih =>
    obtain ⟨⟨hfields, -⟩, hnodes⟩ := Expr.forall_walk_swizzle.mp h
    cases hbare : operand.isBareInteger with
    | false =>
      have ho := ih hnodes
      rw [Expr.tokens_swizzle hbare]
      simpa [Expr.walk, countP_wrapped, Expr.isInteger, Expr.selectsInteger, hbare,
        Token.isInteger] using ho
    | true =>
      cases operand with
      | number text =>
        -- The scanner makes one number of the integer, the point and what follows.
        have hdigits := isDigits_of_isNumber (hnodes _ (Expr.mem_walk_self _)).1 hbare
        obtain ⟨ts, hlex, hinteger, -⟩ := lex_digits_point hdigits hfields
        have hcount : ts.countP Token.isInteger = 0 :=
          List.countP_eq_zero.mpr fun t ht => by simp [hinteger t ht]
        have hall : text.toList.all Char.isDigit = true := List.all_eq_true.mpr hdigits.2
        rw [Expr.isBareInteger] at hbare
        simp [Expr.tokens, Expr.walk, hbare, hlex, hcount, Expr.selectsInteger,
          Expr.isBareInteger, Expr.isInteger, Token.isInteger, hall]
      | lit text => cases (hnodes _ (Expr.mem_walk_self _)).2
      | _ => cases hbare
  | _ => exact (h _ (Expr.mem_walk_self _)).1.elim

/-- An expression without literals that selects components of an integer is not read back. -/
theorem parse_ne_of_selectsInteger {e n : Expr}
    (h : ∀ n ∈ e.walk, n.IsWritable ∧ n.isLit = false) (hn : n ∈ e.walk)
    (hselects : n.selectsInteger = true) :
    ∃ text, e.render = .ok text ∧ parse text ≠ .ok e := by
  have hlit : ∀ n ∈ e.walk, n.IsWritable ∧ n.selectsIntegerLit = false := by
    intro n hn
    refine ⟨(h n hn).1, ?_⟩
    cases n with
    | swizzle operand fields =>
      have ho := h operand (Expr.walk_subset hn (by simp [Expr.walk, Expr.mem_walk_self]))
      rw [Expr.selectsIntegerLit, ho.2, Bool.false_and]
    | _ => rfl
  obtain ⟨text, hscans⟩ := Scans.of_writable hlit
  refine ⟨text, hscans.render, fun hparse => ?_⟩
  obtain ⟨ts, hlex, hderives⟩ := parse_eq_ok_iff.mp hparse
  obtain rfl : e.tokens = ts := Option.some.inj (hscans.lexes.symm.trans hlex)
  have hcount := countP_tokens h
  rw [hderives.countP_isInteger] at hcount
  have hpos : 0 < e.walk.countP Expr.selectsInteger := List.countP_pos_iff.mpr ⟨n, hn, hselects⟩
  omega

/-- Parsing undoes rendering, up to literals, which are replaced by what their texts stand for.
Selections from integers are excepted, and rightly so: no expression with one is read back. -/
theorem parse_render :
    (∀ e : Expr, (∀ n ∈ e.walk, n.IsWritable ∧ n.selectsInteger = false) →
      ∃ text, e.render = .ok text ∧ parse text = .ok e.resolved) ∧
    (∀ e : Expr, (∀ n ∈ e.walk, n.IsWritable ∧ n.isLit = false) →
      (∃ n ∈ e.walk, n.selectsInteger = true) →
      ∃ text, e.render = .ok text ∧ parse text ≠ .ok e) :=
  ⟨fun _ h => parse_of_render h,
    fun _ h ⟨_, hn, hselects⟩ => parse_ne_of_selectsInteger h hn hselects⟩

/-- A literal and a minus under a selection, and an integer that a point and an exponent go on. -/
theorem parse_render_selections :
    (∃ text, (Expr.swizzle (.binary .sub (.lit "a + 1") (.neg (.number "2.5"))) "x").render =
        .ok text ∧
      parse text = .ok (.swizzle (.binary .sub (.binary .add (.name "a") (.number "1"))
        (.neg (.number "2.5"))) "x")) ∧
    (∃ text, (Expr.neg (.swizzle (.number "1") "e5")).render = .ok text ∧
      parse text ≠ .ok (.neg (.swizzle (.number "1") "e5"))) := by
  have hlit : parse "a + 1" = .ok (.binary .add (.name "a") (.number "1")) := by cbv
  have hpoint : IsNumber "2.5" :=
    ⟨['2', '.', '5'], [], @IsMantissa.point ['2'] ['5'] ⟨by simp, by simp⟩ (by simp), .none, rfl⟩
  have hinteger : IsNumber "1" := ⟨['1'], [], .whole ⟨by simp, by simp⟩, .none, rfl⟩
  refine ⟨?_, ?_⟩
  · have h := parse_render.1 (.swizzle (.binary .sub (.lit "a + 1") (.neg (.number "2.5"))) "x")
      (by
        simp only [Expr.walk, List.singleton_append, List.forall_mem_cons, Expr.IsWritable,
          Expr.selectsInteger, Expr.isBareInteger, and_true]
        exact ⟨by decide, by simp, ⟨_, hlit⟩, trivial, hpoint, by simp⟩)
    simpa only [Expr.resolved, hlit] using h
  · refine parse_render.2 _ ?_ ⟨.swizzle (.number "1") "e5", by simp [Expr.walk], by decide⟩
    simp only [Expr.walk, List.forall_mem_cons, Expr.IsWritable, Expr.isLit, and_true]
    exact ⟨trivial, by decide, hinteger, by simp⟩

end SignedDistance
