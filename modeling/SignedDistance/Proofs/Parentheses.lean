import Mathlib
import SignedDistance.Proofs.PlainScenes
import SignedDistance.Proofs.RoundTrip

/-!
# Parentheses

Rendering puts an operand in parentheses where it binds less tightly than its place asks for. No
such pair can be left out: without it the text is not read back as the same expression
(`parentheses_needed`). The one pair that the grammar does not need is that of a minus under a
minus, and it keeps the two signs apart, so that no text has `--` in it.

Without its parentheses an operand falls apart. An operator in front of it takes its first part
(`Derives.exists_before`, `Derives.exists_minus`) and a selection after it its last part
(`Derives.exists_selection`), so that the text stands for another expression. If that last part is
an integer, the point goes on the number instead, and an integer is lost (`Scans.lex_point`).
-/

namespace SignedDistance

open Text

/-! ## Operands in their places -/

/-- An operand of a node that may stand in parentheses, how tightly it has to bind there, and the
texts before and after it. -/
inductive HasOperand : Expr → Expr → Precedence → String → String → Prop where
  /-- The left operand of an operator. -/
  | left {op : Operator} {lhs rhs : Expr} {r : String} (hr : rhs.render = .ok r) :
      HasOperand (.binary op lhs rhs) lhs op.precedence ""
        (" " ++ op.symbol ++ " " ++ rhs.asOperand (op.precedence + 1) r)
  /-- The right operand of an operator. -/
  | right {op : Operator} {lhs rhs : Expr} {l : String} (hl : lhs.render = .ok l) :
      HasOperand (.binary op lhs rhs) rhs (op.precedence + 1)
        (lhs.asOperand op.precedence l ++ " " ++ op.symbol ++ " ") ""
  /-- The operand of a minus. -/
  | minus {operand : Expr} : HasOperand (.neg operand) operand (.unary + 1) "-" ""
  /-- The operand of a selection. -/
  | selection {operand : Expr} {fields : String} :
      HasOperand (.swizzle operand fields) operand .postfixed "" ("." ++ fields)

theorem HasOperand.render {n o : Expr} {least : Precedence} {before after text : String}
    (h : HasOperand n o least before after) (htext : o.render = .ok text) :
    n.render = .ok (before ++ o.asOperand least text ++ after) := by
  cases h with
  | left hr =>
    rw [Expr.render, htext, hr]
    simp [bind, Except.bind, pure, Except.pure, String.append_assoc]
  | right hl =>
    rw [Expr.render, htext, hl]
    simp [bind, Except.bind, pure, Except.pure]
  | minus =>
    rw [Expr.render, htext]
    simp [bind, Except.bind, pure, Except.pure]
  | selection =>
    rw [Expr.render, htext]
    simp [bind, Except.bind, pure, Except.pure, String.append_assoc]

theorem HasOperand.walk_subset {n o : Expr} {least : Precedence} {before after : String}
    (h : HasOperand n o least before after) : o.walk ⊆ n.walk := by
  cases h <;> intro m hm <;> simp [Expr.walk, hm]

theorem Operator.precedence_lt_unary {op : Operator} {t : Token} (h : op.token? = some t) :
    op.precedence < .unary := by
  rcases level_of_token? h with ⟨-, hlevel⟩ | ⟨-, hlevel⟩
  · rw [hlevel]
    decide
  · rw [hlevel]
    decide

namespace Expr

/-- What is asked of the nodes of an expression: each can be written, none is a literal, and none
selects components of an integer. -/
structure IsPlain (n : Expr) : Prop where
  writable : n.IsWritable
  not_lit : n.isLit = false
  not_selectsInteger : n.selectsInteger = false

/-- Whether a node is a minus under a minus. -/
def isDoubleMinus : Expr → Bool
  | .neg (.neg _) => true
  | _ => false

theorem resolved_of_isPlain {e : Expr} (h : ∀ n ∈ e.walk, n.IsPlain) : e.resolved = e := by
  induction e with
  | lit text => cases (h _ (mem_walk_self _)).not_lit
  | call fn args ih =>
    obtain ⟨-, hargs⟩ := forall_walk_call.mp h
    have hmap : args.map resolved = args.map id :=
      List.map_congr_left fun a ha => ih a ha (hargs a ha)
    rw [resolved, resolvedAll_eq_map, hmap, List.map_id]
  | binary op lhs rhs ihl ihr =>
    obtain ⟨-, hl, hr⟩ := forall_walk_binary.mp h
    rw [resolved, ihl hl, ihr hr]
  | neg operand ih => rw [resolved, ih (forall_walk_neg.mp h).2]
  | swizzle operand fields ih => rw [resolved, ih (forall_walk_swizzle.mp h).2]
  | _ => rfl

/-- What binds less tightly than a selection is an operation or a minus. -/
theorem IsPlain.cases_of_precedence {o : Expr} (h : o.IsPlain) (hlt : o.precedence < .postfixed) :
    (∃ op t a b, o = .binary op a b ∧ op.token? = some t) ∨ ∃ a, o = .neg a := by
  cases o with
  | binary op a b =>
    obtain ⟨t, ht⟩ := Operator.exists_token? h.writable
    exact Or.inl ⟨op, t, a, b, rfl, ht⟩
  | neg a => exact Or.inr ⟨a, rfl⟩
  | lit text => cases h.not_lit
  | stray value => exact h.writable.elim
  | _ => simp [precedence, Precedence.atom, Precedence.postfixed] at hlt

end Expr

/-! ## Minus signs -/

/-- No two minus signs stand next to each other. -/
def MinusesApart (cs : List Char) : Prop :=
  cs.IsChain fun a b => ¬ (a = '-' ∧ b = '-')

theorem MinusesApart.not_adjacent {cs : List Char} (h : MinusesApart cs) :
    ¬ ['-', '-'] <:+: cs := by
  intro hinfix
  have hpair := List.IsChain.infix h hinfix
  simp at hpair

theorem minusesApart_append_cons {xs ys : List Char} {c : Char} (hc : c ≠ '-') :
    MinusesApart (xs ++ c :: ys) ↔ MinusesApart xs ∧ MinusesApart ys := by
  unfold MinusesApart
  rw [List.isChain_append, List.isChain_cons]
  constructor
  · rintro ⟨hxs, ⟨-, hys⟩, -⟩
    exact ⟨hxs, hys⟩
  · rintro ⟨hxs, hys⟩
    refine ⟨hxs, ⟨fun y _ hcut => hc hcut.1, hys⟩, ?_⟩
    intro x _ y hy hcut
    cases hy
    exact hc hcut.2

theorem minusesApart_cons {c : Char} {cs : List Char} (hc : c ≠ '-') :
    MinusesApart (c :: cs) ↔ MinusesApart cs := by
  have h := @minusesApart_append_cons [] cs c hc
  rw [List.nil_append] at h
  rw [h]
  exact and_iff_right List.IsChain.nil

theorem minusesApart_of_notMem {cs : List Char} (h : '-' ∉ cs) : MinusesApart cs := by
  induction cs with
  | nil => exact List.IsChain.nil
  | cons c cs ih =>
    rw [List.mem_cons, not_or] at h
    rw [minusesApart_cons (Ne.symm h.1)]
    exact ih h.2

theorem notMem_of_isDigit {ds : List Char} (h : ∀ c ∈ ds, c.isDigit = true) : '-' ∉ ds := by
  intro hmem
  exact absurd (h _ hmem) (by decide)

/-- The only sign inside of a number is that of its exponent. -/
theorem minusesApart_of_isNumber {text : String} (h : IsNumber text) :
    MinusesApart text.toList := by
  obtain ⟨m, x, hm, hx, htext⟩ := h
  have hmantissa : '-' ∉ m := by
    intro hmem
    exact absurd (hm.isDigit_or_point _ hmem) (by decide)
  have hmark : ∀ {c : Char}, c = 'e' ∨ c = 'E' → c ≠ '-' := by
    rintro c (rfl | rfl) <;> decide
  rw [htext]
  cases hx with
  | none =>
    rw [List.append_nil]
    exact minusesApart_of_notMem hmantissa
  | unsigned hc hds =>
    rw [minusesApart_append_cons (hmark hc)]
    exact ⟨minusesApart_of_notMem hmantissa, minusesApart_of_notMem (notMem_of_isDigit hds.2)⟩
  | @signed mark sign ds hc hs hds =>
    rw [minusesApart_append_cons (hmark hc)]
    refine ⟨minusesApart_of_notMem hmantissa, List.isChain_cons.mpr ⟨?_, ?_⟩⟩
    · rintro y hy ⟨-, rfl⟩
      exact notMem_of_isDigit hds.2 (List.mem_of_mem_head? hy)
    · exact minusesApart_of_notMem (notMem_of_isDigit hds.2)

theorem notMem_of_isIdentifier {text : String} (h : isIdentifier text = true) :
    '-' ∉ text.toList := by
  unfold isIdentifier at h
  intro hmem
  cases htext : text.toList with
  | nil =>
    rw [htext] at hmem
    cases hmem
  | cons c cs =>
    simp only [htext, Bool.and_eq_true, List.all_eq_true] at h
    rw [htext, List.mem_cons] at hmem
    rcases hmem with rfl | hmem
    · exact absurd h.1 (by decide)
    · exact absurd (h.2 _ hmem) (by decide)

theorem minusesApart_intercalate {texts : List String}
    (h : ∀ text ∈ texts, MinusesApart text.toList) :
    MinusesApart (", ".intercalate texts).toList := by
  induction texts with
  | nil => exact List.IsChain.nil
  | cons text rest ih =>
    have hrest := ih fun t ht => h t (List.mem_cons_of_mem text ht)
    have htext := h text List.mem_cons_self
    cases rest with
    | nil => simpa using htext
    | cons next more =>
      have hsplit : (", ".intercalate (text :: next :: more)).toList =
          text.toList ++ ',' :: ' ' :: (", ".intercalate (next :: more)).toList := by
        simp [String.intercalate_cons_cons]
      rw [hsplit, minusesApart_append_cons (by decide), minusesApart_cons (by decide)]
      exact ⟨htext, hrest⟩

namespace Expr

theorem minusesApart_asOperand {e : Expr} {least : Precedence} {text : String}
    (h : MinusesApart text.toList) : MinusesApart (e.asOperand least text).toList := by
  unfold asOperand
  split
  · have htext : ("(" ++ text ++ ")").toList = '(' :: (text.toList ++ [')']) := by simp
    rw [htext, minusesApart_cons (by decide), minusesApart_append_cons (by decide)]
    exact ⟨h, List.IsChain.nil⟩
  · exact h

theorem head_asOperand {e : Expr} {least : Precedence} {text : String}
    (h : least ≤ e.precedence → text.toList.head? ≠ some '-') :
    (e.asOperand least text).toList.head? ≠ some '-' := by
  unfold asOperand
  split
  · simp
  · next hle => exact h (Nat.not_lt.mp hle)

theorem exists_mem_of_renderAll {args : List Expr} {texts : List String} {text : String}
    (h : renderAll args = .ok texts) (htext : text ∈ texts) : ∃ a ∈ args, a.render = .ok text := by
  induction args generalizing texts with
  | nil =>
    cases h
    cases htext
  | cons a args ih =>
    rw [renderAll] at h
    obtain ⟨first, hfirst, h⟩ := bind_eq_ok_iff.mp h
    obtain ⟨rest, hrest, h⟩ := bind_eq_ok_iff.mp h
    cases h
    rcases List.mem_cons.mp htext with rfl | hmem
    · exact ⟨a, List.mem_cons_self, hfirst⟩
    · obtain ⟨b, hb, hrender⟩ := ih hrest hmem
      exact ⟨b, List.mem_cons_of_mem a hb, hrender⟩

/-- The text of an expression has no two minus signs next to each other; that of an expression which
binds more tightly than a minus does not start with one. -/
theorem minusesApart_render {e : Expr} (h : ∀ n ∈ e.walk, n.IsPlain) {text : String}
    (hrender : e.render = .ok text) :
    MinusesApart text.toList ∧
      (Precedence.unary < e.precedence → text.toList.head? ≠ some '-') := by
  induction e generalizing text with
  | name ident =>
    cases hrender
    have hnot := notMem_of_isIdentifier (h _ (mem_walk_self _)).writable
    exact ⟨minusesApart_of_notMem hnot, fun _ hhead => hnot (List.mem_of_mem_head? hhead)⟩
  | number digits =>
    cases hrender
    have hnumber : IsNumber digits := (h _ (mem_walk_self _)).writable
    refine ⟨minusesApart_of_isNumber hnumber, fun _ hhead => ?_⟩
    obtain ⟨c, cs, htext, hc⟩ := Token.head_of_isNumber hnumber
    rw [htext] at hhead
    cases hhead
    exact absurd hc (by decide)
  | call fn args ih =>
    obtain ⟨hnode, hargs⟩ := forall_walk_call.mp h
    rw [render] at hrender
    obtain ⟨texts, htexts, hrender⟩ := bind_eq_ok_iff.mp hrender
    cases hrender
    have hfn := notMem_of_isIdentifier hnode.writable
    have hparts : ∀ t ∈ texts, MinusesApart t.toList := by
      intro t ht
      obtain ⟨a, ha, hrender⟩ := exists_mem_of_renderAll htexts ht
      exact (ih a ha (hargs a ha) hrender).1
    have hsplit : (fn ++ "(" ++ ", ".intercalate texts ++ ")").toList =
        fn.toList ++ '(' :: ((", ".intercalate texts).toList ++ [')']) := by simp
    rw [hsplit]
    constructor
    · rw [minusesApart_append_cons (by decide), minusesApart_append_cons (by decide)]
      exact ⟨minusesApart_of_notMem hfn, minusesApart_intercalate hparts, List.IsChain.nil⟩
    · intro _ hhead
      rw [List.head?_append] at hhead
      cases hname : fn.toList.head? with
      | none => simp [hname] at hhead
      | some c =>
        rw [hname] at hhead
        cases hhead
        exact hfn (List.mem_of_mem_head? hname)
  | binary op lhs rhs ihl ihr =>
    obtain ⟨hnode, hl, hr⟩ := forall_walk_binary.mp h
    obtain ⟨t, ht⟩ := Operator.exists_token? hnode.writable
    obtain ⟨c, hsymbol, -⟩ := Operator.symbol_of_token? ht
    rw [render] at hrender
    obtain ⟨l, hlhs, hrender⟩ := bind_eq_ok_iff.mp hrender
    obtain ⟨r, hrhs, hrender⟩ := bind_eq_ok_iff.mp hrender
    cases hrender
    have hleft := @minusesApart_asOperand lhs op.precedence l (ihl hl hlhs).1
    have hright := @minusesApart_asOperand rhs (op.precedence + 1) r (ihr hr hrhs).1
    have hsplit : (lhs.asOperand op.precedence l ++ " " ++ op.symbol ++ " "
        ++ rhs.asOperand (op.precedence + 1) r).toList = (lhs.asOperand op.precedence l).toList ++
          ' ' :: ([c] ++ ' ' :: (rhs.asOperand (op.precedence + 1) r).toList) := by
      simp [hsymbol]
    have hloose := Operator.precedence_lt_unary ht
    refine ⟨?_, fun hlt => absurd hlt (Nat.lt_asymm hloose)⟩
    rw [hsplit, minusesApart_append_cons (by decide), minusesApart_append_cons (by decide)]
    exact ⟨hleft, List.IsChain.singleton c, hright⟩
  | neg operand ih =>
    rw [render] at hrender
    obtain ⟨inner, hinner, hrender⟩ := bind_eq_ok_iff.mp hrender
    cases hrender
    obtain ⟨hapart, hhead⟩ := ih (forall_walk_neg.mp h).2 hinner
    have hsplit : ("-" ++ operand.asOperand (.unary + 1) inner).toList =
        '-' :: (operand.asOperand (.unary + 1) inner).toList := by simp
    refine ⟨?_, fun hlt => absurd hlt (Nat.lt_irrefl _)⟩
    rw [hsplit]
    refine List.isChain_cons.mpr ⟨?_, minusesApart_asOperand hapart⟩
    rintro y hy ⟨-, rfl⟩
    exact head_asOperand hhead hy
  | swizzle operand fields ih =>
    obtain ⟨hnode, ho⟩ := forall_walk_swizzle.mp h
    rw [render] at hrender
    obtain ⟨inner, hinner, hrender⟩ := bind_eq_ok_iff.mp hrender
    cases hrender
    obtain ⟨hapart, hhead⟩ := ih ho hinner
    have hsplit : (operand.asOperand .postfixed inner ++ "." ++ fields).toList =
        (operand.asOperand .postfixed inner).toList ++ '.' :: fields.toList := by simp
    have hstart : (operand.asOperand .postfixed inner).toList.head? ≠ some '-' :=
      head_asOperand fun hle => hhead (Nat.lt_of_lt_of_le (by decide) hle)
    rw [hsplit]
    constructor
    · rw [minusesApart_append_cons (by decide)]
      exact ⟨minusesApart_asOperand hapart,
        minusesApart_of_notMem (notMem_of_isIdentifier hnode.writable)⟩
    · intro _ hfirst
      rw [List.head?_append] at hfirst
      cases hop : (operand.asOperand .postfixed inner).toList.head? with
      | none => simp [hop] at hfirst
      | some c =>
        rw [hop] at hfirst
        cases hfirst
        exact hstart hop
  | lit text => cases (h _ (mem_walk_self _)).not_lit
  | _ => exact (h _ (mem_walk_self _)).writable.elim

end Expr

/-! ## Phrases that go on -/

namespace Derives

variable {ts us : List Token} {t : Token} {op : Operator} {a b : Expr}

/-- A minus in front of a phrase goes to its first operand. -/
theorem exists_minus {p : Phrase} (h : Derives p ts a) (hp : p ≠ .postfixed) (hp' : p ≠ .primary) :
    ∃ x, Derives p (.minus :: ts) x := by
  induction h with
  | product h ih =>
    obtain ⟨x, hx⟩ := ih (by simp) (by simp)
    exact ⟨x, .product hx⟩
  | additive ht hl hr ihl ihr =>
    obtain ⟨x, hx⟩ := ihl (by simp) (by simp)
    exact ⟨_, .additive ht hx hr⟩
  | unary h ih =>
    obtain ⟨x, hx⟩ := ih (by simp) (by simp)
    exact ⟨x, .unary hx⟩
  | multiplicative ht hl hr ihl ihr =>
    obtain ⟨x, hx⟩ := ihl (by simp) (by simp)
    exact ⟨_, .multiplicative ht hx hr⟩
  | postfixed h ih => exact ⟨_, .minus (.postfixed h)⟩
  | minus h ih => exact ⟨_, .minus (.minus h)⟩
  | plus h ih => exact ⟨_, .minus (.plus h)⟩
  | primary h ih => exact absurd rfl hp
  | swizzle h ih => exact absurd rfl hp
  | _ => exact absurd rfl hp'

/-- A selection after a phrase goes to its last operand. -/
theorem exists_selection {p : Phrase} (h : Derives p ts a) (hp : p ≠ .primary) (fields : String) :
    ∃ x, Derives p (ts ++ [.dot, .name fields]) x := by
  induction h with
  | product h ih =>
    obtain ⟨x, hx⟩ := ih (by simp)
    exact ⟨x, .product hx⟩
  | additive ht hl hr ihl ihr =>
    obtain ⟨x, hx⟩ := ihr (by simp)
    rw [List.append_assoc, List.cons_append]
    exact ⟨_, .additive ht hl hx⟩
  | unary h ih =>
    obtain ⟨x, hx⟩ := ih (by simp)
    exact ⟨x, .unary hx⟩
  | multiplicative ht hl hr ihl ihr =>
    obtain ⟨x, hx⟩ := ihr (by simp)
    rw [List.append_assoc, List.cons_append]
    exact ⟨_, .multiplicative ht hl hx⟩
  | postfixed h ih =>
    obtain ⟨x, hx⟩ := ih (by simp)
    exact ⟨x, .postfixed hx⟩
  | minus h ih =>
    obtain ⟨x, hx⟩ := ih (by simp)
    exact ⟨_, .minus hx⟩
  | plus h ih =>
    obtain ⟨x, hx⟩ := ih (by simp)
    exact ⟨x, .plus hx⟩
  | primary h ih => exact ⟨_, .swizzle (.primary h)⟩
  | swizzle h ih => exact ⟨_, .swizzle (.swizzle h)⟩
  | _ => exact absurd rfl hp

/-- A multiplication in front of a product goes to its first factor. -/
theorem exists_before_product (ht : t.multiplicative? = some op) (hl : Derives .product ts a)
    (hr : Derives .product us b) : ∃ x, Derives .product (ts ++ t :: us) x := by
  generalize hp : Phrase.product = p at hr
  induction hr with
  | unary h ih => exact ⟨_, .multiplicative ht hl h⟩
  | multiplicative ht' hl' hr' ihl ihr =>
    obtain ⟨x, hx⟩ := ihl rfl
    rw [← List.cons_append, ← List.append_assoc]
    exact ⟨_, .multiplicative ht' hx hr'⟩
  | _ => cases hp

/-- What can stand in front of a product can stand in front of a sum. -/
theorem exists_before_sum
    (hproduct : ∀ us b, Derives .product us b → ∃ x, Derives .sum (ts ++ t :: us) x)
    (hr : Derives .sum us b) : ∃ x, Derives .sum (ts ++ t :: us) x := by
  generalize hp : Phrase.sum = p at hr
  induction hr with
  | product h ih => exact hproduct _ _ h
  | additive ht hl' hr' ihl ihr =>
    obtain ⟨x, hx⟩ := ihl rfl
    rw [← List.cons_append, ← List.append_assoc]
    exact ⟨_, .additive ht hx hr'⟩
  | _ => cases hp

/-- An operator in front of a phrase that binds no more tightly goes to its first operand. -/
theorem exists_before {least : Precedence} (hop : op.token? = some t)
    (hl : Derives (.ofPrecedence op.precedence) ts a) (hr : Derives (.ofPrecedence least) us b)
    (hle : least ≤ op.precedence) : ∃ x, Derives (.ofPrecedence least) (ts ++ t :: us) x := by
  rcases Operator.level_of_token? hop with ⟨ht, hlevel⟩ | ⟨ht, hlevel⟩
  · rw [hlevel] at hl hle
    have hsum : Phrase.ofPrecedence least = .sum := if_pos hle
    rw [hsum] at hr ⊢
    exact exists_before_sum (fun us b h => ⟨_, .additive ht hl h⟩) hr
  · rw [hlevel] at hl hle
    by_cases hsum : least ≤ .additive
    · rw [Phrase.ofPrecedence, if_pos hsum] at hr ⊢
      refine exists_before_sum (fun us b h => ?_) hr
      obtain ⟨x, hx⟩ := exists_before_product ht hl h
      exact ⟨x, .product hx⟩
    · rw [Phrase.ofPrecedence, if_neg hsum, if_pos hle] at hr ⊢
      exact exists_before_product ht hl hr

end Derives

theorem Phrase.ofPrecedence_ne_primary (least : Precedence) : ofPrecedence least ≠ .primary := by
  unfold ofPrecedence
  split_ifs <;> simp

theorem Phrase.ofPrecedence_ne_postfixed {least : Precedence} (h : least ≤ .unary) :
    ofPrecedence least ≠ .postfixed := by
  unfold ofPrecedence
  rw [if_pos h]
  split_ifs <;> simp

/-! ## Texts without a pair of parentheses -/

section Plain

variable {e o : Expr} {text fields : String}

theorem Scans.of_plain (h : ∀ n ∈ e.walk, n.IsPlain) : ∃ text, Scans e text :=
  of_writable fun n hn =>
    ⟨(h n hn).writable, Expr.selectsIntegerLit_eq_false (h n hn).not_selectsInteger⟩

theorem derives_of_plain (h : ∀ n ∈ e.walk, n.IsPlain) :
    Derives (.ofPrecedence e.precedence) e.tokens e := by
  have hderives := derives_tokens fun n hn => ⟨(h n hn).writable, (h n hn).not_selectsInteger⟩
  rwa [Expr.resolved_of_isPlain h] at hderives

theorem derives_wrapped (h : ∀ n ∈ e.walk, n.IsPlain) (least : Precedence) :
    Derives (.ofPrecedence least) (e.wrapped least e.tokens) e :=
  (derives_of_plain h).wrapped least

/-- The tokens of a text determine what it is parsed as. -/
theorem parse_of_derives {ts : List Token} {p : Precedence} (hlex : lex false text.toList = some ts)
    (h : Derives (.ofPrecedence p) ts e) : parse text = .ok e :=
  parse_eq_ok_iff.mpr ⟨ts, hlex, h.loosen (Nat.zero_le p)⟩

theorem Scans.text_unique {text' : String} (h : Scans e text) (h' : Scans e text') :
    text = text' :=
  Except.ok.inj (h.render.symm.trans h'.render)

theorem Scans.of_render (h : ∀ n ∈ e.walk, n.IsPlain) (hrender : e.render = .ok text) :
    Scans e text := by
  obtain ⟨text', hs⟩ := of_plain h
  have heq : text' = text := Except.ok.inj (hs.render.symm.trans hrender)
  exact heq ▸ hs

theorem Expr.tokens_binary {op : Operator} {t : Token} {lhs rhs : Expr}
    (hop : op.token? = some t) :
    (binary op lhs rhs).tokens =
      lhs.wrapped op.precedence lhs.tokens ++ t :: rhs.wrapped (op.precedence + 1) rhs.tokens := by
  rw [tokens, hop]
  rfl

theorem Scans.wrapped_ne_nil (h : Scans e text) (least : Precedence) :
    e.wrapped least e.tokens ≠ [] := by
  intro hnil
  have hends := (h.asOperand least).2
  rw [hnil] at hends
  cases hends

/-- Tokens that end with an integer are not those of an operand in parentheses. -/
theorem wrapped_of_getLast {least : Precedence} {ts : List Token} {t : Token}
    (h : (e.wrapped least ts).getLast? = some t) (ht : t.isInteger = true) :
    ¬ e.precedence < least ∧ ts.getLast? = some t := by
  unfold Expr.wrapped at h
  split at h
  · rw [← List.cons_append, List.getLast?_concat] at h
    cases h
    cases ht
  · next hle => exact ⟨hle, h⟩

/-- If the text of an expression ends with an integer, a point after it goes on that integer. -/
theorem Scans.lex_point (h : ∀ n ∈ e.walk, n.IsPlain) (hs : Scans e text) {t : Token}
    (hlast : e.tokens.getLast? = some t) (ht : t.isInteger = true)
    (hfields : isIdentifier fields = true) :
    ∃ ts, lex false (text ++ "." ++ fields).toList = some ts ∧
      ts.countP Token.isInteger < e.tokens.countP Token.isInteger := by
  induction e generalizing text with
  | number digits =>
    cases hs.render
    cases hlast
    have hnumber : IsNumber digits := (h _ (Expr.mem_walk_self _)).writable
    have hdigits : IsDigits digits.toList := by
      refine ⟨?_, by simpa [Token.isInteger] using ht⟩
      obtain ⟨c, cs, htext, -⟩ := Token.head_of_isNumber hnumber
      rw [htext]
      exact List.cons_ne_nil c cs
    obtain ⟨ts, hlex, hnone, -⟩ := lex_digits_point hdigits hfields
    have hzero : ts.countP Token.isInteger = 0 :=
      List.countP_eq_zero.mpr fun u hu => by simp [hnone u hu]
    have hone : (Expr.number digits).tokens.countP Token.isInteger = 1 :=
      List.countP_singleton.trans (if_pos ht)
    refine ⟨ts, ?_, by omega⟩
    rw [← hlex]
    simp
  | binary op lhs rhs ihl ihr =>
    obtain ⟨hnode, hl, hr⟩ := Expr.forall_walk_binary.mp h
    obtain ⟨sign, hop⟩ := Operator.exists_token? hnode.writable
    obtain ⟨l, hsl⟩ := of_plain hl
    obtain ⟨r, hsr⟩ := of_plain hr
    rw [Expr.tokens_binary hop, List.getLast?_append_of_ne_nil _ (List.cons_ne_nil _ _),
      List.getLast?_cons_of_ne_nil (hsr.wrapped_ne_nil _)] at hlast
    -- the last operand is not in parentheses, so the point meets its text
    obtain ⟨hbare, hlast⟩ := wrapped_of_getLast hlast ht
    obtain ⟨us, hlex, hcount⟩ := ihr hr hsr hlast
    have hright : rhs.asOperand (op.precedence + 1) r = r := if_neg hbare
    refine ⟨lhs.wrapped op.precedence lhs.tokens ++ sign :: us, ?_, ?_⟩
    · rw [hs.text_unique (hsl.binary hop hsr), hright, ← lex_binary hop
        (hsl.asOperand op.precedence).1 hlex]
      simp only [String.append_assoc]
    · rw [Expr.tokens_binary hop, List.countP_append, List.countP_append, List.countP_cons,
        List.countP_cons, countP_wrapped rhs]
      omega
  | neg operand ih =>
    obtain ⟨inner, hso⟩ := of_plain (Expr.forall_walk_neg.mp h).2
    rw [Expr.tokens, List.getLast?_cons_of_ne_nil (hso.wrapped_ne_nil _)] at hlast
    obtain ⟨hbare, hlast⟩ := wrapped_of_getLast hlast ht
    obtain ⟨us, hlex, hcount⟩ := ih (Expr.forall_walk_neg.mp h).2 hso hlast
    have hright : operand.asOperand (.unary + 1) inner = inner := if_neg hbare
    refine ⟨.minus :: us, ?_, ?_⟩
    · rw [hs.text_unique hso.neg, hright, ← lex_minus hlex]
      simp [String.append_assoc]
    · rw [Expr.tokens, List.countP_cons, List.countP_cons, countP_wrapped]
      omega
  | swizzle operand fields' ih =>
    have hbare : operand.isBareInteger = false :=
      (h _ (Expr.mem_walk_self _)).not_selectsInteger
    rw [Expr.tokens_swizzle hbare, List.getLast?_append] at hlast
    cases hlast
    cases ht
  | call fn args ih =>
    rw [Expr.tokens, ← List.cons_append, ← List.cons_append, List.getLast?_concat] at hlast
    cases hlast
    cases ht
  | name ident =>
    cases hlast
    cases ht
  | lit literal => cases (h _ (Expr.mem_walk_self _)).not_lit
  | _ => exact (h _ (Expr.mem_walk_self _)).writable.elim

/-- A left operand without its parentheses gives its last part to the operator. -/
theorem parse_left_ne {op : Operator} {lhs rhs : Expr} {l r : String}
    (h : ∀ n ∈ (Expr.binary op lhs rhs).walk, n.IsPlain) (hl : Scans lhs l) (hr : Scans rhs r)
    (hloose : lhs.precedence < op.precedence) :
    parse (l ++ " " ++ op.symbol ++ " " ++ rhs.asOperand (op.precedence + 1) r) ≠
      .ok (.binary op lhs rhs) := by
  obtain ⟨hnode, hlhs, hrhs⟩ := Expr.forall_walk_binary.mp h
  obtain ⟨t, ht⟩ := Operator.exists_token? hnode.writable
  have hlow := Operator.precedence_lt_unary ht
  have hlex := lex_binary ht hl.lexes (hr.asOperand (op.precedence + 1)).1
  rcases (hlhs _ (Expr.mem_walk_self _)).cases_of_precedence
    (hloose.trans (hlow.trans (by decide))) with ⟨op', t', a, b, rfl, ht'⟩ | ⟨a, rfl⟩
  · obtain ⟨-, ha, hb⟩ := Expr.forall_walk_binary.mp hlhs
    -- the operand is a sum, the operator one of a product, and both ask for a product in between
    have hphrase : Phrase.ofPrecedence (op'.precedence + 1) = .ofPrecedence op.precedence := by
      rw [Expr.precedence] at hloose
      rcases Operator.level_of_token? ht with ⟨-, hlevel⟩ | ⟨-, hlevel⟩ <;>
        rcases Operator.level_of_token? ht' with ⟨-, hlevel'⟩ | ⟨-, hlevel'⟩ <;>
        rw [hlevel, hlevel'] at hloose ⊢ <;> first | rfl | exact absurd hloose (by decide)
    have hbetween := derives_wrapped hb (op'.precedence + 1)
    rw [hphrase] at hbetween
    have hsecond := Derives.binary ht hbetween (derives_wrapped hrhs _)
    rw [← hphrase] at hsecond
    have hwhole := Derives.binary ht' (derives_wrapped ha _) hsecond
    rw [Expr.tokens_binary ht', List.append_assoc, List.cons_append] at hlex
    rw [parse_of_derives hlex hwhole]
    intro heq
    cases heq
  · exact absurd hloose (Nat.lt_asymm hlow)

/-- A right operand without its parentheses gives its first part to the operator. -/
theorem parse_right_ne {op : Operator} {lhs rhs : Expr} {l r : String}
    (h : ∀ n ∈ (Expr.binary op lhs rhs).walk, n.IsPlain) (hl : Scans lhs l) (hr : Scans rhs r)
    (hloose : rhs.precedence < op.precedence + 1) :
    parse (lhs.asOperand op.precedence l ++ " " ++ op.symbol ++ " " ++ r) ≠
      .ok (.binary op lhs rhs) := by
  obtain ⟨hnode, hlhs, hrhs⟩ := Expr.forall_walk_binary.mp h
  obtain ⟨t, ht⟩ := Operator.exists_token? hnode.writable
  have hlow := Operator.precedence_lt_unary ht
  have hle : rhs.precedence ≤ op.precedence := Nat.le_of_lt_succ hloose
  have hlex := lex_binary ht (hl.asOperand op.precedence).1 hr.lexes
  rcases (hrhs _ (Expr.mem_walk_self _)).cases_of_precedence
    (hle.trans_lt (hlow.trans (by decide))) with ⟨op', t', b, c, rfl, ht'⟩ | ⟨a, rfl⟩
  · obtain ⟨-, hb, hc⟩ := Expr.forall_walk_binary.mp hrhs
    obtain ⟨x, hx⟩ := Derives.exists_before ht (derives_wrapped hlhs op.precedence)
      (derives_wrapped hb op'.precedence) hle
    have hwhole := Derives.binary ht' hx (derives_wrapped hc _)
    rw [List.append_assoc, List.cons_append, ← Expr.tokens_binary ht'] at hwhole
    rw [parse_of_derives hlex hwhole]
    -- the right operand would be a part of itself
    intro heq
    have hsize := congrArg sizeOf (Expr.binary.inj (Except.ok.inj heq)).2.2
    simp at hsize
  · exact absurd hlow (Nat.not_lt.mpr hle)

/-- A minus in front of an operation goes to its first operand, and a minus in front of a minus to
all of it. -/
theorem parse_minus_iff (h : ∀ n ∈ o.walk, n.IsPlain) (hs : Scans o text)
    (hloose : o.precedence < .unary + 1) :
    parse ("-" ++ text) = .ok (.neg o) ↔ (Expr.neg o).isDoubleMinus = true := by
  have hlex : lex false ("-" ++ text).toList = some (.minus :: o.tokens) := by
    rw [String.toList_append]
    exact lex_minus hs.lexes
  rcases (h _ (Expr.mem_walk_self _)).cases_of_precedence
    (hloose.trans (by decide)) with ⟨op, t, a, b, rfl, ht⟩ | ⟨a, rfl⟩
  · obtain ⟨-, ha, hb⟩ := Expr.forall_walk_binary.mp h
    have hlow := Operator.precedence_lt_unary ht
    obtain ⟨x, hx⟩ := (derives_wrapped ha op.precedence).exists_minus
      (Phrase.ofPrecedence_ne_postfixed hlow.le) (Phrase.ofPrecedence_ne_primary _)
    have hwhole := Derives.binary ht hx (derives_wrapped hb _)
    rw [List.cons_append, ← Expr.tokens_binary ht] at hwhole
    rw [parse_of_derives hlex hwhole]
    simp [Expr.isDoubleMinus]
  · have hwhole : Derives (.ofPrecedence .unary) (.minus :: (Expr.neg a).tokens) (.neg (.neg a)) :=
      Derives.minus (derives_of_plain h)
    rw [parse_of_derives hlex hwhole]
    simp [Expr.isDoubleMinus]

/-- A selection after an operation or a minus goes to its last operand. -/
theorem parse_selection_ne (h : ∀ n ∈ o.walk, n.IsPlain) (hs : Scans o text)
    (hloose : o.precedence < .postfixed) (hfields : isIdentifier fields = true) :
    parse (text ++ "." ++ fields) ≠ .ok (.swizzle o fields) := by
  by_cases hlast : ∀ t ∈ o.tokens.getLast?, t.isInteger = false
  · have hlex := lex_selection hs.lexes hs.ends hlast hfields
    rcases (h _ (Expr.mem_walk_self _)).cases_of_precedence hloose with
      ⟨op, t, a, b, rfl, ht⟩ | ⟨a, rfl⟩
    · obtain ⟨-, ha, hb⟩ := Expr.forall_walk_binary.mp h
      obtain ⟨x, hx⟩ := (derives_wrapped hb (op.precedence + 1)).exists_selection
        (Phrase.ofPrecedence_ne_primary _) fields
      have hwhole := Derives.binary ht (derives_wrapped ha _) hx
      rw [← List.cons_append, ← List.append_assoc, ← Expr.tokens_binary ht] at hwhole
      rw [parse_of_derives hlex hwhole]
      simp
    · obtain ⟨x, hx⟩ := (derives_wrapped (Expr.forall_walk_neg.mp h).2
        (.unary + 1)).exists_selection (Phrase.ofPrecedence_ne_primary _) fields
      have hwhole : Derives (.ofPrecedence .unary) ((Expr.neg a).tokens ++ [.dot, .name fields])
          (.neg x) := Derives.minus (.postfixed hx)
      rw [parse_of_derives hlex hwhole]
      simp
  · push Not at hlast
    obtain ⟨t, hmem, ht⟩ := hlast
    obtain ⟨ts, hlex, hcount⟩ := hs.lex_point h hmem (by simpa using ht) hfields
    -- the tokens have an integer less than the expression
    intro hparse
    obtain ⟨ts', hlex', hderives⟩ := parse_eq_ok_iff.mp hparse
    rw [hlex] at hlex'
    cases hlex'
    have hwalk := hderives.countP_isInteger
    have htokens := countP_tokens fun n hn => ⟨(h n hn).writable, (h n hn).not_lit⟩
    rw [Expr.walk, List.countP_cons_of_neg (by simp [Expr.isInteger])] at hwalk
    omega

/-- Without the parentheses around an operand the text of a node is not parsed as the node, except
that of a minus under a minus. -/
theorem HasOperand.parse_iff {n : Expr} {least : Precedence} {before after : String}
    (h : HasOperand n o least before after) (hn : ∀ m ∈ n.walk, m.IsPlain) (hs : Scans o text)
    (hloose : o.precedence < least) :
    parse (before ++ text ++ after) = .ok n ↔ n.isDoubleMinus = true := by
  cases h with
  | left hr =>
    have hsr := Scans.of_render (Expr.forall_walk_binary.mp hn).2.2 hr
    have hne := parse_left_ne hn hs hsr hloose
    rw [String.empty_append]
    simp only [String.append_assoc] at hne ⊢
    exact iff_of_false hne (by simp [Expr.isDoubleMinus])
  | right hl =>
    have hsl := Scans.of_render (Expr.forall_walk_binary.mp hn).2.1 hl
    rw [String.append_empty]
    exact iff_of_false (parse_right_ne hn hsl hs hloose) (by simp [Expr.isDoubleMinus])
  | minus =>
    rw [String.append_empty]
    exact parse_minus_iff (Expr.forall_walk_neg.mp hn).2 hs hloose
  | selection =>
    obtain ⟨hnode, ho⟩ := Expr.forall_walk_swizzle.mp hn
    have hne := parse_selection_ne ho hs hloose hnode.writable
    rw [String.empty_append, ← String.append_assoc]
    exact iff_of_false hne (by simp [Expr.isDoubleMinus])

/-- Without the parentheses around a minus under a minus, the two signs stand next to each other. -/
theorem HasOperand.adjacent_of_isDoubleMinus {n : Expr} {least : Precedence} {before after : String}
    (h : HasOperand n o least before after) (htext : o.render = .ok text)
    (hdouble : n.isDoubleMinus = true) : ['-', '-'] <:+: (before ++ text ++ after).toList := by
  cases h with
  | minus =>
    cases o with
    | neg a =>
      rw [Expr.render] at htext
      obtain ⟨inner, -, htext⟩ := bind_eq_ok_iff.mp htext
      cases htext
      exact ⟨[], (a.asOperand (.unary + 1) inner).toList, by simp⟩
    | _ => cases hdouble
  | _ => cases hdouble

/-- The text of an expression has no two minus signs next to each other, and no pair of parentheses
around an operand that could be left out: without it the text of the node is not parsed as the node.
The one exception is a minus under a minus, where the text would get two minus signs next to each
other. -/
theorem parentheses_needed (h : ∀ n ∈ e.walk, n.IsPlain) :
    ∃ text, e.render = .ok text ∧ ¬ ['-', '-'] <:+: text.toList ∧
      ∀ n ∈ e.walk, ∀ o least before after, HasOperand n o least before after →
        o.precedence < least → ∃ inner, o.render = .ok inner ∧
          n.render = .ok (before ++ "(" ++ inner ++ ")" ++ after) ∧
          (parse (before ++ inner ++ after) = .ok n ↔ n.isDoubleMinus = true) ∧
          (n.isDoubleMinus = true → ['-', '-'] <:+: (before ++ inner ++ after).toList) := by
  obtain ⟨text, hs⟩ := Scans.of_plain h
  refine ⟨text, hs.render, (Expr.minusesApart_render h hs.render).1.not_adjacent, ?_⟩
  intro n hn o least before after hoperand hloose
  have hnode : ∀ m ∈ n.walk, m.IsPlain := fun m hm => h m (Expr.walk_subset hn hm)
  have ho : ∀ m ∈ o.walk, m.IsPlain := fun m hm => hnode m (hoperand.walk_subset hm)
  obtain ⟨inner, hso⟩ := Scans.of_plain ho
  have hwrapped : o.asOperand least inner = "(" ++ inner ++ ")" := if_pos hloose
  refine ⟨inner, hso.render, ?_, hoperand.parse_iff hnode hso hloose,
    hoperand.adjacent_of_isDoubleMinus hso.render⟩
  rw [hoperand.render hso.render, hwrapped]
  simp only [String.append_assoc]

end Plain

/-- Two minus signs, a selection from a difference and a difference on the right of a minus. -/
theorem parentheses_needed_differences :
    let inner := Expr.binary .sub (.name "b") (.number "1")
    let outer := Expr.binary .sub (.name "a") inner
    let minuses := Expr.neg (.neg (.swizzle outer "x"))
    (∀ n ∈ minuses.walk, n.IsPlain) ∧ minuses.render = .ok "-(-(a - (b - 1)).x)" ∧
      parse "--(a - (b - 1)).x" = .ok minuses ∧
      parse "a - (b - 1).x" ≠ .ok (.swizzle outer "x") ∧ parse "a - b - 1" ≠ .ok outer := by
  intro inner outer minuses
  have hnumber : IsNumber "1" := ⟨['1'], [], .whole ⟨by simp, by simp⟩, .none, rfl⟩
  have hname : isIdentifier "a" = true ∧ isIdentifier "b" = true ∧ isIdentifier "x" = true := by
    decide
  have hsub : ∀ symbol, Operator.sub ≠ .other symbol := nofun
  have hplain : ∀ n ∈ minuses.walk, n.IsPlain := by
    simp only [minuses, outer, inner, Expr.walk, List.singleton_append, List.forall_mem_cons]
    exact ⟨⟨trivial, rfl, rfl⟩, ⟨trivial, rfl, rfl⟩, ⟨hname.2.2, rfl, rfl⟩, ⟨hsub, rfl, rfl⟩,
      ⟨hname.1, rfl, rfl⟩, ⟨hsub, rfl, rfl⟩, ⟨hname.2.1, rfl, rfl⟩, ⟨hnumber, rfl, rfl⟩, by simp⟩
  obtain ⟨-, -, -, hneeded⟩ := parentheses_needed hplain
  obtain ⟨t, ht, -, hminus, -⟩ := hneeded minuses (by simp [minuses, Expr.walk]) _ _ _ _ .minus
    (by decide)
  obtain ⟨u, hu, -, hselection, -⟩ := hneeded (.swizzle outer "x") (by simp [minuses, Expr.walk])
    _ _ _ _ .selection (by decide)
  obtain ⟨v, hv, -, hright, -⟩ := hneeded outer (by simp [minuses, outer, Expr.walk]) _ _ _ _
    (.right rfl) (by decide)
  cases ht
  cases hu
  cases hv
  refine ⟨hplain, by rfl, ?_, ?_, ?_⟩
  · exact hminus.mpr rfl
  · exact mt hselection.mp (by decide)
  · exact mt hright.mp (by decide)

end SignedDistance
