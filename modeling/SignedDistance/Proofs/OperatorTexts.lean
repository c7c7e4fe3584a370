import Mathlib
import SignedDistance.OperatorText
import SignedDistance.Proofs.Amounts
import SignedDistance.Proofs.FixedTexts
import SignedDistance.Proofs.NearestDoubles

/-!
# What the text of an operator record means

An operator record is written with parentheses around every operator that stands between two
operands, whatever surrounds it. Its text can therefore stand wherever an operand with a sign can
(`IsOperandText`), and it is read back as the tree that the record holds
(`operatorText_means_tree`). A record cannot be written if such an operator does not have two
operands, and of several of these the first one in pre-order is named.
-/

namespace SignedDistance

/-! ## Absolute values of numbers -/

namespace Double

/-- The double without its sign. -/
def abs (x : Double) : Double :=
  ⟨UInt64.ofNat (x.bits.toNat % pow2 63)⟩

theorem view_abs {x : Double} {negative : Bool} {m : Nat} {e : Int}
    (h : x.view = .finite negative m e) : x.abs.view = .finite false m e := by
  have h52 : pow2 52 = 4503599627370496 := rfl
  have h63 : pow2 63 = 9223372036854775808 := rfl
  have h11 : pow2 11 = 2048 := rfl
  have hsize : x.bits.toNat % pow2 63 < 2 ^ 64 := by
    rw [h63]
    omega
  unfold view at h ⊢
  rw [abs, UInt64.toNat_ofNat_of_lt' hsize]
  simp only [h52, h63, h11] at h ⊢
  -- the sign bit stands above the exponent and the fraction
  have hbiased : x.bits.toNat % 9223372036854775808 / 4503599627370496 % 2048 =
      x.bits.toNat / 4503599627370496 % 2048 := by omega
  have hfraction : x.bits.toNat % 9223372036854775808 % 4503599627370496 =
      x.bits.toNat % 4503599627370496 := by omega
  have hsign : ¬ 9223372036854775808 ≤ x.bits.toNat % 9223372036854775808 := by omega
  rw [hbiased, hfraction, decide_eq_false hsign]
  split_ifs at h ⊢ with hmax hzero hleast
  · cases h
    rfl
  · cases h
    rfl

theorem exact_abs {x : Double} (h : x.isFinite = true) : x.abs.exact = |x.exact| := by
  obtain ⟨negative, m, e, hview⟩ := exists_view_of_isFinite h
  rw [abs_exact hview, exact, view_abs hview]
  exact one_mul _

theorem abs_pack (negative : Bool) {m : Nat} {e : Int}
    (h : (e + 1074).toNat * pow2 52 + m < pow2 63) : (pack negative m e).abs = pack false m e := by
  have h63 : pow2 63 = 9223372036854775808 := rfl
  have hsize : (if negative then pow2 63 else 0) + (e + 1074).toNat * pow2 52 + m < 2 ^ 64 := by
    split <;> omega
  have hrest : ((if negative then pow2 63 else 0) + (e + 1074).toNat * pow2 52 + m) % pow2 63 =
      (e + 1074).toNat * pow2 52 + m := by
    rw [h63] at h ⊢
    split <;> omega
  rw [abs, pack, UInt64.toNat_ofNat_of_lt' hsize, hrest, pack]
  simp

theorem abs_ofRatio (negative : Bool) (num : Nat) {den : Nat} (hden : 0 < den) :
    (ofRatio negative num den).abs = ofRatio false num den := by
  rcases Nat.eq_zero_or_pos num with rfl | hnum
  · rw [ofRatio_zero, ofRatio_zero]
    exact abs_pack negative (by decide)
  · rw [ofRatio_eq negative hnum, ofRatio_eq false hnum]
    split_ifs with hmax
    · exact abs_pack negative (by decide)
    · refine abs_pack negative ?_
      have h52 : pow2 52 = 4503599627370496 := rfl
      have h63 : pow2 63 = 9223372036854775808 := rfl
      have hmantissa := roundedMantissa_le hnum hden
      rw [h52, h63]
      omega

end Double

namespace Datum

/-- The absolute value of a number. -/
def abs : Datum → Datum
  | .int n => .int n.natAbs
  | .float x => .float x.abs
  | d => d

/-- An integer within the range of doubles, or a finite double. -/
def IsFiniteNumber : Datum → Prop
  | .int n => (Double.ofInt? n).isSome = true
  | .float x => x.isFinite = true
  | _ => False

/-- The text of a number as an operand, nothing if it cannot be written. -/
def operandText (d : Datum) : String :=
  (d.fixedText operandPlaces).toOption.getD ""

theorem IsFiniteNumber.exists_toDouble {d : Datum} (h : d.IsFiniteNumber) :
    ∃ x, d.toDouble = .ok x ∧ d.abs.toDouble = .ok x.abs := by
  have hfinite : ∀ {x : Double}, x.isFinite = true → x.abs.isFinite = true := by
    intro x hx
    obtain ⟨negative, m, e, hview⟩ := Double.exists_view_of_isFinite hx
    exact Double.isFinite_of_view (Double.view_abs hview)
  cases d with
  | float x => exact ⟨x, toDouble_eq_ok_iff.mpr ⟨rfl, h⟩, toDouble_eq_ok_iff.mpr ⟨rfl, hfinite h⟩⟩
  | int n =>
    obtain ⟨x, hx⟩ := Option.isSome_iff_exists.mp h
    have hround : Double.ofRatio (n < 0) n.natAbs 1 = x ∧ x.isFinite = true := by
      rw [Double.ofInt?] at hx
      split_ifs at hx with hround
      cases hx
      exact ⟨rfl, hround⟩
    have habs : Double.ofInt? n.natAbs = some x.abs := by
      have hsame : Double.ofRatio ((n.natAbs : Int) < 0) (n.natAbs : Int).natAbs 1 = x.abs := by
        rw [← hround.1, Double.abs_ofRatio _ _ Nat.one_pos, Int.natAbs_natCast,
          decide_eq_false (by omega)]
      rw [Double.ofInt?, hsame]
      exact if_pos (hfinite hround.2)
    refine ⟨x, toDouble_eq_ok_iff.mpr ⟨?_, hround.2⟩, toDouble_eq_ok_iff.mpr ⟨?_, hfinite hround.2⟩⟩
    · rw [toAnyDouble, hx]
    · rw [abs, toAnyDouble, habs]
  | _ => exact h.elim

theorem fixedText_operandPlaces {d : Datum} {x : Double} (h : d.toDouble = .ok x) :
    d.fixedText operandPlaces =
      .ok (Decimal.text ⟨decide (x.exact < 0), x.units operandPlaces, -operandPlaces⟩) := by
  have hfinite := (toDouble_eq_ok_iff.mp h).2
  have hcount : Double.digitCount (x.units operandPlaces) ≤ Double.maxFixedDigits :=
    Double.digitCount_units_le hfinite (by decide)
  rw [fixedText_eq h, Double.fixed_of_isFinite hfinite (by decide), if_neg (not_lt.mpr hcount)]
  rfl

/-- The text of a number is that of its absolute value, with a minus sign or without one. -/
theorem IsFiniteNumber.exists_decimal {d : Datum} (h : d.IsFiniteNumber) :
    ∃ decimal : Decimal, d.fixedText operandPlaces = .ok decimal.text ∧
      d.abs.operandText = String.ofList decimal.unsignedChars ∧
      (d.operandText.toList.head? = some '-' ↔ decimal.negative = true) := by
  obtain ⟨x, hx, habs⟩ := h.exists_toDouble
  have hexact := Double.exact_abs (toDouble_eq_ok_iff.mp hx).2
  have hunits : x.abs.units operandPlaces = x.units operandPlaces := by
    rw [Double.units, Double.units, hexact, abs_abs]
  have hsign : ¬ x.abs.exact < 0 := by
    rw [hexact]
    exact not_lt.mpr (abs_nonneg _)
  refine ⟨_, fixedText_operandPlaces hx, ?_, ?_⟩
  · rw [operandText, fixedText_operandPlaces habs, hunits, decide_eq_false hsign]
    rfl
  · rw [operandText, fixedText_operandPlaces hx]
    exact Decimal.head_text _

end Datum

/-! ## Trees of operators -/

/-- A tree of operators over names and numbers. An operator stands between two operands, or it is
the name of a function. -/
inductive OperatorTree where
  | name (ident : String) (h : isIdentifier ident = true)
  | number (x : Datum) (h : x.IsFiniteNumber)
  | node (op : String) (h : op ∈ binaryOperators ∨ isIdentifier op = true)
      (operands : List OperatorTree)

namespace OperatorTree

mutual

/-- The value holds the tree: operators and operands are in fields of records. -/
def IsHeldBy : OperatorTree → Datum → Prop
  | .name ident _, d => d = .text ident
  | .number x _, d => d = x
  | .node op _ operands, d => ∃ fields items, d = .record fields ∧
      fields.lookup "op" = some (.text op) ∧ fields.lookup "args" = some (.list items) ∧
      AreHeldBy operands items

/-- The values hold the trees one by one. -/
def AreHeldBy : List OperatorTree → List Datum → Prop
  | [], ds => ds = []
  | t :: ts, ds => ∃ d rest, ds = d :: rest ∧ t.IsHeldBy d ∧ AreHeldBy ts rest

end

mutual

/-- The operators of a tree in pre-order, each with the number of its operands. -/
def nodes : OperatorTree → List (String × Nat)
  | .node op _ operands => (op, operands.length) :: nodesAll operands
  | _ => []

/-- The operators of several trees, one tree after the other. -/
def nodesAll : List OperatorTree → List (String × Nat)
  | [] => []
  | t :: ts => t.nodes ++ nodesAll ts

end

mutual

/-- The expression that a tree stands for. A number is written without its sign, under a minus if
its own text has one. -/
def expr : OperatorTree → Expr
  | .name ident _ => .name ident
  | .number x _ =>
    if x.operandText.toList.head? = some '-' then .neg (.number x.abs.operandText)
    else .number x.abs.operandText
  | .node op _ operands =>
    match decide (op ∈ binaryOperators), exprAll operands with
    | true, [lhs, rhs] => .binary (.ofSymbol op) lhs rhs
    | _, args => .call op args

/-- The expressions that several trees stand for. -/
def exprAll : List OperatorTree → List Expr
  | [] => []
  | t :: ts => t.expr :: exprAll ts

end

/-- Whether a node is an operator that stands between two operands, but does not have two. -/
def isMisfit (node : String × Nat) : Bool :=
  node.1 ∈ binaryOperators ∧ node.2 ≠ 2

/-- The operators between operands are those of arithmetic. -/
def IsArithmetic (t : OperatorTree) : Prop :=
  ∀ node ∈ t.nodes, node.1 ∈ binaryOperators → node.1 ∈ ["+", "-", "*", "/"]

/-- Induction over trees. -/
@[elab_as_elim, induction_eliminator]
theorem inductionOn {motive : OperatorTree → Prop} (name : ∀ ident h, motive (.name ident h))
    (number : ∀ x h, motive (.number x h))
    (node : ∀ op h operands, (∀ t ∈ operands, motive t) → motive (.node op h operands))
    (t : OperatorTree) : motive t :=
  @OperatorTree.rec motive (fun ts => ∀ t ∈ ts, motive t) name number node (by simp)
    (fun t ts ht hts => by simpa using ⟨ht, hts⟩) t

theorem nodes_subset_nodesAll {t : OperatorTree} {ts : List OperatorTree} (h : t ∈ ts) :
    t.nodes ⊆ nodesAll ts := by
  induction ts with
  | nil => cases h
  | cons u us ih =>
    rw [nodesAll]
    rcases List.mem_cons.mp h with rfl | h
    · exact List.subset_append_left _ _
    · exact List.subset_append_of_subset_right _ (ih h)

theorem IsArithmetic.operand {op : String} {hop : op ∈ binaryOperators ∨ isIdentifier op = true}
    {operands : List OperatorTree} (h : (node op hop operands).IsArithmetic) {t : OperatorTree}
    (ht : t ∈ operands) : t.IsArithmetic := fun n hn =>
  h n (List.mem_cons_of_mem _ (nodes_subset_nodesAll ht hn))

end OperatorTree

/-! ## Texts of operands -/

/-- The text is read as the expression wherever an operand with a sign can stand. -/
def IsOperandText (text : String) (e : Expr) : Prop :=
  ∃ ts, lex false text.toList = some ts ∧ Derives .unary ts e

namespace IsOperandText

variable {text l r : String} {e a b : Expr}

theorem parse (h : IsOperandText text e) : SignedDistance.parse text = .ok e := by
  obtain ⟨ts, hlex, hderives⟩ := h
  exact parse_eq_ok_iff.mpr ⟨ts, hlex, .product (.unary hderives)⟩

theorem name {ident : String} (h : isIdentifier ident = true) : IsOperandText ident (.name ident) :=
  ⟨_, lex_identifier h, .postfixed (.primary (.name ident))⟩

theorem call {fn : String} {texts : List String} {es : List Expr} (hfn : isIdentifier fn = true)
    (h : List.Forall₂ IsOperandText texts es) :
    IsOperandText (fn ++ "(" ++ ", ".intercalate texts ++ ")") (.call fn es) := by
  have hargs : ∃ args : List (List Token × Expr), args.map Prod.snd = es ∧
      List.Forall₂ (fun text ts => lex false text.toList = some ts) texts (args.map Prod.fst) ∧
      ∀ arg ∈ args, Derives .sum arg.1 arg.2 := by
    induction h with
    | nil => exact ⟨[], rfl, .nil, by simp⟩
    | @cons text e texts es htext hrest ih =>
      obtain ⟨ts, hlex, hderives⟩ := htext
      obtain ⟨args, rfl, hlexes, hall⟩ := ih
      refine ⟨(ts, e) :: args, rfl, .cons hlex hlexes, ?_⟩
      exact List.forall_mem_cons.mpr ⟨.product (.unary hderives), hall⟩
  obtain ⟨args, rfl, hlexes, hall⟩ := hargs
  exact ⟨_, lex_call hfn (lex_arguments hlexes), .postfixed (.primary (.call hall))⟩

/-- Parentheses let an operator stand anywhere. -/
theorem binary {op : Operator} {t : Token} (hop : op.token? = some t) (hl : IsOperandText l a)
    (hr : IsOperandText r b) :
    IsOperandText ("(" ++ (" " ++ op.symbol ++ " ").intercalate [l, r] ++ ")")
      (.binary op a b) := by
  obtain ⟨ts, hlexl, hderivesl⟩ := hl
  obtain ⟨us, hlexr, hderivesr⟩ := hr
  have htext : ("(" ++ (" " ++ op.symbol ++ " ").intercalate [l, r] ++ ")").toList =
      '(' :: ((l ++ " " ++ op.symbol ++ " " ++ r).toList ++ [')']) := by
    simp [String.intercalate_cons_cons]
  have hsum : Derives .sum (ts ++ t :: us) (.binary op a b) := by
    rcases Operator.level_of_token? hop with ⟨ht, -⟩ | ⟨ht, -⟩
    · exact .additive ht (.product (.unary hderivesl)) (.unary hderivesr)
    · exact .product (.multiplicative ht (.unary hderivesl) hderivesr)
  refine ⟨_, ?_, .postfixed (.primary (.group hsum))⟩
  rw [htext]
  exact lex_parentheses (lex_binary hop hlexl hlexr)

end IsOperandText

theorem Operator.token?_ofSymbol {op : String} (h : op ∈ ["+", "-", "*", "/"]) :
    ∃ t, (ofSymbol op).token? = some t ∧ (ofSymbol op).symbol = op := by
  simp only [List.mem_cons, List.not_mem_nil, or_false] at h
  rcases h with rfl | rfl | rfl | rfl
  · exact ⟨.plus, rfl, rfl⟩
  · exact ⟨.minus, rfl, rfl⟩
  · exact ⟨.star, rfl, rfl⟩
  · exact ⟨.slash, rfl, rfl⟩

/-! ## Writing -/

/-- Writing what has the given nodes either stops at the first misfit or has a good result. -/
inductive Written {β : Type} (nodes : List (String × Nat)) (Good : β → Prop) :
    Except OperatorTextError β → Prop where
  | misfit {op : String} {given : Nat}
      (h : nodes.find? OperatorTree.isMisfit = some (op, given)) :
      Written nodes Good (.error (.arity op given))
  | ok {b : β} (h : nodes.find? OperatorTree.isMisfit = none) (hb : Good b) :
      Written nodes Good (.ok b)

namespace Written

variable {β γ : Type} {ns ms : List (String × Nat)} {Good : β → Prop} {Next : γ → Prop}
  {x : Except OperatorTextError β}

theorem bind {f : β → Except OperatorTextError γ} (h : Written ns Good x)
    (hf : ∀ b, Good b → Written ms Next (f b)) : Written (ns ++ ms) Next (x >>= f) := by
  cases h with
  | misfit h => exact .misfit (by rw [List.find?_append, h]; rfl)
  | @ok b h hb =>
    have hfind : (ns ++ ms).find? OperatorTree.isMisfit = ms.find? OperatorTree.isMisfit := by
      rw [List.find?_append, h, Option.none_or]
    have hnext := hf b hb
    show Written (ns ++ ms) Next (f b)
    generalize f b = outcome at hnext
    cases hnext with
    | misfit h => exact .misfit (hfind.trans h)
    | ok h hb => exact .ok (hfind.trans h) hb

theorem map {f : β → γ} (h : Written ns Good x) (hf : ∀ b, Good b → Next (f b)) :
    Written ns Next (x >>= fun b => .ok (f b)) := by
  cases h with
  | misfit h => exact .misfit h
  | ok h hb => exact .ok h (hf _ hb)

theorem cons {node : String × Nat} (hnode : OperatorTree.isMisfit node = false)
    (h : Written ns Good x) : Written (node :: ns) Good x := by
  have hfind := List.find?_cons_of_neg (l := ns) (Bool.eq_false_iff.mp hnode)
  cases h with
  | misfit h => exact .misfit (hfind.trans h)
  | ok h hb => exact .ok (hfind.trans h) hb

end Written

namespace OperatorTree

/-- What the text of a record should be. -/
abbrev IsTextOf (t : OperatorTree) (text : String) : Prop :=
  t.IsArithmetic → IsOperandText text t.expr

theorem written_number {x : Datum} (h : x.IsFiniteNumber) :
    Written [] (number x h).IsTextOf x.operatorText := by
  obtain ⟨decimal, htext, habs, hsign⟩ := h.exists_decimal
  have hwritten : x.operatorText = .ok decimal.text := by
    cases x with
    | int n =>
      rw [Datum.operatorText, htext]
      rfl
    | float y =>
      rw [Datum.operatorText, htext]
      rfl
    | _ => exact h.elim
  have hexpr : (number x h).expr = decimal.expr := by
    rw [expr, habs, Decimal.expr]
    simp only [hsign]
  rw [hwritten]
  refine .ok rfl fun _ => ?_
  rw [hexpr]
  exact decimal.derives_text

theorem written_operands {ts : List OperatorTree} {ds : List Datum} (h : AreHeldBy ts ds)
    (ih : ∀ t ∈ ts, ∀ d, t.IsHeldBy d → Written t.nodes t.IsTextOf d.operatorText) :
    Written (nodesAll ts) (fun texts => (∀ t ∈ ts, t.IsArithmetic) →
      List.Forall₂ IsOperandText texts (exprAll ts)) (Datum.operatorTexts ds) := by
  induction ts generalizing ds with
  | nil =>
    rw [AreHeldBy] at h
    subst h
    rw [Datum.operatorTexts]
    exact .ok rfl fun _ => .nil
  | cons t ts ihs =>
    rw [AreHeldBy] at h
    obtain ⟨d, ds, rfl, hd, hds⟩ := h
    obtain ⟨iht, ihts⟩ := List.forall_mem_cons.mp ih
    rw [Datum.operatorTexts]
    refine (iht d hd).bind fun text htext => ?_
    refine (ihs hds ihts).map fun texts htexts harithmetic => ?_
    obtain ⟨ht, hts⟩ := List.forall_mem_cons.mp harithmetic
    exact .cons (htext ht) (htexts hts)

theorem operatorText_record {fields : List (String × Datum)} {op : String} {items : List Datum}
    (hop : fields.lookup "op" = some (.text op))
    (hargs : fields.lookup "args" = some (.list items)) :
    (Datum.record fields).operatorText =
      operatorCallText (.text op) items.length (Datum.operatorTexts items) := by
  rw [Datum.operatorText]
  simp only [hop]
  split
  · next h => rw [hargs] at h; cases h
  · next h => rw [hargs] at h; cases h; rfl
  · next h => rw [hargs] at h; cases h
  · next h => rw [hargs] at h; cases h
  · next _ hlist _ _ h => rw [hargs] at h; cases h; exact absurd rfl (hlist items)

theorem length_of_areHeldBy {ts : List OperatorTree} {ds : List Datum} (h : AreHeldBy ts ds) :
    ds.length = ts.length := by
  induction ts generalizing ds with
  | nil =>
    rw [AreHeldBy] at h
    rw [h]
    rfl
  | cons t ts ih =>
    rw [AreHeldBy] at h
    obtain ⟨d, ds, rfl, -, hds⟩ := h
    exact congrArg Nat.succ (ih hds)

/-- An operator between the texts of its two operands, in parentheses. -/
theorem isTextOf_binary {op : String} {hop : op ∈ binaryOperators ∨ isIdentifier op = true}
    {operands : List OperatorTree} {texts : List String} (hbinary : op ∈ binaryOperators)
    (htwo : operands.length = 2)
    (htexts : (∀ t ∈ operands, t.IsArithmetic) →
      List.Forall₂ IsOperandText texts (exprAll operands)) :
    (node op hop operands).IsTextOf ("(" ++ (" " ++ op ++ " ").intercalate texts ++ ")") := by
  intro harithmetic
  have hforall := htexts fun t ht => harithmetic.operand ht
  obtain ⟨t, u, rfl⟩ := List.length_eq_two.mp htwo
  obtain ⟨token, htoken, hsymbol⟩ :=
    Operator.token?_ofSymbol (harithmetic _ List.mem_cons_self hbinary)
  have hexpr : (node op hop [t, u]).expr = .binary (.ofSymbol op) t.expr u.expr := by
    simp [expr, exprAll, hbinary]
  rw [exprAll, exprAll, exprAll] at hforall
  cases hforall with
  | cons hl hrest =>
    cases hrest with
    | cons hr hnil =>
      cases hnil
      have hoperator := IsOperandText.binary htoken hl hr
      rw [hsymbol] at hoperator
      rw [hexpr]
      exact hoperator

/-- Writing a record stops at the first misfit of the tree, or the text is that of the tree. -/
theorem written_operatorText {t : OperatorTree} {d : Datum} (h : t.IsHeldBy d) :
    Written t.nodes t.IsTextOf d.operatorText := by
  induction t generalizing d with
  | name ident hident =>
    rw [IsHeldBy] at h
    subst h
    rw [Datum.operatorText]
    exact .ok rfl fun _ => .name hident
  | number x hx =>
    rw [IsHeldBy] at h
    subst h
    exact written_number hx
  | node op hop operands ih =>
    rw [IsHeldBy] at h
    obtain ⟨fields, items, rfl, hopField, hargsField, hitems⟩ := h
    have hoperands := written_operands hitems fun t ht d hd => ih t ht hd
    have hheld : Datum.holdsList (.text op) = false := rfl
    rw [operatorText_record hopField hargsField, length_of_areHeldBy hitems, operatorCallText]
    simp only [hheld, Bool.false_eq_true, if_false]
    rw [nodes]
    by_cases hbinary : op ∈ binaryOperators
    · rw [if_pos hbinary]
      by_cases htwo : operands.length = 2
      · rw [if_pos htwo]
        refine .cons (by simp [isMisfit, htwo]) (hoperands.map fun texts htexts => ?_)
        exact isTextOf_binary hbinary htwo htexts
      · rw [if_neg htwo]
        exact .misfit (List.find?_cons_of_pos (by simp [isMisfit, hbinary, htwo]))
    · rw [if_neg hbinary]
      refine .cons (by simp [isMisfit, hbinary]) (hoperands.map fun texts htexts => ?_)
      intro harithmetic
      have hexpr : (node op hop operands).expr = .call op (exprAll operands) := by
        simp [expr, hbinary]
      rw [hexpr]
      exact .call (hop.resolve_left hbinary) (htexts fun t ht => harithmetic.operand ht)

end OperatorTree

/-- A record is written unless an operator between operands does not have two of them. The first
such operator in pre-order is named. If all operators between operands are those of arithmetic, then
the text is read as the tree that the record holds. -/
theorem operatorText_means_tree (t : OperatorTree) {d : Datum} (hd : t.IsHeldBy d) :
    (∀ op given, d.operatorText = .error (.arity op given) ↔
      t.nodes.find? OperatorTree.isMisfit = some (op, given)) ∧
    (t.nodes.find? OperatorTree.isMisfit = none →
      ∃ text, d.operatorText = .ok text ∧ (t.IsArithmetic → parse text = .ok t.expr)) := by
  have hwritten := OperatorTree.written_operatorText hd
  generalize d.operatorText = outcome at hwritten ⊢
  cases hwritten with
  | @misfit op given h =>
    rw [h]
    refine ⟨fun op' given' => ?_, by simp⟩
    simp
  | @ok text h htext =>
    rw [h]
    exact ⟨by simp, fun _ => ⟨text, rfl, fun harithmetic => (htext harithmetic).parse⟩⟩

theorem operatorText_means_tree_negative :
    ∃ t : OperatorTree,
      t.IsHeldBy (.record [("args", .list [.text "a", .int (-2)]), ("op", .text "-")]) ∧
      t.IsArithmetic ∧ ∃ text,
        (Datum.record [("args", .list [.text "a", .int (-2)]), ("op", .text "-")]).operatorText =
          .ok text ∧
        parse text = .ok (.binary .sub (.name "a") (.neg (.number "2.00"))) := by
  have hfinite : (Double.ofInt? (-2)).isSome = true := by decide +kernel
  have hminus : (Datum.int (-2)).operandText = "-2.00" := by decide +kernel
  have hplain : (Datum.int (-2)).abs.operandText = "2.00" := by decide +kernel
  let t : OperatorTree :=
    .node "-" (Or.inl (by decide)) [.name "a" (by decide), .number (.int (-2)) hfinite]
  have hheld :
      t.IsHeldBy (.record [("args", .list [.text "a", .int (-2)]), ("op", .text "-")]) := by
    refine ⟨_, _, rfl, rfl, rfl, ?_⟩
    simp [OperatorTree.IsHeldBy, OperatorTree.AreHeldBy]
  have hnodes : t.nodes = [("-", 2)] := rfl
  have harithmetic : t.IsArithmetic := by
    intro node hnode hbinary
    rw [hnodes, List.mem_singleton] at hnode
    subst hnode
    decide
  obtain ⟨text, htext, hparse⟩ := (operatorText_means_tree t hheld).2 (by rw [hnodes]; decide)
  refine ⟨t, hheld, harithmetic, text, htext, ?_⟩
  rw [hparse harithmetic]
  simp [t, OperatorTree.expr, OperatorTree.exprAll, hminus, hplain, binaryOperators,
    Operator.ofSymbol]

end SignedDistance
