import Mathlib
import SignedDistance.Proofs.Faults

/-!
# What compilation depends on

Records that differ only in remarks and in how their numbers are spelled compile to the same. The
canonical form of a record (`Datum.canonical`) has no remarks, and a number is given by the double
it denotes, without the sign of a zero. The canonical form of a record that can be read can be read
too, and its scene has the same expression (`Datum.Plain.keepsExpr`), so two records with one
canonical form have one expression.
-/

namespace SignedDistance

/-! ## Canonical forms -/

/-- A number, or a text that denotes one, as the double that it denotes. -/
def Datum.denoted (d : Datum) : Datum :=
  match d.toDouble with
  | .ok x => .float x.foldZero
  | .error _ => d

/-- The record of an operator, unless it is a remark on another scene. -/
def Datum.withoutRemark (op : String) (args : List Datum) : Datum :=
  if op = TransformKind.annotate.keyword then
    match args with
    | [_, child] => child
    | args => .ofCall op args
  else .ofCall op args

mutual

/-- The canonical form of a value in a place. Texts are kept where a literal may stand, since they
are taken over as they are. Fields other than the operator and the arguments are left out. -/
def Place.canonical (place : Place) (d : Datum) : Datum :=
  match place, d with
  | .node, .record fields =>
    match _h : operatorAndArgs fields with
    | .error _ => .record fields
    | .ok (op, args) =>
      have := sizeOf_args_lt _h
      Datum.withoutRemark op (Place.canonicalArgs op 0 args)
  | .node, d => d
  | .literal _, .text s => .text s
  | .literal _, d => d.denoted
  | .parameter _, d => d.denoted
  | .remark, d => d
termination_by (sizeOf d, 0)

/-- The canonical forms of the arguments of an operator; the first one has the given index. -/
def Place.canonicalArgs (op : String) (i : Nat) (args : List Datum) : List Datum :=
  match args with
  | [] => []
  | arg :: args => (Place.ofArgument op i arg).canonical arg :: Place.canonicalArgs op (i + 1) args
termination_by (sizeOf args, 1)

end

/-- The canonical form of a record of a scene. -/
def Datum.canonical (d : Datum) : Datum :=
  Place.node.canonical d

theorem Place.canonical_node (d : Datum) : Place.node.canonical d = d.canonical := rfl

theorem Place.canonical_parameter (kind : Adjustment) (d : Datum) :
    (Place.parameter kind).canonical d = d.denoted := by
  rw [Place.canonical]

theorem Place.canonical_literal (role : LiteralRole) {d : Datum} (h : ∀ s, d ≠ .text s) :
    (Place.literal role).canonical d = d.denoted := by
  rw [Place.canonical]
  exact h

/-! ## Numbers -/

theorem Double.foldZero_foldZero (x : Double) : x.foldZero.foldZero = x.foldZero := by
  unfold foldZero
  split
  · decide
  · rfl

theorem Double.isFinite_foldZero {x : Double} (h : x.isFinite = true) :
    x.foldZero.isFinite = true := by
  obtain ⟨negative, m, e, hview⟩ := exists_view_of_isFinite h
  exact isFinite_of_view (view_foldZero hview)

theorem Datum.toDouble_float {x : Double} (h : x.isFinite = true) :
    (Datum.float x).toDouble = .ok x :=
  toDouble_eq_ok_iff.mpr ⟨rfl, h⟩

/-- The double that a number denotes is written as the number is. -/
theorem Datum.scalarText_denoted {d : Datum} {text : String} (h : d.scalarText = .ok text) :
    ∃ x, d.denoted = .float x ∧ (Datum.float x).isNumeric = .ok true ∧
      (Datum.float x).scalarText = .ok text := by
  obtain ⟨x, decimal, hx, hfixed, htext⟩ := scalarText_eq_ok_iff.mp h
  have hdouble := toDouble_float (Double.isFinite_foldZero (toDouble_eq_ok_iff.mp hx).2)
  refine ⟨x.foldZero, ?_, isNumeric_of_toDouble hdouble, ?_⟩
  · rw [denoted, hx]
  · refine scalarText_eq_ok_iff.mpr ⟨x.foldZero, decimal, hdouble, ?_, htext⟩
    rw [← hfixed]
    unfold Double.fixed
    rw [x.foldZero_foldZero]

theorem Datum.scalarText_of_literal {d : Datum} {path : Path} {role : LiteralRole} {s : String}
    (h : d.literal path role = .ok s) : d = .text s ∨ d.scalarText = .ok s := by
  unfold literal at h
  split at h
  · cases h
    exact Or.inl rfl
  · right
    split at h
    · cases h
    · cases h
    · cases h
    · next hs =>
      cases h
      exact hs
  · right
    split at h
    · cases h
    · cases h
    · cases h
    · next hs =>
      cases h
      exact hs
  · cases h

/-- The canonical form of a literal is the same literal. -/
theorem Place.literal_canonical {d : Datum} {path : Path} {role : LiteralRole} {s : String}
    (h : d.literal path role = .ok s) (role' : LiteralRole) :
    ∀ path role, ((Place.literal role').canonical d).literal path role = .ok s := by
  intro path' role''
  by_cases htext : ∃ t, d = .text t
  · obtain ⟨t, rfl⟩ := htext
    rw [Place.canonical]
    cases h
    rfl
  · have hs : d.scalarText = .ok s := by
      rcases Datum.scalarText_of_literal h with hd | hs
      · exact absurd ⟨s, hd⟩ htext
      · exact hs
    obtain ⟨x, hx, hnumeric, hscalar⟩ := Datum.scalarText_denoted hs
    rw [Place.canonical_literal role' fun t ht => htext ⟨t, ht⟩, hx, Datum.literal, hnumeric,
      hscalar]

/-! ## Reading canonical forms -/

/-- Plain data are taken apart call by call. -/
theorem Datum.Plain.byCalls {p : Datum → Prop}
    (leaf : ∀ d : Datum, (∀ path, ∃ e, d.read path = .error e) → p d)
    (record : ∀ fields, (∀ op args, operatorAndArgs fields = .ok (op, args) → ∀ arg ∈ args, p arg) →
      p (.record fields))
    {d : Datum} (h : d.Plain) : p d := by
  -- The arguments are items of a field, so the statement is about items of lists as well.
  have hboth : p d ∧ ∀ items, d = .list items → ∀ item ∈ items, p item := by
    induction h with
    | list h ih =>
      refine ⟨leaf _ fun path => ⟨_, by rw [read] <;> simp⟩, ?_⟩
      rintro items ⟨⟩ item hitem
      exact (ih item hitem).1
    | @record fields h ih =>
      refine ⟨record fields fun op args hop => ?_, by simp⟩
      obtain ⟨front, back, rfl, -⟩ := List.lookup_eq_some_iff.mp (lookup_of_operatorAndArgs hop).1
      exact (ih ("args", .list args) (by simp)).2 args rfl
    | _ => exact ⟨leaf _ fun path => ⟨_, by rw [read] <;> simp⟩, by simp⟩
  exact hboth.1

/-- If the value can be read, then so can its canonical form, with the same expression. -/
def Datum.KeepsExpr (d : Datum) : Prop :=
  ∀ path s, d.read path = .ok s → ∃ op args s', d.canonical = .ofCall op args ∧
    (∀ path, (Datum.ofCall op args).read path = .ok s') ∧ s'.expr = s.expr

namespace Datum

theorem canonical_record {fields : List (String × Datum)} {op : String} {args : List Datum}
    (h : operatorAndArgs fields = .ok (op, args)) :
    (record fields).canonical = withoutRemark op (Place.canonicalArgs op 0 args) := by
  rw [canonical, Place.canonical]
  split
  · next hargs => simp [h] at hargs
  · next hargs =>
    obtain ⟨rfl, rfl⟩ : op = _ ∧ args = _ := by simpa [h] using hargs
    rfl

theorem canonical_ofCall {op : String} (hop : op ≠ "") (args : List Datum) :
    (ofCall op args).canonical = withoutRemark op (Place.canonicalArgs op 0 args) :=
  canonical_record (by simp [operatorAndArgs, List.lookup, hop])

theorem canonical_call {fields : List (String × Datum)} {op : String} {args : List Datum}
    (h : operatorAndArgs fields = .ok (op, args)) (hop : op ≠ TransformKind.annotate.keyword) :
    (record fields).canonical = .ofCall op (Place.canonicalArgs op 0 args) := by
  rw [canonical_record h]
  exact if_neg hop

theorem literals_canonicalArgs {op : String} (hop : isPrimitiveName op = true) {path : Path}
    {role : LiteralRole} {i : Nat} {args texts : List Datum}
    (h : literals path role i args = .ok texts) :
    ∀ path role j k, literals path role j (Place.canonicalArgs op k args) = .ok texts := by
  intro path' role' j k
  induction args generalizing i j k texts with
  | nil =>
    cases h
    rw [Place.canonicalArgs]
    rfl
  | cons arg args ih =>
    rw [literals] at h
    obtain ⟨s, hs, h⟩ := bind_eq_ok_iff.mp h
    obtain ⟨rest, hrest, h⟩ := bind_eq_ok_iff.mp h
    cases h
    have hplace : Place.ofArgument op k arg = .literal (.argument op) := by
      rw [Place.ofArgument, if_pos hop]
    have hliteral := Place.literal_canonical hs (.argument op) (path' ++ [(j : Int)]) role'
    rw [Place.canonicalArgs, literals, hplace, hliteral, ok_bind, ih hrest]
    rfl

/-- An operand is read as before, whether it is a record or a literal. -/
theorem KeepsExpr.readOperand {d : Datum} (hd : d.KeepsExpr) {role : LiteralRole} {path : Path}
    {s : Scene} (h : d.readOperand role path = .ok s) (role' : LiteralRole) :
    ∃ s', (∀ role path, ((Place.operand role' d).canonical d).readOperand role path = .ok s') ∧
      s'.expr = s.expr := by
  have hliteral : (∀ s, d ≠ .scene s) → (∀ fields, d ≠ .record fields) →
      ∃ s', (∀ role path, ((Place.literal role').canonical d).readOperand role path = .ok s') ∧
        s'.expr = s.expr := by
    intro hscene hrecord
    rw [Datum.readOperand] at h
    · obtain ⟨text, htext, h⟩ := bind_eq_ok_iff.mp h
      cases h
      refine ⟨.constant text, fun role path => ?_, rfl⟩
      have hcanonical := Place.literal_canonical htext role' path role
      rw [Datum.readOperand]
      · rw [hcanonical]
        rfl
      · rintro s hs
        rw [hs] at hcanonical
        cases hcanonical
      · rintro fields hfields
        rw [hfields] at hcanonical
        cases hcanonical
    · exact hscene
    · exact hrecord
  cases d with
  | record fields =>
    rw [Datum.readOperand] at h
    obtain ⟨op, args, s', hcanonical, hread, hexpr⟩ := hd path s h
    refine ⟨s', fun role path => ?_, hexpr⟩
    rw [Place.operand, ← canonical, hcanonical, readOperand_ofCall, hread]
  | scene s' =>
    -- a finished scene has no canonical form
    obtain ⟨op, args, _, hcanonical, -⟩ := hd [] s' (by rw [read])
    rw [canonical, Place.canonical] at hcanonical
    · cases hcanonical
    · simp
  | _ => exact hliteral (by simp) (by simp)

theorem readOperands_canonicalArgs {op : String} (hop : IsUnknownName op) {path : Path}
    {role : LiteralRole} {i : Nat} {args operands : List Datum}
    (hargs : ∀ arg ∈ args, arg.KeepsExpr) (h : readOperands role path i args = .ok operands)
    (k : Nat) :
    ∃ operands', ∀ path role j,
      readOperands role path j (Place.canonicalArgs op k args) = .ok operands' := by
  induction args generalizing i k operands with
  | nil =>
    refine ⟨[], fun path role j => ?_⟩
    rw [Place.canonicalArgs, readOperands]
  | cons arg args ih =>
    rw [readOperands] at h
    obtain ⟨s, hs, h⟩ := bind_eq_ok_iff.mp h
    obtain ⟨rest, hrest, -⟩ := bind_eq_ok_iff.mp h
    obtain ⟨operands', hoperands⟩ := ih (fun arg harg => hargs arg (by simp [harg])) hrest (k + 1)
    obtain ⟨s', hs', -⟩ := (hargs arg (by simp)).readOperand hs (.argument op)
    have hplace : Place.ofArgument op k arg = .operand (.argument op) arg := by
      rw [Place.ofArgument, hop.not_primitive, hop.not_transform, hop.not_combination]
      rfl
    refine ⟨.scene s' :: operands', fun path role j => ?_⟩
    rw [Place.canonicalArgs, readOperands, hplace, hs', ok_bind, hoperands]
    rfl

theorem canonicalArgs_transform (kind : TransformKind) (param child : Datum) :
    Place.canonicalArgs kind.keyword 0 [param, child] =
      [kind.parameterPlace.canonical param, child.canonical] := by
  simp only [Place.canonicalArgs, Place.ofArgument_transform, canonical]
  rfl

theorem scalarText_of_ofAdjustment {kind : Adjustment} {param : Datum} {child s : Scene}
    (h : Scene.ofAdjustment kind param child = .ok s) :
    ∃ amount, param.scalarText = .ok amount ∧ s = .adjust kind param amount child := by
  unfold Scene.ofAdjustment at h
  split at h
  · cases h
  · cases h
  · cases h
  · next amount _ hamount =>
    cases h
    exact ⟨amount, hamount, rfl⟩

theorem keepsExpr_transform {fields : List (String × Datum)} {kind : TransformKind}
    {args : List Datum} (hcall : operatorAndArgs fields = .ok (kind.keyword, args))
    (hargs : ∀ arg ∈ args, arg.KeepsExpr) : (record fields).KeepsExpr := by
  intro path s hread
  rw [read_of_operatorAndArgs hcall, kind.isPrimitiveName_keyword.1, kind.ofKeyword?_keyword]
    at hread
  change readTransform kind args path = .ok s at hread
  unfold readTransform at hread
  split at hread
  · next param child =>
    have hchild : child.KeepsExpr := hargs child (by simp)
    cases kind with
    | annotate =>
      obtain ⟨c, hc, h⟩ := bind_eq_ok_iff.mp hread
      cases h
      rw [canonical_record hcall, canonicalArgs_transform]
      exact hchild _ c hc
    | translate =>
      obtain ⟨offset, hoffset, h⟩ := bind_eq_ok_iff.mp hread
      obtain ⟨c, hc, h⟩ := bind_eq_ok_iff.mp h
      cases h
      obtain ⟨op, args, c', hcanonical, hreads, hexpr⟩ := hchild _ c hc
      refine ⟨_, _, .translate (.text offset) c', canonical_call hcall (by decide),
        fun path => ?_, ?_⟩
      · rw [read_transform, canonicalArgs_transform, readTransform, TransformKind.parameterPlace,
          Place.literal_canonical hoffset, ok_bind, hcanonical, hreads]
        rfl
      · rw [Scene.expr, Scene.expr, hexpr]
    | adjust a =>
      obtain ⟨c, hc, h⟩ := bind_eq_ok_iff.mp hread
      obtain ⟨op, args, c', hcanonical, hreads, hexpr⟩ := hchild _ c hc
      split at h
      · cases h
      · obtain ⟨amount, hamount, rfl⟩ := scalarText_of_ofAdjustment h
        obtain ⟨x, hx, hnumeric, hscalar⟩ := scalarText_denoted hamount
        refine ⟨_, _, .adjust a (.float x) amount c',
          canonical_call hcall (by cases a <;> decide), fun path => ?_, ?_⟩
        · rw [read_transform, canonicalArgs_transform, readTransform, hcanonical, hreads, ok_bind,
            TransformKind.parameterPlace, Place.canonical_parameter, hx, Scene.ofAdjustment,
            hnumeric, hscalar]
        · rw [Scene.expr, Scene.expr, hexpr]
  · cases hread

theorem keepsExpr_combination {fields : List (String × Datum)} {kind : CombinationKind}
    {args : List Datum} (hcall : operatorAndArgs fields = .ok (kind.keyword, args))
    (hargs : ∀ arg ∈ args, arg.KeepsExpr) : (record fields).KeepsExpr := by
  intro path s hread
  have hremark : kind.keyword ≠ TransformKind.annotate.keyword := by
    intro heq
    have htransform := kind.ofKeyword?_keyword.2
    rw [heq, TransformKind.ofKeyword?_keyword] at htransform
    cases htransform
  rw [read_of_operatorAndArgs hcall, kind.isPrimitiveName_keyword.1, kind.ofKeyword?_keyword.1,
    kind.ofKeyword?_keyword.2] at hread
  change readCombination kind args path = .ok s at hread
  unfold readCombination at hread
  split at hread
  · next hsmooth =>
    split at hread
    · next left right radius =>
      obtain ⟨l, hl, h⟩ := bind_eq_ok_iff.mp hread
      obtain ⟨r, hr, h⟩ := bind_eq_ok_iff.mp h
      obtain ⟨k, hk, h⟩ := bind_eq_ok_iff.mp h
      cases h
      obtain ⟨opl, argsl, l', hcanonicall, hreadl, hexprl⟩ := hargs left (by simp) _ l hl
      obtain ⟨opr, argsr, r', hcanonicalr, hreadr, hexprr⟩ := hargs right (by simp) _ r hr
      obtain ⟨k', hreadk, hexprk⟩ :=
        (hargs radius (by simp)).readOperand hk (.radius kind.keyword)
      refine ⟨_, _, .blend kind.op l' r' k', canonical_call hcall hremark, fun path => ?_, ?_⟩
      · have hcanonical : Place.canonicalArgs kind.keyword 0 [left, right, radius] =
            [.ofCall opl argsl, .ofCall opr argsr,
              (Place.operand (.radius kind.keyword) radius).canonical radius] := by
          simp only [Place.canonicalArgs, Place.ofArgument_combination]
          rw [← hcanonicall, ← hcanonicalr]
          rfl
        rw [read_combination, hcanonical, readCombination, if_pos hsmooth, hreadl, ok_bind, hreadr,
          ok_bind, hreadk]
        rfl
      · rw [Scene.expr, Scene.expr, hexprl, hexprr, hexprk]
    · cases hread
  · next hsmooth =>
    split at hread
    · next left right =>
      obtain ⟨l, hl, h⟩ := bind_eq_ok_iff.mp hread
      obtain ⟨r, hr, h⟩ := bind_eq_ok_iff.mp h
      cases h
      obtain ⟨opl, argsl, l', hcanonicall, hreadl, hexprl⟩ := hargs left (by simp) _ l hl
      obtain ⟨opr, argsr, r', hcanonicalr, hreadr, hexprr⟩ := hargs right (by simp) _ r hr
      refine ⟨_, _, .combine kind.op l' r', canonical_call hcall hremark, fun path => ?_, ?_⟩
      · have hcanonical : Place.canonicalArgs kind.keyword 0 [left, right] =
            [.ofCall opl argsl, .ofCall opr argsr] := by
          simp only [Place.canonicalArgs, Place.ofArgument_combination]
          rw [← hcanonicall, ← hcanonicalr]
          rfl
        rw [read_combination, hcanonical, readCombination, if_neg hsmooth, hreadl, ok_bind, hreadr]
        rfl
      · rw [Scene.expr, Scene.expr, hexprl, hexprr]
    · cases hread

theorem keepsExpr_primitive {fields : List (String × Datum)} {op : String} {args : List Datum}
    (hcall : operatorAndArgs fields = .ok (op, args)) (hop : isPrimitiveName op = true) :
    (record fields).KeepsExpr := by
  intro path s hread
  have hremark : op ≠ TransformKind.annotate.keyword := by
    rintro rfl
    simp [TransformKind.isPrimitiveName_keyword] at hop
  rw [read_of_operatorAndArgs hcall, if_pos hop] at hread
  obtain ⟨texts, htexts, h⟩ := bind_eq_ok_iff.mp hread
  cases h
  refine ⟨_, _, .primitive op texts, canonical_call hcall hremark, fun path => ?_, rfl⟩
  rw [read_primitive hop, literals_canonicalArgs hop htexts]
  rfl

theorem keepsExpr_unknown {fields : List (String × Datum)} {op : String} {args : List Datum}
    (hcall : operatorAndArgs fields = .ok (op, args)) (hop : IsUnknownName op)
    (hargs : ∀ arg ∈ args, arg.KeepsExpr) : (record fields).KeepsExpr := by
  intro path s hread
  have hremark : op ≠ TransformKind.annotate.keyword := by
    rintro rfl
    simpa [TransformKind.ofKeyword?_keyword] using hop.not_transform
  rw [read_of_operatorAndArgs hcall, hop.not_primitive, hop.not_transform, hop.not_combination]
    at hread
  obtain ⟨operands, hoperands, h⟩ := bind_eq_ok_iff.mp hread
  cases h
  obtain ⟨operands', hread'⟩ := readOperands_canonicalArgs hop hargs hoperands 0
  refine ⟨_, _, .unknown op operands', canonical_call hcall hremark, fun path => ?_, rfl⟩
  rw [read_unknown hop, hread']
  rfl

/-- Taking the canonical form of plain data changes no expression. -/
theorem Plain.keepsExpr {d : Datum} (h : d.Plain) : d.KeepsExpr := by
  refine h.byCalls (fun d hd path s hread => ?_) fun fields hargs => ?_
  · obtain ⟨e, he⟩ := hd path
    rw [he] at hread
    cases hread
  · intro path s hread
    cases hcall : operatorAndArgs fields with
    | error defect =>
      rw [read_of_operatorAndArgs_error hcall] at hread
      cases hread
    | ok call =>
      obtain ⟨op, args⟩ := call
      have hargs := hargs op args hcall
      by_cases hprimitive : isPrimitiveName op = true
      · exact keepsExpr_primitive hcall hprimitive path s hread
      cases htransform : TransformKind.ofKeyword? op with
      | some kind =>
        rw [← TransformKind.keyword_of_ofKeyword? htransform] at hcall
        exact keepsExpr_transform hcall hargs path s hread
      | none =>
        cases hcombination : CombinationKind.ofKeyword? op with
        | some kind =>
          rw [← CombinationKind.keyword_of_ofKeyword? hcombination] at hcall
          exact keepsExpr_combination hcall hargs path s hread
        | none =>
          have hunknown : IsUnknownName op :=
            ⟨(lookup_of_operatorAndArgs hcall).2, by simpa using hprimitive, htransform,
              hcombination⟩
          exact keepsExpr_unknown hcall hunknown hargs path s hread

end Datum

/-! ## Two records with one canonical form -/

/-- Two records with one canonical form compile to one expression under each policy, so they have
the same text at every coordinate or fail there with the same unknown operator; or both are refused
for the same unknown operator. -/
theorem compileScene_of_canonical_eq {d₁ d₂ : Datum} {s₁ s₂ : Scene} (hplain₁ : d₁.Plain)
    (hplain₂ : d₂.Plain) (hread₁ : d₁.read [] = .ok s₁) (hread₂ : d₂.read [] = .ok s₂)
    (hcanonical : d₁.canonical = d₂.canonical) (policy : Policy) :
    (∃ c₁ c₂, (compileScene d₁ policy.name).result.1 = .ok c₁ ∧
      (compileScene d₂ policy.name).result.1 = .ok c₂ ∧ c₁.expr = c₂.expr ∧
      ∀ coordinate, c₁.apply coordinate = c₂.apply coordinate ∧
        ((∃ text, c₁.apply coordinate = .ok text) ∨
          ∃ name, c₁.apply coordinate = .error (.unknownOperator name))) ∨
    (policy = .fail ∧ ∃ name,
      (compileScene d₁ policy.name).result.1 = .error (.unknownOperator name) ∧
      (compileScene d₂ policy.name).result.1 = .error (.unknownOperator name)) := by
  have hwell₁ := Scene.WellFormed.of_read hplain₁ hread₁
  have hwell₂ := Scene.WellFormed.of_read hplain₂ hread₂
  have hexpr : s₁.expr = s₂.expr := by
    obtain ⟨op₁, args₁, s₁', hcanonical₁, hback₁, hexpr₁⟩ := hplain₁.keepsExpr [] s₁ hread₁
    obtain ⟨op₂, args₂, s₂', hcanonical₂, hback₂, hexpr₂⟩ := hplain₂.keepsExpr [] s₂ hread₂
    have hsame : Datum.ofCall op₁ args₁ = Datum.ofCall op₂ args₂ := by
      rw [← hcanonical₁, ← hcanonical₂, hcanonical]
    have hscenes : s₁' = s₂' := by
      have hback := hback₁ []
      rw [hsame, hback₂ []] at hback
      cases hback
      rfl
    rw [← hexpr₁, ← hexpr₂, hscenes]
  have hfirst : s₁.firstUnknown? = s₂.firstUnknown? := by
    rw [← hwell₁.firstPending?_expr, ← hwell₂.firstPending?_expr, hexpr]
  have hrender : ∀ coordinate : String,
      Expr.FailsWith s₁.firstUnknown? (s₁.expr.substitute (.lit coordinate)).render := by
    intro coordinate
    have hfails := Expr.failsWith_render (hwell₁.isVoid_eq_false coordinate)
    rwa [Expr.firstPending?_substitute _ rfl, hwell₁.firstPending?_expr] at hfails
  by_cases hpolicy : policy = .fail → s₁.firstUnknown? = none
  · left
    obtain ⟨c₁, hc₁, hexpr₁⟩ := compileScene_eq_ok policy hplain₁ hread₁ hpolicy
    obtain ⟨c₂, hc₂, hexpr₂⟩ := compileScene_eq_ok policy hplain₂ hread₂ (hfirst ▸ hpolicy)
    have hsame : c₁.expr = c₂.expr := by rw [hexpr₁, hexpr₂, hexpr]
    refine ⟨c₁, c₂, hc₁, hc₂, hsame, fun coordinate => ⟨?_, ?_⟩⟩
    · rw [Compiled.apply, Compiled.apply, hsame]
    · have hfails := hrender coordinate
      rw [← hexpr₁] at hfails
      cases hname : s₁.firstUnknown? with
      | none =>
        rw [hname] at hfails
        exact Or.inl hfails
      | some name =>
        rw [hname] at hfails
        exact Or.inr ⟨name, hfails⟩
  · right
    rw [Classical.not_imp] at hpolicy
    obtain ⟨rfl, hunknown⟩ := hpolicy
    obtain ⟨name, hname⟩ := Option.ne_none_iff_exists'.mp hunknown
    exact ⟨rfl, name, compileScene_eq_error hplain₁ hread₁ hname,
      compileScene_eq_error hplain₂ hread₂ (hfirst ▸ hname)⟩

/-- A turned circle, and the same with remarks and with its numbers spelled otherwise. -/
theorem compileScene_of_canonical_eq_turned_circle :
    ∃ c₁ c₂,
      (compileScene (.ofCall "ROTATE" [.int 20, .ofCall "circle" [.int 1]]) "defer").result.1 =
        .ok c₁ ∧
      (compileScene (.ofCall "NOOP" [.text "draft", .ofCall "ROTATE" [.text " 2_0.0 ",
        .ofCall "NOOP" [.null, .ofCall "circle" [.float ⟨0x3FF0000000000000⟩]]]])
        "defer").result.1 = .ok c₂ ∧
      c₁.expr = c₂.expr ∧ ∀ coordinate, c₁.apply coordinate = c₂.apply coordinate := by
  have hplain₁ : (Datum.ofCall "ROTATE" [.int 20, .ofCall "circle" [.int 1]]).Plain := by
    have hcircle : (Datum.ofCall "circle" [.int 1]).Plain := .ofCall (by simp [Datum.Plain.int])
    exact .ofCall (by simp [Datum.Plain.int, hcircle])
  have hplain₂ : (Datum.ofCall "NOOP" [.text "draft", .ofCall "ROTATE" [.text " 2_0.0 ",
      .ofCall "NOOP" [.null, .ofCall "circle" [.float ⟨0x3FF0000000000000⟩]]]]).Plain := by
    have hcircle : (Datum.ofCall "circle" [.float ⟨0x3FF0000000000000⟩]).Plain :=
      .ofCall (by simp [Datum.Plain.float])
    have hnoted : (Datum.ofCall "NOOP" [.null,
        .ofCall "circle" [.float ⟨0x3FF0000000000000⟩]]).Plain :=
      .ofCall (by simp [Datum.Plain.null, hcircle])
    have hturned : (Datum.ofCall "ROTATE" [.text " 2_0.0 ", .ofCall "NOOP" [.null,
        .ofCall "circle" [.float ⟨0x3FF0000000000000⟩]]]).Plain :=
      .ofCall (by simp [Datum.Plain.text, hnoted])
    exact .ofCall (by simp [Datum.Plain.text, hturned])
  have hangle₁ : (Datum.int 20).toDouble = .ok ⟨0x4034000000000000⟩ :=
    eq_ok_of_toOption (by decide +kernel)
  have hangle₂ : (Datum.text " 2_0.0 ").toDouble = .ok ⟨0x4034000000000000⟩ :=
    eq_ok_of_toOption (by decide +kernel)
  have hradius₁ : (Datum.int 1).toDouble = .ok ⟨0x3FF0000000000000⟩ :=
    eq_ok_of_toOption (by decide +kernel)
  have hradius₂ : (Datum.float ⟨0x3FF0000000000000⟩).toDouble = .ok ⟨0x3FF0000000000000⟩ :=
    eq_ok_of_toOption (by decide +kernel)
  obtain ⟨t₁, ht₁⟩ := Datum.exists_scalarText hangle₁
  obtain ⟨t₂, ht₂⟩ := Datum.exists_scalarText hangle₂
  obtain ⟨t₃, ht₃⟩ := Datum.exists_scalarText hradius₁
  obtain ⟨t₄, ht₄⟩ := Datum.exists_scalarText hradius₂
  have hread₁ : (Datum.ofCall "ROTATE" [.int 20, .ofCall "circle" [.int 1]]).read [] =
      .ok (.adjust .rotate (.int 20) t₁ (.primitive "circle" [.text t₃])) := by
    simp +decide [Datum.read_ofCall, Datum.readTransform, Datum.literals, Datum.literal,
      Scene.ofAdjustment, Datum.isNumeric_of_toDouble hangle₁, ht₁,
      Datum.isNumeric_of_toDouble hradius₁, ht₃, TransformKind.ofKeyword?, TransformKind.all,
      TransformKind.keyword, Adjustment.keyword]
  have hread₂ : (Datum.ofCall "NOOP" [.text "draft", .ofCall "ROTATE" [.text " 2_0.0 ",
      .ofCall "NOOP" [.null, .ofCall "circle" [.float ⟨0x3FF0000000000000⟩]]]]).read [] =
      .ok (.annotate (.text "draft") (.adjust .rotate (.text " 2_0.0 ") t₂
        (.annotate .null (.primitive "circle" [.text t₄])))) := by
    simp +decide [Datum.read_ofCall, Datum.readTransform, Datum.literals, Datum.literal,
      Scene.ofAdjustment, Datum.isNumeric_of_toDouble hangle₂, ht₂,
      Datum.isNumeric_of_toDouble hradius₂, ht₄, TransformKind.ofKeyword?, TransformKind.all,
      TransformKind.keyword, Adjustment.keyword]
  have hcanonical : (Datum.ofCall "ROTATE" [.int 20, .ofCall "circle" [.int 1]]).canonical =
      (Datum.ofCall "NOOP" [.text "draft", .ofCall "ROTATE" [.text " 2_0.0 ",
        .ofCall "NOOP" [.null, .ofCall "circle" [.float ⟨0x3FF0000000000000⟩]]]]).canonical := by
    simp +decide [Datum.canonical_ofCall, Datum.withoutRemark, Place.canonicalArgs,
      Place.ofArgument, Place.canonical_node, Place.canonical_parameter, Place.canonical_literal,
      Datum.denoted, hangle₁, hangle₂, hradius₁, hradius₂, TransformKind.ofKeyword?,
      TransformKind.all, TransformKind.keyword, Adjustment.keyword, TransformKind.parameterPlace]
  rcases compileScene_of_canonical_eq hplain₁ hplain₂ hread₁ hread₂ hcanonical .defer with
    ⟨c₁, c₂, hc₁, hc₂, hexpr, htexts⟩ | ⟨hpolicy, -⟩
  · exact ⟨c₁, c₂, hc₁, hc₂, hexpr, fun coordinate => (htexts coordinate).1⟩
  · cases hpolicy

end SignedDistance
