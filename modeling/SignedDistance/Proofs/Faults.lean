import Mathlib
import SignedDistance.Proofs.Records
import SignedDistance.Proofs.ShownValues

/-!
# Where reading fails

A record has places: that of its own, and those of the arguments of its well-formed nodes, each with
something that has to stand there. Reading visits the places from left to right, except that the
number of a transform comes after the child, and stops at the first one with a fault. So it succeeds
exactly if there is no fault, and its error has the path and the defect of the first one
(`Place.reports`).

Two kinds of errors have no path: that an integer is beyond the largest double, and that the value
at fault has an integer with too many digits to be shown.
-/

namespace SignedDistance

/-! ## Places and their faults -/

/-- What has to stand in a place of a record. -/
inductive Place where
  /-- A record of a scene. -/
  | node
  /-- A text or a finite number. -/
  | literal (role : LiteralRole)
  /-- The number of a transform. -/
  | parameter (kind : Adjustment)
  /-- Anything. -/
  | remark

/-- The place of an operand that may also be a literal. -/
def Place.operand (role : LiteralRole) : Datum → Place
  | .record _ => .node
  | .scene _ => .node
  | _ => .literal role

def TransformKind.parameterPlace : TransformKind → Place
  | .annotate => .remark
  | .translate => .literal .offset
  | .adjust kind => .parameter kind

def CombinationKind.operandCount (kind : CombinationKind) : Nat :=
  if kind.smooth then 3 else 2

/-- The place of an argument of an operator, which has the given index. -/
def Place.ofArgument (op : String) (i : Nat) (arg : Datum) : Place :=
  if isPrimitiveName op then .literal (.argument op)
  else
    match TransformKind.ofKeyword? op with
    | some kind => if i = 0 then kind.parameterPlace else .node
    | none =>
      match CombinationKind.ofKeyword? op with
      | some _ => if i < 2 then .node else .operand (.radius op) arg
      | none => .operand (.argument op) arg

/-- The fields of a record give an operator and its arguments. -/
structure GivesCall (fields : List (String × Datum)) (op : String) (args : List Datum) : Prop where
  operator : fields.lookup "op" = some (.text op)
  ne_empty : op ≠ ""
  arguments : fields.lookup "args" = some (.list args)

/-- What is wrong with a value as a node, whatever its arguments are. -/
inductive NodeDefect : Datum → Defect → Prop where
  | notRecord {d : Datum} (hrecord : ∀ fields, d ≠ .record fields) (hscene : ∀ s, d ≠ .scene s) :
      NodeDefect d (.notRecord d)
  | noOperator {fields : List (String × Datum)} (h : fields.lookup "op" = none) :
      NodeDefect (.record fields) (.badOperator .null)
  | operatorNotText {fields : List (String × Datum)} {got : Datum}
      (h : fields.lookup "op" = some got) (htext : ∀ op, got ≠ .text op) :
      NodeDefect (.record fields) (.badOperator got)
  | operatorEmpty {fields : List (String × Datum)} (h : fields.lookup "op" = some (.text "")) :
      NodeDefect (.record fields) (.badOperator (.text ""))
  | noArguments {fields : List (String × Datum)} {op : String}
      (hop : fields.lookup "op" = some (.text op)) (hne : op ≠ "")
      (h : fields.lookup "args" = none) : NodeDefect (.record fields) (.noArguments op)
  | argumentsNotList {fields : List (String × Datum)} {op : String} {got : Datum}
      (hop : fields.lookup "op" = some (.text op)) (hne : op ≠ "")
      (h : fields.lookup "args" = some got) (hlist : ∀ args, got ≠ .list args) :
      NodeDefect (.record fields) (.argumentsNotList op)
  | transformArity (kind : TransformKind) {fields : List (String × Datum)} {args : List Datum}
      (h : GivesCall fields kind.keyword args) (hcount : args.length ≠ 2) :
      NodeDefect (.record fields) (.transformArity kind.keyword args.length)
  | operandCount (kind : CombinationKind) {fields : List (String × Datum)} {args : List Datum}
      (h : GivesCall fields kind.keyword args) (hcount : args.length ≠ kind.operandCount) :
      NodeDefect (.record fields)
        (.operandCount kind.keyword kind.operandCount args.length)

/-- A text or a finite number, which a truth value is not. -/
def Datum.IsLiteral : Datum → Prop
  | .text _ => True
  | .int _ => True
  | .float x => x.isFinite = true
  | _ => False

/-- Why reading stops at a place. -/
inductive Fault where
  /-- Something else has to stand there. -/
  | defect (found : Defect)
  /-- An integer is beyond the largest double. -/
  | tooLarge

/-- The error for a fault at a path. -/
def Fault.error (path : Path) : Fault → SceneError
  | defect found => found.errorAt path
  | tooLarge => .number .tooLarge

/-- A value is at fault in a place. -/
inductive Place.Faulty : Place → Datum → Fault → Prop where
  | node {d : Datum} {defect : Defect} (h : NodeDefect d defect) : Faulty .node d (.defect defect)
  | literal (role : LiteralRole) {d : Datum} (h : ¬ d.IsLiteral) :
      Faulty (.literal role) d (.defect (.badLiteral role d))
  | parameter (kind : Adjustment) {d : Datum} (h : d.isNumeric = .ok false) :
      Faulty (.parameter kind) d (.defect (.notNumeric (.adjust kind) d))
  | largeLiteral (role : LiteralRole) {n : Int} (h : Double.ofInt? n = none) :
      Faulty (.literal role) (.int n) .tooLarge
  | largeParameter (kind : Adjustment) {n : Int} (h : Double.ofInt? n = none) :
      Faulty (.parameter kind) (.int n) .tooLarge

/-- A value in a place has, at the end of a path of argument indices, another value in a place of
its own. The path goes through well-formed nodes only. -/
inductive Place.Leads : Place → Datum → List Nat → Place → Datum → Prop where
  | here (place : Place) (d : Datum) : Leads place d [] place d
  | argument {fields : List (String × Datum)} {op : String} {args : List Datum} {i : Nat}
      {arg : Datum} {path : List Nat} {place : Place} {d : Datum} (hcall : GivesCall fields op args)
      (hwell : ∀ defect, ¬ NodeDefect (.record fields) defect) (harg : args[i]? = some arg)
      (h : Leads (.ofArgument op i arg) arg path place d) :
      Leads .node (.record fields) (i :: path) place d

/-- A value in a place has a fault at a path. -/
def FaultAt (place : Place) (d : Datum) (path : List Nat) (fault : Fault) : Prop :=
  ∃ place' d', place.Leads d path place' d' ∧ place'.Faulty d' fault

/-- Whether the operator is a transform by a number, whose child is visited first. -/
def isChildFirst (op : String) : Bool :=
  (TransformKind.ofKeyword? op).any TransformKind.scalar

/-- Arguments are visited from left to right, but the number of a transform after the child. -/
def VisitedEarlier (op : String) (i j : Nat) : Prop :=
  if isChildFirst op then j < i else i < j

/-- Of two paths from a value, the first one is visited before the second one. -/
inductive VisitedBefore : Datum → List Nat → List Nat → Prop where
  /-- A node is visited before its arguments. -/
  | node (d : Datum) (i : Nat) (path : List Nat) : VisitedBefore d [] (i :: path)
  | arguments {fields : List (String × Datum)} {op : String} {args : List Datum} {i j : Nat}
      (hcall : GivesCall fields op args) (h : VisitedEarlier op i j) (p q : List Nat) :
      VisitedBefore (.record fields) (i :: p) (j :: q)
  | within {fields : List (String × Datum)} {op : String} {args : List Datum} {i : Nat}
      {arg : Datum} {p q : List Nat} (hcall : GivesCall fields op args) (harg : args[i]? = some arg)
      (h : VisitedBefore arg p q) : VisitedBefore (.record fields) (i :: p) (i :: q)

/-- The fault that is visited first. -/
structure FirstFault (place : Place) (d : Datum) (path : List Nat) (fault : Fault) : Prop where
  faultAt : FaultAt place d path fault
  first : ∀ other fault', FaultAt place d other fault' → other ≠ path → VisitedBefore d path other

/-! ## Keywords and calls -/

theorem TransformKind.keyword_of_ofKeyword? {op : String} {kind : TransformKind}
    (h : ofKeyword? op = some kind) : kind.keyword = op := by
  have hfound := List.find?_some h
  simpa using hfound

theorem CombinationKind.keyword_of_ofKeyword? {op : String} {kind : CombinationKind}
    (h : ofKeyword? op = some kind) : kind.keyword = op := by
  have hfound := List.find?_some h
  simpa using hfound

theorem GivesCall.unique {fields : List (String × Datum)} {op op' : String}
    {args args' : List Datum} (h : GivesCall fields op args) (h' : GivesCall fields op' args') :
    op = op' ∧ args = args' := by
  have hop := h.operator
  have hargs := h.arguments
  rw [h'.operator] at hop
  rw [h'.arguments] at hargs
  cases hop
  cases hargs
  exact ⟨rfl, rfl⟩

theorem GivesCall.operatorAndArgs_eq {fields : List (String × Datum)} {op : String}
    {args : List Datum} (h : GivesCall fields op args) :
    operatorAndArgs fields = .ok (op, args) := by
  rw [operatorAndArgs, h.operator]
  dsimp only
  rw [if_neg h.ne_empty, h.arguments]

theorem GivesCall.read_transform {fields : List (String × Datum)} {kind : TransformKind}
    {args : List Datum} (h : GivesCall fields kind.keyword args) (path : Path) :
    (Datum.record fields).read path = Datum.readTransform kind args path := by
  rw [Datum.read_of_operatorAndArgs h.operatorAndArgs_eq, kind.isPrimitiveName_keyword.1,
    kind.ofKeyword?_keyword]
  rfl

theorem GivesCall.read_combination {fields : List (String × Datum)} {kind : CombinationKind}
    {args : List Datum} (h : GivesCall fields kind.keyword args) (path : Path) :
    (Datum.record fields).read path = Datum.readCombination kind args path := by
  rw [Datum.read_of_operatorAndArgs h.operatorAndArgs_eq, kind.isPrimitiveName_keyword.1,
    kind.ofKeyword?_keyword.1, kind.ofKeyword?_keyword.2]
  rfl

/-- A record either gives a call or has a defect. -/
theorem givesCall_or_nodeDefect (fields : List (String × Datum)) :
    (∃ op args, GivesCall fields op args) ∨ ∃ defect, NodeDefect (.record fields) defect := by
  rcases hop : fields.lookup "op" with _ | got
  · exact Or.inr ⟨_, .noOperator hop⟩
  by_cases htext : ∃ op, got = .text op
  · obtain ⟨op, rfl⟩ := htext
    by_cases hne : op = ""
    · subst hne
      exact Or.inr ⟨_, .operatorEmpty hop⟩
    rcases hargs : fields.lookup "args" with _ | got
    · exact Or.inr ⟨_, .noArguments hop hne hargs⟩
    by_cases hlist : ∃ args, got = .list args
    · obtain ⟨args, rfl⟩ := hlist
      exact Or.inl ⟨op, args, hop, hne, hargs⟩
    · exact Or.inr ⟨_, .argumentsNotList hop hne hargs fun args h => hlist ⟨args, h⟩⟩
  · exact Or.inr ⟨_, .operatorNotText hop fun op h => htext ⟨op, h⟩⟩

/-! ## Failures of reading -/

/-- The error of a computation, if it fails. -/
def failure? {ε α : Type} : Except ε α → Option ε
  | .ok _ => none
  | .error e => some e

theorem failure?_eq_none_iff {ε α : Type} {x : Except ε α} :
    failure? x = none ↔ ∃ a, x = .ok a := by
  cases x <;> simp [failure?]

theorem failure?_eq_some_iff {ε α : Type} {x : Except ε α} {e : ε} :
    failure? x = some e ↔ x = .error e := by
  cases x <;> simp [failure?]

/-- A sequence fails as its first part does, or else as its second part. -/
theorem failure?_bind {ε α β : Type} {first : Except ε α} {next : α → Except ε β} {rest : Option ε}
    (h : ∀ a, failure? (next a) = rest) : failure? (first >>= next) = (failure? first).or rest := by
  cases first with
  | ok a => exact h a
  | error e => rfl

theorem failure?_bind_pure {ε α β : Type} (first : Except ε α) (f : α → β) :
    failure? (do return f (← first)) = failure? first := by
  cases first <;> rfl

/-- How reading fails at a place, if it does. -/
def Place.failure? (place : Place) (d : Datum) (path : Path) : Option SceneError :=
  match place with
  | .node => SignedDistance.failure? (d.read path)
  | .literal role => SignedDistance.failure? (d.literal path role)
  | .parameter kind =>
    match d.isNumeric with
    | .error e => some (.number e)
    | .ok false => some ((Defect.notNumeric (.adjust kind) d).errorAt path)
    | .ok true => none
  | .remark => none

theorem Place.failure?_node (d : Datum) (path : Path) :
    Place.node.failure? d path = SignedDistance.failure? (d.read path) := rfl

theorem Place.failure?_operand (role : LiteralRole) (d : Datum) (path : Path) :
    (Place.operand role d).failure? d path = SignedDistance.failure? (d.readOperand role path) := by
  cases d with
  | record fields => rw [Place.operand, Datum.readOperand, Place.failure?]
  | scene s => rw [Place.operand, Datum.readOperand, Place.failure?, Datum.read]
  | _ => rw [Place.operand, Datum.readOperand, failure?_bind_pure, Place.failure?] <;> simp

/-- The arguments of an operator, with their indices, in the order in which they are visited. -/
def visited (op : String) (args : List Datum) : List (Datum × Nat) :=
  if isChildFirst op then args.zipIdx.reverse else args.zipIdx

/-- How reading fails at the first argument at which it does. -/
def argumentsFailure? (op : String) (args : List Datum) (path : Path) : Option SceneError :=
  (visited op args).findSome? fun arg =>
    (Place.ofArgument op arg.2 arg.1).failure? arg.1 (path ++ [(arg.2 : Int)])

theorem failure?_literals (path : Path) (role : LiteralRole) (i : Nat) (args : List Datum) :
    failure? (Datum.literals path role i args) =
      (args.zipIdx i).findSome? fun arg =>
        failure? (arg.1.literal (path ++ [(arg.2 : Int)]) role) := by
  induction args generalizing i with
  | nil => rfl
  | cons arg args ih =>
    rw [Datum.literals, List.zipIdx_cons, findSome?_cons_eq_or,
      failure?_bind fun _ => failure?_bind_pure _ _, ih]

theorem failure?_readOperands (path : Path) (role : LiteralRole) (i : Nat) (args : List Datum) :
    failure? (Datum.readOperands role path i args) =
      (args.zipIdx i).findSome? fun arg =>
        failure? (arg.1.readOperand role (path ++ [(arg.2 : Int)])) := by
  induction args generalizing i with
  | nil =>
    rw [Datum.readOperands]
    rfl
  | cons arg args ih =>
    rw [Datum.readOperands, List.zipIdx_cons, findSome?_cons_eq_or,
      failure?_bind fun _ => failure?_bind_pure _ _, ih]

/-- Writing a number with three places never fails. -/
theorem Datum.exists_scalarText_of_isNumeric {d : Datum} (h : d.isNumeric = .ok true) :
    ∃ text, d.scalarText = .ok text := by
  unfold isNumeric at h
  split at h
  · next x hx => exact exists_scalarText hx
  · cases h
  · cases h

theorem Place.ofArgument_transform (kind : TransformKind) (i : Nat) (arg : Datum) :
    Place.ofArgument kind.keyword i arg = if i = 0 then kind.parameterPlace else .node := by
  rw [Place.ofArgument, kind.isPrimitiveName_keyword.1, kind.ofKeyword?_keyword]
  rfl

theorem Place.ofArgument_combination (kind : CombinationKind) (i : Nat) (arg : Datum) :
    Place.ofArgument kind.keyword i arg =
      if i < 2 then .node else .operand (.radius kind.keyword) arg := by
  rw [Place.ofArgument, kind.isPrimitiveName_keyword.1, kind.ofKeyword?_keyword.2,
    kind.ofKeyword?_keyword.1]
  rfl

theorem failure?_readTransform (kind : TransformKind) (param child : Datum) (path : Path) :
    failure? (Datum.readTransform kind [param, child] path) =
      argumentsFailure? kind.keyword [param, child] path := by
  rw [argumentsFailure?, visited, isChildFirst, kind.ofKeyword?_keyword]
  simp only [Place.ofArgument_transform]
  cases kind with
  | annotate =>
    rw [Datum.readTransform, failure?_bind_pure]
    simp [findSome?_cons_eq_or, TransformKind.parameterPlace, TransformKind.scalar, Place.failure?]
  | translate =>
    rw [Datum.readTransform, failure?_bind fun _ => failure?_bind_pure _ _]
    simp [findSome?_cons_eq_or, TransformKind.parameterPlace, TransformKind.scalar, Place.failure?]
  | adjust kind =>
    rw [Datum.readTransform]
    -- Writing a number with three places never fails, so only the parameter itself can be refused.
    refine (@failure?_bind _ _ _ _ _ ((Place.parameter kind).failure? param (path ++ [0]))
      fun c => ?_).trans ?_
    · rw [Scene.ofAdjustment, Place.failure?]
      cases hnumeric : param.isNumeric with
      | error e => rfl
      | ok numeric =>
        cases numeric with
        | false =>
          by_cases hshown : (Defect.notNumeric (.adjust kind) param).reason?.isSome = true <;>
            simp [Defect.errorAt, hshown, failure?]
        | true =>
          obtain ⟨amount, hamount⟩ := Datum.exists_scalarText_of_isNumeric hnumeric
          rw [hamount]
          rfl
    · simp [findSome?_cons_eq_or, TransformKind.parameterPlace, TransformKind.scalar,
        Place.failure?]

theorem failure?_readCombination (kind : CombinationKind) {args : List Datum} (path : Path)
    (hcount : args.length = kind.operandCount) :
    failure? (Datum.readCombination kind args path) =
      argumentsFailure? kind.keyword args path := by
  rw [argumentsFailure?, visited, isChildFirst, kind.ofKeyword?_keyword.2]
  simp only [Place.ofArgument_combination]
  by_cases hsmooth : kind.smooth = true
  · rw [CombinationKind.operandCount, if_pos hsmooth] at hcount
    obtain ⟨left, right, radius, rfl⟩ := List.length_eq_three.mp hcount
    rw [Datum.readCombination, if_pos hsmooth,
      failure?_bind fun _ => failure?_bind fun _ => failure?_bind_pure _ _]
    simp [findSome?_cons_eq_or, Place.failure?_operand, Place.failure?_node]
  · rw [CombinationKind.operandCount, if_neg hsmooth] at hcount
    obtain ⟨left, right, rfl⟩ := List.length_eq_two.mp hcount
    rw [Datum.readCombination, if_neg hsmooth, failure?_bind fun _ => failure?_bind_pure _ _]
    simp [findSome?_cons_eq_or, Place.failure?_node]

/-- Reading a well-formed node fails as the first of its arguments does. -/
theorem failure?_read {fields : List (String × Datum)} {op : String} {args : List Datum}
    (hcall : GivesCall fields op args) (hwell : ∀ defect, ¬ NodeDefect (.record fields) defect)
    (path : Path) :
    failure? ((Datum.record fields).read path) = argumentsFailure? op args path := by
  by_cases hname : isPrimitiveName op = true
  · have htransform : TransformKind.ofKeyword? op = none := by
      refine Option.eq_none_iff_forall_ne_some.mpr fun kind hkind => ?_
      rw [← TransformKind.keyword_of_ofKeyword? hkind, kind.isPrimitiveName_keyword.1] at hname
      cases hname
    rw [Datum.read_of_operatorAndArgs hcall.operatorAndArgs_eq, if_pos hname, failure?_bind_pure,
      failure?_literals, argumentsFailure?, visited, isChildFirst, htransform]
    simp only [Place.ofArgument, hname, if_true, Place.failure?]
    rfl
  · cases htransform : TransformKind.ofKeyword? op with
    | some kind =>
      obtain rfl := TransformKind.keyword_of_ofKeyword? htransform
      have hcount : args.length = 2 :=
        not_not.mp fun hcount => hwell _ (.transformArity kind hcall hcount)
      obtain ⟨param, child, rfl⟩ := List.length_eq_two.mp hcount
      rw [hcall.read_transform]
      exact failure?_readTransform kind param child path
    | none =>
      cases hcombination : CombinationKind.ofKeyword? op with
      | some kind =>
        obtain rfl := CombinationKind.keyword_of_ofKeyword? hcombination
        have hcount : args.length = kind.operandCount :=
          not_not.mp fun hcount => hwell _ (.operandCount kind hcall hcount)
        rw [hcall.read_combination]
        exact failure?_readCombination kind path hcount
      | none =>
        rw [Datum.read_of_operatorAndArgs hcall.operatorAndArgs_eq, if_neg hname, htransform,
          hcombination]
        dsimp only
        rw [failure?_bind_pure, failure?_readOperands, argumentsFailure?, visited, isChildFirst,
          htransform]
        simp only [Place.ofArgument, htransform, hcombination, if_neg hname, Place.failure?_operand]
        rfl

/-! ## The first fault -/

theorem Datum.isNumeric_int (n : Int) :
    (Datum.int n).isNumeric = if (Double.ofInt? n).isSome then .ok true else .error .tooLarge := by
  have hfinite : ∀ x, Double.ofInt? n = some x → x.isFinite = true := by
    intro x hx
    simp only [Double.ofInt?] at hx
    split at hx
    · next h =>
      cases hx
      exact h
    · cases hx
  rw [isNumeric, toDouble, toAnyDouble]
  cases hn : Double.ofInt? n with
  | none => rfl
  | some x =>
    dsimp only
    rw [ok_bind, if_pos (hfinite x hn)]
    rfl

theorem Datum.isNumeric_float (x : Double) : (Datum.float x).isNumeric = .ok x.isFinite := by
  rw [isNumeric, toDouble, toAnyDouble, ok_bind]
  cases x.isFinite <;> rfl

theorem NumberError.about_ne_tooLarge (d : Datum) {error : String → NumberError}
    (h : ∀ got, error got ≠ .tooLarge) : about d error ≠ .tooLarge := by
  unfold about
  split
  · exact h _
  · simp

/-- Whether a value is a number is always known, except of an integer beyond the largest double. -/
theorem Datum.isNumeric_eq_error {d : Datum} {e : NumberError} (h : d.isNumeric = .error e) :
    e = .tooLarge ∧ ∃ n, d = .int n ∧ Double.ofInt? n = none := by
  unfold isNumeric at h
  split at h
  · cases h
  · next hdouble =>
    cases h
    refine ⟨rfl, ?_⟩
    unfold toDouble at hdouble
    rcases hany : d.toAnyDouble with e | x
    · rw [hany] at hdouble
      cases hdouble
      unfold toAnyDouble at hany
      split at hany
      · next n =>
        split at hany
        · cases hany
        · next hn => exact ⟨n, rfl, hn⟩
      · cases hany
      · split at hany
        · cases hany
        · exact absurd (Except.error.inj hany) (NumberError.about_ne_tooLarge _ (by simp))
      · exact absurd (Except.error.inj hany) (NumberError.about_ne_tooLarge _ (by simp))
    · rw [hany, ok_bind] at hdouble
      split at hdouble
      · cases hdouble
      · exact absurd (Except.error.inj hdouble) (NumberError.about_ne_tooLarge _ (by simp))
  · cases h

/-- A place is read as its fault says: it has none, or it is the error. -/
def Place.FailsLocally (place : Place) (d : Datum) (path : Path) : Prop :=
  ((∀ fault, ¬ place.Faulty d fault) ∧ place.failure? d path = none) ∨
    ∃ fault, place.Faulty d fault ∧ place.failure? d path = some (fault.error path)

theorem Place.failsLocally_literal (role : LiteralRole) (d : Datum) (path : Path) :
    (Place.literal role).FailsLocally d path := by
  cases d with
  | text s => exact Or.inl ⟨by rintro fault ⟨⟩; simp_all [Datum.IsLiteral], rfl⟩
  | int n =>
    rw [FailsLocally, failure?, Datum.literal, Datum.isNumeric_int]
    cases hn : Double.ofInt? n with
    | none => exact Or.inr ⟨.tooLarge, .largeLiteral role hn, rfl⟩
    | some x =>
      obtain ⟨text, htext⟩ := Datum.exists_scalarText_of_isNumeric
        (show (Datum.int n).isNumeric = .ok true by rw [Datum.isNumeric_int, hn]; rfl)
      refine Or.inl ⟨?_, by rw [htext]; rfl⟩
      rintro fault ⟨⟩ <;> simp_all [Datum.IsLiteral]
  | float x =>
    rw [FailsLocally, failure?, Datum.literal, Datum.isNumeric_float]
    cases hx : x.isFinite with
    | false =>
      exact Or.inr ⟨.defect (.badLiteral role (.float x)),
        .literal role (by simp [Datum.IsLiteral, hx]), rfl⟩
    | true =>
      obtain ⟨text, htext⟩ := Datum.exists_scalarText_of_isNumeric
        (show (Datum.float x).isNumeric = .ok true by rw [Datum.isNumeric_float, hx])
      refine Or.inl ⟨?_, by rw [htext]; rfl⟩
      rintro fault ⟨⟩
      simp_all [Datum.IsLiteral]
  | _ => exact Or.inr ⟨.defect (.badLiteral role _), .literal role (by simp [Datum.IsLiteral]), rfl⟩

theorem Place.failsLocally_parameter (kind : Adjustment) (d : Datum) (path : Path) :
    (Place.parameter kind).FailsLocally d path := by
  rw [FailsLocally, failure?]
  cases hnumeric : d.isNumeric with
  | error e =>
    obtain ⟨rfl, n, rfl, hn⟩ := Datum.isNumeric_eq_error hnumeric
    exact Or.inr ⟨.tooLarge, .largeParameter kind hn, rfl⟩
  | ok numeric =>
    cases numeric with
    | false => exact Or.inr ⟨_, .parameter kind hnumeric, rfl⟩
    | true =>
      refine Or.inl ⟨?_, rfl⟩
      intro fault hfaulty
      cases hfaulty with
      | parameter _ h =>
        rw [hnumeric] at h
        cases h
      | largeParameter _ h =>
        rw [Datum.isNumeric_int, h] at hnumeric
        cases hnumeric

theorem read_of_operatorAndArgs_error {fields : List (String × Datum)} {defect : Defect}
    (h : operatorAndArgs fields = .error defect) (path : Path) :
    (Datum.record fields).read path = .error (defect.errorAt path) := by
  rw [Datum.read]
  split
  · next h' =>
    rw [h] at h'
    cases h'
    rfl
  · next h' =>
    rw [h] at h'
    cases h'

theorem readCombination_of_length_ne {kind : CombinationKind} {args : List Datum}
    (h : args.length ≠ kind.operandCount) (path : Path) :
    Datum.readCombination kind args path =
      .error ((Defect.operandCount kind.keyword kind.operandCount args.length).errorAt path) := by
  unfold Datum.readCombination CombinationKind.operandCount
  unfold CombinationKind.operandCount at h
  by_cases hsmooth : kind.smooth = true
  · rw [if_pos hsmooth] at h ⊢
    split
    · exact absurd rfl h
    · rw [if_pos hsmooth]
  · rw [if_neg hsmooth] at h ⊢
    split
    · exact absurd rfl h
    · rw [if_neg hsmooth]

theorem read_of_nodeDefect {d : Datum} {defect : Defect} (h : NodeDefect d defect) (path : Path) :
    d.read path = .error (defect.errorAt path) := by
  cases h with
  | notRecord hrecord hscene =>
    rw [Datum.read]
    · exact hscene
    · exact hrecord
  | noOperator h => exact read_of_operatorAndArgs_error (by rw [operatorAndArgs, h]) path
  | operatorNotText h htext =>
    refine read_of_operatorAndArgs_error ?_ path
    rw [operatorAndArgs, h]
    split
    · next op heq => exact absurd (Option.some.inj heq) (htext op)
    · next heq =>
      cases heq
      rfl
    · next heq => cases heq
  | operatorEmpty h =>
    refine read_of_operatorAndArgs_error ?_ path
    rw [operatorAndArgs, h]
    rfl
  | noArguments hop hne h =>
    refine read_of_operatorAndArgs_error ?_ path
    rw [operatorAndArgs, hop]
    dsimp only
    rw [if_neg hne, h]
  | argumentsNotList hop hne h hlist =>
    refine read_of_operatorAndArgs_error ?_ path
    rw [operatorAndArgs, hop]
    dsimp only
    rw [if_neg hne, h]
    split
    · next heq => cases heq
    · next args heq => exact absurd (Option.some.inj heq) (hlist args)
    · rfl
  | transformArity kind hcall hcount =>
    rw [hcall.read_transform, Datum.readTransform]
    rintro param child rfl
    exact hcount rfl
  | operandCount kind hcall hcount =>
    rw [hcall.read_combination]
    exact readCombination_of_length_ne hcount path

/-- A fault of the value itself is visited before those below it. -/
theorem FirstFault.of_faulty {place : Place} {d : Datum} {fault : Fault}
    (h : place.Faulty d fault) : FirstFault place d [] fault := by
  refine ⟨⟨place, d, .here place d, h⟩, fun other fault' hother hne => ?_⟩
  cases other with
  | nil => exact absurd rfl hne
  | cons i path => exact .node d i path

/-- Reading a value in a place succeeds if there is no fault, and stops at the first one
otherwise. -/
def Place.Reports (place : Place) (d : Datum) (path : Path) : Prop :=
  (place.failure? d path = none ∧ ∀ p fault, ¬ FaultAt place d p fault) ∨
    ∃ p fault, FirstFault place d p fault ∧
      place.failure? d path = some (fault.error (path ++ p.map Int.ofNat))

/-- In a place without arguments there is nothing but the value itself. -/
theorem Place.FailsLocally.reports {place : Place} {d : Datum} {path : Path}
    (h : place.FailsLocally d path) (hplace : place ≠ .node) : place.Reports d path := by
  rcases h with ⟨hnone, hfailure⟩ | ⟨fault, hfaulty, hfailure⟩
  · refine Or.inl ⟨hfailure, ?_⟩
    rintro p fault ⟨place', d', hleads, hfaulty⟩
    cases hleads with
    | here => exact hnone fault hfaulty
    | argument => exact hplace rfl
  · exact Or.inr ⟨[], fault, .of_faulty hfaulty, by simpa using hfailure⟩

theorem mem_visited {op : String} {args : List Datum} {arg : Datum} {i : Nat} :
    (arg, i) ∈ visited op args ↔ args[i]? = some arg := by
  unfold visited
  split
  · rw [List.mem_reverse, List.mem_zipIdx_iff_getElem?]
  · rw [List.mem_zipIdx_iff_getElem?]

theorem pairwise_visited (op : String) (args : List Datum) :
    (visited op args).Pairwise fun a b => VisitedEarlier op a.2 b.2 := by
  have hzip : args.zipIdx.Pairwise fun a b => a.2 < b.2 := by
    have hrange := List.pairwise_lt_range' (s := 0) (n := args.length) 1 Nat.one_pos
    rw [← List.zipIdx_map_snd, List.pairwise_map] at hrange
    exact hrange
  unfold visited VisitedEarlier
  split
  · exact List.pairwise_reverse.mpr hzip
  · exact hzip

section Arguments

variable {fields : List (String × Datum)} {op : String} {args : List Datum}

/-- The faults of a well-formed node are those of its arguments. -/
theorem faultAt_node_iff (hcall : GivesCall fields op args)
    (hwell : ∀ defect, ¬ NodeDefect (.record fields) defect) {p : List Nat} {fault : Fault} :
    FaultAt .node (.record fields) p fault ↔ ∃ i arg rest, p = i :: rest ∧ args[i]? = some arg ∧
      FaultAt (.ofArgument op i arg) arg rest fault := by
  constructor
  · rintro ⟨place, d, hleads, hfaulty⟩
    cases hleads with
    | here =>
      cases hfaulty with
      | node h => exact absurd h (hwell _)
    | @argument _ op' args' i arg rest _ _ hcall' _ harg h =>
      obtain ⟨rfl, rfl⟩ := hcall.unique hcall'
      exact ⟨i, arg, rest, rfl, harg, place, d, h, hfaulty⟩
  · rintro ⟨i, arg, rest, rfl, harg, place, d, h, hfaulty⟩
    exact ⟨place, d, .argument hcall hwell harg h, hfaulty⟩

/-- If the arguments of a well-formed node report their first faults, so does the node. -/
theorem reports_of_arguments (hcall : GivesCall fields op args)
    (hwell : ∀ defect, ¬ NodeDefect (.record fields) defect)
    (hargs : ∀ i arg, args[i]? = some arg → ∀ path, (Place.ofArgument op i arg).Reports arg path)
    (path : Path) : Place.node.Reports (.record fields) path := by
  have hfailure : Place.node.failure? (.record fields) path = argumentsFailure? op args path :=
    failure?_read hcall hwell path
  rw [Place.Reports, hfailure, argumentsFailure?]
  -- An argument at which reading does not fail has no faults.
  have hsound : ∀ i arg rest fault, args[i]? = some arg →
      (Place.ofArgument op i arg).failure? arg (path ++ [(i : Int)]) = none →
      ¬ FaultAt (.ofArgument op i arg) arg rest fault := by
    intro i arg rest fault harg hnone
    rcases hargs i arg harg (path ++ [(i : Int)]) with ⟨-, hclean⟩ | ⟨p, first, -, hsome⟩
    · exact hclean rest fault
    · rw [hnone] at hsome
      cases hsome
  cases hfirst : (visited op args).findSome? fun arg =>
    (Place.ofArgument op arg.2 arg.1).failure? arg.1 (path ++ [(arg.2 : Int)]) with
  | none =>
    refine Or.inl ⟨rfl, fun p fault hfault => ?_⟩
    obtain ⟨i, arg, rest, rfl, harg, hfault⟩ := (faultAt_node_iff hcall hwell).mp hfault
    have hnone := List.findSome?_eq_none_iff.mp hfirst (arg, i) (mem_visited.mpr harg)
    exact hsound i arg rest fault harg hnone hfault
  | some e =>
    right
    obtain ⟨before, ⟨arg, i⟩, after, horder, he, hbefore⟩ := List.findSome?_eq_some_iff.mp hfirst
    have harg : args[i]? = some arg := mem_visited.mp (by rw [horder]; simp)
    rcases hargs i arg harg (path ++ [(i : Int)]) with ⟨hnone, -⟩ | ⟨p, fault, hfault, hsome⟩
    · rw [hnone] at he
      cases he
    refine ⟨i :: p, fault, ⟨?_, ?_⟩, ?_⟩
    · exact (faultAt_node_iff hcall hwell).mpr ⟨i, arg, p, rfl, harg, hfault.faultAt⟩
    · intro other fault' hother hne
      obtain ⟨j, arg', q, rfl, harg', hother⟩ := (faultAt_node_iff hcall hwell).mp hother
      by_cases hij : j = i
      · subst hij
        obtain rfl : arg' = arg := Option.some.inj (harg'.symm.trans harg)
        exact .within hcall harg (hfault.first q fault' hother fun h => hne (by rw [h]))
      · -- The other argument is not among those visited before, which have no faults.
        have hmem : (arg', j) ∈ before ++ (arg, i) :: after := horder ▸ mem_visited.mpr harg'
        have hpairwise := pairwise_visited op args
        rw [horder, List.pairwise_append, List.pairwise_cons] at hpairwise
        rcases List.mem_append.mp hmem with hmem | hmem
        · exact absurd hother (hsound j arg' q fault' harg' (hbefore _ hmem))
        · rcases List.mem_cons.mp hmem with heq | hmem
          · exact absurd (congrArg Prod.snd heq) hij
          · exact .arguments hcall (hpairwise.2.1.1 _ hmem) p q
    · rw [← he, hsome]
      simp

end Arguments

/-- Reading reports the first fault. The induction is on the size of the value, as arguments are
found inside the fields of their record. -/
theorem Place.reports (place : Place) (d : Datum) (path : Path) : place.Reports d path := by
  cases place with
  | literal role => exact (failsLocally_literal role d path).reports (by simp)
  | parameter kind => exact (failsLocally_parameter kind d path).reports (by simp)
  | remark =>
    refine FailsLocally.reports (Or.inl ⟨fun fault h => ?_, rfl⟩) (by simp)
    cases h
  | node =>
    have hdefect : ∀ defect, NodeDefect d defect → Place.node.Reports d path := by
      intro defect h
      refine Or.inr ⟨[], .defect defect, .of_faulty (.node h), ?_⟩
      rw [failure?_node, read_of_nodeDefect h]
      simp [SignedDistance.failure?, Fault.error]
    cases d with
    | record fields =>
      by_cases hfault : ∃ defect, NodeDefect (.record fields) defect
      · obtain ⟨defect, h⟩ := hfault
        exact hdefect defect h
      · have hwell : ∀ defect, ¬ NodeDefect (.record fields) defect :=
          fun defect h => hfault ⟨defect, h⟩
        rcases givesCall_or_nodeDefect fields with ⟨op, args, hcall⟩ | ⟨defect, h⟩
        · refine reports_of_arguments hcall hwell (fun i arg harg path => ?_) path
          have hsize : sizeOf arg < sizeOf (Datum.record fields) := by
            have hargs := sizeOf_args_lt hcall.operatorAndArgs_eq
            have hmem := List.sizeOf_lt_of_mem (List.mem_of_getElem? harg)
            simp only [Datum.record.sizeOf_spec]
            omega
          exact Place.reports _ arg path
        · exact absurd h (hwell defect)
    | scene s =>
      refine Or.inl ⟨by rw [failure?_node, Datum.read]; rfl, ?_⟩
      rintro p fault ⟨place, d, hleads, hfaulty⟩
      cases hleads with
      | here =>
        cases hfaulty with
        | node h =>
          cases h with
          | notRecord hrecord hscene => exact hscene s rfl
    | _ => exact hdefect _ (.notRecord (by simp) (by simp))
termination_by sizeOf d
decreasing_by exact hsize

/-- The value that a path of argument indices leads to. -/
def Datum.argAt? : Datum → List Nat → Option Datum
  | d, [] => some d
  | .record fields, i :: path =>
    match fields.lookup "args" with
    | some (.list args) =>
      match args[i]? with
      | some arg => arg.argAt? path
      | none => none
    | _ => none
  | _, _ :: _ => none

theorem Place.Leads.argAt? {place place' : Place} {d d' : Datum} {path : List Nat}
    (h : place.Leads d path place' d') : d.argAt? path = some d' := by
  induction h with
  | here place d => rw [Datum.argAt?]
  | argument hcall hwell harg h ih =>
    rw [Datum.argAt?, hcall.arguments]
    dsimp only
    rw [harg]
    exact ih

theorem Datum.exists_hasInteger_of_ofCall {op : String} {args : List Datum} {n : Int}
    (h : (Datum.ofCall op args).HasInteger n) : ∃ arg ∈ args, arg.HasInteger n := by
  cases h with
  | part hmem h =>
    rcases List.mem_pair.mp hmem with rfl | rfl
    · cases h with
      | part hmem h => cases hmem
    · cases h with
      | part hmem h => exact ⟨_, hmem, h⟩

theorem mem_parts_of_lookup {fields : List (String × Datum)} {key : String} {d : Datum}
    (h : fields.lookup key = some d) : d ∈ (Datum.record fields).parts := by
  obtain ⟨front, back, hfields, -⟩ := List.lookup_eq_some_iff.mp h
  simp [Datum.parts, hfields]

theorem Place.Leads.hasInteger {place place' : Place} {d d' : Datum} {path : List Nat} {n : Int}
    (h : place.Leads d path place' d') (hint : d'.HasInteger n) : d.HasInteger n := by
  induction h with
  | here place d => exact hint
  | argument hcall hwell harg h ih =>
    exact .part (mem_parts_of_lookup hcall.arguments) (.part (List.mem_of_getElem? harg) (ih hint))

/-- The value that a defect shows is found where it stands. -/
theorem Place.Faulty.hasInteger {place : Place} {d got : Datum} {defect : Defect} {n : Int}
    (h : place.Faulty d (.defect defect)) (hgot : defect.got? = some got)
    (hint : got.HasInteger n) : d.HasInteger n := by
  cases h with
  | node h =>
    cases h with
    | notRecord =>
      cases hgot
      exact hint
    | noOperator | operatorEmpty =>
      cases hgot
      cases hint with
      | part hmem h => cases hmem
    | operatorNotText hop =>
      cases hgot
      exact .part (mem_parts_of_lookup hop) hint
    | noArguments | argumentsNotList | transformArity | operandCount => cases hgot
  | literal =>
    cases hgot
    exact hint
  | parameter =>
    cases hgot
    exact hint

theorem Place.Faulty.errorAt_eq {place : Place} {d : Datum} {defect : Defect}
    (h : place.Faulty d (.defect defect)) (hsmall : ∀ n, d.HasInteger n → Double.ofInt? n ≠ none)
    (path : Path) : defect.errorAt path = .malformed path defect := by
  refine if_pos (defect.isSome_reason?_iff.mpr fun got hgot => ?_)
  exact Datum.isSome_shown?_of_ofInt? fun n hn => hsmall n (h.hasInteger hgot hn)

/-- Reading a record without integers beyond the largest double succeeds exactly if nothing in it
has a defect. Otherwise the error has the defect that is visited first and the path that leads to
it. -/
theorem read_reports_first_defect {d : Datum}
    (hsmall : ∀ n, d.HasInteger n → Double.ofInt? n ≠ none) :
    ((∃ s, d.read [] = .ok s) ↔ ¬ ∃ path defect, FaultAt .node d path (.defect defect)) ∧
    ((∃ path defect, FaultAt .node d path (.defect defect)) →
      ∃ path defect, d.read [] = .error (.malformed (path.map Int.ofNat) defect) ∧
        (∃ culprit, d.argAt? path = some culprit) ∧ FirstFault .node d path (.defect defect)) := by
  have hdefect : ∀ path fault, FaultAt .node d path fault → ∃ defect, fault = .defect defect := by
    rintro path fault ⟨place, d', hleads, hfaulty⟩
    cases hfaulty with
    | node h => exact ⟨_, rfl⟩
    | literal role h => exact ⟨_, rfl⟩
    | parameter kind h => exact ⟨_, rfl⟩
    | largeLiteral role h => exact absurd h (hsmall _ (hleads.hasInteger .here))
    | largeParameter kind h => exact absurd h (hsmall _ (hleads.hasInteger .here))
  rcases Place.reports .node d [] with ⟨hnone, hclean⟩ | ⟨path, fault, hfirst, hsome⟩
  · have hok : ∃ s, d.read [] = .ok s := failure?_eq_none_iff.mp hnone
    refine ⟨⟨fun _ => ?_, fun _ => hok⟩, ?_⟩
    · rintro ⟨path, defect, hfault⟩
      exact hclean path _ hfault
    · rintro ⟨path, defect, hfault⟩
      exact absurd hfault (hclean path _)
  · obtain ⟨defect, rfl⟩ := hdefect path fault hfirst.faultAt
    obtain ⟨place, d', hleads, hfaulty⟩ := hfirst.faultAt
    have herror : d.read [] = .error (.malformed (path.map Int.ofNat) defect) := by
      rw [← hfaulty.errorAt_eq fun n hn => hsmall n (hleads.hasInteger hn)]
      exact failure?_eq_some_iff.mp hsome
    refine ⟨⟨?_, fun h => absurd ⟨path, defect, hfirst.faultAt⟩ h⟩, fun _ => ?_⟩
    · rintro ⟨s, hread⟩
      rw [herror] at hread
      cases hread
    · exact ⟨path, defect, herror, ⟨d', hleads.argAt?⟩, hfirst⟩

/-- Neither the angle nor the child of this transform will do. The child is reported. -/
theorem read_reports_first_defect_turned :
    (Datum.ofCall "ROTATE" [.text "wide", .ofCall "UNITE" [.int 1]]).read [] =
      .error (.malformed [1] (.operandCount "UNITE" 2 1)) ∧
    FirstFault .node (.ofCall "ROTATE" [.text "wide", .ofCall "UNITE" [.int 1]]) [1]
      (.defect (.operandCount "UNITE" 2 1)) := by
  have hread : (Datum.ofCall "ROTATE" [.text "wide", .ofCall "UNITE" [.int 1]]).read [] =
      .error (.malformed [1] (.operandCount "UNITE" 2 1)) := by
    simp +decide [Datum.read_ofCall, Datum.readTransform, Datum.readCombination,
      TransformKind.ofKeyword?, TransformKind.all, TransformKind.keyword, Adjustment.keyword,
      CombinationKind.ofKeyword?, CombinationKind.all, CombinationKind.keyword, Defect.errorAt]
  have hsmall : ∀ n, (Datum.ofCall "ROTATE" [.text "wide", .ofCall "UNITE" [.int 1]]).HasInteger n →
      Double.ofInt? n ≠ none := by
    intro n h
    obtain ⟨arg, harg, h⟩ := Datum.exists_hasInteger_of_ofCall h
    rcases List.mem_pair.mp harg with rfl | rfl
    · cases h with
      | part hmem h => cases hmem
    obtain ⟨arg, harg, h⟩ := Datum.exists_hasInteger_of_ofCall h
    obtain rfl := List.mem_singleton.mp harg
    cases h with
    | here => decide +kernel
    | part hmem h => cases hmem
  obtain ⟨haccepts, hreports⟩ := read_reports_first_defect hsmall
  have hfault : ∃ path defect, FaultAt .node
      (.ofCall "ROTATE" [.text "wide", .ofCall "UNITE" [.int 1]]) path (.defect defect) := by
    by_contra hclean
    obtain ⟨s, hs⟩ := haccepts.mpr hclean
    rw [hread] at hs
    cases hs
  obtain ⟨path, defect, herror, -, hfirst⟩ := hreports hfault
  rw [hread] at herror
  obtain ⟨hpath, rfl⟩ : [1] = path.map Int.ofNat ∧ _ = defect := by simpa using herror
  obtain rfl : path = [1] :=
    List.map_injective_iff.mpr (fun _ _ => Int.ofNat.inj) (hpath.symm.trans rfl)
  exact ⟨hread, hfirst⟩

/-! ## The outcomes of compilation -/

theorem VisitedBefore.asymm {d : Datum} {p q : List Nat} (h : VisitedBefore d p q) :
    ¬ VisitedBefore d q p := by
  have hearlier : ∀ {op : String} {i j : Nat}, VisitedEarlier op i j → ¬ VisitedEarlier op j i := by
    intro op i j h h'
    unfold VisitedEarlier at h h'
    split at h
    · next hop =>
      rw [if_pos hop] at h'
      omega
    · next hop =>
      rw [if_neg hop] at h'
      omega
  induction h with
  | node d i path => rintro ⟨⟩
  | arguments hcall h p q =>
    intro h'
    cases h' with
    | arguments hcall' h' =>
      obtain ⟨rfl, rfl⟩ := hcall.unique hcall'
      exact hearlier h h'
    | within => exact hearlier h h
  | within hcall harg h ih =>
    intro h'
    cases h' with
    | arguments hcall' h' => exact hearlier h' h'
    | within hcall' harg' h' =>
      obtain ⟨rfl, rfl⟩ := hcall.unique hcall'
      obtain rfl := Option.some.inj (harg.symm.trans harg')
      exact ih h'

theorem Place.Leads.unique {place a b : Place} {d x y : Datum} {path : List Nat}
    (h : place.Leads d path a x) (h' : place.Leads d path b y) : a = b ∧ x = y := by
  induction h with
  | here place d =>
    cases h'
    exact ⟨rfl, rfl⟩
  | argument hcall hwell harg h ih =>
    cases h' with
    | argument hcall' hwell' harg' h' =>
      obtain ⟨rfl, rfl⟩ := hcall.unique hcall'
      obtain rfl := Option.some.inj (harg.symm.trans harg')
      exact ih h'

/-- A fault is the error of reading in its place. -/
theorem Place.Faulty.failure?_eq {place : Place} {d : Datum} {fault : Fault}
    (h : place.Faulty d fault) (path : Path) : place.failure? d path = some (fault.error path) := by
  cases h with
  | node h =>
    rw [failure?_node, read_of_nodeDefect h]
    rfl
  | literal role h =>
    rcases failsLocally_literal role d path with ⟨hnone, -⟩ | ⟨fault, hfaulty, hfailure⟩
    · exact absurd (.literal role h) (hnone _)
    · cases hfaulty with
      | literal => exact hfailure
      | largeLiteral => exact absurd trivial h
  | parameter kind h =>
    rw [failure?, h]
    rfl
  | largeLiteral role h =>
    rw [failure?, Datum.literal, Datum.isNumeric_int, h]
    rfl
  | largeParameter kind h =>
    rw [failure?, Datum.isNumeric_int, h]
    rfl

/-- There is one first fault, as far as the error tells. -/
theorem FirstFault.unique {place : Place} {d : Datum} {p q : List Nat} {fault fault' : Fault}
    (h : FirstFault place d p fault) (h' : FirstFault place d q fault') :
    q = p ∧ ∀ path, fault'.error path = fault.error path := by
  by_cases hpq : q = p
  · subst hpq
    obtain ⟨a, x, hleads, hfaulty⟩ := h.faultAt
    obtain ⟨b, y, hleads', hfaulty'⟩ := h'.faultAt
    obtain ⟨rfl, rfl⟩ := hleads.unique hleads'
    refine ⟨rfl, fun path => ?_⟩
    exact Option.some.inj ((hfaulty'.failure?_eq path).symm.trans (hfaulty.failure?_eq path))
  · exact absurd (h'.first p _ h.faultAt (Ne.symm hpq)) (h.first q _ h'.faultAt hpq).asymm

/-- Reading fails exactly with the error of the first fault. -/
theorem read_eq_error_iff (d : Datum) (e : SceneError) :
    d.read [] = .error e ↔
      ∃ path fault, FirstFault .node d path fault ∧ fault.error (path.map Int.ofNat) = e := by
  rcases Place.reports .node d [] with ⟨hnone, hclean⟩ | ⟨path, fault, hfirst, hsome⟩
  · obtain ⟨s, hread⟩ := failure?_eq_none_iff.mp hnone
    constructor
    · intro h
      rw [hread] at h
      cases h
    · rintro ⟨path, fault, hfirst, -⟩
      exact absurd hfirst.faultAt (hclean path _)
  · have herror : d.read [] = .error (fault.error (path.map Int.ofNat)) :=
      failure?_eq_some_iff.mp hsome
    rw [herror]
    constructor
    · intro h
      exact ⟨path, fault, hfirst, Except.error.inj h⟩
    · rintro ⟨path', fault', hfirst', rfl⟩
      obtain ⟨rfl, hsame⟩ := hfirst'.unique hfirst
      rw [hsame]

theorem Fault.error_eq_tooLarge_iff {fault : Fault} {path : Path} :
    fault.error path = .number .tooLarge ↔ fault = .tooLarge := by
  cases fault with
  | tooLarge => simp [error]
  | defect found =>
    rw [error, Defect.errorAt]
    split <;> simp

theorem Fault.error_eq_unshown_iff {fault : Fault} {path : Path} :
    fault.error path = .unshown ↔ ∃ defect, fault = .defect defect ∧ defect.reason? = none := by
  cases fault with
  | tooLarge => simp [error]
  | defect found =>
    rw [error, Defect.errorAt]
    split
    · next h =>
      obtain ⟨reason, hreason⟩ := Option.isSome_iff_exists.mp h
      simp [hreason]
    · next h => simpa using h

theorem read_eq_tooLarge_iff (d : Datum) :
    d.read [] = .error (.number .tooLarge) ↔ ∃ path, FirstFault .node d path .tooLarge := by
  simp only [read_eq_error_iff, Fault.error_eq_tooLarge_iff, exists_eq_right]

theorem read_eq_unshown_iff (d : Datum) :
    d.read [] = .error .unshown ↔
      ∃ path defect got n, FirstFault .node d path (.defect defect) ∧ defect.got? = some got ∧
        got.HasInteger n ∧ 10 ^ Numeral.maxIntegerDigits ≤ n.natAbs := by
  simp only [read_eq_error_iff, Fault.error_eq_unshown_iff, Defect.reason?_eq_none_iff]
  constructor
  · rintro ⟨path, fault, hfirst, defect, rfl, got, n, hshows⟩
    exact ⟨path, defect, got, n, hfirst, hshows⟩
  · rintro ⟨path, defect, got, n, hfirst, hshows⟩
    exact ⟨path, _, hfirst, defect, rfl, got, n, hshows⟩

theorem compileScene_of_read_error {d : Datum} {e : SceneError} (policy : Policy)
    (hread : d.read [] = .error e) :
    (compileScene d policy.name).result.1 = .error (.scene e) := by
  have hname : Policy.ofName? policy.name = some policy := by cases policy <;> decide
  rw [compileScene, hname, hread]
  rfl

theorem compileScene_of_read_ok {d : Datum} {s : Scene} (policy : Policy) (hplain : d.Plain)
    (hread : d.read [] = .ok s) :
    (∃ c, (compileScene d policy.name).result.1 = .ok c) ∨
      ∃ name, policy = .fail ∧
        (compileScene d policy.name).result.1 = .error (.unknownOperator name) := by
  by_cases hpolicy : policy = .fail → s.firstUnknown? = none
  · obtain ⟨c, hc, -⟩ := compileScene_eq_ok policy hplain hread hpolicy
    exact Or.inl ⟨c, hc⟩
  · obtain ⟨rfl, hfirst⟩ := Classical.not_imp.mp hpolicy
    obtain ⟨name, hname⟩ := Option.ne_none_iff_exists'.mp hfirst
    exact Or.inr ⟨name, rfl, compileScene_eq_error hplain hread hname⟩

/-- Compiling plain data gives a compiled scene, or fails for the first fault of the record or,
under the policy to fail, for an unknown operator. A defect is reported with the path that leads to
it, with two exceptions: a first fault that is an integer beyond the largest double, and one that
shows a value with an integer of too many digits. -/
theorem compileScene_outcomes {d : Datum} (hplain : d.Plain) (policy : Policy) :
    ((∃ c, (compileScene d policy.name).result.1 = .ok c) ∨
      (∃ path defect, FirstFault .node d path (.defect defect) ∧
        (compileScene d policy.name).result.1 =
          .error (.scene (.malformed (path.map Int.ofNat) defect))) ∨
      (∃ name, policy = .fail ∧
        (compileScene d policy.name).result.1 = .error (.unknownOperator name)) ∨
      (compileScene d policy.name).result.1 = .error (.scene (.number .tooLarge)) ∨
      (compileScene d policy.name).result.1 = .error (.scene .unshown)) ∧
    ((compileScene d policy.name).result.1 = .error (.scene (.number .tooLarge)) ↔
      ∃ path, FirstFault .node d path .tooLarge) ∧
    ((compileScene d policy.name).result.1 = .error (.scene .unshown) ↔
      ∃ path defect got n, FirstFault .node d path (.defect defect) ∧ defect.got? = some got ∧
        got.HasInteger n ∧ 10 ^ Numeral.maxIntegerDigits ≤ n.natAbs) := by
  rw [← read_eq_tooLarge_iff, ← read_eq_unshown_iff]
  cases hread : d.read [] with
  | error e =>
    rw [compileScene_of_read_error policy hread]
    refine ⟨?_, by simp, by simp⟩
    obtain ⟨path, fault, hfirst, rfl⟩ := (read_eq_error_iff d e).mp hread
    cases fault with
    | tooLarge => exact Or.inr (Or.inr (Or.inr (Or.inl rfl)))
    | defect found =>
      by_cases hreason : found.reason?.isSome = true
      · refine Or.inr (Or.inl ⟨path, found, hfirst, ?_⟩)
        rw [Fault.error, Defect.errorAt, if_pos hreason]
      · refine Or.inr (Or.inr (Or.inr (Or.inr ?_)))
        rw [Fault.error, Defect.errorAt, if_neg hreason]
  | ok s =>
    rcases compileScene_of_read_ok policy hplain hread with ⟨c, hc⟩ | ⟨name, hpolicy, hname⟩
    · exact ⟨Or.inl ⟨c, hc⟩, by simp [hc], by simp [hc]⟩
    · exact ⟨Or.inr (Or.inr (Or.inl ⟨name, hpolicy, hname⟩)), by simp [hname], by simp [hname]⟩

/-- A circle turned by an integer beyond the largest double, and an operator that is an integer with
too many digits. -/
theorem compileScene_outcomes_large_integers :
    ((compileScene (.ofCall "ROTATE" [.int (10 ^ 400), .ofCall "circle" [.text "1.0"]])
        Policy.defer.name).result.1 = .error (.scene (.number .tooLarge)) ∧
      ∃ path, FirstFault .node
        (.ofCall "ROTATE" [.int (10 ^ 400), .ofCall "circle" [.text "1.0"]]) path .tooLarge) ∧
    (compileScene (.record [("op", .int (10 ^ Numeral.maxIntegerDigits)), ("args", .list [])])
      Policy.defer.name).result.1 = .error (.scene .unshown) := by
  constructor
  · have hcircle : (Datum.ofCall "circle" [.text "1.0"]).Plain :=
      .ofCall (by simp [Datum.Plain.text])
    have hplain : (Datum.ofCall "ROTATE" [.int (10 ^ 400), .ofCall "circle" [.text "1.0"]]).Plain :=
      .ofCall (List.forall_mem_cons.mpr ⟨.int _, by simpa using hcircle⟩)
    have hlarge : (Double.ofInt? (10 ^ 400)).isSome = false := by decide +kernel
    have hnumeric : (Datum.int (10 ^ 400)).isNumeric = .error .tooLarge := by
      rw [Datum.isNumeric_int, hlarge]
      rfl
    have hread : (Datum.ofCall "ROTATE" [.int (10 ^ 400), .ofCall "circle" [.text "1.0"]]).read [] =
        .error (.number .tooLarge) := by
      generalize (10 ^ 400 : Int) = angle at hnumeric ⊢
      simp +decide [Datum.read_ofCall, Datum.readTransform, Datum.literals, Datum.literal,
        Scene.ofAdjustment, hnumeric, TransformKind.ofKeyword?, TransformKind.all,
        TransformKind.keyword, Adjustment.keyword]
    have hcompile := compileScene_of_read_error .defer hread
    exact ⟨hcompile, (compileScene_outcomes hplain .defer).2.1.mp hcompile⟩
  · have hpower : ∀ k : Nat, 10 ^ k ≤ (10 ^ k : Int).natAbs := fun k => (Int.natAbs_pow 10 k).ge
    have hmany := hpower Numeral.maxIntegerDigits
    generalize (10 ^ Numeral.maxIntegerDigits : Int) = op at hmany ⊢
    have hplain : (Datum.record [("op", .int op), ("args", .list [])]).Plain :=
      .record (by simp [Datum.Plain.int, Datum.Plain.list])
    have hdefect : NodeDefect (.record [("op", .int op), ("args", .list [])])
        (.badOperator (.int op)) := .operatorNotText rfl (by simp)
    exact (compileScene_outcomes hplain .defer).2.2.mpr
      ⟨[], .badOperator (.int op), .int op, op, .of_faulty (.node hdefect), rfl, .here, hmany⟩

end SignedDistance
