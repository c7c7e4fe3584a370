import Mathlib
import SignedDistance.Proofs.FixedPlaces
import SignedDistance.Proofs.UnknownOperators

/-!
# Scenes and their records

Writing the record of a scene and reading it back gives the scene again, except that the numbers of
its transforms are now given by their texts (`Scene.respelled`). Constants are what makes this more
than a walk: a record has no place for one but as an operand that may be a literal, and there it has
to be told from the record of a scene.

The compiled scene does not change, unless a negative number was rounded to zero: its text has a
sign, which is lost when the text is read.
-/

namespace SignedDistance

/-! ## The scene that is read back -/

mutual

/-- A scene with the numbers of its transforms given by their texts. -/
def Scene.respelled : Scene → Scene
  | .primitive name args => .primitive name args
  | .constant text => .constant text
  | .annotate note child => .annotate note child.respelled
  | .translate offset child => .translate offset child.respelled
  | .adjust kind _ amount child =>
    .adjust kind (.text amount) (Datum.respelledAmount amount) child.respelled
  | .combine op left right => .combine op left.respelled right.respelled
  | .blend op left right radius => .blend op left.respelled right.respelled radius.respelled
  | .unknown name operands => .unknown name (Datum.respelledOperands operands)

/-- An operand of an unknown operator, which is a scene unless it was put in directly. -/
def Datum.respelled : Datum → Datum
  | .scene s => .scene s.respelled
  | d => d

/-- Several operands. -/
def Datum.respelledOperands : List Datum → List Datum
  | [] => []
  | d :: ds => d.respelled :: Datum.respelledOperands ds

end

theorem respelledOperands_scenes (operands : List Scene) :
    Datum.respelledOperands (operands.map .scene) =
      (operands.map Scene.respelled).map .scene := by
  induction operands with
  | nil => rfl
  | cons s operands ih =>
    rw [List.map_cons, Datum.respelledOperands, ih, Datum.respelled]
    rfl

/-! ## Keywords -/

theorem TransformKind.ofKeyword?_keyword (kind : TransformKind) :
    ofKeyword? kind.keyword = some kind := by
  cases kind with
  | annotate => decide
  | translate => decide
  | adjust a => cases a <;> decide

theorem TransformKind.isPrimitiveName_keyword (kind : TransformKind) :
    isPrimitiveName kind.keyword = false ∧ kind.keyword ≠ "" := by
  cases kind with
  | annotate => decide
  | translate => decide
  | adjust a => cases a <;> decide

theorem CombinationKind.ofKeyword?_keyword (kind : CombinationKind) :
    ofKeyword? kind.keyword = some kind ∧ TransformKind.ofKeyword? kind.keyword = none := by
  obtain ⟨op, smooth⟩ := kind
  cases op <;> cases smooth <;> decide

theorem CombinationKind.isPrimitiveName_keyword (kind : CombinationKind) :
    isPrimitiveName kind.keyword = false ∧ kind.keyword ≠ "" := by
  obtain ⟨op, smooth⟩ := kind
  cases op <;> cases smooth <;> decide

namespace Datum

theorem read_transform (kind : TransformKind) (args : List Datum) (path : Path) :
    (ofCall kind.keyword args).read path = readTransform kind args path := by
  obtain ⟨hname, hne⟩ := kind.isPrimitiveName_keyword
  rw [read_ofCall hne, hname, kind.ofKeyword?_keyword]
  rfl

theorem read_combination (kind : CombinationKind) (args : List Datum) (path : Path) :
    (ofCall kind.keyword args).read path = readCombination kind args path := by
  obtain ⟨hname, hne⟩ := kind.isPrimitiveName_keyword
  obtain ⟨hkind, htransform⟩ := kind.ofKeyword?_keyword
  rw [read_ofCall hne, hname, htransform, hkind]
  rfl

theorem read_primitive {name : String} (hname : isPrimitiveName name = true) (args : List Datum)
    (path : Path) : (ofCall name args).read path =
      (do return .primitive name (← literals path (.argument name) 0 args)) := by
  have hne : name ≠ "" := by
    rintro rfl
    cases hname
  rw [read_ofCall hne, if_pos hname]

theorem read_unknown {name : String} (hname : IsUnknownName name) (args : List Datum)
    (path : Path) : (ofCall name args).read path =
      (do return .unknown name (← readOperands (.argument name) path 0 args)) := by
  rw [read_ofCall hname.ne_empty, hname.not_primitive, hname.not_transform, hname.not_combination]
  rfl

theorem literals_texts (path : Path) (role : LiteralRole) (i : Nat) (texts : List String) :
    literals path role i (texts.map .text) = .ok (texts.map .text) := by
  induction texts generalizing i with
  | nil => rfl
  | cons text texts ih =>
    rw [List.map_cons, literals, ih]
    rfl

end Datum

/-! ## Writing and reading -/

/-- What stands for a scene in a place where a literal may stand. -/
def Scene.toOperand : Scene → Except SceneError Datum
  | .constant text => .ok (.text text)
  | s => s.toRecord

theorem Scene.toRecord_blend (op : Combination) (left right radius : Scene) :
    (Scene.blend op left right radius).toRecord = do
      let l ← left.toRecord
      let r ← right.toRecord
      let k ← radius.toOperand
      return Datum.ofCall (CombinationKind.keyword ⟨op, true⟩) [l, r, k] := by
  cases radius with
  | constant text =>
    rw [Scene.toRecord]
    rfl
  | _ =>
    rw [Scene.toRecord]
    · rfl
    · simp

/-- The record of a scene is read back as the respelled scene. -/
def Scene.ReadsBack (s : Scene) : Prop :=
  ∃ op args, s.toRecord = .ok (Datum.ofCall op args) ∧
    ∀ path, (Datum.ofCall op args).read path = .ok s.respelled

/-- What stands for a scene as an operand is read back as the respelled scene. -/
def Scene.OperandReadsBack (s : Scene) : Prop :=
  ∃ d, s.toOperand = .ok d ∧ ∀ role path, d.readOperand role path = .ok s.respelled

theorem Scene.ReadsBack.operand {s : Scene} (h : s.ReadsBack) : s.OperandReadsBack := by
  obtain ⟨op, args, hwrite, hread⟩ := h
  refine ⟨Datum.ofCall op args, ?_, fun role path => ?_⟩
  · cases s with
    | constant text => cases hwrite
    | _ => exact hwrite
  · rw [Datum.readOperand_ofCall, hread]

theorem Scene.operandReadsBack_constant (text : String) : (constant text).OperandReadsBack := by
  refine ⟨.text text, rfl, fun role path => ?_⟩
  rw [Datum.readOperand]
  · rfl
  · simp
  · simp

/-- The operands of an unknown operator are written one by one. -/
theorem operandsReadBack {operands : List Scene} (h : ∀ s ∈ operands, s.OperandReadsBack) :
    ∃ ds, Datum.toOperands (operands.map .scene) = .ok ds ∧
      ∀ role path i, Datum.readOperands role path i ds =
        .ok ((operands.map Scene.respelled).map .scene) := by
  induction operands with
  | nil =>
    refine ⟨[], rfl, fun role path i => ?_⟩
    rw [Datum.readOperands]
    rfl
  | cons s operands ih =>
    obtain ⟨ds, hwrite, hread⟩ := ih fun s hs => h s (by simp [hs])
    obtain ⟨d, hd, hreadd⟩ := h s (by simp)
    refine ⟨d :: ds, ?_, fun role path i => ?_⟩
    · cases s with
      | constant text =>
        cases hd
        rw [List.map_cons, Datum.toOperands, hwrite]
        rfl
      | _ =>
        have hrecord := hd
        rw [Scene.toOperand] at hrecord
        · rw [List.map_cons, Datum.toOperands, hrecord, hwrite]
          · rfl
          · simp
        · simp
    · rw [Datum.readOperands, hreadd, ok_bind, hread, ok_bind]
      rfl

/-- A scene that a record stands for has a record, from which it is read back. -/
theorem Scene.FitsRecord.readsBack {s : Scene} {operand : Bool} (h : s.FitsRecord operand) :
    (operand = false → s.ReadsBack) ∧ s.OperandReadsBack := by
  have hnode : ∀ {s : Scene}, s.ReadsBack → ∀ operand : Bool,
      (operand = false → s.ReadsBack) ∧ s.OperandReadsBack :=
    fun hs _ => ⟨fun _ => hs, hs.operand⟩
  induction h with
  | constant text => exact ⟨by simp, operandReadsBack_constant text⟩
  | @primitive name hname args operand =>
    refine hnode ⟨name, args.map .text, rfl, fun path => ?_⟩ operand
    rw [Datum.read_primitive hname, Datum.literals_texts]
    rfl
  | @annotate note child h operand ih =>
    obtain ⟨op, args, hwrite, hread⟩ := ih.1 rfl
    refine hnode ⟨TransformKind.annotate.keyword, [note, .ofCall op args], ?_, fun path => ?_⟩
      operand
    · rw [Scene.toRecord, hwrite]
      rfl
    · rw [Datum.read_transform, Datum.readTransform, hread]
      rfl
  | @translate offset child h operand ih =>
    obtain ⟨op, args, hwrite, hread⟩ := ih.1 rfl
    refine hnode ⟨TransformKind.translate.keyword, [.text offset, .ofCall op args], ?_,
      fun path => ?_⟩ operand
    · rw [Scene.toRecord, hwrite]
      rfl
    · rw [Datum.read_transform, Datum.readTransform, Datum.literal, ok_bind, hread]
      rfl
  | @adjust kind written amount child hamount h operand ih =>
    obtain ⟨op, args, hwrite, hread⟩ := ih.1 rfl
    obtain ⟨hnumeric, htext⟩ := Datum.scalarText_text hamount
    refine hnode ⟨(TransformKind.adjust kind).keyword, [.text amount, .ofCall op args], ?_,
      fun path => ?_⟩ operand
    · rw [Scene.toRecord, hwrite]
      rfl
    · rw [Datum.read_transform, Datum.readTransform, hread, ok_bind, ofAdjustment, hnumeric, htext]
      rfl
  | @combine op left right hl hr operand ihl ihr =>
    obtain ⟨opl, argsl, hwritel, hreadl⟩ := ihl.1 rfl
    obtain ⟨opr, argsr, hwriter, hreadr⟩ := ihr.1 rfl
    refine hnode ⟨CombinationKind.keyword ⟨op, false⟩, [.ofCall opl argsl, .ofCall opr argsr], ?_,
      fun path => ?_⟩ operand
    · rw [Scene.toRecord, hwritel, hwriter]
      rfl
    · rw [Datum.read_combination, Datum.readCombination, if_neg (by simp)]
      dsimp only
      rw [hreadl, ok_bind, hreadr]
      rfl
  | @blend op left right radius hl hr hk operand ihl ihr ihk =>
    obtain ⟨opl, argsl, hwritel, hreadl⟩ := ihl.1 rfl
    obtain ⟨opr, argsr, hwriter, hreadr⟩ := ihr.1 rfl
    obtain ⟨k, hwritek, hreadk⟩ := ihk.2
    refine hnode ⟨CombinationKind.keyword ⟨op, true⟩, [.ofCall opl argsl, .ofCall opr argsr, k], ?_,
      fun path => ?_⟩ operand
    · rw [toRecord_blend, hwritel, ok_bind, hwriter, ok_bind, hwritek]
      rfl
    · rw [Datum.read_combination, Datum.readCombination, if_pos rfl]
      dsimp only
      rw [hreadl, ok_bind, hreadr, ok_bind, hreadk]
      rfl
  | @unknown name hname operands h operand ih =>
    obtain ⟨ds, hwrite, hread⟩ := operandsReadBack fun s hs => (ih s hs).2
    refine hnode ⟨name, ds, ?_, fun path => ?_⟩ operand
    · rw [Scene.toRecord, hwrite]
      rfl
    · rw [Datum.read_unknown hname, hread, Scene.respelled, respelledOperands_scenes]
      rfl

/-! ## Compiling the scene that is read back -/

/-- The text of a scene at a coordinate. Compiling it may fail, and so may the rendering. -/
def Scene.textAt (s : Scene) (policy : Policy) (coordinate : String) :
    Except CompileError (Except RenderError String) :=
  (compileScene (.scene s) policy.name).result.1.map (·.apply coordinate)

theorem compileScene_scene (s : Scene) (policy : Policy) :
    compileScene (.scene s) policy.name = s.compile policy [] :=
  compileScene_of_read policy (by rw [Datum.read])

/-- Nothing but an unknown operator keeps a well-formed scene from having a text. -/
theorem Scene.WellFormed.textAt {s : Scene} (h : s.WellFormed) (policy : Policy)
    (coordinate : String) :
    (∃ text, s.textAt policy coordinate = .ok (.ok text)) ∨
      ∃ name, s.textAt policy coordinate = .error (.unknownOperator name) ∨
        s.textAt policy coordinate = .ok (.error (.unknownOperator name)) := by
  have hrender : Expr.FailsWith s.firstUnknown? (s.expr.substitute (.lit coordinate)).render := by
    have hfails := Expr.failsWith_render (h.isVoid_eq_false coordinate)
    rwa [Expr.firstPending?_substitute _ rfl, h.firstPending?_expr] at hfails
  have hcompiled : (policy = .fail → s.firstUnknown? = none) →
      s.textAt policy coordinate = .ok (s.expr.substitute (.lit coordinate)).render := by
    intro hpolicy
    obtain ⟨c, hc, hexpr⟩ := h.compile hpolicy []
    have hresult : (s.compile policy []).result.1 = .ok c := hc []
    rw [Scene.textAt, compileScene_scene, hresult, ← hexpr]
    rfl
  cases hfirst : s.firstUnknown? with
  | none =>
    rw [hfirst] at hrender
    obtain ⟨text, htext⟩ := hrender
    exact Or.inl ⟨text, by rw [hcompiled fun _ => hfirst, htext]⟩
  | some name =>
    refine Or.inr ⟨name, ?_⟩
    cases policy with
    | fail =>
      have hresult : (s.compile .fail []).result.1 = .error (.unknownOperator name) :=
        h.compile_fail hfirst [] []
      left
      rw [Scene.textAt, compileScene_scene, hresult]
      rfl
    | defer =>
      rw [hfirst] at hrender
      right
      rw [hcompiled (by simp)]
      exact congrArg Except.ok hrender

theorem mem_walkOperands_scenes {d : Datum} {operands : List Scene} :
    d ∈ Datum.walkOperands (operands.map .scene) ↔ ∃ s ∈ operands, d ∈ s.walk := by
  induction operands with
  | nil => simp [Datum.walkOperands]
  | cons s operands ih => simp [Datum.walkOperands, Datum.walk, ih]

/-- The amounts of a well-formed scene are the texts of the numbers that were given. -/
theorem Scene.WellFormed.scalarText_of_mem_walk {s : Scene} (h : s.WellFormed) {kind : Adjustment}
    {written : Datum} {amount : String} {child : Scene}
    (hmem : Datum.scene (.adjust kind written amount child) ∈ s.walk) :
    written.scalarText = .ok amount := by
  induction h with
  | primitive name args => simp [Scene.walk] at hmem
  | constant text => simp [Scene.walk] at hmem
  | annotate note h ih => exact ih (by simpa [Scene.walk] using hmem)
  | translate offset h ih => exact ih (by simpa [Scene.walk] using hmem)
  | adjust kind' hamount h ih =>
    rw [Scene.walk, List.mem_cons] at hmem
    rcases hmem with heq | hmem
    · cases heq
      exact hamount
    · exact ih hmem
  | combine op hl hr ihl ihr =>
    rcases (by simpa [Scene.walk] using hmem : _ ∨ _) with hmem | hmem
    · exact ihl hmem
    · exact ihr hmem
  | blend op hl hr hk ihl ihr ihk =>
    rcases (by simpa [Scene.walk] using hmem : _ ∨ _ ∨ _) with hmem | hmem | hmem
    · exact ihl hmem
    · exact ihr hmem
    · exact ihk hmem
  | unknown name h ih =>
    rw [Scene.walk, List.mem_cons, mem_walkOperands_scenes] at hmem
    rcases hmem with heq | ⟨s, hs, hmem⟩
    · cases heq
    · exact ih s hs hmem

/-- No amount of the scene is a zero with a sign. -/
def Scene.KeepsSigns (s : Scene) : Prop :=
  ∀ kind written child, Datum.scene (.adjust kind written Datum.negativeZero child) ∉ s.walk

theorem Scene.KeepsSigns.of_subset {s child : Scene} (h : s.KeepsSigns)
    (hsub : ∀ d ∈ child.walk, d ∈ s.walk) : child.KeepsSigns :=
  fun kind written grandchild hmem => h kind written grandchild (hsub _ hmem)

theorem compileOperands_respelled {policy : Policy} {operands : List Scene}
    (h : ∀ s ∈ operands, ∀ path, s.respelled.compile policy path = s.compile policy path)
    (path : Path) (i : Nat) :
    Datum.compileOperands policy path i ((operands.map Scene.respelled).map .scene) =
      Datum.compileOperands policy path i (operands.map .scene) := by
  induction operands generalizing i with
  | nil => rfl
  | cons s operands ih =>
    have hrest := ih (fun s hs => h s (by simp [hs])) (i + 1)
    have hfirst := h s (by simp) (path ++ [(i : Int)])
    simp only [List.map_cons, Datum.compileOperands, Datum.compileOperand, hfirst] at hrest ⊢
    rw [hrest]

/-- Compilation looks at the text of an amount only, so the respelled scene compiles to the same,
reports included. -/
theorem Scene.WellFormed.compile_respelled {s : Scene} (h : s.WellFormed) (hsigns : s.KeepsSigns)
    (policy : Policy) (path : Path) :
    s.respelled.compile policy path = s.compile policy path := by
  induction h generalizing path with
  | primitive name args => rfl
  | constant text => rfl
  | annotate note h ih =>
    have hchild := ih (hsigns.of_subset fun d hd => by simp [Scene.walk, hd])
    rw [Scene.respelled, Scene.compile, Scene.compile, hchild]
  | translate offset h ih =>
    have hchild := ih (hsigns.of_subset fun d hd => by simp [Scene.walk, hd])
    rw [Scene.respelled, Scene.compile, Scene.compile, hchild]
  | @adjust kind written amount child hamount h ih =>
    have hchild := ih (hsigns.of_subset fun d hd => by simp [Scene.walk, hd])
    have hamount : Datum.respelledAmount amount = amount := by
      refine if_neg ?_
      rintro rfl
      exact hsigns kind written child (by simp [Scene.walk])
    rw [Scene.respelled, Scene.compile, Scene.compile, hchild, hamount]
  | combine op hl hr ihl ihr =>
    have hleft := ihl (hsigns.of_subset fun d hd => by simp [Scene.walk, hd])
    have hright := ihr (hsigns.of_subset fun d hd => by simp [Scene.walk, hd])
    rw [Scene.respelled, Scene.compile, Scene.compile, hleft, hright]
  | blend op hl hr hk ihl ihr ihk =>
    have hleft := ihl (hsigns.of_subset fun d hd => by simp [Scene.walk, hd])
    have hright := ihr (hsigns.of_subset fun d hd => by simp [Scene.walk, hd])
    have hradius := ihk (hsigns.of_subset fun d hd => by simp [Scene.walk, hd])
    rw [Scene.respelled, Scene.compile, Scene.compile, hleft, hright, hradius]
  | unknown name h ih =>
    have hoperands := compileOperands_respelled fun s hs =>
      ih s hs <| hsigns.of_subset fun d hd => by
        rw [Scene.walk, List.mem_cons, mem_walkOperands_scenes]
        exact Or.inr ⟨s, hs, hd⟩
    rw [Scene.respelled, respelledOperands_scenes, Scene.compile, Scene.compile, hoperands]

/-- Writing a scene that was read from plain data and reading it again succeeds, and changes nothing
but that each number of a transform is now its text with three places. Unless one of these texts is
a zero with a sign, the scene also compiles as before: to the same texts, or to the same unknown
operator. -/
theorem read_toRecord {d : Datum} {s : Scene} (hplain : d.Plain) (hread : d.read [] = .ok s) :
    (∃ record, s.toRecord = .ok record ∧ record.read [] = .ok s.respelled) ∧
    (∀ kind written amount child, Datum.scene (.adjust kind written amount child) ∈ s.walk →
      written.scalarText = .ok amount) ∧
    (s.KeepsSigns → ∀ policy coordinate,
      s.respelled.textAt policy coordinate = s.textAt policy coordinate ∧
      ((∃ text, s.textAt policy coordinate = .ok (.ok text)) ∨
        ∃ name, s.textAt policy coordinate = .error (.unknownOperator name) ∨
          s.textAt policy coordinate = .ok (.error (.unknownOperator name)))) := by
  have hfits := Scene.FitsRecord.of_read hplain hread
  have hwell := hfits.wellFormed
  refine ⟨?_, fun kind written amount child => hwell.scalarText_of_mem_walk, ?_⟩
  · obtain ⟨op, args, hwrite, hback⟩ := hfits.readsBack.1 rfl
    exact ⟨Datum.ofCall op args, hwrite, hback []⟩
  · intro hsigns policy coordinate
    refine ⟨?_, hwell.textAt policy coordinate⟩
    rw [Scene.textAt, Scene.textAt, compileScene_scene, compileScene_scene,
      hwell.compile_respelled hsigns]

/-- A circle turned by a number and blended with an operator that is not known. -/
theorem read_toRecord_turned_circle :
    ∃ s record, (Datum.ofCall "SMUNITE" [.ofCall "ROTATE" [.int 20, .ofCall "circle" [.text "1.0"]],
        .ofCall "KNOT" [.text "k"], .text "0.1"]).read [] = .ok s ∧
      s.toRecord = .ok record ∧
      record.read [] = .ok (.blend .unite
        (.adjust .rotate (.text "20.000") "20.000" (.primitive "circle" [.text "1.0"]))
        (.unknown "KNOT" [.scene (.constant "k")]) (.constant "0.1")) ∧
      ∀ policy coordinate, s.respelled.textAt policy coordinate = s.textAt policy coordinate := by
  have hcircle : (Datum.ofCall "circle" [.text "1.0"]).Plain := .ofCall (by simp [Datum.Plain.text])
  have hturned : (Datum.ofCall "ROTATE" [.int 20, .ofCall "circle" [.text "1.0"]]).Plain :=
    .ofCall (by simp [Datum.Plain.int, hcircle])
  have hknot : (Datum.ofCall "KNOT" [.text "k"]).Plain := .ofCall (by simp [Datum.Plain.text])
  have hplain : (Datum.ofCall "SMUNITE" [.ofCall "ROTATE" [.int 20, .ofCall "circle" [.text "1.0"]],
      .ofCall "KNOT" [.text "k"], .text "0.1"]).Plain :=
    .ofCall (by simp [Datum.Plain.text, hturned, hknot])
  have hnumeric : (Datum.int 20).isNumeric = .ok true := eq_ok_of_toOption (by decide +kernel)
  have hamount : (Datum.int 20).scalarText = .ok "20.000" := eq_ok_of_toOption (by decide +kernel)
  have hread : (Datum.ofCall "SMUNITE" [.ofCall "ROTATE" [.int 20, .ofCall "circle" [.text "1.0"]],
      .ofCall "KNOT" [.text "k"], .text "0.1"]).read [] = .ok (.blend .unite
        (.adjust .rotate (.int 20) "20.000" (.primitive "circle" [.text "1.0"]))
        (.unknown "KNOT" [.scene (.constant "k")]) (.constant "0.1")) := by
    simp +decide [Datum.read_ofCall, Datum.readTransform, Datum.readCombination, Datum.readOperands,
      Datum.readOperand, Datum.literals, Datum.literal, Scene.ofAdjustment, hnumeric, hamount,
      TransformKind.ofKeyword?, TransformKind.all, TransformKind.keyword, Adjustment.keyword,
      CombinationKind.ofKeyword?, CombinationKind.all, CombinationKind.keyword]
  obtain ⟨⟨record, hwrite, hback⟩, -, htexts⟩ := read_toRecord hplain hread
  refine ⟨_, record, hread, hwrite, hback, fun policy coordinate => (htexts ?_ policy coordinate).1⟩
  intro kind written child
  simp +decide [Scene.walk, Datum.walkOperands, Datum.walk]

end SignedDistance
