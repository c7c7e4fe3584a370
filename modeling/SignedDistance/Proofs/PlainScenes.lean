import Mathlib
import SignedDistance.Scene.Record

/-!
# Scenes of plain records

Plain data hold no finished scenes. A scene that is read from plain data is one that a record can
stand for (`Scene.FitsRecord`): names are those that the reader takes for primitives or for unknown
operators, and constants stand only where an operand may be a literal. In particular it is well
formed: arguments and offsets are texts, amounts are the texts of the numbers that were given, and
the operands of unknown operators are scenes. This is what compilation and evaluation rely on.
-/

namespace SignedDistance

/-! ## Computations that may fail -/

@[simp] theorem ok_bind {ε α β : Type} (a : α) (next : α → Except ε β) :
    (Except.ok a >>= next) = next a := rfl

@[simp] theorem error_bind {ε α β : Type} (e : ε) (next : α → Except ε β) :
    (Except.error e >>= next) = .error e := rfl

theorem eq_ok_of_toOption {ε α : Type} {x : Except ε α} {a : α} (h : x.toOption = some a) :
    x = .ok a := by
  cases x with
  | error e => cases h
  | ok b => exact congrArg Except.ok (Option.some.inj h)

/-- A sequence succeeds if both of its parts do. -/
theorem bind_eq_ok_iff {ε α β : Type} {first : Except ε α} {next : α → Except ε β} {b : β} :
    first >>= next = .ok b ↔ ∃ a, first = .ok a ∧ next a = .ok b := by
  cases first <;> simp

/-! ## Plain data and well-formed scenes -/

/-- Data without finished scenes, as texts of the data format have them. -/
inductive Datum.Plain : Datum → Prop where
  | null : Plain .null
  | bool (b : Bool) : Plain (.bool b)
  | int (n : Int) : Plain (.int n)
  | float (x : Double) : Plain (.float x)
  | text (s : String) : Plain (.text s)
  | list {items : List Datum} (h : ∀ item ∈ items, Plain item) : Plain (.list items)
  | record {fields : List (String × Datum)} (h : ∀ field ∈ fields, Plain field.2) :
      Plain (.record fields)

theorem Datum.Plain.ofCall {op : String} {args : List Datum} (h : ∀ arg ∈ args, arg.Plain) :
    (Datum.ofCall op args).Plain :=
  .record (by simpa using ⟨.text op, .list h⟩)

/-- What holds of every scene that is read from plain data. -/
inductive Scene.WellFormed : Scene → Prop where
  /-- Arguments of primitives are texts. -/
  | primitive (name : String) (args : List String) : WellFormed (.primitive name (args.map .text))
  | constant (text : String) : WellFormed (.constant text)
  | annotate (note : Datum) {child : Scene} (h : WellFormed child) :
      WellFormed (.annotate note child)
  /-- Offsets are texts. -/
  | translate (offset : String) {child : Scene} (h : WellFormed child) :
      WellFormed (.translate (.text offset) child)
  /-- The amount is the text of the number that was given. -/
  | adjust (kind : Adjustment) {written : Datum} {amount : String} {child : Scene}
      (hamount : written.scalarText = .ok amount) (h : WellFormed child) :
      WellFormed (.adjust kind written amount child)
  | combine (op : Combination) {left right : Scene} (hl : WellFormed left)
      (hr : WellFormed right) : WellFormed (.combine op left right)
  | blend (op : Combination) {left right radius : Scene} (hl : WellFormed left)
      (hr : WellFormed right) (hk : WellFormed radius) : WellFormed (.blend op left right radius)
  /-- Operands are scenes. -/
  | unknown (name : String) {operands : List Scene} (h : ∀ s ∈ operands, WellFormed s) :
      WellFormed (.unknown name (operands.map .scene))

/-- A name that is neither that of a primitive nor a keyword. -/
structure IsUnknownName (name : String) : Prop where
  ne_empty : name ≠ ""
  not_primitive : isPrimitiveName name = false
  not_transform : TransformKind.ofKeyword? name = none
  not_combination : CombinationKind.ofKeyword? name = none

/-- The scenes that records stand for. The flag says that a literal may stand in the same place, so
that the scene may also be a constant. -/
inductive Scene.FitsRecord : Scene → Bool → Prop where
  | constant (text : String) : FitsRecord (.constant text) true
  | primitive {name : String} (hname : isPrimitiveName name = true) (args : List String)
      (operand : Bool) : FitsRecord (.primitive name (args.map .text)) operand
  | annotate (note : Datum) {child : Scene} (h : FitsRecord child false) (operand : Bool) :
      FitsRecord (.annotate note child) operand
  | translate (offset : String) {child : Scene} (h : FitsRecord child false) (operand : Bool) :
      FitsRecord (.translate (.text offset) child) operand
  | adjust (kind : Adjustment) {written : Datum} {amount : String} {child : Scene}
      (hamount : written.scalarText = .ok amount) (h : FitsRecord child false) (operand : Bool) :
      FitsRecord (.adjust kind written amount child) operand
  | combine (op : Combination) {left right : Scene} (hl : FitsRecord left false)
      (hr : FitsRecord right false) (operand : Bool) : FitsRecord (.combine op left right) operand
  | blend (op : Combination) {left right radius : Scene} (hl : FitsRecord left false)
      (hr : FitsRecord right false) (hk : FitsRecord radius true) (operand : Bool) :
      FitsRecord (.blend op left right radius) operand
  | unknown {name : String} (hname : IsUnknownName name) {operands : List Scene}
      (h : ∀ s ∈ operands, FitsRecord s true) (operand : Bool) :
      FitsRecord (.unknown name (operands.map .scene)) operand

theorem Scene.FitsRecord.wellFormed {s : Scene} {operand : Bool} (h : s.FitsRecord operand) :
    s.WellFormed := by
  induction h with
  | constant text => exact .constant text
  | primitive hname args operand => exact .primitive _ args
  | annotate note h operand ih => exact .annotate note ih
  | translate offset h operand ih => exact .translate offset ih
  | adjust kind hamount h operand ih => exact .adjust kind hamount ih
  | combine op hl hr operand ihl ihr => exact .combine op ihl ihr
  | blend op hl hr hk operand ihl ihr ihk => exact .blend op ihl ihr ihk
  | unknown hname h operand ih => exact .unknown _ ih

/-- What fits where a scene has to stand also fits where a literal may stand. -/
theorem Scene.FitsRecord.operand {s : Scene} (h : s.FitsRecord false) : s.FitsRecord true := by
  cases h with
  | primitive hname args => exact .primitive hname args true
  | annotate note h => exact .annotate note h true
  | translate offset h => exact .translate offset h true
  | adjust kind hamount h => exact .adjust kind hamount h true
  | combine op hl hr => exact .combine op hl hr true
  | blend op hl hr hk => exact .blend op hl hr hk true
  | unknown hname h => exact .unknown hname h true

/-! ## Reading -/

namespace Datum

/-- A record with an operator is read as a primitive if the name is one, by the keyword if it is
one, and as an unknown operator otherwise. -/
theorem read_of_operatorAndArgs {fields : List (String × Datum)} {op : String} {args : List Datum}
    (hargs : operatorAndArgs fields = .ok (op, args)) (path : Path) :
    (record fields).read path =
      if isPrimitiveName op then do
        return .primitive op (← literals path (.argument op) 0 args)
      else
        match TransformKind.ofKeyword? op with
        | some kind => readTransform kind args path
        | none =>
          match CombinationKind.ofKeyword? op with
          | some kind => readCombination kind args path
          | none => do
            return .unknown op (← readOperands (.argument op) path 0 args) := by
  rw [read]
  split
  · next h => simp [hargs] at h
  · next h =>
    obtain ⟨rfl, rfl⟩ : op = _ ∧ args = _ := by simpa [hargs] using h
    rfl

theorem read_ofCall {op : String} (hop : op ≠ "") (args : List Datum) (path : Path) :
    (ofCall op args).read path =
      if isPrimitiveName op then do
        return .primitive op (← literals path (.argument op) 0 args)
      else
        match TransformKind.ofKeyword? op with
        | some kind => readTransform kind args path
        | none =>
          match CombinationKind.ofKeyword? op with
          | some kind => readCombination kind args path
          | none => do
            return .unknown op (← readOperands (.argument op) path 0 args) :=
  read_of_operatorAndArgs (by simp [operatorAndArgs, List.lookup, hop]) path

theorem readOperand_ofCall (op : String) (args : List Datum) (role : LiteralRole) (path : Path) :
    (ofCall op args).readOperand role path = (ofCall op args).read path := by
  rw [ofCall, readOperand]

/-- The value is read as a scene that a record stands for, if at all. -/
def ReadsWell (d : Datum) : Prop :=
  ∀ path s, d.read path = .ok s → s.FitsRecord false

theorem literals_eq_map {path : Path} {role : LiteralRole} {i : Nat} {ds texts : List Datum}
    (h : literals path role i ds = .ok texts) : ∃ args : List String, texts = args.map .text := by
  induction ds generalizing i texts with
  | nil =>
    cases h
    exact ⟨[], rfl⟩
  | cons d ds ih =>
    rw [literals] at h
    obtain ⟨s, -, h⟩ := bind_eq_ok_iff.mp h
    obtain ⟨rest, hrest, h⟩ := bind_eq_ok_iff.mp h
    obtain ⟨args, rfl⟩ := ih hrest
    cases h
    exact ⟨s :: args, rfl⟩

theorem fitsRecord_ofAdjustment {kind : Adjustment} {written : Datum} {child s : Scene}
    (hchild : child.FitsRecord false) (h : Scene.ofAdjustment kind written child = .ok s) :
    s.FitsRecord false := by
  unfold Scene.ofAdjustment at h
  split at h
  · cases h
  · cases h
  · cases h
  · next amount _ hamount =>
    cases h
    exact .adjust kind hamount hchild false

theorem fitsRecord_readTransform {kind : TransformKind} {args : List Datum} {path : Path}
    {s : Scene} (hargs : ∀ arg ∈ args, arg.ReadsWell)
    (h : readTransform kind args path = .ok s) : s.FitsRecord false := by
  unfold readTransform at h
  split at h
  · next param child =>
    have hchild : child.ReadsWell := hargs child (by simp)
    cases kind with
    | annotate =>
      obtain ⟨c, hc, h⟩ := bind_eq_ok_iff.mp h
      cases h
      exact .annotate param (hchild _ c hc) false
    | translate =>
      obtain ⟨offset, -, h⟩ := bind_eq_ok_iff.mp h
      obtain ⟨c, hc, h⟩ := bind_eq_ok_iff.mp h
      cases h
      exact .translate offset (hchild _ c hc) false
    | adjust a =>
      obtain ⟨c, hc, h⟩ := bind_eq_ok_iff.mp h
      split at h
      · cases h
      · exact fitsRecord_ofAdjustment (hchild _ c hc) h
  · cases h

theorem fitsRecord_readOperand {d : Datum} {role : LiteralRole} {path : Path} {s : Scene}
    (hd : d.ReadsWell) (h : d.readOperand role path = .ok s) : s.FitsRecord true := by
  unfold readOperand at h
  split at h
  · exact (hd path s (by rw [read]; exact h)).operand
  · exact (hd path s h).operand
  · obtain ⟨text, -, h⟩ := bind_eq_ok_iff.mp h
    cases h
    exact .constant text

theorem fitsRecord_readCombination {kind : CombinationKind} {args : List Datum} {path : Path}
    {s : Scene} (hargs : ∀ arg ∈ args, arg.ReadsWell)
    (h : readCombination kind args path = .ok s) : s.FitsRecord false := by
  unfold readCombination at h
  split at h
  · split at h
    · next left right radius =>
      obtain ⟨l, hl, h⟩ := bind_eq_ok_iff.mp h
      obtain ⟨r, hr, h⟩ := bind_eq_ok_iff.mp h
      obtain ⟨k, hk, h⟩ := bind_eq_ok_iff.mp h
      cases h
      exact .blend kind.op (hargs left (by simp) _ l hl) (hargs right (by simp) _ r hr)
        (fitsRecord_readOperand (hargs radius (by simp)) hk) false
    · cases h
  · split at h
    · next left right =>
      obtain ⟨l, hl, h⟩ := bind_eq_ok_iff.mp h
      obtain ⟨r, hr, h⟩ := bind_eq_ok_iff.mp h
      cases h
      exact .combine kind.op (hargs left (by simp) _ l hl) (hargs right (by simp) _ r hr) false
    · cases h

theorem fitsRecord_readOperands {role : LiteralRole} {path : Path} {i : Nat} {ds read : List Datum}
    (hds : ∀ d ∈ ds, d.ReadsWell) (h : readOperands role path i ds = .ok read) :
    ∃ scenes : List Scene, read = scenes.map .scene ∧ ∀ s ∈ scenes, s.FitsRecord true := by
  induction ds generalizing i read with
  | nil =>
    rw [readOperands] at h
    cases h
    exact ⟨[], rfl, by simp⟩
  | cons d ds ih =>
    rw [readOperands] at h
    obtain ⟨s, hs, h⟩ := bind_eq_ok_iff.mp h
    obtain ⟨rest, hrest, h⟩ := bind_eq_ok_iff.mp h
    cases h
    obtain ⟨scenes, rfl, hscenes⟩ := ih (fun d hd => hds d (by simp [hd])) hrest
    have hfits := fitsRecord_readOperand (hds d (by simp)) hs
    exact ⟨s :: scenes, rfl, List.forall_mem_cons.mpr ⟨hfits, hscenes⟩⟩

/-- The arguments of an operator are the items of a list that is a field of its record. -/
theorem lookup_of_operatorAndArgs {fields : List (String × Datum)} {op : String}
    {args : List Datum} (h : operatorAndArgs fields = .ok (op, args)) :
    fields.lookup "args" = some (.list args) ∧ op ≠ "" := by
  unfold operatorAndArgs at h
  split at h
  · split at h
    · cases h
    · next hop =>
      split at h
      · cases h
      · next hargs =>
        cases h
        exact ⟨hargs, hop⟩
      · cases h
  · cases h
  · cases h

theorem readsWell_record {fields : List (String × Datum)}
    (hargs : ∀ op args, operatorAndArgs fields = .ok (op, args) → ∀ arg ∈ args, arg.ReadsWell) :
    (record fields).ReadsWell := by
  intro path s h
  rw [read] at h
  split at h
  · cases h
  · next op args hop =>
    have hargs := hargs op args hop
    split at h
    · next hname =>
      obtain ⟨texts, htexts, h⟩ := bind_eq_ok_iff.mp h
      cases h
      obtain ⟨args, rfl⟩ := literals_eq_map htexts
      exact .primitive hname args false
    · next hname =>
      split at h
      · exact fitsRecord_readTransform hargs h
      · next htransform =>
        split at h
        · exact fitsRecord_readCombination hargs h
        · next hcombination =>
          obtain ⟨operands, hoperands, h⟩ := bind_eq_ok_iff.mp h
          cases h
          obtain ⟨scenes, rfl, hscenes⟩ := fitsRecord_readOperands hargs hoperands
          have hne := (lookup_of_operatorAndArgs hop).2
          exact .unknown ⟨hne, Bool.not_eq_true _ ▸ hname, htransform, hcombination⟩ hscenes false

/-- Plain data are read as scenes that records stand for. The arguments of a record are items of one
of its fields, so the statement is about items of lists as well. -/
theorem Plain.readsWell {d : Datum} (h : d.Plain) :
    d.ReadsWell ∧ ∀ items, d = .list items → ∀ item ∈ items, item.ReadsWell := by
  have hleaf : ∀ {d : Datum}, (∀ path, ∃ e, d.read path = .error e) → d.ReadsWell := by
    intro d hd path s hs
    obtain ⟨e, he⟩ := hd path
    rw [he] at hs
    cases hs
  induction h with
  | list h ih =>
    refine ⟨hleaf fun path => ⟨_, by rw [read] <;> simp⟩, ?_⟩
    rintro items ⟨⟩ item hitem
    exact (ih item hitem).1
  | @record fields h ih =>
    refine ⟨readsWell_record fun op args hop => ?_, by simp⟩
    obtain ⟨front, back, rfl, -⟩ := List.lookup_eq_some_iff.mp (lookup_of_operatorAndArgs hop).1
    exact (ih ("args", .list args) (by simp)).2 args rfl
  | _ => exact ⟨hleaf fun path => ⟨_, by rw [read] <;> simp⟩, by simp⟩

end Datum

/-- A scene read from plain data is one that a record stands for. -/
theorem Scene.FitsRecord.of_read {d : Datum} {path : Path} {s : Scene} (hplain : d.Plain)
    (h : d.read path = .ok s) : s.FitsRecord false :=
  hplain.readsWell.1 path s h

/-- A scene read from plain data is well formed. -/
theorem Scene.WellFormed.of_read {d : Datum} {path : Path} {s : Scene} (hplain : d.Plain)
    (h : d.read path = .ok s) : s.WellFormed :=
  (Scene.FitsRecord.of_read hplain h).wellFormed

/-- A moved circle, scaled by a half. -/
theorem read_scaled_circle (offset : String) :
    (Datum.ofCall "SCALE" [.text "0.5",
      .ofCall "TRANSLATE" [.text offset, .ofCall "circle" [.text "1.0"]]]).Plain ∧
    (Datum.ofCall "SCALE" [.text "0.5",
      .ofCall "TRANSLATE" [.text offset, .ofCall "circle" [.text "1.0"]]]).read [] =
      .ok (.adjust .scale (.text "0.5") "0.500"
        (.translate (.text offset) (.primitive "circle" [.text "1.0"]))) := by
  have hcircle : (Datum.ofCall "circle" [.text "1.0"]).Plain := .ofCall (by simp [Datum.Plain.text])
  have hmoved : (Datum.ofCall "TRANSLATE" [.text offset, .ofCall "circle" [.text "1.0"]]).Plain :=
    .ofCall (by simp [Datum.Plain.text, hcircle])
  refine ⟨.ofCall (by simp [Datum.Plain.text, hmoved]), ?_⟩
  have hnumeric : (Datum.text "0.5").isNumeric = .ok true :=
    eq_ok_of_toOption (by decide +kernel)
  have hamount : (Datum.text "0.5").scalarText = .ok "0.500" :=
    eq_ok_of_toOption (by decide +kernel)
  simp +decide [Datum.read_ofCall, Datum.readTransform, Datum.literals, Datum.literal,
    Scene.ofAdjustment, hnumeric, hamount, TransformKind.ofKeyword?, TransformKind.all,
    TransformKind.keyword, Adjustment.keyword]

end SignedDistance
