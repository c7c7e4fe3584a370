import Mathlib
import SignedDistance.Compiled.Basic
import SignedDistance.Proofs.PlainScenes

/-!
# What compilation ends with

The outcome of compiling a well-formed scene does not depend on the reports made before, nor on the
place of the scene. Under the policy to defer it is always the scene's expression (`Scene.expr`).
Under the policy to fail it is the same expression unless the scene has an unknown operator; then
the first one met is the error.
-/

namespace SignedDistance

/-! ## The expression of a scene -/

/-- The distance expression of a scene. -/
def Scene.expr : Scene → Expr
  | .primitive name args => .call name (.here :: args.map Datum.toOffset)
  | .constant text => .lit text
  | .annotate _ child => child.expr
  | .translate offset child => Formula.translate offset.toOffset child.expr
  | .adjust kind _ amount child => Formula.adjust kind (.lit amount) child.expr
  | .combine op left right => Formula.combine op left.expr right.expr
  | .blend op left right radius => Formula.blend op left.expr right.expr radius.expr
  | .unknown name _ => .pending name

/-- The name of an unknown operator. -/
def Datum.unknownName? : Datum → Option String
  | .scene (.unknown name _) => some name
  | _ => none

/-- The name of the first unknown operator that a walk through the scene meets. -/
def Scene.firstUnknown? (s : Scene) : Option String :=
  s.walk.findSome? Datum.unknownName?

namespace Scene

attribute [local simp] firstUnknown? walk Datum.unknownName?

@[simp] theorem firstUnknown?_annotate (note : Datum) (child : Scene) :
    (annotate note child).firstUnknown? = child.firstUnknown? := by
  simp [List.findSome?_cons]

@[simp] theorem firstUnknown?_translate (offset : Datum) (child : Scene) :
    (translate offset child).firstUnknown? = child.firstUnknown? := by
  simp [List.findSome?_cons]

@[simp] theorem firstUnknown?_adjust (kind : Adjustment) (written : Datum) (amount : String)
    (child : Scene) : (adjust kind written amount child).firstUnknown? = child.firstUnknown? := by
  simp [List.findSome?_cons]

@[simp] theorem firstUnknown?_combine (op : Combination) (left right : Scene) :
    (combine op left right).firstUnknown? = left.firstUnknown?.or right.firstUnknown? := by
  simp [List.findSome?_cons]

@[simp] theorem firstUnknown?_blend (op : Combination) (left right radius : Scene) :
    (blend op left right radius).firstUnknown? =
      left.firstUnknown?.or (right.firstUnknown?.or radius.firstUnknown?) := by
  simp [List.findSome?_cons]

@[simp] theorem firstUnknown?_unknown (name : String) (operands : List Datum) :
    (unknown name operands).firstUnknown? = some name := by
  simp [List.findSome?_cons]

end Scene

/-! ## Outcomes of compilations -/

namespace Compilation

variable {α β : Type} {m : Compilation α} {f : α → Compilation β}

/-- A compilation ends with an outcome whatever has been reported before. -/
def EndsWith (m : Compilation α) (outcome : Except CompileError α) : Prop :=
  ∀ log, (m.run.run log).1 = outcome

theorem endsWith_pure (a : α) : (pure a : Compilation α).EndsWith (.ok a) := fun _ => rfl

theorem endsWith_throw (e : CompileError) : (throw e : Compilation α).EndsWith (.error e) :=
  fun _ => rfl

theorem endsWith_report (d : Diagnostic) : (report d).EndsWith (.ok ()) := fun _ => rfl

theorem run_bind (m : Compilation α) (f : α → Compilation β) (log : List Diagnostic) :
    (m >>= f).run.run log = match m.run.run log with
      | (.ok a, log') => (f a).run.run log'
      | (.error e, log') => (.error e, log') := by
  rw [ExceptT.run_bind, StateT.run_bind]
  cases h : m.run.run log with
  | mk outcome log' => cases outcome <;> rfl

/-- A step that succeeds is followed by the rest. -/
theorem EndsWith.bind {a : α} {outcome : Except CompileError β} (hm : m.EndsWith (.ok a))
    (hf : (f a).EndsWith outcome) : (m >>= f).EndsWith outcome := by
  intro log
  have hlog := hm log
  rw [run_bind]
  cases h : m.run.run log with
  | mk result log' =>
    rw [h] at hlog
    cases hlog
    exact hf log'

/-- A step that fails is the last one. -/
theorem EndsWith.bind_error {e : CompileError} (hm : m.EndsWith (.error e)) :
    (m >>= f).EndsWith (.error e) := by
  intro log
  have hlog := hm log
  rw [run_bind]
  cases h : m.run.run log with
  | mk result log' =>
    rw [h] at hlog
    cases hlog
    rfl

end Compilation

/-! ## Compiling well-formed scenes -/

theorem toExprs_texts (args : List String) :
    Datum.toExprs (args.map .text) = .ok ((args.map .text).map Datum.toOffset) := by
  induction args with
  | nil => rfl
  | cons arg args ih =>
    simp only [List.map_cons, Datum.toExprs, Datum.toExpr, Datum.toOffset, ih]
    rfl

/-- Operands that are scenes compile if each of them does. -/
theorem compileOperands_endsWith {policy : Policy} {operands : List Scene}
    (h : ∀ s ∈ operands, ∀ path, ∃ c, (s.compile policy path).EndsWith (.ok c)) (path : Path)
    (i : Nat) :
    ∃ cs, (Datum.compileOperands policy path i (operands.map .scene)).EndsWith (.ok cs) := by
  induction operands generalizing i with
  | nil => exact ⟨[], Compilation.endsWith_pure _⟩
  | cons s operands ih =>
    obtain ⟨c, hc⟩ := h s (by simp) (path ++ [(i : Int)])
    obtain ⟨cs, hcs⟩ := ih (fun s hs => h s (by simp [hs])) (i + 1)
    exact ⟨c :: cs, hc.bind (hcs.bind (Compilation.endsWith_pure _))⟩

/-- Compiling a well-formed scene gives its expression, unless the policy is to fail and there is an
unknown operator. -/
theorem Scene.WellFormed.compile {policy : Policy} {s : Scene} (h : s.WellFormed)
    (hpolicy : policy = .fail → s.firstUnknown? = none) (path : Path) :
    ∃ c, (s.compile policy path).EndsWith (.ok c) ∧ c.expr = s.expr := by
  induction h generalizing path with
  | primitive name args =>
    refine ⟨.expression (.call name (.here :: (args.map .text).map Datum.toOffset)), ?_, rfl⟩
    rw [Scene.compile, toExprs_texts]
    exact Compilation.endsWith_pure _
  | constant text => exact ⟨.expression (.lit text), Compilation.endsWith_pure _, rfl⟩
  | annotate note h ih =>
    obtain ⟨c, hc, hexpr⟩ := ih (by simpa using hpolicy) (path ++ [1])
    exact ⟨_, hc.bind ((Compilation.endsWith_report _).bind (Compilation.endsWith_pure _)), hexpr⟩
  | translate offset h ih =>
    obtain ⟨c, hc, hexpr⟩ := ih (by simpa using hpolicy) (path ++ [1])
    refine ⟨_, hc.bind ((Compilation.endsWith_report _).bind (Compilation.endsWith_pure _)), ?_⟩
    rw [Compiled.expr, hexpr, Scene.expr]
  | adjust kind hamount h ih =>
    obtain ⟨c, hc, hexpr⟩ := ih (by simpa using hpolicy) (path ++ [1])
    refine ⟨_, hc.bind ((Compilation.endsWith_report _).bind (Compilation.endsWith_pure _)), ?_⟩
    rw [Compiled.expr, hexpr, Scene.expr]
  | combine op hl hr ihl ihr =>
    simp only [firstUnknown?_combine, Option.or_eq_none_iff] at hpolicy
    obtain ⟨a, ha, hexpra⟩ := ihl (fun hp => (hpolicy hp).1) (path ++ [0])
    obtain ⟨b, hb, hexprb⟩ := ihr (fun hp => (hpolicy hp).2) (path ++ [1])
    refine ⟨_, ha.bind (hb.bind ((Compilation.endsWith_report _).bind
      (Compilation.endsWith_pure _))), ?_⟩
    rw [Compiled.expr, hexpra, hexprb, Scene.expr]
  | blend op hl hr hk ihl ihr ihk =>
    simp only [firstUnknown?_blend, Option.or_eq_none_iff] at hpolicy
    obtain ⟨a, ha, hexpra⟩ := ihl (fun hp => (hpolicy hp).1) (path ++ [0])
    obtain ⟨b, hb, hexprb⟩ := ihr (fun hp => (hpolicy hp).2.1) (path ++ [1])
    obtain ⟨k, hk, hexprk⟩ := ihk (fun hp => (hpolicy hp).2.2) (path ++ [2])
    refine ⟨_, ha.bind (hb.bind (hk.bind ((Compilation.endsWith_report _).bind
      (Compilation.endsWith_pure _)))), ?_⟩
    rw [Compiled.expr, hexpra, hexprb, hexprk, Scene.expr]
  | @unknown name operands h ih =>
    -- A policy to fail would have to find no unknown operator, but this scene is one.
    have hdefer : policy ≠ .fail := fun hp => by simpa using hpolicy hp
    obtain ⟨cs, hcs⟩ := compileOperands_endsWith
      (fun s hs path => (ih s hs (fun hp => absurd hp hdefer) path).imp fun _ hc => hc.1) path 0
    refine ⟨.unresolved name cs, ?_, rfl⟩
    rw [Scene.compile, if_neg hdefer]
    exact (Compilation.endsWith_report _).bind (hcs.bind (Compilation.endsWith_pure _))

/-- Under the policy to fail, the first unknown operator is the error. -/
theorem Scene.WellFormed.compile_fail {s : Scene} {name : String} (h : s.WellFormed)
    (hfirst : s.firstUnknown? = some name) (path : Path) :
    (s.compile .fail path).EndsWith (.error (.unknownOperator name)) := by
  induction h generalizing path with
  | primitive name args => simp [firstUnknown?, walk, Datum.unknownName?] at hfirst
  | constant text => simp [firstUnknown?, walk, Datum.unknownName?] at hfirst
  | annotate note h ih => exact (ih (by simpa using hfirst) (path ++ [1])).bind_error
  | translate offset h ih => exact (ih (by simpa using hfirst) (path ++ [1])).bind_error
  | adjust kind hamount h ih => exact (ih (by simpa using hfirst) (path ++ [1])).bind_error
  | combine op hl hr ihl ihr =>
    rw [firstUnknown?_combine, Option.or_eq_some_iff] at hfirst
    rcases hfirst with hl' | ⟨hl', hr'⟩
    · exact (ihl hl' (path ++ [0])).bind_error
    · obtain ⟨a, ha, -⟩ := hl.compile (fun _ => hl') (path ++ [0])
      exact ha.bind (ihr hr' (path ++ [1])).bind_error
  | blend op hl hr hk ihl ihr ihk =>
    rw [firstUnknown?_blend, Option.or_eq_some_iff, Option.or_eq_some_iff] at hfirst
    rcases hfirst with hl' | ⟨hl', hr' | ⟨hr', hk'⟩⟩
    · exact (ihl hl' (path ++ [0])).bind_error
    · obtain ⟨a, ha, -⟩ := hl.compile (fun _ => hl') (path ++ [0])
      exact ha.bind (ihr hr' (path ++ [1])).bind_error
    · obtain ⟨a, ha, -⟩ := hl.compile (fun _ => hl') (path ++ [0])
      obtain ⟨b, hb, -⟩ := hr.compile (fun _ => hr') (path ++ [1])
      exact ha.bind (hb.bind (ihk hk' (path ++ [2])).bind_error)
  | unknown name' h ih =>
    rw [firstUnknown?_unknown] at hfirst
    cases hfirst
    rw [Scene.compile, if_pos rfl]
    exact Compilation.endsWith_throw _

/-! ## Compiling plain data -/

section Plain

variable {d : Datum} {s : Scene}

theorem compileScene_of_read (policy : Policy) (hread : d.read [] = .ok s) :
    compileScene d policy.name = s.compile policy [] := by
  have hname : Policy.ofName? policy.name = some policy := by cases policy <;> decide
  rw [compileScene, hname, hread]

theorem Scene.WellFormed.exists_compileScene (h : s.WellFormed)
    (hread : d.read [] = .ok s) (policy : Policy)
    (hpolicy : policy = .fail → s.firstUnknown? = none) :
    ∃ c, (compileScene d policy.name).result.1 = .ok c ∧ c.expr = s.expr := by
  obtain ⟨c, hc, hexpr⟩ := h.compile hpolicy []
  refine ⟨c, ?_, hexpr⟩
  rw [compileScene_of_read policy hread]
  exact hc []

theorem Scene.WellFormed.firstUnknown?_of_compileScene (h : s.WellFormed)
    (hread : d.read [] = .ok s) {policy : Policy} {c : Compiled}
    (hc : (compileScene d policy.name).result.1 = .ok c) :
    policy = .fail → s.firstUnknown? = none := by
  rintro rfl
  cases hfirst : s.firstUnknown? with
  | none => rfl
  | some name =>
    rw [compileScene_of_read .fail hread] at hc
    cases (h.compile_fail hfirst [] []).symm.trans hc

/-- What a scene is compiled to under some policy has the expression of the scene. -/
theorem Scene.WellFormed.expr_of_compileScene (h : s.WellFormed)
    (hread : d.read [] = .ok s) {policy : Policy} {c : Compiled}
    (hc : (compileScene d policy.name).result.1 = .ok c) : c.expr = s.expr := by
  obtain ⟨c', hc', hexpr⟩ := h.exists_compileScene hread policy
    (h.firstUnknown?_of_compileScene hread hc)
  cases hc.symm.trans hc'
  exact hexpr

/-- Compiling plain data gives the expression of their scene, unless the policy is to fail and there
is an unknown operator. -/
theorem compileScene_eq_ok (policy : Policy) (hplain : d.Plain) (hread : d.read [] = .ok s)
    (hpolicy : policy = .fail → s.firstUnknown? = none) :
    ∃ c, (compileScene d policy.name).result.1 = .ok c ∧ c.expr = s.expr :=
  (Scene.WellFormed.of_read hplain hread).exists_compileScene hread policy hpolicy

theorem compileScene_eq_error {name : String} (hplain : d.Plain) (hread : d.read [] = .ok s)
    (hfirst : s.firstUnknown? = some name) :
    (compileScene d Policy.fail.name).result.1 = .error (.unknownOperator name) := by
  rw [compileScene_of_read _ hread]
  exact (Scene.WellFormed.of_read hplain hread).compile_fail hfirst [] []

end Plain

/-! ## Compiling scenes -/

section Scenes

variable {s : Scene} {policy : Policy} {c : Compiled}

/-- Compiling a scene gives `c`. -/
def Scene.CompilesTo (policy : Policy) (s : Scene) (c : Compiled) : Prop :=
  (compileScene (.scene s) policy.name).result.1 = .ok c

theorem read_scene (s : Scene) : (Datum.scene s).read [] = .ok s := by
  rw [Datum.read]

theorem Scene.WellFormed.exists_compilesTo (h : s.WellFormed) (policy : Policy)
    (hpolicy : policy = .fail → s.firstUnknown? = none) :
    ∃ c, s.CompilesTo policy c ∧ c.expr = s.expr :=
  h.exists_compileScene (read_scene s) policy hpolicy

theorem Scene.CompilesTo.firstUnknown? (hc : s.CompilesTo policy c) (h : s.WellFormed) :
    policy = .fail → s.firstUnknown? = none :=
  h.firstUnknown?_of_compileScene (read_scene s) hc

theorem Scene.CompilesTo.expr (hc : s.CompilesTo policy c) (h : s.WellFormed) : c.expr = s.expr :=
  h.expr_of_compileScene (read_scene s) hc

end Scenes

end SignedDistance
