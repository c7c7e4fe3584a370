import Mathlib
import SignedDistance.Proofs.Compilation
import SignedDistance.Proofs.Faults

/-!
# What compilation reports

Compiling a scene under the policy to defer reports every operator once, at its place. The place of
an operator is its address in the scene, a list of operand indices; followed through the arguments
of the record from which the scene was read, the same address leads to the record of that operator.
A known operator is reported after its operands, an unknown one before them, and operands are
reported in their order (`Diagnostic.Precedes`).
-/

namespace SignedDistance

/-! ## Nodes and their reports -/

/-- The operand with an index. A transform has its parameter first, which is no operand. -/
def Scene.operandAt? (s : Scene) (i : Nat) : Option Scene :=
  match s with
  | .primitive .. | .constant _ => none
  | .annotate _ child | .translate _ child | .adjust _ _ _ child =>
    if i = 1 then some child else none
  | .combine _ left right => [left, right][i]?
  | .blend _ left right radius => [left, right, radius][i]?
  | .unknown _ operands =>
    match operands[i]? with
    | some (.scene s) => some s
    | _ => none

/-- The node at an address. -/
def Scene.nodeAt? : Scene → List Nat → Option Scene
  | s, [] => some s
  | s, i :: address =>
    match s.operandAt? i with
    | some child => child.nodeAt? address
    | none => none

/-- The report of a node that stands at a path: primitives and constants have none. -/
def Scene.report? (s : Scene) (path : Path) : Option Diagnostic :=
  match s with
  | .primitive .. => none
  | .constant _ => none
  | .annotate .. => some (.applied TransformKind.annotate.keyword path)
  | .translate .. => some (.applied TransformKind.translate.keyword path)
  | .adjust kind .. => some (.applied kind.keyword path)
  | .combine op .. => some (.applied (CombinationKind.keyword ⟨op, false⟩) path)
  | .blend op .. => some (.applied (CombinationKind.keyword ⟨op, true⟩) path)
  | .unknown name _ => some (.unknownOperator name path)

/-- Below a scene at a path, the node at an address has a report. -/
def Scene.Reports (s : Scene) (path : Path) (address : List Nat) (r : Diagnostic) : Prop :=
  ∃ n, s.nodeAt? address = some n ∧ n.report? (path ++ address.map Int.ofNat) = some r

namespace Diagnostic

def path : Diagnostic → Path
  | applied _ path => path
  | unknownOperator _ path => path

/-- The operator that is reported. -/
def name : Diagnostic → String
  | applied keyword _ => keyword
  | unknownOperator name _ => name

/-- A report has to come before another one. -/
inductive Precedes (x y : Diagnostic) : Prop where
  /-- They belong to different operands of a node. -/
  | operands {place p q : Path} {i j : Int} (hx : x.path = place ++ i :: p)
      (hy : y.path = place ++ j :: q) (h : i < j)
  /-- The first one is below a known operator. -/
  | known {p : Path} {i : Int} (hlevel : y.level = .debug) (h : x.path = y.path ++ i :: p)
  /-- The second one is below an unknown operator. -/
  | unknown {p : Path} {i : Int} (hlevel : x.level = .warning) (h : y.path = x.path ++ i :: p)

end Diagnostic

/-- A log has the reports of a scene that was read from a value. -/
structure LogsOperators (d : Datum) (s : Scene) (log : List Diagnostic) : Prop where
  nodup : log.Nodup
  mem_iff : ∀ r, r ∈ log ↔ ∃ address, s.Reports [] address r
  /-- The path of a report leads to the record of its operator, and its text is that of no other
  path. -/
  located : ∀ r ∈ log, ∃ address n fields, r.path = address.map Int.ofNat ∧
    s.nodeAt? address = some n ∧ d.argAt? address = some (.record fields) ∧
    fields.lookup "op" = some (.text r.name) ∧ (Datum.record fields).read r.path = .ok n ∧
    ∀ other : List Nat, Path.text (other.map Int.ofNat) = r.path.text → other = address
  ordered : ∀ x ∈ log, ∀ y ∈ log, x.Precedes y → [x, y].Sublist log

/-! ## The order of reports -/

namespace Diagnostic

variable {x y : Diagnostic}

/-- Of two paths that part, neither is the beginning of the other one. -/
theorem ne_append_of_ne {place p q t : Path} {i j : Int} (hij : i ≠ j) :
    place ++ i :: p ≠ place ++ j :: q ++ t := by
  intro h
  simp only [List.append_assoc, List.append_cancel_left_eq, List.cons_append, List.cons.injEq] at h
  exact hij h.1

theorem Precedes.asymm (hxy : x.Precedes y) : ¬ y.Precedes x := by
  intro hyx
  cases hxy with
  | operands hx hy hij =>
    cases hyx with
    | operands hy' hx' hij' =>
      have hlt : x.path < y.path := by
        rw [hx, hy]
        exact List.append_left_lt (List.cons_lt_cons_iff.mpr (.inl hij))
      have hgt : y.path < x.path := by
        rw [hx', hy']
        exact List.append_left_lt (List.cons_lt_cons_iff.mpr (.inl hij'))
      exact lt_asymm hlt hgt
    | known hlevel h =>
      rw [hx, hy] at h
      exact ne_append_of_ne hij.ne' h
    | unknown hlevel h =>
      rw [hx, hy] at h
      exact ne_append_of_ne hij.ne h
  | known hlevel h =>
    cases hyx with
    | operands hy hx hij =>
      rw [hx, hy] at h
      exact ne_append_of_ne hij.ne' h
    | known _ h' =>
      rw [h'] at h
      simp at h
    | unknown hlevel' _ =>
      rw [hlevel] at hlevel'
      cases hlevel'
  | unknown hlevel h =>
    cases hyx with
    | operands hy hx hij =>
      rw [hx, hy] at h
      exact ne_append_of_ne hij.ne h
    | known hlevel' _ =>
      rw [hlevel] at hlevel'
      cases hlevel'
    | unknown _ h' =>
      rw [h'] at h
      simp at h

theorem nodup_of_pairwise {log : List Diagnostic} (h : log.Pairwise Precedes) : log.Nodup := by
  refine h.imp fun {x y} hxy heq => ?_
  subst heq
  exact hxy.asymm hxy

/-- In a log in order, a report that has to come before another one does. -/
theorem sublist_of_pairwise {log : List Diagnostic} (h : log.Pairwise Precedes) (hx : x ∈ log)
    (hy : y ∈ log) (hxy : x.Precedes y) : [x, y].Sublist log := by
  obtain ⟨before, after, rfl⟩ := List.append_of_mem hx
  rw [List.pairwise_append, List.pairwise_cons] at h
  rcases List.mem_append.mp hy with hy | hy
  · exact absurd (h.2.2 y hy x (by simp)) hxy.asymm
  rcases List.mem_cons.mp hy with rfl | hy
  · exact absurd hxy hxy.asymm
  · have hafter : [y].Sublist after := List.singleton_sublist.mpr hy
    exact (hafter.cons_cons x).trans (List.sublist_append_right before _)

end Diagnostic

/-! ## Reports of nodes and of their operands -/

namespace Scene

variable {s child n : Scene} {path : Path} {address : List Nat} {r : Diagnostic} {i k : Nat}
  {log new : List Diagnostic}

theorem path_of_report? (h : s.report? path = some r) : r.path = path := by
  unfold report? at h
  split at h <;> cases h <;> rfl

theorem Reports.path_eq (h : s.Reports path address r) :
    r.path = path ++ address.map Int.ofNat := by
  obtain ⟨n, -, hreport⟩ := h
  exact path_of_report? hreport

theorem reports_nil : s.Reports path [] r ↔ s.report? path = some r := by
  simp [Reports, nodeAt?]

/-- The reports below an operand are those of the operand as a scene of its own. -/
theorem reports_cons (hchild : s.operandAt? i = some child) :
    s.Reports path (i :: address) r ↔ child.Reports (path ++ [(i : Int)]) address r := by
  simp [Reports, nodeAt?, hchild]

theorem not_reports_cons (hnone : s.operandAt? i = none) : ¬ s.Reports path (i :: address) r := by
  simp [Reports, nodeAt?, hnone]

theorem operandAt?_unknown {name : String} {operands : List Datum} :
    (unknown name operands).operandAt? i = some child ↔ operands[i]? = some (.scene child) := by
  rw [operandAt?]
  split
  · next h => simp [h]
  · next h => simpa using h child

/-- A log has the reports of a scene at a path, in order. -/
structure LoggedBy (s : Scene) (path : Path) (log : List Diagnostic) : Prop where
  mem_iff : ∀ r, r ∈ log ↔ ∃ address, s.Reports path address r
  ordered : log.Pairwise Diagnostic.Precedes

/-- A log has the reports of the first `k` operands of a scene at a path, in order. -/
structure OperandsLoggedBy (s : Scene) (path : Path) (k : Nat) (log : List Diagnostic) : Prop where
  mem_iff : ∀ r, r ∈ log ↔ ∃ i address, i < k ∧ s.Reports path (i :: address) r
  ordered : log.Pairwise Diagnostic.Precedes

namespace OperandsLoggedBy

theorem zero (s : Scene) (path : Path) : s.OperandsLoggedBy path 0 [] :=
  ⟨by simp, .nil⟩

theorem skip (h : s.OperandsLoggedBy path k log) (hnone : s.operandAt? k = none) :
    s.OperandsLoggedBy path (k + 1) log := by
  refine ⟨fun r => ?_, h.ordered⟩
  rw [h.mem_iff]
  constructor
  · rintro ⟨i, address, hi, hreports⟩
    exact ⟨i, address, by omega, hreports⟩
  · rintro ⟨i, address, hi, hreports⟩
    by_cases hik : i = k
    · subst hik
      exact absurd hreports (not_reports_cons hnone)
    · exact ⟨i, address, by omega, hreports⟩

/-- The reports of an operand follow those of the operands before it. -/
theorem operand (h : s.OperandsLoggedBy path k log) (hchild : s.operandAt? k = some child)
    (hnew : child.LoggedBy (path ++ [(k : Int)]) new) :
    s.OperandsLoggedBy path (k + 1) (log ++ new) := by
  have hmem : ∀ r, r ∈ new ↔ ∃ address, s.Reports path (k :: address) r := fun r => by
    simp only [reports_cons hchild, hnew.mem_iff]
  constructor
  · intro r
    rw [List.mem_append, h.mem_iff, hmem]
    constructor
    · rintro (⟨i, address, hi, hreports⟩ | ⟨address, hreports⟩)
      · exact ⟨i, address, by omega, hreports⟩
      · exact ⟨k, address, by omega, hreports⟩
    · rintro ⟨i, address, hi, hreports⟩
      by_cases hik : i = k
      · subst hik
        exact Or.inr ⟨address, hreports⟩
      · exact Or.inl ⟨i, address, by omega, hreports⟩
  · refine List.pairwise_append.mpr ⟨h.ordered, hnew.ordered, fun x hx y hy => ?_⟩
    obtain ⟨i, p, hi, hx⟩ := (h.mem_iff x).mp hx
    obtain ⟨q, hy⟩ := (hmem y).mp hy
    exact .operands hx.path_eq hy.path_eq (Int.ofNat_lt.mpr hi)

/-- The reports of a scene are its own one and those of its operands. -/
theorem reports_iff (h : s.OperandsLoggedBy path k log) (hlast : ∀ i, k ≤ i → s.operandAt? i = none)
    (hreport : s.report? path = some r) (r' : Diagnostic) :
    (∃ address, s.Reports path address r') ↔ r' = r ∨ r' ∈ log := by
  rw [h.mem_iff]
  constructor
  · rintro ⟨address, hreports⟩
    cases address with
    | nil =>
      rw [reports_nil, hreport] at hreports
      exact Or.inl (Option.some.inj hreports).symm
    | cons i address =>
      by_cases hi : i < k
      · exact Or.inr ⟨i, address, hi, hreports⟩
      · exact absurd hreports (not_reports_cons (hlast i (by omega)))
  · rintro (rfl | ⟨i, address, -, hreports⟩)
    · exact ⟨[], reports_nil.mpr hreport⟩
    · exact ⟨i :: address, hreports⟩

theorem path_of_mem (h : s.OperandsLoggedBy path k log) (hr : r ∈ log) :
    ∃ (i : Int) (p : Path), r.path = path ++ i :: p := by
  obtain ⟨i, address, -, hreports⟩ := (h.mem_iff r).mp hr
  exact ⟨i, address.map Int.ofNat, hreports.path_eq⟩

/-- A known operator is reported after its operands. -/
theorem known (h : s.OperandsLoggedBy path k log) (hlast : ∀ i, k ≤ i → s.operandAt? i = none)
    (hreport : s.report? path = some r) (hlevel : r.level = .debug) :
    s.LoggedBy path (log ++ [r]) := by
  constructor
  · intro r'
    rw [h.reports_iff hlast hreport]
    simp [or_comm]
  · refine List.pairwise_append.mpr ⟨h.ordered, by simp, fun x hx y hy => ?_⟩
    obtain ⟨i, p, hpath⟩ := h.path_of_mem hx
    rw [List.mem_singleton.mp hy]
    exact .known hlevel (by rw [hpath, path_of_report? hreport])

/-- An unknown operator is reported before its operands. -/
theorem unknown (h : s.OperandsLoggedBy path k log) (hlast : ∀ i, k ≤ i → s.operandAt? i = none)
    (hreport : s.report? path = some r) (hlevel : r.level = .warning) :
    s.LoggedBy path (r :: log) := by
  constructor
  · intro r'
    rw [h.reports_iff hlast hreport, List.mem_cons]
  · refine List.pairwise_cons.mpr ⟨fun y hy => ?_, h.ordered⟩
    obtain ⟨i, p, hpath⟩ := h.path_of_mem hy
    exact .unknown hlevel (by rw [hpath, path_of_report? hreport])

end OperandsLoggedBy

theorem LoggedBy.silent (hnone : ∀ i, s.operandAt? i = none) (hreport : s.report? path = none) :
    s.LoggedBy path [] := by
  refine ⟨fun r => ?_, .nil⟩
  simp only [List.not_mem_nil, false_iff, not_exists]
  intro address hreports
  cases address with
  | nil =>
    rw [reports_nil, hreport] at hreports
    cases hreports
  | cons i address => exact not_reports_cons (hnone i) hreports

end Scene

/-! ## The log of a compilation -/

namespace Compilation

variable {α β : Type} {m : Compilation α} {f : α → Compilation β}

/-- A compilation succeeds and adds reports to those made before. -/
def Adds (m : Compilation α) (a : α) (new : List Diagnostic) : Prop :=
  ∀ log, m.run.run log = (.ok a, log ++ new)

theorem adds_pure (a : α) : (pure a : Compilation α).Adds a [] := by
  intro log
  rw [List.append_nil]
  rfl

theorem adds_report (r : Diagnostic) : (report r).Adds () [r] := fun _ => rfl

theorem Adds.bind {a : α} {b : β} {first second : List Diagnostic} (hm : m.Adds a first)
    (hf : (f a).Adds b second) : (m >>= f).Adds b (first ++ second) := by
  intro log
  rw [run_bind, hm log]
  dsimp only
  rw [hf, List.append_assoc]

/-- The last steps of compiling a known operator. -/
theorem adds_report_pure (r : Diagnostic) (a : α) :
    (report r >>= fun _ => pure a : Compilation α).Adds a [r] :=
  (adds_report r).bind (adds_pure a)

end Compilation

/-- The scene compiles at every path and reports its operators. -/
def Scene.CompilesWithLog (s : Scene) : Prop :=
  ∀ path, ∃ c log, (s.compile .defer path).Adds c log ∧ s.LoggedBy path log

/-- The operands of an unknown operator are compiled one after the other. Those before the index
have been reported already. -/
theorem compileOperands_adds {name : String} {operands front back : List Scene} {path : Path}
    {log : List Diagnostic} (hback : ∀ s ∈ back, s.CompilesWithLog)
    (hsplit : operands = front ++ back)
    (hlog : (Scene.unknown name (operands.map .scene)).OperandsLoggedBy path front.length log) :
    ∃ cs new, (Datum.compileOperands .defer path front.length (back.map .scene)).Adds cs new ∧
      (Scene.unknown name (operands.map .scene)).OperandsLoggedBy path operands.length
        (log ++ new) := by
  induction back generalizing front log with
  | nil =>
    refine ⟨[], [], Compilation.adds_pure [], ?_⟩
    rw [hsplit, List.append_nil] at hlog ⊢
    rwa [List.append_nil]
  | cons s back ih =>
    obtain ⟨c, new, hc, hnew⟩ := hback s (by simp) (path ++ [(front.length : Int)])
    have hchild : (Scene.unknown name (operands.map .scene)).operandAt? front.length = some s := by
      simp [Scene.operandAt?, hsplit]
    have hlog' := hlog.operand hchild hnew
    have hlength : front.length + 1 = (front ++ [s]).length := by simp
    rw [hlength] at hlog'
    obtain ⟨cs, rest, hcs, hrest⟩ :=
      ih (fun s hs => hback s (by simp [hs])) (by simp [hsplit]) hlog'
    rw [← hlength] at hcs
    refine ⟨c :: cs, new ++ (rest ++ []), hc.bind (hcs.bind (Compilation.adds_pure _)), ?_⟩
    rwa [List.append_nil, ← List.append_assoc]

/-- A transform compiles its child, which has index 1, and is reported then. -/
theorem Scene.CompilesWithLog.transform {s child : Scene} {keyword : String}
    {finish : Compiled → Compiled} (hchild : child.CompilesWithLog)
    (hcompile : ∀ path, s.compile .defer path = do
      let c ← child.compile .defer (path ++ [1])
      report (.applied keyword path)
      return finish c)
    (hoperand : ∀ i, s.operandAt? i = if i = 1 then some child else none)
    (hreport : ∀ path, s.report? path = some (.applied keyword path)) : s.CompilesWithLog := by
  intro path
  obtain ⟨c, log, hc, hlog⟩ := hchild (path ++ [1])
  refine ⟨finish c, log ++ [.applied keyword path], ?_, ?_⟩
  · rw [hcompile]
    exact hc.bind (Compilation.adds_report_pure _ _)
  · have hzero : s.operandAt? 0 = none := by rw [hoperand]; rfl
    have hone : s.operandAt? 1 = some child := by rw [hoperand]; rfl
    have hlast : ∀ i, 2 ≤ i → s.operandAt? i = none := by
      intro i hi
      rw [hoperand]
      exact if_neg (by omega)
    exact (((OperandsLoggedBy.zero s path).skip hzero).operand hone hlog).known hlast (hreport path)
      rfl

/-- A well-formed scene reports its operators as it is compiled. -/
theorem Scene.WellFormed.compilesWithLog {s : Scene} (h : s.WellFormed) : s.CompilesWithLog := by
  induction h with
  | primitive name args =>
    intro path
    refine ⟨.expression (.call name (.here :: (args.map .text).map Datum.toOffset)), [], ?_,
      .silent (fun _ => rfl) rfl⟩
    rw [Scene.compile, toExprs_texts]
    exact Compilation.adds_pure _
  | constant text => exact fun path => ⟨_, [], Compilation.adds_pure _, .silent (fun _ => rfl) rfl⟩
  | annotate note h ih =>
    exact ih.transform (fun path => by rw [Scene.compile]) (fun _ => rfl) fun _ => rfl
  | translate offset h ih =>
    exact ih.transform (fun path => by rw [Scene.compile]) (fun _ => rfl) fun _ => rfl
  | adjust kind hamount h ih =>
    exact ih.transform (fun path => by rw [Scene.compile]) (fun _ => rfl) fun _ => rfl
  | @combine op left right hl hr ihl ihr =>
    intro path
    obtain ⟨a, loga, ha, hloga⟩ := ihl (path ++ [0])
    obtain ⟨b, logb, hb, hlogb⟩ := ihr (path ++ [1])
    refine ⟨_, _, ha.bind (hb.bind (Compilation.adds_report_pure _ _)), ?_⟩
    rw [← List.append_assoc]
    have hlogs : (Scene.combine op left right).OperandsLoggedBy path 2 (loga ++ logb) :=
      ((OperandsLoggedBy.zero _ path).operand rfl hloga).operand rfl hlogb
    exact hlogs.known (fun i hi => List.getElem?_eq_none hi) rfl rfl
  | @blend op left right radius hl hr hk ihl ihr ihk =>
    intro path
    obtain ⟨a, loga, ha, hloga⟩ := ihl (path ++ [0])
    obtain ⟨b, logb, hb, hlogb⟩ := ihr (path ++ [1])
    obtain ⟨k, logk, hk, hlogk⟩ := ihk (path ++ [2])
    refine ⟨_, _, ha.bind (hb.bind (hk.bind (Compilation.adds_report_pure _ _))), ?_⟩
    rw [← List.append_assoc, ← List.append_assoc]
    have hlogs :
        (Scene.blend op left right radius).OperandsLoggedBy path 3 (loga ++ logb ++ logk) :=
      (((OperandsLoggedBy.zero _ path).operand rfl hloga).operand rfl hlogb).operand rfl hlogk
    exact hlogs.known (fun i hi => List.getElem?_eq_none hi) rfl rfl
  | @unknown name operands h ih =>
    intro path
    obtain ⟨cs, log, hcs, hlog⟩ :
        ∃ cs log, (Datum.compileOperands .defer path 0 (operands.map .scene)).Adds cs log ∧
          (Scene.unknown name (operands.map .scene)).OperandsLoggedBy path operands.length log :=
      @compileOperands_adds name operands [] operands path [] ih rfl (.zero _ path)
    refine ⟨.unresolved name cs, .unknownOperator name path :: (log ++ []), ?_, ?_⟩
    · rw [Scene.compile, if_neg (by decide)]
      exact (Compilation.adds_report _).bind (hcs.bind (Compilation.adds_pure _))
    · rw [List.append_nil]
      refine hlog.unknown (fun i hi => ?_) rfl rfl
      have hnone : (operands.map Datum.scene)[i]? = none :=
        List.getElem?_eq_none (by simpa using hi)
      rw [operandAt?, hnone]

/-! ## The records of operators -/

namespace Datum

/-- The value is read as the scene, or is a literal that is one as a constant. -/
def IsReadAs (d : Datum) (path : Path) (s : Scene) : Prop :=
  d.read path = .ok s ∨ ∃ text, s = .constant text

/-- A scene has the operator and the arguments of a call: its report has the name of the operator,
and its operands are read from the arguments with the same indices. -/
structure CallReadAs (op : String) (args : List Datum) (path : Path) (s : Scene) : Prop where
  name : ∀ place r, s.report? place = some r → r.name = op
  operand : ∀ i child, s.operandAt? i = some child →
    ∃ arg, args[i]? = some arg ∧ arg.IsReadAs (path ++ [(i : Int)]) child

theorem isReadAs_of_readOperand {d : Datum} {role : LiteralRole} {path : Path} {s : Scene}
    (h : d.readOperand role path = .ok s) : d.IsReadAs path s := by
  unfold readOperand at h
  split at h
  · left
    rw [read]
    exact h
  · exact Or.inl h
  · obtain ⟨text, -, h⟩ := bind_eq_ok_iff.mp h
    cases h
    exact Or.inr ⟨text, rfl⟩

theorem isReadAs_of_readOperands {role : LiteralRole} {path : Path} {i j : Nat}
    {ds operands : List Datum} {s : Scene} (h : readOperands role path i ds = .ok operands)
    (hs : operands[j]? = some (.scene s)) :
    ∃ d, ds[j]? = some d ∧ d.IsReadAs (path ++ [((i + j : Nat) : Int)]) s := by
  induction ds generalizing i j operands with
  | nil =>
    rw [readOperands] at h
    cases h
    simp at hs
  | cons d ds ih =>
    rw [readOperands] at h
    obtain ⟨first, hfirst, h⟩ := bind_eq_ok_iff.mp h
    obtain ⟨rest, hrest, h⟩ := bind_eq_ok_iff.mp h
    cases h
    cases j with
    | zero =>
      cases hs
      exact ⟨d, rfl, isReadAs_of_readOperand hfirst⟩
    | succ j =>
      obtain ⟨d', hd', hreads⟩ := ih hrest hs
      rw [Nat.add_right_comm, Nat.add_assoc] at hreads
      exact ⟨d', hd', hreads⟩

theorem callReadAs_of_readTransform {kind : TransformKind} {args : List Datum} {path : Path}
    {s : Scene} (h : readTransform kind args path = .ok s) :
    CallReadAs kind.keyword args path s := by
  -- The reports and the operands of a transform depend on its kind and its child only.
  have hchild : ∀ {param child : Datum} {c : Scene}, child.read (path ++ [1]) = .ok c →
      (∀ place, s.report? place = some (.applied kind.keyword place)) →
      (∀ i, s.operandAt? i = if i = 1 then some c else none) →
      CallReadAs kind.keyword [param, child] path s := by
    intro param child c hc hreport hoperand
    constructor
    · intro place r hr
      rw [hreport] at hr
      cases hr
      rfl
    · intro i c' hc'
      rw [hoperand] at hc'
      by_cases hi : i = 1
      · rw [if_pos hi] at hc'
        cases hc'
        subst hi
        exact ⟨child, rfl, Or.inl hc⟩
      · rw [if_neg hi] at hc'
        cases hc'
  unfold readTransform at h
  split at h
  · next param child =>
    cases kind with
    | annotate =>
      obtain ⟨c, hc, h⟩ := bind_eq_ok_iff.mp h
      cases h
      exact hchild hc (fun _ => rfl) fun _ => rfl
    | translate =>
      obtain ⟨offset, -, h⟩ := bind_eq_ok_iff.mp h
      obtain ⟨c, hc, h⟩ := bind_eq_ok_iff.mp h
      cases h
      exact hchild hc (fun _ => rfl) fun _ => rfl
    | adjust kind =>
      obtain ⟨c, hc, h⟩ := bind_eq_ok_iff.mp h
      split at h
      · cases h
      · unfold Scene.ofAdjustment at h
        split at h
        · cases h
        · cases h
        · cases h
        · cases h
          exact hchild hc (fun _ => rfl) fun _ => rfl
  · cases h

theorem callReadAs_of_readCombination {kind : CombinationKind} {args : List Datum} {path : Path}
    {s : Scene} (h : readCombination kind args path = .ok s) :
    CallReadAs kind.keyword args path s := by
  obtain ⟨op, smooth⟩ := kind
  unfold readCombination at h
  split at h
  · next hsmooth =>
    cases hsmooth
    split at h
    · next left right radius =>
      obtain ⟨l, hl, h⟩ := bind_eq_ok_iff.mp h
      obtain ⟨r, hr, h⟩ := bind_eq_ok_iff.mp h
      obtain ⟨k, hk, h⟩ := bind_eq_ok_iff.mp h
      cases h
      refine ⟨fun place r hr => by cases hr; rfl, fun i child hchild => ?_⟩
      rcases i with _ | _ | _ | i <;> cases hchild
      · exact ⟨left, rfl, Or.inl hl⟩
      · exact ⟨right, rfl, Or.inl hr⟩
      · exact ⟨radius, rfl, isReadAs_of_readOperand hk⟩
    · cases h
  · next hsmooth =>
    cases Bool.not_eq_true _ ▸ hsmooth
    split at h
    · next left right =>
      obtain ⟨l, hl, h⟩ := bind_eq_ok_iff.mp h
      obtain ⟨r, hr, h⟩ := bind_eq_ok_iff.mp h
      cases h
      refine ⟨fun place r hr => by cases hr; rfl, fun i child hchild => ?_⟩
      rcases i with _ | _ | i <;> cases hchild
      · exact ⟨left, rfl, Or.inl hl⟩
      · exact ⟨right, rfl, Or.inl hr⟩
    · cases h

theorem callReadAs_of_read {fields : List (String × Datum)} {path : Path} {s : Scene}
    (h : (record fields).read path = .ok s) :
    ∃ op args, GivesCall fields op args ∧ CallReadAs op args path s := by
  rcases givesCall_or_nodeDefect fields with ⟨op, args, hcall⟩ | ⟨defect, hdefect⟩
  swap
  · rw [read_of_nodeDefect hdefect] at h
    cases h
  refine ⟨op, args, hcall, ?_⟩
  rw [read_of_operatorAndArgs hcall.operatorAndArgs_eq] at h
  split at h
  · obtain ⟨texts, -, h⟩ := bind_eq_ok_iff.mp h
    cases h
    refine ⟨fun place r hr => ?_, fun i child hchild => ?_⟩
    · cases hr
    · cases hchild
  · split at h
    · next kind hkind =>
      rw [← TransformKind.keyword_of_ofKeyword? hkind]
      exact callReadAs_of_readTransform h
    · split at h
      · next kind hkind =>
        rw [← CombinationKind.keyword_of_ofKeyword? hkind]
        exact callReadAs_of_readCombination h
      · obtain ⟨operands, hoperands, h⟩ := bind_eq_ok_iff.mp h
        cases h
        refine ⟨fun place r hr => by cases hr; rfl, fun i child hchild => ?_⟩
        simpa using isReadAs_of_readOperands hoperands (Scene.operandAt?_unknown.mp hchild)

theorem Plain.argument {fields : List (String × Datum)} {op : String} {args : List Datum}
    {arg : Datum} (hplain : (Datum.record fields).Plain) (hcall : GivesCall fields op args)
    (harg : arg ∈ args) : arg.Plain := by
  cases hplain with
  | record hfields =>
    obtain ⟨front, back, rfl, -⟩ := List.lookup_eq_some_iff.mp hcall.arguments
    cases hfields ("args", .list args) (by simp) with
    | list hitems => exact hitems arg harg

/-- Plain data that are read as a scene are a record. -/
theorem Plain.eq_record {d : Datum} {path : Path} {s : Scene} (hplain : d.Plain)
    (hread : d.read path = .ok s) : ∃ fields, d = .record fields := by
  by_contra hrecord
  have hdefect : NodeDefect d (.notRecord d) := by
    refine .notRecord (fun fields h => hrecord ⟨fields, h⟩) fun s h => ?_
    subst h
    cases hplain
  rw [read_of_nodeDefect hdefect] at hread
  cases hread

/-- The record that an operator of a scene was read from is found at the address of the operator. -/
theorem Plain.argAt?_of_reports {d : Datum} {path place : Path} {s n : Scene} {address : List Nat}
    {r : Diagnostic} (hplain : d.Plain) (hread : d.read path = .ok s)
    (hnode : s.nodeAt? address = some n) (hreport : n.report? place = some r) :
    ∃ fields, d.argAt? address = some (.record fields) ∧
      fields.lookup "op" = some (.text r.name) ∧
      (Datum.record fields).read (path ++ address.map Int.ofNat) = .ok n := by
  induction address generalizing d path s with
  | nil =>
    cases hnode
    obtain ⟨fields, rfl⟩ := hplain.eq_record hread
    obtain ⟨op, args, hcall, hcallRead⟩ := callReadAs_of_read hread
    refine ⟨fields, rfl, ?_, by simpa using hread⟩
    rw [hcallRead.name place r hreport, hcall.operator]
  | cons i address ih =>
    obtain ⟨fields, rfl⟩ := hplain.eq_record hread
    obtain ⟨op, args, hcall, hcallRead⟩ := callReadAs_of_read hread
    rw [Scene.nodeAt?] at hnode
    split at hnode
    · next child hchild =>
      obtain ⟨arg, harg, hreads⟩ := hcallRead.operand i child hchild
      rcases hreads with hreads | ⟨text, rfl⟩
      · have hargPlain := hplain.argument hcall (List.mem_of_getElem? harg)
        obtain ⟨inner, hat, hop, hinner⟩ := ih hargPlain hreads hnode
        refine ⟨inner, ?_, hop, by simpa using hinner⟩
        rw [argAt?, hcall.arguments]
        dsimp only
        rw [harg]
        exact hat
      · -- A constant has neither a report nor operands.
        cases address with
        | nil =>
          cases hnode
          cases hreport
        | cons j address => cases hnode
    · cases hnode

end Datum

/-! ## Texts of paths -/

/-- An index is followed by a bracket, which is no digit. -/
theorem eq_of_toDigits_append {i j : Nat} {rest rest' : List Char}
    (h : Nat.toDigits 10 i ++ ']' :: rest = Nat.toDigits 10 j ++ ']' :: rest') :
    i = j ∧ rest = rest' := by
  have htake : ∀ n (rest : List Char),
      (Nat.toDigits 10 n ++ ']' :: rest).takeWhile Char.isDigit = Nat.toDigits 10 n := by
    intro n rest
    have hdigits : ∀ c ∈ Nat.toDigits 10 n, c.isDigit = true := fun c hc =>
      Nat.isDigit_of_mem_toDigits (by norm_num) (by norm_num) hc
    rw [List.takeWhile_append_of_pos hdigits, List.takeWhile_cons_of_neg (by decide),
      List.append_nil]
  have hdigits : Nat.toDigits 10 i = Nat.toDigits 10 j := by
    rw [← htake i rest, h, htake]
  have hij : i = j := by
    rw [← @Nat.ofDigitChars_ten_toDigits i, hdigits, Nat.ofDigitChars_ten_toDigits]
  subst hij
  simpa using h

theorem Path.toList_text (address : List Nat) :
    (Path.text (address.map Int.ofNat)).toList = "root".toList ++
      address.flatMap fun i => ".args[".toList ++ (Nat.toDigits 10 i ++ [']']) := by
  have hdigits : ∀ i : Nat, (Int.ofNat i).repr.toList = Nat.toDigits 10 i := fun i => by
    show (Nat.repr i).toList = Nat.toDigits 10 i
    simp
  simp [Path.text, List.flatMap_map, hdigits, -Int.ofNat_eq_natCast]

/-- Different addresses have different texts. -/
theorem Path.text_inj {p q : List Nat}
    (h : Path.text (p.map Int.ofNat) = Path.text (q.map Int.ofNat)) : p = q := by
  have hsteps := congrArg String.toList h
  rw [toList_text, toList_text, List.append_cancel_left_eq] at hsteps
  clear h
  induction p generalizing q with
  | nil =>
    cases q with
    | nil => rfl
    | cons j q => simp at hsteps
  | cons i p ih =>
    cases q with
    | nil => simp at hsteps
    | cons j q =>
      simp only [List.flatMap_cons, List.append_assoc, List.append_cancel_left_eq] at hsteps
      obtain ⟨rfl, hrest⟩ := eq_of_toDigits_append hsteps
      rw [ih hrest]

/-! ## The log of plain data -/

/-- Compiling plain data that are read as a scene, under the policy to defer, succeeds and logs
every operator of the scene exactly once, at its place and in order. -/
theorem compileScene_logsOperators {d : Datum} {s : Scene} (hplain : d.Plain)
    (hread : d.read [] = .ok s) :
    ∃ c log, (compileScene d "defer").result = (.ok c, log) ∧ LogsOperators d s log := by
  obtain ⟨c, log, hadds, hlog⟩ := (Scene.WellFormed.of_read hplain hread).compilesWithLog []
  refine ⟨c, log, ?_, ?_⟩
  · have hcompile : compileScene d "defer" = s.compile .defer [] :=
      compileScene_of_read .defer hread
    rw [hcompile]
    exact hadds []
  · refine ⟨Diagnostic.nodup_of_pairwise hlog.ordered, hlog.mem_iff, fun r hr => ?_,
      fun x hx y hy => Diagnostic.sublist_of_pairwise hlog.ordered hx hy⟩
    obtain ⟨address, hreports⟩ := (hlog.mem_iff r).mp hr
    have hpath : r.path = address.map Int.ofNat := hreports.path_eq
    obtain ⟨n, hnode, hreport⟩ := hreports
    obtain ⟨fields, hat, hop, hinner⟩ := hplain.argAt?_of_reports hread hnode hreport
    refine ⟨address, n, fields, hpath, hnode, hat, hop, ?_, fun other hother => ?_⟩
    · rw [hpath]
      exact hinner
    · rw [hpath] at hother
      exact Path.text_inj hother

/-- A union with an unknown operator above a transform. -/
theorem read_union_of_unknown :
    (Datum.ofCall "UNITE" [.ofCall "TWIST" [.ofCall "NOOP" [.null, .ofCall "circle" []]],
      .ofCall "circle" []]).Plain ∧
    (Datum.ofCall "UNITE" [.ofCall "TWIST" [.ofCall "NOOP" [.null, .ofCall "circle" []]],
      .ofCall "circle" []]).read [] = .ok (.combine .unite
        (.unknown "TWIST" [.scene (.annotate .null (.primitive "circle" []))])
        (.primitive "circle" [])) := by
  have hcircle : (Datum.ofCall "circle" []).Plain := .ofCall (by simp)
  have hnote : (Datum.ofCall "NOOP" [.null, .ofCall "circle" []]).Plain :=
    .ofCall (by simp [Datum.Plain.null, hcircle])
  have htwist : (Datum.ofCall "TWIST" [.ofCall "NOOP" [.null, .ofCall "circle" []]]).Plain :=
    .ofCall (by simp [hnote])
  refine ⟨.ofCall (by simp [htwist, hcircle]), ?_⟩
  simp +decide [Datum.read_ofCall, Datum.readCombination, Datum.readOperands,
    Datum.readOperand_ofCall, Datum.readTransform, Datum.literals, TransformKind.ofKeyword?,
    TransformKind.all, TransformKind.keyword, Adjustment.keyword, CombinationKind.ofKeyword?,
    CombinationKind.all, CombinationKind.keyword]

/-- The unknown operator is reported before the transform below it, and the union last. -/
theorem compileScene_logsOperators_union :
    ∃ c, (compileScene (.ofCall "UNITE" [.ofCall "TWIST" [.ofCall "NOOP" [.null,
        .ofCall "circle" []]], .ofCall "circle" []]) "defer").result =
      (.ok c, [.unknownOperator "TWIST" [0], .applied "NOOP" [0, 0], .applied "UNITE" []]) ∧
    LogsOperators (.ofCall "UNITE" [.ofCall "TWIST" [.ofCall "NOOP" [.null,
        .ofCall "circle" []]], .ofCall "circle" []])
      (.combine .unite (.unknown "TWIST" [.scene (.annotate .null (.primitive "circle" []))])
        (.primitive "circle" []))
      [.unknownOperator "TWIST" [0], .applied "NOOP" [0, 0], .applied "UNITE" []] := by
  obtain ⟨hplain, hread⟩ := read_union_of_unknown
  obtain ⟨c, log, hresult, hlogs⟩ := compileScene_logsOperators hplain hread
  have hlog :
      [.unknownOperator "TWIST" [0], .applied "NOOP" [0, 0], .applied "UNITE" []] = log := by
    have hcompile : compileScene _ "defer" = _ := compileScene_of_read .defer hread
    rw [hcompile] at hresult
    exact congrArg Prod.snd hresult
  subst hlog
  exact ⟨c, hresult, hlogs⟩

end SignedDistance
