import Mathlib
import SignedDistance.Proofs.Distances

/-!
# Runs of fusions

A run starts from a scene and fuses it with one scene after another, each time moving either the
scene that comes in or everything that is there already. The result is the union of all scenes of
the run, each moved by the offsets of the steps that moved it (`fuseAll_eq_union`). Offsets are
those that were written into the scene, with three places.
-/

namespace SignedDistance

/-- The number that is written for a value, zero if there is none. -/
def Datum.rounded (d : Datum) : ℚ :=
  match d.toDouble with
  | .ok x => toThousandths x.exact
  | .error _ => 0

/-! ## Runs -/

/-- A step of a run. -/
structure Fusion where
  /-- The scene that comes in. -/
  other : Scene
  /-- The first coordinate of the offset. -/
  dx : Datum
  /-- The second coordinate of the offset. -/
  dy : Datum
  /-- Whether the scene that is there already is moved, or else the one that comes in. -/
  movesCurrent : Bool

namespace Fusion

/-- The operand that stays in its place. -/
def primary (step : Fusion) (current : Scene) : Scene :=
  if step.movesCurrent then step.other else current

/-- The operand that is moved. -/
def secondary (step : Fusion) (current : Scene) : Scene :=
  if step.movesCurrent then current else step.other

/-- The scene after a step. -/
def apply (step : Fusion) (current : Scene) : Except FuseError Scene :=
  (step.primary current).fuse (step.secondary current) [step.dx, step.dy]

/-- The scene that comes in can be compiled and does not mention the coordinate, and the offset is
finite. -/
structure IsProper (step : Fusion) (coordinate : String) : Prop where
  avoids : step.other.Avoids coordinate
  dx_finite : ∃ x, step.dx.toDouble = .ok x
  dy_finite : ∃ y, step.dy.toDouble = .ok y

end Fusion

/-- The scene after a run. -/
def fuseAll (start : Scene) (steps : List Fusion) : Except FuseError Scene :=
  steps.foldlM (fun current step => step.apply current) start

/-- A scene of a run, with the steps that moved it. -/
structure Piece where
  /-- The scene. -/
  scene : Scene
  /-- The steps in which the scene was in the operand that is moved. -/
  moves : List Fusion

/-- The steps of a run that move the scene that is there already. -/
def moves (steps : List Fusion) : List Fusion :=
  steps.filter (·.movesCurrent)

/-- The scenes that come in during a run. A scene is moved by the step that it comes in with, unless
that moves the others, and by all later steps that move what is there. -/
def arrivals : List Fusion → List Piece
  | [] => []
  | step :: steps =>
    ⟨step.other, if step.movesCurrent then moves steps else step :: moves steps⟩ :: arrivals steps

/-- All scenes of a run. -/
def pieces (start : Scene) (steps : List Fusion) : List Piece :=
  ⟨start, moves steps⟩ :: arrivals steps

theorem map_scene_pieces (start : Scene) (steps : List Fusion) :
    (pieces start steps).map (·.scene) = start :: steps.map (·.other) := by
  have harrivals : (arrivals steps).map (·.scene) = steps.map (·.other) := by
    induction steps with
    | nil => rfl
    | cons step steps ih => rw [arrivals, List.map_cons, ih, List.map_cons]
  rw [pieces, List.map_cons, harrivals]

/-- The first step of a run moves one of two scenes and leaves the other one to the later steps. -/
theorem pieces_cons_perm (start : Scene) (step : Fusion) (steps : List Fusion) :
    (pieces start (step :: steps)).Perm (⟨step.primary start, moves steps⟩ ::
      ⟨step.secondary start, step :: moves steps⟩ :: arrivals steps) := by
  have hfilter : moves (step :: steps) =
      if step.movesCurrent then step :: moves steps else moves steps := List.filter_cons
  rw [pieces, arrivals, hfilter, Fusion.primary, Fusion.secondary]
  cases step.movesCurrent with
  | true => exact .swap _ _ _
  | false => exact .refl _

/-! ## Offsets -/

theorem parse_vec2 {u v : String} {a b : Expr} (hu : parse u = .ok a) (hv : parse v = .ok b) :
    parse ("vec2(" ++ u ++ ", " ++ v ++ ")") = .ok (.call "vec2" [a, b]) := by
  have hwritable : ∀ n ∈ (Expr.call "vec2" [.lit u, .lit v]).walk,
      n.IsWritable ∧ n.selectsInteger = false := by
    have hname : isIdentifier "vec2" = true := by decide
    refine Expr.forall_walk_call.mpr ⟨⟨hname, rfl⟩, ?_⟩
    simp only [List.mem_cons, List.not_mem_nil, or_false]
    rintro _ (rfl | rfl)
    · exact List.forall_mem_singleton.mpr ⟨⟨a, hu⟩, rfl⟩
    · exact List.forall_mem_singleton.mpr ⟨⟨b, hv⟩, rfl⟩
  have hrender : (Expr.call "vec2" [.lit u, .lit v]).render =
      .ok ("vec2(" ++ u ++ ", " ++ v ++ ")") := by
    have hopen : "vec2(" = "vec2" ++ "(" := rfl
    show Except.ok ("vec2" ++ "(" ++ (u ++ ", " ++ v) ++ ")") = _
    simp only [hopen, String.append_assoc]
  have hresolved : (Expr.call "vec2" [.lit u, .lit v]).resolved = .call "vec2" [a, b] := by
    simp only [Expr.resolved, Expr.resolvedAll, hu, hv]
  obtain ⟨text, htext, hparse⟩ := parse_of_render hwritable
  cases hrender.symm.trans htext
  rw [hparse, hresolved]

theorem name_notMem_walk_vec2 {name : String} {a b : Expr} (ha : Expr.name name ∉ a.walk)
    (hb : Expr.name name ∉ b.walk) : Expr.name name ∉ (Expr.call "vec2" [a, b]).walk := by
  simp [Expr.walk, Expr.walkAll, ha, hb]

/-- A union or a move, as a step brings them. -/
def Datum.isJoint : Datum → Bool
  | .scene (.combine .unite _ _) => true
  | .scene (.translate _ _) => true
  | _ => false

namespace Fusion

variable {step : Fusion} {current : Scene} {coordinate : String}

/-- The scene after a step whose offset has the given text. -/
def joined (step : Fusion) (current : Scene) (offset : String) : Scene :=
  .combine .unite (step.primary current) (.translate (.text offset) (step.secondary current))

/-- A step with a finite offset unites one operand with the other one moved. -/
theorem IsProper.exists_apply (h : step.IsProper coordinate) :
    ∃ u v, step.dx.scalarText = .ok u ∧ step.dy.scalarText = .ok v ∧
      ∀ current,
        step.apply current = .ok (step.joined current ("vec2(" ++ u ++ ", " ++ v ++ ")")) := by
  obtain ⟨x, hx⟩ := h.dx_finite
  obtain ⟨y, hy⟩ := h.dy_finite
  obtain ⟨u, hu⟩ := Datum.exists_scalarText hx
  obtain ⟨v, hv⟩ := Datum.exists_scalarText hy
  refine ⟨u, v, hu, hv, fun current => ?_⟩
  have htexts : offsetTexts [step.dx, step.dy] = .ok (u, v) := by
    simp [offsetTexts, hu, hv]
  rw [apply, Scene.fuse, htexts]
  rfl

theorem literal_offset {u v : String} (hu : step.dx.scalarText = .ok u)
    (hv : step.dy.scalarText = .ok v) :
    (Vocabulary.without coordinate).literal ("vec2(" ++ u ++ ", " ++ v ++ ")") := by
  obtain ⟨a, ha⟩ := exists_parse_of_scalarText hu
  obtain ⟨b, hb⟩ := exists_parse_of_scalarText hv
  have hfirst := (Vocabulary.without coordinate).amount hu a ha
  have hsecond := (Vocabulary.without coordinate).amount hv b hb
  exact Vocabulary.without_literal (parse_vec2 ha hb) (name_notMem_walk_vec2 hfirst hsecond)

theorem primary_avoids (hother : step.other.Avoids coordinate) (h : current.Avoids coordinate) :
    (step.primary current).Avoids coordinate := by
  unfold primary
  split
  · exact hother
  · exact h

theorem secondary_avoids (hother : step.other.Avoids coordinate) (h : current.Avoids coordinate) :
    (step.secondary current).Avoids coordinate := by
  unfold secondary
  split
  · exact h
  · exact hother

theorem walk_joined (offset : String) :
    (step.joined current offset).walk =
      .scene (step.joined current offset) :: ((step.primary current).walk ++
        .scene (.translate (.text offset) (step.secondary current)) ::
          (step.secondary current).walk) := by
  rw [joined, Scene.walk, Scene.walk]

theorem exists_walk_joined_perm (offset : String) :
    ∃ union move : Datum, union.isJoint = true ∧ move.isJoint = true ∧
      (step.joined current offset).walk.Perm
        (union :: move :: (current.walk ++ step.other.walk)) := by
  have hoperands : ((step.primary current).walk ++ (step.secondary current).walk).Perm
      (current.walk ++ step.other.walk) := by
    unfold primary secondary
    split
    · exact List.perm_append_comm
    · exact .refl _
  refine ⟨.scene (step.joined current offset),
    .scene (.translate (.text offset) (step.secondary current)), rfl, rfl, ?_⟩
  rw [walk_joined]
  exact (List.perm_middle.trans (hoperands.cons _)).cons _

theorem joined_avoids (hother : step.other.Avoids coordinate) (h : current.Avoids coordinate)
    {offset : String} (hoffset : (Vocabulary.without coordinate).literal offset) :
    (step.joined current offset).Avoids coordinate := by
  obtain ⟨hpwell, hpuses⟩ := primary_avoids hother h
  obtain ⟨hswell, hsuses⟩ := secondary_avoids hother h
  refine ⟨.combine .unite hpwell (.translate offset hswell), ?_⟩
  rw [walk_joined, List.forall_mem_cons, List.forall_mem_append, List.forall_mem_cons]
  exact ⟨trivial, hpuses, hoffset, hsuses⟩

theorem depth_joined (offset : String) :
    (step.joined current offset).depth =
      max (step.primary current).depth ((step.secondary current).depth + 1) + 1 := by
  rw [joined, Scene.depth, Scene.depth]

end Fusion

theorem fuseAll_cons (start : Scene) (step : Fusion) (steps : List Fusion) :
    fuseAll start (step :: steps) = step.apply start >>= fun next => fuseAll next steps :=
  List.foldlM_cons

theorem exists_fuseAll {start : Scene} {steps : List Fusion} {coordinate : String}
    (hstart : start.Avoids coordinate) (hsteps : ∀ step ∈ steps, step.IsProper coordinate) :
    ∃ r, fuseAll start steps = .ok r ∧ r.Avoids coordinate := by
  induction steps generalizing start with
  | nil => exact ⟨start, rfl, hstart⟩
  | cons step steps ih =>
    obtain ⟨hstep, hsteps⟩ := List.forall_mem_cons.mp hsteps
    obtain ⟨u, v, hu, hv, happly⟩ := hstep.exists_apply
    rw [fuseAll_cons, happly, ok_bind]
    exact ih (Fusion.joined_avoids hstep.avoids hstart (Fusion.literal_offset hu hv)) hsteps

/-- Every scene of a run occurs once in its result, beside two nodes for each step. -/
theorem exists_walk_fuseAll_perm {start r : Scene} {steps : List Fusion} {coordinate : String}
    (hsteps : ∀ step ∈ steps, step.IsProper coordinate) (hr : fuseAll start steps = .ok r) :
    ∃ joints : List Datum, joints.length = 2 * steps.length ∧ (∀ d ∈ joints, d.isJoint = true) ∧
      r.walk.Perm (joints ++ (start :: steps.map (·.other)).flatMap Scene.walk) := by
  induction steps generalizing start with
  | nil =>
    cases hr
    exact ⟨[], rfl, by simp, by simp⟩
  | cons step steps ih =>
    obtain ⟨hstep, hsteps⟩ := List.forall_mem_cons.mp hsteps
    obtain ⟨u, v, -, -, happly⟩ := hstep.exists_apply
    rw [fuseAll_cons, happly, ok_bind] at hr
    obtain ⟨joints, hlength, hjoints, hperm⟩ := ih hsteps hr
    obtain ⟨union, move, hunion, hmove, hwalk⟩ :=
      @Fusion.exists_walk_joined_perm step start ("vec2(" ++ u ++ ", " ++ v ++ ")")
    refine ⟨union :: move :: joints, ?_, ?_, hperm.trans ?_⟩
    · simp only [List.length_cons, hlength]
      omega
    · exact List.forall_mem_cons.mpr ⟨hunion, List.forall_mem_cons.mpr ⟨hmove, hjoints⟩⟩
    · simp only [List.flatMap_cons, List.map_cons]
      refine ((hwalk.append_right _).append_left joints).trans ?_
      refine (List.perm_append_comm_assoc joints [union, move] _).trans ?_
      simp only [List.cons_append, List.nil_append, List.append_eq, List.append_assoc]
      exact .refl _

/-- The depth of the scene after each step of a run. -/
theorem depth_fuseAll {start : Scene} {before : List Fusion} {step : Fusion} {coordinate : String}
    (hstart : start.Avoids coordinate) (hbefore : ∀ step ∈ before, step.IsProper coordinate)
    (hstep : step.IsProper coordinate) :
    ∃ current next, fuseAll start before = .ok current ∧
      fuseAll start (before ++ [step]) = .ok next ∧
      next.depth = max (step.primary current).depth ((step.secondary current).depth + 1) + 1 := by
  obtain ⟨current, hcurrent, -⟩ := exists_fuseAll hstart hbefore
  obtain ⟨u, v, -, -, happly⟩ := hstep.exists_apply
  refine ⟨current, _, hcurrent, ?_, Fusion.depth_joined ("vec2(" ++ u ++ ", " ++ v ++ ")")⟩
  rw [fuseAll, List.foldlM_append]
  show (fuseAll start before >>= _) = _
  rw [hcurrent, ok_bind, List.foldlM_cons, happly]
  rfl

/-! ## Distances of a step -/

theorem Scene.HasDistanceAt.unique {α : Type} [Scalar α] {library : Library α} {coordinate : String}
    {s : Scene} {x y d d' : α} (h : s.HasDistanceAt library coordinate x y d)
    (h' : s.HasDistanceAt library coordinate x y d') : d = d' := by
  obtain ⟨c, hc, hd⟩ := h
  obtain ⟨c', hc', hd'⟩ := h'
  cases hc.symm.trans hc'
  exact Tensor.scalar_inj (Except.ok.inj (hd.symm.trans hd'))

section Exact

variable {K : Type} [Field K] [LinearOrder K] [IsStrictOrderedRing K] [Scalar K] [ExactScalar K]
  {library : Library K} {coordinate : String}

theorem evalText_rounded {d : Datum} {text : String} (h : d.scalarText = .ok text) :
    Expr.evalText library [] text = .ok (.number (d.rounded : K)) := by
  obtain ⟨x, -, hx, -⟩ := Datum.scalarText_eq_ok_iff.mp h
  rw [evalText_amount hx h, Datum.rounded, hx]

theorem evalText_vec2 {d d' : Datum} {u v : String} (hu : d.scalarText = .ok u)
    (hv : d'.scalarText = .ok v) :
    Expr.evalText library [] ("vec2(" ++ u ++ ", " ++ v ++ ")") =
      .ok (.pair (d.rounded : K) (d'.rounded : K)) := by
  obtain ⟨a, ha⟩ := exists_parse_of_scalarText hu
  obtain ⟨b, hb⟩ := exists_parse_of_scalarText hv
  rw [evalText_of_parse (parse_vec2 ha hb) (.error .unboundCoordinate), evalAt_call]
  simp only [List.mapM_cons, List.mapM_nil, ← evalText_of_parse ha, ← evalText_of_parse hb,
    evalText_rounded hu, evalText_rounded hv, ok_bind, pure_bind, callFunction_vec2]

namespace Fusion

variable {step : Fusion} {current : Scene} {offset : String}

theorem meaning_joined
    (hoffset : Expr.evalText library [] offset =
      .ok (.pair (step.dx.rounded : K) (step.dy.rounded : K))) (x y : K) :
    (step.joined current offset).meaning library [] (.ok (.pair x y)) = (do
      let a ← (step.primary current).meaning library [] (.ok (.pair x y))
      let b ← (step.secondary current).meaning library []
        (.ok (.pair (x - step.dx.rounded) (y - step.dy.rounded)))
      callFunction library "min" [a, b]) := by
  simp only [joined, Scene.meaning, Datum.value, hoffset, ok_bind, Value.pair_sub_pair,
    Combination.sharp]

/-- What a step does to a scene. -/
structure Joins (library : Library K) (coordinate : String) (step : Fusion)
    (current next : Scene) : Prop where
  apply_eq : step.apply current = .ok next
  avoids : next.Avoids coordinate
  /-- The distance is the lesser of those of the operands. -/
  hasDistanceAt : ∀ {x y a b}, (step.primary current).HasDistanceAt library coordinate x y a →
    (step.secondary current).HasDistanceAt library coordinate (x - step.dx.rounded)
      (y - step.dy.rounded) b → next.HasDistanceAt library coordinate x y (min a b)
  /-- There is no distance where one of the operands has none. -/
  failsAt : ∀ {x y}, (step.primary current).FailsAt library coordinate x y ∨
    (step.secondary current).FailsAt library coordinate (x - step.dx.rounded)
      (y - step.dy.rounded) → next.FailsAt library coordinate x y

variable (library) in
theorem IsProper.exists_joins (hstep : step.IsProper coordinate)
    (hcurrent : current.Avoids coordinate) :
    ∃ next, step.Joins library coordinate current next := by
  obtain ⟨u, v, hu, hv, happly⟩ := hstep.exists_apply
  have hoffset := @evalText_vec2 K _ _ _ _ _ library _ _ u v hu hv
  have hprimary := primary_avoids hstep.avoids hcurrent
  have hsecondary := secondary_avoids hstep.avoids hcurrent
  have hjoined := joined_avoids hstep.avoids hcurrent (literal_offset hu hv)
  refine ⟨_, happly current, hjoined, ?_, ?_⟩
  · intro x y a b ha hb
    rw [hprimary.hasDistanceAt_iff] at ha
    rw [hsecondary.hasDistanceAt_iff] at hb
    rw [hjoined.hasDistanceAt_iff, meaning_joined hoffset, ha, ok_bind, hb, ok_bind,
      callFunction_min]
  · intro x y hfails
    rw [hprimary.failsAt_iff, hsecondary.failsAt_iff] at hfails
    rw [hjoined.failsAt_iff, meaning_joined hoffset]
    rcases hfails with ⟨e, he⟩ | ⟨e, he⟩
    · exact ⟨e, by rw [he]; rfl⟩
    · cases (step.primary current).meaning library [] (.ok (.pair x y)) with
      | error e' => exact ⟨e', rfl⟩
      | ok a => exact ⟨e, by rw [ok_bind, he]; rfl⟩

end Fusion

/-! ## Distances of a run -/

namespace Piece

/-- The scene of the piece has a distance at a point less the offsets that moved the piece. -/
def HasDistanceAt (library : Library K) (coordinate : String) (p : Piece) (x y d : K) : Prop :=
  p.scene.HasDistanceAt library coordinate
    (x - (p.moves.map fun step => (step.dx.rounded : K)).sum)
    (y - (p.moves.map fun step => (step.dy.rounded : K)).sum) d

/-- The scene of the piece has no distance at a point less the offsets that moved the piece. -/
def FailsAt (library : Library K) (coordinate : String) (p : Piece) (x y : K) : Prop :=
  p.scene.FailsAt library coordinate
    (x - (p.moves.map fun step => (step.dx.rounded : K)).sum)
    (y - (p.moves.map fun step => (step.dy.rounded : K)).sum)

omit [LinearOrder K] [IsStrictOrderedRing K] [ExactScalar K] in
theorem hasDistanceAt_cons {s : Scene} {step : Fusion} {steps : List Fusion} {x y d : K} :
    (Piece.mk s (step :: steps)).HasDistanceAt library coordinate x y d ↔
      s.HasDistanceAt library coordinate
        (x - (steps.map fun step => (step.dx.rounded : K)).sum - step.dx.rounded)
        (y - (steps.map fun step => (step.dy.rounded : K)).sum - step.dy.rounded) d := by
  simp only [HasDistanceAt, List.map_cons, List.sum_cons, sub_sub, add_comm]

omit [LinearOrder K] [IsStrictOrderedRing K] [ExactScalar K] in
theorem failsAt_cons {s : Scene} {step : Fusion} {steps : List Fusion} {x y : K} :
    (Piece.mk s (step :: steps)).FailsAt library coordinate x y ↔
      s.FailsAt library coordinate
        (x - (steps.map fun step => (step.dx.rounded : K)).sum - step.dx.rounded)
        (y - (steps.map fun step => (step.dy.rounded : K)).sum - step.dy.rounded) := by
  simp only [FailsAt, List.map_cons, List.sum_cons, sub_sub, add_comm]

end Piece

section Run

variable {start r : Scene} {steps : List Fusion}

/-- The distance of a run is the least of those of its pieces. -/
theorem hasDistanceAt_fuseAll (hstart : start.Avoids coordinate)
    (hsteps : ∀ step ∈ steps, step.IsProper coordinate) (hr : fuseAll start steps = .ok r) {x y : K}
    (hpieces : ∀ p ∈ pieces start steps, ∃ d, p.HasDistanceAt library coordinate x y d) :
    ∃ m, r.HasDistanceAt library coordinate x y m ∧
      IsLeast {d | ∃ p ∈ pieces start steps, p.HasDistanceAt library coordinate x y d} m := by
  -- The scene after the first step starts the rest of the run. As a piece of the rest it stands for
  -- the two operands of the step, with the lesser of their distances.
  induction steps generalizing start with
  | nil =>
    cases hr
    obtain ⟨d, hd⟩ := hpieces _ List.mem_cons_self
    refine ⟨d, by simpa [Piece.HasDistanceAt, moves] using hd, ⟨_, List.mem_cons_self, hd⟩, ?_⟩
    rintro d' ⟨p, hp, hd'⟩
    cases List.mem_singleton.mp hp
    exact (hd.unique hd').le
  | cons step steps ih =>
    obtain ⟨hstep, hsteps⟩ := List.forall_mem_cons.mp hsteps
    obtain ⟨next, hjoins⟩ := hstep.exists_joins library hstart
    rw [fuseAll_cons, hjoins.apply_eq, ok_bind] at hr
    have hperm := pieces_cons_perm start step steps
    simp only [hperm.mem_iff, List.forall_mem_cons] at hpieces
    obtain ⟨⟨a, ha⟩, ⟨b, hb⟩, hrest⟩ := hpieces
    have hnext : (Piece.mk next (moves steps)).HasDistanceAt library coordinate x y (min a b) :=
      hjoins.hasDistanceAt ha (Piece.hasDistanceAt_cons.mp hb)
    obtain ⟨m, hm, ⟨p, hp, hpm⟩, hleast⟩ :=
      ih hjoins.avoids hsteps hr (List.forall_mem_cons.mpr ⟨⟨_, hnext⟩, hrest⟩)
    have hmin : m ≤ min a b := hleast ⟨_, List.mem_cons_self, hnext⟩
    refine ⟨m, hm, ?_, ?_⟩
    · rcases List.mem_cons.mp hp with rfl | hp
      · rcases min_choice a b with hchoice | hchoice
        · exact ⟨_, hperm.mem_iff.mpr (by simp), (hpm.unique hnext).trans hchoice ▸ ha⟩
        · exact ⟨_, hperm.mem_iff.mpr (by simp), (hpm.unique hnext).trans hchoice ▸ hb⟩
      · exact ⟨p, hperm.mem_iff.mpr (by simp [hp]), hpm⟩
    · rintro d ⟨q, hq, hqd⟩
      rw [hperm.mem_iff, List.mem_cons, List.mem_cons] at hq
      rcases hq with rfl | rfl | hq
      · exact (hmin.trans (min_le_left a b)).trans_eq (ha.unique hqd)
      · exact (hmin.trans (min_le_right a b)).trans_eq (hb.unique hqd)
      · exact hleast ⟨q, List.mem_cons_of_mem _ hq, hqd⟩

/-- A run has no distance where one of its pieces has none. -/
theorem failsAt_fuseAll (hstart : start.Avoids coordinate)
    (hsteps : ∀ step ∈ steps, step.IsProper coordinate) (hr : fuseAll start steps = .ok r) {x y : K}
    (hfails : ∃ p ∈ pieces start steps, p.FailsAt library coordinate x y) :
    r.FailsAt library coordinate x y := by
  induction steps generalizing start with
  | nil =>
    cases hr
    obtain ⟨p, hp, hfails⟩ := hfails
    cases List.mem_singleton.mp hp
    simpa [Piece.FailsAt, moves] using hfails
  | cons step steps ih =>
    obtain ⟨hstep, hsteps⟩ := List.forall_mem_cons.mp hsteps
    obtain ⟨next, hjoins⟩ := hstep.exists_joins library hstart
    rw [fuseAll_cons, hjoins.apply_eq, ok_bind] at hr
    refine ih hjoins.avoids hsteps hr ?_
    obtain ⟨p, hp, hfails⟩ := hfails
    rw [(pieces_cons_perm start step steps).mem_iff, List.mem_cons, List.mem_cons] at hp
    rcases hp with rfl | rfl | hp
    · exact ⟨⟨next, moves steps⟩, List.mem_cons_self, hjoins.failsAt (.inl hfails)⟩
    · exact ⟨⟨next, moves steps⟩, List.mem_cons_self,
        hjoins.failsAt (.inr (Piece.failsAt_cons.mp hfails))⟩
    · exact ⟨p, List.mem_cons_of_mem _ hp, hfails⟩

end Run

/-- The result of a run of fusions is the union of all its pieces at their accumulated offsets: its
distance at a point is the least of the distances that the pieces have there less the offsets that
moved them, and it has none where one of the pieces has none. Every piece occurs once, and the depth
of the scene grows as the operands of each step say. -/
theorem fuseAll_eq_union (library : Library K) {start : Scene} {steps : List Fusion}
    (hstart : start.Avoids coordinate) (hsteps : ∀ step ∈ steps, step.IsProper coordinate) :
    ∃ r, fuseAll start steps = .ok r ∧
      (∀ x y : K, (∀ p ∈ pieces start steps, ∃ d, p.HasDistanceAt library coordinate x y d) →
        ∃ m, r.HasDistanceAt library coordinate x y m ∧
          IsLeast {d | ∃ p ∈ pieces start steps, p.HasDistanceAt library coordinate x y d} m) ∧
      (∀ x y : K, (∃ p ∈ pieces start steps, p.FailsAt library coordinate x y) →
        r.FailsAt library coordinate x y) ∧
      (pieces start steps).map (·.scene) = start :: steps.map (·.other) ∧
      (∃ joints : List Datum, joints.length = 2 * steps.length ∧
        (∀ d ∈ joints, d.isJoint = true) ∧
          r.walk.Perm (joints ++ (start :: steps.map (·.other)).flatMap Scene.walk)) ∧
      ∀ before step after, steps = before ++ step :: after →
        ∃ current next, fuseAll start before = .ok current ∧
          fuseAll start (before ++ [step]) = .ok next ∧
            next.depth =
              max (step.primary current).depth ((step.secondary current).depth + 1) + 1 := by
  obtain ⟨r, hr, -⟩ := exists_fuseAll hstart hsteps
  refine ⟨r, hr, fun x y hpieces => hasDistanceAt_fuseAll hstart hsteps hr hpieces,
    fun x y hfails => failsAt_fuseAll hstart hsteps hr hfails, map_scene_pieces start steps,
    exists_walk_fuseAll_perm hsteps hr, ?_⟩
  rintro before step after rfl
  rw [List.forall_mem_append, List.forall_mem_cons] at hsteps
  exact depth_fuseAll hstart hsteps.1 hsteps.2.1

end Exact

/-- A run with circles: one comes in moved, and then both are moved where another one comes in. -/
def circleRun : List Fusion :=
  [⟨.primitive "circle" [.text "1.0"], .text "0.25", .int 1, false⟩,
    ⟨.primitive "circle" [.text "1.0"], .text "-1.5", .int 0, true⟩]

theorem fuseAll_eq_union_circles :
    ∃ r, fuseAll (.primitive "circle" [.text "1.0"]) circleRun = .ok r ∧
      ∀ x y : ℝ, ∃ m, r.HasDistanceAt Library.standard "p" x y m ∧
        IsLeast {d | ∃ p ∈ pieces (.primitive "circle" [.text "1.0"]) circleRun,
          p.HasDistanceAt Library.standard "p" x y d} m := by
  have hparse : parse "1.0" = .ok (.number "1.0") := by cbv
  have hliteral : (Vocabulary.without "p").literal "1.0" :=
    Vocabulary.without_literal hparse (by simp [Expr.walk])
  have hradius : Expr.evalText (Library.standard : Library ℝ) [] "1.0" =
      .ok (.number ((10 : Nat) * 10 ^ (-1 : Int))) :=
    evalText_decimal hparse (by cbv)
  have havoids := circle_avoids hliteral
  have hfinite : ∀ d ∈ [Datum.text "0.25", .int 1, .text "-1.5", .int 0],
      ∃ x, d.toDouble = .ok x := by
    have hsome : ∀ d ∈ [Datum.text "0.25", .int 1, .text "-1.5", .int 0],
        d.toDouble.toOption.isSome = true := by decide +kernel
    intro d hd
    obtain ⟨x, hx⟩ := Option.isSome_iff_exists.mp (hsome d hd)
    exact ⟨x, eq_ok_of_toOption hx⟩
  have hsteps : ∀ step ∈ circleRun, step.IsProper "p" := by
    simp only [circleRun, List.forall_mem_cons, List.not_mem_nil, false_implies, implies_true,
      and_true] at hfinite ⊢
    exact ⟨⟨havoids, hfinite.1, hfinite.2.1⟩, ⟨havoids, hfinite.2.2.1, hfinite.2.2.2⟩⟩
  have hscenes : ∀ p ∈ pieces (.primitive "circle" [.text "1.0"]) circleRun,
      p.scene = .primitive "circle" [.text "1.0"] := by
    intro p hp
    have hscene := List.mem_map_of_mem (f := Piece.scene) hp
    rw [map_scene_pieces] at hscene
    simpa [circleRun] using hscene
  obtain ⟨r, hr, hdistance, -⟩ := fuseAll_eq_union (Library.standard : Library ℝ) havoids hsteps
  refine ⟨r, hr, fun x y => hdistance x y fun p hp => ?_⟩
  unfold Piece.HasDistanceAt
  rw [hscenes p hp]
  exact ⟨_, hasDistanceAt_circle hliteral hradius _ _⟩

end SignedDistance
