import Mathlib
import SignedDistance.Grid.Basic
import SignedDistance.Proofs.SinglePoints
import SignedDistance.Proofs.TextPath

/-!
# Sampling

Scenes are evaluated at many points at once. The result has at each index the distance that the
scene has at the point there (`evaluate_eq_pointwise`), and it exists if all these distances do.
Expressions have kinds that can be told without evaluating them (`Expr.kind?`); this is how
primitives with arguments of other kinds than their parameters are kept out.
-/

namespace SignedDistance

open Tensor

/-! ## Kinds of expressions -/

/-- The kind of a selection of components. -/
def selectionKind? (fields : String) : Option Kind :=
  match swizzleIndices? fields.toList with
  | some [_] => some .float
  | some ks => some (.vec ks.length)
  | none => none

namespace Expr

section Kinds

variable (coordinate : String)

mutual

/-- The kind of the value of an expression, if it has one. The coordinate, which may also be
referred to by its name, is a vector with two components. -/
def kind? : Expr → Option Kind
  | .coord _ => some (.vec 2)
  | .name ident => if ident = coordinate then some (.vec 2) else none
  | .number _ => some .float
  | .call fn args => callKind? fn (kinds? args)
  | .binary op lhs rhs => do binaryKind? op (← kind? lhs) (← kind? rhs)
  | .neg operand => kind? operand
  | .swizzle _ fields => selectionKind? fields
  | _ => none

/-- The kinds of several expressions. -/
def kinds? : List Expr → List (Option Kind)
  | [] => []
  | e :: es => kind? e :: kinds? es

end

/-- Whether a node can be evaluated at many points at once: literals are parsed, the coordinate is
the only name, and functions are called that work at each point. -/
def IsSampledNode : Expr → Prop
  | .lit _ => False
  | .name ident => ident = coordinate
  | .call fn args => CallsPointwise fn (kinds? coordinate args)
  | _ => True

/-- An expression that is a number at each of many points. -/
structure IsSampled (e : Expr) : Prop where
  /-- All nodes can be evaluated at many points. -/
  nodes : ∀ n ∈ e.walk, n.IsSampledNode coordinate
  /-- The expression is a number. -/
  kind : e.kind? coordinate = some .float

instance : (e : Expr) → Decidable (e.IsSampledNode coordinate)
  | .lit _ => .isFalse id
  | .name ident => inferInstanceAs (Decidable (ident = coordinate))
  | .call fn args => inferInstanceAs (Decidable (CallsPointwise fn (kinds? coordinate args)))
  | .coord _ | .stray _ | .number _ | .pending _ | .blank | .binary _ _ _ | .neg _ | .swizzle _ _ =>
    .isTrue trivial

instance (e : Expr) : Decidable (e.IsSampled coordinate) :=
  decidable_of_iff ((∀ n ∈ e.walk, n.IsSampledNode coordinate) ∧ e.kind? coordinate = some .float)
    ⟨fun h => ⟨h.1, h.2⟩, fun h => ⟨h.nodes, h.kind⟩⟩

end Kinds

end Expr

section Evaluation

variable {α : Type} {coordinate : String}

theorem selectionKind?_of_select {v u : Value α} {fields : String} (h : v.select fields = .ok u) :
    selectionKind? fields = some u.kind := by
  obtain ⟨k, data⟩ := v
  rcases @Value.select_cases α k fields with ⟨e, -, he⟩ | ⟨n, m, -, -, hindices, hselect⟩ |
    ⟨n, ks, -, -, hindices, ⟨hlength, -⟩, hselect⟩
  · cases (he data).symm.trans h
  · rw [hselect] at h
    rw [selectionKind?, hindices, kind_of_bind h]
  · rw [hselect] at h
    rw [selectionKind?, hindices, kind_of_bind h]
    match ks, hlength with
    | _ :: _ :: _, _ => rfl

variable [Scalar α] {library : Library α}

namespace Expr

theorem kinds?_of_evalAllWith {env : Environment α} {here : Evaluated (Value α)}
    {literal : String → Evaluated (Value α)} {es : List Expr}
    (hkind : ∀ e ∈ es, ∀ v, e.evalWith library env here literal = .ok v →
      e.kind? coordinate = some v.kind) {vs : List (Value α)}
    (h : evalAllWith library env here literal es = .ok vs) :
    kinds? coordinate es = vs.map fun v => some v.kind := by
  induction es generalizing vs with
  | nil =>
    cases h
    rfl
  | cons e es ih =>
    rw [evalAllWith] at h
    obtain ⟨v, hv, h⟩ := bind_eq_ok_iff.mp h
    obtain ⟨rest, hrest, h⟩ := bind_eq_ok_iff.mp h
    cases h
    rw [kinds?, hkind e List.mem_cons_self v hv,
      ih (fun a ha => hkind a (List.mem_cons_of_mem e ha)) hrest]
    rfl

/-- The value of an expression has the kind foretold, if the coordinate is a vector with two
components. -/
theorem kind?_of_evalWith {env : Environment α} {here : Evaluated (Value α)}
    {literal : String → Evaluated (Value α)}
    (hhere : ∀ v, here = .ok v → v.kind = .vec 2)
    (henv : ∀ ident v, env.find ident = .ok v → ident = coordinate ∧ v.kind = .vec 2) {e : Expr}
    (hnodes : ∀ n ∈ e.walk, n.IsSampledNode coordinate) {v : Value α}
    (h : e.evalWith library env here literal = .ok v) : e.kind? coordinate = some v.kind := by
  induction e generalizing v with
  | coord label => rw [kind?, hhere v h]
  | lit text => exact (hnodes _ (mem_walk_self _)).elim
  | stray value => cases h
  | name ident =>
    obtain ⟨rfl, hkind⟩ := henv ident v h
    rw [kind?, if_pos rfl, hkind]
  | number text =>
    rw [evalWith, numberValue] at h
    split at h
    · cases h
      rfl
    · cases h
  | pending op => cases h
  | blank => cases h
  | call fn args ih =>
    rw [evalWith] at h
    obtain ⟨vs, hvs, h⟩ := bind_eq_ok_iff.mp h
    have hkinds := kinds?_of_evalAllWith
      (fun a ha v hv => ih a ha ((forall_walk_call.mp hnodes).2 a ha) hv) hvs
    rw [kind?, hkinds]
    exact callKind?_of_callFunction h
  | binary op lhs rhs ihl ihr =>
    obtain ⟨-, hl, hr⟩ := forall_walk_binary.mp hnodes
    rw [evalWith] at h
    obtain ⟨a, ha, h⟩ := bind_eq_ok_iff.mp h
    obtain ⟨b, hb, h⟩ := bind_eq_ok_iff.mp h
    rw [kind?, ihl hl ha, ihr hr hb]
    exact binaryKind?_of_binary h
  | neg operand ih =>
    rw [evalWith] at h
    obtain ⟨a, ha, h⟩ := bind_eq_ok_iff.mp h
    cases h
    have hkind := ih (forall_walk_neg.mp hnodes).2 ha
    exact hkind
  | swizzle operand fields ih =>
    rw [evalWith] at h
    obtain ⟨a, ha, h⟩ := bind_eq_ok_iff.mp h
    exact selectionKind?_of_select h

omit [Scalar α] in
theorem find_singleton {points : Value α} (hkind : points.kind = .vec 2) (ident : String)
    (v : Value α) (h : Environment.find [(coordinate, points)] ident = .ok v) :
    ident = coordinate ∧ v.kind = .vec 2 := by
  rw [Environment.find, List.lookup_cons] at h
  cases hname : ident == coordinate with
  | false =>
    rw [hname] at h
    cases h
  | true =>
    rw [hname] at h
    cases h
    exact ⟨beq_iff_eq.mp hname, hkind⟩

/-- To evaluate an expression at many points is to evaluate it at each of them. -/
theorem agrees_evalWith {bs : Axes} (hbs : 0 < volume bs) {points : Value α}
    (hpoints : points.Batched bs) (hkind : points.kind = .vec 2)
    {literal : String → Evaluated (Value α)} {literals : Index bs → String → Evaluated (Value α)}
    {e : Expr} (hnodes : ∀ n ∈ e.walk, n.IsSampledNode coordinate) :
    AgreesValue
      (e.evalWith Library.standard [(coordinate, points)] (.ok points) literal)
      fun i : Index bs => e.evalWith Library.standard [(coordinate, points.atPoint i)]
        (.ok (points.atPoint i)) (literals i) := by
  induction e with
  | coord label => exact ⟨hpoints, fun i => rfl⟩
  | lit text => exact (hnodes _ (mem_walk_self _)).elim
  | stray value => exact .error hbs
  | name ident =>
    obtain rfl : ident = coordinate := hnodes _ (mem_walk_self _)
    simp only [evalWith, Environment.find, List.lookup_cons, beq_self_eq_true]
    exact ⟨hpoints, fun i => rfl⟩
  | number text =>
    simp only [evalWith, numberValue]
    cases Numeral.parse? text with
    | none => exact .error hbs
    | some n =>
      exact ⟨⟨rfl, trivial⟩, fun i => congrArg (Except.ok ∘ Value.float) (atPoint_scalar _ i).symm⟩
  | pending op => exact .error hbs
  | blank => exact .error hbs
  | call fn args ih =>
    obtain ⟨hself, hargs⟩ := forall_walk_call.mp hnodes
    simp only [evalWith, evalAllWith_eq_mapM]
    refine (Agrees.mapM fun a ha => ih a ha (hargs a ha)).bind fun vs hvs hbatched => ?_
    have hpoint : ∀ w, Except.ok points = (.ok w : Evaluated (Value α)) → w.kind = .vec 2 := by
      rintro w ⟨⟩
      exact hkind
    have hkinds : kinds? coordinate args = vs.map fun v => some v.kind :=
      kinds?_of_evalAllWith (fun a ha v hv => kind?_of_evalWith hpoint (find_singleton hkind)
        (hargs a ha) hv) ((evalAllWith_eq_mapM args).trans hvs)
    exact agrees_callFunction hbs hbatched (hkinds ▸ hself)
  | binary op lhs rhs ihl ihr =>
    obtain ⟨-, hl, hr⟩ := forall_walk_binary.mp hnodes
    simp only [evalWith]
    refine (ihl hl).bind fun a _ ha => ?_
    refine (ihr hr).bind fun b _ hb => ?_
    exact agrees_binary hbs op ha hb
  | neg operand ih =>
    simp only [evalWith]
    exact (ih (forall_walk_neg.mp hnodes).2).bind fun a _ ha => agrees_negate ha
  | swizzle operand fields ih =>
    simp only [evalWith]
    exact (ih (forall_walk_swizzle.mp hnodes).2).bind fun a _ ha => agrees_select hbs ha fields

end Expr

/-! ## Scenes -/

/-- The point at an index of an array of points. -/
def pointAt {bs : Axes} (data : Vector α (volume (2 :: bs))) (i : Index bs) : Tensor α :=
  .ofFn [2] fun k => Tensor.get ⟨2 :: bs, data⟩ (k.1, i)

omit [Scalar α] in
theorem atPoint_points {bs : Axes} (data : Vector α (volume (2 :: bs))) (i : Index bs) :
    Tensor.atPoint ⟨2 :: bs, data⟩ 1 i = pointAt data i := by
  have hfits : Fits bs bs := fits_refl bs
  refine (dif_pos hfits).trans (congrArg (ofFn [2]) (funext fun k => ?_))
  show Tensor.get ⟨2 :: bs, data⟩ (k.1, i.clip hfits) = _
  rw [Index.clip_self]

omit [Scalar α] in
theorem batched_points {bs : Axes} (data : Vector α (volume (2 :: bs))) :
    Value.Batched ⟨.vec 2, ⟨2 :: bs, data⟩⟩ bs :=
  ⟨rfl, fits_refl bs⟩

/-- The distances of a scene are the value of its expression, with the literals parsed, at the
points. -/
theorem evaluate_eq_evalWith (c : Compiled) {t : Tensor α} {v : Value α}
    (hv : Value.ofArray coordinate t = .ok v) :
    c.evaluate library t coordinate =
      (c.expr.resolved.evalWith library [(coordinate, v)] (.ok v)
        (Expr.evalText library [(coordinate, v)]) >>= fun w => .ok w.data) := by
  have hname : (Expr.name coordinate).evalAt library [(coordinate, v)] (.error .unboundCoordinate) =
      .ok v := by
    simp [Expr.evalAt, Expr.evalWith, Environment.find]
  have hexpr : (c.expr.substitute (.name coordinate)).eval library [(coordinate, v)] =
      c.expr.resolved.evalAt library [(coordinate, v)] (.ok v) := by
    rw [Expr.eval, Expr.evalAt_substitute, hname, Expr.evalAt_resolved]
  rw [Compiled.evaluate, hv]
  show ((c.expr.substitute (.name coordinate)).eval library [(coordinate, v)] >>= _) = _
  rw [hexpr]
  rfl

/-- The distances of a scene at many points are its distances at each of them. -/
theorem agrees_evaluate {c : Compiled} (h : c.expr.resolved.IsSampled coordinate) {bs : Axes}
    (hbs : 0 < volume bs) (data : Vector α (volume (2 :: bs))) :
    Agrees (fun t => t.Batched [] bs) (fun i t => t.atPoint 0 i)
      (c.evaluate Library.standard ⟨2 :: bs, data⟩ coordinate)
      fun i => c.evaluate Library.standard (pointAt data i) coordinate := by
  have hwhole : Value.ofArray coordinate ⟨2 :: bs, data⟩ =
      .ok ⟨.vec 2, ⟨2 :: bs, data⟩⟩ := rfl
  have hsingle : ∀ i : Index bs, Value.ofArray coordinate (pointAt data i) =
      .ok (Value.atPoint i ⟨.vec 2, ⟨2 :: bs, data⟩⟩) := fun i =>
    congrArg (fun t => Except.ok (Value.mk (.vec 2) t)) (atPoint_points data i).symm
  have heach : ∀ i : Index bs, c.evaluate Library.standard (pointAt data i) coordinate = _ :=
    fun i => evaluate_eq_evalWith c (hsingle i)
  simp only [evaluate_eq_evalWith c hwhole, heach]
  refine (Expr.agrees_evalWith hbs (batched_points data) rfl h.nodes).bind fun w hw hbatched => ?_
  have hkind : w.kind = .float := by
    have hkind? := Expr.kind?_of_evalWith (fun v hv => by cases hv; rfl) (Expr.find_singleton rfl)
      h.nodes hw
    exact Option.some.inj (hkind?.symm.trans h.kind)
  obtain ⟨k, t⟩ := w
  subst hkind
  exact ⟨hbatched, fun i => rfl⟩

/-- The distances at many points, stretched to one for each point. -/
theorem evaluate_broadcastTo {c : Compiled} (h : c.expr.resolved.IsSampled coordinate) {bs : Axes}
    (hbs : 0 < volume bs) (data : Vector α (volume (2 :: bs))) {t : Tensor α}
    (ht : c.evaluate Library.standard ⟨2 :: bs, data⟩ coordinate = .ok t) :
    ∃ f : Index bs → α, t.broadcastTo bs = .ok (.ofFn bs f) ∧
      ∀ i, c.evaluate Library.standard (pointAt data i) coordinate = .ok (.scalar (f i)) := by
  have hagrees := agrees_evaluate h hbs data
  rw [ht] at hagrees
  obtain ⟨hbatched, hsingle⟩ := hagrees
  exact ⟨fun i => t.get (i.clip hbatched.fits), dif_pos hbatched.fits, fun i =>
    (hsingle i).trans (congrArg Except.ok (hbatched.atPoint_eq_scalar i))⟩

/-! ## Grids -/

/-- The distance of a scene at a single point. -/
def distanceAt (c : Compiled) (coordinate : String) (x y : α) : Evaluated (Tensor α) :=
  c.evaluate Library.standard (point x y) coordinate

/-- The distance of a scene at the centre of a cell. -/
def distanceAtCell (c : Compiled) (g : Grid α) (i : Fin g.nx) (j : Fin g.ny) :
    Evaluated (Tensor α) :=
  distanceAt c sampleCoordinate (g.x.centre g.nx i) (g.y.centre g.ny j)

theorem pointAt_centres (g : Grid α) (i : Fin g.nx) (j : Fin g.ny) :
    @pointAt α g.axes g.centres.data (i, j, ()) =
      point (g.x.centre g.nx i) (g.y.centre g.ny j) := by
  refine congrArg (ofFn [2]) (funext fun k => ?_)
  exact get_ofFn (2 :: g.axes) (fun cell => g.centreAt cell.2.1 cell.2.2.1 cell.1) (k.1, i, j, ())

omit [Scalar α] in
theorem volume_axes_pos {g : Grid α} (hx : 0 < g.nx) (hy : 0 < g.ny) : 0 < volume g.axes :=
  Nat.mul_pos hx (Nat.mul_pos hy Nat.one_pos)

/-- A scene can be sampled on a grid if it has a distance at the centre of each cell. -/
theorem exists_sample_iff {c : Compiled} (h : c.expr.resolved.IsSampled sampleCoordinate)
    {g : Grid α} (hx : 0 < g.nx) (hy : 0 < g.ny) :
    (∃ t, c.sample Library.standard g = .ok t) ↔ ∀ i j, ∃ t, distanceAtCell c g i j = .ok t := by
  have hvolume := volume_axes_pos hx hy
  have hagrees := (agrees_evaluate h hvolume g.centres.data).exists_ok_iff
  constructor
  · rintro ⟨t, ht⟩ i j
    obtain ⟨whole, hwhole, -⟩ := bind_eq_ok_iff.mp ht
    have hcell := hagrees.mp ⟨whole, hwhole⟩ (i, j, ())
    rw [pointAt_centres] at hcell
    exact hcell
  · intro hcells
    obtain ⟨whole, hwhole⟩ := hagrees.mpr fun k => by
      obtain ⟨t, ht⟩ := hcells k.1 k.2.1
      have hpoint := pointAt_centres g k.1 k.2.1
      exact ⟨t, (congrArg (fun p => c.evaluate Library.standard p _) hpoint).trans ht⟩
    obtain ⟨f, hf, -⟩ := evaluate_broadcastTo h hvolume g.centres.data hwhole
    exact ⟨_, bind_eq_ok_iff.mpr ⟨whole, hwhole, congrArg ofShaped hf⟩⟩

/-- The samples on a grid are the distances at the centres of the cells. -/
theorem sample_entries {c : Compiled} (h : c.expr.resolved.IsSampled sampleCoordinate)
    {g : Grid α} (hx : 0 < g.nx) (hy : 0 < g.ny) {t : Tensor α}
    (ht : c.sample Library.standard g = .ok t) :
    ∃ f : Fin g.nx → Fin g.ny → α, t = .ofFn [g.nx, g.ny] (fun k => f k.1 k.2.1) ∧
      ∀ i j, distanceAtCell c g i j = .ok (.scalar (f i j)) := by
  obtain ⟨whole, hwhole, ht⟩ := bind_eq_ok_iff.mp ht
  obtain ⟨f, hf, hpoints⟩ := evaluate_broadcastTo h (volume_axes_pos hx hy) g.centres.data hwhole
  rw [hf] at ht
  cases ht
  refine ⟨fun i j => f (i, j, ()), rfl, fun i j => ?_⟩
  have hcell := hpoints (i, j, ())
  rw [pointAt_centres] at hcell
  exact hcell

end Evaluation

/-! ## Exact grids -/

section Exact

variable {K : Type} [Field K] [LinearOrder K] [IsStrictOrderedRing K] [Scalar K] [ExactScalar K]

theorem offset_between (lo hi : K) (n i : Nat) :
    (Extent.between lo hi).offset n i = i * (hi - lo) / n := by
  have hoffset : (Extent.between lo hi).offset n i =
      if Scalar.equal (Scalar.div (Scalar.sub hi lo) (Scalar.ofNat n))
        (Scalar.ofNumeral (.decimal false 0 (-1))) = true
      then Scalar.mul (Scalar.div (Scalar.ofNat i) (Scalar.ofNat n)) (Scalar.sub hi lo)
      else Scalar.mul (Scalar.ofNat i) (Scalar.div (Scalar.sub hi lo) (Scalar.ofNat n)) := rfl
  rw [hoffset]
  simp only [ExactField.mul_eq, ExactField.div_eq, ExactField.sub_eq, ExactField.ofNat_eq]
  split_ifs
  · ring
  · ring

/-- The centres of the cells are half a cell from their starts. -/
theorem centre_between (lo hi : K) {n : Nat} (hn : 0 < n) (i : Nat) :
    (Extent.between lo hi).centre n i = lo + (i + 1 / 2) * (hi - lo) / n := by
  have hcentre : (Extent.between lo hi).centre n i =
      Scalar.add (Scalar.add ((Extent.between lo hi).offset n i) lo)
        (Scalar.div (Scalar.sub hi lo)
          (Scalar.mul (Scalar.ofNumeral (.decimal false 20 (-1))) (Scalar.ofNat n))) := rfl
  have htwo : (Scalar.ofNumeral (.decimal false 20 (-1)) : K) = 2 := by
    rw [ExactField.ofNumeral_decimal]
    norm_num
  have hn : (n : K) ≠ 0 := by exact_mod_cast hn.ne'
  rw [hcentre, offset_between, htwo]
  simp only [ExactField.add_eq, ExactField.mul_eq, ExactField.div_eq, ExactField.sub_eq,
    ExactField.ofNat_eq]
  field_simp
  ring

end Exact

/-! ## Many points -/

/-- A scene whose expression is a number at each point is evaluated at an array of points as it is
at each of them, so that its samples on a grid are the distances at the centres of the cells. -/
theorem evaluate_eq_pointwise {α : Type} [Scalar α] (c : Compiled) :
    (∀ coordinate, c.expr.resolved.IsSampled coordinate →
      ∀ (bs : Axes) (data : Vector α (volume (2 :: bs))), 0 < volume bs →
        ((∃ t, c.evaluate Library.standard ⟨2 :: bs, data⟩ coordinate = .ok t) ↔
          ∀ i, ∃ t, c.evaluate Library.standard (pointAt data i) coordinate = .ok t) ∧
        ∀ t, c.evaluate Library.standard ⟨2 :: bs, data⟩ coordinate = .ok t →
          ∃ f : Index bs → α, t.broadcastTo bs = .ok (.ofFn bs f) ∧
            ∀ i, c.evaluate Library.standard (pointAt data i) coordinate = .ok (.scalar (f i))) ∧
    (c.expr.resolved.IsSampled sampleCoordinate →
      ∀ g : Grid α, 0 < g.nx → 0 < g.ny →
        ((∃ t, c.sample Library.standard g = .ok t) ↔
          ∀ i j, ∃ t, distanceAtCell c g i j = .ok t) ∧
        ∀ t, c.sample Library.standard g = .ok t →
          ∃ f : Fin g.nx → Fin g.ny → α, t = .ofFn [g.nx, g.ny] (fun k => f k.1 k.2.1) ∧
            ∀ i j, distanceAtCell c g i j = .ok (.scalar (f i j))) ∧
    ∀ (K : Type) [Field K] [LinearOrder K] [IsStrictOrderedRing K] [Scalar K] [ExactScalar K]
      (lo hi : K) (n i : Nat), 0 < n →
        (Extent.between lo hi).centre n i = lo + (i + 1 / 2) * (hi - lo) / n := by
  refine ⟨?_, ?_, ?_⟩
  · intro coordinate h bs data hbs
    exact ⟨(agrees_evaluate h hbs data).exists_ok_iff, fun t => evaluate_broadcastTo h hbs data⟩
  · intro h g hx hy
    exact ⟨exists_sample_iff h hx hy, fun t => sample_entries h hx hy⟩
  · intro K _ _ _ _ _ lo hi n i hn
    exact centre_between lo hi hn i

/-- A moved circle, sampled on six cells. -/
theorem evaluate_eq_pointwise_moved_circle :
    let moved : Expr := .here - .call "vec2" [.number "0.3", .number "0.2"]
    let c : Compiled := .expression (.call "circle" [moved, .number "1.0"])
    let g : Grid Float := ⟨.between (-1) 1, .between 0 1, 3, 2⟩
    c.expr.resolved.IsSampled sampleCoordinate ∧
      ∀ t, c.sample Library.standard g = .ok t →
        ∃ f : Fin 3 → Fin 2 → Float, t = .ofFn [3, 2] (fun k => f k.1 k.2.1) ∧
          ∀ i j, distanceAtCell c g i j = .ok (.scalar (f i j)) := by
  intro moved c g
  have hsampled : c.expr.resolved.IsSampled sampleCoordinate := by decide
  exact ⟨hsampled, ((evaluate_eq_pointwise c).2.1 hsampled g (by decide) (by decide)).2⟩

end SignedDistance
