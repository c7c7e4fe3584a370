import Mathlib
import SignedDistance.Proofs.Distances

/-!
# Scenes that bound distances

A scene bounds distances if its own distance changes by no more than the points are apart
(`Scene.IsBound`): a step as long as the distance then stays clear of the shape. Moving, turning,
scaling, hollowing, melting and the sharp combinations keep this, and so does a union with a seam
blended over a positive constant (`isBound_of_primitives`). A blended union is the least of a family
of weighted means (`smoothMin_le`, `exists_smoothMin_eq`), each of which changes by no more than its
operands.
-/

namespace SignedDistance

variable {K : Type} [Field K] [LinearOrder K] [IsStrictOrderedRing K]

/-! ## Functions of points -/

/-- A function of points that changes by no more than the points are apart. -/
def IsLipschitz (f : K → K → K) : Prop :=
  ∀ x y x' y', (f x y - f x' y') ^ 2 ≤ (x - x') ^ 2 + (y - y') ^ 2

/-- The minimum with a seam blended over `k`. -/
def smoothMin (k a b : K) : K :=
  min a b - max (k - |a - b|) 0 ^ 2 / (4 * k)

omit [IsStrictOrderedRing K] in
theorem smoothMin_comm (k a b : K) : smoothMin k a b = smoothMin k b a := by
  rw [smoothMin, smoothMin, min_comm, abs_sub_comm]

theorem smoothMin_of_near {k a b : K} (hab : a ≤ b) (hnear : b - a ≤ k) :
    smoothMin k a b = a - (k - (b - a)) ^ 2 / (4 * k) := by
  rw [smoothMin, min_eq_left hab, abs_sub_comm, abs_of_nonneg (sub_nonneg.mpr hab),
    max_eq_left (sub_nonneg.mpr hnear)]

theorem smoothMin_of_far {k a b : K} (hab : a ≤ b) (hfar : k ≤ b - a) : smoothMin k a b = a := by
  rw [smoothMin, min_eq_left hab, abs_sub_comm, abs_of_nonneg (sub_nonneg.mpr hab),
    max_eq_right (sub_nonpos.mpr hfar)]
  ring

theorem smoothMin_le_of_le {k t a b : K} (hk : 0 < k) (ht : t ≤ 1) (hab : a ≤ b) :
    smoothMin k a b ≤ t * a + (1 - t) * b - k * t * (1 - t) := by
  rcases le_total (b - a) k with hnear | hfar
  · have hsquare : t * a + (1 - t) * b - k * t * (1 - t) - smoothMin k a b =
        (2 * k * (1 - t) - (k - (b - a))) ^ 2 / (4 * k) := by
      rw [smoothMin_of_near hab hnear]
      field_simp
      ring
    have hnonneg : 0 ≤ (2 * k * (1 - t) - (k - (b - a))) ^ 2 / (4 * k) := by positivity
    linarith
  · rw [smoothMin_of_far hab hfar]
    have hkt : k * t ≤ b - a := (mul_le_of_le_one_right hk.le ht).trans hfar
    have hproduct : 0 ≤ (1 - t) * (b - a - k * t) :=
      mul_nonneg (by linarith) (by linarith)
    linarith

/-- The blended minimum is below every weighted mean of its operands less a part of the blend. -/
theorem smoothMin_le {k t : K} (hk : 0 < k) (ht : 0 ≤ t) (ht' : t ≤ 1) (a b : K) :
    smoothMin k a b ≤ t * a + (1 - t) * b - k * t * (1 - t) := by
  rcases le_total a b with hab | hba
  · exact smoothMin_le_of_le hk ht' hab
  · have hswapped := smoothMin_le_of_le hk (sub_le_self 1 ht) hba
    rw [smoothMin_comm]
    linarith

theorem exists_smoothMin_eq_of_le {k a b : K} (hk : 0 < k) (hab : a ≤ b) :
    ∃ t, 0 ≤ t ∧ t ≤ 1 ∧ smoothMin k a b = t * a + (1 - t) * b - k * t * (1 - t) := by
  rcases le_total (b - a) k with hnear | hfar
  · have hrest : 0 ≤ (k - (b - a)) / (2 * k) := div_nonneg (by linarith) (by linarith)
    have hrest' : (k - (b - a)) / (2 * k) ≤ 1 := (div_le_one (by linarith)).mpr (by linarith)
    refine ⟨1 - (k - (b - a)) / (2 * k), by linarith, by linarith, ?_⟩
    rw [smoothMin_of_near hab hnear]
    field_simp
    ring
  · refine ⟨1, zero_le_one, le_rfl, ?_⟩
    rw [smoothMin_of_far hab hfar]
    ring

/-- The blended minimum is one of these means. -/
theorem exists_smoothMin_eq {k : K} (hk : 0 < k) (a b : K) :
    ∃ t, 0 ≤ t ∧ t ≤ 1 ∧ smoothMin k a b = t * a + (1 - t) * b - k * t * (1 - t) := by
  rcases le_total a b with hab | hba
  · exact exists_smoothMin_eq_of_le hk hab
  · obtain ⟨t, ht, ht', heq⟩ := exists_smoothMin_eq_of_le hk hba
    refine ⟨1 - t, sub_nonneg.mpr ht', sub_le_self 1 ht, ?_⟩
    rw [smoothMin_comm, heq]
    ring

theorem smoothMin_sub_le {k : K} (hk : 0 < k) (a b a' b' : K) :
    smoothMin k a b - smoothMin k a' b' ≤ max |a - a'| |b - b'| := by
  obtain ⟨t, ht, ht', heq⟩ := exists_smoothMin_eq hk a' b'
  have hle := smoothMin_le hk ht ht' a b
  have ha : t * (a - a') ≤ t * max |a - a'| |b - b'| :=
    mul_le_mul_of_nonneg_left ((le_abs_self _).trans (le_max_left _ _)) ht
  have hb : (1 - t) * (b - b') ≤ (1 - t) * max |a - a'| |b - b'| :=
    mul_le_mul_of_nonneg_left ((le_abs_self _).trans (le_max_right _ _)) (by linarith)
  calc smoothMin k a b - smoothMin k a' b'
      ≤ t * (a - a') + (1 - t) * (b - b') := by rw [heq]; linarith
    _ ≤ t * max |a - a'| |b - b'| + (1 - t) * max |a - a'| |b - b'| := add_le_add ha hb
    _ = max |a - a'| |b - b'| := by ring

theorem abs_smoothMin_sub_le {k : K} (hk : 0 < k) (a b a' b' : K) :
    |smoothMin k a b - smoothMin k a' b'| ≤ max |a - a'| |b - b'| := by
  refine abs_sub_le_iff.mpr ⟨smoothMin_sub_le hk a b a' b', ?_⟩
  rw [abs_sub_comm a a', abs_sub_comm b b']
  exact smoothMin_sub_le hk a' b' a b

namespace IsLipschitz

variable {f g h : K → K → K}

omit [IsStrictOrderedRing K] in
theorem translate (hf : IsLipschitz f) (dx dy : K) :
    IsLipschitz fun x y => f (x - dx) (y - dy) := by
  intro x y x' y'
  have hmoved := hf (x - dx) (y - dy) (x' - dx) (y' - dy)
  rwa [sub_sub_sub_cancel_right, sub_sub_sub_cancel_right] at hmoved

omit [IsStrictOrderedRing K] in
theorem rotate (hf : IsLipschitz f) {c s : K} (hcs : c ^ 2 + s ^ 2 = 1) :
    IsLipschitz fun x y => f (c * x + s * y) (-s * x + c * y) := by
  intro x y x' y'
  refine (hf _ _ _ _).trans_eq ?_
  calc (c * x + s * y - (c * x' + s * y')) ^ 2 + (-s * x + c * y - (-s * x' + c * y')) ^ 2
      = (c ^ 2 + s ^ 2) * ((x - x') ^ 2 + (y - y') ^ 2) := by ring
    _ = (x - x') ^ 2 + (y - y') ^ 2 := by rw [hcs, one_mul]

theorem scale (hf : IsLipschitz f) {a : K} (ha : a ≠ 0) :
    IsLipschitz fun x y => a * f (x / a) (y / a) := by
  intro x y x' y'
  calc (a * f (x / a) (y / a) - a * f (x' / a) (y' / a)) ^ 2
      = a ^ 2 * (f (x / a) (y / a) - f (x' / a) (y' / a)) ^ 2 := by ring
    _ ≤ a ^ 2 * ((x / a - x' / a) ^ 2 + (y / a - y' / a) ^ 2) :=
      mul_le_mul_of_nonneg_left (hf _ _ _ _) (sq_nonneg a)
    _ = (x - x') ^ 2 + (y - y') ^ 2 := by field_simp

theorem of_abs_le (hf : IsLipschitz f)
    (hle : ∀ x y x' y', |g x y - g x' y'| ≤ |f x y - f x' y'|) : IsLipschitz g :=
  fun x y x' y' => (sq_le_sq.mpr (hle x y x' y')).trans (hf x y x' y')

theorem of_abs_le_max (hf : IsLipschitz f) (hg : IsLipschitz g)
    (hle : ∀ x y x' y', |h x y - h x' y'| ≤ max |f x y - f x' y'| |g x y - g x' y'|) :
    IsLipschitz h := by
  intro x y x' y'
  rcases le_max_iff.mp (hle x y x' y') with hleft | hright
  · exact (sq_le_sq.mpr hleft).trans (hf x y x' y')
  · exact (sq_le_sq.mpr hright).trans (hg x y x' y')

theorem sub_const (hf : IsLipschitz f) (r : K) : IsLipschitz fun x y => f x y - r :=
  hf.of_abs_le fun x y x' y' => by rw [sub_sub_sub_cancel_right]

theorem abs (hf : IsLipschitz f) : IsLipschitz fun x y => |f x y| :=
  hf.of_abs_le fun _ _ _ _ => abs_abs_sub_abs_le _ _

theorem neg (hf : IsLipschitz f) : IsLipschitz fun x y => -f x y :=
  hf.of_abs_le fun x y x' y' => by rw [neg_sub_neg, abs_sub_comm]

theorem min (hf : IsLipschitz f) (hg : IsLipschitz g) :
    IsLipschitz fun x y => Min.min (f x y) (g x y) :=
  hf.of_abs_le_max hg fun _ _ _ _ => abs_min_sub_min_le_max _ _ _ _

theorem max (hf : IsLipschitz f) (hg : IsLipschitz g) :
    IsLipschitz fun x y => Max.max (f x y) (g x y) :=
  hf.of_abs_le_max hg fun _ _ _ _ => abs_max_sub_max_le_max _ _ _ _

theorem smoothMin (hf : IsLipschitz f) (hg : IsLipschitz g) {k : K} (hk : 0 < k) :
    IsLipschitz fun x y => SignedDistance.smoothMin k (f x y) (g x y) :=
  hf.of_abs_le_max hg fun _ _ _ _ => abs_smoothMin_sub_le hk _ _ _ _

end IsLipschitz

/-! ## Operators that keep the bound -/

variable [Scalar K] [ExactScalar K]

/-- The scenes that are built from primitives by operators that keep the bound. Scale factors are
not zero, and blends are over a positive constant. -/
inductive Scene.KeepsBound (library : Library K) : Scene → Prop where
  | primitive (name : String) (args : List String) :
      KeepsBound library (.primitive name (args.map .text))
  | annotate (note : Datum) {child : Scene} (h : KeepsBound library child) :
      KeepsBound library (.annotate note child)
  | translate (offset : String) {child : Scene} (h : KeepsBound library child) :
      KeepsBound library (.translate (.text offset) child)
  | rotate {written : Datum} {amount : String} {child : Scene}
      (hamount : written.scalarText = .ok amount) (h : KeepsBound library child) :
      KeepsBound library (.adjust .rotate written amount child)
  | scale {written : Datum} {amount : String} {child : Scene} {a : K}
      (hamount : written.scalarText = .ok amount)
      (ha : Expr.evalText library [] amount = .ok (.number a)) (hzero : a ≠ 0)
      (h : KeepsBound library child) : KeepsBound library (.adjust .scale written amount child)
  | hollow {written : Datum} {amount : String} {child : Scene}
      (hamount : written.scalarText = .ok amount) (h : KeepsBound library child) :
      KeepsBound library (.adjust .hollow written amount child)
  | melt {written : Datum} {amount : String} {child : Scene}
      (hamount : written.scalarText = .ok amount) (h : KeepsBound library child) :
      KeepsBound library (.adjust .melt written amount child)
  | combine (op : Combination) {left right : Scene} (hl : KeepsBound library left)
      (hr : KeepsBound library right) : KeepsBound library (.combine op left right)
  | blend {left right : Scene} {text : String} {k : K}
      (hk : Expr.evalText library [] text = .ok (.number k)) (hpos : 0 < k)
      (hl : KeepsBound library left) (hr : KeepsBound library right) :
      KeepsBound library (.blend .unite left right (.constant text))

omit [IsStrictOrderedRing K] [ExactScalar K] in
theorem Scene.KeepsBound.wellFormed {library : Library K} {s : Scene}
    (h : s.KeepsBound library) : s.WellFormed := by
  induction h with
  | primitive name args => exact .primitive name args
  | annotate note h ih => exact .annotate note ih
  | translate offset h ih => exact .translate offset ih
  | rotate hamount h ih => exact .adjust .rotate hamount ih
  | scale hamount ha hzero h ih => exact .adjust .scale hamount ih
  | hollow hamount h ih => exact .adjust .hollow hamount ih
  | melt hamount h ih => exact .adjust .melt hamount ih
  | combine op hl hr ihl ihr => exact .combine op ihl ihr
  | blend hk hpos hl hr ihl ihr => exact .blend .unite ihl ihr (.constant _)

variable {library : Library K}

theorem numberValue_zero : numberValue "0.0" = .ok (.number (0 : K)) := by
  rw [@numberValue_of_parse _ _ _ _ "0.0" 0 (-1) (by cbv)]
  simp

theorem numberValue_quarter : numberValue "0.25" = .ok (.number (1 / 4 : K)) := by
  rw [@numberValue_of_parse _ _ _ _ "0.25" 25 (-2) (by cbv)]
  norm_num

theorem blendCorrection_number (k gap : K) :
    blendCorrection library (.number k) (.number gap) =
      .ok (.number (max (k - |gap|) 0 ^ 2 / (4 * k))) := by
  simp only [blendCorrection, blendRest, numberValue_zero, numberValue_quarter, ok_bind,
    callFunction_abs, callFunction_max, Value.number_sub_number, Value.number_mul_number,
    Value.number_div_number]
  congr 2
  ring

/-- The scene has the distances that a function gives. -/
def Scene.Measures (library : Library K) (s : Scene) (f : K → K → K) : Prop :=
  ∀ x y, s.meaning library [] (.ok (.pair x y)) = .ok (.number (f x y))

/-- A number or a pair can be taken from a point. -/
def IsOffset (library : Library K) (offset : String) : Prop :=
  (∃ d, Expr.evalText library [] offset = .ok (.number d)) ∨
    ∃ dx dy, Expr.evalText library [] offset = .ok (.pair dx dy)

theorem exists_moved {offset : String} (h : IsOffset library offset) :
    ∃ dx dy : K, ∀ x y, (Expr.evalText library [] offset >>= Value.binary .sub (.pair x y)) =
      .ok (.pair (x - dx) (y - dy)) := by
  rcases h with ⟨d, hd⟩ | ⟨dx, dy, hd⟩
  · exact ⟨d, d, fun x y => by rw [hd, ok_bind, Value.pair_sub_number]⟩
  · exact ⟨dx, dy, fun x y => by rw [hd, ok_bind, Value.pair_sub_pair]⟩

namespace Scene.Measures

variable {s left right : Scene} {f g : K → K → K}

omit [LinearOrder K] [IsStrictOrderedRing K] [ExactScalar K] in
theorem translate (hf : s.Measures library f) {offset : String} {dx dy : K}
    (hoffset : ∀ x y, (Expr.evalText library [] offset >>= Value.binary .sub (.pair x y)) =
      .ok (.pair (x - dx) (y - dy))) :
    (Scene.translate (.text offset) s).Measures library fun x y => f (x - dx) (y - dy) := by
  intro x y
  have hpoint := hoffset x y
  simp only [Scene.meaning, Datum.value, ok_bind, hpoint]
  exact hf _ _

variable {written : Datum} {amount : String} {a : K}

theorem rotate (hf : s.Measures library f)
    (ha : Expr.evalText library [] amount = .ok (.number a)) :
    (Scene.adjust .rotate written amount s).Measures library fun x y =>
      f (Scalar.cos a * x + Scalar.sin a * y) (-Scalar.sin a * x + Scalar.cos a * y) := by
  intro x y
  simp only [Scene.meaning, ha, ok_bind, inverseRotation_number, Value.square_mul_pair]
  exact hf _ _

theorem scale (hf : s.Measures library f)
    (ha : Expr.evalText library [] amount = .ok (.number a)) :
    (Scene.adjust .scale written amount s).Measures library fun x y =>
      a * f (x / a) (y / a) := by
  intro x y
  simp only [Scene.meaning, ha, ok_bind, Value.pair_div_number, hf (x / a) (y / a),
    Value.number_mul_number]

theorem hollow (hf : s.Measures library f)
    (ha : Expr.evalText library [] amount = .ok (.number a)) :
    (Scene.adjust .hollow written amount s).Measures library fun x y => |f x y| - a := by
  intro x y
  simp only [Scene.meaning, ha, ok_bind, hf x y, callFunction_abs, Value.number_sub_number]

theorem melt (hf : s.Measures library f)
    (ha : Expr.evalText library [] amount = .ok (.number a)) :
    (Scene.adjust .melt written amount s).Measures library fun x y => f x y - a := by
  intro x y
  simp only [Scene.meaning, ha, ok_bind, hf x y, Value.number_sub_number]

theorem unite (hf : left.Measures library f) (hg : right.Measures library g) :
    (Scene.combine .unite left right).Measures library fun x y => min (f x y) (g x y) := by
  intro x y
  simp only [Scene.meaning, Combination.sharp, hf x y, hg x y, ok_bind, callFunction_min]

theorem subtract (hf : left.Measures library f) (hg : right.Measures library g) :
    (Scene.combine .subtract left right).Measures library fun x y => max (-f x y) (g x y) := by
  intro x y
  simp only [Scene.meaning, Combination.sharp, hf x y, hg x y, ok_bind, Value.negate_number,
    ExactField.neg_eq, callFunction_max]

theorem intersect (hf : left.Measures library f) (hg : right.Measures library g) :
    (Scene.combine .intersect left right).Measures library fun x y => max (f x y) (g x y) := by
  intro x y
  simp only [Scene.meaning, Combination.sharp, hf x y, hg x y, ok_bind, callFunction_max]

theorem blend (hf : left.Measures library f) (hg : right.Measures library g) {text : String}
    {k : K} (hk : Expr.evalText library [] text = .ok (.number k)) :
    (Scene.blend .unite left right (.constant text)).Measures library fun x y =>
      smoothMin k (f x y) (g x y) := by
  intro x y
  simp only [Scene.meaning, Combination.seamed, Combination.gap, hf x y, hg x y, hk, ok_bind,
    callFunction_min, Value.number_sub_number, blendCorrection_number]
  rfl

end Scene.Measures

/-- A scene measures distances that change by no more than the points are apart. -/
def Scene.BoundsMeaning (library : Library K) (s : Scene) : Prop :=
  ∃ f, s.Measures library f ∧ IsLipschitz f

/-- What is asked of the nodes of a scene: primitives bound distances, and offsets can be taken from
points. -/
def Datum.BoundsMeaning (library : Library K) : Datum → Prop
  | .scene (.primitive name args) =>
    ∀ texts : List String, args = texts.map .text →
      (Scene.primitive name args).BoundsMeaning library
  | .scene (.translate (.text offset) _) => IsOffset library offset
  | _ => True

/-- If the primitives bound distances, so does the scene. -/
theorem Scene.KeepsBound.boundsMeaning {s : Scene} (h : s.KeepsBound library)
    (hnodes : ∀ d ∈ s.walk, d.BoundsMeaning library) : s.BoundsMeaning library := by
  induction h with
  | primitive name args =>
    rw [walk, List.forall_mem_singleton] at hnodes
    exact hnodes args rfl
  | annotate note h ih =>
    rw [walk, List.forall_mem_cons] at hnodes
    exact ih hnodes.2
  | translate offset h ih =>
    rw [walk, List.forall_mem_cons] at hnodes
    obtain ⟨f, hf, hbound⟩ := ih hnodes.2
    obtain ⟨dx, dy, hmoved⟩ := exists_moved hnodes.1
    exact ⟨_, hf.translate hmoved, hbound.translate dx dy⟩
  | rotate hamount h ih =>
    rw [walk, List.forall_mem_cons] at hnodes
    obtain ⟨f, hf, hbound⟩ := ih hnodes.2
    obtain ⟨a, ha⟩ := exists_amount library [] hamount
    exact ⟨_, hf.rotate ha, hbound.rotate (ExactField.cos_sq_add_sin_sq a)⟩
  | scale hamount ha hzero h ih =>
    rw [walk, List.forall_mem_cons] at hnodes
    obtain ⟨f, hf, hbound⟩ := ih hnodes.2
    exact ⟨_, hf.scale ha, hbound.scale hzero⟩
  | hollow hamount h ih =>
    rw [walk, List.forall_mem_cons] at hnodes
    obtain ⟨f, hf, hbound⟩ := ih hnodes.2
    obtain ⟨a, ha⟩ := exists_amount library [] hamount
    exact ⟨_, hf.hollow ha, hbound.abs.sub_const a⟩
  | melt hamount h ih =>
    rw [walk, List.forall_mem_cons] at hnodes
    obtain ⟨f, hf, hbound⟩ := ih hnodes.2
    obtain ⟨a, ha⟩ := exists_amount library [] hamount
    exact ⟨_, hf.melt ha, hbound.sub_const a⟩
  | combine op hl hr ihl ihr =>
    rw [walk, List.forall_mem_cons, List.forall_mem_append] at hnodes
    obtain ⟨f, hf, hfbound⟩ := ihl hnodes.2.1
    obtain ⟨g, hg, hgbound⟩ := ihr hnodes.2.2
    cases op with
    | unite => exact ⟨_, hf.unite hg, hfbound.min hgbound⟩
    | subtract => exact ⟨_, hf.subtract hg, hfbound.neg.max hgbound⟩
    | intersect => exact ⟨_, hf.intersect hg, hfbound.max hgbound⟩
  | blend hk hpos hl hr ihl ihr =>
    rw [walk, List.forall_mem_cons, List.forall_mem_append, List.forall_mem_append] at hnodes
    obtain ⟨f, hf, hfbound⟩ := ihl hnodes.2.1.1
    obtain ⟨g, hg, hgbound⟩ := ihr hnodes.2.1.2
    exact ⟨_, hf.blend hg hk, hfbound.smoothMin hgbound hpos⟩

/-! ## Scenes without distances -/

section Failures

variable {α : Type} [Scalar α] {library : Library α}

/-- A computation that fails. -/
def Fails {β : Type} (x : Evaluated β) : Prop :=
  ∃ e, x = .error e

theorem Fails.bind {β γ : Type} {x : Evaluated β} (h : Fails x) (f : β → Evaluated γ) :
    Fails (x >>= f) := by
  obtain ⟨e, rfl⟩ := h
  exact ⟨e, rfl⟩

theorem Fails.of_bind {β γ : Type} (x : Evaluated β) {f : β → Evaluated γ} (h : ∀ b, Fails (f b)) :
    Fails (x >>= f) := by
  cases x with
  | error e => exact ⟨e, rfl⟩
  | ok b => exact h b

/-- A text that has no value, or a value of a kind that cannot be taken from a point. -/
def IsNoOffset (library : Library α) (offset : String) : Prop :=
  ∀ v, Expr.evalText library [] offset = .ok v → v.kind ≠ .float ∧ v.kind ≠ .vec 2

theorem kind_of_pair_op {op : Operator} {v w u : Value α} (hop : op ≠ .mul) (hv : v.kind = .vec 2)
    (h : Value.binary op v w = .ok u) : u.kind = .vec 2 ∧ (w.kind = .float ∨ w.kind = .vec 2) := by
  have hcombine : Value.combine op v w = .ok u := by
    rcases @Value.binary_cases α _ op v.kind w.kind with ⟨rfl, -⟩ | ⟨rfl, -⟩ | ⟨rfl, -⟩ | ⟨rfl, -⟩ |
      ⟨rfl, -⟩ | ⟨-, hbinary⟩
    · exact absurd rfl hop
    · exact absurd rfl hop
    · exact absurd rfl hop
    · exact absurd rfl hop
    · exact absurd rfl hop
    · exact (hbinary v.data w.data).symm.trans h
  obtain ⟨-, hkinds, -⟩ := commonKind_eq_ok (kind_of_combine hcombine)
  have hu : v.kind = u.kind := by simpa [hv] using hkinds v.kind (by simp)
  have hw : w.kind = u.kind ∨ w.kind = .float := hkinds w.kind (by simp)
  rw [← hu, hv] at hw
  exact ⟨hu.symm.trans hv, hw.symm⟩

theorem fails_moved {offset : String} (h : IsNoOffset library offset) {x : Evaluated (Value α)}
    (hx : ∀ v, x = .ok v → v.kind = .vec 2) :
    Fails (do Value.binary .sub (← x) (← Expr.evalText library [] offset)) := by
  cases x with
  | error e => exact ⟨e, rfl⟩
  | ok v =>
    cases hoffset : Expr.evalText library [] offset with
    | error e => exact ⟨e, rfl⟩
    | ok w =>
      cases hmoved : Value.binary .sub v w with
      | error e => exact ⟨e, hmoved⟩
      | ok u =>
        obtain ⟨hfloat, hvec⟩ := h w hoffset
        rcases (kind_of_pair_op (by simp) (hx v rfl) hmoved).2 with hw | hw
        · exact absurd hw hfloat
        · exact absurd hw hvec

end Failures

/-- An offset of a scene that cannot be taken from points. -/
def Datum.Blocks (library : Library K) : Datum → Prop
  | .scene (.translate (.text offset) _) => IsNoOffset library offset
  | _ => False

namespace Scene.KeepsBound

variable {s : Scene}

omit [IsStrictOrderedRing K] [ExactScalar K] in
/-- Every scene that is built from primitives looks at its point. -/
theorem fails_of_fails (h : s.KeepsBound library) {x : Evaluated (Value K)} (hx : Fails x) :
    Fails (s.meaning library [] x) := by
  induction h generalizing x with
  | primitive name args => exact hx.bind _
  | annotate note h ih => exact ih hx
  | translate offset h ih => exact ih (hx.bind _)
  | rotate hamount h ih => exact ih (.of_bind _ fun _ => .of_bind _ fun _ => hx.bind _)
  | scale hamount ha hzero h ih => exact .of_bind _ fun _ => (ih (hx.bind _)).bind _
  | hollow hamount h ih => exact (ih hx).bind _
  | melt hamount h ih => exact (ih hx).bind _
  | combine op hl hr ihl ihr => exact (ihl hx).bind _
  | blend hk hpos hl hr ihl ihr => exact (ihl hx).bind _

/-- An offset that cannot be taken from points leaves a scene without distances. -/
theorem fails_of_blocks (h : s.KeepsBound library) (hblocks : ∃ d ∈ s.walk, d.Blocks library)
    {x : Evaluated (Value K)} (hx : ∀ v, x = .ok v → v.kind = .vec 2) :
    Fails (s.meaning library [] x) := by
  -- Whatever the operators above it do to the point, the offset meets a pair or a failure.
  induction h generalizing x with
  | primitive name args =>
    obtain ⟨d, hd, hblocks⟩ := hblocks
    rw [walk, List.mem_singleton] at hd
    subst hd
    exact hblocks.elim
  | annotate note h ih =>
    rw [walk, List.exists_mem_cons_iff] at hblocks
    exact ih (hblocks.resolve_left id) hx
  | translate offset h ih =>
    rw [walk, List.exists_mem_cons_iff] at hblocks
    rcases hblocks with hself | hchild
    · exact h.fails_of_fails (fails_moved hself hx)
    · refine ih hchild fun u hu => ?_
      obtain ⟨v, hv, hu⟩ := bind_eq_ok_iff.mp hu
      obtain ⟨w, -, hu⟩ := bind_eq_ok_iff.mp hu
      exact (kind_of_pair_op (by simp) (hx v hv) hu).1
  | rotate hamount h ih =>
    rw [walk, List.exists_mem_cons_iff] at hblocks
    refine ih (hblocks.resolve_left id) fun u hu => ?_
    obtain ⟨a, ha⟩ := exists_amount library [] hamount
    simp only [ha, ok_bind, inverseRotation_number] at hu
    obtain ⟨⟨k, data⟩, hv, hu⟩ := bind_eq_ok_iff.mp hu
    obtain rfl : k = .vec 2 := hx _ hv
    exact kind_of_bind hu
  | scale hamount ha hzero h ih =>
    rw [walk, List.exists_mem_cons_iff] at hblocks
    refine .of_bind _ fun w => (ih (hblocks.resolve_left id) fun u hu => ?_).bind _
    obtain ⟨v, hv, hu⟩ := bind_eq_ok_iff.mp hu
    exact (kind_of_pair_op (by simp) (hx v hv) hu).1
  | hollow hamount h ih =>
    rw [walk, List.exists_mem_cons_iff] at hblocks
    exact (ih (hblocks.resolve_left id) hx).bind _
  | melt hamount h ih =>
    rw [walk, List.exists_mem_cons_iff] at hblocks
    exact (ih (hblocks.resolve_left id) hx).bind _
  | combine op hl hr ihl ihr =>
    obtain ⟨d, hd, hblocks⟩ := hblocks
    rw [walk, List.mem_cons, List.mem_append] at hd
    rcases hd with rfl | hleft | hright
    · exact hblocks.elim
    · exact (ihl ⟨d, hleft, hblocks⟩ hx).bind _
    · exact .of_bind _ fun _ => (ihr ⟨d, hright, hblocks⟩ hx).bind _
  | blend hk hpos hl hr ihl ihr =>
    obtain ⟨d, hd, hblocks⟩ := hblocks
    rw [walk, walk, List.mem_cons, List.mem_append, List.mem_append, List.mem_singleton] at hd
    rcases hd with rfl | (hleft | hright) | rfl
    · exact hblocks.elim
    · exact (ihl ⟨d, hleft, hblocks⟩ hx).bind _
    · exact .of_bind _ fun _ => (ihr ⟨d, hright, hblocks⟩ hx).bind _
    · exact hblocks.elim

end Scene.KeepsBound

/-! ## Compiled scenes -/

/-- The compiled scene has a distance at every point, which changes by no more than the points are
apart. -/
def Scene.IsBound (library : Library K) (coordinate : String) (s : Scene) : Prop :=
  ∃ f, (∀ x y, s.HasDistanceAt library coordinate x y (f x y)) ∧ IsLipschitz f

/-- If every primitive of a scene bounds distances, so does the scene, provided that it is built
with the operators that keep the bound, that its literals do not mention the coordinate and that its
offsets are numbers or vectors with two components. With an offset of another kind, or without a
value, it has no distance anywhere. -/
theorem isBound_of_primitives {coordinate : String} {s : Scene} (hs : s.KeepsBound library)
    (huses : ∀ d ∈ s.walk, d.Uses (.without coordinate))
    (hprimitives : ∀ name (args : List String), .scene (.primitive name (args.map .text)) ∈ s.walk →
      (Scene.primitive name (args.map .text)).IsBound library coordinate) :
    ((∀ offset child, .scene (.translate (.text offset) child) ∈ s.walk →
        IsOffset library offset) → s.IsBound library coordinate) ∧
      ((∃ offset child, .scene (.translate (.text offset) child) ∈ s.walk ∧
        IsNoOffset library offset) → ∀ x y, s.FailsAt library coordinate x y) := by
  have havoids : s.Avoids coordinate := ⟨hs.wellFormed, huses⟩
  constructor
  · intro hoffsets
    have hnodes : ∀ d ∈ s.walk, d.BoundsMeaning library := by
      intro d hd
      unfold Datum.BoundsMeaning
      split
      · next name args =>
        rintro texts rfl
        have hprimitive : (Scene.primitive name (texts.map .text)).Avoids coordinate :=
          ⟨.primitive name texts, List.forall_mem_singleton.mpr (huses _ hd)⟩
        obtain ⟨f, hf, hbound⟩ := hprimitives name texts hd
        exact ⟨f, fun x y => hprimitive.hasDistanceAt_iff.mp (hf x y), hbound⟩
      · exact hoffsets _ _ hd
      · trivial
    obtain ⟨f, hf, hbound⟩ := hs.boundsMeaning hnodes
    exact ⟨f, fun x y => havoids.hasDistanceAt_iff.mpr (hf x y), hbound⟩
  · rintro ⟨offset, child, hmem, hoffset⟩ x y
    refine havoids.failsAt_iff.mpr (hs.fails_of_blocks ⟨_, hmem, hoffset⟩ ?_)
    rintro v ⟨⟩
    rfl

/-! ## Circles -/

theorem isLipschitz_circle (r : ℝ) : IsLipschitz fun x y => √(x * x + y * y) - r := by
  refine IsLipschitz.sub_const (fun x y x' y' => ?_) r
  have hA : 0 ≤ x * x + y * y := by nlinarith
  have hB : 0 ≤ x' * x' + y' * y' := by nlinarith
  have hproduct : x * x' + y * y' ≤ √(x * x + y * y) * √(x' * x' + y' * y') := by
    rw [← Real.sqrt_mul hA]
    exact Real.le_sqrt_of_sq_le (by nlinarith [sq_nonneg (x * y' - y * x')])
  nlinarith [Real.sq_sqrt hA, Real.sq_sqrt hB]

/-- A circle bounds distances in the plane of real numbers. -/
theorem isBound_circle {coordinate text : String} {r : ℝ}
    (huses : (Vocabulary.without coordinate).literal text)
    (hr : Expr.evalText Library.standard [] text = .ok (.number r)) :
    (Scene.primitive "circle" [.text text]).IsBound (Library.standard : Library ℝ) coordinate :=
  ⟨_, hasDistanceAt_circle huses hr, isLipschitz_circle r⟩

/-- A turned and scaled circle blended with a moved ring. -/
theorem isBound_of_primitives_blended_circles :
    (Scene.blend .unite
      (.adjust .rotate (.int 30) "30.000"
        (.adjust .scale (.text "0.5") "0.500" (.primitive "circle" [.text "1.0"])))
      (.translate (.text "vec2(0.5, -1.0)")
        (.adjust .hollow (.text "0.1") "0.100" (.primitive "circle" [.text "1.0"])))
      (.constant "0.25")).IsBound (Library.standard : Library ℝ) "p" := by
  have hparseOne : parse "1.0" = .ok (.number "1.0") := by cbv
  have hparseHalf : parse "0.500" = .ok (.number "0.500") := by cbv
  have hparseRadius : parse "0.25" = .ok (.number "0.25") := by cbv
  have hparseOffset : parse "vec2(0.5, -1.0)" =
      .ok (.call "vec2" [.number "0.5", .neg (.number "1.0")]) := by cbv
  have hone : Expr.evalText (Library.standard : Library ℝ) [] "1.0" =
      .ok (.number ((10 : Nat) * 10 ^ (-1 : Int))) :=
    evalText_decimal hparseOne (by cbv)
  have hhalf : Expr.evalText (Library.standard : Library ℝ) [] "0.500" =
      .ok (.number ((500 : Nat) * 10 ^ (-3 : Int))) :=
    evalText_decimal hparseHalf (by cbv)
  have hradius : Expr.evalText (Library.standard : Library ℝ) [] "0.25" =
      .ok (.number ((25 : Nat) * 10 ^ (-2 : Int))) :=
    evalText_decimal hparseRadius (by cbv)
  have hoffset : Expr.evalText (Library.standard : Library ℝ) [] "vec2(0.5, -1.0)" =
      .ok (.pair ((5 : Nat) * 10 ^ (-1 : Int)) (-((10 : Nat) * 10 ^ (-1 : Int)))) := by
    have hdx : (numberValue "0.5" : Evaluated (Value ℝ)) =
        .ok (.number ((5 : Nat) * 10 ^ (-1 : Int))) := numberValue_of_parse (by cbv)
    have hdy : (numberValue "1.0" : Evaluated (Value ℝ)) =
        .ok (.number ((10 : Nat) * 10 ^ (-1 : Int))) := numberValue_of_parse (by cbv)
    rw [evalText_of_parse hparseOffset (.error .unboundCoordinate)]
    simp only [evalAt_call, List.mapM_cons, List.mapM_nil, evalAt_neg, evalAt_number, hdx, hdy,
      ok_bind, pure_bind, Value.negate_number, ExactField.neg_eq, callFunction_vec2]
  have hangle : (Datum.int 30).scalarText = .ok "30.000" := eq_ok_of_toOption (by decide +kernel)
  have hfactor : (Datum.text "0.5").scalarText = .ok "0.500" :=
    eq_ok_of_toOption (by decide +kernel)
  have hwidth : (Datum.text "0.1").scalarText = .ok "0.100" :=
    eq_ok_of_toOption (by decide +kernel)
  have hwithout : (Vocabulary.without "p").literal "1.0" :=
    Vocabulary.without_literal hparseOne (by simp [Expr.walk])
  refine (isBound_of_primitives (.blend hradius (by norm_num)
    (.rotate hangle (.scale hfactor hhalf (by norm_num) (.primitive "circle" ["1.0"])))
    (.translate "vec2(0.5, -1.0)" (.hollow hwidth (.primitive "circle" ["1.0"])))) ?_ ?_).1 ?_
  · simp [Scene.walk, Datum.Uses, Vocabulary.without, hparseOne, hparseRadius, hparseOffset,
      Expr.walk, Expr.walkAll]
  · intro name args hmem
    have hcircle : name = "circle" ∧ args.map Datum.text = [.text "1.0"] := by
      simpa [Scene.walk] using hmem
    rw [hcircle.1, hcircle.2]
    exact isBound_circle hwithout hone
  · intro offset child hmem
    have hmoved : offset = "vec2(0.5, -1.0)" := by
      simp [Scene.walk] at hmem
      exact hmem.1
    rw [hmoved]
    exact Or.inr ⟨_, _, hoffset⟩

end SignedDistance
