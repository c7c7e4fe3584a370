import Mathlib
import SignedDistance.Evaluation.Basic
import SignedDistance.Proofs.PlainScenes
import SignedDistance.Proofs.Slices

/-!
# Values at many points

A value holds a number, a vector or a matrix for each index of a batch of points (`Value.Batched`),
and has one at each of them (`Value.atPoint`). Computing with values and then looking at one index
is looking at the index first and computing then (`Agrees`), for the operators, the selection of
components, the functions on components and the builtin functions. Only the length of a matrix is
left out, because it has an axis more than a number.
-/

namespace SignedDistance

open Tensor

/-! ## Values -/

/-- The axes of a single value of a kind. -/
def Kind.axes : Kind → Axes
  | .float => []
  | .vec n => [n]
  | .mat2 => [2, 2]

namespace Value

variable {α : Type} {bs : Axes}

/-- A value that holds one of its kind for each index of a batch. -/
def Batched (v : Value α) (bs : Axes) : Prop :=
  v.data.Batched v.kind.axes bs

/-- The value at one index of a batch. -/
def atPoint (i : Index bs) (v : Value α) : Value α :=
  ⟨v.kind, v.data.atPoint v.kind.axes.length i⟩

theorem map_kind_atPoint (i : Index bs) (vs : List (Value α)) :
    (vs.map (atPoint i)).map (·.kind) = vs.map (·.kind) := by
  rw [List.map_map]
  rfl

end Value

/-! ## Agreement -/

section Agreement

variable {ε ε' β γ : Type} {bs : Axes}

/-- An outcome for a batch agrees with outcomes at its indices: a result is good and is at each
index the result there, and without a result there is none at some index. -/
def Agrees (Good : β → Prop) (cut : Index bs → β → β) (whole : Except ε β)
    (single : Index bs → Except ε β) : Prop :=
  match whole with
  | .ok b => Good b ∧ ∀ i, single i = .ok (cut i b)
  | .error _ => ∃ i e, single i = .error e

namespace Agrees

variable {Good : β → Prop} {cut : Index bs → β → β} {Good' : γ → Prop} {cut' : Index bs → γ → γ}

theorem error (hbs : 0 < volume bs) {e : ε} {es : Index bs → ε} :
    Agrees Good cut (.error e) fun i => .error (es i) :=
  ⟨Index.ofFlat bs ⟨0, hbs⟩, _, rfl⟩

/-- There is a result for a batch if there is one at each index. -/
theorem exists_ok_iff {whole : Except ε β} {single : Index bs → Except ε β}
    (h : Agrees Good cut whole single) :
    (∃ b, whole = .ok b) ↔ ∀ i, ∃ b, single i = .ok b := by
  cases whole with
  | error e =>
    obtain ⟨i, e', he⟩ := h
    constructor
    · rintro ⟨b, hb⟩
      cases hb
    · intro hall
      obtain ⟨b, hb⟩ := hall i
      cases he.symm.trans hb
  | ok b => exact ⟨fun _ i => ⟨_, h.2 i⟩, fun _ => ⟨b, rfl⟩⟩

theorem bind {whole : Except ε β} {single : Index bs → Except ε β} {f : β → Except ε γ}
    {g : Index bs → β → Except ε γ} (h : Agrees Good cut whole single)
    (hf : ∀ b, whole = .ok b → Good b → Agrees Good' cut' (f b) fun i => g i (cut i b)) :
    Agrees Good' cut' (whole >>= f) fun i => single i >>= g i := by
  cases whole with
  | error e =>
    obtain ⟨i, e', he⟩ := h
    exact ⟨i, e', congrArg (· >>= g i) he⟩
  | ok b =>
    obtain ⟨hb, hsingle⟩ := h
    simp only [hsingle]
    exact hf b rfl hb

theorem mapError {whole : Except ε β} {single : Index bs → Except ε β}
    (h : Agrees Good cut whole single) (f : ε → ε') :
    Agrees Good cut (whole.mapError f) fun i => (single i).mapError f := by
  cases whole with
  | error e =>
    obtain ⟨i, e', he⟩ := h
    exact ⟨i, f e', congrArg (Except.mapError f) he⟩
  | ok b => exact ⟨h.1, fun i => congrArg (Except.mapError f) (h.2 i)⟩

/-- Several outcomes that agree, one after the other. -/
theorem mapM {xs : List γ} {f : γ → Except ε β} {g : Index bs → γ → Except ε β}
    (h : ∀ x ∈ xs, Agrees Good cut (f x) fun i => g i x) :
    Agrees (fun ys => ∀ y ∈ ys, Good y) (fun i ys => ys.map (cut i)) (xs.mapM f)
      fun i => xs.mapM (g i) := by
  induction xs with
  | nil => exact ⟨by simp, fun i => rfl⟩
  | cons x xs ih =>
    simp only [List.mapM_cons]
    refine (h x List.mem_cons_self).bind fun y _ hy => ?_
    refine (ih fun z hz => h z (List.mem_cons_of_mem x hz)).bind fun ys _ hys => ?_
    exact ⟨List.forall_mem_cons.mpr ⟨hy, hys⟩, fun i => rfl⟩

end Agrees

/-- Agreement of values. -/
abbrev AgreesValue {α : Type} (whole : Except ε (Value α))
    (single : Index bs → Except ε (Value α)) : Prop :=
  Agrees (·.Batched bs) Value.atPoint whole single

/-- What is computed pointwise can be used pointwise. -/
theorem Pointwise.bind_agrees {α : Type} {inner : Axes} {whole : Shaped (Tensor α)}
    {single : Index bs → Shaped (Tensor α)} (h : Pointwise inner whole single)
    (e : ShapeError → ε) {Good : β → Prop} {cut : Index bs → β → β} {f : Tensor α → Except ε β}
    {g : Index bs → Tensor α → Except ε β}
    (hf : ∀ t, t.Batched inner bs → Agrees Good cut (f t) fun i => g i (t.atPoint inner.length i)) :
    Agrees Good cut (whole.mapError e >>= f) fun i => (single i).mapError e >>= g i := by
  obtain ⟨t, rfl, ht, hsingle⟩ := h
  simp only [hsingle]
  exact hf t ht

/-- What is computed pointwise is a value that agrees. -/
theorem Pointwise.agrees {α : Type} (k : Kind) {whole : Shaped (Tensor α)}
    {single : Index bs → Shaped (Tensor α)} (h : Pointwise k.axes whole single)
    (e : ShapeError → ε) :
    AgreesValue (whole.mapError e >>= fun data => .ok ⟨k, data⟩)
      fun i => (single i).mapError e >>= fun data => .ok ⟨k, data⟩ :=
  h.bind_agrees e fun _ ht => ⟨ht, fun _ => rfl⟩

end Agreement

/-! ## Components -/

/-- The different sizes of vectors of some kinds, in increasing order. -/
def kindSizes : List Kind → List Nat
  | [] => []
  | .vec n :: ks => insertSize n (kindSizes ks)
  | _ :: ks => kindSizes ks

/-- The kind of what is computed component by component from values of some kinds. -/
def commonKind (ks : List Kind) : Evaluated Kind :=
  if .mat2 ∈ ks then .error .matrixComponent
  else
    match kindSizes ks with
    | [] => .ok .float
    | [n] => .ok (.vec n)
    | sizes => .error (.mismatchedSizes sizes)

/-- The array of a value that is combined with values of a kind. -/
def Value.stretched {α : Type} (k : Kind) (v : Value α) : Tensor α :=
  match k with
  | .vec _ => if v.kind = .float then v.data.expand else v.data
  | _ => v.data

/-- The axes of a single value of the second kind, stretched to the first. -/
def Kind.stretchedAxes (k k' : Kind) : Axes :=
  match k, k' with
  | .vec _, .float => [1]
  | k, _ => k.axes

section Components

variable {α : Type} {bs : Axes}

theorem mem_insertSize {n m : Nat} {sizes : List Nat} :
    m ∈ insertSize n sizes ↔ m = n ∨ m ∈ sizes := by
  induction sizes with
  | nil => simp [insertSize]
  | cons l ls ih =>
    rw [insertSize]
    split_ifs with hlt heq
    · simp
    · simp [heq]
    · simp only [List.mem_cons, ih]
      tauto

theorem mem_kindSizes {n : Nat} {ks : List Kind} : n ∈ kindSizes ks ↔ Kind.vec n ∈ ks := by
  induction ks with
  | nil => simp [kindSizes]
  | cons k ks ih => cases k <;> simp [kindSizes, mem_insertSize, ih]

theorem vectorSizes_eq (vs : List (Value α)) : vectorSizes vs = kindSizes (vs.map (·.kind)) := by
  induction vs with
  | nil => rfl
  | cons v vs ih =>
    rw [vectorSizes, ih, List.map_cons]
    cases v.kind <;> rfl

theorem unify_eq [Scalar α] (vs : List (Value α)) :
    unify vs =
      (commonKind (vs.map (·.kind))).map fun k => (k, vs.map (·.stretched k)) := by
  have hany : (vs.any fun v => v.kind = .mat2) = true ↔ Kind.mat2 ∈ vs.map (·.kind) := by
    simp [List.any_eq_true, List.mem_map]
  rw [unify, commonKind, vectorSizes_eq]
  by_cases hmat : Kind.mat2 ∈ vs.map (·.kind)
  · rw [if_pos (hany.mpr hmat), if_pos hmat]
    rfl
  · rw [if_neg (mt hany.mp hmat), if_neg hmat]
    generalize kindSizes (vs.map (·.kind)) = sizes
    match sizes with
    | [] => rfl
    | [n] => rfl
    | _ :: _ :: _ => rfl

theorem commonKind_eq_ok {ks : List Kind} {k : Kind} (h : commonKind ks = .ok k) :
    k ≠ .mat2 ∧ (∀ k' ∈ ks, k' = k ∨ k' = .float) ∧ (k = .float ∨ k ∈ ks) := by
  rw [commonKind] at h
  split_ifs at h with hmat
  have hsizes : ∀ n, n ∈ kindSizes ks ↔ Kind.vec n ∈ ks := fun n => mem_kindSizes
  split at h
  · next hnil =>
    cases h
    refine ⟨by simp, fun k' hk' => Or.inr ?_, Or.inl rfl⟩
    cases k' with
    | float => rfl
    | vec n =>
      have hn := (hsizes n).mpr hk'
      simp [hnil] at hn
    | mat2 => exact absurd hk' hmat
  · next n hn =>
    cases h
    refine ⟨by simp, fun k' hk' => ?_, Or.inr ((hsizes n).mp (by simp [hn]))⟩
    cases k' with
    | float => exact Or.inr rfl
    | vec m =>
      have hm := (hsizes m).mpr hk'
      rw [hn, List.mem_singleton] at hm
      exact Or.inl (congrArg Kind.vec hm)
    | mat2 => exact absurd hk' hmat
  · cases h

theorem Kind.length_stretchedAxes (k k' : Kind) : (k.stretchedAxes k').length = k.axes.length := by
  cases k <;> cases k' <;> rfl

theorem Value.Batched.stretched {v : Value α} (h : v.Batched bs) {k : Kind} (hmat : k ≠ .mat2)
    (hk : v.kind = k ∨ v.kind = .float) :
    (v.stretched k).Batched (k.stretchedAxes v.kind) bs ∧
      ∀ i : Index bs, (v.atPoint i).stretched k = (v.stretched k).atPoint k.axes.length i := by
  obtain ⟨kind, data⟩ := v
  rcases hk with rfl | rfl
  · cases kind with
    | float => exact ⟨h, fun i => rfl⟩
    | vec n => exact ⟨h, fun i => rfl⟩
    | mat2 => exact absurd rfl hmat
  · cases k with
    | float => exact ⟨h, fun i => rfl⟩
    | vec n => exact ⟨Tensor.Batched.expand h, fun i => (Tensor.Batched.atPoint_expand h i).symm⟩
    | mat2 => exact absurd rfl hmat

theorem broadcastAxes_one_left (n : Nat) : broadcastAxes [1] [n] = some [n] := by
  by_cases hn : n = 1
  · subst hn
    rfl
  · rw [broadcastAxes, if_neg (by omega), if_pos rfl]
    rfl

theorem broadcastAxes_one_right (n : Nat) : broadcastAxes [n] [1] = some [n] :=
  if_pos (Or.inr rfl)

theorem broadcastAxes_self (n : Nat) : broadcastAxes [n] [n] = some [n] :=
  if_pos (Or.inl rfl)

/-- Two values stretched to their common kind fit together. -/
theorem Kind.broadcast_two {k a b : Kind} (h : commonKind [a, b] = .ok k) :
    broadcastAxes (k.stretchedAxes a) (k.stretchedAxes b) = some k.axes := by
  obtain ⟨hmat, hall, hone⟩ := commonKind_eq_ok h
  cases k with
  | float => rfl
  | mat2 => exact absurd rfl hmat
  | vec n =>
    have ha := hall a (by simp)
    have hb := hall b (by simp)
    have hab : a = .vec n ∨ b = .vec n := by simpa [eq_comm] using hone
    rcases ha with rfl | rfl <;> rcases hb with rfl | rfl <;>
      simp_all [stretchedAxes, axes, broadcastAxes_one_left, broadcastAxes_one_right,
        broadcastAxes_self]

/-- Three values stretched to their common kind fit together. -/
theorem Kind.broadcast_three {k a b c : Kind} (h : commonKind [a, b, c] = .ok k) :
    ∃ ab, broadcastAxes (k.stretchedAxes a) (k.stretchedAxes b) = some ab ∧
      ab.length = k.axes.length ∧ broadcastAxes ab (k.stretchedAxes c) = some k.axes := by
  obtain ⟨hmat, hall, hone⟩ := commonKind_eq_ok h
  cases k with
  | float => exact ⟨[], rfl, rfl, rfl⟩
  | mat2 => exact absurd rfl hmat
  | vec n =>
    have ha := hall a (by simp)
    have hb := hall b (by simp)
    have hc := hall c (by simp)
    have habc : a = .vec n ∨ b = .vec n ∨ c = .vec n := by simpa [eq_comm] using hone
    rcases ha with rfl | rfl <;> rcases hb with rfl | rfl <;> rcases hc with rfl | rfl <;>
      simp_all [stretchedAxes, axes, broadcastAxes_one_left, broadcastAxes_one_right,
        broadcastAxes_self]

/-- The function on arrays that a function on components is, given as many of them as it takes. -/
def Componentwise.shaped (c : Componentwise α) (args : List (Tensor α)) : Shaped (Tensor α) :=
  match c, args with
  | one f, [x] => .ok (x.map f)
  | two f, [x, y] => Tensor.zipWith f x y
  | three f, [x, y, z] => Tensor.zipWith3 f x y z
  | _, _ => .error .mismatch

theorem Componentwise.applyTo_eq_shaped (fn : String) (c : Componentwise α)
    {args : List (Tensor α)} (h : args.length = c.arity) :
    c.applyTo fn args = ofShaped (c.shaped args) := by
  cases c with
  | one f =>
    obtain ⟨x, rfl⟩ := List.length_eq_one_iff.mp h
    rfl
  | two f =>
    obtain ⟨x, y, rfl⟩ := List.length_eq_two.mp h
    rfl
  | three f =>
    obtain ⟨x, y, z, rfl⟩ := List.length_eq_three.mp h
    rfl

/-- Values stretched to their common kind are combined index by index. -/
theorem Componentwise.pointwise_shaped (c : Componentwise α) {args : List (Value α)}
    (h : ∀ v ∈ args, v.Batched bs) (harity : args.length = c.arity) {k : Kind}
    (hkind : commonKind (args.map (·.kind)) = .ok k) :
    Pointwise k.axes (c.shaped (args.map (·.stretched k))) fun i : Index bs =>
      c.shaped ((args.map (Value.atPoint i)).map (·.stretched k)) := by
  obtain ⟨hmat, hall, hone⟩ := commonKind_eq_ok hkind
  have hstretched := fun v (hv : v ∈ args) =>
    (h v hv).stretched hmat (hall v.kind (List.mem_map_of_mem hv))
  cases c with
  | one f =>
    obtain ⟨v, rfl⟩ := List.length_eq_one_iff.mp harity
    obtain ⟨hv, hcut⟩ := hstretched v (by simp)
    have haxes : k.stretchedAxes v.kind = k.axes := by
      rcases hone with rfl | hk
      · rfl
      · have hk : k = v.kind := List.mem_singleton.mp hk
        rw [hk]
        cases v.kind <;> rfl
    rw [haxes] at hv
    refine ⟨_, rfl, hv.map f, fun i => ?_⟩
    show Except.ok (((v.atPoint i).stretched k).map f) = _
    rw [hcut, ← hv.atPoint_map]
  | two f =>
    obtain ⟨v, w, rfl⟩ := List.length_eq_two.mp harity
    obtain ⟨hv, hvcut⟩ := hstretched v (by simp)
    obtain ⟨hw, hwcut⟩ := hstretched w (by simp)
    have hzip := hv.zipWith hw (by simp only [Kind.length_stretchedAxes])
      (Kind.broadcast_two hkind) f
    simp only [Kind.length_stretchedAxes, ← hvcut, ← hwcut] at hzip
    exact hzip
  | three f =>
    obtain ⟨v, w, u, rfl⟩ := List.length_eq_three.mp harity
    obtain ⟨hv, hvcut⟩ := hstretched v (by simp)
    obtain ⟨hw, hwcut⟩ := hstretched w (by simp)
    obtain ⟨hu, hucut⟩ := hstretched u (by simp)
    obtain ⟨ab, hab, hlength, habc⟩ := Kind.broadcast_three hkind
    have hzip := hv.zipWith3 hw hu (by simp only [Kind.length_stretchedAxes])
      (by rw [Kind.length_stretchedAxes, hlength]) hab habc f
    simp only [Kind.length_stretchedAxes, ← hvcut, ← hwcut, ← hucut] at hzip
    exact hzip

variable [Scalar α]

/-- A call of a function on components, for arguments that have a common kind. -/
theorem Componentwise.call_eq_shaped (fn : String) (c : Componentwise α) {args : List (Value α)}
    (harity : args.length = c.arity) {k : Kind}
    (hkind : commonKind (args.map (·.kind)) = .ok k) :
    c.call fn args =
      (ofShaped (c.shaped (args.map (·.stretched k))) >>= fun data => .ok ⟨k, data⟩) := by
  rw [call, if_pos harity, unify_eq, hkind,
    ← applyTo_eq_shaped fn c (by rw [List.length_map, harity])]
  rfl

/-- A function on components of a batch works at each index. -/
theorem Componentwise.agrees_call (hbs : 0 < volume bs) (fn : String) (c : Componentwise α)
    {args : List (Value α)} (h : ∀ v ∈ args, v.Batched bs) :
    AgreesValue (c.call fn args) fun i : Index bs => c.call fn (args.map (Value.atPoint i)) := by
  by_cases harity : args.length = c.arity
  swap
  · simp only [call, List.length_map, if_neg harity]
    exact .error hbs
  cases hkind : commonKind (args.map (·.kind)) with
  | error e =>
    simp only [call, List.length_map, if_pos harity, unify_eq, Value.map_kind_atPoint, hkind]
    exact .error hbs
  | ok k =>
    have hsingle : ∀ i : Index bs, c.call fn (args.map (Value.atPoint i)) = _ := fun i =>
      c.call_eq_shaped fn (by rw [List.length_map, harity])
        ((congrArg commonKind (Value.map_kind_atPoint i args)).trans hkind)
    simp only [c.call_eq_shaped fn harity hkind, hsingle]
    exact (c.pointwise_shaped h harity hkind).agrees k EvalError.shape

end Components

/-! ## Operators and selections -/

section Operators

variable {α : Type} {bs : Axes}

theorem atPoint_expand_expand {t : Tensor α} (h : t.Batched [] bs) (i : Index bs) :
    t.expand.expand.atPoint [1, 1].length i = (t.atPoint 0 i).expand.expand :=
  (h.expand.atPoint_expand i).trans (congrArg Tensor.expand (h.atPoint_expand i))

theorem pointwise_stack_two {a b : Tensor α} (ha : a.Batched [] bs) (hb : b.Batched [] bs) :
    Pointwise [2] (Tensor.stack [a, b]) fun i : Index bs =>
      Tensor.stack [a.atPoint 0 i, b.atPoint 0 i] :=
  Tensor.Batched.stack (by simp [ha, hb])

variable [Scalar α]

theorem pointwise_sumOfProducts {a b c d : Tensor α} (ha : a.Batched [] bs) (hb : b.Batched [] bs)
    (hc : c.Batched [] bs) (hd : d.Batched [] bs) :
    Pointwise [] (Value.sumOfProducts a b c d) fun i : Index bs =>
      Value.sumOfProducts (a.atPoint 0 i) (b.atPoint 0 i) (c.atPoint 0 i) (d.atPoint 0 i) :=
  ha.zipWith4 hb hc hd _

theorem pointwise_matrixVector {m v : Tensor α} (hm : m.Batched [2, 2] bs)
    (hv : v.Batched [2] bs) :
    Pointwise [2] (Value.matrixVector m v) fun i : Index bs =>
      Value.matrixVector (m.atPoint 2 i) (v.atPoint 1 i) := by
  refine (hv.component (by decide)).bind fun x hx => ?_
  refine (hv.component (by decide)).bind fun y hy => ?_
  refine (hm.entry (by decide) (by decide)).bind fun a ha => ?_
  refine (hm.entry (by decide) (by decide)).bind fun b hb => ?_
  refine (pointwise_sumOfProducts ha hx hb hy).bind fun p hp => ?_
  refine (hm.entry (by decide) (by decide)).bind fun c hc => ?_
  refine (hm.entry (by decide) (by decide)).bind fun d hd => ?_
  refine (pointwise_sumOfProducts hc hx hd hy).bind fun q hq => ?_
  exact pointwise_stack_two hp hq

theorem pointwise_vectorMatrix {m v : Tensor α} (hv : v.Batched [2] bs)
    (hm : m.Batched [2, 2] bs) :
    Pointwise [2] (Value.vectorMatrix v m) fun i : Index bs =>
      Value.vectorMatrix (v.atPoint 1 i) (m.atPoint 2 i) := by
  refine (hv.component (by decide)).bind fun x hx => ?_
  refine (hv.component (by decide)).bind fun y hy => ?_
  refine (hm.entry (by decide) (by decide)).bind fun a ha => ?_
  refine (hm.entry (by decide) (by decide)).bind fun c hc => ?_
  refine (pointwise_sumOfProducts ha hx hc hy).bind fun p hp => ?_
  refine (hm.entry (by decide) (by decide)).bind fun b hb => ?_
  refine (hm.entry (by decide) (by decide)).bind fun d hd => ?_
  refine (pointwise_sumOfProducts hb hx hd hy).bind fun q hq => ?_
  exact pointwise_stack_two hp hq

theorem pointwise_matrixMatrix {m n : Tensor α} (hm : m.Batched [2, 2] bs)
    (hn : n.Batched [2, 2] bs) :
    Pointwise [2, 2] (Value.matrixMatrix m n) fun i : Index bs =>
      Value.matrixMatrix (m.atPoint 2 i) (n.atPoint 2 i) := by
  have hcell : ∀ {row column : Nat}, row < 2 → column < 2 → Pointwise []
      (m.entry row 0 >>= fun a => n.entry 0 column >>= fun b => m.entry row 1 >>= fun c =>
        n.entry 1 column >>= fun d => Value.sumOfProducts a b c d)
      fun i : Index bs => (m.atPoint 2 i).entry row 0 >>= fun a =>
        (n.atPoint 2 i).entry 0 column >>= fun b => (m.atPoint 2 i).entry row 1 >>= fun c =>
          (n.atPoint 2 i).entry 1 column >>= fun d => Value.sumOfProducts a b c d := by
    intro row column hrow hcolumn
    refine (hm.entry hrow (by decide)).bind fun a ha => ?_
    refine (hn.entry (by decide) hcolumn).bind fun b hb => ?_
    refine (hm.entry hrow (by decide)).bind fun c hc => ?_
    refine (hn.entry (by decide) hcolumn).bind fun d hd => ?_
    exact pointwise_sumOfProducts ha hb hc hd
  refine (hcell (by decide) (by decide)).bind fun a ha => ?_
  refine (hcell (by decide) (by decide)).bind fun b hb => ?_
  refine (hcell (by decide) (by decide)).bind fun c hc => ?_
  refine (hcell (by decide) (by decide)).bind fun d hd => ?_
  exact ha.stackMatrix hb hc hd

/-- The kind of what an operator yields. -/
def binaryKind? (op : Operator) (k l : Kind) : Option Kind :=
  match op, k, l with
  | .mul, .mat2, .vec 2 => some (.vec 2)
  | .mul, .vec 2, .mat2 => some (.vec 2)
  | .mul, .mat2, .mat2 => some .mat2
  | .mul, .mat2, .float => some .mat2
  | .mul, .float, .mat2 => some .mat2
  | _, k, l => (commonKind [k, l]).toOption

/-- An operator multiplies with a matrix or works on components. -/
theorem Value.binary_cases (op : Operator) (k l : Kind) :
    (op = .mul ∧ k = .mat2 ∧ l = .vec 2) ∨ (op = .mul ∧ k = .vec 2 ∧ l = .mat2) ∨
    (op = .mul ∧ k = .mat2 ∧ l = .mat2) ∨ (op = .mul ∧ k = .mat2 ∧ l = .float) ∨
    (op = .mul ∧ k = .float ∧ l = .mat2) ∨
    (binaryKind? op k l = (commonKind [k, l]).toOption ∧
      ∀ x y : Tensor α, binary op ⟨k, x⟩ ⟨l, y⟩ = combine op ⟨k, x⟩ ⟨l, y⟩) := by
  simp only [or_iff_not_imp_left]
  intro h₁ h₂ h₃ h₄ h₅
  refine ⟨?_, fun x y => ?_⟩
  · unfold binaryKind?
    split <;> simp_all
  · unfold binary
    split <;> simp_all

variable {v w : Value α}

/-- Two values combined with an operator, where they have a common kind. -/
theorem Value.combine_eq_shaped {op : Operator} {f : α → α → α} (hop : op.meaning? = some f)
    {k : Kind} (hkind : commonKind [v.kind, w.kind] = .ok k) :
    combine op v w =
      (ofShaped ((Componentwise.two f).shaped ([v, w].map (·.stretched k))) >>= fun data =>
        .ok ⟨k, data⟩) := by
  have hunify : unify [v, w] = .ok (k, [v, w].map (·.stretched k)) := by
    rw [unify_eq]
    show (commonKind [v.kind, w.kind]).map _ = _
    rw [hkind]
    rfl
  rw [combine, hunify]
  simp only [hop]
  rfl

theorem agrees_combine (hbs : 0 < volume bs) (op : Operator) (hv : v.Batched bs)
    (hw : w.Batched bs) :
    AgreesValue (Value.combine op v w) fun i : Index bs =>
      Value.combine op (v.atPoint i) (w.atPoint i) := by
  have hkinds : ∀ i : Index bs, [v.atPoint i, w.atPoint i].map (·.kind) = [v, w].map (·.kind) :=
    fun i => rfl
  cases hkind : commonKind [v.kind, w.kind] with
  | error e =>
    have hkind : commonKind ([v, w].map (·.kind)) = .error e := hkind
    simp only [Value.combine, unify_eq, hkinds, hkind]
    exact .error hbs
  | ok k =>
    cases hmeaning : (op.meaning? : Option (α → α → α)) with
    | none =>
      have hkind : commonKind ([v, w].map (·.kind)) = .ok k := hkind
      simp only [Value.combine, unify_eq, hkinds, hkind, hmeaning]
      exact .error hbs
    | some f =>
      have hsingle : ∀ i : Index bs, Value.combine op (v.atPoint i) (w.atPoint i) = _ := fun i =>
        Value.combine_eq_shaped hmeaning hkind
      have hbatched : ∀ u ∈ [v, w], u.Batched bs := by simp [hv, hw]
      simp only [Value.combine_eq_shaped hmeaning hkind, hsingle]
      exact Pointwise.agrees k ((Componentwise.two f).pointwise_shaped hbatched rfl hkind)
        EvalError.shape

theorem agrees_binary (hbs : 0 < volume bs) (op : Operator) (hv : v.Batched bs)
    (hw : w.Batched bs) :
    AgreesValue (Value.binary op v w) fun i : Index bs =>
      Value.binary op (v.atPoint i) (w.atPoint i) := by
  have hcombine := agrees_combine hbs op hv hw
  obtain ⟨kv, v⟩ := v
  obtain ⟨kw, w⟩ := w
  rcases @Value.binary_cases α _ op kv kw with ⟨rfl, rfl, rfl⟩ | ⟨rfl, rfl, rfl⟩ | ⟨rfl, rfl, rfl⟩ |
    ⟨rfl, rfl, rfl⟩ | ⟨rfl, rfl, rfl⟩ | ⟨-, hbinary⟩
  · exact Pointwise.agrees (.vec 2) (pointwise_matrixVector hv hw) EvalError.shape
  · exact Pointwise.agrees (.vec 2) (pointwise_vectorMatrix hv hw) EvalError.shape
  · exact Pointwise.agrees .mat2 (pointwise_matrixMatrix hv hw) EvalError.shape
  · have hv : v.Batched [2, 2] bs := hv
    have hw : w.Batched [] bs := hw
    have hzip := hv.zipWith hw.expand.expand rfl rfl Scalar.mul
    simp only [atPoint_expand_expand hw] at hzip
    exact Pointwise.agrees .mat2 hzip EvalError.shape
  · have hv : v.Batched [] bs := hv
    have hw : w.Batched [2, 2] bs := hw
    have hzip := hv.expand.expand.zipWith hw rfl rfl Scalar.mul
    simp only [atPoint_expand_expand hv] at hzip
    exact Pointwise.agrees .mat2 hzip EvalError.shape
  · simp only [hbinary, Value.atPoint]
    exact hcombine

theorem agrees_negate (hv : v.Batched bs) :
    AgreesValue (.ok v.negate : Evaluated (Value α)) fun i : Index bs =>
      .ok (v.atPoint i).negate :=
  ⟨Tensor.Batched.map hv _, fun i =>
    congrArg (fun data => Except.ok (Value.mk v.kind data))
      (Tensor.Batched.atPoint_map hv _ i).symm⟩

theorem eq_nil_of_swizzleIndices? {fields : List Char} (h : swizzleIndices? fields = some []) :
    fields = [] := by
  cases fields with
  | nil => rfl
  | cons c cs =>
    rw [swizzleIndices?, List.mapM_cons] at h
    obtain ⟨k, -, h⟩ := Option.bind_eq_some_iff.mp h
    obtain ⟨ks, -, h⟩ := Option.bind_eq_some_iff.mp h
    cases h

omit [Scalar α] in
/-- A selection is of one component or of several, or fails whatever the vectors are. -/
theorem Value.select_cases (k : Kind) (fields : String) :
    (∃ e, (e = .invalidSwizzle fields ∨ e = .badSwizzle k fields ∨
        (e = .emptySwizzle ∧ fields = "")) ∧
      ∀ data : Tensor α, select ⟨k, data⟩ fields = .error e) ∨
    (∃ n m, k = .vec n ∧ m < n ∧ swizzleIndices? fields.toList = some [m] ∧
      ∀ data : Tensor α,
        select ⟨k, data⟩ fields = do return ⟨.float, ← ofShaped (data.component m)⟩) ∨
    ∃ n ks, k = .vec n ∧ (∀ m ∈ ks, m < n) ∧ swizzleIndices? fields.toList = some ks ∧
      (2 ≤ ks.length ∧ ks.length ≤ 4) ∧ ∀ data : Tensor α,
        select ⟨k, data⟩ fields = do return ⟨.vec ks.length, ← ofShaped (data.components ks)⟩ := by
  simp only [select]
  cases hindices : swizzleIndices? fields.toList with
  | none => exact Or.inl ⟨_, Or.inl rfl, fun _ => rfl⟩
  | some indices =>
    cases k with
    | float => exact Or.inl ⟨_, Or.inr (Or.inl rfl), fun _ => rfl⟩
    | mat2 => exact Or.inl ⟨_, Or.inr (Or.inl rfl), fun _ => rfl⟩
    | vec n =>
      by_cases hn : n = 0
      · exact Or.inl ⟨_, Or.inr (Or.inl rfl), fun _ => by
          simp only [Kind.size, hn, ↓reduceIte]⟩
      simp only [Kind.size, hn, ↓reduceIte]
      cases indices with
      | nil =>
        have hempty : fields = "" :=
          String.toList_eq_nil_iff.mp (eq_nil_of_swizzleIndices? hindices)
        exact Or.inl ⟨_, Or.inr (Or.inr ⟨rfl, hempty⟩), fun _ => rfl⟩
      | cons m ms =>
        by_cases hfit : ((m :: ms).any (n ≤ ·) || decide (4 < (m :: ms).length)) = true
        · exact Or.inl ⟨_, Or.inr (Or.inl rfl), fun _ => if_pos hfit⟩
        · have hlt : ∀ l ∈ m :: ms, l < n := by
            intro l hl
            by_contra hle
            refine hfit (Bool.or_eq_true_iff.mpr (Or.inl (List.any_eq_true.mpr ⟨l, hl, ?_⟩)))
            simpa using hle
          have hfour : (m :: ms).length ≤ 4 := by
            by_contra hgt
            exact hfit (Bool.or_eq_true_iff.mpr (Or.inr (decide_eq_true (Nat.not_le.mp hgt))))
          cases ms with
          | nil => exact Or.inr (Or.inl ⟨n, m, rfl, hlt m (by simp), rfl, fun _ => if_neg hfit⟩)
          | cons l ls =>
            exact Or.inr (Or.inr ⟨n, m :: l :: ls, rfl, hlt, rfl, ⟨by simp, hfour⟩,
              fun _ => if_neg hfit⟩)

omit [Scalar α] in
theorem agrees_select (hbs : 0 < volume bs) (hv : v.Batched bs) (fields : String) :
    AgreesValue (v.select fields) fun i : Index bs => (v.atPoint i).select fields := by
  obtain ⟨k, data⟩ := v
  rcases @Value.select_cases α k fields with ⟨e, -, he⟩ | ⟨n, m, rfl, hm, -, hselect⟩ |
    ⟨n, ks, rfl, hks, -, -, hselect⟩
  · simp only [Value.atPoint, he]
    exact .error hbs
  · simp only [Value.atPoint, hselect]
    exact Pointwise.agrees .float (Tensor.Batched.component hv hm) EvalError.shape
  · simp only [Value.atPoint, hselect]
    exact Pointwise.agrees (.vec ks.length) (Tensor.Batched.components hv hks) EvalError.shape

end Operators

/-! ## Builtin functions -/

namespace Builtin

variable {α : Type} {bs : Axes}

/-- The numbers that an argument supplies are those of the batch. -/
theorem agrees_parts (hbs : 0 < volume bs) (n : Nat) {v : Value α} (hv : v.Batched bs) :
    Agrees (fun ts => ∀ t ∈ ts, t.Batched [] bs)
      (fun i ts => ts.map fun t => t.atPoint 0 i) (parts n v)
      fun i : Index bs => parts n (v.atPoint i) := by
  obtain ⟨k, data⟩ := v
  cases k with
  | float => exact ⟨List.forall_mem_singleton.mpr hv, fun i => rfl⟩
  | mat2 => exact .error hbs
  | vec size =>
    refine Agrees.mapM fun m hm => ?_
    obtain ⟨t, ht, hbatched, hsingle⟩ := Tensor.Batched.component hv (List.mem_range.mp hm)
    simp only [ht]
    exact ⟨hbatched, fun i => congrArg ofShape (hsingle i)⟩

theorem spread_map_atPoint (n : Nat) (args : List (Value α)) (i : Index bs) :
    spread n (args.map (Value.atPoint i)) = (spread n args).map (Value.atPoint i) := by
  match args with
  | [] => rfl
  | _ :: _ :: _ => rfl
  | [v] =>
    simp only [List.map_cons, List.map_nil, spread, Value.atPoint]
    split_ifs
    · rw [List.map_replicate]
      rfl
    · rfl

theorem batched_spread (n : Nat) {args : List (Value α)} (h : ∀ v ∈ args, v.Batched bs) :
    ∀ v ∈ spread n args, v.Batched bs := by
  match args with
  | [] => exact h
  | _ :: _ :: _ => exact h
  | [v] =>
    rw [spread]
    split_ifs
    · intro w hw
      rw [List.eq_of_mem_replicate hw]
      exact h v (by simp)
    · exact h

theorem agrees_vectorData (hbs : 0 < volume bs) (n : Nat) {args : List (Value α)}
    (h : ∀ v ∈ args, v.Batched bs) :
    Agrees (fun t => t.Batched [n] bs) (fun i t => t.atPoint 1 i) (vectorData n args)
      fun i : Index bs => vectorData n (args.map (Value.atPoint i)) := by
  simp only [vectorData, spread_map_atPoint, List.mapM_map]
  refine (Agrees.mapM fun v hv => agrees_parts hbs n (batched_spread n h v hv)).bind
    fun tss _ htss => ?_
  have hlength : ∀ i : Index bs,
      (tss.map (List.map fun t => t.atPoint 0 i)).flatten.length = tss.flatten.length := by
    intro i
    rw [← List.map_flatten, List.length_map]
  simp only [hlength]
  by_cases hn : tss.flatten.length = n
  · subst hn
    have hbatched : ∀ t ∈ tss.flatten, t.Batched [] bs := by
      intro t ht
      obtain ⟨ts, hts, ht⟩ := List.mem_flatten.mp ht
      exact htss ts hts t ht
    obtain ⟨t, ht, hstack, hsingle⟩ := Tensor.Batched.stack hbatched
    simp only [↓reduceIte, ht, ← List.map_flatten]
    exact ⟨hstack, fun i => congrArg ofShape (hsingle i)⟩
  · simp only [hn, ↓reduceIte]
    exact .error hbs

theorem agrees_vector (hbs : 0 < volume bs) (n : Nat) {args : List (Value α)}
    (h : ∀ v ∈ args, v.Batched bs) :
    AgreesValue (vector n args) fun i : Index bs => vector n (args.map (Value.atPoint i)) :=
  (agrees_vectorData hbs n h).bind fun _ _ ht => ⟨ht, fun _ => rfl⟩

theorem agrees_matrix (hbs : 0 < volume bs) {args : List (Value α)}
    (h : ∀ v ∈ args, v.Batched bs) :
    AgreesValue (matrix args) fun i : Index bs => matrix (args.map (Value.atPoint i)) := by
  refine (agrees_vectorData hbs 4 h).bind fun t _ ht => ?_
  refine (ht.component (by decide)).bind_agrees CallFault.shape fun a ha => ?_
  refine (ht.component (by decide)).bind_agrees CallFault.shape fun b hb => ?_
  refine (ht.component (by decide)).bind_agrees CallFault.shape fun c hc => ?_
  refine (ht.component (by decide)).bind_agrees CallFault.shape fun d hd => ?_
  exact Pointwise.agrees .mat2 (ha.stackMatrix hc hb hd) CallFault.shape

variable [Scalar α]

theorem agrees_length (hbs : 0 < volume bs) {args : List (Value α)}
    (h : ∀ v ∈ args, v.Batched bs) (hmat : args.map (·.kind) ≠ [.mat2]) :
    AgreesValue (length args) fun i : Index bs => length (args.map (Value.atPoint i)) := by
  match args with
  | [] => exact .error hbs
  | _ :: _ :: _ => exact .error hbs
  | [⟨k, data⟩] =>
    have hv : data.Batched k.axes bs := h ⟨k, data⟩ (by simp)
    cases k with
    | float =>
      refine ⟨hv.map _, fun i => ?_⟩
      exact congrArg (Except.ok ∘ Value.float) (hv.atPoint_map _ i).symm
    | vec n => exact Pointwise.agrees .float (Tensor.Batched.norm hv) CallFault.shape
    | mat2 => exact absurd rfl hmat

theorem agrees_dot (hbs : 0 < volume bs) {args : List (Value α)} (h : ∀ v ∈ args, v.Batched bs) :
    AgreesValue (dot args) fun i : Index bs => dot (args.map (Value.atPoint i)) := by
  match args with
  | [] => exact .error hbs
  | [_] => exact .error hbs
  | _ :: _ :: _ :: _ => exact .error hbs
  | [⟨k, data⟩, ⟨l, data'⟩] =>
    have hv : data.Batched k.axes bs := h ⟨k, data⟩ (by simp)
    have hw : data'.Batched l.axes bs := h ⟨l, data'⟩ (by simp)
    simp only [dot, List.map_cons, List.map_nil, Value.atPoint]
    by_cases hkinds : k ≠ l ∨ k = .mat2
    · simp only [hkinds, ↓reduceIte]
      exact .error hbs
    · simp only [hkinds, ↓reduceIte]
      obtain ⟨hkl, hmat⟩ := not_or.mp hkinds
      obtain rfl := not_ne_iff.mp hkl
      cases k with
      | float => exact Pointwise.agrees .float (hv.zipWith hw rfl rfl _) CallFault.shape
      | vec n =>
        exact Pointwise.agrees .float (Tensor.Batched.dot hv hw (broadcastAxes_self n))
          CallFault.shape
      | mat2 => exact absurd rfl hmat

theorem agrees_dot2 (hbs : 0 < volume bs) {args : List (Value α)}
    (h : ∀ v ∈ args, v.Batched bs) :
    AgreesValue (dot2 args) fun i : Index bs => dot2 (args.map (Value.atPoint i)) := by
  match args with
  | [] => exact .error hbs
  | _ :: _ :: _ => exact .error hbs
  | [v] => exact agrees_dot hbs (List.forall_mem_cons.mpr ⟨h v (by simp), h⟩)

theorem any_toList {β : Type} (t : Tensor β) (p : β → Bool) :
    t.toList.any p = true ↔ ∃ i, p (t.get i) = true := by
  rw [List.any_eq_true]
  constructor
  · rintro ⟨b, hb, hp⟩
    obtain ⟨k, hk, rfl⟩ := Vector.mem_iff_getElem.mp (Vector.mem_toList_iff.mp hb)
    refine ⟨Index.ofFlat t.axes ⟨k, hk⟩, ?_⟩
    rw [Tensor.get, Index.flat_ofFlat]
    exact hp
  · rintro ⟨i, hp⟩
    have hmem : t.get i ∈ t.data := Vector.mem_iff_getElem.mpr ⟨_, i.flat.isLt, rfl⟩
    exact ⟨t.get i, Vector.mem_toList_iff.mpr hmem, hp⟩

theorem any_toList_atPoint {β : Type} {t : Tensor β} (ht : t.Batched [] bs) (p : β → Bool)
    (i : Index bs) : (t.atPoint 0 i).toList.any p = p (t.get (i.clip ht.fits)) := by
  rw [ht.atPoint_eq_scalar, Bool.eq_iff_iff, any_toList]
  constructor
  · rintro ⟨j, hj⟩
    rwa [get_of_eq_scalar rfl] at hj
  · intro h
    exact ⟨(), (congrArg p (get_of_eq_scalar rfl _)).trans h⟩

/-- Matrices of a batch can be inverted if each of them can. -/
theorem agrees_inverse (hbs : 0 < volume bs) {args : List (Value α)}
    (h : ∀ v ∈ args, v.Batched bs) :
    AgreesValue (inverse args) fun i : Index bs => inverse (args.map (Value.atPoint i)) := by
  match args with
  | [] => exact .error hbs
  | _ :: _ :: _ => exact .error hbs
  | [⟨.float, data⟩] => exact .error hbs
  | [⟨.vec n, data⟩] => exact .error hbs
  | [⟨.mat2, data⟩] =>
    have hdata : data.Batched [2, 2] bs := h ⟨.mat2, data⟩ (by simp)
    refine (hdata.entry (by decide) (by decide)).bind_agrees CallFault.shape fun a ha => ?_
    refine (hdata.entry (by decide) (by decide)).bind_agrees CallFault.shape fun b hb => ?_
    refine (hdata.entry (by decide) (by decide)).bind_agrees CallFault.shape fun c hc => ?_
    refine (hdata.entry (by decide) (by decide)).bind_agrees CallFault.shape fun d hd => ?_
    refine (ha.zipWith4 hb hc hd Matrix2.mk).bind_agrees CallFault.shape fun m hm => ?_
    simp only [List.length_nil, any_toList_atPoint hm]
    by_cases hsingular : m.toList.any Matrix2.singular = true
    · -- the index of a singular matrix comes from an index of the batch
      obtain ⟨j, hj⟩ := (any_toList m _).mp hsingular
      obtain ⟨i, rfl⟩ := Index.exists_clip hm.fits hbs j
      simp only [hsingular, ↓reduceIte]
      exact ⟨i, .singular, if_pos hj⟩
    · have hregular : ∀ i : Index bs, (m.get (i.clip hm.fits)).singular = false := fun i =>
        Bool.eq_false_iff.mpr fun hi => hsingular ((any_toList m _).mpr ⟨_, hi⟩)
      simp only [hsingular, hregular, Bool.false_eq_true, ↓reduceIte]
      have hinverses := hm.map Matrix2.inverse
      have hentries := (hinverses.map (·.a)).stackMatrix (hinverses.map (·.b))
        (hinverses.map (·.c)) (hinverses.map (·.d))
      have hcut : ∀ (f : Matrix2 α → α) (i : Index bs),
          ((m.map Matrix2.inverse).map f).atPoint 0 i =
            ((m.atPoint 0 i).map Matrix2.inverse).map f := fun f i =>
        (hinverses.atPoint_map f i).trans (congrArg (Tensor.map f) (hm.atPoint_map _ i))
      simp only [hcut] at hentries
      exact Pointwise.agrees .mat2 hentries CallFault.shape

end Builtin

end SignedDistance
