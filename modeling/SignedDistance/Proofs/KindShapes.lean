import Mathlib
import SignedDistance.Evaluation.Bindings
import SignedDistance.Proofs.Outcomes
import SignedDistance.Proofs.PointwiseCalls
import SignedDistance.Proofs.RoundTrip

/-!
# Kinds and shapes

A value carries its kind beside its array, and operations compute the two separately. They always
agree: the innermost axes of the array are those of the kind (`Value.FitsKind`). Every operation
keeps this, and on such values it never looks for a component or an axis that is not there, so the
only shapes that can be at fault are those of batches. Nothing is known of the primitives of a
library, except that their results are numbers.

Names are bound to arrays, of which values are made that fit, and to given values, which nothing
checks. Those that the evaluator itself has made fit as well (`Value.IsMade`), so that kinds and
shapes agree throughout (`fitsKind_of_eval`).
-/

namespace SignedDistance

open Tensor

/-! ## Arrays with given innermost axes -/

/-- Common axes begin with the common axes of what the two shapes begin with. -/
theorem broadcastAxes_isPrefix {is js ks as bs cs : Axes} (hlength : is.length = js.length)
    (h : broadcastAxes is js = some ks) (his : is <+: as) (hjs : js <+: bs)
    (hcs : broadcastAxes as bs = some cs) : ks <+: cs := by
  induction is generalizing js ks as bs cs with
  | nil =>
    obtain rfl := List.eq_nil_of_length_eq_zero hlength.symm
    cases h
    exact List.nil_prefix
  | cons i is ih =>
    cases js with
    | nil => cases hlength
    | cons j js =>
      obtain ⟨as, rfl⟩ := his
      obtain ⟨bs, rfl⟩ := hjs
      rw [List.cons_append, List.cons_append, broadcastAxes] at hcs
      rw [broadcastAxes] at h
      have hrest : ∀ {ks cs}, broadcastAxes is js = some ks →
          broadcastAxes (is ++ as) (js ++ bs) = some cs → ks <+: cs := fun h hcs =>
        ih (Nat.succ.inj hlength) h (List.prefix_append _ _) (List.prefix_append _ _) hcs
      -- both shapes take the same branch
      split_ifs at h hcs
      · obtain ⟨ks', hks, rfl⟩ := Option.map_eq_some_iff.mp h
        obtain ⟨cs', hcs', rfl⟩ := Option.map_eq_some_iff.mp hcs
        exact List.cons_prefix_cons.mpr ⟨rfl, hrest hks hcs'⟩
      · obtain ⟨ks', hks, rfl⟩ := Option.map_eq_some_iff.mp h
        obtain ⟨cs', hcs', rfl⟩ := Option.map_eq_some_iff.mp hcs
        exact List.cons_prefix_cons.mpr ⟨rfl, hrest hks hcs'⟩

namespace Tensor

variable {α β γ : Type} {inner : Axes} {t : Tensor α}

/-- The result of an operation has the given innermost axes. If there is none, then two shapes do
not fit together. -/
abbrev Yields (inner : Axes) (result : Shaped (Tensor α)) : Prop :=
  Settles (fun t => inner <+: t.axes) (· = ShapeError.mismatch) result

theorem yields_component {n k : Nat} (h : n :: inner <+: t.axes) (hk : k < n) :
    Yields inner (t.component k) := by
  obtain ⟨axes, data⟩ := t
  cases axes with
  | nil => cases List.prefix_nil.mp h
  | cons m ms =>
    obtain ⟨rfl, hinner⟩ := List.cons_prefix_cons.mp h
    rw [component, dif_pos hk]
    exact .ok hinner

theorem yields_components {n : Nat} {ks : List Nat} (h : [n] <+: t.axes) (hks : ∀ k ∈ ks, k < n) :
    Yields [ks.length] (t.components ks) := by
  obtain ⟨axes, data⟩ := t
  cases axes with
  | nil => cases List.prefix_nil.mp h
  | cons m ms =>
    obtain ⟨rfl, -⟩ := List.cons_prefix_cons.mp h
    rw [components, dif_pos hks]
    exact .ok (List.cons_prefix_cons.mpr ⟨rfl, List.nil_prefix⟩)

theorem yields_entry (h : [2, 2] <+: t.axes) (row column : Fin 2) :
    Yields [] (t.entry row column) :=
  (yields_component h column.isLt).bind fun _ _ ht => yields_component ht row.isLt

theorem yields_norm [Scalar α] {n : Nat} (h : n :: inner <+: t.axes) : Yields [] t.norm := by
  obtain ⟨axes, data⟩ := t
  cases axes with
  | nil => cases List.prefix_nil.mp h
  | cons m ms => exact .ok List.nil_prefix

theorem yields_zipWith {is js : Axes} {s : Tensor β} (ht : is <+: t.axes) (hs : js <+: s.axes)
    (hlength : is.length = js.length) (h : broadcastAxes is js = some inner)
    (f : α → β → γ) : Yields inner (t.zipWith f s) := by
  unfold zipWith
  split
  · exact .error rfl
  · next axes haxes => exact .ok (broadcastAxes_isPrefix hlength h ht hs haxes)

/-- Any two arrays whatever: nothing is said about the axes of the result. -/
theorem yields_nil_zipWith (f : α → β → γ) (t : Tensor α) (s : Tensor β) :
    Yields [] (t.zipWith f s) :=
  yields_zipWith List.nil_prefix List.nil_prefix rfl rfl f

theorem yields_nil_zipWith4 {δ ε : Type} (f : α → β → γ → δ → ε) (a : Tensor α) (b : Tensor β)
    (c : Tensor γ) (d : Tensor δ) : Yields [] (zipWith4 f a b c d) := by
  have hthree : Yields [] (zipWith3 f a b c) :=
    (yields_nil_zipWith f a b).bind fun t _ _ => yields_nil_zipWith _ t c
  exact hthree.bind fun t _ _ => yields_nil_zipWith _ t d

theorem yields_stack (parts : List (Tensor α)) : Yields [parts.length] (stack parts) := by
  unfold stack
  split
  · exact .error rfl
  · split_ifs
    · exact .ok (List.cons_prefix_cons.mpr ⟨rfl, List.nil_prefix⟩)
    · exact .error rfl

theorem yields_stackMatrix (a b c d : Tensor α) : Yields [2, 2] (stackMatrix a b c d) := by
  unfold stackMatrix
  split
  · exact .error rfl
  · split_ifs
    · exact .ok ⟨_, rfl⟩
    · exact .error rfl

theorem Yields.mapError {ε : Type} {Allowed : ε → Prop} {wrap : ShapeError → ε}
    {result : Shaped (Tensor α)} (h : Yields inner result) (hwrap : Allowed (wrap .mismatch)) :
    Settles (fun t => inner <+: t.axes) Allowed (result.mapError wrap) := by
  cases h with
  | ok h => exact .ok h
  | error h =>
    cases h
    exact .error hwrap

end Tensor

/-! ## Values -/

/-- The kinds that values have. -/
def Kind.all : List Kind :=
  [.float, .vec 2, .vec 3, .vec 4, .mat2]

/-- The array of a value has the axes of its kind innermost. -/
structure Value.FitsKind {α : Type} (v : Value α) : Prop where
  mem : v.kind ∈ Kind.all
  axes : v.kind.axes <+: v.data.axes

/-- The fault is not that of a component or an axis that is missing. -/
def CallFault.InRange (fault : CallFault) : Prop :=
  ∀ e, fault = .shape e → e = .mismatch

/-- The error is not that of a component or an axis that is missing. -/
def EvalError.InRange (error : EvalError) : Prop :=
  ∀ e, error = .shape e → e = .mismatch

theorem CallFault.inRange_mismatch : CallFault.InRange (.shape .mismatch) := by
  rintro _ ⟨⟩
  rfl

theorem EvalError.inRange_mismatch : EvalError.InRange (.shape .mismatch) := by
  rintro _ ⟨⟩
  rfl

namespace Value

variable {α : Type} {v w : Value α}

theorem fitsKind_float (data : Tensor α) : (float data).FitsKind :=
  ⟨by simp [float, Kind.all], List.nil_prefix⟩

/-- An operation on arrays that yields the axes of a kind makes a value of that kind. -/
theorem settles_of_yields {ε : Type} {Allowed : ε → Prop} {wrap : ShapeError → ε}
    (hwrap : Allowed (wrap .mismatch)) {k : Kind} (hk : k ∈ Kind.all)
    {result : Shaped (Tensor α)} (h : Yields k.axes result) :
    Settles FitsKind Allowed (result.mapError wrap >>= fun data => .ok ⟨k, data⟩) :=
  (h.mapError hwrap).bind fun _ _ ht => .ok ⟨hk, ht⟩

theorem FitsKind.stretched (h : v.FitsKind) {k : Kind} (hmat : k ≠ .mat2)
    (hk : v.kind = k ∨ v.kind = .float) :
    k.stretchedAxes v.kind <+: (v.stretched k).axes := by
  obtain ⟨kind, data⟩ := v
  have haxes := h.axes
  rcases hk with rfl | rfl
  · cases kind with
    | float => exact haxes
    | vec n => exact haxes
    | mat2 => exact absurd rfl hmat
  · cases k with
    | float => exact haxes
    | vec n => exact List.cons_prefix_cons.mpr ⟨rfl, haxes⟩
    | mat2 => exact absurd rfl hmat

end Value

theorem inRange_of_commonKind {ks : List Kind} {e : EvalError} (h : commonKind ks = .error e) :
    e.InRange := by
  unfold commonKind at h
  split at h
  · cases h
    rintro _ ⟨⟩
  · split at h
    · cases h
    · cases h
    · cases h
      rintro _ ⟨⟩

/-- The common kind of values is a kind of values. -/
theorem mem_of_commonKind {α : Type} {vs : List (Value α)} (h : ∀ v ∈ vs, v.FitsKind) {k : Kind}
    (hkind : commonKind (vs.map (·.kind)) = .ok k) : k ∈ Kind.all := by
  obtain ⟨-, -, hone⟩ := commonKind_eq_ok hkind
  rcases hone with rfl | hmem
  · exact List.mem_cons_self
  · obtain ⟨v, hv, rfl⟩ := List.mem_map.mp hmem
    exact (h v hv).mem

namespace Componentwise

variable {α : Type}

theorem yields_shaped (c : Componentwise α) {args : List (Value α)} (h : ∀ v ∈ args, v.FitsKind)
    (harity : args.length = c.arity) {k : Kind} (hkind : commonKind (args.map (·.kind)) = .ok k) :
    Yields k.axes (c.shaped (args.map (·.stretched k))) := by
  obtain ⟨hmat, hall, hone⟩ := commonKind_eq_ok hkind
  have hstretched := fun v (hv : v ∈ args) =>
    (h v hv).stretched hmat (hall v.kind (List.mem_map_of_mem hv))
  cases c with
  | one f =>
    obtain ⟨v, rfl⟩ := List.length_eq_one_iff.mp harity
    have haxes := hstretched v (by simp)
    have hself : k.stretchedAxes v.kind = k.axes := by
      rcases hone with rfl | hk
      · rfl
      · have hk : k = v.kind := List.mem_singleton.mp hk
        rw [hk]
        cases v.kind <;> rfl
    rw [hself] at haxes
    exact .ok haxes
  | two f =>
    obtain ⟨v, w, rfl⟩ := List.length_eq_two.mp harity
    exact yields_zipWith (hstretched v (by simp)) (hstretched w (by simp))
      (by simp only [Kind.length_stretchedAxes]) (Kind.broadcast_two hkind) f
  | three f =>
    obtain ⟨v, w, u, rfl⟩ := List.length_eq_three.mp harity
    obtain ⟨vw, hvw, hlength, hvwu⟩ := Kind.broadcast_three hkind
    refine (yields_zipWith (hstretched v (by simp)) (hstretched w (by simp))
      (by simp only [Kind.length_stretchedAxes]) hvw f).bind fun t _ ht => ?_
    exact yields_zipWith ht (hstretched u (by simp))
      (by rw [Kind.length_stretchedAxes, hlength]) hvwu _

variable [Scalar α]

theorem settles_call (fn : String) (c : Componentwise α) {args : List (Value α)}
    (h : ∀ v ∈ args, v.FitsKind) :
    Settles Value.FitsKind EvalError.InRange (c.call fn args) := by
  by_cases harity : args.length = c.arity
  · cases hkind : commonKind (args.map (·.kind)) with
    | error e =>
      have hcall : c.call fn args = .error e := by
        rw [call, if_pos harity, unify_eq, hkind]
        rfl
      rw [hcall]
      exact .error (inRange_of_commonKind hkind)
    | ok k =>
      rw [c.call_eq_shaped fn harity hkind]
      exact Value.settles_of_yields EvalError.inRange_mismatch (mem_of_commonKind h hkind)
        (c.yields_shaped h harity hkind)
  · rw [call, if_neg harity]
    refine .error ?_
    rintro _ ⟨⟩

end Componentwise

/-! ## Operators and selections -/

namespace Value

variable {α : Type} {v w : Value α}

theorem settles_select (h : v.FitsKind) (fields : String) :
    Settles FitsKind EvalError.InRange (v.select fields) := by
  obtain ⟨k, data⟩ := v
  rcases @select_cases α k fields with ⟨e, herror, he⟩ | ⟨n, m, rfl, hm, -, hselect⟩ |
    ⟨n, ks, rfl, hks, -, hlength, hselect⟩
  · rw [he]
    refine .error ?_
    rcases herror with rfl | rfl | ⟨rfl, -⟩ <;> rintro _ ⟨⟩
  · rw [hselect]
    exact settles_of_yields EvalError.inRange_mismatch (k := .float) (by simp [Kind.all])
      (yields_component h.axes hm)
  · rw [hselect]
    refine settles_of_yields EvalError.inRange_mismatch (k := .vec ks.length) ?_
      (yields_components h.axes hks)
    have hsize : ks.length = 2 ∨ ks.length = 3 ∨ ks.length = 4 := by omega
    rcases hsize with hsize | hsize | hsize <;> simp [hsize, Kind.all]

variable [Scalar α]

theorem yields_sumOfProducts (a b c d : Tensor α) : Yields [] (sumOfProducts a b c d) :=
  yields_nil_zipWith4 _ a b c d

theorem yields_matrixVector {m x : Tensor α} (hm : [2, 2] <+: m.axes) (hx : [2] <+: x.axes) :
    Yields [2] (matrixVector m x) := by
  refine (yields_component hx Nat.zero_lt_two).bind fun x₀ _ _ => ?_
  refine (yields_component hx Nat.one_lt_two).bind fun x₁ _ _ => ?_
  refine (yields_entry hm 0 0).bind fun a _ _ => ?_
  refine (yields_entry hm 0 1).bind fun b _ _ => ?_
  refine (yields_sumOfProducts a x₀ b x₁).bind fun p _ _ => ?_
  refine (yields_entry hm 1 0).bind fun c _ _ => ?_
  refine (yields_entry hm 1 1).bind fun d _ _ => ?_
  refine (yields_sumOfProducts c x₀ d x₁).bind fun q _ _ => ?_
  exact yields_stack [p, q]

theorem yields_vectorMatrix {x m : Tensor α} (hx : [2] <+: x.axes) (hm : [2, 2] <+: m.axes) :
    Yields [2] (vectorMatrix x m) := by
  refine (yields_component hx Nat.zero_lt_two).bind fun x₀ _ _ => ?_
  refine (yields_component hx Nat.one_lt_two).bind fun x₁ _ _ => ?_
  refine (yields_entry hm 0 0).bind fun a _ _ => ?_
  refine (yields_entry hm 1 0).bind fun c _ _ => ?_
  refine (yields_sumOfProducts a x₀ c x₁).bind fun p _ _ => ?_
  refine (yields_entry hm 0 1).bind fun b _ _ => ?_
  refine (yields_entry hm 1 1).bind fun d _ _ => ?_
  refine (yields_sumOfProducts b x₀ d x₁).bind fun q _ _ => ?_
  exact yields_stack [p, q]

theorem yields_matrixMatrix {m n : Tensor α} (hm : [2, 2] <+: m.axes) (hn : [2, 2] <+: n.axes) :
    Yields [2, 2] (matrixMatrix m n) := by
  have hcell : ∀ i j : Fin 2, Yields [] (do
      sumOfProducts (← m.entry i 0) (← n.entry 0 j) (← m.entry i 1) (← n.entry 1 j)) := by
    intro i j
    refine (yields_entry hm i 0).bind fun a _ _ => ?_
    refine (yields_entry hn 0 j).bind fun b _ _ => ?_
    refine (yields_entry hm i 1).bind fun c _ _ => ?_
    refine (yields_entry hn 1 j).bind fun d _ _ => ?_
    exact yields_sumOfProducts a b c d
  refine (hcell 0 0).bind fun a _ _ => ?_
  refine (hcell 0 1).bind fun b _ _ => ?_
  refine (hcell 1 0).bind fun c _ _ => ?_
  refine (hcell 1 1).bind fun d _ _ => ?_
  exact yields_stackMatrix a b c d

theorem settles_combine (op : Operator) (hv : v.FitsKind) (hw : w.FitsKind) :
    Settles FitsKind EvalError.InRange (combine op v w) := by
  have hboth : ∀ u ∈ [v, w], u.FitsKind := by simp [hv, hw]
  cases hkind : commonKind ([v, w].map (·.kind)) with
  | error e =>
    rw [combine, unify_eq, hkind]
    exact .error (inRange_of_commonKind hkind)
  | ok k =>
    cases hmeaning : (op.meaning? : Option (α → α → α)) with
    | none =>
      rw [combine, unify_eq, hkind]
      simp only [hmeaning]
      refine .error ?_
      rintro _ ⟨⟩
    | some f =>
      rw [combine_eq_shaped hmeaning hkind]
      exact settles_of_yields EvalError.inRange_mismatch (mem_of_commonKind hboth hkind)
        ((Componentwise.two f).yields_shaped hboth rfl hkind)

theorem settles_binary (op : Operator) (hv : v.FitsKind) (hw : w.FitsKind) :
    Settles FitsKind EvalError.InRange (binary op v w) := by
  have hcombine := settles_combine op hv hw
  obtain ⟨k, v⟩ := v
  obtain ⟨l, w⟩ := w
  have hmatrix {result : Shaped (Tensor α)} : Yields [2, 2] result → Settles FitsKind
      EvalError.InRange (ofShaped result >>= fun data => .ok ⟨.mat2, data⟩) :=
    settles_of_yields EvalError.inRange_mismatch (k := .mat2) (by simp [Kind.all])
  have hvector {result : Shaped (Tensor α)} : Yields [2] result → Settles FitsKind
      EvalError.InRange (ofShaped result >>= fun data => .ok ⟨.vec 2, data⟩) :=
    settles_of_yields EvalError.inRange_mismatch (k := .vec 2) (by simp [Kind.all])
  -- a number is stretched to a matrix of ones
  have hexpand (t : Tensor α) : [1, 1] <+: t.expand.expand.axes := ⟨t.axes, rfl⟩
  rcases @binary_cases α _ op k l with ⟨rfl, rfl, rfl⟩ | ⟨rfl, rfl, rfl⟩ | ⟨rfl, rfl, rfl⟩ |
    ⟨rfl, rfl, rfl⟩ | ⟨rfl, rfl, rfl⟩ | ⟨-, hbinary⟩
  · exact hvector (yields_matrixVector hv.axes hw.axes)
  · exact hvector (yields_vectorMatrix hv.axes hw.axes)
  · exact hmatrix (yields_matrixMatrix hv.axes hw.axes)
  · exact hmatrix (yields_zipWith hv.axes (hexpand w) rfl rfl Scalar.mul)
  · exact hmatrix (yields_zipWith (hexpand v) hw.axes rfl rfl Scalar.mul)
  · rw [hbinary]
    exact hcombine

end Value

/-! ## Functions -/

namespace Builtin

variable {α : Type}

theorem settles_parts (n : Nat) {v : Value α} (h : v.FitsKind) :
    Settles (fun _ => True) CallFault.InRange (parts n v) := by
  obtain ⟨k, data⟩ := v
  cases k with
  | float => exact .ok trivial
  | mat2 =>
    refine .error ?_
    rintro _ ⟨⟩
  | vec size =>
    have hparts : ∀ m ∈ List.range size, Settles (fun t : Tensor α => [] <+: t.axes)
        CallFault.InRange (ofShape (data.component m)) := fun m hm =>
      (yields_component h.axes (List.mem_range.mp hm)).mapError CallFault.inRange_mismatch
    exact (Settles.mapM hparts).mono fun _ _ => trivial

theorem fitsKind_spread (n : Nat) {args : List (Value α)} (h : ∀ v ∈ args, v.FitsKind) :
    ∀ v ∈ spread n args, v.FitsKind := by
  unfold spread
  split
  · split_ifs
    · intro w hw
      rw [List.eq_of_mem_replicate hw]
      exact h _ List.mem_cons_self
    · exact h
  · exact h

theorem settles_vectorData (n : Nat) {args : List (Value α)} (h : ∀ v ∈ args, v.FitsKind) :
    Settles (fun t => [n] <+: t.axes) CallFault.InRange (vectorData n args) := by
  refine Settles.bind (Settles.mapM fun v hv => settles_parts n (fitsKind_spread n h v hv))
    fun tss _ _ => ?_
  by_cases hn : tss.flatten.length = n
  · subst hn
    simp only [↓reduceIte]
    exact (yields_stack tss.flatten).mapError CallFault.inRange_mismatch
  · simp only [hn, ↓reduceIte]
    refine .error ?_
    rintro _ ⟨⟩

theorem settles_vector {n : Nat} (hn : .vec n ∈ Kind.all) {args : List (Value α)}
    (h : ∀ v ∈ args, v.FitsKind) : Settles Value.FitsKind CallFault.InRange (vector n args) :=
  (settles_vectorData n h).bind fun _ _ ht => .ok ⟨hn, ht⟩

theorem settles_matrixOf (a b c d : Tensor α) : Settles Value.FitsKind CallFault.InRange
    (ofShape (stackMatrix a b c d) >>= fun data => .ok ⟨.mat2, data⟩) :=
  Value.settles_of_yields CallFault.inRange_mismatch (k := .mat2) (by simp [Kind.all])
    (yields_stackMatrix a b c d)

theorem settles_matrix {args : List (Value α)} (h : ∀ v ∈ args, v.FitsKind) :
    Settles Value.FitsKind CallFault.InRange (matrix args) := by
  refine (settles_vectorData 4 h).bind fun t _ ht => ?_
  have hcomponent : ∀ k : Fin 4, Settles (fun t : Tensor α => [] <+: t.axes) CallFault.InRange
      (ofShape (t.component k)) := fun k =>
    (yields_component ht k.isLt).mapError CallFault.inRange_mismatch
  refine (hcomponent 0).bind fun a _ _ => ?_
  refine (hcomponent 1).bind fun b _ _ => ?_
  refine (hcomponent 2).bind fun c _ _ => ?_
  refine (hcomponent 3).bind fun d _ _ => ?_
  exact settles_matrixOf a c b d

theorem settles_wrongCount (expected given : Nat) :
    Settles (Value.FitsKind (α := α)) CallFault.InRange (.error (wrongCount expected given)) := by
  refine .error ?_
  unfold wrongCount
  split_ifs <;> rintro _ ⟨⟩

variable [Scalar α]

theorem settles_length {args : List (Value α)} (h : ∀ v ∈ args, v.FitsKind) :
    Settles Value.FitsKind CallFault.InRange (length args) := by
  match args with
  | [] => exact settles_wrongCount 1 0
  | _ :: _ :: _ => exact settles_wrongCount 1 _
  | [⟨k, data⟩] =>
    have haxes := (h ⟨k, data⟩ List.mem_cons_self).axes
    cases k with
    | float => exact .ok (Value.fitsKind_float _)
    | vec n =>
      exact Value.settles_of_yields CallFault.inRange_mismatch (k := .float) (by simp [Kind.all])
        (yields_norm haxes)
    | mat2 =>
      exact Value.settles_of_yields CallFault.inRange_mismatch (k := .float) (by simp [Kind.all])
        (yields_norm haxes)

theorem settles_dot (args : List (Value α)) :
    Settles Value.FitsKind CallFault.InRange (dot args) := by
  match args with
  | [] => exact settles_wrongCount 2 0
  | [_] => exact settles_wrongCount 2 1
  | _ :: _ :: _ :: _ => exact settles_wrongCount 2 _
  | [a, b] =>
    rw [dot]
    split_ifs
    · refine .error ?_
      rintro _ ⟨⟩
    · exact Value.settles_of_yields CallFault.inRange_mismatch (k := .float) (by simp [Kind.all])
        (yields_nil_zipWith _ a.data b.data)
    · refine Value.settles_of_yields CallFault.inRange_mismatch (k := .float) (by simp [Kind.all])
        ?_
      exact (yields_nil_zipWith _ a.data b.data).bind fun _ _ _ => .ok List.nil_prefix

theorem settles_dot2 (args : List (Value α)) :
    Settles Value.FitsKind CallFault.InRange (dot2 args) := by
  match args with
  | [] => exact settles_wrongCount 1 0
  | _ :: _ :: _ => exact settles_wrongCount 1 _
  | [v] => exact settles_dot [v, v]

theorem settles_inverse {args : List (Value α)} (h : ∀ v ∈ args, v.FitsKind) :
    Settles Value.FitsKind CallFault.InRange (inverse args) := by
  match args with
  | [] => exact settles_wrongCount 1 0
  | _ :: _ :: _ => exact settles_wrongCount 1 _
  | [⟨.float, data⟩] =>
    refine .error ?_
    rintro _ ⟨⟩
  | [⟨.vec n, data⟩] =>
    refine .error ?_
    rintro _ ⟨⟩
  | [⟨.mat2, data⟩] =>
    have haxes : [2, 2] <+: data.axes := (h ⟨.mat2, data⟩ List.mem_cons_self).axes
    have hentry : ∀ row column : Fin 2, Settles (fun t : Tensor α => [] <+: t.axes)
        CallFault.InRange (ofShape (data.entry row column)) := fun row column =>
      (yields_entry haxes row column).mapError CallFault.inRange_mismatch
    refine (hentry 0 0).bind fun a _ _ => ?_
    refine (hentry 0 1).bind fun b _ _ => ?_
    refine (hentry 1 0).bind fun c _ _ => ?_
    refine (hentry 1 1).bind fun d _ _ => ?_
    refine ((yields_nil_zipWith4 Matrix2.mk a b c d).mapError
      CallFault.inRange_mismatch).bind fun m _ _ => ?_
    dsimp only
    split_ifs
    · refine .error ?_
      rintro _ ⟨⟩
    · exact settles_matrixOf _ _ _ _

/-- Builtin functions keep kinds and shapes together. -/
theorem settles_all {fn : String} {f : List (Value α) → Called (Value α)}
    (hf : (fn, f) ∈ (all : List (String × (List (Value α) → Called (Value α)))))
    {args : List (Value α)} (h : ∀ v ∈ args, v.FitsKind) :
    Settles Value.FitsKind CallFault.InRange (f args) := by
  simp only [all, List.mem_cons, List.not_mem_nil, or_false, Prod.mk.injEq] at hf
  rcases hf with ⟨-, rfl⟩ | ⟨-, rfl⟩ | ⟨-, rfl⟩ | ⟨-, rfl⟩ | ⟨-, rfl⟩ | ⟨-, rfl⟩ | ⟨-, rfl⟩ |
    ⟨-, rfl⟩
  · exact settles_length h
  · exact settles_dot args
  · exact settles_dot2 args
  · exact settles_vector (by simp [Kind.all]) h
  · exact settles_vector (by simp [Kind.all]) h
  · exact settles_vector (by simp [Kind.all]) h
  · exact settles_matrix h
  · exact settles_inverse h

end Builtin

section Evaluation

variable {α : Type} [Scalar α] {library : Library α} {env : Environment α}

theorem fitsKind_callFunction {fn : String} {args : List (Value α)} {u : Value α}
    (hargs : ∀ v ∈ args, v.FitsKind) (h : callFunction library fn args = .ok u) : u.FitsKind := by
  unfold callFunction at h
  split at h
  · next c _ => exact (c.settles_call fn hargs).good h
  · split at h
    · next f hfn =>
      cases hcall : f args with
      | error fault =>
        rw [hcall] at h
        cases h
      | ok v =>
        rw [hcall] at h
        cases h
        exact (Builtin.settles_all (mem_of_lookup_eq_some hfn) hargs).good hcall
    · split at h
      · split at h
        · cases h
          exact Value.fitsKind_float _
        · cases h
        · cases h
      · cases h

namespace Expr

/-- The value of an expression fits its kind, if the values it is computed from do. -/
theorem fitsKind_evalWith {here : Evaluated (Value α)} {literal : String → Evaluated (Value α)}
    (hhere : ∀ v, here = .ok v → v.FitsKind)
    (hliteral : ∀ text v, literal text = .ok v → v.FitsKind)
    (henv : ∀ ident v, env.find ident = .ok v → v.FitsKind) {e : Expr} {u : Value α}
    (h : e.evalWith library env here literal = .ok u) : u.FitsKind := by
  have hsettles : Settles Value.FitsKind (fun _ => True) (e.evalWith library env here literal) := by
    refine settles_evalWith fun n _ => ?_
    cases n with
    | coord label => exact .of_ok hhere
    | lit text => exact .of_ok (hliteral text)
    | name ident => exact .of_ok (henv ident)
    | number text =>
      refine .of_ok fun v hv => ?_
      rw [numberValue] at hv
      split at hv
      · cases hv
        exact Value.fitsKind_float _
      · cases hv
    | call fn args => exact fun vs _ hvs => .of_ok fun v hv => fitsKind_callFunction hvs hv
    | binary op lhs rhs =>
      exact fun v w hv hw => .of_ok fun u hu => (Value.settles_binary op hv hw).good hu
    | neg operand => exact fun v hv => ⟨hv.mem, hv.axes⟩
    | swizzle operand fields =>
      exact fun v hv => .of_ok fun u hu => (Value.settles_select hv fields).good hu
    | _ => trivial
  exact hsettles.good h

theorem fitsKind_evalText (henv : ∀ ident v, env.find ident = .ok v → v.FitsKind) {text : String}
    {u : Value α} (h : evalText library env text = .ok u) : u.FitsKind := by
  rw [evalText] at h
  split at h
  · exact fitsKind_evalWith (by simp) (by simp) henv h
  · cases h

theorem fitsKind_evalAt {here : Evaluated (Value α)} (hhere : ∀ v, here = .ok v → v.FitsKind)
    (henv : ∀ ident v, env.find ident = .ok v → v.FitsKind) {e : Expr} {u : Value α}
    (h : e.evalAt library env here = .ok u) : u.FitsKind :=
  fitsKind_evalWith hhere (fun _ _ => fitsKind_evalText henv) henv h

end Expr

/-- The operation of a node, on the values that its operands have, looks for no component or axis
that their arrays do not have. -/
def Expr.InRange (library : Library α) (env : Environment α) : Expr → Prop
  | .call fn args => ∀ vs f, args.mapM (eval library env) = .ok vs →
    Builtin.all.lookup fn = some f → ∀ fault, f vs = .error fault → fault.InRange
  | .binary op lhs rhs => ∀ v w, lhs.eval library env = .ok v → rhs.eval library env = .ok w →
    ∀ error, Value.binary op v w = .error error → error.InRange
  | .swizzle operand fields => ∀ v, operand.eval library env = .ok v →
    ∀ error, v.select fields = .error error → error.InRange
  | _ => True

/-- Kinds and shapes agree wherever an expression is evaluated, be it in the text of a literal, and
so no operation looks for a component that is not there. -/
def Expr.KeepsKinds (library : Library α) (env : Environment α) (e : Expr) : Prop :=
  ∀ n ∈ e.resolved.walk, (∀ v, n.eval library env = .ok v → v.FitsKind) ∧ n.InRange library env

/-- Nothing checks a given value: for a single number that passes as a vector, there is no first
component. -/
theorem not_keepsKinds_of_number_as_vector :
    ∃ env : Environment Float,
      Environment.ofBindings [("p", .value ⟨.vec 2, .scalar 1.5⟩)] = .ok env ∧
      (Expr.swizzle (.name "p") "x").eval Library.standard env =
        .error (.shape .noComponent) ∧
      ¬ (Expr.swizzle (.name "p") "x").KeepsKinds Library.standard env := by
  refine ⟨_, rfl, rfl, fun hkeeps => ?_⟩
  have hrange := (hkeeps _ (Expr.mem_walk_self _)).2 _ rfl _ rfl
  cases hrange _ rfl

end Evaluation

end SignedDistance
