import SignedDistance.Tensor.Basic

/-!
# Fitting shapes together

Two arrays are combined entry by entry after both are stretched to common axes: lined up at the
innermost axis, an axis of length one or a missing axis takes the length of the other.
-/

namespace SignedDistance

/-- Whether an array with the first axes can be stretched to the second ones. -/
def Fits : Axes → Axes → Prop
  | [], _ => True
  | _ :: _, [] => False
  | n :: ns, m :: ms => (n = m ∨ n = 1) ∧ Fits ns ms

instance decidableFits : (small large : Axes) → Decidable (Fits small large)
  | [], _ => isTrue trivial
  | _ :: _, [] => isFalse id
  | n :: ns, m :: ms =>
    have := decidableFits ns ms
    inferInstanceAs (Decidable ((n = m ∨ n = 1) ∧ Fits ns ms))

/-- The common axes of two shapes. -/
def broadcastAxes : Axes → Axes → Option Axes
  | [], ms => some ms
  | n :: ns, [] => some (n :: ns)
  | n :: ns, m :: ms =>
    if n = m ∨ m = 1 then (broadcastAxes ns ms).map (n :: ·)
    else if n = 1 then (broadcastAxes ns ms).map (m :: ·)
    else none

/-- Every shape fits itself. -/
theorem fits_refl (axes : Axes) : Fits axes axes := by
  induction axes with
  | nil => trivial
  | cons n ns ih => exact ⟨.inl rfl, ih⟩

/-- Both shapes fit their common axes. -/
theorem fits_of_broadcastAxes {ns ms axes : Axes} (h : broadcastAxes ns ms = some axes) :
    Fits ns axes ∧ Fits ms axes := by
  fun_induction broadcastAxes ns ms generalizing axes with
  | case1 ms => cases h; exact ⟨trivial, fits_refl _⟩
  | case2 n ns => cases h; exact ⟨fits_refl _, trivial⟩
  | case3 n ns m ms hnm ih =>
    obtain ⟨rest, hrest, rfl⟩ := Option.map_eq_some_iff.1 h
    have := ih hrest
    exact ⟨⟨.inl rfl, this.1⟩, ⟨hnm.imp_left Eq.symm, this.2⟩⟩
  | case4 ns m ms hm ih =>
    obtain ⟨rest, hrest, rfl⟩ := Option.map_eq_some_iff.1 h
    have := ih hrest
    exact ⟨⟨.inr rfl, this.1⟩, ⟨.inl rfl, this.2⟩⟩
  | case5 => cases h

namespace Index

/-- The index that an index of the stretched array comes from. -/
def clip : {small large : Axes} → Fits small large → Index large → Index small
  | [], _, _, _ => ()
  | n :: _, m :: _, h, (i, is) =>
    (if hnm : n = m then i.cast hnm.symm else ⟨0, by have := h.1; omega⟩, clip h.2 is)

end Index

namespace Tensor

variable {α β γ : Type}

/-- The array stretched to the given axes. -/
def broadcastTo (t : Tensor α) (axes : Axes) : Except ShapeError (Tensor α) :=
  if h : Fits t.axes axes then .ok (ofFn axes fun i => t.get (i.clip h))
  else .error .mismatch

/-- Two arrays combined entry by entry. -/
def zipWith (f : α → β → γ) (s : Tensor α) (t : Tensor β) : Except ShapeError (Tensor γ) :=
  match h : broadcastAxes s.axes t.axes with
  | none => .error .mismatch
  | some axes =>
    have fits := fits_of_broadcastAxes h
    .ok (ofFn axes fun i => f (s.get (i.clip fits.1)) (t.get (i.clip fits.2)))

/-- The common axes of several arrays. -/
def commonAxes : List (Tensor α) → Option Axes
  | [] => some []
  | t :: ts => (commonAxes ts).bind (broadcastAxes t.axes)

/-- Arrays put side by side along a new innermost axis. -/
def stack (parts : List (Tensor α)) : Except ShapeError (Tensor α) :=
  match commonAxes parts with
  | none => .error .mismatch
  | some axes =>
    if h : ∀ c : Fin parts.length, Fits (parts.get c).axes axes then
      .ok (ofFn (parts.length :: axes) fun (c, i) => (parts.get c).get (i.clip (h c)))
    else .error .mismatch

/-- Four arrays as the entries `a b` of the first and `c d` of the second row of a matrix, whose
columns are along the innermost axis and whose rows are along the next. -/
def stackMatrix (a b c d : Tensor α) : Except ShapeError (Tensor α) :=
  match commonAxes [a, b, c, d] with
  | none => .error .mismatch
  | some axes =>
    if h : Fits a.axes axes ∧ Fits b.axes axes ∧ Fits c.axes axes ∧ Fits d.axes axes then
      .ok (ofFn (2 :: 2 :: axes) fun (column, row, i) =>
        match row, column with
        | 0, 0 => a.get (i.clip h.1)
        | 0, 1 => b.get (i.clip h.2.1)
        | 1, 0 => c.get (i.clip h.2.2.1)
        | 1, 1 => d.get (i.clip h.2.2.2))
    else .error .mismatch

/-- One entry of a matrix. -/
def entry (t : Tensor α) (row column : Nat) : Except ShapeError (Tensor α) := do
  (← t.component column).component row

end Tensor

end SignedDistance
