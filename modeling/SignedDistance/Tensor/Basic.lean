import SignedDistance.Tensor.Index

/-!
# Arrays

An array of any number of axes, held as one vector of entries. An array is known by its axes and by
the entry at each index (`Tensor.get`); every operation builds its result with `Tensor.ofFn`, so
that `Tensor.get_ofFn` says what its entries are.
-/

namespace SignedDistance

/-- An array. -/
structure Tensor (α : Type) where
  /-- The axis lengths, innermost first. -/
  axes : Axes
  /-- The entries in the order of their numbers. -/
  data : Vector α (volume axes)

/-- Why an operation on arrays has no result. -/
inductive ShapeError where
  /-- Two shapes do not fit together. -/
  | mismatch
  /-- A component is asked for that the array does not have. -/
  | noComponent
  /-- An array without axes has no innermost axis. -/
  | noAxis
deriving DecidableEq, Repr

namespace Tensor

variable {α β : Type}

/-- The entry at an index. -/
def get (t : Tensor α) (i : Index t.axes) : α :=
  t.data.get i.flat

/-- The array with the given entries. -/
def ofFn (axes : Axes) (f : Index axes → α) : Tensor α :=
  ⟨axes, Vector.ofFn fun k => f (Index.ofFlat axes k)⟩

/-- The entries of an array built from a function are the values of the function. -/
@[simp] theorem get_ofFn (axes : Axes) (f : Index axes → α) (i : Index axes) :
    (ofFn axes f).get i = f i := by
  have h : ∀ g : Fin (volume axes) → α, (Vector.ofFn g).get i.flat = g i.flat := by
    intro g
    simp only [Vector.get, Vector.ofFn, Array.getElem_ofFn]
    rfl
  exact (h _).trans (congrArg f i.ofFlat_flat)

/-- A single number as an array without axes. -/
def scalar (a : α) : Tensor α :=
  ofFn [] fun _ => a

/-- A function of each entry. -/
def map (f : α → β) (t : Tensor α) : Tensor β :=
  ofFn t.axes fun i => f (t.get i)

/-- One component along the innermost axis. -/
def component (t : Tensor α) (k : Nat) : Except ShapeError (Tensor α) :=
  match t with
  | ⟨[], _⟩ => .error .noComponent
  | ⟨n :: ns, data⟩ =>
    if h : k < n then .ok (ofFn ns fun i => get ⟨n :: ns, data⟩ (⟨k, h⟩, i))
    else .error .noComponent

/-- Several components along the innermost axis. -/
def components (t : Tensor α) (ks : List Nat) : Except ShapeError (Tensor α) :=
  match t with
  | ⟨[], _⟩ => .error .noComponent
  | ⟨n :: ns, data⟩ =>
    if h : ∀ k ∈ ks, k < n then
      .ok (ofFn (ks.length :: ns) fun (c, i) =>
        get ⟨n :: ns, data⟩ (⟨ks.get c, h _ (List.get_mem ks c)⟩, i))
    else .error .noComponent

/-- The components from `start` to before `stop` along the innermost axis, as far as there are
any. -/
def slice (t : Tensor α) (start stop : Nat) : Except ShapeError (Tensor α) :=
  match t with
  | ⟨[], _⟩ => .error .noComponent
  | ⟨n :: ns, data⟩ =>
    .ok (ofFn ((min stop n - start) :: ns) fun (c, i) =>
      get ⟨n :: ns, data⟩ (⟨start + c.val, by have := c.isLt; omega⟩, i))

/-- The array with one more innermost axis, of length one. -/
def expand (t : Tensor α) : Tensor α :=
  ofFn (1 :: t.axes) fun (_, i) => t.get i

/-- The list of components along the innermost axis, put together by `f`; an array without axes is
its own result. -/
def foldInner (f : List α → α) (t : Tensor α) : Tensor α :=
  match t with
  | ⟨[], data⟩ => ⟨[], data⟩
  | ⟨n :: ns, data⟩ => ofFn ns fun i => f (List.ofFn fun c : Fin n => get ⟨n :: ns, data⟩ (c, i))

/-- The entries as a list, the innermost coordinate running fastest. -/
def toList (t : Tensor α) : List α :=
  t.data.toList

end Tensor

end SignedDistance
