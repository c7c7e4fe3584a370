import Mathlib
import SignedDistance.Proofs.ExactScalars
import SignedDistance.Proofs.KindShapes

/-!
# Values at a single point

At a single point a value is a number, a pair or a square matrix, held in an array with the axes of
its kind and no others. What operators and functions make of such values is stated entry by entry,
first for all numbers and then for those that are computed with exactly. Conversely a value whose
array has no axes at all can only be a number (`Value.FitsKind.eq_number`).
-/

namespace SignedDistance

open Tensor

variable {α : Type}

/-- A single point. -/
def point (x y : α) : Tensor α :=
  .ofFn [2] fun k => if k.1.val = 0 then x else y

namespace Value

/-- A single number. -/
def number (a : α) : Value α :=
  .float (.scalar a)

/-- A single vector with two components. -/
def pair (x y : α) : Value α :=
  ⟨.vec 2, point x y⟩

/-- A single matrix with rows `a b` and `c d`. -/
def square (a b c d : α) : Value α :=
  ⟨.mat2, .ofFn [2, 2] fun k => matrixEntry k.2.1 k.1 a b c d⟩

end Value

/-! ## Arrays -/

namespace Tensor

variable {β γ : Type}

theorem ofFn_pair (f : Index [2] → α) : ofFn [2] f = point (f (0, ())) (f (1, ())) := by
  refine congrArg (ofFn [2]) (funext fun i => ?_)
  obtain ⟨k, u⟩ := i
  fin_cases k <;> rfl

theorem scalar_inj {a b : α} (h : scalar a = scalar b) : a = b := by
  have hget := get_of_eq_scalar h (show Index (scalar a).axes from ())
  exact (get_ofFn [] (fun _ => a) ()).symm.trans hget

theorem zipWith_scalar (f : α → β → γ) (a : α) (b : β) :
    (scalar a).zipWith f (scalar b) = .ok (scalar (f a b)) :=
  zipWith_ofFn rfl f _ _

theorem zipWith_point (f : α → β → γ) (x y : α) (x' y' : β) :
    (point x y).zipWith f (point x' y') = .ok (point (f x x') (f y y')) := by
  refine (zipWith_ofFn rfl f _ _).trans ?_
  rw [ofFn_pair]
  rfl

theorem zipWith_point_scalar (f : α → β → γ) (x y : α) (a : β) :
    (point x y).zipWith f (scalar a).expand = .ok (point (f x a) (f y a)) := by
  have hexpand : (scalar a).expand = ofFn [1] fun _ => a := expand_ofFn _
  rw [hexpand]
  refine (zipWith_ofFn rfl f _ _).trans ?_
  rw [ofFn_pair]
  rfl

theorem component_point_zero (x y : α) : (point x y).component 0 = .ok (scalar x) :=
  component_ofFn _ (by decide)

theorem component_point_one (x y : α) : (point x y).component 1 = .ok (scalar y) :=
  component_ofFn _ (by decide)

theorem commonAxes_scalars (as : List α) : commonAxes (as.map scalar) = some [] := by
  induction as with
  | nil => rfl
  | cons a as ih =>
    rw [List.map_cons, commonAxes, ih]
    rfl

theorem stack_scalars (as : List α) :
    stack (as.map scalar) = .ok (ofFn [as.length] fun k => as.get k.1) := by
  have hfits : ∀ c, Fits ((as.map scalar).get c).axes [] := by
    intro c
    obtain ⟨a, -, ha⟩ := List.mem_map.mp (List.get_mem (as.map scalar) c)
    rw [← ha]
    trivial
  have hstack : stack (as.map scalar) = .ok (ofFn [(as.map scalar).length] fun k =>
      ((as.map scalar).get k.1).get (k.2.clip (hfits k.1))) := by
    unfold stack
    simp only [commonAxes_scalars]
    exact dif_pos hfits
  rw [hstack]
  refine congrArg Except.ok (ofFn_cons_congr (List.length_map scalar) fun c i => ?_)
  exact get_of_eq_scalar (by simp) _

theorem stack_two (a b : α) : stack [scalar a, scalar b] = .ok (point a b) :=
  (stack_scalars [a, b]).trans (congrArg Except.ok (ofFn_pair _))

theorem stackMatrix_scalars (a b c d : α) :
    stackMatrix (scalar a) (scalar b) (scalar c) (scalar d) =
      .ok (Value.square a b c d).data := by
  have hfits : ∀ e : α, Fits (scalar e).axes [] := fun _ => trivial
  refine (stackMatrix_eq_ok rfl ⟨hfits a, hfits b, hfits c, hfits d⟩).trans ?_
  have hget : ∀ e : α, (scalar e).get () = e := fun e => get_ofFn [] _ ()
  show Except.ok (ofFn [2, 2] fun k => matrixEntry k.2.1 k.1 ((scalar a).get ())
    ((scalar b).get ()) ((scalar c).get ()) ((scalar d).get ())) = _
  simp only [hget]
  rfl

theorem entry_square (a b c d : α) {row column : Nat} (hrow : row < 2) (hcolumn : column < 2) :
    (Value.square a b c d).data.entry row column =
      .ok (scalar (matrixEntry ⟨row, hrow⟩ ⟨column, hcolumn⟩ a b c d)) := by
  have hcomponent := component_ofFn
    (fun k : Index [2, 2] => matrixEntry k.2.1 k.1 a b c d) hcolumn
  rw [entry, Value.square, hcomponent, ok_bind]
  exact component_ofFn _ hrow

end Tensor

/-! ## Operators and functions -/

section Operations

variable [Scalar α]

theorem Value.binary_number {op : Operator} {f : α → α → α} (hop : op.meaning? = some f)
    (a b : α) : binary op (number a) (number b) = .ok (number (f a b)) := by
  have hcombine : binary op (number a) (number b) = combine op (number a) (number b) := by
    cases op <;> rfl
  have hunify : unify [number a, number b] = .ok (.float, [scalar a, scalar b]) := rfl
  rw [hcombine, combine, hunify]
  simp only [ok_bind, hop, zipWith_scalar]
  rfl

theorem Value.binary_pair {op : Operator} {f : α → α → α} (hop : op.meaning? = some f)
    (x y x' y' : α) : binary op (pair x y) (pair x' y') = .ok (pair (f x x') (f y y')) := by
  have hcombine : binary op (pair x y) (pair x' y') = combine op (pair x y) (pair x' y') := by
    cases op <;> rfl
  have hunify : unify [pair x y, pair x' y'] = .ok (.vec 2, [point x y, point x' y']) := rfl
  rw [hcombine, combine, hunify]
  simp only [ok_bind, hop, zipWith_point]
  rfl

theorem Value.binary_pair_number {op : Operator} {f : α → α → α} (hop : op.meaning? = some f)
    (x y a : α) : binary op (pair x y) (number a) = .ok (pair (f x a) (f y a)) := by
  have hcombine : binary op (pair x y) (number a) = combine op (pair x y) (number a) := by
    cases op <;> rfl
  have hunify : unify [pair x y, number a] = .ok (.vec 2, [point x y, (scalar a).expand]) := rfl
  rw [hcombine, combine, hunify]
  simp only [ok_bind, hop, zipWith_point_scalar]
  rfl

theorem Value.sumOfProducts_scalar (a b c d : α) :
    sumOfProducts (scalar a) (scalar b) (scalar c) (scalar d) =
      .ok (scalar (Scalar.sum [Scalar.mul a b, Scalar.mul c d])) := by
  simp only [sumOfProducts, zipWith4, zipWith3, zipWith_scalar, ok_bind]

theorem Value.binary_square_pair (a b c d x y : α) :
    binary .mul (square a b c d) (pair x y) =
      .ok (pair (Scalar.sum [Scalar.mul a x, Scalar.mul b y])
        (Scalar.sum [Scalar.mul c x, Scalar.mul d y])) := by
  have hproduct : matrixVector (square a b c d).data (point x y) =
      .ok (point (Scalar.sum [Scalar.mul a x, Scalar.mul b y])
        (Scalar.sum [Scalar.mul c x, Scalar.mul d y])) := by
    rw [matrixVector, component_point_zero, component_point_one,
      entry_square a b c d (by decide) (by decide), entry_square a b c d (by decide) (by decide),
      entry_square a b c d (by decide) (by decide), entry_square a b c d (by decide) (by decide)]
    simp only [ok_bind, sumOfProducts_scalar]
    exact stack_two _ _
  show (ofShaped (matrixVector (square a b c d).data (point x y)) >>= _) = _
  rw [hproduct]
  rfl

@[simp] theorem Value.negate_number (a : α) : (number a).negate = number (Scalar.neg a) :=
  congrArg (Value.mk .float) (map_ofFn Scalar.neg _)

theorem callFunction_one {library : Library α} {fn : String} {f : α → α}
    (hfn : Componentwise.all.lookup fn = some (.one f)) (a : α) :
    callFunction library fn [.number a] = .ok (.number (f a)) := by
  have hmap : (scalar a).map f = scalar (f a) := map_ofFn f _
  have hcall : (Componentwise.one f).call fn [.number a] =
      .ok ⟨.float, (scalar a).map f⟩ := rfl
  rw [callFunction, hfn]
  exact hcall.trans (by rw [hmap]; rfl)

theorem callFunction_two {library : Library α} {fn : String} {f : α → α → α}
    (hfn : Componentwise.all.lookup fn = some (.two f)) (a b : α) :
    callFunction library fn [.number a, .number b] = .ok (.number (f a b)) := by
  have hcall : (Componentwise.two f).call fn [.number a, .number b] =
      (ofShaped ((scalar a).zipWith f (scalar b)) >>= fun data => .ok ⟨.float, data⟩) := rfl
  rw [callFunction, hfn]
  refine hcall.trans ?_
  rw [zipWith_scalar]
  rfl

theorem callFunction_builtin {library : Library α} {fn : String}
    {builtin : List (Value α) → Builtin.Called (Value α)}
    (hcomponents : Componentwise.all.lookup fn = (none : Option (Componentwise α)))
    (hfn : Builtin.all.lookup fn = some builtin) (args : List (Value α)) :
    callFunction library fn args = (builtin args).mapError (.failedCall fn) := by
  simp only [callFunction, hcomponents, hfn]

theorem callFunction_library {library : Library α} {fn : String} {primitive : CallMeaning α}
    (hcomponents : Componentwise.all.lookup fn = (none : Option (Componentwise α)))
    (hbuiltin : Builtin.all.lookup fn =
      (none : Option (List (Value α) → Builtin.Called (Value α))))
    (hfn : library fn = some primitive) {args : List (Value α)} {data : Tensor α}
    (hcall : primitive (args.map (·.data)) = .ok data) :
    callFunction library fn args = .ok (.float data) := by
  simp only [callFunction, hcomponents, hbuiltin, hfn, hcall]

omit [Scalar α] in
theorem Builtin.vectorData_numbers {n : Nat} {as : List α} (hn : as.length = n) (hone : n ≠ 1) :
    vectorData n (as.map .number) = .ok (ofFn [as.length] fun k => as.get k.1) := by
  have hspread : spread n (as.map .number) = as.map Value.number := by
    match as, hn, hone with
    | [], _, _ => rfl
    | [a], hn, hone => exact absurd hn.symm hone
    | _ :: _ :: _, _, _ => rfl
  have hparts : (as.map Value.number).mapM (parts n) = .ok (as.map fun a => [scalar a]) := by
    clear hspread hn
    induction as with
    | nil => rfl
    | cons a as ih =>
      rw [List.map_cons, List.mapM_cons, ih]
      rfl
  have hflatten : (as.map fun a => [scalar a]).flatten = as.map scalar := by
    rw [← List.flatMap_def]
    exact List.flatMap_pure_eq_map scalar as
  rw [vectorData, hspread, hparts, ok_bind, hflatten, if_pos (by simpa using hn), stack_scalars]
  rfl

theorem callFunction_vec2 {library : Library α} (a b : α) :
    callFunction library "vec2" [.number a, .number b] = .ok (.pair a b) := by
  have hdata : Builtin.vectorData 2 [.number a, .number b] = .ok (point a b) :=
    (@Builtin.vectorData_numbers α 2 [a, b] rfl (by decide)).trans
      (congrArg Except.ok (ofFn_pair _))
  rw [callFunction_builtin rfl rfl, Builtin.vector, hdata]
  rfl

theorem callFunction_mat2 {library : Library α} (a b c d : α) :
    callFunction library "mat2" [.number a, .number b, .number c, .number d] =
      .ok (.square a c b d) := by
  have hdata : Builtin.vectorData 4 [.number a, .number b, .number c, .number d] =
      .ok (ofFn [4] fun k => [a, b, c, d].get k.1) :=
    @Builtin.vectorData_numbers α 4 [a, b, c, d] rfl (by decide)
  have hentry : ∀ k (hk : k < 4), (ofFn [4] fun k => [a, b, c, d].get k.1).component k =
      .ok (scalar ([a, b, c, d].get ⟨k, hk⟩)) := fun k hk => component_ofFn _ hk
  have hmatrix : Builtin.matrix [.number a, .number b, .number c, .number d] =
      Builtin.ofShape (stackMatrix (scalar a) (scalar c) (scalar b) (scalar d)) >>=
        fun data => .ok ⟨.mat2, data⟩ := by
    unfold Builtin.matrix
    rw [hdata, ok_bind, hentry 0 (by decide), hentry 1 (by decide), hentry 2 (by decide),
      hentry 3 (by decide)]
    rfl
  rw [callFunction_builtin rfl rfl, hmatrix, stackMatrix_scalars]
  rfl

end Operations

theorem Value.FitsKind.eq_number {v : Value α} (h : v.FitsKind) {a : α} (hv : v.data = .scalar a) :
    v = .number a := by
  obtain ⟨k, data⟩ := v
  cases hv
  have haxes : k.axes <+: [] := h.axes
  cases k with
  | float => rfl
  | vec n => cases List.prefix_nil.mp haxes
  | mat2 => cases List.prefix_nil.mp haxes

/-! ## Exact numbers -/

section Exact

variable {K : Type} [Field K] [Scalar K] [ExactField K]

open ExactField

theorem ExactField.sum_pair (a b : K) : Scalar.sum [a, b] = a + b := by
  have hsum : Scalar.sum [a, b] =
      Scalar.add (Scalar.add (Scalar.ofNumeral (.decimal false 0 (-1))) a) b := rfl
  rw [hsum, add_eq, add_eq, ofNumeral_decimal, Nat.cast_zero, mul_zero, zero_mul, zero_add]

namespace Value

@[simp] theorem number_add_number (a b : K) :
    binary .add (number a) (number b) = .ok (number (a + b)) :=
  (@binary_number K _ .add _ rfl a b).trans (by rw [add_eq])

@[simp] theorem number_sub_number (a b : K) :
    binary .sub (number a) (number b) = .ok (number (a - b)) :=
  (@binary_number K _ .sub _ rfl a b).trans (by rw [sub_eq])

@[simp] theorem number_mul_number (a b : K) :
    binary .mul (number a) (number b) = .ok (number (a * b)) :=
  (@binary_number K _ .mul _ rfl a b).trans (by rw [mul_eq])

@[simp] theorem number_div_number (a b : K) :
    binary .div (number a) (number b) = .ok (number (a / b)) :=
  (@binary_number K _ .div _ rfl a b).trans (by rw [div_eq])

@[simp] theorem pair_sub_pair (x y x' y' : K) :
    binary .sub (pair x y) (pair x' y') = .ok (pair (x - x') (y - y')) :=
  (@binary_pair K _ .sub _ rfl x y x' y').trans (by rw [sub_eq, sub_eq])

@[simp] theorem pair_sub_number (x y a : K) :
    binary .sub (pair x y) (number a) = .ok (pair (x - a) (y - a)) :=
  (@binary_pair_number K _ .sub _ rfl x y a).trans (by rw [sub_eq, sub_eq])

@[simp] theorem pair_div_number (x y a : K) :
    binary .div (pair x y) (number a) = .ok (pair (x / a) (y / a)) :=
  (@binary_pair_number K _ .div _ rfl x y a).trans (by rw [div_eq, div_eq])

@[simp] theorem square_mul_pair (a b c d x y : K) :
    binary .mul (square a b c d) (pair x y) = .ok (pair (a * x + b * y) (c * x + d * y)) := by
  rw [binary_square_pair, sum_pair, sum_pair, mul_eq, mul_eq, mul_eq, mul_eq]

end Value

theorem numberValue_of_parse {text : String} {digits : Nat} {exponent : Int}
    (h : Numeral.parse? text = some (.decimal false digits exponent)) :
    numberValue text = .ok (.number ((digits : K) * 10 ^ exponent)) := by
  have hvalue : Scalar.ofNumeral (.decimal false digits exponent) =
      (digits : K) * 10 ^ exponent := by
    rw [ofNumeral_decimal]
    simp
  simp only [numberValue, h, hvalue]
  rfl

section Ordered

variable [LinearOrder K] [IsStrictOrderedRing K] [ExactScalar K] {library : Library K}

omit [ExactField K]

@[simp] theorem callFunction_abs (a : K) :
    callFunction library "abs" [.number a] = .ok (.number |a|) :=
  (callFunction_one rfl a).trans (by rw [ExactScalar.abs_eq])

@[simp] theorem callFunction_min (a b : K) :
    callFunction library "min" [.number a, .number b] = .ok (.number (min a b)) :=
  (callFunction_two rfl a b).trans (by rw [ExactScalar.minimum_eq])

@[simp] theorem callFunction_max (a b : K) :
    callFunction library "max" [.number a, .number b] = .ok (.number (max a b)) :=
  (callFunction_two rfl a b).trans (by rw [ExactScalar.maximum_eq])

end Ordered

end Exact

end SignedDistance
