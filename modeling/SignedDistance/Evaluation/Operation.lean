import SignedDistance.Evaluation.Value

/-!
# Operations on values

Numbers and vectors are combined component by component, a number standing for a vector with equal
components. Products with a matrix are the usual ones. Functions that work on each component have a
fixed number of arguments; the other functions check their arguments themselves.
-/

namespace SignedDistance

variable {α : Type} [Scalar α]

/-! ## Component by component -/

/-- A number put into an increasing list, unless it is there already. -/
def insertSize (n : Nat) : List Nat → List Nat
  | [] => [n]
  | m :: ms => if n < m then n :: m :: ms else if n = m then m :: ms else m :: insertSize n ms

/-- The different sizes of the vectors among some values, in increasing order. -/
def vectorSizes : List (Value α) → List Nat
  | [] => []
  | v :: vs =>
    match v.kind with
    | .vec n => insertSize n (vectorSizes vs)
    | _ => vectorSizes vs

/-- The common kind of values that are combined component by component, and their arrays with
numbers stretched to vectors. -/
def unify (values : List (Value α)) : Evaluated (Kind × List (Tensor α)) :=
  if values.any fun v => v.kind = .mat2 then .error .matrixComponent
  else
    match vectorSizes values with
    | [] => .ok (.float, values.map (·.data))
    | [n] => .ok (.vec n, values.map fun v => if v.kind = .float then v.data.expand else v.data)
    | sizes => .error (.mismatchedSizes sizes)

/-- A function that works on each component. -/
inductive Componentwise (α : Type) where
  /-- Of one argument. -/
  | one (f : α → α)
  /-- Of two arguments. -/
  | two (f : α → α → α)
  /-- Of three arguments. -/
  | three (f : α → α → α → α)

namespace Componentwise

/-- The number of arguments. -/
def arity : Componentwise α → Nat
  | one _ => 1
  | two _ => 2
  | three _ => 3

/-- The functions that work on each component, with their names. -/
def all : List (String × Componentwise α) :=
  [("abs", one Scalar.abs), ("sign", one Scalar.sign), ("sin", one Scalar.sin),
    ("cos", one Scalar.cos), ("sqrt", one Scalar.sqrt), ("floor", one Scalar.floor),
    ("round", one Scalar.round), ("acos", one Scalar.acos), ("min", two Scalar.minimum),
    ("max", two Scalar.maximum), ("pow", two Scalar.power), ("clamp", three Scalar.clamp),
    ("mix", three Scalar.mix), ("smoothstep", three Scalar.smoothstep)]

/-- The function applied to arrays; `fn` is its name. -/
def applyTo (fn : String) (c : Componentwise α) (args : List (Tensor α)) : Evaluated (Tensor α) :=
  match c, args with
  | one f, [x] => .ok (x.map f)
  | two f, [x, y] => ofShaped (Tensor.zipWith f x y)
  | three f, [x, y, z] => ofShaped (Tensor.zipWith3 f x y z)
  | c, args => .error (.wrongArity fn c.arity args.length)

/-- The function applied to values; `fn` is its name. -/
def call (fn : String) (c : Componentwise α) (args : List (Value α)) : Evaluated (Value α) :=
  if args.length = c.arity then do
    let (kind, data) ← unify args
    return ⟨kind, ← c.applyTo fn data⟩
  else .error (.wrongArity fn c.arity args.length)

end Componentwise

/-! ## Operators -/

/-- The meaning of an operator on numbers. -/
def Operator.meaning? : Operator → Option (α → α → α)
  | .add => some Scalar.add
  | .sub => some Scalar.sub
  | .mul => some Scalar.mul
  | .div => some Scalar.div
  | .other _ => none

namespace Value

/-- Two products added. -/
def sumOfProducts (a b c d : Tensor α) : Shaped (Tensor α) :=
  Tensor.zipWith4 (fun a b c d => Scalar.sum [Scalar.mul a b, Scalar.mul c d]) a b c d

/-- A matrix times a vector. -/
def matrixVector (m v : Tensor α) : Shaped (Tensor α) := do
  let x ← v.component 0
  let y ← v.component 1
  Tensor.stack [← sumOfProducts (← m.entry 0 0) x (← m.entry 0 1) y,
    ← sumOfProducts (← m.entry 1 0) x (← m.entry 1 1) y]

/-- A vector times a matrix. -/
def vectorMatrix (v m : Tensor α) : Shaped (Tensor α) := do
  let x ← v.component 0
  let y ← v.component 1
  Tensor.stack [← sumOfProducts (← m.entry 0 0) x (← m.entry 1 0) y,
    ← sumOfProducts (← m.entry 0 1) x (← m.entry 1 1) y]

/-- A matrix times a matrix. -/
def matrixMatrix (m n : Tensor α) : Shaped (Tensor α) := do
  let cell (i j : Nat) : Shaped (Tensor α) := do
    sumOfProducts (← m.entry i 0) (← n.entry 0 j) (← m.entry i 1) (← n.entry 1 j)
  Tensor.stackMatrix (← cell 0 0) (← cell 0 1) (← cell 1 0) (← cell 1 1)

/-- Two values combined component by component with an operator. -/
def combine (op : Operator) (a b : Value α) : Evaluated (Value α) := do
  match ← unify [a, b] with
  | (kind, [x, y]) =>
    match (op.meaning? : Option (α → α → α)) with
    | some f => return ⟨kind, ← ofShaped (Tensor.zipWith f x y)⟩
    | none => throw (.noSuchOperator op.symbol)
  | _ => throw .matrixComponent

/-- Two values combined with an operator. -/
def binary (op : Operator) (a b : Value α) : Evaluated (Value α) :=
  match op, a.kind, b.kind with
  | .mul, .mat2, .vec 2 => return ⟨.vec 2, ← ofShaped (matrixVector a.data b.data)⟩
  | .mul, .vec 2, .mat2 => return ⟨.vec 2, ← ofShaped (vectorMatrix a.data b.data)⟩
  | .mul, .mat2, .mat2 => return ⟨.mat2, ← ofShaped (matrixMatrix a.data b.data)⟩
  | .mul, .mat2, .float =>
    return ⟨.mat2, ← ofShaped (Tensor.zipWith Scalar.mul a.data b.data.expand.expand)⟩
  | .mul, .float, .mat2 =>
    return ⟨.mat2, ← ofShaped (Tensor.zipWith Scalar.mul a.data.expand.expand b.data)⟩
  | op, _, _ => combine op a b

/-- Minus. -/
def negate (v : Value α) : Value α :=
  ⟨v.kind, v.data.map Scalar.neg⟩

end Value

/-! ## Selection of components -/

/-- The component that a letter names. -/
def swizzleIndex? (c : Char) : Option Nat :=
  [('x', 0), ('y', 1), ('z', 2), ('w', 3), ('r', 0), ('g', 1), ('b', 2), ('a', 3)].lookup c

/-- The components that letters name, `none` if one names none. -/
def swizzleIndices? (fields : List Char) : Option (List Nat) :=
  fields.mapM swizzleIndex?

/-- A selection of components. -/
def Value.select (v : Value α) (fields : String) : Evaluated (Value α) :=
  match swizzleIndices? fields.toList with
  | none => .error (.invalidSwizzle fields)
  | some indices =>
    if v.kind.size = 0 then .error (.badSwizzle v.kind fields)
    else
      match indices with
      | [] => .error .emptySwizzle
      | indices =>
        if indices.any (v.kind.size ≤ ·) || 4 < indices.length then
          .error (.badSwizzle v.kind fields)
        else
          match indices with
          | [k] => return ⟨.float, ← ofShaped (v.data.component k)⟩
          | ks => return ⟨.vec ks.length, ← ofShaped (v.data.components ks)⟩

end SignedDistance
