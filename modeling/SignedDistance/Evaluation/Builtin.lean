import SignedDistance.Evaluation.Operation

/-!
# Builtin functions

The functions that look at the kinds of their arguments: lengths and inner products, the
constructors of vectors and matrices, and the inverse of a matrix. A call that cannot be made says
why.
-/

namespace SignedDistance.Builtin

variable {α : Type} [Scalar α]

/-- Results of calls. -/
abbrev Called := Except CallFault

/-- The result of an operation on arrays as the result of a call. -/
def ofShape {β : Type} (result : Shaped β) : Called β :=
  result.mapError .shape

/-- The fault of a call that should have had another number of arguments. -/
def wrongCount (expected given : Nat) : CallFault :=
  if given < expected then .tooFew expected given else .tooMany expected

/-- The length of a vector, the absolute value of a number. -/
def length : List (Value α) → Called (Value α)
  | [v] => do
    if v.kind = .float then return .float (v.data.map Scalar.abs)
    else return .float (← ofShape v.data.norm)
  | args => .error (wrongCount 1 args.length)

/-- The inner product of two vectors, the product of two numbers. -/
def dot : List (Value α) → Called (Value α)
  | [a, b] => do
    if a.kind ≠ b.kind ∨ a.kind = .mat2 then throw (.kinds "dot" [a.kind, b.kind])
    else if a.kind = .float then
      return .float (← ofShape (Tensor.zipWith Scalar.mul a.data b.data))
    else return .float (← ofShape (a.data.dot b.data))
  | args => .error (wrongCount 2 args.length)

/-- The square of a length. -/
def dot2 : List (Value α) → Called (Value α)
  | [v] => dot [v, v]
  | args => .error (wrongCount 1 args.length)

/-- The numbers that an argument of a constructor of `n` components supplies. -/
def parts (n : Nat) (v : Value α) : Called (List (Tensor α)) :=
  match v.kind with
  | .float => .ok [v.data]
  | .vec size => (List.range size).mapM fun k => ofShape (v.data.component k)
  | .mat2 => .error (.badPart n .mat2)

/-- The arguments of a constructor of `n` components, where a single number supplies them all. -/
def spread (n : Nat) : List (Value α) → List (Value α)
  | [v] => if v.kind = .float then List.replicate n v else [v]
  | args => args

/-- The array of vectors with `n` components that the arguments of a constructor supply. -/
def vectorData (n : Nat) (args : List (Value α)) : Called (Tensor α) := do
  let components := (← (spread n args).mapM (parts n)).flatten
  if components.length = n then ofShape (Tensor.stack components)
  else throw (.componentCount n components.length)

/-- The constructor of vectors with `n` components. -/
def vector (n : Nat) (args : List (Value α)) : Called (Value α) := do
  return ⟨.vec n, ← vectorData n args⟩

/-- The constructor of matrices, which takes the entries column by column. -/
def matrix (args : List (Value α)) : Called (Value α) := do
  let entries ← vectorData 4 args
  let a ← ofShape (entries.component 0)
  let b ← ofShape (entries.component 1)
  let c ← ofShape (entries.component 2)
  let d ← ofShape (entries.component 3)
  return ⟨.mat2, ← ofShape (Tensor.stackMatrix a c b d)⟩

/-! ## Inverse -/

/-- A matrix with rows `a b` and `c d`. -/
structure Matrix2 (α : Type) where
  /-- The first entry of the first row. -/
  a : α
  /-- The second entry of the first row. -/
  b : α
  /-- The first entry of the second row. -/
  c : α
  /-- The second entry of the second row. -/
  d : α

/-- The elimination of the first column, for a first row with the greater first entry: the factor of
the first row, and what is left of the last entry. -/
def Matrix2.eliminate (m : Matrix2 α) : α × α :=
  let factor := Scalar.mul m.c (Scalar.div (Scalar.ofNat 1) m.a)
  (factor, Scalar.sub m.d (Scalar.mul factor m.b))

/-- The inverse of a matrix whose first row has the greater first entry, by elimination. -/
def Matrix2.inverseOrdered (m : Matrix2 α) : Matrix2 α :=
  let zero : α := Scalar.ofNat 0
  let one : α := Scalar.ofNat 1
  let (factor, last) := m.eliminate
  let c := Scalar.div (Scalar.sub zero factor) last
  let d := Scalar.div one last
  { a := Scalar.div (Scalar.sub one (Scalar.mul m.b c)) m.a
    b := Scalar.div (Scalar.sub zero (Scalar.mul m.b d)) m.a
    c, d }

/-- Whether the second row has the greater first entry. -/
def Matrix2.swapped (m : Matrix2 α) : Bool :=
  Scalar.less (Scalar.abs m.a) (Scalar.abs m.c)

/-- The matrix with its rows in the order for elimination. -/
def Matrix2.ordered (m : Matrix2 α) : Matrix2 α :=
  if m.swapped then ⟨m.c, m.d, m.a, m.b⟩ else m

/-- Whether elimination meets a zero. -/
def Matrix2.singular (m : Matrix2 α) : Bool :=
  let m := m.ordered
  let zero : α := Scalar.ofNat 0
  Scalar.equal m.a zero || Scalar.equal m.eliminate.2 zero

/-- The inverse of a matrix that is not singular. -/
def Matrix2.inverse (m : Matrix2 α) : Matrix2 α :=
  let n := m.ordered.inverseOrdered
  if m.swapped then ⟨n.b, n.a, n.d, n.c⟩ else n

/-- The inverse of matrices, none of which may be singular. -/
def inverse : List (Value α) → Called (Value α)
  | [m] =>
    if m.kind = .mat2 then do
      let a ← ofShape (m.data.entry 0 0)
      let b ← ofShape (m.data.entry 0 1)
      let c ← ofShape (m.data.entry 1 0)
      let d ← ofShape (m.data.entry 1 1)
      let matrices ← ofShape (Tensor.zipWith4 Matrix2.mk a b c d)
      if matrices.toList.any Matrix2.singular then throw .singular
      else
        let inverses := matrices.map Matrix2.inverse
        let data := Tensor.stackMatrix (inverses.map (·.a)) (inverses.map (·.b))
          (inverses.map (·.c)) (inverses.map (·.d))
        return ⟨.mat2, ← ofShape data⟩
    else .error (.kinds "inverse" [m.kind])
  | args => .error (wrongCount 1 args.length)

/-- The builtin functions with their names. -/
def all : List (String × (List (Value α) → Called (Value α))) :=
  [("length", length), ("dot", dot), ("dot2", dot2), ("vec2", vector 2), ("vec3", vector 3),
    ("vec4", vector 4), ("mat2", matrix), ("inverse", inverse)]

end SignedDistance.Builtin
