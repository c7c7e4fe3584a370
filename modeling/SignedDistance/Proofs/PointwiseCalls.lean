import Mathlib
import SignedDistance.Proofs.PointwiseValues
import SignedDistance.Shader.Primitive

/-!
# Calls at many points

The primitives and the functions that expressions call work on each index of a batch of points
(`agrees_callFunction`), a primitive for arguments of the kinds of its parameters.
-/

namespace SignedDistance

open Tensor

/-! ## Primitives -/

namespace Primitive

variable {α : Type} [Scalar α] {bs : Axes} {p a b c : Tensor α}

theorem pointwise_cornerCircle (hp : p.Batched [2] bs) :
    Pointwise [] (cornerCircle p) fun i : Index bs => cornerCircle (p.atPoint 1 i) := by
  have hcentre : ∀ g : Index [2] → α, (ofFn [2] g).Batched [2] bs := fun g => ⟨rfl, trivial⟩
  have hsub := fun g => hp.zipWith (hcentre g) rfl rfl Scalar.sub
  simp only [List.length_singleton, atPoint_vector] at hsub
  refine (hsub _).bind fun d hd => ?_
  refine hd.norm.bind fun n hn => ?_
  exact ⟨_, rfl, hn.map _, fun i => congrArg Except.ok (hn.atPoint_map _ i).symm⟩

open Scalar in
theorem pointwise_roundedBox (hp : p.Batched [2] bs) (hb : b.Batched [2] bs)
    (hr : c.Batched [4] bs) :
    Pointwise [] (roundedBox p b c) fun i : Index bs =>
      roundedBox (p.atPoint 1 i) (b.atPoint 1 i) (c.atPoint 1 i) := by
  refine (hp.component (by decide)).bind fun px hpx => ?_
  refine (hp.component (by decide)).bind fun py hpy => ?_
  refine (hr.slice 0 2).bind fun rightRadii hright => ?_
  refine (hr.slice 2 4).bind fun leftRadii hleft => ?_
  have hside : ∀ i : Index bs, (px.map (less 0.0)).expand.atPoint 1 i =
      ((px.atPoint 0 i).map (less 0.0)).expand := fun i =>
    ((hpx.map _).atPoint_expand i).trans (congrArg Tensor.expand (hpx.atPoint_map _ i))
  have hradii := (hpx.map (less 0.0)).expand.zipWith3 hright hleft rfl rfl rfl rfl
    fun choice a b => if choice then a else b
  simp only [List.length_singleton, hside] at hradii
  refine hradii.bind fun radii hradii => ?_
  refine (hradii.component (by decide)).bind fun top htop => ?_
  refine (hradii.component (by decide)).bind fun bottom hbottom => ?_
  have hradius := (hpy.map (less 0.0)).zipWith3 htop hbottom rfl rfl rfl rfl
    fun choice a b => if choice then a else b
  simp only [hpy.atPoint_map] at hradius
  refine hradius.bind fun radius hradius => ?_
  refine (hp.zipWith hb rfl rfl _).bind fun inner hinner => ?_
  have hspread : ∀ i : Index bs, radius.expand.atPoint 1 i = (radius.atPoint 0 i).expand :=
    hradius.atPoint_expand
  have hq := hinner.zipWith hradius.expand rfl rfl Scalar.add
  simp only [List.length_singleton, hspread] at hq
  refine hq.bind fun q hq => ?_
  refine (hq.component (by decide)).bind fun qx hqx => ?_
  refine (hq.component (by decide)).bind fun qy hqy => ?_
  exact hqx.zipWith3 hqy hradius rfl rfl rfl rfl _

theorem pointwise_plainBox (hp : p.Batched [2] bs) (hb : b.Batched [2] bs) :
    Pointwise [] (plainBox p b) fun i : Index bs => plainBox (p.atPoint 1 i) (b.atPoint 1 i) := by
  have hcorners : ∀ g : Index [4] → α, (ofFn [4] g).Batched [4] bs := fun g => ⟨rfl, trivial⟩
  have hbox := fun g => pointwise_roundedBox hp hb (hcorners g)
  simp only [atPoint_vector] at hbox
  exact hbox _

theorem pointwise_circle (hp : p.Batched [2] bs) (hr : a.Batched [] bs) :
    Pointwise [] (circle p a) fun i : Index bs => circle (p.atPoint 1 i) (a.atPoint 0 i) :=
  hp.norm.bind fun _ hn => hn.zipWith hr rfl rfl _

theorem pointwise_heart (hp : p.Batched [2] bs) :
    Pointwise [] (heart p) fun i : Index bs => heart (p.atPoint 1 i) := by
  refine (hp.component (by decide)).bind fun x hx => ?_
  refine (hp.component (by decide)).bind fun y hy => ?_
  exact hx.zipWith hy rfl rfl _

theorem pointwise_moon (hp : p.Batched [2] bs) (hd : a.Batched [] bs) (hra : b.Batched [] bs)
    (hrb : c.Batched [] bs) :
    Pointwise [] (moon p a b c) fun i : Index bs =>
      moon (p.atPoint 1 i) (a.atPoint 0 i) (b.atPoint 0 i) (c.atPoint 0 i) := by
  refine (hp.component (by decide)).bind fun x hx => ?_
  refine (hp.component (by decide)).bind fun y hy => ?_
  exact hx.zipWith5 hy hd hra hrb _

theorem pointwise_ellipse (hp : p.Batched [2] bs) (hab : a.Batched [2] bs) :
    Pointwise [] (ellipse p a) fun i : Index bs => ellipse (p.atPoint 1 i) (a.atPoint 1 i) := by
  refine (hp.component (by decide)).bind fun x hx => ?_
  refine (hp.component (by decide)).bind fun y hy => ?_
  refine (hab.component (by decide)).bind fun b hb => ?_
  refine (hab.component (by decide)).bind fun a ha => ?_
  exact hx.zipWith4 hy ha hb _

theorem pointwise_star (hp : p.Batched [2] bs) (hr : a.Batched [] bs) (hrf : b.Batched [] bs) :
    Pointwise [] (star p a b) fun i : Index bs =>
      star (p.atPoint 1 i) (a.atPoint 0 i) (b.atPoint 0 i) := by
  refine (hp.component (by decide)).bind fun x hx => ?_
  refine (hp.component (by decide)).bind fun y hy => ?_
  exact hx.zipWith4 hy hr hrf _

theorem pointwise_triangle (hp : p.Batched [2] bs) (hr : a.Batched [] bs) :
    Pointwise [] (triangle p a) fun i : Index bs => triangle (p.atPoint 1 i) (a.atPoint 0 i) := by
  refine (hp.component (by decide)).bind fun px hpx => ?_
  refine (hpx.zipWith hr rfl rfl _).bind fun x hx => ?_
  refine (hp.component (by decide)).bind fun py hpy => ?_
  refine (hpy.zipWith hr rfl rfl _).bind fun y hy => ?_
  exact hx.zipWith3 hy hr rfl rfl rfl rfl _

theorem pointwise_pointedS (hp : p.Batched [2] bs) :
    Pointwise [] (pointedS p) fun i : Index bs => pointedS (p.atPoint 1 i) := by
  refine (hp.component (by decide)).bind fun y hy => ?_
  refine (hp.component (by decide)).bind fun x hx => ?_
  exact hx.zipWith hy rfl rfl _

end Primitive

/-! ## Calls -/

/-- The names of the functions on components. -/
def Componentwise.names : List String :=
  ["abs", "sign", "sin", "cos", "sqrt", "floor", "round", "acos", "min", "max", "pow", "clamp",
    "mix", "smoothstep"]

/-- The builtin functions with the kinds of their results. -/
def Builtin.resultKinds : List (String × Kind) :=
  [("length", .float), ("dot", .float), ("dot2", .float), ("vec2", .vec 2), ("vec3", .vec 3),
    ("vec4", .vec 4), ("mat2", .mat2), ("inverse", .mat2)]

/-- The names of the primitives. -/
def Primitive.names : List String :=
  ["sdCornerCircle", "boxAtom", "plainBox", "circle", "heart", "moon", "star", "triangle", "coolS",
    "ellipse"]

/-- The kinds of the parameters of a primitive. -/
def Primitive.signature? (fn : String) : Option (List Kind) :=
  (Shader.primitiveFunctions.find? (·.name = fn)).map fun f => f.params.map (·.kind)

namespace Primitive

section Parameters

variable {α : Type} {bs : Axes}

/-- A primitive that works on each index of a batch for arguments of the given kinds. -/
def IsPointwise (bs : Axes) (m : CallMeaning α) (kinds : List Kind) : Prop :=
  ∀ args : List (Value α), (∀ v ∈ args, v.Batched bs) → args.map (·.kind) = kinds →
    ∃ t, m (args.map (·.data)) = .ok t ∧ t.Batched [] bs ∧
      ∀ i : Index bs, m ((args.map (Value.atPoint i)).map (·.data)) = .ok (t.atPoint 0 i)

theorem pointwise_toCall {whole : Shaped (Tensor α)} {single : Index bs → Shaped (Tensor α)}
    (h : Pointwise [] whole single) :
    ∃ t, toCall whole = .ok t ∧ t.Batched [] bs ∧ ∀ i, toCall (single i) = .ok (t.atPoint 0 i) := by
  obtain ⟨t, rfl, ht, hsingle⟩ := h
  exact ⟨t, rfl, ht, fun i => congrArg toCall (hsingle i)⟩

theorem isPointwise_takes1 {p : String} {f : Tensor α → Shaped (Tensor α)} {k : Kind}
    (hf : ∀ {x}, x.Batched k.axes bs →
      Pointwise [] (f x) fun i : Index bs => f (x.atPoint k.axes.length i)) :
    IsPointwise bs (takes1 p f) [k] := by
  rintro args h hkinds
  match args, hkinds with
  | [⟨_, x⟩], rfl => exact pointwise_toCall (hf (h ⟨k, x⟩ (by simp)))

theorem isPointwise_takes2 {p q : String} {f : Tensor α → Tensor α → Shaped (Tensor α)}
    {k l : Kind} (hf : ∀ {x y}, x.Batched k.axes bs → y.Batched l.axes bs →
      Pointwise [] (f x y) fun i : Index bs =>
        f (x.atPoint k.axes.length i) (y.atPoint l.axes.length i)) :
    IsPointwise bs (takes2 p q f) [k, l] := by
  rintro args h hkinds
  match args, hkinds with
  | [⟨_, x⟩, ⟨_, y⟩], rfl =>
    exact pointwise_toCall (hf (h ⟨k, x⟩ (by simp)) (h ⟨l, y⟩ (by simp)))

theorem isPointwise_takes3 {p q r : String}
    {f : Tensor α → Tensor α → Tensor α → Shaped (Tensor α)} {k l m : Kind}
    (hf : ∀ {x y z}, x.Batched k.axes bs → y.Batched l.axes bs → z.Batched m.axes bs →
      Pointwise [] (f x y z) fun i : Index bs =>
        f (x.atPoint k.axes.length i) (y.atPoint l.axes.length i) (z.atPoint m.axes.length i)) :
    IsPointwise bs (takes3 p q r f) [k, l, m] := by
  rintro args h hkinds
  match args, hkinds with
  | [⟨_, x⟩, ⟨_, y⟩, ⟨_, z⟩], rfl =>
    exact pointwise_toCall
      (hf (h ⟨k, x⟩ (by simp)) (h ⟨l, y⟩ (by simp)) (h ⟨m, z⟩ (by simp)))

theorem isPointwise_takes4 {p q r s : String}
    {f : Tensor α → Tensor α → Tensor α → Tensor α → Shaped (Tensor α)} {k l m n : Kind}
    (hf : ∀ {x y z w}, x.Batched k.axes bs → y.Batched l.axes bs → z.Batched m.axes bs →
      w.Batched n.axes bs → Pointwise [] (f x y z w) fun i : Index bs =>
        f (x.atPoint k.axes.length i) (y.atPoint l.axes.length i) (z.atPoint m.axes.length i)
          (w.atPoint n.axes.length i)) :
    IsPointwise bs (takes4 p q r s f) [k, l, m, n] := by
  rintro args h hkinds
  match args, hkinds with
  | [⟨_, x⟩, ⟨_, y⟩, ⟨_, z⟩, ⟨_, w⟩], rfl =>
    exact pointwise_toCall (hf (h ⟨k, x⟩ (by simp)) (h ⟨l, y⟩ (by simp)) (h ⟨m, z⟩ (by simp))
      (h ⟨n, w⟩ (by simp)))

end Parameters

variable {α : Type} [Scalar α] {bs : Axes}

/-- Every primitive works on each index of a batch, for arguments of the kinds of its parameters. -/
theorem isPointwise_of_signature {fn : String} {m : CallMeaning α} {kinds : List Kind}
    (hm : (fn, m) ∈ (all : List (String × CallMeaning α))) (hkinds : signature? fn = some kinds) :
    IsPointwise bs m kinds := by
  simp only [all, List.mem_cons, List.not_mem_nil, or_false, Prod.mk.injEq] at hm
  rcases hm with ⟨rfl, rfl⟩ | ⟨rfl, rfl⟩ | ⟨rfl, rfl⟩ | ⟨rfl, rfl⟩ | ⟨rfl, rfl⟩ | ⟨rfl, rfl⟩ |
    ⟨rfl, rfl⟩ | ⟨rfl, rfl⟩ | ⟨rfl, rfl⟩ | ⟨rfl, rfl⟩ <;> cases hkinds
  · exact isPointwise_takes1 pointwise_cornerCircle
  · exact isPointwise_takes3 pointwise_roundedBox
  · exact isPointwise_takes2 pointwise_plainBox
  · exact isPointwise_takes2 pointwise_circle
  · exact isPointwise_takes1 pointwise_heart
  · exact isPointwise_takes4 pointwise_moon
  · exact isPointwise_takes3 pointwise_star
  · exact isPointwise_takes2 pointwise_triangle
  · exact isPointwise_takes1 pointwise_pointedS
  · exact isPointwise_takes2 pointwise_ellipse

end Primitive

theorem mem_of_lookup_eq_some {β : Type} {table : List (String × β)} {name : String} {b : β}
    (h : table.lookup name = some b) : (name, b) ∈ table := by
  obtain ⟨front, back, rfl, -⟩ := List.lookup_eq_some_iff.mp h
  simp

theorem notMem_of_lookup_eq_none {β : Type} {table : List (String × β)} {name : String}
    (h : table.lookup name = none) : name ∉ table.map (·.1) := by
  intro hname
  obtain ⟨entry, hentry, rfl⟩ := List.mem_map.mp hname
  simpa using List.lookup_eq_none_iff.mp h entry hentry

section Calls

variable {α : Type} [Scalar α] {bs : Axes} {fn : String}

/-- Whether a call can be made at many points, given the kinds of its arguments as far as they have
one: of a function on components, of a builtin function except for the length of a matrix, and of a
primitive with the kinds of its parameters. -/
def CallsPointwise (fn : String) (kinds : List (Option Kind)) : Prop :=
  fn ∈ Componentwise.names ∨
    (fn ∈ Builtin.resultKinds.map (·.1) ∧ (fn = "length" → kinds ≠ [some .mat2])) ∨
    (fn ∈ Primitive.names ∧ (Primitive.signature? fn).map (·.map some) = some kinds)

instance (fn : String) (kinds : List (Option Kind)) : Decidable (CallsPointwise fn kinds) :=
  inferInstanceAs (Decidable (_ ∨ _ ∨ _))

theorem Builtin.agrees_all (hbs : 0 < volume bs) {f : List (Value α) → Called (Value α)}
    (hf : (fn, f) ∈ (all : List (String × (List (Value α) → Called (Value α)))))
    {args : List (Value α)} (h : ∀ v ∈ args, v.Batched bs)
    (hlength : fn = "length" → args.map (·.kind) ≠ [.mat2]) :
    AgreesValue (f args) fun i : Index bs => f (args.map (Value.atPoint i)) := by
  simp only [all, List.mem_cons, List.not_mem_nil, or_false, Prod.mk.injEq] at hf
  rcases hf with ⟨rfl, rfl⟩ | ⟨rfl, rfl⟩ | ⟨rfl, rfl⟩ | ⟨rfl, rfl⟩ | ⟨rfl, rfl⟩ | ⟨rfl, rfl⟩ |
    ⟨rfl, rfl⟩ | ⟨rfl, rfl⟩
  · exact agrees_length hbs h (hlength rfl)
  · exact agrees_dot hbs h
  · exact agrees_dot2 hbs h
  · exact agrees_vector hbs 2 h
  · exact agrees_vector hbs 3 h
  · exact agrees_vector hbs 4 h
  · exact agrees_matrix hbs h
  · exact agrees_inverse hbs h

/-- Functions that can be called at many points work at each of them. -/
theorem agrees_callFunction (hbs : 0 < volume bs) {args : List (Value α)}
    (h : ∀ v ∈ args, v.Batched bs)
    (hfn : CallsPointwise fn (args.map fun v => some v.kind)) :
    AgreesValue (callFunction Library.standard fn args) fun i : Index bs =>
      callFunction Library.standard fn (args.map (Value.atPoint i)) := by
  unfold callFunction
  cases hcomponent : (Componentwise.all : List (String × Componentwise α)).lookup fn with
  | some c => exact c.agrees_call hbs fn h
  | none =>
    have hnames : fn ∉ Componentwise.names := notMem_of_lookup_eq_none hcomponent
    cases hbuiltin : (Builtin.all : List (String × (List (Value α) → _))).lookup fn with
    | some f =>
      have hlength : fn = "length" → args.map (·.kind) ≠ [.mat2] := by
        rintro rfl hkinds
        rcases hfn with hname | ⟨-, hmat⟩ | ⟨hname, -⟩
        · exact hnames hname
        · exact hmat rfl (by simpa using congrArg (List.map some) hkinds)
        · exact absurd hname (by decide)
      exact (Builtin.agrees_all hbs (mem_of_lookup_eq_some hbuiltin) h hlength).mapError _
    | none =>
      have hbuiltins : fn ∉ Builtin.resultKinds.map (·.1) :=
        @notMem_of_lookup_eq_none _ Builtin.all fn hbuiltin
      cases hprimitive : (Library.standard : Library α) fn with
      | none => exact .error hbs
      | some m =>
        obtain ⟨-, hsignature⟩ := (hfn.resolve_left hnames).resolve_left fun hb => hbuiltins hb.1
        obtain ⟨kinds, hkinds, hargs⟩ := Option.map_eq_some_iff.mp hsignature
        have hargs : args.map (·.kind) = kinds := by
          refine (List.map_injective_iff.mpr (Option.some_injective Kind) ?_).symm
          rw [hargs, List.map_map]
          rfl
        obtain ⟨t, ht, hbatched, hsingle⟩ :=
          Primitive.isPointwise_of_signature (mem_of_lookup_eq_some hprimitive) hkinds args h hargs
        simp only [ht, hsingle]
        exact ⟨hbatched, fun i => rfl⟩

/-! ## Kinds of results -/

/-- The kind of the result of a call, if it has one. -/
def callKind? (fn : String) (kinds : List (Option Kind)) : Option Kind :=
  if fn ∈ Componentwise.names then kinds.mapM id >>= fun ks => (commonKind ks).toOption
  else some ((Builtin.resultKinds.lookup fn).getD .float)

omit [Scalar α] in
theorem kind_of_bind {ε : Type} {k : Kind} {result : Except ε (Tensor α)} {v : Value α}
    (h : (result >>= fun data => .ok ⟨k, data⟩) = .ok v) : v.kind = k := by
  obtain ⟨data, -, hv⟩ := bind_eq_ok_iff.mp h
  cases hv
  rfl

theorem kind_of_combine {op : Operator} {v w u : Value α} (h : Value.combine op v w = .ok u) :
    commonKind [v.kind, w.kind] = .ok u.kind := by
  rw [Value.combine, unify_eq] at h
  cases hkind : commonKind ([v, w].map (·.kind)) with
  | error e =>
    rw [hkind] at h
    cases h
  | ok k =>
    rw [hkind] at h
    cases hmeaning : (op.meaning? : Option (α → α → α)) with
    | none =>
      simp only [hmeaning] at h
      cases h
    | some f =>
      simp only [hmeaning] at h
      rw [kind_of_bind h]
      exact hkind

theorem binaryKind?_of_binary {op : Operator} {v w u : Value α} (h : Value.binary op v w = .ok u) :
    binaryKind? op v.kind w.kind = some u.kind := by
  obtain ⟨k, v⟩ := v
  obtain ⟨l, w⟩ := w
  rcases @Value.binary_cases α _ op k l with ⟨rfl, rfl, rfl⟩ | ⟨rfl, rfl, rfl⟩ | ⟨rfl, rfl, rfl⟩ |
    ⟨rfl, rfl, rfl⟩ | ⟨rfl, rfl, rfl⟩ | ⟨hkind, hbinary⟩
  · rw [kind_of_bind h]; rfl
  · rw [kind_of_bind h]; rfl
  · rw [kind_of_bind h]; rfl
  · rw [kind_of_bind h]; rfl
  · rw [kind_of_bind h]; rfl
  · rw [hbinary] at h
    rw [hkind, kind_of_combine h]
    rfl

theorem Componentwise.kind_of_call {c : Componentwise α} {args : List (Value α)} {v : Value α}
    (h : c.call fn args = .ok v) : commonKind (args.map (·.kind)) = .ok v.kind := by
  rw [call, unify_eq] at h
  split_ifs at h
  cases hkind : commonKind (args.map (·.kind)) with
  | error e =>
    rw [hkind] at h
    cases h
  | ok k =>
    rw [hkind] at h
    exact congrArg Except.ok (kind_of_bind h).symm

namespace Builtin

theorem kind_of_length {args : List (Value α)} {v : Value α} (h : length args = .ok v) :
    v.kind = .float := by
  match args with
  | [] => cases h
  | _ :: _ :: _ => cases h
  | [w] =>
    rw [length] at h
    split_ifs at h
    · cases h
      rfl
    · exact kind_of_bind h

theorem kind_of_dot {args : List (Value α)} {v : Value α} (h : dot args = .ok v) :
    v.kind = .float := by
  match args with
  | [] => cases h
  | [_] => cases h
  | _ :: _ :: _ :: _ => cases h
  | [a, b] =>
    rw [dot] at h
    split_ifs at h
    · exact kind_of_bind h
    · exact kind_of_bind h

theorem kind_of_dot2 {args : List (Value α)} {v : Value α} (h : dot2 args = .ok v) :
    v.kind = .float := by
  match args with
  | [] => cases h
  | _ :: _ :: _ => cases h
  | [w] => exact @kind_of_dot _ _ [w, w] v h

omit [Scalar α] in
theorem kind_of_matrix {args : List (Value α)} {v : Value α} (h : matrix args = .ok v) :
    v.kind = .mat2 := by
  obtain ⟨entries, -, h⟩ := bind_eq_ok_iff.mp h
  obtain ⟨a, -, h⟩ := bind_eq_ok_iff.mp h
  obtain ⟨b, -, h⟩ := bind_eq_ok_iff.mp h
  obtain ⟨c, -, h⟩ := bind_eq_ok_iff.mp h
  obtain ⟨d, -, h⟩ := bind_eq_ok_iff.mp h
  exact kind_of_bind h

theorem kind_of_inverse {args : List (Value α)} {v : Value α} (h : inverse args = .ok v) :
    v.kind = .mat2 := by
  match args with
  | [] => cases h
  | _ :: _ :: _ => cases h
  | [m] =>
    rw [inverse] at h
    split_ifs at h
    obtain ⟨a, -, h⟩ := bind_eq_ok_iff.mp h
    obtain ⟨b, -, h⟩ := bind_eq_ok_iff.mp h
    obtain ⟨c, -, h⟩ := bind_eq_ok_iff.mp h
    obtain ⟨d, -, h⟩ := bind_eq_ok_iff.mp h
    obtain ⟨matrices, -, h⟩ := bind_eq_ok_iff.mp h
    split_ifs at h
    exact kind_of_bind h

theorem kind_of_all {f : List (Value α) → Called (Value α)}
    (hf : (fn, f) ∈ (all : List (String × (List (Value α) → Called (Value α)))))
    {args : List (Value α)} {v : Value α} (h : f args = .ok v) :
    resultKinds.lookup fn = some v.kind := by
  simp only [all, List.mem_cons, List.not_mem_nil, or_false, Prod.mk.injEq] at hf
  rcases hf with ⟨rfl, rfl⟩ | ⟨rfl, rfl⟩ | ⟨rfl, rfl⟩ | ⟨rfl, rfl⟩ | ⟨rfl, rfl⟩ | ⟨rfl, rfl⟩ |
    ⟨rfl, rfl⟩ | ⟨rfl, rfl⟩
  · rw [kind_of_length h]; rfl
  · rw [kind_of_dot h]; rfl
  · rw [kind_of_dot2 h]; rfl
  · rw [kind_of_bind h]; rfl
  · rw [kind_of_bind h]; rfl
  · rw [kind_of_bind h]; rfl
  · rw [kind_of_matrix h]; rfl
  · rw [kind_of_inverse h]; rfl

end Builtin

/-- The result of a call has the kind foretold. -/
theorem callKind?_of_callFunction {library : Library α} {args : List (Value α)} {v : Value α}
    (h : callFunction library fn args = .ok v) :
    callKind? fn (args.map fun a => some a.kind) = some v.kind := by
  unfold callFunction at h
  cases hcomponent : (Componentwise.all : List (String × Componentwise α)).lookup fn with
  | some c =>
    have hname : fn ∈ Componentwise.names :=
      List.mem_map_of_mem (f := Prod.fst) (mem_of_lookup_eq_some hcomponent)
    have hkinds : (args.map fun a => some a.kind).mapM id = some (args.map (·.kind)) := by
      rw [List.mapM_map]
      exact List.mapM_pure
    rw [hcomponent] at h
    rw [callKind?, if_pos hname, hkinds]
    show (commonKind (args.map (·.kind))).toOption = _
    rw [Componentwise.kind_of_call h]
    rfl
  | none =>
    have hnames : fn ∉ Componentwise.names := notMem_of_lookup_eq_none hcomponent
    rw [hcomponent] at h
    rw [callKind?, if_neg hnames]
    cases hbuiltin : (Builtin.all : List (String × (List (Value α) → _))).lookup fn with
    | some f =>
      rw [hbuiltin] at h
      cases hf : f args with
      | error fault =>
        simp only [hf] at h
        cases h
      | ok w =>
        simp only [hf] at h
        cases h
        rw [Builtin.kind_of_all (mem_of_lookup_eq_some hbuiltin) hf]
        rfl
    | none =>
      have hresult : Builtin.resultKinds.lookup fn = none := by
        refine List.lookup_eq_none_iff.mpr fun entry hentry => ?_
        have hne := @notMem_of_lookup_eq_none _ Builtin.all fn hbuiltin
        simpa using fun heq : fn = entry.1 => hne (heq ▸ List.mem_map_of_mem hentry)
      rw [hbuiltin] at h
      rw [hresult]
      cases hlibrary : library fn with
      | none =>
        simp only [hlibrary] at h
        cases h
      | some m =>
        simp only [hlibrary] at h
        split at h
        · cases h
          rfl
        · cases h
        · cases h

end Calls

end SignedDistance
