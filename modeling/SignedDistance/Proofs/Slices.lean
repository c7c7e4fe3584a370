import Mathlib
import SignedDistance.Tensor.Arithmetic

/-!
# Arrays of arrays

An array may hold one small array for each index of a batch: the axes of the small arrays come
first, and the rest of the axes can be stretched to those of the batch (`Tensor.Batched`). The small
array at one index is `Tensor.atPoint`. An operation on arrays is pointwise (`Pointwise`) if it has
a result that is batched again, and if its result at each index is that of the operation on the
small arrays. The operations that distances are computed with all are.
-/

namespace SignedDistance

/-! ## Stretching -/

theorem Fits.trans {a b c : Axes} (hab : Fits a b) (hbc : Fits b c) : Fits a c := by
  induction a generalizing b c with
  | nil => trivial
  | cons n ns ih =>
    cases b with
    | nil => exact hab.elim
    | cons m ms =>
      cases c with
      | nil => exact hbc.elim
      | cons l ls =>
        have hn := hab.1
        have hm := hbc.1
        exact ⟨by omega, ih hab.2 hbc.2⟩

theorem Fits.take {a b : Axes} (h : Fits a b) (r : Nat) : Fits (a.take r) (b.take r) := by
  induction r generalizing a b with
  | zero => trivial
  | succ r ih =>
    cases a with
    | nil => trivial
    | cons n ns =>
      cases b with
      | nil => exact h.elim
      | cons m ms => exact ⟨h.1, ih h.2⟩

theorem Fits.drop {a b : Axes} (h : Fits a b) (r : Nat) : Fits (a.drop r) (b.drop r) := by
  induction r generalizing a b with
  | zero => exact h
  | succ r ih =>
    cases a with
    | nil => trivial
    | cons n ns =>
      cases b with
      | nil => exact h.elim
      | cons m ms => exact ih h.2

/-- Axes that fit the same larger ones fit together. -/
theorem broadcastAxes_of_fits {a b c : Axes} (ha : Fits a c) (hb : Fits b c) :
    ∃ d, broadcastAxes a b = some d ∧ Fits d c := by
  induction a generalizing b c with
  | nil => exact ⟨b, by rw [broadcastAxes], hb⟩
  | cons n ns ih =>
    cases b with
    | nil => exact ⟨n :: ns, by rw [broadcastAxes], ha⟩
    | cons m ms =>
      cases c with
      | nil => exact ha.elim
      | cons l ls =>
        have hn := ha.1
        have hm := hb.1
        obtain ⟨d, hd, hfits⟩ := ih ha.2 hb.2
        by_cases hnm : n = m ∨ m = 1
        · exact ⟨n :: d, by rw [broadcastAxes, if_pos hnm, hd]; rfl, hn, hfits⟩
        · have hn1 : n = 1 := by omega
          exact ⟨m :: d, by rw [broadcastAxes, if_neg hnm, if_pos hn1, hd]; rfl, hm, hfits⟩

/-- Axes are fitted together piece by piece. -/
theorem broadcastAxes_of_take_drop {r : Nat} {a b c d : Axes} (ha : r ≤ a.length)
    (hb : r ≤ b.length) (hc : broadcastAxes (a.take r) (b.take r) = some c)
    (hd : broadcastAxes (a.drop r) (b.drop r) = some d) :
    ∃ e, broadcastAxes a b = some e ∧ e.take r = c ∧ e.drop r = d ∧ c.length = r := by
  induction r generalizing a b c with
  | zero =>
    cases hc
    exact ⟨d, hd, rfl, rfl, rfl⟩
  | succ r ih =>
    cases a with
    | nil => simp at ha
    | cons n ns =>
      cases b with
      | nil => simp at hb
      | cons m ms =>
        simp only [List.length_cons, Nat.add_le_add_iff_right] at ha hb
        rw [List.take_succ_cons, List.take_succ_cons, broadcastAxes] at hc
        rw [broadcastAxes]
        -- the rest of the axes is the same, whichever of the two heads is taken
        have hrest : ∀ l, (broadcastAxes (ns.take r) (ms.take r)).map (l :: ·) = some c →
            ∃ e, (broadcastAxes ns ms).map (l :: ·) = some e ∧ e.take (r + 1) = c ∧
              e.drop (r + 1) = d ∧ c.length = r + 1 := by
          intro l hl
          obtain ⟨c', hc', rfl⟩ := Option.map_eq_some_iff.mp hl
          obtain ⟨e, he, rfl, rfl, hlength⟩ := ih ha hb hc' hd
          exact ⟨l :: e, by rw [he]; rfl, rfl, rfl, by rw [List.length_cons, hlength]⟩
        split_ifs at hc ⊢ with hnm hn
        · exact hrest n hc
        · exact hrest m hc

namespace Index

/-- The index with a number has that number. -/
theorem flat_ofFlat {axes : Axes} (k : Fin (volume axes)) : (ofFlat axes k).flat = k := by
  induction axes with
  | nil =>
    have hk : k.val < 1 := k.isLt
    exact Fin.ext (by show 0 = k.val; omega)
  | cons n ns ih =>
    refine Fin.ext ?_
    show k.val % n + n * (ofFlat ns ⟨k.val / n, _⟩).flat.val = k.val
    rw [ih]
    exact Nat.mod_add_div k.val n

@[simp] theorem clip_self {axes : Axes} (h : Fits axes axes) (i : Index axes) : i.clip h = i := by
  induction axes with
  | nil => rfl
  | cons n ns ih =>
    obtain ⟨i, is⟩ := i
    rw [clip, dif_pos rfl, ih]
    rfl

/-- Stretching twice is stretching at once. -/
theorem clip_clip {a b c : Axes} (hab : Fits a b) (hbc : Fits b c) (i : Index c) :
    (i.clip hbc).clip hab = i.clip (hab.trans hbc) := by
  induction a generalizing b c with
  | nil => rfl
  | cons n ns ih =>
    cases b with
    | nil => exact hab.elim
    | cons m ms =>
      cases c with
      | nil => exact hbc.elim
      | cons l ls =>
        obtain ⟨i, is⟩ := i
        have hn := hab.1
        have hm := hbc.1
        have hi := i.isLt
        refine Prod.ext (Fin.ext ?_) (ih hab.2 hbc.2 is)
        simp only [clip]
        split_ifs <;> simp <;> omega

/-- Where the batch has indices, every index of an array comes from one of them. -/
theorem exists_clip {a b : Axes} (h : Fits a b) (hb : 0 < volume b) (j : Index a) :
    ∃ i : Index b, i.clip h = j := by
  induction a generalizing b with
  | nil => exact ⟨ofFlat b ⟨0, hb⟩, rfl⟩
  | cons n ns ih =>
    cases b with
    | nil => exact h.elim
    | cons m ms =>
      obtain ⟨j, js⟩ := j
      have hm : 0 < m := Nat.pos_of_mul_pos_right hb
      obtain ⟨is, his⟩ := ih h.2 (Nat.pos_of_mul_pos_left hb) js
      by_cases hnm : n = m
      · refine ⟨(j.cast hnm, is), Prod.ext ?_ his⟩
        simp only [clip, dif_pos hnm, Fin.cast_cast, Fin.cast_eq_self]
      · have hj := j.isLt
        have hn : n = 1 := h.1.resolve_left hnm
        refine ⟨(⟨0, hm⟩, is), Prod.ext (Fin.ext ?_) his⟩
        simp only [clip, dif_neg hnm]
        omega

/-- The index with the given coordinates along the first axes and along the rest. -/
def join : (rank : Nat) → {axes : Axes} → Index (axes.take rank) → Index (axes.drop rank) →
    Index axes
  | 0, _, _, outer => outer
  | _ + 1, [], _, _ => ()
  | rank + 1, _ :: _, (c, inner), outer => (c, join rank inner outer)

theorem clip_join {a b : Axes} (h : Fits a b) (rank : Nat) (inner : Index (b.take rank))
    (outer : Index (b.drop rank)) :
    (join rank inner outer).clip h =
      join rank (inner.clip (h.take rank)) (outer.clip (h.drop rank)) := by
  induction rank generalizing a b with
  | zero => rfl
  | succ rank ih =>
    cases a with
    | nil => rfl
    | cons n ns =>
      cases b with
      | nil => exact h.elim
      | cons m ms =>
        obtain ⟨c, inner⟩ := inner
        exact Prod.ext rfl (ih h.2 inner outer)

end Index

namespace Tensor

variable {α β γ δ ε ζ : Type} {bs : Axes}

/-! ## Arrays given by their entries -/

theorem ofFn_get (t : Tensor α) : ofFn t.axes t.get = t := by
  obtain ⟨axes, data⟩ := t
  have hdata : Vector.ofFn (fun k => data.get (Index.ofFlat axes k).flat) = data := by
    ext k hk
    simp only [Index.flat_ofFlat, Vector.getElem_ofFn]
    rfl
  show (⟨axes, Vector.ofFn _⟩ : Tensor α) = ⟨axes, data⟩
  exact congrArg (Tensor.mk axes) hdata

theorem get_of_eq_scalar {t : Tensor α} {a : α} (h : t = scalar a) (i : Index t.axes) :
    t.get i = a := by
  subst h
  exact get_ofFn [] _ i

theorem ofFn_cons_congr {n m : Nat} {ns : Axes} {f : Index (n :: ns) → α}
    {g : Index (m :: ns) → α} (h : n = m) (hfg : ∀ c i, f (c, i) = g (c.cast h, i)) :
    ofFn (n :: ns) f = ofFn (m :: ns) g := by
  subst h
  exact congrArg (ofFn (n :: ns)) (funext fun i => hfg i.1 i.2)

theorem map_ofFn (f : α → β) {axes : Axes} (g : Index axes → α) :
    (ofFn axes g).map f = ofFn axes fun i => f (g i) :=
  congrArg (ofFn axes) (funext fun i => congrArg f (get_ofFn axes g i))

theorem expand_ofFn {axes : Axes} (g : Index axes → α) :
    (ofFn axes g).expand = ofFn (1 :: axes) fun i => g i.2 :=
  congrArg (ofFn (1 :: axes)) (funext fun i => get_ofFn axes g i.2)

theorem foldInner_ofFn (f : List α → α) {n : Nat} {ns : Axes} (g : Index (n :: ns) → α) :
    (ofFn (n :: ns) g).foldInner f = ofFn ns fun i => f (List.ofFn fun c => g (c, i)) := by
  have hentries : ∀ i, (fun c => (ofFn (n :: ns) g).get (c, i)) = fun c => g (c, i) :=
    fun i => funext fun c => get_ofFn (n :: ns) g (c, i)
  exact congrArg (ofFn ns) (funext fun i => congrArg (f ∘ List.ofFn) (hentries i))

theorem component_ofFn {n k : Nat} {ns : Axes} (g : Index (n :: ns) → α) (hk : k < n) :
    (ofFn (n :: ns) g).component k = .ok (ofFn ns fun i => g (⟨k, hk⟩, i)) := by
  refine (dif_pos hk).trans (congrArg (Except.ok ∘ ofFn ns) (funext fun i => ?_))
  exact get_ofFn (n :: ns) g (⟨k, hk⟩, i)

theorem components_ofFn {n : Nat} {ks : List Nat} {ns : Axes} (g : Index (n :: ns) → α)
    (hks : ∀ k ∈ ks, k < n) :
    (ofFn (n :: ns) g).components ks =
      .ok (ofFn (ks.length :: ns) fun i => g (⟨ks.get i.1, hks _ (List.get_mem ks i.1)⟩, i.2)) := by
  refine (dif_pos hks).trans (congrArg (Except.ok ∘ ofFn (ks.length :: ns)) (funext fun i => ?_))
  exact get_ofFn (n :: ns) g _

theorem slice_ofFn {n : Nat} {ns : Axes} (start stop : Nat) (g : Index (n :: ns) → α) :
    (ofFn (n :: ns) g).slice start stop =
      .ok (ofFn ((min stop n - start) :: ns) fun i =>
        g (⟨start + i.1.val, by have := i.1.isLt; omega⟩, i.2)) := by
  refine congrArg (Except.ok ∘ ofFn ((min stop n - start) :: ns)) (funext fun i => ?_)
  exact get_ofFn (n :: ns) g _

theorem zipWith_ofFn {a b c : Axes} (h : broadcastAxes a b = some c) (f : α → β → γ)
    (g : Index a → α) (k : Index b → β) :
    (ofFn a g).zipWith f (ofFn b k) =
      .ok (ofFn c fun i =>
        f (g (i.clip (fits_of_broadcastAxes h).1)) (k (i.clip (fits_of_broadcastAxes h).2))) := by
  unfold zipWith
  split
  · next hnone => exact absurd (hnone.symm.trans h) (by simp)
  · next d hd =>
    have hdc : d = c := Option.some.inj (hd.symm.trans h)
    subst hdc
    exact congrArg (Except.ok ∘ ofFn d) (funext fun i =>
      congrArg₂ f (get_ofFn a g _) (get_ofFn b k _))

/-- The entry in a row and a column of the matrix with rows `a b` and `c d`. -/
def matrixEntry (row column : Fin 2) (a b c d : α) : α :=
  if row.val = 0 then (if column.val = 0 then a else b) else (if column.val = 0 then c else d)

theorem stackMatrix_eq_ok {a b c d : Tensor α} {axes : Axes}
    (haxes : commonAxes [a, b, c, d] = some axes)
    (h : Fits a.axes axes ∧ Fits b.axes axes ∧ Fits c.axes axes ∧ Fits d.axes axes) :
    stackMatrix a b c d = .ok (ofFn (2 :: 2 :: axes) fun k =>
      matrixEntry k.2.1 k.1 (a.get (k.2.2.clip h.1)) (b.get (k.2.2.clip h.2.1))
        (c.get (k.2.2.clip h.2.2.1)) (d.get (k.2.2.clip h.2.2.2))) := by
  rw [stackMatrix, haxes]
  refine (dif_pos h).trans (congrArg (Except.ok ∘ ofFn (2 :: 2 :: axes)) (funext fun k => ?_))
  obtain ⟨column, row, i⟩ := k
  fin_cases row <;> fin_cases column <;> rfl

/-! ## The small arrays -/

/-- An array that holds an array with the given axes for each index of a batch. -/
def Batched (t : Tensor α) (inner bs : Axes) : Prop :=
  t.axes.take inner.length = inner ∧ Fits (t.axes.drop inner.length) bs

/-- The small array at an index of the batch, `rank` being its number of axes. -/
def atPoint (t : Tensor α) (rank : Nat) (i : Index bs) : Tensor α :=
  if h : Fits (t.axes.drop rank) bs then
    ofFn (t.axes.take rank) fun j => t.get (Index.join rank j (i.clip h))
  else t

theorem atPoint_ofFn {axes : Axes} {rank : Nat} (h : Fits (axes.drop rank) bs)
    (g : Index axes → α) (i : Index bs) :
    (ofFn axes g).atPoint rank i =
      ofFn (axes.take rank) fun j => g (Index.join rank j (i.clip h)) :=
  (dif_pos h).trans (congrArg (ofFn (axes.take rank)) (funext fun _ => get_ofFn axes g _))

theorem atPoint_ofFn_cons {n r : Nat} {ns : Axes} (h : Fits (ns.drop r) bs)
    (g : Index (n :: ns) → α) (i : Index bs) :
    (ofFn (n :: ns) g).atPoint (r + 1) i =
      ofFn (n :: ns.take r) fun j => g (j.1, Index.join r j.2 (i.clip h)) :=
  @atPoint_ofFn _ _ (n :: ns) (r + 1) h g i

theorem Batched.exists_ofFn {t : Tensor α} {inner : Axes} (h : t.Batched inner bs) :
    ∃ r axes, ∃ g : Index axes → α, t = ofFn axes g ∧ inner.length = r ∧ axes.take r = inner ∧
      Fits (axes.drop r) bs :=
  ⟨inner.length, t.axes, t.get, t.ofFn_get.symm, rfl, h⟩

theorem Batched.exists_ofFn_cons {t : Tensor α} {n : Nat} {inner : Axes}
    (h : t.Batched (n :: inner) bs) :
    ∃ r ns, ∃ g : Index (n :: ns) → α, t = ofFn (n :: ns) g ∧ inner.length = r ∧
      ns.take r = inner ∧ Fits (ns.drop r) bs := by
  obtain ⟨_, axes, g, rfl, rfl, htake, hfits⟩ := h.exists_ofFn
  cases axes with
  | nil => cases htake
  | cons m ns =>
    obtain ⟨rfl, hns⟩ := List.cons.inj htake
    exact ⟨_, ns, g, rfl, rfl, hns, hfits⟩

theorem batched_ofFn {axes : Axes} {r : Nat} (hr : (axes.take r).length = r)
    (hfits : Fits (axes.drop r) bs) (g : Index axes → α) :
    (ofFn axes g).Batched (axes.take r) bs := by
  rw [Batched, hr]
  exact ⟨rfl, hfits⟩

theorem atPoint_scalar (a : α) (i : Index bs) : (scalar a).atPoint 0 i = scalar a :=
  @atPoint_ofFn _ _ [] 0 trivial _ i

theorem atPoint_vector {n : Nat} (g : Index [n] → α) (i : Index bs) :
    (ofFn [n] g).atPoint 1 i = ofFn [n] g :=
  @atPoint_ofFn _ _ [n] 1 trivial g i

theorem Batched.map {t : Tensor α} {inner : Axes} (h : t.Batched inner bs) (f : α → β) :
    (t.map f).Batched inner bs :=
  h

theorem Batched.atPoint_map {t : Tensor α} {inner : Axes} (h : t.Batched inner bs) (f : α → β)
    (i : Index bs) : (t.map f).atPoint inner.length i = (t.atPoint inner.length i).map f := by
  obtain ⟨r, axes, g, rfl, hr, rfl, hfits⟩ := h.exists_ofFn
  rw [hr, map_ofFn, atPoint_ofFn hfits, atPoint_ofFn hfits, map_ofFn]

theorem Batched.expand {t : Tensor α} {inner : Axes} (h : t.Batched inner bs) :
    t.expand.Batched (1 :: inner) bs :=
  ⟨congrArg (1 :: ·) h.1, h.2⟩

theorem Batched.atPoint_expand {t : Tensor α} {inner : Axes} (h : t.Batched inner bs)
    (i : Index bs) :
    t.expand.atPoint (inner.length + 1) i = (t.atPoint inner.length i).expand := by
  obtain ⟨r, axes, g, rfl, hr, rfl, hfits⟩ := h.exists_ofFn
  rw [hr, expand_ofFn, atPoint_ofFn_cons hfits, atPoint_ofFn hfits, expand_ofFn]

theorem Batched.foldInner {t : Tensor α} {n : Nat} {inner : Axes} (h : t.Batched (n :: inner) bs)
    (f : List α → α) : (t.foldInner f).Batched inner bs := by
  obtain ⟨r, ns, g, rfl, hr, rfl, hfits⟩ := h.exists_ofFn_cons
  rw [foldInner_ofFn]
  exact batched_ofFn hr hfits _

theorem Batched.atPoint_foldInner {t : Tensor α} {n : Nat} {inner : Axes}
    (h : t.Batched (n :: inner) bs) (f : List α → α) (i : Index bs) :
    (t.foldInner f).atPoint inner.length i = (t.atPoint (inner.length + 1) i).foldInner f := by
  obtain ⟨r, ns, g, rfl, hr, rfl, hfits⟩ := h.exists_ofFn_cons
  rw [hr, foldInner_ofFn, atPoint_ofFn hfits, atPoint_ofFn_cons hfits, foldInner_ofFn]

end Tensor

/-! ## Pointwise computations -/

open Tensor

variable {α β γ δ ε ζ : Type} {bs : Axes}

/-- A computation that has a result, which is at each index of the batch that of another
computation. -/
def Pointwise (inner : Axes) (whole : Shaped (Tensor α)) (single : Index bs → Shaped (Tensor α)) :
    Prop :=
  ∃ t, whole = .ok t ∧ t.Batched inner bs ∧ ∀ i, single i = .ok (t.atPoint inner.length i)

namespace Pointwise

/-- Computations are put together point by point. -/
theorem bind {a b : Axes} {whole : Shaped (Tensor α)} {single : Index bs → Shaped (Tensor α)}
    {f : Tensor α → Shaped (Tensor β)} {g : Index bs → Tensor α → Shaped (Tensor β)}
    (h : Pointwise a whole single)
    (hf : ∀ t, t.Batched a bs → Pointwise b (f t) fun i => g i (t.atPoint a.length i)) :
    Pointwise b (whole >>= f) fun i => single i >>= g i := by
  obtain ⟨t, rfl, ht, hsingle⟩ := h
  obtain ⟨u, hu, hbatched, hg⟩ := hf t ht
  refine ⟨u, hu, hbatched, fun i => ?_⟩
  show single i >>= g i = _
  rw [hsingle]
  exact hg i

theorem of_ofFn {axes : Axes} {r : Nat} {whole : Shaped (Tensor α)}
    {single : Index bs → Shaped (Tensor α)} {g : Index axes → α}
    (hr : (axes.take r).length = r) (hfits : Fits (axes.drop r) bs)
    (hwhole : whole = .ok (ofFn axes g))
    (hsingle : ∀ i, single i =
      .ok (ofFn (axes.take r) fun j => g (Index.join r j (i.clip hfits)))) :
    Pointwise (axes.take r) whole single := by
  refine ⟨ofFn axes g, hwhole, batched_ofFn hr hfits g, fun i => ?_⟩
  rw [hr, atPoint_ofFn hfits, hsingle]

theorem of_ofFn_cons {n r : Nat} {ns : Axes} {whole : Shaped (Tensor α)}
    {single : Index bs → Shaped (Tensor α)} {g : Index (n :: ns) → α}
    (hr : (ns.take r).length = r) (hfits : Fits (ns.drop r) bs)
    (hwhole : whole = .ok (ofFn (n :: ns) g))
    (hsingle : ∀ i, single i =
      .ok (ofFn (n :: ns.take r) fun j => g (j.1, Index.join r j.2 (i.clip hfits)))) :
    Pointwise (n :: ns.take r) whole single :=
  @of_ofFn _ _ (n :: ns) (r + 1) _ _ g (congrArg (· + 1) hr) hfits hwhole hsingle

end Pointwise

namespace Tensor.Batched

theorem component {t : Tensor α} {n k : Nat} {inner : Axes} (h : t.Batched (n :: inner) bs)
    (hk : k < n) :
    Pointwise inner (t.component k) fun i : Index bs =>
      (t.atPoint (inner.length + 1) i).component k := by
  obtain ⟨r, ns, g, rfl, hr, rfl, hfits⟩ := h.exists_ofFn_cons
  refine .of_ofFn hr hfits (component_ofFn g hk) fun i => ?_
  rw [hr, atPoint_ofFn_cons hfits, component_ofFn _ hk]

theorem components {t : Tensor α} {n : Nat} {ks : List Nat} {inner : Axes}
    (h : t.Batched (n :: inner) bs) (hks : ∀ k ∈ ks, k < n) :
    Pointwise (ks.length :: inner) (t.components ks) fun i : Index bs =>
      (t.atPoint (inner.length + 1) i).components ks := by
  obtain ⟨r, ns, g, rfl, hr, rfl, hfits⟩ := h.exists_ofFn_cons
  refine .of_ofFn_cons hr hfits (components_ofFn g hks) fun i => ?_
  rw [hr, atPoint_ofFn_cons hfits, components_ofFn _ hks]

theorem slice {t : Tensor α} {n : Nat} {inner : Axes} (h : t.Batched (n :: inner) bs)
    (start stop : Nat) :
    Pointwise ((min stop n - start) :: inner) (t.slice start stop) fun i : Index bs =>
      (t.atPoint (inner.length + 1) i).slice start stop := by
  obtain ⟨r, ns, g, rfl, hr, rfl, hfits⟩ := h.exists_ofFn_cons
  refine .of_ofFn_cons hr hfits (slice_ofFn start stop g) fun i => ?_
  rw [hr, atPoint_ofFn_cons hfits, slice_ofFn]

theorem zipWith {s : Tensor α} {t : Tensor β} {a b c : Axes} (hs : s.Batched a bs)
    (ht : t.Batched b bs) (hlength : b.length = a.length) (hc : broadcastAxes a b = some c)
    (f : α → β → γ) :
    Pointwise c (s.zipWith f t) fun i : Index bs =>
      (s.atPoint a.length i).zipWith f (t.atPoint b.length i) := by
  obtain ⟨r, sAxes, g, rfl, hr, rfl, hsFits⟩ := hs.exists_ofFn
  obtain ⟨_, tAxes, k, rfl, rfl, hb, htFits⟩ := ht.exists_ofFn
  rw [hlength, hr] at hb htFits ⊢
  subst hb
  obtain ⟨d, hd, hdFits⟩ := broadcastAxes_of_fits hsFits htFits
  have hrs : r ≤ sAxes.length := by rw [← hr]; exact List.length_take_le' r sAxes
  have hrt : r ≤ tAxes.length := by rw [← hr, ← hlength]; exact List.length_take_le' r tAxes
  obtain ⟨e, he, rfl, rfl, hlen⟩ := broadcastAxes_of_take_drop hrs hrt hc hd
  refine .of_ofFn hlen hdFits (zipWith_ofFn he f g k) fun i => ?_
  rw [atPoint_ofFn hsFits, atPoint_ofFn htFits, zipWith_ofFn hc]
  simp only [Index.clip_join, Index.clip_clip]

theorem zipWith3 {s : Tensor α} {t : Tensor β} {u : Tensor γ} {a b c ab abc : Axes}
    (hs : s.Batched a bs) (ht : t.Batched b bs) (hu : u.Batched c bs)
    (hb : b.length = a.length) (hc : c.length = ab.length) (hab : broadcastAxes a b = some ab)
    (habc : broadcastAxes ab c = some abc) (f : α → β → γ → δ) :
    Pointwise abc (Tensor.zipWith3 f s t u) fun i : Index bs =>
      Tensor.zipWith3 f (s.atPoint a.length i) (t.atPoint b.length i) (u.atPoint c.length i) :=
  (hs.zipWith ht hb hab f).bind fun _ hv => hv.zipWith hu hc habc _

theorem zipWith4 {s : Tensor α} {t : Tensor β} {u : Tensor γ} {v : Tensor δ}
    (hs : s.Batched [] bs) (ht : t.Batched [] bs) (hu : u.Batched [] bs) (hv : v.Batched [] bs)
    (f : α → β → γ → δ → ε) :
    Pointwise [] (Tensor.zipWith4 f s t u v) fun i : Index bs =>
      Tensor.zipWith4 f (s.atPoint 0 i) (t.atPoint 0 i) (u.atPoint 0 i) (v.atPoint 0 i) :=
  (hs.zipWith3 ht hu rfl rfl rfl rfl f).bind fun _ hw => hw.zipWith hv rfl rfl _

theorem zipWith5 {s : Tensor α} {t : Tensor β} {u : Tensor γ} {v : Tensor δ} {w : Tensor ε}
    (hs : s.Batched [] bs) (ht : t.Batched [] bs) (hu : u.Batched [] bs) (hv : v.Batched [] bs)
    (hw : w.Batched [] bs) (f : α → β → γ → δ → ε → ζ) :
    Pointwise [] (Tensor.zipWith5 f s t u v w) fun i : Index bs =>
      Tensor.zipWith5 f (s.atPoint 0 i) (t.atPoint 0 i) (u.atPoint 0 i) (v.atPoint 0 i)
        (w.atPoint 0 i) :=
  (hs.zipWith4 ht hu hv f).bind fun _ hx => hx.zipWith hw rfl rfl _

theorem entry {t : Tensor α} (h : t.Batched [2, 2] bs) {row column : Nat} (hrow : row < 2)
    (hcolumn : column < 2) :
    Pointwise [] (t.entry row column) fun i : Index bs => (t.atPoint 2 i).entry row column :=
  (h.component hcolumn).bind fun _ hrows => hrows.component hrow

theorem norm [Scalar α] {t : Tensor α} {n : Nat} {inner : Axes} (h : t.Batched (n :: inner) bs) :
    Pointwise inner t.norm fun i : Index bs => (t.atPoint (inner.length + 1) i).norm := by
  refine ⟨t.foldInner Scalar.norm, ?_, h.foldInner _, fun i => ?_⟩
  · obtain ⟨r, ns, g, rfl, hr, rfl, hfits⟩ := h.exists_ofFn_cons
    rfl
  · rw [h.atPoint_foldInner]
    obtain ⟨r, ns, g, rfl, hr, rfl, hfits⟩ := h.exists_ofFn_cons
    beta_reduce
    rw [hr, atPoint_ofFn_cons hfits]
    rfl

theorem dot [Scalar α] {s t : Tensor α} {n : Nat} {inner : Axes}
    (hs : s.Batched (n :: inner) bs) (ht : t.Batched (n :: inner) bs)
    (h : broadcastAxes (n :: inner) (n :: inner) = some (n :: inner)) :
    Pointwise inner (s.dot t) fun i : Index bs =>
      (s.atPoint (inner.length + 1) i).dot (t.atPoint (inner.length + 1) i) := by
  refine (hs.zipWith ht rfl h Scalar.mul).bind fun u hu => ?_
  refine ⟨u.sum, rfl, hu.foldInner _, fun i => ?_⟩
  exact congrArg Except.ok (hu.atPoint_foldInner Scalar.sum i).symm

/-! ## Numbers put together -/

theorem fits {t : Tensor α} (h : t.Batched [] bs) : Fits t.axes bs := h.2

/-- Arrays of numbers over one batch have common axes. -/
theorem commonAxes {parts : List (Tensor α)} (h : ∀ t ∈ parts, t.Batched [] bs) :
    ∃ axes, Tensor.commonAxes parts = some axes ∧ Fits axes bs ∧ ∀ t ∈ parts, Fits t.axes axes := by
  induction parts with
  | nil => exact ⟨[], rfl, trivial, by simp⟩
  | cons t ts ih =>
    obtain ⟨rest, hrest, hfits, hall⟩ := ih fun u hu => h u (List.mem_cons_of_mem t hu)
    obtain ⟨axes, haxes, haxesFits⟩ :=
      broadcastAxes_of_fits (h t List.mem_cons_self).fits hfits
    have hboth := fits_of_broadcastAxes haxes
    refine ⟨axes, by rw [Tensor.commonAxes, hrest]; exact haxes, haxesFits, fun u hu => ?_⟩
    rcases List.mem_cons.mp hu with rfl | hu
    · exact hboth.1
    · exact (hall u hu).trans hboth.2

theorem atPoint_eq_scalar {t : Tensor α} (h : t.Batched [] bs) (i : Index bs) :
    t.atPoint 0 i = scalar (t.get (i.clip h.fits)) :=
  dif_pos h.fits

theorem stack {parts : List (Tensor α)} (h : ∀ t ∈ parts, t.Batched [] bs) :
    Pointwise [parts.length] (Tensor.stack parts) fun i : Index bs =>
      Tensor.stack (parts.map fun t => t.atPoint 0 i) := by
  obtain ⟨axes, haxes, hfits, hall⟩ := commonAxes h
  have hparts : ∀ c, Fits (parts.get c).axes axes := fun c => hall _ (List.get_mem parts c)
  refine @Pointwise.of_ofFn_cons _ _ parts.length 0 axes _ _
    (fun k => (parts.get k.1).get (k.2.clip (hparts k.1))) rfl hfits ?_ fun i => ?_
  · rw [Tensor.stack, haxes]
    exact dif_pos hparts
  · -- at one index all parts are numbers, so that they are stacked without stretching
    obtain ⟨single, hsingle⟩ : ∃ single, single = parts.map fun t => t.atPoint 0 i := ⟨_, rfl⟩
    have hlength : single.length = parts.length := by rw [hsingle, List.length_map]
    have hget : ∀ c, single.get c =
        scalar ((parts.get (c.cast hlength)).get (i.clip (h _ (List.get_mem parts _)).fits)) := by
      subst hsingle
      intro c
      rw [← atPoint_eq_scalar (h _ (List.get_mem parts _))]
      exact List.getElem_map _
    have hnumbers : ∀ t ∈ single, t.Batched [] [] := by
      intro t ht
      obtain ⟨c, rfl⟩ := List.get_of_mem ht
      rw [hget]
      exact ⟨rfl, trivial⟩
    obtain ⟨none, hnone, hnoneFits, hfit⟩ := commonAxes hnumbers
    cases none with
    | cons n ns => exact hnoneFits.elim
    | nil =>
      rw [← hsingle, Tensor.stack, hnone]
      refine (dif_pos fun c => hfit _ (List.get_mem single c)).trans
        (congrArg Except.ok (ofFn_cons_congr hlength fun c j => ?_))
      refine (get_of_eq_scalar (hget c) _).trans ?_
      exact congrArg _ (Index.clip_clip _ hfits i).symm

theorem stackMatrix {a b c d : Tensor α} (ha : a.Batched [] bs) (hb : b.Batched [] bs)
    (hc : c.Batched [] bs) (hd : d.Batched [] bs) :
    Pointwise [2, 2] (Tensor.stackMatrix a b c d) fun i : Index bs =>
      Tensor.stackMatrix (a.atPoint 0 i) (b.atPoint 0 i) (c.atPoint 0 i) (d.atPoint 0 i) := by
  obtain ⟨axes, haxes, hfits, hall⟩ := @commonAxes _ bs [a, b, c, d] (by simp [ha, hb, hc, hd])
  have hparts : Fits a.axes axes ∧ Fits b.axes axes ∧ Fits c.axes axes ∧ Fits d.axes axes := by
    simpa using hall
  refine ⟨_, stackMatrix_eq_ok haxes hparts, ⟨rfl, hfits⟩, fun i => ?_⟩
  have hsingle := fun x y z w : α => @stackMatrix_eq_ok _ (scalar x) (scalar y) (scalar z)
    (scalar w) [] rfl ⟨trivial, trivial, trivial, trivial⟩
  have hclip : ∀ {t : Tensor α} (h : Fits t.axes axes),
      t.get ((i.clip hfits).clip h) = t.get (i.clip (h.trans hfits)) :=
    fun h => congrArg _ (Index.clip_clip h hfits i)
  beta_reduce
  rw [ha.atPoint_eq_scalar, hb.atPoint_eq_scalar, hc.atPoint_eq_scalar, hd.atPoint_eq_scalar,
    hsingle]
  refine congrArg Except.ok (Eq.trans ?_ (@atPoint_ofFn _ _ (2 :: 2 :: axes) 2 hfits _ i).symm)
  refine congrArg (ofFn [2, 2]) (funext fun k => ?_)
  show matrixEntry k.2.1 k.1 _ _ _ _ =
    matrixEntry k.2.1 k.1 (a.get ((i.clip hfits).clip hparts.1))
      (b.get ((i.clip hfits).clip hparts.2.1)) (c.get ((i.clip hfits).clip hparts.2.2.1))
      (d.get ((i.clip hfits).clip hparts.2.2.2))
  rw [hclip, hclip, hclip, hclip]
  simp only [get_of_eq_scalar rfl]

end Tensor.Batched

end SignedDistance
