import Mathlib
import SignedDistance.Proofs.BoundCoordinates

/-!
# Transforms move shapes

A transform hands its child a point that was moved back, so the shape itself is moved: over a field
that is computed with exactly, a moved scene has at a moved point what its child has at the point
(`evaluate_moved`). Scaling also scales the distance. Nothing is asked of what the child evaluates
to, which may be a vector, a matrix or an error as well.
-/

namespace SignedDistance

open Tensor

/-! ## A number times a value -/

section Products

variable {α β γ : Type}

theorem broadcastAxes_replicate {rank : Nat} {axes : Axes} (h : rank ≤ axes.length) :
    broadcastAxes (List.replicate rank 1) axes = some axes := by
  induction rank generalizing axes with
  | zero => rfl
  | succ rank ih =>
    cases axes with
    | nil => cases h
    | cons m ms =>
      have hrest := ih (Nat.le_of_succ_le_succ h)
      rw [List.replicate_succ, broadcastAxes, hrest]
      by_cases hm : m = 1
      · subst hm
        rfl
      · rw [if_neg (by omega), if_pos rfl]
        rfl

/-- A single number is stretched along any axes. -/
theorem Tensor.zipWith_replicate (f : α → β → γ) (a : α) {rank : Nat} {t : Tensor β}
    (h : rank ≤ t.axes.length) :
    (ofFn (List.replicate rank 1) fun _ => a).zipWith f t = .ok (t.map (f a)) := by
  have hzip := zipWith_ofFn (broadcastAxes_replicate h) f (fun _ => a) t.get
  rw [ofFn_get] at hzip
  rw [hzip, Tensor.map]
  simp only [Index.clip_self]

variable [Scalar α]

theorem Value.binary_number_mul (a : α) {v : Value α} (h : v.FitsKind) :
    binary .mul (number a) v = .ok ⟨v.kind, v.data.map (Scalar.mul a)⟩ := by
  obtain ⟨k, t⟩ := v
  have hexpand : (scalar a).expand = ofFn [1] fun _ => a := expand_ofFn _
  have hexpand' : (scalar a).expand.expand = ofFn [1, 1] fun _ => a := by
    rw [hexpand, expand_ofFn]
  cases k with
  | float =>
    have hzip : (scalar a).zipWith Scalar.mul t = .ok (t.map (Scalar.mul a)) :=
      @zipWith_replicate _ _ _ Scalar.mul a 0 t (Nat.zero_le _)
    have hunify : unify [number a, ⟨.float, t⟩] = .ok (.float, [scalar a, t]) := rfl
    have hcombine : binary .mul (number a) ⟨.float, t⟩ = combine .mul (number a) ⟨.float, t⟩ := rfl
    rw [hcombine, combine, hunify]
    simp only [ok_bind, Operator.meaning?, hzip]
    rfl
  | vec n =>
    have hrank : [n].length ≤ t.axes.length := h.axes.length_le
    have hzip : (scalar a).expand.zipWith Scalar.mul t = .ok (t.map (Scalar.mul a)) := by
      rw [hexpand]
      exact zipWith_replicate Scalar.mul a hrank
    show (ofShaped ((scalar a).expand.zipWith Scalar.mul t) >>= _) = _
    rw [hzip]
    rfl
  | mat2 =>
    have hrank : [2, 2].length ≤ t.axes.length := h.axes.length_le
    have hzip : (scalar a).expand.expand.zipWith Scalar.mul t = .ok (t.map (Scalar.mul a)) := by
      rw [hexpand']
      exact zipWith_replicate Scalar.mul a hrank
    show (ofShaped ((scalar a).expand.expand.zipWith Scalar.mul t) >>= _) = _
    rw [hzip]
    rfl

end Products

/-! ## Expressions without names -/

section Closed

variable {α : Type} [Scalar α] {library : Library α}

theorem Expr.ne_name_of_evalWith {here : Evaluated (Value α)}
    {literal : String → Evaluated (Value α)} {e : Expr} {v : Value α}
    (h : e.evalWith library [] here literal = .ok v) (ident : String) :
    ∀ n ∈ e.walk, n ≠ .name ident := by
  induction e generalizing v with
  | name other => cases h
  | call fn args ih =>
    rw [evalWith] at h
    obtain ⟨vs, hvs, -⟩ := bind_eq_ok_iff.mp h
    refine forall_walk_call.mpr ⟨by simp, fun a ha => ?_⟩
    obtain ⟨u, hu⟩ := exists_evalWith_of_mem hvs ha
    exact ih a ha hu
  | binary op lhs rhs ihl ihr =>
    rw [evalWith] at h
    obtain ⟨a, ha, h⟩ := bind_eq_ok_iff.mp h
    obtain ⟨b, hb, -⟩ := bind_eq_ok_iff.mp h
    exact forall_walk_binary.mpr ⟨by simp, ihl ha, ihr hb⟩
  | neg operand ih =>
    rw [evalWith] at h
    obtain ⟨a, ha, -⟩ := bind_eq_ok_iff.mp h
    exact forall_walk_neg.mpr ⟨by simp, ih ha⟩
  | swizzle operand fields ih =>
    rw [evalWith] at h
    obtain ⟨a, ha, -⟩ := bind_eq_ok_iff.mp h
    exact forall_walk_swizzle.mpr ⟨by simp, ih ha⟩
  | _ => simp [walk]

/-- A text that has a value while no name has one mentions no name. -/
theorem name_notMem_walk_of_evalText {text : String} {v : Value α}
    (h : Expr.evalText library [] text = .ok v) {e : Expr} (hparse : parse text = .ok e)
    (ident : String) : Expr.name ident ∉ e.walk := by
  rw [Expr.evalText, hparse] at h
  exact fun hmem => Expr.ne_name_of_evalWith h ident _ hmem rfl

end Closed

/-! ## Moved scenes -/

section Moved

variable {K : Type} [Field K] [Scalar K] [ExactField K] {library : Library K} {s : Scene}

open ExactField

theorem meaning_rotate {written : Datum} {amount : String} {t : K}
    (ht : Expr.evalText library [] amount = .ok (.number t)) (x y : K) :
    (Scene.adjust .rotate written amount s).meaning library []
        (.ok (.pair (Scalar.cos t * x - Scalar.sin t * y) (Scalar.sin t * x + Scalar.cos t * y))) =
      s.meaning library [] (.ok (.pair x y)) := by
  have hone := cos_sq_add_sin_sq t
  have hx : Scalar.cos t * (Scalar.cos t * x - Scalar.sin t * y) +
      Scalar.sin t * (Scalar.sin t * x + Scalar.cos t * y) = x := by
    linear_combination x * hone
  have hy : -Scalar.sin t * (Scalar.cos t * x - Scalar.sin t * y) +
      Scalar.cos t * (Scalar.sin t * x + Scalar.cos t * y) = y := by
    linear_combination y * hone
  simp only [Scene.meaning, ht, ok_bind, inverseRotation_number, Value.square_mul_pair, hx, hy]

/-- An offset moves by a pair, or by a number that counts for both components. -/
def MovesBy (library : Library K) (offset : String) (dx dy : K) : Prop :=
  Expr.evalText library [] offset = .ok (.pair dx dy) ∨
    (Expr.evalText library [] offset = .ok (.number dx) ∧ dy = dx)

theorem meaning_translate {offset : String} {dx dy : K} (h : MovesBy library offset dx dy)
    (x y : K) :
    (Scene.translate (.text offset) s).meaning library [] (.ok (.pair (x + dx) (y + dy))) =
      s.meaning library [] (.ok (.pair x y)) := by
  rcases h with hoffset | ⟨hoffset, rfl⟩
  · simp only [Scene.meaning, Datum.value, hoffset, ok_bind, Value.pair_sub_pair,
      add_sub_cancel_right]
  · simp only [Scene.meaning, Datum.value, hoffset, ok_bind, Value.pair_sub_number,
      add_sub_cancel_right]

theorem meaning_scale (h : s.WellFormed) {written : Datum} {amount : String} {a : K}
    (ha : Expr.evalText library [] amount = .ok (.number a)) (hzero : a ≠ 0) (x y : K) :
    (Scene.adjust .scale written amount s).meaning library [] (.ok (.pair (a * x) (a * y))) =
      (s.meaning library [] (.ok (.pair x y))).map
        fun v => ⟨v.kind, v.data.map (a * ·)⟩ := by
  have hmul : Scalar.mul a = (a * · : K → K) := funext (mul_eq a)
  simp only [Scene.meaning, ha, ok_bind, Value.pair_div_number, mul_div_cancel_left₀ _ hzero]
  cases hmeaning : s.meaning library [] (.ok (.pair x y)) with
  | error e => rfl
  | ok v =>
    have heval := (h.evalAt_expr (.ok (.pair x y))).trans hmeaning
    rw [ok_bind, Value.binary_number_mul a (fitsKind_evalAt_pair heval), hmul]
    rfl

omit [Field K] [ExactField K] in
variable (library) in
/-- A scene built around another one can be compiled if the other one can, and both evaluate to
their meanings. -/
theorem Scene.WellFormed.exists_around {moved : Scene} (h : s.WellFormed)
    (hmoved : moved.WellFormed) (hunknown : moved.firstUnknown? = s.firstUnknown?)
    {coordinate : String} (hcoordinate : ¬ s.Mentions coordinate)
    (hcoordinate' : ¬ moved.Mentions coordinate) {policy : Policy} {c : Compiled}
    (hc : s.CompilesTo policy c) :
    ∃ c', moved.CompilesTo policy c' ∧ ∀ x y : K,
      c.evaluate library (point x y) coordinate =
        (s.meaning library [] (.ok (.pair x y))).map (·.data) ∧
      c'.evaluate library (point x y) coordinate =
        (moved.meaning library [] (.ok (.pair x y))).map (·.data) := by
  obtain ⟨c', hc', hexpr'⟩ := hmoved.exists_compilesTo policy fun hpolicy =>
    hunknown.trans (hc.firstUnknown? h hpolicy)
  exact ⟨c', hc', fun x y => ⟨h.evaluate_of_not_mentions library hcoordinate (hc.expr h) rfl,
    hmoved.evaluate_of_not_mentions library hcoordinate' hexpr' rfl⟩⟩

/-- Transforms move shapes the right way: what a scene has at a point, the turned scene has at the
turned point, the translated scene at the translated point, and the scaled scene, scaled, at the
scaled point. -/
theorem evaluate_moved (library : Library K) (h : s.WellFormed) {coordinate : String}
    (hcoordinate : ¬ s.Mentions coordinate) :
    (∃ c, s.CompilesTo .defer c) ∧
    ∀ (policy : Policy) (c : Compiled), s.CompilesTo policy c →
      (∀ (written : Datum) (amount : String), written.scalarText = .ok amount →
        ∃ t c', Expr.evalText library [] amount = .ok (.number t) ∧
          (Scene.adjust .rotate written amount s).CompilesTo policy c' ∧
          ∀ x y, c'.evaluate library (point (Scalar.cos t * x - Scalar.sin t * y)
              (Scalar.sin t * x + Scalar.cos t * y)) coordinate =
            c.evaluate library (point x y) coordinate) ∧
      (∀ (offset : String) (dx dy : K), MovesBy library offset dx dy →
        ∃ c', (Scene.translate (.text offset) s).CompilesTo policy c' ∧
          ∀ x y, c'.evaluate library (point (x + dx) (y + dy)) coordinate =
            c.evaluate library (point x y) coordinate) ∧
      (∀ (written : Datum) (amount : String), written.scalarText = .ok amount →
        ∃ a c', Expr.evalText library [] amount = .ok (.number a) ∧
          (Scene.adjust .scale written amount s).CompilesTo policy c' ∧
          (a ≠ 0 → ∀ x y, c'.evaluate library (point (a * x) (a * y)) coordinate =
            (c.evaluate library (point x y) coordinate).map (Tensor.map (a * ·)))) := by
  constructor
  · obtain ⟨c, hc, -⟩ := h.exists_compilesTo .defer (by simp)
    exact ⟨c, hc⟩
  intro policy c hc
  refine ⟨fun written amount hamount => ?_, fun offset dx dy hoffset => ?_,
    fun written amount hamount => ?_⟩
  · obtain ⟨t, ht⟩ := exists_amount library [] hamount
    obtain ⟨c', hc', heval⟩ := h.exists_around library (.adjust .rotate hamount h)
      (by simp) hcoordinate (by simpa using hcoordinate) hc
    refine ⟨t, c', ht, hc', fun x y => ?_⟩
    rw [(heval _ _).2, (heval x y).1, meaning_rotate ht]
  · have hclosed : ∀ e, parse offset = .ok e → Expr.name coordinate ∉ e.walk := by
      intro e hparse
      rcases hoffset with hvalue | ⟨hvalue, -⟩
      · exact name_notMem_walk_of_evalText hvalue hparse coordinate
      · exact name_notMem_walk_of_evalText hvalue hparse coordinate
    have hmentions : ¬ (Scene.translate (.text offset) s).Mentions coordinate := by
      rw [Scene.mentions_translate]
      rintro (⟨e, hparse, hmem⟩ | hmem)
      · exact hclosed e hparse hmem
      · exact hcoordinate hmem
    obtain ⟨c', hc', heval⟩ := h.exists_around library (.translate offset h)
      (by simp) hcoordinate hmentions hc
    refine ⟨c', hc', fun x y => ?_⟩
    rw [(heval _ _).2, (heval x y).1, meaning_translate hoffset]
  · obtain ⟨a, ha⟩ := exists_amount library [] hamount
    obtain ⟨c', hc', heval⟩ := h.exists_around library (.adjust .scale hamount h)
      (by simp) hcoordinate (by simpa using hcoordinate) hc
    refine ⟨a, c', ha, hc', fun hzero x y => ?_⟩
    rw [(heval _ _).2, (heval x y).1, meaning_scale h ha hzero]
    cases s.meaning library [] (.ok (.pair x y)) <;> rfl

end Moved

/-- A unit circle, turned, moved along the diagonal and halved. -/
theorem evaluate_moved_circle :
    ∃ c t turned moved halved,
      (Scene.primitive "circle" [.text "1.0"]).CompilesTo .defer c ∧
      ((Scene.adjust .rotate (.int 30) "30.000"
          (.primitive "circle" [.text "1.0"])).CompilesTo .defer turned ∧
        turned.evaluate Library.standard (point (Real.cos t * 3 - Real.sin t * 4)
            (Real.sin t * 3 + Real.cos t * 4)) "p" =
          c.evaluate Library.standard (point (3 : ℝ) 4) "p") ∧
      ((Scene.translate (.text "0.5")
          (.primitive "circle" [.text "1.0"])).CompilesTo .defer moved ∧
        moved.evaluate Library.standard (point (3 + 1 / 2) (4 + 1 / 2)) "p" =
          c.evaluate Library.standard (point (3 : ℝ) 4) "p") ∧
      ((Scene.adjust .scale (.text "0.5") "0.500"
          (.primitive "circle" [.text "1.0"])).CompilesTo .defer halved ∧
        halved.evaluate Library.standard (point (1 / 2 * 3) (1 / 2 * 4)) "p" =
          (c.evaluate Library.standard (point (3 : ℝ) 4) "p").map (Tensor.map (1 / 2 * ·))) := by
  have hparse : parse "1.0" = .ok (.number "1.0") := by cbv
  have hmentions : ¬ (Scene.primitive "circle" [.text "1.0"]).Mentions "p" := by
    simp [Scene.Mentions, Scene.walk, Datum.ownLiterals, hparse, Expr.walk]
  have hangle : (Datum.int 30).scalarText = .ok "30.000" := eq_ok_of_toOption (by decide +kernel)
  have hfactor : (Datum.text "0.5").scalarText = .ok "0.500" :=
    eq_ok_of_toOption (by decide +kernel)
  have hoffset : Expr.evalText (Library.standard : Library ℝ) [] "0.5" =
      .ok (.number (1 / 2)) := by
    rw [@evalText_decimal ℝ _ _ _ _ _ "0.5" 5 (-1) (by cbv) (by cbv)]
    norm_num
  have hhalf : Expr.evalText (Library.standard : Library ℝ) [] "0.500" =
      .ok (.number (1 / 2)) := by
    rw [@evalText_decimal ℝ _ _ _ _ _ "0.500" 500 (-3) (by cbv) (by cbv)]
    norm_num
  obtain ⟨⟨c, hc⟩, hmoved⟩ :=
    evaluate_moved (Library.standard : Library ℝ) (.primitive "circle" ["1.0"]) hmentions
  obtain ⟨hrotate, htranslate, hscale⟩ := hmoved .defer c hc
  obtain ⟨t, turned, -, hturned, hturn⟩ := hrotate _ _ hangle
  obtain ⟨moved, hmoved, hmove⟩ := htranslate "0.5" _ _ (.inr ⟨hoffset, rfl⟩)
  obtain ⟨a, halved, ha, hhalved, hhalve⟩ := hscale _ _ hfactor
  obtain rfl : a = 1 / 2 :=
    scalar_inj (congrArg Value.data (Except.ok.inj (ha.symm.trans hhalf)))
  exact ⟨c, t, turned, moved, halved, hc, ⟨hturned, hturn 3 4⟩, ⟨hmoved, hmove 3 4⟩,
    ⟨hhalved, hhalve (by norm_num) 3 4⟩⟩

end SignedDistance
