/-!
# Axes and indices

An array has a list of axis lengths. The axes are listed innermost first: the components of a vector
are along the first axis, and two shapes are lined up at their innermost axes simply by starting
both lists together. An index has one coordinate per axis and is numbered so that the innermost
coordinate runs fastest.
-/

namespace SignedDistance

/-- Axis lengths, innermost first. -/
abbrev Axes := List Nat

/-- The number of entries of an array. -/
def volume : Axes → Nat
  | [] => 1
  | n :: ns => n * volume ns

/-- A coordinate for each axis. -/
def Index : Axes → Type
  | [] => Unit
  | n :: ns => Fin n × Index ns

namespace Index

/-- The number of an index. -/
def flat : {axes : Axes} → Index axes → Fin (volume axes)
  | [], _ => ⟨0, Nat.one_pos⟩
  | n :: ns, (i, is) =>
    ⟨i.val + n * (flat is).val, by
      have hi := i.isLt
      have his := (flat is).isLt
      calc i.val + n * (flat is).val < n + n * (flat is).val := by omega
        _ = n * ((flat is).val + 1) := by rw [Nat.mul_succ, Nat.add_comm]
        _ ≤ n * volume ns := Nat.mul_le_mul_left n his⟩

/-- The index with a number. -/
def ofFlat : (axes : Axes) → Fin (volume axes) → Index axes
  | [], _ => ()
  | n :: ns, k =>
    have hn : 0 < n := Nat.pos_of_ne_zero fun h => by
      have := k.isLt
      simp [volume, h] at this
    (⟨k.val % n, Nat.mod_lt _ hn⟩,
      ofFlat ns ⟨k.val / n, Nat.div_lt_of_lt_mul k.isLt⟩)

/-- Numbering is undone by taking the index with that number. -/
theorem ofFlat_flat {axes : Axes} (i : Index axes) : ofFlat axes i.flat = i := by
  induction axes with
  | nil => rfl
  | cons n ns ih =>
    obtain ⟨i, is⟩ := i
    have hi := i.isLt
    refine Prod.ext (Fin.ext ?_) ?_
    · show (i.val + n * is.flat.val) % n = i.val
      rw [Nat.add_mul_mod_self_left, Nat.mod_eq_of_lt hi]
    · have hdiv : (i.val + n * is.flat.val) / n = is.flat.val := by
        rw [Nat.add_mul_div_left _ _ (by omega), Nat.div_eq_of_lt hi, Nat.zero_add]
      calc ofFlat ns ⟨(i.val + n * is.flat.val) / n, _⟩
          = ofFlat ns is.flat := congrArg (ofFlat ns) (Fin.ext hdiv)
        _ = is := ih is

end Index

end SignedDistance
