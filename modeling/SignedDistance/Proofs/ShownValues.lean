import Mathlib
import SignedDistance.Scene.Error
import SignedDistance.Proofs.Doubles

/-!
# Which values can be shown

A value has parts: the items of a list, the values of a record, and whatever a scene is made of. It
can be shown exactly if none of the integers in it has too many digits (`Datum.isSome_shown?_iff`),
and an integer that a double is nearest to never has too many. So it depends on the value at fault
whether a defect has a wording (`Defect.reason?_eq_none_iff`).
-/

namespace SignedDistance

/-- The values that a scene is made of. -/
def Scene.parts : Scene → List Datum
  | .primitive _ args => args
  | .constant _ => []
  | .annotate note child => [note, .scene child]
  | .translate offset child => [offset, .scene child]
  | .adjust _ written _ child => [written, .scene child]
  | .combine _ left right => [.scene left, .scene right]
  | .blend _ left right radius => [.scene left, .scene right, .scene radius]
  | .unknown _ operands => operands

/-- The values that a value is made of. -/
def Datum.parts : Datum → List Datum
  | .list items => items
  | .record fields => fields.map (·.2)
  | .scene s => s.parts
  | _ => []

/-- An integer stands somewhere in a value. -/
inductive Datum.HasInteger (n : Int) : Datum → Prop where
  | here : HasInteger n (.int n)
  | part {d part : Datum} (hmem : part ∈ d.parts) (h : HasInteger n part) : HasInteger n d

theorem Scene.sizeOf_lt_of_mem_parts {s : Scene} {part : Datum} (h : part ∈ s.parts) :
    sizeOf part < 1 + sizeOf s := by
  cases s with
  | primitive name args =>
    have hlt : sizeOf part < sizeOf args := List.sizeOf_lt_of_mem h
    simp only [Scene.primitive.sizeOf_spec]
    omega
  | unknown name operands =>
    have hlt : sizeOf part < sizeOf operands := List.sizeOf_lt_of_mem h
    simp only [Scene.unknown.sizeOf_spec]
    omega
  | constant text => cases h
  | _ =>
    simp only [parts, List.mem_cons, List.not_mem_nil, or_false] at h
    rcases h with rfl | rfl | rfl <;> simp <;> omega

theorem Datum.sizeOf_lt_of_mem_parts {d part : Datum} (h : part ∈ d.parts) :
    sizeOf part < sizeOf d := by
  cases d with
  | list items =>
    have hlt : sizeOf part < sizeOf items := List.sizeOf_lt_of_mem h
    simp only [Datum.list.sizeOf_spec]
    omega
  | record fields =>
    obtain ⟨⟨name, value⟩, hmem, rfl⟩ := List.mem_map.mp h
    have hlt := List.sizeOf_lt_of_mem hmem
    simp only [Prod.mk.sizeOf_spec, Datum.record.sizeOf_spec] at hlt ⊢
    omega
  | scene s =>
    simp only [Datum.scene.sizeOf_spec]
    exact Scene.sizeOf_lt_of_mem_parts h
  | _ => cases h

/-! ## Showing the parts -/

theorem isSome_integerText?_iff (n : Int) :
    (Numeral.integerText? n).isSome ↔ n.natAbs < 10 ^ Numeral.maxIntegerDigits := by
  rw [Numeral.integerText?, pow10_eq]
  split <;> simp_all

theorem Datum.isSome_shownItems?_iff (items : List Datum) :
    (Datum.shownItems? items).isSome ↔ ∀ d ∈ items, d.shown?.isSome := by
  induction items with
  | nil => simp [Datum.shownItems?]
  | cons d items ih =>
    rw [Datum.shownItems?, List.forall_mem_cons, ← ih]
    cases d.shown? <;> cases Datum.shownItems? items <;> simp

theorem Datum.isSome_shownFields?_iff (fields : List (String × Datum)) :
    (Datum.shownFields? fields).isSome ↔ ∀ d ∈ fields.map (·.2), d.shown?.isSome := by
  induction fields with
  | nil => simp [Datum.shownFields?]
  | cons field fields ih =>
    obtain ⟨name, d⟩ := field
    rw [Datum.shownFields?, List.map_cons, List.forall_mem_cons, ← ih]
    cases d.shown? <;> cases Datum.shownFields? fields <;> simp

theorem Scene.isSome_shown?_iff_parts (s : Scene) :
    s.shown?.isSome ↔ ∀ part ∈ s.parts, part.shown?.isSome := by
  cases s with
  | primitive name args =>
    rw [Scene.shown?, parts, ← Datum.isSome_shownItems?_iff]
    cases Datum.shownItems? args <;> simp
  | unknown name operands =>
    rw [Scene.shown?, parts, ← Datum.isSome_shownItems?_iff]
    cases Datum.shownItems? operands <;> simp
  | constant text => simp [Scene.shown?, parts]
  | annotate note child =>
    simp only [Scene.shown?, parts, List.forall_mem_cons, Datum.shown?]
    cases note.shown? <;> cases child.shown? <;> simp
  | translate offset child =>
    simp only [Scene.shown?, parts, List.forall_mem_cons, Datum.shown?]
    cases offset.shown? <;> cases child.shown? <;> simp
  | adjust kind written amount child =>
    simp only [Scene.shown?, parts, List.forall_mem_cons, Datum.shown?]
    cases written.shown? <;> cases child.shown? <;> simp
  | combine op left right =>
    simp only [Scene.shown?, parts, List.forall_mem_cons, Datum.shown?]
    cases left.shown? <;> cases right.shown? <;> simp
  | blend op left right radius =>
    simp only [Scene.shown?, parts, List.forall_mem_cons, Datum.shown?]
    cases left.shown? <;> cases right.shown? <;> cases radius.shown? <;> simp

/-- A value can be shown if its parts can and it is no integer with too many digits. -/
theorem Datum.isSome_shown?_iff_parts (d : Datum) :
    d.shown?.isSome ↔ (∀ n, d = .int n → n.natAbs < 10 ^ Numeral.maxIntegerDigits) ∧
      ∀ part ∈ d.parts, part.shown?.isSome := by
  cases d with
  | int n => simp [Datum.shown?, parts, isSome_integerText?_iff]
  | list items =>
    rw [Datum.shown?, parts, ← Datum.isSome_shownItems?_iff]
    cases Datum.shownItems? items <;> simp
  | record fields =>
    rw [Datum.shown?, parts, ← Datum.isSome_shownFields?_iff]
    cases Datum.shownFields? fields <;> simp
  | scene s => simp [Datum.shown?, parts, Scene.isSome_shown?_iff_parts]
  | _ => simp [Datum.shown?, parts]

/-- A value can be shown exactly if none of the integers in it has too many digits. -/
theorem Datum.isSome_shown?_iff (d : Datum) :
    d.shown?.isSome ↔ ∀ n, d.HasInteger n → n.natAbs < 10 ^ Numeral.maxIntegerDigits := by
  rw [Datum.isSome_shown?_iff_parts]
  have hparts : ∀ part ∈ d.parts, (part.shown?.isSome ↔
      ∀ n, part.HasInteger n → n.natAbs < 10 ^ Numeral.maxIntegerDigits) := fun part hmem =>
    have := Datum.sizeOf_lt_of_mem_parts hmem
    Datum.isSome_shown?_iff part
  constructor
  · rintro ⟨hhere, hshown⟩ n hn
    cases hn with
    | here => exact hhere n rfl
    | part hmem h => exact (hparts _ hmem).mp (hshown _ hmem) n h
  · intro h
    refine ⟨?_, fun part hmem => (hparts part hmem).mpr fun n hn => h n (.part hmem hn)⟩
    rintro n rfl
    exact h n .here
termination_by sizeOf d

/-! ## Integers within the range of doubles -/

theorem Double.isFinite_infinity (negative : Bool) : (infinity negative).isFinite = false := by
  cases negative <;> decide

/-- An integer that is not beyond the largest double has few digits. -/
theorem natAbs_lt_of_ofInt? {n : Int} (h : Double.ofInt? n ≠ none) :
    n.natAbs < 10 ^ Numeral.maxIntegerDigits := by
  have hfinite : (Double.ofRatio (n < 0) n.natAbs 1).isFinite = true := by
    by_contra hfinite
    exact h (if_neg hfinite)
  have hlog : n.natAbs.log2 ≤ 1024 := by
    by_contra hlog
    refine absurd hfinite ?_
    have hne : n.natAbs ≠ 0 := by
      rintro hzero
      simp [hzero] at hlog
    have hbinade : 971 < max (-1074) (Double.binade n.natAbs 1) := by
      have hone : (1 : Nat).log2 = 0 := by decide
      simp only [Double.binade, hone]
      split <;> omega
    rw [Double.ofRatio, if_neg hne]
    simp only [hbinade, ↓reduceIte, Double.isFinite_infinity, Bool.false_eq_true, not_false_eq_true]
  calc n.natAbs
    _ < 2 ^ (n.natAbs.log2 + 1) := Nat.lt_log2_self
    _ ≤ 10 ^ (n.natAbs.log2 + 1) := Nat.pow_le_pow_left (by decide) _
    _ ≤ 10 ^ Numeral.maxIntegerDigits :=
      Nat.pow_le_pow_right (by decide) (by rw [Numeral.maxIntegerDigits]; omega)

/-- A value whose integers are not beyond the largest double can be shown. -/
theorem Datum.isSome_shown?_of_ofInt? {d : Datum}
    (h : ∀ n, d.HasInteger n → Double.ofInt? n ≠ none) : d.shown?.isSome :=
  (Datum.isSome_shown?_iff d).mpr fun n hn => natAbs_lt_of_ofInt? (h n hn)

/-! ## Defects and the values they show -/

/-- The value that the wording of a defect shows. -/
def Defect.got? : Defect → Option Datum
  | notRecord got => some got
  | badOperator got => some got
  | badLiteral _ got => some got
  | notNumeric _ got => some got
  | notScene got => some got
  | _ => none

theorem Defect.isSome_reason?_iff (defect : Defect) :
    defect.reason?.isSome ↔ ∀ got, defect.got? = some got → got.shown?.isSome := by
  cases defect <;> simp [reason?, got?]

/-- A defect has no wording exactly if it shows a value with an integer with too many digits. -/
theorem Defect.reason?_eq_none_iff (defect : Defect) :
    defect.reason? = none ↔ ∃ got n, defect.got? = some got ∧ got.HasInteger n ∧
      10 ^ Numeral.maxIntegerDigits ≤ n.natAbs := by
  have hsome := defect.isSome_reason?_iff
  simp only [Datum.isSome_shown?_iff] at hsome
  rw [← Option.not_isSome_iff_eq_none, hsome]
  push Not
  constructor
  · rintro ⟨got, hgot, n, hn, hlarge⟩
    exact ⟨got, n, hgot, hn, hlarge⟩
  · rintro ⟨got, n, hgot, hn, hlarge⟩
    exact ⟨got, hgot, n, hn, hlarge⟩

end SignedDistance
