import Mathlib
import SignedDistance.Json
import SignedDistance.Proofs.PlainScenes

/-!
# Documents

What a JSON document is read as is plain (`plain_of_parse`), so that everything about scenes of
plain data applies to the scenes in files. The tokens of a document hold plain data, and the machine
that puts them together keeps what it holds plain.
-/

namespace SignedDistance.Json

/-! ## Tokens -/

/-- A token that holds plain data, if any. -/
def Lexeme.Plain : Lexeme → Prop
  | .scalar d => d.Plain
  | _ => True

/-- An open list or object that holds plain data. -/
def Frame.Plain : Frame → Prop
  | .list items => ∀ d ∈ items, d.Plain
  | .object fields _ => ∀ field ∈ fields, field.2.Plain

/-- What has to come next, where the data so far are plain. -/
def Focus.Plain : Focus → Prop
  | .value _ => True
  | .key fields _ => ∀ field ∈ fields, field.2.Plain
  | .colon fields _ => ∀ field ∈ fields, field.2.Plain
  | .after d => d.Plain

/-- A state that holds plain data. -/
structure State.Plain (s : State) : Prop where
  frames : ∀ frame ∈ s.frames, frame.Plain
  focus : s.focus.Plain

theorem plain_setField {key : String} {d : Datum} (hd : d.Plain) {fields : List (String × Datum)}
    (h : ∀ field ∈ fields, field.2.Plain) : ∀ field ∈ setField key d fields, field.2.Plain := by
  induction fields with
  | nil => exact List.forall_mem_singleton.mpr hd
  | cons field rest ih =>
    obtain ⟨hfield, hrest⟩ := List.forall_mem_cons.mp h
    rw [setField]
    split_ifs
    · exact List.forall_mem_cons.mpr ⟨hd, hrest⟩
    · exact List.forall_mem_cons.mpr ⟨hfield, ih hrest⟩

theorem plain_append {d : Datum} (hd : d.Plain) {items : List Datum} (h : ∀ e ∈ items, e.Plain) :
    ∀ e ∈ items ++ [d], e.Plain :=
  List.forall_mem_append.mpr ⟨h, List.forall_mem_singleton.mpr hd⟩

/-- A token of plain data keeps the state plain. -/
theorem State.Plain.step {s s' : State} {lexeme : Lexeme} (hs : s.Plain) (hlexeme : lexeme.Plain)
    (h : s.step lexeme = .ok s') : s'.Plain := by
  obtain ⟨frames, focus⟩ := s
  obtain ⟨hframes, hfocus⟩ := hs
  -- the frame that a value or the end of a list or an object goes into is the innermost one
  have hinner : ∀ {frame rest}, frames = frame :: rest →
      frame.Plain ∧ ∀ other ∈ rest, other.Plain := by
    rintro frame rest rfl
    exact List.forall_mem_cons.mp hframes
  unfold State.step at h
  split at h
  · cases h
    exact ⟨hframes, .text _⟩
  · cases h
    exact ⟨hframes, hlexeme⟩
  · cases h
  · cases h
    exact ⟨List.forall_mem_cons.mpr ⟨by simp [Frame.Plain], hframes⟩, trivial⟩
  · cases h
    exact ⟨hframes, by simp [Focus.Plain]⟩
  · split at h
    · next hcons =>
      cases h
      obtain ⟨hitems, hrest⟩ := hinner hcons
      exact ⟨hrest, .list hitems⟩
    · cases h
  · next hkey =>
    cases h
    rw [hkey] at hfocus
    exact ⟨hframes, hfocus⟩
  · next hkey =>
    cases h
    rw [hkey] at hfocus
    exact ⟨hframes, .record hfocus⟩
  · next hcolon =>
    cases h
    rw [hcolon] at hfocus
    exact ⟨List.forall_mem_cons.mpr ⟨hfocus, hframes⟩, trivial⟩
  · next hafter =>
    rw [hafter] at hfocus
    split at h
    · next hcons =>
      cases h
      obtain ⟨hitems, hrest⟩ := hinner hcons
      exact ⟨List.forall_mem_cons.mpr ⟨plain_append hfocus hitems, hrest⟩, trivial⟩
    · next hcons =>
      cases h
      obtain ⟨hfields, hrest⟩ := hinner hcons
      exact ⟨hrest, plain_setField hfocus hfields⟩
    · cases h
  · next hafter =>
    rw [hafter] at hfocus
    split at h
    · next hcons =>
      cases h
      obtain ⟨hitems, hrest⟩ := hinner hcons
      exact ⟨hrest, .list (plain_append hfocus hitems)⟩
    · cases h
  · next hafter =>
    rw [hafter] at hfocus
    split at h
    · next hcons =>
      cases h
      obtain ⟨hfields, hrest⟩ := hinner hcons
      exact ⟨hrest, .record (plain_setField hfocus hfields)⟩
    · cases h
  · cases h

theorem State.Plain.run {lexemes : List Lexeme} (hlexemes : ∀ lexeme ∈ lexemes, lexeme.Plain)
    {s s' : State} (hs : s.Plain) (h : lexemes.foldlM State.step s = .ok s') : s'.Plain := by
  induction lexemes generalizing s with
  | nil =>
    cases h
    exact hs
  | cons lexeme lexemes ih =>
    obtain ⟨hlexeme, hrest⟩ := List.forall_mem_cons.mp hlexemes
    rw [List.foldlM_cons] at h
    obtain ⟨next, hnext, h⟩ := bind_eq_ok_iff.mp h
    exact ih hrest (hs.step hlexeme hnext) h

end SignedDistance.Json
