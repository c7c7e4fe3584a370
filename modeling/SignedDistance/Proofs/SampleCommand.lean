import Mathlib
import SignedDistance.Proofs.Reports

/-!
# How sampling a scene ends

The command that samples reads a scene, compiles it, makes a grid, evaluates the scene there and
writes the samples. It can fail in each of these stages, and what comes of it is said for each way
to fail (`SampleEnds`): it is reported, with an exit code and a text, or it is not. This completes
what can be said of failing evaluations (`evaluation_outcomes`).
-/

namespace SignedDistance

open Tensor CommandLine

/-! ## Grids -/

namespace CommandLine

variable {σ β γ : Type}

/-! ## Actions -/

/-- What an action comes to after some messages, with the files in a state: its result, the messages
and the state. -/
def Action.after (a : Action (StateM σ) β) (messages : List Message) (s : σ) :
    (Except Failure β × List Message) × σ :=
  (a.run.run messages).run s

/-- An action ends well with what is good, or it fails in an allowed way. -/
inductive Ends (Good : β → List Message → σ → Prop) (Allowed : Failure → List Message → σ → Prop) :
    (Except Failure β × List Message) × σ → Prop where
  | ok {b : β} {messages : List Message} {s : σ} (h : Good b messages s) :
      Ends Good Allowed ((.ok b, messages), s)
  | error {reason : Failure} {messages : List Message} {s : σ} (h : Allowed reason messages s) :
      Ends Good Allowed ((.error reason, messages), s)

theorem Ends.bind {Good : β → List Message → σ → Prop} {Next : γ → List Message → σ → Prop}
    {Allowed : Failure → List Message → σ → Prop} {a : Action (StateM σ) β}
    {f : β → Action (StateM σ) γ} {messages : List Message} {s : σ}
    (h : Ends Good Allowed (a.after messages s))
    (hf : ∀ b messages s, Good b messages s → Ends Next Allowed ((f b).after messages s)) :
    Ends Next Allowed (Action.after (a >>= f) messages s) := by
  have hbind : Action.after (a >>= f) messages s =
      ((ExceptT.bindCont f (a.after messages s).1.1).run (a.after messages s).1.2).run
        (a.after messages s).2 := rfl
  rw [hbind]
  generalize a.after messages s = reached at h ⊢
  cases h with
  | ok h => exact hf _ _ _ h
  | error h => exact .error h

section Sampling

variable (fs : FileSystem (StateM σ)) (settings : Settings) (args : SampleArgs) (rank : Nat) (s : σ)

/-- The file of the scene holds a value. -/
def Loads (d : Datum) (s₁ : σ) : Prop :=
  ∃ text, (fs.document args.scene).run s = (.ok text, s₁) ∧ Json.parse text = .ok d

/-- The value is that of a scene, which is compiled with some reports. -/
def Compiles (c : Compiled) (reports : List Diagnostic) (s₁ : σ) : Prop :=
  ∃ d, Loads fs args s d s₁ ∧ (compileScene d settings.unknownOperators).result = (.ok c, reports)

/-- The scene has distances on the grid. -/
def Samples (samples : Tensor Float) (reports : List Diagnostic) (s₁ : σ) : Prop :=
  ∃ c g, Compiles fs settings args s c reports s₁ ∧ args.grid = .ok g ∧
    c.sample Library.standard g = .ok samples

/-- The exit with an error, after the messages that are shown. -/
def errorExit (messages : List Message) (error : String) : Outcome :=
  .exit 1 "" (shownMessages rank messages ++ "error: " ++ error ++ "\n")

/-- How sampling ends, and in which state of the files. Of the ways to fail, most are reported. Not
reported are files that are not text, integers with too many digits, scenes that are refused for
other reasons than a defect at a place or an unknown operator, grids that are not well formed,
distances of misfits, and a missing output. -/
inductive SampleEnds : Outcome → σ → Prop where
  | done {samples : Tensor Float} {reports : List Diagnostic} {output : String} {s₁ s₂ : σ}
      (h : Samples fs settings args s samples reports s₁) (houtput : args.output = some output)
      (hstore : (fs.store output samples).run s₁ = (.ok (), s₂)) :
      SampleEnds (.exit 0 "" (shownMessages rank
        (compilerMessages reports ++ [args.startMessage, writtenMessage output samples]))) s₂
  | unreadable {fault : SystemFault} {path : Option String} {s₁ : σ}
      (h : (fs.document args.scene).run s = (.error (.system fault path), s₁)) :
      SampleEnds (errorExit rank [] (FileError.system fault path).message) s₁
  | notText {error : FileError} {s₁ : σ} (h : (fs.document args.scene).run s = (.error error, s₁))
      (hsystem : ∀ fault path, error ≠ .system fault path) :
      SampleEnds (.failure (.file error)) s₁
  | notWellFormed {text : String} {s₁ : σ}
      (htext : (fs.document args.scene).run s = (.ok text, s₁))
      (h : Json.parse text = .error .notWellFormed) :
      SampleEnds (errorExit rank [] "<invalid JSON>") s₁
  | tooManyDigits {text : String} {s₁ : σ}
      (htext : (fs.document args.scene).run s = (.ok text, s₁))
      (h : Json.parse text = .error .tooManyDigits) :
      SampleEnds (.failure (.json .tooManyDigits)) s₁
  | malformed {d : Datum} {path : Path} {defect : Defect} {reports : List Diagnostic} {s₁ : σ}
      (hd : Loads fs args s d s₁)
      (h : (compileScene d settings.unknownOperators).result =
        (.error (.scene (.malformed path defect)), reports)) :
      SampleEnds (errorExit rank (compilerMessages reports) (defect.messageAt path)) s₁
  | unknownOperator {d : Datum} {name : String} {reports : List Diagnostic} {s₁ : σ}
      (hd : Loads fs args s d s₁)
      (h : (compileScene d settings.unknownOperators).result =
        (.error (.unknownOperator name), reports)) :
      SampleEnds (errorExit rank (compilerMessages reports) (unknownOperatorMessage name)) s₁
  | refused {d : Datum} {error : CompileError} {reports : List Diagnostic} {s₁ : σ}
      (hd : Loads fs args s d s₁)
      (h : (compileScene d settings.unknownOperators).result = (.error error, reports))
      (hmalformed : ∀ path defect, error ≠ .scene (.malformed path defect))
      (hunknown : ∀ name, error ≠ .unknownOperator name) : SampleEnds (.failure (.compile error)) s₁
  | badGrid {c : Compiled} {reports : List Diagnostic} {error : GridError} {s₁ : σ}
      (hc : Compiles fs settings args s c reports s₁) (h : args.grid = .error error) :
      SampleEnds (.failure (.grid error)) s₁
  | noDistances {c : Compiled} {reports : List Diagnostic} {g : Grid Float} {error : EvalError}
      {s₁ : σ} (hc : Compiles fs settings args s c reports s₁) (hg : args.grid = .ok g)
      (h : c.sample Library.standard g = .error error) (hshape : ∀ fault, error ≠ .shape fault) :
      SampleEnds (errorExit rank (compilerMessages reports ++ [args.startMessage]) error.message) s₁
  | misfit {c : Compiled} {reports : List Diagnostic} {g : Grid Float} {fault : ShapeError}
      {s₁ : σ} (hc : Compiles fs settings args s c reports s₁) (hg : args.grid = .ok g)
      (h : c.sample Library.standard g = .error (.shape fault)) (hmisfit : c.IsMisfit g) :
      SampleEnds (.failure (.eval (.shape fault))) s₁
  | noOutput {samples : Tensor Float} {reports : List Diagnostic} {s₁ : σ}
      (h : Samples fs settings args s samples reports s₁) (houtput : args.output = none) :
      SampleEnds (.failure .noOutput) s₁
  | unwritable {samples : Tensor Float} {reports : List Diagnostic} {output : String}
      {fault : SystemFault} {path : Option String} {s₁ s₂ : σ}
      (h : Samples fs settings args s samples reports s₁) (houtput : args.output = some output)
      (hstore : (fs.store output samples).run s₁ = (.error (.system fault path), s₂)) :
      SampleEnds (errorExit rank (compilerMessages reports ++ [args.startMessage])
        (FileError.system fault path).message) s₂
  | badPath {samples : Tensor Float} {reports : List Diagnostic} {output : String}
      {error : FileError} {s₁ s₂ : σ} (h : Samples fs settings args s samples reports s₁)
      (houtput : args.output = some output)
      (hstore : (fs.store output samples).run s₁ = (.error error, s₂))
      (hsystem : ∀ fault path, error ≠ .system fault path) :
      SampleEnds (.failure (.file error)) s₂

variable {fs settings args rank s}

/-- A failure of a stage is how sampling ends. -/
abbrev Fails (fs : FileSystem (StateM σ)) (settings : Settings) (args : SampleArgs) (rank : Nat)
    (s : σ) (reason : Failure) (messages : List Message) (s' : σ) : Prop :=
  SampleEnds fs settings args rank s (outcome rank (.error reason) messages) s'

theorem Loads.unique {d d' : Datum} {s₁ s₁' : σ} (h : Loads fs args s d s₁)
    (h' : Loads fs args s d' s₁') : d' = d ∧ s₁' = s₁ := by
  obtain ⟨text, htext, hd⟩ := h
  obtain ⟨text', htext', hd'⟩ := h'
  cases htext.symm.trans htext'
  cases hd.symm.trans hd'
  exact ⟨rfl, rfl⟩

theorem Compiles.unique {c c' : Compiled} {reports reports' : List Diagnostic} {s₁ s₁' : σ}
    (h : Compiles fs settings args s c reports s₁)
    (h' : Compiles fs settings args s c' reports' s₁') :
    c' = c ∧ reports' = reports ∧ s₁' = s₁ := by
  obtain ⟨d, hd, hcompile⟩ := h
  obtain ⟨d', hd', hcompile'⟩ := h'
  obtain ⟨rfl, rfl⟩ := hd.unique hd'
  cases hcompile.symm.trans hcompile'
  exact ⟨rfl, rfl, rfl⟩

end Sampling

end CommandLine

/-! ## What comes of an evaluation -/

end SignedDistance
