import SignedDistance.CommandLine.Files
import SignedDistance.CommandLine.Invocation
import SignedDistance.CommandLine.Level
import SignedDistance.Grid.OfDatum
import SignedDistance.Json
import SignedDistance.OperatorText
import SignedDistance.Number.Shortest
import SignedDistance.Shader.Basic

/-!
# Commands

The commands of the program, carried out with whatever file system is at hand. Errors in the given
files are reported to the user; any other failure is the result of the run.
-/

namespace SignedDistance.CommandLine

/-- Why a command fails. -/
inductive Failure where
  /-- A file cannot be read or written. -/
  | file (error : FileError)
  /-- A file does not hold a JSON value that can be read. -/
  | json (fault : Json.Fault)
  /-- A scene cannot be compiled. -/
  | compile (error : CompileError)
  /-- An expression cannot be written. -/
  | render (error : RenderError)
  /-- A shader cannot be written. -/
  | shader (error : Shader.ShaderError)
  /-- A record cannot be written. -/
  | operatorText (error : OperatorTextError)
  /-- The grid is not well formed. -/
  | grid (error : GridError)
  /-- A scene cannot be evaluated. -/
  | eval (error : EvalError)
  /-- No level has the name. -/
  | noSuchLevel (name : String)
  /-- There is no name of a level. -/
  | noLevel
  /-- There is no name of a coordinate. -/
  | noCoordinate (error : NotExpression)
  /-- There is no file for the samples. -/
  | noOutput
  /-- The help cannot be given. -/
  | help (fault : TemplateFault)

/-- The wording of a failure. -/
def Failure.message : Failure → String
  | file e => e.message
  | json .notWellFormed => "<invalid JSON>"
  | json .tooManyDigits => "an integer has too many digits"
  | compile e => e.message
  | render e => e.message
  | shader e => e.message
  | operatorText e => e.message
  | grid e => e.message
  | eval e => e.message
  | noSuchLevel name => "unknown level: " ++ Text.quoted name
  | noLevel => "no level is named"
  | noCoordinate e => e.message
  | noOutput => "no output is named"
  | help .malformed => "a placeholder in a note is not well formed"
  | help (.noSuchName name) => "no such name in a note: " ++ Text.quoted name
  | help .noSuchValue => "no such value in a note"

/-! ## What is reported -/

/-- Whether an error in writing an expression is reported. -/
def isReportedRender : RenderError → Bool
  | .unknownOperator _ => true
  | _ => false

/-- Whether an error in evaluation is reported. -/
def isReportedEval : EvalError → Bool
  | .emptySwizzle => false
  | .array _ => false
  | .badNumber _ => false
  | .shape _ => false
  | .noSuchOperator _ => false
  | .notText => false
  | _ => true

/-- Whether a failure is reported to the user: those that are due to the given files are. -/
def Failure.isReported : Failure → Bool
  | file (.system ..) => true
  | file _ => false
  | json fault => fault = .notWellFormed
  | compile (.scene (.malformed ..)) => true
  | compile (.unknownOperator _) => true
  | compile _ => false
  | render e => isReportedRender e
  | shader (.render e) => isReportedRender e
  | shader _ => false
  | operatorText (.arity ..) => true
  | operatorText _ => false
  | grid _ => false
  | eval e => isReportedEval e
  | noSuchLevel _ => false
  | noLevel => false
  | noCoordinate _ => false
  | noOutput => false
  | help _ => false

/-! ## Commands -/

/-- A command that is carried out: it can fail, and it gives messages. -/
abbrev Action (m : Type → Type) := ExceptT Failure (StateT (List Message) m)

section

variable {m : Type → Type} [Monad m]

/-- Gives a message. -/
def say (message : Message) : Action m Unit :=
  modify (· ++ [message])

/-- A result, or a failure of the given kind. -/
def orFail {ε α : Type} (kind : ε → Failure) (result : Except ε α) : Action m α :=
  match result with
  | .ok a => return a
  | .error e => throw (kind e)

/-- An operation on the file system. -/
def onFiles {α : Type} (operation : m (Except FileError α)) : Action m α := do
  orFail .file (← (liftM operation : StateT (List Message) m (Except FileError α)))

/-- The text in a file; a dash stands for the standard input. -/
def FileSystem.document (fs : FileSystem m) (path : String) : m (Except FileError String) :=
  if path = "-" then fs.readInput else fs.readText path

/-- The value in a file. -/
def load (fs : FileSystem m) (path : String) : Action m Datum := do
  orFail .json (Json.parse (← onFiles (fs.document path)))

/-- The messages that pass on the reports of the compiler. -/
def compilerMessages (reports : List Diagnostic) : List Message :=
  reports.map fun r => ⟨r.level, "compiler", r.message⟩

/-- Compiles a scene and passes on the reports of the compiler. -/
def compileWith (policyName : String) (scene : Datum) : Action m Compiled := do
  let (result, reports) := (compileScene scene policyName).result
  (compilerMessages reports).forM say
  orFail .compile result

/-- The text of a compiled scene. -/
def runCompile (fs : FileSystem m) (settings : Settings) (args : CompileArgs) :
    Action m String := do
  let scene ← load fs args.scene
  let policyName := if args.strict then Policy.fail.name else settings.unknownOperators
  let compiled ← compileWith policyName scene
  if args.shader then
    orFail .shader (Shader.fragmentSource settings (.scene compiled) {} args.coordinate)
  else
    match args.coordinate with
    | some coordinate => orFail .render (compiled.apply coordinate)
    | none => throw (.noCoordinate (.about (.list [])))

/-- The text of an operator record. -/
def runPrint (fs : FileSystem m) (file : String) : Action m String := do
  orFail .operatorText (← load fs file).operatorText

/-- Bounds as plain data. -/
def Bounds.datum (b : Bounds) : Datum :=
  .list [.list [.float b.x0, .float b.x1], .list [.float b.y0, .float b.y1]]

/-- Bounds as they are shown. -/
def Bounds.shown (b : Bounds) : String :=
  shownTuple [shownTuple [b.x0.shown, b.x1.shown], shownTuple [b.y0.shown, b.y1.shown]]

/-- The file to which an array is written: its name ends in a fixed way. -/
def arrayFile (path : String) : String :=
  if path.endsWith ".npy" then path else path ++ ".npy"

/-- Writes an array to a file, in a directory that is created if need be. -/
def FileSystem.store (fs : FileSystem m) (path : String) (array : Tensor Float) :
    m (Except FileError Unit) :=
  ExceptT.run do
    let directory := Tree.parent path
    if directory ≠ "" then ExceptT.mk (fs.createDirectories directory)
    ExceptT.mk (fs.writeArray (arrayFile path) array)

/-- The grid of the command that samples. -/
def SampleArgs.grid (args : SampleArgs) : Except GridError (Grid Float) :=
  Grid.ofData args.bounds.datum (.list [.int args.resolution.nx, .int args.resolution.ny])

/-- The message that a scene is being sampled. -/
def SampleArgs.startMessage (args : SampleArgs) : Message :=
  ⟨.debug, "grid", "sampling " ++ toString args.resolution.nx ++ "x" ++ toString args.resolution.ny
    ++ " grid over " ++ args.bounds.shown⟩

/-- The message that samples have been written. -/
def writtenMessage (output : String) (samples : Tensor Float) : Message :=
  ⟨.info, "cli", "wrote " ++ output ++ " with shape "
    ++ shownTuple (samples.axes.reverse.map fun n : Nat => toString n)⟩

/-- Samples a scene and writes the samples. -/
def runSample (fs : FileSystem m) (settings : Settings) (args : SampleArgs) : Action m Unit := do
  let compiled ← compileWith settings.unknownOperators (← load fs args.scene)
  let grid ← orFail .grid args.grid
  say args.startMessage
  let samples ← orFail .eval (compiled.sample Library.standard grid)
  match args.output with
  | none => throw .noOutput
  | some output =>
    onFiles (fs.store output samples)
    say (writtenMessage output samples)

/-- Carries out a command; the result is what it prints. -/
def Command.run (fs : FileSystem m) (settings : Settings) : Command → Action m String
  | .compile args => do return (← runCompile fs settings args) ++ "\n"
  | .print file => do return (← runPrint fs file) ++ "\n"
  | .sample args => do
    runSample fs settings args
    return ""

/-! ## The program -/

/-- The result of a run. -/
inductive Outcome where
  /-- The exit code and what is printed. -/
  | exit (code : Nat) (output errors : String)
  /-- The command line is not understood. -/
  | misuse (message : String)
  /-- A failure that is not reported to the user. -/
  | failure (reason : Failure)

/-- The outcome of a command. -/
def outcome (threshold : Nat) (result : Except Failure String) (messages : List Message) :
    Outcome :=
  let shown := shownMessages threshold messages
  match result with
  | .ok output => .exit 0 output shown
  | .error reason =>
    if reason.isReported then .exit 1 "" (shown ++ "error: " ++ reason.message ++ "\n")
    else .failure reason

/-- Runs the program on a command line. -/
def run (fs : FileSystem m) (settings : Settings) (args : List String) : m Outcome := do
  match Invocation.ofArgs settings args with
  | .error (.help text) => return .exit 0 text ""
  | .error (.unusableHelp fault) => return .failure (.help fault)
  | .error (.misuse message) => return .misuse message
  | .ok ⟨none, _⟩ => return .failure .noLevel
  | .ok ⟨some levelName, command⟩ =>
    match threshold? levelName with
    | none => return .failure (.noSuchLevel levelName)
    | some threshold =>
      match command with
      | none =>
        match mainHelp settings with
        | .ok text => return .exit 1 text ""
        | .error fault => return .failure (.help fault)
      | some command =>
        let (result, messages) ← ((command.run fs settings).run).run []
        return outcome threshold result messages

end

end SignedDistance.CommandLine
