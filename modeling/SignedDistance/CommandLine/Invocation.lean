import SignedDistance.CommandLine.Options
import SignedDistance.CommandLine.Template
import SignedDistance.Number.Numeral
import SignedDistance.Settings

/-!
# Invocations

What a command line asks for: a level for messages, and a command with its arguments. An option that
takes a text is left without one if its value is only a marker.
-/

namespace SignedDistance.CommandLine

/-- The corners of a rectangle, as the ends of its sides. -/
structure Bounds where
  /-- The start of the first side. -/
  x0 : Double := Double.ofRatio true 1 1
  /-- The end of the first side. -/
  x1 : Double := Double.ofRatio false 1 1
  /-- The start of the second side. -/
  y0 : Double := Double.ofRatio true 1 1
  /-- The end of the second side. -/
  y1 : Double := Double.ofRatio false 1 1

/-- The numbers of cells along the sides. -/
structure Resolution where
  /-- Along the first side. -/
  nx : Int := 128
  /-- Along the second side. -/
  ny : Int := 128

/-- The arguments of the command that compiles a scene. -/
structure CompileArgs where
  /-- The file of the scene. -/
  scene : String := ""
  /-- The name of the coordinate. -/
  coordinate : Option String
  /-- Whether to write a complete shader. -/
  shader : Bool := false
  /-- Whether unknown operators are errors. -/
  strict : Bool := false

/-- The arguments of the command that samples a scene. -/
structure SampleArgs where
  /-- The file of the scene. -/
  scene : String := ""
  /-- The file for the samples. -/
  output : Option String := none
  /-- The rectangle. -/
  bounds : Bounds := {}
  /-- The numbers of cells. -/
  resolution : Resolution := {}

/-- A command with its arguments. -/
inductive Command where
  /-- Compiles a scene. -/
  | compile (args : CompileArgs)
  /-- Writes the operator record in a file as text. -/
  | print (file : String)
  /-- Samples a scene. -/
  | sample (args : SampleArgs)

/-- What a command line asks for. -/
structure Invocation where
  /-- The name of the least level of messages. -/
  logLevel : Option String
  /-- The command, if there is one. -/
  command : Option Command

/-- Why a command line is not carried out. -/
inductive Stop where
  /-- It asks for help. -/
  | help (text : String)
  /-- It asks for help, which cannot be given because of a note on an option. -/
  | unusableHelp (fault : TemplateFault)
  /-- It is not understood. -/
  | misuse (message : String)

/-! ## Steps -/

/-- What the events of a reading make of the arguments. Nothing after a stop is looked at; the words
that have no place are returned. -/
def Reading.run {ι σ : Type} (r : Reading ι) (step : σ → Event ι → Except Stop σ) (start : σ) :
    Except Stop (σ × List String) := do
  let result ← r.events.foldlM step start
  match r.ending with
  | .failed message => throw (.misuse message)
  | .complete missing extras =>
    if missing = 0 then return (result, extras)
    else throw (.misuse "required arguments are missing")

/-- The beginning of all help texts. -/
def usage (line : String) : String :=
  "usage: scene2glsl " ++ line ++ "\n"

/-- The note on an option, with the default. -/
def noteWithDefault (note default : String) : String :=
  note ++ " (default: " ++ default ++ ")"

/-- A help text, given only if the note on an option can be filled in. -/
def helpWithNote (text note : String) : Except TemplateFault String := do
  checkTemplate noteValue? note
  return text

/-- The stop at a demand for help. -/
def Stop.ofHelp : Except TemplateFault String → Stop
  | .ok text => .help text
  | .error fault => .unusableHelp fault

/-! ## The command that compiles -/

/-- The options of the command that compiles. -/
inductive CompileOption where
  /-- Asks for help. -/
  | help
  /-- Names the coordinate. -/
  | coordinate
  /-- Asks for a complete shader. -/
  | shader
  /-- Makes unknown operators errors. -/
  | strict

/-- The spellings of the options of the command that compiles. -/
def compileOptions : Options CompileOption where
  spellings :=
    [("-h", .help), ("--help", .help), ("--coordinate", .coordinate), ("-c", .coordinate),
      ("--shader", .shader), ("--strict", .strict)]
  arity
    | .coordinate => 1
    | _ => 0

/-- The help for the command that compiles. -/
def compileHelp (settings : Settings) : Except TemplateFault String :=
  helpWithNote (usage "compile [-h] [--coordinate COORDINATE] [--shader] [--strict] scene")
    (noteWithDefault "Query-point variable name" settings.coordinate)

/-- One step in reading the arguments of the command that compiles. -/
def compileStep (settings : Settings) (args : CompileArgs) :
    Event CompileOption → Except Stop CompileArgs
  | .option .help _ => .error (.ofHelp (compileHelp settings))
  | .option .coordinate values => .ok { args with coordinate := values.head? }
  | .option .shader _ => .ok { args with shader := true }
  | .option .strict _ => .ok { args with strict := true }
  | .value text => .ok { args with scene := text.getD args.scene }
  | .command .. => .ok args

/-! ## The command that prints -/

/-- The options of the command that prints. -/
inductive PrintOption where
  /-- Asks for help. -/
  | help

/-- The spellings of the options of the command that prints. -/
def printOptions : Options PrintOption where
  spellings := [("-h", .help), ("--help", .help)]
  arity _ := 0

/-- One step in reading the arguments of the command that prints. -/
def printStep (file : String) : Event PrintOption → Except Stop String
  | .option .help _ => .error (.help (usage "notation [-h] node"))
  | .value text => .ok (text.getD file)
  | .command .. => .ok file

/-! ## The command that samples -/

/-- The options of the command that samples. -/
inductive SampleOption where
  /-- Asks for help. -/
  | help
  /-- Gives the rectangle. -/
  | bounds
  /-- Gives the numbers of cells. -/
  | resolution

/-- The spellings of the options of the command that samples. -/
def sampleOptions : Options SampleOption where
  spellings :=
    [("-h", .help), ("--help", .help), ("--bounds", .bounds), ("--resolution", .resolution)]
  arity
    | .help => 0
    | .bounds => 4
    | .resolution => 2

/-- The help for the command that samples. -/
def sampleHelp : String :=
  usage "sample [-h] [--bounds X0 X1 Y0 Y1] [--resolution NX NY] scene output"

/-- The arguments of the command that samples, together with whether the scene is given. -/
structure SampleState where
  /-- The arguments so far. -/
  args : SampleArgs := {}
  /-- Whether the next value is the output. -/
  sceneGiven : Bool := false

/-- One step in reading the arguments of the command that samples. -/
def sampleStep (state : SampleState) : Event SampleOption → Except Stop SampleState
  | .option .help _ => .error (.help sampleHelp)
  | .option .bounds values =>
    match values.mapM Double.parse? with
    | some [x0, x1, y0, y1] => .ok { state with args.bounds := ⟨x0, x1, y0, y1⟩ }
    | _ => .error (.misuse "bounds must be numbers")
  | .option .resolution values =>
    match values.mapM Numeral.integer? with
    | some [nx, ny] => .ok { state with args.resolution := ⟨nx, ny⟩ }
    | _ => .error (.misuse "resolutions must be integers")
  | .value text =>
    if state.sceneGiven then .ok { state with args.output := text }
    else .ok { state with args.scene := text.getD state.args.scene, sceneGiven := true }
  | .command .. => .ok state

/-! ## The whole command line -/

/-- The options before the command. -/
inductive MainOption where
  /-- Asks for help. -/
  | help
  /-- Gives the least level of messages. -/
  | logLevel

/-- The spellings of the options before the command. -/
def mainOptions : Options MainOption where
  spellings := [("-h", .help), ("--help", .help), ("--log-level", .logLevel)]
  arity
    | .help => 0
    | .logLevel => 1

/-- The beginning of the help for the whole program. -/
def mainUsage : String :=
  usage "[-h] [--log-level LOG_LEVEL] \x7bcompile,notation,sample\x7d ..."

/-- The help for the whole program. -/
def mainHelp (settings : Settings) : Except TemplateFault String :=
  helpWithNote mainUsage (noteWithDefault "Logging level" settings.logLevel)

/-- A command with its arguments, and the words that have no place. -/
def readCommand (settings : Settings) (name : String) (args : List String) :
    Except Stop (Command × List String) :=
  match name with
  | "compile" => do
    let (result, extras) ←
      (compileOptions.readTexts (.values 1) args).run (compileStep settings)
        { coordinate := some settings.coordinate }
    return (.compile result, extras)
  | "notation" => do
    let (result, extras) ← (printOptions.readTexts (.values 1) args).run printStep ""
    return (.print result, extras)
  | "sample" => do
    let (result, extras) ← (sampleOptions.readTexts (.values 2) args).run sampleStep {}
    return (.sample result.args, extras)
  | name => .error (.misuse ("invalid choice: " ++ name))

/-- What has been read of the whole command line. -/
structure MainState where
  /-- The invocation so far. -/
  invocation : Invocation
  /-- The words that have no place. -/
  extras : List String := []

/-- One step in reading the whole command line. -/
def mainStep (settings : Settings) (state : MainState) :
    Event MainOption → Except Stop MainState
  | .option .help _ => .error (.ofHelp (mainHelp settings))
  | .option .logLevel values => .ok { state with invocation.logLevel := values.head? }
  | .value _ => .ok state
  | .command name args => do
    let (command, extras) ← readCommand settings name args
    return { state with invocation.command := some command, extras }

/-- What a command line asks for. -/
def Invocation.ofArgs (settings : Settings) (args : List String) : Except Stop Invocation := do
  let start : MainState := { invocation := ⟨some settings.logLevel, none⟩ }
  let (state, extras) ←
    (mainOptions.readTexts .command args).run (mainStep settings) start
  match extras ++ state.extras with
  | [] => return state.invocation
  | extras => throw (.misuse ("unrecognized arguments: " ++ " ".intercalate extras))

end SignedDistance.CommandLine
