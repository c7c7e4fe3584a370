import SignedDistance.Number.Numeral
import SignedDistance.Scene.Basic

/-!
# Settings

Defaults that can be changed by environment variables.
-/

namespace SignedDistance

/-- The settings in force. -/
structure Settings where
  /-- The name of the policy for unknown operators. -/
  unknownOperators : String := "defer"
  /-- The name of the coordinate in shaders. -/
  coordinate : String := "center"
  /-- The least level of the messages that the command line shows. -/
  logLevel : String := "WARNING"
  /-- The width of the canvas. -/
  width : Int := 640
  /-- The height of the canvas. -/
  height : Int := 200
  /-- The number of pixels per unit of width and height. -/
  pixelRatio : Double := Double.ofRatio false 1 1

namespace Settings

/-- The environment variables that settings are taken from. -/
def variableNames : List String :=
  ["SCENE2GLSL_UNKNOWN_OPERATORS", "SCENE2GLSL_COORDINATE", "SCENE2GLSL_LOG_LEVEL",
    "SCENE2GLSL_WIDTH", "SCENE2GLSL_HEIGHT", "SCENE2GLSL_PIXEL_RATIO"]

/-- The settings given by environment variables; `none` if one that has to be a number is not. -/
def ofEnvironment? (value? : String → Option String) : Option Settings := do
  let defaults : Settings := {}
  let width ← match value? "SCENE2GLSL_WIDTH" with
    | some text => Numeral.integer? text
    | none => some defaults.width
  let height ← match value? "SCENE2GLSL_HEIGHT" with
    | some text => Numeral.integer? text
    | none => some defaults.height
  let pixelRatio ← match value? "SCENE2GLSL_PIXEL_RATIO" with
    | some text => Double.parse? text
    | none => some defaults.pixelRatio
  return {
    unknownOperators := (value? "SCENE2GLSL_UNKNOWN_OPERATORS").getD defaults.unknownOperators
    coordinate := (value? "SCENE2GLSL_COORDINATE").getD defaults.coordinate
    logLevel := (value? "SCENE2GLSL_LOG_LEVEL").getD defaults.logLevel
    width, height, pixelRatio }

/-- The name of the policy to use: the given one unless it is absent or empty. -/
def policyName (settings : Settings) : Option String → String
  | some name => if name = "" then settings.unknownOperators else name
  | none => settings.unknownOperators

/-- The name of the coordinate to use: the given one unless it is absent or empty. -/
def coordinateName (settings : Settings) : Option String → String
  | some name => if name = "" then settings.coordinate else name
  | none => settings.coordinate

end Settings

end SignedDistance
