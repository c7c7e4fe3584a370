import SignedDistance.Compiled.Basic
import SignedDistance.Settings
import SignedDistance.Shader.Combination
import SignedDistance.Shader.Primitive

/-!
# Shaders

Complete shaders that draw a scene: `mainImage` colours a point by its distance, which is computed
at the position scaled so that the height of the canvas reaches from minus one to one.
-/

namespace SignedDistance.Shader

/-- Why a shader cannot be written. -/
inductive ShaderError where
  /-- The distance cannot be written. -/
  | render (error : RenderError)
  /-- A number cannot be written. -/
  | number (error : NumberError)
  /-- The size of the canvas cannot be multiplied by the number of pixels. -/
  | notFactor
  /-- The product does not fit into memory. -/
  | noMemory

/-- The wording of a shader error. -/
def ShaderError.message : ShaderError → String
  | render e => e.message
  | number e => e.message
  | notFactor => "not a factor"
  | noMemory => "not enough memory"

/-- What a shader draws: an expression of the distance as text, or a compiled scene. -/
inductive Picture where
  /-- The text of a distance that already refers to the coordinate. -/
  | text (distance : String)
  /-- A compiled scene. -/
  | scene (compiled : Compiled)

/-- The text of the distance at a coordinate. -/
def Picture.distance (picture : Picture) (coordinate : String) : Except RenderError String :=
  match picture with
  | .text distance => .ok distance
  | .scene compiled => compiled.apply coordinate

/-- The shader of the corners of the canvas. -/
def vertexSource : String :=
  "#version 300 es\n" ++
  "in vec4 a_position;\n" ++
  "void main() \x7b\n" ++
  "  gl_Position = a_position;\n" ++
  "\x7d\n"

/-! ## Drawing -/

/-- The colour outside the scene. -/
def backgroundColor : String := "vec4(0.5, 0.5, 0.5, 0.0)"

/-- The colour inside the scene. -/
def interiorColor : String := "vec4(0.5, 0.5, 0.5, 1.0)"

/-- The colour of the outline. -/
def borderColor : String := "vec4(0.0, 0.0, 0.0, 0.0)"

/-- The usual width of the outline. -/
def defaultBorderWidth : Datum := .float (Double.ofRatio false 1 100)

/-- The places with which the width of the outline is written. -/
def borderPlaces : Int := 3

/-- The text of `mainImage`. -/
def mainImageText (coordinate distance borderWidth : String) : String :=
  "void mainImage(out vec4 fragColor, in vec2 fragCoord) \x7b\n" ++
  "  vec2 " ++ coordinate ++ " = (2.0*fragCoord - iResolution.xy)/iResolution.y;\n" ++
  "  float d = " ++ distance ++ ";\n" ++
  "  vec4 background = " ++ backgroundColor ++ ";\n" ++
  "  vec4 interior = " ++ interiorColor ++ ";\n" ++
  "  vec4 border = " ++ borderColor ++ ";\n" ++
  "  float borderWidth = " ++ borderWidth ++ ";\n" ++
  "  float aaWidth = 2.0 / iResolution.y;\n" ++
  "  float borderMix = smoothstep(-borderWidth - aaWidth, -borderWidth + aaWidth, d);\n" ++
  "  float edgeMix = smoothstep(-aaWidth, aaWidth, d);\n" ++
  "  vec4 color = mix(interior, border, borderMix);\n" ++
  "  color = mix(color, background, edgeMix);\n" ++
  "  fragColor = color;\n" ++
  "\x7d\n"

/-- The function that colours a point. -/
def mainImage (settings : Settings) (picture : Picture) (coordinate : Option String)
    (borderWidth : Datum) : Except ShaderError String := do
  let name := settings.coordinateName coordinate
  let distance ← (picture.distance name).mapError .render
  let width ← (borderWidth.fixedText borderPlaces).mapError .number
  return mainImageText name distance width

/-! ## Complete shaders -/

/-- The size of a canvas; an absent value stands for the settings. -/
structure Canvas where
  /-- The width. -/
  width : Datum := .null
  /-- The height. -/
  height : Datum := .null
  /-- The number of pixels per unit of width and height. -/
  pixelRatio : Datum := .null

/-- A value, or another one if it is absent. -/
def orDefault (d default : Datum) : Datum :=
  match d with
  | .null => default
  | d => d

/-- A factor as a double. -/
def doubleFactor : Datum → Except ShaderError Double
  | .float x => .ok x
  | d =>
    match d.toInteger? with
    | some n =>
      match Double.ofInt? n with
      | some x => .ok x
      | none => .error (.number .tooLarge)
    | none => .error .notFactor

/-- The length from which on a text or a list does not fit into memory. -/
def storableLength : Nat := pow2 34

/-- A text repeated. -/
def repeatedText (s : String) (count : Nat) : Except ShaderError Datum :=
  let length := s.length * count
  if pow2 63 ≤ length then .error (.number .tooLarge)
  else if storableLength ≤ length then .error .noMemory
  else .ok (.text (String.join (if s = "" then [] else List.replicate count s)))

/-- A list repeated. -/
def repeatedList (items : List Datum) (count : Nat) : Except ShaderError Datum :=
  if storableLength ≤ items.length * count then .error .noMemory
  else .ok (.list (if items.isEmpty then [] else (List.replicate count items).flatten))

/-- A text or a list repeated; a negative number of times counts as none. -/
def repeated (d : Datum) (count : Int) : Except ShaderError Datum :=
  let inRange := -(pow2 63 : Int) ≤ count ∧ count < (pow2 63 : Int)
  match d with
  | .text s => if inRange then repeatedText s count.toNat else .error (.number .tooLarge)
  | .list items => if inRange then repeatedList items count.toNat else .error (.number .tooLarge)
  | _ => .error .notFactor

/-- The product of two values: exact between whole numbers, rounded if one is a double. A whole
number repeats a text or a list. -/
def product (a b : Datum) : Except ShaderError Datum :=
  match a.toInteger?, b.toInteger?, a, b with
  | some m, some n, _, _ => .ok (.int (m * n))
  | _, _, .float x, b => do return .float (x.mul (← doubleFactor b))
  | _, _, a, .float y => do return .float ((← doubleFactor a).mul y)
  | none, some n, a, _ => repeated a n
  | some m, none, _, b => repeated b m
  | none, none, _, _ => .error .notFactor

/-- The places with which the size of the canvas is written. -/
def canvasPlaces : Int := 1

/-- The start of a shader. -/
def headerText (width height ratio : String) : String :=
  "#version 300 es\n" ++
  "precision highp float;\n\n" ++
  "const vec3 iResolution = vec3(" ++ width ++ ", " ++ height ++ ", " ++ ratio ++ ");\n"

/-- The start of a shader for a canvas, measured in pixels. -/
def header (settings : Settings) (canvas : Canvas) : Except ShaderError String := do
  let ratio := orDefault canvas.pixelRatio (.float settings.pixelRatio)
  let size (d : Datum) : Except ShaderError String := do
    ((← product d ratio).fixedText canvasPlaces).mapError .number
  let width ← size (orDefault canvas.width (.int settings.width))
  let height ← size (orDefault canvas.height (.int settings.height))
  let ratio ← (ratio.fixedText canvasPlaces).mapError .number
  return headerText width height ratio

/-- The end of a shader. -/
def entrySource : String :=
  "out vec4 fragColor;\n" ++
  "void main() \x7b\n" ++
  "  mainImage(fragColor, gl_FragCoord.xy);\n" ++
  "\x7d\n"

/-- A complete shader. The picture is looked at before the canvas. -/
def fragmentSource (settings : Settings) (picture : Picture) (canvas : Canvas)
    (coordinate : Option String) : Except ShaderError String := do
  let body ← mainImage settings picture coordinate defaultBorderWidth
  let start ← header settings canvas
  return "\n".intercalate [start, combinationSource, primitiveSource, body, entrySource]

end SignedDistance.Shader
