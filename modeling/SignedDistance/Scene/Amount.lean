import SignedDistance.Number.Numeral
import SignedDistance.Number.Fixed
import SignedDistance.Scene.Shown

/-!
# Numbers in plain data

A number may be given as a number or as a numeral in a text. What is neither, or is not finite, is
refused with the value shown, which fails in turn if the value cannot be shown. Numbers are written
with a fixed number of places: three for the parameters of a scene.
-/

namespace SignedDistance

/-- Why a value is not taken as a number, or cannot be written. -/
inductive NumberError where
  /-- The value, as it is shown, is neither a number nor a numeral. -/
  | notNumber (got : String)
  /-- The number, as it is shown, is not finite. -/
  | notFinite (got : String)
  /-- The value is refused and cannot be shown. -/
  | unshown
  /-- The integer is beyond the largest double. -/
  | tooLarge
  /-- The number cannot be written with the number of places. -/
  | fixed (fault : Double.FixedFault)

/-- The wording of a number error. -/
def NumberError.message : NumberError → String
  | notNumber got => "expected a number, got " ++ got
  | notFinite got => "expected a finite number, got " ++ got
  | unshown => unshownMessage
  | tooLarge => "integer too large"
  | fixed .tooManyDigits => "too many digits"
  | fixed .unitTooLarge => "unit too large"

/-- An error that shows the value it is about. -/
def NumberError.about (d : Datum) (error : String → NumberError) : NumberError :=
  match d.shown? with
  | some got => error got
  | none => .unshown

namespace Datum

/-- A value as an integer, if it is one; truth values count as one and zero. -/
def toInteger? : Datum → Option Int
  | .int n => some n
  | .bool b => some (if b then 1 else 0)
  | _ => none

/-- The double that a value denotes, finite or not. -/
def toAnyDouble (d : Datum) : Except NumberError Double :=
  match d with
  | .int n =>
    match Double.ofInt? n with
    | some x => .ok x
    | none => .error .tooLarge
  | .float x => .ok x
  | .text s =>
    match Double.parse? (String.ofList (Text.trim s.toList)) with
    | some x => .ok x
    | none => .error (.about d .notNumber)
  | _ => .error (.about d .notNumber)

/-- The finite double that a value denotes. -/
def toDouble (d : Datum) : Except NumberError Double := do
  let x ← d.toAnyDouble
  if x.isFinite then return x else throw (.about d .notFinite)

/-- Whether a value denotes a finite number; an integer beyond the largest double is an error. -/
def isNumeric (d : Datum) : Except NumberError Bool :=
  match d.toDouble with
  | .ok _ => .ok true
  | .error .tooLarge => .error .tooLarge
  | .error _ => .ok false

/-- A number written with `places` digits after the point. -/
def fixedText (d : Datum) (places : Int) : Except NumberError String := do
  let x ← d.toDouble
  return (← (x.fixed places).mapError .fixed).text

/-- The places with which the numbers of a scene are written. -/
def scalarPlaces : Int := 3

/-- A number written as the parameters of a scene are. -/
def scalarText (d : Datum) : Except NumberError String :=
  d.fixedText scalarPlaces

end Datum

end SignedDistance
