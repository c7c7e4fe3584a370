import SignedDistance.Shader.Function

/-!
# Combinations for shaders

The combinations of two distances as functions of the shading language. Their bodies are made of
expressions only, so that what they compute can be read off with the parser and the evaluator.
-/

namespace SignedDistance.Shader

/-- A function of numbers: names for intermediate results, and the result. All right-hand sides are
texts of expressions. -/
structure Helper where
  /-- The name. -/
  name : String
  /-- The names of the parameters. -/
  params : List String
  /-- The intermediate results, each of which may use the ones before it. -/
  locals : List (String × String) := []
  /-- The result. -/
  result : String

/-- A helper as a function of the shading language. -/
def Helper.function (h : Helper) : Function where
  name := h.name
  padded := true
  params := h.params.map fun p => ⟨.float, p⟩
  body :=
    (h.locals.map fun (name, text) => "  float " ++ name ++ " = " ++ text ++ ";")
      ++ ["  return " ++ h.result ++ ";"]

/-- The points of either shape. -/
def unite : Helper where
  name := "unite"
  params := ["d1", "d2"]
  result := "min(d1, d2)"

/-- The points of the second shape that are not in the first. -/
def subtraction : Helper where
  name := "subtraction"
  params := ["d1", "d2"]
  result := "max(-d1, d2)"

/-- The points of both shapes. -/
def intersection : Helper where
  name := "intersection"
  params := ["d1", "d2"]
  result := "max(d1, d2)"

/-- The union with a blended seam. -/
def smoothUnion : Helper where
  name := "smoothUnion"
  params := ["d1", "d2", "k"]
  locals := [("h", "max(k-abs(d1-d2),0.0)")]
  result := "min(d1, d2) - h*h*0.25/k"

/-- The subtraction with a blended seam. -/
def smoothSubtraction : Helper where
  name := "smoothSubtraction"
  params := ["d1", "d2", "k"]
  result := "-smoothUnion(d1, -d2, k)"

/-- The intersection with a blended seam. -/
def smoothIntersection : Helper where
  name := "smoothIntersection"
  params := ["d1", "d2", "k"]
  result := "-smoothUnion(-d1, -d2, k)"

/-- The combinations, each after the ones that it calls. -/
def combinationHelpers : List Helper :=
  [unite, subtraction, intersection, smoothUnion, smoothSubtraction, smoothIntersection]

/-- The source of the combinations. -/
def combinationSource : String :=
  sourceText (combinationHelpers.map Helper.function)

end SignedDistance.Shader
