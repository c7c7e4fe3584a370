import SignedDistance.Scene.Record
import SignedDistance.Expression.Render
import SignedDistance.Compiled.Formula
import SignedDistance.Compiled.Diagnostic

/-!
# Compiled scenes

Compiling a scene gives a distance expression that waits for its coordinate. Applied to the text of
a coordinate it becomes the text of a distance. An operator that is not known either fails at once
or leaves a place that cannot be rendered, so that it never reaches a text.
-/

namespace SignedDistance

open Text

/-- A compiled scene. -/
inductive Compiled where
  /-- A distance expression. -/
  | expression (e : Expr)
  /-- An operator that is not known, with its compiled operands. -/
  | unresolved (op : String) (args : List Compiled)

namespace Compiled

instance : Inhabited Compiled := ⟨.unresolved "" []⟩

/-- The expression of a compiled scene. -/
def expr : Compiled → Expr
  | expression e => e
  | unresolved op _ => .pending op

/-- The distance text at a coordinate. -/
def apply (c : Compiled) (coordinate : String) : Except RenderError String :=
  (c.expr.substitute (.lit coordinate)).render

mutual

/-- The text that shows a compiled scene. -/
def shown? : Compiled → Option String
  | expression e => do return "CompiledExpression(" ++ (← e.shown?) ++ ")"
  | unresolved op args => do
    let items ← shownAll? args
    return "UnresolvedOperator(op=" ++ quoted op ++ ", args=" ++ shownTuple items ++ ")"

/-- The texts that show several compiled scenes. -/
def shownAll? : List Compiled → Option (List String)
  | [] => some []
  | c :: cs => do return (← shown? c) :: (← shownAll? cs)

end

end Compiled

/-- What to do about an operator that is not known. -/
inductive Policy where
  /-- Keep its place in the expression. -/
  | defer
  /-- Fail. -/
  | fail
deriving DecidableEq, Repr

/-- The name of a policy. -/
def Policy.name : Policy → String
  | defer => "defer"
  | fail => "raise"

/-- The policy with a name. -/
def Policy.ofName? (name : String) : Option Policy :=
  [Policy.defer, Policy.fail].find? fun policy => policy.name == name

/-- Why a scene cannot be compiled. -/
inductive CompileError where
  /-- No policy has the name. -/
  | noSuchPolicy (name : String)
  /-- The scene is not well formed. -/
  | scene (error : SceneError)
  /-- An operator is not known. -/
  | unknownOperator (name : String)
  /-- An argument of a primitive is not text. -/
  | notExpression (error : NotExpression)

/-- The wording of a compile error. -/
def CompileError.message : CompileError → String
  | noSuchPolicy name =>
    "unknown_operators must be one of ('defer', 'raise'), got " ++ quoted name
  | scene error => error.message
  | unknownOperator name => unknownOperatorMessage name
  | notExpression error => error.message

/-- A computation that reports as it goes; the reports made before a failure are kept. -/
abbrev Compilation := ExceptT CompileError (StateM (List Diagnostic))

/-- Adds a report. -/
def report (d : Diagnostic) : Compilation Unit :=
  modify (· ++ [d])

/-- Arguments of a primitive as expressions. -/
def Datum.toExprs : List Datum → Except CompileError (List Expr)
  | [] => .ok []
  | d :: ds =>
    match d.toExpr with
    | .error e => .error (.notExpression e)
    | .ok e => do
      return e :: (← Datum.toExprs ds)

/-- The offset of a move as an expression. -/
def Datum.toOffset : Datum → Expr
  | .text s => .lit s
  | d => .stray d

mutual

/-- Compiles a scene that stands at the given path. -/
def Scene.compile (policy : Policy) (path : Path) : Scene → Compilation Compiled
  | .primitive name args => do
    match Datum.toExprs args with
    | .error e => throw e
    | .ok es => return .expression (.call name (.here :: es))
  | .constant text => return .expression (.lit text)
  | .annotate _ child => do
    let c ← child.compile policy (path ++ [1])
    report (.applied TransformKind.annotate.keyword path)
    return .expression c.expr
  | .translate offset child => do
    let c ← child.compile policy (path ++ [1])
    report (.applied TransformKind.translate.keyword path)
    return .expression (Formula.translate offset.toOffset c.expr)
  | .adjust kind _ amount child => do
    let c ← child.compile policy (path ++ [1])
    report (.applied kind.keyword path)
    return .expression (Formula.adjust kind (.lit amount) c.expr)
  | .combine op left right => do
    let a ← left.compile policy (path ++ [0])
    let b ← right.compile policy (path ++ [1])
    report (.applied (CombinationKind.keyword ⟨op, false⟩) path)
    return .expression (Formula.combine op a.expr b.expr)
  | .blend op left right radius => do
    let a ← left.compile policy (path ++ [0])
    let b ← right.compile policy (path ++ [1])
    let k ← radius.compile policy (path ++ [2])
    report (.applied (CombinationKind.keyword ⟨op, true⟩) path)
    return .expression (Formula.blend op a.expr b.expr k.expr)
  | .unknown name operands => do
    if policy = .fail then
      throw (.unknownOperator name)
    else
      report (.unknownOperator name path)
      return .unresolved name (← Datum.compileOperands policy path 0 operands)

/-- Compiles an operand of an unknown operator. -/
def Datum.compileOperand (policy : Policy) (path : Path) : Datum → Compilation Compiled
  | .scene s => s.compile policy path
  | d => throw (.scene ((Defect.notScene d).errorAt path))

/-- Compiles the operands of an unknown operator; the first one has the given index. -/
def Datum.compileOperands (policy : Policy) (path : Path) (i : Nat) :
    List Datum → Compilation (List Compiled)
  | [] => return []
  | d :: ds => do
    let c ← d.compileOperand policy (path ++ [(i : Int)])
    let cs ← Datum.compileOperands policy path (i + 1) ds
    return c :: cs

end

/-- Compiles the scene that a value stands for, under the policy with the given name. -/
def compileScene (d : Datum) (policyName : String) : Compilation Compiled :=
  match Policy.ofName? policyName with
  | none => throw (.noSuchPolicy policyName)
  | some policy =>
    match d.read [] with
    | .error e => throw (.scene e)
    | .ok s => s.compile policy []

/-- The outcome of a compilation and the reports made on the way. -/
def Compilation.result {α : Type} (c : Compilation α) : Except CompileError α × List Diagnostic :=
  c.run.run []

end SignedDistance
