import SignedDistance.Compiled.Diagnostic

/-!
# Messages and their levels

Messages are shown only from a certain level on, which is given by name in letters of either case.
-/

namespace SignedDistance.CommandLine

/-- The capital letter for the letters that can occur in the name of a level. -/
def capital (c : Char) : Char :=
  if c = 'ı' then 'I' else if c = 'ſ' then 'S' else c.toUpper

/-- The least rank of the messages shown under the names of levels. -/
def thresholds : List (String × Nat) :=
  [("CRITICAL", 50), ("FATAL", 50), ("ERROR", 40), ("WARN", 30), ("WARNING", 30), ("INFO", 20),
    ("DEBUG", 10), ("NOTSET", 0)]

/-- The least rank of the messages shown under a name. -/
def threshold? (name : String) : Option Nat :=
  thresholds.lookup (String.ofList (name.toList.map capital))

/-- A message. -/
structure Message where
  /-- The level. -/
  level : Level
  /-- The part of the program that it comes from. -/
  source : String
  /-- The text. -/
  text : String

/-- A message as it is shown. -/
def Message.line (m : Message) : String :=
  m.level.name ++ " scene2glsl." ++ m.source ++ ": " ++ m.text ++ "\n"

/-- The lines of the messages from a rank on. -/
def shownMessages (threshold : Nat) (messages : List Message) : String :=
  String.join ((messages.filter fun m => threshold ≤ m.level.rank).map Message.line)

end SignedDistance.CommandLine
