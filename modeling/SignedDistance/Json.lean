import SignedDistance.Number.Numeral
import SignedDistance.Scene.Basic

/-!
# Reading JSON

Scene files are JSON documents. They are read as plain data: numbers without a point or an exponent
are integers of any size, the others the nearest double; the words for infinity and not-a-number are
accepted; of equal keys in an object the last value wins, at the place of the first. A document is
cut into tokens, which a machine with a stack of open lists and objects puts together. What is wrong
with a document is what is wrong with its first bad token.
-/

namespace SignedDistance.Json

/-- Why a document cannot be read. -/
inductive Fault where
  /-- It is not well formed. -/
  | notWellFormed
  /-- An integer has too many digits. -/
  | tooManyDigits
deriving DecidableEq, Repr

/-- A token of a document. -/
inductive Lexeme where
  | openList
  | closeList
  | openObject
  | closeObject
  | comma
  | colon
  /-- A text. -/
  | text (s : String)
  /-- A number or a word. -/
  | scalar (d : Datum)
  /-- An integer with too many digits. -/
  | longInteger
  /-- A place that starts no token. -/
  | stray

/-- The blanks between tokens. -/
def isSpace (c : Char) : Bool :=
  c == ' ' || c == '\t' || c == '\n' || c == '\r'

/-! ## Texts -/

/-- The value of a hexadecimal digit. -/
def hexValue? (c : Char) : Option Nat :=
  if c.isDigit then some (c.toNat - '0'.toNat)
  else if 'a' ≤ c && c ≤ 'f' then some (c.toNat - 'a'.toNat + 10)
  else if 'A' ≤ c && c ≤ 'F' then some (c.toNat - 'A'.toNat + 10)
  else none

/-- The value of four hexadecimal digits. -/
def hex4? (a b c d : Char) : Option Nat := do
  let a ← hexValue? a
  let b ← hexValue? b
  let c ← hexValue? c
  let d ← hexValue? d
  return ((a * 16 + b) * 16 + c) * 16 + d

/-- The character of a short escape. -/
def escaped? (c : Char) : Option Char :=
  if c == '"' || c == '\\' || c == '/' then some c
  else if c == 'b' then some '\x08'
  else if c == 'f' then some '\x0c'
  else if c == 'n' then some '\n'
  else if c == 'r' then some '\r'
  else if c == 't' then some '\t'
  else none

/-- The characters of a sequence of code units. Two halves of a pair are one character; a half that
stands alone becomes the replacement character. -/
def ofUnits : List Nat → List Char
  | [] => []
  | [unit] => [unitChar unit]
  | high :: low :: units =>
    if 0xD800 ≤ high && high < 0xDC00 && 0xDC00 ≤ low && low < 0xE000 then
      Char.ofNat (0x10000 + (high - 0xD800) * 0x400 + (low - 0xDC00)) :: ofUnits units
    else unitChar high :: ofUnits (low :: units)
where
  /-- The character of a single unit. -/
  unitChar (unit : Nat) : Char :=
    if 0xD800 ≤ unit && unit < 0xE000 then Char.ofNat 0xFFFD else Char.ofNat unit

/-- The code units of a text after its opening quote, and the rest after its closing quote. -/
def textUnits : List Char → Option (List Nat × List Char)
  | '"' :: rest => some ([], rest)
  | '\\' :: 'u' :: a :: b :: c :: d :: rest => do
    let unit ← hex4? a b c d
    let (units, rest) ← textUnits rest
    return (unit :: units, rest)
  | '\\' :: c :: rest => do
    let c ← escaped? c
    let (units, rest) ← textUnits rest
    return (c.toNat :: units, rest)
  | c :: rest =>
    if c.toNat < 32 || c == '\\' then none
    else do
      let (units, rest) ← textUnits rest
      return (c.toNat :: units, rest)
  | [] => none

/-- What is left after a text is shorter than before. -/
theorem length_lt_of_textUnits {cs : List Char} {units : List Nat} {rest : List Char}
    (h : textUnits cs = some (units, rest)) : rest.length < cs.length := by
  fun_induction textUnits cs generalizing units with
  | case1 tail => cases h; simp
  | case2 a b c d tail ih =>
    simp only [Option.bind_eq_bind, Option.bind_eq_some_iff] at h
    obtain ⟨_, _, ⟨us, r⟩, htail, h⟩ := h
    cases h
    have : r.length < tail.length := ih htail
    simp only [List.length_cons]
    omega
  | case3 c tail _ ih =>
    simp only [Option.bind_eq_bind, Option.bind_eq_some_iff] at h
    obtain ⟨_, _, ⟨us, r⟩, htail, h⟩ := h
    cases h
    have : r.length < tail.length := ih htail
    simp only [List.length_cons]
    omega
  | case4 => cases h
  | case5 c tail _ _ _ _ ih =>
    simp only [Option.bind_eq_bind, Option.bind_eq_some_iff] at h
    obtain ⟨⟨us, r⟩, htail, h⟩ := h
    cases h
    have : r.length < tail.length := ih htail
    simp only [List.length_cons]
    omega
  | case6 => cases h

/-! ## Numbers and words -/

/-- The digits at the front of a document. -/
def digits (cs : List Char) : List Char :=
  cs.takeWhile Char.isDigit

/-- The whole part of a number, with its sign; a zero is not followed by digits. -/
def whole : List Char → List Char
  | '-' :: cs =>
    match digits cs with
    | [] => []
    | '0' :: _ => ['-', '0']
    | ds => '-' :: ds
  | cs =>
    match digits cs with
    | '0' :: _ => ['0']
    | ds => ds

/-- The point and the digits after it; empty if there are none. -/
def fraction : List Char → List Char
  | '.' :: cs => if (digits cs).isEmpty then [] else '.' :: digits cs
  | _ => []

/-- An exponent; empty if there is none. -/
def exponent : List Char → List Char
  | [] => []
  | mark :: cs =>
    if mark == 'e' || mark == 'E' then
      let signs := (cs.take 1).filter fun c => c == '+' || c == '-'
      let ds := digits (cs.drop signs.length)
      if ds.isEmpty then [] else mark :: (signs ++ ds)
    else []

/-- The token of an integer. -/
def integerLexeme (text : String) : Lexeme :=
  match Numeral.integer? text with
  | some n => .scalar (.int n)
  | none => .longInteger

/-- The number at the front of a document, with its length. -/
def number? (cs : List Char) : Option (Lexeme × Nat) :=
  let w := whole cs
  if w.isEmpty then none
  else
    let f := fraction (cs.drop w.length)
    let e := exponent (cs.drop (w.length + f.length))
    let text := String.ofList (w ++ f ++ e)
    let length := w.length + f.length + e.length
    if f.isEmpty && e.isEmpty then some (integerLexeme text, length)
    else (Double.parse? text).map fun x => (.scalar (.float x), length)

/-- The words of the format with the data they stand for. -/
def words : List (String × Datum) :=
  [("null", .null), ("true", .bool true), ("false", .bool false), ("NaN", .float Double.nan),
    ("Infinity", .float (Double.infinity false)), ("-Infinity", .float (Double.infinity true))]

/-- The word at the front of a document, with its length. -/
def word? (cs : List Char) : Option (Lexeme × Nat) :=
  (words.find? fun (word, _) => word.toList.isPrefixOf cs).map fun (word, d) =>
    (.scalar d, word.length)

/-- The token of a single sign. -/
def sign? (c : Char) : Option Lexeme :=
  if c == '[' then some .openList
  else if c == ']' then some .closeList
  else if c == '\x7b' then some .openObject
  else if c == '\x7d' then some .closeObject
  else if c == ',' then some .comma
  else if c == ':' then some .colon
  else none

/-- The tokens of a document, up to the first place that starts no token. -/
def scan (cs : List Char) : List Lexeme :=
  match cs with
  | [] => []
  | c :: cs =>
    if isSpace c then scan cs
    else if c == '"' then
      match h : textUnits cs with
      | none => [.stray]
      | some (units, rest) =>
        have := length_lt_of_textUnits h
        .text (String.ofList (ofUnits units)) :: scan rest
    else
      match sign? c with
      | some lexeme => lexeme :: scan cs
      | none =>
        match (word? (c :: cs)).or (number? (c :: cs)) with
        | none => [.stray]
        | some (lexeme, length) => lexeme :: scan (cs.drop (length - 1))
termination_by cs.length
decreasing_by all_goals simp only [List.length_cons, List.length_drop]; omega

/-! ## The machine -/

/-- A list or an object that is still open. -/
inductive Frame where
  /-- A list with its items so far. -/
  | list (items : List Datum)
  /-- An object with its fields so far and the key whose value comes next. -/
  | object (fields : List (String × Datum)) (key : String)

/-- What has to come next. -/
inductive Focus where
  /-- A value, or the end of a list that was just opened. -/
  | value (closable : Bool)
  /-- A key, or the end of the object with the given fields if it was just opened. -/
  | key (fields : List (String × Datum)) (closable : Bool)
  /-- A colon after a key. -/
  | colon (fields : List (String × Datum)) (key : String)
  /-- What may follow a value. -/
  | after (d : Datum)

/-- A state of the machine. -/
structure State where
  /-- The open lists and objects, innermost first. -/
  frames : List Frame
  /-- What has to come next. -/
  focus : Focus

/-- The fields with one more; an equal key takes the new value. -/
def setField (key : String) (d : Datum) : List (String × Datum) → List (String × Datum)
  | [] => [(key, d)]
  | (k, v) :: rest => if k == key then (k, d) :: rest else (k, v) :: setField key d rest

/-- The state after one more token. -/
def State.step (s : State) (lexeme : Lexeme) : Except Fault State :=
  match s.focus, lexeme with
  | .value _, .text t => .ok { s with focus := .after (.text t) }
  | .value _, .scalar d => .ok { s with focus := .after d }
  | .value _, .longInteger => .error .tooManyDigits
  | .value _, .openList => .ok ⟨.list [] :: s.frames, .value true⟩
  | .value _, .openObject => .ok { s with focus := .key [] true }
  | .value true, .closeList =>
    match s.frames with
    | .list items :: rest => .ok ⟨rest, .after (.list items)⟩
    | _ => .error .notWellFormed
  | .key fields _, .text key => .ok { s with focus := .colon fields key }
  | .key fields true, .closeObject => .ok { s with focus := .after (.record fields) }
  | .colon fields key, .colon => .ok ⟨.object fields key :: s.frames, .value false⟩
  | .after d, .comma =>
    match s.frames with
    | .list items :: rest => .ok ⟨.list (items ++ [d]) :: rest, .value false⟩
    | .object fields key :: rest => .ok ⟨rest, .key (setField key d fields) false⟩
    | [] => .error .notWellFormed
  | .after d, .closeList =>
    match s.frames with
    | .list items :: rest => .ok ⟨rest, .after (.list (items ++ [d]))⟩
    | _ => .error .notWellFormed
  | .after d, .closeObject =>
    match s.frames with
    | .object fields key :: rest => .ok ⟨rest, .after (.record (setField key d fields))⟩
    | _ => .error .notWellFormed
  | _, _ => .error .notWellFormed

/-- The data of a document. -/
def parse (document : String) : Except Fault Datum := do
  let s ← (scan document.toList).foldlM State.step ⟨[], .value false⟩
  match s.frames, s.focus with
  | [], .after d => return d
  | _, _ => throw .notWellFormed

end SignedDistance.Json
