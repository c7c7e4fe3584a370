import SignedDistance.Text.CharClass

/-!
# Reading of options

The words of a command line are read in two passes. First every word gets a role: it spells an
option in full, by an unambiguous beginning or together with its value, or it is a plain value. Then
the words are taken from left to right, options with the values that follow them, and plain values
for the places that the command has.

The result is a list of events in the order in which they are met, so that what an early word asks
for can be done before a later word is found to be wrong.
-/

namespace SignedDistance.CommandLine

open Text

/-- The options that a command takes; `ι` identifies them. -/
structure Options (ι : Type) where
  /-- The spellings, each with the option that it stands for. -/
  spellings : List (String × ι)
  /-- The number of values that an option takes. -/
  arity : ι → Nat

/-- An option as it stands on the command line. -/
structure Mention (ι : Type) where
  /-- The option. -/
  which : ι
  /-- Whether it is spelled with a single dash. -/
  short : Bool
  /-- What is attached to the spelling: the text after an equals sign, or after the letter. -/
  attached : Option (List Char)

/-- The role of a word. -/
inductive Role (ι : Type) where
  /-- A plain value. -/
  | value
  /-- The marker after which all words are plain values. -/
  | endOfOptions
  /-- An option that the command takes. -/
  | known (mention : Mention ι)
  /-- An option that the command does not take. -/
  | unknown

/-- A word with its role. -/
structure Word (ι : Type) where
  /-- The text. -/
  text : String
  /-- The role. -/
  role : Role ι

/-! ## Roles -/

/-- The marker after which all words are plain values. -/
def endMarker : String := "--"

/-- Values without the first marker among them, which is never a value itself. -/
def withoutMarker (values : List String) : List String :=
  values.erase endMarker

/-- Whether a spelling has a single dash. -/
def isShort : List Char → Bool
  | '-' :: '-' :: _ => false
  | _ => true

/-- What stands before the first equals sign and, if there is one, after it. -/
def splitEquals : List Char → List Char × Option (List Char)
  | [] => ([], none)
  | '=' :: rest => ([], some rest)
  | c :: rest =>
    let (before, after) := splitEquals rest
    (c :: before, after)

/-- Whether a text is empty or a line feed. -/
def isLineEnd (cs : List Char) : Bool :=
  cs = [] || cs = ['\n']

/-- Whether a text that starts with a dash is a number: digits, or a point with digits after it and
perhaps before it. A line feed may follow. -/
def isNegativeNumber : List Char → Bool
  | '-' :: cs =>
    let digits := cs.takeWhile isDecimal
    match cs.dropWhile isDecimal with
    | '.' :: rest => (rest.takeWhile isDecimal) ≠ [] && isLineEnd (rest.dropWhile isDecimal)
    | rest => digits ≠ [] && isLineEnd rest
  | _ => false

variable {ι : Type}

namespace Options

/-- The option with a spelling. -/
def find? (o : Options ι) (spelling : List Char) : Option ι :=
  o.spellings.lookup (String.ofList spelling)

/-- The options that a word with a dash may mean if it does not spell one out: those whose spelling
starts like the word, or for a single dash the one with that letter, the rest being attached. -/
def candidates (o : Options ι) (cs : List Char) : List (Mention ι) :=
  match cs with
  | '-' :: '-' :: _ =>
    let (start, value) := splitEquals cs
    (o.spellings.filter fun (spelling, _) => start.isPrefixOf spelling.toList).map
      fun (_, i) => ⟨i, false, value⟩
  | '-' :: c :: rest =>
    match o.find? ['-', c] with
    | some i => [⟨i, true, some rest⟩]
    | none => []
  | _ => []

/-- The role of a word before the end of the options; `none` if it may mean several options. -/
def role? (o : Options ι) (text : String) : Option (Role ι) :=
  let cs := text.toList
  match cs with
  | '-' :: rest =>
    match o.find? cs with
    | some i => some (.known ⟨i, isShort cs, none⟩)
    | none =>
      if rest = [] then some .value
      else
        let (start, value) := splitEquals cs
        match value, o.find? start with
        | some _, some i => some (.known ⟨i, isShort start, value⟩)
        | _, _ =>
          match o.candidates cs with
          | [mention] => some (.known mention)
          | _ :: _ :: _ => none
          | [] => some (if isNegativeNumber cs || cs.contains ' ' then .value else .unknown)
  | _ => some .value

/-- The words of a command line with their roles; a word that may mean several options is an
error. -/
def words (o : Options ι) : List String → Except String (List (Word ι))
  | [] => .ok []
  | text :: rest =>
    if text = endMarker then .ok (⟨text, .endOfOptions⟩ :: rest.map fun text => ⟨text, .value⟩)
    else
      match o.role? text with
      | none => .error ("ambiguous option: " ++ text)
      | some role => do return ⟨text, role⟩ :: (← o.words rest)

end Options

/-! ## Events -/

/-- The places for plain values. -/
inductive Places where
  /-- So many single values. -/
  | values (count : Nat)
  /-- The name of a command, to which all words after it belong. -/
  | command

/-- What is met on a command line. -/
inductive Event (ι : Type) where
  /-- An option with its values. -/
  | option (which : ι) (values : List String)
  /-- A value for the next place, `none` if the place is taken by a second marker. -/
  | value (text : Option String)
  /-- The name of a command and the words after it. -/
  | command (name : String) (args : List String)

/-- How the reading of a command line ends. -/
inductive Ending where
  /-- At the end of the words: the number of places without a value, and the words that have no
  place. -/
  | complete (missing : Nat) (extras : List String)
  /-- At a word that cannot be understood. -/
  | failed (message : String)

/-- What is met on a command line, and how it ends. -/
structure Reading (ι : Type) where
  /-- The events in order. -/
  events : List (Event ι)
  /-- The end. -/
  ending : Ending

namespace Reading

/-- A reading that starts with some events. -/
def after (events : List (Event ι)) (r : Reading ι) : Reading ι :=
  { r with events := events ++ r.events }

/-- A reading that starts with a word that has no place. -/
def withExtra (text : String) (r : Reading ι) : Reading ι :=
  match r.ending with
  | .complete missing extras => { r with ending := .complete missing (text :: extras) }
  | .failed _ => r

/-- A reading that fails at once. -/
def failed (message : String) : Reading ι :=
  ⟨[], .failed message⟩

end Reading

/-- Whether a word is a plain value. -/
def Word.isValue (w : Word ι) : Bool :=
  match w.role with
  | .value => true
  | _ => false

/-- Whether a word is the marker after the options. -/
def Word.isEnd (w : Word ι) : Bool :=
  match w.role with
  | .endOfOptions => true
  | _ => false

/-- Whether the first of some words is a plain value. -/
def startsWithValue : List (Word ι) → Bool
  | [] => false
  | w :: _ => w.isValue

/-- The words without the marker after the options, if they start with it. -/
def dropEnd : List (Word ι) → List (Word ι)
  | [] => []
  | w :: ws => if w.isEnd then ws else w :: ws

/-- Leaving out the marker does not make the words longer. -/
theorem length_dropEnd_le (ws : List (Word ι)) : (dropEnd ws).length ≤ ws.length := by
  cases ws with
  | nil => simp [dropEnd]
  | cons w ws => simp only [dropEnd]; split <;> simp

/-- The options of one word. -/
structure Cluster (ι : Type) where
  /-- The options before the last one, which have no values. -/
  flags : List ι
  /-- The last option. -/
  last : ι
  /-- The value of the last option, if it is attached. -/
  value : Option (List Char)

namespace Options

/-- The options that stand together after a single dash: an option with a value takes the rest of
the word, one without a value is followed by the letter of the next. There are none if a letter is
no option or an option cannot take the rest. -/
def cluster (o : Options ι) (which : ι) : List Char → Option (Cluster ι)
  | [] => some ⟨[], which, none⟩
  | c :: rest =>
    if o.arity which = 1 then some ⟨[], which, some (c :: rest)⟩
    else if o.arity which = 0 then do
      let next ← o.find? ['-', c]
      let ⟨flags, last, value⟩ ← o.cluster next rest
      return ⟨which :: flags, last, value⟩
    else none

/-- The options that a mention stands for; `none` if what is attached cannot be understood. -/
def expand (o : Options ι) (mention : Mention ι) : Option (Cluster ι) :=
  match mention.attached with
  | none => some ⟨[], mention.which, none⟩
  | some text =>
    if mention.short ∧ text ≠ [] then o.cluster mention.which text
    else if o.arity mention.which = 1 then some ⟨[], mention.which, some text⟩
    else none

/-- The events and the end of a command line with the given places. -/
def read (o : Options ι) (places : Places) (ws : List (Word ι)) : Reading ι :=
  match ws with
  | [] =>
    match places with
    | .values count => ⟨[], .complete count []⟩
    | .command => ⟨[], .complete 0 []⟩
  | w :: rest =>
    match w.role with
    | .unknown => (o.read places rest).withExtra w.text
    | .known mention =>
      match o.expand mention with
      | none => .failed ("ignored explicit argument: " ++ w.text)
      | some ⟨flags, last, attached⟩ =>
        let flagEvents := flags.map fun i => Event.option i []
        match attached with
        | some value =>
          (o.read places rest).after
            (flagEvents ++ [.option last (withoutMarker [String.ofList value])])
        | none =>
          let count := o.arity last
          if (rest.take count).all Word.isValue && decide (count ≤ rest.length) then
            (o.read places (rest.drop count)).after
              (flagEvents ++ [.option last (withoutMarker ((rest.take count).map (·.text)))])
          else .failed ("missing values for " ++ w.text)
    | .value =>
      match places with
      | .command => ⟨[.command w.text (rest.map (·.text))], .complete 0 []⟩
      | .values 0 => (o.read places rest).withExtra w.text
      | .values (count + 1) =>
        have := length_dropEnd_le rest
        (o.read (.values count) (dropEnd rest)).after [.value (withoutMarker [w.text]).head?]
    | .endOfOptions =>
      match places with
      | .command =>
        if startsWithValue rest then
          ⟨[.command w.text (rest.map (·.text))], .complete 0 []⟩
        else (o.read places rest).withExtra w.text
      | .values 0 => (o.read places rest).withExtra w.text
      | .values (count + 1) =>
        match rest with
        | [] => ⟨[], .complete (count + 1) [w.text]⟩
        | next :: rest => (o.read (.values count) rest).after [.value (some next.text)]
termination_by ws.length

/-- The events and the end of a command line given as texts. -/
def readTexts (o : Options ι) (places : Places) (args : List String) : Reading ι :=
  match o.words args with
  | .ok ws => o.read places ws
  | .error message => .failed message

end Options

end SignedDistance.CommandLine
