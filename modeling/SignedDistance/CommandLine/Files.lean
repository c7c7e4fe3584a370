import SignedDistance.Tensor.Basic
import SignedDistance.Text.Quoted

/-!
# Files

The operations on files that the commands need, and a directory tree in memory that offers them. Its
paths are relative to a working directory, which lies in a directory of its own so that `..` leads
out of it.
-/

namespace SignedDistance.CommandLine

open Text

/-- Why the system refuses an operation on a file. -/
structure SystemFault where
  /-- The number. -/
  number : Nat
  /-- The description. -/
  description : String
deriving DecidableEq, Repr

namespace SystemFault

/-- There is no such file or directory. -/
def missing : SystemFault := ⟨2, "No such file or directory"⟩

/-- There is one already. -/
def taken : SystemFault := ⟨17, "File exists"⟩

/-- A part of the path is a file where a directory is needed. -/
def notDirectory : SystemFault := ⟨20, "Not a directory"⟩

/-- The path leads to a directory where a file is needed. -/
def isDirectory : SystemFault := ⟨21, "Is a directory"⟩

/-- The path, or a name in it, is too long. -/
def nameTooLong : SystemFault := ⟨36, "File name too long"⟩

end SystemFault

/-- A failed operation on a file. -/
inductive FileError where
  /-- The system refuses it. A stream has no path. -/
  | system (fault : SystemFault) (path : Option String)
  /-- No path can contain a null character. -/
  | nullCharacter
  /-- What is read is not text. -/
  | notText
deriving DecidableEq, Repr

/-- The wording of a file error. -/
def FileError.message : FileError → String
  | system fault path =>
    let place := match path with
      | some path => ": " ++ quoted path
      | none => ""
    "[Errno " ++ toString fault.number ++ "] " ++ fault.description ++ place
  | nullCharacter => "a path contains a null character"
  | notText => "a file is not text"

/-- The operations on files that the commands need. -/
structure FileSystem (m : Type → Type) where
  /-- The text of a file. -/
  readText : String → m (Except FileError String)
  /-- The text on the standard input. -/
  readInput : m (Except FileError String)
  /-- Creates a directory and those above it, unless they exist. -/
  createDirectories : String → m (Except FileError Unit)
  /-- Writes an array to a file. -/
  writeArray : String → Tensor Float → m (Except FileError Unit)

/-! ## A tree in memory -/

/-- The place of a file: the names of the directories and of the file, from the top. -/
abbrev Location := List String

/-- What a file holds. -/
inductive Content where
  /-- A text. -/
  | text (s : String)
  /-- An array. -/
  | array (t : Tensor Float)

/-- A directory tree. -/
structure Tree where
  /-- The files. -/
  files : List (Location × Content) := []
  /-- The directories; those above a file or a directory need not be listed. -/
  directories : List Location := []

namespace Tree

/-- The working directory. -/
def workingDirectory : Location := ["work"]

/-- What stands at a place. -/
inductive Entry where
  /-- A directory. -/
  | directory
  /-- A file. -/
  | file (content : Content)

/-- The entry at a place. -/
def entry? (t : Tree) (here : Location) : Option Entry :=
  match t.files.lookup here with
  | some content => some (.file content)
  | none =>
    let places := workingDirectory :: t.directories ++ t.files.map (·.1)
    if places.any here.isPrefixOf then some .directory else none

/-- Demands a directory. -/
def demandDirectory (t : Tree) (here : Location) : Except SystemFault Unit :=
  match t.entry? here with
  | some .directory => .ok ()
  | some (.file _) => .error .notDirectory
  | none => .error .missing

/-- The greatest number of bytes of a name. -/
def maxNameBytes : Nat := 255

/-- The greatest number of bytes of a path. -/
def maxPathBytes : Nat := 4095

/-- Goes down by the parts of a path; every step starts in a directory. -/
def descend (t : Tree) (here : Location) : List String → Except SystemFault Location
  | [] => .ok here
  | part :: parts => do
    t.demandDirectory here
    if part = "" ∨ part = "." then t.descend here parts
    else if part = ".." then t.descend here.dropLast parts
    else if maxNameBytes < part.utf8ByteSize then throw .nameTooLong
    else t.descend (here ++ [part]) parts

/-- The parts of a path between slashes. -/
def parts (path : String) : List String :=
  path.splitOn "/"

/-- The place that a path leads to. -/
def locate (t : Tree) (path : String) : Except FileError Location :=
  if path.contains '\x00' then .error .nullCharacter
  else if path = "" then .error (.system .missing path)
  else if maxPathBytes < path.utf8ByteSize then .error (.system .nameTooLong path)
  else
    let start := if path.startsWith "/" then [] else workingDirectory
    (t.descend start (parts path)).mapError (.system · path)

/-- The entry that a path leads to, if there is one. -/
def entryAt? (t : Tree) (path : String) : Option Entry :=
  match t.locate path with
  | .ok here => t.entry? here
  | .error _ => none

/-- Whether a path leads to a directory. -/
def isDirectoryAt (t : Tree) (path : String) : Bool :=
  match t.entryAt? path with
  | some .directory => true
  | _ => false

/-- The content of the file that a path leads to. -/
def read (t : Tree) (path : String) : Except FileError Content := do
  match t.entry? (← t.locate path) with
  | some (.file content) => return content
  | some .directory => throw (.system .isDirectory path)
  | none => throw (.system .missing path)

/-- Creates a directory; the one above it must exist. -/
def createDirectory (t : Tree) (path : String) : Except FileError Tree := do
  let here ← t.locate path
  match t.entry? here with
  | some _ => throw (.system .taken path)
  | none => return { t with directories := here :: t.directories }

/-- Splits a path at its last slash; slashes at the end of the first part are dropped unless there
is nothing else. -/
def splitLast (path : List Char) : List Char × List Char :=
  let tail := (path.reverse.takeWhile (· ≠ '/')).reverse
  let head := (path.reverse.dropWhile (· ≠ '/')).reverse
  let trimmed := (head.reverse.dropWhile (· = '/')).reverse
  (if trimmed = [] then head else trimmed, tail)

/-- The part of a path before its last slash. -/
def parent (path : String) : String :=
  String.ofList (splitLast path.toList).1

/-- Creates a directory and those above it, unless they exist. At most `fuel` levels are created. -/
def createUpTo (t : Tree) (fuel : Nat) (path : List Char) : Except FileError Tree :=
  match fuel with
  | 0 => .ok t
  | fuel + 1 =>
    let (head, tail) :=
      match splitLast path with
      | (head, []) => splitLast head
      | split => split
    let above : Except FileError Tree :=
      if head ≠ [] ∧ tail ≠ [] ∧ (t.entryAt? (String.ofList head)).isNone then
        match t.createUpTo fuel head with
        | .ok t => .ok t
        | .error (.system fault path) =>
          if fault = .taken then .ok t else .error (.system fault path)
        | .error e => .error e
      else .ok t
    match above with
    | .error e => .error e
    | .ok above =>
      let name := String.ofList path
      match above.createDirectory name with
      | .ok t => .ok t
      | .error e => if above.isDirectoryAt name then .ok above else .error e

/-- Creates a directory and those above it, unless they exist. -/
def createDirectories (t : Tree) (path : String) : Except FileError Tree :=
  t.createUpTo path.length path.toList

/-- The files with their paths in the working directory. -/
def paths (t : Tree) : List (String × Content) :=
  t.files.filterMap fun (here, content) =>
    match here with
    | "work" :: rest => some ("/".intercalate rest, content)
    | _ => none

/-- A tree with some text files in the working directory. -/
def ofTexts (files : List (String × String)) : Tree where
  files := files.map fun (path, s) => (workingDirectory ++ parts path, .text s)

/-- A change of the tree. -/
def change (f : Tree → Except FileError Tree) : StateM Tree (Except FileError Unit) := do
  match f (← get) with
  | .ok t =>
    set t
    return .ok ()
  | .error e => return .error e

end Tree

end SignedDistance.CommandLine
