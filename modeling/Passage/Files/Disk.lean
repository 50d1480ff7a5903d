import Passage.Content
import Passage.Error
import Passage.Files.Path
import Passage.Text.Blank
import Passage.Text.Utf8

/-!
# Files

What reading a path gives, and the texts of the faults that reading meets. A disk
answers for every path; a tree of named files below a working directory is a disk.
-/

namespace Passage.Files

inductive Fault
  | missing
  | isDirectory
  | notDirectory
  | nameTooLong
  | nulInName
  | notText
  /-- Any other fault, by its text. -/
  | other (text : String)
  deriving DecidableEq, Repr

def Fault.message : Fault → String
  | missing => "No such file or directory (os error 2)"
  | isDirectory => "Is a directory (os error 21)"
  | notDirectory => "Not a directory (os error 20)"
  | nameTooLong => "File name too long (os error 36)"
  | nulInName => "file name contained an unexpected NUL byte"
  | notText => "stream did not contain valid UTF-8"
  | other text => text

structure Disk where
  read : String → Except Fault (List UInt8)
  /-- Something has this path, a file or a directory. -/
  has : String → Bool

/-- The text of a file. -/
def Disk.text (d : Disk) (path : String) : Except Fault String :=
  match d.read path with
  | .error e => .error e
  | .ok bytes =>
    match Text.Utf8.text? bytes with
    | some s => .ok s
    | none => .error .notText

/-- Nothing stands at a path with such a fault. -/
def Fault.isAbsence : Fault → Bool
  | missing | notDirectory | nameTooLong | nulInName => true
  | _ => false

/-- The disk on which only these paths lead anywhere, by what reading each of them gives. -/
def Disk.ofReadings (readings : List (String × Except Fault (List UInt8))) : Disk :=
  let reading (path : String) :=
    ((readings.find? (·.1 == path)).map (·.2)).getD (.error .missing)
  { read := reading
    has := fun path => match reading path with
      | .ok _ => true
      | .error e => !e.isAbsence }

/-- Extracts a text file: its name without the extension is the title. -/
def Disk.extract (d : Disk) (source : String) : Except Error Content :=
  let path := Text.trimmed source
  match d.text path with
  | .error e => .error (.extraction ("Failed to read " ++ path ++ ": " ++ e.message))
  | .ok text =>
    let name := Path.fileName? path.toList
    .ok { title := name.map fun n => String.ofList (Path.stem n), text := some text }

/-! ## Trees -/

inductive Entry
  | file (bytes : List UInt8)
  | directory
  deriving DecidableEq, Repr

/-- Files and directories by their names below the working directory; the directories on the way
to a name need no entry of their own. -/
abbrev Tree := List (List (List Char) × Entry)

namespace Tree

/-- What stands at a place below the working directory. -/
def at? (t : Tree) (place : List (List Char)) : Option Entry :=
  if place = [] then some .directory
  else
    match t.find? fun e => e.1 = place with
    | some (_, e) => some e
    | none => if t.any fun e => e.1.take place.length = place then some .directory else none

/-- Where a walk is: at a place below the working directory, or at some directory above it. -/
inductive Position
  | below (place : List (List Char))
  | above
  deriving DecidableEq, Repr

def maxName : Nat := 255

def maxPath : Nat := 4096

def isDirectory (t : Tree) : Position → Bool
  | .below place => t.at? place = some .directory
  | .above => true

/-- Takes one step of a path. Only the working directory is known to be inside those above it. -/
def step (t : Tree) (p : Position) (name : List Char) : Except Fault Position :=
  if !t.isDirectory p then .error .notDirectory
  else if name = [] || name = ['.'] then .ok p
  else if name = ['.', '.'] then
    match p with
    | .below place => if place = [] then .ok .above else .ok (.below place.dropLast)
    | .above => .ok .above
  else if maxName < Text.Utf8.width name then .error .nameTooLong
  else
    match p with
    | .above => .error .missing
    | .below place =>
      if (t.at? (place ++ [name])).isSome then .ok (.below (place ++ [name])) else .error .missing

/-- Follows a path from the working directory, or from the root if it begins with a slash. -/
def resolve (t : Tree) (path : List Char) : Except Fault Position :=
  if path.contains '\x00' then .error .nulInName
  else if path = [] then .error .missing
  else if maxPath ≤ Text.Utf8.width path then .error .nameTooLong
  else
    let start := if path.head? = some '/' then Position.above else .below []
    (path.splitOn '/').foldlM t.step start

def read (t : Tree) (path : List Char) : Except Fault (List UInt8) :=
  match t.resolve path with
  | .error e => .error e
  | .ok .above => .error .isDirectory
  | .ok (.below place) =>
    match t.at? place with
    | some (.file bytes) => .ok bytes
    | some .directory => .error .isDirectory
    | none => .error .missing

def disk (t : Tree) : Disk where
  read path := t.read path.toList
  has path := (t.resolve path.toList).toOption.isSome

end Tree

end Passage.Files
