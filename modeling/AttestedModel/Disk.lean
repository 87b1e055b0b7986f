import AttestedModel.Bytes
import AttestedModel.OsError
import AttestedModel.Text.Split

/-!
# Disks

A disk says what lies at which location.  A path is text that names a location
from the root or from the working directory; only the disk can say where it
leads, because a component may be entered only if a directory is there.

`Disk.read` is what opening and reading a path gives, `Disk.place` where a file
that is moved onto a path comes to lie.

Names are text, so a disk with names that are not UTF-8 is outside of what is said
here, and so is one with symbolic links: what lies at a location is a file or a
directory.
-/

namespace AttestedModel

/-- The names on the way from the root, outermost first. -/
abbrev Location := List String

/-- What lies at a location. -/
inductive Node
  | file (content : Bytes)
  | directory
deriving DecidableEq, Repr

/-- What lies where.  The root is always a directory. -/
structure Disk where
  entries : List (Location × Node)
  workingDirectory : Location
deriving DecidableEq, Repr

/-- A path taken apart. -/
structure Path where
  absolute : Bool
  /-- The components between the slashes. -/
  parts : List String
  /-- A slash comes last, so that only a directory can be meant. -/
  endsInSlash : Bool
deriving DecidableEq, Repr

namespace Path

/-- Bytes that a component may have. -/
def longestName : Nat := 255

/-- Bytes from which on a path is too long. -/
def pathLimit : Nat := 4096

/-- The path of a text. -/
def ofText (text : String) : Path :=
  let cs := text.toList
  { absolute := cs.head? = some '/'
    parts := ((Text.pieces (· = '/') cs).filter (· ≠ [])).map String.ofList
    endsInSlash := cs.getLast? = some '/' }

/-- A text that holds a NUL. -/
def hasNul (text : String) : Bool :=
  text.toList.any (·.toNat = 0)

/-- A text too long to be a path. -/
def tooLong (text : String) : Bool :=
  pathLimit ≤ text.utf8ByteSize

/-- The path of `name` seen from `directory`.  An absolute name stands for itself. -/
def join (directory name : String) : String :=
  if name.toList.head? = some '/' ∨ directory = "" then name
  else if directory.toList.getLast? = some '/' then directory ++ name
  else directory ++ "/" ++ name

end Path

namespace Disk

/-- What lies at a location. -/
def node? (disk : Disk) (location : Location) : Option Node :=
  if location = [] then some .directory else disk.entries.lookup location

/-- The disk with a node at a location, in the place of what lay there. -/
def put (disk : Disk) (location : Location) (node : Node) : Disk :=
  { disk with entries := (location, node) :: disk.entries.filter (·.1 ≠ location) }

/-- The disk without what lies at a location. -/
def remove (disk : Disk) (location : Location) : Disk :=
  { disk with entries := disk.entries.filter (·.1 ≠ location) }

/-- There is a directory at a location. -/
def requireDirectory (disk : Disk) (location : Location) : Except OsError Unit :=
  match disk.node? location with
  | some .directory => .ok ()
  | some (.file _) => .error .notDirectory
  | none => .error .noSuchFile

/-- The location that a component leads to from a directory. -/
def child (here : Location) (part : String) : Except OsError Location :=
  if part = "." then .ok here
  else if part = ".." then .ok here.dropLast
  else if Path.longestName < part.utf8ByteSize then .error .nameTooLong
  else .ok (here ++ [part])

/-- The location that components lead to, each entered from a directory. -/
def walk (disk : Disk) (here : Location) : List String → Except OsError Location
  | [] => .ok here
  | part :: parts => do
    disk.requireDirectory here
    disk.walk (← child here part) parts

/-- Where a path starts. -/
def start (disk : Disk) (path : Path) : Location :=
  if path.absolute then [] else disk.workingDirectory

/-- The directory at a path. -/
def directory (disk : Disk) (path : Path) : Except OsError Location := do
  let location ← disk.walk (disk.start path) path.parts
  disk.requireDirectory location
  return location

/-- The content of the file at a path. -/
def read (disk : Disk) (text : String) : Except OsError Bytes := do
  if Path.hasNul text then throw .nulInName
  if text = "" then throw .noSuchFile
  if Path.tooLong text then throw .nameTooLong
  let path := Path.ofText text
  match disk.node? (← disk.walk (disk.start path) path.parts) with
  | none => throw .noSuchFile
  | some .directory => throw .isDirectory
  | some (.file content) => if path.endsInSlash then throw .notDirectory else return content

/-- The location of the file at `moved` once it has been moved onto a path.  A file there is
replaced, a directory is not, least of all one on the way to `moved`. -/
def place (disk : Disk) (moved : Location) (text : String) : Except OsError Location := do
  if Path.hasNul text then throw .invalidArgument
  if text = "" then throw .noSuchFile
  if Path.tooLong text then throw .nameTooLong
  let path := Path.ofText text
  let parent ← disk.directory { path with parts := path.parts.dropLast }
  match path.parts.getLast? with
  | none => throw .busy
  | some name =>
    if name = "." ∨ name = ".." then throw .busy
    let location ← child parent name
    if path.endsInSlash then throw .notDirectory
    if location.isPrefixOf moved.dropLast then throw .directoryNotEmpty
    if disk.node? location = some .directory then throw .isDirectory
    return location

/-- The names that a temporary file in a directory may be given: six characters after a mark. -/
def temporaryName (k : Nat) : String :=
  ".tmp" ++ toString (100000 + k)

/-- A path seen from the root. -/
def fromRoot (disk : Disk) (text : String) : String :=
  Path.join ("/" ++ "/".intercalate disk.workingDirectory) text

/-- A location in a directory where nothing lies. -/
def unused (disk : Disk) (directory : Location) : Location :=
  let free := (List.range (disk.entries.length + 1)).find? fun k =>
    disk.node? (directory ++ [temporaryName k]) = none
  directory ++ [temporaryName (free.getD 0)]

/-- Where a new temporary file in the directory of a path comes to lie.  It is made under its path
from the root, so that it can be removed from anywhere. -/
def temporary (disk : Disk) (text : String) : Except OsError Location := do
  if Path.hasNul text then throw .nulInName
  if Path.tooLong (Path.join (disk.fromRoot text) (temporaryName 0)) then throw .nameTooLong
  return disk.unused (← disk.directory (Path.ofText text))

end Disk

end AttestedModel
