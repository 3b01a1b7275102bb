import ModelCatalog.Files.Host
import ModelCatalog.Text.Search

/-!
# Workspaces

A workspace is a host in memory: files and directories by path, and the text printed so far. Paths are given as on a disk and are
followed name by name, so that a path through something that is not a directory leads nowhere.
-/

namespace ModelCatalog

/-- What is found under a path. -/
inductive Entry where
  | file (text : String)
  | directory
  deriving DecidableEq, Repr

/-- Files and directories below a current directory, and the text printed so far. The key of an entry is the names on the way to it with
slashes between them; the current directory itself has the empty key and no entry. -/
structure Workspace where
  entries : Entries Entry := []
  printed : String := ""
  deriving DecidableEq, Repr

namespace Workspace

/-- A place: the names on the way to it. The root, where absolute paths start, has the empty name, and a place that the current directory
lies in has the name `..` once for each step up to it. -/
abbrev Place := List String

def key (place : Place) : String := "/".intercalate place

/-- The place where a path starts. -/
def start (path : String) : Place := if Text.startsWith path "/" then [""] else []

/-- The names in a path, with slashes between them. -/
def namesOf (path : String) : List String := (path.toList.splitOn '/').map String.ofList

/-- The place that a place lies in. The root lies in itself. -/
def above (place : Place) : Place :=
  if place = [""] then place
  else if place.all (· = "..") then place ++ [".."]
  else place.dropLast

/-- Whether a place is there before anything is made: the root, the current directory and what it lies in. -/
def isGround (place : Place) : Bool := place = [""] || place.all (· = "..")

def found? (w : Workspace) (place : Place) : Option Entry :=
  if isGround place then some .directory else w.entries.get? (key place)

def put (w : Workspace) (place : Place) (e : Entry) : Workspace := { w with entries := w.entries.insert (key place) e }

/-- The place that the names of a path lead to. Each name is looked for in a directory; the last one need not be there. -/
def follow (w : Workspace) : Place → List String → Option Place
  | place, [] => some place
  | place, name :: rest =>
    if w.found? place ≠ some .directory then none
    else if name = "" ∨ name = "." then w.follow place rest
    else if name = ".." then w.follow (above place) rest
    else w.follow (place ++ [name]) rest

/-- The place of a path. -/
def locate (w : Workspace) (path : String) : Option Place := w.follow (start path) (namesOf path)

/-- What is found under a path. -/
def at? (w : Workspace) (path : String) : Option Entry := w.locate path >>= w.found?

/-- How many bytes the path of a file or directory may have. -/
def maxPathBytes : Nat := 4095

/-- How many bytes a name may have. -/
def maxNameBytes : Nat := 255

/-- The bytes that the full path of a new file has besides those of the path of its directory: its own name, and the way to the current
directory. -/
def newFileBytes : Nat := 27

/-- Makes the directories that the names of a path lead through. -/
def makeAlong (w : Workspace) : Place → List String → Except Failure Unit × Workspace
  | _, [] => (.ok (), w)
  | place, name :: rest =>
    if name = "" ∨ name = "." then w.makeAlong place rest
    else if name = ".." then w.makeAlong (above place) rest
    else if maxNameBytes < name.utf8ByteSize then (.error (.notWritten s!"'{name}' is too long"), w)
    else
      let place := place ++ [name]
      match w.found? place with
      | some .directory => w.makeAlong place rest
      | some (.file _) => (.error (.notWritten s!"'{key place}' is a file"), w)
      | none => (w.put place .directory).makeAlong place rest

/-- Makes the directory of a path and those it lies in. A path that ends in `.` names a directory that has to be there already, so only
those it lies in are made. -/
def makeDirectory (w : Workspace) (path : String) : Except Failure Unit × Workspace :=
  if path.toList.contains '\x00' || maxPathBytes < path.utf8ByteSize then (.error (.notWritten s!"'{path}' is no path"), w)
  else
    let names := (namesOf path).filter (· ≠ "")
    if names.getLast? = some "." then
      match w.makeAlong (start path) (names.filter (· ≠ ".")).dropLast with
      | (.ok (), w) =>
        if w.at? path = some .directory then (.ok (), w) else (.error (.notWritten s!"no directory '{path}'"), w)
      | failed => failed
    else w.makeAlong (start path) names

/-- The name of a new file. -/
def newName (n : Nat) : String := ".new" ++ toString n

/-- A number with which a new file in a directory is not there yet. Of more numbers than there are entries, one is free. -/
def freeNumber (w : Workspace) (directory : Place) : Nat :=
  ((List.range (w.entries.length + 1)).find? fun n => (w.found? (directory ++ [newName n])).isNone).getD 0

/-- What runs in a workspace: it may fail, and what it did before stays done. -/
abbrev Run := ExceptT Failure (StateM Workspace)

/-- The place of a path, which has to be reached through directories. -/
def place (path : String) : Run Place := do
  match (← get).locate path with
  | some place => return place
  | none => throw (.notWritten s!"no directory on the way to '{path}'")

/-- The text of the file under a path. -/
def fileText (path : String) : Run String := do
  match (← get).at? path with
  | some (.file text) => return text
  | _ => throw (.notWritten s!"'{path}' is not a file")

def erase (place : Place) : Run Unit := modify fun w => { w with entries := w.entries.erase (key place) }

/-- Writes a file, which must not take the place of a directory. -/
def write (place : Place) (text : String) : Run Unit := do
  if (← get).found? place = some .directory then throw (.notWritten s!"'{key place}' is a directory")
  modify fun w => w.put place (.file text)

instance : Host Run where
  readText path := do
    match (← get).at? path with
    | some (.file text) => return .ok text
    | some .directory => return .error "Is a directory"
    | none => return .error "No such file or directory"
  isFile path := return (← get).at? path matches some (.file _)
  makeDirectory path := do
    let (result, w) := (← get).makeDirectory path
    set w
    result
  writeNew directory text := do
    if maxPathBytes < directory.utf8ByteSize + newFileBytes then throw (.notWritten s!"'{directory}' is too long")
    let place ← place directory
    let name := newName ((← get).freeNumber place)
    write (place ++ [name]) text
    return joinPath directory name
  rename source target := do
    let text ← fileText source
    let target ← place target
    let source ← place source
    write target text
    if key source ≠ key target then erase source
  remove path := do
    let _ ← fileText path
    erase (← place path)
  print line := modify fun w => { w with printed := w.printed ++ line ++ "\n" }

end Workspace

end ModelCatalog
