import ModelCatalog.Command.Arguments
import ModelCatalog.Command.Run

/-!
# The command line program

The disk is a host like any other: each operation of `Host` is one of the system, and what the system refuses is a failure.
-/

namespace ModelCatalog

/-- What runs on the disk. -/
abbrev Disk := ExceptT Failure IO

namespace Disk

/-- An operation of the system, a refusal of which is a failure. -/
def attempt {α : Type} (action : IO α) : Disk α := do
  match ← action.toBaseIO with
  | .ok value => return value
  | .error e => throw (.notWritten (toString e))

/-- Writes a text to a file of a name that is not taken, trying one number after another. -/
def writeNumbered (directory text : String) : Nat → Nat → Disk String
  | 0, _ => throw (.notWritten s!"no new file can be made in '{directory}'")
  | tries + 1, n => do
    let path := joinPath directory s!".new{n}"
    match ← (IO.FS.Handle.mk path .writeNew).toBaseIO with
    | .ok file =>
      attempt (file.putStr text)
      return path
    | .error _ => writeNumbered directory text tries (n + 1)

instance : Host Disk where
  readText path := do
    match ← (IO.FS.readFile path).toBaseIO with
    | .ok text => return .ok text
    | .error e => return .error (toString e)
  isFile path := do
    match ← (IO.FS.readBinFile path).toBaseIO with
    | .ok _ => return true
    | .error _ => return false
  makeDirectory path := if path.isEmpty then return else attempt (IO.FS.createDirAll path)
  writeNew directory text := writeNumbered directory text 1000 0
  rename source target := attempt (IO.FS.rename source target)
  remove path := attempt (IO.FS.removeFile path)
  print line := attempt (IO.println line)

end Disk

/-- The environment variables that settings are read from. -/
def settingNames : List String :=
  ["MODELTYPE_DEBUG", "MODELTYPE_DEFAULT_PAGE_SIZE", "MODELTYPE_LOG_FORMAT", "MODELTYPE_LOG_LEVEL", "MODELTYPE_MAX_PAGE_SIZE",
    "MODELTYPE_TRANSPILE_DEST"]

/-- The values of the environment variables that are set. -/
def environment : IO Settings.Environment := do
  let values ← settingNames.mapM fun name => return (← IO.getEnv name).map fun value => (name, value)
  return values.filterMap id

end ModelCatalog

open ModelCatalog in
/-- Runs the command that the arguments ask for. A refused command line ends with status 2, a failure with status 1. -/
def main (args : List String) : IO UInt32 := do
  match Command.read args with
  | .error refusal =>
    IO.eprintln s!"error: {refusal.name}"
    return 2
  | .ok invocation =>
    let run : Disk Unit := invocation.run (← environment)
    match ← run with
    | .ok () => return 0
    | .error failure =>
      IO.eprintln ("Error: " ++ failure.message)
      return 1
