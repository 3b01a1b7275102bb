import ModelCatalog.Files.Host

/-!
# Publishing files

Texts are put into files of a directory, all of them or none. Each text is first written to a file of a new name, and these files are
then renamed one after another, the file that a new one replaces being kept under another name until all are in place. When a file
cannot be put into its place, those before it are taken back. What cannot be tidied up stays, and nothing more is said of it.
-/

namespace ModelCatalog.Publish

variable {m : Type → Type} [Monad m] [MonadExceptOf Failure m] [Host m]

/-- Does something if it can be done. -/
def quietly (action : m Unit) : m Unit :=
  try action
  catch _ => pure ()

/-- Does something, and if it fails, makes up for it and fails all the same. -/
def orUndo {α : Type} (action : m α) (undo : m Unit) : m α :=
  try action
  catch failure =>
    undo
    throw failure

/-- Takes a file away if it is still there. -/
def discard (path : String) : m Unit := do
  if ← Host.isFile path then quietly (Host.remove path)

/-- Writes texts to files of new names in a directory, all of them or none. Each text comes with the name that its file is for. -/
def stage (directory : String) : List (String × String) → m (List (String × String))
  | [] => return []
  | (name, text) :: rest => do
    let written ← Host.writeNew directory text
    let others ← orUndo (stage directory rest) (discard written)
    return (name, written) :: others

/-- Gives the file under a path a new name in its directory, if there is a file. -/
def moveAside (directory path : String) : m (Option String) := do
  if ← Host.isFile path then
    let aside ← Host.writeNew directory ""
    orUndo (Host.rename path aside) (discard aside)
    return some aside
  else return none

/-- Puts a file that was moved aside back under its path. -/
def restore (path aside : String) : m Unit :=
  try Host.rename aside path
  catch _ => discard aside

/-- Renames a written file to a path, and gives the path of the file that was there. It is put back if the new one cannot take its place. -/
def replace (directory path written : String) : m (Option String) := do
  let previous ← moveAside directory path
  orUndo (Host.rename written path) (previous.forM (restore path))
  return previous

/-- Makes a path be as it was before a file was put there. -/
def takeBack (path : String) : Option String → m Unit
  | some aside => restore path aside
  | none => quietly (Host.remove path)

/-- Renames files that are already written, each to its own name in the directory, all or none. -/
def moveAll (directory : String) : List (String × String) → m Unit
  | [] => return
  | (name, written) :: rest => do
    let path := joinPath directory name
    let previous ← replace directory path written
    orUndo (moveAll directory rest) (takeBack path previous)
    previous.forM discard

/-- Puts texts into the files of a directory, all of them or none. -/
def putAll (directory : String) (files : List (String × String)) : m Unit := do
  let written ← stage directory files
  orUndo (moveAll directory written) (written.forM fun entry => discard entry.2)

/-- Puts texts into the files of a directory, which is made if it is missing. -/
def publish (directory : String) (files : List (String × String)) : m Unit := do
  Host.makeDirectory directory
  putAll directory files

end ModelCatalog.Publish
