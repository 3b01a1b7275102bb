import ModelCatalog.Failure

/-!
# Hosts

What a command asks of the system it runs on. Commands are written once over every `Host`, so what holds of them in a `Workspace` in
memory is about the same code that runs on a disk.
-/

namespace ModelCatalog

/-- A system with files, directories and an output. What cannot be done fails with `Failure.notWritten`. -/
class Host (m : Type → Type) where
  /-- The text of a file, or why it cannot be read. -/
  readText (path : String) : m (Except String String)
  isFile (path : String) : m Bool
  /-- Makes a directory and the directories it lies in, as far as they are missing. -/
  makeDirectory (path : String) : m Unit
  /-- Writes a text to a file of a new name in a directory, and gives the path of the file. -/
  writeNew (directory text : String) : m String
  /-- Gives a file another path. A file that was there is replaced; a directory is not. -/
  rename (source target : String) : m Unit
  /-- Takes a file away. -/
  remove (path : String) : m Unit
  /-- Writes a line to the output. -/
  print (line : String) : m Unit

/-- The path of a name in a directory, the directory without a name being the current one. -/
def joinPath (directory name : String) : String :=
  if directory.isEmpty then name else directory ++ "/" ++ name

end ModelCatalog
