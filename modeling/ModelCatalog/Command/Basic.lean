/-!
# Commands

What can be asked for on the command line.
-/

namespace ModelCatalog

/-- Something to do with the models of a schema file. -/
inductive Command where
  /-- Look for faults in the schema and the settings. -/
  | check (schema : String)
  /-- List the lookup keys of a model. -/
  | lookups (schema model : String)
  /-- Generate the client files, into a directory if one is given, for some models if any are given. -/
  | transpile (schema : String) (out : Option String) (models : List String)
  deriving DecidableEq, Repr

/-- A command, and the file with the settings for it. -/
structure Invocation where
  settings : Option String := none
  command : Command
  deriving DecidableEq, Repr

end ModelCatalog
