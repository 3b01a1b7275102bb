import ModelCatalog.Check
import ModelCatalog.Client.Render
import ModelCatalog.Command.Basic
import ModelCatalog.Files.Publish
import ModelCatalog.Settings.Load

/-!
# Running commands

A command first reads the settings, then the schema file, and writes only what it could generate as a whole.
-/

namespace ModelCatalog

namespace Client

/-- The name of the generated module. -/
def moduleFile : String := "models.ts"

/-- The name of the generated JSON document. -/
def schemaFile : String := "schema.json"

/-- The generated files by name, in the order they are published. -/
def Artifacts.files (a : Artifacts) : List (String × String) := [(moduleFile, a.module), (schemaFile, a.schema)]

end Client

variable {m : Type → Type} [Monad m] [MonadExceptOf Failure m] [Host m]

/-- The settings in a file, with those of environment variables in their place; without a file, the default ones with those. -/
def Settings.load (env : Settings.Environment) : Option String → m Settings
  | none => return Settings.ofEnvironment env
  | some path => do
    let format := Format.ofPath path
    match ← Host.readText path with
    | .ok text => return (← liftExcept (Settings.ofText format text)).withEnvironment env
    | .error reason => throw (.settingsUnreadable format path reason)

/-- The registry of a schema file. -/
def Registry.load (path : String) : m Registry := do
  match ← Host.readText path with
  | .ok text => liftExcept (Registry.ofText text [] [])
  | .error reason => throw (.schemaUnreadable path reason)

namespace Client

/-- The files generated for the named models of a registry, or for all when no names are given. -/
def Artifacts.generate (r : Registry) (s : Settings) (models : Option (List String)) : Outcome Artifacts := do
  let members ← match models with
    | some names => r.membersNamed names
    | none => .ok r.allMembers
  return .ofUnits (← units r members s.fieldTypes)

/-- Generates the files for the named models of a registry, or for all, and puts them into a directory. -/
def transpile (r : Registry) (s : Settings) (models : Option (List String)) (directory : String) : m Unit := do
  let artifacts ← liftExcept (Artifacts.generate r s models)
  Publish.publish directory artifacts.files

end Client

namespace Command

/-- Runs a command. -/
def run (s : Settings) : Command → m Unit
  | check schema => do liftExcept ((← Registry.load schema).requireSound s)
  | lookups schema model => do
    let table ← liftExcept (Client.lookupTable (← Registry.load schema) s.fieldTypes model)
    table.forM fun (key, type) => Host.print (key ++ ": " ++ type)
  | transpile schema out models => do
    Client.transpile (← Registry.load schema) s (if models.isEmpty then none else some models) (out.getD s.destination)

end Command

/-- Loads the settings of an invocation and runs its command. -/
def Invocation.run (env : Settings.Environment) (i : Invocation) : m Unit := do
  i.command.run (← Settings.load env i.settings)

end ModelCatalog
