import ModelCatalog.Failure
import ModelCatalog.Json.Parser
import ModelCatalog.Settings.Basic
import ModelCatalog.Text.Lowercase
import ModelCatalog.Toml.Parser

/-!
# Loading settings

Settings come from a file, merged over the defaults, and from environment variables, which come last.
-/

namespace ModelCatalog

mutual

/-- A value laid over another one: the members of objects are laid over each other, anything else is replaced. -/
def Json.over (base : Json) : Json → Json
  | .object members =>
    match base with
    | .object under => .object (Json.membersOver under members)
    | _ => .object members
  | other => other

/-- Members laid over those of a dictionary. -/
def Json.membersOver (under : Dict Json) : List (String × Json) → Dict Json
  | [] => under
  | (name, value) :: rest =>
    Json.membersOver
      (under.insert name
        (match under.get? name with
        | some base => Json.over base value
        | none => value))
      rest

end

/-- The last name in a path. -/
def fileName (path : String) : String :=
  ((((path.toList.splitOn '/').map String.ofList).filter fun name => name ≠ "" && name ≠ ".").getLast?).getD ""

/-- The format of a settings file: JSON if its name goes on to the extension `json`, else TOML. -/
def Format.ofPath (path : String) : Format :=
  let name := fileName path
  if name ≠ ".json" && ".json".toList.isSuffixOf name.toList then .json else .toml

namespace Settings

/-- The settings in a value, over the defaults. The default page size must not be zero. -/
def ofValue (format : Format) (value : Json) : Outcome Settings :=
  match read? (Json.over ({} : Settings).toJson value) with
  | none => .error (.settingsMisshapen format)
  | some s => if s.defaultPageSize = 0 then .error .zeroPageSize else .ok s

/-- The settings in a JSON text. -/
def ofJsonText (text : String) : Outcome Settings :=
  match Json.parse? text with
  | some value => ofValue .json value
  | none => .error (.settingsUnparsed .json)

/-- The settings in a TOML text. -/
def ofTomlText (text : String) : Outcome Settings :=
  match Toml.parse? text with
  | some value => ofValue .toml value
  | none => .error (.settingsUnparsed .toml)

/-- The settings in a text. -/
def ofText : Format → String → Outcome Settings
  | .toml, text => ofTomlText text
  | .json, text => ofJsonText text

/-! ### Environment variables -/

/-- The values of environment variables by name. -/
abbrev Environment := Dict String

/-- A count of at most 64 bits in decimal digits, with or without a plus sign. -/
def readCount? (s : String) : Option Nat :=
  let digits := match s.toList with
    | '+' :: rest => rest
    | cs => cs
  if digits.isEmpty then none
  else do
    let n := (← digits.mapM Json.digit?).foldl (fun n d => 10 * n + d) 0
    if n < UInt64.size then some n else none

/-- The settings with those of environment variables in their place; values that cannot be read do not count. -/
def withEnvironment (env : Environment) (s : Settings) : Settings where
  debug := ((env.get? "MODELTYPE_DEBUG").map fun v => ["true", "1", "yes"].contains (Text.lower v)).getD s.debug
  logLevel := (env.get? "MODELTYPE_LOG_LEVEL").getD s.logLevel
  logFormat := ((env.get? "MODELTYPE_LOG_FORMAT").bind fun v => LogFormat.ofName? (Text.lowerAscii v)).getD s.logFormat
  destination := (env.get? "MODELTYPE_TRANSPILE_DEST").getD s.destination
  fieldTypes := s.fieldTypes
  defaultPageSize := ((env.get? "MODELTYPE_DEFAULT_PAGE_SIZE").bind readCount?).getD s.defaultPageSize
  maxPageSize := ((env.get? "MODELTYPE_MAX_PAGE_SIZE").bind readCount?) <|> s.maxPageSize

/-- The default settings with those of environment variables. -/
def ofEnvironment (env : Environment) : Settings := withEnvironment env {}

end Settings

end ModelCatalog
