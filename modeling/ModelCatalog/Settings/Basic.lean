import ModelCatalog.Json.Shape

/-!
# Settings

What generation and request handling can be told. Settings that are not given keep their default.
-/

namespace ModelCatalog

/-- How log lines are written. -/
inductive LogFormat where
  | pretty
  | compact
  | json
  deriving DecidableEq, Repr

/-- The settings of a run. -/
structure Settings where
  debug : Bool := true
  logLevel : String := "info"
  logFormat : LogFormat := .compact
  /-- The directory that generated files are put into. -/
  destination : String := "ts"
  /-- Types by name of field kind or serializer, written as they are. -/
  fieldTypes : Dict String := .empty
  defaultPageSize : Nat := 25
  maxPageSize : Option Nat := none
  deriving DecidableEq, Repr

namespace LogFormat

/-- Every log format, in order. -/
def all : List LogFormat := [pretty, compact, json]

def name : LogFormat → String
  | pretty => "pretty"
  | compact => "compact"
  | json => "json"

/-- The log format of a name. -/
def ofName? (name : String) : Option LogFormat := all.find? fun format => format.name = name

/-- A log format is given by its name, or by an object with its name over null. -/
def read? : Json → Option LogFormat
  | .text name => ofName? name
  | .object [(name, .null)] => ofName? name
  | _ => none

end LogFormat

namespace Settings

/-- The page size for a request: the one it asks for or the default, cut to the greatest allowed one. -/
def pageSize (s : Settings) (requested : Option Nat) : Nat :=
  let size := requested.getD s.defaultPageSize
  match s.maxPageSize with
  | some most => min size most
  | none => size

def toJson (s : Settings) : Json :=
  .object [("debug", .bool s.debug), ("default_page_size", .nat s.defaultPageSize),
    ("field_types", .object (s.fieldTypes.mapValues Json.text)), ("log_format", .text s.logFormat.name),
    ("log_level", .text s.logLevel), ("max_page_size", (s.maxPageSize.map Json.nat).getD .null),
    ("transpile_dest", .text s.destination)]

/-- Settings of which every one is given, except that an object may leave out the greatest page size. -/
def read? (value : Json) : Option Settings :=
  match Json.slots? [["debug"], ["log_level"], ["log_format"], ["transpile_dest"], ["field_types"], ["default_page_size"],
      ["max_page_size"]] value with
  | some [debug, logLevel, logFormat, destination, fieldTypes, defaultPageSize, maxPageSize] => do
    return {
      debug := ← debug.required? Json.readBool?
      logLevel := ← logLevel.required? Json.readText?
      logFormat := ← logFormat.required? LogFormat.read?
      destination := ← destination.required? Json.readText?
      fieldTypes := ← fieldTypes.required? (Json.readDict? Json.readText?)
      defaultPageSize := ← defaultPageSize.required? Json.readCount?
      maxPageSize := ← maxPageSize.nullableInObject? Json.readCount? }
  | _ => none

end Settings

end ModelCatalog
