import ModelCatalog.Json.Printer

/-!
# Failures

Every way in which reading a schema, loading settings or serving a request can fail is a constructor of `Failure`. `Failure.message`
is its wording, `Failure.kind` the class a client tells it by.
-/

namespace ModelCatalog

/-- A rule that was broken: a message for people and a code for programs. -/
structure Complaint where
  message : String
  code : String
  params : Dict String := .empty
  deriving DecidableEq, Repr

/-- What is wrong with submitted values: one complaint about them as a whole, or complaints by field. -/
structure Rejection extends Complaint where
  fields : Dict (List Complaint) := .empty
  deriving DecidableEq, Repr

namespace Rejection

/-- A complaint about the values as a whole. -/
def plain (message code : String) : Rejection := { message, code }

/-- Complaints by field. -/
def byField (fields : Dict (List Complaint)) : Rejection := { message := "", code := "", fields }

/-- One complaint about one field. -/
def onField (field message code : String) : Rejection := byField (.of [(field, [{ message, code }])])

/-- The rejection as one line: its message, or the complaints of all fields in order of field. -/
def text (r : Rejection) : String :=
  if r.message.isEmpty then
    "; ".intercalate (r.fields.entries.flatMap fun entry => entry.2.map fun c => entry.1 ++ ": " ++ c.message)
  else r.message

/-- The body of a response that carries the rejection. -/
def body (r : Rejection) : Json :=
  if r.fields.isEmpty then .object [("code", .text r.code), ("detail", .text r.message)]
  else .object (r.fields.map fun entry => (entry.1, .list (entry.2.map fun c => .text c.message)))

end Rejection

/-- The format of a settings file. -/
inductive Format where
  | toml
  | json
  deriving DecidableEq, Repr

/-- The name of a format. -/
def Format.name : Format → String
  | toml => "TOML"
  | json => "JSON"

/-- The class of a failure. -/
inductive Failure.Kind where
  | badRequest
  | rejected
  | missing
  | ambiguous
  | unknownField
  | storage
  | configuration
  | registration
  | files
  deriving DecidableEq, Repr

/-- Why something cannot be done. -/
inductive Failure where
  /-- Submitted values break a rule. -/
  | rejected (rejection : Rejection)
  /-- A method turned the call down. -/
  | refused (reason : String)
  | prefetchThroughPlainField (model relation : String)
  | staticMethodWithKey (model method : String)
  | rowMethodWithoutKey (model method : String)
  | noRow (model : String) (key : Json)
  | noMethod (model method : String)
  | manyRows (model : String) (key : Json)
  | manyMatches (model : String) (count : Nat)
  | pathThroughPlainField (path segment : String)
  | pathWithoutField (path model segment : String)
  | prefetchWithoutField (model relation : String)
  | rowWithoutKey (model column : String)
  | schemaMalformed
  | schemaUnreadable (path reason : String)
  | modelTwice (model : String)
  | inverseDeclared (model field : String)
  | nameTwice (model name : String)
  | propertyShadowsField (model property : String)
  | methodShadowsMember (model method : String)
  | argumentTwice (model method argument : String)
  | plainId (model : String)
  | manyKeys (model : String) (count : Nat)
  | unknownTarget (model field target : String)
  | inverseClash (name source target : String)
  | methodShadowsField (model method : String)
  | validatorWithoutModel (model : String)
  | validatorWithoutField (model field : String)
  | handlerWithoutMethod (model method : String)
  | handlerTwice
  | settingsUnreadable (format : Format) (path reason : String)
  | settingsUnparsed (format : Format)
  | settingsMisshapen (format : Format)
  | zeroPageSize
  | checksFailed (errors : Nat)
  | unknownModel (model : String)
  | noKey (model : String)
  | keyCycle (model : String)
  | noHandler (model method : String)
  /-- A file or directory could not be written. -/
  | notWritten (reason : String)
  deriving Repr

namespace Failure

/-- A complaint about one field. -/
def onField (field message code : String) : Failure := .rejected (.onField field message code)

/-- The class of a failure. -/
def kind : Failure → Kind
  | .rejected _ => .rejected
  | .refused _ | .prefetchThroughPlainField .. | .staticMethodWithKey .. | .rowMethodWithoutKey .. => .badRequest
  | .noRow .. | .noMethod .. => .missing
  | .manyRows .. | .manyMatches .. => .ambiguous
  | .pathThroughPlainField .. | .pathWithoutField .. | .prefetchWithoutField .. => .unknownField
  | .rowWithoutKey .. => .storage
  | .unknownModel _ | .noKey _ | .keyCycle _ | .noHandler .. => .registration
  | .notWritten _ => .files
  | .schemaMalformed | .schemaUnreadable .. | .modelTwice _ | .inverseDeclared .. | .nameTwice ..
  | .propertyShadowsField .. | .methodShadowsMember .. | .argumentTwice .. | .plainId _ | .manyKeys ..
  | .unknownTarget .. | .inverseClash .. | .methodShadowsField .. | .validatorWithoutModel _
  | .validatorWithoutField .. | .handlerWithoutMethod .. | .handlerTwice | .settingsUnreadable ..
  | .settingsUnparsed _ | .settingsMisshapen _ | .zeroPageSize | .checksFailed _ => .configuration

/-- What a message of the class begins with. -/
def Kind.heading : Kind → String
  | .badRequest => "Bad request"
  | .rejected => "Validation error"
  | .missing => "Object does not exist"
  | .ambiguous => "Multiple objects returned when one expected"
  | .unknownField => "Field does not exist"
  | .storage => "Database error"
  | .configuration => "Configuration error"
  | .registration => "Improperly configured"
  | .files => "IO error"

/-- The status of a response to a request that failed so. -/
def Kind.status : Kind → Nat
  | .badRequest | .rejected | .unknownField => 400
  | .missing => 404
  | .ambiguous | .storage | .configuration | .registration | .files => 500

/-- Whether the class is about the schema and the settings and not about a request. -/
def Kind.isSetup : Kind → Bool
  | .configuration | .registration => true
  | _ => false

/-- The wording of a failure, without its heading. -/
def detail : Failure → String
  | .rejected rejection => rejection.text
  | .refused reason => reason
  | .prefetchThroughPlainField model relation =>
    s!"Cannot prefetch through '{relation}' on {model}: not a relation"
  | .staticMethodWithKey model method => s!"'{model}.{method}' is static and takes no primary key"
  | .rowMethodWithoutKey model method => s!"'{model}.{method}' needs the primary key of a row"
  | .noRow model key | .manyRows model key => model ++ " matching pk=" ++ key.compact
  | .noMethod model method => s!"{model} has no method '{method}'"
  | .manyMatches model count => s!"{count} rows of {model} match the lookup"
  | .pathThroughPlainField path segment => s!"Cannot resolve '{path}': '{segment}' is not a relation"
  | .pathWithoutField path model segment => s!"Cannot resolve '{path}': '{model}' has no field '{segment}'"
  | .prefetchWithoutField model relation => s!"{model} has no field named '{relation}'"
  | .rowWithoutKey model column => s!"Stored {model} row has no '{column}'"
  | .schemaMalformed => "Invalid schema file: the text does not describe models"
  | .schemaUnreadable path reason => s!"Failed to read schema file '{path}': {reason}"
  | .modelTwice model => s!"Model '{model}' is registered twice"
  | .inverseDeclared model field =>
    s!"'{model}.{field}': reverse relations are derived from forward relations and cannot be declared"
  | .nameTwice model name => s!"'{model}' declares '{name}' more than once"
  | .propertyShadowsField model property => s!"Property '{property}' on '{model}' shadows a field"
  | .methodShadowsMember model method => s!"Method '{method}' on '{model}' shadows a generated client member"
  | .argumentTwice model method argument =>
    s!"Method '{model}.{method}' declares argument '{argument}' more than once"
  | .plainId model => s!"'{model}' has a non-primary-key field named 'id' and no primary key"
  | .manyKeys model count => s!"'{model}' declares {count} primary keys"
  | .unknownTarget model field target => s!"'{model}.{field}' relates to unknown model '{target}'"
  | .inverseClash name source target =>
    s!"Reverse relation '{name}' from '{source}' clashes with a field on '{target}'"
  | .methodShadowsField model method => s!"Method '{method}' on '{model}' shadows a field"
  | .validatorWithoutModel model => s!"Validator registered for unknown model '{model}'"
  | .validatorWithoutField model field => s!"Validator on '{model}' references unknown field '{field}'"
  | .handlerWithoutMethod model method => s!"Handler registered for undeclared method '{model}.{method}'"
  | .handlerTwice => "A method handler is registered twice"
  | .settingsUnreadable n path reason => s!"Failed to read {n.name} file '{path}': {reason}"
  | .settingsUnparsed n => s!"Failed to parse {n.name}: not a value"
  | .settingsMisshapen n => s!"Failed to deserialize settings from {n.name}: not settings"
  | .zeroPageSize => "default_page_size must be greater than zero"
  | .checksFailed errors => s!"System check found {errors} error(s)"
  | .unknownModel model => s!"Model '{model}' is not registered"
  | .noKey model => s!"Model '{model}' has no primary key"
  | .keyCycle model => s!"Primary key of '{model}' forms a relation cycle"
  | .noHandler model method => s!"No handler for '{model}.{method}'"
  | .notWritten reason => reason

/-- The wording of a failure. -/
def message (f : Failure) : String := f.kind.heading ++ ": " ++ f.detail

end Failure

/-- A result, or why there is none. -/
abbrev Outcome (α : Type) := Except Failure α

end ModelCatalog
