import ModelCatalog.Json.Parser
import ModelCatalog.Json.Shape
import ModelCatalog.Schema.Model

/-!
# Schemas as JSON

The form in which models are written in schema files. A kind and a field carry a tag that says which of their forms it is; members that
may be left out are written only when they say something. An outline says for each structure which of its members are read; a value with
a tag is read as a whole, since its tag may come last.
-/

namespace ModelCatalog

/-- A member that is left out when the value is absent. -/
def Json.optional (name : String) : Option String → List (String × Json)
  | none => []
  | some s => [(name, .text s)]

/-- A member that is left out when there are no items. -/
def Json.nonempty (name : String) : List Json → List (String × Json)
  | [] => []
  | items => [(name, .list items)]

namespace Kind

/-- The form of a kind, without its parameters. -/
inductive Tag where
  | scalar (s : Scalar)
  | array
  | custom

/-- Every tag, in order. -/
def Tag.all : List Tag := Scalar.all.map .scalar ++ [.array, .custom]

/-- The name of a tag. -/
def Tag.name : Tag → String
  | scalar s => s.name
  | array => "ArrayField"
  | custom => "Custom"

/-- The tag that a value names. Inside a tagged value, where `byPosition` holds, the position of the tag among all is a name too. -/
def Tag.read? (byPosition : Bool) : Json → Option Tag
  | .text s => Tag.all.find? fun tag => tag.name = s
  | .number n => if byPosition then (n.toNat? Tag.all.length).bind (Tag.all[·]?) else none
  | _ => none

/-- A kind as JSON. -/
def toJson : Kind → Json
  | scalar s => .object [("type", .text s.name)]
  | array base => .object [("base", base.toJson), ("type", .text "ArrayField")]
  | custom name => .object [("name", .text name), ("type", .text "Custom")]

/-- A kind from its tag, what can be read as base kinds, and what can be read as names. -/
def assemble? (tag : Option Tag) (bases : List (Option Kind)) (names : List Json) : Option Kind :=
  match tag with
  | some (.scalar s) => some (.scalar s)
  | some .array =>
    match bases with
    | [some base] => some (.array base)
    | _ => none
  | some .custom =>
    match names with
    | [.text name] => some (.custom name)
    | _ => none
  | none => none

mutual

/-- A kind. -/
def read? (byPosition : Bool) : Json → Option Kind
  | .object members =>
    match Json.membersNamed ["type"] members with
    | [tag] => assemble? (Tag.read? byPosition tag) (readBases members) (Json.membersNamed ["name"] members)
    | _ => none
  | .list (tag :: rest) =>
    match Tag.read? byPosition tag, rest with
    | some (.scalar s), [] => some (.scalar s)
    | some (.scalar _), _ => none
    | tag, rest => assemble? tag (readItems rest) rest
  | _ => none

/-- The readings of the members that give a base kind. -/
def readBases : List (String × Json) → List (Option Kind)
  | [] => []
  | (name, value) :: rest => if name = "base" then read? true value :: readBases rest else readBases rest

/-- The readings of items as base kinds. -/
def readItems : List Json → List (Option Kind)
  | [] => []
  | item :: rest => read? true item :: readItems rest

end

end Kind

namespace Choice

def toJson (c : Choice) : Json := .object [("label", .text c.label), ("value", c.value)]

def members : List (List String) := [["value"], ["label"]]

def outline : Json.Outline := .record (members.map (·, .whole))

def read? (value : Json) : Option Choice :=
  match Json.slots? members value with
  | some [value, label] => do
    let ⟨value, sorted⟩ ← value.required? Json.readAny?
    return { value, label := ← label.required? Json.readText?, sorted }
  | _ => none

end Choice

namespace Column

/-- The members of a column. -/
def membersJson (c : Column) : Dict Json :=
  Dict.of ([("name", .text c.name), ("kind", c.kind.toJson), ("null", .bool c.null), ("read_only", .bool c.readOnly),
    ("primary_key", .bool c.primaryKey)] ++ Json.nonempty "choices" (c.choices.map Choice.toJson)
    ++ Json.optional "serializer" c.serializer)

def toJson (c : Column) : Json := .object c.membersJson

def members : List (List String) := [["name"], ["kind"], ["null"], ["read_only"], ["primary_key"], ["choices"], ["serializer"]]

def outline : Json.Outline := .record (members.zip [.whole, .whole, .whole, .whole, .whole, .listOf Choice.outline, .whole])

def read? (byPosition : Bool) (value : Json) : Option Column :=
  match Json.slots? members value with
  | some [name, kind, null, readOnly, primaryKey, choices, serializer] => do
    return {
      name := ← name.required? Json.readText?
      kind := ← kind.required? (Kind.read? byPosition)
      null := ← null.orElse? false Json.readBool?
      readOnly := ← readOnly.orElse? false Json.readBool?
      primaryKey := ← primaryKey.orElse? false Json.readBool?
      choices := ← choices.orElse? [] (Json.readList? Choice.read?)
      serializer := ← serializer.nullable? Json.readText? }
  | _ => none

end Column

namespace Reference

def membersJson (r : Reference) : Dict Json :=
  Dict.of ([("name", .text r.name), ("to", .text r.target), ("one_to_one", .bool r.oneToOne), ("null", .bool r.null),
    ("read_only", .bool r.readOnly), ("primary_key", .bool r.primaryKey)] ++ Json.optional "related_name" r.inverseName)

def read? (value : Json) : Option Reference :=
  match Json.slots?
    [["name"], ["to"], ["one_to_one"], ["null"], ["read_only"], ["primary_key"], ["related_name"]] value with
  | some [name, target, oneToOne, null, readOnly, primaryKey, inverseName] => do
    return {
      name := ← name.required? Json.readText?
      target := ← target.required? Json.readText?
      oneToOne := ← oneToOne.orElse? false Json.readBool?
      null := ← null.orElse? false Json.readBool?
      readOnly := ← readOnly.orElse? false Json.readBool?
      primaryKey := ← primaryKey.orElse? false Json.readBool?
      inverseName := ← inverseName.nullable? Json.readText? }
  | _ => none

end Reference

namespace Inverse

def membersJson (i : Inverse) : Dict Json :=
  Dict.of [("name", .text i.name), ("related_model", .text i.source), ("field_name", .text i.field),
    ("one_to_one", .bool i.oneToOne)]

def read? (value : Json) : Option Inverse :=
  match Json.slots? [["name"], ["related_model"], ["field_name"], ["one_to_one"]] value with
  | some [name, source, field, oneToOne] => do
    return {
      name := ← name.required? Json.readText?
      source := ← source.required? Json.readText?
      field := ← field.required? Json.readText?
      oneToOne := ← oneToOne.required? Json.readBool? }
  | _ => none

end Inverse

namespace Links

def membersJson (l : Links) : Dict Json := Dict.of [("name", .text l.name), ("to", .text l.target)]

def read? (value : Json) : Option Links :=
  match Json.slots? [["name"], ["to"]] value with
  | some [name, target] => do
    return { name := ← name.required? Json.readText?, target := ← target.required? Json.readText? }
  | _ => none

end Links

namespace Field

/-- The tag of a field. -/
def tag : Field → String
  | plain _ => "concrete"
  | reference _ => "forward_relation"
  | inverse _ => "reverse_relation"
  | links _ => "many_to_many"

def membersJson : Field → Dict Json
  | plain c => c.membersJson
  | reference r => r.membersJson
  | inverse i => i.membersJson
  | links l => l.membersJson

def toJson (f : Field) : Json := .object (f.membersJson.insert "field" (.text f.tag))

/-- A field with a tag and the value that holds its other members. -/
def ofTag? (tag : Json) (value : Json) : Option Field :=
  match tag with
  | .text "concrete" => (Column.read? true value).map plain
  | .text "forward_relation" => (Reference.read? value).map reference
  | .text "reverse_relation" => (Inverse.read? value).map inverse
  | .text "many_to_many" => (Links.read? value).map links
  | _ => none

def read? : Json → Option Field
  | .object members =>
    match Json.membersNamed ["field"] members with
    | [tag] => ofTag? tag (.object members)
    | _ => none
  | .list (tag :: rest) => ofTag? tag (.list rest)
  | _ => none

end Field

namespace Method

def toJson (m : Method) : Json :=
  .object (Dict.ofList ([("name", .text m.name), ("static", .bool m.isStatic)]
    ++ Json.nonempty "args" (m.args.map Column.toJson)))

def members : List (List String) := [["name"], ["args"], ["static"]]

def outline : Json.Outline := .record (members.zip [.whole, .listOf Column.outline, .whole])

def read? (value : Json) : Option Method :=
  match Json.slots? members value with
  | some [name, args, isStatic] => do
    return {
      name := ← name.required? Json.readText?
      args := ← args.orElse? [] (Json.readList? (Column.read? false))
      isStatic := ← isStatic.orElse? false Json.readBool? }
  | _ => none

end Method

namespace Model

def toJson (m : Model) : Json :=
  .object (Dict.ofList ([("name", .text m.name), ("fields", .list (m.fields.map Field.toJson))]
    ++ Json.optional "app_label" m.appLabel ++ Json.nonempty "properties" (m.properties.map .text)
    ++ Json.nonempty "methods" (m.methods.map Method.toJson)))

def members : List (List String) := [["name"], ["app_label"], ["fields"], ["properties"], ["methods"]]

def outline : Json.Outline := .record (members.zip [.whole, .whole, .whole, .whole, .listOf Method.outline])

def read? (value : Json) : Option Model :=
  match Json.slots? members value with
  | some [name, appLabel, fields, properties, methods] => do
    return {
      name := ← name.required? Json.readText?
      appLabel := ← appLabel.nullable? Json.readText?
      fields := ← fields.orElse? [] (Json.readList? Field.read?)
      properties := ← properties.orElse? [] (Json.readList? Json.readText?)
      methods := ← methods.orElse? [] (Json.readList? Method.read?) }
  | _ => none

end Model

/-- The models of a schema file. -/
structure Schema where
  models : List Model
  deriving Repr

namespace Schema

def toJson (s : Schema) : Json := .object [("models", .list (s.models.map Model.toJson))]

def members : List (List String) := [["models"]]

def outline : Json.Outline := .record (members.map (·, .listOf Model.outline))

def read? (value : Json) : Option Schema :=
  match Json.slots? members value with
  | some [models] => do
    return { models := ← models.required? (Json.readList? Model.read?) }
  | _ => none

/-- The schema in a text. -/
def parse (s : String) : Outcome Schema :=
  match Json.read? outline s >>= read? with
  | some schema => .ok schema
  | none => .error .schemaMalformed

end Schema

end ModelCatalog
