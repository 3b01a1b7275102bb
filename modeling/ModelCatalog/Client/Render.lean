import ModelCatalog.Client.Unit
import ModelCatalog.Json.Printer

/-!
# Generated files

The text of the two files generated for a pool: a TypeScript module with the declarations of every unit, and a JSON document that lists
the units.
-/

namespace ModelCatalog

/-- A choice as JSON, its value first. -/
def Choice.document (c : Choice) : Json := .object [("value", c.value), ("label", .text c.label)]

namespace Client

/-- The first line of a generated module. -/
def header : String := "// This file is generated by modeltype. Do not edit it by hand."

/-! ### The JSON document -/

namespace Names

def document (n : Names) : Json :=
  .object [("model", .text n.model), ("fields", .text n.fields), ("lookups", .text n.lookups), ("queryset", .text n.querySet),
    ("prefetchKey", .text n.prefetchKey), ("fieldsSchema", .text n.fieldsSchema)]

end Names

namespace Declaration

def document (d : Declaration) : Json :=
  .object [("name", .text d.name), ("optional", .bool d.optional), ("readonly", .bool d.readOnly), ("type", .text d.type)]

/-- The declaration without what ends it. -/
def code (d : Declaration) : String :=
  (if d.readOnly then "readonly " else "") ++ propertyKey d.name ++ (if d.optional then "?: " else ": ") ++ d.type

end Declaration

namespace SchemaEntry

def document (e : SchemaEntry) : Json :=
  .object ([("fieldName", .text e.fieldName), ("fieldType", .text e.fieldType), ("nullable", .bool e.nullable),
    ("isReadOnly", .bool e.readOnly)] ++ Json.nonempty "choices" (e.choices.map Choice.document)
    ++ Json.optional "relatedModel" e.related)

/-- The entry as a member of the schema table. -/
def code (e : SchemaEntry) : String := propertyKey e.fieldName ++ ": " ++ literal e.document.sorted

end SchemaEntry

def Accessor.document (a : Accessor) : Json :=
  .object [("name", .text a.name), ("querysetName", .text a.querySet), ("lookupsType", .text a.lookups),
    ("lookupKey", .text a.field)]

namespace Signature

def document (s : Signature) : Json :=
  .object [("name", .text s.name), ("args", .list (s.args.map Declaration.document)), ("isStatic", .bool s.isStatic)]

/-- The signature without what ends it. -/
def code (s : Signature) : String :=
  let args := ", ".intercalate (s.args.map Declaration.code)
  propertyKey s.name ++ (if s.args.isEmpty then "()" else "(args: \x7b" ++ args ++ "\x7d)") ++ ": Promise<any>"

end Signature

namespace ModelUnit

def document (u : ModelUnit) : Json :=
  .object [("names", u.names.document), ("pkField", .text u.keyField), ("pkType", .text u.keyType),
    ("interface", .list (u.interface.map Declaration.document)), ("relations", .list (u.relations.map Declaration.document)),
    ("lookups", .list (u.lookups.map Declaration.document)), ("prefetchKeys", .list (u.prefetchKeys.map .text)),
    ("schema", .list (u.schema.map SchemaEntry.document)),
    ("reverseRelations", .list (u.accessors.map Accessor.document)), ("methods", .list (u.methods.map Signature.document))]

/-! ### The TypeScript module -/

/-- A block of lines, each indented and ended by a semicolon or comma, between an opening and a closing line. -/
def block (opening : String) (lines : List String) (closing : String) : String :=
  opening ++ " \x7b\n" ++ String.join (lines.map fun line => "  " ++ line ++ "\n") ++ "\x7d" ++ closing ++ "\n"

/-- An interface with the given members. -/
def interfaceCode (name : String) (members : List String) : String :=
  block ("export interface " ++ name) (members.map (· ++ ";")) ""

/-- The members of the model interface. -/
def modelMembers (u : ModelUnit) : List String :=
  let n := u.names
  u.relations.map Declaration.code
    ++ u.accessors.map (fun a => propertyKey a.name ++ "(lookups?: " ++ a.lookups ++ "): " ++ a.querySet)
    ++ ["update(data: Partial<" ++ n.fields ++ ">): Promise<" ++ n.model ++ ">", "delete(): Promise<void>"]
    ++ (u.methods.filter (!·.isStatic)).map Signature.code

/-- The members of the query set interface. -/
def querySetMembers (u : ModelUnit) : List String :=
  let n := u.names
  [ "filter(lookups: " ++ n.lookups ++ "): " ++ n.querySet,
    "exclude(lookups: " ++ n.lookups ++ "): " ++ n.querySet,
    "orderBy(...fields: (keyof " ++ n.fields ++ " & string)[]): " ++ n.querySet,
    "prefetch(...keys: " ++ n.prefetchKey ++ "[]): " ++ n.querySet,
    "values(...fields: (keyof " ++ n.fields ++ " & string)[]): " ++ n.querySet,
    "fetch(): Promise<" ++ n.model ++ "[]>",
    "get(pk: " ++ u.keyType ++ "): Promise<" ++ n.model ++ ">",
    "count(): Promise<number>",
    "exists(): Promise<boolean>",
    "create(data: Partial<" ++ n.fields ++ ">): Promise<" ++ n.model ++ ">",
    "getOrCreate(lookups: " ++ n.lookups ++ ", defaults?: Partial<" ++ n.fields ++ ">): Promise<[" ++ n.model ++ ", boolean]>" ]
    ++ (u.methods.filter (·.isStatic)).map Signature.code

/-- The union of the prefetch keys. -/
def prefetchType (u : ModelUnit) : String :=
  if u.prefetchKeys.isEmpty then "never" else " |\n  ".intercalate u.prefetchKeys

/-- The declarations of a unit. -/
def code (u : ModelUnit) : String :=
  let n := u.names
  "\n".intercalate
    [ interfaceCode n.fields (u.interface.map Declaration.code),
      interfaceCode (n.model ++ " extends " ++ n.fields) u.modelMembers,
      interfaceCode n.lookups (u.lookups.map Declaration.code),
      "export type " ++ n.prefetchKey ++ " =\n  " ++ u.prefetchType ++ ";\n",
      interfaceCode n.querySet u.querySetMembers,
      block ("export const " ++ n.fieldsSchema ++ " =") (u.schema.map fun e => e.code ++ ",") " as const;" ]

end ModelUnit

/-- The text of the generated files. -/
structure Artifacts where
  module : String
  schema : String
  deriving DecidableEq, Repr

/-- The module with the declarations of some units. -/
def moduleCode (units : List ModelUnit) : String :=
  header ++ "\n" ++ String.join (units.map fun u => "\n" ++ u.code)

/-- The files generated for some units. -/
def Artifacts.ofUnits (units : List ModelUnit) : Artifacts where
  module := moduleCode units
  schema := (Json.object [("models", .list (units.map ModelUnit.document))]).pretty

end Client

end ModelCatalog
