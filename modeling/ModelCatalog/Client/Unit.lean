import ModelCatalog.Client.Literal
import ModelCatalog.Client.TypeTable
import ModelCatalog.Schema.Registry

/-!
# Client units

What is generated for one model of a pool. Each field contributes a `Part`; the unit of a model joins the parts of its fields in their
order. A relation that leads out of the pool contributes nothing but the column of a reference.
-/

namespace ModelCatalog.Client

/-- A key that lookups of a model accept. -/
structure LookupEntry where
  key : String
  /-- The field that the key is about. -/
  field : String
  /-- The operator, or none for the key of the field alone. -/
  operator : Option Operator := none
  /-- The model whose lookups follow the key of a relation. -/
  related : Option String := none
  deriving DecidableEq, Repr

/-- The lookup entries of a field, in a pool. -/
def lookupEntries (members : Registry.Members) : Field → List LookupEntry
  | .plain c =>
    { key := c.name, field := c.name } :: (operatorsFor c.kind c.null).map fun op =>
      { key := c.name ++ LookupKey.separator ++ op.name, field := c.name, operator := some op }
  | .reference r =>
    if members.contains r.target then [{ key := r.name, field := r.name, related := some r.target }] else []
  | .inverse i =>
    if members.contains i.source then [{ key := i.name, field := i.name, related := some i.source }] else []
  | .links _ => []

/-- The names generated for a model. -/
structure Names where
  model : String
  fields : String
  lookups : String
  querySet : String
  prefetchKey : String
  fieldsSchema : String
  deriving DecidableEq, Repr

/-- The names generated for a model of a name. -/
def Names.ofModel (model : String) : Names where
  model
  fields := model ++ "Fields"
  lookups := model ++ "QuerySetLookups"
  querySet := model ++ "QuerySet"
  prefetchKey := model ++ "PrefetchKey"
  fieldsSchema := model ++ "FieldsSchema"

/-- A member of an interface. -/
structure Declaration where
  name : String
  type : String
  optional : Bool := false
  readOnly : Bool := false
  deriving DecidableEq, Repr

/-- What the generated schema says of a field. -/
structure SchemaEntry where
  fieldName : String
  fieldType : String
  nullable : Bool
  readOnly : Bool
  choices : List Choice := []
  related : Option String := none
  deriving Repr

/-- A member that gives the rows at the other end of a reference, filtered. -/
structure Accessor where
  name : String
  querySet : String
  lookups : String
  /-- The reference at the other end. -/
  field : String
  deriving DecidableEq, Repr

/-- The signature of a method. -/
structure Signature where
  name : String
  args : List Declaration
  isStatic : Bool
  deriving DecidableEq, Repr

/-- What a field contributes to the unit of its model. -/
structure Part where
  interface : List Declaration := []
  relations : List Declaration := []
  lookups : List Declaration := []
  prefetchKeys : List String := []
  schema : List SchemaEntry := []
  accessors : List Accessor := []
  deriving Repr

instance : Append Part where
  append a b :=
    { interface := a.interface ++ b.interface
      relations := a.relations ++ b.relations
      lookups := a.lookups ++ b.lookups
      prefetchKeys := a.prefetchKeys ++ b.prefetchKeys
      schema := a.schema ++ b.schema
      accessors := a.accessors ++ b.accessors }

/-- Everything generated for one model. -/
structure ModelUnit extends Part where
  names : Names
  keyField : String
  keyType : String
  methods : List Signature
  deriving Repr

/-- The type of a column: that of its kind, or the union of its choices. -/
def exposedType (table : TypeTable) (c : Column) : String :=
  if c.choices.isEmpty then table.columnType c none
  else " | ".intercalate (c.choices.map fun choice => literal choice.value)

/-- Whether the operand of a lookup is made of the values of the field. -/
def keepsValues : Operator → Bool
  | .exact | .oneOf | .range => true
  | _ => false

/-- The type of the operand under a lookup entry of a column. -/
def lookupType (table : TypeTable) (c : Column) : Option Operator → String
  | none => exposedType table c
  | some op =>
    if !c.choices.isEmpty && keepsValues op then operandType (exposedType table c) c.kind op
    else table.columnType c (some op)

/-- What a column contributes. -/
def columnPart (members : Registry.Members) (table : TypeTable) (c : Column) : Part where
  interface := [{ name := c.name, type := exposedType table c, optional := c.null, readOnly := c.readOnly }]
  lookups := (lookupEntries members (.plain c)).map fun e =>
    { name := e.key, type := lookupType table c e.operator, optional := true }
  schema := [{ fieldName := c.name, fieldType := c.kind.name, nullable := c.null, readOnly := c.readOnly, choices := c.choices }]

/-- The keys that prefetch a relation, alone or with something of the related model. -/
def relationPrefetchKey (name : String) (related : Names) : String :=
  quote name ++ " | \x7b" ++ propertyKey name ++ ": " ++ related.prefetchKey ++ "\x7d"

/-- What a reference contributes when its column has a type. -/
def referencePart (members : Registry.Members) (columnType : String) (r : Reference) : Part :=
  let column : Part :=
    { interface := [{ name := r.column, type := columnType, optional := r.null, readOnly := r.readOnly }] }
  match lookupEntries members (.reference r) with
  | [] => column
  | entries =>
    let related := Names.ofModel r.target
    { column with
      lookups := { name := r.column, type := columnType, optional := true }
        :: entries.map fun e => { name := e.key, type := related.lookups, optional := true }
      relations := [{ name := r.name, type := r.target, optional := true }]
      prefetchKeys := [relationPrefetchKey r.name related]
      schema := [{
        fieldName := r.column
        fieldType := if r.oneToOne then "OneToOneField" else "ForeignKey"
        nullable := r.null
        readOnly := r.readOnly
        related := some r.target }] }

/-- What an inverse relation contributes. -/
def inversePart (members : Registry.Members) (i : Inverse) : Part :=
  match lookupEntries members (.inverse i) with
  | [] => {}
  | entries =>
    let related := Names.ofModel i.source
    let lookups := entries.map fun e => ({ name := e.key, type := related.lookups, optional := true } : Declaration)
    if i.oneToOne then
      { lookups
        relations := [{ name := i.name, type := i.source, optional := true }]
        prefetchKeys := [relationPrefetchKey i.name related] }
    else
      { lookups
        accessors := [{ name := i.name, querySet := related.querySet, lookups := related.lookups, field := i.field }] }

/-- The type of the primary key of a model. -/
def keyTypeOf (r : Registry) (table : TypeTable) (model : String) : Outcome String :=
  (r.keyKind model).map fun kind => table.valueType kind none

/-- What a field contributes. -/
def fieldPart (r : Registry) (members : Registry.Members) (table : TypeTable) : Field → Outcome Part
  | .plain c => .ok (columnPart members table c)
  | .reference ref => (keyTypeOf r table ref.target).map fun type => referencePart members type ref
  | .inverse i => .ok (inversePart members i)
  | .links _ => .ok {}

/-- What a property contributes. -/
def propertyPart (name : String) : Part where
  interface := [{ name, type := "any", optional := true, readOnly := true }]
  prefetchKeys := [quote name]

/-- The signature of a method: an argument that may be null may be left out. -/
def signature (table : TypeTable) (m : Method) : Signature where
  name := m.name
  args := m.args.map fun arg => { name := arg.name, type := exposedType table arg, optional := arg.null }
  isStatic := m.isStatic

/-- Joins parts in their order. -/
def joinParts (parts : List Part) : Part := parts.foldl (· ++ ·) {}

/-- The type of a primary key field. -/
def keyFieldType (r : Registry) (table : TypeTable) : Field → Outcome String
  | .reference ref => keyTypeOf r table ref.target
  | .plain c => .ok (exposedType table c)
  | f => .error (.noKey f.name)

/-- The unit of a model of a pool. -/
def modelUnit (r : Registry) (members : Registry.Members) (table : TypeTable) (m : Model) : Outcome ModelUnit := do
  let key ← m.keyField
  let keyType ← keyFieldType r table key
  let parts ← m.fields.mapM (fieldPart r members table)
  return {
    joinParts (parts ++ m.properties.map propertyPart) with
    names := Names.ofModel m.name
    keyField := key.referenceColumn?.getD key.name
    keyType
    methods := m.methods.map (signature table) }

/-- The units of a pool, in order of registration. -/
def units (r : Registry) (members : Registry.Members) (table : TypeTable) : Outcome (List ModelUnit) :=
  (r.pool members).mapM (modelUnit r members table)

/-- The lookup keys of a model, each with the type of its operand. -/
def lookupTable (r : Registry) (table : TypeTable) (model : String) : Outcome (List (String × String)) := do
  let m ← r.model model
  let unit ← modelUnit r r.allMembers table m
  return unit.lookups.map fun d => (d.name, d.type)

end ModelCatalog.Client
