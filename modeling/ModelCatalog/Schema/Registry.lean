import ModelCatalog.Schema.Notation
import ModelCatalog.Text.Lowercase

/-!
# Registries

A registry holds models that fit together: names do not clash, each model has one primary key, every relation leads to a model of the
registry, and each reference has its inverse on the model it refers to. `Registry.build` checks a list of models and completes them.
-/

namespace ModelCatalog

/-- A check of submitted values, and the names whose values it is given. -/
structure Validator where
  fields : List String
  check : Row → Except Rejection Unit

/-- What runs when a method is called: it is given the row of the call, if there is one, and the arguments. -/
structure Handler where
  run : Option Row → Row → Outcome Json

/-- Models that fit together, with the validators of each model and the handlers of its methods. -/
structure Registry where
  models : List Model := []
  /-- Validators in order, each with the model it is for. -/
  validators : List (String × Validator) := []
  /-- Handlers, each with the model and the method it is for. -/
  handlers : List (String × String × Handler) := []

/-! ### Checks on one model -/

namespace Model

/-- Names of methods that a generated client has for itself. -/
def reservedMethods : List String :=
  ["create", "count", "delete", "exclude", "exists", "fetch", "filter", "get", "getOrCreate", "orderBy", "prefetch", "update",
    "values"]

/-- The names that a field takes on its model. -/
def namesOf (f : Field) : List String := f.name :: f.referenceColumn?.toList

/-- The first of some names that is among those taken or comes twice. -/
def firstTaken? (taken : List String) : List String → Option String
  | [] => none
  | name :: rest => if taken.contains name then some name else firstTaken? (name :: taken) rest

/-- Checks that no field is an inverse relation and that no two names of fields are equal; gives back the names. -/
def checkFields (m : Model) (taken : List String) : List Field → Outcome (List String)
  | [] => .ok taken
  | f :: rest =>
    match f with
    | .inverse i => .error (.inverseDeclared m.name i.name)
    | f =>
      match firstTaken? taken (namesOf f) with
      | some name => .error (.nameTwice m.name name)
      | none => checkFields m (namesOf f ++ taken) rest

/-- Checks that methods have names of their own and that no method has two arguments of one name. -/
def checkMethods (m : Model) (taken : List String) : List Method → Outcome Unit
  | [] => .ok ()
  | method :: rest =>
    if reservedMethods.contains method.name then .error (.methodShadowsMember m.name method.name)
    else if taken.contains method.name || m.properties.contains method.name then .error (.nameTwice m.name method.name)
    else
      match firstTaken? [] (method.args.map Column.name) with
      | some argument => .error (.argumentTwice m.name method.name argument)
      | none => checkMethods m (method.name :: taken) rest

/-- Checks the names that a model declares. -/
def checkNames (m : Model) : Outcome Unit := do
  let taken ← checkFields m [] m.fields
  match m.properties.find? taken.contains with
  | some property => throw (.propertyShadowsField m.name property)
  | none => checkMethods m taken m.methods

/-- The primary key of a model that declares none. -/
def implicitKey : Field :=
  .plain { name := "id", kind := .scalar .auto, readOnly := true, primaryKey := true }

/-- The model with exactly one primary key: the one it declares, or the implicit one in front of its fields. -/
def withKey (m : Model) : Outcome Model :=
  match (m.fields.filter Field.isPrimaryKey).length with
  | 0 => if (m.field? "id").isSome then .error (.plainId m.name) else .ok { m with fields := implicitKey :: m.fields }
  | 1 => .ok m
  | count => .error (.manyKeys m.name count)

/-- The name of the inverse of a reference that does not give one. -/
def usualInverseName (m : Model) (r : Reference) : String :=
  if r.oneToOne then Text.lower m.name else Text.lower m.name ++ "_set"

/-- The inverse of a reference of the model. -/
def inverseOf (m : Model) (r : Reference) : Inverse :=
  { name := r.inverseName.getD (m.usualInverseName r), source := m.name, field := r.name, oneToOne := r.oneToOne }

/-- The model with an inverse relation, unless a field or property has its name. -/
def withInverse (m : Model) (i : Inverse) : Outcome Model :=
  if (m.fieldAnsweringTo? i.name).isSome || m.properties.contains i.name then
    .error (.inverseClash i.name i.source m.name)
  else .ok { m with fields := m.fields ++ [.inverse i] }

end Model

namespace Registry

/-! ### Building -/

/-- The models one after another, each with a name of its own, checked and with its primary key. -/
def declare (taken : List String) : List Model → Outcome (List Model)
  | [] => .ok []
  | m :: rest => do
    if taken.contains m.name then throw (.modelTwice m.name)
    m.checkNames
    let keyed ← m.withKey
    return keyed :: (← declare (m.name :: taken) rest)

/-- The inverse of a field, with the model it is for. Every relation has to lead to one of the named models. -/
def inverseOfField (names : List String) (m : Model) (f : Field) : Outcome (List (String × Inverse)) :=
  match f.related? with
  | none => .ok []
  | some target =>
    if names.contains target then
      match f with
      | .reference r => .ok [(target, m.inverseOf r)]
      | _ => .ok []
    else .error (.unknownTarget m.name f.name target)

/-- The inverses of all references, each with the model it is for, in order of model and field. -/
def inverses (models : List Model) : Outcome (List (String × Inverse)) := do
  let names := models.map Model.name
  let found ← models.mapM fun m => m.fields.mapM (inverseOfField names m)
  return found.flatten.flatten

/-- Adds an inverse relation to the model of a name. -/
def addInverse (models : List Model) (target : String) (i : Inverse) : Outcome (List Model) :=
  models.mapM fun m => if m.name = target then m.withInverse i else .ok m

/-- Checks that no method has the name of a field. -/
def checkMethodNames (m : Model) : Outcome Unit :=
  match m.methods.find? fun method => (m.fieldAnsweringTo? method.name).isSome with
  | some method => .error (.methodShadowsField m.name method.name)
  | none => .ok ()

/-- The models, checked and completed with primary keys and inverse relations. -/
def completeModels (models : List Model) : Outcome (List Model) := do
  let declared ← declare [] models
  let completed ← (← inverses declared).foldlM (fun models entry => addInverse models entry.1 entry.2) declared
  completed.forM checkMethodNames
  return completed

/-- The model of a name. -/
def model? (r : Registry) (name : String) : Option Model := r.models.find? fun m => m.name = name

/-- The model of a name that has to be registered. -/
def model (r : Registry) (name : String) : Outcome Model :=
  match r.model? name with
  | some m => .ok m
  | none => .error (.unknownModel name)

/-- Checks that a validator is for a model of the registry and reads fields of it. -/
def checkValidator (r : Registry) (name : String) (v : Validator) : Outcome Unit :=
  match r.model? name with
  | none => .error (.validatorWithoutModel name)
  | some m =>
    match v.fields.find? fun field => (m.fieldAnsweringTo? field).isNone with
    | some field => .error (.validatorWithoutField name field)
    | none => .ok ()

/-- The handler of a method. -/
def handler? (r : Registry) (model method : String) : Option Handler :=
  (r.handlers.find? fun entry => entry.1 = model ∧ entry.2.1 = method).map (·.2.2)

/-- The registry with a handler, which must be for a declared method that has none yet. -/
def addHandler (r : Registry) (model method : String) (h : Handler) : Outcome Registry :=
  if ((r.model? model).bind (·.method? method)).isNone then .error (.handlerWithoutMethod model method)
  else if (r.handler? model method).isSome then .error .handlerTwice
  else .ok { r with handlers := r.handlers ++ [(model, method, h)] }

/-- The registry of some models, with validators and handlers. -/
def build (models : List Model) (validators : List (String × Validator) := [])
    (handlers : List (String × String × Handler) := []) : Outcome Registry := do
  let registry : Registry := { models := ← completeModels models, validators }
  validators.forM fun entry => registry.checkValidator entry.1 entry.2
  handlers.foldlM (fun registry entry => registry.addHandler entry.1 entry.2.1 entry.2.2) registry

/-- The registry of the schema in a text. -/
def ofText (text : String) (validators : List (String × Validator) := [])
    (handlers : List (String × String × Handler) := []) : Outcome Registry := do
  let schema ← Schema.parse text
  build schema.models validators handlers

/-! ### Keys and validation -/

/-- The kind of a model's primary key. When the key is a reference it is that of the model it refers to, and so on for at most `steps`
models; `start` is where the chain began. -/
def keyKindFrom (r : Registry) (start : String) : Nat → String → Outcome Kind
  | 0, _ => .error (.keyCycle start)
  | steps + 1, current => do
    let m ← r.model current
    match m.keyField? with
    | some (.plain c) => return c.kind
    | some (.reference ref) => keyKindFrom r start steps ref.target
    | _ => throw (.noKey current)

/-- The kind of a model's primary key. A chain of references longer than the registry never ends. -/
def keyKind (r : Registry) (model : String) : Outcome Kind := r.keyKindFrom model (r.models.length + 1) model

/-- The validators of a model. -/
def validatorsOf (r : Registry) (model : String) : List Validator :=
  (r.validators.filter fun entry => entry.1 = model).map Prod.snd

/-- The values with the value of a reference under both its names. A value under the field's name does not replace one under the
column's; without it the one under the column's name stands for both. -/
def fillReference (submitted values : Row) (ref : Reference) : Row :=
  match submitted.get? ref.name with
  | some value => if values.contains ref.column then values else values.insert ref.column value
  | none =>
    match submitted.get? ref.column with
    | some value => values.insert ref.name value
    | none => values

/-- Runs a validator on the values of the names it reads, null for those that are absent. -/
def runValidator (values : Row) (v : Validator) : Outcome Unit :=
  match v.check (Dict.of (v.fields.map fun name => (name, (values.get? name).getD .null))) with
  | .ok () => .ok ()
  | .error rejection => .error (.rejected rejection)

/-- Runs the validators of a model on submitted values, up to the first that rejects them. -/
def validate (r : Registry) (model : String) (submitted : Row) : Outcome Unit :=
  let references := ((r.model? model).map Model.references).getD []
  let values := references.foldl (fillReference submitted) submitted
  (r.validatorsOf model).forM (runValidator values)

/-! ### Pools -/

/-- The names of a pool's models. Relations that lead out of the pool are not followed. -/
abbrev Members := List String

/-- The pool of all models. -/
def allMembers (r : Registry) : Members := r.models.map Model.name

/-- The pool of the named models, which have to be registered. -/
def membersNamed (r : Registry) (names : List String) : Outcome Members := do
  let found ← names.mapM fun name => (r.model name).map Model.name
  return found.eraseDups

/-- The models of a pool, in order of registration. -/
def pool (r : Registry) (members : Members) : List Model := r.models.filter fun m => members.contains m.name

end Registry

end ModelCatalog
