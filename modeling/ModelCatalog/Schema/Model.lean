import ModelCatalog.Failure
import ModelCatalog.Schema.Kind

/-!
# Models

A model has fields, read-only properties and methods. A plain field and a reference to another model are stored, each in a column of
its own; links to many models are stored as a list; an inverse relation is the other end of a reference and is not stored.
-/

namespace ModelCatalog

/-- The values of a row by column, or those submitted for one. -/
abbrev Row := Dict Json

/-- A value that a field may take, with its label. -/
structure Choice where
  value : Json
  label : String
  /-- The objects in the value list their members in order. -/
  sorted : value.IsSorted := by decide
  deriving Repr

/-- A field that holds a value. -/
structure Column where
  name : String
  kind : Kind
  null : Bool := false
  readOnly : Bool := false
  primaryKey : Bool := false
  /-- The only values allowed, if there are any. -/
  choices : List Choice := []
  /-- The name under which the type of the field can be overridden first. -/
  serializer : Option String := none
  deriving Repr

/-- A field that refers to a row of another model by its primary key. -/
structure Reference where
  name : String
  target : String
  oneToOne : Bool := false
  null : Bool := false
  readOnly : Bool := false
  primaryKey : Bool := false
  /-- The name of the inverse relation, when it is not the usual one. -/
  inverseName : Option String := none
  deriving DecidableEq, Repr

/-- The other end of a reference: the rows of `source` whose field `field` refers to a row. -/
structure Inverse where
  name : String
  source : String
  field : String
  oneToOne : Bool
  deriving DecidableEq, Repr

/-- A field that holds the primary keys of any number of rows of another model. -/
structure Links where
  name : String
  target : String
  deriving DecidableEq, Repr

/-- A field of a model. -/
inductive Field where
  | plain (column : Column)
  | reference (reference : Reference)
  | inverse (inverse : Inverse)
  | links (links : Links)
  deriving Repr

/-- A method that clients may call, on a row or on the model as a whole. -/
structure Method where
  name : String
  args : List Column := []
  isStatic : Bool := false
  deriving Repr

/-- A model. -/
structure Model where
  name : String
  appLabel : Option String := none
  fields : List Field := []
  properties : List String := []
  methods : List Method := []
  deriving Repr

/-- The column of a reference. -/
def Reference.column (r : Reference) : String := r.name ++ "_id"

namespace Field

def name : Field → String
  | plain c => c.name
  | reference r => r.name
  | inverse i => i.name
  | links l => l.name

/-- The column of a reference, which is also a name of the field. -/
def referenceColumn? : Field → Option String
  | reference r => some r.column
  | _ => none

/-- Whether the field goes by a name: its own, or the column of a reference. -/
def answersTo (f : Field) (name : String) : Bool := f.name = name || f.referenceColumn? = some name

/-- The column in which the field is stored. -/
def column? : Field → Option String
  | plain c => some c.name
  | reference r => some r.column
  | inverse _ => none
  | links l => some l.name

/-- The column whose value stands for the field when a row is written out: links and inverse relations have none. -/
def valueColumn? : Field → Option String
  | plain c => some c.name
  | reference r => some r.column
  | inverse _ | links _ => none

/-- The model at the other end. -/
def related? : Field → Option String
  | plain _ => none
  | reference r => some r.target
  | inverse i => some i.source
  | links l => some l.target

def isRelation : Field → Bool
  | plain _ => false
  | _ => true

def isPrimaryKey : Field → Bool
  | plain c => c.primaryKey
  | reference r => r.primaryKey
  | _ => false

def isNullable : Field → Bool
  | plain c => c.null
  | reference r => r.null
  | _ => true

def isReadOnly : Field → Bool
  | plain c => c.readOnly
  | reference r => r.readOnly
  | _ => true

end Field

namespace Model

/-- The field of a name. -/
def field? (m : Model) (name : String) : Option Field := m.fields.find? fun f => f.name = name

/-- The field that goes by a name, its own or the column of a reference. -/
def fieldAnsweringTo? (m : Model) (name : String) : Option Field := m.fields.find? (·.answersTo name)

/-- The primary key field. -/
def keyField? (m : Model) : Option Field := m.fields.find? Field.isPrimaryKey

/-- The primary key field of a model that has one. -/
def keyField (m : Model) : Outcome Field :=
  match m.keyField? with
  | some f => .ok f
  | none => .error (.noKey m.name)

/-- The column of the primary key. -/
def keyColumn (m : Model) : Outcome String :=
  match m.keyField? >>= Field.column? with
  | some column => .ok column
  | none => .error (.noKey m.name)

/-- The column to which a value submitted under a name belongs. -/
def column? (m : Model) (name : String) : Option String := m.fieldAnsweringTo? name >>= Field.column?

/-- The method of a name. -/
def method? (m : Model) (name : String) : Option Method := m.methods.find? fun method => method.name = name

def columns (m : Model) : List Column :=
  m.fields.filterMap fun
    | .plain c => some c
    | _ => none

def references (m : Model) : List Reference :=
  m.fields.filterMap fun
    | .reference r => some r
    | _ => none

def inverses (m : Model) : List Inverse :=
  m.fields.filterMap fun
    | .inverse i => some i
    | _ => none

def linkFields (m : Model) : List Links :=
  m.fields.filterMap fun
    | .links l => some l
    | _ => none

/-- The columns that a row is written out with. -/
def valueColumns (m : Model) : List String := m.fields.filterMap Field.valueColumn?

end Model

namespace Method

/-- What is wrong with the value submitted for an argument. -/
def complaint? (arg : Column) (submitted : Option Json) : Option Complaint :=
  match submitted with
  | none => if arg.null then none else some { message := "This argument is required.", code := "required" }
  | some .null => if arg.null then none else some { message := "This argument may not be null.", code := "null" }
  | some value =>
    if arg.choices.isEmpty || arg.choices.any (fun c => c.value.same value) then none
    else some { message := "Not a valid choice.", code := "invalid_choice" }

/-- The complaints about submitted arguments, each with the name it is about: first the names that the method does not declare. -/
def complaints (m : Method) (submitted : Row) : List (String × Complaint) :=
  (submitted.keys.filter fun name => !m.args.any fun arg => arg.name = name).map
      (fun name => (name, { message := "Unexpected argument.", code := "unexpected" }))
    ++ m.args.filterMap fun arg => (complaint? arg (submitted.get? arg.name)).map (Prod.mk arg.name)

/-- Collects complaints by name, those about one name in order. -/
def collect (found : List (String × Complaint)) : Dict (List Complaint) :=
  found.foldl (fun d entry => d.insert entry.1 ((d.get? entry.1).getD [] ++ [entry.2])) []

/-- The arguments of a call: each declared name with the value submitted for it, or null. -/
def bind (m : Method) (submitted : Row) : Outcome Row :=
  match m.complaints submitted with
  | [] => .ok (Dict.of (m.args.map fun arg => (arg.name, (submitted.get? arg.name).getD .null)))
  | found => .error (.rejected (.byField (collect found)))

end Method

end ModelCatalog
