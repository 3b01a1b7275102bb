import ModelCatalog.Query.Lookup
import ModelCatalog.Schema.Registry

/-!
# Stored rows

A store has a table for each model. A row has a value in every column of its model, and no two rows of a table have equal primary keys.
A `Write` gives the store as it is afterwards, whether it succeeds or fails; `Store.insertRow` and its like are what is left of the writes
when the store after a failure is forgotten.
-/

namespace ModelCatalog

/-- The rows of a model in the order in which they were stored, and the next primary key to assign. -/
structure Table where
  rows : List Row := []
  nextKey : Nat := 1

/-- The tables of the models that have had rows. -/
abbrev Store := Dict Table

namespace Table

/-- The number of keys that can be assigned. Behind the last one the counter starts over at zero, as it does in a release build; a build that
checks for overflow stops there. -/
def keyLimit : Nat := UInt64.size

/-- Whether a row has a key in a column. -/
def hasKey (column : String) (key : Json) (row : Row) : Bool := (row.get? column).any (·.equals key)

/-- The place of the row with a key in a column. -/
def position? (t : Table) (column : String) (key : Json) : Option Nat := t.rows.findIdx? (hasKey column key)

/-- The next key to assign once a key has been used: one that is a count moves it on. Behind the last count it comes to zero, as in a release
build (`keyLimit`). -/
def nextAfter (t : Table) (key : Json) : Nat :=
  match key with
  | .number n =>
    match n.toNat? (keyLimit - 1) with
    | some n => max t.nextKey ((n + 1) % keyLimit)
    | none => t.nextKey
  | _ => t.nextKey

end Table

namespace Model

/-- Whether a field takes a value: links are lists. -/
def takes (f : Field) (value : Json) : Bool :=
  match f, value with
  | .links _, .list _ | .links _, .null => true
  | .links _, _ => false
  | _, _ => true

/-- The column for a submitted value, if there is one that takes it. -/
def columnFor? (m : Model) (name : String) (value : Json) : Option String :=
  match m.fieldAnsweringTo? name with
  | some f => if takes f value then f.column? else none
  | none => none

/-- Submitted values by column; of two for one column that of the later name stays. -/
def toColumns (m : Model) (values : Row) : Outcome Row :=
  values.entries.foldlM (fun row entry =>
    match m.columnFor? entry.1 entry.2 with
    | some column => .ok (row.insert column entry.2)
    | none => .error (.onField entry.1 ("'" ++ m.name ++ "' has no writable field with this name.") "invalid")) .empty

/-- What a column holds when nothing is submitted for it. -/
def emptyValue : Field → Json
  | .links _ => .list []
  | _ => .null

/-- The row with every column of the model. -/
def complete (m : Model) (row : Row) : Row :=
  m.fields.foldl (fun row f =>
    match f.column? with
    | some column => if row.contains column then row else row.insert column (emptyValue f)
    | none => row) row

/-- Whether primary keys of the model are assigned by the store. -/
def assignsKeys (m : Model) : Bool :=
  match m.keyField? with
  | some (.plain c) => c.kind.isAuto
  | _ => false

end Model

namespace Store

/-- The table of a model. -/
def table (s : Store) (model : String) : Table := (s.get? model).getD {}

/-- The rows of a model. -/
def rows (s : Store) (model : String) : List Row := (s.table model).rows

def keyMissing (column : String) : Failure := .onField column "A primary key value is required." "required"

def keyTaken (column : String) : Failure := .onField column "A row with this primary key already exists." "unique"

/-- A new row with its primary key, and the next key to assign then. A key that is left out is assigned where the store assigns keys; behind
the last one the counter starts over, as in a release build (`Table.keyLimit`). -/
def giveKey (m : Model) (column : String) (t : Table) (row : Row) : Outcome (Row × Nat) :=
  let key := (row.get? column).getD .null
  if key.isNull then
    if m.assignsKeys then .ok (row.insert column (.nat t.nextKey), (t.nextKey + 1) % Table.keyLimit)
    else .error (keyMissing column)
  else if (t.position? column key).isSome then .error (keyTaken column)
  else .ok (row, t.nextAfter key)

/-- Checks that a row at a place can get the key among its changes, if there is one. -/
def checkNewKey (t : Table) (column : String) (place : Nat) (changes : Row) : Outcome Unit :=
  match changes.get? column with
  | none => .ok ()
  | some key =>
    if key.isNull then .error (keyMissing column)
    else
      match t.position? column key with
      | some other => if other = place then .ok () else .error (keyTaken column)
      | none => .ok ()

end Store

/-- A write: from a store its outcome, and the store afterwards, which it gives whether it succeeds or fails. -/
abbrev Write (α : Type) := ExceptT Failure (StateM Store) α

namespace Write

/-- The outcome of a write to a store, and the store afterwards. -/
def on {α : Type} (w : Write α) (s : Store) : Outcome α × Store := w.run.run s

/-- What a write to a store gives, with the store afterwards, or why it fails. -/
def result {α : Type} (w : Write α) (s : Store) : Outcome (α × Store) := (w.on s).1.map fun value => (value, (w.on s).2)

/-- Changes the table of a model. -/
def changeTable (model : String) (change : Table → Table) : Write Unit := modify fun s => s.insert model (change (s.table model))

/-- Stores a new row with the submitted values. The counter moves on before the row is put behind the others. -/
def insertRow (r : Registry) (model : String) (values : Row) : Write Row := do
  let m ← r.model model
  let columns ← m.toColumns values
  let column ← m.keyColumn
  let (row, next) ← Store.giveKey m column ((← get).table model) (m.complete columns)
  changeTable model fun t => { t with nextKey := next }
  changeTable model fun t => { t with rows := t.rows ++ [row] }
  return row

/-- Stores a new row that passes the validators of its model. -/
def insertValid (r : Registry) (model : String) (values : Row) : Write Row := do
  r.validate model values
  insertRow r model values

/-- Stores a new row given as a JSON object that passes the validators of its model. -/
def insertJson (r : Registry) (model : String) : Json → Write Row
  | .object values => insertValid r model values
  | _ => throw (.rejected (.plain "Expected a JSON object." "invalid"))

/-- Overwrites columns of the row with a key. -/
def updateRow (r : Registry) (model : String) (key : Json) (values : Row) : Write Row := do
  let m ← r.model model
  let changes ← m.toColumns values
  let column ← m.keyColumn
  let t := (← get).table model
  match t.position? column key with
  | none => throw (.noRow model key)
  | some place =>
    Store.checkNewKey t column place changes
    let row := ((t.rows[place]?).getD .empty).extend changes
    changeTable model fun t => { t with rows := t.rows.set place row }
    return row

/-- Removes the row with a key. Rows that refer to it stay as they are. -/
def deleteRow (r : Registry) (model : String) (key : Json) : Write Unit := do
  let column ← (← r.model model).keyColumn
  let t := (← get).table model
  match t.position? column key with
  | none => throw (.noRow model key)
  | some place => changeTable model fun t => { t with rows := t.rows.eraseIdx place }

end Write

namespace Store

/-- Stores a new row with the submitted values. -/
def insertRow (r : Registry) (s : Store) (model : String) (values : Row) : Outcome (Row × Store) :=
  (Write.insertRow r model values).result s

/-- Stores a new row given as a JSON object that passes the validators of its model. -/
def insertJson (r : Registry) (s : Store) (model : String) (values : Json) : Outcome (Row × Store) :=
  (Write.insertJson r model values).result s

/-- Overwrites columns of the row with a key. -/
def updateRow (r : Registry) (s : Store) (model : String) (key : Json) (values : Row) : Outcome (Row × Store) :=
  (Write.updateRow r model key values).result s

/-- Removes the row with a key. -/
def deleteRow (r : Registry) (s : Store) (model : String) (key : Json) : Outcome Store :=
  ((Write.deleteRow r model key).result s).map Prod.snd

end Store

end ModelCatalog
