import ModelCatalog.Request.Payload

/-!
# Requests

What clients can do: list and get rows, create, update and delete them, get a row or create it, and call methods. Reading gives an
outcome; writing gives a `Response`, an outcome together with the store as it is afterwards.
-/

namespace ModelCatalog

/-- What requests are answered with, beside the store. -/
structure Context where
  registry : Registry
  settings : Settings := {}

/-- The outcome of a request that may write, and the store afterwards. -/
structure Response where
  outcome : Outcome Payload
  store : Store

namespace Context

/-! ### Reading -/

/-- The query set of the rows wanted. -/
def refine (c : Context) (q : QuerySet) (p : ListParams) : Outcome QuerySet := do
  let related ← PrefetchTree.merge c.registry q.model (p.prefetch.getD [])
  let q ← match p.query with
    | some query => query.compile.map q.select
    | none => .ok q
  let terms ← (p.order.getD []).mapM OrderTerm.parse
  let q := if terms.isEmpty then q else q.orderBy terms
  let distinct := p.distinct.getD []
  let q := if distinct.isEmpty then q else q.distinctOn distinct
  return q.embedding related

/-- Answers a list request on a query set. -/
def list (c : Context) (s : Store) (q : QuerySet) (p : ListParams) : Outcome Payload := do
  let m ← c.registry.model q.model
  let refined ← c.refine q p
  (PayloadOptions.ofParams p c.settings).payload c.registry s refined (.ofModel m)

/-- The row of a query set with a primary key. Of the parameters only the related rows and fields wanted apply. -/
def oneRow (c : Context) (s : Store) (q : QuerySet) (key : Json) (p : ListParams) : Outcome Row := do
  let m ← c.registry.model q.model
  let refined ← c.refine q { prefetch := p.prefetch, prefetch_sorted := p.prefetch_sorted }
  (PayloadOptions.ofParams p c.settings).oneRow c.registry s refined key (.ofModel m)

/-- Answers a request for the row of a query set with a primary key. -/
def get (c : Context) (s : Store) (q : QuerySet) (key : Json) (p : ListParams) : Outcome Payload :=
  (c.oneRow s q key p).map .row

/-! ### Writing -/

/-- The submitted values without those for fields that only can be read. Unknown names stay, for the store to refuse. -/
def writable (m : Model) (values : Row) : Row :=
  values.filter fun entry => !(m.fieldAnsweringTo? entry.1).any Field.isReadOnly

/-- The primary key of a stored row. -/
def keyOf (m : Model) (row : Row) : Outcome Json := do
  let column ← m.keyColumn
  match row.get? column with
  | some key => return key
  | none => throw (.rowWithoutKey m.name column)

/-- The write of a new row of the submitted values that can be written, which have to pass the validators. -/
def rowCreation (c : Context) (m : Model) (values : Row) : Write Row := do
  let values := writable m values
  c.registry.validate m.name values
  Write.insertRow c.registry m.name values

/-- Stores a new row of the submitted values that can be written and pass the validators. -/
def createRow (c : Context) (s : Store) (m : Model) (values : Row) : Outcome (Row × Store) := (c.rowCreation m values).result s

/-- The row just written, as the request wants it. -/
def writtenRow (c : Context) (s : Store) (m : Model) (row : Row) (p : ListParams) : Outcome Row := do
  let key ← keyOf m row
  c.oneRow s (← QuerySet.of c.registry m.name) key p

/-- The response to a request that writes: what is told of the row is read from the store after it was written. -/
def respond (s : Store) (write : Write Row) (tell : Row → Store → Outcome Payload) : Response :=
  match write.on s with
  | (.error f, after) => { outcome := .error f, store := after }
  | (.ok row, after) => { outcome := tell row after, store := after }

/-- Answers a request to create a row. -/
def create (c : Context) (s : Store) (model : String) (values : Row) (p : ListParams) : Response :=
  match c.registry.model model with
  | .error f => { outcome := .error f, store := s }
  | .ok m => respond s (c.rowCreation m values) fun row after => (c.writtenRow after m row p).map .row

/-- The changes that an update makes, by column. -/
def changesOf (m : Model) (values : Row) : Row :=
  Dict.of ((writable m values).map fun entry => ((m.column? entry.1).getD entry.1, entry.2))

/-- The write of changes to the row with a key. The validators see the row as it will be. -/
def rowChange (c : Context) (m : Model) (key : Json) (values : Row) : Write Row := do
  let changes := changesOf m values
  let q ← QuerySet.of c.registry m.name
  let stored ← q.get c.registry (← MonadState.get) key
  c.registry.validate m.name (stored.extend changes)
  Write.updateRow c.registry m.name key changes

/-- Overwrites columns of the row with a key. -/
def updateRow (c : Context) (s : Store) (m : Model) (key : Json) (values : Row) : Outcome (Row × Store) :=
  (c.rowChange m key values).result s

/-- Answers a request to update a row. -/
def update (c : Context) (s : Store) (model : String) (key : Json) (values : Row) (p : ListParams) : Response :=
  match c.registry.model model with
  | .error f => { outcome := .error f, store := s }
  | .ok m => respond s (c.rowChange m key values) fun row after => (c.writtenRow after m row p).map .row

/-- Answers a request to delete a row. -/
def delete (c : Context) (s : Store) (model : String) (key : Json) : Response :=
  let (outcome, after) := (Write.deleteRow c.registry model key).on s
  { outcome := outcome.map fun _ => .deleted, store := after }

/-- The values of a row to create where none matches a lookup: its plain entries, overlaid with the defaults. -/
def valuesToCreate (lookup defaults : Row) : Row :=
  (lookup.filter fun entry => !Text.contains entry.1 LookupKey.separator).extend defaults

/-- The row that matches a lookup, or none. -/
def findRow (c : Context) (s : Store) (m : Model) (lookup : Row) : Outcome (Option Row) := do
  let q ← QuerySet.of c.registry m.name
  let rows ← (q.filter (← Condition.ofEntries lookup)).fetch c.registry s
  match rows with
  | [] => return none
  | [row] => return some row
  | rows => throw (.manyMatches m.name rows.length)

/-- Answers a request for the row that matches a lookup, which is created when there is none. -/
def getOrCreate (c : Context) (s : Store) (model : String) (lookup defaults : Row) (p : ListParams) : Response :=
  let found := do
    let m ← c.registry.model model
    return (m, ← c.findRow s m lookup)
  match found with
  | .error f => { outcome := .error f, store := s }
  | .ok (m, some row) => { outcome := (c.writtenRow s m row p).map (.found · false), store := s }
  | .ok (m, none) =>
    respond s (c.rowCreation m (valuesToCreate lookup defaults)) fun row after => (c.writtenRow after m row p).map (.found · true)

/-! ### Methods -/

/-- Checks that a row is given for a method that is called on one, and only then. -/
def checkCall (model : String) (method : Method) (key : Option Json) : Outcome Unit :=
  match method.isStatic, key with
  | true, some _ => .error (.staticMethodWithKey model method.name)
  | false, none => .error (.rowMethodWithoutKey model method.name)
  | _, _ => .ok ()

/-- Answers a request to call a method, on the row with a key or on the model as a whole. -/
def call (c : Context) (s : Store) (model name : String) (key : Option Json) (args : Row) : Outcome Payload := do
  let m ← c.registry.model model
  let some method := m.method? name | throw (.noMethod model name)
  checkCall model method key
  let some handler := c.registry.handler? model name | throw (.noHandler model name)
  let args ← method.bind args
  let row ← key.mapM fun key => do (← QuerySet.of c.registry model).get c.registry s key
  return .output (← handler.run row args)

end Context

end ModelCatalog
