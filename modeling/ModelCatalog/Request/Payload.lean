import ModelCatalog.Request.Params
import ModelCatalog.Request.Serializer
import ModelCatalog.Store.QuerySet

/-!
# Payloads

The answer to a request, and how that of a list is chosen: a page comes before the question whether there are rows, that before their
number, and that before the rows themselves.
-/

namespace ModelCatalog

/-- The body of a response. -/
inductive Payload where
  | page (results pages number : Nat) (rows : List Row)
  | inhabited (b : Bool)
  | count (n : Nat)
  | rows (rows : List Row)
  | row (row : Row)
  /-- A row, and whether it was created. -/
  | found (row : Row) (created : Bool)
  | deleted
  | output (value : Json)

/-- A payload as JSON. -/
def Payload.toJson : Payload → Json
  | page results pages number data =>
    .object [("data", .list (data.map fun row : Row => .object row)), ("num_pages", .nat pages), ("num_results", .nat results),
      ("page", .nat number)]
  | inhabited b => .bool b
  | count n => .nat n
  | rows data => .list (data.map fun row : Row => .object row)
  | row data => .object data
  | found data created => .list [.object data, .bool created]
  | deleted => .object []
  | output value => value

/-- What is wanted of the rows of a query set. -/
structure PayloadOptions where
  /-- The only fields wanted; all when there are none. -/
  values : List String := []
  page : Option Nat := none
  pageSize : Nat
  onlyExists : Bool := false
  onlyCount : Bool := false
  deriving Repr

namespace PayloadOptions

/-- The options in the parameters of a list request. -/
def ofParams (p : ListParams) (settings : Settings) : PayloadOptions where
  values := p.values.getD []
  page := p.page
  pageSize := p.sizeOfPage settings
  onlyExists := p.onlyExists
  onlyCount := p.onlyCount

/-- The serializer for the wanted fields. -/
def serializer (o : PayloadOptions) (s : Serializer) : Outcome Serializer :=
  if o.values.isEmpty then .ok s else s.subset o.values

/-- The payload of a query set. -/
def payload (o : PayloadOptions) (r : Registry) (s : Store) (q : QuerySet) (all : Serializer) : Outcome Payload := do
  let serializer ← o.serializer all
  let q := if o.values.isEmpty then q else q.project serializer.storedFields
  match o.page with
  | some number =>
    let pages ← q.pages r s o.pageSize
    let page := pages.nearest number
    return .page pages.items.length pages.count page.number (page.items.map serializer.serialize)
  | none =>
    if o.onlyExists then return .inhabited (← q.isInhabited r s)
    else if o.onlyCount then return .count (← q.count r s)
    else return .rows ((← q.fetch r s).map serializer.serialize)

/-- The row of a query set with a primary key, written out. -/
def oneRow (o : PayloadOptions) (r : Registry) (s : Store) (q : QuerySet) (key : Json) (all : Serializer) : Outcome Row := do
  let serializer ← o.serializer all
  return serializer.serialize (← q.get r s key)

end PayloadOptions

end ModelCatalog
