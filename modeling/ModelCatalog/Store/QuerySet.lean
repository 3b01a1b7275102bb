import ModelCatalog.Paging
import ModelCatalog.Query.BooleanQuery
import ModelCatalog.Query.Order
import ModelCatalog.Store.Path

/-!
# Query sets

A query set says which rows of a model are wanted, in which order and in which form. Its rows are the stored ones that pass all filters,
ordered, then without repetitions, then with related rows embedded, and at last reduced to the wanted fields.
-/

namespace ModelCatalog

/-! ### Order of values -/

namespace Json

/-- The order of values by which rows are sorted: null first, texts, numbers and truth values among their like, and all others by their
compact text. -/
def sortOrder : Json → Json → Ordering
  | null, null => .eq
  | null, _ => .lt
  | _, null => .gt
  | text a, text b => compare a b
  | number m, number n => compare m.toBinary64.value n.toBinary64.value
  | bool a, bool b => compare a.toNat b.toNat
  | a, b => compare a.compact b.compact

end Json

/-- What is wanted of the rows of a model. -/
structure QuerySet where
  model : String
  filters : List Condition := []
  order : List OrderTerm := []
  /-- The paths whose values tell rows apart; the empty list stands for whole rows. -/
  distinct : Option (List String) := none
  /-- The paths along which related rows are embedded. -/
  related : List String := []
  /-- The only fields wanted. -/
  projection : Option (List String) := none

namespace QuerySet

/-- The query set of all rows of a registered model. -/
def of (r : Registry) (model : String) : Outcome QuerySet := do
  discard (r.model model)
  return { model }

/-! ### Refinements -/

def filter (q : QuerySet) (c : Condition) : QuerySet := { q with filters := q.filters ++ [c] }

def exclude (q : QuerySet) (c : Condition) : QuerySet := q.filter c.negate

/-- Keeps the rows that pass one of some conditions, or all rows when there is none. -/
def filterAny (q : QuerySet) : List Condition → QuerySet
  | [] => q
  | c :: rest => q.filter (rest.foldl Condition.or c)

def orderBy (q : QuerySet) (terms : List OrderTerm) : QuerySet := { q with order := terms }

def distinctOn (q : QuerySet) (paths : List String) : QuerySet := { q with distinct := some paths }

/-- Adds paths to embed, each once. -/
def embedding (q : QuerySet) (paths : List String) : QuerySet :=
  { q with related := paths.foldl (fun related path => if related.contains path then related else related ++ [path]) q.related }

def project (q : QuerySet) (fields : List String) : QuerySet := { q with projection := some fields }

/-- Keeps the rows of a selection. -/
def select (q : QuerySet) : Selection → QuerySet
  | .direct c none => q.filter c
  | .direct c (some excluded) => (q.filter c).exclude excluded
  | .combined c => q.filter c

/-! ### Rows -/

/-- The paths that have to make sense, in the order in which they are checked. -/
def paths (q : QuerySet) : List String :=
  q.filters.flatMap Condition.paths ++ q.order.map OrderTerm.path ++ q.distinct.getD [] ++ q.projection.getD []

/-- Checks all paths. -/
def check (r : Registry) (q : QuerySet) : Outcome Unit := q.paths.forM (r.checkPath q.model)

/-- Whether a row passes all filters. -/
def accepts (r : Registry) (s : Store) (q : QuerySet) (row : Row) : Bool :=
  q.filters.all fun c => c.holds (s.valuesAt r q.model row)

/-- The order of two rows by some terms, an earlier term first. -/
def compareRows (r : Registry) (s : Store) (model : String) : List OrderTerm → Row → Row → Ordering
  | [], _, _ => .eq
  | term :: rest, a, b =>
    let order := (s.firstAt r model a term.path).sortOrder (s.firstAt r model b term.path)
    (if term.descending then order.swap else order).then (compareRows r s model rest a b)

/-- The rows with keys that no row before them has; `seen` holds the keys so far. -/
def firstOfEach (key : Row → String) (seen : List String) : List Row → List Row
  | [] => []
  | row :: rest =>
    if seen.contains (key row) then firstOfEach key seen rest else row :: firstOfEach key (key row :: seen) rest

/-- The text that tells a row apart from others. -/
def distinctKey (r : Registry) (s : Store) (model : String) (paths : List String) (row : Row) : String :=
  if paths.isEmpty then (Json.object row).compact
  else (Json.list (paths.map (s.firstAt r model row))).compact

/-- The stored rows that are wanted, in their order and without repetitions. -/
def matching (r : Registry) (s : Store) (q : QuerySet) : List Row :=
  let rows := (s.rows q.model).filter (q.accepts r s)
  let sorted := if q.order.isEmpty then rows else rows.mergeSort fun a b => (compareRows r s q.model q.order a b).isLE
  match q.distinct with
  | none => sorted
  | some paths => firstOfEach (distinctKey r s q.model paths) [] sorted

/-- Changes an embedded row, or each of those embedded as a list. -/
def onEmbedded (f : Row → Row) : Json → Json
  | .object row => .object (f row)
  | .list items => .list (items.map fun
    | .object row => .object (f row)
    | other => other)
  | other => other

/-- The row that a reference leads to, or null. -/
def referenced (r : Registry) (s : Store) (ref : Reference) (row : Row) : Json :=
  (((s.rowsWithKeys r ref.target [(row.get? ref.column).getD .null]).head?).map fun row : Row => Json.object row).getD .null

/-- The rows that an inverse relation leads to: a list, or for a one-to-one relation a row or null. -/
def referring (r : Registry) (s : Store) (model : String) (i : Inverse) (row : Row) : Json :=
  let rows := s.rowsReferring r model [row] i
  if i.oneToOne then (rows.head?.map fun row : Row => Json.object row).getD .null else .list (rows.map fun row : Row => .object row)

/-- What is already embedded under a reference, or else the row that it leads to. -/
def underReference (r : Registry) (s : Store) (ref : Reference) (row : Row) : Json :=
  match row.get? ref.name with
  | some (.object related) => .object related
  | _ => referenced r s ref row

/-- A row with related rows embedded along the segments of a path. What is already embedded stays. -/
def embed (r : Registry) (s : Store) : String → List String → Row → Row
  | _, [], row => row
  | model, segment :: rest, row =>
    match (r.model? model).bind (·.field? segment) with
    | some (.reference ref) =>
      row.insert ref.name (match underReference r s ref row with
        | .object related => .object (embed r s ref.target rest related)
        | other => other)
    | some (.inverse i) =>
      row.insert i.name (onEmbedded (embed r s i.source rest) ((row.get? i.name).getD (referring r s model i row)))
    | _ => row

/-- A row with related rows embedded along all paths. -/
def withRelated (r : Registry) (s : Store) (q : QuerySet) (row : Row) : Row :=
  q.related.foldl (fun row path => embed r s q.model (LookupKey.segments path) row) row

/-- A row in the wanted form. -/
def shape (r : Registry) (s : Store) (q : QuerySet) (row : Row) : Row :=
  let full := withRelated r s q row
  match q.projection with
  | none => full
  | some fields => Dict.of (fields.map fun name => (name, (full.get? name).getD (s.firstAt r q.model row name)))

/-- The rows of a query set. -/
def fetch (r : Registry) (s : Store) (q : QuerySet) : Outcome (List Row) := do
  q.check r
  return (q.matching r s).map (q.shape r s)

/-- The only row of a query set with a primary key. -/
def get (r : Registry) (s : Store) (q : QuerySet) (key : Json) : Outcome Row := do
  q.check r
  let column ← (← r.model q.model).keyColumn
  match (q.matching r s).filter (Table.hasKey column key) with
  | [] => throw (.noRow q.model key)
  | [row] => return q.shape r s row
  | _ => throw (.manyRows q.model key)

/-- How many rows a query set has. -/
def count (r : Registry) (s : Store) (q : QuerySet) : Outcome Nat := do
  q.check r
  return (q.matching r s).length

/-- Whether a query set has rows. -/
def isInhabited (r : Registry) (s : Store) (q : QuerySet) : Outcome Bool := (q.count r s).map (0 < ·)

/-- The rows of a query set in pages. -/
def pages (r : Registry) (s : Store) (q : QuerySet) (size : Nat) : Outcome (Pages Row) :=
  (q.fetch r s).map fun rows => .of rows size

end QuerySet

end ModelCatalog
