import ModelCatalog.Query.BooleanQuery
import ModelCatalog.Request.Prefetch
import ModelCatalog.Settings.Basic

/-!
# Parameters of list requests

What a client can ask of a list: which rows, in which order, with which fields and related rows, and whether all of them, a page, their
number, or only whether there are any.
-/

namespace ModelCatalog

/-- The parameters of a list request. -/
structure ListParams where
  query : Option BooleanQuery := none
  /-- Terms of the order, each with or without a sign. -/
  order : Option (List String) := none
  distinct : Option (List String) := none
  prefetch : Option (List PrefetchTree) := none
  /-- The only fields wanted. -/
  values : Option (List String) := none
  page : Option Nat := none
  pageSize : Option Nat := none
  onlyExists : Bool := false
  onlyCount : Bool := false
  /-- The branches of each tree are in order. -/
  prefetch_sorted : ∀ trees ∈ prefetch, ∀ t ∈ trees, t.IsSorted := by simp

namespace ListParams

/-! ### Notation -/

def textsJson : Option (List String) → Json
  | some texts => .list (texts.map .text)
  | none => .null

def toJson (p : ListParams) : Json :=
  .object [("count", .bool p.onlyCount), ("distinct", textsJson p.distinct), ("exists", .bool p.onlyExists),
    ("order_by", textsJson p.order), ("page", (p.page.map Json.nat).getD .null),
    ("pagesize", (p.pageSize.map Json.nat).getD .null),
    ("prefetch", (p.prefetch.map fun trees => .list (trees.map PrefetchTree.toJson)).getD .null),
    ("query", (p.query.map BooleanQuery.toJson).getD .null), ("values", textsJson p.values)]

/-- The names of the parameters. -/
def members : List (List String) :=
  [["query"], ["order_by", "order_on"], ["distinct"], ["prefetch"], ["values", "fields"], ["page"], ["pagesize"], ["exists"],
    ["count"]]

/-- Parameters in the form in which they are sent. -/
def read? (value : Json) : Option ListParams :=
  let readTexts? := Json.readList? Json.readText?
  match Json.slots? members value with
  | some [query, order, distinct, prefetch, values, page, pageSize, onlyExists, onlyCount] => do
    let trees ← prefetch.nullable? (Json.readList? PrefetchTree.readSorted?)
    return {
      query := ← query.nullable? BooleanQuery.read?
      order := ← order.nullable? readTexts?
      distinct := ← distinct.nullable? readTexts?
      prefetch := trees.map List.unattach
      values := ← values.nullable? readTexts?
      page := ← page.nullable? Json.readCount?
      pageSize := ← pageSize.nullable? Json.readCount?
      onlyExists := ← onlyExists.orElse? false Json.readBool?
      onlyCount := ← onlyCount.orElse? false Json.readBool?
      prefetch_sorted := by simp +contextual }
  | _ => none

/-- Checks that a number that has to be at least one is not zero. -/
def checkCount (name : String) (n : Option Nat) : Outcome Unit :=
  if n = some 0 then .error (.onField name "Ensure this value is greater than or equal to 1." "min_value") else .ok ()

/-- The parameters in a value. -/
def ofValue (value : Json) : Outcome ListParams :=
  match read? value with
  | none => .error (.rejected (.plain "Invalid list parameters: not parameters" "invalid"))
  | some p => do
    checkCount "page" p.page
    checkCount "pagesize" p.pageSize
    return p

/-- The JSON value of a parameter that is given as text. -/
def readText (name text : String) : Outcome Json :=
  match Json.parse? (if name = "query" then BooleanQuery.withoutMarks text else text) with
  | some value => .ok value
  | none => .error (.onField name "Invalid JSON: not a value" "invalid")

/-- The parameters in a dictionary of JSON texts. Other names do not matter. -/
def ofTexts (texts : Dict String) : Outcome ListParams := do
  let found ← members.flatten.mapM fun name =>
    match texts.get? name with
    | some text => (readText name text).map fun value => some (name, value)
    | none => .ok none
  ofValue (.object (Dict.ofList (found.filterMap id)))

/-! ### Use -/

/-- Whether a page is asked for. -/
def isPaginated (p : ListParams) : Bool := p.page.isSome

/-- The page size, within what the settings allow. -/
def sizeOfPage (p : ListParams) (settings : Settings) : Nat := settings.pageSize p.pageSize

end ListParams

end ModelCatalog
