import ModelCatalog.Json.Parser
import ModelCatalog.Json.Shape
import ModelCatalog.Query.Condition

/-!
# Boolean queries

A query keeps the rows that match all of its filters and not all of its exclusions, and those that one of its alternatives keeps.
Alternatives of alternatives do not count.
-/

namespace ModelCatalog

/-- A query as it is sent. -/
structure BooleanQuery where
  filters : Row := .empty
  exclude : Row := .empty
  alternatives : List BooleanQuery := []
  /-- The objects among the operands list their members in order. -/
  filters_sorted : Json.MembersSorted filters := by first | exact trivial | decide
  exclude_sorted : Json.MembersSorted exclude := by first | exact trivial | decide

/-- What is done to select the rows of a query. -/
inductive Selection where
  /-- Filter, then exclude. -/
  | direct (filter : Condition) (exclude : Option Condition)
  /-- Filter once. -/
  | combined (c : Condition)

namespace BooleanQuery

/-- The condition of a query without its alternatives. -/
def ownClause (q : BooleanQuery) : Outcome Condition := do
  let filter ← Condition.ofEntries q.filters
  if q.exclude.isEmpty then return filter
  return filter.and (← Condition.ofEntries q.exclude).negate

/-- The selection of a query. -/
def compile (q : BooleanQuery) : Outcome Selection := do
  if q.alternatives.isEmpty then
    let filter ← Condition.ofEntries q.filters
    if q.exclude.isEmpty then return .direct filter none
    return .direct filter (some (← Condition.ofEntries q.exclude))
  let own ← q.ownClause
  return .combined (← q.alternatives.foldlM (fun c alternative => alternative.ownClause.map c.or) own)

/-- The selection of a query that is an alternative of another one. -/
def compileAlternative (q : BooleanQuery) : Outcome Selection := q.ownClause.map .combined

/-! ### Notation -/

mutual

def toJson : BooleanQuery → Json
  | ⟨filters, exclude, alternatives, _, _⟩ =>
    .object [("exclude", .object exclude), ("filters", .object filters), ("or", .list (listJson alternatives))]

def listJson : List BooleanQuery → List Json
  | [] => []
  | q :: rest => toJson q :: listJson rest

end

/-- The names of a query's members. -/
def members : List (List String) := [["filters"], ["exclude"], ["or", "or_"]]

/-- What is read of the text of a query. -/
def outline : Json.Outline := .record (members.zip [.whole, .whole, .listOf .again])

/-- A query from a value and what its alternatives were read as. -/
def assemble? (value : Json) (alternatives : Option (List BooleanQuery)) : Option BooleanQuery :=
  match Json.slots? members value with
  | some [filters, exclude, _] => do
    let ⟨filters, filters_sorted⟩ ← filters.orElse? ⟨.empty, trivial⟩ Json.readRecord?
    let ⟨exclude, exclude_sorted⟩ ← exclude.orElse? ⟨.empty, trivial⟩ Json.readRecord?
    return { filters, exclude, alternatives := ← alternatives, filters_sorted, exclude_sorted }
  | _ => none

mutual

/-- A query. -/
def read? : Json → Option BooleanQuery
  | .object entries => assemble? (.object entries) (readMember entries)
  | .list [filters, exclude, alternatives] => assemble? (.list [filters, exclude, alternatives]) (readList? alternatives)
  | value => assemble? value (some [])

/-- The alternatives among the members of an object. -/
def readMember : List (String × Json) → Option (List BooleanQuery)
  | [] => some []
  | (name, value) :: rest => if name = "or" ∨ name = "or_" then readList? value else readMember rest

def readList? : Json → Option (List BooleanQuery)
  | .list items => readItems? items
  | _ => none

def readItems? : List Json → Option (List BooleanQuery)
  | [] => some []
  | item :: rest => do return (← read? item) :: (← readItems? rest)

end

/-- The text without the byte order marks in front of it. -/
def withoutMarks (text : String) : String := String.ofList (text.toList.dropWhile (· = '\ufeff'))

/-- The query in a JSON text. -/
def parse (text : String) : Outcome BooleanQuery :=
  match Json.read? outline (withoutMarks text) >>= read? with
  | some q => .ok q
  | none => .error (.onField "query" "Invalid query: not a query" "invalid")

end BooleanQuery

end ModelCatalog
