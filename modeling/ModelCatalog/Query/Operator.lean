/-!
# Lookup operators

The operators with which a query tests a value, and the keys that name a path and an operator, such as `parent__age__gte`.
-/

namespace ModelCatalog

/-- How a value is tested. -/
inductive Operator where
  | exact
  | iexact
  | contains
  | icontains
  | oneOf
  | gt
  | gte
  | lt
  | lte
  | startsWith
  | istartsWith
  | endsWith
  | iendsWith
  | range
  | isNull
  | regex
  | iregex
  | date
  | year
  | month
  | day
  | weekDay
  | hour
  | minute
  | second
  deriving DecidableEq, Repr

namespace Operator

/-- Every operator, in order. -/
def all : List Operator :=
  [exact, iexact, contains, icontains, oneOf, gt, gte, lt, lte, startsWith, istartsWith, endsWith, iendsWith, range, isNull, regex,
    iregex, date, year, month, day, weekDay, hour, minute, second]

/-- The name of an operator in lookup keys. -/
def name : Operator → String
  | exact => "exact"
  | iexact => "iexact"
  | contains => "contains"
  | icontains => "icontains"
  | oneOf => "in"
  | gt => "gt"
  | gte => "gte"
  | lt => "lt"
  | lte => "lte"
  | startsWith => "startswith"
  | istartsWith => "istartswith"
  | endsWith => "endswith"
  | iendsWith => "iendswith"
  | range => "range"
  | isNull => "isnull"
  | regex => "regex"
  | iregex => "iregex"
  | date => "date"
  | year => "year"
  | month => "month"
  | day => "day"
  | weekDay => "week_day"
  | hour => "hour"
  | minute => "minute"
  | second => "second"

/-- The operator of a name. -/
def ofName? (name : String) : Option Operator := all.find? fun op => op.name = name

/-- Whether the operator tests texts. -/
def isText : Operator → Bool
  | iexact | contains | icontains | startsWith | istartsWith | endsWith | iendsWith | regex | iregex => true
  | _ => false

end Operator

namespace LookupKey

/-- What stands between the segments of a path. -/
def separator : String := "__"

/-- Splits at each pair of underscores, from the left; `read` holds the current segment, its last character first. -/
def splitFrom (read : List Char) : List Char → List (List Char)
  | [] => [read.reverse]
  | '_' :: '_' :: rest => read.reverse :: splitFrom [] rest
  | c :: rest => splitFrom (c :: read) rest

/-- The segments of a path. There is at least one, and a segment may be empty. -/
def segments (path : String) : List String := (splitFrom [] path.toList).map String.ofList

/-- The path of some segments. -/
def join (segments : List String) : String := separator.intercalate segments

/-- The segments and the operator of a key. The last of several segments is the operator when it names one; otherwise the operator is
`exact`. -/
def parse (key : String) : List String × Operator :=
  let found := segments key
  match found.getLast?.bind Operator.ofName? with
  | some op => if 1 < found.length then (found.dropLast, op) else (found, .exact)
  | none => (found, .exact)

end LookupKey

end ModelCatalog
