import ModelCatalog.Query.Operator
import ModelCatalog.Schema.Model
import ModelCatalog.Text.Search

/-!
# Types of fields and lookups

Which TypeScript type stands for a field kind, and which for the operand of a lookup on it. Overrides are written as they are given: one
for the serializer of a field comes before one for its kind, and both before the built-in type.
-/

namespace ModelCatalog.Client

/-- Overrides by name of serializer or kind. -/
abbrev TypeTable := Dict String

/-- A type in parentheses when it is a union, so that what follows applies to all of it. -/
def parenthesize (type : String) : String :=
  if Text.contains type " | " then "(" ++ type ++ ")" else type

/-- The type of a scalar kind. Points and spans of time travel as texts. -/
def scalarType : Scalar → String
  | .boolean => "boolean"
  | .nullBoolean => "boolean | null"
  | .json => "object"
  | .binary => "any"
  | s =>
    match s.classOf with
    | .number => "number"
    | _ => "string"

namespace TypeTable

/-- The type of a kind, by an override for its name or the built-in one. -/
def kindType (table : TypeTable) : Kind → String
  | .scalar s => (table.get? s.name).getD (scalarType s)
  | .array base => (table.get? (Kind.array base).name).getD (parenthesize (table.kindType base) ++ "[]")
  | .custom name => (table.get? name).getD "any"

/-- The type of the values of a kind in a field with a serializer. -/
def valueType (table : TypeTable) (kind : Kind) (serializer : Option String) : String :=
  (serializer.bind table.get?).getD (table.kindType kind)

end TypeTable

/-- The type of an operand, from the type of the values it is compared with. -/
def operandType (valueType : String) (kind : Kind) : Operator → String
  | .oneOf => parenthesize valueType ++ "[]"
  | .range => "[" ++ valueType ++ ", " ++ valueType ++ "]"
  | .isNull => "boolean"
  | .year | .month | .day | .weekDay | .hour | .minute | .second => "number"
  | .date => "string"
  | op => if op.isText && !kind.isText then "string" else valueType

/-- The type of a column, or of the operand of a lookup on it; choices do not count. -/
def TypeTable.columnType (table : TypeTable) (c : Column) : Option Operator → String
  | none => table.valueType c.kind c.serializer
  | some op => operandType (table.valueType c.kind c.serializer) c.kind op

/-- The operators that test texts. -/
def textOperators : List Operator :=
  [.iexact, .contains, .icontains, .startsWith, .istartsWith, .endsWith, .iendsWith, .regex, .iregex]

/-- The operators that compare by order. -/
def orderOperators : List Operator := [.gt, .gte, .lt, .lte, .range]

/-- The operators that take a part of a point of time. -/
def partOperators : Kind → List Operator
  | .scalar .date => [.year, .month, .day, .weekDay]
  | .scalar .dateTime => [.date, .year, .month, .day, .weekDay, .hour, .minute, .second]
  | .scalar .time => [.hour, .minute, .second]
  | _ => []

/-- Whether values of the kind can be looked for in a list. -/
def isListable : Kind → Bool
  | .scalar .json | .scalar .binary | .array _ => false
  | _ => true

/-- The operators for a field of a kind. -/
def operatorsFor (kind : Kind) (nullable : Bool) : List Operator :=
  [.exact] ++ (if isListable kind then [.oneOf] else []) ++ (if kind.isText then textOperators else [])
    ++ (if kind.isOrdered then orderOperators else []) ++ partOperators kind ++ if nullable then [.isNull] else []

end ModelCatalog.Client
