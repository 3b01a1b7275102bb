import ModelCatalog.Calendar.Parser
import ModelCatalog.Failure
import ModelCatalog.Pattern.Match
import ModelCatalog.Pattern.Parser
import ModelCatalog.Query.Operator
import ModelCatalog.Text.Lowercase
import ModelCatalog.Text.Search

/-!
# Lookups

A lookup is an operator with an operand that fits it. It tests a single value; a value that is absent counts as null. Two numbers are
compared as double-precision numbers, whichever way they are written.
-/

namespace ModelCatalog

/-! ### Comparing values -/

namespace Json

/-- Whether two values are equal to a lookup: numbers are compared as double-precision numbers, anything else as it stands. -/
def equals : Json → Json → Bool
  | number m, number n => m.toBinary64.value == n.toBinary64.value
  | a, b => a.same b

/-- The order of two texts, numbers or truth values; values of different kinds have none. -/
def compare? : Json → Json → Option Ordering
  | text a, text b => some (if a < b then .lt else if a = b then .eq else .gt)
  | number m, number n => some (compare m.toBinary64.value n.toBinary64.value)
  | bool a, bool b => some (compare a.toNat b.toNat)
  | _, _ => none

end Json

/-- A comparison by order. -/
inductive Comparison where
  | above
  | atLeast
  | below
  | atMost
  deriving DecidableEq, Repr

namespace Comparison

/-- Whether an order, if there is one, is the wanted one. -/
def holds : Comparison → Option Ordering → Bool
  | above, order => order = some .gt
  | atLeast, order => order = some .gt || order = some .eq
  | below, order => order = some .lt
  | atMost, order => order = some .lt || order = some .eq

def operator : Comparison → Operator
  | above => .gt
  | atLeast => .gte
  | below => .lt
  | atMost => .lte

end Comparison

namespace MomentPart

def operator : MomentPart → Operator
  | date => .date
  | year => .year
  | month => .month
  | day => .day
  | weekDay => .weekDay
  | hour => .hour
  | minute => .minute
  | second => .second

/-- The part of a point of time, if it has it: a date as a text, the others as numbers. -/
def of? (m : Moment) : MomentPart → Option Json
  | date => m.date?.map fun d => .text d.text
  | year => m.date?.map fun d => .int d.year
  | month => m.date?.map fun d => .nat d.month
  | day => m.date?.map fun d => .nat d.day
  | weekDay => m.date?.map fun d => .nat d.weekDay
  | hour => m.time?.map fun t => .nat t.hour
  | minute => m.time?.map fun t => .nat t.minute
  | second => m.time?.map fun t => .nat t.second

end MomentPart

/-! ### Lookups -/

/-- A test of a text. -/
inductive TextTest where
  | equals
  | contains
  | startsWith
  | endsWith
  deriving DecidableEq, Repr

namespace TextTest

/-- Whether a text passes the test with an operand. -/
def holds (s operand : String) : TextTest → Bool
  | equals => s == operand
  | contains => Text.contains s operand
  | startsWith => Text.startsWith s operand
  | endsWith => Text.endsWith s operand

end TextTest

/-- An operator with its operand. -/
inductive Lookup where
  | exact (value : Json)
  /-- Equal to a text, not counting case. -/
  | sameText (operand : String)
  | contains (ignoreCase : Bool) (operand : String)
  | startsWith (ignoreCase : Bool) (operand : String)
  | endsWith (ignoreCase : Bool) (operand : String)
  | oneOf (values : List Json)
  | compare (comparison : Comparison) (bound : Json)
  | range (low high : Json)
  | isNull (expected : Bool)
  | pattern (ignoreCase : Bool) (source : String) (regex : Regex)
  | part (part : MomentPart) (expected : Json)

namespace Lookup

/-- What a lookup wants of its operand. -/
def mismatch (op : Operator) (expected : String) : Complaint where
  message := "The '" ++ op.name ++ "' lookup expects " ++ expected ++ "."
  code := "invalid"
  params := [("lookup", op.name)]

/-- An operand that is a text. -/
def textOperand (op : Operator) : Json → Except Complaint String
  | .text s => .ok s
  | _ => .error (mismatch op "a string")

/-- The lookup of a pattern. -/
def ofPattern (ignoreCase : Bool) (source : String) : Except Complaint Lookup :=
  match Pattern.compile? source ignoreCase with
  | some regex => .ok (pattern ignoreCase source regex)
  | none => .error { message := "Invalid regular expression: malformed", code := "invalid" }

/-- The lookup of a comparison, whose bound is not null. -/
def ofBound (comparison : Comparison) (bound : Json) : Except Complaint Lookup :=
  if bound.isNull then .error (mismatch comparison.operator "a non-null value") else .ok (compare comparison bound)

/-- The lookup of a part of a point of time, which is not null. -/
def ofPart (p : MomentPart) (expected : Json) : Except Complaint Lookup :=
  if expected.isNull then .error (mismatch p.operator "a value") else .ok (part p expected)

/-- The lookup of an operator with an operand. -/
def ofOperand (op : Operator) (operand : Json) : Except Complaint Lookup :=
  match op with
  | .exact => .ok (exact operand)
  | .iexact => (textOperand op operand).map sameText
  | .contains => (textOperand op operand).map (contains false)
  | .icontains => (textOperand op operand).map (contains true)
  | .startsWith => (textOperand op operand).map (startsWith false)
  | .istartsWith => (textOperand op operand).map (startsWith true)
  | .endsWith => (textOperand op operand).map (endsWith false)
  | .iendsWith => (textOperand op operand).map (endsWith true)
  | .oneOf =>
    match operand with
    | .list values => .ok (oneOf values)
    | _ => .error (mismatch op "an array")
  | .gt => ofBound .above operand
  | .gte => ofBound .atLeast operand
  | .lt => ofBound .below operand
  | .lte => ofBound .atMost operand
  | .range =>
    match operand with
    | .list [low, high] => .ok (range low high)
    | _ => .error (mismatch op "a two-element array")
  | .isNull =>
    match operand with
    | .bool expected => .ok (isNull expected)
    | _ => .error (mismatch op "a boolean")
  | .regex => textOperand op operand >>= ofPattern false
  | .iregex => textOperand op operand >>= ofPattern true
  | .date => ofPart .date operand
  | .year => ofPart .year operand
  | .month => ofPart .month operand
  | .day => ofPart .day operand
  | .weekDay => ofPart .weekDay operand
  | .hour => ofPart .hour operand
  | .minute => ofPart .minute operand
  | .second => ofPart .second operand

def operator : Lookup → Operator
  | exact _ => .exact
  | sameText _ => .iexact
  | contains ignoreCase _ => if ignoreCase then .icontains else .contains
  | startsWith ignoreCase _ => if ignoreCase then .istartsWith else .startsWith
  | endsWith ignoreCase _ => if ignoreCase then .iendsWith else .endsWith
  | oneOf _ => .oneOf
  | compare comparison _ => comparison.operator
  | range .. => .range
  | isNull _ => .isNull
  | pattern ignoreCase .. => if ignoreCase then .iregex else .regex
  | part p _ => p.operator

/-- The operand as it was given. -/
def operand : Lookup → Json
  | exact value => value
  | sameText s | contains _ s | startsWith _ s | endsWith _ s => .text s
  | oneOf values => .list values
  | compare _ bound => bound
  | range low high => .list [low, high]
  | isNull expected => .bool expected
  | pattern _ source _ => .text source
  | part _ expected => expected

/-- Whether a value is a text that passes a test, in lower case when case does not count. -/
def passes (test : TextTest) (ignoreCase : Bool) (operand : String) : Json → Bool
  | .text s => if ignoreCase then test.holds (Text.lower s) (Text.lower operand) else test.holds s operand
  | _ => false

/-- Whether a value that is not null is what a lookup looks for. -/
def accepts (value : Json) : Lookup → Bool
  | exact expected => value.equals expected
  | sameText s => passes .equals true s value
  | contains ignoreCase s => passes .contains ignoreCase s value
  | startsWith ignoreCase s => passes .startsWith ignoreCase s value
  | endsWith ignoreCase s => passes .endsWith ignoreCase s value
  | oneOf values => values.any value.equals
  | compare comparison bound => comparison.holds (value.compare? bound)
  | range low high => Comparison.atLeast.holds (value.compare? low) && Comparison.atMost.holds (value.compare? high)
  | isNull expected => !expected
  | pattern _ _ regex => value.text?.any regex.occursIn
  | part p expected => ((value.text?.bind Moment.parse?).bind p.of?).any (·.equals expected)

/-- Whether null is what a lookup looks for. -/
def acceptsNull : Lookup → Bool
  | exact expected => expected.isNull
  | isNull expected => expected
  | _ => false

/-- Whether a value matches. -/
def holds (l : Lookup) (value : Json) : Bool := if value.isNull then l.acceptsNull else l.accepts value

end Lookup

end ModelCatalog
