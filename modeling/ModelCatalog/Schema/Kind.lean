/-!
# Field kinds

What a plain field holds. Kinds fall into classes: texts, numbers, points and spans of time; the values of these three can be ordered.
-/

namespace ModelCatalog

/-- The built-in kinds without parameters. -/
inductive Scalar where
  | auto
  | bigAuto
  | char
  | text
  | slug
  | email
  | url
  | uuid
  | integer
  | smallInteger
  | bigInteger
  | positiveInteger
  | positiveSmallInteger
  | float
  | decimal
  | boolean
  | nullBoolean
  | date
  | dateTime
  | time
  | duration
  | json
  | binary
  deriving DecidableEq, Repr

/-- What a plain field holds. -/
inductive Kind where
  | scalar (s : Scalar)
  | array (base : Kind)
  /-- A kind of the user's own. -/
  | custom (name : String)
  deriving DecidableEq, Repr

namespace Scalar

/-- Every scalar kind, in order. -/
def all : List Scalar :=
  [auto, bigAuto, char, text, slug, email, url, uuid, integer, smallInteger, bigInteger, positiveInteger, positiveSmallInteger,
    float, decimal, boolean, nullBoolean, date, dateTime, time, duration, json, binary]

/-- The name of a scalar kind in schema files. -/
def name : Scalar → String
  | auto => "AutoField"
  | bigAuto => "BigAutoField"
  | char => "CharField"
  | text => "TextField"
  | slug => "SlugField"
  | email => "EmailField"
  | url => "UrlField"
  | uuid => "UuidField"
  | integer => "IntegerField"
  | smallInteger => "SmallIntegerField"
  | bigInteger => "BigIntegerField"
  | positiveInteger => "PositiveIntegerField"
  | positiveSmallInteger => "PositiveSmallIntegerField"
  | float => "FloatField"
  | decimal => "DecimalField"
  | boolean => "BooleanField"
  | nullBoolean => "NullBooleanField"
  | date => "DateField"
  | dateTime => "DateTimeField"
  | time => "TimeField"
  | duration => "DurationField"
  | json => "JsonField"
  | binary => "BinaryField"

/-- The scalar kind of a name. -/
def ofName? (name : String) : Option Scalar := all.find? fun s => s.name = name

/-- The class of a scalar kind. -/
inductive Class where
  | text
  | number
  | time
  | other
  deriving DecidableEq, Repr

/-- The class a scalar kind belongs to. -/
def classOf : Scalar → Class
  | char | text | slug | email | url | uuid => .text
  | auto | bigAuto | integer | smallInteger | bigInteger | positiveInteger | positiveSmallInteger | float | decimal => .number
  | date | dateTime | time | duration => .time
  | boolean | nullBoolean | json | binary => .other

end Scalar

namespace Kind

/-- The name under which the type of a kind can be overridden. -/
def name : Kind → String
  | scalar s => s.name
  | array _ => "ArrayField"
  | custom name => name

/-- The class a kind belongs to. -/
def classOf : Kind → Scalar.Class
  | scalar s => s.classOf
  | _ => .other

def isText (k : Kind) : Bool := k.classOf = .text

def isNumeric (k : Kind) : Bool := k.classOf = .number

def isTemporal (k : Kind) : Bool := k.classOf = .time

/-- Whether the values of the kind can be ordered. -/
def isOrdered (k : Kind) : Bool := k.classOf ≠ .other

/-- Whether keys of the kind are assigned by the store. -/
def isAuto : Kind → Bool
  | scalar .auto | scalar .bigAuto => true
  | _ => false

end Kind

end ModelCatalog
