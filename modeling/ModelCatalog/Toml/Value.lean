import ModelCatalog.Json.Basic
import ModelCatalog.Toml.Moment

/-!
# Values of TOML as JSON

JSON has no dates and times, so their text stands for them, and no infinite numbers, so null does. A table whose first key is `momentKey`
stands for a date or time as well, which is its text under this key.
-/

namespace ModelCatalog.Toml

/-- A value in a document. -/
inductive Value where
  | text (s : String)
  | bool (b : Bool)
  | number (n : Number)
  /-- A number that is infinite, or none at all. -/
  | unbounded
  /-- A date, a time of day, or both, as text. -/
  | moment (s : String)
  | list (items : List Value)
  /-- A table, its members in the order in which they were given. -/
  | table (members : List (String × Value))

namespace Value

def int (n : Int) : Value := .number (.int n)

/-- The first key of a table that stands for a date or time. -/
def momentKey : String := "$__toml_private_datetime"

/-- The text that a table stands for whose first member is a given one, if the key of that member says that it stands for a date or
time. The value under the key must be a date or time in a string. -/
def wrapped? (key : String) (value : Value) : Option (Option String) :=
  if key = momentKey then
    match value with
    | text s => some (normalMoment? s)
    | _ => some none
  else none

mutual

/-- The value as JSON. A table that should stand for a date or time but cannot has none. -/
def toJson? : Value → Option Json
  | text s => some (.text s)
  | bool b => some (.bool b)
  | number n => some (.number n)
  | unbounded => some .null
  | moment s => some (.text s)
  | list items => (itemsJson? items).map .list
  | table [] => some (.object [])
  | table ((key, value) :: rest) =>
    match wrapped? key value with
    | some wrapped => wrapped.map .text
    | none => (membersJson? ((key, value) :: rest)).map fun members => .object (Dict.ofList members)

def itemsJson? : List Value → Option (List Json)
  | [] => some []
  | item :: rest => do return (← toJson? item) :: (← itemsJson? rest)

def membersJson? : List (String × Value) → Option (List (String × Json))
  | [] => some []
  | (key, value) :: rest => do return (key, ← toJson? value) :: (← membersJson? rest)

end

end Value

end ModelCatalog.Toml
