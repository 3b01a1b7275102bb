import ModelCatalog.Query.Lookup
import ModelCatalog.Schema.Model

/-!
# Conditions

A condition is made of lookups on paths by conjunction, disjunction and negation. The empty conjunction holds of every row and counts as
no condition at all: joined to another condition, in either way, it gives way to it.
-/

namespace ModelCatalog

/-- A condition on a row. -/
inductive Condition where
  /-- Some value at a path matches. -/
  | test (path : String) (lookup : Lookup)
  | all (parts : List Condition)
  | any (parts : List Condition)
  | not (c : Condition)

namespace Condition

/-- The condition that holds of every row. -/
def always : Condition := all []

/-- A condition without parts. -/
def isEmpty : Condition → Bool
  | all parts | any parts => parts.isEmpty
  | _ => false

/-- The conjunction of two conditions. Conjunctions are not nested in each other. -/
def and : Condition → Condition → Condition
  | all [], b => b
  | a, all [] => a
  | all as, all bs => all (as ++ bs)
  | all as, b => all (as ++ [b])
  | a, all bs => all (a :: bs)
  | a, b => all [a, b]

/-- The disjunction of two conditions that are not empty. Disjunctions are not nested in each other. -/
def orParts : Condition → Condition → Condition
  | any as, any bs => any (as ++ bs)
  | any as, b => any (as ++ [b])
  | a, any bs => any (a :: bs)
  | a, b => any [a, b]

/-- The disjunction of two conditions; an empty one gives way to the other. -/
def or (a b : Condition) : Condition :=
  if a.isEmpty then b else if b.isEmpty then a else orParts a b

/-- The negation of a condition. Negations are not nested in each other, and no condition stays none. -/
def negate : Condition → Condition
  | not c => c
  | all [] => all []
  | c => not c

/-- Whether one of the values at a path matches; without values it is null that has to. -/
def matchesAt (lookup : Lookup) : List Json → Bool
  | [] => lookup.holds .null
  | values => values.any lookup.holds

mutual

/-- Whether a condition holds, when `resolve` gives the values at a path. -/
def holds (resolve : String → List Json) : Condition → Bool
  | test path lookup => matchesAt lookup (resolve path)
  | all parts => holdAll resolve parts
  | any parts => holdAny resolve parts
  | not c => !holds resolve c

def holdAll (resolve : String → List Json) : List Condition → Bool
  | [] => true
  | c :: rest => holds resolve c && holdAll resolve rest

def holdAny (resolve : String → List Json) : List Condition → Bool
  | [] => false
  | c :: rest => holds resolve c || holdAny resolve rest

end

mutual

/-- The paths that a condition is about. -/
def paths : Condition → List String
  | test path _ => [path]
  | all parts | any parts => partPaths parts
  | not c => paths c

def partPaths : List Condition → List String
  | [] => []
  | c :: rest => paths c ++ partPaths rest

end

/-- The condition of a key and an operand. -/
def ofEntry (key : String) (operand : Json) : Outcome Condition :=
  let (path, op) := LookupKey.parse key
  if path.contains "" then .error (.onField key "Malformed lookup key." "invalid")
  else
    match Lookup.ofOperand op operand with
    | .ok lookup => .ok (test (LookupKey.join path) lookup)
    | .error complaint => .error (.onField key complaint.message complaint.code)

/-- The conjunction of all entries, in order of key. -/
def ofEntries (filters : Row) : Outcome Condition :=
  filters.entries.foldlM (fun c entry => (ofEntry entry.1 entry.2).map c.and) always

end Condition

end ModelCatalog
