import ModelCatalog.Failure

/-!
# Order terms

A path by which rows are ordered, from the least value up, or down behind a minus sign.
-/

namespace ModelCatalog

/-- A term of an order. -/
structure OrderTerm where
  path : String
  descending : Bool
  deriving DecidableEq, Repr

namespace OrderTerm

/-- The term of a text: a path, which may not be empty, with or without a sign. -/
def parse (term : String) : Outcome OrderTerm :=
  let (path, descending) := match term.toList with
    | '-' :: rest => (rest, true)
    | '+' :: rest => (rest, false)
    | path => (path, false)
  if path.isEmpty then .error (.rejected (.plain ("Invalid ordering term '" ++ term ++ "'") "invalid"))
  else .ok { path := String.ofList path, descending }

def text (t : OrderTerm) : String := if t.descending then "-" ++ t.path else t.path

end OrderTerm

end ModelCatalog
