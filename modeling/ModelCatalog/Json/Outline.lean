/-!
# Outlines

What of a JSON text is read. Members of a structure that nobody asks for are passed over, so they need not even have a value that can be
represented.
-/

namespace ModelCatalog.Json

/-- What of a value is read. -/
inductive Outline where
  /-- Everything. -/
  | whole
  /-- A structure: the members by these names of an object, or the items of a list in this order. -/
  | record (members : List (List String × Outline))
  /-- A list with items of one kind. -/
  | listOf (item : Outline)
  /-- A value of the kind of the outermost one. -/
  | again

namespace Outline

/-- What is read of an item of a list. -/
def item (i : Nat) : Outline → Outline
  | record members => (members[i]?.map Prod.snd).getD whole
  | listOf item => item
  | _ => whole

/-- What is read of a member of an object, unless it is passed over. -/
def member? (name : String) : Outline → Option Outline
  | record members => (members.find? fun m => m.1.contains name).map Prod.snd
  | _ => some whole

end Outline

end ModelCatalog.Json
