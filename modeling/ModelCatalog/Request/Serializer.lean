import ModelCatalog.Schema.Registry

/-!
# Serializers

Which fields of a row are written out: all columns and whatever relations and properties the row carries, or just some chosen names.
-/

namespace ModelCatalog

/-- The fields with which the rows of a model are written out. -/
structure Serializer where
  model : String
  fields : List String
  /-- Relations, written out when a row carries them. -/
  relations : List String
  /-- Properties, written out when a row carries them. -/
  properties : List String
  /-- Whether the fields were chosen, so that nothing else is written out. -/
  isSubset : Bool := false
  deriving Repr

namespace Serializer

/-- References and inverse relations can be embedded in a row, lists of links cannot. -/
def isEmbeddable : Field → Bool
  | .reference _ | .inverse _ => true
  | _ => false

/-- The serializer of a model. -/
def ofModel (m : Model) : Serializer where
  model := m.name
  fields := m.valueColumns
  relations := (m.fields.filter isEmbeddable).map Field.name
  properties := m.properties

/-- The fields that a store can give: all but properties. -/
def storedFields (s : Serializer) : List String := s.fields.filter fun name => !s.properties.contains name

/-- Whether a name can be chosen. -/
def knows (s : Serializer) (name : String) : Bool :=
  s.fields.contains name || s.relations.contains name || s.properties.contains name

/-- The serializer for chosen names only. -/
def subset (s : Serializer) (names : List String) : Outcome Serializer :=
  match names.find? fun name => !s.knows name with
  | some name => .error (.onField name (s.model ++ " has no field named '" ++ name ++ "'.") "invalid")
  | none => .ok { s with fields := names, isSubset := true }

/-- A row as it is written out. -/
def serialize (s : Serializer) (row : Row) : Row :=
  let chosen := Dict.of (s.fields.map fun name => (name, (row.get? name).getD .null))
  if s.isSubset then chosen
  else
    chosen.extend ((s.relations ++ s.properties).filterMap fun name => (row.get? name).map (Prod.mk name))

end Serializer

end ModelCatalog
