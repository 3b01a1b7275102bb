import ModelCatalog.Store.Basic

/-!
# Paths through stored rows

A path names, segment by segment, relations that lead from row to row and at last a field. Below a field that holds JSON it goes on through
the members of its value. `Registry.checkPath` says whether a path makes sense, `Store.valuesAt` gives the values it leads to.
-/

namespace ModelCatalog

/-- The value under a path of members; what has no such member gives null. -/
def Json.descend (value : Json) : List String → Json
  | [] => value
  | name :: rest =>
    match value with
    | .object members => ((Entries.get? members name).getD .null).descend rest
    | _ => Json.null.descend rest

namespace Registry

/-- Checks the segments of a path that begins at a model. -/
def checkSegments (r : Registry) (path : String) : String → List String → Outcome Unit
  | _, [] => .ok ()
  | model, segment :: rest => do
    let m ← r.model model
    match m.fieldAnsweringTo? segment with
    | none => throw (.pathWithoutField path m.name segment)
    | some (.plain c) =>
      if rest.isEmpty || c.kind = .scalar .json then return ()
      else throw (.pathThroughPlainField path c.name)
    | some (.reference ref) =>
      if segment = ref.column && !rest.isEmpty then throw (.pathWithoutField path m.name segment)
      else checkSegments r path ref.target rest
    | some (.inverse i) => checkSegments r path i.source rest
    | some (.links l) => checkSegments r path l.target rest

/-- Checks a path that begins at a model. -/
def checkPath (r : Registry) (model path : String) : Outcome Unit :=
  r.checkSegments path model (LookupKey.segments path)

/-- The primary key column of a model. -/
def keyColumn? (r : Registry) (model : String) : Option String := (r.model? model).bind fun m => m.keyColumn.toOption

end Registry

namespace Store

/-- The rows of a model whose primary key is one of some keys. -/
def rowsWithKeys (r : Registry) (s : Store) (model : String) (keys : List Json) : List Row :=
  match r.keyColumn? model with
  | none => []
  | some column => (s.rows model).filter fun row => (row.get? column).any fun value => keys.any (·.equals value)

/-- The rows of the inverse's source that refer to one of some rows of a model. -/
def rowsReferring (r : Registry) (s : Store) (model : String) (rows : List Row) (i : Inverse) : List Row :=
  match r.keyColumn? model with
  | none => []
  | some column =>
    let keys := rows.filterMap (·.get? column)
    (s.rows i.source).filter fun row =>
      (row.get? (i.field ++ "_id")).any fun value => !value.isNull && keys.any (·.equals value)

/-- The keys that rows hold in a list of links. -/
def linkedKeys (l : Links) (rows : List Row) : List Json :=
  rows.flatMap fun row =>
    match row.get? l.name with
    | some (.list keys) => keys
    | _ => []

/-- The values that the segments of a path lead to from some rows of a model. -/
def follow (r : Registry) (s : Store) : String → List Row → List String → List Json
  | _, _, [] => []
  | model, rows, segment :: rest =>
    match (r.model? model).bind (·.fieldAnsweringTo? segment) with
    | none => []
    | some (.plain c) => rows.map fun row => ((row.get? c.name).getD .null).descend rest
    | some (.reference ref) =>
      let keys := rows.map fun row => (row.get? ref.column).getD .null
      if rest.isEmpty then keys else follow r s ref.target (s.rowsWithKeys r ref.target keys) rest
    | some (.inverse i) =>
      let found := s.rowsReferring r model rows i
      if rest.isEmpty then found.filterMap fun row => (r.keyColumn? i.source).bind row.get?
      else follow r s i.source found rest
    | some (.links l) =>
      let keys := linkedKeys l rows
      if rest.isEmpty then keys else follow r s l.target (s.rowsWithKeys r l.target keys) rest

/-- The values that a path leads to from a row of a model. -/
def valuesAt (r : Registry) (s : Store) (model : String) (row : Row) (path : String) : List Json :=
  s.follow r model [row] (LookupKey.segments path)

/-- The first value that a path leads to, or null. -/
def firstAt (r : Registry) (s : Store) (model : String) (row : Row) (path : String) : Json :=
  (s.valuesAt r model row path).headD .null

end Store

end ModelCatalog
