import ModelCatalog.Toml.Value

/-!
# Tables of a TOML document

A document fills a table line by line. The lines may come in any order, but none may say again what another one said: a table has one
header, what dotted keys made is only extended by dotted keys, and a value is closed. `Table.addLines` keeps to this. The members of a
table stay in the order in which they were first given, but a table that gets its header late comes after those before the header.
-/

namespace ModelCatalog.Toml

/-- How a table came to be. -/
inductive Origin where
  /-- By a header of its own. -/
  | header
  /-- By the header of a table within it. -/
  | implied
  /-- By dotted keys. -/
  | dotted
  deriving DecidableEq, Repr

/-- What a table holds under a key. -/
inductive Node where
  | value (v : Value)
  | table (origin : Origin) (members : List (String × Node))
  /-- A list of tables, of which the last one is still open. -/
  | tables (closed : List Value) (last : List (String × Node))

/-- A table that is being filled. -/
abbrev Table := List (String × Node)

mutual

def Node.toValue : Node → Value
  | .value v => v
  | .table _ members => .table (Node.memberValues members)
  | .tables closed last => .list (closed ++ [.table (Node.memberValues last)])

def Node.memberValues : List (String × Node) → List (String × Value)
  | [] => []
  | (key, node) :: rest => (key, node.toValue) :: Node.memberValues rest

end

/-- A line of a document. -/
inductive Line where
  | pair (key : List String) (value : Value)
  | header (path : List String)
  /-- The header of a table in a list of tables. -/
  | item (path : List String)

namespace Table

def toValue (t : Table) : Value := .table (Node.memberValues t)

/-- Puts a node under a key, in place of the one it had or behind all others. -/
def set : Table → String → Node → Table
  | [], key, node => [(key, node)]
  | (name, old) :: rest, key, node => if name = key then (key, node) :: rest else (name, old) :: set rest key node

/-- Puts a value under a dotted key. The tables on the way are new or not of their own header, and the one that gets the value is new
or made by dotted keys. -/
def put (value : Value) : List String → Table → Option Table
  | [], _ => none
  | [key], t => if (t.lookup key).isSome then none else some (t.set key (.value value))
  | key :: next :: path, t =>
    match t.lookup key with
    | none => (put value (next :: path) []).map fun sub => t.set key (.table .dotted sub)
    | some (.table .dotted sub) => (put value (next :: path) sub).map fun sub => t.set key (.table .dotted sub)
    | some (.table .implied sub) =>
      if path.isEmpty then none
      else (put value (next :: path) sub).map fun sub => t.set key (.table .implied sub)
    | some (.tables closed last) =>
      if path.isEmpty then none
      else (put value (next :: path) last).map fun last => t.set key (.tables closed last)
    | some (.table .header _) | some (.value _) => none

/-- Changes the table at a path. The tables on the way are made if they are missing, and of a list of tables the last one is taken. -/
def modifyAt (change : Table → Option Table) : List String → Table → Option Table
  | [], t => change t
  | key :: path, t =>
    match t.lookup key with
    | none => (modifyAt change path []).map fun sub => t.set key (.table .implied sub)
    | some (.table origin sub) => (modifyAt change path sub).map fun sub => t.set key (.table origin sub)
    | some (.tables closed last) => (modifyAt change path last).map fun last => t.set key (.tables closed last)
    | some (.value _) => none

/-- Gives a table its header, and puts it behind all others. -/
def openTable (key : String) (t : Table) : Option Table :=
  match t.lookup key with
  | none => some (t.set key (.table .header []))
  | some (.table .implied sub) => some (t.filter (·.1 ≠ key) ++ [(key, .table .header sub)])
  | _ => none

/-- Begins the next table in a list of tables. -/
def openItem (key : String) (t : Table) : Option Table :=
  match t.lookup key with
  | none => some (t.set key (.tables [] []))
  | some (.tables closed last) => some (t.set key (.tables (closed ++ [toValue last]) []))
  | _ => none

/-- Adds the lines of a document, with `current` the path of the last header. -/
def addLines : List String → List Line → Table → Option Table
  | _, [], t => some t
  | current, .pair key value :: rest, t => modifyAt (put value key) current t >>= addLines current rest
  | _, .header path :: rest, t =>
    match path.getLast? with
    | some key => modifyAt (openTable key) path.dropLast t >>= addLines path rest
    | none => none
  | _, .item path :: rest, t =>
    match path.getLast? with
    | some key => modifyAt (openItem key) path.dropLast t >>= addLines path rest
    | none => none

/-- The table of the pairs of an inline table. -/
def ofPairs (pairs : List (List String × Value)) : Option Table :=
  pairs.foldlM (fun t pair => put pair.2 pair.1 t) []

end Table

end ModelCatalog.Toml
