import ModelCatalog.Toml.Scalar
import ModelCatalog.Toml.Table

/-!
# Reading TOML

`Toml.parse?` reads a document as a JSON object.
-/

namespace ModelCatalog.Toml

mutual

/-- A value, with `depth` levels of nesting left. Each call of the three readers but those from a list or a table to a part consumes a
character, so twice the length of the text is fuel enough. -/
def readValue? : Nat → Nat → List Char → Option (Value × List Char)
  | 0, _, _ => none
  | fuel + 1, depth, cs =>
    match cs with
    | '[' :: rest =>
      if depth = 0 then none
      else (readItems? fuel (depth - 1) rest).map fun (items, rest) => (.list items, rest)
    | '\x7b' :: rest =>
      if depth = 0 then none
      else
        match dropGap rest with
        | '\x7d' :: rest => some (.table [], rest)
        | rest => do
          let (pairs, rest) ← readPairs? fuel (depth - 1) rest
          return ((← Table.ofPairs pairs).toValue, rest)
    | cs => readScalar? cs

/-- The items of a list up to its closing bracket. They may be spread over lines, with comments, and a comma may follow the last. -/
def readItems? : Nat → Nat → List Char → Option (List Value × List Char)
  | 0, _, _ => none
  | fuel + 1, depth, cs =>
    match dropComments false cs with
    | ']' :: rest => some ([], rest)
    | cs => do
      let (item, rest) ← readValue? fuel depth cs
      match dropComments false rest with
      | ',' :: rest =>
        let (items, rest) ← readItems? fuel depth rest
        return (item :: items, rest)
      | ']' :: rest => return ([item], rest)
      | _ => none

/-- The pairs of an inline table up to its closing brace. They stand on one line, and no comma follows the last. -/
def readPairs? : Nat → Nat → List Char → Option (List (List String × Value) × List Char)
  | 0, _, _ => none
  | fuel + 1, depth, cs => do
    let (key, rest) ← readKey? cs
    match rest with
    | '=' :: rest =>
      let (value, rest) ← readValue? fuel depth (dropGap rest)
      match dropGap rest with
      | ',' :: rest =>
        let (pairs, rest) ← readPairs? fuel depth rest
        return ((key, value) :: pairs, rest)
      | '\x7d' :: rest => return ([(key, value)], rest)
      | _ => none
    | _ => none

end

/-- A line that begins with a bracket: the header of a table, or of a table in a list of tables. -/
def readHeader? (cs : List Char) : Option (Line × List Char) :=
  match cs with
  | '[' :: '[' :: rest => do
    let (path, rest) ← readKey? rest
    match rest with
    | ']' :: ']' :: rest => return (.item path, ← endLine? rest)
    | _ => none
  | '[' :: rest => do
    let (path, rest) ← readKey? rest
    match rest with
    | ']' :: rest => return (.header path, ← endLine? rest)
    | _ => none
  | _ => none

/-- A line with a key and a value. -/
def readPair? (cs : List Char) : Option (Line × List Char) := do
  let (key, rest) ← readKey? cs
  match rest with
  | '=' :: rest =>
    let (value, rest) ← readValue? (2 * rest.length + 2) maxDepth (dropGap rest)
    return (.pair key value, ← endLine? rest)
  | _ => none

/-- The lines of a document but those that are blank or hold only a comment. Each line takes a character at least, so the length of the
text is fuel enough. -/
def readLines? : Nat → List Char → Option (List Line)
  | 0, _ => none
  | fuel + 1, cs =>
    match dropGap cs with
    | [] => some []
    | c :: rest =>
      if c = '#' ∨ c = '\n' ∨ c = '\r' then endLine? (c :: rest) >>= readLines? fuel
      else do
        let (line, rest) ← if c = '[' then readHeader? (c :: rest) else readPair? (c :: rest)
        return line :: (← readLines? fuel rest)

/-- The text without a byte order mark in front. -/
def dropMark : List Char → List Char
  | '\ufeff' :: rest => rest
  | cs => cs

/-- The document in a text, as a JSON object. -/
def parse? (s : String) : Option Json := do
  let cs := dropMark s.toList
  (Table.toValue (← Table.addLines [] (← readLines? (cs.length + 1) cs) [])).toJson?

end ModelCatalog.Toml
