import ModelCatalog.Json.Basic

/-!
# TypeScript literals

A JSON value as a TypeScript literal. Texts stand between single quotes; the name of a property is quoted only when it is not an
identifier.
-/

namespace ModelCatalog.Client

/-- The form of a character inside single quotes. -/
def quoteChar : Char → List Char
  | '\\' => ['\\', '\\']
  | '\'' => ['\\', '\'']
  | '\n' => ['\\', 'n']
  | '\r' => ['\\', 'r']
  | '\t' => ['\\', 't']
  | c => [c]

/-- A text between single quotes. -/
def quote (s : String) : String := String.ofList ('\'' :: s.toList.flatMap quoteChar ++ ['\''])

/-- Whether a character may begin an identifier. -/
def isIdentifierStart (c : Char) : Bool := c.isAlpha || c == '_' || c == '$'

/-- Whether a text is an identifier made of ASCII letters, digits, underscores and dollar signs. -/
def isIdentifier (s : String) : Bool :=
  match s.toList with
  | [] => false
  | c :: rest => isIdentifierStart c && rest.all fun c => isIdentifierStart c || c.isDigit

/-- The name of a property. -/
def propertyKey (name : String) : String := if isIdentifier name then name else quote name

mutual

/-- The literal of a value. -/
def literal : Json → String
  | .null => "null"
  | .bool b => if b then "true" else "false"
  | .number n => n.text
  | .text s => quote s
  | .list items => "[" ++ ", ".intercalate (literalItems items) ++ "]"
  | .object members => "\x7b" ++ ", ".intercalate (literalMembers members) ++ "\x7d"

def literalItems : List Json → List String
  | [] => []
  | item :: rest => literal item :: literalItems rest

def literalMembers : List (String × Json) → List String
  | [] => []
  | (name, value) :: rest => (propertyKey name ++ ": " ++ literal value) :: literalMembers rest

end

end ModelCatalog.Client
