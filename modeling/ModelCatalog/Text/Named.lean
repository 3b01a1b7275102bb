import ModelCatalog.Text.Age
import ModelCatalog.Text.Break

/-!
# Sets of characters by name

The names by which general categories, scripts and other properties are asked for. They are matched loosely: case, blanks, hyphens and
underscores do not count, nor does `is` in front.
-/

namespace ModelCatalog.Text

/-- A name without what does not count. A single `c` behind `is` is part of the name `isc`. -/
def looseName (name : String) : String :=
  let cs := name.toList
  let behindIs := if (cs.take 2).map Char.toLower = ['i', 's'] then some (cs.drop 2) else none
  let kept := ((behindIs.getD cs).filter fun c => c.toNat < 128 && c ≠ ' ' && c ≠ '_' && c ≠ '-').map Char.toLower
  if behindIs.isSome && kept = ['c'] then "isc" else String.ofList kept

/-- The set that goes by a loose name in a list. -/
def lookupSet? (sets : List (List String × CharSet)) (name : String) : Option CharSet :=
  (sets.find? fun entry => entry.1.contains name).map Prod.snd

namespace CharSet

/-- The set of a name: a property, a general category or a script. Some short names are taken for categories only. -/
def named? (name : String) : Option CharSet :=
  let name := looseName name
  let property := if ["cf", "sc", "lc"].contains name then none else lookupSet? Property.named name
  property <|> lookupSet? Category.named name <|> (Script.find? name).map Script.chars

/-- The set of characters for which a property has a value. -/
def valued? (property value : String) : Option CharSet :=
  let value := looseName value
  match looseName property with
  | "gc" | "generalcategory" => lookupSet? Category.named value
  | "sc" | "script" => (Script.find? value).map Script.chars
  | "scx" | "scriptextensions" => (Script.find? value).map Script.usedChars
  | "age" => Age.find? value
  | "gcb" | "graphemeclusterbreak" => lookupSet? GraphemeBreak.named value
  | "wb" | "wordbreak" => lookupSet? WordBreak.named value
  | "sb" | "sentencebreak" => lookupSet? SentenceBreak.named value
  | _ => none

end CharSet

end ModelCatalog.Text
