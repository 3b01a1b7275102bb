/-!
# Parts of texts

Whether a text begins with, ends with or contains another one, character by character.
-/

namespace ModelCatalog.Text

/-- Whether a list of characters occurs in another one without gaps. -/
def occursIn (part : List Char) : List Char → Bool
  | [] => part.isEmpty
  | c :: rest => part.isPrefixOf (c :: rest) || occursIn part rest

/-- Whether a text contains another one. -/
def contains (s part : String) : Bool := occursIn part.toList s.toList

/-- Whether a text begins with another one. -/
def startsWith (s part : String) : Bool := part.toList.isPrefixOf s.toList

/-- Whether a text ends with another one. -/
def endsWith (s part : String) : Bool := part.toList.isSuffixOf s.toList

end ModelCatalog.Text
