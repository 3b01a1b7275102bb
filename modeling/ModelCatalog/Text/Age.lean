import ModelCatalog.Text.AgeTable

/-!
# Ages

The age of a character is the version of Unicode that added it.
-/

namespace ModelCatalog.Text.Age

/-- The characters of the versions of a list up to the one of a name. -/
def upTo? (name : String) (before : CharSet) : List (String × String × List Run) → Option CharSet
  | [] => none
  | (short, long, runs) :: rest =>
    let soFar := before.union (.ofRuns runs)
    if name = short ∨ name = long then some soFar else upTo? name soFar rest

/-- The characters of the version of a name and of those before it. -/
def find? (name : String) : Option CharSet := upTo? name .empty versions

end ModelCatalog.Text.Age
