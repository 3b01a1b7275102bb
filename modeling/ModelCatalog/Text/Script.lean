import ModelCatalog.Text.CharSet
import ModelCatalog.Text.ScriptTable
import ModelCatalog.Text.ScriptUseTable

/-!
# Scripts

A character belongs to one script. The scripts it is used with are that one, unless the table of uses lists others for it.
-/

namespace ModelCatalog.Text

/-- The characters with a use of their own. -/
def usedElsewhere : CharSet := .ofRanges (scriptUses.map fun u => (u.first, u.last))

namespace Script

/-- The characters that belong to a script. -/
def chars (s : Script) : CharSet := .ofRanges s.ranges

/-- The characters that are used with a script. -/
def usedChars (s : Script) : CharSet :=
  let listed := scriptUses.filter fun u => u.scripts.any s.names.contains
  (s.chars.diff usedElsewhere).union (.ofRanges (listed.map fun u => (u.first, u.last)))

/-- The script of a loose name. -/
def find? (name : String) : Option Script := all.find? fun s => s.names.contains name

end Script

end ModelCatalog.Text
