import ModelCatalog.Text.CaseTable
import ModelCatalog.Text.Current

/-!
# Lower case

Full Unicode lower-casing. Each upper-case letter has one lower-case form, but for two: `İ` becomes `i` and a combining dot, and the
capital sigma becomes a final sigma at the end of a word.
-/

namespace ModelCatalog.Text

/-- The image of a code point under the runs, or itself. -/
def applyRuns : List CaseRun → Nat → Nat
  | [], c => c
  | run :: rest, c =>
    if c < run.first then c
    else if c ≤ run.last && (c - run.first) % run.step == 0 then run.target + (c - run.first)
    else applyRuns rest c

/-- The lower-case form of a character away from the two exceptions. -/
def lowerChar (c : Char) : Char := Char.ofNat (applyRuns newerLowerRuns (applyRuns lowerRuns c.toNat))

/-- Whether the nearest character that does not merely continue a word has case. -/
def touchesWord (cs : List Char) : Bool :=
  match cs.dropWhile Current.caseIgnorable.contains with
  | [] => false
  | c :: _ => Current.cased.contains c

/-- The lower-case form of a capital sigma between the characters before it, the nearest first, and those behind it. -/
def lowerSigma (before after : List Char) : Char :=
  if touchesWord before && !touchesWord after then 'ς' else 'σ'

/-- The lower-case form of a character between the characters before it, the nearest first, and those behind it. -/
def lowerAt (before : List Char) (c : Char) (after : List Char) : List Char :=
  if c == 'Σ' then [lowerSigma before after]
  else if c == 'İ' then ['i', '\u0307']
  else [lowerChar c]

/-- Lower-cases the characters behind those of `before`, the nearest first. -/
def lowerFrom (before : List Char) : List Char → List Char
  | [] => []
  | c :: rest => lowerAt before c rest ++ lowerFrom (c :: before) rest

/-- The text in lower case. -/
def lower (s : String) : String := String.ofList (lowerFrom [] s.toList)

/-- The text with the letters `A` to `Z` in lower case and all others unchanged. -/
def lowerAscii (s : String) : String := s.map Char.toLower

end ModelCatalog.Text
