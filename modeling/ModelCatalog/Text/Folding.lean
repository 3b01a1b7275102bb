import ModelCatalog.Text.CaseTable
import ModelCatalog.Text.CharSet

/-!
# Case folding

Two characters differ only in case when simple case folding takes them to the same character. It is lower-casing of single characters,
but for a few letters of their own and for Cherokee, where it goes to the older upper-case letters.
-/

namespace ModelCatalog.Text

/-- Whether a code point is in a run. -/
def CaseRun.covers (run : CaseRun) (c : Nat) : Bool :=
  run.first ≤ c && c ≤ run.last && (c - run.first) % run.step == 0

/-- The code points of a run with what they go to. -/
def CaseRun.pairs (run : CaseRun) : List (Nat × Nat) :=
  (List.range ((run.last - run.first) / run.step + 1)).map fun i => (run.first + i * run.step, run.target + i * run.step)

/-- The code points that folding changes, with what it takes them to. -/
def foldPairs : List (Nat × Nat) :=
  let byLowering := (lowerRuns.flatMap CaseRun.pairs).filter fun p => !foldRuns.any (·.covers p.1)
  (foldRuns.flatMap CaseRun.pairs ++ byLowering).filter fun p => p.1 ≠ p.2

namespace CharSet

/-- The characters that differ from those of a set at most in case: what these are taken to, and whatever is taken to the same. -/
def fold (s : CharSet) : CharSet :=
  let targets := ofCodes (foldPairs.filterMap fun (c, t) => if s.containsCode c || s.containsCode t then some t else none)
  let sources := ofCodes (foldPairs.filterMap fun (c, t) => if targets.containsCode t then some c else none)
  .unionAll [s, targets, sources]

/-- The characters that differ from those of a set at most in the case of an ASCII letter. -/
def foldAscii (s : CharSet) : CharSet :=
  let letters := (List.range 26).filter fun i => s.containsCode (0x41 + i) || s.containsCode (0x61 + i)
  s.union (ofCodes (letters.flatMap fun i => [0x41 + i, 0x61 + i]))

end CharSet

end ModelCatalog.Text
