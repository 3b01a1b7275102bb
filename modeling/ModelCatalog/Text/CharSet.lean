/-!
# Sets of characters

A set of characters is kept as the ascending list of the code points at which membership changes, so that `[0x41, 0x5B]` is the set of the
letters `A` to `Z`. Union, intersection and the others are one merge of two such lists, which keeps the list ascending.
-/

namespace ModelCatalog.Text

/-- The code points `first`, `first + step`, … up to `last`. -/
structure Run where
  first : Nat
  last : Nat
  step : Nat

/-- A set of characters. -/
structure CharSet where
  /-- The code points at which membership changes; 0 is outside the set unless it is the first of them. -/
  changes : List Nat
  ascending : changes.Pairwise (· < ·)
  deriving DecidableEq

namespace CharSet

/-- Puts a change before others if there is a change at all. -/
def putChange (old new : Bool) (place : Nat) (rest : List Nat) : List Nat := if old = new then rest else place :: rest

/-- The changes of a combination of two sets, from the changes of both that are still to come and whether the code points before them are
in the one and in the other. -/
def mergeChanges (op : Bool → Bool → Bool) (a b : Bool) : List Nat → List Nat → List Nat
  | [], [] => []
  | x :: xs, [] => putChange (op a b) (op (!a) b) x (mergeChanges op (!a) b xs [])
  | [], y :: ys => putChange (op a b) (op a (!b)) y (mergeChanges op a (!b) [] ys)
  | x :: xs, y :: ys =>
    if x < y then putChange (op a b) (op (!a) b) x (mergeChanges op (!a) b xs (y :: ys))
    else if y < x then putChange (op a b) (op a (!b)) y (mergeChanges op a (!b) (x :: xs) ys)
    else putChange (op a b) (op (!a) (!b)) x (mergeChanges op (!a) (!b) xs ys)
termination_by xs ys => xs.length + ys.length

theorem mem_putChange {old new : Bool} {place z : Nat} {rest : List Nat} (h : z ∈ putChange old new place rest) :
    z = place ∨ z ∈ rest := by
  unfold putChange at h
  split at h
  · exact .inr h
  · simpa using h

theorem mem_mergeChanges {op : Bool → Bool → Bool} {a b : Bool} {xs ys : List Nat} {z : Nat}
    (h : z ∈ mergeChanges op a b xs ys) : z ∈ xs ∨ z ∈ ys := by
  fun_induction mergeChanges op a b xs ys with
  | case1 => simp at h
  | _ => have := mem_putChange h; grind

theorem pairwise_putChange {old new : Bool} {place : Nat} {rest : List Nat} (h : rest.Pairwise (· < ·))
    (above : ∀ z ∈ rest, place < z) : (putChange old new place rest).Pairwise (· < ·) := by
  unfold putChange
  split
  · exact h
  · exact List.pairwise_cons.2 ⟨above, h⟩

theorem pairwise_mergeChanges (op : Bool → Bool → Bool) (a b : Bool) (xs ys : List Nat) (hx : xs.Pairwise (· < ·))
    (hy : ys.Pairwise (· < ·)) : (mergeChanges op a b xs ys).Pairwise (· < ·) := by
  fun_induction mergeChanges op a b xs ys with
  | case1 => exact .nil
  | _ =>
    refine pairwise_putChange (by grind) fun z hz => ?_
    have := mem_mergeChanges hz
    grind [List.pairwise_cons]

/-- The characters for which an operation gives true, from whether they are in the one set and in the other. -/
def combine (op : Bool → Bool → Bool) (s t : CharSet) : CharSet where
  changes := mergeChanges op false false s.changes t.changes
  ascending := pairwise_mergeChanges op false false s.changes t.changes s.ascending t.ascending

def empty : CharSet := ⟨[], .nil⟩

instance : Inhabited CharSet := ⟨empty⟩

theorem pairwise_pair {first behind : Nat} (h : first < behind) : [first, behind].Pairwise (· < ·) := by
  simpa using h

/-- The code points from the first to the last. -/
def range (first last : Nat) : CharSet :=
  if h : first ≤ last then ⟨[first, last + 1], pairwise_pair (Nat.lt_succ_of_le h)⟩ else empty

def single (c : Char) : CharSet := range c.toNat c.toNat

def union (s t : CharSet) : CharSet := combine or s t

def inter (s t : CharSet) : CharSet := combine and s t

/-- The characters of the first set that are not in the second one. -/
def diff (s t : CharSet) : CharSet := combine (fun a b => a && !b) s t

/-- The characters of one of the sets only. -/
def symmDiff (s t : CharSet) : CharSet := combine xor s t

/-- All characters: every code point but those of surrogates. -/
def all : CharSet := (range 0 0x10FFFF).diff (range 0xD800 0xDFFF)

/-- The characters from the first to the last. -/
def between (first last : Char) : CharSet := (range first.toNat last.toNat).inter all

/-- The characters that are not in a set. -/
def compl (s : CharSet) : CharSet := all.diff s

/-- Joins neighbours. -/
def unionPairs : List CharSet → List CharSet
  | s :: t :: rest => s.union t :: unionPairs rest
  | sets => sets

theorem length_unionPairs_le : (sets : List CharSet) → (unionPairs sets).length ≤ sets.length
  | [] | [_] => Nat.le_refl _
  | _ :: _ :: rest => by
    have := length_unionPairs_le rest
    simp only [unionPairs, List.length_cons]
    omega

/-- The characters that are in one of some sets. Neighbours are joined first, so that sets of like size meet. -/
def unionAll : List CharSet → CharSet
  | [] => empty
  | [s] => s
  | s :: t :: rest => unionAll (s.union t :: unionPairs rest)
termination_by sets => sets.length
decreasing_by
  have := length_unionPairs_le rest
  simp only [List.length_cons]
  omega

/-- The characters in one of some ranges. -/
def ofRanges (ranges : List (Nat × Nat)) : CharSet := unionAll (ranges.map fun r => range r.1 r.2)

/-- The sets of neighbours that make up a run. -/
def ofRun (run : Run) : List CharSet :=
  if run.step = 1 then [range run.first run.last]
  else (List.range ((run.last - run.first) / run.step + 1)).map fun i =>
    let c := run.first + i * run.step
    range c c

/-- The characters in one of some runs. -/
def ofRuns (runs : List Run) : CharSet := unionAll (runs.flatMap ofRun)

/-- The code points of a list. -/
def ofCodes (cs : List Nat) : CharSet := unionAll (cs.map fun c => range c c)

/-- Whether a code point is inside, from whether those before the first of the changes are. -/
def insideAfter (inside : Bool) (c : Nat) : List Nat → Bool
  | [] => inside
  | x :: rest => if c < x then inside else insideAfter (!inside) c rest

def containsCode (s : CharSet) (c : Nat) : Bool := insideAfter false c s.changes

def contains (s : CharSet) (c : Char) : Bool := s.containsCode c.toNat

/-- The ranges of a list of changes. -/
def rangesOf : List Nat → List (Nat × Nat)
  | first :: behind :: rest => (first, behind - 1) :: rangesOf rest
  | _ => []

/-- The ranges of neighbours in a set, in ascending order. -/
def ranges (s : CharSet) : List (Nat × Nat) := rangesOf s.changes

def isEmpty (s : CharSet) : Bool := s.changes.isEmpty

/-- The only character of a set, if it has just one. -/
def only? (s : CharSet) : Option Char :=
  match s.changes with
  | [first, behind] => if behind = first + 1 then some (Char.ofNat first) else none
  | _ => none

end CharSet

end ModelCatalog.Text
