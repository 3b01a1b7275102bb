/-!
# Pages of a list

A list is cut into pages of one size, all full but perhaps the last; the pages are numbered from one.
-/

namespace ModelCatalog

/-- Why there is no page of a number. -/
inductive PageFailure where
  | zero
  | beyond
  deriving DecidableEq, Repr

/-- The wording of a failure. -/
def PageFailure.message : PageFailure → String
  | zero => "Invalid page: Page number must be >= 1"
  | beyond => "That page contains no results"

/-- A list that is looked at in pages. -/
structure Pages (α : Type) where
  items : List α
  size : Nat
  size_pos : 0 < size := by decide

/-- A page with its number. -/
structure Page (α : Type) where
  items : List α
  number : Nat

namespace Pages

variable {α : Type}

/-- The pages of a size, or of size one in place of zero. -/
def of (items : List α) (size : Nat) : Pages α := ⟨items, max size 1, by omega⟩

/-- How many pages there are. -/
def count (p : Pages α) : Nat := (p.items.length + p.size - 1) / p.size

/-- The items of the page of a number. -/
def slice (p : Pages α) (number : Nat) : List α := (p.items.drop ((number - 1) * p.size)).take p.size

/-- The page of a number. -/
def page (p : Pages α) (number : Nat) : Except PageFailure (Page α) :=
  if number = 0 then .error .zero
  else if p.count < number then .error .beyond
  else .ok { items := p.slice number, number }

/-- The page whose number comes nearest. Without items it is an empty first page. -/
def nearest (p : Pages α) (number : Nat) : Page α :=
  let number := max 1 (min number (max p.count 1))
  { items := p.slice number, number }

/-- Whether there is a page behind the page of a number. -/
def hasNext (p : Pages α) (number : Nat) : Bool := number < p.count

/-- Whether there is a page before the page of a number. -/
def hasPrevious (number : Nat) : Bool := 1 < number

end Pages

/-! ### In machine words

The same arithmetic on counts of 64 bits, step by step. A step whose result is no such count leaves nothing. -/

namespace Word

/-- A count that fits 64 bits. -/
def fit (n : Nat) : Option Nat := if n < UInt64.size then some n else none

def add (a b : Nat) : Option Nat := fit (a + b)

def mul (a b : Nat) : Option Nat := fit (a * b)

def sub (a b : Nat) : Option Nat := if b ≤ a then some (a - b) else none

end Word

namespace Pages

variable {α : Type}

/-- How many pages there are: the full ones, and one for what is left over. -/
def countInWords (p : Pages α) : Option Nat :=
  if p.items.length % p.size = 0 then some (p.items.length / p.size) else Word.add (p.items.length / p.size) 1

/-- The items between where the page begins and where it stops, neither of which is behind the end of the list. -/
def sliceInWords (p : Pages α) (number : Nat) : Option (List α) := do
  let start := min (← Word.mul (← Word.sub number 1) p.size) p.items.length
  let stop := min (← Word.add start p.size) p.items.length
  return (p.items.drop start).take (← Word.sub stop start)

def pageInWords (p : Pages α) (number : Nat) : Option (Except PageFailure (Page α)) := do
  if number = 0 then return .error .zero
  if (← p.countInWords) < number then return .error .beyond
  return .ok { items := ← p.sliceInWords number, number }

def nearestInWords (p : Pages α) (number : Nat) : Option (Page α) := do
  let number := max 1 (min number (max (← p.countInWords) 1))
  return { items := ← p.sliceInWords number, number }

end Pages

end ModelCatalog
