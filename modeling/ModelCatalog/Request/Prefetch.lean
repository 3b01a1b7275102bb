import ModelCatalog.Json.Shape
import ModelCatalog.Query.Operator
import ModelCatalog.Schema.Registry

/-!
# Prefetch trees

A tree of names says which related rows are wanted along with a row. Flattened, it is the list of paths from its root to those of its leaves
that name something to load. Lists of links are never loaded, nor what stands below them in a tree.
-/

namespace ModelCatalog

/-- What to load with a row. -/
inductive PrefetchTree where
  /-- A field or property. -/
  | leaf (name : String)
  | leaves (names : List String)
  /-- Relations, each with what to load with the rows it leads to. -/
  | branches (children : List (String × PrefetchTree))
  deriving Repr

namespace PrefetchTree

/-! ### Notation -/

mutual

def toJson : PrefetchTree → Json
  | leaf name => .text name
  | leaves names => .list (names.map .text)
  | branches children => .object (childrenJson children)

def childrenJson : List (String × PrefetchTree) → List (String × Json)
  | [] => []
  | (name, tree) :: rest => (name, toJson tree) :: childrenJson rest

end

mutual

/-- A tree is given as a name, a list of names, or an object of trees. -/
def read? : Json → Option PrefetchTree
  | .text name => some (leaf name)
  | .list items => (Json.readList? Json.readText? (.list items)).map leaves
  | .object members => (readChildren? members).map fun children => branches (Dict.ofList children)
  | _ => none

def readChildren? : List (String × Json) → Option (List (String × PrefetchTree))
  | [] => some []
  | (name, value) :: rest => do return (name, ← read? value) :: (← readChildren? rest)

end

mutual

/-- At each level the branches are in ascending order of names, each once. -/
def IsSorted : PrefetchTree → Prop
  | leaf _ | leaves _ => True
  | branches children => Entries.Sorted children ∧ ChildrenSorted children

def ChildrenSorted : List (String × PrefetchTree) → Prop
  | [] => True
  | (_, tree) :: rest => IsSorted tree ∧ ChildrenSorted rest

end

theorem childrenSorted_iff {children : List (String × PrefetchTree)} : ChildrenSorted children ↔ ∀ e ∈ children, e.2.IsSorted := by
  induction children with
  | nil => simp [ChildrenSorted]
  | cons e children ih => simp [ChildrenSorted, ih]

mutual

/-- The branches of a tree that is read are brought into order. -/
theorem isSorted_of_read? : (value : Json) → {t : PrefetchTree} → read? value = some t → t.IsSorted
  | .text _, _, h => by
    cases h
    trivial
  | .list _, _, h => by
    obtain ⟨_, -, rfl⟩ := Option.map_eq_some_iff.1 h
    trivial
  | .object members, _, h => by
    obtain ⟨children, hchildren, rfl⟩ := Option.map_eq_some_iff.1 h
    refine ⟨(Dict.of children).sorted, childrenSorted_iff.2 fun e he => ?_⟩
    have hmem : e ∈ children := (Entries.mem_of_mem_extend he).resolve_right List.not_mem_nil
    exact childrenSorted_iff.1 (childrenSorted_of_readChildren? members hchildren) e hmem

theorem childrenSorted_of_readChildren? : (members : List (String × Json)) → {children : List (String × PrefetchTree)} →
    readChildren? members = some children → ChildrenSorted children
  | [], _, h => by
    cases h
    trivial
  | (name, value) :: rest, _, h => by
    obtain ⟨tree, htree, h⟩ := Option.bind_eq_some_iff.1 h
    obtain ⟨children, hchildren, h⟩ := Option.bind_eq_some_iff.1 h
    cases h
    exact ⟨isSorted_of_read? value htree, childrenSorted_of_readChildren? rest hchildren⟩

end

/-- A tree, with its branches in order. -/
def readSorted? (value : Json) : Option { t : PrefetchTree // t.IsSorted } :=
  (read? value).attachWith IsSorted fun _ h => isSorted_of_read? value h

/-! ### Paths -/

/-- Whether a leaf names something to load with the rows of a model. -/
def isLoaded (m : Model) (name : String) : Bool :=
  match m.field? name with
  | some (.links _) => false
  | some _ => true
  | none => m.properties.contains name

/-- The path of a leaf behind what leads to it, if there is something to load. -/
def leafPath? (m : Model) (lead name : String) : Option String :=
  if isLoaded m name then some (lead ++ name) else none

/-- The model that a branch leads to; none where it is not followed. -/
def branchTarget (m : Model) (name : String) : Outcome (Option String) :=
  match m.field? name with
  | none => .error (.prefetchWithoutField m.name name)
  | some (.links _) => .ok none
  | some f =>
    match f.related? with
    | some target => .ok (some target)
    | none => .error (.prefetchThroughPlainField m.name name)

mutual

/-- The paths of a tree for the rows of a model, behind what leads to it. -/
def pathsFrom (r : Registry) (m : Model) (lead : String) : PrefetchTree → Outcome (List String)
  | leaf name => .ok (leafPath? m lead name).toList
  | leaves names => .ok (names.filterMap (leafPath? m lead))
  | branches children => childPathsFrom r m lead children

def childPathsFrom (r : Registry) (m : Model) (lead : String) : List (String × PrefetchTree) → Outcome (List String)
  | [] => .ok []
  | (name, tree) :: rest => do
    match ← branchTarget m name with
    | none => childPathsFrom r m lead rest
    | some target =>
      let paths ← pathsFrom r (← r.model target) (lead ++ name ++ LookupKey.separator) tree
      return paths ++ (← childPathsFrom r m lead rest)

end

/-- The paths of a tree for the rows of a model; none when there is nothing to load. -/
def flatten (r : Registry) (model : String) (tree : PrefetchTree) : Outcome (Option (List String)) := do
  let paths ← pathsFrom r (← r.model model) "" tree
  return if paths.isEmpty then none else some paths

/-- The paths of several trees, each path once. -/
def merge (r : Registry) (model : String) (trees : List PrefetchTree) : Outcome (List String) := do
  let found ← trees.mapM (flatten r model)
  return (found.flatMap fun paths => paths.getD []).eraseDups

end PrefetchTree

end ModelCatalog
