import ModelCatalog.Proofs.Client.PrefetchKeys
import ModelCatalog.Proofs.Query.Keys

/-!
# Paths of prefetch trees

A leaf or key of a tree has a place: the names of the keys above it, and its own. The keys above lead from model to model by references and
inverse relations (`Reaches`); links and keys that lead nowhere end the way. Flattening a tree fails at the first key reached that is no
relation, and otherwise gives the places of the leaves that are loaded, depth first (`pathsFrom_eq`, `prefetch_paths`).
-/

namespace ModelCatalog

namespace PrefetchTree

/-! ## Places -/

/-- Where a leaf or key of a tree stands: below keys of some names, under its own. -/
structure Place where
  above : List String
  name : String
  deriving DecidableEq, Repr

/-- A place in the tree below a key. -/
def Place.under (name : String) (place : Place) : Place := ⟨name :: place.above, place.name⟩

/-- The names from the root of the tree on. -/
def Place.path (place : Place) : List String := place.above ++ [place.name]

mutual

/-- The places of all leaves, depth first. -/
def leafPlaces : PrefetchTree → List Place
  | leaf name => [⟨[], name⟩]
  | leaves names => names.map fun name => ⟨[], name⟩
  | branches children => childLeafPlaces children

def childLeafPlaces : List (String × PrefetchTree) → List Place
  | [] => []
  | (name, tree) :: rest => (leafPlaces tree).map (Place.under name) ++ childLeafPlaces rest

end

mutual

/-- The places of all keys, each before those below it. -/
def keyPlaces : PrefetchTree → List Place
  | leaf _ => []
  | leaves _ => []
  | branches children => childKeyPlaces children

def childKeyPlaces : List (String × PrefetchTree) → List Place
  | [] => []
  | (name, tree) :: rest => ⟨[], name⟩ :: ((keyPlaces tree).map (Place.under name) ++ childKeyPlaces rest)

end

/-! ## What stands at a place -/

/-- References and inverse relations of some names lead from a model to another, each found in the model reached so far. -/
inductive Reaches (r : Registry) : Model → List String → Model → Prop where
  | here (m : Model) : Reaches r m [] m
  | next {m m' n : Model} {name : String} {names : List String} {f : Field} (hfield : m.field? name = some f)
      (htarget : f.clientTarget? = some m'.name) (hmodel : r.model? m'.name = some m') (hrest : Reaches r m' names n) :
      Reaches r m (name :: names) n

/-- The model to which a reference or an inverse relation of a name leads. -/
def next? (r : Registry) (m : Model) (name : String) : Option Model := ((m.field? name).bind Field.clientTarget?).bind r.model?

/-- The model reached by some names. -/
def reached? (r : Registry) : Model → List String → Option Model
  | m, [] => some m
  | m, name :: names => (next? r m name).bind fun m' => reached? r m' names

/-- A name that no key for the rows of a model may have: no field has it, or a plain field has. -/
def IsUnusableKey (m : Model) (name : String) : Prop := m.field? name = none ∨ ∃ c, m.field? name = some (.plain c)

/-- What is wrong with a key for the rows of a model, if it is unusable. -/
def keyFault? (m : Model) (name : String) : Option Failure :=
  match m.field? name with
  | none => some (.prefetchWithoutField m.name name)
  | some (.plain _) => some (.prefetchThroughPlainField m.name name)
  | some _ => none

/-- The fault of a key, if it is reached and has one. -/
def faultAt? (r : Registry) (m : Model) (place : Place) : Option Failure := (reached? r m place.above).bind (keyFault? · place.name)

/-- Whether a leaf is reached and names something to load there. -/
def isLoadedAt (r : Registry) (m : Model) (place : Place) : Bool := (reached? r m place.above).any (isLoaded · place.name)

variable {r : Registry} {m : Model}

theorem next?_eq_some_iff {name : String} {m' : Model} :
    next? r m name = some m' ↔ ∃ f, m.field? name = some f ∧ f.clientTarget? = some m'.name ∧ r.model? m'.name = some m' := by
  simp only [next?, Option.bind_eq_some_iff]
  constructor
  · rintro ⟨target, ⟨f, hf, htarget⟩, hm'⟩
    obtain rfl := Registry.name_of_model? hm'
    exact ⟨f, hf, htarget, hm'⟩
  · rintro ⟨f, hf, htarget, hm'⟩
    exact ⟨m'.name, ⟨f, hf, htarget⟩, hm'⟩

theorem reached?_eq_some_iff {names : List String} {n : Model} : reached? r m names = some n ↔ Reaches r m names n := by
  induction names generalizing m with
  | nil =>
    constructor
    · intro h
      obtain rfl := Option.some.inj h
      exact .here m
    · rintro ⟨⟩
      rfl
  | cons name names ih =>
    rw [reached?, Option.bind_eq_some_iff]
    constructor
    · rintro ⟨m', hm', hrest⟩
      obtain ⟨f, hfield, htarget, hmodel⟩ := next?_eq_some_iff.1 hm'
      exact .next hfield htarget hmodel (ih.1 hrest)
    · intro h
      cases h with
      | @next _ m' _ _ _ f hfield htarget hmodel hrest => exact ⟨m', next?_eq_some_iff.2 ⟨f, hfield, htarget, hmodel⟩, ih.2 hrest⟩

/-- The way to a model goes through those before it. -/
theorem Reaches.of_append {n : Model} {before after : List String} (h : Reaches r m (before ++ after) n) :
    ∃ m', Reaches r m before m' ∧ Reaches r m' after n := by
  induction before generalizing m with
  | nil => exact ⟨m, .here m, h⟩
  | cons name before ih =>
    cases h with
    | next hfield htarget hmodel hrest =>
      obtain ⟨m', hbefore, hafter⟩ := ih hrest
      exact ⟨m', .next hfield htarget hmodel hbefore, hafter⟩

/-- Models reached from one of a built registry are of the registry. -/
theorem Reaches.mem (hm : m ∈ r.models) {names : List String} {n : Model} (h : Reaches r m names n) : n ∈ r.models := by
  induction h with
  | here => exact hm
  | next _ _ hmodel _ ih => exact ih (Registry.mem_of_model? hmodel)

/-- What stands below a key stands there for the model that the key leads to. -/
theorem faultAt?_under (name : String) (place : Place) :
    faultAt? r m (place.under name) = (next? r m name).bind fun m' => faultAt? r m' place := by
  rw [faultAt?, Place.under, reached?, Option.bind_assoc]
  rfl

theorem isLoadedAt_under (name : String) (place : Place) :
    isLoadedAt r m (place.under name) = (next? r m name).any fun m' => isLoadedAt r m' place := by
  rw [isLoadedAt, Place.under, reached?]
  cases next? r m name <;> rfl

/-! ## Keys -/

/-- A key is followed to where its relation leads, unless it has a fault. -/
theorem branchTarget_eq (m : Model) (name : String) :
    branchTarget m name = match keyFault? m name with
      | some e => .error e
      | none => .ok ((m.field? name).bind Field.clientTarget?) := by
  unfold branchTarget keyFault?
  cases m.field? name with
  | none => rfl
  | some f => cases f <;> rfl

/-- The text of a place below a key. -/
theorem join_under (name : String) (place : Place) :
    LookupKey.join (place.under name).path = name ++ LookupKey.separator ++ LookupKey.join place.path := by
  have hne : place.path ≠ [] := by simp [Place.path]
  have hnames : (place.under name).path = name :: place.path := rfl
  rw [hnames, LookupKey.join, LookupKey.join, String.intercalate_cons_of_ne_nil hne]

/-! ## Flattening -/

/-- The outcome of flattening: the first fault of a key, or else the texts of the leaves that are loaded. -/
def outcomeAt (r : Registry) (m : Model) (lead : String) (keys leaves : List Place) : Outcome (List String) :=
  match keys.findSome? (faultAt? r m) with
  | some e => .error e
  | none => .ok ((leaves.filter (isLoadedAt r m)).map fun place => lead ++ LookupKey.join place.path)

/-- A key without a fault is passed by. -/
theorem outcomeAt_cons {place : Place} (h : faultAt? r m place = none) (lead : String) (keys leaves : List Place) :
    outcomeAt r m lead (place :: keys) leaves = outcomeAt r m lead keys leaves := by
  rw [outcomeAt, outcomeAt, List.findSome?_cons, h]

/-- Below a key without a fault that is not followed nothing is reached. -/
theorem outcomeAt_skipped {name : String} (hnext : next? r m name = none) (lead : String) (keys leaves keys' leaves' : List Place) :
    outcomeAt r m lead (keys.map (Place.under name) ++ keys') (leaves.map (Place.under name) ++ leaves') =
      outcomeAt r m lead keys' leaves' := by
  have hkeys : (keys.map (Place.under name)).findSome? (faultAt? r m) = none := by
    rw [List.findSome?_eq_none_iff]
    intro place hplace
    obtain ⟨place, -, rfl⟩ := List.mem_map.1 hplace
    rw [faultAt?_under, hnext, Option.bind_none]
  have hleaves : (leaves.map (Place.under name)).filter (isLoadedAt r m) = [] := by
    rw [List.filter_eq_nil_iff]
    intro place hplace
    obtain ⟨place, -, rfl⟩ := List.mem_map.1 hplace
    rw [isLoadedAt_under, hnext]
    exact Bool.false_ne_true
  rw [outcomeAt, outcomeAt, List.findSome?_append, hkeys, Option.none_or, List.filter_append, hleaves, List.nil_append]

/-- Below a key that is followed the tree is flattened for the model it leads to, before the rest. -/
theorem outcomeAt_followed {name : String} {m' : Model} (hnext : next? r m name = some m') (lead : String)
    (keys leaves keys' leaves' : List Place) :
    outcomeAt r m lead (keys.map (Place.under name) ++ keys') (leaves.map (Place.under name) ++ leaves') =
      outcomeAt r m' (lead ++ name ++ LookupKey.separator) keys leaves >>= fun paths =>
        outcomeAt r m lead keys' leaves' >>= fun rest => .ok (paths ++ rest) := by
  have hkeys : (keys.map (Place.under name)).findSome? (faultAt? r m) = keys.findSome? (faultAt? r m') := by
    rw [List.findSome?_map]
    congr 1
    funext place
    rw [Function.comp_apply, faultAt?_under, hnext, Option.bind_some]
  have hleaves : (leaves.map (Place.under name)).filter (isLoadedAt r m) = (leaves.filter (isLoadedAt r m')).map (Place.under name) := by
    rw [List.filter_map]
    congr 2
    funext place
    rw [Function.comp_apply, isLoadedAt_under, hnext, Option.any_some]
  have htexts : (fun place => lead ++ LookupKey.join place.path) ∘ Place.under name =
      fun place => lead ++ name ++ LookupKey.separator ++ LookupKey.join place.path := by
    funext place
    rw [Function.comp_apply, join_under]
    simp only [String.append_assoc]
  unfold outcomeAt
  rw [List.findSome?_append, hkeys, List.filter_append, hleaves, List.map_append, List.map_map, htexts]
  cases keys.findSome? (faultAt? r m') with
  | some e => rfl
  | none => cases keys'.findSome? (faultAt? r m) <;> rfl

mutual

/-- Flattening a tree is finding the first fault of its keys, or else the leaves that are loaded. -/
theorem pathsFrom_eq (hr : r.IsBuilt) {m : Model} (hm : r.model? m.name = some m) (lead : String) :
    ∀ tree, pathsFrom r m lead tree = outcomeAt r m lead tree.keyPlaces tree.leafPlaces
  | leaf name => by
    have hplace : isLoadedAt r m ⟨[], name⟩ = isLoaded m name := rfl
    rw [pathsFrom, leafPath?, keyPlaces, leafPlaces, outcomeAt, List.findSome?_nil, List.filter_singleton, hplace]
    cases isLoaded m name <;> simp [Place.path, LookupKey.join]
  | leaves names => by
    have hplace : isLoadedAt r m ∘ (fun name => ⟨[], name⟩) = isLoaded m := rfl
    have htext : (fun place : Place => lead ++ LookupKey.join place.path) ∘ (fun name => ⟨[], name⟩) = (lead ++ ·) := by
      funext name
      simp [Place.path, LookupKey.join]
    rw [pathsFrom, keyPlaces, leafPlaces, outcomeAt, List.findSome?_nil, List.filter_map, hplace, List.map_map, htext,
      ← List.filterMap_eq_map, List.filterMap_filter]
    rfl
  | branches children => by
    rw [pathsFrom, keyPlaces, leafPlaces]
    exact childPathsFrom_eq hr hm lead children

theorem childPathsFrom_eq (hr : r.IsBuilt) {m : Model} (hm : r.model? m.name = some m) (lead : String) :
    ∀ children, childPathsFrom r m lead children = outcomeAt r m lead (childKeyPlaces children) (childLeafPlaces children)
  | [] => rfl
  | (name, tree) :: rest => by
    have hrest := childPathsFrom_eq hr hm lead rest
    have hplace : faultAt? r m ⟨[], name⟩ = keyFault? m name := rfl
    rw [childPathsFrom, branchTarget_eq, childKeyPlaces, childLeafPlaces]
    cases hfault : keyFault? m name with
    | some e =>
      rw [outcomeAt, List.findSome?_cons, hplace, hfault]
      rfl
    | none =>
      rw [outcomeAt_cons (hplace.trans hfault)]
      cases htarget : (m.field? name).bind Field.clientTarget? with
      | none =>
        have hnext : next? r m name = none := by rw [next?, htarget, Option.bind_none]
        rw [outcomeAt_skipped hnext]
        exact hrest
      | some target =>
        obtain ⟨f, hfield, hclient⟩ := Option.bind_eq_some_iff.1 htarget
        obtain ⟨m', hm'⟩ := hr.target hm (Model.mem_of_field? hfield).1 (Field.related?_of_clientTarget? hclient)
        obtain rfl := Registry.name_of_model? hm'
        have hnext : next? r m name = some m' := next?_eq_some_iff.2 ⟨f, hfield, hclient, hm'⟩
        rw [outcomeAt_followed hnext, ← pathsFrom_eq hr hm' _ tree, ← hrest]
        change (r.model m'.name >>= fun n => pathsFrom r n _ tree >>= _) = _
        rw [Registry.model_ok_iff.2 hm']
        rfl

end

/-! ## Faults and leaves in terms of fields -/

/-- An unusable key is the name of no field, or of a plain one; the failure tells which. -/
theorem keyFault?_eq_some_iff {name : String} {e : Failure} :
    keyFault? m name = some e ↔
      m.field? name = none ∧ e = .prefetchWithoutField m.name name ∨
        (∃ c, m.field? name = some (.plain c)) ∧ e = .prefetchThroughPlainField m.name name := by
  unfold keyFault?
  cases m.field? name with
  | none => simp [eq_comm]
  | some f => cases f <;> simp [eq_comm]

theorem isSome_keyFault?_iff {name : String} : (keyFault? m name).isSome = true ↔ IsUnusableKey m name := by
  unfold keyFault? IsUnusableKey
  cases m.field? name with
  | none => simp
  | some f => cases f <;> simp

theorem faultAt?_eq_some_iff {place : Place} {e : Failure} :
    faultAt? r m place = some e ↔ ∃ n, Reaches r m place.above n ∧ keyFault? n place.name = some e := by
  rw [faultAt?, Option.bind_eq_some_iff]
  simp only [reached?_eq_some_iff]

theorem isSome_faultAt?_iff {place : Place} :
    (faultAt? r m place).isSome = true ↔ ∃ n, Reaches r m place.above n ∧ IsUnusableKey n place.name := by
  simp only [Option.isSome_iff_exists, faultAt?_eq_some_iff, ← isSome_keyFault?_iff]
  constructor
  · rintro ⟨e, n, hreaches, he⟩
    exact ⟨n, hreaches, e, he⟩
  · rintro ⟨n, hreaches, e, he⟩
    exact ⟨e, n, hreaches, he⟩

/-- A leaf names something to load when it is the name of a field that is no list of links, or of a property. -/
theorem isLoaded_iff (hr : r.IsBuilt) (hm : m ∈ r.models) {name : String} :
    isLoaded m name = true ↔ (∃ f, m.field? name = some f ∧ f.isLinks = false) ∨ name ∈ m.properties := by
  constructor
  · intro h
    unfold isLoaded at h
    cases hfield : m.field? name with
    | none =>
      rw [hfield] at h
      exact Or.inr (List.contains_iff_mem.1 h)
    | some f =>
      refine Or.inl ⟨f, rfl, ?_⟩
      rw [hfield] at h
      cases f with
      | links l => cases h
      | _ => rfl
  · rintro (⟨f, hfield, hlinks⟩ | hproperty)
    · rw [isLoaded, hfield]
      cases f with
      | links l => cases hlinks
      | _ => rfl
    · exact Client.isLoaded_of_property hr hm hproperty

theorem isLoadedAt_iff (hr : r.IsBuilt) (hm : m ∈ r.models) {place : Place} :
    isLoadedAt r m place = true ↔
      ∃ n, Reaches r m place.above n ∧ ((∃ f, n.field? place.name = some f ∧ f.isLinks = false) ∨ place.name ∈ n.properties) := by
  rw [isLoadedAt, Option.any_eq_true]
  simp only [reached?_eq_some_iff]
  refine exists_congr fun n => and_congr_right fun hreaches => ?_
  exact isLoaded_iff hr (hreaches.mem hm)

/-- Each name on the way is that of a reference or an inverse relation of the model reached before it. -/
theorem Reaches.relation_at {names before after : List String} {name : String} {n : Model} (h : Reaches r m names n)
    (hsplit : names = before ++ name :: after) :
    ∃ m', Reaches r m before m' ∧ ((∃ ref, m'.field? name = some (.reference ref)) ∨ ∃ i, m'.field? name = some (.inverse i)) := by
  rw [hsplit] at h
  obtain ⟨m', hbefore, hrest⟩ := h.of_append
  refine ⟨m', hbefore, ?_⟩
  cases hrest with
  | @next _ _ _ _ _ f hfield htarget _ _ =>
    cases f with
    | plain c => cases htarget
    | reference ref => exact Or.inl ⟨ref, hfield⟩
    | inverse i => exact Or.inr ⟨i, hfield⟩
    | links l => cases htarget

/-! ## Trees for the rows of a model -/

/-- What flattening is for a registered model. -/
theorem flatten_eq (hr : r.IsBuilt) (hm : r.model? m.name = some m) (tree : PrefetchTree) :
    flatten r m.name tree = match tree.keyPlaces.findSome? (faultAt? r m) with
      | some e => .error e
      | none =>
        let loaded := tree.leafPlaces.filter (isLoadedAt r m)
        .ok (if loaded = [] then none else some (loaded.map fun place => LookupKey.join place.path)) := by
  have htext : (fun place : Place => "" ++ LookupKey.join place.path) = fun place => LookupKey.join place.path := by
    funext place
    rw [String.empty_append]
  rw [flatten, Registry.model_ok_iff.2 hm]
  change (pathsFrom r m "" tree >>= _) = _
  rw [pathsFrom_eq hr hm, outcomeAt, htext]
  cases tree.keyPlaces.findSome? (faultAt? r m) with
  | some e => rfl
  | none => cases tree.leafPlaces.filter (isLoadedAt r m) <;> rfl

/-- Flattening a tree for a model fails exactly when a key that is reached by references and inverse relations is unusable. The first such
key decides the failure: no field of the model reached has its name, or a plain field has. Otherwise the paths are those of all leaves that
are reached so and name a property or a field that is no list of links, depth first; there is no list when there is no such leaf. A path
joins the names from the root to its leaf. All of them but the last are names of references and inverse relations, each of the model reached
before it, and they are the segments of the path when they come apart as they are joined. -/
theorem prefetch_paths (hr : r.IsBuilt) (hm : r.model? m.name = some m) (tree : PrefetchTree) :
    ((∃ e, flatten r m.name tree = .error e) ↔
      ∃ place ∈ tree.keyPlaces, ∃ n, Reaches r m place.above n ∧ IsUnusableKey n place.name) ∧
    (∀ e, flatten r m.name tree = .error e → ∃ before place after n, tree.keyPlaces = before ++ place :: after ∧
      (∀ earlier ∈ before, ¬∃ n', Reaches r m earlier.above n' ∧ IsUnusableKey n' earlier.name) ∧ Reaches r m place.above n ∧
      (n.field? place.name = none ∧ e = .prefetchWithoutField n.name place.name ∧ e.kind = .unknownField ∨
        (∃ c, n.field? place.name = some (.plain c)) ∧ e = .prefetchThroughPlainField n.name place.name ∧ e.kind = .badRequest)) ∧
    (∀ found, flatten r m.name tree = .ok found →
      found = let loaded := tree.leafPlaces.filter (isLoadedAt r m)
        if loaded = [] then none else some (loaded.map fun place => LookupKey.join place.path)) ∧
    ∀ place, (isLoadedAt r m place = true ↔
        ∃ n, Reaches r m place.above n ∧ ((∃ f, n.field? place.name = some f ∧ f.isLinks = false) ∨ place.name ∈ n.properties)) ∧
      (isLoadedAt r m place = true → ∀ before name after, place.above = before ++ name :: after → ∃ n, Reaches r m before n ∧
        ((∃ ref, n.field? name = some (.reference ref)) ∨ ∃ i, n.field? name = some (.inverse i))) ∧
      (LookupKey.Separable place.path → LookupKey.segments (LookupKey.join place.path) = place.path) := by
  have hmem := Registry.mem_of_model? hm
  have hflatten := flatten_eq hr hm tree
  have herror : ∀ e, flatten r m.name tree = .error e ↔ tree.keyPlaces.findSome? (faultAt? r m) = some e := by
    intro e
    rw [hflatten]
    cases tree.keyPlaces.findSome? (faultAt? r m) <;> simp
  refine ⟨?_, ?_, ?_, ?_⟩
  · simp only [herror, ← Option.isSome_iff_exists, List.findSome?_isSome_iff, isSome_faultAt?_iff]
  · intro e he
    obtain ⟨before, place, after, hsplit, hfault, hbefore⟩ := List.findSome?_eq_some_iff.1 ((herror e).1 he)
    obtain ⟨n, hreaches, hkey⟩ := faultAt?_eq_some_iff.1 hfault
    refine ⟨before, place, after, n, hsplit, ?_, hreaches, ?_⟩
    · intro earlier hearlier hunusable
      rw [← isSome_faultAt?_iff, hbefore earlier hearlier] at hunusable
      cases hunusable
    · rcases keyFault?_eq_some_iff.1 hkey with ⟨hnone, rfl⟩ | ⟨hplain, rfl⟩
      · exact Or.inl ⟨hnone, rfl, rfl⟩
      · exact Or.inr ⟨hplain, rfl, rfl⟩
  · intro found hfound
    rw [hflatten] at hfound
    split at hfound
    · cases hfound
    · exact (Except.ok.inj hfound).symm
  · intro place
    refine ⟨isLoadedAt_iff hr hmem, ?_, ?_⟩
    · intro hloaded before name after hsplit
      obtain ⟨n, hreaches, -⟩ := (isLoadedAt_iff hr hmem).1 hloaded
      exact hreaches.relation_at hsplit
    · exact (LookupKey.segments_join_iff (by simp [Place.path])).2

/-- Works that are parts of others and cite others. -/
def workModel : Model where
  name := "Work"
  fields := [Model.implicitKey, .plain { name := "title", kind := .scalar .text },
    .reference { name := "whole", target := "Work", null := true }, .links { name := "cited", target := "Work" },
    .inverse { name := "work_set", source := "Work", field := "whole", oneToOne := false }]
  properties := ["label"]

/-- What is wanted with a work: something of the works that it cites, of its whole, and of its parts and their whole. -/
def workTree : PrefetchTree :=
  .branches [("cited", .branches [("title", .leaf "key")]), ("whole", .leaves ["label", "notes", "cited"]),
    ("work_set", .branches [("whole", .leaf "title")])]

/-- The label of the whole is found, and so is the title of the whole of the parts, while cited works are passed over with what is wanted of
them. To want something through a title is a failure. -/
theorem label_and_titles_prefetched :
    ∃ (r : Registry) (m : Model), r.IsBuilt ∧ r.model? m.name = some m ∧
      flatten r m.name workTree = .ok (some ["whole__label", "work_set__whole__title"]) ∧
      ∃ e, flatten r m.name (.branches [("whole", .branches [("title", .leaf "key")])]) = .error e := by
  have hr : Registry.IsBuilt { models := [workModel] } :=
    ⟨[{ workModel with fields := [.plain { name := "title", kind := .scalar .text },
      .reference { name := "whole", target := "Work", null := true }, .links { name := "cited", target := "Work" }] }], [], [], rfl⟩
  have hm : Registry.model? { models := [workModel] } workModel.name = some workModel := rfl
  obtain ⟨-, -, hfound, -⟩ := prefetch_paths hr hm workTree
  obtain ⟨hfails, -⟩ := prefetch_paths hr hm (.branches [("whole", .branches [("title", .leaf "key")])])
  obtain ⟨found, hflatten⟩ : ∃ found, flatten { models := [workModel] } workModel.name workTree = .ok found := ⟨_, rfl⟩
  refine ⟨_, workModel, hr, hm, ?_, ?_⟩
  · rw [hflatten, hfound found hflatten]
    rfl
  · have hwhole : Reaches { models := [workModel] } workModel ["whole"] workModel := .next rfl rfl rfl (.here _)
    exact hfails.2 ⟨⟨["whole"], "title"⟩, by decide, workModel, hwhole, Or.inr ⟨_, rfl⟩⟩

end PrefetchTree

end ModelCatalog
