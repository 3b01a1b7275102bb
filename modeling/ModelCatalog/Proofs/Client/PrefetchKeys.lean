import ModelCatalog.Proofs.Client.Literal
import ModelCatalog.Proofs.Client.Units
import ModelCatalog.Proofs.Schema.ClientNames
import ModelCatalog.Request.Prefetch

/-!
# Generated prefetch keys

The prefetch keys of a unit are a union of types: a property alone, a relation alone, or a relation with a prefetch key of the related
model. `Admits` says which trees the unions of a pool admit, to any depth. Each of them is flattened to one path, the names along the tree
(`admitted_prefetches_served`): the text of a key tells what it is about, and that is a property or relation of the model reached.
-/

namespace ModelCatalog

namespace PrefetchTree

mutual

/-- The names from the root of a tree to its first leaf. -/
def firstPath : PrefetchTree → List String
  | leaf name => [name]
  | leaves names => names.head?.toList
  | branches children => firstChildPath children

def firstChildPath : List (String × PrefetchTree) → List String
  | [] => []
  | (name, tree) :: _ => name :: firstPath tree

end

end PrefetchTree

namespace Client

/-- The prefetch keys generated for a model of a pool admit a tree. -/
inductive Admits (r : Registry) (members : Registry.Members) (table : TypeTable) : Model → PrefetchTree → Prop where
  | property {m : Model} {u : ModelUnit} {name : String} (hm : m ∈ r.pool members) (hu : modelUnit r members table m = .ok u)
      (hkey : quote name ∈ u.prefetchKeys) : Admits r members table m (.leaf name)
  | relation {m : Model} {u : ModelUnit} {name : String} {related : Names} (hm : m ∈ r.pool members)
      (hu : modelUnit r members table m = .ok u) (hkey : relationPrefetchKey name related ∈ u.prefetchKeys) :
      Admits r members table m (.leaf name)
  | branch {m m' : Model} {u : ModelUnit} {name : String} {tree : PrefetchTree} (hm : m ∈ r.pool members)
      (hu : modelUnit r members table m = .ok u) (hkey : relationPrefetchKey name (Names.ofModel m'.name) ∈ u.prefetchKeys)
      (hrest : Admits r members table m' tree) : Admits r members table m (.branches [(name, tree)])

/-! ## Texts of keys -/

section

variable {name name' : String} {related related' : Names}

theorem relationPrefetchKey_eq (name : String) (related : Names) :
    relationPrefetchKey name related = quote name ++ (" | \x7b" ++ propertyKey name ++ ": " ++ related.prefetchKey ++ "\x7d") := by
  simp only [relationPrefetchKey, String.append_assoc]

/-- The key of a relation tells the relation and the type of the related keys. -/
theorem relationPrefetchKey_inj (h : relationPrefetchKey name related = relationPrefetchKey name' related') :
    name = name' ∧ related.prefetchKey = related'.prefetchKey := by
  rw [relationPrefetchKey_eq, relationPrefetchKey_eq] at h
  obtain ⟨rfl, hrest⟩ := quote_append_inj h
  rw [String.append_left_inj, String.append_right_inj] at hrest
  exact ⟨rfl, hrest⟩

/-- The key of a property is not that of a relation. -/
theorem quote_ne_relationPrefetchKey : quote name ≠ relationPrefetchKey name' related := by
  intro h
  have happend : quote name ++ "" = relationPrefetchKey name' related := by rw [String.append_empty, h]
  rw [relationPrefetchKey_eq] at happend
  have hlength := congrArg String.length (quote_append_inj happend).2
  have hopening : " | \x7b".length = 4 := rfl
  have hempty : "".length = 0 := rfl
  simp only [String.length_append] at hlength
  omega

/-- The type of the prefetch keys of a model tells the model. -/
theorem Names.ofModel_prefetchKey_inj {model model' : String}
    (h : (Names.ofModel model).prefetchKey = (Names.ofModel model').prefetchKey) : model = model' :=
  (String.append_left_inj "PrefetchKey").1 h

end

/-! ## Keys of a unit -/

section

variable {r : Registry} {members : Registry.Members} {table : TypeTable} {ends : Field → Names → Prop} {m : Model} {u : ModelUnit}

theorem Mentions.mem_properties (h : Mentions r members table ends m u) {name : String} (hkey : quote name ∈ u.prefetchKeys) :
    name ∈ m.properties := by
  rcases (h.prefetchKeys _).1 hkey with ⟨f, -, -, n, -, heq⟩ | ⟨name', hname', heq⟩
  · exact absurd heq quote_ne_relationPrefetchKey
  · rw [quote_injective heq]
    exact hname'

theorem Mentions.exists_relation (h : Mentions r members table ends m u) {name : String} {related : Names}
    (hkey : relationPrefetchKey name related ∈ u.prefetchKeys) :
    ∃ f ∈ m.fields, f.name = name ∧ ∃ n, ends f n ∧ n.prefetchKey = related.prefetchKey := by
  rcases (h.prefetchKeys _).1 hkey with ⟨f, hf, -, n, hn, heq⟩ | ⟨name', -, heq⟩
  · obtain ⟨rfl, hrelated⟩ := relationPrefetchKey_inj heq
    exact ⟨f, hf, rfl, n, hn, hrelated.symm⟩
  · exact absurd heq.symm quote_ne_relationPrefetchKey

end

/-! ## Paths of admitted trees -/

section

variable {r : Registry} {members : Registry.Members} {table : TypeTable} {m : Model}

theorem isLoaded_of_property (hr : r.IsBuilt) (hm : m ∈ r.models) {name : String} (hname : name ∈ m.properties) :
    PrefetchTree.isLoaded m name = true := by
  unfold PrefetchTree.isLoaded
  rcases hr.field?_of_property hm hname with hfield | hfield
  · rw [hfield]
    simpa using hname
  · rw [hfield]
    rfl

theorem isLoaded_of_relation (hm : m.IsSound) {f : Field} (hf : f ∈ m.fields) {target : String}
    (htarget : f.clientTarget? = some target) : PrefetchTree.isLoaded m f.name = true := by
  rw [PrefetchTree.isLoaded, hm.field?_of_mem hf]
  cases f with
  | plain c => cases htarget
  | reference ref => rfl
  | inverse i => rfl
  | links l => cases htarget

theorem branchTarget_of_relation (hm : m.IsSound) {f : Field} (hf : f ∈ m.fields) {target : String}
    (htarget : f.clientTarget? = some target) : PrefetchTree.branchTarget m f.name = .ok (some target) := by
  rw [PrefetchTree.branchTarget, hm.field?_of_mem hf]
  cases f with
  | plain c => cases htarget
  | reference ref =>
    cases htarget
    rfl
  | inverse i =>
    cases htarget
    rfl
  | links l => cases htarget

theorem Admits.mem_pool {tree : PrefetchTree} (h : Admits r members table m tree) : m ∈ r.pool members := by
  cases h with
  | property hm => exact hm
  | relation hm => exact hm
  | branch hm => exact hm

theorem Admits.firstPath_ne_nil {tree : PrefetchTree} (h : Admits r members table m tree) : tree.firstPath ≠ [] := by
  cases h <;> simp [PrefetchTree.firstPath, PrefetchTree.firstChildPath]

/-- A leaf that is loaded is a path of its own. -/
theorem pathsFrom_leaf {name : String} (h : PrefetchTree.isLoaded m name = true) (lead : String) :
    PrefetchTree.pathsFrom r m lead (.leaf name) = .ok [lead ++ name] := by
  rw [PrefetchTree.pathsFrom, PrefetchTree.leafPath?, if_pos h]
  rfl

/-- A branch that is followed has the paths of the tree below it, for the model that it leads to. -/
theorem pathsFrom_branch {m' : Model} {name : String} {tree : PrefetchTree} {paths : List String} {lead : String}
    (hbranch : PrefetchTree.branchTarget m name = .ok (some m'.name)) (hmodel : r.model m'.name = .ok m')
    (hpaths : PrefetchTree.pathsFrom r m' (lead ++ name ++ LookupKey.separator) tree = .ok paths) :
    PrefetchTree.pathsFrom r m lead (.branches [(name, tree)]) = .ok paths := by
  simp only [PrefetchTree.pathsFrom, PrefetchTree.childPathsFrom, hbranch, hmodel, hpaths, bind, Except.bind, pure, Except.pure,
    List.append_nil]

/-- Behind any lead the one path of an admitted tree is that of the names along it. -/
theorem pathsFrom_of_admits (hr : r.IsBuilt) {tree : PrefetchTree} (h : Admits r members table m tree) (lead : String) :
    PrefetchTree.pathsFrom r m lead tree = .ok [lead ++ LookupKey.join tree.firstPath] := by
  -- along the way the lead grows by the relations that are followed, so it is any text
  induction h generalizing lead with
  | @property m u name hm hu hkey =>
    have hname := (mentions_of_modelUnit hr hm hu).mem_properties hkey
    rw [pathsFrom_leaf (isLoaded_of_property hr (List.mem_of_mem_filter hm) hname), PrefetchTree.firstPath, LookupKey.join,
      String.intercalate_singleton]
  | @relation m u name related hm hu hkey =>
    obtain ⟨f, hf, rfl, n, ⟨target, htarget, -, -⟩, -⟩ := (mentions_of_modelUnit hr hm hu).exists_relation hkey
    have hsound := hr.sound_of_mem_pool hm
    rw [pathsFrom_leaf (isLoaded_of_relation hsound hf htarget), PrefetchTree.firstPath, LookupKey.join, String.intercalate_singleton]
  | @branch m m' u name tree hm hu hkey hrest ih =>
    obtain ⟨f, hf, rfl, n, ⟨target, htarget, hpooled, rfl⟩, hrelated⟩ := (mentions_of_modelUnit hr hm hu).exists_relation hkey
    obtain rfl := Names.ofModel_prefetchKey_inj hrelated
    have hsound := hr.sound_of_mem_pool hm
    have hmodel := hr.model_of_mem_pool hrest.mem_pool
    rw [pathsFrom_branch (branchTarget_of_relation hsound hf htarget) hmodel (ih _), PrefetchTree.firstPath,
      PrefetchTree.firstChildPath, LookupKey.join, LookupKey.join, String.intercalate_cons_of_ne_nil hrest.firstPath_ne_nil]
    simp only [String.append_assoc]

/-- Every tree that the generated prefetch keys admit is flattened to one path, which joins the names along the tree. -/
theorem admitted_prefetches_served (hr : r.IsBuilt) {tree : PrefetchTree} (h : Admits r members table m tree) :
    PrefetchTree.flatten r m.name tree = .ok (some [LookupKey.join tree.firstPath]) := by
  have hmodel := hr.model_of_mem_pool h.mem_pool
  have hpaths := pathsFrom_of_admits hr h ""
  rw [String.empty_append] at hpaths
  rw [PrefetchTree.flatten, hmodel]
  change (PrefetchTree.pathsFrom r m "" tree >>= _) = _
  rw [hpaths]
  rfl

end

def personModel : Model where
  name := "Person"
  fields := [Model.implicitKey, .reference { name := "parent", target := "Person", null := true },
    .inverse { name := "person_set", source := "Person", field := "parent", oneToOne := false }]
  properties := ["label"]

/-- The label of a grandparent is admitted, though the keys of persons are made of themselves, and served. -/
theorem label_of_grandparent_served :
    let tree : PrefetchTree := .branches [("parent", .branches [("parent", .leaf "label")])]
    Admits { models := [personModel] } ["Person"] [] personModel tree ∧
      PrefetchTree.flatten { models := [personModel] } "Person" tree = .ok (some ["parent__parent__label"]) := by
  intro tree
  have hr : Registry.IsBuilt { models := [personModel] } :=
    ⟨[{ personModel with fields := [.reference { name := "parent", target := "Person", null := true }] }], [], [], rfl⟩
  obtain ⟨u, hu, hlabel, hparent⟩ : ∃ u, modelUnit { models := [personModel] } ["Person"] [] personModel = .ok u ∧
      quote "label" ∈ u.prefetchKeys ∧ relationPrefetchKey "parent" (Names.ofModel personModel.name) ∈ u.prefetchKeys :=
    ⟨_, rfl, by decide, by decide⟩
  have hm : personModel ∈ Registry.pool { models := [personModel] } ["Person"] := List.mem_cons_self
  have hleaf := Admits.property hm hu hlabel
  have htree := Admits.branch hm hu hparent (Admits.branch hm hu hparent hleaf)
  have hpath : LookupKey.join tree.firstPath = "parent__parent__label" := by decide
  rw [← hpath]
  exact ⟨htree, admitted_prefetches_served hr htree⟩

end Client

end ModelCatalog
