import Mathlib.Data.List.Pairwise
import ModelCatalog.Client.Unit
import ModelCatalog.Proofs.Schema.Built

/-!
# Names that a module exports

A generated module exports six names for each model of its pool: the name of the model, and that name with each of five suffixes. No
suffix ends in another, so two names are the same only when a model is called as another with a suffix. Building a registry compares the
names of models with each other, but not with the names generated for them (`exportedNames_nodup_iff`).
-/

namespace ModelCatalog.Client

namespace Names

/-- All names generated for a model. -/
def all (n : Names) : List String := [n.model, n.fields, n.lookups, n.querySet, n.prefetchKey, n.fieldsSchema]

/-- What is put behind the name of a model. -/
def suffixes : List String := ["Fields", "QuerySetLookups", "QuerySet", "PrefetchKey", "FieldsSchema"]

theorem all_ofModel (model : String) : (ofModel model).all = model :: suffixes.map (model ++ ·) := rfl

theorem mem_all_ofModel {model name : String} :
    name ∈ (ofModel model).all ↔ name = model ∨ ∃ suffix ∈ suffixes, name = model ++ suffix := by
  rw [all_ofModel, List.mem_cons, List.mem_map]
  exact or_congr Iff.rfl (exists_congr fun suffix => and_congr Iff.rfl eq_comm)

theorem suffixes_nodup : suffixes.Nodup := by decide

/-- No suffix ends in another. -/
theorem eq_of_suffix_of_suffix :
    ∀ suffix ∈ suffixes, ∀ suffix' ∈ suffixes, suffix.toList <:+ suffix'.toList → suffix = suffix' := by
  decide

/-- A name with a suffix is not that name. -/
theorem append_suffix_ne {suffix : String} (h : suffix ∈ suffixes) (model : String) : model ++ suffix ≠ model := by
  intro heq
  have hnonempty : "" ∉ suffixes := by decide
  rw [String.append_eq_left_iff] at heq
  exact hnonempty (heq ▸ h)

/-- A generated name tells the model and the suffix. -/
theorem append_suffix_inj {model model' suffix suffix' : String} (h : suffix ∈ suffixes) (h' : suffix' ∈ suffixes)
    (heq : model ++ suffix = model' ++ suffix') : model = model' ∧ suffix = suffix' := by
  have hchars := congrArg String.toList heq
  rw [String.toList_append, String.toList_append] at hchars
  have hends : suffix.toList <:+ model'.toList ++ suffix'.toList := hchars ▸ List.suffix_append _ _
  obtain rfl : suffix = suffix' := by
    rcases List.suffix_or_suffix_of_suffix hends (List.suffix_append _ _) with hend | hend
    · exact eq_of_suffix_of_suffix suffix h suffix' h' hend
    · exact (eq_of_suffix_of_suffix suffix' h' suffix h hend).symm
  exact ⟨(String.append_left_inj suffix).1 heq, rfl⟩

theorem all_ofModel_nodup (model : String) : (ofModel model).all.Nodup := by
  rw [all_ofModel, List.nodup_cons]
  constructor
  · intro hmem
    obtain ⟨suffix, hsuffix, heq⟩ := List.mem_map.1 hmem
    exact append_suffix_ne hsuffix model heq
  · exact suffixes_nodup.map fun suffix suffix' heq => (String.append_right_inj model).1 heq

/-- The names generated for two models are apart when neither model is called as the other with a suffix. -/
theorem all_ofModel_disjoint {model model' : String} (hne : model ≠ model') (h : ∀ suffix ∈ suffixes, model' ≠ model ++ suffix)
    (h' : ∀ suffix ∈ suffixes, model ≠ model' ++ suffix) : List.Disjoint (ofModel model).all (ofModel model').all := by
  intro name hname hname'
  rcases mem_all_ofModel.1 hname with rfl | ⟨suffix, hsuffix, rfl⟩
  · rcases mem_all_ofModel.1 hname' with heq | ⟨suffix', hsuffix', heq⟩
    · exact hne heq
    · exact h' suffix' hsuffix' heq
  · rcases mem_all_ofModel.1 hname' with heq | ⟨suffix', hsuffix', heq⟩
    · exact h suffix hsuffix heq.symm
    · exact hne (append_suffix_inj hsuffix hsuffix' heq).1

end Names

/-- The names that the module of a pool exports, model after model. -/
def exportedNames (r : Registry) (members : Registry.Members) : List String :=
  (r.pool members).flatMap fun m => (Names.ofModel m.name).all

/-- A module exports every name once unless a model of its pool is called as another with a suffix. -/
theorem exportedNames_nodup_iff {r : Registry} (hr : r.IsBuilt) (members : Registry.Members) :
    (exportedNames r members).Nodup ↔
      ∀ m ∈ r.pool members, ∀ n ∈ r.pool members, ∀ suffix ∈ Names.suffixes, n.name ≠ m.name ++ suffix := by
  have hnames : (r.pool members).Pairwise fun m n => m.name ≠ n.name :=
    (List.pairwise_map.1 hr.fit.names_nodup).filter _
  rw [exportedNames, List.nodup_flatMap]
  constructor
  · rintro ⟨-, hapart⟩ m hm n hn suffix hsuffix heq
    have hgenerated : n.name ∈ (Names.ofModel m.name).all := Names.mem_all_ofModel.2 (Or.inr ⟨suffix, hsuffix, heq⟩)
    have hne : m ≠ n := by
      rintro rfl
      exact Names.append_suffix_ne hsuffix m.name heq.symm
    have hsymm : Std.Symm (Function.onFun List.Disjoint fun m : Model => (Names.ofModel m.name).all) :=
      ⟨fun _ _ => List.disjoint_symm⟩
    exact hapart.forall hm hn hne hgenerated (Names.mem_all_ofModel.2 (Or.inl rfl))
  · intro h
    refine ⟨fun m _ => Names.all_ofModel_nodup m.name, hnames.imp_of_mem fun {m n} hm hn hne => ?_⟩
    exact Names.all_ofModel_disjoint hne (h m hm n hn) (h n hn m hm)

/-- A model called `ThingFields` has the name of the interface of the fields of things. -/
theorem thingFields_exported_twice :
    ∃ r, Registry.build [{ name := "Thing" }, { name := "ThingFields" }] = .ok r ∧
      ¬(exportedNames r ["Thing", "ThingFields"]).Nodup ∧ (exportedNames r ["Thing"]).Nodup := by
  have hbuild : Registry.build [{ name := "Thing" }, { name := "ThingFields" }] =
      .ok { models := [{ name := "Thing", fields := [Model.implicitKey] }, { name := "ThingFields", fields := [Model.implicitKey] }] } :=
    rfl
  have hr : Registry.IsBuilt _ := ⟨_, [], [], hbuild⟩
  refine ⟨_, hbuild, fun hnodup => ?_, ?_⟩
  · exact (exportedNames_nodup_iff hr _).1 hnodup _ List.mem_cons_self _ (List.mem_cons_of_mem _ List.mem_cons_self) "Fields"
      List.mem_cons_self rfl
  · exact (exportedNames_nodup_iff hr _).2 (by decide)

end ModelCatalog.Client
