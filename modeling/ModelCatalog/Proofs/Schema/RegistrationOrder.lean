import Mathlib.Data.List.Perm.Basic
import ModelCatalog.Proofs.Schema.ClientNames

/-!
# The order of registration

Building a registry goes over the models one after another and adds inverse relations one by one, each checked against those added before.
Still, whether it succeeds is a property of the models as a set: `AreCompatible` says it without any order, and `exists_build_iff` that it is
what the passes check. So permuted models are built alike (`build_of_permuted`), but for the order of the models and of the inverse relations
on each.
-/

namespace ModelCatalog

open Registry

namespace Model

/-- Inverse relations that a model can be given: their names are new to it, and different from each other. -/
structure Admits (m : Model) (inverses : List Inverse) : Prop where
  nodup : (inverses.map Inverse.name).Nodup
  apart : ∀ i ∈ inverses, i.name ∉ m.fieldNames ∧ i.name ∉ m.properties

/-- Two forms of a model that differ in the order of inverse relations alone. -/
structure SameUpToInverses (m m' : Model) : Prop where
  same : m' = { m with fields := m'.fields }
  /-- The fields declared are the same in order, and behind them are the same inverse relations in any order. -/
  fields : ∃ (own : List Field) (inverses inverses' : List Inverse),
    m.fields = own ++ inverses.map Field.inverse ∧ m'.fields = own ++ inverses'.map Field.inverse ∧ inverses.Perm inverses'
  key : m'.keyField? = m.keyField?

end Model

/-- Models that pass every check together, in whatever order they are registered. -/
structure AreCompatible (models : List Model) : Prop where
  names_nodup : (models.map Model.name).Nodup
  declared : ∀ m ∈ models, m.checkNames = .ok () ∧ ∃ keyed, m.withKey = .ok keyed
  targets : ∀ m ∈ models, ∀ f ∈ m.keyedFields, ∀ target, f.related? = some target → target ∈ models.map Model.name
  inverses : ∀ m ∈ models, m.withOwnKey.Admits (Model.inversesAmong models m.name)
  methods : ∀ m ∈ models, ∀ method ∈ m.methods, method.name ∉ (m.completedAmong models).fieldNames

/-! ## Adding inverse relations -/

namespace Model

theorem exists_withInverse_iff {m : Model} {i : Inverse} :
    (∃ m', m.withInverse i = .ok m') ↔ i.name ∉ m.fieldNames ∧ i.name ∉ m.properties := by
  constructor
  · rintro ⟨m', h⟩
    exact (withInverse_ok h).2
  · rintro ⟨hfields, hproperties⟩
    rw [← fieldAnsweringTo?_eq_none_iff] at hfields
    refine ⟨{ m with fields := m.fields ++ [.inverse i] }, ?_⟩
    rw [withInverse, hfields, if_neg (by simpa using hproperties)]

theorem withInverses_nil (m : Model) : m.withInverses [] = m := by
  rw [withInverses, List.map_nil, List.append_nil]

theorem admits_nil (m : Model) : m.Admits [] := ⟨List.nodup_nil, nofun⟩

/-- Inverse relations can be given one by one. -/
theorem admits_cons_iff {m : Model} {i : Inverse} {inverses : List Inverse} :
    m.Admits (i :: inverses) ↔ (i.name ∉ m.fieldNames ∧ i.name ∉ m.properties) ∧ (m.withInverses [i]).Admits inverses := by
  constructor
  · rintro ⟨hnodup, hapart⟩
    obtain ⟨hnew, hnodup⟩ := List.nodup_cons.1 hnodup
    obtain ⟨hi, hrest⟩ := List.forall_mem_cons.1 hapart
    refine ⟨hi, hnodup, fun j hj => ⟨?_, (hrest j hj).2⟩⟩
    rw [mem_fieldNames_withInverses, not_or]
    refine ⟨(hrest j hj).1, fun hname => ?_⟩
    rw [List.map_singleton, List.mem_singleton] at hname
    exact hnew (hname ▸ List.mem_map_of_mem hj)
  · rintro ⟨hi, hnodup, hapart⟩
    simp only [mem_fieldNames_withInverses, not_or, List.map_singleton, List.mem_singleton] at hapart
    refine ⟨List.nodup_cons.2 ⟨fun hname => ?_, hnodup⟩, List.forall_mem_cons.2 ⟨hi, fun j hj => ⟨(hapart j hj).1.1, (hapart j hj).2⟩⟩⟩
    obtain ⟨j, hj, heq⟩ := List.mem_map.1 hname
    exact (hapart j hj).1.2 heq

theorem Admits.perm {m : Model} {inverses inverses' : List Inverse} (h : m.Admits inverses) (hperm : inverses.Perm inverses') :
    m.Admits inverses' :=
  ⟨(hperm.map _).nodup_iff.1 h.nodup, fun i hi => h.apart i (hperm.mem_iff.2 hi)⟩

theorem inversesAmong_perm {models models' : List Model} (h : models.Perm models') (target : String) :
    (inversesAmong models target).Perm (inversesAmong models' target) :=
  h.flatMap_right _

/-- Inverse relations behind its fields do not change which field is the primary key of a model. -/
theorem keyField?_withInverses (m : Model) (inverses : List Inverse) : (m.withInverses inverses).keyField? = m.keyField? := by
  have hnone : (inverses.map Field.inverse).find? Field.isPrimaryKey = none := by
    rw [List.find?_eq_none]
    simp [Field.isPrimaryKey]
  rw [keyField?, withInverses, List.find?_append, hnone, Option.or_none, keyField?]

/-- What is made of a model among others depends on their order only in the order of its inverse relations. -/
theorem completedAmong_perm {models models' : List Model} (h : models.Perm models') (m : Model) :
    (m.completedAmong models).SameUpToInverses (m.completedAmong models') where
  same := rfl
  fields := ⟨_, _, _, rfl, rfl, inversesAmong_perm h m.name⟩
  key := (keyField?_withInverses _ _).trans (keyField?_withInverses _ _).symm

theorem mem_fieldNames_completedAmong {models models' : List Model} (h : models.Perm models') {m : Model} {n : String} :
    n ∈ (m.completedAmong models).fieldNames ↔ n ∈ (m.completedAmong models').fieldNames := by
  rw [completedAmong, completedAmong, mem_fieldNames_withInverses, mem_fieldNames_withInverses,
    ((inversesAmong_perm h m.name).map Inverse.name).mem_iff]

end Model

theorem AreCompatible.perm {models models' : List Model} (h : AreCompatible models) (hperm : models.Perm models') :
    AreCompatible models' where
  names_nodup := (hperm.map _).nodup_iff.1 h.names_nodup
  declared m hm := h.declared m (hperm.mem_iff.2 hm)
  targets m hm f hf target ht := (hperm.map _).mem_iff.1 (h.targets m (hperm.mem_iff.2 hm) f hf target ht)
  inverses m hm := (h.inverses m (hperm.mem_iff.2 hm)).perm (Model.inversesAmong_perm hperm m.name)
  methods m hm method hmethod hname :=
    h.methods m (hperm.mem_iff.2 hm) method hmethod ((Model.mem_fieldNames_completedAmong hperm).2 hname)

/-! ## When the passes succeed -/

namespace Registry

/-- Models are declared when each passes the checks of its own and they have different names. -/
theorem exists_declare_iff {taken : List String} {models : List Model} :
    (∃ declared, declare taken models = .ok declared) ↔
      (models.map Model.name).Nodup ∧ ∀ m ∈ models, m.name ∉ taken ∧ m.checkNames = .ok () ∧ ∃ keyed, m.withKey = .ok keyed := by
  induction models generalizing taken with
  | nil => exact ⟨fun _ => ⟨List.nodup_nil, nofun⟩, fun _ => ⟨[], rfl⟩⟩
  | cons m rest ih =>
    rw [List.map_cons, List.nodup_cons, List.forall_mem_cons]
    constructor
    · rintro ⟨declared, h⟩
      unfold declare at h
      split at h
      · cases h
      · rename_i htaken
        obtain ⟨_, hnames, h⟩ := Outcome.bind_ok_iff.1 h
        obtain ⟨keyed, hkeyed, h⟩ := Outcome.bind_ok_iff.1 h
        obtain ⟨others, hothers, -⟩ := Outcome.bind_ok_iff.1 h
        obtain ⟨hnodup, hrest⟩ := ih.1 ⟨others, hothers⟩
        refine ⟨⟨fun hm => ?_, hnodup⟩, ⟨by simpa using htaken, hnames, keyed, hkeyed⟩, fun d hd => ?_⟩
        · obtain ⟨d, hd, hname⟩ := List.mem_map.1 hm
          exact (hrest d hd).1 (hname ▸ List.mem_cons_self)
        · exact ⟨fun hname => (hrest d hd).1 (List.mem_cons_of_mem _ hname), (hrest d hd).2⟩
    · rintro ⟨⟨hnew, hnodup⟩, ⟨htaken, hnames, keyed, hkeyed⟩, hrest⟩
      have hfree : ∀ d ∈ rest, d.name ∉ m.name :: taken := by
        intro d hd hname
        rcases List.mem_cons.1 hname with hname | hname
        · exact hnew (hname ▸ List.mem_map_of_mem hd)
        · exact (hrest d hd).1 hname
      obtain ⟨others, hothers⟩ := ih.2 ⟨hnodup, fun d hd => ⟨hfree d hd, (hrest d hd).2⟩⟩
      refine ⟨keyed :: others, ?_⟩
      rw [declare, if_neg (by simpa using htaken), hnames, hkeyed, hothers]
      rfl

theorem exists_inverseOfField_iff {names : List String} {m : Model} {f : Field} :
    (∃ found, inverseOfField names m f = .ok found) ↔ ∀ target, f.related? = some target → target ∈ names := by
  constructor
  · rintro ⟨found, h⟩
    exact (inverseOfField_ok h).1
  · intro h
    unfold inverseOfField
    split
    · exact ⟨_, rfl⟩
    · rw [if_pos (by simpa using h _ ‹_›)]
      split <;> exact ⟨_, rfl⟩

/-- All inverses are found when every relation leads to one of the models. -/
theorem exists_inverses_iff {models : List Model} :
    (∃ found, inverses models = .ok found) ↔
      ∀ m ∈ models, ∀ f ∈ m.fields, ∀ target, f.related? = some target → target ∈ models.map Model.name := by
  constructor
  · rintro ⟨found, h⟩
    exact (inverses_ok h).1
  · intro h
    have hfields : ∀ m ∈ models, ∃ found, m.fields.mapM (inverseOfField (models.map Model.name) m) = .ok found := fun m hm =>
      Outcome.exists_mapM_iff.2 fun f hf => exists_inverseOfField_iff.2 (h m hm f hf)
    obtain ⟨lists, hlists⟩ := Outcome.exists_mapM_iff.2 hfields
    refine ⟨lists.flatten.flatten, ?_⟩
    rw [inverses, hlists]
    rfl

theorem exists_addInverse_iff {models : List Model} {target : String} {i : Inverse} :
    (∃ after, addInverse models target i = .ok after) ↔
      ∀ m ∈ models, m.name = target → i.name ∉ m.fieldNames ∧ i.name ∉ m.properties := by
  rw [addInverse, Outcome.exists_mapM_iff]
  refine forall₂_congr fun m _ => ?_
  split
  · rename_i hname
    rw [Model.exists_withInverse_iff, forall_prop_of_true hname]
  · rename_i hname
    exact ⟨fun _ h => absurd h hname, fun _ => ⟨m, rfl⟩⟩

/-- Inverse relations are added one by one where each model admits all of those for it. -/
theorem exists_foldlM_addInverse_iff {entries : List (String × Inverse)} {models : List Model} :
    (∃ after, entries.foldlM (fun models entry => addInverse models entry.1 entry.2) models = .ok after) ↔
      ∀ m ∈ models, m.Admits ((entries.filter fun entry => entry.1 = m.name).map Prod.snd) := by
  induction entries generalizing models with
  | nil => exact ⟨fun _ m _ => m.admits_nil, fun _ => ⟨models, rfl⟩⟩
  | cons entry entries ih =>
    have hstep : (∃ after, (entry :: entries).foldlM (fun models entry => addInverse models entry.1 entry.2) models = .ok after) ↔
        ∃ next, addInverse models entry.1 entry.2 = .ok next ∧
          ∀ m ∈ next, m.Admits ((entries.filter fun entry => entry.1 = m.name).map Prod.snd) := by
      simp only [List.foldlM_cons, Outcome.bind_ok_iff, ← ih]
      exact ⟨fun ⟨after, next, hnext, h⟩ => ⟨next, hnext, after, h⟩, fun ⟨next, hnext, after, h⟩ => ⟨after, next, hnext, h⟩⟩
    -- a model of the name that the first entry is for has to admit it, and then the rest together with it
    have hmodel : ∀ m : Model, m.Admits (((entry :: entries).filter fun entry => entry.1 = m.name).map Prod.snd) ↔
        (m.name = entry.1 → entry.2.name ∉ m.fieldNames ∧ entry.2.name ∉ m.properties) ∧
          (m.withInverses (if m.name = entry.1 then [entry.2] else [])).Admits
            ((entries.filter fun entry => entry.1 = m.name).map Prod.snd) := by
      intro m
      by_cases hname : m.name = entry.1
      · rw [List.filter_cons_of_pos (by simpa using hname.symm), List.map_cons, Model.admits_cons_iff, if_pos hname,
          forall_prop_of_true hname]
      · rw [List.filter_cons_of_neg (by simpa using Ne.symm hname), if_neg hname, Model.withInverses_nil]
        exact (and_iff_right fun h => absurd h hname).symm
    rw [hstep]
    constructor
    · rintro ⟨next, hnext, h⟩ m hm
      rw [addInverse_eq hnext, List.forall_mem_map] at h
      exact (hmodel m).2 ⟨exists_addInverse_iff.1 ⟨next, hnext⟩ m hm, h m hm⟩
    · intro h
      obtain ⟨next, hnext⟩ := exists_addInverse_iff.2 fun m hm => ((hmodel m).1 (h m hm)).1
      refine ⟨next, hnext, ?_⟩
      rw [addInverse_eq hnext, List.forall_mem_map]
      exact fun m hm => ((hmodel m).1 (h m hm)).2

theorem checkMethodNames_ok_iff {m : Model} : checkMethodNames m = .ok () ↔ ∀ method ∈ m.methods, method.name ∉ m.fieldNames := by
  simp only [← Model.fieldAnsweringTo?_eq_none_iff, ← Option.not_isSome_iff_eq_none]
  rw [← List.find?_eq_none, checkMethodNames]
  split <;> simp [*]

theorem names_withOwnKey (models : List Model) : (models.map Model.withOwnKey).map Model.name = models.map Model.name := by
  rw [List.map_map]
  rfl

/-- Models are completed exactly when they pass every check together. -/
theorem exists_completeModels_iff {models : List Model} : (∃ completed, completeModels models = .ok completed) ↔ AreCompatible models := by
  constructor
  · rintro ⟨completed, h⟩
    obtain ⟨declared, hdeclared, h⟩ := Outcome.bind_ok_iff.1 h
    obtain ⟨found, hfound, h⟩ := Outcome.bind_ok_iff.1 h
    obtain ⟨last, hlast, h⟩ := Outcome.bind_ok_iff.1 h
    obtain ⟨_, hmethods, h⟩ := Outcome.bind_ok_iff.1 h
    cases h
    obtain rfl := declare_eq hdeclared
    obtain ⟨hnames, hown⟩ := exists_declare_iff.1 ⟨_, hdeclared⟩
    have htargets := exists_inverses_iff.1 ⟨_, hfound⟩
    have hadmits := exists_foldlM_addInverse_iff.1 ⟨_, hlast⟩
    rw [completed_of_foldlM hfound hlast, Outcome.forM_ok_iff] at hmethods
    rw [List.forall_mem_map] at htargets hadmits hmethods
    refine ⟨hnames, fun m hm => (hown m hm).2, fun m hm f hf target ht => ?_, fun m hm => ?_, fun m hm => ?_⟩
    · rw [← names_withOwnKey]
      exact htargets m hm f hf target ht
    · rw [← inverses_for hfound]
      exact hadmits m hm
    · exact checkMethodNames_ok_iff.1 (hmethods m hm)
  · intro h
    obtain ⟨declared, hdeclared⟩ := exists_declare_iff.2 ⟨h.names_nodup, fun m hm => ⟨List.not_mem_nil, h.declared m hm⟩⟩
    obtain rfl := declare_eq hdeclared
    have htargets : ∃ found, inverses (models.map Model.withOwnKey) = .ok found := by
      rw [exists_inverses_iff, names_withOwnKey, List.forall_mem_map]
      exact h.targets
    obtain ⟨found, hfound⟩ := htargets
    have hadmits : ∃ last, found.foldlM (fun models entry => addInverse models entry.1 entry.2) (models.map Model.withOwnKey) = .ok last := by
      rw [exists_foldlM_addInverse_iff, List.forall_mem_map]
      intro m hm
      exact (inverses_for hfound m.name).symm ▸ h.inverses m hm
    obtain ⟨last, hlast⟩ := hadmits
    have hmethods : last.forM checkMethodNames = .ok () := by
      rw [completed_of_foldlM hfound hlast, Outcome.forM_ok_iff, List.forall_mem_map]
      exact fun m hm => checkMethodNames_ok_iff.2 (h.methods m hm)
    refine ⟨last, ?_⟩
    simp only [completeModels, hdeclared, hfound, hlast, hmethods, bind, Except.bind]
    rfl

/-- A registry of models alone is built exactly when the models are compatible. -/
theorem exists_build_iff {models : List Model} : (∃ r, build models = .ok r) ↔ AreCompatible models := by
  rw [← exists_completeModels_iff]
  constructor
  · rintro ⟨r, h⟩
    exact ⟨_, completeModels_of_build h⟩
  · rintro ⟨completed, h⟩
    refine ⟨{ models := completed }, ?_⟩
    rw [build, h]
    rfl

/-- A model found by its name in one registry is found in that of the same models in another order. -/
theorem model?_of_permuted {models models' : List Model} (hperm : models.Perm models') {r r' : Registry} (h : build models = .ok r)
    (h' : build models' = .ok r') {name : String} {m : Model} (hm : r.model? name = some m) :
    ∃ m', r'.model? name = some m' ∧ m.SameUpToInverses m' := by
  have hmem := mem_of_model? hm
  rw [completeModels_eq (completeModels_of_build h)] at hmem
  obtain ⟨d, hd, rfl⟩ := List.mem_map.1 hmem
  have hmem' : d.completedAmong models' ∈ r'.models := by
    rw [completeModels_eq (completeModels_of_build h')]
    exact List.mem_map_of_mem (hperm.mem_iff.1 hd)
  have hr' : r'.IsBuilt := ⟨_, _, _, h'⟩
  refine ⟨d.completedAmong models', ?_, Model.completedAmong_perm hperm d⟩
  rw [← name_of_model? hm]
  exact hr'.model?_of_mem hmem'

end Registry

/-- Models that are registered in another order are built to a registry exactly when they were before, and to the same one but for orders:
of the models, and of the inverse relations on each. A name finds the same model in both, with the same fields, the same primary key, the
same properties and the same methods, or none in either. -/
theorem build_of_permuted {models models' : List Model} (hperm : models.Perm models') :
    ((∃ r, Registry.build models = .ok r) ↔ ∃ r', Registry.build models' = .ok r') ∧
      ∀ r r', Registry.build models = .ok r → Registry.build models' = .ok r' →
        (∃ reordered, r'.models.Perm reordered ∧ List.Forall₂ Model.SameUpToInverses r.models reordered) ∧
          ∀ name, Option.Rel Model.SameUpToInverses (r.model? name) (r'.model? name) := by
  constructor
  · rw [exists_build_iff, exists_build_iff]
    exact ⟨fun h => h.perm hperm, fun h => h.perm hperm.symm⟩
  · intro r r' h h'
    refine ⟨⟨models.map (Model.completedAmong models'), ?_, ?_⟩, fun name => ?_⟩
    · rw [completeModels_eq (completeModels_of_build h')]
      exact hperm.symm.map _
    · rw [completeModels_eq (completeModels_of_build h), List.forall₂_map_left_iff, List.forall₂_map_right_iff, List.forall₂_same]
      exact fun m _ => Model.completedAmong_perm hperm m
    · cases hm : r.model? name with
      | some m =>
        obtain ⟨m', hm', hsame⟩ := model?_of_permuted hperm h h' hm
        rw [hm']
        exact .some hsame
      | none =>
        cases hm' : r'.model? name with
        | some m' =>
          obtain ⟨m, hfound, -⟩ := model?_of_permuted hperm.symm h' h hm'
          rw [hm] at hfound
          cases hfound
        | none => exact .none

/-- The models of the shelf registered the other way round. The inverse relations of authors all come from books and keep their order;
those of books come from two models and change places. -/
theorem shelf_registered_backwards :
    shelf.Perm shelf.reverse ∧ ∃ r r', Registry.build shelf = .ok r ∧ Registry.build shelf.reverse = .ok r' ∧
      (∀ name, Option.Rel Model.SameUpToInverses (r.model? name) (r'.model? name)) ∧
      r.models.map (fun m => m.inverses.map Inverse.name) = [["book_set", "edited"], ["book_set", "cover"], []] ∧
      r'.models.map (fun m => m.inverses.map Inverse.name) = [[], ["cover", "book_set"], ["book_set", "edited"]] := by
  have hperm : shelf.Perm shelf.reverse := (List.reverse_perm _).symm
  have h : Registry.build shelf = .ok { models := shelf.map (Model.completedAmong shelf) } := rfl
  obtain ⟨hbuilt, hsame⟩ := build_of_permuted hperm
  obtain ⟨r', h'⟩ := hbuilt.1 ⟨_, h⟩
  refine ⟨hperm, _, r', h, h', (hsame _ _ h h').2, rfl, ?_⟩
  rw [completeModels_eq (completeModels_of_build h')]
  rfl

end ModelCatalog
