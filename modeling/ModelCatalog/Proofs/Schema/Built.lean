import Mathlib.Data.List.Nodup
import ModelCatalog.Proofs.Outcome
import ModelCatalog.Schema.Registry

/-!
# What building a registry establishes

`Registry.build` checks a list of models and completes it with primary keys and inverse relations. `ModelsFit` is what the checks
establish, step by step: `declare` for each model on its own, `inverses` for the targets, and `addInverse` keeps it
(`ModelsFit.addInverse`). For a built registry it holds of the models (`Registry.IsBuilt.fit`).
-/

namespace ModelCatalog

/-- The names that the fields of a model take, in order. -/
def Model.fieldNames (m : Model) : List String := m.fields.flatMap Model.namesOf

/-- What the fields of one model satisfy: no name is taken twice, and one field is the primary key. -/
structure Model.IsSound (m : Model) : Prop where
  names_nodup : m.fieldNames.Nodup
  one_key : (m.fields.filter Field.isPrimaryKey).length = 1

/-- Models that fit together. -/
structure ModelsFit (models : List Model) : Prop where
  names_nodup : (models.map Model.name).Nodup
  sound : ∀ m ∈ models, m.IsSound
  targets : ∀ m ∈ models, ∀ f ∈ m.fields, ∀ target, f.related? = some target → target ∈ models.map Model.name
  /-- An inverse relation is the other end of a reference. -/
  inverses : ∀ m ∈ models, ∀ i, Field.inverse i ∈ m.fields →
    ∃ source ∈ models, ∃ ref, Field.reference ref ∈ source.fields ∧ ref.target = m.name ∧ i = source.inverseOf ref

namespace Registry

/-- A registry that `build` gives. -/
def IsBuilt (r : Registry) : Prop := ∃ models validators handlers, build models validators handlers = .ok r

end Registry

/-! ## Names of fields -/

/-- A field goes by exactly the names it takes. -/
theorem Field.answersTo_iff (f : Field) (name : String) : f.answersTo name = true ↔ name ∈ Model.namesOf f := by
  simp only [answersTo, Model.namesOf, Bool.or_eq_true, decide_eq_true_eq, List.mem_cons, Option.mem_toList]
  exact or_congr ⟨Eq.symm, Eq.symm⟩ Iff.rfl

/-- A stored field goes by the name of its column. -/
theorem Field.answersTo_column {f : Field} {column : String} (h : f.column? = some column) : f.answersTo column = true := by
  cases f with
  | plain c =>
    cases h
    simp [answersTo, name]
  | reference ref =>
    cases h
    simp [answersTo, referenceColumn?]
  | inverse i => cases h
  | links l =>
    cases h
    simp [answersTo, name]

namespace Model

theorem mem_fieldNames {m : Model} {name : String} : name ∈ m.fieldNames ↔ ∃ f ∈ m.fields, f.answersTo name = true := by
  simp only [fieldNames, List.mem_flatMap, Field.answersTo_iff]

theorem fieldAnsweringTo?_eq_none_iff (m : Model) (name : String) :
    m.fieldAnsweringTo? name = none ↔ name ∉ m.fieldNames := by
  rw [fieldAnsweringTo?, List.find?_eq_none, mem_fieldNames]
  simp

theorem answersTo_of_fieldAnsweringTo? {m : Model} {name : String} {f : Field} (h : m.fieldAnsweringTo? name = some f) :
    f.answersTo name = true := by
  have hf := List.find?_some h
  exact hf

/-- A field found under a name is a field of the model and has the name. -/
theorem mem_of_field? {m : Model} {name : String} {f : Field} (h : m.field? name = some f) : f ∈ m.fields ∧ f.name = name := by
  have hname := List.find?_some h
  exact ⟨List.mem_of_find?_eq_some h, by simpa using hname⟩

/-- Fields of a list without repeated names that share a name are one. -/
theorem eq_of_names_nodup : ∀ {fields : List Field}, (fields.flatMap namesOf).Nodup →
    ∀ {f g : Field} {name : String}, f ∈ fields → g ∈ fields → f.answersTo name = true → g.answersTo name = true → f = g
  | [], _, f, _, _, hf, _, _, _ => absurd hf List.not_mem_nil
  | h :: fields, hn, f, g, name, hf, hg, hfn, hgn => by
    rw [List.flatMap_cons, List.nodup_append] at hn
    obtain ⟨-, hrest, hdisj⟩ := hn
    have hmem : ∀ k ∈ fields, k.answersTo name = true → name ∈ fields.flatMap namesOf := fun k hk hkn =>
      List.mem_flatMap.2 ⟨k, hk, (k.answersTo_iff name).1 hkn⟩
    rcases List.mem_cons.1 hf with rfl | hf <;> rcases List.mem_cons.1 hg with rfl | hg
    · rfl
    · exact absurd rfl (hdisj name ((f.answersTo_iff name).1 hfn) name (hmem g hg hgn))
    · exact absurd rfl (hdisj name ((g.answersTo_iff name).1 hgn) name (hmem f (by assumption) hfn))
    · exact eq_of_names_nodup hrest hf hg hfn hgn

namespace IsSound

variable {m : Model}

/-- The field found for a name is the one field that goes by it. -/
theorem fieldAnsweringTo?_eq_some_iff (h : m.IsSound) {name : String} {f : Field} :
    m.fieldAnsweringTo? name = some f ↔ f ∈ m.fields ∧ f.answersTo name = true := by
  constructor
  · intro hf
    exact ⟨List.mem_of_find?_eq_some hf, answersTo_of_fieldAnsweringTo? hf⟩
  · rintro ⟨hf, hn⟩
    cases hg : m.fieldAnsweringTo? name with
    | none => exact absurd (mem_fieldNames.2 ⟨f, hf, hn⟩) ((fieldAnsweringTo?_eq_none_iff m name).1 hg)
    | some g =>
      rw [eq_of_names_nodup h.names_nodup (List.mem_of_find?_eq_some hg) hf (answersTo_of_fieldAnsweringTo? hg) hn]

/-- A field is found under each of its names. -/
theorem fieldAnsweringTo?_of_mem (h : m.IsSound) {f : Field} (hf : f ∈ m.fields) {name : String} (hname : name ∈ namesOf f) :
    m.fieldAnsweringTo? name = some f :=
  h.fieldAnsweringTo?_eq_some_iff.2 ⟨hf, (f.answersTo_iff name).2 hname⟩

/-- A field is found under its own name. -/
theorem field?_of_mem (h : m.IsSound) {f : Field} (hf : f ∈ m.fields) : m.field? f.name = some f := by
  cases hg : m.field? f.name with
  | none =>
    have hnone := List.find?_eq_none.1 hg f hf
    simp at hnone
  | some g =>
    have hname : g.name = f.name := by simpa using List.find?_some hg
    have hfound := h.fieldAnsweringTo?_of_mem (List.mem_of_find?_eq_some hg) List.mem_cons_self
    rw [hname, h.fieldAnsweringTo?_of_mem hf List.mem_cons_self] at hfound
    exact hfound.symm

/-- A sound model has a primary key field with a column. -/
theorem keyColumn (h : m.IsSound) : ∃ f ∈ m.fields, f.isPrimaryKey = true ∧ m.keyField? = some f ∧
    ∃ column, f.column? = some column ∧ m.keyColumn = .ok column := by
  obtain ⟨f, hf⟩ := List.length_eq_one_iff.1 h.one_key
  have hmem : f ∈ m.fields.filter Field.isPrimaryKey := hf ▸ List.mem_singleton_self f
  obtain ⟨hm, hk⟩ := List.mem_filter.1 hmem
  have hfind : m.keyField? = some f := by
    rw [keyField?, ← List.head?_filter, hf]
    rfl
  refine ⟨f, hm, hk, hfind, ?_⟩
  cases f with
  | plain c => exact ⟨c.name, rfl, by simp [Model.keyColumn, hfind, Field.column?]⟩
  | reference ref => exact ⟨ref.column, rfl, by simp [Model.keyColumn, hfind, Field.column?]⟩
  | inverse i => cases hk
  | links l => cases hk

/-- The primary key field is the only one there is. -/
theorem keyField?_eq_some (h : m.IsSound) {f : Field} (hf : f ∈ m.fields) (hkey : f.isPrimaryKey = true) : m.keyField? = some f := by
  obtain ⟨g, hg⟩ := List.length_eq_one_iff.1 h.one_key
  have hmem : f ∈ m.fields.filter Field.isPrimaryKey := List.mem_filter.2 ⟨hf, hkey⟩
  rw [hg, List.mem_singleton] at hmem
  rw [keyField?, ← List.head?_filter, hg, hmem]
  rfl

/-- In a sound model a column belongs to one field. -/
theorem eq_of_column (h : m.IsSound) {f g : Field} {column : String} (hf : f ∈ m.fields) (hg : g ∈ m.fields)
    (hfc : f.column? = some column) (hgc : g.column? = some column) : f = g :=
  eq_of_names_nodup h.names_nodup hf hg (Field.answersTo_column hfc) (Field.answersTo_column hgc)

/-- The column of the primary key is that of the primary key field. -/
theorem isPrimaryKey_iff (h : m.IsSound) {f : Field} (hf : f ∈ m.fields) {c column : String} (hc : f.column? = some c)
    (hcolumn : m.keyColumn = .ok column) : f.isPrimaryKey = true ↔ c = column := by
  obtain ⟨g, hg, hkey, -, column', hgc, hcolumn'⟩ := h.keyColumn
  obtain rfl := Except.ok.inj (hcolumn.symm.trans hcolumn')
  constructor
  · intro hf'
    obtain rfl := Option.some.inj ((h.keyField?_eq_some hf hf').symm.trans (h.keyField?_eq_some hg hkey))
    exact Option.some.inj (hc.symm.trans hgc)
  · rintro rfl
    rw [h.eq_of_column hf hg hc hgc]
    exact hkey

end IsSound

end Model

/-! ## Checks on one model -/

namespace Model

/-- No name is taken: none comes twice, and none is among those taken before. -/
theorem firstTaken?_eq_none {taken names : List String} (h : firstTaken? taken names = none) :
    names.Nodup ∧ ∀ n ∈ names, n ∉ taken := by
  induction names generalizing taken with
  | nil => exact ⟨List.nodup_nil, by simp⟩
  | cons name rest ih =>
    rw [firstTaken?] at h
    split at h
    · cases h
    · rename_i hname
      obtain ⟨hrest, htaken⟩ := ih h
      refine ⟨List.nodup_cons.2 ⟨fun hm => htaken name hm List.mem_cons_self, hrest⟩, ?_⟩
      intro n hn
      rcases List.mem_cons.1 hn with rfl | hn
      · simpa using hname
      · exact fun ht => htaken n hn (List.mem_cons_of_mem _ ht)

/-- The fields that pass are no inverse relations, and their names are new and come once. -/
theorem checkFields_ok {m : Model} {taken names : List String} {fields : List Field}
    (h : m.checkFields taken fields = .ok names) :
    (∀ i, Field.inverse i ∉ fields) ∧ (fields.flatMap namesOf).Nodup ∧ ∀ n ∈ fields.flatMap namesOf, n ∉ taken := by
  induction fields generalizing taken with
  | nil => simp
  | cons f rest ih =>
    unfold checkFields at h
    split at h
    · cases h
    · rename_i hf
      split at h
      · cases h
      · rename_i hfirst
        obtain ⟨hnodup, htaken⟩ := firstTaken?_eq_none hfirst
        obtain ⟨hinv, hrest, hnew⟩ := ih h
        refine ⟨?_, ?_, ?_⟩
        · intro i hi
          rcases List.mem_cons.1 hi with hi | hi
          · exact hf i hi.symm
          · exact hinv i hi
        · rw [List.flatMap_cons, List.nodup_append]
          refine ⟨hnodup, hrest, ?_⟩
          rintro n hn _ hn' rfl
          exact hnew n hn' (List.mem_append_left _ hn)
        · intro n hn
          rw [List.flatMap_cons, List.mem_append] at hn
          rcases hn with hn | hn
          · exact htaken n hn
          · exact fun ht => hnew n hn (List.mem_append_right _ ht)

/-- The fields of a model that passes the checks of its own: no name comes twice, and none is an inverse relation. -/
theorem checkNames_ok {m : Model} (h : m.checkNames = .ok ()) : m.fieldNames.Nodup ∧ ∀ i, Field.inverse i ∉ m.fields := by
  obtain ⟨names, hnames, -⟩ := Outcome.bind_ok_iff.1 h
  obtain ⟨hinv, hnodup, -⟩ := checkFields_ok hnames
  exact ⟨hnodup, hinv⟩

/-- The column of a reference is not called `id`. -/
theorem column_ne_id (ref : Reference) : ref.column ≠ "id" := by
  intro h
  have hlen := congrArg String.length h
  have hsuffix : "_id".length = 3 := rfl
  have hid : "id".length = 2 := rfl
  rw [Reference.column, String.length_append, hsuffix, hid] at hlen
  omega

/-- A model given its primary key is sound, keeps its name and gets no inverse relation. -/
theorem withKey_ok {m keyed : Model} (h : m.withKey = .ok keyed) (hnames : m.fieldNames.Nodup) :
    keyed.name = m.name ∧ keyed.IsSound ∧ ∀ i, Field.inverse i ∈ keyed.fields → Field.inverse i ∈ m.fields := by
  unfold withKey at h
  split at h
  · rename_i hcount
    split at h
    · cases h
    · rename_i hid
      cases h
      refine ⟨rfl, ⟨?_, ?_⟩, ?_⟩
      · have hnew : "id" ∉ m.fieldNames := by
          rw [mem_fieldNames]
          rintro ⟨f, hf, hfn⟩
          rcases List.mem_cons.1 ((f.answersTo_iff "id").1 hfn) with hname | hcol
          · rw [field?, Option.not_isSome_iff_eq_none, List.find?_eq_none] at hid
            exact hid f hf (by simp [← hname])
          · cases f with
            | reference ref =>
              simp only [Field.referenceColumn?, Option.toList_some, List.mem_singleton] at hcol
              exact column_ne_id ref hcol.symm
            | _ => simp [Field.referenceColumn?] at hcol
        exact List.nodup_cons.2 ⟨hnew, hnames⟩
      · rw [List.filter_cons_of_pos (by rfl), List.length_cons, hcount]
      · intro i hi
        rcases List.mem_cons.1 hi with hi | hi
        · cases hi
        · exact hi
  · rename_i hcount
    cases h
    exact ⟨rfl, ⟨hnames, hcount⟩, fun _ hi => hi⟩
  · cases h

/-- An inverse relation is added under a new name. -/
theorem withInverse_ok {m m' : Model} {i : Inverse} (h : m.withInverse i = .ok m') :
    m' = { m with fields := m.fields ++ [.inverse i] } ∧ i.name ∉ m.fieldNames ∧ i.name ∉ m.properties := by
  unfold withInverse at h
  split at h
  · cases h
  · rename_i hclash
    cases h
    rw [Bool.or_eq_true, not_or, Option.not_isSome_iff_eq_none] at hclash
    exact ⟨rfl, (fieldAnsweringTo?_eq_none_iff m i.name).1 hclash.1, by simpa using hclash.2⟩

/-- A model stays sound when an inverse relation is added to it. -/
theorem IsSound.withInverse {m m' : Model} {i : Inverse} (hs : m.IsSound) (h : m.withInverse i = .ok m') : m'.IsSound := by
  obtain ⟨rfl, hnew, -⟩ := withInverse_ok h
  refine ⟨?_, ?_⟩
  · rw [fieldNames, List.flatMap_append, List.nodup_append]
    refine ⟨hs.names_nodup, by simp [namesOf, Field.referenceColumn?], ?_⟩
    rintro n hn n' hn' rfl
    simp only [namesOf, Field.referenceColumn?, Field.name, List.flatMap_cons, List.flatMap_nil, Option.toList_none,
      List.append_nil, List.mem_singleton] at hn'
    exact hnew (hn' ▸ hn)
  · rw [List.filter_append, List.length_append, hs.one_key]
    rfl

end Model

/-! ## Checks on the models together -/

namespace Registry

/-- The models declared have names of their own, none of those taken, and are sound. -/
theorem declare_ok {taken : List String} {models declared : List Model} (h : declare taken models = .ok declared) :
    (declared.map Model.name).Nodup ∧
      ∀ d ∈ declared, d.name ∉ taken ∧ d.IsSound ∧ ∀ i, Field.inverse i ∉ d.fields := by
  induction models generalizing taken declared with
  | nil =>
    cases h
    simp
  | cons m rest ih =>
    unfold declare at h
    split at h
    · cases h
    · rename_i htaken
      obtain ⟨_, hnames, h⟩ := Outcome.bind_ok_iff.1 h
      obtain ⟨keyed, hkeyed, h⟩ := Outcome.bind_ok_iff.1 h
      obtain ⟨others, hothers, h⟩ := Outcome.bind_ok_iff.1 h
      cases h
      obtain ⟨hnodup, hinv⟩ := Model.checkNames_ok hnames
      obtain ⟨hname, hsound, hkeep⟩ := Model.withKey_ok hkeyed hnodup
      obtain ⟨hrest, hall⟩ := ih hothers
      refine ⟨?_, ?_⟩
      · rw [List.map_cons, List.nodup_cons]
        refine ⟨?_, hrest⟩
        intro hm
        obtain ⟨d, hd, hdn⟩ := List.mem_map.1 hm
        exact (hall d hd).1 (by rw [hdn, hname]; exact List.mem_cons_self)
      · intro d hd
        rcases List.mem_cons.1 hd with rfl | hd
        · refine ⟨?_, hsound, fun i hi => hinv i (hkeep i hi)⟩
          rw [hname]
          simpa using htaken
        · obtain ⟨hd1, hd2⟩ := hall d hd
          exact ⟨fun ht => hd1 (List.mem_cons_of_mem _ ht), hd2⟩

/-- A field's inverse, when it has one: its target is a named model. -/
theorem inverseOfField_ok {names : List String} {m : Model} {f : Field} {found : List (String × Inverse)}
    (h : inverseOfField names m f = .ok found) :
    (∀ target, f.related? = some target → target ∈ names) ∧
      ∀ e ∈ found, ∃ ref, f = .reference ref ∧ e = (ref.target, m.inverseOf ref) := by
  unfold inverseOfField at h
  split at h
  · rename_i hf
    cases h
    simp [hf]
  · rename_i target hf
    split at h
    · rename_i hmem
      refine ⟨fun t ht => ?_, ?_⟩
      · rw [hf] at ht
        cases ht
        simpa using hmem
      · split at h
        · cases h
          intro e he
          rw [List.mem_singleton] at he
          subst he
          simp only [Field.related?, Option.some.injEq] at hf
          exact ⟨_, rfl, by rw [hf]⟩
        · cases h
          simp
    · cases h

/-- Every relation leads to one of the models, and each inverse found is that of a reference. -/
theorem inverses_ok {models : List Model} {found : List (String × Inverse)} (h : inverses models = .ok found) :
    (∀ m ∈ models, ∀ f ∈ m.fields, ∀ target, f.related? = some target → target ∈ models.map Model.name) ∧
      ∀ e ∈ found, ∃ m ∈ models, ∃ ref, Field.reference ref ∈ m.fields ∧ e = (ref.target, m.inverseOf ref) := by
  obtain ⟨lists, hlists, h⟩ := Outcome.bind_ok_iff.1 h
  cases h
  refine ⟨?_, ?_⟩
  · intro m hm f hf
    obtain ⟨list, -, hlist⟩ := Outcome.exists_of_mapM_ok hlists hm
    obtain ⟨entries, -, hentries⟩ := Outcome.exists_of_mapM_ok hlist hf
    exact (inverseOfField_ok hentries).1
  · intro e he
    simp only [List.mem_flatten] at he
    obtain ⟨entries, ⟨list, hlist, hmem⟩, he⟩ := he
    obtain ⟨m, hm, hmlist⟩ := Outcome.exists_of_mem_mapM_ok hlists hlist
    obtain ⟨f, hf, hfound⟩ := Outcome.exists_of_mem_mapM_ok hmlist hmem
    obtain ⟨ref, rfl, heq⟩ := (inverseOfField_ok hfound).2 e he
    exact ⟨m, hm, ref, hf, heq⟩

/-- A model before and after an inverse relation was added somewhere: it is as it was, or it is the one that got it. -/
theorem addInverse_mem {models after : List Model} {target : String} {i : Inverse}
    (h : addInverse models target i = .ok after) {m' : Model} (hm' : m' ∈ after) :
    m' ∈ models ∨ ∃ m ∈ models, m.name = target ∧ m.withInverse i = .ok m' := by
  obtain ⟨m, hm, heq⟩ := Outcome.exists_of_mem_mapM_ok h hm'
  split at heq
  · rename_i hname
    exact Or.inr ⟨m, hm, hname, heq⟩
  · cases heq
    exact Or.inl hm

/-- Adding an inverse relation keeps every model, with the name and the fields it had. -/
theorem addInverse_keeps {models after : List Model} {target : String} {i : Inverse}
    (h : addInverse models target i = .ok after) {m : Model} (hm : m ∈ models) :
    ∃ m' ∈ after, m'.name = m.name ∧ m.fields ⊆ m'.fields := by
  obtain ⟨m', hm', heq⟩ := Outcome.exists_of_mapM_ok h hm
  refine ⟨m', hm', ?_⟩
  split at heq
  · obtain ⟨rfl, -⟩ := Model.withInverse_ok heq
    exact ⟨rfl, List.subset_append_left _ _⟩
  · cases heq
    exact ⟨rfl, List.Subset.refl _⟩

theorem addInverse_names {models after : List Model} {target : String} {i : Inverse}
    (h : addInverse models target i = .ok after) : after.map Model.name = models.map Model.name := by
  refine Outcome.map_eq_of_mapM_ok h Model.name Model.name ?_
  intro m m' heq
  split at heq
  · rw [(Model.withInverse_ok heq).1]
  · cases heq
    rfl

end Registry

/-- Models that fit together still do when the inverse of one of their references is added. -/
theorem ModelsFit.addInverse {models after : List Model} {target : String} {i : Inverse} (hfit : ModelsFit models)
    (h : Registry.addInverse models target i = .ok after)
    (hi : ∃ source ∈ models, ∃ ref, Field.reference ref ∈ source.fields ∧ ref.target = target ∧ i = source.inverseOf ref) :
    ModelsFit after := by
  have hnames := Registry.addInverse_names h
  have hsource : ∀ source ∈ models, ∀ ref, Field.reference ref ∈ source.fields →
      ∃ source' ∈ after, Field.reference ref ∈ source'.fields ∧ source.inverseOf ref = source'.inverseOf ref := by
    intro source hs ref href
    obtain ⟨source', hs', hname, hsub⟩ := Registry.addInverse_keeps h hs
    exact ⟨source', hs', hsub href, by simp only [Model.inverseOf, Model.usualInverseName, hname]⟩
  -- the new inverse, and those that were there, have their reference on the models as they are now
  have hold : ∀ j t,
      (∃ source ∈ models, ∃ ref, Field.reference ref ∈ source.fields ∧ ref.target = t ∧ j = source.inverseOf ref) →
      ∃ source ∈ after, ∃ ref, Field.reference ref ∈ source.fields ∧ ref.target = t ∧ j = source.inverseOf ref := by
    rintro j t ⟨source, hs, ref, href, ht, rfl⟩
    obtain ⟨source', hs', href', heq⟩ := hsource source hs ref href
    exact ⟨source', hs', ref, href', ht, heq⟩
  refine ⟨hnames ▸ hfit.names_nodup, ?_, ?_, ?_⟩
  · intro m' hm'
    rcases Registry.addInverse_mem h hm' with hm' | ⟨m, hm, -, hadd⟩
    · exact hfit.sound m' hm'
    · exact (hfit.sound m hm).withInverse hadd
  · intro m' hm' f hf t ht
    rw [hnames]
    rcases Registry.addInverse_mem h hm' with hm' | ⟨m, hm, -, hadd⟩
    · exact hfit.targets m' hm' f hf t ht
    · obtain ⟨rfl, -⟩ := Model.withInverse_ok hadd
      rcases List.mem_append.1 hf with hf | hf
      · exact hfit.targets m hm f hf t ht
      · rw [List.mem_singleton] at hf
        subst hf
        obtain ⟨source, hs, ref, -, -, rfl⟩ := hi
        cases ht
        exact List.mem_map_of_mem hs
  · intro m' hm' j hj
    rcases Registry.addInverse_mem h hm' with hm' | ⟨m, hm, hname, hadd⟩
    · exact hold j m'.name (hfit.inverses m' hm' j hj)
    · obtain ⟨rfl, -⟩ := Model.withInverse_ok hadd
      rcases List.mem_append.1 hj with hj | hj
      · exact hold j m.name (hfit.inverses m hm j hj)
      · rw [List.mem_singleton] at hj
        cases hj
        exact hold i m.name (hname ▸ hi)

/-! ## Building -/

namespace Registry

/-- Models that are checked and completed fit together. -/
theorem completeModels_fit {models completed : List Model} (h : completeModels models = .ok completed) : ModelsFit completed := by
  obtain ⟨declared, hdeclared, h⟩ := Outcome.bind_ok_iff.1 h
  obtain ⟨found, hfound, h⟩ := Outcome.bind_ok_iff.1 h
  obtain ⟨last, hlast, h⟩ := Outcome.bind_ok_iff.1 h
  obtain ⟨_, -, h⟩ := Outcome.bind_ok_iff.1 h
  cases h
  obtain ⟨hnames, hall⟩ := declare_ok hdeclared
  obtain ⟨htargets, hentries⟩ := inverses_ok hfound
  have hfit : ModelsFit declared :=
    ⟨hnames, fun d hd => (hall d hd).2.1, htargets, fun d hd i hi => absurd hi ((hall d hd).2.2 i)⟩
  -- beside fitting together, the models keep the references they were declared with
  refine (Outcome.foldlM_ok (fun current => ModelsFit current ∧
    ∀ d ∈ declared, ∃ m ∈ current, m.name = d.name ∧ d.fields ⊆ m.fields) hlast
    ⟨hfit, fun d hd => ⟨d, hd, rfl, List.Subset.refl _⟩⟩ ?_).1
  rintro current ⟨hcurrent, hkept⟩ e he after hafter
  obtain ⟨d, hd, ref, href, rfl⟩ := hentries e he
  refine ⟨hcurrent.addInverse hafter ?_, ?_⟩
  · obtain ⟨m, hm, hname, hsub⟩ := hkept d hd
    exact ⟨m, hm, ref, hsub href, rfl, by simp only [Model.inverseOf, Model.usualInverseName, hname]⟩
  · intro d' hd'
    obtain ⟨m, hm, hname, hsub⟩ := hkept d' hd'
    obtain ⟨m', hm', hname', hsub'⟩ := addInverse_keeps hafter hm
    exact ⟨m', hm', hname'.trans hname, List.Subset.trans hsub hsub'⟩

/-- Adding a handler changes no model. -/
theorem addHandler_models {r r' : Registry} {model method : String} {handler : Handler}
    (h : r.addHandler model method handler = .ok r') : r'.models = r.models := by
  unfold addHandler at h
  split at h
  · cases h
  · split at h
    · cases h
    · cases h
      rfl

/-- Validators and handlers change no model. -/
theorem completeModels_of_build {models : List Model} {validators : List (String × Validator)}
    {handlers : List (String × String × Handler)} {r : Registry} (h : build models validators handlers = .ok r) :
    completeModels models = .ok r.models := by
  obtain ⟨completed, hcompleted, h⟩ := Outcome.bind_ok_iff.1 h
  obtain ⟨_, -, h⟩ := Outcome.bind_ok_iff.1 h
  have hmodels : r.models = completed :=
    Outcome.foldlM_ok (fun current => current.models = completed) h rfl fun current hc entry _ after hafter =>
      (addHandler_models hafter).trans hc
  rw [hmodels, hcompleted]

/-- The models of a registry fit together once it is built. -/
theorem IsBuilt.fit {r : Registry} (h : r.IsBuilt) : ModelsFit r.models := by
  obtain ⟨models, validators, handlers, h⟩ := h
  exact completeModels_fit (completeModels_of_build h)

/-! ## Finding models -/

theorem model_ok_iff {r : Registry} {name : String} {m : Model} : r.model name = .ok m ↔ r.model? name = some m := by
  unfold model
  cases r.model? name <;> simp

theorem name_of_model? {r : Registry} {name : String} {m : Model} (h : r.model? name = some m) : m.name = name := by
  have hm := List.find?_some h
  simpa using hm

/-- A name is unknown, or it is that of the model found for it. -/
theorem model_cases (r : Registry) (name : String) :
    (∃ f, r.model? name = none ∧ r.model name = .error f) ∨
      ∃ m, r.model? m.name = some m ∧ r.model m.name = .ok m ∧ m.name = name := by
  cases hm : r.model? name with
  | none =>
    rw [model, hm]
    exact Or.inl ⟨_, rfl, rfl⟩
  | some m =>
    obtain rfl := name_of_model? hm
    exact Or.inr ⟨m, hm, model_ok_iff.2 hm, rfl⟩

theorem mem_of_model? {r : Registry} {name : String} {m : Model} (h : r.model? name = some m) : m ∈ r.models :=
  List.mem_of_find?_eq_some h

/-- A name is that of a model exactly when a model is found for it. -/
theorem exists_model?_iff {r : Registry} {name : String} : (∃ m, r.model? name = some m) ↔ name ∈ r.models.map Model.name := by
  rw [← Option.isSome_iff_exists, model?, List.find?_isSome]
  simp

/-- A name has one model, and that one primary key column. -/
theorem model?_keyColumn_unique {r : Registry} {name column column' : String} {m m' : Model} (hm : r.model? name = some m)
    (hcolumn : m.keyColumn = .ok column) (hm' : r.model? name = some m') (hcolumn' : m'.keyColumn = .ok column') :
    m = m' ∧ column = column' := by
  rw [hm] at hm'
  cases hm'
  rw [hcolumn] at hcolumn'
  cases hcolumn'
  exact ⟨rfl, rfl⟩

/-- The model found for a name is sound. -/
theorem IsBuilt.sound {r : Registry} (h : r.IsBuilt) {name : String} {m : Model} (hm : r.model? name = some m) : m.IsSound :=
  h.fit.sound m (mem_of_model? hm)

/-- Every relation of a model leads to a model. -/
theorem IsBuilt.target {r : Registry} (h : r.IsBuilt) {name : String} {m : Model} (hm : r.model? name = some m) {f : Field}
    (hf : f ∈ m.fields) {target : String} (ht : f.related? = some target) : ∃ m', r.model? target = some m' :=
  exists_model?_iff.2 (h.fit.targets m (mem_of_model? hm) f hf target ht)

/-- Of models with names of their own each is the one found for its name. -/
theorem IsBuilt.model?_of_mem {r : Registry} (h : r.IsBuilt) {m : Model} (hm : m ∈ r.models) : r.model? m.name = some m := by
  obtain ⟨m', hm'⟩ := exists_model?_iff.2 (List.mem_map_of_mem hm)
  rw [hm', List.inj_on_of_nodup_map h.fit.names_nodup (mem_of_model? hm') hm (name_of_model? hm')]

/-- The models of a pool are found by their names. -/
theorem IsBuilt.model_of_mem_pool {r : Registry} (h : r.IsBuilt) {members : Members} {m : Model} (hm : m ∈ r.pool members) :
    r.model m.name = .ok m :=
  model_ok_iff.2 (h.model?_of_mem (List.mem_of_mem_filter hm))

theorem IsBuilt.sound_of_mem_pool {r : Registry} (h : r.IsBuilt) {members : Members} {m : Model} (hm : m ∈ r.pool members) :
    m.IsSound :=
  h.fit.sound m (List.mem_of_mem_filter hm)

end Registry

end ModelCatalog
