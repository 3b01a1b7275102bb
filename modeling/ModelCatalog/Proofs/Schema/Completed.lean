import ModelCatalog.Proofs.Schema.Built

/-!
# The models of a built registry

Building a registry goes over the models in several passes, each of which may fail. When none does, what has become of the models is one
equation: each has its primary key in front of its fields and the inverses of all references to it behind them
(`Model.completedAmong`, `Registry.completeModels_eq`). With it, what the checks establish describes the registry completely: names of
models and fields are unique, every model has one primary key, every relation leads to a model, and the inverse relations are those of
the references, each once (`built_registries_well_formed`).
-/

namespace ModelCatalog

/-- The reference that a field is, if it is one. -/
def Field.reference? : Field → Option Reference
  | reference ref => some ref
  | _ => none

namespace Model

/-! ## Completed models -/

/-- The fields of a model with its primary key: those it declares, behind the implicit key when none of them is one. -/
def keyedFields (m : Model) : List Field := if m.fields.any Field.isPrimaryKey then m.fields else implicitKey :: m.fields

/-- The model with its primary key. -/
def withOwnKey (m : Model) : Model := { m with fields := m.keyedFields }

/-- The model with inverse relations behind its fields. -/
def withInverses (m : Model) (inverses : List Inverse) : Model := { m with fields := m.fields ++ inverses.map .inverse }

/-- The inverses of the references that some models have to the model of a name, in order of model and reference. -/
def inversesAmong (models : List Model) (target : String) : List Inverse :=
  models.flatMap fun m => (m.references.filter fun ref => ref.target = target).map m.inverseOf

/-- What a registry makes of a model among others. -/
def completedAmong (models : List Model) (m : Model) : Model := m.withOwnKey.withInverses (inversesAmong models m.name)

theorem references_eq (m : Model) : m.references = m.fields.filterMap Field.reference? := rfl

theorem references_withOwnKey (m : Model) : m.withOwnKey.references = m.references := by
  unfold withOwnKey keyedFields
  split <;> rfl

theorem references_withInverses (m : Model) (inverses : List Inverse) : (m.withInverses inverses).references = m.references := by
  have hnone : (inverses.map Field.inverse).filterMap Field.reference? = [] := by
    rw [List.filterMap_map]
    exact List.filterMap_eq_nil_iff.2 fun _ _ => rfl
  rw [references_eq, references_eq, withInverses, List.filterMap_append, hnone, List.append_nil]

/-- Which inverses there are depends on nothing but the names and references of the models. -/
theorem inversesAmong_map (complete : Model → Model) (hname : ∀ m, (complete m).name = m.name)
    (hrefs : ∀ m, (complete m).references = m.references) (models : List Model) :
    inversesAmong (models.map complete) = inversesAmong models := by
  funext target
  unfold inversesAmong
  rw [List.flatMap_map]
  refine List.flatMap_congr fun m _ => ?_
  have hinverse : (complete m).inverseOf = m.inverseOf := by
    funext ref
    simp only [inverseOf, usualInverseName, hname]
  rw [hrefs, hinverse]

theorem withInverses_append (m : Model) (a b : List Inverse) : m.withInverses (a ++ b) = (m.withInverses a).withInverses b := by
  simp only [withInverses, List.map_append, List.append_assoc]

theorem inverses_withInverses (m : Model) (inverses : List Inverse) : (m.withInverses inverses).inverses = m.inverses ++ inverses := by
  simp only [Model.inverses, withInverses, List.filterMap_append, List.filterMap_map]
  congr 1
  exact List.filterMap_some

end Model

/-! ## One pass after another -/

namespace Registry

/-- A model that gets its primary key is otherwise as it was. -/
theorem withKey_eq {m keyed : Model} (h : m.withKey = .ok keyed) : keyed = m.withOwnKey := by
  unfold Model.withKey at h
  have hany : m.fields.any Field.isPrimaryKey = decide (0 < (m.fields.filter Field.isPrimaryKey).length) := by
    rw [Bool.eq_iff_iff, decide_eq_true_iff, List.length_pos_iff_exists_mem, List.any_eq_true]
    simp only [List.mem_filter]
  unfold Model.withOwnKey Model.keyedFields
  rw [hany]
  split at h
  · rename_i hcount
    split at h
    · cases h
    · cases h
      rw [hcount]
      rfl
  · rename_i hcount
    cases h
    rw [hcount]
    rfl
  · cases h

theorem declare_eq {taken : List String} {models declared : List Model} (h : declare taken models = .ok declared) :
    declared = models.map Model.withOwnKey := by
  induction models generalizing taken declared with
  | nil =>
    cases h
    rfl
  | cons m rest ih =>
    unfold declare at h
    split at h
    · cases h
    · obtain ⟨_, -, h⟩ := Outcome.bind_ok_iff.1 h
      obtain ⟨keyed, hkeyed, h⟩ := Outcome.bind_ok_iff.1 h
      obtain ⟨others, hothers, h⟩ := Outcome.bind_ok_iff.1 h
      cases h
      rw [List.map_cons, withKey_eq hkeyed, ih hothers]

/-- A field has an inverse when it is a reference. -/
theorem inverseOfField_eq {names : List String} {m : Model} {f : Field} {found : List (String × Inverse)}
    (h : inverseOfField names m f = .ok found) :
    found = (f.reference?.map fun ref => (ref.target, m.inverseOf ref)).toList := by
  unfold inverseOfField at h
  cases f with
  | plain c =>
    cases h
    rfl
  | reference ref | inverse ref | links ref =>
    simp only [Field.related?] at h
    split at h
    · cases h
      rfl
    · cases h

/-- The inverses found are those of the references. -/
theorem inverses_eq {models : List Model} {found : List (String × Inverse)} (h : inverses models = .ok found) :
    found = models.flatMap fun m => m.references.map fun ref => (ref.target, m.inverseOf ref) := by
  obtain ⟨lists, hlists, h⟩ := Outcome.bind_ok_iff.1 h
  cases h
  have hmodel : ∀ (m : Model) entries, m.fields.mapM (inverseOfField (models.map Model.name) m) = .ok entries →
      entries.flatten = m.references.map fun ref => (ref.target, m.inverseOf ref) := by
    intro m entries hentries
    have hfields := Outcome.map_eq_of_mapM_ok hentries _ id fun _ _ => inverseOfField_eq
    rw [List.map_id] at hfields
    rw [hfields, ← List.flatMap_def, Model.references_eq, List.map_filterMap, List.filterMap_eq_flatMap_toList]
  rw [List.flatten_flatten, Outcome.map_eq_of_mapM_ok hlists _ List.flatten hmodel, List.flatMap_def]

/-- A model that gets an inverse relation is the one it is for. -/
theorem addInverse_eq {models after : List Model} {target : String} {i : Inverse}
    (h : addInverse models target i = .ok after) :
    after = models.map fun m => m.withInverses (if m.name = target then [i] else []) := by
  have hmodels := Outcome.map_eq_of_mapM_ok h (fun m => m.withInverses (if m.name = target then [i] else [])) id ?_
  · rwa [List.map_id] at hmodels
  · intro m m' heq
    split at heq
    · rename_i hname
      rw [if_pos hname, (Model.withInverse_ok heq).1]
      rfl
    · rename_i hname
      cases heq
      rw [if_neg hname]
      simp [Model.withInverses]

/-- After inverse relations were added one by one, each model has those that were for it, in order. -/
theorem foldlM_addInverse_eq {entries : List (String × Inverse)} {models after : List Model}
    (h : entries.foldlM (fun models entry => addInverse models entry.1 entry.2) models = .ok after) :
    after = models.map fun m => m.withInverses ((entries.filter fun entry => entry.1 = m.name).map Prod.snd) := by
  induction entries generalizing models with
  | nil =>
    cases h
    simp [Model.withInverses]
  | cons entry entries ih =>
    rw [List.foldlM_cons, Outcome.bind_ok_iff] at h
    obtain ⟨next, hnext, h⟩ := h
    rw [ih h, addInverse_eq hnext, List.map_map]
    refine List.map_congr_left fun m _ => ?_
    rw [Function.comp_apply, ← Model.withInverses_append]
    change m.withInverses (_ ++ (entries.filter fun entry => entry.1 = m.name).map Prod.snd) = _
    by_cases hname : m.name = entry.1
    · simp [hname]
    · simp [hname, Ne.symm hname]

/-- The inverses found for the model of a name are those of the references to it. -/
theorem inverses_for {models : List Model} {found : List (String × Inverse)} (h : inverses (models.map Model.withOwnKey) = .ok found)
    (name : String) : (found.filter fun entry => entry.1 = name).map Prod.snd = Model.inversesAmong models name := by
  rw [inverses_eq h, ← Model.inversesAmong_map Model.withOwnKey (fun _ => rfl) Model.references_withOwnKey, List.filter_flatMap,
    List.map_flatMap, Model.inversesAmong]
  refine List.flatMap_congr fun source _ => ?_
  rw [List.filter_map, List.map_map]
  rfl

/-- With their keys and all inverses added, the models are completed. -/
theorem completed_of_foldlM {models last : List Model} {found : List (String × Inverse)}
    (hfound : inverses (models.map Model.withOwnKey) = .ok found)
    (hlast : found.foldlM (fun models entry => addInverse models entry.1 entry.2) (models.map Model.withOwnKey) = .ok last) :
    last = models.map (Model.completedAmong models) := by
  rw [foldlM_addInverse_eq hlast, List.map_map]
  refine List.map_congr_left fun m _ => ?_
  rw [Model.completedAmong, ← inverses_for hfound]
  rfl

/-- The models of a registry are those it is built of, each completed. -/
theorem completeModels_eq {models completed : List Model} (h : completeModels models = .ok completed) :
    completed = models.map (Model.completedAmong models) := by
  obtain ⟨declared, hdeclared, h⟩ := Outcome.bind_ok_iff.1 h
  obtain ⟨found, hfound, h⟩ := Outcome.bind_ok_iff.1 h
  obtain ⟨last, hlast, h⟩ := Outcome.bind_ok_iff.1 h
  obtain ⟨_, -, h⟩ := Outcome.bind_ok_iff.1 h
  cases h
  obtain rfl := declare_eq hdeclared
  exact completed_of_foldlM hfound hlast

/-! ## Well-formed registries -/

/-- What a registry guarantees of its models. -/
structure IsWellFormed (r : Registry) : Prop where
  model_names : (r.models.map Model.name).Nodup
  /-- A name finds the model that has it, and nothing else. -/
  found : ∀ name m, r.model? name = some m ↔ m ∈ r.models ∧ m.name = name
  /-- No two names of fields are equal, the columns of references included. -/
  field_names : ∀ m ∈ r.models, m.fieldNames.Nodup
  key : ∀ m ∈ r.models, ∃ f, m.fields.filter Field.isPrimaryKey = [f] ∧ ((∃ c, f = .plain c) ∨ ∃ ref, f = .reference ref)
  targets : ∀ m ∈ r.models, ∀ f ∈ m.fields, ∀ target, f.related? = some target → ∃ m', r.model? target = some m'
  /-- A model has one inverse relation for each reference to it, and no other. -/
  inverses : ∀ m ∈ r.models, m.inverses = r.models.flatMap fun source =>
    (source.references.filter fun ref => ref.target = m.name).map fun ref =>
      { name := ref.inverseName.getD (source.usualInverseName ref), source := source.name, field := ref.name,
        oneToOne := ref.oneToOne }

/-- The inverses on a completed model are those of the references of the completed models. -/
theorem inverses_of_completed {models completed : List Model} (h : completeModels models = .ok completed) {m : Model}
    (hm : m ∈ completed) : m.inverses = Model.inversesAmong completed m.name := by
  obtain ⟨declared, hdeclared, -⟩ := Outcome.bind_ok_iff.1 h
  have hplain := (declare_ok hdeclared).2
  rw [declare_eq hdeclared] at hplain
  rw [completeModels_eq h] at hm ⊢
  obtain ⟨d, hd, rfl⟩ := List.mem_map.1 hm
  have hnone : d.withOwnKey.inverses = [] := by
    refine List.filterMap_eq_nil_iff.2 fun f hf => ?_
    cases f with
    | inverse i => exact absurd hf ((hplain _ (List.mem_map_of_mem hd)).2.2 i)
    | plain | reference | links => rfl
  have hrefs : ∀ d, (Model.completedAmong models d).references = d.references := fun d =>
    (Model.references_withInverses _ _).trans (Model.references_withOwnKey d)
  rw [Model.inversesAmong_map (Model.completedAmong models) (fun _ => rfl) hrefs, Model.completedAmong,
    Model.inverses_withInverses, hnone, List.nil_append]
  rfl

end Registry

/-- A registry that is built holds the models it is built of, each with its primary key and with the inverses of all references to it, and
is well-formed. -/
theorem built_registries_well_formed {models : List Model} {validators : List (String × Validator)}
    {handlers : List (String × String × Handler)} {r : Registry} (h : Registry.build models validators handlers = .ok r) :
    r.models = models.map (Model.completedAmong models) ∧ r.IsWellFormed := by
  have hcompleted := Registry.completeModels_of_build h
  have hr : r.IsBuilt := ⟨models, validators, handlers, h⟩
  refine ⟨Registry.completeModels_eq hcompleted, hr.fit.names_nodup, fun name m => ?_, fun m hm => (hr.fit.sound m hm).names_nodup,
    fun m hm => ?_, fun m hm f hf target ht => hr.target (hr.model?_of_mem hm) hf ht,
    fun m hm => Registry.inverses_of_completed hcompleted hm⟩
  · constructor
    · intro hm
      exact ⟨Registry.mem_of_model? hm, Registry.name_of_model? hm⟩
    · rintro ⟨hm, rfl⟩
      exact hr.model?_of_mem hm
  · obtain ⟨f, hf⟩ := List.length_eq_one_iff.1 (hr.fit.sound m hm).one_key
    have hkey : f.isPrimaryKey = true := List.of_mem_filter (hf ▸ List.mem_singleton_self f)
    refine ⟨f, hf, ?_⟩
    cases f with
    | plain c => exact Or.inl ⟨c, rfl⟩
    | reference ref => exact Or.inr ⟨ref, rfl⟩
    | inverse | links => cases hkey

/-- Books with an author and an editor, which may continue another book, and covers, each of which has the key of its book. -/
def shelf : List Model :=
  [{ name := "Author" },
    { name := "Book"
      fields := [.reference { name := "author", target := "Author" },
        .reference { name := "editor", target := "Author", null := true, inverseName := some "edited" },
        .reference { name := "sequel_of", target := "Book", null := true }] },
    { name := "Cover", fields := [.reference { name := "book", target := "Book", oneToOne := true, primaryKey := true }] }]

/-- The registry of books: authors know the books they wrote and those they edited, and books their sequels and their cover. -/
theorem shelf_well_formed :
    ∃ r, Registry.build shelf = .ok r ∧ r.IsWellFormed ∧ r.models.map (fun m => m.inverses.map Inverse.name) =
      [["book_set", "edited"], ["book_set", "cover"], []] := by
  have h : Registry.build shelf = .ok { models := shelf.map (Model.completedAmong shelf) } := rfl
  obtain ⟨hmodels, hwell⟩ := built_registries_well_formed h
  refine ⟨_, h, hwell, ?_⟩
  rw [hmodels]
  rfl

end ModelCatalog
