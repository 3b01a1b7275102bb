import ModelCatalog.Proofs.Schema.Completed

/-!
# Names that clients see

Clients see fields, properties and methods of a model by name (`Model.clientNames`). The checks on a registry keep these names apart, each
where the names come in: those of fields and methods when they are declared, those of inverse relations when they are added. Two clashes
pass all checks: a property listed twice, and a property called `id` on a model that is given the implicit key, since properties are
compared with the fields before that key is one of them. There are no others (`client_names_nodup_iff`).
-/

namespace ModelCatalog

/-- The names that clients see on a model: of its fields, properties and methods. -/
def Model.clientNames (m : Model) : List String := m.fieldNames ++ m.properties ++ m.methods.map Method.name

/-! ## Names declared on one model -/

namespace Model

/-- The names given back are those taken before and those of the fields. -/
theorem mem_checkFields {m : Model} {taken names : List String} {fields : List Field} (h : m.checkFields taken fields = .ok names)
    (n : String) : n ∈ names ↔ n ∈ taken ∨ n ∈ fields.flatMap namesOf := by
  induction fields generalizing taken with
  | nil =>
    cases h
    simp
  | cons f rest ih =>
    unfold checkFields at h
    split at h
    · cases h
    · split at h
      · cases h
      · rw [ih h, List.mem_append, List.flatMap_cons, List.mem_append, or_assoc, or_left_comm]

/-- Methods that pass have names of their own, which are not among those taken and not names of properties. -/
theorem checkMethods_ok {m : Model} {taken : List String} {methods : List Method} (h : m.checkMethods taken methods = .ok ()) :
    (methods.map Method.name).Nodup ∧ ∀ n ∈ methods.map Method.name, n ∉ taken ∧ n ∉ m.properties := by
  induction methods generalizing taken with
  | nil => simp
  | cons method rest ih =>
    unfold checkMethods at h
    split at h
    · cases h
    · split at h
      · cases h
      · rename_i hname
        split at h
        · cases h
        · obtain ⟨hnodup, hnew⟩ := ih h
          have hown : method.name ∉ taken ∧ method.name ∉ m.properties := by simpa [not_or] using hname
          rw [List.map_cons, List.nodup_cons]
          refine ⟨⟨fun hm => (hnew _ hm).1 List.mem_cons_self, hnodup⟩, List.forall_mem_cons.2 ⟨hown, fun n hn => ?_⟩⟩
          exact ⟨fun ht => (hnew n hn).1 (List.mem_cons_of_mem _ ht), (hnew n hn).2⟩

/-- The names that a model declares, when they pass: properties are apart from fields, and methods from properties and each other. -/
theorem checkNames_apart {m : Model} (h : m.checkNames = .ok ()) :
    (∀ n ∈ m.properties, n ∉ m.fieldNames) ∧ (m.methods.map Method.name).Nodup ∧
      ∀ n ∈ m.methods.map Method.name, n ∉ m.properties := by
  obtain ⟨names, hnames, h⟩ := Outcome.bind_ok_iff.1 h
  split at h
  · cases h
  · rename_i hproperties
    obtain ⟨hmethods, hnew⟩ := checkMethods_ok h
    refine ⟨fun n hn hfield => ?_, hmethods, fun n hn => (hnew n hn).2⟩
    have htaken := List.find?_eq_none.1 hproperties n hn
    rw [List.contains_iff_mem, mem_checkFields hnames] at htaken
    exact htaken (Or.inr hfield)

/-- The names of a model with its primary key are those it declares, and `id` when it declares no key. -/
theorem mem_fieldNames_withOwnKey {m : Model} {n : String} :
    n ∈ m.withOwnKey.fieldNames ↔ n ∈ m.fieldNames ∨ n = "id" ∧ m.fields.any Field.isPrimaryKey = false := by
  unfold withOwnKey keyedFields
  cases hkey : m.fields.any Field.isPrimaryKey with
  | true => simp [fieldNames]
  | false =>
    have hnames : namesOf implicitKey = ["id"] := rfl
    simp only [fieldNames, Bool.false_eq_true, if_false, List.flatMap_cons, hnames, List.singleton_append, List.mem_cons, and_true]
    exact or_comm

theorem mem_fieldNames_withInverses {m : Model} {inverses : List Inverse} {n : String} :
    n ∈ (m.withInverses inverses).fieldNames ↔ n ∈ m.fieldNames ∨ n ∈ inverses.map Inverse.name := by
  have hnames : (inverses.map Field.inverse).flatMap namesOf = inverses.map Inverse.name := by
    rw [List.flatMap_map]
    exact List.map_eq_flatMap.symm
  rw [fieldNames, withInverses, List.flatMap_append, hnames, List.mem_append]
  rfl

end Model

/-! ## Names added by a registry -/

namespace Registry

/-- Every model of a registry has passed the checks on its names. -/
theorem checkNames_of_declare {taken : List String} {models declared : List Model} (h : declare taken models = .ok declared) :
    ∀ m ∈ models, m.checkNames = .ok () := by
  induction models generalizing taken declared with
  | nil => simp
  | cons m rest ih =>
    unfold declare at h
    split at h
    · cases h
    · obtain ⟨_, hnames, h⟩ := Outcome.bind_ok_iff.1 h
      obtain ⟨_, -, h⟩ := Outcome.bind_ok_iff.1 h
      obtain ⟨_, hothers, -⟩ := Outcome.bind_ok_iff.1 h
      exact List.forall_mem_cons.2 ⟨hnames, ih hothers⟩

theorem checkNames_of_completed {models completed : List Model} (h : completeModels models = .ok completed) {d : Model}
    (hd : d ∈ models) : d.checkNames = .ok () := by
  obtain ⟨declared, hdeclared, -⟩ := Outcome.bind_ok_iff.1 h
  exact checkNames_of_declare hdeclared d hd

/-- Inverse relations are apart from properties, and methods from all fields. -/
theorem completeModels_apart {models completed : List Model} (h : completeModels models = .ok completed) :
    ∀ m ∈ completed, (∀ i, Field.inverse i ∈ m.fields → i.name ∉ m.properties) ∧
      ∀ n ∈ m.methods.map Method.name, n ∉ m.fieldNames := by
  obtain ⟨declared, hdeclared, h⟩ := Outcome.bind_ok_iff.1 h
  obtain ⟨found, -, h⟩ := Outcome.bind_ok_iff.1 h
  obtain ⟨last, hlast, h⟩ := Outcome.bind_ok_iff.1 h
  obtain ⟨_, hmethods, h⟩ := Outcome.bind_ok_iff.1 h
  cases h
  have hinverses := Outcome.foldlM_ok
    (fun current : List Model => ∀ m ∈ current, ∀ i, Field.inverse i ∈ m.fields → i.name ∉ m.properties) hlast
    (fun d hd i hi => absurd hi (((declare_ok hdeclared).2 d hd).2.2 i)) ?_
  · intro m hm
    refine ⟨hinverses m hm, fun n hn => ?_⟩
    obtain ⟨method, hmethod, rfl⟩ := List.mem_map.1 hn
    have hcheck := Outcome.forM_ok_iff.1 hmethods m hm
    unfold checkMethodNames at hcheck
    split at hcheck
    · cases hcheck
    · rename_i hnone
      rw [← Model.fieldAnsweringTo?_eq_none_iff, ← Option.not_isSome_iff_eq_none]
      exact List.find?_eq_none.1 hnone method hmethod
  · intro current hcurrent entry _ after hafter m' hm' i hi
    rcases addInverse_mem hafter hm' with hm' | ⟨m, hm, -, hadd⟩
    · exact hcurrent m' hm' i hi
    · obtain ⟨rfl, -, hproperties⟩ := Model.withInverse_ok hadd
      rcases List.mem_append.1 hi with hi | hi
      · exact hcurrent m hm i hi
      · cases List.mem_singleton.1 hi
        exact hproperties

/-- The only name of a field that a property can have is that of the implicit key. -/
theorem mem_fieldNames_of_property {models completed : List Model} (h : completeModels models = .ok completed) {d : Model}
    (hd : d ∈ models) {n : String} (hn : n ∈ d.properties) :
    n ∈ (d.completedAmong models).fieldNames ↔ n = "id" ∧ d.fields.any Field.isPrimaryKey = false := by
  have hm : d.completedAmong models ∈ completed := completeModels_eq h ▸ List.mem_map_of_mem hd
  obtain ⟨hproperties, -, -⟩ := Model.checkNames_apart (checkNames_of_completed h hd)
  have hinverses : n ∉ (Model.inversesAmong models d.name).map Inverse.name := by
    intro hname
    obtain ⟨i, hi, rfl⟩ := List.mem_map.1 hname
    exact (completeModels_apart h _ hm).1 i (List.mem_append_right _ (List.mem_map_of_mem hi)) hn
  rw [Model.completedAmong, Model.mem_fieldNames_withInverses, Model.mem_fieldNames_withOwnKey, or_iff_left hinverses,
    or_iff_right (hproperties n hn)]

/-- A field of a built registry that has the name of a property is the implicit key. -/
theorem IsBuilt.implicitKey_of_property {r : Registry} (hr : r.IsBuilt) {m : Model} (hm : m ∈ r.models) {n : String}
    (hn : n ∈ m.properties) (hfield : n ∈ m.fieldNames) : n = "id" ∧ Model.implicitKey ∈ m.fields := by
  obtain ⟨models, validators, handlers, hbuild⟩ := hr
  have hcompleted := completeModels_of_build hbuild
  obtain ⟨d, hd, rfl⟩ := List.mem_map.1 (completeModels_eq hcompleted ▸ hm)
  obtain ⟨hid, hkey⟩ := (mem_fieldNames_of_property hcompleted hd hn).1 hfield
  refine ⟨hid, List.mem_append_left _ ?_⟩
  rw [Model.withOwnKey, Model.keyedFields, hkey]
  exact List.mem_cons_self

/-- No field of a built registry has the name of a property, apart from the implicit key. -/
theorem IsBuilt.field?_of_property {r : Registry} (hr : r.IsBuilt) {m : Model} (hm : m ∈ r.models) {n : String}
    (hn : n ∈ m.properties) : m.field? n = none ∨ m.field? n = some Model.implicitKey := by
  cases hfield : m.field? n with
  | none => exact Or.inl rfl
  | some f =>
    obtain rfl : f.name = n := by simpa using List.find?_some hfield
    have hnames : f.name ∈ m.fieldNames :=
      Model.mem_fieldNames.2 ⟨f, List.mem_of_find?_eq_some hfield, (f.answersTo_iff _).2 List.mem_cons_self⟩
    obtain ⟨hid, himplicit⟩ := hr.implicitKey_of_property hm hn hnames
    have hfound := (hr.fit.sound m hm).field?_of_mem himplicit
    rw [hid] at hfield
    exact Or.inr (hfield.symm.trans hfound)

end Registry

/-- In a built registry the names that clients see on a model are pairwise different, unless the model lists a property twice, or has a
property called `id` and declares no primary key. -/
theorem client_names_nodup_iff {models : List Model} {validators : List (String × Validator)}
    {handlers : List (String × String × Handler)} {r : Registry} (h : Registry.build models validators handlers = .ok r) {d : Model}
    (hd : d ∈ models) :
    d.completedAmong models ∈ r.models ∧
      ((d.completedAmong models).clientNames.Nodup ↔
        d.properties.Nodup ∧ ¬ ("id" ∈ d.properties ∧ d.fields.any Field.isPrimaryKey = false)) := by
  have hcompleted := Registry.completeModels_of_build h
  have hm : d.completedAmong models ∈ r.models := Registry.completeModels_eq hcompleted ▸ List.mem_map_of_mem hd
  obtain ⟨declared, hdeclared, -⟩ := Outcome.bind_ok_iff.1 hcompleted
  obtain ⟨-, hmethods, hmethodsProperties⟩ := Model.checkNames_apart (Registry.checkNames_of_declare hdeclared d hd)
  have hmethodsFields := (Registry.completeModels_apart hcompleted _ hm).2
  have hfields := ((Registry.completeModels_fit hcompleted).sound _ hm).names_nodup
  refine ⟨hm, ?_⟩
  have hapart : ∀ a ∈ (d.completedAmong models).fieldNames ++ d.properties, ∀ b ∈ d.methods.map Method.name, a ≠ b := by
    rintro a ha b hb rfl
    rcases List.mem_append.1 ha with ha | ha
    · exact hmethodsFields a hb ha
    · exact hmethodsProperties a hb ha
  have hclash : (∀ a ∈ (d.completedAmong models).fieldNames, ∀ b ∈ d.properties, a ≠ b) ↔
      ¬ ("id" ∈ d.properties ∧ d.fields.any Field.isPrimaryKey = false) := by
    constructor
    · rintro hne ⟨hid, hkey⟩
      exact hne "id" ((Registry.mem_fieldNames_of_property hcompleted hd hid).2 ⟨rfl, hkey⟩) "id" hid rfl
    · rintro hid a ha b hb rfl
      obtain ⟨rfl, hkey⟩ := (Registry.mem_fieldNames_of_property hcompleted hd hb).1 ha
      exact hid ⟨hb, hkey⟩
  change (((d.completedAmong models).fieldNames ++ d.properties) ++ d.methods.map Method.name).Nodup ↔ _
  rw [List.nodup_append, and_iff_left ⟨hmethods, hapart⟩, List.nodup_append, and_iff_right hfields, hclash]

/-- A property called `id` has the name of the implicit key. -/
theorem property_id_clashes :
    ∃ r, Registry.build [{ name := "Thing", properties := ["id"] }] = .ok r ∧ ∃ m ∈ r.models, ¬ m.clientNames.Nodup := by
  have h : Registry.build [{ name := "Thing", properties := ["id"] }] =
      .ok { models := [Model.completedAmong [] { name := "Thing", properties := ["id"] }] } := rfl
  obtain ⟨hm, hnodup⟩ := client_names_nodup_iff h List.mem_cons_self
  exact ⟨_, h, _, hm, fun hn => (hnodup.1 hn).2 ⟨List.mem_cons_self, rfl⟩⟩

end ModelCatalog
