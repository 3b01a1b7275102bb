import ModelCatalog.Client.Render
import ModelCatalog.Command.Run
import ModelCatalog.Proofs.Schema.KeyChains

/-!
# When generation fails

The type of a reference is that of the primary key it holds, so nothing can be generated for a model with a reference to a model whose key
is endless, and this is the only thing that can go wrong. `generation_fails_iff_key_endless` says so of keys, of units, of whole runs and
of the check, which all tell apart the same models.
-/

namespace ModelCatalog

/-- A reference of the model leads to a model whose key is endless. -/
def HasEndlessReference (r : Registry) (m : Model) : Prop :=
  ∃ ref, Field.reference ref ∈ m.fields ∧ ∃ target, r.model? ref.target = some target ∧ IsKeyEndless r target

namespace Client

variable {r : Registry} {members : Registry.Members} {table : TypeTable} {m : Model}

/-- The key of a registered model has a type unless it is endless. -/
theorem keyTypeOf_error_iff (hr : r.IsBuilt) (hm : r.model? m.name = some m) :
    (∃ e, keyTypeOf r table m.name = .error e) ↔ IsKeyEndless r m := by
  rw [keyTypeOf, Outcome.map_error_iff]
  simp only [keyKind_eq_error_iff hr hm, exists_eq_left]

/-- A reference contributes unless it leads to a model whose key is endless, and all other fields do. -/
theorem fieldPart_error_iff (hr : r.IsBuilt) (hm : r.model? m.name = some m) {f : Field} (hf : f ∈ m.fields) :
    (∃ e, fieldPart r members table f = .error e) ↔
      ∃ ref, f = .reference ref ∧ ∃ target, r.model? ref.target = some target ∧ IsKeyEndless r target := by
  cases f with
  | plain c => exact ⟨nofun, nofun⟩
  | reference ref =>
    obtain ⟨target, htarget⟩ := hr.target hm hf rfl
    have hname := Registry.name_of_model? htarget
    rw [fieldPart, Outcome.map_error_iff, ← hname, keyTypeOf_error_iff hr (hname ▸ htarget)]
    simp [htarget]
  | inverse i => exact ⟨nofun, nofun⟩
  | links l => exact ⟨nofun, nofun⟩

/-- The key of a model is one of its fields, and has a type when the field contributes. -/
theorem keyFieldType_error {f : Field} (hkey : f.isPrimaryKey = true) {e : Failure} (h : keyFieldType r table f = .error e) :
    ∃ e, fieldPart r members table f = .error e := by
  cases f with
  | plain c => cases h
  | reference ref => exact Outcome.map_error_iff.2 ⟨e, h⟩
  | inverse i => cases hkey
  | links l => cases hkey

/-- A unit is generated unless a reference of the model leads to a model whose key is endless. -/
theorem modelUnit_error_iff (hr : r.IsBuilt) (hm : r.model? m.name = some m) :
    (∃ e, modelUnit r members table m = .error e) ↔ HasEndlessReference r m := by
  obtain ⟨key, hmem, hprimary, hkey, -⟩ := (hr.sound hm).keyColumn
  have hfields : (∃ e, m.fields.mapM (fieldPart r members table) = .error e) ↔ HasEndlessReference r m := by
    rw [Outcome.mapM_error_iff]
    constructor
    · rintro ⟨f, hf, herror⟩
      obtain ⟨ref, rfl, hendless⟩ := (fieldPart_error_iff hr hm hf).1 herror
      exact ⟨ref, hf, hendless⟩
    · rintro ⟨ref, hf, hendless⟩
      exact ⟨_, hf, (fieldPart_error_iff hr hm hf).2 ⟨ref, rfl, hendless⟩⟩
  rw [← hfields, modelUnit, Model.keyField, hkey]
  change (∃ e, (keyFieldType r table key >>= _) = Except.error e) ↔ _
  rw [Outcome.bind_error_iff]
  constructor
  · rintro (⟨e, he⟩ | ⟨keyType, -, herror⟩)
    · exact Outcome.mapM_error_iff.2 ⟨key, hmem, keyFieldType_error hprimary he⟩
    · rcases Outcome.bind_error_iff.1 herror with herror | ⟨parts, -, e, he⟩
      · exact herror
      · cases he
  · intro herror
    cases hkeyType : keyFieldType r table key with
    | error e => exact Or.inl ⟨e, rfl⟩
    | ok keyType => exact Or.inr ⟨keyType, rfl, Outcome.bind_error_iff.2 (Or.inl herror)⟩

/-- The units of a pool are generated unless that of one model is not. -/
theorem units_error_iff (hr : r.IsBuilt) :
    (∃ e, units r members table = .error e) ↔ ∃ m ∈ r.pool members, HasEndlessReference r m := by
  rw [units, Outcome.mapM_error_iff]
  refine exists_congr fun m => and_congr_right fun hm => ?_
  exact modelUnit_error_iff hr (hr.model?_of_mem (List.mem_of_mem_filter hm))

theorem pool_allMembers (r : Registry) : r.pool r.allMembers = r.models :=
  List.filter_eq_self.2 fun _ hm => List.contains_iff_mem.2 (List.mem_map_of_mem hm)

/-- The files of all models are made of their units. -/
theorem generate_all (r : Registry) (s : Settings) :
    Artifacts.generate r s none = (r.models.mapM (modelUnit r r.allMembers s.fieldTypes)).map .ofUnits := by
  rw [← pool_allMembers r]
  rfl

/-- The files of all models are generated unless one of the units is not. -/
theorem generate_all_ok_iff (s : Settings) :
    (∃ artifacts, Artifacts.generate r s none = .ok artifacts) ↔
      ¬∃ m ∈ r.models, ∃ e, modelUnit r r.allMembers s.fieldTypes m = .error e := by
  rw [generate_all, ← Outcome.mapM_error_iff]
  cases r.models.mapM (modelUnit r r.allMembers s.fieldTypes) <;> simp [Except.map]

end Client

/-! ## The check -/

namespace Finding

theorem check_of_ofColumn {table : Client.TypeTable} {m : Model} {c : Column} {f : Finding} (h : ofColumn table m c = some f) :
    f.check = "models.W001" := by
  unfold ofColumn at h
  split at h
  · split at h
    · cases h
      rfl
    · cases h
  · cases h

theorem check_of_mem_unusedTypes {r : Registry} {table : Client.TypeTable} {f : Finding} (h : f ∈ unusedTypes r table) :
    f.check = "settings.I001" := by
  obtain ⟨name, -, rfl⟩ := List.mem_map.1 h
  rfl

theorem check_of_mem_ofPageSizes {s : Settings} {f : Finding} (h : f ∈ ofPageSizes s) :
    f.check = "settings.E001" ∨ f.check = "settings.W001" := by
  rcases List.mem_append.1 h with h | h
  · split at h
    · cases List.mem_singleton.1 h
      exact Or.inl rfl
    · cases h
  · split at h
    · split at h
      · cases List.mem_singleton.1 h
        exact Or.inr rfl
      · cases h
    · cases h

/-- The check for models finds those for which nothing can be generated. -/
theorem ofGeneration_eq_some_iff {r : Registry} {table : Client.TypeTable} {m : Model} {f : Finding} :
    ofGeneration r table m = some f ↔ ∃ e, Client.modelUnit r r.allMembers table m = .error e ∧ f = .notGenerated m.name e := by
  unfold ofGeneration
  cases Client.modelUnit r r.allMembers table m <;> simp [eq_comm]

end Finding

/-- Each finding is made by one of the checks. -/
theorem mem_findings_iff {r : Registry} {s : Settings} {f : Finding} :
    f ∈ r.findings s ↔ (∃ m ∈ r.models, Finding.ofGeneration r s.fieldTypes m = some f) ∨
      (∃ m ∈ r.models, ∃ c ∈ m.columns, Finding.ofColumn s.fieldTypes m c = some f) ∨
      f ∈ Finding.unusedTypes r s.fieldTypes ∨ f ∈ Finding.ofPageSizes s := by
  simp only [Registry.findings, List.mem_append, List.mem_filterMap, List.mem_flatMap, or_assoc]

/-- The findings under `models.E001` are those about models for which nothing can be generated. -/
theorem mem_findings_notGenerated_iff {r : Registry} {s : Settings} {f : Finding} :
    f ∈ r.findings s ∧ f.check = "models.E001" ↔
      ∃ m ∈ r.models, ∃ e, Client.modelUnit r r.allMembers s.fieldTypes m = .error e ∧ f = .notGenerated m.name e := by
  simp only [mem_findings_iff, ← Finding.ofGeneration_eq_some_iff]
  constructor
  · rintro ⟨hfound | ⟨m, -, c, -, hfound⟩ | hfound | hfound, hcheck⟩
    · exact hfound
    -- the other checks find other things
    · simp [Finding.check_of_ofColumn hfound] at hcheck
    · simp [Finding.check_of_mem_unusedTypes hfound] at hcheck
    · rcases Finding.check_of_mem_ofPageSizes hfound with hother | hother <;> simp [hother] at hcheck
  · rintro ⟨m, hm, hfound⟩
    obtain ⟨e, -, rfl⟩ := Finding.ofGeneration_eq_some_iff.1 hfound
    exact ⟨Or.inl ⟨m, hm, hfound⟩, rfl⟩

namespace Client

/-- Keys, units, runs and the check tell apart the same models. The kind of a key is found exactly where a chain of references ends in a plain
key, and otherwise the references go on without end and a cycle is reported. A unit is not generated exactly when a reference of its model
leads to a model whose key is endless, whatever the pool and the types, and a pool is not generated exactly when this holds of one of its
models. The check finds exactly the models whose unit for the pool of all is not generated, with the reason, so it finds none exactly when
the files of all models are generated. -/
theorem generation_fails_iff_key_endless {r : Registry} (hr : r.IsBuilt) :
    (∀ m ∈ r.models, (∀ k, r.keyKind m.name = .ok k ↔ ∃ ms, KeyChain r m ms k) ∧
      ∀ e, r.keyKind m.name = .error e ↔ e = .keyCycle m.name ∧ IsKeyEndless r m) ∧
    (∀ members table, (∀ m ∈ r.models, (∃ e, modelUnit r members table m = .error e) ↔ HasEndlessReference r m) ∧
      ((∃ e, units r members table = .error e) ↔ ∃ m ∈ r.pool members, HasEndlessReference r m)) ∧
    ∀ s : Settings,
      (∀ f, f ∈ r.findings s ∧ f.check = "models.E001" ↔
        ∃ m ∈ r.models, ∃ e, modelUnit r r.allMembers s.fieldTypes m = .error e ∧ f = .notGenerated m.name e) ∧
      ((∀ f ∈ r.findings s, f.check ≠ "models.E001") ↔ ∃ artifacts, Artifacts.generate r s none = .ok artifacts) := by
  refine ⟨fun m hm => ?_, fun members table => ⟨fun m hm => ?_, units_error_iff hr⟩, fun s => ⟨fun f => ?_, ?_⟩⟩
  · have hmodel := hr.model?_of_mem hm
    exact ⟨fun k => keyKind_eq_ok_iff hr hmodel, keyKind_eq_error_iff hr hmodel⟩
  · exact modelUnit_error_iff hr (hr.model?_of_mem hm)
  · exact mem_findings_notGenerated_iff
  · rw [generate_all_ok_iff]
    constructor
    · rintro hnone ⟨m, hm, e, he⟩
      obtain ⟨hfound, hcheck⟩ := mem_findings_notGenerated_iff.2 ⟨m, hm, e, he, rfl⟩
      exact hnone _ hfound hcheck
    · intro hnone f hfound hcheck
      obtain ⟨m, hm, e, he, -⟩ := mem_findings_notGenerated_iff.1 ⟨hfound, hcheck⟩
      exact hnone ⟨m, hm, e, he⟩

/-- A reference to the other of two models, which is the key. -/
def keyReference (name target inverseName : String) : Reference :=
  { name, target, oneToOne := true, primaryKey := true, inverseName := some inverseName }

def leftModel : Model where
  name := "Left"
  fields := [.reference (keyReference "right" "Right" "left_of"),
    .inverse { name := "right_of", source := "Right", field := "left", oneToOne := true }]

def rightModel : Model where
  name := "Right"
  fields := [.reference (keyReference "left" "Left" "right_of"),
    .inverse { name := "left_of", source := "Left", field := "right", oneToOne := true }]

def wholeModel : Model where
  name := "Whole"
  fields := [Model.implicitKey, .inverse { name := "part", source := "Part", field := "whole", oneToOne := true }]

def partModel : Model where
  name := "Part"
  fields := [.reference (keyReference "whole" "Whole" "part")]

/-- Two models whose keys refer to each other, and two of which one's key refers to the other. -/
def keyedRegistry : Registry where
  models := [leftModel, rightModel, wholeModel, partModel]

theorem keyedRegistry_isBuilt : keyedRegistry.IsBuilt :=
  ⟨[{ leftModel with fields := leftModel.fields.take 1 }, { rightModel with fields := rightModel.fields.take 1 }, { name := "Whole" },
    partModel], [], [], rfl⟩

/-- The keys of two models that refer to each other are endless, so the check finds both and nothing is generated for all models; the key of a
part is of the kind of that of the whole, and for these two models everything is generated. -/
theorem left_and_right_not_generated :
    keyedRegistry.IsBuilt ∧ IsKeyEndless keyedRegistry leftModel ∧ IsKeyEndless keyedRegistry rightModel ∧
      (∃ ms, KeyChain keyedRegistry partModel ms (.scalar .auto)) ∧ (∃ us, units keyedRegistry ["Part", "Whole"] [] = .ok us) ∧
      (∃ e, units keyedRegistry ["Left", "Part", "Whole"] [] = .error e) ∧
      (keyedRegistry.findings {}).map Finding.check = ["models.E001", "models.E001"] ∧
      ¬∃ artifacts, Artifacts.generate keyedRegistry {} none = .ok artifacts := by
  obtain ⟨hkeys, hunits, hchecks⟩ := generation_fails_iff_key_endless keyedRegistry_isBuilt
  have hleft := ((hkeys leftModel (by simp [keyedRegistry])).2 _).1 rfl
  have hright := ((hkeys rightModel (by simp [keyedRegistry])).2 _).1 rfl
  have hpart := ((hkeys partModel (by simp [keyedRegistry])).1 _).1 rfl
  have hendless : HasEndlessReference keyedRegistry leftModel :=
    ⟨keyReference "right" "Right" "left_of", by simp [leftModel], rightModel, rfl, hright.2⟩
  refine ⟨keyedRegistry_isBuilt, hleft.2, hright.2, hpart, ⟨_, rfl⟩, ?_, rfl, fun hgenerated => ?_⟩
  · exact (hunits _ []).2.2 ⟨leftModel, List.mem_filter.2 ⟨by simp [keyedRegistry], rfl⟩, hendless⟩
  · have hfound := ((hchecks {}).1 _).2 ⟨leftModel, by simp [keyedRegistry], .keyCycle "Right", rfl, rfl⟩
    exact (hchecks {}).2.2 hgenerated _ hfound.1 hfound.2

end Client

end ModelCatalog
