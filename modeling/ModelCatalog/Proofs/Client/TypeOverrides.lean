import ModelCatalog.Proofs.Client.Generation
import ModelCatalog.Proofs.Client.Units
import ModelCatalog.Proofs.Json.Dict

/-!
# Type overrides without use

The check reports a type override when it is for no kind and no serializer of a column. The type of an array is made from that of its elements,
though, and the arguments of methods have types as well, so a reported override may still be used. `unused_override_removable_iff` tells
when it can be deleted: when no array of a column and no argument changes its type with it, which is so whenever no column and no argument
asks for its name.
-/

namespace ModelCatalog

/-- The names of a kind and of the kinds of its elements, at any depth. -/
def Kind.names : Kind → List String
  | .array base => (Kind.array base).name :: base.names
  | k => [k.name]

/-- All names under which a column or an argument asks for a type. -/
def Column.askedNames (c : Column) : List String := c.kind.names ++ c.serializer.toList

/-- All names under which the columns of a model and the arguments of its methods ask for types. -/
def Model.askedNames (m : Model) : List String :=
  m.columns.flatMap Column.askedNames ++ m.methods.flatMap fun method => method.args.flatMap Column.askedNames

theorem Kind.name_mem_names (k : Kind) : k.name ∈ k.names := by
  cases k <;> exact List.mem_cons_self

/-- Of a kind that is not an array only its own name is asked for. -/
theorem Kind.names_cases (k : Kind) : (∃ base, k = .array base) ∨ k.names = [k.name] := by
  cases k with
  | scalar s => exact Or.inr rfl
  | array base => exact Or.inl ⟨base, rfl⟩
  | custom name => exact Or.inr rfl

theorem Model.mem_columns {m : Model} {c : Column} : c ∈ m.columns ↔ Field.plain c ∈ m.fields := by
  rw [Model.columns, List.mem_filterMap]
  constructor
  · rintro ⟨f, hf, hc⟩
    cases f <;> simp_all
  · intro hc
    exact ⟨_, hc, rfl⟩

theorem Model.mem_references {m : Model} {ref : Reference} : ref ∈ m.references ↔ Field.reference ref ∈ m.fields := by
  rw [Model.references, List.mem_filterMap]
  constructor
  · rintro ⟨f, hf, href⟩
    cases f <;> simp_all
  · intro href
    exact ⟨_, href, rfl⟩

/-- The kind of a key is that of a column. -/
theorem KeyChain.exists_column {r : Registry} {m : Model} {ms : List Model} {k : Kind} (h : KeyChain r m ms k) (hm : m ∈ r.models) :
    ∃ m' ∈ r.models, ∃ c ∈ m'.columns, c.kind = k := by
  induction h with
  | @plain m c hkey => exact ⟨m, hm, c, Model.mem_columns.2 (List.mem_of_find?_eq_some hkey), rfl⟩
  | refers hrefers hrest ih => exact ih (Registry.mem_of_model? hrefers.model?_target)

namespace Client

variable {r : Registry} {members : Registry.Members} {table table' : TypeTable} {m : Model} {c : Column}

/-! ## Names asked for -/

/-- Two tables have the same overrides for some names. -/
def Agree (names : List String) (table table' : TypeTable) : Prop := ∀ name ∈ names, table'.get? name = table.get? name

theorem Agree.mono {names names' : List String} (h : Agree names table table') (hsub : names' ⊆ names) : Agree names' table table' :=
  fun name hname => h name (hsub hname)

/-- Deleting an override keeps those for other names. -/
theorem agree_erase {names : List String} {name : String} (h : name ∉ names) : Agree names table (table.erase name) := by
  intro name' hname'
  have hne : name' ≠ name := ne_of_mem_of_not_mem hname' h
  rw [Dict.erase, Dict.get?_filter table (fun key => key ≠ name), if_pos (by simpa using hne)]

/-- The type of a kind is made from the overrides for its names. -/
theorem kindType_congr {k : Kind} (h : Agree k.names table table') : table'.kindType k = table.kindType k := by
  induction k with
  | scalar s => rw [TypeTable.kindType, TypeTable.kindType, h s.name List.mem_cons_self]
  | array base ih =>
    rw [TypeTable.kindType, TypeTable.kindType, h _ (Kind.name_mem_names _), ih (h.mono (List.subset_cons_self _ _))]
  | custom name => rw [TypeTable.kindType, TypeTable.kindType, h name List.mem_cons_self]

theorem valueType_congr (h : Agree c.askedNames table table') : table'.valueType c.kind c.serializer = table.valueType c.kind c.serializer := by
  have hkind := kindType_congr (h.mono (List.subset_append_left _ _))
  rw [TypeTable.valueType, TypeTable.valueType, hkind]
  cases hserializer : c.serializer with
  | none => rfl
  | some name =>
    have hname := h name (List.mem_append_right _ (by simp [hserializer]))
    rw [Option.bind_some, Option.bind_some, hname]

theorem exposedType_congr (h : Agree c.askedNames table table') : exposedType table' c = exposedType table c := by
  rw [exposedType, exposedType, TypeTable.columnType, TypeTable.columnType, valueType_congr h]

/-! ## Types of a model -/

/-- Two tables give the same types to the columns of a model, to the keys that its references hold and to the arguments of its methods. -/
structure TypesAgree (r : Registry) (table table' : TypeTable) (m : Model) : Prop where
  columns : ∀ c ∈ m.columns, exposedType table' c = exposedType table c
  references : ∀ ref ∈ m.references, keyTypeOf r table' ref.target = keyTypeOf r table ref.target
  arguments : ∀ method ∈ m.methods, ∀ arg ∈ method.args, exposedType table' arg = exposedType table arg

/-- Arrays are compared as a whole, so all lookups of an array follow from its type. -/
theorem lookupType_array {base : Kind} (hkind : c.kind = .array base) (hexposed : exposedType table' c = exposedType table c)
    {op : Operator} (hop : op ∈ operatorsFor c.kind c.null) : lookupType table' c (some op) = lookupType table c (some op) := by
  have hoperator : op = .exact ∨ op = .isNull := by
    rw [hkind] at hop
    rcases hnull : c.null with _ | _ <;>
      simp_all [operatorsFor, isListable, partOperators, Kind.isText, Kind.isOrdered, Kind.classOf]
  rcases hoperator with rfl | rfl
  · rw [lookupType, lookupType]
    split
    · rw [hexposed]
    · rename_i hkeeps
      have hchoices : c.choices = [] := by simpa [keepsValues] using hkeeps
      simpa [exposedType, hchoices, TypeTable.columnType, operandType, Operator.isText] using hexposed
  · simp [lookupType, keepsValues, TypeTable.columnType, operandType]

/-- A column contributes the same when it has the same type and its lookups have. -/
theorem columnPart_congr (hexposed : exposedType table' c = exposedType table c)
    (hlookups : ∀ op ∈ operatorsFor c.kind c.null, lookupType table' c (some op) = lookupType table c (some op)) :
    columnPart members table' c = columnPart members table c := by
  rw [columnPart, columnPart, hexposed]
  congr 1
  refine List.map_congr_left fun e he => ?_
  rcases List.mem_cons.1 he with rfl | he
  · rw [lookupType, lookupType, hexposed]
  · obtain ⟨op, hop, rfl⟩ := List.mem_map.1 he
    rw [hlookups op hop]

/-- Where the names of a column and its serializer have the same overrides, it contributes the same if it has the same type. -/
theorem columnPart_eq_of_exposedType (hnames : Agree (Finding.typeNames c) table table') (hexposed : exposedType table' c = exposedType table c) :
    columnPart members table' c = columnPart members table c := by
  refine columnPart_congr hexposed fun op hop => ?_
  rcases c.kind.names_cases with ⟨base, hkind⟩ | hkind
  · exact lookupType_array hkind hexposed hop
  · have hasked : c.askedNames = Finding.typeNames c := by rw [Column.askedNames, hkind]; rfl
    have hvalue := valueType_congr (hasked ▸ hnames)
    rw [lookupType, lookupType, hexposed, TypeTable.columnType, TypeTable.columnType, hvalue]

/-! ## Units under two tables -/

/-- The overrides for the names of columns and their serializers are the same. -/
def ColumnsAgree (r : Registry) (table table' : TypeTable) : Prop :=
  ∀ m ∈ r.models, ∀ c ∈ m.columns, Agree (Finding.typeNames c) table table'

theorem fieldPart_congr (hm : m ∈ r.models) (hnames : ColumnsAgree r table table') (htypes : TypesAgree r table table' m) {f : Field}
    (hf : f ∈ m.fields) : fieldPart r members table' f = fieldPart r members table f := by
  cases f with
  | plain c =>
    have hc := Model.mem_columns.2 hf
    rw [fieldPart, fieldPart, columnPart_eq_of_exposedType (hnames m hm c hc) (htypes.columns c hc)]
  | reference ref => rw [fieldPart, fieldPart, htypes.references ref (Model.mem_references.2 hf)]
  | inverse i => rfl
  | links l => rfl

theorem keyFieldType_congr (htypes : TypesAgree r table table' m) {f : Field} (hf : f ∈ m.fields) :
    keyFieldType r table' f = keyFieldType r table f := by
  cases f with
  | plain c => rw [keyFieldType, keyFieldType, htypes.columns c (Model.mem_columns.2 hf)]
  | reference ref => exact htypes.references ref (Model.mem_references.2 hf)
  | inverse i => rfl
  | links l => rfl

theorem signature_eq_iff {method : Method} :
    signature table' method = signature table method ↔ ∀ arg ∈ method.args, exposedType table' arg = exposedType table arg := by
  simp [signature, List.map_inj_left]

/-- The same types make the same unit, or the same failure. -/
theorem modelUnit_congr (hm : m ∈ r.models) (hnames : ColumnsAgree r table table') (htypes : TypesAgree r table table' m) :
    modelUnit r members table' m = modelUnit r members table m := by
  have hparts : m.fields.mapM (fieldPart r members table') = m.fields.mapM (fieldPart r members table) :=
    Outcome.mapM_congr fun f hf => fieldPart_congr hm hnames htypes hf
  have hmethods : m.methods.map (signature table') = m.methods.map (signature table) :=
    List.map_congr_left fun method hmethod => signature_eq_iff.2 (htypes.arguments method hmethod)
  rw [modelUnit, modelUnit, Model.keyField]
  cases hkey : m.keyField? with
  | none => rfl
  | some f =>
    have htype := keyFieldType_congr htypes (List.mem_of_find?_eq_some hkey)
    simp only [hparts, hmethods]
    change keyFieldType r table' f >>= _ = keyFieldType r table f >>= _
    rw [htype]

/-- A field has as many members in the interface whatever the types. -/
theorem length_interface_of_fieldPart {f : Field} {p p' : Part} (hp : fieldPart r members table f = .ok p)
    (hp' : fieldPart r members table' f = .ok p') : p'.interface.length = p.interface.length := by
  cases f with
  | plain c =>
    cases hp
    cases hp'
    rfl
  | reference ref =>
    obtain ⟨type, -, rfl⟩ := Outcome.map_ok_iff.1 hp
    obtain ⟨type', -, rfl⟩ := Outcome.map_ok_iff.1 hp'
    rw [interface_referencePart, interface_referencePart]
    rfl
  | inverse i => rw [Except.ok.inj (hp'.symm.trans hp)]
  | links l => rw [Except.ok.inj (hp'.symm.trans hp)]

/-- Members of interfaces that agree one after another agree field by field. -/
theorem interface_eq_of_flatMap_eq {fields : List Field} {parts parts' : List Part}
    (hparts : List.Forall₂ (fun f p => fieldPart r members table f = .ok p) fields parts)
    (hparts' : List.Forall₂ (fun f p => fieldPart r members table' f = .ok p) fields parts')
    (heq : parts'.flatMap Part.interface = parts.flatMap Part.interface) :
    ∀ f ∈ fields, ∃ p p', fieldPart r members table f = .ok p ∧ fieldPart r members table' f = .ok p' ∧ p'.interface = p.interface := by
  induction hparts generalizing parts' with
  | nil => exact nofun
  | cons hp hrest ih =>
    cases hparts' with
    | cons hp' hrest' =>
      obtain ⟨hfirst, heq⟩ := List.append_inj heq (length_interface_of_fieldPart hp hp')
      exact List.forall_mem_cons.2 ⟨⟨_, _, hp, hp', hfirst⟩, ih hrest' heq⟩

/-- The types of a model can be read off its unit. -/
theorem typesAgree_of_modelUnit {u : ModelUnit} (hu : modelUnit r members table m = .ok u) (hu' : modelUnit r members table' m = .ok u) :
    TypesAgree r table table' m := by
  obtain ⟨-, parts, hparts, hjoin⟩ := modelUnit_ok hu
  obtain ⟨-, parts', hparts', hjoin'⟩ := modelUnit_ok hu'
  have hinterface : parts'.flatMap Part.interface = parts.flatMap Part.interface := by
    have heq := congrArg Part.interface (hjoin'.symm.trans hjoin)
    rw [get_joinParts Part.interface rfl fun _ _ => rfl, get_joinParts Part.interface rfl fun _ _ => rfl, List.flatMap_append,
      List.flatMap_append] at heq
    exact List.append_cancel_right heq
  have hfields := interface_eq_of_flatMap_eq (Outcome.mapM_ok hparts) (Outcome.mapM_ok hparts') hinterface
  refine ⟨fun c hc => ?_, fun ref href => ?_, ?_⟩
  · obtain ⟨p, p', hp, hp', heq⟩ := hfields _ (Model.mem_columns.1 hc)
    cases hp
    cases hp'
    simpa [columnPart] using heq
  · obtain ⟨p, p', hp, hp', heq⟩ := hfields _ (Model.mem_references.1 href)
    obtain ⟨type, htype, rfl⟩ := Outcome.map_ok_iff.1 hp
    obtain ⟨type', htype', rfl⟩ := Outcome.map_ok_iff.1 hp'
    rw [interface_referencePart, interface_referencePart] at heq
    rw [htype, htype']
    simpa [keyMember] using heq
  · have hmethods := (methods_of_modelUnit hu').symm.trans (methods_of_modelUnit hu)
    exact fun method hmethod => signature_eq_iff.1 (List.map_inj_left.1 hmethods method hmethod)

/-! ## Deleting an override -/

/-- An override is reported when it is given and no column has its name for a kind or a serializer. -/
theorem mem_findings_unusedType_iff {s : Settings} {name : String} :
    .unusedType name ∈ r.findings s ↔
      name ∈ s.fieldTypes.keys ∧ ∀ m ∈ r.models, ∀ c ∈ m.columns, name ∉ Finding.typeNames c := by
  have hchecked : .unusedType name ∈ r.findings s ↔ .unusedType name ∈ Finding.unusedTypes r s.fieldTypes := by
    rw [mem_findings_iff]
    refine ⟨?_, fun hfound => Or.inr (Or.inr (Or.inl hfound))⟩
    rintro (⟨m, -, hfound⟩ | ⟨m, -, c, -, hfound⟩ | hfound | hfound)
    · obtain ⟨e, -, he⟩ := Finding.ofGeneration_eq_some_iff.1 hfound
      cases he
    · simpa [Finding.check] using Finding.check_of_ofColumn hfound
    · exact hfound
    · simpa [Finding.check] using Finding.check_of_mem_ofPageSizes hfound
  rw [hchecked, Finding.unusedTypes]
  simp

/-- The types that do not ask for a name stay without its override. -/
theorem typesAgree_erase (hr : r.IsBuilt) {name : String} (h : ∀ m ∈ r.models, name ∉ m.askedNames) (hm : m ∈ r.models) :
    TypesAgree r table (table.erase name) m := by
  have hcolumn : ∀ m ∈ r.models, ∀ c ∈ m.columns, Agree c.askedNames table (table.erase name) := fun m hm c hc =>
    agree_erase fun hname => h m hm (List.mem_append_left _ (List.mem_flatMap.2 ⟨c, hc, hname⟩))
  refine ⟨fun c hc => exposedType_congr (hcolumn m hm c hc), fun ref href => ?_, fun method hmethod arg harg => exposedType_congr ?_⟩
  · obtain ⟨target, htarget⟩ := hr.target (hr.model?_of_mem hm) (Model.mem_references.1 href) rfl
    have hname := Registry.name_of_model? htarget
    rw [← hname] at htarget ⊢
    rw [keyTypeOf, keyTypeOf]
    rcases keyKind_cases hr htarget with ⟨ms, k, hchain, hkind⟩ | ⟨-, hkind⟩
    · obtain ⟨m', hm', c, hc, rfl⟩ := hchain.exists_column (Registry.mem_of_model? htarget)
      have hkey := kindType_congr ((hcolumn m' hm' c hc).mono (List.subset_append_left _ _))
      rw [hkind]
      exact congrArg Except.ok hkey
    · rw [hkind]
      rfl
  · exact agree_erase fun hname => h m hm (List.mem_append_right _
      (List.mem_flatMap.2 ⟨method, hmethod, List.mem_flatMap.2 ⟨arg, harg, hname⟩⟩))

/-- A reported override can be deleted exactly when no column, no key that a reference holds and no argument changes its type with it. The
files for all models then stay as they are, and otherwise one of the units changes. No type changes where no column and no argument asks for
the name, be it for the elements of an array. -/
theorem unused_override_removable_iff (hr : r.IsBuilt) {s : Settings} {name : String} (hunused : .unusedType name ∈ r.findings s) :
    ((∀ m ∈ r.models, TypesAgree r s.fieldTypes (s.fieldTypes.erase name) m) →
        Artifacts.generate r { s with fieldTypes := s.fieldTypes.erase name } none = Artifacts.generate r s none) ∧
      (∀ us, units r r.allMembers s.fieldTypes = .ok us → (units r r.allMembers (s.fieldTypes.erase name) = .ok us ↔
        ∀ m ∈ r.models, TypesAgree r s.fieldTypes (s.fieldTypes.erase name) m)) ∧
      ((∀ m ∈ r.models, name ∉ m.askedNames) → ∀ m ∈ r.models, TypesAgree r s.fieldTypes (s.fieldTypes.erase name) m) := by
  have hcolumns : ColumnsAgree r s.fieldTypes (s.fieldTypes.erase name) := fun m hm c hc =>
    agree_erase ((mem_findings_unusedType_iff.1 hunused).2 m hm c hc)
  refine ⟨fun htypes => ?_, fun us hus => ?_, fun hasked m hm => typesAgree_erase hr hasked hm⟩
  · have hunits : r.models.mapM (modelUnit r r.allMembers (s.fieldTypes.erase name)) =
        r.models.mapM (modelUnit r r.allMembers s.fieldTypes) :=
      Outcome.mapM_congr fun m hm => modelUnit_congr hm hcolumns (htypes m hm)
    rw [generate_all, generate_all, hunits]
  · rw [units, pool_allMembers] at hus ⊢
    rw [Outcome.mapM_eq_ok_iff hus]
    refine forall₂_congr fun m hm => ⟨fun heq => ?_, modelUnit_congr hm hcolumns⟩
    obtain ⟨u, -, hu⟩ := Outcome.exists_of_mapM_ok hus hm
    exact typesAgree_of_modelUnit hu (heq.trans hu)

/-- A model with an array of days and a method that takes a day. -/
def diaryModel : Model where
  name := "Diary"
  fields := [Model.implicitKey, .plain { name := "holidays", kind := .array (.scalar .date) }]
  methods := [{ name := "since", args := [{ name := "day", kind := .scalar .date }] }]

def diaryRegistry : Registry where
  models := [diaryModel]

/-- Types for two kinds that no column has. -/
def diarySettings : Settings where
  fieldTypes := [("DateField", "Day"), ("UrlField", "Link")]

/-- Both types are reported. That of links can be deleted, but days are elements of an array and an argument, so the files change without
their type. -/
theorem type_of_days_used :
    diaryRegistry.IsBuilt ∧ .unusedType "DateField" ∈ diaryRegistry.findings diarySettings ∧
      .unusedType "UrlField" ∈ diaryRegistry.findings diarySettings ∧
      Artifacts.generate diaryRegistry { diarySettings with fieldTypes := [("DateField", "Day")] } none =
        Artifacts.generate diaryRegistry diarySettings none ∧
      ¬(∀ us, units diaryRegistry diaryRegistry.allMembers diarySettings.fieldTypes = .ok us →
        units diaryRegistry diaryRegistry.allMembers [("UrlField", "Link")] = .ok us) ∧
      Artifacts.generate diaryRegistry { diarySettings with fieldTypes := [("UrlField", "Link")] } none ≠
        Artifacts.generate diaryRegistry diarySettings none := by
  have hr : diaryRegistry.IsBuilt := ⟨[{ diaryModel with fields := diaryModel.fields.tail }], [], [], rfl⟩
  have hdays : .unusedType "DateField" ∈ diaryRegistry.findings diarySettings :=
    mem_findings_unusedType_iff.2 ⟨by decide, by decide⟩
  have hlinks : .unusedType "UrlField" ∈ diaryRegistry.findings diarySettings :=
    mem_findings_unusedType_iff.2 ⟨by decide, by decide⟩
  refine ⟨hr, hdays, hlinks, ?_, ?_, ?_⟩
  · obtain ⟨hfiles, -, htypes⟩ := unused_override_removable_iff hr hlinks
    exact hfiles (htypes (by decide))
  · intro hsame
    have htypes := ((unused_override_removable_iff hr hdays).2.1 _ rfl).1 (hsame _ rfl) diaryModel (by simp [diaryRegistry])
    exact absurd (htypes.arguments _ List.mem_cons_self _ List.mem_cons_self) (by decide)
  · intro hsame
    have hmodule := congrArg (fun files => files.toOption.map Artifacts.module) hsame
    exact absurd hmodule (by decide +kernel)

end Client

end ModelCatalog
