import ModelCatalog.Client.Unit
import ModelCatalog.Proofs.Schema.Built

/-!
# What generated units mention

A unit mentions other models because of the relations of its model. `Contributes` says what each kind of field contributes to a unit,
`Mentions` what a unit is made of, for a notion of where relations end. The names that the units of a pool mention are those of units of
the pool, and lists of links contribute to none (`units_mention_units`).
-/

namespace ModelCatalog

namespace Field

/-- Whether the field is a list of links. -/
def isLinks : Field → Bool
  | links _ => true
  | _ => false

/-- Whether the relation leads to one row at most. -/
def givesOne : Field → Bool
  | reference _ => true
  | inverse i => i.oneToOne
  | _ => false

/-- The model at the other end of a relation that clients follow. -/
def clientTarget? : Field → Option String
  | reference r => some r.target
  | inverse i => some i.source
  | _ => none

theorem related?_of_clientTarget? {f : Field} {target : String} (h : f.clientTarget? = some target) :
    f.related? = some target := by
  cases f with
  | plain c => cases h
  | reference ref => exact h
  | inverse i => exact h
  | links l => cases h

end Field

/-- The model without its lists of links. -/
def Model.withoutLinks (m : Model) : Model := { m with fields := m.fields.filter (!·.isLinks) }

namespace Registry

/-- A pool has a model of the name. -/
def IsPooled (r : Registry) (members : Members) (name : String) : Prop := name ∈ (r.pool members).map Model.name

/-- The registry with no lists of links. -/
def withoutLinks (r : Registry) : Registry := { r with models := r.models.map Model.withoutLinks }

end Registry

namespace Client

/-- The member of a model interface for a relation. -/
def relationMember (f : Field) (related : Names) : Declaration := { name := f.name, type := related.model, optional := true }

/-- The lookup of a relation, by lookups of the related model. -/
def relationLookup (f : Field) (related : Names) : Declaration := { name := f.name, type := related.lookups, optional := true }

/-- The member of a field interface for the primary key that a reference holds. -/
def keyMember (ref : Reference) (type : String) : Declaration :=
  { name := ref.column, type, optional := ref.null, readOnly := ref.readOnly }

/-- The lookup of a reference by the primary key that it holds. -/
def keyLookup (ref : Reference) (type : String) : Declaration := { name := ref.column, type, optional := true }

/-- The accessor of an inverse relation. -/
def inverseAccessor (i : Inverse) (related : Names) : Accessor :=
  { name := i.name, querySet := related.querySet, lookups := related.lookups, field := i.field }

/-- The schema entry of a column, which mentions no model. -/
def columnEntry (c : Column) : SchemaEntry :=
  { fieldName := c.name, fieldType := c.kind.name, nullable := c.null, readOnly := c.readOnly, choices := c.choices }

/-- The schema entry of a reference. -/
def referenceEntry (ref : Reference) (related : Names) : SchemaEntry where
  fieldName := ref.column
  fieldType := if ref.oneToOne then "OneToOneField" else "ForeignKey"
  nullable := ref.null
  readOnly := ref.readOnly
  related := some related.model

/-- What a unit is made of, when `ends f n` says that the relation `f` ends at the model of the names `n`. -/
structure Mentions (r : Registry) (members : Registry.Members) (table : TypeTable) (ends : Field → Names → Prop) (m : Model)
    (u : ModelUnit) : Prop where
  names : u.names = Names.ofModel m.name
  interface : ∀ d, d ∈ u.interface ↔
    (∃ f ∈ m.fields, (∃ c, f = .plain c ∧ d ∈ (columnPart members table c).interface) ∨
      ∃ ref type, f = .reference ref ∧ keyTypeOf r table ref.target = .ok type ∧ d = keyMember ref type) ∨
    ∃ name ∈ m.properties, d ∈ (propertyPart name).interface
  relations : ∀ d, d ∈ u.relations ↔ ∃ f ∈ m.fields, f.givesOne = true ∧ ∃ n, ends f n ∧ d = relationMember f n
  lookups : ∀ d, d ∈ u.lookups ↔ ∃ f ∈ m.fields, (∃ c, f = .plain c ∧ d ∈ (columnPart members table c).lookups) ∨
    ∃ n, ends f n ∧ (d = relationLookup f n ∨
      ∃ ref type, f = .reference ref ∧ keyTypeOf r table ref.target = .ok type ∧ d = keyLookup ref type)
  prefetchKeys : ∀ key, key ∈ u.prefetchKeys ↔
    (∃ f ∈ m.fields, f.givesOne = true ∧ ∃ n, ends f n ∧ key = relationPrefetchKey f.name n) ∨
    ∃ name ∈ m.properties, key = quote name
  accessors : ∀ a, a ∈ u.accessors ↔
    ∃ f ∈ m.fields, ∃ i, f = .inverse i ∧ i.oneToOne = false ∧ ∃ n, ends f n ∧ a = inverseAccessor i n
  schema : ∀ e, e ∈ u.schema ↔ ∃ f ∈ m.fields, (∃ c, f = .plain c ∧ e = columnEntry c) ∨
    ∃ ref, f = .reference ref ∧ ∃ n, ends f n ∧ e = referenceEntry ref n

/-- The relation ends at a model of the pool. -/
def EndsInPool (r : Registry) (members : Registry.Members) (f : Field) (n : Names) : Prop :=
  ∃ target, f.clientTarget? = some target ∧ r.IsPooled members target ∧ n = Names.ofModel target

/-- The relation ends at the model of one of some units. -/
def EndsAmong (us : List ModelUnit) (f : Field) (n : Names) : Prop := f.clientTarget? = some n.model ∧ ∃ u ∈ us, u.names = n

variable {r : Registry} {members : Registry.Members} {table : TypeTable}

/-! ## What a field contributes -/

/-- What the fields of each kind contribute. -/
inductive Contributes (r : Registry) (members : Registry.Members) (table : TypeTable) : Field → Part → Prop where
  | column (c : Column) : Contributes r members table (.plain c) (columnPart members table c)
  | reference {ref : Reference} {type : String} (htype : keyTypeOf r table ref.target = .ok type) (hin : r.IsPooled members ref.target) :
      Contributes r members table (.reference ref)
        { interface := [keyMember ref type]
          lookups := [keyLookup ref type, relationLookup (.reference ref) (Names.ofModel ref.target)]
          relations := [relationMember (.reference ref) (Names.ofModel ref.target)]
          prefetchKeys := [relationPrefetchKey ref.name (Names.ofModel ref.target)]
          schema := [referenceEntry ref (Names.ofModel ref.target)] }
  | referenceOut {ref : Reference} {type : String} (htype : keyTypeOf r table ref.target = .ok type)
      (hout : ¬r.IsPooled members ref.target) : Contributes r members table (.reference ref) { interface := [keyMember ref type] }
  | inverseOne {i : Inverse} (hin : r.IsPooled members i.source) (hone : i.oneToOne = true) :
      Contributes r members table (.inverse i)
        { lookups := [relationLookup (.inverse i) (Names.ofModel i.source)]
          relations := [relationMember (.inverse i) (Names.ofModel i.source)]
          prefetchKeys := [relationPrefetchKey i.name (Names.ofModel i.source)] }
  | inverseMany {i : Inverse} (hin : r.IsPooled members i.source) (hmany : i.oneToOne = false) :
      Contributes r members table (.inverse i)
        { lookups := [relationLookup (.inverse i) (Names.ofModel i.source)]
          accessors := [inverseAccessor i (Names.ofModel i.source)] }
  | inverseOut {i : Inverse} (hout : ¬r.IsPooled members i.source) : Contributes r members table (.inverse i) {}
  | links (l : Links) : Contributes r members table (.links l) {}

/-- Of the names that relations lead to, a pool has models for those that are among its members. -/
theorem isPooled_iff (hr : r.IsBuilt) {m : Model} (hm : m ∈ r.pool members) {f : Field} (hf : f ∈ m.fields) {target : String}
    (htarget : f.clientTarget? = some target) : r.IsPooled members target ↔ target ∈ members := by
  constructor
  · intro h
    obtain ⟨m', hm', rfl⟩ := List.mem_map.1 h
    simpa using List.of_mem_filter hm'
  · intro h
    have hmodel := hr.model?_of_mem (List.mem_of_mem_filter hm)
    obtain ⟨m', hm'⟩ := hr.target hmodel hf (Field.related?_of_clientTarget? htarget)
    obtain rfl := Registry.name_of_model? hm'
    exact List.mem_map_of_mem (List.mem_filter.2 ⟨Registry.mem_of_model? hm', by simpa using h⟩)

/-- A relation has one lookup entry, when it leads to a member of the pool. -/
theorem lookupEntries_of_clientTarget? {f : Field} {target : String} (htarget : f.clientTarget? = some target) :
    lookupEntries members f = if target ∈ members then [{ key := f.name, field := f.name, related := some target }] else [] := by
  cases f with
  | plain c => cases htarget
  | reference ref =>
    cases htarget
    simp only [lookupEntries, List.contains_iff_mem, Field.name]
  | inverse i =>
    cases htarget
    simp only [lookupEntries, List.contains_iff_mem, Field.name]
  | links l => cases htarget

/-- A reference has one member in the interface, wherever it leads. -/
theorem interface_referencePart (members : Registry.Members) (type : String) (ref : Reference) :
    (referencePart members type ref).interface = [keyMember ref type] := by
  unfold referencePart
  split <;> rfl

theorem interface_inversePart (members : Registry.Members) (i : Inverse) : (inversePart members i).interface = [] := by
  unfold inversePart
  split
  · rfl
  · split <;> rfl

/-- What a field of a model of the pool contributes. -/
theorem contributes_of_fieldPart (hr : r.IsBuilt) {m : Model} (hm : m ∈ r.pool members) {f : Field} (hf : f ∈ m.fields) {p : Part}
    (h : fieldPart r members table f = .ok p) : Contributes r members table f p := by
  cases f with
  | plain c =>
    cases h
    exact .column c
  | reference ref =>
    obtain ⟨type, htype, rfl⟩ := Outcome.map_ok_iff.1 h
    have hpooled : r.IsPooled members ref.target ↔ ref.target ∈ members := isPooled_iff hr hm hf rfl
    rw [referencePart, lookupEntries_of_clientTarget? rfl]
    by_cases hin : ref.target ∈ members
    · rw [if_pos hin]
      exact .reference htype (hpooled.2 hin)
    · rw [if_neg hin]
      exact .referenceOut htype (mt hpooled.1 hin)
  | inverse i =>
    cases h
    have hpooled : r.IsPooled members i.source ↔ i.source ∈ members := isPooled_iff hr hm hf rfl
    rw [inversePart, lookupEntries_of_clientTarget? rfl]
    by_cases hin : i.source ∈ members
    · rw [if_pos hin]
      cases hone : i.oneToOne with
      | false => exact .inverseMany (hpooled.2 hin) hone
      | true => exact .inverseOne (hpooled.2 hin) hone
    · rw [if_neg hin]
      exact .inverseOut (mt hpooled.1 hin)
  | links l =>
    cases h
    exact .links l

section

variable {f : Field} {p : Part}

@[simp]
theorem endsInPool_reference {ref : Reference} {n : Names} :
    EndsInPool r members (.reference ref) n ↔ r.IsPooled members ref.target ∧ n = Names.ofModel ref.target := by
  simp [EndsInPool, Field.clientTarget?]

@[simp]
theorem endsInPool_inverse {i : Inverse} {n : Names} :
    EndsInPool r members (.inverse i) n ↔ r.IsPooled members i.source ∧ n = Names.ofModel i.source := by
  simp [EndsInPool, Field.clientTarget?]

@[simp]
theorem not_endsInPool_links {l : Links} {n : Names} : ¬EndsInPool r members (.links l) n := by
  simp [EndsInPool, Field.clientTarget?]

@[simp]
theorem not_endsInPool_plain {c : Column} {n : Names} : ¬EndsInPool r members (.plain c) n := by
  simp [EndsInPool, Field.clientTarget?]

theorem mem_interface_of_contributes (h : Contributes r members table f p) (d : Declaration) :
    d ∈ p.interface ↔ (∃ c, f = .plain c ∧ d ∈ (columnPart members table c).interface) ∨
      ∃ ref type, f = .reference ref ∧ keyTypeOf r table ref.target = .ok type ∧ d = keyMember ref type := by
  cases h with
  | column c => simp
  | reference htype hin => simp [htype]
  | referenceOut htype hout => simp [htype]
  | inverseOne hin hone => simp
  | inverseMany hin hmany => simp
  | inverseOut hout => simp
  | links l => simp

theorem mem_relations_of_contributes (h : Contributes r members table f p) (d : Declaration) :
    d ∈ p.relations ↔ f.givesOne = true ∧ ∃ n, EndsInPool r members f n ∧ d = relationMember f n := by
  cases h with
  | column c => simp [columnPart]
  | reference htype hin => simp [Field.givesOne, hin]
  | referenceOut htype hout => simp [hout]
  | inverseOne hin hone => simp [Field.givesOne, hin, hone]
  | inverseMany hin hmany => simp [Field.givesOne, hmany]
  | inverseOut hout => simp [hout]
  | links l => simp

theorem mem_lookups_of_contributes (h : Contributes r members table f p) (d : Declaration) :
    d ∈ p.lookups ↔ (∃ c, f = .plain c ∧ d ∈ (columnPart members table c).lookups) ∨
      ∃ n, EndsInPool r members f n ∧ (d = relationLookup f n ∨
        ∃ ref type, f = .reference ref ∧ keyTypeOf r table ref.target = .ok type ∧ d = keyLookup ref type) := by
  cases h with
  | column c => simp
  | reference htype hin => simp [hin, htype, or_comm]
  | referenceOut htype hout => simp [hout]
  | inverseOne hin hone => simp [hin]
  | inverseMany hin hmany => simp [hin]
  | inverseOut hout => simp [hout]
  | links l => simp

theorem mem_prefetchKeys_of_contributes (h : Contributes r members table f p) (key : String) :
    key ∈ p.prefetchKeys ↔ f.givesOne = true ∧ ∃ n, EndsInPool r members f n ∧ key = relationPrefetchKey f.name n := by
  cases h with
  | column c => simp [columnPart]
  | reference htype hin => simp [Field.givesOne, Field.name, hin]
  | referenceOut htype hout => simp [hout]
  | inverseOne hin hone => simp [Field.givesOne, Field.name, hin, hone]
  | inverseMany hin hmany => simp [Field.givesOne, hmany]
  | inverseOut hout => simp [hout]
  | links l => simp

theorem mem_accessors_of_contributes (h : Contributes r members table f p) (a : Accessor) :
    a ∈ p.accessors ↔ ∃ i, f = .inverse i ∧ i.oneToOne = false ∧ ∃ n, EndsInPool r members f n ∧ a = inverseAccessor i n := by
  cases h with
  | column c => simp [columnPart]
  | reference htype hin => simp
  | referenceOut htype hout => simp
  | inverseOne hin hone => simp [hone]
  | inverseMany hin hmany => simp [hin, hmany]
  | inverseOut hout => simp [hout]
  | links l => simp

theorem mem_schema_of_contributes (h : Contributes r members table f p) (e : SchemaEntry) :
    e ∈ p.schema ↔ (∃ c, f = .plain c ∧ e = columnEntry c) ∨
      ∃ ref, f = .reference ref ∧ ∃ n, EndsInPool r members f n ∧ e = referenceEntry ref n := by
  cases h with
  | column c => simp [columnPart, columnEntry]
  | reference htype hin => simp [hin]
  | referenceOut htype hout => simp [hout]
  | inverseOne hin hone => simp
  | inverseMany hin hmany => simp
  | inverseOut hout => simp
  | links l => simp

end

/-! ## What a unit mentions -/

section

variable {α : Type} {m : Model} {u : ModelUnit}

/-- Joined parts have what each of them has, in order. -/
theorem get_joinParts (get : Part → List α) (hempty : get {} = []) (happend : ∀ a b, get (a ++ b) = get a ++ get b) (parts : List Part) :
    get (joinParts parts) = parts.flatMap get := by
  have hfold : ∀ first, get (parts.foldl (· ++ ·) first) = get first ++ parts.flatMap get := by
    induction parts with
    | nil => simp
    | cons p parts ih =>
      intro first
      rw [List.foldl_cons, ih, happend, List.flatMap_cons, List.append_assoc]
  rw [joinParts, hfold, hempty, List.nil_append]

/-- Joined parts have what one of them has. -/
theorem mem_joinParts (get : Part → List α) (hempty : get {} = []) (happend : ∀ a b, get (a ++ b) = get a ++ get b)
    (parts : List Part) (x : α) : x ∈ get (joinParts parts) ↔ ∃ p ∈ parts, x ∈ get p := by
  rw [get_joinParts get hempty happend, List.mem_flatMap]

/-- A unit has the names of its model, and joins what the fields and the properties contribute. -/
theorem modelUnit_ok (hu : modelUnit r members table m = .ok u) :
    u.names = Names.ofModel m.name ∧
      ∃ parts, m.fields.mapM (fieldPart r members table) = .ok parts ∧
        u.toPart = joinParts (parts ++ m.properties.map propertyPart) := by
  obtain ⟨key, -, hu⟩ := Outcome.bind_ok_iff.1 hu
  obtain ⟨keyType, -, hu⟩ := Outcome.bind_ok_iff.1 hu
  obtain ⟨parts, hparts, hu⟩ := Outcome.bind_ok_iff.1 hu
  cases hu
  exact ⟨rfl, parts, hparts, rfl⟩

theorem methods_of_modelUnit (hu : modelUnit r members table m = .ok u) : u.methods = m.methods.map (signature table) := by
  obtain ⟨key, -, hu⟩ := Outcome.bind_ok_iff.1 hu
  obtain ⟨keyType, -, hu⟩ := Outcome.bind_ok_iff.1 hu
  obtain ⟨parts, hparts, hu⟩ := Outcome.bind_ok_iff.1 hu
  cases hu
  rfl

/-- What is in a unit is what a field gives, by what fields of its kind contribute, or what a property contributes. -/
theorem mem_unit_iff (hr : r.IsBuilt) (hm : m ∈ r.pool members) (hu : modelUnit r members table m = .ok u)
    (get : Part → List α) (hempty : get {} = []) (happend : ∀ a b, get (a ++ b) = get a ++ get b) {x : α} {gives : Field → Prop}
    (hgives : ∀ {f p}, Contributes r members table f p → (x ∈ get p ↔ gives f)) :
    x ∈ get u.toPart ↔ (∃ f ∈ m.fields, gives f) ∨ ∃ name ∈ m.properties, x ∈ get (propertyPart name) := by
  obtain ⟨-, parts, hparts, hjoin⟩ := modelUnit_ok hu
  rw [hjoin, mem_joinParts get hempty happend]
  constructor
  · rintro ⟨p, hp, hx⟩
    rcases List.mem_append.1 hp with hp | hp
    · obtain ⟨f, hf, hfp⟩ := Outcome.exists_of_mem_mapM_ok hparts hp
      exact Or.inl ⟨f, hf, (hgives (contributes_of_fieldPart hr hm hf hfp)).1 hx⟩
    · obtain ⟨name, hname, rfl⟩ := List.mem_map.1 hp
      exact Or.inr ⟨name, hname, hx⟩
  · rintro (⟨f, hf, hx⟩ | ⟨name, hname, hx⟩)
    · obtain ⟨p, hp, hfp⟩ := Outcome.exists_of_mapM_ok hparts hf
      exact ⟨p, List.mem_append_left _ hp, (hgives (contributes_of_fieldPart hr hm hf hfp)).2 hx⟩
    · exact ⟨propertyPart name, List.mem_append_right _ (List.mem_map_of_mem hname), hx⟩

/-- A unit mentions the models of the pool at which relations of its model end. -/
theorem mentions_of_modelUnit (hr : r.IsBuilt) (hm : m ∈ r.pool members) (hu : modelUnit r members table m = .ok u) :
    Mentions r members table (EndsInPool r members) m u where
  names := (modelUnit_ok hu).1
  interface d := mem_unit_iff hr hm hu Part.interface rfl (fun _ _ => rfl) fun h => mem_interface_of_contributes h d
  relations d := by
    have hd := mem_unit_iff hr hm hu Part.relations rfl (fun _ _ => rfl) fun h => mem_relations_of_contributes h d
    simpa [propertyPart] using hd
  lookups d := by
    have hd := mem_unit_iff hr hm hu Part.lookups rfl (fun _ _ => rfl) fun h => mem_lookups_of_contributes h d
    simpa [propertyPart] using hd
  prefetchKeys key := by
    have hkey := mem_unit_iff hr hm hu Part.prefetchKeys rfl (fun _ _ => rfl) fun h => mem_prefetchKeys_of_contributes h key
    simpa [propertyPart] using hkey
  accessors a := by
    have ha := mem_unit_iff hr hm hu Part.accessors rfl (fun _ _ => rfl) fun h => mem_accessors_of_contributes h a
    simpa [propertyPart] using ha
  schema e := by
    have he := mem_unit_iff hr hm hu Part.schema rfl (fun _ _ => rfl) fun h => mem_schema_of_contributes h e
    simpa [propertyPart] using he

/-- The relations that end at a model of the pool end at the model of a unit. -/
theorem endsInPool_eq {us : List ModelUnit} (hus : units r members table = .ok us) : EndsInPool r members = EndsAmong us := by
  have hnames : us.map ModelUnit.names = (r.pool members).map fun m => Names.ofModel m.name :=
    Outcome.map_eq_of_mapM_ok hus _ _ fun m u hu => (modelUnit_ok hu).1
  have hmem : ∀ n, n ∈ us.map ModelUnit.names ↔ ∃ m ∈ r.pool members, Names.ofModel m.name = n := by
    intro n
    rw [hnames, List.mem_map]
  funext f n
  refine propext ⟨?_, ?_⟩
  · rintro ⟨target, htarget, hpooled, rfl⟩
    obtain ⟨m, hm, rfl⟩ := List.mem_map.1 hpooled
    exact ⟨htarget, List.mem_map.1 ((hmem _).2 ⟨m, hm, rfl⟩)⟩
  · rintro ⟨htarget, hn⟩
    obtain ⟨m, hm, rfl⟩ := (hmem n).1 (List.mem_map.2 hn)
    exact ⟨m.name, htarget, List.mem_map_of_mem hm, rfl⟩

end

/-! ## Units without lists of links -/

section

theorem keyField?_withoutLinks (m : Model) : m.withoutLinks.keyField? = m.keyField? := by
  rw [Model.keyField?, Model.withoutLinks, List.find?_filter, Model.keyField?]
  congr 1
  funext f
  cases f <;> simp [Field.isLinks, Field.isPrimaryKey]

theorem keyField_withoutLinks (m : Model) : m.withoutLinks.keyField = m.keyField := by
  rw [Model.keyField, keyField?_withoutLinks]
  rfl

theorem model_withoutLinks (r : Registry) (name : String) :
    r.withoutLinks.model name = (r.model name).map Model.withoutLinks := by
  have hfind : r.withoutLinks.model? name = (r.model? name).map Model.withoutLinks := by
    rw [Registry.model?, Registry.withoutLinks, List.find?_map]
    rfl
  rw [Registry.model, hfind, Registry.model]
  cases r.model? name <;> rfl

theorem keyKindFrom_withoutLinks (r : Registry) (start : String) (steps : Nat) (current : String) :
    r.withoutLinks.keyKindFrom start steps current = r.keyKindFrom start steps current := by
  induction steps generalizing current with
  | zero => rfl
  | succ steps ih =>
    rw [Registry.keyKindFrom, Registry.keyKindFrom, model_withoutLinks]
    cases r.model current with
    | error e => rfl
    | ok m =>
      simp only [Except.map, bind, Except.bind, keyField?_withoutLinks]
      cases m.keyField? with
      | none => rfl
      | some f =>
        cases f with
        | reference ref => exact ih ref.target
        | _ => rfl

theorem keyTypeOf_withoutLinks (r : Registry) (table : TypeTable) (model : String) :
    keyTypeOf r.withoutLinks table model = keyTypeOf r table model := by
  rw [keyTypeOf, Registry.keyKind, keyKindFrom_withoutLinks]
  rw [Registry.withoutLinks, List.length_map]
  rfl

theorem fieldPart_withoutLinks (r : Registry) (members : Registry.Members) (table : TypeTable) (f : Field) :
    fieldPart r.withoutLinks members table f = fieldPart r members table f := by
  cases f with
  | plain c => rfl
  | reference ref => rw [fieldPart, keyTypeOf_withoutLinks, fieldPart]
  | inverse i => rfl
  | links l => rfl

theorem keyFieldType_withoutLinks (r : Registry) (table : TypeTable) (f : Field) :
    keyFieldType r.withoutLinks table f = keyFieldType r table f := by
  cases f with
  | plain c => rfl
  | reference ref => exact keyTypeOf_withoutLinks r table ref.target
  | inverse i => rfl
  | links l => rfl

theorem append_empty (p : Part) : p ++ ({ } : Part) = p := by
  cases p
  change Part.mk _ _ _ _ _ _ = _
  simp only [List.append_nil]

/-- Lists of links add nothing to the parts joined so far. -/
theorem foldl_append_withoutLinks (r : Registry) (members : Registry.Members) (table : TypeTable) (fields : List Field) (joined : Part) :
    ((fields.filter (!·.isLinks)).mapM (fieldPart r members table)).map (List.foldl (· ++ ·) joined) =
      (fields.mapM (fieldPart r members table)).map (List.foldl (· ++ ·) joined) := by
  -- joined one after another, the parts of lists of links are seen to be empty
  rw [← Outcome.foldlM_map_eq, ← Outcome.foldlM_map_eq]
  induction fields generalizing joined with
  | nil => rfl
  | cons f fields ih =>
    cases hlinks : f.isLinks with
    | false =>
      rw [List.filter_cons_of_pos (by simp [hlinks]), List.foldlM_cons, List.foldlM_cons]
      simp only [ih]
    | true =>
      rw [List.filter_cons_of_neg (by simp [hlinks]), List.foldlM_cons, ih]
      cases f with
      | links l =>
        change _ = fields.foldlM _ (joined ++ ({ } : Part))
        rw [append_empty]
      | _ => cases hlinks

/-- What is made of the joined parts of fields and properties is made of them without lists of links. -/
theorem mapM_bind_withoutLinks (r : Registry) (members : Registry.Members) (table : TypeTable) (m : Model)
    (assemble : Part → Outcome ModelUnit) :
    (m.withoutLinks.fields.mapM (fieldPart r members table) >>= fun parts =>
        assemble (joinParts (parts ++ m.properties.map propertyPart))) =
      m.fields.mapM (fieldPart r members table) >>= fun parts =>
        assemble (joinParts (parts ++ m.properties.map propertyPart)) := by
  -- the parts of the fields are joined before those of the properties
  have hjoin : ∀ fields : List Field,
      (fields.mapM (fieldPart r members table) >>= fun parts => assemble (joinParts (parts ++ m.properties.map propertyPart))) =
        (fields.mapM (fieldPart r members table)).map (List.foldl (· ++ ·) ({ } : Part)) >>= fun joined =>
          assemble ((m.properties.map propertyPart).foldl (· ++ ·) joined) := by
    intro fields
    simp only [joinParts, List.foldl_append]
    cases fields.mapM (fieldPart r members table) <;> rfl
  rw [hjoin, hjoin, Model.withoutLinks, foldl_append_withoutLinks]

theorem modelUnit_withoutLinks (r : Registry) (members : Registry.Members) (table : TypeTable) (m : Model) :
    modelUnit r.withoutLinks members table m.withoutLinks = modelUnit r members table m := by
  have hpart : fieldPart r.withoutLinks members table = fieldPart r members table :=
    funext (fieldPart_withoutLinks r members table)
  have htype : keyFieldType r.withoutLinks table = keyFieldType r table := funext (keyFieldType_withoutLinks r table)
  rw [modelUnit, modelUnit, keyField_withoutLinks, hpart, htype]
  refine bind_congr fun key => bind_congr fun keyType => ?_
  exact mapM_bind_withoutLinks r members table m fun joined => .ok {
    joined with
    names := Names.ofModel m.name
    keyField := key.referenceColumn?.getD key.name
    keyType
    methods := m.methods.map (signature table) }

/-- Lists of links contribute to no unit. -/
theorem units_withoutLinks (r : Registry) (members : Registry.Members) (table : TypeTable) :
    units r.withoutLinks members table = units r members table := by
  have hpool : r.withoutLinks.pool members = (r.pool members).map Model.withoutLinks := by
    rw [Registry.pool, Registry.withoutLinks, List.filter_map]
    rfl
  rw [units, hpool, List.mapM_map]
  exact congrArg (fun step => (r.pool members).mapM step) (funext (modelUnit_withoutLinks r members table))

end

/-- Each unit of a pool mentions, because of the relations of its model, models of units of the pool and no others, and lists of links
contribute to no unit. -/
theorem units_mention_units (hr : r.IsBuilt) {us : List ModelUnit} (hus : units r members table = .ok us) :
    List.Forall₂ (Mentions r members table (EndsAmong us)) (r.pool members) us ∧ units r.withoutLinks members table = .ok us := by
  constructor
  · have hunits : List.Forall₂ (fun m u => m ∈ r.pool members ∧ modelUnit r members table m = .ok u) (r.pool members) us :=
      (List.forall₂_and_left _ _).2 ⟨fun _ hm => hm, Outcome.mapM_ok hus⟩
    rw [← endsInPool_eq hus]
    exact hunits.imp fun m u ⟨hm, hu⟩ => mentions_of_modelUnit hr hm hu
  · rw [units_withoutLinks, hus]

def authorModel : Model where
  name := "Author"
  fields := [Model.implicitKey, .links { name := "tags", target := "Tag" },
    .inverse { name := "post_set", source := "Post", field := "author", oneToOne := false }]

def postModel : Model where
  name := "Post"
  fields := [Model.implicitKey, .reference { name := "author", target := "Author" }, .reference { name := "topic", target := "Tag" }]

def tagModel : Model where
  name := "Tag"
  fields := [Model.implicitKey, .inverse { name := "post_set", source := "Post", field := "topic", oneToOne := false }]

theorem posts_isBuilt : Registry.IsBuilt { models := [authorModel, postModel, tagModel] } :=
  ⟨[{ name := "Author", fields := [.links { name := "tags", target := "Tag" }] },
    { name := "Post", fields := [.reference { name := "author", target := "Author" }, .reference { name := "topic", target := "Tag" }] },
    { name := "Tag" }], [], [], rfl⟩

/-- The units of authors and posts mention each other, and no tags. -/
theorem authors_and_posts_mention_each_other :
    ∃ us, units { models := [authorModel, postModel, tagModel] } ["Author", "Post"] [] = .ok us ∧
      (∃ author post, us = [author, post] ∧ author.accessors.map Accessor.querySet = [post.names.querySet] ∧
        post.relations.map Declaration.type = [author.names.model]) ∧
      List.Forall₂ (Mentions { models := [authorModel, postModel, tagModel] } ["Author", "Post"] [] (EndsAmong us))
        [authorModel, postModel] us := by
  exact ⟨_, rfl, ⟨_, _, rfl, rfl, rfl⟩, (units_mention_units posts_isBuilt rfl).1⟩

end Client

end ModelCatalog
