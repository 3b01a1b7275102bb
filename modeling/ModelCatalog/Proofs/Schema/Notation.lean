import ModelCatalog.Proofs.Lists
import ModelCatalog.Schema.Notation

/-!
# What a schema says

The fields of a schema are read from values that stand in its text (`Schema.fieldValues`). A field that does not say there that clients can
only read it (`Field.SaysReadOnly`) can be written, whatever its kind.
-/

namespace ModelCatalog

namespace Json

/-- The items of the list that is given for a member. -/
def Slot.items : Slot → List Json
  | given (list values) => values
  | _ => []

/-- The items of the list that a structure holds in one of its declared members. -/
def itemsOf (declared : List (List String)) (place : Nat) (value : Json) : List Json :=
  ((slots? declared value).bind (·[place]?)).elim [] Slot.items

variable {α : Type} {read? : Json → Option α} {values : List α}

theorem filterMap_of_readList? {value : Json} (h : readList? read? value = some values) :
    (Slot.given value).items.filterMap read? = values := by
  cases value with
  | list items => exact filterMap_of_mapM h
  | null | bool | number | text | object => cases h

theorem Slot.filterMap_items_of_required? {slot : Slot} (h : slot.required? (readList? read?) = some values) :
    slot.items.filterMap read? = values := by
  cases slot with
  | given value => exact filterMap_of_readList? h
  | unnamed | cutOff => cases h

theorem Slot.filterMap_items_of_orElse? {slot : Slot} (h : slot.orElse? [] (readList? read?) = some values) :
    slot.items.filterMap read? = values := by
  cases slot with
  | given value => exact filterMap_of_readList? h
  | unnamed | cutOff => exact Option.some.inj h

end Json

/-! ## The values of fields -/

/-- The values that the fields of a model are read from. -/
def Model.fieldValues (value : Json) : List Json := value.itemsOf members 2

/-- The values that the fields of all models of a schema are read from. -/
def Schema.fieldValues (value : Json) : List Json := (value.itemsOf members 0).flatMap Model.fieldValues

theorem Model.fields_of_read? {value : Json} {m : Model} (h : read? value = some m) :
    (fieldValues value).filterMap Field.read? = m.fields := by
  unfold read? at h
  split at h
  · rename_i name appLabel fields properties methods hslots
    obtain ⟨_, -, h⟩ := Option.bind_eq_some_iff.1 h
    obtain ⟨_, -, h⟩ := Option.bind_eq_some_iff.1 h
    obtain ⟨read, hread, h⟩ := Option.bind_eq_some_iff.1 h
    obtain ⟨_, -, h⟩ := Option.bind_eq_some_iff.1 h
    obtain ⟨_, -, h⟩ := Option.bind_eq_some_iff.1 h
    cases h
    rw [fieldValues, Json.itemsOf, hslots]
    exact Json.Slot.filterMap_items_of_orElse? hread
  · cases h

theorem Schema.models_of_read? {value : Json} {schema : Schema} (h : read? value = some schema) :
    (value.itemsOf members 0).filterMap Model.read? = schema.models := by
  unfold read? at h
  split at h
  · rename_i models hslots
    obtain ⟨read, hread, h⟩ := Option.bind_eq_some_iff.1 h
    cases h
    rw [Json.itemsOf, hslots]
    exact Json.Slot.filterMap_items_of_required? hread
  · cases h

/-- Every field of a schema is read from a value in its text. -/
theorem Schema.exists_fieldValue {value : Json} {schema : Schema} (h : read? value = some schema) {d : Model} (hd : d ∈ schema.models)
    {f : Field} (hf : f ∈ d.fields) : ∃ v ∈ fieldValues value, Field.read? v = some f := by
  rw [← models_of_read? h] at hd
  obtain ⟨modelValue, hmodel, hread⟩ := List.mem_filterMap.1 hd
  rw [← Model.fields_of_read? hread] at hf
  obtain ⟨v, hv, hfield⟩ := List.mem_filterMap.1 hf
  exact ⟨v, List.mem_flatMap.2 ⟨modelValue, hmodel, hv⟩, hfield⟩

/-- A text is the schema that its value is read as. -/
theorem Schema.parse_ok_iff {text : String} {schema : Schema} :
    parse text = .ok schema ↔ ∃ value, Json.read? outline text = some value ∧ read? value = some schema := by
  rw [← Option.bind_eq_some_iff, ← Option.bind_eq_bind, parse]
  cases Json.read? outline text >>= read? <;> simp

/-! ## Members left out -/

namespace Json

/-- A member that an object does not name is not given. -/
theorem slots?_of_unnamed {members : List (String × Json)} {names : List String} (hnames : membersNamed names members = []) :
    ∀ {declared : List (List String)} {slots : List Slot} {place : Nat}, slots? declared (.object members) = some slots →
      declared[place]? = some names → slots[place]? = some .unnamed := by
  intro declared
  induction declared with
  | nil => exact fun _ hplace => by cases hplace
  | cons first rest ih =>
    intro slots place hslots hplace
    rw [slots?, List.mapM_cons] at hslots
    obtain ⟨slot, hslot, hslots⟩ := Option.bind_eq_some_iff.1 hslots
    obtain ⟨others, hothers, hslots⟩ := Option.bind_eq_some_iff.1 hslots
    cases hslots
    cases place with
    | zero =>
      cases hplace
      rw [hnames] at hslot
      exact hslot.symm
    | succ place =>
      have hrest := ih hothers hplace
      exact hrest

/-- A member that a list is too short for is not given. -/
theorem slots?_of_cutOff {declared : List (List String)} {items : List Json} {slots : List Slot} {place : Nat}
    (hslots : slots? declared (.list items) = some slots) (hshort : items.length ≤ place) (hplace : place < declared.length) :
    slots[place]? = some .cutOff := by
  rw [slots?] at hslots
  split at hslots
  · cases hslots
    rw [List.getElem?_append_right (by rwa [List.length_map]), List.length_map, List.getElem?_replicate_of_lt (by omega)]
  · cases hslots

end Json

/-- Whether the value of a plain field says whether clients can only read it: with a member of that name, or with an item of a list behind
the tag, name, kind and whether it can be null. -/
def Field.SaysReadOnly : Json → Prop
  | .object members => Json.membersNamed ["read_only"] members ≠ []
  | .list items => 4 < items.length
  | _ => False

/-- A column can be written when nothing is given for whether it only can be read. -/
theorem Column.readOnly_eq_false {byPosition : Bool} {value : Json} {c : Column} (h : read? byPosition value = some c)
    (hslot : ∀ slots, Json.slots? members value = some slots → ∀ v, slots[3]? ≠ some (.given v)) : c.readOnly = false := by
  unfold read? at h
  split at h
  · rename_i name kind null readOnly primaryKey choices serializer hslots
    obtain ⟨_, -, h⟩ := Option.bind_eq_some_iff.1 h
    obtain ⟨_, -, h⟩ := Option.bind_eq_some_iff.1 h
    obtain ⟨_, -, h⟩ := Option.bind_eq_some_iff.1 h
    obtain ⟨flag, hflag, h⟩ := Option.bind_eq_some_iff.1 h
    obtain ⟨_, -, h⟩ := Option.bind_eq_some_iff.1 h
    obtain ⟨_, -, h⟩ := Option.bind_eq_some_iff.1 h
    obtain ⟨_, -, h⟩ := Option.bind_eq_some_iff.1 h
    cases h
    cases readOnly with
    | given v => exact absurd rfl (hslot _ hslots v)
    | unnamed | cutOff => exact (Option.some.inj hflag).symm
  · cases h

/-- A plain field is read from the tag of a column and the value of one. -/
theorem Field.column_of_ofTag? {tag value : Json} {c : Column} (h : ofTag? tag value = some (.plain c)) :
    Column.read? true value = some c := by
  unfold ofTag? at h
  split at h
  · obtain ⟨read, hread, heq⟩ := Option.map_eq_some_iff.1 h
    cases heq
    exact hread
  · obtain ⟨_, -, heq⟩ := Option.map_eq_some_iff.1 h
    cases heq
  · obtain ⟨_, -, heq⟩ := Option.map_eq_some_iff.1 h
    cases heq
  · obtain ⟨_, -, heq⟩ := Option.map_eq_some_iff.1 h
    cases heq
  · cases h

/-- A plain field whose value does not say whether clients can only read it can be written. -/
theorem Field.readOnly_eq_false {value : Json} {c : Column} (h : read? value = some (.plain c)) (hexplicit : ¬ SaysReadOnly value) :
    c.readOnly = false := by
  unfold read? at h
  split at h
  · split at h
    · refine Column.readOnly_eq_false (column_of_ofTag? h) fun slots hslots v => ?_
      rw [Json.slots?_of_unnamed (not_not.1 hexplicit) hslots rfl]
      exact nofun
    · cases h
  · rename_i tag rest
    refine Column.readOnly_eq_false (column_of_ofTag? h) fun slots hslots v => ?_
    have hshort : rest.length ≤ 3 := Nat.le_of_succ_le_succ (Nat.not_lt.1 hexplicit)
    rw [Json.slots?_of_cutOff hslots hshort (by decide)]
    exact nofun
  · cases h

end ModelCatalog
