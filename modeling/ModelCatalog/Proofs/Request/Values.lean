import ModelCatalog.Proofs.Request.FailedWrites
import ModelCatalog.Proofs.Request.Payloads
import ModelCatalog.Proofs.Store.Paths

/-!
# Chosen fields

A request can choose the fields of the records that it is answered with. A record narrowed to some names (`narrow`) has these names only, with
null for those that it did not carry. Requests for one row answer with the narrowed record. Lists read the chosen fields from the rows
themselves, so for a relation that is not embedded they give the first value that it leads to, and a name that is no path makes them fail:
`values_narrow_records` says exactly when their records are narrowed ones all the same.
-/

namespace ModelCatalog

/-- A record with some names only. -/
def narrow (names : List String) (record : Row) : Row :=
  Dict.of (names.map fun name => (name, (record.get? name).getD .null))

/-! ## Records -/

namespace Serializer

variable {all : Serializer} {names : List String}

theorem subset_ok (h : ∀ name ∈ names, all.knows name = true) :
    all.subset names = .ok { all with fields := names, isSubset := true } := by
  have hnone : (names.find? fun name => !all.knows name) = none := by
    rw [List.find?_eq_none]
    intro name hname
    simp [h name hname]
  rw [subset, hnone]

/-- A record carries the fields, and a relation or property that the row carries. -/
theorem get?_serialize (hall : all.isSubset = false) (row : Row) (name : String) :
    (all.serialize row).get? name =
      if name ∈ all.relations ++ all.properties then
        (row.get? name).or (if name ∈ all.fields then some ((row.get? name).getD .null) else none)
      else if name ∈ all.fields then some ((row.get? name).getD .null) else none := by
  simp only [serialize, hall, Bool.false_eq_true, if_false, Dict.get?_extend_copy, Dict.of, Dict.get?_extend_map, Dict.get?_empty]

theorem mem_of_knows {name : String} (h : all.knows name = true) : name ∈ all.fields ∨ name ∈ all.relations ++ all.properties := by
  simp only [knows, Bool.or_eq_true, List.contains_iff_mem] at h
  rw [List.mem_append, ← or_assoc]
  exact h

/-- A record gives what the row has under a name that can be chosen. -/
theorem getD_serialize (hall : all.isSubset = false) {name : String} (h : all.knows name = true) (row : Row) :
    ((all.serialize row).get? name).getD .null = (row.get? name).getD .null := by
  rw [get?_serialize hall]
  rcases mem_of_knows h with hfield | hother
  · rw [if_pos hfield]
    cases row.get? name <;> simp
  · rw [if_pos hother]
    split <;> cases row.get? name <;> rfl

/-- A record carries the columns, and whatever else can be chosen if the row carries it. -/
theorem contains_serialize (hall : all.isSubset = false) {name : String} (h : all.knows name = true) (row : Row) :
    (all.serialize row).contains name = true ↔ name ∈ all.fields ∨ row.contains name = true := by
  rw [Dict.contains, Dict.contains, get?_serialize hall]
  by_cases hfield : name ∈ all.fields
  · simp only [hfield, true_or, iff_true]
    split <;> simp
  · rw [if_pos ((mem_of_knows h).resolve_left hfield), if_neg hfield, Option.or_none]
    simp [hfield]

/-- The record of chosen names is the narrowed record. -/
theorem serialize_subset (hall : all.isSubset = false) (h : ∀ name ∈ names, all.knows name = true) (row : Row) :
    serialize { all with fields := names, isSubset := true } row = narrow names (all.serialize row) :=
  Dict.of_map_eq_iff.2 fun name hname => (getD_serialize hall (h name hname) row).symm

end Serializer

/-! ## One row -/

namespace Context

variable {c : Context} {s : Store} {m : Model} {names : List String}

/-- A request for one row answers with the narrowed record. -/
theorem oneRow_values {q : QuerySet} (hm : c.registry.model? q.model = some m) (hne : names ≠ [])
    (hknown : ∀ name ∈ names, (Serializer.ofModel m).knows name = true) (key : Json) (p : ListParams) :
    c.oneRow s q key { p with values := some names } = (c.oneRow s q key { p with values := none }).map (narrow names) := by
  have hempty : names.isEmpty = false := by simpa using hne
  unfold oneRow
  rw [Registry.model_ok_iff.2 hm]
  simp only [bind, Except.bind]
  cases c.refine q { prefetch := p.prefetch, prefetch_sorted := p.prefetch_sorted } with
  | error e => rfl
  | ok refined =>
    simp only [PayloadOptions.oneRow, PayloadOptions.serializer, PayloadOptions.ofParams, Option.getD_some, Option.getD_none, hempty,
      List.isEmpty_nil, Bool.false_eq_true, if_true, if_false, Serializer.subset_ok hknown, bind, Except.bind]
    cases refined.get c.registry s key with
    | error e => rfl
    | ok row => exact congrArg Except.ok (Serializer.serialize_subset rfl hknown row)

/-- The row just written is narrowed. -/
theorem writtenRow_values (hm : c.registry.model? m.name = some m) (hne : names ≠ [])
    (hknown : ∀ name ∈ names, (Serializer.ofModel m).knows name = true) (row : Row) (p : ListParams) :
    c.writtenRow s m row { p with values := some names } = (c.writtenRow s m row { p with values := none }).map (narrow names) := by
  unfold writtenRow
  rw [QuerySet.of_eq hm]
  cases keyOf m row with
  | error e => rfl
  | ok key => exact oneRow_values hm hne hknown key p

end Context

/-- A response with each record of its payload changed. -/
def Response.mapRows (f : Row → Row) (response : Response) : Response :=
  { response with outcome := response.outcome.map (Payload.mapRows f) }

namespace Request

/-- The model that the request is about. -/
def model : Request → String
  | create model _ _ | update model _ _ _ | delete model _ | getOrCreate model _ _ _ | call model _ _ _ => model

/-- The request with other fields chosen. -/
def withValues (values : Option (List String)) : Request → Request
  | create model row p => create model row { p with values }
  | update model key row p => update model key row { p with values }
  | getOrCreate model lookup defaults p => getOrCreate model lookup defaults { p with values }
  | other => other

theorem ofWritten_mapRows {s : Store} {written : Outcome (Row × Store)} {tell tell' : Row → Store → Outcome Payload} {f : Row → Row}
    (h : ∀ row after, tell' row after = (tell row after).map (Payload.mapRows f)) :
    Response.ofWritten s written tell' = (Response.ofWritten s written tell).mapRows f := by
  cases written with
  | error e => rfl
  | ok w =>
    obtain ⟨row, after⟩ := w
    simp only [Response.ofWritten, Response.mapRows, h]

/-- A call answers with what its handler gives. -/
theorem call_output {c : Context} {s : Store} {model method : String} {key : Option Json} {args : Row} {payload : Payload}
    (h : c.call s model method key args = .ok payload) : ∃ value, payload = .output value := by
  obtain ⟨m, -, h⟩ := Outcome.bind_ok_iff.1 h
  split at h
  · obtain ⟨-, -, h⟩ := Outcome.bind_ok_iff.1 h
    split at h
    · obtain ⟨bound, -, h⟩ := Outcome.bind_ok_iff.1 h
      obtain ⟨row, -, h⟩ := Outcome.bind_ok_iff.1 h
      obtain ⟨value, -, h⟩ := Outcome.bind_ok_iff.1 h
      exact ⟨value, (Except.ok.inj h).symm⟩
    · cases h
  · cases h

/-- The record that a request answers with is narrowed to the chosen names, and the store is as it is without a choice. -/
theorem answer_withValues {c : Context} {s : Store} {m : Model} (hm : c.registry.model? m.name = some m) {names : List String}
    (hne : names ≠ []) (hknown : ∀ name ∈ names, (Serializer.ofModel m).knows name = true) (q : Request) (hq : q.model = m.name) :
    (q.withValues (some names)).answer c s = ((q.withValues none).answer c s).mapRows (narrow names) := by
  cases q with
  | create model values p =>
    obtain rfl : model = m.name := hq
    simp only [withValues, answer, Context.create_eq hm]
    exact ofWritten_mapRows fun row after => by rw [Context.writtenRow_values hm hne hknown, Payload.map_mapRows fun _ => rfl]
  | update model key values p =>
    obtain rfl : model = m.name := hq
    simp only [withValues, answer, Context.update_eq hm]
    exact ofWritten_mapRows fun row after => by rw [Context.writtenRow_values hm hne hknown, Payload.map_mapRows fun _ => rfl]
  | delete model key =>
    simp only [withValues, answer, Context.delete_eq]
    cases s.deleteRow c.registry model key <;> rfl
  | getOrCreate model lookup defaults p =>
    obtain rfl : model = m.name := hq
    simp only [withValues, answer, Context.getOrCreate_eq hm]
    cases c.findRow s m lookup with
    | error e => rfl
    | ok found =>
      cases found with
      | none =>
        exact ofWritten_mapRows fun row after => by rw [Context.writtenRow_values hm hne hknown, Payload.map_mapRows fun _ => rfl]
      | some row =>
        simp only [Context.writtenRow_values hm hne hknown, Response.mapRows]
        rw [Payload.map_mapRows fun _ => rfl]
  | call model method key args =>
    simp only [withValues, answer, Response.mapRows]
    cases hcall : c.call s model method key args with
    | error e => rfl
    | ok payload =>
      obtain ⟨value, rfl⟩ := call_output hcall
      rfl

end Request

/-! ## Lists -/

namespace QuerySet

/-- A relation at the head of a path is embedded. -/
theorem contains_embed_head {r : Registry} {s : Store} {m : Model} (hm : r.model? m.name = some m) {name : String}
    (hfield : (m.field? name).any Serializer.isEmbeddable = true) (rest : List String) (row : Row) :
    (embed r s m.name (name :: rest) row).contains name = true := by
  obtain ⟨f, hf, hembeddable⟩ := (Option.any_eq_true _ _).1 hfield
  have hname : f.name = name := by simpa using List.find?_some hf
  rw [embed, hm, Option.bind_some, hf]
  cases f with
  | plain c => cases hembeddable
  | reference ref =>
    obtain rfl : ref.name = name := hname
    rw [Dict.contains, Dict.get?_insert_self, Option.isSome_some]
  | inverse i =>
    obtain rfl : i.name = name := hname
    rw [Dict.contains, Dict.get?_insert_self, Option.isSome_some]
  | links l => cases hembeddable

/-- A relation that a path begins with is carried once all related rows are embedded. -/
theorem contains_withRelated_of_head {r : Registry} {s : Store} {q : QuerySet} {row : Row} {m : Model} (hm : r.model? m.name = some m)
    (hmodel : q.model = m.name) {name : String} (hfield : (m.field? name).any Serializer.isEmbeddable = true) {path : String}
    (hpath : path ∈ q.related) (hhead : (LookupKey.segments path).head? = some name) :
    (withRelated r s q row).contains name = true := by
  obtain ⟨rest, hsegments⟩ := List.head?_eq_some_iff.1 hhead
  obtain ⟨before, after, hrelated⟩ := List.append_of_mem hpath
  have hembedded := contains_embed_head (s := s) hm hfield rest
    (before.foldl (fun row path => embed r s q.model (LookupKey.segments path) row) row)
  rw [← hmodel, ← hsegments] at hembedded
  have hafter := contains_withRelated (r := r) (s := s) (q := { q with related := after }) hembedded
  rw [withRelated, hrelated, List.foldl_append, List.foldl_cons]
  exact hafter

end QuerySet

/-- A column that can be chosen is one that rows have. -/
theorem Field.column?_of_valueColumn? {f : Field} {column : String} (h : f.valueColumn? = some column) : f.column? = some column := by
  cases f with
  | plain c => exact h
  | reference ref => exact h
  | inverse i => cases h
  | links l => cases h

/-- A name that can be chosen and is not that of a property is that of a column or of an embeddable relation. -/
theorem exists_field_of_knows {m : Model} {name : String} (hknown : (Serializer.ofModel m).knows name = true)
    (hproperty : m.properties.contains name = false) :
    name ∈ m.valueColumns ∨ ∃ f ∈ m.fields, Serializer.isEmbeddable f = true ∧ f.name = name := by
  refine (Serializer.mem_of_knows hknown).imp_right fun hother => ?_
  rcases List.mem_append.1 hother with hrelation | hmem
  · obtain ⟨f, hf, rfl⟩ := List.mem_map.1 hrelation
    obtain ⟨hf, hembeddable⟩ := List.mem_filter.1 hf
    exact ⟨f, hf, hembeddable, rfl⟩
  · have hcontains : m.properties.contains name = true := List.contains_iff_mem.2 hmem
    rw [hproperty] at hcontains
    cases hcontains

/-- A name that can be chosen is a path unless it is that of a property or holds a separator. -/
theorem checkPath_of_knows {r : Registry} (hr : r.IsBuilt) {m : Model} (hm : r.model? m.name = some m) {name : String}
    (hknown : (Serializer.ofModel m).knows name = true) (hproperty : m.properties.contains name = false)
    (hwhole : Text.contains name LookupKey.separator = false) : r.checkPath m.name name = .ok () := by
  have hsegments : LookupKey.segments name = [name] := by
    have hseparable : LookupKey.Separable [name] := ⟨List.forall_mem_singleton.2 hwhole, by simp⟩
    have hjoin : LookupKey.join [name] = name := String.intercalate_singleton
    rw [← (LookupKey.segments_join_iff (List.cons_ne_nil name [])).2 hseparable, hjoin]
  refine (checkPath_ok_iff hr hm name).2 ?_
  rw [hsegments]
  rcases exists_field_of_knows hknown hproperty with hcolumn | ⟨f, hf, hembeddable, rfl⟩
  · obtain ⟨f, hf, hfield⟩ := List.mem_filterMap.1 hcolumn
    cases f with
    | plain c =>
      obtain rfl := Option.some.inj hfield
      exact ⟨_, _, .plain hf (Or.inl rfl)⟩
    | reference ref => exact ⟨_, _, .reference hf (Or.inr (Option.some.inj hfield).symm)⟩
    | inverse i => cases hfield
    | links l => cases hfield
  · cases f with
    | plain c => cases hembeddable
    | reference ref => exact ⟨_, _, .reference hf (Or.inl rfl)⟩
    | inverse i =>
      obtain ⟨hop, rfl, hfield, -⟩ := exists_hop hr hm hf rfl
      exact ⟨_, _, .inverse hop hfield⟩
    | links l => cases hembeddable

namespace Context

variable (c : Context) (s : Store) (m : Model) (p : ListParams)

/-- The record of a stored row in a list when fields are chosen: a name that the row does not carry stands for the first value at its path. -/
def chosenRecord (names : List String) (row : Row) : Row :=
  Dict.of (names.map fun name => (name,
    if m.properties.contains name then .null
    else ((c.embedded s m p row).get? name).getD (s.firstAt c.registry m.name row name)))

variable {c s m p}

/-- A row shaped by the names that are read from the store is written out as its chosen record. -/
theorem serialize_shape_project {refined : QuerySet} (hrefined : c.refine { model := m.name } p = .ok refined) (names : List String)
    (row : Row) :
    Serializer.serialize { Serializer.ofModel m with fields := names, isSubset := true }
        ((refined.project (names.filter fun name => !m.properties.contains name)).shape c.registry s row) =
      c.chosenRecord s m p names row := by
  obtain ⟨-, -, hmodel, -, -⟩ := refine_ok hrefined
  refine Dict.of_map_eq_iff.2 fun name hname => ?_
  have hmem : name ∈ names.filter (fun name => !m.properties.contains name) ↔ m.properties.contains name = false := by
    rw [List.mem_filter, Bool.not_eq_true']
    exact and_iff_right hname
  simp only [QuerySet.shape, QuerySet.project, Dict.of, Dict.get?_extend_map, hmem, Dict.get?_empty]
  have hrelated := congrArg (fun row : Row => row.get? name) (withRelated_refined (s := s) hrefined row)
  have hfirst : s.firstAt c.registry refined.model row name = s.firstAt c.registry m.name row name := by rw [hmodel]
  cases m.properties.contains name with
  | true => rfl
  | false =>
    rw [if_pos rfl, if_neg Bool.false_ne_true, Option.getD_some]
    exact congrArg₂ Option.getD hrelated hfirst

/-- With a choice of fields a list gives the record chosen of each row, when the names are paths. -/
theorem list_values_eq (hm : c.registry.model? m.name = some m) {names : List String} (hne : names ≠ [])
    (hknown : ∀ name ∈ names, (Serializer.ofModel m).knows name = true) :
    c.list s { model := m.name } { p with values := some names } = (do
      let stored ← c.listed s p { model := m.name }
      ((names.filter fun name => !m.properties.contains name).forM (c.registry.checkPath m.name)).map fun _ =>
        stored.mapRows (c.chosenRecord s m p names)) := by
  have hempty : names.isEmpty = false := by simpa using hne
  have hrefine : c.refine { model := m.name } { p with values := some names } = c.refine { model := m.name } p := rfl
  unfold list listed
  rw [Registry.model_ok_iff.2 hm, hrefine]
  simp only [bind, Except.bind]
  cases hrefined : c.refine { model := m.name } p with
  | error e => rfl
  | ok refined =>
    obtain ⟨-, -, hmodel, hprojection, -⟩ := refine_ok hrefined
    simp only [PayloadOptions.payload_eq, PayloadOptions.serializer, PayloadOptions.ofParams, Option.getD_some, hempty,
      Bool.false_eq_true, if_false, Serializer.subset_ok hknown, Serializer.storedFields, QuerySet.check_project hprojection, hmodel,
      bind, Except.bind]
    cases refined.check c.registry with
    | error e => rfl
    | ok _ =>
      have hproperties : (Serializer.ofModel m).properties = m.properties := rfl
      simp only [hproperties]
      cases (names.filter fun name => !m.properties.contains name).forM (c.registry.checkPath m.name) with
      | error e => rfl
      | ok _ => exact congrArg (fun record => Except.ok (Payload.mapRows record _)) (funext (serialize_shape_project hrefined names))

/-! ## Narrowed lists -/

variable (c s m p)

/-- Whether a list gives under a chosen name what the record of a row has there, or null: what the record carries is given, unless a
property has its name; for a relation that it does not carry there must be nothing at its path. -/
def Keeps (row : Row) (name : String) : Prop :=
  if m.properties.contains name then ((c.record s m p row).get? name).getD .null = .null
  else (c.record s m p row).contains name = true ∨ s.firstAt c.registry m.name row name = .null

variable {c s m p}

section

variable (hr : c.registry.IsBuilt) (hs : s.IsReachable c.registry) (hm : c.registry.model? m.name = some m) {row : Row}
  (hrow : row ∈ s.rows m.name)

include hr hs hm hrow

/-- The record carries a name that can be chosen when the row with its related rows does: a stored row has all columns. -/
theorem contains_record_iff {name : String} (hknown : (Serializer.ofModel m).knows name = true) :
    (c.record s m p row).contains name = true ↔ (c.embedded s m p row).contains name = true := by
  rw [record, Serializer.contains_serialize rfl hknown]
  refine or_iff_right_of_imp fun hcolumn => ?_
  obtain ⟨f, hf, hfield⟩ := List.mem_filterMap.1 hcolumn
  obtain ⟨-, -, -, -, column, -, hkey⟩ := (hr.sound hm).keyColumn
  exact QuerySet.contains_withRelated ((Store.isStored hs hm hkey row hrow).complete f hf name (Field.column?_of_valueColumn? hfield))

/-- The record that a list gives when fields are chosen is the narrowed record exactly when it keeps what the record has under each name. -/
theorem chosenRecord_eq_iff {names : List String} (hknown : ∀ name ∈ names, (Serializer.ofModel m).knows name = true) :
    c.chosenRecord s m p names row = narrow names (c.record s m p row) ↔ ∀ name ∈ names, c.Keeps s m p row name := by
  rw [chosenRecord, narrow, Dict.of_map_eq_iff]
  refine forall₂_congr fun name hname => ?_
  have hvalue : ((c.record s m p row).get? name).getD .null = ((c.embedded s m p row).get? name).getD .null :=
    Serializer.getD_serialize rfl (hknown name hname) _
  unfold Keeps
  split
  · exact eq_comm
  · rw [hvalue, contains_record_iff hr hs hm hrow (hknown name hname), Dict.contains]
    cases (c.embedded s m p row).get? name <;> simp

/-- A list keeps what the record has in a column, and under a relation whose rows are embedded. -/
theorem keeps_of_embedded {name : String} (hknown : (Serializer.ofModel m).knows name = true)
    (hproperty : m.properties.contains name = false)
    (hcarried : name ∈ m.valueColumns ∨ ∃ path ∈ c.relatedPaths m p, (LookupKey.segments path).head? = some name) :
    c.Keeps s m p row name := by
  rw [Keeps, hproperty, if_neg Bool.false_ne_true]
  refine Or.inl ?_
  by_cases hcolumn : name ∈ m.valueColumns
  · exact (Serializer.contains_serialize rfl hknown _).2 (Or.inl hcolumn)
  · obtain ⟨path, hpath, hhead⟩ := hcarried.resolve_left hcolumn
    obtain ⟨f, hf, hembeddable, rfl⟩ := (exists_field_of_knows hknown hproperty).resolve_left hcolumn
    have hfield : (m.field? f.name).any Serializer.isEmbeddable = true := by
      rw [(hr.sound hm).field?_of_mem hf, Option.any_some, hembeddable]
    refine (contains_record_iff hr hs hm hrow hknown).2 (QuerySet.contains_withRelated_of_head hm rfl hfield ?_ hhead)
    exact QuerySet.mem_related_embedding.2 (Or.inr hpath)

end

theorem get_values (hm : c.registry.model? m.name = some m) {names : List String} (hne : names ≠ [])
    (hknown : ∀ name ∈ names, (Serializer.ofModel m).knows name = true) (key : Json) :
    c.get s { model := m.name } key { p with values := some names } =
      (c.get s { model := m.name } key { p with values := none }).map (Payload.mapRows (narrow names)) := by
  unfold get
  rw [oneRow_values hm hne hknown, Payload.map_mapRows fun _ => rfl]

end Context

/-- What a choice of fields does to the records of requests. Requests for one row answer with the narrowed record. Lists answer with the
same rows as without the choice, unless a name that is chosen is no path, which takes a separator in it; the record of a row is the narrowed
one exactly when it keeps what the row's record has under each name, as it does for columns and for relations that are embedded. -/
theorem values_narrow_records {c : Context} (hr : c.registry.IsBuilt) {s : Store} (hs : s.IsReachable c.registry) {m : Model}
    (hm : c.registry.model? m.name = some m) {names : List String} (hne : names ≠ [])
    (hknown : ∀ name ∈ names, (Serializer.ofModel m).knows name = true) (p : ListParams) :
    (∀ key, c.get s { model := m.name } key { p with values := some names } =
      (c.get s { model := m.name } key { p with values := none }).map (Payload.mapRows (narrow names))) ∧
    (∀ q : Request, q.model = m.name →
      (q.withValues (some names)).answer c s = ((q.withValues none).answer c s).mapRows (narrow names)) ∧
    c.list s { model := m.name } { p with values := none } =
      (c.listed s p { model := m.name }).map (Payload.mapRows (c.record s m p)) ∧
    c.list s { model := m.name } { p with values := some names } = (do
      let stored ← c.listed s p { model := m.name }
      ((names.filter fun name => !m.properties.contains name).forM (c.registry.checkPath m.name)).map fun _ =>
        stored.mapRows (c.chosenRecord s m p names)) ∧
    (∀ name ∈ names, m.properties.contains name = false → Text.contains name LookupKey.separator = false →
      c.registry.checkPath m.name name = .ok ()) ∧
    (∀ stored, c.listed s p { model := m.name } = .ok stored → stored.records ⊆ s.rows m.name) ∧
    ∀ row ∈ s.rows m.name,
      (c.chosenRecord s m p names row = narrow names (c.record s m p row) ↔ ∀ name ∈ names, c.Keeps s m p row name) ∧
        ∀ name ∈ names, m.properties.contains name = false →
          (name ∈ m.valueColumns ∨ ∃ path ∈ c.relatedPaths m p, (LookupKey.segments path).head? = some name) →
            c.Keeps s m p row name := by
  refine ⟨Context.get_values hm hne hknown, Request.answer_withValues hm hne hknown, Context.list_eq hm,
    Context.list_values_eq hm hne hknown, ?_, ?_, ?_⟩
  · intro name hname
    exact checkPath_of_knows hr hm (hknown name hname)
  · intro stored hstored
    exact Context.records_listed hstored
  · intro row hrow
    refine ⟨Context.chosenRecord_eq_iff hr hs hm hrow hknown, fun name hname => ?_⟩
    exact Context.keeps_of_embedded hr hs hm hrow (hknown name hname)

def ownerModel : Model where
  name := "Owner"
  fields := [Model.implicitKey, .inverse { name := "pet_set", source := "Pet", field := "owner", oneToOne := false }]

def petModel : Model where
  name := "Pet"
  fields := [.plain { name := "name", kind := .scalar .char, primaryKey := true }, .reference { name := "owner", target := "Owner" }]

/-- Asked for the owner of a pet without loading it, one row answers with null, and a list with the key. -/
theorem owner_of_pet_listed_by_key :
    ∃ (c : Context) (s : Store), c.registry.IsBuilt ∧ s.IsReachable c.registry ∧
      c.get s { model := "Pet" } (.text "rex") { values := some ["name", "owner"] } =
        .ok (.row (.of [("name", .text "rex"), ("owner", .null)])) ∧
      c.list s { model := "Pet" } { values := some ["name", "owner"] } =
        .ok (.rows [.of [("name", .text "rex"), ("owner", .nat 1)]]) := by
  have hr : Registry.IsBuilt { models := [ownerModel, petModel] } :=
    ⟨[{ name := "Owner" }, petModel], [], [], rfl⟩
  have hs : (Store.afterCalls { models := [ownerModel, petModel] }
      [.create "Owner" [], .create "Pet" (.of [("name", .text "rex"), ("owner", .nat 1)])]).IsReachable
        { models := [ownerModel, petModel] } := ⟨_, rfl⟩
  have hm : Registry.model? { models := [ownerModel, petModel] } petModel.name = some petModel := rfl
  have hknown : ∀ name ∈ ["name", "owner"], (Serializer.ofModel petModel).knows name = true := by decide
  obtain ⟨hget, -, -, hlist, -⟩ := values_narrow_records (c := { registry := { models := [ownerModel, petModel] } }) hr hs hm
    (List.cons_ne_nil _ _) hknown {}
  exact ⟨{ registry := { models := [ownerModel, petModel] } }, _, hr, hs, (hget (.text "rex")).trans rfl, hlist.trans rfl⟩

end ModelCatalog
