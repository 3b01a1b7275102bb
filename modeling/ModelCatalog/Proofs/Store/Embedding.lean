import ModelCatalog.Proofs.Query.Conditions
import ModelCatalog.Proofs.Store.Join
import ModelCatalog.Proofs.Store.Reading

/-!
# Embedded rows and filtered rows

A reference and its inverse can be followed in two ways: related rows are embedded in a row, or a query set is filtered by the value of
the reference. The two compare keys on their own, and agree (`embedded_rows_are_filtered`): both go by `Reference.leadsTo`, since the keys
of stored rows are not null.
-/

namespace ModelCatalog

/-- An inverse relation of one model is the other end of a reference of another. -/
structure IsInverseOf (r : Registry) (n : Model) (i : Inverse) (m : Model) (ref : Reference) : Prop where
  referring_mem : m ∈ r.models
  referred_mem : n ∈ r.models
  reference_mem : Field.reference ref ∈ m.fields
  inverse_mem : Field.inverse i ∈ n.fields
  target : ref.target = n.name
  source : i.source = m.name
  field : i.field = ref.name

/-- Whether the reference of one row is the key of another. -/
def Reference.leadsTo (ref : Reference) (key : String) (a t : Row) : Bool := (keyIn ref.column a).equals (keyIn key t)

/-- The first of some rows as a value, or null. -/
def firstRow (rows : List Row) : Json := (rows.head?.map fun row : Row => Json.object row).getD .null

/-- Rows as the value of an inverse relation: the first of them, if it is one-to-one, or their list. -/
def Inverse.valueOf (i : Inverse) (rows : List Row) : Json :=
  if i.oneToOne then firstRow rows else .list (rows.map fun row : Row => .object row)

/-! ## Filters -/

/-- In a row the primary key field has the value of its column. -/
theorem Field.valuesIn_of_isPrimaryKey {f : Field} (hf : f.isPrimaryKey = true) {column : String} (hcolumn : f.column? = some column)
    (row : Row) : f.valuesIn row = [keyIn column row] := by
  cases f with
  | plain c | reference ref =>
    cases hcolumn
    rfl
  | inverse i | links l => cases hf

/-- Filtering by the value of a column keeps the rows that hold an equal value there. -/
theorem QuerySet.fetch_exact {r : Registry} {s : Store} {m : Model} (hm : r.model? m.name = some m) {name column : String} {f : Field}
    (hf : m.fieldAnsweringTo? name = some f) (hvalues : ∀ row, f.valuesIn row = [keyIn column row])
    (hwhole : Text.contains name LookupKey.separator = false) (v : Json) :
    (QuerySet.filter { model := m.name } (.test name (.exact v))).fetch r s =
      .ok ((s.rows m.name).filter fun row => (keyIn column row).equals v) := by
  have hstored : f.column?.isSome = true := by
    cases f with
    | inverse i => cases hvalues .empty
    | _ => rfl
  have hcheck : [name].forM (r.checkPath m.name) = .ok () := by
    rw [Outcome.forM_ok_iff]
    intro path hpath
    rw [List.mem_singleton.1 hpath]
    exact Registry.checkPath_stored hm hf hstored hwhole
  have hholds : ∀ row, Condition.holds (s.valuesAt r m.name row) (.test name (.exact v)) = (keyIn column row).equals v := by
    intro row
    rw [Condition.holds, Store.valuesAt_stored hm hf hstored hwhole, hvalues]
    simp [Condition.matchesAt, Lookup.holds_exact]
  have hfetch := fetch_filters r s m.name [.test name (.exact v)]
  rw [List.flatMap_singleton, Condition.paths, hcheck] at hfetch
  simp only [List.all_cons, List.all_nil, Bool.and_true, hholds] at hfetch
  exact hfetch

/-- The entry of a name without a separator is the condition of an equal value. -/
theorem Condition.ofEntry_of_whole {name : String} (hwhole : Text.contains name LookupKey.separator = false) (hname : name ≠ "")
    (v : Json) : ofEntry name v = .ok (.test name (.exact v)) := by
  have hjoin : LookupKey.join [name] = name := String.intercalate_singleton
  have hempty : "" ∉ [name] := fun h => hname (List.mem_singleton.1 h).symm
  rw [Condition.ofEntry_ok_iff, LookupKey.parse_of_whole hwhole, hjoin]
  exact ⟨hempty, _, rfl, rfl⟩

/-! ## Embedding -/

namespace QuerySet

theorem embed_nil (r : Registry) (s : Store) (model : String) : embed r s model [] = id := rfl

@[simp] theorem onEmbedded_object (f : Row → Row) (row : Row) : onEmbedded f (.object row) = .object (f row) := by
  rw [onEmbedded, Dict.of_entries]

@[simp] theorem onEmbedded_list (f : Row → Row) (rows : List Row) :
    onEmbedded f (.list (rows.map fun row : Row => .object row)) = .list (rows.map fun row : Row => .object (f row)) := by
  rw [onEmbedded, List.map_map]
  congr 1
  exact List.map_congr_left fun row _ => onEmbedded_object f row

/-- Rows that are left as they are leave the value of an inverse relation. -/
theorem onEmbedded_id (i : Inverse) (rows : List Row) : onEmbedded id (i.valueOf rows) = i.valueOf rows := by
  unfold Inverse.valueOf firstRow
  split
  · cases rows with
    | nil => rfl
    | cons row rows => exact onEmbedded_object id row
  · exact onEmbedded_list id rows

variable {r : Registry} {s : Store} {m n : Model}

/-- A query set that embeds along a path has the rows of the table, each with what is embedded in it. -/
theorem fetch_embedding (r : Registry) (s : Store) (model path : String) :
    (QuerySet.embedding { model } [path]).fetch r s = .ok ((s.rows model).map (embed r s model (LookupKey.segments path))) := by
  have hplain : IsPlain (QuerySet.embedding { model } [path]) := ⟨rfl, rfl, rfl, rfl⟩
  have hshape : shape r s (QuerySet.embedding { model } [path]) = embed r s model (LookupKey.segments path) := rfl
  rw [fetch, hplain.check, hplain.matching, hshape]
  rfl

/-- Embedding along a reference that a row does not hold yet puts the row it leads to under its name. -/
theorem embed_reference (hm : r.model? m.name = some m) (hsound : m.IsSound) {ref : Reference} (href : Field.reference ref ∈ m.fields)
    {a : Row} (ha : a.get? ref.name = none) :
    embed r s m.name [ref.name] a = a.insert ref.name (firstRow (s.rowsWithKeys r ref.target [keyIn ref.column a])) := by
  have hfield : m.field? ref.name = some (.reference ref) := hsound.field?_of_mem href
  have hunder : underReference r s ref a = firstRow (s.rowsWithKeys r ref.target [keyIn ref.column a]) := by
    rw [underReference, ha]
    rfl
  rw [embed, hm, Option.bind_some, hfield]
  simp only [hunder, embed_nil, id]
  congr 1
  rw [firstRow]
  cases (s.rowsWithKeys r ref.target [keyIn ref.column a]).head? with
  | none => rfl
  | some row => exact onEmbedded_object id row

/-- Embedding along an inverse relation that a row does not hold yet puts the rows that refer to it under its name. -/
theorem embed_inverse (hn : r.model? n.name = some n) (hsound : n.IsSound) {i : Inverse} (hi : Field.inverse i ∈ n.fields) {t : Row}
    (ht : t.get? i.name = none) :
    embed r s n.name [i.name] t = t.insert i.name (i.valueOf (s.rowsReferring r n.name [t] i)) := by
  have hfield : n.field? i.name = some (.inverse i) := hsound.field?_of_mem hi
  rw [embed, hn, Option.bind_some, hfield]
  simp only [embed_nil, ht, Option.getD_none]
  exact congrArg (t.insert i.name) (onEmbedded_id i (s.rowsReferring r n.name [t] i))

end QuerySet

namespace IsInverseOf

variable {r : Registry} {s : Store} {m n : Model} {ref : Reference} {i : Inverse} (hr : r.IsBuilt) (hs : s.IsReachable r)
  (h : IsInverseOf r n i m ref) {key : String} (hkey : n.keyColumn = .ok key)

include hr hs h hkey

/-- The rows that a reference leads to are those whose key it is. -/
theorem rowsWithKeys_eq (a : Row) : s.rowsWithKeys r ref.target [keyIn ref.column a] = (s.rows n.name).filter (ref.leadsTo key a) := by
  have hn := hr.model?_of_mem h.referred_mem
  have hcolumn : r.keyColumn? n.name = some key := by
    rw [Registry.keyColumn?, hn, Option.bind_some, hkey]
    rfl
  rw [h.target, Store.rowsWithKeys, hcolumn]
  refine List.filter_congr fun t ht => ?_
  rw [(Store.isStored hs hn hkey t ht).get?_key]
  simp [Reference.leadsTo]

/-- The rows that an inverse relation leads to are those whose reference is the key of the row. -/
theorem rowsReferring_eq {t : Row} (ht : t ∈ s.rows n.name) :
    s.rowsReferring r n.name [t] i = (s.rows m.name).filter fun a => ref.leadsTo key a t := by
  have hn := hr.model?_of_mem h.referred_mem
  have hstored := Store.isStored hs hn hkey t ht
  have hcolumn : r.keyColumn? n.name = some key := by
    rw [Registry.keyColumn?, hn, Option.bind_some, hkey]
    rfl
  have hkeys : [t].filterMap (·.get? key) = [keyIn key t] := by simp [hstored.get?_key]
  rw [Store.rowsReferring, hcolumn]
  simp only [hkeys, h.source, h.field]
  refine List.filter_congr fun a _ => ?_
  have hvalue : keyIn ref.column a = (a.get? ref.column).getD .null := rfl
  change (a.get? ref.column).any _ = _
  -- a reference that is missing or null is not equal to the key, which is not null
  rw [Reference.leadsTo, Json.equals_of_not_null hstored.key, hvalue]
  cases a.get? ref.column with
  | none => simp [Json.isNull]
  | some v => simp [Json.equals_comm]

omit hkey in
/-- A stored row does not hold an inverse relation. -/
theorem get?_inverse {t : Row} (ht : t ∈ s.rows n.name) : t.get? i.name = none := by
  have hn := hr.model?_of_mem h.referred_mem
  obtain ⟨-, -, -, -, column, -, hcolumn⟩ := (hr.sound hn).keyColumn
  have hname : (Field.inverse i).answersTo i.name = true := by simp [Field.answersTo, Field.name]
  have hunstored : (Field.inverse i).column? ≠ some i.name := by simp [Field.column?]
  exact Store.get?_eq_none hs hn hcolumn (hr.sound hn) h.inverse_mem hname hunstored ht

omit hkey in
/-- A stored row holds a reference under the name of its column only. -/
theorem get?_reference {a : Row} (ha : a ∈ s.rows m.name) : a.get? ref.name = none := by
  have hm := hr.model?_of_mem h.referring_mem
  obtain ⟨-, -, -, -, column, -, hcolumn⟩ := (hr.sound hm).keyColumn
  have hname : (Field.reference ref).answersTo ref.name = true := by simp [Field.answersTo, Field.name]
  have hother : (Field.reference ref).column? ≠ some ref.name := fun hc => ref.name_ne_column (Option.some.inj hc).symm
  exact Store.get?_eq_none hs hm hcolumn (hr.sound hm) h.reference_mem hname hother ha

end IsInverseOf

/-! ## Agreement -/

/-- A reference and its inverse give the same rows embedded and filtered. In a row that is referred to, the inverse embeds the rows that a
filter for its key finds, in their order: all of them in a list, or the first of them. In a row that refers, the reference embeds the
first row that a filter for the value of its column finds. A row is found from another exactly when that is found from it. The filters are
those of the entries that a client writes, unless a name is empty. -/
theorem embedded_rows_are_filtered {r : Registry} (hr : r.IsBuilt) {s : Store} (hs : s.IsReachable r) {m n : Model} {ref : Reference}
    {i : Inverse} (h : IsInverseOf r n i m ref) {key : String} (hkey : n.keyColumn = .ok key)
    (hwhole : ∀ name ∈ [ref.name, i.name, key], Text.contains name LookupKey.separator = false) :
    ∃ referring referred : Row → List Row,
      (∀ t ∈ s.rows n.name,
        (QuerySet.filter { model := m.name } (.test ref.name (.exact (keyIn key t)))).fetch r s = .ok (referring t)) ∧
      (QuerySet.embedding { model := n.name } [i.name]).fetch r s =
        .ok ((s.rows n.name).map fun t => t.insert i.name (i.valueOf (referring t))) ∧
      (∀ a ∈ s.rows m.name,
        (QuerySet.filter { model := n.name } (.test key (.exact (keyIn ref.column a)))).fetch r s = .ok (referred a)) ∧
      (QuerySet.embedding { model := m.name } [ref.name]).fetch r s =
        .ok ((s.rows m.name).map fun a => a.insert ref.name (firstRow (referred a))) ∧
      (∀ t ∈ s.rows n.name, ∀ a ∈ s.rows m.name, a ∈ referring t ↔ t ∈ referred a) ∧
      ∀ name ∈ [ref.name, key], name ≠ "" → ∀ v, Condition.ofEntry name v = .ok (.test name (.exact v)) := by
  have hm := hr.model?_of_mem h.referring_mem
  have hn := hr.model?_of_mem h.referred_mem
  have hrefWhole := hwhole ref.name (by simp)
  have hinvWhole := hwhole i.name (by simp)
  have hkeyWhole := hwhole key (by simp)
  refine ⟨fun t => (s.rows m.name).filter fun a => ref.leadsTo key a t, fun a => (s.rows n.name).filter (ref.leadsTo key a),
    ?_, ?_, ?_, ?_, ?_, ?_⟩
  · intro t _
    have hfield : m.fieldAnsweringTo? ref.name = some (.reference ref) :=
      (hr.sound hm).fieldAnsweringTo?_of_mem h.reference_mem List.mem_cons_self
    exact QuerySet.fetch_exact hm hfield (fun _ => rfl) hrefWhole (keyIn key t)
  · rw [QuerySet.fetch_embedding, LookupKey.segments_of_whole hinvWhole]
    congr 1
    refine List.map_congr_left fun t ht => ?_
    rw [QuerySet.embed_inverse hn (hr.sound hn) h.inverse_mem (h.get?_inverse hr hs ht), h.rowsReferring_eq hr hs hkey ht]
  · intro a _
    obtain ⟨f, hf, hprimary, -, column, hfc, hcolumn⟩ := (hr.sound hn).keyColumn
    obtain rfl : key = column := Except.ok.inj (hkey.symm.trans hcolumn)
    have hfield : n.fieldAnsweringTo? key = some f :=
      (hr.sound hn).fieldAnsweringTo?_eq_some_iff.2 ⟨hf, Field.answersTo_column hfc⟩
    rw [QuerySet.fetch_exact hn hfield (Field.valuesIn_of_isPrimaryKey hprimary hfc) hkeyWhole]
    congr 1
    exact List.filter_congr fun t _ => Json.equals_comm _ _
  · rw [QuerySet.fetch_embedding, LookupKey.segments_of_whole hrefWhole]
    congr 1
    refine List.map_congr_left fun a ha => ?_
    rw [QuerySet.embed_reference hm (hr.sound hm) h.reference_mem (h.get?_reference hr hs ha), h.rowsWithKeys_eq hr hs hkey]
  · intro t ht a ha
    simp only [List.mem_filter, ht, ha, true_and]
  · intro name hname hne v
    have hnameWhole : Text.contains name LookupKey.separator = false := by
      refine hwhole name ?_
      rcases List.mem_pair.1 hname with rfl | rfl <;> simp
    exact Condition.ofEntry_of_whole hnameWhole hne v

/-- Teams, and players who may be in one. -/
def teamModel : Model where
  name := "Team"
  fields := [Model.implicitKey, .inverse { name := "player_set", source := "Player", field := "team", oneToOne := false }]

def playerModel : Model where
  name := "Player"
  fields := [Model.implicitKey, .reference { name := "team", target := "Team", null := true }]

theorem teams_isBuilt : Registry.IsBuilt { models := [teamModel, playerModel] } :=
  ⟨[{ name := "Team" }, { name := "Player", fields := [.reference { name := "team", target := "Team", null := true }] }], [], [], rfl⟩

/-- Of three players the first is in a team by its key 1, the second in none, and the third in the first team by the number 1.0. -/
theorem players_embedded_as_filtered :
    ∃ (r : Registry) (s : Store) (found : List Row), r.IsBuilt ∧ s.IsReachable r ∧ found.length = 2 ∧
      (QuerySet.filter { model := "Player" } (.test "team" (.exact (.nat 1)))).fetch r s = .ok found ∧
      (QuerySet.embedding { model := "Team" } ["player_set"]).fetch r s =
        .ok [.of [("id", .nat 1), ("player_set", .list (found.map fun row : Row => .object row))],
          .of [("id", .nat 2), ("player_set", .list [])]] := by
  have hr := teams_isBuilt
  let s := Store.afterCalls { models := [teamModel, playerModel] }
    [.create "Team" [], .create "Team" [], .create "Player" (.of [("team", .nat 1)]), .create "Player" [],
      .create "Player" (.of [("team", .number (.real (.ofInt 1)))])]
  have hs : s.IsReachable { models := [teamModel, playerModel] } := ⟨_, rfl⟩
  have hinverse : IsInverseOf { models := [teamModel, playerModel] } teamModel
      { name := "player_set", source := "Player", field := "team", oneToOne := false } playerModel
      { name := "team", target := "Team", null := true } :=
    ⟨by simp, by simp, by simp [playerModel], by simp [teamModel], rfl, rfl, rfl⟩
  have hkey : teamModel.keyColumn = .ok "id" := rfl
  obtain ⟨referring, referred, hfilter, hembed, -⟩ := embedded_rows_are_filtered hr hs hinverse hkey (by decide)
  have hfirst := hfilter (.of [("id", .nat 1)]) List.mem_cons_self
  have hsecond := hfilter (.of [("id", .nat 2)]) (List.mem_cons_of_mem _ List.mem_cons_self)
  have hnone : referring (.of [("id", .nat 2)]) = [] := by
    have hlength := congrArg (fun rows => rows.toOption.map List.length) hsecond
    have hzero : some 0 = some (referring (.of [("id", .nat 2)])).length := Eq.trans (by decide +kernel) hlength
    exact List.length_eq_zero_iff.1 (Option.some.inj hzero).symm
  have htwo : (referring (.of [("id", .nat 1)])).length = 2 := by
    have hlength := congrArg (fun rows => rows.toOption.map List.length) hfirst
    have hpair : some 2 = some (referring (.of [("id", .nat 1)])).length := Eq.trans (by decide +kernel) hlength
    exact (Option.some.inj hpair).symm
  refine ⟨_, _, referring (.of [("id", .nat 1)]), hr, hs, htwo, hfirst, hembed.trans ?_⟩
  have hteams : s.rows teamModel.name = [.of [("id", .nat 1)], .of [("id", .nat 2)]] := rfl
  rw [hteams, List.map_cons, List.map_singleton, hnone]
  simp [Inverse.valueOf, Dict.of]

end ModelCatalog
