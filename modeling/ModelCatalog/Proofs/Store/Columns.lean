import Mathlib.Data.List.Induction
import ModelCatalog.Proofs.Store.Calls

/-!
# The columns of stored rows

After any calls a row has a value in each column of its model and in no other (`rows_fill_columns`). That a value is one that the field of its
column takes is one more thing each step of a table keeps (`TableStep.holdsTaken`); for links it says that they are a list or null.
-/

namespace ModelCatalog

namespace Model

/-- The columns in which rows of the model are stored, in the order of their fields. -/
def storedColumns (m : Model) : List String := m.fields.filterMap Field.column?

theorem mem_storedColumns {m : Model} {column : String} : column ∈ m.storedColumns ↔ ∃ f ∈ m.fields, f.column? = some column :=
  List.mem_filterMap

/-- A column belongs to one field, so it is listed once. -/
theorem IsSound.storedColumns_nodup {m : Model} (h : m.IsSound) : m.storedColumns.Nodup := by
  have hnames := h.names_nodup
  rw [fieldNames, List.nodup_flatMap] at hnames
  rw [storedColumns, List.Nodup, List.pairwise_filterMap]
  refine hnames.2.imp fun {f g} hdisjoint c hfc d hgd hcd => ?_
  subst hcd
  exact hdisjoint ((f.answersTo_iff c).1 (Field.answersTo_column hfc)) ((g.answersTo_iff c).1 (Field.answersTo_column hgd))

/-! ## Values that their fields take -/

/-- Whether a row holds in each column only what the field of the column takes. -/
def HoldsTaken (m : Model) (row : Row) : Prop :=
  ∀ f ∈ m.fields, ∀ c, f.column? = some c → ∀ v, row.get? c = some v → takes f v = true

theorem takes_emptyValue (f : Field) : takes f (emptyValue f) = true := by
  cases f <;> rfl

/-- The field of the primary key takes every value. -/
theorem takes_of_isPrimaryKey {f : Field} (h : f.isPrimaryKey = true) (v : Json) : takes f v = true := by
  cases f with
  | plain | reference => rfl
  | inverse | links => cases h

/-- Links take a list or null. -/
theorem takes_links_iff {l : Links} {v : Json} : takes (.links l) v = true ↔ v = .null ∨ ∃ keys, v = .list keys := by
  cases v <;> simp [takes]

namespace HoldsTaken

variable {m : Model} {row columns : Row}

/-- What is given for a column is taken by its field. -/
theorem of_toColumns (hm : m.IsSound) {values : Row} (h : m.toColumns values = .ok columns) : m.HoldsTaken columns := by
  intro f hf c hc v hv
  rw [get?_toColumns h] at hv
  obtain ⟨e, he, rfl⟩ := Option.map_eq_some_iff.1 hv
  have hcolumn : m.column? e.1 = some c := by simpa using List.find?_some he
  obtain ⟨g, hg, hgc⟩ := Option.bind_eq_some_iff.1 hcolumn
  have haccepts := (m.toColumns_isOk_iff values).1 ⟨columns, h⟩
  have htakes := List.all_eq_true.1 haccepts e (List.mem_reverse.1 (List.mem_of_find?_eq_some he))
  rw [hg, Option.any_some, Bool.and_eq_true] at htakes
  obtain rfl := hm.eq_of_column (hm.fieldAnsweringTo?_eq_some_iff.1 hg).1 hf hgc hc
  exact htakes.2

theorem complete (hm : m.IsSound) (h : m.HoldsTaken row) : m.HoldsTaken (m.complete row) := by
  intro f hf c hc v hv
  rw [get?_complete] at hv
  cases hrow : row.get? c with
  | some old =>
    rw [hrow] at hv
    exact h f hf c hc v (hrow.trans hv)
  | none =>
    rw [hrow, Option.none_or] at hv
    obtain ⟨g, hg, rfl⟩ := Option.map_eq_some_iff.1 hv
    have hgc : g.column? = some c := by simpa using List.find?_some hg
    rw [hm.eq_of_column hf (List.mem_of_find?_eq_some hg) hc hgc]
    exact takes_emptyValue g

/-- Any key may be written. -/
theorem insert_key (hm : m.IsSound) (h : m.HoldsTaken row) {column : String} (hcolumn : m.keyColumn = .ok column) (key : Json) :
    m.HoldsTaken (row.insert column key) := by
  intro f hf c hc v hv
  rw [Dict.get?_insert] at hv
  split at hv
  · rename_i heq
    exact takes_of_isPrimaryKey ((hm.isPrimaryKey_iff hf hc hcolumn).2 heq.symm) v
  · exact h f hf c hc v hv

theorem extend (h : m.HoldsTaken row) (hcolumns : m.HoldsTaken columns) : m.HoldsTaken (row.extend columns) := by
  intro f hf c hc v hv
  rw [Dict.get?_extend_entries] at hv
  cases hnew : columns.get? c with
  | some new =>
    rw [hnew] at hv
    exact hcolumns f hf c hc v (hnew.trans hv)
  | none =>
    rw [hnew, Option.none_or] at hv
    exact h f hf c hc v hv

end HoldsTaken
end Model

/-- Every row a step leaves in the table holds what the fields of the model take, when those before did. -/
theorem TableStep.holdsTaken {m : Model} (hm : m.IsSound) {column : String} (hcolumn : m.keyColumn = .ok column) {t t' : Table}
    {key? : Option Json} (h : TableStep m column t key? t') (ht : ∀ row ∈ t.rows, m.HoldsTaken row) :
    ∀ row ∈ t'.rows, m.HoldsTaken row := by
  intro row hrow
  cases h with
  | assign values columns hcols hnull hauto =>
    rcases List.mem_append.1 hrow with hrow | hrow
    · exact ht row hrow
    · rw [List.mem_singleton.1 hrow]
      exact ((Model.HoldsTaken.of_toColumns hm hcols).complete hm).insert_key hm hcolumn _
  | append values columns hcols hkey hfree =>
    rcases List.mem_append.1 hrow with hrow | hrow
    · exact ht row hrow
    · rw [List.mem_singleton.1 hrow]
      exact (Model.HoldsTaken.of_toColumns hm hcols).complete hm
  | change key values changes place hcols hplace hcheck =>
    rcases List.mem_or_eq_of_mem_set hrow with hrow | rfl
    · exact ht row hrow
    · obtain ⟨hlt, -, -⟩ := List.findIdx?_eq_some_iff_getElem.1 hplace
      rw [List.getElem?_eq_getElem hlt, Option.getD_some]
      exact (ht _ (List.getElem_mem hlt)).extend (Model.HoldsTaken.of_toColumns hm hcols)
  | remove key place hplace => exact ht row (List.mem_of_mem_eraseIdx hrow)

namespace Store

variable {r : Registry} {s : Store}

/-- The rows of every store that calls reach hold what the fields of their models take. -/
theorem holdsTaken (hr : r.IsBuilt) (hs : s.IsReachable r) {column : String} {m : Model} (hm : r.model? m.name = some m)
    (hcolumn : m.keyColumn = .ok column) : ∀ row ∈ s.rows m.name, m.HoldsTaken row := by
  obtain ⟨calls, rfl⟩ := hs
  exact table_afterCalls (fun m _ t => ∀ row ∈ t.rows, m.HoldsTaken row) (fun _ _ _ => by simp)
    (fun _ _ _ _ _ hm hcolumn ht hstep => hstep.holdsTaken (hr.sound hm) hcolumn ht) calls hm hcolumn

/-- Only models of the registry have rows. -/
theorem exists_model_of_mem_rows (hs : s.IsReachable r) {name : String} {row : Row} (hrow : row ∈ s.rows name) :
    ∃ m, r.model? name = some m := by
  obtain ⟨calls, rfl⟩ := hs
  by_contra hnone
  -- a call that succeeds is on another model, and leaves this table empty
  have hempty : (afterCalls r calls).table name = {} := by
    clear hrow
    induction calls using List.reverseRecOn with
    | nil => rfl
    | append_singleton calls c ih =>
      rw [afterCalls_append]
      by_cases hc : c.model = name
      · cases hrun : c.run r (afterCalls r calls) with
        | ok s' =>
          obtain ⟨m, -, -, hm, -⟩ := Call.run_ok hrun
          exact absurd ⟨m, hc ▸ hm⟩ hnone
        | error f => rw [Call.after_of_error hrun, ih]
      · rw [Call.table_after_of_ne hc, ih]
  rw [rows, hempty] at hrow
  cases hrow

/-- Every stored row is one of a model of the registry. It has a value in each column of the model, each once, and in no other: not under
the name of a reference or an inverse relation. Its primary key is not null, and what it holds for links is a list or null. -/
theorem rows_fill_columns (hr : r.IsBuilt) (hs : s.IsReachable r) {name : String} {row : Row} (hrow : row ∈ s.rows name) :
    ∃ m, r.model? name = some m ∧ row.keys.Perm m.storedColumns ∧
      (∀ ref, Field.reference ref ∈ m.fields → ref.name ∉ row.keys) ∧ (∀ i, Field.inverse i ∈ m.fields → i.name ∉ row.keys) ∧
      (∃ column key, m.keyColumn = .ok column ∧ row.get? column = some key ∧ key.isNull = false) ∧
      ∀ l, Field.links l ∈ m.fields → ∃ value, row.get? l.name = some value ∧ (value = .null ∨ ∃ keys, value = .list keys) := by
  obtain ⟨m, hm⟩ := exists_model_of_mem_rows hs hrow
  obtain rfl := Registry.name_of_model? hm
  have hsound := hr.sound hm
  obtain ⟨f, hf, -, -, column, hfc, hcolumn⟩ := hsound.keyColumn
  have hstored := isStored hs hm hcolumn row hrow
  have hcolumns := holdsColumns hs hm hcolumn row hrow
  have htaken := holdsTaken hr hs hm hcolumn row hrow
  have hother : ∀ f ∈ m.fields, f.column? ≠ some f.name → f.name ∉ row.keys := by
    intro f hf hne hmem
    have hnone := get?_eq_none hs hm hcolumn hsound hf ((f.answersTo_iff f.name).2 List.mem_cons_self) hne hrow
    rw [← Dict.get?_isSome_iff, hnone] at hmem
    cases hmem
  refine ⟨m, hm, ?_, ?_, ?_, ⟨column, keyIn column row, hcolumn, hstored.get?_key, hstored.key⟩, ?_⟩
  · refine (List.perm_ext_iff_of_nodup row.keys_nodup hsound.storedColumns_nodup).2 fun c => ?_
    rw [← Dict.get?_isSome_iff, Model.mem_storedColumns]
    exact ⟨hcolumns c, fun ⟨g, hg, hgc⟩ => hstored.complete g hg c hgc⟩
  · exact fun ref href => hother _ href fun h => ref.name_lt_column.ne (Option.some.inj h).symm
  · exact fun i hi => hother _ hi nofun
  · intro l hl
    obtain ⟨value, hvalue⟩ := Option.isSome_iff_exists.1 (hstored.complete _ hl l.name rfl)
    exact ⟨value, hvalue, Model.takes_links_iff.1 (htaken _ hl l.name rfl value hvalue)⟩

end Store

/-- Albums, and songs that may be on one and may be covers of others. -/
def albumModel : Model where
  name := "Album"
  fields := [Model.implicitKey, .inverse { name := "song_set", source := "Song", field := "album", oneToOne := false }]

def songModel : Model where
  name := "Song"
  fields := [Model.implicitKey, .reference { name := "album", target := "Album", null := true },
    .links { name := "covers", target := "Song" }]

/-- A song, a change of it that fails since a text is no list of covers, and one that takes the song off its album. -/
def songCalls : List Call :=
  [.create "Song" (.of [("album", .nat 7), ("covers", .list [.nat 1])]), .update "Song" (.nat 1) (.of [("covers", .text "all")]),
    .update "Song" (.nat 1) (.of [("album", .null)])]

theorem song_fills_columns :
    ∃ (r : Registry) (row : Row), r.IsBuilt ∧ (Store.afterCalls r songCalls).rows "Song" = [row] ∧
      row.keys.Perm ["id", "album_id", "covers"] ∧ "album" ∉ row.keys ∧
      ∃ value, row.get? "covers" = some value ∧ (value = .null ∨ ∃ keys, value = .list keys) := by
  have hr : Registry.IsBuilt { models := [albumModel, songModel] } :=
    ⟨[{ name := "Album" }, { name := "Song", fields := songModel.fields.tail }], [], [], rfl⟩
  have hone : ((Store.afterCalls { models := [albumModel, songModel] } songCalls).rows "Song").length = 1 := by decide +kernel
  obtain ⟨row, hrow⟩ := List.length_eq_one_iff.1 hone
  obtain ⟨m, hm, hkeys, hreference, -, -, hlinks⟩ := Store.rows_fill_columns hr ⟨songCalls, rfl⟩ (hrow ▸ List.mem_singleton_self _)
  obtain rfl : songModel = m := Option.some.inj hm
  exact ⟨_, _, hr, hrow, hkeys, hreference { name := "album", target := "Album", null := true } (by simp [songModel]),
    hlinks { name := "covers", target := "Song" } (by simp [songModel])⟩

end ModelCatalog
