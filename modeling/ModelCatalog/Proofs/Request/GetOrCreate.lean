import ModelCatalog.Proofs.Lists
import ModelCatalog.Proofs.Query.Conditions
import ModelCatalog.Proofs.Request.ReadOnly
import ModelCatalog.Proofs.Store.Calls
import ModelCatalog.Proofs.Store.Paths
import ModelCatalog.Proofs.Store.Reading
import ModelCatalog.Request.Handlers

/-!
# Rows found or created

A request for the row that matches a lookup creates one when there is none. Where the entries of the lookup are for columns of the model
(`Model.LooksUpColumns`), whether a row matches depends on the row alone, so the same request finds the created row exactly when that
matches. It holds what was asked for, entry by entry (`Model.keepsEntry`), but for two things: a value for a field that only can be read is
not written, and an assigned key takes the place of null (`created_rows_found_again`).
-/

namespace ModelCatalog

/-! ## Entries for columns -/

/-- Whether an entry for a stored field matches a row depends on nothing but the row. -/
theorem entryMatches_stored {r : Registry} {m : Model} (hm : r.model? m.name = some m) {e : String × Json} {f : Field}
    (hf : m.fieldAnsweringTo? e.1 = some f) (hstored : f.column?.isSome = true)
    (hkey : Text.contains e.1 LookupKey.separator = false) (s : Store) (row : Row) :
    Condition.entryMatches (s.valuesAt r m.name row) e = Condition.matchesAt (.exact e.2) (f.valuesIn row) := by
  have hpath : Condition.entryPath e = e.1 := by
    rw [Condition.entryPath, LookupKey.parse_of_whole hkey]
    exact String.intercalate_singleton
  rw [Condition.entryMatches, LookupKey.parse_of_whole hkey, hpath, Store.valuesAt_stored hm hf hstored hkey]
  rfl

namespace Model

/-- A lookup whose entries are for columns of the model, each under a name of the column's field; entries for one column agree. -/
structure LooksUpColumns (m : Model) (lookup : Row) : Prop where
  stored : ∀ e ∈ lookup, (m.column? e.1).isSome = true
  whole : ∀ e ∈ lookup, Text.contains e.1 LookupKey.separator = false
  agree : ∀ e ∈ lookup, ∀ e' ∈ lookup, m.column? e.1 = m.column? e'.1 → e.2.equals e'.2 = true

/-- The field and the column of an entry. -/
theorem LooksUpColumns.exists_field {m : Model} {lookup : Row} (h : m.LooksUpColumns lookup) {e : String × Json} (he : e ∈ lookup) :
    ∃ f c, m.fieldAnsweringTo? e.1 = some f ∧ f.column? = some c := by
  obtain ⟨c, hc⟩ := Option.isSome_iff_exists.1 (h.stored e he)
  obtain ⟨f, hf, hfc⟩ := Option.bind_eq_some_iff.1 hc
  exact ⟨f, c, hf, hfc⟩

/-- Whether a row that is created for an entry matches it: what is stored for the entry's value, which is not written where the field only
can be read, is equal to the value. -/
def keepsEntry (m : Model) (nextKey : Nat) (entry : String × Json) : Bool :=
  (m.fieldAnsweringTo? entry.1).any fun f => (m.keyed nextKey f (if f.isReadOnly then .null else entry.2)).equals entry.2

/-- For equal values a new row holds equal values. -/
theorem equals_keyed (m : Model) (nextKey : Nat) (f : Field) {v w : Json} (h : v.equals w = true) :
    (m.keyed nextKey f v).equals (m.keyed nextKey f w) = true := by
  unfold keyed
  rw [Json.isNull_congr h]
  split
  · exact Json.equals_refl _
  · exact h

/-- An entry for a field that can be written is kept, unless it asks for null where a key is assigned. -/
theorem keepsEntry_of_writable {m : Model} {entry : String × Json} {f : Field} (hf : m.fieldAnsweringTo? entry.1 = some f)
    (hwritable : f.isReadOnly = false) (hkey : (m.assignsKeys && f.isPrimaryKey && entry.2.isNull) = false) (nextKey : Nat) :
    m.keepsEntry nextKey entry = true := by
  rw [keepsEntry, hf, Option.any_some, hwritable, keyed, if_neg Bool.false_ne_true, hkey, if_neg Bool.false_ne_true]
  exact Json.equals_refl _

end Model

namespace Context

/-! ## Rows that match -/

/-- The rows of a model that match a lookup. -/
def matching (c : Context) (s : Store) (m : Model) (lookup : Row) : List Row :=
  (s.rows m.name).filter fun row => lookup.entries.all (Condition.entryMatches (s.valuesAt c.registry m.name row))

/-- A lookup whose entries have conditions on paths that make sense finds the row that matches, when there is at most one. -/
theorem findRow_ok_iff {c : Context} {s : Store} {m : Model} (hm : c.registry.model? m.name = some m) {lookup : Row}
    {found : Option Row} :
    c.findRow s m lookup = .ok found ↔
      (∃ condition, Condition.ofEntries lookup = .ok condition ∧
        condition.paths.forM (c.registry.checkPath m.name) = .ok ()) ∧ c.matching s m lookup = found.toList := by
  have hfetch : ∀ condition, Condition.ofEntries lookup = .ok condition →
      QuerySet.fetch c.registry s (QuerySet.filter { model := m.name } condition) =
        (condition.paths.forM (c.registry.checkPath m.name)).map fun _ => c.matching s m lookup := by
    intro condition hcondition
    have hfilters := QuerySet.fetch_filters c.registry s m.name [condition]
    simp only [List.flatMap_singleton, List.all_cons, List.all_nil, Bool.and_true,
      Condition.holds_ofEntries hcondition] at hfilters
    exact hfilters
  unfold findRow
  rw [QuerySet.of_eq hm]
  simp only [bind, Except.bind]
  cases hcondition : Condition.ofEntries lookup with
  | error f => simp
  | ok condition =>
    simp only [hfetch condition hcondition]
    cases hcheck : condition.paths.forM (c.registry.checkPath m.name) with
    | error f => simp only [Except.map, Except.ok.injEq, exists_eq_left', hcheck, reduceCtorEq, false_and]
    | ok checked =>
      simp only [Except.map, Except.ok.injEq, exists_eq_left', hcheck, true_and]
      cases c.matching s m lookup with
      | nil => cases found <;> simp [pure, Except.pure]
      | cons row rest => cases rest <;> cases found <;> simp [pure, Except.pure]

section

variable {c : Context} {s : Store} {m : Model} (hm : c.registry.model? m.name = some m) {lookup : Row} (defaults : Row)
  (p : ListParams)

include hm

theorem getOrCreate_of_error {f : Failure} (h : c.findRow s m lookup = .error f) :
    c.getOrCreate s m.name lookup defaults p = { outcome := .error f, store := s } := by
  rw [getOrCreate_eq hm, h]

/-- Nothing is written when a row is found. -/
theorem getOrCreate_of_found {row : Row} (h : c.findRow s m lookup = .ok (some row)) :
    c.getOrCreate s m.name lookup defaults p = { outcome := (c.writtenRow s m row p).map (.found · false), store := s } := by
  rw [getOrCreate_eq hm, h]

/-- When none is found, an answer is about a row that was created. -/
theorem getOrCreate_of_none (h : c.findRow s m lookup = .ok none) {payload : Payload}
    (hpayload : (c.getOrCreate s m.name lookup defaults p).outcome = .ok payload) :
    ∃ row after record, c.createRow s m (valuesToCreate lookup defaults) = .ok (row, after) ∧
      (c.getOrCreate s m.name lookup defaults p).store = after ∧ c.writtenRow after m row p = .ok record ∧
      payload = .found record true := by
  rw [getOrCreate_eq hm, h] at hpayload ⊢
  cases hcreate : c.createRow s m (valuesToCreate lookup defaults) with
  | error f =>
    rw [hcreate] at hpayload
    cases hpayload
  | ok created =>
    rw [hcreate] at hpayload
    obtain ⟨record, hrecord, rfl⟩ := Outcome.map_ok_iff.1 hpayload
    exact ⟨_, _, record, rfl, rfl, hrecord, rfl⟩

end

/-! ## Created rows -/

section

variable {m : Model} (hsound : m.IsSound) {f : Field} {c : String} (hc : f.column? = some c)

include hsound hc

/-- For a field that can be written a created row gets the value of its entry, or an equal one. -/
theorem exists_given_toCreate {lookup defaults : Row} (hlookup : m.LooksUpColumns lookup)
    (hapart : ∀ e ∈ lookup, ∀ d ∈ defaults, m.fieldAnsweringTo? d.1 ≠ m.fieldAnsweringTo? e.1) {e : String × Json} (he : e ∈ lookup)
    (hf : m.fieldAnsweringTo? e.1 = some f) (hwritable : f.isReadOnly = false) :
    ∃ v, m.given (writable m (valuesToCreate lookup defaults)) c = some v ∧ v.equals e.2 = true := by
  have hcolumn : m.column? e.1 = some c := Option.bind_eq_some_iff.2 ⟨f, hf, hc⟩
  have hsubmitted : e ∈ writable m (valuesToCreate lookup defaults) := by
    refine List.mem_filter.2 ⟨Dict.mem_extend_of_ne (List.mem_filter.2 ⟨he, ?_⟩) fun d hd heq => ?_, ?_⟩
    · rw [hlookup.whole e he]
      rfl
    · exact hapart e he d hd (heq ▸ rfl)
    · rw [hf, Option.any_some, hwritable]
      rfl
  cases hgiven : (writable m (valuesToCreate lookup defaults)).entries.reverse.find? fun e => m.column? e.1 = some c with
  | none => exact absurd (decide_eq_true hcolumn) (List.find?_eq_none.1 hgiven e (List.mem_reverse.2 hsubmitted))
  | some e' =>
    have hfound := List.find?_some hgiven
    have hcolumn' : m.column? e'.1 = some c := of_decide_eq_true hfound
    have hmem := (List.mem_filter.1 (List.mem_reverse.1 (List.mem_of_find?_eq_some hgiven))).1
    refine ⟨e'.2, by rw [Model.given, hgiven]; rfl, ?_⟩
    rcases Dict.mem_of_mem_extend hmem with hdefault | hentry
    · obtain ⟨g, hg, hgc⟩ := Option.bind_eq_some_iff.1 hcolumn'
      obtain rfl := hsound.eq_of_column (List.mem_of_find?_eq_some hg) (List.mem_of_find?_eq_some hf) hgc hc
      exact absurd (hg.trans hf.symm) (hapart e he e' hdefault)
    · exact hlookup.agree e' (List.mem_filter.1 hentry).1 e he (hcolumn'.trans hcolumn.symm)

end

section

variable {c : Context} {m : Model} (hm : c.registry.model? m.name = some m) (hsound : m.IsSound) {s after : Store}
  {lookup defaults row : Row} (hlookup : m.LooksUpColumns lookup)
  (hapart : ∀ e ∈ lookup, ∀ d ∈ defaults, m.fieldAnsweringTo? d.1 ≠ m.fieldAnsweringTo? e.1)
  (hrow : s.insertRow c.registry m.name (writable m (valuesToCreate lookup defaults)) = .ok (row, after))

include hm hsound hlookup hapart hrow

/-- A created row matches an entry of its lookup exactly when it keeps the entry. -/
theorem entryMatches_created {e : String × Json} (he : e ∈ lookup) :
    Condition.entryMatches (after.valuesAt c.registry m.name row) e = m.keepsEntry (s.table m.name).nextKey e := by
  obtain ⟨f, column, hf, hc⟩ := hlookup.exists_field he
  have hmem := List.mem_of_find?_eq_some hf
  have hvalue := Store.get?_insertRow hm hsound hrow hmem hc
  rw [entryMatches_stored hm hf (Option.isSome_iff_exists.2 ⟨column, hc⟩) (hlookup.whole e he), Model.keepsEntry, hf, Option.any_some]
  cases hreadOnly : f.isReadOnly with
  | true =>
    rw [given_writable_of_readOnly hsound hc hmem hreadOnly, Option.getD_none] at hvalue
    cases f with
    | plain | reference =>
      cases hc
      simp [Field.valuesIn, Condition.matchesAt, hvalue, Lookup.holds_exact, Model.emptyValue]
    | inverse => cases hc
    | links l =>
      cases hc
      simp [Field.valuesIn, Store.linkedKeys, Condition.matchesAt, hvalue, Lookup.holds_exact, Model.emptyValue, Model.keyed,
        Field.isPrimaryKey]
  | false =>
    obtain ⟨v, hv, heq⟩ := exists_given_toCreate hsound hc hlookup hapart he hf hreadOnly
    rw [hv, Option.getD_some] at hvalue
    have hkeyed := m.equals_keyed (s.table m.name).nextKey f heq
    cases f with
    | plain | reference =>
      cases hc
      simp [Field.valuesIn, Condition.matchesAt, hvalue, Lookup.holds_exact, Json.equals_congr hkeyed]
    | inverse | links => cases hreadOnly

/-- After a row was created for a lookup that no row matched, the lookup finds that row when it keeps all entries, and otherwise none. -/
theorem findRow_created (hfind : c.findRow s m lookup = .ok none) :
    c.findRow after m lookup = .ok (if lookup.entries.all (m.keepsEntry (s.table m.name).nextKey) then some row else none) := by
  obtain ⟨hvalid, hnone⟩ := (findRow_ok_iff hm).1 hfind
  refine (findRow_ok_iff hm).2 ⟨hvalid, ?_⟩
  have hold : (s.rows m.name).filter (fun old =>
      lookup.entries.all (Condition.entryMatches (after.valuesAt c.registry m.name old))) = [] := by
    rw [← Option.toList_none, ← hnone]
    refine List.filter_congr fun old _ => all_congr_of_mem fun e he => ?_
    obtain ⟨f, column, hf, hcolumn⟩ := hlookup.exists_field he
    have hstored : f.column?.isSome = true := Option.isSome_iff_exists.2 ⟨column, hcolumn⟩
    rw [entryMatches_stored hm hf hstored (hlookup.whole e he), entryMatches_stored hm hf hstored (hlookup.whole e he)]
  have hnew : lookup.entries.all (Condition.entryMatches (after.valuesAt c.registry m.name row)) =
      lookup.entries.all (m.keepsEntry (s.table m.name).nextKey) :=
    all_congr_of_mem fun e he => entryMatches_created hm hsound hlookup hapart hrow he
  rw [matching, Store.rows_insertRow hrow, List.filter_append, hold, List.nil_append, List.filter_cons, hnew]
  split <;> rfl

end

end Context

/-- A request that succeeds for the row that matches a lookup of columns, with defaults for other fields, is answered with the same record
when it is made again, as one that was not created, and leaves the store as it is, exactly when the row was there before or keeps all entries
of the lookup. -/
theorem created_rows_found_again {c : Context} (hr : c.registry.IsBuilt) {m : Model} (hm : c.registry.model? m.name = some m)
    (s : Store) {lookup defaults : Row} (hlookup : m.LooksUpColumns lookup)
    (hapart : ∀ e ∈ lookup, ∀ d ∈ defaults, m.fieldAnsweringTo? d.1 ≠ m.fieldAnsweringTo? e.1) (p : ListParams) :
    let first := c.getOrCreate s m.name lookup defaults p
    let second := c.getOrCreate first.store m.name lookup defaults p
    (∃ payload, first.outcome = .ok payload) →
    ∃ record created, first.outcome = .ok (.found record created) ∧
      (second = { outcome := .ok (.found record false), store := first.store } ↔
        created = false ∨ ∀ e ∈ lookup, m.keepsEntry (s.table m.name).nextKey e = true) := by
  rintro first second ⟨payload, hpayload⟩
  cases hfind : c.findRow s m lookup with
  | error f =>
    have hfirst : first = _ := Context.getOrCreate_of_error hm defaults p hfind
    rw [hfirst] at hpayload
    cases hpayload
  | ok found =>
    cases found with
    | some row =>
      -- nothing was written, so the second request is the first
      have hfirst : first = _ := Context.getOrCreate_of_found hm defaults p hfind
      have hstore : first.store = s := by rw [hfirst]
      have hsecond : second = first := congrArg (fun s => c.getOrCreate s m.name lookup defaults p) hstore
      have hrecord := hpayload
      rw [hfirst] at hrecord
      obtain ⟨record, -, rfl⟩ := Outcome.map_ok_iff.1 hrecord
      refine ⟨record, false, hpayload, iff_of_true ?_ (Or.inl rfl)⟩
      rw [hsecond, ← hpayload]
    | none =>
      obtain ⟨row, after, record, hcreate, hstore, hwritten, rfl⟩ := Context.getOrCreate_of_none hm defaults p hfind hpayload
      rw [Context.createRow_eq] at hcreate
      obtain ⟨_, -, hrow⟩ := Outcome.bind_ok_iff.1 hcreate
      have hsecond : second = c.getOrCreate after m.name lookup defaults p :=
        congrArg (fun s => c.getOrCreate s m.name lookup defaults p) hstore
      have hagain := Context.findRow_created hm (hr.sound hm) hlookup hapart hrow hfind
      refine ⟨record, true, hpayload, ?_⟩
      have hkeeps : (∀ e ∈ lookup, m.keepsEntry (s.table m.name).nextKey e = true) ↔ _ := List.all_eq_true.symm
      rw [hsecond, hkeeps]
      cases hkept : lookup.entries.all (m.keepsEntry (s.table m.name).nextKey) with
      | true =>
        rw [hkept, if_pos rfl] at hagain
        refine iff_of_true ?_ (Or.inr rfl)
        rw [Context.getOrCreate_of_found hm defaults p hagain, hwritten, ← hstore]
        rfl
      | false =>
        rw [hkept, if_neg Bool.false_ne_true] at hagain
        refine iff_of_false (fun hsame => ?_) nofun
        obtain ⟨_, _, _, -, -, -, hcreated⟩ :=
          Context.getOrCreate_of_none hm defaults p hagain (congrArg Response.outcome hsame)
        cases hcreated

def clubModel : Model where
  name := "Club"
  fields := [Model.implicitKey, .plain { name := "name", kind := .scalar .char, null := true },
    .inverse { name := "member_set", source := "Member", field := "club", oneToOne := false }]

/-- Clubs with members. -/
def clubs : Registry where
  models := [clubModel, { name := "Member", fields := [Model.implicitKey, .reference { name := "club", target := "Club" }] }]

theorem clubs_isBuilt : clubs.IsBuilt :=
  ⟨[{ name := "Club", fields := [.plain { name := "name", kind := .scalar .char, null := true }] },
    { name := "Member", fields := [.reference { name := "club", target := "Club" }] }], [], [], rfl⟩

/-- A club that is created for its name is found by it. -/
theorem club_found_by_name :
    clubs.IsBuilt ∧
      let first := Context.getOrCreate { registry := clubs } [] "Club" (.of [("name", .text "chess")]) [] {}
      (first.store.rows "Club").length = 1 ∧ ∃ record created, first.outcome = .ok (.found record created) ∧
        Context.getOrCreate { registry := clubs } first.store "Club" (.of [("name", .text "chess")]) [] {} =
          { outcome := .ok (.found record false), store := first.store } := by
  refine ⟨clubs_isBuilt, ?_⟩
  intro first
  have hm : clubs.model? clubModel.name = some clubModel := rfl
  have hlookup : clubModel.LooksUpColumns (.of [("name", .text "chess")]) := by
    refine ⟨by decide, by decide, ?_⟩
    intro e he e' he' _
    rw [List.mem_singleton.1 he, List.mem_singleton.1 he']
    exact Json.equals_refl _
  have hfirst : ∃ payload, first.outcome = .ok payload := Outcome.isSome_toOption_iff.1 (by decide +kernel)
  have hapart : ∀ e ∈ Dict.of [("name", Json.text "chess")], ∀ d ∈ (.empty : Row),
      clubModel.fieldAnsweringTo? d.1 ≠ clubModel.fieldAnsweringTo? e.1 := nofun
  obtain ⟨record, created, hrecord, hagain⟩ :=
    created_rows_found_again (c := { registry := clubs }) clubs_isBuilt hm [] hlookup hapart {} hfirst
  refine ⟨by decide +kernel, record, created, hrecord, hagain.2 (Or.inr fun e he => ?_)⟩
  rw [List.mem_singleton.1 he]
  exact Model.keepsEntry_of_writable rfl rfl rfl _

/-- The same request creates a row again when it asks for an assigned key, for what is not stored with the row, or for two values of one
reference. -/
theorem rows_created_twice :
    clubs.IsBuilt ∧ Store.IsReachable clubs [] ∧
      ∀ wanted ∈ ([("Club", .of [("id", .nat 5)]), ("Club", .of [("id", .null)]), ("Club", .of [("member_set", .nat 5)]),
          ("Member", .of [("club", .nat 1), ("club_id", .nat 2)])] : List (String × Row)),
        let first := Context.getOrCreate { registry := clubs } [] wanted.1 wanted.2 [] {}
        let second := Context.getOrCreate { registry := clubs } first.store wanted.1 wanted.2 [] {}
        first.outcome.toOption.isSome = true ∧ (first.store.rows wanted.1).length = 1 ∧
          (second.store.rows wanted.1).length = 2 :=
  ⟨clubs_isBuilt, ⟨[], rfl⟩, by decide +kernel⟩

end ModelCatalog
