import Mathlib.Data.List.Induction
import ModelCatalog.Proofs.Lists
import ModelCatalog.Proofs.Store.Calls
import ModelCatalog.Proofs.Store.Reading

/-!
# A table is a map from keys to rows

For a model whose primary keys the store does not assign, the table is a finite map in the order of insertion. `Ledger` is that map, with
its three operations: it has no places, a row is what it holds in each column, and keys are told apart by `Json.equals`. One call to the
store is one operation of the ledger, and fails exactly when that is undefined (`Ledger.of_run`); what a run keeps is `Ledger.IsMap`.
-/

namespace ModelCatalog

/-- Records by key, in the order in which they were added. A record is what a row holds in each column. -/
abbrev Ledger := List (Json × (String → Option Json))

namespace Ledger

/-! ## The map -/

/-- Whether a key is held. -/
def holds (l : Ledger) (key : Json) : Bool := l.any fun e => e.1.equals key

/-- The record under a key. -/
def find? (l : Ledger) (key : Json) : Option (String → Option Json) := (List.find? (fun e => e.1.equals key) l).map Prod.snd

/-- A record is added at the end, under a key that is not null and not held. -/
def add? (l : Ledger) (key : Json) (record : String → Option Json) : Option Ledger :=
  if key.isNull || l.holds key then none else some (l ++ [(key, record)])

/-- Whether the record under a key can be changed: there is one, and a new key among the changes is not null and not that of another. -/
def allows (l : Ledger) (column : String) (key : Json) (changes : String → Option Json) : Bool :=
  l.holds key && !(changes column).any fun k => k.isNull || l.any fun e => !e.1.equals key && e.1.equals k

/-- The record under a held key gets new values in some columns, and moves to the new key when the column of the key is among them. -/
def change? (l : Ledger) (column : String) (key : Json) (changes : String → Option Json) : Option Ledger :=
  if l.allows column key changes then
    some (l.map fun e => if e.1.equals key then ((changes column).getD e.1, fun c => (changes c).or (e.2 c)) else e)
  else none

/-- The record under a held key is removed. -/
def remove? (l : Ledger) (key : Json) : Option Ledger :=
  if l.holds key then some (l.filter fun e => !e.1.equals key) else none

/-- A new row of submitted values, under the key it brings. -/
def submit? (m : Model) (column : String) (l : Ledger) (values : Row) : Option Ledger :=
  if m.accepts values then l.add? ((m.newRecord values column).getD .null) (m.newRecord values) else none

/-- What a call on the model makes of the ledger; none when the call has to fail. -/
def next? (r : Registry) (m : Model) (column : String) (l : Ledger) : Call → Option Ledger
  | .insert _ (.object values) =>
    match r.validate m.name values with
    | .ok _ => submit? m column l values
    | .error _ => none
  | .insert _ _ => none
  | .create _ values => submit? m column l values
  | .update _ key values => if m.accepts values then l.change? column key (m.given values) else none
  | .delete _ key => l.remove? key

/-- The ledger after calls one after another, from the empty one. Calls on other models and those that fail do not change it. -/
def afterCalls (r : Registry) (m : Model) (column : String) (calls : List Call) : Ledger :=
  calls.foldl (fun l c => if c.model = m.name then (next? r m column l c).getD l else l) []

/-- Keys are not null, and no two are equal. -/
structure IsMap (l : Ledger) : Prop where
  notNull : ∀ e ∈ l, e.1.isNull = false
  distinct : l.Pairwise fun a b => a.1.equals b.1 = false

/-! ## The operations keep a map -/

theorem isMap_nil : IsMap [] := ⟨by simp, List.Pairwise.nil⟩

theorem holds_eq_false_iff {l : Ledger} {key : Json} : l.holds key = false ↔ ∀ e ∈ l, e.1.equals key = false := by
  simp [holds]

theorem IsMap.add? {l l' : Ledger} (hl : l.IsMap) {key : Json} {record : String → Option Json} (h : l.add? key record = some l') :
    l'.IsMap := by
  unfold Ledger.add? at h
  split at h
  · cases h
  · rename_i hnew
    cases h
    rw [Bool.not_eq_true, Bool.or_eq_false_iff, holds_eq_false_iff] at hnew
    refine ⟨?_, List.pairwise_append.2 ⟨hl.distinct, List.pairwise_singleton _ _, ?_⟩⟩
    · intro e he
      rcases List.mem_append.1 he with he | he
      · exact hl.notNull e he
      · rw [List.mem_singleton] at he
        subst he
        exact hnew.1
    · intro a ha b hb
      rw [List.mem_singleton] at hb
      subst hb
      exact hnew.2 a ha

theorem IsMap.remove? {l l' : Ledger} (hl : l.IsMap) {key : Json} (h : l.remove? key = some l') : l'.IsMap := by
  unfold Ledger.remove? at h
  split at h
  · cases h
    exact ⟨fun e he => hl.notNull e (List.mem_of_mem_filter he), hl.distinct.filter _⟩
  · cases h

theorem IsMap.change? {l l' : Ledger} (hl : l.IsMap) {column : String} {key : Json} {changes : String → Option Json}
    (h : l.change? column key changes = some l') : l'.IsMap := by
  unfold Ledger.change? at h
  split at h
  · rename_i hok
    cases h
    rw [allows, Bool.and_eq_true, Bool.not_eq_true'] at hok
    obtain ⟨-, hnew⟩ := hok
    cases hk : changes column with
    | none =>
      -- no key changes, so the entries keep the keys they had
      have hsame : ∀ e : Json × (String → Option Json),
          (if e.1.equals key then ((none : Option Json).getD e.1, fun c => (changes c).or (e.2 c)) else e).1 = e.1 := by
        intro e
        split <;> rfl
      refine ⟨?_, ?_⟩
      · intro e he
        obtain ⟨e', he', rfl⟩ := List.mem_map.1 he
        rw [hsame]
        exact hl.notNull e' he'
      · rw [List.pairwise_map]
        refine hl.distinct.imp fun {a b} hab => ?_
        rw [hsame, hsame]
        exact hab
    | some k =>
      simp only [hk, Option.any_some, Bool.or_eq_false_iff, List.any_eq_false, Bool.and_eq_true, Bool.not_eq_true',
        not_and, Bool.not_eq_true] at hnew
      obtain ⟨hnull, hfree⟩ := hnew
      refine ⟨?_, ?_⟩
      · intro e he
        obtain ⟨e', he', rfl⟩ := List.mem_map.1 he
        split
        · exact hnull
        · exact hl.notNull e' he'
      · rw [List.pairwise_map]
        refine (List.Pairwise.and_mem.1 hl.distinct).imp fun {a b} ⟨ha, hb, hab⟩ => ?_
        -- the two entries cannot both be the one under the old key
        by_cases hka : a.1.equals key = true <;> by_cases hkb : b.1.equals key = true
        · have hboth := Json.equals_trans hka (Json.equals_symm hkb)
          rw [hab] at hboth
          cases hboth
        · simp only [hka, hkb, if_true, Option.getD_some]
          rw [Json.equals_comm]
          exact hfree b hb (Bool.eq_false_iff.2 hkb)
        · simp only [hka, hkb, if_true, Option.getD_some]
          exact hfree a ha (Bool.eq_false_iff.2 hka)
        · simp only [hka, hkb]
          exact hab
  · cases h

theorem IsMap.next? {r : Registry} {m : Model} {column : String} {l l' : Ledger} (hl : l.IsMap) {c : Call}
    (h : Ledger.next? r m column l c = some l') : l'.IsMap := by
  have hsubmit : ∀ values, submit? m column l values = some l' → l'.IsMap := by
    intro values h
    unfold submit? at h
    split at h
    · exact hl.add? h
    · cases h
  unfold Ledger.next? at h
  split at h
  · split at h
    · exact hsubmit _ h
    · cases h
  · cases h
  · exact hsubmit _ h
  · split at h
    · exact hl.change? h
    · cases h
  · exact hl.remove? h

/-! ## The ledger of a table -/

/-- The rows of a table by primary key. -/
def of (column : String) (rows : List Row) : Ledger := rows.map fun row => (keyIn column row, row.get?)

/-- Rows whose ledger is a map have keys. -/
theorem IsMap.key {column : String} {rows : List Row} (h : IsMap (of column rows)) {row : Row} (hrow : row ∈ rows) :
    (keyIn column row).isNull = false :=
  h.notNull _ (List.mem_map_of_mem hrow)

/-- A ledger holds a key exactly when a row of the table has it. -/
theorem holds_of {column : String} {t : Table} (h : IsMap (of column t.rows)) (key : Json) :
    (of column t.rows).holds key = (t.position? column key).isSome := by
  rw [Table.position?, List.findIdx?_isSome, holds, of, List.any_map, Bool.eq_iff_iff, List.any_eq_true, List.any_eq_true]
  refine exists_congr fun row => and_congr_right fun hrow => ?_
  rw [hasKey_eq (h.key hrow), Function.comp_apply]

/-- A key that is held has a place in the table. -/
theorem exists_place_of_holds {column : String} {t : Table} (h : IsMap (of column t.rows)) {key : Json}
    (hheld : (of column t.rows).holds key = true) : ∃ place, t.position? column key = some place := by
  rw [holds_of h] at hheld
  exact Option.isSome_iff_exists.1 hheld

/-- At most one row has a key. -/
theorem IsMap.pairwise_hasKey {column : String} {rows : List Row} (h : IsMap (of column rows)) (key : Json) :
    rows.Pairwise fun a b => ¬(Table.hasKey column key a = true ∧ Table.hasKey column key b = true) := by
  have hdistinct := h.distinct
  rw [of, List.pairwise_map] at hdistinct
  refine (List.Pairwise.and_mem.1 hdistinct).imp fun {a b} ⟨ha, hb, hab⟩ => ?_
  rw [hasKey_eq (h.key ha), hasKey_eq (h.key hb)]
  rintro ⟨hka, hkb⟩
  have := Json.equals_trans hka (Json.equals_symm hkb)
  rw [hab] at this
  cases this

/-! ## Changes of a table are operations -/

/-- A key is free for the row with another key exactly when no other record has it. -/
theorem position?_free_iff {column : String} {t : Table} (hmap : IsMap (of column t.rows)) {key : Json} {place : Nat}
    (hplace : t.position? column key = some place) (k : Json) :
    (∀ other, t.position? column k = some other → other = place) ↔
      ((of column t.rows).any fun e => !e.1.equals key && e.1.equals k) = false := by
  obtain ⟨hlt, hhas, hfirst⟩ := List.findIdx?_eq_some_iff_getElem.1 hplace
  rw [of, List.any_map, List.any_eq_false]
  constructor
  · -- a row with the new key is the one at the place, so it has the old key as well
    intro h row hrow hother
    rw [Function.comp_apply, Bool.and_eq_true, Bool.not_eq_true'] at hother
    have hk : Table.hasKey column k row = true := (hasKey_eq (hmap.key hrow) k).trans hother.2
    have hsome : (t.position? column k).isSome = true := List.findIdx?_isSome.trans (List.any_eq_true.2 ⟨row, hrow, hk⟩)
    obtain ⟨other, hplace'⟩ := Option.isSome_iff_exists.1 hsome
    have heq := h other hplace'
    subst heq
    obtain ⟨_, hhas', _⟩ := List.findIdx?_eq_some_iff_getElem.1 hplace'
    rw [hasKey_eq (hmap.key (List.getElem_mem hlt))] at hhas hhas'
    have := Json.equals_trans (Json.equals_trans hother.2 (Json.equals_symm hhas')) hhas
    rw [hother.1] at this
    cases this
  · intro h other hplace'
    obtain ⟨hlt', hhas', -⟩ := List.findIdx?_eq_some_iff_getElem.1 hplace'
    have hboth : Table.hasKey column key t.rows[other] = true := by
      have hno := h _ (List.getElem_mem hlt')
      rw [hasKey_eq (hmap.key (List.getElem_mem hlt'))] at hhas' ⊢
      rw [Function.comp_apply, hhas', Bool.and_true, Bool.not_eq_true, Bool.not_eq_false'] at hno
      exact hno
    -- two places with the old key are one
    rcases Nat.lt_trichotomy other place with hlt'' | heq | hgt
    · exact absurd hboth (Bool.eq_false_iff.1 (by simpa using hfirst other hlt''))
    · exact heq
    · exact absurd ⟨hhas, hboth⟩ (List.pairwise_iff_getElem.1 (hmap.pairwise_hasKey key) _ _ hlt hlt' hgt)

/-- The changes of a row are allowed exactly when the check of its new key passes. -/
theorem allows_of {column : String} {t : Table} (hmap : IsMap (of column t.rows)) {key : Json} {place : Nat}
    (hplace : t.position? column key = some place) (changes : Row) :
    (of column t.rows).allows column key changes.get? = true ↔ Store.checkNewKey t column place changes = .ok () := by
  have hheld : (of column t.rows).holds key = true := by
    rw [holds_of hmap, hplace]
    rfl
  rw [allows, hheld, Bool.true_and, Bool.not_eq_true', Store.checkNewKey_ok_iff]
  cases changes.get? column with
  | none => simp
  | some k =>
    rw [Option.any_some, Bool.or_eq_false_iff, ← position?_free_iff hmap hplace]
    simp only [Option.some.injEq, forall_eq']

/-- Overwriting a row changes its entry. -/
theorem of_set {column : String} {t : Table} (hmap : IsMap (of column t.rows)) {key : Json} {place : Nat}
    (hplace : t.position? column key = some place) (changes : Row) :
    of column (t.rows.set place (((t.rows[place]?).getD .empty).extend changes)) =
      (of column t.rows).map fun e =>
        if e.1.equals key then ((changes.get? column).getD e.1, fun c => (changes.get? c).or (e.2 c)) else e := by
  obtain ⟨hlt, -, -⟩ := List.findIdx?_eq_some_iff_getElem.1 hplace
  have hset : t.rows.set place (t.rows[place].extend changes) =
      t.rows.map fun row => if Table.hasKey column key row then row.extend changes else row :=
    set_findIdx? hplace hlt (hmap.pairwise_hasKey key) fun row => row.extend changes
  rw [List.getElem?_eq_getElem hlt, Option.getD_some, hset, of, of, List.map_map, List.map_map]
  refine List.map_congr_left fun row hrow => ?_
  simp only [Function.comp_apply, hasKey_eq (hmap.key hrow)]
  split
  · refine Prod.ext ?_ (funext fun c => Dict.get?_extend_entries row changes c)
    rw [keyIn, Dict.get?_extend_entries, keyIn]
    cases changes.get? column <;> rfl
  · rfl

/-- A new row is a new entry at the end. -/
theorem of_append (column : String) (rows : List Row) (row : Row) :
    of column (rows ++ [row]) = of column rows ++ [(keyIn column row, row.get?)] := List.map_append

/-- A row with a new key is added. -/
theorem add?_of {column : String} {t : Table} (hmap : IsMap (of column t.rows)) {row : Row} (hnull : (keyIn column row).isNull = false)
    (hfree : t.position? column (keyIn column row) = none) :
    (of column t.rows).add? (keyIn column row) row.get? = some (of column (t.rows ++ [row])) := by
  rw [add?, hnull, holds_of hmap, hfree, of_append]
  rfl

/-- A record is added only under a new key. -/
theorem free_of_add? {column : String} {t : Table} (hmap : IsMap (of column t.rows)) {key : Json} {record : String → Option Json}
    {l : Ledger} (h : (of column t.rows).add? key record = some l) : key.isNull = false ∧ t.position? column key = none := by
  unfold add? at h
  split at h
  · cases h
  · rename_i hnew
    rw [Bool.not_eq_true, Bool.or_eq_false_iff, holds_of hmap, Option.isSome_eq_false_iff, Option.isNone_iff_eq_none] at hnew
    exact hnew

/-- Overwriting a row changes its record. -/
theorem change?_of {column : String} {t : Table} (hmap : IsMap (of column t.rows)) {key : Json} {place : Nat}
    (hplace : t.position? column key = some place) {changes : Row}
    (hcheck : Store.checkNewKey t column place changes = .ok ()) :
    (of column t.rows).change? column key changes.get? =
      some (of column (t.rows.set place (((t.rows[place]?).getD .empty).extend changes))) := by
  rw [change?, if_pos ((allows_of hmap hplace changes).2 hcheck), of_set hmap hplace]

/-- Erasing a row removes its record. -/
theorem remove?_of {column : String} {t : Table} (hmap : IsMap (of column t.rows)) {key : Json} {place : Nat}
    (hplace : t.position? column key = some place) :
    (of column t.rows).remove? key = some (of column (t.rows.eraseIdx place)) := by
  have hheld : (of column t.rows).holds key = true := by
    rw [holds_of hmap, hplace]
    rfl
  rw [remove?, if_pos hheld, eraseIdx_findIdx? hplace (hmap.pairwise_hasKey key), of, of, List.filter_map]
  congr 2
  refine List.filter_congr fun row hrow => ?_
  rw [hasKey_eq (hmap.key hrow), Function.comp_apply]

/-! ## One call is one operation -/

/-- The ledger of the table a call writes. -/
theorem of_rows_insert (column : String) (s : Store) (name : String) (t : Table) :
    of column (Store.rows (s.insert name t) name) = of column t.rows := by
  rw [Store.rows, Store.table_insert, if_pos rfl]

section

variable {r : Registry} {m : Model} {column : String} {s : Store} (hm : r.model? m.name = some m) (hcolumn : m.keyColumn = .ok column)
  (hmap : IsMap (of column (s.rows m.name)))

include hm hcolumn hmap

/-- A new row is added to the ledger, and refused when the ledger refuses it. -/
theorem of_insertRow (hauto : m.assignsKeys = false) (values : Row) :
    (s.insertRow r m.name values).toOption.map (fun p => of column (p.2.rows m.name)) =
      submit? m column (of column (s.rows m.name)) values := by
  ext l'
  rw [Outcome.map_toOption_eq_some_iff]
  constructor
  · rintro ⟨⟨row, s'⟩, hrun, rfl⟩
    obtain ⟨m', columns, column', hm', hcols, hcolumn', h⟩ := Store.insertRow_ok_iff.1 hrun
    obtain ⟨rfl, rfl⟩ := Registry.model?_keyColumn_unique hm hcolumn hm' hcolumn'
    rcases h with ⟨-, hassign, -⟩ | ⟨hnull, hfree, rfl, rfl⟩
    · rw [hauto] at hassign
      cases hassign
    · rw [submit?, if_pos ((m.toColumns_isOk_iff values).1 ⟨columns, hcols⟩), ← keyIn_complete hcols, ← Model.get?_newRow hcols,
        of_rows_insert]
      exact add?_of hmap hnull hfree
  · intro h
    unfold submit? at h
    split at h
    · rename_i hacc
      obtain ⟨columns, hcols⟩ := (m.toColumns_isOk_iff values).2 hacc
      rw [← keyIn_complete hcols, ← Model.get?_newRow hcols] at h
      obtain ⟨hnull, hfree⟩ := free_of_add? hmap h
      refine ⟨(m.complete columns, _), Store.insertRow_ok_iff.2
        ⟨m, columns, column, hm, hcols, hcolumn, Or.inr ⟨hnull, hfree, rfl, rfl⟩⟩, ?_⟩
      rw [of_rows_insert]
      exact Option.some.inj ((add?_of hmap hnull hfree).symm.trans h)
    · cases h

/-- A row is removed from the ledger. -/
theorem of_deleteRow (key : Json) :
    (s.deleteRow r m.name key).toOption.map (fun s' => of column (s'.rows m.name)) =
      (of column (s.rows m.name)).remove? key := by
  ext l'
  rw [Outcome.map_toOption_eq_some_iff]
  constructor
  · rintro ⟨s', hrun, rfl⟩
    obtain ⟨m', column', place, hm', hcolumn', hplace, rfl⟩ := Store.deleteRow_ok_iff.1 hrun
    obtain ⟨rfl, rfl⟩ := Registry.model?_keyColumn_unique hm hcolumn hm' hcolumn'
    rw [of_rows_insert]
    exact remove?_of hmap hplace
  · intro h
    have hheld : (of column (s.rows m.name)).holds key = true := by
      unfold remove? at h
      split at h
      · assumption
      · cases h
    obtain ⟨place, hplace⟩ := exists_place_of_holds hmap hheld
    refine ⟨_, Store.deleteRow_ok_iff.2 ⟨m, column, place, hm, hcolumn, hplace, rfl⟩, ?_⟩
    rw [of_rows_insert]
    exact Option.some.inj ((remove?_of hmap hplace).symm.trans h)

/-- A row of the ledger is changed, and keeps its place. -/
theorem of_updateRow (key : Json) (values : Row) :
    (s.updateRow r m.name key values).toOption.map (fun p => of column (p.2.rows m.name)) =
      if m.accepts values then (of column (s.rows m.name)).change? column key (m.given values) else none := by
  ext l'
  rw [Outcome.map_toOption_eq_some_iff]
  constructor
  · rintro ⟨⟨row, s'⟩, hrun, rfl⟩
    obtain ⟨m', changes, column', place, hm', hcols, hcolumn', hplace, hcheck, rfl, rfl⟩ := Store.updateRow_ok_iff.1 hrun
    obtain ⟨rfl, rfl⟩ := Registry.model?_keyColumn_unique hm hcolumn hm' hcolumn'
    have hgiven : changes.get? = m.given values := funext (Model.get?_toColumns hcols)
    rw [if_pos ((m.toColumns_isOk_iff values).1 ⟨changes, hcols⟩), ← hgiven, of_rows_insert]
    exact change?_of hmap hplace hcheck
  · intro h
    split at h
    · rename_i hacc
      obtain ⟨changes, hcols⟩ := (m.toColumns_isOk_iff values).2 hacc
      have hgiven : changes.get? = m.given values := funext (Model.get?_toColumns hcols)
      rw [← hgiven] at h
      have hallowed : (of column (s.rows m.name)).allows column key changes.get? = true := by
        unfold change? at h
        split at h
        · assumption
        · cases h
      obtain ⟨place, hplace⟩ := exists_place_of_holds hmap (Bool.and_eq_true_iff.1 hallowed).1
      have hcheck := (allows_of hmap hplace changes).1 hallowed
      refine ⟨(_, _), Store.updateRow_ok_iff.2 ⟨m, changes, column, place, hm, hcols, hcolumn, hplace, hcheck, rfl, rfl⟩, ?_⟩
      rw [of_rows_insert]
      exact Option.some.inj ((change?_of hmap hplace hcheck).symm.trans h)
    · cases h

/-- A call on the model does to the ledger of its table what the ledger says, and fails exactly when the ledger does. -/
theorem of_run (hauto : m.assignsKeys = false) {c : Call} (hc : c.model = m.name) :
    (c.run r s).toOption.map (fun s' => of column (s'.rows m.name)) = next? r m column (of column (s.rows m.name)) c := by
  have hsnd : ∀ x : Outcome (Row × Store),
      (x.map Prod.snd).toOption.map (fun s' => of column (s'.rows m.name)) =
        x.toOption.map (fun p => of column (p.2.rows m.name)) := by
    intro x
    cases x <;> rfl
  cases c with
  | insert model values =>
    obtain rfl : model = m.name := hc
    rw [Call.run_insert, hsnd]
    cases values with
    | object values =>
      rw [next?, Store.insertJson_object]
      cases r.validate m.name values with
      | error e => rfl
      | ok u => exact of_insertRow hm hcolumn hmap hauto values
    | null | bool | number | text | list => rfl
  | create model values =>
    obtain rfl : model = m.name := hc
    rw [Call.run_create, hsnd]
    exact of_insertRow hm hcolumn hmap hauto values
  | update model key values =>
    obtain rfl : model = m.name := hc
    rw [Call.run_update, hsnd]
    exact of_updateRow hm hcolumn hmap key values
  | delete model key =>
    obtain rfl : model = m.name := hc
    exact of_deleteRow hm hcolumn hmap key

/-- A row is read by its key. -/
theorem get_of (key : Json) :
    match (of column (s.rows m.name)).find? key with
    | none => (QuerySet.of r m.name >>= fun q => q.get r s key) = .error (.noRow m.name key)
    | some record => ∃ row ∈ s.rows m.name,
        (QuerySet.of r m.name >>= fun q => q.get r s key) = .ok row ∧ row.get? = record := by
  have hfind : (of column (s.rows m.name)).find? key = ((s.rows m.name).find? (Table.hasKey column key)).map Dict.get? := by
    rw [find?, of, List.find?_map, Option.map_map]
    have hsame : (s.rows m.name).find? ((fun e => e.1.equals key) ∘ fun row => (keyIn column row, row.get?)) =
        (s.rows m.name).find? (Table.hasKey column key) := by
      rw [← List.head?_filter, ← List.head?_filter]
      refine congrArg List.head? (List.filter_congr fun row hrow => ?_)
      rw [hasKey_eq (hmap.key hrow), Function.comp_apply]
    rw [hsame]
    rfl
  have hread : (QuerySet.of r m.name >>= fun q => q.get r s key) = QuerySet.get r s { model := m.name } key := by
    rw [QuerySet.of_eq hm]
    rfl
  have hget := (QuerySet.isPlain_of m.name).get (s := s) hm hcolumn key
  rw [filter_eq_find? (hmap.pairwise_hasKey key)] at hget
  rw [hread, hfind]
  cases hrow : (s.rows m.name).find? (Table.hasKey column key) with
  | none =>
    rw [hrow] at hget
    exact hget
  | some row =>
    rw [hrow] at hget
    exact ⟨row, List.mem_of_find?_eq_some hrow, hget, rfl⟩

/-- After a call the table is the ledger after it. -/
theorem of_after (hauto : m.assignsKeys = false) (c : Call) :
    of column ((c.after r s).rows m.name) =
      if c.model = m.name then (next? r m column (of column (s.rows m.name)) c).getD (of column (s.rows m.name))
      else of column (s.rows m.name) := by
  split
  · rename_i hc
    rw [← of_run hm hcolumn hmap hauto hc]
    cases hrun : c.run r s with
    | ok s' => rw [Call.after_of_ok hrun]; rfl
    | error f => rw [Call.after_of_error hrun]; rfl
  · rename_i hc
    rw [Store.rows, Call.table_after_of_ne hc]
    rfl

end

/-- After calls one after another the table is the ledger after them, and that is a map. -/
theorem of_afterCalls {r : Registry} {m : Model} {column : String} (hm : r.model? m.name = some m) (hcolumn : m.keyColumn = .ok column)
    (hauto : m.assignsKeys = false) (calls : List Call) :
    of column ((Store.afterCalls r calls).rows m.name) = afterCalls r m column calls ∧ IsMap (afterCalls r m column calls) := by
  -- the last call is taken off, so that the ledger before it is a map
  induction calls using List.reverseRecOn with
  | nil => exact ⟨rfl, isMap_nil⟩
  | append_singleton calls c ih =>
    obtain ⟨htable, hmap⟩ := ih
    have hstep := of_after hm hcolumn (htable ▸ hmap) hauto c
    rw [htable] at hstep
    unfold Store.afterCalls afterCalls at *
    rw [List.foldl_append, List.foldl_append]
    refine ⟨hstep, ?_⟩
    rw [List.foldl_cons, List.foldl_nil]
    split
    · cases hnext : next? r m column _ c with
      | none => exact hmap
      | some l => exact hmap.next? hnext
    · exact hmap

/-- For a model whose keys are not assigned, the table after any calls is the ledger of those calls, a map from keys that are not null to
rows. The next call on the model does what the ledger does and fails exactly when the ledger does, one that fails changes no rows, and a row
is read by its key. -/
theorem tables_are_ledgers {r : Registry} (hr : r.IsBuilt) {m : Model} (hmem : m ∈ r.models) (hauto : m.assignsKeys = false) :
    ∃ column, m.keyColumn = .ok column ∧ ∀ calls : List Call,
      let s := Store.afterCalls r calls
      let l := afterCalls r m column calls
      of column (s.rows m.name) = l ∧ l.IsMap ∧
        (∀ c : Call, c.model = m.name →
          (c.run r s).toOption.map (fun s' => of column (s'.rows m.name)) = next? r m column l c) ∧
        (∀ c : Call, (c.run r s).toOption = none → ∀ name, (c.after r s).rows name = s.rows name) ∧
        ∀ key, match l.find? key with
          | none => (QuerySet.of r m.name >>= fun q => q.get r s key) = .error (.noRow m.name key)
          | some record => ∃ row ∈ s.rows m.name,
              (QuerySet.of r m.name >>= fun q => q.get r s key) = .ok row ∧ row.get? = record := by
  have hm := hr.model?_of_mem hmem
  obtain ⟨f, -, -, -, column, -, hcolumn⟩ := (hr.sound hm).keyColumn
  refine ⟨column, hcolumn, fun calls => ?_⟩
  obtain ⟨htable, hmap⟩ := of_afterCalls hm hcolumn hauto calls
  refine ⟨htable, hmap, ?_, ?_, ?_⟩
  · intro c hc
    rw [← htable] at hmap ⊢
    exact of_run hm hcolumn hmap hauto hc
  · intro c hfail name
    cases hrun : c.run r (Store.afterCalls r calls) with
    | ok s' =>
      rw [hrun] at hfail
      cases hfail
    | error f => rw [Call.after_of_error hrun]
  · intro key
    rw [← htable] at hmap ⊢
    exact get_of hm hcolumn hmap key

/-- A model whose rows bring their keys. -/
def notes : Model where
  name := "Note"
  fields := [
    .plain { name := "slug", kind := .scalar .slug, primaryKey := true },
    .plain { name := "title", kind := .scalar .char, null := true }]

theorem notes_are_ledgers :
    ∃ r : Registry, r.IsBuilt ∧ notes ∈ r.models ∧ notes.assignsKeys = false ∧ ∃ column, notes.keyColumn = .ok column ∧
      ∀ calls : List Call, of column ((Store.afterCalls r calls).rows "Note") = afterCalls r notes column calls := by
  have hr : Registry.IsBuilt { models := [notes] } := ⟨[notes], [], [], rfl⟩
  obtain ⟨column, hcolumn, hall⟩ := tables_are_ledgers hr List.mem_cons_self rfl
  exact ⟨_, hr, List.mem_cons_self, rfl, column, hcolumn, fun calls => (hall calls).1⟩

end Ledger

end ModelCatalog
