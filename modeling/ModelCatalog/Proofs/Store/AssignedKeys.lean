import ModelCatalog.Proofs.Number.Rounding
import ModelCatalog.Proofs.Store.Ledger

/-!
# Keys that the store assigns

A table counts the keys it assigns. A stored key is ahead of the counter when it is equal to a count still to come, and then the row that
gets that count shares its key. Assigned keys are new as long as no call stores a key ahead of the counter (`Call.Overtakes`), and such a
call is always followed by a shared key once enough rows are inserted. Only three kinds of call overtake the counter: one that changes the
key of a row, one that brings a key not written as an integer, and one whose key is `2 ^ 53` or more.
-/

namespace ModelCatalog

/-! ## Keys ahead of a counter -/

/-- Whether a key is equal to a count from a counter on. -/
def IsAhead (counter : Nat) (key : Json) : Prop := ∃ n, counter ≤ n ∧ n < Table.keyLimit ∧ key.equals (.nat n) = true

theorem IsAhead.mono {c c' : Nat} (hc : c ≤ c') {key : Json} (h : IsAhead c' key) : IsAhead c key := by
  obtain ⟨n, hn, hlt, heq⟩ := h
  exact ⟨n, Nat.le_trans hc hn, hlt, heq⟩

/-- An integer that the counter has passed is not ahead of it, as long as counts are told apart. -/
theorem not_isAhead_int {k : Int} (hk : k < Binary64.exactLimit) {counter : Nat} (hc : k < counter) : ¬ IsAhead counter (.int k) := by
  rintro ⟨n, hn, -, heq⟩
  have hval : (Binary64.ofInt k).value = (Binary64.ofInt n).value := beq_iff_eq.1 heq
  exact Binary64.ofInt_value_ne hk (by omega) hval

/-- Only numbers can be ahead of a counter. -/
theorem IsAhead.exists_number {counter : Nat} {key : Json} (h : IsAhead counter key) : ∃ x, key = .number x := by
  obtain ⟨n, -, -, heq⟩ := h
  cases key with
  | number x => exact ⟨x, rfl⟩
  | null | bool | text | list | object => cases heq

namespace Table

/-- Whether a row has a key ahead of the counter. -/
def IsOvertaken (column : String) (t : Table) : Prop := ∃ row ∈ t.rows, IsAhead t.nextKey (keyIn column row)

theorem le_nextAfter (t : Table) (key : Json) : t.nextKey ≤ t.nextAfter key := by
  unfold nextAfter
  split
  · split
    · exact Nat.le_max_left _ _
    · exact Nat.le_refl _
  · exact Nat.le_refl _

theorem nextAfter_lt {t : Table} (h : t.nextKey < keyLimit) (key : Json) : t.nextAfter key < keyLimit := by
  unfold nextAfter
  split
  · split
    · exact Nat.max_lt.2 ⟨h, Nat.mod_lt _ (by decide)⟩
    · exact h
  · exact h

/-- The counter moves past an integer that a row brings. -/
theorem lt_nextAfter_int (t : Table) {k : Int} (hk : k < keyLimit - 1) : k < t.nextAfter (.int k) := by
  unfold nextAfter
  simp only [Json.int, Number.toNat?]
  split
  · rename_i n hn
    split at hn
    · cases hn
      have hlt : k.toNat + 1 < keyLimit := by omega
      rw [Nat.mod_eq_of_lt hlt]
      omega
    · cases hn
  · rename_i hn
    split at hn
    · cases hn
    · rename_i hout
      have hnonneg := Int.natCast_nonneg t.nextKey
      have hlimit : ((keyLimit - 1 : Nat) : Int) = (keyLimit : Int) - 1 := by decide
      omega

end Table

/-! ## Steps -/

namespace TableStep

variable {m : Model} {column : String} {t t' : Table} {key? : Option Json}

/-- After a step the counter is below the limit, if it was. -/
theorem nextKey_lt (h : TableStep m column t key? t') (ht : t.nextKey < Table.keyLimit) : t'.nextKey < Table.keyLimit := by
  cases h with
  | assign => exact Nat.mod_lt _ (by decide)
  | append => exact Table.nextAfter_lt ht _
  | change => exact ht
  | remove => exact ht

/-- Every key after a step is an old one or the one stored. -/
theorem keys (h : TableStep m column t key? t') {row : Row} (hrow : row ∈ t'.rows) :
    (∃ old ∈ t.rows, keyIn column row = keyIn column old) ∨ key? = some (keyIn column row) := by
  cases h with
  | assign values columns hcols hnull hauto =>
    rcases List.mem_append.1 hrow with hrow | hrow
    · exact Or.inl ⟨row, hrow, rfl⟩
    · rw [List.mem_singleton] at hrow
      subst hrow
      rw [keyIn, Dict.get?_insert_self]
      exact Or.inr rfl
  | append values columns hcols hkey hfree =>
    rcases List.mem_append.1 hrow with hrow | hrow
    · exact Or.inl ⟨row, hrow, rfl⟩
    · rw [List.mem_singleton] at hrow
      subst hrow
      exact Or.inr rfl
  | change key values changes place hcols hplace hcheck =>
    rcases List.mem_or_eq_of_mem_set hrow with hrow | rfl
    · exact Or.inl ⟨row, hrow, rfl⟩
    · obtain ⟨hlt, -, -⟩ := List.findIdx?_eq_some_iff_getElem.1 hplace
      rw [List.getElem?_eq_getElem hlt, Option.getD_some, keyIn, Dict.get?_extend_entries]
      cases hnew : changes.get? column with
      | none => exact Or.inl ⟨_, List.getElem_mem hlt, rfl⟩
      | some k => exact Or.inr rfl
  | remove key place hplace => exact Or.inl ⟨row, List.mem_of_mem_eraseIdx hrow, rfl⟩

/-- A key that a step stores is that of a row. -/
theorem exists_row (h : TableStep m column t key? t') {key : Json} (hkey : key? = some key) :
    ∃ row ∈ t'.rows, keyIn column row = key := by
  cases h with
  | assign values columns hcols hnull hauto =>
    cases hkey
    refine ⟨_, List.mem_append_right _ (List.mem_singleton_self _), ?_⟩
    rw [keyIn, Dict.get?_insert_self]
    rfl
  | append values columns hcols hkey' hfree =>
    cases hkey
    exact ⟨_, List.mem_append_right _ (List.mem_singleton_self _), rfl⟩
  | change key' values changes place hcols hplace hcheck =>
    obtain ⟨hlt, -, -⟩ := List.findIdx?_eq_some_iff_getElem.1 hplace
    refine ⟨_, List.mem_set hlt _, ?_⟩
    rw [keyIn, Dict.get?_extend_entries, hkey]
    rfl
  | remove key' place hplace => cases hkey

/-- The counter only goes back when it starts over, and then the key just assigned is ahead of it. -/
theorem nextKey_le (h : TableStep m column t key? t') (ht : t.nextKey < Table.keyLimit)
    (hkey : ∀ key, key? = some key → ¬ IsAhead t'.nextKey key) : t.nextKey ≤ t'.nextKey := by
  cases h with
  | assign values columns hcols hnull hauto =>
    rcases Nat.lt_or_eq_of_le ht with hlt | heq
    · simp only [Nat.mod_eq_of_lt hlt]
      exact Nat.le_succ _
    · have hzero : (t.nextKey + 1) % Table.keyLimit = 0 := by rw [← heq]; exact Nat.mod_self _
      exact absurd ⟨t.nextKey, hzero ▸ Nat.zero_le _, ht, Json.equals_refl _⟩ (hkey _ rfl)
  | append => exact Table.le_nextAfter _ _
  | change => exact Nat.le_refl _
  | remove => exact Nat.le_refl _

/-- A table stays not overtaken when the key that a step stores is not ahead of the counter. -/
theorem not_isOvertaken (h : TableStep m column t key? t') (ht : t.nextKey < Table.keyLimit) (hover : ¬ t.IsOvertaken column)
    (hkey : ∀ key, key? = some key → ¬ IsAhead t'.nextKey key) : ¬ t'.IsOvertaken column := by
  rintro ⟨row, hrow, hahead⟩
  rcases h.keys hrow with ⟨old, hold, heq⟩ | hstored
  · rw [heq] at hahead
    exact hover ⟨old, hold, hahead.mono (h.nextKey_le ht hkey)⟩
  · exact hkey _ hstored hahead

/-- Keys stay pairwise different in a table that is not overtaken. -/
theorem isMap (h : TableStep m column t key? t') (ht : t.nextKey < Table.keyLimit) (hover : ¬ t.IsOvertaken column)
    (hmap : (Ledger.of column t.rows).IsMap) : (Ledger.of column t'.rows).IsMap := by
  cases h with
  | assign values columns hcols hnull hauto =>
    have hkey : keyIn column ((m.complete columns).insert column (.nat t.nextKey)) = .nat t.nextKey := by
      rw [keyIn, Dict.get?_insert_self]
      rfl
    have hfree : t.position? column (.nat t.nextKey) = none := by
      rw [← Option.isNone_iff_eq_none, ← Option.isSome_eq_false_iff, ← Ledger.holds_of hmap, Ledger.holds_eq_false_iff]
      intro e he
      obtain ⟨row, hrow, rfl⟩ := List.mem_map.1 he
      rw [Bool.eq_false_iff]
      exact fun heq => hover ⟨row, hrow, t.nextKey, Nat.le_refl _, ht, heq⟩
    exact hmap.add? (Ledger.add?_of hmap (by rw [hkey]; rfl) (by rw [hkey]; exact hfree))
  | append values columns hcols hkey hfree => exact hmap.add? (Ledger.add?_of hmap hkey hfree)
  | change key values changes place hcols hplace hcheck =>
    exact hmap.change? (Ledger.change?_of hmap hplace hcheck)
  | remove key place hplace => exact hmap.remove? (Ledger.remove?_of hmap hplace)

end TableStep

/-! ## Calls that overtake the counter -/

/-- Whether a call on a model succeeds and stores a key that is ahead of the counter then. -/
def Call.Overtakes (r : Registry) (m : Model) (column : String) (s : Store) (c : Call) : Prop :=
  c.model = m.name ∧ ∃ s', c.run r s = .ok s' ∧
    ∃ key, c.storedKey? m column (s.table m.name).nextKey = some key ∧ IsAhead (s'.table m.name).nextKey key

/-- Whether no new row of the model can get a key from the store that a stored row has. -/
def Store.AssignsFresh (r : Registry) (m : Model) (column : String) (s : Store) : Prop :=
  ∀ values row s', (s.insertRow r m.name values = .ok (row, s') ∨ s.insertJson r m.name (.object values) = .ok (row, s')) →
    ((m.newRecord values column).getD .null).isNull = true →
    ∀ old ∈ s.rows m.name, (keyIn column old).equals (keyIn column row) = false

section

variable {r : Registry} {m : Model} {column : String} (hm : r.model? m.name = some m) (hcolumn : m.keyColumn = .ok column)

include hm hcolumn

theorem nextKey_lt_keyLimit (calls : List Call) : ((Store.afterCalls r calls).table m.name).nextKey < Table.keyLimit :=
  Store.table_afterCalls (fun _ _ t => t.nextKey < Table.keyLimit) (fun _ _ _ => by decide)
    (fun _ _ _ _ _ _ _ ht hstep => hstep.nextKey_lt ht) calls hm hcolumn

/-- As long as no call overtakes the counter no key is ahead of it, and no two keys are equal. -/
theorem not_isOvertaken_afterCalls (calls : List Call)
    (hcalls : ∀ before c rest, calls = before ++ c :: rest → ¬ c.Overtakes r m column (Store.afterCalls r before)) :
    ¬ ((Store.afterCalls r calls).table m.name).IsOvertaken column ∧
      (Ledger.of column ((Store.afterCalls r calls).rows m.name)).IsMap := by
  induction calls using List.reverseRecOn with
  | nil =>
    refine ⟨?_, Ledger.isMap_nil⟩
    rintro ⟨row, hrow, -⟩
    cases hrow
  | append_singleton calls c ih =>
    obtain ⟨hover, hmap⟩ := ih fun before c' rest h => hcalls before c' (rest ++ [c]) (by rw [h]; simp)
    have hlt := nextKey_lt_keyLimit hm hcolumn calls
    have hc : ¬ c.Overtakes r m column (Store.afterCalls r calls) := hcalls calls c [] rfl
    rw [Store.afterCalls_append]
    by_cases hname : c.model = m.name
    · cases hrun : c.run r (Store.afterCalls r calls) with
      | ok s' =>
        rw [Call.after_of_ok hrun]
        have hstep := Call.table_step hm hcolumn hname hrun
        refine ⟨hstep.not_isOvertaken hlt hover fun key hkey hahead => ?_, hstep.isMap hlt hover hmap⟩
        exact hc ⟨hname, s', hrun, key, hkey, hahead⟩
      | error f =>
        rw [Call.after_of_error hrun]
        exact ⟨hover, hmap⟩
    · rw [Store.rows, Call.table_after_of_ne hname]
      exact ⟨hover, hmap⟩

/-- The key of a new row without one is the next key, which is new unless the counter is overtaken. -/
theorem Store.assignsFresh {s : Store} (hlt : (s.table m.name).nextKey < Table.keyLimit)
    (hover : ¬ (s.table m.name).IsOvertaken column) : s.AssignsFresh r m column := by
  intro values row s' hrun hnull old hold
  have hrow : s.insertRow r m.name values = .ok (row, s') := by
    rcases hrun with hrun | hrun
    · exact hrun
    · obtain ⟨submitted, heq, -, hrow⟩ := Store.insertJson_ok_iff.1 hrun
      cases heq
      rwa [Dict.of_entries] at hrow
  obtain ⟨m', columns, column', hm', hcols, hcolumn', h⟩ := Store.insertRow_ok_iff.1 hrow
  obtain ⟨rfl, rfl⟩ := Registry.model?_keyColumn_unique hm hcolumn hm' hcolumn'
  rw [← keyIn_complete hcols] at hnull
  rcases h with ⟨-, -, rfl, -⟩ | ⟨hkey, -⟩
  · rw [Bool.eq_false_iff, keyIn, keyIn, Dict.get?_insert_self]
    exact fun heq => hover ⟨old, hold, _, Nat.le_refl _, hlt, heq⟩
  · rw [hnull] at hkey
    cases hkey

/-- A row without values is always stored, and gets the next key. -/
theorem insertRow_empty (hsound : m.IsSound) (hauto : m.assignsKeys = true) (s : Store) :
    ∃ row, keyIn column row = .nat (s.table m.name).nextKey ∧
      s.insertRow r m.name [] = .ok (row, s.insert m.name
        { rows := s.rows m.name ++ [row], nextKey := ((s.table m.name).nextKey + 1) % Table.keyLimit }) := by
  have hcols : m.toColumns [] = .ok [] := rfl
  have hnull : (keyIn column (m.complete [])).isNull = true := by
    rw [keyIn_complete hcols, hsound.newRecord_key hcolumn hauto rfl]
    rfl
  refine ⟨(m.complete []).insert column (.nat (s.table m.name).nextKey), ?_, ?_⟩
  · rw [keyIn, Dict.get?_insert_self]
    rfl
  · exact Store.insertRow_ok_iff.2 ⟨m, [], column, hm, hcols, hcolumn, Or.inl ⟨hnull, hauto, rfl, rfl⟩⟩

/-- Storing rows without values moves the counter on by one for each, and keeps the rows that were there. -/
theorem afterCalls_replicate (hsound : m.IsSound) (hauto : m.assignsKeys = true) (calls : List Call) {n : Nat}
    (hn : ((Store.afterCalls r calls).table m.name).nextKey + n < Table.keyLimit) :
    ((Store.afterCalls r (calls ++ List.replicate n (.create m.name []))).table m.name).nextKey =
        ((Store.afterCalls r calls).table m.name).nextKey + n ∧
      ∀ row ∈ (Store.afterCalls r calls).rows m.name,
        row ∈ (Store.afterCalls r (calls ++ List.replicate n (.create m.name []))).rows m.name := by
  induction n with
  | zero =>
    rw [List.replicate_zero, List.append_nil]
    exact ⟨rfl, fun row hrow => hrow⟩
  | succ n ih =>
    obtain ⟨hnext, hrows⟩ := ih (Nat.lt_of_succ_lt hn)
    rw [List.replicate_succ', ← List.append_assoc, Store.afterCalls_append]
    generalize Store.afterCalls r (calls ++ List.replicate n (.create m.name [])) = s at hnext hrows ⊢
    obtain ⟨row, -, hrun⟩ := insertRow_empty hm hcolumn hsound hauto s
    have hafter : ((Call.create m.name []).after r s).table m.name =
        { rows := s.rows m.name ++ [row], nextKey := ((s.table m.name).nextKey + 1) % Table.keyLimit } := by
      rw [Call.after_of_ok (by rw [Call.run_create, hrun]; rfl)]
      exact (Store.table_insert _ _ _ _).trans (if_pos rfl)
    refine ⟨?_, fun old hold => ?_⟩
    · rw [hafter, hnext]
      exact Nat.mod_eq_of_lt hn
    · rw [Store.rows, hafter]
      exact List.mem_append_left _ (hrows old hold)

/-- A key that is ahead of the counter is assigned again, once the store has assigned all keys before it. -/
theorem not_assignsFresh_of_isOvertaken (hsound : m.IsSound) (hauto : m.assignsKeys = true) (calls : List Call)
    (hover : ((Store.afterCalls r calls).table m.name).IsOvertaken column) :
    ∃ n, ¬ (Store.afterCalls r (calls ++ List.replicate n (.create m.name []))).AssignsFresh r m column := by
  obtain ⟨old, hold, k, hle, hlt, heq⟩ := hover
  refine ⟨k - ((Store.afterCalls r calls).table m.name).nextKey, fun hfresh => ?_⟩
  obtain ⟨hnext, hrows⟩ := afterCalls_replicate hm hcolumn hsound hauto calls
    (n := k - ((Store.afterCalls r calls).table m.name).nextKey) (by omega)
  rw [Nat.add_sub_cancel' hle] at hnext
  generalize Store.afterCalls r (calls ++ List.replicate _ (.create m.name [])) = s at hfresh hnext hrows
  obtain ⟨row, hkey, hrun⟩ := insertRow_empty hm hcolumn hsound hauto s
  have hnull : ((m.newRecord [] column).getD .null).isNull = true := by
    rw [hsound.newRecord_key hcolumn hauto rfl]
    rfl
  have hdiff := hfresh [] row _ (Or.inl hrun) hnull old (hrows old hold)
  rw [hkey, hnext, heq] at hdiff
  cases hdiff

/-- A new row moves the counter past its key, when that is an integer below `2 ^ 53`. -/
theorem lt_nextKey_of_insertRow {s s' : Store} {values row : Row} (hrun : s.insertRow r m.name values = .ok (row, s')) {k : Int}
    (hk : k < Binary64.exactLimit)
    (hkey : (Call.create m.name values).storedKey? m column (s.table m.name).nextKey = some (.int k)) :
    k < (s'.table m.name).nextKey := by
  obtain ⟨m', columns, column', hm', hcols, hcolumn', h⟩ := Store.insertRow_ok_iff.1 hrun
  obtain ⟨rfl, rfl⟩ := Registry.model?_keyColumn_unique hm hcolumn hm' hcolumn'
  rw [Call.storedKey?, ← keyIn_complete hcols] at hkey
  rcases h with ⟨hnull, -, -, rfl⟩ | ⟨hnull, -, rfl, rfl⟩
  · simp only [hnull, if_true, Option.some.injEq] at hkey
    cases hkey
    have hlt : (s.table m.name).nextKey + 1 < Table.keyLimit :=
      Nat.lt_of_le_of_lt (Nat.succ_le_of_lt (Int.ofNat_lt.1 hk)) (by decide)
    rw [Store.table_insert, if_pos rfl, Nat.mod_eq_of_lt hlt]
    exact Int.lt_succ _
  · simp only [hnull, Bool.false_eq_true, if_false, Option.some.injEq] at hkey
    rw [Store.table_insert, if_pos rfl, hkey]
    exact Table.lt_nextAfter_int _ (Int.lt_trans hk (by decide))

/-- Only calls of three kinds overtake the counter: those that change a key, those that bring one not written as an integer, and those
whose key is `2 ^ 53` or more. -/
theorem kind_of_overtakes {s : Store} {c : Call} (h : c.Overtakes r m column s) :
    (∃ model key values, c = .update model key values) ∨
      (∃ x, c.storedKey? m column (s.table m.name).nextKey = some (.number (.real x))) ∨
      ∃ k : Int, Binary64.exactLimit ≤ k ∧ c.storedKey? m column (s.table m.name).nextKey = some (.int k) := by
  obtain ⟨hc, s', hrun, key, hkey, hahead⟩ := h
  obtain ⟨x, rfl⟩ := hahead.exists_number
  cases x with
  | real x => exact Or.inr (Or.inl ⟨x, hkey⟩)
  | int k =>
    by_cases hk : k < Binary64.exactLimit
    · cases c with
      | insert model values =>
        obtain rfl : model = m.name := hc
        rw [Call.run_insert] at hrun
        obtain ⟨⟨row, s'⟩, hjson, rfl⟩ := Outcome.map_ok_iff.1 hrun
        obtain ⟨submitted, rfl, -, hrow⟩ := Store.insertJson_ok_iff.1 hjson
        exact absurd hahead (not_isAhead_int hk (lt_nextKey_of_insertRow hm hcolumn hrow hk hkey))
      | create model values =>
        obtain rfl : model = m.name := hc
        rw [Call.run_create] at hrun
        obtain ⟨⟨row, s'⟩, hrow, rfl⟩ := Outcome.map_ok_iff.1 hrun
        exact absurd hahead (not_isAhead_int hk (lt_nextKey_of_insertRow hm hcolumn hrow hk hkey))
      | update model key values => exact Or.inl ⟨model, key, values, rfl⟩
      | delete model key => cases hkey
    · exact Or.inr (Or.inr ⟨k, Int.not_lt.1 hk, hkey⟩)

end

/-- In a run in which no call overtakes the counter the keys that the store assigns are new and no two rows share one. A call that overtakes
it is followed by an assigned key that a stored row has, after some rows without values; it changes a key, brings one not written as an
integer, or stores one of `2 ^ 53` or more. -/
theorem assigned_keys_fresh_unless_overtaken {r : Registry} (hr : r.IsBuilt) {m : Model} (hmem : m ∈ r.models)
    (hauto : m.assignsKeys = true) :
    ∃ column, m.keyColumn = .ok column ∧ ∀ calls : List Call,
      ((∀ before c rest, calls = before ++ c :: rest → ¬ c.Overtakes r m column (Store.afterCalls r before)) →
        (Store.afterCalls r calls).AssignsFresh r m column ∧
        ((Store.afterCalls r calls).rows m.name).Pairwise fun a b => (keyIn column a).equals (keyIn column b) = false) ∧
      ∀ c : Call, c.Overtakes r m column (Store.afterCalls r calls) →
        (∃ n, ¬ (Store.afterCalls r (calls ++ c :: List.replicate n (.create m.name []))).AssignsFresh r m column) ∧
        ((∃ model key values, c = .update model key values) ∨
          (∃ x, c.storedKey? m column ((Store.afterCalls r calls).table m.name).nextKey = some (.number (.real x))) ∨
          ∃ k : Int, Binary64.exactLimit ≤ k ∧
            c.storedKey? m column ((Store.afterCalls r calls).table m.name).nextKey = some (.int k)) := by
  have hm := hr.model?_of_mem hmem
  have hsound := hr.sound hm
  obtain ⟨f, -, -, -, column, -, hcolumn⟩ := hsound.keyColumn
  refine ⟨column, hcolumn, fun calls => ⟨fun hcalls => ?_, fun c hc => ⟨?_, kind_of_overtakes hm hcolumn hc⟩⟩⟩
  · obtain ⟨hover, hmap⟩ := not_isOvertaken_afterCalls hm hcolumn calls hcalls
    exact ⟨Store.assignsFresh hm hcolumn (nextKey_lt_keyLimit hm hcolumn calls) hover, List.pairwise_map.1 hmap.distinct⟩
  · obtain ⟨hname, s', hrun, key, hkey, hahead⟩ := hc
    obtain ⟨row, hrow, hrowKey⟩ := (Call.table_step hm hcolumn hname hrun).exists_row hkey
    have hafter : Store.afterCalls r (calls ++ [c]) = s' := by
      rw [Store.afterCalls_append, Call.after_of_ok hrun]
    obtain ⟨n, hn⟩ := not_assignsFresh_of_isOvertaken hm hcolumn hsound hauto (calls ++ [c])
      ⟨row, by rwa [hafter], by rwa [hafter, hrowKey]⟩
    rw [List.append_assoc, List.singleton_append] at hn
    exact ⟨n, hn⟩

/-- A model whose keys the store assigns. -/
def things : Model where
  name := "Thing"
  fields := [Model.implicitKey, .plain { name := "name", kind := .scalar .char, null := true }]

/-- Giving the only row the key 2, which is the next to be assigned, makes two rows share it. -/
theorem things_overtaken :
    ∃ r : Registry, r.IsBuilt ∧ things ∈ r.models ∧ things.assignsKeys = true ∧ ∃ n, ¬ (Store.afterCalls r
      ([.create "Thing" []] ++ .update "Thing" (.nat 1) (.of [("id", .nat 2)]) :: List.replicate n (.create "Thing" []))).AssignsFresh
        r things "id" := by
  have hr : Registry.IsBuilt { models := [things] } := ⟨[things], [], [], rfl⟩
  obtain ⟨column, hcolumn, hall⟩ := assigned_keys_fresh_unless_overtaken hr List.mem_cons_self rfl
  obtain rfl : "id" = column := Except.ok.inj hcolumn
  refine ⟨_, hr, List.mem_cons_self, rfl, ((hall [.create "Thing" []]).2 (.update "Thing" (.nat 1) (.of [("id", .nat 2)])) ?_).1⟩
  refine ⟨rfl, _, Call.run_eq_ok (by decide +kernel), .nat 2, rfl, 2, by decide +kernel, by decide +kernel, ?_⟩
  exact Json.equals_refl _

end ModelCatalog
