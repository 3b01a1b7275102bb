import ModelCatalog.Proofs.Store.Sorting

/-!
# Rows without repetitions

A query set that tells rows apart by some paths keeps of the rows with one key the first in its order (`distinct_rows_first_of_key`). Rows
are looked at in that order, and each is kept unless one with its key was kept before (`firstOfEach_split`). Which row is the first of its
key among the stored ones then follows from the order being a stable one.
-/

namespace ModelCatalog

namespace QuerySet

/-! ## The first row of each key -/

section

variable {key : Row → String} {seen : List String} {rows : List Row}

/-- Before a row that is kept there is none with its key, and its key was not seen before. -/
theorem firstOfEach_split {row : Row} (h : row ∈ firstOfEach key seen rows) :
    key row ∉ seen ∧ ∃ before after, rows = before ++ row :: after ∧ ∀ b ∈ before, key b ≠ key row := by
  induction rows generalizing seen with
  | nil => cases h
  | cons first rows ih =>
    unfold firstOfEach at h
    split at h
    · rename_i hseen
      rw [List.contains_iff_mem] at hseen
      obtain ⟨hrow, before, after, hrows, hbefore⟩ := ih h
      have hfirst : key first ≠ key row := fun heq => hrow (heq ▸ hseen)
      exact ⟨hrow, first :: before, after, by rw [hrows, List.cons_append], List.forall_mem_cons.2 ⟨hfirst, hbefore⟩⟩
    · rename_i hseen
      rw [List.contains_iff_mem] at hseen
      rcases List.mem_cons.1 h with rfl | h
      · exact ⟨hseen, [], rows, rfl, List.forall_mem_nil _⟩
      · obtain ⟨hrow, before, after, hrows, hbefore⟩ := ih h
        rw [List.mem_cons, not_or] at hrow
        refine ⟨hrow.2, first :: before, after, by rw [hrows, List.cons_append], ?_⟩
        exact List.forall_mem_cons.2 ⟨Ne.symm hrow.1, hbefore⟩

/-- Of each key one row is kept. -/
theorem pairwise_firstOfEach (key : Row → String) (seen : List String) (rows : List Row) :
    (firstOfEach key seen rows).Pairwise fun a b => key a ≠ key b := by
  induction rows generalizing seen with
  | nil => exact List.Pairwise.nil
  | cons first rows ih =>
    unfold firstOfEach
    split
    · exact ih seen
    · refine List.pairwise_cons.2 ⟨?_, ih _⟩
      intro b hb heq
      exact (firstOfEach_split hb).1 (heq ▸ List.mem_cons_self)

/-- Of every key that was not seen before a row is kept. -/
theorem exists_mem_firstOfEach {row : Row} (hrow : row ∈ rows) (hseen : key row ∉ seen) :
    ∃ a ∈ firstOfEach key seen rows, key a = key row := by
  induction rows generalizing seen with
  | nil => cases hrow
  | cons first rows ih =>
    unfold firstOfEach
    split
    · rename_i hfirst
      rw [List.contains_iff_mem] at hfirst
      rcases List.mem_cons.1 hrow with rfl | hrow
      · exact absurd hfirst hseen
      · exact ih hrow hseen
    · by_cases heq : key first = key row
      · exact ⟨first, List.mem_cons_self, heq⟩
      · have hrest : row ∈ rows := by
          rcases List.mem_cons.1 hrow with rfl | hrow
          · exact absurd rfl heq
          · exact hrow
        have hnew : key row ∉ key first :: seen := by
          rw [List.mem_cons, not_or]
          exact ⟨Ne.symm heq, hseen⟩
        obtain ⟨a, ha, hkey⟩ := ih hrest hnew
        exact ⟨a, List.mem_cons_of_mem _ ha, hkey⟩

end

/-! ## Rows in the order of a query set -/

section

variable {r : Registry} {s : Store} {q : QuerySet}

/-- The rows that pass the filters of a query set, in its order. -/
def acceptedInOrder (r : Registry) (s : Store) (q : QuerySet) : List Row :=
  ((s.rows q.model).filter (q.accepts r s)).mergeSort fun a b => (compareRows r s q.model q.order a b).isLE

theorem mem_acceptedInOrder {row : Row} : row ∈ q.acceptedInOrder r s ↔ row ∈ s.rows q.model ∧ q.accepts r s row = true := by
  rw [acceptedInOrder, List.mem_mergeSort, List.mem_filter]

/-- Without terms every order is the one in which rows are stored. -/
theorem mergeSort_of_unordered {model : String} (rows : List Row) :
    (rows.mergeSort fun a b => (compareRows r s model [] a b).isLE) = rows :=
  List.mergeSort_of_pairwise (List.pairwise_of_forall fun _ _ => rfl)

/-- Rows that are told apart are looked at in the order of the query set. -/
theorem matching_of_distinct {paths : List String} (h : q.distinct = some paths) :
    q.matching r s = firstOfEach (distinctKey r s q.model paths) [] (q.acceptedInOrder r s) := by
  unfold matching acceptedInOrder
  rw [h]
  cases horder : q.order with
  | nil => rw [mergeSort_of_unordered]; rfl
  | cons t terms => rfl

theorem pairwise_acceptedInOrder (r : Registry) (s : Store) (q : QuerySet) :
    (q.acceptedInOrder r s).Pairwise fun a b => Tied r s q.model q.order a b ∨ Precedes r s q.model q.order a b := by
  have hpreorder := isTotalPreorder (compareRows r s q.model q.order)
  have htotal : ∀ a b, ((compareRows r s q.model q.order a b).isLE || (compareRows r s q.model q.order b a).isLE) = true := by
    intro a b
    exact Bool.or_eq_true_iff.2 (hpreorder.total a b)
  exact (List.pairwise_mergeSort hpreorder.trans htotal _).imp fun h => isLE_compareRows_iff.1 h

/-- Rows that are equal on every term stand as they are stored. -/
theorem filter_acceptedInOrder (r : Registry) (s : Store) (q : QuerySet) (a : Row) :
    (q.acceptedInOrder r s).filter (fun b => Tied r s q.model q.order a b) =
      ((s.rows q.model).filter (q.accepts r s)).filter fun b => Tied r s q.model q.order a b := by
  have h := filter_mergeSort (compareRows r s q.model q.order) ((s.rows q.model).filter (q.accepts r s)) a
  simp only [compareRows_eq_eq_iff] at h
  exact h

theorem tied_refl {model : String} (terms : List OrderTerm) (a : Row) : Tied r s model terms a a :=
  compareRows_eq_eq_iff.1 ((isTotalPreorder (compareRows r s model terms)).refl a)

/-- A row that is kept comes, in the order of the query set, before all stored rows of its key that pass, or it is equal to them on every
term and stored before them. -/
theorem firstOfEach_precedes {key : Row → String} {a : Row} (ha : a ∈ firstOfEach key [] (q.acceptedInOrder r s)) :
    ∃ earlier later, s.rows q.model = earlier ++ a :: later ∧
      (∀ b ∈ earlier, q.accepts r s b = true → key b = key a → Precedes r s q.model q.order a b) ∧
      ∀ b ∈ later, q.accepts r s b = true → key b = key a → Tied r s q.model q.order a b ∨ Precedes r s q.model q.order a b := by
  obtain ⟨-, before, after, hrows, hbefore⟩ := firstOfEach_split ha
  have hle : ∀ b ∈ s.rows q.model, q.accepts r s b = true → key b = key a →
      Tied r s q.model q.order a b ∨ Precedes r s q.model q.order a b := by
    intro b hb haccepts hkey
    have hpairwise := pairwise_acceptedInOrder r s q
    have hmem : b ∈ q.acceptedInOrder r s := mem_acceptedInOrder.2 ⟨hb, haccepts⟩
    rw [hrows] at hpairwise hmem
    rcases List.mem_append.1 hmem with hb | hb
    · exact absurd hkey (hbefore b hb)
    · rcases List.mem_cons.1 hb with rfl | hb
      · exact Or.inl (tied_refl _ _)
      · exact (List.pairwise_cons.1 (List.pairwise_append.1 hpairwise).2.1).1 b hb
  -- of the stored rows of its key that are equal to it on every term, the row is the first, since sorting leaves these as they stand
  have hfirst : ∃ rest, (s.rows q.model).filter (fun b => decide (key b = key a) && decide (Tied r s q.model q.order a b) &&
      q.accepts r s b) = a :: rest := by
    have hsame := congrArg (List.filter fun b => decide (key b = key a)) (filter_acceptedInOrder r s q a)
    have hnone : before.filter (fun b => decide (key b = key a) && decide (Tied r s q.model q.order a b)) = [] := by
      rw [List.filter_eq_nil_iff]
      intro b hb
      simp [hbefore b hb]
    rw [hrows, List.filter_filter, List.filter_filter, List.filter_filter, List.filter_append, hnone, List.nil_append,
      List.filter_cons_of_pos (by simp [tied_refl])] at hsame
    exact ⟨_, hsame.symm⟩
  obtain ⟨rest, hfirst⟩ := hfirst
  obtain ⟨earlier, later, hstored, hearlier, -⟩ := List.filter_eq_cons_iff.1 hfirst
  refine ⟨earlier, later, hstored, ?_, ?_⟩
  · intro b hb haccepts hkey
    have hmem : b ∈ s.rows q.model := hstored ▸ List.mem_append_left _ hb
    have hnot : ¬Tied r s q.model q.order a b := by
      intro htied
      exact hearlier b hb (by simp [hkey, htied, haccepts])
    exact (hle b hmem haccepts hkey).resolve_left hnot
  · intro b hb haccepts hkey
    have hmem : b ∈ s.rows q.model := hstored ▸ List.mem_append_right _ (List.mem_cons_of_mem _ hb)
    exact hle b hmem haccepts hkey

/-! ## Distinct query sets -/

/-- A query set that filters, orders and tells rows apart has the first row of each key. -/
theorem fetch_distinct {paths : List String} (hdistinct : q.distinct = some paths) (hrelated : q.related = [])
    (hprojection : q.projection = none) (hpaths : ∀ path ∈ q.paths, r.checkPath q.model path = .ok ()) :
    q.fetch r s = .ok (firstOfEach (distinctKey r s q.model paths) [] (q.acceptedInOrder r s)) := by
  rw [fetch, check, Outcome.forM_ok_iff.2 hpaths, shape_eq_id hrelated hprojection, matching_of_distinct hdistinct]
  exact congrArg Except.ok (List.map_id _)

/-- A query set that tells rows apart by some paths, and has any filters and any order, has stored rows that pass the filters, one of each
key: the text of the first values that the paths lead to. It is the row that comes before all others of its key, or is equal to them on
every term of the order and stored before them. The rows themselves stand in the order, and those that are equal on every term as they are
stored. -/
theorem distinct_rows_first_of_key (r : Registry) (s : Store) (q : QuerySet) {paths : List String} (hdistinct : q.distinct = some paths)
    (hne : paths ≠ []) (hrelated : q.related = []) (hprojection : q.projection = none)
    (hpaths : ∀ path ∈ q.paths, r.checkPath q.model path = .ok ()) :
    let key := fun row => (Json.list (paths.map (s.firstAt r q.model row))).compact
    ∃ rows, q.fetch r s = .ok rows ∧ (∀ a ∈ rows, a ∈ s.rows q.model ∧ q.accepts r s a = true) ∧
      rows.Pairwise (fun a b => key a ≠ key b) ∧
      (∀ b ∈ s.rows q.model, q.accepts r s b = true → ∃ a ∈ rows, key a = key b) ∧
      (∀ a ∈ rows, ∃ earlier later, s.rows q.model = earlier ++ a :: later ∧
        (∀ b ∈ earlier, q.accepts r s b = true → key b = key a → Precedes r s q.model q.order a b) ∧
        ∀ b ∈ later, q.accepts r s b = true → key b = key a → Tied r s q.model q.order a b ∨ Precedes r s q.model q.order a b) ∧
      rows.Pairwise (fun a b => Tied r s q.model q.order a b ∨ Precedes r s q.model q.order a b) ∧
      ∀ a, (rows.filter fun b => Tied r s q.model q.order a b).Sublist
        ((s.rows q.model).filter fun b => Tied r s q.model q.order a b) := by
  intro key
  have hkey : distinctKey r s q.model paths = key := by
    funext row
    rw [distinctKey, List.isEmpty_eq_false_iff.2 hne]
    rfl
  have hsublist := firstOfEach_sublist key [] (q.acceptedInOrder r s)
  refine ⟨_, fetch_distinct hdistinct hrelated hprojection hpaths, ?_⟩
  rw [hkey]
  refine ⟨?_, pairwise_firstOfEach key [] _, ?_, ?_, (pairwise_acceptedInOrder r s q).sublist hsublist, ?_⟩
  · intro a ha
    exact mem_acceptedInOrder.1 (hsublist.subset ha)
  · intro b hb haccepts
    exact exists_mem_firstOfEach (mem_acceptedInOrder.2 ⟨hb, haccepts⟩) List.not_mem_nil
  · intro a ha
    exact firstOfEach_precedes ha
  · intro a
    have hfilter := hsublist.filter fun b => decide (Tied r s q.model q.order a b)
    rw [filter_acceptedInOrder] at hfilter
    exact hfilter.trans (List.filter_sublist.filter _)

end

end QuerySet

/-- The values of a measurement of a kind. -/
def measurementOf (kind : String) (n : Json) : Row := .of [("value", .object [("kind", .text kind), ("n", n)])]

/-- The least measurement of each of two kinds. Of the first kind it is not the one that was stored first. -/
theorem least_measurement_of_each_kind :
    ∃ (s : Store) (first : Row) (rows : List Row), measurements.IsBuilt ∧ s.IsReachable measurements ∧
      (s.rows "Measurement").head? = some first ∧
      QuerySet.fetch measurements s
        { model := "Measurement", order := [⟨"value__n", false⟩], distinct := some ["value__kind"] } = .ok rows ∧
      (rows.map fun row => (Json.list [s.firstAt measurements "Measurement" row "value__kind"]).compact).Perm ["[\"a\"]", "[\"b\"]"] ∧
      first ∉ rows := by
  let first := (measurementOf "a" (.nat 2)).insert "id" (.nat 1)
  let least := (measurementOf "a" (.nat 1)).insert "id" (.nat 2)
  let other := (measurementOf "b" (.nat 1)).insert "id" (.nat 3)
  let equal := (measurementOf "a" (.number (.real (.ofInt 1)))).insert "id" (.nat 4)
  obtain ⟨s, hs, hstored⟩ : ∃ s : Store, s.IsReachable measurements ∧ s.rows "Measurement" = [first, least, other, equal] :=
    ⟨Store.afterCalls measurements [.create "Measurement" (measurementOf "a" (.nat 2)),
      .create "Measurement" (measurementOf "a" (.nat 1)), .create "Measurement" (measurementOf "b" (.nat 1)),
      .create "Measurement" (measurementOf "a" (.number (.real (.ofInt 1))))], ⟨_, rfl⟩, rfl⟩
  obtain ⟨rows, hrows, hsubset, hapart, hcovered, hfirst, -⟩ := QuerySet.distinct_rows_first_of_key measurements s
    { model := "Measurement", order := [⟨"value__n", false⟩], distinct := some ["value__kind"] } rfl (List.cons_ne_nil _ _) rfl rfl
    (List.forall_mem_cons.2 ⟨rfl, List.forall_mem_singleton.2 rfl⟩)
  simp only [hstored] at hsubset hcovered hfirst
  refine ⟨s, first, rows, measurements_isBuilt, hs, by rw [hstored]; rfl, hrows, ?_, ?_⟩
  · let key : Row → String := fun row => (Json.list [s.firstAt measurements "Measurement" row "value__kind"]).compact
    have hkeys : [first, least, other, equal].map key = ["[\"a\"]", "[\"a\"]", "[\"b\"]", "[\"a\"]"] := rfl
    refine (List.perm_ext_iff_of_nodup (List.pairwise_map.2 hapart) (by decide)).2 fun k => ?_
    have hkinds : k ∈ ["[\"a\"]", "[\"b\"]"] ↔ k ∈ [first, least, other, equal].map key := by
      rw [hkeys]
      simp only [List.mem_cons, List.not_mem_nil, or_false]
      tauto
    rw [hkinds]
    constructor
    · intro hk
      obtain ⟨a, ha, rfl⟩ := List.mem_map.1 hk
      exact List.mem_map_of_mem (hsubset a ha).1
    · intro hk
      obtain ⟨b, hb, rfl⟩ := List.mem_map.1 hk
      obtain ⟨a, ha, heq⟩ := hcovered b hb rfl
      exact List.mem_map.2 ⟨a, ha, heq⟩
  · intro hmem
    have hgreater : (Json.nat 2).sortOrder (.nat 1) = .gt := by decide +kernel
    obtain ⟨earlier, later, hsplit, hearlier, hlater⟩ := hfirst first hmem
    have hleast : least ∈ earlier ++ first :: later := hsplit ▸ List.mem_cons_of_mem _ List.mem_cons_self
    have hle : QuerySet.Tied measurements s "Measurement" [⟨"value__n", false⟩] first least ∨
        QuerySet.Precedes measurements s "Measurement" [⟨"value__n", false⟩] first least := by
      rcases List.mem_append.1 hleast with h | h
      · exact Or.inr (hearlier least h rfl rfl)
      · rcases List.mem_cons.1 h with h | h
        · exact nomatch congrArg (fun row : Row => row.get? "id") h
        · exact hlater least h rfl rfl
    rw [← QuerySet.isLE_compareRows_iff] at hle
    change (((Json.nat 2).sortOrder (.nat 1)).then .eq).isLE = true at hle
    rw [hgreater] at hle
    cases hle

end ModelCatalog
