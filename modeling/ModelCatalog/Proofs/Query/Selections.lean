import ModelCatalog.Proofs.Query.Conditions
import ModelCatalog.Proofs.Store.Calls
import ModelCatalog.Proofs.Store.Reading

/-!
# What a boolean query selects

A query has clauses: its own, and those of its alternatives. A clause holds where all filters match and not all exclusions, if there are
any. `BooleanQuery.selects` says which rows the clauses select together: those of one clause, where a clause that asks for nothing counts
only when all do. A compiled query selects them (`fetch_select`), a query without alternatives in both ways to compile it
(`leaf_forms_agree`). A clause that asks for nothing holds of every row, so beside others the selection can fall short of the union of the
clauses; `alternatives_select_clauses` says exactly when.
-/

namespace ModelCatalog

namespace BooleanQuery

/-! ## Clauses -/

/-- Whether the query's own clause holds: all filters match, and not all exclusions if there are any. -/
def ownHolds (resolve : String → List Json) (q : BooleanQuery) : Bool :=
  q.filters.entries.all (Condition.entryMatches resolve) &&
    !(!q.exclude.isEmpty && q.exclude.entries.all (Condition.entryMatches resolve))

/-- Whether the query's own clause asks for nothing. -/
def isVacuous (q : BooleanQuery) : Bool := q.filters.isEmpty && q.exclude.isEmpty

/-- The paths of the query's own entries. -/
def ownPaths (q : BooleanQuery) : List String := (q.filters.entries ++ q.exclude.entries).map Condition.entryPath

/-- The queries whose own clauses count: the query itself and its alternatives, but not theirs. -/
def clauses (q : BooleanQuery) : List BooleanQuery := q :: q.alternatives

/-- Whether a row is selected: a clause holds that asks for something, or no clause asks for anything. -/
def selects (resolve : String → List Json) (q : BooleanQuery) : Bool :=
  q.clauses.all isVacuous || q.clauses.any fun clause => !clause.isVacuous && clause.ownHolds resolve

/-- The paths of all entries that count. -/
def paths (q : BooleanQuery) : List String := q.clauses.flatMap ownPaths

/-- The query with one more alternative. -/
def withAlternative (q child : BooleanQuery) : BooleanQuery := { q with alternatives := q.alternatives ++ [child] }

/-- The query without the alternatives of its alternatives. -/
def withoutNested (q : BooleanQuery) : BooleanQuery :=
  { q with alternatives := q.alternatives.map fun child => { child with alternatives := [] } }

/-- A clause that asks for nothing holds of every row. -/
theorem ownHolds_of_isVacuous {q : BooleanQuery} (h : q.isVacuous = true) (resolve : String → List Json) :
    q.ownHolds resolve = true := by
  rw [isVacuous, Bool.and_eq_true, Dict.isEmpty_eq, Dict.isEmpty_eq, List.isEmpty_iff, List.isEmpty_iff] at h
  rw [ownHolds, Dict.isEmpty_eq, h.1, h.2]
  rfl

/-- What the condition of a query's own clause says. -/
theorem ownClause_ok {q : BooleanQuery} {c : Condition} (h : q.ownClause = .ok c) :
    (∀ resolve, c.holds resolve = q.ownHolds resolve) ∧ c.paths = q.ownPaths ∧ c.isEmpty = q.isVacuous ∧
      (c.isEmpty = true → c = .always) := by
  obtain ⟨filter, hfilter, h⟩ := Outcome.bind_ok_iff.1 h
  have halways := Condition.ofEntries_eq_always_iff hfilter
  have hempty : filter.isEmpty = q.filters.entries.isEmpty := Condition.isEmpty_ofEntries hfilter
  by_cases hexclude : q.exclude.entries = []
  · rw [Dict.isEmpty_eq, if_pos (List.isEmpty_iff.2 hexclude)] at h
    cases h
    refine ⟨fun resolve => ?_, ?_, ?_, fun hc => ?_⟩
    · simp [ownHolds, hexclude, Condition.holds_ofEntries hfilter]
    · simp [ownPaths, hexclude, Condition.paths_ofEntries hfilter]
    · simp [isVacuous, hexclude, hempty]
    · exact halways.2 (List.isEmpty_iff.1 (hempty ▸ hc))
  · have hisEmpty : q.exclude.isEmpty = false := by simpa using hexclude
    rw [if_neg (by simpa using hexclude)] at h
    obtain ⟨excluded, hexcluded, h⟩ := Outcome.bind_ok_iff.1 h
    cases h
    have hnot := Condition.negate_ofEntries hexcluded hexclude
    have hne := Condition.isEmpty_and_not filter excluded
    rw [← hnot] at hne
    refine ⟨fun resolve => ?_, ?_, ?_, fun hc => ?_⟩
    · rw [Condition.holds_and, hnot, Condition.holds, Condition.holds_ofEntries hfilter, Condition.holds_ofEntries hexcluded,
        ownHolds, hisEmpty]
      rfl
    · rw [Condition.paths_and, hnot, Condition.paths, Condition.paths_ofEntries hfilter, Condition.paths_ofEntries hexcluded,
        ownPaths, List.map_append]
    · rw [hne, isVacuous, hisEmpty, Bool.and_false]
    · rw [hne] at hc
      cases hc

/-! ## Compiled queries -/

end BooleanQuery

/-- The conditions by which a selection filters. -/
def Selection.conditions : Selection → List Condition
  | .direct c none => [c]
  | .direct c (some excluded) => [c, excluded.negate]
  | .combined c => [c]

theorem QuerySet.select_eq (base : QuerySet) (selection : Selection) :
    base.select selection = { base with filters := base.filters ++ selection.conditions } := by
  unfold Selection.conditions
  split
  · rfl
  · rename_i c excluded
    have happend : base.filters ++ [c, excluded.negate] = base.filters ++ [c] ++ [excluded.negate] := by simp
    rw [happend]
    rfl
  · rfl

namespace BooleanQuery

/-- A query without alternatives selects the rows of its own clause. -/
theorem selects_of_leaf {q : BooleanQuery} (h : q.alternatives = []) (resolve : String → List Json) :
    q.selects resolve = q.ownHolds resolve := by
  rw [selects, clauses, h]
  cases hq : q.isVacuous with
  | true => simp [hq, ownHolds_of_isVacuous hq]
  | false => simp [hq]

theorem paths_of_leaf {q : BooleanQuery} (h : q.alternatives = []) : q.paths = q.ownPaths := by
  rw [paths, clauses, h]
  simp

/-- The selection of a query without alternatives. -/
theorem compile_leaf {q : BooleanQuery} (h : q.alternatives = []) {selection : Selection} (hq : q.compile = .ok selection) :
    (∃ filter excluded, selection = .direct filter excluded) ∧
      (∀ resolve, (selection.conditions.all fun c => c.holds resolve) = q.ownHolds resolve) ∧
      selection.conditions.flatMap Condition.paths = q.ownPaths ∧ ∃ clause, q.ownClause = .ok clause := by
  unfold compile at hq
  rw [if_pos (List.isEmpty_iff.2 h)] at hq
  obtain ⟨filter, hfilter, hq⟩ := Outcome.bind_ok_iff.1 hq
  unfold ownClause
  rw [hfilter]
  by_cases hexclude : q.exclude.entries = []
  · rw [Dict.isEmpty_eq, if_pos (List.isEmpty_iff.2 hexclude)] at hq
    cases hq
    refine ⟨⟨filter, none, rfl⟩, fun resolve => ?_, ?_, filter, ?_⟩
    · simp [Selection.conditions, ownHolds, hexclude, Condition.holds_ofEntries hfilter]
    · simp [Selection.conditions, ownPaths, hexclude, Condition.paths_ofEntries hfilter]
    · exact if_pos (List.isEmpty_iff.2 hexclude)
  · have hisEmpty : q.exclude.isEmpty = false := by simpa using hexclude
    rw [if_neg (by simpa using hexclude)] at hq
    obtain ⟨excluded, hexcluded, hq⟩ := Outcome.bind_ok_iff.1 hq
    cases hq
    have hnot := Condition.negate_ofEntries hexcluded hexclude
    refine ⟨⟨filter, some excluded, rfl⟩, fun resolve => ?_, ?_, filter.and excluded.negate, ?_⟩
    · rw [Selection.conditions, hnot, List.all_cons, List.all_cons, List.all_nil, Bool.and_true, Condition.holds,
        Condition.holds_ofEntries hfilter, Condition.holds_ofEntries hexcluded, ownHolds, hisEmpty]
      rfl
    · rw [Selection.conditions, hnot, List.flatMap_cons, List.flatMap_cons, List.flatMap_nil, List.append_nil, Condition.paths,
        Condition.paths_ofEntries hfilter, Condition.paths_ofEntries hexcluded, ownPaths, List.map_append]
    · rw [hexcluded]
      exact if_neg (by simpa using hexclude)

/-- A query with alternatives is compiled from the conditions of all clauses. -/
theorem compile_eq {q : BooleanQuery} (h : q.alternatives ≠ []) :
    q.compile = q.ownClause >>= fun own => (q.alternatives.mapM ownClause).map fun others =>
      .combined (others.foldl Condition.or own) := by
  unfold compile
  rw [if_neg (by simpa using h)]
  cases q.ownClause with
  | error e => rfl
  | ok own =>
    change (q.alternatives.foldlM (fun c alternative => alternative.ownClause.map c.or) own >>= _) = _
    rw [Outcome.foldlM_map_eq]
    change _ = (q.alternatives.mapM ownClause).map _
    cases q.alternatives.mapM ownClause <;> rfl

/-- What the conditions of several clauses say. -/
theorem ownClauses_ok {clauses : List BooleanQuery} {conditions : List Condition}
    (h : List.Forall₂ (fun (clause : BooleanQuery) c => clause.ownClause = .ok c) clauses conditions) :
    (∀ c ∈ conditions, c.isEmpty = true → c = .always) ∧ conditions.all Condition.isEmpty = clauses.all isVacuous ∧
      (∀ resolve, (conditions.any fun c => !c.isEmpty && c.holds resolve) =
        clauses.any fun clause => !clause.isVacuous && clause.ownHolds resolve) ∧
      conditions.flatMap Condition.paths = clauses.flatMap ownPaths := by
  induction h with
  | nil => simp
  | cons hclause _ ih =>
    obtain ⟨hholds, hpaths, hempty, halways⟩ := ownClause_ok hclause
    obtain ⟨ihalways, ihempty, ihholds, ihpaths⟩ := ih
    refine ⟨List.forall_mem_cons.2 ⟨halways, ihalways⟩, ?_, fun resolve => ?_, ?_⟩
    · rw [List.all_cons, List.all_cons, hempty, ihempty]
    · rw [List.any_cons, List.any_cons, hempty, hholds, ihholds]
    · rw [List.flatMap_cons, List.flatMap_cons, hpaths, ihpaths]

/-- What a compiled query says: where it filters, and by which paths. -/
theorem compile_ok {q : BooleanQuery} {selection : Selection} (hq : q.compile = .ok selection) :
    (∀ resolve, (selection.conditions.all fun c => c.holds resolve) = q.selects resolve) ∧
      selection.conditions.flatMap Condition.paths = q.paths := by
  by_cases h : q.alternatives = []
  · obtain ⟨-, hholds, hpaths, -⟩ := compile_leaf h hq
    exact ⟨fun resolve => (hholds resolve).trans (selects_of_leaf h resolve).symm, hpaths.trans (paths_of_leaf h).symm⟩
  · rw [compile_eq h] at hq
    obtain ⟨own, hown, hq⟩ := Outcome.bind_ok_iff.1 hq
    obtain ⟨others, hothers, rfl⟩ := Outcome.map_ok_iff.1 hq
    have hall : List.Forall₂ (fun (clause : BooleanQuery) c => clause.ownClause = .ok c) q.clauses (own :: others) :=
      .cons hown (Outcome.mapM_ok hothers)
    obtain ⟨halways, hempty, hholds, hpaths⟩ := ownClauses_ok hall
    refine ⟨fun resolve => ?_, ?_⟩
    · rw [Selection.conditions, List.all_cons, List.all_nil, Bool.and_true, (Condition.foldl_or halways resolve).1, hempty, hholds,
        selects]
    · rw [Selection.conditions, List.flatMap_cons, List.flatMap_nil, List.append_nil,
        (Condition.foldl_or halways fun _ => []).2, hpaths, paths]

/-- The rows of a compiled query are those that it selects, when its paths make sense. -/
theorem fetch_select {q : BooleanQuery} {selection : Selection} (hq : q.compile = .ok selection) (r : Registry) (s : Store)
    (model : String) :
    (QuerySet.select { model } selection).fetch r s = (q.paths.forM (r.checkPath model)).map fun _ =>
      (s.rows model).filter fun row => q.selects (s.valuesAt r model row) := by
  obtain ⟨hholds, hpaths⟩ := compile_ok hq
  rw [QuerySet.select_eq, List.nil_append, QuerySet.fetch_filters, hpaths]
  simp only [hholds]

end BooleanQuery

/-! ## Selected rows -/

section Rows

variable {q : BooleanQuery} {selection : Selection}

/-- Both ways to compile a query without alternatives select the same rows, in the same order: those of its own clause. -/
theorem leaf_forms_agree (hleaf : q.alternatives = []) (hq : q.compile = .ok selection) :
    ∃ filter excluded clause, selection = .direct filter excluded ∧ q.compileAlternative = .ok (.combined clause) ∧
      (∀ (r : Registry) (s : Store) (base : QuerySet), (base.select selection).fetch r s = (base.filter clause).fetch r s) ∧
      ∀ (r : Registry) (s : Store) (model : String),
        (QuerySet.select { model } selection).fetch r s = (q.ownPaths.forM (r.checkPath model)).map fun _ =>
          (s.rows model).filter fun row => q.ownHolds (s.valuesAt r model row) := by
  obtain ⟨⟨filter, excluded, hdirect⟩, hholds, hpaths, clause, hclause⟩ := BooleanQuery.compile_leaf hleaf hq
  obtain ⟨hclauseHolds, hclausePaths, -, -⟩ := BooleanQuery.ownClause_ok hclause
  have hcombined : q.compileAlternative = .ok (.combined clause) := Outcome.map_ok_iff.2 ⟨clause, hclause, rfl⟩
  refine ⟨filter, excluded, clause, hdirect, hcombined, fun r s base => ?_, fun r s model => ?_⟩
  · rw [QuerySet.select_eq, QuerySet.filter]
    refine QuerySet.fetch_congr_filters (fun resolve => ?_) ?_ r s
    · rw [hholds, List.all_cons, List.all_nil, Bool.and_true, hclauseHolds]
    · rw [hpaths, List.flatMap_cons, List.flatMap_nil, List.append_nil, hclausePaths]
  · rw [BooleanQuery.fetch_select hq, BooleanQuery.paths_of_leaf hleaf]
    simp only [BooleanQuery.selects_of_leaf hleaf]

end Rows

/-- Books that stand in halls. -/
def library : Registry where
  models := [{
    name := "Book"
    fields := [Model.implicitKey, .plain { name := "hall", kind := .scalar .char }, .plain { name := "title", kind := .scalar .char }] }]

theorem library_isBuilt : library.IsBuilt :=
  ⟨[{
    name := "Book"
    fields := [.plain { name := "hall", kind := .scalar .char }, .plain { name := "title", kind := .scalar .char }] }], [], [], rfl⟩

def book (key : Nat) (hall title : String) : Row := .of [("hall", .text hall), ("id", .nat key), ("title", .text title)]

/-- Three books, two of them in one hall. -/
def shelves : Store :=
  Store.afterCalls library
    [.create "Book" (.of [("hall", .text "a"), ("title", .text "xy")]), .create "Book" (.of [("hall", .text "a"), ("title", .text "yx")]),
      .create "Book" (.of [("hall", .text "b"), ("title", .text "yx")])]

/-- The books of a hall but those with some titles. -/
def booksOfHall : BooleanQuery where
  filters := .of [("hall", .text "a")]
  exclude := .of [("title__startswith", .text "x")]

theorem booksOfHall_forms_agree :
    ∃ filter excluded clause, booksOfHall.compile = .ok (.direct filter excluded) ∧
      booksOfHall.compileAlternative = .ok (.combined clause) ∧
      (∀ (r : Registry) (s : Store) (base : QuerySet),
        (base.select (.direct filter excluded)).fetch r s = (base.filter clause).fetch r s) ∧
      (QuerySet.select { model := "Book" } (.direct filter excluded)).fetch library shelves = .ok [book 2 "a" "yx"] := by
  have hq : ∃ selection, booksOfHall.compile = .ok selection := ⟨_, rfl⟩
  obtain ⟨selection, hq⟩ := hq
  obtain ⟨filter, excluded, clause, rfl, hclause, hsame, hrows⟩ := leaf_forms_agree rfl hq
  exact ⟨filter, excluded, clause, hq, hclause, hsame, (hrows _ _ _).trans rfl⟩

namespace BooleanQuery

/-! ## The union of the clauses -/

section Union

variable {q : BooleanQuery} (resolve : String → List Json)

/-- A clause holds when it asks for nothing, or asks for something and holds. -/
theorem any_ownHolds (clauses : List BooleanQuery) :
    clauses.any (ownHolds resolve) =
      (clauses.any isVacuous || clauses.any fun clause => !clause.isVacuous && clause.ownHolds resolve) := by
  induction clauses with
  | nil => rfl
  | cons clause clauses ih =>
    rw [List.any_cons, List.any_cons, List.any_cons, ih]
    cases hclause : clause.isVacuous with
    | true => simp [ownHolds_of_isVacuous hclause]
    | false => cases clause.ownHolds resolve <;> simp

/-- A row is selected as by the union of the clauses unless only clauses hold that ask for nothing, beside others. -/
theorem selects_eq_any_iff :
    q.selects resolve = q.clauses.any (ownHolds resolve) ↔
      (q.clauses.any isVacuous = true →
        q.clauses.all isVacuous = true ∨ q.clauses.any (fun clause => !clause.isVacuous && clause.ownHolds resolve) = true) := by
  have hall : q.clauses.all isVacuous = true → q.clauses.any isVacuous = true := by
    intro h
    exact List.any_eq_true.2 ⟨q, List.mem_cons_self, List.all_eq_true.1 h q List.mem_cons_self⟩
  rw [selects, any_ownHolds]
  cases hvacuous : q.clauses.all isVacuous with
  | true => simp [hall hvacuous]
  | false =>
    cases q.clauses.any isVacuous <;>
      cases q.clauses.any (fun clause => !clause.isVacuous && clause.ownHolds resolve) <;> simp

theorem selects_withAlternative (child : BooleanQuery) :
    (q.withAlternative child).selects resolve =
      (q.clauses.all isVacuous && child.isVacuous ||
        (q.clauses.any (fun clause => !clause.isVacuous && clause.ownHolds resolve) || !child.isVacuous && child.ownHolds resolve)) := by
  -- the query's own clause does not depend on its alternatives
  have hall : (q.withAlternative child).clauses.all isVacuous = (q.isVacuous && (q.alternatives ++ [child]).all isVacuous) := rfl
  have hany : ((q.withAlternative child).clauses.any fun clause => !clause.isVacuous && clause.ownHolds resolve) =
      (!q.isVacuous && q.ownHolds resolve ||
        (q.alternatives ++ [child]).any fun clause => !clause.isVacuous && clause.ownHolds resolve) := rfl
  rw [selects, hall, hany, clauses, List.all_append, List.any_append, List.all_cons, List.any_cons]
  simp [Bool.and_assoc, Bool.or_assoc]

/-- One more alternative keeps a row unless no other clause asks for anything and its own does not hold. -/
theorem selects_withAlternative_iff (child : BooleanQuery) :
    (q.selects resolve = true → (q.withAlternative child).selects resolve = true) ↔
      (q.clauses.all isVacuous = true → child.ownHolds resolve = true) := by
  have hholds : child.isVacuous = true → child.ownHolds resolve = true := fun h => ownHolds_of_isVacuous h resolve
  rw [selects_withAlternative, selects]
  cases hvacuous : q.clauses.all isVacuous with
  | true =>
    have hnone : q.clauses.any (fun clause => !clause.isVacuous && clause.ownHolds resolve) = false := by
      rw [List.any_eq_false]
      intro clause hclause
      simp [List.all_eq_true.1 hvacuous clause hclause]
    rw [hnone]
    cases hchild : child.isVacuous with
    | true => simp [hholds hchild]
    | false => simp
  | false =>
    simp only [Bool.false_or, Bool.false_and, Bool.or_eq_true]
    exact ⟨nofun, fun _ h => Or.inl h⟩

/-- Alternatives of alternatives do not count. -/
theorem compile_withoutNested (q : BooleanQuery) : q.withoutNested.compile = q.compile := by
  by_cases h : q.alternatives = []
  · have hsame : q.withoutNested = q := by
      obtain ⟨filters, exclude, alternatives⟩ := q
      cases h
      rfl
    rw [hsame]
  · have h' : q.withoutNested.alternatives ≠ [] := fun hnil => h (List.map_eq_nil_iff.1 hnil)
    rw [compile_eq h, compile_eq h', withoutNested, List.mapM_map]
    rfl

end Union

end BooleanQuery

/-- A query selects the rows of its own clause and those of its alternatives' clauses, where clauses that ask for nothing count only when no
clause asks for anything; alternatives of alternatives do not count. So the rows are the union of the clauses unless some clauses ask for
nothing and others do, and one more alternative keeps them unless no clause so far asks for anything. -/
theorem alternatives_select_clauses {q : BooleanQuery} {selection : Selection} (hq : q.compile = .ok selection) (r : Registry)
    (s : Store) (model : String) :
    q.withoutNested.compile = .ok selection ∧
      ((QuerySet.select { model } selection).fetch r s = (q.paths.forM (r.checkPath model)).map fun _ =>
        (s.rows model).filter fun row => q.selects (s.valuesAt r model row)) ∧
      ((∀ row ∈ s.rows model, q.selects (s.valuesAt r model row) = q.clauses.any (·.ownHolds (s.valuesAt r model row))) ↔
        (q.clauses.any BooleanQuery.isVacuous = true → q.clauses.all BooleanQuery.isVacuous = true ∨
          ∀ row ∈ s.rows model, ∃ clause ∈ q.clauses, clause.isVacuous = false ∧ clause.ownHolds (s.valuesAt r model row) = true)) ∧
      ∀ child selection' rows rows', (q.withAlternative child).compile = .ok selection' →
        (QuerySet.select { model } selection).fetch r s = .ok rows → (QuerySet.select { model } selection').fetch r s = .ok rows' →
          (rows ⊆ rows' ↔
            (q.clauses.all BooleanQuery.isVacuous = true → ∀ row ∈ s.rows model, child.ownHolds (s.valuesAt r model row) = true)) := by
  refine ⟨(BooleanQuery.compile_withoutNested q).trans hq, BooleanQuery.fetch_select hq r s model, ?_, ?_⟩
  · simp only [BooleanQuery.selects_eq_any_iff]
    constructor
    · intro h hmixed
      cases hvacuous : q.clauses.all BooleanQuery.isVacuous with
      | true => exact Or.inl rfl
      | false => exact Or.inr fun row hrow => by simpa [hvacuous] using h row hrow hmixed
    · intro h row hrow hmixed
      refine (h hmixed).imp_right fun hall => ?_
      simpa using hall row hrow
  · intro child selection' rows rows' hq' hrows hrows'
    rw [BooleanQuery.fetch_select hq] at hrows
    rw [BooleanQuery.fetch_select hq'] at hrows'
    obtain ⟨-, -, rfl⟩ := Outcome.map_ok_iff.1 hrows
    obtain ⟨-, -, rfl⟩ := Outcome.map_ok_iff.1 hrows'
    have hkept := fun row => BooleanQuery.selects_withAlternative_iff (q := q) (s.valuesAt r model row) child
    constructor
    · intro hsubset hvacuous row hrow
      refine (hkept row).1 (fun hselected => ?_) hvacuous
      exact (List.mem_filter.1 (hsubset (List.mem_filter.2 ⟨hrow, hselected⟩))).2
    · intro h row hmem
      obtain ⟨hrow, hselected⟩ := List.mem_filter.1 hmem
      exact List.mem_filter.2 ⟨hrow, (hkept row).2 (fun hvacuous => h hvacuous row hrow) hselected⟩

/-- The books of a hall, or those with a title. -/
def booksOfHallOrTitled : BooleanQuery where
  filters := .of [("hall", .text "a")]
  alternatives := [{ filters := .of [("title", .text "yx")] }]

theorem booksOfHallOrTitled_select_both :
    ∃ selection, booksOfHallOrTitled.compile = .ok selection ∧
      (QuerySet.select { model := "Book" } selection).fetch library shelves =
        .ok [book 1 "a" "xy", book 2 "a" "yx", book 3 "b" "yx"] := by
  have hq : ∃ selection, booksOfHallOrTitled.compile = .ok selection := ⟨_, rfl⟩
  obtain ⟨selection, hq⟩ := hq
  obtain ⟨-, hrows, -⟩ := alternatives_select_clauses hq library shelves "Book"
  exact ⟨selection, hq, hrows.trans rfl⟩

/-- The books of a hall, or any. -/
def booksOfHallOrAny : BooleanQuery where
  filters := .of [("hall", .text "a")]
  alternatives := [{}]

/-- A book of another hall is not selected, although the clause of the alternative holds of it. -/
theorem booksOfHallOrAny_misses_book :
    library.IsBuilt ∧ shelves.IsReachable library ∧ book 3 "b" "yx" ∈ shelves.rows "Book" ∧
      (∃ clause ∈ booksOfHallOrAny.clauses, clause.ownHolds (shelves.valuesAt library "Book" (book 3 "b" "yx")) = true) ∧
      ∃ selection, booksOfHallOrAny.compile = .ok selection ∧
        (QuerySet.select { model := "Book" } selection).fetch library shelves = .ok [book 1 "a" "xy", book 2 "a" "yx"] := by
  refine ⟨library_isBuilt, ⟨_, rfl⟩, ?_, ⟨{}, by simp [BooleanQuery.clauses, booksOfHallOrAny], rfl⟩, _, rfl, rfl⟩
  have hrows : shelves.rows "Book" = [book 1 "a" "xy", book 2 "a" "yx", book 3 "b" "yx"] := rfl
  rw [hrows]
  simp

end ModelCatalog
