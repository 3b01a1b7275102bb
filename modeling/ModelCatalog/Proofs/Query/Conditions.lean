import ModelCatalog.Proofs.Outcome
import ModelCatalog.Proofs.Query.Keys
import ModelCatalog.Query.BooleanQuery

/-!
# What conditions hold of

Conditions are joined so that they stay flat, and an empty conjunction gives way. Here is what the joined conditions hold of and which
paths they are about, by the parts of a conjunction (`conjuncts_and`) and of a disjunction (`disjuncts_orParts`). The condition of entries
holds where each entry matches (`ofEntries_ok`): some value at the path of its key is what the operator of the key looks for.
-/

namespace ModelCatalog

/-! ## Operands -/

/-- Whether an operand has the shape that an operator wants. -/
def Operator.takes (op : Operator) (operand : Json) : Bool :=
  match op, operand with
  | .exact, _ => true
  | .oneOf, .list _ => true
  | .range, .list [_, _] => true
  | .isNull, .bool _ => true
  | .regex, .text source => (Pattern.compile? source false).isSome
  | .iregex, .text source => (Pattern.compile? source true).isSome
  | .gt, _ | .gte, _ | .lt, _ | .lte, _ => !operand.isNull
  | .date, _ | .year, _ | .month, _ | .day, _ | .weekDay, _ | .hour, _ | .minute, _ | .second, _ => !operand.isNull
  | .iexact, .text _ | .contains, .text _ | .icontains, .text _ | .startsWith, .text _ | .istartsWith, .text _ => true
  | .endsWith, .text _ | .iendsWith, .text _ => true
  | _, _ => false

namespace Lookup

theorem ofBound_ok {comparison : Comparison} {bound : Json} {lookup : Lookup} (h : ofBound comparison bound = .ok lookup) :
    bound.isNull = false ∧ lookup = compare comparison bound := by
  unfold ofBound at h
  split at h
  · cases h
  · rename_i hnull
    cases h
    exact ⟨by simpa using hnull, rfl⟩

theorem ofPart_ok {p : MomentPart} {expected : Json} {lookup : Lookup} (h : ofPart p expected = .ok lookup) :
    expected.isNull = false ∧ lookup = part p expected := by
  unfold ofPart at h
  split at h
  · cases h
  · rename_i hnull
    cases h
    exact ⟨by simpa using hnull, rfl⟩

theorem ofPattern_ok {ignoreCase : Bool} {source : String} {lookup : Lookup} (h : ofPattern ignoreCase source = .ok lookup) :
    ∃ regex, Pattern.compile? source ignoreCase = some regex ∧ lookup = pattern ignoreCase source regex := by
  unfold ofPattern at h
  split at h
  · rename_i regex hregex
    cases h
    exact ⟨regex, hregex, rfl⟩
  · cases h

theorem exists_ofPattern {ignoreCase : Bool} {source : String} (h : (Pattern.compile? source ignoreCase).isSome = true) :
    ∃ lookup, ofPattern ignoreCase source = .ok lookup := by
  obtain ⟨regex, hregex⟩ := Option.isSome_iff_exists.1 h
  refine ⟨pattern ignoreCase source regex, ?_⟩
  rw [ofPattern, hregex]

/-- A lookup has the operator and the operand that it was made of. -/
theorem ofOperand_ok {op : Operator} {operand : Json} {lookup : Lookup} (h : ofOperand op operand = .ok lookup) :
    lookup.operator = op ∧ lookup.operand = operand := by
  cases op with
  | exact =>
    cases h
    exact ⟨rfl, rfl⟩
  | gt | gte | lt | lte =>
    obtain ⟨-, rfl⟩ := ofBound_ok h
    exact ⟨rfl, rfl⟩
  | date | year | month | day | weekDay | hour | minute | second =>
    obtain ⟨-, rfl⟩ := ofPart_ok h
    exact ⟨rfl, rfl⟩
  | oneOf | isNull =>
    cases operand <;> cases h
    exact ⟨rfl, rfl⟩
  | range =>
    simp only [ofOperand] at h
    split at h <;> cases h
    exact ⟨rfl, rfl⟩
  | regex | iregex =>
    cases operand with
    | text source =>
      obtain ⟨regex, -, rfl⟩ := ofPattern_ok h
      exact ⟨rfl, rfl⟩
    | _ => cases h
  | iexact | contains | icontains | startsWith | istartsWith | endsWith | iendsWith =>
    cases operand <;> cases h
    exact ⟨rfl, rfl⟩

/-- An operand of the shape that an operator wants makes a lookup. -/
theorem exists_ofOperand {op : Operator} {operand : Json} (h : op.takes operand = true) :
    ∃ lookup, ofOperand op operand = .ok lookup := by
  cases op with
  | exact => exact ⟨_, rfl⟩
  | gt | gte | lt | lte | date | year | month | day | weekDay | hour | minute | second =>
    exact ⟨_, if_neg (by simpa [Operator.takes] using h)⟩
  | oneOf | isNull | iexact | contains | icontains | startsWith | istartsWith | endsWith | iendsWith =>
    cases operand <;> first | exact ⟨_, rfl⟩ | cases h
  | range =>
    simp only [Operator.takes] at h
    split at h <;> first | contradiction | exact ⟨_, rfl⟩
  | regex | iregex =>
    cases operand with
    | text source => exact exists_ofPattern h
    | _ => cases h

end Lookup

namespace Condition

/-! ## Parts -/

theorem holdAll_eq (resolve : String → List Json) (parts : List Condition) : holdAll resolve parts = parts.all (holds resolve) := by
  induction parts with
  | nil => rfl
  | cons c rest ih => rw [holdAll, ih, List.all_cons]

theorem holdAny_eq (resolve : String → List Json) (parts : List Condition) : holdAny resolve parts = parts.any (holds resolve) := by
  induction parts with
  | nil => rfl
  | cons c rest ih => rw [holdAny, ih, List.any_cons]

theorem partPaths_eq (parts : List Condition) : partPaths parts = parts.flatMap paths := by
  induction parts with
  | nil => rfl
  | cons c rest ih => rw [partPaths, ih, List.flatMap_cons]

/-- The parts of a conjunction; any other condition is its own part. -/
def conjuncts : Condition → List Condition
  | all parts => parts
  | c => [c]

/-- The parts of a disjunction; any other condition is its own part. -/
def disjuncts : Condition → List Condition
  | any parts => parts
  | c => [c]

theorem holds_eq_all (resolve : String → List Json) (c : Condition) : c.holds resolve = c.conjuncts.all (holds resolve) := by
  cases c with
  | all parts => rw [holds, holdAll_eq, conjuncts]
  | _ => simp [conjuncts]

theorem holds_eq_any (resolve : String → List Json) (c : Condition) : c.holds resolve = c.disjuncts.any (holds resolve) := by
  cases c with
  | any parts => rw [holds, holdAny_eq, disjuncts]
  | _ => simp [disjuncts]

theorem paths_eq_conjuncts (c : Condition) : c.paths = c.conjuncts.flatMap paths := by
  cases c with
  | all parts => rw [paths, partPaths_eq, conjuncts]
  | _ => simp [conjuncts]

theorem paths_eq_disjuncts (c : Condition) : c.paths = c.disjuncts.flatMap paths := by
  cases c with
  | any parts => rw [paths, partPaths_eq, disjuncts]
  | _ => simp [disjuncts]

theorem conjuncts_eq_nil_iff (c : Condition) : c.conjuncts = [] ↔ c = always := by
  cases c <;> simp [conjuncts, always]

theorem eq_always_or_of_isEmpty {c : Condition} (h : c.isEmpty = true) : c = always ∨ c = any [] := by
  cases c with
  | all parts => exact Or.inl (congrArg all (List.isEmpty_iff.1 h))
  | any parts => exact Or.inr (congrArg any (List.isEmpty_iff.1 h))
  | _ => cases h

theorem paths_of_isEmpty {c : Condition} (h : c.isEmpty = true) : c.paths = [] := by
  rcases eq_always_or_of_isEmpty h with rfl | rfl <;> rfl

/-! ## Joining -/

/-- The parts of a conjunction are those of both sides. -/
@[simp] theorem conjuncts_and (a b : Condition) : (a.and b).conjuncts = a.conjuncts ++ b.conjuncts := by
  unfold Condition.and
  split <;> simp_all [conjuncts]

@[simp] theorem disjuncts_orParts (a b : Condition) : (orParts a b).disjuncts = a.disjuncts ++ b.disjuncts := by
  unfold orParts
  split <;> simp_all [disjuncts]

/-- A conjunction holds where both sides do. -/
theorem holds_and (resolve : String → List Json) (a b : Condition) :
    (a.and b).holds resolve = (a.holds resolve && b.holds resolve) := by
  rw [holds_eq_all, conjuncts_and, List.all_append, ← holds_eq_all, ← holds_eq_all]

theorem paths_and (a b : Condition) : (a.and b).paths = a.paths ++ b.paths := by
  rw [paths_eq_conjuncts, conjuncts_and, List.flatMap_append, ← paths_eq_conjuncts, ← paths_eq_conjuncts]

/-- A conjunction with a negation is not empty. -/
theorem isEmpty_and_not (a b : Condition) : (a.and (not b)).isEmpty = false := by
  unfold Condition.and
  split <;> simp_all [isEmpty]

theorem or_of_isEmpty {a : Condition} (h : a.isEmpty = true) (b : Condition) : a.or b = b := if_pos h

theorem or_isEmpty {a b : Condition} (ha : a.isEmpty = false) (hb : b.isEmpty = true) : a.or b = a := by
  rw [Condition.or, ha, hb]
  rfl

theorem or_eq_orParts {a b : Condition} (ha : a.isEmpty = false) (hb : b.isEmpty = false) : a.or b = orParts a b := by
  rw [Condition.or, ha, hb]
  rfl

/-- A disjunction of conditions that are not empty holds where one side does. -/
theorem holds_or {a b : Condition} (ha : a.isEmpty = false) (hb : b.isEmpty = false) (resolve : String → List Json) :
    (a.or b).holds resolve = (a.holds resolve || b.holds resolve) := by
  rw [or_eq_orParts ha hb, holds_eq_any, disjuncts_orParts, List.any_append, ← holds_eq_any, ← holds_eq_any]

theorem isEmpty_or {a b : Condition} (ha : a.isEmpty = false) (hb : b.isEmpty = false) : (a.or b).isEmpty = false := by
  rw [or_eq_orParts ha hb]
  unfold orParts
  split <;> simp_all [isEmpty]

/-- A disjunction is about the paths of both sides: an empty side has none. -/
theorem paths_or (a b : Condition) : (a.or b).paths = a.paths ++ b.paths := by
  cases ha : a.isEmpty with
  | true => rw [or_of_isEmpty ha, paths_of_isEmpty ha, List.nil_append]
  | false =>
    cases hb : b.isEmpty with
    | true => rw [or_isEmpty ha hb, paths_of_isEmpty hb, List.append_nil]
    | false =>
      rw [or_eq_orParts ha hb, paths_eq_disjuncts, disjuncts_orParts, List.flatMap_append, ← paths_eq_disjuncts,
        ← paths_eq_disjuncts]

/-- A disjunction of several conditions, of which the empty ones hold always, gives way to those that are not empty. -/
theorem foldl_or {c : Condition} {cs : List Condition} (h : ∀ d ∈ c :: cs, d.isEmpty = true → d = always)
    (resolve : String → List Json) :
    (cs.foldl Condition.or c).holds resolve = ((c :: cs).all isEmpty || (c :: cs).any fun d => !d.isEmpty && d.holds resolve) ∧
      (cs.foldl Condition.or c).paths = (c :: cs).flatMap paths := by
  induction cs generalizing c with
  | nil =>
    refine ⟨?_, by simp⟩
    cases hc : c.isEmpty with
    | true => simp [h c List.mem_cons_self hc, holds, always, holdAll]
    | false => simp [hc]
  | cons d cs ih =>
    have hd := h d (List.mem_cons_of_mem _ List.mem_cons_self)
    have hcs : ∀ b ∈ cs, b.isEmpty = true → b = always := fun b hb =>
      h b (List.mem_cons_of_mem _ (List.mem_cons_of_mem _ hb))
    have hor : ∀ b ∈ c.or d :: cs, b.isEmpty = true → b = always := by
      refine List.forall_mem_cons.2 ⟨fun hempty => ?_, hcs⟩
      cases hc : c.isEmpty with
      | true =>
        rw [or_of_isEmpty hc] at hempty ⊢
        exact hd hempty
      | false =>
        cases hde : d.isEmpty with
        | true =>
          rw [or_isEmpty hc hde, hc] at hempty
          cases hempty
        | false =>
          rw [isEmpty_or hc hde] at hempty
          cases hempty
    obtain ⟨hholds, hpaths⟩ := ih hor
    rw [List.foldl_cons, hholds, hpaths]
    refine ⟨?_, by rw [List.flatMap_cons, paths_or, List.flatMap_cons, List.flatMap_cons, List.append_assoc]⟩
    -- the first two conditions are joined: an empty one drops out, else both count
    cases hc : c.isEmpty with
    | true => simp [or_of_isEmpty hc, hc]
    | false =>
      cases hde : d.isEmpty with
      | true => simp [or_isEmpty hc hde, hc, hde]
      | false => simp [isEmpty_or hc hde, holds_or hc hde, hc, hde, Bool.or_assoc]

/-! ## Entries -/

/-- The path that an entry of a query is about. -/
def entryPath (entry : String × Json) : String := LookupKey.join (LookupKey.parse entry.1).1

/-- Whether an entry of a query matches: one of the values at its path, or null where there is none, is what its operator looks for. -/
def entryMatches (resolve : String → List Json) (entry : String × Json) : Bool :=
  match Lookup.ofOperand (LookupKey.parse entry.1).2 entry.2 with
  | .ok lookup => matchesAt lookup (resolve (entryPath entry))
  | .error _ => false

/-- An entry has a condition when no segment of its key is empty and its operand fits the operator. -/
theorem ofEntry_ok_iff {key : String} {operand : Json} {c : Condition} :
    ofEntry key operand = .ok c ↔ "" ∉ (LookupKey.parse key).1 ∧
      ∃ lookup, Lookup.ofOperand (LookupKey.parse key).2 operand = .ok lookup ∧
        c = test (LookupKey.join (LookupKey.parse key).1) lookup := by
  unfold ofEntry
  obtain ⟨path, op⟩ := LookupKey.parse key
  simp only [List.contains_iff_mem]
  split
  · rename_i hempty
    simp [hempty]
  · rename_i hempty
    cases Lookup.ofOperand op operand <;> simp [hempty, eq_comm]

/-- The condition of an entry is a test, which holds where the entry matches. -/
theorem ofEntry_ok {entry : String × Json} {c : Condition} (h : ofEntry entry.1 entry.2 = .ok c) :
    c.conjuncts = [c] ∧ c.isEmpty = false ∧ c.paths = [entryPath entry] ∧
      ∀ resolve, c.holds resolve = entryMatches resolve entry := by
  obtain ⟨-, lookup, hlookup, rfl⟩ := ofEntry_ok_iff.1 h
  refine ⟨rfl, rfl, rfl, fun resolve => ?_⟩
  rw [entryMatches, hlookup]
  rfl

theorem conjuncts_foldl_and (c : Condition) (parts : List Condition) :
    (parts.foldl Condition.and c).conjuncts = c.conjuncts ++ parts.flatMap conjuncts := by
  induction parts generalizing c with
  | nil => simp
  | cons part parts ih => simp [ih]

/-- The condition of entries has the conditions of the entries as its parts. -/
theorem ofEntries_ok {filters : Row} {c : Condition} (h : ofEntries filters = .ok c) :
    filters.entries.mapM (fun entry => ofEntry entry.1 entry.2) = .ok c.conjuncts := by
  rw [ofEntries, Outcome.foldlM_map_eq, Outcome.map_ok_iff] at h
  obtain ⟨parts, hparts, rfl⟩ := h
  have hall := Outcome.mapM_ok hparts
  have hflat : parts.flatMap conjuncts = parts := by
    clear hparts
    generalize filters.entries = entries at hall
    induction hall with
    | nil => rfl
    | cons hpart _ ih => rw [List.flatMap_cons, (ofEntry_ok hpart).1, ih, List.singleton_append]
  rw [conjuncts_foldl_and, hflat]
  exact hparts

/-- The condition of entries holds where each entry matches. -/
theorem holds_ofEntries {filters : Row} {c : Condition} (h : ofEntries filters = .ok c) (resolve : String → List Json) :
    c.holds resolve = filters.entries.all (entryMatches resolve) := by
  have hall := Outcome.mapM_ok (ofEntries_ok h)
  rw [holds_eq_all]
  clear h
  generalize c.conjuncts = parts at hall
  generalize filters.entries = entries at hall ⊢
  induction hall with
  | nil => rfl
  | cons hpart _ ih => rw [List.all_cons, List.all_cons, ih, (ofEntry_ok hpart).2.2.2]

theorem paths_ofEntries {filters : Row} {c : Condition} (h : ofEntries filters = .ok c) : c.paths = filters.entries.map entryPath := by
  have hall := Outcome.mapM_ok (ofEntries_ok h)
  rw [paths_eq_conjuncts]
  clear h
  generalize c.conjuncts = parts at hall
  generalize filters.entries = entries at hall ⊢
  induction hall with
  | nil => rfl
  | cons hpart _ ih => rw [List.flatMap_cons, List.map_cons, ih, (ofEntry_ok hpart).2.2.1, List.singleton_append]

theorem ofEntries_eq_always_iff {filters : Row} {c : Condition} (h : ofEntries filters = .ok c) : c = always ↔ filters.entries = [] := by
  have hall := Outcome.mapM_ok (ofEntries_ok h)
  rw [← conjuncts_eq_nil_iff, ← List.length_eq_zero_iff, ← hall.length_eq, List.length_eq_zero_iff]

theorem isEmpty_ofEntries {filters : Row} {c : Condition} (h : ofEntries filters = .ok c) : c.isEmpty = filters.isEmpty := by
  cases hc : c.isEmpty with
  | true =>
    rcases eq_always_or_of_isEmpty hc with rfl | rfl
    · rw [Dict.isEmpty, (ofEntries_eq_always_iff h).1 rfl]
      rfl
    · obtain ⟨entry, -, hentry⟩ := Outcome.exists_of_mem_mapM_ok (ofEntries_ok h) (List.mem_singleton_self (any []))
      obtain ⟨-, lookup, -, htest⟩ := ofEntry_ok_iff.1 hentry
      cases htest
  | false =>
    refine (List.isEmpty_eq_false_iff.2 fun hentries => ?_).symm
    rw [(ofEntries_eq_always_iff h).2 hentries] at hc
    cases hc

/-- The condition of some entries is no negation, so it is negated as a whole. -/
theorem negate_ofEntries {filters : Row} {c : Condition} (h : ofEntries filters = .ok c) (hne : filters.entries ≠ []) :
    c.negate = not c := by
  have halways : c ≠ always := fun hc => hne ((ofEntries_eq_always_iff h).1 hc)
  cases c with
  | not d =>
    obtain ⟨entry, -, hentry⟩ := Outcome.exists_of_mem_mapM_ok (ofEntries_ok h) (List.mem_singleton_self (not d))
    obtain ⟨-, lookup, -, htest⟩ := ofEntry_ok_iff.1 hentry
    cases htest
  | all parts =>
    cases parts with
    | nil => exact absurd rfl halways
    | cons part parts => rfl
  | test path lookup => rfl
  | any parts => rfl

end Condition

end ModelCatalog
