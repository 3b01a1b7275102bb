import ModelCatalog.Proofs.Query.Conditions

/-!
# The algebra of conditions

Conjunction and disjunction are associative, and a condition made of lookups by the operators stays flat (`IsMade.isFlat`), so negating it
twice gives it back. The condition that holds of every row is neutral on both sides of a conjunction. It is neutral in a disjunction too,
but for one pair: the condition that holds of no row counts as empty as well, and joined to the one that holds of every row it gives way.
-/

namespace ModelCatalog.Condition

variable {a b c : Condition}

/-- The condition that holds of no row. -/
def never : Condition := any []

/-! ## Conjunction -/

theorem always_and (b : Condition) : always.and b = b := rfl

theorem and_always (a : Condition) : a.and always = a := by
  cases a with
  | all parts => cases parts <;> rfl
  | test | any | not => rfl

/-- Where no side is empty, a conjunction lists the parts of both. -/
theorem and_eq_all (ha : a ≠ always) (hb : b ≠ always) : a.and b = all (a.conjuncts ++ b.conjuncts) := by
  cases a with
  | all as =>
    cases as with
    | nil => exact absurd rfl ha
    | cons =>
      cases b with
      | all bs =>
        cases bs with
        | nil => exact absurd rfl hb
        | cons => rfl
      | test | any | not => rfl
  | test | any | not =>
    cases b with
    | all bs =>
      cases bs with
      | nil => exact absurd rfl hb
      | cons => rfl
    | test | any | not => rfl

theorem and_assoc (a b c : Condition) : (a.and b).and c = a.and (b.and c) := by
  by_cases ha : a = always
  · rw [ha, always_and, always_and]
  by_cases hb : b = always
  · rw [hb, and_always, always_and]
  by_cases hc : c = always
  · rw [hc, and_always, and_always]
  -- a conjunction with a part is not empty, so all parts are listed from the left to the right
  have hparts : ∀ {d e : Condition}, d ≠ always → d.and e ≠ always := fun {d e} hd hempty => by
    have hnil := (conjuncts_eq_nil_iff (d.and e)).2 hempty
    rw [conjuncts_and, List.append_eq_nil_iff] at hnil
    exact hd ((conjuncts_eq_nil_iff d).1 hnil.1)
  rw [and_eq_all (hparts ha) hc, and_eq_all ha (hparts hb), conjuncts_and, conjuncts_and, List.append_assoc]

/-! ## Disjunction -/

theorem isEmpty_always : always.isEmpty = true := rfl

theorem isEmpty_never : never.isEmpty = true := rfl

theorem always_or (b : Condition) : always.or b = b := or_of_isEmpty isEmpty_always b

theorem never_or (b : Condition) : never.or b = b := or_of_isEmpty isEmpty_never b

theorem isEmpty_eq_false (ha : a ≠ always) (hnever : a ≠ never) : a.isEmpty = false := by
  cases h : a.isEmpty with
  | false => rfl
  | true =>
    rcases eq_always_or_of_isEmpty h with h | h
    · exact absurd h ha
    · exact absurd h hnever

theorem or_always (ha : a ≠ never) : a.or always = a := by
  by_cases hempty : a = always
  · rw [hempty, always_or]
  · exact or_isEmpty (isEmpty_eq_false hempty ha) isEmpty_always

theorem orParts_eq_any (a b : Condition) : orParts a b = any (a.disjuncts ++ b.disjuncts) := by
  cases a with
  | any as => cases b <;> rfl
  | test | all | not => cases b <;> rfl

theorem or_assoc (a b c : Condition) : (a.or b).or c = a.or (b.or c) := by
  cases ha : a.isEmpty with
  | true => rw [or_of_isEmpty ha, or_of_isEmpty ha]
  | false =>
    cases hb : b.isEmpty with
    | true => rw [or_isEmpty ha hb, or_of_isEmpty hb]
    | false =>
      cases hc : c.isEmpty with
      | true => rw [or_isEmpty hb hc, or_isEmpty (isEmpty_or ha hb) hc]
      | false =>
        rw [or_eq_orParts (isEmpty_or ha hb) hc, or_eq_orParts ha (isEmpty_or hb hc), orParts_eq_any, orParts_eq_any a,
          or_eq_orParts ha hb, or_eq_orParts hb hc, disjuncts_orParts, disjuncts_orParts, List.append_assoc]

/-- A disjunction holds where one side does, unless a side holds always and gives way. -/
theorem holds_or_of_ne_always (ha : a ≠ always) (hb : b ≠ always) (resolve : String → List Json) :
    (a.or b).holds resolve = (a.holds resolve || b.holds resolve) := by
  have hnever : never.holds resolve = false := rfl
  by_cases ha' : a = never
  · rw [ha', never_or, hnever, Bool.false_or]
  by_cases hb' : b = never
  · rw [hb', or_isEmpty (isEmpty_eq_false ha ha') isEmpty_never, hnever, Bool.or_false]
  exact holds_or (isEmpty_eq_false ha ha') (isEmpty_eq_false hb hb') resolve

/-! ## Negation -/

def isNegation : Condition → Bool
  | not _ => true
  | _ => false

/-- What negation does: it takes a negation away, leaves the condition that holds always, and negates any other. -/
theorem negate_cases (a : Condition) :
    (∃ c, a = not c ∧ a.negate = c) ∨ (a = always ∧ a.negate = always) ∨
      (a.isNegation = false ∧ a ≠ always ∧ a.negate = not a) := by
  cases a with
  | not c => exact Or.inl ⟨c, rfl, rfl⟩
  | all parts =>
    cases parts with
    | nil => exact Or.inr (Or.inl ⟨rfl, rfl⟩)
    | cons part parts => exact Or.inr (Or.inr ⟨rfl, nofun, rfl⟩)
  | test | any => exact Or.inr (Or.inr ⟨rfl, nofun, rfl⟩)

theorem holds_negate (ha : a ≠ always) (resolve : String → List Json) : a.negate.holds resolve = !a.holds resolve := by
  rcases negate_cases a with ⟨c, rfl, hnegate⟩ | ⟨hempty, -⟩ | ⟨-, -, hnegate⟩
  · rw [hnegate, holds, Bool.not_not]
  · exact absurd hempty ha
  · rw [hnegate, holds]

/-! ## Flat conditions -/

def isConjunction : Condition → Bool
  | all _ => true
  | _ => false

def isDisjunction : Condition → Bool
  | any _ => true
  | _ => false

mutual

/-- No conjunction is a part of a conjunction and no disjunction one of a disjunction; what is negated is neither a negation nor the
condition that holds always. -/
def IsFlat : Condition → Prop
  | test .. => True
  | all parts => (∀ c ∈ parts, c.isConjunction = false) ∧ PartsFlat parts
  | any parts => (∀ c ∈ parts, c.isDisjunction = false) ∧ PartsFlat parts
  | not c => c.isNegation = false ∧ c ≠ always ∧ IsFlat c

def PartsFlat : List Condition → Prop
  | [] => True
  | c :: rest => IsFlat c ∧ PartsFlat rest

end

theorem partsFlat_iff (parts : List Condition) : PartsFlat parts ↔ ∀ c ∈ parts, c.IsFlat := by
  induction parts with
  | nil => simp [PartsFlat]
  | cons c rest ih => rw [PartsFlat, ih, List.forall_mem_cons]

theorem isFlat_iff_conjuncts (a : Condition) : a.IsFlat ↔ ∀ c ∈ a.conjuncts, c.isConjunction = false ∧ c.IsFlat := by
  cases a with
  | all parts => rw [IsFlat, partsFlat_iff, conjuncts, forall₂_and]
  | test | any | not => simp [conjuncts, isConjunction]

theorem isFlat_iff_disjuncts (a : Condition) : a.IsFlat ↔ ∀ c ∈ a.disjuncts, c.isDisjunction = false ∧ c.IsFlat := by
  cases a with
  | any parts => rw [IsFlat, partsFlat_iff, disjuncts, forall₂_and]
  | test | all | not => simp [disjuncts, isDisjunction]

theorem IsFlat.and (ha : a.IsFlat) (hb : b.IsFlat) : (a.and b).IsFlat := by
  rw [isFlat_iff_conjuncts] at ha hb ⊢
  rw [conjuncts_and]
  exact List.forall_mem_append.2 ⟨ha, hb⟩

theorem IsFlat.orParts (ha : a.IsFlat) (hb : b.IsFlat) : (orParts a b).IsFlat := by
  rw [isFlat_iff_disjuncts] at ha hb ⊢
  rw [disjuncts_orParts]
  exact List.forall_mem_append.2 ⟨ha, hb⟩

theorem IsFlat.or (ha : a.IsFlat) (hb : b.IsFlat) : (a.or b).IsFlat := by
  unfold Condition.or
  split
  · exact hb
  · split
    · exact ha
    · exact ha.orParts hb

theorem IsFlat.negate (ha : a.IsFlat) : a.negate.IsFlat := by
  rcases negate_cases a with ⟨c, rfl, hnegate⟩ | ⟨hempty, hnegate⟩ | ⟨hnegation, hne, hnegate⟩
  · rw [hnegate]
    exact ha.2.2
  · rw [hnegate, ← hempty]
    exact ha
  · rw [hnegate]
    exact ⟨hnegation, hne, ha⟩

/-- A flat condition is what it is negated twice. -/
theorem IsFlat.negate_negate (ha : a.IsFlat) : a.negate.negate = a := by
  rcases negate_cases a with ⟨c, rfl, hnegate⟩ | ⟨hempty, hnegate⟩ | ⟨-, -, hnegate⟩
  · obtain ⟨hnegation, hne, -⟩ := ha
    rcases negate_cases c with ⟨d, rfl, -⟩ | ⟨hempty, -⟩ | ⟨-, -, hc⟩
    · cases hnegation
    · exact absurd hempty hne
    · rw [hnegate, hc]
  · rw [hnegate, ← hempty, hnegate, hempty]
  · rw [hnegate]
    rfl

/-- Conditions made of lookups, and of the conditions without parts, by the operators. -/
inductive IsMade : Condition → Prop where
  | test (path : String) (lookup : Lookup) : IsMade (test path lookup)
  | always : IsMade always
  | never : IsMade never
  | and {a b : Condition} : IsMade a → IsMade b → IsMade (a.and b)
  | or {a b : Condition} : IsMade a → IsMade b → IsMade (a.or b)
  | negate {a : Condition} : IsMade a → IsMade a.negate

theorem IsMade.isFlat (h : a.IsMade) : a.IsFlat := by
  induction h with
  | test path lookup => trivial
  | always => simp [Condition.always, IsFlat, PartsFlat]
  | never => simp [Condition.never, IsFlat, PartsFlat]
  | and _ _ iha ihb => exact iha.and ihb
  | or _ _ iha ihb => exact iha.or ihb
  | negate _ ih => exact ih.negate

/-! ## The algebra -/

/-- The operators on conditions mean what they say, are associative and keep conditions flat. `always` is neutral on both sides of a
conjunction and on the left of a disjunction; on the right of a disjunction it gives way to every condition but `never`. -/
theorem condition_algebra (a b c : Condition) (resolve : String → List Json) :
    ((a.and b).holds resolve = (a.holds resolve && b.holds resolve) ∧
      (a ≠ always → b ≠ always → (a.or b).holds resolve = (a.holds resolve || b.holds resolve)) ∧
      (a ≠ always → a.negate.holds resolve = !a.holds resolve)) ∧
    ((a.and b).and c = a.and (b.and c) ∧ (a.or b).or c = a.or (b.or c)) ∧
    (always.and a = a ∧ a.and always = a ∧ always.or a = a ∧ (a ≠ never → a.or always = a) ∧ never.or always = always ∧
      always.negate = always) ∧
    (a.IsMade → a.negate.negate = a ∧ a.IsFlat) := by
  refine ⟨⟨holds_and resolve a b, fun ha hb => holds_or_of_ne_always ha hb resolve, fun ha => holds_negate ha resolve⟩,
    ⟨and_assoc a b c, or_assoc a b c⟩, ⟨always_and a, and_always a, always_or a, or_always, never_or always, rfl⟩, fun ha => ?_⟩
  exact ⟨ha.isFlat.negate_negate, ha.isFlat⟩

/-- A title that is given, or is `Emma`. -/
theorem given_or_emma_combine :
    let given := (test "title" (.isNull true)).negate
    let emma := test "title" (.exact (.text "Emma"))
    let resolve := fun _ => [Json.text "Persuasion"]
    (given ≠ always ∧ emma ≠ always ∧ given ≠ never ∧ given.IsMade) ∧
      (given.or emma).holds resolve = true ∧ given.negate.holds resolve = false ∧ given.or always = given ∧
      given.negate.negate = given := by
  intro given emma resolve
  have hgiven : given ≠ always := nofun
  have hemma : emma ≠ always := nofun
  have hnever : given ≠ never := nofun
  have hmade : given.IsMade := (IsMade.test "title" (.isNull true)).negate
  obtain ⟨⟨-, hor, hnegate⟩, -, ⟨-, -, -, halways, -⟩, htwice⟩ := condition_algebra given emma never resolve
  exact ⟨⟨hgiven, hemma, hnever, hmade⟩, hor hgiven hemma, hnegate hgiven, halways hnever, (htwice hmade).1⟩

end ModelCatalog.Condition
