import Mathlib.Data.List.Infix
import ModelCatalog.Query.Lookup

/-!
# Ignoring case

A lookup that ignores case compares lower-case forms of whole texts. Lower-casing goes character by character, but for the capital sigma,
whose form depends on the characters around it. So where a text has the operand in it, its lower-case form has that of the operand in it
when each capital sigma of the operand has the form there that it has in the operand alone (`KeepsSigmas`), and at the beginning or at the
end of the text only then.
-/

namespace ModelCatalog

namespace Text

theorem occursIn_iff (part s : List Char) : occursIn part s = true ↔ part <:+: s := by
  induction s with
  | nil => rw [occursIn, List.isEmpty_iff, List.infix_nil]
  | cons c rest ih => rw [occursIn, Bool.or_eq_true, List.isPrefixOf_iff_prefix, ih, List.infix_cons_iff]

/-! ## Lower-casing a part of a text -/

/-- The lower-case form of characters that stand between those of `before`, the nearest first, and those of `after`. -/
def lowerWithin (before after : List Char) : List Char → List Char
  | [] => []
  | c :: rest => lowerAt before c (rest ++ after) ++ lowerWithin (c :: before) after rest

theorem lowerFrom_append (before part after : List Char) :
    lowerFrom before (part ++ after) = lowerWithin before after part ++ lowerFrom (part.reverse ++ before) after := by
  induction part generalizing before with
  | nil => rfl
  | cons c rest ih =>
    rw [List.cons_append, lowerFrom, ih, lowerWithin, List.append_assoc, List.reverse_cons, List.append_assoc, List.singleton_append]

theorem lowerFrom_eq (before part : List Char) : lowerFrom before part = lowerWithin before [] part := by
  have h := lowerFrom_append before part []
  rwa [List.append_nil, lowerFrom, List.append_nil] at h

theorem length_lowerAt (before after before' after' : List Char) (c : Char) :
    (lowerAt before c after).length = (lowerAt before' c after').length := by
  unfold lowerAt
  split
  · rfl
  · split <;> rfl

/-- The length of the lower-case form does not depend on the characters around. -/
theorem length_lowerWithin (before after before' after' part : List Char) :
    (lowerWithin before after part).length = (lowerWithin before' after' part).length := by
  induction part generalizing before before' with
  | nil => rfl
  | cons c rest ih =>
    rw [lowerWithin, lowerWithin, List.length_append, List.length_append, length_lowerAt before _ before' (rest ++ after'),
      ih (c :: before) (c :: before')]

/-- Only a capital sigma can have two forms. -/
theorem lowerAt_eq_iff (before after before' after' : List Char) (c : Char) :
    lowerAt before c after = lowerAt before' c after' ↔ (c = 'Σ' → lowerSigma before after = lowerSigma before' after') := by
  unfold lowerAt
  split
  · rename_i hc
    simp [eq_of_beq hc]
  · rename_i hc
    have hc' : c ≠ 'Σ' := fun h => hc (beq_iff_eq.2 h)
    simp [hc']

/-- Whether each capital sigma of a part has the same form in two surroundings. -/
def SameSigmas (before after before' after' part : List Char) : Prop :=
  ∀ front rest, part = front ++ 'Σ' :: rest →
    lowerSigma (front.reverse ++ before) (rest ++ after) = lowerSigma (front.reverse ++ before') (rest ++ after')

theorem sameSigmas_cons (before after before' after' : List Char) (c : Char) (part : List Char) :
    SameSigmas before after before' after' (c :: part) ↔
      (c = 'Σ' → lowerSigma before (part ++ after) = lowerSigma before' (part ++ after')) ∧
        SameSigmas (c :: before) after (c :: before') after' part := by
  constructor
  · intro h
    refine ⟨?_, fun front rest hpart => ?_⟩
    · rintro rfl
      exact h [] part rfl
    · have hform := h (c :: front) rest (by rw [hpart]; rfl)
      rwa [List.reverse_cons, List.append_assoc, List.append_assoc] at hform
  · rintro ⟨hfirst, hothers⟩ front rest hpart
    cases front with
    | nil =>
      obtain ⟨rfl, rfl⟩ := List.cons.inj hpart
      exact hfirst rfl
    | cons d front =>
      obtain ⟨rfl, rfl⟩ := List.cons.inj hpart
      rw [List.reverse_cons, List.append_assoc, List.append_assoc]
      exact hothers front rest rfl

/-- The lower-case form of a part depends on its surroundings by its capital sigmas alone. -/
theorem lowerWithin_eq_iff (before after before' after' part : List Char) :
    lowerWithin before after part = lowerWithin before' after' part ↔ SameSigmas before after before' after' part := by
  induction part generalizing before before' with
  | nil => exact ⟨fun _ front rest hpart => by simp at hpart, fun _ => rfl⟩
  | cons c rest ih =>
    rw [sameSigmas_cons, ← lowerAt_eq_iff, ← ih]
    constructor
    · intro h
      exact List.append_inj h (length_lowerAt _ _ _ _ c)
    · rintro ⟨hc, hrest⟩
      rw [lowerWithin, lowerWithin, hc, hrest]

/-- Whether each capital sigma of a part has the form in its surroundings that it has in the part alone. -/
def KeepsSigmas (before after part : List Char) : Prop := SameSigmas before.reverse after [] [] part

theorem keepsSigmas_of_not_mem {part : List Char} (h : 'Σ' ∉ part) (before after : List Char) : KeepsSigmas before after part := by
  rintro front rest rfl
  exact absurd (List.mem_append_right front List.mem_cons_self) h

theorem keepsSigmas_alone (part : List Char) : KeepsSigmas [] [] part := fun _ _ _ => rfl

theorem lowerWithin_eq_lower_iff (before after : List Char) (part : String) :
    lowerWithin before.reverse after part.toList = (lower part).toList ↔ KeepsSigmas before after part.toList := by
  rw [lower, String.toList_ofList, lowerFrom_eq]
  exact lowerWithin_eq_iff before.reverse after [] [] part.toList

/-- A text in lower case: what is before a part, the part in its surroundings, and what is behind it. -/
theorem toList_lower {s : String} {before part after : List Char} (h : s.toList = before ++ part ++ after) :
    (lower s).toList = lowerWithin [] (part ++ after) before ++ lowerWithin before.reverse after part ++
      lowerFrom (part.reverse ++ before.reverse) after := by
  rw [lower, String.toList_ofList, h, List.append_assoc, lowerFrom_append, lowerFrom_append, List.append_nil, List.append_assoc]

end Text

namespace TextTest

/-- Whether a test allows the operand to stand behind some characters and before others. -/
def Allows (before after : List Char) : TextTest → Prop
  | equals => before = [] ∧ after = []
  | contains => True
  | startsWith => before = []
  | endsWith => after = []

theorem holds_iff (test : TextTest) (s operand : String) :
    test.holds s operand = true ↔ ∃ before after, test.Allows before after ∧ s.toList = before ++ operand.toList ++ after := by
  cases test with
  | equals => simp [holds, Allows, String.toList_inj]
  | contains =>
    rw [holds, Text.contains, Text.occursIn_iff]
    constructor
    · rintro ⟨before, after, h⟩
      exact ⟨before, after, trivial, h.symm⟩
    · rintro ⟨before, after, -, h⟩
      exact ⟨before, after, h.symm⟩
  | startsWith =>
    rw [holds, Text.startsWith, List.isPrefixOf_iff_prefix]
    constructor
    · rintro ⟨after, h⟩
      exact ⟨[], after, rfl, h.symm⟩
    · rintro ⟨before, after, rfl, h⟩
      exact ⟨after, h.symm⟩
  | endsWith =>
    rw [holds, Text.endsWith, List.isSuffixOf_iff_suffix]
    constructor
    · rintro ⟨before, h⟩
      exact ⟨before, [], rfl, by rw [h, List.append_nil]⟩
    · rintro ⟨before, after, rfl, h⟩
      exact ⟨before, by rw [h, List.append_nil]⟩

variable {test : TextTest} {s operand : String} {before after : List Char}

/-- A text passes a test in lower case where the capital sigmas of the operand keep their forms. -/
theorem holds_lower (hallows : test.Allows before after) (hs : s.toList = before ++ operand.toList ++ after)
    (hsigmas : Text.KeepsSigmas before after operand.toList) : test.holds (Text.lower s) (Text.lower operand) = true := by
  have hlower := Text.toList_lower hs
  rw [(Text.lowerWithin_eq_lower_iff before after operand).2 hsigmas] at hlower
  refine (holds_iff test _ _).2 ⟨_, _, ?_, hlower⟩
  cases test with
  | equals =>
    obtain ⟨rfl, rfl⟩ := hallows
    exact ⟨rfl, rfl⟩
  | contains => trivial
  | startsWith =>
    obtain rfl : before = [] := hallows
    rfl
  | endsWith =>
    obtain rfl : after = [] := hallows
    rfl

/-- Where the place of the operand is settled, a test in lower case asks for the forms of its capital sigmas. -/
theorem keepsSigmas_of_holds_lower (hallows : test.Allows before after) (hs : s.toList = before ++ operand.toList ++ after)
    (htest : test ≠ contains) (hholds : test.holds (Text.lower s) (Text.lower operand) = true) :
    Text.KeepsSigmas before after operand.toList := by
  have hlower := Text.toList_lower hs
  have hlength : (Text.lower operand).toList.length = (Text.lowerWithin before.reverse after operand.toList).length := by
    rw [Text.lower, String.toList_ofList, Text.lowerFrom_eq]
    exact Text.length_lowerWithin _ _ _ _ _
  obtain ⟨front, behind, hplace, hfound⟩ := (holds_iff test _ _).1 hholds
  cases test with
  | equals =>
    obtain ⟨rfl, rfl⟩ := hallows
    exact Text.keepsSigmas_alone _
  | contains => exact absurd rfl htest
  | startsWith =>
    obtain rfl : before = [] := hallows
    obtain rfl : front = [] := hplace
    simp only [hlower, Text.lowerWithin, List.nil_append] at hfound
    exact (Text.lowerWithin_eq_lower_iff [] after operand).1 (List.append_inj hfound hlength.symm).1
  | endsWith =>
    obtain rfl : after = [] := hallows
    obtain rfl : behind = [] := hplace
    simp only [hlower, Text.lowerFrom, List.append_nil] at hfound
    exact (Text.lowerWithin_eq_lower_iff before [] operand).1 (List.append_inj' hfound hlength.symm).2

/-- The lookup of a test. -/
def lookup (ignoreCase : Bool) (operand : String) : TextTest → Lookup
  | equals => if ignoreCase then .sameText operand else .exact (.text operand)
  | contains => .contains ignoreCase operand
  | startsWith => .startsWith ignoreCase operand
  | endsWith => .endsWith ignoreCase operand

theorem holds_lookup (test : TextTest) (operand s : String) :
    (test.lookup false operand).holds (.text s) = test.holds s operand ∧
      (test.lookup true operand).holds (.text s) = test.holds (Text.lower s) (Text.lower operand) := by
  have hnull : (Json.text s).isNull = false := rfl
  cases test <;> simp [lookup, Lookup.holds, hnull, Lookup.accepts, Lookup.passes, Json.equals, Json.same, holds]

/-- A lookup matches where it finds its operand at an allowed place. There the lookup that ignores case matches too if the capital sigmas
of the operand keep their forms, and where no other place is allowed only if. They do in a text that equals the operand, and an operand
without capital sigmas has no form to lose. -/
theorem ignoring_case_widens (test : TextTest) (operand s : String) :
    ((test.lookup false operand).holds (.text s) = true ↔
      ∃ before after, test.Allows before after ∧ s.toList = before ++ operand.toList ++ after) ∧
    (∀ before after, test.Allows before after → s.toList = before ++ operand.toList ++ after →
      (Text.KeepsSigmas before after operand.toList → (test.lookup true operand).holds (.text s) = true) ∧
      (test ≠ contains → (test.lookup true operand).holds (.text s) = true → Text.KeepsSigmas before after operand.toList)) ∧
    (test = equals ∨ 'Σ' ∉ operand.toList →
      (test.lookup false operand).holds (.text s) = true → (test.lookup true operand).holds (.text s) = true) := by
  obtain ⟨hexact, hignoring⟩ := holds_lookup test operand s
  rw [hexact, hignoring]
  refine ⟨holds_iff test s operand, fun before after hallows hs => ?_, fun hoperand hholds => ?_⟩
  · exact ⟨holds_lower hallows hs, keepsSigmas_of_holds_lower hallows hs⟩
  · obtain ⟨before, after, hallows, hs⟩ := (holds_iff test s operand).1 hholds
    refine holds_lower hallows hs ?_
    rcases hoperand with rfl | hoperand
    · obtain ⟨rfl, rfl⟩ := hallows
      exact Text.keepsSigmas_alone _
    · exact Text.keepsSigmas_of_not_mem hoperand before after

/-- The sigma of the operand stands at the beginning of the text and of a word, so it is not a final one. -/
theorem salamis_found_ignoring_case :
    (startsWith.Allows [] "λαμίνα".toList ∧ "Σαλαμίνα".toList = [] ++ "Σα".toList ++ "λαμίνα".toList) ∧
      Text.KeepsSigmas [] "λαμίνα".toList "Σα".toList ∧ startsWith ≠ contains ∧
      (startsWith.lookup true "Σα").holds (.text "Σαλαμίνα") = true ∧ (equals.lookup true "Σα").holds (.text "Σα") = true := by
  have hplace : "Σαλαμίνα".toList = [] ++ "Σα".toList ++ "λαμίνα".toList := by decide
  have hoperand : "Σα".toList = ['Σ', 'α'] := by decide
  have hkeeps : Text.KeepsSigmas [] "λαμίνα".toList "Σα".toList := fun front rest hpart => by
    rw [hoperand] at hpart
    cases front with
    | nil => rfl
    | cons c front =>
      obtain ⟨-, hrest⟩ := List.cons.inj hpart
      have hmem : 'Σ' ∈ ['α'] := hrest ▸ List.mem_append_right front List.mem_cons_self
      exact absurd hmem (by decide)
  obtain ⟨-, hplaces, -⟩ := ignoring_case_widens startsWith "Σα" "Σαλαμίνα"
  obtain ⟨-, -, hwidens⟩ := ignoring_case_widens equals "Σα" "Σα"
  exact ⟨⟨rfl, hplace⟩, hkeeps, by decide, (hplaces [] _ rfl hplace).1 hkeeps, hwidens (Or.inl rfl) (by decide)⟩

end TextTest

end ModelCatalog
