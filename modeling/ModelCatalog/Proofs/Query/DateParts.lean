import ModelCatalog.Proofs.Calendar.Dates
import ModelCatalog.Query.Condition

/-!
# Parts of dates

The date part of a text is the written form of its date. Whichever form the text itself has, the date part is read as a plain date, and its
year, month, day and day of the week are those of the text (`MomentPart.ofText?_date_part`). So a lookup of one of these parts takes either
all values that are found by a date or none of them (`Lookup.holds_part_of_holds_date`).
-/

namespace ModelCatalog

namespace MomentPart

/-- The part of the point of time in a text, if there is one and it has the part. -/
def ofText? (p : MomentPart) (s : String) : Option Json := (Moment.parse? s).bind p.of?

/-- Whether the part comes from the date, not from the time of day. -/
def isOfDate : MomentPart → Bool
  | date | year | month | day | weekDay => true
  | hour | minute | second => false

variable {p : MomentPart} {m : Moment} {s d : String} {day : Date}

theorem of?_eq_of_date? (hp : p.isOfDate = true) (hm : m.date? = some day) : p.of? m = p.of? (.date day) := by
  have hday : (Moment.date day).date? = some day := rfl
  cases p with
  | hour | minute | second => cases hp
  | _ => simp only [of?, hm, hday]

theorem isSome_of? (hp : p.isOfDate = true) (day : Date) : ∃ value, p.of? (.date day) = some value := by
  cases p with
  | hour | minute | second => cases hp
  | _ => exact ⟨_, rfl⟩

/-- The date part of a text is the text of its date. -/
theorem ofText?_date_eq_some_iff {value : Json} :
    date.ofText? s = some value ↔ ∃ m day, Moment.parse? s = some m ∧ m.date? = some day ∧ value = .text day.text := by
  simp only [ofText?, of?, Option.bind_eq_some_iff, Option.map_eq_some_iff]
  constructor
  · rintro ⟨m, hm, day, hday, rfl⟩
    exact ⟨m, day, hm, hday, rfl⟩
  · rintro ⟨m, day, hm, hday, rfl⟩
    exact ⟨m, hm, day, hday, rfl⟩

theorem isSome_ofText?_date_iff : (date.ofText? s).isSome = true ↔ ∃ m day, Moment.parse? s = some m ∧ m.date? = some day := by
  rw [Option.isSome_iff_exists]
  constructor
  · rintro ⟨value, hvalue⟩
    obtain ⟨m, day, hm, hday, -⟩ := ofText?_date_eq_some_iff.1 hvalue
    exact ⟨m, day, hm, hday⟩
  · rintro ⟨m, day, hm, hday⟩
    exact ⟨_, ofText?_date_eq_some_iff.2 ⟨m, day, hm, hday, rfl⟩⟩

/-- The date part of a text has the parts of the date that the text has. -/
theorem ofText?_date_part (h : date.ofText? s = some (.text d)) (hp : p.isOfDate = true) : p.ofText? d = p.ofText? s := by
  obtain ⟨m, day, hs, hm, hvalue⟩ := ofText?_date_eq_some_iff.1 h
  obtain rfl : d = day.text := Json.text.inj hvalue
  have hread := Moment.parse?_text (Moment.inCalendar_of_parse? hs hm)
  calc p.ofText? day.text = p.of? (.date day) := by rw [ofText?, hread, Option.bind_some]
    _ = p.of? m := (of?_eq_of_date? hp hm).symm
    _ = p.ofText? s := by rw [ofText?, hs, Option.bind_some]

/-- The date parts are the texts of the dates in the calendar. -/
theorem exists_ofText?_date_iff : (∃ s, date.ofText? s = some (.text d)) ↔ ∃ day : Date, day.InCalendar ∧ day.text = d := by
  constructor
  · rintro ⟨s, hs⟩
    obtain ⟨m, day, hparse, hday, hvalue⟩ := ofText?_date_eq_some_iff.1 hs
    exact ⟨day, Moment.inCalendar_of_parse? hparse hday, (Json.text.inj hvalue).symm⟩
  · rintro ⟨day, hday, rfl⟩
    exact ⟨day.text, ofText?_date_eq_some_iff.2 ⟨_, day, Moment.parse?_text hday, rfl, rfl⟩⟩

end MomentPart

/-! ## Lookups of parts -/

namespace Lookup

variable {s d : String} {value : Json} {p : MomentPart}

theorem holds_part_text (p : MomentPart) (expected : Json) (s : String) :
    (part p expected).holds (.text s) = (p.ofText? s).any (·.equals expected) := rfl

/-- A date is found in the texts that have it as their date part, and nowhere else. -/
theorem holds_date_iff :
    (part .date (.text d)).holds value = true ↔ ∃ s, value = .text s ∧ MomentPart.date.ofText? s = some (.text d) := by
  constructor
  · intro h
    cases value with
    | text s =>
      rw [holds_part_text, Option.any_eq_true] at h
      obtain ⟨found, hfound, hequal⟩ := h
      obtain ⟨_, day, -, -, rfl⟩ := MomentPart.ofText?_date_eq_some_iff.1 hfound
      rw [beq_iff_eq.1 (show (day.text == d) = true from hequal)] at hfound
      exact ⟨s, rfl, hfound⟩
    | _ => cases h
  · rintro ⟨s, rfl, hs⟩
    rw [holds_part_text, hs]
    exact beq_self_eq_true d

/-- What is found by the date part of a text passes the same lookups of parts of the date as the text. -/
theorem holds_part_of_holds_date (hs : MomentPart.date.ofText? s = some (.text d)) (hvalue : (part .date (.text d)).holds value = true)
    (hp : p.isOfDate = true) (expected : Json) : (part p expected).holds value = (part p expected).holds (.text s) := by
  obtain ⟨t, rfl, ht⟩ := holds_date_iff.1 hvalue
  rw [holds_part_text, holds_part_text, ← MomentPart.ofText?_date_part ht hp, MomentPart.ofText?_date_part hs hp]

end Lookup

/-- A lookup that takes all that another one takes holds wherever the other does. -/
theorem Condition.holds_test_mono {a b : Lookup} (h : ∀ value, a.holds value = true → b.holds value = true) {path : String}
    {resolve : String → List Json} (ha : (test path a).holds resolve = true) : (test path b).holds resolve = true := by
  rw [holds] at ha ⊢
  cases hvalues : resolve path with
  | nil =>
    rw [hvalues] at ha
    exact h .null ha
  | cons first rest =>
    rw [hvalues] at ha
    exact List.any_eq_true.2 ((List.any_eq_true.1 ha).imp fun value hvalue => ⟨hvalue.1, h value hvalue.2⟩)

/-- A text has a date part exactly when it is a date with a time and an offset, a date with a time, or a plain date. The date part is read as
a plain date, and has itself as its date part and the year, month, day and day of the week of the text. Values found by the date part pass
the same lookups of these parts as the text does, so a row that is found by the date is found by every part of it. -/
theorem date_part_keeps_date (s : String) :
    ((MomentPart.date.ofText? s).isSome = true ↔
      (∃ m, Moment.readStrict? s.toList = some m) ∨ (∃ m, Moment.readBoth? s.toList = some m) ∨
        ∃ day, Moment.readDate? s.toList = some (day, [])) ∧
    ((MomentPart.date.ofText? s).isSome = true → ∃ d, MomentPart.date.ofText? s = some (.text d) ∧
      (∃ day, Moment.parse? d = some (.date day)) ∧ MomentPart.date.ofText? d = some (.text d) ∧
      ∀ p : MomentPart, p.isOfDate = true →
        (∃ part, p.ofText? s = some part ∧ p.ofText? d = some part) ∧
        (∀ expected value, (Lookup.part .date (.text d)).holds value = true →
          (Lookup.part p expected).holds value = (Lookup.part p expected).holds (.text s)) ∧
        ∀ expected, (Lookup.part p expected).holds (.text s) = true → ∀ path resolve,
          (Condition.test path (.part .date (.text d))).holds resolve = true →
          (Condition.test path (.part p expected)).holds resolve = true) := by
  refine ⟨MomentPart.isSome_ofText?_date_iff.trans Moment.exists_date?_iff, fun h => ?_⟩
  obtain ⟨m, day, hparse, hday⟩ := MomentPart.isSome_ofText?_date_iff.1 h
  have hs := MomentPart.ofText?_date_eq_some_iff.2 ⟨m, day, hparse, hday, rfl⟩
  have hread := Moment.parse?_text (Moment.inCalendar_of_parse? hparse hday)
  have hagain := MomentPart.ofText?_date_eq_some_iff.2 ⟨_, day, hread, rfl, rfl⟩
  refine ⟨day.text, hs, ⟨day, hread⟩, hagain, fun p hp => ⟨?_, fun expected value hvalue => ?_, fun expected hpart path resolve => ?_⟩⟩
  · obtain ⟨part, hpart⟩ := MomentPart.isSome_of? hp day
    have htext : p.ofText? day.text = some part := by rw [MomentPart.ofText?, hread, Option.bind_some, hpart]
    exact ⟨part, (MomentPart.ofText?_date_part hs hp).symm.trans htext, htext⟩
  · exact Lookup.holds_part_of_holds_date hs hvalue hp expected
  · refine Condition.holds_test_mono fun value hvalue => ?_
    rw [Lookup.holds_part_of_holds_date hs hvalue hp expected, hpart]

/-- A date with an offset, one of a negative year with a blank in front and a leap second, one of a year with five digits, and a plain one
with short numbers. A value that is found by the first date, and a row with that value, are found by the day of the week too. -/
theorem differently_written_dates_kept :
    (MomentPart.date.ofText? "2024-03-05T10:20:30.5+02:00" = some (.text "2024-03-05") ∧
      (∃ day, Moment.parse? "2024-03-05" = some (.date day)) ∧ MomentPart.weekDay.ofText? "2024-03-05" = some (.nat 3) ∧
      (Lookup.part .weekDay (.nat 3)).holds (.text "2024-3-5 8:00:00") = true ∧
      (Condition.test "day" (.part .weekDay (.nat 3))).holds (fun _ => [.null, .text "2024-3-5 8:00:00"]) = true) ∧
    (MomentPart.date.ofText? " -44-3-15 23:59:60" = some (.text "-0044-03-15") ∧
      (∃ day, Moment.parse? "-0044-03-15" = some (.date day)) ∧ MomentPart.year.ofText? "-0044-03-15" = some (.int (-44))) ∧
    (MomentPart.date.ofText? "+012345-1-2T3:4:5" = some (.text "+12345-01-02") ∧
      (∃ day, Moment.parse? "+12345-01-02" = some (.date day)) ∧ MomentPart.month.ofText? "+12345-01-02" = some (.nat 1)) ∧
    (MomentPart.date.ofText? "7-6-5" = some (.text "0007-06-05") ∧
      (∃ day, Moment.parse? "0007-06-05" = some (.date day)) ∧ MomentPart.day.ofText? "0007-06-05" = some (.nat 5)) := by
  have hoffset : MomentPart.date.ofText? "2024-03-05T10:20:30.5+02:00" = some (.text "2024-03-05") := rfl
  have hnegative : MomentPart.date.ofText? " -44-3-15 23:59:60" = some (.text "-0044-03-15") := rfl
  have hlong : MomentPart.date.ofText? "+012345-1-2T3:4:5" = some (.text "+12345-01-02") := rfl
  have hshort : MomentPart.date.ofText? "7-6-5" = some (.text "0007-06-05") := rfl
  -- the parts are computed from the texts as they are written; the theorem carries them over to the date parts
  have hkept {s d : String} (hs : MomentPart.date.ofText? s = some (.text d)) :
      (∃ day, Moment.parse? d = some (.date day)) ∧ ∀ p : MomentPart, p.isOfDate = true → p.ofText? d = p.ofText? s := by
    obtain ⟨-, h⟩ := date_part_keeps_date s
    obtain ⟨d', hd', hplain, -, hparts⟩ := h (by rw [hs]; rfl)
    obtain rfl : d' = d := Json.text.inj (Option.some.inj (hd'.symm.trans hs))
    refine ⟨hplain, fun p hp => ?_⟩
    obtain ⟨⟨part, hpart, hpart'⟩, -⟩ := hparts p hp
    exact hpart'.trans hpart.symm
  obtain ⟨-, h⟩ := date_part_keeps_date "2024-03-05T10:20:30.5+02:00"
  obtain ⟨d, hd, -, -, hparts⟩ := h (by rw [hoffset]; rfl)
  obtain rfl : d = "2024-03-05" := Json.text.inj (Option.some.inj (hd.symm.trans hoffset))
  obtain ⟨-, hvalues, hrows⟩ := hparts .weekDay rfl
  have htuesday : (Lookup.part .weekDay (.nat 3)).holds (.text "2024-03-05T10:20:30.5+02:00") = true := by decide +kernel
  have hvalue : (Lookup.part .date (.text "2024-03-05")).holds (.text "2024-3-5 8:00:00") = true :=
    Lookup.holds_date_iff.2 ⟨_, rfl, rfl⟩
  have hrow : (Condition.test "day" (.part .date (.text "2024-03-05"))).holds (fun _ => [.null, .text "2024-3-5 8:00:00"]) = true :=
    List.any_eq_true.2 ⟨_, List.mem_cons_of_mem _ List.mem_cons_self, hvalue⟩
  exact ⟨⟨hoffset, (hkept hoffset).1, ((hkept hoffset).2 .weekDay rfl).trans rfl, (hvalues _ _ hvalue).trans htuesday,
      hrows _ htuesday _ _ hrow⟩,
    ⟨hnegative, (hkept hnegative).1, ((hkept hnegative).2 .year rfl).trans rfl⟩,
    ⟨hlong, (hkept hlong).1, ((hkept hlong).2 .month rfl).trans rfl⟩,
    ⟨hshort, (hkept hshort).1, ((hkept hshort).2 .day rfl).trans rfl⟩⟩

end ModelCatalog
