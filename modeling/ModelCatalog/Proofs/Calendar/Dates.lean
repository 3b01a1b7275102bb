import Mathlib.Data.Nat.Digits.Defs
import Mathlib.Data.Option.Basic
import ModelCatalog.Calendar.Parser
import ModelCatalog.Proofs.Number.Notation

/-!
# Dates read back

A date of the calendar is written in a form that is read as that date again, whatever its year (`readDate?_text`): a year is written with a
sign when it has more digits than are read without one. The forms of a point of time are tried in order, but they do not disagree about the
date. Each form with a date begins with one that the lenient reader takes, and a time makes it go on behind the date (`readStrict?_eq_some`,
`readBoth?_eq_some`); so a text is a plain date exactly when the lenient reader uses it up (`parse?_eq_date_iff`).
-/

namespace ModelCatalog

/-! ## Digits -/

/-- Whether a text does not go on with a digit. -/
def EndsDigits (rest : List Char) : Prop := ∀ c ∈ rest.head?, c.isDigit = false

theorem endsDigits_nil : EndsDigits [] := fun _ hc => nomatch hc

theorem endsDigits_dash (rest : List Char) : EndsDigits ('-' :: rest) := fun c hc => by
  obtain rfl : '-' = c := Option.some.inj hc
  rfl

theorem EndsDigits.takeWhile_take {rest : List Char} (h : EndsDigits rest) (n : Nat) : (rest.take n).takeWhile Char.isDigit = [] := by
  cases rest with
  | nil => simp
  | cons c rest =>
    cases n with
    | zero => rfl
    | succ n => rw [List.take_succ_cons, List.takeWhile_cons_of_neg (by simp [h c rfl])]

theorem Text.dropBlanks_of_isDigit {c : Char} (hc : c.isDigit = true) (cs : List Char) : Text.dropBlanks (c :: cs) = c :: cs := by
  have hlow : 48 ≤ c.toNat := (IsDigit.bounds hc).1
  have hhigh : c.toNat ≤ 57 := (IsDigit.bounds hc).2
  refine List.dropWhile_cons_of_neg ?_
  simp only [isBlank, blankRanges, List.any_cons, List.any_nil, Bool.or_false, Bool.or_eq_true, Bool.and_eq_true, decide_eq_true_eq]
  omega

/-- Whether some digits stand for a number. There may be zeros in front. -/
structure IsDecimal (ds : List Char) (n : Nat) : Prop where
  isDigit : ∀ c ∈ ds, c.isDigit = true
  value : Nat.ofDigitChars 10 ds 0 = n
  ne_nil : ds ≠ []

theorem toList_padded (width n : Nat) :
    (Date.padded width n).toList = List.replicate (width - (Nat.toDigits 10 n).length) '0' ++ Nat.toDigits 10 n := by
  rw [Date.padded, String.toList_ofList]

theorem isDecimal_padded (width n : Nat) : IsDecimal (Date.padded width n).toList n := by
  rw [toList_padded]
  refine ⟨fun c hc => ?_, ?_, List.append_ne_nil_of_right_ne_nil _ Nat.toDigits_ne_nil⟩
  · rcases List.mem_append.1 hc with hzero | hdigit
    · rw [List.eq_of_mem_replicate hzero]
      rfl
    · exact Nat.isDigit_of_mem_toDigits (by decide) (by decide) hdigit
  · rw [Nat.ofDigitChars_append, Nat.ofDigitChars_replicate_zero, Nat.mul_zero, Nat.ofDigitChars_ten_toDigits]

theorem length_padded_le {width n : Nat} (hwidth : 0 < width) (hn : n < 10 ^ width) : (Date.padded width n).toList.length ≤ width := by
  have hlength := Nat.toDigits_length 10 n width hwidth hn
  rw [toList_padded, List.length_append, List.length_replicate]
  omega

namespace Moment

/-! ## Numbers -/

/-- What the digits stand for, one after the other. -/
theorem foldl_digits {ds : List Char} (h : ∀ c ∈ ds, c.isDigit = true) (n : Nat) :
    (ds.filterMap Json.digit?).foldl (fun n d => 10 * n + d) n = Nat.ofDigitChars 10 ds n := by
  induction ds generalizing n with
  | nil => rfl
  | cons c ds ih =>
    have hc : Json.digit? c = some (c.toNat - '0'.toNat) := if_pos (h c List.mem_cons_self)
    rw [List.filterMap_cons_some hc, List.foldl_cons, Nat.ofDigitChars_cons]
    exact ih (fun d hd => h d (List.mem_cons_of_mem c hd)) _

theorem number?_decimal {ds rest : List Char} {n most : Nat} (h : IsDecimal ds n) (hlength : ds.length ≤ most) (hrest : EndsDigits rest) :
    number? most (ds ++ rest) = some (n, rest) := by
  have hread : ((ds ++ rest).take most).takeWhile Char.isDigit = ds := by
    rw [List.take_append, List.take_of_length_le hlength, List.takeWhile_append_of_pos h.isDigit, hrest.takeWhile_take, List.append_nil]
  have hne : ds.isEmpty = false := by simp [h.ne_nil]
  rw [number?, hread, hne, foldl_digits h.isDigit, h.value, List.drop_left]
  rfl

/-- A number begins with a digit. -/
theorem exists_isDigit_of_number? {cs : List Char} {most : Nat} {read : Nat × List Char} (h : number? most cs = some read) :
    ∃ c cs', cs = c :: cs' ∧ c.isDigit = true := by
  cases cs with
  | nil => simp [number?] at h
  | cons c cs' =>
    refine ⟨c, cs', rfl, ?_⟩
    by_contra hc
    cases most <;> simp [number?, hc] at h

theorem number?_of_numberOf? {cs : List Char} {width : Nat} {read : Nat × List Char} (h : numberOf? width cs = some read) :
    number? width cs = some read := by
  rw [numberOf?] at h
  split at h
  · exact h
  · cases h

/-- The lenient readers take a number that begins at once. -/
theorem twoDigits?_of_number? {cs : List Char} {read : Nat × List Char} (h : number? 2 cs = some read) : twoDigits? cs = some read := by
  obtain ⟨c, cs', rfl, hc⟩ := exists_isDigit_of_number? h
  rw [twoDigits?, Text.dropBlanks_of_isDigit hc, h]

theorem year?_of_number? {cs rest : List Char} {n : Nat} (h : number? 4 cs = some (n, rest)) : year? cs = some ((n : Int), rest) := by
  obtain ⟨c, cs', rfl, hc⟩ := exists_isDigit_of_number? h
  rw [year?, Text.dropBlanks_of_isDigit hc]
  split
  · rename_i heq
    obtain ⟨rfl, -⟩ := List.cons.inj heq
    cases hc
  · rename_i heq
    obtain ⟨rfl, -⟩ := List.cons.inj heq
    cases hc
  · rw [h]
    rfl

/-! ## Years -/

section Year

variable {ds rest : List Char} {n : Nat}

/-- Behind a sign all digits are read. -/
theorem year?_signed (h : IsDecimal ds n) (hrest : EndsDigits rest) :
    year? ('-' :: (ds ++ rest)) = some (-(n : Int), rest) ∧ year? ('+' :: (ds ++ rest)) = some ((n : Int), rest) := by
  have hnumber : number? (ds ++ rest).length (ds ++ rest) = some (n, rest) := number?_decimal h (by simp) hrest
  constructor
  · change (number? (ds ++ rest).length (ds ++ rest)).map _ = _
    rw [hnumber]
    rfl
  · change (number? (ds ++ rest).length (ds ++ rest)).map _ = _
    rw [hnumber]
    rfl

/-- Every year is read from its text, in which only a year of four digits goes without a sign. -/
theorem year?_yearText (year : Int) (hrest : EndsDigits rest) : year? ((Date.yearText year).toList ++ rest) = some (year, rest) := by
  have hyear := isDecimal_padded 4 year.natAbs
  have hminus : "-".toList = ['-'] := rfl
  have hplus : "+".toList = ['+'] := rfl
  rw [Date.yearText]
  split
  · rename_i hneg
    rw [String.toList_append, hminus, List.append_assoc, List.singleton_append, (year?_signed hyear hrest).1,
      show (-(year.natAbs : Int)) = year by omega]
  · split
    · rename_i hneg hshort
      have hlength : (Date.padded 4 year.natAbs).toList.length ≤ 4 := length_padded_le (by decide) (by omega)
      rw [year?_of_number? (number?_decimal hyear hlength hrest), show (year.natAbs : Int) = year by omega]
    · rename_i hneg hshort
      rw [String.toList_append, hplus, List.append_assoc, List.singleton_append, (year?_signed hyear hrest).2,
        show (year.natAbs : Int) = year by omega]

end Year

end Moment

/-! ## Dates of the calendar -/

namespace Date

/-- Whether the calendar has the date. -/
def InCalendar (d : Date) : Prop := of? d.year d.month d.day = some d

theorem of?_eq_some_iff {year : Int} {month day : Nat} {d : Date} :
    of? year month day = some d ↔ d = ⟨year, month, day⟩ ∧ d.InCalendar := by
  constructor
  · intro h
    obtain rfl : d = ⟨year, month, day⟩ := by
      rw [of?] at h
      split at h
      · exact (Option.some.inj h).symm
      · cases h
    exact ⟨rfl, h⟩
  · rintro ⟨rfl, h⟩
    exact h

theorem monthLength_le (year : Int) (month : Nat) : monthLength year month ≤ 31 := by
  unfold monthLength
  split_ifs <;> decide

theorem InCalendar.short {d : Date} (h : d.InCalendar) : d.month < 100 ∧ d.day < 100 := by
  have hlength := monthLength_le d.year d.month
  rw [InCalendar, of?] at h
  split at h
  · omega
  · cases h

theorem toList_text (d : Date) :
    d.text.toList = (yearText d.year).toList ++ '-' :: ((padded 2 d.month).toList ++ '-' :: (padded 2 d.day).toList) := by
  simp [text]

end Date

namespace Moment

theorem mark?_eq_some_iff {c : Char} {cs rest : List Char} : mark? c cs = some rest ↔ cs = c :: rest := by
  cases cs with
  | nil => simp [mark?]
  | cons d cs => simp [mark?]

/-- A date is a year, a month and a day that the calendar has, with a dash between them. -/
theorem readDate?_eq_some_iff {cs rest : List Char} {d : Date} :
    readDate? cs = some (d, rest) ↔ d.InCalendar ∧ ∃ afterYear afterMonth, year? cs = some (d.year, '-' :: afterYear) ∧
      twoDigits? afterYear = some (d.month, '-' :: afterMonth) ∧ twoDigits? afterMonth = some (d.day, rest) := by
  simp only [readDate?, Option.bind_eq_bind, Option.bind_eq_some_iff, Prod.exists, mark?_eq_some_iff, Date.of?_eq_some_iff]
  constructor
  · rintro ⟨year, _, hyear, afterYear, rfl, month, _, hmonth, afterMonth, rfl, day, _, hday, _, ⟨rfl, hd⟩, hread⟩
    cases hread
    exact ⟨hd, afterYear, afterMonth, hyear, hmonth, hday⟩
  · rintro ⟨hd, afterYear, afterMonth, hyear, hmonth, hday⟩
    exact ⟨_, _, hyear, _, rfl, _, _, hmonth, _, rfl, _, _, hday, d, ⟨rfl, hd⟩, rfl⟩

/-- The text of a date is read as the date, up to what follows. -/
theorem readDate?_text {d : Date} (hd : d.InCalendar) {rest : List Char} (hrest : EndsDigits rest) :
    readDate? (d.text.toList ++ rest) = some (d, rest) := by
  obtain ⟨hmonth, hday⟩ := hd.short
  have htwo {n : Nat} (hn : n < 100) {cs : List Char} (hcs : EndsDigits cs) : twoDigits? ((Date.padded 2 n).toList ++ cs) = some (n, cs) :=
    twoDigits?_of_number? (number?_decimal (isDecimal_padded 2 n) (length_padded_le (by decide) hn) hcs)
  have htext : d.text.toList ++ rest = (Date.yearText d.year).toList ++
      '-' :: ((Date.padded 2 d.month).toList ++ '-' :: ((Date.padded 2 d.day).toList ++ rest)) := by
    simp [Date.toList_text]
  rw [htext]
  exact readDate?_eq_some_iff.2
    ⟨hd, _, _, year?_yearText d.year (endsDigits_dash _), htwo hmonth (endsDigits_dash _), htwo hday hrest⟩

/-! ## The forms of a point of time -/

/-- A date with a time and an offset begins as a date does for the lenient reader. -/
theorem readStrict?_eq_some {cs : List Char} {m : Moment} (h : readStrict? cs = some m) :
    ∃ d t c rest, m = both d t ∧ readDate? cs = some (d, c :: rest) := by
  rw [readStrict?] at h
  obtain ⟨⟨year, _⟩, hyear, h⟩ := Option.bind_eq_some_iff.1 h
  obtain ⟨afterYear, hdash, h⟩ := Option.bind_eq_some_iff.1 h
  obtain ⟨⟨month, _⟩, hmonth, h⟩ := Option.bind_eq_some_iff.1 h
  obtain ⟨afterMonth, hdash', h⟩ := Option.bind_eq_some_iff.1 h
  obtain ⟨⟨day, behind⟩, hday, h⟩ := Option.bind_eq_some_iff.1 h
  cases behind with
  | nil => cases h
  | cons c rest =>
    dsimp only at h
    by_cases hc : (!isSeparator c) = true
    · rw [if_pos hc] at h
      cases h
    rw [if_neg hc] at h
    -- the time and the offset do not matter, only that the date is made behind them
    obtain ⟨⟨hour, _⟩, -, h⟩ := Option.bind_eq_some_iff.1 h
    obtain ⟨_, -, h⟩ := Option.bind_eq_some_iff.1 h
    obtain ⟨⟨minute, _⟩, -, h⟩ := Option.bind_eq_some_iff.1 h
    obtain ⟨_, -, h⟩ := Option.bind_eq_some_iff.1 h
    obtain ⟨⟨second, _⟩, -, h⟩ := Option.bind_eq_some_iff.1 h
    obtain ⟨_, -, h⟩ := Option.bind_eq_some_iff.1 h
    obtain ⟨_, -, h⟩ := Option.bind_eq_some_iff.1 h
    obtain ⟨-, h⟩ := Option.ite_none_right_eq_some.1 h
    obtain ⟨d, hd, h⟩ := Option.bind_eq_some_iff.1 h
    obtain ⟨t, -, hm⟩ := Option.bind_eq_some_iff.1 h
    obtain ⟨rfl, hcalendar⟩ := Date.of?_eq_some_iff.1 hd
    rw [mark?_eq_some_iff] at hdash hdash'
    subst hdash hdash'
    exact ⟨_, t, c, rest, (Option.some.inj hm).symm, readDate?_eq_some_iff.2 ⟨hcalendar, _, _,
      year?_of_number? (number?_of_numberOf? hyear), twoDigits?_of_number? (number?_of_numberOf? hmonth),
      twoDigits?_of_number? (number?_of_numberOf? hday)⟩⟩

/-- A date with a time and no offset begins with the date, and the time is not empty. -/
theorem readBoth?_eq_some {cs : List Char} {m : Moment} (h : readBoth? cs = some m) :
    ∃ d t c rest, m = both d t ∧ readDate? cs = some (d, c :: rest) := by
  simp only [readBoth?, Option.bind_eq_bind, Option.bind_eq_some_iff, Prod.exists] at h
  obtain ⟨d, rest, hd, t, ht, hm⟩ := h
  cases rest with
  | nil => cases ht
  | cons c rest => exact ⟨d, t, c, rest, (Option.some.inj hm).symm, hd⟩

theorem whole?_eq_some_iff {α : Type} {read : α × List Char} {a : α} : whole? read = some a ↔ read = (a, []) := by
  obtain ⟨b, rest⟩ := read
  cases rest <;> simp [whole?]

variable {s : String} {m : Moment} {d : Date}

/-- A point of time has both a date and a time, or is a plain date, or a time of day. -/
theorem parse?_eq_some (h : parse? s = some m) :
    (readStrict? s.toList = some m ∨ readBoth? s.toList = some m) ∨ (∃ d, m = date d ∧ readDate? s.toList = some (d, [])) ∨
      ∃ t, m = time t := by
  rcases (Option.orElse_eq_some _ _ _).1 h with hstrict | ⟨-, h⟩
  · exact Or.inl (Or.inl hstrict)
  rcases (Option.orElse_eq_some _ _ _).1 h with hboth | ⟨-, h⟩
  · exact Or.inl (Or.inr hboth)
  rcases (Option.orElse_eq_some _ _ _).1 h with hdate | ⟨-, htime⟩
  · obtain ⟨d, hd, rfl⟩ := Option.map_eq_some_iff.1 hdate
    obtain ⟨read, hread, hwhole⟩ := Option.bind_eq_some_iff.1 hd
    rw [whole?_eq_some_iff.1 hwhole] at hread
    exact Or.inr (Or.inl ⟨d, rfl, hread⟩)
  · obtain ⟨t, -, rfl⟩ := Option.map_eq_some_iff.1 htime
    exact Or.inr (Or.inr ⟨t, rfl⟩)

/-- Where there is a time, the lenient reader finds the date at the beginning and something behind it. -/
theorem exists_readDate?_of_time (h : readStrict? s.toList = some m ∨ readBoth? s.toList = some m) :
    ∃ d t c rest, m = both d t ∧ readDate? s.toList = some (d, c :: rest) :=
  h.elim readStrict?_eq_some readBoth?_eq_some

/-- A text is a plain date when the lenient reader uses it up: the forms that are tried before go on behind the date. -/
theorem parse?_eq_date_iff : parse? s = some (date d) ↔ readDate? s.toList = some (d, []) := by
  constructor
  · intro h
    rcases parse?_eq_some h with htime | ⟨d', hm, hread⟩ | ⟨_, hm⟩
    · obtain ⟨_, _, _, _, hm, -⟩ := exists_readDate?_of_time htime
      cases hm
    · cases hm
      exact hread
    · cases hm
  · intro h
    have htime (m : Moment) : ¬(readStrict? s.toList = some m ∨ readBoth? s.toList = some m) := fun hm => by
      obtain ⟨_, _, _, _, -, hread⟩ := exists_readDate?_of_time hm
      rw [h] at hread
      cases hread
    have hstrict := Option.eq_none_iff_forall_ne_some.2 fun m hm => htime m (Or.inl hm)
    have hboth := Option.eq_none_iff_forall_ne_some.2 fun m hm => htime m (Or.inr hm)
    simp [parse?, hstrict, hboth, h, whole?]

/-- Whatever form a point of time with a date has, the date is what the lenient reader finds at the beginning. -/
theorem exists_readDate?_of_parse? (h : parse? s = some m) (hd : m.date? = some d) :
    ∃ rest, readDate? s.toList = some (d, rest) := by
  rcases parse?_eq_some h with htime | ⟨d', rfl, hread⟩ | ⟨t, rfl⟩
  · obtain ⟨d', t, c, rest, rfl, hread⟩ := exists_readDate?_of_time htime
    obtain rfl : d' = d := Option.some.inj hd
    exact ⟨_, hread⟩
  · obtain rfl : d' = d := Option.some.inj hd
    exact ⟨_, hread⟩
  · cases hd

/-- There is a date in the texts with a date, a time and an offset, in those with a date and a time, and in plain dates. -/
theorem exists_date?_iff : (∃ m d, parse? s = some m ∧ m.date? = some d) ↔
    (∃ m, readStrict? s.toList = some m) ∨ (∃ m, readBoth? s.toList = some m) ∨ ∃ d, readDate? s.toList = some (d, []) := by
  have hboth {m : Moment} (hm : readStrict? s.toList = some m ∨ readBoth? s.toList = some m) : ∃ d, m.date? = some d := by
    obtain ⟨d, t, _, _, rfl, -⟩ := exists_readDate?_of_time hm
    exact ⟨d, rfl⟩
  constructor
  · rintro ⟨m, d, hm, hd⟩
    rcases parse?_eq_some hm with (hstrict | hlenient) | ⟨d', -, hread⟩ | ⟨t, rfl⟩
    · exact Or.inl ⟨m, hstrict⟩
    · exact Or.inr (Or.inl ⟨m, hlenient⟩)
    · exact Or.inr (Or.inr ⟨d', hread⟩)
    · cases hd
  · intro h
    cases hstrict : readStrict? s.toList with
    | some m =>
      obtain ⟨d, hd⟩ := hboth (Or.inl hstrict)
      exact ⟨m, d, by simp [parse?, hstrict], hd⟩
    | none =>
      rcases h with ⟨m, hm⟩ | ⟨m, hm⟩ | ⟨d, hread⟩
      · rw [hstrict] at hm
        cases hm
      · obtain ⟨d, hd⟩ := hboth (Or.inr hm)
        exact ⟨m, d, by simp [parse?, hstrict, hm], hd⟩
      · exact ⟨date d, d, parse?_eq_date_iff.2 hread, rfl⟩

/-- The date of a point of time that was read is in the calendar. -/
theorem inCalendar_of_parse? (h : parse? s = some m) (hd : m.date? = some d) : d.InCalendar := by
  obtain ⟨rest, hread⟩ := exists_readDate?_of_parse? h hd
  exact (readDate?_eq_some_iff.1 hread).1

/-- Every date of the calendar is read back from its text as a plain date. -/
theorem parse?_text (hd : d.InCalendar) : parse? d.text = some (date d) := by
  have hread := readDate?_text hd endsDigits_nil
  rw [List.append_nil] at hread
  exact parse?_eq_date_iff.2 hread

/-- The first day of the calendar and the last. -/
example : parse? "-262143-01-01" = some (date ⟨-262143, 1, 1⟩) ∧ parse? "+262142-12-31" = some (date ⟨262142, 12, 31⟩) := by decide

end Moment

end ModelCatalog
