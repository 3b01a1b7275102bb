import Mathlib.Data.List.Chain
import ModelCatalog.Query.Operator
import ModelCatalog.Text.Search

/-!
# Keys and their segments

A key joins segments by pairs of underscores, and it is split at such pairs from the left. Joining what was split gives the key back
(`join_segments`), but segments that were joined come apart differently when one of them holds a pair of underscores or ends in an
underscore before another: `Separable` says which do come apart as they were (`segments_join_iff`).
-/

namespace ModelCatalog

namespace LookupKey

/-! ## Splitting characters -/

/-- No two underscores stand next to each other. -/
def IsWhole (cs : List Char) : Prop := cs.IsChain fun a b => ¬(a = '_' ∧ b = '_')

theorem splitFrom_ne_nil (read rest : List Char) : splitFrom read rest ≠ [] := by
  fun_induction splitFrom read rest with
  | case1 => exact List.cons_ne_nil _ _
  | case2 => exact List.cons_ne_nil _ _
  | case3 => assumption

/-- The parts joined again are what was split. -/
theorem intercalate_splitFrom (read rest : List Char) :
    ['_', '_'].intercalate (splitFrom read rest) = read.reverse ++ rest := by
  fun_induction splitFrom read rest with
  | case1 read => simp
  | case2 read rest ih =>
    rw [List.intercalate_cons_of_ne_nil (splitFrom_ne_nil _ _), ih]
    simp
  | case3 read c rest _ ih =>
    rw [ih]
    simp

/-- Each part is whole, and no part but the last ends in an underscore: a pair of underscores is found as early as it can be. -/
theorem splitFrom_separable (read rest : List Char) (hread : IsWhole read.reverse)
    (hnext : read.head? = some '_' → rest.head? ≠ some '_') :
    (∀ part ∈ splitFrom read rest, IsWhole part) ∧ ∀ part ∈ (splitFrom read rest).dropLast, part.getLast? ≠ some '_' := by
  fun_induction splitFrom read rest with
  | case1 read => simpa using hread
  | case2 read rest ih =>
    obtain ⟨hwhole, hends⟩ := ih List.IsChain.nil nofun
    have hread' : read.reverse.getLast? ≠ some '_' := by
      rw [List.getLast?_reverse]
      exact fun h => hnext h rfl
    rw [List.dropLast_cons_of_ne_nil (splitFrom_ne_nil _ _)]
    exact ⟨List.forall_mem_cons.2 ⟨hread, hwhole⟩, List.forall_mem_cons.2 ⟨hread', hends⟩⟩
  | case3 read c rest hpair ih =>
    refine ih ?_ ?_
    · rw [List.reverse_cons]
      refine hread.append (List.IsChain.singleton c) ?_
      rintro a ha b hb ⟨rfl, rfl⟩
      rw [List.getLast?_reverse] at ha
      cases hb
      exact hnext ha rfl
    · intro hc hrest
      cases hc
      obtain ⟨rest', rfl⟩ := List.head?_eq_some_iff.1 hrest
      exact hpair rest' rfl rfl

/-- A part that is whole and does not end in an underscore is split off at the pair of underscores behind it. -/
theorem splitFrom_append (read part rest : List Char) (hpart : IsWhole part) (hends : part.getLast? ≠ some '_') :
    splitFrom read (part ++ '_' :: '_' :: rest) = (read.reverse ++ part) :: splitFrom [] rest := by
  induction part generalizing read with
  | nil =>
    rw [List.nil_append, splitFrom, List.append_nil]
  | cons c part ih =>
    have hstep : splitFrom read (c :: (part ++ '_' :: '_' :: rest)) = splitFrom (c :: read) (part ++ '_' :: '_' :: rest) := by
      refine splitFrom.eq_3 _ _ _ ?_
      rintro rest' rfl heq
      cases part with
      | nil => exact hends rfl
      | cons d part =>
        cases heq
        exact hpart.rel ⟨rfl, rfl⟩
    have hends' : part.getLast? ≠ some '_' := by
      intro h
      cases part with
      | nil => cases h
      | cons d part => exact hends ((List.getLast?_cons_cons).trans h)
    rw [List.cons_append, hstep, ih _ hpart.tail hends', List.reverse_cons, List.append_assoc]
    rfl

/-- A part that is whole is not split. -/
theorem splitFrom_whole (read part : List Char) (hpart : IsWhole part) : splitFrom read part = [read.reverse ++ part] := by
  induction part generalizing read with
  | nil => rw [splitFrom, List.append_nil]
  | cons c part ih =>
    have hstep : splitFrom read (c :: part) = splitFrom (c :: read) part := by
      refine splitFrom.eq_3 _ _ _ ?_
      rintro rest' rfl rfl
      exact hpart.rel ⟨rfl, rfl⟩
    rw [hstep, ih _ hpart.tail, List.reverse_cons, List.append_assoc]
    rfl

theorem splitFrom_intercalate {parts : List (List Char)} (hne : parts ≠ []) (hwhole : ∀ part ∈ parts, IsWhole part)
    (hends : ∀ part ∈ parts.dropLast, part.getLast? ≠ some '_') : splitFrom [] (['_', '_'].intercalate parts) = parts := by
  induction parts with
  | nil => exact absurd rfl hne
  | cons part parts ih =>
    by_cases hparts : parts = []
    · subst hparts
      rw [List.intercalate_singleton]
      exact splitFrom_whole _ _ (hwhole part List.mem_cons_self)
    · rw [List.dropLast_cons_of_ne_nil hparts] at hends
      obtain ⟨hpart, hends⟩ := List.forall_mem_cons.1 hends
      have hrest := ih hparts (fun p hp => hwhole p (List.mem_cons_of_mem _ hp)) hends
      rw [List.intercalate_cons_of_ne_nil hparts, List.append_assoc]
      change splitFrom [] (part ++ '_' :: '_' :: ['_', '_'].intercalate parts) = _
      rw [splitFrom_append _ _ _ (hwhole part List.mem_cons_self) hpart, hrest]
      rfl

/-! ## Segments -/

/-- Segments that come apart as they are joined: none holds a separator, and none ends in an underscore before another. -/
structure Separable (segments : List String) : Prop where
  whole : ∀ s ∈ segments, Text.contains s separator = false
  ends : ∀ s ∈ segments.dropLast, Text.endsWith s "_" = false

/-- Segments come apart without the last of them as well. -/
theorem Separable.dropLast {segs : List String} (h : Separable segs) : Separable segs.dropLast :=
  ⟨fun s hs => h.whole s (List.dropLast_subset _ hs), fun s hs => h.ends s (List.dropLast_subset _ hs)⟩

theorem separable_concat_iff {segs : List String} {s : String} :
    Separable (segs ++ [s]) ↔ (∀ x ∈ segs ++ [s], Text.contains x separator = false) ∧ ∀ x ∈ segs, Text.endsWith x "_" = false := by
  constructor
  · rintro ⟨hwhole, hends⟩
    rw [List.dropLast_concat] at hends
    exact ⟨hwhole, hends⟩
  · rintro ⟨hwhole, hends⟩
    refine ⟨hwhole, ?_⟩
    rw [List.dropLast_concat]
    exact hends

theorem occursIn_separator_iff (cs : List Char) : Text.occursIn ['_', '_'] cs = false ↔ IsWhole cs := by
  induction cs with
  | nil => simp [Text.occursIn, IsWhole]
  | cons c cs ih =>
    rw [Text.occursIn, Bool.or_eq_false_iff, and_congr_right_iff.2 fun _ => ih]
    cases cs with
    | nil => simp [List.isPrefixOf, IsWhole]
    | cons d cs =>
      rw [IsWhole, IsWhole, List.isChain_cons_cons]
      simp [List.isPrefixOf, @eq_comm Char '_']

theorem contains_separator_iff (s : String) : Text.contains s separator = false ↔ IsWhole s.toList :=
  occursIn_separator_iff s.toList

theorem endsWith_underscore_iff (s : String) : Text.endsWith s "_" = false ↔ s.toList.getLast? ≠ some '_' := by
  have hunderscore : "_".toList = ['_'] := rfl
  rw [Text.endsWith, hunderscore, ← Bool.not_eq_true, List.isSuffixOf_iff_suffix, List.singleton_suffix_iff_getLast?_eq_some]

theorem toList_join (segments : List String) : (join segments).toList = ['_', '_'].intercalate (segments.map String.toList) :=
  String.toList_intercalate

theorem segments_ne_nil (path : String) : segments path ≠ [] := by
  rw [segments, Ne, List.map_eq_nil_iff]
  exact splitFrom_ne_nil _ _

/-- The segments of a path joined again are the path. -/
theorem join_segments (path : String) : join (segments path) = path := by
  rw [← String.toList_inj, toList_join, segments, List.map_map]
  have hid : String.toList ∘ String.ofList = id := funext fun cs => String.toList_ofList
  rw [hid, List.map_id, intercalate_splitFrom]
  rfl

/-- The segments of a path come apart as they are joined. -/
theorem separable_segments (path : String) : Separable (segments path) := by
  obtain ⟨hwhole, hends⟩ := splitFrom_separable [] path.toList List.IsChain.nil nofun
  constructor
  · intro s hs
    obtain ⟨part, hpart, rfl⟩ := List.mem_map.1 hs
    rw [contains_separator_iff, String.toList_ofList]
    exact hwhole part hpart
  · intro s hs
    rw [segments, ← List.map_dropLast] at hs
    obtain ⟨part, hpart, rfl⟩ := List.mem_map.1 hs
    rw [endsWith_underscore_iff, String.toList_ofList]
    exact hends part hpart

/-- Segments come apart as they were joined exactly when they are separable. -/
theorem segments_join_iff {segs : List String} (hne : segs ≠ []) : segments (join segs) = segs ↔ Separable segs := by
  constructor
  · intro h
    rw [← h]
    exact separable_segments _
  · rintro ⟨hwhole, hends⟩
    rw [segments, toList_join, splitFrom_intercalate]
    · rw [List.map_map]
      have hid : String.ofList ∘ String.toList = id := funext fun s => String.ofList_toList
      rw [hid, List.map_id]
    · simpa using hne
    · intro part hpart
      obtain ⟨s, hs, rfl⟩ := List.mem_map.1 hpart
      exact (contains_separator_iff s).1 (hwhole s hs)
    · intro part hpart
      rw [← List.map_dropLast] at hpart
      obtain ⟨s, hs, rfl⟩ := List.mem_map.1 hpart
      exact (endsWith_underscore_iff s).1 (hends s hs)

/-- A segment behind others is joined to them by a separator. -/
theorem join_concat {segs : List String} (hne : segs ≠ []) (s : String) :
    join (segs ++ [s]) = join segs ++ separator ++ s := by
  rw [join, String.intercalate_append_of_ne_nil hne (List.cons_ne_nil _ _), String.intercalate_singleton]
  rfl

/-- Segments that are joined first come to the same key. -/
theorem join_append_join (segs : List String) {rest : List String} (hne : rest ≠ []) : join (segs ++ [join rest]) = join (segs ++ rest) := by
  by_cases hsegs : segs = []
  · subst hsegs
    exact String.intercalate_singleton
  · rw [join_concat hsegs, join, join, join, String.intercalate_append_of_ne_nil hsegs hne]

theorem join_concat_ne {segs : List String} (hne : segs ≠ []) (s : String) : join (segs ++ [s]) ≠ join segs := by
  intro h
  have hlength := congrArg String.length h
  rw [join_concat hne, String.length_append, String.length_append] at hlength
  have hseparator : separator.length = 2 := rfl
  omega

/-! ## Operators -/

theorem ofName?_name (op : Operator) : Operator.ofName? op.name = some op := by
  cases op <;> rfl

theorem name_of_ofName? {name : String} {op : Operator} (h : Operator.ofName? name = some op) : op.name = name := by
  have hop := List.find?_some h
  simpa using hop

theorem contains_separator_name (op : Operator) : Text.contains op.name separator = false := by
  cases op <;> rfl

/-- The path found in a key has the segments that were found. -/
theorem segments_join_parse (key : String) : segments (join (parse key).1) = (parse key).1 := by
  have hall := (segments_join_iff (segments_ne_nil key)).2 (separable_segments key)
  unfold parse
  simp only
  split
  · split
    · rename_i hlength
      refine (segments_join_iff fun hnil => ?_).2 (separable_segments key).dropLast
      have hdrop := congrArg List.length hnil
      rw [List.length_dropLast, List.length_nil] at hdrop
      omega
    · exact hall
  · exact hall

/-- Segments and an operator are found in a key when the segments of the key are these and the name of the operator; for `exact` also when
they are these alone, unless the last of several is the name of an operator. -/
theorem parse_eq_iff {key : String} {segs : List String} {op : Operator} (hne : segs ≠ []) :
    parse key = (segs, op) ↔ segments key = segs ++ [op.name] ∨
      op = .exact ∧ segments key = segs ∧ (1 < segs.length → ∀ last ∈ segs.getLast?, Operator.ofName? last = none) := by
  obtain ⟨init, last, hfound⟩ := (List.eq_nil_or_concat (segments key)).resolve_left (segments_ne_nil key)
  have hlast : (segments key).getLast? = some last := by rw [hfound, List.concat_eq_append, List.getLast?_concat]
  have hinit : (segments key).dropLast = init := by rw [hfound, List.concat_eq_append, List.dropLast_concat]
  rw [List.concat_eq_append] at hfound
  unfold parse
  simp only [hlast, hinit, Option.bind_some]
  cases hop : Operator.ofName? last with
  | none =>
    constructor
    · intro h
      cases h
      refine Or.inr ⟨rfl, rfl, fun _ last' hlast' => ?_⟩
      rw [hlast] at hlast'
      cases hlast'
      exact hop
    · rintro (h | ⟨rfl, rfl, -⟩)
      · rw [hfound] at h
        obtain ⟨-, h⟩ := List.append_inj' h rfl
        cases h
        rw [ofName?_name] at hop
        cases hop
      · rfl
  | some found =>
    obtain rfl := name_of_ofName? hop
    by_cases hnil : init = []
    · subst hnil
      rw [hfound]
      constructor
      · intro h
        cases h
        exact Or.inr ⟨rfl, rfl, fun hlength => absurd hlength (Nat.lt_irrefl 1)⟩
      · rintro (h | ⟨rfl, rfl, -⟩)
        · exact absurd (List.append_inj' h rfl).1.symm hne
        · rfl
    · have hlength : 1 < (segments key).length := by
        rw [hfound, List.length_append, List.length_singleton]
        exact Nat.lt_add_of_pos_left (List.length_pos_iff.2 hnil)
      simp only [if_pos hlength]
      constructor
      · intro h
        cases h
        exact Or.inl hfound
      · rintro (h | ⟨rfl, rfl, hnone⟩)
        · obtain ⟨rfl, hname⟩ := List.append_inj' (hfound.symm.trans h) rfl
          rw [List.singleton_inj.1 hname, ofName?_name] at hop
          rw [Option.some.inj hop]
        · rw [hnone hlength _ hlast] at hop
          cases hop

/-- Joined segments are found again, with `exact`, when they are separable and the last of several is not the name of an operator. -/
theorem parse_join_iff {segs : List String} (hne : segs ≠ []) :
    parse (join segs) = (segs, .exact) ↔
      Separable segs ∧ (1 < segs.length → ∀ last ∈ segs.getLast?, Operator.ofName? last = none) := by
  rw [parse_eq_iff hne, ← segments_join_iff hne]
  constructor
  · rintro (h | ⟨-, h⟩)
    · have hjoin := join_segments (join segs)
      rw [h] at hjoin
      exact absurd hjoin (join_concat_ne hne _)
    · exact h
  · intro h
    exact Or.inr ⟨rfl, h⟩

-- a field that is named like an operator is not found again behind a relation
example : parse (join ["book", "year"]) = (["book"], .year) := by decide

/-- Segments with the name of an operator behind them are found again, with the operator, when all of them are separable. -/
theorem parse_join_name_iff {segs : List String} (hne : segs ≠ []) (op : Operator) :
    parse (join (segs ++ [op.name])) = (segs, op) ↔ Separable (segs ++ [op.name]) := by
  rw [parse_eq_iff hne, ← segments_join_iff (by simp)]
  constructor
  · rintro (h | ⟨-, h, -⟩)
    · exact h
    · have hjoin := join_segments (join (segs ++ [op.name]))
      rw [h] at hjoin
      exact absurd hjoin.symm (join_concat_ne hne _)
  · exact Or.inl

/-! ## Keys of one segment -/

section

variable {key : String} (hkey : Text.contains key separator = false)

include hkey

/-- A key without a separator is a path of one segment. -/
theorem parse_of_whole : parse key = ([key], .exact) := by
  have hjoin : join [key] = key := String.intercalate_singleton
  have hseparable : Separable [key] :=
    ⟨fun s hs => List.mem_singleton.1 hs ▸ hkey, fun s hs => absurd hs List.not_mem_nil⟩
  have hparse := (parse_join_iff (List.cons_ne_nil key [])).2 ⟨hseparable, fun hlength => absurd hlength (lt_irrefl 1)⟩
  rwa [hjoin] at hparse

theorem segments_of_whole : segments key = [key] := by
  have hjoin : join [key] = key := String.intercalate_singleton
  have hsegments := segments_join_parse key
  rwa [parse_of_whole hkey, hjoin] at hsegments

end

end LookupKey

end ModelCatalog
