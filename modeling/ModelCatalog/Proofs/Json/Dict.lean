import Mathlib.Data.String.Basic
import ModelCatalog.Json.Dict

/-!
# What a dictionary holds

Statements about `get?` after `insert`, `extend` and `of`, first for bare entries: a write finds the place where the look-up will find it,
whether they are in order or not. Dictionaries are equal when they hold the same values (`Dict.ext_get?`), and each is that of its entries
(`Dict.of_entries`).
-/

namespace ModelCatalog

namespace Entries

variable {α : Type}

/-! ## Looking up -/

@[simp] theorem get?_nil (k : String) : get? ([] : Entries α) k = none := rfl

theorem get?_cons (e : String × α) (l : Entries α) (k : String) : get? (e :: l) k = if e.1 = k then some e.2 else l.get? k := rfl

/-- A write changes what is held under its name and nothing else. -/
theorem get?_insert (l : Entries α) (k : String) (v : α) (k' : String) :
    (l.insert k v).get? k' = if k = k' then some v else l.get? k' := by
  induction l with
  | nil => rfl
  | cons e l ih =>
    obtain ⟨n, w⟩ := e
    simp only [insert]
    split
    · rename_i hn
      subst hn
      simp only [get?_cons]
      split <;> rfl
    · rename_i hn
      split
      · simp only [get?_cons]
      · simp only [get?_cons, ih]
        by_cases hk : k = k'
        · subst hk
          simp [hn]
        · simp [hk]

/-- A name has no value exactly when no entry is under it. -/
theorem get?_eq_none_iff {l : Entries α} {k : String} : l.get? k = none ↔ ∀ e ∈ l, e.1 ≠ k := by
  induction l with
  | nil => simp
  | cons e l ih =>
    rw [get?_cons, List.forall_mem_cons, ← ih]
    by_cases h : e.1 = k <;> simp [h]

/-- A name has a value exactly when an entry is under it. -/
theorem get?_isSome_iff {l : Entries α} {k : String} : (l.get? k).isSome = true ↔ k ∈ l.map Prod.fst := by
  rw [← not_iff_not, Bool.not_eq_true, Option.isSome_eq_false_iff, Option.isNone_iff_eq_none, get?_eq_none_iff, List.mem_map, not_exists]
  exact forall_congr' fun e => not_and.symm

/-- The value under a name is that of the first entry under it. -/
theorem get?_eq_some_iff {l : Entries α} {k : String} {v : α} :
    l.get? k = some v ↔ ∃ before after, l = before ++ (k, v) :: after ∧ ∀ e ∈ before, e.1 ≠ k := by
  constructor
  · intro h
    induction l with
    | nil => cases h
    | cons e l ih =>
      rw [get?_cons] at h
      split at h
      · rename_i hname
        cases hname
        cases h
        exact ⟨[], l, rfl, by simp⟩
      · rename_i hname
        obtain ⟨before, after, rfl, hbefore⟩ := ih h
        exact ⟨e :: before, after, rfl, List.forall_mem_cons.2 ⟨hname, hbefore⟩⟩
  · rintro ⟨before, after, rfl, hbefore⟩
    induction before with
    | nil => rw [List.nil_append, get?_cons, if_pos rfl]
    | cons e before ih =>
      obtain ⟨hname, hbefore⟩ := List.forall_mem_cons.1 hbefore
      rw [List.cons_append, get?_cons, if_neg hname, ih hbefore]

/-- Entries picked out by their names. -/
theorem get?_filter (l : Entries α) (p : String → Bool) (k : String) :
    get? (l.filter fun e => p e.1) k = if p k then l.get? k else none := by
  induction l with
  | nil => exact (ite_self none).symm
  | cons e l ih =>
    rw [List.filter_cons, get?_cons]
    by_cases hk : e.1 = k
    · subst hk
      cases hp : p e.1 with
      | true => simp [get?_cons]
      | false => simp [ih, hp]
    · rw [if_neg hk, ← ih]
      split
      · rw [get?_cons, if_neg hk]
      · rfl

/-- After many writes a name holds the last value written under it, or what it held before. -/
theorem get?_extend (l written : Entries α) (k : String) :
    (l.extend written).get? k = ((written.reverse.find? fun e => e.1 = k).map Prod.snd).or (l.get? k) := by
  induction written generalizing l with
  | nil => rfl
  | cons e written ih =>
    change (extend (l.insert e.1 e.2) written).get? k = _
    rw [ih, get?_insert, List.reverse_cons, List.find?_append]
    cases written.reverse.find? fun e => e.1 = k with
    | some found => rfl
    | none =>
      by_cases he : e.1 = k <;> simp [he]

/-! ## Order -/

/-- A name before all others has no value. -/
theorem get?_eq_none_of_lt {l : Entries α} {k : String} (h : ∀ e ∈ l, k < e.1) : l.get? k = none :=
  get?_eq_none_iff.2 fun e he => (h e he).ne'

/-- Entries in order are equal when they hold the same values. -/
theorem Sorted.ext {l l' : Entries α} (h : l.Sorted) (h' : l'.Sorted) (hget : ∀ k, l.get? k = l'.get? k) : l = l' := by
  induction l generalizing l' with
  | nil =>
    cases l' with
    | nil => rfl
    | cons e' l' => simpa [get?_cons] using hget e'.1
  | cons e l ih =>
    cases l' with
    | nil => simpa [get?_cons] using hget e.1
    | cons e' l' =>
      obtain ⟨hlt, hl⟩ := List.pairwise_cons.1 h
      obtain ⟨hlt', hl'⟩ := List.pairwise_cons.1 h'
      have hfirst := hget e.1
      rw [get?_cons, if_pos rfl, get?_cons] at hfirst
      -- the first name of one is not before the first name of the other, where it would have no value
      have hname : e'.1 = e.1 := by
        by_contra hne
        rw [if_neg hne] at hfirst
        have hmem : e'.1 < e.1 := by
          have hmem : e.1 ∈ l'.map Prod.fst := get?_isSome_iff.1 (hfirst ▸ rfl)
          obtain ⟨other, hother, heq⟩ := List.mem_map.1 hmem
          exact heq ▸ hlt' other hother
        have hnone : get? (e :: l) e'.1 = none :=
          get?_eq_none_of_lt (List.forall_mem_cons.2 ⟨hmem, fun other hother => lt_trans hmem (hlt other hother)⟩)
        simpa [hnone, get?_cons] using hget e'.1
      rw [if_pos hname] at hfirst
      have hrest : l = l' := by
        refine ih hl hl' fun k => ?_
        by_cases hk : e.1 = k
        · rw [get?_eq_none_of_lt (hk ▸ hlt), get?_eq_none_of_lt (hk ▸ hname ▸ hlt')]
        · have hk' := hget k
          rwa [get?_cons, if_neg hk, get?_cons, if_neg (hname ▸ hk)] at hk'
      rw [hrest, Prod.ext hname.symm (Option.some.inj hfirst)]

/-- Among entries in order, the last one under a name is the only one. -/
theorem Sorted.find?_reverse {l : Entries α} (h : l.Sorted) (k : String) :
    (l.reverse.find? fun e => e.1 = k).map Prod.snd = l.get? k := by
  induction l with
  | nil => rfl
  | cons e l ih =>
    obtain ⟨hn, hl⟩ := List.pairwise_cons.1 h
    rw [List.reverse_cons, List.find?_append, get?_cons, Option.map_or, ih hl]
    by_cases he : e.1 = k
    · have hnone : get? l k = none := get?_eq_none_of_lt (he ▸ hn)
      simp [he, hnone]
    · simp [he]

end Entries

namespace Dict

variable {α β : Type}

/-! ## Entries -/

/-- Dictionaries are equal when they hold the same values. -/
theorem ext_get? {d d' : Dict α} (h : ∀ k, d.get? k = d'.get? k) : d = d' := by
  obtain ⟨entries, hsorted⟩ := d
  obtain ⟨entries', hsorted'⟩ := d'
  cases hsorted.ext hsorted' h
  rfl

theorem entries_injective : Function.Injective (entries : Dict α → List (String × α)) := fun _ _ h => ext_get? fun k => by
  rw [get?, h, ← get?]

theorem mem_entries {d : Dict α} {e : String × α} : e ∈ d.entries ↔ e ∈ d := Iff.rfl

/-- A dictionary is empty when it has no entries. -/
@[simp] theorem isEmpty_eq (d : Dict α) : d.isEmpty = d.entries.isEmpty := rfl

theorem keys_nodup (d : Dict α) : d.keys.Nodup := List.pairwise_map.2 (d.sorted.imp ne_of_lt)

/-- The entries are the values held, each with its name. -/
theorem mem_iff_get? {d : Dict α} {e : String × α} : e ∈ d ↔ d.get? e.1 = some e.2 := by
  rw [get?, Entries.get?_eq_some_iff]
  constructor
  · intro h
    obtain ⟨before, after, hd⟩ := List.append_of_mem h
    have hbefore : ∀ e' ∈ before, e'.1 < e.1 := fun e' he' =>
      (List.pairwise_append.1 (hd ▸ d.sorted)).2.2 e' he' e List.mem_cons_self
    exact ⟨before, after, hd, fun e' he' => (hbefore e' he').ne⟩
  · rintro ⟨before, after, hd, -⟩
    exact mem_entries.1 (hd ▸ List.mem_append_right before List.mem_cons_self)

/-- A name has a value exactly when it is among the names. -/
theorem get?_isSome_iff (d : Dict α) (k : String) : (d.get? k).isSome = true ↔ k ∈ d.keys := Entries.get?_isSome_iff

/-! ## Looking up -/

@[simp] theorem get?_empty (k : String) : (empty : Dict α).get? k = none := rfl

/-- A write changes what is held under its name and nothing else. -/
theorem get?_insert (d : Dict α) (k : String) (v : α) (k' : String) :
    (d.insert k v).get? k' = if k = k' then some v else d.get? k' := Entries.get?_insert d.entries k v k'

@[simp] theorem get?_insert_self (d : Dict α) (k : String) (v : α) : (d.insert k v).get? k = some v := by
  rw [get?_insert, if_pos rfl]

/-- Of two writes under one name the second stays. -/
theorem insert_insert_self (d : Dict α) (k : String) (v w : α) : (d.insert k v).insert k w = d.insert k w := by
  refine ext_get? fun k' => ?_
  rw [get?_insert, get?_insert, get?_insert]
  by_cases h : k = k' <;> simp [h]

/-- A write takes no name away. -/
theorem contains_insert {d : Dict α} {name : String} (h : d.contains name = true) (k : String) (v : α) :
    (d.insert k v).contains name = true := by
  rw [contains, get?_insert]
  split
  · rfl
  · exact h

/-- Entries picked out by their names. -/
theorem get?_filter (d : Dict α) (p : String → Bool) (k : String) :
    (d.filter fun e => p e.1).get? k = if p k then d.get? k else none := Entries.get?_filter d.entries p k

/-! ## Many writes -/

@[simp] theorem extend_nil (d : Dict α) : d.extend [] = d := rfl

@[simp] theorem extend_cons (d : Dict α) (e : String × α) (written : List (String × α)) :
    d.extend (e :: written) = (d.insert e.1 e.2).extend written := rfl

@[simp] theorem extend_append (d : Dict α) (written others : List (String × α)) :
    d.extend (written ++ others) = (d.extend written).extend others := entries_injective List.foldl_append

/-- After many writes a name holds the last value written under it, or what it held before. -/
theorem get?_extend (d : Dict α) (written : List (String × α)) (k : String) :
    (d.extend written).get? k = ((written.reverse.find? fun e => e.1 = k).map Prod.snd).or (d.get? k) :=
  Entries.get?_extend d.entries written k

/-- Writing all entries of a dictionary: they come before what was held. -/
theorem get?_extend_entries (d written : Dict α) (k : String) : (d.extend written).get? k = (written.get? k).or (d.get? k) := by
  rw [get?_extend, written.sorted.find?_reverse, ← get?]

/-- A dictionary is that of its entries. -/
@[simp] theorem of_entries (d : Dict α) : of d.entries = d := by
  refine ext_get? fun k => ?_
  rw [of, get?_extend_entries, get?_empty, Option.or_none]

@[simp] theorem entries_of_singleton (e : String × α) : (of [e]).entries = [e] := rfl

@[simp] theorem get?_of_singleton (k : String) (v : α) : (of [(k, v)]).get? k = some v := get?_insert_self empty k v

/-- Entries in order are those of their dictionary. -/
theorem ofList_of_sorted {entries : List (String × α)} (h : Entries.Sorted entries) : ofList entries = entries :=
  congrArg Dict.entries (of_entries ⟨entries, h⟩)

/-- The entries after many writes are those that were written and those from before. -/
theorem mem_of_mem_extend {d : Dict α} {written : List (String × α)} {e : String × α} (h : e ∈ d.extend written) :
    e ∈ written ∨ e ∈ d :=
  Entries.mem_of_mem_extend h

/-- Writes under other names keep an entry. -/
theorem mem_extend_of_ne {d : Dict α} {written : List (String × α)} {e : String × α} (he : e ∈ d)
    (hne : ∀ e' ∈ written, e.1 ≠ e'.1) : e ∈ d.extend written := by
  have hnone : (written.reverse.find? fun e' => e'.1 = e.1) = none := by
    simpa using fun e' v he' => (hne (e', v) he').symm
  rw [mem_iff_get?, get?_extend, hnone]
  exact mem_iff_get?.1 he

/-- After values are written under several names, each by its name, these names hold them. -/
theorem get?_extend_map (d : Dict α) (names : List String) (f : String → α) (k : String) :
    (d.extend (names.map fun name => (name, f name))).get? k = if k ∈ names then some (f k) else d.get? k := by
  induction names generalizing d with
  | nil => rfl
  | cons name names ih =>
    rw [List.map_cons, extend_cons, ih, get?_insert]
    by_cases hk : k ∈ names
    · rw [if_pos hk, if_pos (List.mem_cons_of_mem _ hk)]
    · rw [if_neg hk]
      by_cases hname : name = k
      · rw [if_pos hname, if_pos (List.mem_cons.2 (Or.inl hname.symm)), hname]
      · rw [if_neg hname, if_neg (by simp [hk, Ne.symm hname])]

/-- Dictionaries of the same names are equal when they have the same values. -/
theorem of_map_eq_iff {names : List String} {f g : String → α} :
    of (names.map fun name => (name, f name)) = of (names.map fun name => (name, g name)) ↔ ∀ name ∈ names, f name = g name := by
  constructor
  · intro h name hname
    have hget := congrArg (fun d : Dict α => d.get? name) h
    simp only [of, get?_extend_map, if_pos hname] at hget
    exact Option.some.inj hget
  · intro h
    rw [List.map_congr_left fun name hname => by rw [h name hname]]

/-- After the values that a dictionary has for some names are copied, these names hold them. -/
theorem get?_extend_copy (d : Dict α) (names : List String) (source : Dict α) (k : String) :
    (d.extend (names.filterMap fun name => (source.get? name).map (Prod.mk name))).get? k =
      if k ∈ names then (source.get? k).or (d.get? k) else d.get? k := by
  induction names generalizing d with
  | nil => rfl
  | cons name names ih =>
    rw [List.filterMap_cons]
    cases hname : source.get? name with
    | none =>
      simp only [Option.map_none, ih, List.mem_cons]
      by_cases hk : k = name
      · subst hk
        simp [hname]
      · simp [hk]
    | some v =>
      simp only [Option.map_some, extend_cons, ih, get?_insert, List.mem_cons]
      by_cases hk : k = name
      · subst hk
        simp [hname]
      · simp [hk, Ne.symm hk]

end Dict

end ModelCatalog
