import Mathlib.Data.List.Basic

/-!
# Lists

Lists in which at most one item has a property, as at most one row of a table has a key, properties of all items, items that may be left
out, and values that all exist.
-/

namespace ModelCatalog

/-! ## One item with a property -/

/-- Where no two items have a property, those that have it are the first found. -/
theorem filter_eq_find? {α : Type} {p : α → Bool} {l : List α} (hp : l.Pairwise fun a b => ¬(p a = true ∧ p b = true)) :
    l.filter p = (l.find? p).toList := by
  induction l with
  | nil => rfl
  | cons a l ih =>
    obtain ⟨ha, hl⟩ := List.pairwise_cons.1 hp
    rw [List.find?_cons]
    split
    · rename_i hpa
      have hnone : l.filter p = [] := List.filter_eq_nil_iff.2 fun b hb hpb => ha b hb ⟨hpa, hpb⟩
      rw [List.filter_cons_of_pos hpa, hnone]
      rfl
    · rename_i hpa
      rw [List.filter_cons_of_neg (by simp [hpa]), ih hl]

/-- Erasing the first item with a property, which no other has, is filtering it out. -/
theorem eraseIdx_findIdx? {α : Type} {p : α → Bool} {l : List α} {i : Nat} (h : l.findIdx? p = some i)
    (hp : l.Pairwise fun a b => ¬(p a = true ∧ p b = true)) : l.eraseIdx i = l.filter fun a => !p a := by
  induction l generalizing i with
  | nil => cases h
  | cons a l ih =>
    obtain ⟨ha, hl⟩ := List.pairwise_cons.1 hp
    rw [List.findIdx?_cons] at h
    split at h
    · rename_i hpa
      cases h
      rw [List.eraseIdx_cons_zero, List.filter_cons_of_neg (by simp [hpa]), List.filter_eq_self.2]
      intro b hb
      simpa [hpa] using ha b hb
    · rename_i hpa
      obtain ⟨j, hj, rfl⟩ := Option.map_eq_some_iff.1 h
      rw [List.eraseIdx_cons_succ, List.filter_cons_of_pos (by simpa using hpa), ih hj hl]

/-- Replacing the first item with a property, which no other has, is replacing each item with it. -/
theorem set_findIdx? {α : Type} {p : α → Bool} {l : List α} {i : Nat} (h : l.findIdx? p = some i) (hi : i < l.length)
    (hp : l.Pairwise fun a b => ¬(p a = true ∧ p b = true)) (f : α → α) :
    l.set i (f l[i]) = l.map fun a => if p a then f a else a := by
  induction l generalizing i with
  | nil => cases h
  | cons a l ih =>
    obtain ⟨ha, hl⟩ := List.pairwise_cons.1 hp
    have h' := h
    rw [List.findIdx?_cons] at h'
    split at h'
    · rename_i hpa
      cases h'
      rw [List.set_cons_zero, List.map_cons, if_pos hpa]
      congr 1
      refine (List.map_id l).symm.trans (List.map_congr_left fun b hb => ?_)
      have hpb : p b ≠ true := fun hpb => ha b hb ⟨hpa, hpb⟩
      rw [if_neg hpb]
      rfl
    · rename_i hpa
      obtain ⟨j, hj, rfl⟩ := Option.map_eq_some_iff.1 h'
      rw [List.set_cons_succ, List.map_cons, if_neg hpa]
      congr 1
      exact ih hj (Nat.lt_of_succ_lt_succ hi) hl

/-! ## All items -/

/-- A property of all items stays as it was when one is replaced by another with the same. -/
theorem map_set_of_eq {α β : Type} {f : α → β} {l : List α} {i : Nat} (hi : i < l.length) {a : α} (h : f a = f l[i]) :
    (l.set i a).map f = l.map f := by
  have hi' : i < (l.map f).length := by rwa [List.length_map]
  have hget : f a = (l.map f)[i] := h.trans (List.getElem_map f).symm
  rw [List.map_set, hget, List.set_getElem_self]

/-- Properties that agree on the items of a list hold of all of them alike. -/
theorem all_congr_of_mem {α : Type} {p q : α → Bool} {l : List α} (h : ∀ a ∈ l, p a = q a) : l.all p = l.all q := by
  rw [Bool.eq_iff_iff, List.all_eq_true, List.all_eq_true]
  exact forall₂_congr fun a ha => by rw [h a ha]

/-- Properties that agree on the items of a list are first had by the same one. -/
theorem findIdx?_congr_of_mem {α : Type} {p q : α → Bool} {l : List α} (h : ∀ a ∈ l, p a = q a) : l.findIdx? p = l.findIdx? q := by
  induction l with
  | nil => rfl
  | cons a l ih =>
    obtain ⟨ha, hl⟩ := List.forall_mem_cons.1 h
    rw [List.findIdx?_cons, List.findIdx?_cons, ha, ih hl]

/-- Items that give nothing may be left out. -/
theorem flatMap_filter_of_nil {α β : Type} {p : α → Bool} {g : α → List β} {l : List α} (h : ∀ a ∈ l, ¬p a = true → g a = []) :
    l.flatMap g = (l.filter p).flatMap g := by
  induction l with
  | nil => rfl
  | cons a l ih =>
    obtain ⟨ha, hl⟩ := List.forall_mem_cons.1 h
    rw [List.flatMap_cons, ih hl]
    by_cases hp : p a = true
    · rw [List.filter_cons_of_pos hp, List.flatMap_cons]
    · rw [List.filter_cons_of_neg hp, ha hp, List.nil_append]

/-! ## Values that all exist -/

/-- Values that all exist are those that exist. -/
theorem filterMap_of_mapM {α β : Type} {f : α → Option β} {l : List α} {bs : List β}
    (h : l.mapM f = some bs) : l.filterMap f = bs := by
  induction l generalizing bs with
  | nil => exact Option.some.inj h
  | cons a l ih =>
    rw [List.mapM_cons] at h
    obtain ⟨b, hb, h⟩ := Option.bind_eq_some_iff.1 h
    obtain ⟨rest, hrest, h⟩ := Option.bind_eq_some_iff.1 h
    rw [List.filterMap_cons_some hb, ih hrest]
    exact Option.some.inj h

/-- Values exist where each does. -/
theorem mapM_of_forall {α β : Type} {f : α → Option β} {g : α → β} {l : List α} (h : ∀ a ∈ l, f a = some (g a)) :
    l.mapM f = some (l.map g) := by
  induction l with
  | nil => rfl
  | cons a l ih =>
    rw [List.mapM_cons, h a List.mem_cons_self, ih fun b hb => h b (List.mem_cons_of_mem _ hb)]
    rfl

end ModelCatalog
