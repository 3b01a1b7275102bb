import Mathlib.Data.List.Forall2
import ModelCatalog.Failure

/-!
# Outcomes of steps taken one after another

Inversion of `Outcome`: what a sequence of steps that ends well says about each of its steps.
-/

namespace ModelCatalog

namespace Outcome

variable {α β : Type}

theorem bind_ok_iff {x : Outcome α} {f : α → Outcome β} {b : β} : (x >>= f) = .ok b ↔ ∃ a, x = .ok a ∧ f a = .ok b := by
  cases x with
  | error e => exact ⟨nofun, nofun⟩
  | ok a =>
    constructor
    · intro h
      exact ⟨a, rfl, h⟩
    · rintro ⟨a', h, h'⟩
      cases h
      exact h'

theorem bind_error_iff {x : Outcome α} {f : α → Outcome β} :
    (∃ e, (x >>= f) = .error e) ↔ (∃ e, x = .error e) ∨ ∃ a, x = .ok a ∧ ∃ e, f a = .error e := by
  cases x with
  | error e => exact ⟨fun _ => Or.inl ⟨e, rfl⟩, fun _ => ⟨e, rfl⟩⟩
  | ok a =>
    constructor
    · intro h
      exact Or.inr ⟨a, rfl, h⟩
    · rintro (⟨e, h⟩ | ⟨a', h, h'⟩)
      · cases h
      · cases h
        exact h'

theorem map_error_iff {x : Outcome α} {f : α → β} : (∃ e, x.map f = .error e) ↔ ∃ e, x = .error e := by
  cases x <;> simp [Except.map]

theorem map_ok_iff {x : Outcome α} {f : α → β} {b : β} : x.map f = .ok b ↔ ∃ a, x = .ok a ∧ f a = b := by
  cases x <;> simp [Except.map]

theorem map_toOption_eq_some_iff {x : Outcome α} {f : α → β} {b : β} :
    x.toOption.map f = some b ↔ ∃ a, x = .ok a ∧ f a = b := by
  cases x <;> simp [Except.toOption]

theorem isSome_toOption_iff {x : Outcome α} : x.toOption.isSome = true ↔ ∃ a, x = .ok a := by
  cases x <;> simp [Except.toOption]

theorem pure_ok_iff {a b : α} : (pure a : Outcome α) = .ok b ↔ a = b := by
  simp [pure, Except.pure]

/-- What a step gives for each item, in order. -/
theorem mapM_ok {f : α → Outcome β} {l : List α} {bs : List β} (h : l.mapM f = .ok bs) :
    List.Forall₂ (fun a b => f a = .ok b) l bs := by
  induction l generalizing bs with
  | nil =>
    rw [List.mapM_nil, pure_ok_iff] at h
    subst h
    exact .nil
  | cons a l ih =>
    rw [List.mapM_cons, bind_ok_iff] at h
    obtain ⟨b, hb, h⟩ := h
    obtain ⟨rest, hrest, h⟩ := bind_ok_iff.1 h
    rw [pure_ok_iff] at h
    subst h
    exact .cons hb (ih hrest)

/-- Steps for all items fail when one of them does. -/
theorem mapM_error_iff {f : α → Outcome β} {l : List α} : (∃ e, l.mapM f = .error e) ↔ ∃ a ∈ l, ∃ e, f a = .error e := by
  induction l with
  | nil => exact ⟨nofun, nofun⟩
  | cons a l ih =>
    have hrest : ∀ b, (∃ e, (l.mapM f >>= fun bs => pure (b :: bs)) = .error e) ↔ ∃ e, l.mapM f = .error e := by
      intro b
      rw [bind_error_iff]
      exact or_iff_left (by rintro ⟨bs, -, e, he⟩; cases he)
    rw [List.mapM_cons, bind_error_iff]
    simp only [hrest, ih, List.exists_mem_cons_iff]
    constructor
    · rintro (ha | ⟨b, -, hl⟩)
      · exact Or.inl ha
      · exact Or.inr hl
    · rintro (ha | hl)
      · exact Or.inl ha
      · cases ha : f a with
        | error e => exact Or.inl ⟨e, rfl⟩
        | ok b => exact Or.inr ⟨b, rfl, hl⟩

theorem mapM_congr {f g : α → Outcome β} {l : List α} (h : ∀ a ∈ l, g a = f a) : l.mapM g = l.mapM f := by
  induction l with
  | nil => rfl
  | cons a l ih => rw [List.mapM_cons, List.mapM_cons, h a List.mem_cons_self, ih fun b hb => h b (List.mem_cons_of_mem _ hb)]

/-- Two ways to take steps that end well give the same when they do for each item. -/
theorem mapM_eq_ok_iff {f g : α → Outcome β} {l : List α} {bs : List β} (h : l.mapM f = .ok bs) :
    l.mapM g = .ok bs ↔ ∀ a ∈ l, g a = f a := by
  refine ⟨fun h' => ?_, fun heq => (mapM_congr heq).trans h⟩
  have hall := mapM_ok h
  have hall' := mapM_ok h'
  clear h h'
  induction hall with
  | nil => exact nofun
  | cons hab _ ih =>
    cases hall' with
    | cons hab' hrest' => exact List.forall_mem_cons.2 ⟨hab'.trans hab.symm, ih hrest'⟩

/-- Steps for all items end well when each does. -/
theorem forM_ok_iff {f : α → Outcome Unit} {l : List α} : l.forM f = .ok () ↔ ∀ a ∈ l, f a = .ok () := by
  induction l with
  | nil => exact ⟨fun _ => nofun, fun _ => rfl⟩
  | cons a l ih =>
    rw [List.forM, bind_ok_iff, List.forall_mem_cons, ← ih]
    exact ⟨fun ⟨_, ha, hl⟩ => ⟨ha, hl⟩, fun ⟨ha, hl⟩ => ⟨(), ha, hl⟩⟩

theorem exists_of_mapM_ok {f : α → Outcome β} {l : List α} {bs : List β} (h : l.mapM f = .ok bs) {a : α} (ha : a ∈ l) :
    ∃ b ∈ bs, f a = .ok b := by
  have hall := mapM_ok h
  clear h
  induction hall with
  | nil => cases ha
  | cons hab _ ih =>
    rcases List.mem_cons.1 ha with rfl | ha
    · exact ⟨_, List.mem_cons_self, hab⟩
    · obtain ⟨b, hb, hfb⟩ := ih ha
      exact ⟨b, List.mem_cons_of_mem _ hb, hfb⟩

theorem exists_of_mem_mapM_ok {f : α → Outcome β} {l : List α} {bs : List β} (h : l.mapM f = .ok bs) {b : β} (hb : b ∈ bs) :
    ∃ a ∈ l, f a = .ok b := by
  have hall := mapM_ok h
  clear h
  induction hall with
  | nil => cases hb
  | cons hab _ ih =>
    rcases List.mem_cons.1 hb with rfl | hb
    · exact ⟨_, List.mem_cons_self, hab⟩
    · obtain ⟨a, ha, hfa⟩ := ih hb
      exact ⟨a, List.mem_cons_of_mem _ ha, hfa⟩

/-- Steps for all items end well with things of a kind when each does. -/
theorem exists_mapM_ok_iff {f : α → Outcome β} {l : List α} {P : β → Prop} :
    (∃ bs, l.mapM f = .ok bs ∧ ∀ b ∈ bs, P b) ↔ ∀ a ∈ l, ∃ b, f a = .ok b ∧ P b := by
  constructor
  · rintro ⟨bs, h, hP⟩ a ha
    obtain ⟨b, hb, hab⟩ := exists_of_mapM_ok h ha
    exact ⟨b, hab, hP b hb⟩
  · intro h
    cases hbs : l.mapM f with
    | error e =>
      obtain ⟨a, ha, e, he⟩ := mapM_error_iff.1 ⟨e, hbs⟩
      obtain ⟨b, hb, -⟩ := h a ha
      rw [hb] at he
      cases he
    | ok bs =>
      refine ⟨bs, rfl, fun b hb => ?_⟩
      obtain ⟨a, ha, hab⟩ := exists_of_mem_mapM_ok hbs hb
      obtain ⟨b', hb', hP⟩ := h a ha
      obtain rfl := Except.ok.inj (hab.symm.trans hb')
      exact hP

/-- Steps for all items end well when each does. -/
theorem exists_mapM_iff {f : α → Outcome β} {l : List α} : (∃ bs, l.mapM f = .ok bs) ↔ ∀ a ∈ l, ∃ b, f a = .ok b := by
  simpa using exists_mapM_ok_iff (f := f) (l := l) (P := fun _ => True)

/-- What each step keeps of its item, the whole list keeps. -/
theorem map_eq_of_mapM_ok {γ : Type} {f : α → Outcome β} {l : List α} {bs : List β} (h : l.mapM f = .ok bs) (g : α → γ)
    (g' : β → γ) (hg : ∀ a b, f a = .ok b → g' b = g a) : bs.map g' = l.map g := by
  have hall := mapM_ok h
  clear h
  induction hall with
  | nil => rfl
  | cons hab _ ih => rw [List.map_cons, List.map_cons, hg _ _ hab, ih]

/-- What holds at first and is kept by each step holds at the end. -/
theorem foldlM_ok {f : β → α → Outcome β} (P : β → Prop) {l : List α} {b b' : β} (h : l.foldlM f b = .ok b') (hb : P b)
    (step : ∀ c, P c → ∀ a ∈ l, ∀ c', f c a = .ok c' → P c') : P b' := by
  induction l generalizing b with
  | nil =>
    rw [List.foldlM_nil, pure_ok_iff] at h
    subst h
    exact hb
  | cons a l ih =>
    rw [List.foldlM_cons, bind_ok_iff] at h
    obtain ⟨c, hc, h⟩ := h
    exact ih h (step b hb a List.mem_cons_self c hc) fun c hc a ha => step c hc a (List.mem_cons_of_mem _ ha)

/-- Steps that join what each item gives to what there is: first all items give something, then it is joined. -/
theorem foldlM_map_eq {γ : Type} (f : β → γ → β) (g : α → Outcome γ) (l : List α) (b : β) :
    l.foldlM (fun b a => (g a).map (f b)) b = (l.mapM g).map (List.foldl f b) := by
  induction l generalizing b with
  | nil => rfl
  | cons a l ih =>
    rw [List.foldlM_cons, List.mapM_cons]
    cases g a with
    | error e => rfl
    | ok c =>
      change l.foldlM _ (f b c) = _
      rw [ih]
      cases l.mapM g <;> rfl

end Outcome

end ModelCatalog
