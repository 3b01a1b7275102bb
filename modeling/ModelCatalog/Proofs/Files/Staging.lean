import Mathlib.Logic.Function.Basic
import ModelCatalog.Proofs.Files.Places

/-!
# Files on their way into a directory

What a directory holds while files are published in it: once their texts are written under new names (`AreWritten`), when one of them gets its
name (`Replaced`), when all have theirs (`Finished`), and when that is undone (`Undone`). The lemmas say how these go together for a list of
files, and that in the end the files are published (`Finished.published`) or the directory is as before (`Undone.cleared_eq`).
-/

namespace ModelCatalog

open Function Workspace

/-- What is kept under each key. -/
abbrev Contents := String → Option Entry

/-- What is neither a file nor a directory is not there. -/
theorem eq_none_of_ne {e : Option Entry} (hfile : ¬∃ text, e = some (.file text)) (hdirectory : e ≠ some .directory) : e = none := by
  rcases e with _ | ⟨text | _⟩
  · rfl
  · exact absurd ⟨text, rfl⟩ hfile
  · exact absurd rfl hdirectory

/-- Some contents have the directories of a workspace. -/
def HasDirectories (W : Workspace) (C : Contents) : Prop := ∀ k, C k = some .directory ↔ W.contents k = some .directory

/-- What is put under a key that is not that of a directory leaves the directories. -/
theorem HasDirectories.update {W : Workspace} {C : Contents} (h : HasDirectories W C) {k : String} {e : Option Entry}
    (hk : C k ≠ some .directory) (he : e ≠ some .directory) : HasDirectories W (update C k e) := by
  intro k'
  rw [← h k']
  by_cases hk' : k' = k
  · subst hk'
    simp [hk, he]
  · rw [update_of_ne hk']

/-- A workspace has some contents, with the directories of another. -/
structure At (W : Workspace) (C : Contents) (w : Workspace) : Prop where
  contents : w.contents = C
  directories : HasDirectories W C

/-- A path leads to a name in a directory. -/
structure LeadsTo (W : Workspace) (dir : Place) (path name : String) : Prop where
  isName : IsName name
  locate : W.locate path = some (dir ++ [name])

/-- The key of a name in a directory. -/
def slot (dir : Place) (name : String) : String := key (dir ++ [name])

theorem slot_inj {dir : Place} {name name' : String} : slot dir name = slot dir name' ↔ name = name' := key_concat_inj

namespace At

variable {W w w' : Workspace} {C : Contents} {dir : Place} {path name : String}

theorem same (h : At W C w) : SameDirectories W w := fun k => h.contents ▸ h.directories k

theorem found? (h : At W C w) (hpath : LeadsTo W dir path name) : w.found? (dir ++ [name]) = C (slot dir name) := by
  rw [found?_concat w dir hpath.isName, h.contents, slot]

theorem locate (h : At W C w) (hpath : LeadsTo W dir path name) : w.locate path = some (dir ++ [name]) := by
  rw [h.same.locate_eq, hpath.locate]

theorem at? (h : At W C w) (hpath : LeadsTo W dir path name) : w.at? path = C (slot dir name) := by
  rw [Workspace.at?, h.locate hpath]
  exact h.found? hpath

end At

/-! ## Written files -/

/-- A text that is written for a file: the name of the file, and the path, the name and the text of what is written. -/
structure Staged where
  name : String
  path : String
  tmp : String
  text : String

/-- Texts are written under new names, each under its own. -/
structure AreWritten (W : Workspace) (dir : Place) (C : Contents) (xs : List Staged) : Prop where
  leadsTo : ∀ x ∈ xs, LeadsTo W dir x.path x.tmp
  dotted : ∀ x ∈ xs, Text.startsWith x.tmp "." = true
  written : ∀ x ∈ xs, C (slot dir x.tmp) = some (.file x.text)
  nodup : (xs.map Staged.tmp).Nodup

/-- Nothing else has been written since the contents were `C₀`. -/
structure AreNew (dir : Place) (xs : List Staged) (C₀ C : Contents) : Prop where
  absent : ∀ x ∈ xs, C₀ (slot dir x.tmp) = none
  others : ∀ k, (∀ x ∈ xs, k ≠ slot dir x.tmp) → C k = C₀ k

/-- Names of files to publish: none begins with a dot, and none comes twice. -/
structure ArePublic (names : List String) : Prop where
  isName : ∀ name ∈ names, IsName name
  undotted : ∀ name ∈ names, Text.startsWith name "." = false
  nodup : names.Nodup

theorem ArePublic.tail {name : String} {names : List String} (h : ArePublic (name :: names)) : ArePublic names where
  isName n hn := h.isName n (List.mem_cons_of_mem _ hn)
  undotted n hn := h.undotted n (List.mem_cons_of_mem _ hn)
  nodup := (List.nodup_cons.1 h.nodup).2

/-- A name that begins with a dot is not published. -/
theorem ArePublic.slot_ne {dir : Place} {names : List String} (h : ArePublic names) {name tmp : String} (hname : name ∈ names)
    (htmp : Text.startsWith tmp "." = true) : slot dir tmp ≠ slot dir name := by
  intro heq
  have hdot := h.undotted name hname
  rw [← slot_inj.1 heq, htmp] at hdot
  cases hdot

section

variable {W : Workspace} {dir : Place} {x : Staged} {xs : List Staged} {C₀ C₁ C C' : Contents}

theorem AreWritten.nil : AreWritten W dir C [] := ⟨nofun, nofun, nofun, .nil⟩

theorem AreNew.nil : AreNew dir [] C C := ⟨nofun, fun _ _ => rfl⟩

/-- Where there is nothing, nothing is written. -/
theorem AreWritten.ne_tmp (h : AreWritten W dir C xs) {k : String} (hnone : C k = none) (hx : x ∈ xs) : k ≠ slot dir x.tmp := by
  rintro rfl
  rw [h.written x hx] at hnone
  cases hnone

/-- A text is written under a new name, and then others are. -/
theorem AreWritten.cons (h : AreWritten W dir C xs) (hnew : AreNew dir xs (update C₀ (slot dir x.tmp) (some (.file x.text))) C)
    (hpath : LeadsTo W dir x.path x.tmp) (hdotted : Text.startsWith x.tmp "." = true) : AreWritten W dir C (x :: xs) := by
  have hne : ∀ y ∈ xs, slot dir x.tmp ≠ slot dir y.tmp := by
    intro y hy heq
    have habsent := hnew.absent y hy
    rw [← heq, update_self] at habsent
    cases habsent
  refine ⟨List.forall_mem_cons.2 ⟨hpath, h.leadsTo⟩, List.forall_mem_cons.2 ⟨hdotted, h.dotted⟩,
    List.forall_mem_cons.2 ⟨?_, h.written⟩, ?_⟩
  · rw [hnew.others _ hne, update_self]
  · refine List.nodup_cons.2 ⟨fun hmem => ?_, h.nodup⟩
    obtain ⟨y, hy, heq⟩ := List.mem_map.1 hmem
    exact hne y hy (slot_inj.2 heq.symm)

theorem AreNew.cons (hnew : AreNew dir xs (update C₀ (slot dir x.tmp) (some (.file x.text))) C) (habsent : C₀ (slot dir x.tmp) = none) :
    AreNew dir (x :: xs) C₀ C := by
  obtain ⟨habsent', hothers⟩ := hnew
  constructor <;> grind

/-- What is taken away first, before the others are, is gone with them. -/
theorem AreNew.of_tail (hnew : AreNew dir xs C₀ (update C (slot dir x.tmp) none)) : AreNew dir (x :: xs) C₀ C := by
  obtain ⟨habsent, hothers⟩ := hnew
  constructor <;> grind

end

/-! ## One file in its place -/

/-- The contents once a written file has the name that it is for. -/
def Staged.placed (dir : Place) (x : Staged) (C : Contents) : Contents :=
  update (update C (slot dir x.tmp) none) (slot dir x.name) (some (.file x.text))

theorem Staged.placed_of_ne {dir : Place} {x : Staged} {C : Contents} {k : String} (htmp : k ≠ slot dir x.tmp)
    (hname : k ≠ slot dir x.name) : x.placed dir C k = C k := by
  rw [placed, update_of_ne hname, update_of_ne htmp]

/-- What a written file does when it gets its name: it takes a free one, or that of a file which is kept under a new name. -/
inductive Replaced (W : Workspace) (dir : Place) (x : Staged) (C : Contents) : Option String → Contents → Prop where
  | free (hname : C (slot dir x.name) = none) : Replaced W dir x C none (x.placed dir C)
  | kept (aside old text : String) (haside : LeadsTo W dir aside old) (hdotted : Text.startsWith old "." = true)
      (hold : C (slot dir old) = none) (hname : C (slot dir x.name) = some (.file text)) :
      Replaced W dir x C (some aside) (x.placed dir (update C (slot dir old) (some (.file text))))

/-- The file has its name. -/
theorem Replaced.name_eq {W : Workspace} {dir : Place} {x : Staged} {C C₁ : Contents} {previous : Option String}
    (h : Replaced W dir x C previous C₁) : C₁ (slot dir x.name) = some (.file x.text) := by
  cases h <;> exact update_self _ _ _

/-! ## All files in their places -/

/-- All files have their names. -/
structure Finished (dir : Place) (xs : List Staged) (C C' : Contents) : Prop where
  placed : ∀ x ∈ xs, C' (slot dir x.name) = some (.file x.text)
  moved : ∀ x ∈ xs, C' (slot dir x.tmp) = none
  others : ∀ k, (∀ x ∈ xs, k ≠ slot dir x.name ∧ k ≠ slot dir x.tmp) → C' k = C k

/-- Everything is as before, except that some of the written files may be gone. -/
structure Undone (dir : Place) (xs : List Staged) (C C' : Contents) : Prop where
  gone : ∀ x ∈ xs, C' (slot dir x.tmp) = C (slot dir x.tmp) ∨ C' (slot dir x.tmp) = none
  others : ∀ k, (∀ x ∈ xs, k ≠ slot dir x.tmp) → C' k = C k

section

variable {W : Workspace} {dir : Place} {x : Staged} {xs : List Staged} {C C₁ C₂ : Contents} {previous : Option String}
  (h : AreWritten W dir C (x :: xs)) (hpublic : ArePublic ((x :: xs).map Staged.name))

include h hpublic

/-- The names of one file are kept apart from each other and from those of the others. -/
theorem AreWritten.apart :
    (∀ y ∈ x :: xs, ∀ z ∈ x :: xs, slot dir y.tmp ≠ slot dir z.name) ∧ (∀ y ∈ xs, slot dir y.tmp ≠ slot dir x.tmp) ∧
      ∀ y ∈ xs, slot dir y.name ≠ slot dir x.name :=
  ⟨fun y hy _ hz => hpublic.slot_ne (List.mem_map_of_mem hz) (h.dotted y hy),
    fun _ hy heq => (List.nodup_cons.1 h.nodup).1 (slot_inj.1 heq ▸ List.mem_map_of_mem hy),
    fun _ hy heq => (List.nodup_cons.1 hpublic.nodup).1 (slot_inj.1 heq ▸ List.mem_map_of_mem hy)⟩

/-- The other files are still written when one has its name. -/
theorem AreWritten.tail (hreplaced : Replaced W dir x C previous C₁) : AreWritten W dir C₁ xs where
  leadsTo y hy := h.leadsTo y (List.mem_cons_of_mem _ hy)
  dotted y hy := h.dotted y (List.mem_cons_of_mem _ hy)
  written y hy := by
    have hwritten := h.written y (List.mem_cons_of_mem _ hy)
    obtain ⟨htmpName, htmpTmp, -⟩ := h.apart hpublic
    have hname := htmpName y (List.mem_cons_of_mem _ hy) x List.mem_cons_self
    cases hreplaced with
    | free => rw [Staged.placed, update_of_ne hname, update_of_ne (htmpTmp y hy), hwritten]
    | kept aside old text haside hdotted hold =>
      rw [Staged.placed, update_of_ne hname, update_of_ne (htmpTmp y hy), update_of_ne, hwritten]
      exact (h.ne_tmp hold (List.mem_cons_of_mem _ hy)).symm
  nodup := (List.nodup_cons.1 h.nodup).2

/-- A file that took a free name is taken away after the others are undone. -/
theorem Undone.free (hundone : Undone dir xs (x.placed dir C) C₂) (hname : C (slot dir x.name) = none) :
    Undone dir (x :: xs) C (update C₂ (slot dir x.name) none) := by
  obtain ⟨htmpName, htmpTmp, -⟩ := h.apart hpublic
  obtain ⟨hgone, hothers⟩ := hundone
  simp only [Staged.placed] at hgone hothers
  constructor <;> grind

/-- A file that was kept gets its name back after the others are undone. -/
theorem Undone.kept {old text : String} (hundone : Undone dir xs (x.placed dir (update C (slot dir old) (some (.file text)))) C₂)
    (hold : C (slot dir old) = none) (hname : C (slot dir x.name) = some (.file text)) :
    Undone dir (x :: xs) C (update (update C₂ (slot dir old) none) (slot dir x.name) (some (.file text))) := by
  obtain ⟨htmpName, htmpTmp, -⟩ := h.apart hpublic
  have hwritten := h.written
  obtain ⟨hgone, hothers⟩ := hundone
  simp only [Staged.placed] at hgone hothers
  constructor <;> grind

/-- A file took a free name, and the others got theirs. -/
theorem Finished.free (hfinished : Finished dir xs (x.placed dir C) C₂) : Finished dir (x :: xs) C C₂ := by
  obtain ⟨htmpName, htmpTmp, hnames⟩ := h.apart hpublic
  obtain ⟨hplaced, hmoved, hothers⟩ := hfinished
  simp only [Staged.placed] at hothers
  constructor <;> grind

/-- A file took the name of one that was kept, the others got theirs, and what was kept is gone. -/
theorem Finished.kept {old text : String} (hfinished : Finished dir xs (x.placed dir (update C (slot dir old) (some (.file text)))) C₂)
    (hdotted : Text.startsWith old "." = true) (hold : C (slot dir old) = none) :
    Finished dir (x :: xs) C (update C₂ (slot dir old) none) := by
  obtain ⟨htmpName, htmpTmp, hnames⟩ := h.apart hpublic
  have holdName : ∀ y ∈ x :: xs, slot dir old ≠ slot dir y.name := fun y hy => hpublic.slot_ne (List.mem_map_of_mem hy) hdotted
  have hwritten := h.written
  obtain ⟨hplaced, hmoved, hothers⟩ := hfinished
  simp only [Staged.placed] at hothers
  constructor <;> grind

end

/-! ## Before and after -/

/-- Files are in a directory, and all else is as before. -/
structure Published (dir : Place) (files : List (String × String)) (C C' : Contents) : Prop where
  published : ∀ file ∈ files, C' (slot dir file.1) = some (.file file.2)
  others : ∀ k, (∀ file ∈ files, k ≠ slot dir file.1) → C' k = C k

section

variable {dir : Place} {xs : List Staged} {C₀ C C₁ C₂ : Contents}

/-- When all written files have their names, their texts are published. -/
theorem Finished.published (h : Finished dir xs C C₁) (hnew : AreNew dir xs C₀ C) :
    Published dir (xs.map fun x => (x.name, x.text)) C₀ C₁ := by
  obtain ⟨hplaced, hmoved, hothers⟩ := h
  obtain ⟨habsent, hbefore⟩ := hnew
  constructor
  · simpa using hplaced
  · intro k hk
    simp only [List.forall_mem_map] at hk
    by_cases htmp : ∃ x ∈ xs, k = slot dir x.tmp
    · obtain ⟨x, hx, rfl⟩ := htmp
      rw [hmoved x hx, habsent x hx]
    · push Not at htmp
      rw [hothers k fun x hx => ⟨hk x hx, htmp x hx⟩, hbefore k htmp]

/-- When all is undone and the written files are taken away, then all is as before. -/
theorem Undone.cleared_eq (h : Undone dir xs C C₁) (hnew : AreNew dir xs C₀ C) (hcleared : AreNew dir xs C₂ C₁) : C₂ = C₀ := by
  funext k
  by_cases htmp : ∃ x ∈ xs, k = slot dir x.tmp
  · obtain ⟨x, hx, rfl⟩ := htmp
    rw [hcleared.absent x hx, hnew.absent x hx]
  · push Not at htmp
    rw [← hcleared.others k htmp, h.others k htmp, hnew.others k htmp]

end

end ModelCatalog
