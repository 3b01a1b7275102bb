import ModelCatalog.Files.Workspace
import ModelCatalog.Proofs.Json.Dict

/-!
# Places in a workspace

The place of a path depends on directories only (`SameDirectories.locate_eq`), so it stays the same when files are written, renamed and
removed. A file in a directory has the place of the directory with its name (`locate_joinPath`), and two files in a directory are kept
apart by their names (`key_concat_inj`).
-/

namespace ModelCatalog.Workspace

variable {w w' : Workspace} {place : Place} {name name' : String}

/-- What is kept under a key. -/
def contents (w : Workspace) (key : String) : Option Entry := w.entries.get? key

/-- A name that leads from a directory to something in it. -/
structure IsName (name : String) : Prop where
  ne_empty : name ≠ ""
  ne_dot : name ≠ "."
  ne_dots : name ≠ ".."
  whole : '/' ∉ name.toList

theorem IsName.start_eq (h : IsName name) : start name = [] := by
  have hslash : Text.startsWith name "/" = false := by
    rw [Text.startsWith, Bool.eq_false_iff]
    intro hprefix
    exact h.whole ((List.isPrefixOf_iff_prefix.1 hprefix).subset (List.mem_singleton_self _))
  rw [start, hslash, if_neg Bool.false_ne_true]

/-! ## Keys -/

theorem key_concat (hne : place ≠ []) (name : String) : key (place ++ [name]) = key place ++ "/" ++ name := by
  rw [key, String.intercalate_append_of_ne_nil hne (List.cons_ne_nil _ _), String.intercalate_singleton]
  rfl

/-- What is in a directory is kept under keys as different as its names. -/
theorem key_concat_inj : key (place ++ [name]) = key (place ++ [name']) ↔ name = name' := by
  by_cases hne : place = []
  · subst hne
    simp only [key, List.nil_append, String.intercalate_singleton]
  · rw [key_concat hne, key_concat hne, String.append_right_inj]

/-- What is in a directory by a name of its own is found under its key. -/
theorem found?_concat (w : Workspace) (place : Place) (hname : IsName name) :
    w.found? (place ++ [name]) = w.contents (key (place ++ [name])) := by
  have hground : isGround (place ++ [name]) = false := by
    have hroot : place ++ [name] ≠ [""] := by
      intro h
      have hlast := congrArg List.getLast? h
      rw [List.getLast?_concat] at hlast
      exact hname.ne_empty (Option.some.inj hlast)
    simp [isGround, hroot, hname.ne_dots]
  rw [found?, hground]
  rfl

/-! ## Directories -/

/-- Two workspaces have the same directories. -/
def SameDirectories (w w' : Workspace) : Prop := ∀ k, w'.contents k = some .directory ↔ w.contents k = some .directory

theorem SameDirectories.found?_iff (h : SameDirectories w w') (place : Place) :
    w'.found? place = some .directory ↔ w.found? place = some .directory := by
  unfold found?
  split
  · exact Iff.rfl
  · exact h (key place)

theorem SameDirectories.follow_eq (h : SameDirectories w w') (place : Place) (names : List String) :
    w'.follow place names = w.follow place names := by
  induction names generalizing place with
  | nil => rfl
  | cons name rest ih => simp only [follow, ne_eq, h.found?_iff, ih]

/-- Paths lead to the same places in workspaces with the same directories. -/
theorem SameDirectories.locate_eq (h : SameDirectories w w') (path : String) : w'.locate path = w.locate path :=
  h.follow_eq (start path) (namesOf path)

/-! ## Paths -/

theorem follow_append (w : Workspace) (place : Place) (names names' : List String) :
    w.follow place (names ++ names') = (w.follow place names).bind fun reached => w.follow reached names' := by
  induction names generalizing place with
  | nil => rfl
  | cons name rest ih =>
    simp only [List.cons_append, follow, ih]
    split
    · rfl
    · split
      · rfl
      · split <;> rfl

theorem follow_name (hplace : w.found? place = some .directory) (hname : IsName name) : w.follow place [name] = some (place ++ [name]) := by
  simp [follow, hplace, hname.ne_empty, hname.ne_dot, hname.ne_dots]

theorem namesOf_name (hname : IsName name) : namesOf name = [name] := by
  rw [namesOf, List.splitOn_eq_singleton hname.whole, List.map_singleton, String.ofList_toList]

theorem namesOf_append (path : String) (hname : IsName name) : namesOf (path ++ "/" ++ name) = namesOf path ++ [name] := by
  have hsplit : (path ++ "/" ++ name).toList = path.toList ++ '/' :: name.toList := by simp
  rw [namesOf, hsplit, List.splitOn_append_cons_self, List.map_append]
  exact congrArg (namesOf path ++ ·) (namesOf_name hname)

theorem start_append {path : String} (hne : path ≠ "") (rest : String) : start (path ++ rest) = start path := by
  obtain ⟨c, cs, hcs⟩ := List.exists_cons_of_ne_nil (mt String.toList_eq_nil_iff.1 hne)
  simp [start, Text.startsWith, hcs]

/-- The path of a name in a directory leads there. -/
theorem locate_joinPath {directory : String} (hlocate : w.locate directory = some place) (hplace : w.found? place = some .directory)
    (hname : IsName name) : w.locate (joinPath directory name) = some (place ++ [name]) := by
  unfold joinPath
  split
  · rename_i hempty
    obtain rfl : directory = "" := by simpa using hempty
    obtain rfl : [] = place := Option.some.inj hlocate
    rw [locate, namesOf_name hname, hname.start_eq]
    exact follow_name hplace hname
  · rename_i hne
    have hne : directory ≠ "" := by simpa using hne
    rw [locate, String.append_assoc, start_append hne, ← String.append_assoc, namesOf_append _ hname, follow_append]
    rw [show w.follow (start directory) (namesOf directory) = some place from hlocate]
    exact follow_name hplace hname

end ModelCatalog.Workspace
