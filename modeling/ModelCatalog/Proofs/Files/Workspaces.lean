import Mathlib.Data.List.Nodup
import Mathlib.Data.List.Perm.Subperm
import ModelCatalog.Proofs.Files.FileSystems

/-!
# Workspaces are file systems

`Workspace.isFileSystem`: what is relied on of file systems holds of workspaces, so what is shown of every file system is shown of them.
-/

namespace ModelCatalog.Workspace

open Function

variable {w w' w'' : Workspace} {place : Place}

/-! ## Entries -/

theorem contents_put (w : Workspace) (place : Place) (e : Entry) :
    (w.put place e).contents = update w.contents (key place) (some e) := by
  funext k
  rw [contents, put, Entries.get?_insert, update_apply]
  simp only [eq_comm, contents]

theorem found?_of_ground (h : isGround place = true) (w : Workspace) : w.found? place = some .directory := by
  rw [found?, h, if_pos rfl]

theorem found?_of_not_ground (h : isGround place = false) (w : Workspace) : w.found? place = w.contents (key place) := by
  rw [found?, h, if_neg Bool.false_ne_true, contents]

/-- What is not a directory is an entry. -/
theorem contents_of_found? (h : w.found? place ≠ some .directory) : w.contents (key place) = w.found? place := by
  cases hground : isGround place with
  | true => exact absurd (found?_of_ground hground w) h
  | false => exact (found?_of_not_ground hground w).symm

theorem found?_put_directory (w : Workspace) (place : Place) : (w.put place .directory).found? place = some .directory := by
  cases hground : isGround place with
  | true => exact found?_of_ground hground _
  | false => rw [found?_of_not_ground hground, contents_put, update_self]

theorem SameDirectories.put (h : w.found? place ≠ some .directory) (text : String) : w.SameDirectories (w.put place (.file text)) := by
  intro k
  rw [contents_put, update_apply]
  split
  · rename_i hk
    simp [hk, contents_of_found? h, h]
  · exact Iff.rfl

/-! ## New directories -/

namespace AddsDirectories

theorem refl (w : Workspace) : w.AddsDirectories w := fun _ => Or.inl rfl

theorem trans (h : w.AddsDirectories w') (h' : w'.AddsDirectories w'') : w.AddsDirectories w'' := by
  intro k
  rcases h' k with hk' | ⟨hk', hk''⟩ <;> rcases h k with hk | ⟨hk, hk₁⟩
  · exact Or.inl (hk'.trans hk)
  · exact Or.inr ⟨hk, hk'.trans hk₁⟩
  · exact Or.inr ⟨hk ▸ hk', hk''⟩
  · exact Or.inr ⟨hk, hk''⟩

/-- A directory is put where there is nothing. -/
theorem put (h : w.found? place = none) : w.AddsDirectories (w.put place .directory) := by
  intro k
  rw [contents_put, update_apply]
  split
  · rename_i hk
    exact Or.inr ⟨by rw [hk, contents_of_found? (by simp [h]), h], rfl⟩
  · exact Or.inl rfl

/-- Directories stay. -/
theorem found? (h : w.AddsDirectories w') (hplace : w.found? place = some .directory) : w'.found? place = some .directory := by
  cases hground : isGround place with
  | true => exact found?_of_ground hground w'
  | false =>
    rw [found?_of_not_ground hground] at hplace ⊢
    rcases h (key place) with hk | ⟨hk, -⟩
    · exact hk.trans hplace
    · rw [hk] at hplace
      cases hplace

end AddsDirectories

/-- A place and all that it lies in are directories. -/
def Reached (w : Workspace) (place : Place) : Prop := ∀ outer, outer <+: place → w.found? outer = some .directory

namespace Reached

theorem concat {name : String} (h : w.Reached place) (hname : w.found? (place ++ [name]) = some .directory) :
    w.Reached (place ++ [name]) := by
  intro outer houter
  rcases List.prefix_concat_iff.1 houter with rfl | houter
  · exact hname
  · exact h outer houter

theorem start (w : Workspace) (path : String) : w.Reached (start path) := by
  have hnil : w.Reached [] := fun outer houter => List.prefix_nil.1 houter ▸ found?_of_ground rfl w
  unfold Workspace.start
  split
  · exact hnil.concat (found?_of_ground rfl w)
  · exact hnil

theorem above (h : w.Reached place) : w.Reached (above place) := by
  unfold Workspace.above
  split
  · exact h
  · split
    · rename_i hdots
      exact h.concat (found?_of_ground (by simpa [isGround] using Or.inr hdots) w)
    · exact fun outer houter => h outer (houter.trans (List.dropLast_prefix place))

theorem adds (h : w.Reached place) (hw : w.AddsDirectories w') : w'.Reached place := fun outer houter => hw.found? (h outer houter)

end Reached

/-- The directories on the way are made and nothing else. -/
theorem makeAlong_adds (w : Workspace) (place : Place) (names : List String) : w.AddsDirectories (w.makeAlong place names).2 := by
  fun_induction makeAlong w place names with
  | case1 => exact .refl _
  | case2 _ _ _ _ _ ih => exact ih
  | case3 _ _ _ _ ih => exact ih
  | case4 => exact .refl _
  | case5 _ _ _ _ _ _ _ _ _ ih => exact ih
  | case6 => exact .refl _
  | case7 _ _ _ _ _ _ _ _ hnone ih => exact (AddsDirectories.put hnone).trans ih

theorem adds_of_makeAlong {names : List String} {result : Except Failure Unit} (hmade : w.makeAlong place names = (result, w')) :
    w.AddsDirectories w' := by
  have hadds := w.makeAlong_adds place names
  rwa [hmade] at hadds

/-- When the directories on the way are made, then the way leads to a directory. -/
theorem follow_makeAlong {names : List String} (hplace : w.Reached place) (hmade : w.makeAlong place names = (.ok (), w')) :
    ∃ reached, w'.follow place names = some reached ∧ w'.found? reached = some .directory := by
  have hadds := adds_of_makeAlong hmade
  have hhere : w'.found? place = some .directory := hadds.found? (hplace place (List.prefix_refl place))
  -- the next name is none, leads nowhere else, leads up, is too long, or is that of a directory, of a file or of nothing
  fun_induction makeAlong w place names with
  | case1 =>
    cases hmade
    exact ⟨_, rfl, hhere⟩
  | case2 w place name rest hskip ih =>
    rw [follow, if_neg (not_not.2 hhere), if_pos hskip]
    exact ih hplace hmade hadds hhere
  | case3 w place rest hskip ih =>
    rw [follow, if_neg (not_not.2 hhere), if_neg hskip, if_pos rfl]
    exact ih hplace.above hmade hadds (hadds.found? (hplace.above _ (List.prefix_refl _)))
  | case4 => cases hmade
  | case5 w place name rest hskip hup hshort next hfound ih =>
    rw [follow, if_neg (not_not.2 hhere), if_neg hskip, if_neg hup]
    exact ih (hplace.concat hfound) hmade hadds (hadds.found? hfound)
  | case6 => cases hmade
  | case7 w place name rest hskip hup hshort next hfound ih =>
    have hnext := (hplace.adds (.put hfound)).concat (found?_put_directory w next)
    have hlater := adds_of_makeAlong hmade
    rw [follow, if_neg (not_not.2 hhere), if_neg hskip, if_neg hup]
    exact ih hnext hmade hlater (hlater.found? (found?_put_directory w next))

/-- A way to a directory begins in one. -/
theorem found?_of_follow {names : List String} {reached : Place} (hfollow : w.follow place names = some reached)
    (hdirectory : w.found? reached = some .directory) : w.found? place = some .directory := by
  cases names with
  | nil =>
    cases hfollow
    exact hdirectory
  | cons name rest =>
    rw [follow] at hfollow
    split at hfollow
    · cases hfollow
    · exact not_not.1 ‹_›

/-- Where a way leads to a directory, nothing is made. -/
theorem makeAlong_of_follow {names : List String} {reached : Place} (hfollow : w.follow place names = some reached)
    (hdirectory : w.found? reached = some .directory) : (w.makeAlong place names).2 = w := by
  have hhere := found?_of_follow hfollow hdirectory
  fun_induction makeAlong w place names with
  | case1 => rfl
  | case2 w place name rest hskip ih =>
    rw [follow, if_neg (not_not.2 hhere), if_pos hskip] at hfollow
    exact ih hfollow hdirectory hhere
  | case3 w place rest hskip ih =>
    rw [follow, if_neg (not_not.2 hhere), if_neg hskip, if_pos rfl] at hfollow
    exact ih hfollow hdirectory (found?_of_follow hfollow hdirectory)
  | case4 => rfl
  | case5 w place name rest hskip hup hshort next hfound ih =>
    rw [follow, if_neg (not_not.2 hhere), if_neg hskip, if_neg hup] at hfollow
    exact ih hfollow hdirectory hfound
  | case6 => rfl
  | case7 w place name rest hskip hup hshort next hfound ih =>
    rw [follow, if_neg (not_not.2 hhere), if_neg hskip, if_neg hup] at hfollow
    have hnext := found?_of_follow hfollow hdirectory
    rw [hfound] at hnext
    cases hnext

/-- Empty names and dots lead nowhere else. -/
theorem follow_filter {names : List String} {reached : Place} (keep : String → Bool)
    (hkeep : ∀ name, keep name = false → name = "" ∨ name = ".") (hfollow : w.follow place names = some reached) :
    w.follow place (names.filter keep) = some reached := by
  induction names generalizing place with
  | nil => exact hfollow
  | cons name rest ih =>
    rw [follow] at hfollow
    split at hfollow
    · cases hfollow
    · rename_i hplace
      rw [List.filter_cons]
      cases hname : keep name with
      | false =>
        rw [if_pos (hkeep name hname)] at hfollow
        exact ih hfollow
      | true =>
        rw [if_pos rfl, follow, if_neg hplace]
        split_ifs at hfollow ⊢ <;> exact ih hfollow

/-- A way to a directory may have empty names. -/
theorem follow_of_filter {names : List String} {reached : Place} (hfollow : w.follow place (names.filter (· ≠ "")) = some reached)
    (hdirectory : w.found? reached = some .directory) : w.follow place names = some reached := by
  induction names generalizing place with
  | nil => exact hfollow
  | cons name rest ih =>
    have hplace := found?_of_follow hfollow hdirectory
    rw [follow, if_neg (not_not.2 hplace)]
    by_cases hname : name = ""
    · rw [if_pos (Or.inl hname)]
      subst hname
      exact ih hfollow
    · rw [List.filter_cons_of_pos (by simpa using hname), follow, if_neg (not_not.2 hplace)] at hfollow
      split_ifs at hfollow ⊢ <;> exact ih hfollow

/-- A way to a directory leads through one before its last name. -/
theorem follow_dropLast {names : List String} {reached : Place} (hfollow : w.follow place names = some reached)
    (hdirectory : w.found? reached = some .directory) :
    ∃ last, w.follow place names.dropLast = some last ∧ w.found? last = some .directory := by
  rcases List.eq_nil_or_concat names with rfl | ⟨first, name, rfl⟩
  · exact ⟨reached, hfollow, hdirectory⟩
  · rw [List.concat_eq_append, follow_append] at hfollow
    obtain ⟨last, hfirst, hlast⟩ := Option.bind_eq_some_iff.1 hfollow
    rw [List.concat_eq_append, List.dropLast_concat]
    exact ⟨last, hfirst, found?_of_follow hlast hdirectory⟩

/-! ## Making directories -/

theorem at?_eq_some_iff {path : String} {e : Entry} :
    w.at? path = some e ↔ ∃ place, w.locate path = some place ∧ w.found? place = some e :=
  Option.bind_eq_some_iff

theorem makeDirectory_adds (w : Workspace) (path : String) : w.AddsDirectories (w.makeDirectory path).2 := by
  unfold makeDirectory
  split
  · exact .refl w
  · dsimp only
    split
    · split
      · have hadds := adds_of_makeAlong ‹_›
        split <;> exact hadds
      · exact w.makeAlong_adds _ _
    · exact w.makeAlong_adds _ _

theorem at?_makeDirectory {path : String} (hmade : w.makeDirectory path = (.ok (), w')) : w'.at? path = some .directory := by
  unfold makeDirectory at hmade
  split at hmade
  · cases hmade
  · dsimp only at hmade
    split at hmade
    · split at hmade
      · split at hmade
        · cases hmade
          assumption
        · cases hmade
      · rename_i hfailed
        exact (hfailed w' hmade).elim
    · obtain ⟨reached, hfollow, hreached⟩ := follow_makeAlong (.start w path) hmade
      exact at?_eq_some_iff.2 ⟨reached, follow_of_filter hfollow hreached, hreached⟩

theorem makeDirectory_of_at? {path : String} (hpath : w.at? path = some .directory) : (w.makeDirectory path).2 = w := by
  obtain ⟨place, hlocate, hplace⟩ := at?_eq_some_iff.1 hpath
  unfold makeDirectory
  split
  · rfl
  · have hnames : w.follow (start path) ((namesOf path).filter (· ≠ "")) = some place := follow_filter (· ≠ "") (by simp) hlocate
    dsimp only
    split
    · obtain ⟨last, hfollow, hlast⟩ := follow_dropLast (follow_filter (· ≠ ".") (by simp) hnames) hplace
      have hsame := makeAlong_of_follow hfollow hlast
      split
      · rename_i w' hmade
        rw [hmade] at hsame
        split <;> exact hsame
      · exact hsame
    · exact makeAlong_of_follow hnames hplace

/-! ## New names -/

theorem toList_newName (n : Nat) : (newName n).toList = ".new".toList ++ Nat.toDigits 10 n := by
  rw [newName, String.toList_append, Nat.toString_eq_ofList_toDigits]
  exact congrArg _ String.toList_ofList

theorem newName_inj {n n' : Nat} (h : newName n = newName n') : n = n' := by
  have hdigits : Nat.toDigits 10 n = Nat.toDigits 10 n' := by
    have hlist := congrArg String.toList h
    rwa [toList_newName, toList_newName, List.append_right_inj] at hlist
  rw [← Nat.ofDigitChars_ten_toDigits (n := n), hdigits, Nat.ofDigitChars_ten_toDigits]

theorem startsWith_newName (n : Nat) : Text.startsWith (newName n) "." = true := by
  rw [Text.startsWith, toList_newName]
  rfl

theorem isName_newName (n : Nat) : IsName (newName n) where
  ne_empty h := by cases (toList_newName n).symm.trans (congrArg String.toList h)
  ne_dot h := by cases (toList_newName n).symm.trans (congrArg String.toList h)
  ne_dots h := by cases (toList_newName n).symm.trans (congrArg String.toList h)
  whole h := by
    rw [toList_newName, List.mem_append] at h
    rcases h with h | h
    · simp at h
    · cases Nat.isDigit_of_mem_toDigits (by decide) (by decide) h

/-- Of more names than there are entries, one is new. -/
theorem freeNumber_free (w : Workspace) (place : Place) : w.contents (key (place ++ [newName (w.freeNumber place)])) = none := by
  let keyOf := fun n => key (place ++ [newName n])
  rw [freeNumber]
  cases hfree : (List.range (w.entries.length + 1)).find? fun n => (w.found? (place ++ [newName n])).isNone with
  | some n =>
    have hnone := List.find?_some hfree
    rw [found?_concat w place (isName_newName n), Option.isNone_iff_eq_none] at hnone
    exact hnone
  | none =>
    have hkeys : (List.range (w.entries.length + 1)).map keyOf ⊆ w.entries.map Prod.fst := by
      intro k hk
      obtain ⟨n, hn, rfl⟩ := List.mem_map.1 hk
      have hsome := List.find?_eq_none.1 hfree n hn
      rw [found?_concat w place (isName_newName n), Option.isNone_iff_eq_none, ← ne_eq, Option.ne_none_iff_isSome] at hsome
      exact Entries.get?_isSome_iff.1 hsome
    have hnodup : ((List.range (w.entries.length + 1)).map keyOf).Nodup :=
      List.Nodup.map (fun _ _ heq => newName_inj (key_concat_inj.1 heq)) List.nodup_range
    have hlength := (hnodup.subperm hkeys).length_le
    simp at hlength

/-! ## What runs in a workspace -/

theorem run_bind {α β : Type} {x : Run α} {f : α → Run β} {a : α} (h : x.run.run w = (.ok a, w')) :
    (x >>= f).run.run w = (f a).run.run w' := by
  rw [ExceptT.run_bind, StateT.run_bind, h]
  rfl

theorem run_get_bind {β : Type} (f : Workspace → Run β) : (get >>= f : Run β).run.run w = (f w).run.run w := run_bind rfl

theorem run_place {path : String} (h : w.locate path = some place) : (Workspace.place path).run.run w = (.ok place, w) := by
  rw [Workspace.place, run_get_bind, h]
  rfl

theorem run_fileText {path text : String} (h : w.at? path = some (.file text)) : (fileText path).run.run w = (.ok text, w) := by
  rw [fileText, run_get_bind, h]
  rfl

theorem run_write (h : w.found? place ≠ some .directory) (text : String) :
    (write place text).run.run w = (.ok (), w.put place (.file text)) := by
  rw [write, run_get_bind, if_neg h]
  rfl

theorem contents_erase (w : Workspace) (place : Place) :
    contents { w with entries := w.entries.erase (key place) } = update w.contents (key place) none := by
  funext k
  rw [update_apply]
  refine (Entries.get?_filter w.entries (· ≠ key place) k).trans ?_
  by_cases hk : k = key place <;> simp [hk, contents]

theorem at?_eq {path : String} (hplace : w.locate path = some place) : w.at? path = w.found? place := by
  rw [at?, hplace]
  rfl

/-! ## The operations -/

theorem triple_of_run {α : Type} {x : Run α} {a : α} {Q : α → Workspace → Prop} {E : Workspace → Prop}
    (h : x.run.run w = (.ok a, w')) (hQ : Q a w') : Triple id (· = w) x Q E := by
  rintro s rfl
  rw [show x.run.run s = (.ok a, w') from h]
  exact hQ

theorem isFile_triple (w : Workspace) (path : String) :
    Triple id (· = w) (Host.isFile path : Run Bool) (fun b w' => (b = true ↔ ∃ text, w.at? path = some (.file text)) ∧ w' = w)
      fun _ => False := by
  refine triple_of_run rfl ⟨?_, rfl⟩
  rcases w.at? path with _ | ⟨_ | _⟩ <;> simp

theorem makeDirectory_triple (w : Workspace) (path : String) :
    Triple id (· = w) (Host.makeDirectory path : Run Unit)
      (fun _ w' => w'.at? path = some .directory ∧ w.AddsDirectories w' ∧ (w.at? path = some .directory → w' = w))
      fun w' => w.AddsDirectories w' ∧ (w.at? path = some .directory → w' = w) := by
  have hadds := w.makeDirectory_adds path
  have hsame : w.at? path = some .directory → (w.makeDirectory path).2 = w := makeDirectory_of_at?
  have hrun : (Host.makeDirectory path : Run Unit).run.run w = w.makeDirectory path := by
    refine (run_get_bind _).trans ?_
    rcases w.makeDirectory path with ⟨_ | _, _⟩ <;> rfl
  rintro s rfl
  rw [show (Host.makeDirectory path : Run Unit).run.run s = s.makeDirectory path from hrun]
  rcases hmade : s.makeDirectory path with ⟨e | _, w'⟩
  · rw [id, hmade] at hadds hsame
    exact ⟨hadds, hsame⟩
  · rw [id, hmade] at hadds hsame
    exact ⟨at?_makeDirectory hmade, hadds, hsame⟩

theorem writeNew_triple (w : Workspace) {directory : String} (hplace : w.locate directory = some place)
    (hdirectory : w.found? place = some .directory) (text : String) :
    Triple id (· = w) (Host.writeNew directory text : Run String)
      (fun path w' => ∃ name, w.IsNewName place name ∧ w'.locate path = some (place ++ [name]) ∧
        w'.contents = update w.contents (key (place ++ [name])) (some (.file text)))
      (· = w) := by
  let name := newName (w.freeNumber place)
  have hname : IsName name := isName_newName _
  have habsent : w.contents (key (place ++ [name])) = none := w.freeNumber_free place
  have hfree : w.found? (place ++ [name]) ≠ some .directory := by simp [found?_concat w place hname, habsent]
  have hput := w.contents_put (place ++ [name]) (.file text)
  by_cases hlong : maxPathBytes < directory.utf8ByteSize + newFileBytes
  · simp only [Host.writeNew, if_pos hlong]
    exact .throw fun _ h => h
  · have hrun : (Host.writeNew directory text : Run String).run.run w =
        (.ok (joinPath directory name), w.put (place ++ [name]) (.file text)) := by
      simp only [Host.writeNew, if_neg hlong]
      exact (run_bind (run_place hplace)).trans ((run_get_bind _).trans (run_bind (run_write hfree text)))
    have hpath := ((SameDirectories.put hfree text).locate_eq _).trans (locate_joinPath hplace hdirectory hname)
    exact triple_of_run hrun ⟨name, ⟨hname, startsWith_newName _, habsent⟩, hpath, hput⟩

theorem rename_triple (w : Workspace) {source target : String} {old new : Place} {text : String} (hsource : w.locate source = some old)
    (hfile : w.found? old = some (.file text)) (htarget : w.locate target = some new) (hnew : w.found? new ≠ some .directory) :
    Triple id (· = w) (Host.rename source target : Run Unit)
      (fun _ w' => w'.contents = update (update w.contents (key old) none) (key new) (some (.file text)))
      fun _ => False := by
  have hput := w.contents_put new (.file text)
  have hrun : (Host.rename source target : Run Unit).run.run w =
      (if key old ≠ key new then erase old else pure () : Run Unit).run.run (w.put new (.file text)) :=
    (run_bind (run_fileText ((at?_eq hsource).trans hfile))).trans <| (run_bind (run_place htarget)).trans <|
      (run_bind (run_place hsource)).trans (run_bind (run_write hnew text))
  by_cases hkey : key old = key new
  · rw [if_neg (not_not.2 hkey)] at hrun
    refine triple_of_run hrun ?_
    rw [hput, hkey, update_idem]
  · rw [if_pos hkey] at hrun
    refine triple_of_run hrun ?_
    rw [contents_erase, hput, update_comm hkey]

theorem fileText_triple (w : Workspace) (path : String) : Triple id (· = w) (fileText path) (fun _ => (· = w)) (· = w) := by
  rintro s rfl
  rw [fileText, run_get_bind]
  rcases s.at? path with _ | ⟨_ | _⟩ <;> rfl

theorem place_triple (w : Workspace) (path : String) :
    Triple id (· = w) (Workspace.place path) (fun place w' => w.locate path = some place ∧ w' = w) (· = w) := by
  rintro s rfl
  rw [Workspace.place, run_get_bind]
  cases hlocate : s.locate path with
  | none => rfl
  | some place => exact ⟨hlocate, rfl⟩

theorem write_triple (h : w.found? place = some .directory) (text : String) :
    Triple id (· = w) (write place text) (fun _ _ => False) (· = w) := by
  rintro s rfl
  rw [write, run_get_bind, if_pos (show s.found? place = some .directory from h)]
  rfl

theorem rename_directory_triple (w : Workspace) {source target : String} (htarget : w.at? target = some .directory) :
    Triple id (· = w) (Host.rename source target : Run Unit) (fun _ _ => False) (· = w) := by
  obtain ⟨place, hlocate, hplace⟩ := at?_eq_some_iff.1 htarget
  refine (fileText_triple w source).bind fun text => (place_triple w target).bind fun new => .of_forall ?_
  rintro w ⟨hnew, rfl⟩
  obtain rfl : place = new := Option.some.inj (hlocate.symm.trans hnew)
  refine (place_triple w source).bind fun old => .of_forall ?_
  rintro w ⟨-, rfl⟩
  exact (write_triple hplace text).bind fun _ => .of_false _

theorem remove_triple (w : Workspace) {path : String} {text : String} (hplace : w.locate path = some place)
    (hfile : w.found? place = some (.file text)) :
    Triple id (· = w) (Host.remove path : Run Unit) (fun _ w' => w'.contents = update w.contents (key place) none) fun _ => False := by
  have hrun : (Host.remove path : Run Unit).run.run w = (erase place).run.run w :=
    (run_bind (run_fileText ((at?_eq hplace).trans hfile))).trans (run_bind (run_place hplace))
  exact triple_of_run hrun (w.contents_erase place)

/-- Workspaces are file systems. -/
theorem isFileSystem : IsFileSystem (σ := Workspace) id where
  isFile := isFile_triple
  makeDirectory := makeDirectory_triple
  writeNew w _ _ := w.writeNew_triple
  rename w _ _ _ _ _ := w.rename_triple
  rename_directory w _ _ := w.rename_directory_triple
  remove w _ _ _ := w.remove_triple

end ModelCatalog.Workspace
