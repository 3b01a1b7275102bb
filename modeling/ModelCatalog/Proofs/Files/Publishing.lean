import ModelCatalog.Command.Run
import ModelCatalog.Proofs.Files.FileSystems
import ModelCatalog.Proofs.Files.Staging
import ModelCatalog.Proofs.Files.Workspaces

/-!
# Publishing is all or nothing

On every file system, what is generated for a registry is published as a whole or not at all (`Client.transpile_all_or_nothing`). Each
function of `Publish` is followed from contents to contents (`At`); what the contents are at each point is told in `Staging`. Files get
their names one after another, so `moveAll_at` is by induction on the files: when a later one fails, the first is taken back from where the
others are undone.
-/

namespace ModelCatalog

open Function Workspace

/-! ## One operation -/

section

variable {σ : Type} [Host (Action σ)] {view : σ → Workspace} (hfs : IsFileSystem view) {W : Workspace} {dir : Place} {C : Contents}

include hfs

theorem isFile_at {path name : String} (hpath : LeadsTo W dir path name) :
    Triple view (At W C) (Host.isFile path) (fun b w => (b = true ↔ ∃ text, C (slot dir name) = some (.file text)) ∧ At W C w)
      fun _ => False := by
  refine .of_forall fun w hw => (hfs.isFile w path).post ?_
  rintro b w' ⟨hb, rfl⟩
  rw [hw.at? hpath] at hb
  exact ⟨hb, hw⟩

theorem writeNew_at {directory : String} (hlocate : W.locate directory = some dir) (hdirectory : W.found? dir = some .directory)
    (text : String) :
    Triple view (At W C) (Host.writeNew directory text)
      (fun path w => ∃ name, LeadsTo W dir path name ∧ Text.startsWith name "." = true ∧ C (slot dir name) = none ∧
        At W (update C (slot dir name) (some (.file text))) w)
      (At W C) := by
  refine .of_forall fun w hw => ?_
  have hplace : w.locate directory = some dir := (hw.same.locate_eq _).trans hlocate
  refine (hfs.writeNew w hplace ((hw.same.found?_iff _).2 hdirectory) text).imp (fun _ h => h) ?_ (fun _ h => h ▸ hw)
  rintro path w' ⟨name, hnew, hpath, hw'⟩
  have habsent : C (slot dir name) = none := hw.contents ▸ hnew.absent
  have hat : At W (update C (slot dir name) (some (.file text))) w' :=
    ⟨hw.contents ▸ hw', hw.directories.update (by simp [habsent]) (by simp)⟩
  exact ⟨name, ⟨hnew.toIsName, (hat.same.locate_eq _).symm.trans hpath⟩, hnew.dotted, habsent, hat⟩

theorem rename_at {source target old new text : String} (hsource : LeadsTo W dir source old) (htarget : LeadsTo W dir target new)
    (hfile : C (slot dir old) = some (.file text)) (hnew : C (slot dir new) ≠ some .directory) :
    Triple view (At W C) (Host.rename source target)
      (fun _ => At W (update (update C (slot dir old) none) (slot dir new) (some (.file text)))) fun _ => False := by
  refine .of_forall fun w hw => ?_
  have hrename := hfs.rename w (hw.locate hsource) ((hw.found? hsource).trans hfile) (hw.locate htarget) ((hw.found? htarget) ▸ hnew)
  refine hrename.post fun _ w' hw' => ⟨hw.contents ▸ hw', ?_⟩
  have hold := hw.directories.update (k := slot dir old) (e := none) (by simp [hfile]) (by simp)
  refine hold.update ?_ (by simp)
  rw [update_apply]
  split
  · simp
  · exact hnew

theorem rename_directory_at {source target new : String} (htarget : LeadsTo W dir target new)
    (hnew : C (slot dir new) = some .directory) :
    Triple view (At W C) (Host.rename source target) (fun _ _ => False) (At W C) :=
  .of_forall fun w hw => (hfs.rename_directory w ((hw.at? htarget).trans hnew)).imp (fun _ h => h) (fun _ _ h => h) fun _ h => h ▸ hw

theorem remove_at {path name text : String} (hpath : LeadsTo W dir path name) (hfile : C (slot dir name) = some (.file text)) :
    Triple view (At W C) (Host.remove path) (fun _ => At W (update C (slot dir name) none)) fun _ => False := by
  refine .of_forall fun w hw => (hfs.remove w (hw.locate hpath) ((hw.found? hpath).trans hfile)).post fun _ w' hw' => ?_
  exact ⟨hw.contents ▸ hw', hw.directories.update (by simp [hfile]) (by simp)⟩

/-! ## Files of new names -/

theorem discard_at {path name : String} (hpath : LeadsTo W dir path name) (hfile : C (slot dir name) ≠ some .directory) :
    Triple view (At W C) (Publish.discard path) (fun _ => At W (update C (slot dir name) none)) fun _ => False := by
  refine (isFile_at hfs hpath).bind fun b => .of_forall ?_
  rintro w ⟨hb, hw⟩
  split
  · obtain ⟨text, htext⟩ := hb.1 ‹_›
    have hremove := remove_at hfs hpath htext
    exact (hremove.sure.quietly).at_state hw
  · rename_i hnot
    have hnone : C (slot dir name) = none := eq_none_of_ne (fun htext => hnot (hb.2 htext)) hfile
    rw [← hnone, update_eq_self]
    exact .pure fun _ h => h ▸ hw

/-! ## One file -/

/-- A file is moved aside to a new name; what is not a file stays. -/
theorem moveAside_at {directory : String} (hlocate : W.locate directory = some dir) (hdirectory : W.found? dir = some .directory)
    {path name : String} (hpath : LeadsTo W dir path name) :
    Triple view (At W C) (Publish.moveAside directory path)
      (fun previous w => (previous = none ∧ (¬∃ text, C (slot dir name) = some (.file text)) ∧ At W C w) ∨
        ∃ aside old text, previous = some aside ∧ LeadsTo W dir aside old ∧ Text.startsWith old "." = true ∧ C (slot dir old) = none ∧
          C (slot dir name) = some (.file text) ∧
          At W (update (update C (slot dir name) none) (slot dir old) (some (.file text))) w)
      (At W C) := by
  refine (isFile_at hfs hpath).sure.bind fun b => .of_forall ?_
  rintro w ⟨hb, hw⟩
  split
  · obtain ⟨text, htext⟩ := hb.1 ‹_›
    refine ((writeNew_at hfs hlocate hdirectory "").at_state hw).bind fun aside => .of_forall ?_
    rintro w' ⟨old, haside, hdot, hnone, hw'⟩
    have hne : slot dir name ≠ slot dir old := by
      intro heq
      rw [heq, hnone] at htext
      cases htext
    have hmoved := rename_at hfs (C := update C (slot dir old) (some (.file ""))) hpath haside (by rw [update_of_ne hne, htext]) (by simp)
    rw [update_comm hne.symm, update_idem] at hmoved
    refine ((hmoved.sure.at_state hw').orUndo (.of_false _)).bind fun _ => .pure fun _ h => Or.inr ?_
    exact ⟨aside, old, text, rfl, haside, hdot, hnone, htext, h⟩
  · rename_i hnot
    exact .pure fun _ h => Or.inl ⟨rfl, fun htext => hnot (hb.2 htext), h ▸ hw⟩

/-- A file that was moved aside takes its place back. -/
theorem restore_at {path aside name old text : String} (hpath : LeadsTo W dir path name) (haside : LeadsTo W dir aside old)
    (hfile : C (slot dir old) = some (.file text)) (hname : C (slot dir name) ≠ some .directory) :
    Triple view (At W C) (Publish.restore path aside)
      (fun _ => At W (update (update C (slot dir old) none) (slot dir name) (some (.file text)))) fun _ => False :=
  (rename_at hfs haside hpath hfile hname).tryCatch fun _ => .of_false _

/-- A written file gets its name, or, where there is a directory, nothing happens. -/
theorem replace_at {directory : String} (hlocate : W.locate directory = some dir) (hdirectory : W.found? dir = some .directory)
    {path : String} {x : Staged} (hpath : LeadsTo W dir path x.name) (hwritten : LeadsTo W dir x.path x.tmp)
    (htmp : C (slot dir x.tmp) = some (.file x.text)) (hne : slot dir x.tmp ≠ slot dir x.name) :
    Triple view (At W C) (Publish.replace directory path x.path) (fun previous w => ∃ C₁, Replaced W dir x C previous C₁ ∧ At W C₁ w)
      (At W C) := by
  refine (moveAside_at hfs hlocate hdirectory hpath).bind fun previous => .of_forall ?_
  rintro w (⟨rfl, hfile, hw⟩ | ⟨aside, old, kept, rfl, haside, hdot, hnone, hkept, hw⟩)
  · by_cases hname : C (slot dir x.name) = some .directory
    · exact (((rename_directory_at hfs hpath hname).at_state hw).orUndo (.pure fun _ h => h)).bind fun _ => .of_false _
    · have hfree : C (slot dir x.name) = none := eq_none_of_ne hfile hname
      have hrename := rename_at hfs hwritten hpath htmp hname
      exact ((hrename.sure.at_state hw).orUndo (.of_false _)).bind fun _ => .pure fun _ h => ⟨_, .free hfree, h⟩
  · have hnameOld : slot dir x.name ≠ slot dir old := fun heq => by simp [heq, hnone] at hkept
    have htmpOld : slot dir x.tmp ≠ slot dir old := fun heq => by simp [heq, hnone] at htmp
    have hstill : update (update C (slot dir x.name) none) (slot dir old) (some (.file kept)) (slot dir x.tmp) = some (.file x.text) := by
      rw [update_of_ne htmpOld, update_of_ne hne, htmp]
    have hplaced := (rename_at hfs hwritten hpath hstill (by simp [hnameOld])).at_state hw
    rw [update_comm hnameOld, update_comm hne.symm, update_idem] at hplaced
    exact (hplaced.sure.orUndo (.of_false _)).bind fun _ => .pure fun _ h => ⟨_, .kept aside old kept haside hdot hnone hkept, h⟩

end

/-! ## All files -/

section

variable {σ : Type} [Host (Action σ)] {view : σ → Workspace} (hfs : IsFileSystem view) {W : Workspace} {dir : Place}

include hfs

/-- A file that got its name is taken back after the others. -/
theorem takeBack_at {path : String} {x : Staged} {xs : List Staged} {C C₁ C₂ : Contents} {previous : Option String}
    (hpath : LeadsTo W dir path x.name) (h : AreWritten W dir C (x :: xs)) (hpublic : ArePublic ((x :: xs).map Staged.name))
    (hreplaced : Replaced W dir x C previous C₁) (hundone : Undone dir xs C₁ C₂) :
    Triple view (At W C₂) (Publish.takeBack path previous) (fun _ w => ∃ C', At W C' w ∧ Undone dir (x :: xs) C C') fun _ => False := by
  have hx : x ∈ x :: xs := List.mem_cons_self
  obtain ⟨htmpName, -, -⟩ := h.apart hpublic
  have hplaced : C₂ (slot dir x.name) = some (.file x.text) := by
    rw [hundone.others _ fun y hy => (htmpName y (List.mem_cons_of_mem _ hy) x hx).symm, hreplaced.name_eq]
  cases hreplaced with
  | free hname =>
    exact (remove_at hfs hpath hplaced).sure.quietly.post fun _ w hw => ⟨_, hw, hundone.free h hpublic hname⟩
  | kept aside old text haside hdotted hold hname =>
    have hkept : C₂ (slot dir old) = some (.file text) := by
      rw [hundone.others _ fun y hy => h.ne_tmp hold (List.mem_cons_of_mem _ hy), x.placed_of_ne (h.ne_tmp hold hx)
        (hpublic.slot_ne (List.mem_map_of_mem hx) hdotted), update_self]
    have hrestore := restore_at hfs hpath haside hkept (by simp [hplaced])
    exact hrestore.post fun _ w hw => ⟨_, hw, hundone.kept h hpublic hold hname⟩

/-- What was kept of a file that got its name goes after the others have theirs. -/
theorem forget_at {x : Staged} {xs : List Staged} {C C₁ C₂ : Contents} {previous : Option String} (h : AreWritten W dir C (x :: xs))
    (hpublic : ArePublic ((x :: xs).map Staged.name)) (hreplaced : Replaced W dir x C previous C₁) (hfinished : Finished dir xs C₁ C₂) :
    Triple view (At W C₂) (previous.forM Publish.discard) (fun _ w => ∃ C', At W C' w ∧ Finished dir (x :: xs) C C') fun _ => False := by
  cases hreplaced with
  | free => exact .pure fun w hw => ⟨C₂, hw, hfinished.free h hpublic⟩
  | kept aside old text haside hdotted hold hname =>
    have hslot : ∀ y ∈ x :: xs, slot dir old ≠ slot dir y.name ∧ slot dir old ≠ slot dir y.tmp := fun y hy =>
      ⟨hpublic.slot_ne (List.mem_map_of_mem hy) hdotted, h.ne_tmp hold hy⟩
    obtain ⟨hx, hxs⟩ := List.forall_mem_cons.1 hslot
    have hkept : C₂ (slot dir old) = some (.file text) := by
      rw [hfinished.others _ hxs, x.placed_of_ne hx.2 hx.1, update_self]
    have hdiscard := discard_at hfs haside (C := C₂) (by simp [hkept])
    exact hdiscard.post fun _ w hw => ⟨_, hw, hfinished.kept h hpublic hdotted hold⟩

/-- Files that are written get their names, all of them or none. -/
theorem moveAll_at {directory : String} (hlocate : W.locate directory = some dir) (hdirectory : W.found? dir = some .directory)
    {xs : List Staged} {C : Contents} (h : AreWritten W dir C xs) (hpublic : ArePublic (xs.map Staged.name)) :
    Triple view (At W C) (Publish.moveAll directory (xs.map fun x => (x.name, x.path)))
      (fun _ w => ∃ C', At W C' w ∧ Finished dir xs C C') fun w => ∃ C', At W C' w ∧ Undone dir xs C C' := by
  induction xs generalizing C with
  | nil => exact .pure fun w hw => ⟨C, hw, ⟨nofun, nofun, fun _ _ => rfl⟩⟩
  | cons x xs ih =>
    have hx : x ∈ x :: xs := List.mem_cons_self
    have hname : IsName x.name := hpublic.isName _ (List.mem_map_of_mem hx)
    have hpath : LeadsTo W dir (joinPath directory x.name) x.name := ⟨hname, locate_joinPath hlocate hdirectory hname⟩
    have hreplace := replace_at hfs hlocate hdirectory hpath (h.leadsTo x hx) (h.written x hx) ((h.apart hpublic).1 x hx x hx)
    refine (hreplace.imp (fun _ h => h) (fun _ _ h => h) fun w hw => ⟨C, hw, ⟨fun _ _ => Or.inl rfl, fun _ _ => rfl⟩⟩).bind
      fun previous => .of_forall ?_
    rintro w ⟨C₁, hreplaced, hw⟩
    refine (((ih (h.tail hpublic hreplaced) hpublic.tail).at_state hw).orUndo (.of_forall ?_)).bind fun _ => .of_forall ?_
    · rintro w ⟨C₂, hw, hundone⟩
      exact (takeBack_at hfs hpath h hpublic hreplaced hundone).sure.at_state hw
    · rintro w ⟨C₂, hw, hfinished⟩
      exact (forget_at hfs h hpublic hreplaced hfinished).sure.at_state hw

/-- Texts are written under new names, all of them or none. -/
theorem stage_at {directory : String} (hlocate : W.locate directory = some dir) (hdirectory : W.found? dir = some .directory)
    (files : List (String × String)) (C : Contents) :
    Triple view (At W C) (Publish.stage directory files)
      (fun written w => ∃ xs C', files = xs.map (fun x => (x.name, x.text)) ∧ written = xs.map (fun x => (x.name, x.path)) ∧
        AreWritten W dir C' xs ∧ AreNew dir xs C C' ∧ At W C' w)
      (At W C) := by
  induction files generalizing C with
  | nil => exact .pure fun w hw => ⟨[], C, rfl, rfl, .nil, .nil, hw⟩
  | cons file files ih =>
    refine (writeNew_at hfs hlocate hdirectory file.2).bind fun path => .of_forall ?_
    rintro w ⟨tmp, hpath, hdotted, hnone, hw⟩
    have hdiscard := discard_at hfs hpath (C := update C (slot dir tmp) (some (.file file.2))) (by simp)
    rw [update_idem, ← hnone, update_eq_self] at hdiscard
    refine (((ih _).at_state hw).orUndo hdiscard.sure).bind fun others => .pure ?_
    rintro w ⟨xs, C', rfl, rfl, hwritten, hnew, hw⟩
    exact ⟨⟨file.1, path, tmp, file.2⟩ :: xs, C', rfl, rfl, hwritten.cons hnew hpath hdotted, hnew.cons hnone, hw⟩

/-- Texts that are written are taken away. -/
theorem discardAll_at {xs : List Staged} {C : Contents} (hpath : ∀ x ∈ xs, LeadsTo W dir x.path x.tmp)
    (hfile : ∀ x ∈ xs, C (slot dir x.tmp) ≠ some .directory) :
    Triple view (At W C) ((xs.map fun x => (x.name, x.path)).forM fun entry => Publish.discard entry.2)
      (fun _ w => ∃ C', At W C' w ∧ AreNew dir xs C' C) fun _ => False := by
  induction xs generalizing C with
  | nil => exact .pure fun w hw => ⟨C, hw, .nil⟩
  | cons x xs ih =>
    obtain ⟨hpath, hpaths⟩ := List.forall_mem_cons.1 hpath
    obtain ⟨hfile, hfiles⟩ := List.forall_mem_cons.1 hfile
    refine (discard_at hfs hpath hfile).bind fun _ => (ih hpaths fun y hy => ?_).post fun _ w ⟨C', hw, hnew⟩ => ⟨C', hw, hnew.of_tail⟩
    rw [update_apply]
    split
    · simp
    · exact hfiles y hy

/-- The texts are put into the files of a directory, all of them or none. -/
theorem putAll_at {directory : String} (hlocate : W.locate directory = some dir) (hdirectory : W.found? dir = some .directory)
    {files : List (String × String)} (hpublic : ArePublic (files.map Prod.fst)) (C : Contents) :
    Triple view (At W C) (Publish.putAll directory files) (fun _ w => ∃ C', At W C' w ∧ Published dir files C C') (At W C) := by
  refine (stage_at hfs hlocate hdirectory files C).bind fun written => .of_forall ?_
  rintro w ⟨xs, C₁, rfl, rfl, hwritten, hnew, hw⟩
  rw [List.map_map] at hpublic
  have hmove := (moveAll_at hfs hlocate hdirectory hwritten hpublic).at_state hw
  refine (hmove.orUndo (.of_forall ?_)).post ?_
  · rintro w ⟨C₂, hw, hundone⟩
    have hfile : ∀ x ∈ xs, C₂ (slot dir x.tmp) ≠ some .directory := by
      intro x hx
      rcases hundone.gone x hx with hgone | hgone
      · simp [hgone, hwritten.written x hx]
      · simp [hgone]
    refine (((discardAll_at hfs hwritten.leadsTo hfile).at_state hw).post fun _ w => ?_).sure
    rintro ⟨C₃, hw, hcleared⟩
    rwa [hundone.cleared_eq hnew hcleared] at hw
  · rintro _ w ⟨C₂, hw, hfinished⟩
    exact ⟨C₂, hw, hfinished.published hnew⟩

end

/-! ## Publishing -/

/-- Everything is as it was but for what is under some keys, and for directories made on the way to one that was not there. -/
structure Workspace.SameBut (w : Workspace) (directory : String) (keys : List String) (w' : Workspace) : Prop where
  same_or_made : ∀ k ∉ keys, w'.contents k = w.contents k ∨ w.contents k = none ∧ w'.contents k = some .directory
  same : w.at? directory = some .directory → ∀ k ∉ keys, w'.contents k = w.contents k

/-- What changed after a directory was made is all that changed. -/
theorem Workspace.SameBut.of_made {w W w' : Workspace} {directory : String} {keys : List String} (hadds : w.AddsDirectories W)
    (hsame : w.at? directory = some .directory → W = w) (hlater : ∀ k ∉ keys, w'.contents k = W.contents k) :
    w.SameBut directory keys w' where
  same_or_made k hk := by
    rw [hlater k hk]
    exact hadds k
  same hdirectory k hk := by rw [hlater k hk, hsame hdirectory]

section

variable {σ : Type} [Host (Action σ)] {view : σ → Workspace} (hfs : IsFileSystem view)

include hfs

/-- Publishing files is all or nothing, in a directory that was there or one that is made. -/
theorem publish_at {files : List (String × String)} (hpublic : ArePublic (files.map Prod.fst)) (directory : String) (w : Workspace) :
    Triple view (· = w) (Publish.publish directory files)
      (fun _ w' => (∀ file ∈ files, w'.at? (joinPath directory file.1) = some (.file file.2)) ∧
        ∃ dir, w'.locate directory = some dir ∧ w'.found? dir = some .directory ∧
          w.SameBut directory (files.map fun file => slot dir file.1) w')
      (w.SameBut directory []) := by
  refine ((hfs.makeDirectory w directory).imp (fun _ h => h) (fun _ _ h => h) ?_).bind fun _ => .of_forall ?_
  · exact fun w' ⟨hadds, hsame⟩ => .of_made hadds hsame fun _ _ => rfl
  · rintro W ⟨hat, hadds, hsame⟩
    obtain ⟨dir, hlocate, hdirectory⟩ := at?_eq_some_iff.1 hat
    have hW : At W W.contents W := ⟨rfl, fun _ => Iff.rfl⟩
    refine ((putAll_at hfs hlocate hdirectory hpublic W.contents).at_state hW).imp (fun _ h => h) ?_ ?_
    · rintro _ w' ⟨C, hw', hpublished, hothers⟩
      refine ⟨fun file hfile => ?_, dir, (hw'.same.locate_eq _).trans hlocate, (hw'.same.found?_iff _).2 hdirectory,
        .of_made hadds hsame fun k hk => ?_⟩
      · have hname := hpublic.isName _ (List.mem_map_of_mem hfile)
        rw [hw'.at? ⟨hname, locate_joinPath hlocate hdirectory hname⟩, hpublished file hfile]
      · rw [hw'.contents]
        exact hothers k fun file hfile heq => hk (heq ▸ List.mem_map_of_mem hfile)
    · exact fun w' hw' => .of_made hadds hsame fun k _ => congrFun hw'.contents k

end

namespace Client

theorem fileNames_arePublic : ArePublic [moduleFile, schemaFile] where
  isName := by
    have hmodule : IsName moduleFile := ⟨by decide, by decide, by decide, by decide⟩
    have hschema : IsName schemaFile := ⟨by decide, by decide, by decide, by decide⟩
    simpa using ⟨hmodule, hschema⟩
  undotted := by decide
  nodup := by decide

/-- The files generated for a registry are published as a whole or not at all, on every file system and from every state of it. When all is
well, both are in the directory and nothing else has changed. When something fails, nothing has changed at all. Only directories may have been
made in either case, if that to publish in was not there; and nothing is made if nothing could be generated. -/
theorem transpile_all_or_nothing {σ : Type} [Host (Action σ)] {view : σ → Workspace} (hfs : IsFileSystem view) (r : Registry)
    (s : Settings) (models : Option (List String)) (directory : String) (w : Workspace) :
    Triple view (· = w) (transpile r s models directory)
      (fun _ w' => ∃ a, Artifacts.generate r s models = .ok a ∧ w'.at? (joinPath directory moduleFile) = some (.file a.module) ∧
        w'.at? (joinPath directory schemaFile) = some (.file a.schema) ∧
        ∃ dir, w'.locate directory = some dir ∧ w'.found? dir = some .directory ∧
          w.SameBut directory [slot dir moduleFile, slot dir schemaFile] w')
      fun w' => w.SameBut directory [] w' ∧ ((∃ e, Artifacts.generate r s models = .error e) → w' = w) := by
  cases hgenerate : Artifacts.generate r s models with
  | error e =>
    simp only [transpile, hgenerate]
    refine .throw ?_
    rintro w' rfl
    exact ⟨.of_made (.refl w') (fun _ => rfl) fun _ _ => rfl, fun _ => rfl⟩
  | ok a =>
    have hpublish := publish_at hfs (show ArePublic (a.files.map Prod.fst) from fileNames_arePublic) directory w
    simp only [transpile, hgenerate]
    refine hpublish.imp (fun _ h => h) ?_ fun w' h => ⟨h, nofun⟩
    rintro _ w' ⟨hfiles, dir, hlocate, hdirectory, hsame⟩
    have hmodule := hfiles (moduleFile, a.module) (by simp [Artifacts.files])
    have hschema := hfiles (schemaFile, a.schema) (by simp [Artifacts.files])
    exact ⟨a, rfl, hmodule, hschema, dir, hlocate, hdirectory, hsame⟩

def thingRegistry : Registry where
  models := [{ name := "Thing", fields := [Model.implicitKey] }]

/-- A directory with the module of a previous run and something else. -/
def previousRun : Workspace where
  entries := [("ts", .directory), ("ts/models.ts", .file "// previous run"), ("ts/notes.txt", .file "mine")]

/-- A directory with the module of a previous run, and another where the document belongs. -/
def blockedRun : Workspace where
  entries := previousRun.entries ++ [("ts/schema.json", .directory)]

/-- The module of a previous run is replaced and all else stays; where a directory is in the way of the document, the module stays too. -/
theorem previous_module_replaced_or_kept :
    IsFileSystem (σ := Workspace) id ∧
      (∃ a w', Artifacts.generate thingRegistry {} none = .ok a ∧
        (transpile thingRegistry {} none "ts" : Run Unit).run.run previousRun = (.ok (), w') ∧
        w'.at? "ts/models.ts" = some (.file a.module) ∧ w'.at? "ts/schema.json" = some (.file a.schema) ∧
        w'.contents "ts/notes.txt" = some (.file "mine")) ∧
      ∃ e w', (transpile thingRegistry {} none "ts" : Run Unit).run.run blockedRun = (.error e, w') ∧
        w'.contents = blockedRun.contents := by
  have hdone : ((transpile thingRegistry {} none "ts" : Run Unit).run.run previousRun).1.isOk = true := by decide +kernel
  have hplace : ((transpile thingRegistry {} none "ts" : Run Unit).run.run previousRun).2.locate "ts" = some ["ts"] := by decide +kernel
  have hblocked : ((transpile thingRegistry {} none "ts" : Run Unit).run.run blockedRun).1.isOk = false := by decide +kernel
  have hprevious := transpile_all_or_nothing isFileSystem thingRegistry {} none "ts" previousRun
  have hkept := transpile_all_or_nothing isFileSystem thingRegistry {} none "ts" blockedRun
  refine ⟨isFileSystem, ?_, ?_⟩
  · rcases hrun : (transpile thingRegistry {} none "ts" : Run Unit).run.run previousRun with ⟨e | _, w'⟩
    · rw [hrun] at hdone
      cases hdone
    · rw [hrun] at hplace
      obtain ⟨a, hgenerate, hmodule, hschema, dir, hdir, -, hsame⟩ := hprevious.of_ok rfl hrun
      obtain rfl : ["ts"] = dir := Option.some.inj (hplace.symm.trans hdir)
      exact ⟨a, w', hgenerate, rfl, hmodule, hschema, hsame.same rfl "ts/notes.txt" (by decide)⟩
  · rcases hrun : (transpile thingRegistry {} none "ts" : Run Unit).run.run blockedRun with ⟨e | _, w'⟩
    · exact ⟨e, w', rfl, funext fun k => (hkept.of_error rfl hrun).1.same rfl k List.not_mem_nil⟩
    · rw [hrun] at hblocked
      cases hblocked

end Client

end ModelCatalog
