import Mathlib.Logic.Function.Basic
import ModelCatalog.Files.Publish
import ModelCatalog.Proofs.Files.Places

/-!
# File systems

A host is a file system when its files and directories are those of a workspace, and its operations change that as documented. What is
not there yet may not be possible to make: new files and directories may be refused at any time, for want of space or of rights, and then only
directories have been made. Files can be renamed and removed, but not renamed to directories. `IsFileSystem` says so of a host by triples:
where an action begins, and where it ends when it does well and when it fails.
-/

namespace ModelCatalog

/-- An action that may fail, on states of a kind; what it did before it failed stays done. -/
abbrev Action (σ : Type) := ExceptT Failure (StateM σ)

/-- Of two actions the second begins where the first ended well. -/
theorem Action.run_bind {σ α β : Type} (x : Action σ α) (f : α → Action σ β) (s : σ) :
    (x >>= f).run.run s = match x.run.run s with
      | (.ok a, s') => (f a).run.run s'
      | (.error e, s') => (.error e, s') := by
  rw [ExceptT.run_bind, StateT.run_bind]
  rcases x.run.run s with ⟨_ | _, _⟩ <;> rfl

section

variable {σ α β : Type} (view : σ → Workspace)

/-- An action that begins where `P` holds ends well where `Q` holds of what it gives, or fails where `E` holds. -/
def Triple (P : Workspace → Prop) (x : Action σ α) (Q : α → Workspace → Prop) (E : Workspace → Prop) : Prop :=
  ∀ s, P (view s) →
    match x.run.run s with
    | (.ok a, s') => Q a (view s')
    | (.error _, s') => E (view s')

variable {view} {P P' : Workspace → Prop} {Q : α → Workspace → Prop} {R : β → Workspace → Prop} {E E' : Workspace → Prop}

namespace Triple

theorem imp {x : Action σ α} {Q' : α → Workspace → Prop} (h : Triple view P x Q E) (hP : ∀ w, P' w → P w)
    (hQ : ∀ a w, Q a w → Q' a w) (hE : ∀ w, E w → E' w) : Triple view P' x Q' E' := by
  intro s hs
  have hx := h s (hP _ hs)
  split at hx
  · exact hQ _ _ hx
  · exact hE _ hx

theorem of_ok {x : Action σ α} {s s' : σ} {a : α} (h : Triple view P x Q E) (hs : P (view s)) (hrun : x.run.run s = (.ok a, s')) :
    Q a (view s') := by
  have hx := h s hs
  rwa [hrun] at hx

theorem of_error {x : Action σ α} {s s' : σ} {e : Failure} (h : Triple view P x Q E) (hs : P (view s))
    (hrun : x.run.run s = (.error e, s')) : E (view s') := by
  have hx := h s hs
  rwa [hrun] at hx

/-- What holds where an action ends well implies what is to be shown. -/
theorem post {x : Action σ α} {Q' : α → Workspace → Prop} (h : Triple view P x Q E) (hQ : ∀ a w, Q a w → Q' a w) : Triple view P x Q' E :=
  h.imp (fun _ h => h) hQ fun _ h => h

/-- An action may be looked at from each state that it begins in. -/
theorem of_forall {x : Action σ α} (h : ∀ w, P w → Triple view (· = w) x Q E) : Triple view P x Q E :=
  fun s hs => h (view s) hs s rfl

theorem at_state {x : Action σ α} {w : Workspace} (h : Triple view P x Q E) (hw : P w) : Triple view (· = w) x Q E :=
  h.imp (fun _ heq => heq ▸ hw) (fun _ _ h => h) fun _ h => h

/-- An action that cannot fail may be said to fail anywhere. -/
theorem sure {x : Action σ α} (h : Triple view P x Q fun _ => False) : Triple view P x Q E :=
  h.imp (fun _ h => h) (fun _ _ h => h) fun _ h => h.elim

/-- Nothing begins nowhere. -/
theorem of_false (x : Action σ α) : Triple view (fun _ => False) x Q E := fun _ hs => hs.elim

theorem pure {a : α} (h : ∀ w, P w → Q a w) : Triple view P (Pure.pure a : Action σ α) Q E := fun s hs => h (view s) hs

theorem throw {failure : Failure} (h : ∀ w, P w → E w) : Triple view P (throw failure : Action σ α) Q E := fun s hs => h (view s) hs

theorem bind {x : Action σ α} {f : α → Action σ β} (hx : Triple view P x Q E) (hf : ∀ a, Triple view (Q a) (f a) R E) :
    Triple view P (x >>= f) R E := by
  intro s hs
  have hx := hx s hs
  rw [Action.run_bind]
  rcases hafter : x.run.run s with ⟨e | a, s'⟩ <;> rw [hafter] at hx
  · exact hx
  · exact hf a s' hx

theorem tryCatch {x : Action σ α} {f : Failure → Action σ α} (hx : Triple view P x Q E) (hf : ∀ e, Triple view E (f e) Q E') :
    Triple view P (tryCatch x f) Q E' := by
  intro s hs
  have hx := hx s hs
  have hrun : (MonadExcept.tryCatch x f : Action σ α).run.run s = match x.run.run s with
      | (.ok a, s') => (.ok a, s')
      | (.error e, s') => (f e).run.run s' := by
    rw [ExceptT.run_tryCatch, StateT.run_bind]
    rcases x.run.run s with ⟨_ | _, _⟩ <;> rfl
  rw [hrun]
  rcases hafter : x.run.run s with ⟨e | a, s'⟩ <;> rw [hafter] at hx
  · exact hf e s' hx
  · exact hx

theorem quietly {x : Action σ Unit} {Q : Workspace → Prop} (h : Triple view P x (fun _ => Q) Q) :
    Triple view P (Publish.quietly x) (fun _ => Q) E :=
  h.tryCatch fun _ => .pure fun _ h => h

theorem orUndo {x : Action σ α} {undo : Action σ Unit} (hx : Triple view P x Q E) (hundo : Triple view E undo (fun _ => E') E') :
    Triple view P (Publish.orUndo x undo) Q E' :=
  hx.tryCatch fun _ => hundo.bind fun _ => .throw fun _ h => h

end Triple

end

namespace Workspace

/-- Everything is as it was, up to directories that were made. -/
def AddsDirectories (w w' : Workspace) : Prop :=
  ∀ key, w'.contents key = w.contents key ∨ w.contents key = none ∧ w'.contents key = some .directory

/-- A name for a new file in a directory: it begins with a dot, and nothing has it yet. -/
structure IsNewName (w : Workspace) (place : Place) (name : String) : Prop extends IsName name where
  dotted : Text.startsWith name "." = true
  absent : w.contents (key (place ++ [name])) = none

end Workspace

open Workspace in
/-- What is relied on of a host whose files and directories are those of a workspace. -/
structure IsFileSystem {σ : Type} [Host (Action σ)] (view : σ → Workspace) : Prop where
  isFile (w : Workspace) (path : String) :
    Triple view (· = w) (Host.isFile path) (fun b w' => (b = true ↔ ∃ text, w.at? path = some (.file text)) ∧ w' = w) fun _ => False
  /-- A directory that is there already is not made again. -/
  makeDirectory (w : Workspace) (path : String) :
    Triple view (· = w) (Host.makeDirectory path)
      (fun _ w' => w'.at? path = some .directory ∧ w.AddsDirectories w' ∧ (w.at? path = some .directory → w' = w))
      fun w' => w.AddsDirectories w' ∧ (w.at? path = some .directory → w' = w)
  writeNew (w : Workspace) {directory : String} {place : Place} (hplace : w.locate directory = some place)
      (hdirectory : w.found? place = some .directory) (text : String) :
    Triple view (· = w) (Host.writeNew directory text)
      (fun path w' => ∃ name, w.IsNewName place name ∧ w'.locate path = some (place ++ [name]) ∧
        w'.contents = Function.update w.contents (key (place ++ [name])) (some (.file text)))
      (· = w)
  /-- A file that is renamed takes the place of a file. -/
  rename (w : Workspace) {source target : String} {old new : Place} {text : String} (hsource : w.locate source = some old)
      (hfile : w.found? old = some (.file text)) (htarget : w.locate target = some new) (hnew : w.found? new ≠ some .directory) :
    Triple view (· = w) (Host.rename source target)
      (fun _ w' => w'.contents = Function.update (Function.update w.contents (key old) none) (key new) (some (.file text)))
      fun _ => False
  /-- Nothing takes the place of a directory. -/
  rename_directory (w : Workspace) {source target : String} (htarget : w.at? target = some .directory) :
    Triple view (· = w) (Host.rename source target) (fun _ _ => False) (· = w)
  remove (w : Workspace) {path : String} {place : Place} {text : String} (hplace : w.locate path = some place)
      (hfile : w.found? place = some (.file text)) :
    Triple view (· = w) (Host.remove path) (fun _ w' => w'.contents = Function.update w.contents (key place) none) fun _ => False

end ModelCatalog
