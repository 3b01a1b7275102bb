import ModelCatalog.Command.Run
import ModelCatalog.Proofs.Files.FileSystems
import ModelCatalog.Proofs.Outcome
import ModelCatalog.Request.Params

/-!
# Page sizes that are not zero

A request asks for at least one row a page or leaves the size to the settings, and settings in a text have a default page size of at least
one. Two values get past these checks: that of an environment variable, which replaces the default after the text was checked, and the
greatest page size, which is not checked at all. `loaded_page_sizes` says that there is no other way to a page size of zero.
-/

namespace ModelCatalog

/-- Parameters that a request can have. -/
def ListParams.IsRequested (p : ListParams) : Prop := (∃ value, ofValue value = .ok p) ∨ ∃ texts, ofTexts texts = .ok p

namespace Settings

/-- The default page size that the environment gives. -/
def defaultIn (env : Environment) : Option Nat := (env.get? "MODELTYPE_DEFAULT_PAGE_SIZE").bind readCount?

/-- The page sizes of settings whose default is zero when `zero` holds, and only then. -/
structure SizePages (s : Settings) (zero : Prop) : Prop where
  default_pos_iff : 1 ≤ s.defaultPageSize ↔ ¬zero
  /-- A request has pages of at least one row, unless nothing is allowed or it leaves the size to the default. -/
  size_pos_iff : ∀ p : ListParams, p.IsRequested → (1 ≤ p.sizeOfPage s ↔ s.maxPageSize ≠ some 0 ∧ (p.pageSize = none → ¬zero))
  size_le : ∀ (p : ListParams) (most : Nat), s.maxPageSize = some most → p.sizeOfPage s ≤ most

end Settings

/-! ## Requests -/

/-- A page size that is asked for is at least one. -/
theorem ListParams.IsRequested.pageSize_ne_zero {p : ListParams} (h : p.IsRequested) : p.pageSize ≠ some 0 := by
  have hvalue : ∀ value, ofValue value = .ok p → p.pageSize ≠ some 0 := by
    intro value h
    unfold ofValue at h
    split at h
    · cases h
    · obtain ⟨_, -, h⟩ := Outcome.bind_ok_iff.1 h
      obtain ⟨_, hsize, h⟩ := Outcome.bind_ok_iff.1 h
      cases h
      unfold checkCount at hsize
      split at hsize
      · cases hsize
      · assumption
  rcases h with ⟨value, h⟩ | ⟨texts, h⟩
  · exact hvalue value h
  · obtain ⟨_, -, h⟩ := Outcome.bind_ok_iff.1 h
    exact hvalue _ h

namespace Settings

theorem pageSize_le (s : Settings) (requested : Option Nat) {most : Nat} (h : s.maxPageSize = some most) :
    s.pageSize requested ≤ most := by
  rw [pageSize, h]
  exact Nat.min_le_right _ _

/-- A size is zero when nothing is allowed, or when it is what is asked for or the default. -/
theorem pageSize_pos_iff (s : Settings) (requested : Option Nat) :
    1 ≤ s.pageSize requested ↔ s.maxPageSize ≠ some 0 ∧ 1 ≤ requested.getD s.defaultPageSize := by
  unfold pageSize
  cases s.maxPageSize with
  | none => simp
  | some most =>
    rw [Nat.le_min, and_comm, ne_eq, Option.some.injEq]
    exact and_congr_left fun _ => Nat.one_le_iff_ne_zero

/-- What is to be known of page sizes is whether the default is zero. -/
theorem SizePages.of_default {s : Settings} {zero : Prop} (h : 1 ≤ s.defaultPageSize ↔ ¬zero) : s.SizePages zero := by
  refine ⟨h, fun p hp => ?_, fun p _ hmost => s.pageSize_le p.pageSize hmost⟩
  rw [ListParams.sizeOfPage, pageSize_pos_iff, ← h]
  refine and_congr_right fun _ => ?_
  have hne := hp.pageSize_ne_zero
  cases hsize : p.pageSize with
  | none => simp
  | some size =>
    rw [hsize, ne_eq, Option.some.injEq] at hne
    simp [Nat.one_le_iff_ne_zero.2 hne]

/-! ## Loading -/

/-- Settings in a text have a default page size of at least one. -/
theorem default_pos_of_text {format : Format} {text : String} {s : Settings} (h : ofText format text = .ok s) :
    1 ≤ s.defaultPageSize := by
  have hvalue : ∀ format value, ofValue format value = .ok s → 1 ≤ s.defaultPageSize := by
    intro format value h
    unfold ofValue at h
    split at h
    · cases h
    · split at h
      · cases h
      · cases h
        exact Nat.one_le_iff_ne_zero.2 ‹_›
  cases format with
  | toml =>
    rw [ofText, ofTomlText] at h
    split at h
    · exact hvalue _ _ h
    · cases h
  | json =>
    rw [ofText, ofJsonText] at h
    split at h
    · exact hvalue _ _ h
    · cases h

/-- What the environment gives replaces the default page size, even when it is zero. -/
theorem default_pos_withEnvironment {s : Settings} (h : 1 ≤ s.defaultPageSize) (env : Environment) :
    1 ≤ (s.withEnvironment env).defaultPageSize ↔ defaultIn env ≠ some 0 := by
  change 1 ≤ (defaultIn env).getD s.defaultPageSize ↔ _
  cases defaultIn env with
  | none => simpa using h
  | some size =>
    rw [Option.getD_some, ne_eq, Option.some.injEq]
    exact Nat.one_le_iff_ne_zero

/-- Settings that are loaded are those of the environment over the default ones, or over those in a file. -/
theorem load_ok {σ : Type} [Host (Action σ)] {env : Environment} {source : Option String} {before after : σ} {s : Settings}
    (h : (load env source : Action σ Settings).run.run before = (.ok s, after)) :
    ∃ base : Settings, s = base.withEnvironment env ∧ 1 ≤ base.defaultPageSize := by
  cases source with
  | none =>
    cases h
    exact ⟨{}, rfl, by decide⟩
  | some path =>
    rw [load, Action.run_bind] at h
    split at h
    · rename_i result _ _
      cases result with
      | error reason => cases h
      | ok text =>
        rw [Action.run_bind] at h
        cases hbase : ofText (Format.ofPath path) text with
        | error f =>
          rw [hbase] at h
          cases h
        | ok base =>
          rw [hbase] at h
          cases h
          exact ⟨base, rfl, default_pos_of_text hbase⟩
    · cases h

/-- In settings that are read from a text no page size is zero, unless the greatest one allowed is. The same holds of settings that are
loaded from a file and the environment, or from the environment alone, unless the environment gives zero for the default: then requests that
ask for no page size have pages of none. No page size is above the greatest one allowed. -/
theorem loaded_page_sizes {σ : Type} [Host (Action σ)] :
    (∀ format text s, ofText format text = .ok s → s.SizePages False) ∧
      ∀ env source (before after : σ) s, (load env source : Action σ Settings).run.run before = (.ok s, after) →
        s.SizePages (defaultIn env = some 0) := by
  refine ⟨fun format text s h => .of_default ?_, fun env source before after s h => .of_default ?_⟩
  · simpa using default_pos_of_text h
  · obtain ⟨base, rfl, hbase⟩ := load_ok h
    exact default_pos_withEnvironment hbase env

/-- Settings with pages of 50 rows, or of 100 for those who ask. -/
def officeSettings : String := "\x7b\"default_page_size\": 50, \"max_page_size\": 100\x7d"

/-- A directory with a settings file. -/
def office : Workspace where
  entries := [("settings.json", .file officeSettings)]

/-- A file with a default of 50 gives pages of some rows. With a default of zero from the environment over it, a request that asks for no
page size has pages of none, and one that asks for ten rows has its rows. -/
theorem zero_default_of_environment :
    (∃ s, ofText .json officeSettings = .ok s ∧ 1 ≤ ListParams.sizeOfPage {} s) ∧
      ∃ s w, (load [("MODELTYPE_DEFAULT_PAGE_SIZE", "0")] (some "settings.json") : Workspace.Run Settings).run.run office = (.ok s, w) ∧
        s.defaultPageSize = 0 ∧ ListParams.sizeOfPage {} s = 0 ∧ 1 ≤ ListParams.sizeOfPage { pageSize := some 10 } s := by
  have hnone : ListParams.IsRequested {} := Or.inl ⟨.object [], rfl⟩
  have hten : ListParams.IsRequested { pageSize := some 10 } := Or.inl ⟨.object [("pagesize", .nat 10)], rfl⟩
  have htext : (ofText .json officeSettings).toOption.map Settings.maxPageSize = some (some 100) := by decide +kernel
  have hload : ((load [("MODELTYPE_DEFAULT_PAGE_SIZE", "0")] (some "settings.json") : Workspace.Run Settings).run.run
      office).1.toOption.map Settings.maxPageSize = some (some 100) := by decide +kernel
  have hzero : defaultIn [("MODELTYPE_DEFAULT_PAGE_SIZE", "0")] = some 0 := by decide +kernel
  obtain ⟨hsizes, hsizes'⟩ := loaded_page_sizes (σ := Workspace)
  constructor
  · obtain ⟨s, hs, hmost⟩ := Outcome.map_toOption_eq_some_iff.1 htext
    exact ⟨s, hs, ((hsizes _ _ s hs).size_pos_iff _ hnone).2 ⟨by simp [hmost], fun _ => not_false⟩⟩
  · rcases hrun : (load [("MODELTYPE_DEFAULT_PAGE_SIZE", "0")] (some "settings.json") : Workspace.Run Settings).run.run office
      with ⟨loaded, w⟩
    rw [hrun] at hload
    obtain ⟨s, rfl, hmost⟩ := Outcome.map_toOption_eq_some_iff.1 hload
    have hs := hsizes' _ _ _ _ s hrun
    refine ⟨s, w, rfl, ?_, ?_, (hs.size_pos_iff _ hten).2 ⟨by simp [hmost], nofun⟩⟩
    · exact Nat.lt_one_iff.1 (Nat.not_le.1 fun h => hs.default_pos_iff.1 h hzero)
    · exact Nat.lt_one_iff.1 (Nat.not_le.1 fun h => ((hs.size_pos_iff _ hnone).1 h).2 rfl hzero)

end Settings

end ModelCatalog
