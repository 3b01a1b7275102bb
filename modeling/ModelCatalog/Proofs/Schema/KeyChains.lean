import Mathlib.Data.List.Perm.Subperm
import Mathlib.Logic.Function.Iterate
import Mathlib.Tactic.Choose
import ModelCatalog.Proofs.Schema.Built

/-!
# Chains of keys

A primary key that is a reference takes its kind from the primary key of the model it refers to. `KeyChain` follows these references
from model to model down to a plain key; `IsKeyEndless` says that they go on forever. Each model of a built registry has a chain or an
endless key, and not both. `Registry.keyKind` gives up after one step more than there are models, which is never too early: a chain visits no
model twice (`KeyChain.nodup`), so it is no longer than the registry, and the kind is found exactly at the end of a chain
(`keyKind_eq_ok_iff`), a cycle reported exactly for an endless key (`keyKind_eq_error_iff`).
-/

namespace ModelCatalog

/-- The primary key of a model is a reference to another. -/
def KeyRefers (r : Registry) (m m' : Model) : Prop :=
  ∃ ref, m.keyField? = some (.reference ref) ∧ r.model? ref.target = some m'

/-- From a model on, primary keys refer from model to model down to a plain key of some kind; these are the models on the way, the last one
included. -/
inductive KeyChain (r : Registry) : Model → List Model → Kind → Prop where
  | plain {m : Model} {c : Column} (hkey : m.keyField? = some (.plain c)) : KeyChain r m [m] c.kind
  | refers {m m' : Model} {ms : List Model} {k : Kind} (hkey : KeyRefers r m m') (hrest : KeyChain r m' ms k) : KeyChain r m (m :: ms) k

/-- From a model on, primary keys refer from model to model without end. -/
def IsKeyEndless (r : Registry) (m : Model) : Prop :=
  ∃ chain : Nat → Model, chain 0 = m ∧ ∀ i, KeyRefers r (chain i) (chain (i + 1))

variable {r : Registry} {m m' : Model} {ms : List Model} {k : Kind}

theorem KeyRefers.unique {m'' : Model} (h : KeyRefers r m m') (h' : KeyRefers r m m'') : m' = m'' := by
  obtain ⟨ref, hkey, hmodel⟩ := h
  obtain ⟨ref', hkey', hmodel'⟩ := h'
  obtain rfl := Field.reference.inj (Option.some.inj (hkey.symm.trans hkey'))
  exact Option.some.inj (hmodel.symm.trans hmodel')

theorem KeyRefers.model?_target (h : KeyRefers r m m') : r.model? m'.name = some m' := by
  obtain ⟨ref, -, hmodel⟩ := h
  rw [Registry.name_of_model? hmodel, hmodel]

theorem KeyRefers.not_plain {c : Column} (h : KeyRefers r m m') : m.keyField? ≠ some (.plain c) := by
  obtain ⟨ref, hkey, -⟩ := h
  rw [hkey]
  exact nofun

/-! ## Chains that end -/

namespace KeyChain

/-- A model has one chain at most. -/
theorem unique {ms' : List Model} {k' : Kind} (h : KeyChain r m ms k) (h' : KeyChain r m ms' k') : ms = ms' ∧ k = k' := by
  induction h generalizing ms' with
  | plain hkey =>
    cases h' with
    | plain hkey' =>
      obtain rfl := Field.plain.inj (Option.some.inj (hkey.symm.trans hkey'))
      exact ⟨rfl, rfl⟩
    | refers hrefers _ => exact absurd hkey hrefers.not_plain
  | refers hrefers _ ih =>
    cases h' with
    | plain hkey => exact absurd hkey hrefers.not_plain
    | refers hrefers' hrest' =>
      obtain rfl := hrefers.unique hrefers'
      obtain ⟨rfl, rfl⟩ := ih hrest'
      exact ⟨rfl, rfl⟩

/-- Each model of a chain has the rest of the chain for its own. -/
theorem exists_suffix (h : KeyChain r m ms k) (hmem : m' ∈ ms) : ∃ ms', ms' <:+ ms ∧ KeyChain r m' ms' k := by
  induction h with
  | plain hkey =>
    obtain rfl := List.mem_singleton.1 hmem
    exact ⟨_, List.suffix_refl _, .plain hkey⟩
  | refers hrefers hrest ih =>
    rcases List.mem_cons.1 hmem with rfl | hmem
    · exact ⟨_, List.suffix_refl _, .refers hrefers hrest⟩
    · obtain ⟨ms', hsuffix, hchain⟩ := ih hmem
      exact ⟨ms', hsuffix.trans (List.suffix_cons _ _), hchain⟩

/-- A chain visits no model twice: the two visits would be followed by chains of different lengths. -/
theorem nodup (h : KeyChain r m ms k) : ms.Nodup := by
  induction h with
  | plain hkey => exact List.nodup_singleton _
  | @refers m m' ms k hrefers hrest ih =>
    refine List.nodup_cons.2 ⟨fun hmem => ?_, ih⟩
    obtain ⟨ms', hsuffix, hchain⟩ := hrest.exists_suffix hmem
    obtain ⟨rfl, -⟩ := hchain.unique (.refers hrefers hrest)
    have hle := hsuffix.length_le
    rw [List.length_cons] at hle
    omega

/-- The models of a chain are registered when the first one is. -/
theorem subset (h : KeyChain r m ms k) (hm : m ∈ r.models) : ms ⊆ r.models := by
  induction h with
  | plain hkey => exact List.cons_subset.2 ⟨hm, List.nil_subset _⟩
  | refers hrefers hrest ih =>
    exact List.cons_subset.2 ⟨hm, ih (Registry.mem_of_model? hrefers.model?_target)⟩

/-- A chain is no longer than the registry. -/
theorem length_le (h : KeyChain r m ms k) (hm : m ∈ r.models) : ms.length ≤ r.models.length :=
  (List.Nodup.subperm h.nodup (h.subset hm)).length_le

/-- The models of a chain are not endless. -/
theorem not_isKeyEndless (h : KeyChain r m ms k) : ¬IsKeyEndless r m := by
  induction h with
  | plain hkey =>
    rintro ⟨chain, rfl, hrefers⟩
    exact (hrefers 0).not_plain hkey
  | refers hrefers hrest ih =>
    rintro ⟨chain, rfl, hchain⟩
    exact ih ⟨fun i => chain (i + 1), (hchain 0).unique hrefers, fun i => hchain (i + 1)⟩

end KeyChain

/-! ## Keys in a built registry -/

section

variable (hr : r.IsBuilt)

include hr

/-- The key of a registered model is plain, or refers to a registered model. -/
theorem keyField?_cases (hm : r.model? m.name = some m) :
    (∃ c, m.keyField? = some (.plain c)) ∨ ∃ m', KeyRefers r m m' := by
  obtain ⟨f, hf, hprimary, hkey, -⟩ := (hr.sound hm).keyColumn
  cases f with
  | plain c => exact Or.inl ⟨c, hkey⟩
  | reference ref =>
    obtain ⟨m', hm'⟩ := hr.target hm hf rfl
    exact Or.inr ⟨m', ref, hkey, hm'⟩
  | inverse i => cases hprimary
  | links l => cases hprimary

/-- The key of a registered model that has no chain is endless. -/
theorem isKeyEndless_of_not_keyChain (hm : r.model? m.name = some m) (h : ¬∃ ms k, KeyChain r m ms k) : IsKeyEndless r m := by
  -- a model without a chain refers to another one without a chain, and so on
  have hnext : ∀ n : {n : Model // r.model? n.name = some n ∧ ¬∃ ms k, KeyChain r n ms k},
      ∃ n' : {n : Model // r.model? n.name = some n ∧ ¬∃ ms k, KeyChain r n ms k}, KeyRefers r n.1 n'.1 := by
    rintro ⟨n, hn, hchain⟩
    rcases keyField?_cases hr hn with ⟨c, hkey⟩ | ⟨n', hrefers⟩
    · exact absurd ⟨_, _, .plain hkey⟩ hchain
    · refine ⟨⟨n', hrefers.model?_target, ?_⟩, hrefers⟩
      rintro ⟨ms, k, hrest⟩
      exact hchain ⟨_, _, .refers hrefers hrest⟩
  choose next hrefers using hnext
  refine ⟨fun i => (Nat.iterate next i ⟨m, hm, h⟩).1, rfl, fun i => ?_⟩
  simp only [Function.iterate_succ_apply']
  exact hrefers _

end

/-! ## The kind of a key -/

section

variable {start : String} {steps : Nat}

theorem keyKindFrom_plain {c : Column} (hm : r.model? m.name = some m) (hkey : m.keyField? = some (.plain c)) :
    r.keyKindFrom start (steps + 1) m.name = .ok c.kind := by
  rw [Registry.keyKindFrom, Registry.model_ok_iff.2 hm]
  simp only [bind, Except.bind, hkey]
  rfl

theorem keyKindFrom_refers (hm : r.model? m.name = some m) (hkey : KeyRefers r m m') :
    r.keyKindFrom start (steps + 1) m.name = r.keyKindFrom start steps m'.name := by
  obtain ⟨ref, hkey, hmodel⟩ := hkey
  rw [Registry.keyKindFrom, Registry.model_ok_iff.2 hm]
  simp only [bind, Except.bind, hkey, Registry.name_of_model? hmodel]

/-- As many steps as a chain has models lead to its end; with fewer, and from an endless key, a cycle is reported. -/
theorem keyKindFrom_cases (hr : r.IsBuilt) (hm : r.model? m.name = some m) (start : String) (steps : Nat) :
    (∃ ms k, KeyChain r m ms k ∧ r.keyKindFrom start steps m.name = .ok k) ∨
      r.keyKindFrom start steps m.name = .error (.keyCycle start) ∧ ∀ ms k, KeyChain r m ms k → steps < ms.length := by
  induction steps generalizing m with
  | zero =>
    refine Or.inr ⟨rfl, fun ms k hchain => ?_⟩
    cases hchain <;> exact Nat.succ_pos _
  | succ steps ih =>
    rcases keyField?_cases hr hm with ⟨c, hkey⟩ | ⟨m', hrefers⟩
    · exact Or.inl ⟨_, _, .plain hkey, keyKindFrom_plain hm hkey⟩
    · rw [keyKindFrom_refers hm hrefers]
      refine (ih hrefers.model?_target).imp ?_ ?_
      · rintro ⟨ms, k, hrest, hkind⟩
        exact ⟨_, _, .refers hrefers hrest, hkind⟩
      · rintro ⟨hcycle, hlong⟩
        refine ⟨hcycle, fun ms k hchain => ?_⟩
        cases hchain with
        | plain hkey => exact absurd hkey hrefers.not_plain
        | refers hrefers' hrest =>
          obtain rfl := hrefers.unique hrefers'
          exact Nat.succ_lt_succ (hlong _ _ hrest)

/-- The kind of a key is the one at the end of its chain, and a cycle is reported for an endless key. -/
theorem keyKind_cases (hr : r.IsBuilt) (hm : r.model? m.name = some m) :
    (∃ ms k, KeyChain r m ms k ∧ r.keyKind m.name = .ok k) ∨
      IsKeyEndless r m ∧ r.keyKind m.name = .error (.keyCycle m.name) := by
  refine (keyKindFrom_cases hr hm m.name (r.models.length + 1)).imp_right ?_
  rintro ⟨hcycle, hlong⟩
  refine ⟨isKeyEndless_of_not_keyChain hr hm ?_, hcycle⟩
  rintro ⟨ms, k, hchain⟩
  have hlength := hchain.length_le (Registry.mem_of_model? hm)
  exact absurd (hlong ms k hchain) (by omega)

theorem keyKind_eq_ok_iff (hr : r.IsBuilt) (hm : r.model? m.name = some m) :
    r.keyKind m.name = .ok k ↔ ∃ ms, KeyChain r m ms k := by
  rcases keyKind_cases hr hm with ⟨ms, k', hchain, hkind⟩ | ⟨hendless, hcycle⟩
  · rw [hkind, Except.ok.injEq]
    constructor
    · rintro rfl
      exact ⟨ms, hchain⟩
    · rintro ⟨ms', hchain'⟩
      exact (hchain.unique hchain').2
  · rw [hcycle]
    refine ⟨nofun, ?_⟩
    rintro ⟨ms, hchain⟩
    exact absurd hendless hchain.not_isKeyEndless

theorem keyKind_eq_error_iff (hr : r.IsBuilt) (hm : r.model? m.name = some m) (e : Failure) :
    r.keyKind m.name = .error e ↔ e = .keyCycle m.name ∧ IsKeyEndless r m := by
  rcases keyKind_cases hr hm with ⟨ms, k, hchain, hkind⟩ | ⟨hendless, hcycle⟩
  · rw [hkind]
    exact ⟨nofun, fun h => absurd h.2 hchain.not_isKeyEndless⟩
  · rw [hcycle, Except.error.injEq]
    exact ⟨fun h => ⟨h.symm, hendless⟩, fun h => h.1.symm⟩

end

end ModelCatalog
