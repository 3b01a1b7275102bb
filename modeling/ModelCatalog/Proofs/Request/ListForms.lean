import ModelCatalog.Proofs.Paging
import ModelCatalog.Proofs.Request.Payloads

/-!
# The forms of a list

A list request answers with all records, with a page of them, with their number or with whether there are any. All of these are forms of the
same records (`list_eq_choose`): what makes one form fail makes every form fail, and otherwise each is computed from the records that the
plain list has (`list_forms_agree`).
-/

namespace ModelCatalog

/-- Whether a form is chosen before or after each record is changed does not matter. -/
theorem PayloadOptions.mapRows_choose (o : PayloadOptions) (rows : List Row) (f : Row → Row) :
    (o.choose rows).mapRows f = o.choose (rows.map f) := by
  unfold choose
  split
  · simp [Payload.mapRows, Pages.of, Pages.nearest, Pages.slice, Pages.count, List.map_take, List.map_drop]
  · split
    · rw [List.length_map]
      rfl
    · split
      · rw [List.length_map]
        rfl
      · rfl

namespace Context

variable (c : Context) (s : Store) (q : QuerySet) (p : ListParams)

/-- The records that a list request is about, in whichever form it asks for them. -/
def recordsFound : Outcome (List Row) := do
  let m ← c.registry.model q.model
  let refined ← c.refine q p
  let o := PayloadOptions.ofParams p c.settings
  let serializer ← o.serializer (.ofModel m)
  let q := if o.values.isEmpty then refined else refined.project serializer.storedFields
  q.check c.registry
  return (q.matching c.registry s).map fun row => serializer.serialize (q.shape c.registry s row)

/-- A list request answers with its records in the form that it asks for. -/
theorem list_eq_choose : c.list s q p = (c.recordsFound s q p).map (PayloadOptions.ofParams p c.settings).choose := by
  unfold list recordsFound
  cases c.registry.model q.model with
  | error f => rfl
  | ok m =>
    simp only [bind, Except.bind]
    cases c.refine q p with
    | error f => rfl
    | ok refined =>
      simp only [PayloadOptions.payload_eq, bind, Except.bind]
      cases (PayloadOptions.ofParams p c.settings).serializer (.ofModel m) with
      | error f => rfl
      | ok serializer =>
        simp only [PayloadOptions.mapRows_choose]
        cases QuerySet.check c.registry _ <;> rfl

/-- The form that is asked for has no part in finding the records. -/
theorem recordsFound_form (page : Option Nat) (onlyExists onlyCount : Bool) :
    c.recordsFound s q { p with page, onlyExists, onlyCount } = c.recordsFound s q p := rfl

end Context

/-- The forms of a list request agree. When the plain list fails, every form fails in the same way. When it has some records, their number
and whether there are any are answered for them, and each page gives their number and how many pages there are, which is their number over
the page size, rounded up; the pages from the first to the last are the records one after another. A page comes before the question whether
there are records, and that before their number; for a page that there is not the nearest one is given. -/
theorem list_forms_agree (c : Context) (s : Store) (q : QuerySet) (p : ListParams) :
    let form (page : Option Nat) (onlyExists onlyCount : Bool) := c.list s q { p with page, onlyExists, onlyCount }
    match form none false false with
    | .error f => ∀ page onlyExists onlyCount, form page onlyExists onlyCount = .error f
    | .ok payload => ∃ records, payload = .rows records ∧
        form none false true = .ok (.count records.length) ∧
        (∀ onlyCount, form none true onlyCount = .ok (.inhabited (records ≠ []))) ∧
        let size : Nat := max (p.sizeOfPage c.settings) 1
        let pages := ⌈(records.length / size : ℚ)⌉₊
        let slice (number : Nat) := (records.drop ((number - 1) * size)).take size
        (∀ number onlyExists onlyCount, form (some number) onlyExists onlyCount =
          let nearest := max 1 (min number (max pages 1))
          .ok (.page records.length pages nearest (slice nearest))) ∧
        (List.range' 1 pages).flatMap slice = records := by
  intro form
  have hform : ∀ page onlyExists onlyCount, form page onlyExists onlyCount = (c.recordsFound s q p).map
      (PayloadOptions.ofParams { p with page, onlyExists, onlyCount } c.settings).choose := by
    intro page onlyExists onlyCount
    rw [← c.recordsFound_form s q p page onlyExists onlyCount]
    exact c.list_eq_choose s q _
  simp only [hform]
  cases c.recordsFound s q p with
  | error f => exact fun _ _ _ => rfl
  | ok records =>
    let cut := Pages.of records (p.sizeOfPage c.settings)
    have hceil : ⌈(records.length / (max (p.sizeOfPage c.settings) 1 : Nat) : ℚ)⌉₊ = cut.count := cut.count_eq_ceil.symm
    refine ⟨records, rfl, rfl, fun onlyCount => ?_, ?_⟩
    · have hany : decide (0 < records.length) = decide (records ≠ []) := decide_eq_decide.2 List.length_pos_iff
      exact congrArg (fun any => Except.ok (Payload.inhabited any)) hany
    · simp only [hceil]
      exact ⟨fun _ _ _ => rfl, cut.flatMap_slice⟩

end ModelCatalog
