import ModelCatalog.Proofs.Json.Dict
import ModelCatalog.Proofs.Lists
import ModelCatalog.Proofs.Schema.ClientNames

/-!
# Arguments of a call

A call binds the arguments that are submitted to those that its method declares, which have different names in a built registry
(`IsBuilt.arguments_nodup`). What can be wrong with an argument is told by `Method.HasFault`, one kind of fault after another, and
`Method.Accepts` says that nothing is. Binding looks for unexpected names first and then at each declared argument; no name comes up twice
(`nodup_complaints`), so every fault is reported once under the name that it is about (`arguments_bound`).
-/

namespace ModelCatalog

/-! ## Methods of a registry -/

/-- Methods that pass have arguments of different names. -/
theorem Model.arguments_nodup_of_checkMethods {m : Model} {taken : List String} {methods : List Method}
    (h : m.checkMethods taken methods = .ok ()) : ∀ method ∈ methods, (method.args.map Column.name).Nodup := by
  induction methods generalizing taken with
  | nil => nofun
  | cons method rest ih =>
    unfold checkMethods at h
    split at h
    · cases h
    · split at h
      · cases h
      · split at h
        · cases h
        · exact List.forall_mem_cons.2 ⟨(firstTaken?_eq_none ‹_›).1, ih h⟩

/-- No method of a built registry has two arguments of one name. -/
theorem Registry.IsBuilt.arguments_nodup {r : Registry} (hr : r.IsBuilt) {m : Model} (hm : m ∈ r.models) {method : Method}
    (hmethod : method ∈ m.methods) : (method.args.map Column.name).Nodup := by
  obtain ⟨models, validators, handlers, hbuild⟩ := hr
  have hcompleted := completeModels_of_build hbuild
  obtain ⟨d, hd, rfl⟩ := List.mem_map.1 (completeModels_eq hcompleted ▸ hm)
  obtain ⟨names, -, h⟩ := Outcome.bind_ok_iff.1 (checkNames_of_completed hcompleted hd)
  split at h
  · cases h
  · exact Model.arguments_nodup_of_checkMethods h method hmethod

/-! ## Faults -/

/-- What is wrong with the value submitted for a declared argument, if there is one. -/
inductive Column.HasFault (arg : Column) : Option Json → Complaint → Prop where
  | missing (hnull : arg.null = false) : HasFault arg none { message := "This argument is required.", code := "required" }
  | null (hnull : arg.null = false) : HasFault arg (some .null) { message := "This argument may not be null.", code := "null" }
  | noChoice {value : Json} (hvalue : value ≠ .null) (hchoices : arg.choices ≠ [])
      (hother : ∀ choice ∈ arg.choices, choice.value.same value = false) :
    HasFault arg (some value) { message := "Not a valid choice.", code := "invalid_choice" }

/-- Nothing is wrong with an argument that is given where it has to be and is one of its choices where it has any. -/
theorem Column.forall_not_hasFault_iff {arg : Column} {submitted : Option Json} :
    (∀ c, ¬arg.HasFault submitted c) ↔
      (arg.null = false → ∃ value, submitted = some value ∧ value ≠ .null) ∧
        (arg.choices ≠ [] → ∀ value, submitted = some value → value ≠ .null → ∃ choice ∈ arg.choices, choice.value.same value = true) := by
  constructor
  · refine fun h => ⟨fun hnull => ?_, fun hchoices value hvalue hne => ?_⟩
    · cases submitted with
      | none => exact (h _ (.missing hnull)).elim
      | some value =>
        refine ⟨value, rfl, ?_⟩
        rintro rfl
        exact h _ (.null hnull)
    · by_contra hnone
      subst hvalue
      refine h _ (.noChoice hne hchoices fun choice hchoice => Bool.eq_false_iff.2 fun hsame => ?_)
      exact hnone ⟨choice, hchoice, hsame⟩
  · rintro ⟨hgiven, hchosen⟩ c hfault
    cases hfault with
    | missing hnull =>
      obtain ⟨_, hvalue, -⟩ := hgiven hnull
      cases hvalue
    | null hnull =>
      obtain ⟨_, hvalue, hne⟩ := hgiven hnull
      cases hvalue
      exact hne rfl
    | noChoice hne hchoices hother =>
      obtain ⟨choice, hchoice, hsame⟩ := hchosen hchoices _ rfl hne
      rw [hother choice hchoice] at hsame
      cases hsame

namespace Method

/-- What is wrong with the argument of a name. -/
inductive HasFault (m : Method) (submitted : Row) : String → Complaint → Prop where
  | unexpected {name : String} (hname : name ∈ submitted.keys) (hnew : name ∉ m.args.map Column.name) :
    HasFault m submitted name { message := "Unexpected argument.", code := "unexpected" }
  | declared {arg : Column} {c : Complaint} (harg : arg ∈ m.args) (hfault : arg.HasFault (submitted.get? arg.name) c) :
    HasFault m submitted arg.name c

/-- Arguments that a method can be called with. -/
structure Accepts (m : Method) (submitted : Row) : Prop where
  declared : ∀ name ∈ submitted.keys, name ∈ m.args.map Column.name
  given : ∀ arg ∈ m.args, arg.null = false → ∃ value, submitted.get? arg.name = some value ∧ value ≠ .null
  chosen : ∀ arg ∈ m.args, arg.choices ≠ [] → ∀ value, submitted.get? arg.name = some value → value ≠ .null →
    ∃ choice ∈ arg.choices, choice.value.same value = true

variable {m : Method} {submitted : Row}

/-- Nothing is wrong with arguments that are accepted, and with no others. -/
theorem accepts_iff : m.Accepts submitted ↔ ∀ name c, ¬m.HasFault submitted name c := by
  constructor
  · rintro ⟨hdeclared, hgiven, hchosen⟩ name c (⟨hname, hnew⟩ | ⟨harg, hfault⟩)
    · exact hnew (hdeclared name hname)
    · exact Column.forall_not_hasFault_iff.2 ⟨hgiven _ harg, hchosen _ harg⟩ c hfault
  · intro h
    have hargs : ∀ arg ∈ m.args, ∀ c, ¬arg.HasFault (submitted.get? arg.name) c := fun arg harg c hfault => h _ c (.declared harg hfault)
    refine ⟨fun name hname => ?_, fun arg harg => (Column.forall_not_hasFault_iff.1 (hargs arg harg)).1,
      fun arg harg => (Column.forall_not_hasFault_iff.1 (hargs arg harg)).2⟩
    by_contra hnew
    exact h _ _ (.unexpected hname hnew)

/-! ## Complaints -/

theorem complaint?_eq_some_iff {arg : Column} {value : Option Json} {c : Complaint} :
    complaint? arg value = some c ↔ arg.HasFault value c := by
  constructor
  · intro h
    unfold complaint? at h
    split at h
    · split at h
      · cases h
      · rename_i hnull
        cases h
        exact .missing (Bool.eq_false_iff.2 hnull)
    · split at h
      · cases h
      · rename_i hnull
        cases h
        exact .null (Bool.eq_false_iff.2 hnull)
    · rename_i value hne
      split at h
      · cases h
      · rename_i hother
        cases h
        rw [Bool.or_eq_true, not_or, List.isEmpty_iff, Bool.not_eq_true, List.any_eq_false] at hother
        exact .noChoice hne hother.1 fun choice hchoice => by simpa using hother.2 choice hchoice
  · intro h
    cases h with
    | missing hnull => simp [complaint?, hnull]
    | null hnull => simp [complaint?, hnull]
    | noChoice hne hchoices hother =>
      rw [complaint?, if_neg]
      · rw [Bool.or_eq_true, not_or, List.isEmpty_iff, Bool.not_eq_true, List.any_eq_false]
        exact ⟨hchoices, fun choice hchoice => by simp [hother choice hchoice]⟩
      · exact hne

/-- What is complained about is what is wrong. -/
theorem mem_complaints_iff {name : String} {c : Complaint} : (name, c) ∈ m.complaints submitted ↔ m.HasFault submitted name c := by
  rw [complaints, List.mem_append, List.mem_map, List.mem_filterMap]
  constructor
  · rintro (⟨_, hname, heq⟩ | ⟨arg, harg, hc⟩)
    · cases heq
      rw [List.mem_filter] at hname
      exact .unexpected hname.1 (by simpa using hname.2)
    · obtain ⟨_, hc, heq⟩ := Option.map_eq_some_iff.1 hc
      cases heq
      exact .declared harg (complaint?_eq_some_iff.1 hc)
  · intro h
    cases h with
    | unexpected hname hnew => exact Or.inl ⟨name, List.mem_filter.2 ⟨hname, by simpa using hnew⟩, rfl⟩
    | declared harg hfault => exact Or.inr ⟨_, harg, by rw [complaint?_eq_some_iff.2 hfault, Option.map_some]⟩

/-- No name is complained about twice. -/
theorem nodup_complaints (submitted : Row) (hargs : (m.args.map Column.name).Nodup) :
    ((m.complaints submitted).map Prod.fst).Nodup := by
  have hname : ∀ {arg : Column} {entry : String × Complaint},
      (complaint? arg (submitted.get? arg.name)).map (Prod.mk arg.name) = some entry → entry.1 = arg.name := by
    intro arg entry h
    obtain ⟨_, -, rfl⟩ := Option.map_eq_some_iff.1 h
    rfl
  rw [complaints, List.map_append, List.map_map, List.nodup_append]
  refine ⟨?_, ?_, ?_⟩
  · exact (List.map_id _).symm ▸ submitted.keys_nodup.filter _
  -- at most one complaint about each declared argument, under its name
  · rw [List.Nodup, List.pairwise_map, List.pairwise_filterMap]
    refine (List.pairwise_map.1 hargs).imp fun hne entry hentry entry' hentry' => ?_
    rw [hname hentry, hname hentry']
    exact hne
  -- an unexpected name is that of no argument
  · rintro n hn _ hn' rfl
    obtain ⟨entry, hentry, rfl⟩ := List.mem_map.1 hn'
    obtain ⟨arg, harg, hentry⟩ := List.mem_filterMap.1 hentry
    obtain ⟨_, hnew, heq⟩ := List.mem_map.1 hn
    rw [List.mem_filter, Bool.not_eq_true', List.any_eq_false] at hnew
    exact hnew.2 arg harg (decide_eq_true (heq.trans (hname hentry)).symm)

/-! ## Complaints by name -/

/-- The complaints collected under a name are those about it, one behind another. -/
theorem get?_foldl_collect (found : List (String × Complaint)) (d : Dict (List Complaint)) (name : String) :
    (found.foldl (fun d entry => d.insert entry.1 ((d.get? entry.1).getD [] ++ [entry.2])) d).get? name =
      (found.filter fun entry => entry.1 = name).foldl (fun held entry => some (held.getD [] ++ [entry.2])) (d.get? name) := by
  induction found generalizing d with
  | nil => rfl
  | cons entry found ih =>
    rw [List.foldl_cons, ih, Dict.get?_insert]
    by_cases hname : entry.1 = name
    · rw [if_pos hname, List.filter_cons_of_pos (by simpa using hname), List.foldl_cons, hname]
    · rw [if_neg hname, List.filter_cons_of_neg (by simpa using hname)]

/-- Where no name comes twice, each has the one complaint about it. -/
theorem get?_collect_eq_some_iff {found : List (String × Complaint)} (hnodup : (found.map Prod.fst).Nodup) {name : String}
    {held : List Complaint} : (collect found).get? name = some held ↔ ∃ c, (name, c) ∈ found ∧ held = [c] := by
  have hone : found.Pairwise fun a b => ¬(decide (a.1 = name) = true ∧ decide (b.1 = name) = true) := by
    refine (List.pairwise_map.1 hnodup).imp fun hne h => hne ?_
    rw [of_decide_eq_true h.1, of_decide_eq_true h.2]
  have hmem : ∀ c, (name, c) ∈ found ↔ (name, c) ∈ found.filter fun entry => entry.1 = name := by simp
  rw [collect, get?_foldl_collect]
  simp only [hmem]
  rw [filter_eq_find? hone]
  cases hfound : found.find? fun entry => entry.1 = name with
  | none => simp
  | some entry =>
    obtain ⟨n, c⟩ := entry
    have hname : n = name := by simpa using List.find?_some hfound
    subst hname
    simp [eq_comm]

/-! ## Binding -/

theorem bind_eq_ok_iff {bound : Row} :
    m.bind submitted = .ok bound ↔
      m.complaints submitted = [] ∧ bound = Dict.of (m.args.map fun arg => (arg.name, (submitted.get? arg.name).getD .null)) := by
  unfold bind
  split
  · rename_i hnil
    rw [Except.ok.injEq, eq_comm, and_iff_right hnil]
  · rename_i hfound
    exact ⟨nofun, fun h => absurd h.1 hfound⟩

theorem bind_of_ne_nil (h : m.complaints submitted ≠ []) :
    m.bind submitted = .error (.rejected (.byField (collect (m.complaints submitted)))) := by
  unfold bind
  split
  · exact absurd ‹_› h
  · rfl

theorem complaints_eq_nil_iff : m.complaints submitted = [] ↔ m.Accepts submitted := by
  rw [accepts_iff, List.eq_nil_iff_forall_not_mem, Prod.forall]
  simp only [mem_complaints_iff]

/-- Arguments are bound when the method accepts them. Then each declared name has the value submitted for it, or null, and no other name has
one. Otherwise the call is rejected, and the rejection has, under each name that something is wrong with and no others, the one complaint about
it. -/
theorem arguments_bound (m : Method) (submitted : Row) (hargs : (m.args.map Column.name).Nodup) :
    ((∃ bound, m.bind submitted = .ok bound) ↔ m.Accepts submitted) ∧
      (∀ bound, m.bind submitted = .ok bound →
        ∀ name, bound.get? name = if name ∈ m.args.map Column.name then some ((submitted.get? name).getD .null) else none) ∧
      (¬m.Accepts submitted → ∃ fields, m.bind submitted = .error (.rejected (.byField fields)) ∧ fields ≠ .empty ∧
        ∀ name complaints, fields.get? name = some complaints ↔ ∃ c, m.HasFault submitted name c ∧ complaints = [c]) := by
  refine ⟨?_, fun bound hbound => ?_, fun hfault => ?_⟩
  · simp only [bind_eq_ok_iff, exists_and_left, exists_eq, and_true, complaints_eq_nil_iff]
  · obtain ⟨-, rfl⟩ := bind_eq_ok_iff.1 hbound
    intro name
    rw [← Dict.get?_empty (α := Json) name,
      ← Dict.get?_extend_map .empty (m.args.map Column.name) fun name => (submitted.get? name).getD .null, List.map_map]
    rfl
  · rw [← complaints_eq_nil_iff] at hfault
    have hget : ∀ name held, (collect (m.complaints submitted)).get? name = some held ↔ _ := fun _ _ =>
      get?_collect_eq_some_iff (nodup_complaints submitted hargs)
    refine ⟨_, bind_of_ne_nil hfault, fun hnil => ?_, fun name held => ?_⟩
    · obtain ⟨entry, hentry⟩ := List.exists_mem_of_ne_nil _ hfault
      have hheld := (hget entry.1 [entry.2]).2 ⟨_, hentry, rfl⟩
      rw [hnil] at hheld
      cases hheld
    · simp only [hget, mem_complaints_iff]

end Method

/-- Calls a row by another name, for a reason and in a mode that may both be left out. -/
def renameMethod : Method where
  name := "rename"
  args :=
    [{ name := "name", kind := .scalar .char }, { name := "reason", kind := .scalar .text, null := true },
      { name := "mode", kind := .scalar .char, null := true
        choices := [{ value := .text "soft", label := "Soft" }, { value := .text "hard", label := "Hard" }] }]

/-- Faults of three kinds are reported together, and a call without any is bound with null for the reason. -/
theorem rename_calls :
    (renameMethod.args.map Column.name).Nodup ∧
      renameMethod.bind (.of [("extra", .number (.int 1)), ("mode", .text "medium"), ("reason", .null)]) =
        .error (.rejected (.byField
          (.of [("extra", [{ message := "Unexpected argument.", code := "unexpected" }]),
            ("mode", [{ message := "Not a valid choice.", code := "invalid_choice" }]),
            ("name", [{ message := "This argument is required.", code := "required" }])]))) ∧
      (∀ c, renameMethod.HasFault (.of [("extra", .number (.int 1)), ("mode", .text "medium"), ("reason", .null)]) "mode" c ↔
        c = { message := "Not a valid choice.", code := "invalid_choice" }) ∧
      renameMethod.bind (.of [("mode", .text "soft"), ("name", .text "x")]) =
        .ok (.of [("mode", .text "soft"), ("name", .text "x"), ("reason", .null)]) ∧
      renameMethod.Accepts (.of [("mode", .text "soft"), ("name", .text "x")]) := by
  have hargs : (renameMethod.args.map Column.name).Nodup := by decide
  obtain ⟨hrefused, -, hrejected⟩ := Method.arguments_bound renameMethod
    (.of [("extra", .number (.int 1)), ("mode", .text "medium"), ("reason", .null)]) hargs
  obtain ⟨haccepted, -, -⟩ := Method.arguments_bound renameMethod (.of [("mode", .text "soft"), ("name", .text "x")]) hargs
  refine ⟨hargs, rfl, fun c => ?_, rfl, haccepted.1 ⟨_, rfl⟩⟩
  obtain ⟨fields, hfields, -, hget⟩ := hrejected fun h => nomatch hrefused.2 h
  cases hfields
  have hmode : some [({ message := "Not a valid choice.", code := "invalid_choice" } : Complaint)] = some [c] ↔ _ := hget "mode" [c]
  simpa [eq_comm] using hmode.symm

end ModelCatalog
