import ModelCatalog.Proofs.Client.Literal
import ModelCatalog.Proofs.Json.Order

/-!
# Literals tell values apart

Two literals are equal only when their values are alike: the same but for numbers, which count by their texts. The first character of a
literal tells the kind of the value (`literalClass`), and what follows a literal is never taken for a part of it: a number ends before a
character that no number has, a name before its colon, a quoted text at its quote and a list at its bracket (`isReadAs_literal`).
-/

namespace ModelCatalog

/-! ## Values that are alike -/

namespace Json

mutual

/-- Whether two values are the same, numbers being compared by their texts. -/
def Alike : Json → Json → Prop
  | null, null => True
  | bool a, bool b => a = b
  | number m, number n => m.text = n.text
  | text s, text t => s = t
  | list items, list items' => AlikeItems items items'
  | object members, object members' => AlikeMembers members members'
  | _, _ => False

def AlikeItems : List Json → List Json → Prop
  | [], [] => True
  | a :: as, b :: bs => Alike a b ∧ AlikeItems as bs
  | _, _ => False

def AlikeMembers : List (String × Json) → List (String × Json) → Prop
  | [], [] => True
  | (m, a) :: as, (n, b) :: bs => m = n ∧ Alike a b ∧ AlikeMembers as bs
  | _, _ => False

end

theorem alikeItems_of_forall₂ {items items' : List Json} (h : List.Forall₂ Alike items items') : AlikeItems items items' := by
  induction h with
  | nil => trivial
  | cons hitem _ ih => exact ⟨hitem, ih⟩

theorem alikeMembers_of_forall₂ {members members' : List (String × Json)}
    (h : List.Forall₂ (fun m n => m.1 = n.1 ∧ Alike m.2 n.2) members members') : AlikeMembers members members' := by
  induction h with
  | nil => trivial
  | cons hmember _ ih => exact ⟨hmember.1, hmember.2, ih⟩

end Json

namespace Client

mutual

/-- The literals of values that are alike are equal. -/
theorem literal_congr : (v w : Json) → v.Alike w → literal v = literal w
  | .null, w, h => by
    cases w with
    | null => rfl
    | bool | number | text | list | object => exact h.elim
  | .bool a, w, h => by
    cases w with
    | bool b =>
      obtain rfl : a = b := h
      rfl
    | null | number | text | list | object => exact h.elim
  | .number m, w, h => by
    cases w with
    | number n =>
      have htext : m.text = n.text := h
      rw [literal, literal, htext]
    | null | bool | text | list | object => exact h.elim
  | .text s, w, h => by
    cases w with
    | text t =>
      obtain rfl : s = t := h
      rfl
    | null | bool | number | list | object => exact h.elim
  | .list items, w, h => by
    cases w with
    | list items' => rw [literal, literal, literalItems_congr items items' h]
    | null | bool | number | text | object => exact h.elim
  | .object members, w, h => by
    cases w with
    | object members' => rw [literal, literal, literalMembers_congr members members' h]
    | null | bool | number | text | list => exact h.elim

theorem literalItems_congr : (items items' : List Json) → Json.AlikeItems items items' → literalItems items = literalItems items'
  | [], [], _ => rfl
  | [], _ :: _, h => h.elim
  | _ :: _, [], h => h.elim
  | a :: as, b :: bs, h => by
    rw [literalItems, literalItems, literal_congr a b h.1, literalItems_congr as bs h.2]

theorem literalMembers_congr : (members members' : List (String × Json)) → Json.AlikeMembers members members' →
    literalMembers members = literalMembers members'
  | [], [], _ => rfl
  | [], _ :: _, h => h.elim
  | _ :: _, [], h => h.elim
  | (m, a) :: as, (n, b) :: bs, h => by
    rw [literalMembers, literalMembers, h.1, literal_congr a b h.2.1, literalMembers_congr as bs h.2.2]

end

/-! ## Where the parts of a literal end -/

/-- A run of characters of a kind ends where the next character is not of the kind. -/
theorem run_append_inj {kind : Char → Bool} {run run' rest rest' : List Char} (hrun : ∀ c ∈ run, kind c = true)
    (hrun' : ∀ c ∈ run', kind c = true) (hrest : ∀ c ∈ rest.head?, kind c = false) (hrest' : ∀ c ∈ rest'.head?, kind c = false)
    (h : run ++ rest = run' ++ rest') : run = run' ∧ rest = rest' := by
  have htake : ∀ {run rest : List Char}, (∀ c ∈ run, kind c = true) → (∀ c ∈ rest.head?, kind c = false) →
      (run ++ rest).takeWhile kind = run := fun {run rest} hrun hrest => by
    rw [List.takeWhile_append_of_pos hrun]
    cases rest with
    | nil => exact List.append_nil run
    | cons c rest => rw [List.takeWhile_cons_of_neg (by simp [hrest c rfl]), List.append_nil]
  have hsame := congrArg (List.takeWhile kind) h
  rw [htake hrun hrest, htake hrun' hrest'] at hsame
  subst hsame
  exact ⟨rfl, List.append_cancel_left h⟩

/-- Whether a number ends before what follows. -/
def EndsNumber (rest : List Char) : Prop := ∀ c ∈ rest.head?, isNumberChar c = false

/-- Whether a character can go on with an identifier. -/
def isIdentifierPart (c : Char) : Bool := isIdentifierStart c || c.isDigit

theorem isIdentifier_iff (name : String) :
    isIdentifier name = true ↔ Begins (fun c => isIdentifierStart c = true) name ∧ Consists isIdentifierPart name := by
  unfold isIdentifier Begins Consists
  cases name.toList with
  | nil => simp
  | cons c rest =>
    simp only [List.cons.injEq, List.forall_mem_cons, Bool.and_eq_true, List.all_eq_true, isIdentifierPart]
    constructor
    · rintro ⟨hc, hrest⟩
      exact ⟨⟨c, rest, ⟨rfl, rfl⟩, hc⟩, by simp [hc], hrest⟩
    · rintro ⟨⟨d, rest', ⟨rfl, rfl⟩, hd⟩, -, hrest⟩
      exact ⟨hd, hrest⟩

theorem propertyKey_begins (name : String) : Begins (fun c => isIdentifierStart c = true ∨ c = '\'') (propertyKey name) := by
  unfold propertyKey
  split
  · rename_i hname
    exact ((isIdentifier_iff name).1 hname).1.imp fun _ => Or.inl
  · exact ⟨'\'', _, toList_quote name, Or.inr rfl⟩

/-- The name of a property ends at its colon. -/
theorem propertyKey_chars_inj {name name' : String} {rest rest' : List Char}
    (h : (propertyKey name).toList ++ ':' :: rest = (propertyKey name').toList ++ ':' :: rest') : name = name' ∧ rest = rest' := by
  have hcolon : ∀ {rest : List Char}, ∀ c ∈ (':' :: rest).head?, isIdentifierPart c = false := fun c hc => by
    cases hc
    rfl
  -- an identifier does not begin with a quote
  have hmixed : ∀ {name name' : String} {rest rest' : List Char}, isIdentifier name = true →
      name.toList ++ rest ≠ (quote name').toList ++ rest' := fun {name name' rest rest'} hname heq => by
    obtain ⟨c, cs, hcs, hc⟩ := ((isIdentifier_iff name).1 hname).1
    rw [hcs, toList_quote, List.cons_append, List.cons_append, List.cons.injEq] at heq
    rw [heq.1] at hc
    cases hc
  unfold propertyKey at h
  split at h
  · rename_i hname
    split at h
    · rename_i hname'
      obtain ⟨hnames, hrest⟩ := run_append_inj ((isIdentifier_iff name).1 hname).2 ((isIdentifier_iff name').1 hname').2 hcolon hcolon h
      exact ⟨String.toList_injective hnames, (List.cons.inj hrest).2⟩
    · exact absurd h (hmixed hname)
  · split at h
    · rename_i hname'
      exact absurd h.symm (hmixed hname')
    · obtain ⟨hnames, hrest⟩ := quote_chars_inj h
      exact ⟨hnames, (List.cons.inj hrest).2⟩

/-! ## The kind of a value -/

/-- The class of the values whose literal begins with a character. -/
def literalClass (c : Char) : Nat :=
  if c = 'n' then 0
  else if c = '\'' then 1
  else if c = '-' ∨ c.isDigit = true then 2
  else if c = '[' then 3
  else if c = 't' ∨ c = 'f' then 4
  else if c = '\x7b' then 5
  else 6

theorem literal_begins (v : Json) : Begins (fun c => literalClass c = v.sortClass) (literal v) := by
  cases v with
  | null => exact ⟨'n', ['u', 'l', 'l'], rfl, rfl⟩
  | bool b =>
    cases b with
    | true => exact ⟨'t', ['r', 'u', 'e'], rfl, rfl⟩
    | false => exact ⟨'f', ['a', 'l', 's', 'e'], rfl, rfl⟩
  | number n =>
    refine (Number.text_begins n).imp fun c hc => ?_
    have hnull : c ≠ 'n' := by rintro rfl; rcases hc with hc | hc <;> cases hc
    have hquote : c ≠ '\'' := by rintro rfl; rcases hc with hc | hc <;> cases hc
    rw [literalClass, if_neg hnull, if_neg hquote, if_pos (show c = '-' ∨ c.isDigit = true from hc)]
    rfl
  | text s => exact ⟨'\'', _, toList_quote s, rfl⟩
  | list items =>
    have hmark : Begins (fun c => literalClass c = 3) "[" := ⟨'[', [], rfl, rfl⟩
    exact (hmark.append _).append _
  | object members =>
    have hmark : Begins (fun c => literalClass c = 5) "\x7b" := ⟨'\x7b', [], rfl, rfl⟩
    exact (hmark.append _).append _

theorem sortClass_eq {v w : Json} {rest rest' : List Char} (h : (literal v).toList ++ rest = (literal w).toList ++ rest') :
    v.sortClass = w.sortClass := by
  obtain ⟨c, cs, hcs, hc⟩ := literal_begins v
  obtain ⟨d, ds, hds, hd⟩ := literal_begins w
  rw [hcs, hds, List.cons_append, List.cons_append, List.cons.injEq] at h
  rw [← hc, ← hd, h.1]

/-! ## Lists between brackets -/

/-- What follows the first item of a list: the other items, each behind a comma, the closing bracket and the rest. -/
def listRest (close : Char) : List String → List Char → List Char
  | [], rest => close :: rest
  | text :: texts, rest => ',' :: ' ' :: (text.toList ++ listRest close texts rest)

/-- What follows an opening bracket. -/
def listChars (close : Char) : List String → List Char → List Char
  | [], rest => close :: rest
  | text :: texts, rest => text.toList ++ listRest close texts rest

theorem toList_intercalate (close : Char) (texts : List String) (rest : List Char) :
    (", ".intercalate texts).toList ++ close :: rest = listChars close texts rest := by
  have hrest : ∀ (texts : List String) (text : String), (", ".intercalate (text :: texts)).toList ++ close :: rest =
      text.toList ++ listRest close texts rest := fun texts => by
    induction texts with
    | nil =>
      intro text
      rw [String.intercalate_singleton]
      rfl
    | cons next texts ih =>
      intro text
      rw [String.intercalate_cons_of_ne_nil (List.cons_ne_nil _ _), String.toList_append, String.toList_append, List.append_assoc,
        List.append_assoc, ih]
      rfl
  cases texts with
  | nil => rfl
  | cons text texts => exact hrest texts text

section Lists

variable {α : Type} {text : α → String} {like : α → α → Prop} {close : Char}

/-- Whether the text of an item tells the item, whatever it is followed by that is not taken for a part of a number. -/
def IsReadAs (text : α → String) (like : α → α → Prop) (x : α) : Prop :=
  ∀ (y : α) (rest rest' : List Char), EndsNumber rest → EndsNumber rest' →
    (text x).toList ++ rest = (text y).toList ++ rest' → like x y ∧ rest = rest'

theorem endsNumber_listRest (hclose : isNumberChar close = false) (texts : List String) (rest : List Char) :
    EndsNumber (listRest close texts rest) := by
  intro c hc
  cases texts with
  | nil =>
    cases hc
    exact hclose
  | cons =>
    cases hc
    rfl

theorem listRest_inj (hclose : isNumberChar close = false) (hcomma : close ≠ ',') {xs ys : List α} {rest rest' : List Char}
    (hread : ∀ x ∈ xs, IsReadAs text like x) (h : listRest close (xs.map text) rest = listRest close (ys.map text) rest') :
    List.Forall₂ like xs ys ∧ rest = rest' := by
  induction xs generalizing ys with
  | nil =>
    cases ys with
    | nil => exact ⟨List.Forall₂.nil, (List.cons.inj h).2⟩
    | cons y ys => exact absurd (List.cons.inj h).1 hcomma
  | cons x xs ih =>
    cases ys with
    | nil => exact absurd (List.cons.inj h).1.symm hcomma
    | cons y ys =>
      obtain ⟨hx, hxs⟩ := List.forall_mem_cons.1 hread
      have hitems := (List.cons.inj (List.cons.inj h).2).2
      obtain ⟨hlike, hbehind⟩ := hx y _ _ (endsNumber_listRest hclose _ _) (endsNumber_listRest hclose _ _) hitems
      obtain ⟨hall, hrest⟩ := ih hxs hbehind
      exact ⟨List.Forall₂.cons hlike hall, hrest⟩

/-- A list ends at its bracket and tells its items. -/
theorem listChars_inj (hclose : isNumberChar close = false) (hcomma : close ≠ ',') (hopen : ∀ x, Begins (· ≠ close) (text x))
    {xs ys : List α} {rest rest' : List Char} (hread : ∀ x ∈ xs, IsReadAs text like x)
    (h : listChars close (xs.map text) rest = listChars close (ys.map text) rest') : List.Forall₂ like xs ys ∧ rest = rest' := by
  -- the first item is not taken for the bracket
  have hfirst : ∀ (x : α) (behind rest : List Char), (text x).toList ++ behind ≠ close :: rest := fun x behind rest heq => by
    obtain ⟨c, cs, hcs, hc⟩ := hopen x
    rw [hcs] at heq
    exact hc (List.cons.inj heq).1
  cases xs with
  | nil =>
    cases ys with
    | nil => exact ⟨List.Forall₂.nil, (List.cons.inj h).2⟩
    | cons y ys => exact absurd h.symm (hfirst y _ _)
  | cons x xs =>
    cases ys with
    | nil => exact absurd h (hfirst x _ _)
    | cons y ys =>
      obtain ⟨hx, hxs⟩ := List.forall_mem_cons.1 hread
      obtain ⟨hlike, hbehind⟩ := hx y _ _ (endsNumber_listRest hclose _ _) (endsNumber_listRest hclose _ _) h
      obtain ⟨hall, hrest⟩ := listRest_inj hclose hcomma hxs hbehind
      exact ⟨List.Forall₂.cons hlike hall, hrest⟩

end Lists

/-! ## Reading literals -/

/-- A member of an object in its literal. -/
def memberText (member : String × Json) : String := propertyKey member.1 ++ ": " ++ literal member.2

theorem literalItems_eq (items : List Json) : literalItems items = items.map literal := by
  induction items with
  | nil => rfl
  | cons item items ih => rw [literalItems, ih, List.map_cons]

theorem literalMembers_eq (members : List (String × Json)) : literalMembers members = members.map memberText := by
  induction members with
  | nil => rfl
  | cons member members ih => rw [literalMembers, ih, List.map_cons, memberText]

theorem toList_list (items : List Json) (rest : List Char) :
    (literal (.list items)).toList ++ rest = '[' :: listChars ']' (items.map literal) rest := by
  rw [← toList_intercalate, literal, literalItems_eq]
  simp

theorem toList_object (members : List (String × Json)) (rest : List Char) :
    (literal (.object members)).toList ++ rest = '\x7b' :: listChars '\x7d' (members.map memberText) rest := by
  rw [← toList_intercalate, literal, literalMembers_eq]
  simp

theorem literal_begins_ne {close : Char} (hclose : literalClass close = 6) (v : Json) : Begins (· ≠ close) (literal v) :=
  (literal_begins v).imp fun c hc => by
    rintro rfl
    rw [hclose] at hc
    cases v <;> cases hc

theorem memberText_begins (member : String × Json) : Begins (· ≠ '\x7d') (memberText member) := by
  refine (((propertyKey_begins member.1).imp fun c hc => ?_).append _).append _
  rintro rfl
  rcases hc with hc | hc <;> cases hc

/-- A member is told by its text where its value is. -/
theorem isReadAs_memberText {member : String × Json} (h : IsReadAs literal Json.Alike member.2) :
    IsReadAs memberText (fun m n => m.1 = n.1 ∧ m.2.Alike n.2) member := by
  intro member' rest rest' hrest hrest' heq
  simp only [memberText, String.toList_append, List.append_assoc] at heq
  obtain ⟨hname, hbehind⟩ := propertyKey_chars_inj heq
  obtain ⟨hvalue, hsame⟩ := h member'.2 rest rest' hrest hrest' (List.cons.inj hbehind).2
  exact ⟨⟨hname, hvalue⟩, hsame⟩

mutual

/-- A value is told by its literal. -/
theorem isReadAs_literal : (v : Json) → IsReadAs literal Json.Alike v
  | .null => fun w rest rest' _ _ h => by
    have hclass := sortClass_eq h
    cases w with
    | null => exact ⟨trivial, List.append_cancel_left h⟩
    | bool | number | text | list | object => cases hclass
  | .bool a => fun w rest rest' _ _ h => by
    have hclass := sortClass_eq h
    cases w with
    | bool b =>
      cases a with
      | true =>
        cases b with
        | true => exact ⟨rfl, List.append_cancel_left h⟩
        | false => cases (List.cons.inj h).1
      | false =>
        cases b with
        | true => cases (List.cons.inj h).1
        | false => exact ⟨rfl, List.append_cancel_left h⟩
    | null | number | text | list | object => cases hclass
  | .number m => fun w rest rest' hrest hrest' h => by
    have hclass := sortClass_eq h
    cases w with
    | number n =>
      obtain ⟨htext, hbehind⟩ := run_append_inj (Number.text_consists m) (Number.text_consists n) hrest hrest' h
      exact ⟨String.toList_injective htext, hbehind⟩
    | null | bool | text | list | object => cases hclass
  | .text s => fun w rest rest' _ _ h => by
    have hclass := sortClass_eq h
    cases w with
    | text t => exact quote_chars_inj h
    | null | bool | number | list | object => cases hclass
  | .list items => fun w rest rest' _ _ h => by
    have hclass := sortClass_eq h
    cases w with
    | list items' =>
      rw [toList_list, toList_list] at h
      obtain ⟨hall, hbehind⟩ := listChars_inj rfl (by decide) (literal_begins_ne rfl) (isReadAs_items items) (List.cons.inj h).2
      exact ⟨Json.alikeItems_of_forall₂ hall, hbehind⟩
    | null | bool | number | text | object => cases hclass
  | .object members => fun w rest rest' _ _ h => by
    have hclass := sortClass_eq h
    cases w with
    | object members' =>
      rw [toList_object, toList_object] at h
      have hread : ∀ member ∈ members, IsReadAs memberText (fun m n => m.1 = n.1 ∧ m.2.Alike n.2) member :=
        fun member hmember => isReadAs_memberText (isReadAs_members members member hmember)
      obtain ⟨hall, hbehind⟩ := listChars_inj rfl (by decide) memberText_begins hread (List.cons.inj h).2
      exact ⟨Json.alikeMembers_of_forall₂ hall, hbehind⟩
    | null | bool | number | text | list => cases hclass

theorem isReadAs_items : (items : List Json) → ∀ item ∈ items, IsReadAs literal Json.Alike item
  | [] => nofun
  | item :: items => List.forall_mem_cons.2 ⟨isReadAs_literal item, isReadAs_items items⟩

theorem isReadAs_members : (members : List (String × Json)) → ∀ member ∈ members, IsReadAs literal Json.Alike member.2
  | [] => nofun
  | (_, value) :: members => List.forall_mem_cons.2 ⟨isReadAs_literal value, isReadAs_members members⟩

end

/-- A quoted text runs up to its first quote that no backslash stands before, holds no line break and is read back; and values with one
literal are alike. -/
theorem literals_faithful :
    (∀ text : String, ∃ body, (quote text).toList = '\'' :: (body ++ ['\'']) ∧
      (∀ rest, readQuoted (body ++ '\'' :: rest) = some (text.toList, rest)) ∧
      '\n' ∉ (quote text).toList ∧ '\r' ∉ (quote text).toList) ∧
    ∀ v w : Json, literal v = literal w ↔ v.Alike w := by
  constructor
  · intro text
    exact ⟨text.toList.flatMap quoteChar, toList_quote text, readQuoted_quoted text.toList, not_mem_quote (Or.inl rfl) text,
      not_mem_quote (Or.inr rfl) text⟩
  · intro v w
    refine ⟨fun h => ?_, literal_congr v w⟩
    have hends : EndsNumber [] := nofun
    have happend : (literal v).toList ++ [] = (literal w).toList ++ [] := by rw [h]
    exact (isReadAs_literal v w [] [] hends hends happend).1

end Client

end ModelCatalog
