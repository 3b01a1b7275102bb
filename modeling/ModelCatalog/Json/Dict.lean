/-!
# Dictionaries

`Entries` are a list of values under names. A `Dict` holds entries in ascending order of their names, each name once, and every way to make
one keeps that order. Names are ordered by code point, which is also the order of their UTF-8 bytes. A JSON object has bare entries, since a
recursive type cannot ask for the order of its own parts; `Dict.ofList` brings them into order.
-/

namespace ModelCatalog

/-- Values under names. -/
abbrev Entries (α : Type) := List (String × α)

namespace Entries

variable {α : Type}

/-- The value under a name, that of the first entry under it. -/
def get? : Entries α → String → Option α
  | [], _ => none
  | (name, value) :: rest, key => if name = key then some value else get? rest key

/-- Puts a value under a name, in place of the one it had. -/
def insert : Entries α → String → α → Entries α
  | [], key, value => [(key, value)]
  | (name, old) :: rest, key, value =>
    if name = key then (key, value) :: rest
    else if key < name then (key, value) :: (name, old) :: rest
    else (name, old) :: insert rest key value

/-- Takes a name and its value out. -/
def erase (l : Entries α) (key : String) : Entries α := l.filter fun entry => entry.1 ≠ key

/-- Inserts entries one after another; of several under one name the last stays. -/
def extend (l written : Entries α) : Entries α := written.foldl (fun l entry => l.insert entry.1 entry.2) l

/-- Ascending names, each once. -/
def Sorted (l : Entries α) : Prop := l.Pairwise fun a b => a.1 < b.1

instance (l : Entries α) : Decidable l.Sorted := inferInstanceAs (Decidable (l.Pairwise fun a b => a.1 < b.1))

/-- The entries after a write are the one that was written and those from before. -/
theorem mem_of_mem_insert {l : Entries α} {k : String} {v : α} {e : String × α} (h : e ∈ l.insert k v) : e = (k, v) ∨ e ∈ l := by
  induction l with
  | nil => exact Or.inl (List.mem_singleton.1 h)
  | cons first l ih =>
    obtain ⟨n, w⟩ := first
    simp only [insert] at h
    split at h
    · exact (List.mem_cons.1 h).imp_right (List.mem_cons_of_mem _)
    · split at h
      · exact List.mem_cons.1 h
      · rcases List.mem_cons.1 h with rfl | h
        · exact Or.inr List.mem_cons_self
        · exact (ih h).imp_right (List.mem_cons_of_mem _)

/-- A write keeps the order: it takes the place of the entry under its name, or comes in front of the first later one. -/
theorem Sorted.insert {l : Entries α} (h : l.Sorted) (k : String) (v : α) : (l.insert k v).Sorted := by
  induction l with
  | nil => exact List.pairwise_singleton _ _
  | cons e l ih =>
    obtain ⟨n, w⟩ := e
    obtain ⟨hn, hl⟩ := List.pairwise_cons.1 h
    simp only [Entries.insert]
    split
    · rename_i heq
      exact List.pairwise_cons.2 ⟨fun e he => heq ▸ hn e he, hl⟩
    · rename_i hne
      split
      · rename_i hlt
        refine List.pairwise_cons.2 ⟨fun e he => ?_, h⟩
        rcases List.mem_cons.1 he with rfl | he
        · exact hlt
        · exact String.lt_trans hlt (hn e he)
      · rename_i hge
        refine List.pairwise_cons.2 ⟨fun e he => ?_, ih hl⟩
        rcases mem_of_mem_insert he with rfl | he
        · exact Std.lt_of_le_of_ne (String.not_lt.1 hge) hne
        · exact hn e he

theorem Sorted.extend {l : Entries α} (h : l.Sorted) (written : Entries α) : (l.extend written).Sorted := by
  induction written generalizing l with
  | nil => exact h
  | cons e written ih => exact ih (h.insert e.1 e.2)

/-- The entries after many writes are those that were written and those from before. -/
theorem mem_of_mem_extend {l written : Entries α} {e : String × α} (h : e ∈ l.extend written) : e ∈ written ∨ e ∈ l := by
  induction written generalizing l with
  | nil => exact Or.inr h
  | cons first written ih =>
    rcases ih h with h | h
    · exact Or.inl (List.mem_cons_of_mem _ h)
    · rcases mem_of_mem_insert h with rfl | h
      · exact Or.inl List.mem_cons_self
      · exact Or.inr h

end Entries

/-- Entries in ascending order of name, each name once. -/
structure Dict (α : Type) where
  entries : List (String × α)
  sorted : Entries.Sorted entries
  deriving DecidableEq, Repr

namespace Dict

variable {α β : Type}

/-- The dictionary without entries. -/
def empty : Dict α := ⟨[], List.Pairwise.nil⟩

/-- The value under a name. -/
def get? (d : Dict α) (key : String) : Option α := Entries.get? d.entries key

/-- Whether a name has a value. -/
def contains (d : Dict α) (key : String) : Bool := (d.get? key).isSome

/-- Puts a value under a name, in place of the one it had. -/
def insert (d : Dict α) (key : String) (value : α) : Dict α := ⟨Entries.insert d.entries key value, d.sorted.insert key value⟩

/-- Inserts entries one after another; of several under one name the last stays. -/
def extend (d : Dict α) (written : List (String × α)) : Dict α := ⟨Entries.extend d.entries written, d.sorted.extend written⟩

/-- The dictionary of a list of entries; of several under one name the last stays. -/
def of (entries : List (String × α)) : Dict α := empty.extend entries

/-- A list of entries as their dictionary holds them. -/
def ofList (entries : List (String × α)) : List (String × α) := (of entries).entries

/-- Keeps some of the entries. -/
def filter (d : Dict α) (keep : String × α → Bool) : Dict α := ⟨d.entries.filter keep, d.sorted.filter keep⟩

/-- Takes a name and its value out. -/
def erase (d : Dict α) (key : String) : Dict α := d.filter fun entry => entry.1 ≠ key

/-- The names, in ascending order. -/
def keys (d : Dict α) : List String := d.entries.map Prod.fst

/-- Changes each value. -/
def mapValues (f : α → β) (d : Dict α) : Dict β where
  entries := d.entries.map fun entry : String × α => (entry.1, f entry.2)
  sorted := List.Pairwise.map _ (fun _ _ h => h) d.sorted

/-- Whether there are no entries. -/
def isEmpty (d : Dict α) : Bool := d.entries.isEmpty

/-! ### Entries in order of name -/

/-- A list with an item for each entry. -/
def map (d : Dict α) (f : String × α → β) : List β := d.entries.map f

/-- A list with an item for each entry that gives one. -/
def filterMap (d : Dict α) (f : String × α → Option β) : List β := d.entries.filterMap f

/-- Goes through the entries. -/
def foldl (d : Dict α) (f : β → String × α → β) (start : β) : β := d.entries.foldl f start

instance : Membership (String × α) (Dict α) := ⟨fun d entry => entry ∈ d.entries⟩

/-- A dictionary stands for its entries. -/
instance : CoeOut (Dict α) (List (String × α)) := ⟨entries⟩

/-- So does each dictionary in a container. -/
instance {f : Type → Type} [Functor f] : CoeOut (f (Dict α)) (f (List (String × α))) := ⟨fun found => entries <$> found⟩

/-- A list of entries stands for their dictionary. -/
instance : Coe (List (String × α)) (Dict α) := ⟨of⟩

instance : CoeDep (List β) [] (Dict α) := ⟨empty⟩

end Dict

end ModelCatalog
