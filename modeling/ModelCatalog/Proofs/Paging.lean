import Mathlib.Algebra.Order.Floor.Div
import Mathlib.Data.List.Forall2
import Mathlib.Data.Rat.Floor
import ModelCatalog.Paging

/-!
# Pages hold their list

There are as many pages as the length of the list over the page size, rounded up (`count_eq_ceil`), and one after another they are the list
(`flatMap_slice`). What begins on a page is told by one equivalence (`lt_count_iff`): from it follow which numbers have a page, that no page
is empty, and that on the way to a page no count leaves the range of machine words, though a page size may be any such word
(`sliceInWords_eq`).
-/

namespace ModelCatalog

namespace Pages

variable {α : Type} (p : Pages α)

/-- The pages are enough for all items. -/
theorem length_le_count_mul : p.items.length ≤ p.count * p.size := by
  have hceil := le_smul_ceilDiv p.size_pos (b := p.items.length)
  rw [smul_eq_mul, Nat.ceilDiv_eq_add_pred_div, Nat.mul_comm] at hceil
  exact hceil

/-- The number of pages is the length over the page size, rounded up. -/
theorem count_eq_ceil : p.count = ⌈(p.items.length / p.size : ℚ)⌉₊ := by
  have hpos : (0 : ℚ) < p.size := Nat.cast_pos.2 p.size_pos
  refine eq_of_forall_ge_iff fun n => ?_
  rw [Nat.ceil_le, div_le_iff₀ hpos, ← Nat.cast_mul, Nat.cast_le, Nat.mul_comm]
  exact ceilDiv_le_iff_le_mul p.size_pos

/-- There is a page behind the first `n` when these do not hold all items. -/
theorem lt_count_iff {n : Nat} : n < p.count ↔ n * p.size < p.items.length := by
  have hle : p.count ≤ n ↔ p.items.length ≤ p.size * n := ceilDiv_le_iff_le_mul p.size_pos
  rw [← Nat.not_le, hle, Nat.not_le, Nat.mul_comm]

/-- The first pages hold the first items. -/
theorem flatMap_slice_take (n : Nat) : (List.range' 1 n).flatMap p.slice = p.items.take (n * p.size) := by
  induction n with
  | zero => simp
  | succ n ih =>
    have hslice : p.slice (1 + n) = (p.items.drop (n * p.size)).take p.size := by
      rw [slice, Nat.add_sub_cancel_left]
    rw [List.range'_concat, List.flatMap_append, ih, Nat.one_mul, List.flatMap_singleton, hslice, Nat.succ_mul, List.take_add]

/-- The pages one after another are the list. -/
theorem flatMap_slice : (List.range' 1 p.count).flatMap p.slice = p.items := by
  rw [flatMap_slice_take, List.take_of_length_le p.length_le_count_mul]

/-! ## One page -/

/-- A page holds the items from where it begins to where the next one does. -/
theorem slice_eq_clip {number : Nat} (h : 1 ≤ number) :
    p.slice number = (p.items.take (number * p.size)).drop ((number - 1) * p.size) := by
  have hsize : number * p.size - (number - 1) * p.size = p.size := by
    rw [← Nat.sub_mul, Nat.sub_sub_self h, Nat.one_mul]
  rw [List.drop_take, hsize, slice]

theorem length_slice (number : Nat) : (p.slice number).length = min p.size (p.items.length - (number - 1) * p.size) := by
  rw [slice, List.length_take, List.length_drop]

/-- No page up to the last is empty. -/
theorem slice_ne_nil {number : Nat} (h : 1 ≤ number) (hcount : number ≤ p.count) : p.slice number ≠ [] := by
  have hbegins : (number - 1) * p.size < p.items.length := p.lt_count_iff.1 (by omega)
  have hsize := p.size_pos
  rw [← List.length_pos_iff, length_slice]
  omega

/-- A page with another one behind it is full. -/
theorem length_slice_of_lt {number : Nat} (h : 1 ≤ number) (hcount : number < p.count) : (p.slice number).length = p.size := by
  have hnext : number * p.size < p.items.length := p.lt_count_iff.1 hcount
  have hsize : number * p.size = (number - 1) * p.size + p.size := by
    rw [← Nat.succ_mul, Nat.succ_eq_add_one, Nat.sub_add_cancel h]
  rw [length_slice]
  omega

/-- The numbers that have a page. -/
theorem page_eq_ok_iff {number : Nat} {page : Page α} :
    p.page number = .ok page ↔ (1 ≤ number ∧ number ≤ p.count) ∧ page = { items := p.slice number, number } := by
  unfold Pages.page
  split
  · simp [*]
  · split
    · simp
      omega
    · rw [Except.ok.injEq, and_iff_right (by omega), eq_comm]

theorem page_eq_zero_iff {number : Nat} : p.page number = .error .zero ↔ number = 0 := by
  unfold Pages.page
  split
  · simp [*]
  · split <;> simp [*]

theorem page_eq_beyond_iff {number : Nat} : p.page number = .error .beyond ↔ p.count < number := by
  unfold Pages.page
  split
  · simp [*]
  · split <;> simp [*]

/-- Whether there is a page. -/
theorem exists_page_iff {number : Nat} : (∃ page, p.page number = .ok page) ↔ 1 ≤ number ∧ number ≤ p.count := by
  simp only [page_eq_ok_iff, exists_and_left, exists_eq, and_true]

theorem hasNext_iff {number : Nat} : p.hasNext number = true ↔ ∃ next, p.page (number + 1) = .ok next := by
  rw [exists_page_iff, hasNext, decide_eq_true_iff]
  omega

theorem hasPrevious_iff {number : Nat} (h : number ≤ max p.count 1) :
    hasPrevious number = true ↔ ∃ previous, p.page (number - 1) = .ok previous := by
  rw [exists_page_iff, hasPrevious, decide_eq_true_iff]
  omega

/-! ## In machine words -/

theorem countInWords_eq (hitems : p.items.length < 2 ^ 63) : p.countInWords = some p.count := by
  have hdiv := Nat.div_add_mod p.items.length p.size
  have hrest := Nat.mod_lt p.items.length p.size_pos
  have hcount : p.count = p.items.length / p.size + (p.items.length % p.size + p.size - 1) / p.size := by
    rw [← Nat.mul_add_div p.size_pos, count]
    congr 1
    omega
  unfold countInWords
  split
  · rename_i hzero
    rw [hcount, hzero, Nat.zero_add, Nat.div_eq_of_lt (Nat.sub_lt p.size_pos Nat.one_pos), Nat.add_zero]
  · rename_i hne
    have hone : (p.items.length % p.size + p.size - 1) / p.size = 1 := by
      rw [Nat.div_eq_iff p.size_pos]
      omega
    have hle := Nat.div_le_self p.items.length p.size
    rw [hcount, hone, Word.add, Word.fit, if_pos]
    change _ < 2 ^ 64
    omega

/-- No step on the way to a page leaves the range of machine words: what is added to the beginning of a page other than the first is at
most as much again. -/
theorem sliceInWords_eq (hitems : p.items.length < 2 ^ 63) (hsize : p.size < UInt64.size) {number : Nat} (h : 1 ≤ number)
    (hcount : number ≤ max p.count 1) : p.sliceInWords number = some (p.slice number) := by
  have hwords : UInt64.size = 2 ^ 64 := rfl
  obtain ⟨before, rfl⟩ : ∃ before, number = before + 1 := ⟨number - 1, by omega⟩
  have hstart : before * p.size ≤ p.items.length ∧ before * p.size + p.size < UInt64.size := by
    rcases Nat.eq_zero_or_pos before with rfl | hpos
    · simpa using hsize
    · have hbegins : before * p.size < p.items.length := p.lt_count_iff.1 (by omega)
      have hmul : p.size ≤ before * p.size := Nat.le_mul_of_pos_left _ hpos
      omega
  have hmul : Word.mul before p.size = some (before * p.size) := if_pos (by omega)
  have hadd : Word.add (before * p.size) p.size = some (before * p.size + p.size) := if_pos hstart.2
  have hsub : ∀ {a b : Nat}, b ≤ a → Word.sub a b = some (a - b) := fun hle => if_pos hle
  simp only [sliceInWords, slice, hsub h, Nat.add_sub_cancel, hmul, Option.bind_eq_bind, Option.bind_some, Nat.min_eq_left hstart.1, hadd]
  rw [hsub (by omega), Option.bind_some]
  refine congrArg some ?_
  rw [List.take_eq_take_iff, List.length_drop]
  omega

theorem pageInWords_eq (hitems : p.items.length < 2 ^ 63) (hsize : p.size < UInt64.size) (number : Nat) :
    p.pageInWords number = some (p.page number) := by
  unfold pageInWords page
  split
  · rfl
  · rw [countInWords_eq p hitems, Option.bind_eq_bind, Option.bind_some]
    split
    · rfl
    · rw [sliceInWords_eq p hitems hsize (by omega) (by omega)]
      rfl

theorem nearestInWords_eq (hitems : p.items.length < 2 ^ 63) (hsize : p.size < UInt64.size) (number : Nat) :
    p.nearestInWords number = some (p.nearest number) := by
  unfold nearestInWords
  rw [countInWords_eq p hitems, Option.bind_eq_bind, Option.bind_some]
  dsimp only
  rw [sliceInWords_eq p hitems hsize (by omega) (by omega)]
  rfl

/-! ## Without items -/

theorem nearest_of_nil (h : p.items = []) (number : Nat) : p.nearest number = { items := [], number := 1 } := by
  have hcount : p.count = 0 := by
    have hle := p.lt_count_iff (n := 0)
    rw [h] at hle
    simpa using hle
  have hnumber : max 1 (min number (max p.count 1)) = 1 := by omega
  rw [nearest, hnumber, slice, h]
  simp

/-- Where there are items, the page whose number comes nearest is a page. -/
theorem page_nearest (h : p.items ≠ []) (number : Nat) : p.page (max 1 (min number (max p.count 1))) = .ok (p.nearest number) := by
  have hcount : 0 < p.count := p.lt_count_iff.2 (by simpa using List.length_pos_iff.2 h)
  exact p.page_eq_ok_iff.2 ⟨by omega, rfl⟩

end Pages

open Pages in
/-- A list is cut into pages of a size, or of size one in place of zero. There are as many as its length over the size, rounded up. Zero
and the numbers behind the last have no page, and every other number has its items; from the first to the last the pages are the list, none
of them is empty, and all but the last are full. The page nearest to a number is the page of that number brought into range, and without
items an empty first one. A page has one before or behind it exactly when it says so. And for a list of fewer than 2 ^ 63 items all of this
is computed in words of 64 bits, whatever the size. -/
theorem list_cut_into_pages {α : Type} (items : List α) (size : Nat) (hitems : items.length < 2 ^ 63) (hsize : size < UInt64.size) :
    let p := Pages.of items size
    let s := max size 1
    p.count = ⌈(items.length / s : ℚ)⌉₊ ∧
      (∀ k, (p.page k = .error .zero ↔ k = 0) ∧ (p.page k = .error .beyond ↔ p.count < k) ∧
        ∀ page, p.page k = .ok page ↔
          (1 ≤ k ∧ k ≤ p.count) ∧ page = { items := (items.take (k * s)).drop ((k - 1) * s), number := k }) ∧
      (∃ pages, List.Forall₂ (fun k page => p.page k = .ok page) (List.range' 1 p.count) pages ∧ pages.flatMap Page.items = items ∧
        ∀ page ∈ pages, page.items ≠ [] ∧ (page.number < p.count → page.items.length = s)) ∧
      (∀ k, if items = [] then p.nearest k = { items := [], number := 1 }
        else p.page (max 1 (min k (max p.count 1))) = .ok (p.nearest k)) ∧
      (∀ k page, p.page k = .ok page ∨ p.nearest k = page →
        (p.hasNext page.number = true ↔ ∃ next, p.page (page.number + 1) = .ok next) ∧
          (hasPrevious page.number = true ↔ ∃ previous, p.page (page.number - 1) = .ok previous)) ∧
      p.countInWords = some p.count ∧ ∀ k, p.pageInWords k = some (p.page k) ∧ p.nearestInWords k = some (p.nearest k) := by
  intro p s
  have hs : p.size < UInt64.size := by
    change max size 1 < _
    have hwords : UInt64.size = 2 ^ 64 := rfl
    omega
  refine ⟨p.count_eq_ceil, fun k => ⟨p.page_eq_zero_iff, p.page_eq_beyond_iff, fun page => ?_⟩, ?_, fun k => ?_, fun k page h => ?_,
    p.countInWords_eq hitems, fun k => ⟨p.pageInWords_eq hitems hs k, p.nearestInWords_eq hitems hs k⟩⟩
  · rw [page_eq_ok_iff]
    refine and_congr_right fun hk => ?_
    rw [p.slice_eq_clip hk.1]
    rfl
  · refine ⟨(List.range' 1 p.count).map fun k => { items := p.slice k, number := k }, ?_, ?_, ?_⟩
    · rw [List.forall₂_map_right_iff, List.forall₂_same]
      intro k hk
      rw [List.mem_range'_1] at hk
      exact p.page_eq_ok_iff.2 ⟨by omega, rfl⟩
    · rw [List.flatMap_map]
      exact p.flatMap_slice
    · rw [List.forall_mem_map]
      intro k hk
      rw [List.mem_range'_1] at hk
      exact ⟨p.slice_ne_nil hk.1 (by omega), p.length_slice_of_lt hk.1⟩
  · split
    · exact p.nearest_of_nil ‹_› k
    · exact p.page_nearest ‹_› k
  · refine ⟨p.hasNext_iff, p.hasPrevious_iff ?_⟩
    rcases h with h | rfl
    · obtain ⟨hk, rfl⟩ := p.page_eq_ok_iff.1 h
      exact le_max_of_le_left hk.2
    · change max 1 (min k (max p.count 1)) ≤ _
      omega

/-- Three items are two pages of two, and one page of the largest size there is. -/
theorem three_items_in_pages :
    [1, 2, 3].length < 2 ^ 63 ∧ 2 < UInt64.size ∧ 2 ^ 64 - 1 < UInt64.size ∧
      (Pages.of [1, 2, 3] 2).pageInWords 2 = some (.ok { items := [3], number := 2 }) ∧
      (Pages.of [1, 2, 3] (2 ^ 64 - 1)).nearestInWords 7 = some { items := [1, 2, 3], number := 1 } := by
  obtain ⟨-, -, -, -, -, -, htwo⟩ := list_cut_into_pages [1, 2, 3] 2 (by decide) (by decide)
  obtain ⟨-, -, -, -, -, -, hmost⟩ := list_cut_into_pages [1, 2, 3] (2 ^ 64 - 1) (by decide) (by decide)
  exact ⟨by decide, by decide, by decide, (htwo 2).1, (hmost 7).2⟩

end ModelCatalog
