import ModelCatalog.Client.Literal

/-!
# Texts between quotes

A quoted text is read back: `readQuoted` undoes the escapes up to the closing quote, whatever follows it. So texts that begin with a quoted
text begin alike only when the quoted texts are the same (`quote_append_inj`). A quoted text stays on one line (`not_mem_quote`).
-/

namespace ModelCatalog.Client

/-- The character that a backslash and a character stand for. -/
def unescape : Char → Char
  | 'n' => '\n'
  | 'r' => '\r'
  | 't' => '\t'
  | c => c

/-- Reads what stands behind an opening quote: the quoted characters, and what follows the closing quote. -/
def readQuoted : List Char → Option (List Char × List Char)
  | [] => none
  | '\'' :: rest => some ([], rest)
  | '\\' :: c :: rest => (readQuoted rest).map fun read => (unescape c :: read.1, read.2)
  | c :: rest => (readQuoted rest).map fun read => (c :: read.1, read.2)

theorem readQuoted_quoteChar (c : Char) (rest : List Char) :
    readQuoted (quoteChar c ++ rest) = (readQuoted rest).map fun read => (c :: read.1, read.2) := by
  unfold quoteChar
  split
  · rfl
  · rfl
  · rfl
  · rfl
  · rfl
  · rename_i hbackslash hquote _ _ _
    rw [List.singleton_append, readQuoted]
    · exact hquote
    · rintro _ _ hc _
      exact hbackslash hc

/-- The characters of a quoted text are read back, up to its closing quote. -/
theorem readQuoted_quoted (text rest : List Char) : readQuoted (text.flatMap quoteChar ++ '\'' :: rest) = some (text, rest) := by
  induction text with
  | nil => rfl
  | cons c text ih => rw [List.flatMap_cons, List.append_assoc, readQuoted_quoteChar, ih, Option.map_some]

theorem toList_quote (text : String) : (quote text).toList = '\'' :: (text.toList.flatMap quoteChar ++ ['\'']) := by
  simp [quote]

/-- A quoted text tells what it quotes and where it ends. -/
theorem quote_chars_inj {text text' : String} {rest rest' : List Char}
    (h : (quote text).toList ++ rest = (quote text').toList ++ rest') : text = text' ∧ rest = rest' := by
  rw [toList_quote, toList_quote, List.cons_append, List.cons_append, List.cons.injEq, List.append_assoc, List.append_assoc] at h
  have hread := congrArg readQuoted h.2
  rw [List.singleton_append, List.singleton_append, readQuoted_quoted, readQuoted_quoted, Option.some.injEq, Prod.mk.injEq] at hread
  exact ⟨String.toList_injective hread.1, hread.2⟩

theorem quote_append_inj {text text' rest rest' : String} (h : quote text ++ rest = quote text' ++ rest') :
    text = text' ∧ rest = rest' := by
  have hchars := congrArg String.toList h
  rw [String.toList_append, String.toList_append] at hchars
  obtain ⟨htext, hrest⟩ := quote_chars_inj hchars
  exact ⟨htext, String.toList_injective hrest⟩

theorem quote_injective : Function.Injective quote := by
  intro text text' h
  have happend : quote text ++ "" = quote text' ++ "" := by rw [h]
  exact (quote_append_inj happend).1

/-- No line is broken between quotes. -/
theorem not_mem_quote {c : Char} (hc : c = '\n' ∨ c = '\r') (text : String) : c ∉ (quote text).toList := by
  have hquote : c ≠ '\'' := by rcases hc with rfl | rfl <;> decide
  have hchar : ∀ d, c ∉ quoteChar d := fun d => by
    unfold quoteChar
    split
    · rcases hc with rfl | rfl <;> decide
    · rcases hc with rfl | rfl <;> decide
    · rcases hc with rfl | rfl <;> decide
    · rcases hc with rfl | rfl <;> decide
    · rcases hc with rfl | rfl <;> decide
    · rename_i hfeed hreturn _
      rw [List.mem_singleton]
      rintro rfl
      rcases hc with hc | hc
      · exact hfeed hc
      · exact hreturn hc
  rw [toList_quote, List.mem_cons, List.mem_append, List.mem_flatMap, List.mem_singleton]
  rintro (h | ⟨d, -, h⟩ | h)
  · exact hquote h
  · exact hchar d h
  · exact hquote h

end ModelCatalog.Client
