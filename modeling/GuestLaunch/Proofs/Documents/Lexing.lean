import GuestLaunch.Json.Lexeme
import GuestLaunch.Proofs.Documents.Literals
import GuestLaunch.Proofs.Documents.Numbers

/-!
How a text is cut into lexemes. Each lemma takes one lexeme off the front of a text, whatever
precedes the text: a mark, a literal with both its quotes, or a word up to the character that
ends it.
-/

namespace GuestLaunch.Json
open Text

namespace Lexeme

/-- The characters that end a word. -/
def delimiters : List Char :=
  [' ', '\t', '\n', '\r', '[', ']', '\x7b', '\x7d', ',', ':', '"']

/-- A text at which a word before it ends. -/
def EndsWord (text : List Char) : Prop := ∀ symbol ∈ text.head?, symbol ∈ delimiters

/-- A text has the given lexemes, whichever precede it. -/
def Cuts (text : List Char) (lexemes : List Lexeme) : Prop :=
  ∀ complete,
    (text.foldl Scan.step { complete }).finish? = some (complete.reverse ++ lexemes)

theorem Cuts.all? {text : List Char} {lexemes : List Lexeme} (cuts : Cuts text lexemes)
    : all? text = some lexemes :=
  cuts []

theorem cuts_nil : Cuts [] [] := by
  intro complete
  simp [Scan.finish?]

-----------------------------------------------------------------------------------------
-- Blanks and marks
-----------------------------------------------------------------------------------------

variable {text : List Char} {lexemes : List Lexeme}

theorem Cuts.separator {symbol : Char} (cuts : Cuts text lexemes)
    (separates : isSeparator symbol = true)
    : Cuts (symbol :: text) lexemes := by
  intro complete
  have step : Scan.step { complete } symbol = { complete } := if_pos separates
  rw [List.foldl_cons, step]
  exact cuts complete

theorem Cuts.mark {symbol : Char} (cuts : Cuts text lexemes) (marks : isMark symbol = true)
    : Cuts (symbol :: text) (.mark symbol :: lexemes) := by
  intro complete
  have other : isSeparator symbol = false := by
    have every : ∀ mark ∈ ['[', ']', '\x7b', '\x7d', ',', ':'], isSeparator mark = false := by
      simp [isSeparator]
    exact every symbol (List.contains_iff_mem.mp marks)
  have step : Scan.step { complete } symbol = { complete := .mark symbol :: complete } := by
    simp [Scan.step, Scan.start, other, marks]
  rw [List.foldl_cons, step, cuts]
  simp

/-- The blanks at the start of a line separate, by induction on their number. -/
theorem Cuts.blanks (cuts : Cuts text lexemes) (count : Nat)
    : Cuts (List.replicate count ' ' ++ text) lexemes := by
  induction count with
  | zero => exact cuts
  | succ count ih => exact ih.separator rfl

-----------------------------------------------------------------------------------------
-- Words
-----------------------------------------------------------------------------------------

/-- A pass over a text ends a word exactly at the delimiters. -/
theorem ends_iff_mem_delimiters (symbol : Char)
    : (isSeparator symbol || isMark symbol || symbol = '"') = true ↔ symbol ∈ delimiters := by
  simp [isSeparator, isMark, delimiters, or_assoc]

/-- The characters of a word are collected, by induction on them. -/
theorem foldl_step_word {symbols : List Char} (plain : ∀ symbol ∈ symbols, symbol ∉ delimiters)
    (complete : List Lexeme) (before : List Char)
    : symbols.foldl Scan.step { complete, begun := .word before }
      = { complete, begun := .word (symbols.reverse ++ before) } := by
  induction symbols generalizing before with
  | nil => rfl
  | cons symbol rest ih =>
      have other := plain symbol (by simp)
      rw [← ends_iff_mem_delimiters] at other
      have step : Scan.step { complete, begun := .word before } symbol
          = { complete, begun := .word (symbol :: before) } := if_neg other
      rw [List.foldl_cons, step, ih fun later member => plain later (by simp [member])]
      simp

/-- A delimiter completes the word that has begun before it. -/
theorem step_word {symbol : Char} (ends : symbol ∈ delimiters) (complete : List Lexeme)
    (before : List Char)
    : Scan.step { complete, begun := .word before } symbol
      = Scan.step { complete := .word before.reverse :: complete } symbol := by
  rw [← ends_iff_mem_delimiters] at ends
  exact if_pos ends

theorem start_word {symbol : Char} (plain : symbol ∉ delimiters) (complete : List Lexeme)
    : Scan.step { complete } symbol = { complete, begun := .word [symbol] } := by
  rw [← ends_iff_mem_delimiters] at plain
  simp only [Bool.or_eq_true, decide_eq_true_eq, not_or] at plain
  simp [Scan.step, Scan.start, plain]

/-- A word is cut off at the text that ends it, or at the end of the whole text. -/
theorem Cuts.word {symbols : List Char} (cuts : Cuts text lexemes) (ends : EndsWord text)
    (nonempty : symbols ≠ []) (plain : ∀ symbol ∈ symbols, symbol ∉ delimiters)
    : Cuts (symbols ++ text) (.word symbols :: lexemes) := by
  intro complete
  obtain ⟨first, rest, rfl⟩ := List.exists_cons_of_ne_nil nonempty
  have begun : (first :: rest).foldl Scan.step { complete }
      = { complete, begun := .word (first :: rest).reverse } := by
    rw [List.foldl_cons, start_word (plain first (by simp)),
      foldl_step_word fun later member => plain later (by simp [member])]
    simp
  rw [List.foldl_append, begun]
  cases text with
  | nil =>
      have noneLeft := cuts []
      obtain rfl : [] = lexemes := by simpa [Scan.finish?] using noneLeft
      simp [Scan.finish?]
  | cons next later =>
      have after := cuts (.word (first :: rest) :: complete)
      rw [List.foldl_cons, step_word (ends next rfl), List.reverse_reverse, ← List.foldl_cons,
        after]
      simp

-----------------------------------------------------------------------------------------
-- Literals
-----------------------------------------------------------------------------------------

/-- A text that stays between two quotes as it is. -/
def Quotable (raw : List Char) : Prop :=
  ∀ complete before,
    raw.foldl Scan.step { complete, begun := .quoted before }
      = { complete, begun := .quoted (raw.reverse ++ before) }

theorem quotable_nil : Quotable [] := fun _ _ => rfl

theorem Quotable.append {left right : List Char} (first : Quotable left)
    (second : Quotable right)
    : Quotable (left ++ right) := by
  intro complete before
  rw [List.foldl_append, first, second, List.reverse_append, List.append_assoc]

theorem Quotable.cons {symbol : Char} {raw : List Char} (quotable : Quotable raw)
    (noQuote : symbol ≠ '"') (noEscape : symbol ≠ '\\')
    : Quotable (symbol :: raw) := by
  intro complete before
  have step : Scan.step { complete, begun := .quoted before } symbol
      = { complete, begun := .quoted (symbol :: before) } := by
    simp [Scan.step, noQuote, noEscape]
  rw [List.foldl_cons, step, quotable]
  simp

/-- Whatever follows a backslash does not end the literal. -/
theorem Quotable.escaped {raw : List Char} (quotable : Quotable raw) (letter : Char)
    : Quotable ('\\' :: letter :: raw) := by
  intro complete before
  have steps : Scan.step (Scan.step { complete, begun := .quoted before } '\\') letter
      = { complete, begun := .quoted (letter :: '\\' :: before) } := rfl
  rw [List.foldl_cons, List.foldl_cons, steps, quotable]
  simp

theorem quotable_digits {raw : List Char}
    (every : ∀ symbol ∈ raw, ∃ digit < 16, symbol = Numeral.digitSymbol digit)
    : Quotable raw := by
  induction raw with
  | nil => exact quotable_nil
  | cons symbol rest ih =>
      obtain ⟨digit, small, rfl⟩ := every symbol (by simp)
      have plain : ∀ digit < 16,
          Numeral.digitSymbol digit ≠ '"' ∧ Numeral.digitSymbol digit ≠ '\\' := by
        decide
      exact (ih fun later member => every later (by simp [member])).cons
        (plain digit small).1 (plain digit small).2

/-- The written form of a character does not end the literal, by the kind of escape. -/
theorem quotable_escape (symbol : Char) : Quotable (Literal.escape symbol) := by
  by_cases short : symbol ∈ Literal.shortEscaped
  · obtain ⟨letter, _, written, _⟩ := Literal.escape_of_mem symbol short
    rw [written]
    exact quotable_nil.escaped letter
  · rw [Literal.escape_of_not_mem short]
    split
    · refine Quotable.escaped (quotable_digits fun digit member => ?_) 'u'
      exact Numeral.exists_digitSymbol_of_mem_writePadded (by decide) member
    · refine quotable_nil.cons ?_ ?_
      all_goals
        rintro rfl
        exact short (by decide)

/-- The written form of a literal does not end it before its second quote. -/
theorem quotable_raw (literal : Literal) : Quotable literal.raw := by
  cases literal with
  | none => exact fun _ _ => rfl
  | some value =>
      show Quotable (value.toList.flatMap Literal.escape)
      induction value.toList with
      | nil => exact quotable_nil
      | cons symbol rest ih =>
          rw [List.flatMap_cons]
          exact (quotable_escape symbol).append ih

/-- A literal is cut off behind its second quote. -/
theorem Cuts.literal (cuts : Cuts text lexemes) (literal : Literal)
    : Cuts (literal.write ++ text) (.quoted literal.raw :: lexemes) := by
  intro complete
  have begun : Scan.step { complete } '"' = { complete, begun := .quoted [] } := rfl
  have ended : Scan.step { complete, begun := .quoted (literal.raw.reverse ++ []) } '"'
      = { complete := .quoted literal.raw :: complete } := by
    simp [Scan.step]
  rw [Literal.write_eq, List.cons_append, List.foldl_cons, begun, List.append_assoc,
    List.foldl_append, quotable_raw, List.singleton_append, List.foldl_cons, ended, cuts]
  simp

end Lexeme

end GuestLaunch.Json
