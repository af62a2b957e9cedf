import GuestLaunch.CommandLine

/-!
Reading a shell line back into words. A reader goes through a line character by character, as a
POSIX shell takes the quotes off it, and remembers of each character of a word how it was quoted.
What is printed for a shell is read as the arguments that it was printed for.
-/

namespace GuestLaunch
namespace Text.Shell

/-- A character of a word, with the way in which it stands in the line. -/
inductive Mark where
  /-- Outside of quotes. -/
  | bare (symbol : Char)
  /-- Between single quotes. -/
  | quoted (symbol : Char)
  /-- Behind a backslash outside of quotes. -/
  | escaped (symbol : Char)
deriving DecidableEq, Repr

def Mark.symbol : Mark → Char
  | bare symbol | quoted symbol | escaped symbol => symbol

/-- The place in a line that a reader has come to. -/
inductive Position where
  | outside
  | betweenQuotes
  | behindBackslash
deriving DecidableEq, Repr

/-- A reader of a line, with what it has read. -/
structure Reader where
  position : Position := .outside
  /-- The words that have ended. -/
  words : List (List Mark) := []
  /-- The word that has begun and may go on. It has begun with its first quote already, so a word
  may be empty.
  -/
  word : Option (List Mark) := none
deriving DecidableEq, Repr

namespace Reader

/-- Goes on at a place, with further characters of the word that has begun or begins now. -/
def extend (reader : Reader) (position : Position) (marks : List Mark) : Reader :=
  { reader with position, word := some (reader.word.getD [] ++ marks) }

/-- Ends the word that has begun, if one has. -/
def endWord (reader : Reader) : Reader :=
  { reader with words := reader.words ++ reader.word.toList, word := none }

/-- Takes one character. A backslash in front of the end of a line joins the next line to it.

Double quotes, comments and expansions are not read: their characters are taken as bare ones.
-/
def step (reader : Reader) (symbol : Char) : Reader :=
  match reader.position with
  | .outside =>
      if symbol = '\'' then reader.extend .betweenQuotes []
      else if symbol = '\\' then { reader with position := .behindBackslash }
      else if symbol = ' ' ∨ symbol = '\t' then reader.endWord
      else reader.extend .outside [.bare symbol]
  | .betweenQuotes =>
      if symbol = '\'' then { reader with position := .outside }
      else reader.extend .betweenQuotes [.quoted symbol]
  | .behindBackslash =>
      if symbol = '\n' then { reader with position := .outside }
      else reader.extend .outside [.escaped symbol]

/-- Reads up to the end of the line, and gives its words and the text behind it. There is no
reading of a text that ends between quotes or behind a backslash.
-/
def read? (reader : Reader) : List Char → Option (List (List Mark) × List Char)
  | [] => if reader.position = .outside then some (reader.endWord.words, []) else none
  | symbol :: rest =>
      if reader.position = .outside ∧ symbol = '\n' then some (reader.endWord.words, rest)
      else (reader.step symbol).read? rest

end Reader

/-- Reads the first line of a text. -/
def readLine? (text : String) : Option (List (List Mark) × List Char) :=
  Reader.read? {} text.toList

/-- The text of a word, without its quotes. -/
def wordText (marks : List Mark) : String := String.ofList (marks.map Mark.symbol)

/-- The characters that mean something else than themselves in a word, unless they are quoted. The
equality sign and the percent sign are not among them: they do so in an assignment in front of a
command and in an expansion, but not in an argument.
-/
def specialSymbols : List Char := "|&;<>()$`\\\"' \t\n*?[]#~!^\x7b\x7d".toList

/-- Whether a character is safe where it stands: no special one stands outside of quotes, and what
a backslash is used for is a quote.
-/
def Mark.IsSafe : Mark → Prop
  | bare symbol => symbol ∉ specialSymbols
  | quoted _ => True
  | escaped symbol => symbol = '\''

-----------------------------------------------------------------------------------------
-- Quoted words
-----------------------------------------------------------------------------------------

/-- How a character of a word stands between quotes. -/
def quotedMark (symbol : Char) : Mark :=
  if symbol = '\'' then .escaped symbol else .quoted symbol

/-- How the characters of a word stand in a line. -/
def marksOf (word : List Char) : List Mark :=
  if word ≠ [] ∧ word.all isPlain then word.map .bare else word.map quotedMark

theorem isPlain_of_mem_specialSymbols {symbol : Char} (special : symbol ∈ specialSymbols)
    : isPlain symbol = false := by
  have every : (specialSymbols.all fun symbol => !isPlain symbol) = true := by decide +kernel
  exact (Bool.not_eq_true' _).mp (List.all_eq_true.mp every symbol special)

theorem symbol_quotedMark (symbol : Char) : (quotedMark symbol).symbol = symbol := by
  unfold quotedMark
  split <;> rfl

theorem wordText_marksOf (word : String) : wordText (marksOf word.toList) = word := by
  have symbols : (marksOf word.toList).map Mark.symbol = word.toList := by
    unfold marksOf
    split
    · rw [List.map_map]
      exact List.map_id _
    · rw [List.map_map]
      exact (List.map_congr_left fun symbol _ => symbol_quotedMark symbol).trans (List.map_id _)
  rw [wordText, symbols, String.ofList_toList]

/-- Every character of a word is safe in the line, by the way in which the word is quoted. -/
theorem isSafe_of_mem_marksOf {word : List Char} {mark : Mark} (member : mark ∈ marksOf word)
    : mark.IsSafe := by
  unfold marksOf at member
  split at member
  next plain =>
    obtain ⟨symbol, listed, rfl⟩ := List.mem_map.mp member
    intro special
    have own := List.all_eq_true.mp plain.2 symbol listed
    rw [isPlain_of_mem_specialSymbols special] at own
    cases own
  next =>
    obtain ⟨symbol, _, rfl⟩ := List.mem_map.mp member
    unfold quotedMark
    split
    next quote => exact quote
    next => trivial

-----------------------------------------------------------------------------------------
-- Reading what is quoted
-----------------------------------------------------------------------------------------

namespace Reader
variable {words : List (List Mark)} {before : List Mark} {rest : List Char}

/-- A plain character goes to the word outside of quotes, where it neither quotes nor separates. -/
theorem read?_plain {symbol : Char} (plain : isPlain symbol = true) (word : Option (List Mark))
    : read? ⟨.outside, words, word⟩ (symbol :: rest)
      = read? ⟨.outside, words, some (word.getD [] ++ [.bare symbol])⟩ rest := by
  have ordinary {other : Char} (special : other ∈ specialSymbols) : symbol ≠ other := by
    rintro rfl
    rw [isPlain_of_mem_specialSymbols special] at plain
    cases plain
  have newline : symbol ≠ '\n' := ordinary (by decide)
  have quote : symbol ≠ '\'' := ordinary (by decide)
  have backslash : symbol ≠ '\\' := ordinary (by decide)
  have blank : ¬(symbol = ' ' ∨ symbol = '\t') :=
    not_or.mpr ⟨ordinary (by decide), ordinary (by decide)⟩
  simp only [read?, step, extend, newline, quote, backslash, blank, and_false, if_false]

/-- Plain characters continue a word, by induction on them. -/
theorem read?_allPlain {text : List Char} (plain : ∀ symbol ∈ text, isPlain symbol = true)
    : read? ⟨.outside, words, some before⟩ (text ++ rest)
      = read? ⟨.outside, words, some (before ++ text.map .bare)⟩ rest := by
  induction text generalizing before with
  | nil => simp
  | cons symbol text ih =>
      rw [List.cons_append, read?_plain (plain symbol List.mem_cons_self),
        ih fun other member => plain other (List.mem_cons_of_mem _ member)]
      simp

/-- Between quotes everything goes to the word, by induction on the characters: a quote in it ends
the run, stands escaped behind it, and the next run continues the same word.
-/
theorem read?_quoted (text : List Char)
    : read? ⟨.betweenQuotes, words, some before⟩ (text.flatMap quoteSymbol ++ '\'' :: rest)
      = read? ⟨.outside, words, some (before ++ text.map quotedMark)⟩ rest := by
  induction text generalizing before with
  | nil => simp [read?, step]
  | cons symbol text ih =>
      rw [List.flatMap_cons, List.append_assoc]
      by_cases quote : symbol = '\''
      · subst quote
        have escaped : quoteSymbol '\'' = ['\'', '\\', '\'', '\''] := if_pos rfl
        rw [escaped]
        simp [read?, step, extend, ih, quotedMark]
      · have own : quoteSymbol symbol = [symbol] := if_neg quote
        rw [own]
        simp [read?, step, extend, ih, quotedMark, quote]

/-- A quoted word is read as one word that may go on. -/
theorem read?_quote (word : List Char)
    : read? ⟨.outside, words, none⟩ (quote word ++ rest)
      = read? ⟨.outside, words, some (marksOf word)⟩ rest := by
  unfold quote marksOf
  split
  next plain =>
    obtain ⟨present, every⟩ := plain
    rw [List.all_eq_true] at every
    obtain ⟨first, behind, rfl⟩ := List.exists_cons_of_ne_nil present
    rw [List.cons_append, read?_plain (every first List.mem_cons_self),
      read?_allPlain fun other member => every other (List.mem_cons_of_mem _ member)]
    simp
  next =>
    have opened : read? ⟨.outside, words, none⟩
          (('\'' :: (word.flatMap quoteSymbol ++ ['\''])) ++ rest)
        = read? ⟨.betweenQuotes, words, some []⟩ (word.flatMap quoteSymbol ++ '\'' :: rest) := by
      simp [read?, step, extend]
    rw [opened, read?_quoted, List.nil_append]

/-- Quoted words with blanks between them are read word by word, by induction on them. -/
theorem read?_intercalate_quote (arguments : List (List Char))
    : read? ⟨.outside, words, none⟩ ([' '].intercalate (arguments.map quote) ++ '\n' :: rest)
      = some (words ++ arguments.map marksOf, rest) := by
  induction arguments generalizing words with
  | nil => simp [read?, endWord]
  | cons argument behind ih =>
      cases behind with
      | nil =>
          rw [List.map_singleton, List.intercalate_singleton, read?_quote]
          simp [read?, endWord]
      | cons next behind =>
          have ended : read? ⟨.outside, words, some (marksOf argument)⟩
                ([' '] ++ ([' '].intercalate ((next :: behind).map quote) ++ '\n' :: rest))
              = read? ⟨.outside, words ++ [marksOf argument], none⟩
                  ([' '].intercalate ((next :: behind).map quote) ++ '\n' :: rest) := by
            simp [read?, step, endWord]
          rw [List.map_cons, List.map_cons, List.intercalate_cons_cons, ← List.map_cons,
            List.append_assoc, List.append_assoc, read?_quote, ended, ih, List.append_assoc]
          rfl

end Reader

/-- The line of some words is read as these words. -/
theorem readLine?_line (arguments : List String) (rest : String)
    : readLine? (line arguments ++ "\n" ++ rest)
      = some (arguments.map fun word => marksOf word.toList, rest.toList) := by
  have texts : (line arguments ++ "\n" ++ rest).toList
      = [' '].intercalate ((arguments.map String.toList).map quote) ++ '\n' :: rest.toList := by
    have words : (arguments.map fun word => String.ofList (quote word.toList)).map String.toList
        = (arguments.map String.toList).map quote := by
      simp
    rw [line, String.toList_append, String.toList_append, String.toList_intercalate, words,
      List.append_assoc]
    rfl
  rw [readLine?, texts, Reader.read?_intercalate_quote, List.nil_append, List.map_map]
  rfl

/-- A shell reads a text as some words: its first line gives exactly these words, no character of
the line is unsafe where it stands, and the rest of the text follows the line.
-/
def ReadAs (text : String) (words : List String) (rest : String) : Prop :=
  ∃ marked,
    readLine? text = some (marked, rest.toList)
    ∧ marked.map wordText = words
    ∧ ∀ word ∈ marked, ∀ mark ∈ word, mark.IsSafe

theorem readAs_line (words : List String) (rest : String)
    : ReadAs (line words ++ "\n" ++ rest) words rest := by
  refine ⟨words.map fun word => marksOf word.toList, readLine?_line words rest, ?_, ?_⟩
  · rw [List.map_map]
    exact (List.map_congr_left fun word _ => wordText_marksOf word).trans (List.map_id _)
  · intro word listed mark member
    obtain ⟨argument, _, rfl⟩ := List.mem_map.mp listed
    exact isSafe_of_mem_marksOf member

end Text.Shell

open Text.Shell

namespace CommandLine

/-- The lines that are printed behind the arguments of an invocation. -/
def trailer (invocation : Invocation) (showDescriptors : Bool) : String :=
  if showDescriptors then linesOf (descriptorLines invocation.descriptors) else ""

theorem printInvocation_shell (invocation : Invocation) (showDescriptors : Bool)
    : printInvocation invocation .shell showDescriptors
      = line invocation.arguments ++ "\n" ++ trailer invocation showDescriptors :=
  rfl

/-- The line of any words is read as these words. So what is printed of an invocation for a shell is
read as its arguments, and behind them stand the descriptors, if they are shown.
-/
theorem shellLines_readBack
    : (∀ words rest, ReadAs (line words ++ "\n" ++ rest) words rest)
      ∧ ∀ invocation showDescriptors,
          ReadAs (printInvocation invocation .shell showDescriptors) invocation.arguments
            (trailer invocation showDescriptors) := by
  refine ⟨readAs_line, fun invocation showDescriptors => ?_⟩
  rw [printInvocation_shell]
  exact readAs_line invocation.arguments _

/-- A word that is empty, and words with a quote, a line break and a backslash. -/
example
    : let words := ["", "it's", "a\nb \\", "µ=1"]
      line words = "'' 'it'\\''s' 'a\nb \\' 'µ=1'"
        ∧ (readLine? (line words ++ "\n")).map (fun read => read.1.map wordText) = some words := by
  decide +kernel

end CommandLine

end GuestLaunch
