/-!
Words of a POSIX shell line. A word of plain characters stands as it is; any other one is
put between single quotes, with every single quote in it written as a quote that ends the
run, an escaped quote, and a quote that starts the next run.
-/

namespace GuestLaunch.Text.Shell

/-- The characters besides ASCII letters and digits that mean themselves in a word. -/
def plainMarks : List Char := ['-', '_', '.', '/', ':', '=', ',', '+', '@', '%']

/-- Whether a character means itself wherever it stands in a word. -/
def isPlain (symbol : Char) : Bool := symbol.isAlphanum || plainMarks.contains symbol

/-- The text that stands for one character between single quotes. -/
def quoteSymbol (symbol : Char) : List Char :=
  if symbol = '\'' then ['\'', '\\', '\'', '\''] else [symbol]

/-- One word of a shell line, quoted where it has to be. -/
def quote (word : List Char) : List Char :=
  if word ≠ [] ∧ word.all isPlain then word
  else '\'' :: (word.flatMap quoteSymbol ++ ['\''])

/-- A shell line of words, with one blank between each two. -/
def line (words : List String) : String :=
  " ".intercalate (words.map fun word => String.ofList (quote word.toList))

end GuestLaunch.Text.Shell
