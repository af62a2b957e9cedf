/-!
Blank characters, as the `White_Space` property of Unicode has them, and the removal of
blanks from both ends of a text.
-/

namespace GuestLaunch.Text

/-- The characters with the `White_Space` property, as inclusive ranges of code points. -/
def blankRanges : List (Nat × Nat) :=
  [(0x9, 0xD), (0x20, 0x20), (0x85, 0x85), (0xA0, 0xA0), (0x1680, 0x1680), (0x2000, 0x200A),
    (0x2028, 0x2029), (0x202F, 0x202F), (0x205F, 0x205F), (0x3000, 0x3000)]

/-- Whether a character has the `White_Space` property. -/
def isBlank (symbol : Char) : Bool :=
  blankRanges.any fun range => range.1 ≤ symbol.toNat && symbol.toNat ≤ range.2

/-- Drops the blanks at both ends of a text. -/
def trim (text : List Char) : List Char :=
  ((text.dropWhile isBlank).reverse.dropWhile isBlank).reverse

/-- A text without blanks is trimmed already. -/
theorem trim_of_noBlank {text : List Char}
    (noBlank : ∀ symbol ∈ text, isBlank symbol = false)
    : trim text = text := by
  have kept (symbols : List Char) (clear : ∀ symbol ∈ symbols, isBlank symbol = false)
      : symbols.dropWhile isBlank = symbols := by
    cases symbols with
    | nil => rfl
    | cons head rest => simp [clear head (by simp)]
  rw [trim, kept text noBlank, kept text.reverse (by simpa using noBlank), List.reverse_reverse]

end GuestLaunch.Text
