/-!
Fragments of text: what a text starts with, ends with or holds somewhere.
-/

namespace GuestLaunch.Text

/-- Whether a text starts with a fragment. -/
def startsWith (text fragment : String) : Bool := fragment.toList.isPrefixOf text.toList

/-- Whether a text ends with a fragment. -/
def endsWith (text fragment : String) : Bool := fragment.toList.isSuffixOf text.toList

/-- Whether a fragment starts at any place of a list of characters. -/
def occursIn (fragment : List Char) : List Char → Bool
  | [] => fragment.isEmpty
  | symbol :: rest => fragment.isPrefixOf (symbol :: rest) || occursIn fragment rest

/-- Whether a text holds a fragment. -/
def holds (text fragment : String) : Bool := occursIn fragment.toList text.toList

/-- A text, or another one where it is empty. -/
def orElse (text fallback : String) : String := if text.isEmpty then fallback else text

end GuestLaunch.Text
