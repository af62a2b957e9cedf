import GuestLaunch.Json.Parser
import GuestLaunch.Json.Printer
import GuestLaunch.Proofs.Documents.Lexing

/-!
A value of JSON that is written is read back. The written form of a value is read as its
tokens, whatever follows it, and the machine takes the tokens of a value to the value itself.
-/

namespace GuestLaunch.Json
open Text

mutual

/-- Whether every number in a value has digits behind its point. -/
def WellFormed : Json → Prop
  | null | bool _ | text _ => True
  | number value => value.WellFormed
  | list items => ItemsWellFormed items
  | object members => MembersWellFormed members

/-- Whether every item is well formed. -/
def ItemsWellFormed : List Json → Prop
  | [] => True
  | item :: rest => WellFormed item ∧ ItemsWellFormed rest

/-- Whether the value of every member is well formed. -/
def MembersWellFormed : List (Literal × Json) → Prop
  | [] => True
  | (_, value) :: rest => WellFormed value ∧ MembersWellFormed rest

end

mutual

/-- The tokens of a value. -/
def tokens : Json → List Token
  | text value => [.literal value]
  | list [] => [.openList, .closeList]
  | list (item :: rest) => .openList :: (tokens item ++ (itemTokens rest ++ [.closeList]))
  | object [] => [.openObject, .closeObject]
  | object ((key, value) :: rest) =>
      .openObject :: .literal key :: .colon
        :: (tokens value ++ (memberTokens rest ++ [.closeObject]))
  | leaf => [.leaf leaf]

/-- The tokens of the items after the first. -/
def itemTokens : List Json → List Token
  | [] => []
  | item :: rest => .comma :: (tokens item ++ itemTokens rest)

/-- The tokens of the members after the first. -/
def memberTokens : List (Literal × Json) → List Token
  | [] => []
  | (key, value) :: rest =>
      .comma :: .literal key :: .colon :: (tokens value ++ memberTokens rest)

end

-----------------------------------------------------------------------------------------
-- From the text to the tokens
-----------------------------------------------------------------------------------------

/-- A text has the lexemes that mean the given tokens. -/
def Reads (text : List Char) (tokens : List Token) : Prop :=
  ∃ lexemes, Lexeme.Cuts text lexemes ∧ lexemes.mapM Token.ofLexeme? = some tokens

variable {text : List Char} {later : List Token}

theorem reads_nil : Reads [] [] := ⟨[], Lexeme.cuts_nil, rfl⟩

theorem Reads.mark {token : Token} (reads : Reads text later) (symbol : Char)
    (marks : Lexeme.isMark symbol = true) (meaning : Token.ofMark? symbol = some token)
    : Reads (symbol :: text) (token :: later) := by
  obtain ⟨lexemes, cuts, meanings⟩ := reads
  refine ⟨_, cuts.mark marks, ?_⟩
  simp [Token.ofLexeme?, meaning, meanings]

theorem Reads.newLine (reads : Reads text later) (level : Nat)
    : Reads (newLine level ++ text) later := by
  obtain ⟨lexemes, cuts, meanings⟩ := reads
  exact ⟨lexemes, (cuts.blanks (2 * level)).separator rfl, meanings⟩

theorem Reads.literal (reads : Reads text later) (literal : Literal)
    : Reads (Literal.write literal ++ text) (.literal literal :: later) := by
  obtain ⟨lexemes, cuts, meanings⟩ := reads
  refine ⟨_, cuts.literal literal, ?_⟩
  simp [Token.ofLexeme?, Literal.read?_raw, meanings]

theorem Reads.key (reads : Reads text later) (key : Literal)
    : Reads (writeKey key ++ text) (.literal key :: .colon :: later) := by
  obtain ⟨lexemes, cuts, meanings⟩ := reads
  have blank : Reads (' ' :: text) later := ⟨lexemes, cuts.separator rfl, meanings⟩
  rw [writeKey, List.append_assoc]
  exact (blank.mark ':' rfl rfl).literal key

/-- A word is read as its meaning, up to a text that ends it. -/
theorem Reads.word {symbols : List Char} {token : Token} (reads : Reads text later)
    (ends : Lexeme.EndsWord text) (nonempty : symbols ≠ [])
    (plain : ∀ symbol ∈ symbols, symbol ∉ Lexeme.delimiters)
    (meaning : Token.ofWord? symbols = some token)
    : Reads (symbols ++ text) (token :: later) := by
  obtain ⟨lexemes, cuts, meanings⟩ := reads
  refine ⟨_, cuts.word ends nonempty plain, ?_⟩
  simp [Token.ofLexeme?, meaning, meanings]

theorem Reads.keyword {keyword : String} {token : Token} (reads : Reads text later)
    (ends : Lexeme.EndsWord text) (listed : keyword ∈ ["null", "true", "false"])
    (meaning : Token.ofWord? keyword.toList = some token)
    : Reads (keyword.toList ++ text) (token :: later) := by
  have every : ∀ keyword ∈ ["null", "true", "false"],
      keyword.toList ≠ [] ∧ ∀ symbol ∈ keyword.toList, symbol ∉ Lexeme.delimiters := by
    simp [Lexeme.delimiters]
  obtain ⟨nonempty, plain⟩ := every keyword listed
  exact reads.word ends nonempty plain meaning

/-- A number is written without delimiters: it has a sign, digits, a point and the mark of an
exponent.
-/
theorem not_mem_delimiters_of_mem_write {number : Number} (wellFormed : number.WellFormed)
    {symbol : Char} (member : symbol ∈ number.write)
    : symbol ∉ Lexeme.delimiters := by
  have every : ∀ delimiter ∈ Lexeme.delimiters,
      delimiter ∉ ['-', '.', 'e'] ∧ Numeral.isDecimalDigit delimiter = false := by
    simp [Lexeme.delimiters, Numeral.isDecimalDigit]
  intro listed
  obtain ⟨noMark, noDigit⟩ := every symbol listed
  rcases Number.mark_or_digit_of_mem_write wellFormed member with mark | digit
  · exact noMark mark
  · rw [noDigit] at digit
    cases digit

/-- The word of a number is not one of the keywords, as no keyword is read as a number. -/
theorem ofWord?_write {number : Number} (wellFormed : number.WellFormed)
    : Token.ofWord? number.write = some (.leaf (.number number)) := by
  have read := Number.read?_write wellFormed
  have other : ∀ keyword ∈ ["null", "true", "false"], number.write ≠ keyword.toList := by
    intro keyword listed same
    have unread : ∀ keyword ∈ ["null", "true", "false"], Number.read? keyword.toList = none := by
      decide
    rw [same, unread keyword listed] at read
    cases read
  rw [Token.ofWord?, if_neg (other _ (by simp)), if_neg (other _ (by simp)),
    if_neg (other _ (by simp)), read, Option.map_some]

theorem endsWord_newLine (text : List Char) (level : Nat)
    : Lexeme.EndsWord (newLine level ++ text) := by
  intro symbol member
  obtain rfl := Option.some.inj member
  decide

theorem endsWord_writeItems (level : Nat) (rest : List Json) (ends : Lexeme.EndsWord text)
    : Lexeme.EndsWord (writeItems level rest ++ text) := by
  cases rest with
  | nil => exact ends
  | cons item later =>
      intro symbol member
      obtain rfl := Option.some.inj member
      decide

theorem endsWord_writeMembers (level : Nat) (rest : List (Literal × Json))
    (ends : Lexeme.EndsWord text)
    : Lexeme.EndsWord (writeMembers level rest ++ text) := by
  cases rest with
  | nil => exact ends
  | cons member later =>
      intro symbol member
      obtain rfl := Option.some.inj member
      decide

mutual

/-- The written form of a value is read as its tokens, up to a text that ends a word, by
induction on the value.
-/
theorem reads_write {json : Json} {text : List Char} {later : List Token}
    (wellFormed : json.WellFormed) (reads : Reads text later) (ends : Lexeme.EndsWord text)
    (level : Nat)
    : Reads (json.write level ++ text) (json.tokens ++ later) := by
  match json with
  | null => exact reads.keyword ends (by decide) rfl
  | bool true => exact reads.keyword ends (by decide) rfl
  | bool false => exact reads.keyword ends (by decide) rfl
  | number value =>
      exact reads.word ends value.write_ne_nil
        (fun _ => not_mem_delimiters_of_mem_write wellFormed) (ofWord?_write wellFormed)
  | .text value => exact reads.literal value
  | list [] => exact (reads.mark ']' rfl rfl).mark '[' rfl rfl
  | list (item :: rest) =>
      have close := (reads.mark ']' rfl rfl).newLine level
      have closes := endsWord_newLine (']' :: text) level
      have items := reads_writeItems wellFormed.2 close closes (level + 1)
      have first := reads_write wellFormed.1 items (endsWord_writeItems _ rest closes) (level + 1)
      have all := (first.newLine (level + 1)).mark '[' rfl rfl
      simpa [write, tokens] using all
  | object [] => exact (reads.mark '\x7d' rfl rfl).mark '\x7b' rfl rfl
  | object ((key, value) :: rest) =>
      have close := (reads.mark '\x7d' rfl rfl).newLine level
      have closes := endsWord_newLine ('\x7d' :: text) level
      have members := reads_writeMembers wellFormed.2 close closes (level + 1)
      have first :=
        reads_write wellFormed.1 members (endsWord_writeMembers _ rest closes) (level + 1)
      have all := ((first.key key).newLine (level + 1)).mark '\x7b' rfl rfl
      simpa [write, tokens] using all

/-- The written form of the items after the first. -/
theorem reads_writeItems {rest : List Json} {text : List Char} {later : List Token}
    (wellFormed : ItemsWellFormed rest) (reads : Reads text later)
    (ends : Lexeme.EndsWord text) (level : Nat)
    : Reads (writeItems level rest ++ text) (itemTokens rest ++ later) := by
  match rest with
  | [] => exact reads
  | item :: rest =>
      have items := reads_writeItems wellFormed.2 reads ends level
      have first := reads_write wellFormed.1 items (endsWord_writeItems level rest ends) level
      have all := (first.newLine level).mark ',' rfl rfl
      simpa [writeItems, itemTokens] using all

/-- The written form of the members after the first. -/
theorem reads_writeMembers {rest : List (Literal × Json)} {text : List Char}
    {later : List Token} (wellFormed : MembersWellFormed rest) (reads : Reads text later)
    (ends : Lexeme.EndsWord text) (level : Nat)
    : Reads (writeMembers level rest ++ text) (memberTokens rest ++ later) := by
  match rest with
  | [] => exact reads
  | (key, value) :: rest =>
      have members := reads_writeMembers wellFormed.2 reads ends level
      have first := reads_write wellFormed.1 members (endsWord_writeMembers level rest ends) level
      have all := ((first.key key).newLine level).mark ',' rfl rfl
      simpa [writeMembers, memberTokens] using all

end

-----------------------------------------------------------------------------------------
-- From the tokens to the value
-----------------------------------------------------------------------------------------

namespace Parser

/-- Where a list may end, a value is taken as anywhere else: no value starts with the end. -/
theorem foldlM_tokens_itemOrEnd (json : Json) (later : List Token) (frames : List Frame)
    : (json.tokens ++ later).foldlM State.step { frames, due := .itemOrEnd }
      = (json.tokens ++ later).foldlM State.step { frames, due := .value } := by
  cases json with
  | list items => cases items <;> rfl
  | object members => cases members <;> rfl
  | _ => rfl

mutual

/-- The machine takes the tokens of a value to the value, by induction on it. -/
theorem foldlM_tokens (json : Json) (later : List Token) (frames : List Frame)
    : (json.tokens ++ later).foldlM State.step { frames, due := .value }
      = later.foldlM State.step { frames, due := .after json } := by
  match json with
  | null | bool _ | number _ | .text _ => rfl
  | list [] => rfl
  | list (item :: rest) =>
      simp only [tokens, List.cons_append, List.append_assoc, List.nil_append]
      show (item.tokens ++ (itemTokens rest ++ Token.closeList :: later)).foldlM State.step
        { frames := .list [] :: frames, due := .itemOrEnd } = _
      rw [foldlM_tokens_itemOrEnd, foldlM_tokens, foldlM_itemTokens]
      rfl
  | object [] => rfl
  | object ((key, value) :: rest) =>
      simp only [tokens, List.cons_append, List.append_assoc, List.nil_append]
      show (value.tokens ++ (memberTokens rest ++ Token.closeObject :: later)).foldlM State.step
        { frames := .member [] key :: frames, due := .value } = _
      rw [foldlM_tokens, foldlM_memberTokens]
      rfl

/-- The tokens of the items after the first add them to the list. -/
theorem foldlM_itemTokens (rest : List Json) (later : List Token) (frames : List Frame)
    (items : List Json) (item : Json)
    : (itemTokens rest ++ Token.closeList :: later).foldlM State.step
        { frames := .list items :: frames, due := .after item }
      = later.foldlM State.step
        { frames, due := .after (.list ((item :: items).reverse ++ rest)) } := by
  match rest with
  | [] =>
      rw [List.append_nil]
      rfl
  | next :: rest =>
      rw [itemTokens, List.cons_append, List.append_assoc]
      show (next.tokens ++ (itemTokens rest ++ Token.closeList :: later)).foldlM State.step
        { frames := .list (item :: items) :: frames, due := .value } = _
      rw [foldlM_tokens, foldlM_itemTokens, List.reverse_cons, List.append_assoc,
        List.singleton_append]

/-- The tokens of the members after the first add them to the object. -/
theorem foldlM_memberTokens (rest : List (Literal × Json)) (later : List Token)
    (frames : List Frame) (members : List (Literal × Json)) (key : Literal) (value : Json)
    : (memberTokens rest ++ Token.closeObject :: later).foldlM State.step
        { frames := .member members key :: frames, due := .after value }
      = later.foldlM State.step
        { frames, due := .after (.object (((key, value) :: members).reverse ++ rest)) } := by
  match rest with
  | [] =>
      rw [List.append_nil]
      rfl
  | (nextKey, next) :: rest =>
      rw [memberTokens, List.cons_append, List.cons_append, List.cons_append,
        List.append_assoc]
      show (next.tokens ++ (memberTokens rest ++ Token.closeObject :: later)).foldlM State.step
        { frames := .member ((key, value) :: members) nextKey :: frames, due := .value } = _
      rw [foldlM_tokens, foldlM_memberTokens, List.reverse_cons, List.append_assoc,
        List.singleton_append]

end

theorem run?_tokens (json : Json) : run? json.tokens = some json := by
  have steps := foldlM_tokens json [] []
  rw [List.append_nil] at steps
  rw [run?, steps]
  rfl

end Parser

/-- A value that is written over several lines is read back. -/
theorem parse?_pretty_of_wellFormed {json : Json} (wellFormed : json.WellFormed)
    : parse? json.pretty = some json := by
  have noWord : Lexeme.EndsWord [] := by
    intro symbol member
    cases member
  have reads := reads_write wellFormed reads_nil noWord 0
  rw [List.append_nil, List.append_nil] at reads
  obtain ⟨lexemes, cuts, meanings⟩ := reads
  rw [parse?, pretty, String.toList_ofList, cuts.all?]
  simp only [Option.bind_eq_bind, Option.bind_some, meanings, Parser.run?_tokens]

end GuestLaunch.Json
