import GuestLaunch.Proofs.Sockets.Commas

/-!
Values that are cut at their single commas, where a doubled comma stands for one comma in a text.
The texts of a value are joined as they are, so a value is cut into them again exactly if none of
them holds a comma. The commas are counted for this: one that is read as part of a text takes two
in the value, and the texts bring one each.
-/

namespace GuestLaunch

/-- The pieces of a value: a single comma ends a piece, a doubled one is a comma in it. -/
def readPieces : List Char → List (List Char)
  | [] => [[]]
  | ',' :: ',' :: rest => (readPieces rest).modifyHead (',' :: ·)
  | ',' :: rest => [] :: readPieces rest
  | symbol :: rest => (readPieces rest).modifyHead (symbol :: ·)

/-- The parameter that a piece writes: a property, if there is an equals sign. -/
def readParam (piece : List Char) : Param :=
  match piece.dropWhile (· != '=') with
  | [] => .bare (String.ofList piece)
  | _ :: value => .pair (String.ofList (piece.takeWhile (· != '='))) (String.ofList value)

/-- The parameters that the value of a flag writes. -/
def readParams (value : String) : List Param := (readPieces value.toList).map readParam

-----------------------------------------------------------------------------------------
-- Pieces
-----------------------------------------------------------------------------------------

theorem readPieces_ne_nil (text : List Char) : readPieces text ≠ [] := by
  fun_induction readPieces text with
  | case1 => exact List.cons_ne_nil [] []
  | case2 rest ih => exact mt List.modifyHead_eq_nil_iff.mp ih
  | case3 rest single ih => exact List.cons_ne_nil [] _
  | case4 symbol rest doubled single ih => exact mt List.modifyHead_eq_nil_iff.mp ih

theorem flatten_modifyHead_cons {pieces : List (List Char)} (present : pieces ≠ []) (symbol : Char)
    : (pieces.modifyHead (symbol :: ·)).flatten = symbol :: pieces.flatten := by
  cases pieces with
  | nil => exact absurd rfl present
  | cons piece rest => rfl

/-- Each piece but the last takes a comma of the value, and each comma in a piece takes two, by
induction along the value.
-/
theorem count_comma_readPieces (text : List Char)
    : text.count ',' + 1
      = (readPieces text).length + 2 * (readPieces text).flatten.count ',' := by
  fun_induction readPieces text with
  | case1 => rfl
  | case2 rest ih =>
      rw [List.length_modifyHead, flatten_modifyHead_cons (readPieces_ne_nil rest)]
      simp only [List.count_cons_self]
      omega
  | case3 rest single ih =>
      simp only [List.count_cons_self, List.length_cons, List.flatten_cons, List.nil_append]
      omega
  | case4 symbol rest doubled single ih =>
      have other : symbol ≠ ',' := single
      rw [List.length_modifyHead, flatten_modifyHead_cons (readPieces_ne_nil rest),
        List.count_cons_of_ne other, List.count_cons_of_ne other]
      exact ih

/-- The commas of joined pieces: one between any two of them, and those that they hold, by induction
along the pieces.
-/
theorem count_comma_intercalate {pieces : List (List Char)} (present : pieces ≠ [])
    : ([','].intercalate pieces).count ',' + 1 = pieces.length + pieces.flatten.count ',' := by
  induction pieces with
  | nil => exact absurd rfl present
  | cons piece rest ih =>
      cases rest with
      | nil => simp [Nat.add_comm]
      | cons next others =>
          have joined := ih (List.cons_ne_nil next others)
          rw [List.intercalate_cons_cons, List.count_append, List.count_append, List.flatten_cons,
            List.count_append, List.length_cons]
          simp only [List.count_singleton_self]
          omega

theorem readPieces_cons_of_ne {symbol : Char} (other : symbol ≠ ',') (rest : List Char)
    : readPieces (symbol :: rest) = (readPieces rest).modifyHead (symbol :: ·) := by
  rw [readPieces]
  · rintro _ rfl _
    exact other rfl
  · exact other

theorem readPieces_comma_cons {rest : List Char} (single : rest.head? ≠ some ',')
    : readPieces (',' :: rest) = [] :: readPieces rest := by
  rw [readPieces]
  rintro behind rfl
  exact single rfl

/-- A text without a comma belongs to the first piece, by induction along it. -/
theorem readPieces_append {text : List Char} (plain : ',' ∉ text) (rest : List Char)
    : readPieces (text ++ rest) = (readPieces rest).modifyHead (text ++ ·) := by
  induction text with
  | nil => exact congrFun List.modifyHead_id.symm (readPieces rest)
  | cons symbol others ih =>
      have other : symbol ≠ ',' := fun same => plain (by simp [same])
      have behind : ',' ∉ others := fun member => plain (List.mem_cons_of_mem symbol member)
      rw [List.cons_append, readPieces_cons_of_ne other, ih behind, List.modifyHead_modifyHead]
      rfl

theorem head?_intercalate_cons {piece : List Char} (full : piece ≠ []) (rest : List (List Char))
    : ([','].intercalate (piece :: rest)).head? = piece.head? := by
  cases rest with
  | nil => rw [List.intercalate_singleton]
  | cons next others =>
      rw [List.intercalate_cons_cons, List.append_assoc, List.head?_append_of_ne_nil _ full]

/-- Pieces without commas are read back, by induction along them: a comma between two of them is
single, since the next one is not empty and does not start with a comma.
-/
theorem readPieces_intercalate {pieces : List (List Char)} (present : pieces ≠ [])
    (full : ∀ piece ∈ pieces, piece ≠ []) (plain : ∀ piece ∈ pieces, ',' ∉ piece)
    : readPieces ([','].intercalate pieces) = pieces := by
  induction pieces with
  | nil => exact absurd rfl present
  | cons piece rest ih =>
      obtain ⟨plainPiece, plainRest⟩ := List.forall_mem_cons.mp plain
      obtain ⟨_, fullRest⟩ := List.forall_mem_cons.mp full
      cases rest with
      | nil =>
          have alone := readPieces_append plainPiece []
          rw [List.append_nil, readPieces, List.modifyHead_cons, List.append_nil] at alone
          rw [List.intercalate_singleton, alone]
      | cons next others =>
          have single : ([','].intercalate (next :: others)).head? ≠ some ',' := by
            rw [head?_intercalate_cons (fullRest next List.mem_cons_self)]
            exact fun first => plainRest next List.mem_cons_self (List.mem_of_mem_head? first)
          rw [List.intercalate_cons_cons, List.append_assoc, readPieces_append plainPiece,
            List.singleton_append, readPieces_comma_cons single,
            ih (List.cons_ne_nil next others) fullRest plainRest, List.modifyHead_cons,
            List.append_nil]

/-- Pieces that are joined are read back exactly if none of them holds a comma: the commas that are
read would be more than those that were written.
-/
theorem readPieces_intercalate_iff {pieces : List (List Char)} (present : pieces ≠ [])
    (full : ∀ piece ∈ pieces, piece ≠ [])
    : readPieces ([','].intercalate pieces) = pieces ↔ ∀ piece ∈ pieces, ',' ∉ piece := by
  constructor
  · intro same piece member held
    have written := count_comma_intercalate present
    have read := count_comma_readPieces ([','].intercalate pieces)
    rw [same] at read
    have absent : pieces.flatten.count ',' = 0 := by omega
    exact List.count_eq_zero.mp absent (List.mem_flatten.mpr ⟨piece, member, held⟩)
  · exact readPieces_intercalate present full

-----------------------------------------------------------------------------------------
-- Parameters
-----------------------------------------------------------------------------------------

/-- A property whose key holds no equals sign. -/
def Param.HasKey : Param → Prop
  | pair key _ => '=' ∉ key.toList
  | bare _ => False

/-- No symbol of a piece is lost when it is read. -/
theorem toList_text_readParam (piece : List Char) : (readParam piece).text.toList = piece := by
  have whole := List.takeWhile_append_dropWhile (p := (· != '=')) (l := piece)
  unfold readParam
  split
  next bare => rw [Param.text, String.toList_ofList]
  next mark value behind =>
    have equals : mark = '=' := by
      have stop := List.head?_dropWhile_not (· != '=') piece
      rw [behind] at stop
      simpa using stop
    rw [behind, equals] at whole
    simpa [Param.text] using whole

/-- A property is read back from its text, which is cut at the first equals sign. -/
theorem readParam_text {param : Param} (keyed : param.HasKey)
    : readParam param.text.toList = param := by
  cases param with
  | bare text => exact keyed.elim
  | pair key value =>
      rw [Param.toList_text_pair, readParam, dropWhile_ne_append keyed,
        takeWhile_ne_append keyed, String.ofList_toList]
      exact congrArg (Param.pair key) String.ofList_toList

theorem text_ne_nil_of_hasKey {param : Param} (keyed : param.HasKey)
    : param.text.toList ≠ [] := by
  cases param with
  | bare text => exact keyed.elim
  | pair key value => simp [Param.text]

/-- The parameters of a value are read back exactly if none of their texts holds a comma. -/
theorem readParams_joinParams_iff {params : List Param} (present : params ≠ [])
    (keyed : ∀ param ∈ params, param.HasKey)
    : readParams (LaunchOption.joinParams params) = params
      ↔ ∀ param ∈ params, CommaFree param.text := by
  have texts : (LaunchOption.joinParams params).toList
      = [','].intercalate (params.map fun param => param.text.toList) := by
    rw [LaunchOption.joinParams, String.toList_intercalate, List.map_map]
    rfl
  have readBack : (params.map fun param => param.text.toList).map readParam = params := by
    rw [List.map_map]
    exact (List.map_congr_left fun param member => readParam_text (keyed param member)).trans
      (List.map_id params)
  have pieces
      : readParams (LaunchOption.joinParams params) = params
        ↔ readPieces (LaunchOption.joinParams params).toList
          = params.map fun param => param.text.toList := by
    constructor
    · intro same
      have restored := congrArg (List.map fun param : Param => param.text.toList) same
      rw [readParams, List.map_map] at restored
      rw [← restored]
      exact ((List.map_congr_left fun piece _ => toList_text_readParam piece).trans
        (List.map_id _)).symm
    · intro same
      rw [readParams, same, readBack]
  rw [pieces, texts, readPieces_intercalate_iff (by simpa using present)]
  · simp [CommaFree]
  · intro piece member
    obtain ⟨param, listed, rfl⟩ := List.mem_map.mp member
    exact text_ne_nil_of_hasKey (keyed param listed)

end GuestLaunch
