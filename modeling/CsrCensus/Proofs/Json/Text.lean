import CsrCensus.Proofs.Json.Reading

/-!
# Reading strings

Each spelling of a string is read as that string. A string of which only the
form counts is skipped as a whole.
-/

namespace CsrCensus.Json

theorem simpleEscape?_of_mem
    {letter character : Char} (listed : (letter, character) ∈ escapes) :
    simpleEscape? letter = some character ∧ letter ≠ 'u' := by
  have all :
      ∀ escape ∈ escapes,
        simpleEscape? escape.1 = some escape.2 ∧ escape.1 ≠ 'u' := by decide
  exact all (letter, character) listed

theorem length_le_byteCount (text : List Char) :
    text.length ≤ Text.byteCount text := by
  induction text with
  | nil => simp
  | cons first rest inductionHypothesis =>
      have positive := first.utf8Size_pos
      simp only [Text.byteCount, List.length_cons, List.map_cons,
        List.foldr_cons] at *
      omega

theorem hexUnit?_of_spelled
    {unit : Nat} {digits : List Char} (spelled : UnitSpelled unit digits) :
    hexUnit? digits = some unit := by
  have known :
      ∀ digit ∈ "0123456789abcdefABCDEF".toList,
        (Numeral.digitValue? 16 digit).isSome :=
    forall_mem_of_all (by decide)
  obtain ⟨first, second, third, fourth, rfl⟩ :
      ∃ first second third fourth, digits = [first, second, third, fourth] :=
    match digits, spelled.length_eq with
    | [first, second, third, fourth], _ => ⟨first, second, third, fourth, rfl⟩
  have valued := fun digit inside => Option.isSome_iff_exists.mp
    (known digit (spelled.hexadecimal digit inside))
  obtain ⟨firstValue, isFirst⟩ := valued first (by simp)
  obtain ⟨secondValue, isSecond⟩ := valued second (by simp)
  obtain ⟨thirdValue, isThird⟩ := valued third (by simp)
  obtain ⟨fourthValue, isFourth⟩ := valued fourth (by simp)
  have value_eq := spelled.value_eq
  simp only [Numeral.value, List.foldl_cons, List.foldl_nil, isFirst, isSecond,
    isThird, isFourth, Option.getD_some, Nat.zero_mul, Nat.zero_add] at value_eq
  simp [hexUnit?, isFirst, isSecond, isThird, isFourth, value_eq]

theorem reads_readUnit
    {unit : Nat} {digits : List Char} (spelled : UnitSpelled unit digits)
    (left : List Char) :
    Reads readUnit (digits ++ left) unit left := by
  have enough : ¬ Text.byteCount (digits ++ left) < 4 := by
    have := length_le_byteCount (digits ++ left)
    have := spelled.length_eq
    rw [List.length_append] at *
    omega
  have taken : (digits ++ left).take 4 = digits := by
    rw [← spelled.length_eq, List.take_left]
  have dropped : (digits ++ left).drop 4 = left := by
    rw [← spelled.length_eq, List.drop_left]
  intro consumed
  refine ⟨consumed + 4, ?_⟩
  simp only [readUnit, enough, if_false, taken, dropped,
    hexUnit?_of_spelled spelled]

theorem reads_readPairChar (wanted : Char) (left : List Char) :
    Reads (readPairChar wanted) (wanted :: left) () left := by
  refine (reads_peek _).bind ?_
  simp only [List.head?_cons, if_true]
  exact reads_skipChar _ _

theorem reads_readUnicode_unit
    {character : Char} {digits : List Char}
    (spelled : UnitSpelled character.toNat digits) (left : List Char) :
    Reads readUnicode (digits ++ left) character left := by
  -- A character is no surrogate, so its unit needs no second one.
  have valid : character.toNat < 0xD800 ∨ 0xDFFF < character.toNat := by
    rcases character.valid with below | ⟨above, -⟩
    · exact .inl below
    · exact .inr above
  refine (reads_readUnit spelled left).bind ?_
  rw [if_neg (by omega), if_neg (by omega), Char.ofNat_toNat]
  exact .pure _

theorem reads_readUnicode_pair
    {character : Char} {high low : Nat} {highDigits lowDigits : List Char}
    (isHigh : UnitSpelled high highDigits) (leastHigh : 0xD800 ≤ high)
    (mostHigh : high ≤ 0xDBFF) (isLow : UnitSpelled low lowDigits)
    (leastLow : 0xDC00 ≤ low) (mostLow : low ≤ 0xDFFF)
    (code : character.toNat =
      0x10000 + (high - 0xD800) * 0x400 + (low - 0xDC00)) (left : List Char) :
    Reads readUnicode
      ((highDigits ++ '\\' :: 'u' :: lowDigits) ++ left) character left := by
  rw [List.append_assoc]
  refine (reads_readUnit isHigh _).bind ?_
  rw [if_neg (by omega), if_pos ⟨leastHigh, mostHigh⟩]
  refine (reads_readPairChar '\\' _).bind ?_
  refine (reads_readPairChar 'u' _).bind ?_
  refine (reads_readUnit isLow left).bind ?_
  rw [if_pos ⟨leastLow, mostLow⟩, ← code, Char.ofNat_toNat]
  exact .pure _

theorem reads_readEscape_unicode
    {text left : List Char} {character : Char}
    (reads : Reads readUnicode text character left) :
    Reads readEscape ('u' :: text) character left := by
  refine (reads_peek _).bind ?_
  simp only [List.head?_cons, if_true]
  exact (reads_skipChar _ _).bind reads

theorem reads_readEscape_simple
    {letter character : Char} (listed : (letter, character) ∈ escapes)
    (left : List Char) :
    Reads readEscape (letter :: left) character left := by
  obtain ⟨known, notUnicode⟩ := simpleEscape?_of_mem listed
  refine (reads_peek _).bind ?_
  simp only [List.head?_cons, notUnicode, if_false, known]
  exact (reads_skipChar _ _).bind (.pure _)

theorem reads_readChars_escape
    {bound : Nat} {built content : String} {character : Char}
    {escape middle left : List Char}
    (escapes : Reads readEscape escape character middle)
    (continues : Reads (readChars bound (built.push character)) middle
      content left) :
    Reads (readChars (bound + 1) built) ('\\' :: escape) content left := by
  refine (reads_peek _).bind ?_
  simp only [List.head?_cons, Char.reduceEq, if_false, if_true]
  exact (reads_skipChar _ _).bind (escapes.bind continues)

/-- Each spelling of a character is read as that character. -/
theorem reads_readChars_spelled
    {bound : Nat} {built content : String} {character : Char}
    {text middle left : List Char} (spelled : CharSpelled character text)
    (continues : Reads (readChars bound (built.push character)) middle
      content left) :
    Reads (readChars (bound + 1) built) (text ++ middle) content left := by
  cases spelled with
  | raw visible noQuote noBackslash =>
      refine (reads_peek _).bind ?_
      simp only [List.singleton_append, List.head?_cons, noQuote, noBackslash,
        if_false, Char.not_lt.mpr visible]
      exact (reads_skipChar _ _).bind continues
  | escaped listed =>
      exact reads_readChars_escape (reads_readEscape_simple listed _) continues
  | unit spelled =>
      exact reads_readChars_escape
        (reads_readEscape_unicode (reads_readUnicode_unit spelled _))
        continues
  | pair isHigh leastHigh mostHigh isLow leastLow mostLow code =>
      refine reads_readChars_escape (reads_readEscape_unicode ?_) continues
      exact reads_readUnicode_pair isHigh leastHigh mostHigh isLow leastLow
        mostLow code middle

theorem CharSpelled.length_pos
    {character : Char} {text : List Char}
    (spelled : CharSpelled character text) :
    0 < text.length := by
  cases spelled <;> simp

theorem reads_readChars
    {content inner : List Char} (spelled : CharsSpelled content inner)
    (left : List Char) :
    ∀ {bound : Nat} (built : String), inner.length < bound →
      Reads (readChars bound built) (inner ++ '"' :: left)
        (String.ofList (built.toList ++ content)) left := by
  induction spelled with
  | nil =>
      intro bound built enough
      obtain ⟨bound, rfl⟩ :=
        Nat.exists_eq_add_one_of_ne_zero (Nat.ne_of_gt enough)
      refine (reads_peek _).bind ?_
      simp only [List.nil_append, List.head?_cons, if_true, List.append_nil,
        String.ofList_toList]
      exact (reads_skipChar _ _).bind (.pure built)
  | @cons character content first rest isFirst isRest inductionHypothesis =>
      intro bound built enough
      have positive := isFirst.length_pos
      rw [List.length_append] at enough
      obtain ⟨bound, rfl⟩ :=
        Nat.exists_eq_add_one_of_ne_zero (by omega : bound ≠ 0)
      rw [List.append_assoc]
      refine reads_readChars_spelled isFirst ?_
      have later :=
        inductionHypothesis (built.push character)
          (by omega : rest.length < bound)
      rwa [String.toList_push, List.append_assoc] at later

/-- Each spelling of a string is read as that string. -/
theorem reads_readText
    {content : String} {inner : List Char}
    (spelled : CharsSpelled content.toList inner) (left : List Char) :
    Reads readText (inner ++ '"' :: left) content left := by
  have enough : inner.length < (inner ++ '"' :: left).length + 1 := by
    rw [List.length_append]
    omega
  have reads := reads_readChars spelled left "" enough
  rw [String.toList_empty, List.nil_append, String.ofList_toList] at reads
  exact (reads_remaining _).bind reads

/-! ## Skipping -/

theorem reads_skipEscape_simple
    {letter character : Char} (listed : (letter, character) ∈ escapes)
    (left : List Char) :
    Reads skipEscape (letter :: left) () left := by
  obtain ⟨known, notUnicode⟩ := simpleEscape?_of_mem listed
  refine (reads_peek _).bind ?_
  simp only [List.head?_cons, notUnicode, if_false, known]
  exact reads_skipChar _ _

theorem reads_skipEscape_unit
    {unit : Nat} {digits : List Char} (spelled : UnitSpelled unit digits)
    (left : List Char) :
    Reads skipEscape ('u' :: (digits ++ left)) () left := by
  refine (reads_peek _).bind ?_
  simp only [List.head?_cons, if_true]
  exact (reads_skipChar _ _).bind ((reads_readUnit spelled left).bind (.pure _))

theorem reads_skipChars_escape
    {bound : Nat} {escape middle left : List Char}
    (escapes : Reads skipEscape escape () middle)
    (continues : Reads (skipChars bound) middle () left) :
    Reads (skipChars (bound + 1)) ('\\' :: escape) () left := by
  refine (reads_peek _).bind ?_
  simp only [List.head?_cons, Char.reduceEq, if_false, if_true]
  exact (reads_skipChar _ _).bind (escapes.bind continues)

theorem reads_skipChars_piece
    {bound : Nat} {text middle left : List Char} (piece : Piece text)
    (continues : Reads (skipChars bound) middle () left) :
    Reads (skipChars (bound + 1)) (text ++ middle) () left := by
  cases piece with
  | raw visible noQuote noBackslash =>
      refine (reads_peek _).bind ?_
      simp only [List.singleton_append, List.head?_cons, noQuote, noBackslash,
        if_false, Char.not_lt.mpr visible]
      exact (reads_skipChar _ _).bind continues
  | escaped listed =>
      exact reads_skipChars_escape (reads_skipEscape_simple listed _) continues
  | unit spelled =>
      exact reads_skipChars_escape (reads_skipEscape_unit spelled _) continues

theorem Piece.length_pos {text : List Char} (piece : Piece text) :
    0 < text.length := by
  cases piece <;> simp

theorem reads_skipChars
    {inner : List Char} (pieces : Pieces inner) (left : List Char) :
    ∀ {bound : Nat}, inner.length < bound →
      Reads (skipChars bound) (inner ++ '"' :: left) () left := by
  induction pieces with
  | nil =>
      intro bound enough
      obtain ⟨bound, rfl⟩ :=
        Nat.exists_eq_add_one_of_ne_zero (Nat.ne_of_gt enough)
      refine (reads_peek _).bind ?_
      simp only [List.nil_append, List.head?_cons, if_true]
      exact reads_skipChar _ _
  | cons isFirst isRest inductionHypothesis =>
      intro bound enough
      have positive := isFirst.length_pos
      rw [List.length_append] at enough
      obtain ⟨bound, rfl⟩ :=
        Nat.exists_eq_add_one_of_ne_zero (by omega : bound ≠ 0)
      rw [List.append_assoc]
      exact reads_skipChars_piece isFirst (inductionHypothesis (by omega))

theorem reads_skipText
    {inner : List Char} (pieces : Pieces inner) (left : List Char) :
    Reads skipText (inner ++ '"' :: left) () left := by
  have enough : inner.length < (inner ++ '"' :: left).length + 1 := by
    rw [List.length_append]
    omega
  exact (reads_remaining _).bind (reads_skipChars pieces left enough)

end CsrCensus.Json
