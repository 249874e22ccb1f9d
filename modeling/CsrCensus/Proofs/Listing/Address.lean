import CsrCensus.Listing.Address
import CsrCensus.Proofs.Text.Blank
import CsrCensus.Proofs.Text.Numeral

/-!
# The grammar of addresses

A text is read as an address exactly if its significant characters are digits of
a number below `2 ^ 64`. `Reading` says which digits those are, and what the
fault is otherwise. Each address is read from its decimal and its hexadecimal
numerals, however they are spaced.
-/

namespace CsrCensus

namespace Numeral

/-- Whether all characters are digits of a radix. -/
def IsDigits (radix : Nat) (characters : List Char) : Prop :=
  ∀ character ∈ characters, (digitValue? radix character).isSome

theorem isDigits_chars
    {format : Format} (large : 2 ≤ format.radix) (small : format.radix ≤ 16)
    (number : Nat) :
    IsDigits format.radix (format.chars number) := by
  obtain ⟨zeros, equal⟩ := format.chars_eq number
  intro character member
  rw [equal, List.mem_append] at member
  rcases member with zero | significant
  · rw [List.eq_of_mem_replicate zero]
    exact Option.isSome_iff_exists.mpr
      ⟨0, digitValue?_digitChar .lower small (show 0 < format.radix by omega)⟩
  · obtain ⟨digit, inside, rfl⟩ := List.mem_map.mp significant
    rw [digitValue?_digitChar format.letters small
      (digits_lt (by omega) number digit inside)]
    rfl

/-- The number that digits stand for behind the digits of another number. -/
def valueAfter (radix number : Nat) (characters : List Char) : Nat :=
  characters.foldl
    (fun number character =>
      number * radix + (digitValue? radix character).getD 0) number

theorem valueAfter_append (radix number : Nat) (left right : List Char) :
    valueAfter radix number (left ++ right) =
      valueAfter radix (valueAfter radix number left) right :=
  List.foldl_append

theorem le_valueAfter
    {radix : Nat} (positive : 0 < radix) (number : Nat)
    (characters : List Char) :
    number ≤ valueAfter radix number characters := by
  induction characters generalizing number with
  | nil => exact Nat.le_refl number
  | cons first rest inductionHypothesis =>
      calc
        number ≤ number * radix := Nat.le_mul_of_pos_right number positive
        _ ≤ number * radix + (digitValue? radix first).getD 0 :=
          Nat.le_add_right _ _
        _ ≤ valueAfter radix number (first :: rest) := inductionHypothesis _

/-- More digits do not make a smaller number. -/
theorem value_le_value_append
    {radix : Nat} (positive : 0 < radix) (left right : List Char) :
    value radix left ≤ value radix (left ++ right) := by
  change valueAfter radix 0 left ≤ valueAfter radix 0 (left ++ right)
  rw [valueAfter_append]
  exact le_valueAfter positive _ right

end Numeral

namespace Address

open Numeral

/-- Some digits at the beginning are too large a number. -/
def Overflows (radix : Nat) (characters : List Char) : Prop :=
  ∃ front rest,
    characters = front ++ rest ∧ IsDigits radix front ∧
      UInt64.size ≤ value radix front

/-- A character is no digit, and the digits in front of it are not too large a
number. -/
def Breaks (radix : Nat) (characters : List Char) : Prop :=
  ∃ front character rest,
    characters = front ++ character :: rest ∧ IsDigits radix front ∧
      value radix front < UInt64.size ∧ digitValue? radix character = none

theorem not_breaks_of_isDigits {radix : Nat} {characters : List Char}
    (digits : IsDigits radix characters) :
    ¬ Breaks radix characters := by
  rintro ⟨front, character, rest, rfl, -, -, foreign⟩
  have digit := digits character (by simp)
  simp [foreign] at digit

theorem not_overflows_of_value_lt
    {radix : Nat} (positive : 0 < radix) {characters : List Char}
    (small : value radix characters < UInt64.size) :
    ¬ Overflows radix characters := by
  rintro ⟨front, rest, rfl, -, large⟩
  have := value_le_value_append positive front rest
  omega

/-- Digits that are too large a number are met before the character that is
none, or after it. -/
theorem not_breaks_of_overflows
    {radix : Nat} (positive : 0 < radix) {characters : List Char}
    (overflows : Overflows radix characters) :
    ¬ Breaks radix characters := by
  obtain ⟨front, rest, equal, digits, large⟩ := overflows
  rintro ⟨before, character, after, broken, -, small, foreign⟩
  rw [equal, List.append_eq_append_iff] at broken
  rcases broken with ⟨middle, rfl, -⟩ | ⟨middle, rfl, beyond⟩
  · have := value_le_value_append positive front middle
    omega
  · cases middle with
    | nil =>
        rw [List.append_nil] at large
        omega
    | cons first others =>
        obtain ⟨rfl, -⟩ := List.cons.inj beyond
        have digit := digits character (by simp)
        simp [foreign] at digit

/-- Reading digits ends in one of three ways. -/
theorem readDigits_cases (radix : Nat) (characters : List Char) {number : Nat}
    (small : number < UInt64.size) :
    (IsDigits radix characters ∧
      valueAfter radix number characters < UInt64.size ∧
      readDigits radix number characters =
        .ok (valueAfter radix number characters)) ∨
    (readDigits radix number characters = .error .overflow ∧
      ∃ front rest,
        characters = front ++ rest ∧ IsDigits radix front ∧
          UInt64.size ≤ valueAfter radix number front) ∨
    (readDigits radix number characters = .error .invalidDigit ∧
      ∃ front character rest,
        characters = front ++ character :: rest ∧ IsDigits radix front ∧
          valueAfter radix number front < UInt64.size ∧
            digitValue? radix character = none) := by
  induction characters generalizing number with
  | nil => exact .inl ⟨nofun, small, rfl⟩
  | cons first rest inductionHypothesis =>
      cases read : digitValue? radix first with
      | none =>
          refine .inr (.inr ⟨?_, [], first, rest, rfl, nofun, small, read⟩)
          rw [readDigits, read]
      | some digit =>
          have value_cons (others : List Char) :
              valueAfter radix number (first :: others) =
                valueAfter radix (number * radix + digit) others := by
            simp only [valueAfter, List.foldl_cons, read, Option.getD_some]
          have digits_cons {others : List Char}
            (digits : IsDigits radix others) :
              IsDigits radix (first :: others) :=
            List.forall_mem_cons.mpr ⟨by simp [read], digits⟩
          by_cases fits : number * radix + digit < UInt64.size
          · have step :
                readDigits radix number (first :: rest) =
                  readDigits radix (number * radix + digit) rest := by
              rw [readDigits, read]
              exact if_pos fits
            rw [step]
            rcases inductionHypothesis fits with
              ⟨digits, lower, ok⟩ |
                ⟨overflow, front, others, rfl, digits, large⟩ |
                ⟨invalid, front, character, others, rfl, digits, lower, foreign⟩
            · rw [value_cons]
              exact .inl ⟨digits_cons digits, lower, ok⟩
            · refine .inr
                (.inl ⟨overflow, first :: front, others, rfl,
                  digits_cons digits, ?_⟩)
              rwa [value_cons]
            · refine .inr (.inr
                ⟨invalid, first :: front, character, others, rfl,
                  digits_cons digits, ?_, foreign⟩)
              rwa [value_cons]
          · refine .inr (.inl ⟨?_, [first], rest, rfl, digits_cons nofun, ?_⟩)
            · rw [readDigits, read]
              exact if_neg fits
            · rw [value_cons]
              exact Nat.not_lt.mp fits

/-! ## Numbers -/

/-- A number without its plus sign; a sign alone is none. -/
def unsigned : List Char → List Char
  | '+' :: next :: rest => next :: rest
  | characters => characters

/-- The radix of a number and what is to be read in it: the characters behind
`0x`, or all. -/
def radixAndBody : List Char → Nat × List Char
  | '0' :: 'x' :: rest => (16, rest)
  | '0' :: 'X' :: rest => (16, rest)
  | characters => (10, characters)

theorem readRadix_eq (characters : List Char) :
    readRadix characters =
      readNumber (radixAndBody characters).1 (radixAndBody characters).2 := by
  unfold radixAndBody
  split
  · rfl
  · rfl
  · next noLower noUpper => exact readRadix.eq_3 characters noLower noUpper

theorem readNumber_eq {radix : Nat} {body : List Char} (nonempty : body ≠ []) :
    readNumber radix body = readDigits radix 0 (unsigned body) := by
  unfold unsigned
  split
  · rfl
  · next bare => exact readNumber.eq_3 radix body nonempty bare

theorem unsigned_eq_nil_iff {body : List Char} :
    unsigned body = [] ↔ body = [] := by
  unfold unsigned
  split <;> simp

/-- What is read from a body in a radix, and what is at fault with it
otherwise. -/
structure Reading
    (outcome : Except Fault UInt64) (radix : Nat) (body : List Char) :
    Prop where
  ok_iff :
    ∀ address,
      outcome = .ok address ↔
        unsigned body ≠ [] ∧ IsDigits radix (unsigned body) ∧
          value radix (unsigned body) = address.toNat
  empty_iff : outcome = .error .empty ↔ body = []
  overflow_iff : outcome = .error .overflow ↔ Overflows radix (unsigned body)
  invalidDigit_iff :
    outcome = .error .invalidDigit ↔ Breaks radix (unsigned body)

theorem ofNat_eq_iff
    {number : Nat} (small : number < UInt64.size) (address : UInt64) :
    UInt64.ofNat number = address ↔ number = address.toNat := by
  rw [← UInt64.toNat_inj, UInt64.toNat_ofNat_of_lt' small]

theorem readNumber_reading
    {radix : Nat} (positive : 0 < radix) (body : List Char) :
    Reading (UInt64.ofNat <$> readNumber radix body) radix body := by
  by_cases empty : body = []
  · subst empty
    -- Without digits there is nothing that could overflow or break off.
    have nothing : ¬ Overflows radix [] :=
      not_overflows_of_value_lt positive (show 0 < UInt64.size by decide)
    exact ⟨by simp [readNumber, unsigned], by simp [readNumber],
      iff_of_false (by simp [readNumber]) nothing,
      iff_of_false (by simp [readNumber]) (not_breaks_of_isDigits nofun)⟩
  rw [readNumber_eq empty]
  have nonempty : unsigned body ≠ [] := mt unsigned_eq_nil_iff.mp empty
  rcases readDigits_cases radix (unsigned body)
    (show 0 < UInt64.size by decide) with
    ⟨digits, small, ok⟩ | ⟨overflow, overflows⟩ | ⟨invalid, breaks⟩
  · rw [ok]
    refine ⟨fun address => ?_, iff_of_false nofun empty,
      iff_of_false nofun (not_overflows_of_value_lt positive small),
      iff_of_false nofun (not_breaks_of_isDigits digits)⟩
    change Except.ok (UInt64.ofNat (value radix (unsigned body))) =
      .ok address ↔ _
    have below : value radix (unsigned body) < UInt64.size := small
    rw [Except.ok.injEq, ofNat_eq_iff below]
    exact ⟨fun equal => ⟨nonempty, digits, equal⟩, fun read => read.2.2⟩
  · rw [overflow]
    refine ⟨fun address => iff_of_false nofun ?_, iff_of_false nofun empty,
      iff_of_true rfl overflows,
        iff_of_false nofun (not_breaks_of_overflows positive overflows)⟩
    rintro ⟨-, -, value_eq⟩
    exact
      not_overflows_of_value_lt positive (value_eq ▸ address.toNat_lt) overflows
  · rw [invalid]
    exact ⟨fun address => iff_of_false nofun fun read =>
      not_breaks_of_isDigits read.2.1 breaks,
      iff_of_false nofun empty,
      iff_of_false nofun fun overflows =>
        not_breaks_of_overflows positive overflows breaks,
      iff_of_true rfl breaks⟩

/-- The numerals of an address: decimal, or hexadecimal behind `0x` or `0X`, in
either letter case and with any number of leading zeros. -/
inductive IsNumeralOf (address : UInt64) : List Char → Prop
  | decimal (format : Format) (radix : format.radix = 10) :
      IsNumeralOf address (format.chars address.toNat)
  | hexadecimal (format : Format) (radix : format.radix = 16) (mark : Char)
      (marks : mark = 'x' ∨ mark = 'X') :
      IsNumeralOf address ('0' :: mark :: format.chars address.toNat)

theorem unsigned_of_isDigits {radix : Nat} {characters : List Char}
    (digits : IsDigits radix characters) :
    unsigned characters = characters := by
  unfold unsigned
  split
  · have sign := digits '+' (by simp)
    simp [digitValue?] at sign
  · rfl

theorem readNumber_chars
    {format : Format} (large : 2 ≤ format.radix) (small : format.radix ≤ 16)
    (address : UInt64) :
    UInt64.ofNat <$> readNumber format.radix (format.chars address.toNat) =
      .ok address := by
  have digits := isDigits_chars large small address.toNat
  apply ((readNumber_reading (by omega) _).ok_iff address).mpr
  rw [unsigned_of_isDigits digits]
  exact ⟨Format.chars_ne_nil large _, digits, Format.value_chars large small _⟩

theorem IsNumeralOf.read {address : UInt64} {characters : List Char}
    (numeral : IsNumeralOf address characters) :
    UInt64.ofNat <$> readRadix characters = .ok address := by
  rw [readRadix_eq]
  cases numeral with
  | decimal format radix =>
      have body :
          radixAndBody (format.chars address.toNat) =
            (10, format.chars address.toNat) := by
        have digits : IsDigits 10 (format.chars address.toNat) :=
          radix ▸ isDigits_chars (by omega) (by omega) address.toNat
        unfold radixAndBody
        -- The mark of a hexadecimal number is no decimal digit.
        split
        · next rest equal =>
            have mark := digits 'x' (by simp [equal])
            exact absurd mark (by decide)
        · next rest equal =>
            have mark := digits 'X' (by simp [equal])
            exact absurd mark (by decide)
        · rfl
      rw [body, ← radix]
      exact readNumber_chars (by omega) (by omega) address
  | hexadecimal format radix mark marks =>
      have body :
          radixAndBody ('0' :: mark :: format.chars address.toNat) =
            (16, format.chars address.toNat) := by
        rcases marks with rfl | rfl <;> rfl
      rw [body, ← radix]
      exact readNumber_chars (by omega) (by omega) address

theorem IsNumeralOf.isBlank_eq_false {address : UInt64} {characters : List Char}
    (numeral : IsNumeralOf address characters) :
    ∀ character ∈ characters, Text.isBlank character = false := by
  intro character member
  apply Text.isBlank_eq_false_of_isAlphanum
  cases numeral with
  | decimal format radix =>
      exact
        Format.isAlphanum_of_mem_chars (by omega) (by omega) _ character member
  | hexadecimal format radix mark marks =>
      rcases List.mem_cons.mp member with rfl | later
      · decide
      rcases List.mem_cons.mp later with rfl | digit
      · rcases marks with rfl | rfl <;> decide
      · exact Format.isAlphanum_of_mem_chars (by omega)
          (by omega) _ character digit

/-! ## Texts -/

theorem parse_of_isTrimOf {text : String} {core : List Char}
    (trim : Text.IsTrimOf core text.toList) :
    parse text = UInt64.ofNat <$> readRadix (core.filter (· ≠ '_')) := by
  have kept :
      (fun character : Char => decide (character ≠ '_')) = fun character =>
        character != '_' := by
    funext character
    simp [bne, beq_eq_decide]
  rw [parse, significant, trim.trimBlanks_eq, kept]

theorem radix_pos (characters : List Char) :
    0 < (radixAndBody characters).1 := by
  unfold radixAndBody
  split <;> simp

/-- Between the blanks at its ends and without its underscores, a text is a
number behind a mark of its radix, and is read as this number or refused for a
fault in it. So the numerals of an address are read as that address, wherever
there are underscores in them and blanks around them. -/
theorem parse_grammar (text : String) :
    (∃ core, Text.IsTrimOf core text.toList) ∧
      (∀ core, Text.IsTrimOf core text.toList →
        Reading (parse text) (radixAndBody (core.filter (· ≠ '_'))).1
          (radixAndBody (core.filter (· ≠ '_'))).2) ∧
      ∀ (address : UInt64) (before core after : List Char),
        text.toList = before ++ core ++ after →
          (∀ character ∈ before, Text.isBlank character) →
          (∀ character ∈ after, Text.isBlank character) →
          IsNumeralOf address (core.filter (· ≠ '_')) →
          parse text = .ok address := by
  refine ⟨⟨_, Text.isTrimOf_trimBlanks text.toList⟩, ?_, ?_⟩
  · intro core trim
    rw [parse_of_isTrimOf trim, readRadix_eq]
    exact readNumber_reading (radix_pos _) _
  · intro address before core after equal beforeBlanks afterBlanks numeral
    have full : ∀ character ∈ core, Text.isBlank character = false := by
      intro character member
      by_cases underscore : character = '_'
      · rw [underscore]
        decide
      · exact numeral.isBlank_eq_false character
          (List.mem_filter.mpr ⟨member, by simpa⟩)
    have trim : Text.IsTrimOf core text.toList :=
      equal ▸ Text.isTrimOf_of_not_blank beforeBlanks afterBlanks full
    rw [parse_of_isTrimOf trim]
    exact numeral.read

-- The mark of the radix is found behind an underscore, and underscores are no
-- part of the number.
theorem parse_grammar_spaced_hexadecimal :
    "\t 0_X0_FF__\u2003\n".toList =
        ['\t', ' '] ++ ['0', '_', 'X', '0', '_', 'F', 'F', '_', '_'] ++
          ['\u2003', '\n'] ∧
      (∀ character ∈ ['\t', ' '], Text.isBlank character) ∧
      (∀ character ∈ ['\u2003', '\n'], Text.isBlank character) ∧
      IsNumeralOf 0xFF
        (['0', '_', 'X', '0', '_', 'F', 'F', '_', '_'].filter (· ≠ '_')) ∧
      parse "\t 0_X0_FF__\u2003\n" = .ok 0xFF := by
  have equal :
      "\t 0_X0_FF__\u2003\n".toList =
        ['\t', ' '] ++ ['0', '_', 'X', '0', '_', 'F', 'F', '_', '_'] ++
          ['\u2003', '\n'] := by
    decide
  have before : ∀ character ∈ ['\t', ' '], Text.isBlank character := by
    simp [Text.isBlank]
  have after : ∀ character ∈ ['\u2003', '\n'], Text.isBlank character := by
    simp [Text.isBlank]
  have numeral :
      IsNumeralOf 0xFF
        (['0', '_', 'X', '0', '_', 'F', 'F', '_', '_'].filter (· ≠ '_')) :=
    .hexadecimal (upperHex 3) rfl 'X' (.inr rfl)
  exact ⟨equal, before, after, numeral,
    (parse_grammar _).2.2 0xFF _ _ _ equal before after numeral⟩

example : parse "18446744073709551616x" = .error .overflow := by decide

end Address

end CsrCensus
