import CsrCensus.Proofs.Json.Number
import CsrCensus.Proofs.Json.Record
import CsrCensus.Proofs.Json.Value

/-!
# Everything can be written

Each string, each integer of 64 bits and each record of values that can be
written has a spelling.
-/

namespace CsrCensus.Json

theorem unitSpelled_control :
    ∀ unit < 32, UnitSpelled unit ((Numeral.lowerHex 4).chars unit) := by
  have checked :
      ∀ unit < 32,
        ((Numeral.lowerHex 4).chars unit).length = 4 ∧
          ((Numeral.lowerHex 4).chars unit).all fun digit =>
            digit ∈ "0123456789abcdefABCDEF".toList := by decide
  intro unit small
  obtain ⟨length_eq, hexadecimal⟩ := checked unit small
  have value_eq : Numeral.value 16 ((Numeral.lowerHex 4).chars unit) = unit :=
    (Numeral.lowerHex 4).value_chars (by decide) (by decide) unit
  exact ⟨length_eq, forall_mem_of_all hexadecimal, value_eq⟩

theorem exists_charSpelled (character : Char) :
    ∃ text, CharSpelled character text := by
  by_cases visible : ' ' ≤ character
  · by_cases isQuote : character = '"'
    · subst isQuote
      exact ⟨_, .escaped List.mem_cons_self⟩
    · by_cases isBackslash : character = '\\'
      · subst isBackslash
        exact ⟨_, .escaped (List.mem_cons_of_mem _ List.mem_cons_self)⟩
      · exact ⟨_, .raw visible isQuote isBackslash⟩
  · have control : character.toNat < 32 := Char.not_le.mp visible
    exact ⟨_, .unit (unitSpelled_control character.toNat control)⟩

theorem exists_textSpelled (content : String) :
    ∃ text, TextSpelled content text := by
  have spelled : ∀ characters, ∃ inner, CharsSpelled characters inner := by
    intro characters
    induction characters with
    | nil => exact ⟨[], .nil⟩
    | cons first rest inductionHypothesis =>
        obtain ⟨text, isFirst⟩ := exists_charSpelled first
        obtain ⟨inner, isRest⟩ := inductionHypothesis
        exact ⟨text ++ inner, .cons isFirst isRest⟩
  obtain ⟨inner, isInner⟩ := spelled content.toList
  exact ⟨_, .quoted isInner⟩

theorem decimal_chars_eq (number : Nat) :
    Numeral.decimal.chars number =
      (Numeral.digits 10 number).map (Numeral.digitChar .lower) := by
  obtain ⟨first, rest, equal, -⟩ :=
    Numeral.digits_eq_cons (by decide : 2 ≤ 10) number
  simp [Numeral.Format.chars, Numeral.decimal, equal, List.leftpad]

theorem isWhole_decimal_chars (number : Nat) :
    IsWhole (Numeral.decimal.chars number) := by
  obtain ⟨first, rest, equal, leading⟩ :=
    Numeral.digits_eq_cons (by decide : 2 ≤ 10) number
  have decimal :
      ∀ digit < 10, Numeral.digitChar .lower digit ∈ "0123456789".toList := by
    decide
  have zero :
      ∀ digit < 10, Numeral.digitChar .lower digit = '0' → digit = 0 := by
    decide
  have small := Numeral.digits_lt (by decide : 0 < 10) number
  rw [decimal_chars_eq]
  refine ⟨⟨by simp [equal], ?_⟩, ?_⟩
  · intro character inside
    obtain ⟨digit, isDigit, rfl⟩ := List.mem_map.mp inside
    exact decimal digit (small digit isDigit)
  · intro startsWithZero
    rw [equal] at startsWithZero small
    have isZero :=
      zero first (small first List.mem_cons_self)
        (Option.some.inj startsWithZero)
    rw [leading isZero]
    rfl

theorem integerSpelled_decimal (value : UInt64) :
    IntegerSpelled value (Numeral.decimal.chars value.toNat) := by
  have value_eq :
      Numeral.value 10 (Numeral.decimal.chars value.toNat) = value.toNat :=
    Numeral.decimal.value_chars (by decide) (by decide) value.toNat
  exact ⟨isWhole_decimal_chars value.toNat, value_eq⟩

/-- What is written for the entries of a record. -/
theorem exists_recordSpelled
    {record : Type} {names : List String} {entries : List (Entry record)}
    (spelled : ∀ entry ∈ entries, ∃ value, entry.IsSpelled value) :
    ∃ text, RecordSpelled names entries text := by
  have member :
      ∀ entry ∈ entries, ∃ text, MemberSpelled names [entry] text := by
    intro entry isEntry
    obtain ⟨key, isKey⟩ := exists_textSpelled entry.name
    obtain ⟨value, isValue⟩ := spelled entry isEntry
    exact ⟨_, .known isKey Blank.nil Blank.nil isValue⟩
  have members :
      ∀ later : List (Entry record), (∀ entry ∈ later, entry ∈ entries) →
        ∃ text, MembersSpelled names later text := by
    intro later
    induction later with
    | nil => exact fun _ => ⟨[], .done Blank.nil⟩
    | cons entry later inductionHypothesis =>
        intro areEntries
        obtain ⟨isEntry, areLater⟩ := List.forall_mem_cons.mp areEntries
        obtain ⟨first, isFirst⟩ := member entry isEntry
        obtain ⟨rest, isRest⟩ := inductionHypothesis areLater
        exact ⟨_, .more Blank.nil Blank.nil isFirst isRest⟩
  cases entries with
  | nil => exact ⟨_, .emptyObject Blank.nil⟩
  | cons entry later =>
      obtain ⟨first, isFirst⟩ := member entry List.mem_cons_self
      obtain ⟨rest, isRest⟩ :=
        members later fun other inside => List.mem_cons_of_mem entry inside
      exact ⟨_, .object Blank.nil isFirst isRest (.refl _)⟩

end CsrCensus.Json
