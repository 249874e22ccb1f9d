import CsrCensus.Text.Numeral

/-!
# Reading numerals back

The value of a numeral is read off its characters digit by digit. For a radix
from two to sixteen the numeral of a number has that number as its value, so no
two numbers share a numeral.
-/

namespace CsrCensus.Numeral

/-- The number that some digits stand for, the most significant first. -/
def value (radix : Nat) (characters : List Char) : Nat :=
  characters.foldl
    (fun number character =>
      number * radix + (digitValue? radix character).getD 0) 0

private theorem digitsBefore_lt {radix : Nat} (positive : 0 < radix) :
    ∀ (bound number : Nat) (lower : List Nat),
      (∀ digit ∈ lower, digit < radix) →
        ∀ digit ∈ digitsBefore radix bound number lower, digit < radix
  | 0, _, lower, small => small
  | bound + 1, number, lower, small => by
      unfold digitsBefore
      split
      · next single => exact List.forall_mem_cons.mpr ⟨single, small⟩
      · exact digitsBefore_lt positive bound _ _ <|
          List.forall_mem_cons.mpr ⟨Nat.mod_lt _ positive, small⟩

theorem digits_lt {radix : Nat} (positive : 0 < radix) (number : Nat) :
    ∀ digit ∈ digits radix number, digit < radix :=
  digitsBefore_lt positive _ _ _ (by simp)

private theorem foldl_digitsBefore {radix : Nat} (large : 2 ≤ radix) :
    ∀ (bound number : Nat) (lower : List Nat), number < bound →
      (digitsBefore radix bound number lower).foldl
          (fun number digit => number * radix + digit) 0 =
        lower.foldl (fun number digit => number * radix + digit) number
  | bound + 1, number, lower, bounded => by
      unfold digitsBefore
      split
      · simp
      · next several =>
          have smaller : number / radix < bound := by
            have :=
              Nat.div_lt_self (by omega : 0 < number) (by omega : 1 < radix)
            omega
          rw [foldl_digitsBefore large bound _ _ smaller, List.foldl_cons,
            Nat.div_add_mod']

theorem foldl_digits {radix : Nat} (large : 2 ≤ radix) (number : Nat) :
    (digits radix number).foldl (fun number digit => number * radix + digit) 0 =
      number :=
  foldl_digitsBefore large _ _ _ (Nat.lt_succ_self number)

private theorem digitsBefore_eq_cons {radix : Nat} (large : 2 ≤ radix) :
    ∀ (bound number : Nat) (lower : List Nat), number < bound →
      ∃ first rest,
        digitsBefore radix bound number lower = first :: rest ∧
          (first = 0 → number = 0)
  | bound + 1, number, lower, bounded => by
      unfold digitsBefore
      split
      · exact ⟨number, lower, rfl, id⟩
      · next several =>
          have smaller : number / radix < bound := by
            have :=
              Nat.div_lt_self (by omega : 0 < number) (by omega : 1 < radix)
            omega
          obtain ⟨first, rest, equal, leading⟩ :=
            digitsBefore_eq_cons large bound (number / radix)
              (number % radix :: lower) smaller
          refine ⟨first, rest, equal, fun zero => ?_⟩
          have positive :=
            Nat.div_pos (Nat.not_lt.mp several) (by omega : 0 < radix)
          have := leading zero
          omega

/-- Only zero has a leading zero. -/
theorem digits_eq_cons {radix : Nat} (large : 2 ≤ radix) (number : Nat) :
    ∃ first rest,
      digits radix number = first :: rest ∧ (first = 0 → number = 0) :=
  digitsBefore_eq_cons large _ _ _ (Nat.lt_succ_self number)

private theorem digitValue?_digitChar_sixteen :
    ∀ letters digit,
      digit < 16 → digitValue? 16 (digitChar letters digit) = some digit := by
  intro letters
  cases letters <;> decide

theorem digitValue?_digitChar
    {radix digit : Nat} (letters : LetterCase) (small : radix ≤ 16)
    (lower : digit < radix) :
    digitValue? radix (digitChar letters digit) = some digit := by
  have sixteen := digitValue?_digitChar_sixteen letters digit (by omega)
  unfold digitValue? at sixteen ⊢
  obtain ⟨found, _⟩ := Option.filter_eq_some_iff.mp sixteen
  exact Option.filter_eq_some_iff.mpr ⟨found, by simpa using lower⟩

theorem digitChar_isAlphanum
    {digit : Nat} (letters : LetterCase) (small : digit < 16) :
    (digitChar letters digit).isAlphanum := by
  have all : ∀ digit, digit < 16 → (digitChar letters digit).isAlphanum := by
    cases letters <;> decide
  exact all digit small

theorem digitChar_isDigit
    {digit : Nat} (letters : LetterCase) (small : digit < 10) :
    (digitChar letters digit).isDigit := by
  have all : ∀ digit, digit < 10 → (digitChar letters digit).isDigit := by
    cases letters <;> decide
  exact all digit small

/-! ## Numerals -/

namespace Format

variable {format : Format}

/-- The characters of a numeral are zeros and digits. -/
theorem chars_eq (format : Format) (number : Nat) :
    ∃ zeros,
      format.chars number =
        List.replicate zeros '0' ++
          (digits format.radix number).map (digitChar format.letters) :=
  ⟨_, rfl⟩

theorem isAlphanum_of_mem_chars
    (positive : 0 < format.radix) (small : format.radix ≤ 16) (number : Nat) :
    ∀ character ∈ format.chars number, character.isAlphanum := by
  intro character member
  obtain ⟨zeros, equal⟩ := format.chars_eq number
  rw [equal, List.mem_append] at member
  rcases member with zero | significant
  · rw [List.eq_of_mem_replicate zero]
    rfl
  · obtain ⟨digit, inside, rfl⟩ := List.mem_map.mp significant
    have := digits_lt positive number digit inside
    exact digitChar_isAlphanum _ (by omega)

theorem isDigit_of_mem_chars
    (positive : 0 < format.radix) (small : format.radix ≤ 10) (number : Nat) :
    ∀ character ∈ format.chars number, character.isDigit := by
  intro character member
  obtain ⟨zeros, equal⟩ := format.chars_eq number
  rw [equal, List.mem_append] at member
  rcases member with zero | significant
  · rw [List.eq_of_mem_replicate zero]
    rfl
  · obtain ⟨digit, inside, rfl⟩ := List.mem_map.mp significant
    have := digits_lt positive number digit inside
    exact digitChar_isDigit _ (by omega)

theorem chars_ne_nil (large : 2 ≤ format.radix) (number : Nat) :
    format.chars number ≠ [] := by
  obtain ⟨zeros, equal⟩ := format.chars_eq number
  obtain ⟨first, rest, digits, -⟩ := digits_eq_cons large number
  rw [equal, digits]
  simp

/-- A numeral has the value of its number. -/
theorem value_chars
    (large : 2 ≤ format.radix) (small : format.radix ≤ 16) (number : Nat) :
    value format.radix (format.chars number) = number := by
  obtain ⟨zeros, equal⟩ := format.chars_eq number
  have zero : digitValue? format.radix '0' = some 0 :=
    digitValue?_digitChar .lower small (show 0 < format.radix by omega)
  have leading :
      ∀ count,
        (List.replicate count '0').foldl
          (fun number character =>
            number * format.radix + (digitValue? format.radix character).getD 0)
              0 = 0 := by
    intro count
    induction count with
    | zero => rfl
    | succ count inductionHypothesis =>
        simpa [List.replicate_succ, zero] using inductionHypothesis
  have significant :
      ∀ (values : List Nat) (initial : Nat),
        (∀ digit ∈ values, digit < format.radix) →
        (values.map (digitChar format.letters)).foldl
            (fun number character =>
              number * format.radix +
                (digitValue? format.radix character).getD 0) initial =
          values.foldl
            (fun number digit => number * format.radix + digit) initial := by
    intro values
    induction values with
    | nil => simp
    | cons digit rest inductionHypothesis =>
        intro initial lower
        obtain ⟨first, later⟩ := List.forall_mem_cons.mp lower
        simp [digitValue?_digitChar format.letters small first,
          inductionHypothesis _ later]
  unfold value
  rw [equal, List.foldl_append, leading,
    significant _ _ (digits_lt (by omega) number), foldl_digits large]

theorem text_injective (large : 2 ≤ format.radix) (small : format.radix ≤ 16) :
    Function.Injective format.text := by
  intro left right equal
  have chars : format.chars left = format.chars right :=
    String.ofList_injective equal
  rw [← value_chars large small left, chars, value_chars large small right]

end Format

end CsrCensus.Numeral
