import CsrCensus.Proofs.Text.Numeral
import CsrCensus.Text.Utf8
import Mathlib.Data.String.Basic

/-!
# The bytes of ASCII texts

The bytes of an ASCII text are its characters, so there are as many of them, and
ASCII texts are ordered as their bytes.
-/

namespace CsrCensus.Text

/-- A text all characters of which are one byte in UTF-8. -/
def IsAscii (text : String) : Prop :=
  ∀ character ∈ text.toList, character.toNat < 0x80

instance (text : String) : Decidable (IsAscii text) :=
  List.decidableBAll _ text.toList

theorem isAscii_append {left right : String} :
    IsAscii (left ++ right) ↔ IsAscii left ∧ IsAscii right := by
  simp only [IsAscii, String.toList_append, List.forall_mem_append]

theorem toNat_of_isAlphanum
    {character : Char} (alphanumeric : character.isAlphanum) :
    48 ≤ character.toNat ∧ character.toNat ≤ 122 := by
  have ranges :
      ((65 ≤ character.toNat ∧ character.toNat ≤ 90) ∨
          (97 ≤ character.toNat ∧ character.toNat ≤ 122)) ∨
        (48 ≤ character.toNat ∧ character.toNat ≤ 57) := by
    rcases Bool.or_eq_true_iff.mp alphanumeric with letter | digit
    · rcases Bool.or_eq_true_iff.mp letter with upper | lower
      · exact .inl (.inl (of_decide_eq_true upper))
      · obtain ⟨least, most⟩ := Bool.and_eq_true_iff.mp lower
        exact .inl (.inr ⟨of_decide_eq_true least, of_decide_eq_true most⟩)
    · obtain ⟨least, most⟩ := Bool.and_eq_true_iff.mp digit
      exact .inr ⟨of_decide_eq_true least, of_decide_eq_true most⟩
  omega

theorem isAscii_numeral
    {format : Numeral.Format} (positive : 0 < format.radix)
    (small : format.radix ≤ 16) (number : Nat) :
    IsAscii (format.text number) := by
  intro character member
  rw [Numeral.Format.text, String.toList_ofList] at member
  have alphanumeric :=
    Numeral.Format.isAlphanum_of_mem_chars positive small number
      character member
  have point := toNat_of_isAlphanum alphanumeric
  omega

theorem toUtf8_eq_flatMap (text : String) :
    toUtf8 text = text.toList.flatMap String.utf8EncodeChar := by
  rw [toUtf8, String.toUTF8, ← String.utf8Encode_toList, List.utf8Encode,
    List.toList_data_toByteArray]

theorem utf8EncodeChar_of_lt
    {character : Char} (ascii : character.toNat < 0x80) :
    String.utf8EncodeChar character = [UInt8.ofNat character.toNat] := by
  have single : character.utf8Size = 1 :=
    Char.utf8Size_eq_one_iff.mpr
      (UInt32.le_iff_toNat_le.mpr (Nat.le_of_lt_succ ascii))
  rw [String.utf8EncodeChar_eq_singleton single]
  rfl

theorem toUtf8_of_isAscii {text : String} (ascii : IsAscii text) :
    toUtf8 text = text.toList.map fun character =>
      UInt8.ofNat character.toNat := by
  rw [toUtf8_eq_flatMap, List.map_eq_flatMap]
  exact List.flatMap_congr fun character member =>
    utf8EncodeChar_of_lt (ascii character member)

theorem length_toUtf8 {text : String} (ascii : IsAscii text) :
    (toUtf8 text).length = text.length := by
  rw [toUtf8_of_isAscii ascii, List.length_map, String.length_toList]

/-- The first characters are the first bytes. -/
theorem toUtf8_take {text : String} (ascii : IsAscii text) (count : Nat) :
    toUtf8 (String.ofList (text.toList.take count)) =
      (toUtf8 text).take count := by
  have beginning : IsAscii (String.ofList (text.toList.take count)) := by
    intro character member
    rw [String.toList_ofList] at member
    exact ascii character (List.mem_of_mem_take member)
  rw [toUtf8_of_isAscii ascii, toUtf8_of_isAscii beginning,
    String.toList_ofList, List.map_take]

theorem map_lt_map_of_ascii
    {left right : List Char}
    (leftAscii : ∀ character ∈ left, character.toNat < 0x80)
    (rightAscii : ∀ character ∈ right, character.toNat < 0x80)
    (less : left < right) :
    (left.map fun character => UInt8.ofNat character.toNat) <
      right.map fun character => UInt8.ofNat character.toNat := by
  induction left generalizing right with
  | nil =>
      cases right with
      | nil => exact absurd less (List.lt_irrefl [])
      | cons => exact List.nil_lt_cons _ _
  | cons first rest inductionHypothesis =>
      cases right with
      | nil => exact absurd less (List.not_lt_nil _)
      | cons other others =>
          obtain ⟨firstAscii, restAscii⟩ := List.forall_mem_cons.mp leftAscii
          obtain ⟨otherAscii, othersAscii⟩ := List.forall_mem_cons.mp rightAscii
          rw [List.map_cons, List.map_cons, List.cons_lt_cons_iff]
          rcases List.cons_lt_cons_iff.mp less with before | ⟨rfl, behind⟩
          · left
            rw [UInt8.lt_iff_toNat_lt,
              UInt8.toNat_ofNat_of_lt' (firstAscii.trans (by decide)),
              UInt8.toNat_ofNat_of_lt' (otherAscii.trans (by decide))]
            exact before
          · exact .inr ⟨rfl, inductionHypothesis restAscii othersAscii behind⟩

theorem toUtf8_lt_toUtf8 {left right : String} (leftAscii : IsAscii left)
    (rightAscii : IsAscii right) (less : left < right) :
    toUtf8 left < toUtf8 right := by
  rw [toUtf8_of_isAscii leftAscii, toUtf8_of_isAscii rightAscii]
  exact
    map_lt_map_of_ascii leftAscii rightAscii (String.lt_iff_toList_lt.mp less)

end CsrCensus.Text
