import CsrCensus.Proofs.Text.Ascii
import CsrCensus.Text.Character
import Mathlib.Data.List.DropRight

/-!
# Texts without blanks at their ends

Some characters are a part that neither begins nor ends with a blank, between
blanks. This part is what is left when the blanks at both ends are removed.
-/

namespace CsrCensus.Text

theorem isBlank_eq_false_of_isAlphanum
    {character : Char} (alphanumeric : character.isAlphanum) :
    isBlank character = false := by
  have point := toNat_of_isAlphanum alphanumeric
  simp only [isBlank, Bool.or_eq_false_iff, Bool.and_eq_false_iff,
    decide_eq_false_iff_not, beq_eq_false_iff_ne]
  omega

/-- What some characters are between the blanks at their ends. -/
structure IsTrimOf (core characters : List Char) : Prop where
  between :
    ∃ before after,
      characters = before ++ core ++ after ∧
        (∀ character ∈ before, isBlank character) ∧
        ∀ character ∈ after, isBlank character
  first : ∀ character ∈ core.head?, isBlank character = false
  last : ∀ character ∈ core.getLast?, isBlank character = false

private theorem dropWhile_blanks
    {before core : List Char} (blanks : ∀ character ∈ before, isBlank character)
    (first : ∀ character ∈ core.head?, isBlank character = false) :
    (before ++ core).dropWhile isBlank = core := by
  rw [List.dropWhile_append_of_pos blanks]
  cases core with
  | nil => rfl
  | cons character rest =>
      exact List.dropWhile_cons_of_neg (by simpa using first character rfl)

/-- Blanks can be removed at both ends in one way only. -/
theorem IsTrimOf.trimBlanks_eq
    {core characters : List Char} (trim : IsTrimOf core characters) :
    trimBlanks characters = core := by
  obtain ⟨before, after, rfl, beforeBlanks, afterBlanks⟩ := trim.between
  unfold trimBlanks
  cases core with
  | nil =>
      -- All is blank, and gone after the first pass.
      have blanks : ∀ character ∈ before ++ [] ++ after, isBlank character := by
        rw [List.append_nil, List.forall_mem_append]
        exact ⟨beforeBlanks, afterBlanks⟩
      rw [List.dropWhile_eq_nil_iff.mpr blanks]
      rfl
  | cons character rest =>
      have front :
          (before ++ (character :: rest) ++ after).dropWhile isBlank =
            character :: rest ++ after := by
        rw [List.append_assoc]
        exact dropWhile_blanks beforeBlanks trim.first
      have back :
          (character :: rest ++ after).reverse.dropWhile isBlank =
            (character :: rest).reverse := by
        rw [List.reverse_append]
        refine dropWhile_blanks (by simpa using afterBlanks) ?_
        rw [List.head?_reverse]
        exact trim.last
      rw [front, back, List.reverse_reverse]

theorem isTrimOf_of_not_blank
    {before core after : List Char}
    (beforeBlanks : ∀ character ∈ before, isBlank character)
    (afterBlanks : ∀ character ∈ after, isBlank character)
    (full : ∀ character ∈ core, isBlank character = false) :
    IsTrimOf core (before ++ core ++ after) where
  between := ⟨before, after, rfl, beforeBlanks, afterBlanks⟩
  first := fun _ found => full _ (List.mem_of_head? found)
  last := fun _ found => full _ (List.mem_of_getLast? found)

theorem isTrimOf_trimBlanks (characters : List Char) :
    IsTrimOf (trimBlanks characters) characters := by
  let front := characters.dropWhile isBlank
  have core_eq : trimBlanks characters = front.rdropWhile isBlank := rfl
  obtain ⟨rest, front_eq⟩ : trimBlanks characters <+: front :=
    List.rdropWhile_prefix isBlank front
  refine ⟨⟨characters.takeWhile isBlank, front.rtakeWhile isBlank, ?_, ?_, ?_⟩,
    ?_, ?_⟩
  · rw [core_eq, List.append_assoc, List.rdropWhile_append_rtakeWhile]
    exact List.takeWhile_append_dropWhile.symm
  · exact fun _ member => List.mem_takeWhile_imp member
  · exact fun _ member => List.mem_rtakeWhile_imp member
  · intro character found
    have head : front.head? = some character := by
      rw [← front_eq, List.head?_append, Option.mem_def.mp found,
        Option.some_or]
    have stopped := List.head?_dropWhile_not isBlank characters
    rw [head] at stopped
    exact stopped
  · intro character found
    obtain ⟨nonempty, rfl⟩ := List.mem_getLast?_eq_getLast found
    exact
      Bool.eq_false_iff.mpr (List.rdropWhile_last_not isBlank front nonempty)

end CsrCensus.Text
