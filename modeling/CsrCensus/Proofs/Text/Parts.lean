import CsrCensus.Proofs.Text.Separated
import CsrCensus.Text.Character

/-!
# Cutting a text into its parts

A text is read by cutting it at its separators: a document at its line feeds, a
line at its tabs. Cutting gives back what was put together.
-/

namespace CsrCensus.Text

theorem split_ne_nil (separator : Char) (characters : List Char) :
    split separator characters ≠ [] := by
  cases characters with
  | nil => simp [split]
  | cons first rest =>
      unfold split
      split
      · simp
      · split <;> simp

theorem split_of_not_mem {separator : Char} :
    ∀ {characters : List Char},
      separator ∉ characters → split separator characters = [characters]
  | [], _ => rfl
  | first :: rest, absent => by
      obtain ⟨different, restAbsent⟩ := not_or.mp (mt List.mem_cons.mpr absent)
      rw [split, if_neg (Ne.symm different), split_of_not_mem restAbsent]

/-- A separator cuts a text in two. -/
theorem split_append_cons (separator : Char) (right : List Char) :
    ∀ left : List Char,
      split separator (left ++ separator :: right) =
        split separator left ++ split separator right
  | [] => by simp [split]
  | first :: rest => by
      have later := split_append_cons separator right rest
      rw [List.cons_append, split, split]
      split
      · rw [later, List.cons_append]
      · rw [later]
        cases found : split separator rest with
        | nil => exact absurd found (split_ne_nil separator rest)
        | cons part parts => rfl

/-- The lines of a text, each of which ends with a line feed. -/
def linesOf (text : String) : List String :=
  (split '\n' text.toList).dropLast.map String.ofList

theorem linesOf_append_feed
    {line : String} (single : IsLine line) (rest : String) :
    linesOf (line ++ "\n" ++ rest) = line :: linesOf rest := by
  have characters :
      (line ++ "\n" ++ rest).toList = line.toList ++ '\n' :: rest.toList := by
    simp
  unfold linesOf
  rw [characters, split_append_cons, split_of_not_mem single,
    List.singleton_append,
    List.dropLast_cons_of_ne_nil (split_ne_nil '\n' rest.toList), List.map_cons,
    String.ofList_toList]

/-- Lines are read back from their text. -/
theorem linesOf_join :
    ∀ {lines : List String}, (∀ line ∈ lines, IsLine line) →
      linesOf (String.join (lines.map fun line => line ++ "\n")) = lines
  | [], _ => rfl
  | first :: rest, all => by
      obtain ⟨firstLine, restLines⟩ := List.forall_mem_cons.mp all
      rw [List.map_cons, String.join_cons, linesOf_append_feed firstLine,
        linesOf_join restLines]

/-- The cells of a line, between its tabs. -/
def cellsOf (line : String) : List String :=
  (split '\t' line.toList).map String.ofList

/-- Cells are read back from their row. -/
theorem cellsOf_cells :
    ∀ {texts : List String}, texts ≠ [] → (∀ cell ∈ texts, IsCell cell) →
      cellsOf (Report.cells texts) = texts
  | [], nonempty, _ => absurd rfl nonempty
  | [single], _, all => by
      have cell := (List.forall_mem_cons.mp all).1
      have row : Report.cells [single] = single := by simp [Report.cells]
      rw [row, cellsOf, split_of_not_mem fun tab => (cell _ tab).1 rfl,
        List.map_singleton, String.ofList_toList]
  | first :: second :: others, _, all => by
      obtain ⟨firstCell, restCells⟩ := List.forall_mem_cons.mp all
      have characters :
          (Report.cells (first :: second :: others)).toList =
            first.toList ++
              '\t' :: (Report.cells (second :: others)).toList := by
        simp [Report.cells]
      have later := cellsOf_cells (List.cons_ne_nil second others) restCells
      unfold cellsOf at later ⊢
      rw [characters, split_append_cons,
        split_of_not_mem fun tab => (firstCell _ tab).1 rfl,
        List.singleton_append, List.map_cons, later, String.ofList_toList]

/-- Whether a text begins with another. -/
def beginsWith (start text : String) : Bool :=
  start.toList.isPrefixOf text.toList

theorem beginsWith_iff {start text : String} :
    beginsWith start text = true ↔ ∃ rest, text = start ++ rest := by
  rw [beginsWith, List.isPrefixOf_iff_prefix]
  constructor
  · rintro ⟨rest, characters⟩
    refine ⟨String.ofList rest, String.toList_inj.mp ?_⟩
    rw [String.toList_append, String.toList_ofList, characters]
  · rintro ⟨rest, rfl⟩
    exact ⟨rest.toList, String.toList_append.symm⟩

theorem beginsWith_append
    {start left : String} (begins : beginsWith start left = true)
    (right : String) :
    beginsWith start (left ++ right) = true := by
  obtain ⟨rest, rfl⟩ := beginsWith_iff.mp begins
  exact beginsWith_iff.mpr ⟨rest ++ right, String.append_assoc⟩

theorem head?_of_beginsWith
    {start text : String} {first : Char} (begins : beginsWith start text = true)
    (head : start.toList.head? = some first) :
    text.toList.head? = some first := by
  obtain ⟨rest, rfl⟩ := beginsWith_iff.mp begins
  rw [String.toList_append, List.head?_append, head, Option.some_or]

theorem filter_beginsWith_eq_nil
    {start : String} {first : Char} {lines : List String}
    (heads : List (Option Char)) (head : start.toList.head? = some first)
    (heads_of_mem : ∀ line ∈ lines, line.toList.head? ∈ heads)
    (foreign : some first ∉ heads) :
    lines.filter (beginsWith start) = [] := by
  rw [List.filter_eq_nil_iff]
  intro line member begins
  have other := heads_of_mem line member
  rw [head?_of_beginsWith begins head] at other
  exact foreign other

/-- The first word of a text, up to a space. -/
def firstWord (text : String) : String :=
  String.ofList ((split ' ' text.toList).headD [])

theorem firstWord_of_not_mem {word : String} (single : ' ' ∉ word.toList) :
    firstWord word = word := by
  rw [firstWord, split_of_not_mem single, List.headD_cons, String.ofList_toList]

theorem firstWord_append_space
    {word : String} (single : ' ' ∉ word.toList) (rest : String) :
    firstWord (word ++ " " ++ rest) = word := by
  have characters :
      (word ++ " " ++ rest).toList = word.toList ++ ' ' :: rest.toList := by
    simp
  rw [firstWord, characters, split_append_cons, split_of_not_mem single,
    List.singleton_append, List.headD_cons, String.ofList_toList]

/-- The words of a text, between its spaces. -/
def wordsOf (text : String) : List String :=
  (split ' ' text.toList).map String.ofList

theorem wordsOf_of_not_mem {word : String} (single : ' ' ∉ word.toList) :
    wordsOf word = [word] := by
  rw [wordsOf, split_of_not_mem single, List.map_singleton,
    String.ofList_toList]

theorem wordsOf_append_space
    {word : String} (single : ' ' ∉ word.toList) (rest : String) :
    wordsOf (word ++ " " ++ rest) = word :: wordsOf rest := by
  have characters :
      (word ++ " " ++ rest).toList = word.toList ++ ' ' :: rest.toList := by
    simp
  unfold wordsOf
  rw [characters, split_append_cons, split_of_not_mem single,
    List.singleton_append, List.map_cons, String.ofList_toList]

/-- The number that some decimal digits stand for. -/
def numberOf (text : String) : Nat :=
  Numeral.value 10 text.toList

@[simp]
theorem numberOf_decimal (number : Nat) :
    numberOf (Numeral.decimal.text number) = number := by
  rw [numberOf, Numeral.Format.text, String.toList_ofList]
  change Numeral.value Numeral.decimal.radix (Numeral.decimal.chars number) =
    number
  exact Numeral.Format.value_chars (by decide) (by decide) number

/-- The numbers among the words of a text. -/
def numbersOf (text : String) : List Nat :=
  ((split ' ' text.toList).filter fun word =>
    !word.isEmpty && word.all Char.isDigit).map
    (Numeral.value 10)

theorem numbersOf_append_space (left right : String) :
    numbersOf (left ++ " " ++ right) = numbersOf left ++ numbersOf right := by
  have characters :
      (left ++ " " ++ right).toList = left.toList ++ ' ' :: right.toList := by
    simp
  unfold numbersOf
  rw [characters, split_append_cons, List.filter_append, List.map_append]

@[simp]
theorem numbersOf_decimal (number : Nat) :
    numbersOf (Numeral.decimal.text number) = [number] := by
  have single : ' ' ∉ (Numeral.decimal.text number).toList :=
    not_mem_numeral (by decide) (by decide) (by decide) number
  have read := numberOf_decimal number
  rw [numbersOf, split_of_not_mem single]
  rw [numberOf] at read
  rw [Numeral.Format.text, String.toList_ofList] at read ⊢
  have digits : (Numeral.decimal.chars number).all Char.isDigit := by
    rw [List.all_eq_true]
    exact Numeral.Format.isDigit_of_mem_chars (by decide) (by decide) number
  have nonempty : (Numeral.decimal.chars number).isEmpty = false := by
    rw [List.isEmpty_eq_false_iff]
    exact Numeral.Format.chars_ne_nil (by decide) number
  rw [List.filter_cons_of_pos (by rw [nonempty, digits]; rfl), List.filter_nil,
    List.map_singleton, read]

end CsrCensus.Text
