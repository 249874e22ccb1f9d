import CsrCensus.Proofs.Text.Numeral
import CsrCensus.Report.Text

/-!
# Separated texts

Lines are ended by line feeds and cells are separated by tabs. A text that is
put together from lines without line feeds, or from cells without tabs, comes
apart in one way only.
-/

namespace CsrCensus.Text

/-- A list is cut in one way only at the first of its separators. -/
theorem eq_of_append_cons_eq {element : Type} {separator : element} :
    ∀ {left right leftRest rightRest : List element},
      separator ∉ left → separator ∉ right →
        left ++ separator :: leftRest = right ++ separator :: rightRest →
          left = right ∧ leftRest = rightRest
  | [], [], _, _, _, _, equal => by
      exact ⟨rfl, (List.cons.inj equal).2⟩
  | [], head :: tail, _, _, _, absent, equal => by
      exact absurd (List.mem_cons.mpr (.inl (List.cons.inj equal).1)) absent
  | head :: tail, [], _, _, absent, _, equal => by
      exact
        absurd (List.mem_cons.mpr (.inl (List.cons.inj equal).1.symm)) absent
  | head :: tail, other :: rest, _, _, leftAbsent, rightAbsent, equal => by
      obtain ⟨same, tails⟩ := List.cons.inj equal
      have cut :=
        eq_of_append_cons_eq
          (fun member => leftAbsent (List.mem_cons_of_mem _ member))
          (fun member => rightAbsent (List.mem_cons_of_mem _ member)) tails
      exact ⟨by rw [same, cut.1], cut.2⟩

/-- A text that may stand in a cell: it has no tab and no line feed. -/
def IsCell (text : String) : Prop :=
  ∀ character ∈ text.toList, character ≠ '\t' ∧ character ≠ '\n'

instance (text : String) : Decidable (IsCell text) :=
  List.decidableBAll _ text.toList

theorem isCell_append {left right : String} :
    IsCell (left ++ right) ↔ IsCell left ∧ IsCell right := by
  simp only [IsCell, String.toList_append, List.forall_mem_append]

theorem isCell_ofList_of_isAlphanum
    {characters : List Char}
    (all : ∀ character ∈ characters, character.isAlphanum) :
    IsCell (String.ofList characters) := by
  intro character member
  have alphanumeric := all character (by simpa using member)
  constructor
  · rintro rfl
    exact absurd alphanumeric (by decide)
  · rintro rfl
    exact absurd alphanumeric (by decide)

theorem isCell_numeral
    {format : Numeral.Format} (positive : 0 < format.radix)
    (small : format.radix ≤ 16) (number : Nat) :
    IsCell (format.text number) :=
  isCell_ofList_of_isAlphanum
    (Numeral.Format.isAlphanum_of_mem_chars positive small number)

theorem not_mem_numeral
    {format : Numeral.Format} (positive : 0 < format.radix)
    (small : format.radix ≤ 16) {separator : Char}
    (foreign : separator.isAlphanum = false) (number : Nat) :
    separator ∉ (format.text number).toList := by
  intro member
  have alphanumeric :=
    Numeral.Format.isAlphanum_of_mem_chars positive small number separator
      (by simpa [Numeral.Format.text] using member)
  simp [foreign] at alphanumeric

/-- A numeral can be read off the text in front of which it stands. -/
theorem numeral_eq_of_append
    {format : Numeral.Format} (large : 2 ≤ format.radix)
    (small : format.radix ≤ 16) {separator : Char}
    (foreign : separator.isAlphanum = false) {left right : Nat}
    {leftRest rightRest : List Char}
    (equal : (format.text left).toList ++ separator :: leftRest =
      (format.text right).toList ++ separator :: rightRest) :
    left = right ∧ leftRest = rightRest := by
  obtain ⟨numerals, rests⟩ :=
    eq_of_append_cons_eq (not_mem_numeral (by omega) small foreign left)
      (not_mem_numeral (by omega) small foreign right) equal
  exact
    ⟨Numeral.Format.text_injective large small (String.toList_inj.mp numerals),
      rests⟩

/-- Cells can be read off their row. -/
theorem cells_injective :
    ∀ {left right : List String},
      (∀ cell ∈ left, IsCell cell) → (∀ cell ∈ right, IsCell cell) →
        left.length = right.length → Report.cells left = Report.cells right →
        left = right
  | [], [], _, _, _, _ => rfl
  | [first], [other], _, _, _, equal => by
      simpa [Report.cells] using equal
  | first :: second :: rest, other :: next :: others, leftCells, rightCells,
    length, equal => by
      obtain ⟨firstCell, restCells⟩ := List.forall_mem_cons.mp leftCells
      obtain ⟨otherCell, othersCells⟩ := List.forall_mem_cons.mp rightCells
      have characters :
          first.toList ++ '\t' :: (Report.cells (second :: rest)).toList =
            other.toList ++ '\t' :: (Report.cells (next :: others)).toList := by
        simpa [Report.cells] using congrArg String.toList equal
      obtain ⟨heads, tails⟩ :=
        eq_of_append_cons_eq (fun tab => (firstCell _ tab).1 rfl)
          (fun tab => (otherCell _ tab).1 rfl) characters
      rw [String.toList_inj.mp heads,
        cells_injective restCells othersCells (by simpa using
          length) (String.toList_inj.mp tails)]

/-- A text that may stand in a line: it has no line feed. -/
def IsLine (text : String) : Prop :=
  '\n' ∉ text.toList

instance (text : String) : Decidable (IsLine text) :=
  inferInstanceAs (Decidable ('\n' ∉ text.toList))

theorem IsCell.isLine {text : String} (cell : IsCell text) : IsLine text :=
  fun feed => (cell _ feed).2 rfl

theorem isLine_cells {texts : List String} (all : ∀ text ∈ texts, IsCell text) :
    IsLine (Report.cells texts) := by
  induction texts with
  | nil => decide
  | cons first rest inductionHypothesis =>
      obtain ⟨firstCell, restCells⟩ := List.forall_mem_cons.mp all
      have later := inductionHypothesis restCells
      cases rest with
      | nil => simpa [Report.cells] using firstCell.isLine
      | cons second others =>
          have separate :
              (Report.cells (first :: second :: others)).toList =
                first.toList ++
                  '\t' :: (Report.cells (second :: others)).toList := by
            simp [Report.cells]
          unfold IsLine at later ⊢
          rw [separate]
          simp only [List.mem_append, List.mem_cons, not_or]
          exact ⟨firstCell.isLine, by decide, later⟩

/-- Lines can be read off their text. -/
theorem lines_injective :
    ∀ {left right : List String},
      (∀ line ∈ left, IsLine line) → (∀ line ∈ right, IsLine line) →
        String.join (left.map fun line => line ++ "\n") =
            String.join (right.map fun line => line ++ "\n") →
          left = right
  | [], [], _, _, _ => rfl
  | [], first :: rest, _, _, equal => by
      simpa using congrArg String.toList equal
  | first :: rest, [], _, _, equal => by
      simpa using congrArg String.toList equal
  | first :: rest, other :: others, leftLines, rightLines, equal => by
      obtain ⟨firstLine, restLines⟩ := List.forall_mem_cons.mp leftLines
      obtain ⟨otherLine, othersLines⟩ := List.forall_mem_cons.mp rightLines
      have characters :
          first.toList ++
            '\n' :: (String.join (rest.map fun line => line ++ "\n")).toList =
            other.toList ++ '\n' ::
              (String.join (others.map fun line => line ++ "\n")).toList := by
        simpa [List.flatMap_map] using congrArg String.toList equal
      obtain ⟨heads, tails⟩ :=
        eq_of_append_cons_eq firstLine otherLine characters
      rw [String.toList_inj.mp heads,
        lines_injective restLines othersLines (String.toList_inj.mp tails)]

end CsrCensus.Text
