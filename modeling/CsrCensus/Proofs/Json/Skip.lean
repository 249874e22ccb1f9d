import CsrCensus.Proofs.Json.Number
import CsrCensus.Proofs.Json.Text

/-!
# Skipping values

A well-formed value is skipped up to its end, however deep it is nested. The
steps that this takes are at most twice as many as the value has characters, so
the bound of the reader does not stop it.
-/

namespace CsrCensus.Json

/-- Text that starts with a value, not with white space or what may follow a
value. -/
def StartsValue (text : List Char) : Prop :=
  ∃ first rest, text = first :: rest ∧ first ∉ boundaries

theorem StartsValue.append
    {text : List Char} (starts : StartsValue text) (rest : List Char) :
    StartsValue (text ++ rest) := by
  obtain ⟨first, later, rfl, solid⟩ := starts
  exact ⟨first, later ++ rest, rfl, solid⟩

theorem isSpace_eq_false {character : Char} (solid : character ∉ boundaries) :
    isSpace character = false := by
  rw [Bool.eq_false_iff, ne_eq, isSpace_iff]
  exact fun inside => solid (List.mem_append_left [',', ']', '\x7d'] inside)

theorem ne_closer
    {character : Char} (bracket : Bracket) (solid : character ∉ boundaries) :
    character ≠ bracket.closer := by
  rintro rfl
  cases bracket <;> exact absurd solid (by decide)

theorem IsLabel.startsValue
    {label value : List Char} {bracket : Bracket}
    (isLabel : IsLabel bracket label) (starts : StartsValue value) :
    StartsValue (label ++ value) := by
  cases isLabel with
  | list => exact starts
  | object isKey _ _ =>
      obtain ⟨_⟩ := isKey
      exact ⟨'"', _, rfl, by decide⟩

theorem IsNumber.exists_cons {number : List Char} (isNumber : IsNumber number) :
    ∃ first rest, number = first :: rest ∧ first ∈ "-0123456789".toList := by
  obtain ⟨isSign, isWhole, -, -⟩ := isNumber
  obtain ⟨digit, later, rfl, isFirst⟩ := isWhole.exists_cons
  simp only [List.mem_cons, List.not_mem_nil, or_false] at isSign
  rcases isSign with rfl | rfl
  · exact ⟨digit, _, rfl, List.mem_cons_of_mem '-' isFirst⟩
  · exact ⟨'-', _, rfl, List.mem_cons_self⟩

theorem skipScalar_number
    {first : Char} (isFirst : first ∈ "-0123456789".toList) :
    skipScalar first = skipNumber := by
  have all :
      ∀ other ∈ "-0123456789".toList,
        other ≠ 'n' ∧ other ≠ 't' ∧ other ≠ 'f' ∧
          (other = '-' ∨ isDigit other) :=
    forall_mem_of_all (by decide)
  obtain ⟨notNull, notTrue, notFalse, numeric⟩ := all first isFirst
  simp only [skipScalar, notNull, notTrue, notFalse, numeric, if_true, if_false]

/-- A scalar is skipped by its first character, which opens no bracket. -/
theorem reads_skipScalar
    {scalar left : List Char} (isScalar : IsScalar scalar)
    (boundary : Boundary left) :
    ∃ first rest,
      scalar = first :: rest ∧ first ∉ '[' :: '\x7b' :: boundaries ∧
        Reads (skipScalar first) (scalar ++ left) () left := by
  cases isScalar with
  | literal isLiteral =>
      simp only [List.mem_cons, List.not_mem_nil, or_false] at isLiteral
      rcases isLiteral with rfl | rfl | rfl
      · exact ⟨'n', _, rfl, by decide, reads_readLiteral _ _⟩
      · exact ⟨'t', _, rfl, by decide, reads_readLiteral _ _⟩
      · exact ⟨'f', _, rfl, by decide, reads_readLiteral _ _⟩
  | number isNumber =>
      obtain ⟨first, rest, same, isFirst⟩ := isNumber.exists_cons
      have opens :
          ∀ other ∈ "-0123456789".toList, other ∉ '[' :: '\x7b' :: boundaries :=
        forall_mem_of_all (by decide)
      refine ⟨first, rest, same, opens first isFirst, ?_⟩
      rw [skipScalar_number isFirst]
      exact reads_skipNumber isNumber boundary
  | text quoted =>
      obtain ⟨pieces⟩ := quoted
      refine ⟨'"', _, rfl, by decide, ?_⟩
      rw [List.cons_append, List.append_assoc]
      exact (reads_skipChar _ _).bind (reads_skipText pieces left)

section Steps

variable {bound : Nat} {bracket : Bracket} {outer : List Bracket}
  {space middle left : List Char}

theorem reads_skipSteps_scalar
    {scalar : List Char} (blank : Blank space) (isScalar : IsScalar scalar)
    (boundary : Boundary middle)
    (continues : Reads (skipSteps bound .ended outer) middle () left) :
    Reads (skipSteps (bound + 1) .value outer) (space ++ (scalar ++ middle))
      () left := by
  obtain ⟨first, rest, rfl, solid, skips⟩ := reads_skipScalar isScalar boundary
  simp only [List.mem_cons, not_or] at solid
  obtain ⟨noList, noObject, solid⟩ := solid
  refine (reads_peekToken blank (isSpace_eq_false solid)).bind ?_
  simp only [noList, noObject, if_false]
  exact skips.bind continues

theorem reads_skipSteps_open
    (blank : Blank space)
    (continues : Reads (skipSteps bound .opened (bracket :: outer))
      middle () left) :
    Reads (skipSteps (bound + 1) .value outer)
      (space ++ bracket.opener :: middle) () left := by
  cases bracket with
  | list =>
      refine (reads_peekToken blank (by decide)).bind ?_
      exact (reads_skipChar _ _).bind continues
  | object =>
      refine (reads_peekToken blank (by decide)).bind ?_
      exact (reads_skipChar _ _).bind continues

theorem isSpace_closer (bracket : Bracket) :
    isSpace bracket.closer = false := by
  cases bracket <;> decide

/-- A bracket is closed in the same way before its first element and after each
one. -/
theorem reads_skipSteps_close
    {phase : Phase} (inside : phase ≠ .value) (blank : Blank space)
    (continues : Reads (skipSteps bound .ended outer) middle () left) :
    Reads (skipSteps (bound + 1) phase (bracket :: outer))
      (space ++ bracket.closer :: middle) ()
      left := by
  cases phase with
  | value => exact absurd rfl inside
  | opened | ended =>
      refine (reads_peekToken blank (isSpace_closer bracket)).bind ?_
      simp only [if_true]
      exact (reads_skipChar _ _).bind continues

theorem reads_skipSteps_first
    (blank : Blank space) (starts : StartsValue middle)
    (continues : Reads
      (do skipLabel bracket; skipSteps bound .value (bracket :: outer))
      middle () left) :
    Reads (skipSteps (bound + 1) .opened (bracket :: outer)) (space ++ middle)
      () left := by
  obtain ⟨first, rest, rfl, solid⟩ := starts
  refine (reads_peekToken blank (isSpace_eq_false solid)).bind ?_
  simp only [ne_closer bracket solid, if_false]
  exact continues

theorem reads_skipSteps_comma
    (blank : Blank space)
    (continues : Reads
      (do skipLabel bracket; skipSteps bound .value (bracket :: outer))
      middle () left) :
    Reads (skipSteps (bound + 1) .ended (bracket :: outer))
      (space ++ ',' :: middle) () left := by
  have noCloser : ',' ≠ bracket.closer := by cases bracket <;> decide
  refine (reads_peekToken blank (by decide)).bind ?_
  simp only [noCloser, if_true, if_false]
  exact (reads_skipChar _ _).bind continues

theorem reads_skipLabel
    {label : List Char} {next : Reader Unit} (blank : Blank space)
    (isLabel : IsLabel bracket label)
    (continues : ∀ gap, Blank gap → Reads next (gap ++ middle) () left) :
    Reads (do skipLabel bracket; next) (space ++ (label ++ middle))
      () left := by
  cases isLabel with
  | list => exact (Reads.pure ()).bind (continues space blank)
  | @object key before after isKey isBefore isAfter =>
      obtain @⟨inner, pieces⟩ := isKey
      have reads :
          Reads (skipLabel .object)
            (space ++
              '"' :: (inner ++ '"' :: (before ++ ':' :: (after ++ middle)))) ()
            (after ++ middle) := by
        refine (reads_peekToken blank (by decide)).bind ?_
        refine (reads_skipChar _ _).bind ((reads_skipText pieces _).bind ?_)
        exact reads_readColon isBefore _
      simp only [List.cons_append, List.append_assoc, List.nil_append]
      exact reads.bind (continues after isAfter)

end Steps

/-! ## Values -/

theorem WellFormed.startsValue
    {form : Form} {text : List Char} (wellFormed : WellFormed form text) :
    StartsValue text := by
  induction wellFormed with
  | scalar isScalar =>
      have boundary : Boundary [] := nofun
      obtain ⟨first, rest, rfl, solid, -⟩ := reads_skipScalar isScalar boundary
      simp only [List.mem_cons, not_or] at solid
      exact ⟨first, rest, rfl, by simpa using solid.2.2⟩
  | @empty bracket =>
      exact ⟨bracket.opener, _, rfl, by cases bracket <;> decide⟩
  | @filled bracket =>
      exact ⟨bracket.opener, _, rfl, by cases bracket <;> decide⟩
  | last isLabel _ _ starts => exact isLabel.startsValue (starts.append _)
  | more isLabel _ _ _ _ starts => exact isLabel.startsValue (starts.append _)

/-- How a text of a form is skipped: in some steps, after which the reader
continues with what follows the value, or with what follows the bracket that
closes the elements. -/
def Skipped : Form → List Char → Prop
  | .value, text =>
      ∃ steps ≤ 2 * text.length,
        ∀ {bound : Nat} {outer : List Bracket} {space middle left : List Char},
          Blank space → Boundary middle →
            Reads (skipSteps bound .ended outer) middle () left →
              Reads (skipSteps (bound + steps) .value outer)
                (space ++ (text ++ middle)) () left
  | .elements bracket, text =>
      ∃ steps ≤ 2 * text.length + 1,
        ∀ {bound : Nat} {outer : List Bracket} {space middle left : List Char},
          Blank space →
            Reads (skipSteps bound .ended outer) middle () left →
              Reads
                (do
                  skipLabel bracket
                  skipSteps (bound + steps) .value (bracket :: outer))
                (space ++ (text ++ bracket.closer :: middle)) () left

theorem boundary_closer (bracket : Bracket) (rest : List Char) :
    Boundary (bracket.closer :: rest) := by
  intro next isNext
  cases bracket <;> cases isNext <;> decide

theorem boundary_comma (rest : List Char) : Boundary (',' :: rest) := by
  intro next isNext
  cases isNext
  decide

theorem skipped_scalar {scalar : List Char} (isScalar : IsScalar scalar) :
    Skipped .value scalar := by
  have positive : 0 < scalar.length := by
    obtain ⟨first, rest, rfl, -⟩ := (WellFormed.scalar isScalar).startsValue
    simp
  exact ⟨1, by omega, fun outside boundary continues =>
    reads_skipSteps_scalar outside isScalar boundary continues⟩

theorem skipped_empty
    {bracket : Bracket} {space : List Char} (blank : Blank space) :
    Skipped .value (bracket.opener :: (space ++ [bracket.closer])) := by
  refine ⟨2, by simp only [List.length_cons]; omega,
    fun outside boundary continues => ?_⟩
  simp only [List.cons_append, List.append_assoc, List.nil_append]
  exact
    reads_skipSteps_open outside (reads_skipSteps_close nofun blank continues)

theorem skipped_filled
    {bracket : Bracket} {space elements : List Char} (blank : Blank space)
    (starts : StartsValue elements)
    (skipped : Skipped (.elements bracket) elements) :
    Skipped .value
      (bracket.opener :: (space ++ (elements ++ [bracket.closer]))) := by
  obtain ⟨steps, few, skips⟩ := skipped
  refine ⟨steps + 2, by simp; omega, fun outside boundary continues => ?_⟩
  simp only [List.cons_append, List.append_assoc, List.nil_append]
  refine reads_skipSteps_open outside
    (reads_skipSteps_first blank (starts.append _) ?_)
  exact skips Blank.nil continues

theorem skipped_last
    {bracket : Bracket} {label value space : List Char}
    (isLabel : IsLabel bracket label) (skipped : Skipped .value value)
    (blank : Blank space) :
    Skipped (.elements bracket) (label ++ (value ++ space)) := by
  obtain ⟨steps, few, skips⟩ := skipped
  refine ⟨1 + steps, by simp; omega, fun outside continues => ?_⟩
  simp only [List.append_assoc, ← Nat.add_assoc]
  refine reads_skipLabel outside isLabel fun gap inside => ?_
  exact skips inside (blank.boundary (boundary_closer bracket _))
    (reads_skipSteps_close nofun blank continues)

theorem skipped_more
    {bracket : Bracket} {label value before after elements : List Char}
    (isLabel : IsLabel bracket label) (skippedValue : Skipped .value value)
    (isBefore : Blank before) (isAfter : Blank after)
    (skippedElements : Skipped (.elements bracket) elements) :
    Skipped (.elements bracket)
      (label ++ (value ++ (before ++ ',' :: (after ++ elements)))) := by
  obtain ⟨valueSteps, fewForValue, skipsValue⟩ := skippedValue
  obtain ⟨laterSteps, fewLater, skipsLater⟩ := skippedElements
  refine
    ⟨laterSteps + 1 + valueSteps, by simp; omega, fun outside continues => ?_⟩
  simp only [List.append_assoc, List.cons_append, ← Nat.add_assoc]
  refine reads_skipLabel outside isLabel fun gap inside => ?_
  refine skipsValue inside (isBefore.boundary (boundary_comma _)) ?_
  exact reads_skipSteps_comma isBefore (skipsLater isAfter continues)

theorem skipped_of_wellFormed
    {form : Form} {text : List Char} (wellFormed : WellFormed form text) :
    Skipped form text := by
  -- The brackets around a value are in the list of the reader, so nested values
  -- are skipped alike.
  induction wellFormed with
  | scalar isScalar => exact skipped_scalar isScalar
  | empty blank => exact skipped_empty blank
  | filled blank elements skipped =>
      exact skipped_filled blank elements.startsValue skipped
  | last isLabel _ blank skipped => exact skipped_last isLabel skipped blank
  | more isLabel _ isBefore isAfter _ skippedValue skippedElements =>
      exact skipped_more isLabel skippedValue isBefore isAfter skippedElements

/-- A well-formed value is skipped up to its end. -/
theorem reads_skipValue
    {space value left : List Char} (blank : Blank space)
    (wellFormed : WellFormed .value value) (boundary : Boundary left) :
    Reads skipValue (space ++ (value ++ left)) () left := by
  obtain ⟨steps, few, skips⟩ := skipped_of_wellFormed wellFormed
  refine (reads_remaining _).bind ?_
  -- One step is left for the end of the value, outside all brackets.
  have enough :
      2 * (space ++ (value ++ left)).length + 2 =
        (2 * (space ++ (value ++ left)).length + 1 - steps) + 1 + steps := by
    simp only [List.length_append]
    omega
  rw [enough]
  exact skips blank boundary (.pure ())

end CsrCensus.Json
