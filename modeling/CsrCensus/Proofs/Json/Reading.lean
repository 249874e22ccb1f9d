import CsrCensus.Proofs.Json.Grammar

/-!
# What readers read

A reader is described by the characters it is given, its value, and the
characters it leaves. Where in the document it starts does not matter to it as
long as it succeeds.
-/

namespace CsrCensus.Json

/-- A reader that is given some characters succeeds with a value and leaves
others. -/
def Reads
    {result : Type} (reader : Reader result) (given : List Char)
    (value : result) (left : List Char) : Prop :=
  ∀ consumed, ∃ reached, reader ⟨consumed, given⟩ = .ok (value, ⟨reached, left⟩)

namespace Reads

variable {first second : Type} {reader : Reader first}
  {given middle left : List Char}

theorem pure (value : first) : Reads (Pure.pure value) given value given :=
  fun consumed => ⟨consumed, rfl⟩

theorem bind
    {next : first → Reader second} {value : first} {outcome : second}
    (begins : Reads reader given value middle)
    (continues : Reads (next value) middle outcome left) :
    Reads (reader >>= next) given outcome left := by
  intro consumed
  obtain ⟨between, beginning⟩ := begins consumed
  obtain ⟨reached, continuation⟩ := continues between
  refine ⟨reached, ?_⟩
  change (reader ⟨consumed, given⟩ >>= fun step => next step.1 step.2) = _
  rw [beginning]
  exact continuation

theorem map
    {change : first → second} {value : first}
    (begins : Reads reader given value left) :
    Reads (do return change (← reader)) given (change value) left :=
  begins.bind (.pure _)

end Reads

theorem reads_peek (given : List Char) : Reads peek given given.head? given :=
  fun consumed => ⟨consumed, rfl⟩

theorem reads_skipChar (character : Char) (left : List Char) :
    Reads skipChar (character :: left) () left :=
  fun _ => ⟨_, rfl⟩

theorem reads_remaining (given : List Char) :
    Reads remaining given given.length given :=
  fun consumed => ⟨consumed, rfl⟩

theorem reads_skipWhile {isWanted : Char → Bool} {wanted left : List Char}
    (all : ∀ character ∈ wanted, isWanted character)
    (stops : ∀ character ∈ left.head?, isWanted character = false) :
    Reads (skipWhile isWanted) (wanted ++ left) () left := by
  have dropped : (wanted ++ left).dropWhile isWanted = left := by
    rw [List.dropWhile_append_of_pos all]
    cases left with
    | nil => rfl
    | cons first rest => simp [stops first rfl]
  intro consumed
  exact ⟨_, by rw [skipWhile, dropped]⟩

theorem isSpace_iff {character : Char} :
    isSpace character ↔ character ∈ [' ', '\n', '\t', '\r'] := by
  simp [isSpace, or_assoc]

theorem Blank.nil : Blank [] := by simp [Blank]

theorem Blank.boundary
    {space left : List Char} (blank : Blank space) (boundary : Boundary left) :
    Boundary (space ++ left) := by
  cases space with
  | nil => exact boundary
  | cons first rest =>
      intro next isNext
      obtain rfl : next = first := by simpa [eq_comm] using isNext
      exact List.mem_append_left [',', ']', '\x7d'] (blank next (by simp))

theorem reads_peekToken
    {space left : List Char} {first : Char} (blank : Blank space)
    (solid : isSpace first = false) :
    Reads peekToken (space ++ first :: left) (some first) (first :: left) := by
  have skips :
      Reads (skipWhile isSpace) (space ++ first :: left) () (first :: left) :=
    reads_skipWhile
      (fun character inside => isSpace_iff.mpr (blank character inside))
      (by simpa using solid)
  exact skips.bind (reads_peek _)

theorem reads_peekToken_end {space : List Char} (blank : Blank space) :
    Reads peekToken space none [] := by
  have skips : Reads (skipWhile isSpace) (space ++ []) () [] :=
    reads_skipWhile
      (fun character inside => isSpace_iff.mpr (blank character inside))
      (by simp)
  rw [List.append_nil] at skips
  exact skips.bind (reads_peek [])

theorem reads_readLiteral (word left : List Char) :
    Reads (readLiteral word) (word ++ left) () left := by
  induction word with
  | nil => exact .pure ()
  | cons first rest inductionHypothesis =>
      refine (reads_peek _).bind ?_
      simp only [List.cons_append, List.head?_cons, if_true]
      exact (reads_skipChar _ _).bind inductionHypothesis

theorem reads_readColon
    {space : List Char} (blank : Blank space) (left : List Char) :
    Reads readColon (space ++ ':' :: left) () left := by
  refine (reads_peekToken blank (by decide)).bind ?_
  exact reads_skipChar _ _

end CsrCensus.Json
