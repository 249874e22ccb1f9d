import CsrCensus.Json.Record
import CsrCensus.Proofs.Json.Skip

/-!
# Reading values of a wanted type

Booleans, strings, integers of 64 bits and choices are read from each of their
spellings.
-/

namespace CsrCensus.Json

/-- The spelling of a boolean. -/
def BooleanSpelled (value : Bool) (text : List Char) : Prop :=
  text = (if value then "true" else "false").toList

/-- The spelling of an integer of 64 bits: plain decimal, without sign or
leading zeros. -/
structure IntegerSpelled (value : UInt64) (text : List Char) : Prop where
  isWhole : IsWhole text
  value_eq : Numeral.value 10 text = value.toNat

/-- The name of an alternative of a choice. -/
inductive Choice.Names {alternative : Type} (choice : Choice alternative) :
    String → alternative → Prop where
  | first : Choice.Names choice choice.firstName choice.first
  | second :
      choice.secondName ≠ choice.firstName →
        Choice.Names choice choice.secondName choice.second

theorem TextSpelled.startsValue
    {content : String} {text : List Char} (spelled : TextSpelled content text) :
    StartsValue text := by
  obtain ⟨_⟩ := spelled
  exact ⟨'"', _, rfl, by decide⟩

theorem BooleanSpelled.startsValue
    {value : Bool} {text : List Char} (spelled : BooleanSpelled value text) :
    StartsValue text := by
  obtain rfl := spelled
  cases value
  · exact ⟨'f', _, rfl, by decide⟩
  · exact ⟨'t', _, rfl, by decide⟩

theorem IntegerSpelled.startsValue
    {value : UInt64} {text : List Char} (spelled : IntegerSpelled value text) :
    StartsValue text := by
  obtain ⟨first, rest, rfl, isFirst⟩ := spelled.isWhole.exists_cons
  have solid : ∀ digit ∈ "0123456789".toList, digit ∉ boundaries :=
    forall_mem_of_all (by decide)
  exact ⟨first, rest, rfl, solid first isFirst⟩

section Values

variable {space text left : List Char}

theorem reads_readBoolean
    {value : Bool} (blank : Blank space) (spelled : BooleanSpelled value text) :
    Reads readBoolean (space ++ (text ++ left)) value left := by
  obtain rfl := spelled
  cases value with
  | false =>
      refine (reads_peekToken blank (by decide)).bind ?_
      exact (reads_readLiteral "false".toList left).bind (.pure _)
  | true =>
      refine (reads_peekToken blank (by decide)).bind ?_
      exact (reads_readLiteral "true".toList left).bind (.pure _)

theorem reads_readString
    {content : String} (wanted : String) (blank : Blank space)
    (spelled : TextSpelled content text) :
    Reads (readString wanted) (space ++ (text ++ left)) content left := by
  obtain ⟨isInner⟩ := spelled
  simp only [List.cons_append, List.append_assoc, List.nil_append]
  refine (reads_peekToken blank (by decide)).bind ?_
  exact (reads_skipChar _ _).bind (reads_readText isInner left)

theorem reads_readUInt64
    {value : UInt64} (blank : Blank space) (spelled : IntegerSpelled value text)
    (boundary : Boundary left) :
    Reads readUInt64 (space ++ (text ++ left)) value left := by
  have small : Numeral.value 10 text < UInt64.size :=
    spelled.value_eq ▸ value.toNat_lt
  have reads := reads_readNumber_natural spelled.isWhole small boundary
  obtain ⟨first, rest, rfl, isFirst⟩ := spelled.isWhole.exists_cons
  have solid : ∀ digit ∈ "0123456789".toList, isSpace digit = false :=
    forall_mem_of_all (by decide)
  refine (reads_peekToken blank (solid first isFirst)).bind ?_
  simp only [isDigit_of_mem isFirst, or_true, if_true]
  refine reads.bind ?_
  simp only [spelled.value_eq, UInt64.ofNat_toNat]
  exact .pure _

theorem reads_readChoice
    {alternative : Type} {choice : Choice alternative} {name : String}
    {chosen : alternative} (blank : Blank space)
    (names : choice.Names name chosen) (spelled : TextSpelled name text) :
    Reads (readChoice choice) (space ++ (text ++ left)) chosen left := by
  obtain ⟨isInner⟩ := spelled
  simp only [List.cons_append, List.append_assoc, List.nil_append]
  refine (reads_peekToken blank (by decide)).bind ?_
  refine (reads_skipChar _ _).bind ((reads_readText isInner left).bind ?_)
  cases names with
  | first =>
      simp only [if_true]
      exact .pure _
  | second other =>
      simp only [other, if_false, if_true]
      exact .pure _

end Values

end CsrCensus.Json
