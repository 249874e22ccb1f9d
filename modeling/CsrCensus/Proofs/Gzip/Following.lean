import CsrCensus.Gzip.Member
import CsrCensus.Proofs.Sequence

/-!
# Bytes that follow

A reader that succeeds has not looked at the bytes behind its data. With more
bytes at the end it gives the same value and leaves them. Where a reader takes a
bound from the number of bits left, the bound grows with them, and a greater
bound changes no success.
-/

namespace CsrCensus.Gzip

/-- The source with more bytes at its end. -/
def Source.followedBy (source : Source) (tail : Bytes) : Source :=
  ⟨source.pending, source.rest ++ tail⟩

/-- Wherever the first reader succeeds, the second one gives the same value with
more bytes at the end, and leaves them. -/
def Extends {result : Type} (tail : Bytes) (reader extended : Reader result) :
    Prop :=
  ∀ ⦃source after : Source⦄ ⦃value : result⦄,
    reader source = .ok (value, after) →
      extended (source.followedBy tail) = .ok (value, after.followedBy tail)

namespace Extends

variable {first second : Type} {tail : Bytes}

protected theorem pure (value : first) :
    Extends tail (pure value) (pure value) := by
  intro source after given done
  cases done
  rfl

theorem throw (fault : Fault) (extended : Reader first) :
    Extends tail (MonadExcept.throw fault) extended :=
  nofun

protected theorem bind
    {reader extended : Reader first} {next extendedNext : first → Reader second}
    (begins : Extends tail reader extended)
    (continues : ∀ value, Extends tail (next value) (extendedNext value)) :
    Extends tail (reader >>= next) (extended >>= extendedNext) := by
  intro source after value done
  obtain ⟨step, begun, done⟩ := Sequence.exists_ok_of_bind done
  change (extended (source.followedBy tail) >>=
    fun step => extendedNext step.1 step.2) = _
  rw [begins begun]
  exact continues step.1 done

theorem ite
    {condition : Prop} [Decidable condition]
    {reader other extended extendedOther : Reader first}
    (holds : Extends tail reader extended)
    (fails : Extends tail other extendedOther) :
    Extends tail (if condition then reader else other)
      (if condition then extended else extendedOther) := by
  split
  · exact holds
  · exact fails

end Extends

variable {tail : Bytes}

theorem extends_readBit : Extends tail readBit readBit := by
  rintro ⟨pending, rest⟩ after bit done
  cases pending with
  | cons next pending =>
      cases done
      rfl
  | nil =>
      cases rest with
      | cons byte rest =>
          cases done
          rfl
      | nil => cases done

theorem extends_readBits (count : Nat) :
    Extends tail (readBits count) (readBits count) := by
  induction count with
  | zero => exact .pure 0
  | succ count inductionHypothesis =>
      exact
        extends_readBit.bind fun _ => inductionHypothesis.bind fun _ => .pure _

theorem extends_alignToByte : Extends tail alignToByte alignToByte := by
  intro source after value done
  cases done
  rfl

theorem extends_readBytes (count : Nat) :
    Extends tail (readBytes count) (readBytes count) := by
  intro source after bytes done
  unfold readBytes at done
  split at done
  · rename_i enough
    cases done
    have more : count ≤ (source.rest ++ tail).length := by
      rw [List.length_append]
      omega
    simp only [readBytes, Source.followedBy, if_pos more,
      List.take_append_of_le_length enough,
      List.drop_append_of_le_length enough]
  · cases done

theorem CodeTree.extends_read (tree : CodeTree) :
    Extends tail tree.read tree.read := by
  induction tree with
  | vacant => exact .throw _ _
  | symbol value => exact .pure value
  | branch zero one zeroHypothesis oneHypothesis =>
      refine extends_readBit.bind fun bit => ?_
      cases bit with
      | false => exact zeroHypothesis
      | true => exact oneHypothesis

theorem extends_readValue (codes : List (Nat × Nat)) (index : Nat) :
    Extends tail (readValue codes index) (readValue codes index) := by
  unfold readValue
  cases codes[index]? with
  | none => exact .throw _ _
  | some code => exact (extends_readBits code.2).bind fun _ => .pure _

/-- A greater bound on the number of symbols changes no success. -/
theorem extends_readSymbols (literals distances : CodeTree) :
    ∀ {bound greater : Nat}, bound ≤ greater → ∀ output : Array UInt8,
      Extends tail (readSymbols literals distances bound output)
        (readSymbols literals distances greater output)
  | 0, _, _, _ => .throw _ _
  | bound + 1, greater + 1, le, output => by
      have later :=
        extends_readSymbols literals distances (Nat.le_of_succ_le_succ le)
      refine literals.extends_read.bind fun symbol => ?_
      refine .ite (later _) (.ite (.pure _) ?_)
      refine (extends_readValue lengthCodes _).bind fun length => ?_
      refine distances.extends_read.bind fun symbol => ?_
      exact (extends_readValue distanceCodes _).bind fun distance => later _

theorem extends_readCoded
    (literals distances : CodeTree) (output : Array UInt8) :
    Extends tail (readCoded literals distances output)
      (readCoded literals distances output) := by
  intro source after value done
  have le : source.size + 1 ≤ (source.followedBy tail).size + 1 := by
    simp only [Source.size, Source.followedBy, List.length_append]
    omega
  exact extends_readSymbols literals distances le output done

theorem extends_readStored (output : Array UInt8) :
    Extends tail (readStored output) (readStored output) := by
  refine extends_alignToByte.bind fun _ => ?_
  refine (extends_readBytes 2).bind fun count => ?_
  refine (extends_readBytes 2).bind fun complement => ?_
  refine .ite (.throw _ _) ?_
  exact (extends_readBytes _).bind fun _ => .pure _

theorem extends_readOrdered (symbols : List Nat) :
    Extends tail (readOrdered symbols) (readOrdered symbols) := by
  induction symbols with
  | nil => exact .pure []
  | cons symbol rest inductionHypothesis =>
      exact (extends_readBits 3).bind fun _ => inductionHypothesis.bind fun _ =>
        .pure _

theorem extends_completeTree (lengths : List Nat) :
    Extends tail (completeTree lengths) (completeTree lengths) :=
  .ite (.pure _) (.throw _ _)

theorem extends_symbolTree (lengths : List Nat) :
    Extends tail (symbolTree lengths) (symbolTree lengths) :=
  .ite (.pure _) (.throw _ _)

theorem extends_readLengthTree (count : Nat) :
    Extends tail (readLengthTree count) (readLengthTree count) :=
  (extends_readOrdered _).bind fun _ => extends_completeTree _

theorem extends_readRun (tree : CodeTree) (lengths : Array Nat) :
    Extends tail (readRun tree lengths) (readRun tree lengths) := by
  refine tree.extends_read.bind fun symbol => ?_
  refine .ite (.pure _) (.ite ?_ (.ite ?_ ?_))
  · cases lengths.back? with
    | none => exact .throw _ _
    | some previous => exact (extends_readBits 2).bind fun _ => .pure _
  · exact (extends_readBits 3).bind fun _ => .pure _
  · exact (extends_readBits 7).bind fun _ => .pure _

theorem extends_readLengths
    (tree : CodeTree) (total bound : Nat) (lengths : Array Nat) :
    Extends tail (readLengths tree total bound lengths)
      (readLengths tree total bound lengths) := by
  induction bound generalizing lengths with
  | zero => exact .throw _ _
  | succ bound inductionHypothesis =>
      refine .ite ?_ (.ite (.pure _) (.throw _ _))
      exact (extends_readRun tree lengths).bind fun longer =>
        inductionHypothesis longer

theorem extends_readDynamic (output : Array UInt8) :
    Extends tail (readDynamic output) (readDynamic output) := by
  refine (extends_readBits 5).bind fun _ => ?_
  refine (extends_readBits 5).bind fun _ => ?_
  refine (extends_readBits 4).bind fun _ => ?_
  refine .ite (.throw _ _) ?_
  refine (extends_readLengthTree _).bind fun tree => ?_
  refine (extends_readLengths tree _ _ _).bind fun lengths => ?_
  refine (extends_symbolTree _).bind fun literals => ?_
  exact (extends_symbolTree _).bind fun distances =>
    extends_readCoded literals distances output

/-! ## The whole of the data -/

theorem extends_readBlock (type : Nat) (output : Array UInt8) :
    Extends tail (readBlock type output) (readBlock type output) := by
  unfold readBlock
  split
  · exact extends_readStored output
  · exact extends_readCoded fixedLiterals fixedDistances output
  · exact extends_readDynamic output
  · exact .throw _ _

/-- A greater bound on the number of blocks changes no success. -/
theorem extends_readBlocks :
    ∀ {bound greater : Nat}, bound ≤ greater → ∀ output : Array UInt8,
      Extends tail (readBlocks bound output) (readBlocks greater output)
  | 0, _, _, _ => .throw _ _
  | bound + 1, greater + 1, le, output => by
      refine extends_readBit.bind fun last => ?_
      refine (extends_readBits 2).bind fun type => ?_
      refine (extends_readBlock type output).bind fun output => ?_
      exact
        .ite (.pure _) (extends_readBlocks (Nat.le_of_succ_le_succ le) output)

theorem inflate_append
    {bytes data rest : Bytes} (inflated : inflate bytes = .ok (data, rest))
    (tail : Bytes) :
    inflate (bytes ++ tail) = .ok (data, rest ++ tail) := by
  have le : 8 * bytes.length + 1 ≤ 8 * (bytes ++ tail).length + 1 := by
    rw [List.length_append]
    omega
  unfold inflate at inflated ⊢
  cases read : readBlocks (8 * bytes.length + 1) #[] ⟨[], bytes⟩ with
  | error fault =>
      rw [read] at inflated
      cases inflated
  | ok step =>
      obtain ⟨output, source⟩ := step
      rw [read] at inflated
      cases inflated
      have more :
          readBlocks (8 * (bytes ++ tail).length + 1) #[] ⟨[], bytes ++ tail⟩ =
            _ :=
        extends_readBlocks le #[] read
      rw [more]
      rfl

end CsrCensus.Gzip
