import CsrCensus.Image.Load
import CsrCensus.Proofs.Gzip.Following
import Mathlib.Data.List.Forall2

/-!
# Members in a row

A file may hold several members, one behind the other. Each of them can be read
by itself, but only the first one is: what follows it is neither inflated nor
looked at, and no fault is reported.
-/

namespace CsrCensus.Gzip

open Sequence

variable {bytes rest tail : Bytes}

theorem takeBytes_append {count : Nat} {taken : Bytes}
    (took : takeBytes count bytes = .ok (taken, rest)) :
    takeBytes count (bytes ++ tail) = .ok (taken, rest ++ tail) := by
  unfold takeBytes at took
  split at took
  · rename_i enough
    cases took
    have more : count ≤ (bytes ++ tail).length := by
      rw [List.length_append]
      omega
    rw [takeBytes, if_pos more, List.take_append_of_le_length enough,
      List.drop_append_of_le_length enough]
  · cases took

theorem skipField_append
    {room : Nat} (skipped : skipField room bytes = .ok rest) :
    skipField room (bytes ++ tail) = .ok (rest ++ tail) := by
  induction bytes generalizing room with
  | nil => simp [skipField] at skipped
  | cons byte bytes inductionHypothesis =>
      rw [List.cons_append]
      unfold skipField at skipped ⊢
      by_cases zero : byte = 0
      · rw [if_pos zero] at skipped ⊢
        cases skipped
        rfl
      · rw [if_neg zero] at skipped ⊢
        cases room with
        | zero => cases skipped
        | succ room => exact inductionHypothesis skipped

theorem skipIf_append
    {flag : Bool} {skip extended : Bytes → Except Fault Bytes}
    (skips : ∀ {bytes rest},
      skip bytes = .ok rest → extended (bytes ++ tail) = .ok (rest ++ tail))
    (skipped : skipIf flag skip bytes = .ok rest) :
    skipIf flag extended (bytes ++ tail) = .ok (rest ++ tail) := by
  cases flag with
  | false =>
      cases skipped
      rfl
  | true => exact skips skipped

theorem skipExtra_append (skipped : skipExtra bytes = .ok rest) :
    skipExtra (bytes ++ tail) = .ok (rest ++ tail) := by
  obtain ⟨⟨length, behind⟩, tookLength, skipped⟩ := exists_ok_of_bind skipped
  obtain ⟨⟨extra, behind⟩, tookExtra, done⟩ := exists_ok_of_bind skipped
  cases done
  unfold skipExtra
  simp only [takeBytes_append tookLength, takeBytes_append tookExtra, bind,
    Except.bind]
  rfl

/-- The bytes of a header are counted from the start, so bytes at the end do not
move them. -/
theorem skipHeaderChecksum_append {member : Bytes}
    (skipped : skipHeaderChecksum member bytes = .ok rest) :
    skipHeaderChecksum (member ++ tail) (bytes ++ tail) =
      .ok (rest ++ tail) := by
  obtain ⟨⟨stored, behind⟩, took, done⟩ := exists_ok_of_bind skipped
  have count :
      (member ++ tail).length - (bytes ++ tail).length =
        member.length - bytes.length := by
    simp only [List.length_append]
    omega
  have header :
      (member ++ tail).take (member.length - bytes.length) =
        member.take (member.length - bytes.length) :=
    List.take_append_of_le_length (Nat.sub_le _ _)
  unfold skipHeaderChecksum
  simp only [takeBytes_append took, bind, Except.bind, count, header]
  simp only at done
  split at done
  · rename_i same
    cases done
    rw [if_pos same]
    rfl
  · cases done

/-! ## Members -/

/-- The parts of a header that was skipped, one behind the other. -/
theorem skipHeader_cases
    {member : Bytes} (skipped : skipHeader member = .ok rest) :
    ∃ fixed first second third fourth,
      takeBytes 10 member = .ok (fixed, first) ∧ isKnownHeader fixed = true ∧
        skipIf ((headerFlags fixed).testBit 2) skipExtra first = .ok second ∧
        skipIf ((headerFlags fixed).testBit 3) (skipField longestField) second =
          .ok third ∧
        skipIf ((headerFlags fixed).testBit 4) (skipField longestField) third =
          .ok fourth ∧
        skipIf ((headerFlags fixed).testBit 1)
          (skipHeaderChecksum member) fourth = .ok rest := by
  obtain ⟨⟨fixed, first⟩, took, skipped⟩ := exists_ok_of_bind skipped
  cases known : isKnownHeader fixed with
  | false =>
      simp only [known] at skipped
      cases skipped
  | true =>
      simp only [known] at skipped
      obtain ⟨second, extra, skipped⟩ := exists_ok_of_bind skipped
      obtain ⟨third, name, skipped⟩ := exists_ok_of_bind skipped
      obtain ⟨fourth, comment, skipped⟩ := exists_ok_of_bind skipped
      exact ⟨fixed, first, second, third, fourth, took, known, extra, name,
        comment, skipped⟩

theorem skipHeader_append
    {member : Bytes} (skipped : skipHeader member = .ok rest) :
    skipHeader (member ++ tail) = .ok (rest ++ tail) := by
  obtain ⟨fixed, first, second, third, fourth, took, known, extra, name,
    comment, sum⟩ :=
    skipHeader_cases skipped
  unfold skipHeader
  simp only [takeBytes_append took, bind, Except.bind, known]
  simp only [skipIf_append skipExtra_append extra,
    skipIf_append skipField_append name, skipIf_append skipField_append comment]
  exact skipIf_append skipHeaderChecksum_append sum

theorem checkTrailer_append
    {data : Bytes} (checked : checkTrailer data bytes = .ok rest) :
    checkTrailer data (bytes ++ tail) = .ok (rest ++ tail) := by
  obtain ⟨⟨sum, behind⟩, tookSum, checked⟩ := exists_ok_of_bind checked
  obtain ⟨⟨length, behind⟩, tookLength, done⟩ := exists_ok_of_bind checked
  unfold checkTrailer
  simp only [takeBytes_append tookSum, takeBytes_append tookLength, bind,
    Except.bind]
  simp only at done
  split at done
  · rename_i same
    cases done
    rw [if_pos same]
    rfl
  · cases done

theorem readMember_append
    {data : Bytes} (read : readMember bytes = .ok (data, rest)) :
    readMember (bytes ++ tail) = .ok (data, rest ++ tail) := by
  obtain ⟨body, skipped, read⟩ := exists_ok_of_bind read
  obtain ⟨⟨data, trailer⟩, inflated, read⟩ := exists_ok_of_bind read
  obtain ⟨rest, checked, done⟩ := exists_ok_of_bind read
  cases done
  unfold readMember
  simp only [skipHeader_append skipped, inflate_append inflated tail,
    checkTrailer_append checked, bind, Except.bind]
  rfl

/-- Bytes that are one member and nothing else, and the data in it. -/
def IsMember (member data : Bytes) : Prop :=
  readMember member = .ok (data, [])

theorem IsMember.decompress_append
    {member data : Bytes} (whole : IsMember member data) (tail : Bytes) :
    decompress (member ++ tail) = .ok data := by
  rw [decompress, readMember_append whole]
  rfl

theorem magic_prefix_of_isKnownHeader
    {fixed : Bytes} (known : isKnownHeader fixed = true) :
    magic <+: fixed := by
  unfold isKnownHeader at known
  split at known
  · rename_i first second method flags behind
    simp only [Bool.and_eq_true, decide_eq_true_iff] at known
    rw [← known.1.1]
    exact ⟨method :: flags :: behind, rfl⟩
  · cases known

theorem IsMember.magic_prefix
    {member data : Bytes} (whole : IsMember member data) :
    magic <+: member := by
  obtain ⟨body, skipped, -⟩ := exists_ok_of_bind whole
  obtain ⟨fixed, first, -, -, -, took, known, -⟩ := skipHeader_cases skipped
  unfold takeBytes at took
  split at took
  · cases took
    exact (magic_prefix_of_isKnownHeader known).trans (List.take_prefix _ _)
  · cases took

end CsrCensus.Gzip

namespace CsrCensus.Image

open Gzip

theorem ofFile_member_append
    (path : String) {member data : Bytes} (whole : IsMember member data)
    (tail : Bytes) :
    ofFile path (member ++ tail) = .ok data := by
  have compressed : isCompressed path (member ++ tail) = true := by
    rw [isCompressed, Bool.or_eq_true, List.isPrefixOf_iff_prefix]
    exact .inr (whole.magic_prefix.trans (List.prefix_append _ _))
  rw [ofFile, if_pos compressed, whole.decompress_append]

/-- The image in a file of several members is what the first of them holds. So
the image is whole exactly if the other members hold nothing. -/
theorem ofFile_members (path : String) {members contents : List Bytes}
    (whole : List.Forall₂ IsMember members contents) (nonempty : members ≠ []) :
    ∃ first later,
      contents = first :: later ∧ ofFile path members.flatten = .ok first ∧
        (ofFile path members.flatten = .ok contents.flatten ↔
          ∀ data ∈ later, data = []) := by
  cases whole with
  | nil => exact absurd rfl nonempty
  | cons isMember others =>
      rename_i member first rest later
      have read : ofFile path (member :: rest).flatten = .ok first := by
        rw [List.flatten_cons]
        exact ofFile_member_append path isMember _
      refine ⟨first, later, rfl, read, ?_⟩
      rw [read, Except.ok.injEq, List.flatten_cons, List.self_eq_append_right,
        List.flatten_eq_nil_iff]

/-- A member with the word of an environment call. -/
def callMember : Bytes :=
  [0x1F, 0x8B, 8, 0, 0, 0, 0, 0, 0, 0xFF] ++
    [1, 4, 0, 0xFB, 0xFF, 0x00, 0x00, 0x00, 0x73] ++
    [0x9A, 0xFF, 0x48, 0xE8, 4, 0, 0, 0]

/-- A member, with a name, with the word of an access to a CSR. -/
def accessMember : Bytes :=
  [0x1F, 0x8B, 8, 8, 0, 0, 0, 0, 0, 0xFF, 0x62, 0] ++
    [1, 4, 0, 0xFB, 0xFF, 0xF1, 0x40, 0x25, 0x73] ++
    [0x7F, 0xD3, 0xFB, 0x4E, 4, 0, 0, 0]

theorem isMember_callMember : IsMember callMember [0x00, 0x00, 0x00, 0x73] := by
  unfold IsMember
  decide +kernel

theorem isMember_accessMember :
    IsMember accessMember [0xF1, 0x40, 0x25, 0x73] := by
  unfold IsMember
  decide +kernel

theorem members_two :
    List.Forall₂ IsMember [callMember, accessMember]
      [[0x00, 0x00, 0x00, 0x73], [0xF1, 0x40, 0x25, 0x73]] :=
  .cons isMember_callMember (.cons isMember_accessMember .nil)

theorem ofFile_members_two :
    List.Forall₂ IsMember [callMember, accessMember]
        [[0x00, 0x00, 0x00, 0x73], [0xF1, 0x40, 0x25, 0x73]] ∧
      [callMember, accessMember] ≠ [] ∧
      ofFile "image.gz" [callMember, accessMember].flatten =
        .ok [0x00, 0x00, 0x00, 0x73] := by
  obtain ⟨first, later, contents, read, -⟩ :=
    ofFile_members "image.gz" members_two (List.cons_ne_nil _ _)
  cases contents
  exact ⟨members_two, List.cons_ne_nil _ _, read⟩

/-- The second of two members is dropped, and nothing is said about it. -/
theorem ofFile_drops_second_member :
    List.Forall₂ IsMember [callMember, accessMember]
        [[0x00, 0x00, 0x00, 0x73], [0xF1, 0x40, 0x25, 0x73]] ∧
      ofFile "image.gz" [callMember, accessMember].flatten ≠
        .ok [[0x00, 0x00, 0x00, 0x73], [0xF1, 0x40, 0x25, 0x73]].flatten := by
  refine ⟨members_two, ?_⟩
  rw [List.flatten_cons, ofFile_member_append "image.gz" isMember_callMember]
  intro same
  exact absurd (Except.ok.inj same) (by decide)

end CsrCensus.Image
