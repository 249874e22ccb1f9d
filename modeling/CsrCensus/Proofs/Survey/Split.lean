import CsrCensus.Proofs.Survey.Words
import Mathlib.Algebra.Group.Nat.Defs

/-!
# Bytes in two parts

A survey of some bytes may be cut in two behind a whole word: the second part
goes on where the first one ended. A cut inside a word shows, since the bytes in
front of it are recorded as a remainder there.
-/

namespace CsrCensus.Surveyor

/-- Reading goes on with the bytes held. -/
theorem readWords_append (surveyor : Surveyor) (second : Bytes) :
    ∀ (census : Census) (base : UInt64) (first : Bytes),
      surveyor.readWords census base (first ++ second) =
        let progress := surveyor.readWords census base first
        surveyor.readWords progress.census progress.offset
          (progress.held ++ second)
  | _, _, _ :: _ :: _ :: _ :: rest => readWords_append surveyor second _ _ rest
  | _, _, [_, _, _] => rfl
  | _, _, [_, _] => rfl
  | _, _, [_] => rfl
  | _, _, [] => rfl

theorem surveyBytes_append_of_whole
    (surveyor : Surveyor) (census : Census) (base : UInt64) {first : Bytes}
    (whole : first.length % 4 = 0) (second : Bytes) :
    surveyor.surveyBytes census base (first ++ second) =
      surveyor.surveyBytes (surveyor.surveyBytes census base first)
        (base + UInt64.ofNat first.length) second := by
  have length : 4 * (first.length / 4) = first.length := by omega
  have next :
      addressAt base (first.length / 4) = base + UInt64.ofNat first.length := by
    rw [addressAt, length]
  unfold surveyBytes
  rw [readWords_append, readWords_eq surveyor census base first,
    held_eq_nil_iff.mpr whole, next]
  rfl

@[simp]
theorem remainders_readWord
    (surveyor : Surveyor) (census : Census) (offset : UInt64) (word : Word) :
    (surveyor.readWord census offset word).remainders = census.remainders := by
  unfold readWord
  split <;> rfl

theorem remainders_readWords (surveyor : Surveyor) :
    ∀ (census : Census) (base : UInt64) (bytes : Bytes),
      (surveyor.readWords census base bytes).census.remainders =
        census.remainders
  | census, base, first :: second :: third :: fourth :: rest => by
      rw [readWords, remainders_readWords surveyor, remainders_readWord]
  | _, _, [_, _, _] => rfl
  | _, _, [_, _] => rfl
  | _, _, [_] => rfl
  | _, _, [] => rfl

theorem remainders_finish (progress : Progress) :
    progress.finish.remainders.toList =
      progress.census.remainders.toList ++
        if progress.held = [] then []
        else [⟨progress.offset, progress.held.length⟩] := by
  obtain ⟨census, offset, held⟩ := progress
  cases held <;> simp [Progress.finish, Census.recordRemainder]

/-- The incomplete word that some bytes end with. -/
theorem remainders_surveyBytes
    (surveyor : Surveyor) (census : Census) (base : UInt64) (bytes : Bytes) :
    (surveyor.surveyBytes census base bytes).remainders.toList =
      census.remainders.toList ++
        if bytes.length % 4 = 0 then []
        else [⟨addressAt base (bytes.length / 4), bytes.length % 4⟩] := by
  rw [surveyBytes, remainders_finish, remainders_readWords, readWords_eq]
  simp only [held_eq_nil_iff, length_held]

/-- Different words have different addresses, unless they are a whole address
space apart. -/
theorem addressAt_injective_of_lt
    {base : UInt64} {left right : Nat} (leftInside : 4 * left < 2 ^ 64)
    (rightInside : 4 * right < 2 ^ 64)
    (same : addressAt base left = addressAt base right) :
    left = right := by
  have offsets := congrArg UInt64.toNat ((UInt64.add_right_inj base).mp same)
  rw [UInt64.toNat_ofNat_of_lt' leftInside,
    UInt64.toNat_ofNat_of_lt' rightInside] at offsets
  omega

/-- A cut inside a word shows among the remainders. -/
theorem remainders_surveyBytes_append_ne
    (surveyor : Surveyor) (census : Census) (base next : UInt64)
    {first second : Bytes} (broken : first.length % 4 ≠ 0)
    (nonempty : second ≠ []) (inside : first.length + second.length < 2 ^ 64) :
    (surveyor.surveyBytes census base (first ++ second)).remainders ≠
      (surveyor.surveyBytes (surveyor.surveyBytes census base first)
        next second).remainders := by
  intro same
  have length : 0 < second.length := List.length_pos_iff.mpr nonempty
  have lists := congrArg Array.toList same
  rw [remainders_surveyBytes, remainders_surveyBytes, remainders_surveyBytes,
    if_neg broken, List.append_assoc, List.length_append] at lists
  have ends := List.append_cancel_left lists
  by_cases rest : second.length % 4 = 0
  · -- One remainder each: that of the first part lies before that of the whole.
    have incomplete : (first.length + second.length) % 4 ≠ 0 := by omega
    rw [if_pos rest, if_neg incomplete] at ends
    have places := congrArg Remainder.offset (List.cons.inj ends).1
    have words := addressAt_injective_of_lt (by omega) (by omega) places
    omega
  · -- Two remainders, but never more than one of the whole.
    have lengths := congrArg List.length ends
    rw [if_neg rest] at lengths
    split at lengths <;> simp at lengths

/-- A survey of some bytes is a survey of a first part, continued over the
second one, if the cut is between two words. If it is inside a word, the census
is another one. -/
theorem surveyBytes_append
    (surveyor : Surveyor) (census : Census) (base : UInt64)
    (first second : Bytes) :
    (first.length % 4 = 0 →
        surveyor.surveyBytes census base (first ++ second) =
          surveyor.surveyBytes (surveyor.surveyBytes census base first)
            (base + UInt64.ofNat first.length) second) ∧
      (first.length % 4 ≠ 0 → second ≠ [] →
        first.length + second.length < 2 ^ 64 →
        surveyor.surveyBytes census base (first ++ second) ≠
          surveyor.surveyBytes (surveyor.surveyBytes census base first)
            (base + UInt64.ofNat first.length) second) := by
  constructor
  · intro whole
    exact surveyBytes_append_of_whole surveyor census base whole second
  · intro broken nonempty inside same
    exact
      remainders_surveyBytes_append_ne surveyor census base _ broken
        nonempty inside
        (congrArg Census.remainders same)

/-- An environment call in the last word of the address space, and three bytes
of another one. -/
theorem surveyBytes_append_wrapping :
    let surveyor : Surveyor := ⟨Csr.Table.blank, .big⟩
    let call : Bytes := [0x00, 0x00, 0x00, 0x73]
    surveyor.surveyBytes Census.empty 0xFFFFFFFFFFFFFFFC
      (call ++ [0x00, 0x00, 0x00]) =
        surveyor.surveyBytes
          (surveyor.surveyBytes Census.empty 0xFFFFFFFFFFFFFFFC call) 0
          [0x00, 0x00, 0x00] ∧
      surveyor.surveyBytes Census.empty 0xFFFFFFFFFFFFFFFC
        ([0x00, 0x00, 0x00] ++ call) ≠
        surveyor.surveyBytes
          (surveyor.surveyBytes Census.empty 0xFFFFFFFFFFFFFFFC
            [0x00, 0x00, 0x00])
          0xFFFFFFFFFFFFFFFF call := by
  intro surveyor call
  let part : Bytes := [0x00, 0x00, 0x00]
  have wrapped :
      (0xFFFFFFFFFFFFFFFC : UInt64) + UInt64.ofNat call.length = 0 := by
    decide
  have between :
      (0xFFFFFFFFFFFFFFFC : UInt64) + UInt64.ofNat part.length =
        0xFFFFFFFFFFFFFFFF := by
    decide
  have whole :=
    (surveyBytes_append surveyor Census.empty 0xFFFFFFFFFFFFFFFC call part).1
      (by decide)
  have broken :=
    (surveyBytes_append surveyor Census.empty 0xFFFFFFFFFFFFFFFC part call).2
      (by decide) (by decide) (by decide)
  rw [wrapped] at whole
  rw [between] at broken
  exact ⟨whole, broken⟩

end CsrCensus.Surveyor
