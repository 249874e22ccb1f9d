import CsrCensus.Proofs.Listing.Lines
import CsrCensus.Proofs.Survey.Words
import Mathlib.Data.List.GetD

/-!
# The words of a listing

A listing shows the word at every index of the bytes. The last of these words
may reach behind the bytes; it is filled up with zeros.
-/

namespace CsrCensus.Listing

open Surveyor

theorem getD_padded (bytes : Bytes) (index : Nat) :
    (padded bytes).getD index 0 = bytes.getD index 0 := by
  unfold padded
  by_cases inside : index < bytes.length
  · rw [List.getD_append _ _ _ _ inside]
  · have zeros (count position : Nat) :
      (List.replicate count (0 : UInt8)).getD position 0 = 0 := by
      simp
    rw [List.getD_append_right _ _ _ _ (by omega),
      List.getD_eq_default bytes _ (by omega), zeros]

theorem wordAt_padded (order : ByteOrder) (bytes : Bytes) (index : Nat) :
    wordAt order (padded bytes) index = wordAt order bytes index := by
  simp only [wordAt, getD_padded]

/-- A listing shows the words of the bytes filled up with zeros. -/
theorem ofBytes_eq_map (order : ByteOrder) :
    ∀ (base : UInt64) (bytes : Bytes),
      ofBytes order base bytes =
        (addressedWords order base (padded bytes)).map fun place =>
          ⟨place.1, place.2⟩
  | base, first :: second :: third :: fourth :: rest => by
      rw [ofBytes_cons, padded_cons, addressedWords_cons,
        ofBytes_eq_map order (base + 4) rest, List.map_cons]
  | base, [first, second, third] => by
      have filled :
          padded [first, second, third] = [first, second, third, 0] := by
        simp [padded]
      rw [filled, addressedWords_cons, addressedWords_of_short _ _ (by decide)]
      rfl
  | base, [first, second] => by
      have filled : padded [first, second] = [first, second, 0, 0] := by
        simp [padded]
      rw [filled, addressedWords_cons, addressedWords_of_short _ _ (by decide)]
      rfl
  | base, [first] => by
      have filled : padded [first] = [first, 0, 0, 0] := by simp [padded]
      rw [filled, addressedWords_cons, addressedWords_of_short _ _ (by decide)]
      rfl
  | base, [] => rfl

theorem length_ofBytes (order : ByteOrder) (base : UInt64) (bytes : Bytes) :
    (ofBytes order base bytes).length = (bytes.length + 3) / 4 := by
  rw [ofBytes_eq_map, addressedWords, length_padded, List.length_map,
    List.length_map, List.length_range, Nat.mul_div_cancel_left _ (by decide)]

/-- The line of the word at an index. -/
theorem mem_ofBytes
    (order : ByteOrder) (base : UInt64) {bytes : Bytes} {index : Nat}
    (inside : index < (bytes.length + 3) / 4) :
    ⟨addressAt base index, wordAt order bytes index⟩ ∈
      ofBytes order base bytes := by
  rw [ofBytes_eq_map, addressedWords, length_padded, List.map_map]
  refine List.mem_map.mpr ⟨index, List.mem_range.mpr (by omega), ?_⟩
  rw [Function.comp_apply, wordAt_padded]

end CsrCensus.Listing
