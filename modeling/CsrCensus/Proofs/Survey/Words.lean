import CsrCensus.Census.Survey

/-!
# The words of some bytes

The words at the indices `0`, `1`, ... of some bytes, with their addresses. A
survey reads these words, one after the other, and holds the bytes behind the
last of them.
-/

namespace CsrCensus.Surveyor

/-- The four bytes from `4 * index` on, as a word. -/
def wordAt (order : ByteOrder) (bytes : Bytes) (index : Nat) : Word :=
  order.word (bytes.getD (4 * index) 0) (bytes.getD (4 * index + 1) 0)
    (bytes.getD (4 * index + 2) 0) (bytes.getD (4 * index + 3) 0)

/-- The address of the word at an index. Addresses wrap at `2 ^ 64`. -/
def addressAt (base : UInt64) (index : Nat) : UInt64 :=
  base + UInt64.ofNat (4 * index)

/-- The whole words of some bytes, each with its address. -/
def addressedWords (order : ByteOrder) (base : UInt64) (bytes : Bytes) :
    List (UInt64 × Word) :=
  (List.range (bytes.length / 4)).map fun index =>
    (addressAt base index, wordAt order bytes index)

@[simp]
theorem addressAt_zero (base : UInt64) : addressAt base 0 = base := by
  simp [addressAt]

theorem addressAt_succ (base : UInt64) (index : Nat) :
    addressAt base (index + 1) = addressAt (base + 4) index := by
  unfold addressAt
  rw [Nat.mul_add, Nat.add_comm, UInt64.ofNat_add, ← UInt64.add_assoc]
  rfl

theorem addressedWords_of_short
    (order : ByteOrder) (base : UInt64) {bytes : Bytes}
    (short : bytes.length < 4) :
    addressedWords order base bytes = [] := by
  simp [addressedWords, Nat.div_eq_of_lt short]

theorem addressedWords_cons
    (order : ByteOrder) (base : UInt64) (first second third fourth : UInt8)
    (rest : Bytes) :
    addressedWords order base (first :: second :: third :: fourth :: rest) =
      (base, order.word first second third fourth) ::
        addressedWords order (base + 4) rest := by
  have count :
      (first :: second :: third :: fourth :: rest).length / 4 =
        rest.length / 4 + 1 := by
    simp only [List.length_cons]
    omega
  unfold addressedWords
  rw [count, List.range_succ_eq_map, List.map_cons, List.map_map]
  congr 1
  · simp [wordAt]
  · apply List.map_congr_left
    intro index _
    simp [Function.comp, addressAt_succ, wordAt, Nat.mul_add]

theorem length_held (bytes : Bytes) :
    (bytes.drop (4 * (bytes.length / 4))).length = bytes.length % 4 := by
  rw [List.length_drop]
  omega

theorem held_eq_nil_iff {bytes : Bytes} :
    bytes.drop (4 * (bytes.length / 4)) = [] ↔ bytes.length % 4 = 0 := by
  rw [← List.length_eq_zero_iff, length_held]

/-- Reading whole words reads the addressed words and holds the rest. -/
theorem readWords_eq (surveyor : Surveyor) :
    ∀ (census : Census) (base : UInt64) (bytes : Bytes),
      surveyor.readWords census base bytes =
        { census :=
            (addressedWords surveyor.order base bytes).foldl
              (fun census place => surveyor.readWord census place.1 place.2)
              census
          offset := addressAt base (bytes.length / 4)
          held := bytes.drop (4 * (bytes.length / 4)) }
  | census, base, first :: second :: third :: fourth :: rest => by
      have count : (rest.length + 1 + 1 + 1 + 1) / 4 = rest.length / 4 + 1 := by
        omega
      rw [readWords, readWords_eq surveyor, addressedWords_cons]
      simp [count, addressAt_succ, Nat.mul_add]
  | census, base, [first, second, third] => by
      simp [readWords, addressedWords_of_short]
  | census, base, [first, second] => by
      simp [readWords, addressedWords_of_short]
  | census, base, [first] => by
      simp [readWords, addressedWords_of_short]
  | census, base, [] => by
      simp [readWords, addressedWords_of_short]

end CsrCensus.Surveyor
