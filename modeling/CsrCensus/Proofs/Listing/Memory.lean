import CsrCensus.Proofs.Listing.Lines
import Mathlib.Algebra.Group.Nat.Defs
import Mathlib.Logic.Function.Basic

/-!
# Filling a memory from a listing

A listing is replayed by storing the four bytes of every line, in order, at the
address of the line and behind it. A word is stored in the bytes that it was
assembled from, so the lines of a region store its bytes, filled up with zeros
to whole words.
-/

namespace CsrCensus.ByteOrder

private theorem bytes_of_shifts (first second third fourth : UInt8) :
    let word :=
      first.toUInt32 <<< 24 ||| second.toUInt32 <<< 16 |||
        third.toUInt32 <<< 8 ||| fourth.toUInt32
    word.toUInt8 = fourth ∧ (word >>> 8).toUInt8 = third ∧
      (word >>> 16).toUInt8 = second ∧
      (word >>> 24).toUInt8 = first := by
  intro word
  refine ⟨?_, ?_, ?_, ?_⟩ <;>
    -- Of the four shifted bytes, only one has bits at these positions.
    · apply UInt8.toBitVec_inj.mp
      apply BitVec.eq_of_getLsbD_eq
      intro index low
      simp [word, BitVec.getLsbD_shiftLeft, BitVec.getLsbD_of_ge, low] <;> grind

theorem bytes_word (order : ByteOrder) (first second third fourth : UInt8) :
    order.bytes (order.word first second third fourth) =
      [first, second, third, fourth] := by
  cases order with
  | big =>
      obtain ⟨zero, one, two, three⟩ :=
        bytes_of_shifts first second third fourth
      simp only [bytes, word, zero, one, two, three]
      rfl
  | little =>
      obtain ⟨zero, one, two, three⟩ :=
        bytes_of_shifts fourth third second first
      simp only [bytes, word, zero, one, two, three]

end CsrCensus.ByteOrder

namespace CsrCensus.Listing

/-- A memory of bytes; an address at which nothing was stored has none. -/
abbrev Memory := UInt64 → Option UInt8

namespace Memory

/-- Stores bytes one behind the other. Addresses wrap at `2 ^ 64`. -/
def storeBytes (memory : Memory) (base : UInt64) : Bytes → Memory
  | [] => memory
  | first :: rest =>
      storeBytes (Function.update memory base (some first)) (base + 1) rest

/-- Stores the four bytes of a line. -/
def storeLine (order : ByteOrder) (memory : Memory) (line : Line) : Memory :=
  memory.storeBytes line.address (order.bytes line.value)

/-- Stores the lines of a listing in order. -/
def storeLines (order : ByteOrder) (memory : Memory) (lines : List Line) :
    Memory :=
  lines.foldl (storeLine order) memory

theorem storeLines_cons
    (order : ByteOrder) (memory : Memory) (line : Line) (rest : List Line) :
    memory.storeLines order (line :: rest) =
      (memory.storeLine order line).storeLines order rest :=
  rfl

theorem storeBytes_append :
    ∀ (bytes more : Bytes) (memory : Memory) (base : UInt64),
      memory.storeBytes base (bytes ++ more) =
        (memory.storeBytes base bytes).storeBytes
          (base + UInt64.ofNat bytes.length) more
  | [], more, memory, base => by simp [storeBytes]
  | first :: rest, more, memory, base => by
      have next :
          base + 1 + UInt64.ofNat rest.length =
            base + UInt64.ofNat (rest.length + 1) := by
        rw [UInt64.ofNat_add, UInt64.add_assoc, UInt64.add_comm 1]
        rfl
      rw [List.cons_append, storeBytes, storeBytes_append rest more, storeBytes,
        next, List.length_cons]

private theorem toNat_sub_self_add_one (address : UInt64) :
    (address - (address + 1)).toNat = 2 ^ 64 - 1 := by
  have bound := address.toNat_lt
  rw [UInt64.toNat_sub, UInt64.toNat_add, UInt64.toNat_one]
  omega

private theorem toNat_sub_of_ne
    {address base : UInt64} (different : address ≠ base) :
    (address - base).toNat = (address - (base + 1)).toNat + 1 := by
  have apart : address.toNat ≠ base.toNat :=
    fun equal => different (UInt64.toNat_inj.mp equal)
  have addressBound := address.toNat_lt
  have baseBound := base.toNat_lt
  rw [UInt64.toNat_sub, UInt64.toNat_sub, UInt64.toNat_add, UInt64.toNat_one]
  omega

/-- Storing bytes changes the addresses behind the base, as many as there are
bytes. -/
theorem storeBytes_apply :
    ∀ (bytes : Bytes) (memory : Memory) (base address : UInt64),
      bytes.length ≤ 2 ^ 64 →
      memory.storeBytes base bytes address =
        if (address - base).toNat < bytes.length then
          bytes[(address - base).toNat]?
        else memory address
  | [], memory, base, address, _ => by simp [storeBytes]
  | first :: rest, memory, base, address, short => by
      rw [List.length_cons] at short
      have later :=
        storeBytes_apply rest (Function.update memory base (some first))
          (base + 1) address
          (by omega)
      rw [storeBytes, later]
      by_cases same : address = base
      · subst same
        rw [toNat_sub_self_add_one, if_neg (by omega), Function.update_self,
          UInt64.sub_self]
        simp
      · rw [Function.update_of_ne same, toNat_sub_of_ne same]
        simp

private theorem storeLine_word
    (order : ByteOrder) (memory : Memory) (address : UInt64)
    (first second third fourth : UInt8) :
    memory.storeLine order ⟨address, order.word first second third fourth⟩ =
      memory.storeBytes address [first, second, third, fourth] := by
  rw [storeLine, order.bytes_word]

/-- The lines of a region store its bytes, filled up with zeros. -/
theorem storeLines_ofBytes (order : ByteOrder) :
    ∀ (bytes : Bytes) (memory : Memory) (base : UInt64),
      memory.storeLines order (ofBytes order base bytes) =
        memory.storeBytes base (padded bytes)
  | first :: second :: third :: fourth :: rest, memory, base => by
      have later := storeLines_ofBytes order rest
      rw [ofBytes_cons, storeLines_cons, later, storeLine_word, padded_cons]
      exact
        (storeBytes_append [first, second, third, fourth] (padded rest) memory
          base).symm
  | [first, second, third], memory, base => by
      have filled :
          padded [first, second, third] = [first, second, third, 0] := by
        simp [padded]
      rw [filled, ← storeLine_word order]
      rfl
  | [first, second], memory, base => by
      have filled : padded [first, second] = [first, second, 0, 0] := by
        simp [padded]
      rw [filled, ← storeLine_word order]
      rfl
  | [first], memory, base => by
      have filled : padded [first] = [first, 0, 0, 0] := by simp [padded]
      rw [filled, ← storeLine_word order]
      rfl
  | [], _, _ => rfl

theorem storeLines_append
    (order : ByteOrder) (memory : Memory) (lines more : List Line) :
    memory.storeLines order (lines ++ more) =
      (memory.storeLines order lines).storeLines order more :=
  List.foldl_append

/-- A region whose words fit in the address space can be read back from its base
on. -/
theorem storeLines_ofBytes_inside
    (order : ByteOrder) (memory : Memory) (base : UInt64) {bytes : Bytes}
    (fits : 4 * ((bytes.length + 3) / 4) ≤ 2 ^ 64) {index : Nat}
    (inside : index < bytes.length) :
    memory.storeLines order (ofBytes order base bytes)
      (base + UInt64.ofNat index) =
      some bytes[index] := by
  have small : index < 2 ^ 64 := by omega
  have distance : (base + UInt64.ofNat index - base).toNat = index := by
    rw [UInt64.add_comm, UInt64.add_sub_cancel]
    exact UInt64.toNat_ofNat_of_lt' small
  rw [storeLines_ofBytes,
    storeBytes_apply _ _ _ _ (by rw [length_padded]; exact fits), distance,
    length_padded, if_pos (by omega), getElem?_padded inside,
    List.getElem?_eq_getElem inside]

/-- Addresses below a region are left alone if its words do not wrap. -/
theorem storeLines_ofBytes_below
    (order : ByteOrder) (memory : Memory) {base address : UInt64}
    {bytes : Bytes}
    (fits : base.toNat + 4 * ((bytes.length + 3) / 4) ≤ 2 ^ 64)
    (below : address.toNat < base.toNat) :
    memory.storeLines order (ofBytes order base bytes) address =
      memory address := by
  have bound := base.toNat_lt
  have distance : ¬ (address - base).toNat < 4 * ((bytes.length + 3) / 4) := by
    rw [UInt64.toNat_sub]
    omega
  rw [storeLines_ofBytes,
    storeBytes_apply _ _ _ _ (by rw [length_padded]; omega), length_padded,
    if_neg distance]

end Memory

end CsrCensus.Listing
