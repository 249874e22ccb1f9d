import CsrCensus.Word.Order

/-!
# Reading bits

Compressed data are read bit by bit, each byte from its least significant bit
on. A read past the end is a fault.
-/

namespace CsrCensus.Gzip

/-- Why a file cannot be inflated. -/
inductive Fault where
  /-- The file ends inside the header or the trailer. -/
  | truncated
  | invalidHeader
  | fieldTooLong
  | checksum
  /-- The file ends inside the compressed data. -/
  | truncatedData
  | corruptData
deriving DecidableEq, Repr

/-- The wording of a fault. -/
def Fault.message : Fault → String
  | .truncated => "unexpected end of file"
  | .invalidHeader => "invalid gzip header"
  | .fieldTooLong => "gzip header field too long"
  | .checksum => "corrupt gzip stream does not have a matching checksum"
  | .truncatedData => "incomplete deflate stream"
  | .corruptData => "corrupt deflate stream"

/-- Compressed data not yet read. -/
structure Source where
  /-- The bits of the byte that was begun. -/
  pending : List Bool
  /-- The bytes after it. -/
  rest : Bytes
deriving DecidableEq, Repr

/-- Number of bits not yet read. -/
def Source.size (source : Source) : Nat :=
  source.pending.length + 8 * source.rest.length

/-- A computation that reads compressed data. -/
abbrev Reader := StateT Source (Except Fault)

/-- The bits of a byte after its least significant one. -/
def upperBits (byte : UInt8) : List Bool :=
  [1, 2, 3, 4, 5, 6, 7].map byte.toNat.testBit

def readBit : Reader Bool := fun source =>
  match source.pending with
  | bit :: pending => .ok (bit, ⟨pending, source.rest⟩)
  | [] =>
      match source.rest with
      | byte :: rest => .ok (byte.toNat.testBit 0, ⟨upperBits byte, rest⟩)
      | [] => .error .truncatedData

/-- Reads a number of `count` bits, the least significant bit first. -/
def readBits : Nat → Reader Nat
  | 0 => return 0
  | count + 1 => do
      let bit ← readBit
      let upper ← readBits count
      return bit.toNat + 2 * upper

/-- Skips the rest of the byte that was begun. -/
def alignToByte : Reader Unit := fun source => .ok ((), ⟨[], source.rest⟩)

def readBytes (count : Nat) : Reader Bytes := fun source =>
  if count ≤ source.rest.length then
    .ok (source.rest.take count, ⟨[], source.rest.drop count⟩)
  else .error .truncatedData

end CsrCensus.Gzip
