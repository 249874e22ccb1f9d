/-!
# Byte order

A 32-bit word and its four bytes, in either order. `ByteOrder.word` and
`ByteOrder.bytes` are inverse to each other; `ByteOrder.natural` reads a number
of any width.
-/

namespace CsrCensus

/-- A 32-bit machine word. -/
abbrev Word := UInt32

/-- A sequence of bytes. -/
abbrev Bytes := List UInt8

/-- The order in which the bytes of a number are stored. -/
inductive ByteOrder where
  /-- Most significant byte first. -/
  | big
  /-- Least significant byte first. -/
  | little
deriving DecidableEq, Repr

namespace ByteOrder

def word (order : ByteOrder) (first second third fourth : UInt8) : Word :=
  match order with
  | .big =>
      first.toUInt32 <<< 24 ||| second.toUInt32 <<< 16 |||
        third.toUInt32 <<< 8 ||| fourth.toUInt32
  | .little =>
      fourth.toUInt32 <<< 24 ||| third.toUInt32 <<< 16 |||
        second.toUInt32 <<< 8 ||| first.toUInt32

/-- The four bytes in which a word is stored. -/
def bytes (order : ByteOrder) (word : Word) : Bytes :=
  let ascending :=
    [word.toUInt8, (word >>> 8).toUInt8, (word >>> 16).toUInt8,
      (word >>> 24).toUInt8]
  match order with
  | .big => ascending.reverse
  | .little => ascending

/-- The number stored in a byte sequence of any width. -/
def natural (order : ByteOrder) (stored : Bytes) : Nat :=
  match order with
  | .big => stored.foldl (fun value byte => value * 256 + byte.toNat) 0
  | .little => stored.foldr (fun byte value => value * 256 + byte.toNat) 0

end ByteOrder

end CsrCensus
