import CsrCensus.Image.Format
import CsrCensus.Text.Numeral

/-!
# Listings

A listing gives the value of every word of a region with its address, one word a
line. A last incomplete word is filled up with zero bytes, so that no byte of
the region is left out.
-/

namespace CsrCensus.Listing

/-- A word and its address. -/
structure Line where
  address : UInt64
  value : Word
deriving DecidableEq, Repr

/-- The text of a line, with its line feed. -/
def Line.text (line : Line) : String :=
  "0x" ++ Numeral.word.text line.address.toNat ++
    " 0x" ++ Numeral.word.text line.value.toNat ++ "\n"

def appendLines (order : ByteOrder) (made : Array Line) (address : UInt64) :
    Bytes → Array Line
  | first :: second :: third :: fourth :: rest =>
      let line : Line := ⟨address, order.word first second third fourth⟩
      appendLines order (made.push line) (address + 4) rest
  | [first, second, third] =>
      made.push ⟨address, order.word first second third 0⟩
  | [first, second] => made.push ⟨address, order.word first second 0 0⟩
  | [first] => made.push ⟨address, order.word first 0 0 0⟩
  | [] => made

/-- The lines of the bytes from one address on. Addresses wrap at `2 ^ 64`. -/
def ofBytes (order : ByteOrder) (base : UInt64) (bytes : Bytes) : List Line :=
  (appendLines order #[] base bytes).toList

/-- The lines of several regions, each from its own base. -/
def ofRegions (order : ByteOrder) (regions : List Image.Region) : List Line :=
  regions.flatMap fun region => ofBytes order region.base region.bytes

def text (lines : List Line) : String :=
  String.join (lines.map Line.text)

end CsrCensus.Listing
