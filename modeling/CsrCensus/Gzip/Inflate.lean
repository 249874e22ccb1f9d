import CsrCensus.Gzip.PrefixCode

/-!
# Inflating

The deflate format: blocks of stored bytes, or of literals and references to
earlier output under a fixed or a transmitted prefix code.
-/

namespace CsrCensus.Gzip

/-- Least length and number of extra bits of the length symbols from 257 on. -/
def lengthCodes : List (Nat × Nat) :=
  [ (3, 0), (4, 0), (5, 0), (6, 0), (7, 0), (8, 0), (9, 0), (10, 0),
    (11, 1), (13, 1), (15, 1), (17, 1), (19, 2), (23, 2), (27, 2), (31, 2),
    (35, 3), (43, 3), (51, 3), (59, 3), (67, 4), (83, 4), (99, 4), (115, 4),
    (131, 5), (163, 5), (195, 5), (227, 5), (258, 0) ]

/-- Least distance and number of extra bits of the distance symbols. -/
def distanceCodes : List (Nat × Nat) :=
  [ (1, 0), (2, 0), (3, 0), (4, 0), (5, 1), (7, 1), (9, 2), (13, 2),
    (17, 3), (25, 3), (33, 4), (49, 4), (65, 5), (97, 5), (129, 6), (193, 6),
    (257, 7), (385, 7), (513, 8), (769, 8), (1025, 9), (1537, 9), (2049, 10),
    (3073, 10),
    (4097, 11), (6145, 11), (8193, 12), (12289, 12), (16385, 13), (24577, 13) ]

/-- Reads the extra bits of a length or distance. -/
def readValue (codes : List (Nat × Nat)) (index : Nat) : Reader Nat :=
  match codes[index]? with
  | none => throw .corruptData
  | some (least, extra) => do
      return least + (← readBits extra)

/-- Appends `count` bytes, each the one `distance` bytes before it. Before the
first byte of the output there are zeros. -/
def copyBack (output : Array UInt8) (distance : Nat) : Nat → Array UInt8
  | 0 => output
  | count + 1 =>
      let byte :=
        if distance ≤ output.size then output.getD (output.size - distance) 0
        else 0
      copyBack (output.push byte) distance count

/-- The symbol that ends a block. -/
def endOfBlock : Nat := 256

/-- Reads literals and references up to the end of a block. The first argument
bounds their number. -/
def readSymbols (literals distances : CodeTree) :
    Nat → Array UInt8 → Reader (Array UInt8)
  | 0, _ => throw .truncatedData
  | bound + 1, output => do
      let symbol ← literals.read
      if symbol < endOfBlock then
        readSymbols literals distances bound (output.push symbol.toUInt8)
      else if symbol = endOfBlock then return output
      else
        let length ← readValue lengthCodes (symbol - (endOfBlock + 1))
        let distance ← readValue distanceCodes (← distances.read)
        readSymbols literals distances bound (copyBack output distance length)

/-- Reads symbols under two codes. Every symbol takes a bit at least. -/
def readCoded (literals distances : CodeTree) (output : Array UInt8) :
    Reader (Array UInt8) := do
  readSymbols literals distances ((← get).size + 1) output

/-- Reads a block of stored bytes. -/
def readStored (output : Array UInt8) : Reader (Array UInt8) := do
  alignToByte
  let count := ByteOrder.little.natural (← readBytes 2)
  let complement := ByteOrder.little.natural (← readBytes 2)
  if count + complement ≠ 0xFFFF then throw .corruptData
  return output ++ (← readBytes count)

def fixedLiterals : CodeTree :=
  canonicalTree
    (List.replicate 144 8 ++ List.replicate 112 9 ++ List.replicate 24 7 ++
      List.replicate 8 8)

def fixedDistances : CodeTree := canonicalTree (List.replicate 32 5)

/-- The order in which the lengths of the code of code lengths are sent. -/
def lengthOrder : List Nat :=
  [16, 17, 18, 0, 8, 7, 9, 6, 10, 5, 11, 4, 12, 3, 13, 2, 14, 1, 15]

/-- Reads as many three-bit lengths as there are symbols, each with its
symbol. -/
def readOrdered : List Nat → Reader (List (Nat × Nat))
  | [] => return []
  | symbol :: rest => do
      let length ← readBits 3
      return (symbol, length) :: (← readOrdered rest)

def readLengthTree (count : Nat) : Reader CodeTree := do
  let sent ← readOrdered (lengthOrder.take count)
  completeTree ((List.range lengthOrder.length).map fun symbol =>
    (sent.lookup symbol).getD 0)

/-- The next code lengths: one length, a repetition of the length before, or a
run of zeros. -/
def readRun (tree : CodeTree) (lengths : Array Nat) : Reader (Array Nat) := do
  let symbol ← tree.read
  if symbol < 16 then return lengths.push symbol
  else if symbol = 16 then
    match lengths.back? with
    | none => throw .corruptData
    | some previous =>
        return lengths ++ Array.replicate (3 + (← readBits 2)) previous
  else if symbol = 17 then
    return lengths ++ Array.replicate (3 + (← readBits 3)) 0
  else return lengths ++ Array.replicate (11 + (← readBits 7)) 0

/-- Reads code lengths until there are `total`. The first argument bounds the
number of runs. -/
def readLengths (tree : CodeTree) (total : Nat) :
    Nat → Array Nat → Reader (List Nat)
  | 0, _ => throw .corruptData
  | bound + 1, lengths => do
      if lengths.size < total then
        readLengths tree total bound (← readRun tree lengths)
      else if lengths.size = total then return lengths.toList
      else throw .corruptData

/-- Reads a block with its own codes. -/
def readDynamic (output : Array UInt8) : Reader (Array UInt8) := do
  let literalCount := 257 + (← readBits 5)
  let distanceCount := 1 + (← readBits 5)
  let lengthCount := 4 + (← readBits 4)
  if 286 < literalCount ∨ 30 < distanceCount then throw .corruptData
  let tree ← readLengthTree lengthCount
  let total := literalCount + distanceCount
  let lengths ← readLengths tree total (total + 1) #[]
  let literals ← symbolTree (lengths.take literalCount)
  let distances ← symbolTree (lengths.drop literalCount)
  readCoded literals distances output

def readBlock (type : Nat) (output : Array UInt8) : Reader (Array UInt8) :=
  match type with
  | 0 => readStored output
  | 1 => readCoded fixedLiterals fixedDistances output
  | 2 => readDynamic output
  | _ => throw .corruptData

/-- Reads blocks up to the last one. The first argument bounds their number. -/
def readBlocks : Nat → Array UInt8 → Reader (Array UInt8)
  | 0, _ => throw .truncatedData
  | bound + 1, output => do
      let last ← readBit
      let output ← readBlock (← readBits 2) output
      if last then return output else readBlocks bound output

/-- Inflates the data at the head of some bytes, and gives the bytes after
them. -/
def inflate (bytes : Bytes) : Except Fault (Bytes × Bytes) :=
  match readBlocks (8 * bytes.length + 1) #[] ⟨[], bytes⟩ with
  | .error fault => .error fault
  | .ok (output, source) => .ok (output.toList, source.rest)

end CsrCensus.Gzip
