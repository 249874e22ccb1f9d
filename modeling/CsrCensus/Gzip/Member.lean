import CsrCensus.Gzip.Inflate

/-!
# Gzip members

A member is a header, the deflated data, and a trailer with a checksum and the
length of the data. The checksum is the cyclic redundancy check with the
reflected polynomial `0xEDB88320`, its register starting with all bits set and
complemented at the end. Only the first member of a file is read.
-/

namespace CsrCensus.Gzip

def shiftChecksum (register : UInt32) : UInt32 :=
  if register &&& 1 = 1 then (register >>> 1) ^^^ 0xEDB88320 else register >>> 1

def extendChecksum (register : UInt32) (byte : UInt8) : UInt32 :=
  Nat.repeat shiftChecksum 8 (register ^^^ byte.toUInt32)

/-- The CRC-32 of some bytes. -/
def checksum (bytes : Bytes) : UInt32 :=
  bytes.foldl extendChecksum 0xFFFFFFFF ^^^ 0xFFFFFFFF

def magic : Bytes := [0x1F, 0x8B]

/-- Splits off bytes that must be there. -/
def takeBytes (count : Nat) (bytes : Bytes) : Except Fault (Bytes × Bytes) :=
  if count ≤ bytes.length then .ok (bytes.take count, bytes.drop count)
  else .error .truncated

/-- The longest name or comment. -/
def longestField : Nat := 65535

/-- The bytes after the zero byte that ends a name or comment; `room` more bytes
may come before it. -/
def skipField (room : Nat) : Bytes → Except Fault Bytes
  | [] => .error .truncated
  | byte :: rest =>
      if byte = 0 then .ok rest
      else
        match room with
        | 0 => .error .fieldTooLong
        | room + 1 => skipField room rest

/-- Skips a part of the header that is there only with its flag. -/
def skipIf (flag : Bool) (skip : Bytes → Except Fault Bytes) (bytes : Bytes) :
    Except Fault Bytes :=
  if flag then skip bytes else .ok bytes

/-- Skips the extra field, which begins with its length. -/
def skipExtra (bytes : Bytes) : Except Fault Bytes := do
  let (length, rest) ← takeBytes 2 bytes
  let (_, rest) ← takeBytes (ByteOrder.little.natural length) rest
  return rest

/-- Skips the checksum of the header, which must match its bytes. -/
def skipHeaderChecksum (member : Bytes) (bytes : Bytes) :
    Except Fault Bytes := do
  let (stored, rest) ← takeBytes 2 bytes
  let header := member.take (member.length - bytes.length)
  if ByteOrder.little.natural stored =
    (checksum header).toNat % UInt16.size then return rest
  else throw .checksum

/-- Whether the fixed part of a header is one that can be read. -/
def isKnownHeader (fixed : Bytes) : Bool :=
  match fixed with
  | first :: second :: method :: flags :: _ =>
      [first, second] = magic && method = 8 && flags &&& 0xE0 = 0
  | _ => false

def headerFlags (fixed : Bytes) : Nat :=
  ((fixed[3]?).getD 0).toNat

def skipHeader (member : Bytes) : Except Fault Bytes := do
  let (fixed, rest) ← takeBytes 10 member
  if !isKnownHeader fixed then throw .invalidHeader
  let flag := (headerFlags fixed).testBit
  let rest ← skipIf (flag 2) skipExtra rest
  let rest ← skipIf (flag 3) (skipField longestField) rest
  let rest ← skipIf (flag 4) (skipField longestField) rest
  skipIf (flag 1) (skipHeaderChecksum member) rest

/-- Checks the trailer that follows some data, and gives the bytes after it. -/
def checkTrailer (data bytes : Bytes) : Except Fault Bytes := do
  let (sum, rest) ← takeBytes 4 bytes
  let (length, rest) ← takeBytes 4 rest
  if ByteOrder.little.natural sum = (checksum data).toNat ∧
      ByteOrder.little.natural length = data.length % UInt32.size then
    return rest
  else throw .checksum

/-- The data of the member at the head of some bytes, and the bytes after it. -/
def readMember (bytes : Bytes) : Except Fault (Bytes × Bytes) := do
  let body ← skipHeader bytes
  let (data, trailer) ← inflate body
  let rest ← checkTrailer data trailer
  return (data, rest)

/-- The data of a file: those of its first member. -/
def decompress (file : Bytes) : Except Fault Bytes :=
  Prod.fst <$> readMember file

end CsrCensus.Gzip
