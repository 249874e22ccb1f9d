import CsrCensus.Gzip.Bits

/-!
# Canonical prefix codes

A prefix code is a binary tree with symbols at its leaves. The canonical code of
a list of lengths hands out the codes in the order of the lengths, and among
equal lengths in the order of the symbols.
-/

namespace CsrCensus.Gzip

/-- A binary tree of codes. -/
inductive CodeTree where
  /-- No code begins with the bits that lead here. -/
  | vacant
  | symbol (symbol : Nat)
  | branch (zero one : CodeTree)
deriving Repr

def longestCode : Nat := 15

namespace CodeTree

/-- Gives a code to a symbol. -/
def insert (tree : CodeTree) (code : List Bool) (value : Nat) : CodeTree :=
  match code with
  | [] => .symbol value
  | bit :: rest =>
      let (zero, one) :=
        match tree with
        | .branch zero one => (zero, one)
        | _ => (.vacant, .vacant)
      if bit then .branch zero (one.insert rest value)
      else .branch (zero.insert rest value) one

/-- Reads a symbol. Bits that begin no code are corrupt. -/
def read : CodeTree → Reader Nat
  | .symbol value => return value
  | .vacant => throw .corruptData
  | .branch zero one => do
      if ← readBit then one.read else zero.read

end CodeTree

/-- The symbols with a code, and its length, by ascending length. -/
def usedSymbols (lengths : List Nat) : List (Nat × Nat) :=
  (lengths.zipIdx.filter fun entry => entry.1 ≠ 0).mergeSort fun left right =>
    left.1 ≤ right.1

/-- The share of all bit sequences that begin with a code of some length. The
whole is `2 ^ longestCode`. -/
def share (length : Nat) : Nat := 1 <<< (longestCode - length)

def totalShare (lengths : List Nat) : Nat :=
  ((lengths.filter (· ≠ 0)).map share).foldr (· + ·) 0

/-- The leading bits of a place among all bit sequences. -/
def leadingBits (place length : Nat) : List Bool :=
  (List.range length).map fun index => place.testBit (longestCode - 1 - index)

/-- Puts symbols into a tree, each behind the share of the ones before it. -/
def placeSymbols (tree : CodeTree) (place : Nat) : List (Nat × Nat) → CodeTree
  | [] => tree
  | (length, value) :: rest =>
      placeSymbols (tree.insert (leadingBits place length) value)
        (place + share length) rest

/-- The canonical code of a list of lengths. The root is a branch also where no
symbol has a code: one bit is read before it is found that nothing begins with
it. -/
def canonicalTree (lengths : List Nat) : CodeTree :=
  placeSymbols (.branch .vacant .vacant) 0 (usedSymbols lengths)

/-- Whether the codes use up all bit sequences. -/
def isComplete (lengths : List Nat) : Bool :=
  totalShare lengths = 1 <<< longestCode

/-- Whether the codes leave bit sequences over, and none is longer than one
bit. -/
def isDegenerate (lengths : List Nat) : Bool :=
  totalShare lengths < 1 <<< longestCode && lengths.all (· ≤ 1)

/-- The code of lengths that use up all bit sequences. -/
def completeTree (lengths : List Nat) : Reader CodeTree :=
  if isComplete lengths then return canonicalTree lengths
  else throw .corruptData

/-- The code of lengths that use up all bit sequences, or of a single bit. -/
def symbolTree (lengths : List Nat) : Reader CodeTree :=
  if isComplete lengths || isDegenerate lengths then
    return canonicalTree lengths
  else throw .corruptData

end CsrCensus.Gzip
