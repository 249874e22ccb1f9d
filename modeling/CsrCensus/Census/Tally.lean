/-!
# Tallies

Counters kept as association lists. `Tally.bump` keeps the keys in the order in
which they first occurred, `Tally.bumpBy` keeps them in a given order.
-/

namespace CsrCensus

/-- Keys with the number of their occurrences. -/
abbrev Tally (key : Type) := List (key × Nat)

namespace Tally

variable {key : Type} [DecidableEq key]

/-- Counts one more occurrence of a key; a new key goes to the end. -/
def bump (tally : Tally key) (counted : key) : Tally key :=
  match tally with
  | [] => [(counted, 1)]
  | (present, count) :: rest =>
      if present = counted then (present, count + 1) :: rest
      else (present, count) :: bump rest counted

/-- Counts one more occurrence of a key in a tally that ascends in `before`; a
new key goes to its place in that order. -/
def bumpBy (before : key → key → Bool) (tally : Tally key) (counted : key) :
    Tally key :=
  match tally with
  | [] => [(counted, 1)]
  | (present, count) :: rest =>
      if present = counted then (present, count + 1) :: rest
      else if before counted present then
        (counted, 1) :: (present, count) :: rest
      else (present, count) :: bumpBy before rest counted

omit [DecidableEq key]

/-- The sum of all counts. -/
def total (tally : Tally key) : Nat :=
  (tally.map Prod.snd).foldr (· + ·) 0

/-- The tally in descending order of counts; equal counts keep their order. -/
def byFrequency (tally : Tally key) : Tally key :=
  tally.mergeSort fun left right => right.2 ≤ left.2

end Tally

end CsrCensus
