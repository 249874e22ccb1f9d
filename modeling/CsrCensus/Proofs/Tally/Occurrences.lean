import CsrCensus.Census.Tally
import Mathlib.Data.List.Count
import Mathlib.Data.List.Induction
import Mathlib.Data.List.Sort

/-!
# Tallies count occurrences

Counting the keys of a list one after the other gives a tally with every key of
the list once, with the number of its occurrences: in the order of first
occurrence by `Tally.bump`, and in ascending order by `Tally.bumpBy`. Both are
stated through a closed form that says nothing about the way in which a tally is
updated.
-/

namespace CsrCensus.Tally

theorem eraseDups_nodup {key : Type} [DecidableEq key] :
    ∀ keys : List key, keys.eraseDups.Nodup
  | [] => List.nodup_nil
  | first :: rest => by
      rw [List.eraseDups_cons, List.nodup_cons]
      refine ⟨?_, eraseDups_nodup _⟩
      simp [List.mem_eraseDups]
termination_by keys => keys.length
decreasing_by
  simp only [List.length_cons]
  exact Nat.lt_succ_of_le (List.length_filter_le ..)

theorem eraseDups_concat
    {key : Type} [DecidableEq key] (keys : List key) (counted : key) :
    (keys ++ [counted]).eraseDups =
      if counted ∈ keys then keys.eraseDups
      else keys.eraseDups ++ [counted] := by
  rw [List.eraseDups_append]
  by_cases seen : counted ∈ keys
  · simp [List.removeAll, seen]
  · simp [List.removeAll, seen, List.eraseDups_cons]

theorem count_concat
    {key : Type} [DecidableEq key] (keys : List key) (counted present : key) :
    (keys ++ [counted]).count present =
      if present = counted then keys.count present + 1
      else keys.count present := by
  rw [List.count_append, List.count_singleton]
  by_cases same : present = counted
  · simp [same]
  · simp [same, Ne.symm same]

theorem eraseDups_map
    {key label : Type} [DecidableEq key] [DecidableEq label]
    {name : key → label} (injective : Function.Injective name)
    (keys : List key) :
    (keys.map name).eraseDups = keys.eraseDups.map name := by
  induction keys using List.reverseRecOn with
  | nil => rfl
  | append_singleton keys counted inductionHypothesis =>
      rw [List.map_append, List.map_singleton, eraseDups_concat,
        eraseDups_concat, inductionHypothesis]
      simp only [List.mem_map_of_injective injective]
      split <;> simp

section FirstOccurrence

variable {key : Type} [DecidableEq key]

/-- Every key of a list with the number of its occurrences, in the order of
first occurrence. -/
def ofOccurrences (keys : List key) : Tally key :=
  keys.eraseDups.map fun present => (present, keys.count present)

private theorem bump_map (counts : key → Nat) (counted : key) :
    ∀ keys : List key, keys.Nodup →
      bump (keys.map fun present => (present, counts present)) counted =
        if counted ∈ keys then
          keys.map fun present =>
            (present,
              if present = counted then counts present + 1 else counts present)
        else keys.map (fun present => (present, counts present)) ++
          [(counted, 1)]
  | [], _ => rfl
  | first :: rest, nodup => by
      obtain ⟨fresh, restNodup⟩ := List.nodup_cons.mp nodup
      by_cases same : first = counted
      · subst same
        have untouched :
            ∀ present ∈ rest,
              (present,
                if present = first then counts present + 1
                else counts present) =
                (present, counts present) := by
          intro present member
          have different : present ≠ first :=
            fun equal => fresh (equal ▸ member)
          simp [different]
        simp [bump, List.map_congr_left untouched]
      · have inductionHypothesis := bump_map counts counted rest restNodup
        simp only [List.map_cons, bump, same, if_false, inductionHypothesis,
          List.mem_cons, Ne.symm same, false_or]
        split <;> rfl

/-- Counting one more key. -/
theorem bump_ofOccurrences (keys : List key) (counted : key) :
    (ofOccurrences keys).bump counted = ofOccurrences (keys ++ [counted]) := by
  unfold ofOccurrences
  rw [bump_map _ _ _ (eraseDups_nodup keys), eraseDups_concat]
  simp only [count_concat, List.mem_eraseDups]
  by_cases seen : counted ∈ keys
  · simp [seen]
  · have unseen :
        ∀ present ∈ keys.eraseDups,
          (present, keys.count present) =
            (present,
              if present = counted then keys.count present + 1
              else keys.count present) := by
      intro present member
      have different : present ≠ counted :=
        fun equal => seen (equal ▸ List.mem_eraseDups.mp member)
      simp [different]
    simp [seen, List.map_congr_left unseen, List.count_eq_zero_of_not_mem seen]

/-- A name that confuses no two keys may be given to the keys before or after
counting. -/
theorem ofOccurrences_map
    {label : Type} [DecidableEq label] {name : key → label}
    (injective : Function.Injective name) (keys : List key) :
    (ofOccurrences keys).map (fun entry => (name entry.1, entry.2)) =
      ofOccurrences (keys.map name) := by
  unfold ofOccurrences
  rw [eraseDups_map injective, List.map_map, List.map_map]
  apply List.map_congr_left
  intro present _
  simp [List.count_map_of_injective _ _ injective]

end FirstOccurrence

/-! ## Ascending order -/

/-- The keys of a list once each, in ascending order. -/
def ascendingKeys (keys : List UInt16) : List UInt16 :=
  keys.eraseDups.mergeSort fun left right => left ≤ right

/-- Every key of a list with the number of its occurrences, in ascending
order. -/
def ofOccurrencesAscending (keys : List UInt16) : Tally UInt16 :=
  (ascendingKeys keys).map fun present => (present, keys.count present)

theorem ascendingKeys_perm (keys : List UInt16) :
    (ascendingKeys keys).Perm keys.eraseDups :=
  List.mergeSort_perm _ _

@[simp]
theorem mem_ascendingKeys {keys : List UInt16} {present : UInt16} :
    present ∈ ascendingKeys keys ↔ present ∈ keys := by
  rw [(ascendingKeys_perm keys).mem_iff, List.mem_eraseDups]

private theorem mergeSort_pairwise_le (keys : List UInt16) :
    (keys.mergeSort fun left right => left ≤ right).Pairwise (· ≤ ·) := by
  have sorted :
      (keys.mergeSort fun left right => left ≤ right).Pairwise fun left right =>
        decide (left ≤ right) = true :=
    List.pairwise_mergeSort
      (fun first second third => by simpa using UInt16.le_trans)
      (fun first second => by simpa using UInt16.le_total first second) keys
  simpa using sorted

private theorem ascendingKeys_pairwise_le (keys : List UInt16) :
    (ascendingKeys keys).Pairwise (· ≤ ·) :=
  mergeSort_pairwise_le keys.eraseDups

theorem ascendingKeys_pairwise_lt (keys : List UInt16) :
    (ascendingKeys keys).Pairwise (· < ·) := by
  have nodup : (ascendingKeys keys).Nodup :=
    (ascendingKeys_perm keys).nodup_iff.mpr (eraseDups_nodup keys)
  exact (ascendingKeys_pairwise_le keys).imp₂
    (fun _ _ => UInt16.lt_of_le_of_ne) nodup

/-- The only ascending list with given members. -/
private theorem eq_of_perm_of_ascending
    {left right : List UInt16} (permutation : left.Perm right)
    (leftSorted : left.Pairwise (· ≤ ·))
    (rightSorted : right.Pairwise (· ≤ ·)) :
    left = right :=
  permutation.eq_of_pairwise
    (fun _ _ _ _ => UInt16.le_antisymm) leftSorted rightSorted

/-- The order in which keys are given does not matter. -/
theorem mergeSort_eq_of_perm
    {left right : List UInt16} (permutation : left.Perm right) :
    (left.mergeSort fun first second => first ≤ second) =
      right.mergeSort fun first second => first ≤ second :=
  eq_of_perm_of_ascending
    ((List.mergeSort_perm left _).trans
      (permutation.trans (List.mergeSort_perm right _).symm))
    (mergeSort_pairwise_le left) (mergeSort_pairwise_le right)

private theorem orderedInsert_pairwise
    {keys : List UInt16} (sorted : keys.Pairwise (· ≤ ·)) (counted : UInt16) :
    (keys.orderedInsert (· ≤ ·) counted).Pairwise (· ≤ ·) := by
  have : Std.Total (α := UInt16) (· ≤ ·) := ⟨UInt16.le_total⟩
  have : IsTrans UInt16 (· ≤ ·) := ⟨fun _ _ _ => UInt16.le_trans⟩
  exact sorted.orderedInsert counted keys

theorem ascendingKeys_concat (keys : List UInt16) (counted : UInt16) :
    ascendingKeys (keys ++ [counted]) =
      if counted ∈ keys then ascendingKeys keys
      else (ascendingKeys keys).orderedInsert (· ≤ ·) counted := by
  by_cases seen : counted ∈ keys
  · simp [ascendingKeys, eraseDups_concat, seen]
  · rw [if_neg seen]
    refine eq_of_perm_of_ascending ?_ (ascendingKeys_pairwise_le _)
      (orderedInsert_pairwise (ascendingKeys_pairwise_le keys) counted)
    calc
      (ascendingKeys (keys ++ [counted])).Perm
        (keys.eraseDups ++ [counted]) := by
        simpa [eraseDups_concat, seen] using
          ascendingKeys_perm (keys ++ [counted])
      List.Perm _ (counted :: keys.eraseDups) := List.perm_append_singleton _ _
      List.Perm _ (counted :: ascendingKeys keys) :=
        (ascendingKeys_perm keys).symm.cons _
      List.Perm _ ((ascendingKeys keys).orderedInsert (· ≤ ·) counted) :=
        (List.perm_orderedInsert _ _ _).symm

private theorem bumpBy_map (counts : UInt16 → Nat) (counted : UInt16) :
    ∀ keys : List UInt16, keys.Pairwise (· < ·) →
      (counted ∉ keys → counts counted = 0) →
      bumpBy (fun left right => left < right)
          (keys.map fun present => (present, counts present)) counted =
        (if counted ∈ keys then keys
          else keys.orderedInsert (· ≤ ·) counted).map fun present =>
          (present,
            if present = counted then counts present + 1 else counts present)
  | [], _, absent => by simp [bumpBy, absent]
  | first :: rest, sorted, absent => by
      obtain ⟨above, restSorted⟩ := List.pairwise_cons.mp sorted
      -- A key below or at the head is not in the tail, whose entries therefore
      -- stay.
      have untouched :
          counted ≤ first →
            (rest.map fun present =>
              (present,
                if present = counted then counts present + 1
                else counts present)) =
              rest.map fun present => (present, counts present) := by
        intro low
        apply List.map_congr_left
        intro present member
        have different : present ≠ counted := by
          rintro rfl
          exact UInt16.not_lt.mpr low (above present member)
        simp [different]
      by_cases same : first = counted
      · subst same
        simp [bumpBy, untouched (UInt16.le_refl _)]
      by_cases below : counted < first
      · have unseen : counted ∉ first :: rest := by
          intro member
          rcases List.mem_cons.mp member with equal | later
          · exact same equal.symm
          · exact UInt16.lt_asymm below (above counted later)
        have low := UInt16.le_of_lt below
        rw [if_neg unseen, List.orderedInsert_cons_of_le _ _ low]
        simp [bumpBy, same, below, untouched low, absent unseen]
      · have high : ¬ counted ≤ first := fun low =>
          below (UInt16.lt_of_le_of_ne low (Ne.symm same))
        have restAbsent : counted ∉ rest → counts counted = 0 := fun unseen =>
          absent (by simp [Ne.symm same, unseen])
        have inductionHypothesis :=
          bumpBy_map counts counted rest restSorted restAbsent
        simp only [List.map_cons, bumpBy, same, if_false, below, decide_false,
          Bool.false_eq_true, inductionHypothesis, List.mem_cons, Ne.symm same,
          false_or]
        rw [List.orderedInsert_of_not_le _ _ high]
        split <;> simp [same]

/-- Counting one more key in ascending order. -/
theorem bumpBy_ofOccurrencesAscending (keys : List UInt16) (counted : UInt16) :
    (ofOccurrencesAscending keys).bumpBy
      (fun left right => left < right) counted =
      ofOccurrencesAscending (keys ++ [counted]) := by
  unfold ofOccurrencesAscending
  rw [bumpBy_map _ _ _ (ascendingKeys_pairwise_lt keys) (fun unseen =>
    List.count_eq_zero_of_not_mem (by simpa using unseen)),
    ascendingKeys_concat]
  simp only [count_concat, mem_ascendingKeys]

/-- A key that was counted has one entry, and a key that was not has none. -/
theorem filter_ofOccurrencesAscending (keys : List UInt16) (counted : UInt16) :
    ((ofOccurrencesAscending keys).filter fun entry => entry.1 = counted) =
      if counted ∈ keys then [(counted, keys.count counted)] else [] := by
  have single :
      ((ascendingKeys keys).filter fun present => present = counted) =
        if counted ∈ keys then [counted] else [] := by
    have nodup : (ascendingKeys keys).Nodup :=
      (ascendingKeys_perm keys).nodup_iff.mpr (eraseDups_nodup keys)
    rw [List.filter_eq, nodup.count]
    simp only [mem_ascendingKeys]
    split <;> rfl
  have entries :
      ((ofOccurrencesAscending keys).filter fun entry => entry.1 = counted) =
        ((ascendingKeys keys).filter fun present =>
          present = counted).map fun present =>
          (present, keys.count present) := List.filter_map
  rw [entries, single]
  split <;> rfl

end CsrCensus.Tally
