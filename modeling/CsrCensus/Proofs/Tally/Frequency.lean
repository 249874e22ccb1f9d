import CsrCensus.Proofs.Sequence
import CsrCensus.Proofs.Tally.Occurrences
import Mathlib.Algebra.BigOperators.Group.List.Lemmas
import Mathlib.Algebra.GroupWithZero.Nat

/-!
# Totals and frequencies

The counts of a tally of occurrences add up to the number of the keys that were
counted, also for a selection of the keys. A tally by frequency has the same
entries in descending order of their counts, and leaves entries of one count in
their order.
-/

namespace CsrCensus.Tally

theorem total_eq_sum {key : Type} (tally : Tally key) :
    tally.total = (tally.map Prod.snd).sum :=
  List.sum_eq_foldr.symm

theorem total_eq_of_perm
    {key : Type} {left right : Tally key} (permutation : left.Perm right) :
    left.total = right.total := by
  rw [total_eq_sum, total_eq_sum]
  exact (permutation.map Prod.snd).sum_nat

section Occurrences

variable {key : Type} [DecidableEq key]

@[simp]
theorem map_fst_ofOccurrences (keys : List key) :
    (ofOccurrences keys).map Prod.fst = keys.eraseDups := by
  rw [ofOccurrences, List.map_map]
  exact List.map_id _

theorem eraseDups_perm_dedup (keys : List key) :
    keys.eraseDups.Perm keys.dedup := by
  rw [List.perm_ext_iff_of_nodup (eraseDups_nodup keys) keys.nodup_dedup]
  intro present
  rw [List.mem_eraseDups, List.mem_dedup]

/-- The counts of some of the keys add up to the number of their occurrences. -/
theorem total_filter_ofOccurrences (chosen : key → Bool) (keys : List key) :
    total ((ofOccurrences keys).filter fun entry => chosen entry.1) =
      keys.countP chosen := by
  calc
    total ((ofOccurrences keys).filter fun entry => chosen entry.1) =
        ((keys.eraseDups.filter chosen).map fun present =>
          keys.count present).sum := by
      rw [total_eq_sum, ofOccurrences, List.filter_map, List.map_map]
      rfl
    _ =
      ((keys.dedup.filter chosen).map fun present => keys.count present).sum :=
      (((eraseDups_perm_dedup keys).filter chosen).map _).sum_nat
    _ = keys.countP chosen :=
      List.sum_map_count_dedup_filter_eq_countP chosen keys

/-- All counts add up to the number of keys. -/
theorem total_ofOccurrences (keys : List key) :
    total (ofOccurrences keys) = keys.length := by
  have all := total_filter_ofOccurrences (fun _ => true) keys
  rwa [List.filter_true, List.countP_true] at all

end Occurrences

/-- A tally in ascending order has the entries of the tally in order of first
occurrence. -/
theorem ofOccurrencesAscending_perm (keys : List UInt16) :
    (ofOccurrencesAscending keys).Perm (ofOccurrences keys) :=
  (ascendingKeys_perm keys).map _

theorem total_ofOccurrencesAscending (keys : List UInt16) :
    total (ofOccurrencesAscending keys) = keys.length := by
  rw [total_eq_of_perm (ofOccurrencesAscending_perm keys), total_ofOccurrences]

section Frequency

variable {key : Type}

theorem byFrequency_perm (tally : Tally key) : tally.byFrequency.Perm tally :=
  List.mergeSort_perm _ _

private theorem isAtLeast_trans (first second third : key × Nat) :
    decide (second.2 ≤ first.2) → decide (third.2 ≤ second.2) →
      decide (third.2 ≤ first.2) := by
  simp only [decide_eq_true_eq]
  omega

private theorem isAtLeast_total (first second : key × Nat) :
    decide (second.2 ≤ first.2) || decide (first.2 ≤ second.2) := by
  simp only [Bool.or_eq_true, decide_eq_true_eq]
  omega

theorem byFrequency_descending (tally : Tally key) :
    tally.byFrequency.Pairwise fun left right => right.2 ≤ left.2 := by
  simpa only [byFrequency, decide_eq_true_eq] using
    List.pairwise_mergeSort isAtLeast_trans isAtLeast_total tally

/-- Entries of one count keep their order. -/
theorem filter_byFrequency (tally : Tally key) (count : Nat) :
    (tally.byFrequency.filter fun entry => entry.2 = count) =
      tally.filter fun entry => entry.2 = count := by
  apply Sorting.filter_mergeSort_of_tied isAtLeast_trans isAtLeast_total
  intro left right leftCount rightCount
  simp only [decide_eq_true_eq] at leftCount rightCount ⊢
  omega

end Frequency

end CsrCensus.Tally
