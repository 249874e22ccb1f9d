import CsrCensus.Proofs.Tally.Merge

/-!
# The order of counting

Counting the keys of a list in another order gives each key the same count. A
tally in order of first occurrence has its entries rearranged at most; a tally
in ascending order is the same.
-/

namespace CsrCensus.Tally

section FirstOccurrence

variable {key : Type} [DecidableEq key]

theorem eraseDups_perm_of_perm
    {left right : List key} (permutation : left.Perm right) :
    left.eraseDups.Perm right.eraseDups := by
  rw [List.perm_ext_iff_of_nodup (eraseDups_nodup left) (eraseDups_nodup right)]
  intro present
  rw [List.mem_eraseDups, List.mem_eraseDups, permutation.mem_iff]

theorem ofOccurrences_perm
    {left right : List key} (permutation : left.Perm right) :
    (ofOccurrences left).Perm (ofOccurrences right) := by
  have counts :
      right.eraseDups.map (fun present => (present, left.count present)) =
        ofOccurrences right := by
    unfold ofOccurrences
    refine List.map_congr_left fun present _ => ?_
    rw [permutation.count_eq present]
  rw [← counts]
  exact (eraseDups_perm_of_perm permutation).map _

/-- A tally gives each key of a list the number of its occurrences, and gives
other keys nothing. -/
theorem lookup_ofOccurrences (keys : List key) (counted : key) :
    (ofOccurrences keys).lookup counted =
      if counted ∈ keys then some (keys.count counted) else none := by
  have search :
      ∀ distinct : List key,
        (distinct.map fun present =>
          (present, keys.count present)).lookup counted =
          if counted ∈ distinct then some (keys.count counted) else none := by
    intro distinct
    induction distinct with
    | nil => rfl
    | cons first rest inductionHypothesis =>
        by_cases same : counted = first
        · subst same
          simp
        · rw [List.map_cons, List.lookup_cons, beq_eq_false_iff_ne.mpr same,
            inductionHypothesis]
          simp only [List.mem_cons, same, false_or]
  unfold ofOccurrences
  rw [search]
  simp only [List.mem_eraseDups]

theorem lookup_ofOccurrences_of_perm
    {left right : List key} (permutation : left.Perm right) (counted : key) :
    (ofOccurrences left).lookup counted =
      (ofOccurrences right).lookup counted := by
  simp only [lookup_ofOccurrences, permutation.mem_iff, permutation.count_eq]

end FirstOccurrence

theorem ofOccurrencesAscending_of_perm
    {left right : List UInt16} (permutation : left.Perm right) :
    ofOccurrencesAscending left = ofOccurrencesAscending right := by
  have keys : ascendingKeys left = ascendingKeys right :=
    mergeSort_eq_of_perm (eraseDups_perm_of_perm permutation)
  unfold ofOccurrencesAscending
  rw [keys]
  refine List.map_congr_left fun present _ => ?_
  rw [permutation.count_eq present]

end CsrCensus.Tally
