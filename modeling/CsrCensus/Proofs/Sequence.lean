/-!
# Sequences of entries and of steps

A stable sort does not change the order of entries that are tied. A sequence of
two steps succeeds only if both do.
-/

namespace CsrCensus.Sorting

variable {entry : Type} {isAtMost : entry → entry → Bool}

/-- Entries that are all tied keep their order. -/
theorem filter_mergeSort_of_tied
    (transitive : ∀ first second third,
      isAtMost first second → isAtMost second third → isAtMost first third)
    (total : ∀ first second, isAtMost first second || isAtMost second first)
    {chosen : entry → Bool}
    (tied : ∀ left right, chosen left → chosen right → isAtMost left right)
    (entries : List entry) :
    (entries.mergeSort isAtMost).filter chosen = entries.filter chosen := by
  have sorted :
      (entries.filter chosen).Pairwise fun left right =>
        isAtMost left right = true := by
    apply List.pairwise_of_forall_mem_list
    intro left leftMember right rightMember
    exact tied left right (List.mem_filter.mp leftMember).2
      (List.mem_filter.mp rightMember).2
  have inside : (entries.filter chosen).Sublist (entries.mergeSort isAtMost) :=
    -- A stable sort keeps every sublist that is in order already.
    List.sublist_mergeSort transitive total sorted List.filter_sublist
  have kept :
      (entries.filter chosen).Sublist
        ((entries.mergeSort isAtMost).filter chosen) := by
    simpa only [List.filter_filter, Bool.and_self] using inside.filter chosen
  have permutation := (List.mergeSort_perm entries isAtMost).filter chosen
  exact (kept.eq_of_length permutation.length_eq.symm).symm

end CsrCensus.Sorting

namespace CsrCensus.Sequence

variable {fault first second : Type}

theorem exists_ok_of_bind
    {step : Except fault first} {next : first → Except fault second}
    {result : second} (done : step >>= next = .ok result) :
    ∃ value, step = .ok value ∧ next value = .ok result := by
  cases step with
  | ok value => exact ⟨value, rfl, done⟩
  | error reason => cases done

end CsrCensus.Sequence
