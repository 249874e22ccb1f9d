import CsrCensus.Proofs.Tally.Occurrences

/-!
# Merging tallies

Two tallies are merged by adding the counts of each key. If both are tallies of
occurrences, their merge is the tally of the occurrences in both lists, one
behind the other: in the order of first occurrence by `Tally.extend`, and in
ascending order by `Tally.extendAscending`.
-/

namespace CsrCensus.Tally

section Extend

variable {key : Type} [DecidableEq key]

/-- The count of a key; a key that is absent has none. -/
def countOf (tally : Tally key) (counted : key) : Nat :=
  (tally.lookup counted).getD 0

/-- Adds the counts of a second tally to those of the first. New keys go to the
end, in the order of the second tally. -/
def extend (first second : Tally key) : Tally key :=
  (first.map fun entry => (entry.1, entry.2 + second.countOf entry.1)) ++
    second.filter fun entry => entry.1 ∉ first.map Prod.fst

theorem countOf_map (counts : key → Nat) (counted : key) :
    ∀ keys : List key,
      countOf (keys.map fun present => (present, counts present)) counted =
        if counted ∈ keys then counts counted else 0
  | [] => rfl
  | first :: rest => by
      have later := countOf_map counts counted rest
      by_cases same : counted = first
      · subst same
        simp [countOf]
      · unfold countOf at later ⊢
        simp only [List.map_cons, List.lookup_cons,
          beq_eq_false_iff_ne.mpr same, later, List.mem_cons, same, false_or]

theorem countOf_map_count
    {keys distinct : List key}
    (members : ∀ present, present ∈ distinct ↔ present ∈ keys) (counted : key) :
    countOf (distinct.map fun present => (present, keys.count present))
      counted =
      keys.count counted := by
  rw [countOf_map]
  split
  · rfl
  · next absent =>
      have unseen : counted ∉ keys :=
        fun present => absent ((members counted).mpr present)
      exact (List.count_eq_zero_of_not_mem unseen).symm

/-- The counts of two lists are merged key by key, whatever the orders of the
keys. -/
theorem extend_map_count
    {left right leftDistinct rightDistinct : List key}
    (leftMembers : ∀ present, present ∈ leftDistinct ↔ present ∈ left)
    (rightMembers : ∀ present, present ∈ rightDistinct ↔ present ∈ right) :
    extend (leftDistinct.map fun present => (present, left.count present))
        (rightDistinct.map fun present => (present, right.count present)) =
      (leftDistinct ++ rightDistinct.filter fun present =>
        present ∉ left).map fun present =>
        (present, (left ++ right).count present) := by
  have keysOf :
      (leftDistinct.map fun present =>
        (present, left.count present)).map Prod.fst =
        leftDistinct := by
    rw [List.map_map]
    exact List.map_id _
  unfold extend
  rw [keysOf, List.map_append]
  congr 1
  · rw [List.map_map]
    apply List.map_congr_left
    intro present _
    simp only [Function.comp_apply, countOf_map_count rightMembers,
      List.count_append]
  · rw [List.filter_map]
    have fresh :
        (rightDistinct.filter fun present => present ∉ leftDistinct) =
          rightDistinct.filter fun present => present ∉ left := by
      simp only [leftMembers]
    refine (congrArg (List.map _) fresh).trans ?_
    apply List.map_congr_left
    intro present member
    have unseen : present ∉ left := by
      simpa using (List.mem_filter.mp member).2
    rw [List.count_append, List.count_eq_zero_of_not_mem unseen, Nat.zero_add]

end Extend

section FirstOccurrence

variable {key : Type} [DecidableEq key]

theorem eraseDups_filter (chosen : key → Bool) (keys : List key) :
    (keys.filter chosen).eraseDups = keys.eraseDups.filter chosen := by
  induction keys using List.reverseRecOn with
  | nil => rfl
  | append_singleton keys counted inductionHypothesis =>
      rw [List.filter_append, eraseDups_concat]
      cases kept : chosen counted with
      | false =>
          have dropped : [counted].filter chosen = [] := by simp [kept]
          rw [dropped, List.append_nil, inductionHypothesis]
          split
          · rfl
          · rw [List.filter_append, dropped, List.append_nil]
      | true =>
          have single : [counted].filter chosen = [counted] := by simp [kept]
          rw [single, eraseDups_concat, inductionHypothesis]
          simp only [List.mem_filter, kept, and_true]
          split
          · rfl
          · rw [List.filter_append, single]

theorem eraseDups_append_eq (left right : List key) :
    (left ++ right).eraseDups =
      left.eraseDups ++ right.eraseDups.filter fun present =>
        present ∉ left := by
  rw [List.eraseDups_append, List.removeAll, eraseDups_filter]
  simp

/-- Merging tallies of occurrences counts the occurrences in both lists. -/
theorem extend_ofOccurrences (left right : List key) :
    (ofOccurrences left).extend (ofOccurrences right) =
      ofOccurrences (left ++ right) := by
  unfold ofOccurrences
  rw [extend_map_count (fun _ => List.mem_eraseDups) (fun _ =>
    List.mem_eraseDups),
    eraseDups_append_eq]

end FirstOccurrence

/-- Adds the counts of two tallies; the keys are put in ascending order. -/
def extendAscending (first second : Tally UInt16) : Tally UInt16 :=
  (first.extend second).mergeSort fun left right => left.1 ≤ right.1

theorem ascendingKeys_append (left right : List UInt16) :
    ascendingKeys (left ++ right) =
      (ascendingKeys left ++ (ascendingKeys right).filter fun present =>
        present ∉ left).mergeSort
        fun first second => first ≤ second := by
  unfold ascendingKeys
  rw [eraseDups_append_eq]
  exact
    mergeSort_eq_of_perm <|
      (ascendingKeys_perm left).symm.append
        ((ascendingKeys_perm right).symm.filter _)

/-- Merging ascending tallies of occurrences counts the occurrences in both
lists. -/
theorem extendAscending_ofOccurrencesAscending (left right : List UInt16) :
    (ofOccurrencesAscending left).extendAscending
      (ofOccurrencesAscending right) =
      ofOccurrencesAscending (left ++ right) := by
  unfold ofOccurrencesAscending extendAscending
  rw [extend_map_count (fun _ => mem_ascendingKeys) (fun _ =>
    mem_ascendingKeys),
    ascendingKeys_append]
  symm
  apply List.map_mergeSort
  intro first _ second _
  rfl

end CsrCensus.Tally
