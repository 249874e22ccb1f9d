import CsrCensus.Files.Disk
import Mathlib.Data.List.Basic
import Mathlib.Tactic.SplitIfs

/-!
# Files after a change

A file that is put on a disk is found at its location, and all else is found as
before. A path under which a file may be created leads to that file once it is
there.
-/

namespace CsrCensus.Files.Disk

theorem lookup_filter_ne
    {location other : Location} (different : other ≠ location)
    (entries : List (Location × Entry)) :
    (entries.filter fun entry => entry.1 != location).lookup other =
      entries.lookup other := by
  induction entries with
  | nil => rfl
  | cons first rest inductionHypothesis =>
      by_cases removed : first.1 = location
      · have skipped : (other == first.1) = false := by
          simpa [removed] using different
        rw [List.filter_cons_of_neg (by simp [removed]), inductionHypothesis,
          List.lookup_cons, skipped]
      · rw [List.filter_cons_of_pos (by simp [removed]), List.lookup_cons,
          List.lookup_cons, inductionHypothesis]

theorem entry?_put_self
    (disk : Disk) {location : Location} (inside : location ≠ [])
    (entry : Entry) :
    Disk.entry? (disk.put location entry) location = some entry := by
  have nonempty : location.isEmpty = false := by simpa using inside
  simp [put, entry?, nonempty]

theorem entry?_put_of_ne
    (disk : Disk) {location other : Location} (different : other ≠ location)
    (entry : Entry) :
    Disk.entry? (disk.put location entry) other = disk.entry? other := by
  have missed : (other == location) = false := by simpa using different
  simp only [put, entry?, List.lookup_cons, missed, lookup_filter_ne different]

/-- Of two files put at one location the later one stays. -/
theorem put_put (disk : Disk) (location : Location) (first second : Entry) :
    (disk.put location first).put location second =
      disk.put location second := by
  unfold put
  rw [List.filter_cons_of_neg (by simp), List.filter_filter]
  simp only [Bool.and_self]

theorem entry?_of_step
    {disk : Disk} {start next : Location} {name : String}
    (taken : disk.step start name = .ok next) :
    disk.entry? start = some .directory := by
  unfold step at taken
  cases found : disk.entry? start with
  | none => simp [found] at taken
  | some entry =>
      cases entry with
      | file contents => simp [found] at taken
      | directory => rfl

/-- A step from a directory leads to the same place after a file was put
elsewhere. -/
theorem step_put
    {disk : Disk} {location start next : Location} {name : String}
    (contents : Bytes) (free : disk.entry? location ≠ some .directory)
    (taken : disk.step start name = .ok next) :
    (disk.put location (.file contents)).step start name = .ok next := by
  have directory := entry?_of_step taken
  have apart : start ≠ location := fun same => free (same ▸ directory)
  have kept :
      Disk.entry? (disk.put location (.file contents)) start =
        some .directory := by
    rw [entry?_put_of_ne disk apart, directory]
  have present :
      (disk.entry? (start ++ [name])).isSome →
        (Disk.entry? (disk.put location (.file contents))
          (start ++ [name])).isSome := by
    intro found
    by_cases same : start ++ [name] = location
    · have inside : location ≠ [] :=
        same ▸ List.append_ne_nil_of_right_ne_nil start (by simp)
      rw [same, entry?_put_self disk inside]
      rfl
    · rwa [entry?_put_of_ne disk same]
  unfold step at taken ⊢
  simp only [directory] at taken
  simp only [kept]
  split_ifs at taken ⊢ <;> simp_all

theorem foldlM_step_put
    {disk : Disk} {location : Location} (contents : Bytes)
    (free : disk.entry? location ≠ some .directory) (steps : List String)
    {start parent : Location}
    (walked : steps.foldlM disk.step start = .ok parent) :
    steps.foldlM (disk.put location (.file contents)).step start =
      .ok parent := by
  induction steps generalizing start with
  | nil => exact walked
  | cons name rest inductionHypothesis =>
      rw [List.foldlM_cons] at walked ⊢
      cases taken : disk.step start name with
      | error fault => rw [taken] at walked; cases walked
      | ok next =>
          rw [taken] at walked
          rw [step_put contents free taken]
          exact inductionHypothesis walked

/-- How a path leads to the place of a file that may be created. -/
structure LeadsTo
    (disk : Disk) (workingDirectory : Location) (text : String)
    (start parent : Location) (name : String) :
    Prop where
  begins : origin workingDirectory text = .ok start
  walked : (Path.ofText text).steps.dropLast.foldlM disk.step start = .ok parent
  last : (Path.ofText text).steps.getLast? = some name
  directory : disk.entry? parent = some .directory
  moves : name ≠ stayStep ∧ name ≠ upStep
  noSlash : (Path.ofText text).endsInSlash = false
  short : ¬ longestName < name.utf8ByteSize
  free : disk.entry? (parent ++ [name]) ≠ some .directory

theorem leadsTo_of_target
    {disk : Disk} {workingDirectory location : Location} {text : String}
    (target : disk.target workingDirectory text = .ok location) :
    ∃ start parent name,
      disk.LeadsTo workingDirectory text start parent name ∧
        location = parent ++ [name] := by
  unfold Disk.target at target
  simp only [bind, Except.bind] at target
  cases begins : origin workingDirectory text with
  | error fault => simp only [begins] at target; cases target
  | ok start =>
  simp only [begins] at target
  cases walked : (Path.ofText text).steps.dropLast.foldlM disk.step start with
  | error fault => simp only [walked] at target; cases target
  | ok parent =>
  simp only [walked] at target
  split at target
  · cases target
  · cases target
  · cases target
  · next name last directory =>
      split_ifs at target with special long
      split at target
      · cases target
      · next free =>
          obtain ⟨stays, rest⟩ := not_or.mp special
          obtain ⟨ascends, slash⟩ := not_or.mp rest
          cases target
          exact ⟨start, parent, name,
            ⟨begins, walked, last, directory, ⟨stays, ascends⟩,
              by simpa using slash, long, free⟩,
            rfl⟩

/-- What is put where a path leads is what is read at the path. -/
theorem read_put_of_target
    {disk : Disk} {workingDirectory location : Location} {text : String}
    (contents : Bytes)
    (target : disk.target workingDirectory text = .ok location) :
    (disk.put location (.file contents)).read workingDirectory text =
      .ok contents := by
  obtain ⟨start, parent, name, leads, rfl⟩ := leadsTo_of_target target
  -- The steps to the parent pass directories only, and the new file took the
  -- place of none.
  let after := disk.put (parent ++ [name]) (.file contents)
  have inside : parent ++ [name] ≠ [] := by simp
  have found : after.entry? (parent ++ [name]) = some (.file contents) :=
    entry?_put_self disk inside _
  have kept : after.entry? parent = some .directory := by
    have apart : parent ≠ parent ++ [name] := by simp
    rw [entry?_put_of_ne disk apart, leads.directory]
  have step : after.step parent name = .ok (parent ++ [name]) := by
    simp [step, kept, leads.moves.1, leads.moves.2, leads.short, found]
  have steps :
      (Path.ofText text).steps = (Path.ofText text).steps.dropLast ++ [name] :=
    (List.dropLast_append_getLast? name leads.last).symm
  have walked :
      (Path.ofText text).steps.foldlM after.step start =
        .ok (parent ++ [name]) := by
    have before := foldlM_step_put contents leads.free _ leads.walked
    rw [steps, List.foldlM_append, before]
    exact congrArg (fun taken => taken.bind pure) step
  change after.read workingDirectory text = .ok contents
  unfold Disk.read
  simp only [bind, Except.bind, leads.begins, walked, found, leads.noSlash]
  rfl

end CsrCensus.Files.Disk
