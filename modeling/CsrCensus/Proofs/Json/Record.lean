import CsrCensus.Json.Record
import CsrCensus.Proofs.Json.Skip
import Mathlib.Data.List.Nodup
import Mathlib.Data.List.Pairwise

/-!
# Reading records

What is written for some of the fields of a record is read into them, in
whichever order it stands and whatever else stands between. The other fields
keep their values.
-/

namespace CsrCensus.Json

/-- What is written for a field: its name, the spellings of its value, and what
the value changes in a record. -/
structure Entry (record : Type) where
  name : String
  IsSpelled : List Char → Prop
  update : record → record

section Grammar

variable {record : Type}

/-- A member of an object, with the entries in it: one, or none if no field has
its name. -/
inductive MemberSpelled (names : List String) :
    List (Entry record) → List Char → Prop where
  | known {entry : Entry record} {key before after value : List Char} :
      TextSpelled entry.name key → Blank before → Blank after →
        entry.IsSpelled value →
        MemberSpelled names [entry] (key ++ (before ++ ':' :: (after ++ value)))
  | unknown {name : String} {key before after value : List Char} :
      TextSpelled name key → name ∉ names → Blank before → Blank after →
        WellFormed .value value →
          MemberSpelled names [] (key ++ (before ++ ':' :: (after ++ value)))

/-- What stands between a member of an object and the closing brace. -/
inductive MembersSpelled (names : List String) :
    List (Entry record) → List Char → Prop where
  | done {space : List Char} : Blank space → MembersSpelled names [] space
  | more {written later : List (Entry record)}
      {before after member members : List Char} :
      Blank before → Blank after → MemberSpelled names written member →
        MembersSpelled names later members →
          MembersSpelled names (written ++ later)
            (before ++ ',' :: (after ++ (member ++ members)))

/-- What stands between an element of a list and the closing bracket. -/
inductive ElementsSpelled : List (Entry record) → List Char → Prop where
  | done {space : List Char} : Blank space → ElementsSpelled [] space
  | more {entry : Entry record} {later : List (Entry record)}
      {before after value elements : List Char} :
      Blank before → Blank after → entry.IsSpelled value →
        ElementsSpelled later elements →
        ElementsSpelled (entry :: later)
          (before ++ ',' :: (after ++ (value ++ elements)))

/-- The ways to write a record with fields of the given names: as an object with
its entries in any order and members of other names, or as a list if the entries
are those of the leading fields. -/
inductive RecordSpelled (names : List String) :
    List (Entry record) → List Char → Prop where
  | emptyObject {space : List Char} :
      Blank space → RecordSpelled names [] ('\x7b' :: (space ++ ['\x7d']))
  | object {entries written later : List (Entry record)}
      {space member members : List Char} :
      Blank space → MemberSpelled names written member →
        MembersSpelled names later members →
        (written ++ later).Perm entries →
          RecordSpelled names entries
            ('\x7b' :: (space ++ (member ++ (members ++ ['\x7d']))))
  | emptyList {space : List Char} :
      Blank space → RecordSpelled names [] ('[' :: (space ++ [']']))
  | list {entry : Entry record} {later : List (Entry record)}
      {space value elements : List Char} :
      Blank space → entry.IsSpelled value → ElementsSpelled later elements →
        (entry :: later).map Entry.name <+: names →
          RecordSpelled names (entry :: later)
            ('[' :: (space ++ (value ++ (elements ++ [']']))))

end Grammar

theorem RecordSpelled.startsValue
    {record : Type} {names : List String} {entries : List (Entry record)}
    {text : List Char} (spelled : RecordSpelled names entries text) :
    StartsValue text := by
  cases spelled with
  | emptyObject | object => exact ⟨'\x7b', _, rfl, by decide⟩
  | emptyList | list => exact ⟨'[', _, rfl, by decide⟩

section Reading

variable {record : Type}

/-- A record after some entries were read into it. -/
def applyAll (entries : List (Entry record)) (current : record) : record :=
  entries.foldl (fun current entry => entry.update current) current

theorem applyAll_append
    (first second : List (Entry record)) (current : record) :
    applyAll (first ++ second) current =
      applyAll second (applyAll first current) :=
  List.foldl_append

/-- An entry that the fields of a record know how to read. -/
structure Entry.Fits (fields : List (Field record)) (entry : Entry record) :
    Prop where
  known : entry.name ∈ fields.map Field.name
  starts : ∀ {value : List Char}, entry.IsSpelled value → StartsValue value
  reads :
    ∀ field ∈ fields, field.name = entry.name →
      ∀ {space value left : List Char} (current : record),
        Blank space → entry.IsSpelled value → Boundary left →
          Reads (field.read current) (space ++ (value ++ left))
            (entry.update current) left

/-- An entry that one of the fields knows how to read. -/
theorem Entry.Fits.of_field
    {fields : List (Field record)} {field : Field record}
    {entry : Entry record} (distinct : (fields.map Field.name).Nodup)
    (isField : field ∈ fields) (named : field.name = entry.name)
    (starts : ∀ {value : List Char}, entry.IsSpelled value → StartsValue value)
    (reads : ∀ {space value left : List Char} (current : record),
      Blank space → entry.IsSpelled value → Boundary left →
        Reads (field.read current) (space ++ (value ++ left))
          (entry.update current) left) :
    entry.Fits fields where
  known := List.mem_map.mpr ⟨field, isField, named⟩
  starts := starts
  reads other isOther alsoNamed := by
    obtain rfl : other = field :=
      List.inj_on_of_nodup_map distinct isOther isField
        (alsoNamed.trans named.symm)
    exact reads

/-- Entries of which each changes a record in the same way before and after the
other. -/
def Entry.Commutes (first second : Entry record) : Prop :=
  ∀ current,
    second.update (first.update current) = first.update (second.update current)

instance : Std.Symm (@Entry.Commutes record) :=
  ⟨fun _ _ commutes state => (commutes state).symm⟩

/-- Entries that can be read into a record in any order. -/
structure Describes
    (fields : List (Field record)) (entries : List (Entry record)) :
    Prop where
  fits : ∀ entry ∈ entries, entry.Fits fields
  distinct : (entries.map Entry.name).Nodup
  independent : entries.Pairwise Entry.Commutes

/-! ## Members -/

variable {fields : List (Field record)} {seen : List String} (current : record)

theorem reads_readMember_known
    {entry : Entry record} {before after value left : List Char}
    (fits : entry.Fits fields) (fresh : entry.name ∉ seen)
    (isBefore : Blank before) (isAfter : Blank after)
    (spelled : entry.IsSpelled value) (boundary : Boundary left) :
    Reads (readMember fields seen entry.name current)
      (before ++ ':' :: (after ++ (value ++ left)))
      (entry.name :: seen, entry.update current)
      left := by
  obtain ⟨field, found⟩ :
      ∃ field, fields.find? (·.name = entry.name) = some field := by
    obtain ⟨field, isField, named⟩ := List.mem_map.mp fits.known
    exact Option.isSome_iff_exists.mp
      (List.find?_isSome.mpr ⟨field, isField, by simpa using named⟩)
  have isField : field ∈ fields := List.mem_of_find?_eq_some found
  have named : field.name = entry.name := by simpa using List.find?_some found
  have unseen : ¬ seen.contains entry.name := by simpa using fresh
  unfold readMember
  rw [found]
  simp only [unseen]
  refine (reads_readColon isBefore _).bind ?_
  exact (fits.reads field isField named current isAfter spelled boundary).bind
    (.pure _)

theorem reads_readMember_unknown
    {name : String} {before after value left : List Char}
    (unknown : name ∉ fields.map Field.name) (isBefore : Blank before)
    (isAfter : Blank after) (wellFormed : WellFormed .value value)
    (boundary : Boundary left) :
    Reads (readMember fields seen name current)
      (before ++ ':' :: (after ++ (value ++ left)))
      (seen, current) left := by
  have found : fields.find? (·.name = name) = none := by
    refine List.find?_eq_none.mpr fun field isField => ?_
    simpa using fun named => unknown (List.mem_map.mpr ⟨field, isField, named⟩)
  unfold readMember
  rw [found]
  refine (reads_readColon isBefore _).bind ?_
  exact (reads_skipValue isAfter wellFormed boundary).bind (.pure _)

/-- A member is read from its opening quote on. The names of its entries count
as seen. -/
theorem reads_readKeyed
    {written : List (Entry record)} {member left : List Char}
    (spelled : MemberSpelled (fields.map Field.name) written member)
    (fits : ∀ entry ∈ written, entry.Fits fields)
    (fresh : ∀ entry ∈ written, entry.name ∉ seen) (boundary : Boundary left) :
    ∃ rest,
      member = '"' :: rest ∧
        Reads (readKeyed fields seen current) (rest ++ left)
          (written.map Entry.name ++ seen, applyAll written current) left := by
  cases spelled with
  | @known entry key before after value isKey isBefore isAfter isValue =>
      obtain @⟨inner, isInner⟩ := isKey
      refine ⟨inner ++ '"' :: (before ++ ':' :: (after ++ value)), by simp, ?_⟩
      simp only [List.append_assoc, List.cons_append]
      refine (reads_readText isInner _).bind ?_
      exact reads_readMember_known current (fits entry (by simp))
        (fresh entry (by simp)) isBefore isAfter
        isValue boundary
  | @unknown name key before after value isKey unknown isBefore isAfter
      isValue =>
      obtain @⟨inner, isInner⟩ := isKey
      refine ⟨inner ++ '"' :: (before ++ ':' :: (after ++ value)), by simp, ?_⟩
      simp only [List.append_assoc, List.cons_append]
      refine (reads_readText isInner _).bind ?_
      exact reads_readMember_unknown current unknown isBefore isAfter
        isValue boundary

theorem MembersSpelled.boundary
    {names : List String} {later : List (Entry record)} {members : List Char}
    (spelled : MembersSpelled names later members) (rest : List Char) :
    Boundary (members ++ '\x7d' :: rest) := by
  cases spelled with
  | done blank => exact blank.boundary (boundary_closer .object rest)
  | more isBefore _ _ _ =>
      rw [List.append_assoc]
      exact isBefore.boundary (boundary_comma _)

/-- The members up to the closing brace are read in the order in which they are
written. -/
theorem reads_readMembers
    {written : List (Entry record)} {members : List Char}
    (spelled : MembersSpelled (fields.map Field.name) written members)
    (left : List Char) :
    ∀ {bound : Nat} {seen : List String} (current : record),
      members.length < bound →
      (∀ entry ∈ written, entry.Fits fields) →
        (written.map Entry.name ++ seen).Nodup →
          Reads (readMembers fields bound seen current)
            (members ++ '\x7d' :: left)
            (applyAll written current) left := by
  induction spelled with
  | done blank =>
      intro bound seen current enough fits distinct
      obtain ⟨bound, rfl⟩ :=
        Nat.exists_eq_add_one_of_ne_zero (by omega : bound ≠ 0)
      refine (reads_peekToken blank (by decide)).bind ?_
      exact (reads_skipChar _ _).bind (.pure _)
  | @more first later before after member members isBefore isAfter
      isMember isLater
      inductionHypothesis =>
      intro bound seen current enough fits distinct
      obtain ⟨bound, rfl⟩ :=
        Nat.exists_eq_add_one_of_ne_zero (by omega : bound ≠ 0)
      simp only [List.length_append, List.length_cons] at enough
      -- A name that was read is not among those to come, so no member counts as
      -- a duplicate.
      have laterDistinct :
          (later.map Entry.name ++ (first.map Entry.name ++ seen)).Nodup := by
        rw [List.map_append, List.append_assoc] at distinct
        exact (List.perm_append_comm_assoc _ _ _).nodup distinct
      have fresh : ∀ entry ∈ first, entry.name ∉ seen := by
        intro entry inside isSeen
        exact (List.nodup_append.mp distinct).2.2 _
          (List.mem_map_of_mem (by simp [inside])) _
          isSeen rfl
      obtain ⟨rest, rfl, keyed⟩ :=
        reads_readKeyed current isMember
          (fun entry inside => fits entry (by simp [inside])) fresh
          (isLater.boundary left)
      have readsLater :=
        inductionHypothesis (applyAll first current)
          (by omega : members.length < bound)
          (fun entry inside => fits entry (by simp [inside])) laterDistinct
      simp only [List.append_assoc, List.cons_append]
      refine (reads_peekToken isBefore (by decide)).bind ?_
      refine (reads_skipChar _ _).bind
        ((reads_peekToken isAfter (by decide)).bind ?_)
      refine (reads_skipChar _ _).bind (keyed.bind ?_)
      rw [applyAll_append]
      exact readsLater

theorem ElementsSpelled.boundary
    {later : List (Entry record)} {elements : List Char}
    (spelled : ElementsSpelled later elements) (rest : List Char) :
    Boundary (elements ++ ']' :: rest) := by
  cases spelled with
  | done blank => exact blank.boundary (boundary_closer .list rest)
  | more isBefore _ _ _ =>
      rw [List.append_assoc]
      exact isBefore.boundary (boundary_comma _)

theorem reads_readListEnd
    {space : List Char} (blank : Blank space) (left : List Char) :
    Reads readListEnd (space ++ ']' :: left) () left := by
  refine (reads_peekToken blank (by decide)).bind ?_
  exact reads_skipChar _ _

/-- The elements up to the closing bracket are read into the fields that
follow. -/
theorem reads_readElements
    {written : List (Entry record)} {elements : List Char}
    (spelled : ElementsSpelled written elements) (left : List Char) :
    ∀ {rest : List (Field record)} (current : record),
      (∀ field ∈ rest, field ∈ fields) →
      (∀ entry ∈ written, entry.Fits fields) →
        written.map Entry.name <+: rest.map Field.name →
          Reads (readElements rest current) (elements ++ ']' :: left)
            (applyAll written current)
            left := by
  induction spelled with
  | done blank =>
      intro rest current areFields fits leading
      cases rest with
      | nil => exact (reads_readListEnd blank left).bind (.pure _)
      | cons field later =>
          refine (reads_peekToken blank (by decide)).bind ?_
          exact (reads_skipChar _ _).bind (.pure _)
  | @more entry later before after value elements isBefore isAfter
      isValue isLater
      inductionHypothesis =>
      intro rest current areFields fits leading
      cases rest with
      | nil => simp at leading
      | cons field rest =>
      obtain ⟨named, laterLeading⟩ := List.cons_prefix_cons.mp leading
      have isFirst := fits entry List.mem_cons_self
      have readsLater :=
        inductionHypothesis (entry.update current)
          (fun other inside =>
            areFields other (List.mem_cons_of_mem field inside))
          (fun other inside => fits other (List.mem_cons_of_mem entry inside))
          laterLeading
      obtain ⟨first, following, rfl, solid⟩ := isFirst.starts isValue
      have noBracket : first ≠ ']' := ne_closer .list solid
      simp only [List.append_assoc, List.cons_append]
      refine (reads_peekToken isBefore (by decide)).bind ?_
      refine (reads_skipChar _ _).bind
        ((reads_peekToken isAfter (isSpace_eq_false solid)).bind ?_)
      simp only [noBracket, if_false]
      have readsFirst :=
        isFirst.reads field
          (areFields field List.mem_cons_self) named.symm current
          Blank.nil isValue
          (isLater.boundary left)
      exact readsFirst.bind readsLater

/-! ## Records -/

theorem reads_readObject
    {written later : List (Entry record)}
    {space member members left : List Char} (blank : Blank space)
    (isMember : MemberSpelled (fields.map Field.name) written member)
    (isLater : MembersSpelled (fields.map Field.name) later members)
    (fits : ∀ entry ∈ written ++ later, entry.Fits fields)
    (distinct : ((written ++ later).map Entry.name).Nodup) :
    Reads (readObject fields current)
      (space ++ (member ++ (members ++ '\x7d' :: left)))
      (applyAll (written ++ later) current) left := by
  obtain ⟨rest, rfl, keyed⟩ :=
    reads_readKeyed current isMember
      (fun entry inside => fits entry (by simp [inside]))
      (fun entry _ => List.not_mem_nil) (isLater.boundary left)
  have laterDistinct :
      (later.map Entry.name ++ (written.map Entry.name ++ [])).Nodup := by
    rw [List.map_append] at distinct
    rw [List.append_nil]
    exact List.perm_append_comm.nodup distinct
  have enough : members.length < (members ++ '\x7d' :: left).length + 1 := by
    rw [List.length_append]
    omega
  have readsLater :=
    reads_readMembers isLater left (applyAll written current) enough
      (fun entry inside => fits entry (by simp [inside])) laterDistinct
  refine (reads_peekToken blank (by decide)).bind ?_
  refine (reads_skipChar _ _).bind (keyed.bind ((reads_remaining _).bind ?_))
  rw [applyAll_append]
  exact readsLater

theorem reads_readList_empty
    {space : List Char} (blank : Blank space) (left : List Char) :
    Reads (readList fields current) (space ++ ']' :: left) current left := by
  cases fields with
  | nil => exact (reads_readListEnd blank left).bind (.pure _)
  | cons field rest =>
      refine (reads_peekToken blank (by decide)).bind ?_
      exact (reads_skipChar _ _).bind (.pure _)

theorem reads_readList
    {entry : Entry record} {later : List (Entry record)}
    {space value elements left : List Char} (blank : Blank space)
    (isValue : entry.IsSpelled value)
    (isLater : ElementsSpelled later elements)
    (fits : ∀ other ∈ entry :: later, other.Fits fields)
    (leading : (entry :: later).map Entry.name <+: fields.map Field.name) :
    Reads (readList fields current)
      (space ++ (value ++ (elements ++ ']' :: left)))
      (applyAll (entry :: later) current) left := by
  cases fields with
  | nil => simp at leading
  | cons field rest =>
  obtain ⟨named, laterLeading⟩ := List.cons_prefix_cons.mp leading
  have isFirst := fits entry List.mem_cons_self
  have readsFirst :=
    isFirst.reads field List.mem_cons_self named.symm current Blank.nil isValue
      (isLater.boundary left)
  have readsLater :=
    reads_readElements isLater left (entry.update current)
      (fun other inside => List.mem_cons_of_mem field inside)
      (fun other inside => fits other (List.mem_cons_of_mem entry inside))
        laterLeading
  obtain ⟨first, following, rfl, solid⟩ := isFirst.starts isValue
  have noBracket : first ≠ ']' := ne_closer .list solid
  refine (reads_peekToken blank (isSpace_eq_false solid)).bind ?_
  simp only [noBracket, if_false]
  exact readsFirst.bind readsLater

/-- The order in which the entries stand does not matter. -/
theorem Describes.applyAll_eq
    {written entries : List (Entry record)}
    (describes : Describes fields entries) (rearranged : written.Perm entries) :
    applyAll written current = applyAll entries current := by
  have commute := describes.independent.forall_of_forall fun _ _ _ => rfl
  refine rearranged.foldl_eq' (fun first isFirst second isSecond => ?_) current
  exact commute (rearranged.mem_iff.mp isFirst) (rearranged.mem_iff.mp isSecond)

/-- A record is read from each of the ways to write it. -/
theorem reads_readRecord
    {entries : List (Entry record)} {space text : List Char} (wanted : String)
    (describes : Describes fields entries) (blank : Blank space)
    (spelled : RecordSpelled (fields.map Field.name) entries text)
    (left : List Char) :
    Reads (readRecord wanted fields current) (space ++ (text ++ left))
      (applyAll entries current)
      left := by
  cases spelled with
  | emptyObject inside =>
      simp only [List.cons_append, List.append_assoc, List.nil_append]
      refine (reads_peekToken blank (by decide)).bind ?_
      refine
        (reads_skipChar _ _).bind ((reads_peekToken inside (by decide)).bind ?_)
      exact (reads_skipChar _ _).bind (.pure _)
  | object inside isMember isLater rearranged =>
      simp only [List.cons_append, List.append_assoc, List.nil_append]
      refine (reads_peekToken blank (by decide)).bind ?_
      refine (reads_skipChar _ _).bind ?_
      rw [← describes.applyAll_eq current rearranged]
      exact reads_readObject current inside isMember isLater
        (fun entry isEntry =>
          describes.fits entry (rearranged.mem_iff.mp isEntry))
        ((rearranged.map Entry.name).nodup_iff.mpr describes.distinct)
  | emptyList inside =>
      simp only [List.cons_append, List.append_assoc, List.nil_append]
      refine (reads_peekToken blank (by decide)).bind ?_
      exact (reads_skipChar _ _).bind (reads_readList_empty current inside left)
  | list inside isValue isLater leading =>
      simp only [List.cons_append, List.append_assoc, List.nil_append]
      refine (reads_peekToken blank (by decide)).bind ?_
      exact (reads_skipChar _ _).bind
        (reads_readList current inside isValue isLater describes.fits leading)

end Reading

theorem Reads.from_start
    {result : Type} {reader : Reader result} {document : String}
    {value : result} {left : List Char}
    (reads : Reads reader document.toList value left) :
    Prod.fst <$> reader (Cursor.start document) = .ok value := by
  obtain ⟨reached, succeeds⟩ := reads 0
  exact congrArg (Prod.fst <$> ·) succeeds

/-- After the value of a document only white space may follow. -/
theorem readDocument_of_reads
    {result : Type} {reader : Reader result} {document : String}
    {value : result} {space : List Char}
    (reads : Reads reader document.toList value space) (blank : Blank space) :
    readDocument reader document = .ok value :=
  Reads.from_start (reads.bind ((reads_peekToken_end blank).bind (.pure value)))

end CsrCensus.Json
