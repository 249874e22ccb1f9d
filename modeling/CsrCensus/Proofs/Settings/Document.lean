import CsrCensus.Proofs.Json.Record
import CsrCensus.Proofs.Json.Spelling
import CsrCensus.Proofs.Json.Value
import CsrCensus.Settings.Document

/-!
# Documents mean what they name

A document that names some of the settings sets those, and leaves the others at
their standard values. It may be written in any order, with any white space and
with members of other names; the document and its sections may be written as
lists.
-/

namespace CsrCensus.Settings

open Json

/-- What a document says about the survey. -/
structure Survey.Choices where
  order : Option ByteOrder
deriving DecidableEq, Repr

/-- What a document says about the report. -/
structure Report.Choices where
  showNames : Option Bool
  output : Option String
deriving DecidableEq, Repr

/-- What a document says about the listing. -/
structure Listing.Choices where
  base : Option UInt64
  order : Option ByteOrder
deriving DecidableEq, Repr

/-- What a document says, section by section. -/
structure Choices where
  survey : Option Survey.Choices
  report : Option Report.Choices
  listing : Option Listing.Choices
deriving DecidableEq, Repr

/-- What is not chosen keeps its standard value. -/
def Survey.Choices.settings (choices : Survey.Choices) : Survey :=
  { order := choices.order.getD standard.survey.order }

def Report.Choices.settings (choices : Report.Choices) : Report :=
  { showNames := choices.showNames.getD standard.report.showNames
    output := choices.output.getD standard.report.output }

def Listing.Choices.settings (choices : Listing.Choices) : Listing :=
  { base := choices.base.getD standard.listing.base
    order := choices.order.getD standard.listing.order }

def Choices.settings (choices : Choices) : Settings :=
  { survey := choices.survey.elim standard.survey Survey.Choices.settings
    report := choices.report.elim standard.report Report.Choices.settings
    listing := choices.listing.elim standard.listing Listing.Choices.settings }

def orderName : ByteOrder → String
  | .big => "big"
  | .little => "little"

def Survey.orderEntry (order : ByteOrder) : Entry Survey :=
  ⟨"word_order", TextSpelled (orderName order),
    fun survey => { survey with order }⟩

def Survey.Choices.entries (choices : Survey.Choices) : List (Entry Survey) :=
  (choices.order.map orderEntry).toList

def Report.showNamesEntry (showNames : Bool) : Entry Report :=
  ⟨"show_csr_names", BooleanSpelled showNames,
    fun report => { report with showNames }⟩

def Report.outputEntry (output : String) : Entry Report :=
  ⟨"output", TextSpelled output, fun report => { report with output }⟩

def Report.Choices.entries (choices : Report.Choices) : List (Entry Report) :=
  (choices.showNames.map showNamesEntry).toList ++
    (choices.output.map outputEntry).toList

def Listing.baseEntry (base : UInt64) : Entry Listing :=
  ⟨"base_address", IntegerSpelled base, fun listing => { listing with base }⟩

def Listing.orderEntry (order : ByteOrder) : Entry Listing :=
  ⟨"word_order", TextSpelled (orderName order),
    fun listing => { listing with order }⟩

def Listing.Choices.entries (choices : Listing.Choices) :
    List (Entry Listing) :=
  (choices.base.map baseEntry).toList ++ (choices.order.map orderEntry).toList

/-- The names of the settings in a section, in the order of a list. -/
def Survey.names : List String := ["word_order"]

def Report.names : List String := ["show_csr_names", "output"]

def Listing.names : List String := ["base_address", "word_order"]

def surveyEntry (choices : Survey.Choices) : Entry Settings :=
  ⟨"scan", RecordSpelled Survey.names choices.entries, fun settings =>
    { settings with survey := choices.settings }⟩

def reportEntry (choices : Report.Choices) : Entry Settings :=
  ⟨"report", RecordSpelled Report.names choices.entries, fun settings =>
    { settings with report := choices.settings }⟩

def listingEntry (choices : Listing.Choices) : Entry Settings :=
  ⟨"listing", RecordSpelled Listing.names choices.entries, fun settings =>
    { settings with listing := choices.settings }⟩

def Choices.entries (choices : Choices) : List (Entry Settings) :=
  (choices.survey.map surveyEntry).toList ++
    ((choices.report.map reportEntry).toList ++
      (choices.listing.map listingEntry).toList)

/-- The names of the sections, in the order of a list. -/
def names : List String := ["scan", "report", "listing"]

/-- Whether a document says what is chosen, and nothing else about the
settings. -/
def Choices.WrittenIn (choices : Choices) (document : String) : Prop :=
  ∃ before record after,
    Blank before ∧ RecordSpelled names choices.entries record ∧ Blank after ∧
      document.toList = before ++ (record ++ after)

/-! ## Entries -/

theorem Survey.Choices.eq_of_mem_entries
    {choices : Survey.Choices} {entry : Entry Survey}
    (isEntry : entry ∈ choices.entries) :
    ∃ order, entry = orderEntry order := by
  simp only [entries, Option.mem_toList, Option.map_eq_some_iff] at isEntry
  obtain ⟨order, -, rfl⟩ := isEntry
  exact ⟨order, rfl⟩

theorem Report.Choices.eq_of_mem_entries
    {choices : Report.Choices} {entry : Entry Report}
    (isEntry : entry ∈ choices.entries) :
    (∃ showNames, entry = showNamesEntry showNames) ∨
      ∃ output, entry = outputEntry output := by
  simp only [entries, List.mem_append, Option.mem_toList,
    Option.map_eq_some_iff] at isEntry
  rcases isEntry with ⟨showNames, -, rfl⟩ | ⟨output, -, rfl⟩
  · exact .inl ⟨showNames, rfl⟩
  · exact .inr ⟨output, rfl⟩

theorem Listing.Choices.eq_of_mem_entries
    {choices : Listing.Choices} {entry : Entry Listing}
    (isEntry : entry ∈ choices.entries) :
    (∃ base, entry = baseEntry base) ∨ ∃ order, entry = orderEntry order := by
  simp only [entries, List.mem_append, Option.mem_toList,
    Option.map_eq_some_iff] at isEntry
  rcases isEntry with ⟨base, -, rfl⟩ | ⟨order, -, rfl⟩
  · exact .inl ⟨base, rfl⟩
  · exact .inr ⟨order, rfl⟩

theorem Choices.eq_of_mem_entries
    {choices : Choices} {entry : Entry Settings}
    (isEntry : entry ∈ choices.entries) :
    (∃ survey, entry = surveyEntry survey) ∨
      (∃ report, entry = reportEntry report) ∨
      ∃ listing, entry = listingEntry listing := by
  simp only [entries, List.mem_append, Option.mem_toList,
    Option.map_eq_some_iff] at isEntry
  rcases isEntry with ⟨survey, -, rfl⟩ | ⟨report, -, rfl⟩ | ⟨listing, -, rfl⟩
  · exact .inl ⟨survey, rfl⟩
  · exact .inr (.inl ⟨report, rfl⟩)
  · exact .inr (.inr ⟨listing, rfl⟩)

/-- There is a document for each choice. -/
theorem Choices.exists_writtenIn (choices : Choices) :
    ∃ document, choices.WrittenIn document := by
  have sections :
      ∀ entry ∈ choices.entries, ∃ value, entry.IsSpelled value := by
    intro entry isEntry
    rcases eq_of_mem_entries isEntry with
      ⟨survey, rfl⟩ | ⟨report, rfl⟩ | ⟨listing, rfl⟩
    · refine exists_recordSpelled fun entry isEntry => ?_
      obtain ⟨order, rfl⟩ := Survey.Choices.eq_of_mem_entries isEntry
      exact exists_textSpelled (orderName order)
    · refine exists_recordSpelled fun entry isEntry => ?_
      rcases Report.Choices.eq_of_mem_entries isEntry with
        ⟨showNames, rfl⟩ | ⟨output, rfl⟩
      · exact ⟨_, rfl⟩
      · exact exists_textSpelled output
    · refine exists_recordSpelled fun entry isEntry => ?_
      rcases Listing.Choices.eq_of_mem_entries isEntry with
        ⟨base, rfl⟩ | ⟨order, rfl⟩
      · exact ⟨_, integerSpelled_decimal base⟩
      · exact exists_textSpelled (orderName order)
  obtain ⟨record, spelled⟩ := exists_recordSpelled sections
  exact ⟨String.ofList record, [], record, [], Blank.nil, spelled, Blank.nil,
    by simp⟩

theorem names_order (order : ByteOrder) :
    orderChoice.Names (orderName order) order := by
  cases order with
  | big => exact .first
  | little => exact .second (by decide)

theorem Survey.fits_orderEntry (order : ByteOrder) :
    (orderEntry order).Fits surveyFields :=
  .of_field (by decide) List.mem_cons_self rfl TextSpelled.startsValue
    fun current blank spelled _ =>
      (reads_readChoice blank (names_order order) spelled).map

theorem Survey.Choices.describes (choices : Survey.Choices) :
    Describes surveyFields choices.entries where
  fits entry isEntry := by
    obtain ⟨order, rfl⟩ := eq_of_mem_entries isEntry
    exact fits_orderEntry order
  distinct := by obtain ⟨_ | order⟩ := choices <;> simp [entries]
  independent := by obtain ⟨_ | order⟩ := choices <;> simp [entries]

theorem Survey.Choices.applyAll_entries (choices : Survey.Choices) :
    applyAll choices.entries {} = choices.settings := by
  obtain ⟨_ | order⟩ := choices <;> rfl

theorem Report.fits_showNamesEntry (showNames : Bool) :
    (showNamesEntry showNames).Fits reportFields :=
  .of_field (by decide) List.mem_cons_self rfl BooleanSpelled.startsValue
    fun current blank spelled _ => (reads_readBoolean blank spelled).map

theorem Report.fits_outputEntry (output : String) :
    (outputEntry output).Fits reportFields :=
  .of_field (by decide)
    (List.mem_cons_of_mem _ List.mem_cons_self) rfl TextSpelled.startsValue
    fun current blank spelled _ =>
      (reads_readString "path string" blank spelled).map

theorem Report.Choices.describes (choices : Report.Choices) :
    Describes reportFields choices.entries where
  fits entry isEntry := by
    rcases eq_of_mem_entries isEntry with ⟨showNames, rfl⟩ | ⟨output, rfl⟩
    · exact fits_showNamesEntry showNames
    · exact fits_outputEntry output
  distinct := by
    obtain ⟨_ | showNames, _ | output⟩ := choices <;>
      simp [entries, showNamesEntry, outputEntry]
  independent := by
    obtain ⟨_ | showNames, _ | output⟩ := choices <;>
      simp [entries, showNamesEntry, outputEntry, Entry.Commutes]

theorem Report.Choices.applyAll_entries (choices : Report.Choices) :
    applyAll choices.entries {} = choices.settings := by
  obtain ⟨_ | showNames, _ | output⟩ := choices <;> rfl

theorem Listing.fits_baseEntry (base : UInt64) :
    (baseEntry base).Fits listingFields :=
  .of_field (by decide) List.mem_cons_self rfl IntegerSpelled.startsValue
    fun current blank spelled boundary =>
      (reads_readUInt64 blank spelled boundary).map

theorem Listing.fits_orderEntry (order : ByteOrder) :
    (orderEntry order).Fits listingFields :=
  .of_field (by decide)
    (List.mem_cons_of_mem _ List.mem_cons_self) rfl TextSpelled.startsValue
    fun current blank spelled _ =>
      (reads_readChoice blank (names_order order) spelled).map

theorem Listing.Choices.describes (choices : Listing.Choices) :
    Describes listingFields choices.entries where
  fits entry isEntry := by
    rcases eq_of_mem_entries isEntry with ⟨base, rfl⟩ | ⟨order, rfl⟩
    · exact fits_baseEntry base
    · exact fits_orderEntry order
  distinct := by
    obtain ⟨_ | base, _ | order⟩ :=
      choices <;> simp [entries, baseEntry, orderEntry]
  independent := by
    obtain ⟨_ | base, _ | order⟩ := choices <;>
      simp [entries, baseEntry, orderEntry, Entry.Commutes]

theorem Listing.Choices.applyAll_entries (choices : Listing.Choices) :
    applyAll choices.entries {} = choices.settings := by
  obtain ⟨_ | base, _ | order⟩ := choices <;> rfl

/-! ## Documents -/

/-- A section is read as what it says, over the standard values. -/
theorem reads_section
    {record : Type} {fields : List (Json.Field record)}
    {entries : List (Entry record)} {current settings : record}
    {space value : List Char} (wanted : String)
    (describes : Describes fields entries)
    (applied : applyAll entries current = settings) (blank : Blank space)
    (spelled : RecordSpelled (fields.map Field.name) entries value)
    (left : List Char) :
    Reads (readRecord wanted fields current)
      (space ++ (value ++ left)) settings left :=
  applied ▸ reads_readRecord current wanted describes blank spelled left

theorem fits_surveyEntry (choices : Survey.Choices) :
    (surveyEntry choices).Fits fields :=
  .of_field (by decide) List.mem_cons_self rfl RecordSpelled.startsValue
    fun current blank spelled _ =>
      (reads_section "struct ScanConfig" choices.describes
        choices.applyAll_entries blank spelled _).map

theorem fits_reportEntry (choices : Report.Choices) :
    (reportEntry choices).Fits fields :=
  .of_field (by decide)
    (List.mem_cons_of_mem _ List.mem_cons_self) rfl RecordSpelled.startsValue
    fun current blank spelled _ =>
      (reads_section "struct ReportConfig" choices.describes
        choices.applyAll_entries blank spelled _).map

theorem fits_listingEntry (choices : Listing.Choices) :
    (listingEntry choices).Fits fields :=
  .of_field (by decide)
    (List.mem_cons_of_mem _ (List.mem_cons_of_mem _ List.mem_cons_self)) rfl
    RecordSpelled.startsValue
    fun current blank spelled _ =>
      (reads_section "struct ListingConfig" choices.describes
        choices.applyAll_entries blank spelled _).map

theorem Choices.describes (choices : Choices) :
    Describes fields choices.entries where
  fits entry isEntry := by
    rcases eq_of_mem_entries isEntry with
      ⟨survey, rfl⟩ | ⟨report, rfl⟩ | ⟨listing, rfl⟩
    · exact fits_surveyEntry survey
    · exact fits_reportEntry report
    · exact fits_listingEntry listing
  distinct := by
    obtain ⟨_ | survey, _ | report, _ | listing⟩ := choices <;>
      simp [entries, surveyEntry, reportEntry, listingEntry]
  independent := by
    obtain ⟨_ | survey, _ | report, _ | listing⟩ := choices <;>
      simp [entries, surveyEntry, reportEntry, listingEntry, Entry.Commutes]

theorem Choices.applyAll_entries (choices : Choices) :
    applyAll choices.entries standard = choices.settings := by
  obtain ⟨_ | survey, _ | report, _ | listing⟩ := choices <;> rfl

/-- A document that says what is chosen is read as those settings, with the
standard ones for all that is not chosen. -/
theorem ofDocument_of_writtenIn
    {choices : Choices} {document : String}
    (written : choices.WrittenIn document) :
    ofDocument document = .ok choices.settings := by
  obtain ⟨before, record, after, isBefore, spelled, isAfter, characters⟩ :=
    written
  have reads :=
    reads_section "struct Config" choices.describes choices.applyAll_entries
      isBefore spelled after
  rw [← characters] at reads
  exact readDocument_of_reads reads isAfter

/-- An object whose sections stand in another order, one with an escape in its
name and written as a list, and a member of another name whose value is a list
of a number and an object. -/
theorem ofDocument_of_writtenIn_mixed :
    Choices.WrittenIn ⟨some ⟨none⟩, some ⟨some true, none⟩, none⟩
        "\x7b\"\\u0072eport\":[true],\"k\":[-1.5e2, \x7b\"k\":null\x7d],\"scan\":\x7b\x7d\x7d " ∧
      ofDocument
          "\x7b\"\\u0072eport\":[true],\"k\":[-1.5e2, \x7b\"k\":null\x7d],\"scan\":\x7b\x7d\x7d " =
        .ok { report := { showNames := true } } := by
  have space : Blank [' '] := by decide
  have reportMember :
      MemberSpelled names [reportEntry ⟨some true, none⟩]
        "\"\\u0072eport\":[true]".toList := by
    have letter : CharSpelled 'r' "\\u0072".toList :=
      .unit ⟨rfl, forall_mem_of_all (by decide), by decide⟩
    have later : CharsSpelled "eport".toList "eport".toList :=
      .of_raw (forall_mem_of_all (by decide))
    have key : CharsSpelled "report".toList "\\u0072eport".toList :=
      .cons letter later
    have named :
        TextSpelled
          (reportEntry ⟨some true, none⟩).name "\"\\u0072eport\"".toList :=
      .quoted key
    have shown : (Report.showNamesEntry true).IsSpelled "true".toList := rfl
    have value :
        RecordSpelled Report.names [Report.showNamesEntry true]
          "[true]".toList :=
      .list Blank.nil shown (.done Blank.nil) (by decide)
    have chosen : (reportEntry ⟨some true, none⟩).IsSpelled "[true]".toList :=
      value
    exact .known named Blank.nil Blank.nil chosen
  have otherValue :
      WellFormed .value "[-1.5e2, \x7b\"k\":null\x7d]".toList := by
    have sign : ['-'] ∈ [[], ['-']] := by decide
    have whole : IsWhole ['1'] :=
      ⟨⟨by decide, forall_mem_of_all (by decide)⟩,
        fun zero => absurd zero (by decide)⟩
    have fraction : IsFraction ".5".toList :=
      .digits ⟨by decide, forall_mem_of_all (by decide)⟩
    have exponent : IsExponent "e2".toList :=
      .digits List.mem_cons_self List.mem_cons_self
        ⟨by decide, forall_mem_of_all (by decide)⟩
    have number : WellFormed .value "-1.5e2".toList :=
      .scalar (.number (.number sign whole fraction exponent))
    have key : Quoted "\"k\"".toList :=
      .quoted (.cons (.raw (by decide) (by decide) (by decide)) .nil)
    have label : IsLabel .object "\"k\":".toList :=
      .object key Blank.nil Blank.nil
    have null : WellFormed .value "null".toList :=
      .scalar (.literal (by decide))
    have member : WellFormed (.elements .object) "\"k\":null".toList :=
      .last label null Blank.nil
    have object : WellFormed .value "\x7b\"k\":null\x7d".toList :=
      .filled Blank.nil member
    have last : WellFormed (.elements .list) "\x7b\"k\":null\x7d".toList :=
      .last .list object Blank.nil
    have elements :
        WellFormed (.elements .list) "-1.5e2, \x7b\"k\":null\x7d".toList :=
      .more .list number Blank.nil space last
    exact .filled Blank.nil elements
  have otherMember :
      MemberSpelled names ([] : List (Entry Settings))
        "\"k\":[-1.5e2, \x7b\"k\":null\x7d]".toList := by
    have key : CharsSpelled "k".toList "k".toList :=
      .of_raw (forall_mem_of_all (by decide))
    have named : TextSpelled "k" "\"k\"".toList := .quoted key
    exact .unknown named (by decide) Blank.nil Blank.nil otherValue
  have surveyMember :
      MemberSpelled names [surveyEntry ⟨none⟩] "\"scan\":\x7b\x7d".toList := by
    have key : CharsSpelled "scan".toList "scan".toList :=
      .of_raw (forall_mem_of_all (by decide))
    have named : TextSpelled (surveyEntry ⟨none⟩).name "\"scan\"".toList :=
      .quoted key
    have value :
        RecordSpelled Survey.names
          ([] : List (Entry Survey)) "\x7b\x7d".toList :=
      .emptyObject Blank.nil
    have chosen : (surveyEntry ⟨none⟩).IsSpelled "\x7b\x7d".toList := value
    exact .known named Blank.nil Blank.nil chosen
  have written :
      Choices.WrittenIn ⟨some ⟨none⟩, some ⟨some true, none⟩, none⟩
        "\x7b\"\\u0072eport\":[true],\"k\":[-1.5e2, \x7b\"k\":null\x7d],\"scan\":\x7b\x7d\x7d " := by
    have members :
        MembersSpelled names ([] ++ ([surveyEntry ⟨none⟩] ++ [])) _ :=
      .more Blank.nil Blank.nil otherMember
        (.more Blank.nil Blank.nil surveyMember (.done Blank.nil))
    have record :=
      RecordSpelled.object Blank.nil reportMember members
        (List.Perm.swap (surveyEntry ⟨none⟩) _ [])
    exact ⟨[], _, [' '], Blank.nil, record, space, by decide⟩
  exact ⟨written, ofDocument_of_writtenIn written⟩

end CsrCensus.Settings
