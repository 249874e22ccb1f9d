import CsrCensus.Proofs.Command.Stages

/-!
# A survey is all or nothing

A run of the survey command succeeds exactly if the settings and the image can
be read, the image has regions, and the output can be created. Then the output
holds the report, made of what the files held before the run, and no other file
has changed. Else nothing has changed and nothing was printed.
-/

namespace CsrCensus.Command

/-- The report that a request asks for, and where it is to be written, by the
files of a machine. -/
def SurveyRequest.Reports
    (request : SurveyRequest) (machine : Machine) (path report : String) :
    Prop :=
  ∃ settings image regions,
    machine.HasSettings request.settings settings ∧
      machine.HasImage request.image image ∧
      Image.regions .survey request.format image = .ok regions ∧
      path = request.output.getD settings.report.output ∧
      report =
        (Report.ofCensus
          (Surveyor.survey
            { table := Csr.Table.standard
              order :=
                if request.littleEndian then .little
                else settings.survey.order }
            regions)
          Csr.Table.standard (settings.report.showNames ||
            request.showNames)).text

theorem Machine.HasSettings.unique
    {machine : Machine} {path : Option String} {first second : Settings}
    (hasFirst : machine.HasSettings path first)
    (hasSecond : machine.HasSettings path second) :
    first = second := by
  obtain ⟨outcome, -, outcome_iff⟩ := machine.perform_chooseSettings path
  exact Except.ok.inj (((outcome_iff first).mpr hasFirst).symm.trans
    ((outcome_iff second).mpr hasSecond))

theorem Machine.HasImage.unique
    {machine : Machine} {path : String} {first second : Bytes}
    (hasFirst : machine.HasImage path first)
    (hasSecond : machine.HasImage path second) :
    first = second := by
  obtain ⟨outcome, logged, -, outcome_iff⟩ := machine.perform_readImage path
  exact Except.ok.inj (((outcome_iff first).mpr hasFirst).symm.trans
    ((outcome_iff second).mpr hasSecond))

/-- A request asks for one report at one path. -/
theorem SurveyRequest.Reports.unique
    {request : SurveyRequest} {machine : Machine}
    {path report otherPath otherReport : String}
    (reports : request.Reports machine path report)
    (alsoReports : request.Reports machine otherPath otherReport) :
    otherPath = path ∧ otherReport = report := by
  obtain ⟨settings, image, regions, hasSettings, hasImage, found, rfl, rfl⟩ :=
    reports
  obtain ⟨otherSettings, otherImage, otherRegions, hasOther, hasOtherImage,
    foundOther, rfl, rfl⟩ :=
    alsoReports
  cases hasSettings.unique hasOther
  cases hasImage.unique hasOtherImage
  cases found.symm.trans foundOther
  exact ⟨rfl, rfl⟩

namespace Machine

/-- Whether output to a path can be written. -/
def CanWrite (machine : Machine) (path : String) : Prop :=
  path = standardOutputPath ∨
    ∃ location, machine.disk.target machine.directory path = .ok location

/-- A machine on which a text was written to standard output, and nothing else
was done to it. -/
structure PrintedOnly (before after : Machine) (text : String) : Prop where
  printed_eq : after.printed = before.printed ++ text
  disk_eq : after.disk = before.disk

/-- A machine on which a text was written to the file at a path, and no other
file was changed. -/
structure WroteOnly (before after : Machine) (path text : String) : Prop where
  read_eq : after.disk.read before.directory path = .ok (Text.toUtf8 text)
  elsewhere :
    ∃ location,
      before.disk.target before.directory path = .ok location ∧
        ∀ other, other ≠ location →
          Files.Disk.entry? after.disk other =
            Files.Disk.entry? before.disk other

/-- A machine on which a report was delivered where its path says. -/
structure Delivered (before after : Machine) (path report : String) : Prop where
  printed : path = standardOutputPath → before.PrintedOnly after report
  written : path ≠ standardOutputPath → before.WroteOnly after path report

/-- A machine on which nothing was changed but the log. -/
structure Unchanged (before after : Machine) : Prop where
  printed_eq : after.printed = before.printed
  disk_eq : after.disk = before.disk

theorem Delivered.of_withLog
    {before after : Machine} {logged : Array Log.Record} {path report : String}
    (delivered : (before.withLog logged).Delivered after path report) :
    before.Delivered after path report where
  printed toOutput :=
    ⟨(delivered.printed toOutput).printed_eq,
      (delivered.printed toOutput).disk_eq⟩
  written toFile :=
    ⟨(delivered.written toFile).read_eq, (delivered.written toFile).elsewhere⟩

end Machine

/-- How a survey ends once its report is complete. -/
def deliver (path report : String) : Task (StateM Machine) Unit := do
  let output ← openTarget (Target.ofPath path)
  writeOutput report output
  announceReport path (Target.ofPath path)

theorem reportText_adjust
    (request : SurveyRequest) (settings : Settings)
    (regions : List Image.Region) :
    reportText (request.adjust settings) regions =
      (Report.ofCensus
        (Surveyor.survey
          { table := Csr.Table.standard
            order :=
              if request.littleEndian then .little else settings.survey.order }
          regions)
        Csr.Table.standard (settings.report.showNames ||
          request.showNames)).text := by
  unfold reportText SurveyRequest.adjust
  cases request.littleEndian <;> rfl

/-- How a survey goes on once it has its settings and its image. -/
def surveyImage
    (request : SurveyRequest) (settings : Settings) (image : Bytes) :
    Task (StateM Machine) Unit := do
  let adjusted := request.adjust settings
  logAll (Image.sectionRecords .survey request.format image)
  let regions ← orFail (Image.regions .survey request.format image)
  logAll (Surveyor.records ⟨Csr.Table.standard, adjusted.survey.order⟩ regions)
  deliver adjusted.report.output (reportText adjusted regions)

section Image

variable (machine : Machine) (request : SurveyRequest) (settings : Settings)
  {image : Bytes}

theorem perform_surveyImage_error
    {fault : Image.Fault}
    (found : Image.regions .survey request.format image = .error fault) :
    ∃ logged,
      machine.perform (surveyImage request settings image) =
        (.error (.image fault), machine.withLog logged) := by
  unfold surveyImage
  rw [found]
  exact machine.perform_found _ (.error fault) _

theorem perform_surveyImage_ok
    {regions : List Image.Region}
    (found : Image.regions .survey request.format image = .ok regions) :
    ∃ logged,
      machine.perform (surveyImage request settings image) =
        (machine.withLog logged).perform
          (deliver (request.adjust settings).report.output
            (reportText (request.adjust settings) regions)) := by
  unfold surveyImage
  rw [found]
  obtain ⟨first, goesOn⟩ := machine.perform_found _ (.ok regions) _
  obtain ⟨second, logsSightings⟩ :=
    (machine.withLog first).perform_logAll
      (Surveyor.records ⟨Csr.Table.standard,
        (request.adjust settings).survey.order⟩ regions)
  refine ⟨second, goesOn.trans ?_⟩
  simp only
  rw [Machine.perform_bind, logsSightings]
  rfl

end Image

/-- A survey comes as far as its output with the report it asks for, or it fails
before, having logged at most. -/
theorem perform_runSurvey (machine : Machine) (request : SurveyRequest) :
    (∃ path report logged,
      request.Reports machine path report ∧
        machine.perform (runSurvey request) =
          (machine.withLog logged).perform (deliver path report)) ∨
    ((∀ path report, ¬ request.Reports machine path report) ∧
      ∃ failure logged,
        machine.perform (runSurvey request) =
          (.error failure, machine.withLog logged)) := by
  rcases machine.perform_inputs request.settings request.image
    (surveyImage request) with
    ⟨settings, image, first, hasSettings, hasImage, performs⟩ | ⟨nothing, fails⟩
  · cases found : Image.regions .survey request.format image with
    | error fault =>
        obtain ⟨second, fails⟩ :=
          perform_surveyImage_error
            (machine.withLog first) request settings found
        refine .inr
          ⟨fun path report => ?_, .image fault, second, performs.trans fails⟩
        rintro ⟨otherSettings, other, regions, -, hasOther, foundOther, -⟩
        cases hasImage.unique hasOther
        cases found.symm.trans foundOther
    | ok regions =>
        obtain ⟨second, goesOn⟩ :=
          perform_surveyImage_ok (machine.withLog first) request settings found
        exact .inl ⟨_, _, second,
          ⟨settings, image, regions, hasSettings, hasImage, found, rfl,
          reportText_adjust request settings regions⟩, performs.trans goesOn⟩
  · refine .inr ⟨fun path report => ?_, fails⟩
    rintro ⟨settings, image, regions, hasSettings, hasImage, -⟩
    exact nothing settings image ⟨hasSettings, hasImage⟩

theorem perform_deliver_standardOutput (machine : Machine) (report : String) :
    machine.perform (deliver standardOutputPath report) =
      (.ok (), { machine with printed := machine.printed ++ report }) :=
  rfl

/-- A file that was created and then filled holds what it was filled with. -/
theorem extendFile_put_empty
    (machine : Machine) {location : Files.Location} (inside : location ≠ [])
    (text : String) :
    Machine.extendFile { machine with
      disk := machine.disk.put location (.file []) } location text =
      { machine with
        disk := machine.disk.put location (.file (Text.toUtf8 text)) } := by
  simp only [Machine.extendFile, Files.Disk.entry?_put_self machine.disk inside,
    Files.Disk.put_put, List.nil_append]

/-- To deliver to a file is to put it there as a whole. -/
theorem perform_deliver_file
    (machine : Machine) {path : String} (named : path ≠ standardOutputPath)
    (report : String) :
    machine.perform (deliver path report) =
      match machine.disk.target machine.directory path with
      | .error fault => (.error (.file path (.access fault)), machine)
      | .ok location =>
          (.ok (),
            { machine with
              disk := machine.disk.put location (.file (Text.toUtf8 report))
              printed :=
                machine.printed ++
                  ("Results written to " ++
                    Files.absoluteText machine.directoryText path ++
                    "\n") }) := by
  have toFile : Target.ofPath path = .file path := if_neg named
  unfold deliver
  rw [toFile, Machine.perform_bind, Machine.perform_openTarget]
  cases target : machine.disk.target machine.directory path with
  | error fault => rfl
  | ok location =>
      obtain ⟨start, parent, name, -, rfl⟩ :=
        Files.Disk.leadsTo_of_target target
      simp only
      rw [Machine.perform_bind, Machine.perform_writeOutput_file]
      simp only
      rw [extendFile_put_empty machine (by simp)]
      rfl

theorem writes_put
    {machine : Machine} {path : String} {location : Files.Location}
    (text printed : String)
    (target : machine.disk.target machine.directory path = .ok location) :
    machine.WroteOnly
      { machine with
        disk := machine.disk.put location (.file (Text.toUtf8 text)), printed }
      path text where
  read_eq := Files.Disk.read_put_of_target (Text.toUtf8 text) target
  elsewhere :=
    ⟨location, target,
      fun _ different => Files.Disk.entry?_put_of_ne machine.disk different _⟩

/-- A report is delivered if its path can be written. Else nothing is
changed. -/
theorem perform_deliver (machine : Machine) (path report : String) :
    ∃ outcome after,
      machine.perform (deliver path report) = (outcome, after) ∧
        (exitCode outcome = 0 ↔ machine.CanWrite path) ∧
        (exitCode outcome = 0 → machine.Delivered after path report) ∧
        (exitCode outcome ≠ 0 → machine.Unchanged after) := by
  by_cases named : path = standardOutputPath
  · subst named
    refine ⟨_, _, perform_deliver_standardOutput machine report, ?_,
      fun _ => ?_, nofun⟩
    · exact ⟨fun _ => .inl rfl, fun _ => rfl⟩
    · exact ⟨fun _ => ⟨rfl, rfl⟩, fun other => absurd rfl other⟩
  · rw [perform_deliver_file machine named]
    cases target : machine.disk.target machine.directory path with
    | error fault =>
        have closed : ¬ machine.CanWrite path := by
          simp [Machine.CanWrite, named, target]
        exact
          ⟨_, _, rfl, ⟨nofun, fun writable => absurd writable closed⟩, nofun,
          fun _ => ⟨rfl, rfl⟩⟩
    | ok location =>
        refine ⟨_, _, rfl, ⟨fun _ => .inr ⟨location, target⟩, fun _ => rfl⟩,
          fun _ => ?_, nofun⟩
        exact
          ⟨fun same => absurd same named, fun _ => writes_put report _ target⟩

/-! ## The whole command -/

/-- The survey command exits with 0 exactly if there is a report and its path
can be written. Then the report is delivered there. Else it exits with 1, and
nothing is printed or changed on the disk. The report is made of what the files
held before the run. -/
theorem survey_all_or_nothing (machine : Machine) (request : SurveyRequest) :
    ∃ outcome after,
      machine.perform (run (.survey request)) = (outcome, after) ∧
        (exitCode outcome = 0 ↔
          ∃ path report,
            request.Reports machine path report ∧ machine.CanWrite path) ∧
        (exitCode outcome = 0 →
          ∀ path report,
            request.Reports machine path report →
              machine.Delivered after path report) ∧
        (exitCode outcome ≠ 0 →
          exitCode outcome = 1 ∧ machine.Unchanged after) := by
  change ∃ outcome after,
    machine.perform (runSurvey request) = (outcome, after) ∧ _
  rcases perform_runSurvey machine request with
    ⟨path, report, logged, reports, performs⟩ |
      ⟨nothing, failure, logged, performs⟩
  · obtain ⟨outcome, after, delivers, succeeds_iff, delivered, unchanged⟩ :=
      perform_deliver (machine.withLog logged) path report
    refine ⟨outcome, after, performs.trans delivers, ?_, ?_, ?_⟩
    · refine succeeds_iff.trans
        ⟨fun writable => ⟨path, report, reports, writable⟩, ?_⟩
      rintro ⟨otherPath, otherReport, alsoReports, writable⟩
      obtain ⟨rfl, -⟩ := reports.unique alsoReports
      exact writable
    · intro succeeds otherPath otherReport alsoReports
      obtain ⟨rfl, rfl⟩ := reports.unique alsoReports
      exact (delivered succeeds).of_withLog
    · intro fails
      have one : exitCode outcome = 1 := by
        cases outcome with
        | ok _ => exact absurd rfl fails
        | error _ => rfl
      exact ⟨one, (unchanged fails).printed_eq, (unchanged fails).disk_eq⟩
  · refine ⟨_, _, performs, ⟨nofun, ?_⟩, nofun, fun _ => ⟨rfl, rfl, rfl⟩⟩
    rintro ⟨path, report, reports, -⟩
    exact absurd reports (nothing path report)

end CsrCensus.Command
