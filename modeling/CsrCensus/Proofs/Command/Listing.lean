import CsrCensus.Proofs.Command.Survey

/-!
# A listing empties its file first

The listing command creates its output, or empties it, before the regions of the
image are known. `ListingRequest.Ends` says how a run ends. If the settings or
the image cannot be read, or if the output cannot be created, nothing has
changed. If the image has no regions, the run fails all the same, but it leaves
an empty file behind, and what the file held before is lost.
-/

namespace CsrCensus.Command

namespace ListingRequest

/-- The settings and the image of a request, by the files of a machine. -/
def HasInput
    (request : ListingRequest) (machine : Machine) (settings : Settings)
    (image : Bytes) : Prop :=
  machine.HasSettings request.settings settings ∧
    machine.HasImage request.image image

/-- The regions that a request is to list. -/
def regions (request : ListingRequest) (settings : Settings) (image : Bytes) :
    Except Image.Fault (List Image.Region) :=
  Listing.regions (request.plan settings.listing) request.format image

/-- The lines of the regions that a request is to list. -/
def lines
    (request : ListingRequest) (settings : Settings)
    (regions : List Image.Region) :
    List Listing.Line :=
  Listing.ofRegions (request.plan settings.listing).order regions

/-- The ways in which a listing ends, with what it leaves behind. -/
inductive Ends (request : ListingRequest) (before after : Machine) :
    Except Failure Unit → Prop
  | unread (failure : Failure)
      (nothing : ∀ settings image, ¬ request.HasInput before settings image)
      (unchanged : before.Unchanged after) :
      Ends request before after (.error failure)
  | uncreated (failure : Failure) (closed : ¬ before.CanWrite request.output)
      (unchanged : before.Unchanged after) :
      Ends request before after (.error failure)
  /-- An image without regions leaves standard output as it was. -/
  | unlisted (settings : Settings) (image : Bytes) (fault : Image.Fault)
      (input : request.HasInput before settings image)
      (found : request.regions settings image = .error fault)
      (toOutput : request.output = standardOutputPath)
        (unchanged : before.Unchanged after) :
      Ends request before after (.error (.image fault))
  /-- An image without regions empties a file. -/
  | emptied (settings : Settings) (image : Bytes) (fault : Image.Fault)
      (input : request.HasInput before settings image)
      (found : request.regions settings image = .error fault)
      (named : request.output ≠ standardOutputPath)
      (writable : before.CanWrite request.output)
      (printed_eq : after.printed = before.printed)
      (wrote : before.WroteOnly after request.output "") :
      Ends request before after (.error (.image fault))
  | listed (settings : Settings) (image : Bytes) (regions : List Image.Region)
      (input : request.HasInput before settings image)
      (found : request.regions settings image = .ok regions)
      (writable : before.CanWrite request.output)
      (delivered :
        before.Delivered after request.output
          (Listing.text (request.lines settings regions))) :
      Ends request before after (.ok ())

end ListingRequest

/-- How a listing goes on once its output is open. -/
def fill (request : ListingRequest) (settings : Settings) (image : Bytes)
    (output : Output (StateM Machine)) : Task (StateM Machine) Unit := do
  logAll (Image.sectionRecords .listing request.format image)
  let regions ← orFail (request.regions settings image)
  logAll (listedRecords request.format image regions)
  writeOutput (Listing.text (request.lines settings regions)) output
  announceListing request.output (request.lines settings regions).length
    (Target.ofPath request.output)

/-- A listing comes as far as its output with its settings and its image, or it
fails before, having logged at most. -/
theorem perform_runListing (machine : Machine) (request : ListingRequest) :
    (∃ settings image logged,
      request.HasInput machine settings image ∧
        machine.perform (runListing request) =
          (machine.withLog logged).perform
            (openTarget (Target.ofPath request.output) >>=
              fill request settings image)) ∨
    ((∀ settings image, ¬ request.HasInput machine settings image) ∧
      ∃ failure logged,
        machine.perform (runListing request) =
          (.error failure, machine.withLog logged)) := by
  rcases machine.perform_inputs request.settings request.image
    fun settings image =>
      openTarget (Target.ofPath request.output) >>=
        fill request settings image with
    ⟨settings, image, logged, hasSettings, hasImage, performs⟩ |
      ⟨nothing, fails⟩
  · exact .inl ⟨settings, image, logged, ⟨hasSettings, hasImage⟩, performs⟩
  · exact .inr ⟨nothing, fails⟩

section Output

variable (machine : Machine) (request : ListingRequest) {settings : Settings}
  {image : Bytes}

theorem perform_fill_error
    {fault : Image.Fault} (output : Output (StateM Machine))
    (found : request.regions settings image = .error fault) :
    ∃ logged,
      machine.perform (fill request settings image output) =
        (.error (.image fault), machine.withLog logged) := by
  unfold fill
  rw [found]
  exact machine.perform_found _ (.error fault) _

theorem perform_fill_ok
    {regions : List Image.Region} (output : Output (StateM Machine))
    (found : request.regions settings image = .ok regions) :
    ∃ logged,
      machine.perform (fill request settings image output) =
        (machine.withLog logged).perform (do
          writeOutput (Listing.text (request.lines settings regions)) output
          announceListing request.output (request.lines settings regions).length
            (Target.ofPath request.output)) := by
  unfold fill
  rw [found]
  obtain ⟨first, goesOn⟩ := machine.perform_found _ (.ok regions) _
  obtain ⟨second, logsListed⟩ :=
    (machine.withLog first).perform_logAll
      (listedRecords request.format image regions)
  refine ⟨second, goesOn.trans ?_⟩
  simp only
  rw [Machine.perform_bind, logsListed]
  rfl

/-- A listing on standard output is printed, and counted in the log. -/
theorem perform_write_standardOutput (text : String) (count : Nat) :
    ∃ logged,
      machine.perform (do
          writeOutput text .standardOutput
          announceListing request.output count .standardOutput) =
        (.ok (),
          { machine with printed := machine.printed ++ text, logged }) := by
  obtain ⟨logged, logs⟩ :=
    Machine.perform_logAll { machine with printed := machine.printed ++ text }
      [⟨.info, .command, "listing written to stdout",
        [("lines", Numeral.decimal.text count)]⟩]
  exact ⟨logged, logs⟩

/-- A listing in a file just created is put there as a whole. -/
theorem perform_write_file
    {location : Files.Location} (inside : location ≠ []) (text : String)
    (count : Nat) :
    Machine.perform { machine with
      disk := machine.disk.put location (.file []) } (do
        writeOutput text (.file location)
        announceListing request.output count (.file request.output)) =
      (.ok (),
        { machine with
          disk := machine.disk.put location (.file (Text.toUtf8 text))
          printed :=
            machine.printed ++
              (Numeral.decimal.text count ++ " lines written to " ++
                request.output ++
                "\n") }) := by
  rw [Machine.perform_bind, Machine.perform_writeOutput_file]
  simp only
  rw [extendFile_put_empty machine inside]
  rfl

end Output

section Ending

variable {machine : Machine} {request : ListingRequest} {settings : Settings}
  {image : Bytes}

theorem ends_on_standardOutput
    (input : request.HasInput machine settings image)
    (toOutput : request.output = standardOutputPath) :
    ∃ outcome after,
      machine.perform
          (openTarget (Target.ofPath request.output) >>=
            fill request settings image) =
        (outcome, after) ∧
        request.Ends machine after outcome := by
  have opens : Target.ofPath request.output = .standardOutput := if_pos toOutput
  have writable : machine.CanWrite request.output := .inl toOutput
  cases found : request.regions settings image with
  | error fault =>
      obtain ⟨logged, fails⟩ :=
        perform_fill_error machine request .standardOutput found
      rw [opens]
      exact ⟨_, _, fails,
        .unlisted settings image fault input found toOutput ⟨rfl, rfl⟩⟩
  | ok regions =>
      obtain ⟨first, goesOn⟩ :=
        perform_fill_ok machine request .standardOutput found
      obtain ⟨second, prints⟩ :=
        perform_write_standardOutput (machine.withLog first) request
          (Listing.text (request.lines settings regions))
          (request.lines settings regions).length
      rw [opens] at goesOn ⊢
      exact ⟨_, _, goesOn.trans prints,
        .listed settings image regions input found writable
          ⟨fun _ => ⟨rfl, rfl⟩, fun named => absurd toOutput named⟩⟩

theorem ends_in_file
    (input : request.HasInput machine settings image)
    (named : request.output ≠ standardOutputPath) :
    ∃ outcome after,
      machine.perform
          (openTarget (Target.ofPath request.output) >>=
            fill request settings image) =
        (outcome, after) ∧
        request.Ends machine after outcome := by
  have opens : Target.ofPath request.output = .file request.output :=
    if_neg named
  rw [opens, Machine.perform_bind, Machine.perform_openTarget]
  cases target : machine.disk.target machine.directory request.output with
  | error fault =>
      have closed : ¬ machine.CanWrite request.output := by
        simp [Machine.CanWrite, named, target]
      exact ⟨_, _, rfl, .uncreated _ closed ⟨rfl, rfl⟩⟩
  | ok location =>
  have writable : machine.CanWrite request.output := .inr ⟨location, target⟩
  obtain ⟨start, parent, name, -, rfl⟩ := Files.Disk.leadsTo_of_target target
  -- From here on the file is there and empty, whatever it held before.
  let created : Machine :=
    { machine with disk := machine.disk.put (parent ++ [name]) (.file []) }
  cases found : request.regions settings image with
  | error fault =>
      obtain ⟨logged, fails⟩ :=
        perform_fill_error created request (.file (parent ++ [name])) found
      have wrote := writes_put "" machine.printed target
      exact ⟨_, _, fails,
        .emptied settings image fault input found named writable rfl
          ⟨wrote.read_eq, wrote.elsewhere⟩⟩
  | ok regions =>
      obtain ⟨logged, goesOn⟩ :=
        perform_fill_ok created request (.file (parent ++ [name])) found
      have fills :=
        perform_write_file (machine.withLog logged) request
          (show parent ++ [name] ≠ [] by simp)
          (Listing.text (request.lines settings regions))
            (request.lines settings regions).length
      have wrote :=
        writes_put
          (Listing.text (request.lines settings regions)) machine.printed target
      rw [opens] at goesOn
      exact ⟨_, _, goesOn.trans fills,
        .listed settings image regions input found writable
          ⟨fun same => absurd same named, fun _ =>
            ⟨wrote.read_eq, wrote.elsewhere⟩⟩⟩

end Ending

/-! ## The whole command -/

theorem ListingRequest.Ends.of_withLog
    {request : ListingRequest} {before after : Machine}
    {logged : Array Log.Record} {outcome : Except Failure Unit}
    (ends : request.Ends (before.withLog logged) after outcome) :
    request.Ends before after outcome := by
  cases ends with
  | unread failure nothing unchanged =>
      exact .unread failure nothing ⟨unchanged.printed_eq, unchanged.disk_eq⟩
  | uncreated failure closed unchanged =>
      exact .uncreated failure closed ⟨unchanged.printed_eq, unchanged.disk_eq⟩
  | unlisted settings image fault input found toOutput unchanged =>
      exact .unlisted settings image fault input found toOutput
        ⟨unchanged.printed_eq, unchanged.disk_eq⟩
  | emptied settings image fault input found named writable printed_eq wrote =>
      exact .emptied settings image fault input found named writable printed_eq
        ⟨wrote.read_eq, wrote.elsewhere⟩
  | listed settings image regions input found writable delivered =>
      exact
        .listed settings image regions input found writable delivered.of_withLog

/-- However a listing is asked for, and whatever the disk holds, it ends in one
of the ways that `ListingRequest.Ends` lists. The listing is made of what the
files held before the run. -/
theorem listing_ends (machine : Machine) (request : ListingRequest) :
    ∃ outcome after,
      machine.perform (run (.listing request)) = (outcome, after) ∧
        request.Ends machine after outcome := by
  change ∃ outcome after,
    machine.perform (runListing request) = (outcome, after) ∧ _
  rcases perform_runListing machine request with
    ⟨settings, image, logged, input, performs⟩ |
      ⟨nothing, failure, logged, performs⟩
  · rw [performs]
    have logging : request.HasInput (machine.withLog logged) settings image :=
      input
    by_cases toOutput : request.output = standardOutputPath
    · obtain ⟨outcome, after, runs, ends⟩ :=
        ends_on_standardOutput logging toOutput
      exact ⟨outcome, after, runs, ends.of_withLog⟩
    · obtain ⟨outcome, after, runs, ends⟩ := ends_in_file logging toOutput
      exact ⟨outcome, after, runs, ends.of_withLog⟩
  · exact ⟨_, _, performs, .unread failure nothing ⟨rfl, rfl⟩⟩

/-- The beginning of an ELF file, cut off within its header. -/
def cutImage : Bytes :=
  [0x7F, 0x45, 0x4C, 0x46, 1, 1, 1, 0, 0, 0, 0, 0, 0, 0, 0, 0, 2, 0, 0xF3, 0]

/-- A machine with the beginning of an ELF file, and a listing made before. -/
def olderMachine : Machine :=
  Machine.start
    ⟨[(["image.elf"], .file cutImage),
      (["out.txt"], .file (Text.toUtf8 "0x80000000 0x00000073\n"))]⟩
    [] "/"

/-- The listing of that image, to be put where the older listing is. -/
def cutRequest : ListingRequest :=
  { image := "image.elf", output := "out.txt" }

/-- A listing of a malformed image fails, and the older listing is lost. -/
theorem listing_empties_older_listing :
    cutRequest.HasInput olderMachine Settings.standard cutImage ∧
      cutRequest.regions Settings.standard cutImage =
        .error (.malformed .header) ∧
      exitCode (olderMachine.perform (run (.listing cutRequest))).1 = 1 ∧
      olderMachine.disk.read olderMachine.directory cutRequest.output =
        .ok (Text.toUtf8 "0x80000000 0x00000073\n") ∧
      (olderMachine.perform (run (.listing cutRequest))).2.disk.read
          olderMachine.directory cutRequest.output =
        .ok [] := by
  have image : olderMachine.HasImage cutRequest.image cutImage :=
    ⟨cutImage, by rfl, by rfl⟩
  exact ⟨⟨rfl, image⟩, by rfl, by decide +kernel, by rfl, by decide +kernel⟩

end CsrCensus.Command
