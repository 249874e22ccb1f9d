import CsrCensus.Census.Log
import CsrCensus.Command.Host
import CsrCensus.Image.Load
import CsrCensus.Listing.Image
import CsrCensus.Report.Text
import CsrCensus.Settings.Document
import CsrCensus.Text.Utf8

/-!
# Commands

The survey command writes the report on an image, the listing command the
listing of one. Both read the settings first and the image second. The survey
command creates its output only after the report is complete; the listing
command creates it before the regions of the image are known.
-/

namespace CsrCensus.Command

/-- What the survey command is asked for. -/
structure SurveyRequest where
  image : String
  output : Option String := none
  format : Image.FormatChoice := .auto
  settings : Option String := none
  littleEndian : Bool := false
  showNames : Bool := false
deriving DecidableEq, Repr

/-- What the listing command is asked for. -/
structure ListingRequest where
  image : String
  base : Option UInt64 := none
  format : Image.FormatChoice := .auto
  bigEndian : Bool := false
  output : String := standardOutputPath
  settings : Option String := none
deriving DecidableEq, Repr

/-- A command with what it is asked for. -/
inductive Request where
  | survey (request : SurveyRequest)
  | listing (request : ListingRequest)
deriving DecidableEq, Repr

variable {m : Type → Type} [Monad m] [Host m]

def readSettings (path : String) : Task m Settings := do
  match Text.ofUtf8? (← readFile path) with
  | none => throw (.file path .notUtf8)
  | some document =>
      match Settings.ofDocument document with
      | .ok settings => return settings
      | .error fault => throw (.settings document fault)

/-- The settings of a file, or the standard ones. -/
def chooseSettings : Option String → Task m Settings
  | none => return Settings.standard
  | some path => readSettings path

def readImage (path : String) : Task m Bytes := do
  let file ← readFile path
  match Image.ofFile path file with
  | .ok image =>
      logAll [Image.loadRecord path file image]
      return image
  | .error fault => throw (.file path (.gzip fault))

/-- The regions of an image, or the failure that it has none. -/
def orFail {result : Type} : Except Image.Fault result → Task m result
  | .ok value => return value
  | .error fault => throw (.image fault)

/-- The settings of a survey, as far as the request leaves them. -/
def SurveyRequest.adjust (request : SurveyRequest) (settings : Settings) :
    Settings :=
  { settings with
    survey :=
      if request.littleEndian then { settings.survey with order := .little }
      else settings.survey
    report :=
      { showNames := settings.report.showNames || request.showNames
        output := request.output.getD settings.report.output } }

def reportText (settings : Settings) (regions : List Image.Region) : String :=
  let surveyor : Surveyor := ⟨Csr.Table.standard, settings.survey.order⟩
  (Report.ofCensus (surveyor.survey regions) surveyor.table
    settings.report.showNames).text

/-- Says where the report is, unless it went to standard output. -/
def announceReport (path : String) : Target → Task m Unit
  | .standardOutput => return
  | .file _ => do
      let directory ← (Host.workingDirectory : m String)
      print ("Results written to " ++ Files.absoluteText directory path ++ "\n")

def runSurvey (request : SurveyRequest) : Task m Unit := do
  let settings := request.adjust (← chooseSettings request.settings)
  let image ← readImage request.image
  logAll (Image.sectionRecords .survey request.format image)
  let regions ← orFail (Image.regions .survey request.format image)
  logAll (Surveyor.records ⟨Csr.Table.standard, settings.survey.order⟩ regions)
  let path := settings.report.output
  let output ← openTarget (Target.ofPath path)
  writeOutput (reportText settings regions) output
  announceReport path (Target.ofPath path)

/-- How an image is listed: the settings, as far as the request leaves them. -/
def ListingRequest.plan
    (request : ListingRequest) (settings : Settings.Listing) : Listing.Plan :=
  { base := request.base.getD settings.base
    order := if request.bigEndian then .big else settings.order }

def listedRecord (region : Image.Region) : Log.Record :=
  ⟨.debug, .listing, "listing section",
    [("section", region.name),
      ("base", Numeral.decimal.text region.base.toNat)]⟩

/-- The records of the listed sections; a flat image has none. -/
def listedRecords
    (choice : Image.FormatChoice) (image : Bytes)
    (regions : List Image.Region) :
    List Log.Record :=
  match choice.resolve image with
  | .raw => []
  | .elf => regions.map listedRecord

/-- Says how many lines were written: in the log if they went to standard
output. -/
def announceListing (path : String) (count : Nat) : Target → Task m Unit
  | .standardOutput =>
      logAll
        [⟨.info, .command, "listing written to stdout",
          [("lines", Numeral.decimal.text count)]⟩]
  | .file _ =>
      print (Numeral.decimal.text count ++ " lines written to " ++ path ++ "\n")

def runListing (request : ListingRequest) : Task m Unit := do
  let plan := request.plan (← chooseSettings request.settings).listing
  let image ← readImage request.image
  let target := Target.ofPath request.output
  let output ← openTarget target
  logAll (Image.sectionRecords .listing request.format image)
  let regions ← orFail (Listing.regions plan request.format image)
  logAll (listedRecords request.format image regions)
  let lines := Listing.ofRegions plan.order regions
  writeOutput (Listing.text lines) output
  announceListing request.output lines.length target

/-- Runs a command. -/
def run : Request → Task m Unit
  | .survey request => runSurvey request
  | .listing request => runListing request

/-- The exit code of a run. -/
def exitCode : Except Failure Unit → UInt32
  | .ok () => 0
  | .error _ => 1

end CsrCensus.Command
