import CsrCensus.Json.Record

/-!
# Settings

What can be set for the survey, the report and the listing, with the values that
hold if nothing is set. Settings are given as a JSON document with a section for
each of the three; what a document leaves out keeps its standard value.
-/

namespace CsrCensus

namespace Settings

/-- Settings of the survey. -/
structure Survey where
  order : ByteOrder := .big
deriving DecidableEq, Repr

/-- Settings of the report. -/
structure Report where
  showNames : Bool := false
  output : String := "csr_instructions.txt"
deriving DecidableEq, Repr

/-- Settings of the listing. -/
structure Listing where
  base : UInt64 := 0x80000000
  order : ByteOrder := .little
deriving DecidableEq, Repr

end Settings

/-- All settings. -/
structure Settings where
  survey : Settings.Survey := {}
  report : Settings.Report := {}
  listing : Settings.Listing := {}
deriving DecidableEq, Repr

/-- The settings that hold if nothing is set. -/
def Settings.standard : Settings := {}

end CsrCensus

namespace CsrCensus.Settings

def orderChoice : Json.Choice ByteOrder := ⟨"big", .big, "little", .little⟩

def surveyFields : List (Json.Field Survey) :=
  [⟨"word_order", fun current =>
    do return { current with order := ← Json.readChoice orderChoice }⟩]

def reportFields : List (Json.Field Report) :=
  [ ⟨"show_csr_names", fun current => do
      return { current with showNames := ← Json.readBoolean }⟩,
    ⟨"output", fun current => do
      return { current with output := ← Json.readString "path string" }⟩ ]

def listingFields : List (Json.Field Listing) :=
  [ ⟨"base_address", fun current => do
      return { current with base := ← Json.readUInt64 }⟩,
    ⟨"word_order", fun current => do
      return { current with order := ← Json.readChoice orderChoice }⟩ ]

/-- The sections of a document. -/
def fields : List (Json.Field Settings) :=
  [ ⟨"scan", fun settings => do
      return { settings with
        survey := ← Json.readRecord "struct ScanConfig" surveyFields {} }⟩,
    ⟨"report", fun settings => do
      return { settings with
        report := ← Json.readRecord "struct ReportConfig" reportFields {} }⟩,
    ⟨"listing", fun settings => do
      return { settings with
        listing :=
          ← Json.readRecord "struct ListingConfig" listingFields {} }⟩ ]

def ofDocument (document : String) : Except Json.Fault Settings :=
  Json.readDocument (Json.readRecord "struct Config" fields standard) document

end CsrCensus.Settings
