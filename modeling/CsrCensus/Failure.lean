import CsrCensus.Census.Stream
import CsrCensus.Files.Disk
import CsrCensus.Gzip.Bits
import CsrCensus.Image.Format
import CsrCensus.Json.Fault
import CsrCensus.Listing.Sink

/-!
# Failures

Everything that ends a run early, with its wording.
-/

namespace CsrCensus

/-- What is wrong with a named file. -/
inductive FileProblem where
  | access (fault : Files.Fault)
  | notUtf8
  | gzip (fault : Gzip.Fault)
deriving DecidableEq, Repr

/-- The wording of a problem. -/
def FileProblem.message : FileProblem → String
  | .access fault => fault.message
  | .notUtf8 => "stream did not contain valid UTF-8"
  | .gzip fault => fault.message

/-- Why a run ended early. -/
inductive Failure where
  /-- A file could not be read or created. -/
  | file (path : String) (problem : FileProblem)
  /-- A stream failed during a survey. -/
  | stream (failure : Stream.Failure)
  /-- A settings document is not valid. -/
  | settings (document : String) (fault : Json.Fault)
  /-- An image has no regions. -/
  | image (fault : Image.Fault)
  /-- Output could not be written. -/
  | output (reason : String)
deriving DecidableEq, Repr

def Failure.message : Failure → String
  | .file path problem => "could not read '" ++ path ++ "': " ++ problem.message
  | .stream failure =>
      "input stream failed at offset 0x" ++
        Numeral.lowerWord.text failure.offset.toNat ++ ": " ++
        failure.reason
  | .settings document fault =>
      "invalid configuration: " ++ fault.message document
  | .image fault => fault.message
  | .output reason => "could not write output: " ++ reason

end CsrCensus
