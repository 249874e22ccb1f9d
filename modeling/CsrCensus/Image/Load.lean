import CsrCensus.Files.Path
import CsrCensus.Gzip.Member
import CsrCensus.Image.Format
import CsrCensus.Log.Record
import CsrCensus.Text.Numeral

/-!
# Loading an image

A file is inflated if its name has the extension `gz` or its first bytes are
those of a gzip file. What is found on the way is logged.
-/

namespace CsrCensus.Image

/-- Whether a file is inflated. -/
def isCompressed (path : String) (file : Bytes) : Bool :=
  (Files.Path.ofText path).hasExtension "gz" || Gzip.magic.isPrefixOf file

def ofFile (path : String) (file : Bytes) : Except Gzip.Fault Bytes :=
  if isCompressed path file then Gzip.decompress file else .ok file

def loadRecord (path : String) (file image : Bytes) : Log.Record :=
  let decimal := fun bytes : Bytes => Numeral.decimal.text bytes.length
  if isCompressed path file then
    ⟨.debug, .loading, "gzip image inflated",
      [("path", path), ("compressed", decimal file), ("len", decimal image)]⟩
  else ⟨.debug, .loading, "image loaded",
    [("path", path), ("len", decimal image)]⟩

def sectionRecord (region : Region) : Log.Record :=
  ⟨.debug, .loading,
    "section at 0x" ++ Numeral.lowerWord.text region.base.toNat,
    [("section", region.name),
      ("len", Numeral.decimal.text region.bytes.length)]⟩

/-- The records of the sections taken from an image, in file order. -/
def sectionRecords (purpose : Purpose) (choice : FormatChoice) (image : Bytes) :
    List Log.Record :=
  match choice.resolve image with
  | .raw => []
  | .elf =>
      match Elf.sections image with
      | .error _ => []
      | .ok sections => (select purpose sections).found.map sectionRecord

end CsrCensus.Image
