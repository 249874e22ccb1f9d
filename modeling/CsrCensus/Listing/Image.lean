import CsrCensus.Failure

/-!
# Listings of an image

A flat image is listed from the base address of the settings, an ELF file
section by section at the addresses of its sections.
-/

namespace CsrCensus.Listing

/-- Where a flat image is listed, and how words are read. -/
structure Plan where
  base : UInt64
  order : ByteOrder
deriving DecidableEq, Repr

def regions (plan : Plan) (choice : Image.FormatChoice) (image : Bytes) :
    Except Image.Fault (List Image.Region) :=
  match choice.resolve image with
  | .raw => .ok [{ Image.Region.flat image with base := plan.base }]
  | .elf => Image.elfRegions .listing image

def ofImage (plan : Plan) (choice : Image.FormatChoice) (image : Bytes) :
    Except Image.Fault (List Line) :=
  (regions plan choice image).map (ofRegions plan.order)

/-- Writes the listing of an image to a sink, and gives the number of lines.
Nothing is written if the image has no regions. -/
def write
    (plan : Plan) (choice : Image.FormatChoice) (image : Bytes) (sink : Sink) :
    Except Failure Nat × Sink :=
  match ofImage plan choice image with
  | .error fault => (.error (.image fault), sink)
  | .ok lines =>
      let (result, written) := (Sink.writeListing lines).run sink
      (result.mapError fun fault => .output fault.message, written)

end CsrCensus.Listing
