import CsrCensus.Census.Survey
import CsrCensus.Log.Record

/-!
# The log of a survey

One record for each region, each sighting, each incomplete word, and one with
the totals.
-/

namespace CsrCensus.Surveyor

def regionRecord (region : Image.Region) : Log.Record :=
  ⟨.debug, .survey,
    "scanning region at 0x" ++ Numeral.lowerWord.text region.base.toNat,
    [("region", region.name),
      ("len", Numeral.decimal.text region.bytes.length)]⟩

/-- The labels of a class, if there is one. -/
def classSuffix : Option Csr.Class → String
  | none => ""
  | some cls => " | " ++ cls.privilege.label ++ " | " ++ cls.usage.label

def sightingRecord (sighting : Sighting) : Log.Record :=
  ⟨.debug, .survey,
    "0x" ++ Numeral.lowerWord.text sighting.offset.toNat ++ ": 0x" ++
      Numeral.lowerWord.text sighting.word.toNat ++ " -> " ++
      sighting.instruction.text ++
      classSuffix sighting.cls,
    []⟩

/-- The record of an incomplete word. -/
def remainderRecord (remainder : Remainder) : Log.Record :=
  ⟨.warn, .survey,
    "incomplete instruction at end of input (0x" ++
      Numeral.lowerWord.text remainder.offset.toNat ++ ")",
    [("len", Numeral.decimal.text remainder.length)]⟩

/-- Puts the records of the words of some bytes behind the records already
made. -/
def appendRecords
    (surveyor : Surveyor) (made : Array Log.Record) (offset : UInt64) :
    Bytes → Array Log.Record
  | first :: second :: third :: fourth :: rest =>
      let made :=
        match surveyor.sighting? offset
          (surveyor.order.word first second third fourth) with
        | none => made
        | some sighting => made.push (sightingRecord sighting)
      surveyor.appendRecords made (offset + 4) rest
  | [] => made
  | held => made.push (remainderRecord ⟨offset, held.length⟩)

def orderName : ByteOrder → String
  | .big => "Big"
  | .little => "Little"

def totalsRecord (surveyor : Surveyor) (census : Census) : Log.Record :=
  ⟨.info, .survey, "scan complete",
    [ ("words", Numeral.decimal.text census.words),
      ("system", Numeral.decimal.text census.systemWords),
      ("unknown", Numeral.decimal.text census.reserved.size),
      ("csr_accesses", Numeral.decimal.text census.accesses),
      ("word_order", orderName surveyor.order) ]⟩

def records (surveyor : Surveyor) (regions : List Image.Region) :
    List Log.Record :=
  let made :=
    regions.foldl
      (fun made region =>
        surveyor.appendRecords (made.push (regionRecord region)) region.base
          region.bytes)
      #[]
  made.toList ++ [surveyor.totalsRecord (surveyor.survey regions)]

end CsrCensus.Surveyor
