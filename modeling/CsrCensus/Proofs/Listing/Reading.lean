import CsrCensus.Proofs.Listing.Address
import CsrCensus.Proofs.Listing.Replay
import CsrCensus.Proofs.Listing.Words
import Mathlib.Algebra.GroupWithZero.Nat

/-!
# Reading a listing back

The fields of a line are read as the address and the value of a word. So a
listing gives back the bytes it shows, with the zeros that fill up the last
word.
-/

namespace CsrCensus

namespace Address

/-- A numeral without underscores is read as its address. -/
theorem IsNumeralOf.parse_eq
    {address : UInt64} {characters : List Char}
    (numeral : IsNumeralOf address characters) (plain : '_' ∉ characters) :
    parse (String.ofList characters) = .ok address := by
  have trim : Text.IsTrimOf characters (String.ofList characters).toList := by
    have ends : ∀ character ∈ ([] : List Char), Text.isBlank character := nofun
    rw [String.toList_ofList]
    simpa using Text.isTrimOf_of_not_blank ends ends numeral.isBlank_eq_false
  have whole : characters.filter (· ≠ '_') = characters := by
    rw [List.filter_eq_self]
    intro character member
    simpa using ne_of_mem_of_not_mem member plain
  rw [parse_of_isTrimOf trim, whole]
  exact numeral.read

/-- A field of a listing is read as the number that it shows. -/
theorem parse_field (address : UInt64) :
    parse ("0x" ++ Numeral.word.text address.toNat) = .ok address := by
  have numeral :
      IsNumeralOf address ('0' :: 'x' :: Numeral.word.chars address.toNat) :=
    .hexadecimal Numeral.word rfl 'x' (.inl rfl)
  have plain : '_' ∉ '0' :: 'x' :: Numeral.word.chars address.toNat := by
    intro member
    rcases List.mem_cons.mp member with zero | later
    · exact absurd zero (by decide)
    rcases List.mem_cons.mp later with mark | digit
    · exact absurd mark (by decide)
    · have alphanumeric : '_'.isAlphanum :=
        Numeral.Format.isAlphanum_of_mem_chars (by decide) (by decide) _ _ digit
      exact absurd alphanumeric (by decide)
  have characters :
      "0x" ++ Numeral.word.text address.toNat =
        String.ofList ('0' :: 'x' :: Numeral.word.chars address.toNat) := by
    apply String.toList_inj.mp
    rw [String.toList_append, Numeral.Format.text, String.toList_ofList,
      String.toList_ofList, String.toList_ofList]
    rfl
  rw [characters]
  exact numeral.parse_eq plain

end Address

namespace Listing

open Image Surveyor Text

/-- A line has two fields, which are read as its address and its value. -/
theorem Line.map_parse_wordsOf (line : Line) :
    (wordsOf line.row).map Address.parse =
      [.ok line.address, .ok line.value.toUInt64] := by
  have single (number : Nat) :
      ' ' ∉ ("0x" ++ Numeral.word.text number).toList := by
    rw [String.toList_append, List.mem_append, not_or]
    exact
      ⟨by decide, not_mem_numeral (by decide) (by decide) (by decide) number⟩
  have row :
      line.row =
        "0x" ++ Numeral.word.text line.address.toNat ++ " " ++
          ("0x" ++ Numeral.word.text line.value.toUInt64.toNat) := by
    have second : " 0x" = " " ++ "0x" := by decide
    rw [Line.row, UInt32.toNat_toUInt64, second]
    simp only [String.append_assoc]
  rw [row, wordsOf_append_space (single _), wordsOf_of_not_mem (single _),
    List.map_cons, List.map_singleton, Address.parse_field, Address.parse_field]

/-- The values of a listing, stored as bytes, are the bytes it shows, filled up
with zeros. -/
theorem flatMap_bytes_ofBytes (order : ByteOrder) :
    ∀ (base : UInt64) (bytes : Bytes),
      ((ofBytes order base bytes).map Line.value).flatMap order.bytes =
        padded bytes
  | base, first :: second :: third :: fourth :: rest => by
      rw [ofBytes_cons, padded_cons, List.map_cons, List.flatMap_cons,
        order.bytes_word, flatMap_bytes_ofBytes order (base + 4) rest]
      rfl
  | base, [first, second, third] => by
      change order.bytes (order.word first second third 0) ++ [] = _
      rw [order.bytes_word]
      simp [padded]
  | base, [first, second] => by
      change order.bytes (order.word first second 0 0) ++ [] = _
      rw [order.bytes_word]
      simp [padded]
  | base, [first] => by
      change order.bytes (order.word first 0 0 0) ++ [] = _
      rw [order.bytes_word]
      simp [padded]
  | base, [] => rfl

theorem text_ofRegions (order : ByteOrder) (regions : List Region) :
    text (ofRegions order regions) =
      String.join (regions.map fun region =>
        text (ofBytes order region.base region.bytes)) := by
  induction regions with
  | nil => rfl
  | cons first rest inductionHypothesis =>
      rw [ofRegions, List.flatMap_cons, text_append, List.map_cons,
        String.join_cons]
      exact congrArg _ inductionHypothesis

theorem length_ofRegions (order : ByteOrder) (regions : List Region) :
    (ofRegions order regions).length =
      (regions.map fun region => (region.bytes.length + 3) / 4).sum := by
  rw [ofRegions, List.length_flatMap]
  simp only [length_ofBytes]

/-- What is read off the rows of a text that shows some bytes: the address of
every word, and its value. -/
structure ReadsAs
    (order : ByteOrder) (base : UInt64) (bytes : Bytes) (rows : List String)
    (words : List Word) :
    Prop where
  single : ∀ row ∈ rows, IsLine row
  count : rows.length = (bytes.length + 3) / 4
  fields :
    rows.map (fun row => (wordsOf row).map Address.parse) =
      words.mapIdx fun index word =>
        [.ok (addressAt base index), .ok word.toUInt64]
  stored :
    ∃ filling < 4, words.flatMap order.bytes = bytes ++ List.replicate filling 0

theorem readsAs_ofBytes (order : ByteOrder) (base : UInt64) (bytes : Bytes) :
    ReadsAs order base bytes ((ofBytes order base bytes).map Line.row)
      ((ofBytes order base bytes).map Line.value) where
  single := by
    intro row member
    obtain ⟨line, -, rfl⟩ := List.mem_map.mp member
    exact line.row_isLine
  count := by rw [List.length_map, length_ofBytes]
  fields := by
    apply List.ext_getElem
    · rw [List.length_map, List.length_map, List.length_mapIdx, List.length_map]
    · intro index left right
      have inside : index < (ofBytes order base bytes).length := by
        simpa using left
      have line :
          (ofBytes order base bytes)[index] =
            ⟨addressAt base index, wordAt order (padded bytes) index⟩ := by
        simp [ofBytes_eq_map, addressedWords]
      rw [List.getElem_map, List.getElem_map, List.getElem_mapIdx,
        List.getElem_map, Line.map_parse_wordsOf, line]
  stored :=
    ⟨4 * ((bytes.length + 3) / 4) - bytes.length, by omega,
      flatMap_bytes_ofBytes order base bytes⟩

/-- The listing of some bytes is read back row by row: the addresses count up
from the base, and the values are the bytes and some zeros. The listing of an
ELF file is that of its regions, one behind the other, each from its own
base. -/
theorem write_reads_back (order : ByteOrder) :
    (∀ base bytes, ∃ rows words,
        write ⟨base, order⟩ (.only .raw) bytes Sink.unlimited =
            (.ok ((bytes.length + 3) / 4),
              { Sink.unlimited with
                accepted := String.join (rows.map fun row => row ++ "\n") }) ∧
          ReadsAs order base bytes rows words) ∧
      ∀ base choice image regions,
        choice.resolve image = .elf →
          Image.regions .listing choice image = .ok regions →
          write ⟨base, order⟩ choice image Sink.unlimited =
            (.ok (regions.map fun region => (region.bytes.length + 3) / 4).sum,
              { Sink.unlimited with
                accepted :=
                  String.join <| regions.map fun region =>
                    (write ⟨region.base, order⟩ (.only .raw) region.bytes
                      Sink.unlimited).2.accepted }) := by
  have flat (base : UInt64) (bytes : Bytes) :
      write ⟨base, order⟩ (.only .raw) bytes Sink.unlimited =
        (.ok (ofBytes order base bytes).length,
          { Sink.unlimited with
            accepted := text (ofBytes order base bytes) }) :=
    write_unlimited (ofImage_of_raw ⟨base, order⟩ rfl)
  constructor
  · intro base bytes
    refine ⟨(ofBytes order base bytes).map Line.row,
      (ofBytes order base bytes).map Line.value, ?_,
      readsAs_ofBytes order base bytes⟩
    rw [flat, length_ofBytes, text_eq_join]
  · intro base choice image regions elf found
    have listed :
        ofImage ⟨base, order⟩ choice image = .ok (ofRegions order regions) := by
      rw [ofImage_of_elf _ elf, found]
      rfl
    rw [write_unlimited listed, length_ofRegions, text_ofRegions]
    simp only [flat]

theorem write_reads_back_adjoining :
    FormatChoice.auto.resolve adjoiningSections = .elf ∧
      Image.regions .listing .auto adjoiningSections =
        .ok [⟨Elf.Section.unnamed, 0x1000, [0xAA]⟩,
          ⟨Elf.Section.unnamed, 0x1001, [0xBB, 0xCC]⟩] ∧
      write ⟨7, .little⟩ .auto adjoiningSections Sink.unlimited =
        (.ok 2, { Sink.unlimited with
          accepted := "0x00001000 0x000000AA\n0x00001001 0x0000CCBB\n" }) := by
  have elf : FormatChoice.auto.resolve adjoiningSections = .elf := by decide
  refine ⟨elf, regions_adjoiningSections, ?_⟩
  rw [(write_reads_back .little).2 7 .auto adjoiningSections _ elf
    regions_adjoiningSections]
  decide

end Listing

end CsrCensus
