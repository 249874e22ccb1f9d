import CsrCensus.Listing.Sink
import CsrCensus.Proofs.Text.Parts

/-!
# Lines of a listing

The lines of a region follow its bytes four by four. On a sink that never fails
the whole text of a listing is written, and the lines can be read off it.
-/

namespace CsrCensus

namespace Listing

open Text

/-- Bytes filled up with zeros to whole words. -/
def padded (bytes : Bytes) : Bytes :=
  bytes ++ List.replicate (4 * ((bytes.length + 3) / 4) - bytes.length) 0

theorem length_padded (bytes : Bytes) :
    (padded bytes).length = 4 * ((bytes.length + 3) / 4) := by
  rw [padded, List.length_append, List.length_replicate]
  omega

theorem getElem?_padded
    {bytes : Bytes} {index : Nat} (inside : index < bytes.length) :
    (padded bytes)[index]? = bytes[index]? :=
  List.getElem?_append_left inside

theorem padded_cons (first second third fourth : UInt8) (rest : Bytes) :
    padded (first :: second :: third :: fourth :: rest) =
      first :: second :: third :: fourth :: padded rest := by
  have count :
      4 * ((rest.length + 1 + 1 + 1 + 1 + 3) / 4)
        - (rest.length + 1 + 1 + 1 + 1) =
        4 * ((rest.length + 3) / 4) - rest.length := by
    omega
  simp only [padded, List.length_cons, count, List.cons_append]

private theorem toList_appendLines (order : ByteOrder) :
    ∀ (bytes : Bytes) (made : Array Line) (address : UInt64),
      (appendLines order made address bytes).toList =
        made.toList ++ ofBytes order address bytes
  | first :: second :: third :: fourth :: rest, made, address => by
      have later := toList_appendLines order rest
      simp only [ofBytes, appendLines]
      rw [later, later, Array.toList_push, Array.toList_push, List.append_assoc]
      rfl
  | [first, second, third], made, address => by simp [ofBytes, appendLines]
  | [first, second], made, address => by simp [ofBytes, appendLines]
  | [first], made, address => by simp [ofBytes, appendLines]
  | [], made, address => by simp [ofBytes, appendLines]

theorem ofBytes_cons
    (order : ByteOrder) (address : UInt64) (first second third fourth : UInt8)
    (rest : Bytes) :
    ofBytes order address (first :: second :: third :: fourth :: rest) =
      ⟨address, order.word first second third fourth⟩ ::
        ofBytes order (address + 4) rest := by
  rw [ofBytes, appendLines, toList_appendLines]
  rfl

theorem text_cons (line : Line) (rest : List Line) :
    text (line :: rest) = line.text ++ text rest := by
  simp [text]

theorem text_append (left right : List Line) :
    text (left ++ right) = text left ++ text right := by
  induction left with
  | nil => exact String.empty_append.symm
  | cons line rest inductionHypothesis =>
      rw [List.cons_append, text_cons, text_cons, inductionHypothesis,
        String.append_assoc]

private theorem toList_text_cons (line : Line) (rest : List Line) :
    (text (line :: rest)).toList =
      "0x".toList ++ ((Numeral.word.text line.address.toNat).toList ++ ' ' ::
        ("0x".toList ++ ((Numeral.word.text line.value.toNat).toList ++ '\n' ::
          (text rest).toList))) := by
  have second : " 0x".toList = ' ' :: "0x".toList := by decide
  simp [text_cons, Line.text, second]

/-- The lines of a listing can be read off its text. -/
theorem eq_of_text_eq :
    ∀ {left right : List Line}, text left = text right → left = right
  | [], [], _ => rfl
  | [], line :: rest, equal => by
      have characters := congrArg String.toList equal
      rw [toList_text_cons] at characters
      cases characters
  | line :: rest, [], equal => by
      have characters := congrArg String.toList equal
      rw [toList_text_cons] at characters
      cases characters
  | first :: more, second :: others, equal => by
      have characters := congrArg String.toList equal
      rw [toList_text_cons, toList_text_cons] at characters
      obtain ⟨address, afterAddress⟩ :=
        numeral_eq_of_append (by decide) (by decide) (by decide)
          (List.append_cancel_left characters)
      obtain ⟨value, afterValue⟩ :=
        numeral_eq_of_append (by decide) (by decide) (by decide)
          (List.append_cancel_left afterAddress)
      have lines : first = second := by
        cases first
        cases second
        rw [Line.mk.injEq]
        exact ⟨UInt64.toNat_inj.mp address, UInt32.toNat_inj.mp value⟩
      rw [lines, eq_of_text_eq (String.toList_inj.mp afterValue)]

/-- A line without its line feed. -/
def Line.row (line : Line) : String :=
  "0x" ++ Numeral.word.text line.address.toNat ++ " 0x" ++
    Numeral.word.text line.value.toNat

theorem Line.row_isLine (line : Line) : IsLine line.row := by
  have word (number : Nat) : IsCell (Numeral.word.text number) :=
    isCell_numeral (by decide) (by decide) number
  apply IsCell.isLine
  simp only [row, isCell_append, word, and_true]
  decide

theorem text_eq_join (lines : List Line) :
    text lines =
      String.join ((lines.map Line.row).map fun row => row ++ "\n") := by
  rw [text, List.map_map]
  rfl

/-- The lines of a text of a listing are those of the listing. -/
theorem linesOf_text (lines : List Line) :
    linesOf (text lines) = lines.map Line.row := by
  have single : ∀ line ∈ lines.map Line.row, IsLine line := by
    intro row member
    obtain ⟨line, _, rfl⟩ := List.mem_map.mp member
    exact line.row_isLine
  rw [text_eq_join, linesOf_join single]

end Listing

namespace Sink

theorem run_writeLines_of_unlimited (flushFails : Bool) :
    ∀ (lines : List Listing.Line) (accepted : String),
      (writeLines lines).run ⟨accepted, none, flushFails⟩ =
        (.ok (), ⟨accepted ++ Listing.text lines, none, flushFails⟩)
  | [], accepted => by
      rw [Listing.text, List.map_nil, String.join_nil, String.append_empty]
      rfl
  | line :: rest, accepted => by
      have later :=
        run_writeLines_of_unlimited flushFails rest (accepted ++ line.text)
      rw [Listing.text_cons, ← String.append_assoc, ← later]
      rfl

theorem run_writeListing_unlimited (lines : List Listing.Line) :
    (writeListing lines).run unlimited =
      (.ok lines.length,
        { unlimited with accepted := Listing.text lines }) := by
  have whole := run_writeLines_of_unlimited false lines ""
  rw [String.empty_append] at whole
  unfold writeListing
  rw [ExceptT.run_bind]
  simp only [unlimited, bind, StateT.bind, whole]
  rfl

end Sink

end CsrCensus
