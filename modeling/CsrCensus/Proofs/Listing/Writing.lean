import CsrCensus.Proofs.Listing.Replay
import CsrCensus.Proofs.Text.Ascii

/-!
# Listings on a sink that fails

A sink that is given a text line by line keeps what it would keep of the whole
text at once, and so does one that takes only a part at each call. So a sink
that fails has accepted the beginning of the listing, as far as there was room
for it.
-/

namespace CsrCensus

namespace Sink

section Room

variable {text accepted : String} {room : Nat} {flushFails : Bool}

theorem run_write_of_le (fits : text.length ≤ room) :
    (write text).run ⟨accepted, some room, flushFails⟩ =
      (.ok (), ⟨accepted ++ text, some (room - text.length), flushFails⟩) := by
  change (ite (text.length ≤ room) _ _ : Writing Unit).run _ = _
  rw [if_pos fits]
  rfl

theorem run_write_of_lt (exceeds : room < text.length) :
    (write text).run ⟨accepted, some room, flushFails⟩ =
      (.error .full,
        ⟨accepted ++ String.ofList (text.toList.take room), some 0,
          flushFails⟩) := by
  change (ite (text.length ≤ room) _ _ : Writing Unit).run _ = _
  rw [if_neg (Nat.not_le.mpr exceeds)]
  rfl

end Room

theorem run_bind
    {first second : Type} (writing : Writing first)
    (next : first → Writing second) (sink : Sink) :
    (writing >>= next).run sink =
      match writing.run sink with
      | (.ok value, after) => (next value).run after
      | (.error fault, after) => (.error fault, after) := by
  rw [ExceptT.run_bind]
  change StateT.run _ sink = _
  rw [StateT.run_bind]
  change _ = match StateT.run writing.run sink with
      | (.ok value, after) => (next value).run after
      | (.error fault, after) => (.error fault, after)
  obtain ⟨outcome, after⟩ : Except Fault first × Sink :=
    StateT.run writing.run sink
  cases outcome <;> rfl

/-- A text is written in two parts as it is written at once. -/
theorem run_write_append (left right : String) (sink : Sink) :
    (write (left ++ right)).run sink =
      (do write left; write right : Writing Unit).run sink := by
  obtain ⟨accepted, room, flushFails⟩ := sink
  rw [run_bind]
  cases room with
  | none =>
      change _ =
        (Except.ok (), (⟨accepted ++ left ++ right, none, flushFails⟩ : Sink))
      rw [String.append_assoc]
      rfl
  | some room =>
      by_cases leftFits : left.length ≤ room
      · rw [run_write_of_le leftFits]
        by_cases rightFits : right.length ≤ room - left.length
        · have fits : (left ++ right).length ≤ room := by
            rw [String.length_append]
            omega
          simp only [run_write_of_le fits, run_write_of_le rightFits,
            String.length_append, String.append_assoc, Nat.sub_add_eq]
        · have exceeds : room < (left ++ right).length := by
            rw [String.length_append]
            omega
          have beginning :
              (left ++ right).toList.take room =
                left.toList ++ right.toList.take (room - left.length) := by
            rw [String.toList_append, List.take_append, String.length_toList,
              List.take_of_length_le (by rwa [String.length_toList])]
          simp only [run_write_of_lt exceeds,
            run_write_of_lt (Nat.lt_of_not_le rightFits), beginning,
            String.ofList_append, String.ofList_toList, String.append_assoc]
      · have exceeds : room < (left ++ right).length := by
          rw [String.length_append]
          omega
        have beginning :
            (left ++ right).toList.take room = left.toList.take room := by
          rw [String.toList_append]
          apply List.take_append_of_le_length
          rw [String.length_toList]
          omega
        simp only [run_write_of_lt exceeds,
          run_write_of_lt (Nat.lt_of_not_le leftFits), beginning]

theorem run_write_empty (sink : Sink) :
    (write "").run sink = (.ok (), sink) := by
  obtain ⟨accepted, room, flushFails⟩ := sink
  cases room with
  | none =>
      change (Except.ok (), (⟨accepted ++ "", none, flushFails⟩ : Sink)) = _
      rw [String.append_empty]
  | some room =>
      rw [run_write_of_le (Nat.zero_le room), String.append_empty]
      rfl

/-- Lines are written one by one as their text is written at once. -/
theorem run_writeLines (lines : List Listing.Line) (sink : Sink) :
    (writeLines lines).run sink = (write (Listing.text lines)).run sink := by
  induction lines generalizing sink with
  | nil => exact (run_write_empty sink).symm
  | cons line rest inductionHypothesis =>
      rw [writeLines, Listing.text_cons, run_write_append, run_bind, run_bind]
      obtain ⟨outcome, after⟩ : Except Fault Unit × Sink :=
        (write line.text).run sink
      cases outcome with
      | ok => exact inductionHypothesis after
      | error fault => rfl

/-- How writing a whole listing ends on a sink that takes a number of characters
in all. -/
theorem run_writeListing_of_room
    (lines : List Listing.Line) (accepted : String) (room : Nat)
    (flushFails : Bool) :
    (writeListing lines).run ⟨accepted, some room, flushFails⟩ =
      (if (Listing.text lines).length ≤ room then
          if flushFails then .error .flush else .ok lines.length
        else .error .full,
        ⟨accepted ++ String.ofList ((Listing.text lines).toList.take room),
          some (room - (Listing.text lines).length), flushFails⟩) := by
  rw [writeListing, run_bind, run_writeLines]
  by_cases fits : (Listing.text lines).length ≤ room
  · have whole : (Listing.text lines).toList.take room =
      (Listing.text lines).toList :=
      List.take_of_length_le (by rwa [String.length_toList])
    rw [run_write_of_le fits, if_pos fits, whole, String.ofList_toList]
    cases flushFails <;> rfl
  · have none : room - (Listing.text lines).length = 0 := by omega
    rw [run_write_of_lt (Nat.lt_of_not_le fits), if_neg fits, none]

/-- A sink that takes everything may still fail in the end. -/
theorem run_writeListing_of_flushFails
    (lines : List Listing.Line) (accepted : String) :
    (writeListing lines).run ⟨accepted, none, true⟩ =
      (.error .flush, ⟨accepted ++ Listing.text lines, none, true⟩) := by
  rw [writeListing, run_bind, run_writeLines_of_unlimited]
  rfl

/-- How a sink that takes `room` bytes more may deal with bytes that are written
call by call. A call takes some of those that are left, as far as there is room,
and fails if there is none. -/
inductive TakesInParts : Nat → Bytes → Bytes → Bool → Prop
  | done (room : Nat) : TakesInParts room [] [] true
  | part {room : Nat} {front rest taken : Bytes} {complete : Bool}
      (nonempty : front ≠ []) (fits : front.length ≤ room)
      (later : TakesInParts (room - front.length) rest taken complete) :
      TakesInParts room (front ++ rest) (front ++ taken) complete
  | full {bytes : Bytes} (nonempty : bytes ≠ []) : TakesInParts 0 bytes [] false

private theorem TakesInParts.eq_take
    {room : Nat} {bytes taken : Bytes} {complete : Bool}
    (takes : TakesInParts room bytes taken complete) :
    taken = bytes.take room ∧ complete = decide (bytes.length ≤ room) := by
  induction takes with
  | done room => simp
  | @part room front rest taken complete nonempty fits later
      inductionHypothesis =>
      obtain ⟨rfl, rfl⟩ := inductionHypothesis
      constructor
      · rw [List.take_append, List.take_of_length_le fits]
      · rw [List.length_append, decide_eq_decide]
        omega
  | full nonempty =>
      have positive := List.length_pos_iff.mpr nonempty
      exact ⟨rfl, (decide_eq_false (by omega)).symm⟩

/-- Whatever part each call takes, the first bytes are taken, as many as there
is room for. -/
theorem takesInParts_iff {room : Nat} {bytes taken : Bytes} {complete : Bool} :
    TakesInParts room bytes taken complete ↔
      taken = bytes.take room ∧ complete = decide (bytes.length ≤ room) := by
  constructor
  · exact TakesInParts.eq_take
  · rintro ⟨rfl, rfl⟩
    -- One call takes as much as there is room for, and the next one finds none.
    have later :
        TakesInParts (room - (bytes.take room).length) (bytes.drop room) []
          (decide (bytes.length ≤ room)) := by
      by_cases fits : bytes.length ≤ room
      · rw [List.drop_of_length_le fits, decide_eq_true fits]
        exact .done _
      · have rest : bytes.drop room ≠ [] := by
          rw [Ne, List.drop_eq_nil_iff]
          exact fits
        have none : room - (bytes.take room).length = 0 := by
          rw [List.length_take]
          omega
        rw [none, decide_eq_false fits]
        exact .full rest
    by_cases nothing : bytes.take room = []
    · have whole : bytes.drop room = bytes := by
        conv_rhs =>
          rw [← List.take_append_drop room bytes, nothing, List.nil_append]
      rw [nothing] at later ⊢
      rw [whole] at later
      exact later
    · have first :=
        TakesInParts.part nothing (List.length_take_le room bytes) later
      rwa [List.take_append_drop, List.append_nil] at first

end Sink

namespace Listing

open Image Text

theorem text_isAscii (lines : List Line) : IsAscii (text lines) := by
  have word (number : Nat) : IsAscii (Numeral.word.text number) :=
    isAscii_numeral (by decide) (by decide) number
  induction lines with
  | nil => decide
  | cons line rest inductionHypothesis =>
      rw [text_cons, isAscii_append]
      refine ⟨?_, inductionHypothesis⟩
      simp only [Line.text, isAscii_append, word, and_true]
      decide

/-! ## Sinks that fail -/

theorem write_of_ofImage
    {plan : Plan} {choice : FormatChoice} {image : Bytes} {lines : List Line}
    (listed : ofImage plan choice image = .ok lines) (sink : Sink) :
    write plan choice image sink =
      (((Sink.writeListing lines).run sink).1.mapError fun fault =>
        .output fault.message,
        ((Sink.writeListing lines).run sink).2) := by
  rw [write, listed]
  rfl

theorem write_of_room
    {plan : Plan} {choice : FormatChoice} {image : Bytes} {lines : List Line}
    (listed : ofImage plan choice image = .ok lines) (limit : Nat)
    (flushFails : Bool) :
    write plan choice image ⟨"", some limit, flushFails⟩ =
      (if (text lines).length ≤ limit then
          if flushFails then .error (.output Sink.Fault.flush.message)
          else .ok lines.length
        else .error (.output Sink.Fault.full.message),
        ⟨String.ofList ((text lines).toList.take limit),
          some (limit - (text lines).length),
          flushFails⟩) := by
  rw [write_of_ofImage listed, Sink.run_writeListing_of_room,
    String.empty_append]
  by_cases fits : (text lines).length ≤ limit
  · rw [if_pos fits, if_pos fits]
    cases flushFails <;> rfl
  · rw [if_neg fits, if_neg fits]
    rfl

/-- A sink that fails has accepted the first bytes of the listing, as many as it
takes in all, whatever part of them it takes at each call. The listing is
complete exactly if there was room for all of it and the sink could be flushed.
Nothing is written if the image has no regions. -/
theorem write_on_failing_sink
    (plan : Plan) (choice : FormatChoice) (image : Bytes) :
    (∀ fault, Image.regions .listing choice image = .error fault →
        ∀ sink, write plan choice image sink = (.error (.image fault), sink)) ∧
      ∀ regions, Image.regions .listing choice image = .ok regions →
        ∃ (count : Nat) (whole : String),
          write plan choice image Sink.unlimited =
              (.ok count, { Sink.unlimited with accepted := whole }) ∧
            (∀ limit flushFails, ∃ accepted : String,
              write plan choice image ⟨"", some limit, flushFails⟩ =
                  (if (toUtf8 whole).length ≤ limit then
                      if flushFails then
                        .error (.output Sink.Fault.flush.message)
                      else .ok count
                    else .error (.output Sink.Fault.full.message),
                    ⟨accepted, some (limit - (toUtf8 whole).length),
                      flushFails⟩) ∧
                toUtf8 accepted = (toUtf8 whole).take limit ∧
                ∀ taken complete,
                  Sink.TakesInParts limit (toUtf8 whole) taken complete ↔
                    taken = toUtf8 accepted ∧
                      complete = decide ((toUtf8 whole).length ≤ limit)) ∧
            write plan choice image { Sink.unlimited with flushFails := true } =
              (.error (.output Sink.Fault.flush.message),
                { Sink.unlimited with
                  accepted := whole, flushFails := true }) := by
  constructor
  · intro fault failed sink
    rw [write, ofImage_of_error plan failed]
  · intro regions found
    obtain ⟨lines, listed⟩ := exists_ofImage_of_ok plan found
    have ascii := text_isAscii lines
    refine ⟨lines.length, text lines, write_unlimited listed, ?_, ?_⟩
    · intro limit flushFails
      refine ⟨String.ofList ((text lines).toList.take limit), ?_,
        toUtf8_take ascii limit, ?_⟩
      · rw [length_toUtf8 ascii, write_of_room listed]
      · intro taken complete
        rw [toUtf8_take ascii]
        exact Sink.takesInParts_iff
    · rw [write_of_ofImage listed]
      simp only [Sink.unlimited, Sink.run_writeListing_of_flushFails,
        String.empty_append]
      rfl

/-- An ELF file that is cut off within its header. -/
def brokenHeader : Bytes :=
  [0x7F, 0x45, 0x4C, 0x46, 1, 1, 1] ++ List.replicate 13 0

-- The sink is full within the address of the second section.
theorem write_on_failing_sink_within_line :
    Image.regions .listing .auto brokenHeader = .error (.malformed .header) ∧
      write ⟨0, .little⟩ .auto brokenHeader ⟨"", some 30, true⟩ =
        (.error (.image (.malformed .header)), ⟨"", some 30, true⟩) ∧
      Image.regions .listing .auto adjoiningSections =
        .ok [⟨Elf.Section.unnamed, 0x1000, [0xAA]⟩,
          ⟨Elf.Section.unnamed, 0x1001, [0xBB, 0xCC]⟩] ∧
      ∃ accepted,
        write ⟨0, .little⟩ .auto adjoiningSections ⟨"", some 30, false⟩ =
            (.error (.output "disk full"), ⟨accepted, some 0, false⟩) ∧
          toUtf8 accepted = toUtf8 "0x00001000 0x000000AA\n0x000010" := by
  have broken :
      Image.regions .listing .auto brokenHeader =
        .error (.malformed .header) := by
    decide
  have found := regions_adjoiningSections
  have listed :
      ofImage ⟨0, .little⟩ .auto adjoiningSections =
        .ok [⟨0x1000, 0xAA⟩, ⟨0x1001, 0xCCBB⟩] := by
    rw [ofImage_of_elf _ (by decide), found]
    rfl
  have clean :
      write ⟨0, .little⟩ .auto adjoiningSections Sink.unlimited =
        (.ok 2, { Sink.unlimited with
          accepted := "0x00001000 0x000000AA\n0x00001001 0x0000CCBB\n" }) := by
    rw [write_unlimited listed]
    decide
  refine ⟨broken, (write_on_failing_sink _ _ _).1 _ broken _, found, ?_⟩
  obtain ⟨count, whole, unlimited, limited, -⟩ :=
    (write_on_failing_sink ⟨0, .little⟩ .auto adjoiningSections).2 _ found
  obtain ⟨rfl, rfl⟩ :
      count = 2 ∧ whole = "0x00001000 0x000000AA\n0x00001001 0x0000CCBB\n" := by
    simpa [clean, eq_comm] using unlimited
  obtain ⟨accepted, result, bytes, -⟩ := limited 30 false
  refine ⟨accepted, ?_, ?_⟩
  · have size :
        (toUtf8 "0x00001000 0x000000AA\n0x00001001 0x0000CCBB\n").length =
          44 := by
      decide
    rw [result, size]
    rfl
  · rw [bytes]
    decide

end Listing

end CsrCensus
