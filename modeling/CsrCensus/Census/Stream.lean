import CsrCensus.Census.Survey

/-!
# Surveys of a stream

A stream delivers its bytes in pieces of any size and may be interrupted or fail
in between. A survey fills one word after the other and asks each time for the
bytes that the word still lacks; a failure gives the address of the word being
read and no census.
-/

namespace CsrCensus.Stream

/-- What a stream holds ready for a read. -/
inductive Delivery where
  /-- Some bytes; no bytes mean the end of the stream. -/
  | bytes (bytes : Bytes)
  /-- Nothing is read; reading goes on. -/
  | interrupted
  /-- Reading fails, with a reason. -/
  | failed (reason : String)
deriving DecidableEq, Repr

/-- A failed read and the address of the word it was to fill. -/
structure Failure where
  offset : UInt64
  reason : String
deriving DecidableEq, Repr

/-- The outcome of a survey and the deliveries that were not used. -/
structure Outcome where
  result : Except Failure Census
  unread : List Delivery

/-- What one read of at most `room` bytes gives, and the deliveries it leaves.
Bytes for which there is no room stay in front. -/
def read (room : Nat) : List Delivery → Delivery × List Delivery
  | [] => (.bytes [], [])
  | .bytes bytes :: rest =>
      match bytes.drop room with
      | [] => (.bytes bytes, rest)
      | left => (.bytes (bytes.take room), .bytes left :: rest)
  | event :: rest => (event, rest)

/-- A bound on the number of reads that still take something from a stream. -/
def pending : List Delivery → Nat
  | [] => 0
  | .bytes bytes :: rest => bytes.length + 1 + pending rest
  | _ :: rest => 1 + pending rest

theorem pending_read_bytes
    {room : Nat} {deliveries rest : List Delivery} {bytes : Bytes}
    (delivered : read room deliveries = (.bytes bytes, rest)) :
    pending rest + bytes.length ≤ pending deliveries := by
  unfold read at delivered
  split at delivered
  · cases delivered
    simp
  · split at delivered
    · cases delivered
      simp only [pending]
      omega
    · cases delivered
      simp only [pending, List.length_take, List.length_drop]
      omega
  · cases delivered
    simp_all

theorem pending_read_interrupted
    {room : Nat} {deliveries rest : List Delivery}
    (delivered : read room deliveries = (.interrupted, rest)) :
    pending rest < pending deliveries := by
  unfold read at delivered
  split at delivered
  · cases delivered
  · split at delivered <;> cases delivered
  · cases delivered
    simp [pending]

/-- Reads on until four bytes are held or the stream ends, and gives the bytes
held then. -/
def fillWord (held : Bytes) (deliveries : List Delivery) :
    Except String Bytes × List Delivery :=
  if held.length < 4 then
    match _ : read (4 - held.length) deliveries with
    | (.bytes [], rest) => (.ok held, rest)
    | (.bytes (first :: more), rest) => fillWord (held ++ first :: more) rest
    | (.interrupted, rest) => fillWord held rest
    | (.failed reason, rest) => (.error reason, rest)
  else (.ok held, deliveries)
termination_by pending deliveries
decreasing_by
  · have := pending_read_bytes ‹_›
    simp only [List.length_cons] at this
    omega
  · exact pending_read_interrupted ‹_›

theorem pending_fillWord
    {held filled : Bytes} {deliveries rest : List Delivery}
    (done : fillWord held deliveries = (.ok filled, rest)) :
    pending rest + filled.length ≤ pending deliveries + held.length := by
  fun_induction fillWord held deliveries with
  | case1 held deliveries _ rest delivered =>
      cases done
      have := pending_read_bytes delivered
      simp only [List.length_nil] at this
      omega
  | case2 held deliveries _ first more rest delivered inductionHypothesis =>
      have := pending_read_bytes delivered
      have := inductionHypothesis done
      simp only [List.length_append] at *
      omega
  | case3 held deliveries _ rest delivered inductionHypothesis =>
      have := pending_read_interrupted delivered
      have := inductionHypothesis done
      omega
  | case4 => cases done
  | case5 =>
      cases done
      exact Nat.le_refl _

/-- Continues a census over the words of a stream from one address on. -/
def readWords (surveyor : Surveyor) (census : Census) (offset : UInt64)
    (deliveries : List Delivery) : Outcome :=
  match filled : fillWord [] deliveries with
  | (.error reason, rest) => ⟨.error ⟨offset, reason⟩, rest⟩
  | (.ok [first, second, third, fourth], rest) =>
      readWords surveyor
        (surveyor.readWord census offset
          (surveyor.order.word first second third fourth))
        (offset + 4) rest
  | (.ok held, rest) =>
      ⟨.ok (Surveyor.Progress.finish ⟨census, offset, held⟩), rest⟩
termination_by pending deliveries
decreasing_by
  have := pending_fillWord filled
  simp only [List.length_cons, List.length_nil] at this
  omega

def survey (surveyor : Surveyor) (deliveries : List Delivery) : Outcome :=
  readWords surveyor Census.empty 0 deliveries

end CsrCensus.Stream
