import CsrCensus.Census.Stream
import CsrCensus.Proofs.Survey.Words

/-!
# Reading a stream

However the bytes of a stream are cut into pieces and wherever it is
interrupted, a survey of the stream gives what a survey of its data gives. The
data end at the first delivery that is an end or a failure; that delivery is the
last one used.
-/

namespace CsrCensus.Stream

open Surveyor (addressAt addressAt_succ)

/-- Whether reading goes on behind a delivery. -/
def Delivery.flows : Delivery → Bool
  | .bytes content => !content.isEmpty
  | .interrupted => true
  | .failed _ => false

/-- The bytes of a delivery. -/
def Delivery.data : Delivery → Bytes
  | .bytes content => content
  | _ => []

/-- The bytes before the first end or failure. -/
def payload (deliveries : List Delivery) : Bytes :=
  (deliveries.takeWhile Delivery.flows).flatMap Delivery.data

/-- The first end or failure, and what stands behind it. -/
def ending (deliveries : List Delivery) : List Delivery :=
  deliveries.dropWhile Delivery.flows

@[simp]
theorem payload_nil : payload [] = [] := rfl

@[simp]
theorem ending_nil : ending [] = [] := rfl

@[simp]
theorem payload_interrupted (rest : List Delivery) :
    payload (.interrupted :: rest) = payload rest := rfl

@[simp]
theorem ending_interrupted (rest : List Delivery) :
    ending (.interrupted :: rest) = ending rest := rfl

@[simp]
theorem payload_failed (reason : String) (rest : List Delivery) :
    payload (.failed reason :: rest) = [] := rfl

@[simp]
theorem ending_failed (reason : String) (rest : List Delivery) :
    ending (.failed reason :: rest) = .failed reason :: rest := rfl

@[simp]
theorem payload_end (rest : List Delivery) :
    payload (.bytes [] :: rest) = [] := rfl

@[simp]
theorem ending_end (rest : List Delivery) :
    ending (.bytes [] :: rest) = .bytes [] :: rest := rfl

private theorem flows_bytes {bytes : Bytes} (nonempty : bytes ≠ []) :
    (Delivery.bytes bytes).flows = true := by
  simpa [Delivery.flows] using nonempty

theorem payload_bytes
    {bytes : Bytes} (nonempty : bytes ≠ []) (rest : List Delivery) :
    payload (.bytes bytes :: rest) = bytes ++ payload rest := by
  unfold payload
  rw [List.takeWhile_cons_of_pos (flows_bytes nonempty), List.flatMap_cons]
  rfl

theorem ending_bytes
    {bytes : Bytes} (nonempty : bytes ≠ []) (rest : List Delivery) :
    ending (.bytes bytes :: rest) = ending rest := by
  unfold ending
  rw [List.dropWhile_cons_of_pos (flows_bytes nonempty)]

/-- What one read can give: nothing at the end, some of the next data, an
interruption, or the failure that ends the stream. -/
theorem read_spec
    {room : Nat} (positive : 0 < room) (deliveries : List Delivery) :
    match read room deliveries with
    | (.bytes [], rest) =>
        payload deliveries = [] ∧
          (ending deliveries = [] ∧ rest = [] ∨
            ending deliveries = .bytes [] :: rest)
    | (.bytes bytes, rest) =>
        bytes.length ≤ room ∧ payload deliveries = bytes ++ payload rest ∧
          ending deliveries = ending rest
    | (.interrupted, rest) =>
        payload deliveries = payload rest ∧ ending deliveries = ending rest
    | (.failed reason, rest) =>
        payload deliveries = [] ∧
          ending deliveries = .failed reason :: rest := by
  cases deliveries with
  | nil => simp [read]
  | cons delivery rest =>
      cases delivery with
      | interrupted => simp [read]
      | failed reason => simp [read]
      | bytes bytes =>
          cases bytes with
          | nil => simp [read]
          | cons first more =>
              rw [payload_bytes (List.cons_ne_nil first more),
                ending_bytes (List.cons_ne_nil first more)]
              cases left : (first :: more).drop room with
              | nil =>
                  have fits := List.drop_eq_nil_iff.mp left
                  simpa [read, left] using fits
              | cons next others =>
                  have nonempty : (first :: more).take room ≠ [] := by
                    simpa using Nat.pos_iff_ne_zero.mp positive
                  obtain ⟨head, tail, taken⟩ :=
                    List.exists_cons_of_ne_nil nonempty
                  have whole :
                      first :: more = head :: tail ++ next :: others := by
                    rw [← taken, ← left, List.take_append_drop]
                  have short : (head :: tail).length ≤ room := by
                    rw [← taken]
                    exact List.length_take_le ..
                  simp only [read, left, taken]
                  refine ⟨short, ?_, ?_⟩
                  · rw [payload_bytes (List.cons_ne_nil next others), whole,
                      List.append_assoc]
                  · rw [ending_bytes (List.cons_ne_nil next others)]

/-- What reading gives behind the last data: a value, or the failure that ended
the stream. -/
def close {result : Type} (value : result) :
    List Delivery → Except String result × List Delivery
  | .failed reason :: unread => (.error reason, unread)
  | _ :: unread => (.ok value, unread)
  | [] => (.ok value, [])

theorem eq_of_close_eq_ok
    {result : Type} {value given : result} {deliveries unread : List Delivery}
    (closed : close value deliveries = (.ok given, unread)) :
    given = value := by
  unfold close at closed
  split at closed <;> cases closed <;> rfl

/-- A word is filled from the data, or the data do not fill it. -/
theorem fillWord_spec
    (held : Bytes) (deliveries : List Delivery) (bounded : held.length ≤ 4) :
    (∃ rest,
        fillWord held deliveries =
            (.ok (held ++ (payload deliveries).take (4 - held.length)), rest) ∧
          4 - held.length ≤ (payload deliveries).length ∧
          payload rest = (payload deliveries).drop (4 - held.length) ∧
          ending rest = ending deliveries) ∨
      (payload deliveries).length < 4 - held.length ∧
        fillWord held deliveries =
          close (held ++ payload deliveries) (ending deliveries) := by
  fun_induction fillWord held deliveries with
  | case1 held deliveries lacking rest delivered =>
      have read := read_spec (by omega : 0 < 4 - held.length) deliveries
      rw [delivered] at read
      obtain ⟨nothing, atEnd⟩ := read
      refine Or.inr ⟨by simp [nothing]; omega, ?_⟩
      rcases atEnd with ⟨ended, rfl⟩ | ended
      · simp [nothing, ended, close]
      · simp [nothing, ended, close]
  | case2 held deliveries lacking first more rest delivered
      inductionHypothesis =>
      have read := read_spec (by omega : 0 < 4 - held.length) deliveries
      rw [delivered] at read
      obtain ⟨fits, data, ended⟩ := read
      have length :
          (held ++ first :: more).length =
            held.length + (first :: more).length :=
        List.length_append
      have room :
          4 - held.length =
            (first :: more).length + (4 - (held ++ first :: more).length) := by
        omega
      rcases inductionHypothesis (by omega) with
        ⟨unread, filled, enough, remaining, same⟩ | ⟨short, closed⟩
      · refine Or.inl ⟨unread, ?_, ?_, ?_, same.trans ended.symm⟩
        · rw [filled, data, room, List.take_length_add_append,
            List.append_assoc]
        · rw [data, List.length_append]
          omega
        · rw [remaining, data, room, List.drop_length_add_append]
      · refine Or.inr ⟨?_, ?_⟩
        · rw [data, List.length_append]
          omega
        · rw [closed, data, ended, List.append_assoc]
  | case3 held deliveries lacking rest delivered inductionHypothesis =>
      have read := read_spec (by omega : 0 < 4 - held.length) deliveries
      rw [delivered] at read
      rw [read.1, read.2]
      exact inductionHypothesis bounded
  | case4 held deliveries lacking reason rest delivered =>
      have read := read_spec (by omega : 0 < 4 - held.length) deliveries
      rw [delivered] at read
      refine Or.inr ⟨by simp [read.1]; omega, ?_⟩
      simp [read.2, close]
  | case5 held deliveries full =>
      have nothing : 4 - held.length = 0 := by omega
      exact
        Or.inl ⟨deliveries, by simp [nothing], by omega, by simp [nothing], rfl⟩

/-- A word is read whole, or the data left are too short for one. -/
theorem fillWord_cases (deliveries : List Delivery) :
    (∃ first second third fourth rest,
        fillWord [] deliveries = (.ok [first, second, third, fourth], rest) ∧
          payload deliveries =
            first :: second :: third :: fourth :: payload rest ∧
          ending deliveries = ending rest) ∨
      (payload deliveries).length < 4 ∧
        fillWord [] deliveries =
          close (payload deliveries) (ending deliveries) := by
  rcases fillWord_spec [] deliveries (by simp) with
    ⟨rest, filled, enough, remaining, same⟩ | ⟨short, closed⟩
  · left
    match data : payload deliveries, enough with
    | first :: second :: third :: fourth :: more, _ =>
        simp only [data, List.length_nil, Nat.sub_zero, List.drop_succ_cons,
          List.drop_zero]
          at remaining
        refine
          ⟨first, second, third, fourth, rest, ?_, by rw [remaining], same.symm⟩
        simpa [data] using filled
  · right
    simpa using ⟨short, closed⟩

/-! ## All words -/

theorem surveyBytes_of_short
    (surveyor : Surveyor) (census : Census) (offset : UInt64) {bytes : Bytes}
    (short : bytes.length < 4) :
    surveyor.surveyBytes census offset bytes =
      Surveyor.Progress.finish ⟨census, offset, bytes⟩ := by
  have none : bytes.length / 4 = 0 := Nat.div_eq_of_lt short
  unfold Surveyor.surveyBytes
  rw [Surveyor.readWords_eq, Surveyor.addressedWords_of_short _ _ short, none]
  simp

/-- Reading the words of a stream is reading the words of its data, up to what
closes them. -/
theorem readWords_eq_close
    (surveyor : Surveyor) (census : Census) (offset : UInt64)
    (deliveries : List Delivery) :
    readWords surveyor census offset deliveries =
      match close (payload deliveries) (ending deliveries) with
      | (.error reason, unread) =>
          ⟨.error ⟨addressAt offset ((payload deliveries).length / 4), reason⟩,
            unread⟩
      | (.ok data, unread) =>
          ⟨.ok (surveyor.surveyBytes census offset data), unread⟩ := by
  fun_induction readWords surveyor census offset deliveries with
  | case1 census offset deliveries reason rest filled =>
      rcases fillWord_cases deliveries with
        ⟨_, _, _, _, _, full, _⟩ | ⟨short, closed⟩
      · cases filled.symm.trans full
      · rw [← closed, filled, Nat.div_eq_of_lt short]
        simp
  | case2 census offset deliveries first second third fourth rest filled
      inductionHypothesis =>
      rcases fillWord_cases deliveries with
        ⟨_, _, _, _, _, full, data, same⟩ | ⟨short, closed⟩
      · cases filled.symm.trans full
        have count :
            (first :: second :: third :: fourth :: payload rest).length / 4 =
              (payload rest).length / 4 + 1 := by
          simp only [List.length_cons]
          omega
        rw [inductionHypothesis, data, same, count, addressAt_succ]
        -- The rest is closed in the same way, whatever stands in front of it.
        cases ended : ending rest with
        | nil => rfl
        | cons last unread => cases last <;> rfl
      · have whole := eq_of_close_eq_ok (closed.symm.trans filled)
        simp [← whole] at short
  | case3 census offset deliveries held rest partly filled =>
      rcases fillWord_cases deliveries with
        ⟨_, _, _, _, _, full, _⟩ | ⟨short, closed⟩
      · cases filled.symm.trans full
        exact absurd rfl (partly _ _ _ _)
      · have whole := eq_of_close_eq_ok (closed.symm.trans filled)
        rw [← whole] at short
        rw [← closed, filled]
        simp [surveyBytes_of_short _ _ _ short]

/-- A survey of a stream is a survey of the data before its first end or
failure. If that is a failure, there is only the address of the word that could
not be read. What stands in front of it is used up, and nothing behind it is. -/
theorem survey_eq_survey_payload
    (surveyor : Surveyor) (deliveries : List Delivery) :
    survey surveyor deliveries =
      match ending deliveries with
      | .failed reason :: unread =>
          ⟨.error ⟨UInt64.ofNat (4 * ((payload deliveries).length / 4)),
            reason⟩, unread⟩
      | _ :: unread =>
          ⟨.ok (surveyor.survey [Image.Region.flat (payload deliveries)]),
            unread⟩
      | [] =>
          ⟨.ok (surveyor.survey [Image.Region.flat (payload deliveries)]),
            []⟩ := by
  have offset (index : Nat) : addressAt 0 index = UInt64.ofNat (4 * index) := by
    simp [addressAt]
  unfold survey
  rw [readWords_eq_close]
  cases ended : ending deliveries with
  | nil => rfl
  | cons last unread =>
      cases last with
      | failed reason => simp [close, offset]
      | bytes content => rfl
      | interrupted => rfl

end CsrCensus.Stream
