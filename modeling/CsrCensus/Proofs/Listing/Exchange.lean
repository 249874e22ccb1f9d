import CsrCensus.Proofs.Listing.Writing
import CsrCensus.Proofs.Survey.Words

/-!
# Exchange of bytes

The byte order is the order in which words are assembled, and nothing else. To
read some bytes in one order is to read them in the other order with every word
turned round. A survey leaves the bytes behind the last whole word as they are,
while a listing fills them up to a word first, which is then turned round as
well.
-/

namespace CsrCensus

namespace ByteOrder

/-- The other order. -/
def opposite : ByteOrder → ByteOrder
  | .big => .little
  | .little => .big

theorem word_opposite (order : ByteOrder) (first second third fourth : UInt8) :
    order.opposite.word fourth third second first =
      order.word first second third fourth := by
  cases order <;> rfl

end ByteOrder

/-- Some bytes with every whole word turned round. The bytes behind the last
word stay. -/
def exchanged : Bytes → Bytes
  | first :: second :: third :: fourth :: rest =>
      fourth :: third :: second :: first :: exchanged rest
  | held => held

namespace Surveyor

variable (table : Csr.Table) (order : ByteOrder)

/-- What is recorded of a word does not depend on how it was assembled. -/
theorem readWord_order
    (other : ByteOrder) (census : Census) (offset : UInt64) (word : Word) :
    (⟨table, order⟩ : Surveyor).readWord census offset word =
      (⟨table, other⟩ : Surveyor).readWord census offset word :=
  rfl

theorem readWords_exchanged :
    ∀ (census : Census) (base : UInt64) (bytes : Bytes),
      (⟨table, order⟩ : Surveyor).readWords census base bytes =
        (⟨table, order.opposite⟩ : Surveyor).readWords census base
          (exchanged bytes)
  | census, base, first :: second :: third :: fourth :: rest => by
      rw [exchanged, readWords, readWords, ByteOrder.word_opposite,
        readWord_order table order order.opposite]
      exact readWords_exchanged _ _ rest
  | _, _, [_, _, _] => rfl
  | _, _, [_, _] => rfl
  | _, _, [_] => rfl
  | _, _, [] => rfl

end Surveyor

namespace Listing

theorem ofBytes_exchanged (order : ByteOrder) :
    ∀ (base : UInt64) (bytes : Bytes),
      ofBytes order base bytes =
        ofBytes order.opposite base (exchanged (padded bytes))
  | base, first :: second :: third :: fourth :: rest => by
      rw [padded_cons, exchanged, ofBytes_cons, ofBytes_cons,
        ByteOrder.word_opposite, ofBytes_exchanged order (base + 4) rest]
  | base, [first, second, third] => by
      have filled :
          exchanged (padded [first, second, third]) =
            [0, third, second, first] := by
        simp [padded, exchanged]
      rw [filled, ofBytes_cons, ByteOrder.word_opposite]
      rfl
  | base, [first, second] => by
      have filled :
          exchanged (padded [first, second]) = [0, 0, second, first] := by
        simp [padded, exchanged]
      rw [filled, ofBytes_cons, ByteOrder.word_opposite]
      rfl
  | base, [first] => by
      have filled : exchanged (padded [first]) = [0, 0, 0, first] := by
        simp [padded, exchanged]
      rw [filled, ofBytes_cons, ByteOrder.word_opposite]
      rfl
  | _, [] => rfl

/-- A survey in one order is a survey in the other order of the same bytes with
their whole words turned round, whatever was surveyed before. A flat image is
listed in one order as in the other order with all its words turned round, the
last one filled up with zeros: every sink accepts the same text, and the count
or the fault is the same. -/
theorem opposite_reads_exchanged (order : ByteOrder) (bytes : Bytes) :
    (∀ (table : Csr.Table) (census : Census) (base : UInt64),
      (⟨table, order⟩ : Surveyor).surveyBytes census base bytes =
        (⟨table, order.opposite⟩ : Surveyor).surveyBytes census base
          (exchanged bytes)) ∧
      ∀ (base : UInt64) (sink : Sink),
        write ⟨base, order⟩ (.only .raw) bytes sink =
          write ⟨base, order.opposite⟩ (.only .raw)
            (exchanged (padded bytes)) sink := by
  constructor
  · intro table census base
    unfold Surveyor.surveyBytes
    rw [Surveyor.readWords_exchanged]
  · intro base sink
    have listed :
        ofImage ⟨base, order⟩ (.only .raw) bytes =
          .ok (ofBytes order base bytes) :=
      ofImage_of_raw _ rfl
    have turned :
        ofImage ⟨base, order.opposite⟩ (.only .raw) (exchanged (padded bytes)) =
          .ok (ofBytes order base bytes) := by
      rw [ofBytes_exchanged]
      exact ofImage_of_raw _ rfl
    rw [write_of_ofImage listed, write_of_ofImage turned]

end Listing

end CsrCensus
