import RuleLexer.Source.Basic

/-!
# Readers as sources

A reader knows nothing of an end of input: it gives bytes, or none, or fails. `ReaderSource` makes a
source of it. No bytes mean the end, a read that was interrupted is tried again, a read that would
have to wait gives nothing for now, and every other fault is passed on. An empty read area is
answered without asking the reader, since no bytes would look like the end.
-/

namespace RuleLexer

/-- The outcome of a reader's read: the bytes written to the front of the read area, and how many
count, or the fault. -/
structure RawReply where
  written : List UInt8
  outcome : Except ReadFault Nat

/-- The bytes that count of a read through an area of some size. -/
def RawReply.count (r : RawReply) (size : Nat) : Nat :=
  match r.outcome with
  | .ok n => min n size
  | .error _ => 0

/-- The read was interrupted. -/
def RawReply.interrupted (r : RawReply) : Bool :=
  match r.outcome with
  | .ok _ => false
  | .error f => f.kind = .interrupted

/-- **A reader.** Each read that is interrupted uses up some of its patience, so only so many of
them can follow each other, and trying again comes to an end. -/
class ByteReader (ρ : Type) where
  read : ρ → (size : Nat) → RawReply × ρ
  patience : ρ → Nat
  patience_lt_of_interrupted : ∀ (r : ρ) (size : Nat),
    (read r size).1.interrupted = true → patience (read r size).2 < patience r

/-- A reader with a budget for all bytes that will ever count. -/
class FiniteReader (ρ : Type) extends ByteReader ρ where
  budget : ρ → Nat
  count_add_budget_le : ∀ (r : ρ) (size : Nat),
    (read r size).1.count size + budget (read r size).2 ≤ budget r

/-- A reader used as a source. -/
structure ReaderSource (ρ : Type) where
  reader : ρ

namespace ReaderSource

/-- What a read that was not interrupted means for a source. -/
def interpret (r : RawReply) : ReadReply :=
  match r.outcome with
  | .ok 0 => ⟨r.written, .ok ⟨0, true⟩⟩
  | .ok n => ⟨r.written, .ok ⟨n, false⟩⟩
  | .error f => if f.kind = .wouldBlock then ⟨r.written, .ok ⟨0, false⟩⟩ else ⟨r.written, .error f⟩

/-- A read that is tried again while it is interrupted, so many times at most. The patience of the
reader is enough to come to a read that was not interrupted (`exists_retry_eq`). -/
def retry {ρ : Type} [ByteReader ρ] : Nat → ρ → Nat → ReadReply × ρ
  | 0, r, size => (interpret (ByteReader.read r size).1, (ByteReader.read r size).2)
  | n + 1, r, size =>
    if (ByteReader.read r size).1.interrupted then retry n (ByteReader.read r size).2 size
    else (interpret (ByteReader.read r size).1, (ByteReader.read r size).2)

/-- One chunk from the reader. -/
def readChunk {ρ : Type} [ByteReader ρ] (s : ReaderSource ρ) (size : Nat) :
    ReadReply × ReaderSource ρ :=
  if size = 0 then (.pending, s)
  else
    let (reply, reader) := retry (ByteReader.patience s.reader) s.reader size
    (reply, ⟨reader⟩)

/-- Trying again comes to a read that was not interrupted, and the reply is that of this read. -/
theorem exists_retry_eq {ρ : Type} [ByteReader ρ] {n : Nat} {r : ρ}
    (h : ByteReader.patience r ≤ n) (size : Nat) :
    ∃ last : ρ, (ByteReader.read last size).1.interrupted = false ∧
      retry n r size =
        (interpret (ByteReader.read last size).1, (ByteReader.read last size).2) := by
  induction n generalizing r with
  | zero =>
    refine ⟨r, ?_, rfl⟩
    -- without patience left there is no interruption
    rw [← Bool.not_eq_true]
    intro hr
    have hlt := ByteReader.patience_lt_of_interrupted r size hr
    omega
  | succ n ih =>
    rw [retry]
    split
    · next hr =>
      have hlt := ByteReader.patience_lt_of_interrupted r size hr
      exact ih (by omega)
    · next hr => exact ⟨r, Bool.eq_false_iff.mpr hr, rfl⟩

theorem count_interpret_le (r : RawReply) (size : Nat) :
    (interpret r).count size ≤ r.count size := by
  unfold interpret RawReply.count ReadReply.count
  cases r.outcome with
  | ok n => cases n <;> simp
  | error f => by_cases h : f.kind = .wouldBlock <;> simp [h]

theorem count_retry_add_budget_le {ρ : Type} [FiniteReader ρ] (n : Nat) (r : ρ) (size : Nat) :
    (retry n r size).1.count size + FiniteReader.budget (retry n r size).2 ≤
      FiniteReader.budget r := by
  induction n generalizing r with
  | zero =>
    have h := FiniteReader.count_add_budget_le r size
    have hi := count_interpret_le (ByteReader.read r size).1 size
    simp only [retry]
    omega
  | succ n ih =>
    have h := FiniteReader.count_add_budget_le r size
    simp only [retry]
    split
    · have := ih (ByteReader.read r size).2
      omega
    · have hi := count_interpret_le (ByteReader.read r size).1 size
      simp only
      omega

end ReaderSource

instance {ρ : Type} [ByteReader ρ] : ByteSource (ReaderSource ρ) where
  readChunk := ReaderSource.readChunk

instance {ρ : Type} [FiniteReader ρ] : FiniteSource (ReaderSource ρ) where
  budget s := FiniteReader.budget s.reader
  count_add_budget_le s size := by
    simp only [ByteSource.readChunk, ReaderSource.readChunk]
    split
    · simp [ReadReply.pending, ReadReply.count]
    · exact ReaderSource.count_retry_add_budget_le _ s.reader size

/-! ### Counting reads -/

instance {ρ : Type} [ByteReader ρ] : ByteReader (Counted ρ) where
  read r size :=
    ((ByteReader.read r.inner size).1, ⟨(ByteReader.read r.inner size).2, r.reads + 1⟩)
  patience r := ByteReader.patience r.inner
  patience_lt_of_interrupted r size := ByteReader.patience_lt_of_interrupted r.inner size

instance {ρ : Type} [FiniteReader ρ] : FiniteReader (Counted ρ) where
  budget r := FiniteReader.budget r.inner
  count_add_budget_le r size := FiniteReader.count_add_budget_le r.inner size

end RuleLexer
