import RuleLexer.Text.Basic

/-!
# Byte sources

A source is asked for bytes through a read area of some size. It writes bytes to the front of the
area and says how many of them count, and whether it has come to its end. Both are the source's own
statement: it may announce more bytes than it wrote, and then older bytes of the area count.

No bytes and not at the end means that the source has nothing to give right now.
-/

namespace RuleLexer

/-- Why a read failed. Two kinds have a meaning of their own for readers; all others are passed on
by name. -/
inductive FaultKind where
  | interrupted
  | wouldBlock
  | other (name : Text)
  deriving DecidableEq, Repr

/-- A failed read: its kind and what the source had to say about it. -/
structure ReadFault where
  kind : FaultKind
  message : Text
  deriving DecidableEq, Repr

/-- What a source says about a read: how many bytes count, and that no further ones will come. -/
structure ReadStatus where
  read : Nat
  exhausted : Bool
  deriving DecidableEq, Repr

/-- The outcome of a read: the bytes written to the front of the read area, and the status or the
fault. -/
structure ReadReply where
  written : List UInt8
  outcome : Except ReadFault ReadStatus

namespace ReadReply

/-- Some bytes, all of which count. -/
def data (bytes : List UInt8) : ReadReply := ⟨bytes, .ok ⟨bytes.length, false⟩⟩

/-- Nothing right now. -/
def pending : ReadReply := ⟨[], .ok ⟨0, false⟩⟩

/-- Nothing ever again. -/
def exhausted : ReadReply := ⟨[], .ok ⟨0, true⟩⟩

def fault (f : ReadFault) : ReadReply := ⟨[], .error f⟩

/-- The bytes that count of a read through an area of some size: none if it failed, and never more
than the area holds. -/
def count (r : ReadReply) (size : Nat) : Nat :=
  match r.outcome with
  | .ok status => min status.read size
  | .error _ => 0

end ReadReply

/-- **A source of bytes**, asked through a read area of the given size. -/
class ByteSource (σ : Type) where
  readChunk : σ → (size : Nat) → ReadReply × σ

/-- **A source with a budget**: all bytes that will ever count, over all reads to come, are no more
than this. -/
class FiniteSource (σ : Type) extends ByteSource σ where
  budget : σ → Nat
  count_add_budget_le : ∀ (s : σ) (size : Nat),
    (readChunk s size).1.count size + budget (readChunk s size).2 ≤ budget s

/-! ### One of two sources -/

instance {α β : Type} [ByteSource α] [ByteSource β] : ByteSource (α ⊕ β) where
  readChunk
    | .inl s, size => ((ByteSource.readChunk s size).1, .inl (ByteSource.readChunk s size).2)
    | .inr s, size => ((ByteSource.readChunk s size).1, .inr (ByteSource.readChunk s size).2)

instance {α β : Type} [FiniteSource α] [FiniteSource β] : FiniteSource (α ⊕ β) where
  budget
    | .inl s => FiniteSource.budget s
    | .inr s => FiniteSource.budget s
  count_add_budget_le
    | .inl s, size => FiniteSource.count_add_budget_le s size
    | .inr s, size => FiniteSource.count_add_budget_le s size

/-! ### Counting reads -/

/-- A source or reader that counts how often it is asked. -/
structure Counted (σ : Type) where
  inner : σ
  reads : Nat := 0

instance {σ : Type} [ByteSource σ] : ByteSource (Counted σ) where
  readChunk s size :=
    ((ByteSource.readChunk s.inner size).1, ⟨(ByteSource.readChunk s.inner size).2, s.reads + 1⟩)

instance {σ : Type} [FiniteSource σ] : FiniteSource (Counted σ) where
  budget s := FiniteSource.budget s.inner
  count_add_budget_le s size := FiniteSource.count_add_budget_le s.inner size

end RuleLexer
