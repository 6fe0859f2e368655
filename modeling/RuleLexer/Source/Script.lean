import RuleLexer.Source.Reader

/-!
# Scripted and fed sources

Sources whose answers are known beforehand: a script of steps, played back one read after the other,
bytes handed out in portions of a fixed size, and a queue that is fed from outside between reads. A
script can be played as a source and as a reader.
-/

namespace RuleLexer

/-- One step of a script. -/
inductive Step where
  /-- Bytes to hand out; those that do not fit stay for the next read. -/
  | data (bytes : List UInt8)
  /-- Nothing right now. -/
  | pending
  | fail (fault : ReadFault)
  /-- Bytes to write, as far as they fit, and the status to report whatever was written. -/
  | report (bytes : List UInt8) (status : ReadStatus)
  deriving DecidableEq, Repr

/-- The most bytes that will ever count because of a step. -/
def Step.budget : Step → Nat
  | .data bytes => bytes.length
  | .pending => 0
  | .fail _ => 0
  | .report _ status => status.read

/-- **A script**, next step first. After the last step the input is at its end. -/
structure Script where
  steps : List Step
  deriving DecidableEq, Repr

namespace Script

/-- What is left of a data step of which some bytes were handed out. -/
def remainder (bytes : List UInt8) (size : Nat) (rest : List Step) : List Step :=
  if bytes.length ≤ size then rest else .data (bytes.drop size) :: rest

/-- The script as a source. -/
def readChunk (s : Script) (size : Nat) : ReadReply × Script :=
  match s.steps with
  | [] => (.exhausted, s)
  | .data bytes :: rest => (.data (bytes.take size), ⟨remainder bytes size rest⟩)
  | .pending :: rest => (.pending, ⟨rest⟩)
  | .fail f :: rest => (.fault f, ⟨rest⟩)
  | .report bytes status :: rest => (⟨bytes.take size, .ok status⟩, ⟨rest⟩)

/-- The script as a reader, which has no way to tell that it is at its end. -/
def read (s : Script) (size : Nat) : RawReply × Script :=
  match s.steps with
  | [] => (⟨[], .ok 0⟩, s)
  | .data bytes :: rest =>
    (⟨bytes.take size, .ok (bytes.take size).length⟩, ⟨remainder bytes size rest⟩)
  | .pending :: rest => (⟨[], .ok 0⟩, ⟨rest⟩)
  | .fail f :: rest => (⟨[], .error f⟩, ⟨rest⟩)
  | .report bytes status :: rest => (⟨bytes.take size, .ok status.read⟩, ⟨rest⟩)

/-- The most bytes that will ever count. -/
def budget (s : Script) : Nat := s.steps.foldr (fun step n => step.budget + n) 0

theorem length_take_add_budget_remainder (bytes : List UInt8) (size : Nat) (rest : List Step) :
    (bytes.take size).length + budget ⟨remainder bytes size rest⟩ =
      bytes.length + budget ⟨rest⟩ := by
  unfold remainder
  split <;> simp [budget, Step.budget] <;> omega

end Script

instance : FiniteSource Script where
  readChunk := Script.readChunk
  budget := Script.budget
  count_add_budget_le s size := by
    obtain ⟨steps⟩ := s
    rcases steps with _ | ⟨step, rest⟩
    · simp [Script.readChunk, ReadReply.exhausted, ReadReply.count]
    · cases step with
      | data bytes =>
        have h := Script.length_take_add_budget_remainder bytes size rest
        simp only [Script.readChunk, ReadReply.data, ReadReply.count]
        simp only [Script.budget, List.foldr_cons, Step.budget] at h ⊢
        omega
      | pending => simp [Script.readChunk, ReadReply.pending, ReadReply.count, Script.budget]
      | fail f => simp [Script.readChunk, ReadReply.fault, ReadReply.count, Script.budget]
      | report bytes status =>
        simp only [Script.readChunk, ReadReply.count, Script.budget, List.foldr_cons,
          Step.budget]
        omega

instance : FiniteReader Script where
  read := Script.read
  patience s := s.steps.length
  patience_lt_of_interrupted s size h := by
    obtain ⟨steps⟩ := s
    rcases steps with _ | ⟨step, rest⟩
    · cases h
    · cases step with
      | data bytes => cases h
      | pending => cases h
      | fail f => exact Nat.lt_succ_self _
      | report bytes status => cases h
  budget := Script.budget
  count_add_budget_le s size := by
    obtain ⟨steps⟩ := s
    rcases steps with _ | ⟨step, rest⟩
    · simp [Script.read, RawReply.count]
    · cases step with
      | data bytes =>
        have h := Script.length_take_add_budget_remainder bytes size rest
        simp only [Script.read, RawReply.count]
        simp only [Script.budget, List.foldr_cons, Step.budget] at h ⊢
        omega
      | pending => simp [Script.read, RawReply.count, Script.budget]
      | fail f => simp [Script.read, RawReply.count, Script.budget]
      | report bytes status =>
        simp only [Script.read, RawReply.count, Script.budget, List.foldr_cons,
          Step.budget]
        omega

/-! ### Portions -/

/-- Bytes in portions: at most so many per read, and the end at the first read with nothing left. -/
structure Portions where
  bytes : List UInt8
  portion : Nat
  deriving DecidableEq, Repr

instance : FiniteSource Portions where
  readChunk s size :=
    if s.bytes.isEmpty then (.exhausted, s)
    else
      (.data (s.bytes.take (min s.portion size)),
        { s with bytes := s.bytes.drop (min s.portion size) })
  budget s := s.bytes.length
  count_add_budget_le s size := by
    split
    · simp [ReadReply.exhausted, ReadReply.count]
    · simp [ReadReply.data, ReadReply.count]
      omega

/-! ### A queue -/

/-- A queue of bytes that is fed from outside. When it is empty it has nothing to give right now,
and once it is closed it is at its end. -/
structure Queue where
  bytes : List UInt8 := []
  closed : Bool := false
  deriving DecidableEq, Repr

namespace Queue

/-- Puts bytes behind those that are waiting. -/
def feed (q : Queue) (bytes : List UInt8) : Queue := { q with bytes := q.bytes ++ bytes }

/-- Says that no further bytes will be fed. -/
def close (q : Queue) : Queue := { q with closed := true }

end Queue

instance : FiniteSource Queue where
  readChunk q size :=
    if q.bytes.isEmpty then (if q.closed then .exhausted else .pending, q)
    else (.data (q.bytes.take size), { q with bytes := q.bytes.drop size })
  budget q := q.bytes.length
  count_add_budget_le q size := by
    split
    · split <;> simp [ReadReply.exhausted, ReadReply.pending, ReadReply.count]
    · simp [ReadReply.data, ReadReply.count]
      omega

end RuleLexer
