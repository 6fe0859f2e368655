import Mathlib.Tactic.SplitIfs
import RuleLexer.Source.Script

/-!
# Interrupted reads

A reader that was interrupted is read again at once, so whoever reads it as a source learns nothing
of the interruption. `Interrupts` tells where interruptions may be inserted into the script of a
reader: before and after every step, and also inside the bytes of a step, wherever a read through
the area comes to its end.

* `ReaderSource.kind_of_readChunk`: whatever the reader is, its interruptions are not passed on.
* `Interrupts.next_read`: with or without the interruptions the next read has the same reply, and
  what is left of both scripts differs in interruptions only. The reader was asked once more for
  each interruption that has gone by.
* `Script.retry_eq_heard`: the source that is made of a reader replies like a plain source whose
  script is known (`Script.heard`), in which there is no interruption and no step that would block.
-/

namespace RuleLexer

open ReaderSource (retry)

/-! ### Trying again -/

namespace ReaderSource

variable {ρ : Type} [ByteReader ρ] {r : ρ} {size : Nat}

/-- An interrupted read is made again. -/
theorem retry_succ_of_interrupted (n : Nat)
    (h : (ByteReader.read r size).1.interrupted = true) :
    retry (n + 1) r size = retry n (ByteReader.read r size).2 size := if_pos h

/-- Any other read is the last one. -/
theorem retry_of_not_interrupted (n : Nat)
    (h : (ByteReader.read r size).1.interrupted = false) :
    retry n r size = (interpret (ByteReader.read r size).1, (ByteReader.read r size).2) := by
  cases n with
  | zero => rfl
  | succ n => exact if_neg (ne_true_of_eq_false h)

/-- A chunk is what comes of trying as often as the reader asks for. -/
theorem readChunk_of_ne_zero (s : ReaderSource ρ) (hsize : size ≠ 0) :
    ByteSource.readChunk s size =
      ((retry (ByteReader.patience s.reader) s.reader size).1,
        ⟨(retry (ByteReader.patience s.reader) s.reader size).2⟩) := if_neg hsize

/-- **A source that is made of a reader fails** neither with an interruption nor because it would
have to wait. -/
theorem kind_of_readChunk {s : ReaderSource ρ} {f : ReadFault}
    (h : (ByteSource.readChunk s size).1.outcome = .error f) :
    f.kind ≠ .interrupted ∧ f.kind ≠ .wouldBlock := by
  by_cases hsize : size = 0
  · subst hsize
    nomatch h
  · obtain ⟨last, hlast, hretry⟩ :=
      exists_retry_eq (Nat.le_refl (ByteReader.patience s.reader)) size
    rw [readChunk_of_ne_zero s hsize, hretry] at h
    unfold RawReply.interrupted at hlast
    unfold interpret at h
    split at h
    · nomatch h
    · nomatch h
    · next g hg =>
      rw [hg] at hlast
      split_ifs at h with hblock
      obtain rfl : g = f := Except.error.inj h
      exact ⟨of_decide_eq_false hlast, hblock⟩

end ReaderSource

namespace Script

variable {size n : Nat} {rest : List Step} {reads : Nat}

theorem retry_interrupted {f : ReadFault} (hf : f.kind = .interrupted) :
    retry (n + 1) (⟨⟨.fail f :: rest⟩, reads⟩ : Counted Script) size =
      retry n ⟨⟨rest⟩, reads + 1⟩ size :=
  ReaderSource.retry_succ_of_interrupted n (decide_eq_true hf)

theorem retry_fault {f : ReadFault} (hf : f.kind ≠ .interrupted) :
    retry n (⟨⟨.fail f :: rest⟩, reads⟩ : Counted Script) size =
      (ReaderSource.interpret ⟨[], .error f⟩, ⟨⟨rest⟩, reads + 1⟩) :=
  ReaderSource.retry_of_not_interrupted n (decide_eq_false hf)

theorem retry_nil :
    retry n (⟨⟨[]⟩, reads⟩ : Counted Script) size =
      (ReaderSource.interpret ⟨[], .ok 0⟩, ⟨⟨[]⟩, reads + 1⟩) :=
  ReaderSource.retry_of_not_interrupted n rfl

theorem retry_data (bytes : List UInt8) :
    retry n (⟨⟨.data bytes :: rest⟩, reads⟩ : Counted Script) size =
      (ReaderSource.interpret ⟨bytes.take size, .ok (bytes.take size).length⟩,
        ⟨⟨remainder bytes size rest⟩, reads + 1⟩) :=
  ReaderSource.retry_of_not_interrupted n rfl

theorem retry_pending :
    retry n (⟨⟨.pending :: rest⟩, reads⟩ : Counted Script) size =
      (ReaderSource.interpret ⟨[], .ok 0⟩, ⟨⟨rest⟩, reads + 1⟩) :=
  ReaderSource.retry_of_not_interrupted n rfl

theorem retry_report (bytes : List UInt8) (status : ReadStatus) :
    retry n (⟨⟨.report bytes status :: rest⟩, reads⟩ : Counted Script) size =
      (ReaderSource.interpret ⟨bytes.take size, .ok status.read⟩, ⟨⟨rest⟩, reads + 1⟩) :=
  ReaderSource.retry_of_not_interrupted n rfl

end Script

/-! ### Scripts with more interruptions -/

/-- **A script and the same with so many more interruptions**, for reads through an area of some
size. Bytes that need several reads may be interrupted between two of these. -/
inductive Interrupts (size : Nat) : Nat → List Step → List Step → Prop where
  | nil : Interrupts size 0 [] []
  | keep (step : Step) {k : Nat} {rest rest' : List Step} (h : Interrupts size k rest rest') :
      Interrupts size k (step :: rest) (step :: rest')
  | insert {f : ReadFault} (hf : f.kind = .interrupted) {k : Nat} {rest rest' : List Step}
      (h : Interrupts size k rest rest') : Interrupts size (k + 1) rest (.fail f :: rest')
  | cut {first bytes : List UInt8} (hfirst : first.length = size) (hbytes : bytes ≠ [])
      {k : Nat} {rest rest' : List Step} (h : Interrupts size k (.data bytes :: rest) rest') :
      Interrupts size k (.data (first ++ bytes) :: rest) (.data first :: rest')

namespace Interrupts

variable {size : Nat}

theorem remainder {k : Nat} {rest rest' : List Step} (h : Interrupts size k rest rest')
    (bytes : List UInt8) :
    Interrupts size k (Script.remainder bytes size rest) (Script.remainder bytes size rest') := by
  unfold Script.remainder
  split_ifs
  · exact h
  · exact .keep _ h

end Interrupts

/-- Two readers on their way through such scripts: of the interruptions that were inserted some are
still to come, and the second reader was asked once more for each of the others. -/
def Alongside (size inserted : Nat) (r q : Counted Script) : Prop :=
  ∃ left, Interrupts size left r.inner.steps q.inner.steps ∧ q.reads + left = r.reads + inserted

/-- **The next read of both readers** has the same reply if they may be asked often enough. -/
theorem Interrupts.next_read {size inserted left : Nat} {steps steps' : List Step}
    (h : Interrupts size left steps steps') {reads reads' n m : Nat}
    (hreads : reads' + left = reads + inserted) (hn : steps.length ≤ n) (hm : steps'.length ≤ m) :
    (retry m (⟨⟨steps'⟩, reads'⟩ : Counted Script) size).1 =
        (retry n (⟨⟨steps⟩, reads⟩ : Counted Script) size).1 ∧
      Alongside size inserted
        (retry n (⟨⟨steps⟩, reads⟩ : Counted Script) size).2
        (retry m (⟨⟨steps'⟩, reads'⟩ : Counted Script) size).2 := by
  induction h generalizing reads reads' n m with
  | nil =>
    have hmore : reads' + 1 + 0 = reads + 1 + inserted := by omega
    rw [Script.retry_nil, Script.retry_nil]
    exact ⟨rfl, 0, .nil, hmore⟩
  | @keep step k rest rest' h ih =>
    have hmore : reads' + 1 + k = reads + 1 + inserted := by omega
    cases step with
    | data bytes =>
      rw [Script.retry_data, Script.retry_data]
      exact ⟨rfl, k, h.remainder bytes, hmore⟩
    | pending =>
      rw [Script.retry_pending, Script.retry_pending]
      exact ⟨rfl, k, h, hmore⟩
    | report bytes status =>
      rw [Script.retry_report, Script.retry_report]
      exact ⟨rfl, k, h, hmore⟩
    | fail f =>
      by_cases hf : f.kind = .interrupted
      · -- both readers are read again
        obtain ⟨n, rfl⟩ := Nat.exists_eq_add_of_le' hn
        obtain ⟨m, rfl⟩ := Nat.exists_eq_add_of_le' hm
        rw [List.length_cons, ← Nat.add_assoc, List.length_cons, ← Nat.add_assoc,
          Script.retry_interrupted hf, Script.retry_interrupted hf]
        exact ih hmore (by omega) (by omega)
      · rw [Script.retry_fault hf, Script.retry_fault hf]
        exact ⟨rfl, k, h, hmore⟩
  | @insert f hf k rest rest' h ih =>
    -- only the second reader is read again
    obtain ⟨m, rfl⟩ := Nat.exists_eq_add_of_le' hm
    rw [List.length_cons, ← Nat.add_assoc, Script.retry_interrupted hf]
    exact ih (by omega) hn (by omega)
  | @cut first bytes hfirst hbytes k rest rest' h ih =>
    -- both reads fill the area with the same bytes
    have htake : (first ++ bytes).take size = first.take size := by
      rw [List.take_append_of_le_length (Nat.le_of_eq hfirst.symm)]
    have hleft : Script.remainder (first ++ bytes) size rest = .data bytes :: rest := by
      have hpos := List.length_pos_iff.mpr hbytes
      unfold Script.remainder
      rw [if_neg (by rw [List.length_append]; omega), ← hfirst, List.drop_left]
    have hleft' : Script.remainder first size rest' = rest' := if_pos (Nat.le_of_eq hfirst)
    have hmore : reads' + 1 + k = reads + 1 + inserted := by omega
    rw [Script.retry_data, Script.retry_data, htake, hleft, hleft']
    exact ⟨rfl, k, h, hmore⟩

/-! ### What is heard of a reader -/

namespace Step

/-- The step is an interruption. -/
def interrupts : Step → Bool
  | .fail f => f.kind = .interrupted
  | _ => false

/-- What a source makes of a step of its reader: no bytes are the end of the input, and a read that
would block is one that brings nothing right now. -/
def heard : Step → Step
  | .data bytes => if bytes = [] then .report [] ⟨0, true⟩ else .data bytes
  | .pending => .report [] ⟨0, true⟩
  | .fail f => if f.kind = .wouldBlock then .pending else .fail f
  | .report bytes status => .report bytes ⟨status.read, status.read = 0⟩

end Step

namespace Script

/-- The script of the source that is made of a reader. -/
def heard (s : Script) : Script :=
  ⟨(s.steps.filter fun step => !step.interrupts).map Step.heard⟩

theorem heard_cons {step : Step} {rest : List Step} (h : step.interrupts = false) :
    heard ⟨step :: rest⟩ = ⟨step.heard :: (heard ⟨rest⟩).steps⟩ := by
  unfold heard
  rw [List.filter_cons_of_pos (by rw [h]; rfl), List.map_cons]

/-- **The reader is heard as that source**: same reply, and what is left of the reader is heard as
what is left of the source. -/
theorem retry_eq_heard {size : Nat} (hsize : size ≠ 0) (steps : List Step) {reads n : Nat}
    (hn : steps.length ≤ n) :
    ByteSource.readChunk (heard ⟨steps⟩) size =
      ((retry n (⟨⟨steps⟩, reads⟩ : Counted Script) size).1,
        (retry n (⟨⟨steps⟩, reads⟩ : Counted Script) size).2.inner.heard) := by
  induction steps generalizing reads n with
  | nil =>
    rw [retry_nil]
    rfl
  | cons step rest ih =>
    cases step with
    | data bytes =>
      rw [retry_data, heard_cons rfl]
      by_cases hbytes : bytes = []
      · subst hbytes
        have hleft : remainder [] size rest = rest := if_pos (Nat.zero_le _)
        rw [hleft, Step.heard, if_pos rfl, List.take_nil]
        show (ReadReply.mk (List.take size []) (.ok ⟨0, true⟩), heard ⟨rest⟩) = _
        rw [List.take_nil]
        rfl
      · -- the area has room, so the read brings at least one byte
        have hpos := List.length_pos_iff.mpr hbytes
        have htake : (bytes.take size).length = min size bytes.length := List.length_take
        obtain ⟨k, hk⟩ : ∃ k, (bytes.take size).length = k + 1 :=
          Nat.exists_eq_add_one.mpr (by omega)
        have hreply : ReaderSource.interpret ⟨bytes.take size, .ok (bytes.take size).length⟩ =
            .data (bytes.take size) := by
          unfold ReadReply.data
          rw [hk]
          rfl
        have hleft : (heard ⟨remainder bytes size rest⟩).steps =
            remainder bytes size (heard ⟨rest⟩).steps := by
          unfold remainder
          split_ifs with hle
          · rfl
          · have hdrop : bytes.drop size ≠ [] := by rwa [Ne, List.drop_eq_nil_iff]
            rw [heard_cons rfl, Step.heard, if_neg hdrop]
        rw [hreply, Step.heard, if_neg hbytes]
        show (ReadReply.data (bytes.take size), Script.mk (remainder bytes size _)) = _
        rw [← hleft]
    | pending =>
      rw [retry_pending, heard_cons rfl]
      show (ReadReply.mk (List.take size []) (.ok ⟨0, true⟩), heard ⟨rest⟩) = _
      rw [List.take_nil]
      rfl
    | report bytes status =>
      rw [retry_report, heard_cons rfl]
      show (ReadReply.mk (bytes.take size) (.ok ⟨status.read, status.read = 0⟩), heard ⟨rest⟩) = _
      cases status.read with
      | zero => rfl
      | succ k => rfl
    | fail f =>
      by_cases hf : f.kind = .interrupted
      · obtain ⟨n, rfl⟩ := Nat.exists_eq_add_of_le' hn
        have hskip : heard ⟨.fail f :: rest⟩ = heard ⟨rest⟩ := by
          unfold heard
          rw [List.filter_cons_of_neg]
          simp [Step.interrupts, hf]
        rw [List.length_cons, ← Nat.add_assoc, retry_interrupted hf, hskip]
        exact ih (by omega)
      · have hkept : Step.interrupts (.fail f) = false := decide_eq_false hf
        rw [retry_fault hf, heard_cons hkept, Step.heard]
        by_cases hblock : f.kind = .wouldBlock
        · simp only [ReaderSource.interpret, hblock, if_true]
          rfl
        · simp only [ReaderSource.interpret, hblock, if_false]
          rfl

end Script

end RuleLexer
