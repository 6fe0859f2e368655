import Mathlib.Data.List.Forall2
import RuleLexer.Rule
import RuleLexer.Proofs.Lexer.MapSource
import RuleLexer.Proofs.Source.Interruptions

/-!
# Interrupted reads are not seen

A lexer over a reader learns of its reads through the source that is made of the reader, and that
source keeps interruptions to itself. So a lexer whose reader is interrupted any number of times
does what it would do without that, call for call (`run_unaffected_by_interruptions`): only the
reader can tell, since it was asked more often. All that the lexer hears is told by a plain source
(`Script.heard`).
-/

namespace RuleLexer

theorem BufferSizes.effectiveChunk_ne_zero (sizes : BufferSizes) : sizes.effectiveChunk ≠ 0 :=
  Nat.pos_iff_ne_zero.mp (Nat.le_max_right ..)

/-- A script read through a reader that counts its reads. -/
def ReaderSource.ofSteps (steps : List Step) : ReaderSource (Counted Script) := ⟨⟨⟨steps⟩, 0⟩⟩

/-- What is heard of a scripted reader. -/
def ReaderSource.heard (s : ReaderSource (Counted Script)) : Script := s.reader.inner.heard

/-- A lexer hears of its reader what a plain source says. -/
theorem mirrors_heard {size : Nat} (hsize : size ≠ 0) : Mirrors size ReaderSource.heard := by
  rintro ⟨⟨⟨steps⟩, reads⟩⟩
  rw [ReaderSource.readChunk_of_ne_zero _ hsize]
  exact Script.retry_eq_heard hsize steps (Nat.le_refl _)

/-- Readers whose scripts differ in interruptions reply alike. -/
theorem replyAlike_alongside {size : Nat} (hsize : size ≠ 0) (inserted : Nat) :
    ReplyAlike size fun s t : ReaderSource (Counted Script) =>
      Alongside size inserted s.reader t.reader := by
  rintro ⟨⟨⟨steps⟩, reads⟩⟩ ⟨⟨⟨steps'⟩, reads'⟩⟩ ⟨left, h, hreads⟩
  rw [ReaderSource.readChunk_of_ne_zero _ hsize, ReaderSource.readChunk_of_ne_zero _ hsize]
  exact h.next_read hreads (Nat.le_refl _) (Nat.le_refl _)

namespace Lexer

variable {ρ : Type}

/-- The errors of a lexer over a reader: a failed read was not interrupted and would not have
blocked. -/
theorem upholds_kind {κ : Type} [ByteReader κ] :
    Upholds (fun _ : Lexer (ReaderSource κ) ρ => True)
      (fun e _ => ∀ position fault, e = .read position fault →
        fault.kind ≠ .interrupted ∧ fault.kind ≠ .wouldBlock) where
  read _ _ := trivial
  fail := by
    rintro l l' e - hf position fault rfl
    obtain ⟨fault', hreply, he, -⟩ := fill_eq_error hf
    cases he
    exact ReaderSource.kind_of_readChunk hreply
  note _ _ := trivial
  unknown := by
    rintro l literal - position fault h
    cases h
  consume _ _ := trivial
  exchange _ _ := trivial

variable [TokenRule ρ]

/-- **Interrupted reads are not seen.** Take the script of a reader, and the same script with any
number of interruptions inserted anywhere. Lexers over both, with the same rules and sizes, answer
any calls alike, and after each of them they are the same in every field but for the source: the
second reader still has some of the inserted interruptions before it and was asked once more for
each of the others. No call fails because a read was interrupted or would have blocked. And a lexer
over the plain source that is heard of the reader, in which a read that would block brings nothing
right now and one that brings no bytes is at the end, answers the same and is the same, too. If a
call does not come to its end for one of these lexers, it does not for the others either. -/
theorem run_unaffected_by_interruptions (rules : RuleSet ρ) (sizes : BufferSizes) (rounds : Nat)
    (calls : List (Call ρ)) {inserted : Nat} {steps steps' : List Step}
    (h : Interrupts sizes.effectiveChunk inserted steps steps') :
    let calm := run? rounds (.create (.ofSteps steps) rules sizes) calls
    let torn := run? rounds (.create (.ofSteps steps') rules sizes) calls
    Option.Rel (List.Forall₂ fun p q =>
        q.1 = p.1 ∧ q.2 = { p.2 with source := q.2.source } ∧
          Alongside sizes.effectiveChunk inserted p.2.source.reader q.2.source.reader)
        calm torn ∧
      (∀ results, calm = some results ∨ torn = some results → ∀ p ∈ results,
        ∀ position fault, Outcome.error? p.1 = some (.read position fault) →
          fault.kind ≠ .interrupted ∧ fault.kind ≠ .wouldBlock) ∧
      run? rounds (.create (Script.heard ⟨steps⟩) rules sizes) calls =
        calm.map (List.map fun p => (p.1, p.2.mapSource ReaderSource.heard)) := by
  intro calm torn
  have hsize := sizes.effectiveChunk_ne_zero
  refine ⟨?_, ?_, run?_mapSource (l := .create (.ofSteps steps) rules sizes)
    (mirrors_heard hsize) rounds calls rfl⟩
  · -- the lexers start out alike and stay so
    have hstart : Recast sizes.effectiveChunk
        (fun s t : ReaderSource (Counted Script) =>
          Alongside sizes.effectiveChunk inserted s.reader t.reader) []
        (Lexer.create (.ofSteps steps) rules sizes) (.create (.ofSteps steps') rules sizes) :=
      ⟨rfl, ⟨inserted, h, rfl⟩, rfl⟩
    have hrun := (simulates_recast (replyAlike_alongside hsize inserted) []).run rounds calls hstart
    change Option.Rel _ calm torn at hrun
    clear_value calm torn
    cases hrun with
    | none => exact .none
    | some halike =>
      refine .some (halike.imp fun p q hpq => ?_)
      obtain ⟨hsame, hafter⟩ := hpq
      exact ⟨hsame, hafter.eq_recast.trans (recast_nil ..), hafter.source⟩
  · -- whatever the script is, its interruptions are not told
    have hkind (steps : List Step) : ∀ results,
        run? rounds (.create (ReaderSource.ofSteps steps) rules sizes) calls = some results →
        ∀ p ∈ results, ∀ position fault, Outcome.error? p.1 = some (.read position fault) →
          fault.kind ≠ .interrupted ∧ fault.kind ≠ .wouldBlock := by
      intro results hrun p hp position fault herror
      have hupheld := upholds_kind.run (fun _ => trivial) trivial hrun p hp
      rw [herror] at hupheld
      exact hupheld position fault rfl
    rintro results (hcalm | htorn)
    · exact hkind steps results hcalm
    · exact hkind steps' results htorn

/-- Interruptions between the bytes of a character, before a read that would block, and before the
end. The reader fails once for another reason. -/
theorem run_unaffected_by_interruptions_script :
    let sizes : BufferSizes := ⟨1, 2⟩
    let rules : RuleSet Rule := ⟨none, [.literals .ident [['a'], ['\u00e9']]]⟩
    let interrupted : Step := .fail ⟨.interrupted, []⟩
    let steps : List Step :=
      [.data [0x61, 0xC3, 0xA9], .fail ⟨.wouldBlock, []⟩, .fail ⟨.other [], []⟩]
    let steps' : List Step :=
      [.data [0x61, 0xC3], interrupted, interrupted, .data [0xA9], interrupted,
        .fail ⟨.wouldBlock, []⟩, .fail ⟨.other [], []⟩, interrupted]
    let calls : List (Call Rule) := [.scan, .scan, .scan, .next false, .scan]
    let calm := run? 20 (.create (ReaderSource.ofSteps steps) rules sizes) calls
    let torn := run? 20 (.create (ReaderSource.ofSteps steps') rules sizes) calls
    Interrupts sizes.effectiveChunk 4 steps steps' ∧
      calm.map (List.map fun p => (p.2.cursor.offset, p.2.source.reader.reads)) =
        some [(1, 2), (3, 3), (3, 4), (3, 5), (3, 5)] ∧
      torn.map (List.map fun p => (p.2.cursor.offset, p.2.source.reader.reads)) =
        some [(1, 4), (3, 6), (3, 7), (3, 9), (3, 9)] ∧
      Option.Rel (List.Forall₂ fun p q =>
        q.1 = p.1 ∧ q.2 = { p.2 with source := q.2.source } ∧
          Alongside sizes.effectiveChunk 4 p.2.source.reader q.2.source.reader) calm torn := by
  intro sizes rules interrupted steps steps' calls calm torn
  have h : Interrupts sizes.effectiveChunk 4 steps steps' :=
    @Interrupts.cut 2 [0x61, 0xC3] [0xA9] rfl (List.cons_ne_nil _ _) _ _ _
      (.insert rfl (.insert rfl (.keep _ (.insert rfl (.keep _ (.keep _ (.insert rfl .nil)))))))
  refine ⟨h, ?_, ?_, (run_unaffected_by_interruptions rules sizes 20 calls h).1⟩
  · decide +kernel
  · decide +kernel

end Lexer

end RuleLexer
