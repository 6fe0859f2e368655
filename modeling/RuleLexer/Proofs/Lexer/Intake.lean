import Mathlib.Logic.Function.Iterate
import RuleLexer.Proofs.Lexer.Read
import RuleLexer.Proofs.Source.Delivery

/-!
# What has come from a source

An `Intake` follows a source through its reads and keeps nothing but the bytes that counted: no
buffer, no text and no rules. It is the yardstick for what a lexer has read. Failed reads bring
nothing, and where a source announces more bytes than it wrote, what the read area holds counts.

* `InStep.fill`: a lexer that is in step with an intake stays so, and the text that a read adds to
  its buffer is the text by which the intake has grown.
* `reads_decode_lossy`: however bytes are cut into reads, the text read so far is that of the bytes
  so far without those that are held, and at the end of the input it is that of all bytes.
-/

namespace RuleLexer

/-- What has come from a source: the bytes that counted, and what is needed to go on. -/
structure Intake (σ : Type) where
  source : σ
  /-- The bytes of the read area up to the last one ever written. -/
  area : List UInt8 := []
  bytes : List UInt8 := []
  exhausted : Bool := false

namespace Intake

variable {σ : Type}

/-- One more read, through an area of some size. A source that has said that it is at its end is not
asked again. -/
def read [ByteSource σ] (size : Nat) (i : Intake σ) : Intake σ :=
  if i.exhausted then i
  else
    let (reply, source) := ByteSource.readChunk i.source size
    let area := Lexer.overwrite i.area reply.written size
    match reply.outcome with
    | .error _ => { i with source, area }
    | .ok status =>
      { source, area, bytes := i.bytes ++ Lexer.areaBytes area (min status.read size),
        exhausted := status.exhausted }

theorem read_of_exhausted [ByteSource σ] {size : Nat} {i : Intake σ} (he : i.exhausted = true) :
    i.read size = i := by
  unfold read
  rw [if_pos he]

theorem read_of_fault [ByteSource σ] {size : Nat} {i : Intake σ} (he : i.exhausted = false)
    {fault : ReadFault} (hr : (ByteSource.readChunk i.source size).1.outcome = .error fault) :
    i.read size = { i with
      source := (ByteSource.readChunk i.source size).2,
      area := Lexer.overwrite i.area (ByteSource.readChunk i.source size).1.written size } := by
  unfold read
  rw [if_neg (ne_true_of_eq_false he)]
  simp only [hr]

theorem read_of_status [ByteSource σ] {size : Nat} {i : Intake σ} (he : i.exhausted = false)
    {status : ReadStatus} (hr : (ByteSource.readChunk i.source size).1.outcome = .ok status) :
    i.read size =
      ⟨(ByteSource.readChunk i.source size).2,
        Lexer.overwrite i.area (ByteSource.readChunk i.source size).1.written size,
        i.bytes ++ Lexer.areaBytes
          (Lexer.overwrite i.area (ByteSource.readChunk i.source size).1.written size)
          (min status.read size),
        status.exhausted⟩ := by
  unfold read
  rw [if_neg (ne_true_of_eq_false he)]
  simp only [hr]

/-- The text that the bytes have become: all of it at the end of the input, and otherwise the
characters that are complete. -/
def text (i : Intake σ) : Text :=
  if i.exhausted then Utf8.lossy i.bytes else Utf8.text (Utf8.decode .none i.bytes).1

/-- The pieces that the bytes have become: all of them at the end of the input, and otherwise those
that are complete. -/
def pieces (i : Intake σ) : List Utf8.Piece :=
  if i.exhausted then Utf8.pieces i.bytes else (Utf8.decode .none i.bytes).1

theorem text_pieces (i : Intake σ) : Utf8.text i.pieces = i.text := by
  unfold pieces text
  split_ifs
  · exact Utf8.text_pieces i.bytes
  · rfl

/-- What is held of the bytes. -/
def pending (i : Intake σ) : Utf8.Partial :=
  if i.exhausted then .none else (Utf8.decode .none i.bytes).2

theorem sound_pending (i : Intake σ) : Utf8.Sound i.pending := by
  unfold pending
  split_ifs
  · exact Utf8.sound_none
  · exact Utf8.sound_none.decode _

/-- Held bytes are the only ones that are not in pieces yet. -/
theorem exists_whole_pieces (i : Intake σ) :
    ∃ whole, i.bytes = whole ++ i.pending.bytes ∧ i.pieces = Utf8.pieces whole := by
  unfold pending pieces
  split_ifs
  · exact ⟨i.bytes, (List.append_nil _).symm, rfl⟩
  · exact Utf8.exists_whole_pieces i.bytes

/-- Held bytes are the only ones that are not text yet. -/
theorem exists_whole (i : Intake σ) :
    ∃ whole, i.bytes = whole ++ i.pending.bytes ∧ i.text = Utf8.lossy whole := by
  obtain ⟨whole, hbytes, hpieces⟩ := i.exists_whole_pieces
  exact ⟨whole, hbytes, by rw [← text_pieces, hpieces, Utf8.text_pieces]⟩

/-- The bytes of a source that gives chunks are these chunks, joined. -/
theorem iterate_read_of_gives [ByteSource σ] {size : Nat} {s : σ} {chunks : List (List UInt8)}
    {ended : Bool} (h : Gives size s chunks ended) (area bytes : List UInt8) :
    ((read size)^[chunks.length] ⟨s, area, bytes, false⟩).bytes = bytes ++ chunks.flatten ∧
      ((read size)^[chunks.length] ⟨s, area, bytes, false⟩).exhausted = ended := by
  -- of an honest read, what was written and announced counts
  have hread {s : σ} {n : Nat} {e : Bool} (area bytes : List UInt8)
      (hr : (ByteSource.readChunk s size).1.outcome = .ok ⟨n, e⟩) (hs : n ≤ size)
      (hw : n ≤ (ByteSource.readChunk s size).1.written.length) :
      read size ⟨s, area, bytes, false⟩ =
        ⟨(ByteSource.readChunk s size).2,
          Lexer.overwrite area (ByteSource.readChunk s size).1.written size,
          bytes ++ (ByteSource.readChunk s size).1.written.take n, e⟩ := by
    rw [read_of_status rfl hr, Nat.min_eq_left hs, Lexer.areaBytes_overwrite _ _ hs hw]
  induction h generalizing area bytes with
  | nil s => exact ⟨(List.append_nil _).symm, rfl⟩
  | cons hr hs hw _ ih =>
    rw [List.length_cons, Function.iterate_succ_apply, hread area bytes hr hs hw,
      List.flatten_cons, ← List.append_assoc]
    exact ih _ _
  | last hr hs hw =>
    rw [List.length_singleton, Function.iterate_one, hread area bytes hr hs hw, List.flatten_cons,
      List.flatten_nil, List.append_nil]
    exact ⟨rfl, rfl⟩

end Intake

namespace Lexer

variable {σ ρ : Type}

/-- A lexer that is in step with an intake: it has made the same reads. -/
structure InStep (l : Lexer σ ρ) (i : Intake σ) : Prop where
  source : l.source = i.source
  area : l.area = i.area
  exhausted : l.exhausted = i.exhausted
  pending : l.pending = i.pending

theorem InStep.sound {l : Lexer σ ρ} {i : Intake σ} (h : l.InStep i) : Utf8.Sound l.pending := by
  rw [h.pending]
  exact i.sound_pending

/-- A new lexer has read nothing. -/
theorem inStep_create (source : σ) (rules : RuleSet ρ) (sizes : BufferSizes) :
    (create source rules sizes).InStep { source } :=
  ⟨rfl, rfl, rfl, rfl⟩

section

variable [ByteSource σ] {l : Lexer σ ρ} {i : Intake σ}

/-- A failed read leaves the intake the pieces that it has. -/
theorem InStep.pieces_read_of_fault (h : l.InStep i) (he : l.exhausted = false)
    {fault : ReadFault} (hr : l.reply.outcome = .error fault) :
    (i.read l.sizes.effectiveChunk).pieces = i.pieces := by
  obtain ⟨source, area, bytes, exhausted⟩ := i
  obtain ⟨rfl, rfl, rfl, -⟩ := h
  have hi : Intake.read l.sizes.effectiveChunk ⟨l.source, l.area, bytes, l.exhausted⟩ =
      ⟨l.asked.source, l.asked.area, bytes, l.exhausted⟩ := Intake.read_of_fault he hr
  rw [hi]
  rfl

/-- Any other read adds the pieces that it brings. -/
theorem InStep.pieces_read_of_status (h : l.InStep i) (he : l.exhausted = false)
    {status : ReadStatus} (hr : l.reply.outcome = .ok status) :
    (i.read l.sizes.effectiveChunk).pieces = i.pieces ++ l.asked.broughtPieces status := by
  obtain ⟨source, area, bytes, exhausted⟩ := i
  obtain ⟨rfl, rfl, rfl, hp⟩ := h
  have hi : Intake.read l.sizes.effectiveChunk ⟨l.source, l.area, bytes, l.exhausted⟩ =
      ⟨l.asked.source, l.asked.area, bytes ++ l.asked.counted status, status.exhausted⟩ :=
    Intake.read_of_status he hr
  rw [Intake.pending, he] at hp
  change l.pending = (Utf8.decode .none bytes).2 at hp
  have hasked : l.asked.pending = l.pending := rfl
  -- what the lexer holds is what is left of the bytes before, so decoding goes on from there
  have hdec := Utf8.decode_append .none bytes (l.asked.counted status)
  rw [← hp] at hdec
  rw [hi, broughtPieces, endsWith_asked he, hasked]
  unfold Intake.pieces
  simp only [he, Bool.false_eq_true, if_false]
  cases status.exhausted with
  | true => simp only [if_true, Utf8.pieces, Utf8.piecesAfter, hdec, List.append_assoc]
  | false => simp only [Bool.false_eq_true, if_false, hdec, List.append_nil]

/-- **A read of a lexer is a read of its intake**, and the buffer grows by the same text. -/
theorem InStep.fill (h : l.InStep i) :
    l.fill.2.InStep (i.read l.sizes.effectiveChunk) ∧
      ∃ new, l.fill.2.buffer = l.buffer ++ new ∧
        (i.read l.sizes.effectiveChunk).text = i.text ++ new := by
  have hpieces (he : l.exhausted = false) {status : ReadStatus}
      (hr : l.reply.outcome = .ok status) := h.pieces_read_of_status he hr
  obtain ⟨source, area, bytes, exhausted⟩ := i
  obtain ⟨rfl, rfl, rfl, hp⟩ := h
  rcases l.fill_cases with ⟨he, hf⟩ | ⟨he, fault, hr, hf⟩ | ⟨he, status, journal, hr, hf⟩
  · rw [hf, Intake.read_of_exhausted he]
    exact ⟨⟨rfl, rfl, rfl, hp⟩, [], (List.append_nil _).symm, (List.append_nil _).symm⟩
  · have hi : Intake.read l.sizes.effectiveChunk ⟨l.source, l.area, bytes, l.exhausted⟩ =
        ⟨l.asked.source, l.asked.area, bytes, l.exhausted⟩ := Intake.read_of_fault he hr
    rw [hf, hi]
    exact ⟨⟨rfl, rfl, rfl, hp⟩, [], (List.append_nil _).symm, (List.append_nil _).symm⟩
  · have hi : Intake.read l.sizes.effectiveChunk ⟨l.source, l.area, bytes, l.exhausted⟩ =
        ⟨l.asked.source, l.asked.area, bytes ++ l.asked.counted status, status.exhausted⟩ :=
      Intake.read_of_status he hr
    rw [Intake.pending, he] at hp
    change l.pending = (Utf8.decode .none bytes).2 at hp
    have hs : Utf8.Sound l.pending := by
      rw [hp]
      exact Utf8.sound_none.decode bytes
    have hread := hpieces he hr
    rw [hi] at hread
    rw [hf, hi]
    refine ⟨⟨rfl, rfl, rfl, ?_⟩, l.asked.brought status, rfl, ?_⟩
    · show l.asked.leftPending status = if status.exhausted then _ else _
      rw [leftPending_asked he hs, Utf8.decode_append, ← hp]
    · rw [← Intake.text_pieces, ← Intake.text_pieces, hread, Utf8.text_append, text_broughtPieces]

end

/-- Reading one time after the other: a lexer stays in step with its intake, and from a new one on
its buffer is the text of the intake. -/
theorem inStep_iterate_fill [ByteSource σ] (source : σ) (rules : RuleSet ρ) (sizes : BufferSizes)
    (k : Nat) :
    ((fun l => (fill l).2)^[k] (create source rules sizes)).InStep
        ((Intake.read sizes.effectiveChunk)^[k] { source }) ∧
      ((fun l => (fill l).2)^[k] (create source rules sizes)).buffer =
        ((Intake.read sizes.effectiveChunk)^[k] { source }).text ∧
      ((fun l => (fill l).2)^[k] (create source rules sizes)).sizes = sizes := by
  induction k with
  | zero => exact ⟨inStep_create source rules sizes, rfl, rfl⟩
  | succ k ih =>
    obtain ⟨hstep, hbuf, hsizes⟩ := ih
    obtain ⟨hstep', new, hnew, htext⟩ := hstep.fill
    rw [hsizes] at hstep' htext
    rw [Function.iterate_succ_apply', Function.iterate_succ_apply']
    refine ⟨hstep', ?_, (samePlace_fill _).1.sizes.trans hsizes⟩
    rw [hnew, htext, hbuf]

/-- **Decoding does not depend on how the bytes are cut into reads.** After any number of reads from
any source, failed and empty ones included, the bytes so far are some that are decoded and then
those that are pending. The text read is that of the decoded ones, as if they had come at once. What
is pending is nothing or a proper start of the encoding of a character, of one to three bytes; and
once the source has said that it is at its end, nothing is pending and the text is that of all
bytes. The bytes so far of a source that gives chunks are these chunks, joined. -/
theorem reads_decode_lossy [ByteSource σ] (source : σ) (rules : RuleSet ρ) (sizes : BufferSizes)
    (k : Nat) :
    let l := (fun l => (fill l).2)^[k] (create source rules sizes)
    let i := (Intake.read sizes.effectiveChunk)^[k] { source }
    (∃ whole, i.bytes = whole ++ l.pending.bytes ∧ l.buffer = Utf8.lossy whole) ∧
      (l.pending.bytes = [] ∨
        1 ≤ l.pending.bytes.length ∧ l.pending.bytes.length ≤ 3 ∧
          ∃ c rest, rest ≠ [] ∧ Utf8.encodeChar c = l.pending.bytes ++ rest) ∧
      l.exhausted = i.exhausted ∧
      (i.exhausted = true → l.pending.bytes = [] ∧ l.buffer = Utf8.lossy i.bytes) ∧
      ∀ chunks ended, Gives sizes.effectiveChunk source chunks ended → chunks.length = k →
        i.bytes = chunks.flatten ∧ i.exhausted = ended := by
  intro l i
  obtain ⟨hstep, hbuf, -⟩ := inStep_iterate_fill source rules sizes k
  change l.InStep i at hstep
  change l.buffer = i.text at hbuf
  refine ⟨?_, ?_, hstep.exhausted, ?_, ?_⟩
  · obtain ⟨whole, hw, ht⟩ := i.exists_whole
    exact ⟨whole, by rw [hstep.pending]; exact hw, hbuf.trans ht⟩
  · rcases hstep.sound with h | h
    · left
      rw [h]
      rfl
    · have hlen := h.length_add_missing_le
      exact Or.inr ⟨hlen.1, by omega, h.exists_encodeChar⟩
  · intro he
    constructor
    · rw [hstep.pending, Intake.pending, if_pos he]
      rfl
    · rw [hbuf, Intake.text, if_pos he]
  · rintro chunks ended hg rfl
    exact Intake.iterate_read_of_gives hg [] []

end Lexer

end RuleLexer
