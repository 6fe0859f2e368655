import Mathlib.Data.List.DropRight
import RuleLexer.Proofs.Lexer.Intake
import RuleLexer.Proofs.Lexer.Moves

/-!
# What a lexer has consumed

The buffer, the cursor and the consumed part of the current line are kept apart, but all three are
about one text: the text that was consumed. `Accounted` says what they have to do with it. Together
with the buffer it is all the text that was ever decoded, the cursor counts its lines, the
characters of its last line and its bytes, and the consumed part of the line is that last line.

* `advanced_start`, `foldl_extendLine`: the cursor and the line after a text.
* `Accounted.changes`: whatever a call does, the consumed text grows at its end, if at all, and is
  accounted for afterwards.
* `exists_consumed_of_trace`: so it is after every one of any number of calls.
-/

namespace RuleLexer

/-- The last line of a text: what follows its last line break, all of it if there is none. -/
abbrev Text.lastLine (t : Text) : Text := t.rtakeWhile (· ≠ '\n')

theorem Text.lastLine_concat (t : Text) (c : Char) :
    Text.lastLine (t ++ [c]) = if c = '\n' then [] else Text.lastLine t ++ [c] := by
  unfold Text.lastLine
  rw [List.rtakeWhile_concat]
  by_cases hc : c = '\n'
  · simp [hc]
  · simp [hc]

/-- **The position after a text**, from the start: its line breaks, the characters of its last line
and its bytes. -/
theorem advanced_start (t : Text) :
    Position.start.advanced t = ⟨t.count '\n', (Text.lastLine t).length, t.byteLength⟩ := by
  induction t using List.reverseRecOn with
  | nil => rfl
  | append_singleton t c ih =>
    rw [Position.advanced_append, ih, Position.advanced_cons, Position.advanced_nil,
      Text.lastLine_concat, Text.byteLength_append, List.count_append, List.count_singleton]
    unfold Position.advance
    by_cases hc : c = '\n'
    · simp [hc]
    · simp [hc]

/-- **The consumed part of the current line** is the last line of what was consumed. -/
theorem foldl_extendLine (t : Text) :
    (t.foldl Lexer.extendLine []).reverse = Text.lastLine t := by
  induction t using List.reverseRecOn with
  | nil => rfl
  | append_singleton t c ih =>
    rw [List.foldl_append, List.foldl_cons, List.foldl_nil, Text.lastLine_concat, ← ih]
    unfold Lexer.extendLine
    split_ifs
    · rfl
    · exact List.reverse_cons

namespace Lexer

variable {σ ρ : Type} [ByteSource σ]

/-- A function that counts the reads of a source. -/
def CountsReads (count : σ → Nat) : Prop :=
  ∀ s size, count (ByteSource.readChunk s size).2 = count s + 1

/-- A consumed text that a lexer's fields are right about. The lexer was made for the source and the
sizes, and has made some number of reads since. -/
structure Accounted (source : σ) (sizes : BufferSizes) (consumed : Text) (l : Lexer σ ρ) :
    Prop where
  sizes_eq : l.sizes = sizes
  /-- The consumed text and the buffer are all the text that the reads so far have brought. -/
  decoded : ∃ k, (∀ count, CountsReads count → count l.source = count source + k) ∧
    l.InStep ((Intake.read sizes.effectiveChunk)^[k] { source }) ∧
    consumed ++ l.buffer = ((Intake.read sizes.effectiveChunk)^[k] { source }).text
  /-- The cursor counts line breaks, characters since the last of them, and bytes. -/
  cursor_eq : l.cursor =
    ⟨consumed.count '\n', (Text.lastLine consumed).length, consumed.byteLength⟩
  /-- What is consumed of the current line is the last line. -/
  line_eq : l.line = Text.lastLine consumed

namespace Accounted

variable {source : σ} {sizes : BufferSizes} {consumed : Text} {l : Lexer σ ρ}

theorem create (source : σ) (rules : RuleSet ρ) (sizes : BufferSizes) :
    Accounted source sizes [] (create source rules sizes) :=
  ⟨rfl, ⟨0, fun _ _ => rfl, inStep_create source rules sizes, rfl⟩, rfl, rfl⟩

/-- A change of other fields makes no difference. -/
theorem of_eq {l' : Lexer σ ρ} (h : Accounted source sizes consumed l) (hsizes : l'.sizes = l.sizes)
    (hsource : l'.source = l.source) (harea : l'.area = l.area)
    (hexhausted : l'.exhausted = l.exhausted) (hpending : l'.pending = l.pending)
    (hbuffer : l'.buffer = l.buffer) (hcursor : l'.cursor = l.cursor)
    (hline : l'.lineBack = l.lineBack) : Accounted source sizes consumed l' := by
  obtain ⟨k, hcount, hstep, htext⟩ := h.decoded
  refine ⟨hsizes.trans h.sizes_eq, ⟨k, ?_, ⟨hsource.trans hstep.source, harea.trans hstep.area,
    hexhausted.trans hstep.exhausted, hpending.trans hstep.pending⟩, ?_⟩,
    hcursor.trans h.cursor_eq, ?_⟩
  · intro count hc
    rw [hsource]
    exact hcount count hc
  · rw [hbuffer]
    exact htext
  · rw [line, hline]
    exact h.line_eq

/-- A read adds to the buffer what it adds to the decoded text. -/
theorem fill (h : Accounted source sizes consumed l) :
    Accounted source sizes consumed l.fill.2 := by
  by_cases he : l.exhausted = true
  · rw [fill_of_exhausted l he]
    exact h
  · obtain ⟨k, hcount, hstep, htext⟩ := h.decoded
    have hsame := (samePlace_fill l).1
    obtain ⟨hstep', new, hnew, htext'⟩ := hstep.fill
    rw [h.sizes_eq, ← Function.iterate_succ_apply' (Intake.read sizes.effectiveChunk)]
      at hstep' htext'
    refine ⟨hsame.sizes.trans h.sizes_eq, ⟨k + 1, ?_, hstep', ?_⟩, hsame.cursor.trans h.cursor_eq,
      ?_⟩
    · intro count hc
      rw [fill_source (Bool.eq_false_iff.mpr he), hc, hcount count hc]
      omega
    · rw [hnew, htext', ← htext, List.append_assoc]
    · rw [line, hsame.lineBack]
      exact h.line_eq

/-- Consuming a literal moves it from the buffer to the consumed text. -/
theorem consume (h : Accounted source sizes consumed l) {literal rest : Text}
    (hl : l.buffer = literal ++ rest) :
    Accounted source sizes (consumed ++ literal) (l.consume literal) := by
  obtain ⟨k, hcount, hstep, htext⟩ := h.decoded
  refine ⟨h.sizes_eq, ⟨k, hcount, ⟨hstep.source, hstep.area, hstep.exhausted, hstep.pending⟩, ?_⟩,
    ?_, ?_⟩
  · show (consumed ++ literal) ++ l.buffer.drop literal.length = _
    rw [← htext, hl, List.drop_left, List.append_assoc]
  · show l.cursor.advanced literal = _
    rw [h.cursor_eq, ← advanced_start, ← advanced_start, Position.advanced_append]
  · -- the line is kept backwards, so it goes on from what was folded so far
    have hb : l.lineBack = consumed.foldl extendLine [] := by
      have := h.line_eq
      rw [line, ← foldl_extendLine] at this
      exact List.reverse_inj.mp this
    show (literal.foldl extendLine l.lineBack).reverse = _
    rw [hb, ← List.foldl_append, foldl_extendLine]

variable [TokenRule ρ]

/-- One change lets the consumed text grow at its end, if at all. -/
theorem change {l' : Lexer σ ρ} (h : Accounted source sizes consumed l) (hc : Change l l') :
    ∃ new, Accounted source sizes (consumed ++ new) l' := by
  cases hc with
  | move hm =>
    cases hm with
    | skip hs =>
      cases hs with
      | topUp _ => exact ⟨[], by rw [List.append_nil]; exact h.fill⟩
      | pass hb =>
        obtain ⟨-, rest, hrest⟩ := blank?_eq_some hb
        exact ⟨_, h.consume hrest⟩
    | note e => exact ⟨[], by rw [List.append_nil]; exact h.of_eq rfl rfl rfl rfl rfl rfl rfl rfl⟩
    | retry _ _ _ => exact ⟨[], by rw [List.append_nil]; exact h.fill⟩
  | take literal hl => exact ⟨literal, h.consume hl⟩
  | exchange rules =>
    exact ⟨[], by rw [List.append_nil]; exact h.of_eq rfl rfl rfl rfl rfl rfl rfl rfl⟩

/-- **Any number of changes** likewise. -/
theorem changes {l' : Lexer σ ρ} (h : Accounted source sizes consumed l) (hc : Changes l l') :
    ∃ new, Accounted source sizes (consumed ++ new) l' := by
  induction hc with
  | refl => exact ⟨[], by rw [List.append_nil]; exact h⟩
  | tail _ hstep ih =>
    obtain ⟨new, hnew⟩ := ih
    obtain ⟨new', hnew'⟩ := hnew.change hstep
    exact ⟨new ++ new', by rw [← List.append_assoc]; exact hnew'⟩

end Accounted

variable [TokenRule ρ]

theorem exists_consumed_of_accounted {source : σ} {sizes : BufferSizes} {consumed : Text}
    {l : Lexer σ ρ} {calls : List (Call ρ)} {states : List (Lexer σ ρ)}
    (h : Accounted source sizes consumed l) (ht : Trace l calls states) :
    ∃ texts : List Text, List.IsChain (· <+: ·) (consumed :: texts) ∧
      List.Forall₂ (Accounted source sizes) texts states := by
  induction ht generalizing consumed with
  | nil l => exact ⟨[], List.IsChain.singleton _, .nil⟩
  | cons hc _ ih =>
    obtain ⟨new, hnew⟩ := h.changes (changes_of_leads hc)
    obtain ⟨texts, hchain, hall⟩ := ih hnew
    exact ⟨_ :: texts, .cons_cons (List.prefix_append _ _) hchain, .cons hnew hall⟩

/-- **The consumed text accounts for the lexer after every call.** For any source and any calls in a
row, there are consumed texts, one after each call and each a continuation of the one before, such
that the consumed text and the buffer are all the text decoded so far, and the cursor and the
consumed part of the line are those of the consumed text. -/
theorem exists_consumed_of_trace (source : σ) (rules : RuleSet ρ) (sizes : BufferSizes)
    (calls : List (Call ρ)) (states : List (Lexer σ ρ))
    (h : Trace (create source rules sizes) calls states) :
    ∃ consumed : List Text, List.IsChain (· <+: ·) ([] :: consumed) ∧
      List.Forall₂ (Accounted source sizes) consumed states :=
  exists_consumed_of_accounted (Accounted.create source rules sizes) h

/-- A script with a character cut in two, a read that brings nothing, one that fails and one that
announces more bytes than it wrote, and calls of every kind of outcome. -/
theorem exists_consumed_of_trace_script :
    let source : Script := ⟨[.data [0x61, 0x0A, 0xC3], .pending, .data [0xA9, 0x20],
      .fail ⟨.other [], []⟩, .report [0x62] ⟨2, true⟩]⟩
    let rules : RuleSet Rule :=
      ⟨some (.literals .other [[' '], ['\n']]), [.literals .ident [['a'], ['é']]]⟩
    let calls : List (Call Rule) :=
      [.scan, .scan, .lastLine, .peek, .scan, .skipLiteral ['b'], .setRules [], .next false]
    ∃ states, Trace (create source rules ⟨2, 3⟩) calls states ∧
      states.map cursor = [⟨0, 1, 1⟩, ⟨1, 1, 4⟩, ⟨1, 1, 4⟩, ⟨1, 2, 5⟩, ⟨1, 2, 5⟩, ⟨1, 3, 6⟩,
        ⟨1, 3, 6⟩, ⟨1, 4, 7⟩] ∧
      ∃ consumed : List Text, List.IsChain (· <+: ·) ([] :: consumed) ∧
        List.Forall₂ (Accounted source ⟨2, 3⟩) consumed states := by
  intro source rules calls
  have h : (trace? 20 (create source rules ⟨2, 3⟩) calls).map (List.map cursor) =
      some [⟨0, 1, 1⟩, ⟨1, 1, 4⟩, ⟨1, 1, 4⟩, ⟨1, 2, 5⟩, ⟨1, 2, 5⟩, ⟨1, 3, 6⟩, ⟨1, 3, 6⟩,
        ⟨1, 4, 7⟩] := by decide +kernel
  obtain ⟨states, htrace, hcursors⟩ := Option.map_eq_some_iff.mp h
  exact ⟨states, trace_of_trace? htrace, hcursors,
    exists_consumed_of_trace source rules ⟨2, 3⟩ calls states (trace_of_trace? htrace)⟩

end Lexer

end RuleLexer
