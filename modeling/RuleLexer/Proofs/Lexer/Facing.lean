import RuleLexer.Proofs.Lexer.Read
import RuleLexer.Proofs.Lexer.Rounds
import RuleLexer.Proofs.Source.Faltering

/-!
# The text that lies before a lexer

A lexer over a source that gives all of its bytes faces a text: what is in its buffer, and behind it
what the bytes to come will add. Reading moves text from the one part to the other and changes
nothing else, so this is an invariant of all reads, however the source cuts its bytes. The source
may fail on the way and go on; then faults lie before the lexer as well (`Awaits`), and without them
it just `Faces` the text.

* `Awaits.fill`: a read moves text into the buffer, or it tells the next fault.
* `Faces.fill`: without faults no read fails, and one that brings no bytes is the last.
* `Faces.ensureBuffered`: topping up comes to an end, and then the buffer is `Primed`: it holds as
  many bytes as are wanted, or all there is.
* `Faces.length_lt_rounds`, `ahead_lt_rounds`: the rounds that a lexer counts on are more than the
  characters it faces and more than the reads it can still make.
-/

namespace RuleLexer.Lexer

variable {σ ρ : Type}

/-! ### What reads use up -/

section Source

variable [ByteSource σ]

/-- How many bytes a lexer has got and not consumed, decoded or not. -/
def gathered (l : Lexer σ ρ) : Nat := l.buffer.byteLength + l.pending.bytes.length

/-- Every byte that a read brings is gathered. -/
theorem gathered_fill {l l' : Lexer σ ρ} {k : Nat} (hs : Utf8.Sound l.pending)
    (h : l.fill = (.ok k, l')) : Utf8.Sound l'.pending ∧ l.gathered + k ≤ l'.gathered := by
  rcases fill_eq_ok h with ⟨-, rfl, rfl⟩ | ⟨he, status, journal, -, rfl, rfl⟩
  · exact ⟨hs, Nat.le_refl _⟩
  · unfold gathered
    rw [brought_asked he, leftPending_asked he hs, Text.byteLength_append]
    cases status.exhausted with
    | true =>
      have hle := Utf8.le_byteLength_textAfter hs (l.asked.counted status)
      refine ⟨Utf8.sound_none, ?_⟩
      simp only [if_true, Utf8.Partial.none, List.length_nil]
      omega
    | false =>
      have hle := Utf8.le_byteLength_decode hs (l.asked.counted status)
      refine ⟨hs.decode _, ?_⟩
      simp only [Bool.false_eq_true, if_false]
      omega

omit [ByteSource σ] in
/-- Of the bytes gathered no more than three are missing from the buffer: those that wait to become
a character. -/
theorem gathered_le {l : Lexer σ ρ} (hs : Utf8.Sound l.pending) :
    l.gathered ≤ l.buffer.byteLength + 3 := by
  have h3 := hs.length_le
  unfold gathered
  omega

/-- A read without bytes brings no text, or one character for what was left of one. -/
theorem buffer_of_fill_zero {l l' : Lexer σ ρ} (h : l.fill = (.ok 0, l')) :
    ∃ new, l'.buffer = l.buffer ++ new ∧ (new = [] ∨ new = [Utf8.replacement]) := by
  rcases fill_eq_ok h with ⟨-, -, rfl⟩ | ⟨he, status, journal, -, hk, rfl⟩
  · exact ⟨[], (List.append_nil _).symm, Or.inl rfl⟩
  · refine ⟨l.asked.brought status, rfl, ?_⟩
    have hnone : l.asked.counted status = [] := List.length_eq_zero_iff.mp hk.symm
    rw [brought_asked he, hnone]
    unfold Utf8.textAfter Utf8.decode Utf8.finish
    split_ifs
    · exact Or.inl rfl
    · exact Or.inr rfl
    · exact Or.inl rfl

omit [ByteSource σ] in
theorem SamePlace.trans {l l' l'' : Lexer σ ρ} (h : l.SamePlace l') (h' : l'.SamePlace l'') :
    l.SamePlace l'' :=
  ⟨h'.cursor.trans h.cursor, h'.lineBack.trans h.lineBack, h'.rules.trans h.rules,
    h'.sizes.trans h.sizes⟩

end Source

section Finite

variable [FiniteSource σ]

/-- How much is ahead of a lexer: no more than so many reads can bring bytes or text. The end of the
input may bring text without bytes, but only once. -/
def ahead (l : Lexer σ ρ) : Nat := FiniteSource.budget l.source + if l.exhausted then 0 else 1

/-- Reads were made, and nothing else. If they have brought text, the generation is another one and
there is less ahead. -/
structure Grown (l l' : Lexer σ ρ) : Prop where
  same : l.SamePlace l'
  ahead_le : l'.ahead ≤ l.ahead
  buffer : ∃ new, l'.buffer = l.buffer ++ new
  generation : l'.generation = l.generation ∧ l'.buffer = l.buffer ∨
    l.generation < l'.generation ∧ l'.ahead < l.ahead

namespace Grown

theorem refl (l : Lexer σ ρ) : Grown l l :=
  ⟨⟨rfl, rfl, rfl, rfl⟩, Nat.le_refl _, ⟨[], (List.append_nil _).symm⟩, Or.inl ⟨rfl, rfl⟩⟩

theorem trans {l l' l'' : Lexer σ ρ} (h : Grown l l') (h' : Grown l' l'') : Grown l l'' := by
  obtain ⟨new, hnew⟩ := h.buffer
  obtain ⟨new', hnew'⟩ := h'.buffer
  refine ⟨h.same.trans h'.same, Nat.le_trans h'.ahead_le h.ahead_le,
    ⟨new ++ new', by rw [hnew', hnew, List.append_assoc]⟩, ?_⟩
  have hle := h.ahead_le
  have hle' := h'.ahead_le
  rcases h.generation with ⟨hg, hb⟩ | ⟨hg, ha⟩
  · rcases h'.generation with ⟨hg', hb'⟩ | ⟨hg', ha'⟩
    · exact Or.inl ⟨hg'.trans hg, hb'.trans hb⟩
    · exact Or.inr ⟨by omega, by omega⟩
  · rcases h'.generation with ⟨hg', hb'⟩ | ⟨hg', ha'⟩
    · exact Or.inr ⟨by omega, by omega⟩
    · exact Or.inr ⟨by omega, by omega⟩

theorem note {l l' : Lexer σ ρ} (h : Grown l l') (e : Event) : Grown l (l'.note e) :=
  ⟨⟨h.same.cursor, h.same.lineBack, h.same.rules, h.same.sizes⟩, h.ahead_le, h.buffer, h.generation⟩

end Grown

theorem budget_asked {l : Lexer σ ρ} {status : ReadStatus} (hr : l.reply.outcome = .ok status) :
    (l.asked.counted status).length + FiniteSource.budget l.asked.source ≤
      FiniteSource.budget l.source := by
  have hlen : (l.asked.counted status).length = min status.read l.sizes.effectiveChunk :=
    length_areaBytes _ _
  have hb := FiniteSource.count_add_budget_le l.source l.sizes.effectiveChunk
  change l.reply.count l.sizes.effectiveChunk + FiniteSource.budget l.asked.source ≤ _ at hb
  unfold ReadReply.count at hb
  rw [hr] at hb
  rwa [hlen]

/-- Every byte that a read brings is one less ahead, and so is the end of the input. -/
theorem ahead_fill {l l' : Lexer σ ρ} {k : Nat} (h : l.fill = (.ok k, l')) :
    l'.ahead + k ≤ l.ahead ∧ (l'.exhausted ≠ l.exhausted → l'.ahead + k < l.ahead) := by
  rcases fill_eq_ok h with ⟨-, rfl, rfl⟩ | ⟨he, status, journal, hr, rfl, rfl⟩
  · exact ⟨Nat.le_refl _, fun hne => absurd rfl hne⟩
  · have hb := budget_asked hr
    unfold ahead
    rw [he]
    cases status.exhausted with
    | true =>
      simp only [if_true, Bool.false_eq_true, if_false]
      omega
    | false =>
      simp only [Bool.false_eq_true, if_false]
      exact ⟨by omega, fun hne => absurd rfl hne⟩

/-- A read only makes a lexer grow. Text comes from bytes, or else from the end of the input. -/
theorem grown_fill {l l' : Lexer σ ρ} {k : Nat} (h : l.fill = (.ok k, l')) : Grown l l' := by
  obtain ⟨hle, hend⟩ := ahead_fill h
  obtain ⟨hsame, hbuffer⟩ := samePlace_fill l
  rw [h] at hsame hbuffer
  refine ⟨hsame, by omega, hbuffer, ?_⟩
  rcases fill_eq_ok h with ⟨-, rfl, rfl⟩ | ⟨he, status, journal, -, hk, rfl⟩
  · exact Or.inl ⟨rfl, rfl⟩
  · by_cases hnew : l.asked.brought status = []
    · refine Or.inl ⟨?_, ?_⟩
      · show (if _ then _ else _) = _
        rw [if_pos hnew]
      · show l.buffer ++ _ = _
        rw [hnew, List.append_nil]
    · refine Or.inr ⟨?_, ?_⟩
      · show _ < (if _ then _ else _)
        rw [if_neg hnew]
        exact Nat.lt_succ_self _
      · by_cases hlast : status.exhausted = true
        · have := hend (by rw [he, hlast]; exact Bool.noConfusion)
          omega
        · -- before the end of the input there is no text without bytes
          have hpos : k ≠ 0 := by
            rintro rfl
            apply hnew
            rw [brought_asked he, if_neg hlast, List.length_eq_zero_iff.mp hk.symm]
            rfl
          omega

end Finite

/-! ### Facing a text -/

section Faces

variable [ByteSource σ]

/-- The text that lies before a lexer, and the faults on the way to its end: what is in the buffer,
and what the source delivers while it falters. -/
inductive Awaits (l : Lexer σ ρ) (t : Text) : List ReadFault → Prop where
  | atEnd (he : l.exhausted = true) (hs : Utf8.Sound l.pending) (ht : t = l.buffer) : Awaits l t []
  | within {faults : List ReadFault} (he : l.exhausted = false) (hs : Utf8.Sound l.pending)
      (bytes : List UInt8) (hd : Falters l.sizes.effectiveChunk l.source bytes faults)
      (ht : t = l.buffer ++ Utf8.textAfter l.pending bytes) : Awaits l t faults

/-- The same where there are no faults. -/
abbrev Faces (l : Lexer σ ρ) (t : Text) : Prop := l.Awaits t []

/-- Before a new lexer lies the text of all bytes, and all faults are still to come. -/
theorem awaits_create {source : σ} (rules : RuleSet ρ) {sizes : BufferSizes} {bytes : List UInt8}
    {faults : List ReadFault} (h : Falters sizes.effectiveChunk source bytes faults) :
    (create source rules sizes).Awaits (Utf8.lossy bytes) faults :=
  .within rfl Utf8.sound_none bytes h (Utf8.textAfter_none bytes).symm

theorem faces_create {source : σ} (rules : RuleSet ρ) {sizes : BufferSizes} {bytes : List UInt8}
    (h : Delivers sizes.effectiveChunk source bytes) :
    (create source rules sizes).Faces (Utf8.lossy bytes) := awaits_create rules h.falters

namespace Awaits

variable {l : Lexer σ ρ} {t : Text} {faults : List ReadFault}

theorem sound (h : l.Awaits t faults) : Utf8.Sound l.pending := by
  cases h with
  | atEnd _ hs _ => exact hs
  | within _ hs _ _ _ => exact hs

theorem exists_append (h : l.Awaits t faults) : ∃ y, t = l.buffer ++ y := by
  cases h with
  | atEnd _ _ ht => exact ⟨[], by rw [ht, List.append_nil]⟩
  | within _ _ _ _ ht => exact ⟨_, ht⟩

/-- At the end of the input all of the text is in the buffer, and no fault is left. -/
theorem of_exhausted (h : l.Awaits t faults) (he : l.exhausted = true) :
    t = l.buffer ∧ faults = [] := by
  cases h with
  | atEnd _ _ ht => exact ⟨ht, rfl⟩
  | within he' _ _ _ _ =>
    rw [he] at he'
    cases he'

theorem note (h : l.Awaits t faults) (e : Event) : (l.note e).Awaits t faults := by
  cases h with
  | atEnd he hs ht => exact .atEnd he hs ht
  | within he hs bytes hd ht => exact .within he hs bytes hd ht

theorem consume (h : l.Awaits t faults) {literal rest : Text} (hl : l.buffer = literal ++ rest) :
    (l.consume literal).Awaits (t.drop literal.length) faults := by
  cases h with
  | atEnd he hs ht => exact .atEnd he hs (by rw [ht]; rfl)
  | within he hs bytes hd ht =>
    refine .within he hs bytes hd ?_
    show t.drop _ = l.buffer.drop _ ++ _
    rw [ht, hl, List.append_assoc, List.drop_left, List.drop_left]
    rfl

/-- **A read loses nothing**: it moves text into the buffer, or it tells the next fault. If it
brings no bytes, the input is at its end. -/
theorem fill (h : l.Awaits t faults) :
    (∃ k l', l.fill = (.ok k, l') ∧ l'.Awaits t faults ∧ (k = 0 → l'.exhausted = true)) ∨
    ∃ fault rest l', faults = fault :: rest ∧ l.fill = (.error (.read l.cursor fault), l') ∧
      l'.Awaits t rest := by
  cases h with
  | atEnd he hs ht =>
    exact Or.inl ⟨0, l, fill_of_exhausted l he, .atEnd he hs ht, fun _ => he⟩
  | within he hs bytes hd ht =>
    cases hd with
    | fault hr hd => exact Or.inr ⟨_, _, _, rfl, fill_of_fault l he hr, .within he hs bytes hd ht⟩
    | @last _ n hr hsize hwritten =>
      obtain ⟨journal, hf⟩ := fill_of_status he hr
      rw [brought_asked he, leftPending_asked he hs, counted_asked true hsize hwritten] at hf
      exact Or.inl ⟨_, _, hf, .atEnd rfl Utf8.sound_none ht, fun _ => rfl⟩
    | @data _ n rest _ hr hsize hwritten hn hd =>
      obtain ⟨journal, hf⟩ := fill_of_status he hr
      have hlen : (l.reply.written.take n).length = n := by
        rw [List.length_take]
        exact Nat.min_eq_left hwritten
      rw [brought_asked he, leftPending_asked he hs, counted_asked false hsize hwritten, hlen]
        at hf
      refine Or.inl ⟨_, _, hf, .within rfl (hs.decode _) rest hd ?_, fun hk => ?_⟩
      · rw [ht, Utf8.textAfter_append, ← List.append_assoc]
        rfl
      · exact absurd hk (Nat.ne_of_gt hn)

end Awaits

namespace Faces

variable {l : Lexer σ ρ} {t : Text}

/-- At the end of the input all of the text is in the buffer. -/
theorem eq_buffer (h : l.Faces t) (he : l.exhausted = true) : t = l.buffer :=
  (h.of_exhausted he).1

/-- **A read never fails and never loses text.** If it brings no bytes, the input is at its end, and
all that it can have brought is a character for what was left of one. -/
theorem fill (h : l.Faces t) :
    ∃ k l', l.fill = (.ok k, l') ∧ l'.Faces t ∧
      (k = 0 → l'.exhausted = true ∧ (t = l.buffer ∨ t = l.buffer ++ [Utf8.replacement])) := by
  rcases Awaits.fill h with ⟨k, l', hf, ha, hend⟩ | ⟨fault, rest, l', hnone, -⟩
  · refine ⟨k, l', hf, ha, ?_⟩
    rintro rfl
    obtain ⟨new, hnew, hchar⟩ := buffer_of_fill_zero hf
    rw [eq_buffer ha (hend rfl), hnew]
    rcases hchar with rfl | rfl
    · exact ⟨hend rfl, Or.inl (List.append_nil _)⟩
    · exact ⟨hend rfl, Or.inr rfl⟩
  · cases hnone

end Faces

/-! ### Topping up -/

/-- A buffer that was topped up: it holds as many bytes as are wanted, or all there is. -/
def Primed (l : Lexer σ ρ) : Prop :=
  l.buffer.hasBytes l.sizes.mark = true ∨ l.exhausted = true

/-- Topping up a second time does nothing. -/
theorem ensureBuffered_of_primed {l : Lexer σ ρ} (h : l.Primed) :
    ensureBuffered l = some (.ok (), l) := by
  rw [ensureBuffered_eq, topUp_succ]
  rcases h with h | h
  · rw [h, if_pos rfl]
  · rw [fill_of_exhausted l h]
    split_ifs <;> rfl

/-- The buffer that is topped up holds enough of the text, or all of it. -/
theorem Awaits.exists_append_of_primed {l : Lexer σ ρ} {t : Text} {faults : List ReadFault}
    (h : l.Awaits t faults) (hp : l.Primed) :
    ∃ y, t = l.buffer ++ y ∧ (l.sizes.mark ≤ l.buffer.byteLength ∨ y = []) := by
  rcases hp with hp | hp
  · obtain ⟨y, hy⟩ := h.exists_append
    rw [Text.hasBytes_eq, decide_eq_true_eq] at hp
    exact ⟨y, hy, Or.inl hp⟩
  · exact ⟨[], by rw [(h.of_exhausted hp).1, List.append_nil], Or.inr rfl⟩

omit [ByteSource σ] in
theorem Primed.of_append {l l' : Lexer σ ρ} (h : l.Primed) (hs : l'.sizes = l.sizes) {new : Text}
    (hb : l'.buffer = l.buffer ++ new) (he : l.exhausted = true → l'.exhausted = true) :
    l'.Primed := by
  rcases h with h | h
  · left
    rw [Text.hasBytes_eq, decide_eq_true_eq] at h ⊢
    rw [hs, hb, Text.byteLength_append]
    omega
  · exact Or.inr (he h)

end Faces

section FacesFinite

variable [FiniteSource σ] {l : Lexer σ ρ} {t : Text}

/-- Topping up comes to an end. Each read that goes on gathers a byte, and of the bytes gathered no
more than three are missing from the buffer. -/
theorem Faces.topUp (h : l.Faces t) {mark n : Nat} (hn : mark + 3 ≤ n + l.gathered) :
    ∃ l', topUp mark (n + 1) l = some (.ok (), l') ∧ l'.Faces t ∧ Grown l l' ∧
      (l'.buffer.hasBytes mark = true ∨ l'.exhausted = true) := by
  induction n generalizing l with
  | zero =>
    -- all that was gathered is in the buffer but for three bytes
    have hb : l.buffer.hasBytes mark = true := by
      have h3 := gathered_le h.sound
      rw [Text.hasBytes_eq, decide_eq_true_eq]
      omega
    rw [topUp_succ, hb, if_pos rfl]
    exact ⟨l, rfl, h, Grown.refl l, Or.inl hb⟩
  | succ n ih =>
    rw [topUp_succ]
    by_cases hb : l.buffer.hasBytes mark = true
    · rw [if_pos hb]
      exact ⟨l, rfl, h, Grown.refl l, Or.inl hb⟩
    · obtain ⟨k, l₁, hf, hfaces, hlast⟩ := h.fill
      have hgrown := grown_fill hf
      rw [if_neg hb, hf]
      by_cases hk : k = 0
      · simp only [if_pos hk]
        exact ⟨l₁, rfl, hfaces, hgrown, Or.inr (hlast hk).1⟩
      · have hg := (gathered_fill h.sound hf).2
        obtain ⟨l', htop, hfaces', hgrown', hdone⟩ := ih hfaces (by omega)
        simp only [if_neg hk]
        exact ⟨l', htop, hfaces', hgrown.trans hgrown', hdone⟩

theorem Faces.ensureBuffered (h : l.Faces t) :
    ∃ l', ensureBuffered l = some (.ok (), l') ∧ l'.Faces t ∧ Grown l l' ∧ l'.Primed := by
  have hn : l.sizes.mark + 3 ≤ (l.sizes.mark + 3) + l.gathered := Nat.le_add_right _ _
  obtain ⟨l', htop, hfaces, hgrown, hdone⟩ := h.topUp hn
  rw [← hgrown.same.sizes] at hdone
  exact ⟨l', htop, hfaces, hgrown, hdone⟩

/-! ### Enough rounds -/

theorem ahead_lt_rounds (l : Lexer σ ρ) : l.ahead < l.rounds := by
  unfold ahead rounds
  split_ifs <;> omega

/-- **There are more rounds than characters to come.** -/
theorem Faces.length_lt_rounds (h : l.Faces t) : t.length < l.rounds := by
  unfold rounds
  cases h with
  | atEnd _ _ ht =>
    rw [ht]
    omega
  | within _ hs bytes hd ht =>
    -- every byte becomes one character at most, and so do those that are held together
    have hlen := Utf8.length_textAfter_le hs bytes
    have hbudget := hd.delivers.length_le_budget
    have hone := l.pending.heldCount_le_one
    rw [ht, List.length_append]
    omega

end FacesFinite

end RuleLexer.Lexer
