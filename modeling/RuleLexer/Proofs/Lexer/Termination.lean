import RuleLexer.Proofs.Lexer.Ending
import RuleLexer.Proofs.Lexer.Exhaustion
import RuleLexer.Proofs.Lexer.MapSource

/-!
# Sources whose bytes come to an end

A source may pause, fail and announce what it likes, as often as it likes. As long as the bytes that
count have a finite total over all of its reads (`ByteSource.spent`), every operation of a lexer
comes to its end, and a stream of tokens is finite.

Such a source need not know its total. `Metered` puts a meter beside it, which makes it a source
with a budget that replies in the same way, so that what `Ending` says of budgets holds of the
lexer without the meter as well.

* `exists_metered`: every lexer over such a source is a lexer over one with a meter.
* `exists_takes_of_scanWithin`: a token takes at least one byte of what lies before the lexer.
* `takeWithin_ends`: a stream comes to its end after no more items than there are characters in
  reach.
* `ends_of_spent_le`: all operations end, with any rounds from some number on and then always in the
  same way.
-/

namespace RuleLexer

variable {σ ρ : Type}

/-! ### What a source spends -/

/-- The bytes that count in the next reads, so many of them, through an area of some size. -/
def ByteSource.spent [ByteSource σ] (size : Nat) : Nat → σ → Nat
  | 0, _ => 0
  | n + 1, s => (ByteSource.readChunk s size).1.count size +
      ByteSource.spent size n (ByteSource.after size s)

/-- Reads that were made leave no more to spend. -/
theorem ByteSource.spent_iterate_le [ByteSource σ] (size k n : Nat) (s : σ) :
    ByteSource.spent size n ((ByteSource.after size)^[k] s) ≤ ByteSource.spent size (k + n) s := by
  induction k generalizing s with
  | zero => rw [Nat.zero_add, Function.iterate_zero_apply]
  | succ k ih =>
    rw [Function.iterate_succ_apply, Nat.succ_add, ByteSource.spent]
    exact Nat.le_trans (ih _) (Nat.le_add_left _ _)

/-- A source with a budget keeps to it. -/
theorem ByteSource.spent_le_budget [FiniteSource σ] (size n : Nat) (s : σ) :
    ByteSource.spent size n s ≤ FiniteSource.budget s := by
  induction n generalizing s with
  | zero => exact Nat.zero_le _
  | succ n ih =>
    have hread := FiniteSource.count_add_budget_le s size
    have hrest := ih (ByteSource.after size s)
    rw [ByteSource.spent]
    unfold ByteSource.after at hrest ⊢
    omega

/-! ### A meter -/

/-- A source with a meter for reads through an area of some size: no number of reads spends more
than what is left. -/
structure Metered (σ : Type) [ByteSource σ] (size : Nat) where
  source : σ
  left : Nat
  enough : ∀ n, ByteSource.spent size n source ≤ left

namespace Metered

variable [ByteSource σ] {size : Nat}

/-- After one more read, what has come is taken off the meter. -/
def after (m : Metered σ size) : Metered σ size where
  source := ByteSource.after size m.source
  left := m.left - (ByteSource.readChunk m.source size).1.count size
  enough n := by
    have h := m.enough (n + 1)
    rw [ByteSource.spent] at h
    omega

/-- The meter is a budget. A source that is asked through an area of another size gives nothing. -/
instance : FiniteSource (Metered σ size) where
  readChunk m asked :=
    if asked = size then ((ByteSource.readChunk m.source size).1, m.after)
    else (.exhausted, m)
  budget m := m.left
  count_add_budget_le m asked := by
    split
    · next hasked =>
      have h := m.enough 1
      simp only [ByteSource.spent, Nat.add_zero] at h
      rw [hasked]
      simp only [after]
      omega
    · simp [ReadReply.exhausted, ReadReply.count]

/-- The meter does not show in the replies. -/
theorem mirrors : Mirrors size (source : Metered σ size → σ) := by
  intro m
  have hread : ByteSource.readChunk m size = ((ByteSource.readChunk m.source size).1, m.after) :=
    if_pos rfl
  rw [hread]
  rfl

end Metered

namespace Lexer

/-- **A lexer over a source whose bytes come to an end** is one over a source with a meter. -/
theorem exists_metered [ByteSource σ] {l : Lexer σ ρ} {size total : Nat}
    (hl : l.sizes.effectiveChunk = size) (h : ∀ n, ByteSource.spent size n l.source ≤ total) :
    ∃ c : Lexer (Metered σ size) ρ, l = c.mapSource Metered.source ∧
      c.sizes.effectiveChunk = size ∧ c.rounds = l.buffer.length + total + 3 :=
  ⟨{ l with source := ⟨l.source, total, h⟩ }, rfl, hl, rfl⟩

/-! ### What a token takes -/

section Token

variable [ByteSource σ] [TokenRule ρ] {l l' : Lexer σ ρ}

/-- What a token has taken: some reads were made, and what was in the buffer and what they have
brought is a gap, the literal of the token, which has at least one byte, and what is in the buffer
now. -/
structure Takes (l l' : Lexer σ ρ) (token : Token) (reads : Nat) (new gap : Text) : Prop where
  source : l'.source = (ByteSource.after l.sizes.effectiveChunk)^[reads] l.source
  decoded : ∀ i, l.InStep i →
    ((Intake.read l.sizes.effectiveChunk)^[reads] i).text = i.text ++ new
  text : l.buffer ++ new = gap ++ (token.literal ++ l'.buffer)
  byteLength_pos : 0 < token.literal.byteLength
  offset : l'.cursor.offset = l.cursor.offset + gap.byteLength + token.literal.byteLength

/-- **A token takes at least one byte** of what lies before the lexer. -/
theorem exists_takes_of_scanWithin {rounds : Nat} {token : Token}
    (h : scanWithin rounds l = some (.ok (some token), l')) :
    ∃ reads new gap, Takes l l' token reads new gap := by
  obtain ⟨l₁, hpeek, rfl⟩ := exists_peekWithin_of_scanWithin h
  obtain ⟨hmoves, hfront⟩ := moves_peekWithin hpeek
  obtain ⟨hne, rest, hrest⟩ := hfront token rfl
  obtain ⟨reads, new, gap, hskimmed⟩ := hmoves.exists_skimmed
  refine ⟨reads, new, gap, hskimmed.source, fun i hi => (hskimmed.decoded i hi).2, ?_, ?_, ?_⟩
  · have hbuffer : (l₁.took (.ok (some token))).buffer = rest := by
      show l₁.buffer.drop token.literal.length = rest
      rw [hrest, List.drop_left]
    rw [hbuffer, ← hrest]
    exact hskimmed.text
  · obtain ⟨c, literal, hcons⟩ := List.exists_cons_of_ne_nil hne
    have hpos := c.utf8Size_pos
    rw [hcons, Text.byteLength_cons]
    omega
  · show (l₁.cursor.advanced token.literal).offset = _
    rw [Position.offset_advanced, hskimmed.cursor, Position.offset_advanced]

end Token

/-! ### Streams -/

/-- **A stream of tokens comes to its end**, and no later than there are characters in reach. It
gives tokens, and then it ends or gives one error and ends. Neither more rounds nor a longer list
make a difference. -/
theorem takeWithin_ends [FiniteSource σ] [TokenRule ρ] {enough m : Nat} {l : Lexer σ ρ}
    (hs : Utf8.Sound l.pending) (hreach : l.reach < enough) (hahead : l.ahead < enough)
    (hm : l.reach < m) :
    ∃ (tokens : List Token) (error : Option LexError) (l' : Lexer σ ρ), tokens.length < m ∧
      ∀ rounds most, enough ≤ rounds → m < most → takeWithin rounds most false l =
        some (.ok ⟨tokens.map .ok ++ (error.map .error).toList, true, error.isSome⟩, l') := by
  -- every token takes some of the characters in reach
  induction m generalizing l with
  | zero => exact absurd hm (Nat.not_lt_zero _)
  | succ m ih =>
    obtain ⟨r, l₁, hscan⟩ := scanWithin_ends hs hreach hahead
    obtain ⟨h₁, htoken⟩ := onward_scanWithin hs hscan
    have hfirst {rounds most : Nat} (hrounds : enough ≤ rounds) :
        takeWithin rounds (most + 1) false l = match r with
          | .error e => (takeWithin rounds most true l₁).map fun p =>
              (p.1.map fun taken => { taken with items := .error e :: taken.items }, p.2)
          | .ok none => some (.ok ⟨[], true, false⟩, l₁)
          | .ok (some token) => (takeWithin rounds most false l₁).map fun p =>
              (p.1.map fun taken => { taken with items := .ok token :: taken.items }, p.2) := by
      rw [takeWithin_succ, nextWithin_eq, if_neg Bool.false_ne_true,
        scanWithin_mono hrounds hscan]
      rcases r with e | _ | token <;> rfl
    rcases r with e | _ | token
    · refine ⟨[], some e, l₁, Nat.succ_pos m, fun rounds most hrounds hmost => ?_⟩
      obtain ⟨most, rfl⟩ : ∃ k, most = k + 2 := ⟨most - 2, by omega⟩
      rw [hfirst hrounds, takeWithin_succ, nextWithin_eq, if_pos rfl]
      rfl
    · refine ⟨[], none, l₁, Nat.succ_pos m, fun rounds most hrounds hmost => ?_⟩
      obtain ⟨most, rfl⟩ : ∃ k, most = k + 1 := ⟨most - 1, by omega⟩
      exact hfirst hrounds
    · have hless := htoken token rfl
      obtain ⟨tokens, error, l', hlen, htake⟩ := ih h₁.sound (by omega)
        (Nat.lt_of_le_of_lt h₁.ahead_le hahead) (by omega)
      refine ⟨token :: tokens, error, l', Nat.succ_lt_succ hlen, ?_⟩
      intro rounds most hrounds hmost
      obtain ⟨most, rfl⟩ : ∃ k, most = k + 1 := ⟨most - 1, by omega⟩
      rw [hfirst hrounds, htake rounds most hrounds (by omega)]
      rfl

/-! ### Any source with a finite total -/

section Total

variable [ByteSource σ] [TokenRule ρ]

/-- What a lexer can still spend is no more than what its source could when the lexer was made. -/
theorem Reached.spent_le {source : σ} {rules : RuleSet ρ} {sizes : BufferSizes} {l : Lexer σ ρ}
    {total : Nat} (h : Reached source rules sizes l)
    (htotal : ∀ n, ByteSource.spent sizes.effectiveChunk n source ≤ total) (n : Nat) :
    ByteSource.spent sizes.effectiveChunk n l.source ≤ total := by
  obtain ⟨reads, hasked⟩ := (Asked.create source rules sizes).changes h.changes
  rw [hasked.source_eq]
  exact Nat.le_trans (ByteSource.spent_iterate_le _ reads n source) (htotal (reads + n))

/-- **Every operation comes to its end** over a source whose bytes do, after any calls and with any
rules, however often the source pauses, says that it is at its end, or fails.

* Looking for a token and scanning end within a number of rounds that does not depend on the rules,
  and with more rounds they end in the same way. So does asking for the current line.
* A token takes at least one byte from the front of what lies before the lexer.
* A stream gives a finite number of tokens, and then it ends or gives one error and ends. -/
theorem ends_of_spent_le (source : σ) (rules : RuleSet ρ) (sizes : BufferSizes) (total : Nat)
    (htotal : ∀ n, ByteSource.spent sizes.effectiveChunk n source ≤ total) (l : Lexer σ ρ)
    (h : Reached source rules sizes l) :
    (∃ r l', ∀ rounds n, l.buffer.length + total + 3 ≤ rounds → l.buffer.length + total + 3 ≤ n →
      peekWithin rounds n l = some (r, l')) ∧
    (∃ r l', ∀ rounds, l.buffer.length + total + 3 ≤ rounds →
      scanWithin rounds l = some (r, l')) ∧
    (∃ r l', lastLine l = some (r, l')) ∧
    (∀ rounds token l', scanWithin rounds l = some (.ok (some token), l') →
      ∃ reads new gap, Takes l l' token reads new gap) ∧
    ∃ (tokens : List Token) (error : Option LexError) (l' : Lexer σ ρ),
      tokens.length < l.buffer.length + total + 3 ∧
      ∀ rounds most, l.buffer.length + total + 3 ≤ rounds → l.buffer.length + total + 3 ≤ most →
        takeWithin rounds most false l =
          some (.ok ⟨tokens.map .ok ++ (error.map .error).toList, true, error.isSome⟩, l') := by
  obtain ⟨hsizes, -⟩ := h.exists_inStep
  obtain ⟨c, hmap, hc, hrounds⟩ :=
    exists_metered (congrArg BufferSizes.effectiveChunk hsizes) (h.spent_le htotal)
  have hmirrors : Mirrors sizes.effectiveChunk
    (Metered.source : Metered σ sizes.effectiveChunk → σ) := Metered.mirrors
  have hsound : Utf8.Sound c.pending := by
    have hs := h.sound
    rw [hmap] at hs
    exact hs
  have hreach := reach_add_one_lt_rounds c
  have hahead := ahead_lt_rounds c
  rw [hrounds] at hreach hahead
  refine ⟨?_, ?_, ?_, ?_, ?_⟩
  · obtain ⟨r, c', hpeek⟩ := peekWithin_ends hsound (by omega) hahead hahead
    refine ⟨r, c'.mapSource Metered.source, fun rounds n hle hle' => ?_⟩
    rw [hmap, peekWithin_mapSource hmirrors rounds n hc, peekWithin_mono hle hle' hpeek]
    rfl
  · obtain ⟨r, c', hscan⟩ := scanWithin_ends hsound (by omega) hahead
    refine ⟨r, c'.mapSource Metered.source, fun rounds hle => ?_⟩
    rw [hmap, scanWithin_mapSource hmirrors rounds hc, scanWithin_mono hle hscan]
    rfl
  · obtain ⟨r, l', hensure⟩ := ensureBuffered_ends h.sound
    rw [lastLine_eq, hensure]
    cases r <;> exact ⟨_, _, rfl⟩
  · exact fun rounds token l' hscan => exists_takes_of_scanWithin hscan
  · obtain ⟨tokens, error, c', hlen, htake⟩ :=
      takeWithin_ends hsound (by omega) hahead (Nat.lt_succ_self c.reach)
    refine ⟨tokens, error, c'.mapSource Metered.source, by omega, fun rounds most hle hle' => ?_⟩
    rw [hmap, takeWithin_mapSource hmirrors rounds most false hc,
      htake rounds most hle (by omega)]
    rfl

/-- After a failed read, more bytes are announced than fit into the read area, and the source pauses
and fails again. Of the rules, one finds nothing but empty literals and one finds text that is not
at the front. -/
theorem ends_of_spent_le_script :
    let fault : ReadFault := ⟨.wouldBlock, []⟩
    let source : Script :=
      ⟨[.fail fault, .report [0x61] ⟨7, false⟩, .pending, .pending, .fail fault, .data [0x7A]]⟩
    let rules : RuleSet Rule := ⟨none,
      [.pattern .other [] (.ofRegex (.repetition 0 none true (.set ⟨[(122, 122)]⟩))),
        .pattern .number [] (.ofRegex (.set ⟨[(0, 0)]⟩)), .literals .ident [['a']]]⟩
    ∃ l l', Reached source rules ⟨1, 2⟩ l ∧ l.buffer = [] ∧
      scanWithin 20 l = some (.ok (some ⟨.ident, ['a'], [], .start⟩), l') ∧
      (∃ reads new gap, Takes l l' ⟨.ident, ['a'], [], .start⟩ reads new gap) ∧
      (∃ r l', ∀ rounds n, 11 ≤ rounds → 11 ≤ n → peekWithin rounds n l = some (r, l')) ∧
      ∃ (tokens : List Token) (error : Option LexError) (l' : Lexer Script Rule),
        tokens.length < 11 ∧ ∀ rounds most, 11 ≤ rounds → 11 ≤ most →
          takeWithin rounds most false l =
            some (.ok ⟨tokens.map .ok ++ (error.map .error).toList, true, error.isSome⟩, l') := by
  intro fault source rules
  have hrun : ((scanWithin 20 (create source rules ⟨1, 2⟩)).bind fun p =>
      (scanWithin 20 p.2).map fun q => (p.2.buffer, q.1.toOption)) =
      some ([], some (some ⟨.ident, ['a'], [], .start⟩)) := by decide +kernel
  obtain ⟨⟨first, l⟩, hfirst, hrest⟩ := Option.bind_eq_some_iff.mp hrun
  obtain ⟨⟨second, l'⟩, hscan, hres⟩ := Option.map_eq_some_iff.mp hrest
  obtain ⟨hbuffer, hsecond⟩ := Prod.mk.inj hres
  have hleads : (Call.scan : Call Rule).Leads (create source rules ⟨1, 2⟩) l :=
    Call.leads_scan hfirst
  have hreached : Reached source rules ⟨1, 2⟩ l :=
    ⟨[.scan], [l], .cons hleads (.nil l), List.mem_cons_of_mem _ (List.mem_cons_self ..)⟩
  have hends := ends_of_spent_le source rules ⟨1, 2⟩ 8
    (fun n => ByteSource.spent_le_budget 2 n source) l hreached
  have hlen : l.buffer.length + 8 + 3 = 11 := by rw [show l.buffer = [] from hbuffer]; rfl
  rw [hlen] at hends
  obtain ⟨hpeek, -, -, htoken, htake⟩ := hends
  cases second with
  | error e => cases hsecond
  | ok token =>
    cases Option.some.inj hsecond
    exact ⟨l, l', hreached, hbuffer, hscan, htoken 20 _ l' hscan, hpeek, htake⟩

end Total

end Lexer

end RuleLexer
