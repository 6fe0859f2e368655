import RuleLexer.Proofs.Lexer.Account
import RuleLexer.Proofs.Lexer.Gaps

/-!
# What looking for a token leaves behind

Between a lexer and the same lexer after a look for a token lie reads and white space, and nothing
else. `Skimmed` is the account of them: how many reads were made, which text they have brought, and
which text was passed over. It holds of every sequence of moves (`Moves.exists_skimmed`), so it does
not matter in which of the loops a look has ended, nor whether it has succeeded.

* `unchanged_of_fill_error`, `position_of_peekWithin`: what a failed read leaves as it was, and what
  the error of a look tells.
* `exists_skimmed_of_error`: a look or a scan that fails has taken white space only, the error says
  where the lexer stands, a failed read leaves the text as it was, and the current line can be asked
  for without anything being taken.
-/

namespace RuleLexer

/-- What is left of a source after one more read, through an area of some size. -/
def ByteSource.after {σ : Type} [ByteSource σ] (size : Nat) (s : σ) : σ :=
  (ByteSource.readChunk s size).2

namespace Lexer

variable {σ ρ : Type}

/-! ### Lexers that calls lead to -/

section Reached

variable [ByteSource σ] [TokenRule ρ]

/-- A lexer that calls lead to, starting from a new one. -/
def Reached (source : σ) (rules : RuleSet ρ) (sizes : BufferSizes) (l : Lexer σ ρ) : Prop :=
  ∃ calls states, Trace (create source rules sizes) calls states ∧
    l ∈ create source rules sizes :: states

/-- All lexers along a row of calls have come about by changes. -/
theorem Trace.changes {l : Lexer σ ρ} {calls : List (Call ρ)} {states : List (Lexer σ ρ)}
    (h : Trace l calls states) : ∀ l' ∈ l :: states, Changes l l' := by
  induction h with
  | nil l =>
    intro l' hl'
    rw [List.mem_singleton.mp hl']
  | cons hc _ ih =>
    intro l' hl'
    rcases List.mem_cons.mp hl' with rfl | hl'
    · exact .refl
    · exact (changes_of_leads hc).trans (ih l' hl')

variable {source : σ} {rules : RuleSet ρ} {sizes : BufferSizes} {l : Lexer σ ρ}

theorem Reached.changes (h : Reached source rules sizes l) :
    Changes (create source rules sizes) l := by
  obtain ⟨calls, states, htrace, hl⟩ := h
  exact htrace.changes l hl

theorem Reached.exists_accounted (h : Reached source rules sizes l) :
    ∃ consumed, Accounted source sizes consumed l :=
  (Accounted.create source rules sizes).changes h.changes

/-- The reads so far are some first reads of the source that the lexer was made for. -/
theorem Reached.exists_inStep (h : Reached source rules sizes l) :
    l.sizes = sizes ∧ ∃ k, l.InStep ((Intake.read sizes.effectiveChunk)^[k] { source }) := by
  obtain ⟨consumed, haccount⟩ := h.exists_accounted
  obtain ⟨k, -, hstep, -⟩ := haccount.decoded
  exact ⟨haccount.sizes_eq, k, hstep⟩

theorem Reached.sound (h : Reached source rules sizes l) : Utf8.Sound l.pending := by
  obtain ⟨-, k, hstep⟩ := h.exists_inStep
  exact hstep.sound

end Reached

/-! ### White space, one gap after the other -/

section Blanks

variable [TokenRule ρ] {rules : RuleSet ρ}

/-- White space stays white space if the text goes on. -/
theorem Blanks.extend {position : Position} {gap rest : Text} (h : Blanks rules position gap rest)
    (more : Text) : Blanks rules position gap (rest ++ more) := by
  induction h with
  | nil position rest => exact .nil position _
  | @cons position token gap rest start behind hstart hblank _ ih =>
    have hlonger : token.literal ++ (gap ++ (rest ++ more)) = start ++ (behind ++ more) := by
      rw [← List.append_assoc start, ← hstart]
      simp only [List.append_assoc]
    exact .cons hlonger hblank ih

theorem Blanks.append {position : Position} {gap gap' rest : Text}
    (h : Blanks rules position gap (gap' ++ rest))
    (h' : Blanks rules (position.advanced gap) gap' rest) :
    Blanks rules position (gap ++ gap') rest := by
  generalize hall : gap' ++ rest = all at h
  induction h with
  | nil position all => exact h'
  | @cons position token gap all start behind hstart hblank _ ih =>
    subst hall
    rw [Position.advanced_append] at h'
    have hrest := ih h' rfl
    have hlonger : token.literal ++ ((gap ++ gap') ++ rest) = start ++ behind := by
      rw [← hstart, List.append_assoc]
    rw [List.append_assoc]
    exact .cons hlonger hblank hrest

end Blanks

/-! ### The account of a look -/

variable [ByteSource σ] [TokenRule ρ]

/-- What lies between two lexers: so many reads, which have brought some text, and a gap of white
space that was passed over. -/
structure Skimmed (l l' : Lexer σ ρ) (reads : Nat) (new gap : Text) : Prop where
  sizes : l'.sizes = l.sizes
  rules : l'.rules = l.rules
  source : l'.source = (ByteSource.after l.sizes.effectiveChunk)^[reads] l.source
  /-- The new text is what these reads have added to the text decoded before. -/
  decoded : ∀ i, l.InStep i → l'.InStep ((Intake.read l.sizes.effectiveChunk)^[reads] i) ∧
    ((Intake.read l.sizes.effectiveChunk)^[reads] i).text = i.text ++ new
  /-- What was in the buffer and what has come is the gap and what is in the buffer now. -/
  text : l.buffer ++ new = gap ++ l'.buffer
  blanks : Blanks l.rules l.cursor gap l'.buffer
  cursor : l'.cursor = l.cursor.advanced gap

namespace Skimmed

variable {l l' l'' : Lexer σ ρ} {reads reads' : Nat} {new new' gap gap' : Text}

theorem refl (l : Lexer σ ρ) : Skimmed l l 0 [] [] :=
  ⟨rfl, rfl, rfl, fun _ hi => ⟨hi, (List.append_nil _).symm⟩, List.append_nil _, .nil _ _, rfl⟩

theorem trans (h : Skimmed l l' reads new gap) (h' : Skimmed l' l'' reads' new' gap') :
    Skimmed l l'' (reads' + reads) (new ++ new') (gap ++ gap') := by
  have htext : l'.buffer ++ new' = gap' ++ l''.buffer := h'.text
  refine ⟨h'.sizes.trans h.sizes, h'.rules.trans h.rules, ?_, ?_, ?_, ?_, ?_⟩
  · rw [Function.iterate_add_apply, ← h.source, ← h.sizes]
    exact h'.source
  · intro i hi
    obtain ⟨hi', hnew⟩ := h.decoded i hi
    obtain ⟨hi'', hnew'⟩ := h'.decoded _ hi'
    rw [h.sizes] at hi'' hnew'
    rw [Function.iterate_add_apply]
    exact ⟨hi'', by rw [hnew', hnew, List.append_assoc]⟩
  · rw [← List.append_assoc, h.text, List.append_assoc, htext, List.append_assoc]
  · have hfirst := h.blanks.extend new'
    have hsecond := h'.blanks
    rw [htext] at hfirst
    rw [h.rules, h.cursor] at hsecond
    exact hfirst.append hsecond
  · rw [h'.cursor, h.cursor, Position.advanced_append]

omit [TokenRule ρ] in
/-- Where the source goes in a read: it is asked once, unless it is at its end. -/
theorem source_fill (l : Lexer σ ρ) :
    l.fill.2.source =
      (ByteSource.after l.sizes.effectiveChunk)^[if l.exhausted then 0 else 1] l.source := by
  rcases l.fill_cases with ⟨he, hf⟩ | ⟨he, fault, -, hf⟩ | ⟨he, status, journal, -, hf⟩
  · rw [hf, he]
    rfl
  · rw [hf, he]
    rfl
  · rw [hf, he]
    rfl

/-- A read passes over nothing. -/
theorem fill (l : Lexer σ ρ) :
    ∃ new, Skimmed l l.fill.2 (if l.exhausted then 0 else 1) new [] := by
  obtain ⟨hsame, new, hnew⟩ := samePlace_fill l
  refine ⟨new, hsame.sizes, hsame.rules, source_fill l, ?_, hnew.symm, .nil _ _, hsame.cursor⟩
  intro i hi
  obtain ⟨hi', new', hnew', htext⟩ := hi.fill
  have hsame : new' = new := by
    rw [hnew] at hnew'
    exact (List.append_cancel_left hnew').symm
  rw [hsame] at htext
  by_cases he : l.exhausted = true
  · -- the intake does not ask a source that is at its end either
    rw [Intake.read_of_exhausted (hi.exhausted ▸ he)] at hi' htext
    rw [if_pos he]
    exact ⟨hi', htext⟩
  · rw [if_neg he]
    exact ⟨hi', htext⟩

/-- A piece of white space is passed over without a read. -/
theorem pass {token : Token} (h : l.blank? = some token) :
    Skimmed l (l.consume token.literal) 0 [] token.literal := by
  obtain ⟨-, rest, hrest⟩ := blank?_eq_some h
  have hdrop : l.buffer.drop token.literal.length = rest := by
    rw [hrest, List.drop_left]
  have htext : l.buffer ++ [] = token.literal ++ l.buffer.drop token.literal.length := by
    rw [hdrop, List.append_nil, hrest]
  refine ⟨rfl, rfl, rfl, ?_, htext, ?_, rfl⟩
  · intro i hi
    exact ⟨⟨hi.source, hi.area, hi.exhausted, hi.pending⟩, (List.append_nil _).symm⟩
  · have hnone : Blanks l.rules (l.cursor.advanced token.literal) []
        (l.buffer.drop token.literal.length) := .nil _ _
    have hone := Blanks.cons htext.symm h hnone
    rw [List.append_nil] at hone
    exact hone

theorem note (l : Lexer σ ρ) (e : Event) : Skimmed l (l.note e) 0 [] [] :=
  ⟨rfl, rfl, rfl, fun _ hi => ⟨⟨hi.source, hi.area, hi.exhausted, hi.pending⟩,
    (List.append_nil _).symm⟩, List.append_nil _, .nil _ _, rfl⟩

end Skimmed

variable {l l' : Lexer σ ρ}

theorem Move.exists_skimmed (h : Move l l') : ∃ reads new gap, Skimmed l l' reads new gap := by
  cases h with
  | skip hs =>
    cases hs with
    | topUp _ =>
      obtain ⟨new, hread⟩ := Skimmed.fill l
      exact ⟨_, new, [], hread⟩
    | pass hblank => exact ⟨0, [], _, .pass hblank⟩
  | note e => exact ⟨0, [], [], .note l e⟩
  | retry _ _ _ =>
    obtain ⟨new, hread⟩ := Skimmed.fill l
    exact ⟨_, new, [], hread⟩

/-- Looking for a token reads and passes over white space, and does nothing else. -/
theorem Moves.exists_skimmed (h : Moves l l') : ∃ reads new gap, Skimmed l l' reads new gap := by
  induction h with
  | refl => exact ⟨0, [], [], .refl l⟩
  | tail _ hm ih =>
    obtain ⟨reads, new, gap, hbefore⟩ := ih
    obtain ⟨reads', new', gap', hstep⟩ := hm.exists_skimmed
    exact ⟨_, _, _, hbefore.trans hstep⟩

/-! ### Calls that fail -/

omit [TokenRule ρ] in
/-- **A failed read brings nothing**: no text, no byte that would wait for others, and not the end
of the input. -/
theorem unchanged_of_fill_error {e : LexError} (h : l.fill = (.error e, l')) :
    l'.buffer = l.buffer ∧ l'.pending = l.pending ∧ l'.exhausted = l.exhausted := by
  obtain ⟨fault, -, -, rfl⟩ := fill_eq_error h
  exact ⟨rfl, rfl, rfl⟩

theorem Fails.position_eq {e : LexError} (h : Fails l e l') : e.position = l'.cursor := by
  obtain ⟨fault, rfl⟩ := h.eq_read
  rfl

/-- **The error of a look says where the lexer stands**, whether a read has failed or nothing was
recognised. -/
theorem position_of_peekWithin {rounds n : Nat} {e : LexError}
    (h : peekWithin rounds n l = some (.error e, l')) : e.position = l'.cursor := by
  rcases peekWithin_cases h with ⟨e', he, hfails⟩ | ⟨l₁, token, -, -, he⟩ | ⟨l₁, l₂, -, -, hno⟩
  · cases he
    exact hfails.position_eq
  · cases he
  · unfold noToken at hno
    split at hno
    · cases hno
    · cases hno
      rfl

/-- **A call that fails has taken white space only.** After any calls, over any source and with any
rules, let looking for a token or scanning fail. Then what was in the buffer and what the reads of
this call have brought is some white space and what is in the buffer now, and the error says where
the lexer stands. A failed read brings neither text nor bytes nor the end of the input. If the
current line cannot be told, the lexer is where it was, and its buffer has grown at the end at
most. -/
theorem exists_skimmed_of_error (source : σ) (rules : RuleSet ρ) (sizes : BufferSizes)
    (l : Lexer σ ρ) (h : Reached source rules sizes l) :
    (∀ (rounds n : Nat) (e : LexError) (l' : Lexer σ ρ),
      peekWithin rounds n l = some (.error e, l') ∨ scanWithin rounds l = some (.error e, l') →
      e.position = l'.cursor ∧ ∃ before reads new gap,
        l.InStep ((Intake.read sizes.effectiveChunk)^[before] { source }) ∧
        Skimmed l l' reads new gap) ∧
    (∀ (l₀ l' : Lexer σ ρ) (e : LexError), l₀.fill = (.error e, l') →
      l'.buffer = l₀.buffer ∧ l'.pending = l₀.pending ∧ l'.exhausted = l₀.exhausted) ∧
    ∀ (e : LexError) (l' : Lexer σ ρ), lastLine l = some (.error e, l') →
      e.position = l'.cursor ∧ l'.cursor = l.cursor ∧ l'.line = l.line ∧
        ∃ new, l'.buffer = l.buffer ++ new := by
  obtain ⟨-, before, hstep⟩ := h.exists_inStep
  refine ⟨?_, fun l₀ l' e hfill => unchanged_of_fill_error hfill, ?_⟩
  · intro rounds n e l' hcall
    obtain ⟨m, hpeek⟩ := exists_peekWithin_of_no_token (by simp) hcall
    obtain ⟨reads, new, gap, hskimmed⟩ := (moves_peekWithin hpeek).1.exists_skimmed
    exact ⟨position_of_peekWithin hpeek, before, reads, new, gap, hstep, hskimmed⟩
  · intro e l' hline
    rw [lastLine_eq] at hline
    split at hline
    · cases hline
    · next e₁ l₁ hensure =>
      cases hline
      have hfails : Fails l e l' := topUp_cases hensure
      obtain ⟨hsame, hbuffer⟩ := (refills_topUp hensure).append
      refine ⟨hfails.position_eq, hsame.cursor, ?_, hbuffer⟩
      rw [line, line, hsame.lineBack]
    · cases hline

/-- After a token, a blank is passed over, the first byte of a character comes, and then a read
fails. -/
theorem exists_skimmed_of_error_script :
    let fault : ReadFault := ⟨.other [], []⟩
    let source : Script := ⟨[.data [0x61, 0x20], .data [0xC3], .fail fault, .data [0xA9]]⟩
    let rules : RuleSet Rule := ⟨some (.literals .other [[' ']]), [.literals .ident [['a'], ['é']]]⟩
    ∃ l l', Reached source rules ⟨1, 2⟩ l ∧ l.buffer = [' '] ∧
      peekWithin 20 20 l = some (.error (.read ⟨0, 2, 2⟩ fault), l') ∧
      l'.pending.bytes = [0xC3] ∧
      LexError.position (.read ⟨0, 2, 2⟩ fault) = l'.cursor ∧ ∃ before reads new gap,
        l.InStep ((Intake.read 2)^[before] { source }) ∧ Skimmed l l' reads new gap := by
  intro fault source rules
  have hrun : ((scanWithin 20 (create source rules ⟨1, 2⟩)).bind fun p =>
      (peekWithin 20 20 p.2).map fun q => (p.2.buffer, q.2.pending.bytes,
        match q.1 with | .error e => some e | .ok _ => none)) =
      some ([' '], [0xC3], some (.read ⟨0, 2, 2⟩ fault)) := by decide +kernel
  obtain ⟨⟨answer, l⟩, hscan, hrest⟩ := Option.bind_eq_some_iff.mp hrun
  obtain ⟨⟨res, l'⟩, hpeek, hres⟩ := Option.map_eq_some_iff.mp hrest
  obtain ⟨hbuffer, hrest⟩ := Prod.mk.inj hres
  obtain ⟨hpending, herror⟩ := Prod.mk.inj hrest
  have hleads : (Call.scan : Call Rule).Leads (create source rules ⟨1, 2⟩) l :=
    Call.leads_scan hscan
  have hreached : Reached source rules ⟨1, 2⟩ l :=
    ⟨[.scan], [l], .cons hleads (.nil l), List.mem_cons_of_mem _ (List.mem_cons_self ..)⟩
  cases res with
  | ok token => cases herror
  | error e =>
    cases Option.some.inj herror
    exact ⟨l, l', hreached, hbuffer, hpeek, hpending,
      (exists_skimmed_of_error source rules ⟨1, 2⟩ l hreached).1 20 20 _ l' (Or.inl hpeek)⟩

end Lexer

end RuleLexer
