import RuleLexer.Proofs.Lexer.Exhaustion
import RuleLexer.Proofs.WholeText

/-!
# Lexers at rest

A lexer is at rest if no text can come to it: its source is exhausted, or it answers every further
read with nothing. All reads of such a lexer are in vain, so what is in the buffer is all that its
rules are ever shown, and a look for a token takes the white space in front of it and answers what a
whole text of this kind answers. There is no white space left then, and whoever looks again sees the
same.

* `fill_of_resting`: a read moves nothing, and neither does topping up.
* `peekWithin_of_resting`: a look answers what the text in the buffer answers.
* `peekWithin_of_blankless`: without white space in front, a look moves nothing.
* `peek_repeats_at_rest`: after one look, further looks answer the same and leave the lexer as it
  is, with requests for the line and failed scans between them in any order.
-/

namespace RuleLexer

open WholeText (Rest stripped first?)

/-! ### Silence -/

/-- A source that has fallen silent: every further read brings no bytes, and none of them says that
the source is at its end. -/
def ByteSource.Silent {σ : Type} [ByteSource σ] (size : Nat) (s : σ) : Prop :=
  ∀ k, (ByteSource.replyAt size s k).outcome = .ok ⟨0, false⟩

theorem ByteSource.Silent.after {σ : Type} [ByteSource σ] {size : Nat} {s : σ}
    (h : ByteSource.Silent size s) : ByteSource.Silent size (ByteSource.after size s) := by
  intro k
  rw [← h (k + 1)]
  unfold ByteSource.replyAt
  rw [Function.iterate_succ_apply]

namespace Lexer

variable {σ ρ : Type}

/-- What is in the buffer, and where it starts. -/
def remaining (l : Lexer σ ρ) : Rest := ⟨l.buffer, l.cursor⟩

/-- Nothing has moved between two states: they differ at most in what the source was asked, in the
read area and in the journal. -/
def Unmoved (l l' : Lexer σ ρ) : Prop :=
  ∃ source area journal, l' = { l with source, area, journal }

theorem Unmoved.refl (l : Lexer σ ρ) : l.Unmoved l := ⟨l.source, l.area, l.journal, rfl⟩

theorem Unmoved.trans {l l' l'' : Lexer σ ρ} (h : l.Unmoved l') (h' : l'.Unmoved l'') :
    l.Unmoved l'' := by
  obtain ⟨_, _, _, rfl⟩ := h
  obtain ⟨source, area, journal, rfl⟩ := h'
  exact ⟨source, area, journal, rfl⟩

theorem Unmoved.note {l l' : Lexer σ ρ} (h : l.Unmoved l') (e : Event) : l.Unmoved (l'.note e) := by
  obtain ⟨source, area, journal, rfl⟩ := h
  exact ⟨source, area, e :: journal, rfl⟩

/-- What the rules are shown is the same. -/
theorem Unmoved.judged_eq {l l' : Lexer σ ρ} (h : l.Unmoved l') :
    l'.generation = l.generation ∧ l'.buffer = l.buffer ∧ l'.cursor = l.cursor := by
  obtain ⟨_, _, _, rfl⟩ := h
  exact ⟨rfl, rfl, rfl⟩

theorem Unmoved.remaining_eq {l l' : Lexer σ ρ} (h : l.Unmoved l') :
    l'.remaining = l.remaining := by
  obtain ⟨_, _, _, rfl⟩ := h
  rfl

theorem Unmoved.rules_eq {l l' : Lexer σ ρ} (h : l.Unmoved l') : l'.rules = l.rules := by
  obtain ⟨_, _, _, rfl⟩ := h
  rfl

theorem Unmoved.blank?_eq [TokenRule ρ] {l l' : Lexer σ ρ} (h : l.Unmoved l') :
    l'.blank? = l.blank? := by
  obtain ⟨_, _, _, rfl⟩ := h
  rfl

theorem Unmoved.line_eq {l l' : Lexer σ ρ} (h : l.Unmoved l') :
    l'.line ++ l'.buffer.firstLine = l.line ++ l.buffer.firstLine := by
  obtain ⟨_, _, _, rfl⟩ := h
  rfl

variable [ByteSource σ]

/-- A lexer at rest: its source is exhausted or has fallen silent. -/
def Resting (l : Lexer σ ρ) : Prop :=
  l.exhausted = true ∨ ByteSource.Silent l.sizes.effectiveChunk l.source

variable {l l' : Lexer σ ρ}

/-! ### Reads in vain -/

/-- **A read of a lexer at rest is in vain.** -/
theorem fill_of_resting (h : l.Resting) :
    ∃ l', l.fill = (.ok 0, l') ∧ l.Unmoved l' ∧ l'.Resting := by
  cases he : l.exhausted with
  | true => exact ⟨l, fill_of_exhausted l he, .refl l, h⟩
  | false =>
    have hsilent : ByteSource.Silent l.sizes.effectiveChunk l.source :=
      h.resolve_left (ne_true_of_eq_false he)
    have hreply : l.reply.outcome = .ok ⟨0, false⟩ := hsilent 0
    have hcounted : l.asked.counted ⟨0, false⟩ = [] := by
      rw [← List.length_eq_zero_iff]
      exact (length_areaBytes _ _).trans (Nat.zero_min _)
    have hbrought : l.asked.brought ⟨0, false⟩ = [] := by
      rw [brought_asked he, hcounted]
      rfl
    have hpending : l.asked.leftPending ⟨0, false⟩ = l.pending := by
      unfold leftPending
      rw [endsWith_asked he, hcounted]
      rfl
    obtain ⟨journal, hfill⟩ := fill_of_status he hreply
    rw [hbrought, hpending, hcounted, if_pos rfl, List.append_nil] at hfill
    refine ⟨_, hfill, ⟨l.asked.source, l.asked.area, journal, ?_⟩, Or.inr hsilent.after⟩
    simp only [asked, he]

theorem ensureBuffered_of_resting (h : l.Resting) :
    ∃ l', ensureBuffered l = some (.ok (), l') ∧ l.Unmoved l' ∧ l'.Resting := by
  rw [ensureBuffered_eq, topUp_succ]
  split_ifs
  · exact ⟨l, rfl, .refl l, h⟩
  · obtain ⟨l', hfill, hunmoved, hrest⟩ := fill_of_resting h
    rw [hfill]
    exact ⟨l', rfl, hunmoved, hrest⟩

/-- The line is there for the asking. -/
theorem lastLine_of_resting (h : l.Resting) :
    ∃ l', lastLine l = some (.ok (l.line ++ l.buffer.firstLine), l') ∧ l.Unmoved l' ∧
      l'.Resting := by
  obtain ⟨l', hensure, hunmoved, hrest⟩ := ensureBuffered_of_resting h
  refine ⟨l', ?_, hunmoved, hrest⟩
  rw [lastLine_eq, hensure]
  simp only [hunmoved.line_eq]

/-! ### Looking for a token -/

variable [TokenRule ρ]

theorem matchRule_of_resting (h : l.Resting) (rule : ρ) (n : Nat) :
    ∃ l', matchRule rule (n + 1) l = some (.ok (TokenRule.hit? rule l.buffer l.cursor), l') ∧
      l.Unmoved l' ∧ l'.Resting := by
  rw [matchRule_succ]
  cases TokenRule.hit? rule l.buffer l.cursor with
  | none => exact ⟨l, rfl, .refl l, h⟩
  | some token =>
    simp only
    split_ifs
    · exact ⟨l, rfl, .refl l, h⟩
    · obtain ⟨l', hfill, hunmoved, hrest⟩ := fill_of_resting h
      rw [hfill]
      exact ⟨l', rfl, hunmoved, hrest⟩

/-- Without white space in front, there is nothing to pass over. -/
theorem skipWhitespace_of_blankless (h : l.Resting) (hb : l.blank? = none) (n : Nat) :
    ∃ l', skipWhitespace (n + 1) l = some (.ok (), l') ∧ l.Unmoved l' ∧ l'.Resting := by
  obtain ⟨l', hensure, hunmoved, hrest⟩ := ensureBuffered_of_resting h
  have hb' : l'.blank? = none := hunmoved.blank?_eq.trans hb
  refine ⟨l', ?_, hunmoved, hrest⟩
  rw [skipWhitespace_succ, hensure]
  simp only [hb']

/-- A pass over rules gives the token of the first that finds one. -/
theorem tryRules_of_resting (h : l.Resting) (hb : l.blank? = none) (n : Nat) (rules : List ρ) :
    ∃ l', tryRules (n + 1) l.generation rules l = some (.ok
        ((rules.findSome? (TokenRule.hit? · l.buffer l.cursor)).elim .noMatch .matched), l') ∧
      l.Unmoved l' ∧ l'.Resting := by
  -- along the rules; each of them is shown the same buffer
  induction rules generalizing l with
  | nil =>
    rw [tryRules_nil, if_neg (not_not_intro rfl)]
    exact ⟨l, rfl, .refl l, h⟩
  | cons rule rules ih =>
    obtain ⟨l₁, hskip, hunmoved₁, hrest₁⟩ := skipWhitespace_of_blankless h hb n
    obtain ⟨l₂, hensure, hunmoved₂, hrest₂⟩ := ensureBuffered_of_resting hrest₁
    obtain ⟨l₃, hmatch, hunmoved₃, hrest₃⟩ := matchRule_of_resting hrest₂ rule n
    have hunmoved : l.Unmoved l₃ := (hunmoved₁.trans hunmoved₂).trans hunmoved₃
    obtain ⟨hgeneration₂, hbuffer₂, hcursor₂⟩ := (hunmoved₁.trans hunmoved₂).judged_eq
    obtain ⟨hgeneration₃, hbuffer₃, hcursor₃⟩ := hunmoved.judged_eq
    rw [tryRules_cons, hskip]
    simp only
    rw [hensure]
    simp only
    rw [hmatch, if_neg (not_not_intro hgeneration₂), hbuffer₂, hcursor₂, List.findSome?_cons]
    cases TokenRule.hit? rule l.buffer l.cursor with
    | some token => exact ⟨l₃, rfl, hunmoved, hrest₃⟩
    | none =>
      obtain ⟨l', htry, hunmoved', hrest'⟩ := ih hrest₃ (hunmoved.blank?_eq.trans hb)
      rw [hgeneration₃, hbuffer₃, hcursor₃] at htry
      exact ⟨l', htry, hunmoved.trans hunmoved', hrest'⟩

/-- Once the white space is passed over, a look answers what the text in the buffer answers and
moves nothing more. One pass over the rules is enough. -/
theorem peekWithin_of_skipped {rounds : Nat}
    (hskip : skipWhitespace (rounds + 1) l = some (.ok (), l')) (h : l'.Resting)
    (hb : l'.blank? = none) (n : Nat) :
    ∃ l'', peekWithin (rounds + 1) (n + 1) l =
        some ((WholeText.next l'.rules l'.remaining).1, l'') ∧ l'.Unmoved l'' ∧ l''.Resting := by
  obtain ⟨l₁, htry, hunmoved, hrest⟩ := tryRules_of_resting h hb rounds l'.rules.rules
  have hstripped : stripped l'.rules l'.remaining = l'.remaining := WholeText.stripped_of_none hb
  rw [peekWithin_succ, hskip]
  simp only
  rw [htry]
  have hfirst : l'.rules.rules.findSome? (TokenRule.hit? · l'.buffer l'.cursor) =
      first? l'.rules l'.remaining := rfl
  rw [hfirst]
  rcases WholeText.next_cases l'.rules l'.remaining with ⟨hnil, hnext⟩ | ⟨hne, hnone, hnext⟩ |
    ⟨token, hsome, hnext⟩
  · rw [hstripped] at hnil
    have hempty : l₁.buffer.isEmpty = true := by
      rw [hunmoved.judged_eq.2.1]
      exact List.isEmpty_iff.mpr hnil
    rw [WholeText.first?_of_text_nil hnil, hnext]
    simp only [Option.elim_none, noToken, hempty, if_true]
    exact ⟨l₁, rfl, hunmoved, hrest⟩
  · rw [hstripped] at hne hnone hnext
    have hempty : l₁.buffer.isEmpty = false := by
      rw [hunmoved.judged_eq.2.1]
      exact List.isEmpty_eq_false_iff.mpr hne
    rw [hnone, hnext]
    simp only [Option.elim_none, noToken, hempty, Bool.false_eq_true, if_false]
    obtain ⟨_, _, _, rfl⟩ := hunmoved
    exact ⟨_, rfl, Unmoved.note ⟨_, _, _, rfl⟩ _, hrest⟩
  · rw [hstripped] at hsome
    rw [hsome, hnext]
    exact ⟨l₁, rfl, hunmoved, hrest⟩

/-- **A look without white space in front moves nothing.** -/
theorem peekWithin_of_blankless (h : l.Resting) (hb : l.blank? = none) (rounds n : Nat) :
    ∃ l', peekWithin (rounds + 1) (n + 1) l =
        some ((WholeText.next l.rules l.remaining).1, l') ∧ l.Unmoved l' ∧ l'.Resting := by
  obtain ⟨l₁, hskip, hunmoved, hrest⟩ := skipWhitespace_of_blankless h hb rounds
  obtain ⟨l', hpeek, hunmoved', hrest'⟩ :=
    peekWithin_of_skipped hskip hrest (hunmoved.blank?_eq.trans hb) n
  rw [hunmoved.rules_eq, hunmoved.remaining_eq] at hpeek
  exact ⟨l', hpeek, hunmoved.trans hunmoved', hrest'⟩

/-- Passing over white space leaves what the text in the buffer has behind its own. -/
theorem skipWhitespace_of_resting (h : l.Resting) {n : Nat} (hn : l.buffer.length < n) :
    ∃ l', skipWhitespace n l = some (.ok (), l') ∧ l'.Resting ∧ l'.rules = l.rules ∧
      l'.remaining = stripped l.rules l.remaining := by
  induction n generalizing l with
  | zero => exact absurd hn (Nat.not_lt_zero _)
  | succ n ih =>
    obtain ⟨l₁, hensure, hunmoved, hrest⟩ := ensureBuffered_of_resting h
    have hremaining : l₁.remaining = l.remaining := hunmoved.remaining_eq
    have hrules : l₁.rules = l.rules := hunmoved.rules_eq
    have hblank : l₁.blank? = WholeText.blank? l.rules l.remaining := hunmoved.blank?_eq
    rw [skipWhitespace_succ, hensure]
    simp only [hblank]
    cases hc : WholeText.blank? l.rules l.remaining with
    | none =>
      refine ⟨l₁, rfl, hrest, hrules, ?_⟩
      rw [WholeText.stripped_of_none hc]
      exact hremaining
    | some token =>
      have hafter : (l₁.consume token.literal).remaining = l.remaining.after token.literal := by
        rw [← hremaining]
        rfl
      -- a piece of white space has at least one character
      have hlt : (l₁.consume token.literal).remaining.text.length < l.buffer.length := by
        rw [hafter]
        exact WholeText.length_after_lt_of_blank hc
      obtain ⟨l', hskip, hrest', hrules', hstripped⟩ :=
        ih (l := l₁.consume token.literal) hrest (Nat.lt_of_lt_of_le hlt (by omega))
      refine ⟨l', hskip, hrest', hrules'.trans hrules, ?_⟩
      rw [hstripped, hafter, WholeText.stripped_of_some hc, ← hrules]
      rfl

/-- **A look at rest** answers what the text in the buffer answers, and takes the white space in
front of it. -/
theorem peekWithin_of_resting (h : l.Resting) {rounds : Nat} (hrounds : l.buffer.length < rounds)
    (n : Nat) :
    ∃ l', peekWithin rounds (n + 1) l = some ((WholeText.next l.rules l.remaining).1, l') ∧
      l'.Resting ∧ l'.rules = l.rules ∧ l'.remaining = stripped l.rules l.remaining := by
  obtain ⟨l₁, hskip, hrest, hrules, hstripped⟩ := skipWhitespace_of_resting h hrounds
  have hblank : l₁.blank? = none := by
    show WholeText.blank? l₁.rules l₁.remaining = none
    rw [hrules, hstripped]
    exact WholeText.blank?_stripped _
  obtain ⟨m, rfl⟩ : ∃ m, rounds = m + 1 := ⟨rounds - 1, by omega⟩
  obtain ⟨l', hpeek, hunmoved, hrest'⟩ := peekWithin_of_skipped hskip hrest hblank n
  rw [hrules, hstripped, WholeText.next_stripped] at hpeek
  exact ⟨l', hpeek, hrest', hunmoved.rules_eq.trans hrules, hunmoved.remaining_eq.trans hstripped⟩

/-! ### Looking again -/

/-- Calls that leave a lexer at rest as it is once a look has answered: to look again, to ask for
the line, and to scan if the answer was no token. -/
def Call.Repeats (res : Except LexError (Option Token)) : Call ρ → Prop
  | .peek => True
  | .lastLine => True
  | .scan => ∀ token, res ≠ .ok (some token)
  | _ => False

/-- A lexer that has answered: it is at rest, there is no white space in front, and the text in the
buffer answers the same. -/
structure Answered (res : Except LexError (Option Token)) (l : Lexer σ ρ) : Prop where
  resting : l.Resting
  blank : l.blank? = none
  answer : (WholeText.next l.rules l.remaining).1 = res

namespace Answered

variable {res : Except LexError (Option Token)}

theorem unmoved (h : Answered res l) (hunmoved : l.Unmoved l') (hrest : l'.Resting) :
    Answered res l' := by
  obtain ⟨_, _, _, rfl⟩ := hunmoved
  exact ⟨hrest, h.blank, h.answer⟩

theorem peekWithin (h : Answered res l) (rounds n : Nat) :
    ∃ l', peekWithin (rounds + 1) (n + 1) l = some (res, l') ∧ l.Unmoved l' ∧ l'.Resting := by
  rw [← h.answer]
  exact peekWithin_of_blankless h.resting h.blank rounds n

/-- A scan without a token is a look. -/
theorem scanWithin (h : Answered res l) (hres : ∀ token, res ≠ .ok (some token)) (rounds : Nat) :
    ∃ l', scanWithin (rounds + 1) l = some (res, l') ∧ l.Unmoved l' ∧ l'.Resting := by
  obtain ⟨l', hpeek, hunmoved, hrest⟩ := h.peekWithin rounds rounds
  refine ⟨l', ?_, hunmoved, hrest⟩
  rw [scanWithin_eq, hpeek]
  rcases res with e | _ | token
  · rfl
  · rfl
  · exact absurd rfl (hres token)

/-- One such call moves nothing. -/
theorem call (h : Answered res l) {c : Call ρ} (hc : c.Repeats res) (hleads : c.Leads l l') :
    l.Unmoved l' ∧ Answered res l' := by
  obtain ⟨rounds, hafter⟩ := hleads
  have hstep : ∃ l₁, l.Unmoved l₁ ∧ l₁.Resting ∧ l' = l₁ := by
    cases c with
    | peek =>
      cases rounds with
      | zero => cases hafter
      | succ rounds =>
        obtain ⟨l₁, hpeek, hunmoved, hrest⟩ := h.peekWithin rounds rounds
        rw [Call.after?, op_peek, hpeek] at hafter
        exact ⟨l₁, hunmoved, hrest, (Option.some.inj hafter).symm⟩
    | scan =>
      cases rounds with
      | zero => cases hafter
      | succ rounds =>
        obtain ⟨l₁, hscan, hunmoved, hrest⟩ := h.scanWithin hc rounds
        rw [Call.after?, op_scan, hscan] at hafter
        exact ⟨l₁, hunmoved, hrest, (Option.some.inj hafter).symm⟩
    | lastLine =>
      obtain ⟨l₁, hline, hunmoved, hrest⟩ := lastLine_of_resting h.resting
      rw [Call.after?, op_lastLine, hline] at hafter
      exact ⟨l₁, hunmoved, hrest, (Option.some.inj hafter).symm⟩
    | next _ => cases hc
    | skipLiteral _ => cases hc
    | setRules _ => cases hc
    | setWhitespace _ => cases hc
    | setRuleSet _ => cases hc
  obtain ⟨l₁, hunmoved, hrest, rfl⟩ := hstep
  exact ⟨hunmoved, h.unmoved hunmoved hrest⟩

/-- Any number of such calls move nothing. -/
theorem trace (h : Answered res l) {calls : List (Call ρ)} {states : List (Lexer σ ρ)}
    (htrace : Trace l calls states) (hcalls : ∀ c ∈ calls, c.Repeats res) :
    ∀ l' ∈ l :: states, l.Unmoved l' ∧ Answered res l' := by
  induction htrace with
  | nil l =>
    intro l' hl'
    obtain rfl := List.mem_singleton.mp hl'
    exact ⟨.refl l', h⟩
  | @cons l l₁ c calls states hleads _ ih =>
    obtain ⟨hunmoved, h₁⟩ := h.call (hcalls c (List.mem_cons_self ..)) hleads
    intro l' hl'
    rcases List.mem_cons.mp hl' with rfl | hl'
    · exact ⟨.refl l', h⟩
    · obtain ⟨hunmoved', h'⟩ := ih h₁ (fun c hc => hcalls c (List.mem_cons_of_mem _ hc)) l' hl'
      exact ⟨hunmoved.trans hunmoved', h'⟩

end Answered

omit [ByteSource σ] in
/-- What a text answers is never that a read has failed. -/
theorem next_ne_read (rules : RuleSet ρ) (r : Rest) (position : Position) (fault : ReadFault) :
    (WholeText.next rules r).1 ≠ .error (.read position fault) := by
  rcases WholeText.next_cases rules r with ⟨-, hnext⟩ | ⟨-, -, hnext⟩ | ⟨token, -, hnext⟩ <;>
    simp [hnext]

/-- A look at rest leaves a lexer that has answered. -/
theorem answered_of_peekWithin (h : l.Resting) {rounds n : Nat}
    {res : Except LexError (Option Token)} (hpeek : peekWithin rounds n l = some (res, l')) :
    Answered res l' := by
  -- with more rounds the answer is the same, and then it is known
  have hrounds : l.buffer.length < max rounds (l.buffer.length + 1) := by omega
  obtain ⟨l₁, hpeek₁, hrest, hrules, hremaining⟩ := peekWithin_of_resting h hrounds n
  have hmore := peekWithin_mono (Nat.le_max_left rounds (l.buffer.length + 1)) (Nat.le_succ n) hpeek
  rw [hpeek₁] at hmore
  cases hmore
  refine ⟨hrest, ?_, ?_⟩
  · show WholeText.blank? l'.rules l'.remaining = none
    rw [hrules, hremaining]
    exact WholeText.blank?_stripped _
  · rw [hrules, hremaining, WholeText.next_stripped]

/-- **At rest, one look is enough.** Let the source of a lexer be exhausted, or let it answer every
further read with nothing. Then a look for a token gives an answer, and never that a read has
failed. After it, the lexer can be asked in any order and any number of times for a token, for the
line it is at and, if the answer was no token, for a scan: nothing moves, every further look gives
the same answer, the line is the same, and if the answer was an unknown token, so is that of every
scan. -/
theorem peek_repeats_at_rest (l : Lexer σ ρ) (h : l.Resting) :
    (∀ rounds n, l.buffer.length < rounds → 0 < n →
      ∃ res l₁, peekWithin rounds n l = some (res, l₁)) ∧
    ∀ rounds n res l₁, peekWithin rounds n l = some (res, l₁) →
      (∀ position fault, res ≠ .error (.read position fault)) ∧
      ∀ calls states, Trace l₁ calls states → (∀ c ∈ calls, c.Repeats res) →
        ∀ l₂ ∈ l₁ :: states, l₁.Unmoved l₂ ∧
          (∀ rounds n, ∃ l₃, peekWithin (rounds + 1) (n + 1) l₂ = some (res, l₃) ∧
            l₁.Unmoved l₃) ∧
          (∃ l₃, lastLine l₂ = some (.ok (l₁.line ++ l₁.buffer.firstLine), l₃) ∧
            l₁.Unmoved l₃) ∧
          ∀ e, res = .error e → ∀ rounds, ∃ l₃, scanWithin (rounds + 1) l₂ = some (.error e, l₃) ∧
            l₁.Unmoved l₃ := by
  constructor
  · intro rounds n hrounds hn
    obtain ⟨n, rfl⟩ : ∃ k, n = k + 1 := ⟨n - 1, by omega⟩
    obtain ⟨l₁, hpeek, -⟩ := peekWithin_of_resting h hrounds n
    exact ⟨_, l₁, hpeek⟩
  · intro rounds n res l₁ hpeek
    have hanswered := answered_of_peekWithin h hpeek
    refine ⟨fun position fault => hanswered.answer ▸ next_ne_read _ _ position fault, ?_⟩
    intro calls states htrace hcalls l₂ hl₂
    obtain ⟨hunmoved, hanswered₂⟩ := hanswered.trace htrace hcalls l₂ hl₂
    refine ⟨hunmoved, ?_, ?_, ?_⟩
    · intro rounds n
      obtain ⟨l₃, hagain, hunmoved₃, -⟩ := hanswered₂.peekWithin rounds n
      exact ⟨l₃, hagain, hunmoved.trans hunmoved₃⟩
    · obtain ⟨l₃, hline, hunmoved₃, -⟩ := lastLine_of_resting hanswered₂.resting
      rw [hunmoved.line_eq] at hline
      exact ⟨l₃, hline, hunmoved.trans hunmoved₃⟩
    · rintro e rfl rounds
      obtain ⟨l₃, hscan, hunmoved₃, -⟩ := hanswered₂.scanWithin (by simp) rounds
      exact ⟨l₃, hscan, hunmoved.trans hunmoved₃⟩

/-- A queue is empty but not closed, and in the buffer there is a blank before a sign and a letter
that no rule knows. The look takes the blank. The line is asked for, a scan fails and another look
follows, and the lexer still stands before the sign. -/
theorem peek_repeats_at_rest_queue :
    let queue : Queue := { bytes := [0x37, 0x20, 0x40, 0xC3, 0xA9] }
    let rules : RuleSet Rule := ⟨some (.literals .other [[' ']]), [.literals .number [['7']]]⟩
    let unknown : LexError := .unknownToken ['@', 'é'] ⟨0, 2, 2⟩
    ∃ l l₁ a b l₂ : Lexer Queue Rule,
      (scanWithin 20 (create queue rules ⟨4, 8⟩)).map Prod.snd = some l ∧
      ByteSource.Silent l.sizes.effectiveChunk l.source ∧ l.buffer = [' ', '@', 'é'] ∧
      peekWithin 20 20 l = some (.error unknown, l₁) ∧ l₁.buffer = ['@', 'é'] ∧
      Trace l₁ [.lastLine, .scan, .peek] [a, b, l₂] ∧ l₁.Unmoved l₂ ∧
      (∃ l₃, peekWithin 20 20 l₂ = some (.error unknown, l₃) ∧ l₁.Unmoved l₃) ∧
      (∃ l₃, lastLine l₂ = some (.ok ['7', ' ', '@', 'é'], l₃) ∧ l₁.Unmoved l₃) ∧
      ∃ l₃, scanWithin 20 l₂ = some (.error unknown, l₃) ∧ l₁.Unmoved l₃ := by
  intro queue rules unknown
  let error? (res : Except LexError (Option Token)) : Option LexError :=
    match res with
    | .error e => some e
    | .ok _ => none
  have hrun : ((scanWithin 20 (create queue rules ⟨4, 8⟩)).bind fun p =>
      (peekWithin 20 20 p.2).bind fun q =>
        (trace? 20 q.2 [.lastLine, .scan, .peek]).map fun states =>
          (p.2.source, error? q.1, states.length,
            [p.2.buffer, q.2.buffer, q.2.line ++ q.2.buffer.firstLine])) =
      some ({}, some unknown, 3, [[' ', '@', 'é'], ['@', 'é'], ['7', ' ', '@', 'é']]) := by
    decide +kernel
  obtain ⟨⟨res, l⟩, hscan, hrest⟩ := Option.bind_eq_some_iff.mp hrun
  obtain ⟨⟨answer, l₁⟩, hpeek, hrest⟩ := Option.bind_eq_some_iff.mp hrest
  obtain ⟨states, htrace, hseen⟩ := Option.map_eq_some_iff.mp hrest
  simp only [Prod.mk.injEq, List.cons.injEq] at hseen
  obtain ⟨hsource, hanswer, hlength, hbuffer, hbuffer₁, hline, -⟩ := hseen
  obtain ⟨a, b, l₂, rfl⟩ := List.length_eq_three.mp hlength
  -- an empty queue that is not closed stays as it is and has nothing to give
  have hsilent : ByteSource.Silent l.sizes.effectiveChunk l.source := by
    intro k
    rw [ByteSource.replyAt, hsource, Function.iterate_fixed (by rfl)]
    rfl
  cases answer with
  | ok token => cases hanswer
  | error e =>
    cases Option.some.inj hanswer
    have hcalls : ∀ c ∈ [Call.lastLine, .scan, .peek], c.Repeats (ρ := Rule) (.error unknown) := by
      simp [Call.Repeats]
    have htrace := trace_of_trace? htrace
    obtain ⟨-, hlater⟩ := (peek_repeats_at_rest l (Or.inr hsilent)).2 20 20 _ l₁ hpeek
    obtain ⟨hunmoved, hlooks, hlines, hscans⟩ := hlater _ _ htrace hcalls l₂ (by simp)
    rw [hline] at hlines
    exact ⟨l, l₁, a, b, l₂, by rw [hscan]; rfl, hsilent, hbuffer, hpeek, hbuffer₁, htrace,
      hunmoved, hlooks 19 19, hlines, hscans unknown rfl 19⟩

end Lexer

end RuleLexer
