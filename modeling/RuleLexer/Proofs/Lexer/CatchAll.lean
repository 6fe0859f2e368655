import RuleLexer.Proofs.Lexer.Coverage
import RuleLexer.Proofs.Reference
import RuleLexer.Tokenize

/-!
# Rules that leave nothing unknown

The last of the reference rules takes any character but a line break, and a line break is white
space. So whatever is behind the white space is recognised, as long as both are judged on the same
buffer. A pass over the rules sees to that: if it ends without a token, no text has come since the
white space was passed over.

* `CatchesAll`: rule sets that recognise every text that does not start with white space.
* `isRead_of_peekWithin`: with such rules, only a failed read keeps a lexer from an answer.
* `At.collectWithin_ne_error`: where no read fails, all tokens are found.
* `isRead_of_reference`: all of this for the reference rules, over every source.
-/

namespace RuleLexer

/-- Rules that catch everything: in a text that is not empty and does not start with white space,
one of them finds a token. -/
def RuleSet.CatchesAll {ρ : Type} [TokenRule ρ] (rules : RuleSet ρ) : Prop :=
  ∀ r : WholeText.Rest, r.text ≠ [] → WholeText.blank? rules r = none →
    ∃ rule ∈ rules.rules, TokenRule.hit? rule r.text r.position ≠ none

/-- The reference rules catch everything. -/
theorem Reference.catchesAll_reference : RuleSet.reference.CatchesAll := by
  rintro ⟨t, position⟩ hne hblank
  cases t with
  | nil => exact absurd rfl hne
  | cons c t =>
    obtain ⟨rule, hrule, hhit⟩ :=
      WholeText.first?_eq_some (first?_reference (not_mem_blanks hblank) t position)
    refine ⟨rule, hrule, ?_⟩
    rw [hhit]
    exact Option.some_ne_none _

/-- The source has failed, and nothing else. -/
def LexError.IsRead (e : LexError) : Prop := ∃ position fault, e = .read position fault

namespace Lexer

variable {σ ρ : Type}

/-! ### One answer -/

section Answer

variable [ByteSource σ] [TokenRule ρ] {l l' : Lexer σ ρ}

theorem Fails.isRead {e : LexError} (h : Fails l e l') : e.IsRead := by
  obtain ⟨fault, rfl⟩ := h.eq_read
  exact ⟨_, fault, rfl⟩

/-- **Nothing is unknown** to rules that catch everything. -/
theorem isRead_of_peekWithin {rounds n : Nat} {e : LexError} (hc : l.rules.CatchesAll)
    (h : peekWithin rounds n l = some (.error e, l')) : e.IsRead := by
  rcases peekWithin_cases h with ⟨e', he, hfails⟩ | ⟨l₁, token, -, -, he⟩ |
    ⟨l₁, l₂, hstart, hpass, hno⟩
  · cases he
    exact hfails.isRead
  · cases he
  · exfalso
    cases hpass with
    | missed hstill hmiss =>
      unfold noToken at hno
      split at hno
      · cases hno
      · next hempty =>
        -- what is left in the buffer is what white space and rules were judged on
        rw [hstill.buffer, List.isEmpty_iff] at hempty
        rw [← hstart.moves.rules_eq] at hc
        obtain ⟨rule, hrule, hhit⟩ := hc ⟨l₁.buffer, l₁.cursor⟩ hempty hstart.blank
        exact hhit (hmiss rule hrule)

theorem isRead_of_scanWithin {rounds : Nat} {e : LexError} (hc : l.rules.CatchesAll)
    (h : scanWithin rounds l = some (.error e, l')) : e.IsRead := by
  obtain ⟨l₁, hpeek, -⟩ := exists_peekWithin_of_scanWithin h
  exact isRead_of_peekWithin hc hpeek

end Answer

/-! ### Any number of calls -/

section Calls

variable [ByteSource σ] [TokenRule ρ] {l l' : Lexer σ ρ}

/-- Calls that do not exchange the rules lead to lexers with the same rules. -/
theorem Trace.rules_eq {calls : List (Call ρ)} {states : List (Lexer σ ρ)}
    (h : Trace l calls states) (hk : ∀ c ∈ calls, c.keepsRules = true) :
    ∀ l' ∈ states, l'.rules = l.rules := by
  induction h with
  | nil => exact fun l' hl' => absurd hl' List.not_mem_nil
  | @cons l l₁ c calls states hc _ ih =>
    have hfirst : l₁.rules = l.rules := hc.rules_eq (hk c (List.mem_cons_self ..))
    have hrest := ih fun c hc => hk c (List.mem_cons_of_mem _ hc)
    intro l' hl'
    rcases List.mem_cons.mp hl' with rfl | hl'
    · exact hfirst
    · exact (hrest l' hl').trans hfirst

/-- No call answers with an unknown token if the rules catch everything. -/
theorem Call.isRead_of_error? {rounds : Nat} {c : Call ρ} {e : LexError}
    (hc : l.rules.CatchesAll) (h : c.error? rounds l = some e) : e.IsRead := by
  obtain ⟨⟨outcome, l'⟩, hop, he⟩ := Option.bind_eq_some_iff.mp h
  cases c with
  | peek =>
    rw [op_peek] at hop
    obtain ⟨⟨r, l₁⟩, hpeek, hr⟩ := Option.map_eq_some_iff.mp hop
    cases hr
    rcases r with e' | token
    · cases he
      exact isRead_of_peekWithin hc hpeek
    · cases he
  | scan =>
    rw [op_scan] at hop
    obtain ⟨⟨r, l₁⟩, hscan, hr⟩ := Option.map_eq_some_iff.mp hop
    cases hr
    rcases r with e' | token
    · cases he
      exact isRead_of_scanWithin hc hscan
    · cases he
  | next failed =>
    rw [op_next] at hop
    split at hop
    · cases hop
      cases he
    · obtain ⟨⟨r, l₁⟩, hscan, hr⟩ := Option.map_eq_some_iff.mp hop
      cases hr
      rcases r with e' | _ | token
      · cases he
        exact isRead_of_scanWithin hc hscan
      · -- a token or none is never an error of the stream
        cases he
      · cases he
  | lastLine =>
    rw [op_lastLine, lastLine_eq] at hop
    rcases hensure : ensureBuffered l with _ | ⟨e' | _, l₁⟩
    · rw [hensure] at hop
      cases hop
    · rw [hensure] at hop
      cases hop
      cases he
      exact Fails.isRead (topUp_cases hensure)
    · rw [hensure] at hop
      cases hop
      cases he
  | skipLiteral literal =>
    cases hop
    cases he
  | setRules rules =>
    cases hop
    cases he
  | setWhitespace whitespace =>
    cases hop
    cases he
  | setRuleSet rules =>
    cases hop
    cases he

end Calls

/-! ### All tokens -/

section Tokens

variable [TokenRule ρ] {l l' : Lexer σ ρ}

theorem isRead_of_collectWithin [ByteSource σ] {rounds n : Nat} {e : LexError}
    (hc : l.rules.CatchesAll) (h : collectWithin rounds n l = some (.error e, l')) : e.IsRead := by
  induction n generalizing l with
  | zero => cases h
  | succ n ih =>
    rw [collectWithin_succ] at h
    split at h
    · cases h
    · next e' l₁ hscan =>
      cases h
      exact isRead_of_scanWithin hc hscan
    · cases h
    · next token l₁ hscan =>
      obtain ⟨⟨res, l₂⟩, hrest, hres⟩ := Option.map_eq_some_iff.mp h
      cases res with
      | ok tokens => cases hres
      | error e' =>
        cases hres
        rw [← (advances_scanWithin hscan).rules_eq] at hc
        exact ih hc hrest

/-- A scan in front of a text that is delivered leaves the lexer at a place of it, and does not fail
to read. -/
theorem At.scanWithin_cases [ByteSource σ] {rules : RuleSet ρ} {sizes : BufferSizes}
    {r : WholeText.Rest} {rounds : Nat} {res : Except LexError (Option Token)}
    (h : At rules sizes l r) (hscan : scanWithin rounds l = some (res, l')) :
    match res with
    | .error e => ¬ e.IsRead
    | .ok _ => ∃ r', At rules sizes l' r' := by
  obtain ⟨l₁, hpeek, rfl⟩ := exists_peekWithin_of_scanWithin hscan
  obtain ⟨gap, rest, -, -, hat, hseen⟩ := h.exists_seen hpeek
  cases hseen with
  | nothing _ _ => exact ⟨_, hat⟩
  | token hfront _ => exact ⟨_, (hat.consume hfront).note _⟩
  | unknown _ _ =>
    rintro ⟨position, fault, he⟩
    cases he

/-- **All tokens are found** where no read fails and the rules catch everything. -/
theorem At.collectWithin_ne_error [ByteSource σ] {rules : RuleSet ρ} {sizes : BufferSizes}
    {r : WholeText.Rest} {rounds n : Nat} {e : LexError} (h : At rules sizes l r)
    (hc : rules.CatchesAll) : collectWithin rounds n l ≠ some (.error e, l') := by
  intro hcollect
  induction n generalizing l r with
  | zero => cases hcollect
  | succ n ih =>
    have hrules := h.rules_eq
    rw [collectWithin_succ] at hcollect
    split at hcollect
    · cases hcollect
    · next e' l₁ hscan =>
      rw [← hrules] at hc
      exact h.scanWithin_cases hscan (isRead_of_scanWithin hc hscan)
    · cases hcollect
    · next token l₁ hscan =>
      obtain ⟨r', hat⟩ := h.scanWithin_cases hscan
      obtain ⟨⟨res, l₂⟩, hrest, hres⟩ := Option.map_eq_some_iff.mp hcollect
      cases res with
      | ok tokens => cases hres
      | error e' =>
        cases hres
        exact ih hat hrest

/-- The list of all tokens always comes to an end. -/
theorem collect_ends [FiniteSource σ] (source : σ) (rules : RuleSet ρ) (sizes : BufferSizes) :
    ∃ res l', collect (create source rules sizes) = some (res, l') := by
  rw [collect_eq]
  exact collectWithin_ends Utf8.sound_none (reach_lt_rounds _) (ahead_lt_rounds _)
    (reach_lt_rounds _)

end Tokens

/-! ### The reference rules -/

/-- **With the reference rules, no call ever answers with an unknown token**, over any source and
after any calls that do not exchange the rules. In particular every text has its tokens, and those
of what a reader gives are missed only if the reader fails. -/
theorem isRead_of_reference :
    (∀ (σ : Type) [ByteSource σ] (source : σ) (sizes : BufferSizes) (calls : List (Call Rule))
      (states : List (Lexer σ Rule)), (∀ c ∈ calls, c.keepsRules = true) →
      Trace (create source RuleSet.reference sizes) calls states →
      ∀ l ∈ create source RuleSet.reference sizes :: states, ∀ (c : Call Rule) (rounds : Nat)
        (e : LexError), c.error? rounds l = some e → e.IsRead) ∧
    (∀ input : Text, ∃ tokens, tokenize input = some (.ok tokens)) ∧
    (∀ (ρ : Type) [FiniteReader ρ] (reader : ρ), ∃ res, tokenizeReader reader = some res ∧
      ∀ e, res = .error e → e.IsRead) := by
  have hall : RuleSet.reference.CatchesAll := Reference.catchesAll_reference
  refine ⟨?_, ?_, ?_⟩
  · intro σ _ source sizes calls states hk htrace l hl c rounds e he
    have hrules : l.rules = RuleSet.reference := by
      rcases List.mem_cons.mp hl with rfl | hl
      · rfl
      · exact htrace.rules_eq hk l hl
    exact Call.isRead_of_error? (hrules ▸ hall) he
  · intro input
    have hd : Delivers (BufferSizes.effectiveChunk {})
        (ReaderSource.mk (Script.ofBytes (Utf8.encode input))) (Utf8.encode input) :=
      Script.delivers_reader (by decide) _
    have hat := at_create RuleSet.reference hd
    obtain ⟨res, l', hcollect⟩ :=
      collect_ends (ReaderSource.mk (Script.ofBytes (Utf8.encode input))) RuleSet.reference {}
    cases res with
    | error e =>
      rw [collect_eq] at hcollect
      exact absurd hcollect (hat.collectWithin_ne_error hall)
    | ok tokens =>
      refine ⟨tokens, ?_⟩
      unfold tokenize tokenizeReader Lexer.tokens?
      rw [hcollect]
      rfl
  · intro ρ _ reader
    obtain ⟨res, l', hcollect⟩ := collect_ends (ReaderSource.mk reader) RuleSet.reference {}
    refine ⟨res, ?_, ?_⟩
    · unfold tokenizeReader Lexer.tokens?
      rw [hcollect]
      rfl
    · rintro e rfl
      rw [collect_eq] at hcollect
      exact isRead_of_collectWithin hall hcollect

/-- A line break that comes after white space was passed over and before the first rule is tried, a
read that fails and a byte that is no character. -/
theorem isRead_of_reference_script :
    let fault : ReadFault := ⟨.other [], []⟩
    let source : Script := ⟨[.pending, .data [0x0A], .fail fault, .data [0xFF]]⟩
    let start : Lexer Script Rule := create source RuleSet.reference ⟨1, 1⟩
    let calls : List (Call Rule) := [.peek, .scan]
    Call.error? 20 start .peek = some (.read ⟨1, 0, 1⟩ fault) ∧
      ∃ states, Trace start calls states ∧ states.map cursor = [⟨1, 0, 1⟩, ⟨1, 1, 4⟩] ∧
        ∀ l ∈ start :: states, ∀ (c : Call Rule) (rounds : Nat) (e : LexError),
          c.error? rounds l = some e → e.IsRead := by
  intro fault source start calls
  have herror : Call.error? 20 start .peek = some (.read ⟨1, 0, 1⟩ fault) := by decide +kernel
  have hrun : (trace? 20 start calls).map (List.map cursor) =
      some [⟨1, 0, 1⟩, ⟨1, 1, 4⟩] := by decide +kernel
  obtain ⟨states, htrace, hcursors⟩ := Option.map_eq_some_iff.mp hrun
  have hkeep : ∀ c ∈ calls, c.keepsRules = true := by
    intro c hc
    rcases List.mem_cons.mp hc with rfl | hc
    · rfl
    · rw [List.mem_singleton.mp hc]
      rfl
  exact ⟨herror, states, trace_of_trace? htrace, hcursors,
    isRead_of_reference.1 Script source ⟨1, 1⟩ calls states hkeep (trace_of_trace? htrace)⟩

end Lexer

end RuleLexer
