import RuleLexer.Proofs.Lexer.Ending
import RuleLexer.Proofs.Lexer.Gaps

/-!
# Scanning and skipping see all of the text

Whoever scans, and skips the literal of every unknown token, comes to the end of the input, and what
was seen on the way is the text: gaps of white space, tokens and skipped literals, one behind the
other and each where it says it is.

* `Covers` lays the entries of such a list on a text, with the gaps between them.
* `Recovers` is the loop itself, one scan after the other; it goes on behind an unknown token only
  if its literal was indeed skipped.
* `At.exists_seen`, `At.stops_or_enters`: what one look and one round of the loop see of the text
  that lies before the lexer.
* `exists_recovers_covers`: over any source that delivers its bytes, the loop comes to an end and
  covers the text, whatever the rules, the sizes and the bytes.
-/

namespace RuleLexer

/-! ### Literals that can be skipped -/

theorem RuleSet.unrecognized_isPrefix {ρ : Type} [TokenRule ρ] (s : RuleSet ρ)
    (position : Position) (t : Text) : s.unrecognized position t <+: t := by
  induction t with
  | nil => exact List.prefix_refl _
  | cons c t ih =>
    unfold RuleSet.unrecognized
    split_ifs
    · exact List.nil_prefix
    · exact (List.prefix_cons_inj c).mpr ih

/-- The literal of an unknown token is not empty and stands at the front of the text. -/
theorem RuleSet.unknownLiteral_append {ρ : Type} [TokenRule ρ] (s : RuleSet ρ)
    (position : Position) {t : Text} (ht : t ≠ []) :
    s.unknownLiteral position t ≠ [] ∧ ∃ rest, t = s.unknownLiteral position t ++ rest := by
  cases t with
  | nil => exact absurd rfl ht
  | cons c t =>
    obtain ⟨rest, hrest⟩ := s.unrecognized_isPrefix position t
    refine ⟨List.cons_ne_nil _ _, rest, ?_⟩
    show c :: t = c :: (s.unrecognized position t ++ rest)
    rw [hrest]

/-- A built-in rule puts its token where the text lies. -/
theorem Rule.position_of_hit? {rule : Rule} {input : Text} {position : Position} {token : Token}
    (h : TokenRule.hit? rule input position = some token) : token.position = position := by
  have hfind : Rule.find? rule input position = some token := (Option.filter_eq_some_iff.mp h).1
  cases rule with
  | literals id alternatives =>
    obtain ⟨literal, -, rfl⟩ := Option.map_eq_some_iff.mp hfind
    rfl
  | pattern id source matcher =>
    obtain ⟨found, -, rfl⟩ := Option.map_eq_some_iff.mp hfind
    rfl

/-- A built-in rule finds the same wherever the text lies; only the token says where. -/
theorem Rule.hit?_position (rule : Rule) (t : Text) (p q : Position) :
    TokenRule.hit? rule t q =
      (TokenRule.hit? rule t p).map fun token => { token with position := q } := by
  have hfind : Rule.find? rule t q =
      (Rule.find? rule t p).map fun token => { token with position := q } := by
    cases rule with
    | literals id alternatives =>
      show (Rule.findLiteral? alternatives t).map _ =
        ((Rule.findLiteral? alternatives t).map _).map _
      rw [Option.map_map]
      rfl
    | pattern id source matcher =>
      show (matcher.find? t).map _ = ((matcher.find? t).map _).map _
      rw [Option.map_map]
      rfl
  show (Rule.find? rule t q).filter _ = ((Rule.find? rule t p).filter _).map _
  rw [hfind]
  cases Rule.find? rule t p with
  | none => rfl
  | some token =>
    -- whether a token counts does not depend on its position
    have hcounts : ({ token with position := q } : Token).consumes t = token.consumes t := rfl
    rw [Option.map_some, Option.filter_some, Option.filter_some, hcounts]
    split <;> rfl

theorem Rule.hit?_eq_none_iff (rule : Rule) (t : Text) (p q : Position) :
    TokenRule.hit? rule t q = none ↔ TokenRule.hit? rule t p = none := by
  rw [rule.hit?_position t p q, Option.map_eq_none_iff]

namespace Lexer

variable {σ ρ : Type}

theorem skipLiteral_of_append (l : Lexer σ ρ) {literal rest : Text} (hne : literal ≠ [])
    (h : l.buffer = literal ++ rest) :
    l.skipLiteral literal = (true, (l.note (.skipped literal l.cursor)).consume literal) := by
  have hempty : literal.isEmpty = false := List.isEmpty_eq_false_iff.mpr hne
  have hstarts : l.buffer.startsWith literal = true := by
    unfold Text.startsWith
    rw [h, Text.after?_append]
    rfl
  unfold skipLiteral
  rw [hempty, hstarts]
  rfl

/-! ### Entries and gaps -/

/-- The text of an entry: a token's literal, or the literal that was not recognised. A failed read
stands for no text. -/
def entryText : Except LexError Token → Text
  | .ok token => token.literal
  | .error (.unknownToken literal _) => literal
  | .error (.read _ _) => []

/-- Where an entry says it is. -/
def entryPosition : Except LexError Token → Position
  | .ok token => token.position
  | .error e => e.position

/-- **Entries that cover a text** which starts at some position: in front of every entry there is a
gap of white space, the entry is not empty and says where it starts, the text goes on behind it, and
behind the last one there is nothing but a gap. -/
inductive Covers [TokenRule ρ] (rules : RuleSet ρ) :
    Position → Text → List (Except LexError Token) → Prop where
  | tail {position : Position} {gap : Text} (hgap : Blanks rules position gap []) :
      Covers rules position gap []
  | entry {position : Position} {gap rest : Text} {entry : Except LexError Token}
      {entries : List (Except LexError Token)}
      (hgap : Blanks rules position gap (entryText entry ++ rest))
      (hposition : entryPosition entry = position.advanced gap) (hne : entryText entry ≠ [])
      (h : Covers rules ((position.advanced gap).advanced (entryText entry)) rest entries) :
      Covers rules position (gap ++ (entryText entry ++ rest)) (entry :: entries)

/-- There are no more entries than characters. -/
theorem Covers.length_le [TokenRule ρ] {rules : RuleSet ρ} {position : Position} {t : Text}
    {entries : List (Except LexError Token)} (h : Covers rules position t entries) :
    entries.length ≤ t.length := by
  induction h with
  | tail _ => exact Nat.zero_le _
  | entry _ _ hne _ ih =>
    have hpos := List.length_pos_iff.mpr hne
    rw [List.length_cons, List.length_append, List.length_append]
    omega

/-! ### What one scan sees -/

section Seen

variable [ByteSource σ] [TokenRule ρ] {rules : RuleSet ρ} {sizes : BufferSizes}
  {l l' : Lexer σ ρ} {r : WholeText.Rest}

/-- What looking for a token has seen, behind the white space: nothing, since the input is at its
end, or a token or an unknown token at the front of the buffer. -/
inductive Seen (l : Lexer σ ρ) : Except LexError (Option Token) → Prop where
  | nothing (hend : l.exhausted = true) (hnil : l.buffer = []) : Seen l (.ok none)
  | token {token : Token} {rule : ρ} {start : Text} (hfront : l.Fronts token)
      (hhit : TokenRule.hit? rule start l.cursor = some token) : Seen l (.ok (some token))
  | unknown {literal beyond : Text} (hne : literal ≠ []) (hfront : l.buffer = literal ++ beyond) :
      Seen l (.error (.unknownToken literal l.cursor))

omit [TokenRule ρ] in
theorem Refills.exhausted (h : Refills l l') (he : l.exhausted = true) : l'.exhausted = true := by
  induction h with
  | refl => exact he
  | @tail m l' _ hstep ih =>
    cases hstep with
    | read =>
      rw [fill_of_exhausted m ih]
      exact ih
    | note e => exact ih

/-- **In front of a text that is delivered**, looking for a token passes over white space and sees
what is behind it. -/
theorem At.exists_seen {rounds n : Nat} {res : Except LexError (Option Token)}
    (h : At rules sizes l r) (hpeek : Lexer.peekWithin rounds n l = some (res, l')) :
    ∃ gap rest, r.text = gap ++ rest ∧ Blanks rules r.position gap rest ∧
      At rules sizes l' ⟨rest, r.position.advanced gap⟩ ∧ Seen l' res := by
  obtain ⟨hmoves, hfront⟩ := moves_peekWithin hpeek
  obtain ⟨gap, rest, htext, hgap, hat⟩ := h.moves hmoves
  refine ⟨gap, rest, htext, hgap, hat, ?_⟩
  rcases peekWithin_cases hpeek with ⟨e, -, hfails⟩ | ⟨l₁, token, -, hpass, rfl⟩ |
    ⟨l₁, l₂, hstart, hpass, hno⟩
  · exact absurd hfails h.not_fails
  · cases hpass with
    | matched _ _ _ hmatch =>
      obtain ⟨-, l₂, -, -, -, hsettled⟩ := settled_of_matchRule hmatch
      have hhit := hsettled.hit
      rw [← hsettled.append.1.cursor] at hhit
      exact .token (hfront token rfl) hhit
  · cases hpass with
    | missed hstill hmiss =>
      unfold noToken at hno
      split at hno
      · next hempty =>
        cases hno
        -- nothing was buffered at the start of the pass either, although it was topped up
        have hnil : l'.buffer = [] := List.isEmpty_iff.mp hempty
        obtain ⟨hprimed, gap₁, rest₁, -, -, hat₁⟩ := h.passStart hstart
        have hend := (hat₁.text_eq_nil hprimed (hstill.buffer ▸ hnil)).1
        exact .nothing (hstill.refills.exhausted hend) hnil
      · next hempty =>
        cases hno
        have hne : l₂.buffer ≠ [] := fun hnil => hempty (List.isEmpty_iff.mpr hnil)
        obtain ⟨hliteral, beyond, hbeyond⟩ := l₂.rules.unknownLiteral_append l₂.cursor hne
        exact .unknown hliteral hbeyond

end Seen

/-! ### The loop -/

section Loop

variable [FiniteSource σ]

/-- One entry of the loop: a scan gives a token, or it gives an unknown token and the literal of
this one is skipped. -/
inductive Enters [TokenRule ρ] (rounds : Nat) (l : Lexer σ ρ) :
    Except LexError Token → Lexer σ ρ → Prop where
  | token {l' : Lexer σ ρ} {token : Token}
      (h : scanWithin rounds l = some (.ok (some token), l')) : Enters rounds l (.ok token) l'
  | skip {l₁ l' : Lexer σ ρ} {literal : Text} {position : Position}
      (h : scanWithin rounds l = some (.error (.unknownToken literal position), l₁))
      (hskip : l₁.skipLiteral literal = (true, l')) :
      Enters rounds l (.error (.unknownToken literal position)) l'

/-- Scanning and skipping up to a scan that finds nothing, each scan in so many rounds at most. -/
inductive Recovers [TokenRule ρ] (rounds : Nat) :
    Lexer σ ρ → List (Except LexError Token) → Lexer σ ρ → Prop where
  | stop {l l' : Lexer σ ρ} (h : scanWithin rounds l = some (.ok none, l')) :
      Recovers rounds l [] l'
  | next {l l₁ l' : Lexer σ ρ} {entry : Except LexError Token}
      {entries : List (Except LexError Token)} (h : Enters rounds l entry l₁)
      (hrest : Recovers rounds l₁ entries l') : Recovers rounds l (entry :: entries) l'

/-- The list of entries is complete whenever it may have more of them. -/
theorem Recovers.recoverWithin_eq [TokenRule ρ] {rounds : Nat} {l l' : Lexer σ ρ}
    {entries : List (Except LexError Token)} (h : Recovers rounds l entries l') {most : Nat}
    (hmost : entries.length < most) : recoverWithin rounds most l = some (.ok entries, l') := by
  induction h generalizing most with
  | stop h =>
    obtain ⟨n, rfl⟩ : ∃ n, most = n + 1 := ⟨most - 1, by omega⟩
    rw [recoverWithin_succ, h]
  | next h _ ih =>
    rw [List.length_cons] at hmost
    obtain ⟨n, rfl⟩ : ∃ n, most = n + 1 := ⟨most - 1, by omega⟩
    have hrest := ih (Nat.lt_of_succ_lt_succ hmost)
    rw [recoverWithin_succ]
    cases h with
    | token hscan =>
      rw [hscan]
      simp only
      rw [hrest]
      rfl
    | skip hscan hskip =>
      rw [hscan]
      simp only
      rw [hskip, hrest]
      rfl

variable {rules : RuleSet Rule} {sizes : BufferSizes} {l : Lexer σ Rule} {r : WholeText.Rest}

/-- **One round of the loop** in front of a text that is delivered: nothing but white space remains
and the input is at its end, or there is an entry behind the white space, and the lexer then stands
behind the entry. -/
theorem At.stops_or_enters {rounds : Nat} (h : At rules sizes l r) (hreach : l.reach < rounds)
    (hahead : l.ahead < rounds) :
    (∃ l', scanWithin rounds l = some (.ok none, l') ∧ l'.exhausted = true ∧ l'.buffer = [] ∧
      Blanks rules r.position r.text []) ∨
    ∃ gap entry rest l', Enters rounds l entry l' ∧ r.text = gap ++ (entryText entry ++ rest) ∧
      Blanks rules r.position gap (entryText entry ++ rest) ∧
      entryPosition entry = r.position.advanced gap ∧ entryText entry ≠ [] ∧
      At rules sizes l' ⟨rest, (r.position.advanced gap).advanced (entryText entry)⟩ ∧
      l'.reach < rounds ∧ l'.ahead < rounds := by
  have hsound := h.faces.sound
  obtain ⟨res, l₁, hpeek⟩ := peekWithin_ends hsound hreach hahead hahead
  obtain ⟨gap, rest, htext, hgap, hat, hseen⟩ := h.exists_seen hpeek
  have honward : Onward l l₁ := (moves_peekWithin hpeek).1.onward hsound
  have hreach₁ := honward.reach_le
  have hahead₁ := honward.ahead_le
  have hscan := scanWithin_eq rounds l
  rw [hpeek] at hscan
  cases hseen with
  | nothing hend hnil =>
    have hrest : rest = [] := (hat.faces.eq_buffer hend).trans hnil
    rw [hrest] at htext hgap
    rw [List.append_nil] at htext
    exact Or.inl ⟨l₁, hscan, hend, hnil, htext ▸ hgap⟩
  | @token token rule start hfront hhit =>
    obtain ⟨hne, beyond, hbeyond⟩ := hfront
    have htake := reach_consume hbeyond
    obtain ⟨rest', hrest, hat'⟩ := hat.exists_take hbeyond
    change rest = token.literal ++ rest' at hrest
    rw [hrest] at htext hgap
    have hposition : token.position = r.position.advanced gap := by
      rw [Rule.position_of_hit? hhit]
      exact hat.cursor
    refine Or.inr ⟨gap, .ok token, rest', _, .token hscan, htext, hgap, hposition, hne,
      hat'.note _, ?_, ?_⟩
    · show (l₁.consume token.literal).reach < rounds
      omega
    · show l₁.ahead < rounds
      omega
  | @unknown literal beyond hne hbeyond =>
    have htake := reach_consume hbeyond
    obtain ⟨rest', hrest, hat'⟩ := (hat.note (.skipped literal l₁.cursor)).exists_take hbeyond
    change rest = literal ++ rest' at hrest
    rw [hrest] at htext hgap
    have hskip := skipLiteral_of_append l₁ hne hbeyond
    refine Or.inr ⟨gap, .error (.unknownToken literal l₁.cursor), rest', _, .skip hscan hskip,
      htext, hgap, hat.cursor, hne, hat', ?_, ?_⟩
    · show (l₁.consume literal).reach < rounds
      omega
    · show l₁.ahead < rounds
      omega

/-- From any place of a text that is delivered, the loop comes to the end of the input and covers
the rest. -/
theorem At.exists_recovers {rounds : Nat} (h : At rules sizes l r) (hreach : l.reach < rounds)
    (hahead : l.ahead < rounds) :
    ∃ entries l', Recovers rounds l entries l' ∧ l'.exhausted = true ∧ l'.buffer = [] ∧
      Covers rules r.position r.text entries := by
  -- every entry takes at least one character of the rest
  induction hn : r.text.length using Nat.strongRecOn generalizing l r with
  | _ n ih =>
    rcases h.stops_or_enters hreach hahead with ⟨l', hscan, hend, hnil, hgap⟩ |
      ⟨gap, entry, rest, l₁, henters, htext, hgap, hposition, hne, hat, hreach₁, hahead₁⟩
    · exact ⟨[], l', .stop hscan, hend, hnil, .tail hgap⟩
    · have hpos := List.length_pos_iff.mpr hne
      have hless : rest.length < n := by
        rw [← hn, htext, List.length_append, List.length_append]
        omega
      obtain ⟨entries, l', hrec, hend, hnil, hcovers⟩ := ih _ hless hat hreach₁ hahead₁ rfl
      refine ⟨entry :: entries, l', .next henters hrec, hend, hnil, ?_⟩
      rw [htext]
      exact .entry hgap hposition hne hcovers

/-- **Scanning and skipping comes to the end of the input and loses nothing.** For all rules, sizes
and bytes, however the bytes are cut into reads, every scan of the loop ends, the literal of every
unknown token can be skipped, and at last the source is exhausted and the buffer empty. The entries
and the gaps of white space between them are the decoded text, each entry where it says it is. -/
theorem exists_recovers_covers (source : σ) (rules : RuleSet Rule) (sizes : BufferSizes)
    (bytes : List UInt8) (hd : Delivers sizes.effectiveChunk source bytes) :
    ∃ entries l',
      Recovers (create source rules sizes).rounds (create source rules sizes) entries l' ∧
      (∀ most, (Utf8.lossy bytes).length < most →
        recover most (create source rules sizes) = some (.ok entries, l')) ∧
      l'.exhausted = true ∧ l'.buffer = [] ∧ Covers rules .start (Utf8.lossy bytes) entries := by
  obtain ⟨entries, l', hrec, hend, hnil, hcovers⟩ :=
    (at_create rules hd).exists_recovers (reach_lt_rounds _) (ahead_lt_rounds _)
  refine ⟨entries, l', hrec, ?_, hend, hnil, hcovers⟩
  intro most hmost
  rw [recover_eq]
  exact hrec.recoverWithin_eq (Nat.lt_of_le_of_lt hcovers.length_le hmost)

end Loop

/-- A rule that finds nothing but empty matches and one that also finds what lies further back, with
a byte that is no character and, at the end, a character of which only the start has come. -/
theorem exists_recovers_covers_script :
    let parts : List (List UInt8) := [[0x61, 0x20], [0x3F, 0xFF, 0x62, 0x20], [0x20, 0xE2]]
    let source : Script := ⟨parts.map .data⟩
    let rules : RuleSet Rule := ⟨some (.literals .other [[' ']]),
      [.pattern ⟨1⟩ [] (.ofRegex .empty), .pattern ⟨2⟩ ['b'] (.ofRegex (.set ⟨[(98, 98)]⟩)),
        .literals ⟨3⟩ [['a']]]⟩
    let entries : List (Except LexError Token) :=
      [.ok ⟨⟨3⟩, ['a'], [], .start⟩, .error (.unknownToken ['?', '\uFFFD'] ⟨0, 2, 2⟩),
        .ok ⟨⟨2⟩, ['b'], [], ⟨0, 4, 6⟩⟩, .error (.unknownToken ['\uFFFD'] ⟨0, 7, 9⟩)]
    Delivers 2 source parts.flatten ∧ ∃ l',
      recover 20 (create source rules ⟨3, 2⟩) = some (.ok entries, l') ∧ l'.exhausted = true ∧
      l'.buffer = [] ∧
      Covers rules .start ['a', ' ', '?', '\uFFFD', 'b', ' ', ' ', '\uFFFD'] entries := by
  intro parts source rules entries
  have hd : Delivers 2 source parts.flatten := Script.delivers_data (by decide) parts (by decide)
  obtain ⟨found, l', -, hrec, hend, hnil, hcovers⟩ :=
    exists_recovers_covers source rules ⟨3, 2⟩ parts.flatten hd
  have htext : Utf8.lossy parts.flatten =
      ['a', ' ', '?', '\uFFFD', 'b', ' ', ' ', '\uFFFD'] := by decide +kernel
  rw [htext] at hrec hcovers
  have hrun := hrec 20 (by decide)
  have hfound : (recover 20 (create source rules ⟨3, 2⟩)).map Prod.fst = some (.ok entries) := by
    decide +kernel
  rw [hrun] at hfound
  cases hfound
  exact ⟨hd, l', hrun, hend, hnil, hcovers⟩

end Lexer

end RuleLexer
