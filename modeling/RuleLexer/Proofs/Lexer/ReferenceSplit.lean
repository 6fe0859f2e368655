import RuleLexer.Proofs.Lexer.OneByte
import RuleLexer.Proofs.Lexer.ReferenceStream

/-!
# What the reference rules split

A lexer that reads one byte at a time sees a quote before it sees the string, and the digits before
a point before it sees the fraction. It takes the quote for a single character and the digits for
the number, so it never finds a string or a fraction, and whoever buffers more does.

* `Cautious`: a rule that takes all of a text finds something plain with one byte more, and leaves
  no more over than the byte has brought. Names, numbers and single characters are like that.
* `Short.scan`: so a lexer that reads one byte at a time finds plain tokens only, scan after scan.
* `scans_reference_iff`: the tokens of a text do not depend on how it is buffered if and only if all
  of them are plain.
-/

namespace RuleLexer.Reference

open WholeText (Rest stripped)
open Lexer (At Attempt)

/-! ### One byte more -/

theorem takeWhile_append_of_all {f : Char → Bool} {x : Text} (hx : x.takeWhile f = x) (z : Text) :
    (x ++ z).takeWhile f = x ++ z.takeWhile f := by
  rw [List.takeWhile_append, if_pos (by rw [hx])]

/-- What one byte brings is no fraction. -/
theorem fraction_eq_nil_of_slight {z : Text} (h : Utf8.Slight z) : fraction z = [] := by
  rcases fraction_cases z with ⟨d, r, rfl, -, -⟩ | ⟨hz, -⟩
  · rcases h with h | ⟨c, h⟩
    · rw [List.length_cons, List.length_cons] at h
      omega
    · exact absurd (List.cons.inj h).1 (by decide)
  · exact hz

theorem slight_drop_append {x z : Text} (hz : Utf8.Slight z) {n : Nat} (hn : x.length ≤ n) :
    Utf8.Slight ((x ++ z).drop n) := by
  rw [List.drop_append, List.drop_eq_nil_of_le hn, List.nil_append]
  exact hz.suffix (List.drop_suffix _ _)

/-- A token that leaves little over: it is plain, and behind it there is no more than one byte
brings. -/
def Safe (t : Text) (token : Token) : Prop :=
  token.Plain ∧ Utf8.Slight (t.drop token.literal.length)

/-- A rule that one byte more does not mislead: where it took all of a text, it finds something that
leaves little over. -/
def Cautious (rule : Rule) : Prop :=
  ∀ c x z position token, TokenRule.hit? rule (c :: x) position = some token →
    token.literal = c :: x → token.Plain → Utf8.Slight z →
    ∃ token', TokenRule.hit? rule (c :: x ++ z) position = some token' ∧
      Safe (c :: x ++ z) token'

theorem cautious_name : Cautious nameRule := by
  intro c x z position token h hall _ hz
  rw [hit?_name] at h
  split_ifs at h with hc
  cases h
  have hx : x.takeWhile nameChars.contains = x := (List.cons.inj hall).2
  rw [List.cons_append, hit?_name, if_pos hc, takeWhile_append_of_all hx]
  refine ⟨_, rfl, Token.plain_of_ident rfl, ?_⟩
  refine slight_drop_append (x := c :: x) hz ?_
  rw [List.length_cons, List.length_cons, List.length_append]
  omega

theorem cautious_number : Cautious numberRule := by
  intro c x z position token h hall hplain hz
  rw [hit?_number] at h
  split_ifs at h with hc
  cases h
  -- all of the text are digits, since there is no point in it
  have hx : (c :: x).takeWhile digits.contains = c :: x := by
    have hf : fraction ((c :: x).dropWhile digits.contains) = [] :=
      not_not.mp fun hne => hplain.2 rfl ((point_mem_number _).mpr hne)
    change number (c :: x) = c :: x at hall
    rwa [number, hf, List.append_nil] at hall
  have hrun := takeWhile_append_of_all hx z
  have hfraction : fraction ((c :: x ++ z).dropWhile digits.contains) = [] := by
    have hdrop : (c :: x).dropWhile digits.contains = [] := by
      have hsplit := List.takeWhile_append_dropWhile (p := digits.contains) (l := c :: x)
      rwa [hx, List.append_right_eq_self] at hsplit
    rw [List.dropWhile_append, hdrop, if_pos List.isEmpty_nil]
    exact fraction_eq_nil_of_slight (hz.suffix (List.dropWhile_suffix _))
  rw [List.cons_append, hit?_number, if_pos hc]
  refine ⟨_, rfl, Token.plain_of_number rfl fun hmem =>
    (point_mem_number (c :: x ++ z)).mp hmem hfraction, ?_⟩
  refine slight_drop_append (x := c :: x) hz ?_
  show _ ≤ (number (c :: x ++ z)).length
  rw [number, hrun, List.length_append, List.length_append]
  omega

theorem cautious_any : Cautious anyRule := by
  intro c x z position token h hall _ hz
  rw [hit?_any] at h
  split_ifs at h with hc
  cases h
  obtain rfl : x = [] := (List.cons.inj hall).2.symm
  rw [List.cons_append, hit?_any, if_neg hc]
  exact ⟨_, rfl, Token.plain_of_other rfl, hz⟩

/-! ### One scan after the other -/

variable {σ : Type} [FiniteSource σ] {sizes : BufferSizes} {l l' : Lexer σ Rule} {r : Rest}

/-- A lexer that reads one byte at a time, somewhere in a text, with no more in its buffer than one
byte brings. -/
structure Short (sizes : BufferSizes) (l : Lexer σ Rule) (r : Rest) : Prop where
  place : At RuleSet.reference sizes l r
  frugal : l.Frugal
  slight : Utf8.Slight l.buffer

/-- Such a lexer with a token in front, which is plain and leaves little over. -/
structure Found (sizes : BufferSizes) (r : Rest) (l : Lexer σ Rule) (token : Token) : Prop where
  place : At RuleSet.reference sizes l r
  frugal : l.Frugal
  safe : Safe l.buffer token

/-- A read that one rule asks for leaves the token a plain one, and the rule finds a plain one
again. -/
theorem Found.fill {rule : Rule} (hrule : Cautious rule) {token : Token}
    (h : Found sizes r l token) (hhit : TokenRule.hit? rule l.buffer l.cursor = some token)
    (hall : token.literal = l.buffer) :
    ∃ k l', l.fill = (.ok k, l') ∧ Found sizes r l' token ∧
      ∃ token', TokenRule.hit? rule l'.buffer l'.cursor = some token' ∧
        Found sizes r l' token' := by
  obtain ⟨k, l₁, hfill, hat, hgrown, -⟩ := h.place.fill
  obtain ⟨hfrugal, z, hz, hslight⟩ := h.frugal.fill
  rw [hfill] at hfrugal hz
  change l₁.buffer = l.buffer ++ z at hz
  cases hbuf : l.buffer with
  | nil =>
    rw [hbuf, hit?_nil] at hhit
    cases hhit
  | cons c x =>
    rw [hbuf] at hz hhit hall
    rw [← hgrown.same.cursor] at hhit
    obtain ⟨token', hhit', hsafe⟩ := hrule c x z _ token hhit hall h.safe.1 hslight
    rw [← hz] at hhit' hsafe
    refine ⟨k, l₁, hfill, ⟨hat, hfrugal, h.safe.1, ?_⟩, token', hhit', hat, hfrugal, hsafe⟩
    rw [hz]
    exact slight_drop_append hslight (Nat.le_of_eq (congrArg List.length hall).symm)

/-- Trying a cautious rule that takes the first character of the buffer gives a plain token. -/
theorem found_of_matchRule {rule : Rule} (hrule : Cautious rule) (h : Short sizes l r) {c : Char}
    {x : Text} (hbuf : l.buffer = c :: x) {first : Token}
    (hhit : TokenRule.hit? rule [c] l.cursor = some first) (hfirst : first.literal = [c])
    (hplain : first.Plain) {n : Nat} {res : Except LexError (Option Token)}
    (hm : Lexer.matchRule rule n l = some (res, l')) :
    ∃ token, res = .ok (some token) ∧ Found sizes r l' token := by
  -- the buffer is its first character, which the rule takes in full, and one byte more
  have hx : Utf8.Slight x := h.slight.suffix ⟨[c], hbuf.symm⟩
  obtain ⟨token, htoken, hsafe⟩ := hrule c [] x _ first hhit hfirst hplain hx
  change TokenRule.hit? rule (c :: x) l.cursor = some token at htoken
  change Safe (c :: x) token at hsafe
  rw [← hbuf] at htoken hsafe
  refine Lexer.matchRule_of_invariant (P := Found sizes r) ?_ ?_ htoken
    ⟨h.place, h.frugal, hsafe⟩ hm
  · exact fun l token e hfound => ⟨hfound.place.note e, hfound.frugal.note e, hfound.safe⟩
  · exact fun l token hfound hhit hall => hfound.fill hrule hhit hall

theorem found_of_tryRules_cons {rule : Rule} (hrule : Cautious rule) (h : Short sizes l r)
    (hp : l.Primed) (hb : l.blank? = none) {c : Char} {x : Text} (hbuf : l.buffer = c :: x)
    {first : Token} (hhit : TokenRule.hit? rule [c] l.cursor = some first)
    (hfirst : first.literal = [c]) (hplain : first.Plain) {n : Nat} {rest : List Rule}
    {res : Except LexError Attempt}
    (ht : Lexer.tryRules (n + 1) l.generation (rule :: rest) l = some (res, l')) :
    ∃ token, res = .ok (.matched token) ∧ Found sizes r l' token := by
  rw [Lexer.tryRules_cons_of_primed hp hb] at ht
  cases hm : Lexer.matchRule rule (n + 1) l with
  | none =>
    rw [hm] at ht
    cases ht
  | some pair =>
    obtain ⟨res', l₁⟩ := pair
    obtain ⟨token, rfl, hfound⟩ := found_of_matchRule hrule h hbuf hhit hfirst hplain hm
    rw [hm] at ht
    cases ht
    exact ⟨token, rfl, hfound⟩

/-- A pass over the reference rules on a buffer that is not empty gives a plain token. -/
theorem found_of_tryRules (h : Short sizes l r) (hp : l.Primed) (hb : l.blank? = none)
    (hne : l.buffer ≠ []) {n : Nat} {res : Except LexError Attempt}
    (ht : Lexer.tryRules (n + 1) l.generation RuleSet.reference.rules l = some (res, l')) :
    ∃ token, res = .ok (.matched token) ∧ Found sizes r l' token := by
  obtain ⟨c, x, hbuf⟩ := List.exists_cons_of_ne_nil hne
  have hblank : WholeText.blank? RuleSet.reference ⟨c :: x, l.cursor⟩ = none := by
    rw [← hbuf, ← h.place.rules_eq]
    exact hb
  have hbreak : c ≠ '\n' := by
    rintro rfl
    exact not_mem_blanks hblank (by decide)
  -- the buffer is too short for a string
  have hquote : ¬ (c = '"' ∧ '"' ∈ x) := by
    rintro ⟨rfl, hmem⟩
    have hslight := h.slight
    rw [hbuf] at hslight
    rcases hslight with hlen | ⟨d, hd⟩
    · have hpos := List.length_pos_of_mem hmem
      rw [List.length_cons] at hlen
      omega
    · exact absurd (List.cons.inj hd).1 (by decide)
  rw [reference_eq] at ht
  -- the first character decides which rule is the one that finds something
  by_cases hl : letters.contains c = true
  · have hhit : TokenRule.hit? nameRule [c] l.cursor = some ⟨.ident, [c], [], l.cursor⟩ := by
      rw [hit?_name, if_pos hl]
      rfl
    exact found_of_tryRules_cons cautious_name h hp hb hbuf hhit rfl (Token.plain_of_ident rfl) ht
  · have hname : TokenRule.hit? nameRule l.buffer l.cursor = none := by
      rw [hbuf, hit?_name, if_neg hl]
    rw [Lexer.tryRules_cons_of_none hp hb hname] at ht
    by_cases hd : digits.contains c = true
    · have hnumber : number [c] = [c] := by
        rw [number, List.takeWhile_cons_of_pos hd, List.dropWhile_cons_of_pos hd]
        rfl
      have hhit : TokenRule.hit? numberRule [c] l.cursor = some ⟨.number, [c], [], l.cursor⟩ := by
        rw [hit?_number, if_pos hd, hnumber]
      refine found_of_tryRules_cons cautious_number h hp hb hbuf hhit rfl
        (Token.plain_of_number rfl fun hmem => ?_) ht
      obtain rfl : '.' = c := List.mem_singleton.mp hmem
      exact absurd hd (by decide)
    · have hdigits : TokenRule.hit? numberRule l.buffer l.cursor = none := by
        rw [hbuf, hit?_number, if_neg hd]
      have hstring : TokenRule.hit? stringRule l.buffer l.cursor = none := by
        rw [hbuf, hit?_string, if_neg hquote]
      have hhit : TokenRule.hit? anyRule [c] l.cursor = some ⟨.other, [c], [], l.cursor⟩ := by
        rw [hit?_any, if_neg hbreak]
      rw [Lexer.tryRules_cons_of_none hp hb hdigits,
        Lexer.tryRules_cons_of_none hp hb hstring] at ht
      exact found_of_tryRules_cons cautious_any h hp hb hbuf hhit rfl (Token.plain_of_other rfl) ht

/-- Looking for the next token finds a plain one, or else that there is none. -/
theorem Short.peekWithin (h : Short sizes l r) {rounds n : Nat} (hlen : r.text.length < rounds)
    {res : Except LexError (Option Token)}
    (hpeek : Lexer.peekWithin rounds n l = some (res, l')) :
    (∃ token, res = .ok (some token) ∧ Found sizes (stripped RuleSet.reference r) l' token) ∨
      (res = .ok none ∧ Short sizes l' (stripped RuleSet.reference r)) := by
  cases n with
  | zero => cases hpeek
  | succ n =>
    obtain ⟨m, rfl⟩ : ∃ m, rounds = m + 1 := ⟨rounds - 1, by omega⟩
    have hmark : 1 ≤ sizes.mark := Nat.le_max_right _ _
    obtain ⟨l₁, hskip, hat, hprimed, -⟩ :=
      h.place.skipWhitespace (fun q _ => steadyBlanks_reference hmark q) hlen
    obtain ⟨hfrugal, hslight⟩ := h.frugal.skips h.slight (Lexer.skips_skipWhitespace hskip)
    have hshort : Short sizes l₁ (stripped RuleSet.reference r) := ⟨hat, hfrugal, hslight⟩
    have hblank : l₁.blank? = none :=
      (hat.blank?_eq hprimed (steadyBlanks_reference hmark _)).trans (WholeText.blank?_stripped r)
    rw [Lexer.peekWithin_succ, hskip] at hpeek
    simp only at hpeek
    rw [hat.rules_eq] at hpeek
    by_cases hnil : l₁.buffer = []
    · -- no rule finds anything in an empty buffer, and nothing is read
      right
      have htry : Lexer.tryRules (m + 1) l₁.generation RuleSet.reference.rules l₁ =
          some (.ok .noMatch, l₁) := by
        refine Lexer.tryRules_of_forall_none hprimed hblank fun rule _ => ?_
        rw [hnil]
        exact hit?_nil rule _
      rw [htry] at hpeek
      simp only at hpeek
      rw [Lexer.noToken, hnil, List.isEmpty_nil, if_pos rfl] at hpeek
      cases hpeek
      exact ⟨rfl, hshort⟩
    · left
      cases ht : Lexer.tryRules (m + 1) l₁.generation RuleSet.reference.rules l₁ with
      | none =>
        rw [ht] at hpeek
        cases hpeek
      | some pair =>
        obtain ⟨attempt, l₂⟩ := pair
        obtain ⟨token, rfl, hfound⟩ := found_of_tryRules hshort hprimed hblank hnil ht
        rw [ht] at hpeek
        cases hpeek
        exact ⟨token, rfl, hfound⟩

/-- **A scan finds no other than plain tokens**, and the next one again. -/
theorem Short.scan (h : Short sizes l r) {answer : Except LexError (Option Token)}
    (hscan : Lexer.scan l = some (answer, l')) :
    (∀ token, answer = .ok (some token) → token.Plain) ∧ ∃ r', Short sizes l' r' := by
  rw [Lexer.scan_eq, Lexer.scanWithin_eq] at hscan
  cases hpeek : Lexer.peekWithin l.rounds l.rounds l with
  | none =>
    rw [hpeek] at hscan
    cases hscan
  | some pair =>
    obtain ⟨res, l₁⟩ := pair
    have hfront := (Lexer.moves_peekWithin hpeek).2
    rcases h.peekWithin h.place.faces.length_lt_rounds hpeek with
      ⟨token, rfl, hfound⟩ | ⟨rfl, hshort⟩
    · -- what is left in the buffer behind the token is what makes the next scan start short again
      rw [hpeek] at hscan
      cases hscan
      refine ⟨fun token' heq => ?_, _, (hfound.place.consume (hfront token rfl)).note _,
        (hfound.frugal.consume _).note _, hfound.safe.2⟩
      cases heq
      exact hfound.safe.1
    · rw [hpeek] at hscan
      cases hscan
      exact ⟨fun token heq => (by cases heq), _, hshort⟩

/-- Nor do any number of scans. -/
theorem Short.scans (h : Short sizes l r) {n : Nat}
    {answers : List (Except LexError (Option Token))}
    (hscans : Lexer.scans n l = some answers) {token : Token}
    (hmem : .ok (some token) ∈ answers) : token.Plain := by
  induction n generalizing l r answers with
  | zero =>
    cases hscans
    cases hmem
  | succ n ih =>
    rw [Lexer.scans] at hscans
    cases hscan : Lexer.scan l with
    | none =>
      rw [hscan] at hscans
      cases hscans
    | some pair =>
      obtain ⟨answer, l₁⟩ := pair
      rw [hscan] at hscans
      obtain ⟨rest, hrest, rfl⟩ := Option.map_eq_some_iff.mp hscans
      obtain ⟨hplain, r', hshort⟩ := h.scan hscan
      rcases List.mem_cons.mp hmem with heq | hlater
      · exact hplain token heq.symm
      · exact ih hshort hrest hlater

/-! ### All texts -/

/-- A lexer that reads one byte at a time finds plain tokens only, whatever the text is. -/
theorem plain_of_scans {source : σ} {bytes : List UInt8} (hd : Delivers 1 source bytes) {n : Nat}
    {answers : List (Except LexError (Option Token))}
    (hscans : Lexer.scans n (Lexer.create source RuleSet.reference ⟨1, 1⟩) = some answers)
    {token : Token} (hmem : .ok (some token) ∈ answers) : token.Plain := by
  have hshort : Short ⟨1, 1⟩ (Lexer.create source RuleSet.reference ⟨1, 1⟩)
      ⟨Utf8.lossy bytes, .start⟩ :=
    ⟨⟨Lexer.faces_create _ hd, rfl, rfl, rfl⟩, ⟨rfl, rfl, Utf8.sound_none⟩, Or.inl (Nat.zero_le 1)⟩
  exact hshort.scans hscans hmem

/-- **The tokens of a text do not depend on how it is buffered** if and only if all of them are
plain. If they are, every lexer gives the tokens of the whole text, however the bytes are cut into
reads and whatever its sizes are. If one is a string or has a fraction, a lexer that reads one byte
at a time does not give it. -/
theorem scans_reference_iff (bytes : List UInt8) :
    (∀ (σ : Type) [FiniteSource σ] (source : σ) (sizes : BufferSizes),
      Delivers sizes.effectiveChunk source bytes → ∀ n,
        Lexer.scans n (Lexer.create source RuleSet.reference sizes) =
          some ((List.range n).map
            (WholeText.answer (WholeText.tokens RuleSet.reference (Utf8.lossy bytes))))) ↔
      ∀ token ∈ (WholeText.tokens RuleSet.reference (Utf8.lossy bytes)).1, token.Plain := by
  constructor
  · intro h token hmem
    obtain ⟨n, hn⟩ := WholeText.exists_mem_results_iff.mpr hmem
    rw [WholeText.results_eq] at hn
    -- bytes that come one by one
    have hd : Delivers 1 (⟨(bytes.map fun b => [b]).map .data⟩ : Script) bytes := by
      have hparts := Script.delivers_data Nat.one_pos (bytes.map fun b => [b]) (by simp)
      rwa [← List.flatMap_def, List.flatMap_singleton'] at hparts
    exact plain_of_scans hd (h Script _ ⟨1, 1⟩ hd n) hn
  · intro hplain σ _ source sizes hd n
    have hat : At RuleSet.reference sizes (Lexer.create source RuleSet.reference sizes)
        ⟨Utf8.lossy bytes, .start⟩ :=
      ⟨Lexer.faces_create _ hd, rfl, rfl, rfl⟩
    rw [← WholeText.results_eq]
    refine scans_eq_results_of_plain hat (fun m token hmem => hplain token ?_) n
    exact WholeText.exists_mem_results_iff.mp ⟨m, hmem⟩

/-- A number with a fraction is one token if all of it is in the buffer, and three if one byte is
read at a time. -/
theorem scans_reference_fraction :
    let source : Script := ⟨[.data [0x33, 0x2E, 0x35]]⟩
    Lexer.scans 3 (Lexer.create source RuleSet.reference) =
        some [.ok (some ⟨.number, ['3', '.', '5'], [], ⟨0, 0, 0⟩⟩), .ok none, .ok none] ∧
      Lexer.scans 3 (Lexer.create source RuleSet.reference ⟨1, 1⟩) =
        some [.ok (some ⟨.number, ['3'], [], ⟨0, 0, 0⟩⟩),
          .ok (some ⟨.other, ['.'], [], ⟨0, 1, 1⟩⟩),
          .ok (some ⟨.number, ['5'], [], ⟨0, 2, 2⟩⟩)] := by
  decide +kernel

end RuleLexer.Reference
