import RuleLexer.Proofs.Lexer.Passes

/-!
# Which rule gives the token

Of two rules that find a token in the buffer, the earlier one should give it. The rules before the
one that gives the token have missed, but what they have missed on is the buffer with which the pass
began. If the match of a rule takes all of that buffer, the rule reads on by itself, and what it
reads is not shown to the rules before it.

* `exists_chosen_of_peekWithin`: every earlier rule has missed on the buffer up to what the rule
  itself has read, and it has read only if it took all of the buffer.
* `peek_overtaken`: so a rule that needs the text that came last is overtaken by a later one, and a
  second look at the same buffer finds the other token.
-/

namespace RuleLexer.Lexer

variable {σ ρ : Type}

/-- A token that some rule has given, and what the rules before it were judged on: the buffer as it
was at the start of the pass, without what came while the rule itself was asked. -/
structure Chosen [TokenRule ρ] (l : Lexer σ ρ) (token : Token) (i : Nat) (rule : ρ)
    (start more last : Text) : Prop where
  rule_eq : l.rules.rules[i]? = some rule
  buffer_eq : l.buffer = start ++ more ++ last
  /-- No earlier rule finds anything in what the buffer held at the start of the pass. -/
  missed : ∀ j < i, ∀ earlier, l.rules.rules[j]? = some earlier →
    TokenRule.hit? earlier start l.cursor = none
  hit : TokenRule.hit? rule (start ++ more) l.cursor = some token
  /-- The end of the input may have made a character of an unfinished one. -/
  last_eq : last = [] ∨ last = [Utf8.replacement]
  /-- Text has come only if the rule took all that the buffer held. -/
  took_all : more ++ last ≠ [] → ∃ first, TokenRule.hit? rule start l.cursor = some first ∧
    first.literal = start

variable [ByteSource σ] [TokenRule ρ]

/-- **The rules before the one that gives the token have missed** on what the buffer held when the
pass began. If nothing has come since then, that is the buffer, and no earlier rule finds anything
in it. -/
theorem exists_chosen_of_peekWithin {rounds n : Nat} {l l' : Lexer σ ρ} {token : Token}
    (h : peekWithin rounds n l = some (.ok (some token), l')) :
    ∃ i rule start more last, Chosen l' token i rule start more last := by
  rcases peekWithin_cases h with ⟨e, he, -⟩ | ⟨l₁, token', -, hpass, htoken⟩ | ⟨l₁, l₂, -, -, hno⟩
  · cases he
  · cases htoken
    cases hpass with
    | @matched l₂ _ before after rule _ m hrules hmiss hstill hmatch =>
      obtain ⟨first, l₃, hfirst, hall, hrefills, hsettled⟩ := settled_of_matchRule hmatch
      obtain ⟨hsame, more, hmore⟩ := hrefills.append
      -- what came last, if anything, came without bytes
      obtain ⟨hsame', last, hlast, hchar⟩ := hsettled.append
      have hplace : l₁.SamePlace l' := (hstill.same.trans hsame).trans hsame'
      have hbuffer : l'.buffer = l₁.buffer ++ more ++ last := by
        rw [hlast, hmore, hstill.buffer]
      refine ⟨before.length, rule, l₁.buffer, more, last, ?_, hbuffer, ?_, ?_, hchar, ?_⟩
      · rw [hplace.rules, hrules]
        simp
      · intro j hj earlier hearlier
        have hmem : earlier ∈ before := by
          rw [hplace.rules, hrules, List.getElem?_append_left hj] at hearlier
          exact List.mem_of_getElem? hearlier
        rw [hplace.cursor]
        exact hmiss earlier hmem
      · have hhit := hsettled.hit
        rwa [hmore, hstill.buffer, ← hsame'.cursor] at hhit
      · intro hne
        refine ⟨first, ?_, ?_⟩
        · rwa [hplace.cursor, ← hstill.buffer, ← hstill.same.cursor]
        · rcases hall with hall | rfl
          · rw [hall, hstill.buffer]
          · -- without a read there is nothing behind the start
            rw [hstill.buffer, List.append_assoc, List.self_eq_append_right] at hbuffer
            exact absurd hbuffer hne
  · exfalso
    unfold noToken at hno
    split at hno <;> cases hno

/-- A string of which the second half comes between two rules: the pass is made again, and the
string is found before its quote is taken for a character. -/
theorem exists_chosen_of_peekWithin_stalls :
    let source : Script :=
      ⟨[.data [0x22, 0x61], .pending, .pending, .pending, .data [0x62, 0x22]]⟩
    let token : Token := ⟨.string, ['"', 'a', 'b', '"'], [['a', 'b']], .start⟩
    ∃ l', peekWithin 20 20 (create source RuleSet.reference) = some (.ok (some token), l') ∧
      l'.buffer = ['"', 'a', 'b', '"'] ∧
      ∃ i rule start more last, Chosen l' token i rule start more last := by
  intro source token
  have h : (peekWithin 20 20 (create source RuleSet.reference)).map
      (fun p => (p.1.toOption, p.2.buffer)) =
      some (some (some token), ['"', 'a', 'b', '"']) := by decide +kernel
  obtain ⟨⟨res, l'⟩, hpeek, hres⟩ := Option.map_eq_some_iff.mp h
  obtain ⟨htoken, hbuffer⟩ := Prod.mk.inj hres
  cases res with
  | error e => cases htoken
  | ok a =>
    cases Option.some.inj htoken
    exact ⟨l', hpeek, hbuffer, exists_chosen_of_peekWithin hpeek⟩

/-- A rule for two letters and, behind it, one for any number of letters, which come one at a time.
The later rule takes the first letter, reads the second one and gives both, though the earlier rule
now finds them too. Scanning the same buffer gives the token of the earlier rule. -/
theorem peek_overtaken :
    let source : Script := ⟨[.data [0x61], .data [0x62]]⟩
    let pair : Rule := .literals ⟨1⟩ [['a', 'b']]
    let letters : Rule := .pattern ⟨2⟩ "^(?:[a-z]+)".toList
      (.ofRegex (.seq (.look .textStart) (.repetition 1 none true (.set ⟨[(97, 122)]⟩))))
    Rule.ofPattern ⟨2⟩ "[a-z]+".toList = .ok letters ∧
      ∃ l', peek (create source ⟨none, [pair, letters]⟩ ⟨1, 1⟩) =
          some (.ok (some ⟨⟨2⟩, ['a', 'b'], [], .start⟩), l') ∧
        TokenRule.hit? pair l'.buffer l'.cursor = some ⟨⟨1⟩, ['a', 'b'], [], .start⟩ ∧
        ∃ l'', scan l' = some (.ok (some ⟨⟨1⟩, ['a', 'b'], [], .start⟩), l'') := by
  intro source pair letters
  constructor
  · have hparse : Regex.parse? (Rule.anchor "[a-z]+".toList) =
        some (.seq (.look .textStart) (.repetition 1 none true (.set ⟨[(97, 122)]⟩))) := by
      decide +kernel
    rw [Rule.ofPattern, hparse]
    rfl
  · -- the run is evaluated up to what the statement says about it
    have h : (peek (create source ⟨none, [pair, letters]⟩ ⟨1, 1⟩)).map
        (fun p => (p.1.toOption, TokenRule.hit? pair p.2.buffer p.2.cursor,
          (scan p.2).map fun q => q.1.toOption)) =
        some (some (some ⟨⟨2⟩, ['a', 'b'], [], .start⟩), some ⟨⟨1⟩, ['a', 'b'], [], .start⟩,
          some (some (some ⟨⟨1⟩, ['a', 'b'], [], .start⟩))) := by
      decide +kernel
    obtain ⟨⟨res, l'⟩, hpeek, hres⟩ := Option.map_eq_some_iff.mp h
    obtain ⟨htoken, hrest⟩ := Prod.mk.inj hres
    obtain ⟨hhit, hscan⟩ := Prod.mk.inj hrest
    obtain ⟨⟨res', l''⟩, hscan', hres'⟩ := Option.map_eq_some_iff.mp hscan
    cases res with
    | error e => cases htoken
    | ok a =>
      cases Option.some.inj htoken
      cases res' with
      | error e => cases hres'
      | ok b =>
        cases Option.some.inj hres'
        exact ⟨l', hpeek, hhit, l'', hscan'⟩

end RuleLexer.Lexer
