import RuleLexer.Proofs.Lexer.Coverage

/-!
# The token that is returned

A token is found deep inside the loops of a lexer, which may go on reading before it is returned,
and another operation consumes it. So it has to be said what the token is to the buffer as it stands
when the caller gets it.

* `hit_or_outrun_of_matchRule`: a rule that takes all of the buffer is asked again after every read
  that brings bytes, so its last answer is its answer on the buffer. The one exception is a token
  that is `Outrun`: the read that ends the input brings no bytes, but it may bring a character for
  the bytes that were waiting.
* `found_or_outrun_of_peekWithin`, `peek_outrun`: the same for looking for a token, and a run in
  which the exception makes a difference.
* `scanWithin_eq_skipLiteral`: the token stands at the front of the buffer and at the cursor, so
  that scanning is looking for a token and skipping its literal.
-/

namespace RuleLexer.Lexer

variable {σ ρ : Type}

/-! ### What the end of the input can add -/

section Outrun

variable [ByteSource σ]

/-- A read without bytes leaves the buffer as it is, unless it ends the input while bytes of a
character are waiting. -/
theorem fill_zero_cases {l l' : Lexer σ ρ} (h : l.fill = (.ok 0, l')) :
    l'.buffer = l.buffer ∨ l.pending.isEmpty = false ∧ l'.exhausted = true ∧
      l'.buffer = l.buffer ++ [Utf8.replacement] := by
  rcases fill_eq_ok h with ⟨-, -, rfl⟩ | ⟨he, status, journal, -, hk, rfl⟩
  · exact Or.inl rfl
  · have hnone : l.asked.counted status = [] := List.length_eq_zero_iff.mp hk.symm
    have hbrought : l.asked.brought status =
        if status.exhausted then Utf8.text (Utf8.finish l.pending) else [] := by
      rw [brought_asked he, hnone]
      rfl
    show l.buffer ++ _ = _ ∨ _ ∧ status.exhausted = true ∧ l.buffer ++ _ = _
    rw [hbrought, Utf8.finish]
    cases status.exhausted with
    | false => exact Or.inl (List.append_nil _)
    | true =>
      cases l.pending.isEmpty with
      | true => exact Or.inl (List.append_nil _)
      | false => exact Or.inr ⟨rfl, rfl, rfl⟩

variable [TokenRule ρ]

/-- A token that the end of the input has outrun. The rule took all of the buffer, so one more read
was made. It brought no bytes but the end of the input, and the bytes of a character that were
waiting have become a character behind the token, which the rule was not shown. -/
structure Outrun (rule : ρ) (token : Token) (l l' : Lexer σ ρ) : Prop where
  hit : TokenRule.hit? rule l.buffer l.cursor = some token
  took_all : token.literal = l.buffer
  waiting : l.pending.isEmpty = false
  read : l.fill = (.ok 0, l')
  ended : l'.exhausted = true
  buffer : l'.buffer = token.literal ++ [Utf8.replacement]

/-- **What a rule gives is what it finds in the buffer**, or else the end of the input has outrun
it. -/
theorem hit_or_outrun_of_matchRule {rule : ρ} {n : Nat} {token : Token} {l l' : Lexer σ ρ}
    (h : matchRule rule n l = some (.ok (some token), l')) :
    TokenRule.hit? rule l'.buffer l'.cursor = some token ∨
      ∃ l₁, Refills l l₁ ∧ Outrun rule token l₁ l' := by
  induction n generalizing l with
  | zero => cases h
  | succ n ih =>
    rw [matchRule_succ] at h
    split at h
    · cases h
    · next first hfirst =>
      split at h
      · cases h
        exact Or.inl hfirst
      · next hcond =>
        have hall : first.literal = l.buffer := literal_eq_buffer hfirst hcond
        split at h
        · cases h
        · next k l₁ hf =>
          split at h
          · next hk =>
            -- the match stands although the read may have brought a character
            cases h
            rw [hk] at hf
            rcases fill_zero_cases hf with hsame | ⟨hwaiting, hended, hbuffer⟩
            · have hplace := (samePlace_fill l).1
              rw [hf] at hplace
              rw [hsame, hplace.cursor]
              exact Or.inl hfirst
            · rw [← hall] at hbuffer
              exact Or.inr ⟨l, .refl, hfirst, hall, hwaiting, hf, hended, hbuffer⟩
          · have hread : Refills l l.fill.2 := .single (.read l)
            rw [hf] at hread
            rcases ih h with hhit | ⟨l₂, hrefills, houtrun⟩
            · exact Or.inl hhit
            · exact Or.inr ⟨l₂, (hread.tail (.note l₁ _)).trans hrefills, houtrun⟩

/-- **A token that is returned is not stale.** Some rule finds it in the buffer, at the cursor, as
they stand when it is returned. The only token for which this may fail is one that the end of the
input has outrun: in the pass that found it, the rule had taken all of the buffer, and the read that
ended the input, without bytes, made a character of those that were waiting. -/
theorem found_or_outrun_of_peekWithin {rounds n : Nat} {token : Token} {l l' : Lexer σ ρ}
    (h : peekWithin rounds n l = some (.ok (some token), l')) :
    ∃ rule ∈ l'.rules.rules, TokenRule.find? rule l'.buffer l'.cursor = some token ∨
      ∃ start last, PassStart l start ∧ Refills start last ∧ Outrun rule token last l' := by
  rcases peekWithin_cases h with ⟨e, he, -⟩ | ⟨start, token', hstart, hpass, htoken⟩ |
    ⟨l₁, l₂, -, -, hno⟩
  · cases he
  · cases htoken
    cases hpass with
    | @matched l₁ _ before after rule _ m hrules _ hstill hmatch =>
      have hmem : rule ∈ l'.rules.rules := by
        rw [(moves_peekWithin h).1.rules_eq, ← hstart.moves.rules_eq, hrules]
        exact List.mem_append_right _ (List.mem_cons_self ..)
      refine ⟨rule, hmem, ?_⟩
      rcases hit_or_outrun_of_matchRule hmatch with hhit | ⟨last, hrefills, houtrun⟩
      · exact Or.inl (Option.filter_eq_some_iff.mp hhit).1
      · exact Or.inr ⟨start, last, hstart, hstill.refills.trans hrefills, houtrun⟩
  · unfold noToken at hno
    split at hno <;> cases hno

end Outrun

/-- A rule for everything but spaces, used below: what it finds grows with every character. -/
def graphicRule : Rule :=
  .pattern ⟨1⟩ "^(?:[^ ]+)".toList
    (.ofRegex (.seq (.look .textStart) (.repetition 1 none true (.set ⟨[(0, 31), (33, 1114111)]⟩))))

/-- A letter and the two bytes of another one come one by one. The read in the middle brings a byte
but no text, and the match is not returned before the last byte has come. -/
theorem found_or_outrun_of_peekWithin_cut :
    let source : Script := ⟨[.data [0x61], .data [0xC3], .data [0xA9]]⟩
    let token : Token := ⟨⟨1⟩, ['a', 'é'], [], .start⟩
    ∃ l', peekWithin 20 20 (create source ⟨none, [graphicRule]⟩ ⟨1, 1⟩) =
        some (.ok (some token), l') ∧
      ∃ rule ∈ l'.rules.rules, TokenRule.find? rule l'.buffer l'.cursor = some token := by
  intro source token
  have hrun : (peekWithin 20 20 (create source ⟨none, [graphicRule]⟩ ⟨1, 1⟩)).map
      (fun p => (p.1.toOption, p.2.buffer)) = some (some (some token), ['a', 'é']) := by
    decide +kernel
  obtain ⟨l', hpeek, hbuffer⟩ := LexM.exists_of_map_eq_some Lexer.buffer hrun
  obtain ⟨rule, hrule, hfind | ⟨start, last, -, -, houtrun⟩⟩ := found_or_outrun_of_peekWithin hpeek
  · exact ⟨l', hpeek, rule, hrule, hfind⟩
  · -- there is nothing behind the token
    have hlonger := houtrun.buffer
    rw [show l'.buffer = token.literal from hbuffer, List.self_eq_append_right] at hlonger
    cases hlonger

/-- A letter and the first byte of another one come one by one, and then the input ends. The rule is
asked for the last time when the buffer holds the letter only. The end of the input makes a second
character of the byte, and what is returned is not what any rule finds in the buffer. -/
theorem peek_outrun :
    let source : Script := ⟨[.data [0x61], .data [0xC3]]⟩
    Rule.ofPattern ⟨1⟩ "[^ ]+".toList = .ok graphicRule ∧
      ∃ l', peek (create source ⟨none, [graphicRule]⟩ ⟨1, 1⟩) =
          some (.ok (some ⟨⟨1⟩, ['a'], [], .start⟩), l') ∧
        ∀ rule ∈ l'.rules.rules, TokenRule.find? rule l'.buffer l'.cursor =
          some ⟨⟨1⟩, ['a', Utf8.replacement], [], .start⟩ := by
  intro source
  constructor
  · have hparse : Regex.parse? (Rule.anchor "[^ ]+".toList) = some (.seq (.look .textStart)
        (.repetition 1 none true (.set ⟨[(0, 31), (33, 1114111)]⟩))) := by
      decide +kernel
    rw [Rule.ofPattern, hparse]
    rfl
  · let finds (l : Lexer Script Rule) : List (Option Token) :=
      l.rules.rules.map fun rule => TokenRule.find? rule l.buffer l.cursor
    have hrun : (peek (create source ⟨none, [graphicRule]⟩ ⟨1, 1⟩)).map
        (fun p => (p.1.toOption, finds p.2)) =
        some (some (some ⟨⟨1⟩, ['a'], [], .start⟩),
          [some ⟨⟨1⟩, ['a', Utf8.replacement], [], .start⟩]) := by
      decide +kernel
    obtain ⟨l', hpeek, hfinds⟩ := LexM.exists_of_map_eq_some finds hrun
    refine ⟨l', hpeek, ?_⟩
    intro rule hrule
    have hmem : TokenRule.find? rule l'.buffer l'.cursor ∈ finds l' := List.mem_map_of_mem hrule
    rw [hfinds] at hmem
    exact List.mem_singleton.mp hmem

/-! ### Looking and taking -/

/-- **Scanning is looking for a token and skipping its literal.** A scan gives what looking for a
token gives. If that is a token, its literal is not empty and stands at the front of the buffer, its
position is the cursor, and skipping the literal succeeds; it leaves the lexer as the scan does, but
for what was noted, and the cursor at the end of the token. Without a token, a scan leaves the lexer
as the look does. -/
theorem scanWithin_eq_skipLiteral [ByteSource σ] (rounds : Nat) (l : Lexer σ Rule) :
    match peekWithin rounds rounds l with
    | none => scanWithin rounds l = none
    | some (.ok (some token), l₁) =>
      token.literal ≠ [] ∧ token.literal <+: l₁.buffer ∧ token.position = l₁.cursor ∧
        ∃ l₂ journal, l₁.skipLiteral token.literal = (true, l₂) ∧
          scanWithin rounds l = some (.ok (some token), { l₂ with journal }) ∧
          l₂.cursor = token.stop
    | some (res, l₁) => scanWithin rounds l = some (res, l₁) := by
  rw [scanWithin_eq]
  rcases hpeek : peekWithin rounds rounds l with _ | ⟨e | _ | token, l₁⟩
  · rfl
  · rfl
  · rfl
  · obtain ⟨hne, rest, hrest⟩ := (moves_peekWithin hpeek).2 token rfl
    obtain ⟨rule, -, seen, last, -, -, hhit⟩ := exists_hit_of_peekWithin hpeek
    have hposition : token.position = l₁.cursor := Rule.position_of_hit? hhit
    refine ⟨hne, ⟨rest, hrest.symm⟩, hposition, _, _, skipLiteral_of_append l₁ hne hrest, rfl, ?_⟩
    -- both are the place behind the literal, seen from where it starts
    show l₁.cursor.advanced token.literal = token.position.advanced token.literal
    rw [hposition]

end RuleLexer.Lexer
