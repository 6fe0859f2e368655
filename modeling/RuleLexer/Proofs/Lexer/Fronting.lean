import RuleLexer.Proofs.Lexer.Passes
import RuleLexer.Proofs.Regex.Anchored
import RuleLexer.Proofs.Regex.Wrapping
import RuleLexer.Source.Script

/-!
# Matches at the front

A rule is asked for the token that a text starts with. For a pattern, that is the preferred match
from the front on, and a match further back must not be reported in its place. Patterns are held at
the front by an anchor, and the anchor is put there as text, so it holds what the text around it
makes of it. It holds every pattern that can be read alone and gets the anchor with a group around
it. A pattern that brings its own anchor is taken as it is, and so it has to ask for the start of
the text on every way through it; in `^a|b`, the anchor belongs to the first branch only.

* `Rule.heldAtFront`: the patterns that the anchor holds.
* `Rule.find?_eq_frontToken?`: rules of such patterns find what the text starts with, and no more.
* `found_at_front`: so do all tokens that a lexer gives for such rules.
* `found_behind_front`: for other patterns, text that was found behind the front can pass for text
  at the front.
-/

namespace RuleLexer

namespace Rule

/-! ### Patterns and their anchors -/

/-- A pattern that is held at the front: it can be read alone and gets its anchor with a group
around it, or its anchored text asks for the start of the text on every way. -/
def heldAtFront (pattern : Text) : Bool :=
  (!ownAnchor pattern && (Regex.parse? pattern).isSome) ||
    (Regex.parse? (anchor pattern)).any Regex.anchored

theorem anchored_of_heldAtFront {pattern : Text} {r : Regex} (h : heldAtFront pattern = true)
    (hr : Regex.parse? (anchor pattern) = some r) : r.anchored = true := by
  rcases Bool.or_eq_true_iff.mp h with hwrapped | hasked
  · obtain ⟨hown, hsome⟩ := Bool.and_eq_true_iff.mp hwrapped
    obtain ⟨alone, halone⟩ := Option.isSome_iff_exists.mp hsome
    rw [Regex.parse?_anchor halone (Bool.not_eq_true' _ ▸ hown) hr]
    exact Regex.anchored_concat_textStart alone
  · rw [hr] at hasked
    exact hasked

theorem ofPattern_eq_ok {id : TokenId} {pattern : Text} {rule : Rule}
    (h : ofPattern id pattern = .ok rule) :
    ∃ r, Regex.parse? (anchor pattern) = some r ∧
      rule = .pattern id (anchor pattern) (.ofRegex r) := by
  unfold ofPattern at h
  split at h
  · next r hr => exact ⟨r, hr, (Except.ok.inj h).symm⟩
  · cases h

theorem ofPattern_of_toOption {id : TokenId} {pattern : Text} {rule : Rule}
    (h : (ofPattern id pattern).toOption = some rule) : ofPattern id pattern = .ok rule := by
  cases hof : ofPattern id pattern with
  | error e =>
    rw [hof] at h
    cases h
  | ok rule' =>
    rw [hof] at h
    cases h
    rfl

/-! ### The token at the front -/

/-- The token that a text starts with: the first literal that fits, or what the pattern prefers to
match from the front on. -/
def frontToken? (rule : Rule) (input : Text) (position : Position) : Option Token :=
  match rule with
  | .literals .. => rule.find? input position
  | .pattern id _ m =>
    (m.matchAt input.length (.ofText input)).map fun trace =>
      ⟨id, input.take trace.stop, m.groupTexts input trace.captures, position⟩

/-- **A pattern that is held at the front finds what the text starts with**, and no more. -/
theorem find?_eq_frontToken? {id : TokenId} {pattern : Text} {rule : Rule}
    (h : ofPattern id pattern = .ok rule) (hheld : heldAtFront pattern = true) (input : Text)
    (position : Position) : rule.find? input position = rule.frontToken? input position := by
  obtain ⟨r, hr, rfl⟩ := ofPattern_eq_ok h
  have hanchored : r.anchored = true := anchored_of_heldAtFront hheld hr
  show ((Matcher.ofRegex r).find? input).map _ = _
  rw [Matcher.find?_of_anchored hanchored, Option.map_map]
  rfl

theorem literal_isPrefix_of_pattern {id : TokenId} {source : Text} {m : Matcher} {input : Text}
    {position : Position} {token : Token}
    (h : (Rule.pattern id source m).frontToken? input position = some token) :
    token.literal <+: input := by
  obtain ⟨trace, -, rfl⟩ := Option.map_eq_some_iff.mp h
  exact List.take_prefix _ _

end Rule

/-! ### Tokens of a lexer -/

namespace Lexer

/-- A token that one of the rules finds at the front of a buffer. The rule has seen all of the
buffer but a character that the end of the input may have made of an unfinished one. If the rule is
made of a pattern that is held at the front, the token is what that pattern matches there, with its
groups, and not another piece of text with the same characters. -/
def FoundAtFront (rules : List Rule) (buffer : Text) (cursor : Position) (token : Token) : Prop :=
  ∃ rule ∈ rules, ∃ seen last, buffer = seen ++ last ∧ (last = [] ∨ last = [Utf8.replacement]) ∧
    TokenRule.hit? rule seen cursor = some token ∧
    ∀ id pattern, Rule.ofPattern id pattern = .ok rule → Rule.heldAtFront pattern = true →
      rule.frontToken? seen cursor = some token

variable {σ : Type} [ByteSource σ]

theorem foundAtFront_of_peekWithin {l l' : Lexer σ Rule} {rounds n : Nat} {token : Token}
    (h : peekWithin rounds n l = some (.ok (some token), l')) :
    FoundAtFront l'.rules.rules l'.buffer l'.cursor token := by
  obtain ⟨rule, hrule, seen, last, hbuffer, hlast, hhit⟩ := exists_hit_of_peekWithin h
  refine ⟨rule, hrule, seen, last, hbuffer, hlast, hhit, ?_⟩
  intro id pattern hof hheld
  rw [← Rule.find?_eq_frontToken? hof hheld]
  exact (Option.filter_eq_some_iff.mp hhit).1

/-- **Patterns that are held at the front match there and nowhere else.** The first match in any
text, looked for at one place after the other, starts at its front; the rule finds exactly what the
pattern matches from the front on, a start of the text; and so does a lexer, whether it is asked to
peek or to scan, whatever its source and its other rules are. -/
theorem found_at_front :
    (∀ id pattern source m, Rule.ofPattern id pattern = .ok (.pattern id source m) →
      Rule.heldAtFront pattern = true → ∀ input : Text,
        (∀ start trace, m.searchFrom input.length 0 none input = some (start, trace) → start = 0) ∧
        ∀ position, (Rule.pattern id source m).find? input position =
            (Rule.pattern id source m).frontToken? input position ∧
          ∀ token, (Rule.pattern id source m).find? input position = some token →
            token.literal <+: input) ∧
    ∀ (l l' : Lexer σ Rule) (rounds : Nat) (token : Token),
      (∀ n, peekWithin rounds n l = some (.ok (some token), l') →
        FoundAtFront l'.rules.rules l'.buffer l'.cursor token) ∧
      (scanWithin rounds l = some (.ok (some token), l') →
        ∃ l₁ : Lexer σ Rule, FoundAtFront l₁.rules.rules l₁.buffer l₁.cursor token ∧
          l' = (l₁.consume token.literal).note (.produced token)) := by
  refine ⟨?_, fun l l' rounds token => ⟨fun n => foundAtFront_of_peekWithin, fun hscan => ?_⟩⟩
  · intro id pattern source m hof hheld input
    constructor
    · intro start trace hsearch
      obtain ⟨r, hr, hrule⟩ := Rule.ofPattern_eq_ok hof
      cases hrule
      exact (Matcher.start_of_anchored (Rule.anchored_of_heldAtFront hheld hr) hsearch).1
    · intro position
      have hfront := Rule.find?_eq_frontToken? hof hheld input position
      refine ⟨hfront, fun token hfind => ?_⟩
      rw [hfront] at hfind
      exact Rule.literal_isPrefix_of_pattern hfind
  · obtain ⟨l₁, hpeek, rfl⟩ := exists_peekWithin_of_scanWithin hscan
    exact ⟨l₁, foundAtFront_of_peekWithin hpeek, rfl⟩

/-- A pattern of two branches, one of them with a group: the anchor that is put before it holds both
branches, and a lexer gives what the second one matches. -/
theorem found_at_front_branches :
    let pattern := "b|(a)c".toList
    let m := Matcher.ofRegex (.seq (.look .textStart) (.alt (.set ⟨[(98, 98)]⟩)
      (.seq (.group 1 (.set ⟨[(97, 97)]⟩)) (.set ⟨[(99, 99)]⟩))))
    let rule := Rule.pattern ⟨5⟩ "^(?:b|(a)c)".toList m
    let token : Token := ⟨⟨5⟩, ['a', 'c'], [['a']], .start⟩
    let source : Script := ⟨[.data [0x61, 0x63, 0x62]]⟩
    Rule.ofPattern ⟨5⟩ pattern = .ok rule ∧ Rule.heldAtFront pattern = true ∧
      (∀ start trace, m.searchFrom 3 0 none ['a', 'c', 'b'] = some (start, trace) → start = 0) ∧
      rule.frontToken? ['a', 'c', 'b'] .start = some token ∧ ['a', 'c'] <+: ['a', 'c', 'b'] ∧
      ∃ l', peekWithin 8 8 (create source ⟨none, [rule]⟩ ⟨1, 4⟩) =
          some (.ok (some token), l') ∧
        FoundAtFront l'.rules.rules l'.buffer l'.cursor token := by
  intro pattern m rule token source
  have hparse : Regex.parse? (Rule.anchor pattern) = some m.regex := by decide +kernel
  have hof : Rule.ofPattern ⟨5⟩ pattern = .ok rule := by
    rw [Rule.ofPattern, hparse]
    rfl
  have hheld : Rule.heldAtFront pattern = true := by decide +kernel
  have hfind : rule.find? ['a', 'c', 'b'] .start = some token := by decide +kernel
  have hpeek : ((peekWithin 8 8 (create source ⟨none, [rule]⟩ ⟨1, 4⟩)).map
      fun p => p.1.toOption) = some (some (some token)) := by decide +kernel
  obtain ⟨⟨res, l'⟩, hpeek, hres⟩ := Option.map_eq_some_iff.mp hpeek
  obtain ⟨hrules, hlexers⟩ := found_at_front (σ := Script)
  obtain ⟨hstart, htokens⟩ := hrules ⟨5⟩ pattern _ m hof hheld ['a', 'c', 'b']
  obtain ⟨hfront, hprefix⟩ := htokens .start
  cases res with
  | error e => cases hres
  | ok answer =>
    cases Option.some.inj hres
    exact ⟨hof, hheld, hstart, hfront.symm.trans hfind, hprefix token hfind, l', hpeek,
      (hlexers _ l' _ token).1 _ hpeek⟩

/-- The anchor of this pattern belongs to its first branch, and the second branch asks for the end
of the text. The rule finds a letter behind the front, of a text that does not start with it. Where
the text starts with the same letter, a lexer takes that for what was found, though the pattern does
not match there. -/
theorem found_behind_front :
    let pattern := "^a|b$".toList
    let m := Matcher.ofRegex (.alt (.seq (.look .textStart) (.set ⟨[(97, 97)]⟩))
      (.seq (.set ⟨[(98, 98)]⟩) (.look .textStop)))
    let rule := Rule.pattern ⟨1⟩ pattern m
    let token : Token := ⟨⟨1⟩, ['b'], [], .start⟩
    let source : Script := ⟨[.data [0x62, 0x62]]⟩
    Rule.ofPattern ⟨1⟩ pattern = .ok rule ∧
      m.searchFrom 2 0 none ['x', 'b'] = some (1, ⟨2, []⟩) ∧
      rule.find? ['x', 'b'] .start = some token ∧ ¬ ['b'] <+: ['x', 'b'] ∧
      rule.frontToken? ['b', 'b'] .start = none ∧
      ∃ l', peekWithin 8 8 (create source ⟨none, [rule]⟩ ⟨1, 4⟩) =
          some (.ok (some token), l') ∧ l'.buffer = ['b', 'b'] := by
  intro pattern m rule token source
  have hparse : Regex.parse? (Rule.anchor pattern) = some m.regex := by decide +kernel
  have hof : Rule.ofPattern ⟨1⟩ pattern = .ok rule := by
    rw [Rule.ofPattern, hparse]
    rfl
  have hpeek : ((peekWithin 8 8 (create source ⟨none, [rule]⟩ ⟨1, 4⟩)).map
      fun p => (p.1.toOption, p.2.buffer)) = some (some (some token), ['b', 'b']) := by
    decide +kernel
  obtain ⟨⟨res, l'⟩, hpeek, hres⟩ := Option.map_eq_some_iff.mp hpeek
  obtain ⟨htoken, hbuffer⟩ := Prod.mk.inj hres
  refine ⟨hof, by decide +kernel, by decide +kernel, by decide, by decide +kernel, l', ?_, hbuffer⟩
  cases res with
  | error e => cases htoken
  | ok answer =>
    cases Option.some.inj htoken
    exact hpeek

end Lexer

end RuleLexer
