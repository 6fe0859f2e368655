import RuleLexer.Lexer.Basic

/-!
# Tokenizing a whole text

The tokens of a text that is there from the start, without a source, a buffer or reads: pass over
white space, take the token of the first rule that finds one in all that remains, and go on behind
it. Where nothing is recognised, the list ends with an unknown token.

Every round takes at least one character, so the length of the text bounds them.
-/

namespace RuleLexer.WholeText

variable {ρ : Type} [TokenRule ρ]

/-- What remains of a text, and where it starts. -/
structure Rest where
  text : Text
  position : Position
  deriving DecidableEq, Repr

/-- Moves behind a literal at the front. -/
def Rest.after (r : Rest) (literal : Text) : Rest :=
  ⟨r.text.drop literal.length, r.position.advanced literal⟩

/-- Passes over white space, so many pieces of it at most. -/
def strip (rules : RuleSet ρ) : Nat → Rest → Rest
  | 0, r => r
  | n + 1, r =>
    match rules.whitespace.bind (TokenRule.hit? · r.text r.position) with
    | none => r
    | some token => strip rules n (r.after token.literal)

/-- The token of the first rule that finds one. -/
def first? (rules : RuleSet ρ) (r : Rest) : Option Token :=
  rules.rules.findSome? (TokenRule.hit? · r.text r.position)

/-- The tokens of what remains, in so many rounds at most, and the error that ends them, if one
does. -/
def tokensFrom (rules : RuleSet ρ) : Nat → Rest → List Token × Option LexError
  | 0, _ => ([], none)
  | n + 1, r =>
    let r := strip rules r.text.length r
    if r.text.isEmpty then ([], none)
    else
      match first? rules r with
      | none =>
        ([], some (.unknownToken (rules.unknownLiteral r.position r.text) r.position))
      | some token =>
        let (tokens, error) := tokensFrom rules n (r.after token.literal)
        (token :: tokens, error)

/-- The tokens of a text, and the error that ends them, if one does. -/
def tokens (rules : RuleSet ρ) (text : Text) : List Token × Option LexError :=
  tokensFrom rules (text.length + 1) ⟨text, .start⟩

end RuleLexer.WholeText
