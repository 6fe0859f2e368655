import RuleLexer.Token
import RuleLexer.Regex.Match
import RuleLexer.Regex.Pattern

/-!
# Rules

A rule looks at the front of the remaining input and says which token, if any, it finds there. The
scanner accepts any rules (`TokenRule`); the ones built in are lists of literals and regular
expressions (`Rule`), and they are made from descriptions (`RuleSpec`) that can fail to be rules.

A pattern is anchored by its text: unless it starts with an anchor, it is wrapped in a group behind
one. An anchor in a pattern's own text only binds the branch it stands in, so such a rule may still
report text from further back; the scanner does not count it (`Token.consumes`).
-/

namespace RuleLexer

/-- **What the scanner asks of a rule.** -/
class TokenRule (ρ : Type) where
  /-- The kind of token that the rule produces. -/
  id : ρ → TokenId
  /-- The token that the rule finds in a text, which lies at a position. -/
  find? : ρ → Text → Position → Option Token

/-- The token that a rule finds, if it counts there: it is not empty and stands at the front. -/
def TokenRule.hit? {ρ : Type} [TokenRule ρ] (rule : ρ) (input : Text) (position : Position) :
    Option Token :=
  (TokenRule.find? rule input position).filter (·.consumes input)

/-- **A built-in rule**: literals of which the first that fits counts, or a compiled pattern with
its anchored text. -/
inductive Rule where
  | literals (id : TokenId) (alternatives : List Text)
  | pattern (id : TokenId) (source : Text) (matcher : Matcher)

namespace Rule

def id : Rule → TokenId
  | .literals id _ => id
  | .pattern id _ _ => id

/-- The first listed literal that the text starts with. An empty literal never counts. -/
def findLiteral? (alternatives : List Text) (input : Text) : Option Text :=
  alternatives.find? fun a => !a.isEmpty && input.startsWith a

/-- The token that a rule finds. -/
def find? (r : Rule) (input : Text) (position : Position) : Option Token :=
  match r with
  | .literals id alternatives =>
    (findLiteral? alternatives input).map fun literal => ⟨id, literal, [], position⟩
  | .pattern id _ m =>
    (m.find? input).map fun (start, trace) =>
      ⟨id, Matcher.slice input start trace.stop, m.groupTexts input trace.captures, position⟩

instance : TokenRule Rule where
  id := Rule.id
  find? := Rule.find?

/-- The anchored text of a pattern. -/
def anchor (pattern : Text) : Text :=
  if pattern.startsWith ['^'] || pattern.startsWith "\\A".toList then pattern
  else "^(?:".toList ++ pattern ++ [')']

end Rule

/-! ### Descriptions -/

/-- Why a description is no rule. -/
inductive RuleError where
  /-- The pattern, as it was given, is not a regular expression. -/
  | invalidPattern (id : TokenId) (pattern : Text)
  /-- There is no literal to look for. -/
  | noLiterals (id : TokenId)
  deriving DecidableEq, Repr

namespace RuleError

/-- How people are told. The message about a pattern that is not one goes on, behind a colon and a
blank, with what the `regex` library says is wrong with it. That text is the library's own and is
left out here. -/
def message : RuleError → Text
  | .invalidPattern id pattern =>
    "rule ".toList ++ id.display ++ ": invalid regular expression ".toList ++ Quoted.encode pattern
  | .noLiterals id => "rule ".toList ++ id.display ++ ": pattern list is empty".toList

end RuleError

/-- The description of a rule. -/
inductive RuleSpec where
  | literals (id : TokenId) (alternatives : List Text)
  | pattern (id : TokenId) (pattern : Text)
  deriving DecidableEq, Repr

namespace RuleSpec

def id : RuleSpec → TokenId
  | .literals id _ => id
  | .pattern id _ => id

end RuleSpec

/-- Compiles a pattern into a rule. -/
def Rule.ofPattern (id : TokenId) (pattern : Text) : Except RuleError Rule :=
  match Regex.parse? (Rule.anchor pattern) with
  | some regex => .ok (.pattern id (Rule.anchor pattern) (.ofRegex regex))
  | none => .error (.invalidPattern id pattern)

/-- Makes the rule that a description stands for. -/
def RuleSpec.build : RuleSpec → Except RuleError Rule
  | .literals id alternatives =>
    if alternatives.isEmpty then .error (.noLiterals id) else .ok (.literals id alternatives)
  | .pattern id text => Rule.ofPattern id text

end RuleLexer
