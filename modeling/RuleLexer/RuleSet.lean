import RuleLexer.Rule

/-!
# Rule sets

The rules of a scanner in the order in which they are tried, and the rule for what is passed over
between tokens. The order decides: the first rule that finds something wins, so a rule that takes
any character belongs at the end.
-/

namespace RuleLexer

/-- **A rule set**: what to pass over, if anything, and the rules, first choice first. -/
structure RuleSet (ρ : Type) where
  whitespace : Option ρ
  rules : List ρ

namespace RuleSet

/-- No rules, and nothing to pass over. -/
def empty {ρ : Type} : RuleSet ρ := ⟨none, []⟩

/-- Puts a rule behind the others. -/
def withRule {ρ : Type} (s : RuleSet ρ) (r : ρ) : RuleSet ρ := { s with rules := s.rules ++ [r] }

/-- Exchanges the rule for what is passed over. -/
def withWhitespace {ρ : Type} (s : RuleSet ρ) (w : Option ρ) : RuleSet ρ :=
  { s with whitespace := w }

/-! ### What a rule set recognises -/

section

variable {ρ : Type} [TokenRule ρ]

/-- Something is recognised at the front of a text, white space or a token. -/
def recognizes (s : RuleSet ρ) (position : Position) (input : Text) : Bool :=
  s.whitespace.any (fun w => (TokenRule.hit? w input position).isSome) ||
    s.rules.any fun r => (TokenRule.hit? r input position).isSome

/-- The text up to the first place where something is recognised. -/
def unrecognized (s : RuleSet ρ) (position : Position) : Text → Text
  | [] => []
  | c :: t => if s.recognizes position (c :: t) then [] else c :: unrecognized s position t

/-- The literal of an unknown token: the first character, and what follows up to the place where
something is recognised again. -/
def unknownLiteral (s : RuleSet ρ) (position : Position) : Text → Text
  | [] => []
  | c :: t => c :: s.unrecognized position t

end

end RuleSet

/-- The description of a rule set. -/
structure RuleSetSpec where
  whitespace : Option RuleSpec := none
  rules : List RuleSpec := []
  deriving DecidableEq, Repr

namespace RuleSetSpec

/-- Makes the rule set that a description stands for. The rule for white space is made first, and
the first description that is no rule decides the error. -/
def build (s : RuleSetSpec) : Except RuleError (RuleSet Rule) := do
  let whitespace ← match s.whitespace with
    | none => pure none
    | some w => some <$> w.build
  let rules ← s.rules.mapM RuleSpec.build
  pure ⟨whitespace, rules⟩

/-! ### The reference rules -/

/-- Names: a letter or underscore, then letters, digits and underscores. -/
def identPattern : Text := "[a-zA-Z_][a-zA-Z0-9_]*".toList

/-- Numbers: digits, and a fraction if a digit follows the point. -/
def numberPattern : Text := "[0-9]+(?:\\.[0-9]+)?".toList

/-- Strings: everything up to the next quote. -/
def stringPattern : Text := "\"([^\"]*)\"".toList

/-- Any other character. -/
def otherPattern : Text := ".".toList

/-- Space, tab, carriage return and line feed. -/
def blanks : List Text := [[' '], ['\t'], ['\r'], ['\n']]

/-- The reference rules: names, numbers, strings and any other single character, between blanks. -/
def reference : RuleSetSpec where
  whitespace := some (.literals .other blanks)
  rules := [.pattern .ident identPattern, .pattern .number numberPattern,
    .pattern .string stringPattern, .pattern .other otherPattern]

end RuleSetSpec

/-- The reference rule set. -/
def RuleSet.reference : RuleSet Rule :=
  match RuleSetSpec.reference.build with
  | .ok rules => rules
  | .error _ => .empty

end RuleLexer
