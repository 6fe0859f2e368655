import RuleLexer.Lexer.Event
import RuleLexer.RuleSet

/-!
# Configurations

A configuration holds the sizes of the look-ahead and, unless the reference rules are wanted, the
descriptions of the rules.
-/

namespace RuleLexer

/-- **A configuration.** Without rules of its own it asks for the reference rules. -/
structure Config where
  buffer : BufferSizes := {}
  rules : Option RuleSetSpec := none
  deriving DecidableEq, Repr

namespace Config

/-- The rule set of a configuration. -/
def ruleSet (c : Config) : Except RuleError (RuleSet Rule) :=
  match c.rules with
  | none => .ok .reference
  | some spec => spec.build

/-- The identifiers of the rules of a configuration, that of the rule for white space first. -/
def ids? (c : Config) : Option (List TokenId) :=
  c.rules.map fun spec => (spec.whitespace.toList ++ spec.rules).map RuleSpec.id

end Config

end RuleLexer
