import RuleLexer.Position
import RuleLexer.Text.Quoted

/-!
# Tokens

A token is a piece of the input together with the identifier of the rule that recognised it, the
texts of the rule's groups and the position at which it starts. Four identifiers are built in and
have names; all others are the user's.
-/

namespace RuleLexer

/-- Identifier of a kind of token. Several rules may share one. -/
structure TokenId where
  val : Int32
  deriving DecidableEq, Repr

namespace TokenId

/-- Any single character that nothing else claims. -/
def other : TokenId := ⟨-1⟩

def ident : TokenId := ⟨-2⟩

def number : TokenId := ⟨-3⟩

def string : TokenId := ⟨-4⟩

/-- The name of a built-in identifier. -/
def name? (id : TokenId) : Option Text :=
  if id = other then some "OTHER".toList
  else if id = ident then some "IDENT".toList
  else if id = number then some "NUMBER".toList
  else if id = string then some "STRING".toList
  else none

/-- How people are told an identifier: its name, or its number marked as unknown. -/
def display (id : TokenId) : Text :=
  match id.name? with
  | some name => name
  | none => "UNKNOWN(".toList ++ Text.ofInt id.val.toInt ++ [')']

end TokenId

/-- **A token**: what was recognised, as what, and where. -/
structure Token where
  id : TokenId
  literal : Text
  submatches : List Text
  position : Position
  deriving DecidableEq, Repr

namespace Token

/-- The position just after the token. -/
def stop (t : Token) : Position := t.position.advanced t.literal

/-- How people are told a token. -/
def display (t : Token) : Text :=
  t.position.display ++ ' ' :: t.id.display ++ '(' :: Quoted.encode t.literal ++ [')']

/-- A token that counts on a text: its literal is not empty and stands at the front. Anything else
would stall the scanner or remove text that was not recognised. -/
def consumes (t : Token) (input : Text) : Bool :=
  !t.literal.isEmpty && input.startsWith t.literal

end Token

end RuleLexer
