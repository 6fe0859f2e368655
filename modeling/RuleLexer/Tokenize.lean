import RuleLexer.Config.Reader
import RuleLexer.Lexer.Stream
import RuleLexer.Source.Script

/-!
# Tokenizing

The short ways from an input to its tokens: of a text or a reader with the reference rules, of a
text with the rules and sizes of a configuration, and the lexer that a configuration file asks for.
-/

namespace RuleLexer

/-- Why a configuration could not be loaded. -/
inductive ConfigError where
  | parse (fault : Json.Fault)
  | fileNotFound
  | fileNotText
  deriving DecidableEq, Repr

/-- Anything that can go wrong between a configuration and a token list. -/
inductive LoadError where
  | config (e : ConfigError)
  | rule (e : RuleError)
  | lexer (e : LexError)
  deriving DecidableEq, Repr

/-- Where scanning failed, if it was scanning that failed. -/
def LoadError.position? : LoadError → Option Position
  | .lexer e => some e.position
  | _ => none

/-- A reader of some bytes. -/
def Script.ofBytes (bytes : List UInt8) : Script := ⟨[.data bytes]⟩

/-- All tokens of a lexer, or the first error. -/
def Lexer.tokens? {σ ρ : Type} [FiniteSource σ] [TokenRule ρ] (l : Lexer σ ρ) :
    Option (Except LexError (List Token)) :=
  (Lexer.collect l).map Prod.fst

/-- The tokens that the reference rules find in what a reader gives. -/
def tokenizeReader {ρ : Type} [FiniteReader ρ] (reader : ρ) :
    Option (Except LexError (List Token)) :=
  (Lexer.create (ReaderSource.mk reader) RuleSet.reference {}).tokens?

/-- The tokens that the reference rules find in a text. -/
def tokenize (input : Text) : Option (Except LexError (List Token)) :=
  tokenizeReader (Script.ofBytes (Utf8.encode input))

/-- A configuration from a document. -/
def Config.load (document : Text) : Except ConfigError Config :=
  (Config.ofJson document).mapError .parse

/-- A configuration from the contents of a file, if there is such a file. -/
def Config.loadFile (contents : Option (List UInt8)) : Except ConfigError Config :=
  match contents with
  | none => .error .fileNotFound
  | some bytes =>
    match Utf8.decode? bytes with
    | none => .error .fileNotText
    | some document => Config.load document

/-- A lexer as a configuration asks for it. -/
def Config.lexer {σ : Type} (c : Config) (source : σ) : Except RuleError (Lexer σ Rule) :=
  c.ruleSet.map fun rules => Lexer.create source rules c.buffer

/-- The tokens of a text, with the rules and sizes of a configuration document. -/
def tokenizeWithConfig (document input : Text) : Option (Except LoadError (List Token)) :=
  match Config.load document with
  | .error e => some (.error (.config e))
  | .ok c =>
    match c.lexer (ReaderSource.mk (Script.ofBytes (Utf8.encode input))) with
    | .error e => some (.error (.rule e))
    | .ok l => l.tokens?.map (·.mapError .lexer)

/-- The lexer that a configuration file asks for. -/
def lexerFromFile {σ : Type} (contents : Option (List UInt8)) (source : σ) :
    Except LoadError (Lexer σ Rule) := do
  let c ← (Config.loadFile contents).mapError .config
  (c.lexer source).mapError .rule

end RuleLexer
