import RuleLexer.Config.Printer
import RuleLexer.Config.Reader
import RuleLexer.Lexer.Logged
import RuleLexer.Tokenize
import RuleLexer.WholeText
import RuleLexer.Proofs.Utf8.Characters
import RuleLexer.Proofs.Utf8.Lossy
import RuleLexer.Proofs.Lexer.Read
import RuleLexer.Proofs.Lexer.Intake
import RuleLexer.Proofs.Lexer.Rounds
import RuleLexer.Proofs.Lexer.Moves
import RuleLexer.Proofs.Lexer.Account
import RuleLexer.Proofs.WholeText
import RuleLexer.Proofs.Lexer.Facing
import RuleLexer.Proofs.Lexer.Streaming
import RuleLexer.Proofs.Regex.Run
import RuleLexer.Proofs.Reference
import RuleLexer.Proofs.Lexer.ReferenceStream
import RuleLexer.Proofs.Lexer.OneByte
import RuleLexer.Proofs.Lexer.ReferenceSplit
import RuleLexer.Proofs.Lexer.Passes
import RuleLexer.Proofs.Lexer.Precedence
import RuleLexer.Proofs.Lexer.Ending
import RuleLexer.Proofs.Lexer.Gaps
import RuleLexer.Proofs.Lexer.Coverage
import RuleLexer.Proofs.Lexer.CatchAll
import RuleLexer.Proofs.Lexer.Stable
import RuleLexer.Proofs.Lexer.Exhaustion
import RuleLexer.Proofs.Lexer.Sessions
import RuleLexer.Proofs.Lexer.Simulation
import RuleLexer.Proofs.Log.Ring
import RuleLexer.Proofs.Log.Paths
import RuleLexer.Proofs.Log.Lines
import RuleLexer.Proofs.Lexer.Journal
import RuleLexer.Proofs.Lexer.Diagnostics
import RuleLexer.Proofs.Lexer.MapSource
import RuleLexer.Proofs.Lexer.Logging
import RuleLexer.Proofs.Lexer.Termination
import RuleLexer.Proofs.Lexer.ToppingUp
import RuleLexer.Proofs.Lexer.Retrying
import RuleLexer.Proofs.Lexer.Skimming
import RuleLexer.Proofs.Source.Faltering
import RuleLexer.Proofs.Source.Interruptions
import RuleLexer.Proofs.Lexer.Interruptions
import RuleLexer.Proofs.Lexer.Offsets
import RuleLexer.Proofs.Regex.Anchored
import RuleLexer.Proofs.Regex.Wrapping
import RuleLexer.Proofs.Json.Layout
import RuleLexer.Proofs.Lexer.Fronting
import RuleLexer.Proofs.Config.Layout
import RuleLexer.Proofs.Config.RoundTrip
import RuleLexer.Proofs.Lexer.Returned
import RuleLexer.Proofs.Lexer.UnknownSpan
import RuleLexer.Proofs.Lexer.Elision
import RuleLexer.Proofs.Lexer.Resting
import RuleLexer.Proofs.Classification
import RuleLexer.Proofs.Regex.Numbering
import RuleLexer.Proofs.Regex.Preference
import RuleLexer.Proofs.Regex.Language
import RuleLexer.Proofs.Anchoring
import RuleLexer.Proofs.Captures
import RuleLexer.Proofs.Lexer.ContextLine
import RuleLexer.Proofs.Text.ControlFree
import RuleLexer.Proofs.Text.Quoted
import RuleLexer.Proofs.Lexer.Wording
import RuleLexer.Proofs.Lexer.LogLines
