import RuleLexer.Lexer.Refill

/-!
# Scanning

The next token is the one that the first rule with a match at the front of the buffer finds. Before
every rule, white space is passed over and the buffer topped up. If that brings more text, the rules
before were judged on less text than there is now, and all rules are tried again. A match that takes
all of the buffer might go on in text that has not been read, so more is read and the rule asked
again until the match ends earlier or there is nothing more.

The operations take the number of rounds that each of their loops may make.
-/

namespace RuleLexer.Lexer

variable {σ ρ : Type}

/-- Passes over white space at the front of the buffer. -/
def skipWhitespace [ByteSource σ] [TokenRule ρ] : Nat → LexM σ ρ Unit
  | 0 => LexM.outOfRounds
  | n + 1 => do
    ensureBuffered
    let l ← get
    match l.rules.whitespace.bind (TokenRule.hit? · l.buffer l.cursor) with
    | none => pure ()
    | some token => do
      set (l.consume token.literal)
      skipWhitespace n

/-- Tries one rule. -/
def matchRule [ByteSource σ] [TokenRule ρ] (rule : ρ) : Nat → LexM σ ρ (Option Token)
  | 0 => LexM.outOfRounds
  | n + 1 => do
    let l ← get
    match TokenRule.hit? rule l.buffer l.cursor with
    | none => pure none
    | some token =>
      if l.exhausted || !(l.buffer.drop token.literal.length).isEmpty then pure (some token)
      else if (← LexM.ofFunction fill) = 0 then pure (some token)
      else do
        modify (·.note .matchGrew)
        matchRule rule n

/-- What trying the rules has led to. -/
inductive Attempt where
  | matched (token : Token)
  /-- The buffer has grown on the way. -/
  | grew
  | noMatch

/-- Tries rules in order, as long as the buffer has not grown since the given generation. -/
def tryRules [ByteSource σ] [TokenRule ρ] (rounds generation : Nat) : List ρ → LexM σ ρ Attempt
  | [] => do
    if (← get).generation ≠ generation then pure .grew else pure .noMatch
  | rule :: rest => do
    skipWhitespace rounds
    ensureBuffered
    if (← get).generation ≠ generation then pure .grew
    else
      match ← matchRule rule rounds with
      | some token => pure (.matched token)
      | none => tryRules rounds generation rest

/-- The next token, without consuming it. White space in front of it is consumed. No token means
that nothing is buffered. -/
def peekWithin [ByteSource σ] [TokenRule ρ] (rounds : Nat) : Nat → LexM σ ρ (Option Token)
  | 0 => LexM.outOfRounds
  | n + 1 => do
    skipWhitespace rounds
    let l ← get
    match ← tryRules rounds l.generation l.rules.rules with
    | .matched token => pure (some token)
    | .grew => do
      modify (·.note .grewWhileMatching)
      peekWithin rounds n
    | .noMatch => do
      let l ← get
      if l.buffer.isEmpty then pure none
      else do
        let literal := l.rules.unknownLiteral l.cursor l.buffer
        set (l.note (.unknownToken literal l.cursor))
        throw (.unknownToken literal l.cursor)

/-- The next token, consumed. -/
def scanWithin [ByteSource σ] [TokenRule ρ] (rounds : Nat) : LexM σ ρ (Option Token) := do
  match ← peekWithin rounds rounds with
  | none => pure none
  | some token => do
    modify fun l => (l.consume token.literal).note (.produced token)
    pure (some token)

/-- The line the cursor is on: what is consumed of it, and what the buffer holds up to the next line
break. -/
def lastLine [ByteSource σ] : LexM σ ρ Text := do
  ensureBuffered
  let l ← get
  pure (l.line ++ l.buffer.firstLine)

/-! ### Rounds that suffice -/

/-- Enough rounds: no loop makes more rounds than there are characters in the buffer and bytes still
to come, one for bytes that never become a character, and one to see that there is nothing left. -/
def rounds [FiniteSource σ] (l : Lexer σ ρ) : Nat :=
  l.buffer.length + FiniteSource.budget l.source + 3

/-- The next token, without consuming it. -/
def peek [FiniteSource σ] [TokenRule ρ] : LexM σ ρ (Option Token) := do
  let n := (← get).rounds
  peekWithin n n

/-- The next token, consumed. -/
def scan [FiniteSource σ] [TokenRule ρ] : LexM σ ρ (Option Token) := do
  scanWithin (← get).rounds

end RuleLexer.Lexer
