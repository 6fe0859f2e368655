import RuleLexer.Lexer.Basic
import RuleLexer.Proofs.Text.Quoted

/-!
# The words of a lexer

What a lexer says about a text that no rule recognises can be read back: line, column and literal
are all in the message, and it stays on one line (`unknownToken_message_decodes`).

Everything else that a lexer reports stays on one line, too, but for one kind of event: the words of
a failed read stand at the end of a message as the source has given them (`Event.verbatim`,
`Event.exists_message_eq`).
-/

namespace RuleLexer

@[simp] theorem Position.controlFree_display (p : Position) : p.display.ControlFree := by
  unfold display
  rw [Text.controlFree_append, Text.controlFree_cons]
  exact ⟨Text.controlFree_ofNat _, by decide, Text.controlFree_ofNat _⟩

namespace LexError

open Json (isDigit digitsValue digitsValue_ofNat isDigit_of_mem_ofNat)

/-! ### Reading a message back -/

/-- The message about a text that no rule recognises, for a given choice of what is written as a
code point. -/
def unknownMessage (hide : Char → Bool) (literal : Text) (position : Position) : Text :=
  position.display ++ ":UnknownTokenError: ".toList ++ Quoted.encodeWith hide literal

/-- A number at the front of a text, and what follows it. -/
def readNumber? (t : Text) : Option (Nat × Text) :=
  if (t.takeWhile isDigit).isEmpty then none
  else some (digitsValue (t.takeWhile isDigit), t.dropWhile isDigit)

/-- What a message is about: the line and the column, both counted from zero, and the text that no
rule recognises. -/
def decodeUnknown? (t : Text) : Option (Nat × Nat × Text) := do
  let (line, t) ← readNumber? t
  let t ← Text.after? [':'] t
  let (column, t) ← readNumber? t
  let t ← Text.after? ":UnknownTokenError: ".toList t
  let (literal, rest) ← Quoted.decode? t
  if rest.isEmpty then some (line - 1, column - 1, literal) else none

theorem readNumber?_append {n : Nat} {c : Char} (hc : isDigit c = false) (t : Text) :
    readNumber? (Text.ofNat n ++ c :: t) = some (n, c :: t) := by
  have hdigits : ∀ d ∈ Text.ofNat n, isDigit d = true := fun d => isDigit_of_mem_ofNat
  have htake : (Text.ofNat n ++ c :: t).takeWhile isDigit = Text.ofNat n := by
    rw [List.takeWhile_append_of_pos hdigits, List.takeWhile_cons_of_neg (by rw [hc]; decide),
      List.append_nil]
  have hdrop : (Text.ofNat n ++ c :: t).dropWhile isDigit = c :: t := by
    rw [List.dropWhile_append_of_pos hdigits, List.dropWhile_cons_of_neg (by rw [hc]; decide)]
  have hne : ¬ (Text.ofNat n).isEmpty = true := by
    rw [List.isEmpty_iff]
    exact Nat.toDigits_ne_nil
  unfold readNumber?
  rw [htake, hdrop, if_neg hne, digitsValue_ofNat]

/-- A message is read back as what it is about. -/
theorem decodeUnknown?_unknownMessage (hide : Char → Bool) (literal : Text) (position : Position) :
    decodeUnknown? (unknownMessage hide literal position) =
      some (position.line, position.column, literal) := by
  -- the four parts that are read one after the other
  generalize hquoted : Quoted.encodeWith hide literal ++ [] = quoted
  have hmessage : unknownMessage hide literal position =
      Text.ofNat (position.line + 1) ++ ':' :: (Text.ofNat (position.column + 1) ++
        ":UnknownTokenError: ".toList ++ quoted) := by
    simp only [← hquoted, unknownMessage, Position.display, List.append_assoc, List.cons_append,
      List.append_nil]
  have hline := readNumber?_append (n := position.line + 1) (c := ':') (by decide)
    (Text.ofNat (position.column + 1) ++ ":UnknownTokenError: ".toList ++ quoted)
  have hcolon (t : Text) : Text.after? [':'] (':' :: t) = some t := Text.after?_append [':'] t
  have hcolumn : readNumber?
      (Text.ofNat (position.column + 1) ++ ":UnknownTokenError: ".toList ++ quoted) =
      some (position.column + 1, ":UnknownTokenError: ".toList ++ quoted) := by
    rw [List.append_assoc]
    exact readNumber?_append (by decide) _
  have hliteral : Quoted.decode? quoted = some (literal, []) := by
    rw [← hquoted]
    exact Quoted.decode?_encodeWith hide literal []
  unfold decodeUnknown?
  simp only [Option.bind_eq_bind, hmessage, hline, hcolon, hcolumn, Text.after?_append, hliteral,
    Option.bind_some]
  rfl

/-- **The message about an unknown token tells what it is about.** Whatever is written as a code
point, if only the control characters without a short escape are: line, column and literal are read
back from the message, so two errors with the same message have the same line, column and literal,
and the message has no control characters. The messages of the library are of this kind. -/
theorem unknownToken_message_decodes (hide : Char → Bool) (hhide : Quoted.HidesControls hide) :
    (∀ literal position, decodeUnknown? (unknownMessage hide literal position) =
      some (position.line, position.column, literal)) ∧
    (∀ literal₁ literal₂ position₁ position₂,
      unknownMessage hide literal₁ position₁ = unknownMessage hide literal₂ position₂ →
        position₁.line = position₂.line ∧ position₁.column = position₂.column ∧
          literal₁ = literal₂) ∧
    (∀ literal position, ∀ c ∈ unknownMessage hide literal position, 0x20 ≤ c.toNat) ∧
    (∀ literal position, (LexError.unknownToken literal position).message =
      unknownMessage Quoted.hidden literal position) := by
  refine ⟨decodeUnknown?_unknownMessage hide, ?_, ?_, fun _ _ => rfl⟩
  · intro literal₁ literal₂ position₁ position₂ h
    have hdecode := congrArg decodeUnknown? h
    rw [decodeUnknown?_unknownMessage, decodeUnknown?_unknownMessage] at hdecode
    simpa only [Option.some.injEq, Prod.mk.injEq] using hdecode
  · intro literal position
    have hfree : (unknownMessage hide literal position).ControlFree := by
      unfold unknownMessage
      rw [Text.controlFree_append, Text.controlFree_append]
      exact ⟨⟨Position.controlFree_display position, by decide⟩,
        Quoted.controlFree_encodeWith hhide literal⟩
    exact hfree

/-- A line break, a quote, a control character and a combining mark in the literal. -/
theorem unknownToken_message_decodes_mixed :
    let literal : Text := ['a', '\n', '"', '\x1b', '\u0301']
    let message := (LexError.unknownToken literal ⟨4, 0, 50⟩).message
    Quoted.HidesControls Quoted.hidden ∧
      message = "5:1:UnknownTokenError: \"a\\n\\\"\\u\x7b1b\x7d\\u\x7b301\x7d\"".toList ∧
      decodeUnknown? message = some (4, 0, literal) ∧ ∀ c ∈ message, 0x20 ≤ c.toNat := by
  intro literal message
  obtain ⟨hdecode, -, hfree, -⟩ :=
    unknownToken_message_decodes Quoted.hidden Quoted.hidesControls_hidden
  exact ⟨Quoted.hidesControls_hidden, by decide +kernel, hdecode _ _, hfree _ _⟩

end LexError

/-! ### Events -/

theorem TokenId.controlFree_display (id : TokenId) : id.display.ControlFree := by
  unfold display
  split
  · next name hname =>
    unfold name? at hname
    split_ifs at hname <;> cases hname <;> decide
  · have hint : (Text.ofInt id.val.toInt).ControlFree := by
      unfold Text.ofInt
      split
      · exact Text.controlFree_ofNat _
      · exact Text.controlFree_cons.mpr ⟨by decide, Text.controlFree_ofNat _⟩
    rw [Text.controlFree_append, Text.controlFree_append]
    exact ⟨⟨by decide, hint⟩, by decide⟩

namespace Event

theorem controlFree_byteText (b : UInt8) : (byteText b).ControlFree := by
  have hall : ∀ v < 16, 0x20 ≤ (Nat.digitChar v).toUpper.toNat := by decide
  unfold byteText
  rw [Text.controlFree_append]
  constructor
  · intro c hc
    rw [List.eq_of_mem_replicate hc]
    decide
  · intro c hc
    obtain ⟨digit, hdigit, rfl⟩ := List.mem_map.mp hc
    obtain ⟨v, hv, rfl⟩ := Text.exists_digitChar_of_mem (by decide) hdigit
    exact hall v hv

theorem controlFree_bytesText (bytes : List UInt8) : (bytesText bytes).ControlFree := by
  have hbytes : ∀ t ∈ bytes.map byteText, t.ControlFree := by
    intro t ht
    obtain ⟨b, -, rfl⟩ := List.mem_map.mp ht
    exact controlFree_byteText b
  have hseparator : Text.ControlFree ", ".toList := by decide
  unfold bytesText
  rw [Text.controlFree_append, Text.controlFree_cons]
  exact ⟨⟨by decide, .intercalate hseparator hbytes⟩, by decide⟩

/-- What an event repeats word by word: what the source had to say about a failed read. -/
def verbatim : Event → Text
  | .readFailed _ fault => fault.message
  | _ => []

theorem controlFree_boolText (b : Bool) : (boolText b).ControlFree := by
  cases b <;> decide

/-- A message without words of others has no control characters: it is made of fixed words, numbers,
positions, identifiers and quoted texts. -/
theorem controlFree_message {e : Event} (h : ∀ position fault, e ≠ .readFailed position fault) :
    e.message.ControlFree := by
  cases e with
  | readFailed position fault => exact absurd rfl (h position fault)
  | _ =>
    unfold message
    simp only [Text.controlFree_append, Text.controlFree_ofNat, Position.controlFree_display,
      TokenId.controlFree_display, Quoted.controlFree_encode, controlFree_bytesText,
      controlFree_boolText, and_true]
    -- the fixed words are left
    decide

/-- A message stays on one line up to the words that it repeats, which stand at its end. -/
theorem exists_message_eq (e : Event) :
    ∃ front, front.ControlFree ∧ e.message = front ++ e.verbatim := by
  cases e with
  | readFailed position fault =>
    refine ⟨"Read failed at ".toList ++ position.display ++ ": ".toList, ?_, rfl⟩
    simp only [Text.controlFree_append, Position.controlFree_display, and_true]
    decide
  | _ => exact ⟨_, controlFree_message (by simp), (List.append_nil _).symm⟩

end Event

end RuleLexer
