import RuleLexer.Proofs.Lexer.Coverage
import RuleLexer.Proofs.Lexer.Skimming
import RuleLexer.Proofs.Utf8.Pieces
import RuleLexer.Tokenize

/-!
# Offsets of tokens and places in the input

The offset of a token counts the bytes of the text before it, once that text is encoded. Whoever
wants to find the token in the input needs another number: how many bytes of the input lie before
it. The two agree as long as the bytes before the token are characters, and also where bytes that
are none come in threes, since each such piece becomes one character of three bytes. Otherwise the
offset lies too far back.

* `Intake.text_isPrefix`: the text that a lexer has read is a start of the text of all its input.
* `exists_bytes_before_token`: where a token lies in the input, and when its offset says so.
* `offset_beyond_invalid`: after a single byte that is no character, it does not.
-/

namespace RuleLexer

namespace Intake

variable {σ : Type} [ByteSource σ] {size : Nat}

/-- A read only adds to the text. -/
theorem text_isPrefix_read (i : Intake σ) : i.text <+: (i.read size).text := by
  by_cases he : i.exhausted = true
  · have hsame : (i.read size).text = i.text := by rw [read_of_exhausted he]
    exact hsame ▸ List.prefix_refl _
  · have he' : i.exhausted = false := Bool.eq_false_iff.mpr he
    cases hr : (ByteSource.readChunk i.source size).1.outcome with
    | error fault =>
      have hsame : (i.read size).text = i.text := by
        rw [read_of_fault he' hr]
        rfl
      exact hsame ▸ List.prefix_refl _
    | ok status =>
      rw [read_of_status he' hr]
      unfold text
      rw [he', if_neg Bool.false_ne_true]
      -- what the decoder has made of the bytes so far does not depend on what follows
      split_ifs
      · rw [← Utf8.textAfter_none, Utf8.textAfter_append]
        exact List.prefix_append _ _
      · rw [Utf8.decode_append, Utf8.text_append]
        exact List.prefix_append _ _

theorem text_isPrefix_iterate (i : Intake σ) (n : Nat) : i.text <+: ((read size)^[n] i).text := by
  induction n with
  | zero => exact List.prefix_refl _
  | succ n ih =>
    rw [Function.iterate_succ_apply']
    exact ih.trans (text_isPrefix_read _)

end Intake

/-- A source that brings a byte string: some number of reads, failed and empty ones and those that
announce too much among them, bring these bytes, and the last of them says that the source is at its
end. -/
def Brings {σ : Type} [ByteSource σ] (size : Nat) (source : σ) (bytes : List UInt8) : Prop :=
  ∃ n, ((Intake.read size)^[n] { source }).exhausted = true ∧
    ((Intake.read size)^[n] { source }).bytes = bytes

/-- A source that delivers bytes brings them. -/
theorem Delivers.brings {σ : Type} [ByteSource σ] {size : Nat} {source : σ} {bytes : List UInt8}
    (h : Delivers size source bytes) : Brings size source bytes := by
  obtain ⟨chunks, hgives, -, rfl⟩ := h
  obtain ⟨hbytes, hend⟩ := Intake.iterate_read_of_gives hgives [] []
  exact ⟨chunks.length, hend, hbytes⟩

/-- **What was read so far** is a start of the text of all bytes. -/
theorem Intake.text_isPrefix {σ : Type} [ByteSource σ] {size : Nat} {source : σ}
    {bytes : List UInt8} (h : Brings size source bytes) (k : Nat) :
    ((read size)^[k] { source }).text <+: Utf8.lossy bytes := by
  obtain ⟨n, hend, hbytes⟩ := h
  -- after `n` reads the intake does not change anymore
  have hlast : (read size)^[n + k] { source } = (read size)^[n] { source } := by
    rw [Nat.add_comm, Function.iterate_add_apply]
    exact Function.iterate_fixed (read_of_exhausted hend) k
  have htext : ((read size)^[n] { source }).text = Utf8.lossy bytes := by
    rw [text, if_pos hend, hbytes]
  rw [← htext, ← hlast, Function.iterate_add_apply]
  exact text_isPrefix_iterate _ n

namespace Lexer

variable {σ : Type} [ByteSource σ] {source : σ} {rules : RuleSet Rule} {sizes : BufferSizes}
  {l l' : Lexer σ Rule}

/-- A token that is scanned stands behind all the text that is consumed, and its position is the one
behind that text. -/
theorem Reached.exists_accounted_token {rounds : Nat} {token : Token}
    (h : Reached source rules sizes l)
    (hscan : scanWithin rounds l = some (.ok (some token), l')) :
    ∃ consumed beyond k, Accounted source sizes (consumed ++ token.literal) l' ∧
      token.literal ≠ [] ∧ token.position = Position.start.advanced consumed ∧
      consumed ++ (token.literal ++ beyond) =
        ((Intake.read sizes.effectiveChunk)^[k] { source }).text := by
  rw [scanWithin_eq] at hscan
  split at hscan
  · cases hscan
  · cases hscan
  · cases hscan
  · next token' l₁ hpeek =>
    cases hscan
    obtain ⟨consumed₀, haccount₀⟩ := h.exists_accounted
    obtain ⟨hmoves, hfront⟩ := moves_peekWithin hpeek
    obtain ⟨gap, haccount⟩ := haccount₀.changes hmoves.changes
    obtain ⟨hne, beyond, hbeyond⟩ := hfront token rfl
    obtain ⟨k, -, -, htext⟩ := haccount.decoded
    obtain ⟨rule, -, seen, last, -, -, hhit⟩ := exists_hit_of_peekWithin hpeek
    refine ⟨consumed₀ ++ gap, beyond, k, ?_, hne, ?_, ?_⟩
    · exact (haccount.consume hbeyond).of_eq rfl rfl rfl rfl rfl rfl rfl rfl
    · rw [Rule.position_of_hit? hhit, haccount.cursor_eq, advanced_start]
    · rw [← hbeyond]
      exact htext

/-- **Where a token lies in the input.** Over any source that brings some bytes, however they are
cut into reads, and after any calls, let a scan give a token. Then some bytes at the front of the
input have been decoded to the text that was consumed before the token, and the token starts with
the byte behind them. The offset of the token is the size of that text. It is the number of these
bytes, and as many bytes of the input have the text before the token, exactly if every piece among
them that is no character has three bytes. -/
theorem exists_bytes_before_token (source : σ) (rules : RuleSet Rule) (sizes : BufferSizes)
    (bytes : List UInt8) (hb : Brings sizes.effectiveChunk source bytes) (l : Lexer σ Rule)
    (h : Reached source rules sizes l) (rounds : Nat) (token : Token) (l' : Lexer σ Rule)
    (hscan : scanWithin rounds l = some (.ok (some token), l')) :
    ∃ front rest, bytes = front ++ rest ∧
      Accounted source sizes (Utf8.lossy front ++ token.literal) l' ∧
      token.literal <+: Utf8.lossy rest ∧
      token.position.offset = (Utf8.lossy front).byteLength ∧
      (Utf8.lossy (bytes.take token.position.offset) = Utf8.lossy front ↔
        token.position.offset = front.length) ∧
      (token.position.offset = front.length ↔
        ∀ piece, .invalid piece ∈ Utf8.pieces front → piece.length = 3) := by
  obtain ⟨consumed, beyond, k, haccount, hne, hposition, htext⟩ := h.exists_accounted_token hscan
  -- the consumed text and the token are a start of the text of all bytes
  obtain ⟨more, hmore⟩ := Intake.text_isPrefix hb k
  have hall : Utf8.lossy bytes = consumed ++ (token.literal ++ (beyond ++ more)) := by
    rw [← hmore, ← htext]
    simp only [List.append_assoc]
  obtain ⟨front, rest, rfl, rfl, hrest, hcut⟩ := Utf8.exists_split_of_lossy hall
  have hoffset : token.position.offset = (Utf8.lossy front).byteLength := by
    rw [hposition, advanced_start]
  have hrest_ne : rest ≠ [] := by
    rintro rfl
    have h0 : token.literal = [] := (List.append_eq_nil_iff.mp hrest.symm).1
    exact hne h0
  have hle : front.length ≤ token.position.offset := by
    rw [hoffset]
    exact Utf8.length_le_byteLength_lossy front
  refine ⟨front, rest, rfl, haccount, ?_, hoffset, ?_, ?_⟩
  · rw [hrest]
    exact List.prefix_append _ _
  · exact Utf8.lossy_take_eq_iff hrest_ne hcut hle
  · rw [hoffset]
    exact Utf8.byteLength_lossy_eq_iff front

/-- A character that is cut in two, and three bytes of a character whose last byte does not come:
the offset of the name behind them is its place. -/
theorem exists_bytes_before_token_cut :
    let bytes : List UInt8 := [0xC3, 0xA9, 0x20, 0xF0, 0x9F, 0x98, 0x61]
    let source : Script := ⟨[.data [0xC3], .data [0xA9, 0x20, 0xF0], .data [0x9F, 0x98, 0x61]]⟩
    let token : Token := ⟨.ident, ['a'], [], ⟨0, 3, 6⟩⟩
    ∃ l l', Reached source RuleSet.reference ⟨1, 4⟩ l ∧
      scanWithin 20 l = some (.ok (some token), l') ∧
      Brings 4 source bytes ∧ ∃ front rest, bytes = front ++ rest ∧
        Accounted source ⟨1, 4⟩ (Utf8.lossy front ++ ['a']) l' ∧ ['a'] <+: Utf8.lossy rest ∧
        6 = (Utf8.lossy front).byteLength ∧
        (Utf8.lossy (bytes.take 6) = Utf8.lossy front ↔ 6 = front.length) ∧
        (6 = front.length ↔
          ∀ piece, .invalid piece ∈ Utf8.pieces front → piece.length = 3) := by
  intro bytes source token
  have hrun : ((trace? 20 (create source RuleSet.reference ⟨1, 4⟩) [.scan, .scan]).bind
      fun states => states.getLast?.bind fun l => (scanWithin 20 l).map fun p => p.1.toOption) =
      some (some (some token)) := by decide +kernel
  obtain ⟨states, htrace, hlast⟩ := Option.bind_eq_some_iff.mp hrun
  obtain ⟨l, hl, hscan⟩ := Option.bind_eq_some_iff.mp hlast
  obtain ⟨⟨res, l'⟩, hscan, hres⟩ := Option.map_eq_some_iff.mp hscan
  have hreached : Reached source RuleSet.reference ⟨1, 4⟩ l :=
    ⟨[.scan, .scan], states, trace_of_trace? htrace,
      List.mem_cons_of_mem _ (List.mem_of_getLast? hl)⟩
  have hbrings : Brings 4 source bytes :=
    (Script.delivers_data (by decide) [[0xC3], [0xA9, 0x20, 0xF0], [0x9F, 0x98, 0x61]]
      (by decide)).brings
  cases res with
  | error e => cases hres
  | ok answer =>
    cases Option.some.inj hres
    exact ⟨l, l', hreached, hscan, hbrings, exists_bytes_before_token source RuleSet.reference
      ⟨1, 4⟩ bytes hbrings l hreached 20 token l' hscan⟩

/-- A name behind a byte that is no character is the second byte of the input. Its offset is three,
and the first three bytes of the input hold the name as well as what is before it. -/
theorem offset_beyond_invalid :
    let bytes : List UInt8 := [0xFF, 0x61]
    tokenizeReader (Script.ofBytes bytes) =
        some (.ok [⟨.other, ['\uFFFD'], [], .start⟩, ⟨.ident, ['a'], [], ⟨0, 1, 3⟩⟩]) ∧
      Utf8.lossy bytes = ['\uFFFD', 'a'] ∧ Utf8.lossy (bytes.take 1) = ['\uFFFD'] ∧
      Utf8.lossy (bytes.take 3) ≠ ['\uFFFD'] := by
  decide +kernel

end Lexer

end RuleLexer
