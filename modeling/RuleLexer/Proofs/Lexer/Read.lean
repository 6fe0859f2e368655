import RuleLexer.Lexer.Refill
import RuleLexer.Proofs.Utf8.Lossy

/-!
# What one read does

`fill` asks the source once. A read can go three ways (`fill_of_exhausted`, `fill_of_fault`,
`fill_of_status`, together `fill_cases`), and each is told as one equation for the lexer afterwards,
so that nothing else has to look inside a read: every field that an equation does not name is as it
was. The journal is left open, since nothing depends on it. None of them leaves the place where the
lexer stands (`samePlace_fill`).

Of a successful read, `counted` are the bytes that count, `brought` is the text that it adds to the
buffer, and `leftPending` is what waits for the next read.
-/

namespace RuleLexer.Lexer

variable {σ ρ : Type}

theorem length_areaBytes (area : List UInt8) (n : Nat) : (areaBytes area n).length = n := by
  simp only [areaBytes, List.length_append, List.length_take, List.length_replicate]
  omega

/-- Bytes that were written and announced are the ones that count. -/
theorem areaBytes_overwrite (area written : List UInt8) {n size : Nat} (hs : n ≤ size)
    (hw : n ≤ written.length) : areaBytes (overwrite area written size) n = written.take n := by
  have hlen : n ≤ (written.take size).length := by
    rw [List.length_take]
    omega
  unfold areaBytes overwrite
  rw [List.take_append_of_le_length hlen, List.take_take, Nat.min_eq_left hs]
  have h0 : n - (written.take size ++ area.drop (written.take size).length).length = 0 := by
    rw [List.length_append]
    omega
  rw [h0]
  exact List.append_nil _

/-! ### What a successful read takes over -/

/-- What is pending once the input has ended: nothing. -/
def flushed (p : Utf8.Partial) : Utf8.Partial := if p.isEmpty then p else .none

theorem flushed_eq_none {p : Utf8.Partial} (hs : Utf8.Sound p) : flushed p = .none := by
  unfold flushed
  rcases hs with rfl | h
  · rfl
  · rw [h.isEmpty_eq_false, if_neg Bool.false_ne_true]

section Accept

variable (l : Lexer σ ρ) (status : ReadStatus)

/-- The bytes that count. -/
def counted : List UInt8 := areaBytes l.area (min status.read l.sizes.effectiveChunk)

/-- The source has nothing more to give, as of this read or an earlier one. -/
def endsWith : Bool := status.exhausted || l.exhausted

/-- The text that a read brings: the characters that its bytes complete, and at the end of the input
one for what is left of a character. -/
def brought : Text :=
  Utf8.text (Utf8.decode l.pending (l.counted status)).1 ++
    if l.endsWith status then Utf8.text (Utf8.finish (Utf8.decode l.pending (l.counted status)).2)
    else []

/-- The pieces that a read brings: those that its bytes complete, and at the end of the input what
is left. -/
def broughtPieces : List Utf8.Piece :=
  (Utf8.decode l.pending (l.counted status)).1 ++
    if l.endsWith status then Utf8.finish (Utf8.decode l.pending (l.counted status)).2 else []

theorem text_broughtPieces : Utf8.text (l.broughtPieces status) = l.brought status := by
  unfold broughtPieces brought
  rw [Utf8.text_append]
  split_ifs <;> rfl

/-- What is pending after a read: nothing at the end of the input. -/
def leftPending : Utf8.Partial :=
  if l.endsWith status then flushed (Utf8.decode l.pending (l.counted status)).2
  else (Utf8.decode l.pending (l.counted status)).2

end Accept

theorem flushPending_eq (l : Lexer σ ρ) :
    ∃ journal, l.flushPending = { l with
      buffer := l.buffer ++ Utf8.text (Utf8.finish l.pending),
      pending := flushed l.pending, journal := journal } := by
  unfold flushPending flushed Utf8.finish
  split_ifs
  · exact ⟨l.journal, by rw [Utf8.text_nil, List.append_nil]⟩
  · exact ⟨_, rfl⟩

/-- Decoding adds the characters that are complete, and at the end of the input what is left. -/
theorem decode_eq (l : Lexer σ ρ) (bytes : List UInt8) :
    ∃ journal, l.decode bytes = { l with
      buffer := l.buffer ++ (Utf8.text (Utf8.decode l.pending bytes).1 ++
        if l.exhausted then Utf8.text (Utf8.finish (Utf8.decode l.pending bytes).2) else []),
      pending :=
        if l.exhausted then flushed (Utf8.decode l.pending bytes).2
        else (Utf8.decode l.pending bytes).2,
      journal := journal } := by
  cases he : l.exhausted with
  | false =>
    refine ⟨(l.append (Utf8.decode l.pending bytes).1).journal, ?_⟩
    rw [if_neg Bool.false_ne_true, if_neg Bool.false_ne_true, List.append_nil]
    unfold decode
    simp only [append, he, Bool.false_eq_true, if_false]
  | true =>
    obtain ⟨journal, h⟩ := flushPending_eq
      { l.append (Utf8.decode l.pending bytes).1 with pending := (Utf8.decode l.pending bytes).2 }
    refine ⟨journal, ?_⟩
    rw [if_pos rfl, if_pos rfl]
    unfold decode
    simp only [append, he, if_true] at h ⊢
    rw [h, List.append_assoc]

/-- What a successful read takes over. The generation counts the reads that brought text. -/
theorem accept_eq (l : Lexer σ ρ) (status : ReadStatus) :
    ∃ journal, l.accept status =
      (.ok (min status.read l.sizes.effectiveChunk), { l with
        buffer := l.buffer ++ l.brought status, pending := l.leftPending status,
        exhausted := l.endsWith status,
        generation := if l.brought status = [] then l.generation else l.generation + 1,
        journal := journal }) := by
  -- before decoding, only the end of the input is marked and something is noted
  obtain ⟨journal, hm⟩ : ∃ journal,
      (if status.exhausted then { l.note .exhausted with exhausted := true }
        else if min status.read l.sizes.effectiveChunk = 0 then l.note .nothingYet else l) =
      { l with exhausted := l.endsWith status, journal := journal } := by
    unfold endsWith
    split_ifs with h1 h2
    · rw [h1]
      exact ⟨_, rfl⟩
    · rw [Bool.eq_false_iff.mpr h1]
      exact ⟨_, rfl⟩
    · rw [Bool.eq_false_iff.mpr h1]
      exact ⟨l.journal, rfl⟩
  obtain ⟨journal', hd⟩ := decode_eq { l with exhausted := l.endsWith status, journal := journal }
    (l.counted status)
  unfold accept
  simp only [hm]
  rw [show areaBytes l.area (min status.read l.sizes.effectiveChunk) = l.counted status from rfl,
    hd]
  -- the buffer has become longer exactly if there is new text
  change ∃ journal, (_, note (if l.buffer.length < (l.buffer ++ l.brought status).length then _
    else _) _) = _
  by_cases hb : l.brought status = []
  · rw [if_neg (by rw [hb, List.append_nil]; exact Nat.lt_irrefl _), if_pos hb]
    exact ⟨_, rfl⟩
  · have : l.buffer.length < (l.buffer ++ l.brought status).length := by
      rw [List.length_append]
      have := List.length_pos_iff.mpr hb
      omega
    rw [if_pos this, if_neg hb]
    exact ⟨_, rfl⟩

/-! ### The three ways a read can go -/

section Fill

variable [ByteSource σ] (l : Lexer σ ρ)

/-- What the source answers when it is asked. -/
def reply : ReadReply := (ByteSource.readChunk l.source l.sizes.effectiveChunk).1

/-- The lexer once the source has answered and written to the read area. -/
def asked : Lexer σ ρ :=
  { l with
    source := (ByteSource.readChunk l.source l.sizes.effectiveChunk).2,
    area := overwrite l.area l.reply.written l.sizes.effectiveChunk }

theorem fill_of_exhausted (h : l.exhausted = true) : l.fill = (.ok 0, l) := by
  unfold fill
  rw [if_pos h]

theorem fill_of_fault (h : l.exhausted = false) {fault : ReadFault}
    (hr : l.reply.outcome = .error fault) :
    l.fill = (.error (.read l.cursor fault), l.asked.note (.readFailed l.cursor fault)) := by
  unfold reply at hr
  unfold fill
  rw [if_neg (ne_true_of_eq_false h)]
  simp only [hr]
  rfl

/-! ### What a read has brought

As long as the input has not ended, a read ends it if and only if its status says so. -/

theorem endsWith_asked {l : Lexer σ ρ} (he : l.exhausted = false) (status : ReadStatus) :
    l.asked.endsWith status = status.exhausted := by
  show (status.exhausted || l.exhausted) = _
  rw [he, Bool.or_false]

theorem brought_asked {l : Lexer σ ρ} (he : l.exhausted = false) (status : ReadStatus) :
    l.asked.brought status =
      if status.exhausted then Utf8.textAfter l.pending (l.asked.counted status)
      else Utf8.text (Utf8.decode l.pending (l.asked.counted status)).1 := by
  unfold brought
  rw [endsWith_asked he]
  cases status.exhausted with
  | true => rfl
  | false => exact List.append_nil _

theorem leftPending_asked {l : Lexer σ ρ} (he : l.exhausted = false) (hs : Utf8.Sound l.pending)
    (status : ReadStatus) :
    l.asked.leftPending status =
      if status.exhausted then .none
      else (Utf8.decode l.pending (l.asked.counted status)).2 := by
  have hsound : Utf8.Sound (Utf8.decode l.asked.pending (l.asked.counted status)).2 := hs.decode _
  unfold leftPending
  rw [endsWith_asked he, flushed_eq_none hsound]
  rfl

/-- A source that is honest has written the bytes that it announces, and these are the ones that
count. -/
theorem counted_asked {l : Lexer σ ρ} {n : Nat} (ended : Bool) (hsize : n ≤ l.sizes.effectiveChunk)
    (hwritten : n ≤ l.reply.written.length) :
    l.asked.counted ⟨n, ended⟩ = l.reply.written.take n := by
  show areaBytes (overwrite l.area l.reply.written _) (min n l.sizes.effectiveChunk) = _
  rw [Nat.min_eq_left hsize]
  exact areaBytes_overwrite _ _ hsize hwritten

theorem fill_eq_accept {l : Lexer σ ρ} (h : l.exhausted = false) {status : ReadStatus}
    (hr : l.reply.outcome = .ok status) : l.fill = l.asked.accept status := by
  unfold reply at hr
  unfold fill
  rw [if_neg (ne_true_of_eq_false h)]
  simp only [hr]
  rfl

theorem fill_of_status {l : Lexer σ ρ} (h : l.exhausted = false) {status : ReadStatus}
    (hr : l.reply.outcome = .ok status) :
    ∃ journal, l.fill = (.ok (l.asked.counted status).length, { l.asked with
      buffer := l.buffer ++ l.asked.brought status, pending := l.asked.leftPending status,
      exhausted := status.exhausted,
      generation := if l.asked.brought status = [] then l.generation else l.generation + 1,
      journal := journal }) := by
  obtain ⟨journal, ha⟩ := accept_eq l.asked status
  rw [fill_eq_accept h hr, ha, endsWith_asked h]
  exact ⟨journal, by rw [counted, length_areaBytes]; rfl⟩

/-- Everything that a read can do: it is not made at all, or it fails, or the source has answered
with a status. -/
theorem fill_cases :
    (l.exhausted = true ∧ l.fill = (.ok 0, l)) ∨
    (l.exhausted = false ∧ ∃ fault, l.reply.outcome = .error fault ∧
      l.fill = (.error (.read l.cursor fault), l.asked.note (.readFailed l.cursor fault))) ∨
    (l.exhausted = false ∧ ∃ status journal, l.reply.outcome = .ok status ∧
      l.fill = (.ok (l.asked.counted status).length, { l.asked with
        buffer := l.buffer ++ l.asked.brought status, pending := l.asked.leftPending status,
        exhausted := status.exhausted,
        generation := if l.asked.brought status = [] then l.generation else l.generation + 1,
        journal := journal })) := by
  cases he : l.exhausted with
  | true => exact Or.inl ⟨rfl, fill_of_exhausted l he⟩
  | false =>
    cases hr : l.reply.outcome with
    | error fault => exact Or.inr (Or.inl ⟨rfl, fault, rfl, fill_of_fault l he hr⟩)
    | ok status =>
      obtain ⟨journal, hf⟩ := fill_of_status he hr
      exact Or.inr (Or.inr ⟨rfl, status, journal, rfl, hf⟩)

/-- A read asks the source once, whether that fails or not. -/
theorem fill_source {l : Lexer σ ρ} (he : l.exhausted = false) :
    l.fill.2.source = (ByteSource.readChunk l.source l.sizes.effectiveChunk).2 := by
  rcases l.fill_cases with ⟨he', -⟩ | ⟨-, fault, -, hf⟩ | ⟨-, status, journal, -, hf⟩
  · exact absurd he' (ne_true_of_eq_false he)
  · rw [hf]
    rfl
  · rw [hf]
    rfl

/-- A read that succeeds: the source was not asked at all, or has answered with a status. -/
theorem fill_eq_ok {l l' : Lexer σ ρ} {k : Nat} (h : l.fill = (.ok k, l')) :
    (l.exhausted = true ∧ k = 0 ∧ l' = l) ∨
      (l.exhausted = false ∧ ∃ status journal, l.reply.outcome = .ok status ∧
        k = (l.asked.counted status).length ∧
        l' = { l.asked with
          buffer := l.buffer ++ l.asked.brought status, pending := l.asked.leftPending status,
          exhausted := status.exhausted,
          generation := if l.asked.brought status = [] then l.generation else l.generation + 1,
          journal := journal }) := by
  rcases l.fill_cases with ⟨he, hf⟩ | ⟨-, fault, -, hf⟩ | ⟨he, status, journal, hr, hf⟩
  · rw [hf] at h
    cases h
    exact Or.inl ⟨he, rfl, rfl⟩
  · rw [hf] at h
    cases h
  · rw [hf] at h
    cases h
    exact Or.inr ⟨he, status, journal, hr, rfl, rfl⟩

/-- A read that fails: the source was asked and has failed, and the error says where the lexer
stands. -/
theorem fill_eq_error {l l' : Lexer σ ρ} {e : LexError} (h : l.fill = (.error e, l')) :
    ∃ fault, l.reply.outcome = .error fault ∧ e = .read l.cursor fault ∧
      l' = l.asked.note (.readFailed l.cursor fault) := by
  rcases l.fill_cases with ⟨-, hf⟩ | ⟨-, fault, hr, hf⟩ | ⟨-, status, journal, -, hf⟩
  · rw [hf] at h
    cases h
  · rw [hf] at h
    cases h
    exact ⟨fault, hr, rfl, rfl⟩
  · rw [hf] at h
    cases h

/-- Nothing was consumed and nothing was exchanged between two states. -/
structure SamePlace (l l' : Lexer σ ρ) : Prop where
  cursor : l'.cursor = l.cursor
  lineBack : l'.lineBack = l.lineBack
  rules : l'.rules = l.rules
  sizes : l'.sizes = l.sizes

/-- A read stays in its place, however it goes, and only ever adds to the end of the buffer. -/
theorem samePlace_fill : l.SamePlace l.fill.2 ∧ ∃ new, l.fill.2.buffer = l.buffer ++ new := by
  rcases l.fill_cases with ⟨-, hf⟩ | ⟨-, fault, -, hf⟩ | ⟨-, status, journal, -, hf⟩
  · rw [hf]
    exact ⟨⟨rfl, rfl, rfl, rfl⟩, [], (List.append_nil _).symm⟩
  · rw [hf]
    exact ⟨⟨rfl, rfl, rfl, rfl⟩, [], (List.append_nil _).symm⟩
  · rw [hf]
    exact ⟨⟨rfl, rfl, rfl, rfl⟩, _, rfl⟩

end Fill

end RuleLexer.Lexer
