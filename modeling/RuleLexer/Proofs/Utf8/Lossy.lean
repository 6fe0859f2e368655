import RuleLexer.Proofs.Utf8.Characters

/-!
# Decoding byte by byte and decoding at once

`Utf8.decode` takes bytes one at a time and can be interrupted anywhere; `Utf8.lossy` reads a whole
byte string. `textAfter` is the text that bytes become when they follow what is held and nothing
comes after them, and it ties the two together.

* `textAfter_none`: with nothing held, it is the text of the byte string.
* `length_textAfter_le`, `le_byteLength_decode`: how much text bytes become, counted in characters
  and in bytes.
-/

namespace RuleLexer.Utf8

@[simp] theorem text_nil : text [] = [] := rfl

@[simp] theorem text_cons (x : Piece) (xs : List Piece) : text (x :: xs) = x.toChar :: text xs :=
  rfl

@[simp] theorem text_append (xs ys : List Piece) : text (xs ++ ys) = text xs ++ text ys :=
  List.map_append

@[simp] theorem length_text (xs : List Piece) : (text xs).length = xs.length := List.length_map _

/-- The text of bytes up to the end of the input, after what is held. -/
def textAfter (p : Partial) (bytes : List UInt8) : Text :=
  text (decode p bytes).1 ++ text (finish (decode p bytes).2)

/-- The bytes of a first read, and then those of all others. -/
theorem textAfter_append (p : Partial) (as bs : List UInt8) :
    textAfter p (as ++ bs) = text (decode p as).1 ++ textAfter (decode p as).2 bs := by
  unfold textAfter
  rw [decode_append, text_append, List.append_assoc]

/-- The text of pieces has a replacement character where there is none of their own. -/
theorem text_eq_map_char? (pieces : List Piece) :
    text pieces = (pieces.map Piece.char?).map (·.getD replacement) := by
  rw [List.map_map]
  apply List.map_congr_left
  rintro (c | bytes) -
  · rfl
  · rfl

theorem text_pieces (bytes : List UInt8) : text (pieces bytes) = lossy bytes := by
  rw [text_eq_map_char?, map_char?_pieces, lossy_eq_map_chars]

/-- **Byte by byte as at once.** -/
theorem textAfter_none (bytes : List UInt8) : textAfter .none bytes = lossy bytes := by
  rw [← text_pieces, pieces, piecesAfter, text_append]
  rfl

theorem lossy_eq_of_decode_none {bytes : List UInt8} (h : (decode .none bytes).2 = .none) :
    lossy bytes = text (decode .none bytes).1 := by
  rw [← textAfter_none, textAfter, h, finish_none, text_nil, List.append_nil]

/-! ### How much text -/

/-- One if a sequence is held. -/
def Partial.heldCount (p : Partial) : Nat := if p.isEmpty then 0 else 1

theorem Partial.heldCount_le_one (p : Partial) : p.heldCount ≤ 1 := by
  unfold heldCount
  split_ifs <;> omega

theorem length_start_add_le (b : UInt8) : (start b).1.length + (start b).2.heldCount ≤ 1 := by
  rcases start_cases b with ⟨c, h, _⟩ | ⟨q, h, hq, _⟩ | h <;> rw [h]
  · exact Nat.le_refl 1
  · rw [Partial.heldCount, hq.isEmpty_eq_false]
    exact Nat.le_refl 1
  · exact Nat.le_refl 1

theorem length_push_add_le {p : Partial} (hp : Sound p) (b : UInt8) :
    (push p b).1.length + (push p b).2.heldCount ≤ p.heldCount + 1 := by
  rcases push_cases hp b with ⟨c, h, _⟩ | ⟨q, h, hq, _⟩ | ⟨_, h⟩ | ⟨hp', h⟩ <;> rw [h]
  · exact Nat.le_add_left 1 _
  · have hc : q.heldCount = 1 := by rw [Partial.heldCount, hq.isEmpty_eq_false]; rfl
    simp only [List.length_nil, hc]
    omega
  · exact Nat.le_add_left 1 _
  · have hc : p.heldCount = 1 := by rw [Partial.heldCount, hp'.isEmpty_eq_false]; rfl
    have := length_start_add_le b
    simp only [List.length_cons, hc]
    omega

/-- One character for each byte at most, and one for a sequence that was held. -/
theorem length_decode_add_le {p : Partial} (hp : Sound p) (bytes : List UInt8) :
    (decode p bytes).1.length + (decode p bytes).2.heldCount ≤ p.heldCount + bytes.length := by
  induction bytes generalizing p with
  | nil => simp [decode]
  | cons b bs ih =>
    have h1 := length_push_add_le hp b
    have h2 := ih (hp.push b)
    rw [decode_cons]
    simp only [List.length_append, List.length_cons]
    omega

theorem length_finish (p : Partial) : (finish p).length = p.heldCount := by
  unfold finish Partial.heldCount
  split_ifs <;> rfl

theorem length_textAfter_le {p : Partial} (hp : Sound p) (bytes : List UInt8) :
    (textAfter p bytes).length ≤ p.heldCount + bytes.length := by
  have h := length_decode_add_le hp bytes
  unfold textAfter
  rw [List.length_append, length_text, length_text, length_finish]
  exact h

theorem utf8Size_replacement : replacement.utf8Size = 3 := by decide

theorem le_byteLength_start (b : UInt8) :
    1 ≤ (text (start b).1).byteLength + (start b).2.bytes.length := by
  rcases start_cases b with ⟨c, h, hc⟩ | ⟨q, h, _, hq⟩ | h <;> rw [h]
  · have := length_encodeChar c
    rw [hc] at this
    simp only [text_cons, Piece.toChar, Text.byteLength_cons, ← this, List.length_cons]
    omega
  · rw [hq]
    exact Nat.le_add_left 1 _
  · simp only [text_cons, Piece.toChar, Text.byteLength_cons, utf8Size_replacement]
    omega

theorem le_byteLength_push {p : Partial} (hp : Sound p) (b : UInt8) :
    p.bytes.length + 1 ≤ (text (push p b).1).byteLength + (push p b).2.bytes.length := by
  rcases push_cases hp b with ⟨c, h, hc⟩ | ⟨q, h, _, hq⟩ | ⟨rfl, h⟩ | ⟨hp', h⟩ <;> rw [h]
  · have := length_encodeChar c
    rw [hc, List.length_append, List.length_singleton] at this
    simp only [text_cons, Piece.toChar, Text.byteLength_cons]
    omega
  · rw [hq, List.length_append, List.length_singleton]
    exact Nat.le_add_left _ _
  · simp only [text_cons, Piece.toChar, Text.byteLength_cons, utf8Size_replacement, Partial.none,
      List.length_nil]
    omega
  · -- at most three bytes are given up, as many as the replacement character takes
    have h3 := Sound.length_le hp
    have := le_byteLength_start b
    simp only [text_cons, Piece.toChar, Text.byteLength_cons, utf8Size_replacement]
    omega

/-- **No byte is lost from the count**: each byte that comes is held, or is matched by a byte of
text. -/
theorem le_byteLength_decode {p : Partial} (hp : Sound p) (bytes : List UInt8) :
    p.bytes.length + bytes.length ≤
      (text (decode p bytes).1).byteLength + (decode p bytes).2.bytes.length := by
  induction bytes generalizing p with
  | nil => simp [decode]
  | cons b bs ih =>
    have h1 := le_byteLength_push hp b
    have h2 := ih (hp.push b)
    rw [decode_cons]
    simp only [text_append, Text.byteLength_append, List.length_cons]
    omega

theorem le_byteLength_textAfter {p : Partial} (hp : Sound p) (bytes : List UInt8) :
    p.bytes.length + bytes.length ≤ (textAfter p bytes).byteLength := by
  have h := le_byteLength_decode hp bytes
  unfold textAfter
  rw [Text.byteLength_append]
  rcases hp.decode bytes with hq | hq
  · rw [hq] at h ⊢
    rw [finish_none, text_nil, Text.byteLength_nil]
    exact h
  · -- what is left of a character takes three bytes in the text, and never had more
    have h3 := Sound.length_le (Or.inr hq)
    simp only [hq.finish_eq, text_cons, text_nil, Piece.toChar, Text.byteLength_cons,
      utf8Size_replacement, Text.byteLength_nil]
    omega

/-! ### One byte at a time -/

/-- What one byte can bring: at most one character, or two if it makes clear that what was held is
none. -/
def Slight (t : Text) : Prop := t.length ≤ 1 ∨ ∃ c, t = [replacement, c]

theorem Slight.suffix {s t : Text} (h : Slight t) (hst : s <:+ t) : Slight s := by
  rcases h with h | ⟨c, rfl⟩
  · exact Or.inl (Nat.le_trans hst.length_le h)
  · rcases List.suffix_cons_iff.mp hst with rfl | hs
    · exact Or.inr ⟨c, rfl⟩
    · exact Or.inl hs.length_le

theorem slight_start (b : UInt8) :
    (text (start b).1).length ≤ 1 ∧ (text (start b).1 ++ text (finish (start b).2)).length ≤ 1 := by
  have h := length_start_add_le b
  rw [List.length_append, length_text, length_text, length_finish]
  omega

theorem slight_replacement_cons {t : Text} (h : t.length ≤ 1) : Slight (replacement :: t) := by
  rcases t with _ | ⟨c, _ | ⟨d, t⟩⟩
  · exact Or.inl (Nat.le_refl 1)
  · exact Or.inr ⟨c, rfl⟩
  · simp at h

/-- One byte brings slight texts, at the end of the input or not. -/
theorem slight_decode {p : Partial} (hp : Sound p) {bytes : List UInt8} (hb : bytes.length ≤ 1) :
    Slight (text (decode p bytes).1) ∧ Slight (textAfter p bytes) := by
  rcases bytes with _ | ⟨b, _ | ⟨b', bytes⟩⟩
  · refine ⟨Or.inl (Nat.zero_le 1), Or.inl ?_⟩
    have h := length_finish p
    have hone := p.heldCount_le_one
    show (text [] ++ text (finish p)).length ≤ 1
    rw [List.length_append, length_text, length_text, h, List.length_nil]
    omega
  · unfold textAfter
    rw [decode_singleton]
    obtain ⟨hs, hs'⟩ := slight_start b
    rcases push_cases hp b with ⟨c, h, -⟩ | ⟨q, h, hq, -⟩ | ⟨-, h⟩ | ⟨-, h⟩ <;> rw [h]
    · exact ⟨Or.inl (Nat.le_refl 1), Or.inl (Nat.le_refl 1)⟩
    · simp only [hq.finish_eq]
      exact ⟨Or.inl (Nat.zero_le 1), Or.inl (Nat.le_refl 1)⟩
    · exact ⟨Or.inl (Nat.le_refl 1), Or.inl (Nat.le_refl 1)⟩
    · exact ⟨slight_replacement_cons hs, slight_replacement_cons hs'⟩
  · simp at hb

end RuleLexer.Utf8
