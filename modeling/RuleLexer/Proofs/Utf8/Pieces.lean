import RuleLexer.Proofs.Utf8.Lossy

/-!
# Pieces of a byte string and where they lie

Decoding cuts a byte string into pieces: each is a character or bytes that are none, and the bytes
of the pieces, one after the other, are the byte string (`Leading` is the first of these cuts). So
every start of the decoded text is the text of a start of the bytes, and it can be told how many
bytes that start has. A character takes as many bytes in the text as it took in the input; bytes
that are none take three bytes in the text, however many they were.

* `exists_split_of_lossy`: a cut of the text is a cut of the bytes, where decoding starts afresh.
* `lossy_take_eq_iff`: no other start of the bytes has the same text, as long as bytes follow.
* `byteLength_lossy_eq_iff`: the text has as many bytes as the input exactly if all pieces that are
  no characters have three.
-/

namespace RuleLexer.Utf8

/-- The bytes that a piece was decoded from. -/
def Piece.bytes : Piece → List UInt8
  | .char c => encodeChar c
  | .invalid bytes => bytes

@[simp] theorem pieces_nil : pieces [] = [] := rfl

theorem pieces_cons (b : UInt8) (bs : List UInt8) :
    pieces (b :: bs) = (start b).1 ++ piecesAfter (start b).2 bs :=
  piecesAfter_cons .none b bs

/-! ### The first piece -/

/-- **The first piece of bytes** that follow what is held. What comes behind its bytes, however much
of it there is, is decoded afresh. -/
structure Leading (p : Partial) (x : Piece) (front rest : List UInt8) : Prop where
  bytes_eq : x.bytes = p.bytes ++ front
  /-- In the text, a piece takes no fewer bytes than it had. -/
  length_le : x.bytes.length ≤ x.toChar.utf8Size
  afresh : ∀ more, more <+: rest → piecesAfter p (front ++ more) = x :: pieces more

/-- A piece that the next byte completes by itself. -/
theorem leading_of_push {p : Partial} {x : Piece} {b : UInt8} (rest : List UInt8)
    (h : push p b = ([x], .none)) (hx : x.bytes = p.bytes ++ [b])
    (hl : x.bytes.length ≤ x.toChar.utf8Size) : Leading p x [b] rest := by
  refine ⟨hx, hl, fun more _ => ?_⟩
  rw [List.singleton_append, piecesAfter_cons, h]
  rfl

/-- What is held and given up is a piece of its own, and the byte that does not fit is looked at
afresh. -/
theorem leading_of_given_up {p : Partial} {rest : List UInt8} (hp : Held p)
    (h : ∀ b ∈ rest.head?, push p b = (.invalid p.bytes :: (start b).1, (start b).2)) :
    Leading p (.invalid p.bytes) [] rest := by
  have hlen : p.bytes.length ≤ 3 := Sound.length_le (Or.inr hp)
  refine ⟨(List.append_nil _).symm, ?_, ?_⟩
  · rw [Piece.bytes, Piece.toChar, utf8Size_replacement]
    exact hlen
  · intro more hmore
    cases more with
    | nil => exact piecesAfter_nil_of_held hp
    | cons b bs =>
      obtain ⟨behind, rfl⟩ := hmore
      rw [List.nil_append, piecesAfter_cons, h b rfl, pieces_cons]
      rfl

/-- Bytes start with a piece, unless there are none and nothing is held. -/
theorem exists_leading {p : Partial} (hp : Sound p) (bytes : List UInt8)
    (hne : Held p ∨ bytes ≠ []) :
    ∃ x front rest, bytes = front ++ rest ∧ Leading p x front rest := by
  induction bytes generalizing p with
  | nil =>
    have hheld : Held p := hne.resolve_right (not_not_intro rfl)
    exact ⟨_, [], [], rfl, leading_of_given_up hheld (fun b hb => by simp at hb)⟩
  | cons b bs ih =>
    rcases push_cases hp b with ⟨c, h, hc⟩ | ⟨q, h, hq, hbytes⟩ | ⟨rfl, h⟩ | ⟨hheld, h⟩
    · have hsize : (Piece.char c).bytes.length ≤ (Piece.char c).toChar.utf8Size :=
        Nat.le_of_eq (length_encodeChar c)
      exact ⟨_, [b], bs, rfl, leading_of_push bs h hc hsize⟩
    · -- the sequence has grown by this byte, and the piece ends further on
      obtain ⟨x, front, rest, rfl, hx⟩ := ih (Or.inr hq) (Or.inl hq)
      refine ⟨x, b :: front, rest, rfl, ?_, hx.length_le, ?_⟩
      · rw [hx.bytes_eq, hbytes, List.append_assoc, List.singleton_append]
      · intro more hmore
        rw [List.cons_append, piecesAfter_cons, h, List.nil_append]
        exact hx.afresh more hmore
    · have hsize : (Piece.invalid [b]).bytes.length ≤ (Piece.invalid [b]).toChar.utf8Size := by
        show 1 ≤ replacement.utf8Size
        decide
      exact ⟨_, [b], bs, rfl, leading_of_push bs h rfl hsize⟩
    · refine ⟨_, [], b :: bs, rfl, leading_of_given_up hheld ?_⟩
      rintro _ ⟨⟩
      exact h

/-- A byte string that is not empty is a first piece, and then a shorter byte string. -/
theorem exists_leading_none {bytes : List UInt8} (hne : bytes ≠ []) :
    ∃ x front rest, bytes = front ++ rest ∧ rest.length < bytes.length ∧
      Leading .none x front rest := by
  obtain ⟨x, front, rest, rfl, hx⟩ := exists_leading sound_none bytes (Or.inr hne)
  refine ⟨x, front, rest, rfl, ?_, hx⟩
  -- a piece without bytes would start nothing but itself, over and over
  have hfront : front ≠ [] := by
    intro h0
    have hself := hx.afresh [] List.nil_prefix
    rw [h0] at hself
    exact absurd hself (by simp [piecesAfter, decode])
  have hpos := List.length_pos_iff.mpr hfront
  rw [List.length_append]
  omega

theorem Leading.lossy_append {x : Piece} {front rest more : List UInt8}
    (h : Leading .none x front rest) (hmore : more <+: rest) :
    lossy (front ++ more) = x.toChar :: lossy more := by
  have hpieces : pieces (front ++ more) = x :: pieces more := h.afresh more hmore
  rw [← text_pieces, hpieces, text_cons, text_pieces]

/-! ### Cuts -/

/-- **A cut of the text is a cut of the bytes.** What comes before the cut and what comes behind it
are decoded as if they stood alone, also if some of the bytes at the end are missing. -/
theorem exists_split_of_lossy {bytes : List UInt8} {before behind : Text}
    (h : lossy bytes = before ++ behind) :
    ∃ front rest, bytes = front ++ rest ∧ lossy front = before ∧ lossy rest = behind ∧
      ∀ more, more <+: rest → lossy (front ++ more) = before ++ lossy more := by
  induction before generalizing bytes with
  | nil => exact ⟨[], bytes, rfl, rfl, h, fun _ _ => rfl⟩
  | cons c before ih =>
    have hne : bytes ≠ [] := by
      rintro rfl
      exact List.cons_ne_nil _ _ h.symm
    obtain ⟨x, first, others, rfl, -, hx⟩ := exists_leading_none hne
    rw [hx.lossy_append (List.prefix_refl others), List.cons_append] at h
    obtain ⟨hc, h⟩ := List.cons.inj h
    obtain ⟨front, rest, rfl, hfront, hrest, hcut⟩ := ih h
    have hall (more : List UInt8) (hmore : more <+: rest) :
        lossy (first ++ front ++ more) = c :: before ++ lossy more := by
      have hprefix : front ++ more <+: front ++ rest :=
        (List.prefix_append_right_inj front).mpr hmore
      rw [List.append_assoc, hx.lossy_append hprefix, hcut more hmore, hc, List.cons_append]
    refine ⟨first ++ front, rest, (List.append_assoc _ _ _).symm, ?_, hrest, hall⟩
    rw [hx.lossy_append (List.prefix_append front rest), hfront, hc]

/-! ### Counting bytes -/

theorem length_le_byteLength_lossy (bytes : List UInt8) :
    bytes.length ≤ (lossy bytes).byteLength := by
  have h := le_byteLength_textAfter sound_none bytes
  rw [textAfter_none] at h
  simpa [Partial.none] using h

theorem lossy_eq_nil_iff {bytes : List UInt8} : lossy bytes = [] ↔ bytes = [] := by
  constructor
  · intro h
    have hlen := length_le_byteLength_lossy bytes
    rw [h, Text.byteLength_nil] at hlen
    exact List.length_eq_zero_iff.mp (Nat.le_zero.mp hlen)
  · rintro rfl
    rfl

/-- **Where a cut lies** is told by the text before it: more bytes than there are before the cut
have more text, as long as there are any behind it. -/
theorem lossy_take_eq_iff {front rest : List UInt8} (hne : rest ≠ [])
    (hcut : ∀ more, more <+: rest → lossy (front ++ more) = lossy front ++ lossy more) {n : Nat}
    (hn : front.length ≤ n) :
    lossy ((front ++ rest).take n) = lossy front ↔ n = front.length := by
  have htake : (front ++ rest).take n = front ++ rest.take (n - front.length) := by
    rw [List.take_append, List.take_of_length_le hn]
  rw [htake, hcut _ (List.take_prefix _ rest), List.append_right_eq_self, lossy_eq_nil_iff,
    List.take_eq_nil_iff]
  constructor
  · rintro (h0 | h0)
    · omega
    · exact absurd h0 hne
  · rintro rfl
    exact Or.inl (Nat.sub_self _)

/-- A piece takes as many bytes in the text as it had, unless it is no character and had fewer than
three. -/
theorem Piece.length_bytes_eq_iff (x : Piece) :
    x.bytes.length = x.toChar.utf8Size ↔ ∀ bytes, x = .invalid bytes → bytes.length = 3 := by
  cases x with
  | char c =>
    refine ⟨fun _ bytes h => ?_, fun _ => length_encodeChar c⟩
    cases h
  | invalid bytes =>
    constructor
    · rintro h _ ⟨⟩
      exact h.trans utf8Size_replacement
    · intro h
      exact (h bytes rfl).trans utf8Size_replacement.symm

/-- **The text has as many bytes as the input** exactly if every piece that is no character has
three. -/
theorem byteLength_lossy_eq_iff (bytes : List UInt8) :
    (lossy bytes).byteLength = bytes.length ↔
      ∀ piece, .invalid piece ∈ pieces bytes → piece.length = 3 := by
  induction hn : bytes.length using Nat.strongRecOn generalizing bytes with
  | _ n ih =>
    by_cases hne : bytes = []
    · subst hne
      simp [← hn, lossy_eq_nil_iff.mpr]
    · obtain ⟨x, front, rest, rfl, hshort, hx⟩ := exists_leading_none hne
      have hpieces : pieces (front ++ rest) = x :: pieces rest :=
        hx.afresh rest (List.prefix_refl rest)
      have hrest := ih rest.length (by omega) rest rfl
      have hle := length_le_byteLength_lossy rest
      have hxle := hx.length_le
      have hfront : x.bytes.length = front.length := by
        rw [hx.bytes_eq]
        rfl
      rw [hx.lossy_append (List.prefix_refl rest), Text.byteLength_cons, hpieces]
      -- neither the first piece nor the others can take fewer bytes in the text, so both are exact
      have hsplit : x.toChar.utf8Size + (lossy rest).byteLength = n ↔
          x.bytes.length = x.toChar.utf8Size ∧ (lossy rest).byteLength = rest.length := by
        rw [← hn, List.length_append]
        omega
      rw [hsplit, x.length_bytes_eq_iff, hrest]
      constructor
      · rintro ⟨hfirst, hothers⟩ piece hpiece
        rcases List.mem_cons.mp hpiece with heq | hmem
        · exact hfirst piece heq.symm
        · exact hothers piece hmem
      · intro hall
        refine ⟨fun piece heq => hall piece ?_, fun piece hmem => hall piece ?_⟩
        · exact List.mem_cons.mpr (Or.inl heq.symm)
        · exact List.mem_cons_of_mem _ hmem

end RuleLexer.Utf8
