import Mathlib.Data.List.Induction
import RuleLexer.Proofs.Utf8.Sequence

/-!
# The characters of a byte string

Where bytes are no character, decoding puts a replacement character in their place. In the text that
cannot be told from a replacement character that was in the input. `chars` is the text before it is
put there: the characters of a byte string, and none wherever bytes are no character. So it says how
often decoding has replaced something (`replaced`).

* `lossy_eq_map_chars`: the text is the characters with each none replaced.
* `count_replacement_lossy`: so of the replacement characters in a text, these are the ones that
  were not in the input.
* `map_char?_piecesAfter`: decoding byte by byte comes to the same characters as reading the byte
  string at once.
* `exists_whole_pieces`: after any bytes, those that are not held anymore have become the pieces of
  their own byte string, so that what is held is all that still waits.
-/

namespace RuleLexer.Utf8

/-- The character of a piece, none for bytes that are no character. -/
def Piece.char? : Piece → Option Char
  | .char c => some c
  | .invalid _ => none

/-- How many of some pieces are no characters. -/
def replacements (pieces : List Piece) : Nat := (pieces.map Piece.char?).count none

@[simp] theorem replacements_nil : replacements [] = 0 := rfl

@[simp] theorem replacements_char_cons (c : Char) (xs : List Piece) :
    replacements (.char c :: xs) = replacements xs := List.count_cons_of_ne (Option.some_ne_none c)

@[simp] theorem replacements_invalid_cons (bytes : List UInt8) (xs : List Piece) :
    replacements (.invalid bytes :: xs) = replacements xs + 1 := List.count_cons_self

theorem replacements_append (xs ys : List Piece) :
    replacements (xs ++ ys) = replacements xs + replacements ys := by
  unfold replacements
  rw [List.map_append, List.count_append]

/-! ### At once -/

/-- The characters of a byte string after so many bytes that are passed over. -/
def charsAfter : Nat → List UInt8 → List (Option Char)
  | _, [] => []
  | skip + 1, _ :: bs => charsAfter skip bs
  | 0, b :: bs => (firstChar? b bs).1 :: charsAfter (firstChar? b bs).2 bs

/-- The characters of a byte string, none for each longest start of a sequence that goes wrong. -/
def chars (bytes : List UInt8) : List (Option Char) := charsAfter 0 bytes

/-- How many replacement characters decoding puts into the text of a byte string. Those that were in
the input do not count. -/
def replaced (bytes : List UInt8) : Nat := (chars bytes).count none

theorem lossyAfter_eq_map (skip : Nat) (bytes : List UInt8) :
    lossyAfter skip bytes = (charsAfter skip bytes).map (·.getD replacement) := by
  induction bytes generalizing skip with
  | nil => cases skip <;> rfl
  | cons b bs ih =>
    cases skip with
    | zero =>
      rw [lossyAfter, charsAfter, List.map_cons, ← ih]
      rfl
    | succ skip => exact ih skip

/-- **The text of a byte string** has a replacement character where there is none of its own. -/
theorem lossy_eq_map_chars (bytes : List UInt8) :
    lossy bytes = (chars bytes).map (·.getD replacement) := lossyAfter_eq_map 0 bytes

/-- **The replacement characters of a text** are those that were in the input, and those that were
put there. -/
theorem count_replacement_lossy (bytes : List UInt8) :
    (lossy bytes).count replacement = (chars bytes).count (some replacement) + replaced bytes := by
  rw [lossy_eq_map_chars, replaced]
  induction chars bytes with
  | nil => rfl
  | cons c cs ih =>
    cases c with
    | none => simp [ih, Nat.add_assoc]
    | some c =>
      simp only [List.map_cons, List.count_cons, ih, Option.getD_some]
      grind

/-! ### Byte by byte -/

theorem decode_cons (p : Partial) (b : UInt8) (bs : List UInt8) :
    decode p (b :: bs) =
      ((push p b).1 ++ (decode (push p b).2 bs).1, (decode (push p b).2 bs).2) := rfl

theorem decode_singleton (p : Partial) (b : UInt8) : decode p [b] = push p b := by
  rw [decode_cons]
  exact Prod.ext (List.append_nil _) rfl

@[simp] theorem finish_none : finish .none = [] := rfl

theorem Held.finish_eq {p : Partial} (hp : Held p) : finish p = [.invalid p.bytes] := by
  unfold finish
  rw [hp.isEmpty_eq_false]
  rfl

/-- The pieces of bytes up to the end of the input, after what is held. -/
def piecesAfter (p : Partial) (bytes : List UInt8) : List Piece :=
  (decode p bytes).1 ++ finish (decode p bytes).2

/-- The pieces of a byte string. -/
def pieces (bytes : List UInt8) : List Piece := piecesAfter .none bytes

theorem piecesAfter_nil_of_held {p : Partial} (hp : Held p) :
    piecesAfter p [] = [.invalid p.bytes] := by
  rw [piecesAfter, decode, hp.finish_eq, List.nil_append]

theorem piecesAfter_cons (p : Partial) (b : UInt8) (bs : List UInt8) :
    piecesAfter p (b :: bs) = (push p b).1 ++ piecesAfter (push p b).2 bs := by
  unfold piecesAfter
  rw [decode_cons, List.append_assoc]

/-! ### The same as at once -/

/-- What a held sequence becomes, by the rule for whole byte strings: the bytes that continue it are
counted, and it is a character if none is missing. -/
def resumed (p : Partial) (bytes : List UInt8) : List (Option Char) :=
  let c := continuation p.missing p.low p.high p.bits bytes
  (if c.1 = p.missing then some (Char.ofNat c.2) else none) :: charsAfter c.1 bytes

theorem chars_cons_of_lead {b : UInt8} {missing low high bits : Nat} (bs : List UInt8)
    (h : lead? b.toNat = some (missing, low, high, bits)) :
    chars (b :: bs) = resumed ⟨[b], missing, low, high, bits⟩ bs := by
  have hb : ¬ b.toNat < 0x80 := by
    have := lead?_cases h
    omega
  unfold chars
  rw [charsAfter, firstChar?, if_neg hb, h]
  rfl

/-- A byte out of bounds ends what is held; it is looked at afresh. -/
theorem resumed_cons_of_not_mem {p : Partial} {b : UInt8} (hp : Held p) (bs : List UInt8)
    (hb : ¬ (p.low ≤ b.toNat ∧ b.toNat ≤ p.high)) :
    resumed p (b :: bs) = none :: chars (b :: bs) := by
  have hm := hp.length_add_missing_le
  unfold resumed
  obtain ⟨m, hm'⟩ : ∃ m, p.missing = m + 1 := ⟨p.missing - 1, by omega⟩
  rw [hm', continuation, if_neg hb]
  simp only
  rw [if_neg (by omega)]
  rfl

/-- A byte within the bounds continues what is held. -/
theorem resumed_cons_of_mem {p : Partial} {b : UInt8} (hp : Held p) (bs : List UInt8)
    (hb : p.low ≤ b.toNat ∧ b.toNat ≤ p.high) :
    resumed p (b :: bs) =
      if p.missing ≤ 1 then some (Char.ofNat (p.bits * 64 + (b.toNat - 0x80))) :: chars bs
      else resumed ⟨p.bytes ++ [b], p.missing - 1, 0x80, 0xBF, p.bits * 64 + (b.toNat - 0x80)⟩ bs
    := by
  have hm := hp.length_add_missing_le
  unfold resumed
  obtain ⟨m, hm'⟩ : ∃ m, p.missing = m + 1 := ⟨p.missing - 1, by omega⟩
  rw [hm', continuation, if_pos hb]
  simp only [Nat.add_sub_cancel, Nat.add_right_cancel_iff]
  cases m with
  | zero =>
    rw [continuation, if_pos rfl, if_pos (Nat.le_refl 1)]
    rfl
  | succ m =>
    have h2 : ¬ m + 1 + 1 ≤ 1 := by omega
    simp only [if_neg h2]
    rfl

/-- **Byte by byte as at once**, both from nothing and from a held sequence. -/
theorem map_char?_piecesAfter (bytes : List UInt8) :
    (piecesAfter .none bytes).map Piece.char? = chars bytes ∧
      ∀ p, Held p → (piecesAfter p bytes).map Piece.char? = resumed p bytes := by
  induction bytes with
  | nil =>
    refine ⟨rfl, fun p hp => ?_⟩
    have hm := hp.length_add_missing_le
    obtain ⟨m, hm'⟩ : ∃ m, p.missing = m + 1 := ⟨p.missing - 1, by omega⟩
    unfold resumed
    rw [piecesAfter_nil_of_held hp, hm', continuation]
    simp only
    rw [if_neg (by omega)]
    rfl
  | cons b bs ih =>
    obtain ⟨ihn, ihp⟩ := ih
    have hnone : (piecesAfter .none (b :: bs)).map Piece.char? = chars (b :: bs) := by
      rw [piecesAfter_cons, List.map_append]
      show (start b).1.map Piece.char? ++ (piecesAfter (start b).2 bs).map Piece.char? = _
      unfold start
      by_cases hb : b.toNat < 0x80
      · rw [if_pos hb, ihn]
        unfold chars
        rw [charsAfter, firstChar?, if_pos hb]
        rfl
      · rw [if_neg hb]
        cases h : lead? b.toNat with
        | none =>
          simp only [ihn]
          unfold chars
          rw [charsAfter, firstChar?, if_neg hb, h]
          rfl
        | some r =>
          obtain ⟨missing, low, high, bits⟩ := r
          simp only
          rw [ihp _ (Held.lead h), chars_cons_of_lead bs h]
          rfl
    refine ⟨hnone, fun p hp => ?_⟩
    rw [piecesAfter_cons, List.map_append]
    by_cases hb : p.low ≤ b.toNat ∧ b.toNat ≤ p.high
    · rw [resumed_cons_of_mem hp bs hb]
      unfold push
      rw [hp.isEmpty_eq_false, if_neg Bool.false_ne_true, if_pos hb]
      by_cases hm : p.missing ≤ 1
      · simp only [if_pos hm, ihn]
        rfl
      · simp only [if_neg hm]
        rw [ihp _ (Held.more hp hb (by omega))]
        rfl
    · -- the byte is looked at as if nothing had been held, which is the first part
      rw [resumed_cons_of_not_mem hp bs hb, ← hnone, piecesAfter_cons]
      unfold push
      rw [hp.isEmpty_eq_false, if_neg Bool.false_ne_true, if_neg hb, List.map_append]
      rfl

/-- Byte by byte as at once. -/
theorem map_char?_pieces (bytes : List UInt8) : (pieces bytes).map Piece.char? = chars bytes :=
  (map_char?_piecesAfter bytes).1

/-- As many replacement characters as there are pieces that are none. -/
theorem replacements_pieces (bytes : List UInt8) :
    replacements (pieces bytes) = replaced bytes := by
  rw [replacements, map_char?_pieces, replaced]

theorem pieces_of_decode_none {bytes : List UInt8} (h : (decode .none bytes).2 = .none) :
    pieces bytes = (decode .none bytes).1 := by
  rw [pieces, piecesAfter, h, finish_none, List.append_nil]

/-- **What is not held is decoded**: of the bytes that have come, those before the held ones have
become the pieces of their own byte string. -/
theorem exists_whole_pieces (bytes : List UInt8) :
    ∃ whole, bytes = whole ++ (decode .none bytes).2.bytes ∧
      (decode .none bytes).1 = pieces whole := by
  induction bytes using List.reverseRecOn with
  | nil => exact ⟨[], rfl, rfl⟩
  | append_singleton bytes b ih =>
    obtain ⟨whole, hw, ht⟩ := ih
    have hs : Sound (decode .none bytes).2 := sound_none.decode bytes
    have happ : decode .none (bytes ++ [b]) = ((decode .none bytes).1 ++
        (push (decode .none bytes).2 b).1, (push (decode .none bytes).2 b).2) := by
      rw [decode_append, decode_singleton]
    -- with nothing held at the end, all bytes together are the ones decoded
    have hall (hn : (push (decode .none bytes).2 b).2 = .none) :
        ∃ whole, bytes ++ [b] = whole ++ (decode .none (bytes ++ [b])).2.bytes ∧
          (decode .none (bytes ++ [b])).1 = pieces whole := by
      refine ⟨bytes ++ [b], ?_, ?_⟩
      · rw [happ, hn]
        exact (List.append_nil _).symm
      · exact (pieces_of_decode_none (by rw [happ, hn])).symm
    rcases push_cases hs b with ⟨c, h, _⟩ | ⟨q, h, _, hq⟩ | ⟨_, h⟩ | ⟨hp, h⟩
    · exact hall (by rw [h])
    · refine ⟨whole, ?_, ?_⟩
      · rw [happ, h]
        show bytes ++ [b] = whole ++ q.bytes
        rw [hq, ← List.append_assoc, ← hw]
      · rw [happ, h, List.append_nil, ht]
    · exact hall (by rw [h])
    · rcases start_cases b with ⟨c, hb, _⟩ | ⟨q, hb, _, hq⟩ | hb
      · exact hall (by rw [h, hb])
      · -- what was held is a piece of its own now, and the byte is held alone
        refine ⟨bytes, ?_, ?_⟩
        · rw [happ, h, hb]
          show bytes ++ [b] = bytes ++ q.bytes
          rw [hq]
        · rw [happ, h, hb, pieces, piecesAfter, hp.finish_eq]
      · exact hall (by rw [h, hb])

end RuleLexer.Utf8
