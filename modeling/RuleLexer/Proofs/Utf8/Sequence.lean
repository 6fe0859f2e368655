import Mathlib.Tactic.SplitIfs
import RuleLexer.Utf8

/-!
# Sequences of bytes that are still open

While the bytes of a character come in one by one, the decoder holds those that have come. `Held`
says which states this can lead to: a first byte that announces more, and then bytes within the
bounds, as long as one is missing.

* `encodeChar_of_held`: the byte that completes a held sequence makes it the encoding of the
  character that is decoded.
* `Held.exists_encodeChar`: a held sequence is a proper start of the encoding of some character.
* `push_cases`: what the next byte does, whatever is held.
-/

namespace RuleLexer.Utf8

/-! ### First bytes -/

/-- What a first byte announces, by the number of bytes to come. The bounds of the first of them lie
within `80..BF` and are narrower where an overlong form, a surrogate or a number beyond the last
code point would follow. -/
theorem lead?_cases {b missing low high bits : Nat}
    (h : lead? b = some (missing, low, high, bits)) :
    (missing = 1 ∧ bits = b - 0xC0 ∧ 0xC2 ≤ b ∧ b ≤ 0xDF ∧ low = 0x80 ∧ high = 0xBF) ∨
    (missing = 2 ∧ bits = b - 0xE0 ∧ 0xE0 ≤ b ∧ b ≤ 0xEF ∧ 0x80 ≤ low ∧ low ≤ high ∧ high ≤ 0xBF ∧
      (b = 0xE0 → 0xA0 ≤ low) ∧ (b = 0xED → high ≤ 0x9F)) ∨
    (missing = 3 ∧ bits = b - 0xF0 ∧ 0xF0 ≤ b ∧ b ≤ 0xF4 ∧ 0x80 ≤ low ∧ low ≤ high ∧ high ≤ 0xBF ∧
      (b = 0xF0 → 0x90 ≤ low) ∧ (b = 0xF4 → high ≤ 0x8F)) := by
  unfold lead? at h
  split_ifs at h <;> (simp only [Option.some.injEq, Prod.mk.injEq] at h; omega)

/-! ### Held sequences -/

/-- A sequence that can be held: a first byte that announces more, and bytes within the bounds after
it, at least one still missing. -/
inductive Held : Partial → Prop where
  | lead {b : UInt8} {missing low high bits : Nat}
      (h : lead? b.toNat = some (missing, low, high, bits)) : Held ⟨[b], missing, low, high, bits⟩
  | more {p : Partial} {b : UInt8} (hp : Held p) (hb : p.low ≤ b.toNat ∧ b.toNat ≤ p.high)
      (hm : 1 < p.missing) :
      Held ⟨p.bytes ++ [b], p.missing - 1, 0x80, 0xBF, p.bits * 64 + (b.toNat - 0x80)⟩

namespace Held

/-- A character has four bytes at most, and of a held sequence some have come and some have not. -/
theorem length_add_missing_le {p : Partial} (hp : Held p) :
    1 ≤ p.bytes.length ∧ 1 ≤ p.missing ∧ p.bytes.length + p.missing ≤ 4 := by
  induction hp with
  | lead h =>
    have := lead?_cases h
    simp only [List.length_cons, List.length_nil]
    omega
  | more _ _ hm ih =>
    simp only [List.length_append, List.length_cons, List.length_nil]
    omega

/-- Some byte is within the bounds. -/
theorem low_le_high {p : Partial} (hp : Held p) : p.low ≤ p.high ∧ p.high < 256 := by
  cases hp with
  | lead h =>
    have := lead?_cases h
    simp only
    omega
  | more _ _ _ => exact ⟨by simp, by simp⟩

theorem isEmpty_eq_false {p : Partial} (hp : Held p) : p.isEmpty = false := by
  have h := hp.length_add_missing_le.1
  unfold Partial.isEmpty
  cases hb : p.bytes with
  | nil => rw [hb] at h; simp at h
  | cons b bs => rfl

end Held

/-! ### The character of a complete sequence -/

theorem toNat_ofNat_of_valid {n : Nat} (h : n.isValidChar) : (Char.ofNat n).toNat = n := by
  unfold Char.ofNat
  rw [dif_pos h]
  rfl

theorem encodeChar_ofNat {n : Nat} (h : n.isValidChar) :
    encodeChar (Char.ofNat n) =
      if n < 0x80 then [n.toUInt8]
      else if n < 0x800 then [(0xC0 + n / 64).toUInt8, (0x80 + n % 64).toUInt8]
      else if n < 0x10000 then
        [(0xE0 + n / 4096).toUInt8, (0x80 + n / 64 % 64).toUInt8, (0x80 + n % 64).toUInt8]
      else
        [(0xF0 + n / 262144).toUInt8, (0x80 + n / 4096 % 64).toUInt8, (0x80 + n / 64 % 64).toUInt8,
          (0x80 + n % 64).toUInt8] := by
  unfold encodeChar
  rw [toNat_ofNat_of_valid h]

theorem toUInt8_eq {n : Nat} {b : UInt8} (h : n = b.toNat) : n.toUInt8 = b := by
  rw [h]
  exact UInt8.ofNat_toNat

/-- **Completing a sequence**: the last byte makes it the encoding of the decoded character. -/
theorem encodeChar_of_held {p : Partial} {b : UInt8} (hp : Held p)
    (hb : p.low ≤ b.toNat ∧ b.toNat ≤ p.high) (hm : p.missing ≤ 1) :
    encodeChar (Char.ofNat (p.bits * 64 + (b.toNat - 0x80))) = p.bytes ++ [b] := by
  -- the number of bytes is told by how often `more` was used
  cases hp with
  | @lead a _ _ _ _ h =>
    have hl := lead?_cases h
    simp only at hb hm ⊢
    rw [encodeChar_ofNat (by simp only [Nat.isValidChar]; omega), if_neg (by omega),
      if_pos (by omega), toUInt8_eq (b := a) (by omega), toUInt8_eq (b := b) (by omega)]
    rfl
  | @more q c hq hc hqm =>
    cases hq with
    | @lead a _ _ _ _ h =>
      have hl := lead?_cases h
      simp only at hb hm hc hqm ⊢
      rw [encodeChar_ofNat (by simp only [Nat.isValidChar]; omega), if_neg (by omega),
        if_neg (by omega), if_pos (by omega), toUInt8_eq (b := a) (by omega),
        toUInt8_eq (b := c) (by omega), toUInt8_eq (b := b) (by omega)]
      rfl
    | @more r d hr hd hrm =>
      have hlen := hr.length_add_missing_le
      cases hr with
      | @lead a _ _ _ _ h =>
        have hl := lead?_cases h
        simp only at hb hm hc hqm hd hrm ⊢
        rw [encodeChar_ofNat (by simp only [Nat.isValidChar]; omega), if_neg (by omega),
          if_neg (by omega), if_neg (by omega), toUInt8_eq (b := a) (by omega),
          toUInt8_eq (b := d) (by omega), toUInt8_eq (b := c) (by omega),
          toUInt8_eq (b := b) (by omega)]
        rfl
      | more hs _ _ =>
        have := hs.length_add_missing_le
        simp only at hm hqm hrm hlen
        simp only [List.length_append, List.length_cons, List.length_nil] at hlen
        omega

/-- **A held sequence can be completed**: its bytes are a proper start of the encoding of some
character. -/
theorem Held.exists_encodeChar {p : Partial} (hp : Held p) :
    ∃ (c : Char) (rest : List UInt8), rest ≠ [] ∧ encodeChar c = p.bytes ++ rest := by
  -- the lowest byte within the bounds always leads on, and one less is missing after it
  induction hm : p.missing generalizing p with
  | zero => have := hp.length_add_missing_le; omega
  | succ m ih =>
    obtain ⟨hle, hlt⟩ := hp.low_le_high
    have hlow : (p.low.toUInt8).toNat = p.low := by
      rw [Nat.toUInt8_eq, UInt8.toNat_ofNat', Nat.mod_eq_of_lt (by omega)]
    have hb : p.low ≤ (p.low.toUInt8).toNat ∧ (p.low.toUInt8).toNat ≤ p.high := by omega
    by_cases h1 : p.missing ≤ 1
    · exact ⟨_, [p.low.toUInt8], by simp, encodeChar_of_held hp hb h1⟩
    · obtain ⟨c, rest, _, hc⟩ := ih (Held.more hp hb (by omega)) (by simp only; omega)
      refine ⟨c, p.low.toUInt8 :: rest, by simp, ?_⟩
      rw [hc, List.append_assoc]
      rfl

/-- A character takes as many bytes as its encoding has. -/
theorem length_encodeChar (c : Char) : (encodeChar c).length = c.utf8Size := by
  have hv : c.val.toNat = c.toNat := rfl
  unfold encodeChar Char.utf8Size
  simp only [UInt32.le_iff_toNat_le, UInt32.toNat_ofNatLT, hv]
  split_ifs <;> simp only [List.length_cons, List.length_nil] <;> omega

/-! ### One more byte -/

/-- What can be waiting: nothing, or a held sequence. -/
def Sound (p : Partial) : Prop := p = .none ∨ Held p

theorem sound_none : Sound .none := Or.inl rfl

theorem Sound.length_le {p : Partial} (hp : Sound p) : p.bytes.length ≤ 3 := by
  rcases hp with rfl | hp
  · simp [Partial.none]
  · have := hp.length_add_missing_le
    omega

/-- The first byte of a sequence: a character by itself, the start of more, or neither. -/
theorem start_cases (b : UInt8) :
    (∃ c, start b = ([.char c], .none) ∧ encodeChar c = [b]) ∨
    (∃ q, start b = ([], q) ∧ Held q ∧ q.bytes = [b]) ∨
    start b = ([.invalid [b]], .none) := by
  unfold start
  by_cases hb : b.toNat < 0x80
  · rw [if_pos hb]
    refine Or.inl ⟨_, rfl, ?_⟩
    rw [encodeChar_ofNat (Or.inl (by omega)), if_pos hb, toUInt8_eq rfl]
  · rw [if_neg hb]
    cases h : lead? b.toNat with
    | none => exact Or.inr (Or.inr rfl)
    | some r =>
      obtain ⟨missing, low, high, bits⟩ := r
      exact Or.inr (Or.inl ⟨_, rfl, Held.lead h, rfl⟩)

/-- **One more byte, whatever is held**: it completes a character, or the sequence grows, or it
starts none and nothing was held, or what was held is given up and the byte is looked at afresh. -/
theorem push_cases {p : Partial} (hp : Sound p) (b : UInt8) :
    (∃ c, push p b = ([.char c], .none) ∧ encodeChar c = p.bytes ++ [b]) ∨
    (∃ q, push p b = ([], q) ∧ Held q ∧ q.bytes = p.bytes ++ [b]) ∨
    (p = .none ∧ push p b = ([.invalid [b]], .none)) ∨
    (Held p ∧ push p b = (.invalid p.bytes :: (start b).1, (start b).2)) := by
  rcases hp with rfl | hp
  · rcases start_cases b with h | h | h
    · exact Or.inl h
    · exact Or.inr (Or.inl h)
    · exact Or.inr (Or.inr (Or.inl ⟨rfl, h⟩))
  · unfold push
    rw [hp.isEmpty_eq_false, if_neg Bool.false_ne_true]
    by_cases hb : p.low ≤ b.toNat ∧ b.toNat ≤ p.high
    · rw [if_pos hb]
      by_cases hm : p.missing ≤ 1
      · exact Or.inl ⟨_, if_pos hm, encodeChar_of_held hp hb hm⟩
      · exact Or.inr (Or.inl ⟨_, if_neg hm, Held.more hp hb (by omega), rfl⟩)
    · rw [if_neg hb]
      exact Or.inr (Or.inr (Or.inr ⟨hp, rfl⟩))

theorem sound_start (b : UInt8) : Sound (start b).2 := by
  rcases start_cases b with ⟨c, h, _⟩ | ⟨q, h, hq, _⟩ | h <;> rw [h]
  · exact sound_none
  · exact Or.inr hq
  · exact sound_none

theorem Sound.push {p : Partial} (hp : Sound p) (b : UInt8) : Sound (Utf8.push p b).2 := by
  rcases push_cases hp b with ⟨c, h, _⟩ | ⟨q, h, hq, _⟩ | ⟨_, h⟩ | ⟨_, h⟩ <;> rw [h]
  · exact sound_none
  · exact Or.inr hq
  · exact sound_none
  · exact sound_start b

/-- Whatever bytes come, what waits after them is sound. -/
theorem Sound.decode {p : Partial} (hp : Sound p) (bytes : List UInt8) :
    Sound (Utf8.decode p bytes).2 := by
  induction bytes generalizing p with
  | nil => exact hp
  | cons b bs ih => exact ih (hp.push b)

end RuleLexer.Utf8
