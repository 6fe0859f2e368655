import RuleLexer.Proofs.Utf8.Lossy

/-!
# Decoding what was encoded

The bytes of a character are read back as that character, with nothing held before or after them:
the first byte announces as many more as there are, and each of these is within the bounds that are
left open to it. So the bytes of a text are read back as the text (`lossy_encode`), also if more
bytes follow (`decode_encode`).
-/

namespace RuleLexer.Utf8

/-! ### The bytes of a character, one by one -/

theorem toNat_toUInt8_of_lt {n : Nat} (h : n < 256) : n.toUInt8.toNat = n := by
  rw [Nat.toUInt8_eq, UInt8.toNat_ofNat', Nat.mod_eq_of_lt h]

theorem lead?_of_two {b : Nat} (hlow : 0xC2 ≤ b) (hhigh : b ≤ 0xDF) :
    lead? b = some (1, 0x80, 0xBF, b - 0xC0) := if_pos ⟨hlow, hhigh⟩

theorem lead?_of_three {b : Nat} (hlow : 0xE0 ≤ b) (hhigh : b ≤ 0xEF) :
    lead? b = some (2, if b = 0xE0 then 0xA0 else 0x80, if b = 0xED then 0x9F else 0xBF,
      b - 0xE0) := by
  unfold lead?
  grind

theorem lead?_of_four {b : Nat} (hlow : 0xF0 ≤ b) (hhigh : b ≤ 0xF4) :
    lead? b = some (3, if b = 0xF0 then 0x90 else 0x80, if b = 0xF4 then 0x8F else 0xBF,
      b - 0xF0) := by
  unfold lead?
  grind

/-- A first byte that announces more. -/
theorem push_lead {b : UInt8} {missing low high bits : Nat}
    (h : lead? b.toNat = some (missing, low, high, bits)) :
    push .none b = ([], ⟨[b], missing, low, high, bits⟩) := by
  have hb : ¬ b.toNat < 0x80 := by
    have hcases := lead?_cases h
    omega
  show start b = _
  unfold start
  rw [if_neg hb, h]

/-- A byte that goes on, with more to come. -/
theorem Held.push_more {p : Partial} {b : UInt8} (hp : Held p)
    (hb : p.low ≤ b.toNat ∧ b.toNat ≤ p.high) (hm : 1 < p.missing) :
    push p b =
      ([], ⟨p.bytes ++ [b], p.missing - 1, 0x80, 0xBF, p.bits * 64 + (b.toNat - 0x80)⟩) := by
  unfold push
  rw [hp.isEmpty_eq_false, if_neg Bool.false_ne_true, if_pos hb]
  exact if_neg (Nat.not_le.mpr hm)

/-- The last byte. -/
theorem Held.push_last {p : Partial} {b : UInt8} (hp : Held p)
    (hb : p.low ≤ b.toNat ∧ b.toNat ≤ p.high) (hm : p.missing ≤ 1) :
    push p b = ([.char (Char.ofNat (p.bits * 64 + (b.toNat - 0x80)))], .none) := by
  unfold push
  rw [hp.isEmpty_eq_false, if_neg Bool.false_ne_true, if_pos hb]
  exact if_pos hm

/-! ### Characters of two, three and four bytes -/

theorem decode_two {a b : UInt8} (ha : 0xC2 ≤ a.toNat ∧ a.toNat ≤ 0xDF)
    (hb : 0x80 ≤ b.toNat ∧ b.toNat ≤ 0xBF) :
    decode .none [a, b] =
      ([.char (Char.ofNat ((a.toNat - 0xC0) * 64 + (b.toNat - 0x80)))], .none) := by
  have hlead := lead?_of_two ha.1 ha.2
  rw [decode_cons, push_lead hlead, decode_singleton,
    (Held.lead hlead).push_last hb (Nat.le_refl 1)]
  rfl

theorem decode_three {a b c : UInt8} (ha : 0xE0 ≤ a.toNat ∧ a.toNat ≤ 0xEF)
    (hb : (if a.toNat = 0xE0 then 0xA0 else 0x80) ≤ b.toNat ∧
      b.toNat ≤ if a.toNat = 0xED then 0x9F else 0xBF)
    (hc : 0x80 ≤ c.toNat ∧ c.toNat ≤ 0xBF) :
    decode .none [a, b, c] =
      ([.char (Char.ofNat (((a.toNat - 0xE0) * 64 + (b.toNat - 0x80)) * 64 + (c.toNat - 0x80)))],
        .none) := by
  have hlead := lead?_of_three ha.1 ha.2
  have hheld := Held.more (.lead hlead) hb Nat.one_lt_two
  rw [decode_cons, push_lead hlead, decode_cons, (Held.lead hlead).push_more hb Nat.one_lt_two,
    decode_singleton, hheld.push_last hc (Nat.le_refl 1)]
  rfl

theorem decode_four {a b c d : UInt8} (ha : 0xF0 ≤ a.toNat ∧ a.toNat ≤ 0xF4)
    (hb : (if a.toNat = 0xF0 then 0x90 else 0x80) ≤ b.toNat ∧
      b.toNat ≤ if a.toNat = 0xF4 then 0x8F else 0xBF)
    (hc : 0x80 ≤ c.toNat ∧ c.toNat ≤ 0xBF) (hd : 0x80 ≤ d.toNat ∧ d.toNat ≤ 0xBF) :
    decode .none [a, b, c, d] =
      ([.char (Char.ofNat ((((a.toNat - 0xF0) * 64 + (b.toNat - 0x80)) * 64 +
        (c.toNat - 0x80)) * 64 + (d.toNat - 0x80)))], .none) := by
  have hlead := lead?_of_four ha.1 ha.2
  have hthree : 1 < 3 := by decide
  have hheld := Held.more (.lead hlead) hb hthree
  have hheld' := hheld.more hc Nat.one_lt_two
  rw [decode_cons, push_lead hlead, decode_cons, (Held.lead hlead).push_more hb hthree,
    decode_cons, hheld.push_more hc Nat.one_lt_two, decode_singleton,
    hheld'.push_last hd (Nat.le_refl 1)]
  rfl

/-- The bytes of a character are read back. -/
theorem decode_encodeChar (c : Char) : decode .none (encodeChar c) = ([.char c], .none) := by
  have hvalid : c.toNat.isValidChar := c.valid
  simp only [Nat.isValidChar] at hvalid
  have hc (n : Nat) (hn : n = c.toNat) : Char.ofNat n = c := by
    rw [hn, Char.ofNat_toNat]
  unfold encodeChar
  simp only
  split_ifs with h1 h2 h3
  · have hb := toNat_toUInt8_of_lt (n := c.toNat) (by omega)
    rw [decode_singleton]
    show start _ = _
    unfold start
    rw [hb, if_pos h1, hc _ rfl]
  · have ha := toNat_toUInt8_of_lt (n := 0xC0 + c.toNat / 64) (by omega)
    have hb := toNat_toUInt8_of_lt (n := 0x80 + c.toNat % 64) (by omega)
    rw [decode_two (by omega) (by omega), hc _ (by omega)]
  · have ha := toNat_toUInt8_of_lt (n := 0xE0 + c.toNat / 4096) (by omega)
    have hb := toNat_toUInt8_of_lt (n := 0x80 + c.toNat / 64 % 64) (by omega)
    have hd := toNat_toUInt8_of_lt (n := 0x80 + c.toNat % 64) (by omega)
    rw [decode_three (by omega) (by split_ifs <;> omega) (by omega), hc _ (by omega)]
  · have ha := toNat_toUInt8_of_lt (n := 0xF0 + c.toNat / 262144) (by omega)
    have hb := toNat_toUInt8_of_lt (n := 0x80 + c.toNat / 4096 % 64) (by omega)
    have hd := toNat_toUInt8_of_lt (n := 0x80 + c.toNat / 64 % 64) (by omega)
    have he := toNat_toUInt8_of_lt (n := 0x80 + c.toNat % 64) (by omega)
    rw [decode_four (by omega) (by split_ifs <;> omega) (by omega) (by omega), hc _ (by omega)]

/-! ### Texts -/

theorem encode_cons (c : Char) (t : Text) : encode (c :: t) = encodeChar c ++ encode t := rfl

theorem encode_append (s t : Text) : encode (s ++ t) = encode s ++ encode t :=
  List.flatMap_append

theorem length_encode (t : Text) : (encode t).length = t.byteLength := by
  induction t with
  | nil => rfl
  | cons c t ih => rw [encode_cons, List.length_append, length_encodeChar, ih, Text.byteLength_cons]

theorem encode_ne_nil {t : Text} (h : t ≠ []) : encode t ≠ [] := by
  have hpos := Text.byteLength_pos h
  rw [← length_encode] at hpos
  exact List.ne_nil_of_length_pos hpos

/-- The bytes of a text are read back, and nothing is held after them. -/
theorem decode_encode (t : Text) : decode .none (encode t) = (t.map .char, .none) := by
  induction t with
  | nil => rfl
  | cons c t ih =>
    rw [encode_cons, decode_append, decode_encodeChar, ih]
    rfl

theorem text_map_char (t : Text) : text (t.map .char) = t := by
  unfold text
  rw [List.map_map]
  exact List.map_id t

/-- The text of its own bytes. -/
theorem lossy_encode (t : Text) : lossy (encode t) = t := by
  have h := decode_encode t
  rw [lossy_eq_of_decode_none (congrArg Prod.snd h), h]
  exact text_map_char t

end RuleLexer.Utf8
