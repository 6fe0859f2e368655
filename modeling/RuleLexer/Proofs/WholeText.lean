import Mathlib.Tactic.Cases
import RuleLexer.Proofs.Lexer.Moves
import RuleLexer.WholeText

/-!
# A whole text, one answer at a time

`WholeText.tokens` lists the tokens of a text at once and counts its rounds. Whoever scans asks for
one token after the other, and goes on asking after the last one. `next` gives one answer and the
rest to go on with, `results` several of them, and no rounds are counted.

* `strip_eq_stripped`: enough rounds are as good as any number of rounds.
* `blank?_stripped`: behind the white space there is none.
* `results_eq`: the answers are the tokens of the text in order, and from then on for ever the same
  answer: that there is none, or the error that ended the list (`answer`).
-/

namespace RuleLexer.WholeText

variable {ρ : Type} [TokenRule ρ] (rules : RuleSet ρ)

/-- White space at the front of a rest, if there is some. -/
def blank? (r : Rest) : Option Token :=
  rules.whitespace.bind (TokenRule.hit? · r.text r.position)

/-- A rest without white space in front of it. -/
def stripped (r : Rest) : Rest := strip rules r.text.length r

variable {rules}

theorem length_after_lt {r : Rest} {token : Token} {rule : ρ}
    (h : TokenRule.hit? rule r.text r.position = some token) :
    (r.after token.literal).text.length < r.text.length := by
  obtain ⟨hne, rest, hrest⟩ := TokenRule.hit?_eq_some h
  have hpos := List.length_pos_iff.mpr hne
  show (r.text.drop token.literal.length).length < _
  rw [List.length_drop, hrest, List.length_append]
  omega

theorem length_after_lt_of_blank {r : Rest} {token : Token} (h : blank? rules r = some token) :
    (r.after token.literal).text.length < r.text.length := by
  obtain ⟨w, -, hw⟩ := Option.bind_eq_some_iff.mp h
  exact length_after_lt hw

theorem strip_succ (n : Nat) (r : Rest) :
    strip rules (n + 1) r = match blank? rules r with
      | none => r
      | some token => strip rules n (r.after token.literal) := rfl

theorem blank?_of_text_nil {r : Rest} (h : r.text = []) : blank? rules r = none := by
  cases hb : blank? rules r with
  | none => rfl
  | some token =>
    have hlt := length_after_lt_of_blank hb
    rw [h] at hlt
    exact absurd hlt (Nat.not_lt_zero _)

/-- Rounds do not matter as long as there are as many as characters. -/
theorem strip_congr {n m : Nat} {r : Rest} (hn : r.text.length ≤ n) (hm : r.text.length ≤ m) :
    strip rules n r = strip rules m r := by
  induction n generalizing m r with
  | zero =>
    have hb : blank? rules r = none := blank?_of_text_nil (List.length_eq_zero_iff.mp (by omega))
    cases m with
    | zero => rfl
    | succ m =>
      rw [strip_succ, hb]
      rfl
  | succ n ih =>
    cases m with
    | zero =>
      have hb : blank? rules r = none := blank?_of_text_nil (List.length_eq_zero_iff.mp (by omega))
      rw [strip_succ, hb]
      rfl
    | succ m =>
      rw [strip_succ, strip_succ]
      cases hb : blank? rules r with
      | none => rfl
      | some token =>
        have hlt := length_after_lt_of_blank hb
        exact ih (by omega) (by omega)

theorem strip_eq_stripped {n : Nat} {r : Rest} (h : r.text.length ≤ n) :
    strip rules n r = stripped rules r :=
  strip_congr h (Nat.le_refl _)

theorem stripped_of_none {r : Rest} (h : blank? rules r = none) : stripped rules r = r := by
  rw [← strip_eq_stripped (Nat.le_succ _), strip_succ, h]

theorem stripped_of_some {r : Rest} {token : Token} (h : blank? rules r = some token) :
    stripped rules r = stripped rules (r.after token.literal) := by
  have hlt := length_after_lt_of_blank h
  rw [← strip_eq_stripped (Nat.le_succ _), strip_succ, h]
  exact strip_eq_stripped (by omega)

/-- What is stripped off: white space, one piece after the other. An induction over the pieces: what
holds where there is none, and in front of a piece if it holds behind it, holds of every rest. -/
theorem strip_induction (rules : RuleSet ρ) {motive : Rest → Prop} (r : Rest)
    (none : ∀ r, blank? rules r = none → motive r)
    (some : ∀ r token, blank? rules r = some token → motive (r.after token.literal) → motive r) :
    motive r := by
  induction hn : r.text.length using Nat.strongRecOn generalizing r with
  | _ n ih =>
    cases hb : blank? rules r with
    | none => exact none r hb
    | some token =>
      have hlt := length_after_lt_of_blank hb
      exact some r token hb (ih _ (hn ▸ hlt) _ rfl)

theorem blank?_stripped (r : Rest) : blank? rules (stripped rules r) = none := by
  induction r using strip_induction rules with
  | none r hb => rwa [stripped_of_none hb]
  | some r token hb ih => rwa [stripped_of_some hb]

theorem stripped_stripped (r : Rest) : stripped rules (stripped rules r) = stripped rules r :=
  stripped_of_none (blank?_stripped r)

theorem stripped_suffix (r : Rest) : (stripped rules r).text <:+ r.text := by
  induction r using strip_induction rules with
  | none r hb => exact ⟨[], by rw [stripped_of_none hb, List.nil_append]⟩
  | some r token hb ih =>
    rw [stripped_of_some hb]
    exact ih.trans (List.drop_suffix _ _)

theorem length_stripped_le (r : Rest) : (stripped rules r).text.length ≤ r.text.length :=
  (stripped_suffix r).length_le

/-! ### Places in a text -/

/-- A rest that lies behind another one, with some of its text between them. -/
def Rest.Behind (s r : Rest) : Prop :=
  ∃ gap, r.text = gap ++ s.text ∧ s.position = r.position.advanced gap

theorem Rest.Behind.refl (r : Rest) : r.Behind r := ⟨[], rfl, rfl⟩

theorem Rest.Behind.trans {r s u : Rest} (h : u.Behind s) (h' : s.Behind r) : u.Behind r := by
  obtain ⟨gap, htext, hposition⟩ := h
  obtain ⟨gap', htext', hposition'⟩ := h'
  refine ⟨gap' ++ gap, ?_, ?_⟩
  · rw [htext', htext, List.append_assoc]
  · rw [hposition, hposition', Position.advanced_append]

theorem Rest.after_behind {r : Rest} {literal rest : Text} (h : r.text = literal ++ rest) :
    (r.after literal).Behind r := by
  refine ⟨literal, ?_, rfl⟩
  show r.text = literal ++ r.text.drop literal.length
  rw [h, List.drop_left]

/-- The text tells the place. -/
theorem Rest.Behind.eq_of_text {r s u : Rest} (hs : s.Behind r) (hu : u.Behind r)
    (h : s.text = u.text) : s = u := by
  obtain ⟨gap, htext, hposition⟩ := hs
  obtain ⟨gap', htext', hposition'⟩ := hu
  rw [htext, h] at htext'
  have hgap : gap = gap' := List.append_cancel_right htext'
  have hplace : s.position = u.position := by
    rw [hposition, hposition', hgap]
  cases s
  cases u
  cases h
  cases hplace
  rfl

/-- The position tells the place, since it counts the bytes before it. -/
theorem Rest.Behind.eq_of_position {r s u : Rest} (hs : s.Behind r) (hu : u.Behind r)
    (h : s.position = u.position) : s = u := by
  obtain ⟨gap, htext, hposition⟩ := hs
  obtain ⟨gap', htext', hposition'⟩ := hu
  have hbytes : gap.byteLength = gap'.byteLength := by
    have hoffset := congrArg Position.offset h
    rw [hposition, hposition', Position.offset_advanced, Position.offset_advanced] at hoffset
    omega
  -- of two starts of a text that have the same size, neither goes on behind the other
  have hnil (d : Text) (hd : d.byteLength = 0) : d = [] := by
    by_contra hne
    have hpos := Text.byteLength_pos hne
    omega
  have hrests : s.text = u.text := by
    rcases List.append_eq_append_iff.mp (htext.symm.trans htext') with
      ⟨d, hd, hrest⟩ | ⟨d, hd, hrest⟩
    · have hzero : d = [] := hnil d (by rw [hd, Text.byteLength_append] at hbytes; omega)
      rw [hrest, hzero, List.nil_append]
    · have hzero : d = [] := hnil d (by rw [hd, Text.byteLength_append] at hbytes; omega)
      rw [hrest, hzero, List.nil_append]
  exact Rest.Behind.eq_of_text ⟨gap, htext, hposition⟩ ⟨gap', htext', hposition'⟩ hrests

theorem stripped_behind (rules : RuleSet ρ) (r : Rest) : (stripped rules r).Behind r := by
  induction r using strip_induction rules with
  | none r hb =>
    rw [stripped_of_none hb]
    exact .refl r
  | some r token hb ih =>
    obtain ⟨w, -, hw⟩ := Option.bind_eq_some_iff.mp hb
    obtain ⟨-, rest, hrest⟩ := TokenRule.hit?_eq_some hw
    rw [stripped_of_some hb]
    exact ih.trans (Rest.after_behind hrest)

theorem offset_le_stripped (r : Rest) :
    r.position.offset ≤ (stripped rules r).position.offset := by
  obtain ⟨gap, -, hposition⟩ := stripped_behind rules r
  rw [hposition, Position.offset_advanced]
  exact Nat.le_add_right _ _

/-- Where there is white space, stripping goes on behind it. -/
theorem offset_lt_stripped {r : Rest} {token : Token} (h : blank? rules r = some token) :
    r.position.offset < (stripped rules r).position.offset := by
  obtain ⟨w, -, hw⟩ := Option.bind_eq_some_iff.mp h
  have hpos := Text.byteLength_pos (TokenRule.hit?_eq_some hw).1
  rw [stripped_of_some h]
  refine Nat.lt_of_lt_of_le ?_ (offset_le_stripped _)
  show r.position.offset < (r.position.advanced token.literal).offset
  rw [Position.offset_advanced]
  omega

/-! ### Answers -/

variable (rules)

/-- The next answer, and what remains to be asked about: a rest behind the token, or the same place
again if there is no token to go on from. -/
def next (r : Rest) : Except LexError (Option Token) × Rest :=
  let s := stripped rules r
  if s.text.isEmpty then (.ok none, s)
  else
    match first? rules s with
    | none => (.error (.unknownToken (rules.unknownLiteral s.position s.text) s.position), s)
    | some token => (.ok (some token), s.after token.literal)

/-- So many answers in a row. -/
def results : Nat → Rest → List (Except LexError (Option Token))
  | 0, _ => []
  | n + 1, r => (next rules r).1 :: results n (next rules r).2

/-- The answer at some place of a row, given all tokens and the error that ends them, if one does: a
token as long as there are any, and then always the same. -/
def answer (run : List Token × Option LexError) (i : Nat) : Except LexError (Option Token) :=
  match run.1[i]?, run.2 with
  | some token, _ => .ok (some token)
  | none, none => .ok none
  | none, some e => .error e

variable {rules}

theorem first?_eq_some {r : Rest} {token : Token} (h : first? rules r = some token) :
    ∃ rule ∈ rules.rules, TokenRule.hit? rule r.text r.position = some token :=
  List.exists_of_findSome?_eq_some h

theorem first?_of_text_nil {r : Rest} (h : r.text = []) : first? rules r = none := by
  cases hf : first? rules r with
  | none => rfl
  | some token =>
    obtain ⟨rule, -, hhit⟩ := first?_eq_some hf
    have hlt := length_after_lt hhit
    rw [h] at hlt
    exact absurd hlt (Nat.not_lt_zero _)

/-- The three kinds of answers. -/
theorem next_cases (rules : RuleSet ρ) (r : Rest) :
    ((stripped rules r).text = [] ∧ next rules r = (.ok none, stripped rules r)) ∨
    ((stripped rules r).text ≠ [] ∧ first? rules (stripped rules r) = none ∧
      next rules r = (.error (.unknownToken (rules.unknownLiteral (stripped rules r).position
        (stripped rules r).text) (stripped rules r).position), stripped rules r)) ∨
    (∃ token, first? rules (stripped rules r) = some token ∧
      next rules r = (.ok (some token), (stripped rules r).after token.literal)) := by
  unfold next
  by_cases hnil : (stripped rules r).text = []
  · exact Or.inl ⟨hnil, by simp only [hnil, List.isEmpty_nil, if_true]⟩
  · have hne : (stripped rules r).text.isEmpty = false := by
      rw [List.isEmpty_eq_false_iff]
      exact hnil
    simp only [hne, Bool.false_eq_true, if_false]
    cases hf : first? rules (stripped rules r) with
    | none => exact Or.inr (Or.inl ⟨hnil, rfl, rfl⟩)
    | some token => exact Or.inr (Or.inr ⟨token, rfl, rfl⟩)

theorem next_of_first? {r : Rest} {token : Token}
    (h : first? rules (stripped rules r) = some token) :
    next rules r = (.ok (some token), (stripped rules r).after token.literal) := by
  rcases next_cases rules r with ⟨hnil, -⟩ | ⟨-, hnone, -⟩ | ⟨token', hsome, hnext⟩
  · rw [first?_of_text_nil hnil] at h
    cases h
  · rw [hnone] at h
    cases h
  · rw [hsome] at h
    cases h
    exact hnext

theorem next_stripped (r : Rest) : next rules (stripped rules r) = next rules r := by
  unfold next
  rw [stripped_stripped]

/-- An answer only ever takes from the front. -/
theorem next_suffix (r : Rest) : (next rules r).2.text <:+ r.text := by
  rcases next_cases rules r with ⟨-, h⟩ | ⟨-, -, h⟩ | ⟨token, -, h⟩
  · rw [h]
    exact stripped_suffix r
  · rw [h]
    exact stripped_suffix r
  · rw [h]
    exact (List.drop_suffix _ _).trans (stripped_suffix r)

/-- Answers that need no more tokens. -/
theorem map_answer_nil (error : Option LexError) (n : Nat) :
    (List.range (n + 1)).map (answer ([], error)) =
      answer ([], error) 0 :: (List.range n).map (answer ([], error)) := by
  rw [List.range_succ_eq_map, List.map_cons, List.map_map]
  rfl

theorem map_answer_cons (token : Token) (run : List Token × Option LexError) (n : Nat) :
    (List.range (n + 1)).map (answer (token :: run.1, run.2)) =
      .ok (some token) :: (List.range n).map (answer run) := by
  rw [List.range_succ_eq_map, List.map_cons, List.map_map]
  rfl

/-- One answer after the other gives the tokens that are listed at once. -/
theorem results_eq_of_lt (n : Nat) {fuel : Nat} {r : Rest} (h : r.text.length < fuel) :
    results rules n r = (List.range n).map (answer (tokensFrom rules fuel r)) := by
  induction n generalizing fuel r with
  | zero => rfl
  | succ n ih =>
    obtain ⟨k, rfl⟩ : ∃ k, fuel = k + 1 := ⟨fuel - 1, by omega⟩
    have hle : (stripped rules r).text.length ≤ r.text.length := length_stripped_le r
    -- where there is no token, the question is asked again at the same place
    have hsame : stripped rules (stripped rules r) = stripped rules r := stripped_stripped r
    have hstop : results rules n (stripped rules r) =
        (List.range n).map (answer (tokensFrom rules (k + 1) (stripped rules r))) := ih (by omega)
    rw [tokensFrom] at hstop
    rw [results, next, tokensFrom]
    simp only [← stripped.eq_def, hsame] at hstop ⊢
    by_cases hnil : (stripped rules r).text.isEmpty = true
    · simp only [hnil, if_true] at hstop ⊢
      rw [hstop, map_answer_nil]
      rfl
    · simp only [hnil, Bool.false_eq_true, if_false] at hstop ⊢
      cases hf : first? rules (stripped rules r) with
      | none =>
        simp only [hf] at hstop ⊢
        rw [hstop, map_answer_nil]
        rfl
      | some token =>
        -- a token is not empty, so one round less is enough behind it
        obtain ⟨rule, -, hhit⟩ := first?_eq_some hf
        have hlt := length_after_lt hhit
        have hgo : results rules n ((stripped rules r).after token.literal) = (List.range n).map
            (answer (tokensFrom rules k ((stripped rules r).after token.literal))) :=
          ih (by omega)
        simp only
        rw [hgo, map_answer_cons]

/-- **The answers on a whole text** are its tokens, and then its end or its error for ever. -/
theorem results_eq (n : Nat) (text : Text) :
    results rules n ⟨text, .start⟩ = (List.range n).map (answer (tokens rules text)) :=
  results_eq_of_lt n (Nat.lt_succ_self _)

/-- The tokens among the answers are the tokens that are listed. -/
theorem exists_mem_results_iff {text : Text} {token : Token} :
    (∃ n, .ok (some token) ∈ results rules n ⟨text, .start⟩) ↔
      token ∈ (tokens rules text).1 := by
  simp only [results_eq, List.mem_map, List.mem_range]
  constructor
  · rintro ⟨n, i, -, hi⟩
    unfold answer at hi
    split at hi
    · next token' _ htoken =>
      cases hi
      exact List.mem_of_getElem? htoken
    · cases hi
    · cases hi
  · intro h
    obtain ⟨i, hi⟩ := List.mem_iff_getElem?.mp h
    refine ⟨i + 1, i, Nat.lt_succ_self i, ?_⟩
    unfold answer
    rw [hi]

end RuleLexer.WholeText
