import RuleLexer.Proofs.Lexer.Streaming

/-!
# A lexer that reads one byte at a time

With the smallest sizes a lexer reads one byte, and only if its buffer is empty or a rule takes all
of it (`Frugal`). So it never knows more of the text than it has to: behind what a rule has taken in
full, its buffer holds what one byte can bring.

* `Frugal.fill`: a read of one byte brings a slight text.
* `Frugal.skips`: passing over white space leaves a slight buffer slight.
* `tryRules_cons_of_none`, `matchRule_of_invariant`: a pass over the rules, rule by rule.
-/

namespace RuleLexer.Lexer

variable {σ ρ : Type} [ByteSource σ]

/-- A lexer with the smallest sizes. -/
structure Frugal (l : Lexer σ ρ) : Prop where
  chunk : l.sizes.effectiveChunk = 1
  mark : l.sizes.mark = 1
  sound : Utf8.Sound l.pending

namespace Frugal

variable {l l' : Lexer σ ρ}

/-- **A read of one byte** brings a slight text. -/
theorem fill (h : l.Frugal) :
    l.fill.2.Frugal ∧ ∃ new, l.fill.2.buffer = l.buffer ++ new ∧ Utf8.Slight new := by
  have hnothing : Utf8.Slight [] := Or.inl (Nat.zero_le 1)
  rcases l.fill_cases with ⟨-, hf⟩ | ⟨-, fault, -, hf⟩ | ⟨he, status, journal, -, hf⟩
  · rw [hf]
    exact ⟨h, [], (List.append_nil _).symm, hnothing⟩
  · rw [hf]
    exact ⟨⟨h.chunk, h.mark, h.sound⟩, [], (List.append_nil _).symm, hnothing⟩
  · -- no more than one byte counts, whatever the source has announced
    have hlen : (l.asked.counted status).length ≤ 1 := by
      have : (l.asked.counted status).length = min status.read l.sizes.effectiveChunk :=
        length_areaBytes _ _
      rw [this, h.chunk]
      exact Nat.min_le_right _ _
    obtain ⟨htext, hafter⟩ := Utf8.slight_decode h.sound hlen
    rw [brought_asked he, leftPending_asked he h.sound] at hf
    rw [hf]
    refine ⟨⟨h.chunk, h.mark, ?_⟩, _, rfl, ?_⟩
    · show Utf8.Sound (if _ then _ else _)
      split_ifs
      · exact Utf8.sound_none
      · exact h.sound.decode _
    · split_ifs
      · exact hafter
      · exact htext

omit [ByteSource σ] in
theorem note (h : l.Frugal) (e : Event) : (l.note e).Frugal := ⟨h.chunk, h.mark, h.sound⟩

omit [ByteSource σ] in
theorem consume (h : l.Frugal) (literal : Text) : (l.consume literal).Frugal :=
  ⟨h.chunk, h.mark, h.sound⟩

omit [ByteSource σ] in
/-- The buffer is topped up only if it is empty. -/
theorem buffer_eq_nil (h : l.Frugal) (hb : l.buffer.hasBytes l.sizes.mark = false) :
    l.buffer = [] := by
  rw [Text.hasBytes_eq, decide_eq_false_iff_not, h.mark] at hb
  cases hbuf : l.buffer with
  | nil => rfl
  | cons c t =>
    have := c.utf8Size_pos
    rw [hbuf, Text.byteLength_cons] at hb
    omega

/-- **Passing over white space** never lets the buffer grow beyond what one byte brings. -/
theorem skips [TokenRule ρ] (h : l.Frugal) (hb : Utf8.Slight l.buffer) (hs : Skips l l') :
    l'.Frugal ∧ Utf8.Slight l'.buffer := by
  induction hs with
  | refl => exact ⟨h, hb⟩
  | tail _ hstep ih =>
    obtain ⟨hfrugal, hslight⟩ := ih
    cases hstep with
    | topUp hlow =>
      obtain ⟨hfrugal', new, hnew, hslight'⟩ := hfrugal.fill
      rw [hnew, hfrugal.buffer_eq_nil hlow]
      exact ⟨hfrugal', hslight'⟩
    | pass _ => exact ⟨hfrugal.consume _, hslight.suffix (List.drop_suffix _ _)⟩

end Frugal

/-! ### Rule by rule -/

variable [TokenRule ρ] {l l' : Lexer σ ρ}

/-- A rule that finds nothing leaves everything to the next one. -/
theorem tryRules_cons_of_none {n : Nat} {rule : ρ} (hp : l.Primed) (hb : l.blank? = none)
    (h : TokenRule.hit? rule l.buffer l.cursor = none) (rest : List ρ) :
    tryRules (n + 1) l.generation (rule :: rest) l = tryRules (n + 1) l.generation rest l := by
  rw [tryRules_cons_of_primed hp hb, matchRule_succ, h]

/-- Where no rule finds anything, nothing is read. -/
theorem tryRules_of_forall_none {n : Nat} {rest : List ρ} (hp : l.Primed) (hb : l.blank? = none)
    (h : ∀ rule ∈ rest, TokenRule.hit? rule l.buffer l.cursor = none) :
    tryRules (n + 1) l.generation rest l = some (.ok .noMatch, l) := by
  induction rest with
  | nil => rw [tryRules_nil, if_neg (not_not_intro rfl)]
  | cons rule rest ih =>
    rw [tryRules_cons_of_none hp hb (h rule (List.mem_cons_self ..))]
    exact ih fun q hq => h q (List.mem_cons_of_mem _ hq)

/-- **A rule that finds something on every buffer it comes to.** If reads preserve what is true of
the lexer and of what the rule finds in it, then it is true of the token that is given at last. -/
theorem matchRule_of_invariant {rule : ρ} {P : Lexer σ ρ → Token → Prop}
    (hnote : ∀ l token e, P l token → P (l.note e) token)
    (hfill : ∀ l token, P l token → TokenRule.hit? rule l.buffer l.cursor = some token →
      token.literal = l.buffer → ∃ k l', l.fill = (.ok k, l') ∧ P l' token ∧
        ∃ token', TokenRule.hit? rule l'.buffer l'.cursor = some token' ∧ P l' token')
    {n : Nat} {token : Token} (ht : TokenRule.hit? rule l.buffer l.cursor = some token)
    (hl : P l token) {res : Except LexError (Option Token)}
    (h : matchRule rule n l = some (res, l')) : ∃ token, res = .ok (some token) ∧ P l' token := by
  induction n generalizing l token with
  | zero => cases h
  | succ n ih =>
    rw [matchRule_succ, ht] at h
    simp only at h
    split_ifs at h with hstop
    · cases h
      exact ⟨token, rfl, hl⟩
    · obtain ⟨k, l₁, hf, hl₁, token', ht', hl'⟩ := hfill l token hl ht (literal_eq_buffer ht hstop)
      rw [hf] at h
      simp only at h
      split_ifs at h
      · cases h
        exact ⟨token, rfl, hl₁⟩
      · exact ih (l := l₁.note .matchGrew) ht' (hnote _ _ _ hl') h

end RuleLexer.Lexer
