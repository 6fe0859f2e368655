import RuleLexer.Proofs.Lexer.Passes
import RuleLexer.Proofs.Lexer.Streaming

/-!
# What lies between two tokens

A lexer that faces a text takes nothing from its front but white space until it has found a token.
Each piece of white space is judged on what the buffer holds at that moment, so it is a piece of
white space of some start of what remains, not necessarily of all that remains (`Blanks`).

* `At.moves`: whatever looking for a token does to a lexer that stands at some place of a text, the
  lexer then stands at a place with nothing but white space in between.
* `At.not_fails`: no read fails on the way.
* `At.passStart`: at the start of a pass, the buffer is topped up with all that is wanted of what
  remains, or with all that remains.
-/

namespace RuleLexer.Lexer

open WholeText (Rest)

variable {σ ρ : Type} [TokenRule ρ]

/-- White space in front of a text, piece by piece from some position on. Each piece is found in a
start of what remains there. -/
inductive Blanks (rules : RuleSet ρ) : Position → (gap rest : Text) → Prop where
  | nil (position : Position) (rest : Text) : Blanks rules position [] rest
  | cons {position : Position} {token : Token} {gap rest start behind : Text}
      (hstart : token.literal ++ (gap ++ rest) = start ++ behind)
      (hblank : WholeText.blank? rules ⟨start, position⟩ = some token)
      (h : Blanks rules (position.advanced token.literal) gap rest) :
      Blanks rules position (token.literal ++ gap) rest

variable [ByteSource σ] {rules : RuleSet ρ} {sizes : BufferSizes} {l l' : Lexer σ ρ} {r : Rest}

omit [TokenRule ρ] in
/-- A new lexer stands at the start of the text of all bytes. -/
theorem at_create {source : σ} (rules : RuleSet ρ) {bytes : List UInt8}
    (hd : Delivers sizes.effectiveChunk source bytes) :
    At rules sizes (create source rules sizes) ⟨Utf8.lossy bytes, .start⟩ :=
  ⟨faces_create rules hd, rfl, rfl, rfl⟩

omit [TokenRule ρ] in
/-- A read leaves a lexer where it is, over any source that delivers. -/
theorem At.read (h : At rules sizes l r) : At rules sizes l.fill.2 r := by
  obtain ⟨k, l₁, hf, hfaces, -⟩ := h.faces.fill
  have hsame := (samePlace_fill l).1
  rw [hf] at hsame ⊢
  exact h.of_samePlace hsame hfaces

omit [TokenRule ρ] in
theorem At.refills (h : At rules sizes l r) (hr : Refills l l') : At rules sizes l' r := by
  induction hr with
  | refl => exact h
  | tail _ hstep ih =>
    cases hstep with
    | read => exact ih.read
    | note e => exact ih.note e

/-- White space at the front of the buffer is white space at the front of a start of the rest. -/
theorem At.blank?_buffer (h : At rules sizes l r) :
    l.blank? = WholeText.blank? rules ⟨l.buffer, r.position⟩ := by
  unfold blank? WholeText.blank?
  rw [h.rules_eq, h.cursor]

/-- **Looking for a token passes over white space only.** -/
theorem At.moves (h : At rules sizes l r) (hm : Moves l l') :
    ∃ gap rest, r.text = gap ++ rest ∧ Blanks rules r.position gap rest ∧
      At rules sizes l' ⟨rest, r.position.advanced gap⟩ := by
  induction hm using Relation.ReflTransGen.head_induction_on generalizing r with
  | refl => exact ⟨[], r.text, rfl, .nil _ _, h⟩
  | @head l m hstep _ ih =>
    cases hstep with
    | skip hskip =>
      cases hskip with
      | topUp _ => exact ih h.read
      | @pass token hblank =>
        have hfront := blank?_eq_some hblank
        obtain ⟨gap, rest, hrest, hblanks, hat⟩ := ih (h.consume hfront)
        -- the piece was found in the buffer, which is a start of the rest
        obtain ⟨behind, hbehind⟩ := h.faces.exists_append
        have htext : r.text = token.literal ++ (gap ++ rest) := by
          obtain ⟨-, beyond, hbeyond⟩ := hfront
          have hdrop : r.text.drop token.literal.length = gap ++ rest := hrest
          rw [← hdrop, hbehind, hbeyond, List.append_assoc, List.drop_left]
        have hstart : token.literal ++ (gap ++ rest) = l.buffer ++ behind := by
          rw [← htext, hbehind]
        have hpiece : WholeText.blank? rules ⟨l.buffer, r.position⟩ = some token := by
          rw [← h.blank?_buffer]
          exact hblank
        refine ⟨token.literal ++ gap, rest, ?_, .cons hstart hpiece hblanks, ?_⟩
        · rw [htext, List.append_assoc]
        · rw [Position.advanced_append]
          exact hat
    | note e => exact ih (h.note e)
    | retry _ _ _ => exact ih h.read

omit [TokenRule ρ] in
/-- Consuming a literal takes it from the front of the rest. -/
theorem At.exists_take (h : At rules sizes l r) {literal beyond : Text}
    (hl : l.buffer = literal ++ beyond) :
    ∃ rest, r.text = literal ++ rest ∧
      At rules sizes (l.consume literal) ⟨rest, r.position.advanced literal⟩ := by
  obtain ⟨behind, hbehind⟩ := h.faces.exists_append
  have htext : r.text = literal ++ (beyond ++ behind) := by
    rw [hbehind, hl, List.append_assoc]
  have hfaces := h.faces.consume hl
  rw [htext, List.drop_left] at hfaces
  refine ⟨beyond ++ behind, htext, hfaces, ?_, h.rules_eq, h.sizes_eq⟩
  show l.cursor.advanced literal = r.position.advanced literal
  rw [h.cursor]

/-- **No read fails** in front of a text that is delivered. -/
theorem At.not_fails (h : At rules sizes l r) {e : LexError} : ¬ Fails l e l' := by
  rintro ⟨l₀, hm, hf⟩
  obtain ⟨gap, rest, -, -, hat⟩ := h.moves hm
  obtain ⟨k, l₁, hf', -⟩ := hat.faces.fill
  rw [hf'] at hf
  cases hf

/-- A buffer that was topped up from a source that delivers holds all that is wanted, or all there
is. -/
theorem At.primed_of_toppedUp (h : At rules sizes l r) (ht : ToppedUp l l') : l'.Primed := by
  rcases ht with hbytes | ⟨l₀, hm, hf⟩
  · exact Or.inl hbytes
  · -- a read without bytes ends the input
    obtain ⟨gap, rest, -, -, hat⟩ := h.moves hm
    obtain ⟨k, l₂, hf', -, hend⟩ := hat.faces.fill
    rw [hf'] at hf
    cases hf
    exact Or.inr (hend rfl).1

/-- **The start of a pass**: behind some white space, on a buffer that is topped up. -/
theorem At.passStart {l₁ : Lexer σ ρ} (h : At rules sizes l r) (hs : PassStart l l₁) :
    l₁.Primed ∧ ∃ gap rest, r.text = gap ++ rest ∧ Blanks rules r.position gap rest ∧
      At rules sizes l₁ ⟨rest, r.position.advanced gap⟩ :=
  ⟨h.primed_of_toppedUp hs.topped, h.moves hs.moves⟩

omit [ByteSource σ] in
theorem mark_pos (sizes : BufferSizes) : 1 ≤ sizes.mark := Nat.le_max_right _ _

omit [TokenRule ρ] in
/-- Where a buffer that is topped up is empty, the input is at its end and nothing remains. -/
theorem At.text_eq_nil (h : At rules sizes l r) (hp : l.Primed) (hnil : l.buffer = []) :
    l.exhausted = true ∧ r.text = [] := by
  have hend : l.exhausted = true := by
    rcases hp with hbytes | hend
    · have hmark := mark_pos l.sizes
      rw [hnil, Text.hasBytes_eq, decide_eq_true_eq, Text.byteLength_nil] at hbytes
      omega
    · exact hend
  refine ⟨hend, ?_⟩
  rw [h.faces.eq_buffer hend, hnil]

end RuleLexer.Lexer
