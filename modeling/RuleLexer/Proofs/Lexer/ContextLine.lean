import RuleLexer.Proofs.Lexer.Ending
import RuleLexer.Proofs.Lexer.Skimming

/-!
# The line around the cursor

The line that a lexer tells is put together from two places: what it has consumed of the current
line, and what its buffer holds of it. `LineAround` says what a line around a place in a text is
without mentioning either: the text between two neighbouring line breaks, or between one of them and
an end of the text.

* `lineAround_append`: at any cut of a text, the last line before the cut and the first line behind
  it are the line around the cut.
* `Accounted.refills`: reads leave the consumed text as it is.
* `lastLine_around_cursor`: the line that is told is the line around the cursor in all text that was
  decoded so far, and telling it moves nothing.
-/

namespace RuleLexer

namespace Text

/-- The line around a place in a text, and how many of its characters are before the place. It has
no line break in it; there is one right before it, unless it starts the text, and one right behind
it, unless it ends the text. -/
def LineAround (text : Text) (place : Nat) (line : Text) (column : Nat) : Prop :=
  ∃ head tail, text = head ++ line ++ tail ∧ '\n' ∉ line ∧
    (head = [] ∨ ∃ before, head = before ++ ['\n']) ∧
    (tail = [] ∨ ∃ behind, tail = '\n' :: behind) ∧
    place = head.length + column ∧ column ≤ line.length

/-- What is before the last line is nothing, or ends with a line break. -/
theorem exists_before_lastLine (t : Text) :
    ∃ head, t = head ++ lastLine t ∧ (head = [] ∨ ∃ before, head = before ++ ['\n']) := by
  induction t using List.reverseRecOn with
  | nil => exact ⟨[], rfl, Or.inl rfl⟩
  | append_singleton t c ih =>
    rw [lastLine_concat]
    split_ifs with hc
    · exact ⟨t ++ [c], (List.append_nil _).symm, Or.inr ⟨t, by rw [hc]⟩⟩
    · obtain ⟨head, ht, hhead⟩ := ih
      exact ⟨head, by rw [← List.append_assoc, ← ht], hhead⟩

/-- What is behind the first line is nothing, or starts with a line break. -/
theorem exists_behind_firstLine (t : Text) :
    ∃ tail, t = firstLine t ++ tail ∧ (tail = [] ∨ ∃ behind, tail = '\n' :: behind) := by
  refine ⟨t.dropWhile (· ≠ '\n'), List.takeWhile_append_dropWhile.symm, ?_⟩
  cases hdrop : t.dropWhile (· ≠ '\n') with
  | nil => exact Or.inl rfl
  | cons c behind =>
    have hne : t.dropWhile (· ≠ '\n') ≠ [] := by
      rw [hdrop]
      exact List.cons_ne_nil _ _
    have hc := List.head_dropWhile_not _ hne
    simp only [hdrop, List.head_cons, ne_eq, decide_eq_false_iff_not, not_not] at hc
    exact Or.inr ⟨behind, by rw [hc]⟩

/-- **The line around a cut** is the last line before it and the first line behind it. -/
theorem lineAround_append (before behind : Text) :
    LineAround (before ++ behind) before.length (lastLine before ++ firstLine behind)
      (lastLine before).length := by
  obtain ⟨head, hbefore, hhead⟩ := exists_before_lastLine before
  obtain ⟨tail, hbehind, htail⟩ := exists_behind_firstLine behind
  refine ⟨head, tail, ?_, ?_, hhead, htail, ?_, ?_⟩
  · calc before ++ behind = (head ++ lastLine before) ++ (firstLine behind ++ tail) := by
          rw [← hbefore, ← hbehind]
      _ = head ++ (lastLine before ++ firstLine behind) ++ tail := by
          simp only [List.append_assoc]
  · intro hbreak
    rcases List.mem_append.mp hbreak with hlast | hfirst
    · exact absurd (List.mem_rtakeWhile_imp hlast) (by simp)
    · exact absurd (List.mem_takeWhile_imp hfirst) (by simp)
  · rw [← List.length_append, ← hbefore]
  · rw [List.length_append]
    exact Nat.le_add_right _ _

end Text

namespace Lexer

variable {σ ρ : Type} [ByteSource σ]

/-- **Reads leave the consumed text as it is**, however they go. -/
theorem Accounted.refills {source : σ} {sizes : BufferSizes} {consumed : Text} {l l' : Lexer σ ρ}
    (h : Accounted source sizes consumed l) (hr : Refills l l') :
    Accounted source sizes consumed l' := by
  induction hr with
  | refl => exact h
  | tail _ hstep ih =>
    cases hstep with
    | read => exact ih.fill
    | note e => exact ih.of_eq rfl rfl rfl rfl rfl rfl rfl rfl

/-- The line that is told: nothing is consumed for it, and it is made of what is known then. -/
theorem eq_of_lastLine {l l' : Lexer σ ρ} {line : Text} (h : lastLine l = some (.ok line, l')) :
    Refills l l' ∧ line = l'.line ++ l'.buffer.firstLine := by
  rw [lastLine_eq] at h
  split at h
  · cases h
  · cases h
  · next l₁ hensure =>
    cases h
    exact ⟨refills_topUp hensure, rfl⟩

variable [TokenRule ρ]

/-- **The line around the cursor.** After any calls, over any source and with any rules, the lexer
can be asked for the current line, and it answers or a read fails. The line that it tells is the
line around the cursor in all text decoded by then, which is the consumed text and what the buffer
holds afterwards, and the column of the cursor is the number of characters of the line before it.
Asking consumes nothing: the cursor and the consumed part of the line are what they were, and what
was the consumed text is so still. -/
theorem lastLine_around_cursor (source : σ) (rules : RuleSet ρ) (sizes : BufferSizes)
    (l : Lexer σ ρ) (h : Reached source rules sizes l) :
    (∃ r l', lastLine l = some (r, l')) ∧ (∃ consumed, Accounted source sizes consumed l) ∧
    ∀ (line : Text) (l' : Lexer σ ρ), lastLine l = some (.ok line, l') →
      l'.cursor = l.cursor ∧ l'.line = l.line ∧
      ∀ consumed, Accounted source sizes consumed l →
        Accounted source sizes consumed l' ∧
        Text.LineAround (consumed ++ l'.buffer) consumed.length line l'.cursor.column := by
  refine ⟨?_, h.exists_accounted, ?_⟩
  · obtain ⟨r, l', hensure⟩ := ensureBuffered_ends h.sound
    rw [lastLine_eq, hensure]
    cases r <;> exact ⟨_, _, rfl⟩
  · intro line l' htold
    obtain ⟨hrefills, rfl⟩ := eq_of_lastLine htold
    have hsame := hrefills.append.1
    refine ⟨hsame.cursor, ?_, ?_⟩
    · rw [Lexer.line, Lexer.line, hsame.lineBack]
    · intro consumed haccount
      have haccount' := haccount.refills hrefills
      rw [haccount'.line_eq, haccount'.cursor_eq]
      exact ⟨haccount', Text.lineAround_append consumed l'.buffer⟩

/-- In the middle of the second of three lines, after a token with a line break in it, the line is
asked for; a read brings the end of the line and the start of the next one. -/
theorem lastLine_around_cursor_script :
    let source : Script := ⟨[.data [0x61, 0x0A, 0x62, 0x63], .data [0x64, 0x0A, 0x65]]⟩
    let rules : RuleSet Rule := ⟨none, [.literals .ident [['a', '\n', 'b']]]⟩
    ∃ l l', Reached source rules ⟨2, 4⟩ l ∧ l.cursor = ⟨1, 1, 3⟩ ∧ l.buffer = ['c'] ∧
      lastLine l = some (.ok ['b', 'c', 'd'], l') ∧ l'.buffer = ['c', 'd', '\n', 'e'] ∧
      l'.cursor = l.cursor ∧ l'.line = l.line ∧
      ∀ consumed, Accounted source ⟨2, 4⟩ consumed l →
        Accounted source ⟨2, 4⟩ consumed l' ∧
        Text.LineAround (consumed ++ l'.buffer) consumed.length ['b', 'c', 'd']
          l'.cursor.column := by
  intro source rules
  have hrun : ((scanWithin 20 (create source rules ⟨2, 4⟩)).bind fun p =>
      (lastLine p.2).map fun q => (p.2.cursor, p.2.buffer, q.2.buffer, q.1.toOption)) =
      some (⟨1, 1, 3⟩, ['c'], ['c', 'd', '\n', 'e'], some ['b', 'c', 'd']) := by decide +kernel
  obtain ⟨⟨answer, l⟩, hscan, hrest⟩ := Option.bind_eq_some_iff.mp hrun
  obtain ⟨⟨told, l'⟩, hline, hseen⟩ := Option.map_eq_some_iff.mp hrest
  obtain ⟨hcursor, hseen⟩ := Prod.mk.inj hseen
  obtain ⟨hbuffer, hseen⟩ := Prod.mk.inj hseen
  obtain ⟨hbuffer', htold⟩ := Prod.mk.inj hseen
  have hleads : (Call.scan : Call Rule).Leads (create source rules ⟨2, 4⟩) l :=
    Call.leads_scan hscan
  have hreached : Reached source rules ⟨2, 4⟩ l :=
    ⟨[.scan], [l], .cons hleads (.nil l), List.mem_cons_of_mem _ (List.mem_cons_self ..)⟩
  cases told with
  | error e => cases htold
  | ok line =>
    cases Option.some.inj htold
    exact ⟨l, l', hreached, hcursor, hbuffer, hline, hbuffer',
      (lastLine_around_cursor source rules ⟨2, 4⟩ l hreached).2.2 _ l' hline⟩

end Lexer

end RuleLexer
