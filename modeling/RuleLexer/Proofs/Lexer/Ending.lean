import RuleLexer.Proofs.Lexer.Passes

/-!
# Every operation comes to its end

The loops of a lexer are told how many rounds to make. Over a source with a budget, the rounds that
a lexer counts on are enough for all of them, whatever the reads bring: bytes that are no character,
nothing at all, or a fault. Two numbers pay for the rounds.

* `ahead`: every read that a loop goes on after has used up some of it, and so has every pass over
  the rules that is made again.
* `reach`: no more characters than this can still come to the front of the buffer, and every piece
  of white space, every token and every skipped literal takes some of them.

`Onward` says that neither goes up, `Moves.onward` that no operation makes them go up, and
`peekWithin_ends`, `scanWithin_ends` and `collectWithin_ends` that the rounds suffice.
-/

namespace RuleLexer.Lexer

variable {σ ρ : Type}

/-! ### Topping up -/

/-- Topping up comes to an end over any source, whether a read fails or not: each read that goes on
gathers a byte, and of the bytes gathered no more than three are missing from the buffer. -/
theorem topUp_ends [ByteSource σ] {l : Lexer σ ρ} (hs : Utf8.Sound l.pending) {mark n : Nat}
    (hn : mark + 3 ≤ n + l.gathered) : ∃ r l', topUp mark (n + 1) l = some (r, l') := by
  induction n generalizing l with
  | zero =>
    have hb : l.buffer.hasBytes mark = true := by
      have h3 := gathered_le hs
      rw [Text.hasBytes_eq, decide_eq_true_eq]
      omega
    rw [topUp_succ, if_pos hb]
    exact ⟨_, _, rfl⟩
  | succ n ih =>
    rw [topUp_succ]
    split_ifs with hb
    · exact ⟨_, _, rfl⟩
    · split
      · exact ⟨_, _, rfl⟩
      · next k l₁ hf =>
        obtain ⟨hs', hg⟩ := gathered_fill hs hf
        split_ifs with hk
        · exact ⟨_, _, rfl⟩
        · exact ih hs' (by omega)

theorem ensureBuffered_ends [ByteSource σ] {l : Lexer σ ρ} (hs : Utf8.Sound l.pending) :
    ∃ r l', ensureBuffered l = some (r, l') := by
  rw [ensureBuffered_eq]
  exact topUp_ends hs (Nat.le_add_right _ _)

/-! ### What is used up -/

variable [FiniteSource σ]

/-- How many characters can still come to the front: those in the buffer, one for the start of a
character that is held, and one for every byte to come. -/
def reach (l : Lexer σ ρ) : Nat :=
  l.buffer.length + l.pending.heldCount + FiniteSource.budget l.source

/-- There is a round for each character in reach, one for what comes behind the last of them, and
one more. -/
theorem reach_add_one_lt_rounds (l : Lexer σ ρ) : l.reach + 1 < l.rounds := by
  have hone := l.pending.heldCount_le_one
  unfold reach rounds
  omega

theorem reach_lt_rounds (l : Lexer σ ρ) : l.reach < l.rounds := by
  have hlt := reach_add_one_lt_rounds l
  omega

/-- Consuming uses up the characters that it takes. -/
theorem reach_consume {l : Lexer σ ρ} {literal rest : Text} (h : l.buffer = literal ++ rest) :
    (l.consume literal).reach + literal.length = l.reach := by
  have hdrop : (l.consume literal).buffer.length + literal.length = l.buffer.length := by
    show (l.buffer.drop literal.length).length + literal.length = l.buffer.length
    rw [h, List.drop_left, List.length_append]
    omega
  unfold reach
  show (l.consume literal).buffer.length + l.pending.heldCount + FiniteSource.budget l.source +
    literal.length = _
  omega

/-- From one lexer to another, nothing new has come into reach. Where text has come, there is less
ahead. -/
structure Onward (l l' : Lexer σ ρ) : Prop where
  sound : Utf8.Sound l'.pending
  reach_le : l'.reach ≤ l.reach
  ahead_le : l'.ahead ≤ l.ahead
  generation : l'.generation = l.generation ∨ l'.ahead < l.ahead

theorem Onward.refl {l : Lexer σ ρ} (hs : Utf8.Sound l.pending) : Onward l l :=
  ⟨hs, Nat.le_refl _, Nat.le_refl _, Or.inl rfl⟩

theorem Onward.trans {l l' l'' : Lexer σ ρ} (h : Onward l l') (h' : Onward l' l'') :
    Onward l l'' := by
  have hle := h.ahead_le
  have hle' := h'.ahead_le
  refine ⟨h'.sound, Nat.le_trans h'.reach_le h.reach_le, Nat.le_trans hle' hle, ?_⟩
  rcases h.generation with hg | hlt
  · rcases h'.generation with hg' | hlt'
    · exact Or.inl (hg'.trans hg)
    · exact Or.inr (Nat.lt_of_lt_of_le hlt' hle)
  · exact Or.inr (Nat.lt_of_le_of_lt hle' hlt)

/-- The characters that a read brings are paid for by its bytes and by what was held. -/
theorem length_brought_add_le {l : Lexer σ ρ} (he : l.exhausted = false)
    (hs : Utf8.Sound l.pending) (status : ReadStatus) :
    (l.asked.brought status).length + (l.asked.leftPending status).heldCount ≤
      l.pending.heldCount + (l.asked.counted status).length := by
  rw [brought_asked he, leftPending_asked he hs]
  split_ifs
  · exact Utf8.length_textAfter_le hs _
  · rw [Utf8.length_text]
    exact Utf8.length_decode_add_le hs _

/-- A read uses up what it brings, however it goes. -/
theorem onward_fill {l : Lexer σ ρ} (hs : Utf8.Sound l.pending) : Onward l l.fill.2 := by
  rcases l.fill_cases with ⟨-, hf⟩ | ⟨he, fault, hr, hf⟩ | ⟨he, status, journal, hr, hf⟩
  · rw [hf]
    exact Onward.refl hs
  · -- the budget may go down although nothing has come
    have hbudget : FiniteSource.budget l.asked.source ≤ FiniteSource.budget l.source := by
      have hb := FiniteSource.count_add_budget_le l.source l.sizes.effectiveChunk
      exact Nat.le_trans (Nat.le_add_left _ _) hb
    rw [hf]
    refine ⟨hs, ?_, ?_, Or.inl rfl⟩
    · exact Nat.add_le_add_left hbudget _
    · exact Nat.add_le_add_right hbudget _
  · have hgrown := grown_fill hf
    have hbrought := length_brought_add_le he hs status
    have hbudget := budget_asked hr
    have hreach : l.fill.2.reach ≤ l.reach := by
      rw [hf]
      show (l.buffer ++ l.asked.brought status).length + (l.asked.leftPending status).heldCount +
        FiniteSource.budget l.asked.source ≤ _
      unfold reach
      rw [List.length_append]
      omega
    rw [hf] at hreach ⊢
    refine ⟨(gathered_fill hs hf).1, hreach, hgrown.ahead_le, ?_⟩
    rcases hgrown.generation with ⟨hg, -⟩ | ⟨-, hlt⟩
    · exact Or.inl hg
    · exact Or.inr hlt

variable [TokenRule ρ] {l l' : Lexer σ ρ}

theorem Move.onward (h : Move l l') (hs : Utf8.Sound l.pending) : Onward l l' := by
  cases h with
  | skip hskip =>
    cases hskip with
    | topUp _ => exact onward_fill hs
    | pass hblank =>
      obtain ⟨-, rest, hrest⟩ := blank?_eq_some hblank
      have hreach := reach_consume hrest
      exact ⟨hs, by omega, Nat.le_refl _, Or.inl rfl⟩
  | note e => exact ⟨hs, Nat.le_refl _, Nat.le_refl _, Or.inl rfl⟩
  | retry _ _ _ => exact onward_fill hs

/-- No operation brings anything new into reach. -/
theorem Moves.onward (h : Moves l l') (hs : Utf8.Sound l.pending) : Onward l l' := by
  induction h with
  | refl => exact Onward.refl hs
  | tail _ hm ih => exact ih.trans (hm.onward ih.sound)

/-! ### The loops -/

theorem skipWhitespace_ends (hs : Utf8.Sound l.pending) {n : Nat} (hn : l.reach < n) :
    ∃ r l', skipWhitespace n l = some (r, l') := by
  induction n generalizing l with
  | zero => exact absurd hn (Nat.not_lt_zero _)
  | succ n ih =>
    obtain ⟨r, l₁, he⟩ := ensureBuffered_ends hs
    have h₁ : Onward l l₁ := (skips_ensureBuffered he).moves.onward hs
    rw [skipWhitespace_succ, he]
    cases r with
    | error e => exact ⟨_, _, rfl⟩
    | ok u =>
      simp only
      cases hblank : l₁.blank? with
      | none => exact ⟨_, _, rfl⟩
      | some token =>
        -- a piece of white space has at least one character
        obtain ⟨hne, rest, hrest⟩ := blank?_eq_some hblank
        have hpos := List.length_pos_iff.mpr hne
        have hreach := reach_consume hrest
        have hle := h₁.reach_le
        exact ih h₁.sound (by omega)

theorem matchRule_ends {rule : ρ} {n : Nat} (hn : l.ahead < n) :
    ∃ r l', matchRule rule n l = some (r, l') := by
  induction n generalizing l with
  | zero => exact absurd hn (Nat.not_lt_zero _)
  | succ n ih =>
    rw [matchRule_succ]
    split
    · exact ⟨_, _, rfl⟩
    · split_ifs
      · exact ⟨_, _, rfl⟩
      · split
        · exact ⟨_, _, rfl⟩
        · next k l₁ hf =>
          split_ifs with hk
          · exact ⟨_, _, rfl⟩
          · -- the read has brought bytes, so there is less ahead
            have hahead := (ahead_fill hf).1
            apply ih
            show l₁.ahead < n
            omega

theorem tryRules_ends {rounds generation : Nat} {rules : List ρ} (hs : Utf8.Sound l.pending)
    (hrules : ∀ rule ∈ rules, rule ∈ l.rules.rules) (hreach : l.reach < rounds)
    (hahead : l.ahead < rounds) : ∃ r l', tryRules rounds generation rules l = some (r, l') := by
  induction rules generalizing l with
  | nil =>
    rw [tryRules_nil]
    exact ⟨_, _, rfl⟩
  | cons rule rest ih =>
    rw [tryRules_cons]
    obtain ⟨r₁, l₁, hskip⟩ := skipWhitespace_ends hs hreach
    have h₁ : Onward l l₁ := (skips_skipWhitespace hskip).moves.onward hs
    obtain ⟨r₂, l₂, hensure⟩ := ensureBuffered_ends h₁.sound
    have hmoves : Moves l l₂ :=
      (skips_skipWhitespace hskip).moves.trans (skips_ensureBuffered hensure).moves
    have h₂ : Onward l l₂ := hmoves.onward hs
    rw [hskip]
    cases r₁ with
    | error e => exact ⟨_, _, rfl⟩
    | ok u =>
      simp only
      rw [hensure]
      cases r₂ with
      | error e => exact ⟨_, _, rfl⟩
      | ok u =>
        simp only
        split_ifs
        · exact ⟨_, _, rfl⟩
        · have hrule₂ : rule ∈ l₂.rules.rules := by
            rw [hmoves.rules_eq]
            exact hrules rule (List.mem_cons_self ..)
          obtain ⟨r₃, l₃, hmatch⟩ : ∃ r l', matchRule rule rounds l₂ = some (r, l') :=
            matchRule_ends (Nat.lt_of_le_of_lt h₂.ahead_le hahead)
          have hmoves₃ : Moves l l₃ := hmoves.trans (moves_matchRule hrule₂ hmatch).1
          have h₃ : Onward l l₃ := hmoves₃.onward hs
          rw [hmatch]
          rcases r₃ with e | _ | token
          · exact ⟨_, _, rfl⟩
          · refine ih h₃.sound ?_ (Nat.lt_of_le_of_lt h₃.reach_le hreach)
              (Nat.lt_of_le_of_lt h₃.ahead_le hahead)
            intro q hq
            rw [hmoves₃.rules_eq]
            exact hrules q (List.mem_cons_of_mem _ hq)
          · exact ⟨_, _, rfl⟩

/-- Looking for a token comes to an end. -/
theorem peekWithin_ends {rounds n : Nat} (hs : Utf8.Sound l.pending) (hreach : l.reach < rounds)
    (hahead : l.ahead < rounds) (hn : l.ahead < n) :
    ∃ r l', peekWithin rounds n l = some (r, l') := by
  induction n generalizing l with
  | zero => exact absurd hn (Nat.not_lt_zero _)
  | succ n ih =>
    obtain ⟨r₁, l₁, hskip⟩ := skipWhitespace_ends hs hreach
    have h₁ : Onward l l₁ := (skips_skipWhitespace hskip).moves.onward hs
    have hstart := skipWhitespace_cases hskip
    rw [peekWithin_succ, hskip]
    cases r₁ with
    | error e => exact ⟨_, _, rfl⟩
    | ok u =>
      obtain ⟨a, l₂, htry⟩ : ∃ a l₂,
          tryRules rounds l₁.generation l₁.rules.rules l₁ = some (a, l₂) :=
        tryRules_ends h₁.sound (fun _ hq => hq) (Nat.lt_of_le_of_lt h₁.reach_le hreach)
          (Nat.lt_of_le_of_lt h₁.ahead_le hahead)
      have h₂ : Onward l₁ l₂ := (moves_tryRules (fun _ hq => hq) htry).1.onward h₁.sound
      have hpass := passed_of_tryRules (fun _ hq => hq) hstart.blank htry
      simp only
      rw [htry]
      cases hpass with
      | failed _ => exact ⟨_, _, rfl⟩
      | matched _ _ _ _ => exact ⟨_, _, rfl⟩
      | missed _ _ => exact ⟨_, _, rfl⟩
      | grew hlt =>
        -- text has come in this pass, so there is less ahead of the next one
        have hless : l₂.ahead < l₁.ahead := by
          rcases h₂.generation with hg | hless
          · omega
          · exact hless
        have hle := h₁.ahead_le
        have hreach₂ := Nat.le_trans h₂.reach_le h₁.reach_le
        refine ih (l := l₂.note .grewWhileMatching) h₂.sound ?_ ?_ ?_
        · show l₂.reach < rounds
          omega
        · show l₂.ahead < rounds
          omega
        · show l₂.ahead < n
          omega

/-! ### Scanning -/

/-- A scan comes to an end. -/
theorem scanWithin_ends {rounds : Nat} (hs : Utf8.Sound l.pending) (hreach : l.reach < rounds)
    (hahead : l.ahead < rounds) : ∃ r l', scanWithin rounds l = some (r, l') := by
  obtain ⟨r, l₁, hpeek⟩ := peekWithin_ends hs hreach hahead hahead
  rw [scanWithin_eq, hpeek]
  rcases r with e | _ | token <;> exact ⟨_, _, rfl⟩

/-- Nor does a scan bring anything new into reach, and a token uses some of it up. -/
theorem onward_scanWithin {rounds : Nat} {r : Except LexError (Option Token)}
    (hs : Utf8.Sound l.pending) (h : scanWithin rounds l = some (r, l')) :
    Onward l l' ∧ ∀ token, r = .ok (some token) → l'.reach < l.reach := by
  obtain ⟨l₁, hpeek, rfl⟩ := exists_peekWithin_of_scanWithin h
  obtain ⟨hmoves, hfront⟩ := moves_peekWithin hpeek
  have h₁ : Onward l l₁ := hmoves.onward hs
  rcases r with e | _ | token
  · exact ⟨h₁, fun token htoken => by cases htoken⟩
  · exact ⟨h₁, fun token htoken => by cases htoken⟩
  · -- what is taken is not empty
    obtain ⟨hne, rest, hrest⟩ := hfront token rfl
    have hle := h₁.reach_le
    have hpos := List.length_pos_iff.mpr hne
    have hreach : (l₁.consume token.literal).reach + token.literal.length = l₁.reach :=
      reach_consume hrest
    constructor
    · refine ⟨h₁.sound, ?_, h₁.ahead_le, h₁.generation⟩
      show (l₁.consume token.literal).reach ≤ l.reach
      omega
    · intro token' _
      show (l₁.consume token.literal).reach < l.reach
      omega

/-- All tokens together come to an end. -/
theorem collectWithin_ends {rounds n : Nat} (hs : Utf8.Sound l.pending)
    (hreach : l.reach < rounds) (hahead : l.ahead < rounds) (hn : l.reach < n) :
    ∃ r l', collectWithin rounds n l = some (r, l') := by
  induction n generalizing l with
  | zero => exact absurd hn (Nat.not_lt_zero _)
  | succ n ih =>
    obtain ⟨r, l₁, hscan⟩ := scanWithin_ends hs hreach hahead
    obtain ⟨h₁, htoken⟩ := onward_scanWithin hs hscan
    rw [collectWithin_succ, hscan]
    rcases r with e | _ | token
    · exact ⟨_, _, rfl⟩
    · exact ⟨_, _, rfl⟩
    · -- every token takes at least one character
      have hless := htoken token rfl
      obtain ⟨r₂, l₂, hrest⟩ := ih h₁.sound (by omega)
        (Nat.lt_of_le_of_lt h₁.ahead_le hahead) (by omega)
      simp only
      rw [hrest]
      exact ⟨_, _, rfl⟩

end RuleLexer.Lexer
