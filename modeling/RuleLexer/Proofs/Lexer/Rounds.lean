import RuleLexer.Lexer.Stream

/-!
# One round of each loop

The loops of a lexer are written as operations of `LexM`. Here each of them is unrolled by one round
and told as a plain function of the lexer: what it looks at, which read it makes, and with which
lexer it goes on. Whatever is proved about a loop starts from these equations, and none of the
operations is opened again.
-/

namespace RuleLexer

/-! ### Operations in sequence -/

namespace LexM

variable {σ ρ α β : Type}

theorem bind_apply (x : LexM σ ρ α) (f : α → LexM σ ρ β) (l : Lexer σ ρ) :
    (x >>= f) l = match x l with
      | none => none
      | some (.error e, l') => some (.error e, l')
      | some (.ok a, l') => f a l' := by
  show (ExceptT.bind x f) l = _
  simp only [ExceptT.bind, ExceptT.mk, bind, StateT.bind]
  cases x l with
  | none => rfl
  | some r => rcases r with ⟨_ | a, l'⟩ <;> rfl

/-- The answer of an operation in other words. -/
theorem map_apply (f : α → β) (x : LexM σ ρ α) (l : Lexer σ ρ) :
    (f <$> x) l = (x l).map fun p => (p.1.map f, p.2) := by
  show (ExceptT.map f x) l = _
  simp only [ExceptT.map, ExceptT.mk, bind, StateT.bind]
  cases x l with
  | none => rfl
  | some r => rcases r with ⟨_ | a, l'⟩ <;> rfl

theorem get_bind (f : Lexer σ ρ → LexM σ ρ β) (l : Lexer σ ρ) :
    ((get : LexM σ ρ (Lexer σ ρ)) >>= f) l = f l l := rfl

theorem ofFunction_bind (g : Lexer σ ρ → Except LexError α × Lexer σ ρ) (f : α → LexM σ ρ β)
    (l : Lexer σ ρ) :
    (ofFunction g >>= f) l = match g l with
      | (.error e, l') => some (.error e, l')
      | (.ok a, l') => f a l' := by
  rw [bind_apply]
  show (match some (g l) with | none => _ | some (.error e, l') => _ | some (.ok a, l') => _) = _
  rcases g l with ⟨_ | a, l'⟩ <;> rfl

/-- A run that is seen in part: its outcome, and some of what the lexer shows afterwards. -/
theorem exists_of_map_eq_some (view : Lexer σ ρ → β) {x : Option (Except LexError α × Lexer σ ρ)}
    {a : α} {b : β} (h : x.map (fun p => (p.1.toOption, view p.2)) = some (some a, b)) :
    ∃ l, x = some (.ok a, l) ∧ view l = b := by
  obtain ⟨⟨res, l⟩, rfl, hseen⟩ := Option.map_eq_some_iff.mp h
  obtain ⟨houtcome, hview⟩ := Prod.mk.inj hseen
  cases res with
  | error e => cases houtcome
  | ok found =>
    cases houtcome
    exact ⟨l, rfl, hview⟩

end LexM

namespace Lexer

variable {σ ρ : Type}

section Source

variable [ByteSource σ]

/-- One round of topping up: a read, unless there is enough. -/
theorem topUp_succ (mark n : Nat) (l : Lexer σ ρ) :
    topUp mark (n + 1) l =
      if l.buffer.hasBytes mark then some (.ok (), l)
      else
        match l.fill with
        | (.error e, l') => some (.error e, l')
        | (.ok k, l') => if k = 0 then some (.ok (), l') else topUp mark n l' := by
  rw [topUp, LexM.get_bind]
  cases hb : l.buffer.hasBytes mark with
  | true => rfl
  | false =>
    rw [if_neg Bool.false_ne_true, Bool.not_false, if_pos rfl, LexM.ofFunction_bind]
    rcases l.fill with ⟨e | k, l'⟩
    · rfl
    · by_cases hk : k = 0
      · rw [hk]
        rfl
      · simp only [ne_eq, hk, not_false_eq_true, if_true, if_false]

theorem ensureBuffered_eq (l : Lexer σ ρ) :
    ensureBuffered l = topUp l.sizes.mark (l.sizes.mark + 4) l := rfl

theorem lastLine_eq (l : Lexer σ ρ) :
    lastLine l = match ensureBuffered l with
      | none => none
      | some (.error e, l') => some (.error e, l')
      | some (.ok _, l') => some (.ok (l'.line ++ l'.buffer.firstLine), l') := by
  rw [lastLine, LexM.bind_apply]
  rcases ensureBuffered l with _ | ⟨e | _, l'⟩ <;> rfl

end Source

section Rule

variable [ByteSource σ] [TokenRule ρ]

/-- White space at the front of the buffer, if there is some. -/
def blank? (l : Lexer σ ρ) : Option Token :=
  l.rules.whitespace.bind (TokenRule.hit? · l.buffer l.cursor)

/-- One round of passing over white space. -/
theorem skipWhitespace_succ (n : Nat) (l : Lexer σ ρ) :
    skipWhitespace (n + 1) l = match ensureBuffered l with
      | none => none
      | some (.error e, l') => some (.error e, l')
      | some (.ok _, l') => match l'.blank? with
        | none => some (.ok (), l')
        | some token => skipWhitespace n (l'.consume token.literal) := by
  rw [skipWhitespace, LexM.bind_apply]
  rcases ensureBuffered l with _ | ⟨e | _, l'⟩
  · rfl
  · rfl
  · simp only [LexM.get_bind, blank?]
    cases l'.rules.whitespace.bind (TokenRule.hit? · l'.buffer l'.cursor) with
    | none => rfl
    | some token => rfl

/-- One round of trying a rule: a match that takes all of the buffer is tried again once a read has
brought bytes. -/
theorem matchRule_succ (rule : ρ) (n : Nat) (l : Lexer σ ρ) :
    matchRule rule (n + 1) l = match TokenRule.hit? rule l.buffer l.cursor with
      | none => some (.ok none, l)
      | some token =>
        if l.exhausted || !(l.buffer.drop token.literal.length).isEmpty then
          some (.ok (some token), l)
        else
          match l.fill with
          | (.error e, l') => some (.error e, l')
          | (.ok k, l') =>
            if k = 0 then some (.ok (some token), l')
            else matchRule rule n (l'.note .matchGrew) := by
  rw [matchRule, LexM.get_bind]
  cases TokenRule.hit? rule l.buffer l.cursor with
  | none => rfl
  | some token =>
    simp only
    by_cases hc : (l.exhausted || !(l.buffer.drop token.literal.length).isEmpty) = true
    · rw [if_pos hc, if_pos hc]
      rfl
    · rw [if_neg hc, if_neg hc, LexM.ofFunction_bind]
      rcases l.fill with ⟨e | k, l'⟩
      · rfl
      · by_cases hk : k = 0
        · simp only [hk, if_true]
          rfl
        · simp only [hk, if_false]
          rfl

theorem tryRules_nil (rounds generation : Nat) (l : Lexer σ ρ) :
    tryRules rounds generation [] l =
      some (.ok (if l.generation ≠ generation then .grew else .noMatch), l) := by
  rw [tryRules, LexM.get_bind]
  by_cases h : l.generation = generation
  · simp only [ne_eq, h, not_true_eq_false, if_false]
    rfl
  · simp only [ne_eq, h, not_false_eq_true, if_true]
    rfl

/-- One rule of several. -/
theorem tryRules_cons (rounds generation : Nat) (rule : ρ) (rest : List ρ) (l : Lexer σ ρ) :
    tryRules rounds generation (rule :: rest) l = match skipWhitespace rounds l with
      | none => none
      | some (.error e, l₁) => some (.error e, l₁)
      | some (.ok _, l₁) => match ensureBuffered l₁ with
        | none => none
        | some (.error e, l₂) => some (.error e, l₂)
        | some (.ok _, l₂) =>
          if l₂.generation ≠ generation then some (.ok .grew, l₂)
          else match matchRule rule rounds l₂ with
            | none => none
            | some (.error e, l₃) => some (.error e, l₃)
            | some (.ok (some token), l₃) => some (.ok (.matched token), l₃)
            | some (.ok none, l₃) => tryRules rounds generation rest l₃ := by
  rw [tryRules, LexM.bind_apply]
  rcases skipWhitespace rounds l with _ | ⟨e | _, l₁⟩
  · rfl
  · rfl
  · simp only [LexM.bind_apply]
    rcases ensureBuffered l₁ with _ | ⟨e | _, l₂⟩
    · rfl
    · rfl
    · simp only
      show (if l₂.generation ≠ generation then pure .grew else _ : LexM σ ρ Attempt) l₂ = _
      by_cases hg : l₂.generation = generation
      · rw [if_neg (not_not_intro hg), if_neg (not_not_intro hg), LexM.bind_apply]
        rcases matchRule rule rounds l₂ with _ | ⟨e | _ | token, l₃⟩ <;> rfl
      · rw [if_pos hg, if_pos hg]
        rfl

/-- What is said when no rule has matched. -/
def noToken (l : Lexer σ ρ) : Except LexError (Option Token) × Lexer σ ρ :=
  if l.buffer.isEmpty then (.ok none, l)
  else
    (.error (.unknownToken (l.rules.unknownLiteral l.cursor l.buffer) l.cursor),
      l.note (.unknownToken (l.rules.unknownLiteral l.cursor l.buffer) l.cursor))

/-- One pass over all rules. -/
theorem peekWithin_succ (rounds n : Nat) (l : Lexer σ ρ) :
    peekWithin rounds (n + 1) l = match skipWhitespace rounds l with
      | none => none
      | some (.error e, l₁) => some (.error e, l₁)
      | some (.ok _, l₁) => match tryRules rounds l₁.generation l₁.rules.rules l₁ with
        | none => none
        | some (.error e, l₂) => some (.error e, l₂)
        | some (.ok (.matched token), l₂) => some (.ok (some token), l₂)
        | some (.ok .grew, l₂) => peekWithin rounds n (l₂.note .grewWhileMatching)
        | some (.ok .noMatch, l₂) => some l₂.noToken := by
  rw [peekWithin, LexM.bind_apply]
  rcases skipWhitespace rounds l with _ | ⟨e | _, l₁⟩
  · rfl
  · rfl
  · simp only
    rw [LexM.get_bind, LexM.bind_apply]
    rcases tryRules rounds l₁.generation l₁.rules.rules l₁ with _ | ⟨e | a, l₂⟩
    · rfl
    · rfl
    · cases a with
      | matched token => rfl
      | grew => rfl
      | noMatch =>
        simp only [LexM.get_bind, noToken]
        cases l₂.buffer.isEmpty <;> rfl

theorem scanWithin_eq (rounds : Nat) (l : Lexer σ ρ) :
    scanWithin rounds l = match peekWithin rounds rounds l with
      | none => none
      | some (.error e, l') => some (.error e, l')
      | some (.ok none, l') => some (.ok none, l')
      | some (.ok (some token), l') =>
        some (.ok (some token), (l'.consume token.literal).note (.produced token)) := by
  rw [scanWithin, LexM.bind_apply]
  rcases peekWithin rounds rounds l with _ | ⟨e | _ | token, l'⟩ <;> rfl

omit [ByteSource σ] [TokenRule ρ] in
/-- The lexer once an answer was taken: a token is consumed and reported. -/
def took (l : Lexer σ ρ) : Except LexError (Option Token) → Lexer σ ρ
  | .ok (some token) => (l.consume token.literal).note (.produced token)
  | _ => l

/-- A scan is a look whose answer is taken. -/
theorem exists_peekWithin_of_scanWithin {rounds : Nat} {l l' : Lexer σ ρ}
    {r : Except LexError (Option Token)} (h : scanWithin rounds l = some (r, l')) :
    ∃ l₁, peekWithin rounds rounds l = some (r, l₁) ∧ l' = l₁.took r := by
  rw [scanWithin_eq] at h
  rcases hpeek : peekWithin rounds rounds l with _ | ⟨e | _ | token, l₁⟩
  · rw [hpeek] at h
    cases h
  all_goals
    rw [hpeek] at h
    cases h
    exact ⟨_, rfl, rfl⟩

/-- A call without a token has looked for one and done nothing else, be it a look or a scan. -/
theorem exists_peekWithin_of_no_token {rounds n : Nat} {l l' : Lexer σ ρ}
    {r : Except LexError (Option Token)} (hr : ∀ token, r ≠ .ok (some token))
    (h : peekWithin rounds n l = some (r, l') ∨ scanWithin rounds l = some (r, l')) :
    ∃ n, peekWithin rounds n l = some (r, l') := by
  rcases h with hpeek | hscan
  · exact ⟨n, hpeek⟩
  · obtain ⟨l₁, hpeek, rfl⟩ := exists_peekWithin_of_scanWithin hscan
    refine ⟨rounds, ?_⟩
    rcases r with e | _ | token
    · exact hpeek
    · exact hpeek
    · exact absurd rfl (hr token)

omit [ByteSource σ] [TokenRule ρ] in
theorem attempt_apply {α : Type} (op : LexM σ ρ α) (l : Lexer σ ρ) :
    attempt op l = (op l).map fun r => (.ok r.1, r.2) := rfl

/-- The next item of a stream, which has failed before or not. -/
theorem nextWithin_eq (rounds : Nat) (failed : Bool) (l : Lexer σ ρ) :
    nextWithin rounds failed l =
      if failed then some (.ok (none, true), l)
      else match scanWithin rounds l with
        | none => none
        | some (.error e, l') => some (.ok (some (.error e), true), l')
        | some (.ok token, l') => some (.ok (token.map .ok, false), l') := by
  rw [nextWithin]
  cases failed with
  | true => rfl
  | false =>
    rw [if_neg Bool.false_ne_true, if_neg Bool.false_ne_true, LexM.bind_apply, attempt_apply]
    rcases scanWithin rounds l with _ | ⟨e | token, l'⟩ <;> rfl

/-- One more item of a stream. -/
theorem takeWithin_succ (rounds n : Nat) (failed : Bool) (l : Lexer σ ρ) :
    takeWithin rounds (n + 1) failed l = match nextWithin rounds failed l with
      | none => none
      | some (.error e, l') => some (.error e, l')
      | some (.ok (none, failed'), l') => some (.ok ⟨[], true, failed'⟩, l')
      | some (.ok (some item, failed'), l') =>
        (takeWithin rounds n failed' l').map fun r =>
          (r.1.map fun taken => { taken with items := item :: taken.items }, r.2) := by
  rw [takeWithin, LexM.bind_apply]
  rcases nextWithin rounds failed l with _ | ⟨e | ⟨_ | item, failed'⟩, l'⟩
  · rfl
  · rfl
  · rfl
  · simp only [LexM.bind_apply]
    rcases takeWithin rounds n failed' l' with _ | ⟨e | taken, l''⟩ <;> rfl

/-- One more token of a list. -/
theorem collectWithin_succ (rounds n : Nat) (l : Lexer σ ρ) :
    collectWithin rounds (n + 1) l = match scanWithin rounds l with
      | none => none
      | some (.error e, l') => some (.error e, l')
      | some (.ok none, l') => some (.ok [], l')
      | some (.ok (some token), l') =>
        (collectWithin rounds n l').map fun r => (r.1.map (token :: ·), r.2) := by
  rw [collectWithin, LexM.bind_apply]
  rcases scanWithin rounds l with _ | ⟨e | _ | token, l'⟩
  · rfl
  · rfl
  · rfl
  · simp only [LexM.bind_apply]
    rcases collectWithin rounds n l' with _ | ⟨e | tokens, l''⟩ <;> rfl

/-- One more entry of a list with what was skipped. -/
theorem recoverWithin_succ (rounds n : Nat) (l : Lexer σ ρ) :
    recoverWithin rounds (n + 1) l = match scanWithin rounds l with
      | none => none
      | some (.ok none, l') => some (.ok [], l')
      | some (.ok (some token), l') =>
        (recoverWithin rounds n l').map fun r => (r.1.map (.ok token :: ·), r.2)
      | some (.error (.unknownToken literal position), l') =>
        (recoverWithin rounds n (l'.skipLiteral literal).2).map fun r =>
          (r.1.map (.error (.unknownToken literal position) :: ·), r.2)
      | some (.error (.read position fault), l') =>
        some (.ok [.error (.read position fault)], l') := by
  rw [recoverWithin, LexM.bind_apply, attempt_apply]
  rcases scanWithin rounds l with _ | ⟨(⟨literal, position⟩ | ⟨position, fault⟩) | _ | token, l'⟩
  · rfl
  · simp only [Option.map_some]
    show (recoverWithin rounds n >>= _) (l'.skipLiteral literal).2 = _
    rw [LexM.bind_apply]
    rcases recoverWithin rounds n (l'.skipLiteral literal).2 with _ | ⟨e | items, l''⟩ <;> rfl
  · rfl
  · rfl
  · simp only [Option.map_some, LexM.bind_apply]
    rcases recoverWithin rounds n l' with _ | ⟨e | items, l''⟩ <;> rfl

end Rule

/-! ### More rounds

A loop that ends within its rounds ends in the same way if it may make more of them. -/

section More

variable [ByteSource σ] [TokenRule ρ]

theorem skipWhitespace_mono {n m : Nat} (hnm : n ≤ m) {l l' : Lexer σ ρ} {r : Except LexError Unit}
    (h : skipWhitespace n l = some (r, l')) : skipWhitespace m l = some (r, l') := by
  induction n generalizing m l with
  | zero => cases h
  | succ n ih =>
    obtain ⟨m, rfl⟩ : ∃ k, m = k + 1 := ⟨m - 1, by omega⟩
    rw [skipWhitespace_succ] at h ⊢
    rcases hensure : ensureBuffered l with _ | ⟨e | u, l₁⟩
    · rw [hensure] at h
      cases h
    · rw [hensure] at h
      exact h
    · rw [hensure] at h
      simp only at h ⊢
      cases hblank : l₁.blank? with
      | none =>
        rw [hblank] at h
        exact h
      | some token =>
        rw [hblank] at h
        exact ih (by omega) h

theorem matchRule_mono {rule : ρ} {n m : Nat} (hnm : n ≤ m) {l l' : Lexer σ ρ}
    {r : Except LexError (Option Token)} (h : matchRule rule n l = some (r, l')) :
    matchRule rule m l = some (r, l') := by
  induction n generalizing m l with
  | zero => cases h
  | succ n ih =>
    obtain ⟨m, rfl⟩ : ∃ k, m = k + 1 := ⟨m - 1, by omega⟩
    rw [matchRule_succ] at h ⊢
    cases hhit : TokenRule.hit? rule l.buffer l.cursor with
    | none =>
      rw [hhit] at h
      exact h
    | some token =>
      rw [hhit] at h
      simp only at h ⊢
      by_cases hstop : (l.exhausted || !(l.buffer.drop token.literal.length).isEmpty) = true
      · rw [if_pos hstop] at h ⊢
        exact h
      · rw [if_neg hstop] at h ⊢
        rcases hfill : l.fill with ⟨e | k, l₁⟩
        · rw [hfill] at h
          exact h
        · rw [hfill] at h
          simp only at h ⊢
          by_cases hk : k = 0
          · rw [if_pos hk] at h ⊢
            exact h
          · rw [if_neg hk] at h ⊢
            exact ih (by omega) h

theorem tryRules_mono {rounds more generation : Nat} (hmore : rounds ≤ more) {rules : List ρ}
    {l l' : Lexer σ ρ} {r : Except LexError Attempt}
    (h : tryRules rounds generation rules l = some (r, l')) :
    tryRules more generation rules l = some (r, l') := by
  induction rules generalizing l with
  | nil =>
    rw [tryRules_nil] at h ⊢
    exact h
  | cons rule rest ih =>
    rw [tryRules_cons] at h ⊢
    rcases hskip : skipWhitespace rounds l with _ | ⟨e | u, l₁⟩
    · rw [hskip] at h
      cases h
    · rw [skipWhitespace_mono hmore hskip]
      rw [hskip] at h
      exact h
    · rw [skipWhitespace_mono hmore hskip]
      rw [hskip] at h
      simp only at h ⊢
      rcases hensure : ensureBuffered l₁ with _ | ⟨e | u, l₂⟩
      · rw [hensure] at h
        cases h
      · rw [hensure] at h
        exact h
      · rw [hensure] at h
        simp only at h ⊢
        by_cases hg : l₂.generation = generation
        · rw [if_neg (not_not_intro hg)] at h ⊢
          rcases hmatch : matchRule rule rounds l₂ with _ | ⟨e | _ | token, l₃⟩
          · rw [hmatch] at h
            cases h
          all_goals
            rw [matchRule_mono hmore hmatch]
            rw [hmatch] at h
          · exact h
          · exact ih h
          · exact h
        · rw [if_pos hg] at h ⊢
          exact h

theorem peekWithin_mono {rounds more n m : Nat} (hmore : rounds ≤ more) (hnm : n ≤ m)
    {l l' : Lexer σ ρ} {r : Except LexError (Option Token)}
    (h : peekWithin rounds n l = some (r, l')) : peekWithin more m l = some (r, l') := by
  induction n generalizing m l with
  | zero => cases h
  | succ n ih =>
    obtain ⟨m, rfl⟩ : ∃ k, m = k + 1 := ⟨m - 1, by omega⟩
    rw [peekWithin_succ] at h ⊢
    rcases hskip : skipWhitespace rounds l with _ | ⟨e | u, l₁⟩
    · rw [hskip] at h
      cases h
    · rw [skipWhitespace_mono hmore hskip]
      rw [hskip] at h
      exact h
    · rw [skipWhitespace_mono hmore hskip]
      rw [hskip] at h
      simp only at h ⊢
      rcases htry : tryRules rounds l₁.generation l₁.rules.rules l₁ with
        _ | ⟨e | token | _ | _, l₂⟩
      · rw [htry] at h
        cases h
      all_goals
        rw [tryRules_mono hmore htry]
        rw [htry] at h
      · exact h
      · exact h
      · exact ih (by omega) h
      · exact h

theorem scanWithin_mono {rounds more : Nat} (hmore : rounds ≤ more) {l l' : Lexer σ ρ}
    {r : Except LexError (Option Token)} (h : scanWithin rounds l = some (r, l')) :
    scanWithin more l = some (r, l') := by
  rw [scanWithin_eq] at h ⊢
  cases hpeek : peekWithin rounds rounds l with
  | none =>
    rw [hpeek] at h
    cases h
  | some p =>
    rw [hpeek] at h
    rw [peekWithin_mono hmore hmore hpeek]
    exact h

end More

/-! ### Rounds that suffice -/

section Finite

variable [FiniteSource σ] [TokenRule ρ]

theorem peek_eq (l : Lexer σ ρ) : peek l = peekWithin l.rounds l.rounds l := by
  rw [peek, LexM.get_bind]

theorem scan_eq (l : Lexer σ ρ) : scan l = scanWithin l.rounds l := by
  rw [scan, LexM.get_bind]

theorem collect_eq (l : Lexer σ ρ) : collect l = collectWithin l.rounds l.rounds l := by
  rw [collect, LexM.get_bind]

theorem recover_eq (most : Nat) (l : Lexer σ ρ) :
    recover most l = recoverWithin l.rounds most l := by
  rw [recover, LexM.get_bind]

end Finite

end Lexer

end RuleLexer
